import InfraReview.CommandLine.Reading
import InfraReview.CommandLine.Run
import InfraReview.GitHub.Annotation
import InfraReview.GitHub.Summary
import InfraReview.Json.Reader
import InfraReview.World

/-!
# Publishing a report

A report in JSON is published as a summary, which is added to a file, and as annotations,
which are printed. The file is named by an option or by a variable; without either there is
no summary. A report without any text counts as one without parts. The file of the summary
is opened before the summary is put together, so that it is there even when that fails.
-/

namespace InfraReview.CommandLine

/-- What is to be published, and where its summary goes. -/
structure PublishOptions where
  report : FilePath
  summaryFile : Option NamedFile
  deriving DecidableEq, Repr

/-- What publishing takes. -/
def publishForm : Form where
  options := [{ name := "--summary-path" }]
  operand := .required

/-- The variable that names the file of the summary. -/
def summaryVariable : String := "GITHUB_STEP_SUMMARY"

/-- The options that a reading gives among variables. -/
def PublishOptions.ofReading (environment : Environment) (reading : Reading) :
    PublishOptions where
  report := FilePath.ofText (reading.operand.getD "")
  summaryFile :=
    ((reading.last? "--summary-path").or
      (((environment.lookup summaryVariable).filter (!·.isEmpty)).map some)).map NamedFile.ofValue

/-- Why publishing breaks off. -/
inductive PublishFault where
  | access (fault : AccessFault)
  | encoding (fault : Text.DecodeFault)
  | json (path : FilePath) (kind : Json.FaultKind)
  | length (fault : LengthFault)
  | unpairedHalf
  | notAnObject
  | report (fault : GitHub.Fault)
  | noSummaryName
  deriving DecidableEq, Repr

/-- The message of a fault. -/
def PublishFault.message : PublishFault → String
  | .access fault => fault.message
  | .encoding fault => fault.message
  | .json path kind =>
    "Failed to parse report JSON from '" ++ path.text ++ "': " ++ kind.message ++ "."
  | .length fault => fault.message
  | .unpairedHalf => Json.FaultKind.unpairedHalf.message
  | .notAnObject => "Report JSON must be an object."
  | .report fault => fault.message
  | .noSummaryName => "'list' object has no attribute 'parent'"

/-- The bytes of a file without a byte order mark. A mark that breaks off counts as
nothing. -/
def withoutMark (content : List UInt8) : List UInt8 :=
  match content with
  | 0xEF :: 0xBB :: 0xBF :: rest => rest
  | [0xEF, 0xBB] => []
  | [0xEF] => []
  | _ => content

/-- The fault of a file whose text is no document. -/
def PublishFault.ofKind (path : FilePath) : Json.FaultKind → PublishFault
  | .tooLong digits => .length (.read digits)
  | .unpairedHalf => .unpairedHalf
  | kind => .json path kind

/-- The report in a text. -/
def readReport (path : FilePath) (text : List Char) : Except PublishFault Json :=
  if text.all Text.isBlank then .ok (.object [])
  else
    match Json.read text with
    | .error fault => .error (.ofKind path fault.kind)
    | .ok (.object members) => .ok (.object members)
    | .ok _ => .error .notAnObject

/-- The report in a file. -/
def loadReport (files : FileSystem) (path : FilePath) : Except PublishFault Json :=
  match files.read path with
  | .error fault => .error (.access fault)
  | .ok content =>
    match Text.decodeUtf8 (withoutMark content) with
    | .error fault => .error (.encoding fault)
    | .ok text => readReport path (Text.uniformLineEnds text)

/-- The files after the summary of a report has been added to one, or the fault that
prevents it together with the files that it leaves. -/
def writeSummary (files : FileSystem) (report : Json) (path : FilePath) :
    Except PublishFault Unit × FileSystem :=
  match files.extend path "" with
  | .error fault => (.error (.access fault), files)
  | .ok opened =>
    match GitHub.summaryText report with
    | .error fault => (.error (.report fault), opened)
    | .ok text =>
      match opened.append path text with
      | .error fault => (.error (.access fault), opened)
      | .ok written => (.ok (), written)

/-- The end of a run that prints the annotations of a report. -/
def printAnnotations (report : Json) : Except PublishFault Ending :=
  match GitHub.annotations report with
  | .error fault => .error (.report fault)
  | .ok lines => .ok (.finished 0 (String.join (lines.map (· ++ "\n"))) "")

/-- The run that publishes a report. -/
def publish (files : FileSystem) (options : PublishOptions) : Run PublishFault :=
  match loadReport files options.report with
  | .error fault => ⟨.error fault, files, []⟩
  | .ok report =>
    match options.summaryFile with
    | none => ⟨printAnnotations report, files, []⟩
    | some .unnamed => ⟨.error .noSummaryName, files, []⟩
    | some (.file path) =>
      match writeSummary files report path with
      | (.error fault, after) => ⟨.error fault, after, []⟩
      | (.ok (), after) => ⟨printAnnotations report, after, []⟩

/-- The run that the arguments of the program ask for. -/
def runPublish (world : World) (arguments : List String) : Run PublishFault :=
  match publishForm.read arguments with
  | .error reason => ⟨.ok (.stopped reason), world.files, []⟩
  | .ok reading =>
    if reading.hasSurplus then ⟨.ok (.stopped .misuse), world.files, []⟩
    else publish world.files (PublishOptions.ofReading world.environment reading)

end InfraReview.CommandLine
