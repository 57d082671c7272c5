import InfraReview.Analysis
import InfraReview.CommandLine.Reading
import InfraReview.CommandLine.Run
import InfraReview.Report.Outcome

/-!
# The review commands

The program analyzes an input and reports what it finds, or it lists the checks. Filters
that name nothing, a rejected configuration and a rejected input are refused with exit code
two, in this order. A report is printed or written to a file, and the exit code tells
whether its findings reach the threshold.
-/

namespace InfraReview.CommandLine

/-- The options of an analysis. Without a path, the current directory is analyzed. A format, a
threshold and each filter may have been given without a value. -/
structure AnalyzeOptions where
  path : FilePath
  planFile : Option FilePath
  tool : Plan.Tool
  format : Option OutputFormat
  output : Option NamedFile
  minSeverity : Option String
  pillars : List (Option String)
  rules : List (Option String)
  exclude : List (Option String)
  failOn : Option String
  configFile : Option FilePath
  deriving DecidableEq, Repr

/-- What the program is asked to do. -/
inductive ReviewCommand where
  | overview
  | analyze (options : AnalyzeOptions)
  | listRules (pillar : Option String)
  deriving DecidableEq, Repr

/-- A command and the level from which log entries are kept, unless it was left without a
value. -/
structure ReviewInvocation where
  logLevel : Option LogLevel
  command : ReviewCommand
  deriving DecidableEq, Repr

/-- What the program itself takes. -/
def reviewForm : Form where
  options := [⟨"--log-level", fun value => (LogLevel.ofName? (Text.upper value)).isSome⟩]
  operand := .command

/-- What an analysis takes. -/
def analyzeForm : Form where
  options := [
    { name := "--plan-file" },
    { name := "--terraform-bin" },
    ⟨"--format", fun value => (OutputFormat.ofName? value).isSome⟩,
    { name := "--output" },
    { name := "--min-severity" },
    { name := "--pillar" },
    { name := "--rule" },
    { name := "--exclude" },
    ⟨"--fail-on", fun value => Report.thresholds.contains (Text.lower value)⟩,
    { name := "--config" }]
  operand := .optional

/-- What the list of checks takes. -/
def listRulesForm : Form where
  options := [{ name := "--pillar" }]
  operand := .none

/-- The items of values that may hold several of them between commas, without white space
around them. Empty items do not count. -/
def splitValues (values : List String) : List String :=
  (values.flatMap fun value => (Text.splitAt ',' value).map Text.trim).filter (!·.isEmpty)

/-- The tool that an option names. -/
def toolOf : Option (Option String) → Plan.Tool
  | none => .named "terraform"
  | some none => .unnamed
  | some (some name) => .named name

/-- The options of an analysis that a reading gives. -/
def AnalyzeOptions.ofReading (reading : Reading) : AnalyzeOptions where
  path := FilePath.ofText (reading.operand.getD ".")
  planFile := (reading.value? "--plan-file").map FilePath.ofText
  tool := toolOf (reading.last? "--terraform-bin")
  format := ((reading.last? "--format").getD (some OutputFormat.table.name)).bind
    OutputFormat.ofName?
  output := (reading.last? "--output").map NamedFile.ofValue
  minSeverity := reading.value? "--min-severity"
  pillars := reading.all "--pillar"
  rules := reading.all "--rule"
  exclude := reading.all "--exclude"
  failOn := ((reading.last? "--fail-on").getD (some Report.failOnAny)).map Text.lower
  configFile :=
    ((reading.last? "--config").getD (some ReviewConfig.defaultFile)).map FilePath.ofText

/-- The command with a name and its arguments, and whether there is a surplus. -/
def readCommand (name : String) (arguments : List String) :
    Except Stop (ReviewCommand × Bool) :=
  if name = "analyze" then do
    let reading ← analyzeForm.read arguments
    .ok (.analyze (AnalyzeOptions.ofReading reading), reading.hasSurplus)
  else if name = "list-rules" then do
    let reading ← listRulesForm.read arguments
    .ok (.listRules (reading.value? "--pillar"), reading.hasSurplus)
  else .error .misuse

/-- What the arguments of the program ask for. -/
def ReviewInvocation.ofArguments (arguments : List String) : Except Stop ReviewInvocation := do
  let reading ← reviewForm.read arguments
  let (command, hasSurplus) ←
    match reading.command with
    | [] => .ok (.overview, false)
    | name :: rest => readCommand name rest
  let level :=
    ((reading.last? "--log-level").getD (some LogLevel.warning.name)).bind fun value =>
      LogLevel.ofName? (Text.upper value)
  if reading.hasSurplus || hasSurplus then .error .misuse else .ok ⟨level, command⟩

/-- What the value of an option is needed for. -/
inductive ValueUse where
  | logLevel
  | filter
  | format
  | threshold
  | output
  deriving DecidableEq, Repr

/-- The message when there is no value for a use. -/
def ValueUse.message : ValueUse → String
  | .logLevel => "attribute name must be string, not 'list'"
  | .filter => "'list' object has no attribute 'split'"
  | .format => OutputFormat.unknownMessage
  | .threshold => "'list' object has no attribute 'strip'"
  | .output => "'list' object has no attribute 'parent'"

/-- Why a review breaks off. -/
inductive ReviewFault where
  | analysis (fault : Analysis.Fault)
  | access (fault : AccessFault)
  | noValue (use : ValueUse)

/-- The message of such a fault. -/
def ReviewFault.message : ReviewFault → String
  | .analysis fault => fault.message
  | .access fault => fault.message
  | .noValue use => use.message

/-- The report about an analysis. -/
def reportOf (analysis : Analysis) : Report where
  findings := analysis.findings
  metadata := analysis.metadata
  totalResources := analysis.entityCount
  suppressedFindings := analysis.suppressed.length
  expired := analysis.expired
  activeChecks := analysis.activeChecks
  faults := analysis.faults.map CheckFault.text
  parseErrors := analysis.parseErrors.map Source.Error.message

/-- The analysis that options ask for, under filters. -/
def AnalyzeOptions.request (options : AnalyzeOptions) (files : FileSystem) (now : Moment)
    (filters : EngineConfig) : Except AccessFault AnalysisRequest := do
  .ok {
    path := ← files.resolve options.path
    planFile := ← options.planFile.mapM files.resolve
    filters := filters
    configFile := options.configFile
    tool := options.tool
    now := now }

/-- The exit code for findings and a threshold. -/
def exitCode (findings : List Finding) (failOn : String) : Nat :=
  if Report.shouldFail findings failOn then 1 else 0

/-- The end of a run that delivers a report in a format under a threshold, and the files after
it. -/
def deliver (files : FileSystem) (output : Option NamedFile) (format : Option OutputFormat)
    (failOn : Option String) (report : Report) : Except ReviewFault Ending × FileSystem :=
  match format, failOn with
  | none, _ => (.error (.noValue .format), files)
  | some _, none => (.error (.noValue .threshold), files)
  | some format, some failOn =>
    let text := report.render format ++ "\n"
    let code := exitCode report.findings failOn
    match output with
    | none => (.ok (.finished code text ""), files)
    | some .unnamed => (.error (.noValue .output), files)
    | some (.file path) =>
      match files.save path text with
      | .ok after => (.ok (.finished code "" ""), after)
      | .error fault => (.error (.access fault), files)

variable [Libraries]

/-- The run of an analysis under filters. -/
def runFiltered (world : World) (now : Moment) (options : AnalyzeOptions)
    (filters : EngineConfig) : Run ReviewFault :=
  match options.request world.files now filters with
  | .error fault => ⟨.error (.access fault), world.files, []⟩
  | .ok request =>
    let work := Analysis.run world request
    match work.result with
    | .error fault =>
      if fault.isRejection then ⟨.ok (.refused fault.message), world.files, work.log⟩
      else ⟨.error (.analysis fault), world.files, work.log⟩
    | .ok analysis =>
      let (ending, files) :=
        deliver world.files options.output options.format options.failOn (reportOf analysis)
      ⟨ending, files, work.log⟩

/-- The run of an analysis. -/
def runAnalyze (world : World) (now : Moment) (options : AnalyzeOptions) : Run ReviewFault :=
  match options.pillars.mapM id, options.rules.mapM id, options.exclude.mapM id with
  | some pillars, some rules, some exclude =>
    match EngineConfig.ofOptions options.minSeverity (splitValues pillars) (splitValues rules)
        (splitValues exclude) with
    | .error fault => ⟨.ok (.refused fault.message), world.files, []⟩
    | .ok filters => runFiltered world now options filters
  | _, _, _ => ⟨.error (.noValue .filter), world.files, []⟩

/-- The end of a run that lists the checks of a pillar, or all of them. -/
def listRules (pillar : Option String) : Ending :=
  let checks := Registry.builtin.allMetadata
  match pillar.filter (!·.isEmpty) with
  | none => .finished 0 (CheckMetadata.table checks ++ "\n") ""
  | some text =>
    match Pillar.parse? text with
    | none => .refused (Pillar.unknownMessage text)
    | some chosen =>
      .finished 0
        (CheckMetadata.table (checks.filter fun metadata => metadata.pillar == chosen) ++ "\n") ""

/-- The run of a command. -/
def runCommand (world : World) (now : Moment) : ReviewCommand → Run ReviewFault
  | .overview => ⟨.ok .overview, world.files, []⟩
  | .analyze options => runAnalyze world now options
  | .listRules pillar => ⟨.ok (listRules pillar), world.files, []⟩

/-- The run that the arguments of the program ask for. -/
def runReview (world : World) (now : Moment) (arguments : List String) : Run ReviewFault :=
  match ReviewInvocation.ofArguments arguments with
  | .error reason => ⟨.ok (.stopped reason), world.files, []⟩
  | .ok ⟨none, _⟩ => ⟨.error (.noValue .logLevel), world.files, []⟩
  | .ok ⟨some level, command⟩ =>
    let run := runCommand world now command
    { run with log := LogEntry.fromLevel level run.log }

end InfraReview.CommandLine
