import InfraReview.Config
import InfraReview.File.Tree
import InfraReview.Libraries
import InfraReview.Logged

/-!
# Loading the suppression file

The suppression file is optional: where there is none, the configuration is empty, and so it
is when the document counts as nothing. A file that cannot be opened, that is no YAML or
whose content is flawed is *rejected*. A path that is too long, bytes that are no text, values
of YAML that break off, and integers that are too long are faults of another sort.
-/

namespace InfraReview.ReviewConfig

/-- Why a suppression file gives no configuration. -/
inductive Fault where
  | access (fault : AccessFault)
  | unreadable (path : FilePath)
  | encoding (fault : Text.DecodeFault)
  | malformed (path : FilePath)
  | value (fault : Yaml.Fault)
  | flawed (path : FilePath) (flaw : Flaw)
  | length (fault : LengthFault)
  deriving DecidableEq, Repr

/-- True for the faults that reject a file. -/
def Fault.isRejection : Fault → Bool
  | .unreadable _ | .malformed _ | .flawed _ _ => true
  | .access _ | .encoding _ | .value _ | .length _ => false

/-- The message of a fault. -/
def Fault.message : Fault → String
  | .access fault => fault.message
  | .unreadable path => "Failed to read configuration file " ++ path.text
  | .encoding fault => fault.message
  | .malformed path =>
    "Invalid YAML in configuration file " ++ path.text ++ ": " ++ Yaml.Fault.malformed.message
  | .value fault => fault.message
  | .flawed path flaw => flaw.message path.text
  | .length fault => fault.message

/-- The fault of a file whose data gives no configuration. -/
def Fault.ofDataFault (path : FilePath) : DataFault → Fault
  | .flawed flaw => .flawed path flaw
  | .length fault => .length fault

variable [Libraries]

/-- The configuration in the text of a file. -/
def ofText (path : FilePath) (content : List Char) : Except Fault ReviewConfig :=
  match Libraries.readData content with
  | .error .malformed => .error (.malformed path)
  | .error fault => .error (.value fault)
  | .ok found =>
    if found.store.isVacant found.root then .ok empty
    else (ofData found).mapError (.ofDataFault path)

/-- The configuration in a file, which need not be there. -/
def load (files : FileSystem) (path : FilePath) : Logged Fault ReviewConfig :=
  match files.contains path with
  | .error fault => .fail (.access fault)
  | .ok false =>
    ⟨.ok empty, [⟨.debug, "wa_review.config.loader", "No configuration file at " ++ path.text⟩]⟩
  | .ok true =>
    match files.readText path with
    | .error (.access _) => .fail (.unreadable path)
    | .error (.encoding fault) => .fail (.encoding fault)
    | .ok content => .ofExcept (ofText path content)

end InfraReview.ReviewConfig
