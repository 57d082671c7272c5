import InfraReview.Logged
import InfraReview.Text.Blank
import InfraReview.Text.Lines
import InfraReview.World

/-!
# Plan snapshots

A snapshot of a plan is a JSON document in bytes. It is the content of an exported file, or
it is what the tool that made a binary plan prints when it is asked to show it. Of the two
the exported file wins. The tool runs in a given directory, with the variables of the
program or with its search path alone; a variable that stops the tool from asking questions
is added, and others may be.
-/

namespace InfraReview.Plan

/-- The tool that shows binary plans. One that was asked for without a name shows as an empty
list. -/
inductive Tool where
  | named (name : String)
  | unnamed
  deriving DecidableEq, Repr

/-- The text of a tool. -/
def Tool.text : Tool → String
  | named name => name
  | unnamed => "[]"

/-- Where a snapshot comes from. -/
structure SnapshotSource where
  directory : FilePath
  exported : Option FilePath
  binary : Option FilePath
  tool : Tool
  added : Environment
  inherits : Bool
  deriving DecidableEq, Repr

/-- Why there is no snapshot. -/
inductive SnapshotFault where
  | nothingSupplied
  | noExported (path : FilePath)
  | unreadable (path : FilePath) (obstacle : Obstacle)
  | noBinary (path : FilePath)
  | noTool (tool : Tool)
  | unnamedTool
  | failed (command : String) (code : Int) (complaint : Option String)
  | noOutput (tool : Tool) (path : FilePath)
  | access (fault : AccessFault)
  deriving DecidableEq, Repr

/-- The message of a fault. -/
def SnapshotFault.message : SnapshotFault → String
  | .nothingSupplied => "No plan JSON artifact or plan file was supplied"
  | .noExported path => "Terraform plan JSON artifact not found: " ++ path.text
  | .unreadable path obstacle =>
    "Cannot read plan artifact " ++ path.text ++ ": " ++ obstacle.wording
  | .noBinary path => "Terraform plan file not found: " ++ path.text
  | .noTool tool => "Executable not found: " ++ tool.text
  | .unnamedTool => "sequence item 0: expected str instance, list found"
  | .failed command code complaint =>
    "'" ++ command ++ "' failed with exit code " ++ toString code
      ++ (complaint.map fun line => ": " ++ line).getD ""
  | .noOutput tool path => tool.text ++ " show produced no output for " ++ path.text
  | .access fault => fault.message

/-- True for the faults that are put down to the source. -/
def SnapshotFault.isRejection : SnapshotFault → Bool
  | .access _ | .unnamedTool => false
  | _ => true

/-- The name under which snapshots are noted. -/
def snapshotLogSource : String := "wa_review.adapters.plan_loader"

/-- The variables that a command is started with. -/
def SnapshotSource.environment (source : SnapshotSource) (world : World) : Environment :=
  let start :=
    if source.inherits then world.environment
    else [("PATH", (world.environment.lookup "PATH").getD "")]
  (start.set "TF_IN_AUTOMATION" "1").setAll source.added

/-- A source with paths from the top in the place of its own. -/
def SnapshotSource.resolved (source : SnapshotSource) (files : FileSystem) :
    Except AccessFault SnapshotSource := do
  .ok { source with
    directory := ← files.resolve source.directory
    exported := ← source.exported.mapM files.resolve
    binary := ← source.binary.mapM files.resolve }

/-- The command that shows a binary plan. -/
def SnapshotSource.showCommand (source : SnapshotSource) (world : World) (plan : FilePath) :
    Command where
  arguments := [source.tool.text, "show", "-json", plan.text]
  directory := source.directory
  environment := source.environment world

/-- The last line of what a failed command complains about, if there is one. -/
def lastComplaint (complaint : Option String) : Option String :=
  (Text.lines (Text.trim (complaint.getD ""))).getLast?

/-- The fault of a command that failed. It is told by the name of the tool. -/
def failureOf (tool : Tool) (code : Int) (complaint : Option String) : SnapshotFault :=
  match tool with
  | .named name => .failed (name ++ " show") code (lastComplaint complaint)
  | .unnamed => .unnamedTool

/-- The snapshot in what a command came to. -/
def ofCommandResult (tool : Tool) (plan : FilePath) :
    CommandResult → Except SnapshotFault (List UInt8)
  | .notFound => .error (.noTool tool)
  | .failed code complaint => .error (failureOf tool code complaint)
  | .finished output =>
    if (Text.trim output).isEmpty then .error (.noOutput tool plan)
    else .ok (Text.encodeUtf8 output)

/-- The snapshot in an exported file. -/
def readExported (files : FileSystem) (path : FilePath) :
    Logged SnapshotFault (List UInt8) :=
  match files.isFile path with
  | .error fault => .fail (.access fault)
  | .ok false => .fail (.noExported path)
  | .ok true =>
    ⟨(files.read path).mapError fun
        | .obstructed obstacle _ => .unreadable path obstacle
        | .unsound => .access .unsound,
      [⟨.debug, snapshotLogSource, "Reading plan snapshot " ++ path.text⟩]⟩

/-- The snapshot that the tool shows of a binary plan. -/
def showBinary (source : SnapshotSource) (world : World) (path : FilePath) :
    Logged SnapshotFault (List UInt8) :=
  match world.files.isFile path with
  | .error fault => .fail (.access fault)
  | .ok false => .fail (.noBinary path)
  | .ok true =>
    ⟨ofCommandResult source.tool path (world.run (source.showCommand world path)),
      [⟨.info, snapshotLogSource,
        "Rendering " ++ path.name ++ " with " ++ source.tool.text ++ " show -json"⟩]⟩

/-- The snapshot from a source. -/
def SnapshotSource.load (source : SnapshotSource) (world : World) :
    Logged SnapshotFault (List UInt8) :=
  match source.resolved world.files with
  | .error fault => .fail (.access fault)
  | .ok resolved =>
    match resolved.exported, resolved.binary with
    | some path, _ => readExported world.files path
    | none, some path => showBinary resolved world path
    | none, none => .fail .nothingSupplied

/-- The command that is started for a snapshot, if one is. -/
def SnapshotSource.command? (source : SnapshotSource) (world : World) : Option Command :=
  match source.resolved world.files with
  | .error _ => none
  | .ok resolved =>
    match resolved.exported, resolved.binary with
    | none, some path =>
      match world.files.isFile path with
      | .ok true => some (resolved.showCommand world path)
      | _ => none
    | _, _ => none

end InfraReview.Plan
