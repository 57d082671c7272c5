import InfraReview.CommandLine.Publish
import InfraReview.CommandLine.Review
import InfraReview.CommandLine.Usage

/-!
# The programs

One executable serves as two programs: it publishes a report when its name says so, and
otherwise it reviews. Here the files that a run may look at are read from disk beforehand,
the run is carried out on them, and the files that it has changed are written back.

No other program is started from here, so the tool that shows binary plans is never found.
-/

namespace InfraReview.Program

/-- What is found at a path on disk. Below a directory only source files have a content, and
nothing is looked at that lies deeper than `depth`. -/
def readTree : Nat → Bool → String → IO (Option FileTree)
  | depth, asked, path => do
    try
      let place ← IO.FS.realPath path
      match (← place.metadata).type with
      | .file =>
        if asked || path.endsWith Source.suffix then
          return some (.file (← IO.FS.readBinFile path).toList)
        else return some (.file [])
      | .dir =>
        match depth with
        | 0 => return some (.directory [])
        | depth + 1 =>
          let mut entries := []
          for entry in ← place.readDir do
            match ← readTree depth false entry.path.toString with
            | some tree => entries := (entry.fileName, tree) :: entries
            | none => pure ()
          return some (.directory entries)
      | _ => return none
    catch _ => return none

/-- Files with what is found on disk at some names, unless it is known already. -/
def loadAt (files : FileSystem) (depth : Nat) (names : List String) : IO FileSystem := do
  if depth = 0 && (files.tree.node? names).isSome then return files
  match ← readTree depth true ("/" ++ "/".intercalate names) with
  | none => return files
  | some tree => return { files with tree := files.tree.put tree names }

/-- Files with what is found on disk at a path, and with the directories above it. -/
def load (files : FileSystem) (depth : Nat) (path : FilePath) : IO FileSystem := do
  let names := (path.resolve files.directory).components
  let mut loaded := files
  for length in List.range names.length do
    loaded ← loadAt loaded 0 (names.take length)
  loadAt loaded depth names

/-- The files that a run of the review program may look at. -/
def loadForReview (files : FileSystem) (arguments : List String) : IO FileSystem := do
  match CommandLine.ReviewInvocation.ofArguments arguments with
  | .ok ⟨_, .analyze options⟩ =>
    let mut loaded ← load files 64 options.path
    for path in options.configFile.toList ++ options.planFile.toList do
      loaded ← load loaded 0 path
    if let some (.file path) := options.output then
      loaded ← load loaded 0 path
    return loaded
  | _ => return files

/-- The files that a run of the publishing program may look at. -/
def loadForPublishing (files : FileSystem) (environment : Environment)
    (arguments : List String) : IO FileSystem := do
  match CommandLine.publishForm.read arguments with
  | .ok reading =>
    let options := CommandLine.PublishOptions.ofReading environment reading
    let mut loaded ← load files 0 options.report
    if let some (.file path) := options.summaryFile then
      loaded ← load loaded 0 path
    return loaded
  | .error _ => return files

/-- The present moment, taken from a file that is made for this. -/
def currentMoment : IO Moment := do
  let (_, path) ← IO.FS.createTempFile
  let seconds := (← path.metadata).modified.sec
  IO.FS.removeFile path
  return .ofEpochSeconds seconds.toNat

/-- Writes back the files that a run has changed. -/
def writeBack (before after : FileSystem) : IO Unit := do
  for (names, content) in FileTree.changesSince before.tree after.tree do
    IO.FS.createDirAll ("/" ++ "/".intercalate names.dropLast)
    IO.FS.writeBinFile ("/" ++ "/".intercalate names) ⟨content.toArray⟩

/-- Carries out what a run has come to, and gives the exit code. -/
def finish (before : FileSystem) (run : CommandLine.Run φ) (message : φ → String)
    (usage help : String) : IO UInt32 := do
  writeBack before run.files
  for entry in run.log do
    IO.eprintln entry.line
  match run.ending with
  | .error fault =>
    IO.eprintln (message fault)
    return 1
  | .ok (.stopped .help) | .ok .overview =>
    IO.print help
    return 0
  | .ok (.stopped .misuse) =>
    IO.eprint usage
    return 2
  | .ok (.finished code output complaint) =>
    IO.eprint complaint
    IO.print output
    return code.toUInt32

/-- The variables that a run may look at. -/
def readEnvironment : IO Environment := do
  let mut found : Environment := []
  for name in ["PATH", CommandLine.summaryVariable] do
    match ← IO.getEnv name with
    | some value => found := found.set name value
    | none => pure ()
  return found

end InfraReview.Program

open InfraReview Program in
/-- Runs the program that the name of the executable stands for. -/
def main (arguments : List String) : IO UInt32 := do
  let directory := (FilePath.ofText (← IO.currentDir).toString).components
  let files : FileSystem := ⟨.directory [], directory⟩
  let environment ← readEnvironment
  if ((← IO.appPath).fileName.getD "").endsWith "github" then
    let loaded ← loadForPublishing files environment arguments
    let run := CommandLine.runPublish ⟨loaded, environment, fun _ => .notFound⟩ arguments
    finish loaded run CommandLine.PublishFault.message CommandLine.publishUsage
      CommandLine.publishHelp
  else
    let loaded ← loadForReview files arguments
    let now ← currentMoment
    let run := CommandLine.runReview ⟨loaded, environment, fun _ => .notFound⟩ now arguments
    finish loaded run CommandLine.ReviewFault.message CommandLine.reviewUsage
      CommandLine.reviewHelp
