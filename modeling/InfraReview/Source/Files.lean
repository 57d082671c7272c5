import InfraReview.File.Tree
import InfraReview.Logged
import InfraReview.Source

/-!
# Source files

The source files of a directory are the files at any depth below it whose names end in the
suffix of source, except for those in the directories that tools keep for themselves. They
are listed by their components in the order of code points, which does not depend on the
order in which a directory lists its entries.

The walk goes from entry to entry below the directory. That the path to an entry may be too
long to be followed is left out of it; opening such a file says so.

Files are read one by one: a file that is rejected leaves its error behind, and the
entities of the other files are kept. Only literals that break off and paths that cannot be
paths end the whole reading.
-/

namespace InfraReview.Source

/-- The suffix of source files. -/
def suffix : String := ".tf"

/-- The directories that tools keep for themselves. -/
def skippedDirectories : List String := [".terraform", ".git"]

/-- True for the names that lead to a source file. -/
def isSource (names : List String) : Bool :=
  suffix.toList.isSuffixOf ((names.getLast?).getD "").toList
    && !names.any fun name => skippedDirectories.contains name

/-- Names stand before other ones when they are the start of them, or when the first name
in which they differ comes earlier. -/
def precedes : List String → List String → Bool
  | [], _ => true
  | _ :: _, [] => false
  | left :: lefts, right :: rights => left < right || (left == right && precedes lefts rights)

/-- The source files below a directory, in order. -/
def discover (files : FileSystem) (directory : FilePath) :
    Except AccessFault (List FilePath) := do
  if ← files.isDirectory directory then
    let tree ← files.find directory
    .ok ((((tree.fileNames).filter isSource).mergeSort precedes).map directory.below)
  else .ok []

/-- The name under which the reader of source files makes log entries. -/
def logSource : String := "wa_review.normalization.source_parser"

/-- Why the reading of files ends early. -/
inductive Interruption where
  | literal (fault : Hcl.LiteralFault)
  | access (fault : AccessFault)
  deriving DecidableEq, Repr

/-- The message of an interruption. -/
def Interruption.message : Interruption → String
  | .literal fault => fault.message
  | .access fault => fault.message

/-- Why a source file gives no entities. -/
inductive FileFault where
  | rejected (error : Error)
  | interrupted (interruption : Interruption)
  deriving DecidableEq, Repr

/-- A fault of the text of a file. -/
def FileFault.ofFault : Fault → FileFault
  | .rejected error => .rejected error
  | .broken fault => .interrupted (.literal fault)

variable [Libraries]

/-- The entities of a source file. -/
def readFile (files : FileSystem) (path : FilePath) : Logged FileFault (List Entity) :=
  match files.readText path with
  | .error (.access .unsound) => .fail (.interrupted (.access .unsound))
  | .error fault =>
    .fail (.rejected ⟨path.text, 0, "cannot read file: " ++ fault.message⟩)
  | .ok content => do
    let entities ←
      (⟨(read content path.text).mapError FileFault.ofFault, readLog content⟩ :
        Logged FileFault (List Entity))
    Logged.note [⟨.debug, logSource,
      "Parsed " ++ toString entities.length ++ " entities from " ++ path.text⟩]
    pure entities

/-- What several files come to: their names as they were given, the entities of those that
were read, and the errors of the others. -/
structure Reading where
  files : List String
  entities : List Entity
  errors : List Error

/-- True when no file was rejected. -/
def Reading.isClean (reading : Reading) : Bool := reading.errors.isEmpty

/-- A reading of one more file before the others. -/
def Reading.add (name : String) (found : Except Error (List Entity)) (others : Reading) :
    Reading :=
  match found with
  | .ok entities => ⟨name :: others.files, entities ++ others.entities, others.errors⟩
  | .error error => ⟨name :: others.files, others.entities, error :: others.errors⟩

/-- The outcome of a single file, when it does not end the whole reading. A file that is
rejected is noted. -/
def attempt (files : FileSystem) (name : String) :
    Logged Interruption (Except Error (List Entity)) :=
  let work := readFile files (FilePath.ofText name)
  match work.result with
  | .ok entities => ⟨.ok (.ok entities), work.log⟩
  | .error (.interrupted interruption) => ⟨.error interruption, work.log⟩
  | .error (.rejected error) =>
    ⟨.ok (.error error),
      work.log ++ [⟨.warning, logSource, "Skipping " ++ name ++ ": " ++ error.reason⟩]⟩

/-- The reading of files with given names, in order. -/
def readFiles (files : FileSystem) : List String → Logged Interruption Reading
  | [] => pure ⟨[], [], []⟩
  | name :: names => do
    let found ← attempt files name
    let others ← readFiles files names
    pure (others.add name found)

/-- The reading of the source files below a directory. -/
def readDirectory (files : FileSystem) (directory : FilePath) :
    Logged Interruption Reading := do
  let found ← Logged.ofExcept ((discover files directory).mapError Interruption.access)
  readFiles files (found.map FilePath.text)

end InfraReview.Source
