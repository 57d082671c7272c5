import InfraReview.File.Path
import InfraReview.Text.Encoding
import InfraReview.Text.Quoted

/-!
# Files

A file system is a tree of directories with files at its ends, together with the directory
in which relative paths start. Following a path goes through the tree one component at a
time: every component but the last has to be a directory, and a double dot leads back to
the directory above. The operations either succeed or say what is in their way, and a
failed one changes nothing. A path that no name can lead along is not even tried.

There are no links, and no rights to read or write are missing.
-/

namespace InfraReview

/-- A file with its content, or a directory with its entries. -/
inductive FileTree where
  | file (content : List UInt8)
  | directory (entries : List (String × FileTree))

namespace FileTree

/-- The tree under a name in a directory. -/
def child? (tree : FileTree) (name : String) : Option FileTree :=
  match tree with
  | .file _ => none
  | .directory entries => entries.lookup name

/-- True for a file. -/
def isFile : FileTree → Bool
  | .file _ => true
  | .directory _ => false

/-- True for a directory. -/
def isDirectory : FileTree → Bool
  | .file _ => false
  | .directory _ => true

/-- The tree at the end of a list of names. -/
def node? (tree : FileTree) : List String → Option FileTree
  | [] => some tree
  | name :: names => (tree.child? name).bind fun child => child.node? names

/-- The entries after the tree under a name has been changed. A name that is not there is
added, and what is changed is then an empty directory. -/
def alter (change : FileTree → FileTree) (name : String) :
    List (String × FileTree) → List (String × FileTree)
  | [] => [(name, change (.directory []))]
  | (other, tree) :: entries =>
    if other = name then (other, change tree) :: entries
    else (other, tree) :: alter change name entries

/-- A tree after another one has been put at the end of a list of names. Directories on the
way are added where they are missing; below a file nothing can be put. -/
def put : FileTree → FileTree → List String → FileTree
  | _, node, [] => node
  | .file content, _, _ :: _ => .file content
  | .directory entries, node, name :: names =>
    .directory (alter (fun tree => put tree node names) name entries)

mutual

/-- The names that lead to each file of a tree. -/
def fileNames : FileTree → List (List String)
  | .file _ => [[]]
  | .directory entries => fileNamesIn entries

/-- The names that lead to each file below entries. -/
def fileNamesIn : List (String × FileTree) → List (List String)
  | [] => []
  | (name, tree) :: entries => (fileNames tree).map (name :: ·) ++ fileNamesIn entries

end

/-- The content of the file at the end of a list of names. -/
def content? (tree : FileTree) (names : List String) : Option (List UInt8) :=
  match tree.node? names with
  | some (.file content) => some content
  | _ => none

/-- The files of a tree that are not in an earlier one, or not with the same content, each
with the names that lead to it. -/
def changesSince (before after : FileTree) : List (List String × List UInt8) :=
  after.fileNames.filterMap fun names =>
    (after.content? names).bind fun content =>
      if before.content? names = some content then none else some (names, content)

end FileTree

/-- What is in the way of an operation on files. -/
inductive Obstacle where
  | missing
  | alreadyThere
  | notADirectory
  | isADirectory
  | nameTooLong
  deriving DecidableEq, Repr

/-- The number of an obstacle. -/
def Obstacle.number : Obstacle → Nat
  | .missing => 2
  | .alreadyThere => 17
  | .notADirectory => 20
  | .isADirectory => 21
  | .nameTooLong => 36

/-- The wording of an obstacle. -/
def Obstacle.wording : Obstacle → String
  | .missing => "No such file or directory"
  | .alreadyThere => "File exists"
  | .notADirectory => "Not a directory"
  | .isADirectory => "Is a directory"
  | .nameTooLong => "File name too long"

/-- A failed operation: an obstacle on the way along a path, or a path that cannot be one. -/
inductive AccessFault where
  | obstructed (obstacle : Obstacle) (path : FilePath)
  | unsound
  deriving DecidableEq, Repr

/-- The message of a failed operation. -/
def AccessFault.message : AccessFault → String
  | .obstructed obstacle path =>
    "[Errno " ++ toString obstacle.number ++ "] " ++ obstacle.wording ++ ": "
      ++ Text.quoted path.text
  | .unsound => "embedded null byte"

/-- A tree of files and the names that lead to the directory in which relative paths
start. -/
structure FileSystem where
  tree : FileTree
  directory : List String

namespace FileSystem

/-- The names from the top that components lead to, starting from the names `place`. What
the last component names need not be there. -/
def follow (tree : FileTree) (place : List String) : List String → Except Obstacle (List String)
  | [] => .ok place
  | component :: components =>
    match tree.node? place with
    | none => .error .missing
    | some (.file _) => .error .notADirectory
    | some (.directory _) =>
      if FilePath.isLongName component then .error .nameTooLong
      else
        follow tree (if component = ".." then place.dropLast else place ++ [component]) components

/-- The names from the top that a path leads to. -/
def place (files : FileSystem) (path : FilePath) : Except AccessFault (List String) :=
  if !path.isSound then .error .unsound
  else if path.isLong then .error (.obstructed .nameTooLong path)
  else
    (follow files.tree (if path.isRelative then files.directory else []) path.components).mapError
      fun obstacle => .obstructed obstacle path

/-- What a path leads to. -/
def find (files : FileSystem) (path : FilePath) : Except AccessFault FileTree := do
  match files.tree.node? (← files.place path) with
  | none => .error (.obstructed .missing path)
  | some tree => .ok tree

/-- Whether a path leads to something that has a property. One that leads nowhere does not, but
nothing can be said about a path with a name that is too long. -/
def leadsTo (files : FileSystem) (property : FileTree → Bool) (path : FilePath) :
    Except AccessFault Bool :=
  match files.find path with
  | .ok tree => .ok (property tree)
  | .error (.obstructed .nameTooLong path) => .error (.obstructed .nameTooLong path)
  | .error _ => .ok false

/-- Whether a path leads to something. -/
def contains (files : FileSystem) (path : FilePath) : Except AccessFault Bool :=
  files.leadsTo (fun _ => true) path

/-- Whether a path leads to a file. -/
def isFile (files : FileSystem) (path : FilePath) : Except AccessFault Bool :=
  files.leadsTo FileTree.isFile path

/-- Whether a path leads to a directory. -/
def isDirectory (files : FileSystem) (path : FilePath) : Except AccessFault Bool :=
  files.leadsTo FileTree.isDirectory path

/-- The path from the top that a path comes to, which need not lead to anything. -/
def resolve (files : FileSystem) (path : FilePath) : Except AccessFault FilePath :=
  if path.isSound then .ok (path.resolve files.directory) else .error .unsound

/-- The content of a file. -/
def read (files : FileSystem) (path : FilePath) : Except AccessFault (List UInt8) := do
  match ← files.find path with
  | .file content => .ok content
  | .directory _ => .error (.obstructed .isADirectory path)

/-- The files after the content of one, which is empty when it is not there yet, has been
changed. -/
def modify (files : FileSystem) (path : FilePath) (change : List UInt8 → List UInt8) :
    Except AccessFault FileSystem := do
  let place ← files.place path
  match files.tree.node? place with
  | some (.directory _) => .error (.obstructed .isADirectory path)
  | some (.file content) =>
    .ok { files with tree := files.tree.put (.file (change content)) place }
  | none => .ok { files with tree := files.tree.put (.file (change [])) place }

/-- The files after one has been written anew. -/
def write (files : FileSystem) (path : FilePath) (text : String) :
    Except AccessFault FileSystem :=
  files.modify path fun _ => Text.encodeUtf8 text

/-- The files after a text has been added at the end of one. -/
def append (files : FileSystem) (path : FilePath) (text : String) :
    Except AccessFault FileSystem :=
  files.modify path fun content => content ++ Text.encodeUtf8 text

/-- The files after a directory has been made in one that is there. -/
def makeDirectory (files : FileSystem) (path : FilePath) : Except AccessFault FileSystem := do
  let place ← files.place path
  match files.tree.node? place with
  | some _ => .error (.obstructed .alreadyThere path)
  | none => .ok { files with tree := files.tree.put (.directory []) place }

/-- A directory that cannot be made because it is there already is as good as made. -/
def acceptDirectory (files : FileSystem) (path : FilePath) (fault : AccessFault) :
    Except AccessFault FileSystem :=
  match files.isDirectory path with
  | .ok true => .ok files
  | _ => .error fault

/-- True for the fault of a missing directory on the way. -/
def isMissing : AccessFault → Bool
  | .obstructed .missing _ => true
  | _ => false

/-- The files after a directory has been made, and before it those above it that are
missing. -/
def makeDirectories (files : FileSystem) (path : FilePath) : Except AccessFault FileSystem :=
  match files.makeDirectory path with
  | .ok after => .ok after
  | .error fault =>
    if isMissing fault then
      if path.components.isEmpty then .error fault
      else
        match makeDirectories files path.parent with
        | .error above => .error above
        | .ok after =>
          match after.makeDirectory path with
          | .ok made => .ok made
          | .error fault =>
            if isMissing fault then .error fault else after.acceptDirectory path fault
    else files.acceptDirectory path fault
  termination_by path.components.length
  decreasing_by
    rename_i nonempty
    simp only [FilePath.parent, List.length_dropLast]
    have : path.components ≠ [] := by simpa using nonempty
    have := List.length_pos_iff.mpr this
    omega

/-- The files after one has been written anew in a directory that is made where it is
missing. -/
def save (files : FileSystem) (path : FilePath) (text : String) :
    Except AccessFault FileSystem := do
  let after ← files.makeDirectories path.parent
  after.write path text

/-- The files after a text has been added at the end of one in a directory that is made
where it is missing. -/
def extend (files : FileSystem) (path : FilePath) (text : String) :
    Except AccessFault FileSystem := do
  let after ← files.makeDirectories path.parent
  after.append path text

end FileSystem

/-- Why a file gives no text. -/
inductive TextFault where
  | access (fault : AccessFault)
  | encoding (fault : Text.DecodeFault)
  deriving DecidableEq, Repr

/-- The message of such a fault. -/
def TextFault.message : TextFault → String
  | .access fault => fault.message
  | .encoding fault => fault.message

/-- The text of a file, with uniform line ends. -/
def FileSystem.readText (files : FileSystem) (path : FilePath) : Except TextFault (List Char) :=
  match files.read path with
  | .error fault => .error (.access fault)
  | .ok content =>
    match Text.decodeUtf8 content with
    | .error fault => .error (.encoding fault)
    | .ok text => .ok (Text.uniformLineEnds text)

end InfraReview
