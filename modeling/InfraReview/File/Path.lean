import InfraReview.Text.Lines

/-!
# File paths

A path is what leads it and its components. Reading a path drops empty components and
single dots, but it keeps double dots: where they lead depends on the files. Only when a
path is resolved do they take the component before them away.

A path leads from the top when its text starts with a slash. Exactly two slashes are a
lead of their own, and three or more count as one.

Not every path can be followed: the character zero cannot stand in a name, and the length of
a name and of a whole path is limited.
-/

namespace InfraReview

/-- Where a path starts. -/
inductive PathLead where
  | here
  | top
  | doubleTop
  deriving DecidableEq, Repr

/-- The text of a lead. -/
def PathLead.text : PathLead → String
  | .here => ""
  | .top => "/"
  | .doubleTop => "//"

/-- A path to a file or a directory. -/
structure FilePath where
  lead : PathLead
  components : List String
  deriving DecidableEq, Repr

namespace FilePath

/-- The lead of a text. -/
def leadOf (text : String) : PathLead :=
  match (text.toList.takeWhile (· == '/')).length with
  | 0 => .here
  | 2 => .doubleTop
  | _ => .top

/-- The path that a text gives. -/
def ofText (text : String) : FilePath :=
  ⟨leadOf text, (Text.splitAt '/' text).filter fun component =>
    !component.isEmpty && component != "."⟩

/-- The text of a path; a dot when nothing else is left. -/
def text (path : FilePath) : String :=
  let text := path.lead.text ++ "/".intercalate path.components
  if text.isEmpty then "." else text

/-- The last component of a path. -/
def name (path : FilePath) : String := (path.components.getLast?).getD ""

/-- The end of a name from its last dot on. A dot in the first or the last place does not
count. -/
def suffixOf (name : String) : String :=
  let ending := name.toList.reverse.takeWhile (· != '.')
  if ending.isEmpty || name.toList.length ≤ ending.length + 1 then ""
  else String.ofList ('.' :: ending.reverse)

/-- The end of the last component of a path from its last dot on. -/
def suffix (path : FilePath) : String := suffixOf path.name

/-- A path without its last component. -/
def parent (path : FilePath) : FilePath := ⟨path.lead, path.components.dropLast⟩

/-- The path to something below a path. -/
def below (path : FilePath) (components : List String) : FilePath :=
  ⟨path.lead, path.components ++ components⟩

/-- True for a path without the character zero, which no name can hold. -/
def isSound (path : FilePath) : Bool :=
  path.components.all fun component => !component.toList.contains '\x00'

/-- True for a name of more than 255 bytes. -/
def isLongName (name : String) : Bool := 255 < name.utf8ByteSize

/-- True for a path of 4096 bytes or more. -/
def isLong (path : FilePath) : Bool := 4096 ≤ path.text.utf8ByteSize

/-- True for a path that starts at the place where it is used. -/
def isRelative (path : FilePath) : Bool := path.lead == .here

/-- The components that a list of them comes to after `place`, when a double dot takes away
the component before it. At the top there is none to take away. -/
def settle (place : List String) : List String → List String
  | [] => place
  | component :: components =>
    if component = ".." then settle place.dropLast components
    else settle (place ++ [component]) components

/-- The path from the top that a path used in a directory comes to. -/
def resolve (directory : List String) (path : FilePath) : FilePath :=
  ⟨.top, settle (if path.isRelative then directory else []) path.components⟩

end FilePath

end InfraReview
