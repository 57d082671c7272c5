import InfraReview.Key

/-!
# Source values

What an expression in source text stands for before anything is decoded. An expression
that is no literal is a text, its quotes and all; a list or a map holds values. A map
lists its entries in order and has each key once, where keys are compared by what they
mean: a number and a truth value may be the same key.
-/

namespace InfraReview.Hcl

/-- A value in source text. -/
inductive Tree where
  | null
  | bool (value : Bool)
  | int (value : Int)
  | double (value : Double)
  | text (content : String)
  | list (items : List Tree)
  | map (entries : List (Key × Tree))

instance : Inhabited Tree := ⟨.null⟩

namespace Tree

mutual

/-- What a value looks like inside an expression or a message. -/
def display : Tree → Text.Display
  | null => .word "None"
  | bool value => .word (if value then "True" else "False")
  | int value => .integer value
  | double value => .word value.text
  | text content => .text content
  | list items => .list (displayItems items)
  | map entries => .map (displayEntries entries)

/-- The looks of items. -/
def displayItems : List Tree → List Text.Display
  | [] => []
  | item :: items => display item :: displayItems items

/-- The looks of entries. -/
def displayEntries : List (Key × Tree) → List (Text.Display × Text.Display)
  | [] => []
  | (key, value) :: entries => (key.display, display value) :: displayEntries entries

end

/-- The text of a value; a text stands there without quotes. The integers of source text are
never too long for it. -/
def shown (tree : Tree) : String := tree.display.plain

/-- Entries after one more is written: a key that occurs keeps its place and takes the
new value, another one comes last. -/
def setEntry (entries : List (Key × Tree)) (key : Key) (value : Tree) : List (Key × Tree) :=
  match entries with
  | [] => [(key, value)]
  | (other, current) :: rest =>
    if Key.same other key then (other, value) :: rest
    else (other, current) :: setEntry rest key value

/-- The value of a key that is a text. -/
def entry? (entries : List (Key × Tree)) (name : String) : Option Tree :=
  entries.lookup (.text name)

end Tree

end InfraReview.Hcl
