import InfraReview.Number.Decimal
import InfraReview.Text.Display

/-!
# JSON documents

A document keeps what the text of it says: integers of any size stay apart from
doubles, and the members of an object stay in order. An object that was read from a
text has each name once; looking a name up takes its first occurrence.
-/

namespace InfraReview

/-- A JSON document. -/
inductive Json where
  | null
  | bool (value : Bool)
  | int (value : Int)
  | double (value : Double)
  | string (value : String)
  | array (items : List Json)
  | object (members : List (String × Json))

namespace Json

instance : Inhabited Json := ⟨.null⟩

/-- The word for a truth value in messages. -/
def boolWord (value : Bool) : String := if value then "True" else "False"

mutual

/-- What a document looks like in a message. -/
def display : Json → Text.Display
  | null => .word "None"
  | bool value => .word (boolWord value)
  | int value => .integer value
  | double value => .word value.text
  | string value => .text value
  | array items => .list (displayItems items)
  | object members => .map (displayMembers members)

/-- The looks of the items of an array. -/
def displayItems : List Json → List Text.Display
  | [] => []
  | item :: items => display item :: displayItems items

/-- The looks of the members of an object. -/
def displayMembers : List (String × Json) → List (Text.Display × Text.Display)
  | [] => []
  | (name, value) :: members => (.text name, display value) :: displayMembers members

end

/-- The text of a document in a message; a string stands there without quotes. There is none
when an integer in it is too long. -/
def shown (document : Json) : Except LengthFault String := document.display.written

@[simp] theorem shown_string (content : String) : (string content).shown = .ok content := rfl

/-- The word for the sort of a document in messages. -/
def sortWord : Json → String
  | null => "NoneType"
  | bool _ => "bool"
  | int _ => "int"
  | double _ => "float"
  | string _ => "str"
  | array _ => "list"
  | object _ => "dict"

/-- A value counts as nothing when it is null, false, zero or empty. -/
def isVacant : Json → Bool
  | null => true
  | bool value => !value
  | int value => value == 0
  | double (.finite _ m) => m.significand == 0
  | double _ => false
  | string value => value.isEmpty
  | array items => items.isEmpty
  | object members => members.isEmpty

/-- The member of an object with the given name. -/
def member? (members : List (String × Json)) (name : String) : Option Json :=
  members.lookup name

/-- The member of an object with the given name; null when there is none. -/
def member (members : List (String × Json)) (name : String) : Json :=
  (members.lookup name).getD .null

/-- Members after one more is written: a name that occurs keeps its place and takes the
new value, another one comes last. -/
def setMember (members : List (String × Json)) (name : String) (value : Json) :
    List (String × Json) :=
  match members with
  | [] => [(name, value)]
  | (other, current) :: rest =>
    if other = name then (name, value) :: rest
    else (other, current) :: setMember rest name value

end Json

end InfraReview
