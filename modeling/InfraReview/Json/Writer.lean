import InfraReview.Json.Basic
import InfraReview.Text.Hex

/-!
# Writing JSON text

Strings are written in ASCII: whatever is not a printable ASCII character, the quote
or the backslash is escaped, a character beyond sixteen bits as two code units. The
laid-out form puts each item and member on a line of its own, indented by two blanks
a level; an empty container stays on one line. The compact form has no white space.
-/

namespace InfraReview.Json

/-- A code unit as an escape. -/
def unitEscape (unit : Nat) : List Char := '\\' :: 'u' :: Text.hexDigits 4 unit

/-- A character inside quotes. -/
def escapeChar (c : Char) : List Char :=
  let code := c.toNat
  if c = '"' then ['\\', '"']
  else if c = '\\' then ['\\', '\\']
  else if c = '\n' then ['\\', 'n']
  else if c = '\r' then ['\\', 'r']
  else if c = '\t' then ['\\', 't']
  else if code = 0x08 then ['\\', 'b']
  else if code = 0x0C then ['\\', 'f']
  else if 0x20 ≤ code && code < 0x7F then [c]
  else if code < 0x10000 then unitEscape code
  else
    unitEscape (0xD800 + (code - 0x10000) / 0x400) ++
      unitEscape (0xDC00 + (code - 0x10000) % 0x400)

/-- A string between quotes. -/
def writeString (text : String) : String :=
  String.ofList ('"' :: text.toList.flatMap escapeChar ++ ['"'])

/-- A double; the three without digits have words. -/
def writeDouble : Double → String
  | .nan => "NaN"
  | .infinity negative => if negative then "-Infinity" else "Infinity"
  | value => value.text

/-- A line feed and the indentation of a level. -/
def lineBreak (level : Nat) : String :=
  String.ofList ('\n' :: List.replicate (2 * level) ' ')

mutual

/-- A document laid out on lines, at a level of indentation. -/
def layOutAt (level : Nat) : Json → String
  | null => "null"
  | bool value => if value then "true" else "false"
  | int value => toString value
  | double value => writeDouble value
  | string value => writeString value
  | array [] => "[]"
  | array (item :: items) =>
    "[" ++ lineBreak (level + 1) ++ layOutAt (level + 1) item ++ layOutItems (level + 1) items
      ++ lineBreak level ++ "]"
  | object [] => "\x7b\x7d"
  | object ((name, value) :: members) =>
    "\x7b" ++ lineBreak (level + 1) ++ writeString name ++ ": " ++ layOutAt (level + 1) value
      ++ layOutMembers (level + 1) members ++ lineBreak level ++ "\x7d"

/-- The items after the first one, each on a line of its own. -/
def layOutItems (level : Nat) : List Json → String
  | [] => ""
  | item :: items => "," ++ lineBreak level ++ layOutAt level item ++ layOutItems level items

/-- The members after the first one, each on a line of its own. -/
def layOutMembers (level : Nat) : List (String × Json) → String
  | [] => ""
  | (name, value) :: members =>
    "," ++ lineBreak level ++ writeString name ++ ": " ++ layOutAt level value
      ++ layOutMembers level members

end

/-- A document laid out on lines. -/
def layOut (document : Json) : String := layOutAt 0 document

mutual

/-- A document without white space. -/
def compact : Json → String
  | null => "null"
  | bool value => if value then "true" else "false"
  | int value => toString value
  | double value => writeDouble value
  | string value => writeString value
  | array items => "[" ++ compactItems items ++ "]"
  | object members => "\x7b" ++ compactMembers members ++ "\x7d"

/-- Items with a comma between them. -/
def compactItems : List Json → String
  | [] => ""
  | [item] => compact item
  | item :: items => compact item ++ "," ++ compactItems items

/-- Members with a comma between them. -/
def compactMembers : List (String × Json) → String
  | [] => ""
  | [(name, value)] => writeString name ++ ":" ++ compact value
  | (name, value) :: members =>
    writeString name ++ ":" ++ compact value ++ "," ++ compactMembers members

end

end InfraReview.Json
