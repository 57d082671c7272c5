import InfraReview.Text.Hex
import InfraReview.Text.Lines
import InfraReview.Yaml.Node
import InfraReview.Yaml.Timestamp

/-!
# Tags of plain text

Plain text without a tag has the tag that its form calls for: a truth value, a number, a
date, the words for null, the merge key, the sign for the value of a mapping, or else
text. The forms exclude each other. One line end at the end does not count.
-/

namespace InfraReview.Yaml

/-- The words for truth values. -/
def truthWords : List String :=
  ["yes", "Yes", "YES", "no", "No", "NO", "true", "True", "TRUE", "false", "False", "FALSE", "on",
    "On", "ON", "off", "Off", "OFF"]

/-- The words for null; the empty text is one. -/
def nullWords : List String := ["~", "null", "Null", "NULL", ""]

/-- A text without the sign at its start. -/
def dropSign : List Char → List Char
  | '-' :: rest => rest
  | '+' :: rest => rest
  | text => text

/-- True for digits that may be grouped by underscores. -/
def isGrouped (isDigit : Char → Bool) (text : List Char) : Bool :=
  text.all fun c => isDigit c || c == '_'

/-- A decimal number: a digit, and then digits and underscores. -/
def isWholeNumber : List Char → Bool
  | [] => false
  | c :: rest => c.isDigit && isGrouped Char.isDigit rest

/-- A place of a number of base sixty after the first: at most two digits, below sixty. -/
def isSixtieth : List Char → Bool
  | [c] => c.isDigit
  | [c, d] => '0' ≤ c && c ≤ '5' && d.isDigit
  | _ => false

/-- A number of base sixty of at least two places, of which the first has a form. -/
def isSexagesimal (isFirst : List Char → Bool) (text : List Char) : Bool :=
  match Text.splitChars ':' text with
  | first :: second :: others => isFirst first && (second :: others).all isSixtieth
  | _ => false

/-- A whole number that does not begin with zero. -/
def isPositiveNumber (text : List Char) : Bool := isWholeNumber text && text.head? != some '0'

/-- The forms of an integer: base two, eight, ten, sixteen or sixty. -/
def isInteger (text : List Char) : Bool :=
  match dropSign text with
  | ['0'] => true
  | '0' :: 'b' :: digits => !digits.isEmpty && isGrouped (fun c => c == '0' || c == '1') digits
  | '0' :: 'x' :: digits => !digits.isEmpty && isGrouped (fun c => (Text.hexValue? c).isSome) digits
  | '0' :: digits => isGrouped (fun c => '0' ≤ c && c ≤ '7') digits
  | unsigned => isPositiveNumber unsigned || isSexagesimal isPositiveNumber unsigned

/-- What may follow the digits after a point: nothing, or an exponent with a sign. -/
def isExponent : List Char → Bool
  | [] => true
  | mark :: sign :: digits =>
    (mark == 'e' || mark == 'E') && (sign == '-' || sign == '+') && !digits.isEmpty
      && digits.all Char.isDigit
  | _ => false

/-- The digits after a point, grouped or not, with an exponent or without. -/
def isFraction (text : List Char) : Bool :=
  isExponent (text.dropWhile fun c => c.isDigit || c == '_')

/-- The forms of a number with a point, of the infinities, and of what is no number. -/
def isFloat (text : List Char) : Bool :=
  let unsigned := dropSign text
  let before := unsigned.takeWhile (· != '.')
  match unsigned.dropWhile (· != '.') with
  | [] => false
  | _ :: fraction =>
    if before.isEmpty then
      ["inf", "Inf", "INF"].any (·.toList == fraction)
        || (unsigned == text
          && (["nan", "NaN", "NAN"].any (·.toList == fraction)
            || (fraction.head?.any Char.isDigit && isFraction fraction)))
    else
      (isWholeNumber before && isFraction fraction)
        || (isSexagesimal isWholeNumber before && isGrouped Char.isDigit fraction)

/-- The form of a timestamp: a date alone needs two digits for its month and its day. -/
def isTimestamp (text : List Char) : Bool :=
  match Timestamp.read? text with
  | some timestamp => timestamp.padded || timestamp.clock.isSome
  | none => false

/-- A text of several characters without the line end that may be its last one. -/
def dropFinalBreak (text : List Char) : List Char :=
  if 1 < text.length && text.getLast? == some '\n' then text.dropLast else text

/-- The tag that the form of a plain text calls for. -/
def Tag.ofPlain (text : String) : Tag :=
  let characters := dropFinalBreak text.toList
  if truthWords.any (·.toList == characters) then .bool
  else if isFloat characters then .float
  else if isInteger characters then .int
  else if characters == ['<', '<'] then .merge
  else if nullWords.any (·.toList == characters) then .null
  else if isTimestamp characters then .timestamp
  else if characters == ['='] then .value
  else .text

end InfraReview.Yaml
