import InfraReview.Number.Double
import InfraReview.Number.Length
import InfraReview.Text.Blank
import InfraReview.Text.Digit
import InfraReview.Text.Quoted

/-!
# Integer numerals

A numeral is an integer written by a person: white space may surround it, a sign may
lead it, its digits may come from any script, and a single underscore may stand
between two digits. Nothing else is a numeral; an empty text is none. In a base other
than ten, letters go on after the nine, and the mark of the base may stand before the
digits, itself followed by an underscore or not. In base ten only so many digits are read,
zeros at the front included; whether a text has too many is found out before what follows them
is looked at.

Where data of any sort is asked for an integer, a text has to be a numeral, a truth value
is one or zero, and a double gives its whole part. The faults say why there is none.
-/

namespace InfraReview.Numeral

/-- The value of a digit in a base: a decimal digit of any script or a letter. -/
def digitIn? (base : Nat) (c : Char) : Option Nat :=
  let value :=
    match Text.digitValue? c with
    | some value => some value
    | none =>
      if 'a' ≤ c && c ≤ 'z' then some (c.toNat - 'a'.toNat + 10)
      else if 'A' ≤ c && c ≤ 'Z' then some (c.toNat - 'A'.toNat + 10)
      else none
  value.filter (· < base)

/-- The value of digits with single underscores between them, read after a first
digit. -/
def readAfterDigit (base value : Nat) : List Char → Option Nat
  | [] => some value
  | '_' :: c :: rest =>
    (digitIn? base c).bind fun digit => readAfterDigit base (base * value + digit) rest
  | c :: rest =>
    (digitIn? base c).bind fun digit => readAfterDigit base (base * value + digit) rest

/-- The value of digits with single underscores between them. -/
def readUnsigned (base : Nat) : List Char → Option Nat
  | [] => none
  | c :: rest => (digitIn? base c).bind fun digit => readAfterDigit base digit rest

/-- The letters that mark a base. -/
def baseMarks : Nat → List Char
  | 2 => ['b', 'B']
  | 8 => ['o', 'O']
  | 16 => ['x', 'X']
  | _ => []

/-- Digits without the mark of their base, if it stands before them. -/
def dropMark (base : Nat) : List Char → List Char
  | '0' :: c :: rest =>
    if (baseMarks base).contains c then
      match rest with
      | '_' :: digits => digits
      | digits => digits
    else '0' :: c :: rest
  | text => text

/-- The integer that a numeral of a base stands for. -/
def readIn (base : Nat) (text : List Char) : Option Int :=
  match Text.trimNumberChars text with
  | '-' :: rest => (readUnsigned base (dropMark base rest)).map fun n => -(n : Int)
  | '+' :: rest => (readUnsigned base (dropMark base rest)).map fun n => (n : Int)
  | rest => (readUnsigned base (dropMark base rest)).map fun n => (n : Int)

/-- The number of digits in a row from a place on, after `count` of them. There is none when an
underscore among them stands before no digit. -/
def runLengthFrom (base count : Nat) : List Char → Option Nat
  | [] => some count
  | '_' :: rest =>
    match rest with
    | c :: rest => if (digitIn? base c).isSome then runLengthFrom base (count + 1) rest else none
    | [] => none
  | c :: rest =>
    if (digitIn? base c).isSome then runLengthFrom base (count + 1) rest else some count

/-- The number of digits in a row at the start of a text, which is no underscore. -/
def runLength (base : Nat) : List Char → Option Nat
  | '_' :: _ => none
  | text => runLengthFrom base 0 text

/-- A text without the sign that leads it. -/
def dropSign : List Char → List Char
  | '-' :: rest => rest
  | '+' :: rest => rest
  | text => text

/-- The number of digits of a text in a base, when there are too many of them. Only base ten has
a limit. -/
def excess? (base : Nat) (text : List Char) : Option Nat :=
  if base = 10 then
    (runLength base (dropSign (Text.trimNumberChars text))).filter (maxDigits < ·)
  else none

/-- Why data has no integer. -/
inductive Fault where
  | length (fault : LengthFault)
  | notANumeral (base : Nat) (text : String)
  | notANumber (sort : String)
  | noWholePart (reason : Double.NoWholePart)
  deriving DecidableEq, Repr

/-- The message of such a fault. A text is shown by the first two hundred characters of
its quoted form. -/
def Fault.message : Fault → String
  | .length fault => fault.message
  | .notANumeral base text =>
    "invalid literal for int() with base " ++ toString base ++ ": "
      ++ String.ofList ((Text.quoted text).toList.take 200)
  | .notANumber sort =>
    "int() argument must be a string, a bytes-like object or a real number, not '" ++ sort ++ "'"
  | .noWholePart .nan => "cannot convert float NaN to integer"
  | .noWholePart .infinity => "cannot convert float infinity to integer"

/-- The integer of a text in a base. -/
def ofTextIn (base : Nat) (text : String) : Except Fault Int :=
  match excess? base text.toList with
  | some digits => .error (.length (.read digits))
  | none =>
    match readIn base text.toList with
    | some value => .ok value
    | none => .error (.notANumeral base text)

/-- The integer of a text. -/
def ofText (text : String) : Except Fault Int := ofTextIn 10 text

/-- The integer of a truth value. -/
def ofBool (value : Bool) : Int := if value then 1 else 0

/-- The integer of a double. -/
def ofDouble (value : Double) : Except Fault Int := value.truncate.mapError .noWholePart

end InfraReview.Numeral
