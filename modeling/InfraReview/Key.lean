import InfraReview.Number.Decimal
import InfraReview.Text.Display

/-!
# Keys

The key of a map is nearly always a text, but source text can make a number, a truth value
or null one. Keys are compared by what they mean: a number and a truth value may be the
same key, and so may two numbers that are written differently.
-/

namespace InfraReview

/-- A key of a map. -/
inductive Key where
  | null
  | bool (value : Bool)
  | int (value : Int)
  | double (value : Double)
  | text (content : String)
  deriving DecidableEq

namespace Key

/-- The integer that a number or a truth value is, and nothing for any other key. -/
def integer? : Key → Option Int
  | bool value => some (if value then 1 else 0)
  | int value => some value
  | double value =>
    match value.toQuotient? with
    | some (numerator, denominator) =>
      if numerator % denominator = 0 then some (numerator / denominator) else none
    | none => none
  | _ => none

/-- Sameness of keys. -/
def same (left right : Key) : Bool :=
  match left.integer?, right.integer? with
  | some l, some r => l == r
  | none, none => left == right
  | _, _ => false

/-- What a key looks like in a message. -/
def display : Key → Text.Display
  | null => .word "None"
  | bool value => .word (if value then "True" else "False")
  | int value => .integer value
  | double value => .word value.text
  | text content => .text content

/-- The text of a key. -/
def shown (key : Key) : String := key.display.plain

/-- True for a key that is an integer too long to be written. -/
def isLong : Key → Bool
  | int value => InfraReview.isLong value
  | _ => false

theorem written_eq (key : Key) :
    key.display.written = if key.isLong then .error .written else .ok key.shown := by
  cases key <;> rfl

end Key

end InfraReview
