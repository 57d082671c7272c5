import InfraReview.Json.Order
import InfraReview.Number.Numeral

/-!
# Faults of published reports

A report that is published is a document from elsewhere, so any part of it may have an
unexpected shape. Parts that count as nothing are as good as absent. Publishing breaks off
at a part that has no members, no items or no numbers where they are needed, and at one that
holds an integer that is too long where its text is needed.
-/

namespace InfraReview.GitHub

/-- Why a report cannot be published. -/
inductive Fault where
  | noMembers (sort : String)
  | notIterable (sort : String)
  | notSubscriptable (sort : String)
  | notSliceable
  | textIndex (sort : String)
  | listIndex (sort : String)
  | indexOutOfRange
  | indexTooLarge
  | unordered (pair : Json.Unordered)
  | numeral (fault : Numeral.Fault)
  | length (fault : LengthFault)
  deriving DecidableEq, Repr

/-- The message of a fault. -/
def Fault.message : Fault → String
  | .noMembers sort => "'" ++ sort ++ "' object has no attribute 'get'"
  | .notIterable sort => "'" ++ sort ++ "' object is not iterable"
  | .notSubscriptable sort => "'" ++ sort ++ "' object is not subscriptable"
  | .notSliceable => "unhashable type: 'slice'"
  | .textIndex sort => "string indices must be integers, not '" ++ sort ++ "'"
  | .listIndex sort => "list indices must be integers or slices, not " ++ sort
  | .indexOutOfRange => "list index out of range"
  | .indexTooLarge => "cannot fit 'int' into an index-sized integer"
  | .unordered pair =>
    "'<' not supported between instances of '" ++ pair.left ++ "' and '" ++ pair.right ++ "'"
  | .numeral fault => fault.message
  | .length fault => fault.message

/-- The text of a part. -/
def shown (part : Json) : Except Fault String := part.shown.mapError .length

/-- The digits of a number. -/
def digits (number : Int) : Except Fault String := shown (.int number)

/-- A part of a report that counts as nothing is replaced. -/
def orElse (document fallback : Json) : Json := if document.isVacant then fallback else document

/-- The members of a part. -/
def members : Json → Except Fault (List (String × Json))
  | .object members => .ok members
  | other => .error (.noMembers other.sortWord)

/-- The items of a part: those of a list, the names in a mapping or the characters of a
text. -/
def items : Json → Except Fault (List Json)
  | .array items => .ok items
  | .object members => .ok (members.map fun member => .string member.1)
  | .string text => .ok (text.toList.map fun c => .string (String.ofList [c]))
  | other => .error (.notIterable other.sortWord)

/-- The whole number of a part. -/
def wholeNumber : Json → Except Fault Int
  | .int value => .ok value
  | .bool value => .ok (Numeral.ofBool value)
  | .double value => (Numeral.ofDouble value).mapError .numeral
  | .string text => (Numeral.ofText text).mapError .numeral
  | other => .error (.numeral (.notANumber other.sortWord))

/-- The item of a list at an index, which counts from the end when it is negative. -/
def itemAt (items : List Json) (index : Int) : Except Fault Json :=
  if index < -(Nat.pow 2 63 : Int) || (Nat.pow 2 63 : Int) ≤ index then .error .indexTooLarge
  else
    let place := if index < 0 then index + items.length else index
    if place < 0 then .error .indexOutOfRange
    else
      match items[place.toNat]? with
      | some item => .ok item
      | none => .error .indexOutOfRange

/-- The item of a list that a part of a report stands for as an index. -/
def itemFor (items : List Json) : Json → Except Fault Json
  | .int index => itemAt items index
  | .bool index => itemAt items (Numeral.ofBool index)
  | other => .error (.listIndex other.sortWord)

/-- The member with a name, or another value when there is none. -/
def memberOr (members : List (String × Json)) (name : String) (fallback : Json) : Json :=
  (Json.member? members name).getD fallback

end InfraReview.GitHub
