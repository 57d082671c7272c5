import InfraReview.Json.Basic

/-!
# Order of JSON documents

Numbers are ordered by their value, whatever they are written as, and the truth values count
as zero and one. Texts are ordered by code points, and arrays by their first difference, a
shorter one coming first when there is none. No other two documents have an order. What is no
number comes neither before nor after anything, yet it is the same as itself.
-/

namespace InfraReview.Json

/-- Where a number is in the order of numbers. -/
inductive Place where
  | quotient (numerator : Int) (denominator : Nat)
  | infinity (negative : Bool)
  | nowhere

/-- True when one place comes before another. -/
def Place.isBefore : Place → Place → Bool
  | .nowhere, _ => false
  | _, .nowhere => false
  | .infinity left, .infinity right => left && !right
  | .infinity left, .quotient _ _ => left
  | .quotient _ _, .infinity right => !right
  | .quotient a b, .quotient c d => a * d < c * b

/-- True when two places are the same. -/
def Place.same : Place → Place → Bool
  | .nowhere, .nowhere => true
  | .infinity left, .infinity right => left == right
  | .quotient a b, .quotient c d => a * d == c * b
  | _, _ => false

/-- The place of a double. -/
def placeOfDouble : Double → Place
  | .nan => .nowhere
  | .infinity negative => .infinity negative
  | value =>
    match value.toQuotient? with
    | some (numerator, denominator) => .quotient numerator denominator
    | none => .nowhere

/-- The place of a number or a truth value. -/
def place? : Json → Option Place
  | int value => some (.quotient value 1)
  | bool value => some (.quotient (if value then 1 else 0) 1)
  | double value => some (placeOfDouble value)
  | _ => none

mutual

/-- Equality of meaning. -/
def same : Json → Json → Bool
  | array left, array right => sameItems left right
  | object left, object right => left.length == right.length && sameMembers left right
  | null, null => true
  | string left, string right => left == right
  | left, right =>
    match left.place?, right.place? with
    | some a, some b => a.same b
    | _, _ => false

/-- Equality of meaning, item by item. -/
def sameItems : List Json → List Json → Bool
  | [], [] => true
  | left :: lefts, right :: rights => same left right && sameItems lefts rights
  | _, _ => false

/-- True when every member on the left has its equal under the same name on the right. -/
def sameMembers : List (String × Json) → List (String × Json) → Bool
  | [], _ => true
  | (name, left) :: lefts, rights =>
    (match rights.lookup name with
      | some right => same left right
      | none => false) && sameMembers lefts rights

end

/-- Two documents of which neither comes before the other, by the words for their sorts. -/
structure Unordered where
  left : String
  right : String
  deriving DecidableEq, Repr

mutual

/-- True when one document comes before another. -/
def isBefore : Json → Json → Except Unordered Bool
  | array left, array right => isBeforeItems left right
  | string left, string right => .ok (left < right)
  | left, right =>
    match left.place?, right.place? with
    | some a, some b => .ok (a.isBefore b)
    | _, _ => .error ⟨left.sortWord, right.sortWord⟩

/-- True when one list of items comes before another. -/
def isBeforeItems : List Json → List Json → Except Unordered Bool
  | [], rights => .ok (!rights.isEmpty)
  | _ :: _, [] => .ok false
  | left :: lefts, right :: rights =>
    if same left right then isBeforeItems lefts rights else isBefore left right

end

end InfraReview.Json
