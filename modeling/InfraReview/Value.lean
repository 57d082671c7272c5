import InfraReview.Json.Basic

/-!
# Attribute values

An attribute holds a text, a truth value, a number, a list or a map, and never null.
Freezing turns a JSON document into a value: every number becomes a double, and null
items and null members are left out at every depth. It fails at a null on its own,
which has no value, and at an integer beyond the range of doubles.

Comparison takes values for what they mean: a map has no order, the two zeros are
equal, and a truth value equals the number one or zero.
-/

namespace InfraReview

/-- The value of an attribute. -/
inductive Value where
  | text (content : String)
  | bool (value : Bool)
  | number (value : Double)
  | list (items : List Value)
  | map (entries : List (String × Value))

/-- The five sorts of values. -/
inductive ValueKind where
  | string
  | bool
  | number
  | list
  | map
  deriving DecidableEq, Repr

/-- The name of a sort of values. -/
def ValueKind.name : ValueKind → String
  | .string => "string"
  | .bool => "bool"
  | .number => "number"
  | .list => "list"
  | .map => "map"

/-- Why a document has no value. -/
inductive ValueFault where
  | nullValue
  | tooLarge
  deriving DecidableEq, Repr

/-- The message of such a fault. -/
def ValueFault.message : ValueFault → String
  | .nullValue => "Unsupported attribute value type: NoneType"
  | .tooLarge => "int too large to convert to float"

namespace Value

instance : Inhabited Value := ⟨.bool false⟩

/-- The sort of a value. -/
def kind : Value → ValueKind
  | text _ => .string
  | bool _ => .bool
  | number _ => .number
  | list _ => .list
  | map _ => .map

mutual

/-- The value of a document. -/
def freeze : Json → Except ValueFault Value
  | .null => .error .nullValue
  | .bool value => .ok (.bool value)
  | .int value =>
    match Double.ofInt? value with
    | some nearest => .ok (.number nearest)
    | none => .error .tooLarge
  | .double value => .ok (.number value)
  | .string value => .ok (.text value)
  | .array items => (freezeItems items).map .list
  | .object members => (freezeMembers members).map .map

/-- The values of the items that are not null, in order. -/
def freezeItems : List Json → Except ValueFault (List Value)
  | [] => .ok []
  | .null :: items => freezeItems items
  | item :: items => do
    let value ← freeze item
    let values ← freezeItems items
    .ok (value :: values)

/-- The values of the members that are not null, under their names and in order. The
same rule freezes the attributes of an entity. -/
def freezeMembers : List (String × Json) → Except ValueFault (List (String × Value))
  | [] => .ok []
  | (_, .null) :: members => freezeMembers members
  | (name, member) :: members => do
    let value ← freeze member
    let values ← freezeMembers members
    .ok ((name, value) :: values)

end

/-- The number that a truth value equals. -/
def boolNumber (value : Bool) : Double :=
  (Double.ofInt? (if value then 1 else 0)).getD .zero

mutual

/-- Equality of meaning. -/
def same : Value → Value → Bool
  | text left, text right => left == right
  | bool left, bool right => left == right
  | bool left, number right => (boolNumber left).same right
  | number left, bool right => left.same (boolNumber right)
  | number left, number right => left.same right
  | list left, list right => sameItems left right
  | map left, map right => left.length == right.length && sameEntries left right
  | _, _ => false

/-- Equality of meaning, item by item. -/
def sameItems : List Value → List Value → Bool
  | [], [] => true
  | left :: lefts, right :: rights => same left right && sameItems lefts rights
  | _, _ => false

/-- True when every entry on the left has its equal under the same name on the right. -/
def sameEntries : List (String × Value) → List (String × Value) → Bool
  | [], _ => true
  | (name, left) :: lefts, rights =>
    (match rights.lookup name with
      | some right => same left right
      | none => false) && sameEntries lefts rights

end

end Value

end InfraReview
