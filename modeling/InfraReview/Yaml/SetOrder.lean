import InfraReview.Yaml.Datum

/-!
# The order of sets

The items of a set are shown in the order of their slots in a table. The table has eight slots,
or more than twice as many slots as there are items if these are more than four; the number of
slots is a power of two. The mark of an item says where its slot is looked for: first from the
last digits of the mark on, and, as long as all slots there are taken, from places that depend
on more and more of its digits.

The mark of a number is its residue modulo a prime just below a power of two, so equal numbers
have equal marks whatever their sort. An empty text has a mark too; other items have none, and
a set with one of them keeps the order in which its items were given.
-/

namespace InfraReview.Yaml.SetOrder

/-- The modulus of the marks of numbers. -/
def modulus : Nat := 2305843009213693951

/-- The mark of a negative or positive residue; minus one is not in use. -/
def signed (negative : Bool) (residue : Nat) : Int :=
  if negative then if residue = 1 then -2 else -(residue : Int) else residue

/-- The mark of a double: a power of two counts modulo sixty-one, since the sixty-first is one
more than the modulus. -/
def markOfDouble : Double → Option Int
  | .nan => none
  | .infinity negative => some (if negative then -314159 else 314159)
  | .finite negative m =>
    let power := Nat.pow 2 (m.exponent.emod 61).toNat
    some (signed negative (m.significand * power % modulus))

/-- The mark of an item. -/
def mark? : Datum → Option Int
  | .bool flag => some (if flag then 1 else 0)
  | .int number => some (signed (number < 0) (number.natAbs % modulus))
  | .double number => markOfDouble number
  | .text content => if content.isEmpty then some 0 else none
  | .bytes content => if content.isEmpty then some 0 else none
  | _ => none

/-- The number of slots for a number of items: the given one, doubled until it is enough. -/
def slotCount (items : Nat) : Nat :=
  if items ≤ 4 then 8 else Nat.pow 2 ((2 * items).log2 + 1)

/-- The slots that are tried together: ten in a row, if there are as many, or just one. -/
def together (slots first : Nat) : List Nat :=
  if first + 9 < slots then (List.range 10).map (first + ·) else [first]

/-- The slot of an item among those not taken, looked for from `first` on; `digits` are those
of its mark that have not had their effect yet. -/
def freeSlot (slots : Nat) (taken : List Nat) : Nat → Nat → Nat → Nat
  | 0, first, _ => first
  | fuel + 1, first, digits =>
    match (together slots first).find? fun slot => !taken.contains slot with
    | some slot => slot
    | none =>
      freeSlot slots taken fuel ((5 * first + 1 + digits / 32) % slots) (digits / 32)

/-- The slots of items with the given marks, one after another. Once all digits have had their
effect, every slot is reached in as many steps as there are slots. -/
def slotsOf (slots : Nat) (taken : List Nat) : List Int → List Nat
  | [] => []
  | mark :: marks =>
    let digits := (mark.emod (Nat.pow 2 64)).toNat
    let slot := freeSlot slots taken (slots + 14) (digits % slots) digits
    slot :: slotsOf slots (slot :: taken) marks

/-- The items of a set in their order. -/
def arrange (items : List Datum) : List Datum :=
  match items.mapM mark? with
  | none => items
  | some marks =>
    let slotted := (slotsOf (slotCount items.length) [] marks).zip items
    (slotted.mergeSort fun left right => left.1 ≤ right.1).map (·.2)

end InfraReview.Yaml.SetOrder
