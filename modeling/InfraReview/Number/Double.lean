/-!
# Double precision numbers

A double is not a number, an infinity of either sign, or a signed magnitude. A
magnitude is a significand below `2 ^ 53` times a power of two, and it is canonical:
the significand fills its fifty-three bits unless the exponent is the least one. Equal
magnitudes therefore have equal parts, and equality of doubles here is equality of bit
patterns, which tells the two zeros apart. Comparison of values is a separate notion.

Every conversion into a double goes through one function, which rounds a quotient of
natural numbers to the nearest magnitude and, between two equally near ones, to the
one with the even significand.
-/

namespace InfraReview

/-- The parts of a magnitude in their one permitted form. -/
def CanonicalParts (significand : Nat) (exponent : Int) : Prop :=
  significand < Nat.pow 2 53 ∧ -1074 ≤ exponent ∧ exponent ≤ 971 ∧
    (Nat.pow 2 52 ≤ significand ∨ exponent = -1074)

instance (significand : Nat) (exponent : Int) : Decidable (CanonicalParts significand exponent) :=
  inferInstanceAs (Decidable (_ ∧ _ ∧ _ ∧ _))

/-- A finite magnitude: `significand * 2 ^ exponent`. -/
structure Magnitude where
  significand : Nat
  exponent : Int
  canonical : CanonicalParts significand exponent
  deriving DecidableEq

/-- A double precision number. -/
inductive Double where
  | nan
  | infinity (negative : Bool)
  | finite (negative : Bool) (magnitude : Magnitude)
  deriving DecidableEq

namespace Magnitude

/-- The magnitude zero. -/
def zero : Magnitude := ⟨0, -1074, by decide⟩

/-- The magnitude with the given parts, if they are canonical. -/
def ofParts? (significand : Nat) (exponent : Int) : Option Magnitude :=
  if canonical : CanonicalParts significand exponent then
    some ⟨significand, exponent, canonical⟩
  else none

/-- `2 ^ exponent * denominator` on one side of a quotient or its inverse on the other,
so that `numerator / denominator / 2 ^ exponent` is a quotient of natural numbers. -/
def scaled (numerator denominator : Nat) (exponent : Int) : Nat × Nat :=
  if exponent < 0 then (numerator * Nat.pow 2 (-exponent).toNat, denominator)
  else (numerator, denominator * Nat.pow 2 exponent.toNat)

/-- A quotient rounded to the nearest natural number, a half to the even one. -/
def roundQuotient (numerator denominator : Nat) : Nat :=
  let quotient := numerator / denominator
  let remainder := numerator % denominator
  if 2 * remainder < denominator then quotient
  else if denominator < 2 * remainder then quotient + 1
  else if quotient % 2 = 0 then quotient
  else quotient + 1

/-- The exponent at which a positive quotient has fifty-three significant bits, or the
least exponent if that is larger. -/
def exponentFor (numerator denominator : Nat) : Int :=
  let guess : Int := (numerator.log2 : Int) - denominator.log2 - 53
  let (n, d) := scaled numerator denominator guess
  max (-1074) (if n / d < Nat.pow 2 53 then guess else guess + 1)

/-- The magnitude nearest to a quotient, and nothing when it is out of range. -/
def ofQuotient? (numerator denominator : Nat) : Option Magnitude :=
  if numerator = 0 then some zero
  else
    let exponent := exponentFor numerator denominator
    let (n, d) := scaled numerator denominator exponent
    let significand := roundQuotient n d
    if significand < Nat.pow 2 53 then ofParts? significand exponent
    else ofParts? (significand / 2) (exponent + 1)

/-- A magnitude as a quotient of natural numbers. -/
def toQuotient (m : Magnitude) : Nat × Nat :=
  if m.exponent < 0 then (m.significand, Nat.pow 2 (-m.exponent).toNat)
  else (m.significand * Nat.pow 2 m.exponent.toNat, 1)

/-- The whole part of a magnitude. -/
def floor (m : Magnitude) : Nat :=
  let (numerator, denominator) := m.toQuotient
  numerator / denominator

end Magnitude

namespace Double

/-- The zero without a sign. -/
def zero : Double := .finite false .zero

/-- The double nearest to a signed quotient; a quotient out of range gives nothing. -/
def ofQuotient? (negative : Bool) (numerator denominator : Nat) : Option Double :=
  (Magnitude.ofQuotient? numerator denominator).map (.finite negative)

/-- The double nearest to an integer; an integer out of range gives nothing. -/
def ofInt? (value : Int) : Option Double :=
  ofQuotient? (value < 0) value.natAbs 1

/-- Why a double has no whole part. -/
inductive NoWholePart where
  | nan
  | infinity
  deriving DecidableEq, Repr

/-- The whole part of a double, toward zero. -/
def truncate : Double → Except NoWholePart Int
  | .nan => .error .nan
  | .infinity _ => .error .infinity
  | .finite true m => .ok (-m.floor)
  | .finite false m => .ok m.floor

/-- A finite double as a quotient of an integer and a natural number. -/
def toQuotient? : Double → Option (Int × Nat)
  | .finite negative m =>
    let (numerator, denominator) := m.toQuotient
    some (if negative then -(numerator : Int) else numerator, denominator)
  | _ => none

/-- True when the value of a double is below an integer; never so for a double that is
not a number. -/
def isBelow (value : Double) (bound : Int) : Bool :=
  match value with
  | .nan => false
  | .infinity negative => negative
  | .finite negative m =>
    let (numerator, denominator) := m.toQuotient
    let signed : Int := if negative then -(numerator : Int) else numerator
    signed < bound * denominator

/-- Equality of values inside lists and maps: the two zeros are equal there, and the
one value that is not a number is the same as itself. -/
def same : Double → Double → Bool
  | .finite leftNegative left, .finite rightNegative right =>
    left == right && (leftNegative == rightNegative || left.significand == 0)
  | left, right => left == right

/-- The sixty-four bits of a double: sign, eleven bits of exponent, fifty-two bits of
significand. The bit pattern of the value that is no number is the quiet one. -/
def toBits : Double → Nat
  | .nan => 0x7FF8000000000000
  | .infinity negative => (if negative then Nat.pow 2 63 else 0) + 0x7FF0000000000000
  | .finite negative m =>
    (if negative then Nat.pow 2 63 else 0) +
      if m.significand < Nat.pow 2 52 then m.significand
      else (m.exponent + 1075).toNat * Nat.pow 2 52 + (m.significand - Nat.pow 2 52)

/-- The double with the opposite sign. -/
def negate : Double → Double
  | .nan => .nan
  | .infinity negative => .infinity (!negative)
  | .finite negative m => .finite (!negative) m

end Double

end InfraReview
