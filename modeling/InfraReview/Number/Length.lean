/-!
# The length of integers

An integer may have any size, but it is written in decimal digits, and read from them, only
up to a number of digits. Beyond that, writing and reading break off. Digits of other bases
have no such limit.
-/

namespace InfraReview

/-- The greatest number of decimal digits that an integer is written with or read from. -/
def maxDigits : Nat := 4300

/-- The least number with more digits than that, as a power of a power that is soon computed. -/
def longBound : Nat := Nat.pow (Nat.pow 10 100) 43

/-- The bound has one digit more than can be written. -/
theorem longBound_eq : longBound = Nat.pow 10 maxDigits := by
  unfold longBound
  -- with a name in the place of the exponent nothing is evaluated here
  generalize same : 43 = times
  have places : maxDigits = 100 * times := by
    subst same
    rfl
  rw [places]
  exact (Nat.pow_mul 10 100 times).symm

/-- True for the integers that have too many digits to be written. -/
def isLong (value : Int) : Bool := longBound ≤ value.natAbs

/-- Why an integer is neither written nor read. -/
inductive LengthFault where
  | written
  | read (digits : Nat)
  deriving DecidableEq, Repr

/-- The message of such a fault. -/
def LengthFault.message (fault : LengthFault) : String :=
  let found :=
    match fault with
    | .written => ""
    | .read digits => ": value has " ++ toString digits ++ " digits"
  "Exceeds the limit (" ++ toString maxDigits ++ " digits) for integer string conversion" ++ found
    ++ "; use sys.set_int_max_str_digits() to increase the limit"

/-- What is below a power of ten that can still be written is below the bound. -/
theorem lt_longBound {number places : Nat} (few : places ≤ maxDigits)
    (below : number < Nat.pow 10 places) : number < longBound := by
  rw [longBound_eq]
  generalize maxDigits = most at few
  exact Nat.lt_of_lt_of_le below (Nat.pow_le_pow_right (by decide) few)

/-- An integer below the bound is not too long. -/
theorem isLong_eq_false {value : Int} (below : value.natAbs < longBound) :
    isLong value = false := decide_eq_false (Nat.not_le.mpr below)

/-- An integer is too long exactly from so many digits on. -/
theorem isLong_iff (value : Int) : isLong value = true ↔ Nat.pow 10 maxDigits ≤ value.natAbs := by
  rw [isLong, decide_eq_true_iff, longBound_eq]

end InfraReview
