import Mathlib.Tactic.Ring
import InfraReview.Number.Decimal
import InfraReview.Number.Length

/-!
# The length of what digits write

So many digits write a number below the bound: an integer that could be read can be written.
-/

namespace InfraReview

/-- A digit of any script stands for a number below ten. -/
theorem digitValue_lt_ten (c : Char) : (Text.digitValue? c).getD 0 < 10 := by
  rw [Text.digitValue?]
  cases found : Text.zeroDigits.find? fun first => first ≤ c.toNat && c.toNat ≤ first + 9 with
  | none => exact Nat.zero_lt_succ 9
  | some first =>
    have bounds := List.find?_some found
    rw [Bool.and_eq_true, decide_eq_true_eq, decide_eq_true_eq] at bounds
    rw [Option.map_some, Option.getD_some]
    omega

/-- The number that digits write has no more digits. -/
theorem digitsValue_lt (digits : List Char) :
    Double.digitsValue digits < 10 ^ digits.length := by
  suffices continued : ∀ start,
      digits.foldl (fun value c => 10 * value + (Text.digitValue? c).getD 0) start <
        (start + 1) * 10 ^ digits.length by
    simpa [Double.digitsValue] using continued 0
  induction digits with
  | nil => simp
  | cons c rest inductionHypothesis =>
    intro start
    have digit := digitValue_lt_ten c
    calc _ < (10 * start + (Text.digitValue? c).getD 0 + 1) * 10 ^ rest.length :=
          inductionHypothesis _
      _ ≤ (10 * (start + 1)) * 10 ^ rest.length := Nat.mul_le_mul_right _ (by omega)
      _ = (start + 1) * 10 ^ (c :: rest).length := by rw [List.length_cons, pow_succ]; ring

/-- The number of up to so many digits is not too long. -/
theorem isLong_digitsValue {digits : List Char} (few : digits.length ≤ maxDigits) :
    isLong (Double.digitsValue digits) = false := by
  refine isLong_eq_false ?_
  rw [Int.natAbs_natCast]
  exact lt_longBound few (digitsValue_lt digits)

/-- An integer that is not too long has so many digits at most. -/
theorem length_toDigits {value : Int} (short : isLong value = false) :
    (Nat.toDigits 10 value.natAbs).length ≤ maxDigits := by
  have below : value.natAbs < longBound := by simpa [isLong] using short
  have positive : 0 < maxDigits := by decide
  rw [longBound_eq] at below
  generalize maxDigits = most at below positive ⊢
  exact (Nat.length_toDigits_le_iff (by decide) positive).mpr below

/-- A sign makes no difference. -/
theorem isLong_neg (value : Int) : isLong (-value) = isLong value := by
  rw [isLong, isLong, Int.natAbs_neg]

end InfraReview
