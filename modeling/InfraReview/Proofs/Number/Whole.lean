import Mathlib.Data.Rat.Floor
import InfraReview.Proofs.Number.Rounding

/-!
# Values and whole parts

A finite double has a value, which is a rational number. Comparing a double with an integer is
comparing its value, and the whole part of a double that is not negative is the floor of its
value. The zero that has a sign counts as zero in both.
-/

namespace InfraReview

namespace Magnitude

/-- The denominator of a magnitude is not zero. -/
theorem denominator_pos (m : Magnitude) : 0 < m.toQuotient.2 := by
  unfold toQuotient
  split
  · exact Nat.pow_pos (by decide)
  · exact Nat.one_pos

/-- A magnitude as a quotient has its value. -/
theorem toQuotient_value (m : Magnitude) :
    (m.toQuotient.1 : ℚ) / m.toQuotient.2 = m.value := by
  unfold toQuotient value
  split
  · rename_i negative
    rw [zpow_of_neg negative, div_eq_mul_inv]
  · rename_i nonnegative
    rw [zpow_of_nonneg nonnegative]
    simp

/-- No magnitude is negative. -/
theorem value_nonneg (m : Magnitude) : 0 ≤ m.value := by
  unfold value
  positivity

/-- The whole part of a magnitude is the floor of its value. -/
theorem floor_eq (m : Magnitude) : (m.floor : Int) = ⌊m.value⌋ := by
  rw [← toQuotient_value, Rat.floor_natCast_div_natCast]
  rfl

end Magnitude

namespace Double

/-- A finite double has the value of its magnitude, with its sign. -/
inductive HasValue : Double → ℚ → Prop where
  | positive (m : Magnitude) : HasValue (.finite false m) m.value
  | negative (m : Magnitude) : HasValue (.finite true m) (-m.value)

/-- A double has one value at most. -/
theorem HasValue.unique {number : Double} {first second : ℚ} (has : number.HasValue first)
    (also : number.HasValue second) : first = second := by
  cases has <;> cases also <;> rfl

/-- A finite double is below an integer when its value is. -/
theorem HasValue.isBelow_iff {number : Double} {value : ℚ} (has : number.HasValue value)
    (bound : Int) : number.isBelow bound = true ↔ value < bound := by
  cases has with
  | positive m =>
    have positive : (0 : ℚ) < m.toQuotient.2 := by exact_mod_cast m.denominator_pos
    rw [← m.toQuotient_value, div_lt_iff₀ positive]
    simp only [isBelow, Bool.false_eq_true, if_false, decide_eq_true_eq]
    exact_mod_cast Iff.rfl
  | negative m =>
    have positive : (0 : ℚ) < m.toQuotient.2 := by exact_mod_cast m.denominator_pos
    rw [← m.toQuotient_value, ← neg_div, div_lt_iff₀ positive]
    simp only [isBelow, if_true, decide_eq_true_eq]
    exact_mod_cast Iff.rfl

/-- The whole part of a finite double that is not negative is the floor of its value. -/
theorem HasValue.truncate_eq {number : Double} {value : ℚ} (has : number.HasValue value)
    (nonnegative : 0 ≤ value) : number.truncate = .ok ⌊value⌋ := by
  cases has with
  | positive m => rw [truncate, m.floor_eq]
  | negative m =>
    have zero : m.value = 0 := le_antisymm (neg_nonneg.mp nonnegative) m.value_nonneg
    rw [truncate, m.floor_eq, zero]
    simp

end Double

end InfraReview
