import InfraReview.Number.Double
import Mathlib.Algebra.Order.Field.Power
import Mathlib.Data.Int.Log
import Mathlib.Data.Rat.Floor
import Mathlib.Tactic.FieldSimp
import Mathlib.Tactic.GCongr
import Mathlib.Tactic.Linarith
import Mathlib.Tactic.Positivity
import Mathlib.Tactic.Ring

/-!
# Rounding depends on the value alone

The magnitude nearest to a quotient is found from its numerator and its denominator: their
bit lengths give an exponent that is at most one too small. It is shown here that the
exponent is the one of the value as a rational number, so that equal quotients have the same
magnitude, and that a value which is a magnitude already is found again.
-/

namespace InfraReview

namespace Magnitude

/-- The denominator of a scaled quotient is positive. -/
theorem scaled_positive (numerator : Nat) {denominator : Nat} (exponent : Int)
    (positive : 0 < denominator) : 0 < (scaled numerator denominator exponent).2 := by
  unfold scaled
  split
  · exact positive
  · exact Nat.mul_pos positive (Nat.pow_pos (by decide))

/-- A power of two with a negative exponent, as the inverse of a natural number. -/
theorem zpow_of_neg {exponent : Int} (negative : exponent < 0) :
    (2 : ℚ) ^ exponent = ((Nat.pow 2 (-exponent).toNat : Nat) : ℚ)⁻¹ := by
  obtain ⟨count, rfl⟩ : ∃ count : Nat, exponent = -(count : Int) :=
    ⟨(-exponent).toNat, by omega⟩
  simp

/-- A power of two with an exponent that is not negative, as a natural number. -/
theorem zpow_of_nonneg {exponent : Int} (nonnegative : ¬ exponent < 0) :
    (2 : ℚ) ^ exponent = ((Nat.pow 2 exponent.toNat : Nat) : ℚ) := by
  obtain ⟨count, rfl⟩ : ∃ count : Nat, exponent = (count : Int) :=
    ⟨exponent.toNat, by omega⟩
  simp

/-- Scaling divides the value of a quotient by a power of two. -/
theorem scaled_value (numerator denominator : Nat) (exponent : Int) :
    ((scaled numerator denominator exponent).1 : ℚ) / (scaled numerator denominator exponent).2 =
      (numerator : ℚ) / denominator / 2 ^ exponent := by
  unfold scaled
  split
  · rename_i negative
    rw [zpow_of_neg negative, div_inv_eq_mul]
    push_cast
    ring
  · rename_i nonnegative
    rw [zpow_of_nonneg nonnegative]
    push_cast
    rw [div_div]

/-- The whole part of a scaled quotient stays below a bound exactly when the value stays
below the bound times the power of two. -/
theorem scaled_floor_lt (numerator : Nat) {denominator : Nat} (exponent : Int) (bound : Nat)
    (positive : 0 < denominator) :
    (scaled numerator denominator exponent).1 / (scaled numerator denominator exponent).2
        < bound ↔
      (numerator : ℚ) / denominator < bound * 2 ^ exponent := by
  have below := scaled_positive numerator exponent positive
  have belowRational : (0 : ℚ) < (scaled numerator denominator exponent).2 := by
    exact_mod_cast below
  rw [Nat.div_lt_iff_lt_mul below, ← div_lt_iff₀ (by positivity : (0 : ℚ) < 2 ^ exponent),
    ← scaled_value, div_lt_iff₀ belowRational]
  exact_mod_cast Iff.rfl

/-- The binary logarithm of a value between two neighbouring powers of two. -/
theorem log_of_between {value : ℚ} {exponent : Int} (positive : 0 < value)
    (above : (2 : ℚ) ^ exponent ≤ value) (below : value < 2 ^ (exponent + 1)) :
    Int.log 2 value = exponent := by
  have least : exponent ≤ Int.log 2 value :=
    (Int.zpow_le_iff_le_log (by decide) positive).mp (by exact_mod_cast above)
  have most : Int.log 2 value < exponent + 1 :=
    (Int.lt_zpow_iff_log_lt (by decide) positive).mp (by exact_mod_cast below)
  omega

/-- The bit lengths of a numerator and a denominator leave two binades for the value. -/
theorem value_between {numerator denominator : Nat} (nonzero : 0 < numerator)
    (positive : 0 < denominator) :
    (2 : ℚ) ^ ((numerator.log2 : Int) - denominator.log2 - 1) < (numerator : ℚ) / denominator ∧
      (numerator : ℚ) / denominator < 2 ^ ((numerator.log2 : Int) - denominator.log2 + 1) := by
  have denominatorPositive : (0 : ℚ) < denominator := by exact_mod_cast positive
  have numeratorLeast : (2 : ℚ) ^ numerator.log2 ≤ numerator := by
    exact_mod_cast Nat.log2_self_le nonzero.ne'
  have numeratorMost : (numerator : ℚ) < 2 ^ (numerator.log2 + 1) := by
    exact_mod_cast Nat.lt_log2_self
  have denominatorLeast : (2 : ℚ) ^ denominator.log2 ≤ denominator := by
    exact_mod_cast Nat.log2_self_le positive.ne'
  have denominatorMost : (denominator : ℚ) < 2 ^ (denominator.log2 + 1) := by
    exact_mod_cast Nat.lt_log2_self
  constructor
  · rw [lt_div_iff₀ denominatorPositive]
    calc (2 : ℚ) ^ ((numerator.log2 : Int) - denominator.log2 - 1) * denominator
        < 2 ^ ((numerator.log2 : Int) - denominator.log2 - 1) * 2 ^ (denominator.log2 + 1) := by
          gcongr
      _ = 2 ^ numerator.log2 := by
          rw [← zpow_natCast, ← zpow_natCast, ← zpow_add₀ (by norm_num)]
          congr 1
          push_cast
          ring
      _ ≤ numerator := numeratorLeast
  · rw [div_lt_iff₀ denominatorPositive]
    calc (numerator : ℚ) < 2 ^ (numerator.log2 + 1) := numeratorMost
      _ = 2 ^ ((numerator.log2 : Int) - denominator.log2 + 1) * 2 ^ denominator.log2 := by
          rw [← zpow_natCast, ← zpow_natCast, ← zpow_add₀ (by norm_num)]
          congr 1
          push_cast
          ring
      _ ≤ 2 ^ ((numerator.log2 : Int) - denominator.log2 + 1) * denominator := by gcongr

/-- The exponent for a quotient is the one of its value: fifty-three bits stand above it,
unless it would be less than the least exponent. -/
theorem exponentFor_eq {numerator denominator : Nat} (nonzero : 0 < numerator)
    (positive : 0 < denominator) :
    exponentFor numerator denominator =
      max (-1074) (Int.log 2 ((numerator : ℚ) / denominator) - 52) := by
  have valuePositive : (0 : ℚ) < (numerator : ℚ) / denominator := by positivity
  obtain ⟨above, below⟩ := value_between nonzero positive
  generalize guessed : (numerator.log2 : Int) - denominator.log2 - 53 = guess
  have small := scaled_floor_lt numerator guess (Nat.pow 2 53) positive
  have power : ((Nat.pow 2 53 : Nat) : ℚ) * 2 ^ guess = 2 ^ (guess + 53) := by
    rw [zpow_add₀ (by norm_num)]
    norm_num [mul_comm]
  rw [power] at small
  simp only [exponentFor, guessed]
  by_cases fits : (numerator : ℚ) / denominator < 2 ^ (guess + 53)
  · rw [if_pos (small.mpr fits)]
    have binade : Int.log 2 ((numerator : ℚ) / denominator) = guess + 52 := by
      apply log_of_between valuePositive
      · rw [show guess + 52 = (numerator.log2 : Int) - denominator.log2 - 1 by omega]
        exact above.le
      · rw [show guess + 52 + 1 = guess + 53 by omega]
        exact fits
    rw [binade, show guess + 52 - 52 = guess by omega]
  · rw [if_neg (mt small.mp fits)]
    have binade : Int.log 2 ((numerator : ℚ) / denominator) = guess + 53 := by
      apply log_of_between valuePositive (not_lt.mp fits)
      rw [show guess + 53 + 1 = (numerator.log2 : Int) - denominator.log2 + 1 by omega]
      exact below
    rw [binade, show guess + 53 - 52 = guess + 1 by omega]

/-- Rounding a quotient does not see a common factor. -/
theorem roundQuotient_scale (numerator denominator : Nat) {factor : Nat}
    (positive : 0 < factor) :
    roundQuotient (numerator * factor) (denominator * factor) =
      roundQuotient numerator denominator := by
  have doubled : 2 * (numerator % denominator * factor) =
      2 * (numerator % denominator) * factor := by ring
  simp only [roundQuotient, Nat.mul_div_mul_right _ _ positive, Nat.mul_mod_mul_right, doubled,
    Nat.mul_lt_mul_right positive]

/-- Equal quotients are rounded to the same number. -/
theorem roundQuotient_congr {numerator denominator otherNumerator otherDenominator : Nat}
    (positive : 0 < denominator) (otherPositive : 0 < otherDenominator)
    (equal : numerator * otherDenominator = otherNumerator * denominator) :
    roundQuotient numerator denominator = roundQuotient otherNumerator otherDenominator := by
  rw [← roundQuotient_scale numerator denominator otherPositive, equal,
    Nat.mul_comm denominator otherDenominator,
    roundQuotient_scale otherNumerator otherDenominator positive]

/-- A whole number is rounded to itself. -/
theorem roundQuotient_whole (whole : Nat) {denominator : Nat} (positive : 0 < denominator) :
    roundQuotient (whole * denominator) denominator = whole := by
  simp [roundQuotient, Nat.mul_div_cancel _ positive, positive]

/-- Quotients are equal as rational numbers exactly when their cross products are. -/
theorem value_eq_iff {numerator denominator otherNumerator otherDenominator : Nat}
    (positive : 0 < denominator) (otherPositive : 0 < otherDenominator) :
    (numerator : ℚ) / denominator = otherNumerator / otherDenominator ↔
      numerator * otherDenominator = otherNumerator * denominator := by
  have nonzero : (denominator : ℚ) ≠ 0 := by exact_mod_cast positive.ne'
  have otherNonzero : (otherDenominator : ℚ) ≠ 0 := by exact_mod_cast otherPositive.ne'
  rw [div_eq_div_iff nonzero otherNonzero]
  exact_mod_cast Iff.rfl

/-- Quotients of one value have the same nearest magnitude. -/
theorem ofQuotient_congr {numerator denominator otherNumerator otherDenominator : Nat}
    (positive : 0 < denominator) (otherPositive : 0 < otherDenominator)
    (equal : (numerator : ℚ) / denominator = otherNumerator / otherDenominator) :
    ofQuotient? numerator denominator = ofQuotient? otherNumerator otherDenominator := by
  have crossed := (value_eq_iff positive otherPositive).mp equal
  rcases Nat.eq_zero_or_pos numerator with isZero | nonzero
  · subst isZero
    have otherZero : otherNumerator = 0 := by
      rw [Nat.zero_mul] at crossed
      exact (Nat.mul_eq_zero.mp crossed.symm).resolve_right positive.ne'
    simp [ofQuotient?, otherZero]
  · have otherNonzero : 0 < otherNumerator := by
      rcases Nat.eq_zero_or_pos otherNumerator with isZero | nonzero'
      · rw [isZero, Nat.zero_mul] at crossed
        exact absurd crossed (Nat.mul_pos nonzero otherPositive).ne'
      · exact nonzero'
    have exponents : exponentFor numerator denominator =
        exponentFor otherNumerator otherDenominator := by
      rw [exponentFor_eq nonzero positive, exponentFor_eq otherNonzero otherPositive, equal]
    simp only [ofQuotient?, nonzero.ne', otherNonzero.ne', if_false, exponents]
    generalize exponentFor otherNumerator otherDenominator = exponent
    have rounded : roundQuotient (scaled numerator denominator exponent).1
          (scaled numerator denominator exponent).2 =
        roundQuotient (scaled otherNumerator otherDenominator exponent).1
          (scaled otherNumerator otherDenominator exponent).2 := by
      have first := scaled_positive numerator exponent positive
      have second := scaled_positive otherNumerator exponent otherPositive
      apply roundQuotient_congr first second
      rw [← value_eq_iff first second, scaled_value, scaled_value, equal]
    rw [rounded]

/-- The value of a magnitude. -/
def value (m : Magnitude) : ℚ := m.significand * 2 ^ m.exponent

/-- A magnitude whose significand is zero is zero. -/
theorem eq_zero {m : Magnitude} (isZero : m.significand = 0) : m = zero := by
  obtain ⟨significand, exponent, canonical⟩ := m
  obtain rfl : significand = 0 := isZero
  obtain rfl : exponent = -1074 := canonical.2.2.2.resolve_left (by decide)
  rfl

/-- The exponent for the value of a magnitude other than zero is its own. -/
theorem exponentFor_value {m : Magnitude} {numerator denominator : Nat}
    (nonzero : 0 < m.significand) (positive : 0 < denominator)
    (same : (numerator : ℚ) / denominator = m.value) :
    exponentFor numerator denominator = m.exponent := by
  obtain ⟨bounded, least, _, canonical⟩ := m.canonical
  have valuePositive : 0 < m.value := by
    have : (0 : ℚ) < m.significand := by exact_mod_cast nonzero
    unfold value
    positivity
  have numeratorPositive : 0 < numerator := by
    rcases Nat.eq_zero_or_pos numerator with isZero | nonzero'
    · rw [isZero, Nat.cast_zero, zero_div] at same
      exact absurd same valuePositive.ne
    · exact nonzero'
  have powers (count : Nat) : (2 : ℚ) ^ (m.exponent + count) = 2 ^ count * 2 ^ m.exponent := by
    rw [zpow_add₀ (by norm_num), zpow_natCast, mul_comm]
  have below : m.value < 2 ^ (m.exponent + 53) := by
    have significandBelow : (m.significand : ℚ) < 2 ^ 53 := by exact_mod_cast bounded
    rw [show m.exponent + 53 = m.exponent + ((53 : Nat) : Int) by rfl, powers, value]
    gcongr
  rw [exponentFor_eq numeratorPositive positive, same]
  rcases canonical with normal | subnormal
  · have above : (2 : ℚ) ^ (m.exponent + 52) ≤ m.value := by
      have significandAbove : (2 : ℚ) ^ 52 ≤ m.significand := by exact_mod_cast normal
      rw [show m.exponent + 52 = m.exponent + ((52 : Nat) : Int) by rfl, powers, value]
      gcongr
    rw [log_of_between valuePositive above (by simpa [add_assoc] using below)]
    omega
  · have most : Int.log 2 m.value < m.exponent + 53 :=
      (Int.lt_zpow_iff_log_lt (by decide) valuePositive).mp (by exact_mod_cast below)
    omega

/-- The value of a magnitude, as any quotient, is rounded to that magnitude. -/
theorem ofQuotient_value {m : Magnitude} {numerator denominator : Nat}
    (positive : 0 < denominator) (same : (numerator : ℚ) / denominator = m.value) :
    ofQuotient? numerator denominator = some m := by
  rcases Nat.eq_zero_or_pos m.significand with isZero | nonzero
  · have numeratorZero : numerator = 0 := by
      have nonzeroDenominator : (denominator : ℚ) ≠ 0 := by exact_mod_cast positive.ne'
      simpa [value, isZero, nonzeroDenominator] using same
    simp [ofQuotient?, numeratorZero, eq_zero isZero]
  · have own := exponentFor_value nonzero positive same
    have below := scaled_positive numerator m.exponent positive
    have whole : (scaled numerator denominator m.exponent).1 =
        m.significand * (scaled numerator denominator m.exponent).2 := by
      have quotient := scaled_value numerator denominator m.exponent
      have belowNonzero : ((scaled numerator denominator m.exponent).2 : ℚ) ≠ 0 := by
        exact_mod_cast below.ne'
      rw [same, value, mul_div_cancel_right₀ _ (by positivity),
        div_eq_iff belowNonzero] at quotient
      exact_mod_cast quotient
    have numeratorNonzero : numerator ≠ 0 := by
      rintro rfl
      have vanishes : m.significand * (scaled 0 denominator m.exponent).2 = 0 := by
        rw [← whole]
        unfold scaled
        split <;> simp
      exact absurd vanishes (Nat.mul_pos nonzero below).ne'
    simp only [ofQuotient?, numeratorNonzero, if_false, own, whole, roundQuotient_whole _ below]
    rw [if_pos m.canonical.1, ofParts?, dif_pos m.canonical]

/-- Parts that make a magnitude are canonical. -/
theorem canonical_of_ofParts {significand : Nat} {exponent : Int} {m : Magnitude}
    (found : ofParts? significand exponent = some m) : CanonicalParts significand exponent := by
  unfold ofParts? at found
  split at found
  · assumption
  · cases found

/-- A quotient that has a nearest magnitude is in the range of magnitudes. -/
theorem value_lt_of_ofQuotient {numerator denominator : Nat} {m : Magnitude}
    (positive : 0 < denominator) (found : ofQuotient? numerator denominator = some m) :
    (numerator : ℚ) / denominator < 2 ^ (1024 : Int) := by
  rcases Nat.eq_zero_or_pos numerator with isZero | nonzero
  · rw [isZero, Nat.cast_zero, zero_div]
    positivity
  · have valuePositive : (0 : ℚ) < (numerator : ℚ) / denominator := by positivity
    have bounded : exponentFor numerator denominator ≤ 971 := by
      simp only [ofQuotient?, nonzero.ne', if_false] at found
      split at found
      · exact (canonical_of_ofParts found).2.2.1
      · have := (canonical_of_ofParts found).2.2.1
        omega
    rw [exponentFor_eq nonzero positive] at bounded
    have below : (numerator : ℚ) / denominator < ((2 : Nat) : ℚ) ^ (1024 : Int) := by
      rw [Int.lt_zpow_iff_log_lt (by decide) valuePositive]
      omega
    exact_mod_cast below

end Magnitude

end InfraReview
