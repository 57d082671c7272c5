import InfraReview.Proofs.Number.Rounding

/-!
# The range of doubles

A whole number has a nearest double unless it lies too far from zero. The largest double has
fifty-three bits and the exponent 971. A number half a step beyond it lies between this odd multiple
of the step and an even one, so it is rounded away from zero and out of the range; every smaller
number has a nearest double. The half step is `2 ^ 970`, and with it the range ends just before
`2 ^ 1024 - 2 ^ 970`.
-/

namespace InfraReview

namespace Magnitude

/-- A quotient is rounded to an odd number or a smaller one exactly when it lies less than a half
above it. -/
theorem roundQuotient_le_iff (numerator : Nat) {denominator last : Nat}
    (positive : 0 < denominator) (odd : last % 2 = 1) :
    roundQuotient numerator denominator ≤ last ↔
      2 * numerator < (2 * last + 1) * denominator := by
  have split := Nat.div_add_mod numerator denominator
  have small := Nat.mod_lt numerator positive
  simp only [roundQuotient]
  generalize numerator / denominator = quotient at split ⊢
  generalize numerator % denominator = remainder at split small ⊢
  subst split
  rcases Nat.lt_trichotomy quotient last with less | rfl | more
  · have room : denominator * (quotient + 1) ≤ denominator * last := Nat.mul_le_mul_left _ less
    have below : 2 * (denominator * quotient + remainder) < (2 * last + 1) * denominator := by
      nlinarith
    refine iff_of_true ?_ below
    split_ifs <;> omega
  · have rest : 2 * (denominator * quotient + remainder) < (2 * quotient + 1) * denominator ↔
        2 * remainder < denominator := by
      constructor <;> intro before <;> nlinarith
    rw [rest]
    split_ifs <;> omega
  · have beyond : denominator * (last + 1) ≤ denominator * quotient := Nat.mul_le_mul_left _ more
    have above : ¬ 2 * (denominator * quotient + remainder) < (2 * last + 1) * denominator := by
      nlinarith
    refine iff_of_false ?_ above
    split_ifs <;> omega

/-- A quotient is rounded to its whole part or to the next number. -/
theorem roundQuotient_bounds (numerator denominator : Nat) :
    numerator / denominator ≤ roundQuotient numerator denominator ∧
      roundQuotient numerator denominator ≤ numerator / denominator + 1 := by
  simp only [roundQuotient]
  split_ifs <;> omega

/-- A whole number is scaled down by its denominator alone. -/
theorem scaled_whole (whole exponent : Nat) :
    scaled whole 1 (exponent : Int) = (whole, 2 ^ exponent) := by
  simp [scaled]

/-- Parts make a magnitude exactly when they are canonical. -/
theorem ofParts_isSome_iff (significand : Nat) (exponent : Int) :
    (ofParts? significand exponent).isSome = true ↔ CanonicalParts significand exponent := by
  unfold ofParts?
  split <;> simp [*]

/-- The exponent for a whole number leaves it fifty-three bits. -/
theorem exponentFor_whole {whole : Nat} (nonzero : 0 < whole) :
    exponentFor whole 1 = (Nat.log 2 whole : Int) - 52 := by
  rw [exponentFor_eq nonzero Nat.one_pos, Nat.cast_one, div_one, Int.log_natCast]
  omega

/-- A whole number is rounded to a significand that fills fifty-three bits, or to the next power of
two. -/
theorem significand_whole {whole : Nat} (nonzero : 0 < whole) :
    2 ^ 52 ≤ roundQuotient (scaled whole 1 (exponentFor whole 1)).1
        (scaled whole 1 (exponentFor whole 1)).2 ∧
      roundQuotient (scaled whole 1 (exponentFor whole 1)).1
        (scaled whole 1 (exponentFor whole 1)).2 ≤ 2 ^ 53 := by
  obtain ⟨least, most⟩ := roundQuotient_bounds (scaled whole 1 (exponentFor whole 1)).1
    (scaled whole 1 (exponentFor whole 1)).2
  have power (count : Nat) : ((2 ^ count : Nat) : ℚ) * 2 ^ (exponentFor whole 1) =
      2 ^ ((Nat.log 2 whole : Int) - 52 + count) := by
    rw [exponentFor_whole nonzero, zpow_add₀ (by norm_num), zpow_natCast, mul_comm]
    push_cast
    rfl
  -- the number lies between two powers of two, and with its exponent these are fifty-three bits
  have above : (2 : ℚ) ^ ((Nat.log 2 whole : Int) - 52 + (52 : Nat)) ≤ whole := by
    rw [show (Nat.log 2 whole : Int) - 52 + (52 : Nat) = (Nat.log 2 whole : Int) by omega,
      zpow_natCast]
    exact_mod_cast Nat.pow_log_le_self 2 nonzero.ne'
  have below : (whole : ℚ) < 2 ^ ((Nat.log 2 whole : Int) - 52 + (53 : Nat)) := by
    rw [show (Nat.log 2 whole : Int) - 52 + (53 : Nat) = ((Nat.log 2 whole + 1 : Nat) : Int) by
      omega, zpow_natCast]
    exact_mod_cast Nat.lt_pow_succ_log_self (by decide) whole
  have floors (bound : Nat) := scaled_floor_lt whole (exponentFor whole 1) bound Nat.one_pos
  simp only [Nat.cast_one, div_one] at floors
  constructor
  · refine le_trans (not_lt.mp fun less => ?_) least
    rw [floors, power] at less
    exact absurd less (not_lt.mpr above)
  · have inside := (floors (2 ^ 53)).mpr (by rwa [power])
    omega

/-- A whole number has a nearest magnitude when its exponent is less than the greatest one, or when
it is the greatest one and the number is not rounded up to a power of two. -/
theorem ofWhole_isSome_iff {whole : Nat} (nonzero : 0 < whole) :
    (ofQuotient? whole 1).isSome = true ↔ exponentFor whole 1 ≤ 970 ∨
      exponentFor whole 1 = 971 ∧ roundQuotient (scaled whole 1 (exponentFor whole 1)).1
        (scaled whole 1 (exponentFor whole 1)).2 ≤ 2 ^ 53 - 1 := by
  obtain ⟨least, most⟩ := significand_whole nonzero
  have exponent := exponentFor_whole nonzero
  simp only [ofQuotient?, nonzero.ne', if_false]
  generalize roundQuotient (scaled whole 1 (exponentFor whole 1)).1
    (scaled whole 1 (exponentFor whole 1)).2 = significand at least most ⊢
  split
  · rw [ofParts_isSome_iff, CanonicalParts]
    simp only [Nat.pow_eq] at *
    omega
  · rw [ofParts_isSome_iff, CanonicalParts]
    simp only [Nat.pow_eq] at *
    omega

/-- A whole number has a nearest magnitude exactly when it lies below `2 ^ 1024 - 2 ^ 970`. The
three cases are the numbers whose exponent is less than the greatest one, those with the greatest
one, and larger numbers. -/
theorem ofWhole_range (whole : Nat) :
    (ofQuotient? whole 1).isSome = true ↔ whole < 2 ^ 1024 - 2 ^ 970 := by
  have beyond : (2 : Nat) ^ 1024 = 2 ^ 54 * 2 ^ 970 := by
    rw [← pow_add]
  have half : (2 : Nat) ^ 1023 = 2 ^ 53 * 2 ^ 970 := by
    rw [← pow_add]
  have step : (2 : Nat) ^ 971 = 2 * 2 ^ 970 := by
    rw [← pow_succ']
  have positive : 0 < (2 : Nat) ^ 970 := by positivity
  rcases Nat.eq_zero_or_pos whole with isZero | nonzero
  · rw [isZero, beyond]
    refine iff_of_true (by simp [ofQuotient?]) ?_
    omega
  rw [ofWhole_isSome_iff nonzero]
  have exponent := exponentFor_whole nonzero
  rcases Nat.lt_trichotomy (Nat.log 2 whole) 1023 with less | same | more
  · have below : whole < 2 ^ 53 * 2 ^ 970 := by
      rwa [← half, ← Nat.log_lt_iff_lt_pow (by decide) nonzero.ne']
    rw [beyond]
    omega
  · have greatest : exponentFor whole 1 = (971 : Nat) := by omega
    rw [greatest, scaled_whole, roundQuotient_le_iff whole (by omega) (by decide), step, beyond]
    omega
  · have above : 2 ^ 54 * 2 ^ 970 ≤ whole := by
      rwa [← beyond, ← Nat.le_log_iff_pow_le (by decide) nonzero.ne']
    rw [beyond]
    omega

end Magnitude

namespace Double

/-- An integer lies in the range of doubles. -/
def InRange (whole : Int) : Prop := whole.natAbs < 2 ^ 1024 - 2 ^ 970

/-- An integer has a nearest double exactly when it lies in the range of doubles. -/
theorem ofInt_isSome_iff (whole : Int) : (ofInt? whole).isSome = true ↔ InRange whole := by
  rw [InRange, ← Magnitude.ofWhole_range, ofInt?, ofQuotient?, Option.isSome_map]

end Double

end InfraReview
