import InfraReview.Number.Decimal
import InfraReview.Proofs.Number.Rounding

/-!
# Decimals and their doubles

A decimal is read as the double nearest to its value, and only its value counts: the two
bounds on the number of digits that stand before the point are bounds on the value. So a
decimal whose value is a magnitude is read as that magnitude, and this holds of the decimal
that is written for a magnitude, whether it is the shortest one or the exact one.
-/

namespace InfraReview

namespace Double

/-- The value of a decimal. -/
def decimalValue (digits : Nat) (power : Int) : ℚ := digits * 10 ^ power

/-- A decimal as a quotient of natural numbers. -/
def decimalQuotient (digits : Nat) (power : Int) : Nat × Nat :=
  if power < 0 then (digits, Nat.pow 10 (-power).toNat)
  else (digits * Nat.pow 10 power.toNat, 1)

/-- The denominator of a decimal as a quotient is positive. -/
theorem decimalQuotient_positive (digits : Nat) (power : Int) :
    0 < (decimalQuotient digits power).2 := by
  unfold decimalQuotient
  split
  · exact Nat.pow_pos (by decide)
  · exact Nat.one_pos

/-- A decimal as a quotient has its value. -/
theorem decimalQuotient_value (digits : Nat) (power : Int) :
    ((decimalQuotient digits power).1 : ℚ) / (decimalQuotient digits power).2 =
      decimalValue digits power := by
  unfold decimalQuotient decimalValue
  split
  · rename_i negative
    obtain ⟨count, rfl⟩ : ∃ count : Nat, power = -(count : Int) := ⟨(-power).toNat, by omega⟩
    simp [div_eq_mul_inv]
  · rename_i nonnegative
    obtain ⟨count, rfl⟩ : ∃ count : Nat, power = (count : Int) := ⟨power.toNat, by omega⟩
    simp

/-- The number of digits before the point of a decimal that is not zero is one more than the
decimal logarithm of its value. -/
theorem leading_eq {digits : Nat} (power : Int) (nonzero : 0 < digits) :
    ((Nat.toDigits 10 digits).length : Int) + power =
      Int.log 10 (decimalValue digits power) + 1 := by
  have nonempty : 0 < (Nat.toDigits 10 digits).length := Nat.length_toDigits_pos
  generalize counted : (Nat.toDigits 10 digits).length = count at nonempty ⊢
  have below : digits < 10 ^ count :=
    (Nat.length_toDigits_le_iff (by decide) nonempty).mp counted.le
  have above : 10 ^ (count - 1) ≤ digits := by
    by_contra short
    rcases Nat.eq_zero_or_pos (count - 1) with isZero | positive
    · rw [isZero] at short
      omega
    · have := (Nat.length_toDigits_le_iff (by decide) positive).mpr (not_le.mp short)
      omega
  have valuePositive : 0 < decimalValue digits power := by
    have : (0 : ℚ) < digits := by exact_mod_cast nonzero
    unfold decimalValue
    positivity
  have least : (count : Int) - 1 + power ≤ Int.log 10 (decimalValue digits power) := by
    rw [← Int.zpow_le_iff_le_log (by decide) valuePositive]
    have aboveRational : (10 : ℚ) ^ (count - 1) ≤ digits := by exact_mod_cast above
    have exponent : ((count - 1 : Nat) : Int) = (count : Int) - 1 := by omega
    calc ((10 : Nat) : ℚ) ^ ((count : Int) - 1 + power)
        = 10 ^ (count - 1) * 10 ^ power := by
          rw [zpow_add₀ (by norm_num), ← exponent, zpow_natCast]
          norm_num
      _ ≤ digits * 10 ^ power := by gcongr
  have most : Int.log 10 (decimalValue digits power) < (count : Int) + power := by
    rw [← Int.lt_zpow_iff_log_lt (by decide) valuePositive]
    have belowRational : (digits : ℚ) < 10 ^ count := by exact_mod_cast below
    calc (digits : ℚ) * 10 ^ power < 10 ^ count * 10 ^ power := by gcongr
      _ = ((10 : Nat) : ℚ) ^ ((count : Int) + power) := by
          rw [zpow_add₀ (by norm_num), zpow_natCast]
          norm_num
  omega

/-- A decimal other than zero is read by its value: by the decimal logarithm of the value
when that is beyond all doubles, and otherwise by the nearest magnitude. -/
theorem ofDecimal_eq (negative : Bool) {digits : Nat} (power : Int) (nonzero : 0 < digits) :
    ofDecimal negative digits power =
      if Int.log 10 (decimalValue digits power) + 1 < -330 then .finite negative .zero
      else if 320 < Int.log 10 (decimalValue digits power) + 1 then .infinity negative
      else
        (ofQuotient? negative (decimalQuotient digits power).1
          (decimalQuotient digits power).2).getD (.infinity negative) := by
  have leading := leading_eq power nonzero
  simp only [ofDecimal, nonzero.ne', leading, decimalQuotient, decide_false, Bool.false_or,
    decide_eq_true_eq]
  split_ifs <;> rfl

/-- Decimals of one value are read as the same double. -/
theorem ofDecimal_congr (negative : Bool) {digits otherDigits : Nat} {power otherPower : Int}
    (same : decimalValue digits power = decimalValue otherDigits otherPower) :
    ofDecimal negative digits power = ofDecimal negative otherDigits otherPower := by
  have zeroIff : digits = 0 ↔ otherDigits = 0 := by
    have := congrArg (· = 0) same
    simpa [decimalValue, zpow_ne_zero] using this
  rcases Nat.eq_zero_or_pos digits with isZero | nonzero
  · simp [ofDecimal, isZero, zeroIff.mp isZero]
  · have otherNonzero : 0 < otherDigits :=
      Nat.pos_of_ne_zero fun isZero => nonzero.ne' (zeroIff.mpr isZero)
    have quotients := Magnitude.ofQuotient_congr (decimalQuotient_positive digits power)
      (decimalQuotient_positive otherDigits otherPower)
      (by rw [decimalQuotient_value, decimalQuotient_value, same])
    rw [ofDecimal_eq negative power nonzero, ofDecimal_eq negative otherPower otherNonzero, same,
      ofQuotient?, ofQuotient?, quotients]

/-- No magnitude reaches the power of two behind the greatest one. -/
theorem value_lt (m : Magnitude) : m.value < 2 ^ (1024 : Int) := by
  obtain ⟨bounded, _, most, _⟩ := m.canonical
  have significandBelow : (m.significand : ℚ) < 2 ^ (53 : Int) := by exact_mod_cast bounded
  calc m.value < 2 ^ (53 : Int) * 2 ^ m.exponent := by
        unfold Magnitude.value
        gcongr
    _ ≤ 2 ^ (53 : Int) * 2 ^ (971 : Int) := by
        gcongr
        norm_num
    _ = 2 ^ (1024 : Int) := by rw [← zpow_add₀ (by norm_num)]; norm_num

/-- Every magnitude other than zero reaches the least power of two. -/
theorem le_value {m : Magnitude} (nonzero : 0 < m.significand) :
    (2 : ℚ) ^ (-1074 : Int) ≤ m.value := by
  have significandAbove : (1 : ℚ) ≤ m.significand := by exact_mod_cast nonzero
  calc (2 : ℚ) ^ (-1074 : Int) ≤ 2 ^ m.exponent := by
        gcongr
        · norm_num
        · exact m.canonical.2.1
    _ = 1 * 2 ^ m.exponent := (one_mul _).symm
    _ ≤ m.value := by
        unfold Magnitude.value
        gcongr

/-- A power of two within a power of ten, as rational numbers. -/
theorem two_le_ten (twos : Nat) {tens : Nat} (within : 2 ^ twos ≤ 10 ^ tens) :
    (2 : ℚ) ^ (twos : Int) ≤ ((10 : Nat) : ℚ) ^ (tens : Int) := by
  rw [zpow_natCast, zpow_natCast]
  exact_mod_cast within

/-- The inverses of a power of two and of a power of ten stand the other way round. -/
theorem ten_le_two (twos : Nat) {tens : Nat} (within : 2 ^ twos ≤ 10 ^ tens) :
    ((10 : Nat) : ℚ) ^ (-(tens : Int)) ≤ (2 : ℚ) ^ (-(twos : Int)) := by
  rw [zpow_neg, zpow_neg]
  exact inv_anti₀ (by positivity) (two_le_ten twos within)

/-- The decimal logarithm of a magnitude other than zero is in the range in which decimals
are rounded. -/
theorem log_bounds {m : Magnitude} (nonzero : 0 < m.significand) :
    -331 ≤ Int.log 10 m.value ∧ Int.log 10 m.value < 320 := by
  have above := le_value nonzero
  have positive : 0 < m.value := lt_of_lt_of_le (by positivity) above
  have least : -((331 : Nat) : Int) ≤ Int.log 10 m.value := by
    rw [← Int.zpow_le_iff_le_log (by decide) positive]
    exact le_trans (ten_le_two 1074 (by decide +kernel)) above
  have most : Int.log 10 m.value < ((320 : Nat) : Int) := by
    rw [← Int.lt_zpow_iff_log_lt (by decide) positive]
    exact lt_of_lt_of_le (value_lt m) (two_le_ten 1024 (by decide +kernel))
  exact ⟨least, most⟩

/-- A decimal whose value is a magnitude is read as that magnitude. -/
theorem ofDecimal_value (negative : Bool) {m : Magnitude} {digits : Nat} {power : Int}
    (same : decimalValue digits power = m.value) :
    ofDecimal negative digits power = .finite negative m := by
  rcases Nat.eq_zero_or_pos m.significand with isZero | nonzero
  · have digitsZero : digits = 0 := by
      simpa [decimalValue, Magnitude.value, isZero, zpow_ne_zero] using same
    simp [ofDecimal, digitsZero, Magnitude.eq_zero isZero]
  · have positive : 0 < m.value := lt_of_lt_of_le (by positivity) (le_value nonzero)
    have digitsNonzero : 0 < digits := by
      rcases Nat.eq_zero_or_pos digits with digitsZero | digitsNonzero
      · rw [← same, decimalValue, digitsZero, Nat.cast_zero, zero_mul] at positive
        exact absurd positive (lt_irrefl _)
      · exact digitsNonzero
    obtain ⟨least, most⟩ := log_bounds nonzero
    rw [ofDecimal_eq negative power digitsNonzero, same, if_neg (by omega), if_neg (by omega),
      ofQuotient?, Magnitude.ofQuotient_value (decimalQuotient_positive digits power)
        ((decimalQuotient_value digits power).trans same)]
    rfl

/-- The sign of a decimal is the sign of its double. -/
theorem ofDecimal_sign (negative : Bool) {m : Magnitude} {digits : Nat} {power : Int}
    (unsigned : ofDecimal false digits power = .finite false m) :
    ofDecimal negative digits power = .finite negative m := by
  rcases Nat.eq_zero_or_pos digits with isZero | nonzero
  · obtain rfl : Magnitude.zero = m := by simpa [ofDecimal, isZero] using unsigned
    simp [ofDecimal, isZero]
  · rw [ofDecimal_eq _ power nonzero] at unsigned ⊢
    split_ifs at unsigned ⊢ with tiny huge
    · obtain rfl : Magnitude.zero = m := by simpa using unsigned
      rfl
    · rw [ofQuotient?] at unsigned ⊢
      cases nearest : Magnitude.ofQuotient? (decimalQuotient digits power).1
          (decimalQuotient digits power).2 with
      | none => simp [nearest] at unsigned
      | some found =>
        obtain rfl : found = m := by simpa [nearest] using unsigned
        rfl

/-- The exact decimal of a magnitude has its value. -/
theorem exactDecimal_value (m : Magnitude) :
    decimalValue (exactDecimal m).digits (exactDecimal m).power = m.value := by
  unfold exactDecimal decimalValue Magnitude.value
  split
  · rename_i negative
    obtain ⟨count, same⟩ : ∃ count : Nat, m.exponent = -(count : Int) :=
      ⟨(-m.exponent).toNat, by omega⟩
    rw [same]
    have tens : (10 : ℚ) ^ count = 5 ^ count * 2 ^ count := by
      rw [← mul_pow]
      norm_num
    simp only [neg_neg, Int.toNat_natCast, Nat.pow_eq, Nat.cast_mul, Nat.cast_pow,
      Nat.cast_ofNat, zpow_neg, zpow_natCast, tens]
    field_simp
  · rename_i nonnegative
    obtain ⟨count, same⟩ : ∃ count : Nat, m.exponent = (count : Int) :=
      ⟨m.exponent.toNat, by omega⟩
    rw [same]
    simp

/-- The decimal that is written for a magnitude is read as that magnitude: the digits that
were found were tried, and the exact decimal needs no trial. -/
theorem ofDecimal_shortest (negative : Bool) (m : Magnitude) :
    ofDecimal negative (shortest m).digits (shortest m).power = .finite negative m := by
  unfold shortest
  cases tried : (candidates m 17).find? fun decimal =>
      ofDecimal false decimal.digits decimal.power == .finite false m with
  | none => exact ofDecimal_value negative (exactDecimal_value m)
  | some decimal =>
    have readsBack := List.find?_some tried
    exact ofDecimal_sign negative (by simpa using readsBack)

/-- A whole number that has a nearest double is read as it from its digits. -/
theorem ofDecimal_whole {negative : Bool} {whole : Nat} {nearest : Double}
    (found : ofQuotient? negative whole 1 = some nearest) :
    ofDecimal negative whole 0 = nearest := by
  rcases Nat.eq_zero_or_pos whole with isZero | nonzero
  · subst isZero
    simpa [ofDecimal, ofQuotient?, Magnitude.ofQuotient?] using found
  · have value : decimalValue whole 0 = whole := by simp [decimalValue]
    have quotient : decimalQuotient whole 0 = (whole, 1) := by simp [decimalQuotient]
    have positive : (0 : ℚ) < whole := by exact_mod_cast nonzero
    have least : 0 ≤ Int.log 10 (whole : ℚ) := by
      rw [← Int.zpow_le_iff_le_log (by decide) positive]
      exact_mod_cast nonzero
    have most : Int.log 10 (whole : ℚ) < ((320 : Nat) : Int) := by
      rw [← Int.lt_zpow_iff_log_lt (by decide) positive]
      obtain ⟨m, rounded, _⟩ := Option.map_eq_some_iff.mp found
      have below := Magnitude.value_lt_of_ofQuotient Nat.one_pos rounded
      rw [Nat.cast_one, div_one] at below
      exact lt_of_lt_of_le below (two_le_ten 1024 (by decide +kernel))
    rw [ofDecimal_eq negative 0 nonzero, value, quotient, if_neg (by omega),
      if_neg (by push_cast at most; omega), found]
    rfl

end Double

end InfraReview
