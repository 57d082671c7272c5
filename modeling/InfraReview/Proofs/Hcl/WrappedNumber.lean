import InfraReview.Proofs.Hcl.Wrapping

/-!
# Negative numbers

Source text has no negative numbers, only the minus sign before a number, and the expression
that this makes is wrapped in the signs of an interpolation. A wrapped number is a literal
all the same. Every number that is written here is of the form that can be wrapped, so that
the literal is the double that the number writes.
-/

namespace InfraReview.Hcl

open Double (Layout AllDigits isDecimalDigit_digit)

/-- A number with a minus sign, wrapped in the signs of an interpolation. -/
def wrappedNegative (magnitude : List Char) : String :=
  String.ofList ('$' :: '\x7b' :: '-' :: (magnitude ++ ['\x7d']))

/-- A written number with a minus sign before it is one that can be wrapped. -/
theorem isNumber_parts {parts : Layout} (sound : parts.Sound) : IsNumber ('-' :: parts.text) := by
  have digits {text : List Char} (all : AllDigits text) (filled : text ≠ []) : IsDigits text :=
    ⟨filled, fun c member => isDecimalDigit_digit (all c member)⟩
  have behindPoint : IsFraction parts.fractionText := by
    by_cases empty : parts.fraction = []
    · rw [Layout.fractionText, empty]
      exact .absent
    · rw [Layout.fractionText_filled empty]
      exact .given (digits sound.fraction empty)
  have scaled : IsExponent parts.exponentText := by
    unfold Layout.exponentText
    split
    · exact .absent
    · rename_i negative written given
      obtain ⟨all, filled⟩ := sound.exponent negative written given
      cases negative with
      | false => exact .given (.inl rfl) (.inr (.inr rfl)) (digits all filled)
      | true => exact .given (.inl rfl) (.inr (.inl rfl)) (digits all filled)
  have numeral := IsNumber.of (.inr rfl) (digits sound.whole sound.wholeFilled) behindPoint scaled
  simpa [Layout.text] using numeral

/-- A wrapped negative number is the literal of the double that it writes. -/
theorem stringLiteral_wrappedNegative {parts : Layout} (sound : parts.Sound) :
    stringLiteral (wrappedNegative parts.text) =
      .ok (.value (.number (Double.ofDecimal true parts.digits parts.power))) := by
  have read : Double.read ('-' :: parts.text) = Double.ofDecimal true parts.digits parts.power :=
    Double.read_layout true sound
  have wraps : Wraps ('$' :: '\x7b' :: '-' :: (parts.text ++ ['\x7d']))
      (some (.number (Double.read ('-' :: parts.text)))) :=
    @Wraps.of [] ('-' :: parts.text) [] [] _ (by simp) (.number (isNumber_parts sound)) (by simp)
      (.inl rfl)
  rw [stringLiteral, wrappedNegative, String.toList_ofList, wrapped_of_wraps wraps, read]
  rfl

/-- A wrapped negative integer is the literal of its double. -/
theorem stringLiteral_wrappedInteger {magnitude : Nat} {nearest : Double}
    (found : Double.ofQuotient? true magnitude 1 = some nearest) :
    stringLiteral (wrappedNegative (Nat.toDigits 10 magnitude)) =
      .ok (.value (.number nearest)) := by
  let parts : Layout := ⟨Nat.toDigits 10 magnitude, [], none⟩
  have sound : parts.Sound :=
    ⟨Double.allDigits_toDigits magnitude, Nat.toDigits_ne_nil, Double.leading_toDigits,
      by simp [parts, AllDigits], by simp [parts]⟩
  have text : parts.text = Nat.toDigits 10 magnitude := by
    simp [parts, Layout.text, Layout.fractionText, Layout.exponentText]
  have digits : parts.digits = magnitude := by
    simpa [parts, Layout.digits] using Double.digitsValue_toDigits magnitude
  have power : parts.power = 0 := by simp [parts, Layout.power, Layout.shift]
  have literal := stringLiteral_wrappedNegative sound
  rwa [text, digits, power, Double.ofDecimal_whole found] at literal

/-- A wrapped negative double is the literal of that double. -/
theorem stringLiteral_wrappedDouble (m : Magnitude) :
    stringLiteral (wrappedNegative (Double.magnitudeText m)) =
      .ok (.value (.number (.finite true m))) := by
  obtain ⟨parts, sound, _, text, value⟩ := Double.magnitudeText_parts true m
  rw [text, stringLiteral_wrappedNegative sound, value]

end InfraReview.Hcl
