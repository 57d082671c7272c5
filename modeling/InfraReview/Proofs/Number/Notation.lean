import InfraReview.Proofs.Number.Decimal

/-!
# Written numbers

A number is written with digits before the point, perhaps digits after it, and perhaps an
exponent with a sign. The reader takes such a text apart again, and what it reads is the
decimal made of all the digits, with a power of ten that the exponent and the number of
digits after the point give.

Every finite double is written in this form, with digits of its decimal from which the zeros
at the end were moved into the power of ten. So reading the text of a finite double gives
that double.
-/

namespace InfraReview

namespace Double

/-- Nothing but the ten digits. -/
def AllDigits (text : List Char) : Prop := ∀ c ∈ text, c.isDigit = true

/-- The parts of a written number: the digits before and after the point, and the digits of
the exponent with its sign, which is negative or not. -/
structure Layout where
  whole : List Char
  fraction : List Char
  exponent : Option (Bool × List Char)

namespace Layout

/-- The point and the digits after it, if there are any. -/
def fractionText (parts : Layout) : List Char :=
  match parts.fraction with
  | [] => []
  | digits => '.' :: digits

/-- Digits after the point are written behind it. -/
theorem fractionText_filled {parts : Layout} (filled : parts.fraction ≠ []) :
    parts.fractionText = '.' :: parts.fraction := by
  unfold fractionText
  split
  · rename_i empty
    exact absurd empty filled
  · rfl

/-- The exponent with its mark and its sign, if there is one. -/
def exponentText (parts : Layout) : List Char :=
  match parts.exponent with
  | none => []
  | some (negative, digits) => 'e' :: (if negative then '-' else '+') :: digits

/-- The text of a written number. -/
def text (parts : Layout) : List Char :=
  parts.whole ++ (parts.fractionText ++ parts.exponentText)

/-- The number that the exponent writes. -/
def shift (parts : Layout) : Int :=
  match parts.exponent with
  | none => 0
  | some (negative, digits) => if negative then -(digitsValue digits : Int) else digitsValue digits

/-- The digits of a written number, without the point. -/
def digits (parts : Layout) : Nat := digitsValue (parts.whole ++ parts.fraction)

/-- The power of ten by which the digits are multiplied. -/
def power (parts : Layout) : Int := parts.shift - parts.fraction.length

/-- A written number that is whole has neither a point nor an exponent. -/
def IsWhole (parts : Layout) : Prop := parts.fraction = [] ∧ parts.exponent = none

/-- A written number is whole when nothing is written behind the digits before the point. -/
theorem isWhole_iff {parts : Layout} :
    (parts.fractionText.isEmpty && parts.exponentText.isEmpty) = true ↔ parts.IsWhole := by
  obtain ⟨whole, fraction, exponent⟩ := parts
  cases fraction <;> cases exponent <;> simp [IsWhole, fractionText, exponentText]

/-- Digits stand where they have to, and before the point and in the exponent there is one
at least. Before the point no digit follows a zero at the start. -/
structure Sound (parts : Layout) : Prop where
  whole : AllDigits parts.whole
  wholeFilled : parts.whole ≠ []
  leading : parts.whole.head? = some '0' → parts.whole = ['0']
  fraction : AllDigits parts.fraction
  exponent : ∀ negative digits, parts.exponent = some (negative, digits) →
    AllDigits digits ∧ digits ≠ []

end Layout

/-- A digit is no other sort of character. -/
theorem digit_ne {c : Char} (digit : c.isDigit = true) (other : Char)
    (noDigit : other.isDigit = false) :
    c ≠ other := by
  rintro rfl
  rw [digit] at noDigit
  cases noDigit

/-- The value of a digit. -/
theorem digitValue_digit {c : Char} (digit : c.isDigit = true) :
    Text.digitValue? c = some (c.toNat - '0'.toNat) := by
  simp only [Char.isDigit, Bool.and_eq_true, decide_eq_true_eq, ge_iff_le,
    UInt32.le_iff_toNat_le] at digit
  have bounds : 48 ≤ c.toNat ∧ c.toNat ≤ 57 := digit
  simp [Text.digitValue?, Text.zeroDigits, bounds]

/-- Digits are decimal digits. -/
theorem isDecimalDigit_digit {c : Char} (digit : c.isDigit = true) :
    Text.isDecimalDigit c = true := by
  simp [Text.isDecimalDigit, digitValue_digit digit]

/-- The number written by digits, as the core library reads it. -/
theorem digitsValue_eq {digits : List Char} (all : AllDigits digits) :
    digitsValue digits = Nat.ofDigitChars 10 digits 0 := by
  suffices continued : ∀ start,
      digits.foldl (fun value c => 10 * value + (Text.digitValue? c).getD 0) start =
        Nat.ofDigitChars 10 digits start from continued 0
  induction digits with
  | nil => exact fun _ => rfl
  | cons c rest inductionHypothesis =>
    intro start
    obtain ⟨first, others⟩ := List.forall_mem_cons.mp all
    simp only [List.foldl_cons, digitValue_digit first, Option.getD_some,
      Nat.ofDigitChars_cons]
    exact inductionHypothesis others _

/-- The digits of a number are digits. -/
theorem allDigits_toDigits (number : Nat) : AllDigits (Nat.toDigits 10 number) :=
  fun _ member => Nat.isDigit_of_mem_toDigits (by decide) (by decide) member

/-- The digits of a number do not start with a zero, unless it is zero. Proof: by induction on the
number; its first digit is the one of its tenth. -/
theorem head_toDigits {number : Nat} (positive : number ≠ 0) :
    (Nat.toDigits 10 number).head? ≠ some '0' := by
  induction number using Nat.strongRecOn with
  | ind number inductionHypothesis =>
    by_cases small : number < 10
    · have digit : ∀ value < 10, value ≠ 0 → [Nat.digitChar value].head? ≠ some '0' := by decide
      rw [Nat.toDigits_of_lt_base small]
      exact digit number small positive
    · rw [Nat.toDigits_of_base_le (by decide) (by omega),
        List.head?_append_of_ne_nil _ Nat.toDigits_ne_nil]
      exact inductionHypothesis (number / 10) (by omega) (by omega)

/-- The digits of a number have no zero in front of others. -/
theorem leading_toDigits {number : Nat} (zero : (Nat.toDigits 10 number).head? = some '0') :
    Nat.toDigits 10 number = ['0'] := by
  by_cases positive : number = 0
  · rw [positive]
    rfl
  · exact absurd zero (head_toDigits positive)

/-- The digits of a number write it. -/
theorem digitsValue_toDigits (number : Nat) : digitsValue (Nat.toDigits 10 number) = number := by
  rw [digitsValue_eq (allDigits_toDigits number), Nat.ofDigitChars_ten_toDigits]

/-- No digits at all. -/
theorem allDigits_nil : AllDigits [] := by
  intro c member
  cases member

/-- Only zeros. -/
theorem allDigits_zeros (count : Nat) : AllDigits (List.replicate count '0') := by
  intro c member
  rw [List.eq_of_mem_replicate member]
  rfl

/-- Digits after digits are digits. -/
theorem AllDigits.append {first second : List Char} (firstAll : AllDigits first)
    (secondAll : AllDigits second) : AllDigits (first ++ second) := by
  intro c member
  rcases List.mem_append.mp member with left | right
  · exact firstAll c left
  · exact secondAll c right

/-- Zeros after digits multiply their number by a power of ten. -/
theorem digitsValue_append_zeros {digits : List Char} (all : AllDigits digits) (count : Nat) :
    digitsValue (digits ++ List.replicate count '0') = digitsValue digits * 10 ^ count := by
  rw [digitsValue_eq all, digitsValue_eq (all.append (allDigits_zeros count)),
    Nat.ofDigitChars_append, Nat.ofDigitChars_replicate_zero, Nat.mul_comm]

/-- Zeros before digits do not count. -/
theorem digitsValue_zeros_append {digits : List Char} (all : AllDigits digits) (count : Nat) :
    digitsValue (List.replicate count '0' ++ digits) = digitsValue digits := by
  rw [digitsValue_eq all, digitsValue_eq ((allDigits_zeros count).append all),
    Nat.ofDigitChars_append, Nat.ofDigitChars_replicate_zero, Nat.mul_zero]

/-- A minus sign, or nothing. -/
def signText (negative : Bool) : List Char := if negative then ['-'] else []

/-- Characters that all pass a test are taken, and what follows them is not if its first
character fails. -/
theorem takeWhile_stop (test : Char → Bool) {first rest : List Char}
    (passes : ∀ c ∈ first, test c = true) (fails : ∀ c ∈ rest.head?, test c = false) :
    (first ++ rest).takeWhile test = first ∧ (first ++ rest).dropWhile test = rest := by
  rw [List.takeWhile_append_of_pos passes, List.dropWhile_append_of_pos passes]
  cases rest with
  | nil => simp
  | cons c rest =>
    have failed : test c = false := fails c rfl
    simp [failed]

/-- No digit marks an exponent. -/
theorem no_mark {c : Char} (digit : c.isDigit = true) : (!(c == 'e' || c == 'E')) = true := by
  simp [digit_ne digit 'e' rfl, digit_ne digit 'E' rfl]

/-- Before the exponent there is no mark of one, and the exponent starts with its mark. -/
theorem split_at_mark {parts : Layout} (sound : parts.Sound) :
    parts.text.takeWhile (fun c => !(c == 'e' || c == 'E')) =
        parts.whole ++ parts.fractionText ∧
      parts.text.dropWhile (fun c => !(c == 'e' || c == 'E')) = parts.exponentText := by
  rw [Layout.text, ← List.append_assoc]
  apply takeWhile_stop
  · intro c member
    rcases List.mem_append.mp member with inWhole | inFraction
    · exact no_mark (sound.whole c inWhole)
    · unfold Layout.fractionText at inFraction
      split at inFraction
      · cases inFraction
      · rename_i filled
        rcases List.mem_cons.mp inFraction with rfl | digit
        · rfl
        · exact no_mark (sound.fraction c digit)
  · intro c head
    unfold Layout.exponentText at head
    split at head
    · cases head
    · obtain rfl : 'e' = c := by simpa using head
      rfl

/-- Before the point there are the digits of the whole part, and behind it those of the
fraction. -/
theorem split_at_point {parts : Layout} (sound : parts.Sound) :
    (parts.whole ++ parts.fractionText).takeWhile (fun c => c != '.') = parts.whole ∧
      ((parts.whole ++ parts.fractionText).dropWhile (fun c => c != '.')).drop 1 =
        parts.fraction := by
  obtain ⟨taken, dropped⟩ := takeWhile_stop (fun c => c != '.')
    (show ∀ c ∈ parts.whole, (c != '.') = true from fun c member => by
      simp [digit_ne (sound.whole c member) '.' rfl])
    (show ∀ c ∈ parts.fractionText.head?, (c != '.') = false by
      intro c head
      unfold Layout.fractionText at head
      split at head
      · cases head
      · obtain rfl : '.' = c := by simpa using head
        rfl)
  refine ⟨taken, ?_⟩
  rw [dropped, Layout.fractionText]
  split <;> simp_all

/-- The number that the mark of an exponent and what follows it stand for. -/
def shiftOf : List Char → Int
  | _ :: '-' :: digits => -(digitsValue digits : Int)
  | _ :: '+' :: digits => digitsValue digits
  | _ :: digits => digitsValue digits
  | [] => 0

/-- The double of a text without a sign, given the sign. -/
def readUnsigned (negative : Bool) (unsigned : List Char) : Double :=
  let mantissa := unsigned.takeWhile fun c => !(c == 'e' || c == 'E')
  let whole := mantissa.takeWhile fun c => c != '.'
  let fraction := (mantissa.dropWhile fun c => c != '.').drop 1
  ofDecimal negative (digitsValue (whole ++ fraction))
    (shiftOf (unsigned.dropWhile fun c => !(c == 'e' || c == 'E')) - fraction.length)

/-- A text with a minus sign is read without it. -/
theorem read_minus (unsigned : List Char) : read ('-' :: unsigned) = readUnsigned true unsigned :=
  rfl

/-- A text that starts with a digit has no sign. -/
theorem read_digit {first : Char} (rest : List Char) (digit : first.isDigit = true) :
    read (first :: rest) = readUnsigned false (first :: rest) := by
  have noMinus := digit_ne digit '-' rfl
  have noPlus := digit_ne digit '+' rfl
  unfold read
  split
  rename_i negative unsigned signed
  split at signed
  · rename_i same
    exact absurd (List.cons.inj same).1 noMinus
  · rename_i same
    exact absurd (List.cons.inj same).1 noPlus
  · cases signed
    rfl

/-- The number of the written exponent is the one of the parts. -/
theorem shiftOf_exponentText (parts : Layout) : shiftOf parts.exponentText = parts.shift := by
  obtain ⟨whole, fraction, exponent⟩ := parts
  cases exponent with
  | none => rfl
  | some given =>
    obtain ⟨negative, digits⟩ := given
    cases negative <;> rfl

/-- The parts of an unsigned text are found again. -/
theorem readUnsigned_layout (negative : Bool) {parts : Layout} (sound : parts.Sound) :
    readUnsigned negative parts.text = ofDecimal negative parts.digits parts.power := by
  obtain ⟨mantissa, tail⟩ := split_at_mark sound
  obtain ⟨whole, fraction⟩ := split_at_point sound
  simp only [readUnsigned, mantissa, tail, whole, fraction, shiftOf_exponentText,
    Layout.digits, Layout.power]

/-- A written number is read as the decimal of its digits and its power. -/
theorem read_layout (negative : Bool) {parts : Layout} (sound : parts.Sound) :
    read (signText negative ++ parts.text) = ofDecimal negative parts.digits parts.power := by
  rw [← readUnsigned_layout negative sound]
  cases negative with
  | true => exact read_minus parts.text
  | false =>
    obtain ⟨first, others, filled⟩ := List.exists_cons_of_ne_nil sound.wholeFilled
    have digit : first.isDigit = true := sound.whole first (by simp [filled])
    simpa [signText, Layout.text, filled] using
      read_digit (others ++ (parts.fractionText ++ parts.exponentText)) digit

/-- A written exponent has digits of its own. -/
theorem exponentText_digits (exponent : Int) :
    ∃ digits, AllDigits digits ∧ digits ≠ [] ∧
      exponentText exponent = (if exponent < 0 then '-' else '+') :: digits ∧
      (if exponent < 0 then -(digitsValue digits : Int) else digitsValue digits) = exponent := by
  have all := allDigits_toDigits exponent.natAbs
  have written := digitsValue_toDigits exponent.natAbs
  have signed :
      (if exponent < 0 then -(exponent.natAbs : Int) else exponent.natAbs) = exponent := by
    split <;> omega
  by_cases short : (Nat.toDigits 10 exponent.natAbs).length < 2
  · refine ⟨'0' :: Nat.toDigits 10 exponent.natAbs, ?_, by simp, by simp [exponentText, short], ?_⟩
    · exact (allDigits_zeros 1).append all
    · have padded : digitsValue ('0' :: Nat.toDigits 10 exponent.natAbs) = exponent.natAbs :=
        (digitsValue_zeros_append all 1).trans written
      rw [padded, signed]
  · refine ⟨Nat.toDigits 10 exponent.natAbs, all, Nat.toDigits_ne_nil,
      by simp [exponentText, short], ?_⟩
    rw [written, signed]

/-- Digits that are laid out as a number: the text has sound parts and not only a whole one, and
their decimal has the value of the digits with the point in its place. -/
def LaidOut (digits : List Char) (point : Int) (text : List Char) : Prop :=
  ∃ parts : Layout, parts.Sound ∧ ¬ parts.IsWhole ∧ text = parts.text ∧
    decimalValue parts.digits parts.power =
      decimalValue (digitsValue digits) (point - digits.length)

/-- Zeros between the point and the digits. -/
theorem laidOut_zeros_before {digits : List Char} (all : AllDigits digits)
    (filled : digits ≠ []) {point : Int} (small : point ≤ 0) :
    LaidOut digits point ('0' :: '.' :: (List.replicate (-point).toNat '0' ++ digits)) := by
  refine ⟨⟨['0'], List.replicate (-point).toNat '0' ++ digits, none⟩, ?_, ?_, ?_, ?_⟩
  · exact ⟨allDigits_zeros 1, by simp, fun _ => rfl, (allDigits_zeros _).append all, by simp⟩
  · simp [Layout.IsWhole, filled]
  · simp [Layout.text, Layout.exponentText, Layout.fractionText_filled, filled]
  · have value : digitsValue (['0'] ++ (List.replicate (-point).toNat '0' ++ digits)) =
        digitsValue digits := by
      rw [← List.append_assoc]
      exact digitsValue_zeros_append all ((-point).toNat + 1)
    simp only [Layout.digits, Layout.power, Layout.shift, value, List.length_append,
      List.length_replicate]
    congr 1
    omega

/-- Zeros between the digits and the point, and one behind it. -/
theorem laidOut_zeros_behind {digits : List Char} (all : AllDigits digits)
    (filled : digits ≠ []) (leading : digits.head? ≠ some '0') {before : Nat}
    (fits : digits.length ≤ before) :
    LaidOut digits before
      (digits ++ List.replicate (before - digits.length) '0' ++ ['.', '0']) := by
  refine ⟨⟨digits ++ List.replicate (before - digits.length) '0', ['0'], none⟩, ?_, ?_, ?_, ?_⟩
  · refine ⟨all.append (allDigits_zeros _), by simp [filled], fun zero => ?_, allDigits_zeros 1,
      by simp⟩
    rw [List.head?_append_of_ne_nil _ filled] at zero
    exact absurd zero leading
  · simp [Layout.IsWhole]
  · simp [Layout.text, Layout.exponentText, Layout.fractionText]
  · have value : digitsValue (digits ++ List.replicate (before - digits.length) '0' ++ ['0']) =
        digitsValue digits * 10 ^ (before - digits.length + 1) := by
      rw [List.append_assoc]
      simpa [List.replicate_succ'] using
        digitsValue_append_zeros all (before - digits.length + 1)
    have distance : (before : Int) - digits.length = ((before - digits.length : Nat) : Int) := by
      omega
    simp only [Layout.digits, Layout.power, Layout.shift, value, decimalValue, distance,
      List.length_singleton, Nat.cast_mul, Nat.cast_pow, Nat.cast_ofNat, zpow_natCast]
    rw [pow_succ]
    norm_num
    ring

/-- A point among the digits. -/
theorem laidOut_point {digits : List Char} (all : AllDigits digits)
    (leading : digits.head? ≠ some '0') {before : Nat} (positive : 0 < before)
    (among : before < digits.length) :
    LaidOut digits before (digits.take before ++ '.' :: digits.drop before) := by
  refine ⟨⟨digits.take before, digits.drop before, none⟩, ?_, ?_, ?_, ?_⟩
  · refine ⟨fun c member => all c (List.mem_of_mem_take member), ?_, fun zero => ?_,
      fun c member => all c (List.mem_of_mem_drop member), by simp⟩
    · simp only [ne_eq, List.take_eq_nil_iff, not_or]
      exact ⟨positive.ne', by rintro rfl; simp at among⟩
    · rw [List.head?_take, if_neg positive.ne'] at zero
      exact absurd zero leading
  · simpa [Layout.IsWhole] using among
  · simp [Layout.text, Layout.exponentText, Layout.fractionText_filled, among]
  · simp only [Layout.digits, Layout.power, Layout.shift, List.take_append_drop,
      List.length_drop]
    congr 1
    omega

/-- One digit before the point, and an exponent. -/
theorem laidOut_exponent {first : Char} {more : List Char} (all : AllDigits (first :: more))
    (leading : (first :: more).head? ≠ some '0') (point : Int) :
    LaidOut (first :: more) point
      (first :: ((Layout.mk [first] more none).fractionText ++
        'e' :: exponentText (point - 1))) := by
  obtain ⟨written, writtenAll, writtenFilled, text, value⟩ := exponentText_digits (point - 1)
  obtain ⟨firstDigit, moreDigits⟩ := List.forall_mem_cons.mp all
  refine ⟨⟨[first], more, some (decide (point - 1 < 0), written)⟩, ?_, ?_, ?_, ?_⟩
  · refine ⟨by simpa [AllDigits] using firstDigit, by simp, fun zero => absurd zero leading,
      moreDigits, ?_⟩
    rintro negative digits ⟨⟩
    exact ⟨writtenAll, writtenFilled⟩
  · simp [Layout.IsWhole]
  · simp [Layout.text, Layout.exponentText, Layout.fractionText, text]
  · have shift : (Layout.mk [first] more (some (decide (point - 1 < 0), written))).shift =
        point - 1 := by
      simpa [Layout.shift] using value
    simp only [Layout.digits, Layout.power, shift, List.singleton_append, List.length_cons]
    congr 1
    push_cast
    ring

/-- Digits are laid out as a number in each of the four forms. -/
theorem layout_laidOut {digits : List Char} (all : AllDigits digits) (filled : digits ≠ [])
    (leading : digits.head? ≠ some '0') (point : Int) :
    LaidOut digits point (layout digits point) := by
  unfold layout
  split
  · by_cases small : point ≤ 0
    · rw [if_pos small]
      exact laidOut_zeros_before all filled small
    · rw [if_neg small]
      obtain ⟨before, rfl⟩ : ∃ before : Nat, point = before := ⟨point.toNat, by omega⟩
      simp only [Int.toNat_natCast]
      split
      · rename_i fits
        exact laidOut_zeros_behind all filled leading fits
      · rename_i among
        exact laidOut_point all leading (by omega) (by omega)
  · cases digits with
    | nil => exact absurd rfl filled
    | cons first more =>
      have exponent := laidOut_exponent all leading point
      cases more with
      | nil => exact exponent
      | cons second more => simpa [Layout.fractionText] using exponent

/-- Only zeros are dropped from the end of digits. Proof: by induction from the last digit. -/
theorem dropTrailingZeros_append (digits : List Char) :
    ∃ count, digits = dropTrailingZeros digits ++ List.replicate count '0' := by
  induction digits using List.reverseRecOn with
  | nil => exact ⟨0, rfl⟩
  | append_singleton digits last inductionHypothesis =>
    by_cases isZero : last = '0'
    · obtain ⟨count, split⟩ := inductionHypothesis
      refine ⟨count + 1, ?_⟩
      have dropped : dropTrailingZeros (digits ++ [last]) = dropTrailingZeros digits := by
        simp [dropTrailingZeros, isZero]
      rw [dropped, List.replicate_succ', ← List.append_assoc, ← split, isZero]
    · exact ⟨0, by simp [dropTrailingZeros, isZero]⟩

/-- Zeros at the end of digits belong to the power of ten as well. -/
theorem decimalValue_zeros {digits : List Char} (all : AllDigits digits) (count : Nat)
    (power : Int) :
    decimalValue (digitsValue (digits ++ List.replicate count '0')) power =
      decimalValue (digitsValue digits) (power + count) := by
  rw [digitsValue_append_zeros all, decimalValue, decimalValue, zpow_add₀ (by norm_num),
    zpow_natCast]
  push_cast
  ring

/-- The magnitude of every finite double is written in sound parts and not only a whole one, and
the decimal that they write is read as the double, with either sign. -/
theorem magnitudeText_parts (negative : Bool) (m : Magnitude) :
    ∃ parts : Layout, parts.Sound ∧ ¬ parts.IsWhole ∧ magnitudeText m = parts.text ∧
      ofDecimal negative parts.digits parts.power = .finite negative m := by
  unfold magnitudeText
  split
  · rename_i isZero
    refine ⟨⟨['0'], ['0'], none⟩, ?_, by simp [Layout.IsWhole], rfl, ?_⟩
    · exact ⟨allDigits_zeros 1, by simp, fun _ => rfl, allDigits_zeros 1, by simp⟩
    · have value : (Layout.mk ['0'] ['0'] none).digits = 0 :=
        digitsValue_zeros_append allDigits_nil 2
      simp [value, ofDecimal, Magnitude.eq_zero isZero]
  · rename_i nonzero
    dsimp only
    have all := allDigits_toDigits (shortest m).digits
    have value := digitsValue_toDigits (shortest m).digits
    have readsBack := ofDecimal_shortest negative m
    have positive : (shortest m).digits ≠ 0 := by
      intro vanishes
      have isZero : Magnitude.zero = m := by simpa [ofDecimal, vanishes] using readsBack
      exact nonzero (isZero ▸ rfl)
    have leading := head_toDigits positive
    generalize Nat.toDigits 10 (shortest m).digits = digits at all value leading ⊢
    obtain ⟨count, split⟩ := dropTrailingZeros_append digits
    generalize dropTrailingZeros digits = kept at split ⊢
    have keptAll : AllDigits kept := fun c member => all c (by simp [split, member])
    have filled : kept ≠ [] := by
      rintro rfl
      apply positive
      rw [← value, split]
      simpa [digitsValue] using digitsValue_zeros_append allDigits_nil count
    have keptLeading : kept.head? ≠ some '0' := by
      rwa [split, List.head?_append_of_ne_nil _ filled] at leading
    obtain ⟨parts, sound, point, text, same⟩ :=
      layout_laidOut keptAll filled keptLeading (digits.length + (shortest m).power)
    refine ⟨parts, sound, point, text, ?_⟩
    rw [← readsBack]
    apply ofDecimal_congr
    rw [same, ← value, split, decimalValue_zeros keptAll]
    congr 1
    simp only [List.length_append, List.length_replicate]
    push_cast
    ring

/-- The text of a finite double is read as that double. -/
theorem read_text (negative : Bool) (m : Magnitude) :
    read (text (.finite negative m)).toList = .finite negative m := by
  obtain ⟨parts, sound, _, written, value⟩ := magnitudeText_parts negative m
  have signed : (text (.finite negative m)).toList = signText negative ++ parts.text := by
    cases negative <;> simp [text, signText, written]
  rw [signed, read_layout negative sound, value]

end Double

end InfraReview
