import InfraReview.Calendar.Date
import InfraReview.Proofs.Number.Notation
import InfraReview.Proofs.Success
import InfraReview.Proofs.Text.Split

/-!
# Dates that are read

What is read as a date is said here as a grammar, without the order in which a text is searched: a
year, a month and a day with dashes between them. Each of the three has its own form. The digits of
a year are of any script, and there are four; a month has one or two ASCII digits; a day has them
too, but a blank may stand for its zero, and its second digit may be of any script up to the
twenty-nine.

A dash is no digit and no blank, so a text has these three parts in one way only.
-/

namespace InfraReview

open Double (AllDigits digitsValue)

namespace Date

/-- A year in writing: four decimal digits of any script. -/
structure WritesYear (text : List Char) (year : Nat) : Prop where
  digits : ∀ c ∈ text, Text.isDecimalDigit c = true
  length : text.length = 4
  value : digitsValue text = year

/-- A number in one or two ASCII digits. -/
structure WritesShort (text : List Char) (number : Nat) : Prop where
  digits : AllDigits text
  length : text.length = 1 ∨ text.length = 2
  value : digitsValue text = number

/-- A month in writing: a number from one to twelve. -/
structure WritesMonth (text : List Char) (month : Nat) : Prop where
  number : WritesShort text month
  first : 1 ≤ month
  last : month ≤ 12

/-- A day in writing: a number from one to thirty-one, or a blank and a digit other than zero. From
ten to twenty-nine its second digit may be of any script. -/
inductive WritesDay : List Char → Nat → Prop where
  | short {text : List Char} {day : Nat} (number : WritesShort text day) (first : 1 ≤ day)
      (last : day ≤ 31) : WritesDay text day
  | blank {c : Char} {day : Nat} (number : WritesShort [c] day) (first : 1 ≤ day) :
      WritesDay [' ', c] day
  | script {tens ones : Char} (early : tens = '1' ∨ tens = '2')
      (digit : Text.isDecimalDigit ones = true) :
      WritesDay [tens, ones] (digitsValue [tens, ones])

/-- A date in writing: a year, a month and a day with dashes between them, and nothing else. -/
def Writes (text : List Char) (year month day : Nat) : Prop :=
  ∃ yearText monthText dayText, text = yearText ++ '-' :: (monthText ++ '-' :: dayText) ∧
    WritesYear yearText year ∧ WritesMonth monthText month ∧ WritesDay dayText day

/-! ### The parts of a date -/

/-- Four decimal digits are read as a year, and nothing else is. -/
theorem readYear_eq_some_iff (text : List Char) (year : Nat) :
    readYear text = some year ↔ WritesYear text year := by
  constructor
  · intro read
    unfold readYear at read
    split at read
    · simp only [Option.bind_eq_bind, Option.bind_eq_some_iff, Option.some.injEq] at read
      obtain ⟨thousands, first, hundreds, second, tens, third, ones, fourth, rfl⟩ := read
      refine ⟨?_, rfl, ?_⟩
      · simp [Text.isDecimalDigit, first, second, third, fourth]
      · simp only [digitsValue, List.foldl_cons, List.foldl_nil, first, second, third, fourth,
          Option.getD_some]
        omega
    · cases read
  · rintro ⟨digits, four, rfl⟩
    obtain ⟨a, rest, rfl⟩ := List.exists_cons_of_length_eq_add_one four
    obtain ⟨b, c, d, rfl⟩ := List.length_eq_three.mp (Nat.succ.inj four)
    have value (digit : Char) (member : digit ∈ [a, b, c, d]) :
        ∃ number, Text.digitValue? digit = some number :=
      Option.isSome_iff_exists.mp (digits digit member)
    obtain ⟨thousands, first⟩ := value a (by simp)
    obtain ⟨hundreds, second⟩ := value b (by simp)
    obtain ⟨tens, third⟩ := value c (by simp)
    obtain ⟨ones, fourth⟩ := value d (by simp)
    simp only [readYear, digitsValue, first, second, third, fourth, Option.bind_eq_bind,
      Option.bind_some, List.foldl_cons, List.foldl_nil, Option.getD_some, Option.some.injEq]
    omega

/-- The ASCII digits. -/
def digits : List Char := ['0', '1', '2', '3', '4', '5', '6', '7', '8', '9']

/-- An ASCII digit is one of ten. -/
theorem mem_digits {c : Char} (digit : c.isDigit = true) : c ∈ digits := by
  simp only [Char.isDigit, Bool.and_eq_true, decide_eq_true_eq, ge_iff_le,
    UInt32.le_iff_toNat_le] at digit
  have bounds : 48 ≤ c.toNat ∧ c.toNat ≤ 57 := digit
  have same := c.ofNat_toNat
  generalize c.toNat = code at bounds same
  subst same
  have all : ∀ code < 58, 48 ≤ code → Char.ofNat code ∈ digits := by decide
  exact all code (by omega) bounds.1

/-- A digit that lies between bounds is an ASCII digit when both bounds are. -/
theorem isDigit_of_within {low high c : Char} {value : Nat}
    (within : digitWithin? low high c = some value) (lowest : '0' ≤ low) (highest : high ≤ '9') :
    c.isDigit = true := by
  unfold digitWithin? at within
  split at within
  · rename_i bounds
    simp only [Bool.and_eq_true, decide_eq_true_eq] at bounds
    have least : '0' ≤ c := Char.le_trans lowest bounds.1
    have most : c ≤ '9' := Char.le_trans bounds.2 highest
    simp only [Char.isDigit, Bool.and_eq_true, decide_eq_true_eq]
    exact ⟨least, most⟩
  · cases within

/-- What holds of every digit and of every two digits holds of one or two digits. -/
theorem short_forall {motive : List Char → Prop} [DecidablePred motive]
    (one : (digits.all fun a => motive [a]) = true)
    (two : (digits.all fun a => digits.all fun b => motive [a, b]) = true) {text : List Char}
    (all : AllDigits text) (length : text.length = 1 ∨ text.length = 2) : motive text := by
  simp only [List.all_eq_true, decide_eq_true_eq] at one two
  rcases length with single | double
  · obtain ⟨a, rfl⟩ := List.length_eq_one_iff.mp single
    exact one a (mem_digits (all a (by simp)))
  · obtain ⟨a, b, rfl⟩ := List.length_eq_two.mp double
    exact two a (mem_digits (all a (by simp))) b (mem_digits (all b (by simp)))

/-- One or two digits are read as a month when their number is one. -/
theorem readMonth_short {text : List Char} (all : AllDigits text)
    (length : text.length = 1 ∨ text.length = 2) :
    readMonth text = if 1 ≤ digitsValue text ∧ digitsValue text ≤ 12 then some (digitsValue text)
      else none := by
  refine short_forall (motive := fun text => readMonth text =
    if 1 ≤ digitsValue text ∧ digitsValue text ≤ 12 then some (digitsValue text) else none)
    ?_ ?_ all length
  · decide
  · decide +kernel

/-- What is read as a month has one or two ASCII digits. -/
theorem short_of_readMonth {text : List Char} {month : Nat} (read : readMonth text = some month) :
    AllDigits text ∧ (text.length = 1 ∨ text.length = 2) := by
  unfold readMonth at read
  split at read
  · split_ifs at read with one zero
    · subst one
      obtain ⟨value, within, _⟩ := Option.map_eq_some_iff.mp read
      have digit := isDigit_of_within within (by decide) (by decide)
      exact ⟨by simp [AllDigits, digit], .inr rfl⟩
    · subst zero
      have digit := isDigit_of_within read (by decide) (by decide)
      exact ⟨by simp [AllDigits, digit], .inr rfl⟩
  · have digit := isDigit_of_within read (by decide) (by decide)
    exact ⟨by simp [AllDigits, digit], .inl rfl⟩
  · cases read

/-- A month in writing is read as a month, and nothing else is. -/
theorem readMonth_eq_some_iff (text : List Char) (month : Nat) :
    readMonth text = some month ↔ WritesMonth text month := by
  constructor
  · intro read
    obtain ⟨all, length⟩ := short_of_readMonth read
    rw [readMonth_short all length] at read
    split at read
    · rename_i bounds
      cases read
      exact ⟨⟨all, length, rfl⟩, bounds.1, bounds.2⟩
    · cases read
  · rintro ⟨⟨all, length, rfl⟩, first, last⟩
    rw [readMonth_short all length, if_pos ⟨first, last⟩]

/-- One or two digits are read as a day when their number is one. -/
theorem readDay_short {text : List Char} (all : AllDigits text)
    (length : text.length = 1 ∨ text.length = 2) :
    readDay text = if 1 ≤ digitsValue text ∧ digitsValue text ≤ 31 then some (digitsValue text)
      else none := by
  refine short_forall (motive := fun text => readDay text =
    if 1 ≤ digitsValue text ∧ digitsValue text ≤ 31 then some (digitsValue text) else none)
    ?_ ?_ all length
  · decide
  · decide +kernel

/-- A blank and a digit are read as a day when the digit is not zero. -/
theorem readDay_blank {c : Char} (digit : c.isDigit = true) :
    readDay [' ', c] = if 1 ≤ digitsValue [c] then some (digitsValue [c]) else none := by
  have all : (digits.all fun c => readDay [' ', c] =
      if 1 ≤ digitsValue [c] then some (digitsValue [c]) else none) = true := by
    decide
  simp only [List.all_eq_true, decide_eq_true_eq] at all
  exact all c (mem_digits digit)

/-- The number that two digits of any script write. -/
theorem digitsValue_script {first second : Char} {tens ones : Nat}
    (behind : Text.digitValue? second = some ones) (front : Text.digitValue? first = some tens) :
    digitsValue [first, second] = 10 * tens + ones := by
  simp [digitsValue, front, behind]

/-- One or two ASCII digits that are read as a day are a day in writing. -/
theorem writesDay_short {text : List Char} {day : Nat} (read : readDay text = some day)
    (all : AllDigits text) (length : text.length = 1 ∨ text.length = 2) : WritesDay text day := by
  rw [readDay_short all length] at read
  split at read
  · rename_i bounds
    cases read
    exact .short ⟨all, length, rfl⟩ bounds.1 bounds.2
  · cases read

/-- A day in writing is read as a day, and nothing else is. -/
theorem readDay_eq_some_iff (text : List Char) (day : Nat) :
    readDay text = some day ↔ WritesDay text day := by
  constructor
  · intro read
    have whole := read
    unfold readDay at read
    split at read
    · split_ifs at read with three two one early
      · subst three
        obtain ⟨value, within, _⟩ := Option.map_eq_some_iff.mp read
        have digit := isDigit_of_within within (by decide) (by decide)
        exact writesDay_short whole (by simp [AllDigits, digit]) (.inr rfl)
      · subst two
        obtain ⟨value, ones, rfl⟩ := Option.map_eq_some_iff.mp read
        rw [← digitsValue_script ones (by decide : Text.digitValue? '2' = some 2)]
        exact .script (.inr rfl) (Option.isSome_of_eq_some ones)
      · subst one
        obtain ⟨value, ones, rfl⟩ := Option.map_eq_some_iff.mp read
        rw [← digitsValue_script ones (by decide : Text.digitValue? '1' = some 1)]
        exact .script (.inl rfl) (Option.isSome_of_eq_some ones)
      · have digit := isDigit_of_within read (by decide) (by decide)
        rcases early with rfl | rfl
        · exact writesDay_short whole (by simp [AllDigits, digit]) (.inr rfl)
        · rw [readDay_blank digit] at whole
          split at whole
          · rename_i first
            cases whole
            exact .blank ⟨by simp [AllDigits, digit], .inl rfl, rfl⟩ first
          · cases whole
    · have digit := isDigit_of_within read (by decide) (by decide)
      exact writesDay_short whole (by simp [AllDigits, digit]) (.inl rfl)
    · cases read
  · intro writes
    cases writes with
    | short number first last =>
      obtain ⟨all, length, rfl⟩ := number
      rw [readDay_short all length, if_pos ⟨first, last⟩]
    | blank number first =>
      obtain ⟨all, _, rfl⟩ := number
      rw [readDay_blank (all _ List.mem_cons_self), if_pos first]
    | script early digit =>
      obtain ⟨value, ones⟩ := Option.isSome_iff_exists.mp digit
      rcases early with rfl | rfl
      · rw [digitsValue_script ones (by decide : Text.digitValue? '1' = some 1)]
        simp [readDay, ones]
      · rw [digitsValue_script ones (by decide : Text.digitValue? '2' = some 2)]
        simp [readDay, ones]

/-! ### Whole dates -/

/-- A year in writing holds no dash. -/
theorem WritesYear.no_dash {text : List Char} {year : Nat} (writes : WritesYear text year) :
    '-' ∉ text := by
  intro member
  have digit := writes.digits '-' member
  revert digit
  decide

/-- One or two digits hold no dash. -/
theorem WritesShort.no_dash {text : List Char} {number : Nat} (writes : WritesShort text number) :
    '-' ∉ text := by
  intro member
  have digit := writes.digits '-' member
  revert digit
  decide

/-- A day in writing holds no dash. -/
theorem WritesDay.no_dash {text : List Char} {day : Nat} (writes : WritesDay text day) :
    '-' ∉ text := by
  cases writes with
  | short number => exact number.no_dash
  | blank number =>
    have free := number.no_dash
    simpa using free
  | @script tens ones early digit =>
    have other : ones ≠ '-' := by
      rintro rfl
      revert digit
      decide
    rcases early with rfl | rfl <;> simp [other.symm]

/-- Three parts with dashes between them. -/
theorem intercalate_parts (first second third : List Char) :
    ['-'].intercalate [first, second, third] = first ++ '-' :: (second ++ '-' :: third) := by
  simp [List.intercalate]

/-- A date is read from a text exactly when the text writes it. -/
theorem read_eq_some_iff (text : String) (date : Date) :
    read text = some date ↔ Writes text.toList date.year date.month date.day := by
  unfold read
  constructor
  · intro found
    split at found
    · rename_i yearText monthText dayText parts
      simp only [Option.bind_eq_bind, Option.bind_eq_some_iff] at found
      obtain ⟨year, yearRead, month, monthRead, day, dayRead, made⟩ := found
      obtain ⟨sameYear, sameMonth, sameDay⟩ := ofNumbers_eq_ok_iff.mp (ok_of_toOption made)
      have whole := Text.intercalate_splitChars '-' text.toList
      rw [parts, intercalate_parts] at whole
      rw [sameYear, sameMonth, sameDay]
      exact ⟨yearText, monthText, dayText, whole.symm, (readYear_eq_some_iff _ _).mp yearRead,
        (readMonth_eq_some_iff _ _).mp monthRead, (readDay_eq_some_iff _ _).mp dayRead⟩
    · cases found
  · rintro ⟨yearText, monthText, dayText, whole, year, month, day⟩
    have parts : Text.splitChars '-' text.toList = [yearText, monthText, dayText] := by
      rw [whole, ← intercalate_parts]
      refine Text.splitChars_intercalate ?_ (by simp)
      simp [year.no_dash, month.number.no_dash, day.no_dash]
    simp only [parts, (readYear_eq_some_iff _ _).mpr year, (readMonth_eq_some_iff _ _).mpr month,
      (readDay_eq_some_iff _ _).mpr day, Option.bind_eq_bind, Option.bind_some]
    rw [ofNumbers_eq_ok_iff.mpr ⟨rfl, rfl, rfl⟩]
    rfl

/-- No date is read from a text exactly when no date that exists is written in it. -/
theorem read_eq_none_iff (text : String) :
    read text = none ↔
      ∀ year month day, Writes text.toList year month day → ¬ IsDate year month day := by
  constructor
  · intro unread year month day writes real
    have read : read text = some ⟨year, month, day, real⟩ := (read_eq_some_iff _ _).mpr writes
    rw [unread] at read
    cases read
  · intro unwritten
    cases found : read text with
    | none => rfl
    | some date =>
      exact absurd date.exists_day (unwritten _ _ _ ((read_eq_some_iff _ _).mp found))

end Date

end InfraReview
