import InfraReview.Proofs.Calendar.Reading

/-!
# Dates in writing

A date in writing is read as that date. The year is the one part for which it matters how many
digits it is written with: the reader takes four, neither more nor fewer, so a year before 1000
needs its zeros. Without them nothing is read at all.
-/

namespace InfraReview

open Double (AllDigits digitsValue)

/-- A number that is written in a number of places: one digit in each of them. -/
structure FillsPlaces (places value : Nat) (text : List Char) : Prop where
  digits : AllDigits text
  length : text.length = places
  value : digitsValue text = value

/-- A number with zeros before it fills its places when it fits. -/
theorem paddedNumber_fills {places value : Nat} (positive : 0 < places)
    (fits : value < 10 ^ places) : FillsPlaces places value (paddedNumber places value).toList := by
  have digits := Double.allDigits_toDigits value
  have length : (Nat.toDigits 10 value).length ≤ places :=
    (Nat.length_toDigits_le_iff (by decide) positive).mpr fits
  rw [paddedNumber, String.toList_ofList]
  refine ⟨(Double.allDigits_zeros _).append digits, ?_, ?_⟩
  · rw [List.length_append, List.length_replicate]
    omega
  · rw [Double.digitsValue_zeros_append digits, Double.digitsValue_toDigits]

/-- Digits hold no dash. -/
theorem no_dash {text : List Char} (digits : AllDigits text) : '-' ∉ text := by
  intro member
  exact Double.digit_ne (digits '-' member) '-' rfl rfl

/-- No month has more than thirty-one days. -/
theorem daysInMonth_le (year month : Nat) : daysInMonth year month ≤ 31 := by
  unfold daysInMonth
  split
  all_goals
    try split
    all_goals decide

namespace Date

/-- The numbers of a date lie within fixed bounds. -/
theorem bounds (date : Date) :
    (1 ≤ date.year ∧ date.year < 10 ^ 4) ∧ (1 ≤ date.month ∧ date.month ≤ 12) ∧
      1 ≤ date.day ∧ date.day ≤ 31 := by
  obtain ⟨firstYear, lastYear, firstMonth, lastMonth, firstDay, lastDay⟩ := date.exists_day
  have days := daysInMonth_le date.year date.month
  omega

/-- The year, the month and the day of a date in writing fill their places. -/
theorem parts_fill (date : Date) :
    FillsPlaces 4 date.year (paddedNumber 4 date.year).toList ∧
      FillsPlaces 2 date.month (paddedNumber 2 date.month).toList ∧
      FillsPlaces 2 date.day (paddedNumber 2 date.day).toList := by
  obtain ⟨⟨_, lastYear⟩, ⟨_, lastMonth⟩, _, lastDay⟩ := date.bounds
  refine ⟨paddedNumber_fills ?_ lastYear, paddedNumber_fills ?_ ?_, paddedNumber_fills ?_ ?_⟩
  all_goals omega

/-- A year in four places is read. -/
theorem readYear_filled {year : Nat} {text : List Char} (filled : FillsPlaces 4 year text) :
    readYear text = some year :=
  (readYear_eq_some_iff text year).mpr
    ⟨fun c member => Double.isDecimalDigit_digit (filled.digits c member), filled.length,
      filled.value⟩

/-- A text of another length is no year. -/
theorem readYear_none {text : List Char} (other : text.length ≠ 4) : readYear text = none := by
  cases read : readYear text with
  | none => rfl
  | some year => exact absurd ((readYear_eq_some_iff text year).mp read).length other

/-- The month of a date in writing is read. -/
theorem readMonth_written (date : Date) :
    readMonth (paddedNumber 2 date.month).toList = some date.month := by
  have months : ∀ month < 13, 1 ≤ month →
      readMonth (paddedNumber 2 month).toList = some month := by
    decide
  obtain ⟨_, ⟨first, last⟩, _⟩ := date.bounds
  exact months date.month (by omega) first

/-- The day of a date in writing is read. -/
theorem readDay_written (date : Date) :
    readDay (paddedNumber 2 date.day).toList = some date.day := by
  have days : ∀ day < 32, 1 ≤ day → readDay (paddedNumber 2 day).toList = some day := by
    decide
  obtain ⟨_, _, first, last⟩ := date.bounds
  exact days date.day (by omega) first

/-- A year in digits, with the month and the day of a date after it, is read as the date of that
year, if the year is read at all. -/
theorem read_written (date : Date) {year : String} (digits : AllDigits year.toList) :
    read (year ++ "-" ++ paddedNumber 2 date.month ++ "-" ++ paddedNumber 2 date.day) =
      (readYear year.toList).bind fun number =>
        (ofNumbers number date.month date.day).toOption := by
  obtain ⟨_, month, day⟩ := date.parts_fill
  have joined :
      (year ++ "-" ++ paddedNumber 2 date.month ++ "-" ++ paddedNumber 2 date.day).toList =
        ['-'].intercalate [year.toList, (paddedNumber 2 date.month).toList,
          (paddedNumber 2 date.day).toList] := by
    simp
  have pieces : Text.splitChars '-'
      (year ++ "-" ++ paddedNumber 2 date.month ++ "-" ++ paddedNumber 2 date.day).toList =
      [year.toList, (paddedNumber 2 date.month).toList, (paddedNumber 2 date.day).toList] := by
    rw [joined]
    apply Text.splitChars_intercalate
    · intro piece member
      simp only [List.mem_cons, List.not_mem_nil, or_false] at member
      rcases member with rfl | rfl | rfl
      · exact no_dash digits
      · exact no_dash month.digits
      · exact no_dash day.digits
    · simp
  simp only [read, pieces, readMonth_written, readDay_written, Option.bind_eq_bind,
    Option.bind_some]

/-- The numbers of a date give the date. -/
theorem ofNumbers_self (date : Date) : ofNumbers date.year date.month date.day = .ok date :=
  ofNumbers_eq_ok_iff.mpr ⟨rfl, rfl, rfl⟩

/-- A date in writing is read as that date. -/
theorem read_text (date : Date) : read date.text = some date := by
  have year := date.parts_fill.1
  rw [text, read_written date year.digits, readYear_filled year, Option.bind_some, ofNumbers_self]
  rfl

/-- From the year 1000 on, a year needs four digits. -/
theorem shortText_eq_text {date : Date} (recent : 1000 ≤ date.year) :
    date.shortText = date.text := by
  obtain ⟨⟨_, lastYear⟩, _⟩ := date.bounds
  have longer : ¬ (Nat.toDigits 10 date.year).length ≤ 3 := by
    rw [Nat.length_toDigits_le_iff (by decide) (by decide)]
    omega
  have year : toString date.year = paddedNumber 4 date.year := by
    have none : 4 - (Nat.toDigits 10 date.year).length = 0 := by omega
    rw [paddedNumber, none, Nat.toString_eq_ofList_toDigits]
    rfl
  rw [shortText, text, year]

/-- A date in writing with as few digits as its year needs is read from the year 1000 on. Before,
no date is read from it. -/
theorem read_shortText (date : Date) :
    read date.shortText = if 1000 ≤ date.year then some date else none := by
  by_cases recent : 1000 ≤ date.year
  · rw [if_pos recent, shortText_eq_text recent, read_text]
  · have shorter : (Nat.toDigits 10 date.year).length ≤ 3 := by
      rw [Nat.length_toDigits_le_iff (by decide) (by decide)]
      omega
    have digits : AllDigits (toString date.year).toList := by
      rw [Nat.toString_eq_ofList_toDigits, String.toList_ofList]
      exact Double.allDigits_toDigits date.year
    have other : (toString date.year).toList.length ≠ 4 := by
      rw [Nat.toString_eq_ofList_toDigits, String.toList_ofList]
      omega
    rw [if_neg recent, shortText, read_written date digits, readYear_none other]
    rfl

end Date

end InfraReview
