import InfraReview.Text.Digit
import InfraReview.Text.Lines

/-!
# Calendar dates

A date is a day of the Gregorian calendar, extended to all years from one to 9999. Every
value of the type is a real date: the bounds on its month and day are part of it.

A date is written with four digits for the year and two each for the month and the day.
Reading allows more: the month and the day may drop a leading zero, a blank may stand
before a day of one digit, the year may use the digits of any script, and so may the
second digit of a day from ten to twenty-nine. Nothing may stand before or after.
-/

namespace InfraReview

/-- A leap year is divisible by four, and by four hundred if it is by one hundred. -/
def isLeapYear (year : Nat) : Bool :=
  year % 4 == 0 && (year % 100 != 0 || year % 400 == 0)

/-- The number of days of a month; none for a number that names no month. -/
def daysInMonth (year : Nat) : Nat → Nat
  | 1 | 3 | 5 | 7 | 8 | 10 | 12 => 31
  | 4 | 6 | 9 | 11 => 30
  | 2 => if isLeapYear year then 29 else 28
  | _ => 0

/-- The numbers of a day that exists. -/
def IsDate (year month day : Nat) : Prop :=
  1 ≤ year ∧ year ≤ 9999 ∧ 1 ≤ month ∧ month ≤ 12 ∧ 1 ≤ day ∧ day ≤ daysInMonth year month

instance (year month day : Nat) : Decidable (IsDate year month day) :=
  inferInstanceAs (Decidable (_ ∧ _ ∧ _ ∧ _ ∧ _ ∧ _))

/-- A calendar date. -/
structure Date where
  year : Nat
  month : Nat
  day : Nat
  exists_day : IsDate year month day
  deriving DecidableEq, Repr

/-- Digits with zeros before them up to a number of places. -/
def paddedNumber (places value : Nat) : String :=
  let digits := Nat.toDigits 10 value
  String.ofList (List.replicate (places - digits.length) '0' ++ digits)

namespace Date

/-- Why three numbers are no date. -/
inductive Fault where
  | year (number : Nat)
  | month
  | day
  deriving DecidableEq, Repr

/-- The message for numbers that are no date. -/
def Fault.message : Fault → String
  | .year number => "year " ++ toString number ++ " is out of range"
  | .month => "month must be in 1..12"
  | .day => "day is out of range for month"

/-- The date with the given numbers. The year is looked at first, then the month. -/
def ofNumbers (year month day : Nat) : Except Fault Date :=
  if real : IsDate year month day then .ok ⟨year, month, day, real⟩
  else if year < 1 || 9999 < year then .error (.year year)
  else if month < 1 || 12 < month then .error .month
  else .error .day

/-- The date after one: the next day of its month, else the first day of the next month or
year. The last date of all is its own successor. -/
def next (date : Date) : Date :=
  let candidates := [ofNumbers date.year date.month (date.day + 1),
    ofNumbers date.year (date.month + 1) 1, ofNumbers (date.year + 1) 1 1]
  (candidates.filterMap (·.toOption)).headD date

/-- True when one date comes before another. -/
def isBefore (left right : Date) : Bool :=
  left.year < right.year ||
    (left.year == right.year &&
      (left.month < right.month || (left.month == right.month && left.day < right.day)))

/-- The number of days of the first months of a year. -/
def daysOfMonths (year : Nat) : Nat → Nat
  | 0 => 0
  | months + 1 => daysOfMonths year months + daysInMonth year (months + 1)

/-- The number of a day, counted from the first day of the year one, which has number one. -/
def ordinal (date : Date) : Nat :=
  let years := date.year - 1
  365 * years + years / 4 - years / 100 + years / 400
    + daysOfMonths date.year (date.month - 1) + date.day

/-- A date in writing. -/
def text (date : Date) : String :=
  paddedNumber 4 date.year ++ "-" ++ paddedNumber 2 date.month ++ "-" ++ paddedNumber 2 date.day

/-- A date in writing with as many digits for the year as it needs. -/
def shortText (date : Date) : String :=
  toString date.year ++ "-" ++ paddedNumber 2 date.month ++ "-" ++ paddedNumber 2 date.day

/-- A year is four digits of any script. -/
def readYear : List Char → Option Nat
  | [a, b, c, d] => do
    let thousands ← Text.digitValue? a
    let hundreds ← Text.digitValue? b
    let tens ← Text.digitValue? c
    let ones ← Text.digitValue? d
    some (1000 * thousands + 100 * hundreds + 10 * tens + ones)
  | _ => none

/-- The value of an ASCII digit that lies between bounds. -/
def digitWithin? (low high : Char) (c : Char) : Option Nat :=
  if low ≤ c && c ≤ high then some (c.toNat - '0'.toNat) else none

/-- A month is a number from one to twelve, with or without a leading zero. -/
def readMonth : List Char → Option Nat
  | [tens, ones] =>
    if tens = '1' then (digitWithin? '0' '2' ones).map (10 + ·)
    else if tens = '0' then digitWithin? '1' '9' ones
    else none
  | [ones] => digitWithin? '1' '9' ones
  | _ => none

/-- A day is a number from one to thirty-one; a single digit may follow a zero or a
blank. -/
def readDay : List Char → Option Nat
  | [tens, ones] =>
    if tens = '3' then (digitWithin? '0' '1' ones).map (30 + ·)
    else if tens = '2' then (Text.digitValue? ones).map (20 + ·)
    else if tens = '1' then (Text.digitValue? ones).map (10 + ·)
    else if tens = '0' ∨ tens = ' ' then digitWithin? '1' '9' ones
    else none
  | [ones] => digitWithin? '1' '9' ones
  | _ => none

/-- The date that a text gives, if it gives one. -/
def read (text : String) : Option Date :=
  match Text.splitChars '-' text.toList with
  | [yearDigits, monthDigits, dayDigits] => do
    let year ← readYear yearDigits
    let month ← readMonth monthDigits
    let day ← readDay dayDigits
    (ofNumbers year month day).toOption
  | _ => none

/-- Numbers are accepted exactly if they are those of a real date. -/
theorem ofNumbers_eq_ok_iff {year month day : Nat} {date : Date} :
    ofNumbers year month day = .ok date ↔
      date.year = year ∧ date.month = month ∧ date.day = day := by
  unfold ofNumbers
  constructor
  · intro made
    split at made
    · cases made
      exact ⟨rfl, rfl, rfl⟩
    · split at made <;> try split at made
      all_goals exact nomatch made
  · rintro ⟨rfl, rfl, rfl⟩
    rw [dif_pos date.exists_day]

end Date

end InfraReview
