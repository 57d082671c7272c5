import InfraReview.Proofs.Calendar.Writing
import InfraReview.Proofs.Suppression.Division

/-!
# When an entry expires

An entry carries a text, and only a text that writes a date of the calendar has a meaning: the
midnight at which that date begins. An entry with any other text never expires.

Time is told by the wall clock. A date stands for its midnight and a distance from universal time
is left aside, so two points in time are compared by the numbers of their wall clocks. An entry
that is expired at one point stays expired at every later one.
-/

namespace InfraReview

/-- A year is a leap year when four divides it, and four hundred does if one hundred does. -/
theorem isLeapYear_iff (year : Nat) :
    isLeapYear year = true ↔ 4 ∣ year ∧ (100 ∣ year → 400 ∣ year) := by
  simp only [isLeapYear, Bool.and_eq_true, Bool.or_eq_true, beq_iff_eq, bne_iff_ne]
  omega

/-- The twenty-ninth of February is a date in the leap years, and in no other year. -/
theorem isDate_leapDay_iff (year : Nat) :
    IsDate year 2 29 ↔ (1 ≤ year ∧ year ≤ 9999) ∧ 4 ∣ year ∧ (100 ∣ year → 400 ∣ year) := by
  have days : 29 ≤ daysInMonth year 2 ↔ isLeapYear year = true := by
    simp only [daysInMonth]
    split <;> simp_all
  simp [IsDate, days, isLeapYear_iff, and_assoc]

namespace Suppression

/-- The moment of an entry is the midnight of the date that its text writes. -/
theorem expiry_eq_some_iff (entry : Suppression) (moment : Moment) :
    entry.expiry? = some moment ↔ ∃ date : Date, moment = Moment.midnight date ∧
      Date.Writes entry.expires.toList date.year date.month date.day := by
  rw [expiry?, Option.map_eq_some_iff]
  constructor
  · rintro ⟨date, read, rfl⟩
    exact ⟨date, rfl, (Date.read_eq_some_iff _ _).mp read⟩
  · rintro ⟨date, rfl, writes⟩
    exact ⟨date, (Date.read_eq_some_iff _ _).mpr writes, rfl⟩

/-- An entry has no moment when its text writes no date that exists. -/
theorem expiry_eq_none_iff (entry : Suppression) :
    entry.expiry? = none ↔ ∀ year month day,
      Date.Writes entry.expires.toList year month day → ¬ IsDate year month day := by
  rw [expiry?, Option.map_eq_none_iff, Date.read_eq_none_iff]

/-- An entry is expired when its moment is before the wall clock. -/
theorem isExpiredAt_iff (entry : Suppression) (now : Instant) :
    entry.isExpiredAt now = true ↔
      ∃ expiry, entry.expiry? = some expiry ∧ expiry.numbers < now.wallClock.numbers := by
  rw [isExpiredAt, isExpired_iff, HasPassed]
  constructor
  · rintro ⟨date, read, passed⟩
    exact ⟨Moment.midnight date, by rw [expiry?, read]; rfl, passed⟩
  · rintro ⟨expiry, found, passed⟩
    obtain ⟨date, read, rfl⟩ := Option.map_eq_some_iff.mp found
    exact ⟨date, read, passed⟩

/-- What is expired stays expired. -/
theorem isExpiredAt_mono {entry : Suppression} {now later : Instant}
    (after : now.wallClock.numbers ≤ later.wallClock.numbers)
    (expired : entry.isExpiredAt now = true) : entry.isExpiredAt later = true := by
  obtain ⟨expiry, found, passed⟩ := (entry.isExpiredAt_iff now).mp expired
  exact (entry.isExpiredAt_iff later).mpr ⟨expiry, found, lt_of_lt_of_le passed after⟩

/-- An entry expires after the midnight of the date that its text writes, and never when its text
writes no date of the calendar. A date that is written out in full is taken for itself. Whether
the entry is expired is told by the wall clock alone, and once it is, it stays so. -/
theorem expires_by_calendar (entry : Suppression) :
    (∀ moment, entry.expiry? = some moment ↔ ∃ date : Date, moment = Moment.midnight date ∧
      Date.Writes entry.expires.toList date.year date.month date.day) ∧
    (entry.expiry? = none ↔ ∀ year month day,
      Date.Writes entry.expires.toList year month day → ¬ IsDate year month day) ∧
    (∀ year, IsDate year 2 29 ↔
      (1 ≤ year ∧ year ≤ 9999) ∧ 4 ∣ year ∧ (100 ∣ year → 400 ∣ year)) ∧
    (∀ date : Date, { entry with expires := date.text }.expiry? = some (Moment.midnight date)) ∧
    (∀ now : Instant, entry.isExpiredAt now = true ↔
      ∃ expiry, entry.expiry? = some expiry ∧ expiry.numbers < now.wallClock.numbers) ∧
    (∀ (day : Date) (time : Moment) (offset : Option Int),
      (Instant.date day).wallClock = Moment.midnight day ∧
        (Instant.clock time offset).wallClock = time) ∧
    ∀ now later : Instant, now.wallClock.numbers ≤ later.wallClock.numbers →
      entry.isExpiredAt now = true → entry.isExpiredAt later = true := by
  refine ⟨entry.expiry_eq_some_iff, entry.expiry_eq_none_iff, isDate_leapDay_iff, ?_,
    entry.isExpiredAt_iff, fun _ _ _ => ⟨rfl, rfl⟩, fun _ _ => isExpiredAt_mono⟩
  intro date
  rw [expiry?, Date.read_text]
  rfl

/-- An entry for a leap day, with a month of one digit, is not expired on that day, but it is at
half past midnight, whatever the distance of the clock from universal time, and on the day after;
there is no such day in a year that one hundred divides and four hundred does not. -/
theorem leap_day_expires :
    let entry : Suppression := ⟨"S3-001", "*", "archive", "2024-2-29"⟩
    let missing : Suppression := ⟨"S3-001", "*", "archive", "2100-02-29"⟩
    let day : Date := ⟨2024, 2, 29, by decide⟩
    let halfPast : Moment := ⟨day, 1800000000, by decide⟩
    entry.expiry? = some (Moment.midnight day) ∧ missing.expiry? = none ∧
      entry.isExpiredAt (.date day) = false ∧
      entry.isExpiredAt (.clock halfPast (some 720)) = true ∧
      entry.isExpiredAt (.date ⟨2024, 3, 1, by decide⟩) = true := by
  intro entry missing day halfPast
  have expired : entry.isExpiredAt (.clock halfPast (some 720)) = true := by decide +kernel
  refine ⟨by decide +kernel, ?_, by decide +kernel, expired, ?_⟩
  · decide +kernel
  · exact (expires_by_calendar entry).2.2.2.2.2.2 _ _ (by decide) expired

end Suppression

end InfraReview
