import InfraReview.Calendar.Moment
import Mathlib.Data.Prod.Lex

/-!
# The order of moments

A moment is told by four numbers: its year, its month, its day and its clock. One moment
comes before another when the first of these numbers in which they differ is the smaller one.
-/

namespace InfraReview

/-- The numbers of a date, in the order of their weight. -/
def Date.numbers (date : Date) : Nat ×ₗ Nat ×ₗ Nat :=
  toLex (date.year, toLex (date.month, date.day))

/-- The numbers of a moment, in the order of their weight. -/
def Moment.numbers (moment : Moment) : (Nat ×ₗ Nat ×ₗ Nat) ×ₗ Nat :=
  toLex (moment.date.numbers, moment.clock)

/-- Dates with the same numbers are the same. -/
theorem Date.numbers_injective {left right : Date} (same : left.numbers = right.numbers) :
    left = right := by
  obtain ⟨year, month, day, _⟩ := left
  obtain ⟨otherYear, otherMonth, otherDay, _⟩ := right
  simp only [Date.numbers, EmbeddingLike.apply_eq_iff_eq, Prod.mk.injEq] at same
  obtain ⟨rfl, rfl, rfl⟩ := same
  rfl

/-- Dates come in the order of their numbers. -/
theorem Date.isBefore_iff (left right : Date) :
    left.isBefore right = true ↔ left.numbers < right.numbers := by
  simp [Date.isBefore, Date.numbers, Prod.Lex.toLex_lt_toLex]

/-- Moments come in the order of their numbers. -/
theorem Moment.isBefore_iff (left right : Moment) :
    left.isBefore right = true ↔ left.numbers < right.numbers := by
  have sameDate : left.date.numbers = right.date.numbers ↔ left.date = right.date :=
    ⟨Date.numbers_injective, congrArg Date.numbers⟩
  simp [Moment.isBefore, Moment.numbers, Prod.Lex.toLex_lt_toLex, Date.isBefore_iff, sameDate]

end InfraReview
