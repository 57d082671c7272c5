import InfraReview.Calendar.Date

/-!
# Moments of wall-clock time

A moment is a time of day on a calendar date, counted in microseconds since midnight.
Where a text gives a moment together with its distance from universal time, the distance
is kept apart, in minutes: two wall clocks are compared as they stand, unless their universal
times are asked for.
-/

namespace InfraReview

/-- The number of microseconds of a day. -/
def microsecondsPerDay : Nat := 86400000000

/-- A wall-clock time on a date. -/
structure Moment where
  date : Date
  clock : Nat
  clock_lt : clock < microsecondsPerDay
  deriving DecidableEq, Repr

/-- A span of minutes in a message, as days and seconds of which the seconds are never
negative. A part that is zero is left out. -/
def spanText (minutes : Int) : String :=
  let days := Int.fdiv minutes 1440
  let seconds := 60 * Int.fmod minutes 1440
  let parts := (if days = 0 then [] else ["days=" ++ toString days])
    ++ (if seconds = 0 then [] else ["seconds=" ++ toString seconds])
  "datetime.timedelta(" ++ (if parts.isEmpty then "0" else ", ".intercalate parts) ++ ")"

namespace Moment

/-- The moment at which a date begins. -/
def midnight (date : Date) : Moment := ⟨date, 0, by decide⟩

/-- Why numbers are no time of day. -/
inductive Fault where
  | hour
  | minute
  | second
  deriving DecidableEq, Repr

/-- The message for numbers that are no time of day. -/
def Fault.message : Fault → String
  | .hour => "hour must be in 0..23"
  | .minute => "minute must be in 0..59"
  | .second => "second must be in 0..59"

/-- The moment with the given numbers. A number of microseconds of a second or more has no
place in it. -/
def ofNumbers (date : Date) (hour minute second microsecond : Nat) : Except Fault Moment :=
  let clock := ((hour * 60 + minute) * 60 + second) * 1000000 + microsecond % 1000000
  if 23 < hour then .error .hour
  else if 59 < minute then .error .minute
  else if 59 < second then .error .second
  else if within : clock < microsecondsPerDay then .ok ⟨date, clock, within⟩
  else .error .second

/-- The hour of a moment. -/
def hour (moment : Moment) : Nat := moment.clock / 3600000000

/-- The minute of a moment. -/
def minute (moment : Moment) : Nat := moment.clock / 60000000 % 60

/-- The second of a moment. -/
def second (moment : Moment) : Nat := moment.clock / 1000000 % 60

/-- The microsecond of a moment. -/
def microsecond (moment : Moment) : Nat := moment.clock % 1000000

/-- The moment some seconds after the beginning of 1970, by universal time. -/
def ofEpochSeconds (seconds : Nat) : Moment where
  date := Nat.repeat Date.next (seconds / 86400) ⟨1970, 1, 1, by decide⟩
  clock := seconds % 86400 * 1000000
  clock_lt := by
    have := Nat.mod_lt seconds (show 0 < 86400 by decide)
    simp only [microsecondsPerDay]
    omega

/-- True when one moment comes before another. -/
def isBefore (left right : Moment) : Bool :=
  left.date.isBefore right.date || (left.date == right.date && left.clock < right.clock)

/-- The universal time of a moment at a distance from it, in microseconds. -/
def universal (moment : Moment) (offset : Int) : Int :=
  (moment.date.ordinal * microsecondsPerDay + moment.clock : Nat) - offset * 60000000

/-- The time of day in writing; a part of a second is shown when there is one. -/
def clockText (moment : Moment) : String :=
  paddedNumber 2 moment.hour ++ ":" ++ paddedNumber 2 moment.minute ++ ":"
    ++ paddedNumber 2 moment.second
    ++ if moment.microsecond = 0 then "" else "." ++ paddedNumber 6 moment.microsecond

/-- A moment in writing, with a separator between the date and the time of day. -/
def text (separator : String) (moment : Moment) : String :=
  moment.date.text ++ separator ++ moment.clockText

end Moment

/-- A point in time as it may be given: a date, or a wall-clock time, perhaps with its distance from
universal time in minutes. -/
inductive Instant where
  | date (day : Date)
  | clock (time : Moment) (offset : Option Int)
  deriving DecidableEq, Repr

/-- The wall-clock time of a point in time. A date stands for its midnight, and a distance from
universal time is left aside. -/
def Instant.wallClock : Instant → Moment
  | .date day => Moment.midnight day
  | .clock time _ => time

end InfraReview
