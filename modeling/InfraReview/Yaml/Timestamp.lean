import InfraReview.Yaml.Fault

/-!
# Timestamps

A timestamp is a date, or a date and a time of day with an optional part of a second and
an optional distance from universal time. Its numbers need not exist: whether there is
such a day and such a time is seen when they are put together.
-/

namespace InfraReview.Yaml

/-- The time of day in a timestamp. The distance from universal time is in minutes. -/
structure WrittenClock where
  hour : Nat
  minute : Nat
  second : Nat
  microsecond : Nat
  offset : Option Int
  deriving DecidableEq, Repr

/-- The numbers of a timestamp, and whether its month and its day have two digits each. -/
structure Timestamp where
  year : Nat
  month : Nat
  day : Nat
  padded : Bool
  clock : Option WrittenClock
  deriving DecidableEq, Repr

namespace Timestamp

/-- The number written by ASCII digits. -/
def number (digits : List Char) : Nat :=
  digits.foldl (fun value c => 10 * value + (c.toNat - '0'.toNat)) 0

/-- A number of exactly so many digits at the start of a text, and the rest. -/
def digits? (places : Nat) (text : List Char) : Option (Nat × List Char) :=
  let found := (text.take places).takeWhile Char.isDigit
  if found.length = places then some (number found, text.drop places) else none

/-- A number of one or two digits at the start of a text, and the rest. -/
def shortNumber? (text : List Char) : Option (Nat × List Char) :=
  (digits? 2 text).or (digits? 1 text)

/-- The text after a character at its start. -/
def after? (c : Char) : List Char → Option (List Char)
  | [] => none
  | d :: rest => if d = c then some rest else none

/-- The text after the blanks and tabs at its start. -/
def dropBlanks (text : List Char) : List Char := text.dropWhile fun c => c == ' ' || c == '\t'

/-- The hours and minutes of a distance from universal time that fill a whole text. -/
def span? (text : List Char) : Option Nat := do
  let (hours, rest) ← shortNumber? text
  match rest with
  | [] => some (60 * hours)
  | ':' :: more =>
    let (minutes, last) ← digits? 2 more
    if last.isEmpty then some (60 * hours + minutes) else none
  | _ => none

/-- The distance from universal time that fills the end of a timestamp, if there is one
there; nothing when something else stands there. -/
def offset? : List Char → Option (Option Int)
  | [] => some none
  | text =>
    match dropBlanks text with
    | ['Z'] => some (some 0)
    | '+' :: rest => (span? rest).map fun minutes => some (minutes : Int)
    | '-' :: rest => (span? rest).map fun minutes => some (-(minutes : Int))
    | _ => none

/-- The part of a second at the start of a text in microseconds, and the rest. Further
digits do not count. -/
def fraction : List Char → Nat × List Char
  | '.' :: rest =>
    let digits := (rest.takeWhile Char.isDigit).take 6
    (number digits * Nat.pow 10 (6 - digits.length), rest.dropWhile Char.isDigit)
  | text => (0, text)

/-- The time of day that fills the end of a timestamp. -/
def clock? (text : List Char) : Option WrittenClock := do
  let (hour, afterHour) ← shortNumber? text
  let (minute, afterMinute) ← digits? 2 (← after? ':' afterHour)
  let (second, afterSecond) ← digits? 2 (← after? ':' afterMinute)
  let (microsecond, rest) := fraction afterSecond
  let offset ← offset? rest
  some ⟨hour, minute, second, microsecond, offset⟩

/-- The text of a time of day after the mark or the blanks that part it from the date. -/
def clockPart? : List Char → Option (List Char)
  | 'T' :: rest => some rest
  | 't' :: rest => some rest
  | c :: rest => if c = ' ' || c = '\t' then some (dropBlanks rest) else none
  | [] => none

/-- The timestamp that a whole text writes. -/
def read? (text : List Char) : Option Timestamp := do
  let (year, afterYear) ← digits? 4 text
  let monthPart ← after? '-' afterYear
  let (month, afterMonth) ← shortNumber? monthPart
  let dayPart ← after? '-' afterMonth
  let (day, afterDay) ← shortNumber? dayPart
  let padded := (digits? 2 monthPart).isSome && (digits? 2 dayPart).isSome
  if afterDay.isEmpty then some ⟨year, month, day, padded, none⟩
  else
    let clock ← clock? (← clockPart? afterDay)
    some ⟨year, month, day, padded, some clock⟩

end Timestamp

end InfraReview.Yaml
