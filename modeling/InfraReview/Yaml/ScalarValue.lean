import InfraReview.Number.Arithmetic
import InfraReview.Number.Decimal
import InfraReview.Text.Base64
import InfraReview.Text.LowerCase
import InfraReview.Yaml.Datum
import InfraReview.Yaml.PlainTag

/-!
# Data of texts

What a text with a tag stands for. A text whose form called for its tag nearly always has
a value; the exceptions are numbers whose digits are underscores alone, and dates that do
not exist. A tag that was written down may stand before any text, and then the text may
have no value at all.
-/

namespace InfraReview.Yaml

/-- The texts of truth values in lower case. -/
def truthTexts : List (String × Bool) :=
  [("yes", true), ("no", false), ("true", true), ("false", false), ("on", true), ("off", false)]

/-- A number without underscores, as its sign and what follows. -/
def signedDigits (text : String) : Bool × List Char :=
  match text.toList.filter (· != '_') with
  | '-' :: rest => (true, rest)
  | '+' :: rest => (false, rest)
  | rest => (false, rest)

/-- The value of places in a base, the most significant first. -/
def positional (base : Int) (places : List Int) : Int :=
  places.foldl (fun value place => base * value + place) 0

/-- The integer of a text. Zero and a letter mark base two and sixteen, a leading zero
marks base eight, and colons part the places of base sixty. -/
def integerOf (text : String) : Except Fault Int := do
  let read (base : Nat) (digits : List Char) : Except Fault Int :=
    (Numeral.ofTextIn base (String.ofList digits)).mapError .numeral
  let (negative, digits) := signedDigits text
  let value ←
    match digits with
    | [] => .error .noDigits
    | ['0'] => .ok 0
    | '0' :: 'b' :: rest => read 2 rest
    | '0' :: 'x' :: rest => read 16 rest
    | '0' :: _ => read 8 digits
    | _ =>
      if digits.contains ':' then do
        let places ← (Text.splitChars ':' digits).mapM (read 10)
        .ok (positional 60 places)
      else read 10 digits
  .ok (if negative then -value else value)

/-- The sum of places of base sixty, the least significant first; `weight` is that of the
first of them. -/
def sumSixtieths (sum : Double) (weight : Nat) : List Double → Except Fault Double
  | [] => .ok sum
  | place :: places =>
    match Double.ofInt? weight with
    | none => .error .tooLarge
    | some factor => sumSixtieths (sum.add (place.multiply factor)) (60 * weight) places

/-- A number in lower case without underscores, as its sign and what follows. -/
def lowerDigits (text : String) : Bool × List Char :=
  signedDigits (Text.lowerCase (String.ofList (text.toList.filter (· != '_'))))

/-- The double of a text. Colons part the places of base sixty. -/
def doubleOf (text : String) : Except Fault Double := do
  let read (digits : List Char) : Except Fault Double :=
    match Double.ofText? digits with
    | some value => .ok value
    | none => .error (.notADecimal (String.ofList digits))
  let (negative, digits) := lowerDigits text
  let value ←
    if text.toList.all (· == '_') then .error .noDigits
    else if digits == ['.', 'i', 'n', 'f'] then .ok (.infinity false)
    else if digits == ['.', 'n', 'a', 'n'] then .ok .nan
    else if digits.contains ':' then do
      let places ← (Text.splitChars ':' digits).mapM read
      sumSixtieths .zero 1 places.reverse
    else read digits
  .ok (if negative then value.negate else value)

/-- The double of a text in a node. What is no number comes from that node, unless its own
word stands for it. -/
def datumOfDouble (origin : Nat) (text : String) : Except Fault Datum := do
  match ← doubleOf text with
  | .nan =>
    .ok (.notANumber (if (lowerDigits text).2 == ['.', 'n', 'a', 'n'] then none else some origin))
  | number => .ok (.double number)

/-- The date or the moment of a timestamp. Its distance from universal time has to be
shorter than a day. -/
def datumOfTimestamp (timestamp : Timestamp) : Except Fault Datum := do
  let date := (Date.ofNumbers timestamp.year timestamp.month timestamp.day).mapError Fault.date
  match timestamp.clock with
  | none => .ok (.date (← date))
  | some clock =>
    match clock.offset.filter fun minutes => 1440 ≤ minutes.natAbs with
    | some minutes => .error (.offset minutes)
    | none => do
      let time ←
        (Moment.ofNumbers (← date) clock.hour clock.minute clock.second
          clock.microsecond).mapError .clock
      .ok (.moment time clock.offset)

/-- What a text with a tag stands for in a node. -/
def datumOfText (origin : Nat) (tag : Tag) (text : String) : Except Fault Datum :=
  match tag with
  | .text => .ok (.text text)
  | .null => .ok .null
  | .bool =>
    match truthTexts.lookup (Text.lowerCase text) with
    | some flag => .ok (.bool flag)
    | none => .error (.notATruth (Text.lowerCase text))
  | .int => (integerOf text).map .int
  | .float => datumOfDouble origin text
  | .timestamp =>
    match Timestamp.read? (dropFinalBreak text.toList) with
    | some timestamp => datumOfTimestamp timestamp
    | none => .error .notATimestamp
  | .binary =>
    if text.toList.all fun c => c.toNat < 0x80 then
      match Text.base64Bytes? text.toList with
      | some bytes => .ok (.bytes bytes)
      | none => .error .malformed
    else .error .malformed
  | _ => .error .malformed

end InfraReview.Yaml
