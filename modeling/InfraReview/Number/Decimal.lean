import InfraReview.Number.Double
import InfraReview.Text.Blank
import InfraReview.Text.Digit
import InfraReview.Text.Letters

/-!
# Decimal notation of doubles

A decimal is a natural number times a power of ten. Reading one gives the nearest
double. The power of ten is not computed when the decimal is so large or so small that
the answer is known from its number of digits alone: all doubles lie between
`10 ^ -324` and `10 ^ 309`.

Writing gives the fewest digits that read back as the same double and, of those, the
nearest to its value. For each number of digits from one to seventeen only the two
neighbours of the value on that decimal grid have to be tried. That the digits read
back is part of the choice and not a consequence of it.

The layout is positional from `0.0001` up to sixteen digits before the point, always
with a point and a digit after it; all other values have one digit before the point, a
sign in the exponent, and two places for it at least.
-/

namespace InfraReview

namespace Double

/-- The double nearest to `digits * 10 ^ power`; one out of range is infinite. -/
def ofDecimal (negative : Bool) (digits : Nat) (power : Int) : Double :=
  let leading : Int := (Nat.toDigits 10 digits).length + power
  if digits = 0 || leading < -330 then .finite negative .zero
  else if 320 < leading then .infinity negative
  else
    let quotient :=
      if power < 0 then ofQuotient? negative digits (Nat.pow 10 (-power).toNat)
      else ofQuotient? negative (digits * Nat.pow 10 power.toNat) 1
    quotient.getD (.infinity negative)

/-- The decimal `digits * 10 ^ power`. -/
structure Decimal where
  digits : Nat
  power : Int
  deriving DecidableEq, Repr

/-- The exponent of the first decimal digit of a positive quotient: the number `e` with
`10 ^ e ≤ numerator / denominator < 10 ^ (e + 1)`. The bit lengths give a number at most
one too small, which is then corrected. -/
def leadingPower (numerator denominator : Nat) : Int :=
  let bits : Int := (numerator.log2 : Int) - denominator.log2
  let guess : Int := Int.fdiv ((bits - 1) * 30103) 100000
  let atLeast (e : Int) : Bool :=
    if e < 0 then denominator ≤ numerator * Nat.pow 10 (-e).toNat
    else denominator * Nat.pow 10 e.toNat ≤ numerator
  if atLeast (guess + 1) then guess + 1
  else if atLeast guess then guess
  else guess - 1

/-- The two neighbours of a positive quotient among the multiples of `10 ^ power`, the
nearer one first; of two equally near ones the even one. -/
def neighbours (numerator denominator : Nat) (power : Int) : List Decimal :=
  let (n, d) :=
    if power < 0 then (numerator * Nat.pow 10 (-power).toNat, denominator)
    else (numerator, denominator * Nat.pow 10 power.toNat)
  let below := n / d
  if n % d = 0 then [⟨below, power⟩]
  else
    let nearest := Magnitude.roundQuotient n d
    if nearest = below then [⟨below, power⟩, ⟨below + 1, power⟩]
    else [⟨below + 1, power⟩, ⟨below, power⟩]

/-- The decimals with at most `count` digits that may stand for a magnitude, those with
fewer digits first. -/
def candidates (m : Magnitude) (count : Nat) : List Decimal :=
  let (numerator, denominator) := m.toQuotient
  let leading := leadingPower numerator denominator
  (List.range count).flatMap fun (extra : Nat) =>
    neighbours numerator denominator (leading - (extra : Int))

/-- The magnitude written out in full. -/
def exactDecimal (m : Magnitude) : Decimal :=
  if m.exponent < 0 then ⟨m.significand * Nat.pow 5 (-m.exponent).toNat, m.exponent⟩
  else ⟨m.significand * Nat.pow 2 m.exponent.toNat, 0⟩

/-- The shortest decimal that reads back as the given magnitude. Seventeen digits
always do. -/
def shortest (m : Magnitude) : Decimal :=
  ((candidates m 17).find? fun decimal =>
      ofDecimal false decimal.digits decimal.power == .finite false m).getD (exactDecimal m)

/-- A list of digits without the zeros at its end. -/
def dropTrailingZeros (digits : List Char) : List Char :=
  (digits.reverse.dropWhile (· == '0')).reverse

/-- An exponent with its sign and two digits at least. -/
def exponentText (exponent : Int) : List Char :=
  let digits := Nat.toDigits 10 exponent.natAbs
  (if exponent < 0 then '-' else '+') :: (if digits.length < 2 then '0' :: digits else digits)

/-- The layout of a positive decimal whose digits do not end in zero: `point` digits
stand before the decimal point. -/
def layout (digits : List Char) (point : Int) : List Char :=
  if -4 < point && point ≤ 16 then
    if point ≤ 0 then '0' :: '.' :: (List.replicate (-point).toNat '0' ++ digits)
    else
      let before := point.toNat
      if digits.length ≤ before then
        digits ++ List.replicate (before - digits.length) '0' ++ ['.', '0']
      else digits.take before ++ '.' :: digits.drop before
  else
    match digits with
    | [] => []
    | [digit] => digit :: 'e' :: exponentText (point - 1)
    | digit :: more => digit :: '.' :: (more ++ 'e' :: exponentText (point - 1))

/-- A magnitude in decimal notation. -/
def magnitudeText (m : Magnitude) : List Char :=
  if m.significand = 0 then ['0', '.', '0']
  else
    let decimal := shortest m
    let digits := Nat.toDigits 10 decimal.digits
    layout (dropTrailingZeros digits) (digits.length + decimal.power)

/-- A double in decimal notation. -/
def text : Double → String
  | .nan => "nan"
  | .infinity negative => if negative then "-inf" else "inf"
  | .finite negative m =>
    String.ofList (if negative then '-' :: magnitudeText m else magnitudeText m)

/-- The number written by decimal digits of any script, the most significant first. -/
def digitsValue (digits : List Char) : Nat :=
  digits.foldl (fun value c => 10 * value + (Text.digitValue? c).getD 0) 0

/-- The double written by an optional minus sign, digits, an optional fraction and an
optional exponent; the caller has checked that the text has this form. -/
def read (text : List Char) : Double :=
  let (negative, unsigned) :=
    match text with
    | '-' :: rest => (true, rest)
    | '+' :: rest => (false, rest)
    | rest => (false, rest)
  let isMark (c : Char) : Bool := c == 'e' || c == 'E'
  let mantissa := unsigned.takeWhile (!isMark ·)
  let exponent : Int :=
    match unsigned.dropWhile (!isMark ·) with
    | _ :: '-' :: digits => -(digitsValue digits : Int)
    | _ :: '+' :: digits => digitsValue digits
    | _ :: digits => digitsValue digits
    | [] => 0
  let whole := mantissa.takeWhile (· != '.')
  let fraction := (mantissa.dropWhile (· != '.')).drop 1
  ofDecimal negative (digitsValue (whole ++ fraction)) (exponent - fraction.length)

/-- True for digits, a point and an exponent with its own sign, where the point or the
exponent may be missing but not all digits before the exponent. -/
def isDecimalText (text : List Char) : Bool :=
  let digits (rest : List Char) : List Char := rest.takeWhile Text.isDecimalDigit
  let after (rest : List Char) : List Char := rest.dropWhile Text.isDecimalDigit
  let (fraction, rest) :=
    match after text with
    | '.' :: rest => (digits rest, after rest)
    | rest => ([], rest)
  !(digits text ++ fraction).isEmpty &&
    match rest with
    | [] => true
    | mark :: exponent =>
      let unsigned :=
        match exponent with
        | '-' :: more => more
        | '+' :: more => more
        | more => more
      (mark == 'e' || mark == 'E') && !unsigned.isEmpty && unsigned.all Text.isDecimalDigit

/-- The double that a text of any origin writes: a decimal or a word for an infinity or
for what is no number, with a sign or without. White space around it does not count. -/
def ofText? (text : List Char) : Option Double :=
  let (negative, unsigned) :=
    match Text.trimNumberChars text with
    | '-' :: rest => (true, rest)
    | '+' :: rest => (false, rest)
    | rest => (false, rest)
  let word := Text.lower (String.ofList unsigned)
  if word = "inf" || word = "infinity" then some (.infinity negative)
  else if word = "nan" then some .nan
  else if isDecimalText unsigned then
    some (if negative then (read unsigned).negate else read unsigned)
  else none

end Double

end InfraReview
