/-!
# Hexadecimal digits

Writing uses lower-case digits and a fixed number of places; reading accepts both
cases.
-/

namespace InfraReview.Text

/-- The lower-case digit of a number below sixteen. -/
def hexDigit (value : Nat) : Char :=
  if value < 10 then Char.ofNat (0x30 + value) else Char.ofNat (0x57 + value)

/-- The lowest `places` hexadecimal digits of a number, the most significant first. -/
def hexDigits : Nat → Nat → List Char
  | 0, _ => []
  | places + 1, value => hexDigits places (value / 16) ++ [hexDigit (value % 16)]

/-- The value of a hexadecimal digit of either case. -/
def hexValue? (c : Char) : Option Nat :=
  if '0' ≤ c && c ≤ '9' then some (c.toNat - 0x30)
  else if 'a' ≤ c && c ≤ 'f' then some (c.toNat - 0x57)
  else if 'A' ≤ c && c ≤ 'F' then some (c.toNat - 0x37)
  else none

/-- The number written by hexadecimal digits alone, the most significant first. -/
def hexNumber? (digits : List Char) : Option Nat :=
  digits.foldl
    (fun value c => value.bind fun high => (hexValue? c).map (16 * high + ·))
    (some 0)

/-- The bytes written by pairs of hexadecimal digits; a last digit without a partner
or a character that is no digit gives nothing. -/
def hexBytes? : List Char → Option (List UInt8)
  | [] => some []
  | [_] => none
  | high :: low :: rest => do
    let upperHalf ← hexValue? high
    let lowerHalf ← hexValue? low
    let bytes ← hexBytes? rest
    some (UInt8.ofNat (16 * upperHalf + lowerHalf) :: bytes)

end InfraReview.Text
