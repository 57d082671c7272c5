/-!
# Bytes in base sixty-four

Four letters of the alphabet write three bytes, six bits a letter. Characters beyond the
alphabet do not count. Padding ends the text when it fills up a group of which at least
two letters are there; otherwise it does not count either. A text that ends inside a
group writes nothing.
-/

namespace InfraReview.Text

/-- The six bits of a letter. -/
def sextet? (c : Char) : Option Nat :=
  if 'A' ≤ c && c ≤ 'Z' then some (c.toNat - 'A'.toNat)
  else if 'a' ≤ c && c ≤ 'z' then some (c.toNat - 'a'.toNat + 26)
  else if '0' ≤ c && c ≤ '9' then some (c.toNat - '0'.toNat + 52)
  else if c = '+' then some 62
  else if c = '/' then some 63
  else none

/-- The bytes of a text from a place inside a group on: `count` letters of the group are
read, `bits` are those of them that no byte has taken, and `pads` signs of padding have
come since. -/
def base64From (count bits pads : Nat) : List Char → Option (List UInt8)
  | [] => if count = 0 then some [] else none
  | c :: rest =>
    if c = '=' then
      if 2 ≤ count then
        if 4 ≤ count + (pads + 1) then some [] else base64From count bits (pads + 1) rest
      else base64From count bits pads rest
    else
      match sextet? c with
      | none => base64From count bits pads rest
      | some value =>
        match count with
        | 0 => base64From 1 value 0 rest
        | 1 => (base64From 2 (value % 16) 0 rest).map (UInt8.ofNat (4 * bits + value / 16) :: ·)
        | 2 => (base64From 3 (value % 4) 0 rest).map (UInt8.ofNat (16 * bits + value / 4) :: ·)
        | _ => (base64From 0 0 0 rest).map (UInt8.ofNat (64 * bits + value) :: ·)

/-- The bytes that a text writes. -/
def base64Bytes? (text : List Char) : Option (List UInt8) := base64From 0 0 0 text

end InfraReview.Text
