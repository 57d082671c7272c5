import InfraReview.Text.Hex

/-!
# Text in bytes

A byte string is read as UTF-8, UTF-16 or UTF-32. Reading is all or nothing: the first
place that no text can have is the fault, and it names the bytes from the start of the
broken character up to the byte that rules it out. Half of a surrogate pair is no character
in any of them.

UTF-8 is read one byte at a time. After a lead byte the reader remembers how many
bytes the character still needs and which values the next one may have; the narrow
bounds after the lead bytes of three and four byte characters exclude long forms,
surrogates and code points beyond the last one.
-/

namespace InfraReview.Text

/-- The encodings a document may be in. -/
inductive Encoding where
  | utf8
  | utf16 (bigEndian : Bool)
  | utf32 (bigEndian : Bool)
  deriving DecidableEq, Repr

/-- What is wrong with a place in a byte string. -/
inductive DecodeReason where
  | invalidStart
  | invalidContinuation
  | unexpectedEnd
  | truncated
  | outOfRange
  | unpairedHalf
  deriving DecidableEq, Repr

/-- The bytes from position `first` up to but not including `stop` are no text. -/
structure DecodeFault where
  encoding : Encoding
  reason : DecodeReason
  firstByte : UInt8
  first : Nat
  stop : Nat
  deriving DecidableEq, Repr

/-- The name of an encoding in messages. -/
def Encoding.name : Encoding → String
  | .utf8 => "utf-8"
  | .utf16 true => "utf-16-be"
  | .utf16 false => "utf-16-le"
  | .utf32 true => "utf-32-be"
  | .utf32 false => "utf-32-le"

/-- The wording of a reason. -/
def DecodeReason.message : DecodeReason → String
  | .invalidStart => "invalid start byte"
  | .invalidContinuation => "invalid continuation byte"
  | .unexpectedEnd => "unexpected end of data"
  | .truncated => "truncated data"
  | .outOfRange => "code point not in range(0x110000)"
  | .unpairedHalf => "unpaired surrogate"

/-- The message of a fault: a single byte is shown by its value, several by their
positions. -/
def DecodeFault.message (fault : DecodeFault) : String :=
  let place :=
    if fault.stop = fault.first + 1 then
      "byte 0x" ++ String.ofList (hexDigits 2 fault.firstByte.toNat) ++ " in position "
        ++ toString fault.first
    else
      "bytes in position " ++ toString fault.first ++ "-" ++ toString (fault.stop - 1)
  "'" ++ fault.encoding.name ++ "' codec can't decode " ++ place ++ ": "
    ++ fault.reason.message

/-- A character of which the lead byte and perhaps more have been read: the bytes it
still needs, the bounds of the next one, the bits so far, and where it began. -/
structure Unfinished where
  needed : Nat
  low : Nat
  high : Nat
  bits : Nat
  leadByte : UInt8
  start : Nat
  deriving DecidableEq, Repr

/-- What a byte that begins a character says about the rest of the character; nothing
for a byte that begins none. A byte below `0x80` is a character of its own. -/
def beginUtf8? (byte : UInt8) (position : Nat) : Option Unfinished :=
  let value := byte.toNat
  if 0xC2 ≤ value && value ≤ 0xDF then some ⟨1, 0x80, 0xBF, value - 0xC0, byte, position⟩
  else if value = 0xE0 then some ⟨2, 0xA0, 0xBF, 0, byte, position⟩
  else if value = 0xED then some ⟨2, 0x80, 0x9F, 0xD, byte, position⟩
  else if 0xE1 ≤ value && value ≤ 0xEF then
    some ⟨2, 0x80, 0xBF, value - 0xE0, byte, position⟩
  else if value = 0xF0 then some ⟨3, 0x90, 0xBF, 0, byte, position⟩
  else if 0xF1 ≤ value && value ≤ 0xF3 then
    some ⟨3, 0x80, 0xBF, value - 0xF0, byte, position⟩
  else if value = 0xF4 then some ⟨3, 0x80, 0x8F, 4, byte, position⟩
  else none

/-- Reads the bytes from `position` on. -/
def decodeUtf8From (position : Nat) :
    Option Unfinished → List UInt8 → Except DecodeFault (List Char)
  | none, [] => .ok []
  | some u, [] => .error ⟨.utf8, .unexpectedEnd, u.leadByte, u.start, position⟩
  | none, byte :: rest =>
    if byte.toNat < 0x80 then
      (decodeUtf8From (position + 1) none rest).map (Char.ofNat byte.toNat :: ·)
    else
      match beginUtf8? byte position with
      | some u => decodeUtf8From (position + 1) (some u) rest
      | none => .error ⟨.utf8, .invalidStart, byte, position, position + 1⟩
  | some u, byte :: rest =>
    if u.low ≤ byte.toNat && byte.toNat ≤ u.high then
      let bits := 0x40 * u.bits + (byte.toNat - 0x80)
      if u.needed ≤ 1 then
        (decodeUtf8From (position + 1) none rest).map (Char.ofNat bits :: ·)
      else
        decodeUtf8From (position + 1)
          (some { u with needed := u.needed - 1, low := 0x80, high := 0xBF, bits := bits }) rest
    else
      .error ⟨.utf8, .invalidContinuation, u.leadByte, u.start, position⟩

/-- The number in two bytes. -/
def unit16 (bigEndian : Bool) (a b : UInt8) : Nat :=
  if bigEndian then 0x100 * a.toNat + b.toNat else 0x100 * b.toNat + a.toNat

/-- The number in four bytes. -/
def unit32 (bigEndian : Bool) (a b c d : UInt8) : Nat :=
  if bigEndian then 0x10000 * unit16 true a b + unit16 true c d
  else 0x10000 * unit16 false c d + unit16 false a b

/-- True for the halves of surrogate pairs. -/
def isHalf (unit : Nat) : Bool := 0xD800 ≤ unit && unit < 0xE000

/-- True for the halves that come first in a pair. -/
def isUpperHalf (unit : Nat) : Bool := 0xD800 ≤ unit && unit < 0xDC00

/-- The character of a code point. Half of a surrogate pair has none of its own, and the
replacement character stands for it. -/
def charOfCode (code : Nat) : Char := if isHalf code then '\uFFFD' else Char.ofNat code

/-- The code point of a surrogate pair. -/
def pairedCode (upper lower : Nat) : Nat :=
  0x10000 + 0x400 * (upper - 0xD800) + (lower - 0xDC00)

/-- Reads units of two bytes from `position` on. -/
def decodeUtf16From (bigEndian : Bool) (position : Nat) :
    List UInt8 → Except DecodeFault (List Char)
  | [] => .ok []
  | [a] => .error ⟨.utf16 bigEndian, .truncated, a, position, position + 1⟩
  | a :: b :: rest =>
    let unit := unit16 bigEndian a b
    let unpaired : DecodeFault := ⟨.utf16 bigEndian, .unpairedHalf, a, position, position + 2⟩
    if isUpperHalf unit then
      match rest with
      | c :: d :: rest =>
        let lower := unit16 bigEndian c d
        if isHalf lower && !isUpperHalf lower then
          (decodeUtf16From bigEndian (position + 4) rest).map
            (Char.ofNat (pairedCode unit lower) :: ·)
        else .error unpaired
      | _ => .error unpaired
    else if isHalf unit then .error unpaired
    else (decodeUtf16From bigEndian (position + 2) rest).map (Char.ofNat unit :: ·)

/-- Reads units of four bytes from `position` on. -/
def decodeUtf32From (bigEndian : Bool) (position : Nat) :
    List UInt8 → Except DecodeFault (List Char)
  | [] => .ok []
  | a :: b :: c :: d :: rest =>
    let unit := unit32 bigEndian a b c d
    if 0x110000 ≤ unit then
      .error ⟨.utf32 bigEndian, .outOfRange, a, position, position + 4⟩
    else if isHalf unit then
      .error ⟨.utf32 bigEndian, .unpairedHalf, a, position, position + 4⟩
    else (decodeUtf32From bigEndian (position + 4) rest).map (Char.ofNat unit :: ·)
  | a :: rest =>
    .error ⟨.utf32 bigEndian, .truncated, a, position, position + 1 + rest.length⟩

/-- The text in a byte string of which the first `position` bytes have been taken off,
read in a given encoding. -/
def decodeFrom (encoding : Encoding) (position : Nat) (bytes : List UInt8) :
    Except DecodeFault (List Char) :=
  match encoding with
  | .utf8 => decodeUtf8From position none bytes
  | .utf16 bigEndian => decodeUtf16From bigEndian position bytes
  | .utf32 bigEndian => decodeUtf32From bigEndian position bytes

/-- True when bytes are, in the way of UTF-8, half of a surrogate pair. -/
def isEncodedHalf : List UInt8 → Bool
  | 0xED :: second :: third :: _ =>
    0xA0 ≤ second.toNat && second.toNat ≤ 0xBF && 0x80 ≤ third.toNat && third.toNat ≤ 0xBF
  | _ => false

/-- The text in a UTF-8 byte string. -/
def decodeUtf8 (bytes : List UInt8) : Except DecodeFault (List Char) :=
  decodeFrom .utf8 0 bytes

/-- The UTF-8 bytes of a text. -/
def encodeUtf8 (text : String) : List UInt8 := text.toUTF8.data.toList

end InfraReview.Text
