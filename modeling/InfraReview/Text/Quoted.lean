import InfraReview.Text.Hex
import InfraReview.Text.Printable

/-!
# Quoted text

A text inside a list or a map is shown between quotes so that its ends are visible.
The quotes are single, unless the text holds a single quote and no double one. Inside
them the backslash and the quote in use are escaped by a backslash, tab and the two
line ends have their letters, and any other character that is not printable is
written by its code point with two, four or eight hexadecimal digits.
-/

namespace InfraReview.Text

/-- The quote that shows a text with the fewest escapes, preferring the single one. -/
def quoteFor (text : List Char) : Char :=
  if text.contains '\'' && !text.contains '"' then '"' else '\''

/-- A character inside the given quotes. -/
def escapeInQuotes (quote c : Char) : List Char :=
  if c = quote || c = '\\' then ['\\', c]
  else if c = '\t' then ['\\', 't']
  else if c = '\n' then ['\\', 'n']
  else if c = '\r' then ['\\', 'r']
  else if isPrintable c then [c]
  else if c.toNat ≤ 0xFF then '\\' :: 'x' :: hexDigits 2 c.toNat
  else if c.toNat ≤ 0xFFFF then '\\' :: 'u' :: hexDigits 4 c.toNat
  else '\\' :: 'U' :: hexDigits 8 c.toNat

/-- A text between quotes. -/
def quoted (text : String) : String :=
  let characters := text.toList
  let quote := quoteFor characters
  String.ofList (quote :: characters.flatMap (escapeInQuotes quote) ++ [quote])

/-- A byte inside the given quotes: as an ASCII character, or by its value. -/
def escapeByteInQuotes (quote : Char) (byte : UInt8) : List Char :=
  if byte.toNat < 0x80 then escapeInQuotes quote (Char.ofNat byte.toNat)
  else '\\' :: 'x' :: hexDigits 2 byte.toNat

/-- A byte string between quotes, led by its mark. -/
def quotedBytes (bytes : List UInt8) : String :=
  let quote := quoteFor (bytes.map fun byte => Char.ofNat byte.toNat)
  String.ofList ('b' :: quote :: bytes.flatMap (escapeByteInQuotes quote) ++ [quote])

end InfraReview.Text
