import InfraReview.Hcl.Meaning
import InfraReview.Hcl.Tree
import InfraReview.Number.Numeral
import InfraReview.Text.Encoding
import InfraReview.Value

/-!
# Literals

A source value is a literal when nothing in it has to be computed. A text with an
opening sign of an interpolation or a directive is not one, unless the sign is doubled;
but a whole text that wraps a number, a truth value or null in an interpolation is that
value. In every other text the escapes are decoded and the doubled signs halved. Texts consist
of characters, so an escape of half a surrogate pair gives the replacement character.

A list or a map is a literal when everything in it is, and then it has no nulls. Reading
breaks off at an integer that has no double, at an escape beyond the code points and at a key
that is too long an integer.
-/

namespace InfraReview.Hcl

/-- What a source value is, apart from what it refers to. -/
inductive Literal where
  | unresolved
  | null
  | value (value : Value)

/-- Why reading literals or blocks breaks off. -/
inductive LiteralFault where
  | tooLarge
  | escapeOutOfRange
  | escapeTooLarge
  | length (fault : LengthFault)
  | labelWithoutLength (sort : String)
  | line (fault : Numeral.Fault)
  deriving DecidableEq, Repr

/-- The message of such a fault. -/
def LiteralFault.message : LiteralFault → String
  | .tooLarge => "int too large to convert to float"
  | .escapeOutOfRange => "chr() arg not in range(0x110000)"
  | .escapeTooLarge => "Python int too large to convert to C int"
  | .length fault => fault.message
  | .labelWithoutLength sort => "object of type '" ++ sort ++ "' has no len()"
  | .line fault => fault.message

/-- True when a text has an opening sign that is not doubled. `previous` is the character
before. -/
def hasOpener (previous : Option Char) : List Char → Bool
  | '$' :: '\x7b' :: rest => previous != some '$' || hasOpener (some '\x7b') rest
  | '%' :: '\x7b' :: rest => previous != some '%' || hasOpener (some '\x7b') rest
  | c :: rest => hasOpener (some c) rest
  | [] => false

/-- The digits at the start of a text, of any script, and the rest. -/
def spanDecimal (text : List Char) : List Char × List Char :=
  (text.takeWhile Text.isDecimalDigit, text.dropWhile Text.isDecimalDigit)

/-- The fraction at the start of a text, if it has one, and the rest. -/
def spanFraction : List Char → List Char × List Char
  | '.' :: rest =>
    match spanDecimal rest with
    | ([], _) => ([], '.' :: rest)
    | (digits, after) => ('.' :: digits, after)
  | text => ([], text)

/-- The exponent at the start of a text, if it has one, and the rest. -/
def spanExponent : List Char → List Char × List Char
  | [] => ([], [])
  | mark :: rest =>
    if mark = 'e' || mark = 'E' then
      let (sign, unsigned) :=
        match rest with
        | '-' :: more => (['-'], more)
        | '+' :: more => (['+'], more)
        | more => ([], more)
      match spanDecimal unsigned with
      | ([], _) => ([], mark :: rest)
      | (digits, after) => (mark :: sign ++ digits, after)
    else ([], mark :: rest)

/-- The number at the start of a text and the rest: a minus sign or none, digits, and
perhaps a fraction and an exponent. -/
def spanNumber? (text : List Char) : Option (List Char × List Char) :=
  let (sign, unsigned) :=
    match text with
    | '-' :: rest => (['-'], rest)
    | rest => ([], rest)
  match spanDecimal unsigned with
  | ([], _) => none
  | (whole, afterWhole) =>
    let (fraction, afterFraction) := spanFraction afterWhole
    let (exponent, after) := spanExponent afterFraction
    some (sign ++ whole ++ fraction ++ exponent, after)

/-- The literal at the start of a text and the rest. -/
def spanLiteral? (text : List Char) : Option (Literal × List Char) :=
  match spanNumber? text with
  | some (number, rest) => some (.value (.number (Double.read number)), rest)
  | none =>
    if "true".toList.isPrefixOf text then some (.value (.bool true), text.drop 4)
    else if "false".toList.isPrefixOf text then some (.value (.bool false), text.drop 5)
    else if "null".toList.isPrefixOf text then some (.null, text.drop 4)
    else none

/-- The literal that a whole text wraps in an interpolation. One line end may follow. -/
def wrapped? (text : List Char) : Option Literal :=
  match text with
  | '$' :: '\x7b' :: inside =>
    match spanLiteral? (Text.trimStartChars inside) with
    | some (literal, rest) =>
      match Text.trimStartChars rest with
      | ['\x7d'] => some literal
      | ['\x7d', '\n'] => some literal
      | _ => none
    | none => none
  | _ => none

/-- The character that an escape by code point stands for. -/
def charOfCode (code : Nat) : Except LiteralFault Char :=
  if 0x80000000 ≤ code then .error .escapeTooLarge
  else if 0x110000 ≤ code then .error .escapeOutOfRange
  else .ok (Text.charOfCode code)

/-- The character that a letter stands for after a backslash. -/
def simpleEscape? : Char → Option Char
  | 'n' => some '\n'
  | 'r' => some '\r'
  | 't' => some '\t'
  | '"' => some '"'
  | '\\' => some '\\'
  | _ => none

/-- A text with its escapes decoded: a backslash before one of five characters, or
before `u` or `U` and four or eight hexadecimal digits. Any other backslash stays. -/
def unescape : List Char → Except LiteralFault (List Char)
  | [] => .ok []
  | '\\' :: 'u' :: a :: b :: c :: d :: rest =>
    match Text.hexNumber? [a, b, c, d] with
    | some code => do
      let decoded ← charOfCode code
      let others ← unescape rest
      .ok (decoded :: others)
    | none => (unescape ('u' :: a :: b :: c :: d :: rest)).map ('\\' :: ·)
  | '\\' :: 'U' :: a :: b :: c :: d :: e :: f :: g :: h :: rest =>
    match Text.hexNumber? [a, b, c, d, e, f, g, h] with
    | some code => do
      let decoded ← charOfCode code
      let others ← unescape rest
      .ok (decoded :: others)
    | none => (unescape ('U' :: a :: b :: c :: d :: e :: f :: g :: h :: rest)).map ('\\' :: ·)
  | '\\' :: c :: rest =>
    match simpleEscape? c with
    | some meant => (unescape rest).map (meant :: ·)
    | none => (unescape (c :: rest)).map ('\\' :: ·)
  | c :: rest => (unescape rest).map (c :: ·)

/-- A text with every doubled opening sign of one sort halved, from left to right. -/
def halve (sign : Char) : List Char → List Char
  | a :: b :: '\x7b' :: rest =>
    if a = sign && b = sign then sign :: '\x7b' :: halve sign rest
    else a :: halve sign (b :: '\x7b' :: rest)
  | c :: rest => c :: halve sign rest
  | [] => []

/-- The literal of a text. -/
def stringLiteral (text : String) : Except LiteralFault Literal :=
  let characters := text.toList
  match wrapped? characters with
  | some literal => .ok literal
  | none =>
    if hasOpener none characters then .ok .unresolved
    else (unescape characters).map fun decoded =>
      .value (.text (String.ofList (halve '%' (halve '$' decoded))))

/-- A name without the quotes around it. -/
def unquote (name : String) : String :=
  match name.toList with
  | '"' :: b :: rest => if Meaning.isQuoted ('"' :: b :: rest) then Meaning.unquoted name else name
  | _ => name

/-- The name that a key of a map gives. -/
def nameOfKey (key : Key) : Except LiteralFault String :=
  (key.display.written.map unquote).mapError .length

@[simp] theorem nameOfKey_text (content : String) :
    nameOfKey (.text content) = .ok (unquote content) := rfl

theorem nameOfKey_eq (key : Key) :
    nameOfKey key =
      if key.isLong then .error (.length .written) else .ok (unquote key.shown) := by
  unfold nameOfKey
  rw [key.written_eq]
  split <;> rfl

/-- Entries after one more is written: a name that occurs keeps its place and takes the
new literal. -/
def setLiteral (entries : List (String × Literal)) (name : String) (literal : Literal) :
    List (String × Literal) :=
  match entries with
  | [] => [(name, literal)]
  | (other, current) :: rest =>
    if other = name then (other, literal) :: rest
    else (other, current) :: setLiteral rest name literal

/-- The values among literals, without the nulls; nothing when one is unresolved. -/
def resolved? : List Literal → Option (List Value)
  | [] => some []
  | .unresolved :: _ => none
  | .null :: literals => resolved? literals
  | .value value :: literals => (resolved? literals).map (value :: ·)

/-- The values among named literals, without the nulls; nothing when one is
unresolved. -/
def resolvedEntries? : List (String × Literal) → Option (List (String × Value))
  | [] => some []
  | (_, .unresolved) :: _ => none
  | (_, .null) :: literals => resolvedEntries? literals
  | (name, .value value) :: literals => (resolvedEntries? literals).map ((name, value) :: ·)

mutual

/-- The literal of a source value. -/
def literal : Tree → Except LiteralFault Literal
  | .null => .ok .null
  | .bool truth => .ok (.value (.bool truth))
  | .int whole =>
    match Double.ofInt? whole with
    | some number => .ok (.value (.number number))
    | none => .error .tooLarge
  | .double number => .ok (.value (.number number))
  | .text content => stringLiteral content
  | .list items => do
    let found ← literals items
    match resolved? found with
    | some values => .ok (.value (.list values))
    | none => .ok .unresolved
  | .map entries => do
    let found ← entryLiterals [] entries
    match resolvedEntries? found with
    | some values => .ok (.value (.map values))
    | none => .ok .unresolved

/-- The literals of items, in order. -/
def literals : List Tree → Except LiteralFault (List Literal)
  | [] => .ok []
  | item :: items => do
    let first ← literal item
    let others ← literals items
    .ok (first :: others)

/-- The literals of entries under the names of their keys, after those in `done`. -/
def entryLiterals (done : List (String × Literal)) :
    List (Key × Tree) → Except LiteralFault (List (String × Literal))
  | [] => .ok done
  | (key, tree) :: entries => do
    let name ← nameOfKey key
    let found ← literal tree
    entryLiterals (setLiteral done name found) entries

end

end InfraReview.Hcl
