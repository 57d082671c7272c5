import InfraReview.Json.Basic
import InfraReview.Text.Encoding

/-!
# Reading JSON text

The text is cut into tokens first and the tokens are read with a stack of the
containers that are still open. Cutting stops at the first place where no token can
begin or where a string goes wrong; that place becomes a token of its own, so that the
reader meets faults in the order of the text and words each by what it expected there.

Between tokens only blank, tab, line feed and carriage return are skipped. Numbers
without a fraction and an exponent are integers. The words for the three doubles
without digits are accepted. When a name occurs twice in an object, the last value
stands at the first place. An integer that is too long is a fault where a value is expected.

Texts here consist of characters. A string with half of a surrogate pair and not the other one
is not read at all, and the fault for it says no more than that.
-/

namespace InfraReview.Json

/-- What can be wrong with a JSON text. -/
inductive FaultKind where
  | expectedValue
  | expectedName
  | expectedColon
  | expectedComma
  | extraData
  | unterminatedString
  | controlCharacter
  | badEscape
  | badUnicodeEscape
  | unexpectedMark
  | tooLong (digits : Nat)
  | unpairedHalf
  deriving DecidableEq, Repr

/-- A fault and the number of characters before it. -/
structure Fault where
  kind : FaultKind
  offset : Nat
  deriving DecidableEq, Repr

/-- The wording of a fault without its place. -/
def FaultKind.message : FaultKind → String
  | .expectedValue => "Expecting value"
  | .expectedName => "Expecting property name enclosed in double quotes"
  | .expectedColon => "Expecting ':' delimiter"
  | .expectedComma => "Expecting ',' delimiter"
  | .extraData => "Extra data"
  | .unterminatedString => "Unterminated string starting at"
  | .controlCharacter => "Invalid control character at"
  | .badEscape => "Invalid \\escape"
  | .badUnicodeEscape => "Invalid \\uXXXX escape"
  | .unexpectedMark => "Unexpected UTF-8 BOM (decode using utf-8-sig)"
  | .tooLong digits => (LengthFault.read digits).message
  | .unpairedHalf => "Unpaired surrogate in"

/-- The wording of a fault with its line and column, counted from one in the text. -/
def Fault.message (fault : Fault) (text : List Char) : String :=
  let before := text.take fault.offset
  let line := before.count '\n' + 1
  let column := (before.reverse.takeWhile (· != '\n')).length + 1
  fault.kind.message ++ ": line " ++ toString line ++ " column " ++ toString column ++ " (char "
    ++ toString fault.offset ++ ")"

/-- A piece of JSON text. `broken` stands for a string that goes wrong, `tooLong` for an integer
with so many digits, and `stray` for a character that begins no token. -/
inductive Token where
  | openObject
  | closeObject
  | openArray
  | closeArray
  | comma
  | colon
  | scalar (value : Json)
  | tooLong (digits : Nat)
  | string (content : String)
  | broken (fault : Fault)
  | stray
  | finish

/-- A token and the number of characters before it. -/
structure Placed where
  offset : Nat
  token : Token

/-- The number in four hexadecimal digits. -/
def fourHex? (a b c d : Char) : Option Nat := Text.hexNumber? [a, b, c, d]

/-- The content of a string so far: its characters in reverse, the upper half of a pair of
code units whose lower half may come next, and whether there was a half without the other. -/
structure Content where
  done : List Char
  upperHalf : Option Nat
  isTorn : Bool

/-- The content of a string at its start. -/
def Content.empty : Content := ⟨[], none, false⟩

/-- The content when no lower half can come next. -/
def Content.settled (content : Content) : Content :=
  ⟨content.done, none, content.isTorn || content.upperHalf.isSome⟩

/-- The content with one more character. -/
def Content.add (content : Content) (c : Char) : Content :=
  { content.settled with done := c :: content.done }

/-- The content with one more code unit. -/
def Content.addUnit (content : Content) (unit : Nat) : Content :=
  if Text.isUpperHalf unit then { content.settled with upperHalf := some unit }
  else if Text.isHalf unit then
    match content.upperHalf with
    | some upper =>
      ⟨Char.ofNat (Text.pairedCode upper unit) :: content.done, none, content.isTorn⟩
    | none => { content with isTorn := true }
  else content.add (Char.ofNat unit)

/-- The character that a letter stands for after a backslash. -/
def simpleEscape? : Char → Option Char
  | '"' => some '"'
  | '\\' => some '\\'
  | '/' => some '/'
  | 'b' => some '\x08'
  | 'f' => some '\x0c'
  | 'n' => some '\n'
  | 'r' => some '\r'
  | 't' => some '\t'
  | _ => none

/-- Reads on in a string whose opening quote stands at `start`, from `offset` on. The
answer has the text of the string, the text after the closing quote and the offset
there. An escape by code unit needs a further character after its digits. -/
def readString (start : Nat) :
    Nat → Content → List Char → Except Fault (String × List Char × Nat)
  | _, _, [] => .error ⟨.unterminatedString, start⟩
  | offset, content, '"' :: rest =>
    if content.settled.isTorn then .error ⟨.unpairedHalf, start⟩
    else .ok (String.ofList content.done.reverse, rest, offset + 1)
  | _, _, ['\\'] => .error ⟨.unterminatedString, start⟩
  | offset, content, '\\' :: 'u' :: a :: b :: c :: d :: e :: rest =>
    match fourHex? a b c d with
    | none => .error ⟨.badUnicodeEscape, offset + 1⟩
    | some unit => readString start (offset + 6) (content.addUnit unit) (e :: rest)
  | offset, _, '\\' :: 'u' :: _ => .error ⟨.badUnicodeEscape, offset + 1⟩
  | offset, content, '\\' :: c :: rest =>
    match simpleEscape? c with
    | some meant => readString start (offset + 2) (content.add meant) rest
    | none => .error ⟨.badEscape, offset⟩
  | offset, content, c :: rest =>
    if c.toNat < 0x20 then .error ⟨.controlCharacter, offset⟩
    else readString start (offset + 1) (content.add c) rest

/-- The digits at the start of a text, and the rest. -/
def spanDigits (text : List Char) : List Char × List Char :=
  (text.takeWhile Char.isDigit, text.dropWhile Char.isDigit)

/-- The fraction at the start of a text: a point with at least one digit. -/
def spanFraction : List Char → List Char × List Char
  | '.' :: rest =>
    match spanDigits rest with
    | ([], _) => ([], '.' :: rest)
    | (digits, after) => ('.' :: digits, after)
  | text => ([], text)

/-- The exponent at the start of a text: its mark, a sign or none, and at least one
digit. -/
def spanExponent : List Char → List Char × List Char
  | [] => ([], [])
  | mark :: rest =>
    if mark = 'e' || mark = 'E' then
      let (sign, unsigned) :=
        match rest with
        | '-' :: more => (['-'], more)
        | '+' :: more => (['+'], more)
        | more => ([], more)
      match spanDigits unsigned with
      | ([], _) => ([], mark :: rest)
      | (digits, after) => (mark :: sign ++ digits, after)
    else ([], mark :: rest)

/-- The token of an integer with the given digits. -/
def integerToken (isNegative : Bool) (digits : List Char) : Token :=
  if maxDigits < digits.length then .tooLong digits.length
  else
    let magnitude : Int := Double.digitsValue digits
    .scalar (.int (if isNegative then -magnitude else magnitude))

/-- The number at the start of a text with its length and the text after it. Its whole
part has no leading zero. -/
def readNumber? (text : List Char) : Option (Token × Nat × List Char) :=
  let (sign, unsigned) :=
    match text with
    | '-' :: rest => (['-'], rest)
    | rest => ([], rest)
  let (whole, afterWhole) :=
    match unsigned with
    | '0' :: rest => (['0'], rest)
    | rest => spanDigits rest
  if whole.isEmpty then none
  else
    let (fraction, afterFraction) := spanFraction afterWhole
    let (exponent, after) := spanExponent afterFraction
    let length := sign.length + whole.length + fraction.length + exponent.length
    if fraction.isEmpty && exponent.isEmpty then
      some (integerToken (!sign.isEmpty) whole, length, after)
    else
      let number := Double.read (sign ++ whole ++ fraction ++ exponent)
      some (.scalar (.double number), length, after)

/-- The words that stand for values. -/
def valueWords : List (List Char × Json) :=
  [("null".toList, .null), ("true".toList, .bool true), ("false".toList, .bool false),
    ("NaN".toList, .double .nan), ("Infinity".toList, .double (.infinity false)),
    ("-Infinity".toList, .double (.infinity true))]

/-- The value without brackets or quotes at the start of a text, with its length and
the text after it. -/
def readScalar? (text : List Char) : Option (Token × Nat × List Char) :=
  match valueWords.find? fun (word, _) => word.isPrefixOf text with
  | some (word, value) => some (.scalar value, word.length, text.drop word.length)
  | none => readNumber? text

/-- White space between tokens. -/
def isSkipped (c : Char) : Bool := c == ' ' || c == '\t' || c == '\n' || c == '\r'

/-- The tokens of a text from `offset` on. Each token takes a character at least, so
the fuel is enough when it exceeds the number of characters. -/
def tokensFrom : Nat → Nat → List Char → List Placed
  | 0, _, _ => []
  | _, offset, [] => [⟨offset, .finish⟩]
  | fuel + 1, offset, c :: rest =>
    if isSkipped c then tokensFrom fuel (offset + 1) rest
    else
      let single (token : Token) := ⟨offset, token⟩ :: tokensFrom fuel (offset + 1) rest
      match c with
      | '\x7b' => single .openObject
      | '\x7d' => single .closeObject
      | '[' => single .openArray
      | ']' => single .closeArray
      | ',' => single .comma
      | ':' => single .colon
      | '"' =>
        match readString offset (offset + 1) .empty rest with
        | .error fault => [⟨offset, .broken fault⟩]
        | .ok (content, after, next) => ⟨offset, .string content⟩ :: tokensFrom fuel next after
      | _ =>
        match readScalar? (c :: rest) with
        | some (token, length, after) =>
          ⟨offset, token⟩ :: tokensFrom fuel (offset + length) after
        | none => [⟨offset, .stray⟩]

/-- The tokens of a text. -/
def tokens (text : List Char) : List Placed := tokensFrom (text.length + 1) 0 text

/-- A container that is still open: the items of an array in reverse, or the members of
an object so far and the name whose value is being read. -/
inductive Open where
  | array (items : List Json)
  | object (members : List (String × Json)) (name : String)

/-- What the reader expects next. `value` and `name` say whether the container may be
closed instead, which is so right after it was opened. -/
inductive Expected where
  | value (mayClose : Bool)
  | name (members : List (String × Json)) (mayClose : Bool)
  | colon (members : List (String × Json)) (name : String)
  | afterValue (value : Json)

/-- Reads tokens with the containers that are open, the innermost first. -/
def readTokens : Expected → List Open → List Placed → Except Fault Json
  | _, _, [] => .error ⟨.expectedValue, 0⟩
  | .value mayClose, stack, ⟨offset, token⟩ :: rest =>
    match token with
    | .scalar value => readTokens (.afterValue value) stack rest
    | .tooLong digits => .error ⟨.tooLong digits, offset⟩
    | .string content => readTokens (.afterValue (.string content)) stack rest
    | .openArray => readTokens (.value true) (.array [] :: stack) rest
    | .openObject => readTokens (.name [] true) stack rest
    | .broken fault => .error fault
    | .closeArray =>
      match mayClose, stack with
      | true, .array items :: outer => readTokens (.afterValue (.array items.reverse)) outer rest
      | _, _ => .error ⟨.expectedValue, offset⟩
    | _ => .error ⟨.expectedValue, offset⟩
  | .name members mayClose, stack, ⟨offset, token⟩ :: rest =>
    match token with
    | .string name => readTokens (.colon members name) stack rest
    | .broken fault => .error fault
    | .closeObject =>
      if mayClose then readTokens (.afterValue (.object members)) stack rest
      else .error ⟨.expectedName, offset⟩
    | _ => .error ⟨.expectedName, offset⟩
  | .colon members name, stack, ⟨offset, token⟩ :: rest =>
    match token with
    | .colon => readTokens (.value false) (.object members name :: stack) rest
    | _ => .error ⟨.expectedColon, offset⟩
  | .afterValue value, [], ⟨offset, token⟩ :: _ =>
    match token with
    | .finish => .ok value
    | _ => .error ⟨.extraData, offset⟩
  | .afterValue value, .array items :: outer, ⟨offset, token⟩ :: rest =>
    match token with
    | .comma => readTokens (.value false) (.array (value :: items) :: outer) rest
    | .closeArray => readTokens (.afterValue (.array (value :: items).reverse)) outer rest
    | _ => .error ⟨.expectedComma, offset⟩
  | .afterValue value, .object members name :: outer, ⟨offset, token⟩ :: rest =>
    match token with
    | .comma => readTokens (.name (setMember members name value) false) outer rest
    | .closeObject =>
      readTokens (.afterValue (.object (setMember members name value))) outer rest
    | _ => .error ⟨.expectedComma, offset⟩

/-- The document in a text that has been decoded from bytes. -/
def readDecoded (text : List Char) : Except Fault Json :=
  readTokens (.value false) [] (tokens text)

/-- The document in a text; a byte order mark at its start is a fault. -/
def read (text : List Char) : Except Fault Json :=
  match text with
  | '\uFEFF' :: _ => .error ⟨.unexpectedMark, 0⟩
  | _ => readDecoded text

end InfraReview.Json
