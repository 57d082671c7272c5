/-!
# Places in YAML text

A cursor is a place in a text: what is left of it, and how far it is from the start of
the text and from the start of its line. The text ends its lines uniformly, but the
characters for a next line, a line separator and a paragraph separator end lines too. A
byte order mark takes no column.

The places that look ahead do so by at most three characters; the end of the text counts
like a blank there.
-/

namespace InfraReview.Yaml

/-- A character that ends a line. -/
def isBreak (c : Char) : Bool :=
  c == '\n' || c == '\u0085' || c == '\u2028' || c == '\u2029'

/-- What reading a line end gives: all of them are one line feed, except the two
separators. -/
def breakChar (c : Char) : Char :=
  if c == '\u2028' || c == '\u2029' then c else '\n'

/-- A line end or the end of the text. -/
def endsLine : Option Char → Bool
  | none => true
  | some c => isBreak c

/-- A blank, a line end or the end of the text. -/
def endsName : Option Char → Bool
  | none => true
  | some c => c == ' ' || isBreak c

/-- A blank, a tab, a line end or the end of the text. -/
def endsWord : Option Char → Bool
  | none => true
  | some c => c == ' ' || c == '\t' || isBreak c

/-- A character of a name: an ASCII letter or digit, a hyphen or an underscore. -/
def isNameChar (c : Char) : Bool := c.isAlphanum || c == '-' || c == '_'

/-- A place in a text. -/
structure Cursor where
  rest : List Char
  index : Nat
  line : Nat
  column : Nat

namespace Cursor

/-- The first place of a text. -/
def start (text : List Char) : Cursor := ⟨text, 0, 0, 0⟩

/-- The character at a place. -/
def next? (cursor : Cursor) : Option Char := cursor.rest.head?

/-- The character some way after a place. -/
def ahead? (cursor : Cursor) (distance : Nat) : Option Char := cursor.rest[distance]?

/-- True when the character at a place is the given one. -/
def sees (cursor : Cursor) (c : Char) : Bool := cursor.next? == some c

/-- The place one character on. -/
def step (cursor : Cursor) : Cursor :=
  match cursor.rest with
  | [] => cursor
  | c :: rest =>
    if isBreak c then ⟨rest, cursor.index + 1, cursor.line + 1, 0⟩
    else
      ⟨rest, cursor.index + 1, cursor.line,
        if c == '\uFEFF' then cursor.column else cursor.column + 1⟩

/-- The place some characters on. -/
def advance (cursor : Cursor) : Nat → Cursor
  | 0 => cursor
  | distance + 1 => advance cursor.step distance

/-- The place after all characters from here on that have a property. -/
def skipWhile (cursor : Cursor) (property : Char → Bool) : Cursor :=
  cursor.advance (cursor.rest.takeWhile property).length

/-- The place after all blanks from here on. -/
def skipBlanks (cursor : Cursor) : Cursor := cursor.skipWhile (· == ' ')

/-- The place where the line ends. -/
def lineEnd (cursor : Cursor) : Cursor := cursor.skipWhile (!isBreak ·)

/-- The place after a comment, if one begins here. -/
def skipComment (cursor : Cursor) : Cursor := if cursor.sees '#' then cursor.lineEnd else cursor

/-- True where three hyphens or three points stand alone: they part documents. -/
def atDocumentMark (cursor : Cursor) : Bool :=
  let mark := cursor.rest.take 3
  (mark == ['-', '-', '-'] || mark == ['.', '.', '.']) && endsWord (cursor.ahead? 3)

end Cursor

end InfraReview.Yaml
