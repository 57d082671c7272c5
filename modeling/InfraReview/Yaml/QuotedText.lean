import InfraReview.Text.Encoding
import InfraReview.Yaml.Cursor
import InfraReview.Yaml.Fault

/-!
# Quoted text

Text between single quotes has one escape, the doubled quote. Between double quotes a
backslash begins an escape: a letter for a character that is hard to write, a code point
in hexadecimal digits, or a line end that does not count. In both, blanks before and
after a line end are dropped, one line end becomes a blank, and each further one a line
feed. A mark that parts documents may not occur at the start of a line. Texts consist of
characters, so an escape of half a surrogate pair gives the replacement character.
-/

namespace InfraReview.Yaml

/-- The characters that a backslash and one letter stand for. -/
def letterEscapes : List (Char × Char) :=
  [('0', '\x00'), ('a', '\x07'), ('b', '\x08'), ('t', '\t'), ('\t', '\t'), ('n', '\n'),
    ('v', '\x0b'), ('f', '\x0c'), ('r', '\r'), ('e', '\x1b'), (' ', ' '), ('"', '"'),
    ('\\', '\\'), ('/', '/'), ('N', '\u0085'), ('_', '\u00a0'), ('L', '\u2028'),
    ('P', '\u2029')]

/-- The number of digits after the letters that announce a code point. -/
def codeEscapes : List (Char × Nat) := [('x', 2), ('u', 4), ('U', 8)]

/-- The character with a code point. -/
def charOfCode (code : Nat) : Except Fault Char :=
  if code < 0x110000 then .ok (Text.charOfCode code)
  else if code < 0x80000000 then .error .escapeOutOfRange
  else .error .escapeTooLarge

/-- The line ends from a place on, with the blanks and tabs around them. -/
def quotedBreaks : Nat → Cursor → Except Fault (List Char × Cursor)
  | 0, _ => .error .malformed
  | fuel + 1, cursor =>
    if cursor.atDocumentMark then .error .malformed
    else
      let after := cursor.skipWhile fun c => c == ' ' || c == '\t'
      match after.next? with
      | none => .ok ([], after)
      | some c =>
        if isBreak c then do
          let (breaks, last) ← quotedBreaks fuel after.step
          .ok (breakChar c :: breaks, last)
        else .ok ([], after)

/-- The escape after a backslash: the characters it stands for and the place after it. -/
def escape (cursor : Cursor) : Except Fault (List Char × Cursor) :=
  match cursor.next? with
  | none => .error .malformed
  | some letter =>
    match letterEscapes.lookup letter, codeEscapes.lookup letter with
    | some c, _ => .ok ([c], cursor.step)
    | none, some places =>
      let digits := cursor.step.rest.take places
      match Text.hexNumber? digits with
      | some code =>
        if digits.length = places then do
          let c ← charOfCode code
          .ok ([c], cursor.step.advance places)
        else .error .malformed
      | none => .error .malformed
    | none, none =>
      if isBreak letter then quotedBreaks (cursor.rest.length + 1) cursor.step
      else .error .malformed

/-- The characters from a place on up to a blank, a line end or the closing quote. -/
def quotedWord (double : Bool) : Nat → Cursor → Except Fault (List Char × Cursor)
  | 0, _ => .error .malformed
  | fuel + 1, cursor =>
    match cursor.next? with
    | none => .ok ([], cursor)
    | some c =>
      if endsWord (some c) then .ok ([], cursor)
      else if double && c == '"' then .ok ([], cursor)
      else if double && c == '\\' then do
        let (characters, after) ← escape cursor.step
        let (others, last) ← quotedWord double fuel after
        .ok (characters ++ others, last)
      else if !double && c == '\'' then
        if cursor.ahead? 1 == some '\'' then do
          let (others, last) ← quotedWord double fuel (cursor.advance 2)
          .ok ('\'' :: others, last)
        else .ok ([], cursor)
      else do
        let (others, last) ← quotedWord double fuel cursor.step
        .ok (c :: others, last)

/-- What separates two words: the blanks, or what the line ends stand for. -/
def quotedGap (cursor : Cursor) : Except Fault (List Char × Cursor) :=
  let isBlank (c : Char) : Bool := c == ' ' || c == '\t'
  let after := cursor.skipWhile isBlank
  match after.next? with
  | none => .error .malformed
  | some c =>
    if isBreak c then do
      let (breaks, last) ← quotedBreaks (after.rest.length + 1) after.step
      let first :=
        if breakChar c != '\n' then [breakChar c]
        else if breaks.isEmpty then [' ']
        else []
      .ok (first ++ breaks, last)
    else .ok (cursor.rest.takeWhile isBlank, after)

/-- Words and gaps up to the closing quote, and the place after it. -/
def quotedFrom (double : Bool) : Nat → Cursor → Except Fault (List Char × Cursor)
  | 0, _ => .error .malformed
  | fuel + 1, cursor =>
    if cursor.sees (if double then '"' else '\'') then .ok ([], cursor.step)
    else do
      let (gap, before) ← quotedGap cursor
      let (word, after) ← quotedWord double (before.rest.length + 1) before
      let (others, last) ← quotedFrom double fuel after
      .ok (gap ++ word ++ others, last)

/-- The quoted text at its opening quote, and the place after it. -/
def quotedText (double : Bool) (cursor : Cursor) : Except Fault (List Char × Cursor) := do
  let inside := cursor.step
  let (word, after) ← quotedWord double (inside.rest.length + 1) inside
  let (others, last) ← quotedFrom double (after.rest.length + 1) after
  .ok (word ++ others, last)

end InfraReview.Yaml
