import InfraReview.Yaml.BlockText
import InfraReview.Yaml.Name
import InfraReview.Yaml.PlainText
import InfraReview.Yaml.QuotedText

/-!
# Dividing YAML text into tokens

The text is read from left to right. Outside of brackets the indentation of lines opens
and closes collections. A key of a mapping can often be told only by the colon after it,
so a token that may turn out to begin a key is remembered, one for each level of brackets;
a colon puts the mark of the key, and perhaps that of a mapping, before it. Such a token
is forgotten when its line ends or 1024 characters later, and it is an error if the
indentation demanded a key there.

A fault ends the tokens. A token that might still have become a key does not count as
read then, so whoever takes the tokens in turn meets the fault at the right one.
-/

namespace InfraReview.Yaml

/-- A token that may begin a key: its number, whether it has to, and its place. -/
structure PossibleKey where
  number : Nat
  required : Bool
  index : Nat
  line : Nat
  column : Nat

/-- The state of reading: the place, the tokens so far with the latest first, the
indentation and those around it, whether a key may begin here, and the possible keys of
the innermost brackets and of those around them. -/
structure Scanner where
  cursor : Cursor
  tokens : List Token
  count : Nat
  indent : Int
  outerIndents : List Int
  keyAllowed : Bool
  possibleKey : Option PossibleKey
  outerKeys : List (Option PossibleKey)

/-- The tokens of a text in order, and the fault that ends them if one does. -/
structure Tokens where
  tokens : List Token
  fault : Option Fault

namespace Scanner

/-- The state at the start of a text. -/
def start (text : List Char) : Scanner where
  cursor := .start text
  tokens := []
  count := 0
  indent := -1
  outerIndents := []
  keyAllowed := true
  possibleKey := none
  outerKeys := []

/-- True inside brackets. -/
def inFlow (s : Scanner) : Bool := !s.outerKeys.isEmpty

/-- The state after one more token. -/
def push (token : Token) (s : Scanner) : Scanner :=
  { s with tokens := token :: s.tokens, count := s.count + 1 }

/-- The state after a token is put before the one with a number. -/
def insert (number : Nat) (token : Token) (s : Scanner) : Scanner :=
  let (later, earlier) := s.tokens.splitAt (s.count - number)
  { s with tokens := later ++ token :: earlier, count := s.count + 1 }

/-- The state at another place. -/
def moveTo (cursor : Cursor) (s : Scanner) : Scanner := { s with cursor := cursor }

/-- True when a token can still become a key at a place. -/
def isFresh (cursor : Cursor) (key : PossibleKey) : Bool :=
  key.line == cursor.line && cursor.index - key.index ≤ 1024

/-- A possible key after it was looked at from a place. -/
def refresh (cursor : Cursor) : Option PossibleKey → Except Fault (Option PossibleKey)
  | none => .ok none
  | some key =>
    if isFresh cursor key then .ok (some key)
    else if key.required then .error .malformed
    else .ok none

/-- Forgets the possible keys that can no longer be one. -/
def forgetStale (s : Scanner) : Except Fault Scanner := do
  let key ← refresh s.cursor s.possibleKey
  let others ← s.outerKeys.mapM (refresh s.cursor)
  .ok { s with possibleKey := key, outerKeys := others }

/-- Forgets the possible key of the innermost brackets. -/
def forgetKey (s : Scanner) : Except Fault Scanner :=
  match s.possibleKey with
  | none => .ok s
  | some key => if key.required then .error .malformed else .ok { s with possibleKey := none }

/-- Remembers that the next token may begin a key, if one may begin here. -/
def rememberKey (s : Scanner) : Except Fault Scanner :=
  if s.keyAllowed then do
    let required := !s.inFlow && s.indent == s.cursor.column
    let s ← s.forgetKey
    .ok { s with
      possibleKey := some ⟨s.count, required, s.cursor.index, s.cursor.line, s.cursor.column⟩ }
  else .ok s

/-- Closes the collections that are indented beyond a column. -/
def closeTo (column : Int) (s : Scanner) : Scanner :=
  if s.inFlow then s
  else
    let closed := (s.indent :: s.outerIndents).takeWhile (column < ·)
    match (s.indent :: s.outerIndents).dropWhile (column < ·) with
    | [] => s
    | indent :: outer =>
      { s with
        tokens := List.replicate closed.length .blockEnd ++ s.tokens
        count := s.count + closed.length
        indent := indent
        outerIndents := outer }

/-- The state inside a collection at a column, if it is indented beyond the present one. -/
def openAt? (column : Nat) (s : Scanner) : Option Scanner :=
  if s.indent < column then
    some { s with indent := column, outerIndents := s.indent :: s.outerIndents }
  else none

/-- Opens a collection at the present column, if one begins there. -/
def openHere (token : Token) (s : Scanner) : Scanner :=
  match s.openAt? s.cursor.column with
  | some inside => inside.push token
  | none => s

/-- Goes on to where the next token begins. A line end allows a key, except inside
brackets. -/
def toNextToken : Nat → Scanner → Scanner
  | 0, s => s
  | fuel + 1, s =>
    let after := s.cursor.skipBlanks.skipComment
    if after.next?.any isBreak then
      toNextToken fuel { s with cursor := after.step, keyAllowed := s.keyAllowed || !s.inFlow }
    else s.moveTo after

/-- A token that closes all indentation: the state before it. -/
def atMargin (s : Scanner) : Except Fault Scanner := do
  let s ← (s.closeTo (-1)).forgetKey
  .ok { s with keyAllowed := false }

/-- Reads a directive. -/
def readDirective (s : Scanner) : Except Fault Scanner := do
  let s ← s.atMargin
  let (found, after) ← directive s.cursor
  .ok ((s.push (.directive found)).moveTo after)

/-- Reads a mark that parts documents. -/
def readDocumentMark (token : Token) (s : Scanner) : Except Fault Scanner := do
  let s ← s.atMargin
  .ok ((s.push token).moveTo (s.cursor.advance 3))

/-- Reads an opening bracket. -/
def readOpening (token : Token) (s : Scanner) : Except Fault Scanner := do
  let s ← s.rememberKey
  .ok { (s.push token).moveTo s.cursor.step with
    keyAllowed := true
    possibleKey := none
    outerKeys := s.possibleKey :: s.outerKeys }

/-- Reads a closing bracket. -/
def readClosing (token : Token) (s : Scanner) : Except Fault Scanner := do
  let s ← s.forgetKey
  let s := { (s.push token).moveTo s.cursor.step with keyAllowed := false }
  match s.outerKeys with
  | [] => .ok s
  | key :: outer => .ok { s with possibleKey := key, outerKeys := outer }

/-- Reads a comma. -/
def readFlowEntry (s : Scanner) : Except Fault Scanner := do
  let s ← s.forgetKey
  .ok { (s.push .flowEntry).moveTo s.cursor.step with keyAllowed := true }

/-- Reads the hyphen before an item. -/
def readBlockEntry (s : Scanner) : Except Fault Scanner := do
  if !s.inFlow && !s.keyAllowed then .error .malformed
  else
    let s ← (if s.inFlow then s else s.openHere .blockSequenceStart).forgetKey
    .ok { (s.push .blockEntry).moveTo s.cursor.step with keyAllowed := true }

/-- Reads the question mark before a key. -/
def readKey (s : Scanner) : Except Fault Scanner := do
  if !s.inFlow && !s.keyAllowed then .error .malformed
  else
    let s ← (if s.inFlow then s else s.openHere .blockMappingStart).forgetKey
    .ok { (s.push .key).moveTo s.cursor.step with keyAllowed := !s.inFlow }

/-- Reads the colon after a key. If a token was remembered, it began the key. -/
def readValue (s : Scanner) : Except Fault Scanner := do
  match s.possibleKey with
  | some key =>
    let s := { s.insert key.number .key with possibleKey := none }
    let s :=
      if s.inFlow then s
      else
        match s.openAt? key.column with
        | some inside => inside.insert key.number .blockMappingStart
        | none => s
    .ok { (s.push .value).moveTo s.cursor.step with keyAllowed := false }
  | none =>
    if !s.inFlow && !s.keyAllowed then .error .malformed
    else
      let s := if s.inFlow then s else s.openHere .blockMappingStart
      .ok { (s.push .value).moveTo s.cursor.step with keyAllowed := !s.inFlow }

/-- Reads an anchor or an alias. -/
def readAnchor (token : String → Token) (s : Scanner) : Except Fault Scanner := do
  let s ← s.rememberKey
  let (found, after) ← anchorName s.cursor
  .ok { (s.push (token found)).moveTo after with keyAllowed := false }

/-- Reads a tag. -/
def readTag (s : Scanner) : Except Fault Scanner := do
  let s ← s.rememberKey
  let (found, after) ← tagName s.cursor
  .ok { (s.push (.tag found)).moveTo after with keyAllowed := false }

/-- Reads block text. -/
def readBlockText (folded : Bool) (s : Scanner) : Except Fault Scanner := do
  let s ← s.forgetKey
  let (text, after) ← blockText folded s.indent s.cursor
  .ok { (s.push (.scalar false (String.ofList text))).moveTo after with keyAllowed := true }

/-- Reads quoted text. -/
def readQuotedText (double : Bool) (s : Scanner) : Except Fault Scanner := do
  let s ← s.rememberKey
  let (text, after) ← quotedText double s.cursor
  .ok { (s.push (.scalar false (String.ofList text))).moveTo after with keyAllowed := false }

/-- Reads plain text. -/
def readPlainText (s : Scanner) : Except Fault Scanner := do
  let s ← s.rememberKey
  let found := plainText s.inFlow (s.indent + 1) s.cursor
  .ok { (s.push (.scalar true (String.ofList found.text))).moveTo found.cursor with
    keyAllowed := found.newLine }

/-- True when plain text can begin with `c`, which stands before `after`. -/
def beginsPlain (inFlow : Bool) (c : Char) (after : Option Char) : Bool :=
  !(endsWord (some c)
      || ['-', '?', ':', ',', '[', ']', '\x7b', '\x7d', '#', '&', '*', '!', '|', '>', '\'', '"',
          '%', '@', '\x60'].contains c)
    || (!endsWord after && (c == '-' || (!inFlow && (c == '?' || c == ':'))))

/-- Reads the token that begins with `c`. -/
def readToken (c : Char) (s : Scanner) : Except Fault Scanner :=
  let after := s.cursor.ahead? 1
  let atLineStart := s.cursor.column == 0
  if c = '%' && atLineStart then s.readDirective
  else if atLineStart && s.cursor.atDocumentMark then
    s.readDocumentMark (if c = '-' then .documentStart else .documentEnd)
  else if c = '[' then s.readOpening .flowSequenceStart
  else if c = '\x7b' then s.readOpening .flowMappingStart
  else if c = ']' then s.readClosing .flowSequenceEnd
  else if c = '\x7d' then s.readClosing .flowMappingEnd
  else if c = ',' then s.readFlowEntry
  else if c = '-' && endsWord after then s.readBlockEntry
  else if c = '?' && (s.inFlow || endsWord after) then s.readKey
  else if c = ':' && (s.inFlow || endsWord after) then s.readValue
  else if c = '*' then s.readAnchor .alias
  else if c = '&' then s.readAnchor .anchor
  else if c = '!' then s.readTag
  else if c = '|' && !s.inFlow then s.readBlockText false
  else if c = '>' && !s.inFlow then s.readBlockText true
  else if c = '\'' then s.readQuotedText false
  else if c = '"' then s.readQuotedText true
  else if beginsPlain s.inFlow c after then s.readPlainText
  else .error .malformed

/-- Reads the end of the text. -/
def readEnd (s : Scanner) : Except Fault Scanner := do
  let s ← s.atMargin
  .ok (s.push .streamEnd)

/-- Reads the tokens that the next place in the text gives, and whether it is the end. -/
def advance (s : Scanner) : Except Fault (Scanner × Bool) := do
  let s ← (s.toNextToken (s.cursor.rest.length + 1)).forgetStale
  let s := s.closeTo s.cursor.column
  match s.cursor.next? with
  | none => .ok (← s.readEnd, true)
  | some c => .ok (← s.readToken c, false)

/-- The tokens that count as read when a fault ends them: those before all that can still
become a key. -/
def settled (s : Scanner) : List Token :=
  let pending := ((s.possibleKey :: s.outerKeys).filterMap id).filter (isFresh s.cursor)
  let number := pending.foldl (fun least key => min least key.number) s.count
  s.tokens.reverse.take number

/-- The tokens from a state on. -/
def run : Nat → Scanner → Tokens
  | 0, s => ⟨s.settled, some .malformed⟩
  | fuel + 1, s =>
    match s.advance with
    | .error fault => ⟨s.settled, some fault⟩
    | .ok (next, true) => ⟨next.tokens.reverse, none⟩
    | .ok (next, false) => run fuel next

end Scanner

/-- The tokens of a text. A byte order mark at its start is passed over. Every step reads
at least one character. -/
def Tokens.ofText (text : List Char) : Tokens :=
  let start := Scanner.start text
  let start := if start.cursor.sees '\uFEFF' then start.moveTo start.cursor.step else start
  start.run (text.length + 1)

end InfraReview.Yaml
