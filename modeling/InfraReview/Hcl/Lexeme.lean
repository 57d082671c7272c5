import InfraReview.Hcl.Language

/-!
# Tokens in source text

For each sort of token this module says how many characters at the start of a text make
a token of that sort, if any do. A quoted string runs to its closing quote; a quote
inside an interpolation does not close it, and an interpolation may hold further ones
that hold none themselves. A heredoc runs to the first place where its tag occurs again,
even inside a word.
-/

namespace InfraReview.Hcl

/-- Where a character of a quoted string stands: in the text itself, in an
interpolation, or in an interpolation inside one. The flag says whether the
interpolation has begun to have content, which it needs before it may end. -/
inductive QuotedPlace where
  | text
  | outer (begun : Bool)
  | inner (begun : Bool)

/-- The number of characters up to the closing quote of a string, counted from
`count`. -/
def quotedLength : QuotedPlace → Nat → List Char → Option Nat
  | _, _, [] => none
  | .text, count, '"' :: _ => some (count + 1)
  | .text, count, '$' :: '\x7b' :: rest => quotedLength (.outer false) (count + 2) rest
  | .text, _, ['\\'] => none
  | .text, count, '\\' :: c :: rest =>
    if c = '\n' then none else quotedLength .text (count + 2) rest
  | .text, count, _ :: rest => quotedLength .text (count + 1) rest
  | .outer _, count, '$' :: '\x7b' :: rest => quotedLength (.inner false) (count + 2) rest
  | .outer begun, count, c :: rest =>
    if c = '\x7d' then (if begun then quotedLength .text (count + 1) rest else none)
    else quotedLength (.outer true) (count + 1) rest
  | .inner begun, count, c :: rest =>
    if c = '\x7d' then (if begun then quotedLength (.outer true) (count + 1) rest else none)
    else quotedLength (.inner true) (count + 1) rest

/-- The number of characters before the first occurrence of a text in another one. -/
def offsetOf? (part : List Char) : List Char → Option Nat
  | [] => if part.isEmpty then some 0 else none
  | c :: rest =>
    if part.isPrefixOf (c :: rest) then some 0 else (offsetOf? part rest).map (· + 1)

/-- An ASCII letter. -/
def isLetter (c : Char) : Bool := c.isAlpha

/-- A character of an identifier after the first one. -/
def isIdentifierPart (c : Char) : Bool := c.isAlphanum || c = '_' || c = '-'

/-- A character of the tag of a heredoc after the first one. -/
def isTagPart (c : Char) : Bool := c.isAlphanum || c = '.' || c = '_' || c = '-'

/-- The tag at the start of a text: a letter and at least one more character. -/
def tag? : List Char → Option (List Char)
  | c :: rest =>
    let more := rest.takeWhile isTagPart
    if isLetter c && !more.isEmpty then some (c :: more) else none
  | [] => none

/-- The number of characters of a heredoc from its tag on. -/
def heredocLength (text : List Char) : Option Nat := do
  let tag ← tag? text
  match text.drop tag.length with
  | '\n' :: body =>
    let offset ← offsetOf? tag body
    some (2 * tag.length + 1 + offset)
  | _ => none

/-- The number of characters up to the end of the line and of the line end. -/
def restOfLine : List Char → Option Nat
  | [] => none
  | c :: rest => if c = '\n' then some 1 else (restOfLine rest).map (· + 1)

/-- The number of characters at the start of a text that make a token of a sort. -/
def Terminal.length? (terminal : Terminal) (text : List Char) : Option Nat :=
  match terminal, text with
  | .quoted, '"' :: rest => quotedLength .text 1 rest
  | .trimmedHeredoc, '<' :: '<' :: '-' :: rest => (heredocLength rest).map (· + 3)
  | .heredoc, '<' :: '<' :: rest => (heredocLength rest).map (· + 2)
  | .identifier, c :: rest =>
    if isLetter c || c = '_' then some ((rest.takeWhile isIdentifierPart).length + 1) else none
  | .bracketedComment, '/' :: '*' :: rest => (offsetOf? ['*', '/'] rest).map (· + 4)
  | .slashComment, '/' :: '/' :: rest => (restOfLine rest).map (· + 2)
  | .hashComment, '#' :: rest => (restOfLine rest).map (· + 1)
  | .blanks, c :: rest =>
    if c = ' ' || c = '\t' then
      some ((rest.takeWhile fun c => c = ' ' || c = '\t').length + 1)
    else none
  | .exponentMark, c :: rest =>
    if c = 'e' || c = 'E' then
      match rest with
      | '+' :: _ => some 2
      | '-' :: _ => some 2
      | _ => some 1
    else none
  | .digit, c :: _ => if c.isDigit then some 1 else none
  | .fixed word, text => if word.toList.isPrefixOf text then some word.length else none
  | _, _ => none

/-- True for the tokens that may stand anywhere. -/
def Terminal.isIgnored : Terminal → Bool
  | .bracketedComment | .blanks => true
  | _ => false

/-- The words that are identifiers unless a state expects them as words. -/
def keywords : List String := ["for_each", "for", "if", "in"]

end InfraReview.Hcl
