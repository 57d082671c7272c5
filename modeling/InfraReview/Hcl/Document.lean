import InfraReview.Hcl.Meaning

/-!
# Reading source text

Text is read token by token. In each state of the parser only the sorts of tokens that
the state has an action for are tried, in a fixed order, and the first one that fits is
taken; so the same characters can be different tokens at different places. A line end
is added at the end of the text, because a comment there needs one.

Reading fails with the line of the first character that begins no token, of the first
token that cannot continue, or, at the end of the text, of the last token. Text that has
a derivation but contradicts itself fails without a line, which is written as zero.
-/

namespace InfraReview.Hcl

open Grammar

/-- The parse table of the language. -/
def table : Table := (Productions.ofRules terminals rules).table

/-- The sorts of tokens with their numbers, in the order in which they are tried. -/
def numberedTerminals : List (Terminal × Nat) := terminals.zipIdx

/-- The first sort of token that a state expects, or that may stand anywhere, and that
fits the text, with its number and its length. -/
def nextToken? (state : Nat) (text : List Char) : Option (Terminal × Nat × Nat) :=
  numberedTerminals.findSome? fun (terminal, index) =>
    if terminal.isIgnored || table.accepts state index then
      (terminal.length? text).map fun length => (terminal, index, length)
    else none

/-- The number of the sort of an identifier: a keyword that the state expects is not
read as an identifier. -/
def identifierSort (state : Nat) (text : String) (index : Nat) : Nat :=
  if keywords.contains text then
    let keyword := terminals.idxOf (.fixed text)
    if table.accepts state keyword then keyword else index
  else index

/-- The derivation of a text, from the stack that the text before it has led to. `line`
is the line of the first character and `lastLine` that of the last token. Each token
takes a character at least, so fuel beyond the number of characters is enough. -/
def deriveFrom : Nat → Stack Lexeme → Nat → Nat → List Char → Except Nat (Derivation Lexeme)
  | 0, _, line, _, _ => .error line
  | _, stack, _, lastLine, [] =>
    match table.finish? stack with
    | some derivation => .ok derivation
    | none => .error lastLine
  | fuel + 1, stack, line, lastLine, c :: rest =>
    match nextToken? stack.top (c :: rest) with
    | none => .error line
    | some (terminal, index, length) =>
      let characters := (c :: rest).take length
      let after := (c :: rest).drop length
      let nextLine := line + characters.count '\n'
      if terminal.isIgnored then deriveFrom fuel stack nextLine lastLine after
      else
        let text := String.ofList characters
        let sort :=
          if terminal = .identifier then identifierSort stack.top text index else index
        match table.shift? stack sort ⟨text, line⟩ with
        | some stack => deriveFrom fuel stack nextLine line after
        | none => .error line

/-- The derivation of a text with a line end added. -/
def derive (text : List Char) : Except Nat (Derivation Lexeme) :=
  let ended := text ++ ['\n']
  deriveFrom (ended.length + 1) [] 1 1 ended

/-- The body in a text, or the line at fault. -/
def read (text : List Char) : Except Nat (List (Key × Tree)) := do
  let derivation ← derive text
  match meaning? derivation with
  | some (.value (.map entries)) => .ok entries
  | _ => .error 0

end InfraReview.Hcl
