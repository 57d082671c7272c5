import InfraReview.Grammar.Machine
import InfraReview.Hcl.Lexeme
import InfraReview.Hcl.Tree
import InfraReview.Text.Lines

/-!
# What derivations mean

A derivation of source text is turned into source values from its leaves up. Literals
become values; an expression that computes something becomes the text of it, written
with single blanks around operators and none elsewhere. The value of an attribute, an
item of a list and a value in an object are marked: a text between quotes loses them,
and any other text, which is an expression, is wrapped in the signs of an
interpolation.

A body contradicts itself when an attribute takes a name that is taken, or a block the
name of an attribute; an object does when a list or a map is a key. An integer with too many
digits has no meaning either. A body of a block carries the lines on which the block starts
and ends.
-/

namespace InfraReview.Hcl

open Grammar

/-- A token: its characters and the line on which it starts. -/
structure Lexeme where
  text : String
  line : Nat

/-- The key of a body for the line on which the block starts. -/
def startLineKey : String := "__start_line__"

/-- The key of a body for the line on which the block ends. -/
def endLineKey : String := "__end_line__"

/-- What a part of a derivation means. -/
inductive Meaning where
  | nothing
  | token (text : String)
  | name (text : String)
  | value (tree : Tree)
  | attribute (name : String) (tree : Tree)
  | block (type : String) (tree : Tree)
  | entry (key : Key) (tree : Tree)
  | arguments (values : List Tree)

namespace Meaning

/-- The text of a token, a name or a value in an expression. -/
def shown? : Meaning → Option String
  | token text => some text
  | name text => some text
  | value tree => some tree.shown
  | _ => none

/-- The texts of parts with something between them. -/
def joined (between : String) (parts : List Meaning) : String :=
  between.intercalate (parts.filterMap shown?)

/-- The values among parts. -/
def values (parts : List Meaning) : List Tree :=
  parts.filterMap fun
    | value tree => some tree
    | _ => none

/-- The names among parts. -/
def names (parts : List Meaning) : List String :=
  parts.filterMap fun
    | name text => some text
    | _ => none

/-- An expression whose text is put together from its parts. -/
def expression (between : String) (parts : List Meaning) : Meaning :=
  value (.text (joined between parts))

/-- True for a text that starts and ends with a quote. -/
def isQuoted (text : List Char) : Bool :=
  text.head? == some '"' && text.getLast? == some '"'

/-- A text without its first and its last character. -/
def withoutEnds (text : List Char) : List Char := (text.drop 1).dropLast

/-- A text without the quotes around it. -/
def unquoted (text : String) : String :=
  if isQuoted text.toList then String.ofList (withoutEnds text.toList) else text

/-- A value that stands on its own. -/
def marked : Tree → Tree
  | .text content =>
    if isQuoted content.toList then .text (String.ofList (withoutEnds content.toList))
    else .text ("$\x7b" ++ content ++ "\x7d")
  | tree => tree

/-- The value of a word: three words are literals. -/
def ofWord (text : String) : Tree :=
  if text = "true" then .bool true
  else if text = "false" then .bool false
  else if text = "null" then .null
  else .text text

/-- The content of a heredoc: the lines between its tags, without the white space at
their end. -/
def heredocContent (text : List Char) : List Char :=
  let tag := text.takeWhile (· != '\n')
  let body := (text.drop (tag.length + 1))
  let content := body.take (body.length - tag.length)
  (content.reverse.dropWhile fun c => c = '\n' || c = '\t' || c = ' ').reverse

/-- Lines without the blanks that all of them start with. -/
def outdented (lines : List (List Char)) : List (List Char) :=
  let indents := lines.map fun line => (line.takeWhile (· == ' ')).length
  match indents.min? with
  | some common => lines.map (·.drop common)
  | none => lines

/-- The value of a heredoc; `mark` is the number of characters before its tag. -/
def heredoc (mark : Nat) (trimmed : Bool) (text : String) : Tree :=
  let content := heredocContent (text.toList.drop mark)
  let laidOut :=
    if trimmed then ['\n'].intercalate (outdented (Text.splitChars '\n' content)) else content
  .text (String.ofList ('"' :: laidOut ++ ['"']))

/-- The value as a key, unless it is a list or a map. -/
def key? : Tree → Option Key
  | .null => some .null
  | .bool truth => some (.bool truth)
  | .int whole => some (.int whole)
  | .double number => some (.double number)
  | .text content => some (.text (unquoted content))
  | .list _ => none
  | .map _ => none

/-- A body while it is put together: its entries and the names of its attributes. -/
structure Body where
  entries : List (Key × Tree)
  attributes : List String

/-- A body after an attribute is added; its name must be new. -/
def Body.addAttribute (body : Body) (key : String) (tree : Tree) : Option Body :=
  match Tree.entry? body.entries key with
  | some _ => none
  | none => some ⟨body.entries ++ [(.text key, tree)], key :: body.attributes⟩

/-- A body after a block is added to the list of its type; no attribute may have its
name. -/
def Body.addBlock (body : Body) (type : String) (tree : Tree) : Option Body :=
  match Tree.entry? body.entries type with
  | none => some ⟨body.entries ++ [(.text type, .list [tree])], body.attributes⟩
  | some current =>
    if body.attributes.contains type then none
    else
      let blocks :=
        match current with
        | .list trees => trees
        | _ => []
      some ⟨Tree.setEntry body.entries (.text type) (.list (blocks ++ [tree])), body.attributes⟩

/-- A body after the attributes and the blocks among parts are added. -/
def Body.addAll (body : Body) : List Meaning → Option Body
  | [] => some body
  | .attribute key tree :: parts => (body.addAttribute key tree).bind (·.addAll parts)
  | .block type tree :: parts => (body.addBlock type tree).bind (·.addAll parts)
  | _ :: parts => body.addAll parts

/-- A block from its parts: the word for its type, its labels and its body. The body is
given its lines and then one map around it for each label, the first label outermost. -/
def block? (firstLine lastLine : Nat) (parts : List Meaning) : Option Meaning :=
  let labels := parts.filterMap fun
    | name text => some text
    | token text => if text.toList.head? == some '"' then some (unquoted text) else none
    | _ => none
  match labels, values parts with
  | type :: labels, [.map entries] =>
    let body := Tree.setEntry
      (Tree.setEntry entries (.text startLineKey) (.int firstLine))
      (.text endLineKey) (.int lastLine)
    some (.block type (labels.foldr (fun label inner => .map [(.text label, inner)]) (.map body)))
  | _, _ => none

/-- The text of a call. -/
def callText (function : String) (parts : List Meaning) : Tree :=
  let given := parts.flatMap fun
    | arguments values => values
    | _ => []
  .text (function ++ "(" ++ ", ".intercalate (given.map Tree.shown) ++ ")")

/-- The first part that means something, with the brackets of a term aside. -/
def termValue? (parts : List Meaning) : Option Tree :=
  parts.findSome? fun
    | name text => some (ofWord text)
    | value tree => some tree
    | token text => if text.toList.head? == some '"' then some (.text text) else none
    | _ => none

/-- What a rule means, given what its parts mean and the lines on which it starts and
ends. Nothing is meant by parts that contradict each other. -/
def combine (rule : Rule) (firstLine lastLine : Nat) (parts : List Meaning) : Option Meaning :=
  match rule with
  | .start | .expression | .operation => (values parts).head?.map value
  | .body => ((Body.mk [] []).addAll parts).map fun body => value (.map body.entries)
  | .attribute =>
    match names parts, values parts with
    | [key], [tree] => some (.attribute key (marked tree))
    | _, _ => none
  | .block => block? firstLine lastLine parts
  | .separator | .lineEnds | .colons => some nothing
  | .identifier => some (.name (joined "" parts))
  | .conditional =>
    match values parts with
    | [condition, yes, no] =>
      some (value (.text (condition.shown ++ " ? " ++ yes.shown ++ " : " ++ no.shown)))
    | _ => none
  | .unary => some (expression "" parts)
  | .binary | .binaryTail => some (expression " " parts)
  | .binaryOperator => some (expression "" parts)
  | .term => (termValue? parts).map value
  | .wholeNumber =>
    let digits := (joined "" parts).toList
    if maxDigits < digits.length then none else some (value (.int (Double.digitsValue digits)))
  | .fraction => some (value (.double (Double.read (joined "" parts).toList)))
  | .tuple => some (value (.list ((values parts).map marked)))
  | .object =>
    some (value (.map (parts.foldl
      (fun entries part =>
        match part with
        | .entry key tree => Tree.setEntry entries key tree
        | _ => entries)
      [])))
  | .objectElement =>
    match names parts, values parts with
    | [word], [tree] => some (.entry (.text (unquoted word)) (marked tree))
    | [], [key, tree] => (key? key).map fun key => .entry key (marked tree)
    | _, _ => none
  | .heredoc => some (value (heredoc 2 false (joined "" parts)))
  | .trimmedHeredoc => some (value (heredoc 3 true (joined "" parts)))
  | .call => some (value (callText (joined "" ((names parts).map name)) parts))
  | .arguments => some (.arguments (values parts))
  | .providerCall => some (value (callText ("::".intercalate (names parts)) parts))
  | .indexed | .attributeAccess | .attributeSplat | .fullSplat => some (expression "" parts)
  | .index =>
    match values parts, parts with
    | [tree], _ => some (value (.text ("[" ++ tree.shown ++ "]")))
    | _, _ :: .token digit :: _ => some (value (.text ("[" ++ digit ++ "]")))
    | _, _ => none
  | .accessor | .attributeSplatTail | .fullSplatTail => some (expression "" parts)
  | .listComprehension =>
    some (value (.text ("[" ++ joined " " (parts.drop 1).dropLast ++ "]")))
  | .mapComprehension =>
    some (value (.text ("\x7b" ++ joined " " (parts.drop 1).dropLast ++ "\x7d")))
  | .comprehensionHead | .comprehensionFilter => some (expression " " parts)

end Meaning

mutual

/-- The line of the first token of a derivation. -/
def firstLine? : Derivation Lexeme → Option Nat
  | .leaf _ lexeme => some lexeme.line
  | .node _ parts => firstLineOf? parts

/-- The line of the first token of several derivations. -/
def firstLineOf? : List (Derivation Lexeme) → Option Nat
  | [] => none
  | part :: parts =>
    match firstLine? part with
    | some line => some line
    | none => firstLineOf? parts

end

mutual

/-- The line of the last token of a derivation. -/
def lastLine? : Derivation Lexeme → Option Nat
  | .leaf _ lexeme => some lexeme.line
  | .node _ parts => lastLineOf? parts

/-- The line of the last token of several derivations. -/
def lastLineOf? : List (Derivation Lexeme) → Option Nat
  | [] => none
  | part :: parts =>
    match lastLineOf? parts with
    | some line => some line
    | none => lastLine? part

end

mutual

/-- What a derivation means; nothing when it contradicts itself. -/
def meaning? : Derivation Lexeme → Option Meaning
  | .leaf _ lexeme => some (.token lexeme.text)
  | .node head parts =>
    match (rules[head - 1]?).map (·.1) with
    | none => none
    | some rule =>
      (meanings? parts).bind fun found =>
        Meaning.combine rule ((firstLineOf? parts).getD 0) ((lastLineOf? parts).getD 0) found

/-- What several derivations mean. -/
def meanings? : List (Derivation Lexeme) → Option (List Meaning)
  | [] => some []
  | part :: parts =>
    (meaning? part).bind fun first => (meanings? parts).map (first :: ·)

end

end InfraReview.Hcl
