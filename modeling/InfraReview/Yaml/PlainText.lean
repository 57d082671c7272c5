import InfraReview.Yaml.Cursor

/-!
# Plain text

Plain text has no quotes. It ends at a comment, at a colon before a blank, at a mark that
parts documents and, inside brackets, at their punctuation; outside of brackets it also
ends at a line that is not indented beyond the lines around it. Blanks inside a line are
kept. A line end between two words becomes a blank, and each further one a line feed.
-/

namespace InfraReview.Yaml

/-- True when plain text cannot go on with `c`, which stands before `after`. -/
def stopsPlain (inFlow : Bool) (c : Char) (after : Option Char) : Bool :=
  endsWord (some c)
    || (c == ':'
      && (endsWord after || (inFlow && [',', '[', ']', '\x7b', '\x7d'].any (some · == after))))
    || (inFlow && [',', '?', '[', ']', '\x7b', '\x7d'].contains c)

/-- The characters of plain text up to the next blank or to its end. -/
def plainWord (inFlow : Bool) : List Char → List Char
  | [] => []
  | c :: rest => if stopsPlain inFlow c rest.head? then [] else c :: plainWord inFlow rest

/-- What separates two words of a text: the characters that the separation stands for, the
place after it, and whether a line ended in it. Without characters there is none. -/
structure Gap where
  text : List Char
  cursor : Cursor
  newLine : Bool

/-- The line ends from a place on, with the blanks around them; nothing when a mark that
parts documents follows one of them. -/
def plainBreaks : Nat → Cursor → Option (List Char × Cursor)
  | 0, cursor => some ([], cursor)
  | fuel + 1, cursor =>
    match cursor.next? with
    | none => some ([], cursor)
    | some c =>
      if c = ' ' then plainBreaks fuel cursor.step
      else if isBreak c then
        if cursor.step.atDocumentMark then none
        else
          (plainBreaks fuel cursor.step).map fun (breaks, after) => (breakChar c :: breaks, after)
      else some ([], cursor)

/-- The gap at a place of plain text. -/
def plainGap (cursor : Cursor) : Gap :=
  let blanks := cursor.rest.takeWhile (· == ' ')
  let after := cursor.skipBlanks
  match after.next? with
  | none => ⟨blanks, after, false⟩
  | some c =>
    if isBreak c then
      let next := after.step
      if next.atDocumentMark then ⟨[], next, true⟩
      else
        match plainBreaks next.rest.length next with
        | none => ⟨[], next, true⟩
        | some (breaks, last) =>
          let first :=
            if breakChar c != '\n' then [breakChar c]
            else if breaks.isEmpty then [' ']
            else []
          ⟨first ++ breaks, last, true⟩
    else ⟨blanks, after, false⟩

/-- Plain text, the place after it, and whether a line ended before that place. -/
structure PlainText where
  text : List Char
  cursor : Cursor
  newLine : Bool

/-- Plain text from a place on, of which `gap` has just been read. Its lines have to be
indented by `indent` at least. -/
def plainFrom (inFlow : Bool) (indent : Int) : Nat → Gap → PlainText
  | 0, gap => ⟨[], gap.cursor, gap.newLine⟩
  | fuel + 1, gap =>
    let word := if gap.cursor.sees '#' then [] else plainWord inFlow gap.cursor.rest
    if word.isEmpty then ⟨[], gap.cursor, gap.newLine⟩
    else
      let next := plainGap (gap.cursor.advance word.length)
      if next.text.isEmpty || next.cursor.sees '#'
          || (!inFlow && (next.cursor.column : Int) < indent) then
        ⟨gap.text ++ word, next.cursor, next.newLine⟩
      else
        let others := plainFrom inFlow indent fuel next
        ⟨gap.text ++ word ++ others.text, others.cursor, others.newLine⟩

/-- The plain text at a place. -/
def plainText (inFlow : Bool) (indent : Int) (cursor : Cursor) : PlainText :=
  plainFrom inFlow indent (cursor.rest.length + 1) ⟨[], cursor, false⟩

end InfraReview.Yaml
