import InfraReview.Yaml.Cursor
import InfraReview.Yaml.Fault

/-!
# Block text

Block text is a run of indented lines under a bar or a greater-than sign. After the bar
every line end is kept. After the greater-than sign a line end between two lines that
both begin with something other than a blank becomes a blank, or nothing when empty lines
follow. The header can fix the indentation, and it says what becomes of the line ends at
the end: a minus drops them all, a plus keeps them all, otherwise one is kept.
-/

namespace InfraReview.Yaml

/-- What becomes of the line ends at the end of block text. -/
inductive Chomping where
  | strip
  | clip
  | keep
  deriving DecidableEq, Repr

/-- The header of block text. -/
structure BlockHeader where
  chomping : Chomping
  increment : Option Nat

/-- The chomping that a character stands for. -/
def chomping? : Option Char → Option Chomping
  | some '+' => some .keep
  | some '-' => some .strip
  | _ => none

/-- The digit at a place, if there is one. -/
def digitAt? (cursor : Cursor) : Option Nat :=
  (cursor.next?.filter Char.isDigit).map fun c => c.toNat - '0'.toNat

/-- The marks of the header, in either order, and the place after them. An indentation of
zero is not allowed. -/
def blockMarks (cursor : Cursor) : Except Fault (BlockHeader × Cursor) :=
  let (header, after) : BlockHeader × Cursor :=
    match chomping? cursor.next? with
    | some chomping =>
      match digitAt? cursor.step with
      | some digit => (⟨chomping, some digit⟩, cursor.advance 2)
      | none => (⟨chomping, none⟩, cursor.step)
    | none =>
      match digitAt? cursor with
      | some digit =>
        match chomping? cursor.step.next? with
        | some chomping => (⟨chomping, some digit⟩, cursor.advance 2)
        | none => (⟨.clip, some digit⟩, cursor.step)
      | none => (⟨.clip, none⟩, cursor)
  if header.increment = some 0 then .error .malformed
  else if endsName after.next? then .ok (header, after)
  else .error .malformed

/-- The start of the line after a place where only blanks and a comment may follow. -/
def nextLine (cursor : Cursor) : Except Fault Cursor :=
  let after := cursor.skipBlanks.skipComment
  if endsLine after.next? then .ok after.step else .error .malformed

/-- The empty lines from a place on, the largest column that their blanks reach or the
first text does, and the place after them. -/
def blockIndentation : Nat → Nat → Cursor → List Char × Nat × Cursor
  | 0, widest, cursor => ([], widest, cursor)
  | fuel + 1, widest, cursor =>
    match cursor.next? with
    | none => ([], widest, cursor)
    | some c =>
      if c = ' ' then blockIndentation fuel (max widest cursor.step.column) cursor.step
      else if isBreak c then
        let (breaks, found, after) := blockIndentation fuel widest cursor.step
        (breakChar c :: breaks, found, after)
      else ([], widest, cursor)

/-- The place after the blanks from here on, but not beyond a column. -/
def skipIndent (indent : Nat) (cursor : Cursor) : Cursor :=
  cursor.advance (min (cursor.rest.takeWhile (· == ' ')).length (indent - cursor.column))

/-- The empty lines from a place on, and the place after them and after the indentation
that follows. -/
def blockBreaks (indent : Nat) : Nat → Cursor → List Char × Cursor
  | 0, cursor => ([], cursor)
  | fuel + 1, cursor =>
    let after := skipIndent indent cursor
    match after.next? with
    | none => ([], after)
    | some c =>
      if isBreak c then
        let (breaks, last) := blockBreaks indent fuel after.step
        (breakChar c :: breaks, last)
      else ([], after)

/-- Lines of block text: their characters, the line end of the last of them, the empty
lines after it, and the place after those. -/
structure BlockLines where
  text : List Char
  lastBreak : List Char
  breaks : List Char
  cursor : Cursor

/-- True where a line of block text goes on. -/
def inBlock (indent : Nat) (cursor : Cursor) : Bool :=
  cursor.column == indent && cursor.next?.isSome

/-- True where something other than a blank or a tab stands. -/
def beginsWord (cursor : Cursor) : Bool := !cursor.sees ' ' && !cursor.sees '\t'

/-- The lines from a place on; `breaks` are the empty lines before it. -/
def blockLines (folded : Bool) (indent : Nat) : Nat → List Char → Cursor → BlockLines
  | 0, breaks, cursor => ⟨[], [], breaks, cursor⟩
  | fuel + 1, breaks, cursor =>
    if inBlock indent cursor then
      let line := cursor.rest.takeWhile (!isBreak ·)
      let ending := cursor.lineEnd
      let lineBreak := (ending.next?.map breakChar).toList
      let (emptyLines, next) := blockBreaks indent (ending.rest.length + 1) ending.step
      if inBlock indent next then
        let joint :=
          if folded && lineBreak == ['\n'] && beginsWord cursor && beginsWord next then
            if emptyLines.isEmpty then [' '] else []
          else lineBreak
        let others := blockLines folded indent fuel emptyLines next
        ⟨breaks ++ line ++ joint ++ others.text, others.lastBreak, others.breaks, others.cursor⟩
      else ⟨breaks ++ line, lineBreak, emptyLines, next⟩
    else ⟨[], [], breaks, cursor⟩

/-- The block text at its bar or greater-than sign, and the place after it. `parent` is
the indentation of the lines around it, or minus one. -/
def blockText (folded : Bool) (parent : Int) (cursor : Cursor) :
    Except Fault (List Char × Cursor) := do
  let (header, afterMarks) ← blockMarks cursor.step
  let first ← nextLine afterMarks
  let least := (max 1 (parent + 1)).toNat
  let fuel := first.rest.length + 1
  let (indent, breaks, top) :=
    match header.increment with
    | none =>
      let (breaks, widest, after) := blockIndentation fuel 0 first
      (max least widest, breaks, after)
    | some increment =>
      let indent := least + increment - 1
      let (breaks, after) := blockBreaks indent fuel first
      (indent, breaks, after)
  let lines := blockLines folded indent fuel breaks top
  let tail :=
    match header.chomping with
    | .strip => []
    | .clip => lines.lastBreak
    | .keep => lines.lastBreak ++ lines.breaks
  .ok (lines.text ++ tail, lines.cursor)

end InfraReview.Yaml
