import InfraReview.Text.Encoding
import InfraReview.Yaml.Cursor
import InfraReview.Yaml.Fault
import InfraReview.Yaml.Token

/-!
# Names in YAML text

Anchors and aliases have names of letters, digits, hyphens and underscores. A tag is a
handle between exclamation marks and a suffix, or a whole tag between angle brackets; a
suffix may spell characters by the bytes of their encoding, after percent signs. A
directive is a name at the start of a line and, for the two that are known, what follows
it.
-/

namespace InfraReview.Yaml

/-- The name at a place, which may not be empty, and the place after it. -/
def name (cursor : Cursor) : Except Fault (String × Cursor) :=
  let characters := cursor.rest.takeWhile isNameChar
  if characters.isEmpty then .error .malformed
  else .ok (String.ofList characters, cursor.advance characters.length)

/-- True where the name of an anchor may end. -/
def endsAnchor (next : Option Char) : Bool :=
  endsWord next || ['?', ':', ',', ']', '\x7d', '%', '@', '\x60'].any (some · == next)

/-- The name of an anchor or an alias after its mark, and the place after it. -/
def anchorName (cursor : Cursor) : Except Fault (String × Cursor) := do
  let (found, after) ← name cursor.step
  if endsAnchor after.next? then .ok (found, after) else .error .malformed

/-- A character that stands for itself in a tag. -/
def isTagChar (c : Char) : Bool :=
  isNameChar c
    || [';', '/', '?', ':', '@', '&', '=', '+', '$', ',', '.', '!', '~', '*', '\'', '(', ')', '[',
        ']'].contains c

/-- The bytes spelled by percent signs and digits from a place on, and the place after
them. -/
def spelledBytes : Nat → Cursor → Except Fault (List UInt8 × Cursor)
  | 0, _ => .error .malformed
  | fuel + 1, cursor =>
    if cursor.sees '%' then
      match Text.hexBytes? (cursor.step.rest.take 2) with
      | some [byte] => do
        let (others, last) ← spelledBytes fuel (cursor.advance 3)
        .ok (byte :: others, last)
      | _ => .error .malformed
    else .ok ([], cursor)

/-- The characters of a tag from a place on, and the place after them. -/
def tagChars : Nat → Cursor → Except Fault (List Char × Cursor)
  | 0, _ => .error .malformed
  | fuel + 1, cursor =>
    match cursor.next? with
    | none => .ok ([], cursor)
    | some c =>
      if c = '%' then do
        let (bytes, after) ← spelledBytes (cursor.rest.length + 1) cursor
        let characters ← (Text.decodeUtf8 bytes).mapError fun _ => .malformed
        let (others, last) ← tagChars fuel after
        .ok (characters ++ others, last)
      else if isTagChar c then do
        let (others, last) ← tagChars fuel cursor.step
        .ok (c :: others, last)
      else .ok ([], cursor)

/-- The text of a tag at a place, which may not be empty, and the place after it. -/
def tagText (cursor : Cursor) : Except Fault (String × Cursor) := do
  let (characters, after) ← tagChars (cursor.rest.length + 1) cursor
  if cursor.next?.any fun c => c == '%' || isTagChar c then
    .ok (String.ofList characters, after)
  else .error .malformed

/-- The handle at a place, and the place after it: an exclamation mark alone before a
blank, or a name between two of them. -/
def tagHandle (cursor : Cursor) : Except Fault (String × Cursor) :=
  if cursor.sees '!' then
    if cursor.ahead? 1 == some ' ' then .ok ("!", cursor.step)
    else
      let characters := cursor.step.rest.takeWhile isNameChar
      let after := cursor.step.advance characters.length
      if after.sees '!' then .ok ("!" ++ String.ofList characters ++ "!", after.step)
      else .error .malformed
  else .error .malformed

/-- The tag at its exclamation mark, and the place after it. -/
def tagName (cursor : Cursor) : Except Fault (TagName × Cursor) := do
  let (found, after) : TagName × Cursor ←
    if cursor.ahead? 1 == some '<' then do
      let (suffix, after) ← tagText (cursor.advance 2)
      if after.sees '>' then .ok (⟨none, suffix⟩, after.step) else .error .malformed
    else if endsWord (cursor.ahead? 1) then .ok (⟨none, "!"⟩, cursor.step)
    else if (cursor.step.rest.takeWhile fun c => !endsName (some c)).contains '!' then do
      let (handle, before) ← tagHandle cursor
      let (suffix, after) ← tagText before
      .ok (⟨some handle, suffix⟩, after)
    else do
      let (suffix, after) ← tagText cursor.step
      .ok (⟨some "!", suffix⟩, after)
  if endsName after.next? then .ok (found, after) else .error .malformed

/-- The number at a place, and the place after it. -/
def versionNumber (cursor : Cursor) : Except Fault (Nat × Cursor) :=
  let digits := cursor.rest.takeWhile Char.isDigit
  if digits.isEmpty then .error .malformed
  else if maxDigits < digits.length then .error (.length (.read digits.length))
  else .ok (((Numeral.readUnsigned 10 digits).getD 0), cursor.advance digits.length)

/-- The directive at its percent sign, and the start of the line after it. -/
def directive (cursor : Cursor) : Except Fault (Directive × Cursor) := do
  let (word, after) ← name cursor.step
  if !endsName after.next? then .error .malformed
  else
    let (found, last) : Directive × Cursor ←
      if word = "YAML" then do
        let (major, afterMajor) ← versionNumber after.skipBlanks
        if !afterMajor.sees '.' then .error .malformed
        else
          let (_, afterMinor) ← versionNumber afterMajor.step
          if endsName afterMinor.next? then .ok (.version major, afterMinor)
          else .error .malformed
      else if word = "TAG" then do
        let (handle, afterHandle) ← tagHandle after.skipBlanks
        if !afterHandle.sees ' ' then .error .malformed
        else
          let (start, afterStart) ← tagText afterHandle.skipBlanks
          if endsName afterStart.next? then .ok (.handle handle start, afterStart)
          else .error .malformed
      else .ok (.other, after.lineEnd)
    let ending := last.skipBlanks.skipComment
    if endsLine ending.next? then .ok (found, ending.step) else .error .malformed

end InfraReview.Yaml
