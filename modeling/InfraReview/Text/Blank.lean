/-!
# White space

White space is the twenty-nine characters that Unicode gives the bidirectional
class of a separator or the category of a space: the five control characters from
tab to carriage return, the four information separators, the blank itself, next
line, and the spaces of other scripts and widths. The zero-width space and the byte
order mark are not among them.

Trimming removes white space at the two ends of a text and nothing inside it. Around a
number the information separators do not count as white space.
-/

namespace InfraReview.Text

/-- The code points of white space above the Latin-1 controls and the blank. -/
def wideBlanks : List Nat :=
  [0x85, 0xA0, 0x1680, 0x2000, 0x2001, 0x2002, 0x2003, 0x2004, 0x2005, 0x2006, 0x2007, 0x2008,
    0x2009, 0x200A, 0x2028, 0x2029, 0x202F, 0x205F, 0x3000]

/-- True exactly at white space. -/
def isBlank (c : Char) : Bool :=
  let code := c.toNat
  if code < 0x80 then (9 ≤ code && code ≤ 13) || (0x1C ≤ code && code ≤ 0x20)
  else wideBlanks.contains code

/-- A list of characters without the white space at its start. -/
def trimStartChars (text : List Char) : List Char := text.dropWhile isBlank

/-- A list of characters without the white space at its end: a character is dropped
when it is white space and nothing but white space follows it. -/
def trimEndChars : List Char → List Char
  | [] => []
  | c :: rest =>
    match trimEndChars rest with
    | [] => if isBlank c then [] else [c]
    | kept => c :: kept

/-- A list of characters without the white space at either end. -/
def trimChars (text : List Char) : List Char := trimEndChars (trimStartChars text)

/-- White space that may surround a number: all of it but the information separators. -/
def isNumberBlank (c : Char) : Bool := isBlank c && !(0x1C ≤ c.toNat && c.toNat ≤ 0x1F)

/-- A list of characters without the white space around a number. -/
def trimNumberChars (text : List Char) : List Char :=
  ((text.dropWhile isNumberBlank).reverse.dropWhile isNumberBlank).reverse

/-- A text without the white space at its end. -/
def trimEnd (text : String) : String := String.ofList (trimEndChars text.toList)

/-- A text without the white space at either end. -/
def trim (text : String) : String := String.ofList (trimChars text.toList)

/-- Trimming the end leaves no white space in the last place. -/
theorem trimEndChars_getLast (text : List Char) :
    ∀ c ∈ (trimEndChars text).getLast?, isBlank c = false := by
  induction text with
  | nil => simp [trimEndChars]
  | cons c rest inductionHypothesis =>
    cases trimmed : trimEndChars rest with
    | nil =>
      by_cases blank : isBlank c = true
      · simp [trimEndChars, trimmed, blank]
      · simp [trimEndChars, trimmed, blank]
    | cons d kept =>
      rw [trimmed] at inductionHypothesis
      simpa [trimEndChars, trimmed, List.getLast?_cons_cons] using inductionHypothesis

end InfraReview.Text
