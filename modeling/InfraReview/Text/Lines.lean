/-!
# Lines

Two different ideas of a line end are used. A text file is read with *uniform* line
ends: a carriage return, alone or before a line feed, becomes one line feed. A
message is cut into lines at every Unicode line boundary, of which there are ten
characters and the pair carriage return, line feed.

The third operation here splits at one given character and keeps empty pieces, so a
text with `n` separators always has `n + 1` pieces.
-/

namespace InfraReview.Text

/-- Every carriage return, with the line feed after it if there is one, becomes a
line feed. -/
def uniformLineEnds : List Char → List Char
  | [] => []
  | '\r' :: '\n' :: rest => '\n' :: uniformLineEnds rest
  | '\r' :: rest => '\n' :: uniformLineEnds rest
  | c :: rest => c :: uniformLineEnds rest

/-- The characters that end a line of a message. -/
def isLineBoundary (c : Char) : Bool :=
  [0x0A, 0x0B, 0x0C, 0x0D, 0x1C, 0x1D, 0x1E, 0x85, 0x2028, 0x2029].contains c.toNat

/-- Cuts at line boundaries. `current` is the line so far, in reverse; a boundary at
the very end opens no further line. -/
def linesFrom (current : List Char) : List Char → List (List Char)
  | [] => if current.isEmpty then [] else [current.reverse]
  | '\r' :: '\n' :: rest => current.reverse :: linesFrom [] rest
  | c :: rest =>
    if isLineBoundary c then current.reverse :: linesFrom [] rest
    else linesFrom (c :: current) rest

/-- The lines of a message without their boundaries. -/
def lines (text : String) : List String :=
  (linesFrom [] text.toList).map String.ofList

/-- The pieces of a text between the occurrences of `separator`, the empty ones
included. -/
def splitChars (separator : Char) : List Char → List (List Char)
  | [] => [[]]
  | c :: rest =>
    if c = separator then [] :: splitChars separator rest
    else
      match splitChars separator rest with
      | [] => [[c]]
      | piece :: pieces => (c :: piece) :: pieces

/-- The pieces of a text between the occurrences of `separator`, the empty ones
included. -/
def splitAt (separator : Char) (text : String) : List String :=
  (splitChars separator text.toList).map String.ofList

/-- A text has at least one piece. -/
theorem splitChars_ne_nil (separator : Char) (text : List Char) :
    splitChars separator text ≠ [] := by
  cases text with
  | nil => simp [splitChars]
  | cons c rest =>
    by_cases same : c = separator
    · simp [splitChars, same]
    · simp only [splitChars, same, if_false]
      split <;> simp

/-- The pieces, joined by the separator again, are the text. -/
theorem intercalate_splitChars (separator : Char) (text : List Char) :
    [separator].intercalate (splitChars separator text) = text := by
  induction text with
  | nil => simp [splitChars, List.intercalate]
  | cons c rest inductionHypothesis =>
    by_cases same : c = separator
    · cases pieces : splitChars separator rest with
      | nil => exact absurd pieces (splitChars_ne_nil separator rest)
      | cons piece others =>
        rw [pieces] at inductionHypothesis
        simp [splitChars, same, pieces, List.intercalate] at inductionHypothesis ⊢
        exact inductionHypothesis
    · cases pieces : splitChars separator rest with
      | nil => exact absurd pieces (splitChars_ne_nil separator rest)
      | cons piece others =>
        rw [pieces] at inductionHypothesis
        cases others with
        | nil =>
          simp [splitChars, same, pieces, List.intercalate] at inductionHypothesis ⊢
          exact inductionHypothesis
        | cons next others =>
          simp [splitChars, same, pieces, List.intercalate] at inductionHypothesis ⊢
          exact inductionHypothesis

end InfraReview.Text
