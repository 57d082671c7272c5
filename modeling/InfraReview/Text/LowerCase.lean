import InfraReview.Text.CaseTable
import InfraReview.Text.Letters
import InfraReview.Text.Ranges

/-!
# Lower case

The lower case of a whole text, for messages that show it. Each character has its own lower
case, wherever it stands, with one exception: the Greek capital sigma at the end of a word has
the final form. It ends a word when a character with a case stands before it and none stands
after it; marks and punctuation inside words are passed over on both sides.
-/

namespace InfraReview.Text

/-- The lower case of one character beyond ASCII that has one of one character. -/
def lowerCode? (code : Nat) : Option Nat :=
  (lowerCaseSpans.find? fun (first, last, distance, _) =>
    first ≤ code && code ≤ last && (code - first) % distance == 0).map
      fun (first, _, _, lower) => lower + (code - first)

/-- True when the nearest character that counts as a neighbour has a case. -/
def meetsCased : List Char → Bool
  | [] => false
  | c :: rest =>
    if inRanges ignorableRanges c.toNat then meetsCased rest else inRanges casedRanges c.toNat

/-- The lower case of a capital sigma between what stands before it, in reverse, and after it. -/
def lowerSigma (before after : List Char) : Char :=
  if meetsCased before && !meetsCased after then 'ς' else 'σ'

/-- The lower case of a character that does not depend on its neighbours. -/
def lowerLetter (c : Char) : List Char :=
  if c.toNat < 0x80 || c = '\u0130' then lowerChar c
  else [((lowerCode? c.toNat).map Char.ofNat).getD c]

/-- The lower case of a list of characters after those of `before`, in reverse. -/
def lowerFrom (before : List Char) : List Char → List Char
  | [] => []
  | c :: rest =>
    (if c = 'Σ' then [lowerSigma before rest] else lowerLetter c) ++ lowerFrom (c :: before) rest

/-- A text in lower case. -/
def lowerCase (text : String) : String := String.ofList (lowerFrom [] text.toList)

end InfraReview.Text
