import Mathlib.Data.List.Basic
import InfraReview.Text.Lines

/-!
# Texts split at a character

Splitting at a character undoes joining with it, as long as the pieces do not hold it themselves.
Pieces that do are split further, each on its own.
-/

namespace InfraReview.Text

/-- Splitting at a character is what the library calls splitting on it. -/
theorem splitChars_eq_splitOn (separator : Char) (text : List Char) :
    splitChars separator text = text.splitOn separator := by
  induction text with
  | nil => rfl
  | cons c rest inductionHypothesis =>
    have step : (c :: rest).splitOn separator =
        if c = separator then [] :: rest.splitOn separator
        else (rest.splitOn separator).modifyHead (c :: ·) := by
      simp only [List.splitOn, List.splitOnP_cons_eq_if_modifyHead, beq_iff_eq]
    rw [step, splitChars, inductionHypothesis]
    by_cases same : c = separator
    · rw [if_pos same, if_pos same]
    · rw [if_neg same, if_neg same]
      cases pieces : rest.splitOn separator with
      | nil => exact absurd pieces (inductionHypothesis ▸ splitChars_ne_nil separator rest)
      | cons piece others => rfl

/-- Pieces without the separator are read from the text that joins them. -/
theorem splitChars_intercalate {separator : Char} {pieces : List (List Char)}
    (free : ∀ piece ∈ pieces, separator ∉ piece) (nonempty : pieces ≠ []) :
    splitChars separator ([separator].intercalate pieces) = pieces := by
  rw [splitChars_eq_splitOn]
  exact List.splitOn_intercalate separator free nonempty

/-- A text without the separator is one piece. -/
theorem splitChars_of_not_mem {separator : Char} {text : List Char} (free : separator ∉ text) :
    splitChars separator text = [text] := by
  have alone : splitChars separator ([separator].intercalate [text]) = [text] :=
    splitChars_intercalate (by simpa using free) (List.cons_ne_nil text [])
  simpa [List.intercalate] using alone

/-- A text is split at each of its separators apart from the others. -/
theorem splitChars_append (separator : Char) (before after : List Char) :
    splitChars separator (before ++ separator :: after) =
      splitChars separator before ++ splitChars separator after := by
  induction before with
  | nil => simp [splitChars]
  | cons c rest inductionHypothesis =>
    rw [List.cons_append, splitChars, splitChars, inductionHypothesis]
    by_cases same : c = separator
    · simp [same]
    · rw [if_neg same, if_neg same]
      cases pieces : splitChars separator rest with
      | nil => exact absurd pieces (splitChars_ne_nil separator rest)
      | cons piece others => rfl

/-- A joined text is split into what its pieces are split into. -/
theorem splitChars_flatMap (separator : Char) {pieces : List (List Char)}
    (nonempty : pieces ≠ []) :
    splitChars separator ([separator].intercalate pieces) =
      pieces.flatMap (splitChars separator) := by
  induction pieces with
  | nil => exact absurd rfl nonempty
  | cons piece others inductionHypothesis =>
    cases others with
    | nil => simp [List.intercalate]
    | cons next others =>
      rw [List.intercalate_cons_cons, List.append_assoc, List.singleton_append,
        splitChars_append, inductionHypothesis (List.cons_ne_nil _ _)]
      rfl

/-- The lines of a joined text are those of its pieces. -/
theorem splitAt_intercalate {pieces : List String} (nonempty : pieces ≠ []) :
    splitAt '\n' ("\n".intercalate pieces) = pieces.flatMap (splitAt '\n') := by
  have some : pieces.map String.toList ≠ [] := by simpa
  have joined := splitChars_flatMap '\n' some
  rw [splitAt, String.toList_intercalate, show "\n".toList = ['\n'] from rfl, joined]
  simp only [List.flatMap_map, List.map_flatMap]
  rfl

/-- A text without a line feed is one line. -/
theorem splitAt_of_not_mem {text : String} (free : '\n' ∉ text.toList) :
    splitAt '\n' text = [text] := by
  rw [splitAt, splitChars_of_not_mem free, List.map_singleton, String.ofList_toList]

/-- Other characters between the pieces of a text stand there in place of the separator. -/
theorem intercalate_splitChars_eq_flatMap (separator : Char) (between text : List Char) :
    between.intercalate (splitChars separator text) =
      text.flatMap fun c => if c = separator then between else [c] := by
  induction text with
  | nil => simp [splitChars, List.intercalate]
  | cons c rest inductionHypothesis =>
    rw [List.flatMap_cons, ← inductionHypothesis, splitChars]
    cases pieces : splitChars separator rest with
    | nil => exact absurd pieces (splitChars_ne_nil separator rest)
    | cons piece others =>
      by_cases same : c = separator
      · rw [if_pos same, if_pos same, List.intercalate_cons_cons, List.nil_append]
      · rw [if_neg same, if_neg same]
        cases others <;> simp [List.intercalate]

/-- The same of texts. -/
theorem toList_intercalate_splitAt (separator : Char) (between text : String) :
    (between.intercalate (splitAt separator text)).toList =
      text.toList.flatMap fun c => if c = separator then between.toList else [c] := by
  rw [String.toList_intercalate, splitAt, ← intercalate_splitChars_eq_flatMap]
  simp

/-- A joined text holds the separator and what the pieces hold, and nothing else. -/
theorem mem_of_intercalate {separator c : Char} :
    ∀ {pieces : List (List Char)}, c ∈ [separator].intercalate pieces →
      c = separator ∨ ∃ piece ∈ pieces, c ∈ piece
  | [], member => by simp [List.intercalate] at member
  | [piece], member => by
    refine .inr ⟨piece, List.mem_singleton_self piece, ?_⟩
    simpa [List.intercalate] using member
  | piece :: next :: others, member => by
    rw [List.intercalate_cons_cons, List.mem_append, List.mem_append, List.mem_singleton] at member
    rcases member with (own | isSeparator) | later
    · exact .inr ⟨piece, List.mem_cons_self, own⟩
    · exact .inl isSeparator
    · rcases mem_of_intercalate later with isSeparator | ⟨other, inside, held⟩
      · exact .inl isSeparator
      · exact .inr ⟨other, List.mem_cons_of_mem _ inside, held⟩

end InfraReview.Text
