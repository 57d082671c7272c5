import InfraReview.Text.Blank
import Mathlib.Data.List.Basic

/-!
# Trimmed texts

Trimming cuts a text out of another one: all that is around it there is white space, and it has no
white space at its own ends. There is one such text in every text.
-/

namespace InfraReview.Text

/-- White space and nothing else. -/
def AllBlank (text : List Char) : Prop := ∀ c ∈ text, isBlank c = true

/-- A text that stands in another one with white space around it and none at its ends. -/
structure Trims (full text : List Char) : Prop where
  around : ∃ before after, AllBlank before ∧ AllBlank after ∧ full = before ++ (text ++ after)
  start : ∀ c ∈ text.head?, isBlank c = false
  finish : ∀ c ∈ text.getLast?, isBlank c = false

/-- White space is trimmed up to the first character that is none. -/
theorem trimStart_append {blanks rest : List Char} (blank : AllBlank blanks)
    (stops : ∀ c ∈ rest.head?, isBlank c = false) : trimStartChars (blanks ++ rest) = rest := by
  rw [trimStartChars, List.dropWhile_append_of_pos blank]
  cases rest with
  | nil => rfl
  | cons c rest => exact List.dropWhile_cons_of_neg (by simp [stops c rfl])

/-- White space is what is trimmed. -/
theorem exists_blanks (text : List Char) :
    ∃ blanks, text = blanks ++ trimStartChars text ∧ AllBlank blanks :=
  ⟨text.takeWhile isBlank, List.takeWhile_append_dropWhile.symm,
    List.all_eq_true.mp List.all_takeWhile⟩

/-- What is left begins with no white space. -/
theorem trimStartChars_head (text : List Char) :
    ∀ c ∈ (trimStartChars text).head?, isBlank c = false := by
  intro c first
  have stopped := List.head?_dropWhile_not isBlank text
  rw [trimStartChars, Option.mem_def] at first
  simpa [first] using stopped

/-- White space is what is trimmed at the end. -/
theorem exists_blanks_behind (text : List Char) :
    ∃ blanks, text = trimEndChars text ++ blanks ∧ AllBlank blanks := by
  induction text with
  | nil => exact ⟨[], rfl, by simp [AllBlank]⟩
  | cons c rest inductionHypothesis =>
    obtain ⟨blanks, split, blank⟩ := inductionHypothesis
    cases kept : trimEndChars rest with
    | nil =>
      rw [kept, List.nil_append] at split
      by_cases own : isBlank c = true
      · refine ⟨c :: rest, by simp [trimEndChars, kept, own], ?_⟩
        exact List.forall_mem_cons.mpr ⟨own, split ▸ blank⟩
      · exact ⟨rest, by simp [trimEndChars, kept, own], split ▸ blank⟩
    | cons d more =>
      refine ⟨blanks, ?_, blank⟩
      rw [trimEndChars, kept]
      exact congrArg (c :: ·) (kept ▸ split)

/-- White space is trimmed away. -/
theorem trimEnd_blanks {blanks : List Char} (blank : AllBlank blanks) :
    trimEndChars blanks = [] := by
  induction blanks with
  | nil => rfl
  | cons c rest inductionHypothesis =>
    obtain ⟨own, others⟩ := List.forall_mem_cons.mp blank
    simp [trimEndChars, inductionHypothesis others, own]

/-- White space is trimmed after the last character that is none. -/
theorem trimEnd_append {text blanks : List Char} (blank : AllBlank blanks)
    (stops : ∀ c ∈ text.getLast?, isBlank c = false) : trimEndChars (text ++ blanks) = text := by
  induction text with
  | nil => exact trimEnd_blanks blank
  | cons c rest inductionHypothesis =>
    cases rest with
    | nil =>
      have own : isBlank c = false := stops c rfl
      simp [trimEndChars, trimEnd_blanks blank, own]
    | cons d more =>
      have kept : trimEndChars ((d :: more) ++ blanks) = d :: more :=
        inductionHypothesis fun e last => stops e (by rwa [List.getLast?_cons_cons])
      rw [List.cons_append, trimEndChars, kept]

/-- What is trimmed from both ends is the text that is cut out. -/
theorem trimChars_eq_iff (full text : List Char) : trimChars full = text ↔ Trims full text := by
  constructor
  · rintro rfl
    obtain ⟨before, front, blankBefore⟩ := exists_blanks full
    obtain ⟨after, back, blankAfter⟩ := exists_blanks_behind (trimStartChars full)
    refine ⟨⟨before, after, blankBefore, blankAfter, ?_⟩, ?_, trimEndChars_getLast _⟩
    · rw [trimChars, ← back, ← front]
    · intro c first
      refine trimStartChars_head full c ?_
      have kept : (trimEndChars (trimStartChars full)).head? = some c := first
      rw [back, List.head?_append, kept]
      rfl
  · rintro ⟨⟨before, after, blankBefore, blankAfter, rfl⟩, start, finish⟩
    rw [trimChars]
    cases text with
    | nil =>
      have blank : AllBlank (before ++ after) :=
        List.forall_mem_append.mpr ⟨blankBefore, blankAfter⟩
      have nothing : trimStartChars ((before ++ after) ++ []) = [] :=
        trimStart_append blank (by simp)
      rw [List.append_nil] at nothing
      rw [List.nil_append, nothing]
      rfl
    | cons c rest =>
      rw [trimStart_append blankBefore (by simpa using start)]
      exact trimEnd_append blankAfter finish

/-- A text that is written character by character is trimmed like the text itself, when white space
is written as white space and every other character as characters that are none. -/
theorem trimChars_flatMap {write : Char → List Char}
    (blank : ∀ c, isBlank c = true → AllBlank (write c))
    (solid : ∀ c, isBlank c = false → write c ≠ [] ∧ ∀ d ∈ write c, isBlank d = false)
    (text : List Char) : trimChars (text.flatMap write) = (trimChars text).flatMap write := by
  obtain ⟨⟨before, after, blankBefore, blankAfter, split⟩, start, finish⟩ :=
    (trimChars_eq_iff text (trimChars text)).mp rfl
  have blanks {white : List Char} (all : AllBlank white) : AllBlank (white.flatMap write) := by
    intro d member
    obtain ⟨c, inside, written⟩ := List.mem_flatMap.mp member
    exact blank c (all c inside) d written
  refine (trimChars_eq_iff _ _).mpr ⟨⟨before.flatMap write, after.flatMap write,
    blanks blankBefore, blanks blankAfter, ?_⟩, ?_, ?_⟩
  · rw [← List.flatMap_append, ← List.flatMap_append, ← split]
  · intro d first
    generalize trimChars text = kept at start first
    cases kept with
    | nil => cases first
    | cons c rest =>
      obtain ⟨filled, none⟩ := solid c (start c rfl)
      rw [List.flatMap_cons, List.head?_append_of_ne_nil _ filled] at first
      exact none d (List.mem_of_mem_head? first)
  · intro d last
    generalize trimChars text = kept at finish last
    rcases List.eq_nil_or_concat kept with rfl | ⟨rest, c, rfl⟩
    · cases last
    · obtain ⟨filled, none⟩ := solid c (finish c (by simp))
      rw [List.concat_eq_append, List.flatMap_append, List.flatMap_singleton,
        List.getLast?_append_of_ne_nil _ filled] at last
      exact none d (List.mem_of_getLast? last)

/-- Nothing is left of a text exactly when it is white space. -/
theorem trim_eq_empty_iff (text : String) : trim text = "" ↔ AllBlank text.toList := by
  rw [trim, String.ofList_eq_empty_iff, trimChars_eq_iff]
  constructor
  · rintro ⟨⟨before, after, blankBefore, blankAfter, split⟩, _, _⟩
    rw [split]
    exact List.forall_mem_append.mpr ⟨blankBefore, blankAfter⟩
  · intro blank
    exact ⟨⟨text.toList, [], blank, by simp [AllBlank], by simp⟩, by simp, by simp⟩

/-- A text without white space stays as it is. -/
theorem trim_of_dense {text : String} (dense : ∀ c ∈ text.toList, isBlank c = false) :
    trim text = text := by
  have whole : trimChars text.toList = text.toList := by
    rw [trimChars_eq_iff]
    exact ⟨⟨[], [], by simp [AllBlank], by simp [AllBlank], by simp⟩,
      fun c first => dense c (List.mem_of_mem_head? first),
      fun c last => dense c (List.mem_of_getLast? last)⟩
  rw [trim, whole, String.ofList_toList]

/-- A digit is no white space. -/
theorem isBlank_digit {c : Char} (digit : c.isDigit = true) : isBlank c = false := by
  simp only [Char.isDigit, Bool.and_eq_true, decide_eq_true_eq, ge_iff_le,
    UInt32.le_iff_toNat_le] at digit
  have bounds : 48 ≤ c.toNat ∧ c.toNat ≤ 57 := digit
  have small : c.toNat < 0x80 := by omega
  simp only [isBlank, small, if_true, Bool.or_eq_false_iff, Bool.and_eq_false_iff,
    decide_eq_false_iff_not]
  omega

end InfraReview.Text
