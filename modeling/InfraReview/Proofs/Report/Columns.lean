import Mathlib.Algebra.Ring.Nat
import Mathlib.Data.List.Forall2
import InfraReview.Proofs.Text.Trim
import InfraReview.Report.Columns

/-!
# Columns that are read back

A line gives the texts of its row back. Where a column stands follows from the widths alone: cut
there, and without the white space at its end, a line shows the text of the column. The line itself
is without the white space at its end, so it may be over before its last columns begin; as only
white space is missing there, nothing is lost, and what is cut out is merely shorter.

So everything is said about a row that is laid out in full, with two blanks behind the last column
too. A line is such a row up to white space.
-/

namespace InfraReview.Columns

open Text (AllBlank isBlank trimEndChars)

/-- Rows that can be written in columns: each has as many texts, and no text ends in white space. -/
structure Regular (count : Nat) (rows : List (List String)) : Prop where
  length : ∀ row ∈ rows, row.length = count
  closed : ∀ row ∈ rows, ∀ text ∈ row, ∀ c ∈ text.toList.getLast?, isBlank c = false

/-- The length of the longest text of a column. -/
structure Longest (rows : List (List String)) (index width : Nat) : Prop where
  reached : ∃ row ∈ rows, ∃ text, row[index]? = some text ∧ text.length = width
  most : ∀ row ∈ rows, ∀ text, row[index]? = some text → text.length ≤ width

/-- The place at which a column starts: the columns before it have their widths and two blanks
each. -/
def offset (columns : List Nat) (index : Nat) : Nat := ((columns.take index).map (· + 2)).sum

/-- The part of a text between two places, as far as the text goes. -/
def cut (start width : Nat) (text : String) : String :=
  String.ofList ((text.toList.drop start).take width)

/-- A line shows a row when the texts of the row are what is cut out at the columns, and there are
only blanks between the columns. -/
structure Shows (columns : List Nat) (row : List String) (line : String) : Prop where
  readBack : ∀ index width text, columns[index]? = some width → row[index]? = some text →
    Text.trimEnd (cut (offset columns index) width line) = text
  apart : ∀ index width, columns[index]? = some width →
    AllBlank (cut (offset columns index + width) 2 line).toList

/-- Texts that fit into columns. -/
abbrev Fits (columns : List Nat) (row : List String) : Prop :=
  List.Forall₂ (fun width text => text.length ≤ width) columns row

/-! ### The widths of columns -/

/-- There are as many widths as columns. -/
theorem length_widths {count : Nat} {heading : List String} {rows : List (List String)}
    (lengths : ∀ row ∈ heading :: rows, row.length = count) :
    (widths (heading :: rows)).length = count := by
  induction rows generalizing heading with
  | nil => simpa [widths] using lengths
  | cons row rows inductionHypothesis =>
    obtain ⟨own, others⟩ := List.forall_mem_cons.mp lengths
    simp [widths, inductionHypothesis others, own]

/-- A width is the length of the longest text of its column. -/
theorem longest_widths {heading : List String} {rows : List (List String)} {index width : Nat}
    (column : (widths (heading :: rows))[index]? = some width) :
    Longest (heading :: rows) index width := by
  induction rows generalizing heading width with
  | nil =>
    obtain ⟨text, there, rfl⟩ : ∃ text, heading[index]? = some text ∧ text.length = width := by
      simpa [widths] using column
    exact ⟨⟨heading, by simp, text, there, rfl⟩, by simp [there]⟩
  | cons row rows inductionHypothesis =>
    rw [widths, List.getElem?_zipWith_eq_some] at column
    · obtain ⟨first, behind, measured, later, rfl⟩ := column
      obtain ⟨text, there, rfl⟩ : ∃ text, heading[index]? = some text ∧ text.length = first := by
        simpa using measured
      obtain ⟨⟨reached, member, longest, place, same⟩, most⟩ := inductionHypothesis later
      constructor
      · rcases Nat.le_total behind text.length with longer | longer
        · exact ⟨heading, List.mem_cons_self, text, there, (Nat.max_eq_left longer).symm⟩
        · exact ⟨reached, List.mem_cons_of_mem _ member, longest, place,
            same.trans (Nat.max_eq_right longer).symm⟩
      · refine List.forall_mem_cons.mpr ⟨fun other shown => ?_, fun other inside shown found => ?_⟩
        · obtain rfl := Option.some.inj (there.symm.trans shown)
          exact Nat.le_max_left _ _
        · exact Nat.le_trans (most other inside shown found) (Nat.le_max_right _ _)
    · simp

/-- The texts of each row fit into the columns. -/
theorem fits_widths {count : Nat} {heading : List String} {rows : List (List String)}
    (lengths : ∀ row ∈ heading :: rows, row.length = count) {row : List String}
    (member : row ∈ heading :: rows) : Fits (widths (heading :: rows)) row := by
  refine List.forall₂_iff_get.mpr ⟨(length_widths lengths).trans (lengths row member).symm, ?_⟩
  intro index column inside
  exact (longest_widths (List.getElem?_eq_getElem column)).most row member _
    (List.getElem?_eq_getElem inside)

/-! ### Places -/

/-- The first column starts at the start. -/
@[simp] theorem offset_zero (columns : List Nat) : offset columns 0 = 0 := rfl

/-- A later column starts behind the first one and two blanks. -/
@[simp] theorem offset_succ (width : Nat) (columns : List Nat) (index : Nat) :
    offset (width :: columns) (index + 1) = width + 2 + offset columns index := by
  simp [offset]

/-- A column ends two places before a later one starts, or earlier. -/
theorem offset_apart {columns : List Nat} {earlier later width : Nat} (before : earlier < later)
    (column : columns[earlier]? = some width) :
    offset columns earlier + width + 2 ≤ offset columns later := by
  induction columns generalizing earlier later with
  | nil => simp at column
  | cons first columns inductionHypothesis =>
    obtain ⟨later, rfl⟩ : ∃ next, later = next + 1 := ⟨later - 1, by omega⟩
    cases earlier with
    | zero =>
      obtain rfl : first = width := by simpa using column
      rw [offset_zero, offset_succ]
      omega
    | succ earlier =>
      have rest := inductionHypothesis (Nat.lt_of_succ_lt_succ before) (by simpa using column)
      rw [offset_succ, offset_succ]
      omega

/-! ### Rows that are laid out -/

/-- A row that is laid out in full, with two blanks behind each column. -/
def filled (columns : List Nat) (row : List String) : List Char :=
  (List.zipWith (fun width text => (padded width text).toList ++ [' ', ' ']) columns row).flatten

/-- A text with blanks up to a width that it does not exceed has that width. -/
theorem length_padded {width : Nat} {text : String} (fits : text.length ≤ width) :
    (padded width text).toList.length = width := by
  simp only [padded, String.toList_append, String.toList_ofList, List.length_append,
    List.length_replicate, String.length_toList]
  omega

/-- A text with blanks after it is the text and white space. -/
theorem exists_padding (width : Nat) (text : String) :
    ∃ blanks, AllBlank blanks ∧ (padded width text).toList = text.toList ++ blanks := by
  refine ⟨List.replicate (width - text.length) ' ', fun c member => ?_, by simp [padded]⟩
  rw [List.eq_of_mem_replicate member]
  rfl

/-- In a row that is laid out, each column stands at its place, and two blanks stand behind it. -/
theorem drop_filled {columns : List Nat} {row : List String} (fits : Fits columns row)
    {index width : Nat} (column : columns[index]? = some width) :
    ∃ text after, row[index]? = some text ∧ text.length ≤ width ∧
      (filled columns row).drop (offset columns index) =
        (padded width text).toList ++ ' ' :: ' ' :: after := by
  induction fits generalizing index with
  | nil => simp at column
  | @cons first shown columns row own others inductionHypothesis =>
    have front : filled (first :: columns) (shown :: row) =
        ((padded first shown).toList ++ [' ', ' ']) ++ filled columns row := by simp [filled]
    cases index with
    | zero =>
      obtain rfl : first = width := by simpa using column
      exact ⟨shown, filled columns row, rfl, own, by simp [front]⟩
    | succ index =>
      obtain ⟨text, after, there, fitting, split⟩ := inductionHypothesis (by simpa using column)
      refine ⟨text, after, by simpa using there, fitting, ?_⟩
      have place : ((padded first shown).toList ++ [' ', ' ']).length = first + 2 := by
        simp [length_padded own]
      rw [front, offset_succ, ← List.drop_drop, ← place, List.drop_left, split]

/-- Parts with a separator between them, and one at the end, are parts with a separator behind
each. -/
theorem intercalate_append {separator : List Char} {parts : List (List Char)} (some : parts ≠ []) :
    separator.intercalate parts ++ separator = (parts.map (· ++ separator)).flatten := by
  induction parts with
  | nil => exact absurd rfl some
  | cons part parts inductionHypothesis =>
    cases parts with
    | nil => simp
    | cons next parts =>
      have rest := inductionHypothesis (List.cons_ne_nil _ _)
      rw [List.intercalate_cons_cons, List.map_cons, List.flatten_cons, ← rest]
      simp

/-- Columns are apart by blanks. -/
theorem gap_blank : AllBlank [' ', ' '] := by
  have space : Text.isBlank ' ' = true := rfl
  simp [AllBlank, space]

/-- Texts in columns are a row that is laid out, up to the blanks behind the last column. -/
theorem exists_filled (columns : List Nat) (row : List String) :
    ∃ blanks, AllBlank blanks ∧
      ("  ".intercalate (List.zipWith padded columns row)).toList ++ blanks =
        filled columns row := by
  by_cases empty : List.zipWith padded columns row = []
  · have nothing : filled columns row = [] := by
      rcases List.zipWith_eq_nil_iff.mp empty with rfl | rfl <;> simp [filled]
    exact ⟨[], by simp [AllBlank], by simp [empty, nothing]⟩
  · refine ⟨[' ', ' '], gap_blank, ?_⟩
    rw [String.toList_intercalate, show "  ".toList = [' ', ' '] from rfl,
      intercalate_append (by simpa using empty), List.map_map, List.map_zipWith]
    rfl

/-! ### Lines that show rows -/

/-- White space at the end of a text does not change the text without it. -/
theorem trimEnd_append_blanks (text : List Char) {blanks : List Char} (blank : AllBlank blanks) :
    trimEndChars (text ++ blanks) = trimEndChars text := by
  obtain ⟨own, split, ownBlank⟩ := Text.exists_blanks_behind text
  have all : AllBlank (own ++ blanks) := List.forall_mem_append.mpr ⟨ownBlank, blank⟩
  conv_lhs => rw [split, List.append_assoc]
  exact Text.trimEnd_append all (Text.trimEndChars_getLast text)

/-- What is cut out of a text with white space behind it is what is cut out of the text, with white
space behind it. -/
theorem cut_append (text : String) {blanks : List Char} (blank : AllBlank blanks)
    (start width : Nat) : ∃ more, AllBlank more ∧
      ((text.toList ++ blanks).drop start).take width =
        (cut start width text).toList ++ more := by
  refine ⟨_, ?_, by rw [List.drop_append, List.take_append, cut, String.toList_ofList]⟩
  exact fun c member => blank c (List.mem_of_mem_drop (List.mem_of_mem_take member))

/-- A line that is a row laid out, up to white space behind it, shows the row. -/
theorem shows_of_filled {columns : List Nat} {row : List String} {line : String}
    {blanks : List Char} (fits : Fits columns row)
    (closed : ∀ text ∈ row, ∀ c ∈ text.toList.getLast?, isBlank c = false)
    (blank : AllBlank blanks) (split : line.toList ++ blanks = filled columns row) :
    Shows columns row line := by
  constructor
  · intro index width text column there
    obtain ⟨_, after, same, fitting, place⟩ := drop_filled fits column
    obtain rfl := Option.some.inj (there.symm.trans same)
    -- the line may be over before the column is; then only blanks are missing
    obtain ⟨more, moreBlank, part⟩ := cut_append line blank (offset columns index) width
    obtain ⟨padding, paddingBlank, written⟩ := exists_padding width text
    rw [split, place, List.take_left' (length_padded fitting), written] at part
    rw [Text.trimEnd, ← trimEnd_append_blanks _ moreBlank, ← part,
      Text.trimEnd_append paddingBlank (closed text (List.mem_of_getElem? there)),
      String.ofList_toList]
  · intro index width column
    obtain ⟨text, after, _, fitting, place⟩ := drop_filled fits column
    obtain ⟨more, _, part⟩ := cut_append line blank (offset columns index + width) 2
    rw [split, ← List.drop_drop, place, List.drop_left' (length_padded fitting)] at part
    have between := gap_blank
    have whole : [' ', ' '] = (cut (offset columns index + width) 2 line).toList ++ more := part
    rw [whole] at between
    exact (List.forall_mem_append.mp between).1

/-- The line of a row shows the row. -/
theorem shows_line {columns : List Nat} {row : List String} (fits : Fits columns row)
    (closed : ∀ text ∈ row, ∀ c ∈ text.toList.getLast?, isBlank c = false) :
    Shows columns row (line columns row) := by
  obtain ⟨blanks, blank, whole⟩ := exists_filled columns row
  obtain ⟨dropped, split, droppedBlank⟩ := Text.exists_blanks_behind
    ("  ".intercalate (List.zipWith padded columns row)).toList
  refine shows_of_filled fits closed (List.forall_mem_append.mpr ⟨droppedBlank, blank⟩) ?_
  rw [line, Text.trimEnd, String.toList_ofList, ← List.append_assoc, ← split, whole]

/-- A double line of a width. -/
def bar (width : Nat) : String := String.ofList (List.replicate width '=')

/-- The double line under the first row shows a double line under each column, as wide as the
column. -/
theorem shows_rule (columns : List Nat) : Shows columns (columns.map bar) (rule columns) := by
  have fits : Fits columns (columns.map bar) := by
    simp [List.forall₂_map_right_iff, List.forall₂_same, bar]
  have bars : List.zipWith padded columns (columns.map bar) = columns.map bar := by
    simp [List.zipWith_map_right, List.zipWith_self, padded, bar]
  obtain ⟨blanks, blank, whole⟩ := exists_filled columns (columns.map bar)
  rw [bars] at whole
  refine shows_of_filled fits (fun text member c last => ?_) blank whole
  obtain ⟨width, _, rfl⟩ := List.mem_map.mp member
  rw [bar, String.toList_ofList] at last
  rw [List.eq_of_mem_replicate (List.mem_of_getLast? last)]
  rfl

/-- Columns are read back. Under the first row stands a double line, and then there is one line for
each further row, in order. A column is as wide as its longest text, and a later column starts two
places behind its end or farther on. At these places each line shows its row: every text is there as
it was given, those that are empty at the end of a line too, and there is nothing between the
columns. -/
theorem columns_read_back {count : Nat} {heading : List String} {rows : List (List String)}
    (regular : Regular count (heading :: rows)) :
    ∃ first others,
      lines heading rows = first :: rule (widths (heading :: rows)) :: others ∧
        List.Forall₂ (Shows (widths (heading :: rows))) (heading :: rows) (first :: others) ∧
        Shows (widths (heading :: rows)) ((widths (heading :: rows)).map bar)
          (rule (widths (heading :: rows))) ∧
        (widths (heading :: rows)).length = count ∧
        ∀ index width, (widths (heading :: rows))[index]? = some width →
          Longest (heading :: rows) index width ∧
            ∀ later, index < later →
              offset (widths (heading :: rows)) index + width + 2 ≤
                offset (widths (heading :: rows)) later := by
  refine ⟨_, _, rfl, ?_, shows_rule _, length_widths regular.length, fun index width column =>
    ⟨longest_widths column, fun later before => offset_apart before column⟩⟩
  have shown : ∀ row ∈ heading :: rows,
      Shows (widths (heading :: rows)) row (line (widths (heading :: rows)) row) :=
    fun row member => shows_line (fits_widths regular.length member) (regular.closed row member)
  rw [← List.map_cons (f := line (widths (heading :: rows))), List.forall₂_map_right_iff,
    List.forall₂_same]
  exact shown

/-- Rows with a text that is empty at the end of a line, and a row of empty texts. -/
def gappyRows : List (List String) := [["b c", "", ""], ["", "", ""], ["", "dd", ""]]

/-- These rows are read back from their lines, of which one is empty. -/
theorem gappy_columns_read_back :
    lines ["a", "", "e"] gappyRows = ["a        e", "===  ==  =", "b c", "", "     dd"] ∧
      Regular 3 (["a", "", "e"] :: gappyRows) ∧
      List.Forall₂ (Shows [3, 2, 1]) (["a", "", "e"] :: gappyRows)
        ["a        e", "b c", "", "     dd"] := by
  have written : lines ["a", "", "e"] gappyRows =
      ["a        e", "===  ==  =", "b c", "", "     dd"] := by decide +kernel
  have regular : Regular 3 (["a", "", "e"] :: gappyRows) := by
    have dense : isBlank 'a' = false ∧ isBlank 'c' = false ∧ isBlank 'd' = false ∧
      isBlank 'e' = false := by decide
    exact ⟨by decide, by simp [gappyRows, dense]⟩
  obtain ⟨first, others, split, shown, _⟩ := columns_read_back regular
  rw [written] at split
  cases split
  exact ⟨written, regular, shown⟩

end InfraReview.Columns
