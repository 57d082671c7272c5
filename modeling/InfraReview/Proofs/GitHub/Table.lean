import InfraReview.Proofs.GitHub.Overview
import InfraReview.Proofs.Text.Trim

/-!
# The table of findings

In a row of a Markdown table a bar ends a cell, unless it is escaped: that is, unless an odd number
of backslashes stands right before it. A finding is one row of five cells, with six bars that are
its own, and what its texts add to these is told here exactly.

A bar of a text is written with one more backslash before it than it had. One that no backslash was
before is escaped in this way, but one that was escaped already is not any more, and ends the cell.
A line feed is written as a blank, but a carriage return between other characters is written as it
is.
-/

namespace InfraReview.GitHub

/-! ### Bars -/

/-- The number of backslashes at the end of a text. -/
def trailing (text : List Char) : Nat := (text.reverse.takeWhile (· = '\\')).length

/-- A bar at a place of a text, with an even number of backslashes right before it, or with an odd
one. -/
def IsBar (parity : Nat) (text : List Char) (place : Nat) : Prop :=
  text[place]? = some '|' ∧ trailing (text.take place) % 2 = parity

instance (parity : Nat) (text : List Char) : DecidablePred (IsBar parity text) := fun _ =>
  inferInstanceAs (Decidable (_ ∧ _))

/-- The number of places of a text with such a bar. -/
def bars (parity : Nat) (text : List Char) : Nat :=
  (List.range text.length).countP fun place => IsBar parity text place

/-- The number of bars that end a cell. -/
def delimiters (text : String) : Nat := bars 0 text.toList

/-- The number of bars that are escaped. -/
def escapedBars (text : String) : Nat := bars 1 text.toList

/-- The number of bars in what follows some backslashes, counted from left to right. -/
def barsBehind (parity backslashes : Nat) : List Char → Nat
  | [] => 0
  | c :: rest =>
    (if c = '|' ∧ backslashes % 2 = parity then 1 else 0)
      + barsBehind parity (if c = '\\' then backslashes + 1 else 0) rest

/-- A backslash adds one to those at the end of a text, and no other character leaves any. -/
theorem trailing_append (text : List Char) (c : Char) :
    trailing (text ++ [c]) = if c = '\\' then trailing text + 1 else 0 := by
  rw [trailing, List.reverse_append, List.reverse_singleton, List.singleton_append]
  by_cases backslash : c = '\\'
  · simp [backslash, trailing]
  · simp [backslash]

/-- The bars of a text behind another one are counted from left to right. -/
theorem countP_bars (parity : Nat) (before text : List Char) :
    (List.range text.length).countP
        (fun place => IsBar parity (before ++ text) (before.length + place)) =
      barsBehind parity (trailing before) text := by
  induction text generalizing before with
  | nil => rfl
  | cons c rest inductionHypothesis =>
    have own : IsBar parity (before ++ c :: rest) (before.length + 0) ↔
        c = '|' ∧ trailing before % 2 = parity := by
      simp [IsBar]
    have behind := inductionHypothesis (before ++ [c])
    rw [trailing_append] at behind
    simp only [List.append_assoc, List.singleton_append, List.length_append, List.length_singleton,
      Nat.add_assoc, Nat.add_comm 1] at behind
    rw [List.length_cons, List.range_succ_eq_map, List.countP_cons, List.countP_map, barsBehind,
      ← behind, Nat.add_comm]
    simp only [own, decide_eq_true_eq]
    rfl

/-- The bars of a text are counted from left to right. -/
theorem bars_eq_barsBehind (parity : Nat) (text : List Char) :
    bars parity text = barsBehind parity 0 text := by
  simpa [bars, trailing] using countP_bars parity [] text

section

variable (parity backslashes : Nat)

/-- What stands behind a character other than a bar and a backslash is counted apart from what
stands before it. -/
theorem barsBehind_append {c : Char} (noBar : c ≠ '|') (noBackslash : c ≠ '\\')
    (text rest : List Char) :
    barsBehind parity backslashes (text ++ c :: rest) =
      barsBehind parity backslashes text + barsBehind parity 0 rest := by
  induction text generalizing backslashes with
  | nil => simp [barsBehind, noBar, noBackslash]
  | cons d text inductionHypothesis =>
    rw [List.cons_append, barsBehind, barsBehind, inductionHypothesis, Nat.add_assoc]

/-- A text without bars has none to count. -/
theorem barsBehind_of_not_mem {text : List Char} (free : '|' ∉ text) :
    barsBehind parity backslashes text = 0 := by
  induction text generalizing backslashes with
  | nil => rfl
  | cons c rest inductionHypothesis =>
    obtain ⟨other, restFree⟩ := List.ne_and_not_mem_of_not_mem_cons free
    simp [barsBehind, other.symm, inductionHypothesis _ restFree]

end

/-- The bars that end a cell in a text as it is written are those that were escaped in the text. -/
theorem barsBehind_flatMap (backslashes : Nat) (text : List Char) :
    barsBehind 0 backslashes (text.flatMap cellChar) = barsBehind 1 backslashes text := by
  induction text generalizing backslashes with
  | nil => rfl
  | cons c rest inductionHypothesis =>
    rw [List.flatMap_cons]
    by_cases bar : c = '|'
    · -- The bar gets a backslash of its own, so the number before it has the other parity.
      have turned : (backslashes + 1) % 2 = 0 ↔ backslashes % 2 = 1 := by omega
      simp [cellChar, barsBehind, inductionHypothesis, bar, turned]
    · by_cases feed : c = '\n'
      · simp [cellChar, barsBehind, inductionHypothesis, feed]
      · simp [cellChar, barsBehind, inductionHypothesis, bar, feed]

/-! ### Cells -/

/-- A cell is its text without the white space at its ends, written character by character. -/
theorem cellText_toList (text : String) :
    (cellText text).toList = (Text.trim text).toList.flatMap cellChar := by
  have blank (c : Char) (white : Text.isBlank c = true) : Text.AllBlank (cellChar c) := by
    have space : Text.isBlank ' ' = true := by decide
    unfold cellChar
    split_ifs with bar feed
    · subst bar
      cases white
    · simpa [Text.AllBlank] using space
    · simpa [Text.AllBlank] using white
  have solid (c : Char) (ink : Text.isBlank c = false) :
      cellChar c ≠ [] ∧ ∀ d ∈ cellChar c, Text.isBlank d = false := by
    have backslash : Text.isBlank '\\' = false := by decide
    unfold cellChar
    split_ifs with bar feed
    · subst bar
      simp [backslash, ink]
    · subst feed
      cases ink
    · simpa using ink
  rw [← cell_eq, cell, Text.trim, Text.trim, String.toList_ofList, String.toList_ofList,
    String.toList_ofList, Text.trimChars_flatMap blank solid]

/-- A cell holds as many bars that end it as its text has escaped ones. -/
theorem delimiters_cell (text : String) :
    barsBehind 0 0 (cellText text).toList = escapedBars (Text.trim text) := by
  rw [cellText_toList, barsBehind_flatMap, escapedBars, bars_eq_barsBehind]

/-- A carriage return stands in a cell exactly when it stands in its text, apart from white space at
the ends. -/
theorem return_mem_cell (text : String) :
    '\r' ∈ (cellText text).toList ↔ '\r' ∈ (Text.trim text).toList := by
  have own (c : Char) : '\r' ∈ cellChar c ↔ c = '\r' := by
    unfold cellChar
    split_ifs with bar feed
    · simp [bar]
    · simp [feed]
    · simp [eq_comm]
  simp [cellText_toList, own]

/-- The text of a row with given cells. -/
def rowText (cells : List String) : String :=
  String.ofList ('|' :: cells.flatMap fun cell => ' ' :: (cell.toList ++ [' ', '|']))

/-- A row has one bar at its beginning, one behind each cell, and those that its cells hold. -/
theorem delimiters_rowText (cells : List String) :
    delimiters (rowText cells) =
      cells.length + 1 + (cells.map fun cell => barsBehind 0 0 cell.toList).sum := by
  have behind : barsBehind 0 0 (cells.flatMap fun cell => ' ' :: (cell.toList ++ [' ', '|'])) =
      cells.length + (cells.map fun cell => barsBehind 0 0 cell.toList).sum := by
    induction cells with
    | nil => rfl
    | cons cell cells inductionHypothesis =>
      rw [List.flatMap_cons, List.cons_append, List.append_assoc, List.cons_append,
        barsBehind, barsBehind_append 0 _ (by decide) (by decide)]
      simp [barsBehind, inductionHypothesis]
      omega
  rw [delimiters, bars_eq_barsBehind, rowText, String.toList_ofList, barsBehind]
  simp [behind]
  omega

/-- A character other than a bar and a blank stands in a row when it stands in a cell. -/
theorem mem_rowText {c : Char} (noBar : c ≠ '|') (noBlank : c ≠ ' ') (cells : List String) :
    c ∈ (rowText cells).toList ↔ ∃ cell ∈ cells, c ∈ cell.toList := by
  simp [rowText, noBar, noBlank]

/-! ### Rows -/

/-- The texts of a finding that its row shows, without the white space at their ends: its rule, its
resource, its place and its description. -/
def shownTexts (finding : Members) : List String :=
  [Text.trim (textOf finding "rule_id"), Text.trim (textOf finding "resource"),
    Text.trim (placeNamed finding), Text.trim (textOf finding "description")]

/-- A cell in quotes. -/
def quoted (text : String) : String := "\x60" ++ text ++ "\x60"

/-- The cells of the row of a finding. -/
def cellsOf (finding : Members) : List String :=
  [(severityOf (Json.member finding "severity")).title,
    quoted (cellText (textOf finding "rule_id")), quoted (cellText (textOf finding "resource")),
    cellForPlace (placeNamed finding), cellText (textOf finding "description")]

/-- The row of a finding has its cells. -/
theorem rowFor_eq (finding : Members) : rowFor finding = rowText (cellsOf finding) := by
  rw [← String.toList_inj]
  simp [rowFor, rowWith, rowText, cellsOf, quoted]

/-- A row shows a finding. It is one line, except that a carriage return of a text remains in it;
and it has its own six bars, and one for every bar that was escaped in a text. -/
structure Shows (finding : Members) (row : String) : Prop where
  made : findingRow (.object finding) = .ok row
  line : IsLine row
  returns : '\r' ∈ row.toList ↔ ∃ text ∈ shownTexts finding, '\r' ∈ text.toList
  bars : delimiters row = 6 + ((shownTexts finding).map escapedBars).sum

/-- A text is one row of five cells: it holds no line end, and six bars in it end a cell. -/
def IsRow (row : String) : Prop :=
  ('\n' ∉ row.toList ∧ '\r' ∉ row.toList) ∧ delimiters row = 6

instance (row : String) : Decidable (IsRow row) := inferInstanceAs (Decidable ((_ ∧ _) ∧ _))

/-- What shows a finding is one row of five cells exactly when no text of the finding holds a
carriage return or an escaped bar. -/
theorem Shows.isRow_iff {finding : Members} {row : String} (shows : Shows finding row) :
    IsRow row ↔ ∀ text ∈ shownTexts finding, '\r' ∉ text.toList ∧ escapedBars text = 0 := by
  have six : delimiters row = 6 ↔ ∀ text ∈ shownTexts finding, escapedBars text = 0 := by
    rw [shows.bars, Nat.add_eq_left, List.sum_eq_zero_iff_forall_eq_nat]
    simp
  have whole : '\r' ∉ row.toList ↔ ∀ text ∈ shownTexts finding, '\r' ∉ text.toList := by
    rw [shows.returns]
    simp
  rw [IsRow, six, whole]
  constructor
  · rintro ⟨⟨_, returns⟩, bars⟩ text shown
    exact ⟨returns text shown, bars text shown⟩
  · intro sound
    exact ⟨⟨shows.line, fun text shown => (sound text shown).1⟩,
      fun text shown => (sound text shown).2⟩

/-- The name of a severity has neither a bar nor a carriage return. -/
theorem title_plain (severity : Severity) :
    '|' ∉ severity.title.toList ∧ '\r' ∉ severity.title.toList := by
  cases severity <;> decide

/-- Quotes around a cell leave its bars. -/
theorem barsBehind_quoted (text : String) :
    barsBehind 0 0 (quoted text).toList = barsBehind 0 0 text.toList := by
  have characters : (quoted text).toList = '\x60' :: (text.toList ++ ['\x60']) := by simp [quoted]
  have behind : barsBehind 0 0 (text.toList ++ ['\x60']) = barsBehind 0 0 text.toList + 0 :=
    barsBehind_append 0 0 (by decide) (by decide) text.toList []
  simpa [characters, barsBehind] using behind

/-- Quotes around a cell leave its other characters. -/
theorem mem_quoted {c : Char} (other : c ≠ '\x60') (text : String) :
    c ∈ (quoted text).toList ↔ c ∈ text.toList := by
  simp [quoted, other]

/-- The cell for a place has the bars of a cell, and of line ends what a cell has. The word for a
blank place has none of them, and neither has the blank place. -/
theorem cellForPlace_like (place : String) :
    barsBehind 0 0 (cellForPlace place).toList = barsBehind 0 0 (cellText place).toList ∧
      IsLine (cellForPlace place) ∧
      ('\r' ∈ (cellForPlace place).toList ↔ '\r' ∈ (cellText place).toList) := by
  unfold cellForPlace
  split
  · rename_i blank
    rw [blank]
    decide
  · exact ⟨rfl, isLine_cellText place, Iff.rfl⟩

/-- The row that is made for a finding shows it. -/
theorem shows_of_findingRow {finding : Members} {row : String}
    (made : findingRow (.object finding) = .ok row) : Shows finding row := by
  obtain ⟨_, rfl⟩ := findingRow_ok_iff.mp made
  obtain ⟨placeBars, placeLine, placeReturns⟩ := cellForPlace_like (placeNamed finding)
  obtain ⟨noBar, noReturn⟩ := title_plain (severityOf (Json.member finding "severity"))
  refine ⟨made, ?_, ?_, ?_⟩
  · have lines : ∀ cell ∈ cellsOf finding, IsLine cell := by
      simp +decide [cellsOf, quoted, placeLine]
    rw [rowFor_eq, IsLine, mem_rowText (by decide) (by decide)]
    rintro ⟨cell, member, feed⟩
    exact lines cell member feed
  · rw [rowFor_eq, mem_rowText (by decide) (by decide)]
    simp [cellsOf, shownTexts, mem_quoted, return_mem_cell, placeReturns, noReturn]
  · rw [rowFor_eq, delimiters_rowText]
    simp [cellsOf, shownTexts, barsBehind_quoted, placeBars, delimiters_cell,
      barsBehind_of_not_mem 0 0 noBar]

/-! ### The table -/

/-- The lines in front of the rows. -/
def heading : List String :=
  ["", "## Findings", "", "| Severity | Rule | Resource | Location | Description |",
    "| --- | --- | --- | --- | --- |"]

/-- The table with given rows, and a note when it lacks findings. -/
def tableLines (rows : List String) (lacking : Nat) : List String :=
  if rows.isEmpty then []
  else
    heading ++ rows ++
      if lacking = 0 then [] else ["", "...and " ++ toString lacking ++ " more findings."]

/-- A table with rows has its heading. -/
theorem tableLines_of_ne_nil {rows : List String} (filled : rows ≠ []) (lacking : Nat) :
    tableLines rows lacking = heading ++ rows ++
      if lacking = 0 then [] else ["", "...and " ++ toString lacking ++ " more findings."] := by
  rw [tableLines, if_neg (by simpa using filled)]

/-- The lines of a summary in front of its table. -/
def frontLines (parts : Members) : Except Fault (List String) := do
  let summary ← members (orElse (Json.member parts "summary") (.object []))
  let counts := orElse (Json.member summary "counts") (.object [])
  let head ← headLines summary
  let severities ← Severity.all.mapM fun severity => do severityRow (← members counts) severity
  let pillars ← pillarLines (Json.member summary "by_pillar")
  let metadata ← metadataLines (Json.member parts "metadata")
  let expired ← expiredLines (Json.member summary "expired_suppressions")
  .ok (head ++ severities ++ pillars ++ metadata ++ expired)

/-- A summary has its table at the end. -/
theorem summaryText_eq (parts : Members) :
    summaryText (.object parts) = (do
      let front ← frontLines parts
      let table ← findingLines (Json.member parts "findings")
      .ok ("\n".intercalate (front ++ table ++ [""]))) := by
  unfold summaryText frontLines
  simp only [bind_assoc]
  rfl

variable {parts : Members} {findings : List Members}

/-- Findings of which there is a first one have a first row. -/
theorem rows_ne_nil {finding : Members} {others : List Members} {rows : List String}
    (made : (((finding :: others).take displayLimit).mapM fun finding =>
      findingRow (.object finding)) = .ok rows) : rows ≠ [] := by
  rintro rfl
  have shown := ((mapM_ok_iff _ _ _).mp made).length_eq
  simp [displayLimit] at shown

/-- The lines about findings are a table with the rows of the first ones. -/
theorem findingLines_ok_iff (lists : Lists parts findings) (lines : List String) :
    findingLines (Json.member parts "findings") = .ok lines ↔ ∃ rows,
      ((findings.take displayLimit).mapM fun finding => findingRow (.object finding)) = .ok rows ∧
        lines = tableLines rows (findings.length - displayLimit) := by
  have none : (Except.ok [] : Except Fault (List String)) = .ok lines ↔ ∃ rows,
      (([] : List Members).mapM fun finding => findingRow (.object finding)) = .ok rows ∧
        lines = tableLines rows 0 := by
    constructor
    · rintro ⟨⟩
      exact ⟨[], rfl, rfl⟩
    · rintro ⟨rows, made, rfl⟩
      cases made
      rfl
  cases lists with
  | nothing vacant =>
    rw [findingLines, if_pos vacant]
    exact none
  | objects given =>
    rw [given]
    cases findings with
    | nil => exact none
    | cons finding others =>
      have filled : ¬ (Json.array ((finding :: others).map .object)).isVacant = true := by
        simp [Json.isVacant]
      rw [findingLines, if_neg filled]
      constructor
      · intro done
        obtain ⟨_, listing, done⟩ := ok_of_bind done
        cases listing
        obtain ⟨rows, made, written⟩ := ok_of_bind done
        rw [← List.map_take, List.mapM_map] at made
        refine ⟨rows, made, ?_⟩
        rw [tableLines_of_ne_nil (rows_ne_nil made), ← Except.ok.inj written, List.length_map]
        rfl
      · rintro ⟨rows, made, rfl⟩
        rw [tableLines_of_ne_nil (rows_ne_nil made)]
        refine bind_ok_iff.mpr ⟨_, rfl, bind_ok_iff.mpr ⟨rows, ?_, ?_⟩⟩
        · rw [← List.map_take, List.mapM_map]
          exact made
        · rw [List.length_map]
          rfl

/-- A summary is made of the lines in front of the table and the rows of the first findings. -/
theorem summaryText_ok_iff (lists : Lists parts findings) (text : String) :
    summaryText (.object parts) = .ok text ↔ ∃ front rows, frontLines parts = .ok front ∧
      ((findings.take displayLimit).mapM fun finding => findingRow (.object finding)) = .ok rows ∧
      text = "\n".intercalate
        (front ++ tableLines rows (findings.length - displayLimit) ++ [""]) := by
  rw [summaryText_eq]
  simp only [bind_ok_iff, findingLines_ok_iff lists, Except.ok.injEq]
  constructor
  · rintro ⟨front, before, _, ⟨rows, made, rfl⟩, rfl⟩
    exact ⟨front, rows, before, made, rfl⟩
  · rintro ⟨front, rows, before, made, rfl⟩
    exact ⟨front, before, _, ⟨rows, made, rfl⟩, rfl⟩

/-- The first findings have rows exactly when they can be shown. -/
theorem exists_rows_iff (shown : List Members) :
    (∃ rows, (shown.mapM fun finding => findingRow (.object finding)) = .ok rows) ↔
      ∀ finding ∈ shown, Showable finding := by
  simp only [mapM_ok_iff, findingRow_ok_iff]
  constructor
  · rintro ⟨rows, made⟩
    exact ((List.forall₂_and_left shown rows).mp made).1
  · intro showable
    refine ⟨shown.map rowFor, ?_⟩
    rw [List.forall₂_map_right_iff, List.forall₂_same]
    exact fun finding member => ⟨showable finding member, rfl⟩

/-- A document with nothing but findings has lines in front of the table. -/
theorem exists_frontLines (given : Json) :
    ∃ front, frontLines [("findings", given)] = .ok front :=
  ⟨_, rfl⟩

/-- The table at the end of a summary has one row for each of the first ten findings, in order, and
there is a summary whenever the lines before the table can be made and these findings can be
shown. A row holds no line feed, and a carriage return only when a text of its finding does. It
has the six bars of five cells, and besides them one for each bar of such a text that was escaped
there. So it is one row of five cells exactly when its finding has neither. -/
theorem rows_show_findings (lists : Lists parts findings) :
    ((∃ text, summaryText (.object parts) = .ok text) ↔
      (∃ front, frontLines parts = .ok front) ∧
        ∀ finding ∈ findings.take 10, Showable finding) ∧
    ∀ text, summaryText (.object parts) = .ok text →
      ∃ front rows, frontLines parts = .ok front ∧
        text = "\n".intercalate (front ++ tableLines rows (findings.length - 10) ++ [""]) ∧
        List.Forall₂ (fun finding row => Shows finding row ∧
          (IsRow row ↔
            ∀ text ∈ shownTexts finding, '\r' ∉ text.toList ∧ escapedBars text = 0))
          (findings.take 10) rows := by
  constructor
  · rw [← exists_rows_iff]
    constructor
    · rintro ⟨text, done⟩
      obtain ⟨front, rows, before, made, _⟩ := (summaryText_ok_iff lists text).mp done
      exact ⟨⟨front, before⟩, rows, made⟩
    · rintro ⟨⟨front, before⟩, rows, made⟩
      exact ⟨_, (summaryText_ok_iff lists _).mpr ⟨front, rows, before, made, rfl⟩⟩
  · intro text done
    obtain ⟨front, rows, before, made, written⟩ := (summaryText_ok_iff lists text).mp done
    rw [mapM_ok_iff] at made
    refine ⟨front, rows, before, written, made.imp fun finding row own => ?_⟩
    have shows := shows_of_findingRow own
    exact ⟨shows, shows.isRow_iff⟩

/-- A finding with a bar in every text, of which the one in the description is escaped there. -/
def barred : Members :=
  [("severity", .string "high"), ("rule_id", .string "S3|1"), ("resource", .string "t.a|b\r"),
    ("file", .string "x|\ry.tf"), ("line", .int 7), ("description", .string "a\\|b\nc")]

/-- The row of such a finding is none of five cells: it has one bar more than six, and the carriage
return of the file. -/
theorem barred_row :
    Lists [("findings", .array [.object barred])] [barred] ∧
      ∃ text, summaryText (.object [("findings", .array [.object barred])]) = .ok text ∧
        ∃ front row, text = "\n".intercalate (front ++ tableLines [row] 0 ++ [""]) ∧
          delimiters row = 7 ∧ '\r' ∈ row.toList ∧ ¬ IsRow row := by
  have lists : Lists [("findings", .array [.object barred])] [barred] := .objects rfl
  have short : Json.Short (.object barred) := by
    simp +decide [barred]
  have showable : Showable barred := by
    refine ⟨⟨short.member _, fun _ => ⟨?_, ?_⟩⟩, fun name _ => short.member name⟩
    · rintro (same | same) <;> cases same
    · rintro _ ⟨⟩
      decide +kernel
  obtain ⟨text, done⟩ := (rows_show_findings lists).1.mpr
    ⟨exists_frontLines _, by simpa using showable⟩
  obtain ⟨front, rows, _, written, shown⟩ := (rows_show_findings lists).2 text done
  refine ⟨lists, text, done, ?_⟩
  cases shown with
  | @cons _ row _ rest own none =>
    cases none
    obtain ⟨shows, _⟩ := own
    have texts : shownTexts barred = ["S3|1", "t.a|b", "x|\ry.tf:7", "a\\|b\nc"] := by
      decide +kernel
    have returns : '\r' ∈ row.toList := by
      rw [shows.returns, texts]
      decide +kernel
    have all : [barred].length - 10 = 0 := rfl
    rw [all] at written
    refine ⟨front, row, written, ?_, returns, fun isRow => isRow.1.2 returns⟩
    rw [shows.bars, texts]
    decide +kernel

/-- Not every finding gets a row of five cells. A bar that is escaped in a description ends a cell
there, and a carriage return in a description breaks the row in two. -/
theorem rows_torn :
    let finding (description : String) : Members :=
      [("severity", .string "high"), ("rule_id", .string "R-1"), ("resource", .string "t.n"),
        ("description", .string description)]
    let findings := [finding "a\\|b", finding "a\rb"]
    let torn := "| High | \x60R-1\x60 | \x60t.n\x60 | plan | a\\\\|b |"
    let broken := "| High | \x60R-1\x60 | \x60t.n\x60 | plan | a\rb |"
    (∃ front, summaryText (.object [("findings", .array (findings.map .object))]) =
      .ok ("\n".intercalate (front ++ tableLines [torn, broken] 0 ++ [""]))) ∧
      (delimiters torn = 7 ∧ ¬ IsRow torn) ∧ '\r' ∈ broken.toList ∧ ¬ IsRow broken := by
  intro finding findings torn broken
  have rows : ((findings.take displayLimit).mapM fun finding => findingRow (.object finding)) =
      .ok [torn, broken] := by
    decide +kernel
  obtain ⟨front, before⟩ := exists_frontLines (.array (findings.map .object))
  refine ⟨⟨front, ?_⟩, by decide +kernel, by decide +kernel⟩
  have lists : Lists [("findings", .array (findings.map .object))] findings := .objects rfl
  have all : findings.length - displayLimit = 0 := rfl
  rw [summaryText_ok_iff lists]
  exact ⟨front, [torn, broken], before, rows, by rw [all]⟩

end InfraReview.GitHub
