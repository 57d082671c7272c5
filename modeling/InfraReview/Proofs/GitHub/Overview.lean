import InfraReview.Proofs.GitHub.Row
import InfraReview.Proofs.Report.Order
import InfraReview.Proofs.Report.Transport

/-!
# Reports and what is published of them

A report is written as JSON in one place and read for publication in another. What is read there
agrees with the report: every finding has its annotation, in the order of the report and at its
place, and the summary gives the numbers of the report and a table of its first findings.

The summary is looked at line by line. The lines about pillars, metadata and expired suppressions
stand between the counts and the table; they come from texts that may hold line feeds, so nothing is
said about how many of them there are.

The JSON of a report goes from the one place to the other as a text. No text gives a document with
an integer that is too long, so a report that was carried by one has none.
-/

namespace InfraReview.GitHub

open Command

/-! ### Findings and their annotations -/

/-- A finding stands in a file of source: what it says about its file is neither blank nor the name
of a plan. -/
def Located (finding : Finding) : Prop :=
  Text.trim finding.file ≠ "" ∧ Text.trim finding.file ≠ Plan.sourceName

instance (finding : Finding) : Decidable (Located finding) :=
  inferInstanceAs (Decidable (_ ∧ _))

/-- A command announces a finding: it has the level that belongs to its severity, and it names the
file when the finding stands in one, and the line too when that is one. -/
structure Announces (finding : Finding) (command : Command) : Prop where
  level : command.level = levelFor finding.severity
  file : command.properties.lookup "file" =
    if Located finding then some (withoutReturns (Text.trim finding.file)) else none
  line : command.properties.lookup "line" =
    if Located finding ∧ 1 ≤ finding.line then some (toString finding.line) else none

/-- The members of a finding as JSON. -/
def membersOf (finding : Finding) : Members :=
  match finding.toJson with
  | .object members => members
  | _ => []

/-- A finding as JSON has its members. -/
theorem toJson_eq (finding : Finding) : finding.toJson = .object (membersOf finding) := rfl

/-- A severity is read from its name. -/
theorem severityOf_name (severity : Severity) : severityOf (.string severity.name) = severity := by
  cases severity <;> decide

/-- The severity of a finding is read from its members. -/
theorem severityOf_membersOf (finding : Finding) :
    severityOf (Json.member (membersOf finding) "severity") = finding.severity :=
  severityOf_name finding.severity

/-- The file that the members of a finding name is the one that it stands in. -/
theorem fileOf_membersOf (finding : Finding) :
    fileOf? (membersOf finding) =
      if Located finding then some (Text.trim finding.file) else none := by
  have shown : (orElse (Json.member (membersOf finding) "file") (.string "")).display.plain =
      finding.file := by
    change (orElse (.string finding.file) (.string "")).display.plain = finding.file
    unfold orElse
    split
    · rename_i vacant
      exact (String.isEmpty_iff.mp vacant).symm
    · rfl
  rw [fileOf?, shown]
  by_cases blank : Text.trim finding.file = ""
  · simp [Located, blank]
  · by_cases plan : Text.trim finding.file = Plan.sourceName
    · simp [Located, plan]
    · simp [Located, blank, plan]

/-- The line that the members of a finding name is its own, if that is one. -/
theorem lineOf_membersOf (finding : Finding) :
    lineOf? (Json.member (membersOf finding) "line") =
      if 1 ≤ finding.line then some finding.line else none :=
  rfl

/-- A short finding has a place that can be told. -/
theorem placeable_membersOf {finding : Finding} (short : Json.Short finding.toJson) :
    Placeable (membersOf finding) where
  file := .string finding.file
  line _ := by
    have line : isLong finding.line = false :=
      Json.short_int_iff.mp (Json.Short.member short "line")
    refine ⟨?_, fun number named => ?_⟩
    · rintro (same | same) <;> cases same
    · rw [lineOf_membersOf] at named
      split_ifs at named
      · rwa [← Option.some.inj named]
      · cases named

/-- A short finding can be published. -/
theorem accepted_membersOf {finding : Finding} (short : Json.Short finding.toJson) :
    Accepted (membersOf finding) :=
  ⟨placeable_membersOf short, fun name _ => Json.Short.member short name⟩

/-- The file among the properties is the one that they are made with. -/
theorem lookup_file (file : Option String) (line : Option Int) (title : String) :
    (entries file line title).lookup "file" = file := by
  cases file <;> rfl

/-- The line among the properties is the one that they are made with, if there is a file. -/
theorem lookup_line (file : Option String) (line : Option Int) (title : String) :
    (entries file line title).lookup "line" = file.bind fun _ => line.map toString := by
  cases file with
  | none => rfl
  | some file => cases line <;> rfl

/-- What is said about the members of a finding announces it. -/
theorem announces_said (finding : Finding) :
    Announces finding (said finding.severity (membersOf finding)) where
  level := rfl
  file := by
    rw [said, lookup_file, fileOf_membersOf]
    split <;> rfl
  line := by
    rw [said, lookup_line, fileOf_membersOf, lineOf_membersOf]
    by_cases located : Located finding <;> by_cases positive : 1 ≤ finding.line <;>
      simp [located, positive]

/-- The members of a report as JSON. -/
def partsOf (report : Report) : Members :=
  match report.toJson with
  | .object parts => parts
  | _ => []

/-- A report as JSON has its members. -/
theorem report_toJson_eq (report : Report) : report.toJson = .object (partsOf report) := rfl

/-- The findings among the members of a report are those that it shows. -/
theorem member_findings (report : Report) :
    Json.member (partsOf report) "findings" =
      .array (report.sortedFindings.map Finding.toJson) :=
  rfl

/-- Each finding of a report as JSON is an object. -/
theorem lists_partsOf (report : Report) :
    Lists (partsOf report) (report.sortedFindings.map membersOf) := by
  refine .objects ?_
  rw [member_findings, List.map_map]
  exact congrArg Json.array (List.map_congr_left fun finding _ => toJson_eq finding)

/-- The findings of a short report are short. -/
theorem short_of_mem {report : Report} (short : Json.Short report.toJson) {finding : Finding}
    (listed : finding ∈ report.sortedFindings) : Json.Short finding.toJson := by
  have findings : Json.Short (.array (report.sortedFindings.map Finding.toJson)) :=
    Json.Short.member short "findings"
  exact Json.short_array_iff.mp findings _ (List.mem_map_of_mem listed)

/-- The annotations of a short report are the lines for its findings. -/
theorem annotations_toJson {report : Report} (short : Json.Short report.toJson) :
    annotations report.toJson =
      .ok (report.sortedFindings.map fun finding => lineFor (membersOf finding)) := by
  rw [report_toJson_eq, annotations_lists (lists_partsOf report), List.map_map, List.mapM_map]
  exact mapM_ok fun finding listed =>
    annotation_ok_iff.mpr ⟨accepted_membersOf (short_of_mem short listed), rfl⟩

/-! ### Lines of a summary -/

/-- A text that is one line. -/
def IsLine (text : String) : Prop := '\n' ∉ text.toList

instance (text : String) : Decidable (IsLine text) := inferInstanceAs (Decidable (_ ∉ _))

/-- Texts in a row are one line when each of them is. -/
@[simp] theorem isLine_append (first second : String) :
    IsLine (first ++ second) ↔ IsLine first ∧ IsLine second := by
  simp [IsLine]

/-- Decimals are one line. -/
@[simp] theorem isLine_repr (number : Nat) : IsLine (Nat.repr number) := by
  intro member
  have digit : '\n'.isDigit = true := by
    refine Nat.isDigit_of_mem_toDigits (b := 10) (n := number) (by decide) (by decide) ?_
    simpa [Nat.repr] using member
  cases digit

/-- A number is written in one line. -/
@[simp] theorem isLine_int (number : Int) : IsLine number.repr := by
  cases number with
  | ofNat number => exact isLine_repr number
  | negSucc number => exact (isLine_append _ _).mpr ⟨by decide, isLine_repr _⟩

/-- The name of a severity in a heading is one line. -/
@[simp] theorem isLine_title (severity : Severity) : IsLine severity.title := by
  cases severity <;> decide

/-- A text without the white space at its end has only characters of the text. -/
theorem mem_of_trimEndChars {c : Char} :
    ∀ {text : List Char}, c ∈ Text.trimEndChars text → c ∈ text
  | [], member => member
  | d :: rest, member => by
    rw [Text.trimEndChars] at member
    split at member
    · split at member
      · cases member
      · rw [List.mem_singleton.mp member]
        exact List.mem_cons_self
    · rcases List.mem_cons.mp member with rfl | later
      · exact List.mem_cons_self
      · exact List.mem_cons_of_mem _ (mem_of_trimEndChars later)

/-- A cell is one line. -/
@[simp] theorem isLine_cellText (text : String) : IsLine (cellText text) := by
  intro member
  rw [← cell_eq, cell, Text.trim, String.toList_ofList, Text.trimChars, String.toList_ofList]
    at member
  have untrimmed := (List.dropWhile_sublist _).subset (mem_of_trimEndChars member)
  obtain ⟨c, _, held⟩ := List.mem_flatMap.mp untrimmed
  unfold cellChar at held
  split_ifs at held with bar feed
  · simp at held
  · simp at held
  · exact feed (List.mem_singleton.mp held).symm

/-! ### The summary -/

/-- What a summary says: its numbers, the highest severity if there is one, the count of each
severity, the lines between the counts and the table, the findings in the table, and how many more
there are if there are any. -/
structure Overview where
  resources : Int
  total : Nat
  suppressed : Int
  highest : Option Severity
  counts : List (Severity × Nat)
  between : List String
  shown : List Finding
  omitted : Option Nat

/-- The place of a finding in words. -/
def placeWords (finding : Finding) : String :=
  if Located finding then
    if 1 ≤ finding.line then Text.trim finding.file ++ ":" ++ toString finding.line
    else Text.trim finding.file
  else ""

/-- The row of a finding in the table. -/
def rowOf (finding : Finding) : String :=
  rowWith finding.severity finding.ruleId finding.resource (placeWords finding)
    finding.description

namespace Overview

/-- The numbers in front. -/
def head (overview : Overview) : List String :=
  ["# Well-Architected Review", "",
    "**Resources scanned:** " ++ toString overview.resources,
    "**Total findings:** " ++ toString overview.total,
    "**Suppressed findings:** " ++ toString overview.suppressed,
    "**Highest severity:** " ++ (overview.highest.map Severity.title).getD "None",
    "", "| Severity | Findings |", "| --- | ---: |"]

/-- The row for the count of a severity. -/
def countRow (entry : Severity × Nat) : String :=
  "| " ++ entry.1.title ++ " | " ++ toString entry.2 ++ " |"

/-- The note about the findings that are not in the table. -/
def note (overview : Overview) : List String :=
  match overview.omitted with
  | none => []
  | some omitted => ["", "...and " ++ toString omitted ++ " more findings."]

/-- The table of findings, if there are any. -/
def table (overview : Overview) : List String :=
  if overview.shown.isEmpty then []
  else
    ["", "## Findings", "", "| Severity | Rule | Resource | Location | Description |",
      "| --- | --- | --- | --- | --- |"] ++ overview.shown.map rowOf ++ overview.note

/-- The lines of a summary. -/
def lines (overview : Overview) : List String :=
  overview.head ++ overview.counts.map countRow ++ overview.between ++ overview.table ++ [""]

/-- An overview agrees with a report: its numbers are those of the report, each severity is counted
as often as a finding has it, and the highest severity is that of the first finding. The table has
the first ten findings of the report, of which no further one is more serious than one of them, and
what it lacks is noted. -/
structure Agrees (overview : Overview) (report : Report) : Prop where
  resources : overview.resources = report.totalResources
  suppressed : overview.suppressed = report.suppressedFindings
  total : overview.total = report.findings.length
  counts : overview.counts = [.critical, .high, .medium, .low, .info].map fun severity : Severity =>
    (severity, report.findings.countP fun finding => finding.severity = severity)
  sum : (overview.counts.map Prod.snd).sum = overview.total
  highest : overview.highest = report.sortedFindings.head?.map (·.severity)
  shown : overview.shown = report.sortedFindings.take 10
  rows : overview.shown.length = min report.findings.length 10
  gravest : ∀ shown ∈ overview.shown, ∀ omitted ∈ report.sortedFindings.drop 10,
    omitted.severity.rank ≤ shown.severity.rank
  omitted : overview.omitted =
    if 10 < report.findings.length then some (report.findings.length - 10) else none

/-- The overview of a report with given lines between the counts and the table. -/
def ofReport (report : Report) (between : List String) : Overview where
  resources := report.totalResources
  total := report.findings.length
  suppressed := report.suppressedFindings
  highest := report.highestSeverity
  counts := report.severityCounts
  between := between
  shown := report.sortedFindings.take displayLimit
  omitted :=
    if displayLimit < report.findings.length then some (report.findings.length - displayLimit)
    else none

/-- The overview of a report agrees with it. -/
theorem ofReport_agrees (report : Report) (between : List String) :
    (ofReport report between).Agrees report where
  resources := rfl
  suppressed := rfl
  total := rfl
  counts := Report.countsBy_eq _ _ _
  sum := by
    exact Report.sum_countsBy Severity.all _ (by decide) Severity.mem_all report.findings
  highest := report.highestSeverity_eq_head
  shown := rfl
  rows := by
    rw [ofReport, List.length_take, report.sortedFindings_perm.length_eq, Nat.min_comm]
    rfl
  gravest shown before omitted behind := report.rank_le_of_cut displayLimit before behind
  omitted := rfl

end Overview

variable (report : Report)

/-- The members of the summary of a report as JSON. -/
def summaryOf (report : Report) : Members :=
  match report.summaryJson with
  | .object summary => summary
  | _ => []

/-- A number among short members is written in digits. -/
theorem countOf_int {members : Members} (short : Json.Short (.object members)) {name : String}
    {number : Int} (given : Json.member? members name = some (.int number)) :
    countOf members name = .ok (toString number) := by
  have few : isLong number = false := by
    have part := short.member name
    rw [Json.member, ← Json.member?, given] at part
    exact Json.short_int_iff.mp part
  rw [countOf, memberOr, given]
  exact digits_ok_iff.mpr ⟨few, rfl⟩

section

variable {report : Report} (short : Json.Short report.toJson)

include short in
/-- The summary of a short report is short. -/
theorem short_summaryOf : Json.Short (.object (summaryOf report)) :=
  Json.Short.member short "summary"

include short in
/-- The first lines of the summary of a short report. -/
theorem headLines_summaryOf (between : List String) :
    headLines (summaryOf report) = .ok (Overview.ofReport report between).head := by
  have highest : (if (Json.member (summaryOf report) "highest_severity").isVacant then "None"
      else (severityOf (Json.member (summaryOf report) "highest_severity")).title) =
      (report.highestSeverity.map Severity.title).getD "None" := by
    change (if ((report.highestSeverity.map fun s => Json.string s.name).getD .null).isVacant
      then "None" else (severityOf ((report.highestSeverity.map fun s =>
        Json.string s.name).getD .null)).title) = _
    cases report.highestSeverity with
    | none => rfl
    | some severity => cases severity <;> decide
  have summary := short_summaryOf short
  have resources : countOf (summaryOf report) "total_resources" =
      .ok (toString report.totalResources) := countOf_int summary rfl
  have total : countOf (summaryOf report) "total_findings" =
      .ok (toString (report.findings.length : Int)) := countOf_int summary rfl
  have suppressed : countOf (summaryOf report) "suppressed_findings" =
      .ok (toString report.suppressedFindings) := countOf_int summary rfl
  rw [headLines]
  simp only [bind, Except.bind, resources, total, suppressed, highest]
  rfl

/-- The counts among the members of the summary of a report. -/
def countsOf (report : Report) : Members :=
  report.severityCounts.map fun (severity, count) => (severity.name, .int count)

include short in
/-- The rows of the severities in the summary of a short report. -/
theorem severityRows_countsOf :
    Severity.all.mapM (severityRow (countsOf report)) =
      .ok (report.severityCounts.map Overview.countRow) := by
  have counts : Json.Short (.object (countsOf report)) :=
    Json.Short.member (short_summaryOf short) "counts"
  have listed : report.severityCounts = Severity.all.map fun severity =>
      (severity, report.findings.countP fun finding => finding.severity = severity) :=
    Report.countsBy_eq _ _ _
  have row (severity : Severity) : severityRow (countsOf report) severity = .ok (Overview.countRow
      (severity, report.findings.countP fun finding => finding.severity = severity)) := by
    have given : Json.member? (countsOf report) severity.name = some (.int
        (report.findings.countP fun finding => finding.severity = severity : Nat)) := by
      rw [countsOf, listed]
      cases severity <;> rfl
    rw [severityRow, countOf_int counts given]
    rfl
  rw [listed, List.map_map]
  exact mapM_ok fun severity _ => row severity

end

/-- An object stands for itself, also when it has no members. -/
theorem orElse_object (given : Members) : orElse (.object given) (.object []) = .object given := by
  cases given <;> rfl

/-- Short members have their names and texts, in the order of the names. -/
theorem labelled_object {members : Members} (short : Json.Short (.object members)) :
    ∃ rows, labelled (.object members) = .ok rows := by
  refine exists_mapM fun member listed => ?_
  have own := Json.short_object_iff.mp short member (List.mem_mergeSort.mp listed)
  exact ⟨_, bind_ok_iff.mpr ⟨_, shown_ok_iff.mpr ⟨own, rfl⟩, rfl⟩⟩

/-- Short pillars have lines. -/
theorem pillarLines_object {pillars : Members} (short : Json.Short (.object pillars)) :
    ∃ lines, pillarLines (.object pillars) = .ok lines := by
  obtain ⟨rows, read⟩ := labelled_object short
  rw [pillarLines]
  split
  · exact ⟨_, rfl⟩
  · exact ⟨_, bind_ok_iff.mpr ⟨rows, read, rfl⟩⟩

/-- Short metadata have lines. -/
theorem metadataLines_object {metadata : Members} (short : Json.Short (.object metadata)) :
    ∃ lines, metadataLines (.object metadata) = .ok lines := by
  obtain ⟨rows, read⟩ := labelled_object short
  rw [metadataLines]
  split
  · exact ⟨_, rfl⟩
  · exact ⟨_, bind_ok_iff.mpr ⟨rows, read, rfl⟩⟩

/-- Expired suppressions in a short list have lines. -/
theorem expiredLines_array {expired : List Json} (short : Json.Short (.array expired)) :
    ∃ lines, expiredLines (.array expired) = .ok lines := by
  obtain ⟨texts, read⟩ : ∃ texts, expired.mapM shown = .ok texts :=
    exists_mapM fun entry listed =>
      ⟨_, shown_ok_iff.mpr ⟨Json.short_array_iff.mp short entry listed, rfl⟩⟩
  rw [expiredLines]
  split
  · exact ⟨_, rfl⟩
  · exact ⟨_, bind_ok_iff.mpr ⟨expired, rfl, bind_ok_iff.mpr ⟨texts, read, rfl⟩⟩⟩

/-- The place of a finding in words is read from its members. -/
theorem placeNamed_membersOf (finding : Finding) :
    placeNamed (membersOf finding) = placeWords finding := by
  rw [placeNamed, fileOf_membersOf, lineOf_membersOf, placeWords]
  split_ifs <;> rfl

/-- The row of a short finding as JSON. -/
theorem findingRow_toJson {finding : Finding} (short : Json.Short finding.toJson) :
    findingRow finding.toJson = .ok (rowOf finding) := by
  have showable : Showable (membersOf finding) :=
    ⟨placeable_membersOf short, fun name _ => Json.Short.member short name⟩
  rw [toJson_eq, findingRow_ok_iff, rowFor, placeNamed_membersOf, severityOf_membersOf]
  exact ⟨showable, rfl⟩

section

variable {report : Report}

/-- The note about further findings stands there when there are more than the table shows. -/
theorem note_ofReport (between : List String) :
    (Overview.ofReport report between).note =
      if report.findings.length - displayLimit = 0 then []
      else ["", "...and " ++ toString (report.findings.length - displayLimit)
        ++ " more findings."] := by
  by_cases more : displayLimit < report.findings.length
  · have remaining : report.findings.length - displayLimit ≠ 0 := by omega
    simp [Overview.note, Overview.ofReport, more, remaining]
  · have none : report.findings.length - displayLimit = 0 := by omega
    simp [Overview.note, Overview.ofReport, more, none]

/-- The table of the findings of a short report. -/
theorem findingLines_toJson (short : Json.Short report.toJson) (between : List String) :
    findingLines (.array (report.sortedFindings.map Finding.toJson)) =
      .ok (Overview.ofReport report between).table := by
  have rows : ((report.sortedFindings.map Finding.toJson).take displayLimit).mapM findingRow =
      .ok ((report.sortedFindings.take displayLimit).map rowOf) := by
    rw [← List.map_take, List.mapM_map]
    exact mapM_ok fun finding listed =>
      findingRow_toJson (short_of_mem short (List.mem_of_mem_take listed))
  have total : (report.sortedFindings.map Finding.toJson).length = report.findings.length := by
    rw [List.length_map, report.sortedFindings_perm.length_eq]
  have vacant : (Json.array (report.sortedFindings.map Finding.toJson)).isVacant =
      (report.sortedFindings.take displayLimit).isEmpty := by
    cases report.sortedFindings <;> rfl
  rw [findingLines, vacant, Overview.table, note_ofReport]
  change _ = Except.ok (if (report.sortedFindings.take displayLimit).isEmpty then _ else _)
  split
  · rfl
  · simp only [listed, bind, Except.bind, rows, total]
    rfl

/-- The summary of a short report is its overview, with some lines in the middle that are joined
like the others. -/
theorem summaryText_toJson (short : Json.Short report.toJson) :
    ∃ between : List String, summaryText report.toJson =
      .ok ("\n".intercalate (Overview.ofReport report between).lines) := by
  have summary := short_summaryOf short
  have counted : Json.Short (.object (report.pillarCounts.map fun entry =>
      (entry.1.name, .int entry.2))) := summary.member "by_pillar"
  have noted : Json.Short (.object report.metadata) := Json.Short.member short "metadata"
  have lapsed : Json.Short (.array (report.expiredTexts.map .string)) :=
    summary.member "expired_suppressions"
  obtain ⟨pillars, pillarsRead⟩ := pillarLines_object counted
  obtain ⟨metadata, metadataRead⟩ := metadataLines_object noted
  obtain ⟨expired, expiredRead⟩ := expiredLines_array lapsed
  refine ⟨pillars ++ metadata ++ expired, ?_⟩
  have steps : summaryText report.toJson = (do
      let head ← headLines (summaryOf report)
      let severities ← Severity.all.mapM fun severity => do
        severityRow (← members (orElse (.object (countsOf report)) (.object []))) severity
      let pillars ← pillarLines (.object
        (report.pillarCounts.map fun entry => (entry.1.name, .int entry.2)))
      let metadata ← metadataLines (.object report.metadata)
      let expired ← expiredLines (.array (report.expiredTexts.map .string))
      let findings ← findingLines (.array (report.sortedFindings.map Finding.toJson))
      .ok ("\n".intercalate
        (head ++ severities ++ pillars ++ metadata ++ expired ++ findings ++ [""]))) :=
    rfl
  have rows : (Severity.all.mapM fun severity => do
      severityRow (← members (.object (countsOf report))) severity) =
      .ok (report.severityCounts.map Overview.countRow) :=
    severityRows_countsOf short
  rw [steps, headLines_summaryOf short (pillars ++ metadata ++ expired), orElse_object, rows,
    pillarsRead, metadataRead, expiredRead,
    findingLines_toJson short (pillars ++ metadata ++ expired)]
  simp only [bind, Except.bind, Overview.lines, Overview.ofReport, List.append_assoc]

end

/-- The row of a finding is one line. -/
theorem isLine_rowOf (finding : Finding) : IsLine (rowOf finding) := by
  have place : IsLine (cellForPlace (placeWords finding)) := by
    unfold cellForPlace
    split
    · decide
    · exact isLine_cellText _
  simp +decide [rowOf, rowWith, place]

/-- Texts of one line each are their lines. -/
theorem flatMap_splitAt {texts : List String} (lines : ∀ text ∈ texts, IsLine text) :
    texts.flatMap (Text.splitAt '\n') = texts := by
  have alone : texts.flatMap (Text.splitAt '\n') = texts.flatMap fun text => [text] :=
    List.flatMap_congr fun text member => Text.splitAt_of_not_mem (lines text member)
  rw [alone, List.flatMap_singleton']

namespace Overview

variable (overview : Overview)

/-- The numbers in front are one line each. -/
theorem isLine_head : ∀ line ∈ overview.head, IsLine line := by
  have highest : IsLine ((overview.highest.map Severity.title).getD "None") := by
    cases overview.highest with
    | none => decide
    | some severity => exact isLine_title severity
  simp +decide [head, highest]

/-- The rows for the counts are one line each. -/
theorem isLine_counts : ∀ line ∈ overview.counts.map countRow, IsLine line := by
  intro line member
  obtain ⟨entry, _, rfl⟩ := List.mem_map.mp member
  simp +decide [countRow]

/-- The rows of the table and what stands around them are one line each. -/
theorem isLine_table : ∀ line ∈ overview.table, IsLine line := by
  have note : ∀ line ∈ overview.note, IsLine line := by
    unfold note
    cases overview.omitted with
    | none => simp
    | some omitted => simp +decide
  unfold table
  split
  · simp
  · intro line member
    simp only [List.mem_append, List.mem_map] at member
    rcases member with (fixed | ⟨finding, _, rfl⟩) | noted
    · exact (by decide : ∀ line ∈ _, IsLine line) line fixed
    · exact isLine_rowOf finding
    · exact note line noted

/-- An overview is read line by line; only the lines in the middle may be split further. -/
theorem splitAt_lines :
    Text.splitAt '\n' ("\n".intercalate overview.lines) =
      { overview with between := overview.between.flatMap (Text.splitAt '\n') }.lines := by
  have nonempty : overview.lines ≠ [] := by simp [lines]
  have last : [""].flatMap (Text.splitAt '\n') = [""] := flatMap_splitAt (by decide)
  rw [Text.splitAt_intercalate nonempty]
  simp only [lines, List.flatMap_append, flatMap_splitAt overview.isLine_head,
    flatMap_splitAt overview.isLine_counts, flatMap_splitAt overview.isLine_table, last]
  rfl

end Overview

/-- What is published agrees with the report, whose JSON a text carried unchanged. There is one
annotation for each finding, in the order of the report and in one line, and it announces its
finding. There is a summary, and read line by line it is an overview that agrees with the report. -/
theorem report_agrees {report : Report} {text : List Char}
    (carried : Json.read text = .ok report.toJson) :
    report.sortedFindings.Perm report.findings ∧
    (∃ lines, annotations report.toJson = .ok lines ∧
      List.Forall₂ (fun finding line => (∀ c ∈ line.toList, c ≠ '\n' ∧ c ≠ '\r') ∧
        ∃ command, read? line = some command ∧ Announces finding command)
        report.sortedFindings lines) ∧
    ∃ summary overview, summaryText report.toJson = .ok summary ∧
      Text.splitAt '\n' summary = Overview.lines overview ∧ overview.Agrees report := by
  have short := Json.short_of_read carried
  refine ⟨report.sortedFindings_perm, ⟨_, annotations_toJson short, ?_⟩, ?_⟩
  · rw [List.forall₂_map_right_iff, List.forall₂_same]
    intro finding _
    obtain ⟨oneLine, read⟩ := lineFor_read (membersOf finding)
    rw [severityOf_membersOf] at read
    exact ⟨oneLine, _, read, announces_said finding⟩
  · obtain ⟨between, written⟩ := summaryText_toJson short
    exact ⟨_, .ofReport report (between.flatMap (Text.splitAt '\n')), written,
      Overview.splitAt_lines _, Overview.ofReport_agrees report _⟩

/-- A finding of a severity at a place. -/
def findingAt (severity : Severity) (file : String) (line : Int) : Finding where
  ruleId := "R-1"
  ruleName := "Rule"
  severity := severity
  pillar := .security
  resource := "t.n"
  file := file
  line := line
  description := "a|b"
  remediation := ""
  docUrl := none

/-- A report with eleven findings of a plan and a graver one of a file behind them. -/
def busyReport : Report where
  findings := List.replicate 11 (findingAt .low "tfplan" 5) ++ [findingAt .critical " main.tf" 7]
  metadata := [("files", .int 3)]
  totalResources := 40

/-- The graver finding is announced first, as an error at its place, and those of the plan without a
place as notices. The summary counts one finding and eleven, and its table lacks two. -/
theorem busy_report_agrees :
    Json.read busyReport.toJson.layOut.toList = .ok busyReport.toJson ∧
    (∃ first second others, annotations busyReport.toJson = .ok (first :: second :: others) ∧
      others.length = 10 ∧
      (∃ command, read? first = some command ∧ command.level = "error" ∧
        command.properties.lookup "file" = some "main.tf" ∧
        command.properties.lookup "line" = some "7") ∧
      ∃ command, read? second = some command ∧ command.level = "notice" ∧
        command.properties.lookup "file" = none ∧ command.properties.lookup "line" = none) ∧
    ∃ summary overview, summaryText busyReport.toJson = .ok summary ∧
      Text.splitAt '\n' summary = Overview.lines overview ∧ overview.total = 12 ∧
      overview.highest = some .critical ∧
      overview.counts = [(.critical, 1), (.high, 0), (.medium, 0), (.low, 11), (.info, 0)] ∧
      overview.shown.map rowOf =
        "| Critical | \x60R-1\x60 | \x60t.n\x60 | main.tf:7 | a\\|b |" ::
          List.replicate 9 "| Low | \x60R-1\x60 | \x60t.n\x60 | plan | a\\|b |" ∧
      overview.omitted = some 2 := by
  have sorted : busyReport.sortedFindings =
      findingAt .critical " main.tf" 7 :: List.replicate 11 (findingAt .low "tfplan" 5) := by
    refine List.Perm.eq_of_pairwise (fun left right own other before after => ?_)
      busyReport.sortedFindings_pairwise (by decide)
      (busyReport.sortedFindings_perm.trans List.perm_append_comm)
    have either : ∀ finding ∈ busyReport.findings,
        finding = findingAt .critical " main.tf" 7 ∨ finding = findingAt .low "tfplan" 5 := by
      decide
    rcases either left (busyReport.sortedFindings_perm.mem_iff.mp own) with rfl | rfl <;>
      rcases either right (List.perm_append_comm.mem_iff.mp other) with rfl | rfl
    · rfl
    · cases after
    · cases before
    · rfl
  have short : Json.Short busyReport.toJson := by
    rw [← Json.isLong_display, Report.toJson, sorted]
    decide +kernel
  have once : busyReport.KeyedOnce := ⟨by simp [busyReport], List.forall_mem_nil _⟩
  have carried := Report.read_toJson once short
  obtain ⟨_, ⟨lines, made, announced⟩, summary, overview, written, laidOut, agrees⟩ :=
    report_agrees carried
  rw [sorted] at announced
  cases announced with
  | @cons _ first _ lines own announced =>
    cases announced with
    | @cons _ second _ others next behind =>
      obtain ⟨_, command, read, announces⟩ := own
      obtain ⟨_, other, readOther, announcesOther⟩ := next
      refine ⟨carried, ⟨first, second, others, made, behind.length_eq.symm, ?_, ?_⟩, ?_⟩
      · exact ⟨command, read, announces.level, announces.file, announces.line⟩
      · exact ⟨other, readOther, announcesOther.level, announcesOther.file, announcesOther.line⟩
      · refine ⟨summary, overview, written, laidOut, agrees.total, ?_, agrees.counts, ?_,
          agrees.omitted⟩
        · rw [agrees.highest, sorted]
          rfl
        · rw [agrees.shown, sorted]
          decide +kernel

end InfraReview.GitHub
