import InfraReview.Proofs.Report.Order

/-!
# The summary of a report

As JSON, a report has an array of its findings and a summary with numbers about them. What such a
document says is read from its members, and it is consistent when every number can be found again
by counting the entries of the array, and the highest severity by looking at the first one.

The array has the findings in the order of the report. The order is stable: findings of one severity
and one rule come as they were given. So the array is a matter of the findings alone.
-/

namespace InfraReview

/-- What a document says about findings: its array of them, and from its summary their number, their
numbers by severity and by pillar, and the highest severity. -/
structure Digest where
  entries : List Json
  total : Nat
  counts : List (String × Nat)
  pillars : List (String × Nat)
  highest : Option Severity

/-- Numbers under names, as members. -/
def numberMembers (numbers : List (String × Nat)) : List (String × Json) :=
  numbers.map fun (name, number) => (name, .int number)

/-- The text that an entry has under a name, if there is one. -/
def textAt? (name : String) : Json → Option String
  | .object members =>
    match Json.member members name with
    | .string text => some text
    | _ => none
  | _ => none

/-- The number of entries that have a text under a name. -/
def occurrences (name text : String) (entries : List Json) : Nat :=
  entries.countP fun entry => textAt? name entry = some text

/-- Findings in the order of a report: the most serious ones first, and those of one severity by
their rules. Findings of one severity and one rule come as they were given. -/
structure Ordered (findings sorted : List Finding) : Prop where
  perm : sorted.Perm findings
  falling : sorted.Pairwise fun left right => right.severity.rank < left.severity.rank ∨
    left.severity.rank = right.severity.rank ∧ left.ruleId ≤ right.ruleId
  stable : ∀ (severity : Severity) (ruleId : String),
    (sorted.filter fun finding => finding.severity = severity ∧ finding.ruleId = ruleId) =
      findings.filter fun finding => finding.severity = severity ∧ finding.ruleId = ruleId

namespace Digest

/-- A document says what its members hold. -/
inductive Read : Json → Digest → Prop where
  | members {digest : Digest} {parts summary : List (String × Json)}
      (entries : Json.member parts "findings" = .array digest.entries)
      (summarized : Json.member parts "summary" = .object summary)
      (total : Json.member summary "total_findings" = .int digest.total)
      (counts : Json.member summary "counts" = .object (numberMembers digest.counts))
      (pillars : Json.member summary "by_pillar" = .object (numberMembers digest.pillars))
      (highest : Json.member summary "highest_severity" =
        (digest.highest.map fun severity => Json.string severity.name).getD .null) :
      Read (.object parts) digest

/-- A document is consistent about findings. Its array has them in the order of a report. The number
of all entries is the sum of the counts, of which there is one for each severity, and the sum of the
counts by pillar, of which there is one for each pillar that occurs; and each count is the number of
entries that it is about. The highest severity is missing when there are no entries, and else it is
that of the first one, and no entry is more serious. -/
structure Consistent (digest : Digest) (findings : List Finding) : Prop where
  listed : ∃ sorted, Ordered findings sorted ∧ digest.entries = sorted.map Finding.toJson
  total : digest.total = digest.entries.length
  severities : digest.counts.map Prod.fst = ["CRITICAL", "HIGH", "MEDIUM", "LOW", "INFO"]
  counts : ∀ entry ∈ digest.counts, entry.2 = occurrences "severity" entry.1 digest.entries
  countsSum : (digest.counts.map Prod.snd).sum = digest.entries.length
  occurring : ∀ name, name ∈ digest.pillars.map Prod.fst ↔
    ∃ entry ∈ digest.entries, textAt? "pillar" entry = some name
  pillarsOnce : (digest.pillars.map Prod.fst).Nodup
  pillars : ∀ entry ∈ digest.pillars, entry.2 = occurrences "pillar" entry.1 digest.entries
  pillarsSum : (digest.pillars.map Prod.snd).sum = digest.entries.length
  missing : digest.highest = none ↔ digest.entries = []
  first : ∀ entry ∈ digest.entries.head?,
    textAt? "severity" entry = digest.highest.map Severity.name
  gravest : ∀ highest ∈ digest.highest, ∀ entry ∈ digest.entries, ∃ severity : Severity,
    textAt? "severity" entry = some severity.name ∧ severity.rank ≤ highest.rank

end Digest

/-- The names of severities are different. -/
theorem Severity.name_injective : Function.Injective name := by
  intro left right same
  cases left <;> cases right <;> first | rfl | exact absurd same (by decide)

/-- The names of pillars are different. -/
theorem Pillar.name_injective : Function.Injective name := by
  intro left right same
  cases left <;> cases right <;> first | rfl | exact absurd same (by decide)

/-- The severity of a finding is read from its entry. -/
theorem textAt_severity (finding : Finding) :
    textAt? "severity" finding.toJson = some finding.severity.name :=
  rfl

/-- The pillar of a finding is read from its entry. -/
theorem textAt_pillar (finding : Finding) :
    textAt? "pillar" finding.toJson = some finding.pillar.name :=
  rfl

/-- Items that are alike come out of a stable sort as they went in. Proof: they are in order as they
stand, so sorting leaves them so, and it leaves all of them. -/
theorem filter_mergeSort {α : Type} {before : α → α → Bool}
    (trans : ∀ first second third, before first second = true → before second third = true →
      before first third = true)
    (total : ∀ left right, (before left right || before right left) = true) {alike : α → Bool}
    (same : ∀ left right, alike left = true → alike right = true → before left right = true)
    (items : List α) : (items.mergeSort before).filter alike = items.filter alike := by
  have inOrder : (items.filter alike).Pairwise fun left right => before left right = true := by
    refine List.pairwise_of_forall_mem_list fun left first right second => ?_
    exact same left right (List.mem_filter.mp first).2 (List.mem_filter.mp second).2
  have kept := (List.sublist_mergeSort trans total inOrder List.filter_sublist).filter alike
  rw [List.filter_filter] at kept
  simp only [Bool.and_self] at kept
  have all := ((List.mergeSort_perm items before).filter alike).length_eq
  exact (kept.eq_of_length all.symm).symm

namespace Report

section

variable {κ : Type} [DecidableEq κ] {name : κ → String} (injective : Function.Injective name)
  {kindOf : Finding → κ} {key : String}
  (written : ∀ finding : Finding, textAt? key finding.toJson = some (name (kindOf finding)))

include injective written in
/-- The findings of a kind are the entries that name it. -/
theorem occurrences_toJson (kind : κ) (findings : List Finding) :
    occurrences key (name kind) (findings.map Finding.toJson) =
      findings.countP fun finding => kindOf finding = kind := by
  rw [occurrences, List.countP_map]
  refine List.countP_congr fun finding _ => ?_
  simp [written, injective.eq_iff]

include injective written in
/-- A count of findings is the number of entries that name its kind, in whatever order these come.
-/
theorem count_eq_occurrences {kinds : List κ} {findings sorted : List Finding}
    (same : sorted.Perm findings) {entry : κ × Nat}
    (counted : entry ∈ countsBy kinds kindOf findings) :
    entry.2 = occurrences key (name entry.1) (sorted.map Finding.toJson) := by
  rw [countsBy_eq] at counted
  obtain ⟨kind, _, rfl⟩ := List.mem_map.mp counted
  rw [occurrences_toJson injective written, same.countP_eq]

end

variable (report : Report)

/-- A report shows its findings in its order. -/
theorem sortedFindings_ordered : Ordered report.findings report.sortedFindings where
  perm := report.sortedFindings_perm
  falling := report.sortedFindings_pairwise.imp fun before => (precedes_iff _ _).mp before
  stable severity ruleId := by
    refine filter_mergeSort precedes_trans precedes_total (fun left right first second => ?_) _
    obtain ⟨rfl, rfl⟩ := of_decide_eq_true first
    obtain ⟨severity, ruleId⟩ := of_decide_eq_true second
    rw [precedes_iff, severity, ruleId]
    exact .inr ⟨rfl, String.le_refl _⟩

/-- The pillars that are counted are those that occur. -/
theorem mem_pillarCounts (pillar : Pillar) :
    pillar ∈ report.pillarCounts.map Prod.fst ↔
      ∃ finding ∈ report.findings, finding.pillar = pillar := by
  simp [pillarCounts, countsBy_eq, Pillar.mem_all, List.countP_eq_zero]

/-- Counts under the names of what they are about. -/
def named {κ : Type} (name : κ → String) (counts : List (κ × Nat)) : List (String × Nat) :=
  counts.map fun (kind, count) => (name kind, count)

/-- What a report says as JSON. -/
def digest : Digest where
  entries := report.sortedFindings.map Finding.toJson
  total := report.findings.length
  counts := named Severity.name report.severityCounts
  pillars := named Pillar.name report.pillarCounts
  highest := report.highestSeverity

/-- Counts under their names are about the same kinds. -/
theorem named_kinds {κ : Type} (name : κ → String) (counts : List (κ × Nat)) :
    (named name counts).map Prod.fst = (counts.map Prod.fst).map name := by
  simp [named]

/-- Counts under their names are the same numbers. -/
theorem named_numbers {κ : Type} (name : κ → String) (counts : List (κ × Nat)) :
    (named name counts).map Prod.snd = counts.map Prod.snd := by
  simp [named]

/-- What a report says as JSON is its digest. -/
theorem read_digest : Digest.Read report.toJson report.digest := by
  constructor
  case entries => rfl
  case summarized => rfl
  case total => rfl
  case highest => rfl
  case counts =>
    refine congrArg Json.object ?_
    simp [digest, named, numberMembers]
  case pillars =>
    refine congrArg Json.object ?_
    simp [digest, named, numberMembers]

/-- A report agrees with its digest. -/
theorem digest_consistent : report.digest.Consistent report.findings where
  listed := ⟨report.sortedFindings, report.sortedFindings_ordered, rfl⟩
  total := by simp [digest, report.sortedFindings_perm.length_eq]
  severities := by
    rw [digest, named_kinds, severityCounts, countsBy_kinds]
    rfl
  counts := by
    intro entry counted
    obtain ⟨count, listed, rfl⟩ := List.mem_map.mp counted
    exact count_eq_occurrences Severity.name_injective textAt_severity report.sortedFindings_perm
      listed
  countsSum := by
    rw [digest, named_numbers, List.length_map, report.sortedFindings_perm.length_eq]
    exact sum_countsBy Severity.all _ (by decide) Severity.mem_all report.findings
  occurring := by
    intro name
    have kept (finding : Finding) : finding ∈ report.sortedFindings ↔ finding ∈ report.findings :=
      report.sortedFindings_perm.mem_iff
    rw [digest, named_kinds, List.mem_map]
    constructor
    · rintro ⟨pillar, occurs, rfl⟩
      obtain ⟨finding, given, rfl⟩ := (report.mem_pillarCounts pillar).mp occurs
      exact ⟨finding.toJson, List.mem_map_of_mem ((kept finding).mpr given), textAt_pillar finding⟩
    · rintro ⟨entry, member, text⟩
      obtain ⟨finding, shown, rfl⟩ := List.mem_map.mp member
      have given := (kept finding).mp shown
      exact ⟨finding.pillar, (report.mem_pillarCounts _).mpr ⟨finding, given, rfl⟩,
        Option.some.inj text⟩
  pillarsOnce := by
    rw [digest, named_kinds]
    exact report.nodup_pillarCounts.map Pillar.name_injective
  pillars := by
    intro entry counted
    obtain ⟨count, listed, rfl⟩ := List.mem_map.mp counted
    exact count_eq_occurrences Pillar.name_injective textAt_pillar report.sortedFindings_perm
      (List.mem_filter.mp listed).1
  pillarsSum := by
    rw [digest, named_numbers, List.length_map, report.sortedFindings_perm.length_eq, pillarCounts,
      sum_occurring]
    exact sum_countsBy Pillar.all _ (by decide) Pillar.mem_all report.findings
  missing := by
    rw [digest, highestSeverity_eq_head]
    simp
  first := by
    intro entry given
    rw [Option.mem_def, digest, List.head?_map] at given
    obtain ⟨finding, shown, rfl⟩ := Option.map_eq_some_iff.mp given
    rw [digest, highestSeverity_eq_head, shown]
    rfl
  gravest := by
    intro highest found entry listed
    obtain ⟨finding, kept, rfl⟩ := List.mem_map.mp listed
    refine ⟨finding.severity, textAt_severity finding, ?_⟩
    exact ((highestSeverity_eq_some_iff report highest).mp found).2 finding
      (report.sortedFindings_perm.mem_iff.mp kept)

/-- The summary of a report is consistent with its findings. As JSON, a report has members that can
be read, and what they say is what the findings say. -/
theorem summary_consistent :
    ∃ digest, Digest.Read report.toJson digest ∧ digest.Consistent report.findings :=
  ⟨report.digest, report.read_digest, report.digest_consistent⟩

end Report

end InfraReview
