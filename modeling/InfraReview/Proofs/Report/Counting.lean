import Mathlib.Algebra.BigOperators.Group.List.Basic
import Mathlib.Algebra.Ring.Nat
import Mathlib.Data.List.Nodup
import InfraReview.Report.Basic

/-!
# Counted findings

Findings are counted one after the other, in a table that has a place for every kind from the
beginning. Each finding adds one in the place of its kind, so in the end each place has the number
of findings of its kind, and all places together have the number of findings.

The most serious finding is found in the same way, one after the other.
-/

namespace InfraReview

/-- Severities of one rank are the same. -/
theorem Severity.rank_injective : Function.Injective rank := by
  intro left right same
  cases left <;> cases right <;> first | rfl | cases same

/-- Every severity is one of all. -/
theorem Severity.mem_all (severity : Severity) : severity ∈ all := by
  cases severity <;> decide

/-- Every pillar is one of all. -/
theorem Pillar.mem_all (pillar : Pillar) : pillar ∈ all := by
  cases pillar <;> decide

namespace Report

section

variable {κ : Type} [DecidableEq κ] (kinds : List κ) (kindOf : Finding → κ)

/-- One more in a table of counts. -/
theorem tally_map (count : κ → Nat) (kind : κ) :
    tally (kinds.map fun other => (other, count other)) kind =
      kinds.map fun other => (other, count other + if kind = other then 1 else 0) := by
  rw [tally, List.map_map]
  apply List.map_congr_left
  intro other _
  by_cases same : other = kind
  · simp [same]
  · simp [same, Ne.symm same]

/-- Findings are counted on top of what a table has already. -/
theorem foldl_tally (findings : List Finding) (count : κ → Nat) :
    findings.foldl (fun counts finding => tally counts (kindOf finding))
        (kinds.map fun kind => (kind, count kind)) =
      kinds.map fun kind =>
        (kind, count kind + findings.countP fun finding => kindOf finding = kind) := by
  induction findings generalizing count with
  | nil => rfl
  | cons finding findings inductionHypothesis =>
    rw [List.foldl_cons, tally_map, inductionHypothesis]
    simp only [List.countP_cons, decide_eq_true_eq, Nat.add_assoc,
      Nat.add_comm (List.countP _ findings)]

/-- Each kind is counted as often as it occurs. -/
theorem countsBy_eq (findings : List Finding) :
    countsBy kinds kindOf findings =
      kinds.map fun kind => (kind, findings.countP fun finding => kindOf finding = kind) := by
  simpa [countsBy] using foldl_tally kinds kindOf findings fun _ => 0

/-- A table of counts has the kinds that it started with. -/
theorem countsBy_kinds (findings : List Finding) :
    (countsBy kinds kindOf findings).map Prod.fst = kinds := by
  simp [countsBy_eq, Function.comp_def]

omit kindOf in
/-- One in each place of a kind makes the number of such places. -/
theorem sum_places (kind : κ) :
    (kinds.map fun other => if kind = other then 1 else 0).sum = kinds.count kind := by
  induction kinds with
  | nil => rfl
  | cons other others inductionHypothesis =>
    rw [List.map_cons, List.sum_cons, inductionHypothesis, List.count_cons, Nat.add_comm]
    simp only [beq_iff_eq, eq_comm (a := kind)]

/-- The counts add up to the number of findings when each finding is of one of the kinds. -/
theorem sum_countsBy (distinct : kinds.Nodup) (listed : ∀ kind, kind ∈ kinds)
    (findings : List Finding) :
    ((countsBy kinds kindOf findings).map Prod.snd).sum = findings.length := by
  rw [countsBy_eq, List.map_map]
  induction findings with
  | nil => simp [Function.comp_def]
  | cons finding findings inductionHypothesis =>
    have once := List.count_eq_one_of_mem distinct (listed (kindOf finding))
    simp only [Function.comp_def, List.countP_cons, decide_eq_true_eq] at inductionHypothesis ⊢
    rw [List.sum_map_add, inductionHypothesis, sum_places, once, List.length_cons]

omit [DecidableEq κ] in
/-- Counts of zero add nothing. -/
theorem sum_occurring (counts : List (κ × Nat)) :
    ((counts.filter fun entry => entry.2 != 0).map Prod.snd).sum = (counts.map Prod.snd).sum := by
  rw [← List.sum_filter_bne_zero (counts.map Prod.snd), List.filter_map]
  rfl

end

/-- Each severity is counted once. -/
theorem nodup_severityCounts (report : Report) : (report.severityCounts.map Prod.fst).Nodup := by
  rw [severityCounts, countsBy_kinds]
  decide

/-- Each pillar that occurs is counted once. -/
theorem nodup_pillarCounts (report : Report) : (report.pillarCounts.map Prod.fst).Nodup := by
  have some : (report.pillarCounts.map Prod.fst).Sublist Pillar.all := by
    rw [← countsBy_kinds Pillar.all (fun finding => finding.pillar) report.findings]
    exact List.filter_sublist.map Prod.fst
  exact some.nodup (by decide)

/-- The most serious one of some findings is one of them, and none is more serious. -/
theorem gravest_cons (first : Finding) (others : List Finding) :
    ∃ gravest ∈ first :: others, gravest? (first :: others) = some gravest ∧
      ∀ finding ∈ first :: others, finding.severity.rank ≤ gravest.severity.rank := by
  induction others generalizing first with
  | nil => exact ⟨first, by simp, rfl, by simp⟩
  | cons second others inductionHypothesis =>
    rw [gravest?, List.foldl_cons]
    split
    · rename_i more
      obtain ⟨gravest, member, found, most⟩ := inductionHypothesis second
      refine ⟨gravest, List.mem_cons_of_mem _ member, found, ?_⟩
      have above := most second List.mem_cons_self
      exact List.forall_mem_cons.mpr ⟨by omega, most⟩
    · rename_i less
      obtain ⟨gravest, member, found, most⟩ := inductionHypothesis first
      obtain ⟨above, behind⟩ := List.forall_mem_cons.mp most
      refine ⟨gravest, ?_, found, ?_⟩
      · rcases List.mem_cons.mp member with rfl | later
        · exact List.mem_cons_self
        · exact List.mem_cons_of_mem _ (List.mem_cons_of_mem _ later)
      · exact List.forall_mem_cons.mpr ⟨above, List.forall_mem_cons.mpr ⟨by omega, behind⟩⟩

/-- The highest severity of a report is that of a finding, and no finding is more serious. -/
theorem highestSeverity_eq_some_iff (report : Report) (highest : Severity) :
    report.highestSeverity = some highest ↔
      (∃ finding ∈ report.findings, finding.severity = highest) ∧
        ∀ finding ∈ report.findings, finding.severity.rank ≤ highest.rank := by
  cases given : report.findings with
  | nil => simp [highestSeverity, given, gravest?]
  | cons first others =>
    obtain ⟨gravest, member, found, most⟩ := gravest_cons first others
    have known : report.highestSeverity = some gravest.severity := by
      rw [highestSeverity, given, found]
      rfl
    rw [known, Option.some.injEq]
    constructor
    · rintro rfl
      exact ⟨⟨gravest, member, rfl⟩, most⟩
    · rintro ⟨⟨finding, listed, rfl⟩, above⟩
      exact Severity.rank_injective (Nat.le_antisymm (above gravest member) (most finding listed))

end Report

end InfraReview
