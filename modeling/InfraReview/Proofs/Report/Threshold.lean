import InfraReview.Proofs.Report.Counting
import InfraReview.Report.Outcome

/-!
# Thresholds

A threshold is given as a word: one for any finding, one for none, and one for each severity.
What the words stand for is stated here by cases, while the code for it goes by ranks and puts
the lowest severity together with the word for any. Both decide alike, and so does the most
serious finding on behalf of all others.

Thresholds have an order, from the one that any finding reaches to the one that none does. A
finding that reaches a threshold reaches every lower one.
-/

namespace InfraReview

/-- What findings have to reach. -/
inductive Threshold where
  | any
  | none
  | level (severity : Severity)
  deriving DecidableEq, Repr

namespace Threshold

/-- The word for a threshold. -/
def word : Threshold → String
  | any => Report.failOnAny
  | none => Report.failOnNone
  | level severity => Text.lower severity.name

/-- A severity reaches a threshold: every one does for any, no one for none, and for a severity
those that are at least as serious. -/
def Reached : Threshold → Severity → Prop
  | any, _ => True
  | none, _ => False
  | level least, severity => least.rank ≤ severity.rank

/-- The height of a threshold. Any is below all severities, and none above them. -/
def height : Threshold → Nat
  | any => 0
  | none => Severity.critical.rank + 1
  | level severity => severity.rank

/-- The words for thresholds are those that an analysis knows. -/
theorem mem_thresholds_iff (text : String) :
    text ∈ Report.thresholds ↔ ∃ threshold : Threshold, threshold.word = text := by
  constructor
  · intro known
    simp only [Report.thresholds, Severity.all, List.map_cons, List.map_nil, List.mem_cons,
      List.not_mem_nil, or_false] at known
    rcases known with rfl | rfl | rfl | rfl | rfl | rfl | rfl
    · exact ⟨any, rfl⟩
    · exact ⟨none, rfl⟩
    all_goals exact ⟨level _, rfl⟩
  · rintro ⟨threshold, rfl⟩
    rcases threshold with _ | _ | severity
    · exact List.mem_cons_self
    · exact List.mem_cons_of_mem _ List.mem_cons_self
    · refine List.mem_cons_of_mem _ (List.mem_cons_of_mem _ (List.mem_map_of_mem ?_))
      cases severity <;> decide

/-- A severity reaches the thresholds up to its rank. -/
theorem reached_iff_height (threshold : Threshold) (severity : Severity) :
    threshold.Reached severity ↔ threshold.height ≤ severity.rank := by
  cases threshold with
  | any => simp [Reached, height]
  | none => cases severity <;> simp [Reached, height, Severity.rank]
  | level least => rfl

/-- A severity that reaches a threshold reaches every lower one. -/
theorem Reached.lower {threshold other : Threshold} {severity : Severity}
    (reached : other.Reached severity) (below : threshold.height ≤ other.height) :
    threshold.Reached severity := by
  rw [reached_iff_height] at reached ⊢
  exact Nat.le_trans below reached

/-- A more serious finding reaches what a less serious one reaches. -/
theorem Reached.raise {threshold : Threshold} {severity other : Severity}
    (reached : threshold.Reached severity) (raised : severity.rank ≤ other.rank) :
    threshold.Reached other := by
  rw [reached_iff_height] at reached ⊢
  exact Nat.le_trans reached raised

end Threshold

namespace Report

/-- The word for the lowest severity lets any finding fail, and that is what its rank comes to
as well. -/
theorem shouldFail_info (findings : List Finding) :
    shouldFail findings (Threshold.level .info).word =
      findings.any fun finding => Severity.info.rank ≤ finding.severity.rank := by
  have filled : shouldFail findings (Threshold.level .info).word = !findings.isEmpty := rfl
  have lowest (finding : Finding) : Severity.info.rank ≤ finding.severity.rank := by
    cases finding.severity <;> decide
  rw [filled]
  cases findings with
  | nil => rfl
  | cons finding findings => simp [lowest]

/-- Findings fail under the word for a threshold when one of them reaches it. -/
theorem shouldFail_iff (findings : List Finding) (threshold : Threshold) :
    shouldFail findings threshold.word = true ↔
      ∃ finding ∈ findings, threshold.Reached finding.severity := by
  cases threshold with
  | any =>
    have filled : shouldFail findings Threshold.any.word = !findings.isEmpty := rfl
    cases findings <;> simp [filled, Threshold.Reached]
  | none =>
    have never : shouldFail findings Threshold.none.word = false := rfl
    simp [never, Threshold.Reached]
  | level least =>
    have ranked : shouldFail findings (Threshold.level least).word =
        findings.any fun finding => least.rank ≤ finding.severity.rank := by
      cases least with
      | info => exact shouldFail_info findings
      | _ => rfl
    simp [ranked, Threshold.Reached]

/-- A report with findings has a highest severity. -/
theorem exists_highestSeverity {report : Report} {finding : Finding}
    (kept : finding ∈ report.findings) : ∃ highest, report.highestSeverity = some highest := by
  cases given : report.findings with
  | nil => simp [given] at kept
  | cons first others =>
    obtain ⟨gravest, _, found, _⟩ := gravest_cons first others
    exact ⟨gravest.severity, by rw [highestSeverity, given, found]; rfl⟩

/-- Some finding of a report reaches a threshold exactly when its highest severity does. -/
theorem reached_iff_highest (report : Report) (threshold : Threshold) :
    (∃ finding ∈ report.findings, threshold.Reached finding.severity) ↔
      ∃ highest, report.highestSeverity = some highest ∧ threshold.Reached highest := by
  constructor
  · rintro ⟨finding, kept, reached⟩
    obtain ⟨highest, found⟩ := exists_highestSeverity kept
    have gravest := ((highestSeverity_eq_some_iff _ _).mp found).2
    exact ⟨highest, found, reached.raise (gravest finding kept)⟩
  · rintro ⟨highest, found, reached⟩
    obtain ⟨⟨finding, kept, rfl⟩, _⟩ := (highestSeverity_eq_some_iff _ _).mp found
    exact ⟨finding, kept, reached⟩

end Report

end InfraReview
