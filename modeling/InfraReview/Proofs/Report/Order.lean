import InfraReview.Proofs.Report.Threshold

/-!
# The order of a report

A report shows its findings from the most serious one on, and those of one severity by their rules.
So its first finding has its highest severity, and wherever the findings are cut, none of those
behind the cut is more serious than one before it.
-/

namespace InfraReview

namespace Report

/-- A finding stands before others by its severity first. -/
theorem precedes_iff (left right : Finding) :
    precedes left right = true ↔ right.severity.rank < left.severity.rank ∨
      left.severity.rank = right.severity.rank ∧ left.ruleId ≤ right.ruleId := by
  simp [precedes]

/-- The order of findings carries over. -/
theorem precedes_trans (first second third : Finding) (before : precedes first second = true)
    (after : precedes second third = true) : precedes first third = true := by
  rw [precedes_iff] at before after ⊢
  rcases before with more | ⟨same, earlier⟩
  · rcases after with other | ⟨same, _⟩
    · exact .inl (Nat.lt_trans other more)
    · exact .inl (same ▸ more)
  · rcases after with more | ⟨equal, later⟩
    · exact .inl (same ▸ more)
    · exact .inr ⟨same.trans equal, String.le_trans earlier later⟩

/-- Of two findings, one stands before the other. -/
theorem precedes_total (left right : Finding) :
    (precedes left right || precedes right left) = true := by
  rw [Bool.or_eq_true, precedes_iff, precedes_iff]
  rcases Nat.lt_trichotomy left.severity.rank right.severity.rank with less | same | more
  · exact .inr (.inl less)
  · rcases String.le_total left.ruleId right.ruleId with earlier | later
    · exact .inl (.inr ⟨same, earlier⟩)
    · exact .inr (.inr ⟨same.symm, later⟩)
  · exact .inl (.inl more)

/-- A report shows its findings, each as often as it has it. -/
theorem sortedFindings_perm (report : Report) : report.sortedFindings.Perm report.findings :=
  List.mergeSort_perm _ _

/-- The findings of a report are shown in its order. -/
theorem sortedFindings_pairwise (report : Report) :
    report.sortedFindings.Pairwise fun left right => precedes left right = true :=
  List.pairwise_mergeSort precedes_trans precedes_total _

/-- The findings of a report are shown by falling severity. -/
theorem sortedFindings_descending (report : Report) :
    report.sortedFindings.Pairwise fun left right => right.severity.rank ≤ left.severity.rank := by
  apply report.sortedFindings_pairwise.imp
  intro left right before
  rcases (precedes_iff left right).mp before with more | ⟨same, _⟩
  · exact Nat.le_of_lt more
  · exact Nat.le_of_eq same.symm

/-- Wherever the findings of a report are cut, none behind the cut is more serious than one before
it. -/
theorem rank_le_of_cut (report : Report) (limit : Nat) {shown omitted : Finding}
    (before : shown ∈ report.sortedFindings.take limit)
    (behind : omitted ∈ report.sortedFindings.drop limit) :
    omitted.severity.rank ≤ shown.severity.rank := by
  have descending := report.sortedFindings_descending
  rw [← List.take_append_drop limit report.sortedFindings] at descending
  exact (List.pairwise_append.mp descending).2.2 shown before omitted behind

/-- The highest severity of a report is that of the finding that it shows first. -/
theorem highestSeverity_eq_head (report : Report) :
    report.highestSeverity = report.sortedFindings.head?.map (·.severity) := by
  cases sorted : report.sortedFindings with
  | nil =>
    have none : report.findings = [] := (sorted ▸ report.sortedFindings_perm).symm.eq_nil
    simp [highestSeverity, gravest?, none]
  | cons first others =>
    have kept (finding : Finding) : finding ∈ report.findings ↔ finding ∈ first :: others :=
      sorted ▸ report.sortedFindings_perm.mem_iff.symm
    have descending := sorted ▸ report.sortedFindings_descending
    refine (highestSeverity_eq_some_iff report first.severity).mpr
      ⟨⟨first, (kept first).mpr List.mem_cons_self, rfl⟩, fun finding member => ?_⟩
    rcases List.mem_cons.mp ((kept finding).mp member) with rfl | later
    · exact Nat.le_refl _
    · exact (List.pairwise_cons.mp descending).1 finding later

end Report

end InfraReview
