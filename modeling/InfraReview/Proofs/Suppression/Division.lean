import InfraReview.Proofs.Calendar.Order
import InfraReview.Suppression

/-!
# Findings divided by suppressions

What suppressions do to findings is stated here without the code for it. A division sends each
place of a list to one of two sides, by a test of what stands there; both sides keep the order
of the list, and the list can be put together again from its sides. Findings are divided by
whether one and the same entry covers their rule and their resource, and entries by whether
their date has passed.

The two divisions have nothing to do with each other: which findings are kept depends on the
pairs of rules and resources in the entries, and on nothing else of them.
-/

namespace InfraReview

/-- A list divided in two by a test. Each item in its turn goes to the first side when it fails
the test, and to the second side when it passes. -/
inductive Divided {α : Type} (test : α → Prop) : List α → List α → List α → Prop where
  | done : Divided test [] [] []
  | failing {item : α} {items lefts rights : List α} (fails : ¬ test item)
      (rest : Divided test items lefts rights) : Divided test (item :: items) (item :: lefts) rights
  | passing {item : α} {items lefts rights : List α} (passes : test item)
      (rest : Divided test items lefts rights) : Divided test (item :: items) lefts (item :: rights)

/-- Two lists put together by marks, one for each place: the next item is the first one left of
the second list at a true mark, and of the first list at a false one. -/
def interleave {α : Type} : List Bool → List α → List α → List α
  | false :: marks, left :: lefts, rights => left :: interleave marks lefts rights
  | true :: marks, lefts, right :: rights => right :: interleave marks lefts rights
  | _, _, _ => []

namespace Divided

/-- A test of each item divides a list into those that fail it and those that pass it. -/
theorem partition {α : Type} (passes : α → Bool) (items : List α) :
    Divided (fun item => passes item = true) items (items.partition passes).2
      (items.partition passes).1 := by
  rw [List.partition_eq_filter_filter]
  induction items with
  | nil => exact .done
  | cons item items inductionHypothesis =>
    by_cases found : passes item = true
    · rw [List.filter_cons_of_pos found, List.filter_cons_of_neg (by simpa using found)]
      exact .passing found inductionHypothesis
    · rw [List.filter_cons_of_neg found, List.filter_cons_of_pos (by simpa using found)]
      exact .failing found inductionHypothesis

/-- A test in other words divides a list in the same way. -/
theorem congr {α : Type} {test other : α → Prop} (same : ∀ item, test item ↔ other item)
    {items lefts rights : List α} (divided : Divided test items lefts rights) :
    Divided other items lefts rights := by
  induction divided with
  | done => exact .done
  | failing fails _ inductionHypothesis =>
    exact .failing (fun passes => fails ((same _).mpr passes)) inductionHypothesis
  | passing passes _ inductionHypothesis => exact .passing ((same _).mp passes) inductionHypothesis

/-- A list is divided by a test in one way only. -/
theorem unique {α : Type} {test : α → Prop} {items lefts rights otherLefts otherRights : List α}
    (divided : Divided test items lefts rights)
    (other : Divided test items otherLefts otherRights) :
    lefts = otherLefts ∧ rights = otherRights := by
  induction divided generalizing otherLefts otherRights with
  | done => cases other; exact ⟨rfl, rfl⟩
  | failing fails _ inductionHypothesis =>
    cases other with
    | failing _ rest =>
      obtain ⟨sameLefts, sameRights⟩ := inductionHypothesis rest
      exact ⟨congrArg _ sameLefts, sameRights⟩
    | passing passes _ => exact absurd passes fails
  | passing passes _ inductionHypothesis =>
    cases other with
    | failing fails _ => exact absurd passes fails
    | passing _ rest =>
      obtain ⟨sameLefts, sameRights⟩ := inductionHypothesis rest
      exact ⟨sameLefts, congrArg _ sameRights⟩

/-- What fails the test is on the first side, and nothing else. -/
theorem mem_lefts {α : Type} {test : α → Prop} {items lefts rights : List α}
    (divided : Divided test items lefts rights) (item : α) :
    item ∈ lefts ↔ item ∈ items ∧ ¬ test item := by
  induction divided with
  | done => simp
  | failing fails _ inductionHypothesis =>
    rw [List.mem_cons, List.mem_cons, inductionHypothesis]
    constructor
    · rintro (rfl | ⟨later, failed⟩)
      · exact ⟨.inl rfl, fails⟩
      · exact ⟨.inr later, failed⟩
    · rintro ⟨rfl | later, failed⟩
      · exact .inl rfl
      · exact .inr ⟨later, failed⟩
  | passing passes _ inductionHypothesis =>
    rw [inductionHypothesis, List.mem_cons]
    constructor
    · rintro ⟨later, failed⟩
      exact ⟨.inr later, failed⟩
    · rintro ⟨rfl | later, failed⟩
      · exact absurd passes failed
      · exact ⟨later, failed⟩

/-- The sides of a divided list give the list again when they are put together by the places
at which the test is passed. -/
theorem interleave_eq {α : Type} {test : α → Prop} [DecidablePred test]
    {items lefts rights : List α} (divided : Divided test items lefts rights) :
    interleave (items.map fun item => decide (test item)) lefts rights = items := by
  induction divided with
  | done => rfl
  | failing fails _ inductionHypothesis => simp [interleave, fails, inductionHypothesis]
  | passing passes _ inductionHypothesis => simp [interleave, passes, inductionHypothesis]

end Divided

namespace Suppression

/-- An entry is meant for a finding when it names its rule or all rules, and names its resource
or all resources. -/
def Matches (entry : Suppression) (finding : Finding) : Prop :=
  (entry.ruleId = "*" ∨ entry.ruleId = finding.ruleId) ∧
    (entry.resource = "*" ∨ entry.resource = finding.resource)

instance (entry : Suppression) : DecidablePred entry.Matches := fun _ =>
  inferInstanceAs (Decidable ((_ ∨ _) ∧ (_ ∨ _)))

/-- The date of an entry has passed when it can be read and its midnight is before a moment. -/
def HasPassed (now : Moment) (entry : Suppression) : Prop :=
  ∃ date, Date.read entry.expires = some date ∧ (Moment.midnight date).numbers < now.numbers

/-- What an entry is about: its rule and its resource. -/
def target (entry : Suppression) : String × String := (entry.ruleId, entry.resource)

/-- An entry covers a finding when it is meant for it. -/
theorem covered_iff (entry : Suppression) (finding : Finding) :
    entry.covered finding = true ↔ entry.Matches finding := by
  simp [covered, covers, wildcard, Matches]

/-- An entry is expired when its date has passed. -/
theorem isExpired_iff (entry : Suppression) (now : Moment) :
    entry.isExpired now = true ↔ entry.HasPassed now := by
  cases read : Date.read entry.expires with
  | none => simp [isExpired, expiry?, HasPassed, read]
  | some date => simp [isExpired, expiry?, HasPassed, read, Moment.isBefore_iff]

end Suppression

/-- Some entry of a list is meant for a finding. -/
def Suppresses (entries : List Suppression) (finding : Finding) : Prop :=
  ∃ entry ∈ entries, entry.Matches finding

instance (entries : List Suppression) : DecidablePred (Suppresses entries) := fun _ =>
  inferInstanceAs (Decidable (∃ entry ∈ entries, _))

/-- Two lists of entries are about the same rules and resources. -/
def SameTargets (entries others : List Suppression) : Prop :=
  ∀ target, target ∈ entries.map Suppression.target ↔ target ∈ others.map Suppression.target

/-- A finding is suppressed when some entry is meant for it. -/
theorem isSuppressed_iff (entries : List Suppression) (finding : Finding) :
    isSuppressed entries finding = true ↔ Suppresses entries finding := by
  simp [isSuppressed, Suppresses, Suppression.covered_iff]

/-- Whether an entry is meant for a finding is a matter of what the entry is about. -/
theorem suppresses_iff_target (entries : List Suppression) (finding : Finding) :
    Suppresses entries finding ↔ ∃ target ∈ entries.map Suppression.target,
      (target.1 = "*" ∨ target.1 = finding.ruleId) ∧
        (target.2 = "*" ∨ target.2 = finding.resource) := by
  simp [Suppresses, Suppression.Matches, Suppression.target]

/-- Entries about the same rules and resources suppress the same findings. -/
theorem SameTargets.suppresses_iff {entries others : List Suppression}
    (same : SameTargets entries others) (finding : Finding) :
    Suppresses entries finding ↔ Suppresses others finding := by
  rw [suppresses_iff_target, suppresses_iff_target]
  exact exists_congr fun target => and_congr_left fun _ => same target

/-- Without entries, all findings are kept, and nothing is set apart or expired. -/
theorem sortOut_nil (findings : List Finding) (now : Moment) :
    sortOut findings [] now = ⟨findings, [], []⟩ := by
  simp [sortOut, isSuppressed, List.partition_eq_filter_filter]

/-- To look at no findings when there are no entries comes to the same. -/
theorem applySuppressions_eq_sortOut (findings : List Finding) (entries : List Suppression)
    (now : Moment) : applySuppressions findings entries now = sortOut findings entries now := by
  cases entries with
  | nil => rw [sortOut_nil]; rfl
  | cons entry entries => rfl

/-- Findings are divided by whether some entry is meant for them. -/
theorem applySuppressions_findings (findings : List Finding) (entries : List Suppression)
    (now : Moment) :
    Divided (Suppresses entries) findings (applySuppressions findings entries now).kept
      (applySuppressions findings entries now).suppressed := by
  rw [applySuppressions_eq_sortOut]
  exact (Divided.partition (isSuppressed entries) findings).congr (isSuppressed_iff entries)

/-- Entries are divided by whether their date has passed, and those whose date has are
listed. -/
theorem applySuppressions_entries (findings : List Finding) (entries : List Suppression)
    (now : Moment) : ∃ current, Divided (Suppression.HasPassed now) entries current
      (applySuppressions findings entries now).expired := by
  have divided := (Divided.partition (fun entry => entry.isExpired now) entries).congr
    fun entry => entry.isExpired_iff now
  rw [List.partition_eq_filter_filter] at divided
  exact ⟨_, by simpa only [applySuppressions_eq_sortOut, sortOut] using divided⟩

/-- Suppressions divide the findings by whether some entry is meant for them, and the entries
by whether their date has passed; the findings can be put together again from their two sides.
The case without entries is no exception. Which findings are on which side depends on what the
entries are about and on nothing else, whatever the moment. -/
theorem suppressions_divide_findings (findings : List Finding) (entries : List Suppression)
    (now : Moment) :
    let outcome := applySuppressions findings entries now
    Divided (Suppresses entries) findings outcome.kept outcome.suppressed ∧
    interleave (findings.map fun finding => decide (Suppresses entries finding)) outcome.kept
      outcome.suppressed = findings ∧
    (∃ current, Divided (Suppression.HasPassed now) entries current outcome.expired) ∧
    outcome = sortOut findings entries now ∧
    ∀ (others : List Suppression) (later : Moment), SameTargets entries others →
      (applySuppressions findings others later).kept = outcome.kept ∧
      (applySuppressions findings others later).suppressed = outcome.suppressed := by
  intro outcome
  have divided := applySuppressions_findings findings entries now
  refine ⟨divided, divided.interleave_eq, applySuppressions_entries findings entries now,
    applySuppressions_eq_sortOut findings entries now, ?_⟩
  intro others later same
  have other := (applySuppressions_findings findings others later).congr
    fun finding => (same.suppresses_iff finding).symm
  exact other.unique divided

/-- Entries in another order, with other dates and one of them twice, keep the same one of two
findings, although the first list has an entry that is expired. -/
theorem reordered_entries_divide_alike :
    let finding (ruleId resource : String) : Finding :=
      ⟨ruleId, "", .high, .security, resource, "", 0, "", "", none⟩
    let findings := [finding "S3-001" "aws_s3_bucket.logs", finding "S3-001" "aws_s3_bucket.web"]
    let entries : List Suppression := [⟨"S3-001", "aws_s3_bucket.logs", "archive", "2020-01-01"⟩,
      ⟨"VPC-007", "*", "later", "2030-01-01"⟩]
    let others : List Suppression := [⟨"VPC-007", "*", "soon", "never"⟩,
      ⟨"S3-001", "aws_s3_bucket.logs", "archive", "2031-01-01"⟩, ⟨"VPC-007", "*", "", ""⟩]
    let now := Moment.midnight ⟨2026, 6, 1, by decide⟩
    let later := Moment.midnight ⟨2029, 1, 1, by decide⟩
    SameTargets entries others ∧
      (applySuppressions findings others later).kept =
        (applySuppressions findings entries now).kept ∧
      (applySuppressions findings others later).suppressed =
        (applySuppressions findings entries now).suppressed := by
  intro finding findings entries others now later
  have same : SameTargets entries others := by
    intro target
    simp only [entries, others, Suppression.target, List.map_cons, List.map_nil, List.mem_cons,
      List.not_mem_nil, or_false]
    tauto
  exact ⟨same, (suppressions_divide_findings findings entries now).2.2.2.2 others later same⟩

end InfraReview
