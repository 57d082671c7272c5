import Mathlib.Data.List.Perm.Basic
import InfraReview.CommandLine.Review
import InfraReview.Proofs.Engine.Selection
import InfraReview.Proofs.Report.Counting
import InfraReview.Proofs.Source.Files
import InfraReview.Proofs.Suppression.Division

/-!
# The order of entities

Entities come in the order of files, modules and blocks, which says nothing about them. A check of
single entities looks at one at a time, so in another order of the entities its findings only come
in another order. A relating check goes through the entities twice: it collects the names that
count, and then it asks of each entity whether one of these names will do. Such a question has no
order, wherever the entity stands that gives the name.

So a run has the same findings and the same faults in any order of its entities, each of them as
many times, and nothing that is counted or decided by findings depends on the order.
-/

namespace InfraReview

/-- Outcomes with the same findings in some order, and with the same fault if there is one. -/
def Outcome.Rearranged (left right : Outcome) : Prop :=
  left.found.Perm right.found ∧ left.fault? = right.fault?

/-- Findings in some order are the outcome of an invocation that has not broken off. -/
theorem Outcome.rearranged_findings {left right : List Finding} (same : left.Perm right) :
    (Outcome.findings left).Rearranged (.findings right) := ⟨same, rfl⟩

/-- A relating check whose outcome does not depend on the order of the entities. -/
def CrossCheck.Unordered (check : CrossCheck) : Prop :=
  ∀ ⦃entities others : List Entity⦄, entities.Perm others →
    (check.evaluate entities).Rearranged (check.evaluate others)

namespace Check

variable {entities others : List Entity}

/-- The encryption configurations give the same names in any order. -/
theorem encryptedNames_perm (same : entities.Perm others) :
    (encryptedNames entities).Perm (encryptedNames others) :=
  (same.filter _).flatMap_right _

/-- The flow logs give the same networks in any order. -/
theorem monitoredNetworks_perm (same : entities.Perm others) :
    (monitoredNetworks entities).Perm (monitoredNetworks others) :=
  (same.filter _).flatMap_right _

/-- The log groups give the same names in any order. -/
theorem logGroupNames_perm (same : entities.Perm others) :
    (logGroupNames entities).Perm (logGroupNames others) :=
  (same.filter _).flatMap_right _

/-- What is wrong with a trail does not depend on the order of the names of log groups. -/
theorem trailFinding_perm {groups otherGroups : List String} (same : groups.Perm otherGroups)
    (trail : Entity) : trailFinding? groups trail = trailFinding? otherGroups trail := by
  simp only [trailFinding?, same.isEmpty_eq, same.any_eq]

/-- Buckets without an encryption configuration are found in any order. -/
theorem bucketEncryptionConfig_unordered : bucketEncryptionConfig.Unordered := by
  intro entities others same
  have encrypted (name : String) :
      (encryptedNames entities).contains name = (encryptedNames others).contains name :=
    (encryptedNames_perm same).contains_eq
  apply Outcome.rearranged_findings
  simp only [encrypted]
  exact (same.filter _).map _

/-- Networks without a flow log are found in any order. -/
theorem networkFlowLog_unordered : networkFlowLog.Unordered := by
  intro entities others same
  have monitored (name : String) :
      (monitoredNetworks entities).contains name = (monitoredNetworks others).contains name :=
    (monitoredNetworks_perm same).contains_eq
  apply Outcome.rearranged_findings
  simp only [monitored]
  exact (same.filter _).map _

/-- Trails without a log group are found in any order. -/
theorem trailLogGroup_unordered : trailLogGroup.Unordered := by
  intro entities others same
  have groups : trailFinding? (logGroupNames entities) = trailFinding? (logGroupNames others) :=
    funext (trailFinding_perm (logGroupNames_perm same))
  apply Outcome.rearranged_findings
  simp only [groups]
  exact (same.filter _).filterMap _

end Check

/-- No built-in check that relates entities depends on their order. -/
theorem Registry.builtin_unordered : ∀ check ∈ Registry.builtin.crossChecks, check.Unordered := by
  intro check member
  simp only [builtin, Check.crossCatalog, List.mem_cons, List.not_mem_nil, or_false] at member
  rcases member with rfl | rfl | rfl
  · exact Check.bucketEncryptionConfig_unordered
  · exact Check.networkFlowLog_unordered
  · exact Check.trailLogGroup_unordered

namespace Engine

variable {registry : Registry} (unordered : ∀ check ∈ registry.crossChecks, check.Unordered)
  (config : EngineConfig) {entities others : List Entity} (same : entities.Perm others)
include unordered same

/-- A registry whose relating checks do not depend on the order of entities has the same findings
in any order. -/
theorem findings_perm :
    ((create config registry).analyze entities).1.Perm
      ((create config registry).analyze others).1 := by
  rw [findings_create, findings_create]
  apply List.Perm.append
  · exact same.flatMap_right _
  · apply List.Perm.flatMap_left
    intro check chosen
    exact (unordered check (List.mem_of_mem_filter chosen) same).1

/-- A registry whose relating checks do not depend on the order of entities has the same faults in
any order. -/
theorem faults_perm :
    ((create config registry).analyze entities).2.faults.Perm
      ((create config registry).analyze others).2.faults := by
  rw [faults_create, faults_create]
  apply List.Perm.append
  · exact same.flatMap_right _
  · apply List.Perm.of_eq
    apply List.filterMap_congr
    intro check chosen
    rw [(unordered check (List.mem_of_mem_filter chosen) same).2]

end Engine

/-- Suppressions divide the same findings into the same sides, in whatever order they come. The
expired entries are the same in the same order. -/
theorem applySuppressions_perm {findings others : List Finding} (same : findings.Perm others)
    (entries : List Suppression) (now : Moment) :
    let first := applySuppressions findings entries now
    let second := applySuppressions others entries now
    first.kept.Perm second.kept ∧ first.suppressed.Perm second.suppressed ∧
      first.expired = second.expired := by
  simp only [applySuppressions_eq_sortOut, sortOut, List.partition_eq_filter_filter]
  exact ⟨same.filter _, same.filter _, trivial⟩

namespace Report

/-- Whether findings reach a threshold does not depend on their order. -/
theorem shouldFail_perm {findings others : List Finding} (same : findings.Perm others)
    (failOn : String) : shouldFail findings failOn = shouldFail others failOn := by
  simp only [shouldFail, same.isEmpty_eq, same.any_eq]

variable {report other : Report} (same : report.findings.Perm other.findings)
include same

/-- The counts of severities do not depend on the order of findings. -/
theorem severityCounts_perm : report.severityCounts = other.severityCounts := by
  simp only [severityCounts, countsBy_eq, same.countP_eq]

/-- The counts of pillars do not depend on the order of findings. -/
theorem pillarCounts_perm : report.pillarCounts = other.pillarCounts := by
  simp only [pillarCounts, countsBy_eq, same.countP_eq]

/-- The highest severity does not depend on the order of findings. -/
theorem highestSeverity_perm : report.highestSeverity = other.highestSeverity := by
  ext highest
  simp only [highestSeverity_eq_some_iff, same.mem_iff]

end Report

namespace Source

/-- Files that are listed in another order have a reading too, with the same entities and the same
errors in some order. -/
theorem readFiles_perm [Libraries] {files : FileSystem} {names others : List String}
    (same : names.Perm others) {reading : Reading}
    (done : (readFiles files names).result = .ok reading) :
    ∃ other, (readFiles files others).result = .ok other ∧
      reading.entities.Perm other.entities ∧ reading.errors.Perm other.errors := by
  obtain ⟨outcomes, comes, rfl⟩ := (readFiles_ok_iff files names reading).mp done
  obtain ⟨rearranged, otherComes, perm⟩ := List.perm_comp_forall₂ same.symm comes
  refine ⟨.ofOutcomes others rearranged, ?_, ?_, ?_⟩
  · exact (readFiles_ok_iff files others _).mpr ⟨rearranged, otherComes, rfl⟩
  · exact perm.symm.flatMap_right _
  · exact perm.symm.filterMap _

end Source

open CommandLine in
/-- The order of entities is immaterial. For the built-in checks and under any filters, a run over
the same entities in another order has the same findings and the same faults, each as many times.
So its review keeps and suppresses the same findings, lists the same expired entries, counts the
same severities and pillars, and ends with the same exit code under every threshold. And files
that are read in another order have the same entities. -/
theorem same_in_any_order [Libraries] (request : AnalysisRequest) (config : ReviewConfig)
    {input other : Analysis.Input} (same : input.entities.Perm other.entities) :
    let engine := Engine.create request.filters Registry.builtin
    let first := Analysis.review request config input
    let second := Analysis.review request config other
    (engine.analyze input.entities).1.Perm (engine.analyze other.entities).1 ∧
    (engine.analyze input.entities).2.faults.Perm (engine.analyze other.entities).2.faults ∧
    (first.findings.Perm second.findings ∧ first.suppressed.Perm second.suppressed ∧
      first.expired = second.expired) ∧
    ((reportOf first).severityCounts = (reportOf second).severityCounts ∧
      (reportOf first).pillarCounts = (reportOf second).pillarCounts ∧
      (reportOf first).highestSeverity = (reportOf second).highestSeverity) ∧
    (∀ failOn, exitCode first.findings failOn = exitCode second.findings failOn) ∧
    ∀ (files : FileSystem) (names others : List String) (reading : Source.Reading),
      names.Perm others → (Source.readFiles files names).result = .ok reading →
        ∃ rearranged, (Source.readFiles files others).result = .ok rearranged ∧
          reading.entities.Perm rearranged.entities := by
  intro engine first second
  have found := Engine.findings_perm Registry.builtin_unordered request.filters same
  have faults := Engine.faults_perm Registry.builtin_unordered request.filters same
  have divided := applySuppressions_perm found config.suppressions request.now
  have kept : (reportOf first).findings.Perm (reportOf second).findings := divided.1
  refine ⟨found, faults, divided, ?_, ?_, ?_⟩
  · exact ⟨Report.severityCounts_perm kept, Report.pillarCounts_perm kept,
      Report.highestSeverity_perm kept⟩
  · intro failOn
    have decided : Report.shouldFail first.findings failOn =
        Report.shouldFail second.findings failOn := Report.shouldFail_perm divided.1 failOn
    rw [exitCode, exitCode, decided]
  · intro files names others reading sameNames done
    obtain ⟨rearranged, read, entities, _⟩ := Source.readFiles_perm sameNames done
    exact ⟨rearranged, read, entities⟩

/-- In one order a bucket and a flow log come before the configuration and the network that they
belong to, and in the other order after them. -/
theorem covered_in_any_order :
    let entity (kind localName : String) (attributes : Attributes) : Entity :=
      ⟨kind, localName, attributes, [], none, "managed", "main.tf", 1⟩
    let entities := [
      entity Check.bucketKind "logs" [],
      entity Check.bucketEncryptionKind "keys" [("bucket", .text "aws_s3_bucket.logs")],
      entity "aws_flow_log" "traffic" [("vpc_id", .text "aws_vpc.main")],
      entity "aws_vpc" "main" []]
    let request : AnalysisRequest :=
      { path := FilePath.ofText ".", now := Moment.midnight ⟨2026, 6, 1, by decide⟩ }
    let config : ReviewConfig := ⟨"", [⟨"S3-001", "*", "legacy", "2026-12-31"⟩]⟩
    let input : Analysis.Input := ⟨.source, entities, []⟩
    let other : Analysis.Input := ⟨.source, entities.reverse, []⟩
    input.entities.Perm other.entities ∧
      (Analysis.review request config input).findings.Perm
        (Analysis.review request config other).findings ∧
      (Analysis.review request config input).suppressed.Perm
        (Analysis.review request config other).suppressed := by
  intro entity entities request config input other
  have same : input.entities.Perm other.entities := entities.reverse_perm.symm
  obtain ⟨kept, suppressed, _⟩ := (same_in_any_order request config same).2.2.1
  exact ⟨same, kept, suppressed⟩

end InfraReview
