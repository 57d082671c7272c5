import InfraReview.Proofs.Json.Writing
import InfraReview.Proofs.Report.Summary

/-!
# Reports that go through a text

A report is written as JSON and read again before it is published. What is read is the report, if
its tables have each key once and its integers can be written; the tables of counts always have each
severity and each pillar once. No other report comes out of a text.
-/

namespace InfraReview

/-- A severity or a pillar has one name among those that are counted. -/
theorem namesOnce_counts {κ : Type} {name : κ → String} (injective : Function.Injective name)
    {counts : List (κ × Nat)} (once : (counts.map Prod.fst).Nodup) :
    Json.NamesOnce (.object (counts.map fun (kind, count) => (name kind, .int count))) := by
  refine .object ?_ fun member listed => ?_
  · rw [List.map_map]
    simpa [Function.comp_def] using List.Nodup.map injective once
  · obtain ⟨_, _, rfl⟩ := List.mem_map.mp listed
    exact .int _

/-- There is one member for a link at most. -/
theorem linkMember_cases (docUrl : Option String) :
    linkMember docUrl = [] ∨ ∃ url, linkMember docUrl = [("doc_url", .string url)] := by
  unfold linkMember
  cases docUrl with
  | none => exact .inl rfl
  | some url =>
    dsimp only
    split
    · exact .inl rfl
    · exact .inr ⟨url, rfl⟩

/-- A finding has its names once. -/
theorem Finding.namesOnce_toJson (finding : Finding) : Json.NamesOnce finding.toJson := by
  rcases linkMember_cases finding.docUrl with none | ⟨url, one⟩
  · simp +decide [toJson, none]
  · simp +decide [toJson, one]

/-- The description of a check has its names once when its frameworks stand there once. -/
theorem CheckMetadata.namesOnce_toJson {metadata : CheckMetadata}
    (once : (metadata.frameworks.map Prod.fst).Nodup) : Json.NamesOnce metadata.toJson := by
  have frameworks : Json.NamesOnce (.object (metadata.frameworks.map fun framework =>
      (framework.1, .array (framework.2.map .string)))) := by
    refine .object (by simpa [Function.comp_def] using once) fun member listed => ?_
    obtain ⟨_, _, rfl⟩ := List.mem_map.mp listed
    simp
  unfold toJson
  rcases linkMember_cases metadata.docUrl with none | ⟨url, one⟩
  · rw [none]
    split
    · simp +decide
    · refine .object (by simp +decide) ?_
      simpa using frameworks
  · rw [one]
    split
    · simp +decide
    · refine .object (by simp +decide) ?_
      simpa using frameworks

namespace Report

/-- A report whose tables have each key once: its metadata, at every depth, and the frameworks of
its checks. -/
structure KeyedOnce (report : Report) : Prop where
  metadata : Json.NamesOnce (.object report.metadata)
  frameworks : ∀ check ∈ report.activeChecks, (check.frameworks.map Prod.fst).Nodup

/-- The JSON of a report has its names once when its tables have their keys once. -/
theorem namesOnce_toJson {report : Report} (once : report.KeyedOnce) :
    Json.NamesOnce report.toJson := by
  have summary : Json.NamesOnce report.summaryJson := by
    have highest : Json.NamesOnce
        ((report.highestSeverity.map fun s => Json.string s.name).getD .null) := by
      cases report.highestSeverity <;> simp
    refine .object (by simp +decide) ?_
    simp only [List.forall_mem_cons]
    exact ⟨.int _, .int _, .int _, by simp, highest,
      namesOnce_counts Severity.name_injective report.nodup_severityCounts,
      namesOnce_counts Pillar.name_injective report.nodup_pillarCounts, List.forall_mem_nil _⟩
  refine .object (by simp +decide) ?_
  simp only [List.forall_mem_cons]
  refine ⟨once.metadata, summary, .array ?_, .array ?_, by simp, by simp, List.forall_mem_nil _⟩
  · intro item listed
    obtain ⟨finding, _, rfl⟩ := List.mem_map.mp listed
    exact finding.namesOnce_toJson
  · intro item listed
    obtain ⟨check, active, rfl⟩ := List.mem_map.mp listed
    exact CheckMetadata.namesOnce_toJson (once.frameworks check active)

/-- The text that is written for a report is read as its JSON. -/
theorem read_toJson {report : Report} (once : report.KeyedOnce)
    (short : Json.Short report.toJson) :
    Json.read report.toJson.layOut.toList = .ok report.toJson :=
  Json.read_layOut short (namesOnce_toJson once)

/-- A report comes out of some text exactly when it comes out of the one that is written for it. -/
theorem exists_read_iff (report : Report) :
    (∃ text, Json.read text = .ok report.toJson) ↔
      Json.Short report.toJson ∧ Json.NamesOnce report.toJson := by
  constructor
  · rintro ⟨text, read⟩
    exact ⟨Json.short_of_read read, Json.namesOnce_kept.read read⟩
  · rintro ⟨short, once⟩
    exact ⟨_, Json.read_layOut short once⟩

end Report

end InfraReview
