import Mathlib.Data.List.Nodup
import InfraReview.Proofs.Check.Classification
import InfraReview.Proofs.Engine.Dispatch

/-!
# Filters before and after a run

An engine asks its filters about checks, once and before anything runs. A reader of a report
could as well run every check and ask the same of each finding. Both come to the same, since a
finding repeats the classification of its check: what the filtered run gives is the part of the
full run that the filters admit, in the same order.

The invocations carry the argument. Those of a filtered run are those of the full run whose
rule the filters admit; findings and faults are read off invocations one by one. Where the order
does not matter, `Produced` says what is reported at all: it takes an active check and what the
check is shown.
-/

namespace InfraReview

/-- What is read off the items that pass a test is what passes a second test among all that is
read off, when the second test decides about everything read off an item as the first does about
the item. -/
theorem flatMap_filter_of_uniform {α β : Type} {keep : α → Bool} {test : β → Bool}
    {read : α → List β} {items : List α}
    (uniform : ∀ item ∈ items, ∀ given ∈ read item, test given = keep item) :
    (items.filter keep).flatMap read = (items.flatMap read).filter test := by
  induction items with
  | nil => rfl
  | cons item items inductionHypothesis =>
    have own := uniform item List.mem_cons_self
    have rest := inductionHypothesis fun other later => uniform other (List.mem_cons_of_mem _ later)
    rw [List.flatMap_cons, List.filter_append, List.filter_congr own]
    by_cases kept : keep item = true
    · rw [List.filter_cons_of_pos kept, List.flatMap_cons, rest]
      simp [kept]
    · rw [List.filter_cons_of_neg kept, rest]
      simp [kept]

namespace EngineConfig

/-- What filters ask of a rule, a pillar and a severity: the rule is not excluded, it is listed
unless no rule is, the pillar is listed unless none is, and the severity is at least the least
one if there is a least one. -/
def Admits (config : EngineConfig) (ruleId : String) (pillar : Pillar) (severity : Severity) :
    Prop :=
  ruleId ∉ config.excludeIds ∧ (config.ruleIds = [] ∨ ruleId ∈ config.ruleIds) ∧
    (config.pillars = [] ∨ pillar ∈ config.pillars) ∧
    ∀ least ∈ config.minSeverity, least.rank ≤ severity.rank

instance (config : EngineConfig) (ruleId : String) (pillar : Pillar) (severity : Severity) :
    Decidable (config.Admits ruleId pillar severity) :=
  inferInstanceAs (Decidable (_ ∧ _ ∧ _ ∧ ∀ least ∈ config.minSeverity, _))

/-- Filters admit a check by its classification. -/
abbrev AdmitsCheck (config : EngineConfig) (metadata : CheckMetadata) : Prop :=
  config.Admits metadata.id metadata.pillar metadata.severity

/-- Filters admit a finding by its classification. -/
abbrev AdmitsFinding (config : EngineConfig) (finding : Finding) : Prop :=
  config.Admits finding.ruleId finding.pillar finding.severity

/-- Filters admit a rule of a registry when they admit a check that has it as its identifier. -/
abbrev AdmitsRule (config : EngineConfig) (registry : Registry) (ruleId : String) : Prop :=
  ∃ metadata ∈ registry.allMetadata, metadata.id = ruleId ∧ config.AdmitsCheck metadata

/-- The checks that filters let run are those that they admit. -/
theorem allows_iff (config : EngineConfig) (metadata : CheckMetadata) :
    config.allows metadata = true ↔ config.AdmitsCheck metadata := by
  cases least : config.minSeverity <;> simp [allows, Admits, least, and_assoc]

/-- Without filters every check runs. -/
theorem allows_default (metadata : CheckMetadata) : allows {} metadata = true := rfl

end EngineConfig

namespace Registry

variable {registry : Registry}

/-- The description of a check of single entities is among all descriptions. -/
theorem resource_described {check : ResourceCheck} (known : check ∈ registry.resourceChecks) :
    check.metadata ∈ registry.allMetadata :=
  List.mem_append_left _ (List.mem_map_of_mem known)

/-- The description of a relating check is among all descriptions. -/
theorem cross_described {check : CrossCheck} (known : check ∈ registry.crossChecks) :
    check.metadata ∈ registry.allMetadata :=
  List.mem_append_right _ (List.mem_map_of_mem known)

end Registry

namespace Registry.Classified

variable {registry : Registry} (classified : registry.Classified)
include classified

/-- An identifier belongs to one check only. -/
theorem eq_of_id {first second : CheckMetadata} (present : first ∈ registry.allMetadata)
    (other : second ∈ registry.allMetadata) (same : first.id = second.id) : first = second :=
  List.inj_on_of_nodup_map classified.distinct present other same

/-- The filters admit the rule of a check exactly when they admit the check, as no other check
has this rule. -/
theorem admitsRule_iff (config : EngineConfig) {metadata : CheckMetadata}
    (present : metadata ∈ registry.allMetadata) :
    config.AdmitsRule registry metadata.id ↔ config.AdmitsCheck metadata := by
  refine ⟨?_, fun admitted => ⟨metadata, present, rfl, admitted⟩⟩
  rintro ⟨other, known, same, admitted⟩
  exact classified.eq_of_id known present same ▸ admitted

/-- The filters let a check of the registry run exactly when they admit its rule. -/
theorem allows_eq (config : EngineConfig) {metadata : CheckMetadata}
    (present : metadata ∈ registry.allMetadata) :
    config.allows metadata = decide (config.AdmitsRule registry metadata.id) := by
  rw [Bool.eq_iff_iff, decide_eq_true_iff, classified.admitsRule_iff config present]
  exact config.allows_iff metadata

end Registry.Classified

namespace Engine

/-- A new engine makes the invocations that entities call for. -/
theorem invocations_create (config : EngineConfig) (registry : Registry)
    (entities : List Entity) :
    (create config registry).invocations entities =
      (expectedRun config registry entities).invocations :=
  congrArg RunRecord.invocations ((serves_create config registry).run entities)

/-- A new engine gives the findings that entities call for. -/
theorem findings_create (config : EngineConfig) (registry : Registry) (entities : List Entity) :
    ((create config registry).analyze entities).1 =
      (expectedRun config registry entities).findings :=
  congrArg RunRecord.findings ((serves_create config registry).run entities)

/-- A new engine has the faults that entities call for after a run. -/
theorem faults_create (config : EngineConfig) (registry : Registry) (entities : List Entity) :
    ((create config registry).analyze entities).2.faults =
      (expectedRun config registry entities).faults :=
  congrArg RunRecord.faults ((serves_create config registry).run entities)

section

variable {registry : Registry} (classified : registry.Classified) (config : EngineConfig)
include classified

/-- The checks of a kind in a filtered run are those of the full run whose rules the filters
admit. -/
theorem checksOf_eq_filter (kind : String) :
    checksOf config registry kind =
      (checksOf {} registry kind).filter fun check =>
        config.AdmitsRule registry check.metadata.id := by
  simp only [checksOf, EngineConfig.allows_default, Bool.true_and, List.filter_filter]
  refine List.filter_congr fun check present => ?_
  rw [classified.allows_eq config (Registry.resource_described present)]

/-- The relating checks of a filtered run are those of the full run whose rules the filters
admit. -/
theorem relatingChecks_eq_filter :
    relatingChecks config registry =
      (relatingChecks {} registry).filter fun check =>
        config.AdmitsRule registry check.metadata.id := by
  simp only [relatingChecks, EngineConfig.allows_default, List.filter_true]
  refine List.filter_congr fun check present => ?_
  exact classified.allows_eq config (Registry.cross_described present)

/-- The invocations of a filtered run are those of the full run whose rules the filters
admit. -/
theorem invocations_eq_filter (entities : List Entity) :
    (create config registry).invocations entities =
      ((create {} registry).invocations entities).filter fun invocation =>
        config.AdmitsRule registry invocation.ruleId := by
  simp only [invocations_create, expectedRun, checksOf_eq_filter classified config,
    relatingChecks_eq_filter classified config, List.filter_append, List.filter_flatMap,
    List.filter_map, Function.comp_def]

/-- The findings of an invocation are classified by a check of the registry whose rule the
invocation names. -/
theorem invocations_classified (entities : List Entity) :
    ∀ invocation ∈ (create config registry).invocations entities,
      ∃ metadata ∈ registry.allMetadata,
        metadata.id = invocation.ruleId ∧ metadata.Classifies invocation.outcome := by
  intro invocation made
  rw [invocations_create] at made
  rcases List.mem_append.mp made with single | relating
  · obtain ⟨entity, _, asked⟩ := List.mem_flatMap.mp single
    obtain ⟨check, chosen, rfl⟩ := List.mem_map.mp asked
    have present := List.mem_of_mem_filter chosen
    exact ⟨check.metadata, Registry.resource_described present, rfl,
      classified.single check present entity⟩
  · obtain ⟨check, chosen, rfl⟩ := List.mem_map.mp relating
    have present := List.mem_of_mem_filter chosen
    exact ⟨check.metadata, Registry.cross_described present, rfl,
      classified.relating check present entities⟩

/-- The filters admit the findings of an invocation exactly when they admit its rule. -/
theorem admitsFinding_iff (entities : List Entity) {invocation : Invocation}
    (made : invocation ∈ (create {} registry).invocations entities) {finding : Finding}
    (found : finding ∈ invocation.outcome.found) :
    config.AdmitsFinding finding ↔ config.AdmitsRule registry invocation.ruleId := by
  obtain ⟨metadata, present, rule, classifies⟩ :=
    invocations_classified classified {} entities invocation made
  obtain ⟨sameRule, sameSeverity, samePillar⟩ := classifies finding found
  rw [← rule, classified.admitsRule_iff config present, EngineConfig.AdmitsFinding, sameRule,
    sameSeverity, samePillar]

/-- The findings of a filtered run are those of the full run that the filters admit. -/
theorem findings_eq_filter (entities : List Entity) :
    ((create config registry).analyze entities).1 =
      ((create {} registry).analyze entities).1.filter fun finding =>
        config.AdmitsFinding finding := by
  simp only [analyze, invocations_eq_filter classified config]
  refine flatMap_filter_of_uniform fun invocation made finding found => ?_
  exact decide_eq_decide.mpr (admitsFinding_iff classified config entities made found)

/-- The faults of a filtered run are those of the full run whose rules the filters admit. -/
theorem faults_eq_filter (entities : List Entity) :
    ((create config registry).analyze entities).2.faults =
      ((create {} registry).analyze entities).2.faults.filter fun fault =>
        config.AdmitsRule registry fault.ruleId := by
  simp only [analyze, invocations_eq_filter classified config, List.filterMap_eq_flatMap_toList]
  refine flatMap_filter_of_uniform fun invocation _ fault noted => ?_
  obtain ⟨message, _, rfl⟩ := Option.map_eq_some_iff.mp (Option.mem_toList.mp noted)
  rfl

end

/-- The descriptions of the checks that run are those of the catalog that the filters admit. -/
theorem activeMetadata_eq_filter (config : EngineConfig) (registry : Registry) :
    (create config registry).activeMetadata =
      (registry.resourceChecks.map (·.metadata) ++ registry.crossChecks.map (·.metadata)).filter
        fun metadata => config.AdmitsCheck metadata := by
  have allowed : (fun metadata => decide (config.AdmitsCheck metadata)) = config.allows := by
    funext metadata
    rw [Bool.eq_iff_iff, decide_eq_true_iff, config.allows_iff]
  rw [allowed, List.filter_append, List.filter_map, List.filter_map]
  rfl

end Engine

/-- A finding that an active check of a registry reports about entities: a check of single
entities about one whose kind it lists, or a relating check about all of them. -/
inductive Produced (config : EngineConfig) (registry : Registry) (entities : List Entity)
    (finding : Finding) : Prop where
  | single {check : ResourceCheck} {entity : Entity} (known : check ∈ registry.resourceChecks)
      (active : config.AdmitsCheck check.metadata) (given : entity ∈ entities)
      (listed : entity.kind ∈ check.metadata.resourceTypes)
      (found : finding ∈ (check.evaluate entity).found) :
      Produced config registry entities finding
  | relating {check : CrossCheck} (known : check ∈ registry.crossChecks)
      (active : config.AdmitsCheck check.metadata)
      (found : finding ∈ (check.evaluate entities).found) :
      Produced config registry entities finding

/-- Filters that exclude more admit no further check. -/
theorem EngineConfig.AdmitsCheck.of_excluding {config : EngineConfig} {excludeIds : List String}
    (more : config.excludeIds ⊆ excludeIds) {metadata : CheckMetadata}
    (admitted : EngineConfig.AdmitsCheck { config with excludeIds := excludeIds } metadata) :
    config.AdmitsCheck metadata :=
  ⟨fun excluded => admitted.1 (more excluded), admitted.2⟩

/-- Filters that exclude more let no further finding be produced. -/
theorem Produced.of_excluding {config : EngineConfig} {excludeIds : List String}
    (more : config.excludeIds ⊆ excludeIds) {registry : Registry} {entities : List Entity}
    {finding : Finding}
    (produced : Produced { config with excludeIds := excludeIds } registry entities finding) :
    Produced config registry entities finding := by
  cases produced with
  | single known active given listed found =>
    exact .single known (.of_excluding more active) given listed found
  | relating known active found => exact .relating known (.of_excluding more active) found

namespace Engine

/-- The findings of a run are those that the active checks of its registry report. -/
theorem mem_findings_iff (config : EngineConfig) (registry : Registry) (entities : List Entity)
    (finding : Finding) :
    finding ∈ ((create config registry).analyze entities).1 ↔
      Produced config registry entities finding := by
  rw [findings_create, expectedRun, List.mem_append]
  constructor
  · rintro (single | relating)
    · obtain ⟨entity, given, asked⟩ := List.mem_flatMap.mp single
      obtain ⟨check, chosen, found⟩ := List.mem_flatMap.mp asked
      obtain ⟨known, allowed⟩ := List.mem_filter.mp chosen
      obtain ⟨active, listed⟩ := Bool.and_eq_true_iff.mp allowed
      exact .single known ((config.allows_iff _).mp active) given (of_decide_eq_true listed) found
    · obtain ⟨check, chosen, found⟩ := List.mem_flatMap.mp relating
      obtain ⟨known, active⟩ := List.mem_filter.mp chosen
      exact .relating known ((config.allows_iff _).mp active) found
  · rintro (⟨known, active, given, listed, found⟩ | ⟨known, active, found⟩)
    · refine .inl (List.mem_flatMap.mpr ⟨_, given, List.mem_flatMap.mpr ⟨_, ?_, found⟩⟩)
      refine List.mem_filter.mpr ⟨known, Bool.and_eq_true_iff.mpr ⟨?_, decide_eq_true listed⟩⟩
      exact (config.allows_iff _).mpr active
    · refine .inr (List.mem_flatMap.mpr ⟨_, List.mem_filter.mpr ⟨known, ?_⟩, found⟩)
      exact (config.allows_iff _).mpr active

end Engine

/-- To filter before a run of the built-in checks is to filter after it. The findings of a
filtered run are the findings of the full run that the filters admit, its faults are the faults
of the full run whose checks the filters admit, and its checks are those of the catalog that the
filters admit, the checks of single entities first; all three in their order. -/
theorem filters_select_afterwards (config : EngineConfig) (entities : List Entity) :
    let filtered := Engine.create config Registry.builtin
    let full := Engine.create {} Registry.builtin
    (filtered.analyze entities).1 =
        (full.analyze entities).1.filter (fun finding => config.AdmitsFinding finding) ∧
      (filtered.analyze entities).2.faults =
        (full.analyze entities).2.faults.filter
          (fun fault => config.AdmitsRule Registry.builtin fault.ruleId) ∧
      filtered.activeMetadata =
        (Check.resourceCatalog.map (·.metadata) ++ Check.crossCatalog.map (·.metadata)).filter
          (fun metadata => config.AdmitsCheck metadata) := by
  refine ⟨?_, ?_, ?_⟩
  · exact Engine.findings_eq_filter Registry.builtin_classified config entities
  · exact Engine.faults_eq_filter Registry.builtin_classified config entities
  · exact Engine.activeMetadata_eq_filter config Registry.builtin

end InfraReview
