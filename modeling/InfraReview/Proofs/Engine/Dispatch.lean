import InfraReview.Engine

/-!
# Dispatch of checks

A run does not ask every check about every entity. It fills a table once, check by check
and kind by kind, and looks the kind of each entity up in it. The table leaves no trace in
what a run gives: under every kind stand exactly the checks that list it, each registered
copy once and in the order of registration, however often a copy repeats the kind.

What a run should give is therefore said here without a table, by filtering the registry
for each entity. The last statement compares the two over any number of runs of one engine
in a row, so it also says that no run depends on the runs before it.
-/

namespace InfraReview

namespace DispatchTable

/-- An addition under one kind puts the check behind those under that kind and leaves every
other kind alone. -/
theorem checksFor_add (table : DispatchTable) (kind other : String) (check : ResourceCheck) :
    (add table kind check).checksFor other =
      table.checksFor other ++ if other = kind then [check] else [] := by
  induction table with
  | nil =>
    by_cases same : other = kind
    · simp [add, checksFor, same]
    · have skipped : (other == kind) = false := by simpa using same
      simp [add, checksFor, List.lookup_cons, same, skipped]
  | cons entry rest inductionHypothesis =>
    obtain ⟨first, checks⟩ := entry
    simp only [checksFor] at inductionHypothesis
    by_cases head : other = first
    · subst head
      by_cases same : other = kind <;> simp [add, checksFor, same]
    · have skipped : (other == first) = false := by simpa using head
      by_cases found : first = kind
      · subst found
        simp [add, checksFor, List.lookup_cons, head, skipped]
      · simpa [add, checksFor, List.lookup_cons, found, skipped] using inductionHypothesis

/-- An addition under several kinds, no two of them equal, puts the check once behind those
under each of them. -/
theorem checksFor_add_kinds (kinds : List String) (distinct : kinds.Nodup)
    (table : DispatchTable) (check : ResourceCheck) (kind : String) :
    checksFor (kinds.foldl (fun current listed => add current listed check) table) kind =
      table.checksFor kind ++ if kind ∈ kinds then [check] else [] := by
  induction kinds generalizing table with
  | nil => simp
  | cons first rest inductionHypothesis =>
    obtain ⟨absent, restDistinct⟩ := List.nodup_cons.mp distinct
    rw [List.foldl_cons, inductionHypothesis restDistinct, checksFor_add]
    by_cases same : kind = first
    · subst same
      simp [absent]
    · simp [same]

/-- Nothing occurs twice in a list without its repetitions. -/
theorem nodup_eraseDups : ∀ kinds : List String, kinds.eraseDups.Nodup
  | [] => by simp
  | first :: rest => by
    have shorter : (rest.filter fun kind => !kind == first).length < rest.length + 1 :=
      Nat.lt_succ_of_le (List.length_filter_le ..)
    rw [List.eraseDups_cons, List.nodup_cons]
    refine ⟨?_, nodup_eraseDups _⟩
    simp [List.mem_eraseDups]
termination_by kinds => kinds.length

/-- A check is added once under each kind it lists, also when it lists the kind again. -/
theorem checksFor_addCheck (table : DispatchTable) (check : ResourceCheck) (kind : String) :
    (addCheck table check).checksFor kind =
      table.checksFor kind ++ if kind ∈ check.metadata.resourceTypes then [check] else [] := by
  rw [addCheck, checksFor_add_kinds _ (nodup_eraseDups _)]
  simp only [List.mem_eraseDups]

/-- The checks under a kind are those that list it, in their order. The induction adds one
check after the other to a table that is filled already. -/
theorem checksFor_ofChecks (checks : List ResourceCheck) (kind : String) :
    (ofChecks checks).checksFor kind =
      checks.filter fun check => kind ∈ check.metadata.resourceTypes := by
  have filled (table : DispatchTable) :
      checksFor (checks.foldl addCheck table) kind =
        table.checksFor kind ++ checks.filter fun check => kind ∈ check.metadata.resourceTypes := by
    induction checks generalizing table with
    | nil => simp
    | cons check rest inductionHypothesis =>
      rw [List.foldl_cons, inductionHypothesis, checksFor_addCheck]
      by_cases listed : kind ∈ check.metadata.resourceTypes <;> simp [listed]
  simpa [ofChecks, checksFor] using filled []

end DispatchTable

namespace Engine

/-- What can be seen of a run: its invocations in order, its findings, and the faults that
the engine has after it. -/
structure RunRecord where
  invocations : List Invocation
  findings : List Finding
  faults : List CheckFault

/-- The records of several runs of one engine, each run starting where the one before it
ended. -/
def runs (engine : Engine) : List (List Entity) → List RunRecord
  | [] => []
  | entities :: later =>
    let (found, after) := engine.analyze entities
    ⟨engine.invocations entities, found, after.faults⟩ :: after.runs later

/-- The checks of single entities that the filters let run and that list a kind. -/
def checksOf (config : EngineConfig) (registry : Registry) (kind : String) :
    List ResourceCheck :=
  registry.resourceChecks.filter fun check =>
    config.allows check.metadata && decide (kind ∈ check.metadata.resourceTypes)

/-- The checks that relate entities and that the filters let run. -/
def relatingChecks (config : EngineConfig) (registry : Registry) : List CrossCheck :=
  registry.crossChecks.filter fun check => config.allows check.metadata

/-- What a run should give: each entity in turn is shown to the checks of its kind, and
then each relating check is shown all entities. An invocation that breaks off adds nothing
to the findings and one fault, which names the entity if there was one. -/
def expectedRun (config : EngineConfig) (registry : Registry) (entities : List Entity) :
    RunRecord where
  invocations :=
    (entities.flatMap fun entity => (checksOf config registry entity.kind).map fun check =>
      ⟨check.metadata.id, some entity.address, check.evaluate entity⟩) ++
    (relatingChecks config registry).map fun check =>
      ⟨check.metadata.id, none, check.evaluate entities⟩
  findings :=
    (entities.flatMap fun entity => (checksOf config registry entity.kind).flatMap fun check =>
      (check.evaluate entity).found) ++
    (relatingChecks config registry).flatMap fun check => (check.evaluate entities).found
  faults :=
    (entities.flatMap fun entity => (checksOf config registry entity.kind).filterMap fun check =>
      (check.evaluate entity).fault?.map fun message =>
        ⟨check.metadata.id, some entity.address, message⟩) ++
    (relatingChecks config registry).filterMap fun check =>
      (check.evaluate entities).fault?.map fun message => ⟨check.metadata.id, none, message⟩

/-- An engine that runs the checks which filters select from a registry, whatever faults it
has. Runs keep this, and nothing else of an engine decides what a run gives. -/
structure Serves (engine : Engine) (config : EngineConfig) (registry : Registry) : Prop where
  single : engine.resourceChecks =
    registry.resourceChecks.filter fun check => config.allows check.metadata
  relating : engine.crossChecks = relatingChecks config registry

/-- A new engine serves its registry. -/
theorem serves_create (config : EngineConfig) (registry : Registry) :
    (create config registry).Serves config registry := ⟨rfl, rfl⟩

/-- A run changes the faults of an engine only. -/
theorem Serves.analyze {engine : Engine} {config : EngineConfig} {registry : Registry}
    (serves : engine.Serves config registry) (entities : List Entity) :
    (engine.analyze entities).2.Serves config registry := ⟨serves.single, serves.relating⟩

/-- The checks that the table gives for an entity are those of its kind. -/
theorem Serves.checksFor {engine : Engine} {config : EngineConfig} {registry : Registry}
    (serves : engine.Serves config registry) (kind : String) :
    (DispatchTable.ofChecks engine.resourceChecks).checksFor kind =
      checksOf config registry kind := by
  rw [DispatchTable.checksFor_ofChecks, serves.single, List.filter_filter, checksOf]
  simp only [Bool.and_comm]

/-- One run of an engine that serves a registry gives what it should. -/
theorem Serves.run {engine : Engine} {config : EngineConfig} {registry : Registry}
    (serves : engine.Serves config registry) (entities : List Entity) :
    (⟨engine.invocations entities, (engine.analyze entities).1,
        (engine.analyze entities).2.faults⟩ : RunRecord) =
      expectedRun config registry entities := by
  have invoked : engine.invocations entities =
      (expectedRun config registry entities).invocations := by
    simp only [invocations, serves.checksFor, serves.relating, expectedRun]
  simp only [Engine.analyze, invoked]
  simp [expectedRun, List.flatMap_append, List.flatMap_assoc, List.flatMap_map,
    List.filterMap_append, List.filterMap_flatMap, List.filterMap_map, Function.comp_def,
    Invocation.fault?]

end Engine

end InfraReview
