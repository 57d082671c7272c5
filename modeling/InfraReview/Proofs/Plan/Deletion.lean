import Mathlib.Data.List.ReduceOption
import InfraReview.Proofs.Plan.Changes
import InfraReview.Proofs.Plan.Regular

/-!
# Resources that are left out of a plan

The changes of a plan may have several entries for one address: an object that is to be
destroyed is listed beside the one that replaces it. It is said here, for every plan that can be
read, which of its resources have no entity: those for whose address there is an entry with
deletion as its only action, whatever the other entries for the address do.

So a resource that also has a surviving entry is left out. Where all entries for an address do
the same, a resource is left out exactly when deletion is all that is planned for it.
-/

namespace InfraReview.Plan

/-! ### What the entries of the changes say -/

/-- The entries of the changes of a plan. Only a list has any that speak of an address. -/
def changeEntries : Json → List Json
  | .array entries => entries
  | _ => []

/-- An entry is for an address when it is an object whose address is written like that. -/
def IsFor (address : String) (entry : Json) : Prop :=
  ∃ members, entry = .object members ∧ (Json.member members "address").isVacant = false ∧
    (Json.member members "address").shown = .ok address

/-- An entry that plans nothing but a deletion. -/
def OnlyDeletes (entry : Json) : Prop :=
  ∃ members parts, entry = .object members ∧ Json.member members "change" = .object parts ∧
    DeletionAlone (Json.member parts "actions")

/-- Some entry for an address plans nothing but its deletion. -/
def SomeEntryDeletes (entries : List Json) (address : String) : Prop :=
  ∃ entry ∈ entries, IsFor address entry ∧ OnlyDeletes entry

/-- There is an entry for an address, and every such entry plans nothing but its deletion. -/
def EveryEntryDeletes (entries : List Json) (address : String) : Prop :=
  (∃ entry ∈ entries, IsFor address entry) ∧
    ∀ entry ∈ entries, IsFor address entry → OnlyDeletes entry

/-- No address has both an entry that only deletes and one that does not. -/
def EntriesAgree (entries : List Json) : Prop :=
  ∀ address, ∀ entry ∈ entries, ∀ other ∈ entries, IsFor address entry → IsFor address other →
    OnlyDeletes entry → OnlyDeletes other

/-- Where entries agree, one that deletes speaks for all of them. -/
theorem EntriesAgree.every_iff_some {entries : List Json} (agree : EntriesAgree entries)
    (address : String) : EveryEntryDeletes entries address ↔ SomeEntryDeletes entries address := by
  constructor
  · rintro ⟨⟨entry, listed, isFor⟩, every⟩
    exact ⟨entry, listed, isFor, every entry listed isFor⟩
  · rintro ⟨entry, listed, isFor, deletes⟩
    refine ⟨⟨entry, listed, isFor⟩, fun other alsoListed alsoFor => ?_⟩
    exact agree address entry listed other alsoListed isFor alsoFor deletes

/-! ### The addresses that are destroyed -/

/-- What an entry destroys that has an address: nothing, unless it has details with actions. -/
theorem destroyedBy_object {members : Members} {address : Option String}
    (addressed : (Json.member members "address").isVacant = false)
    (told : destroyedBy (.object members) = .ok address) :
    address = none ∨ ∃ parts text, Json.member members "change" = .object parts ∧
      onlyDeletes (Json.member parts "actions") = .ok true ∧
      (Json.member members "address").shown = .ok text ∧ address = some text := by
  by_cases plain : (Json.member members "change").isVacant = true
  · refine .inl ?_
    simpa [destroyedBy, addressed, plain, bind, Except.bind, eq_comm] using told
  cases detail : Json.member members "change" with
  | object parts =>
    have filled : (Json.object parts).isVacant = false := by simpa [detail] using plain
    simp only [destroyedBy, addressed, detail, filled, Bool.false_eq_true, if_false] at told
    obtain ⟨deletes, found, same⟩ := ok_of_bind told
    cases deletes with
    | false => exact .inl (Except.ok.inj same).symm
    | true =>
      obtain ⟨text, written, same⟩ := ok_of_map same
      exact .inr ⟨parts, text, rfl, found, ok_of_mapError written, same.symm⟩
  | _ => simp_all [destroyedBy, bind, Except.bind]

/-- An entry destroys the address that it is for when it plans nothing but a deletion. -/
theorem destroyedBy_iff (entry : Json) (address : String) :
    destroyedBy entry = .ok (some address) ↔ IsFor address entry ∧ OnlyDeletes entry := by
  constructor
  · intro destroys
    cases entry with
    | object members =>
      by_cases addressed : (Json.member members "address").isVacant = false
      · rcases destroyedBy_object addressed destroys with
          none | ⟨parts, text, detail, found, written, same⟩
        · cases none
        · obtain rfl := Option.some.inj same
          exact ⟨⟨members, rfl, addressed, written⟩,
            members, parts, rfl, detail, (onlyDeletes_iff _).mp found⟩
      · simp [destroyedBy, addressed] at destroys
    | _ => cases destroys
  · rintro ⟨⟨members, rfl, addressed, written⟩, ⟨_, parts, ⟨⟩, detail, alone⟩⟩
    have filled : (Json.object parts).isVacant = false := by
      cases parts with
      | nil => cases alone
      | cons part parts => rfl
    simp [destroyedBy, addressed, detail, filled, (onlyDeletes_iff _).mpr alone, shown, written,
      bind, Except.bind, Except.mapError, Except.map]

/-- The addresses that entries destroy are those for which some entry plans nothing but a
deletion. -/
theorem mem_destroyedByAll_iff {entries : List Json} {destroyed : List String}
    (told : destroyedByAll entries = .ok destroyed) (address : String) :
    address ∈ destroyed ↔ SomeEntryDeletes entries address := by
  induction entries generalizing destroyed with
  | nil =>
    cases told
    simp [SomeEntryDeletes]
  | cons entry entries inductionHypothesis =>
    obtain ⟨own, first, rest⟩ := ok_of_bind told
    obtain ⟨others, later, same⟩ := ok_of_bind rest
    obtain rfl := Except.ok.inj same
    have ofFirst : address ∈ own.toList ↔ IsFor address entry ∧ OnlyDeletes entry := by
      rw [← destroyedBy_iff, first]
      simp [Option.mem_toList]
    rw [List.mem_append, ofFirst, inductionHypothesis later]
    simp [SomeEntryDeletes]

/-- The addresses that the changes of a plan destroy are those for which some entry plans nothing
but a deletion. -/
theorem mem_destroyedAddresses_iff {changes : Json} {destroyed : List String}
    (told : destroyedAddresses changes = .ok destroyed) (address : String) :
    address ∈ destroyed ↔ SomeEntryDeletes (changeEntries changes) address := by
  unfold destroyedAddresses at told
  split at told
  · rename_i vacant
    cases told
    cases changes with
    | array entries =>
      obtain rfl : entries = [] := by simpa [Json.isVacant] using vacant
      simp [SomeEntryDeletes, changeEntries]
    | _ => simp [SomeEntryDeletes, changeEntries]
  split at told
  · exact mem_destroyedByAll_iff told address
  · cases told
    simp [SomeEntryDeletes, changeEntries]
  · cases told
    simp [SomeEntryDeletes, changeEntries]
  · cases told

/-! ### What becomes of the resources of a plan -/

/-- What becomes of a resource when a condition on its address decides whether it is left out. -/
structure Fate (table : BlockTable) (source : String) (leftOut : String → Prop)
    (resource : Members) (entity : Option Entity) : Prop where
  told : ∃ address, Json.member resource "address" = .string address ∧
    (entity = none ↔ leftOut address)
  described : ∀ found ∈ entity, Describes table source resource found

/-- The entities of a plan are those of its resources, in the order of the walk, without the ones
that a condition on the entries of the changes and on the address leaves out. -/
def LeavesOut (condition : List Json → String → Prop) (table : BlockTable) (source : String)
    (members : Members) (entities : List Entity) : Prop :=
  ∃ planned root resources outcomes,
    Json.member members "planned_values" = .object planned ∧
    Json.member planned "root_module" = .object root ∧
    moduleVisits root = resources.map .resource ∧
    List.Forall₂
      (Fate table source (condition (changeEntries (Json.member members "resource_changes"))))
      resources outcomes ∧
    entities = outcomes.reduceOption

/-- A resource is left out under either of two conditions that come to the same. -/
theorem LeavesOut.congr {first second : List Json → String → Prop} {table : BlockTable}
    {source : String} {members : Members} {entities : List Entity}
    (leaves : LeavesOut first table source members entities)
    (same : ∀ address, first (changeEntries (Json.member members "resource_changes")) address ↔
      second (changeEntries (Json.member members "resource_changes")) address) :
    LeavesOut second table source members entities := by
  obtain ⟨planned, root, resources, outcomes, hasPlanned, hasRoot, visits, fates, found⟩ := leaves
  refine ⟨planned, root, resources, outcomes, hasPlanned, hasRoot, visits, ?_, found⟩
  refine fates.imp fun resource entity fate => ⟨?_, fate.described⟩
  obtain ⟨address, told, leftOut⟩ := fate.told
  exact ⟨address, told, leftOut.trans (same address)⟩

/-- A resource that is destroyed has an address among those that are destroyed. -/
theorem isDestroyed_iff (destroyed : List String) (members : Members) :
    isDestroyed destroyed members = true ↔
      ∃ address, Json.member members "address" = .string address ∧ address ∈ destroyed := by
  unfold isDestroyed
  split
  · rename_i address told
    simp [told]
  · rename_i untold
    simpa using fun address told => absurd told (untold address)

/-- The visits that come to entities are those of resources, each of which is left out when its
address is destroyed and has its entity otherwise. Proof: by induction on the visits, of which
each comes to one of the two. -/
theorem readVisits_fates {table : BlockTable} {source : String} {destroyed : List String}
    {visits : List Visit} {entities : List Entity}
    (done : readVisits table source destroyed visits = .ok entities) :
    ∃ resources outcomes, visits = resources.map .resource ∧
      List.Forall₂ (Fate table source (· ∈ destroyed)) resources outcomes ∧
      entities = outcomes.reduceOption := by
  induction visits generalizing entities with
  | nil =>
    cases done
    exact ⟨[], [], rfl, .nil, rfl⟩
  | cons visit visits inductionHypothesis =>
    rw [readVisits] at done
    obtain ⟨current, stepped, rest⟩ := ok_of_bind done
    obtain ⟨others, read, same⟩ := ok_of_bind rest
    obtain ⟨resources, outcomes, rfl, fates, rfl⟩ := inductionHypothesis read
    rcases step_cases stepped with ⟨resource, _, rfl, gone, rfl⟩ |
      ⟨resource, entity, rfl, alive, rfl, made⟩
    · cases same
      obtain ⟨address, told, listed⟩ := (isDestroyed_iff _ _).mp gone
      have fate : Fate table source (· ∈ destroyed) resource none :=
        ⟨⟨address, told, by simpa using listed⟩, by simp⟩
      exact ⟨resource :: resources, none :: outcomes, rfl, .cons fate fates, rfl⟩
    · cases same
      have describes := describes_of_normalize made
      have told := describes.calledAs.address
      have spared : entity.address ∉ destroyed := fun listed => by
        rw [(isDestroyed_iff _ _).mpr ⟨_, told, listed⟩] at alive
        cases alive
      have fate : Fate table source (· ∈ destroyed) resource (some entity) :=
        ⟨⟨_, told, by simpa using spared⟩, by simpa using describes⟩
      exact ⟨resource :: resources, some entity :: outcomes, rfl, .cons fate fates, rfl⟩

/-- A resource of a plan that can be read is left out exactly when some entry for its address
plans nothing but a deletion; every other one has its entity, in the order of the walk. Where the
entries for each address agree, it is left out exactly when there is such an entry and all of
them plan nothing but a deletion. -/
theorem some_deletion_leaves_out {table : BlockTable} {source : String} {members : Members}
    {entities : List Entity} (done : read table source (.decoded members) = .ok entities) :
    LeavesOut SomeEntryDeletes table source members entities ∧
      (EntriesAgree (changeEntries (Json.member members "resource_changes")) →
        LeavesOut EveryEntryDeletes table source members entities) := by
  obtain ⟨_, ⟨⟩, done⟩ := ok_of_bind done
  obtain ⟨found, surveyed, done⟩ := ok_of_bind done
  obtain ⟨planned, root, hasPlanned, hasRoot, visits, changes⟩ := survey_ok surveyed
  obtain ⟨resources, outcomes, listed, fates, made⟩ := readVisits_fates done
  have leaves : LeavesOut SomeEntryDeletes table source members entities := by
    refine ⟨planned, root, resources, outcomes, hasPlanned, hasRoot, visits ▸ listed, ?_, made⟩
    refine fates.imp fun resource entity fate => ⟨?_, fate.described⟩
    obtain ⟨address, told, leftOut⟩ := fate.told
    exact ⟨address, told, leftOut.trans (mem_destroyedAddresses_iff changes address)⟩
  exact ⟨leaves, fun agree => leaves.congr fun address => (agree.every_iff_some address).symm⟩

/-- A plan with two resources. The first one replaces an object of its address that is to be
destroyed, and so has two entries in the changes; the second one is itself replaced. -/
def deposedPlan : Members :=
  let resource (address : String) : Json :=
    .object [("address", .string address), ("type", .string "t"), ("name", .string "n")]
  let entry (address : String) (actions : List Json) : Json :=
    .object [("address", .string address), ("change", .object [("actions", .array actions)])]
  [("planned_values", .object [("root_module", .object [("resources",
      .array [resource "t.live", resource "t.new"])])]),
    ("resource_changes", .array
      [entry "t.live" [.string "delete"], entry "t.live" [.string "no-op"],
        entry "t.new" [.string "delete", .string "create"]])]

/-- The one entity that is read from it. -/
def replacedEntity : Entity where
  kind := "t"
  localName := "n"
  attributes := []
  blocks := []
  fullAddress := some "t.new"
  mode := "managed"
  file := "tfplan"
  line := 0

/-- The plan with two resources has the entity of the second one only. -/
theorem deposed_object_leaves_out :
    read .standard "tfplan" (.decoded deposedPlan) = .ok [replacedEntity] ∧
      LeavesOut SomeEntryDeletes .standard "tfplan" deposedPlan [replacedEntity] := by
  have done : read .standard "tfplan" (.decoded deposedPlan) = .ok [replacedEntity] := by rfl
  exact ⟨done, (some_deletion_leaves_out done).1⟩

/-- A resource may be left out although an entry for its address survives: the first resource of
the plan with two resources is. -/
theorem surviving_resource_left_out :
    ¬ ∀ (table : BlockTable) (source : String) (members : Members) (entities : List Entity),
      read table source (.decoded members) = .ok entities →
        LeavesOut EveryEntryDeletes table source members entities := by
  intro claimed
  have done : read .standard "tfplan" (.decoded deposedPlan) = .ok [replacedEntity] := by rfl
  obtain ⟨_, _, resources, outcomes, ⟨⟩, ⟨⟩, visits, fates, found⟩ := claimed _ _ _ _ done
  obtain ⟨live, others, rfl⟩ : ∃ live others, resources = live :: others := by
    cases resources with
    | nil => cases visits
    | cons live others => exact ⟨live, others, rfl⟩
  obtain ⟨entity, outcomes, fate, -, rfl⟩ := List.forall₂_cons_left_iff.mp fates
  obtain ⟨address, told, leftOut⟩ := fate.told
  have ofLive : Json.member live "address" = .string "t.live" := by
    injection visits with first
    injection first with first
    rw [← first]
    rfl
  cases entity with
  | some entity =>
    obtain rfl : replacedEntity = entity := (List.cons.inj found).1
    have called := (fate.described _ rfl).calledAs.address
    rw [ofLive] at called
    exact absurd (Json.string.inj called) (by decide)
  | none =>
    obtain rfl : "t.live" = address := Json.string.inj (ofLive.symm.trans told)
    obtain ⟨-, every⟩ := leftOut.mp rfl
    obtain ⟨_, parts, ⟨⟩, ⟨⟩, alone⟩ :=
      every _ (List.mem_cons_of_mem _ List.mem_cons_self) ⟨_, rfl, rfl, rfl⟩
    have deletes : ("no-op" == "delete") = true := Except.ok.inj ((onlyDeletes_iff _).mpr alone)
    exact absurd deletes (by decide)

end InfraReview.Plan
