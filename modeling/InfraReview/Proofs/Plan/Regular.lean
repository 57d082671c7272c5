import InfraReview.Proofs.Entity.Regular
import InfraReview.Proofs.Json.Names
import InfraReview.Proofs.Plan.Breakdown

/-!
# Regular entities of a plan

A member of the values of a resource becomes an attribute or blocks of its own name, and an object
has each name once. So no two members meet in the tables, and the tables are orderly at every depth,
with whatever table of blocks they are read.

The walk through the modules hands every resource on as it stands in the plan, and an entity that is
made of one has the address, the name and the type that are written there.
-/

namespace InfraReview.Plan

/-! ### Values -/

/-- What a member adds to the tables stands under its name. -/
theorem tableKeys_splitMember {place : Option BlockTree} {name : String} {value : Json}
    {contents : Attributes × NestedBlocks} (split : splitMember place name value = .ok contents) :
    ∀ key ∈ tableKeys contents.1 contents.2, key = .text name := by
  obtain ⟨attributes, blocks⟩ := contents
  cases splitMember_ok split <;> simp [tableKeys]

/-- What the members of an object add to the tables stands under their names. -/
theorem tableKeys_splitMembers {tree : BlockTree} {members : Members}
    {contents : Attributes × NestedBlocks} (split : splitMembers tree members = .ok contents) :
    ∀ key ∈ tableKeys contents.1 contents.2, ∃ name ∈ members.map Prod.fst, key = .text name := by
  induction members generalizing contents with
  | nil =>
    rw [splitMembers] at split
    cases split
    simp [tableKeys]
  | cons member members inductionHypothesis =>
    rw [splitMembers] at split
    obtain ⟨own, ownSplit, rest⟩ := ok_of_bind split
    obtain ⟨others, othersSplit, same⟩ := ok_of_bind rest
    cases same
    intro key found
    rcases mem_tableKeys_append.mp found with first | later
    · exact ⟨member.1, List.mem_cons_self, tableKeys_splitMember ownSplit key first⟩
    · obtain ⟨name, listed, same⟩ := inductionHypothesis othersSplit key later
      exact ⟨name, List.mem_cons_of_mem _ listed, same⟩

mutual

/-- The members of an object that has each name once give orderly tables. Proof: by recursion on the
document along the reading of its values; what the first member adds stands under its name, which no
other one has. -/
theorem orderly_splitMembers : ∀ (members : Members) (tree : BlockTree)
    {contents : Attributes × NestedBlocks}, (Json.object members).NamesOnce →
    splitMembers tree members = .ok contents → Orderly contents.1 contents.2
  | [], _, _, _, split => by
    rw [splitMembers] at split
    cases split
    exact .nil
  | (name, value) :: members, tree, _, once, split => by
    rw [splitMembers] at split
    obtain ⟨own, ownSplit, rest⟩ := ok_of_bind split
    obtain ⟨others, othersSplit, same⟩ := ok_of_bind rest
    cases same
    obtain ⟨absent, names⟩ := List.nodup_cons.mp once.names
    obtain ⟨first, values⟩ := List.forall_mem_cons.mp once.values
    refine (orderly_splitMember value _ name first ownSplit).append
      (orderly_splitMembers members tree (.object names values) othersSplit) ?_
    intro key mine theirs
    obtain ⟨other, listed, same⟩ := tableKeys_splitMembers othersSplit key theirs
    rw [tableKeys_splitMember ownSplit key mine, Key.text.injEq] at same
    exact absent (same ▸ listed)

/-- One member gives orderly tables, at every place of the table of blocks. -/
theorem orderly_splitMember : ∀ (value : Json) (place : Option BlockTree) (name : String)
    {contents : Attributes × NestedBlocks}, value.NamesOnce →
    splitMember place name value = .ok contents → Orderly contents.1 contents.2
  | .null, _, _, _, _, split => by
    rw [splitMember] at split
    cases split
    exact .nil
  | .bool _, _, name, _, _, split | .int _, _, name, _, _, split | .double _, _, name, _, _, split
  | .string _, _, name, _, _, split => by
    rw [splitMember] at split
    · obtain ⟨value, _, rfl⟩ := ok_of_map split
      exact .single name value
    all_goals simp
  | .object members, none, name, _, _, split => by
    rw [splitMember] at split
    obtain ⟨entries, _, rfl⟩ := ok_of_map split
    exact .single name (.map entries)
  | .object members, some tree, name, _, once, split => by
    rw [splitMember] at split
    obtain ⟨contents, inside, same⟩ := ok_of_bind split
    cases same
    have inner := orderly_splitMembers members tree once inside
    exact .group (List.cons_ne_nil _ _) (by simp) (by simpa using inner)
  | .array items, none, name, _, _, split => by
    rw [splitMember] at split
    obtain ⟨values, _, rfl⟩ := ok_of_map split
    exact .single name (.list values)
  | .array items, some tree, name, _, once, split => by
    rw [splitMember] at split
    split at split
    · obtain ⟨blocks, inside, same⟩ := ok_of_bind split
      cases same
      have each := orderly_splitItems items tree name once.items inside
      by_cases empty : blocks = []
      · simpa [empty] using Orderly.nil
      · simpa [empty] using Orderly.group empty (fun block member => (each block member).1)
          fun block member => (each block member).2
    · obtain ⟨values, _, rfl⟩ := ok_of_map split
      exact .single name (.list values)

/-- The objects of a list give blocks of the type that is asked for, with orderly tables. -/
theorem orderly_splitItems : ∀ (items : List Json) (tree : BlockTree) (name : String)
    {blocks : List Block}, (∀ item ∈ items, item.NamesOnce) →
    splitItems tree name items = .ok blocks →
    ∀ block ∈ blocks, block.type = .text name ∧ Orderly block.attributes block.blocks
  | [], _, _, _, _, split => by
    rw [splitItems] at split
    cases split
    exact List.forall_mem_nil _
  | item :: items, tree, name, _, once, split => by
    obtain ⟨own, rest⟩ := List.forall_mem_cons.mp once
    cases item with
    | object members =>
      rw [splitItems] at split
      obtain ⟨contents, inside, following⟩ := ok_of_bind split
      obtain ⟨others, behind, same⟩ := ok_of_bind following
      cases same
      exact List.forall_mem_cons.mpr ⟨⟨rfl, orderly_splitMembers members tree own inside⟩,
        orderly_splitItems items tree name rest behind⟩
    | _ => exact orderly_splitItems items tree name rest (by simpa [splitItems] using split)

end

/-! ### The walk -/

/-- The resources among a module's own have their names once when the module has. -/
theorem namesOnce_of_ownVisits {module : Members} (once : (Json.object module).NamesOnce)
    {resource : Members} (met : .resource resource ∈ ownVisits module) :
    (Json.object resource).NamesOnce := by
  have listed := once.member "resources"
  unfold ownVisits at met
  split at met
  · cases met
  · rename_i entries found
    rw [found] at listed
    obtain ⟨entry, member, same⟩ := List.mem_map.mp met
    cases entry with
    | object _ =>
      cases same
      exact listed.items _ member
    | _ => cases same
  · simp at met

mutual

/-- The resources in an entry for a child module have their names once when the entry has. -/
theorem namesOnce_of_childVisits : ∀ (entry : Json) {resource : Members}, entry.NamesOnce →
    .resource resource ∈ childVisits entry → (Json.object resource).NamesOnce
  | .object members, _, once, met => by
    rw [childVisits] at met
    rcases List.mem_append.mp met with own | below
    · exact namesOnce_of_ownVisits once own
    · exact namesOnce_of_nestedVisits members once.values below
  | .null, _, _, met | .bool _, _, _, met | .int _, _, _, met | .double _, _, _, met
  | .string _, _, _, met | .array _, _, _, met => by simp [childVisits] at met

/-- The resources below a module have their names once when the values of the module have. -/
theorem namesOnce_of_nestedVisits : ∀ (members : Members) {resource : Members},
    (∀ member ∈ members, member.2.NamesOnce) → .resource resource ∈ nestedVisits members →
    (Json.object resource).NamesOnce
  | [], _, _, met => by simp [nestedVisits] at met
  | (name, value) :: members, _, once, met => by
    obtain ⟨first, others⟩ := List.forall_mem_cons.mp once
    rw [nestedVisits] at met
    split at met
    · exact namesOnce_of_listVisits value first met
    · exact namesOnce_of_nestedVisits members others met

/-- The resources in a member for child modules have their names once when the member has. -/
theorem namesOnce_of_listVisits : ∀ (children : Json) {resource : Members},
    children.NamesOnce → .resource resource ∈ listVisits children →
    (Json.object resource).NamesOnce
  | .array entries, _, once, met => by
    rw [listVisits] at met
    exact namesOnce_of_entryVisits entries once.items met
  | .null, _, _, met | .bool _, _, _, met | .int _, _, _, met | .double _, _, _, met
  | .string _, _, _, met | .object _, _, _, met => by
    rw [listVisits] at met
    · split at met <;> simp at met
    all_goals simp

/-- The resources in a list of child modules have their names once when the entries have. -/
theorem namesOnce_of_entryVisits : ∀ (entries : List Json) {resource : Members},
    (∀ entry ∈ entries, entry.NamesOnce) → .resource resource ∈ entryVisits entries →
    (Json.object resource).NamesOnce
  | [], _, _, met => by simp [entryVisits] at met
  | entry :: entries, _, once, met => by
    obtain ⟨first, others⟩ := List.forall_mem_cons.mp once
    rw [entryVisits] at met
    rcases List.mem_append.mp met with own | later
    · exact namesOnce_of_childVisits entry first own
    · exact namesOnce_of_entryVisits entries others later

end

/-- What a survey of a plan has found. -/
theorem survey_ok {members : Members} {found : Survey} (surveyed : survey members = .ok found) :
    ∃ planned root, Json.member members "planned_values" = .object planned ∧
      Json.member planned "root_module" = .object root ∧ found.visits = moduleVisits root ∧
      destroyedAddresses (Json.member members "resource_changes") = .ok found.destroyed := by
  dsimp only [survey] at surveyed
  split at surveyed
  · rename_i planned hasPlanned
    obtain ⟨_, ⟨⟩, surveyed⟩ := ok_of_bind surveyed
    split at surveyed
    · rename_i root hasRoot
      obtain ⟨_, ⟨⟩, surveyed⟩ := ok_of_bind surveyed
      obtain ⟨destroyed, changes, same⟩ := ok_of_bind surveyed
      obtain rfl := Except.ok.inj same
      exact ⟨planned, root, hasPlanned, hasRoot, rfl, changes⟩
    · cases surveyed
  · cases surveyed

/-- The resources that are met in a plan have their names once when the plan has. -/
theorem namesOnce_of_survey {members : Members} {found : Survey}
    (once : (Json.object members).NamesOnce) (surveyed : survey members = .ok found)
    {resource : Members} (met : .resource resource ∈ found.visits) :
    (Json.object resource).NamesOnce := by
  obtain ⟨planned, root, hasPlanned, hasRoot, visits, -⟩ := survey_ok surveyed
  have values := hasPlanned ▸ once.member "planned_values"
  have module := hasRoot ▸ values.member "root_module"
  rcases List.mem_append.mp (visits ▸ met) with own | below
  · exact namesOnce_of_ownVisits module own
  · exact namesOnce_of_nestedVisits root module.values below

/-! ### Entities -/

/-- An entity is described by the resource that it is made of. -/
theorem describes_of_normalize {table : BlockTable} {source : String} {members : Members}
    {entity : Entity} (made : normalize table source members = .ok entity) :
    Describes table source members entity := by
  cases unfilled : unfilledField? members with
  | some field =>
    rw [normalize_unfilled unfilled] at made
    cases made
  | none =>
    have modal : (Json.member members "mode").Short := by
      by_contra long
      rw [normalize_modeless table source unfilled long] at made
      cases made
    obtain ⟨mode, hasMode⟩ := resourceMode_of_short modal
    obtain ⟨address, type, name, identified⟩ := identified_of_filled unfilled
    rcases identified.values with ⟨values, hasValues, _, _⟩ | ⟨_, rejected⟩
    · rw [normalize_eq identified hasMode hasValues] at made
      split at made
      · rename_i contents split
        cases made
        exact ⟨address, type, name, values,
          describedBy_entityOf source identified hasMode hasValues split⟩
      · cases made
    · rw [rejected table source mode hasMode] at made
      cases made

/-- A visit that comes to something is that of a resource, which is passed over when it is destroyed
and has its entity otherwise. -/
theorem step_cases {table : BlockTable} {source : String} {destroyed : List String} {visit : Visit}
    {current : Step} (done : step table source destroyed visit = .ok current) :
    (∃ members address, visit = .resource members ∧ isDestroyed destroyed members = true ∧
      current = .passedOver address) ∨
    ∃ members entity, visit = .resource members ∧ isDestroyed destroyed members = false ∧
      current = .entity entity ∧ normalize table source members = .ok entity := by
  cases visit with
  | broken error => cases done
  | resource members =>
    by_cases gone : isDestroyed destroyed members = true
    · obtain ⟨address, passed⟩ := step_destroyed table source gone
      rw [passed] at done
      cases done
      exact .inl ⟨members, address, rfl, gone, rfl⟩
    · have alive : isDestroyed destroyed members = false := by simpa using gone
      by_cases hashable : isHashable (Json.member members "address") = true
      · rw [step_alive table source hashable alive] at done
        obtain ⟨entity, made, rfl⟩ := ok_of_map done
        exact .inr ⟨members, entity, rfl, alive, rfl, made⟩
      · have unhashable : Breaks destroyed (.resource members) := .address (by simpa using hashable)
        have broken := step_breaks table source unhashable
        rw [done] at broken
        exact absurd broken (not_breaksDown_ok current)

/-- The entities of visits are those of the resources that are kept, in order. -/
theorem readVisits_kept {table : BlockTable} {source : String} {destroyed : List String}
    {visits : List Visit} {entities : List Entity}
    (done : readVisits table source destroyed visits = .ok entities) :
    List.Forall₂ (fun resource entity => normalize table source resource = .ok entity)
      (kept destroyed visits) entities := by
  induction visits generalizing entities with
  | nil =>
    cases done
    exact .nil
  | cons visit visits inductionHypothesis =>
    rw [readVisits] at done
    obtain ⟨current, stepped, rest⟩ := ok_of_bind done
    obtain ⟨others, read, same⟩ := ok_of_bind rest
    have behind := inductionHypothesis read
    rcases step_cases stepped with ⟨members, address, rfl, gone, rfl⟩ |
      ⟨members, entity, rfl, alive, rfl, made⟩
    · cases same
      simpa [kept, gone] using behind
    · cases same
      simpa [kept, alive] using ⟨made, behind⟩

/-- A resource that is kept is one that is met. -/
theorem met_of_kept {destroyed : List String} {visits : List Visit} {resource : Members}
    (member : resource ∈ kept destroyed visits) : .resource resource ∈ visits := by
  induction visits with
  | nil => cases member
  | cons visit visits inductionHypothesis =>
    cases visit with
    | broken error => exact List.mem_cons_of_mem _ (inductionHypothesis member)
    | resource members =>
      rw [kept] at member
      split at member
      · exact List.mem_cons_of_mem _ (inductionHypothesis member)
      · rcases List.mem_cons.mp member with rfl | later
        · exact List.mem_cons_self
        · exact List.mem_cons_of_mem _ (inductionHypothesis later)

/-- An entity goes by what its resource says: it has the address and the name that are written
there, and the entity of a data source has the type behind the mark of data sources as its kind. -/
structure CalledAs (resource : Members) (entity : Entity) : Prop where
  address : Json.member resource "address" = .string entity.address
  localName : Json.member resource "name" = .string entity.localName
  dataKind : entity.mode = "data" →
    ∃ type, Json.member resource "type" = .string type ∧ entity.kind = "data." ++ type

/-- An entity that is described by a resource goes by what this says. -/
theorem Describes.calledAs {table : BlockTable} {source : String} {resource : Members}
    {entity : Entity} (describes : Describes table source resource entity) :
    CalledAs resource entity := by
  obtain ⟨address, type, name, values, described⟩ := describes
  refine ⟨?_, ?_, fun isData => ⟨type, described.identified.hasType, ?_⟩⟩
  · rw [described.ownAddress, described.identified.hasAddress]
  · rw [described.localName, described.identified.hasName]
  · rw [described.kind, if_pos isData]

/-- The kind of an entity is not empty when its type is not. -/
theorem entityKind_ne_empty (mode : String) {type : String} (filled : type ≠ "") :
    entityKind mode type ≠ "" := by
  unfold entityKind
  split
  · simp [BlockTable.dataMark]
  · exact filled

/-- An entity that is described by a resource with its names once is regular. -/
theorem Describes.regular {table : BlockTable} {source : String} {resource : Members}
    {entity : Entity} (describes : Describes table source resource entity)
    (once : (Json.object resource).NamesOnce) : entity.Regular := by
  obtain ⟨address, type, name, values, described⟩ := describes
  have valuesOnce : (Json.object values).NamesOnce := by
    have own := once.member "values"
    cases described.hasValues with
    | missing _ => exact .object List.nodup_nil (List.forall_mem_nil _)
    | given _ found => exact found ▸ own
  refine .of (orderly_splitMembers values _ valuesOnce described.contents) ?_ ?_
  · rw [described.kind]
    exact entityKind_ne_empty _ (by simpa using described.identified.typeFilled)
  · rw [described.localName]
    simpa using described.identified.nameFilled

/-- A plan has its names once. One that is still a text or bytes has, as it is to be read. -/
def Document.NamesOnce : Document → Prop
  | .decoded members => (Json.object members).NamesOnce
  | .bytes _ | .text _ => True

/-- The members of a plan that has its names once have them once. -/
theorem Document.namesOnce_of_decode {document : Document} {members : Members}
    (once : document.NamesOnce) (decoded : document.decode = .ok members) :
    (Json.object members).NamesOnce := by
  have read {found : Except Json.DocumentFault Json}
      (done : decode.ofJson found = .ok members) : found = .ok (.object members) := by
    unfold decode.ofJson at done
    split at done <;> cases done
    rfl
  cases document with
  | decoded members =>
    cases decoded
    exact once
  | bytes content => exact Json.namesOnce_kept.readBytes (read decoded)
  | text content => exact Json.namesOnce_kept.readText (read decoded)

/-- The entities of a plan that has its names once are regular, and each of them goes by what its
resource says, which is one of those that are met and kept. -/
theorem read_regular {table : BlockTable} {source : String} {document : Document}
    {entities : List Entity} (once : document.NamesOnce)
    (done : read table source document = .ok entities) :
    ∃ members found, document.decode = .ok members ∧ survey members = .ok found ∧
      List.Forall₂ (fun resource entity => CalledAs resource entity ∧ entity.Regular)
        (kept found.destroyed found.visits) entities := by
  obtain ⟨members, decoded, read⟩ := ok_of_bind done
  obtain ⟨found, surveyed, read⟩ := ok_of_bind read
  refine ⟨members, found, decoded, surveyed, ?_⟩
  have namesOnce {resource : Members} (member : resource ∈ kept found.destroyed found.visits) :
      (Json.object resource).NamesOnce :=
    namesOnce_of_survey (document.namesOnce_of_decode once decoded) surveyed (met_of_kept member)
  have each := (List.forall₂_and_left _ _).mpr
    ⟨fun _ member => namesOnce member, readVisits_kept read⟩
  refine each.imp ?_
  rintro resource entity ⟨once, made⟩
  have describes := describes_of_normalize made
  exact ⟨describes.calledAs, describes.regular once⟩

end InfraReview.Plan
