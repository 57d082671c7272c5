import InfraReview.Proofs.Hcl.Regular
import InfraReview.Proofs.Plan.Regular
import InfraReview.Source

/-!
# Entities as they are read

Whether an entity comes from a plan or from source text, it is regular, and it goes by what is
written where it comes from. Of a plan it is asked that an object has each name once, which a plan
in writing cannot break; of source text, that a body has each key once and without quotes.

No reading gives the constructor of entities an empty kind: a plan with an empty type is rejected
before, and so is a block with an empty label.
-/

namespace InfraReview

namespace Source

/-- An entity goes by what its block says: its name is the second label of the block, and the entity
of a data source has the first one behind the mark of data sources as its kind. Its address is put
together from its kind and its name. -/
structure CalledAs (block : Block) (entity : Entity) : Prop where
  address : entity.address = entity.kind ++ "." ++ entity.localName
  localName : block.labels[1]? = some entity.localName
  dataKind : entity.mode = "data" →
    ∃ type, block.labels[0]? = some type ∧ entity.kind = "data." ++ type

/-- The blocks that declare entities. -/
def declaring (blocks : List Block) : List Block :=
  blocks.filter fun block => entityTypes.any fun type => block.type == .text type

/-- An entity is declared by a block with two labels that are not empty; it goes by them and has the
tables of the block. -/
theorem calledAs_of_toEntity {file : String} {block : Block} {entity : Entity}
    (declared : toEntity file block = .ok entity) :
    CalledAs block entity ∧ entity.kind ≠ "" ∧ entity.localName ≠ "" ∧
      entity.attributes = block.attributes ∧ entity.blocks = block.blocks := by
  unfold toEntity at declared
  split at declared
  · rename_i type name labels found
    split at declared
    · cases declared
    · rename_i typed
      split at declared
      · cases declared
      · rename_i named
        cases declared
        refine ⟨⟨rfl, by simp [found], fun isData => ⟨type, by simp [found], ?_⟩⟩, ?_,
          by simpa using named, rfl, rfl⟩
        · split at isData
          · rename_i same
            exact if_pos same
          · simp at isData
        · split
          · simp [BlockTable.dataMark]
          · simpa using typed
  · cases declared

/-- The entity of a block with orderly tables is regular and goes by what the block says. -/
theorem regular_of_toEntity {file : String} {block : Block} {entity : Entity}
    (declared : toEntity file block = .ok entity)
    (orderly : Orderly block.attributes block.blocks) :
    CalledAs block entity ∧ entity.Regular := by
  obtain ⟨called, kind, localName, attributes, blocks⟩ := calledAs_of_toEntity declared
  exact ⟨called, .of (attributes ▸ blocks ▸ orderly) kind localName⟩

/-- Entities are declared by blocks one by one, in order. -/
theorem forall₂_of_toEntities {file : String} {blocks : List Block} {entities : List Entity}
    (done : toEntities file blocks = .ok entities) :
    List.Forall₂ (fun block entity => toEntity file block = .ok entity) blocks entities := by
  induction blocks generalizing entities with
  | nil =>
    cases done
    exact .nil
  | cons block blocks inductionHypothesis =>
    rw [toEntities] at done
    obtain ⟨entity, own, done⟩ := ok_of_bind done
    obtain ⟨others, behind, same⟩ := ok_of_bind done
    cases same
    exact .cons own (inductionHypothesis behind)

/-- The entities of a plain text are regular, and each of them goes by what its block says, which is
one of those that declare entities. -/
theorem ofEntries_regular {file : String} {found : List (Key × Hcl.Tree)}
    {entities : List Entity} (plain : Hcl.PlainText found)
    (done : ofEntries file found = .ok entities) :
    ∃ blocks, blocksOf found = .ok blocks ∧
      List.Forall₂ (fun block entity => CalledAs block entity ∧ entity.Regular)
        (declaring blocks) entities := by
  obtain ⟨blocks, read, done⟩ := ok_of_bind done
  refine ⟨blocks, read, ?_⟩
  have inOrder := ok_of_mapError read
  have orderly := Hcl.orderly_blocksInOrder plain inOrder
  have each := (List.forall₂_and_left _ _).mpr
    ⟨fun block member => orderly block (List.mem_of_mem_filter member),
      forall₂_of_toEntities (ok_of_mapError done)⟩
  refine each.imp ?_
  rintro block entity ⟨tables, declared⟩
  exact regular_of_toEntity declared tables

end Source

/-- The entities of a plan are regular and go by what their resources say, when the plan has its
names once. The entities of a plain text are regular and go by what their blocks say. And no reading
gives the constructor of entities a kind that it does not accept. -/
theorem entities_regular :
    (∀ (table : BlockTable) (source : String) (document : Plan.Document) (entities : List Entity),
      document.NamesOnce → Plan.read table source document = .ok entities →
      ∃ members found, document.decode = .ok members ∧ Plan.survey members = .ok found ∧
        List.Forall₂ (fun resource entity => Plan.CalledAs resource entity ∧ entity.Regular)
          (Plan.kept found.destroyed found.visits) entities) ∧
    (∀ (file : String) (found : List (Key × Hcl.Tree)) (entities : List Entity),
      Hcl.PlainText found → Source.ofEntries file found = .ok entities →
      ∃ blocks, Source.blocksOf found = .ok blocks ∧
        List.Forall₂ (fun block entity => Source.CalledAs block entity ∧ entity.Regular)
          (Source.declaring blocks) entities) ∧
    (∀ (resource : Plan.Members) (mode type : String),
      Plan.requiredText resource "type" = .ok type →
      Entity.AcceptsKind (Plan.entityKind mode type)) ∧
    ∀ (file : String) (block : Block) (entity : Entity),
      Source.toEntity file block = .ok entity → Entity.AcceptsKind entity.kind := by
  refine ⟨fun _ _ _ _ once done => Plan.read_regular once done,
    fun _ _ _ plain done => Source.ofEntries_regular plain done, ?_, ?_⟩
  · intro resource mode type required
    refine Entity.acceptsKind_of_ne_empty (Plan.entityKind_ne_empty _ ?_)
    unfold Plan.requiredText at required
    split at required
    · split at required
      · cases required
      · rename_i filled
        cases required
        simpa using filled
    · cases required
  · intro file block entity declared
    obtain ⟨_, kind, _⟩ := Source.calledAs_of_toEntity declared
    exact Entity.acceptsKind_of_ne_empty kind

/-- A data source with blocks in blocks, a null and an integer in a plan, and one in source text. -/
theorem data_source_regular :
    let expiration : Json := .object [("days", .int 30), ("date", .null)]
    let rule : Json := .object [("enabled", .bool true), ("expiration", .array [expiration])]
    let resource : Plan.Members := [
      ("address", .string "module.a.data.aws_s3_bucket.logs"), ("mode", .string "data"),
      ("type", .string "aws_s3_bucket"), ("name", .string "logs"),
      ("values", .object [("acl", .null), ("lifecycle_rule", .array [rule])])]
    let members : Plan.Members := [
      ("planned_values", .object [("root_module", .object [
        ("resources", .array [.object resource])])])]
    let grant : List (Key × Hcl.Tree) := [
      (.text "__start_line__", .int 3), (.text "type", .text "Group")]
    let body : List (Key × Hcl.Tree) := [
      (.text "__start_line__", .int 1), (.text "acl", .null),
      (.text "grant", .list [.map grant])]
    let found : List (Key × Hcl.Tree) := [
      (.text "data", .list [.map [(.text "\"aws_s3_bucket\"", .map [(.text "logs", .map body)])]])]
    ∃ planned declared : Entity,
      Plan.read .standard "tfplan" (.decoded members) = .ok [planned] ∧
      Source.ofEntries "main.tf" found = .ok [declared] ∧
      Plan.CalledAs resource planned ∧ planned.kind = "data.aws_s3_bucket" ∧ planned.Regular ∧
      declared.address = "data.aws_s3_bucket.logs" ∧ declared.Regular ∧
      Entity.AcceptsKind planned.kind := by
  intro expiration rule resource members grant body found
  have once : Plan.Document.NamesOnce (.decoded members) := by
    simp [Plan.Document.NamesOnce, members, resource, rule, expiration]
  have grantPlain : Hcl.PlainBody grant :=
    .of (by decide) (by simp [grant]; decide) (by simp [grant, Hcl.Inside])
  have bodyPlain : Hcl.PlainBody body := by
    refine .of (by decide) (by simp [body]; decide) ?_
    have marked : Hcl.isMarked grant = true := rfl
    simpa [body, Hcl.inside_list, Hcl.leads_marked marked, Hcl.Inside] using grantPlain
  have plain : Hcl.PlainText found := by
    have marked : Hcl.isMarked body = true := rfl
    have name : Hcl.isMarked [(.text "logs", .map body)] = false := rfl
    have type : Hcl.isMarked
      [(.text "\"aws_s3_bucket\"", .map [(.text "logs", .map body)])] = false := rfl
    simpa [Hcl.PlainText, found, Hcl.inside_list, Hcl.leads_unmarked type, Hcl.leads_unmarked name,
      Hcl.leads_marked marked] using bodyPlain
  obtain ⟨block, top⟩ : ∃ block, Hcl.topBlocks found = .ok [block] ∧ block.type = .text "data" ∧
      block.labels = ["aws_s3_bucket", "logs"] := ⟨_, rfl, rfl, rfl⟩
  have only : Source.blocksOf found = .ok [block] := by
    simp [Source.blocksOf, Hcl.blocksInOrder, top, Except.map, Except.mapError]
  obtain ⟨declared, parsed, address⟩ : ∃ declared : Entity,
      Source.ofEntries "main.tf" found = .ok [declared] ∧
      declared.address = "data.aws_s3_bucket.logs" := by
    rw [Source.ofEntries, only]
    simp [Source.entityTypes, top, Source.toEntities, Source.toEntity, bind, Except.bind,
      Except.mapError]
    rfl
  obtain ⟨ofPlans, ofTexts, accepted, _⟩ := entities_regular
  obtain ⟨_, _, decoded, surveyed, planned⟩ :=
    ofPlans .standard "tfplan" (.decoded members) [_] once rfl
  obtain ⟨_, _, each⟩ := ofTexts "main.tf" found [declared] plain parsed
  obtain ⟨_, _, ⟨_, declaredRegular⟩, _⟩ := List.forall₂_cons_right_iff.mp each
  cases decoded
  cases surveyed
  obtain ⟨called, plannedRegular⟩ := (List.forall₂_cons.mp planned).1
  exact ⟨_, _, rfl, parsed, called, rfl, plannedRegular, address, declaredRegular,
    accepted resource "data" "aws_s3_bucket" rfl⟩

end InfraReview
