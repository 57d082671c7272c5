import InfraReview.Proofs.Entity.Reading
import InfraReview.Proofs.Hcl.Grouping

/-!
# Declarations in order

The blocks of a text are read in the order in which they are declared, although they are found
grouped by their types, and so are the entities: one for each block of a resource or a data source.
Blocks of other types are passed over with their labels unread. The first block that lacks a kind
or a name is the error of the whole text, with its line.

One thing can keep the blocks from being read. An attribute at the top of a text means nothing to
the reader, but the search for blocks goes through it all the same and strays there as it does in
the attributes of a block.
-/

namespace InfraReview.Source

open Hcl (TopBlock TopPart declaredBlocks presented? Straight Unmarked)

/-! ### Single blocks -/

/-- A block declares an entity by its first two labels, of which none is empty. The entity has the
attributes, the nested blocks and the line of the block, and the mark of data sources stands before
the kind of one. -/
inductive Declares (file : String) (block : Block) : Entity → Prop where
  | resource {kind name : String} {others : List String} (type : block.type = .text "resource")
      (labels : block.labels = kind :: name :: others) (typed : kind ≠ "") (named : name ≠ "") :
      Declares file block
        ⟨kind, name, block.attributes, block.blocks, none, "managed", file, block.line⟩
  | data {kind name : String} {others : List String} (type : block.type = .text "data")
      (labels : block.labels = kind :: name :: others) (typed : kind ≠ "") (named : name ≠ "") :
      Declares file block
        ⟨"data." ++ kind, name, block.attributes, block.blocks, none, "data", file, block.line⟩

/-- A block has fewer than two labels or an empty one of the two, and what is said of it then. -/
inductive Misnamed (block : Block) : String → Prop where
  | unlabelled (few : block.labels.length < 2) :
      Misnamed block (block.type.shown ++ " block requires a type label and a name label")
  | kindless {name : String} {others : List String} (labels : block.labels = "" :: name :: others) :
      Misnamed block (block.type.shown ++ " block has an empty type label")
  | nameless {kind : String} {others : List String} (labels : block.labels = kind :: "" :: others)
      (typed : kind ≠ "") : Misnamed block (block.type.shown ++ " block has an empty name label")

/-- A block that declares an entity is read as it. -/
theorem toEntity_of_declares {file : String} {block : Block} {entity : Entity}
    (declares : Declares file block entity) : toEntity file block = .ok entity := by
  cases declares with
  | resource type labels typed named => simp [toEntity, type, labels, typed, named]
  | data type labels typed named =>
    simp [toEntity, type, labels, typed, named, BlockTable.dataMark]

/-- A block whose labels are in error is rejected on its line. -/
theorem toEntity_of_misnamed {block : Block} {reason : String} (misnamed : Misnamed block reason)
    (file : String) : toEntity file block = .error ⟨file, block.line, reason⟩ := by
  cases misnamed with
  | unlabelled few =>
    match labels : block.labels, few with
    | [], _ => simp [toEntity, labels]
    | [only], _ => simp [toEntity, labels]
  | kindless labels => simp [toEntity, labels]
  | nameless labels typed => simp [toEntity, labels, typed]

/-- A block of a resource or of a data source declares an entity, or its labels are in error. -/
theorem declares_or_misnamed {block : Block}
    (declaring : block.type = .text "resource" ∨ block.type = .text "data") (file : String) :
    (∃ entity, Declares file block entity) ∨ ∃ reason, Misnamed block reason := by
  match labels : block.labels with
  | [] => exact .inr ⟨_, .unlabelled (by simp [labels])⟩
  | [only] => exact .inr ⟨_, .unlabelled (by simp [labels])⟩
  | kind :: name :: others =>
    by_cases untyped : kind = ""
    · subst untyped
      exact .inr ⟨_, .kindless labels⟩
    by_cases unnamed : name = ""
    · subst unnamed
      exact .inr ⟨_, .nameless labels untyped⟩
    left
    rcases declaring with resource | data
    · exact ⟨_, .resource resource labels untyped unnamed⟩
    · exact ⟨_, .data data labels untyped unnamed⟩

/-! ### Blocks in order -/

/-- The blocks that declare entities are those of resources and of data sources. -/
theorem type_of_mem_declaring {blocks : List Block} {block : Block}
    (member : block ∈ declaring blocks) :
    block.type = .text "resource" ∨ block.type = .text "data" := by
  simpa [entityTypes] using (List.mem_filter.mp member).2

/-- Blocks of resources and data sources all declare entities, or one of them is the first whose
labels are in error. -/
theorem all_declare_or_first_misnamed {blocks : List Block}
    (types : ∀ block ∈ blocks, block.type = .text "resource" ∨ block.type = .text "data")
    (file : String) :
    (∃ entities, List.Forall₂ (Declares file) blocks entities) ∨
      ∃ before block after reason, blocks = before ++ block :: after ∧
        (∀ earlier ∈ before, ∃ entity, Declares file earlier entity) ∧ Misnamed block reason := by
  induction blocks with
  | nil => exact .inl ⟨[], .nil⟩
  | cons block blocks inductionHypothesis =>
    obtain ⟨own, others⟩ := List.forall_mem_cons.mp types
    rcases declares_or_misnamed own file with ⟨entity, declares⟩ | ⟨reason, misnamed⟩
    · rcases inductionHypothesis others with
        ⟨entities, each⟩ | ⟨before, first, after, reason, rfl, earlier, misnamed⟩
      · exact .inl ⟨entity :: entities, .cons declares each⟩
      · exact .inr ⟨block :: before, first, after, reason, rfl,
          List.forall_mem_cons.mpr ⟨⟨entity, declares⟩, earlier⟩, misnamed⟩
    · exact .inr ⟨[], block, blocks, reason, rfl, by simp, misnamed⟩

/-- Blocks that declare entities are read as them, in order. -/
theorem toEntities_of_declares {file : String} {blocks : List Block} {entities : List Entity}
    (each : List.Forall₂ (Declares file) blocks entities) :
    toEntities file blocks = .ok entities := by
  induction each with
  | nil => rfl
  | cons declares _ inductionHypothesis =>
    rw [toEntities, toEntity_of_declares declares, inductionHypothesis]
    rfl

/-- The first block whose labels are in error is the error of all blocks. -/
theorem toEntities_of_misnamed {file : String} {before after : List Block} {block : Block}
    {reason : String} (earlier : ∀ earlier ∈ before, ∃ entity, Declares file earlier entity)
    (misnamed : Misnamed block reason) :
    toEntities file (before ++ block :: after) = .error ⟨file, block.line, reason⟩ := by
  induction before with
  | nil =>
    rw [List.nil_append, toEntities, toEntity_of_misnamed misnamed]
    rfl
  | cons first before inductionHypothesis =>
    obtain ⟨⟨entity, declares⟩, others⟩ := List.forall_mem_cons.mp earlier
    rw [List.cons_append, toEntities, toEntity_of_declares declares, inductionHypothesis others]
    rfl

section Entities

variable {blocks : List Block}
  (types : ∀ block ∈ blocks, block.type = .text "resource" ∨ block.type = .text "data")
  (file : String)

include types

/-- Blocks of resources and data sources come to entities exactly when they declare them. -/
theorem toEntities_ok_iff (entities : List Entity) :
    toEntities file blocks = .ok entities ↔ List.Forall₂ (Declares file) blocks entities := by
  constructor
  · intro done
    rcases all_declare_or_first_misnamed types file with
      ⟨others, each⟩ | ⟨before, block, after, reason, rfl, earlier, misnamed⟩
    · rw [toEntities_of_declares each] at done
      cases done
      exact each
    · rw [toEntities_of_misnamed earlier misnamed] at done
      cases done
  · exact toEntities_of_declares

/-- Blocks of resources and data sources come to an error exactly when it is the one of the first
block whose labels are in error. -/
theorem toEntities_error_iff (error : Error) :
    toEntities file blocks = .error error ↔
      ∃ before block after reason, blocks = before ++ block :: after ∧
        (∀ earlier ∈ before, ∃ entity, Declares file earlier entity) ∧ Misnamed block reason ∧
        error = ⟨file, block.line, reason⟩ := by
  constructor
  · intro failed
    rcases all_declare_or_first_misnamed types file with
      ⟨entities, each⟩ | ⟨before, block, after, reason, rfl, earlier, misnamed⟩
    · rw [toEntities_of_declares each] at failed
      cases failed
    · rw [toEntities_of_misnamed earlier misnamed] at failed
      cases failed
      exact ⟨before, block, after, reason, rfl, earlier, misnamed, rfl⟩
  · rintro ⟨before, block, after, reason, rfl, earlier, misnamed, rfl⟩
    exact toEntities_of_misnamed earlier misnamed

end Entities

/-- When the lines of the blocks at the top of a text rise, exactly the declared blocks are read in
the order of their declaration, unless an attribute at the top has a value in which the search for
blocks strays, or a label is a mark, or the contents of a block cannot be read. The entities of the
text are those of its resources and data sources in this order, or the first of them that lacks a
kind or a name is its error. -/
theorem declared_in_order {parts : List TopPart} {entries : List (Key × Hcl.Tree)}
    (presented : presented? parts = some (.value (.map entries)))
    (unmarked : ∀ name tree, TopPart.setting name tree ∈ parts → Unmarked tree)
    (rising : (declaredBlocks parts).Pairwise fun earlier later =>
      earlier.firstLine < later.firstLine) (file : String) (found : List Block) :
    (Hcl.blocksInOrder entries = .ok found ↔
      Straight parts ∧ List.Forall₂ TopBlock.Reads (declaredBlocks parts) found) ∧
    (Hcl.blocksInOrder entries = .ok found →
      (∀ entities, ofEntries file entries = .ok entities ↔
        List.Forall₂ (Declares file) (declaring found) entities) ∧
      ∀ fault, ofEntries file entries = .error fault ↔
        ∃ before block after reason, declaring found = before ++ block :: after ∧
          (∀ earlier ∈ before, ∃ entity, Declares file earlier entity) ∧ Misnamed block reason ∧
          fault = .rejected ⟨file, block.line, reason⟩) := by
  refine ⟨Hcl.blocksInOrder_presented presented unmarked rising found, fun read => ?_⟩
  have entities : ofEntries file entries =
      (toEntities file (declaring found)).mapError .rejected := by
    rw [ofEntries, blocksOf, read]
    rfl
  have types (block : Block) (member : block ∈ declaring found) := type_of_mem_declaring member
  rw [entities]
  constructor
  · intro others
    rw [← toEntities_ok_iff types]
    cases toEntities file (declaring found) <;> simp [Except.mapError]
  · intro fault
    constructor
    · intro failed
      obtain ⟨error, rejected, rfl⟩ := error_of_mapError failed
      obtain ⟨before, block, after, reason, split, earlier, misnamed, rfl⟩ :=
        (toEntities_error_iff types file error).mp rejected
      exact ⟨before, block, after, reason, split, earlier, misnamed, rfl⟩
    · rintro ⟨before, block, after, reason, split, earlier, misnamed, rfl⟩
      rw [split, toEntities_of_misnamed earlier misnamed]
      rfl

/-- Resources, a data source and other parts that take turns. The name of the last resource is left
open. -/
def interleavedParts (last : String) : List TopPart := [
  .block ⟨"resource", ["aws_s3_bucket", "logs"], [(.text "acl", .text "private")], 1, 3⟩,
  .setting "region" (.list [.map [(.text "a", .int 1)]]),
  .block ⟨"locals", [], [(.text "x", .bool true)], 5, 7⟩,
  .block ⟨"data", ["aws_iam_role", "reader"], [], 9, 10⟩,
  .block ⟨"resource", ["aws_kms_key", last], [], 12, 13⟩]

/-- The blocks among them. -/
def interleavedBlocks (last : String) : List Block := [
  ⟨.text "resource", ["aws_s3_bucket", "logs"], [("acl", .text "private")], [], 1⟩,
  ⟨.text "locals", [], [("x", .bool true)], [], 5⟩,
  ⟨.text "data", ["aws_iam_role", "reader"], [], [], 9⟩,
  ⟨.text "resource", ["aws_kms_key", last], [], [], 12⟩]

/-- They are read in order, as two resources and a data source; without its name the last resource
is the error of the text. -/
theorem interleaved_in_order :
    ∃ entries unnamed,
      presented? (interleavedParts "key") = some (.value (.map entries)) ∧
      presented? (interleavedParts "") = some (.value (.map unnamed)) ∧
      Hcl.blocksInOrder entries = .ok (interleavedBlocks "key") ∧
      ofEntries "main.tf" entries = .ok [
        ⟨"aws_s3_bucket", "logs", [("acl", .text "private")], [], none, "managed", "main.tf", 1⟩,
        ⟨"data.aws_iam_role", "reader", [], [], none, "data", "main.tf", 9⟩,
        ⟨"aws_kms_key", "key", [], [], none, "managed", "main.tf", 12⟩] ∧
      ofEntries "main.tf" unnamed =
        .error (.rejected ⟨"main.tf", 12, "resource block has an empty name label"⟩) := by
  have setting {last name : String} {tree : Hcl.Tree}
      (member : TopPart.setting name tree ∈ interleavedParts last) :
      tree = .list [.map [(.text "a", .int 1)]] := by
    simp only [interleavedParts, List.mem_cons, reduceCtorEq, TopPart.setting.injEq,
      List.not_mem_nil, or_false, false_or] at member
    exact member.2
  have unmarked (last name : String) (tree : Hcl.Tree)
      (member : TopPart.setting name tree ∈ interleavedParts last) : Unmarked tree := by
    rw [setting member]
    simp only [Unmarked, Hcl.ItemsUnmarked, Hcl.EntriesUnmarked]
    decide
  have straight (last : String) : Straight (interleavedParts last) := by
    intro name tree member
    rw [setting member]
    rintro ⟨_, _, ⟨⟩, strays⟩
    rw [← Hcl.unwrapLabels_fails_iff _ []] at strays
    revert strays
    decide
  have reads {last : String} (bare : Hcl.unquote last = last) (noMark : Hcl.startLineKey ≠ last) :
      List.Forall₂ TopBlock.Reads
        (declaredBlocks (interleavedParts last)) (interleavedBlocks last) := by
    refine .cons ⟨by decide, rfl, by decide, rfl, rfl⟩ (.cons ⟨by decide, rfl, rfl, rfl, rfl⟩
      (.cons ⟨by decide, rfl, by decide, rfl, rfl⟩ (.cons ⟨?_, rfl, ?_, rfl, rfl⟩ .nil)))
    · simp [noMark]
      decide
    · simp [bare]
      decide
  have rising (last : String) : (declaredBlocks (interleavedParts last)).Pairwise
      fun earlier later => earlier.firstLine < later.firstLine := by
    simp [declaredBlocks, interleavedParts]
  obtain ⟨entries, presented⟩ : ∃ entries,
      presented? (interleavedParts "key") = some (.value (.map entries)) := ⟨_, rfl⟩
  obtain ⟨unnamed, presentedUnnamed⟩ : ∃ entries,
      presented? (interleavedParts "") = some (.value (.map entries)) := ⟨_, rfl⟩
  obtain ⟨inOrder, declared⟩ := declared_in_order presented (unmarked "key") (rising "key")
    "main.tf" (interleavedBlocks "key")
  have found := inOrder.mpr ⟨straight "key", reads (by decide) (by decide)⟩
  obtain ⟨inOrderUnnamed, rejected⟩ := declared_in_order presentedUnnamed (unmarked "")
    (rising "") "main.tf" (interleavedBlocks "")
  have foundUnnamed := inOrderUnnamed.mpr ⟨straight "", reads (by decide) (by decide)⟩
  refine ⟨entries, unnamed, presented, presentedUnnamed, found, ?_, ?_⟩
  · have marked : "data.aws_iam_role" = "data." ++ "aws_iam_role" := by decide
    rw [marked]
    apply ((declared found).1 _).mpr
    refine .cons (.resource rfl rfl ?_ ?_)
      (.cons (.data rfl rfl ?_ ?_) (.cons (.resource rfl rfl ?_ ?_) .nil)) <;> decide
  · apply ((rejected foundUnnamed).2 _).mpr
    refine ⟨[_, _], _, [], _, rfl, List.forall_mem_cons.mpr ⟨⟨_, .resource rfl rfl ?_ ?_⟩,
      List.forall_mem_cons.mpr ⟨⟨_, .data rfl rfl ?_ ?_⟩, by simp⟩⟩, .nameless rfl ?_, rfl⟩ <;>
      decide

/-- An attribute whose value is a list with a number for a key in its first item, before a
resource. -/
def numberedParts : List TopPart := [
  .setting "x" (.list [.map [(.int 1, .text "a")]]),
  .block ⟨"resource", ["t", "n"], [], 2, 3⟩]

/-- Not every text of which all values are literals and all blocks can be read has its blocks read:
an attribute at the top, which is not even converted, breaks the search for blocks off. -/
theorem top_attribute_breaks_off :
    ¬ ∀ (parts : List TopPart) (entries : List (Key × Hcl.Tree)),
      presented? parts = some (.value (.map entries)) →
      (∀ name tree, TopPart.setting name tree ∈ parts →
        Unmarked tree ∧ ¬ Fails (Hcl.literal tree)) →
      ((declaredBlocks parts).Pairwise fun earlier later =>
        earlier.firstLine < later.firstLine) →
      (∀ declared ∈ declaredBlocks parts, ∃ block, declared.Reads block) →
      ∃ found, Hcl.blocksInOrder entries = .ok found ∧
        List.Forall₂ TopBlock.Reads (declaredBlocks parts) found := by
  intro read
  obtain ⟨entries, presented⟩ : ∃ entries,
      presented? numberedParts = some (.value (.map entries)) := ⟨_, rfl⟩
  have settings (name : String) (tree : Hcl.Tree)
      (member : TopPart.setting name tree ∈ numberedParts) :
      Unmarked tree ∧ ¬ Fails (Hcl.literal tree) := by
    obtain ⟨rfl, rfl⟩ : name = "x" ∧ tree = .list [.map [(.int 1, .text "a")]] := by
      simpa [numberedParts] using member
    simp only [Unmarked, Hcl.ItemsUnmarked, Hcl.EntriesUnmarked]
    decide
  have rising : (declaredBlocks numberedParts).Pairwise
      fun earlier later => earlier.firstLine < later.firstLine := by
    simp [declaredBlocks, numberedParts]
  have blocks : ∀ declared ∈ declaredBlocks numberedParts, ∃ block, declared.Reads block := by
    intro declared member
    obtain rfl : declared = ⟨"resource", ["t", "n"], [], 2, 3⟩ := by
      simpa [declaredBlocks, numberedParts] using member
    exact ⟨⟨.text "resource", ["t", "n"], [], [], 2⟩, by decide, rfl, by decide, rfl, rfl⟩
  obtain ⟨found, done, _⟩ := read numberedParts entries presented settings rising blocks
  cases presented
  cases done

end InfraReview.Source
