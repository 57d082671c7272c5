import Mathlib.Data.List.Nodup
import InfraReview.Entity

/-!
# Regular entities

What every check takes for granted about an entity, whichever parser it comes from. A type of
blocks is listed when there are blocks of that type, and then all of them say so; no name is that of
an attribute and of blocks as well; nothing is null, and every number is a double. All of this holds
of the entity and of every block inside it.

As a value is never null, the third part is about what a value stands for as a document.
-/

namespace InfraReview

/-! ### Values as documents -/

namespace Value

mutual

/-- A value as a document. -/
def document : Value → Json
  | text content => .string content
  | bool value => .bool value
  | number value => .double value
  | list items => .array (documents items)
  | map entries => .object (memberDocuments entries)

/-- Values as documents. -/
def documents : List Value → List Json
  | [] => []
  | item :: items => document item :: documents items

/-- Entries as the members of a document. -/
def memberDocuments : List (String × Value) → List (String × Json)
  | [] => []
  | (name, value) :: entries => (name, document value) :: memberDocuments entries

end

/-- A value as a document is not null. -/
theorem document_ne_null (value : Value) : value.document ≠ .null := by
  cases value <;> simp [document]

mutual

/-- A value is that of its document. -/
theorem freeze_document : ∀ value : Value, freeze value.document = .ok value
  | text _ | bool _ | number _ => rfl
  | list items => by
    rw [document, freeze, freezeItems_documents items]
    rfl
  | map entries => by
    rw [document, freeze, freezeMembers_memberDocuments entries]
    rfl

/-- Values are those of their documents. -/
theorem freezeItems_documents : ∀ items : List Value, freezeItems (documents items) = .ok items
  | [] => rfl
  | item :: items => by
    rw [documents, freezeItems, freeze_document item, freezeItems_documents items]
    · rfl
    · exact item.document_ne_null

/-- Entries are those of their documents. -/
theorem freezeMembers_memberDocuments : ∀ entries : List (String × Value),
    freezeMembers (memberDocuments entries) = .ok entries
  | [] => rfl
  | (name, value) :: entries => by
    rw [memberDocuments, freezeMembers, freeze_document value,
      freezeMembers_memberDocuments entries]
    · rfl
    · exact value.document_ne_null

end

end Value

/-- A document without a null and with doubles for all numbers, at every depth. -/
inductive Json.Settled : Json → Prop where
  | bool (value : Bool) : Settled (.bool value)
  | double (value : Double) : Settled (.double value)
  | string (value : String) : Settled (.string value)
  | array {items : List Json} (inner : ∀ item ∈ items, Settled item) : Settled (.array items)
  | object {members : List (String × Json)} (inner : ∀ member ∈ members, Settled member.2) :
      Settled (.object members)

mutual

/-- A value as a document is settled. -/
theorem Value.settled_document : ∀ value : Value, value.document.Settled
  | .text content => .string content
  | .bool value => .bool value
  | .number value => .double value
  | .list items => .array (settled_documents items)
  | .map entries => .object (settled_memberDocuments entries)

/-- Values as documents are settled. -/
theorem Value.settled_documents : ∀ items : List Value,
    ∀ document ∈ documents items, document.Settled
  | [], _, member => absurd member List.not_mem_nil
  | item :: items, document, member => by
    rcases List.mem_cons.mp member with rfl | later
    · exact settled_document item
    · exact settled_documents items document later

/-- Entries as members of a document are settled. -/
theorem Value.settled_memberDocuments : ∀ entries : List (String × Value),
    ∀ member ∈ memberDocuments entries, member.2.Settled
  | [], _, member => absurd member List.not_mem_nil
  | (_, value) :: entries, other, member => by
    rcases List.mem_cons.mp member with rfl | later
    · exact settled_document value
    · exact settled_memberDocuments entries other later

end

/-! ### Tables -/

/-- The attributes and the blocks of one body are tidy. Each type of blocks is listed once and with
blocks of that type only, at least one of them, so that a body has blocks of a type when it lists
the type. Each attribute is listed once, under no type of blocks, and with a settled value. -/
structure Tidy (attributes : Attributes) (blocks : NestedBlocks) : Prop where
  filled : ∀ entry ∈ blocks, entry.2 ≠ []
  typed : ∀ entry ∈ blocks, ∀ block ∈ entry.2, block.type = entry.1
  typesOnce : (blocks.map Prod.fst).Nodup
  present : ∀ name, blocks.has name = true ↔ .text name ∈ blocks.map Prod.fst
  apart : ∀ name ∈ attributes.map Prod.fst, .text name ∉ blocks.map Prod.fst
  namesOnce : (attributes.map Prod.fst).Nodup
  settled : ∀ entry ∈ attributes, entry.2.document.Settled

/-- The attributes and the blocks of a body are orderly when they are tidy, and so are those of
every block inside, at every depth. -/
inductive Orderly : Attributes → NestedBlocks → Prop where
  | of {attributes : Attributes} {blocks : NestedBlocks} (tidy : Tidy attributes blocks)
      (inner : ∀ entry ∈ blocks, ∀ block ∈ entry.2, Orderly block.attributes block.blocks) :
      Orderly attributes blocks

/-- Blocks are there under the types that are listed with some. -/
theorem NestedBlocks.has_iff {blocks : NestedBlocks} (filled : ∀ entry ∈ blocks, entry.2 ≠ [])
    (name : String) : blocks.has name = true ↔ .text name ∈ blocks.map Prod.fst := by
  rw [has, named]
  cases found : blocks.lookup (.text name) with
  | none =>
    have absent := List.lookup_eq_none_iff.mp found
    simp only [Option.getD_none, List.isEmpty_nil, Bool.not_true, Bool.false_eq_true, false_iff]
    rintro member
    obtain ⟨entry, listed, same⟩ := List.mem_map.mp member
    simpa [same] using absent entry listed
  | some held =>
    obtain ⟨before, after, rfl, _⟩ := List.lookup_eq_some_iff.mp found
    have some : held ≠ [] := filled (.text name, held) (by simp)
    simpa using some

/-- Tables are tidy when their types and their names are listed once and apart, the types with
blocks of theirs. -/
theorem Tidy.of {attributes : Attributes} {blocks : NestedBlocks}
    (filled : ∀ entry ∈ blocks, entry.2 ≠ [])
    (typed : ∀ entry ∈ blocks, ∀ block ∈ entry.2, block.type = entry.1)
    (typesOnce : (blocks.map Prod.fst).Nodup)
    (apart : ∀ name ∈ attributes.map Prod.fst, .text name ∉ blocks.map Prod.fst)
    (namesOnce : (attributes.map Prod.fst).Nodup) : Tidy attributes blocks :=
  ⟨filled, typed, typesOnce, NestedBlocks.has_iff filled, apart, namesOnce,
    fun entry _ => entry.2.settled_document⟩

/-- The keys of tables: the names of the attributes and the types of the blocks. -/
def tableKeys (attributes : Attributes) (blocks : NestedBlocks) : List Key :=
  attributes.map (fun entry => .text entry.1) ++ blocks.map Prod.fst

/-- Tables that are joined have the keys of both. -/
theorem mem_tableKeys_append {attributes otherAttributes : Attributes}
    {blocks otherBlocks : NestedBlocks} {key : Key} :
    key ∈ tableKeys (attributes ++ otherAttributes) (blocks ++ otherBlocks) ↔
      key ∈ tableKeys attributes blocks ∨ key ∈ tableKeys otherAttributes otherBlocks := by
  simp only [tableKeys, List.map_append, List.mem_append]
  tauto

namespace Orderly

variable {attributes otherAttributes : Attributes} {blocks otherBlocks : NestedBlocks}

/-- Orderly tables are tidy. -/
theorem tidy (orderly : Orderly attributes blocks) : Tidy attributes blocks := by
  cases orderly with
  | of tidy _ => exact tidy

/-- The tables of the blocks in orderly tables are orderly. -/
theorem inner (orderly : Orderly attributes blocks) :
    ∀ entry ∈ blocks, ∀ block ∈ entry.2, Orderly block.attributes block.blocks := by
  cases orderly with
  | of _ inner => exact inner

/-- Tables without entries are orderly. -/
theorem nil : Orderly [] [] :=
  .of (.of (List.forall_mem_nil _) (List.forall_mem_nil _) List.nodup_nil (List.forall_mem_nil _)
    List.nodup_nil) (List.forall_mem_nil _)

/-- A table with a single attribute is orderly. -/
theorem single (name : String) (value : Value) : Orderly [(name, value)] [] :=
  .of (.of (List.forall_mem_nil _) (List.forall_mem_nil _) List.nodup_nil (by simp)
    (List.nodup_singleton name)) (List.forall_mem_nil _)

/-- A table with blocks of a single type is orderly when there are some, of this type and orderly
inside. -/
theorem group {type : Key} {group : List Block} (filled : group ≠ [])
    (typed : ∀ block ∈ group, block.type = type)
    (inner : ∀ block ∈ group, Orderly block.attributes block.blocks) :
    Orderly [] [(type, group)] :=
  .of (.of (by simpa using filled) (by simpa using typed) (List.nodup_singleton type)
    (List.forall_mem_nil _) List.nodup_nil) (by simpa using inner)

/-- Orderly tables without a key in common are orderly together. -/
theorem append (left : Orderly attributes blocks) (right : Orderly otherAttributes otherBlocks)
    (apart : (tableKeys attributes blocks).Disjoint (tableKeys otherAttributes otherBlocks)) :
    Orderly (attributes ++ otherAttributes) (blocks ++ otherBlocks) := by
  have text {name : String} {table : Attributes} (member : name ∈ table.map Prod.fst) :
      Key.text name ∈ table.map fun entry => Key.text entry.1 := by
    simpa using member
  refine .of (.of ?_ ?_ ?_ ?_ ?_) ?_
  · exact List.forall_mem_append.mpr ⟨left.tidy.filled, right.tidy.filled⟩
  · exact List.forall_mem_append.mpr ⟨left.tidy.typed, right.tidy.typed⟩
  · rw [List.map_append]
    apply left.tidy.typesOnce.append right.tidy.typesOnce
    intro type first second
    exact apart (List.mem_append_right _ first) (List.mem_append_right _ second)
  · simp only [List.map_append, List.mem_append, not_or]
    rintro name (first | second)
    · refine ⟨left.tidy.apart name first, ?_⟩
      intro other
      exact apart (List.mem_append_left _ (text first)) (List.mem_append_right _ other)
    · refine ⟨?_, right.tidy.apart name second⟩
      intro other
      exact apart (List.mem_append_right _ other) (List.mem_append_left _ (text second))
  · rw [List.map_append]
    apply left.tidy.namesOnce.append right.tidy.namesOnce
    intro name first second
    exact apart (List.mem_append_left _ (text first)) (List.mem_append_left _ (text second))
  · exact List.forall_mem_append.mpr ⟨left.inner, right.inner⟩

end Orderly

namespace Entity

/-- An entity is regular: its tables are orderly, it has a kind, a name and an address, and the
constructor accepts its parts and leaves them as they are. -/
structure Regular (entity : Entity) : Prop where
  tables : Orderly entity.attributes entity.blocks
  kind : entity.kind ≠ ""
  localName : entity.localName ≠ ""
  address : entity.address ≠ ""
  accepted : create entity.kind entity.localName (Value.memberDocuments entity.attributes)
    entity.blocks entity.fullAddress entity.mode entity.file entity.line = .ok entity

/-- A kind that the constructor does not complain about, whatever the other parts are. -/
def AcceptsKind (kind : String) : Prop :=
  ∀ (localName : String) (attributes : List (String × Json)) (blocks : NestedBlocks)
    (fullAddress : Option String) (mode file : String) (line : Int),
    create kind localName attributes blocks fullAddress mode file line ≠ .error .emptyKind

/-- The constructor does not complain about a kind that is there. -/
theorem acceptsKind_of_ne_empty {kind : String} (filled : kind ≠ "") : AcceptsKind kind := by
  intro localName attributes blocks fullAddress mode file line
  rw [create, if_neg (by simpa using filled)]
  split <;> simp

/-- An entity with orderly tables, a kind and a name is regular. -/
theorem Regular.of {entity : Entity} (tables : Orderly entity.attributes entity.blocks)
    (kind : entity.kind ≠ "") (localName : entity.localName ≠ "") : entity.Regular where
  tables := tables
  kind := kind
  localName := localName
  address := by
    have joined : entity.kind ++ "." ++ entity.localName ≠ "" := by simp
    unfold Entity.address
    split
    · split
      · exact joined
      · rename_i filled
        simpa using filled
    · exact joined
  accepted := by
    rw [create, if_neg (by simpa using kind), Value.freezeMembers_memberDocuments]

end Entity

end InfraReview
