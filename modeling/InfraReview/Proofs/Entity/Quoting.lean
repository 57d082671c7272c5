import InfraReview.Entity
import InfraReview.Proofs.Hcl.QuotedText

/-!
# Names as they stand between quotes

An entity with its kind, its name and every name in its maps as they stand between quotes.
Different names stay different, so what is the same stays the same; and an entity is left as it
is when none of its names needs an escape or a guard.

The names of attributes and the types of blocks are not texts between quotes, and they stay.
-/

namespace InfraReview

namespace Value

mutual

/-- A value with every name in it as it stands between quotes. -/
def quoted : Value → Value
  | .list items => .list (quotedItems items)
  | .map entries => .map (quotedEntries entries)
  | .text content => .text content
  | .bool truth => .bool truth
  | .number double => .number double

/-- Items with every name in them as it stands between quotes. -/
def quotedItems : List Value → List Value
  | [] => []
  | item :: items => quoted item :: quotedItems items

/-- Entries of a map with their names, and every name in them, as they stand between quotes. -/
def quotedEntries : List (String × Value) → List (String × Value)
  | [] => []
  | (name, value) :: entries => (Hcl.quotedText name, quoted value) :: quotedEntries entries

end

mutual

/-- The names in a value, at every depth. -/
def names : Value → List String
  | .list items => itemNames items
  | .map entries => entryNames entries
  | .text _ | .bool _ | .number _ => []

/-- The names in items, at every depth. -/
def itemNames : List Value → List String
  | [] => []
  | item :: items => names item ++ itemNames items

/-- The names of entries and in them, at every depth. -/
def entryNames : List (String × Value) → List String
  | [] => []
  | (name, value) :: entries => name :: names value ++ entryNames entries

end

/-- As many entries as before. -/
theorem quotedEntries_length (entries : List (String × Value)) :
    (quotedEntries entries).length = entries.length := by
  induction entries with
  | nil => rfl
  | cons entry entries inductionHypothesis => simp [quotedEntries, inductionHypothesis]

/-- A name between quotes leads to what the name leads to. -/
theorem lookup_quotedEntries (entries : List (String × Value)) (name : String) :
    (quotedEntries entries).lookup (Hcl.quotedText name) = (entries.lookup name).map quoted := by
  induction entries with
  | nil => rfl
  | cons entry entries inductionHypothesis =>
    obtain ⟨other, value⟩ := entry
    by_cases same : name = other
    · simp [quotedEntries, same]
    · have apart : (Hcl.quotedText name == Hcl.quotedText other) = false := by
        simpa using fun equal => same (Hcl.quotedText_injective equal)
      have differs : (name == other) = false := by simpa using same
      simpa [quotedEntries, List.lookup_cons, apart, differs] using inductionHypothesis

mutual

/-- Values that are the same stay the same. -/
theorem same_quoted : ∀ left right : Value, left.same right = true →
    left.quoted.same right.quoted = true
  | .list lefts, .list rights, same => by
    rw [Value.same] at same
    rw [quoted, quoted, Value.same]
    exact sameItems_quoted lefts rights same
  | .map lefts, .map rights, same => by
    rw [Value.same, Bool.and_eq_true] at same
    rw [quoted, quoted, Value.same, Bool.and_eq_true, quotedEntries_length, quotedEntries_length]
    exact ⟨same.1, sameEntries_quoted lefts rights same.2⟩
  | .text _, right, same | .bool _, right, same | .number _, right, same => by
    cases right <;> simp_all [Value.same, quoted]
  | .list _, .text _, same | .list _, .bool _, same | .list _, .number _, same
  | .list _, .map _, same | .map _, .text _, same | .map _, .bool _, same
  | .map _, .number _, same | .map _, .list _, same => by
    simp [Value.same] at same

/-- Items that are the same stay the same. -/
theorem sameItems_quoted : ∀ lefts rights : List Value, sameItems lefts rights = true →
    sameItems (quotedItems lefts) (quotedItems rights) = true
  | [], [], _ => rfl
  | left :: lefts, right :: rights, same => by
    rw [sameItems, Bool.and_eq_true] at same
    rw [quotedItems, quotedItems, sameItems, Bool.and_eq_true]
    exact ⟨same_quoted left right same.1, sameItems_quoted lefts rights same.2⟩
  | [], _ :: _, same | _ :: _, [], same => by simp [sameItems] at same

/-- Entries that have their equals still have them. -/
theorem sameEntries_quoted : ∀ lefts rights : List (String × Value),
    sameEntries lefts rights = true →
    sameEntries (quotedEntries lefts) (quotedEntries rights) = true
  | [], _, _ => rfl
  | (name, left) :: lefts, rights, same => by
    rw [sameEntries, Bool.and_eq_true] at same
    rw [quotedEntries, sameEntries, Bool.and_eq_true, lookup_quotedEntries]
    refine ⟨?_, sameEntries_quoted lefts rights same.2⟩
    cases found : rights.lookup name with
    | none => simp [found] at same
    | some right =>
      rw [found] at same
      exact same_quoted left right same.1

end

mutual

/-- A value is left as it is when its names are. -/
theorem quoted_eq_self : ∀ value : Value, (∀ name ∈ value.names, Hcl.quotedText name = name) →
    value.quoted = value
  | .list items, plain => by
    rw [quoted, quotedItems_eq_self items (by simpa [names] using plain)]
  | .map entries, plain => by
    rw [quoted, quotedEntries_eq_self entries (by simpa [names] using plain)]
  | .text _, _ | .bool _, _ | .number _, _ => by rw [quoted]

/-- Items are left as they are when their names are. -/
theorem quotedItems_eq_self : ∀ items : List Value,
    (∀ name ∈ itemNames items, Hcl.quotedText name = name) → quotedItems items = items
  | [], _ => rfl
  | item :: items, plain => by
    simp only [itemNames, List.forall_mem_append] at plain
    rw [quotedItems, quoted_eq_self item plain.1, quotedItems_eq_self items plain.2]

/-- Entries are left as they are when their names are. -/
theorem quotedEntries_eq_self : ∀ entries : List (String × Value),
    (∀ name ∈ entryNames entries, Hcl.quotedText name = name) → quotedEntries entries = entries
  | [], _ => rfl
  | (name, value) :: entries, plain => by
    simp only [entryNames, List.cons_append, List.forall_mem_cons, List.forall_mem_append] at plain
    obtain ⟨own, inside, others⟩ := plain
    rw [quotedEntries, own, quoted_eq_self value inside, quotedEntries_eq_self entries others]

end

end Value

namespace Attributes

/-- Attributes with every name in their values as it stands between quotes. -/
def quoted (attributes : Attributes) : Attributes :=
  attributes.map fun entry => (entry.1, entry.2.quoted)

/-- The names in the values of attributes. -/
def names (attributes : Attributes) : List String :=
  attributes.flatMap fun entry => entry.2.names

/-- An attribute has its value with the names in it between quotes. -/
theorem lookup_quoted (attributes : Attributes) (name : String) :
    attributes.quoted.lookup name = (attributes.lookup name).map Value.quoted := by
  induction attributes with
  | nil => rfl
  | cons entry attributes inductionHypothesis =>
    obtain ⟨other, value⟩ := entry
    rw [quoted, List.map_cons, List.lookup_cons, List.lookup_cons]
    cases name == other with
    | true => rfl
    | false => exact inductionHypothesis

/-- Attributes that are the same stay the same. -/
theorem same_quoted {left right : Attributes}
    (same : Value.same (.map left) (.map right) = true) :
    Value.same (.map left.quoted) (.map right.quoted) = true := by
  rw [Value.same, Bool.and_eq_true] at same ⊢
  refine ⟨by simpa [quoted] using same.1, ?_⟩
  have entries := same.2
  clear same
  induction left with
  | nil => rfl
  | cons entry left inductionHypothesis =>
    obtain ⟨name, value⟩ := entry
    rw [Value.sameEntries, Bool.and_eq_true] at entries
    rw [quoted, List.map_cons, Value.sameEntries, Bool.and_eq_true, lookup_quoted]
    refine ⟨?_, inductionHypothesis entries.2⟩
    cases found : right.lookup name with
    | none => simp [found] at entries
    | some partner =>
      rw [found] at entries
      exact value.same_quoted partner entries.1

/-- Attributes are left as they are when the names in them are. -/
theorem quoted_eq_self {attributes : Attributes}
    (plain : ∀ name ∈ attributes.names, Hcl.quotedText name = name) :
    attributes.quoted = attributes := by
  refine (List.map_congr_left fun entry member => ?_).trans attributes.map_id
  have inside : ∀ name ∈ entry.2.names, Hcl.quotedText name = name := by
    intro name named
    exact plain name (List.mem_flatMap.mpr ⟨entry, member, named⟩)
  simp [entry.2.quoted_eq_self inside]

end Attributes

mutual

/-- A block with every name in its values as it stands between quotes. -/
def Block.quoted : Block → Block
  | ⟨type, labels, attributes, blocks, line⟩ =>
    ⟨type, labels, attributes.quoted, quotedTables blocks, line⟩

/-- Blocks under their types with every name in their values as it stands between quotes. -/
def quotedTables : List (Key × List Block) → List (Key × List Block)
  | [] => []
  | (type, blocks) :: tables => (type, quotedBlocks blocks) :: quotedTables tables

/-- Blocks in order with every name in their values as it stands between quotes. -/
def quotedBlocks : List Block → List Block
  | [] => []
  | block :: blocks => block.quoted :: quotedBlocks blocks

end

mutual

/-- The names in the values of a block, at every depth. -/
def Block.names : Block → List String
  | ⟨_, _, attributes, blocks, _⟩ => attributes.names ++ tableNames blocks

/-- The names in the values of blocks under their types. -/
def tableNames : List (Key × List Block) → List String
  | [] => []
  | (_, blocks) :: tables => blockNames blocks ++ tableNames tables

/-- The names in the values of blocks in order. -/
def blockNames : List Block → List String
  | [] => []
  | block :: blocks => block.names ++ blockNames blocks

end

/-- As many types as before. -/
theorem quotedTables_length (tables : NestedBlocks) :
    (quotedTables tables).length = tables.length := by
  induction tables with
  | nil => rfl
  | cons entry tables inductionHypothesis => simp [quotedTables, inductionHypothesis]

/-- Tables that follow each other are quoted apart. -/
theorem quotedTables_append (first second : NestedBlocks) :
    quotedTables (first ++ second) = quotedTables first ++ quotedTables second := by
  induction first with
  | nil => rfl
  | cons entry first inductionHypothesis => simp [quotedTables, inductionHypothesis]

/-- The blocks of a type are found in their place. -/
theorem find_quotedTables (tables : NestedBlocks) (type : Key) :
    (quotedTables tables).find? (fun entry => entry.1.same type) =
      (tables.find? fun entry => entry.1.same type).map fun found =>
        (found.1, quotedBlocks found.2) := by
  induction tables with
  | nil => rfl
  | cons entry tables inductionHypothesis =>
    obtain ⟨other, blocks⟩ := entry
    rw [quotedTables, List.find?_cons, List.find?_cons]
    cases other.same type with
    | true => rfl
    | false => exact inductionHypothesis

mutual

/-- Blocks that are the same stay the same. -/
theorem Block.same_quoted : ∀ left right : Block, left.same right = true →
    left.quoted.same right.quoted = true
  | ⟨type, labels, attributes, blocks, _⟩, ⟨_, _, _, others, _⟩, same => by
    simp only [Block.same, Bool.and_eq_true, beq_iff_eq] at same
    obtain ⟨⟨⟨⟨sameType, rfl⟩, sameAttributes⟩, length⟩, tables⟩ := same
    simp [Block.quoted, Block.same, sameType, Attributes.same_quoted sameAttributes,
      quotedTables_length, length, sameBlockTables_quoted blocks others tables]

/-- Tables of blocks that are the same stay the same. -/
theorem sameBlockTables_quoted : ∀ lefts rights : NestedBlocks,
    sameBlockTables lefts rights = true →
    sameBlockTables (quotedTables lefts) (quotedTables rights) = true
  | [], _, _ => rfl
  | (type, left) :: lefts, rights, same => by
    rw [sameBlockTables, Bool.and_eq_true] at same
    rw [quotedTables, sameBlockTables, Bool.and_eq_true, find_quotedTables]
    refine ⟨?_, sameBlockTables_quoted lefts rights same.2⟩
    cases found : rights.find? fun entry => entry.1.same type with
    | none => simp [found] at same
    | some entry =>
      rw [found] at same
      exact sameBlockLists_quoted left entry.2 same.1

/-- Lists of blocks that are the same stay the same. -/
theorem sameBlockLists_quoted : ∀ lefts rights : List Block, sameBlockLists lefts rights = true →
    sameBlockLists (quotedBlocks lefts) (quotedBlocks rights) = true
  | [], [], _ => rfl
  | left :: lefts, right :: rights, same => by
    rw [sameBlockLists, Bool.and_eq_true] at same
    rw [quotedBlocks, quotedBlocks, sameBlockLists, Bool.and_eq_true]
    exact ⟨left.same_quoted right same.1, sameBlockLists_quoted lefts rights same.2⟩
  | [], _ :: _, same | _ :: _, [], same => by simp [sameBlockLists] at same

end

mutual

/-- A block is left as it is when the names in it are. -/
theorem Block.quoted_eq_self : ∀ block : Block,
    (∀ name ∈ block.names, Hcl.quotedText name = name) → block.quoted = block
  | ⟨_, _, attributes, blocks, _⟩, plain => by
    simp only [Block.names, List.forall_mem_append] at plain
    rw [Block.quoted, Attributes.quoted_eq_self plain.1, quotedTables_eq_self blocks plain.2]

/-- Tables of blocks are left as they are when the names in them are. -/
theorem quotedTables_eq_self : ∀ tables : NestedBlocks,
    (∀ name ∈ tableNames tables, Hcl.quotedText name = name) → quotedTables tables = tables
  | [], _ => rfl
  | (_, blocks) :: tables, plain => by
    simp only [tableNames, List.forall_mem_append] at plain
    rw [quotedTables, quotedBlocks_eq_self blocks plain.1, quotedTables_eq_self tables plain.2]

/-- Lists of blocks are left as they are when the names in them are. -/
theorem quotedBlocks_eq_self : ∀ blocks : List Block,
    (∀ name ∈ blockNames blocks, Hcl.quotedText name = name) → quotedBlocks blocks = blocks
  | [], _ => rfl
  | block :: blocks, plain => by
    simp only [blockNames, List.forall_mem_append] at plain
    rw [quotedBlocks, block.quoted_eq_self plain.1, quotedBlocks_eq_self blocks plain.2]

end

namespace Entity

/-- An entity with its kind, its name and every name in its values as they stand between
quotes. -/
def quoted (entity : Entity) : Entity :=
  { entity with
    kind := Hcl.quotedText entity.kind
    localName := Hcl.quotedText entity.localName
    attributes := entity.attributes.quoted
    blocks := quotedTables entity.blocks }

/-- The kind of an entity, its name and every name in its values. -/
def names (entity : Entity) : List String :=
  entity.kind :: entity.localName :: entity.attributes.names ++ tableNames entity.blocks

/-- Entities that are the same stay the same. -/
theorem same_quoted {left right : Entity} (same : left.same right = true) :
    left.quoted.same right.quoted = true := by
  simp only [Entity.same, Bool.and_eq_true, beq_iff_eq] at same
  obtain ⟨⟨⟨⟨⟨⟨kind, name⟩, attributes⟩, length⟩, tables⟩, address⟩, mode⟩ := same
  simp [Entity.same, quoted, kind, name, Attributes.same_quoted attributes, quotedTables_length,
    length, sameBlockTables_quoted _ _ tables, address, mode]

/-- An entity is left as it is when its names are. -/
theorem quoted_eq_self {entity : Entity}
    (plain : ∀ name ∈ entity.names, Hcl.quotedText name = name) : entity.quoted = entity := by
  simp only [names, List.cons_append, List.forall_mem_cons, List.forall_mem_append] at plain
  obtain ⟨kind, name, attributes, tables⟩ := plain
  rw [quoted, kind, name, Attributes.quoted_eq_self attributes, quotedTables_eq_self _ tables]

end Entity

end InfraReview
