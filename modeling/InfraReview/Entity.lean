import InfraReview.Key
import InfraReview.Value

/-!
# Entities

An entity is one declared resource or data source: its kind, its name, its attributes
and its nested blocks, wherever it was read from. A block has the same two tables and,
inside them, further blocks. The readers of a table answer nothing both for a name
that is absent and for one that holds another sort of value.

File and line say where an entity was read and take no part in comparison.
-/

namespace InfraReview

/-- Attribute values under their names. -/
abbrev Attributes := List (String × Value)

/-- A nested configuration fragment. -/
structure Block where
  type : Key
  labels : List String
  attributes : Attributes
  blocks : List (Key × List Block)
  line : Int

instance : Inhabited Block := ⟨⟨.text "", [], [], [], 0⟩⟩

/-- Nested blocks under their types, in order. -/
abbrev NestedBlocks := List (Key × List Block)

/-- One declared resource or data source. -/
structure Entity where
  kind : String
  localName : String
  attributes : Attributes
  blocks : NestedBlocks
  fullAddress : Option String
  mode : String
  file : String
  line : Int

namespace Attributes

/-- True when the name is present. -/
def has (attributes : Attributes) (name : String) : Bool := (attributes.lookup name).isSome

/-- The sort of the value under a name. -/
def kind? (attributes : Attributes) (name : String) : Option ValueKind :=
  (attributes.lookup name).map Value.kind

/-- The text under a name. -/
def text? (attributes : Attributes) (name : String) : Option String :=
  match attributes.lookup name with
  | some (.text content) => some content
  | _ => none

/-- The truth value under a name. -/
def bool? (attributes : Attributes) (name : String) : Option Bool :=
  match attributes.lookup name with
  | some (.bool value) => some value
  | _ => none

/-- The number under a name. -/
def number? (attributes : Attributes) (name : String) : Option Double :=
  match attributes.lookup name with
  | some (.number value) => some value
  | _ => none

/-- The list under a name. -/
def list? (attributes : Attributes) (name : String) : Option (List Value) :=
  match attributes.lookup name with
  | some (.list items) => some items
  | _ => none

/-- The map under a name. -/
def map? (attributes : Attributes) (name : String) : Option (List (String × Value)) :=
  match attributes.lookup name with
  | some (.map entries) => some entries
  | _ => none

/-- The text under a name, if it is not empty. -/
def filledText? (attributes : Attributes) (name : String) : Option String :=
  (text? attributes name).filter (!·.isEmpty)

end Attributes

namespace NestedBlocks

/-- The blocks of a type, in order; none when the type does not occur. -/
def named (blocks : NestedBlocks) (type : String) : List Block :=
  (blocks.lookup (.text type)).getD []

/-- True when there is a block of the type. -/
def has (blocks : NestedBlocks) (type : String) : Bool := !(named blocks type).isEmpty

/-- The first block of a type. -/
def first? (blocks : NestedBlocks) (type : String) : Option Block := (named blocks type).head?

end NestedBlocks

mutual

/-- Equality of blocks, lines aside. -/
def Block.same : Block → Block → Bool
  | ⟨type, labels, attributes, blocks, _⟩, other =>
    type.same other.type && labels == other.labels &&
      Value.same (.map attributes) (.map other.attributes) &&
      blocks.length == other.blocks.length && sameBlockTables blocks other.blocks

/-- True when the blocks of every type on the left equal those on the right. -/
def sameBlockTables : List (Key × List Block) → List (Key × List Block) → Bool
  | [], _ => true
  | (type, left) :: lefts, rights =>
    (match rights.find? fun entry => entry.1.same type with
      | some (_, right) => sameBlockLists left right
      | none => false) && sameBlockTables lefts rights

/-- Equality of blocks in order. -/
def sameBlockLists : List Block → List Block → Bool
  | [], [] => true
  | left :: lefts, right :: rights => Block.same left right && sameBlockLists lefts rights
  | _, _ => false

end

namespace Entity

/-- The address in the plan when it is known, and the kind and the name otherwise. -/
def address (entity : Entity) : String :=
  match entity.fullAddress with
  | some full => if full.isEmpty then entity.kind ++ "." ++ entity.localName else full
  | none => entity.kind ++ "." ++ entity.localName

/-- Why there is no entity of the given parts. -/
inductive Fault where
  | emptyKind
  | value (fault : ValueFault)
  deriving DecidableEq, Repr

/-- The message of such a fault. -/
def Fault.message : Fault → String
  | .emptyKind => "Entity kind must not be empty"
  | .value fault => fault.message

/-- The entity with its attributes frozen; the kind must not be empty. -/
def create (kind localName : String) (attributes : List (String × Json)) (blocks : NestedBlocks)
    (fullAddress : Option String) (mode file : String) (line : Int) : Except Fault Entity :=
  if kind.isEmpty then .error .emptyKind
  else
    match Value.freezeMembers attributes with
    | .error fault => .error (.value fault)
    | .ok frozen => .ok ⟨kind, localName, frozen, blocks, fullAddress, mode, file, line⟩

/-- Equality of entities, file and line aside. -/
def same (left right : Entity) : Bool :=
  left.kind == right.kind && left.localName == right.localName &&
    Value.same (.map left.attributes) (.map right.attributes) &&
    left.blocks.length == right.blocks.length && sameBlockTables left.blocks right.blocks &&
    left.fullAddress == right.fullAddress && left.mode == right.mode

end Entity

end InfraReview
