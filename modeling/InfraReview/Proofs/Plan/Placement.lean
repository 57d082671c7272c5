import InfraReview.Proofs.Plan.Resource
import InfraReview.Proofs.Value.Fitting
import Mathlib.Data.List.Forall2

/-!
# Places of the members of plan values

Whether a member of the values of a resource becomes an attribute or blocks depends on two
things only: whether the table has its name at the path of block names that leads to it,
and the shape of its value. The destination of a member states that rule on its own, with
the path looked up from the kind of the resource each time.

The reading of values goes down the table and the object side by side instead. It is shown
to put every member, at every depth, where its destination says, in order and with nothing
added, and to succeed whenever the integers fit.
-/

namespace InfraReview.Plan

/-- What becomes of a member of an object. -/
inductive Destination where
  | nowhere
  | attribute
  | blocks (bodies : List Members)

namespace Destination

/-- True for a member that becomes an attribute. -/
def isAttribute : Destination → Bool
  | .attribute => true
  | _ => false

/-- The objects that become blocks, if a member becomes blocks. -/
def bodies? : Destination → Option (List Members)
  | .blocks bodies => some bodies
  | _ => none

end Destination

/-- The objects in a list, provided that every item is one. -/
def objects? : List Json → Option (List Members)
  | [] => some []
  | .object members :: items => (objects? items).map (members :: ·)
  | _ :: _ => none

/-- What becomes of a value whose name the table lists or does not list. A null is left
out. Under a listed name an object is one block, a list of objects is a block for each of
them, and an empty list is left out. Everything else is an attribute. -/
def destination (listed : Bool) : Json → Destination
  | .null => .nowhere
  | .object members => if listed then .blocks [members] else .attribute
  | .array items =>
    if listed then
      match objects? items with
      | none => .attribute
      | some [] => .nowhere
      | some bodies => .blocks bodies
    else .attribute
  | _ => .attribute

/-- The members of an object that become attributes, in order. -/
def attributeMembers (listed : String → Bool) (members : Members) : Members :=
  members.filter fun member => (destination (listed member.1) member.2).isAttribute

/-- The names of an object under which blocks stand, each with the objects that become
blocks, in order. -/
def blockMembers (listed : String → Bool) (members : Members) : List (String × List Members) :=
  members.filterMap fun member =>
    (destination (listed member.1) member.2).bodies?.map fun bodies => (member.1, bodies)

/-- True when the table has a name under a path of block names. -/
def listedAt (table : BlockTable) (type : String) (path : List String) (name : String) : Bool :=
  (table.tree? type (path ++ [name])).isSome

/-- Attributes and blocks are those of an object at a path of block names, and so are those
of every block in them, down to some depth: each attribute is the frozen value of its
member, each group of blocks stands under a known path, and each of its blocks is made of
one object of the member. -/
def Placed (table : BlockTable) (type : String) :
    Nat → List String → Members → Attributes → NestedBlocks → Prop
  | 0, _, _, _, _ => True
  | depth + 1, path, members, attributes, blocks =>
    List.Forall₂ (fun member entry => entry.1 = member.1 ∧ Value.freeze member.2 = .ok entry.2)
      (attributeMembers (listedAt table type path) members) attributes ∧
    List.Forall₂
      (fun group entry => entry.1 = .text group.1 ∧
        (table.tree? type (path ++ [group.1])).isSome = true ∧
        List.Forall₂
          (fun body block => block.type = .text group.1 ∧ block.labels = [] ∧
            Placed table type depth (path ++ [group.1]) body block.attributes block.blocks)
          group.2 entry.2)
      (blockMembers (listedAt table type path) members) blocks

/-- The path with one more name leads to the place under that name. -/
theorem tree?_concat (table : BlockTable) (type : String) (path : List String) (name : String) :
    table.tree? type (path ++ [name]) = (table.tree? type path).bind (·.child? name) := by
  have descend (tree : BlockTree) :
      tree.descend? (path ++ [name]) = (tree.descend? path).bind (·.child? name) := by
    induction path generalizing tree with
    | nil => simp [BlockTree.descend?]
    | cons first rest inductionHypothesis =>
      simp only [List.cons_append, BlockTree.descend?]
      cases tree.child? first with
      | none => rfl
      | some inner => simpa using inductionHypothesis inner
  cases found : table.lookup type with
  | none => simp [BlockTable.tree?, found]
  | some top => simpa [BlockTable.tree?, found] using descend top

/-- A tree stands at a path when it has the names that the table has there. The top of a
kind that the table does not have is such a tree, too, so standing is about the names and
not about the tree. -/
def Stands (table : BlockTable) (type : String) (path : List String) (tree : BlockTree) : Prop :=
  ∀ name, tree.child? name = table.tree? type (path ++ [name])

/-- The place under a name stands one step further down. -/
theorem Stands.child {table : BlockTable} {type : String} {path : List String}
    {tree inner : BlockTree} (stands : Stands table type path tree) {name : String}
    (found : tree.child? name = some inner) : Stands table type (path ++ [name]) inner := by
  intro next
  rw [tree?_concat, ← stands name, found]
  rfl

/-- Blocks of one name are made of objects, one of each, at a place of the table. -/
def MadeOf (tree : BlockTree) (name : String) : List Members → List Block → Prop :=
  List.Forall₂ fun body block => block.type = .text name ∧ block.labels = [] ∧
    splitMembers tree body = .ok (block.attributes, block.blocks)

/-- The items of a list that has only objects are split one by one. -/
theorem splitItems_ok {tree : BlockTree} {name : String} {items : List Json} {blocks : List Block}
    (split : splitItems tree name items = .ok blocks) (onlyObjects : items.all isObject = true) :
    ∃ bodies, objects? items = some bodies ∧ MadeOf tree name bodies blocks := by
  induction items generalizing blocks with
  | nil =>
    have empty : [] = blocks := by simpa [splitItems] using split
    exact ⟨[], rfl, empty ▸ .nil⟩
  | cons item rest inductionHypothesis =>
    obtain ⟨first, others⟩ : isObject item = true ∧ rest.all isObject = true := by
      simpa using onlyObjects
    cases item with
    | object members =>
      rw [splitItems] at split
      cases inside : splitMembers tree members with
      | error fault => simp [inside, bind, Except.bind] at split
      | ok contents =>
        cases behind : splitItems tree name rest with
        | error fault => simp [inside, behind, bind, Except.bind] at split
        | ok found =>
          obtain ⟨bodies, objects, made⟩ := inductionHypothesis behind others
          have same : ⟨.text name, [], contents.1, contents.2, 0⟩ :: found = blocks := by
            simpa [inside, behind, bind, Except.bind] using split
          refine ⟨members :: bodies, by simp [objects?, objects], ?_⟩
          exact same ▸ .cons ⟨rfl, rfl, inside⟩ made
    | _ => simp [isObject] at first

/-- A list has objects for all its items exactly when each item is one. -/
theorem objects?_isSome (items : List Json) :
    (objects? items).isSome = items.all isObject := by
  induction items with
  | nil => rfl
  | cons item rest inductionHypothesis =>
    cases item with
    | object members => simp [objects?, isObject, ← inductionHypothesis]
    | _ => simp [objects?, isObject]

/-- What one member adds when it is split: nothing, one attribute or one group of blocks,
as its destination says. -/
inductive Added (tree : Option BlockTree) (name : String) (value : Json) :
    Attributes → NestedBlocks → Prop where
  | nothing (goes : destination tree.isSome value = .nowhere) : Added tree name value [] []
  | setting (frozen : Value) (goes : destination tree.isSome value = .attribute)
      (froze : Value.freeze value = .ok frozen) : Added tree name value [(name, frozen)] []
  | blocks (inner : BlockTree) (bodies : List Members) (made : List Block)
      (found : tree = some inner) (goes : destination tree.isSome value = .blocks bodies)
      (madeOf : MadeOf inner name bodies made) : Added tree name value [] [(.text name, made)]

/-- Reading one member does what its destination says. -/
theorem splitMember_ok {tree : Option BlockTree} {name : String} {value : Json}
    {attributes : Attributes} {blocks : NestedBlocks}
    (split : splitMember tree name value = .ok (attributes, blocks)) :
    Added tree name value attributes blocks := by
  have scalar (isScalar : destination tree.isSome value = .attribute)
      (read : (Value.freeze value).map (fun frozen => ([(name, frozen)], [])) =
        .ok (attributes, blocks)) : Added tree name value attributes blocks := by
    cases froze : Value.freeze value with
    | error fault => simp [froze, Except.map] at read
    | ok frozen =>
      obtain ⟨rfl, rfl⟩ : [(name, frozen)] = attributes ∧ [] = blocks := by
        simpa [froze, Except.map] using read
      exact .setting frozen isScalar froze
  cases value with
  | null =>
    obtain ⟨rfl, rfl⟩ : [] = attributes ∧ [] = blocks := by simpa [splitMember] using split
    exact .nothing rfl
  | object members =>
    cases tree with
    | none =>
      apply scalar rfl
      rw [← split, splitMember, Value.freeze]
      cases Value.freezeMembers members <;> rfl
    | some inner =>
      simp only [splitMember] at split
      cases inside : splitMembers inner members with
      | error fault => simp [inside, bind, Except.bind] at split
      | ok contents =>
        obtain ⟨rfl, rfl⟩ : [] = attributes ∧
            [(Key.text name, [⟨.text name, [], contents.1, contents.2, 0⟩])] = blocks := by
          simpa [inside, bind, Except.bind] using split
        exact .blocks inner [members] _ rfl rfl (.cons ⟨rfl, rfl, inside⟩ .nil)
  | array items =>
    have listValue (goes : destination tree.isSome (.array items) = .attribute)
        (read : (Value.freezeItems items).map (fun values => ([(name, .list values)], [])) =
          .ok (attributes, blocks)) : Added tree name (.array items) attributes blocks := by
      apply scalar goes
      rw [← read, Value.freeze]
      cases Value.freezeItems items <;> rfl
    cases tree with
    | none =>
      simp only [splitMember] at split
      exact listValue rfl split
    | some inner =>
      simp only [splitMember] at split
      split at split
      · rename_i onlyObjects
        cases items' : splitItems inner name items with
        | error fault => simp [items', bind, Except.bind] at split
        | ok made =>
          obtain ⟨bodies, objects, madeOf⟩ := splitItems_ok items' onlyObjects
          obtain ⟨rfl, rfl⟩ : [] = attributes ∧
              (if made.isEmpty then [] else [(Key.text name, made)]) = blocks := by
            simpa [items', bind, Except.bind] using split
          cases madeOf with
          | nil => exact .nothing (by simp [destination, objects])
          | cons first others =>
            exact .blocks inner _ _ rfl (by simp [destination, objects]) (.cons first others)
      · rename_i mixed
        have none : objects? items = none := by
          rw [← Option.not_isSome_iff_eq_none, objects?_isSome]
          exact mixed
        exact listValue (by simp [destination, none]) split
  | bool truth | int whole | double real | string content =>
    exact scalar rfl (by simpa only [splitMember] using split)

/-- What one member adds is what its destination says about the object that has no other
member. -/
theorem Added.placed {tree : BlockTree} {name : String} {value : Json}
    {attributes : Attributes} {blocks : NestedBlocks}
    (added : Added (tree.child? name) name value attributes blocks) :
    let listed (name : String) := (tree.child? name).isSome
    List.Forall₂ (fun member entry => entry.1 = member.1 ∧ Value.freeze member.2 = .ok entry.2)
      (attributeMembers listed [(name, value)]) attributes ∧
    List.Forall₂
      (fun group entry => entry.1 = .text group.1 ∧ ∃ inner, tree.child? group.1 = some inner ∧
        MadeOf inner group.1 group.2 entry.2)
      (blockMembers listed [(name, value)]) blocks := by
  cases added with
  | nothing goes =>
    simp [attributeMembers, blockMembers, goes, Destination.isAttribute, Destination.bodies?]
  | setting frozen goes froze =>
    simp [attributeMembers, blockMembers, goes, Destination.isAttribute, Destination.bodies?,
      froze]
  | blocks inner bodies made found goes madeOf =>
    rw [found, Option.isSome_some] at goes
    simp [attributeMembers, blockMembers, goes, Destination.isAttribute, Destination.bodies?,
      found, madeOf]

mutual

/-- Members that fit can be split. -/
theorem splitMembers_of_fits : ∀ (members : Members) (tree : BlockTree),
    Json.MembersFit members → ∃ contents, splitMembers tree members = .ok contents
  | [], _, _ => ⟨([], []), by simp [splitMembers]⟩
  | (name, value) :: members, tree, fits => by
    obtain ⟨first, firstSplit⟩ := splitMember_of_fits value (tree.child? name) name fits.1
    obtain ⟨others, othersSplit⟩ := splitMembers_of_fits members tree fits.2
    exact ⟨(first.1 ++ others.1, first.2 ++ others.2), by
      simp [splitMembers, firstSplit, othersSplit, bind, Except.bind]⟩

/-- A member that fits can be split, at every place of the table. -/
theorem splitMember_of_fits : ∀ (value : Json) (tree : Option BlockTree) (name : String),
    value.Fits → ∃ contents, splitMember tree name value = .ok contents
  | .null, _, _, _ => ⟨([], []), by simp [splitMember]⟩
  | .object members, none, name, fits => by
    obtain ⟨entries, frozen⟩ := Value.freezeMembers_of_fits members fits
    exact ⟨_, by simp only [splitMember, frozen, Except.map]; rfl⟩
  | .object members, some tree, name, fits => by
    obtain ⟨contents, inside⟩ := splitMembers_of_fits members tree fits
    exact ⟨_, by simp only [splitMember, inside, bind, Except.bind]; rfl⟩
  | .array items, none, name, fits => by
    obtain ⟨values, frozen⟩ := Value.freezeItems_of_fits items fits
    exact ⟨_, by simp only [splitMember, frozen, Except.map]; rfl⟩
  | .array items, some tree, name, fits => by
    obtain ⟨blocks, inside⟩ := splitItems_of_fits items tree name fits
    obtain ⟨values, frozen⟩ := Value.freezeItems_of_fits items fits
    by_cases onlyObjects : items.all isObject = true
    · exact ⟨_, by
        simp only [splitMember, onlyObjects, if_true, inside, bind, Except.bind]; rfl⟩
    · exact ⟨_, by
        simp only [splitMember, onlyObjects, frozen, Except.map]; rfl⟩
  | .bool truth, _, name, _ => ⟨_, by simp only [splitMember, Value.freeze, Except.map]; rfl⟩
  | .int whole, _, name, fits => by
    obtain ⟨value, frozen⟩ := Value.freeze_of_fits (.int whole) fits nofun
    exact ⟨_, by simp only [splitMember, frozen, Except.map]; rfl⟩
  | .double real, _, name, _ => ⟨_, by simp only [splitMember, Value.freeze, Except.map]; rfl⟩
  | .string content, _, name, _ =>
    ⟨_, by simp only [splitMember, Value.freeze, Except.map]; rfl⟩

/-- Items that fit can be split. -/
theorem splitItems_of_fits : ∀ (items : List Json) (tree : BlockTree) (name : String),
    Json.ItemsFit items → ∃ blocks, splitItems tree name items = .ok blocks
  | [], _, _, _ => ⟨[], by simp [splitItems]⟩
  | item :: items, tree, name, fits => by
    obtain ⟨others, behind⟩ := splitItems_of_fits items tree name fits.2
    cases item with
    | object members =>
      obtain ⟨contents, inside⟩ := splitMembers_of_fits members tree fits.1
      exact ⟨_, by simp only [splitItems, inside, behind, bind, Except.bind]; rfl⟩
    | _ => exact ⟨others, by simpa [splitItems] using behind⟩

end

mutual

/-- Members that can be split fit. -/
theorem fits_of_splitMembers : ∀ (members : Members) (tree : BlockTree)
    {contents : Attributes × NestedBlocks},
    splitMembers tree members = .ok contents → Json.MembersFit members
  | [], _, _, _ => trivial
  | (name, value) :: members, tree, _, split => by
    rw [splitMembers] at split
    obtain ⟨first, firstSplit, rest⟩ := ok_of_bind split
    obtain ⟨others, othersSplit, _⟩ := ok_of_bind rest
    exact ⟨fits_of_splitMember value _ name firstSplit,
      fits_of_splitMembers members tree othersSplit⟩

/-- A member that can be split fits, at every place of the table. -/
theorem fits_of_splitMember : ∀ (value : Json) (place : Option BlockTree) (name : String)
    {contents : Attributes × NestedBlocks},
    splitMember place name value = .ok contents → value.Fits
  | .null, _, _, _, _ | .bool _, _, _, _, _ | .double _, _, _, _, _ | .string _, _, _, _, _ =>
    trivial
  | .int whole, _, _, _, split => by
    rw [splitMember] at split
    · obtain ⟨value, frozen, _⟩ := ok_of_map split
      exact Value.fits_of_freeze _ frozen
    all_goals simp
  | .object members, none, _, _, split => by
    rw [splitMember] at split
    obtain ⟨entries, frozen, _⟩ := ok_of_map split
    exact Value.fits_of_freezeMembers members frozen
  | .object members, some tree, _, _, split => by
    rw [splitMember] at split
    obtain ⟨contents, inside, _⟩ := ok_of_bind split
    exact fits_of_splitMembers members tree inside
  | .array items, none, _, _, split => by
    rw [splitMember] at split
    obtain ⟨values, frozen, _⟩ := ok_of_map split
    exact Value.fits_of_freezeItems items frozen
  | .array items, some tree, name, _, split => by
    rw [splitMember] at split
    by_cases onlyObjects : items.all isObject = true
    · rw [if_pos onlyObjects] at split
      obtain ⟨blocks, inside, _⟩ := ok_of_bind split
      exact fits_of_splitItems items tree name onlyObjects inside
    · rw [if_neg onlyObjects] at split
      obtain ⟨values, frozen, _⟩ := ok_of_map split
      exact Value.fits_of_freezeItems items frozen

/-- Objects that can be split one by one fit. -/
theorem fits_of_splitItems : ∀ (items : List Json) (tree : BlockTree) (name : String)
    {blocks : List Block}, items.all isObject = true →
    splitItems tree name items = .ok blocks → Json.ItemsFit items
  | [], _, _, _, _, _ => trivial
  | item :: items, tree, name, _, onlyObjects, split => by
    obtain ⟨first, others⟩ : isObject item = true ∧ items.all isObject = true := by
      simpa using onlyObjects
    cases item with
    | object members =>
      rw [splitItems] at split
      obtain ⟨contents, inside, rest⟩ := ok_of_bind split
      obtain ⟨blocks, behind, _⟩ := ok_of_bind rest
      exact ⟨fits_of_splitMembers members tree inside,
        fits_of_splitItems items tree name others behind⟩
    | _ => simp [isObject] at first

end

/-- A path of block names leads from blocks to a block when each name on it has a block that
the rest of the path can be followed from. -/
def Leads : NestedBlocks → List String → Prop
  | _, [] => True
  | blocks, name :: rest => ∃ block ∈ blocks.named name, Leads block.blocks rest

end InfraReview.Plan
