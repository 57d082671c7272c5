import InfraReview.BlockTable
import InfraReview.Entity

/-!
# The values of a resource

The values of a planned resource are one object. A member is left out when it is null,
which means that it is known only later. It is blocks when the table has its name at
this place and its value is an object or a list of objects; an empty list gives no
blocks at all. Every other member is an attribute.

The items of a list of objects become blocks with the table one place further down, to
any depth.
-/

namespace InfraReview.Plan

/-- True for an object. -/
def isObject : Json → Bool
  | .object _ => true
  | _ => false

mutual

/-- The attributes and the blocks in the members of an object, at a place of the
table. -/
def splitMembers (tree : BlockTree) :
    List (String × Json) → Except ValueFault (Attributes × NestedBlocks)
  | [] => .ok ([], [])
  | (name, value) :: members => do
    let (attributes, blocks) ← splitMember (tree.child? name) name value
    let (otherAttributes, otherBlocks) ← splitMembers tree members
    .ok (attributes ++ otherAttributes, blocks ++ otherBlocks)

/-- The attribute or the blocks in one member, given the place of its name in the
table. -/
def splitMember (place : Option BlockTree) (name : String) :
    Json → Except ValueFault (Attributes × NestedBlocks)
  | .null => .ok ([], [])
  | .object members =>
    match place with
    | some tree => do
      let (attributes, blocks) ← splitMembers tree members
      .ok ([], [(.text name, [⟨.text name, [], attributes, blocks, 0⟩])])
    | none => (Value.freezeMembers members).map fun entries => ([(name, .map entries)], [])
  | .array items =>
    match place with
    | some tree =>
      if items.all isObject then do
        let blocks ← splitItems tree name items
        .ok ([], if blocks.isEmpty then [] else [(.text name, blocks)])
      else (Value.freezeItems items).map fun values => ([(name, .list values)], [])
    | none => (Value.freezeItems items).map fun values => ([(name, .list values)], [])
  | scalar => (Value.freeze scalar).map fun value => ([(name, value)], [])

/-- The blocks in the objects of a list. -/
def splitItems (tree : BlockTree) (name : String) :
    List Json → Except ValueFault (List Block)
  | [] => .ok []
  | .object members :: items => do
    let (attributes, blocks) ← splitMembers tree members
    let others ← splitItems tree name items
    .ok (⟨.text name, [], attributes, blocks, 0⟩ :: others)
  | _ :: items => splitItems tree name items

end

end InfraReview.Plan
