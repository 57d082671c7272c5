import InfraReview.Plan.Entities
import InfraReview.Proofs.Json.Length

/-!
# Resources of a plan

A planned resource is told by three texts: its address, its type and its name. Each of them
has to be there and must not be empty. Given those, its mode and the split of its values, the
entity of the resource is known.

What a resource says about its mode, and what it is called in a complaint, is written out; that
fails when it holds an integer that is too long.
-/

namespace InfraReview.Plan

/-- The members of an object. -/
abbrev Members := List (String × Json)

/-- A resource that has the three texts it is told by. -/
structure Identified (members : Members) (address type name : String) : Prop where
  hasAddress : Json.member members "address" = .string address
  hasType : Json.member members "type" = .string type
  hasName : Json.member members "name" = .string name
  addressFilled : address.isEmpty = false
  typeFilled : type.isEmpty = false
  nameFilled : name.isEmpty = false

/-- The values of a resource, of which a missing or a null one has none. -/
inductive HasValues (members : Members) : Members → Prop where
  | missing (absent : Json.member members "values" = .null) : HasValues members []
  | given (values : Members) (found : Json.member members "values" = .object values) :
      HasValues members values

/-- The entity of a resource of which everything is known. -/
def entityOf (source mode address type name : String) (attributes : Attributes)
    (blocks : NestedBlocks) : Entity where
  kind := entityKind mode type
  localName := name
  attributes := attributes
  blocks := blocks
  fullAddress := some address
  mode := mode
  file := source
  line := 0

/-- A text that is there and not empty is found. -/
theorem requiredText_ok {members : Members} {field content : String}
    (found : Json.member members field = .string content) (filled : content.isEmpty = false) :
    requiredText members field = .ok content := by
  simp [requiredText, found, filled]

/-- A part of a plan that can be written has a text. -/
theorem shown_of_short {part : Json} (short : part.Short) :
    shown part = .ok part.display.plain := by
  rw [shown, short.shown]
  rfl

/-- A part of a plan that cannot be written is a fault. -/
theorem shown_of_not_short {part : Json} (long : ¬ part.Short) :
    shown part = .error (.length .written) := by
  rw [shown, Json.shown_error_iff.mpr ⟨long, rfl⟩]
  rfl

/-- A resource whose mode can be written has one. -/
theorem resourceMode_of_short {members : Members}
    (short : (Json.member members "mode").Short) :
    ∃ mode, resourceMode members = .ok mode := by
  unfold resourceMode
  dsimp only
  split_ifs
  · exact ⟨_, rfl⟩
  · exact ⟨_, shown_of_short short⟩

/-- A mode that cannot be written is a fault. -/
theorem resourceMode_of_not_short {members : Members}
    (long : ¬ (Json.member members "mode").Short) :
    resourceMode members = .error (.length .written) := by
  have filled : ¬ (Json.member members "mode").isVacant = true :=
    fun vacant => long (Json.short_of_vacant vacant)
  rw [resourceMode, if_neg filled, shown_of_not_short long]

/-- A resource that is told by its texts and has a mode comes to what the split of its values
comes to. -/
theorem normalize_eq {table : BlockTable} {source mode : String} {members values : Members}
    {address type name : String} (identified : Identified members address type name)
    (hasMode : resourceMode members = .ok mode) (hasValues : HasValues members values) :
    normalize table source members =
      match splitMembers (table.top type) values with
      | .ok contents => .ok (entityOf source mode address type name contents.1 contents.2)
      | .error fault => .error (.value fault) := by
  have addressFound := requiredText_ok identified.hasAddress identified.addressFilled
  have typeFound := requiredText_ok identified.hasType identified.typeFilled
  have nameFound := requiredText_ok identified.hasName identified.nameFilled
  cases hasValues with
  | missing absent =>
    cases split : splitMembers (table.top type) [] <;>
      simp [normalize, addressFound, typeFound, nameFound, hasMode, absent, split, bind,
        Except.bind, entityOf]
  | given _ found =>
    cases split : splitMembers (table.top type) values <;>
      simp [normalize, addressFound, typeFound, nameFound, hasMode, found, split, bind,
        Except.bind, entityOf]

/-- A resource that is told by its texts and whose values can be split has an entity. -/
theorem normalize_ok {table : BlockTable} {source mode : String} {members values : Members}
    {address type name : String} {contents : Attributes × NestedBlocks}
    (identified : Identified members address type name)
    (hasMode : resourceMode members = .ok mode) (hasValues : HasValues members values)
    (split : splitMembers (table.top type) values = .ok contents) :
    normalize table source members =
      .ok (entityOf source mode address type name contents.1 contents.2) := by
  rw [normalize_eq identified hasMode hasValues, split]

end InfraReview.Plan
