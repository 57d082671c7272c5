import Mathlib.Data.List.Nodup
import InfraReview.Proofs.Json.Reading

/-!
# Names in documents

An object that was read from a text has each of its names once, however often the text gives them,
and so have all objects inside it. The reader writes one member at a time, and where the name is
there already, it only replaces the value.
-/

namespace InfraReview.Json

/-- A document whose objects have each name once, at every depth. -/
inductive NamesOnce : Json → Prop where
  | null : NamesOnce null
  | bool (value : Bool) : NamesOnce (bool value)
  | int (value : Int) : NamesOnce (int value)
  | double (value : Double) : NamesOnce (double value)
  | string (value : String) : NamesOnce (string value)
  | array {items : List Json} (inner : ∀ item ∈ items, NamesOnce item) : NamesOnce (array items)
  | object {members : List (String × Json)} (once : (members.map Prod.fst).Nodup)
      (inner : ∀ member ∈ members, NamesOnce member.2) : NamesOnce (object members)

attribute [simp] NamesOnce.null NamesOnce.bool NamesOnce.int NamesOnce.double NamesOnce.string

/-- An array has its names once when its items have. -/
@[simp] theorem namesOnce_array_iff {list : List Json} :
    NamesOnce (.array list) ↔ ∀ item ∈ list, NamesOnce item := by
  constructor
  · intro once
    cases once with
    | array inner => exact inner
  · exact .array

/-- An object has its names once when its own names stand there once and its values have theirs
once. -/
@[simp] theorem namesOnce_object_iff {members : List (String × Json)} :
    NamesOnce (.object members) ↔
      (members.map Prod.fst).Nodup ∧ ∀ member ∈ members, NamesOnce member.2 := by
  constructor
  · intro once
    cases once with
    | object names inner => exact ⟨names, inner⟩
  · rintro ⟨names, inner⟩
    exact .object names inner

namespace NamesOnce

/-- The items of an array have their names once. -/
theorem items {list : List Json} (once : NamesOnce (.array list)) :
    ∀ item ∈ list, NamesOnce item :=
  namesOnce_array_iff.mp once

/-- An object has its own names once. -/
theorem names {members : List (String × Json)} (once : NamesOnce (.object members)) :
    (members.map Prod.fst).Nodup :=
  (namesOnce_object_iff.mp once).1

/-- The values in an object have their names once. -/
theorem values {members : List (String × Json)} (once : NamesOnce (.object members)) :
    ∀ member ∈ members, NamesOnce member.2 :=
  (namesOnce_object_iff.mp once).2

/-- The member of an object with a name has its names once. -/
theorem member {members : List (String × Json)} (once : NamesOnce (.object members))
    (name : String) : NamesOnce (Json.member members name) := by
  unfold Json.member
  cases found : members.lookup name with
  | none => exact .null
  | some value =>
    obtain ⟨before, after, rfl, _⟩ := List.lookup_eq_some_iff.mp found
    exact once.values (name, value) (by simp)

end NamesOnce

/-- Members have the name that is written, and the names that they had. -/
theorem mem_names_setMember (members : List (String × Json)) (name : String) (value : Json)
    (other : String) :
    other ∈ (setMember members name value).map Prod.fst ↔
      other = name ∨ other ∈ members.map Prod.fst := by
  induction members with
  | nil => simp [setMember]
  | cons first rest inductionHypothesis =>
    obtain ⟨current, _⟩ := first
    by_cases same : current = name
    · simp [setMember, same]
    · simp only [setMember, same, if_false, List.map_cons, List.mem_cons, inductionHypothesis]
      tauto

/-- A member that is written keeps the names of an object once. -/
theorem NamesOnce.setMember {members : List (String × Json)} (once : NamesOnce (.object members))
    (name : String) {value : Json} (written : NamesOnce value) :
    NamesOnce (.object (setMember members name value)) := by
  induction members with
  | nil => exact .object (List.nodup_singleton name) (by simpa [Json.setMember] using written)
  | cons first rest inductionHypothesis =>
    obtain ⟨current, held⟩ := first
    obtain ⟨absent, names⟩ := List.nodup_cons.mp once.names
    obtain ⟨own, values⟩ := List.forall_mem_cons.mp once.values
    by_cases same : current = name
    · subst same
      rw [Json.setMember, if_pos rfl]
      exact .object once.names (List.forall_mem_cons.mpr ⟨written, values⟩)
    · have later := inductionHypothesis (.object names values)
      rw [Json.setMember, if_neg same]
      refine .object (List.nodup_cons.mpr ⟨?_, later.names⟩)
        (List.forall_mem_cons.mpr ⟨own, later.values⟩)
      rw [mem_names_setMember]
      rintro (equal | member)
      · exact same equal
      · exact absent member

/-- The reader makes objects that have their names once. -/
theorem namesOnce_kept : KeptByReader NamesOnce where
  null := .null
  bool := .bool
  int _ := .int _
  double := .double
  string := .string
  array := .array
  noMembers := .object List.nodup_nil (List.forall_mem_nil _)
  setMember before name _ written := before.setMember name written

end InfraReview.Json
