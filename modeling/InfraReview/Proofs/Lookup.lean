import Mathlib.Data.List.Nodup

/-!
# Tables with different keys

A table is a list of keys with their values, and looking a key up takes its first entry. When the
keys are different it is the only one, and a look-up tells what the table holds.
-/

namespace InfraReview

variable {κ β : Type} [BEq κ] [LawfulBEq κ]

/-- An entry under its key is found when the keys are different. -/
theorem lookup_of_mem {table : List (κ × β)} {key : κ} {value : β}
    (distinct : (table.map (·.1)).Nodup) (member : (key, value) ∈ table) :
    table.lookup key = some value := by
  induction table with
  | nil => cases member
  | cons entry table inductionHypothesis =>
    obtain ⟨other, current⟩ := entry
    obtain ⟨absent, others⟩ := List.nodup_cons.mp distinct
    rcases List.mem_cons.mp member with same | later
    · obtain ⟨rfl, rfl⟩ := Prod.mk.inj same
      simp
    · have differs : (key == other) = false := by
        rw [beq_eq_false_iff_ne]
        rintro rfl
        exact absent (List.mem_map.mpr ⟨_, later, rfl⟩)
      simpa [List.lookup_cons, differs] using inductionHypothesis others later

/-- What is found under a key is an entry. -/
theorem mem_of_lookup {table : List (κ × β)} {key : κ} {value : β}
    (found : table.lookup key = some value) : (key, value) ∈ table := by
  obtain ⟨before, after, rfl, _⟩ := List.lookup_eq_some_iff.mp found
  simp

/-- A table with different keys has an entry exactly when it is found under its key. -/
theorem lookup_eq_some_iff_mem {table : List (κ × β)} (distinct : (table.map (·.1)).Nodup)
    {key : κ} {value : β} : table.lookup key = some value ↔ (key, value) ∈ table :=
  ⟨mem_of_lookup, lookup_of_mem distinct⟩

end InfraReview
