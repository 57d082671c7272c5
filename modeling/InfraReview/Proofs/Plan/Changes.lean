import InfraReview.Plan.Changes

/-!
# Actions of planned changes

A change deletes when deletion is its only action. The actions are a list nearly always; an object
gives its names for them.
-/

namespace InfraReview.Plan

/-- Actions of which deletion is the only one. An object gives its names. -/
inductive DeletionAlone : Json → Prop where
  | listed : DeletionAlone (.array [.string "delete"])
  | named (value : Json) : DeletionAlone (.object [("delete", value)])

/-- Deletion is found to be the only action when it is. -/
theorem onlyDeletes_iff (actions : Json) :
    onlyDeletes actions = .ok true ↔ DeletionAlone actions := by
  constructor
  · intro deletes
    unfold onlyDeletes at deletes
    split at deletes
    · cases deletes
    split at deletes
    · obtain rfl : _ = "delete" := by simpa using deletes
      exact .listed
    · cases deletes
    · obtain rfl : _ = "delete" := by simpa using deletes
      exact .named _
    all_goals cases deletes
  · rintro (_ | value) <;> rfl

end InfraReview.Plan
