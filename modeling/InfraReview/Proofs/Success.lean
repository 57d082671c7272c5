import InfraReview.Logged
import Mathlib.Data.List.Forall2

/-!
# Work that has succeeded and work that has failed

Work in steps that comes to a result has come to one in every step, whether it is logged or
not. With these statements a result is followed back to what it was made of.

Work in steps that fails has failed in one of them, and with its fault.
-/

namespace InfraReview

/-- Work in two steps that succeeds has succeeded in both. -/
theorem ok_of_bind {ε α β : Type} {first : Except ε α} {next : α → Except ε β} {result : β}
    (done : first >>= next = .ok result) :
    ∃ middle, first = .ok middle ∧ next middle = .ok result := by
  cases first with
  | error fault => cases done
  | ok middle => exact ⟨middle, rfl, done⟩

/-- A result under a function comes from a result. -/
theorem ok_of_map {ε α β : Type} {first : Except ε α} {change : α → β} {result : β}
    (done : first.map change = .ok result) :
    ∃ middle, first = .ok middle ∧ change middle = result := by
  cases first with
  | error fault => cases done
  | ok middle => exact ⟨middle, rfl, Except.ok.inj done⟩

/-- A result that is left when faults are forgotten is one. -/
theorem ok_of_toOption {ε α : Type} {result : Except ε α} {value : α}
    (left : result.toOption = some value) : result = .ok value := by
  cases result with
  | error fault => cases left
  | ok other => exact congrArg Except.ok (Option.some.inj left)

/-- A result of work whose faults are changed is one of the work. -/
theorem ok_of_mapError {ε δ α : Type} {first : Except ε α} {change : ε → δ} {result : α}
    (done : first.mapError change = .ok result) : first = .ok result := by
  cases first with
  | error fault => cases done
  | ok value => exact congrArg Except.ok (Except.ok.inj done)

/-- Work in two steps that ends in a fault has met it in the first one, or in the second one after
the first. -/
theorem error_of_bind {ε α β : Type} {first : Except ε α} {next : α → Except ε β} {fault : ε}
    (failed : first >>= next = .error fault) :
    first = .error fault ∨ ∃ middle, first = .ok middle ∧ next middle = .error fault := by
  cases first with
  | error cause => exact .inl (congrArg Except.error (Except.error.inj failed))
  | ok middle => exact .inr ⟨middle, rfl, failed⟩

/-- Work in two steps succeeds exactly when both do, one after the other. -/
theorem bind_ok_iff {ε α β : Type} {first : Except ε α} {next : α → Except ε β} {result : β} :
    first >>= next = .ok result ↔ ∃ middle, first = .ok middle ∧ next middle = .ok result := by
  refine ⟨ok_of_bind, ?_⟩
  rintro ⟨middle, rfl, done⟩
  exact done

/-- Work in two steps fails exactly when the first one does, or the second one after it. -/
theorem bind_error_iff {ε α β : Type} {first : Except ε α} {next : α → Except ε β} {fault : ε} :
    first >>= next = .error fault ↔
      first = .error fault ∨ ∃ middle, first = .ok middle ∧ next middle = .error fault := by
  refine ⟨error_of_bind, ?_⟩
  rintro (rfl | ⟨middle, rfl, failed⟩)
  · rfl
  · exact failed

/-- A fault under a function on faults comes from a fault. -/
theorem error_of_mapError {ε δ α : Type} {result : Except ε α} {change : ε → δ} {fault : δ}
    (failed : result.mapError change = .error fault) :
    ∃ cause, result = .error cause ∧ change cause = fault := by
  cases result with
  | error cause => exact ⟨cause, rfl, Except.error.inj failed⟩
  | ok value => cases failed

/-- The result of logged work in two steps is that of the steps. -/
theorem Logged.result_bind {φ α β : Type} (first : Logged φ α) (next : α → Logged φ β) :
    (first >>= next).result = first.result >>= fun value => (next value).result := by
  change (Logged.bind first next).result = _
  unfold Logged.bind
  cases first.result <;> rfl

/-- Logged work in two steps that succeeds has succeeded in both. -/
theorem Logged.ok_of_bind {φ α β : Type} {first : Logged φ α} {next : α → Logged φ β}
    {result : β} (done : (first >>= next).result = .ok result) :
    ∃ middle, first.result = .ok middle ∧ (next middle).result = .ok result := by
  change (Logged.bind first next).result = .ok result at done
  cases found : first.result with
  | error fault => simp [Logged.bind, found] at done
  | ok middle => exact ⟨middle, rfl, by simpa [Logged.bind, found] using done⟩

/-- Work that fails. -/
def Fails {ε α : Type} (result : Except ε α) : Prop := ∃ fault, result = .error fault

/-- A result is no failure. -/
@[simp] theorem not_fails_ok {ε α : Type} (value : α) : ¬ Fails (.ok value : Except ε α) := by
  rintro ⟨fault, ⟨⟩⟩

/-- A fault is a failure. -/
@[simp] theorem fails_error {ε α : Type} (fault : ε) : Fails (.error fault : Except ε α) :=
  ⟨fault, rfl⟩

instance {ε α : Type} (result : Except ε α) : Decidable (Fails result) :=
  match result with
  | .error fault => .isTrue (fails_error fault)
  | .ok value => .isFalse (not_fails_ok value)

/-- Work that does not fail comes to a result. -/
theorem ok_of_not_fails {ε α : Type} {result : Except ε α} (sound : ¬ Fails result) :
    ∃ value, result = .ok value := by
  cases result with
  | error fault => exact absurd (fails_error fault) sound
  | ok value => exact ⟨value, rfl⟩

/-- Work in two steps fails in the first one, or in the second one after the first. -/
theorem fails_bind {ε α β : Type} (first : Except ε α) (next : α → Except ε β) :
    Fails (first >>= next) ↔ Fails first ∨ ∃ value, first = .ok value ∧ Fails (next value) := by
  cases first with
  | error fault => simp [bind, Except.bind]
  | ok value => simp [bind, Except.bind]

/-- Work in two steps fails in the first one or later, when whether the second one fails does not
depend on the result of the first. -/
theorem fails_bind_apart {ε α β : Type} (first : Except ε α) {next : α → Except ε β}
    {later : Prop} (rest : ∀ value, Fails (next value) ↔ later) :
    Fails (first >>= next) ↔ Fails first ∨ later := by
  cases first with
  | error fault => simp [bind, Except.bind]
  | ok value => simpa [bind, Except.bind] using rest value

/-- Work in two steps of which the second one does not fail fails as the first one does. -/
theorem fails_bind_sound {ε α β : Type} (first : Except ε α) {next : α → Except ε β}
    (sound : ∀ value, ¬ Fails (next value)) : Fails (first >>= next) ↔ Fails first := by
  rw [fails_bind_apart first fun value => iff_false_intro (sound value), or_false]

/-- Work on every item of a list fails when the work on one of them does. -/
theorem fails_mapM {ε α β : Type} (work : α → Except ε β) (items : List α) :
    Fails (items.mapM work) ↔ ∃ item ∈ items, Fails (work item) := by
  induction items with
  | nil => simp [pure, Except.pure]
  | cons item items inductionHypothesis =>
    have rest (first : β) : Fails (do
        let others ← items.mapM work
        pure (first :: others)) ↔ ∃ item ∈ items, Fails (work item) := by
      rw [← inductionHypothesis]
      exact fails_bind_sound _ fun others => not_fails_ok _
    rw [List.mapM_cons, fails_bind_apart _ rest]
    simp only [List.mem_cons, exists_eq_or_imp]

/-- Work on every item of a list comes to the results of the items when each of them has one. -/
theorem mapM_ok {ε α β : Type} {work : α → Except ε β} {found : α → β} {items : List α}
    (done : ∀ item ∈ items, work item = .ok (found item)) :
    items.mapM work = .ok (items.map found) := by
  induction items with
  | nil => rfl
  | cons item items inductionHypothesis =>
    have rest := inductionHypothesis fun other later => done other (List.mem_cons_of_mem _ later)
    rw [List.mapM_cons, done item List.mem_cons_self, rest]
    rfl

/-- Work on every item of a list comes to results when it comes to one for each of them. -/
theorem exists_mapM {ε α β : Type} {work : α → Except ε β} {items : List α}
    (done : ∀ item ∈ items, ∃ value, work item = .ok value) :
    ∃ values, items.mapM work = .ok values := by
  refine ok_of_not_fails fun failed => ?_
  obtain ⟨item, member, broken⟩ := (fails_mapM work items).mp failed
  obtain ⟨value, own⟩ := done item member
  rw [own] at broken
  exact not_fails_ok value broken

/-- Work on every item of a list comes to results exactly when it comes to each of them. -/
theorem mapM_ok_iff {ε α β : Type} (work : α → Except ε β) (items : List α) (results : List β) :
    items.mapM work = .ok results ↔
      List.Forall₂ (fun item result => work item = .ok result) items results := by
  induction items generalizing results with
  | nil => simp [pure, Except.pure, eq_comm]
  | cons item items inductionHypothesis =>
    rw [List.mapM_cons, List.forall₂_cons_left_iff]
    constructor
    · intro done
      obtain ⟨first, own, done⟩ := ok_of_bind done
      obtain ⟨others, behind, same⟩ := ok_of_bind done
      cases same
      exact ⟨first, others, own, (inductionHypothesis others).mp behind, rfl⟩
    · rintro ⟨first, others, own, behind, rfl⟩
      rw [own, (inductionHypothesis others).mpr behind]
      rfl

/-- Work on every item of a list fails with the fault of the first item on which it does. -/
theorem mapM_error_iff {ε α β : Type} {work : α → Except ε β} {items : List α} {fault : ε} :
    items.mapM work = .error fault ↔ ∃ before item after, items = before ++ item :: after ∧
      (∀ earlier ∈ before, ¬ Fails (work earlier)) ∧ work item = .error fault := by
  induction items with
  | nil => simp [pure, Except.pure]
  | cons item items inductionHypothesis =>
    rw [List.mapM_cons, bind_error_iff]
    constructor
    · rintro (own | ⟨first, own, failed⟩)
      · exact ⟨[], item, items, rfl, by simp, own⟩
      · rcases bind_error_iff.mp failed with behind | ⟨others, _, ⟨⟩⟩
        obtain ⟨before, other, after, rfl, earlier, later⟩ := inductionHypothesis.mp behind
        refine ⟨item :: before, other, after, rfl, ?_, later⟩
        exact List.forall_mem_cons.mpr ⟨by simp [own], earlier⟩
    · rintro ⟨before, other, after, split, earlier, failed⟩
      cases before with
      | nil =>
        cases split
        exact .inl failed
      | cons first before =>
        cases split
        obtain ⟨own, others⟩ := List.forall_mem_cons.mp earlier
        obtain ⟨value, done⟩ := ok_of_not_fails own
        have behind := inductionHypothesis.mpr ⟨before, other, after, rfl, others, failed⟩
        exact .inr ⟨value, done, bind_error_iff.mpr (.inl behind)⟩

/-- Each result of work on every item of a list is the one of an item. -/
theorem exists_of_mapM {ε α β : Type} {work : α → Except ε β} {items : List α} {results : List β}
    (done : items.mapM work = .ok results) {result : β} (member : result ∈ results) :
    ∃ item ∈ items, work item = .ok result := by
  induction items generalizing results with
  | nil =>
    cases done
    cases member
  | cons item items inductionHypothesis =>
    rw [List.mapM_cons] at done
    obtain ⟨first, own, done⟩ := ok_of_bind done
    obtain ⟨others, behind, same⟩ := ok_of_bind done
    cases same
    rcases List.mem_cons.mp member with rfl | later
    · exact ⟨item, List.mem_cons_self, own⟩
    · obtain ⟨other, listed, worked⟩ := inductionHypothesis behind later
      exact ⟨other, List.mem_cons_of_mem _ listed, worked⟩

/-- Work on every item of a list comes to a result for each item. -/
theorem result_of_mapM {ε α β : Type} {work : α → Except ε β} {items : List α} {results : List β}
    (done : items.mapM work = .ok results) {item : α} (member : item ∈ items) :
    ∃ result ∈ results, work item = .ok result := by
  induction items generalizing results with
  | nil => cases member
  | cons first items inductionHypothesis =>
    rw [List.mapM_cons] at done
    obtain ⟨value, own, done⟩ := ok_of_bind done
    obtain ⟨others, behind, same⟩ := ok_of_bind done
    cases same
    rcases List.mem_cons.mp member with rfl | later
    · exact ⟨value, List.mem_cons_self, own⟩
    · obtain ⟨result, held, worked⟩ := inductionHypothesis behind later
      exact ⟨result, List.mem_cons_of_mem _ held, worked⟩

/-- A function on results changes no failure. -/
@[simp] theorem fails_map {ε α β : Type} (result : Except ε α) (change : α → β) :
    Fails (result.map change) ↔ Fails result := by
  cases result with
  | error fault => exact iff_of_true (fails_error _) (fails_error _)
  | ok value => exact iff_of_false (not_fails_ok _) (not_fails_ok _)

/-- A function on faults changes no failure. -/
@[simp] theorem fails_mapError {ε δ α : Type} (result : Except ε α) (change : ε → δ) :
    Fails (result.mapError change) ↔ Fails result := by
  cases result with
  | error fault => exact iff_of_true (fails_error _) (fails_error _)
  | ok value => exact iff_of_false (not_fails_ok _) (not_fails_ok _)

/-- The fault of work that has failed. -/
def failure? {ε α : Type} : Except ε α → Option ε
  | .error fault => some fault
  | .ok _ => none

/-- Work has failed with its fault. -/
theorem failure?_eq_some_iff {ε α : Type} {result : Except ε α} {fault : ε} :
    failure? result = some fault ↔ result = .error fault := by
  cases result <;> simp [failure?]

/-- Work in two steps fails as the first one does, or else as the second one does, when how the
second one fails does not depend on the result of the first. -/
theorem failure?_bind {ε α β : Type} (first : Except ε α) {next : α → Except ε β}
    {later : Option ε} (rest : ∀ value, failure? (next value) = later) :
    failure? (first >>= next) = (failure? first).or later := by
  cases first with
  | error fault => rfl
  | ok value => exact rest value

/-- Work in two steps fails as the first one does when the second one does not fail. -/
theorem failure?_bind_sound {ε α β : Type} (first : Except ε α) {next : α → Except ε β}
    (sound : ∀ value, failure? (next value) = none) :
    failure? (first >>= next) = failure? first := by
  rw [failure?_bind first sound, Option.or_none]

/-- A function on results changes no failure. -/
theorem failure?_map {ε α β : Type} (result : Except ε α) (change : α → β) :
    failure? (result.map change) = failure? result := by
  cases result <;> rfl

end InfraReview
