import InfraReview.Proofs.Success

/-!
# Faults of a sort

Work in steps has only faults of one sort when each of its steps has. Work on a state may owe that
to something that holds of the state, which every step has to keep then.
-/

namespace InfraReview

/-- Work that fails only with faults of a sort. -/
def FailsOnly {ε α : Type} (sort : ε → Prop) (result : Except ε α) : Prop :=
  ∀ fault, result = .error fault → sort fault

namespace FailsOnly

variable {ε α β : Type} {sort : ε → Prop}

/-- A result is no failure of any sort. -/
theorem ok (value : α) : FailsOnly sort (.ok value) := by
  rintro fault ⟨⟩

/-- A fault of the sort. -/
theorem error {fault : ε} (blamed : sort fault) : FailsOnly sort (.error fault : Except ε α) := by
  rintro _ ⟨⟩
  exact blamed

/-- Work in two steps. -/
theorem bind {first : Except ε α} {next : α → Except ε β} (start : FailsOnly sort first)
    (rest : ∀ value, FailsOnly sort (next value)) : FailsOnly sort (first >>= next) := by
  intro fault failed
  rcases error_of_bind failed with early | ⟨value, _, late⟩
  · exact start fault early
  · exact rest value fault late

/-- A choice between two sorts of work. -/
theorem choice {condition : Prop} [Decidable condition] {first second : Except ε α}
    (left : FailsOnly sort first) (right : FailsOnly sort second) :
    FailsOnly sort (if condition then first else second) := by
  split
  · exact left
  · exact right

/-- Work on every item of a list. -/
theorem mapM {work : α → Except ε β} (each : ∀ item, FailsOnly sort (work item)) (items : List α) :
    FailsOnly sort (items.mapM work) := by
  induction items with
  | nil => exact ok _
  | cons item items inductionHypothesis =>
    rw [List.mapM_cons]
    exact (each item).bind fun _ => inductionHypothesis.bind fun _ => ok _

end FailsOnly

/-- Work that fails only with faults of a sort, and of whose results something holds. -/
structure Yields {ε α : Type} (sort : ε → Prop) (holds : α → Prop) (result : Except ε α) :
    Prop where
  failsOnly : FailsOnly sort result
  result : ∀ value, result = .ok value → holds value

namespace Yields

variable {ε α β : Type} {sort : ε → Prop} {between : α → Prop} {holds : β → Prop}

/-- A result of which something holds. -/
theorem ok {value : β} (held : holds value) : Yields sort holds (.ok value) := by
  refine ⟨.ok value, ?_⟩
  rintro _ ⟨⟩
  exact held

/-- A fault of the sort. -/
theorem error {fault : ε} (blamed : sort fault) : Yields sort holds (.error fault) := by
  refine ⟨.error blamed, ?_⟩
  rintro _ ⟨⟩

/-- Work in two steps. -/
theorem bind {first : Except ε α} {next : α → Except ε β} (start : Yields sort between first)
    (rest : ∀ value, between value → Yields sort holds (next value)) :
    Yields sort holds (first >>= next) := by
  constructor
  · intro fault failed
    rcases error_of_bind failed with early | ⟨value, done, late⟩
    · exact start.failsOnly fault early
    · exact (rest value (start.result value done)).failsOnly fault late
  · intro value done
    obtain ⟨middle, early, late⟩ := ok_of_bind done
    exact (rest middle (start.result middle early)).result value late

end Yields

/-- A step on a state that keeps what holds of the state, and fails only with faults of a sort when
that holds. -/
def Keeps {σ ε α : Type} (holds : σ → Prop) (sort : ε → Prop) (step : StateT σ (Except ε) α) :
    Prop :=
  ∀ state, holds state → Yields sort (fun (_, after) => holds after) (step.run state)

namespace Keeps

variable {σ ε α β : Type} {holds : σ → Prop} {sort : ε → Prop}

/-- A value without a step. -/
theorem pure (value : α) : Keeps holds sort (pure value : StateT σ (Except ε) α) :=
  fun _ kept => .ok kept

/-- A step that fails, whatever the state. -/
theorem fail {fault : ε} (blamed : sort fault) :
    Keeps holds sort (fun _ => .error fault : StateT σ (Except ε) α) :=
  fun _ _ => .error blamed

/-- A step after which the state is another one. -/
theorem modify {change : σ → σ} (keeps : ∀ state, holds state → holds (change state)) :
    Keeps holds sort (modify change : StateT σ (Except ε) PUnit) :=
  fun state kept => .ok (keeps state kept)

/-- A step after which the state is a given one. -/
theorem set {other : σ} (kept : holds other) :
    Keeps holds sort (set other : StateT σ (Except ε) PUnit) :=
  fun _ _ => .ok kept

/-- Two steps. -/
theorem bind {first : StateT σ (Except ε) α} {next : α → StateT σ (Except ε) β}
    (start : Keeps holds sort first) (rest : ∀ value, Keeps holds sort (next value)) :
    Keeps holds sort (first >>= next) := by
  intro state kept
  rw [StateT.run_bind]
  exact (start state kept).bind fun (value, after) keptAfter => rest value after keptAfter

/-- Steps that depend on the state and start from it. -/
theorem of_get {next : σ → StateT σ (Except ε) β}
    (rest : ∀ state, holds state →
      Yields sort (fun (_, after) => holds after) ((next state).run state)) :
    Keeps holds sort (get >>= next) :=
  rest

/-- Steps that depend on the state. -/
theorem get {next : σ → StateT σ (Except ε) β}
    (rest : ∀ state, holds state → Keeps holds sort (next state)) :
    Keeps holds sort (get >>= next) :=
  of_get fun state kept => rest state kept state kept

/-- A choice between two steps. -/
theorem choice {condition : Prop} [Decidable condition] {first second : StateT σ (Except ε) α}
    (left : Keeps holds sort first) (right : Keeps holds sort second) :
    Keeps holds sort (if condition then first else second) := by
  split
  · exact left
  · exact right

/-- A step for every item of a list. -/
theorem mapM {work : α → StateT σ (Except ε) β} (each : ∀ item, Keeps holds sort (work item))
    (items : List α) : Keeps holds sort (items.mapM work) := by
  induction items with
  | nil => exact pure _
  | cons item items inductionHypothesis =>
    rw [List.mapM_cons]
    exact (each item).bind fun _ => inductionHypothesis.bind fun _ => pure _

end Keeps

end InfraReview
