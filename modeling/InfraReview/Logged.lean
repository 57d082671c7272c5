import InfraReview.Log

/-!
# Work that is logged

Logged work ends with a result or a fault, and either way with what was noted up to that
point. Work that follows other work adds its entries after those of the first; after a
fault nothing follows.
-/

namespace InfraReview

/-- A result or a fault, and what was noted on the way. -/
structure Logged (φ α : Type) where
  result : Except φ α
  log : List LogEntry

namespace Logged

/-- A result without entries. -/
def pure (value : α) : Logged φ α := ⟨.ok value, []⟩

/-- Work, and other work with its result. -/
def bind (first : Logged φ α) (next : α → Logged φ β) : Logged φ β :=
  match first.result with
  | .error fault => ⟨.error fault, first.log⟩
  | .ok value => ⟨(next value).result, first.log ++ (next value).log⟩

instance : Monad (Logged φ) where
  pure := pure
  bind := bind

/-- A fault without entries. -/
def fail (fault : φ) : Logged φ α := ⟨.error fault, []⟩

/-- Entries without a result. -/
def note (entries : List LogEntry) : Logged φ Unit := ⟨.ok (), entries⟩

/-- A result or a fault without entries. -/
def ofExcept (result : Except φ α) : Logged φ α := ⟨result, []⟩

/-- Work whose faults are put in other terms. -/
def mapFault (change : φ → ψ) (work : Logged φ α) : Logged ψ α :=
  ⟨work.result.mapError change, work.log⟩

/-- What a result alone leads to is what follows it. -/
theorem pure_bind (value : α) (next : α → Logged φ β) : bind (pure value) next = next value := by
  simp [bind, pure]

/-- Work that is followed by nothing is the work itself. -/
theorem bind_pure (work : Logged φ α) : bind work pure = work := by
  obtain ⟨result, log⟩ := work
  cases result <;> simp [bind, pure]

/-- Work in three steps may be split after the first or after the second. -/
theorem bind_assoc (work : Logged φ α) (next : α → Logged φ β) (last : β → Logged φ γ) :
    bind (bind work next) last = bind work fun value => bind (next value) last := by
  obtain ⟨result, log⟩ := work
  cases result with
  | error fault => rfl
  | ok value =>
    simp only [bind]
    cases (next value).result with
    | error fault => rfl
    | ok middle => simp [List.append_assoc]

instance : LawfulMonad (Logged φ) :=
  LawfulMonad.mk' (Logged φ) (fun work => bind_pure work) pure_bind bind_assoc

end Logged

end InfraReview
