import Mathlib.Data.List.Induction
import Mathlib.Data.List.TakeWhile
import InfraReview.Proofs.Success
import InfraReview.Registry

/-!
# Histories of a registry

A registry lives through calls: candidates are offered to it, and it is frozen, in any order and as
often as anyone likes. What has become of it is said here by the history alone. It holds the checks
that were offered before the first freeze, those of each sort in order and with their repetitions,
and it is frozen when some call has frozen it. How a call is answered depends on the calls before it
in no other way than through that.
-/

namespace InfraReview

namespace Candidate

/-- The check of single entities that a candidate is. -/
def resource? : Candidate → Option ResourceCheck
  | resource check => some check
  | _ => none

/-- The check relating entities that a candidate is. -/
def cross? : Candidate → Option CrossCheck
  | cross check => some check
  | _ => none

/-- True for a candidate that is a check of either sort. -/
def isCheck : Candidate → Bool
  | other _ => false
  | _ => true

end Candidate

namespace Registry

/-- What is asked of a registry. -/
inductive Call where
  | register (candidate : Candidate)
  | freeze

namespace Call

/-- True for a call that freezes. -/
def freezes : Call → Bool
  | freeze => true
  | register _ => false

/-- The check that a call offers, if it offers one. -/
def offered? : Call → Option Candidate
  | register candidate => if candidate.isCheck then some candidate else none
  | freeze => none

end Call

/-- The answer to a call, and the registry after it. A call that is refused leaves the registry as
it was. -/
def answer (registry : Registry) : Call → Except RegistryFault Unit × Registry
  | .register candidate =>
    match registry.register candidate with
    | .error fault => (.error fault, registry)
    | .ok next => (.ok (), next)
  | .freeze => (.ok (), registry.freeze)

/-- The registry after calls in order. -/
def after (registry : Registry) : List Call → Registry
  | [] => registry
  | call :: calls => (registry.answer call).2.after calls

/-- The checks that calls offer before the first of them that freezes. -/
def admitted (calls : List Call) : List Candidate :=
  (calls.takeWhile fun call => !call.freezes).filterMap Call.offered?

/-- What a registry without checks should have become after calls. -/
def recorded (calls : List Call) : Registry where
  resourceChecks := (admitted calls).filterMap Candidate.resource?
  crossChecks := (admitted calls).filterMap Candidate.cross?
  frozen := calls.any Call.freezes

/-- How a call should be answered after others. That the registry is frozen is told first, whatever
is offered. -/
def verdict (earlier : List Call) : Call → Except RegistryFault Unit
  | .freeze => .ok ()
  | .register candidate =>
    if earlier.any Call.freezes then .error .frozen
    else
      match candidate with
      | .other typeName => .error (.notACheck typeName)
      | _ => .ok ()

/-! ### One more call -/

/-- A call that is refused changes nothing. -/
theorem answer_refused {registry : Registry} {call : Call}
    (refused : Fails (registry.answer call).1) :
    (registry.answer call).2 = registry := by
  cases call with
  | freeze => exact absurd refused (not_fails_ok _)
  | register candidate =>
    cases outcome : registry.register candidate with
    | error fault => simp [answer, outcome]
    | ok next =>
      simp only [answer, outcome] at refused
      exact absurd refused (not_fails_ok _)

/-- Nothing is admitted any more after a call that freezes. -/
theorem admitted_of_frozen {calls : List Call} (frozen : calls.any Call.freezes = true)
    (later : List Call) : admitted (calls ++ later) = admitted calls := by
  have stopped : (calls ++ later).takeWhile (fun call => !call.freezes) =
      calls.takeWhile fun call => !call.freezes := by
    induction calls with
    | nil => simp at frozen
    | cons call calls inductionHypothesis =>
      cases freezes : call.freezes with
      | true => simp [freezes]
      | false =>
        have rest : calls.any Call.freezes = true := by simpa [freezes] using frozen
        simp [freezes, inductionHypothesis rest]
  rw [admitted, stopped, admitted]

/-- Before that, a call admits the check that it offers. -/
theorem admitted_of_open {calls : List Call} (unfrozen : calls.any Call.freezes = false)
    (call : Call) : admitted (calls ++ [call]) = admitted calls ++ call.offered?.toList := by
  have all : ∀ earlier ∈ calls, (!earlier.freezes) = true := by simpa using unfrozen
  rw [admitted, admitted, List.takeWhile_append_of_pos all, List.takeWhile_eq_self_iff.mpr all]
  cases call with
  | freeze => simp [Call.freezes, Call.offered?]
  | register candidate =>
    cases offered : candidate.isCheck <;> simp [Call.freezes, Call.offered?, offered]

/-- While it is open, a registry takes a candidate up into the pool of its sort, and one that is no
check into neither. -/
theorem recorded_of_open {calls : List Call} (unfrozen : calls.any Call.freezes = false)
    (candidate : Candidate) :
    recorded (calls ++ [.register candidate]) =
      ⟨(recorded calls).resourceChecks ++ candidate.resource?.toList,
        (recorded calls).crossChecks ++ candidate.cross?.toList, false⟩ := by
  rw [recorded, admitted_of_open unfrozen]
  cases candidate <;>
    simp [recorded, unfrozen, Call.freezes, Call.offered?, Candidate.isCheck, Candidate.resource?,
      Candidate.cross?]

/-- Whatever comes after a freeze, the registry stays what the freeze has made of it. -/
theorem recorded_of_frozen (calls later : List Call) :
    recorded (calls ++ .freeze :: later) = (recorded calls).freeze := by
  have same : admitted (calls ++ .freeze :: later) = admitted calls := by
    by_cases frozen : calls.any Call.freezes = true
    · exact admitted_of_frozen frozen _
    · have closed : (calls ++ [Call.freeze]).any Call.freezes = true := by simp [Call.freezes]
      have unfrozen : calls.any Call.freezes = false := by simpa using frozen
      have kept := admitted_of_open unfrozen .freeze
      rw [List.append_cons, admitted_of_frozen closed, kept]
      simp [Call.offered?]
  simp [recorded, same, freeze, Call.freezes]

/-- A registry that its history describes answers the next call as it should, and the longer
history describes what it is then. -/
theorem answer_recorded (calls : List Call) (call : Call) :
    (recorded calls).answer call = (verdict calls call, recorded (calls ++ [call])) := by
  cases call with
  | freeze => simp [answer, verdict, recorded_of_frozen]
  | register candidate =>
    by_cases frozen : calls.any Call.freezes = true
    · have same : recorded (calls ++ [.register candidate]) = recorded calls := by
        simp [recorded, admitted_of_frozen frozen, Call.freezes]
      have closed : (recorded calls).frozen = true := frozen
      simp [answer, register, closed, verdict, frozen, same]
    · have unfrozen : calls.any Call.freezes = false := by simpa using frozen
      have kept : (recorded calls).frozen = false := unfrozen
      rw [recorded_of_open unfrozen]
      cases candidate with
      | resource check | cross check =>
        simp [answer, register, kept, verdict, unfrozen, Candidate.resource?, Candidate.cross?]
      | other typeName =>
        have same : recorded calls =
            ⟨(recorded calls).resourceChecks, (recorded calls).crossChecks, false⟩ := by
          rw [← kept]
        simp [answer, register, kept, verdict, unfrozen, Candidate.resource?, Candidate.cross?]
        exact same

/-! ### Whole histories -/

/-- Calls after calls. -/
theorem after_append (registry : Registry) (calls later : List Call) :
    registry.after (calls ++ later) = (registry.after calls).after later := by
  induction calls generalizing registry with
  | nil => rfl
  | cons call calls inductionHypothesis => exact inductionHypothesis _

/-- A registry becomes what its history says. The induction adds calls at the end. -/
theorem after_eq_recorded (calls : List Call) : empty.after calls = recorded calls := by
  induction calls using List.reverseRecOn with
  | nil => rfl
  | append_singleton calls call inductionHypothesis =>
    rw [after_append, inductionHypothesis]
    simp only [after, answer_recorded]

/-- The registry of the built-in checks has become what it is by registering each of them and by a
freeze. -/
theorem builtin_eq_after :
    builtin = empty.after (Check.resourceCatalog.map (fun check => .register (.resource check)) ++
      Check.crossCatalog.map (fun check => .register (.cross check)) ++ [.freeze]) := rfl

/-- A registry can be written once. After any calls it holds the checks that were offered before
the first freeze, in two pools that keep their order and their repetitions, and it describes those
of single entities first. The next call is answered as the history says, and when it is refused it
changes nothing. Until the first freeze a candidate is taken up once into the pool of its sort, and
nowhere when it is no check. From a freeze on, no call changes anything, a freeze included. -/
theorem written_once (calls : List Call) :
    let registry := empty.after calls
    registry = recorded calls ∧
    registry.allMetadata = ((admitted calls).filterMap Candidate.resource?).map (·.metadata) ++
      ((admitted calls).filterMap Candidate.cross?).map (·.metadata) ∧
    (∀ call, (registry.answer call).1 = verdict calls call) ∧
    (∀ call, Fails (verdict calls call) → (registry.answer call).2 = registry) ∧
    (calls.any Call.freezes = false → ∀ candidate, (registry.answer (.register candidate)).2 =
      ⟨registry.resourceChecks ++ candidate.resource?.toList,
        registry.crossChecks ++ candidate.cross?.toList, false⟩) ∧
    ∀ later, empty.after (calls ++ .freeze :: later) = registry.freeze := by
  intro registry
  have described : registry = recorded calls := after_eq_recorded calls
  refine ⟨described, ?metadata, ?answered, ?refused, ?taken, ?frozen⟩
  case metadata => rw [described, allMetadata, recorded]
  case answered =>
    intro call
    rw [described, answer_recorded]
  case refused =>
    intro call fails
    apply answer_refused
    rwa [described, answer_recorded]
  case taken =>
    intro unfrozen candidate
    rw [described, answer_recorded, recorded_of_open unfrozen]
  case frozen =>
    intro later
    rw [described, after_eq_recorded, recorded_of_frozen]

/-- A check that is offered twice stands twice in its pool, what is no check leaves no trace, and
what is offered to the frozen registry is refused, a check or not. -/
theorem repeated_check_recorded :
    let calls : List Call := [.register (.resource Check.bucketEncryption),
      .register (.other "str"), .register (.cross Check.networkFlowLog),
      .register (.resource Check.bucketEncryption)]
    let registry := empty.after calls
    registry = ⟨[Check.bucketEncryption, Check.bucketEncryption], [Check.networkFlowLog], false⟩ ∧
      (registry.answer (.register (.other "str"))).1 = .error (.notACheck "str") ∧
      (registry.answer (.register (.other "str"))).2 = registry ∧
      empty.after (calls ++ [.freeze, .register (.other "str"), .freeze]) = registry.freeze ∧
      ((empty.after (calls ++ [.freeze])).answer (.register (.other "str"))).1 =
        .error .frozen := by
  intro calls registry
  obtain ⟨described, _, answered, refused, _, closed⟩ := written_once calls
  have noCheck : Fails (verdict calls (.register (.other "str"))) := ⟨.notACheck "str", rfl⟩
  obtain ⟨_, _, answeredFrozen, _⟩ := written_once (calls ++ [.freeze])
  exact ⟨described, answered _, refused _ noCheck, closed _, answeredFrozen _⟩

end Registry

end InfraReview
