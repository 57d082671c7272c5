import InfraReview.Proofs.Plan.Changes
import InfraReview.Proofs.Plan.Traversal

/-!
# Where the reading of a plan breaks down

Most defects of a plan are looked for, and the plan is rejected because of them. A few shapes
are taken for granted instead: what is gone through, what is looked up among the destroyed
addresses, what is asked for its members, integers that are to become doubles, and integers whose
digits are asked for. Where such a shape is missing, reading breaks down with an error of another
sort.

It is said here, for every document, exactly when that happens: when the document itself has an
integer that is too long to be read, when the changes of the plan cannot be read, or else when the
first thing on the walk that the reader does not get past is one at which it breaks down. A
document that is not decoded for any other reason, or has no root module, is always rejected.
Documents with half of a surrogate pair are left out.
-/

namespace InfraReview.Plan

/-! ### Results that hinge on a condition -/

/-- A result that is an error which the reader does not look for. -/
def BreaksDown {α : Type} (result : Except Error α) : Prop :=
  ∃ error, result = .error error ∧ error.isRejection = false

/-- A result hinges on a condition when it is there under the condition and breaks down
without it. -/
structure HingesOn {α : Type} (result : Except Error α) (condition : Prop) : Prop where
  there : condition → ∃ value, result = .ok value
  broken : ¬ condition → BreaksDown result

/-- A result that is there does not break down. -/
@[simp] theorem not_breaksDown_ok {α : Type} (value : α) :
    ¬ BreaksDown (.ok value : Except Error α) := by
  rintro ⟨error, ⟨⟩, _⟩

/-- An error breaks down unless it is a rejection. -/
@[simp] theorem breaksDown_error {α : Type} (error : Error) :
    BreaksDown (.error error : Except Error α) ↔ error.isRejection = false := by
  simp [BreaksDown]

/-- Work in two steps breaks down in the first one, or in the second one after the first. -/
theorem breaksDown_bind {α β : Type} (first : Except Error α) (next : α → Except Error β) :
    BreaksDown (first >>= next) ↔
      BreaksDown first ∨ ∃ value, first = .ok value ∧ BreaksDown (next value) := by
  cases first with
  | error error => simp [bind, Except.bind]
  | ok value => simp [bind, Except.bind]

/-- A result that is there hinges on nothing. -/
theorem hingesOn_ok {α : Type} (value : α) {condition : Prop} (holds : condition) :
    HingesOn (.ok value : Except Error α) condition :=
  ⟨fun _ => ⟨value, rfl⟩, fun fails => absurd holds fails⟩

/-- An error that is no rejection hinges on whatever fails. -/
theorem hingesOn_error {α : Type} {error : Error} (unforeseen : error.isRejection = false)
    {condition : Prop} (fails : ¬ condition) :
    HingesOn (.error error : Except Error α) condition :=
  ⟨fun holds => absurd holds fails, fun _ => ⟨error, rfl, unforeseen⟩⟩

/-- What hinges on a condition breaks down exactly without it. -/
theorem HingesOn.breaksDown_iff {α : Type} {result : Except Error α} {condition : Prop}
    (hinges : HingesOn result condition) : BreaksDown result ↔ ¬ condition := by
  refine ⟨fun broken holds => ?_, hinges.broken⟩
  obtain ⟨value, rfl⟩ := hinges.there holds
  exact not_breaksDown_ok value broken

/-- Work in two steps hinges on the conditions of both. -/
theorem HingesOn.bind {α β : Type} {first : Except Error α} {next : α → Except Error β}
    {condition later : Prop} (hinges : HingesOn first condition)
    (rest : ∀ value, HingesOn (next value) later) :
    HingesOn (first >>= next) (condition ∧ later) := by
  constructor
  · rintro ⟨now, after⟩
    obtain ⟨value, rfl⟩ := hinges.there now
    exact (rest value).there after
  · intro fails
    rw [breaksDown_bind]
    by_cases now : condition
    · obtain ⟨value, done⟩ := hinges.there now
      exact .inr ⟨value, done, (rest value).broken fun holds => fails ⟨now, holds⟩⟩
    · exact .inl (hinges.broken now)

/-- A condition may be put in other words. -/
theorem HingesOn.congr {α : Type} {result : Except Error α} {condition other : Prop}
    (hinges : HingesOn result condition) (same : condition ↔ other) : HingesOn result other where
  there holds := hinges.there (same.mpr holds)
  broken fails := hinges.broken fun holds => fails (same.mp holds)

/-! ### The planned changes -/

/-- True for a value that can be gone through: a list, an object, a text, or nothing. -/
def isIterable (document : Json) : Bool :=
  document.isVacant ||
    match document with
    | .array _ | .object _ | .string _ => true
    | _ => false

/-- The detail of a change for an address can be read: it is an object with actions that can be
gone through, and the address can be written when deletion is the only one of them. -/
def DetailReadable (address detail : Json) : Prop :=
  ∃ parts, detail = .object parts ∧ isIterable (Json.member parts "actions") = true ∧
    (DeletionAlone (Json.member parts "actions") → address.Short)

/-- An entry of the changes that can be read: one that says nothing about an address, or
whose detail can be read. -/
def EntryReadable : Json → Prop
  | .object members =>
    (Json.member members "address").isVacant = true ∨
      (Json.member members "change").isVacant = true ∨
      DetailReadable (Json.member members "address") (Json.member members "change")
  | _ => True

/-- Changes that can be read: a list of which each entry can be read, or another value that
can be gone through. -/
def ChangesReadable : Json → Prop
  | .array entries => ∀ entry ∈ entries, EntryReadable entry
  | other => isIterable other = true

/-- Whether a change only deletes can be told when its actions can be gone through. -/
theorem onlyDeletes_hinges (actions : Json) :
    HingesOn (onlyDeletes actions) (isIterable actions = true) := by
  unfold onlyDeletes
  split
  · rename_i vacant
    exact hingesOn_ok _ (by simp [isIterable, vacant])
  · rename_i filled
    split
    all_goals try exact hingesOn_ok _ (by simp [isIterable])
    refine hingesOn_error rfl ?_
    cases actions <;> simp_all [isIterable]

/-- A part of a plan has a text when it can be written. -/
theorem shown_hinges (part : Json) : HingesOn (shown part) part.Short where
  there short := ⟨_, shown_of_short short⟩
  broken long := ⟨_, shown_of_not_short long, rfl⟩

/-- What actions destroy can be told when they can be gone through, and the address can be written
when they delete. -/
theorem destroyedWhen_hinges (address actions : Json) :
    HingesOn
      (onlyDeletes actions >>= fun deletes =>
        if deletes then (shown address).map some else .ok none)
      (isIterable actions = true ∧ (DeletionAlone actions → address.Short)) := by
  have told := onlyDeletes_hinges actions
  by_cases iterable : isIterable actions = true
  swap
  · exact ⟨fun both => absurd both.1 iterable,
      fun _ => (breaksDown_bind _ _).mpr (.inl (told.broken iterable))⟩
  obtain ⟨deletes, found⟩ := told.there iterable
  rw [← onlyDeletes_iff actions, found]
  cases deletes with
  | false => exact hingesOn_ok none (by simp [iterable])
  | true =>
    have written := (shown_hinges address).bind fun text =>
      hingesOn_ok (some text) trivial
    refine @HingesOn.congr _ ((shown address).map some) _ _ ?_
      (by simp [iterable] : address.Short ∧ True ↔ _)
    cases found : shown address <;> simpa [found, bind, Except.bind, Except.map] using written

/-- What an entry destroys can be told when the entry can be read. -/
theorem destroyedBy_hinges (entry : Json) : HingesOn (destroyedBy entry) (EntryReadable entry) := by
  cases entry with
  | object members =>
    by_cases nameless : (Json.member members "address").isVacant = true
    · simpa [destroyedBy, nameless] using hingesOn_ok _ (.inl nameless)
    by_cases plain : (Json.member members "change").isVacant = true
    · simpa [destroyedBy, nameless, plain, bind, Except.bind] using
        hingesOn_ok _ (.inr (.inl plain))
    have readable : EntryReadable (.object members) ↔
        DetailReadable (Json.member members "address") (Json.member members "change") := by
      simp [EntryReadable, nameless, plain]
    rw [destroyedBy, if_neg nameless, if_neg plain]
    cases detail : Json.member members "change" with
    | object parts =>
      refine ((destroyedWhen_hinges _ (Json.member parts "actions"))).congr ?_
      simp [readable, detail, DetailReadable]
    | _ => exact hingesOn_error rfl (by simp [readable, detail, DetailReadable])
  | _ => exact hingesOn_ok _ trivial

/-- What a list of entries destroys can be told when each entry can be read. -/
theorem destroyedByAll_hinges (entries : List Json) :
    HingesOn (destroyedByAll entries) (∀ entry ∈ entries, EntryReadable entry) := by
  induction entries with
  | nil => exact hingesOn_ok _ (by simp)
  | cons entry entries inductionHypothesis =>
    refine ((destroyedBy_hinges entry).bind fun address =>
      inductionHypothesis.bind fun addresses => hingesOn_ok _ trivial).congr ?_
    simp

/-- What a plan destroys can be told when its changes can be read. -/
theorem destroyedAddresses_hinges (changes : Json) :
    HingesOn (destroyedAddresses changes) (ChangesReadable changes) := by
  unfold destroyedAddresses
  by_cases vacant : changes.isVacant = true
  · rw [if_pos vacant]
    refine hingesOn_ok _ ?_
    cases changes <;> simp_all [ChangesReadable, isIterable, Json.isVacant]
  · rw [if_neg vacant]
    cases changes with
    | array entries => exact destroyedByAll_hinges entries
    | object _ => exact hingesOn_ok _ (by simp [ChangesReadable, isIterable])
    | string _ => exact hingesOn_ok _ (by simp [ChangesReadable, isIterable])
    | _ => exact hingesOn_error rfl (by simpa [ChangesReadable, isIterable] using vacant)

/-! ### What is met on a walk -/

/-- True for an address that can be looked up among others. -/
def isHashable : Json → Bool
  | .array _ | .object _ => false
  | _ => true

/-- Something met on a walk that the reader gets past: a resource whose address can be looked
up and which is destroyed, or has no defect, a mode that can be written and values that fit. -/
def Passes (destroyed : List String) : Visit → Prop
  | .broken _ => False
  | .resource members =>
    isHashable (Json.member members "address") = true ∧
      (isDestroyed destroyed members = true ∨
        resourceDefect? members = none ∧ (Json.member members "mode").Short ∧
          (Json.member members "values").Fits)

/-- Something met on a walk at which the reader breaks down: child modules that cannot be gone
through, an address that cannot be looked up, one that is an integer too long to be named in a
complaint, a mode that cannot be written in a resource that is told by its texts, or an integer
without a double in the values of a resource that has no defect. -/
inductive Breaks (destroyed : List String) : Visit → Prop where
  | children (sort : String) : Breaks destroyed (.broken (.notIterable sort))
  | address {members : Members}
      (unhashable : isHashable (Json.member members "address") = false) :
      Breaks destroyed (.resource members)
  | number {members : Members} {value : Int} (told : Json.member members "address" = .int value)
      (long : isLong value = true) : Breaks destroyed (.resource members)
  | mode {members : Members} (alive : isDestroyed destroyed members = false)
      (filled : unfilledField? members = none) (long : ¬ (Json.member members "mode").Short) :
      Breaks destroyed (.resource members)
  | values {members : Members} (alive : isDestroyed destroyed members = false)
      (sound : resourceDefect? members = none) (modal : (Json.member members "mode").Short)
      (unfit : ¬ (Json.member members "values").Fits) : Breaks destroyed (.resource members)

/-- A plan with a root module at which the reader breaks down: its changes cannot be read, or
else the first thing met in its modules that the reader does not get past is one that breaks
it. -/
def BrokenWithin (members root : Members) : Prop :=
  ¬ ChangesReadable (Json.member members "resource_changes") ∨
    ∃ destroyed, destroyedAddresses (Json.member members "resource_changes") = .ok destroyed ∧
      ∃ before visit after, moduleVisits root = before ++ visit :: after ∧
        (∀ earlier ∈ before, Passes destroyed earlier) ∧ Breaks destroyed visit

/-- A complaint about a resource is made unless its address is too long for it. -/
theorem missing_rejects {members : Members} (field : String)
    (called : (Json.member members "address").Short) :
    (requiredText.missing members field).isRejection = true := by
  simp only [requiredText.missing, shown_of_short called]
  split_ifs <;> rfl

/-- An address that is too long for a complaint breaks the reader down. -/
theorem missing_breaks {members : Members} (field : String)
    (long : ¬ (Json.member members "address").Short) :
    requiredText.missing members field = .length .written := by
  have filled : ¬ (Json.member members "address").isVacant = true :=
    fun vacant => long (Json.short_of_vacant vacant)
  rw [requiredText.missing, if_neg filled, shown_of_not_short long]

/-- An address that can be looked up but not written is an integer that is too long. -/
theorem long_address {address : Json} (hashable : isHashable address = true)
    (long : ¬ address.Short) : ∃ value, address = .int value ∧ isLong value = true := by
  cases address with
  | int value => exact ⟨value, rfl, by simpa using long⟩
  | array _ => cases hashable
  | object _ => cases hashable
  | _ => simp at long

/-- A resource with a defect is rejected, however it is called in the complaint, when it can be
called and when its mode can be written. -/
theorem normalize_rejects (table : BlockTable) (source : String) {members : Members}
    (called : (Json.member members "address").Short)
    (modal : unfilledField? members = none → (Json.member members "mode").Short)
    (defect : resourceDefect? members ≠ none) :
    ∃ error, normalize table source members = .error error ∧ error.isRejection = true := by
  cases unfilled : unfilledField? members with
  | some field => exact ⟨_, normalize_unfilled unfilled, missing_rejects field called⟩
  | none =>
    obtain ⟨address, type, name, identified⟩ := identified_of_filled unfilled
    obtain ⟨mode, hasMode⟩ := resourceMode_of_short (modal unfilled)
    rcases identified.values with ⟨_, _, sound, _⟩ | ⟨_, rejected⟩
    · exact absurd sound defect
    · exact ⟨_, rejected table source mode hasMode, rfl⟩

/-- The entity of a resource without a defect hinges on its integers. -/
theorem normalize_hinges (table : BlockTable) (source : String) {members : Members}
    (sound : resourceDefect? members = none) (modal : (Json.member members "mode").Short) :
    HingesOn (normalize table source members) (Json.member members "values").Fits := by
  obtain ⟨address, type, name, values, identified, hasValues, same⟩ := identified_of_sound sound
  obtain ⟨mode, hasMode⟩ := resourceMode_of_short modal
  refine HingesOn.congr ?_ same.symm
  rw [normalize_eq identified hasMode hasValues]
  cases split : splitMembers (table.top type) values with
  | ok contents => exact hingesOn_ok _ (fits_of_splitMembers values _ split)
  | error fault =>
    refine hingesOn_error rfl fun fits => ?_
    obtain ⟨contents, found⟩ := splitMembers_of_fits values (table.top type) fits
    simp [split] at found

/-- A resource whose address can be looked up comes to what its normalization comes to unless
it is destroyed. -/
theorem step_alive (table : BlockTable) (source : String) {destroyed : List String}
    {members : Members} (hashable : isHashable (Json.member members "address") = true)
    (alive : isDestroyed destroyed members = false) :
    step table source destroyed (.resource members) =
      (normalize table source members).map .entity := by
  cases address : Json.member members "address" with
  | array _ => simp [address, isHashable] at hashable
  | object _ => simp [address, isHashable] at hashable
  | string content =>
    have spared : content ∉ destroyed := by simpa [isDestroyed, address] using alive
    simp [step, address, spared]
  | _ => simp [step, address]

/-- The reader makes something of what it gets past. -/
theorem step_passes (table : BlockTable) (source : String) {destroyed : List String}
    {visit : Visit} (passes : Passes destroyed visit) :
    ∃ current, step table source destroyed visit = .ok current := by
  cases visit with
  | broken error => cases passes
  | resource members =>
    obtain ⟨hashable, gone | ⟨sound, modal, fits⟩⟩ := passes
    · obtain ⟨address, passed⟩ := step_destroyed table source gone
      exact ⟨_, passed⟩
    · by_cases gone : isDestroyed destroyed members = true
      · obtain ⟨address, passed⟩ := step_destroyed table source gone
        exact ⟨_, passed⟩
      · obtain ⟨entity, normalized⟩ := (normalize_hinges table source sound modal).there fits
        rw [step_alive table source hashable (Bool.eq_false_iff.mpr gone), normalized]
        exact ⟨_, rfl⟩

/-- The reader breaks down where it is said to. -/
theorem step_breaks (table : BlockTable) (source : String) {destroyed : List String}
    {visit : Visit} (breaks : Breaks destroyed visit) :
    BreaksDown (step table source destroyed visit) := by
  cases breaks with
  | children sort => exact ⟨.notIterable sort, rfl, rfl⟩
  | @address members unhashable =>
    cases address : Json.member members "address" with
    | array _ => exact ⟨.notHashable "list", by simp [step, address], rfl⟩
    | object _ => exact ⟨.notHashable "dict", by simp [step, address], rfl⟩
    | _ => simp [address, isHashable] at unhashable
  | @number members value told long =>
    have unfilled : unfilledField? members = some "address" := by
      simp [unfilledField?, told, isFilledText]
    have unwritten : ¬ (Json.member members "address").Short := by simp [told, long]
    rw [step_alive table source (by simp [told, isHashable]) (by simp [isDestroyed, told]),
      normalize_unfilled unfilled, missing_breaks _ unwritten]
    exact ⟨_, rfl, rfl⟩
  | @mode members alive filled long =>
    obtain ⟨address, _, _, identified⟩ := identified_of_filled filled
    have hashable : isHashable (Json.member members "address") = true := by
      simp [identified.hasAddress, isHashable]
    rw [step_alive table source hashable alive, normalize_modeless table source filled long]
    exact ⟨_, rfl, rfl⟩
  | @values members alive sound modal unfit =>
    obtain ⟨address, _, _, _, identified, _⟩ := identified_of_sound sound
    have hashable : isHashable (Json.member members "address") = true := by
      simp [identified.hasAddress, isHashable]
    obtain ⟨error, failed, unforeseen⟩ := (normalize_hinges table source sound modal).broken unfit
    rw [step_alive table source hashable alive, failed]
    exact ⟨error, rfl, unforeseen⟩

/-- What is met in a module is malformed in a way that the reader looks for, unless it is a
value that it cannot go through. -/
def Expected : Visit → Prop
  | .broken error => error.isRejection = true ∨ ∃ sort, error = .notIterable sort
  | .resource _ => True

/-- What the reader neither gets past nor breaks down at is rejected. -/
theorem step_rejects (table : BlockTable) (source : String) {destroyed : List String}
    {visit : Visit} (expected : Expected visit) (stuck : ¬ Passes destroyed visit)
    (whole : ¬ Breaks destroyed visit) :
    ∃ error, step table source destroyed visit = .error error ∧ error.isRejection = true := by
  cases visit with
  | broken error =>
    rcases expected with rejected | ⟨sort, rfl⟩
    · exact ⟨error, rfl, rejected⟩
    · exact absurd (.children sort) whole
  | resource members =>
    have hashable : isHashable (Json.member members "address") = true := by
      by_contra unhashable
      exact whole (.address (Bool.eq_false_iff.mpr unhashable))
    have alive : isDestroyed destroyed members = false := by
      by_contra gone
      exact stuck ⟨hashable, .inl (by simpa using gone)⟩
    have called : (Json.member members "address").Short := by
      by_contra long
      obtain ⟨value, told, long⟩ := long_address hashable long
      exact whole (.number told long)
    have modal (filled : unfilledField? members = none) : (Json.member members "mode").Short := by
      by_contra long
      exact whole (.mode alive filled long)
    have defect : resourceDefect? members ≠ none := by
      intro sound
      have short := modal (filled_of_sound sound)
      by_cases fits : (Json.member members "values").Fits
      · exact stuck ⟨hashable, .inr ⟨sound, short, fits⟩⟩
      · exact whole (.values alive sound short fits)
    obtain ⟨error, failed, rejected⟩ := normalize_rejects table source called modal defect
    rw [step_alive table source hashable alive, failed]
    exact ⟨error, rfl, rejected⟩

/-- The reader makes something of exactly what it gets past. -/
theorem passes_of_step {table : BlockTable} {source : String} {destroyed : List String}
    {visit : Visit} (expected : Expected visit) {current : Step}
    (stepped : step table source destroyed visit = .ok current) : Passes destroyed visit := by
  by_contra stuck
  by_cases breaks : Breaks destroyed visit
  · have broken := step_breaks table source breaks
    rw [stepped] at broken
    exact not_breaksDown_ok current broken
  · obtain ⟨error, failed, _⟩ := step_rejects table source expected stuck breaks
    simp [stepped] at failed

/-- The reader breaks down at exactly those things where it is said to. -/
theorem step_breaksDown_iff (table : BlockTable) (source : String) {destroyed : List String}
    {visit : Visit} (expected : Expected visit) :
    BreaksDown (step table source destroyed visit) ↔ Breaks destroyed visit := by
  refine ⟨fun broken => ?_, step_breaks table source⟩
  by_contra whole
  by_cases passes : Passes destroyed visit
  · obtain ⟨current, stepped⟩ := step_passes table source passes
    rw [stepped] at broken
    exact not_breaksDown_ok current broken
  · obtain ⟨error, failed, rejected⟩ := step_rejects table source expected passes whole
    simp [failed, rejected] at broken

/-! ### What a whole plan comes to -/

/-- Reading visits breaks down at the first one, or at a later one if something is made of the
first. -/
theorem readVisits_cons (table : BlockTable) (source : String) (destroyed : List String)
    (visit : Visit) (visits : List Visit) :
    BreaksDown (readVisits table source destroyed (visit :: visits)) ↔
      BreaksDown (step table source destroyed visit) ∨
        (∃ current, step table source destroyed visit = .ok current) ∧
          BreaksDown (readVisits table source destroyed visits) := by
  rw [readVisits, breaksDown_bind]
  refine or_congr_right (Iff.trans (exists_congr fun current => and_congr_right fun _ => ?_)
    exists_and_right)
  rw [breaksDown_bind]
  cases current <;> simp

/-- Reading visits breaks down exactly at the first one that the reader does not get past.
Proof: by induction on the visits; what follows a visit matters only if the reader gets past
it. -/
theorem readVisits_breaksDown_iff (table : BlockTable) (source : String)
    (destroyed : List String) (visits : List Visit) (expected : ∀ visit ∈ visits, Expected visit) :
    BreaksDown (readVisits table source destroyed visits) ↔
      ∃ before visit after, visits = before ++ visit :: after ∧
        (∀ earlier ∈ before, Passes destroyed earlier) ∧ Breaks destroyed visit := by
  induction visits with
  | nil => simp [readVisits]
  | cons visit visits inductionHypothesis =>
    obtain ⟨head, tail⟩ := List.forall_mem_cons.mp expected
    rw [readVisits_cons, step_breaksDown_iff table source head, inductionHypothesis tail]
    constructor
    · rintro (breaks | ⟨⟨current, stepped⟩, before, next, after, rfl, passed, breaks⟩)
      · exact ⟨[], visit, visits, rfl, by simp, breaks⟩
      · refine ⟨visit :: before, next, after, rfl, ?_, breaks⟩
        exact List.forall_mem_cons.mpr ⟨passes_of_step head stepped, passed⟩
    · rintro ⟨before, next, after, same, passed, breaks⟩
      cases before with
      | nil =>
        obtain ⟨rfl, rfl⟩ := List.cons.inj same
        exact .inl breaks
      | cons first before =>
        obtain ⟨rfl, rfl⟩ := List.cons.inj same
        obtain ⟨now, passed⟩ := List.forall_mem_cons.mp passed
        exact .inr ⟨step_passes table source now, before, next, after, rfl, passed, breaks⟩

/-- What a module has among its own resources is expected. -/
theorem ownVisits_expected (members : Members) :
    ∀ visit ∈ ownVisits members, Expected visit := by
  intro visit met
  unfold ownVisits at met
  split at met
  · cases met
  · obtain ⟨entry, _, rfl⟩ := List.mem_map.mp met
    cases entry with
    | object resource => trivial
    | _ => exact .inl rfl
  · obtain rfl := List.mem_singleton.mp met
    exact .inl rfl

mutual

/-- What is met in an entry for a child module is expected. -/
theorem childVisits_expected : ∀ entry : Json, ∀ visit ∈ childVisits entry, Expected visit
  | .object members, visit, met => by
    rw [childVisits] at met
    rcases List.mem_append.mp met with own | below
    · exact ownVisits_expected members visit own
    · exact nestedVisits_expected members visit below
  | .null, visit, met | .bool _, visit, met | .int _, visit, met | .double _, visit, met
  | .string _, visit, met | .array _, visit, met => by
    obtain rfl : visit = .broken .childNotAnObject := by simpa [childVisits] using met
    exact .inl rfl

/-- What is met below a module is expected. -/
theorem nestedVisits_expected : ∀ members : Members,
    ∀ visit ∈ nestedVisits members, Expected visit
  | [], visit, met => by simp [nestedVisits] at met
  | (name, value) :: members, visit, met => by
    rw [nestedVisits] at met
    split at met
    · exact listVisits_expected value visit met
    · exact nestedVisits_expected members visit met

/-- What is met in a member for child modules is expected. -/
theorem listVisits_expected : ∀ children : Json, ∀ visit ∈ listVisits children, Expected visit
  | .array entries, visit, met => by
    rw [listVisits] at met
    exact entryVisits_expected entries visit met
  | .null, visit, met => by simp [listVisits, Json.isVacant] at met
  | .object _, visit, met | .string _, visit, met => by
    rw [listVisits] at met
    · split at met
      · cases met
      · obtain rfl := List.mem_singleton.mp met
        exact .inl rfl
  | .bool _, visit, met | .int _, visit, met | .double _, visit, met => by
    rw [listVisits] at met
    · split at met
      · cases met
      · obtain rfl := List.mem_singleton.mp met
        exact .inr ⟨_, rfl⟩
    all_goals simp

/-- What is met in a list of child modules is expected. -/
theorem entryVisits_expected : ∀ entries : List Json,
    ∀ visit ∈ entryVisits entries, Expected visit
  | [], visit, met => by simp [entryVisits] at met
  | entry :: entries, visit, met => by
    rw [entryVisits] at met
    rcases List.mem_append.mp met with first | later
    · exact childVisits_expected entry visit first
    · exact entryVisits_expected entries visit later

end

/-- Everything met in a module is expected. -/
theorem moduleVisits_expected (members : Members) :
    ∀ visit ∈ moduleVisits members, Expected visit := by
  intro visit met
  rcases List.mem_append.mp met with own | below
  · exact ownVisits_expected members visit own
  · exact nestedVisits_expected members visit below

/-- A document of bytes or text in which the reader meets an integer with too many digits before
anything else that is wrong with it. -/
def Document.MeetsLongInteger : Document → Prop
  | .bytes content => ∃ fault, Json.readBytes content = .error (.length fault)
  | .text content => ∃ fault, Json.readText content = .error (.length fault)
  | .decoded _ => False

/-- A document in which the reader meets no half of a surrogate pair without the other. -/
def Document.Paired : Document → Prop
  | .bytes content => Json.readBytes content ≠ .error .unpairedHalf
  | .text content => Json.readText content ≠ .error .unpairedHalf
  | .decoded _ => True

/-- A document that is not decoded is rejected, unless an integer in it is too long. -/
theorem breaksDown_decode_iff {document : Document} (paired : document.Paired) :
    BreaksDown document.decode ↔ document.MeetsLongInteger := by
  have ofJson (found : Except Json.DocumentFault Json) (paired : found ≠ .error .unpairedHalf) :
      BreaksDown (Document.decode.ofJson found) ↔ ∃ fault, found = .error (.length fault) := by
    cases found with
    | error fault =>
      cases fault <;> simp_all [Document.decode.ofJson, Error.ofDocumentFault, Error.isRejection]
    | ok plan => cases plan <;> simp [Document.decode.ofJson, Error.isRejection]
  cases document with
  | decoded members => exact iff_of_false (not_breaksDown_ok members) id
  | bytes content => exact ofJson _ paired
  | text content => exact ofJson _ paired

/-- A plan with a root module is read by its changes first and then by its modules. -/
theorem entities_rooted (table : BlockTable) (source : String) {members planned root : Members}
    (hasPlanned : Json.member members "planned_values" = .object planned)
    (hasRoot : Json.member planned "root_module" = .object root) :
    entities table source members =
      destroyedAddresses (Json.member members "resource_changes") >>= fun destroyed =>
        readVisits table source destroyed (moduleVisits root) := by
  cases changes : destroyedAddresses (Json.member members "resource_changes") <;>
    simp [entities, survey, hasPlanned, hasRoot, changes, bind, Except.bind]

/-- A plan without a root module is rejected. -/
theorem not_breaksDown_rootless (table : BlockTable) (source : String) {members : Members}
    (rootless : ∀ planned root, Json.member members "planned_values" = .object planned →
      Json.member planned "root_module" ≠ .object root) :
    ¬ BreaksDown (entities table source members) := by
  unfold entities survey
  cases hasPlanned : Json.member members "planned_values" with
  | object planned =>
    cases hasRoot : Json.member planned "root_module" with
    | object root => exact absurd hasRoot (rootless planned root hasPlanned)
    | _ => simp [hasRoot, bind, Except.bind, Error.isRejection]
  | _ => simp [bind, Except.bind, Error.isRejection]

/-- Reading a document breaks down exactly when an integer in it is too long to be read, or when
it is an object with a root module and either its changes cannot be read, or the first thing in its
modules that the reader does not get past is one at which it breaks down. In all other cases there
are entities or a rejection. -/
theorem breaks_down_iff (table : BlockTable) (source : String) (document : Document)
    (paired : document.Paired) :
    BreaksDown (read table source document) ↔
      document.MeetsLongInteger ∨
      ∃ members planned root, document.decode = .ok members ∧
        Json.member members "planned_values" = .object planned ∧
        Json.member planned "root_module" = .object root ∧
        BrokenWithin members root := by
  have rooted {members planned root : Members}
      (hasPlanned : Json.member members "planned_values" = .object planned)
      (hasRoot : Json.member planned "root_module" = .object root) :
      BreaksDown (entities table source members) ↔
        BrokenWithin members root := by
    rw [BrokenWithin, entities_rooted table source hasPlanned hasRoot, breaksDown_bind,
      (destroyedAddresses_hinges _).breaksDown_iff]
    simp only [readVisits_breaksDown_iff table source _ _ (moduleVisits_expected root)]
  rw [read, breaksDown_bind, breaksDown_decode_iff paired]
  refine or_congr_right ⟨?_, ?_⟩
  · rintro ⟨members, decoded, broken⟩
    by_cases hasRoot : ∃ planned root, Json.member members "planned_values" = .object planned ∧
        Json.member planned "root_module" = .object root
    · obtain ⟨planned, root, hasPlanned, hasRoot⟩ := hasRoot
      exact ⟨members, planned, root, decoded, hasPlanned, hasRoot,
        (rooted hasPlanned hasRoot).mp broken⟩
    · refine absurd broken (not_breaksDown_rootless table source ?_)
      exact fun planned root hasPlanned found => hasRoot ⟨planned, root, hasPlanned, found⟩
  · rintro ⟨members, planned, root, decoded, hasPlanned, hasRoot, broken⟩
    exact ⟨members, decoded, (rooted hasPlanned hasRoot).mpr broken⟩

/-- A plan whose one resource has for its address an integer with one digit more than can be
written. The complaint about it breaks the reader down. -/
theorem unwritable_address_breaks_down :
    let resource : Members := [("address", .int longBound)]
    let root : Members := [("resources", .array [.object resource])]
    let members : Members := [("planned_values", .object [("root_module", .object root)])]
    (Document.decoded members).Paired ∧
      BreaksDown (read .standard "tfplan" (.decoded members)) := by
  intro resource root members
  refine ⟨trivial, (breaks_down_iff .standard "tfplan" (.decoded members) trivial).mpr ?_⟩
  refine .inr ⟨members, _, root, rfl, rfl, rfl, .inr ⟨[], rfl, [], .resource resource, [], rfl, ?_⟩⟩
  exact ⟨List.forall_mem_nil _, .number rfl (by decide)⟩

/-- A plan may break the reading down: the address of its one resource is a list, which is
looked up among the destroyed addresses before it is found not to be a text. -/
theorem listed_address_breaks_down :
    ¬ ∀ (table : BlockTable) (source : String) (document : Document),
      (∃ entities, read table source document = .ok entities) ∨
        ∃ error, read table source document = .error error ∧ error.isRejection = true := by
  intro single
  let resource : Members :=
    [("address", .array []), ("type", .string "aws_x"), ("name", .string "n")]
  let members : Members :=
    [("planned_values", .object [("root_module", .object [("resources",
      .array [.object resource])])])]
  have broken : read .standard "tfplan" (.decoded members) = .error (.notHashable "list") := by
    rfl
  rcases single .standard "tfplan" (.decoded members) with
    ⟨entities, found⟩ | ⟨error, found, rejected⟩
  · simp [broken] at found
  · rw [broken] at found
    cases found
    cases rejected

end InfraReview.Plan
