import InfraReview.Proofs.Plan.Placement

/-!
# The walk through a plan and its outcome

The order in which a plan is walked is stated here as a relation between a module and what
is met in it: the module's own resources first, then each child module with everything
below it. It is a relation on documents, apart from the lists of visits that the reader
makes, and a module of the usual shape has exactly one walk.

The outcome is stated on the walk alone. The first malformed item that is met decides; when
there is none, every resource that is not destroyed has its entity, in the order of the
walk. Of a destroyed resource nothing but the address counts.
-/

namespace InfraReview.Plan

/-- What is met in a list of resources. -/
inductive Listed : List Json → List Visit → Prop where
  | done : Listed [] []
  | resource {members : Members} {entries : List Json} {visits : List Visit}
      (rest : Listed entries visits) :
      Listed (.object members :: entries) (.resource members :: visits)
  | broken {entry : Json} {entries : List Json} {visits : List Visit}
      (notAnObject : isObject entry = false) (rest : Listed entries visits) :
      Listed (entry :: entries) (.broken .resourceNotAnObject :: visits)

/-- What is met in the member for the resources of a module: nothing when it is null or
missing, each entry when it is a list, and one malformed item otherwise. -/
inductive Own : Json → List Visit → Prop where
  | absent : Own .null []
  | listed {entries : List Json} {visits : List Visit} (each : Listed entries visits) :
      Own (.array entries) visits
  | broken {other : Json} (notNull : other ≠ .null)
      (notAList : ∀ entries, other ≠ .array entries) : Own other [.broken .resourcesNotAList]

mutual

/-- The preorder walk through a module: its own resources, then what is below it. -/
inductive Walk : Members → List Visit → Prop where
  | module {members : Members} {own below : List Visit}
      (resources : Own (Json.member members "resources") own)
      (children : Below (Json.member members "child_modules") below) :
      Walk members (own ++ below)

/-- What is met in the member for the child modules of a module. -/
inductive Below : Json → List Visit → Prop where
  | absent : Below .null []
  | listed {entries : List Json} {visits : List Visit} (each : Each entries visits) :
      Below (.array entries) visits

/-- What is met in a list of child modules: the subtree of each, in order. -/
inductive Each : List Json → List Visit → Prop where
  | done : Each [] []
  | child {members : Members} {entries : List Json} {subtree others : List Visit}
      (first : Walk members subtree) (rest : Each entries others) :
      Each (.object members :: entries) (subtree ++ others)
  | broken {entry : Json} {entries : List Json} {others : List Visit}
      (notAnObject : isObject entry = false) (rest : Each entries others) :
      Each (entry :: entries) (.broken .childNotAnObject :: others)

end

/-- A resource whose address is a text or missing and whose mode and values have integers
that fit. -/
structure RegularResource (members : Members) : Prop where
  told : Json.member members "address" = .null ∨
    ∃ address, Json.member members "address" = .string address
  modeFits : (Json.member members "mode").Fits
  fits : (Json.member members "values").Fits

/-- Every resource of a module itself is regular. -/
def RegularOwn (members : Members) : Prop :=
  ∀ entries resource, Json.member members "resources" = .array entries →
    .object resource ∈ entries → RegularResource resource

/-- A module in which, at every depth, the resources are regular and the child modules are
missing or a list. -/
inductive Regular : Members → Prop where
  | leaf {members : Members} (own : RegularOwn members)
      (childless : Json.member members "child_modules" = .null) : Regular members
  | parent {members : Members} {entries : List Json} (own : RegularOwn members)
      (children : Json.member members "child_modules" = .array entries)
      (each : ∀ child, .object child ∈ entries → Regular child) : Regular members

/-- How a resource is called in a complaint. -/
def resourceLabel (members : Members) : String :=
  match Json.member members "address" with
  | .string address => if address.isEmpty then "<unknown>" else address
  | _ => "<unknown>"

/-- True for a text that is not empty. -/
def isFilledText : Json → Bool
  | .string content => !content.isEmpty
  | _ => false

/-- What is wrong with a resource: the first of its three texts that is missing or empty,
and otherwise values that are no object. -/
def resourceDefect? (members : Members) : Option Error :=
  match ["address", "type", "name"].find? fun field =>
      !isFilledText (Json.member members field) with
  | some field => some (.missingField (resourceLabel members) field)
  | none =>
    match Json.member members "values" with
    | .null | .object _ => none
    | _ => some (.valuesNotAnObject (resourceLabel members))

/-- True for a resource whose address is destroyed. -/
def isDestroyed (destroyed : List String) (members : Members) : Bool :=
  match Json.member members "address" with
  | .string address => destroyed.contains address
  | _ => false

/-- What is wrong with something met on the walk. Nothing is wrong with a destroyed
resource. -/
def defect? (destroyed : List String) : Visit → Option Error
  | .broken error => some error
  | .resource members =>
    if isDestroyed destroyed members then none else resourceDefect? members

/-- The resources on a walk that are not destroyed, in order. -/
def kept (destroyed : List String) : List Visit → List Members
  | [] => []
  | .broken _ :: visits => kept destroyed visits
  | .resource members :: visits =>
    if isDestroyed destroyed members then kept destroyed visits
    else members :: kept destroyed visits

/-- The entity of a resource, field by field. -/
structure DescribedBy (table : BlockTable) (source : String) (members : Members)
    (address type name : String) (values : Members) (entity : Entity) : Prop where
  identified : Identified members address type name
  hasValues : HasValues members values
  fullAddress : entity.fullAddress = some address
  ownAddress : entity.address = address
  kind : entity.kind = if entity.mode = "data" then "data." ++ type else type
  localName : entity.localName = name
  mode : resourceMode members = .ok entity.mode
  file : entity.file = source
  line : entity.line = 0
  contents : splitMembers (table.top type) values = .ok (entity.attributes, entity.blocks)

/-- An entity is the one of a resource. -/
def Describes (table : BlockTable) (source : String) (members : Members)
    (entity : Entity) : Prop :=
  ∃ address type name values,
    DescribedBy table source members address type name values entity

/-- What can be met in a regular module: a regular resource, or an item that the reader
rejects. -/
def Foreseen : Visit → Prop
  | .resource members => RegularResource members
  | .broken error => error.isRejection = true

/-! ### The visits of a module are its walk -/

/-- What is met in a list of resources is the visit of each entry. -/
theorem Listed.eq_visits {entries : List Json} {visits : List Visit}
    (listed : Listed entries visits) : visits = entries.map resourceVisit := by
  induction listed with
  | done => rfl
  | resource _ inductionHypothesis => simp [resourceVisit, inductionHypothesis]
  | @broken entry _ _ notAnObject _ inductionHypothesis =>
    cases entry <;> simp_all [resourceVisit, isObject]

/-- Something is met in every list of resources. -/
theorem listed_visits (entries : List Json) : Listed entries (entries.map resourceVisit) := by
  induction entries with
  | nil => exact .done
  | cons entry entries inductionHypothesis =>
    cases entry with
    | object members => exact .resource inductionHypothesis
    | _ => exact .broken rfl inductionHypothesis

/-- What is met among the resources of a module is its own visits. -/
theorem Own.eq_visits {members : Members} {visits : List Visit}
    (own : Own (Json.member members "resources") visits) : visits = ownVisits members := by
  unfold ownVisits
  generalize Json.member members "resources" = resources at own ⊢
  cases own with
  | absent => rfl
  | listed each => exact each.eq_visits
  | broken notNull notAList =>
    cases resources with
    | null => exact absurd rfl notNull
    | array entries => exact absurd rfl (notAList entries)
    | _ => rfl

/-- Something is met among the resources of every module. -/
theorem own_visits (members : Members) :
    Own (Json.member members "resources") (ownVisits members) := by
  unfold ownVisits
  cases Json.member members "resources" with
  | null => exact .absent
  | array entries => exact .listed (listed_visits entries)
  | _ => exact .broken (by simp) (by simp)

/-- The visits below a module are those of its member for child modules. -/
theorem nestedVisits_eq (members : Members) :
    nestedVisits members = listVisits (Json.member members "child_modules") := by
  induction members with
  | nil => simp [nestedVisits, Json.member, listVisits, Json.isVacant]
  | cons entry members inductionHypothesis =>
    obtain ⟨name, value⟩ := entry
    by_cases same : name = "child_modules"
    · simp [nestedVisits, Json.member, same]
    · have skipped : ("child_modules" == name) = false := by simpa using Ne.symm same
      rw [nestedVisits, if_neg same, inductionHypothesis]
      simp [Json.member, List.lookup_cons, skipped]

mutual

/-- A module has one walk at most. Proof: by recursion on the walk, together with what is
met below a module and in a list of child modules. -/
theorem Walk.eq_visits {members : Members} {visits : List Visit} :
    Walk members visits → visits = moduleVisits members
  | .module resources children => by
    rw [moduleVisits, nestedVisits_eq, resources.eq_visits, children.eq_visits]

/-- What is met below a module is determined. -/
theorem Below.eq_visits {children : Json} {visits : List Visit} :
    Below children visits → visits = listVisits children
  | .absent => by simp [listVisits, Json.isVacant]
  | .listed each => by rw [listVisits, each.eq_visits]

/-- What is met in a list of child modules is determined. -/
theorem Each.eq_visits {entries : List Json} {visits : List Visit} :
    Each entries visits → visits = entryVisits entries
  | .done => by rw [entryVisits]
  | .child first rest => by
    rw [entryVisits, childVisits, first.eq_visits, rest.eq_visits, moduleVisits]
  | @Each.broken entry _ _ notAnObject rest => by
    rw [entryVisits, rest.eq_visits]
    cases entry <;> simp_all [childVisits, isObject]

end

/-- Child modules of which each has a walk are walked one after the other. -/
theorem each_visits (entries : List Json)
    (walks : ∀ child, .object child ∈ entries → Walk child (moduleVisits child)) :
    Each entries (entryVisits entries) := by
  induction entries with
  | nil => rw [entryVisits]; exact .done
  | cons entry entries inductionHypothesis =>
    have rest := inductionHypothesis fun child member =>
      walks child (List.mem_cons_of_mem _ member)
    rw [entryVisits]
    cases entry with
    | object child => exact .child (walks child List.mem_cons_self) rest
    | _ => exact .broken rfl rest

/-- A regular module has a walk, which is made of its visits. -/
theorem Regular.walk {members : Members} (regular : Regular members) :
    Walk members (moduleVisits members) := by
  induction regular with
  | leaf _ childless =>
    refine .module (own_visits _) ?_
    rw [nestedVisits_eq, childless]
    simpa [listVisits, Json.isVacant] using Below.absent
  | @parent members entries _ children _ walks =>
    refine .module (own_visits _) ?_
    rw [nestedVisits_eq, children, listVisits]
    exact .listed (each_visits entries walks)

/-- The own visits of a module with regular resources are foreseen. -/
theorem RegularOwn.foreseen {members : Members} (own : RegularOwn members) :
    ∀ visit ∈ ownVisits members, Foreseen visit := by
  intro visit met
  unfold ownVisits at met
  split at met
  · cases met
  · rename_i entries listed
    obtain ⟨entry, member, rfl⟩ := List.mem_map.mp met
    cases entry with
    | object resource => exact own entries resource listed member
    | _ => rfl
  · cases List.mem_singleton.mp met
    rfl

/-- The visits of a list of child modules are foreseen when those of each child are. -/
theorem entryVisits_foreseen (entries : List Json)
    (inside : ∀ child, .object child ∈ entries → ∀ visit ∈ moduleVisits child, Foreseen visit) :
    ∀ visit ∈ entryVisits entries, Foreseen visit := by
  induction entries with
  | nil => intro visit met; rw [entryVisits] at met; cases met
  | cons entry entries inductionHypothesis =>
    intro visit met
    rw [entryVisits] at met
    rcases List.mem_append.mp met with first | later
    · cases entry with
      | object child => exact inside child List.mem_cons_self visit first
      | _ => cases List.mem_singleton.mp first; rfl
    · exact inductionHypothesis
        (fun child member => inside child (List.mem_cons_of_mem _ member)) visit later

/-- Everything met in a regular module is foreseen. -/
theorem Regular.foreseen {members : Members} (regular : Regular members) :
    ∀ visit ∈ moduleVisits members, Foreseen visit := by
  induction regular with
  | leaf own childless =>
    intro visit met
    rw [moduleVisits, nestedVisits_eq, childless] at met
    exact own.foreseen visit (by simpa [listVisits, Json.isVacant] using met)
  | parent own children _ inside =>
    intro visit met
    rw [moduleVisits, nestedVisits_eq, children, listVisits] at met
    rcases List.mem_append.mp met with first | later
    · exact own.foreseen visit first
    · exact entryVisits_foreseen _ inside visit later

/-! ### What one visit comes to -/

/-- A text that is filled is there and not empty. -/
theorem filled_text {document : Json} (filled : isFilledText document = true) :
    ∃ content, document = .string content ∧ content.isEmpty = false := by
  cases document with
  | string content => exact ⟨content, rfl, by simpa [isFilledText] using filled⟩
  | _ => simp [isFilledText] at filled

/-- A field that is not filled is complained about. -/
theorem requiredText_unfilled {members : Members} {field : String}
    (unfilled : isFilledText (Json.member members field) = false) :
    requiredText members field = .error (requiredText.missing members field) := by
  unfold requiredText
  split
  · rename_i content found
    have empty : content.isEmpty = true := by simpa [found, isFilledText] using unfilled
    rw [if_pos empty]
  · rfl

/-- A complaint about a regular resource is made under its label. -/
theorem RegularResource.missing {members : Members} (regular : RegularResource members)
    (field : String) :
    requiredText.missing members field = .missingField (resourceLabel members) field := by
  unfold requiredText.missing resourceLabel
  rcases regular.told with missing | ⟨address, told⟩
  · simp [missing, Json.isVacant]
  · cases empty : address.isEmpty <;> simp [told, Json.isVacant, shown, empty, Except.mapError]

/-- The first text of a resource that is not filled, if one of them is not. -/
def unfilledField? (members : Members) : Option String :=
  ["address", "type", "name"].find? fun field => !isFilledText (Json.member members field)

/-- A resource whose texts are filled is told by them. -/
theorem identified_of_filled {members : Members} (filled : unfilledField? members = none) :
    ∃ address type name, Identified members address type name := by
  simp only [unfilledField?, List.find?_eq_none, List.mem_cons, List.not_mem_nil, or_false,
    forall_eq_or_imp, forall_eq, Bool.not_eq_true, Bool.not_eq_false'] at filled
  obtain ⟨addressFilled, typeFilled, nameFilled⟩ := filled
  obtain ⟨address, hasAddress, addressFilled⟩ := filled_text addressFilled
  obtain ⟨type, hasType, typeFilled⟩ := filled_text typeFilled
  obtain ⟨name, hasName, nameFilled⟩ := filled_text nameFilled
  exact ⟨address, type, name, hasAddress, hasType, hasName, addressFilled, typeFilled, nameFilled⟩

/-- The first text that is not filled is the error of a resource. Proof: the three texts are
asked for in the order in which they are looked at here. -/
theorem normalize_unfilled {table : BlockTable} {source : String} {members : Members}
    {field : String} (first : unfilledField? members = some field) :
    normalize table source members = .error (requiredText.missing members field) := by
  unfold unfilledField? at first
  by_cases address : isFilledText (Json.member members "address") = true
  swap
  · have missing := requiredText_unfilled (Bool.eq_false_iff.mpr address)
    obtain rfl : "address" = field := by simpa [List.find?, address] using first
    simp [normalize, missing, bind, Except.bind]
  obtain ⟨addressText, addressFound, addressFilled⟩ := filled_text address
  have addressOk := requiredText_ok addressFound addressFilled
  by_cases type : isFilledText (Json.member members "type") = true
  swap
  · have missing := requiredText_unfilled (Bool.eq_false_iff.mpr type)
    obtain rfl : "type" = field := by simpa [List.find?, address, type] using first
    simp [normalize, addressOk, missing, bind, Except.bind]
  obtain ⟨typeText, typeFound, typeFilled⟩ := filled_text type
  have typeOk := requiredText_ok typeFound typeFilled
  by_cases name : isFilledText (Json.member members "name") = true
  swap
  · have missing := requiredText_unfilled (Bool.eq_false_iff.mpr name)
    obtain rfl : "name" = field := by simpa [List.find?, address, type, name] using first
    simp [normalize, addressOk, typeOk, missing, bind, Except.bind]
  simp [List.find?, address, type, name] at first

/-- A resource that is told by its texts breaks the reader down when its mode cannot be written. -/
theorem normalize_modeless (table : BlockTable) (source : String) {members : Members}
    (filled : unfilledField? members = none) (long : ¬ (Json.member members "mode").Short) :
    normalize table source members = .error (.length .written) := by
  obtain ⟨address, type, name, identified⟩ := identified_of_filled filled
  simp [normalize, requiredText_ok identified.hasAddress identified.addressFilled,
    requiredText_ok identified.hasType identified.typeFilled,
    requiredText_ok identified.hasName identified.nameFilled, resourceMode_of_not_short long, bind,
    Except.bind]

/-- A resource that is told by its texts has values, or it is rejected because of them. -/
theorem Identified.values {members : Members} {address type name : String}
    (identified : Identified members address type name) :
    (∃ values, HasValues members values ∧ resourceDefect? members = none ∧
      ((Json.member members "values").Fits ↔ Json.MembersFit values)) ∨
    (resourceDefect? members = some (.valuesNotAnObject address) ∧
      ∀ table source mode, resourceMode members = .ok mode →
        normalize table source members = .error (.valuesNotAnObject address)) := by
  have label : resourceLabel members = address := by
    simp [resourceLabel, identified.hasAddress, identified.addressFilled]
  have filled : unfilledField? members = none := by
    simp [unfilledField?, isFilledText, identified.hasAddress, identified.hasType,
      identified.hasName, identified.addressFilled, identified.typeFilled, identified.nameFilled]
  rw [unfilledField?] at filled
  cases found : Json.member members "values" with
  | null => exact .inl ⟨[], .missing found, by simp [resourceDefect?, filled, found], .rfl⟩
  | object values =>
    exact .inl ⟨values, .given values found, by simp [resourceDefect?, filled, found], .rfl⟩
  | _ =>
    refine .inr ⟨by simp [resourceDefect?, filled, found, label], fun table source mode has => ?_⟩
    simp [normalize, requiredText_ok identified.hasAddress identified.addressFilled,
      requiredText_ok identified.hasType identified.typeFilled,
      requiredText_ok identified.hasName identified.nameFilled, has, found, bind, Except.bind]

/-- A regular resource has a mode. -/
theorem RegularResource.hasMode {members : Members} (regular : RegularResource members) :
    ∃ mode, resourceMode members = .ok mode :=
  resourceMode_of_short (Json.short_of_fits _ regular.modeFits)

/-- A resource with a defect has no entity, and the defect is the error. -/
theorem normalize_defect {table : BlockTable} {source : String} {members : Members}
    {error : Error} (regular : RegularResource members)
    (defect : resourceDefect? members = some error) :
    normalize table source members = .error error := by
  cases unfilled : unfilledField? members with
  | some field =>
    obtain rfl : Error.missingField (resourceLabel members) field = error := by
      rw [unfilledField?] at unfilled
      simpa [resourceDefect?, unfilled] using defect
    rw [normalize_unfilled unfilled, regular.missing]
  | none =>
    obtain ⟨address, type, name, identified⟩ := identified_of_filled unfilled
    rcases identified.values with ⟨_, _, sound, _⟩ | ⟨found, rejected⟩
    · rw [sound] at defect
      cases defect
    · obtain rfl : Error.valuesNotAnObject address = error := by simpa [found] using defect
      obtain ⟨mode, hasMode⟩ := regular.hasMode
      exact rejected table source mode hasMode

/-- A resource without a defect has all its texts. -/
theorem filled_of_sound {members : Members} (sound : resourceDefect? members = none) :
    unfilledField? members = none := by
  cases unfilled : unfilledField? members with
  | some field =>
    rw [unfilledField?] at unfilled
    simp [resourceDefect?, unfilled] at sound
  | none => rfl

/-- A resource without a defect is told by its texts and has values. -/
theorem identified_of_sound {members : Members} (sound : resourceDefect? members = none) :
    ∃ address type name values, Identified members address type name ∧
      HasValues members values ∧
      ((Json.member members "values").Fits ↔ Json.MembersFit values) := by
  obtain ⟨address, type, name, identified⟩ := identified_of_filled (filled_of_sound sound)
  rcases identified.values with ⟨values, hasValues, _, same⟩ | ⟨found, _⟩
  · exact ⟨address, type, name, values, identified, hasValues, same⟩
  · rw [found] at sound
    cases sound

/-- The entity of a resource of which everything is known is described by it. -/
theorem describedBy_entityOf {table : BlockTable} (source : String) {members values : Members}
    {mode address type name : String} {contents : Attributes × NestedBlocks}
    (identified : Identified members address type name)
    (hasMode : resourceMode members = .ok mode) (hasValues : HasValues members values)
    (split : splitMembers (table.top type) values = .ok contents) :
    DescribedBy table source members address type name values
      (entityOf source mode address type name contents.1 contents.2) where
  identified := identified
  hasValues := hasValues
  fullAddress := rfl
  ownAddress := by simp [Entity.address, entityOf, identified.addressFilled]
  kind := rfl
  localName := rfl
  mode := hasMode
  file := rfl
  line := rfl
  contents := split

/-- A resource without a defect has an entity that is described by it. -/
theorem normalize_sound {table : BlockTable} {source : String} {members : Members}
    (regular : RegularResource members) (sound : resourceDefect? members = none) :
    ∃ entity, normalize table source members = .ok entity ∧
      Describes table source members entity := by
  obtain ⟨address, type, name, values, identified, hasValues, same⟩ := identified_of_sound sound
  obtain ⟨contents, split⟩ :=
    splitMembers_of_fits values (table.top type) (same.mp regular.fits)
  obtain ⟨mode, hasMode⟩ := regular.hasMode
  exact ⟨_, normalize_ok identified hasMode hasValues split, address, type, name, values,
    describedBy_entityOf source identified hasMode hasValues split⟩

/-- A resource that is not destroyed comes to what its normalization comes to. -/
theorem step_kept {table : BlockTable} {source : String} {destroyed : List String}
    {members : Members} (regular : RegularResource members)
    (alive : isDestroyed destroyed members = false) :
    step table source destroyed (.resource members) =
      (normalize table source members).map .entity := by
  unfold step
  rcases regular.told with missing | ⟨address, told⟩
  · simp [missing]
  · have spared : address ∉ destroyed := by simpa [isDestroyed, told] using alive
    simp [told, spared]

/-- A destroyed resource is passed over, whatever else it says. -/
theorem step_destroyed (table : BlockTable) (source : String) {destroyed : List String}
    {members : Members} (gone : isDestroyed destroyed members = true) :
    ∃ address, step table source destroyed (.resource members) = .ok (.passedOver address) := by
  unfold isDestroyed at gone
  split at gone
  · rename_i address told
    exact ⟨address, by simp_all [step]⟩
  · cases gone

/-- A defect that is met is the error of its visit. -/
theorem step_defect (table : BlockTable) (source : String) {destroyed : List String}
    {visit : Visit} {error : Error} (foreseen : Foreseen visit)
    (defect : defect? destroyed visit = some error) :
    step table source destroyed visit = .error error := by
  cases visit with
  | broken other => simpa [defect?, step] using defect
  | resource members =>
    have alive : isDestroyed destroyed members = false := by
      by_contra gone
      simp [defect?, gone] at defect
    have own : resourceDefect? members = some error := by simpa [defect?, alive] using defect
    rw [step_kept foreseen alive, normalize_defect foreseen own]
    rfl

/-- A defect that is met is one that the reader looks for. -/
theorem defect_rejected {destroyed : List String} {visit : Visit} {error : Error}
    (foreseen : Foreseen visit) (defect : defect? destroyed visit = some error) :
    error.isRejection = true := by
  cases visit with
  | broken other =>
    obtain rfl : other = error := by simpa [defect?] using defect
    exact foreseen
  | resource members =>
    simp only [defect?, resourceDefect?] at defect
    split at defect
    · cases defect
    · split at defect
      · cases defect; rfl
      · split at defect
        · cases defect
        · cases defect
        · cases defect; rfl

/-- What a visit without a defect comes to: a destroyed resource is passed over, and any
other one has its entity. -/
inductive Outcome (table : BlockTable) (source : String) (destroyed : List String) :
    Visit → Step → Prop where
  | passedOver {members : Members} {address : String}
      (gone : isDestroyed destroyed members = true) :
      Outcome table source destroyed (.resource members) (.passedOver address)
  | entity {members : Members} {entity : Entity}
      (alive : isDestroyed destroyed members = false)
      (describes : Describes table source members entity) :
      Outcome table source destroyed (.resource members) (.entity entity)

/-- A visit without a defect has an outcome. -/
theorem step_sound (table : BlockTable) (source : String) {destroyed : List String}
    {visit : Visit} (foreseen : Foreseen visit) (sound : defect? destroyed visit = none) :
    ∃ current, step table source destroyed visit = .ok current ∧
      Outcome table source destroyed visit current := by
  cases visit with
  | broken error => cases sound
  | resource members =>
    by_cases gone : isDestroyed destroyed members = true
    · obtain ⟨address, passed⟩ := step_destroyed table source gone
      exact ⟨_, passed, .passedOver gone⟩
    · have alive := Bool.eq_false_iff.mpr gone
      have own : resourceDefect? members = none := by simpa [defect?, alive] using sound
      obtain ⟨entity, normalized, describes⟩ := normalize_sound foreseen own
      exact ⟨_, by rw [step_kept foreseen alive, normalized]; rfl, .entity alive describes⟩

/-! ### What a whole walk comes to -/

/-- Visits with a defect among them have the first of their defects as the error. Proof: by
induction on the visits; the visits before the first defect come to something. -/
theorem readVisits_defect {table : BlockTable} {source : String} {destroyed : List String}
    {error : Error} (visits : List Visit) (foreseen : ∀ visit ∈ visits, Foreseen visit)
    (first : visits.findSome? (defect? destroyed) = some error) :
    readVisits table source destroyed visits = .error error ∧ error.isRejection = true := by
  induction visits with
  | nil => cases first
  | cons visit visits inductionHypothesis =>
    obtain ⟨head, tail⟩ := List.forall_mem_cons.mp foreseen
    rw [List.findSome?_cons] at first
    split at first
    · rename_i found
      obtain rfl := Option.some.inj first
      have failed := step_defect table source head found
      exact ⟨by rw [readVisits, failed]; rfl, defect_rejected head found⟩
    · rename_i noDefect
      obtain ⟨current, stepped, _⟩ :=
        step_sound table source head noDefect
      obtain ⟨failed, rejected⟩ := inductionHypothesis tail first
      exact ⟨by rw [readVisits, stepped, failed]; rfl, rejected⟩

/-- Visits without a defect give the entities of the resources that are kept, in order. -/
theorem readVisits_sound {table : BlockTable} {source : String} {destroyed : List String}
    (visits : List Visit) (foreseen : ∀ visit ∈ visits, Foreseen visit)
    (sound : visits.findSome? (defect? destroyed) = none) :
    ∃ entities, readVisits table source destroyed visits = .ok entities ∧
      List.Forall₂ (Describes table source) (kept destroyed visits) entities := by
  induction visits with
  | nil => exact ⟨[], rfl, .nil⟩
  | cons visit visits inductionHypothesis =>
    obtain ⟨head, tail⟩ := List.forall_mem_cons.mp foreseen
    rw [List.findSome?_cons] at sound
    split at sound
    · cases sound
    rename_i noDefect
    obtain ⟨entities, others, described⟩ := inductionHypothesis tail sound
    obtain ⟨current, stepped, outcome⟩ :=
      step_sound table source head noDefect
    cases outcome with
    | passedOver gone =>
      refine ⟨entities, by rw [readVisits, stepped, others]; rfl, ?_⟩
      simpa only [kept, if_pos gone] using described
    | entity alive describes =>
      refine ⟨_, by rw [readVisits, stepped, others]; rfl, ?_⟩
      simpa [kept, alive] using ⟨describes, described⟩

/-- Reading a plan whose modules are regular follows the one walk through them. The first
defect that is met is the error of the whole plan; without a defect, each resource that is
not destroyed has its entity, in the order of the walk and with nothing added. -/
theorem reading_follows_walk (table : BlockTable) (source : String)
    {members planned root : Members} {destroyed : List String}
    (hasPlanned : Json.member members "planned_values" = .object planned)
    (hasRoot : Json.member planned "root_module" = .object root)
    (changes : destroyedAddresses (Json.member members "resource_changes") = .ok destroyed)
    (regular : Regular root) :
    ∃ visits, Walk root visits ∧ (∀ other, Walk root other → other = visits) ∧
      match visits.findSome? (defect? destroyed) with
      | some error =>
        read table source (.decoded members) = .error error ∧ error.isRejection = true
      | none =>
        ∃ entities, read table source (.decoded members) = .ok entities ∧
          List.Forall₂ (Describes table source) (kept destroyed visits) entities := by
  refine ⟨moduleVisits root, regular.walk, fun _ walk => walk.eq_visits, ?_⟩
  have reduced : read table source (.decoded members) =
      readVisits table source destroyed (moduleVisits root) := by
    simp [read, Document.decode, entities, survey, hasPlanned, hasRoot, changes, bind,
      Except.bind]
  rw [reduced]
  cases first : (moduleVisits root).findSome? (defect? destroyed) with
  | some error => exact readVisits_defect _ regular.foreseen first
  | none => exact readVisits_sound _ regular.foreseen first

/-- A plan with a child module and a grandchild, in which a destroyed resource says nothing
but its address. -/
theorem nested_plan_follows_walk :
    let leaf : Members := [("resources", .array [.object [
      ("address", .string "module.a.module.b.t.n"), ("type", .string "t"),
      ("name", .string "n"), ("values", .object [("size", .int 3)])]])]
    let child : Members := [("child_modules", .array [.object leaf]), ("resources", .array [
      .object [("address", .string "module.a.t.gone"), ("type", .int 7)]])]
    let root : Members := [("resources", .array [.object [("type", .string "t")]]),
      ("child_modules", .array [.object child, .null])]
    let members : Members := [("planned_values", .object [("root_module", .object root)]),
      ("resource_changes", .array [.object [("address", .string "module.a.t.gone"),
        ("change", .object [("actions", .array [.string "delete"])])]])]
    ∃ visits, Walk root visits ∧ (∀ other, Walk root other → other = visits) ∧
      match visits.findSome? (defect? ["module.a.t.gone"]) with
      | some error =>
        read .standard "tfplan" (.decoded members) = .error error ∧ error.isRejection = true
      | none =>
        ∃ entities, read .standard "tfplan" (.decoded members) = .ok entities ∧
          List.Forall₂ (Describes .standard "tfplan") (kept ["module.a.t.gone"] visits)
            entities := by
  intro leaf child root members
  have leafRegular : Regular leaf := by
    refine .leaf ?_ rfl
    rintro entries resource ⟨⟩ listed
    obtain rfl := by simpa using listed
    have fits : Json.Fits (.object [("size", .int 3)]) := by
      simp only [Json.Fits, Json.MembersFit]
      decide
    exact ⟨.inr ⟨_, rfl⟩, trivial, fits⟩
  have childRegular : Regular child := by
    refine .parent ?_ rfl ?_
    · rintro entries resource ⟨⟩ listed
      obtain rfl := by simpa using listed
      exact ⟨.inr ⟨_, rfl⟩, trivial, trivial⟩
    · intro inner listed
      obtain rfl : inner = leaf := by simpa using listed
      exact leafRegular
  have rootRegular : Regular root := by
    refine .parent ?_ rfl ?_
    · rintro entries resource ⟨⟩ listed
      obtain rfl := by simpa using listed
      exact ⟨.inl rfl, trivial, trivial⟩
    · intro inner listed
      obtain rfl : inner = child := by simpa using listed
      exact childRegular
  exact reading_follows_walk .standard "tfplan" rfl rfl (by rfl) rootRegular

end InfraReview.Plan
