import InfraReview.Log
import InfraReview.Plan.Changes
import InfraReview.Plan.Values
import InfraReview.Plan.Visit

/-!
# The entities of a plan

Reading a plan gives one entity for every planned resource, in the order of the walk
through its modules, except for the resources whose address the plan destroys. Reading
is all or nothing: the first visit that is broken, or whose resource is malformed, is
the error of the whole plan. The resources passed over before that point are known
nevertheless.
-/

namespace InfraReview.Plan

/-- The name of the source of entities that come from a plan. -/
def sourceName : String := "tfplan"

/-- A plan before it is decoded. -/
inductive Document where
  | bytes (content : List UInt8)
  | text (content : List Char)
  | decoded (members : List (String × Json))

/-- The members of a plan. -/
def Document.decode : Document → Except Error (List (String × Json))
  | .decoded members => .ok members
  | .bytes content => ofJson (Json.readBytes content)
  | .text content => ofJson (Json.readText content)
where
  /-- The members of a document that has to be an object. -/
  ofJson : Except Json.DocumentFault Json → Except Error (List (String × Json))
    | .error fault => .error (.ofDocumentFault fault)
    | .ok (.object members) => .ok members
    | .ok _ => .error .notAnObject

/-- The text in a field of a resource, which must not be empty. -/
def requiredText (members : List (String × Json)) (field : String) : Except Error String :=
  match Json.member members field with
  | .string content =>
    if content.isEmpty then .error (missing members field) else .ok content
  | _ => .error (missing members field)
where
  /-- The error for a field of a resource, which is named by its address if it has one. -/
  missing (members : List (String × Json)) (field : String) : Error :=
    let address := Json.member members "address"
    if address.isVacant then .missingField "<unknown>" field
    else
      match shown address with
      | .ok text => .missingField text field
      | .error error => error

/-- The mode of a resource; the usual one when none is given. -/
def resourceMode (members : List (String × Json)) : Except Error String :=
  let mode := Json.member members "mode"
  if mode.isVacant then .ok "managed" else shown mode

/-- The kind of entity for a type of resource in a mode. -/
def entityKind (mode type : String) : String :=
  if mode = "data" then BlockTable.dataMark ++ type else type

/-- The entity of a resource. -/
def normalize (table : BlockTable) (source : String) (members : List (String × Json)) :
    Except Error Entity := do
  let address ← requiredText members "address"
  let type ← requiredText members "type"
  let name ← requiredText members "name"
  let mode ← resourceMode members
  let values ←
    match Json.member members "values" with
    | .null => .ok []
    | .object values => .ok values
    | _ => .error (.valuesNotAnObject address)
  let (attributes, blocks) ←
    match splitMembers (table.top type) values with
    | .ok split => .ok split
    | .error fault => .error (Error.value fault)
  .ok {
    kind := entityKind mode type
    localName := name
    attributes := attributes
    blocks := blocks
    fullAddress := some address
    mode := mode
    file := source
    line := 0 }

/-- What a visit comes to. -/
inductive Step where
  | passedOver (address : String)
  | entity (entity : Entity)

/-- What a visit comes to when some addresses are destroyed. An address that is a list
or an object cannot be looked up among them. -/
def step (table : BlockTable) (source : String) (destroyed : List String) :
    Visit → Except Error Step
  | .broken error => .error error
  | .resource members =>
    match Json.member members "address" with
    | .array _ => .error (.notHashable "list")
    | .object _ => .error (.notHashable "dict")
    | .string address =>
      if destroyed.contains address then .ok (.passedOver address)
      else (normalize table source members).map .entity
    | _ => (normalize table source members).map .entity

/-- The entities of visits in order, unless one is in error. -/
def readVisits (table : BlockTable) (source : String) (destroyed : List String) :
    List Visit → Except Error (List Entity)
  | [] => .ok []
  | visit :: visits => do
    let current ← step table source destroyed visit
    let entities ← readVisits table source destroyed visits
    match current with
    | .passedOver _ => .ok entities
    | .entity entity => .ok (entity :: entities)

/-- The addresses passed over before the first visit in error. -/
def passedOver (table : BlockTable) (source : String) (destroyed : List String) :
    List Visit → List String
  | [] => []
  | visit :: visits =>
    match step table source destroyed visit with
    | .error _ => []
    | .ok (.passedOver address) => address :: passedOver table source destroyed visits
    | .ok (.entity _) => passedOver table source destroyed visits

/-- The visits of a plan and the addresses that it destroys. -/
structure Survey where
  visits : List Visit
  destroyed : List String

/-- The survey of a plan with the given members. -/
def survey (members : List (String × Json)) : Except Error Survey := do
  let planned ←
    match Json.member members "planned_values" with
    | .object planned => .ok planned
    | _ => .error .noPlannedValues
  let root ←
    match Json.member planned "root_module" with
    | .object root => .ok root
    | _ => .error .noRootModule
  let destroyed ← destroyedAddresses (Json.member members "resource_changes")
  .ok ⟨moduleVisits root, destroyed⟩

/-- The entities of a plan with the given members. -/
def entities (table : BlockTable) (source : String) (members : List (String × Json)) :
    Except Error (List Entity) := do
  let found ← survey members
  readVisits table source found.destroyed found.visits

/-- The entities of a plan. -/
def read (table : BlockTable) (source : String) (document : Document) :
    Except Error (List Entity) := do
  let members ← document.decode
  entities table source members

/-- What is noted while a plan is read: the resources passed over. -/
def readLog (table : BlockTable) (source : String) (document : Document) : List LogEntry :=
  match document.decode >>= survey with
  | .error _ => []
  | .ok found =>
    (passedOver table source found.destroyed found.visits).map fun address =>
      ⟨.debug, "wa_review.normalization.plan_normalizer",
        "Skipping " ++ address ++ ": planned for deletion only"⟩

end InfraReview.Plan
