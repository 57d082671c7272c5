import InfraReview.Log
import InfraReview.Registry

/-!
# The engine

An engine runs the checks of a registry that its filters allow. Each entity is shown to
the checks that list its kind, in the order of the registry, and then each check that
relates entities is shown all of them. The checks of a kind are looked up in a dispatch
table that is built once a run.

An invocation that breaks off gives no findings and is noted as a fault. The faults of
an engine are those of its latest run.
-/

namespace InfraReview

/-- Which checks run. The identifiers to exclude always win; an empty list of rules or
pillars allows all. -/
structure EngineConfig where
  minSeverity : Option Severity := none
  pillars : List Pillar := []
  ruleIds : List String := []
  excludeIds : List String := []
  deriving DecidableEq, Repr

/-- A filter value that names nothing. -/
inductive OptionFault where
  | unknownSeverity (text : String)
  | unknownPillar (text : String)
  deriving DecidableEq, Repr

/-- The message for a filter value that names nothing. -/
def OptionFault.message : OptionFault → String
  | .unknownSeverity text => Severity.unknownMessage text
  | .unknownPillar text => Pillar.unknownMessage text

namespace EngineConfig

/-- The pillars that texts name; the first text that names none is at fault. -/
def readPillars : List String → Except OptionFault (List Pillar)
  | [] => .ok []
  | text :: texts =>
    match Pillar.parse? text with
    | none => .error (.unknownPillar text)
    | some pillar => (readPillars texts).map (pillar :: ·)

/-- The filters that texts describe. Empty texts do not count, and neither do
repetitions. -/
def ofOptions (minSeverity : Option String) (pillars ruleIds excludeIds : List String) :
    Except OptionFault EngineConfig := do
  let severity ←
    match minSeverity.filter (!·.isEmpty) with
    | none => .ok none
    | some text =>
      match Severity.parse? text with
      | none => .error (.unknownSeverity text)
      | some severity => .ok (some severity)
  let named ← readPillars (pillars.filter (!·.isEmpty))
  .ok {
    minSeverity := severity
    pillars := named.eraseDups
    ruleIds := (ruleIds.filter (!·.isEmpty)).eraseDups
    excludeIds := (excludeIds.filter (!·.isEmpty)).eraseDups }

/-- True when the filters let a check run. -/
def allows (config : EngineConfig) (metadata : CheckMetadata) : Bool :=
  !config.excludeIds.contains metadata.id &&
    (config.ruleIds.isEmpty || config.ruleIds.contains metadata.id) &&
    (config.pillars.isEmpty || config.pillars.contains metadata.pillar) &&
    match config.minSeverity with
    | none => true
    | some severity => severity.rank ≤ metadata.severity.rank

end EngineConfig

/-- An invocation that broke off: the check, the entity unless it was shown all of them,
and the message. -/
structure CheckFault where
  ruleId : String
  address : Option String
  message : String
  deriving DecidableEq, Repr

/-- A fault in one line. -/
def CheckFault.text (fault : CheckFault) : String :=
  fault.ruleId ++ " failed on "
    ++ (fault.address.filter (!·.isEmpty)).getD "<all entities>" ++ ": " ++ fault.message

/-- The checks that an engine runs, and the faults of its latest run. -/
structure Engine where
  config : EngineConfig
  registry : Registry
  resourceChecks : List ResourceCheck
  crossChecks : List CrossCheck
  faults : List CheckFault

/-- Checks under the kinds that they list. -/
abbrev DispatchTable := List (String × List ResourceCheck)

namespace DispatchTable

/-- The table after a check is added under a kind. -/
def add (table : DispatchTable) (kind : String) (check : ResourceCheck) : DispatchTable :=
  match table with
  | [] => [(kind, [check])]
  | (other, checks) :: rest =>
    if other = kind then (other, checks ++ [check]) :: rest
    else (other, checks) :: add rest kind check

/-- The table after a check is added once under each kind it lists. -/
def addCheck (table : DispatchTable) (check : ResourceCheck) : DispatchTable :=
  check.metadata.resourceTypes.eraseDups.foldl (fun current kind => add current kind check) table

/-- The table of checks. -/
def ofChecks (checks : List ResourceCheck) : DispatchTable := checks.foldl addCheck []

/-- The checks under a kind, in the order of the registry. -/
def checksFor (table : DispatchTable) (kind : String) : List ResourceCheck :=
  (table.lookup kind).getD []

end DispatchTable

/-- One invocation of a check. -/
structure Invocation where
  ruleId : String
  address : Option String
  outcome : Outcome

/-- The fault of an invocation, if it broke off. -/
def Invocation.fault? (invocation : Invocation) : Option CheckFault :=
  invocation.outcome.fault?.map fun message => ⟨invocation.ruleId, invocation.address, message⟩

namespace Engine

/-- The engine of a registry and its filters, before any run. -/
def create (config : EngineConfig) (registry : Registry) : Engine where
  config := config
  registry := registry
  resourceChecks := registry.resourceChecks.filter fun check => config.allows check.metadata
  crossChecks := registry.crossChecks.filter fun check => config.allows check.metadata
  faults := []

/-- The descriptions of the checks that run, those of single entities first. -/
def activeMetadata (engine : Engine) : List CheckMetadata :=
  engine.resourceChecks.map (·.metadata) ++ engine.crossChecks.map (·.metadata)

/-- The invocations of a run in order. -/
def invocations (engine : Engine) (entities : List Entity) : List Invocation :=
  let table := DispatchTable.ofChecks engine.resourceChecks
  let single := entities.flatMap fun entity =>
    (table.checksFor entity.kind).map fun check =>
      ⟨check.metadata.id, some entity.address, check.evaluate entity⟩
  let related := engine.crossChecks.map fun check =>
    ⟨check.metadata.id, none, check.evaluate entities⟩
  single ++ related

/-- The findings of a run, and the engine after it. -/
def analyze (engine : Engine) (entities : List Entity) : List Finding × Engine :=
  let invoked := engine.invocations entities
  (invoked.flatMap (·.outcome.found),
    { engine with faults := invoked.filterMap Invocation.fault? })

/-- The name under which an engine makes log entries. -/
def logSource : String := "wa_review.engine.engine"

/-- What is noted when an engine is created: the blocks that its checks read and that
the standard table does not map. -/
def creationLog (registry : Registry) : List LogEntry :=
  (registry.unmappedBlocks BlockTable.standard).map fun expectation =>
    ⟨.warning, logSource,
      "Check " ++ expectation.ruleId ++ " reads nested block " ++ expectation.path ++ " on "
        ++ expectation.kind ++ ", which the plan block table does not map; "
        ++ "plan input will expose it as an attribute"⟩

/-- What is noted about a fault. -/
def faultEntry (fault : CheckFault) : LogEntry :=
  ⟨.error, logSource,
    "Check " ++ fault.ruleId ++ " raised while evaluating "
      ++ (fault.address.filter (!·.isEmpty)).getD "all entities"⟩

/-- What is noted during a run: its faults, and its size at the end. -/
def runLog (engine : Engine) (entities : List Entity) : List LogEntry :=
  let (found, after) := engine.analyze entities
  after.faults.map faultEntry ++
    [⟨.info, logSource,
      "Evaluated " ++ toString entities.length ++ " entities with "
        ++ toString (engine.resourceChecks.length + engine.crossChecks.length) ++ " checks: "
        ++ toString found.length ++ " findings"⟩]

end Engine

end InfraReview
