import InfraReview.BlockTable
import InfraReview.Check.Catalog

/-!
# The registry of checks

A registry collects checks of the two sorts, each sort in the order of registration
and with its repetitions, until it is frozen. From then on it refuses every
registration and never changes.
-/

namespace InfraReview

/-- What may be offered for registration: a check of either sort, or something else, of
which only the name of its type is known. -/
inductive Candidate where
  | resource (check : ResourceCheck)
  | cross (check : CrossCheck)
  | other (typeName : String)

/-- A collection of checks. -/
structure Registry where
  resourceChecks : List ResourceCheck
  crossChecks : List CrossCheck
  frozen : Bool

/-- Why a registration is refused. -/
inductive RegistryFault where
  | frozen
  | notACheck (typeName : String)
  deriving DecidableEq, Repr

/-- The message of a refusal. -/
def RegistryFault.message : RegistryFault → String
  | .frozen => "Check registry is frozen; register checks before evaluation starts"
  | .notACheck typeName =>
    "Expected a ResourceCheck or CrossResourceCheck instance, got " ++ typeName

namespace Registry

/-- The registry without checks. -/
def empty : Registry := ⟨[], [], false⟩

/-- The registry after a registration. -/
def register (registry : Registry) (candidate : Candidate) : Except RegistryFault Registry :=
  if registry.frozen then .error .frozen
  else
    match candidate with
    | .resource check =>
      .ok { registry with resourceChecks := registry.resourceChecks ++ [check] }
    | .cross check => .ok { registry with crossChecks := registry.crossChecks ++ [check] }
    | .other typeName => .error (.notACheck typeName)

/-- The registry after several registrations, unless one is refused. -/
def registerAll (registry : Registry) : List Candidate → Except RegistryFault Registry
  | [] => .ok registry
  | candidate :: candidates => do
    let next ← registry.register candidate
    next.registerAll candidates

/-- The registry, closed to registrations. -/
def freeze (registry : Registry) : Registry := { registry with frozen := true }

/-- The descriptions of all checks, those of single entities first. -/
def allMetadata (registry : Registry) : List CheckMetadata :=
  registry.resourceChecks.map (·.metadata) ++ registry.crossChecks.map (·.metadata)

/-- A nested block that a check reads. -/
structure Expectation where
  ruleId : String
  kind : String
  path : String
  deriving DecidableEq, Repr

/-- The nested blocks that checks read, in the order of the checks. -/
def expectations (registry : Registry) : List Expectation :=
  registry.allMetadata.flatMap fun metadata =>
    metadata.nestedBlocks.map fun (kind, path) => ⟨metadata.id, kind, path⟩

/-- The nested blocks that checks read and that a table does not map. In a plan they are
attributes, so the checks never see them. -/
def unmappedBlocks (registry : Registry) (table : BlockTable) : List Expectation :=
  registry.expectations.filter fun expectation =>
    !table.isMapped expectation.kind expectation.path

/-- The frozen registry of the built-in checks. -/
def builtin : Registry := ⟨Check.resourceCatalog, Check.crossCatalog, true⟩

end Registry

end InfraReview
