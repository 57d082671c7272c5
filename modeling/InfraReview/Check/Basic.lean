import InfraReview.Entity
import InfraReview.Finding

/-!
# Checks

A check either looks at one entity at a time or at all entities together. What comes
back from an invocation is data: findings, nothing at all, or a fault with its
message. A fault is an invocation that broke off; it is never a finding.
-/

namespace InfraReview

/-- What an invocation of a check gives. -/
inductive Outcome where
  | findings (found : List Finding)
  | nothing
  | fault (message : String)
  deriving DecidableEq, Repr

/-- The findings of an invocation. -/
def Outcome.found : Outcome → List Finding
  | .findings found => found
  | _ => []

/-- The message of an invocation that broke off. -/
def Outcome.fault? : Outcome → Option String
  | .fault message => some message
  | _ => none

/-- A check that looks at one entity at a time, of the kinds it lists. -/
structure ResourceCheck where
  metadata : CheckMetadata
  evaluate : Entity → Outcome

/-- A check that relates entities to each other. The kinds it lists only describe it. -/
structure CrossCheck where
  metadata : CheckMetadata
  evaluate : List Entity → Outcome

/-- A finding about an entity with the classification of a check. A link of its own
replaces the link of the check. -/
def CheckMetadata.findingWithLink (metadata : CheckMetadata) (entity : Entity)
    (description remediation : String) (docUrl : Option String) : Finding where
  ruleId := metadata.id
  ruleName := metadata.name
  severity := metadata.severity
  pillar := metadata.pillar
  resource := entity.address
  file := entity.file
  line := entity.line
  description := description
  remediation := remediation
  docUrl := docUrl.or metadata.docUrl

/-- A finding about an entity with the classification and the link of a check. -/
def CheckMetadata.finding (metadata : CheckMetadata) (entity : Entity)
    (description remediation : String) : Finding :=
  metadata.findingWithLink entity description remediation none

end InfraReview
