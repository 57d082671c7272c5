import InfraReview.Json.Basic
import InfraReview.Pillar
import InfraReview.Severity

/-!
# Findings and the description of checks

A finding is one violation that one check reports about one entity. The description of
a check names it and classifies it; every finding repeats the classification. As JSON,
a link that is absent or empty is left out, and so are frameworks when there are none.
-/

namespace InfraReview

/-- A violation reported about one entity. -/
structure Finding where
  ruleId : String
  ruleName : String
  severity : Severity
  pillar : Pillar
  resource : String
  file : String
  line : Int
  description : String
  remediation : String
  docUrl : Option String
  deriving DecidableEq, Repr

/-- The identity and the classification of a check. `nestedBlocks` lists the kinds and
the paths of nested blocks that the check reads. -/
structure CheckMetadata where
  id : String
  name : String
  description : String
  severity : Severity
  pillar : Pillar
  resourceTypes : List String
  docUrl : Option String := none
  frameworks : List (String × List String) := []
  nestedBlocks : List (String × String) := []
  deriving DecidableEq, Repr

/-- The member for a link, when there is one to show. -/
def linkMember (docUrl : Option String) : List (String × Json) :=
  match docUrl with
  | some url => if url.isEmpty then [] else [("doc_url", .string url)]
  | none => []

namespace Finding

/-- A finding as JSON. -/
def toJson (finding : Finding) : Json :=
  .object ([
    ("rule_id", .string finding.ruleId),
    ("rule_name", .string finding.ruleName),
    ("severity", .string finding.severity.name),
    ("pillar", .string finding.pillar.name),
    ("resource", .string finding.resource),
    ("file", .string finding.file),
    ("line", .int finding.line),
    ("description", .string finding.description),
    ("remediation", .string finding.remediation)] ++ linkMember finding.docUrl)

end Finding

namespace CheckMetadata

/-- The description of a check as JSON. -/
def toJson (metadata : CheckMetadata) : Json :=
  .object ([
    ("id", .string metadata.id),
    ("name", .string metadata.name),
    ("description", .string metadata.description),
    ("severity", .string metadata.severity.name),
    ("pillar", .string metadata.pillar.name),
    ("resource_types", .array (metadata.resourceTypes.map .string))] ++
    linkMember metadata.docUrl ++
    if metadata.frameworks.isEmpty then []
    else
      [("compliance_frameworks",
        .object (metadata.frameworks.map fun (framework, controls) =>
          (framework, .array (controls.map .string))))])

end CheckMetadata

end InfraReview
