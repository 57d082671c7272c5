import InfraReview.GitHub.Finding

/-!
# Annotations

A finding becomes a command of the workflow, in one line: the level, the properties, and
the message. The characters that would end a part of the command are written by a percent
sign and their code, and so is the percent sign itself; carriage returns are dropped.
-/

namespace InfraReview.GitHub

/-- The level of the annotations of a severity. -/
def annotationLevel : Severity → String
  | .critical => "error"
  | .high => "error"
  | .medium => "warning"
  | .low => "notice"
  | .info => "notice"

/-- A character of a message. -/
def messageChar (c : Char) : List Char :=
  if c = '%' then ['%', '2', '5']
  else if c = '\r' then []
  else if c = '\n' then ['%', '0', 'A']
  else [c]

/-- A character of a property. -/
def propertyChar (c : Char) : List Char :=
  if c = ':' then ['%', '3', 'A']
  else if c = ',' then ['%', '2', 'C']
  else messageChar c

/-- A message as it is written. -/
def message (text : String) : String := String.ofList (text.toList.flatMap messageChar)

/-- The value of a property as it is written. -/
def property (text : String) : String := String.ofList (text.toList.flatMap propertyChar)

/-- Parts with a separator between them, without the empty ones. -/
def joined (separator : String) (parts : List String) : String :=
  separator.intercalate (parts.filter (!·.isEmpty))

/-- The title of a finding. -/
def titleOf (finding : Members) : Except Fault String := do
  let ruleId ← trimmedText finding "rule_id"
  let ruleName ← trimmedText finding "rule_name"
  .ok (joined " - " [(severityOf (Json.member finding "severity")).title, ruleId, ruleName])

/-- A part with its name, when it does not count as nothing. -/
def labelledPart (label : String) (part : Json) : Except Fault String :=
  if part.isVacant then .ok "" else (shown part).map fun text => label ++ ": " ++ text

/-- The message about a finding. -/
def bodyOf (finding : Members) : Except Fault String := do
  let description ← trimmedText finding "description"
  let resource ← labelledPart "Resource" (Json.member finding "resource")
  let remediation ← labelledPart "Remediation" (Json.member finding "remediation")
  let body := joined "; " [description, resource, remediation]
  .ok (if body.isEmpty then "Finding reported without description." else body)

/-- The properties of a place. -/
def placeProperties (place : String × Int) : Except Fault (List String) :=
  if place.1.isEmpty then .ok []
  else if place.2 = 0 then .ok ["file=" ++ property place.1]
  else (digits place.2).map fun line => ["file=" ++ property place.1, "line=" ++ line]

/-- The command for a finding. -/
def annotation (document : Json) : Except Fault String := do
  let finding ← members document
  let title ← titleOf finding
  let body ← bodyOf finding
  let place ← placeOf finding
  let properties ← placeProperties place
  .ok ("::" ++ annotationLevel (severityOf (Json.member finding "severity")) ++ " "
    ++ ",".intercalate (properties ++ ["title=" ++ property title]) ++ "::" ++ message body)

/-- The commands for the findings of a report, in order. -/
def annotations (report : Json) : Except Fault (List String) := do
  let parts ← members report
  let findings ← items (orElse (Json.member parts "findings") (.array []))
  findings.mapM annotation

end InfraReview.GitHub
