import InfraReview.GitHub.Finding
import InfraReview.Sorting

/-!
# Job summaries

The summary of a report as a Markdown document for the page of a job: counts by severity
and by pillar, the metadata, the expired suppressions, and a table of the first findings.
A text in a cell of that table has its bars escaped and its line feeds replaced by blanks.
-/

namespace InfraReview.GitHub

/-- The number of findings that the table shows. -/
def displayLimit : Nat := 10

/-- A character in a cell. -/
def cellChar (c : Char) : List Char :=
  if c = '|' then ['\\', '|'] else if c = '\n' then [' '] else [c]

/-- A text in a cell. -/
def cell (text : String) : String :=
  Text.trim (String.ofList (text.toList.flatMap cellChar))

/-- The digits of the number of a member, which is zero when it is absent. -/
def countOf (members : Members) (name : String) : Except Fault String := do
  digits (← wholeNumber (memberOr members name (.int 0)))

/-- The names of a mapping with the texts of their values, in the order of the names. The items
of a list serve as names as well, each for the item that it is the index of. -/
def labelled : Json → Except Fault (List (String × String))
  | .object members =>
    (members.mergeSort fun left right => left.1 ≤ right.1).mapM fun (name, value) => do
      .ok (name, ← shown value)
  | .string _ => .error (.textIndex "str")
  | .array items => do
    let names ← (Sorting.sort Json.isBefore items).mapError Fault.unordered
    names.mapM fun name => do .ok (← shown name, ← shown (← itemFor items name))
  | other => .error (.notIterable other.sortWord)

/-- The first lines of the summary. -/
def headLines (summary : Members) : Except Fault (List String) := do
  let resources ← countOf summary "total_resources"
  let findings ← countOf summary "total_findings"
  let suppressed ← countOf summary "suppressed_findings"
  let highest := Json.member summary "highest_severity"
  .ok ["# Well-Architected Review", "",
    "**Resources scanned:** " ++ resources, "**Total findings:** " ++ findings,
    "**Suppressed findings:** " ++ suppressed,
    "**Highest severity:** " ++ (if highest.isVacant then "None" else (severityOf highest).title),
    "", "| Severity | Findings |", "| --- | ---: |"]

/-- The row of a severity. -/
def severityRow (counts : Members) (severity : Severity) : Except Fault String := do
  let count ← countOf counts severity.name
  .ok ("| " ++ severity.title ++ " | " ++ count ++ " |")

/-- The table of pillars, if there are any. -/
def pillarLines (pillars : Json) : Except Fault (List String) := do
  if pillars.isVacant then .ok []
  else
    let rows ← labelled pillars
    .ok (["", "| Pillar | Findings |", "| --- | ---: |"]
      ++ rows.map fun (name, text) => "| " ++ name ++ " | " ++ text ++ " |")

/-- The section of metadata, if there is any. -/
def metadataLines (metadata : Json) : Except Fault (List String) := do
  if metadata.isVacant then .ok []
  else
    let rows ← labelled metadata
    .ok (["", "## Metadata", ""]
      ++ rows.map fun (name, text) => "- **" ++ name ++ ":** " ++ text)

/-- The section of expired suppressions, if there are any. -/
def expiredLines (expired : Json) : Except Fault (List String) := do
  if expired.isVacant then .ok []
  else
    let entries ← (← items expired).mapM shown
    .ok (["", "## Expired suppressions", ""] ++ entries.map fun entry => "- " ++ entry)

/-- The place of a finding in the table. -/
def placeText (place : String × Int) : Except Fault String :=
  if place.2 = 0 then .ok place.1 else (digits place.2).map fun line => place.1 ++ ":" ++ line

/-- The row of a finding. -/
def findingRow (document : Json) : Except Fault String := do
  let finding ← members document
  let place ← placeText (← placeOf finding)
  let ruleId ← memberText finding "rule_id"
  let resource ← memberText finding "resource"
  let description ← memberText finding "description"
  .ok ("| " ++ (severityOf (Json.member finding "severity")).title
    ++ " | \x60" ++ cell ruleId ++ "\x60 | \x60" ++ cell resource ++ "\x60 | "
    ++ (if (cell place).isEmpty then "plan" else cell place) ++ " | " ++ cell description ++ " |")

/-- The findings in the order of a report, of which the table shows the first ones. -/
def listed : Json → Except Fault (List Json)
  | .object _ => .error .notSliceable
  | .array items => .ok items
  | .string text => items (.string text)
  | other => .error (.notSubscriptable other.sortWord)

/-- The table of the first findings, if there are any, and how many more there are. -/
def findingLines (findings : Json) : Except Fault (List String) := do
  if findings.isVacant then .ok []
  else
    let all ← listed findings
    let rows ← (all.take displayLimit).mapM findingRow
    let remaining := all.length - displayLimit
    .ok (["", "## Findings", "", "| Severity | Rule | Resource | Location | Description |",
        "| --- | --- | --- | --- | --- |"]
      ++ rows
      ++ if remaining = 0 then [] else ["", "...and " ++ toString remaining ++ " more findings."])

/-- The summary of a report. -/
def summaryText (report : Json) : Except Fault String := do
  let parts ← members report
  let summary ← members (orElse (Json.member parts "summary") (.object []))
  let counts := orElse (Json.member summary "counts") (.object [])
  let head ← headLines summary
  let severities ← Severity.all.mapM fun severity => do severityRow (← members counts) severity
  let pillars ← pillarLines (Json.member summary "by_pillar")
  let metadata ← metadataLines (Json.member parts "metadata")
  let expired ← expiredLines (Json.member summary "expired_suppressions")
  let findings ← findingLines (Json.member parts "findings")
  .ok ("\n".intercalate (head ++ severities ++ pillars ++ metadata ++ expired ++ findings ++ [""]))

end InfraReview.GitHub
