import InfraReview.Suppression

/-!
# Reports

A report holds the findings that were kept, with what is worth knowing about the run
beside them. It shows the most serious findings first, and those of one severity by the
identifier of their rule; findings that agree in both stay in order.

As JSON, a report has a summary that counts its findings by severity and by pillar. All
severities are listed, but only the pillars that occur.
-/

namespace InfraReview

/-- What a run reports. -/
structure Report where
  findings : List Finding
  metadata : List (String × Json)
  totalResources : Int := 0
  suppressedFindings : Int := 0
  expired : List Suppression := []
  activeChecks : List CheckMetadata := []
  faults : List String := []
  parseErrors : List String := []

namespace Report

/-- A finding stands before another one when it is more serious, or as serious and not of a
later rule. -/
def precedes (left right : Finding) : Bool :=
  right.severity.rank < left.severity.rank ||
    (left.severity.rank == right.severity.rank && left.ruleId ≤ right.ruleId)

/-- The findings in the order of the report. -/
def sortedFindings (report : Report) : List Finding := report.findings.mergeSort precedes

/-- The first one of the most serious findings, if there are any: a later one takes its place only
when it is more serious. -/
def gravest? : List Finding → Option Finding
  | [] => none
  | first :: others =>
    some (others.foldl (fun gravest finding =>
      if gravest.severity.rank < finding.severity.rank then finding else gravest) first)

/-- The highest severity of a finding, if there is one. -/
def highestSeverity (report : Report) : Option Severity :=
  (gravest? report.findings).map fun finding => finding.severity

/-- Counts after one more is found of a kind. -/
def tally {κ : Type} [DecidableEq κ] (counts : List (κ × Nat)) (kind : κ) : List (κ × Nat) :=
  counts.map fun entry => if entry.1 = kind then (entry.1, entry.2 + 1) else entry

/-- The number of findings of each kind. All kinds start with zero, and the findings are counted one
after the other. -/
def countsBy {κ : Type} [DecidableEq κ] (kinds : List κ) (kindOf : Finding → κ)
    (findings : List Finding) : List (κ × Nat) :=
  findings.foldl (fun counts finding => tally counts (kindOf finding))
    (kinds.map fun kind => (kind, 0))

/-- The number of findings of each severity. -/
def severityCounts (report : Report) : List (Severity × Nat) :=
  countsBy Severity.all (fun finding => finding.severity) report.findings

/-- The number of findings of each pillar that occurs. -/
def pillarCounts (report : Report) : List (Pillar × Nat) :=
  (countsBy Pillar.all (fun finding => finding.pillar) report.findings).filter
    fun entry => entry.2 != 0

/-- A suppression that is reported as expired. -/
def expiredText (suppression : Suppression) : String :=
  suppression.ruleId ++ "/" ++ suppression.resource ++ " (expired " ++ suppression.expires ++ ")"

/-- The expired suppressions in words. -/
def expiredTexts (report : Report) : List String := report.expired.map expiredText

/-- The place that a finding reports. -/
def place (finding : Finding) : String := finding.file ++ ":" ++ toString finding.line

/-- The summary of a report as JSON. -/
def summaryJson (report : Report) : Json :=
  .object [
    ("total_resources", .int report.totalResources),
    ("total_findings", .int report.findings.length),
    ("suppressed_findings", .int report.suppressedFindings),
    ("expired_suppressions", .array (report.expiredTexts.map .string)),
    ("highest_severity", (report.highestSeverity.map fun s => Json.string s.name).getD .null),
    ("counts", .object (report.severityCounts.map fun (severity, count) =>
      (severity.name, .int count))),
    ("by_pillar", .object (report.pillarCounts.map fun (pillar, count) =>
      (pillar.name, .int count)))]

/-- A report as JSON. -/
def toJson (report : Report) : Json :=
  .object [
    ("metadata", .object report.metadata),
    ("summary", report.summaryJson),
    ("findings", .array (report.sortedFindings.map Finding.toJson)),
    ("rule_metadata", .array (report.activeChecks.map CheckMetadata.toJson)),
    ("faults", .array (report.faults.map .string)),
    ("parse_errors", .array (report.parseErrors.map .string))]

end Report

end InfraReview
