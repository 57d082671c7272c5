import InfraReview.Report.Basic
import InfraReview.Report.Columns

/-!
# Reports and checks in tables

The table of a report has a row for each finding, between notes about the run and a line
that sums it up. The table of checks has a row for each check.
-/

namespace InfraReview

namespace Report

/-- What has to be noted about a run: suppressions that are expired, files that were passed
over, and checks that broke off. -/
def notes (report : Report) : List String :=
  (report.expiredTexts.map fun text => "WARN: suppression for " ++ text)
    ++ (report.parseErrors.map fun text => "WARN: skipped file: " ++ text)
    ++ report.faults.map fun text => "WARN: check fault: " ++ text

/-- The notes with an empty line after them, if there are any. -/
def noteLines (report : Report) : List String :=
  if report.notes.isEmpty then [] else report.notes ++ [""]

/-- The heading of the table. -/
def tableHeading : List String := ["Severity", "Rule ID", "Resource", "Location", "Description"]

/-- The row of a finding. -/
def tableRow (finding : Finding) : List String :=
  [finding.severity.name, finding.ruleId, finding.resource, place finding, finding.description]

/-- The line that sums up the table. -/
def tableSummary (report : Report) : String :=
  "Resources scanned: " ++ toString report.totalResources ++ "  Findings: "
    ++ toString report.findings.length ++ "  Suppressed: " ++ toString report.suppressedFindings

/-- A report as a table. -/
def table (report : Report) : String :=
  "\n".intercalate (report.noteLines ++
    if report.findings.isEmpty then
      ["No findings detected. Scanned " ++ toString report.totalResources ++ " resources."]
    else
      Columns.lines tableHeading (report.sortedFindings.map tableRow)
        ++ ["", report.tableSummary])

end Report

namespace CheckMetadata

/-- The row of a check. -/
def tableRow (metadata : CheckMetadata) : List String :=
  [metadata.id, metadata.name, metadata.severity.name, metadata.pillar.shortName,
    ", ".intercalate metadata.resourceTypes]

/-- Checks as a table. -/
def table (checks : List CheckMetadata) : String :=
  "\n".intercalate (Columns.lines ["ID", "NAME", "SEVERITY", "PILLAR", "RESOURCES"]
    (checks.map tableRow))

end CheckMetadata

end InfraReview
