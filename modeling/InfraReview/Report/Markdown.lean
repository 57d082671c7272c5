import InfraReview.Report.Basic

/-!
# Reports in Markdown

A report as a document: a summary, the counts by severity and by pillar, and a section for
each finding. Texts of findings stand in it as they are.
-/

namespace InfraReview.Report

/-- The row of a table of two columns. -/
def countRow (name count : String) : String := "| " ++ name ++ " | " ++ count ++ " |"

/-- The heading of a table of counts with a title above it. -/
def countHeading (title column : String) : List String :=
  [title, "", "| " ++ column ++ " | Count |", "| --- | ---: |"]

/-- The first lines of the document. -/
def markdownSummary (report : Report) : List String :=
  ["# AWS Well-Architected Analysis Report", "", "## Summary", "", "| Metric | Value |",
    "| --- | ---: |", countRow "Resources Scanned" (toString report.totalResources),
    countRow "Total Findings" (toString report.findings.length)]
    ++ (if report.suppressedFindings = 0 then []
        else [countRow "Suppressed Findings" (toString report.suppressedFindings)])
    ++ [""]

/-- The section of expired suppressions, if there are any. -/
def markdownExpired (report : Report) : List String :=
  if report.expired.isEmpty then []
  else
    ["## Expired Suppressions", ""] ++ (report.expiredTexts.map fun text => "- " ++ text) ++ [""]

/-- The counts by severity and by pillar, without the severities that do not occur. -/
def markdownCounts (report : Report) : List String :=
  countHeading "## Findings by Severity" "Severity"
    ++ ((report.severityCounts.filter fun entry => entry.2 != 0).map fun (severity, count) =>
      countRow severity.name (toString count))
    ++ [""] ++ countHeading "## Findings by Pillar" "Pillar"
    ++ report.pillarCounts.map fun (pillar, count) => countRow pillar.name (toString count)

/-- The section of a finding with a number. -/
def markdownFinding (number : Nat) (finding : Finding) : List String :=
  let link :=
    match finding.docUrl with
    | some url => if url.isEmpty then [] else ["- **Documentation:** [AWS Docs](" ++ url ++ ")"]
    | none => []
  ["### " ++ toString number ++ ". [" ++ finding.ruleId ++ "] " ++ finding.ruleName ++ " ("
      ++ finding.severity.name ++ ")",
    "", "- **Resource:** \x60" ++ finding.resource ++ "\x60",
    "- **Location:** \x60" ++ place finding ++ "\x60", "- **Pillar:** " ++ finding.pillar.name,
    "- **Description:** " ++ finding.description, "- **Remediation:** " ++ finding.remediation]
    ++ link ++ [""]

/-- The sections of findings, of which the first one has a number. -/
def markdownFindings (number : Nat) : List Finding → List String
  | [] => []
  | finding :: findings => markdownFinding number finding ++ markdownFindings (number + 1) findings

/-- A report as a document. -/
def markdown (report : Report) : String :=
  "\n".intercalate (report.markdownSummary ++ report.markdownExpired ++
    if report.findings.isEmpty then
      ["No findings. Your Terraform configuration looks good!", ""]
    else
      report.markdownCounts ++ ["", "## Detailed Findings", ""]
        ++ markdownFindings 1 report.sortedFindings)

end InfraReview.Report
