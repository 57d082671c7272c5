import InfraReview.Json.Writer
import InfraReview.Report.Markdown
import InfraReview.Report.Table

/-!
# The outcome of a report

A report is written in one of three formats, and its findings decide whether the run
failed. The threshold is a word in any case: one lets any finding fail the run, one lets
none, and a severity lets findings of that rank or higher. Any other word counts as any.
-/

namespace InfraReview

/-- The formats of reports. -/
inductive OutputFormat where
  | table
  | json
  | markdown
  deriving DecidableEq, Repr

namespace OutputFormat

/-- All formats. -/
def all : List OutputFormat := [.table, .json, .markdown]

/-- The name of a format. -/
def name : OutputFormat → String
  | .table => "table"
  | .json => "json"
  | .markdown => "markdown"

/-- The format with a name. -/
def ofName? (name : String) : Option OutputFormat := all.find? (·.name == name)

/-- The message for a text that names no format. -/
def unknownMessage : String := "format must be one of " ++ ", ".intercalate (all.map name)

end OutputFormat

namespace Report

/-- A report in a format. -/
def render (format : OutputFormat) (report : Report) : String :=
  match format with
  | .table => report.table
  | .json => report.toJson.layOut
  | .markdown => report.markdown

/-- The word for a threshold that any finding reaches. -/
def failOnAny : String := "any"

/-- The word for a threshold that no finding reaches. -/
def failOnNone : String := "none"

/-- All words for thresholds. -/
def thresholds : List String :=
  failOnAny :: failOnNone :: Severity.all.map fun severity => Text.lower severity.name

/-- True when findings reach a threshold. -/
def shouldFail (findings : List Finding) (failOn : String) : Bool :=
  let threshold := Text.lower (Text.trim failOn)
  if threshold = failOnNone then false
  else
    let rank := Severity.rankOfText threshold
    if threshold = failOnAny || rank ≤ Severity.info.rank then !findings.isEmpty
    else findings.any fun finding => rank ≤ finding.severity.rank

end Report

end InfraReview
