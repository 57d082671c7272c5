/-!
# Help texts

What the programs say about themselves when they are asked to, or when they cannot make
sense of their arguments.
-/

namespace InfraReview.CommandLine

/-- How the review program is used. -/
def reviewUsage : String :=
  "usage: wa-review [--help] [--log-level LEVEL] COMMAND ...\n"

/-- What the review program does. -/
def reviewHelp : String :=
  "\n".intercalate [
    reviewUsage,
    "Review Terraform against the AWS Well-Architected Framework",
    "",
    "  --log-level LEVEL       DEBUG, INFO, WARNING or ERROR",
    "",
    "analyze [PATH]            analyze source or a plan and report findings",
    "  --plan-file FILE        a binary plan, shown by the tool that made it",
    "  --terraform-bin TOOL    that tool",
    "  --format FORMAT         table, json or markdown",
    "  --output FILE           write the report to a file",
    "  --min-severity LEVEL    only checks of this severity or a higher one",
    "  --pillar PILLAR         only checks of these pillars",
    "  --rule ID               only these checks",
    "  --exclude ID            never these checks",
    "  --fail-on LEVEL         exit with code 1 from this severity on, or any or none",
    "  --config FILE           the suppression file",
    "",
    "list-rules                list the checks",
    "  --pillar PILLAR         only those of this pillar",
    ""]

/-- How the publishing program is used. -/
def publishUsage : String :=
  "usage: wa-review-github [--help] [--summary-path FILE] REPORT\n"

/-- What the publishing program does. -/
def publishHelp : String :=
  "\n".intercalate [
    publishUsage,
    "Publish review findings as GitHub job summary and annotations.",
    "",
    "  --summary-path FILE     the summary file, instead of $GITHUB_STEP_SUMMARY",
    ""]

end InfraReview.CommandLine
