import InfraReview.GitHub.Fault
import InfraReview.Plan.Entities
import InfraReview.Severity
import InfraReview.Text.Blank

/-!
# Findings of published reports

What a published finding says about itself. A severity that cannot be read or written is the
lowest one. A finding of a plan has no place in a file, and a line counts only as a number from
one on; a truth value is no number here.
-/

namespace InfraReview.GitHub

/-- The members of a finding. -/
abbrev Members := List (String × Json)

/-- The severity that a value names. -/
def severityOf (document : Json) : Severity :=
  match document.shown with
  | .ok text => (Severity.parse? text).getD .info
  | .error _ => .info

/-- The text of a member; an absent one is empty. -/
def memberText (finding : Members) (name : String) : Except Fault String :=
  shown (memberOr finding name (.string ""))

/-- The text of a member, without white space around it. -/
def trimmedText (finding : Members) (name : String) : Except Fault String :=
  (memberText finding name).map Text.trim

/-- The line that a value stands for; the number is zero when it stands for none. -/
def lineIn : Json → Except Fault Int
  | .int line => .ok (if line < 1 then 0 else line)
  | .double line =>
    if line.isBelow 1 then .ok 0 else (Numeral.ofDouble line).mapError .numeral
  | _ => .ok 0

/-- The file and the line of a finding. Without a file the text is empty, and there is no line. -/
def placeOf (finding : Members) : Except Fault (String × Int) := do
  let file ← (shown (orElse (Json.member finding "file") (.string ""))).map Text.trim
  if file.isEmpty || file = Plan.sourceName then .ok ("", 0)
  else (lineIn (Json.member finding "line")).map fun line => (file, line)

end InfraReview.GitHub
