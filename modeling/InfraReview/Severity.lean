import InfraReview.Text.Blank
import InfraReview.Text.Letters

/-!
# Severities

Five levels, ranked from five down to one. A text names a level in any case. Ranking a
text does not trim it, and a text that names no level has rank zero; reading a text as
a level does trim it, and fails at any other name.
-/

namespace InfraReview

/-- How serious a finding is. -/
inductive Severity where
  | critical
  | high
  | medium
  | low
  | info
  deriving DecidableEq, Repr

namespace Severity

/-- All levels, the most serious first. -/
def all : List Severity := [.critical, .high, .medium, .low, .info]

/-- The name of a level. -/
def name : Severity → String
  | .critical => "CRITICAL"
  | .high => "HIGH"
  | .medium => "MEDIUM"
  | .low => "LOW"
  | .info => "INFO"

/-- The name of a level in a heading. -/
def title : Severity → String
  | .critical => "Critical"
  | .high => "High"
  | .medium => "Medium"
  | .low => "Low"
  | .info => "Info"

/-- A more serious level has a higher rank. -/
def rank : Severity → Nat
  | .critical => 5
  | .high => 4
  | .medium => 3
  | .low => 2
  | .info => 1

/-- The level with exactly the given name. -/
def ofName? (name : String) : Option Severity := all.find? (·.name == name)

/-- The level that a text names, white space around it and case aside. -/
def parse? (text : String) : Option Severity := ofName? (Text.upper (Text.trim text))

/-- The rank of the level that a text names in any case, and zero for another text. -/
def rankOfText (text : String) : Nat := ((ofName? (Text.upper text)).map rank).getD 0

/-- The message for a text that names no level. -/
def unknownMessage (text : String) : String :=
  "Unknown severity '" ++ text ++ "' (expected one of " ++ ", ".intercalate (all.map name) ++ ")"

end Severity

end InfraReview
