import InfraReview.Text.Blank
import InfraReview.Text.Letters

/-!
# Pillars

The six pillars of a well-architected design classify checks. A text names a pillar
when it does so without regard to case, blanks and underscores.
-/

namespace InfraReview

/-- A field of design that checks belong to. -/
inductive Pillar where
  | security
  | reliability
  | operationalExcellence
  | performanceEfficiency
  | costOptimization
  | sustainability
  deriving DecidableEq, Repr

namespace Pillar

/-- All pillars in the order of reports. -/
def all : List Pillar :=
  [.security, .reliability, .operationalExcellence, .performanceEfficiency, .costOptimization,
    .sustainability]

/-- The name of a pillar. -/
def name : Pillar → String
  | .security => "Security"
  | .reliability => "Reliability"
  | .operationalExcellence => "OperationalExcellence"
  | .performanceEfficiency => "PerformanceEfficiency"
  | .costOptimization => "CostOptimization"
  | .sustainability => "Sustainability"

/-- The name of a pillar in the listing of checks. -/
def shortName : Pillar → String
  | .security => "Security"
  | .reliability => "Reliability"
  | .operationalExcellence => "Ops Excellence"
  | .performanceEfficiency => "Performance"
  | .costOptimization => "Cost"
  | .sustainability => "Sustainability"

/-- A text without white space around it, without blanks and underscores, in lower
case. -/
def normalized (text : String) : String :=
  Text.lower (String.ofList ((Text.trimChars text.toList).filter fun c => c != ' ' && c != '_'))

/-- The pillar that a text names. -/
def parse? (text : String) : Option Pillar :=
  all.find? fun pillar => Text.lower pillar.name == normalized text

/-- The message for a text that names no pillar. -/
def unknownMessage (text : String) : String :=
  "Unknown pillar '" ++ text ++ "' (expected one of " ++ ", ".intercalate (all.map name) ++ ")"

end Pillar

end InfraReview
