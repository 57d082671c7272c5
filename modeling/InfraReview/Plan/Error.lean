import InfraReview.Json.Document
import InfraReview.Value

/-!
# What can be wrong with a plan

Most defects of a plan are *rejections*: the reader looked for them and says what is
wrong. The others are *breakdowns*: a place of the plan has a shape that the reader
took for granted, an integer is too long, or it has no double. Besides, a document may hold half
of a surrogate pair, of which nothing is said.
-/

namespace InfraReview.Plan

/-- Why a plan gives no entities. -/
inductive Error where
  | invalidJson (fault : Json.DocumentFault)
  | notAnObject
  | noPlannedValues
  | noRootModule
  | resourcesNotAList
  | resourceNotAnObject
  | childNotAnObject
  | missingField (address field : String)
  | valuesNotAnObject (address : String)
  | notIterable (sort : String)
  | notHashable (sort : String)
  | noMembers (sort : String)
  | value (fault : ValueFault)
  | length (fault : LengthFault)
  | unpairedHalf

/-- True for the defects that the reader looked for. -/
def Error.isRejection : Error → Bool
  | .notIterable _ | .notHashable _ | .noMembers _ | .value _ | .length _ | .unpairedHalf => false
  | _ => true

/-- The error for bytes or a text that hold no document. -/
def Error.ofDocumentFault : Json.DocumentFault → Error
  | .length fault => .length fault
  | .unpairedHalf => .unpairedHalf
  | fault => .invalidJson fault

/-- The text of a part of a plan in a message or as an address. -/
def shown (part : Json) : Except Error String := part.shown.mapError .length

/-- The message of an error. -/
def Error.message : Error → String
  | .invalidJson fault => "Invalid plan JSON: " ++ fault.message
  | .notAnObject => "Plan JSON must be an object"
  | .noPlannedValues => "Plan JSON has no 'planned_values' object"
  | .noRootModule => "Plan JSON has no 'planned_values.root_module' object"
  | .resourcesNotAList => "Plan module 'resources' must be a list"
  | .resourceNotAnObject => "Plan resource entries must be objects"
  | .childNotAnObject => "Plan 'child_modules' entries must be objects"
  | .missingField address field =>
    "Plan resource " ++ address ++ " has a missing or empty '" ++ field ++ "'"
  | .valuesNotAnObject address => "Plan resource " ++ address ++ " has non-object 'values'"
  | .notIterable sort => "'" ++ sort ++ "' object is not iterable"
  | .notHashable sort => "unhashable type: '" ++ sort ++ "'"
  | .noMembers sort => "'" ++ sort ++ "' object has no attribute 'get'"
  | .value fault => fault.message
  | .length fault => fault.message
  | .unpairedHalf => Json.DocumentFault.unpairedHalf.message

end InfraReview.Plan
