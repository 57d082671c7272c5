import InfraReview.Suppression
import InfraReview.Yaml.Datum

/-!
# The suppression file

The file is a mapping. It may give a version, and suppressions as a list of mappings, each
with a rule, a resource, a reason and a date. Reading is all or nothing: the first entry
that is no mapping or lacks a field is to blame, by the first field it lacks. A field that
is null or blank is lacking; any other value counts by its text. Reading breaks off at a value
that has no text because it holds an integer that is too long.
-/

namespace InfraReview

/-- The content of a suppression file. -/
structure ReviewConfig where
  version : String
  suppressions : List Suppression
  deriving DecidableEq, Repr

namespace ReviewConfig

/-- A configuration without entries. -/
def empty : ReviewConfig := ⟨"", []⟩

/-- The name of the suppression file unless another is given. -/
def defaultFile : String := ".wa-review.yaml"

/-- What is wrong with the content of a suppression file. -/
inductive Flaw where
  | notAMapping
  | suppressionsNotAList
  | entryNotAMapping (index : Nat)
  | missingField (index : Nat) (field : String)
  deriving DecidableEq, Repr

/-- The message for a flaw in a file. -/
def Flaw.message (source : String) : Flaw → String
  | .notAMapping => "Configuration file " ++ source ++ " must contain a mapping"
  | .suppressionsNotAList => "Configuration file " ++ source ++ ": 'suppressions' must be a list"
  | .entryNotAMapping index =>
    "Invalid configuration file " ++ source ++ ": suppression[" ++ toString index
      ++ "] must be a mapping"
  | .missingField index field =>
    "Invalid configuration file " ++ source ++ ": suppression[" ++ toString index ++ "]: "
      ++ field ++ " is required"

/-- Why data gives no configuration. -/
inductive DataFault where
  | flawed (flaw : Flaw)
  | length (fault : LengthFault)
  deriving DecidableEq, Repr

/-- The message of such a fault for a file. -/
def DataFault.message (source : String) : DataFault → String
  | .flawed flaw => flaw.message source
  | .length fault => fault.message

/-- The text of a field of the entry with an index. -/
def field (store : Yaml.Store) (index : Nat) (entries : List (Yaml.Datum × Yaml.Datum))
    (name : String) : Except DataFault String := do
  let text ← (store.fieldText (Yaml.Datum.member entries name)).mapError .length
  if text.isEmpty then .error (.flawed (.missingField index name)) else .ok text

/-- The suppression that the entry with an index gives. -/
def suppression (store : Yaml.Store) (index : Nat) (entry : Yaml.Datum) :
    Except DataFault Suppression :=
  match store.entries? entry with
  | some entries => do
    let ruleId ← field store index entries "rule_id"
    let resource ← field store index entries "resource"
    let reason ← field store index entries "reason"
    let expires ← field store index entries "expires"
    .ok ⟨ruleId, resource, reason, expires⟩
  | none => .error (.flawed (.entryNotAMapping index))

/-- The suppressions that entries give, the first of which has an index. -/
def suppressionsFrom (store : Yaml.Store) (index : Nat) :
    List Yaml.Datum → Except DataFault (List Suppression)
  | [] => .ok []
  | entry :: entries => do
    let first ← suppression store index entry
    let others ← suppressionsFrom store (index + 1) entries
    .ok (first :: others)

/-- The suppressions that the member of the file for them gives. What counts as nothing gives
none. -/
def suppressionsOf (store : Yaml.Store) (listed : Yaml.Datum) :
    Except DataFault (List Suppression) :=
  if store.isVacant listed then .ok []
  else
    match store.items? listed with
    | some entries => suppressionsFrom store 0 entries
    | none => .error (.flawed .suppressionsNotAList)

/-- The version that the member of the file for it gives. -/
def versionText (store : Yaml.Store) : Yaml.Datum → Except DataFault String
  | .null => .ok ""
  | other => (store.shown other).mapError .length

/-- The configuration that the members of the file give. -/
def ofMembers (store : Yaml.Store) (members : List (Yaml.Datum × Yaml.Datum)) :
    Except DataFault ReviewConfig := do
  let found ← suppressionsOf store (Yaml.Datum.member members "suppressions")
  let version ← versionText store (Yaml.Datum.member members "version")
  .ok ⟨version, found⟩

/-- The configuration that data gives. -/
def ofData (data : Yaml.Data) : Except DataFault ReviewConfig :=
  match data.store.entries? data.root with
  | some members => ofMembers data.store members
  | none => .error (.flawed .notAMapping)

end ReviewConfig

end InfraReview
