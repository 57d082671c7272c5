import InfraReview.Config.File
import InfraReview.Engine
import InfraReview.Plan.Entities
import InfraReview.Plan.Snapshot
import InfraReview.Source.Files

/-!
# Analysis

An analysis reads a suppression file and the entities of its input, lets an engine with the
built-in checks look at them, and applies the suppressions to what it finds. The suppression
file comes first, so its faults show whatever the input is.

The input is a plan when a binary plan is named, or when the path leads to a file with the
suffix of exported plans. Otherwise the path has to lead to a directory of source or to a
source file. Source of which every file was rejected is an error, the one of its first file;
source without any file is only worth a warning.
-/

namespace InfraReview

/-- What an analysis is asked to do. -/
structure AnalysisRequest where
  path : FilePath
  planFile : Option FilePath := none
  filters : EngineConfig := {}
  configFile : Option FilePath := none
  tool : Plan.Tool := .named "terraform"
  now : Moment

/-- What an analysis comes to. -/
structure Analysis where
  findings : List Finding
  entityCount : Nat
  suppressed : List Finding
  expired : List Suppression
  faults : List CheckFault
  parseErrors : List Source.Error
  activeChecks : List CheckMetadata
  metadata : List (String × Json)

namespace Analysis

/-- Why there is no analysis. -/
inductive Fault where
  | config (fault : ReviewConfig.Fault)
  | snapshot (fault : Plan.SnapshotFault)
  | plan (error : Plan.Error)
  | source (error : Source.Error)
  | interrupted (interruption : Source.Interruption)
  | access (fault : AccessFault)
  | unsupported (path : FilePath)
  | noInput (path : FilePath)

/-- True for the faults that are put down to the configuration or the input. The others
break off. -/
def Fault.isRejection : Fault → Bool
  | .config fault => fault.isRejection
  | .plan error => error.isRejection
  | .snapshot fault => fault.isRejection
  | .interrupted _ | .access _ => false
  | .source _ | .unsupported _ | .noInput _ => true

/-- The message of a fault. -/
def Fault.message : Fault → String
  | .config fault => fault.message
  | .snapshot fault => fault.message
  | .plan error => error.message
  | .source error => error.message
  | .interrupted interruption => interruption.message
  | .access fault => fault.message
  | .unsupported path =>
    "Unsupported input " ++ path.text
      ++ ": expected a directory, a .tf file or a plan .json file"
  | .noInput path => "Input path not found: " ++ path.text

/-- The suffix of exported plans. -/
def planSuffix : String := ".json"

/-- The sorts of input. -/
inductive InputSort where
  | plan
  | source
  deriving DecidableEq, Repr

/-- The name of a sort of input. -/
def InputSort.name : InputSort → String
  | .plan => "plan"
  | .source => "source"

/-- What has been read as input. -/
structure Input where
  sort : InputSort
  entities : List Entity
  errors : List Source.Error

/-- An answer about files, whose faults end an analysis. -/
def asked (answer : Except AccessFault α) : Logged Fault α := .ofExcept (answer.mapError .access)

/-- The entities of the plan in a snapshot. -/
def readSnapshot (content : List UInt8) : Logged Fault (List Entity) :=
  let document := Plan.Document.bytes content
  ⟨(Plan.read .standard Plan.sourceName document).mapError .plan,
    Plan.readLog .standard Plan.sourceName document⟩

/-- The input from a plan, which is exported or binary. The tool that shows binary plans
runs next to the path. -/
def loadPlan (world : World) (request : AnalysisRequest) (exported binary : Option FilePath) :
    Logged Fault Input := do
  let isDirectory ← asked (world.files.isDirectory request.path)
  let source : Plan.SnapshotSource := {
    directory := if isDirectory then request.path else request.path.parent
    exported := exported
    binary := binary
    tool := request.tool
    added := []
    inherits := true }
  let content ← (source.load world).mapFault .snapshot
  let entities ← readSnapshot content
  pure ⟨.plan, entities, []⟩

/-- The input from a reading of source files. -/
def acceptReading (path : FilePath) (reading : Source.Reading) : Logged Fault Input :=
  let input : Input := ⟨.source, reading.entities, reading.errors⟩
  if reading.files.isEmpty then
    ⟨.ok input,
      [⟨.warning, "wa_review.service", "No Terraform files found under " ++ path.text⟩]⟩
  else
    match reading.errors with
    | first :: _ =>
      if reading.errors.length = reading.files.length then .fail (.source first)
      else pure input
    | [] => pure input

variable [Libraries]

/-- The input from source. -/
def loadSource (files : FileSystem) (path : FilePath) : Logged Fault Input := do
  if ← asked (files.isDirectory path) then
    let reading ← (Source.readDirectory files path).mapFault .interrupted
    acceptReading path reading
  else if (← asked (files.isFile path)) && path.suffix == Source.suffix then
    let reading ← (Source.readFiles files [path.text]).mapFault .interrupted
    acceptReading path reading
  else if ← asked (files.contains path) then .fail (.unsupported path)
  else .fail (.noInput path)

/-- The input that a request names. -/
def loadInput (world : World) (request : AnalysisRequest) : Logged Fault Input := do
  match request.planFile with
  | some plan => loadPlan world request none (some plan)
  | none =>
    if (← asked (world.files.isFile request.path)) && request.path.suffix == planSuffix then
      loadPlan world request (some request.path) none
    else loadSource world.files request.path

/-- The configuration that a request names. -/
def loadConfig (files : FileSystem) (request : AnalysisRequest) :
    Logged Fault ReviewConfig :=
  match request.configFile with
  | none => pure .empty
  | some path => (ReviewConfig.load files path).mapFault .config

/-- What an analysis reports about its input. -/
def metadataOf (request : AnalysisRequest) (input : Input) : List (String × Json) :=
  [("path", .string request.path.text), ("input", .string input.sort.name),
    ("resource_count", .int input.entities.length)]
    ++ (request.planFile.map fun plan => ("plan_file", Json.string plan.text)).toList

/-- What the findings about an input come to under a configuration. -/
def review (request : AnalysisRequest) (config : ReviewConfig) (input : Input) : Analysis :=
  let (found, after) :=
    (Engine.create request.filters Registry.builtin).analyze input.entities
  let outcome := applySuppressions found config.suppressions request.now
  { findings := outcome.kept
    entityCount := input.entities.length
    suppressed := outcome.suppressed
    expired := outcome.expired
    faults := after.faults
    parseErrors := input.errors
    activeChecks := after.activeMetadata
    metadata := metadataOf request input }

/-- What is noted while an input is reviewed. -/
def reviewLog (request : AnalysisRequest) (config : ReviewConfig) (input : Input) :
    List LogEntry :=
  (Engine.create request.filters Registry.builtin).runLog input.entities
    ++ suppressionLog config.suppressions request.now

/-- The analysis that a request asks for. -/
def run (world : World) (request : AnalysisRequest) : Logged Fault Analysis := do
  let config ← loadConfig world.files request
  Logged.note (Engine.creationLog Registry.builtin)
  let input ← loadInput world request
  Logged.note (reviewLog request config input)
  pure (review request config input)

end Analysis

end InfraReview
