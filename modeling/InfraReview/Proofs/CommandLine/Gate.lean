import InfraReview.CommandLine.Review
import InfraReview.Proofs.CommandLine.Acceptance
import InfraReview.Proofs.Engine.Selection
import InfraReview.Proofs.Report.Threshold
import InfraReview.Proofs.Suppression.Division

/-!
# The gate

Whoever builds infrastructure lets the exit code of an analysis decide whether to go on. The
code is said here to hang on four things only: the filters, the entries of the suppression
file, the entities of the input, and the threshold. The gate is closed, and the code is one,
when an active check produces a finding that no entry is meant for and that reaches the
threshold.

Nothing is assumed about how arguments, files and input are read. A run that finishes without
complaint has read all four, and its code is compared with them; two such runs are compared by
what each of them has read.
-/

namespace InfraReview.CommandLine

/-- What decides about an analysis: its request, with the filters in it, the suppression file,
the input, and the threshold. -/
structure Gate where
  request : AnalysisRequest
  config : ReviewConfig
  input : Analysis.Input
  threshold : Threshold

namespace Gate

/-- The report at a gate. -/
def report (gate : Gate) : Report :=
  reportOf (Analysis.review gate.request gate.config gate.input)

/-- A finding blocks when an active check produces it, no entry is meant for it, and it reaches
the threshold. -/
structure Blocks (gate : Gate) (finding : Finding) : Prop where
  produced : Produced gate.request.filters Registry.builtin gate.input.entities finding
  unmatched : ¬ Suppresses gate.config.suppressions finding
  reaches : gate.threshold.Reached finding.severity

/-- A gate is closed when some finding blocks. -/
def Closed (gate : Gate) : Prop := ∃ finding, gate.Blocks finding

/-- A gate is eased to another one with the same entities, the same filters but for further
exclusions, perhaps further entries, and a threshold that is not lower. -/
structure Eases (gate other : Gate) : Prop where
  entities : other.input.entities = gate.input.entities
  filters : other.request.filters =
    { gate.request.filters with excludeIds := other.request.filters.excludeIds }
  exclusions : gate.request.filters.excludeIds ⊆ other.request.filters.excludeIds
  entries : gate.config.suppressions ⊆ other.config.suppressions
  threshold : gate.threshold.height ≤ other.threshold.height

/-- What a run with options reads: filters that name something, a request with paths that can
be followed, the suppression file, the input, and the word for the threshold. -/
structure ReadBy [Libraries] (gate : Gate) (world : World) (now : Moment)
    (options : AnalyzeOptions) :
    Prop where
  filters : ∃ pillars rules exclude, options.pillars = pillars.map some ∧
    options.rules = rules.map some ∧ options.exclude = exclude.map some ∧
    EngineConfig.ofOptions options.minSeverity (splitValues pillars) (splitValues rules)
      (splitValues exclude) = .ok gate.request.filters
  request : options.request world.files now gate.request.filters = .ok gate.request
  config : (Analysis.loadConfig world.files gate.request).result = .ok gate.config
  input : (Analysis.loadInput world gate.request).result = .ok gate.input
  threshold : options.failOn = some gate.threshold.word

/-- The findings that a gate reports are those that active checks produce and no entry is meant
for. -/
theorem mem_findings_iff (gate : Gate) (finding : Finding) :
    finding ∈ gate.report.findings ↔
      Produced gate.request.filters Registry.builtin gate.input.entities finding ∧
        ¬ Suppresses gate.config.suppressions finding := by
  have divided := applySuppressions_findings
    ((Engine.create gate.request.filters Registry.builtin).analyze gate.input.entities).1
    gate.config.suppressions gate.request.now
  rw [← Engine.mem_findings_iff]
  exact divided.mem_lefts finding

/-- A gate is closed when one of the findings that it reports reaches the threshold. -/
theorem closed_iff_reported (gate : Gate) :
    gate.Closed ↔ ∃ finding ∈ gate.report.findings, gate.threshold.Reached finding.severity := by
  constructor
  · rintro ⟨finding, produced, unmatched, reaches⟩
    exact ⟨finding, (gate.mem_findings_iff finding).mpr ⟨produced, unmatched⟩, reaches⟩
  · rintro ⟨finding, kept, reaches⟩
    obtain ⟨produced, unmatched⟩ := (gate.mem_findings_iff finding).mp kept
    exact ⟨finding, produced, unmatched, reaches⟩

/-- A gate is closed when there are findings in its report and the threshold is the one that any
finding reaches, or the highest severity of the report reaches it. -/
theorem closed_iff_highest (gate : Gate) :
    gate.Closed ↔ gate.report.findings ≠ [] ∧ (gate.threshold = .any ∨
      ∃ highest, gate.report.highestSeverity = some highest ∧
        gate.threshold.Reached highest) := by
  rw [closed_iff_reported]
  constructor
  · rintro ⟨finding, kept, reaches⟩
    refine ⟨List.ne_nil_of_mem kept, .inr ?_⟩
    exact (gate.report.reached_iff_highest gate.threshold).mp ⟨finding, kept, reaches⟩
  · rintro ⟨filled, any | highest⟩
    · obtain ⟨finding, kept⟩ := List.exists_mem_of_ne_nil _ filled
      exact ⟨finding, kept, by simp [any, Threshold.Reached]⟩
    · exact (gate.report.reached_iff_highest gate.threshold).mpr highest

/-- A gate that is open stays open when it is eased. -/
theorem Eases.closed {gate other : Gate} (eases : gate.Eases other) (closed : other.Closed) :
    gate.Closed := by
  obtain ⟨finding, produced, unmatched, reaches⟩ := closed
  rw [eases.entities, eases.filters] at produced
  refine ⟨finding, .of_excluding eases.exclusions produced, ?_, reaches.lower eases.threshold⟩
  rintro ⟨entry, listed, meant⟩
  exact unmatched ⟨entry, eases.entries listed, meant⟩

/-- The code for the report of a gate under its threshold is one when the gate is closed, and
zero when it is open. -/
theorem exitCode_iff (gate : Gate) :
    (exitCode gate.report.findings gate.threshold.word = 1 ↔ gate.Closed) ∧
      (exitCode gate.report.findings gate.threshold.word = 0 ↔ ¬ gate.Closed) := by
  rw [closed_iff_reported, ← Report.shouldFail_iff, exitCode]
  split <;> simp_all

end Gate

/-! ### Runs that finish without complaint -/

/-- The exit code of a run that finishes without complaint. -/
def finishedCode? : Except ReviewFault Ending → Option Nat
  | .ok (.finished code _ complaint) => if complaint = "" then some code else none
  | _ => none

/-- A refusal is a complaint. -/
theorem finishedCode_refused (message : String) :
    finishedCode? (.ok (.refused message)) = none := by
  simp [finishedCode?, Ending.refused]

/-- A report that is delivered without complaint has the code for its findings and the word for
the threshold, in every format and at every destination. -/
theorem code_of_deliver {files : FileSystem} {output : Option NamedFile}
    {format : Option OutputFormat} {failOn : Option String} {report : Report} {code : Nat}
    (finished : finishedCode? (deliver files output format failOn report).1 = some code) :
    ∃ word, failOn = some word ∧ code = exitCode report.findings word := by
  unfold deliver at finished
  split at finished
  · cases finished
  · cases finished
  · rename_i word
    refine ⟨word, rfl, ?_⟩
    simp only at finished
    split at finished
    · exact (Option.some.inj finished).symm
    · cases finished
    · split at finished
      · exact (Option.some.inj finished).symm
      · cases finished

/-- All values were given exactly when none of them is lacking. -/
theorem mapM_id_eq_some_iff (values : List (Option String)) (given : List String) :
    values.mapM id = some given ↔ values = given.map some := by
  induction values generalizing given with
  | nil => cases given <;> simp
  | cons value values inductionHypothesis =>
    cases value with
    | none => cases given <;> simp
    | some text =>
      cases given with
      | nil => simp [Option.bind_eq_some_iff]
      | cons first others => simp [Option.bind_eq_some_iff, inductionHypothesis, and_comm]

/-- An analysis comes to the review of what it has read. -/
theorem result_run [Libraries] {world : World} {request : AnalysisRequest} {config : ReviewConfig}
    {input : Analysis.Input}
    (configured : (Analysis.loadConfig world.files request).result = .ok config)
    (loaded : (Analysis.loadInput world request).result = .ok input) :
    (Analysis.run world request).result = .ok (Analysis.review request config input) := by
  simp [Analysis.run, bind, Logged.bind, configured, loaded, Logged.note, pure, Logged.pure]

/-- An analysis that comes to something has read a configuration and an input. -/
theorem read_of_run [Libraries] {world : World} {request : AnalysisRequest} {analysis : Analysis}
    (done : (Analysis.run world request).result = .ok analysis) :
    ∃ config input, (Analysis.loadConfig world.files request).result = .ok config ∧
      (Analysis.loadInput world request).result = .ok input := by
  obtain ⟨config, configured, rest⟩ := Logged.ok_of_bind done
  obtain ⟨_, _, rest⟩ := Logged.ok_of_bind rest
  obtain ⟨input, loaded, _⟩ := Logged.ok_of_bind rest
  exact ⟨config, input, configured, loaded⟩

/-- A request has the filters that it is made with. -/
theorem filters_of_request {options : AnalyzeOptions} {files : FileSystem} {now : Moment}
    {filters : EngineConfig} {request : AnalysisRequest}
    (made : options.request files now filters = .ok request) : request.filters = filters := by
  obtain ⟨path, _, rest⟩ := ok_of_bind made
  obtain ⟨plan, _, same⟩ := ok_of_bind rest
  obtain rfl := Except.ok.inj same
  rfl

namespace Gate.ReadBy

variable [Libraries] {gate : Gate} {world : World} {now : Moment} {options : AnalyzeOptions}

/-- The run ends with the delivery of the report of the gate that it reads. -/
theorem ending (read : gate.ReadBy world now options) :
    (runAnalyze world now options).ending =
      (deliver world.files options.output options.format (some gate.threshold.word)
        gate.report).1 := by
  obtain ⟨pillars, rules, exclude, pillarsGiven, rulesGiven, excludeGiven, named⟩ := read.filters
  rw [← mapM_id_eq_some_iff] at pillarsGiven rulesGiven excludeGiven
  simp only [runAnalyze, pillarsGiven, rulesGiven, excludeGiven, named, runFiltered, read.request,
    result_run read.config read.input, read.threshold, report]

/-- The code of a run that finishes is the one for the gate that it reads. -/
theorem code (read : gate.ReadBy world now options) {code : Nat}
    (finished : finishedCode? (runAnalyze world now options).ending = some code) :
    code = exitCode gate.report.findings gate.threshold.word := by
  rw [read.ending] at finished
  obtain ⟨word, same, coded⟩ := code_of_deliver finished
  rw [coded, Option.some.inj same]

/-- The format and the destination of a report have no part in what is read. -/
theorem deliverElsewhere (read : gate.ReadBy world now options) (format : Option OutputFormat)
    (output : Option NamedFile) :
    gate.ReadBy world now { options with format := format, output := output } :=
  ⟨read.filters, read.request, read.config, read.input, read.threshold⟩

end Gate.ReadBy

/-- A run that finishes has read a gate, if its threshold is one that there is a word for. -/
theorem exists_readBy [Libraries] {world : World} {now : Moment} {options : AnalyzeOptions}
    {code : Nat}
    (finished : finishedCode? (runAnalyze world now options).ending = some code)
    (worded : ∀ word, options.failOn = some word → ∃ threshold : Threshold, threshold.word = word) :
    ∃ gate : Gate, gate.ReadBy world now options := by
  unfold runAnalyze at finished
  split at finished
  · rename_i pillars rules exclude pillarsGiven rulesGiven excludeGiven
    rw [mapM_id_eq_some_iff] at pillarsGiven rulesGiven excludeGiven
    split at finished
    -- a filter that names nothing is refused
    · simp [finishedCode_refused] at finished
    · rename_i filters named
      unfold runFiltered at finished
      split at finished
      · cases finished
      · rename_i request made
        simp only at finished
        split at finished
        -- a fault of the analysis is refused or breaks off
        · split at finished
          · simp [finishedCode_refused] at finished
          · cases finished
        · rename_i analysis done
          obtain ⟨config, input, configured, loaded⟩ := read_of_run done
          obtain ⟨word, given, _⟩ := code_of_deliver finished
          obtain ⟨threshold, rfl⟩ := worded word given
          obtain rfl := filters_of_request made
          exact ⟨⟨request, config, input, threshold⟩,
            ⟨pillars, rules, exclude, pillarsGiven, rulesGiven, excludeGiven, named⟩, made,
            configured, loaded, given⟩
  -- a filter without a value breaks off
  · cases finished

/-! ### Runs of the program -/

/-- Arguments name a threshold when the value for it is the word for the threshold in any case.
The value is the last one that was given to the analysis, or the word for any finding if none
was. -/
def NameThreshold (arguments : List String) (threshold : Threshold) : Prop :=
  ∃ outer words reading value, reviewForm.read arguments = .ok outer ∧
    outer.command = "analyze" :: words ∧ analyzeForm.read words = .ok reading ∧
    (reading.last? "--fail-on").getD (some Report.failOnAny) = some value ∧
    Text.lower value = threshold.word

/-- Arguments that ask for an analysis have been read as those of one. -/
theorem reading_of_asked {arguments : List String} {level : Option LogLevel}
    {options : AnalyzeOptions}
    (asked : ReviewInvocation.ofArguments arguments = .ok ⟨level, .analyze options⟩) :
    ∃ outer words reading, reviewForm.read arguments = .ok outer ∧
      outer.command = "analyze" :: words ∧ analyzeForm.read words = .ok reading ∧
      options = AnalyzeOptions.ofReading reading := by
  obtain ⟨outer, outerRead, rest⟩ := ok_of_bind asked
  simp only at rest
  split at rest
  · obtain ⟨_, overview, same⟩ := ok_of_bind rest
    obtain rfl := Except.ok.inj overview
    split at same <;> cases same
  · rename_i name words started
    obtain ⟨⟨command, hasSurplus⟩, chosen, same⟩ := ok_of_bind rest
    simp only at same
    split at same
    · cases same
    · obtain ⟨_, rfl⟩ := ReviewInvocation.mk.inj (Except.ok.inj same)
      unfold readCommand at chosen
      split at chosen
      · rename_i analyzes
        obtain ⟨reading, read, made⟩ := ok_of_bind chosen
        obtain ⟨equal, _⟩ := Prod.mk.inj (Except.ok.inj made)
        exact ⟨outer, words, reading, outerRead, analyzes ▸ started, read,
          (ReviewCommand.analyze.inj equal).symm⟩
      · split at chosen
        · obtain ⟨reading, _, made⟩ := ok_of_bind chosen
          cases (Prod.mk.inj (Except.ok.inj made)).1
        · cases chosen

/-- A value for the threshold that an analysis accepts is the word for one, case aside. -/
theorem threshold_of_reading {words : List String} {reading : Reading}
    (read : analyzeForm.read words = .ok reading) {value : String}
    (given : (reading.last? "--fail-on").getD (some Report.failOnAny) = some value) :
    ∃ threshold : Threshold, threshold.word = Text.lower value := by
  cases last : reading.last? "--fail-on" with
  | none =>
    obtain rfl : Report.failOnAny = value := by simpa [last] using given
    exact ⟨.any, rfl⟩
  | some text? =>
    obtain rfl : text? = some value := by simpa [last] using given
    obtain ⟨form, listed, named, accepts⟩ := (Form.read_accepted read).last last
    -- only one of the ten options of an analysis has the name
    have asked : Report.thresholds.contains (Text.lower value) = true := by
      simp only [analyzeForm, List.mem_cons, List.not_mem_nil, or_false] at listed
      rcases listed with rfl | rfl | rfl | rfl | rfl | rfl | rfl | rfl | rfl | rfl
      all_goals first | exact absurd named (by decide) | exact accepts
    exact (Threshold.mem_thresholds_iff _).mp (List.contains_iff_mem.mp asked)

/-- A run that raises no error: its arguments ask for an analysis with options, and it finishes
with a code and without complaint. -/
structure Concludes [Libraries] (world : World) (now : Moment) (arguments : List String)
    (options : AnalyzeOptions) (code : Nat) : Prop where
  asked : ∃ level, ReviewInvocation.ofArguments arguments = .ok ⟨some level, .analyze options⟩
  finished : finishedCode? (runReview world now arguments).ending = some code

namespace Concludes

variable [Libraries] {world : World} {now : Moment} {arguments : List String}
  {options : AnalyzeOptions}
  {code : Nat}

/-- The analysis in a run that raises no error finishes with the code of the run. -/
theorem analyze (run : Concludes world now arguments options code) :
    finishedCode? (runAnalyze world now options).ending = some code := by
  obtain ⟨level, asked⟩ := run.asked
  simpa [runReview, asked, runCommand] using run.finished

/-- A run that raises no error has read a gate with a threshold that its arguments name. -/
theorem exists_gate (run : Concludes world now arguments options code) :
    ∃ gate : Gate, gate.ReadBy world now options ∧ NameThreshold arguments gate.threshold := by
  obtain ⟨level, asked⟩ := run.asked
  obtain ⟨outer, words, reading, outerRead, started, read, rfl⟩ := reading_of_asked asked
  have worded (word : String) (given : (AnalyzeOptions.ofReading reading).failOn = some word) :
      ∃ threshold : Threshold, threshold.word = word := by
    obtain ⟨value, last, rfl⟩ := Option.map_eq_some_iff.mp given
    exact threshold_of_reading read last
  obtain ⟨gate, gateRead⟩ := exists_readBy run.analyze worded
  obtain ⟨value, last, spelled⟩ := Option.map_eq_some_iff.mp gateRead.threshold
  exact ⟨gate, gateRead, outer, words, reading, value, outerRead, started, read, last, spelled⟩

/-- The code of a run is one when the gate that it reads is closed, and zero when it is open. -/
theorem code_iff (run : Concludes world now arguments options code) {gate : Gate}
    (read : gate.ReadBy world now options) :
    (code = 1 ↔ gate.Closed) ∧ (code = 0 ↔ ¬ gate.Closed) := by
  rw [read.code run.analyze]
  exact gate.exitCode_iff

end Concludes

/-- The exit code of an analysis hangs on its unsuppressed findings. A run that raises no error
has read a gate; its code is one when the gate is closed and zero when it is open, and the gate
is closed just when there is a finding in the report and the threshold is the one for any
finding or is reached by the highest severity of the report. The code is the same in every
format and at every destination. It does not turn from zero to one in a run that reads further
exclusions, further entries or a higher threshold for the same entities. -/
theorem unsuppressed_findings_decide [Libraries] {world : World} {now : Moment}
    {arguments : List String}
    {options : AnalyzeOptions} {code : Nat}
    (run : Concludes world now arguments options code) :
    (∃ gate : Gate, gate.ReadBy world now options ∧ NameThreshold arguments gate.threshold) ∧
    (∀ gate : Gate, gate.ReadBy world now options →
      (code = 1 ↔ ∃ finding, gate.Blocks finding) ∧
      (code = 0 ↔ ¬ ∃ finding, gate.Blocks finding) ∧
      (code = 1 ↔ gate.report.findings ≠ [] ∧ (gate.threshold = .any ∨
        ∃ highest, gate.report.highestSeverity = some highest ∧
          gate.threshold.Reached highest))) ∧
    (∀ format output otherArguments otherCode,
      Concludes world now otherArguments { options with format := format, output := output }
        otherCode → otherCode = code) ∧
    ∀ otherWorld later otherArguments otherOptions otherCode,
      Concludes otherWorld later otherArguments otherOptions otherCode →
      ∀ gate other : Gate, gate.ReadBy world now options →
        other.ReadBy otherWorld later otherOptions → gate.Eases other →
        code = 0 → otherCode = 0 := by
  refine ⟨run.exists_gate, ?decided, ?elsewhere, ?eased⟩
  case decided =>
    intro gate read
    obtain ⟨closed, passed⟩ := run.code_iff read
    exact ⟨closed, passed, closed.trans gate.closed_iff_highest⟩
  case elsewhere =>
    intro format output otherArguments otherCode other
    obtain ⟨gate, read, _⟩ := run.exists_gate
    rw [read.code run.analyze, (read.deliverElsewhere format output).code other.analyze]
  case eased =>
    intro otherWorld later otherArguments otherOptions otherCode other gate otherGate read
      otherRead eases passed
    have isOpen : ¬ gate.Closed := (run.code_iff read).2.mp passed
    exact (other.code_iff otherRead).2.mpr fun closed => isOpen (eases.closed closed)

/-! ### A plan with one key -/

/-- A directory with an exported plan, whose only resource is a key that is not rotated. -/
def keyWorld : World where
  files := ⟨.directory [("plan.json", .file (Text.encodeUtf8 (
    "\x7b\"planned_values\":\x7b\"root_module\":\x7b\"resources\":["
      ++ "\x7b\"address\":\"aws_kms_key.k\",\"type\":\"aws_kms_key\",\"name\":\"k\"\x7d"
      ++ "]\x7d\x7d\x7d")))], []⟩
  environment := []
  run _ := .notFound

/-- The moment at which the plan is looked at. -/
def keyMoment : Moment := .midnight ⟨2026, 6, 1, by decide⟩

/-- The options of an analysis of the plan. -/
def keyOptions (format : OutputFormat) (exclude : List String) (threshold : Threshold) :
    AnalyzeOptions where
  path := .ofText "plan.json"
  planFile := none
  tool := .named "terraform"
  format := some format
  output := none
  minSeverity := none
  pillars := []
  rules := []
  exclude := exclude.map some
  failOn := some threshold.word
  configFile := some (.ofText ReviewConfig.defaultFile)

/-- The gate that an analysis of the plan reads. -/
def keyGate (exclude : List String) (threshold : Threshold) : Gate where
  request := {
    path := .ofText "/plan.json"
    filters := { excludeIds := exclude }
    configFile := some (.ofText ReviewConfig.defaultFile)
    now := keyMoment }
  config := .empty
  input := ⟨.plan, [⟨"aws_kms_key", "k", [], [], some "aws_kms_key.k", "managed", "tfplan", 0⟩], []⟩
  threshold := threshold

set_option maxRecDepth 20000 in
/-- The plan has the entity of the gate. -/
theorem keyInput_loaded :
    (Analysis.loadInput keyWorld (keyGate [] .any).request).result =
      .ok (keyGate [] .any).input := by
  rfl

/-- The gate is read whatever the threshold, with exclusions that the options spell. -/
theorem keyGate_readBy (format : OutputFormat) {exclude : List String}
    (spelled : EngineConfig.ofOptions none [] [] (splitValues exclude) =
      .ok { excludeIds := exclude }) (threshold : Threshold) :
    (keyGate exclude threshold).ReadBy keyWorld keyMoment
      (keyOptions format exclude threshold) where
  filters := ⟨[], [], exclude, rfl, rfl, rfl, spelled⟩
  request := rfl
  config := rfl
  input := keyInput_loaded
  threshold := rfl

/-- A run over the plan raises no error. -/
abbrev KeyRun (arguments : List String) : AnalyzeOptions → Nat → Prop :=
  Concludes keyWorld keyMoment ("analyze" :: "plan.json" :: arguments)

/-- The finding about the key is of high severity. It closes the gate at that threshold and not
at a higher one, where the code has to be zero in another format as well, and with an exclusion
and no threshold at all. -/
theorem key_plan_decided :
    (KeyRun ["--fail-on", "High"] (keyOptions .table [] (.level .high)) 1 ∧
      ∃ finding, (keyGate [] (.level .high)).Blocks finding) ∧
    (KeyRun ["--fail-on", "CRITICAL"] (keyOptions .table [] (.level .critical)) 0 ∧
      ¬ ∃ finding, (keyGate [] (.level .critical)).Blocks finding) ∧
    (KeyRun ["--fail-on", "critical", "--format", "json"]
        (keyOptions .json [] (.level .critical)) 0 ∧
      ∀ arguments code, KeyRun arguments (keyOptions .json [] (.level .critical)) code →
        code = 0) ∧
    KeyRun ["--fail-on", "None", "--exclude", "VPC-001"] (keyOptions .table ["VPC-001"] .none) 0 ∧
      ∀ arguments code, KeyRun arguments (keyOptions .table ["VPC-001"] .none) code →
        code = 0 := by
  have closed : KeyRun ["--fail-on", "High"] (keyOptions .table [] (.level .high)) 1 :=
    ⟨⟨.warning, by decide +kernel⟩, by decide +kernel⟩
  have passed : KeyRun ["--fail-on", "CRITICAL"] (keyOptions .table [] (.level .critical)) 0 :=
    ⟨⟨.warning, by decide +kernel⟩, by decide +kernel⟩
  have other : KeyRun ["--fail-on", "critical", "--format", "json"]
      (keyOptions .json [] (.level .critical)) 0 :=
    ⟨⟨.warning, by decide +kernel⟩, by decide +kernel⟩
  have excluding : KeyRun ["--fail-on", "None", "--exclude", "VPC-001"]
      (keyOptions .table ["VPC-001"] .none) 0 :=
    ⟨⟨.warning, by decide +kernel⟩, by decide +kernel⟩
  obtain ⟨_, decided, elsewhere, eased⟩ := unsuppressed_findings_decide passed
  have read : (keyGate [] (.level .critical)).ReadBy _ _ _ := keyGate_readBy .table rfl _
  have excludingRead : (keyGate ["VPC-001"] .none).ReadBy _ _ _ := keyGate_readBy .table rfl _
  have eases : (keyGate [] (.level .critical)).Eases (keyGate ["VPC-001"] .none) :=
    ⟨rfl, rfl, List.nil_subset _, List.Subset.refl _, by decide⟩
  refine ⟨⟨closed, ?_⟩, ⟨passed, (decided _ read).2.1.mp rfl⟩, ⟨other, ?_⟩, excluding, ?_⟩
  · have closedRead : (keyGate [] (.level .high)).ReadBy _ _ _ := keyGate_readBy .table rfl _
    exact ((unsuppressed_findings_decide closed).2.1 _ closedRead).1.mp rfl
  · exact fun arguments code run => elsewhere _ _ _ code run
  · exact fun arguments code run => eased _ _ _ _ code run _ _ read excludingRead eases rfl

end InfraReview.CommandLine
