import InfraReview.Proofs.CommandLine.Configuration
import InfraReview.Proofs.CommandLine.Gate

/-!
# Refusals in order

Several things can be wrong with an analysis at once: a filter names nothing, the suppression file
is rejected, the input is rejected. The run is refused on account of the first of them, whatever
there is to say about the others, and a run that is refused leaves no file behind.

Two things come between the filters and the suppression file and break the run off instead. They
are an option that was left without its value and a path that cannot be followed.
-/

namespace InfraReview

/-! ### Filters that name nothing -/

namespace EngineConfig

/-- The reading of pillars fails on the first text that names none. -/
theorem readPillars_error_iff (texts : List String) (fault : OptionFault) :
    readPillars texts = .error fault ↔
      ∃ text, texts.find? (fun text => (Pillar.parse? text).isNone) = some text ∧
        fault = .unknownPillar text := by
  induction texts with
  | nil => simp [readPillars]
  | cons first texts inductionHypothesis =>
    rw [readPillars]
    cases named : Pillar.parse? first with
    | none => simp [named, eq_comm]
    | some pillar =>
      have failed : (readPillars texts).map (pillar :: ·) = .error fault ↔
          readPillars texts = .error fault := by
        cases readPillars texts <;> simp [Except.map]
      simp only [failed, inductionHypothesis, List.find?_cons, named, Option.isNone_some]

end EngineConfig

namespace CommandLine

/-- Items of values are not empty. -/
theorem splitValues_filled (values : List String) :
    (splitValues values).filter (!·.isEmpty) = splitValues values := by
  simp [splitValues, List.filter_filter]

/-- Values of which none is lacking are those that were given. -/
theorem mapM_id_of_given {values : List (Option String)} (given : none ∉ values) :
    values.mapM id = some (values.filterMap id) := by
  rw [mapM_id_eq_some_iff]
  induction values with
  | nil => rfl
  | cons value values inductionHypothesis =>
    cases value with
    | none => exact absurd List.mem_cons_self given
    | some text =>
      rw [List.filterMap_cons_some (by rfl), List.map_cons,
        ← inductionHypothesis fun member => given (List.mem_cons_of_mem _ member)]

/-- Values of which one is lacking are not all given. -/
theorem mapM_id_of_lacking {values : List (Option String)} (lacking : none ∈ values) :
    values.mapM id = none := by
  cases found : values.mapM id with
  | none => rfl
  | some given =>
    rw [(mapM_id_eq_some_iff values given).mp found] at lacking
    simp at lacking

namespace AnalyzeOptions

/-- The filters of options were given with values. -/
structure Valued (options : AnalyzeOptions) : Prop where
  pillars : none ∉ options.pillars
  rules : none ∉ options.rules
  exclude : none ∉ options.exclude

/-- The texts with which options name pillars. -/
def pillarNames (options : AnalyzeOptions) : List String :=
  splitValues (options.pillars.filterMap id)

/-- A text is the severity that options name, and there is none with that name. An empty text
counts as none at all. -/
structure SeverityUnknown (options : AnalyzeOptions) (text : String) : Prop where
  given : options.minSeverity = some text
  filled : text ≠ ""
  unknown : Severity.parse? text = none

/-- A text is the first one in options that names no pillar. -/
def PillarUnknown (options : AnalyzeOptions) (text : String) : Prop :=
  options.pillarNames.find? (fun text => (Pillar.parse? text).isNone) = some text

/-- The filter that is to blame for it that options name something unknown. A severity goes before
all pillars, and a pillar before those that follow it. -/
inductive Misnamed (options : AnalyzeOptions) : OptionFault → Prop where
  | severity {text : String} (unknown : options.SeverityUnknown text) :
      Misnamed options (.unknownSeverity text)
  | pillar {text : String} (severityKnown : ∀ other, ¬ options.SeverityUnknown other)
      (unknown : options.PillarUnknown text) : Misnamed options (.unknownPillar text)

/-- Some filter of options names nothing. -/
def NamesUnknown (options : AnalyzeOptions) : Prop :=
  (∃ text, options.SeverityUnknown text) ∨
    ∃ text ∈ options.pillarNames, Pillar.parse? text = none

/-- The paths of options can be followed. -/
structure Sound (options : AnalyzeOptions) : Prop where
  path : options.path.isSound = true
  planFile : ∀ plan, options.planFile = some plan → plan.isSound = true

/-- The filters that options describe. -/
def filters (options : AnalyzeOptions) : Except OptionFault EngineConfig :=
  EngineConfig.ofOptions options.minSeverity options.pillarNames
    (splitValues (options.rules.filterMap id)) (splitValues (options.exclude.filterMap id))

/-- There is a filter to blame when some filter names nothing. -/
theorem exists_misnamed_iff (options : AnalyzeOptions) :
    (∃ fault, options.Misnamed fault) ↔ options.NamesUnknown := by
  have first : (∃ text, options.PillarUnknown text) ↔
      ∃ text ∈ options.pillarNames, Pillar.parse? text = none := by
    simp only [PillarUnknown, ← Option.isSome_iff_exists, List.find?_isSome,
      Option.isNone_iff_eq_none]
  constructor
  · rintro ⟨_, severity | ⟨_, unknown⟩⟩
    · exact .inl ⟨_, severity⟩
    · exact .inr (first.mp ⟨_, unknown⟩)
  · intro unknown
    by_cases severity : ∃ text, options.SeverityUnknown text
    · obtain ⟨text, severity⟩ := severity
      exact ⟨_, .severity severity⟩
    · obtain ⟨text, pillar⟩ := first.mpr (unknown.resolve_left severity)
      exact ⟨_, .pillar (not_exists.mp severity) pillar⟩

/-- A severity is looked at when it is given and not empty. -/
theorem severityUnknown_iff (options : AnalyzeOptions) (text : String) :
    options.SeverityUnknown text ↔
      options.minSeverity.filter (!·.isEmpty) = some text ∧ Severity.parse? text = none := by
  simp only [Option.filter_eq_some_iff, Bool.not_eq_true', String.isEmpty_eq_false_iff]
  constructor
  · rintro ⟨given, filled, unknown⟩
    exact ⟨⟨given, filled⟩, unknown⟩
  · rintro ⟨⟨given, filled⟩, unknown⟩
    exact ⟨given, filled, unknown⟩

/-- Options describe no filters on account of the one that is to blame. -/
theorem filters_error_iff (options : AnalyzeOptions) (fault : OptionFault) :
    options.filters = .error fault ↔ options.Misnamed fault := by
  have pillars : failure? (EngineConfig.readPillars options.pillarNames) = some fault ↔
      ∃ text, options.PillarUnknown text ∧ fault = .unknownPillar text := by
    rw [failure?_eq_some_iff, EngineConfig.readPillars_error_iff]
    rfl
  have misnamed (severityKnown : ∀ text, ¬ options.SeverityUnknown text) :
      (∃ text, options.PillarUnknown text ∧ fault = .unknownPillar text) ↔
        options.Misnamed fault := by
    constructor
    · rintro ⟨text, unknown, rfl⟩
      exact .pillar severityKnown unknown
    · rintro (severity | ⟨_, unknown⟩)
      · exact absurd severity (severityKnown _)
      · exact ⟨_, unknown, rfl⟩
  rw [← failure?_eq_some_iff]
  unfold filters EngineConfig.ofOptions
  rw [pillarNames, splitValues_filled, ← pillarNames]
  cases chosen : options.minSeverity.filter (!·.isEmpty) with
  | none =>
    have severityKnown (text : String) : ¬ options.SeverityUnknown text := by
      simp [severityUnknown_iff, chosen]
    change failure? (EngineConfig.readPillars options.pillarNames >>= _) = _ ↔ _
    rw [failure?_bind_sound _ fun named => rfl]
    exact pillars.trans (misnamed severityKnown)
  | some text =>
    dsimp only
    cases named : Severity.parse? text with
    | none =>
      have unknown : options.SeverityUnknown text :=
        (severityUnknown_iff options text).mpr ⟨chosen, named⟩
      change some (OptionFault.unknownSeverity text) = some fault ↔ _
      constructor
      · rintro ⟨⟩
        exact .severity unknown
      · rintro (⟨given, _, _⟩ | ⟨severityKnown, _⟩)
        · obtain rfl := Option.some.inj (given.symm.trans unknown.given)
          rfl
        · exact absurd unknown (severityKnown text)
    | some severity =>
      have severityKnown (other : String) : ¬ options.SeverityUnknown other := by
        rw [severityUnknown_iff, chosen]
        rintro ⟨equal, unknown⟩
        obtain rfl := Option.some.inj equal
        simp [named] at unknown
      change failure? (EngineConfig.readPillars options.pillarNames >>= _) = _ ↔ _
      rw [failure?_bind_sound _ fun named => rfl]
      exact pillars.trans (misnamed severityKnown)

/-- Options describe filters when none of them names nothing. -/
theorem exists_filters {options : AnalyzeOptions} (known : ¬ options.NamesUnknown) :
    ∃ filters, options.filters = .ok filters := by
  refine ok_of_not_fails ?_
  rintro ⟨fault, failed⟩
  have misnamed := (options.filters_error_iff fault).mp failed
  exact known (options.exists_misnamed_iff.mp ⟨fault, misnamed⟩)

/-- Paths that can be followed make a request. -/
theorem request_of_sound {options : AnalyzeOptions} (sound : options.Sound) (files : FileSystem)
    (now : Moment) (filters : EngineConfig) :
    ∃ request, options.request files now filters = .ok request := by
  have resolved (path : FilePath) (followed : path.isSound = true) :
      files.resolve path = .ok (path.resolve files.directory) := if_pos followed
  have plan : ∃ plan, options.planFile.mapM files.resolve = .ok plan := by
    cases named : options.planFile with
    | none => exact ⟨none, rfl⟩
    | some path =>
      refine ⟨some (path.resolve files.directory), ?_⟩
      change some <$> files.resolve path = _
      rw [resolved path (sound.planFile path named)]
      rfl
  obtain ⟨plan, planResolved⟩ := plan
  refine ⟨⟨options.path.resolve files.directory, plan, filters, options.configFile, options.tool,
    now⟩, ?_⟩
  rw [request, resolved _ sound.path, planResolved]
  rfl

/-- A path that cannot be followed makes no request. -/
theorem request_of_unsound {options : AnalyzeOptions} (unsound : ¬ options.Sound)
    (files : FileSystem) (now : Moment) (filters : EngineConfig) :
    options.request files now filters = .error .unsound := by
  by_cases first : options.path.isSound = true
  · cases plan : options.planFile with
    | none => exact absurd ⟨first, by simp [plan]⟩ unsound
    | some path =>
      have second : ¬ path.isSound = true := fun followed =>
        unsound ⟨first, fun other named => Option.some.inj (plan.symm.trans named) ▸ followed⟩
      simp [request, FileSystem.resolve, first, second, plan, bind, Except.bind, Functor.map,
        Except.map]
  · simp [request, FileSystem.resolve, first, bind, Except.bind]

end AnalyzeOptions

/-! ### Runs that come to nothing -/

/-- A run is refused with a message: its exit code is two, it prints nothing but the complaint, and
the files are as they were before. -/
structure Refused (run : Run ReviewFault) (before : FileSystem) (message : String) : Prop where
  ending : run.ending = .ok (.finished 2 "" ("Error: " ++ message ++ "\n"))
  files : run.files = before

/-- A run breaks off with a fault, and the files are as they were before. -/
structure BrokenOff (run : Run ReviewFault) (before : FileSystem) (fault : ReviewFault) :
    Prop where
  ending : run.ending = .error fault
  files : run.files = before

/-- A run answers to a fault of its analysis: it is refused when the fault is put down to the
configuration or the input, and breaks off otherwise. -/
structure AnswersTo (run : Run ReviewFault) (before : FileSystem) (fault : Analysis.Fault) :
    Prop where
  rejection : fault.isRejection = true → Refused run before fault.message
  other : fault.isRejection = false → BrokenOff run before (.analysis fault)

/-- What is logged has no part in a refusal. -/
theorem Refused.withLog {run : Run ReviewFault} {before : FileSystem} {message : String}
    (refused : Refused run before message) (log : List LogEntry) :
    Refused { run with log := log } before message :=
  ⟨refused.ending, refused.files⟩

/-- What is logged has no part in how a run breaks off. -/
theorem BrokenOff.withLog {run : Run ReviewFault} {before : FileSystem} {fault : ReviewFault}
    (broken : BrokenOff run before fault) (log : List LogEntry) :
    BrokenOff { run with log := log } before fault :=
  ⟨broken.ending, broken.files⟩

/-- What is logged has no part in how a run answers to a fault. -/
theorem AnswersTo.withLog {run : Run ReviewFault} {before : FileSystem} {fault : Analysis.Fault}
    (answers : AnswersTo run before fault) (log : List LogEntry) :
    AnswersTo { run with log := log } before fault :=
  ⟨fun rejected => (answers.rejection rejected).withLog log,
    fun accepted => (answers.other accepted).withLog log⟩

/-- The input that a request names does not depend on its filters. -/
theorem loadInput_filters [Libraries] (world : World) (request : AnalysisRequest)
    (filters : EngineConfig) :
    Analysis.loadInput world { request with filters := filters } =
      Analysis.loadInput world request := by
  rfl

namespace AnalyzeOptions

/-- The suppression file of options, if they name one, gives a configuration. -/
def Configured [Libraries] (options : AnalyzeOptions) (files : FileSystem) : Prop :=
  ∀ path, options.configFile = some path →
    ∃ config, (ReviewConfig.load files path).result = .ok config

/-- A request is the one without filters, and then with them. -/
theorem request_eq_map (options : AnalyzeOptions) (files : FileSystem) (now : Moment)
    (filters : EngineConfig) :
    options.request files now filters =
      (options.request files now {}).map fun request => { request with filters := filters } := by
  unfold request
  cases files.resolve options.path with
  | error fault => rfl
  | ok path => cases options.planFile.mapM files.resolve <;> rfl

variable [Libraries] {options : AnalyzeOptions} {world : World} {now : Moment}
  {request : AnalysisRequest}

/-- The run of an analysis whose filters have values hangs on what they describe. -/
theorem Valued.runAnalyze (valued : options.Valued) (world : World) (now : Moment) :
    runAnalyze world now options =
      match options.filters with
      | .error fault => ⟨.ok (.refused fault.message), world.files, []⟩
      | .ok filters => runFiltered world now options filters := by
  rw [CommandLine.runAnalyze, mapM_id_of_given valued.pillars, mapM_id_of_given valued.rules,
    mapM_id_of_given valued.exclude]
  rfl

/-- The run of an analysis breaks off when one of its filters has no value. -/
theorem runAnalyze_of_not_valued (lacking : ¬ options.Valued) (world : World) (now : Moment) :
    runAnalyze world now options = ⟨.error (.noValue .filter), world.files, []⟩ := by
  unfold CommandLine.runAnalyze
  split
  · rename_i pillars rules exclude
    refine absurd ⟨?_, ?_, ?_⟩ lacking <;> intro member
    · simp [mapM_id_of_lacking member] at pillars
    · simp [mapM_id_of_lacking member] at rules
    · simp [mapM_id_of_lacking member] at exclude
  · rfl

/-- The run of a request answers to the fault of its analysis. -/
theorem answersTo_of_run {filters : EngineConfig} {fault : Analysis.Fault}
    (made : options.request world.files now filters = .ok request)
    (failed : (Analysis.run world request).result = .error fault) :
    AnswersTo (runFiltered world now options filters) world.files fault := by
  constructor
  · intro rejected
    simp only [runFiltered, made, failed, rejected, if_true]
    exact ⟨rfl, rfl⟩
  · intro accepted
    simp only [runFiltered, made, failed, accepted]
    exact ⟨rfl, rfl⟩

/-- An analysis under a suppression file that gives a configuration, or under none, fails as the
loading of its input does. -/
theorem Configured.run_error {fault : Analysis.Fault} (configured : options.Configured world.files)
    (named : request.configFile = options.configFile)
    (failed : (Analysis.loadInput world request).result = .error fault) :
    (Analysis.run world request).result = .error fault := by
  obtain ⟨config, loaded⟩ :
      ∃ config, (Analysis.loadConfig world.files request).result = .ok config := by
    rw [Analysis.loadConfig, named]
    cases file : options.configFile with
    | none => exact ⟨_, rfl⟩
    | some path =>
      obtain ⟨config, loaded⟩ := configured path file
      exact ⟨config, by simp only [Logged.mapFault, loaded]; rfl⟩
  simp only [Analysis.run, Logged.result_bind, loaded, Logged.note, failed]
  rfl

/-- The run of an analysis answers to the fault of its suppression file, whatever its input is. -/
theorem answersTo_config {path : FilePath} {filters : EngineConfig} {fault : ReviewConfig.Fault}
    (sound : options.Sound) (file : options.configFile = some path)
    (failed : (ReviewConfig.load world.files path).result = .error fault) :
    AnswersTo (runFiltered world now options filters) world.files (.config fault) := by
  obtain ⟨request, made⟩ := request_of_sound sound world.files now filters
  exact answersTo_of_run made (run_of_load_error ((configFile_of_request made).trans file) failed)

/-- The run of an analysis with a configuration answers to the fault of its input. -/
theorem Configured.answersTo {filters : EngineConfig} {fault : Analysis.Fault}
    (configured : options.Configured world.files)
    (made : options.request world.files now {} = .ok request)
    (failed : (Analysis.loadInput world request).result = .error fault) :
    AnswersTo (runFiltered world now options filters) world.files fault := by
  have filtered : options.request world.files now filters =
      .ok { request with filters := filters } := by
    rw [request_eq_map, made]
    rfl
  rw [← loadInput_filters world request filters] at failed
  exact answersTo_of_run filtered (configured.run_error (configFile_of_request filtered) failed)

end AnalyzeOptions

/-- A run that is asked for an analysis is the run of the analysis, the log apart. -/
theorem runReview_of_asked [Libraries] {arguments : List String} {level : LogLevel}
    {options : AnalyzeOptions}
    (asked : ReviewInvocation.ofArguments arguments = .ok ⟨some level, .analyze options⟩)
    (world : World) (now : Moment) :
    runReview world now arguments =
      { runAnalyze world now options with
        log := LogEntry.fromLevel level (runAnalyze world now options).log } := by
  simp only [runReview, asked, runCommand]

/-- The refusals of an analysis come in an order. Whatever the suppression file and the input are,
the run is refused on account of the first filter that names nothing. If all of them name something,
then whatever the input is, the run answers to the fault of the suppression file, and if that gives
a configuration, to the fault of the input. A refusal has exit code two and no output, and no file
is made or changed by it, be it the one that the report was to be written to.

There are two exceptions. An option without its value breaks the run off before anything else, and
a path that cannot be followed does so before the suppression file is looked at. -/
theorem refused_in_order [Libraries] {arguments : List String} {level : Option LogLevel}
    {options : AnalyzeOptions}
    (asked : ReviewInvocation.ofArguments arguments = .ok ⟨level, .analyze options⟩)
    (world : World) (now : Moment) :
    let run := runReview world now arguments
    (level = none ∨ ¬ options.Valued → ∃ use, BrokenOff run world.files (.noValue use)) ∧
    (level ≠ none → options.Valued →
      (options.NamesUnknown →
        ∃ fault, options.Misnamed fault ∧ Refused run world.files fault.message) ∧
      (¬ options.NamesUnknown →
        (¬ options.Sound → BrokenOff run world.files (.access .unsound)) ∧
        (options.Sound →
          (∀ path fault, options.configFile = some path →
            (ReviewConfig.load world.files path).result = .error fault →
            AnswersTo run world.files (.config fault)) ∧
          (options.Configured world.files →
            ∃ request, options.request world.files now {} = .ok request ∧
              ∀ fault, (Analysis.loadInput world request).result = .error fault →
                AnswersTo run world.files fault)))) := by
  intro run
  constructor
  case left =>
    intro lacking
    cases level with
    | none =>
      refine ⟨.logLevel, ?_⟩
      simp only [run, runReview, asked]
      exact ⟨rfl, rfl⟩
    | some level =>
      have unvalued : ¬ options.Valued := lacking.resolve_left (by simp)
      refine ⟨.filter, ?_⟩
      rw [show run = _ from runReview_of_asked asked world now,
        AnalyzeOptions.runAnalyze_of_not_valued unvalued]
      exact ⟨rfl, rfl⟩
  case right =>
    intro leveled valued
    obtain ⟨level, rfl⟩ := Option.ne_none_iff_exists'.mp leveled
    rw [show run = _ from runReview_of_asked asked world now, valued.runAnalyze]
    constructor
    case left =>
      intro unknown
      obtain ⟨fault, misnamed⟩ := options.exists_misnamed_iff.mpr unknown
      rw [(options.filters_error_iff fault).mpr misnamed]
      exact ⟨fault, misnamed, rfl, rfl⟩
    case right =>
      intro known
      obtain ⟨filters, described⟩ := AnalyzeOptions.exists_filters known
      rw [described]
      refine ⟨?unsound, fun sound => ⟨?config, ?input⟩⟩
      case unsound =>
        intro unsound
        simp only [runFiltered, AnalyzeOptions.request_of_unsound unsound]
        exact ⟨rfl, rfl⟩
      case config =>
        intro path fault file failed
        exact (AnalyzeOptions.answersTo_config sound file failed).withLog _
      case input =>
        intro configured
        obtain ⟨request, made⟩ := AnalyzeOptions.request_of_sound sound world.files now {}
        exact ⟨request, made, fun fault failed => (configured.answersTo made failed).withLog _⟩

/-! ### An analysis with everything wrong -/

/-- The text of a list without its closing bracket. -/
def unclosedList : List UInt8 := Text.encodeUtf8 "suppressions: [unclosed\n"

/-- The options of an analysis of a path that leads nowhere, with the report to go to a file in a
directory that is missing. -/
def strayOptions (minSeverity : Option String) : AnalyzeOptions :=
  { plainOptions with
    path := .ofText "missing"
    output := some (.ofValue "out/report.txt")
    minSeverity := minSeverity }

/-- An unknown severity is reported before a malformed suppression file, and the file before a path
that leads nowhere. The directory of the report is not made. -/
theorem unknown_severity_reported_first :
    let stray := ["analyze", "missing", "--output", "out/report.txt"]
    let malformed := configWorld unclosedList
    let plain := configWorld []
    Refused (runReview malformed configMoment (stray ++ ["--min-severity", "SEVERE"]))
      malformed.files (Severity.unknownMessage "SEVERE") ∧
    Refused (runReview malformed configMoment stray) malformed.files
      (ReviewConfig.Fault.malformed (.ofText ReviewConfig.defaultFile)).message ∧
    Refused (runReview plain configMoment stray) plain.files "Input path not found: /missing" := by
  intro stray malformed plain
  have severeRead : ReviewInvocation.ofArguments (stray ++ ["--min-severity", "SEVERE"]) =
      .ok ⟨some .warning, .analyze (strayOptions (some "SEVERE"))⟩ := by
    rfl
  have strayRead : ReviewInvocation.ofArguments stray =
      .ok ⟨some .warning, .analyze (strayOptions none)⟩ := by
    rfl
  have valued (minSeverity : Option String) : (strayOptions minSeverity).Valued :=
    ⟨List.not_mem_nil, List.not_mem_nil, List.not_mem_nil⟩
  have sound : (strayOptions none).Sound := ⟨by decide, by simp [strayOptions, plainOptions]⟩
  have known : ¬ (strayOptions none).NamesUnknown := by
    rintro (⟨text, ⟨⟨⟩, _, _⟩⟩ | ⟨text, named, _⟩)
    cases named
  refine ⟨?severity, ?file, ?input⟩
  case severity =>
    have unknown : (strayOptions (some "SEVERE")).SeverityUnknown "SEVERE" :=
      ⟨rfl, by decide, by decide⟩
    obtain ⟨_, values⟩ := refused_in_order severeRead malformed configMoment
    obtain ⟨fault, misnamed, refused⟩ := (values (by simp) (valued _)).1 (.inl ⟨_, unknown⟩)
    cases misnamed with
    | severity other =>
      obtain rfl := Option.some.inj (unknown.given.symm.trans other.given)
      exact refused
    | pillar severityKnown _ => exact absurd unknown (severityKnown _)
  case file =>
    have failed : (ReviewConfig.load malformed.files (.ofText ReviewConfig.defaultFile)).result =
        .error (.malformed (.ofText ReviewConfig.defaultFile)) :=
      failure?_eq_some_iff.mp (by decide +kernel)
    obtain ⟨_, values⟩ := refused_in_order strayRead malformed configMoment
    obtain ⟨file, _⟩ := ((values (by simp) (valued _)).2 known).2 sound
    exact (file _ _ rfl failed).rejection rfl
  case input =>
    have configured : (strayOptions none).Configured plain.files := by
      rintro path ⟨⟩
      exact ⟨.empty, by rfl⟩
    obtain ⟨_, values⟩ := refused_in_order strayRead plain configMoment
    obtain ⟨_, input⟩ := ((values (by simp) (valued _)).2 known).2 sound
    obtain ⟨request, ⟨⟩, answers⟩ := input configured
    exact (answers (.noInput (.ofText "/missing")) (by rfl)).rejection rfl

/-- Runs that break off although there is something to report: with a path with the character zero,
the malformed suppression file is never looked at, and with an option whose value was dropped, the
unknown severity is not. -/
theorem breaks_off_unreported :
    let malformed := configWorld unclosedList
    let plain := configWorld []
    (ReviewConfig.load malformed.files (.ofText ReviewConfig.defaultFile)).result =
      .error (.malformed (.ofText ReviewConfig.defaultFile)) ∧
    (runReview malformed configMoment ["analyze", "a\x00b"]).ending =
      .error (.access .unsound) ∧
    Severity.parse? "SEVERE" = none ∧
    (runReview plain configMoment ["analyze", "--min-severity", "SEVERE", "--rule=--"]).ending =
      .error (.noValue .filter) := by
  intro malformed plain
  exact ⟨failure?_eq_some_iff.mp (by decide +kernel), by rfl, by decide, by rfl⟩

end CommandLine

end InfraReview
