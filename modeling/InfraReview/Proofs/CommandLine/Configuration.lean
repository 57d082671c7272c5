import InfraReview.CommandLine.Review
import InfraReview.Proofs.Config.Loading

/-!
# Answers to a suppression file

An analysis loads the suppression file before anything else, so a file that gives no configuration
decides about the end of the run. When the file is rejected, the run is refused with exit code two.
When the loading breaks off, so does the run.
-/

namespace InfraReview.CommandLine

/-- Arguments ask for an analysis under a suppression file: their filters name something, and their
paths can be followed. -/
inductive Consults (world : World) (now : Moment) (arguments : List String) (path : FilePath) :
    Prop where
  | analysis {level : LogLevel} {options : AnalyzeOptions} {pillars rules exclude : List String}
      {filters : EngineConfig} {request : AnalysisRequest}
      (asked : ReviewInvocation.ofArguments arguments = .ok ⟨some level, .analyze options⟩)
      (pillarsGiven : options.pillars.mapM id = some pillars)
      (rulesGiven : options.rules.mapM id = some rules)
      (excludeGiven : options.exclude.mapM id = some exclude)
      (named : EngineConfig.ofOptions options.minSeverity (splitValues pillars) (splitValues rules)
        (splitValues exclude) = .ok filters)
      (made : options.request world.files now filters = .ok request)
      (file : options.configFile = some path) : Consults world now arguments path

/-- The end of a run whose suppression file gives no configuration. -/
def configEnding (fault : ReviewConfig.Fault) : Except ReviewFault Ending :=
  if fault.isRejection then .ok (.refused fault.message) else .error (.analysis (.config fault))

/-- A request names the suppression file of the options that it is made from. -/
theorem configFile_of_request {options : AnalyzeOptions} {files : FileSystem} {now : Moment}
    {filters : EngineConfig} {request : AnalysisRequest}
    (made : options.request files now filters = .ok request) :
    request.configFile = options.configFile := by
  obtain ⟨path, _, rest⟩ := ok_of_bind made
  obtain ⟨plan, _, same⟩ := ok_of_bind rest
  obtain rfl := Except.ok.inj same
  rfl

/-- An analysis fails as the loading of its suppression file does. -/
theorem run_of_load_error [Libraries] {world : World} {request : AnalysisRequest} {path : FilePath}
    {fault : ReviewConfig.Fault} (named : request.configFile = some path)
    (failed : (ReviewConfig.load world.files path).result = .error fault) :
    (Analysis.run world request).result = .error (.config fault) := by
  have unloaded : (Analysis.loadConfig world.files request).result = .error (.config fault) := by
    rw [Analysis.loadConfig, named]
    simp only [Logged.mapFault, failed]
    rfl
  rw [Analysis.run, Logged.result_bind, unloaded]
  rfl

/-- A run ends as its suppression file decides that gives no configuration. -/
theorem ending_of_load_error [Libraries] {world : World} {now : Moment} {arguments : List String}
    {path : FilePath} {fault : ReviewConfig.Fault} (consults : Consults world now arguments path)
    (failed : (ReviewConfig.load world.files path).result = .error fault) :
    (runReview world now arguments).ending = configEnding fault := by
  obtain @⟨level, options, pillars, rules, exclude, filters, request, asked, pillarsGiven,
    rulesGiven, excludeGiven, named, made, file⟩ := consults
  have ended := run_of_load_error ((configFile_of_request made).trans file) failed
  have filtered : (runFiltered world now options filters).ending = configEnding fault := by
    have sort : (Analysis.Fault.config fault).isRejection = fault.isRejection := rfl
    have message : (Analysis.Fault.config fault).message = fault.message := rfl
    simp only [runFiltered, made, ended, configEnding, sort, message]
    split <;> rfl
  simp only [runReview, asked, runCommand, runAnalyze, pillarsGiven, rulesGiven, excludeGiven,
    named, filtered]

/-- What becomes of a suppression file that is there with some content. It is loaded with just the
configuration that the content gives. Its loading fails with a rejection just when the file is
rejected for it, and with another fault just when that breaks the loading off; and nothing else can
become of it. A run that consults the file is refused with exit code two when the file is rejected,
and breaks off when its loading does. -/
theorem suppression_file_answered {files : FileSystem} {path : FilePath} {content : List UInt8}
    (present : files.read path = .ok content) :
    (∀ config, (ReviewConfig.load files path).result = .ok config ↔
      ReviewConfig.Gives content config) ∧
    (∀ fault, (ReviewConfig.load files path).result = .error fault ∧ fault.isRejection = true ↔
      ReviewConfig.Rejects path content fault) ∧
    (∀ fault, (ReviewConfig.load files path).result = .error fault ∧ fault.isRejection = false ↔
      ReviewConfig.BreaksOff content fault) ∧
    ((∃ config, ReviewConfig.Gives content config) ∨
      (∃ fault, ReviewConfig.Rejects path content fault) ∨
      ∃ fault, ReviewConfig.BreaksOff content fault) ∧
    ∀ world now arguments fault, world.files = files → Consults world now arguments path →
      (ReviewConfig.Rejects path content fault →
        (runReview world now arguments).ending = .ok (.refused fault.message)) ∧
      (ReviewConfig.BreaksOff content fault →
        (runReview world now arguments).ending = .error (.analysis (.config fault))) := by
  refine ⟨ReviewConfig.load_ok_iff present, ReviewConfig.load_rejects_iff present,
    ReviewConfig.load_breaksOff_iff present,
    ReviewConfig.gives_or_rejects_or_breaksOff path content, ?answered⟩
  case answered =>
    rintro world now arguments fault rfl consults
    constructor
    · intro rejects
      rw [ending_of_load_error consults (rejects.load present), configEnding,
        if_pos rejects.isRejection]
    · intro broken
      rw [ending_of_load_error consults (broken.load present), configEnding,
        if_neg (by simp [broken.not_isRejection])]

/-! ### A directory with a suppression file -/

/-- A directory with a suppression file and some source that is empty. -/
def configWorld (content : List UInt8) : World where
  files := ⟨.directory [(ReviewConfig.defaultFile, .file content), ("main.tf", .file [])], []⟩
  environment := []
  run _ := .notFound

/-- The moment of the analysis. -/
def configMoment : Moment := .ofEpochSeconds 0

/-- The options of an analysis of the current directory. -/
def plainOptions : AnalyzeOptions where
  path := .ofText "."
  planFile := none
  tool := .named "terraform"
  format := some .table
  output := none
  minSeverity := none
  pillars := []
  rules := []
  exclude := []
  failOn := some Report.failOnAny
  configFile := some (.ofText ReviewConfig.defaultFile)

/-- The suppression file is there. -/
theorem configWorld_read (content : List UInt8) :
    (configWorld content).files.read (.ofText ReviewConfig.defaultFile) = .ok content := by
  rfl

/-- An analysis of the directory consults the file. -/
theorem configWorld_consults (content : List UInt8) :
    Consults (configWorld content) configMoment ["analyze"]
      (.ofText ReviewConfig.defaultFile) := by
  have asked : ReviewInvocation.ofArguments ["analyze"] =
      .ok ⟨some .warning, .analyze plainOptions⟩ := by
    rfl
  exact .analysis asked rfl rfl rfl rfl rfl rfl

/-- The run of an analysis under a list without its closing bracket is refused, and the run of one
under a byte that is no text breaks off. -/
theorem unclosed_list_refused :
    let path := FilePath.ofText ReviewConfig.defaultFile
    let unclosed := configWorld (Text.encodeUtf8 "suppressions: [unclosed\n")
    let noText := configWorld [0xFF]
    (runReview unclosed configMoment ["analyze"]).ending =
        .ok (.refused (ReviewConfig.Fault.malformed path).message) ∧
      ∃ cause, (runReview noText configMoment ["analyze"]).ending =
        .error (.analysis (.config (.encoding cause))) := by
  intro path unclosed noText
  constructor
  · have failed : (ReviewConfig.load unclosed.files path).result = .error (.malformed path) :=
      failure?_eq_some_iff.mp (by decide +kernel)
    obtain ⟨_, rejects, _, _, answered⟩ := suppression_file_answered (configWorld_read _)
    exact (answered unclosed _ _ _ rfl (configWorld_consults _)).1 ((rejects _).mp ⟨failed, rfl⟩)
  · obtain ⟨cause, undecoded⟩ : ∃ cause, Text.decodeUtf8 [0xFF] = .error cause := ⟨_, rfl⟩
    have broken : ReviewConfig.BreaksOff [0xFF] (.encoding cause) :=
      .encoding (Text.unwritten_of_error undecoded) undecoded
    obtain ⟨_, _, _, _, answered⟩ := suppression_file_answered (configWorld_read [0xFF])
    exact ⟨cause, (answered noText _ _ _ rfl (configWorld_consults _)).2 broken⟩

/-- A byte that is no text and a day that its month does not have break the loading of a file that
is there off, and no run is refused on account of them. -/
theorem impossible_day_breaks_off :
    let path := FilePath.ofText ReviewConfig.defaultFile
    let noText := configWorld [0xFF]
    let noDay := configWorld (Text.encodeUtf8 ("suppressions:\n- rule_id: S3-001\n  resource: '*'\n"
      ++ "  reason: legacy\n  expires: 2026-02-30\n"))
    (∃ cause, (ReviewConfig.load noText.files path).result = .error (.encoding cause) ∧
      (runReview noText configMoment ["analyze"]).ending =
        .error (.analysis (.config (.encoding cause)))) ∧
    (ReviewConfig.load noDay.files path).result = .error (.value (.date .day)) ∧
      (runReview noDay configMoment ["analyze"]).ending =
        .error (.analysis (.config (.value (.date .day)))) := by
  intro path noText noDay
  constructor
  · have failed : (ReviewConfig.load noText.files path).result =
        .error (.encoding ⟨.utf8, .invalidStart, 0xFF, 0, 1⟩) :=
      failure?_eq_some_iff.mp (by decide +kernel)
    exact ⟨_, failed, ending_of_load_error (configWorld_consults _) failed⟩
  · have failed : (ReviewConfig.load noDay.files path).result = .error (.value (.date .day)) :=
      failure?_eq_some_iff.mp (by decide +kernel)
    exact ⟨failed, ending_of_load_error (configWorld_consults _) failed⟩

end InfraReview.CommandLine
