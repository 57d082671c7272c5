import InfraReview.CommandLine.Review
import InfraReview.Proofs.Source.Files

/-!
# Directories of source

A directory is analyzed file by file. What its files come to is put together in the order in which
they are found: the entities of the files that are read, and the errors of the others. That the
whole directory failed is told by counting: there are as many errors as files, and a file at least.

The count says what it is meant to say. Each file adds to one of the two lists or, if it declares
nothing, to neither, but only a file that is rejected adds an error, and it adds one. So the counts
agree exactly when every file was rejected. An analysis of anything else goes on, and it reports
each error once.
-/

namespace InfraReview

open Source (Comes Reading)

/-! ### Paths that lead to directories -/

/-- A path to a directory leads to no file. -/
theorem FileSystem.isFile_of_isDirectory {files : FileSystem} {path : FilePath}
    (directory : files.isDirectory path = .ok true) : files.isFile path = .ok false := by
  unfold isDirectory leadsTo at directory
  unfold isFile leadsTo
  split at directory
  · rename_i tree found
    cases tree with
    | file content => cases directory
    | directory entries => rfl
  · cases directory
  · cases directory

/-- The source files below a directory can be listed. -/
theorem Source.discover_of_isDirectory {files : FileSystem} {path : FilePath}
    (directory : files.isDirectory path = .ok true) :
    ∃ found, Source.discover files path = .ok found := by
  have there : ∃ tree, files.find path = .ok tree := by
    unfold FileSystem.isDirectory FileSystem.leadsTo at directory
    split at directory
    · rename_i tree found
      exact ⟨tree, found⟩
    · cases directory
    · cases directory
  obtain ⟨tree, found⟩ := there
  rw [Source.discover, directory]
  simp [found, bind, Except.bind]

/-! ### Counting outcomes -/

/-- An outcome has a failure exactly when it is one. -/
theorem isSome_failure? {ε α : Type} (outcome : Except ε α) :
    (failure? outcome).isSome = true ↔ Fails outcome := by
  cases outcome with
  | error fault => exact iff_of_true rfl (fails_error fault)
  | ok value => exact iff_of_false Bool.false_ne_true (not_fails_ok value)

/-- Each outcome is a result or a failure. -/
theorem length_results_add_failures {ε α : Type} (outcomes : List (Except ε α)) :
    (outcomes.filter Except.isOk).length + (outcomes.filterMap failure?).length =
      outcomes.length := by
  have failed : (fun outcome : Except ε α => (failure? outcome).isSome) =
      fun outcome => decide ¬ outcome.isOk = true := by
    funext outcome
    cases outcome <;> rfl
  rw [List.length_filterMap_eq_countP, failed, ← List.countP_eq_length_filter]
  exact (List.length_eq_countP_add_countP Except.isOk).symm

/-- There are as many failures as outcomes exactly when every outcome is a failure. -/
theorem length_failures_eq_iff {ε α : Type} (outcomes : List (Except ε α)) :
    (outcomes.filterMap failure?).length = outcomes.length ↔
      ∀ outcome ∈ outcomes, Fails outcome := by
  rw [List.length_filterMap_eq_countP, List.countP_eq_length]
  simp only [isSome_failure?]

namespace Analysis

/-- The input that the outcomes of source files make up: the entities of those that were read and
the errors of the others. -/
def Input.ofOutcomes (outcomes : List (Except Source.Error (List Entity))) : Input where
  sort := .source
  entities := outcomes.flatMap fun
    | .ok entities => entities
    | .error _ => []
  errors := outcomes.filterMap failure?

/-- Outcomes of which there is one at least and all are errors. -/
def AllRejected (outcomes : List (Except Source.Error (List Entity))) : Prop :=
  outcomes ≠ [] ∧ ∀ outcome ∈ outcomes, Fails outcome

/-- Outcomes are not all errors when there is none or when one of them has entities, be there any or
not. -/
theorem not_allRejected_iff (outcomes : List (Except Source.Error (List Entity))) :
    ¬ AllRejected outcomes ↔ outcomes = [] ∨ ∃ entities, .ok entities ∈ outcomes := by
  have one : (∃ outcome ∈ outcomes, ¬ Fails outcome) ↔ ∃ entities, .ok entities ∈ outcomes := by
    constructor
    · rintro ⟨outcome, member, sound⟩
      obtain ⟨entities, rfl⟩ := ok_of_not_fails sound
      exact ⟨entities, member⟩
    · rintro ⟨entities, member⟩
      exact ⟨.ok entities, member, not_fails_ok entities⟩
  rw [← one, AllRejected, not_and_or, not_not]
  simp only [not_forall, exists_prop]

section Acceptance

variable {names : List String} {outcomes : List (Except Source.Error (List Entity))}
  (path : FilePath) (each : names.length = outcomes.length)

include each

/-- A reading of files that were all rejected fails with the error of the first one. -/
theorem acceptReading_rejected (rejected : AllRejected outcomes) :
    ∃ error others, outcomes = .error error :: others ∧
      (acceptReading path (Reading.ofOutcomes names outcomes)).result =
        .error (.source error) := by
  obtain ⟨some, all⟩ := rejected
  obtain ⟨outcome, others, rfl⟩ := List.exists_cons_of_ne_nil some
  obtain ⟨error, rfl⟩ := all outcome List.mem_cons_self
  refine ⟨error, others, rfl, ?_⟩
  have counts : (error :: others.filterMap failure?).length = names.length := by
    rw [each]
    exact (length_failures_eq_iff (.error error :: others)).mpr all
  have named : names.isEmpty = false := by
    cases names with
    | nil => cases each
    | cons name names => rfl
  simp only [acceptReading, Reading.ofOutcomes, List.filterMap_cons, failure?, named, counts]
  rfl

/-- Any other reading of files is accepted with all entities and errors. -/
theorem acceptReading_kept (kept : ¬ AllRejected outcomes) :
    (acceptReading path (Reading.ofOutcomes names outcomes)).result =
      .ok (.ofOutcomes outcomes) := by
  unfold acceptReading
  split
  · rfl
  · rename_i named
    split
    · split
      · rename_i counts
        refine absurd ⟨?_, (length_failures_eq_iff outcomes).mp (counts.trans each)⟩ kept
        rintro rfl
        exact absurd (List.length_eq_zero_iff.mp each) (by simpa [Reading.ofOutcomes] using named)
      · rfl
    · rfl

end Acceptance

/-- The loading of source comes to what the outcomes of its files say. It fails exactly when there
is a file and every file was rejected, and it fails with the error of the first file. Otherwise it
comes to the input that the outcomes make up. -/
structure Loads (result : Except Fault Input)
    (outcomes : List (Except Source.Error (List Entity))) : Prop where
  fails : Fails result ↔ AllRejected outcomes
  first : ∀ fault, result = .error fault →
    ∃ error others, outcomes = .error error :: others ∧ fault = .source error
  input : ∀ input, result = .ok input → input = .ofOutcomes outcomes

/-- A reading of files is accepted as their outcomes say. -/
theorem loads_acceptReading (path : FilePath) {names : List String}
    {outcomes : List (Except Source.Error (List Entity))}
    (each : names.length = outcomes.length) :
    Loads (acceptReading path (Reading.ofOutcomes names outcomes)).result outcomes := by
  by_cases rejected : AllRejected outcomes
  · obtain ⟨error, others, split, result⟩ := acceptReading_rejected path each rejected
    rw [result]
    constructor
    · exact iff_of_true (fails_error _) rejected
    · rintro fault ⟨⟩
      exact ⟨error, others, split, rfl⟩
    · rintro input ⟨⟩
  · rw [acceptReading_kept path each rejected]
    constructor
    · exact iff_of_false (not_fails_ok _) rejected
    · rintro fault ⟨⟩
    · rintro input ⟨⟩
      rfl

/-- The source of a directory is loaded as the outcomes of its files say. -/
theorem loads_directory [Libraries] {files : FileSystem} {path : FilePath}
    (directory : files.isDirectory path = .ok true) {found : List FilePath}
    (discovered : Source.discover files path = .ok found)
    {outcomes : List (Except Source.Error (List Entity))}
    (comes : List.Forall₂ (Comes files) (found.map FilePath.text) outcomes) :
    Loads (loadSource files path).result outcomes := by
  have read := (Source.readFiles_ok_iff files _ _).mpr ⟨outcomes, comes, rfl⟩
  have result : (loadSource files path).result = (acceptReading path
      (Reading.ofOutcomes (found.map FilePath.text) outcomes)).result := by
    have listed : (Source.readDirectory files path).result =
        .ok (Reading.ofOutcomes (found.map FilePath.text) outcomes) := by
      rw [Source.readDirectory, Logged.result_bind, discovered]
      exact read
    simp only [loadSource, Logged.result_bind, asked, directory, Logged.ofExcept]
    change ((Source.readDirectory files path).mapFault Fault.interrupted >>= _).result = _
    rw [Logged.result_bind, Logged.mapFault, listed]
    rfl
  rw [result]
  exact loads_acceptReading path comes.length_eq

/-- An analysis of a path to a directory, without a plan, comes to the review of the source that it
loads. -/
theorem run_directory [Libraries] {world : World} {request : AnalysisRequest}
    {config : ReviewConfig}
    (directory : world.files.isDirectory request.path = .ok true)
    (source : request.planFile = none)
    (configured : (loadConfig world.files request).result = .ok config) :
    (run world request).result =
      (loadSource world.files request.path).result.map (review request config) := by
  have single := FileSystem.isFile_of_isDirectory directory
  have input : loadInput world request = loadSource world.files request.path := by
    simp [loadInput, source, asked, single, Logged.ofExcept, Except.mapError, bind, Logged.bind]
  simp only [run, Logged.result_bind, configured, Logged.note, input]
  cases (loadSource world.files request.path).result <;> rfl

/-- A directory is analyzed file by file. Its source files are found, and when each of them comes to
entities or to an error, the loading of the directory fails exactly when there is a file and every
file was rejected, and then with the error of the first one. Otherwise it comes to all entities and
all errors in the order of the files; each file has been read or has an error. The analysis fails as
the loading does. When there is no file or one was read, be there an entity in it or not, the
analysis goes on, and it reports the errors of the files that were rejected, each of them once. -/
theorem directory_analyzed [Libraries] {world : World} {request : AnalysisRequest}
    (directory : world.files.isDirectory request.path = .ok true) :
    ∃ found, Source.discover world.files request.path = .ok found ∧
      ∀ outcomes, List.Forall₂ (Comes world.files) (found.map FilePath.text) outcomes →
        Loads (loadSource world.files request.path).result outcomes ∧
        (outcomes.filter Except.isOk).length + (outcomes.filterMap failure?).length =
          found.length ∧
        ∀ config, request.planFile = none →
          (loadConfig world.files request).result = .ok config →
          (run world request).result =
            (loadSource world.files request.path).result.map (review request config) ∧
          (outcomes = [] ∨ (∃ entities, .ok entities ∈ outcomes) →
            ∃ analysis, (run world request).result = .ok analysis ∧
              analysis.entityCount = (Input.ofOutcomes outcomes).entities.length ∧
              analysis.parseErrors = outcomes.filterMap failure? ∧
              (CommandLine.reportOf analysis).parseErrors =
                (outcomes.filterMap failure?).map Source.Error.message) := by
  obtain ⟨found, discovered⟩ := Source.discover_of_isDirectory directory
  refine ⟨found, discovered, fun outcomes comes => ?_⟩
  have loads := loads_directory directory discovered comes
  refine ⟨loads, ?_, fun config source configured => ?_⟩
  · rw [length_results_add_failures, ← comes.length_eq, List.length_map]
  · have reviewed := run_directory directory source configured
    refine ⟨reviewed, fun kept => ?_⟩
    have sound := mt loads.fails.mp ((not_allRejected_iff outcomes).mpr kept)
    obtain ⟨input, loaded⟩ := ok_of_not_fails sound
    obtain rfl := loads.input input loaded
    refine ⟨review request config (.ofOutcomes outcomes), ?_, rfl, rfl, rfl⟩
    rw [reviewed, loaded]
    rfl

/-- A text with one resource. -/
def resourceText : String := "resource \"t\" \"n\" \x7b\n\x7d\n"

/-- The entries of this text. -/
def resourceEntries : List (Key × Hcl.Tree) :=
  [(.text "resource", .list [.map [(.text "t", .map [(.text "n", .map
    [(.text Hcl.startLineKey, .int 1), (.text Hcl.endLineKey, .int 2)])])]])]

/-- A reader of source that knows this text and the entries of it. -/
@[reducible] def resourceLibraries : Libraries where
  readSource content := if content = resourceText.toList then .ok resourceEntries else .error 1
  readData := Yaml.read

/-- Directories of files: all of them without a text, one of them with the text of a resource, and
no file at all. -/
def undecodableWorld : World where
  files := ⟨.directory [
    ("broken", .directory [("a.tf", .file [255]), ("b.tf", .file [254])]),
    ("mixed", .directory [("a.tf", .file [255]), ("b.tf", .file (Text.encodeUtf8 resourceText))]),
    ("empty", .directory [])], []⟩
  environment := []
  run := fun _ => .notFound

/-- What an analysis of one of these directories comes to. -/
def undecodableResult (name : String) : Except Fault Analysis :=
  (@run resourceLibraries undecodableWorld
    { path := .ofText name, now := .ofEpochSeconds 0 }).result

/-- The message about a file whose first byte is no text. -/
def undecodableMessage (first : String) : String :=
  "cannot read file: 'utf-8' codec can't decode byte " ++ first
    ++ " in position 0: invalid start byte"

/-- The resource of the text, as it is declared in a file. -/
theorem read_resourceText (file : String) :
    @Source.read resourceLibraries resourceText.toList file =
      .ok [⟨"t", "n", [], [], none, "managed", file, 1⟩] := by
  let libraries := resourceLibraries
  have known : Source.entries resourceText.toList file = .ok resourceEntries := by
    have listed : Libraries.readSource resourceText.toList = .ok resourceEntries := if_pos rfl
    rw [Source.entries, listed]
    rfl
  have top : Hcl.topBlocks resourceEntries = .ok [⟨.text "resource", ["t", "n"], [], [], 1⟩] := rfl
  have blocks : Source.blocksOf resourceEntries =
      .ok [⟨.text "resource", ["t", "n"], [], [], 1⟩] := by
    rw [Source.blocksOf, Hcl.blocksInOrder, top, Except.map, List.mergeSort_singleton]
    rfl
  calc Source.read resourceText.toList file
    _ = Source.ofEntries file resourceEntries := by
      rw [Source.read, known]
      rfl
    _ = .ok [⟨"t", "n", [], [], none, "managed", file, 1⟩] := by
      rw [Source.ofEntries, blocks]
      rfl

/-- The files that are found in these directories. -/
theorem discover_undecodable :
    (∀ name, name = "broken" ∨ name = "mixed" →
      Source.discover undecodableWorld.files (.ofText name) =
        .ok ([["a.tf"], ["b.tf"]].map (FilePath.ofText name).below)) ∧
    Source.discover undecodableWorld.files (.ofText "empty") = .ok [] := by
  have inOrder : [["a.tf"], ["b.tf"]].mergeSort Source.precedes = [["a.tf"], ["b.tf"]] :=
    List.mergeSort_of_pairwise (by decide)
  have none : [].mergeSort Source.precedes = [] := List.mergeSort_of_pairwise .nil
  constructor
  · intro name known
    rw [← inOrder]
    rcases known with rfl | rfl <;> rfl
  · change _ = Except.ok ([].map (FilePath.ofText "empty").below)
    rw [← none]
    rfl

/-- The directory without texts fails with the error of the first file. Beside a file that is read,
the file without a text is reported and the resource of the other is there. The empty directory does
not fail and has no errors. -/
theorem undecodable_directory_analyzed :
    undecodableResult "broken" =
        .error (.source ⟨"broken/a.tf", 0, undecodableMessage "0xff"⟩) ∧
      (∃ analysis, undecodableResult "mixed" = .ok analysis ∧ analysis.entityCount = 1 ∧
        analysis.parseErrors = [⟨"mixed/a.tf", 0, undecodableMessage "0xff"⟩]) ∧
      ∃ analysis, undecodableResult "empty" = .ok analysis ∧
        analysis.entityCount = 0 ∧ analysis.parseErrors = [] := by
  let libraries := resourceLibraries
  let request (name : String) : AnalysisRequest :=
    { path := .ofText name, now := .ofEpochSeconds 0 }
  obtain ⟨listed, unlisted⟩ := discover_undecodable
  have isDirectory (name : String) (known : name = "broken" ∨ name = "mixed" ∨ name = "empty") :
      undecodableWorld.files.isDirectory (request name).path = .ok true := by
    rcases known with rfl | rfl | rfl <;> rfl
  refine ⟨?broken, ?mixed, ?empty⟩
  case broken =>
    obtain ⟨found, discovered, each⟩ := directory_analyzed (isDirectory "broken" (.inl rfl))
    obtain rfl := Except.ok.inj (discovered.symm.trans (listed "broken" (.inl rfl)))
    obtain ⟨loads, _, reviewed⟩ := each [.error _, .error _]
      (.cons (.unreadable rfl rfl) (.cons (.unreadable rfl rfl) .nil))
    obtain ⟨fault, failed⟩ := loads.fails.mpr ⟨List.cons_ne_nil _ _, by simp⟩
    obtain ⟨error, others, split, rfl⟩ := loads.first fault failed
    cases split
    rw [undecodableResult, (reviewed .empty rfl rfl).1, failed]
    rfl
  case mixed =>
    obtain ⟨found, discovered, each⟩ :=
      directory_analyzed (isDirectory "mixed" (.inr (.inl rfl)))
    obtain rfl := Except.ok.inj (discovered.symm.trans (listed "mixed" (.inr rfl)))
    have text : undecodableWorld.files.readText (.ofText "mixed/b.tf") =
        .ok resourceText.toList := by
      decide +kernel
    obtain ⟨_, _, reviewed⟩ := each [.error _, .ok _] (.cons (.unreadable rfl rfl)
      (.cons (.entities text (read_resourceText "mixed/b.tf")) .nil))
    obtain ⟨_, goesOn⟩ := reviewed .empty rfl rfl
    obtain ⟨analysis, done, count, errors, _⟩ :=
      goesOn (.inr ⟨_, List.mem_cons_of_mem _ List.mem_cons_self⟩)
    exact ⟨analysis, done, count, errors⟩
  case empty =>
    obtain ⟨found, discovered, each⟩ :=
      directory_analyzed (isDirectory "empty" (.inr (.inr rfl)))
    obtain rfl := Except.ok.inj (discovered.symm.trans unlisted)
    obtain ⟨_, _, reviewed⟩ := each [] .nil
    obtain ⟨_, goesOn⟩ := reviewed .empty rfl rfl
    obtain ⟨analysis, done, count, errors, _⟩ := goesOn (.inl rfl)
    exact ⟨analysis, done, count, errors⟩

end Analysis

end InfraReview
