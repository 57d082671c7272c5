import Mathlib.Data.List.Forall2
import InfraReview.Proofs.Hcl.Breakage
import InfraReview.Source.Files

/-!
# Files that are read apart

Each source file comes to entities or to an error on its own account, whatever stands in the
others. The reading of several files puts together what they come to, in order.

There are files that come to nothing and end the whole reading instead: those whose path holds
the character zero, and those whose text has the form of the language and a place at which the
reading of its blocks breaks off. It is shown that there are no others.
-/

namespace InfraReview.Source

section

/-- What several files come to together: the names of all, the entities of those that have any
and the errors of the others. -/
def Reading.ofOutcomes (names : List String) (outcomes : List (Except Error (List Entity))) :
    Reading where
  files := names
  entities := outcomes.flatMap fun
    | .ok entities => entities
    | .error _ => []
  errors := outcomes.filterMap failure?

/-- What one more file comes to is put before what the others come to. -/
theorem ofOutcomes_cons (name : String) (names : List String)
    (found : Except Error (List Entity)) (outcomes : List (Except Error (List Entity))) :
    Reading.ofOutcomes (name :: names) (found :: outcomes) =
      (Reading.ofOutcomes names outcomes).add name found := by
  cases found <;> rfl

/-! ### The text of a file -/

/-- Only a path that holds the character zero is not tried. -/
theorem place_unsound_iff (files : FileSystem) (path : FilePath) :
    files.place path = .error .unsound ↔ path.isSound = false := by
  unfold FileSystem.place
  cases path.isSound with
  | false => simp
  | true =>
    simp only [Bool.not_true, Bool.false_eq_true, if_false, reduceCtorEq, iff_false]
    split
    · simp
    · cases FileSystem.follow files.tree
        (if path.isRelative = true then files.directory else []) path.components <;>
        simp [Except.mapError]

/-- The text of a file is not asked for exactly when its path holds the character zero. -/
theorem readText_unsound_iff (files : FileSystem) (path : FilePath) :
    files.readText path = .error (.access .unsound) ↔ path.isSound = false := by
  rw [← place_unsound_iff files path]
  unfold FileSystem.readText FileSystem.read FileSystem.find
  cases files.place path with
  | error fault => simp [bind, Except.bind]
  | ok place =>
    cases found : files.tree.node? place with
    | none => simp [found, bind, Except.bind]
    | some tree =>
      cases tree with
      | directory entries => simp [found, bind, Except.bind]
      | file content =>
        cases decoded : Text.decodeUtf8 content <;> simp [found, decoded, bind, Except.bind]

/-! ### The blocks of a text -/

/-- The blocks in the entries of a text cannot be had exactly when the reading breaks off there. -/
theorem blocksOf_fails_iff (found : List (Key × Hcl.Tree)) :
    Fails (blocksOf found) ↔ Hcl.TextBreaks found := by
  rw [blocksOf, fails_mapError, Hcl.blocksInOrder, fails_map, Hcl.topBlocks_fails_iff]

variable [Libraries]

/-- What the file of a name comes to on its own: the entities in its text, the error of its text,
or the error that its text cannot be had. -/
inductive Comes (files : FileSystem) (name : String) : Except Error (List Entity) → Prop where
  | entities {content : List Char} {entities : List Entity}
      (text : files.readText (FilePath.ofText name) = .ok content)
      (done : read content (FilePath.ofText name).text = .ok entities) :
      Comes files name (.ok entities)
  | rejected {content : List Char} {error : Error}
      (text : files.readText (FilePath.ofText name) = .ok content)
      (refused : read content (FilePath.ofText name).text = .error (.rejected error)) :
      Comes files name (.error error)
  | unreadable {fault : TextFault} (sound : (FilePath.ofText name).isSound = true)
      (noText : files.readText (FilePath.ofText name) = .error fault) :
      Comes files name
        (.error ⟨(FilePath.ofText name).text, 0, "cannot read file: " ++ fault.message⟩)

/-- The file of a name ends the whole reading: its path holds the character zero, or its text has
the form of the language and the reading of its blocks breaks off. -/
def Interrupts (files : FileSystem) (name : String) : Prop :=
  (FilePath.ofText name).isSound = false ∨
    ∃ content entries, files.readText (FilePath.ofText name) = .ok content ∧
      Libraries.readSource content = .ok entries ∧ Hcl.TextBreaks entries

/-- The blocks of a text break off exactly when the text has the form of the language and breaks
the reading off. -/
theorem blocks_broken_iff (content : List Char) (file : String) :
    (∃ fault, blocks content file = .error (.broken fault)) ↔
      ∃ entries, Libraries.readSource content = .ok entries ∧ Hcl.TextBreaks entries := by
  unfold blocks entries
  cases formed : Libraries.readSource content with
  | error line => simp [Except.mapError, bind, Except.bind]
  | ok found =>
    have broken : (∃ fault, blocksOf found = .error (.broken fault)) ↔ Fails (blocksOf found) := by
      constructor
      · rintro ⟨fault, failed⟩
        exact ⟨_, failed⟩
      · rintro ⟨fault, failed⟩
        obtain ⟨cause, _, rfl⟩ := error_of_mapError failed
        exact ⟨cause, failed⟩
    simpa [Except.mapError, bind, Except.bind, ← blocksOf_fails_iff] using broken

/-- The entities of a text break off exactly when its blocks do. -/
theorem read_broken_iff (content : List Char) (file : String) (fault : Hcl.LiteralFault) :
    read content file = .error (.broken fault) ↔ blocks content file = .error (.broken fault) := by
  unfold read blocks ofEntries
  cases entries content file with
  | error fault => simp [bind, Except.bind]
  | ok found =>
    cases outcome : blocksOf found with
    | error fault => simp [outcome, bind, Except.bind]
    | ok blocks =>
      cases declared : toEntities file (blocks.filter fun block =>
        entityTypes.any fun type => block.type == .text type) <;>
        simp [outcome, declared, Except.mapError, bind, Except.bind]

/-! ### One file -/

/-- The reading of a file with a text comes to what the text comes to. -/
theorem readFile_text {files : FileSystem} {path : FilePath} {content : List Char}
    (text : files.readText path = .ok content) :
    (readFile files path).result = (read content path.text).mapError FileFault.ofFault := by
  unfold readFile
  rw [text]
  change (Logged.bind _ _).result = _
  cases found : read content path.text with
  | error fault => simp [Logged.bind, Except.mapError]
  | ok entities => simp [Logged.bind, Logged.note, Except.mapError, bind, pure, Logged.pure]

/-- The reading of a file without a text is rejected with what is in the way of it, unless its
path cannot be tried. -/
theorem readFile_noText {files : FileSystem} {path : FilePath} {fault : TextFault}
    (sound : path.isSound = true) (noText : files.readText path = .error fault) :
    (readFile files path).result =
      .error (.rejected ⟨path.text, 0, "cannot read file: " ++ fault.message⟩) := by
  have tried : fault ≠ .access .unsound := by
    rintro rfl
    rw [readText_unsound_iff, sound] at noText
    cases noText
  unfold readFile
  rw [noText]
  split
  · rename_i same
    exact absurd (Except.error.inj same) tried
  · rename_i same
    cases same
    rfl
  · rename_i same
    cases same

/-- A file comes to one thing only. -/
theorem comes_unique {files : FileSystem} {name : String}
    {first second : Except Error (List Entity)} (one : Comes files name first)
    (other : Comes files name second) : first = second := by
  cases one <;> cases other <;> simp_all

/-- A file that comes to something does not end the whole reading. -/
theorem not_interrupts_of_comes {files : FileSystem} {name : String}
    {found : Except Error (List Entity)} (comes : Comes files name found) :
    ¬ Interrupts files name := by
  rintro (unsound | ⟨content, entries, text, formed, breaks⟩)
  · have noText := (readText_unsound_iff files _).mpr unsound
    cases comes <;> simp_all
  · obtain ⟨fault, broken⟩ :=
      (blocks_broken_iff content (FilePath.ofText name).text).mpr ⟨entries, formed, breaks⟩
    rw [← read_broken_iff] at broken
    cases comes <;> simp_all

/-- The attempt at a file comes to what the file comes to on its own, or it fails and the file
ends the whole reading. -/
theorem attempt_cases (files : FileSystem) (name : String) :
    (∃ found, (attempt files name).result = .ok found ∧ Comes files name found) ∨
      (Fails (attempt files name).result ∧ Interrupts files name) := by
  cases text : files.readText (FilePath.ofText name) with
  | error fault =>
    by_cases sound : (FilePath.ofText name).isSound = true
    · have result := readFile_noText sound text
      exact .inl ⟨_, by simp only [attempt, result], .unreadable sound text⟩
    · have unsound : (FilePath.ofText name).isSound = false := by simpa using sound
      rw [(readText_unsound_iff files _).mpr unsound] at text
      cases text
      have result : (readFile files (FilePath.ofText name)).result =
          .error (.interrupted (.access .unsound)) := by
        rw [readFile, (readText_unsound_iff files _).mpr unsound]
        rfl
      exact .inr ⟨by simp only [attempt, result, fails_error], .inl unsound⟩
  | ok content =>
    have result := readFile_text text
    cases outcome : read content (FilePath.ofText name).text with
    | ok entities =>
      rw [outcome] at result
      exact .inl ⟨_, by simp only [attempt, result, Except.mapError], .entities text outcome⟩
    | error fault =>
      rw [outcome] at result
      cases fault with
      | rejected error =>
        exact .inl ⟨_, by simp only [attempt, result, Except.mapError, FileFault.ofFault],
          .rejected text outcome⟩
      | broken fault =>
        rw [read_broken_iff] at outcome
        obtain ⟨entries, formed, breaks⟩ := (blocks_broken_iff content _).mp ⟨fault, outcome⟩
        refine .inr ⟨?_, .inr ⟨content, entries, text, formed, breaks⟩⟩
        simp only [attempt, result, Except.mapError, FileFault.ofFault, fails_error]

/-- The attempt at a file comes to what the file comes to on its own. -/
theorem attempt_ok_iff (files : FileSystem) (name : String)
    (found : Except Error (List Entity)) :
    (attempt files name).result = .ok found ↔ Comes files name found := by
  rcases attempt_cases files name with ⟨own, result, comes⟩ | ⟨⟨fault, failed⟩, interrupts⟩
  · rw [result, Except.ok.injEq]
    constructor
    · rintro rfl
      exact comes
    · exact comes_unique comes
  · simp only [failed, reduceCtorEq, false_iff]
    exact fun comes => not_interrupts_of_comes comes interrupts

/-- The attempt at a file fails exactly when the file ends the whole reading. -/
theorem attempt_fails_iff (files : FileSystem) (name : String) :
    Fails (attempt files name).result ↔ Interrupts files name := by
  rcases attempt_cases files name with ⟨own, result, comes⟩ | ⟨failed, interrupts⟩
  · simp [result, not_interrupts_of_comes comes]
  · simp [failed, interrupts]

/-! ### Several files -/

/-- One more file is put before what the others come to. -/
theorem readFiles_cons (files : FileSystem) (name : String) (names : List String) :
    (readFiles files (name :: names)).result = (do
      let found ← (attempt files name).result
      let others ← (readFiles files names).result
      .ok (others.add name found)) := by
  rw [readFiles, Logged.result_bind]
  refine congrArg _ (funext fun found => ?_)
  rw [Logged.result_bind]
  rfl

/-- Several files have a reading exactly when each comes to something, and the reading is what
they come to together. -/
theorem readFiles_ok_iff (files : FileSystem) (names : List String) (reading : Reading) :
    (readFiles files names).result = .ok reading ↔
      ∃ outcomes, List.Forall₂ (Comes files) names outcomes ∧
        reading = Reading.ofOutcomes names outcomes := by
  induction names generalizing reading with
  | nil =>
    constructor
    · intro done
      cases done
      exact ⟨[], .nil, rfl⟩
    · rintro ⟨_, ⟨⟩, rfl⟩
      rfl
  | cons name names inductionHypothesis =>
    rw [readFiles_cons]
    constructor
    · intro done
      obtain ⟨found, own, done⟩ := ok_of_bind done
      obtain ⟨others, rest, done⟩ := ok_of_bind done
      cases done
      obtain ⟨outcomes, comes, rfl⟩ := (inductionHypothesis others).mp rest
      exact ⟨found :: outcomes, .cons ((attempt_ok_iff files name found).mp own) comes,
        (ofOutcomes_cons name names found outcomes).symm⟩
    · rintro ⟨_, comes, rfl⟩
      cases comes with
      | @cons _ found _ outcomes own comes =>
        have rest := (inductionHypothesis _).mpr ⟨outcomes, comes, rfl⟩
        rw [(attempt_ok_iff files name found).mpr own, rest, ofOutcomes_cons]
        rfl

/-- Several files have no reading exactly when one of them ends the whole reading. -/
theorem readFiles_fails_iff (files : FileSystem) (names : List String) :
    Fails (readFiles files names).result ↔ ∃ name ∈ names, Interrupts files name := by
  induction names with
  | nil => simp [readFiles, pure, Logged.pure]
  | cons name names inductionHypothesis =>
    have rest (found : Except Error (List Entity)) : Fails (do
        let others ← (readFiles files names).result
        .ok (others.add name found)) ↔ ∃ name ∈ names, Interrupts files name := by
      rw [← inductionHypothesis]
      exact fails_bind_sound _ fun others => not_fails_ok _
    rw [readFiles_cons, fails_bind_apart _ rest, attempt_fails_iff]
    simp only [List.mem_cons, exists_eq_or_imp]

/-- Files are read apart: several of them have a reading exactly when each comes to something on
its own, and the reading is what they come to together. There is none exactly when one of them
ends the whole reading. Beside paths that cannot be tried, only the texts do so that have the form
of the language and whose blocks break the reading off. -/
theorem files_read_apart (files : FileSystem) (names : List String) :
    (∀ reading, (readFiles files names).result = .ok reading ↔
      ∃ outcomes, List.Forall₂ (Comes files) names outcomes ∧
        reading = Reading.ofOutcomes names outcomes) ∧
      (Fails (readFiles files names).result ↔ ∃ name ∈ names, Interrupts files name) ∧
      ∀ content file, (∃ fault, blocks content file = .error (.broken fault)) ↔
        ∃ entries, Libraries.readSource content = .ok entries ∧ Hcl.TextBreaks entries :=
  ⟨readFiles_ok_iff files names, readFiles_fails_iff files names, blocks_broken_iff⟩

end

/-- An integer that is too large for a double. -/
def largeInteger : Int := Int.ofNat (Nat.pow 10 400)

/-- The body of a block whose one attribute is that integer. -/
def largeBody : List (Key × Hcl.Tree) :=
  [(.text "x", .int largeInteger), (.text Hcl.startLineKey, .int 1),
    (.text Hcl.endLineKey, .int 3)]

/-- A text with that block alone. -/
def largeEntries : List (Key × Hcl.Tree) :=
  [(.text "resource", .list [.map [(.text "t", .map [(.text "n", .map largeBody)])]])]

/-- Not every failure is put down to a source: a large integer breaks the reading of blocks off,
and a path that cannot be tried ends the reading of all files. -/
theorem large_integer_interrupts :
    (¬ ∀ entries, ∃ found, blocksOf entries = .ok found) ∧
      ¬ ∀ files names, ∃ reading, (readFiles files names).result = .ok reading := by
  constructor
  · intro sound
    have large : Double.ofInt? largeInteger = none := by decide +kernel
    have leads : Hcl.Leads (.map [(.text "t", .map [(.text "n", .map largeBody)])]) largeBody :=
      .under rfl List.mem_cons_self (.under rfl List.mem_cons_self (.here rfl))
    have single : ¬ Hcl.HoldsBlocks (.int largeInteger) := by
      rintro ⟨items, ⟨⟩, _⟩
    have breaks : Hcl.TextBreaks largeEntries := by
      refine ⟨_, List.mem_cons_self, .inr ⟨⟨_, rfl, List.cons_ne_nil _ _, ?_⟩, largeBody,
        ⟨_, _, rfl, List.mem_cons_self, leads⟩,
        .entry List.mem_cons_self (.value rfl single (.tooLarge large))⟩⟩
      intro item member
      obtain rfl := List.mem_singleton.mp member
      exact ⟨largeBody, leads⟩
    obtain ⟨found, done⟩ := sound largeEntries
    have broken := (blocksOf_fails_iff largeEntries).mpr breaks
    rw [done] at broken
    exact not_fails_ok found broken
  · intro sound
    obtain ⟨reading, done⟩ := sound ⟨.directory [], []⟩ ["\x00"]
    cases done

end InfraReview.Source
