import InfraReview.Config.File
import InfraReview.Proofs.Config.Validation
import InfraReview.Proofs.Text.Utf8
import InfraReview.Proofs.Yaml.Breakage

/-!
# Loading a suppression file that is there

The content of a file decides what its loading comes to. It gives a configuration; or the file is
rejected, because a rule of YAML is broken or the data are flawed; or the content breaks the loading
off. The last is the case when no text has its bytes, when its text breaks no rule of YAML and
still has no data, or when a field or the version holds an integer that is too long to be written.
-/

namespace InfraReview

/-- A file with a content is there. -/
theorem FileSystem.contains_of_read {files : FileSystem} {path : FilePath} {content : List UInt8}
    (present : files.read path = .ok content) : files.contains path = .ok true := by
  obtain ⟨tree, found, _⟩ := ok_of_bind present
  rw [contains, leadsTo, found]

namespace ReviewConfig

/-- The text that a content holds: its bytes are those of a text, whose line ends are made
uniform. -/
def Holds (content : List UInt8) (text : List Char) : Prop :=
  ∃ written, content = Text.encodeUtf8 written ∧ text = Text.uniformLineEnds written.toList

/-- The configuration that a content gives: the empty one when its data count as nothing, and else
the one that its data describe. -/
inductive Gives (content : List UInt8) : ReviewConfig → Prop where
  | vacant {text : List Char} {data : Yaml.Data} (holds : Holds content text)
      (read : Yaml.read text = .ok data) (vacant : data.store.isVacant data.root = true) :
      Gives content empty
  | filled {text : List Char} {data : Yaml.Data} {config : ReviewConfig}
      (holds : Holds content text) (read : Yaml.read text = .ok data)
      (filled : data.store.isVacant data.root = false) (describes : Describes data config) :
      Gives content config

/-- Why a file with a content is rejected: its text breaks a rule of YAML, or its data are
flawed. -/
inductive Rejects (path : FilePath) (content : List UInt8) : Fault → Prop where
  | malformed {text : List Char} (holds : Holds content text)
      (read : Yaml.read text = .error .malformed) : Rejects path content (.malformed path)
  | flawed {text : List Char} {data : Yaml.Data} {flaw : Flaw} (holds : Holds content text)
      (read : Yaml.read text = .ok data) (filled : data.store.isVacant data.root = false)
      (blames : Blames data (.flawed flaw)) : Rejects path content (.flawed path flaw)

/-- What breaks the loading of a content off: its bytes are those of no text, its text has no data
although no rule of YAML is broken, or its data have a field or a version without a text. In a text
without data there is an escape beyond the code points, a number in a directive with too many
digits, or a node without a value. -/
inductive BreaksOff (content : List UInt8) : Fault → Prop where
  | encoding {cause : Text.DecodeFault} (unwritten : ∀ text, content ≠ Text.encodeUtf8 text)
      (undecoded : Text.decodeUtf8 content = .error cause) : BreaksOff content (.encoding cause)
  | value {text : List Char} {cause : Yaml.Fault} (holds : Holds content text)
      (read : Yaml.read text = .error cause) (formed : cause ≠ .malformed)
      (breaks : Yaml.Breaks text cause) : BreaksOff content (.value cause)
  | length {text : List Char} {data : Yaml.Data} {cause : LengthFault} (holds : Holds content text)
      (read : Yaml.read text = .ok data) (filled : data.store.isVacant data.root = false)
      (blames : Blames data (.length cause)) : BreaksOff content (.length cause)

/-- A rejection is one. -/
theorem Rejects.isRejection {path : FilePath} {content : List UInt8} {fault : Fault}
    (rejects : Rejects path content fault) : fault.isRejection = true := by
  cases rejects <;> rfl

/-- What breaks the loading off is no rejection. -/
theorem BreaksOff.not_isRejection {content : List UInt8} {fault : Fault}
    (broken : BreaksOff content fault) : fault.isRejection = false := by
  cases broken <;> rfl

/-- Data come from a text as the reader of YAML gives them. -/
theorem ofText_eq (path : FilePath) (text : List Char) :
    ofText path text =
      match Yaml.read text with
      | .error .malformed => .error (.malformed path)
      | .error fault => .error (.value fault)
      | .ok found =>
        if found.store.isVacant found.root then .ok empty
        else (ofData found).mapError (.ofDataFault path) := rfl

/-- A text without data breaks off when no rule is broken. -/
theorem ofText_value {path : FilePath} {text : List Char} {cause : Yaml.Fault}
    (read : Yaml.read text = .error cause) (formed : cause ≠ .malformed) :
    ofText path text = .error (.value cause) := by
  rw [ofText_eq, read]
  cases cause with
  | malformed => exact absurd rfl formed
  | _ => rfl

/-- A text with data is as good as they are. -/
theorem ofText_data {path : FilePath} {text : List Char} {data : Yaml.Data}
    (read : Yaml.read text = .ok data) :
    ofText path text = if data.store.isVacant data.root then .ok empty
      else (ofData data).mapError (.ofDataFault path) := by
  rw [ofText_eq, read]

section

variable {files : FileSystem} {path : FilePath} {content : List UInt8}

/-- The loading of a content that holds no text. -/
theorem load_undecoded {cause : Text.DecodeFault} (present : files.read path = .ok content)
    (undecoded : Text.decodeUtf8 content = .error cause) :
    (load files path).result = .error (.encoding cause) := by
  rw [load, FileSystem.contains_of_read present, FileSystem.readText, present]
  simp only [undecoded]
  rfl

/-- The loading of a content that holds a text. -/
theorem load_of_holds {text : List Char} (present : files.read path = .ok content)
    (holds : Holds content text) : (load files path).result = ofText path text := by
  obtain ⟨written, rfl, rfl⟩ := holds
  rw [load, FileSystem.contains_of_read present, FileSystem.readText, present]
  simp only [Text.decodeUtf8_encodeUtf8]
  rfl

/-- A configuration that is given is loaded. -/
theorem Gives.load {config : ReviewConfig} (gives : Gives content config)
    (present : files.read path = .ok content) : (load files path).result = .ok config := by
  cases gives with
  | vacant holds read vacant =>
    rw [load_of_holds present holds, ofText_data read, if_pos vacant]
  | filled holds read filled describes =>
    rw [load_of_holds present holds, ofText_data read, if_neg (by simp [filled]),
      (ofData_ok_iff _ _).mpr describes]
    rfl

/-- The loading of a file that is rejected fails with the rejection. -/
theorem Rejects.load {fault : Fault} (rejects : Rejects path content fault)
    (present : files.read path = .ok content) : (load files path).result = .error fault := by
  cases rejects with
  | malformed holds read => rw [load_of_holds present holds, ofText_eq, read]
  | flawed holds read filled blames =>
    rw [load_of_holds present holds, ofText_data read, if_neg (by simp [filled]),
      (ofData_error_iff _ _).mpr blames]
    rfl

/-- A loading that is broken off fails with what breaks it off. -/
theorem BreaksOff.load {fault : Fault} (broken : BreaksOff content fault)
    (present : files.read path = .ok content) : (load files path).result = .error fault := by
  cases broken with
  | encoding _ undecoded => exact load_undecoded present undecoded
  | value holds read formed _ =>
    rw [load_of_holds present holds]
    exact ofText_value read formed
  | length holds read filled blames =>
    rw [load_of_holds present holds, ofText_data read, if_neg (by simp [filled]),
      (ofData_error_iff _ _).mpr blames]
    rfl

/-- A content gives a configuration, or its file is rejected, or it breaks the loading off. -/
theorem gives_or_rejects_or_breaksOff (path : FilePath) (content : List UInt8) :
    (∃ config, Gives content config) ∨ (∃ fault, Rejects path content fault) ∨
      ∃ fault, BreaksOff content fault := by
  cases decoded : Text.decodeUtf8 content with
  | error cause => exact .inr (.inr ⟨_, .encoding (Text.unwritten_of_error decoded) decoded⟩)
  | ok written =>
    have holds : Holds content (Text.uniformLineEnds written) :=
      ⟨.ofList written, (Text.decodeUtf8_ok_iff _ _).mp decoded, by rw [String.toList_ofList]⟩
    cases read : Yaml.read (Text.uniformLineEnds written) with
    | error cause =>
      by_cases formed : cause = .malformed
      · exact .inr (.inl ⟨_, .malformed holds (formed ▸ read)⟩)
      · have breaks := (Yaml.read_failsOnly _ cause read).resolve_left formed
        exact .inr (.inr ⟨_, .value holds read formed breaks⟩)
    | ok data =>
      cases vacant : data.store.isVacant data.root with
      | true => exact .inl ⟨_, .vacant holds read vacant⟩
      | false =>
        cases done : ofData data with
        | ok config => exact .inl ⟨config, .filled holds read vacant ((ofData_ok_iff _ _).mp done)⟩
        | error fault =>
          have blames := (ofData_error_iff _ _).mp done
          cases fault with
          | flawed flaw => exact .inr (.inl ⟨_, .flawed holds read vacant blames⟩)
          | length cause => exact .inr (.inr ⟨_, .length holds read vacant blames⟩)

variable (present : files.read path = .ok content)

include present

/-- The configurations that are loaded are those that the content gives. -/
theorem load_ok_iff (config : ReviewConfig) :
    (load files path).result = .ok config ↔ Gives content config := by
  refine ⟨?_, fun gives => gives.load present⟩
  intro done
  rcases gives_or_rejects_or_breaksOff path content with ⟨other, gives⟩ | ⟨_, rejects⟩ | ⟨_, broken⟩
  · rw [gives.load present] at done
    exact Except.ok.inj done ▸ gives
  · rw [rejects.load present] at done
    cases done
  · rw [broken.load present] at done
    cases done

/-- The loading fails with what rejects the file or breaks off. -/
theorem load_error_iff (fault : Fault) :
    (load files path).result = .error fault ↔
      Rejects path content fault ∨ BreaksOff content fault := by
  constructor
  · intro failed
    rcases gives_or_rejects_or_breaksOff path content with
      ⟨_, gives⟩ | ⟨_, rejects⟩ | ⟨_, broken⟩
    · rw [gives.load present] at failed
      cases failed
    · rw [rejects.load present] at failed
      exact .inl (Except.error.inj failed ▸ rejects)
    · rw [broken.load present] at failed
      exact .inr (Except.error.inj failed ▸ broken)
  · rintro (rejects | broken)
    · exact rejects.load present
    · exact broken.load present

/-- The faults that reject a file are those for which it is rejected. -/
theorem load_rejects_iff (fault : Fault) :
    (load files path).result = .error fault ∧ fault.isRejection = true ↔
      Rejects path content fault := by
  rw [load_error_iff present]
  constructor
  · rintro ⟨rejects | broken, rejection⟩
    · exact rejects
    · rw [broken.not_isRejection] at rejection
      cases rejection
  · intro rejects
    exact ⟨.inl rejects, rejects.isRejection⟩

/-- The other faults are those that break the loading off. -/
theorem load_breaksOff_iff (fault : Fault) :
    (load files path).result = .error fault ∧ fault.isRejection = false ↔
      BreaksOff content fault := by
  rw [load_error_iff present]
  constructor
  · rintro ⟨rejects | broken, escapes⟩
    · rw [rejects.isRejection] at escapes
      cases escapes
    · exact broken
  · intro broken
    exact ⟨.inr broken, broken.not_isRejection⟩

end

end ReviewConfig

end InfraReview
