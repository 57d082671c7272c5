import Mathlib.Data.List.Forall2
import InfraReview.Proofs.GitHub.Command
import InfraReview.Proofs.GitHub.Wording
import InfraReview.Proofs.Number.Whole

/-!
# Annotations that are read back

Every finding of a published report is one line, and the line says what the finding says: the level
of its severity, its file and its line if it has any, its title and its message. Whatever the
members of the finding hold, nothing in them is taken for a part of the command or for another one.

A finding has no annotation when it names a file and a line that is no number, infinite or too long,
or when one of the texts to be written holds an integer that is too long.
-/

namespace InfraReview.GitHub

open Command

/-- The file that a finding names. A blank text is none, and so is the name of a plan. -/
def fileOf? (finding : Members) : Option String :=
  let file := Text.trim (orElse (Json.member finding "file") (.string "")).display.plain
  if file.isEmpty || file = Plan.sourceName then none else some file

/-- The line that a value names: an integer from one on, or the whole part of such a number. -/
def lineOf? : Json → Option Int
  | .int line => if 1 ≤ line then some line else none
  | .double (.finite false magnitude) =>
    if 1 ≤ magnitude.floor then some magnitude.floor else none
  | _ => none

/-- A number that is no line, although it is not below one. -/
def IsEndless (document : Json) : Prop :=
  document = .double .nan ∨ document = .double (.infinity false)

/-- A finding whose place can be told: what it says about its file has a text, and when it names a
file, its line has an end and is not too long. -/
structure Placeable (finding : Members) : Prop where
  file : Json.Short (Json.member finding "file")
  line : fileOf? finding ≠ none → ¬ IsEndless (Json.member finding "line") ∧
    ∀ line ∈ lineOf? (Json.member finding "line"), isLong line = false

/-- The members of a finding that its title and its message quote. -/
def quotedMembers : List String :=
  ["rule_id", "rule_name", "description", "resource", "remediation"]

/-- A finding that can be published: its place can be told, and what is quoted has a text. -/
structure Accepted (finding : Members) : Prop where
  place : Placeable finding
  texts : ∀ name ∈ quotedMembers, Json.Short (Json.member finding name)

/-- The file and the line that a finding names, as a place. -/
def placed (file : Option String) (line : Option Int) : String × Int :=
  match file with
  | none => ("", 0)
  | some file => (file, line.getD 0)

/-- The properties for a file and a line. A line without a file is none. -/
def placeEntries (file : Option String) (line : Option Int) : List (String × String) :=
  match file with
  | none => []
  | some file => ("file", file) :: (line.map fun line => ("line", toString line)).toList

/-- The properties of a finding with a file, a line and a title. -/
def entries (file : Option String) (line : Option Int) (title : String) :
    List (String × String) :=
  placeEntries file line ++ [("title", title)]

/-- What is to be read in the annotation of a finding of a severity: the level of the severity, the
file and the line as far as the finding names them, the title, and the message. -/
def said (severity : Severity) (finding : Members) : Command where
  level := levelFor severity
  properties :=
    entries ((fileOf? finding).map withoutReturns) (lineOf? (Json.member finding "line"))
      (withoutReturns (titleFor severity finding))
  body := withoutReturns (bodyFor finding)

/-- The findings of a report, of which each is an object. What counts as nothing has none. -/
inductive Lists (parts : Members) : List Members → Prop where
  | nothing (vacant : (Json.member parts "findings").isVacant = true) : Lists parts []
  | objects {findings : List Members}
      (given : Json.member parts "findings" = .array (findings.map .object)) : Lists parts findings

/-! ### The place of a finding -/

/-- A magnitude is below one exactly when its whole part is. -/
theorem isBelow_one_iff (m : Magnitude) :
    Double.isBelow (.finite false m) 1 = true ↔ ¬ 1 ≤ m.floor := by
  have positive := m.denominator_pos
  have whole : 1 ≤ m.floor ↔ m.toQuotient.2 ≤ m.toQuotient.1 := by
    rw [Magnitude.floor, Nat.le_div_iff_mul_le positive, Nat.one_mul]
  rw [whole]
  simp only [Double.isBelow, Bool.false_eq_true, if_false, Int.one_mul, decide_eq_true_eq]
  omega

/-- A negative number is below one. -/
theorem isBelow_one_negative (m : Magnitude) :
    Double.isBelow (.finite true m) 1 = true := by
  have positive := m.denominator_pos
  simp only [Double.isBelow, if_true, Int.one_mul, decide_eq_true_eq]
  omega

/-- A value stands for the line that it names, unless it is endless. -/
theorem lineIn_ok_iff {document : Json} {number : Int} : lineIn document = .ok number ↔
    ¬ IsEndless document ∧ (lineOf? document).getD 0 = number := by
  cases document with
  | int line =>
    have finite : ¬ IsEndless (.int line) := by rintro (same | same) <;> cases same
    by_cases below : line < 1
    · simp [lineIn, lineOf?, finite, below, Int.not_le.mpr below]
    · simp [lineIn, lineOf?, finite, below, Int.not_lt.mp below]
  | double line =>
    cases line with
    | nan => exact iff_of_false (by rintro ⟨⟩) fun shown => shown.1 (.inl rfl)
    | infinity negative =>
      cases negative with
      | false => exact iff_of_false (by rintro ⟨⟩) fun shown => shown.1 (.inr rfl)
      | true => simp [lineIn, lineOf?, IsEndless, Double.isBelow]
    | finite negative magnitude =>
      have finite : ¬ IsEndless (.double (.finite negative magnitude)) := by
        rintro (same | same) <;> cases same
      cases negative with
      | true => simp [lineIn, lineOf?, finite, isBelow_one_negative]
      | false =>
        have below := isBelow_one_iff magnitude
        by_cases whole : 1 ≤ magnitude.floor
        · have above : Double.isBelow (.finite false magnitude) 1 = false := by
            simpa [whole] using below
          simp [lineIn, lineOf?, finite, above, whole, Numeral.ofDouble, Double.truncate,
            Except.mapError]
        · simp [lineIn, lineOf?, finite, below.mpr whole, whole]
  | _ => simp [lineIn, lineOf?, IsEndless]

/-- What a finding says about its file has a text exactly when it is short. -/
theorem fileText_ok_iff {finding : Members} {file : String} :
    (shown (orElse (Json.member finding "file") (.string ""))).map Text.trim = .ok file ↔
      Json.Short (Json.member finding "file") ∧
        Text.trim (orElse (Json.member finding "file") (.string "")).display.plain = file := by
  have kept : Json.Short (orElse (Json.member finding "file") (.string "")) ↔
      Json.Short (Json.member finding "file") := by
    unfold orElse
    split
    · rename_i vacant
      exact iff_of_true (.string "") (Json.short_of_vacant vacant)
    · exact Iff.rfl
  constructor
  · intro done
    obtain ⟨text, own, rfl⟩ := ok_of_map done
    obtain ⟨short, rfl⟩ := shown_ok_iff.mp own
    exact ⟨kept.mp short, rfl⟩
  · rintro ⟨short, rfl⟩
    rw [shown_ok_iff.mpr ⟨kept.mpr short, rfl⟩]
    rfl

/-- A finding has a place when what it says about its file is short and, if it names a file, its
line is not endless. The place is its file and its line, as far as it has any. -/
theorem placeOf_ok_iff {finding : Members} {place : String × Int} : placeOf finding = .ok place ↔
    (Json.Short (Json.member finding "file") ∧
      (fileOf? finding ≠ none → ¬ IsEndless (Json.member finding "line"))) ∧
      placed (fileOf? finding) (lineOf? (Json.member finding "line")) = place := by
  rw [placeOf, bind_ok_iff]
  simp only [fileText_ok_iff, and_assoc, exists_and_left]
  refine and_congr_right fun _ => ?_
  rw [exists_eq_left', fileOf?]
  split
  · simp [placed]
  · constructor
    · intro done
      obtain ⟨line, own, rfl⟩ := ok_of_map done
      obtain ⟨finite, rfl⟩ := lineIn_ok_iff.mp own
      exact ⟨fun _ => finite, rfl⟩
    · rintro ⟨finite, rfl⟩
      rw [lineIn_ok_iff.mpr ⟨finite (Option.some_ne_none _), rfl⟩]
      rfl

/-- What is made of the place of a finding, and can be made unless the line is too long, can be
made exactly when the finding is placeable. -/
theorem placeable_iff {α : Type} {next : String × Int → Except Fault α} {result : α} {same : Prop}
    {finding : Members}
    (made : next (placed (fileOf? finding) (lineOf? (Json.member finding "line"))) = .ok result ↔
      (fileOf? finding ≠ none →
        ∀ line ∈ lineOf? (Json.member finding "line"), isLong line = false) ∧ same) :
    (∃ place, placeOf finding = .ok place ∧ next place = .ok result) ↔
      Placeable finding ∧ same := by
  constructor
  · rintro ⟨_, found, done⟩
    obtain ⟨⟨file, finite⟩, rfl⟩ := placeOf_ok_iff.mp found
    obtain ⟨short, holds⟩ := made.mp done
    exact ⟨⟨file, fun named => ⟨finite named, short named⟩⟩, holds⟩
  · rintro ⟨placeable, holds⟩
    exact ⟨_, placeOf_ok_iff.mpr ⟨⟨placeable.file, fun named => (placeable.line named).1⟩, rfl⟩,
      made.mpr ⟨fun named => (placeable.line named).2, holds⟩⟩

/-! ### The annotation of a finding -/

/-- Digits are written as they are, and hold no carriage return. -/
theorem property_digits {text : String} (digits : ∀ c ∈ text.toList, c.isDigit = true) :
    property text = text ∧ withoutReturns text = text := by
  have other {c : Char} (member : c ∈ text.toList) {d : Char} (noDigit : d.isDigit = false) :
      c ≠ d := by
    rintro rfl
    rw [digits c member] at noDigit
    cases noDigit
  constructor
  · have kept : text.toList.flatMap propertyChar = text.toList.flatMap fun c => [c] := by
      apply List.flatMap_congr
      intro c member
      rw [propertyChar, if_neg (other member (by decide)), if_neg (other member (by decide)),
        messageChar, if_neg (other member (by decide)), if_neg (other member (by decide)),
        if_neg (other member (by decide))]
    rw [property, kept, List.flatMap_singleton', String.ofList_toList]
  · have kept : text.toList.filter (· ≠ '\r') = text.toList := by
      apply List.filter_eq_self.mpr
      intro c member
      simpa using other member (by decide)
    rw [withoutReturns, kept, String.ofList_toList]

/-- A file that is named has a name. -/
theorem filled_of_named {finding : Members} {file : String} (named : fileOf? finding = some file) :
    file.isEmpty = false := by
  unfold fileOf? at named
  dsimp only at named
  split at named
  · cases named
  · rename_i filled
    rw [← Option.some.inj named]
    simp_all

/-- The line that a value names is not below one. -/
theorem one_le_line {document : Json} {line : Int} (named : lineOf? document = some line) :
    1 ≤ line := by
  unfold lineOf? at named
  split at named
  all_goals
    try split_ifs at named
    try cases named
    try omega

/-- A number from one on is written in digits. -/
theorem toString_digits {line : Int} (positive : 1 ≤ line) :
    ∀ c ∈ (toString line).toList, c.isDigit = true := by
  obtain ⟨number, rfl⟩ := Int.eq_ofNat_of_zero_le (Int.le_trans (by decide) positive)
  have digits : (toString (number : Int)).toList = Nat.toDigits 10 number := by
    change (Nat.repr number).toList = _
    simp [Nat.repr]
  rw [digits]
  intro c member
  exact Nat.isDigit_of_mem_toDigits (by decide) (by decide) member

/-- A level is a word. -/
theorem level_word (severity : Severity) : IsWord (levelFor severity) := by
  cases severity <;> decide

section

variable (file : Option String) (line : Option Int) (title : String)
  (positive : ∀ number ∈ line, 1 ≤ number)

/-- The keys of properties are words. -/
theorem entries_words : ∀ entry ∈ entries file line title, IsWord entry.1 := by
  have fileWord : IsWord "file" := by decide
  have lineWord : IsWord "line" := by decide
  have titleWord : IsWord "title" := by decide
  cases file <;> cases line <;> simp [entries, placeEntries, fileWord, lineWord, titleWord]

include positive in
/-- Of the properties of a finding, the texts are read without their carriage returns. -/
theorem entries_meant :
    (entries file line title).map meant =
      entries (file.map withoutReturns) line (withoutReturns title) := by
  cases file with
  | none => rfl
  | some file =>
    cases line with
    | none => rfl
    | some number =>
      have kept := (property_digits (toString_digits (positive number rfl))).2
      change [meant ("file", file), ("line", withoutReturns (toString number)),
        meant ("title", title)] = _
      rw [kept]
      rfl

include positive in
/-- A place has its properties exactly when the line is not too long, if there is a file. They are
written one by one. -/
theorem placeProperties_ok_iff (filled : ∀ name ∈ file, name.isEmpty = false)
    {properties : List String} : placeProperties (placed file line) = .ok properties ↔
      (file ≠ none → ∀ number ∈ line, isLong number = false) ∧
        (placeEntries file line).map written = properties := by
  have fileProperty (text : String) : written ("file", text) = "file=" ++ property text := by
    simp [written]
  cases file with
  | none => simp [placeProperties, placed, placeEntries]
  | some file =>
    have named : file.isEmpty = false := filled file rfl
    cases line with
    | none => simp [placeProperties, placed, placeEntries, fileProperty, named]
    | some number =>
      have least : 1 ≤ number := positive number rfl
      have nonzero : number ≠ 0 := by omega
      have lineProperty : written ("line", toString number) = "line=" ++ toString number := by
        rw [written, (property_digits (toString_digits least)).1]
        rfl
      simp only [placeProperties, placed, placeEntries, named, Option.getD_some, nonzero,
        Bool.false_eq_true, if_false, Option.map_some, Option.toList_some, List.map_cons,
        List.map_nil, fileProperty, lineProperty]
      constructor
      · intro done
        obtain ⟨text, own, rfl⟩ := ok_of_map done
        obtain ⟨short, rfl⟩ := digits_ok_iff.mp own
        exact ⟨by simp [short], rfl⟩
      · rintro ⟨short, rfl⟩
        rw [digits_ok_iff.mpr ⟨short (Option.some_ne_none _) number rfl, rfl⟩]
        rfl

end

/-- The line that is printed for a finding. -/
def lineFor (finding : Members) : String :=
  let severity := severityOf (Json.member finding "severity")
  line (levelFor severity)
    (entries (fileOf? finding) (lineOf? (Json.member finding "line")) (titleFor severity finding))
    (bodyFor finding)

/-- A finding has its place among the properties exactly when it is placeable. -/
theorem placed_properties_iff {finding : Members} {properties : List String} :
    (∃ place, placeOf finding = .ok place ∧ placeProperties place = .ok properties) ↔
      Placeable finding ∧
        (placeEntries (fileOf? finding) (lineOf? (Json.member finding "line"))).map written =
          properties :=
  placeable_iff (placeProperties_ok_iff _ _ (fun _ named => one_le_line named)
    (fun _ named => filled_of_named named))

/-- A finding has an annotation exactly when it is accepted, and it is the line for the finding. -/
theorem annotation_ok_iff {finding : Members} {line : String} :
    annotation (.object finding) = .ok line ↔ Accepted finding ∧ lineFor finding = line := by
  have texts : (∀ name ∈ quotedMembers, Json.Short (Json.member finding name)) ↔
      (Json.Short (Json.member finding "rule_id") ∧ Json.Short (Json.member finding "rule_name")) ∧
        Json.Short (Json.member finding "description") ∧
        Json.Short (Json.member finding "resource") ∧
        Json.Short (Json.member finding "remediation") := by
    simp [quotedMembers, and_assoc]
  have titled (text : String) : "title=" ++ property text = written ("title", text) := by
    simp [written]
  constructor
  · intro done
    obtain ⟨_, ⟨⟩, done⟩ := ok_of_bind done
    obtain ⟨_, title, done⟩ := ok_of_bind done
    obtain ⟨_, body, done⟩ := ok_of_bind done
    obtain ⟨_, found, done⟩ := ok_of_bind done
    obtain ⟨_, made, done⟩ := ok_of_bind done
    obtain ⟨titleTexts, rfl⟩ := titleOf_ok_iff.mp title
    obtain ⟨bodyTexts, rfl⟩ := bodyOf_ok_iff.mp body
    obtain ⟨placeable, rfl⟩ := placed_properties_iff.mp ⟨_, found, made⟩
    refine ⟨⟨placeable, texts.mpr ⟨titleTexts, bodyTexts⟩⟩, ?_⟩
    rw [← Except.ok.inj done, annotationLevel_eq, titled]
    simp [lineFor, Command.line, entries]
  · rintro ⟨accepted, rfl⟩
    obtain ⟨titleTexts, bodyTexts⟩ := texts.mp accepted.texts
    obtain ⟨_, found, made⟩ := placed_properties_iff.mpr ⟨accepted.place, rfl⟩
    rw [ annotation]
    refine bind_ok_iff.mpr ⟨finding, rfl, ?_⟩
    refine bind_ok_iff.mpr ⟨_, titleOf_ok_iff.mpr ⟨titleTexts, rfl⟩, ?_⟩
    refine bind_ok_iff.mpr ⟨_, bodyOf_ok_iff.mpr ⟨bodyTexts, rfl⟩, ?_⟩
    refine bind_ok_iff.mpr ⟨_, found, bind_ok_iff.mpr ⟨_, made, ?_⟩⟩
    rw [annotationLevel_eq, titled]
    simp [lineFor, Command.line, entries]

/-- The line for a finding holds no line end, and is read back as what is to be said of it. -/
theorem lineFor_read (finding : Members) :
    (∀ c ∈ (lineFor finding).toList, c ≠ '\n' ∧ c ≠ '\r') ∧
      read? (lineFor finding) =
        some (said (severityOf (Json.member finding "severity")) finding) := by
  have level := level_word (severityOf (Json.member finding "severity"))
  have words := entries_words (fileOf? finding) (lineOf? (Json.member finding "line"))
    (titleFor (severityOf (Json.member finding "severity")) finding)
  constructor
  · intro c member
    exact mem_line level words member
  · rw [lineFor, read_line level words (by simp [entries])]
    rw [entries_meant _ _ _ fun number named => one_le_line named]
    rfl

/-! ### The annotations of a report -/

/-- The annotations of a report are those of the findings that it lists. -/
theorem annotations_lists {parts : Members} {findings : List Members}
    (lists : Lists parts findings) :
    annotations (.object parts) = (findings.map .object).mapM annotation := by
  have given : items (orElse (Json.member parts "findings") (.array [])) =
      .ok (findings.map .object) := by
    cases lists with
    | nothing vacant => simp [orElse, vacant, items]
    | objects given =>
      cases findings with
      | nil => simp [orElse, given, Json.isVacant, items]
      | cons finding others => simp [orElse, given, Json.isVacant, items]
  unfold annotations
  rw [members]
  change (items (orElse (Json.member parts "findings") (.array [])) >>= _) = _
  rw [given]
  rfl

/-- Annotations can be read back. A report whose findings are objects has its annotations exactly
when each finding is accepted. There is one for each finding in order; it is one line, and what is
read in it is what is to be said of the finding: the level of the severity that it names, its file,
its line, its title and its message, the texts without carriage returns and otherwise as they
are. -/
theorem annotations_read_back {parts : Members} {findings : List Members}
    (lists : Lists parts findings) :
    ((∃ lines, annotations (.object parts) = .ok lines) ↔
      ∀ finding ∈ findings, Accepted finding) ∧
      ∀ lines, annotations (.object parts) = .ok lines →
        List.Forall₂ (fun finding line =>
          (∀ c ∈ line.toList, c ≠ '\n' ∧ c ≠ '\r') ∧
            ∃ severity, Names (Json.member finding "severity") severity ∧
              read? line = some (said severity finding))
          findings lines := by
  have each (lines : List String) : annotations (.object parts) = .ok lines ↔
      List.Forall₂ (fun finding line => Accepted finding ∧ lineFor finding = line)
        findings lines := by
    rw [annotations_lists lists, List.mapM_map, mapM_ok_iff]
    simp only [Function.comp_apply, annotation_ok_iff]
  simp only [each]
  refine ⟨⟨?_, fun accepted => ⟨findings.map lineFor, ?_⟩⟩, ?_⟩
  · rintro ⟨lines, done⟩
    exact ((List.forall₂_and_left findings lines).mp done).1
  · rw [List.forall₂_map_right_iff, List.forall₂_same]
    exact fun finding given => ⟨accepted finding given, rfl⟩
  · intro lines done
    refine done.imp fun finding line made => ?_
    obtain ⟨_, rfl⟩ := made
    obtain ⟨oneLine, read⟩ := lineFor_read finding
    exact ⟨oneLine, _, names_severityOf _, read⟩

/-- A finding whose texts would end the parts of a command and begin another one. -/
def intruder : Members :=
  [("severity", .string " high"), ("rule_id", .string "S3,1"), ("rule_name", .string "a%3Ab"),
    ("file", .string " x::y,%2C\r.tf "), ("line", .int 7),
    ("description", .string "first\n::error file=z::%0A%25"),
    ("resource", .array [.string "t.n", .int 2]), ("remediation", .string "fix; then\r\n::end")]

/-- The texts of an intruder are read back, each in its own place. -/
theorem intruder_read_back :
    Lists [("findings", .array [.object intruder])] [intruder] ∧
      ∃ line, annotations (.object [("findings", .array [.object intruder])]) = .ok [line] ∧
        (∀ c ∈ line.toList, c ≠ '\n' ∧ c ≠ '\r') ∧
        read? line = some {
          level := "error"
          properties :=
            [("file", "x::y,%2C.tf"), ("line", "7"), ("title", "High - S3,1 - a%3Ab")]
          body := "first\n::error file=z::%0A%25; Resource: ['t.n', 2]; " ++
            "Remediation: fix; then\n::end" } := by
  have lists : Lists [("findings", .array [.object intruder])] [intruder] := .objects rfl
  have accepted : Accepted intruder := by
    have short : Json.Short (.object intruder) := by
      simp +decide [intruder]
    refine ⟨⟨short.member _, fun _ => ⟨?_, ?_⟩⟩, fun name _ => short.member name⟩
    · rintro (same | same) <;> cases same
    · rintro _ ⟨⟩
      decide +kernel
  have report := annotations_read_back lists
  obtain ⟨lines, done⟩ := report.1.mpr fun finding given => by
    rw [List.mem_singleton.mp given]
    exact accepted
  have content : said .high intruder = {
      level := "error"
      properties := [("file", "x::y,%2C.tf"), ("line", "7"), ("title", "High - S3,1 - a%3Ab")]
      body := "first\n::error file=z::%0A%25; Resource: ['t.n', 2]; " ++
        "Remediation: fix; then\n::end" } := by
    decide +kernel
  refine ⟨lists, ?_⟩
  cases report.2 lines done with
  | cons read none =>
    cases none
    obtain ⟨oneLine, severity, names, read⟩ := read
    have high : severity = .high := by
      cases names with
      | named shown same =>
        cases shown
        revert same
        cases severity <;> decide +kernel
      | other unnamed => exact absurd (by decide +kernel) (unnamed _ rfl .high)
    rw [high] at read
    exact ⟨_, done, oneLine, read.trans (congrArg some content)⟩

end InfraReview.GitHub
