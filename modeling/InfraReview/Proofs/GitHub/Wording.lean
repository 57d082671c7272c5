import InfraReview.GitHub.Annotation
import InfraReview.Proofs.Json.Length
import InfraReview.Proofs.Report.Counting
import InfraReview.Proofs.Success

/-!
# What an annotation has to say

A published finding names its severity, its rule, its resource and what to do about it in texts of
its own. Here it is told, apart from how an annotation is made, which level belongs to a severity,
how a title goes on from one text to the next, and which sentences a message has.

A title and a message can be made exactly when no integer that is too long stands in one of the
parts that they quote.
-/

namespace InfraReview.GitHub

/-- A value names a severity: its text is the name of the severity, in any case and with any white
space around it. A value whose text is no such name, or that has no text, stands for the lowest
one. -/
inductive Names (document : Json) : Severity → Prop where
  | named {severity : Severity} {text : String} (shown : document.shown = .ok text)
      (same : Text.upper (Text.trim text) = severity.name) : Names document severity
  | other (unnamed : ∀ text, document.shown = .ok text →
      ∀ severity : Severity, Text.upper (Text.trim text) ≠ severity.name) : Names document .info

/-- The level that belongs to a severity. -/
def levelFor : Severity → String
  | .critical | .high => "error"
  | .medium => "warning"
  | .low | .info => "notice"

/-- The text of a member of a finding; it is empty when there is no such member. -/
def textOf (finding : Members) (name : String) : String :=
  match Json.member? finding name with
  | none => ""
  | some part => part.display.plain

/-- What a title goes on with. -/
def continued (text : String) : String := if text = "" then "" else " - " ++ text

/-- The title for a finding of a severity: the severity, and the rule and its name if it has any. -/
def titleFor (severity : Severity) (finding : Members) : String :=
  severity.title ++ continued (Text.trim (textOf finding "rule_id"))
    ++ continued (Text.trim (textOf finding "rule_name"))

/-- A member with words in front, unless it counts as nothing. -/
def prefaced (words : String) (finding : Members) (name : String) : List String :=
  if (Json.member finding name).isVacant then [] else [words ++ textOf finding name]

/-- The sentences of the message about a finding: its description if that is not blank, its resource
and its remediation. -/
def sentences (finding : Members) : List String :=
  let description := Text.trim (textOf finding "description")
  (if description = "" then [] else [description]) ++ prefaced "Resource: " finding "resource"
    ++ prefaced "Remediation: " finding "remediation"

/-- The message about a finding: its sentences with semicolons between them. -/
def bodyFor (finding : Members) : String :=
  match sentences finding with
  | [] => "Finding reported without description."
  | first :: others => "; ".intercalate (first :: others)

/-! ### Severities and levels -/

/-- The severity that is read from a value is the one that it names. -/
theorem names_severityOf (document : Json) : Names document (severityOf document) := by
  rw [severityOf]
  cases shown : document.shown with
  | error fault => exact .other (by simp [shown])
  | ok text =>
    dsimp only
    rw [Severity.parse?, Severity.ofName?]
    cases found : Severity.all.find? (·.name == Text.upper (Text.trim text)) with
    | some severity =>
      have same := List.find?_some found
      exact .named shown (beq_iff_eq.mp same).symm
    | none =>
      refine .other fun other same severity => ?_
      obtain rfl : text = other := Except.ok.inj (shown.symm.trans same)
      have unnamed := List.find?_eq_none.mp found severity severity.mem_all
      exact fun named => unnamed (beq_iff_eq.mpr named.symm)

/-- The level of an annotation is the one that belongs to the severity. -/
theorem annotationLevel_eq (severity : Severity) :
    annotationLevel severity = levelFor severity := by
  cases severity <;> rfl

/-! ### Texts of members -/

/-- A part has a text exactly when it is short. -/
theorem shown_ok_iff {part : Json} {text : String} :
    shown part = .ok text ↔ Json.Short part ∧ part.display.plain = text := by
  rw [← Json.shown_ok_iff]
  exact ⟨ok_of_mapError, fun done => by rw [shown, done]; rfl⟩

/-- A number is written in digits exactly when it is not too long. -/
theorem digits_ok_iff {number : Int} {text : String} :
    digits number = .ok text ↔ isLong number = false ∧ toString number = text := by
  rw [digits, shown_ok_iff, Json.short_int_iff]
  rfl

section

variable {finding : Members} {name text : String}

/-- A member has a text exactly when it is short. -/
theorem memberText_ok_iff : memberText finding name = .ok text ↔
    Json.Short (Json.member finding name) ∧ textOf finding name = text := by
  rw [memberText, shown_ok_iff, memberOr, textOf, Json.member, ← Json.member?]
  cases Json.member? finding name with
  | none => simp [Json.display, Text.Display.plain]
  | some part => rfl

/-- The same of the text without the white space around it. -/
theorem trimmedText_ok_iff : trimmedText finding name = .ok text ↔
    Json.Short (Json.member finding name) ∧ Text.trim (textOf finding name) = text := by
  rw [trimmedText]
  constructor
  · intro done
    obtain ⟨whole, own, rfl⟩ := ok_of_map done
    obtain ⟨short, rfl⟩ := memberText_ok_iff.mp own
    exact ⟨short, rfl⟩
  · rintro ⟨short, rfl⟩
    rw [memberText_ok_iff.mpr ⟨short, rfl⟩]
    rfl

/-- A member that does not count as nothing is there, and its text is that of its value. -/
theorem textOf_of_filled (filled : (Json.member finding name).isVacant = false) :
    textOf finding name = (Json.member finding name).display.plain := by
  rw [textOf]
  rw [Json.member, ← Json.member?] at filled ⊢
  cases found : Json.member? finding name with
  | none =>
    rw [found] at filled
    cases filled
  | some part => rfl

/-- A part with its name is a sentence of its own, or empty when it counts as nothing. -/
theorem labelledPart_ok_iff {label : String} :
    labelledPart label (Json.member finding name) = .ok text ↔
      Json.Short (Json.member finding name) ∧
        (prefaced (label ++ ": ") finding name).head?.getD "" = text := by
  unfold labelledPart prefaced
  cases vacant : (Json.member finding name).isVacant with
  | true => simp [Json.short_of_vacant vacant]
  | false =>
    rw [textOf_of_filled vacant]
    simp only [Bool.false_eq_true, if_false, List.head?_cons, Option.getD_some]
    constructor
    · intro done
      obtain ⟨part, own, rfl⟩ := ok_of_map done
      obtain ⟨short, rfl⟩ := shown_ok_iff.mp own
      exact ⟨short, rfl⟩
    · rintro ⟨short, rfl⟩
      rw [shown_ok_iff.mpr ⟨short, rfl⟩]
      rfl

end

/-! ### Titles and messages -/

section

variable {finding : Members}

/-- A title goes on from its severity with the texts that are not empty. -/
theorem joined_title (severity : Severity) (ruleId ruleName : String) :
    joined " - " [severity.title, ruleId, ruleName] =
      severity.title ++ continued ruleId ++ continued ruleName := by
  have filled : severity.title ≠ "" := by cases severity <;> decide
  unfold joined continued
  by_cases noId : ruleId = "" <;> by_cases noName : ruleName = "" <;>
    simp [filled, noId, noName, String.append_assoc]

/-- A title can be made exactly when the rule and its name are short. -/
theorem titleOf_ok_iff {title : String} : titleOf finding = .ok title ↔
    (Json.Short (Json.member finding "rule_id") ∧ Json.Short (Json.member finding "rule_name")) ∧
      titleFor (severityOf (Json.member finding "severity")) finding = title := by
  simp only [titleOf, bind_ok_iff, trimmedText_ok_iff, Except.ok.injEq, joined_title]
  constructor
  · rintro ⟨_, ⟨idShort, rfl⟩, _, ⟨nameShort, rfl⟩, rfl⟩
    exact ⟨⟨idShort, nameShort⟩, rfl⟩
  · rintro ⟨⟨idShort, nameShort⟩, rfl⟩
    exact ⟨_, ⟨idShort, rfl⟩, _, ⟨nameShort, rfl⟩, rfl⟩

/-- What is left of a sentence that may be missing. -/
theorem filter_prefaced {words : String} (spoken : words ≠ "") (name : String) :
    [(prefaced words finding name).head?.getD ""].filter (!·.isEmpty) =
      prefaced words finding name := by
  unfold prefaced
  split_ifs
  · rfl
  · simp [spoken]

/-- The parts of a message that are not empty are its sentences. -/
theorem filter_parts :
    [Text.trim (textOf finding "description"),
      (prefaced "Resource: " finding "resource").head?.getD "",
      (prefaced "Remediation: " finding "remediation").head?.getD ""].filter (!·.isEmpty) =
        sentences finding := by
  have described (text : String) :
      [text].filter (!·.isEmpty) = if text = "" then [] else [text] := by
    by_cases empty : text = "" <;> simp [empty]
  change ([_] ++ [_] ++ [_]).filter _ = _
  rw [List.filter_append, List.filter_append, described, filter_prefaced (by decide),
    filter_prefaced (by decide), sentences]

/-- No sentence of a message is empty. -/
theorem filled_of_mem_sentences {sentence : String} (member : sentence ∈ sentences finding) :
    sentence ≠ "" := by
  rw [← filter_parts] at member
  simpa using (List.mem_filter.mp member).2

/-- The sentences of a message are joined, and words stand for a message without any. -/
theorem joined_sentences :
    (if ("; ".intercalate (sentences finding)).isEmpty then "Finding reported without description."
      else "; ".intercalate (sentences finding)) = bodyFor finding := by
  rw [bodyFor]
  cases told : sentences finding with
  | nil => rw [String.intercalate_nil, if_pos (by decide)]
  | cons first others =>
    have spoken : first ≠ "" := filled_of_mem_sentences (told ▸ List.mem_cons_self)
    have body : ("; ".intercalate (first :: others)).isEmpty = false := by
      cases others <;> simp [spoken]
    rw [body, if_neg Bool.false_ne_true]

/-- A message can be made exactly when the description, the resource and the remediation are
short. -/
theorem bodyOf_ok_iff {body : String} : bodyOf finding = .ok body ↔
    (Json.Short (Json.member finding "description") ∧
      Json.Short (Json.member finding "resource") ∧
      Json.Short (Json.member finding "remediation")) ∧ bodyFor finding = body := by
  have resource : "Resource" ++ ": " = "Resource: " := by decide
  have remediation : "Remediation" ++ ": " = "Remediation: " := by decide
  simp only [bodyOf, bind_ok_iff, trimmedText_ok_iff, labelledPart_ok_iff, Except.ok.injEq,
    resource, remediation, ← joined_sentences, ← filter_parts]
  constructor
  · rintro ⟨_, ⟨described, rfl⟩, _, ⟨placed, rfl⟩, _, ⟨advised, rfl⟩, rfl⟩
    exact ⟨⟨described, placed, advised⟩, rfl⟩
  · rintro ⟨⟨described, placed, advised⟩, rfl⟩
    exact ⟨_, ⟨described, rfl⟩, _, ⟨placed, rfl⟩, _, ⟨advised, rfl⟩, rfl⟩

end

end InfraReview.GitHub
