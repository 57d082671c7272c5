import InfraReview.GitHub.Summary
import InfraReview.Proofs.GitHub.Publication

/-!
# Rows of findings

The row of a finding has five cells: its severity, its rule, its resource, its place and its
description. What stands in them is told here apart from how a row is made: in a cell, every bar has
a backslash before it and every line feed is a blank, and there is no white space at the ends.
-/

namespace InfraReview.GitHub

/-- A text in a cell. -/
def cellText (text : String) : String :=
  Text.trim (" ".intercalate (Text.splitAt '\n' ("\\|".intercalate (Text.splitAt '|' text))))

/-- The place that a finding names, in words. -/
def placeNamed (finding : Members) : String :=
  match fileOf? finding, lineOf? (Json.member finding "line") with
  | none, _ => ""
  | some file, none => file
  | some file, some line => file ++ ":" ++ toString line

/-- The cell for a place in words: a word stands for a blank one. -/
def cellForPlace (place : String) : String :=
  if cellText place = "" then "plan" else cellText place

/-- The row for a severity, a rule, a resource, a place and a description. -/
def rowWith (severity : Severity) (ruleId resource place description : String) : String :=
  "| " ++ severity.title ++ " | \x60" ++ cellText ruleId ++ "\x60 | \x60" ++ cellText resource
    ++ "\x60 | " ++ cellForPlace place ++ " | " ++ cellText description ++ " |"

/-- The row for a finding. -/
def rowFor (finding : Members) : String :=
  rowWith (severityOf (Json.member finding "severity")) (textOf finding "rule_id")
    (textOf finding "resource") (placeNamed finding) (textOf finding "description")

/-- The members whose texts stand in a row. -/
def rowMembers : List String := ["rule_id", "resource", "description"]

/-- A finding that can be shown in a row: its place can be told, and what stands in the row has a
text. -/
structure Showable (finding : Members) : Prop where
  place : Placeable finding
  texts : ∀ name ∈ rowMembers, Json.Short (Json.member finding name)

/-- Bars and line feeds are replaced character by character. -/
theorem cell_eq (text : String) : cell text = cellText text := by
  have each (c : Char) : cellChar c =
      (if c = '|' then ['\\', '|'] else [c]).flatMap fun d => if d = '\n' then [' '] else [d] := by
    unfold cellChar
    split_ifs with bar feed
    · decide
    · simp [feed]
    · simp [feed]
  have replaced : (" ".intercalate (Text.splitAt '\n'
      ("\\|".intercalate (Text.splitAt '|' text)))).toList = text.toList.flatMap cellChar := by
    rw [Text.toList_intercalate_splitAt, Text.toList_intercalate_splitAt, List.flatMap_assoc]
    exact List.flatMap_congr fun c _ => (each c).symm
  rw [cell, cellText, ← replaced, String.ofList_toList]

/-- A finding has its place in words exactly when it is placeable. -/
theorem placed_text_iff {finding : Members} {text : String} :
    (∃ place, placeOf finding = .ok place ∧ placeText place = .ok text) ↔
      Placeable finding ∧ placeNamed finding = text := by
  refine placeable_iff ?_
  rw [placeNamed]
  cases fileOf? finding with
  | none => simp [placed, placeText]
  | some file =>
    cases named : lineOf? (Json.member finding "line") with
    | none => simp [placed, placeText]
    | some line =>
      have least : 1 ≤ line := one_le_line named
      have nonzero : line ≠ 0 := by omega
      simp only [placed, placeText, Option.getD_some, nonzero, if_false]
      constructor
      · intro done
        obtain ⟨digits, own, rfl⟩ := ok_of_map done
        obtain ⟨short, rfl⟩ := digits_ok_iff.mp own
        exact ⟨by simp [short], rfl⟩
      · rintro ⟨short, rfl⟩
        rw [digits_ok_iff.mpr ⟨short (Option.some_ne_none _) line rfl, rfl⟩]
        rfl

/-- A finding has a row exactly when it can be shown. -/
theorem findingRow_ok_iff {finding : Members} {row : String} :
    findingRow (.object finding) = .ok row ↔ Showable finding ∧ rowFor finding = row := by
  have texts : (∀ name ∈ rowMembers, Json.Short (Json.member finding name)) ↔
      Json.Short (Json.member finding "rule_id") ∧ Json.Short (Json.member finding "resource") ∧
        Json.Short (Json.member finding "description") := by
    simp [rowMembers]
  have worded (place : String) :
      (if (cell place).isEmpty then "plan" else cell place) = cellForPlace place := by
    simp [cellForPlace, cell_eq]
  constructor
  · intro done
    obtain ⟨_, ⟨⟩, done⟩ := ok_of_bind done
    obtain ⟨_, found, done⟩ := ok_of_bind done
    obtain ⟨_, made, done⟩ := ok_of_bind done
    obtain ⟨_, rule, done⟩ := ok_of_bind done
    obtain ⟨_, resource, done⟩ := ok_of_bind done
    obtain ⟨_, description, done⟩ := ok_of_bind done
    obtain ⟨placeable, rfl⟩ := placed_text_iff.mp ⟨_, found, made⟩
    obtain ⟨ruleShort, rfl⟩ := memberText_ok_iff.mp rule
    obtain ⟨resourceShort, rfl⟩ := memberText_ok_iff.mp resource
    obtain ⟨descriptionShort, rfl⟩ := memberText_ok_iff.mp description
    refine ⟨⟨placeable, texts.mpr ⟨ruleShort, resourceShort, descriptionShort⟩⟩, ?_⟩
    rw [← Except.ok.inj done, worded, cell_eq, cell_eq, cell_eq]
    rfl
  · rintro ⟨showable, rfl⟩
    obtain ⟨rule, resource, description⟩ := texts.mp showable.texts
    obtain ⟨_, found, made⟩ := placed_text_iff.mpr ⟨showable.place, rfl⟩
    rw [findingRow]
    refine bind_ok_iff.mpr ⟨finding, rfl, bind_ok_iff.mpr ⟨_, found, ?_⟩⟩
    refine bind_ok_iff.mpr ⟨_, made, ?_⟩
    refine bind_ok_iff.mpr ⟨_, memberText_ok_iff.mpr ⟨rule, rfl⟩, ?_⟩
    refine bind_ok_iff.mpr ⟨_, memberText_ok_iff.mpr ⟨resource, rfl⟩, ?_⟩
    refine bind_ok_iff.mpr ⟨_, memberText_ok_iff.mpr ⟨description, rfl⟩, ?_⟩
    rw [worded, cell_eq, cell_eq, cell_eq]
    rfl

end InfraReview.GitHub
