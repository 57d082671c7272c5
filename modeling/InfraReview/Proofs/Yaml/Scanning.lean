import InfraReview.Proofs.Blame
import InfraReview.Yaml.Tokens

/-!
# Faults of tokens

A text is divided into tokens by many rules, and breaking any of them is a fault of the form. Only
two things can go wrong that are no matter of form: an escape between double quotes may announce a
code point beyond the last one, and a number in a directive may have too many digits. Every part of
the division is followed here down to that.
-/

namespace InfraReview.Yaml

/-- The faults of dividing a text: a rule is broken, an escape is beyond the code points, or a
number in a directive has too many digits. -/
inductive IsScanFault : Fault → Prop where
  | malformed : IsScanFault .malformed
  | escape {code : Nat} {fault : Fault} (beyond : 0x110000 ≤ code)
      (lacking : charOfCode code = .error fault) : IsScanFault fault
  | version {digits : Nat} (long : maxDigits < digits) : IsScanFault (.length (.read digits))

/-- A broken rule. -/
theorem broken {α : Type} : FailsOnly IsScanFault (.error .malformed : Except Fault α) :=
  .error .malformed

/-! ### Names, tags and directives -/

/-- A name has no other faults. -/
theorem name_blamed (cursor : Cursor) : FailsOnly IsScanFault (name cursor) :=
  .choice broken (.ok _)

/-- The name of an anchor has no other faults. -/
theorem anchorName_blamed (cursor : Cursor) : FailsOnly IsScanFault (anchorName cursor) :=
  (name_blamed cursor.step).bind fun _ => .choice (.ok _) broken

/-- Spelled bytes have no other faults. -/
theorem spelledBytes_blamed (fuel : Nat) (cursor : Cursor) :
    FailsOnly IsScanFault (spelledBytes fuel cursor) := by
  induction fuel generalizing cursor with
  | zero => exact broken
  | succ fuel inductionHypothesis =>
    rw [spelledBytes]
    split
    · split
      · exact (inductionHypothesis _).bind fun _ => .ok _
      · exact broken
    · exact .ok _

/-- The characters of a tag have no other faults. -/
theorem tagChars_blamed (fuel : Nat) (cursor : Cursor) :
    FailsOnly IsScanFault (tagChars fuel cursor) := by
  induction fuel generalizing cursor with
  | zero => exact broken
  | succ fuel inductionHypothesis =>
    have decoded (bytes : List UInt8) : FailsOnly IsScanFault
        ((Text.decodeUtf8 bytes).mapError fun _ => Fault.malformed) := by
      intro fault failed
      obtain ⟨_, _, rfl⟩ := error_of_mapError failed
      exact .malformed
    rw [tagChars]
    split
    · exact .ok _
    · refine .choice ?_ (.choice ?_ (.ok _))
      · refine (spelledBytes_blamed _ _).bind fun _ => (decoded _).bind fun _ => ?_
        exact (inductionHypothesis _).bind fun _ => .ok _
      · exact (inductionHypothesis _).bind fun _ => .ok _

/-- The text of a tag has no other faults. -/
theorem tagText_blamed (cursor : Cursor) : FailsOnly IsScanFault (tagText cursor) :=
  (tagChars_blamed _ _).bind fun _ => .choice (.ok _) broken

/-- A handle has no other faults. -/
theorem tagHandle_blamed (cursor : Cursor) : FailsOnly IsScanFault (tagHandle cursor) :=
  .choice (.choice (.ok _) (.choice (.ok _) broken)) broken

/-- A tag has no other faults. -/
theorem tagName_blamed (cursor : Cursor) : FailsOnly IsScanFault (tagName cursor) := by
  -- what has been found counts if a name can end behind it
  have ended (found : TagName × Cursor) : FailsOnly IsScanFault
      (if endsName found.2.next? then .ok found else .error .malformed : Except Fault _) :=
    .choice (.ok _) broken
  unfold tagName
  dsimp only
  refine .choice ?_ (.choice ?_ (.choice ?_ ?_))
  · refine (tagText_blamed _).bind fun _ => .choice ?_ ?_
    · exact ended _
    · exact broken
  · exact ended _
  · exact (tagHandle_blamed _).bind fun _ => (tagText_blamed _).bind fun _ => ended _
  · exact (tagText_blamed _).bind fun _ => ended _

/-- A number of a version has no other faults. -/
theorem versionNumber_blamed (cursor : Cursor) :
    FailsOnly IsScanFault (versionNumber cursor) := by
  refine .choice broken ?_
  intro fault failed
  split at failed
  · rename_i long
    cases failed
    exact .version long
  · cases failed

/-- A directive has no other faults. -/
theorem directive_blamed (cursor : Cursor) : FailsOnly IsScanFault (directive cursor) := by
  -- what has been found counts if the line ends behind it
  have ended (found : Directive × Cursor) : FailsOnly IsScanFault
      (let ending := found.2.skipBlanks.skipComment
        if endsLine ending.next? then .ok (found.1, ending.step) else .error .malformed) :=
    .choice (.ok _) broken
  unfold directive
  refine (name_blamed _).bind fun _ => .choice broken ?_
  dsimp only
  refine .choice ?_ (.choice ?_ ?_)
  · refine (versionNumber_blamed _).bind fun _ => .choice broken ?_
    exact (versionNumber_blamed _).bind fun _ => .choice (ended _) broken
  · refine (tagHandle_blamed _).bind fun _ => .choice broken ?_
    exact (tagText_blamed _).bind fun _ => .choice (ended _) broken
  · exact ended _

/-! ### Block text and quoted text -/

/-- Block text has no other faults. -/
theorem blockText_blamed (folded : Bool) (parent : Int) (cursor : Cursor) :
    FailsOnly IsScanFault (blockText folded parent cursor) := by
  have marks (start : Cursor) : FailsOnly IsScanFault (blockMarks start) :=
    .choice broken (.choice (.ok _) broken)
  have next (start : Cursor) : FailsOnly IsScanFault (nextLine start) := .choice (.ok _) broken
  exact (marks _).bind fun _ => (next _).bind fun _ => .ok _

/-- Line ends between quotes have no other faults. -/
theorem quotedBreaks_blamed (fuel : Nat) (cursor : Cursor) :
    FailsOnly IsScanFault (quotedBreaks fuel cursor) := by
  induction fuel generalizing cursor with
  | zero => exact broken
  | succ fuel inductionHypothesis =>
    rw [quotedBreaks]
    refine .choice broken ?_
    dsimp only
    split
    · exact .ok _
    · exact .choice ((inductionHypothesis _).bind fun _ => .ok _) (.ok _)

/-- A code point has no character only when it is beyond the last one. -/
theorem charOfCode_blamed (code : Nat) : FailsOnly IsScanFault (charOfCode code) := by
  intro fault failed
  rcases Nat.lt_or_ge code 0x110000 with within | beyond
  · rw [charOfCode, if_pos within] at failed
    cases failed
  · exact .escape beyond failed

/-- An escape has no other faults. -/
theorem escape_blamed (cursor : Cursor) : FailsOnly IsScanFault (escape cursor) := by
  unfold escape
  split
  · exact broken
  · split
    · exact .ok _
    · dsimp only
      split
      · exact .choice ((charOfCode_blamed _).bind fun _ => .ok _) broken
      · exact broken
    · exact .choice (quotedBreaks_blamed _ _) broken

/-- A word between quotes has no other faults. -/
theorem quotedWord_blamed (double : Bool) (fuel : Nat) (cursor : Cursor) :
    FailsOnly IsScanFault (quotedWord double fuel cursor) := by
  induction fuel generalizing cursor with
  | zero => exact broken
  | succ fuel inductionHypothesis =>
    rw [quotedWord]
    split
    · exact .ok _
    · refine .choice (.ok _) (.choice (.ok _) (.choice ?_ (.choice (.choice ?_ (.ok _)) ?_)))
      · refine (escape_blamed _).bind fun _ => ?_
        exact (inductionHypothesis _).bind fun _ => .ok _
      · exact (inductionHypothesis _).bind fun _ => .ok _
      · exact (inductionHypothesis _).bind fun _ => .ok _

/-- The gap between two words has no other faults. -/
theorem quotedGap_blamed (cursor : Cursor) : FailsOnly IsScanFault (quotedGap cursor) := by
  unfold quotedGap
  dsimp only
  split
  · exact broken
  · exact .choice ((quotedBreaks_blamed _ _).bind fun _ => .ok _) (.ok _)

/-- Words and gaps have no other faults. -/
theorem quotedFrom_blamed (double : Bool) (fuel : Nat) (cursor : Cursor) :
    FailsOnly IsScanFault (quotedFrom double fuel cursor) := by
  induction fuel generalizing cursor with
  | zero => exact broken
  | succ fuel inductionHypothesis =>
    rw [quotedFrom]
    refine .choice (.ok _) ?_
    refine (quotedGap_blamed _).bind fun _ => (quotedWord_blamed _ _ _).bind fun _ => ?_
    exact (inductionHypothesis _).bind fun _ => .ok _

/-- Quoted text has no other faults. -/
theorem quotedText_blamed (double : Bool) (cursor : Cursor) :
    FailsOnly IsScanFault (quotedText double cursor) :=
  (quotedWord_blamed _ _ _).bind fun _ => (quotedFrom_blamed _ _ _).bind fun _ => .ok _

/-! ### Steps of the scanner -/

namespace Scanner

/-- To look at a possible key has no other faults. -/
theorem refresh_blamed (cursor : Cursor) (key : Option PossibleKey) :
    FailsOnly IsScanFault (refresh cursor key) := by
  cases key with
  | none => exact .ok _
  | some key => exact .choice (.ok _) (.choice broken (.ok _))

/-- To forget keys that are too old has no other faults. -/
theorem forgetStale_blamed (s : Scanner) : FailsOnly IsScanFault s.forgetStale :=
  (refresh_blamed _ _).bind fun _ => (FailsOnly.mapM (refresh_blamed _) _).bind fun _ => .ok _

/-- To forget a key has no other faults. -/
theorem forgetKey_blamed (s : Scanner) : FailsOnly IsScanFault s.forgetKey := by
  unfold forgetKey
  split
  · exact .ok _
  · exact .choice broken (.ok _)

/-- To remember a key has no other faults. -/
theorem rememberKey_blamed (s : Scanner) : FailsOnly IsScanFault s.rememberKey :=
  .choice ((forgetKey_blamed s).bind fun _ => .ok _) (.ok _)

/-- To go to the margin has no other faults. -/
theorem atMargin_blamed (s : Scanner) : FailsOnly IsScanFault s.atMargin :=
  (forgetKey_blamed _).bind fun _ => .ok _

/-- To read the colon after a key has no other faults. -/
theorem readValue_blamed (s : Scanner) : FailsOnly IsScanFault s.readValue := by
  unfold readValue
  split
  · exact .ok _
  · exact .choice broken (.ok _)

/-- To read a closing bracket has no other faults. -/
theorem readClosing_blamed (token : Token) (s : Scanner) :
    FailsOnly IsScanFault (s.readClosing token) := by
  refine (forgetKey_blamed s).bind fun inside => ?_
  dsimp only
  split <;> exact .ok _

/-- To read the token at a place has no other faults. -/
theorem readToken_blamed (c : Char) (s : Scanner) : FailsOnly IsScanFault (s.readToken c) := by
  have mark (token : Token) : FailsOnly IsScanFault (s.readDocumentMark token) :=
    (atMargin_blamed s).bind fun _ => .ok _
  have opening (token : Token) : FailsOnly IsScanFault (s.readOpening token) :=
    (rememberKey_blamed s).bind fun _ => .ok _
  have anchor (token : String → Token) : FailsOnly IsScanFault (s.readAnchor token) :=
    (rememberKey_blamed s).bind fun _ => (anchorName_blamed _).bind fun _ => .ok _
  have block (folded : Bool) : FailsOnly IsScanFault (s.readBlockText folded) :=
    (forgetKey_blamed s).bind fun _ => (blockText_blamed _ _ _).bind fun _ => .ok _
  have quoted (double : Bool) : FailsOnly IsScanFault (s.readQuotedText double) :=
    (rememberKey_blamed s).bind fun _ => (quotedText_blamed _ _).bind fun _ => .ok _
  unfold readToken
  refine .choice ?directive (.choice (mark _) (.choice (opening _) (.choice (opening _)
    (.choice (readClosing_blamed _ s) (.choice (readClosing_blamed _ s) (.choice ?comma
    (.choice ?hyphen (.choice ?key (.choice (readValue_blamed s) (.choice (anchor _)
    (.choice (anchor _) (.choice ?tag (.choice (block _) (.choice (block _) (.choice (quoted _)
    (.choice (quoted _) (.choice ?plain broken)))))))))))))))))
  case directive =>
    exact (atMargin_blamed s).bind fun _ => (directive_blamed _).bind fun _ => .ok _
  case comma => exact (forgetKey_blamed s).bind fun _ => .ok _
  case hyphen => exact .choice broken ((forgetKey_blamed _).bind fun _ => .ok _)
  case key => exact .choice broken ((forgetKey_blamed _).bind fun _ => .ok _)
  case tag => exact (rememberKey_blamed s).bind fun _ => (tagName_blamed _).bind fun _ => .ok _
  case plain => exact (rememberKey_blamed s).bind fun _ => .ok _

/-- A step of the scanner has no other faults. -/
theorem advance_blamed (s : Scanner) : FailsOnly IsScanFault s.advance := by
  refine (forgetStale_blamed _).bind fun next => ?_
  dsimp only
  split
  · exact .bind ((atMargin_blamed _).bind fun _ => .ok _) fun _ => .ok _
  · exact (readToken_blamed _ _).bind fun _ => .ok _

/-- A run of the scanner has no other faults. -/
theorem run_blamed (fuel : Nat) (s : Scanner) :
    ∀ fault ∈ (run fuel s).fault, IsScanFault fault := by
  induction fuel generalizing s with
  | zero =>
    rintro fault ⟨⟩
    exact .malformed
  | succ fuel inductionHypothesis =>
    intro fault ended
    rw [run] at ended
    split at ended
    · rename_i cause failed
      obtain rfl : cause = fault := Option.some.inj ended
      exact advance_blamed s cause failed
    · cases ended
    · exact inductionHypothesis _ fault ended

end Scanner

/-- The fault that ends the tokens of a text is a broken rule, an escape beyond the code points,
or a number in a directive with too many digits. -/
theorem tokens_blamed (text : List Char) :
    ∀ fault ∈ (Tokens.ofText text).fault, IsScanFault fault :=
  Scanner.run_blamed _ _

end InfraReview.Yaml
