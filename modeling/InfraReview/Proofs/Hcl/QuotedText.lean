import InfraReview.Hcl.Literal

/-!
# Texts between quotes

A text stands between quotes with the opening signs of interpolations and directives doubled
and with five characters escaped. Reading it as a literal takes both away again. Nothing in
it opens an interpolation, and the whole of it is no wrapped literal, so the literal is always
the text itself.
-/

namespace InfraReview.Hcl

/-- A text in which every opening sign of the given sorts is doubled. -/
def guarded (signs : List Char) : List Char → List Char
  | c :: '\x7b' :: rest =>
    if signs.contains c then c :: c :: '\x7b' :: guarded signs rest
    else c :: guarded signs ('\x7b' :: rest)
  | c :: rest => c :: guarded signs rest
  | [] => []

/-- A character as it stands between quotes. -/
def escapeChar : Char → List Char
  | '\\' => ['\\', '\\']
  | '"' => ['\\', '"']
  | '\n' => ['\\', 'n']
  | '\r' => ['\\', 'r']
  | '\t' => ['\\', 't']
  | c => [c]

/-- A text with its characters as they stand between quotes. -/
def escape (text : List Char) : List Char := text.flatMap escapeChar

/-- A text as it stands between quotes. -/
def quotedText (text : String) : String :=
  String.ofList (escape (guarded ['$', '%'] text.toList))

/-- Every character stands for itself, apart from those that are escaped by a backslash and a
letter of their own. -/
theorem escapeChar_cases (c : Char) :
    (c ≠ '\\' ∧ escapeChar c = [c]) ∨
      ∃ letter, escapeChar c = ['\\', letter] ∧ simpleEscape? letter = some c := by
  unfold escapeChar
  split
  · exact .inr ⟨'\\', rfl, rfl⟩
  · exact .inr ⟨'"', rfl, rfl⟩
  · exact .inr ⟨'n', rfl, rfl⟩
  · exact .inr ⟨'r', rfl, rfl⟩
  · exact .inr ⟨'t', rfl, rfl⟩
  · rename_i noBackslash _ _ _ _
    exact .inl ⟨noBackslash, rfl⟩

/-- A letter of an escape is no character that escapes nothing. -/
theorem simple_ne {letter other meant : Char} (simple : simpleEscape? letter = some meant)
    (none : simpleEscape? other = none) : letter ≠ other := by
  rintro rfl
  rw [simple] at none
  cases none

/-- A character other than a backslash is no escape. -/
theorem unescape_plain {c : Char} (rest : List Char) (noBackslash : c ≠ '\\') :
    unescape (c :: rest) = (unescape rest).map (c :: ·) := by
  rw [unescape.eq_def]
  split <;> simp_all

/-- A backslash before one of the five letters is decoded. -/
theorem unescape_simple {letter meant : Char} (rest : List Char)
    (simple : simpleEscape? letter = some meant) :
    unescape ('\\' :: letter :: rest) = (unescape rest).map (meant :: ·) := by
  rw [unescape, simple]
  · exact fun _ _ _ _ _ isU => absurd isU (simple_ne simple rfl)
  · exact fun _ _ _ _ _ _ _ _ _ isU => absurd isU (simple_ne simple rfl)

/-- Decoding the escapes of an escaped text gives the text. -/
theorem unescape_escape (text : List Char) : unescape (escape text) = .ok text := by
  induction text with
  | nil => rfl
  | cons c rest inductionHypothesis =>
    rw [escape, List.flatMap_cons, ← escape]
    rcases escapeChar_cases c with ⟨noBackslash, plain⟩ | ⟨letter, escaped, meant⟩
    · rw [plain, List.singleton_append, unescape_plain _ noBackslash, inductionHypothesis]
      rfl
    · rw [escaped]
      change unescape ('\\' :: letter :: escape rest) = _
      rw [unescape_simple _ meant, inductionHypothesis]
      rfl

/-- A character that is not the sign is kept when doubled signs are halved. -/
theorem halve_other {sign c : Char} (rest : List Char) (other : c ≠ sign) :
    halve sign (c :: rest) = c :: halve sign rest := by
  rw [halve.eq_def]
  split <;> simp_all

/-- A sign is kept when no opening sign follows it. -/
theorem halve_alone {sign c : Char} {rest : List Char}
    (alone : ∀ more, rest ≠ sign :: '\x7b' :: more) :
    halve sign (c :: rest) = c :: halve sign rest := by
  rw [halve.eq_def]
  split
  · rename_i a b more same
    obtain ⟨rfl, rfl⟩ := List.cons.inj same
    have differs : b ≠ sign := by
      rintro rfl
      exact alone more rfl
    simp [differs]
  · rename_i same
    obtain ⟨rfl, rfl⟩ := List.cons.inj same
    rfl
  · rename_i empty
    cases empty

/-- A guarded text starts like the text itself. -/
theorem head_guarded (signs text : List Char) : (guarded signs text).head? = text.head? := by
  unfold guarded
  split
  · split <;> rfl
  · rfl
  · rfl

/-- A character of no guarded sort is kept. -/
theorem guarded_other {signs : List Char} {c : Char} (rest : List Char)
    (free : signs.contains c = false) : guarded signs (c :: rest) = c :: guarded signs rest := by
  rw [guarded.eq_def]
  split
  · rename_i same
    obtain ⟨rfl, rfl⟩ := List.cons.inj same
    rw [if_neg (by simpa using free)]
  · rename_i same
    obtain ⟨rfl, rfl⟩ := List.cons.inj same
    rfl
  · rename_i empty
    cases empty

/-- A guarded text does not start with an opening sign of a sort that is guarded. -/
theorem guarded_starts {signs : List Char} {sign : Char} (known : signs.contains sign = true)
    (noBrace : sign ≠ '\x7b') (text more : List Char) :
    guarded signs text ≠ sign :: '\x7b' :: more := by
  unfold guarded
  split
  · rename_i c rest
    split
    · intro same
      obtain ⟨rfl, others⟩ := List.cons.inj same
      exact noBrace (List.cons.inj others).1
    · rename_i unknown
      intro same
      exact unknown ((List.cons.inj same).1 ▸ known)
  · rename_i c rest noBraceNext
    intro same
    have starts := head_guarded signs rest
    rw [(List.cons.inj same).2] at starts
    cases rest with
    | nil => cases starts
    | cons next rest =>
      obtain rfl : '\x7b' = next := by simpa using starts
      exact noBraceNext rest rfl
  · intro same
    cases same

/-- Halving the signs of one sort takes away their guard and leaves the others. Proof: by the
recursion of the guard; a sign that was not doubled has no opening sign behind it. -/
theorem halve_guarded {signs : List Char} {sign : Char} (fresh : signs.contains sign = false)
    (noBrace : sign ≠ '\x7b') (noBraces : signs.contains '\x7b' = false) (text : List Char) :
    halve sign (guarded (sign :: signs) text) = guarded signs text := by
  have known : (sign :: signs).contains sign = true := by simp
  induction text using guarded.induct (sign :: signs) with
  | case1 c rest guards inductionHypothesis =>
    rw [guarded, if_pos guards]
    by_cases same : c = sign
    · subst same
      have halved : halve c (c :: c :: '\x7b' :: guarded (c :: signs) rest) =
          c :: '\x7b' :: halve c (guarded (c :: signs) rest) := by
        rw [halve]
        simp
      rw [halved, inductionHypothesis, guarded_other _ fresh, guarded_other _ noBraces]
    · have others : signs.contains c = true := by simpa [same] using guards
      rw [halve_other _ same, halve_other _ same, halve_other _ (Ne.symm noBrace),
        inductionHypothesis, guarded, if_pos others]
  | case2 c rest free inductionHypothesis =>
    have alone : (sign :: signs).contains c = false := by simpa using free
    have other : c ≠ sign := by
      rintro rfl
      exact free known
    have free : signs.contains c = false := by simpa [other] using alone
    rw [guarded_other _ alone, halve_other _ other, inductionHypothesis, guarded_other _ free]
  | case3 c rest noBraceNext inductionHypothesis =>
    rw [guarded, guarded, halve_alone (guarded_starts known noBrace rest), inductionHypothesis]
    · exact noBraceNext
    · exact noBraceNext
  | case4 => rfl

/-- A text without guards is the text. -/
theorem guarded_nil (text : List Char) : guarded [] text = text := by
  induction text using guarded.induct [] with
  | case1 c rest guards => simp at guards
  | case2 c rest _ inductionHypothesis => simp [guarded, inductionHypothesis]
  | case3 c rest noBraceNext inductionHypothesis =>
    rw [guarded, inductionHypothesis]
    exact noBraceNext
  | case4 => rfl

/-- The test for opening signs passes over a character that no brace follows. -/
theorem hasOpener_alone {previous : Option Char} {c : Char} {rest : List Char}
    (noBrace : rest.head? ≠ some '\x7b') :
    hasOpener previous (c :: rest) = hasOpener (some c) rest := by
  rw [hasOpener.eq_def]
  split <;> simp_all

/-- The test for opening signs passes over a character that is no sign. -/
theorem hasOpener_other {previous : Option Char} {c : Char} (rest : List Char)
    (noDollar : c ≠ '$') (noPercent : c ≠ '%') :
    hasOpener previous (c :: rest) = hasOpener (some c) rest := by
  rw [hasOpener.eq_def]
  split <;> simp_all

/-- A brace at the start of an escaped text stands at the start of the text. -/
theorem head_escape (text : List Char) (brace : (escape text).head? = some '\x7b') :
    text.head? = some '\x7b' := by
  cases text with
  | nil => cases brace
  | cons c rest =>
    rw [escape, List.flatMap_cons] at brace
    rcases escapeChar_cases c with ⟨_, plain⟩ | ⟨letter, escaped, _⟩
    · simpa [plain] using brace
    · simp [escaped] at brace

/-- Nothing opens an interpolation or a directive in an escaped text when nothing does behind
its first character, and this is no sign or no brace follows it. -/
theorem hasOpener_escape_cons {c : Char} {rest : List Char}
    (closed : ∀ previous, hasOpener previous (escape rest) = false)
    (apart : (c ≠ '$' ∧ c ≠ '%') ∨ rest.head? ≠ some '\x7b') (previous : Option Char) :
    hasOpener previous (escape (c :: rest)) = false := by
  rw [escape, List.flatMap_cons, ← escape]
  rcases escapeChar_cases c with ⟨_, plain⟩ | ⟨letter, escaped, meant⟩
  · rw [plain, List.singleton_append]
    rcases apart with ⟨noDollar, noPercent⟩ | noBrace
    · rw [hasOpener_other _ noDollar noPercent, closed]
    · rw [hasOpener_alone (mt (head_escape rest) noBrace), closed]
  · rw [escaped]
    change hasOpener previous ('\\' :: letter :: escape rest) = false
    rw [hasOpener_other _ (by decide) (by decide),
      hasOpener_other _ (simple_ne meant rfl) (simple_ne meant rfl), closed]

/-- Nothing opens an interpolation or a directive in a text between quotes. Proof: by the
recursion of the guard, whatever stands before the text; a doubled sign has its like before
it. -/
theorem hasOpener_quoted (text : List Char) : ∀ previous,
    hasOpener previous (escape (guarded ['$', '%'] text)) = false := by
  induction text using guarded.induct ['$', '%'] with
  | case1 c rest guards inductionHypothesis =>
    intro previous
    rw [guarded, if_pos guards]
    have sort : c = '$' ∨ c = '%' := by simpa using guards
    rcases sort with rfl | rfl
    · change hasOpener previous ('$' :: '$' :: '\x7b' :: escape (guarded ['$', '%'] rest)) = false
      rw [hasOpener_alone (by simp), hasOpener, inductionHypothesis]
      rfl
    · change hasOpener previous ('%' :: '%' :: '\x7b' :: escape (guarded ['$', '%'] rest)) = false
      rw [hasOpener_alone (by simp), hasOpener, inductionHypothesis]
      rfl
  | case2 c rest free inductionHypothesis =>
    rw [guarded, if_neg free]
    exact hasOpener_escape_cons inductionHypothesis (.inl (by simpa using free))
  | case3 c rest noBraceNext inductionHypothesis =>
    rw [guarded]
    · refine hasOpener_escape_cons inductionHypothesis (.inr ?_)
      rw [head_guarded]
      cases rest with
      | nil => simp
      | cons next more =>
        rintro ⟨⟩
        exact noBraceNext more rfl
    · exact noBraceNext
  | case4 => exact fun _ => rfl

/-- The whole of a text between quotes is no wrapped literal: it does not start with an opening
sign. -/
theorem wrapped_quoted (text : List Char) :
    wrapped? (escape (guarded ['$', '%'] text)) = none := by
  unfold wrapped?
  split
  · rename_i inside same
    have opened : hasOpener none ('$' :: '\x7b' :: inside) = true := by simp [hasOpener]
    rw [← same, hasOpener_quoted] at opened
    cases opened
  · rfl

/-- A text between quotes is the literal of the text itself. -/
theorem stringLiteral_quotedText (text : String) :
    stringLiteral (quotedText text) = .ok (.value (.text text)) := by
  have halved : halve '%' (halve '$' (guarded ['$', '%'] text.toList)) = text.toList := by
    rw [halve_guarded (by decide) (by decide) (by decide),
      halve_guarded (by decide) (by decide) (by decide), guarded_nil]
  simp [stringLiteral, quotedText, wrapped_quoted, hasOpener_quoted, unescape_escape, halved,
    Except.map]

example : quotedText "of \"${name}\"" = "of \\\"$${name}\\\"" := by decide

/-- Different texts are different between quotes. -/
theorem quotedText_injective : Function.Injective quotedText := by
  intro left right same
  have literal := stringLiteral_quotedText left
  rw [same, stringLiteral_quotedText] at literal
  simpa using literal.symm

/-- A name that is not in quotes stays when quotes are taken away. -/
theorem unquote_of_unquoted {name : String}
    (unquoted : Meaning.isQuoted name.toList = false) : unquote name = name := by
  unfold unquote
  split
  · rename_i same
    rw [if_neg (by rw [← same, unquoted]; decide)]
  · rfl

/-- A text between quotes has none of its own around it: they would be escaped. -/
theorem unquote_quotedText (text : String) : unquote (quotedText text) = quotedText text := by
  refine unquote_of_unquoted ?_
  have inside : (quotedText text).toList = escape (guarded ['$', '%'] text.toList) := by
    simp [quotedText]
  rw [inside, Meaning.isQuoted]
  cases guarded ['$', '%'] text.toList with
  | nil => rfl
  | cons c rest =>
    have first : (escape (c :: rest)).head? ≠ some '"' := by
      rw [escape, List.flatMap_cons]
      unfold escapeChar
      split <;> simp_all
    simp [first]

/-- The quotes around a name are taken away. -/
theorem unquote_inQuotes (name : String) : unquote ("\"" ++ name ++ "\"") = name := by
  have characters : ("\"" ++ name ++ "\"").toList = '"' :: (name.toList ++ ['"']) := by simp
  have quoted : Meaning.isQuoted ('"' :: (name.toList ++ ['"'])) = true := by
    simp [Meaning.isQuoted, List.getLast?_cons]
  have inside : Meaning.unquoted ("\"" ++ name ++ "\"") = name := by
    rw [Meaning.unquoted, characters, if_pos quoted]
    simp [Meaning.withoutEnds]
  unfold unquote
  rw [characters]
  cases found : name.toList with
  | nil =>
    rw [found] at quoted
    exact (if_pos quoted).trans inside
  | cons first rest =>
    rw [found] at quoted
    exact (if_pos quoted).trans inside

end InfraReview.Hcl
