import InfraReview.Proofs.Hcl.Breakage
import InfraReview.Proofs.Hcl.Resolution

/-!
# What decoding does to a text

A text that is no expression is decoded in two passes: its escapes are replaced by the characters
that they stand for, and in what this leaves the doubled opening signs are halved. For a text that
was written between quotes this takes away what the writing has put there, and nothing else.

A heredoc is handed over as a text too, and the two sorts of text cannot be told apart. So its
escapes are decoded as well: of what stands in it everything is kept exactly when no escape occurs
in it, and otherwise less is kept, or nothing is read when an escape writes no code point.
-/

namespace InfraReview.Hcl

open Grammar

/-! ### Texts between quotes -/

/-- A text as it is written between quotes, character by character. The sign of every opening is
doubled, and five characters are written as escapes. -/
def encoded : List Char → List Char
  | [] => []
  | c :: rest =>
    (if (c = '$' ∨ c = '%') ∧ rest.head? = some '\x7b' then [c, c] else escapeChar c)
      ++ encoded rest

/-- Writing in one go comes to the same as doubling the signs first and escaping then. Proof: by
the recursion of the guard; a doubled sign and its brace are written as they are. -/
theorem encoded_eq (text : List Char) : encoded text = escape (guarded ['$', '%'] text) := by
  induction text using guarded.induct ['$', '%'] with
  | case1 c rest guards inductionHypothesis =>
    have sign : c = '$' ∨ c = '%' := by simpa using guards
    have brace : encoded ('\x7b' :: rest) = '\x7b' :: encoded rest := by
      simp [encoded, escapeChar]
    rw [guarded, if_pos guards, encoded, if_pos ⟨sign, rfl⟩, brace, inductionHypothesis]
    rcases sign with rfl | rfl <;> rfl
  | case2 c rest free inductionHypothesis =>
    have noSign : ¬ (c = '$' ∨ c = '%') := by simpa using free
    rw [guarded, if_neg free, encoded, if_neg fun opening => noSign opening.1,
      inductionHypothesis]
    rfl
  | case3 c rest noBrace inductionHypothesis =>
    have plain : ¬ ((c = '$' ∨ c = '%') ∧ rest.head? = some '\x7b') := by
      rintro ⟨_, opened⟩
      obtain ⟨after, rfl⟩ := List.head?_eq_some_iff.mp opened
      exact noBrace after rfl
    rw [guarded, encoded, if_neg plain, inductionHypothesis]
    · rfl
    · exact noBrace
  | case4 => rfl

/-- Decoding undoes the writing between quotes: what is written for a text is read as the literal
of that text, whatever stands in it. -/
theorem encoded_read_back (text : String) :
    stringLiteral (String.ofList (encoded text.toList)) = .ok (.value (.text text)) := by
  rw [encoded_eq]
  exact stringLiteral_quotedText text

example : String.ofList (encoded "$\x7b5\x7d\\n".toList) = "$$\x7b5\x7d\\\\n" := by decide

/-! ### Escapes in a text -/

/-- A text that starts with an escape: a backslash and a letter of its own, or a backslash and the
digits of a number behind a mark that says how many they are. -/
inductive StartsEscape : List Char → Prop where
  | simple {letter meant : Char} {rest : List Char} (known : simpleEscape? letter = some meant) :
      StartsEscape ('\\' :: letter :: rest)
  | short {digits rest : List Char} {code : Nat} (four : digits.length = 4)
      (number : Text.hexNumber? digits = some code) : StartsEscape ('\\' :: 'u' :: (digits ++ rest))
  | long {digits rest : List Char} {code : Nat} (eight : digits.length = 8)
      (number : Text.hexNumber? digits = some code) : StartsEscape ('\\' :: 'U' :: (digits ++ rest))

/-- A text in which an escape occurs. -/
def HoldsEscape (text : List Char) : Prop := ∃ rest, rest <:+ text ∧ StartsEscape rest

/-- An escape occurs at the start of a text or behind its first character. -/
theorem holdsEscape_cons (c : Char) (rest : List Char) :
    HoldsEscape (c :: rest) ↔ StartsEscape (c :: rest) ∨ HoldsEscape rest := by
  simp [HoldsEscape, List.suffix_cons_iff, or_and_right, exists_or]

/-- No escape occurs in the empty text. -/
theorem not_holdsEscape_nil : ¬ HoldsEscape [] := by
  rintro ⟨rest, ends, starts⟩
  obtain rfl := List.suffix_nil.mp ends
  cases starts

/-- A wild escape is an escape. -/
theorem holdsEscape_of_wild {text : List Char} (wild : WildEscape text) : HoldsEscape text := by
  induction wild with
  | @here digits rest code eight number _ =>
    rw [holdsEscape_cons]
    exact .inl (.long eight number)
  | behindEscape _ inductionHypothesis =>
    rw [holdsEscape_cons, holdsEscape_cons]
    exact .inr (.inr inductionHypothesis)
  | behind _ _ inductionHypothesis =>
    rw [holdsEscape_cons]
    exact .inr inductionHypothesis

/-- What decoding the escapes of a text comes to: the text itself when there are none, and otherwise
fewer characters. -/
def Decoded (text decoded : List Char) : Prop :=
  (¬ HoldsEscape text ∧ decoded = text) ∨ (HoldsEscape text ∧ decoded.length < text.length)

/-- Decoding does not make a text longer. -/
theorem Decoded.length_le {text decoded : List Char} (comes : Decoded text decoded) :
    decoded.length ≤ text.length := by
  rcases comes with ⟨_, rfl⟩ | ⟨_, shorter⟩
  · exact Nat.le_refl _
  · exact Nat.le_of_lt shorter

/-- A character that starts no escape is kept before what is decoded behind it. -/
theorem Decoded.keep {c : Char} {rest decoded : List Char} (plain : ¬ StartsEscape (c :: rest))
    (comes : Decoded rest decoded) : Decoded (c :: rest) (c :: decoded) := by
  rcases comes with ⟨free, rfl⟩ | ⟨holds, shorter⟩
  · left
    rw [holdsEscape_cons]
    exact ⟨not_or.mpr ⟨plain, free⟩, rfl⟩
  · right
    rw [holdsEscape_cons]
    exact ⟨.inr holds, by simpa using shorter⟩

/-- An escape of two characters or more is replaced by one before what is decoded behind it. -/
theorem Decoded.replace {first second meant : Char} {more rest decoded : List Char}
    (starts : StartsEscape (first :: second :: (more ++ rest))) (comes : Decoded rest decoded) :
    Decoded (first :: second :: (more ++ rest)) (meant :: decoded) := by
  right
  constructor
  · rw [holdsEscape_cons]
    exact .inl starts
  · have bound := comes.length_le
    simp only [List.length_cons, List.length_append]
    omega

/-- A mark and four characters that are no number start no escape. -/
theorem not_startsEscape_short {digits rest : List Char} (four : digits.length = 4)
    (noNumber : Text.hexNumber? digits = none) :
    ¬ StartsEscape ('\\' :: 'u' :: (digits ++ rest)) := by
  intro starts
  generalize same : 'u' :: (digits ++ rest) = after at starts
  cases starts with
  | simple known =>
    cases same
    cases known
  | short length number =>
    obtain ⟨rfl, _⟩ := List.append_inj (List.cons.inj same).2 (four.trans length.symm)
    rw [noNumber] at number
    cases number
  | long => cases (List.cons.inj same).1

/-- Neither do the other mark and eight characters that are no number. -/
theorem not_startsEscape_long {digits rest : List Char} (eight : digits.length = 8)
    (noNumber : Text.hexNumber? digits = none) :
    ¬ StartsEscape ('\\' :: 'U' :: (digits ++ rest)) := by
  intro starts
  generalize same : 'U' :: (digits ++ rest) = after at starts
  cases starts with
  | simple known =>
    cases same
    cases known
  | short => cases (List.cons.inj same).1
  | long length number =>
    obtain ⟨rfl, _⟩ := List.append_inj (List.cons.inj same).2 (eight.trans length.symm)
    rw [noNumber] at number
    cases number

/-- When a mark is never followed by four characters and a rest, what stands behind it does not
start with a list of four. -/
theorem ne_append_of_four {mark : Prop} {rest : List Char}
    (none : ∀ (a b c d : Char) (after : List Char),
      mark → rest = a :: b :: c :: d :: after → False) :
    ∀ digits after, digits.length = 4 → mark → rest ≠ digits ++ after := by
  intro digits after short marks same
  match digits, short with
  | [a, b, c, d], _ => exact none a b c d after marks same

/-- Decoding the escapes of a text leaves exactly the texts without escapes as they are. Proof: by
the recursion of decoding; a backslash that it keeps starts no escape. -/
theorem decoded_of_unescape {text decoded : List Char} (done : unescape text = .ok decoded) :
    Decoded text decoded := by
  induction text using unescape.induct generalizing decoded with
  | case1 =>
    cases done
    exact .inl ⟨not_holdsEscape_nil, rfl⟩
  | case2 a b c d rest code number inductionHypothesis =>
    rw [unescape, number] at done
    obtain ⟨meant, _, done⟩ := ok_of_bind done
    obtain ⟨others, behind, done⟩ := ok_of_bind done
    cases done
    have starts : StartsEscape ('\\' :: 'u' :: ([a, b, c, d] ++ rest)) := .short rfl number
    exact .replace starts (inductionHypothesis behind)
  | case3 a b c d rest noNumber inductionHypothesis =>
    rw [unescape, noNumber] at done
    obtain ⟨others, behind, rfl⟩ := ok_of_map done
    have plain : ¬ StartsEscape ('\\' :: 'u' :: ([a, b, c, d] ++ rest)) :=
      not_startsEscape_short rfl noNumber
    exact (inductionHypothesis behind).keep plain
  | case4 a b c d e f g h rest code number inductionHypothesis =>
    rw [unescape, number] at done
    obtain ⟨meant, _, done⟩ := ok_of_bind done
    obtain ⟨others, behind, done⟩ := ok_of_bind done
    cases done
    have starts : StartsEscape ('\\' :: 'U' :: ([a, b, c, d, e, f, g, h] ++ rest)) :=
      .long rfl number
    exact .replace starts (inductionHypothesis behind)
  | case5 a b c d e f g h rest noNumber inductionHypothesis =>
    rw [unescape, noNumber] at done
    obtain ⟨others, behind, rfl⟩ := ok_of_map done
    have plain : ¬ StartsEscape ('\\' :: 'U' :: ([a, b, c, d, e, f, g, h] ++ rest)) :=
      not_startsEscape_long rfl noNumber
    exact (inductionHypothesis behind).keep plain
  | case6 c rest noShort noLong meant found inductionHypothesis =>
    rw [unescape, found] at done
    · obtain ⟨others, behind, rfl⟩ := ok_of_map done
      have starts : StartsEscape ('\\' :: c :: ([] ++ rest)) := .simple found
      exact .replace starts (inductionHypothesis behind)
    · exact noShort
    · exact noLong
  | case7 c rest noShort noLong found inductionHypothesis =>
    rw [unescape, found] at done
    · obtain ⟨others, behind, rfl⟩ := ok_of_map done
      refine (inductionHypothesis behind).keep ?_
      intro starts
      cases starts with
      | simple known =>
        rw [found] at known
        cases known
      | @short digits after _ four _ => exact ne_append_of_four noShort digits after four rfl rfl
      | @long digits after _ eight _ => exact ne_append_of_eight noLong digits after eight rfl rfl
    · exact noShort
    · exact noLong
  | case8 c rest noShort noLong alone inductionHypothesis =>
    rw [unescape] at done
    · obtain ⟨others, behind, rfl⟩ := ok_of_map done
      refine (inductionHypothesis behind).keep ?_
      intro starts
      cases starts with
      | simple => exact alone _ _ rfl rfl
      | short => exact alone _ _ rfl rfl
      | long => exact alone _ _ rfl rfl
    · exact noShort
    · exact noLong
    · exact alone

/-! ### Texts without signs -/

/-- A text without the opening sign of an interpolation or of a directive, doubled or not. -/
def SignFree (text : List Char) : Prop :=
  ∀ sign, (sign = '$' ∨ sign = '%') → ¬ [sign, '\x7b'] <:+: text

/-- Halving the doubled signs of a sort leaves a text as it is in which no such sign opens. -/
theorem halve_closed {sign : Char} {text : List Char} (closed : ¬ [sign, '\x7b'] <:+: text) :
    halve sign text = text := by
  induction text using halve.induct sign with
  | case1 a b rest doubled inductionHypothesis =>
    obtain ⟨rfl, rfl⟩ : a = sign ∧ b = sign := by simpa using doubled
    exact absurd ⟨[b], rest, rfl⟩ closed
  | case2 a b rest single inductionHypothesis =>
    rw [halve, if_neg single, inductionHypothesis]
    exact fun opened => closed (List.infix_cons opened)
  | case3 c rest alone inductionHypothesis =>
    rw [halve, inductionHypothesis]
    · exact fun opened => closed (List.infix_cons opened)
    · exact alone
  | case4 => rfl

/-- Halving doubled signs does not make a text longer. -/
theorem length_halve_le (sign : Char) (text : List Char) :
    (halve sign text).length ≤ text.length := by
  induction text using halve.induct sign with
  | case1 a b rest doubled inductionHypothesis =>
    rw [halve, if_pos doubled]
    simp only [List.length_cons]
    omega
  | case2 a b rest single inductionHypothesis =>
    rw [halve, if_neg single]
    simpa using inductionHypothesis
  | case3 c rest alone inductionHypothesis =>
    rw [halve]
    · simpa using inductionHypothesis
    · exact alone
  | case4 => exact Nat.le_refl 0

/-- A decoded text with the doubled signs of both sorts halved. -/
def halved (decoded : List Char) : List Char := halve '%' (halve '$' decoded)

/-- A text without signs is recorded as it is when it has no escapes, and as a shorter one
otherwise. The signs that are halved can only come from its escapes. -/
theorem Decoded.halved {text decoded : List Char} (free : SignFree text)
    (comes : Decoded text decoded) :
    (¬ HoldsEscape text → halved decoded = text) ∧
      (HoldsEscape text → (halved decoded).length < text.length) := by
  unfold Hcl.halved
  rcases comes with ⟨noEscape, rfl⟩ | ⟨holds, shorter⟩
  · refine ⟨fun _ => ?_, fun escape => absurd escape noEscape⟩
    rw [halve_closed (free '$' (.inl rfl)), halve_closed (free '%' (.inr rfl))]
  · refine ⟨fun noEscape => absurd holds noEscape, fun _ => ?_⟩
    have outer := length_halve_le '%' (halve '$' decoded)
    have inner := length_halve_le '$' decoded
    omega

/-- A text without signs wraps no literal and opens no expression. -/
theorem SignFree.plain {text : List Char} (free : SignFree text) :
    wrapped? text = none ∧ hasOpener none text = false := by
  have closed : hasOpener none text = false := by
    rw [Bool.eq_false_iff, Ne, hasOpener_iff_opens]
    rintro ⟨before, sign, after, sort, rfl, _⟩
    exact free sign sort ⟨before, after, by simp⟩
  refine ⟨?_, closed⟩
  unfold wrapped?
  split
  · rename_i inside
    exact absurd ⟨[], inside, rfl⟩ (free '$' (.inl rfl))
  · rfl

/-- A text without signs is read as what its escapes decode to. -/
theorem literal_signFree {text : List Char} (free : SignFree text) :
    literal (.text (String.ofList text)) =
      (unescape text).map fun decoded => .value (.text (String.ofList (halved decoded))) := by
  obtain ⟨unwrapped, closed⟩ := free.plain
  simp [literal, stringLiteral, unwrapped, closed, halved]

/-! ### Heredocs -/

/-- The text that a heredoc is handed over as: what stands between its tags, without the white space
at the end, and without common blanks at the start of its lines when it is trimmed. -/
def heredocText (trimmed : Bool) (token : String) : List Char :=
  let content := Meaning.heredocContent (token.toList.drop (if trimmed then 3 else 2))
  if trimmed then ['\n'].intercalate (Meaning.outdented (Text.splitChars '\n' content)) else content

/-- The value of an attribute that is given by a heredoc. -/
def heredocTree (trimmed : Bool) (token : String) : Tree :=
  Meaning.marked (Meaning.heredoc (if trimmed then 3 else 2) trimmed token)

/-- The value of such an attribute is a text like any other, without the quotes that the heredoc is
put in. -/
theorem heredocTree_eq (trimmed : Bool) (token : String) :
    heredocTree trimmed token = .text (String.ofList (heredocText trimmed token)) := by
  have quoted (text : List Char) : Meaning.isQuoted ('"' :: (text ++ ['"'])) = true := by
    simp [Meaning.isQuoted, List.getLast?_cons]
  cases trimmed <;>
    simp [heredocTree, heredocText, Meaning.heredoc, Meaning.marked, quoted, Meaning.withoutEnds]

/-- The part of a derivation that a token makes. -/
def leafOf (terminal : Terminal) (lexeme : Lexeme) : Derivation Lexeme :=
  .leaf (terminals.idxOf terminal) lexeme

/-- The part of a derivation that a rule makes of others. -/
def nodeOf (rule : Rule) (parts : List (Derivation Lexeme)) : Derivation Lexeme :=
  .node ((rules.map (·.1)).idxOf rule + 1) parts

/-- What the part of a rule means is put together by the rule. -/
theorem meaning_nodeOf (rule : Rule) (parts : List (Derivation Lexeme)) :
    meaning? (nodeOf rule parts) = (meanings? parts).bind fun found =>
      Meaning.combine rule ((firstLineOf? parts).getD 0) ((lastLineOf? parts).getD 0) found := by
  have numbered : (rules[(rules.map (·.1)).idxOf rule]?).map (·.1) = some rule := by
    cases rule <;> rfl
  rw [nodeOf, meaning?]
  simp only [Nat.add_sub_cancel, numbered]

/-- The derivation of an attribute that is given by a heredoc. -/
def heredocAttribute (trimmed : Bool) (name mark token : Lexeme) : Derivation Lexeme :=
  let heredoc :=
    if trimmed then nodeOf .trimmedHeredoc [leafOf .trimmedHeredoc token]
    else nodeOf .heredoc [leafOf .heredoc token]
  let parts := [nodeOf .identifier [leafOf .identifier name], leafOf (.fixed "=") mark,
    nodeOf .expression [nodeOf .term [heredoc]]]
  nodeOf .attribute parts

/-- Such an attribute has the value of its heredoc. -/
theorem meaning_heredocAttribute (trimmed : Bool) (name mark token : Lexeme) :
    meaning? (heredocAttribute trimmed name mark token) =
      some (.attribute name.text (heredocTree trimmed token.text)) := by
  cases trimmed <;>
    simp [heredocAttribute, meaning_nodeOf, leafOf, meanings?, meaning?, Meaning.combine,
      Meaning.joined, Meaning.shown?, Meaning.termValue?, Meaning.values, Meaning.names,
      heredocTree]

/-- With some value for its open attribute a body is read as a block that has a text for the
attribute and is otherwise the one that it is read as without the attribute. -/
def OpenBody.Records (body : OpenBody) (type : Key) (labels : List String) (block : Block)
    (tree : Tree) (text : List Char) : Prop :=
  ∃ first last, block.attributes = first ++ last ∧
    body.name ∉ first.map (·.1) ∧ body.name ∉ last.map (·.1) ∧
    toBlock type ⟨labels, body.fill tree⟩ =
      .ok { block with attributes := first ++ (body.name, .text (String.ofList text)) :: last }

/-- A body in which a text without signs is put records what the escapes of the text decode to. -/
theorem records_decoded {body : OpenBody} {type : Key} {labels : List String} {block : Block}
    (done : toBlock type ⟨labels, body.fill .null⟩ = .ok block) {text decoded : List Char}
    (free : SignFree text) (escapes : unescape text = .ok decoded) :
    body.Records type labels block (.text (String.ofList text)) (halved decoded) := by
  have single : ¬ HoldsBlocks .null := by
    rintro ⟨_, ⟨⟩, _⟩
  have straight : ¬ FirstStrays (.text (String.ofList text)) := by
    rintro ⟨_, _, ⟨⟩, _⟩
  have found : literal (.text (String.ofList text)) =
      .ok (.value (.text (String.ofList (halved decoded)))) := by
    rw [literal_signFree free, escapes]
    rfl
  obtain ⟨first, last, attributes, noFirst, noLast, others⟩ := body.around single done
  have kept := (others (.text (String.ofList text)) trivial (by simp [found])).there straight
  refine ⟨first, last, ?_, noFirst, noLast, ?_⟩
  · simpa [keptAttribute, literal] using attributes
  · rw [kept, keptAttribute, found]
    simp

/-- A body in which a text without signs is put cannot be read when an escape of the text writes no
code point. -/
theorem fails_of_wildEscape (body : OpenBody) (type : Key) (labels : List String)
    {text : List Char} (free : SignFree text) (wild : WildEscape text) :
    Fails (toBlock type ⟨labels, body.fill (.text (String.ofList text))⟩) := by
  obtain ⟨unwrapped, closed⟩ := free.plain
  have breaks : ValueBreaks (.text (String.ofList text)) :=
    .escape (by simpa using unwrapped) (by simpa using closed) (by simpa using wild)
  have single : ¬ HoldsBlocks (.text (String.ofList text)) := by
    rintro ⟨_, ⟨⟩, _⟩
  have member : (Key.text body.name, Tree.text (String.ofList text)) ∈
      body.fill (.text (String.ofList text)) := by
    simp [OpenBody.fill]
  rw [toBlock_fails_iff]
  exact .entry member (.value body.noMark single breaks)

/-- A text without signs is recorded as it is when no escape occurs in it. Otherwise less is
recorded, or the whole body cannot be read. -/
theorem text_recorded {text : List Char} (free : SignFree text) {body : OpenBody} {type : Key}
    {labels : List String} {block : Block}
    (done : toBlock type ⟨labels, body.fill .null⟩ = .ok block) :
    (¬ HoldsEscape text →
      body.Records type labels block (.text (String.ofList text)) text) ∧
    (HoldsEscape text → ¬ WildEscape text →
      ∃ decoded, unescape text = .ok decoded ∧ (halved decoded).length < text.length ∧
        body.Records type labels block (.text (String.ofList text)) (halved decoded)) ∧
    (WildEscape text →
      Fails (toBlock type ⟨labels, body.fill (.text (String.ofList text))⟩)) := by
  have decodes (tame : ¬ WildEscape text) : ∃ decoded, unescape text = .ok decoded :=
    ok_of_not_fails (mt (unescape_fails_iff text).mp tame)
  refine ⟨?_, ?_, fails_of_wildEscape body type labels free⟩
  · intro noEscape
    obtain ⟨decoded, escapes⟩ := decodes (mt holdsEscape_of_wild noEscape)
    have same := ((decoded_of_unescape escapes).halved free).1 noEscape
    have kept := records_decoded done free escapes
    rwa [same] at kept
  · intro holds tame
    obtain ⟨decoded, escapes⟩ := decodes tame
    have shorter := ((decoded_of_unescape escapes).halved free).2 holds
    exact ⟨decoded, escapes, shorter, records_decoded done free escapes⟩

/-- An attribute that is given by a heredoc without signs has its text for a value, and the text is
recorded as it is handed over when no escape occurs in it. Where one occurs, the escapes are decoded
as between quotes, so that less is recorded; and where one of them writes no code point, the whole
body cannot be read. -/
theorem heredocs_decoded {trimmed : Bool} {token : String}
    (free : SignFree (heredocText trimmed token)) {body : OpenBody} {type : Key}
    {labels : List String} {block : Block}
    (done : toBlock type ⟨labels, body.fill .null⟩ = .ok block) :
    (∀ name mark lexeme : Lexeme, lexeme.text = token →
      meaning? (heredocAttribute trimmed name mark lexeme) =
        some (.attribute name.text (heredocTree trimmed token))) ∧
    (¬ HoldsEscape (heredocText trimmed token) →
      body.Records type labels block (heredocTree trimmed token) (heredocText trimmed token)) ∧
    (HoldsEscape (heredocText trimmed token) → ¬ WildEscape (heredocText trimmed token) →
      ∃ decoded, unescape (heredocText trimmed token) = .ok decoded ∧
        (halved decoded).length < (heredocText trimmed token).length ∧
        body.Records type labels block (heredocTree trimmed token) (halved decoded)) ∧
    (WildEscape (heredocText trimmed token) →
      Fails (toBlock type ⟨labels, body.fill (heredocTree trimmed token)⟩)) := by
  constructor
  · rintro name mark lexeme rfl
    exact meaning_heredocAttribute trimmed name mark lexeme
  · rw [heredocTree_eq]
    exact text_recorded free done

/-- A trimmed heredoc with a backslash before a letter. -/
def escapingHeredoc : String := "<<-EOF\n  a\\nb\n  EOF"

/-- Its backslash and the letter behind it are recorded as a line end. -/
theorem escaping_heredoc_decoded :
    heredocText true escapingHeredoc = "a\\nb".toList ∧
      ∃ decoded, unescape "a\\nb".toList = .ok decoded ∧ (halved decoded).length < 4 ∧
        openedBody.Records (.text "resource") ["t", "n"]
          ⟨.text "resource", ["t", "n"], [("y", .bool true)], [], 1⟩
          (heredocTree true escapingHeredoc) (halved decoded) := by
  have text : heredocText true escapingHeredoc = "a\\nb".toList := by decide
  have free : SignFree (heredocText true escapingHeredoc) := by
    rw [text]
    rintro sign (rfl | rfl) <;> decide
  have escape : HoldsEscape (heredocText true escapingHeredoc) := by
    rw [text]
    exact ⟨['\\', 'n', 'b'], by decide, .simple rfl⟩
  have tame : ¬ WildEscape (heredocText true escapingHeredoc) := by
    rw [text, ← unescape_fails_iff]
    decide
  have read : toBlock (.text "resource") ⟨["t", "n"], openedBody.fill .null⟩ =
      .ok ⟨.text "resource", ["t", "n"], [("y", .bool true)], [], 1⟩ := by
    rfl
  have decoded := (heredocs_decoded free read).2.2.1 escape tame
  rw [text] at decoded
  exact ⟨text, decoded⟩

/-- Not every heredoc without signs is recorded as it is handed over. -/
theorem heredoc_not_kept :
    ¬ ∀ (trimmed : Bool) (token : String) (body : OpenBody) (type : Key) (labels : List String)
      (block : Block), SignFree (heredocText trimmed token) →
      toBlock type ⟨labels, body.fill .null⟩ = .ok block →
      body.Records type labels block (heredocTree trimmed token) (heredocText trimmed token) := by
  intro kept
  have text : heredocText false "<<EOF\na\\nb\nEOF" = "a\\nb".toList := by decide
  have free : SignFree (heredocText false "<<EOF\na\\nb\nEOF") := by
    rw [text]
    rintro sign (rfl | rfl) <;> decide
  have read : toBlock (.text "resource")
      ⟨["t", "n"], openedBody.fill (heredocTree false "<<EOF\na\\nb\nEOF")⟩ =
      .ok ⟨.text "resource", ["t", "n"], [("x", .text "a\nb"), ("y", .bool true)], [], 1⟩ := by
    rfl
  obtain ⟨first, last, attributes, _, _, same⟩ := kept false "<<EOF\na\\nb\nEOF" openedBody
    (.text "resource") ["t", "n"] ⟨.text "resource", ["t", "n"], [("y", .bool true)], [], 1⟩ free
    rfl
  rw [text, read] at same
  have recorded : [("x", Value.text "a\nb"), ("y", .bool true)] =
      first ++ (openedBody.name, .text (String.ofList "a\\nb".toList)) :: last :=
    congrArg Block.attributes (Except.ok.inj same)
  have listed : (openedBody.name, Value.text (String.ofList "a\\nb".toList)) ∈
      [("x", .text "a\nb"), ("y", .bool true)] := by
    rw [recorded]
    simp
  simp [openedBody] at listed

end InfraReview.Hcl
