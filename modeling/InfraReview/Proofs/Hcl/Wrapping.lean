import InfraReview.Hcl.Literal
import InfraReview.Proofs.Number.Notation
import InfraReview.Proofs.Text.Trim

/-!
# Openers and wrapped literals

Two things in a text decide whether it is an expression: a sign that opens an interpolation or a
directive, and the form of the whole, which may wrap a literal all the same. Both are said here as
grammars, without the order in which a text is searched, and the search is shown to agree.

That the search agrees rests on where each part of a literal ends: white space is no digit, and
nothing that may follow a number goes on with it.
-/

namespace InfraReview.Hcl

open Double (takeWhile_stop)
open Text (exists_blanks trimStart_append)

/-! ### Openers -/

/-- A text with an opening sign before which there is not the same character once more. -/
def Opens (text : List Char) : Prop :=
  ∃ before sign after, (sign = '$' ∨ sign = '%') ∧ text = before ++ sign :: '\x7b' :: after ∧
    before.getLast? ≠ some sign

/-- A text with such a sign when a character stands before the whole text. -/
def OpensBehind (previous : Option Char) (text : List Char) : Prop :=
  ∃ before sign after, (sign = '$' ∨ sign = '%') ∧ text = before ++ sign :: '\x7b' :: after ∧
    before.getLast?.or previous ≠ some sign

/-- The last character of a longer text, or the one before it. -/
theorem getLast_cons_or (previous : Option Char) (c : Char) (text : List Char) :
    (c :: text).getLast?.or previous = text.getLast?.or (some c) := by
  cases last : text.getLast? <;> simp [List.getLast?_cons, last]

/-- A text opens at its first character or behind it. -/
theorem opensBehind_cons (previous : Option Char) (c : Char) (rest : List Char) :
    OpensBehind previous (c :: rest) ↔
      ((c = '$' ∨ c = '%') ∧ rest.head? = some '\x7b' ∧ previous ≠ some c) ∨
        OpensBehind (some c) rest := by
  constructor
  · rintro ⟨before, sign, after, sort, same, single⟩
    cases before with
    | nil =>
      obtain ⟨rfl, rfl⟩ := List.cons.inj same
      exact .inl ⟨sort, rfl, by simpa using single⟩
    | cons first before =>
      obtain ⟨rfl, rfl⟩ := List.cons.inj same
      exact .inr ⟨before, sign, after, sort, rfl, getLast_cons_or previous c before ▸ single⟩
  · rintro (⟨sort, opened, single⟩ | ⟨before, sign, after, sort, rfl, single⟩)
    · obtain ⟨after, rfl⟩ := List.head?_eq_some_iff.mp opened
      exact ⟨[], c, after, sort, rfl, by simpa using single⟩
    · refine ⟨c :: before, sign, after, sort, rfl, ?_⟩
      rwa [getLast_cons_or]

/-- Nothing opens in the empty text. -/
theorem not_opensBehind_nil (previous : Option Char) : ¬ OpensBehind previous [] := by
  rintro ⟨before, sign, after, _, same, _⟩
  simp at same

/-- The test for opening signs finds them behind any character. Proof: by the recursion of the
test, which takes a sign and its brace in one step. -/
theorem hasOpener_iff (previous : Option Char) (text : List Char) :
    hasOpener previous text = true ↔ OpensBehind previous text := by
  induction previous, text using hasOpener.induct with
  | case1 previous rest inductionHypothesis =>
    rw [hasOpener, opensBehind_cons, opensBehind_cons, ← inductionHypothesis]
    simp
  | case2 previous rest inductionHypothesis =>
    rw [hasOpener, opensBehind_cons, opensBehind_cons, ← inductionHypothesis]
    simp
  | case3 previous c rest noDollar noPercent inductionHypothesis =>
    have alone : ¬ ((c = '$' ∨ c = '%') ∧ rest.head? = some '\x7b' ∧ previous ≠ some c) := by
      rintro ⟨sort, opened, _⟩
      obtain ⟨after, rfl⟩ := List.head?_eq_some_iff.mp opened
      rcases sort with rfl | rfl
      · exact noDollar after rfl rfl
      · exact noPercent after rfl rfl
    rw [hasOpener, inductionHypothesis, opensBehind_cons, or_iff_right alone]
    · exact noDollar
    · exact noPercent
  | case4 previous => simp [hasOpener, not_opensBehind_nil]

/-- The test for opening signs agrees with what opens a text. -/
theorem hasOpener_iff_opens (text : List Char) : hasOpener none text = true ↔ Opens text := by
  simp [hasOpener_iff, OpensBehind, Opens]

/-! ### Numbers -/

/-- Digits of any script, one at least. -/
def IsDigits (text : List Char) : Prop :=
  text ≠ [] ∧ ∀ c ∈ text, Text.isDecimalDigit c = true

/-- The fraction of a number: none, or a point and digits. -/
inductive IsFraction : List Char → Prop where
  | absent : IsFraction []
  | given {digits : List Char} (written : IsDigits digits) : IsFraction ('.' :: digits)

/-- The exponent of a number: none, or its mark, a sign or none, and digits. -/
inductive IsExponent : List Char → Prop where
  | absent : IsExponent []
  | given {mark : Char} {sign digits : List Char} (marks : mark = 'e' ∨ mark = 'E')
      (signs : sign = [] ∨ sign = ['-'] ∨ sign = ['+']) (written : IsDigits digits) :
      IsExponent (mark :: (sign ++ digits))

/-- A number: a minus sign or none, digits, a fraction and an exponent. -/
inductive IsNumber : List Char → Prop where
  | of {sign whole fraction exponent : List Char} (signs : sign = [] ∨ sign = ['-'])
      (written : IsDigits whole) (behindPoint : IsFraction fraction)
      (scaled : IsExponent exponent) : IsNumber (sign ++ whole ++ fraction ++ exponent)

/-- A character that ends a wrapped literal: white space or the closing brace. -/
def Closes (c : Char) : Prop := Text.isBlank c = true ∨ c = '\x7d'

/-- White space has no digits: of the code points of white space none is that of a digit. -/
theorem isDecimalDigit_blank {c : Char} (blank : Text.isBlank c = true) :
    Text.isDecimalDigit c = false := by
  have apart : ∀ code ∈ List.range' 9 5 ++ List.range' 0x1C 5 ++ Text.wideBlanks,
      (Text.zeroDigits.find? fun first => first ≤ code && code ≤ first + 9) = none := by
    decide
  have listed : c.toNat ∈ List.range' 9 5 ++ List.range' 0x1C 5 ++ Text.wideBlanks := by
    simp only [Text.isBlank] at blank
    simp only [List.mem_append, List.mem_range'_1]
    split at blank
    · have between : (9 ≤ c.toNat ∧ c.toNat ≤ 13) ∨ (0x1C ≤ c.toNat ∧ c.toNat ≤ 0x20) := by
        simpa using blank
      omega
    · exact .inr (by simpa using blank)
  rw [Text.isDecimalDigit, Text.digitValue?, apart _ listed]
  rfl

/-- What ends a literal is no digit, no point and no mark of an exponent. -/
theorem Closes.apart {c : Char} (closes : Closes c) :
    Text.isDecimalDigit c = false ∧ c ≠ '.' ∧ c ≠ 'e' ∧ c ≠ 'E' := by
  rcases closes with blank | rfl
  · refine ⟨isDecimalDigit_blank blank, ?_, ?_, ?_⟩ <;>
      · rintro rfl
        revert blank
        decide
  · decide

/-- Digits start with one of them, which is no sign. -/
theorem IsDigits.head {text : List Char} (written : IsDigits text) :
    ∃ first others, text = first :: others ∧ Text.isDecimalDigit first = true ∧
      first ≠ '-' ∧ first ≠ '+' := by
  obtain ⟨first, others, rfl⟩ := List.exists_cons_of_ne_nil written.1
  have digit : Text.isDecimalDigit first = true := written.2 first List.mem_cons_self
  have noSign {sign : Char} (other : Text.isDecimalDigit sign = false) : first ≠ sign := by
    rintro rfl
    rw [digit] at other
    cases other
  exact ⟨first, others, rfl, digit, noSign (by decide), noSign (by decide)⟩

/-- Digits are taken up to the first character that is none. -/
theorem spanDecimal_append {digits rest : List Char} (written : IsDigits digits)
    (stops : ∀ c ∈ rest.head?, Text.isDecimalDigit c = false) :
    spanDecimal (digits ++ rest) = (digits, rest) := by
  obtain ⟨taken, dropped⟩ := takeWhile_stop Text.isDecimalDigit written.2 stops
  rw [spanDecimal, taken, dropped]

/-- What is taken as digits are digits, and the rest stands behind them. -/
theorem spanDecimal_sound {text digits rest : List Char}
    (found : spanDecimal text = (digits, rest)) (filled : digits ≠ []) :
    text = digits ++ rest ∧ IsDigits digits := by
  obtain ⟨rfl, rfl⟩ := Prod.mk.inj found
  exact ⟨List.takeWhile_append_dropWhile.symm, filled,
    List.all_eq_true.mp List.all_takeWhile⟩

/-- A fraction is taken up to the first character that does not go on with it. -/
theorem spanFraction_append {fraction rest : List Char} (given : IsFraction fraction)
    (stops : ∀ c ∈ rest.head?, Text.isDecimalDigit c = false ∧ c ≠ '.') :
    spanFraction (fraction ++ rest) = (fraction, rest) := by
  cases given with
  | absent =>
    rw [List.nil_append, spanFraction.eq_def]
    split
    · exact absurd rfl (stops '.' rfl).2
    · rfl
  | @given digits written =>
    have spanned := spanDecimal_append written fun c head => (stops c head).1
    rw [List.cons_append, spanFraction, spanned]
    split
    · rename_i empty
      exact absurd (Prod.mk.inj empty).1 written.1
    · rename_i same
      obtain ⟨rfl, rfl⟩ := Prod.mk.inj same
      rfl

/-- What is taken as a fraction is one, and the rest stands behind it. -/
theorem spanFraction_sound {text fraction rest : List Char}
    (found : spanFraction text = (fraction, rest)) :
    text = fraction ++ rest ∧ IsFraction fraction := by
  unfold spanFraction at found
  split at found
  · split at found
    · obtain ⟨rfl, rfl⟩ := Prod.mk.inj found
      exact ⟨rfl, .absent⟩
    · rename_i filled spanned
      obtain ⟨rfl, rfl⟩ := Prod.mk.inj found
      obtain ⟨rfl, written⟩ := spanDecimal_sound spanned (by simpa using filled)
      exact ⟨rfl, .given written⟩
  · obtain ⟨rfl, rfl⟩ := Prod.mk.inj found
    exact ⟨rfl, .absent⟩

/-- An exponent is taken up to the first character that does not go on with it. -/
theorem spanExponent_append {exponent rest : List Char} (given : IsExponent exponent)
    (stops : ∀ c ∈ rest.head?, Text.isDecimalDigit c = false ∧ c ≠ 'e' ∧ c ≠ 'E') :
    spanExponent (exponent ++ rest) = (exponent, rest) := by
  cases given with
  | absent =>
    cases rest with
    | nil => rfl
    | cons c rest =>
      obtain ⟨_, noSmall, noLarge⟩ := stops c rfl
      simp [spanExponent, noSmall, noLarge]
  | @given mark sign digits marks signs written =>
    have spanned := spanDecimal_append written fun c head => (stops c head).1
    obtain ⟨first, others, rfl, _, noMinus, noPlus⟩ := written.head
    rcases signs with rfl | rfl | rfl <;> simp_all [spanExponent]

/-- What is taken as an exponent is one, and the rest stands behind it. -/
theorem spanExponent_sound {text exponent rest : List Char}
    (found : spanExponent text = (exponent, rest)) :
    text = exponent ++ rest ∧ IsExponent exponent := by
  unfold spanExponent at found
  split at found
  · obtain ⟨rfl, rfl⟩ := Prod.mk.inj found
    exact ⟨rfl, .absent⟩
  · rename_i mark rest
    split at found
    · rename_i marks
      split at found
      rename_i sign unsigned signed
      have signs : rest = sign ++ unsigned ∧ (sign = [] ∨ sign = ['-'] ∨ sign = ['+']) := by
        split at signed <;> cases signed <;> simp
      obtain ⟨rfl, signs⟩ := signs
      split at found
      · obtain ⟨rfl, rfl⟩ := Prod.mk.inj found
        exact ⟨rfl, .absent⟩
      · rename_i filled spanned
        obtain ⟨rfl, rfl⟩ := Prod.mk.inj found
        obtain ⟨rfl, written⟩ := spanDecimal_sound spanned (by simpa using filled)
        exact ⟨by simp, .given (by simpa using marks) signs written⟩
    · obtain ⟨rfl, rfl⟩ := Prod.mk.inj found
      exact ⟨rfl, .absent⟩

/-- The first character of a number is a minus sign or a digit. -/
theorem IsNumber.head {number : List Char} (numeral : IsNumber number) :
    ∃ c rest, number = c :: rest ∧ (c = '-' ∨ Text.isDecimalDigit c = true) := by
  obtain @⟨sign, whole, fraction, exponent, signs, written, _, _⟩ := numeral
  obtain ⟨first, others, rfl, digit, _, _⟩ := written.head
  rcases signs with rfl | rfl
  · exact ⟨first, _, rfl, .inr digit⟩
  · exact ⟨'-', _, rfl, .inl rfl⟩

/-- Behind the digits of a number no digit follows, whatever parts the number has. -/
theorem head_fraction_exponent {fraction exponent rest : List Char}
    (behindPoint : IsFraction fraction) (scaled : IsExponent exponent)
    (stops : ∀ c ∈ rest.head?, Closes c) :
    (∀ c ∈ (exponent ++ rest).head?, Text.isDecimalDigit c = false ∧ c ≠ '.') ∧
      ∀ c ∈ (fraction ++ (exponent ++ rest)).head?, Text.isDecimalDigit c = false := by
  have behind : ∀ c ∈ (exponent ++ rest).head?, Text.isDecimalDigit c = false ∧ c ≠ '.' := by
    cases scaled with
    | absent =>
      intro c head
      obtain ⟨noDigit, noPoint, _⟩ := (stops c head).apart
      exact ⟨noDigit, noPoint⟩
    | given marks _ _ =>
      rintro _ ⟨⟩
      rcases marks with rfl | rfl <;> decide
  refine ⟨behind, ?_⟩
  cases behindPoint with
  | absent => exact fun c head => (behind c head).1
  | given _ =>
    rintro _ ⟨⟩
    decide

/-- A number is taken up to the character that closes it. -/
theorem spanNumber_append {number rest : List Char} (numeral : IsNumber number)
    (stops : ∀ c ∈ rest.head?, Closes c) :
    spanNumber? (number ++ rest) = some (number, rest) := by
  obtain @⟨sign, whole, fraction, exponent, signs, written, behindPoint, scaled⟩ := numeral
  obtain ⟨behindFraction, behindWhole⟩ := head_fraction_exponent behindPoint scaled stops
  have wholeFound := spanDecimal_append written behindWhole
  have fractionFound := spanFraction_append behindPoint behindFraction
  have exponentFound := spanExponent_append scaled fun c head =>
    ⟨(stops c head).apart.1, (stops c head).apart.2.2⟩
  obtain ⟨first, others, rfl, _, noMinus, _⟩ := written.head
  rcases signs with rfl | rfl <;> simp_all [spanNumber?]

/-- What is taken as a number is one, and the rest stands behind it. -/
theorem spanNumber_sound {text number rest : List Char}
    (found : spanNumber? text = some (number, rest)) : text = number ++ rest ∧ IsNumber number := by
  unfold spanNumber? at found
  split at found
  rename_i sign unsigned signed
  have signs : text = sign ++ unsigned ∧ (sign = [] ∨ sign = ['-']) := by
    split at signed <;> cases signed <;> simp
  obtain ⟨rfl, signs⟩ := signs
  split at found
  · cases found
  · rename_i whole afterWhole filled wholeFound
    obtain ⟨rfl, written⟩ := spanDecimal_sound wholeFound (by simpa using filled)
    rcases fractionFound : spanFraction afterWhole with ⟨fraction, afterFraction⟩
    rcases exponentFound : spanExponent afterFraction with ⟨exponent, after⟩
    obtain ⟨rfl, behindPoint⟩ := spanFraction_sound fractionFound
    obtain ⟨rfl, scaled⟩ := spanExponent_sound exponentFound
    simp only [fractionFound, exponentFound, Option.some.injEq, Prod.mk.injEq] at found
    obtain ⟨rfl, rfl⟩ := found
    exact ⟨by simp, .of signs written behindPoint scaled⟩

/-- What starts with neither a minus sign nor a digit starts with no number. -/
theorem spanNumber_none {c : Char} (noMinus : c ≠ '-')
    (noDigit : Text.isDecimalDigit c = false) (rest : List Char) :
    spanNumber? (c :: rest) = none := by
  simp [spanNumber?, noMinus, spanDecimal, noDigit]

/-! ### Wrapped literals -/

/-- A literal that is known: a value, or null. -/
def Literal.known : Option Value → Literal
  | none => .null
  | some kept => .value kept

/-- What can be wrapped, with what it stands for: a number, a truth value or null. -/
inductive Denotes : List Char → Option Value → Prop where
  | number {text : List Char} (numeral : IsNumber text) :
      Denotes text (some (.number (Double.read text)))
  | yes : Denotes "true".toList (some (.bool true))
  | no : Denotes "false".toList (some (.bool false))
  | null : Denotes "null".toList none

/-- A whole text that wraps a literal in the signs of an interpolation, with white space around it
or none. One line end may follow. -/
inductive Wraps : List Char → Option Value → Prop where
  | of {before token after ending : List Char} {found : Option Value}
      (leading : ∀ c ∈ before, Text.isBlank c = true) (denotes : Denotes token found)
      (trailing : ∀ c ∈ after, Text.isBlank c = true) (ends : ending = [] ∨ ending = ['\n']) :
      Wraps ('$' :: '\x7b' :: (before ++ (token ++ (after ++ '\x7d' :: ending)))) found

/-- A literal does not start with white space. -/
theorem Denotes.head {token : List Char} {found : Option Value} (denotes : Denotes token found)
    (rest : List Char) : ∀ c ∈ (token ++ rest).head?, Text.isBlank c = false := by
  cases denotes with
  | number numeral =>
    obtain ⟨c, others, rfl, sort⟩ := numeral.head
    rintro _ ⟨⟩
    rcases sort with rfl | digit
    · decide
    · rw [Bool.eq_false_iff]
      intro blank
      rw [isDecimalDigit_blank blank] at digit
      cases digit
  | _ =>
    rintro _ ⟨⟩
    decide

/-- A literal is found at the start of a text that closes behind it. -/
theorem spanLiteral_append {token rest : List Char} {found : Option Value}
    (denotes : Denotes token found) (stops : ∀ c ∈ rest.head?, Closes c) :
    spanLiteral? (token ++ rest) = some (.known found, rest) := by
  cases denotes with
  | number numeral =>
    rw [spanLiteral?, spanNumber_append numeral stops]
    rfl
  | _ =>
    have noDigits : Text.isDecimalDigit 't' = false ∧ Text.isDecimalDigit 'f' = false ∧
        Text.isDecimalDigit 'n' = false := by decide
    simp [spanLiteral?, spanNumber_none, noDigits, Literal.known]

/-- What is found at the start of a text is a literal, and the rest stands behind it. -/
theorem spanLiteral_sound {text rest : List Char} {literal : Literal}
    (spanned : spanLiteral? text = some (literal, rest)) :
    ∃ token found, text = token ++ rest ∧ literal = .known found ∧ Denotes token found := by
  have word {name : String} {length : Nat} (starts : name.toList.isPrefixOf text = true)
      (sized : name.toList.length = length) : text = name.toList ++ text.drop length := by
    obtain ⟨behind, rfl⟩ := List.isPrefixOf_iff_prefix.mp starts
    rw [← sized, List.drop_left]
  unfold spanLiteral? at spanned
  split at spanned
  · rename_i number after found
    obtain ⟨rfl, numeral⟩ := spanNumber_sound found
    cases spanned
    exact ⟨number, _, rfl, rfl, .number numeral⟩
  · split at spanned
    · rename_i starts
      cases spanned
      exact ⟨_, _, word starts rfl, rfl, .yes⟩
    · split at spanned
      · rename_i starts
        cases spanned
        exact ⟨_, _, word starts rfl, rfl, .no⟩
      · split at spanned
        · rename_i starts
          cases spanned
          exact ⟨_, _, word starts rfl, rfl, .null⟩
        · cases spanned

/-- What is read from a text as a wrapped literal is what it wraps. -/
theorem wraps_of_wrapped {text : List Char} {literal : Literal}
    (wrapped : wrapped? text = some literal) :
    ∃ found, literal = .known found ∧ Wraps text found := by
  unfold wrapped? at wrapped
  split at wrapped
  · rename_i inside
    split at wrapped
    · rename_i read rest spanned
      obtain ⟨before, leads, leading⟩ := exists_blanks inside
      obtain ⟨after, follows, trailing⟩ := exists_blanks rest
      obtain ⟨token, found, starts, rfl, denotes⟩ := spanLiteral_sound spanned
      have wraps {ending : List Char} (ends : ending = [] ∨ ending = ['\n'])
          (closed : Text.trimStartChars rest = '\x7d' :: ending) :
          Wraps ('$' :: '\x7b' :: inside) found := by
        rw [leads, starts, follows, closed]
        exact .of leading denotes trailing ends
      split at wrapped
      · rename_i closed
        cases wrapped
        exact ⟨found, rfl, wraps (.inl rfl) closed⟩
      · rename_i closed
        cases wrapped
        exact ⟨found, rfl, wraps (.inr rfl) closed⟩
      · cases wrapped
    · cases wrapped
  · cases wrapped

/-- What a text wraps is read from it. -/
theorem wrapped_of_wraps {text : List Char} {found : Option Value} (wraps : Wraps text found) :
    wrapped? text = some (.known found) := by
  obtain @⟨before, token, after, ending, _, leading, denotes, trailing, ends⟩ := wraps
  have closes : ∀ c ∈ (after ++ '\x7d' :: ending).head?, Closes c := by
    cases after with
    | nil =>
      rintro _ ⟨⟩
      exact .inr rfl
    | cons c after =>
      rintro _ ⟨⟩
      exact .inl (trailing c List.mem_cons_self)
  have braceStops : ∀ c ∈ ('\x7d' :: ending).head?, Text.isBlank c = false := by
    rintro _ ⟨⟩
    decide
  rw [wrapped?, trimStart_append leading (denotes.head _), spanLiteral_append denotes closes]
  simp only [trimStart_append trailing braceStops]
  rcases ends with rfl | rfl <;> rfl

end InfraReview.Hcl
