import InfraReview.Json.Writer
import InfraReview.Proofs.Json.Length
import InfraReview.Proofs.Number.Notation

/-!
# Strings and values as they are spelled

What is written for a string or for a value without brackets is one token when the text is cut, and
the token has the string or the value. A string ends at its quote, whatever follows. A number ends
where nothing follows that could belong to it.

Characters that are not written as themselves are written by code units. A character beyond sixteen
bits takes two, and the upper half waits for the lower one.
-/

namespace InfraReview.Json

open Double (AllDigits Layout signText)

/-! ### Hexadecimal digits -/

/-- A digit has its value. -/
theorem hexValue_hexDigit {value : Nat} (small : value < 16) :
    Text.hexValue? (Text.hexDigit value) = some value := by
  have each : ∀ value < 16, Text.hexValue? (Text.hexDigit value) = some value := by decide
  exact each value small

/-- The digits of a number write it when there are enough places. -/
theorem hexNumber_hexDigits {places : Nat} : ∀ {value : Nat}, value < Nat.pow 16 places →
    Text.hexNumber? (Text.hexDigits places value) = some value := by
  induction places with
  | zero =>
    intro value small
    obtain rfl : value = 0 := Nat.lt_one_iff.mp small
    rfl
  | succ places inductionHypothesis =>
    intro value small
    have high : value / 16 < Nat.pow 16 places := (Nat.div_lt_iff_lt_mul (by decide)).mpr small
    have before := inductionHypothesis high
    have last := hexValue_hexDigit (Nat.mod_lt value (by decide : 0 < 16))
    unfold Text.hexNumber? at before ⊢
    rw [Text.hexDigits, List.foldl_append, before]
    simp [last, Nat.div_add_mod]

/-- A code unit is read from its four digits. -/
theorem fourHex_unit {unit : Nat} (small : unit < 0x10000) :
    ∃ a b c d, unitEscape unit = ['\\', 'u', a, b, c, d] ∧ fourHex? a b c d = some unit := by
  have read : Text.hexNumber? (Text.hexDigits 4 unit) = some unit := hexNumber_hexDigits small
  exact ⟨_, _, _, _, rfl, read⟩

/-! ### Strings -/

/-- The content of a string that was read without half a pair. -/
def whole (done : List Char) : Content := ⟨done, none, false⟩

/-- Another code unit that is no half of a pair is a character. -/
theorem addUnit_plain {unit : Nat} (plain : Text.isHalf unit = false) (done : List Char) :
    (whole done).addUnit unit = whole (Char.ofNat unit :: done) := by
  have noUpper : Text.isUpperHalf unit = false := by
    simp only [Text.isHalf, Text.isUpperHalf, Bool.and_eq_false_iff, decide_eq_false_iff_not]
      at plain ⊢
    omega
  simp [Content.addUnit, plain, noUpper, whole, Content.add, Content.settled]

/-- Two halves of a pair are a character. -/
theorem addUnit_pair {upper lower : Nat} (first : Text.isUpperHalf upper = true)
    (second : Text.isHalf lower = true) (later : Text.isUpperHalf lower = false)
    (done : List Char) :
    ((whole done).addUnit upper).addUnit lower =
      whole (Char.ofNat (Text.pairedCode upper lower) :: done) := by
  simp [Content.addUnit, first, second, later, whole, Content.settled]

/-- A code beyond sixteen bits is that of its two halves. -/
theorem halves_of_long {code : Nat} (long : ¬ code < 0x10000) (bound : code < 0x110000) :
    Text.isUpperHalf (0xD800 + (code - 0x10000) / 0x400) = true ∧
      Text.isHalf (0xDC00 + (code - 0x10000) % 0x400) = true ∧
      Text.isUpperHalf (0xDC00 + (code - 0x10000) % 0x400) = false ∧
      Text.pairedCode (0xD800 + (code - 0x10000) / 0x400)
        (0xDC00 + (code - 0x10000) % 0x400) = code := by
  have high : (code - 0x10000) / 0x400 < 0x400 := by omega
  have low : (code - 0x10000) % 0x400 < 0x400 := Nat.mod_lt _ (by decide)
  refine ⟨?upper, ?lower, ?later, ?paired⟩
  case upper =>
    simp only [Text.isUpperHalf, Bool.and_eq_true, decide_eq_true_eq]
    omega
  case lower =>
    simp only [Text.isHalf, Bool.and_eq_true, decide_eq_true_eq]
    omega
  case later =>
    simp only [Text.isUpperHalf, Bool.and_eq_false_iff, decide_eq_false_iff_not]
    omega
  case paired =>
    unfold Text.pairedCode
    omega

/-- A code unit is read from its escape, if anything follows. -/
theorem readString_unit {unit : Nat} (small : unit < 0x10000) (start offset : Nat)
    (content : Content) (next : Char) (rest : List Char) :
    readString start offset content (unitEscape unit ++ next :: rest) =
      readString start (offset + 6) (content.addUnit unit) (next :: rest) := by
  obtain ⟨a, b, c, d, spelled, read⟩ := fourHex_unit small
  rw [spelled]
  simp only [List.cons_append, List.nil_append]
  rw [readString, read]

/-- A character that is escaped by a letter is read from the letter. -/
theorem readString_letter {letter meant : Char} (known : simpleEscape? letter = some meant)
    (start offset : Nat) (done rest : List Char) :
    readString start offset (whole done) ('\\' :: letter :: rest) =
      readString start (offset + 2) (whole (meant :: done)) rest := by
  have noUnit : letter ≠ 'u' := by
    rintro rfl
    cases known
  rw [readString, known]
  · rfl
  · simp [noUnit]
  · simp [noUnit]

/-- A character that stands for itself is read as it is. -/
theorem readString_self {c : Char} (noQuote : c ≠ '"') (noBackslash : c ≠ '\\')
    (printable : ¬ c.toNat < 0x20) (start offset : Nat) (done rest : List Char) :
    readString start offset (whole done) (c :: rest) =
      readString start (offset + 1) (whole (c :: done)) rest := by
  rw [readString, if_neg printable]
  · rfl
  all_goals simp [noQuote, noBackslash]

/-- A character is read from what is written for it, if anything follows. -/
theorem readString_char (c : Char) (start offset : Nat) (done : List Char) (next : Char)
    (rest : List Char) :
    ∃ later, readString start offset (whole done) (escapeChar c ++ next :: rest) =
      readString start later (whole (c :: done)) (next :: rest) := by
  have isChar : Char.ofNat c.toNat = c := Char.ofNat_toNat c
  have noHalf : c.toNat < 0xD800 ∨ 0xDFFF < c.toNat ∧ c.toNat < 0x110000 := c.valid
  have byLetter {letter meant : Char} (same : c = meant)
      (known : simpleEscape? letter = some meant) :
      ∃ later, readString start offset (whole done) (['\\', letter] ++ next :: rest) =
        readString start later (whole (c :: done)) (next :: rest) :=
    ⟨_, same ▸ readString_letter known start offset done _⟩
  unfold escapeChar
  dsimp only
  split_ifs with quote backslash feed back tab bell page printable short
  · exact byLetter quote rfl
  · exact byLetter backslash rfl
  · exact byLetter feed rfl
  · exact byLetter back rfl
  · exact byLetter tab rfl
  · exact byLetter (isChar.symm.trans (congrArg Char.ofNat bell)) rfl
  · exact byLetter (isChar.symm.trans (congrArg Char.ofNat page)) rfl
  · simp only [Bool.and_eq_true, decide_eq_true_eq] at printable
    exact ⟨_, readString_self quote backslash (by omega) start offset done _⟩
  · have plain : Text.isHalf c.toNat = false := by
      simp only [Text.isHalf, Bool.and_eq_false_iff, decide_eq_false_iff_not]
      omega
    refine ⟨offset + 6, ?_⟩
    rw [readString_unit short, addUnit_plain plain, isChar]
  · have bound : c.toNat < 0x110000 := by omega
    obtain ⟨upper, lower, later, paired⟩ := halves_of_long short bound
    refine ⟨offset + 6 + 6, ?_⟩
    rw [List.append_assoc]
    obtain ⟨first, others, spelled⟩ : ∃ first others,
        unitEscape (0xDC00 + (c.toNat - 0x10000) % 0x400) ++ next :: rest = first :: others :=
      ⟨_, _, rfl⟩
    rw [spelled, readString_unit (by omega), ← spelled, readString_unit (by omega),
      addUnit_pair upper lower later, paired, isChar]

/-- The characters of a string are read up to its quote. Proof: by induction on the characters;
something always follows, the quote at least. -/
theorem readString_written (start : Nat) (rest characters : List Char) :
    ∀ offset done, ∃ later,
      readString start offset (whole done) (characters.flatMap escapeChar ++ '"' :: rest) =
        .ok (String.ofList (done.reverse ++ characters), rest, later) := by
  induction characters with
  | nil => exact fun offset done => ⟨offset + 1, by simp [readString, whole, Content.settled]⟩
  | cons c characters inductionHypothesis =>
    intro offset done
    obtain ⟨next, more, follows⟩ : ∃ next more,
        characters.flatMap escapeChar ++ '"' :: rest = next :: more := by
      cases characters.flatMap escapeChar with
      | nil => exact ⟨_, _, rfl⟩
      | cons next more => exact ⟨_, _, rfl⟩
    obtain ⟨after, first⟩ := readString_char c start offset done next more
    obtain ⟨later, others⟩ := inductionHypothesis after (c :: done)
    refine ⟨later, ?_⟩
    rw [List.flatMap_cons, List.append_assoc, follows, first, ← follows, others]
    simp

/-! ### Numbers -/

/-- A text does not go on with a number. -/
def Stops (rest : List Char) : Prop :=
  ∀ c ∈ rest.head?, c.isDigit = false ∧ c ≠ '.' ∧ c ≠ 'e' ∧ c ≠ 'E'

/-- Digits are taken up to something else. -/
theorem spanDigits_append {digits rest : List Char} (all : AllDigits digits)
    (stops : ∀ c ∈ rest.head?, c.isDigit = false) :
    spanDigits (digits ++ rest) = (digits, rest) := by
  obtain ⟨taken, left⟩ := Double.takeWhile_stop Char.isDigit all stops
  rw [spanDigits, taken, left]

section

variable {parts : Layout} (sound : parts.Sound) {rest : List Char}

include sound in
/-- The fraction is taken up to something else. -/
theorem spanFraction_append (stops : ∀ c ∈ rest.head?, c.isDigit = false ∧ c ≠ '.') :
    spanFraction (parts.fractionText ++ rest) = (parts.fractionText, rest) := by
  by_cases empty : parts.fraction = []
  · have none : parts.fractionText = [] := by rw [Layout.fractionText, empty]
    rw [none, List.nil_append]
    cases rest with
    | nil => rfl
    | cons c rest =>
      have noPoint : c ≠ '.' := (stops c rfl).2
      rw [spanFraction]
      simp [noPoint]
  · rw [Layout.fractionText_filled empty, List.cons_append, spanFraction,
      spanDigits_append sound.fraction fun c first => (stops c first).1]
    obtain ⟨digit, digits, filled⟩ := List.exists_cons_of_ne_nil empty
    rw [filled]

include sound in
/-- The exponent is taken up to something else. -/
theorem spanExponent_append (stops : Stops rest) :
    spanExponent (parts.exponentText ++ rest) = (parts.exponentText, rest) := by
  have others : ∀ c ∈ rest.head?, c.isDigit = false := fun c first => (stops c first).1
  rw [Layout.exponentText]
  cases written : parts.exponent with
  | none =>
    cases rest with
    | nil => rfl
    | cons c rest =>
      obtain ⟨_, _, noMark, noLargeMark⟩ := stops c rfl
      simp [spanExponent, noMark, noLargeMark]
  | some exponent =>
    obtain ⟨negative, digits⟩ := exponent
    obtain ⟨all, filled⟩ := sound.exponent negative digits written
    have taken := spanDigits_append all others
    obtain ⟨digit, more, rfl⟩ := List.exists_cons_of_ne_nil filled
    rw [List.cons_append] at taken
    cases negative <;> simp [spanExponent, taken]

omit sound in
/-- What follows the digits before the point is no digit. -/
theorem head_behind (stops : Stops rest) :
    (∀ c ∈ (parts.exponentText ++ rest).head?, c.isDigit = false ∧ c ≠ '.') ∧
      ∀ c ∈ (parts.fractionText ++ (parts.exponentText ++ rest)).head?, c.isDigit = false := by
  have exponent : ∀ c ∈ (parts.exponentText ++ rest).head?, c.isDigit = false ∧ c ≠ '.' := by
    rw [Layout.exponentText]
    cases parts.exponent with
    | none => exact fun c first => ⟨(stops c first).1, (stops c first).2.1⟩
    | some exponent =>
      rintro _ ⟨⟩
      exact ⟨rfl, by decide⟩
  refine ⟨exponent, ?_⟩
  rw [Layout.fractionText]
  cases parts.fraction with
  | nil => exact fun c first => (exponent c first).1
  | cons digit digits =>
    rintro _ ⟨⟩
    rfl

/-- The number with a sign and a whole part that were taken before the rest of a text. -/
def numberBehind (sign whole afterWhole : List Char) : Option (Token × Nat × List Char) :=
  let (fraction, afterFraction) := spanFraction afterWhole
  let (exponent, after) := spanExponent afterFraction
  let length := sign.length + whole.length + fraction.length + exponent.length
  if fraction.isEmpty && exponent.isEmpty then
    some (integerToken (!sign.isEmpty) whole, length, after)
  else
    some (.scalar (.double (Double.read (sign ++ whole ++ fraction ++ exponent))), length, after)

/-- A number without a sign starts with a zero alone or with other digits. -/
theorem readNumber_unsigned {whole behind : List Char} (all : AllDigits whole)
    (filled : whole ≠ []) (leading : whole.head? = some '0' → whole = ['0'])
    (stops : ∀ c ∈ behind.head?, c.isDigit = false) :
    readNumber? (whole ++ behind) = numberBehind [] whole behind ∧
      readNumber? ('-' :: (whole ++ behind)) = numberBehind ['-'] whole behind := by
  obtain ⟨first, digits, rfl⟩ := List.exists_cons_of_ne_nil filled
  have digit : first.isDigit = true := all first List.mem_cons_self
  have noMinus : first ≠ '-' := Double.digit_ne digit '-' rfl
  have taken := spanDigits_append all stops
  by_cases zero : first = '0'
  · subst zero
    obtain rfl : digits = [] := (List.cons.inj (leading rfl)).2
    exact ⟨rfl, rfl⟩
  · rw [List.cons_append] at taken ⊢
    constructor <;> simp [readNumber?, noMinus, zero, taken, numberBehind]

include sound in
/-- A written number is read up to something else: an integer when it is whole, and otherwise a
double. -/
theorem readNumber_layout (negative : Bool) (stops : Stops rest) :
    ∃ length, readNumber? (signText negative ++ (parts.text ++ rest)) = some (
      if parts.fractionText.isEmpty && parts.exponentText.isEmpty then
        integerToken negative parts.whole
      else .scalar (.double (Double.read (signText negative ++ parts.text))), length, rest) := by
  obtain ⟨behind, noDigit⟩ := head_behind stops
  have text : parts.text ++ rest =
      parts.whole ++ (parts.fractionText ++ (parts.exponentText ++ rest)) := by
    simp [Layout.text]
  obtain ⟨unsigned, signed⟩ :=
    readNumber_unsigned sound.whole sound.wholeFilled sound.leading noDigit
  have read (sign : List Char) :
      numberBehind sign parts.whole (parts.fractionText ++ (parts.exponentText ++ rest)) = some (
        if parts.fractionText.isEmpty && parts.exponentText.isEmpty then
          integerToken (!sign.isEmpty) parts.whole
        else .scalar (.double (Double.read (sign ++ parts.text))),
        sign.length + parts.whole.length + parts.fractionText.length + parts.exponentText.length,
        rest) := by
    rw [numberBehind, spanFraction_append sound behind]
    dsimp only
    rw [spanExponent_append sound stops]
    split <;> simp_all [Layout.text]
  rw [text]
  cases negative with
  | false => exact ⟨_, unsigned.trans (read [])⟩
  | true => exact ⟨_, signed.trans (read ['-'])⟩

end

/-! ### Tokens -/

/-- The first token of a text, and what follows it. -/
def CutsTo (text : List Char) (token : Token) (rest : List Char) : Prop :=
  rest.length < text.length ∧ ∀ fuel offset, ∃ later,
    tokensFrom (fuel + 1) offset text = ⟨offset, token⟩ :: tokensFrom fuel later rest

/-- A string is cut off at its quote. -/
theorem cutsTo_string (text : String) (rest : List Char) :
    CutsTo ((writeString text).toList ++ rest) (.string text) rest := by
  have spelled : (writeString text).toList ++ rest =
      '"' :: (text.toList.flatMap escapeChar ++ '"' :: rest) := by
    simp [writeString]
  rw [spelled]
  refine ⟨by simp; omega, fun fuel offset => ?_⟩
  obtain ⟨later, read⟩ := readString_written offset rest text.toList (offset + 1) []
  rw [List.reverse_nil, List.nil_append, String.ofList_toList] at read
  have starts : Content.empty = whole [] := rfl
  refine ⟨later, ?_⟩
  simp [tokensFrom, isSkipped, starts, read]

/-- The characters with which no value without brackets and quotes begins: white space, brackets,
the comma, the colon and the quote. -/
def marks : List Char := [' ', '\t', '\n', '\r', '\x7b', '\x7d', '[', ']', ',', ':', '"']

/-- A value without brackets and quotes is cut off where it ends. -/
theorem cutsTo_scalar {c : Char} {text rest : List Char} {token : Token} {length : Nat}
    (plain : c ∉ marks) (read : readScalar? (c :: text) = some (token, length, rest))
    (shorter : rest.length < (c :: text).length) : CutsTo (c :: text) token rest := by
  refine ⟨shorter, fun fuel offset => ⟨offset + length, ?_⟩⟩
  simp only [marks, List.mem_cons, List.not_mem_nil, or_false, not_or] at plain
  simp [tokensFrom, isSkipped, plain, read]

/-- A word that stands for a value is cut off. -/
theorem cutsTo_word {word : List Char} {value : Json} (known : (word, value) ∈ valueWords)
    (rest : List Char) : CutsTo (word ++ rest) (.scalar value) rest := by
  have read : readScalar? (word ++ rest) = some (.scalar value, word.length, rest) := by
    simp only [valueWords, List.mem_cons, Prod.mk.injEq, List.not_mem_nil, or_false] at known
    obtain ⟨rfl, rfl⟩ | ⟨rfl, rfl⟩ | ⟨rfl, rfl⟩ | ⟨rfl, rfl⟩ | ⟨rfl, rfl⟩ | ⟨rfl, rfl⟩ := known
    all_goals rfl
  have starts : ∃ c more, word = c :: more ∧ c ∉ marks := by
    have each : ∀ word ∈ valueWords, ∃ c more, word.1 = c :: more ∧ c ∉ marks := by
      simp +decide [valueWords, marks]
    exact each (word, value) known
  obtain ⟨c, more, rfl, plain⟩ := starts
  have shorter : rest.length < (c :: (more ++ rest)).length := by
    rw [List.length_cons, List.length_append]
    omega
  exact cutsTo_scalar plain read shorter

/-- A digit is no mark, and no word begins with one. -/
theorem digit_plain {c : Char} (digit : c.isDigit = true) (text : List Char) :
    c ∉ marks ∧ readScalar? (c :: text) = readNumber? (c :: text) ∧
      readScalar? ('-' :: c :: text) = readNumber? ('-' :: c :: text) := by
  have noMark : ∀ d ∈ marks, d.isDigit = false := by simp [marks]
  have noInitial : ∀ d ∈ ['n', 't', 'f', 'N', 'I', '-'], d ≠ c := by
    intro d initial same
    have noDigit : ∀ d ∈ ['n', 't', 'f', 'N', 'I', '-'], d.isDigit = false := by simp
    rw [← same, noDigit d initial] at digit
    cases digit
  simp only [List.forall_mem_cons] at noInitial
  refine ⟨fun mark => ?_, ?_, ?_⟩
  · rw [noMark c mark] at digit
    cases digit
  all_goals simp [readScalar?, valueWords, List.isPrefixOf, noInitial]

section

variable {parts : Layout} (sound : parts.Sound) {rest : List Char}

include sound in
/-- A written number is cut off where it ends. -/
theorem cutsTo_number (negative : Bool) (stops : Stops rest) :
    CutsTo (signText negative ++ parts.text ++ rest) (
      if parts.fractionText.isEmpty && parts.exponentText.isEmpty then
        integerToken negative parts.whole
      else .scalar (.double (Double.read (signText negative ++ parts.text)))) rest := by
  obtain ⟨length, read⟩ := readNumber_layout sound negative stops
  obtain ⟨first, digits, filled⟩ := List.exists_cons_of_ne_nil sound.wholeFilled
  have digit : first.isDigit = true := sound.whole first (by simp [filled])
  obtain ⟨more, starts⟩ : ∃ more, parts.text ++ rest = first :: more := by
    simp [Layout.text, filled]
  obtain ⟨plain, unsigned, signed⟩ := digit_plain digit more
  have shorter : rest.length < (first :: more).length := by
    rw [← starts]
    simp [Layout.text, filled]
    omega
  rw [starts] at read
  rw [List.append_assoc, starts]
  cases negative with
  | false => exact cutsTo_scalar plain (unsigned.trans read) shorter
  | true => exact cutsTo_scalar (by decide) (signed.trans read) (Nat.lt_succ_of_lt shorter)

end

/-- An integer is written with its sign and the digits of its magnitude. -/
theorem toList_toString (value : Int) :
    (toString value).toList = signText (decide (value < 0)) ++ Nat.toDigits 10 value.natAbs := by
  cases value with
  | ofNat number =>
    change (Nat.repr number).toList = _
    simp [Nat.repr, signText]
  | negSucc number =>
    change ("-" ++ Nat.repr (number + 1)).toList = _
    simp [Nat.repr, signText]

/-- An integer that can be written is cut off where it ends. -/
theorem cutsTo_int {value : Int} (short : isLong value = false) {rest : List Char}
    (stops : Stops rest) :
    CutsTo ((toString value).toList ++ rest) (.scalar (.int value)) rest := by
  let parts : Layout := ⟨Nat.toDigits 10 value.natAbs, [], none⟩
  have sound : parts.Sound :=
    ⟨Double.allDigits_toDigits _, Nat.toDigits_ne_nil, Double.leading_toDigits,
      by simp [parts, AllDigits], by simp [parts]⟩
  have text : parts.text = Nat.toDigits 10 value.natAbs := by
    simp [parts, Layout.text, Layout.fractionText, Layout.exponentText]
  have token : integerToken (decide (value < 0)) parts.whole = .scalar (.int value) := by
    rw [integerToken, if_neg (Nat.not_lt.mpr (length_toDigits short))]
    simp only [parts, Double.digitsValue_toDigits, Token.scalar.injEq, Json.int.injEq,
      decide_eq_true_eq]
    split <;> omega
  have cut := cutsTo_number sound (decide (value < 0)) stops
  rw [text, ← toList_toString] at cut
  rwa [← token]

/-- A double is cut off where it ends. -/
theorem cutsTo_double (value : Double) {rest : List Char} (stops : Stops rest) :
    CutsTo ((writeDouble value).toList ++ rest) (.scalar (.double value)) rest := by
  cases value with
  | nan =>
    have known : ("NaN".toList, .double .nan) ∈ valueWords := by simp [valueWords]
    exact cutsTo_word known rest
  | infinity negative =>
    cases negative with
    | false =>
      have known : ("Infinity".toList, .double (.infinity false)) ∈ valueWords := by
        simp [valueWords]
      exact cutsTo_word known rest
    | true =>
      have known : ("-Infinity".toList, .double (.infinity true)) ∈ valueWords := by
        simp [valueWords]
      exact cutsTo_word known rest
  | finite negative magnitude =>
    obtain ⟨parts, sound, point, written, value⟩ := Double.magnitudeText_parts negative magnitude
    have text : (writeDouble (.finite negative magnitude)).toList =
        signText negative ++ parts.text := by
      cases negative <;> simp [writeDouble, Double.text, signText, written]
    have read : Double.read (signText negative ++ parts.text) = .finite negative magnitude := by
      rw [← text]
      exact Double.read_text negative magnitude
    have cut := cutsTo_number sound negative stops
    rwa [if_neg (Layout.isWhole_iff.not.mpr point), read, ← text] at cut

end InfraReview.Json
