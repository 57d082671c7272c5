import InfraReview.Text.Encoding

/-!
# Texts in UTF-8

The reader of bytes gives a text exactly for the bytes that write it. Between two characters what
may follow are the bytes of further characters. Inside a character it is first what completes
that one, by the bounds that the reader remembers; and the bytes that complete a lead byte are
those that follow it in some character.
-/

namespace InfraReview.Text

/-- Bytes that complete an unfinished character to one with a code point: as many as are needed,
the first within its own bounds and the others within those of all further bytes. -/
def Completes (u : Unfinished) : List UInt8 → Nat → Prop
  | [], _ => False
  | byte :: rest, code =>
    (u.low ≤ byte.toNat ∧ byte.toNat ≤ u.high) ∧
      let bits := 0x40 * u.bits + (byte.toNat - 0x80)
      if u.needed ≤ 1 then rest = [] ∧ code = bits
      else Completes
        { u with needed := u.needed - 1, low := 0x80, high := 0xBF, bits := bits } rest code

/-- The bytes that may follow between or inside characters, and the text that they give. -/
def Follows : Option Unfinished → List UInt8 → List Char → Prop
  | none, bytes, text => bytes = text.flatMap String.utf8EncodeChar
  | some u, bytes, text =>
    ∃ tail code others, Completes u tail code ∧ text = Char.ofNat code :: others ∧
      bytes = tail ++ others.flatMap String.utf8EncodeChar

/-- The number of a byte made of a small number. -/
theorem toNat_byte (value : Nat) (small : value < 256) : (UInt8.ofNat value).toNat = value := by
  rw [UInt8.toNat_ofNat', Nat.mod_eq_of_lt small]

/-- A byte is made of its number. -/
theorem byte_eq (byte : UInt8) {value : Nat} (same : byte.toNat = value) :
    UInt8.ofNat value = byte := by
  rw [← same, UInt8.ofNat_toNat]

/-- The character with a code point that is none of the halves of pairs. -/
theorem toNat_char (code : Nat) (valid : code < 0xD800 ∨ 0xE000 ≤ code ∧ code < 0x110000) :
    (Char.ofNat code).val.toNat = code := by
  have isValid : code.isValidChar := by
    unfold Nat.isValidChar
    omega
  rw [Char.ofNat, dif_pos isValid]
  rfl

/-! ### The bytes of one character -/

section

variable {low high bits start code : Nat} {lead : UInt8} {tail : List UInt8}

/-- One byte completes a character that needs one. -/
theorem completes_one : Completes ⟨1, low, high, bits, lead, start⟩ tail code ↔
    ∃ b : UInt8, tail = [b] ∧ (low ≤ b.toNat ∧ b.toNat ≤ high) ∧
      code = 0x40 * bits + (b.toNat - 0x80) := by
  cases tail with
  | nil => simp [Completes]
  | cons b rest =>
    simp only [Completes, Nat.le_refl, if_true, List.cons.injEq]
    constructor
    · rintro ⟨within, empty, value⟩
      exact ⟨b, ⟨rfl, empty⟩, within, value⟩
    · rintro ⟨_, ⟨rfl, empty⟩, within, value⟩
      exact ⟨within, empty, value⟩

/-- Two bytes complete a character that needs two. -/
theorem completes_two : Completes ⟨2, low, high, bits, lead, start⟩ tail code ↔
    ∃ b c : UInt8, tail = [b, c] ∧ (low ≤ b.toNat ∧ b.toNat ≤ high) ∧
      (0x80 ≤ c.toNat ∧ c.toNat ≤ 0xBF) ∧
      code = 0x40 * (0x40 * bits + (b.toNat - 0x80)) + (c.toNat - 0x80) := by
  cases tail with
  | nil => simp [Completes]
  | cons b rest =>
    have more : ¬ 2 ≤ 1 := by decide
    simp only [Completes, more, if_false, List.cons.injEq]
    rw [show 2 - 1 = 1 from rfl]
    constructor
    · rintro ⟨within, next⟩
      obtain ⟨c, others, last, value⟩ := completes_one.mp next
      exact ⟨b, c, ⟨rfl, others⟩, within, last, value⟩
    · rintro ⟨_, c, ⟨rfl, others⟩, within, last, value⟩
      exact ⟨within, completes_one.mpr ⟨c, others, last, value⟩⟩

/-- Three bytes complete a character that needs three. -/
theorem completes_three : Completes ⟨3, low, high, bits, lead, start⟩ tail code ↔
    ∃ b c d : UInt8, tail = [b, c, d] ∧ (low ≤ b.toNat ∧ b.toNat ≤ high) ∧
      (0x80 ≤ c.toNat ∧ c.toNat ≤ 0xBF) ∧ (0x80 ≤ d.toNat ∧ d.toNat ≤ 0xBF) ∧
      code = 0x40 * (0x40 * (0x40 * bits + (b.toNat - 0x80)) + (c.toNat - 0x80)) +
        (d.toNat - 0x80) := by
  cases tail with
  | nil => simp [Completes]
  | cons b rest =>
    have more : ¬ 3 ≤ 1 := by decide
    simp only [Completes, more, if_false, List.cons.injEq]
    rw [show 3 - 1 = 2 from rfl]
    constructor
    · rintro ⟨within, next⟩
      obtain ⟨c, d, others, third, last, value⟩ := completes_two.mp next
      exact ⟨b, c, d, ⟨rfl, others⟩, within, third, last, value⟩
    · rintro ⟨_, c, d, ⟨rfl, others⟩, within, third, last, value⟩
      exact ⟨within, completes_two.mpr ⟨c, d, others, third, last, value⟩⟩

end

/-- The bytes of a character of two. -/
theorem encode_two {code : Nat} {a b : UInt8} (range : 0x80 ≤ code ∧ code < 0x800)
    (first : a.toNat = 0xC0 + code / 0x40) (second : b.toNat = 0x80 + code % 0x40) :
    String.utf8EncodeChar (Char.ofNat code) = [a, b] := by
  have value := toNat_char code (by omega)
  rw [String.utf8EncodeChar, value]
  rw [if_neg (by omega), if_pos (by omega), byte_eq a (by omega),
    byte_eq b (by omega)]

/-- The bytes of a character of three. -/
theorem encode_three {code : Nat} {a b c : UInt8}
    (range : 0x800 ≤ code ∧ code < 0x10000 ∧ (code < 0xD800 ∨ 0xE000 ≤ code))
    (first : a.toNat = 0xE0 + code / 0x1000) (second : b.toNat = 0x80 + code / 0x40 % 0x40)
    (third : c.toNat = 0x80 + code % 0x40) :
    String.utf8EncodeChar (Char.ofNat code) = [a, b, c] := by
  have value := toNat_char code (by omega)
  rw [String.utf8EncodeChar, value]
  rw [if_neg (by omega), if_neg (by omega), if_pos (by omega), byte_eq a (by omega),
    byte_eq b (by omega), byte_eq c (by omega)]

/-- The bytes of a character of four. -/
theorem encode_four {code : Nat} {a b c d : UInt8}
    (range : 0x10000 ≤ code ∧ code < 0x110000)
    (first : a.toNat = 0xF0 + code / 0x40000) (second : b.toNat = 0x80 + code / 0x1000 % 0x40)
    (third : c.toNat = 0x80 + code / 0x40 % 0x40) (fourth : d.toNat = 0x80 + code % 0x40) :
    String.utf8EncodeChar (Char.ofNat code) = [a, b, c, d] := by
  have value := toNat_char code (by omega)
  rw [String.utf8EncodeChar, value]
  rw [if_neg (by omega), if_neg (by omega), if_neg (by omega), byte_eq a (by omega),
    byte_eq b (by omega), byte_eq c (by omega), byte_eq d (by omega)]

/-- A lead byte and what completes it are the bytes of a character. -/
theorem encode_of_completes {byte : UInt8} {position : Nat} {u : Unfinished}
    (begun : beginUtf8? byte position = some u) {tail : List UInt8} {code : Nat}
    (completes : Completes u tail code) :
    byte :: tail = String.utf8EncodeChar (Char.ofNat code) := by
  simp only [beginUtf8?, Bool.and_eq_true, decide_eq_true_eq] at begun
  split at begun
  · cases begun
    obtain ⟨b, rfl, within, value⟩ := completes_one.mp completes
    exact (encode_two (by omega) (by omega) (by omega)).symm
  split at begun
  · cases begun
    obtain ⟨b, c, rfl, within, last, value⟩ := completes_two.mp completes
    exact (encode_three (by omega) (by omega) (by omega) (by omega)).symm
  split at begun
  · cases begun
    obtain ⟨b, c, rfl, within, last, value⟩ := completes_two.mp completes
    exact (encode_three (by omega) (by omega) (by omega) (by omega)).symm
  split at begun
  · cases begun
    obtain ⟨b, c, rfl, within, last, value⟩ := completes_two.mp completes
    exact (encode_three (by omega) (by omega) (by omega) (by omega)).symm
  split at begun
  · cases begun
    obtain ⟨b, c, d, rfl, within, third, last, value⟩ := completes_three.mp completes
    exact (encode_four (by omega) (by omega) (by omega) (by omega) (by omega)).symm
  split at begun
  · cases begun
    obtain ⟨b, c, d, rfl, within, third, last, value⟩ := completes_three.mp completes
    exact (encode_four (by omega) (by omega) (by omega) (by omega) (by omega)).symm
  split at begun
  · cases begun
    obtain ⟨b, c, d, rfl, within, third, last, value⟩ := completes_three.mp completes
    exact (encode_four (by omega) (by omega) (by omega) (by omega) (by omega)).symm
  · cases begun

/-- What a lead byte of two says. -/
theorem begin_two (lead : UInt8) (position : Nat)
    (range : 0xC2 ≤ lead.toNat ∧ lead.toNat ≤ 0xDF) :
    beginUtf8? lead position = some ⟨1, 0x80, 0xBF, lead.toNat - 0xC0, lead, position⟩ := by
  simp [beginUtf8?, range]

/-- What a lead byte of three says: the bounds of the next byte are narrower after the first of
these bytes and after the one for the halves of pairs. -/
theorem begin_three (lead : UInt8) (position : Nat)
    (range : 0xE0 ≤ lead.toNat ∧ lead.toNat ≤ 0xEF) :
    ∃ low high, beginUtf8? lead position =
        some ⟨2, low, high, lead.toNat - 0xE0, lead, position⟩ ∧
      low = (if lead.toNat = 0xE0 then 0xA0 else 0x80) ∧
      high = if lead.toNat = 0xED then 0x9F else 0xBF := by
  refine ⟨_, _, ?_, rfl, rfl⟩
  have noTwo : ¬ (0xC2 ≤ lead.toNat ∧ lead.toNat ≤ 0xDF) := by omega
  by_cases first : lead.toNat = 0xE0
  · simp [beginUtf8?, first]
  by_cases halves : lead.toNat = 0xED
  · simp [beginUtf8?, halves]
  have other : 0xE1 ≤ lead.toNat ∧ lead.toNat ≤ 0xEF := by omega
  simp [beginUtf8?, noTwo, first, halves, other]

/-- What a lead byte of four says: the bounds of the next byte are narrower after the first and
after the last of these bytes. -/
theorem begin_four (lead : UInt8) (position : Nat)
    (range : 0xF0 ≤ lead.toNat ∧ lead.toNat ≤ 0xF4) :
    ∃ low high, beginUtf8? lead position =
        some ⟨3, low, high, lead.toNat - 0xF0, lead, position⟩ ∧
      low = (if lead.toNat = 0xF0 then 0x90 else 0x80) ∧
      high = if lead.toNat = 0xF4 then 0x8F else 0xBF := by
  refine ⟨_, _, ?_, rfl, rfl⟩
  have noTwo : ¬ (0xC2 ≤ lead.toNat ∧ lead.toNat ≤ 0xDF) := by omega
  have noThree : ¬ (0xE1 ≤ lead.toNat ∧ lead.toNat ≤ 0xEF) := by omega
  have noFirst : lead.toNat ≠ 0xE0 := by omega
  have noHalves : lead.toNat ≠ 0xED := by omega
  by_cases first : lead.toNat = 0xF0
  · simp [beginUtf8?, first]
  by_cases last : lead.toNat = 0xF4
  · simp [beginUtf8?, last]
  have other : 0xF1 ≤ lead.toNat ∧ lead.toNat ≤ 0xF3 := by omega
  simp [beginUtf8?, noTwo, noThree, noFirst, noHalves, first, last, other]

/-- The bytes of a character are one byte below `0x80`, or a lead byte and what completes it. -/
theorem encode_cases (c : Char) (position : Nat) :
    (∃ byte : UInt8, byte.toNat < 0x80 ∧ String.utf8EncodeChar c = [byte] ∧
        Char.ofNat byte.toNat = c) ∨
      ∃ byte tail u, ¬ byte.toNat < 0x80 ∧ String.utf8EncodeChar c = byte :: tail ∧
        beginUtf8? byte position = some u ∧ Completes u tail c.toNat := by
  have valid := c.valid
  simp only [UInt32.isValidChar, Nat.isValidChar] at valid
  rw [String.utf8EncodeChar]
  change _ ∨ ∃ byte tail u, _ ∧ _ ∧ _ ∧ Completes u tail c.val.toNat
  have own : Char.ofNat c.val.toNat = c := Char.ofNat_toNat c
  generalize c.val.toNat = code at valid own ⊢
  by_cases one : code ≤ 0x7F
  · have first := toNat_byte code (by omega)
    rw [if_pos one]
    exact .inl ⟨_, by omega, rfl, by rw [first, own]⟩
  right
  have last := toNat_byte (code % 64 + 128) (by omega)
  rw [if_neg one]
  by_cases two : code ≤ 0x7FF
  · have lead := toNat_byte (code / 64 % 32 + 192) (by omega)
    have begun := begin_two (.ofNat (code / 64 % 32 + 192)) position (by omega)
    rw [if_pos two]
    refine ⟨_, _, _, by omega, rfl, begun, ?_⟩
    rw [completes_one]
    exact ⟨_, rfl, by omega, by omega⟩
  have third := toNat_byte (code / 64 % 64 + 128) (by omega)
  rw [if_neg two]
  by_cases three : code ≤ 0xFFFF
  · have lead := toNat_byte (code / 4096 % 16 + 224) (by omega)
    obtain ⟨low, high, begun, least, greatest⟩ :=
      begin_three (.ofNat (code / 4096 % 16 + 224)) position (by omega)
    rw [if_pos three]
    refine ⟨_, _, _, by omega, rfl, begun, ?_⟩
    rw [completes_two]
    refine ⟨_, _, rfl, ?_, by omega, by omega⟩
    rw [least, greatest]
    split <;> split <;> omega
  · have second := toNat_byte (code / 4096 % 64 + 128) (by omega)
    have lead := toNat_byte (code / 262144 % 8 + 240) (by omega)
    obtain ⟨low, high, begun, least, greatest⟩ :=
      begin_four (.ofNat (code / 262144 % 8 + 240)) position (by omega)
    rw [if_neg three]
    refine ⟨_, _, _, by omega, rfl, begun, ?_⟩
    rw [completes_three]
    refine ⟨_, _, _, rfl, ?_, by omega, by omega, by omega⟩
    rw [least, greatest]
    split <;> split <;> omega

/-! ### The bytes of a text -/

/-- A first byte below `0x80` is a character of its own. -/
theorem follows_plain {byte : UInt8} (plain : byte.toNat < 0x80) (rest : List UInt8)
    (text : List Char) :
    Follows none (byte :: rest) text ↔
      ∃ others, text = Char.ofNat byte.toNat :: others ∧ Follows none rest others := by
  constructor
  · intro written
    cases text with
    | nil => cases written
    | cons c others =>
      rw [Follows, List.flatMap_cons] at written
      rcases encode_cases c 0 with ⟨first, _, encoded, own⟩ | ⟨lead, tail, _, high, encoded, _⟩
      · rw [encoded] at written
        obtain ⟨rfl, rest⟩ := List.cons.inj written
        exact ⟨others, by rw [own], rest⟩
      · rw [encoded] at written
        obtain ⟨rfl, _⟩ := List.cons.inj written
        exact absurd plain high
  · rintro ⟨others, rfl, written⟩
    have own : (Char.ofNat byte.toNat).val.toNat = byte.toNat := toNat_char _ (by omega)
    have encoded : String.utf8EncodeChar (Char.ofNat byte.toNat) = [byte] := by
      rw [String.utf8EncodeChar, own, if_pos (by omega), UInt8.ofNat_toNat]
    rw [Follows, List.flatMap_cons, encoded, written]
    rfl

/-- After another first byte comes what completes the character that it begins. -/
theorem follows_lead {byte : UInt8} (high : ¬ byte.toNat < 0x80) (position : Nat)
    (rest : List UInt8) (text : List Char) :
    Follows none (byte :: rest) text ↔
      ∃ u, beginUtf8? byte position = some u ∧ Follows (some u) rest text := by
  constructor
  · intro written
    cases text with
    | nil => cases written
    | cons c others =>
      rw [Follows, List.flatMap_cons] at written
      rcases encode_cases c position with
        ⟨first, plain, encoded, _⟩ | ⟨lead, tail, u, _, encoded, begun, completes⟩
      · rw [encoded] at written
        obtain ⟨rfl, _⟩ := List.cons.inj written
        exact absurd plain high
      · rw [encoded] at written
        obtain ⟨rfl, rest⟩ := List.cons.inj written
        exact ⟨u, begun, tail, _, others, completes, by rw [Char.ofNat_toNat], rest⟩
  · rintro ⟨u, begun, tail, code, others, completes, rfl, rfl⟩
    rw [Follows, List.flatMap_cons, ← encode_of_completes begun completes]
    rfl

/-- Inside a character comes a byte within the bounds, and then what follows the last byte of the
character or completes it further. -/
theorem follows_inside (u : Unfinished) (byte : UInt8) (rest : List UInt8) (text : List Char) :
    Follows (some u) (byte :: rest) text ↔
      (u.low ≤ byte.toNat ∧ byte.toNat ≤ u.high) ∧
        let bits := 0x40 * u.bits + (byte.toNat - 0x80)
        if u.needed ≤ 1 then ∃ others, text = Char.ofNat bits :: others ∧ Follows none rest others
        else Follows (some { u with
          needed := u.needed - 1, low := 0x80, high := 0xBF, bits := bits }) rest text := by
  constructor
  · rintro ⟨tail, code, others, completes, value, written⟩
    cases tail with
    | nil => cases completes
    | cons first more =>
      obtain ⟨rfl, rest⟩ := List.cons.inj written
      obtain ⟨within, completes⟩ := completes
      refine ⟨within, ?_⟩
      dsimp only at completes ⊢
      split
      · rename_i last
        rw [if_pos last] at completes
        obtain ⟨empty, same⟩ := completes
        rw [empty] at rest
        exact ⟨others, same ▸ value, rest⟩
      · rename_i further
        rw [if_neg further] at completes
        exact ⟨more, code, others, completes, value, rest⟩
  · rintro ⟨within, continued⟩
    dsimp only at continued
    split at continued
    · rename_i last
      obtain ⟨others, value, written⟩ := continued
      refine ⟨[byte], _, others, ⟨within, ?_⟩, value, congrArg (byte :: ·) written⟩
      dsimp only
      rw [if_pos last]
      exact ⟨rfl, rfl⟩
    · rename_i further
      obtain ⟨tail, code, others, completes, value, written⟩ := continued
      refine ⟨byte :: tail, code, others, ⟨within, ?_⟩, value, congrArg (byte :: ·) written⟩
      dsimp only
      rw [if_neg further]
      exact completes

/-- A result under the function that puts a character before a text. -/
theorem map_cons_ok {ε : Type} {result : Except ε (List Char)} {c : Char} {text : List Char} :
    result.map (c :: ·) = .ok text ↔ ∃ others, text = c :: others ∧ result = .ok others := by
  cases result with
  | error fault => simp [Except.map]
  | ok found =>
    simp only [Except.map, Except.ok.injEq]
    constructor
    · rintro rfl
      exact ⟨found, rfl, rfl⟩
    · rintro ⟨others, rfl, rfl⟩
      rfl

/-- From any state, reading gives a text exactly for the bytes that may follow and give it. Proof:
by induction on the bytes, one of them at a time. -/
theorem decodeUtf8From_ok_iff (position : Nat) (state : Option Unfinished) (bytes : List UInt8)
    (text : List Char) :
    decodeUtf8From position state bytes = .ok text ↔ Follows state bytes text := by
  induction bytes generalizing position state text with
  | nil =>
    cases state with
    | none =>
      rw [decodeUtf8From, Follows]
      cases text with
      | nil => simp
      | cons c others =>
        rcases encode_cases c 0 with ⟨_, _, encoded, _⟩ | ⟨_, _, _, _, encoded, _⟩ <;>
          simp [encoded]
    | some u =>
      rw [decodeUtf8From]
      refine iff_of_false (by simp) ?_
      rintro ⟨tail, code, others, completes, _, written⟩
      cases tail with
      | nil => cases completes
      | cons first more => cases written
  | cons byte rest inductionHypothesis =>
    cases state with
    | none =>
      rw [decodeUtf8From]
      split
      · rename_i plain
        simp only [map_cons_ok, follows_plain plain, inductionHypothesis]
      · rename_i high
        rw [follows_lead high position]
        cases begun : beginUtf8? byte position with
        | none => simp
        | some u => simp [inductionHypothesis]
    | some u =>
      rw [decodeUtf8From, follows_inside]
      split
      · rename_i within
        have bounds : u.low ≤ byte.toNat ∧ byte.toNat ≤ u.high := by simpa using within
        rw [and_iff_right bounds]
        dsimp only
        split
        · simp only [map_cons_ok, inductionHypothesis]
        · exact inductionHypothesis _ _ _
      · rename_i outside
        refine iff_of_false (by simp) ?_
        rintro ⟨within, _⟩
        exact outside (by simpa using within)

/-- Bytes are read as a text exactly when they are the bytes of it. -/
theorem decodeUtf8_ok_iff (bytes : List UInt8) (text : List Char) :
    decodeUtf8 bytes = .ok text ↔ bytes = encodeUtf8 (String.ofList text) := by
  have written : encodeUtf8 (String.ofList text) = text.flatMap String.utf8EncodeChar := by
    rw [encodeUtf8, String.toUTF8, String.toByteArray_ofList, List.utf8Encode]
    simp
  rw [written]
  exact decodeUtf8From_ok_iff 0 none bytes text

/-- The bytes of a text are read as that text. -/
theorem decodeUtf8_encodeUtf8 (text : String) : decodeUtf8 (encodeUtf8 text) = .ok text.toList := by
  rw [decodeUtf8_ok_iff, String.ofList_toList]

/-- Bytes that are not read are those of no text. -/
theorem unwritten_of_error {bytes : List UInt8} {fault : DecodeFault}
    (failed : decodeUtf8 bytes = .error fault) (text : String) : bytes ≠ encodeUtf8 text := by
  rintro rfl
  rw [decodeUtf8_encodeUtf8] at failed
  cases failed

end InfraReview.Text
