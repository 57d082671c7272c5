import InfraReview.Proofs.Hcl.QuotedText
import InfraReview.Proofs.Success

/-!
# Escapes without a character

Of the escapes of a text only the long one can write a number that is no code point. Decoding
fails at such an escape and at nothing else. Whether a backslash starts an escape depends on
what stands before it: one that belongs to the backslash before it starts none.

An escape of either length can write half of a surrogate pair. That is a code point, and
decoding goes on, but no character stands for it.
-/

namespace InfraReview.Hcl

/-- A text in which a long escape writes a number beyond the code points. A backslash takes the
character behind it along, which therefore starts no escape. -/
inductive WildEscape : List Char → Prop where
  | here {digits rest : List Char} {code : Nat} (long : digits.length = 8)
      (number : Text.hexNumber? digits = some code) (wild : 0x110000 ≤ code) :
      WildEscape ('\\' :: 'U' :: (digits ++ rest))
  | behindEscape {c : Char} {rest : List Char} (later : WildEscape rest) :
      WildEscape ('\\' :: c :: rest)
  | behind {c : Char} {rest : List Char} (plain : c ≠ '\\') (later : WildEscape rest) :
      WildEscape (c :: rest)

/-- A text in which an escape writes half of a surrogate pair. -/
inductive HalfEscape : List Char → Prop where
  | short {digits rest : List Char} {code : Nat} (four : digits.length = 4)
      (number : Text.hexNumber? digits = some code) (half : Text.isHalf code = true) :
      HalfEscape ('\\' :: 'u' :: (digits ++ rest))
  | long {digits rest : List Char} {code : Nat} (eight : digits.length = 8)
      (number : Text.hexNumber? digits = some code) (half : Text.isHalf code = true) :
      HalfEscape ('\\' :: 'U' :: (digits ++ rest))
  | behindEscape {c : Char} {rest : List Char} (later : HalfEscape rest) :
      HalfEscape ('\\' :: c :: rest)
  | behind {c : Char} {rest : List Char} (plain : c ≠ '\\') (later : HalfEscape rest) :
      HalfEscape (c :: rest)

/-- The empty text has no wild escape. -/
theorem not_wildEscape_nil : ¬ WildEscape [] := by
  rintro ⟨⟩

/-- A character that is no backslash takes no part in a wild escape at the start. -/
theorem wildEscape_cons {c : Char} (plain : c ≠ '\\') (rest : List Char) :
    WildEscape (c :: rest) ↔ WildEscape rest := by
  constructor
  · intro wild
    cases wild with
    | here => exact absurd rfl plain
    | behindEscape => exact absurd rfl plain
    | behind _ later => exact later
  · exact .behind plain

/-- Characters that are no backslashes take no part in a wild escape behind them. -/
theorem wildEscape_append {plain : List Char} (none : '\\' ∉ plain) (rest : List Char) :
    WildEscape (plain ++ rest) ↔ WildEscape rest := by
  induction plain with
  | nil => rfl
  | cons c plain inductionHypothesis =>
    simp only [List.mem_cons, not_or] at none
    rw [List.cons_append, wildEscape_cons (Ne.symm none.1), inductionHypothesis none.2]

/-- A backslash takes a character behind it along that starts no long escape. -/
theorem wildEscape_backslash {c : Char} {rest : List Char}
    (short : ∀ digits after, digits.length = 8 → c = 'U' → rest ≠ digits ++ after) :
    WildEscape ('\\' :: c :: rest) ↔ WildEscape rest := by
  constructor
  · intro wild
    cases wild with
    | here long _ _ => exact absurd rfl (short _ _ long rfl)
    | behindEscape later => exact later
    | behind plain _ => exact absurd rfl plain
  · exact .behindEscape

/-- A long escape is passed over unless it is a wild one. -/
theorem wildEscape_long (digits rest : List Char) (long : digits.length = 8)
    (tame : ∀ code, Text.hexNumber? digits = some code → code < 0x110000) :
    WildEscape ('\\' :: 'U' :: (digits ++ rest)) ↔ WildEscape (digits ++ rest) := by
  constructor
  · intro wild
    generalize same : digits ++ rest = after at wild
    cases wild with
    | here otherLong number wild =>
      obtain ⟨rfl, rfl⟩ := List.append_inj same (long.trans otherLong.symm)
      exact absurd (tame _ number) (by omega)
    | behindEscape later => exact later
    | behind plain _ => exact absurd rfl plain
  · exact .behindEscape

/-- A hexadecimal digit is below sixteen. -/
theorem hexValue_lt {c : Char} {value : Nat} (digit : Text.hexValue? c = some value) :
    value < 16 := by
  unfold Text.hexValue? at digit
  split at digit
  · rename_i decimal
    have between : '0' ≤ c ∧ c ≤ '9' := by simpa using decimal
    have below : c.toNat ≤ 0x39 := between.2
    cases digit
    omega
  · split at digit
    · rename_i lower
      have between : 'a' ≤ c ∧ c ≤ 'f' := by simpa using lower
      have below : c.toNat ≤ 0x66 := between.2
      cases digit
      omega
    · split at digit
      · rename_i upper
        have between : 'A' ≤ c ∧ c ≤ 'F' := by simpa using upper
        have below : c.toNat ≤ 0x46 := between.2
        cases digit
        omega
      · cases digit

/-- A backslash is no hexadecimal digit. -/
theorem hexValue_backslash : Text.hexValue? '\\' = none := by decide

/-- A number that is read on from what was read before. -/
def readHexOn (value : Option Nat) (digits : List Char) : Option Nat :=
  digits.foldl (fun value c => value.bind fun high => (Text.hexValue? c).map (16 * high + ·)) value

/-- After a character that is no digit no number is read. -/
theorem readHexOn_none (digits : List Char) : readHexOn none digits = none := by
  induction digits with
  | nil => rfl
  | cons c digits inductionHypothesis => exact inductionHypothesis

/-- What is written by hexadecimal digits is bounded by their number, and no backslash is among
them. -/
theorem readHexOn_some {digits : List Char} (value : Nat) {code : Nat}
    (number : readHexOn (some value) digits = some code) :
    code < (value + 1) * Nat.pow 16 digits.length ∧ '\\' ∉ digits := by
  induction digits generalizing value with
  | nil =>
    obtain rfl : value = code := by simpa [readHexOn] using number
    simp
  | cons c digits inductionHypothesis =>
    have step : readHexOn (some value) (c :: digits) =
        readHexOn ((Text.hexValue? c).map (16 * value + ·)) digits := rfl
    rw [step] at number
    cases digit : Text.hexValue? c with
    | none =>
      rw [digit, Option.map_none, readHexOn_none] at number
      cases number
    | some low =>
      rw [digit, Option.map_some] at number
      obtain ⟨bound, plain⟩ := inductionHypothesis (16 * value + low) number
      have small := hexValue_lt digit
      constructor
      · calc code < (16 * value + low + 1) * Nat.pow 16 digits.length := bound
          _ ≤ ((value + 1) * 16) * Nat.pow 16 digits.length := Nat.mul_le_mul_right _ (by omega)
          _ = (value + 1) * (Nat.pow 16 digits.length * 16) := by ac_rfl
      · rw [List.mem_cons, not_or]
        refine ⟨?_, plain⟩
        rintro rfl
        rw [hexValue_backslash] at digit
        cases digit

/-- A number that digits write is bounded by how many they are. -/
theorem hexNumber_lt {digits : List Char} {code : Nat}
    (number : Text.hexNumber? digits = some code) : code < Nat.pow 16 digits.length := by
  simpa using (readHexOn_some 0 number).1

/-- No backslash is among the digits of a number. -/
theorem hexNumber_plain {digits : List Char} {code : Nat}
    (number : Text.hexNumber? digits = some code) : '\\' ∉ digits :=
  (readHexOn_some 0 number).2

/-- A number has a character exactly when it is a code point. -/
theorem charOfCode_fails_iff (code : Nat) : Fails (charOfCode code) ↔ 0x110000 ≤ code := by
  unfold charOfCode
  split
  · simp only [fails_error, true_iff]
    omega
  · split
    · rename_i wild
      simp [wild]
    · rename_i tame
      simp [tame]

/-- Decoding an escape by its number and going on behind it fails at the number or behind it. -/
theorem escapeNumber_fails_iff (code : Nat) (rest : List Char) :
    Fails (do
      let decoded ← charOfCode code
      let others ← unescape rest
      .ok (decoded :: others)) ↔ 0x110000 ≤ code ∨ Fails (unescape rest) := by
  rw [fails_bind, charOfCode_fails_iff]
  by_cases wild : 0x110000 ≤ code
  · simp [wild]
  · obtain ⟨decoded, found⟩ := ok_of_not_fails (mt (charOfCode_fails_iff code).mp wild)
    simp only [wild, false_or, found, Except.ok.injEq, exists_eq_left']
    exact fails_bind_sound _ fun others => not_fails_ok _

/-- When a mark is never followed by eight characters and a rest, what stands behind it does not
start with a list of eight. -/
theorem ne_append_of_eight {mark : Prop} {rest : List Char}
    (none : ∀ (a b c d e f g h : Char) (after : List Char), mark →
      rest = a :: b :: c :: d :: e :: f :: g :: h :: after → False) :
    ∀ digits after, digits.length = 8 → mark → rest ≠ digits ++ after := by
  intro digits after long marks same
  match digits, long with
  | [a, b, c, d, e, f, g, h], _ => exact none a b c d e f g h after marks same

/-- Decoding the escapes of a text fails exactly when it has a wild one. Proof: by the recursion
of decoding; what an escape takes along beyond its first two characters are digits, which start
nothing. -/
theorem unescape_fails_iff (text : List Char) : Fails (unescape text) ↔ WildEscape text := by
  induction text using unescape.induct with
  | case1 => exact iff_of_false (not_fails_ok _) not_wildEscape_nil
  | case2 a b c d rest code number inductionHypothesis =>
    have small : code < Nat.pow 16 4 := hexNumber_lt number
    have tame : ¬ 0x110000 ≤ code := by
      have bound : Nat.pow 16 4 < 0x110000 := by decide
      omega
    rw [unescape, number]
    simp only
    rw [escapeNumber_fails_iff, inductionHypothesis, wildEscape_backslash (by rintro _ _ _ ⟨⟩),
      ← wildEscape_append (hexNumber_plain number) rest]
    simp [tame]
  | case3 a b c d rest noNumber inductionHypothesis =>
    rw [unescape, noNumber]
    simp only
    rw [fails_map, inductionHypothesis, wildEscape_backslash (by rintro _ _ _ ⟨⟩),
      wildEscape_cons (by decide)]
  | case4 a b c d e f g h rest code number inductionHypothesis =>
    rw [unescape, number]
    simp only
    rw [escapeNumber_fails_iff, inductionHypothesis]
    by_cases wild : 0x110000 ≤ code
    · simp only [wild, true_or, true_iff]
      exact .here rfl number wild
    · have tame : ∀ other, Text.hexNumber? [a, b, c, d, e, f, g, h] = some other →
          other < 0x110000 := by
        intro other found
        rw [number] at found
        cases found
        omega
      have passed := wildEscape_long [a, b, c, d, e, f, g, h] rest rfl tame
      rw [wildEscape_append (hexNumber_plain number)] at passed
      simpa [wild] using passed.symm
  | case5 a b c d e f g h rest noNumber inductionHypothesis =>
    have passed := wildEscape_long [a, b, c, d, e, f, g, h] rest rfl (by simp [noNumber])
    rw [unescape, noNumber]
    simp only
    rw [fails_map, inductionHypothesis, wildEscape_cons (by decide)]
    exact passed.symm
  | case6 c rest noShort noLong meant found inductionHypothesis =>
    rw [unescape, found]
    · simp only
      rw [fails_map, inductionHypothesis, wildEscape_backslash (ne_append_of_eight noLong)]
    · exact noShort
    · exact noLong
  | case7 c rest noShort noLong found inductionHypothesis =>
    have plain : c ≠ '\\' := by
      rintro rfl
      cases found
    rw [unescape, found]
    · simp only
      rw [fails_map, inductionHypothesis, wildEscape_backslash (ne_append_of_eight noLong),
        wildEscape_cons plain]
    · exact noShort
    · exact noLong
  | case8 c rest noShort noLong alone inductionHypothesis =>
    rw [unescape]
    · rw [fails_map, inductionHypothesis]
      by_cases backslash : c = '\\'
      · cases rest with
        | nil =>
          subst backslash
          simp only [not_wildEscape_nil, false_iff]
          rintro (_ | _ | ⟨plain, _⟩)
          exact plain rfl
        | cons next rest => exact (alone next rest backslash rfl).elim
      · rw [wildEscape_cons backslash]
    · exact noShort
    · exact noLong
    · exact alone

end InfraReview.Hcl
