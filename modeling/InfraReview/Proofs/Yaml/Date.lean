import InfraReview.Proofs.Calendar.Writing
import Mathlib.Data.List.TakeWhile
import InfraReview.Yaml.Composition
import InfraReview.Yaml.Construction

/-!
# Dates in YAML

A date in writing is plain text with the form of a timestamp and of nothing else: it has a dash
after its first digit, and no number, no truth value and no word for null has one. So it stands
for the date when it is plain, and for its own characters when it is quoted.
-/

namespace InfraReview

open Double (AllDigits)

namespace Yaml

namespace Timestamp

/-- The number of digits is their value. -/
theorem number_digits {text : List Char} (digits : AllDigits text) :
    number text = Double.digitsValue text := by
  rw [Double.digitsValue_eq digits, Nat.ofDigitChars_eq_foldl]
  rfl

/-- A number that fills its places is read, whatever follows it. -/
theorem digits?_filled {places value : Nat} {text : List Char}
    (filled : FillsPlaces places value text) (rest : List Char) :
    digits? places (text ++ rest) = some (value, rest) := by
  obtain ⟨digits, rfl, rfl⟩ := filled
  have found : text.takeWhile Char.isDigit = text := List.takeWhile_eq_self_iff.mpr digits
  simp only [digits?, List.take_left, List.drop_left, found, if_pos, number_digits digits]

/-- A year, a month and a day that fill their places are read as a timestamp without a clock. -/
theorem read?_filled {year month day : Nat} {yearText monthText dayText : List Char}
    (yearFilled : FillsPlaces 4 year yearText) (monthFilled : FillsPlaces 2 month monthText)
    (dayFilled : FillsPlaces 2 day dayText) :
    read? (yearText ++ '-' :: (monthText ++ '-' :: dayText)) =
      some ⟨year, month, day, true, none⟩ := by
  have lastDay : digits? 2 dayText = some (day, []) := by
    simpa using digits?_filled dayFilled []
  simp [read?, shortNumber?, after?, digits?_filled yearFilled, digits?_filled monthFilled, lastDay]

end Timestamp

/-- Digits with dashes among them, but not before the first one. -/
structure IsDashed (text : List Char) : Prop where
  characters : ∀ c ∈ text, c.isDigit = true ∨ c = '-'
  first : ∃ c rest, text = c :: rest ∧ c.isDigit = true ∧ '-' ∈ rest

namespace IsDashed

variable {text : List Char} (dashed : IsDashed text)

include dashed

/-- A character that is neither a digit nor a dash is not there. -/
theorem not_mem {c : Char} (noDigit : c.isDigit = false) (noDash : c ≠ '-') : c ∉ text := by
  intro member
  rcases dashed.characters c member with digit | dash
  · rw [noDigit] at digit
    cases digit
  · exact noDash dash

/-- There is a dash. -/
theorem dash_mem : '-' ∈ text := by
  obtain ⟨c, rest, rfl, _, dash⟩ := dashed.first
  exact List.mem_cons_of_mem c dash

/-- It is none of the words that hold no dash. -/
theorem no_word (words : List String) (free : ∀ word ∈ words, '-' ∉ word.toList) :
    words.any (·.toList == text) = false := by
  rw [List.any_eq_false]
  intro word member same
  rw [beq_iff_eq] at same
  exact free word member (same ▸ dashed.dash_mem)

/-- It has no sign at its start. -/
theorem dropSign_eq : dropSign text = text := by
  obtain ⟨c, rest, rfl, digit, _⟩ := dashed.first
  unfold dropSign
  split <;> simp_all

/-- It is no number with a point. -/
theorem not_isFloat : isFloat text = false := by
  have noPoint : text.dropWhile (· != '.') = [] := by
    rw [List.dropWhile_eq_nil_iff]
    intro d member
    have other : d ≠ '.' := by
      rintro rfl
      exact dashed.not_mem (by decide) (by decide) member
    simpa using other
  simp only [isFloat, dashed.dropSign_eq, noPoint]

/-- It is no number without a point: the dash after the first digit is neither a digit that is
grouped nor a colon between places. -/
theorem not_isInteger : isInteger text = false := by
  have unsigned := dashed.dropSign_eq
  obtain ⟨c, rest, rfl, digit, dash⟩ := dashed.first
  have ungrouped (isDigit : Char → Bool) (noDigit : isDigit '-' = false) {more : List Char}
      (member : '-' ∈ more) : isGrouped isDigit more = false := by
    rw [isGrouped, List.all_eq_false]
    exact ⟨'-', member, by simp [noDigit]⟩
  have place : Text.splitChars ':' (c :: rest) = [c :: rest] :=
    Text.splitChars_of_not_mem (dashed.not_mem (by decide) (by decide))
  unfold isInteger
  rw [unsigned]
  split
  · rename_i same
    cases same
    cases dash
  · rename_i same
    cases same
    exact absurd (by simp) (dashed.not_mem (c := 'b') (by decide) (by decide))
  · rename_i same
    cases same
    exact absurd (by simp) (dashed.not_mem (c := 'x') (by decide) (by decide))
  · rename_i same
    cases same
    exact ungrouped _ (by decide) dash
  · simp [isPositiveNumber, isWholeNumber, ungrouped Char.isDigit (by decide) dash,
      isSexagesimal, place]

end IsDashed

/-- A date in writing is its three parts with dashes between them. -/
theorem date_parts (date : Date) :
    date.text.toList = (paddedNumber 4 date.year).toList ++
      '-' :: ((paddedNumber 2 date.month).toList ++ '-' :: (paddedNumber 2 date.day).toList) := by
  simp [Date.text]

/-- A date in writing has its digits, and a dash after the year. -/
theorem date_dashed (date : Date) : IsDashed date.text.toList := by
  obtain ⟨year, month, day⟩ := date.parts_fill
  rw [date_parts]
  constructor
  · intro c member
    simp only [List.mem_append, List.mem_cons] at member
    rcases member with inYear | dash | inMonth | dash | inDay
    · exact .inl (year.digits c inYear)
    · exact .inr dash
    · exact .inl (month.digits c inMonth)
    · exact .inr dash
    · exact .inl (day.digits c inDay)
  · obtain ⟨c, rest, digits⟩ := List.exists_cons_of_length_eq_add_one year.length
    have digit : c.isDigit = true := year.digits c (by rw [digits]; exact List.mem_cons_self)
    rw [digits, List.cons_append]
    exact ⟨c, _, rfl, digit, by simp⟩

/-- No line end stands behind a date in writing. -/
theorem dropFinalBreak_date (date : Date) :
    dropFinalBreak date.text.toList = date.text.toList := by
  have free : date.text.toList.getLast? ≠ some '\n' := by
    intro last
    exact (date_dashed date).not_mem (by decide) (by decide) (List.mem_of_getLast? last)
  rw [dropFinalBreak, if_neg]
  simp [free]

/-- A date in writing is read as a timestamp. -/
theorem read?_date (date : Date) :
    Timestamp.read? date.text.toList = some ⟨date.year, date.month, date.day, true, none⟩ := by
  obtain ⟨year, month, day⟩ := date.parts_fill
  rw [date_parts, Timestamp.read?_filled year month day]

/-- Plain text that is a date has the tag of a timestamp. -/
theorem ofPlain_date (date : Date) : Tag.ofPlain date.text = .timestamp := by
  have dashed := date_dashed date
  have noTruth := dashed.no_word truthWords (by decide)
  have noNull := dashed.no_word nullWords (by decide)
  have noMerge : (date.text.toList == ['<', '<']) = false := by
    rw [beq_eq_false_iff_ne]
    intro same
    exact dashed.not_mem (c := '<') (by decide) (by decide) (by simp [same])
  have timestamp : isTimestamp date.text.toList = true := by
    rw [isTimestamp, read?_date]
    rfl
  simp [Tag.ofPlain, dropFinalBreak_date, noTruth, dashed.not_isFloat, dashed.not_isInteger,
    noMerge, noNull, timestamp]

/-- What a text with the tag of a timestamp stands for. -/
theorem datumOfText_timestamp (origin : Nat) (text : String) :
    datumOfText origin .timestamp text =
      match Timestamp.read? (dropFinalBreak text.toList) with
      | some timestamp => datumOfTimestamp timestamp
      | none => .error .notATimestamp := rfl

/-- The data of a text follows from its tag. -/
theorem textDatum_text {graph : Graph} {id : NodeId} {tag : Tag} {text : String}
    (node : graph.node id = ⟨tag, .text text⟩) :
    graph.textDatum id = datumOfText id tag text := by
  have own : graph.textOf? (graph.size + 1) id = some text := by
    simp [Graph.textOf?, node]
  unfold Graph.textDatum
  rw [own, node]
  cases tag <;> rfl

/-- What a date in writing stands for: the date itself when it is plain, else its characters. -/
def writtenDate (plain : Bool) (date : Date) : Datum :=
  if plain then .date date else .text date.text

/-- The node of a date in writing, plain or quoted and without a tag, has the data of it. -/
theorem textDatum_date {graph : Graph} {id : NodeId} {plain : Bool} {date : Date}
    (node : graph.node id = ⟨Composer.textTag none plain date.text, .text date.text⟩) :
    graph.textDatum id = .ok (writtenDate plain date) := by
  rw [textDatum_text node]
  cases plain with
  | true =>
    rw [Composer.textTag, if_pos rfl, ofPlain_date, datumOfText_timestamp, dropFinalBreak_date,
      read?_date]
    simp only [datumOfTimestamp, date.ofNumbers_self]
    rfl
  | false => rfl

end Yaml

end InfraReview
