import Mathlib.Data.List.Forall2
import InfraReview.Config.File
import InfraReview.Proofs.Config.Validation
import InfraReview.Proofs.Suppression.Division
import InfraReview.Proofs.Yaml.Date

/-!
# The dates of suppressions

The date of an entry may stand in the suppression file plain or between quotes. Quoted it keeps
its characters. Plain it is a date by then, which is written anew, with as many digits for the
year as it needs, and what is written is read again when the entry is judged. From the year 1000
on the two ways come to the same. A plain date before that year is lost on its way: its entry has
no moment at which it expires.
-/

namespace InfraReview

namespace Suppression

/-- An entry that expires when a date begins: after midnight, and not at midnight itself. -/
structure ExpiresOn (entry : Suppression) (date : Date) : Prop where
  moment : entry.expiry? = some (Moment.midnight date)
  expired : ∀ now : Moment,
    entry.isExpired now = true ↔ (Moment.midnight date).numbers < now.numbers

/-- An entry that expires at no moment. -/
structure NeverExpires (entry : Suppression) : Prop where
  moment : entry.expiry? = none
  expired : ∀ now : Moment, entry.isExpired now = false

/-- An entry of which a date is read expires on it. -/
theorem expiresOn_of_read {entry : Suppression} {date : Date}
    (read : Date.read entry.expires = some date) : entry.ExpiresOn date := by
  refine ⟨by rw [expiry?, read]; rfl, ?_⟩
  intro now
  rw [isExpired_iff]
  constructor
  · rintro ⟨other, readOther, passed⟩
    obtain rfl : date = other := Option.some.inj (read.symm.trans readOther)
    exact passed
  · intro passed
    exact ⟨date, read, passed⟩

/-- An entry of which no date is read never expires. -/
theorem neverExpires_of_read {entry : Suppression} (unread : Date.read entry.expires = none) :
    entry.NeverExpires := by
  have moment : entry.expiry? = none := by
    rw [expiry?, unread]
    rfl
  refine ⟨moment, ?_⟩
  intro now
  rw [isExpired, moment]

end Suppression

namespace ReviewConfig

open Yaml

variable {store : Store}

/-- An item with fields that are filled. A date in writing is. -/
structure Complete (store : Store) (item : Datum) (fields : List (Datum × Datum)) : Prop where
  mapping : store.entries? item = some fields
  filled : ∀ name ∈ ["rule_id", "resource", "reason"],
    ¬ IsOpen store fields name ∧ ¬ IsUnwritable store fields name
  expires : (¬ IsOpen store fields "expires" ∧ ¬ IsUnwritable store fields "expires") ∨
    ∃ plain date, Datum.member fields "expires" = writtenDate plain date

/-- The text of a field that is a text is what is left of it. -/
theorem fieldText_text (content : String) :
    store.fieldText (.text content) = .ok (Text.trim content) := rfl

/-- What is left of a date in writing: a plain one has as many digits as its year needs. -/
def leftOf (plain : Bool) (date : Date) : String :=
  if plain then date.shortText else date.text

/-- The text of a field is what is left of a date in writing. -/
theorem fieldText_date (plain : Bool) (date : Date) :
    store.fieldText (writtenDate plain date) = .ok (leftOf plain date) := by
  cases plain with
  | true => rfl
  | false =>
    have dense : ∀ c ∈ date.text.toList, Text.isBlank c = false := by
      intro c member
      rcases (date_dashed date).characters c member with digit | rfl
      · exact Text.isBlank_digit digit
      · rfl
    exact congrArg Except.ok (Text.trim_of_dense dense)

/-- A date in writing is read from what is left of it, except for a plain one before the year
1000. -/
theorem read_leftOf (plain : Bool) (date : Date) :
    Date.read (leftOf plain date) =
      if plain = true ∧ date.year < 1000 then none else some date := by
  rw [leftOf]
  cases plain with
  | true =>
    rw [if_pos rfl, date.read_shortText]
    by_cases early : date.year < 1000 <;> simp [early]
  | false => simpa using date.read_text

/-- Something is left of a date in writing. -/
theorem leftOf_filled (plain : Bool) (date : Date) : leftOf plain date ≠ "" := by
  rw [leftOf]
  cases plain with
  | true => simp [Date.shortText]
  | false => simp [Date.text]

/-- Every field of a complete item is filled. -/
theorem Complete.closed {item : Datum} {fields : List (Datum × Datum)}
    (complete : Complete store item fields) :
    ∀ name ∈ fieldNames, ¬ IsOpen store fields name ∧ ¬ IsUnwritable store fields name := by
  have expires : ¬ IsOpen store fields "expires" ∧ ¬ IsUnwritable store fields "expires" := by
    rcases complete.expires with filled | ⟨plain, date, same⟩
    · exact filled
    · refine (exists_fills_iff fields "expires").mp ⟨leftOf plain date, ?_⟩
      rw [fills_iff, same]
      exact ⟨leftOf_filled plain date, fieldText_date plain date⟩
  intro name member
  have split : fieldNames = ["rule_id", "resource", "reason"] ++ ["expires"] := rfl
  rw [split, List.mem_append, List.mem_singleton] at member
  rcases member with other | rfl
  · exact complete.filled name other
  · exact expires

/-- A list of complete items gives a list of entries, also when it is empty. -/
theorem lists_of_complete {listed : Datum} {items : List Datum}
    (list : store.items? listed = some items)
    (complete : ∀ item ∈ items, ∃ fields, Complete store item fields) :
    ∃ found, Lists store listed found ∧ List.Forall₂ (Supplies store) items found := by
  have supplied : ∀ item ∈ items, ∃ entry, Supplies store item entry := by
    intro item member
    obtain ⟨fields, own⟩ := complete item member
    exact (exists_supplies_iff item).mpr ⟨fields, own.mapping, own.closed⟩
  obtain ⟨found, each⟩ := exists_forall₂_iff.mpr supplied
  exact ⟨found, .items list each, each⟩

/-- Dates in the suppression file. Written as the text of a node, a date stands for itself when it
is plain and for its characters when it is quoted. A file whose items are complete and whose version
has a text gives a configuration, with one entry for each item, which has the texts of its fields.
An entry whose item has a date expires on that date, however it is written, unless it is plain and
before the year 1000: then its entry never expires. -/
theorem written_dates_judged {data : Data} {members : List (Datum × Datum)} {items : List Datum}
    (root : data.store.entries? data.root = some members) (version : HasVersion data)
    (list : data.store.items? (Datum.member members "suppressions") = some items)
    (complete : ∀ item ∈ items, ∃ fields, Complete data.store item fields) :
    (∀ (graph : Graph) (id : NodeId) (plain : Bool) (date : Date),
      graph.node id = ⟨Composer.textTag none plain date.text, .text date.text⟩ →
      graph.textDatum id = .ok (writtenDate plain date)) ∧
    ∃ config, ofData data = .ok config ∧
      List.Forall₂ (fun item entry => Supplies data.store item entry ∧
        ∃ fields, data.store.entries? item = some fields ∧
        ∀ plain date, Datum.member fields "expires" = writtenDate plain date →
          if plain = true ∧ date.year < 1000 then entry.NeverExpires else entry.ExpiresOn date)
        items config.suppressions := by
  obtain ⟨found, lists, entries⟩ := lists_of_complete list complete
  refine ⟨fun graph id plain date node => textDatum_date node, ?_⟩
  obtain ⟨text, written⟩ :
      ∃ text, versionText data.store (Datum.member members "version") = .ok text := by
    refine ok_of_not_fails ?_
    rintro ⟨fault, failed⟩
    exact version members root ((versionText_error_iff _ fault).mp failed).1
  refine ⟨⟨text, found⟩, (ofData_ok_iff _ _).mpr ⟨members, root, written, lists⟩, ?_⟩
  apply entries.imp
  rintro item entry supplies
  refine ⟨supplies, ?_⟩
  obtain ⟨fields, mapping, _, _, _, fills⟩ := supplies
  refine ⟨fields, mapping, ?_⟩
  intro plain date expires
  have left : leftOf plain date = entry.expires := by
    have own := ((fills_iff _ _ _).mp fills).2
    rw [expires, fieldText_date] at own
    exact Except.ok.inj own
  have read := read_leftOf plain date
  rw [left] at read
  split
  · rename_i early
    rw [if_pos early] at read
    exact Suppression.neverExpires_of_read read
  · rename_i late
    rw [if_neg late] at read
    exact Suppression.expiresOn_of_read read

/-- One date, plain in one item and quoted in another, gives two entries that expire on it. -/
theorem one_date_judged_alike :
    let date : Date := ⟨2026, 12, 31, by decide⟩
    let fields (plain : Bool) : List (Datum × Datum) :=
      [(.text "rule_id", .text "S3-001"), (.text "resource", .text "*"),
        (.text "reason", .text "legacy"), (.text "expires", writtenDate plain date)]
    let data : Data := ⟨.collection 0, ⟨#[.map [(.text "suppressions", .collection 1)],
      .list [.collection 2, .collection 3], .map (fields true), .map (fields false)]⟩⟩
    ∃ config first second, ofData data = .ok config ∧ config.suppressions = [first, second] ∧
      first.ExpiresOn date ∧ second.ExpiresOn date := by
  intro date fields data
  have others (plain : Bool) : ∀ name ∈ ["rule_id", "resource", "reason"],
      ¬ IsOpen data.store (fields plain) name ∧ ¬ IsUnwritable data.store (fields plain) name := by
    have filled {name : String} (text : String)
        (given : Datum.member (fields plain) name = .text text)
        (visible : Text.trim text ≠ "") :
        ¬ IsOpen data.store (fields plain) name ∧
          ¬ IsUnwritable data.store (fields plain) name := by
      refine (exists_fills_iff (fields plain) name).mp ⟨Text.trim text, ?_⟩
      rw [fills_iff, given]
      exact ⟨visible, fieldText_text text⟩
    simp only [List.forall_mem_cons]
    exact ⟨filled "S3-001" rfl (by decide), filled "*" rfl (by decide),
      filled "legacy" rfl (by decide), List.forall_mem_nil _⟩
  have complete : ∀ item ∈ [Datum.collection 2, Datum.collection 3],
      ∃ fields, Complete data.store item fields := by
    intro item member
    simp only [List.mem_cons, List.not_mem_nil, or_false] at member
    rcases member with rfl | rfl
    · exact ⟨fields true, rfl, others true, .inr ⟨true, date, rfl⟩⟩
    · exact ⟨fields false, rfl, others false, .inr ⟨false, date, rfl⟩⟩
  have version : HasVersion data := by
    rintro members ⟨⟩ ⟨_, ⟨⟩, _⟩
  obtain ⟨_, config, done, entries⟩ := @written_dates_judged data _ _ rfl version rfl complete
  obtain ⟨first, others, plain, rest, found⟩ := List.forall₂_cons_left_iff.mp entries
  obtain ⟨second, none, quoted, nothing, rfl⟩ := List.forall₂_cons_left_iff.mp rest
  obtain rfl := List.forall₂_nil_left_iff.mp nothing
  refine ⟨config, first, second, done, found, ?_, ?_⟩
  · obtain ⟨-, held, mapping, judged⟩ := plain
    obtain rfl : fields true = held := Option.some.inj mapping
    exact judged true date rfl
  · obtain ⟨-, held, mapping, judged⟩ := quoted
    obtain rfl : fields false = held := Option.some.inj mapping
    exact judged false date rfl

/-- A plain date before the year 1000 never expires, and a quoted one does. -/
theorem early_date_lost :
    let content (date : String) : List Char :=
      ("suppressions:\n- rule_id: S3-001\n  resource: '*'\n  reason: legacy\n  expires: " ++ date ++
        "\n").toList
    let path := FilePath.ofText defaultFile
    let now := Moment.midnight ⟨2026, 6, 1, by decide⟩
    let expired (date : String) : Option (List Bool) :=
      (ofText path (content date)).toOption.map fun config =>
        config.suppressions.map fun entry => entry.isExpired now
    expired "0999-01-01" = some [false] ∧ expired "'0999-01-01'" = some [true] := by
  decide +kernel

end ReviewConfig

end InfraReview
