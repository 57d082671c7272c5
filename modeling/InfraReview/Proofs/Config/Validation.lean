import InfraReview.Config
import InfraReview.Proofs.Calendar.Writing
import InfraReview.Proofs.Success
import InfraReview.Proofs.Text.Trim
import InfraReview.Proofs.Yaml.Length

/-!
# What a suppression file has to hold

The data of a suppression file are accepted as a whole or not at all. They have to be a mapping, and
what it lists as suppressions has to count as nothing or to be a list of mappings, each of which
fills four fields. Every item of the list gives one entry then.

Otherwise one thing is to blame: the first item that is no mapping or does not fill a field, and in
it the first field that is not filled, whatever comes behind. A field that is open is a flaw. A
field whose value has no text, because there is an integer in it that is too long, is none: there
the check breaks off, as it does in the end at such a version.
-/

namespace InfraReview

open Double (AllDigits)

/-- A date with as few digits as its year needs holds no white space. -/
theorem Date.shortText_dense (date : Date) :
    ∀ c ∈ date.shortText.toList, Text.isBlank c = false := by
  obtain ⟨-, month, day⟩ := date.parts_fill
  have year : AllDigits (toString date.year).toList := by
    rw [Nat.toString_eq_ofList_toDigits, String.toList_ofList]
    exact Double.allDigits_toDigits date.year
  intro c member
  simp only [Date.shortText, String.toList_append, List.mem_append] at member
  rcases member with (((inYear | dash) | inMonth) | dash) | inDay
  · exact Text.isBlank_digit (year c inYear)
  · exact List.mem_singleton.mp dash ▸ rfl
  · exact Text.isBlank_digit (month.digits c inMonth)
  · exact List.mem_singleton.mp dash ▸ rfl
  · exact Text.isBlank_digit (day.digits c inDay)

namespace ReviewConfig

open Yaml

/-! ### Fields and entries -/

/-- The names of the fields, in the order in which they are asked for. -/
def fieldNames : List String := ["rule_id", "resource", "reason", "expires"]

/-- The text of a value, if it has one. A date has as many digits as its year needs, and of a
moment only the date counts. -/
def valueText (store : Store) : Datum → Except LengthFault String
  | .date day => .ok day.shortText
  | .moment time _ => .ok time.date.shortText
  | other => store.shown other

variable (store : Store)

/-- A field is open when it is absent or null, or when its value has a text and this is blank. -/
def IsOpen (fields : List (Datum × Datum)) (name : String) : Prop :=
  Datum.member fields name = .null ∨
    ∃ whole, valueText store (Datum.member fields name) = .ok whole ∧ Text.AllBlank whole.toList

/-- A field has no text when an integer that is too long can be reached in its value. -/
def IsUnwritable (fields : List (Datum × Datum)) (name : String) : Prop :=
  store.Overlong (Datum.member fields name)

/-- A field that is not open has a text, which is the one of its value without the white space
around it. -/
structure Fills (fields : List (Datum × Datum)) (name text : String) : Prop where
  filled : ¬ IsOpen store fields name
  trimmed : ∃ whole, valueText store (Datum.member fields name) = .ok whole ∧
    Text.Trims whole.toList text.toList

/-- An item gives an entry: it is a mapping, and its fields have the texts of the entry. -/
def Supplies (item : Datum) (entry : Suppression) : Prop :=
  ∃ fields, store.entries? item = some fields ∧
    Fills store fields "rule_id" entry.ruleId ∧ Fills store fields "resource" entry.resource ∧
    Fills store fields "reason" entry.reason ∧ Fills store fields "expires" entry.expires

/-- What is first wrong with the item at an index: it is no mapping, or of its fields this one is
open or has no text and those before it are filled. -/
inductive Lacks (index : Nat) (item : Datum) : DataFault → Prop where
  | notAMapping (other : store.entries? item = none) :
      Lacks index item (.flawed (.entryNotAMapping index))
  | field {fields : List (Datum × Datum)} {before after : List String} {name : String}
      (mapping : store.entries? item = some fields) (order : fieldNames = before ++ name :: after)
      (earlier : ∀ other ∈ before, ¬ IsOpen store fields other ∧ ¬ IsUnwritable store fields other)
      (own : IsOpen store fields name) :
      Lacks index item (.flawed (.missingField index name))
  | text {fields : List (Datum × Datum)} {before after : List String} {name : String}
      (mapping : store.entries? item = some fields) (order : fieldNames = before ++ name :: after)
      (earlier : ∀ other ∈ before, ¬ IsOpen store fields other ∧ ¬ IsUnwritable store fields other)
      (own : IsUnwritable store fields name) : Lacks index item (.length .written)

variable {store}

/-- A value has no text exactly when an integer that is too long can be reached in it. -/
theorem valueText_error_iff (value : Datum) (fault : LengthFault) :
    valueText store value = .error fault ↔ store.Overlong value ∧ fault = .written := by
  cases value with
  | date day =>
    refine iff_of_false (by rintro ⟨⟩) ?_
    rintro ⟨⟨_, ⟨⟩, _⟩, _⟩
  | moment time offset =>
    refine iff_of_false (by rintro ⟨⟩) ?_
    rintro ⟨⟨_, ⟨⟩, _⟩, _⟩
  | _ =>
    rw [valueText, store.shown_error_iff]
    all_goals simp

/-- The text of a field is the trimmed one of its value. -/
theorem fieldText_eq_trim {value : Datum} (present : value ≠ .null) :
    store.fieldText value = (valueText store value).map Text.trim := by
  cases value with
  | null => exact absurd rfl present
  | date day => exact congrArg Except.ok (Text.trim_of_dense day.shortText_dense).symm
  | moment time offset =>
    exact congrArg Except.ok (Text.trim_of_dense time.date.shortText_dense).symm
  | _ => rfl

/-- A field whose value has a text is not without one. -/
theorem not_unwritable {fields : List (Datum × Datum)} {name whole : String}
    (own : valueText store (Datum.member fields name) = .ok whole) :
    ¬ IsUnwritable store fields name := by
  intro overlong
  rw [(valueText_error_iff _ .written).mpr ⟨overlong, rfl⟩] at own
  cases own

/-- A field that is open is not without a text. -/
theorem IsOpen.not_unwritable {fields : List (Datum × Datum)} {name : String}
    (isOpen : IsOpen store fields name) : ¬ IsUnwritable store fields name := by
  rcases isOpen with absent | ⟨whole, own, _⟩
  · rw [IsUnwritable, absent]
    rintro ⟨_, ⟨⟩, _⟩
  · exact ReviewConfig.not_unwritable own

/-- A field is of one of three sorts: it is open, it has no text, or a text fills it. -/
theorem field_cases (fields : List (Datum × Datum)) (name : String) :
    (IsOpen store fields name ∧ store.fieldText (Datum.member fields name) = .ok "") ∨
      (IsUnwritable store fields name ∧ ¬ IsOpen store fields name ∧
        store.fieldText (Datum.member fields name) = .error .written) ∨
      ∃ text, text ≠ "" ∧ ¬ IsOpen store fields name ∧ ¬ IsUnwritable store fields name ∧
        store.fieldText (Datum.member fields name) = .ok text := by
  by_cases absent : Datum.member fields name = .null
  · exact .inl ⟨.inl absent, by rw [absent]; rfl⟩
  · rw [fieldText_eq_trim absent]
    cases own : valueText store (Datum.member fields name) with
    | error fault =>
      obtain ⟨overlong, rfl⟩ := (valueText_error_iff _ fault).mp own
      exact .inr (.inl ⟨overlong, by simp [IsOpen, absent, own], rfl⟩)
    | ok whole =>
      have empty := Text.trim_eq_empty_iff whole
      by_cases blank : Text.AllBlank whole.toList
      · exact .inl ⟨.inr ⟨whole, own, blank⟩, congrArg Except.ok (empty.mpr blank)⟩
      · refine .inr (.inr ⟨Text.trim whole, mt empty.mp blank, ?_, ?_, rfl⟩)
        · simp [IsOpen, absent, own, blank]
        · exact not_unwritable own

/-- A text fills a field when it is the one that is left of the field, and not empty. -/
theorem fills_iff (fields : List (Datum × Datum)) (name text : String) :
    Fills store fields name text ↔
      text ≠ "" ∧ store.fieldText (Datum.member fields name) = .ok text := by
  constructor
  · rintro ⟨filled, whole, own, trimmed⟩
    have present : Datum.member fields name ≠ .null := fun absent => filled (.inl absent)
    have left : Text.trim whole = text := by
      rw [Text.trim, (Text.trimChars_eq_iff _ _).mpr trimmed, String.ofList_toList]
    refine ⟨?_, by rw [fieldText_eq_trim present, own, ← left]; rfl⟩
    rintro rfl
    exact filled (.inr ⟨whole, own, (Text.trim_eq_empty_iff whole).mp left⟩)
  · rintro ⟨filled, found⟩
    have closed : ¬ IsOpen store fields name := by
      rcases @field_cases store fields name with
        ⟨_, empty⟩ | ⟨_, closed, _⟩ | ⟨_, _, closed, _⟩
      · rw [empty] at found
        exact absurd (Except.ok.inj found).symm filled
      · exact closed
      · exact closed
    have present : Datum.member fields name ≠ .null := fun absent => closed (.inl absent)
    rw [fieldText_eq_trim present] at found
    obtain ⟨whole, own, rfl⟩ := ok_of_map found
    refine ⟨closed, whole, own, (Text.trimChars_eq_iff _ _).mp ?_⟩
    rw [Text.trim, String.toList_ofList]

/-- A field that is neither open nor without a text is filled. -/
theorem exists_fills_iff (fields : List (Datum × Datum)) (name : String) :
    (∃ text, Fills store fields name text) ↔
      ¬ IsOpen store fields name ∧ ¬ IsUnwritable store fields name := by
  constructor
  · rintro ⟨text, filled, whole, own, _⟩
    exact ⟨filled, not_unwritable own⟩
  · rintro ⟨closed, writable⟩
    rcases @field_cases store fields name with
      ⟨isOpen, _⟩ | ⟨unwritable, _⟩ | ⟨text, filled, _, _, found⟩
    · exact absurd isOpen closed
    · exact absurd unwritable writable
    · exact ⟨text, (fills_iff fields name text).mpr ⟨filled, found⟩⟩

/-- The text of a field is read exactly when it fills the field. -/
theorem field_ok_iff (index : Nat) (fields : List (Datum × Datum)) (name text : String) :
    field store index fields name = .ok text ↔ Fills store fields name text := by
  rw [fills_iff, field]
  cases store.fieldText (Datum.member fields name) with
  | error fault => simp [Except.mapError, bind, Except.bind]
  | ok found =>
    by_cases empty : found = ""
    · subst empty
      refine iff_of_false (by rintro ⟨⟩) ?_
      rintro ⟨filled, same⟩
      exact filled (Except.ok.inj same).symm
    · simp only [Except.mapError, bind, Except.bind, String.isEmpty_iff, empty, if_false,
        Except.ok.injEq]
      constructor
      · rintro rfl
        exact ⟨empty, rfl⟩
      · exact And.right

/-- A field is not read exactly when it is open, which is a flaw, or has no text. -/
theorem field_error_iff (index : Nat) (fields : List (Datum × Datum)) (name : String)
    (fault : DataFault) : field store index fields name = .error fault ↔
      (IsOpen store fields name ∧ fault = .flawed (.missingField index name)) ∨
        (IsUnwritable store fields name ∧ fault = .length .written) := by
  rw [field]
  rcases @field_cases store fields name with
    ⟨isOpen, found⟩ | ⟨unwritable, closed, found⟩ | ⟨text, filled, closed, writable, found⟩
  · rw [found]
    simp only [isOpen, isOpen.not_unwritable, true_and, false_and, or_false]
    exact ⟨fun failed => (Except.error.inj failed).symm, fun same => same ▸ rfl⟩
  · rw [found]
    simp only [unwritable, closed, true_and, false_and, false_or]
    exact ⟨fun failed => (Except.error.inj failed).symm, fun same => same ▸ rfl⟩
  · simp [found, filled, closed, writable, Except.mapError, bind, Except.bind]

/-- An item is read exactly when it gives its entry. -/
theorem suppression_ok_iff (index : Nat) (item : Datum) (entry : Suppression) :
    suppression store index item = .ok entry ↔ Supplies store item entry := by
  rw [suppression, Supplies]
  cases store.entries? item with
  | none => simp
  | some fields =>
    simp only [bind_ok_iff, field_ok_iff, Option.some.injEq, exists_eq_left']
    constructor
    · rintro ⟨ruleId, first, resource, second, reason, third, expires, fourth, made⟩
      cases made
      exact ⟨first, second, third, fourth⟩
    · rintro ⟨first, second, third, fourth⟩
      exact ⟨_, first, _, second, _, third, _, fourth, rfl⟩

/-- The fields of a mapping are asked for one after the other. -/
theorem failure?_suppression {item : Datum} {fields : List (Datum × Datum)}
    (mapping : store.entries? item = some fields) (index : Nat) :
    failure? (suppression store index item) =
      failure? (fieldNames.mapM (field store index fields)) := by
  simp only [suppression, mapping, fieldNames, List.mapM_cons, List.mapM_nil]
  cases field store index fields "rule_id" with
  | error flaw => rfl
  | ok ruleId =>
    cases field store index fields "resource" with
    | error flaw => rfl
    | ok resource =>
      cases field store index fields "reason" with
      | error flaw => rfl
      | ok reason => cases field store index fields "expires" <;> rfl

/-- An item is refused exactly for what is first wrong with it. -/
theorem suppression_error_iff (index : Nat) (item : Datum) (fault : DataFault) :
    suppression store index item = .error fault ↔ Lacks store index item fault := by
  cases mapping : store.entries? item with
  | none =>
    rw [suppression, mapping]
    constructor
    · rintro ⟨⟩
      exact .notAMapping mapping
    · intro lacks
      cases lacks with
      | notAMapping => rfl
      | field other => simp [mapping] at other
      | text other => simp [mapping] at other
  | some fields =>
    have sound (name : String) : ¬ Fails (field store index fields name) ↔
        ¬ IsOpen store fields name ∧ ¬ IsUnwritable store fields name := by
      rw [Fails]
      simp [field_error_iff, not_or, exists_or]
    rw [← failure?_eq_some_iff, failure?_suppression mapping, failure?_eq_some_iff, mapM_error_iff]
    constructor
    · rintro ⟨before, name, after, order, earlier, failed⟩
      have closed : ∀ other ∈ before,
          ¬ IsOpen store fields other ∧ ¬ IsUnwritable store fields other :=
        fun other member => (sound other).mp (earlier other member)
      rcases (field_error_iff index fields name fault).mp failed with ⟨own, rfl⟩ | ⟨own, rfl⟩
      · exact .field mapping order closed own
      · exact .text mapping order closed own
    · intro lacks
      cases lacks with
      | notAMapping other => simp [mapping] at other
      | @field held before after name same order earlier own =>
        obtain rfl : fields = held := Option.some.inj (mapping.symm.trans same)
        exact ⟨before, name, after, order,
          fun other member => (sound other).mpr (earlier other member),
          (field_error_iff _ _ _ _).mpr (.inl ⟨own, rfl⟩)⟩
      | @text held before after name same order earlier own =>
        obtain rfl : fields = held := Option.some.inj (mapping.symm.trans same)
        exact ⟨before, name, after, order,
          fun other member => (sound other).mpr (earlier other member),
          (field_error_iff _ _ _ _).mpr (.inr ⟨own, rfl⟩)⟩

/-! ### Lists of entries -/

/-- Items are read exactly when each of them gives its entry. -/
theorem suppressionsFrom_ok_iff (index : Nat) (items : List Datum) (entries : List Suppression) :
    suppressionsFrom store index items = .ok entries ↔
      List.Forall₂ (Supplies store) items entries := by
  induction items generalizing index entries with
  | nil => simp [suppressionsFrom, eq_comm]
  | cons item items inductionHypothesis =>
    rw [suppressionsFrom, List.forall₂_cons_left_iff]
    simp only [bind_ok_iff, suppression_ok_iff, inductionHypothesis, Except.ok.injEq]
    constructor
    · rintro ⟨first, own, others, behind, rfl⟩
      exact ⟨first, others, own, behind, rfl⟩
    · rintro ⟨first, others, own, behind, rfl⟩
      exact ⟨first, own, others, behind, rfl⟩

/-- Items are refused exactly for what is first wrong with the first of them that gives no
entry. -/
theorem suppressionsFrom_error_iff (index : Nat) (items : List Datum) (fault : DataFault) :
    suppressionsFrom store index items = .error fault ↔
      ∃ before item after, items = before ++ item :: after ∧
        (∀ earlier ∈ before, ∃ entry, Supplies store earlier entry) ∧
        Lacks store (index + before.length) item fault := by
  induction items generalizing index with
  | nil => simp [suppressionsFrom]
  | cons item items inductionHypothesis =>
    have rest (first : Suppression) : (do
        let others ← suppressionsFrom store (index + 1) items
        .ok (first :: others)) = .error fault ↔
        suppressionsFrom store (index + 1) items = .error fault := by
      simp [bind_error_iff]
    rw [suppressionsFrom, bind_error_iff, suppression_error_iff]
    simp only [rest, suppression_ok_iff, inductionHypothesis]
    constructor
    · rintro (lacks | ⟨first, own, before, other, after, rfl, earlier, lacks⟩)
      · exact ⟨[], item, items, rfl, by simp, lacks⟩
      · refine ⟨item :: before, other, after, rfl, ?_, ?_⟩
        · exact List.forall_mem_cons.mpr ⟨⟨first, own⟩, earlier⟩
        · rwa [List.length_cons, Nat.add_comm before.length, ← Nat.add_assoc]
    · rintro ⟨before, other, after, split, earlier, lacks⟩
      cases before with
      | nil =>
        cases split
        exact .inl lacks
      | cons head before =>
        cases split
        obtain ⟨⟨first, own⟩, others⟩ := List.forall_mem_cons.mp earlier
        rw [List.length_cons, Nat.add_comm before.length, ← Nat.add_assoc] at lacks
        exact .inr ⟨first, own, before, other, after, rfl, others, lacks⟩

/-- The entries of what a file lists: none when it counts as nothing, and else one for each item. -/
inductive Lists (store : Store) (listed : Datum) : List Suppression → Prop where
  | nothing (vacant : store.isVacant listed = true) : Lists store listed []
  | items {items : List Datum} {entries : List Suppression}
      (given : store.items? listed = some items)
      (each : List.Forall₂ (Supplies store) items entries) : Lists store listed entries

/-- A list that counts as nothing has no items. -/
theorem items_of_vacant {listed : Datum} {items : List Datum}
    (list : store.items? listed = some items) (vacant : store.isVacant listed = true) :
    items = [] := by
  cases listed with
  | collection place =>
    simp only [Store.isVacant] at vacant
    simp only [Store.items?, Store.collection?] at list
    cases found : store.get place with
    | list held =>
      simp only [found, Option.some.injEq] at list
      simpa [found, Collection.isEmpty, list] using vacant
    | _ => simp [found] at list
  | _ => cases list

/-- What is listed gives entries exactly when they are those of it. -/
theorem suppressionsOf_ok_iff (listed : Datum) (entries : List Suppression) :
    suppressionsOf store listed = .ok entries ↔ Lists store listed entries := by
  unfold suppressionsOf
  split
  · rename_i vacant
    constructor
    · rintro ⟨⟩
      exact .nothing vacant
    · intro lists
      cases lists with
      | nothing => rfl
      | items given each =>
        obtain rfl := items_of_vacant given vacant
        rw [List.forall₂_nil_left_iff.mp each]
  · rename_i filled
    constructor
    · intro done
      cases given : store.items? listed with
      | none => simp [given] at done
      | some items =>
        rw [given] at done
        exact .items given ((suppressionsFrom_ok_iff 0 items entries).mp done)
    · intro lists
      cases lists with
      | nothing vacant => exact absurd vacant filled
      | items given each =>
        rw [given]
        exact (suppressionsFrom_ok_iff 0 _ entries).mpr each

/-- What is listed is refused when it counts as something and is no list, and when it is a list, for
what is first wrong with the first item that gives no entry. -/
theorem suppressionsOf_error_iff (listed : Datum) (fault : DataFault) :
    suppressionsOf store listed = .error fault ↔
      (store.isVacant listed = false ∧ store.items? listed = none ∧
        fault = .flawed .suppressionsNotAList) ∨
      ∃ before item after, store.items? listed = some (before ++ item :: after) ∧
        (∀ earlier ∈ before, ∃ entry, Supplies store earlier entry) ∧
        Lacks store before.length item fault := by
  cases vacant : store.isVacant listed with
  | true =>
    have noItem (before : List Datum) (item : Datum) (after : List Datum) :
        store.items? listed ≠ some (before ++ item :: after) := by
      intro list
      simpa using items_of_vacant list vacant
    simp [suppressionsOf, vacant, noItem]
  | false =>
    cases list : store.items? listed with
    | none => simp [suppressionsOf, vacant, list, eq_comm]
    | some items => simp [suppressionsOf, vacant, list, suppressionsFrom_error_iff]

/-- A configuration is the one of a file: the version that the file gives, and the entries of what
it lists. -/
def Describes (data : Data) (config : ReviewConfig) : Prop :=
  ∃ members, data.store.entries? data.root = some members ∧
    versionText data.store (Datum.member members "version") = .ok config.version ∧
    Lists data.store (Datum.member members "suppressions") config.suppressions

/-- Data with suppressions that are accepted: a mapping whose suppressions count as nothing or are a
list of mappings in which no field is open and every field has a text. -/
def Acceptable (data : Data) : Prop :=
  ∃ members, data.store.entries? data.root = some members ∧
    (data.store.isVacant (Datum.member members "suppressions") = true ∨
      ∃ items, data.store.items? (Datum.member members "suppressions") = some items ∧
        ∀ item ∈ items, ∃ fields, data.store.entries? item = some fields ∧
          ∀ name ∈ fieldNames,
            ¬ IsOpen data.store fields name ∧ ¬ IsUnwritable data.store fields name)

/-- Data whose version, if there is one, has a text. -/
def HasVersion (data : Data) : Prop :=
  ∀ members, data.store.entries? data.root = some members →
    ¬ data.store.Overlong (Datum.member members "version")

/-- What is to blame in data that are not accepted. -/
inductive Blames (data : Data) : DataFault → Prop where
  | notAMapping (other : data.store.entries? data.root = none) : Blames data (.flawed .notAMapping)
  | notAList {members : List (Datum × Datum)} (root : data.store.entries? data.root = some members)
      (filled : data.store.isVacant (Datum.member members "suppressions") = false)
      (other : data.store.items? (Datum.member members "suppressions") = none) :
      Blames data (.flawed .suppressionsNotAList)
  | item {members : List (Datum × Datum)} {before after : List Datum} {item : Datum}
      {fault : DataFault} (root : data.store.entries? data.root = some members)
      (list : data.store.items? (Datum.member members "suppressions") =
        some (before ++ item :: after))
      (earlier : ∀ other ∈ before, ∃ entry, Supplies data.store other entry)
      (lacks : Lacks data.store before.length item fault) : Blames data fault
  | version {members : List (Datum × Datum)} {entries : List Suppression}
      (root : data.store.entries? data.root = some members)
      (lists : Lists data.store (Datum.member members "suppressions") entries)
      (unwritable : data.store.Overlong (Datum.member members "version")) :
      Blames data (.length .written)

/-- A version has no text exactly when an integer that is too long can be reached in it. -/
theorem versionText_error_iff (value : Datum) (fault : DataFault) :
    versionText store value = .error fault ↔
      store.Overlong value ∧ fault = .length .written := by
  cases value with
  | null =>
    refine iff_of_false (by rintro ⟨⟩) ?_
    rintro ⟨⟨_, ⟨⟩, _⟩, _⟩
  | _ =>
    rw [versionText]
    · constructor
      · intro failed
        obtain ⟨cause, early, rfl⟩ := error_of_mapError failed
        obtain ⟨overlong, rfl⟩ := (store.shown_error_iff _ _).mp early
        exact ⟨overlong, rfl⟩
      · rintro ⟨overlong, rfl⟩
        rw [(store.shown_error_iff _ .written).mpr ⟨overlong, rfl⟩]
        rfl
    · rintro ⟨⟩

/-- The members of a file give the configuration that they describe, and no other one. -/
theorem ofData_ok_iff (data : Data) (config : ReviewConfig) :
    ofData data = .ok config ↔ Describes data config := by
  rw [ofData, Describes]
  cases data.store.entries? data.root with
  | none => simp
  | some members =>
    simp only [ofMembers, bind_ok_iff, suppressionsOf_ok_iff, Except.ok.injEq, Option.some.injEq,
      exists_eq_left']
    constructor
    · rintro ⟨entries, lists, version, written, rfl⟩
      exact ⟨written, lists⟩
    · rintro ⟨version, lists⟩
      exact ⟨config.suppressions, lists, config.version, version, rfl⟩

/-- Data give no configuration exactly for what is to blame in them. -/
theorem ofData_error_iff (data : Data) (fault : DataFault) :
    ofData data = .error fault ↔ Blames data fault := by
  have reading {members : List (Datum × Datum)}
      (root : data.store.entries? data.root = some members) :
      ofData data = ofMembers data.store members := by
    rw [ofData, root]
  constructor
  · intro failed
    cases root : data.store.entries? data.root with
    | none =>
      rw [ofData, root] at failed
      cases failed
      exact .notAMapping root
    | some members =>
      rw [reading root, ofMembers, bind_error_iff] at failed
      rcases failed with failed | ⟨entries, listed, failed⟩
      · rcases (suppressionsOf_error_iff _ fault).mp failed with
          ⟨filled, other, rfl⟩ | ⟨before, item, after, list, earlier, lacks⟩
        · exact .notAList root filled other
        · exact .item root list earlier lacks
      · rcases error_of_bind failed with failed | ⟨_, _, ⟨⟩⟩
        obtain ⟨overlong, rfl⟩ := (versionText_error_iff _ fault).mp failed
        exact .version root ((suppressionsOf_ok_iff _ entries).mp listed) overlong
  · intro blames
    cases blames with
    | notAMapping other => rw [ofData, other]
    | notAList root filled other =>
      rw [reading root, ofMembers, bind_error_iff, suppressionsOf_error_iff]
      exact .inl (.inl ⟨filled, other, rfl⟩)
    | item root list earlier lacks =>
      rw [reading root, ofMembers, bind_error_iff, suppressionsOf_error_iff]
      exact .inl (.inr ⟨_, _, _, list, earlier, lacks⟩)
    | version root lists unwritable =>
      have failed := (versionText_error_iff _ (.length .written)).mpr ⟨unwritable, rfl⟩
      rw [reading root, ofMembers, bind_error_iff]
      refine .inr ⟨_, (suppressionsOf_ok_iff _ _).mpr lists, ?_⟩
      rw [failed]
      rfl

/-- An item gives an entry exactly when it is a mapping in which no field is open and every field
has a text. -/
theorem exists_supplies_iff (item : Datum) :
    (∃ entry, Supplies store item entry) ↔
      ∃ fields, store.entries? item = some fields ∧
        ∀ name ∈ fieldNames, ¬ IsOpen store fields name ∧ ¬ IsUnwritable store fields name := by
  simp only [← exists_fills_iff]
  constructor
  · rintro ⟨entry, fields, mapping, ruleId, resource, reason, expires⟩
    refine ⟨fields, mapping, ?_⟩
    simp only [fieldNames, List.forall_mem_cons]
    exact ⟨⟨_, ruleId⟩, ⟨_, resource⟩, ⟨_, reason⟩, ⟨_, expires⟩, List.forall_mem_nil _⟩
  · rintro ⟨fields, mapping, filled⟩
    obtain ⟨ruleId, first⟩ := filled "rule_id" (by simp [fieldNames])
    obtain ⟨resource, second⟩ := filled "resource" (by simp [fieldNames])
    obtain ⟨reason, third⟩ := filled "reason" (by simp [fieldNames])
    obtain ⟨expires, fourth⟩ := filled "expires" (by simp [fieldNames])
    exact ⟨⟨ruleId, resource, reason, expires⟩, fields, mapping, first, second, third, fourth⟩

/-- Results can be found for a list exactly when there is one for each item. -/
theorem exists_forall₂_iff {α β : Type} {related : α → β → Prop} {items : List α} :
    (∃ results, List.Forall₂ related items results) ↔
      ∀ item ∈ items, ∃ result, related item result := by
  induction items with
  | nil => simp
  | cons item items inductionHypothesis =>
    rw [List.forall_mem_cons, ← inductionHypothesis]
    simp only [List.forall₂_cons_left_iff]
    constructor
    · rintro ⟨_, result, results, own, others, rfl⟩
      exact ⟨⟨result, own⟩, results, others⟩
    · rintro ⟨⟨result, own⟩, results, others⟩
      exact ⟨_, result, results, own, others, rfl⟩

/-- Data give some configuration exactly when they are acceptable and their version has a text. -/
theorem exists_describes_iff (data : Data) :
    (∃ config, Describes data config) ↔ Acceptable data ∧ HasVersion data := by
  constructor
  · rintro ⟨config, members, root, version, lists⟩
    refine ⟨⟨members, root, ?_⟩, ?_⟩
    · generalize config.suppressions = entries at lists
      cases lists with
      | nothing vacant => exact .inl vacant
      | items given each =>
        have supplied := exists_forall₂_iff.mp ⟨entries, each⟩
        exact .inr ⟨_, given,
          fun item member => (exists_supplies_iff item).mp (supplied item member)⟩
    · intro others same unwritable
      obtain rfl : members = others := Option.some.inj (root.symm.trans same)
      rw [(versionText_error_iff _ _).mpr ⟨unwritable, rfl⟩] at version
      cases version
  · rintro ⟨⟨members, root, accepted⟩, hasVersion⟩
    have listed : ∃ entries, Lists data.store (Datum.member members "suppressions") entries := by
      rcases accepted with vacant | ⟨items, given, complete⟩
      · exact ⟨[], .nothing vacant⟩
      · obtain ⟨entries, each⟩ := exists_forall₂_iff.mpr fun item member =>
          (exists_supplies_iff item).mpr (complete item member)
        exact ⟨entries, .items given each⟩
    obtain ⟨entries, lists⟩ := listed
    cases version : versionText data.store (Datum.member members "version") with
    | error fault =>
      exact absurd ((versionText_error_iff _ fault).mp version).1 (hasVersion members root)
    | ok text => exact ⟨⟨text, entries⟩, members, root, version, lists⟩

/-- The data of a suppression file are accepted or refused as a whole. They give a configuration
exactly when they are acceptable and their version has a text, and it then has one entry for each
item of the list, in order and with the trimmed texts of its fields. Otherwise there is one flaw,
that of the first item that gives no entry and of the first field that is open in it, and its
message names them; or the check breaks off, at the first field that has no text or at the
version. -/
theorem accepted_or_blamed (data : Data) :
    ((∃ config, ofData data = .ok config) ↔ Acceptable data ∧ HasVersion data) ∧
    (∀ config, ofData data = .ok config ↔ Describes data config) ∧
    (∀ fault, ofData data = .error fault ↔ Blames data fault) ∧
    ∀ (source : String) (index : Nat) (name : String),
      Flaw.notAMapping.message source =
        "Configuration file " ++ source ++ " must contain a mapping" ∧
      Flaw.suppressionsNotAList.message source =
        "Configuration file " ++ source ++ ": 'suppressions' must be a list" ∧
      (Flaw.entryNotAMapping index).message source =
        "Invalid configuration file " ++ source ++ ": suppression[" ++ toString index
          ++ "] must be a mapping" ∧
      (Flaw.missingField index name).message source =
        "Invalid configuration file " ++ source ++ ": suppression[" ++ toString index ++ "]: "
          ++ name ++ " is required" := by
  refine ⟨?_, ofData_ok_iff data, ofData_error_iff data, fun _ _ _ => ⟨rfl, rfl, rfl, rfl⟩⟩
  simp only [ofData_ok_iff, exists_describes_iff]

/-- Zero and false are values like others. A blank reason leaves its field open, and the item that
has it is to blame for it, whatever else is wrong with it or behind it. -/
example :
    let fields (reason : String) : List (Datum × Datum) :=
      [(.text "rule_id", .int 0), (.text "resource", .bool false), (.text "reason", .text reason)]
    let listed (items : List Datum) : Data := ⟨.collection 0, ⟨#[
      .map [(.text "suppressions", .collection 1)], .list items,
      .map (fields " old " ++ [(.text "expires", .text "never")]), .map (fields " ")]⟩⟩
    ofData (listed [.collection 2]) = .ok ⟨"", [⟨"0", "False", "old", "never"⟩]⟩ ∧
      ofData (listed [.collection 2, .collection 3, .null]) =
        .error (.flawed (.missingField 1 "reason")) := by
  decide +kernel

/-- Data with one item, all of whose fields are filled but for a rule that is an integer. -/
def numbered (rule : Int) : Data :=
  let fields : List (Datum × Datum) :=
    [(.text "rule_id", .int rule), (.text "resource", .text "*"), (.text "reason", .text "old"),
      (.text "expires", .text "never")]
  ⟨.collection 0, ⟨#[.map [(.text "suppressions", .collection 1)], .list [.collection 2],
    .map fields]⟩⟩

/-- Not all data give a configuration or are refused for a flaw: a rule that is too long an integer
breaks the check off. -/
theorem long_rule_breaks_off :
    ofData (numbered longBound) = .error (.length .written) ∧
      ¬ ∀ data, (∃ config, ofData data = .ok config) ∨
        ∃ flaw, ofData data = .error (.flawed flaw) := by
  have long : isLong longBound = true := decide_eq_true (Nat.le_refl longBound)
  have order : fieldNames = [] ++ "rule_id" :: ["resource", "reason", "expires"] := rfl
  have items : (numbered longBound).store.items? (.collection 1) =
      some ([] ++ .collection 2 :: []) := rfl
  have breaks : ofData (numbered longBound) = .error (.length .written) :=
    (ofData_error_iff _ _).mpr (.item rfl items (List.forall_mem_nil _)
      (.text rfl order (List.forall_mem_nil _) ⟨longBound, .self _, long⟩))
  refine ⟨breaks, fun answered => ?_⟩
  rcases answered (numbered longBound) with ⟨config, done⟩ | ⟨flaw, failed⟩
  · rw [breaks] at done
    cases done
  · rw [breaks] at failed
    cases failed

end ReviewConfig

end InfraReview
