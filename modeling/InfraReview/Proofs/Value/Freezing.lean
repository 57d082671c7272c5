import InfraReview.Proofs.Entity.Regular
import InfraReview.Proofs.Lookup
import InfraReview.Proofs.Number.Range
import InfraReview.Proofs.Value.Fitting

/-!
# Freezing does not see nulls

A document has a value unless it is null or an integer in it lies beyond the range of doubles. The
value mirrors the document: items and members that are null are not there, and all others are, in
their order and under their names, with a double for each number. So the value of a document is that
of the document without its nulls, and a value, taken as a document, is its own value.

What is not there and what is empty are told apart at every depth. An attribute that is null is
absent, but a list or a map that holds nothing but nulls is there and empty.
-/

namespace InfraReview

namespace Json

/-- True for null. -/
def isNull : Json → Bool
  | null => true
  | _ => false

/-- The items that are not null, in order. -/
def keptItems (items : List Json) : List Json := items.filter fun item => !item.isNull

/-- The members that are not null, in order. -/
def keptMembers (members : List (String × Json)) : List (String × Json) :=
  members.filter fun member => !member.2.isNull

mutual

/-- A document without the items and members that are null, at every depth. -/
def withoutNulls : Json → Json
  | array items => array (itemsWithoutNulls items)
  | object members => object (membersWithoutNulls members)
  | other => other

/-- The items that are not null, each without its nulls. -/
def itemsWithoutNulls : List Json → List Json
  | [] => []
  | null :: items => itemsWithoutNulls items
  | item :: items => withoutNulls item :: itemsWithoutNulls items

/-- The members that are not null, each without its nulls. -/
def membersWithoutNulls : List (String × Json) → List (String × Json)
  | [] => []
  | (_, null) :: members => membersWithoutNulls members
  | (name, member) :: members => (name, withoutNulls member) :: membersWithoutNulls members

end

/-- A document that is not null and in which nothing is, at any depth. -/
inductive NullFree : Json → Prop where
  | bool (value : Bool) : NullFree (bool value)
  | int (value : Int) : NullFree (int value)
  | double (value : Double) : NullFree (double value)
  | string (value : String) : NullFree (string value)
  | array {items : List Json} (inner : ∀ item ∈ items, NullFree item) : NullFree (array items)
  | object {members : List (String × Json)} (inner : ∀ member ∈ members, NullFree member.2) :
      NullFree (object members)

/-- An integer stands in a document, at some depth. -/
inductive Reaches : Json → Int → Prop where
  | here (whole : Int) : Reaches (int whole) whole
  | item {items : List Json} {item : Json} {whole : Int} (member : item ∈ items)
      (inside : Reaches item whole) : Reaches (array items) whole
  | member {members : List (String × Json)} {member : String × Json} {whole : Int}
      (listed : member ∈ members) (inside : Reaches member.2 whole) :
      Reaches (object members) whole

end Json

namespace Value

open Json

/-- A value mirrors a document: it is the same truth value or text, or the nearest double; a list
mirrors the items that are not null, in their order, and a map mirrors the members that are not
null, in their order and under their names. -/
inductive Mirrors : Json → Value → Prop where
  | bool (value : Bool) : Mirrors (.bool value) (.bool value)
  | int {whole : Int} {nearest : Double} (rounded : Double.ofInt? whole = some nearest) :
      Mirrors (.int whole) (.number nearest)
  | double (value : Double) : Mirrors (.double value) (.number value)
  | string (content : String) : Mirrors (.string content) (.text content)
  | array {items : List Json} {values : List Value}
      (inner : List.Forall₂ Mirrors (keptItems items) values) :
      Mirrors (.array items) (.list values)
  | object {members : List (String × Json)} {entries : List (String × Value)}
      (names : entries.map Prod.fst = (keptMembers members).map Prod.fst)
      (inner : List.Forall₂ Mirrors ((keptMembers members).map Prod.snd)
        (entries.map Prod.snd)) :
      Mirrors (.object members) (.map entries)

/-! ### The range of integers -/

mutual

/-- A document fits when every integer in it lies in the range of doubles. -/
theorem fits_iff : ∀ document : Json, document.Fits ↔
    ∀ whole, document.Reaches whole → Double.InRange whole
  | .int own => by
    rw [Fits, Double.ofInt_isSome_iff]
    constructor
    · rintro inRange _ ⟨⟩
      exact inRange
    · exact fun all => all own (.here own)
  | .array items => by
    rw [Fits, itemsFit_iff items]
    constructor
    · rintro all whole ⟨⟩
      rename_i member inside
      exact all _ member whole inside
    · exact fun all item member whole inside => all whole (.item member inside)
  | .object members => by
    rw [Fits, membersFit_iff members]
    constructor
    · rintro all whole ⟨⟩
      rename_i listed inside
      exact all _ listed whole inside
    · exact fun all member listed whole inside => all whole (.member listed inside)
  | .null | .bool _ | .double _ | .string _ => by
    refine iff_of_true trivial ?_
    rintro whole ⟨⟩

/-- Items fit when every integer in them lies in the range of doubles. -/
theorem itemsFit_iff : ∀ items : List Json, ItemsFit items ↔
    ∀ item ∈ items, ∀ whole, item.Reaches whole → Double.InRange whole
  | [] => by simp [ItemsFit]
  | item :: items => by
    rw [ItemsFit, fits_iff item, itemsFit_iff items, List.forall_mem_cons]

/-- Members fit when every integer in them lies in the range of doubles. -/
theorem membersFit_iff : ∀ members : List (String × Json), MembersFit members ↔
    ∀ member ∈ members, ∀ whole, member.2.Reaches whole → Double.InRange whole
  | [] => by simp [MembersFit]
  | (name, member) :: members => by
    rw [MembersFit, fits_iff member, membersFit_iff members, List.forall_mem_cons]

end

/-- A document has a value exactly when it is not null and every integer in it lies in the range of
doubles. -/
theorem freeze_succeeds_iff (document : Json) :
    (∃ value, freeze document = .ok value) ↔ document ≠ .null ∧
      ∀ whole, document.Reaches whole → Double.InRange whole := by
  rw [← fits_iff]
  constructor
  · rintro ⟨value, frozen⟩
    refine ⟨?_, fits_of_freeze document frozen⟩
    rintro rfl
    cases frozen
  · exact fun ⟨notNull, fits⟩ => freeze_of_fits document fits notNull

/-! ### Values mirror documents -/

/-- A document is null when it is told to be. -/
theorem isNull_iff (document : Json) : document.isNull = true ↔ document = .null := by
  cases document <;> simp [isNull]

/-- The items that are not null are frozen one by one. -/
theorem freezeItems_eq (items : List Json) :
    freezeItems items = (keptItems items).mapM freeze := by
  induction items with
  | nil => rfl
  | cons item items inductionHypothesis =>
    by_cases own : item = .null
    · subst own
      simpa [freezeItems, keptItems, isNull] using inductionHypothesis
    · have kept : keptItems (item :: items) = item :: keptItems items :=
        List.filter_cons_of_pos (by simpa [← isNull_iff] using own)
      rw [freezeItems, kept, List.mapM_cons, inductionHypothesis]
      · rfl
      · exact own

/-- The members that are not null are frozen one by one, under their names. -/
theorem freezeMembers_eq (members : List (String × Json)) :
    freezeMembers members =
      (keptMembers members).mapM fun member => (freeze member.2).map (member.1, ·) := by
  induction members with
  | nil => rfl
  | cons first members inductionHypothesis =>
    obtain ⟨name, member⟩ := first
    by_cases own : member = .null
    · subst own
      simpa [freezeMembers, keptMembers, isNull] using inductionHypothesis
    · have kept : keptMembers ((name, member) :: members) =
          (name, member) :: keptMembers members :=
        List.filter_cons_of_pos (by simpa [← isNull_iff] using own)
      rw [freezeMembers, kept, List.mapM_cons, inductionHypothesis]
      · cases freeze member <;> rfl
      · exact own

/-- Relations that agree on the items of a list agree along it. -/
theorem forall₂_congr {α β : Type} {One Other : α → β → Prop} {items : List α}
    (same : ∀ item ∈ items, ∀ value, One item value ↔ Other item value) (values : List β) :
    List.Forall₂ One items values ↔ List.Forall₂ Other items values := by
  induction items generalizing values with
  | nil => simp
  | cons item items inductionHypothesis =>
    obtain ⟨own, others⟩ := List.forall_mem_cons.mp same
    cases values with
    | nil => simp
    | cons value values =>
      rw [List.forall₂_cons, List.forall₂_cons, own value, inductionHypothesis others values]

/-- Members are frozen under their names when their names are those of the entries and their values
are the values of the entries. -/
theorem frozenMembers_iff (members : List (String × Json)) (entries : List (String × Value)) :
    List.Forall₂ (fun member entry => (freeze member.2).map (member.1, ·) = .ok entry)
        members entries ↔
      entries.map Prod.fst = members.map Prod.fst ∧
        List.Forall₂ (fun document value => freeze document = .ok value) (members.map Prod.snd)
          (entries.map Prod.snd) := by
  induction members generalizing entries with
  | nil => simp
  | cons member members inductionHypothesis =>
    cases entries with
    | nil => simp
    | cons entry entries =>
      obtain ⟨name, document⟩ := member
      obtain ⟨other, value⟩ := entry
      have own : (freeze document).map (name, ·) = .ok (other, value) ↔
          other = name ∧ freeze document = .ok value := by
        cases freeze document with
        | error fault => simp [Except.map]
        | ok frozen => simp [Except.map, eq_comm]
      simp only [List.forall₂_cons, List.map_cons, List.cons.injEq, own, inductionHypothesis]
      tauto

mutual

/-- The values of a document are those that mirror it. -/
theorem freeze_ok_iff : ∀ (document : Json) (value : Value),
    freeze document = .ok value ↔ Mirrors document value
  | .null, value => by
    refine iff_of_false (fun frozen => ?_) (fun mirrors => ?_)
    · cases frozen
    · cases mirrors
  | .bool truth, value => by
    constructor
    · rintro ⟨⟩
      exact .bool truth
    · rintro ⟨⟩
      rfl
  | .int whole, value => by
    constructor
    · intro frozen
      cases found : Double.ofInt? whole with
      | none => simp [freeze, found] at frozen
      | some nearest =>
        simp only [freeze, found, Except.ok.injEq] at frozen
        exact frozen ▸ .int found
    · rintro ⟨⟩
      rename_i rounded
      simp [freeze, rounded]
  | .double real, value => by
    constructor
    · rintro ⟨⟩
      exact .double real
    · rintro ⟨⟩
      rfl
  | .string content, value => by
    constructor
    · rintro ⟨⟩
      exact .string content
    · rintro ⟨⟩
      rfl
  | .array items, value => by
    have each (values : List Value) : freezeItems items = .ok values ↔
        List.Forall₂ Mirrors (keptItems items) values := by
      rw [freezeItems_eq, mapM_ok_iff]
      exact forall₂_congr (fun item kept => item_ok_iff items item (List.mem_of_mem_filter kept)) _
    rw [freeze]
    constructor
    · intro frozen
      obtain ⟨values, inside, rfl⟩ := ok_of_map frozen
      exact .array ((each values).mp inside)
    · rintro ⟨⟩
      rename_i inner
      rw [(each _).mpr inner]
      rfl
  | .object members, value => by
    -- a member is frozen under its name, so names and values are aligned separately
    have each (entries : List (String × Value)) : freezeMembers members = .ok entries ↔
        entries.map Prod.fst = (keptMembers members).map Prod.fst ∧
          List.Forall₂ Mirrors ((keptMembers members).map Prod.snd) (entries.map Prod.snd) := by
      rw [freezeMembers_eq, mapM_ok_iff, frozenMembers_iff]
      refine and_congr_right fun _ => forall₂_congr (fun document listed => ?_) _
      obtain ⟨member, kept, rfl⟩ := List.mem_map.mp listed
      exact member_ok_iff members member (List.mem_of_mem_filter kept)
    rw [freeze]
    constructor
    · intro frozen
      obtain ⟨entries, inside, rfl⟩ := ok_of_map frozen
      obtain ⟨names, inner⟩ := (each entries).mp inside
      exact .object names inner
    · rintro ⟨⟩
      rename_i names inner
      rw [(each _).mpr ⟨names, inner⟩]
      rfl

/-- The values of each item are those that mirror it. -/
theorem item_ok_iff : ∀ (items : List Json), ∀ item ∈ items, ∀ value,
    freeze item = .ok value ↔ Mirrors item value
  | [], _, member => absurd member List.not_mem_nil
  | first :: items, item, member => by
    rcases List.mem_cons.mp member with same | later
    · rw [same]
      exact freeze_ok_iff first
    · exact item_ok_iff items item later

/-- The values of each member are those that mirror it. -/
theorem member_ok_iff : ∀ (members : List (String × Json)), ∀ member ∈ members, ∀ value,
    freeze member.2 = .ok value ↔ Mirrors member.2 value
  | [], _, listed => absurd listed List.not_mem_nil
  | (_, document) :: members, member, listed => by
    rcases List.mem_cons.mp listed with same | later
    · rw [same]
      exact freeze_ok_iff document
    · exact member_ok_iff members member later

end

/-! ### Documents without nulls -/

/-- Only null becomes null. -/
theorem withoutNulls_ne_null {document : Json} (notNull : document ≠ .null) :
    document.withoutNulls ≠ .null := by
  cases document <;> simp_all [withoutNulls]

mutual

/-- A document without its nulls has no null unless it is one. -/
theorem nullFree_withoutNulls : ∀ document : Json, document ≠ .null →
    document.withoutNulls.NullFree
  | .null, notNull => absurd rfl notNull
  | .bool truth, _ => .bool truth
  | .int whole, _ => .int whole
  | .double real, _ => .double real
  | .string content, _ => .string content
  | .array items, _ => .array (nullFree_itemsWithoutNulls items)
  | .object members, _ => .object (nullFree_membersWithoutNulls members)

/-- Items without nulls have none. -/
theorem nullFree_itemsWithoutNulls : ∀ items : List Json,
    ∀ item ∈ itemsWithoutNulls items, item.NullFree
  | [], _, member => absurd member List.not_mem_nil
  | item :: items, other, member => by
    by_cases own : item = .null
    · subst own
      exact nullFree_itemsWithoutNulls items other (by simpa [itemsWithoutNulls] using member)
    · rw [itemsWithoutNulls] at member
      · rcases List.mem_cons.mp member with rfl | later
        · exact nullFree_withoutNulls item own
        · exact nullFree_itemsWithoutNulls items other later
      · exact own

/-- Members without nulls have none. -/
theorem nullFree_membersWithoutNulls : ∀ members : List (String × Json),
    ∀ member ∈ membersWithoutNulls members, member.2.NullFree
  | [], _, listed => absurd listed List.not_mem_nil
  | (name, document) :: members, other, listed => by
    by_cases own : document = .null
    · subst own
      exact nullFree_membersWithoutNulls members other
        (by simpa [membersWithoutNulls] using listed)
    · rw [membersWithoutNulls] at listed
      · rcases List.mem_cons.mp listed with rfl | later
        · exact nullFree_withoutNulls document own
        · exact nullFree_membersWithoutNulls members other later
      · exact own

end

mutual

/-- The value of a document is that of the document without its nulls. -/
theorem freeze_withoutNulls : ∀ document : Json, freeze document.withoutNulls = freeze document
  | .null | .bool _ | .int _ | .double _ | .string _ => rfl
  | .array items => by
    rw [withoutNulls, freeze, freeze, freezeItems_withoutNulls items]
  | .object members => by
    rw [withoutNulls, freeze, freeze, freezeMembers_withoutNulls members]

/-- The values of items are those of the items without nulls. -/
theorem freezeItems_withoutNulls : ∀ items : List Json,
    freezeItems (itemsWithoutNulls items) = freezeItems items
  | [] => rfl
  | item :: items => by
    by_cases own : item = .null
    · subst own
      simpa [itemsWithoutNulls, freezeItems] using freezeItems_withoutNulls items
    · rw [itemsWithoutNulls, freezeItems, freezeItems, freeze_withoutNulls item,
        freezeItems_withoutNulls items]
      · exact own
      · exact withoutNulls_ne_null own
      · exact own

/-- The values of members are those of the members without nulls. -/
theorem freezeMembers_withoutNulls : ∀ members : List (String × Json),
    freezeMembers (membersWithoutNulls members) = freezeMembers members
  | [] => rfl
  | (name, document) :: members => by
    by_cases own : document = .null
    · subst own
      simpa [membersWithoutNulls, freezeMembers] using freezeMembers_withoutNulls members
    · rw [membersWithoutNulls, freezeMembers, freezeMembers, freeze_withoutNulls document,
        freezeMembers_withoutNulls members]
      · exact own
      · exact withoutNulls_ne_null own
      · exact own

end

/-! ### Attributes -/

/-- Nothing is kept of items exactly when all of them are null. -/
theorem keptItems_eq_nil_iff (items : List Json) :
    keptItems items = [] ↔ ∀ item ∈ items, item = .null := by
  simp [keptItems, isNull_iff]

/-- Nothing is kept of members exactly when all of them are null. -/
theorem keptMembers_eq_nil_iff (members : List (String × Json)) :
    keptMembers members = [] ↔ ∀ member ∈ members, member.2 = .null := by
  simp [keptMembers, isNull_iff]

/-- The value of a document is the empty list when the document is a list of nulls. -/
theorem freeze_eq_emptyList_iff (document : Json) : freeze document = .ok (.list []) ↔
    ∃ items, document = .array items ∧ ∀ item ∈ items, item = .null := by
  rw [freeze_ok_iff]
  constructor
  · rintro ⟨⟩
    rename_i items inner
    exact ⟨items, rfl, (keptItems_eq_nil_iff items).mp (List.forall₂_nil_right_iff.mp inner)⟩
  · rintro ⟨items, rfl, nulls⟩
    apply Mirrors.array
    rw [(keptItems_eq_nil_iff items).mpr nulls]
    exact .nil

/-- The value of a document is the empty map when the document is an object whose members are
null. -/
theorem freeze_eq_emptyMap_iff (document : Json) : freeze document = .ok (.map []) ↔
    ∃ members, document = .object members ∧ ∀ member ∈ members, member.2 = .null := by
  rw [freeze_ok_iff]
  constructor
  · rintro ⟨⟩
    rename_i members names _
    exact ⟨members, rfl, (keptMembers_eq_nil_iff members).mp (List.map_eq_nil_iff.mp names.symm)⟩
  · rintro ⟨members, rfl, nulls⟩
    have kept := (keptMembers_eq_nil_iff members).mpr nulls
    apply Mirrors.object
    · rw [kept]
      rfl
    · rw [kept]
      exact .nil

/-- A member is kept when it is listed and not null. -/
theorem mem_keptMembers_iff {members : List (String × Json)} {member : String × Json} :
    member ∈ keptMembers members ↔ member ∈ members ∧ member.2 ≠ .null := by
  simp [keptMembers, ← isNull_iff]

/-- Members have values exactly when each of them that is not null has one. -/
theorem freezeMembers_succeeds_iff (members : List (String × Json)) :
    (∃ entries, freezeMembers members = .ok entries) ↔
      ∀ member ∈ members, member.2 ≠ .null → ∃ value, freeze member.2 = .ok value := by
  rw [freezeMembers_eq]
  constructor
  · rintro ⟨entries, done⟩ member listed notNull
    obtain ⟨entry, _, same⟩ := result_of_mapM done (mem_keptMembers_iff.mpr ⟨listed, notNull⟩)
    obtain ⟨value, frozen, _⟩ := ok_of_map same
    exact ⟨value, frozen⟩
  · intro each
    apply ok_of_not_fails
    rw [fails_mapM]
    rintro ⟨member, kept, failed⟩
    obtain ⟨listed, notNull⟩ := mem_keptMembers_iff.mp kept
    obtain ⟨value, frozen⟩ := each member listed notNull
    rw [frozen] at failed
    exact not_fails_ok _ ((fails_map _ _).mp failed)

/-- The entries made of members are the values of the members, under their names. -/
theorem mem_freezeMembers_iff {members : List (String × Json)} {entries : List (String × Value)}
    (done : freezeMembers members = .ok entries) {name : String} {value : Value} :
    (name, value) ∈ entries ↔
      ∃ document, (name, document) ∈ members ∧ freeze document = .ok value := by
  rw [freezeMembers_eq] at done
  constructor
  · intro held
    obtain ⟨⟨other, document⟩, kept, same⟩ := exists_of_mapM done held
    obtain ⟨found, frozen, pair⟩ := ok_of_map same
    cases pair
    exact ⟨document, List.mem_of_mem_filter kept, frozen⟩
  · rintro ⟨document, listed, frozen⟩
    have notNull : document ≠ .null := by
      rintro rfl
      cases frozen
    obtain ⟨entry, held, same⟩ := result_of_mapM done (mem_keptMembers_iff.mpr ⟨listed, notNull⟩)
    rw [frozen] at same
    cases same
    exact held

/-- What is frozen of attributes tells apart what is not there and what is empty. A name is there
exactly when its attribute is and is not null, with the value of the attribute; it has an empty list
or map exactly when its attribute holds nothing but nulls. The names keep their order. -/
structure FrozenApart (attributes : List (String × Json)) (frozen : List (String × Value)) :
    Prop where
  names : frozen.map Prod.fst = (keptMembers attributes).map Prod.fst
  present : ∀ name value, frozen.lookup name = some value ↔
    ∃ document, attributes.lookup name = some document ∧ freeze document = .ok value
  absent : ∀ name, frozen.lookup name = none ↔
    attributes.lookup name = none ∨ attributes.lookup name = some .null
  emptyList : ∀ name, frozen.lookup name = some (.list []) ↔
    ∃ items, attributes.lookup name = some (.array items) ∧ ∀ item ∈ items, item = .null
  emptyMap : ∀ name, frozen.lookup name = some (.map []) ↔
    ∃ members, attributes.lookup name = some (.object members) ∧
      ∀ member ∈ members, member.2 = .null

/-- What is frozen of attributes with different names tells apart what is not there and what is
empty. -/
theorem frozenApart {attributes : List (String × Json)} {frozen : List (String × Value)}
    (distinct : (attributes.map Prod.fst).Nodup) (done : freezeMembers attributes = .ok frozen) :
    FrozenApart attributes frozen := by
  have names : frozen.map Prod.fst = (keptMembers attributes).map Prod.fst := by
    have each := done
    rw [freezeMembers_eq, mapM_ok_iff, frozenMembers_iff] at each
    exact each.1
  have frozenDistinct : (frozen.map Prod.fst).Nodup := by
    rw [names]
    exact distinct.sublist (List.filter_sublist.map Prod.fst)
  have present (name : String) (value : Value) : frozen.lookup name = some value ↔
      ∃ document, attributes.lookup name = some document ∧ freeze document = .ok value := by
    simp only [lookup_eq_some_iff_mem frozenDistinct, lookup_eq_some_iff_mem distinct,
      mem_freezeMembers_iff done]
  refine ⟨names, present, fun name => ?_, fun name => ?_, fun name => ?_⟩
  · simp only [Option.eq_none_iff_forall_ne_some (o := frozen.lookup name), ne_eq, present]
    cases listed : attributes.lookup name with
    | none => simp
    | some document =>
      constructor
      · intro unfound
        -- every attribute that is not null has a value, and it would be found
        by_contra neither
        have notNull : document ≠ .null := fun isNull => neither (.inr (congrArg some isNull))
        have succeeds := (freezeMembers_succeeds_iff attributes).mp ⟨frozen, done⟩
        obtain ⟨value, found⟩ := succeeds (name, document) (mem_of_lookup listed) notNull
        exact unfound value ⟨document, rfl, found⟩
      · rintro (isNone | isNull) value ⟨other, same, found⟩
        · cases isNone
        · rw [← Option.some.inj same, Option.some.inj isNull] at found
          cases found
  · simp only [present, freeze_eq_emptyList_iff]
    constructor
    · rintro ⟨_, listed, items, rfl, nulls⟩
      exact ⟨items, listed, nulls⟩
    · rintro ⟨items, listed, nulls⟩
      exact ⟨_, listed, items, rfl, nulls⟩
  · simp only [present, freeze_eq_emptyMap_iff]
    constructor
    · rintro ⟨_, listed, members, rfl, nulls⟩
      exact ⟨members, listed, nulls⟩
    · rintro ⟨members, listed, nulls⟩
      exact ⟨_, listed, members, rfl, nulls⟩

/-! ### The main statement -/

/-- Freezing does not see nulls. A document has a value exactly when it is not null and every
integer that stands in it lies in the range of doubles. Its value is that of the document without
its nulls, in which none is left, and mirrors it: what is not null is there, in order and under its
name. The value of a value is the value itself. Attributes with different names are frozen one by
one, which tells apart what is not there and what is empty, and they stay as they are when they are
frozen again. -/
theorem freezing_erases_nulls :
    (∀ document : Json,
      ((∃ value, freeze document = .ok value) ↔
        document ≠ .null ∧ ∀ whole, document.Reaches whole → Double.InRange whole) ∧
      freeze document.withoutNulls = freeze document ∧
      (document ≠ .null → document.withoutNulls.NullFree) ∧
      ∀ value, (freeze document = .ok value ↔ Mirrors document value) ∧
        (freeze document = .ok value → freeze value.document = .ok value)) ∧
    ∀ attributes : List (String × Json), (attributes.map Prod.fst).Nodup →
      ((∃ frozen, freezeMembers attributes = .ok frozen) ↔
        ∀ member ∈ attributes, member.2 ≠ .null → ∃ value, freeze member.2 = .ok value) ∧
      ∀ frozen, freezeMembers attributes = .ok frozen → FrozenApart attributes frozen ∧
        freezeMembers (memberDocuments frozen) = .ok frozen := by
  constructor
  · intro document
    refine ⟨freeze_succeeds_iff document, freeze_withoutNulls document,
      nullFree_withoutNulls document, ?_⟩
    exact fun value => ⟨freeze_ok_iff document value, fun _ => freeze_document value⟩
  · intro attributes distinct
    refine ⟨freezeMembers_succeeds_iff attributes, ?_⟩
    exact fun frozen done => ⟨frozenApart distinct done, freezeMembers_memberDocuments frozen⟩

/-- Attributes with an attribute that is null, one that is a map of a null, and one with nulls
between its items and inside one of them. -/
def gappyAttributes : List (String × Json) :=
  [("kms_key", .null), ("tags", .object [("Owner", .null)]),
    ("ports", .array [.null, .int 443, .array [.null], .bool true])]

/-- What is frozen of them. -/
def gappyFrozen : List (String × Value) :=
  [("tags", .map []),
    ("ports", .list [.number ((Double.ofInt? 443).getD .zero), .list [], .bool true])]

/-- The attribute that is null is gone, and the map of a null is an empty map. -/
theorem gappy_attributes_frozen :
    (gappyAttributes.map Prod.fst).Nodup ∧ freezeMembers gappyAttributes = .ok gappyFrozen ∧
      FrozenApart gappyAttributes gappyFrozen ∧ gappyFrozen.lookup "kms_key" = none ∧
      gappyFrozen.lookup "tags" = some (.map []) := by
  have distinct : (gappyAttributes.map Prod.fst).Nodup := by decide
  have done : freezeMembers gappyAttributes = .ok gappyFrozen := by rfl
  obtain ⟨apart, _⟩ := (freezing_erases_nulls.2 gappyAttributes distinct).2 gappyFrozen done
  refine ⟨distinct, done, apart, ?_, ?_⟩
  · exact (apart.absent "kms_key").mpr (.inr rfl)
  · exact (apart.emptyMap "tags").mpr ⟨_, rfl, by simp⟩

end Value

end InfraReview
