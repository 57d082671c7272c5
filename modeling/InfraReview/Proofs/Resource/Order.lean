import InfraReview.Proofs.Lookup
import InfraReview.Proofs.Resource.Body

/-!
# The order of names does not count

A plan lists the names of an object in an order of its own. Two bodies are rearrangements of
each other when, at every depth, the names of bodies and of objects stand in different orders
with the same things under them; the order of items and of the blocks under one name is kept.

Entities are compared by names. So the contents of a body and those of a rearrangement of it
are the same, whatever lines their blocks have.
-/

namespace InfraReview.Resource

mutual

/-- A constant is another one with the names of its objects in a different order. -/
def Constant.Rearranges : Constant → Constant → Prop
  | .list items, other => ∃ others, other = .list others ∧ ItemsRearrange items others
  | .object members, other => ∃ others, other = .object others ∧ MembersRearrange members others
  | constant, other => other = constant

/-- The items of a list are those of another one, each with its names rearranged. -/
def ItemsRearrange : List Constant → List Constant → Prop
  | [], others => others = []
  | item :: items, others =>
    ∃ other rest, others = other :: rest ∧ Constant.Rearranges item other ∧
      ItemsRearrange items rest

/-- The members of an object are those of another one in a different order. -/
def MembersRearrange : List (String × Constant) → List (String × Constant) → Prop
  | [], others => others = []
  | (name, member) :: members, others =>
    ∃ before other after, others = before ++ (name, other) :: after ∧
      Constant.Rearranges member other ∧ MembersRearrange members (before ++ after)

end

mutual

/-- A body is another one with its names in a different order; its lines are its own. -/
def Body.Rearranges : Body → Body → Prop
  | .mk _ _ entries, other =>
    ∃ firstLine lastLine others, other = .mk firstLine lastLine others ∧
      EntriesRearrange entries others
termination_by structural body => body

/-- Entries are those of another body in a different order. -/
def EntriesRearrange : List (String × Entry) → List (String × Entry) → Prop
  | [], others => others = []
  | (name, entry) :: entries, others =>
    ∃ before other after, others = before ++ (name, other) :: after ∧
      Entry.Rearranges entry other ∧ EntriesRearrange entries (before ++ after)
termination_by structural entries => entries

/-- An entry is another one with the names in it in a different order. -/
def Entry.Rearranges : Entry → Entry → Prop
  | .setting constant, other => ∃ set, other = .setting set ∧ constant.Rearranges set
  | .blocks bodies, other => ∃ others, other = .blocks others ∧ BodiesRearrange bodies others
termination_by structural entry => entry

/-- The bodies of a name are those of another one, each with its names rearranged. -/
def BodiesRearrange : List Body → List Body → Prop
  | [], others => others = []
  | body :: bodies, others =>
    ∃ other rest, others = other :: rest ∧ Body.Rearranges body other ∧
      BodiesRearrange bodies rest
termination_by structural bodies => bodies

end

mutual

/-- A constant is a rearrangement of itself. -/
theorem Constant.rearranges_self : ∀ constant : Constant, constant.Rearranges constant
  | .list items => ⟨items, rfl, itemsRearrange_self items⟩
  | .object members => ⟨members, rfl, membersRearrange_self members⟩
  | .null | .bool _ | .int _ | .real _ _ | .text _ => rfl

/-- Items are rearranged to themselves. -/
theorem itemsRearrange_self : ∀ items : List Constant, ItemsRearrange items items
  | [] => rfl
  | item :: items => ⟨item, items, rfl, item.rearranges_self, itemsRearrange_self items⟩

/-- Members are rearranged to themselves. -/
theorem membersRearrange_self : ∀ members : List (String × Constant),
    MembersRearrange members members
  | [] => rfl
  | (_, member) :: members =>
    ⟨[], member, members, rfl, member.rearranges_self, membersRearrange_self members⟩

end

mutual

/-- A body is a rearrangement of itself. -/
theorem Body.rearranges_self : ∀ body : Body, body.Rearranges body
  | .mk firstLine lastLine entries =>
    ⟨firstLine, lastLine, entries, rfl, entriesRearrange_self entries⟩

/-- Entries are rearranged to themselves. -/
theorem entriesRearrange_self : ∀ entries : List (String × Entry),
    EntriesRearrange entries entries
  | [] => rfl
  | (_, entry) :: entries =>
    ⟨[], entry, entries, rfl, entry.rearranges_self, entriesRearrange_self entries⟩

/-- An entry is a rearrangement of itself. -/
theorem Entry.rearranges_self : ∀ entry : Entry, entry.Rearranges entry
  | .setting constant => ⟨constant, rfl, constant.rearranges_self⟩
  | .blocks bodies => ⟨bodies, rfl, bodiesRearrange_self bodies⟩

/-- The bodies of a name are rearranged to themselves. -/
theorem bodiesRearrange_self : ∀ bodies : List Body, BodiesRearrange bodies bodies
  | [] => rfl
  | body :: bodies => ⟨body, bodies, rfl, body.rearranges_self, bodiesRearrange_self bodies⟩

end

/-! ### Tables in different orders -/

section Tables

variable {κ α β : Type} {Related : α → β → Prop}

/-- A table has as many entries as another one, and each has a related one there under its
key. -/
def TableRearranges (Related : α → β → Prop) (left : List (κ × α)) (right : List (κ × β)) :
    Prop :=
  left.length = right.length ∧
    ∀ entry ∈ left, ∃ other, (entry.1, other) ∈ right ∧ Related entry.2 other

/-- Tables without entries. -/
theorem TableRearranges.empty : TableRearranges Related ([] : List (κ × α)) ([] : List (κ × β)) :=
  ⟨rfl, by simp⟩

/-- A related entry under the same key. -/
theorem TableRearranges.single {key : κ} {value : α} {other : β} (related : Related value other) :
    TableRearranges Related [(key, value)] [(key, other)] :=
  ⟨rfl, by simpa using related⟩

/-- Related entries may be put first on the left and anywhere on the right. -/
theorem TableRearranges.place {own left : List (κ × α)} {others before after : List (κ × β)}
    (first : TableRearranges Related own others)
    (rest : TableRearranges Related left (before ++ after)) :
    TableRearranges Related (own ++ left) (before ++ (others ++ after)) := by
  obtain ⟨ownLength, ownPartners⟩ := first
  obtain ⟨length, partners⟩ := rest
  constructor
  · simp only [List.length_append] at length ⊢
    omega
  · intro entry member
    rcases List.mem_append.mp member with inOwn | inLeft
    · obtain ⟨partner, found, related⟩ := ownPartners entry inOwn
      exact ⟨partner, by simp [found], related⟩
    · obtain ⟨partner, found, related⟩ := partners entry inLeft
      refine ⟨partner, ?_, related⟩
      rcases List.mem_append.mp found with early | late
      · simp [early]
      · simp [late]

end Tables

/-- Two values mean the same. -/
def SameValue (value other : Value) : Prop := value.same other = true

/-- Two lists of blocks mean the same, lines aside. -/
def SameBlocks (blocks others : List Block) : Prop := sameBlockLists blocks others = true

/-- Attributes in another order are the same map. -/
theorem same_map_of_rearranges {left right : Attributes}
    (rearranges : TableRearranges SameValue left right)
    (distinct : (right.map (·.1)).Nodup) : Value.same (.map left) (.map right) = true := by
  obtain ⟨length, partners⟩ := rearranges
  have entries : Value.sameEntries left right = true := by
    clear length
    induction left with
    | nil => simp [Value.sameEntries]
    | cons entry left inductionHypothesis =>
      obtain ⟨name, value⟩ := entry
      obtain ⟨first, others⟩ := List.forall_mem_cons.mp partners
      obtain ⟨partner, found, same⟩ := first
      have equal : value.same partner = true := same
      simp [Value.sameEntries, lookup_of_mem distinct found, equal, inductionHypothesis others]
  simp [Value.same, length, entries]

/-- A key is the same as a text only when it is that text. -/
theorem same_text (key : Key) (name : String) : key.same (.text name) = (key == .text name) := by
  cases key with
  | double value =>
    simp only [Key.same, Key.integer?]
    split <;> simp_all
  | _ => simp [Key.same, Key.integer?]

/-- The first entry whose key is the same as a text is the one that is looked up. -/
theorem find_same_text (blocks : NestedBlocks) (name : String) :
    (blocks.find? fun entry => entry.1.same (.text name)) =
      (blocks.lookup (.text name)).map fun found => (.text name, found) := by
  induction blocks with
  | nil => rfl
  | cons entry blocks inductionHypothesis =>
    obtain ⟨key, found⟩ := entry
    by_cases same : key = .text name
    · simp [same, same_text]
    · have skipped : (Key.text name == key) = false := by simpa using Ne.symm same
      simpa [List.find?_cons, List.lookup_cons, same_text, same, skipped] using
        inductionHypothesis

/-- Blocks in another order are the same table. -/
theorem sameBlockTables_of_rearranges {left right : NestedBlocks}
    (rearranges : TableRearranges SameBlocks left right)
    (texts : ∀ entry ∈ left, ∃ name, entry.1 = .text name)
    (distinct : (right.map (·.1)).Nodup) : sameBlockTables left right = true := by
  have partners := rearranges.2
  clear rearranges
  induction left with
  | nil => simp [sameBlockTables]
  | cons entry left inductionHypothesis =>
    obtain ⟨key, blocks⟩ := entry
    obtain ⟨first, others⟩ := List.forall_mem_cons.mp partners
    obtain ⟨⟨name, same⟩, otherTexts⟩ := List.forall_mem_cons.mp texts
    obtain rfl : key = .text name := same
    obtain ⟨partner, found, related⟩ := first
    have located : right.find? (fun entry => entry.1.same (.text name)) =
        some (.text name, partner) := by
      rw [find_same_text, lookup_of_mem distinct found]
      rfl
    have equal : sameBlockLists blocks partner = true := related
    simp [sameBlockTables, located, equal, inductionHypothesis otherTexts others]

/-! ### Constants -/

/-- A member among others is well formed together with them. -/
theorem membersWellFormed_middle {before after : List (String × Constant)} {name : String}
    {member : Constant}
    (wellFormed : Constant.MembersWellFormed (before ++ (name, member) :: after)) :
    PlainName name ∧ member.WellFormed ∧ Constant.MembersWellFormed (before ++ after) := by
  induction before with
  | nil => exact wellFormed
  | cons first before inductionHypothesis =>
    obtain ⟨plain, own, rest⟩ := wellFormed
    obtain ⟨middlePlain, middle, others⟩ := inductionHypothesis rest
    exact ⟨middlePlain, middle, plain, own, others⟩

/-- Members in another order have the same names. -/
theorem MembersRearrange.names : ∀ {members others : List (String × Constant)},
    MembersRearrange members others → (members.map (·.1)).Perm (others.map (·.1))
  | [], _, rearrange => by
    obtain rfl : _ = [] := rearrange
    exact .nil
  | (name, member) :: members, _, ⟨before, other, after, rfl, _, rest⟩ => by
    have names := rest.names
    rw [List.map_append] at names
    simpa using (names.cons name).trans List.perm_middle.symm

mutual

/-- A rearrangement of a well-formed constant is well formed. -/
theorem wellFormed_of_rearranges : ∀ (constant other : Constant),
    constant.Rearranges other → other.WellFormed → constant.WellFormed
  | .list items, _, ⟨others, rfl, rearrange⟩, wellFormed =>
    itemsWellFormed_of_rearrange items others rearrange wellFormed
  | .object members, _, ⟨others, rfl, rearrange⟩, ⟨distinct, wellFormed⟩ =>
    ⟨rearrange.names.nodup_iff.mpr distinct,
      membersWellFormed_of_rearrange members others rearrange wellFormed⟩
  | .null, _, rfl, wellFormed | .bool _, _, rfl, wellFormed | .int _, _, rfl, wellFormed
  | .real _ _, _, rfl, wellFormed | .text _, _, rfl, wellFormed => wellFormed

/-- Rearranged items of a list are well formed. -/
theorem itemsWellFormed_of_rearrange : ∀ (items others : List Constant),
    ItemsRearrange items others → Constant.ItemsWellFormed others →
    Constant.ItemsWellFormed items
  | [], _, _, _ => trivial
  | item :: items, _, ⟨other, others, rfl, first, rest⟩, ⟨wellFormed, othersWellFormed⟩ =>
    ⟨wellFormed_of_rearranges item other first wellFormed,
      itemsWellFormed_of_rearrange items others rest othersWellFormed⟩

/-- Rearranged members of an object are well formed. -/
theorem membersWellFormed_of_rearrange : ∀ (members others : List (String × Constant)),
    MembersRearrange members others → Constant.MembersWellFormed others →
    Constant.MembersWellFormed members
  | [], _, _, _ => trivial
  | (name, member) :: members, _, ⟨before, other, after, rfl, first, rest⟩, wellFormed => by
    obtain ⟨plain, own, others⟩ := membersWellFormed_middle wellFormed
    exact ⟨plain, wellFormed_of_rearranges member other first own,
      membersWellFormed_of_rearrange members (before ++ after) rest others⟩

end

/-- A double is the same as itself. -/
theorem double_same (value : Double) : value.same value = true := by
  cases value <;> simp [Double.same]

/-- The values of members on both sides of a place. -/
theorem memberValues_append (first second : List (String × Constant)) :
    Constant.memberValues (first ++ second) =
      Constant.memberValues first ++ Constant.memberValues second := by
  induction first with
  | nil => rfl
  | cons member first inductionHypothesis =>
    obtain ⟨name, constant⟩ := member
    simp only [List.cons_append, Constant.memberValues, inductionHypothesis]
    split <;> simp

/-- The names of the values of members are names of the members, in order. -/
theorem memberValues_names (members : List (String × Constant)) :
    ((Constant.memberValues members).map (·.1)).Sublist (members.map (·.1)) := by
  induction members with
  | nil => exact .slnil
  | cons member members inductionHypothesis =>
    obtain ⟨name, constant⟩ := member
    rw [Constant.memberValues]
    split
    · exact inductionHypothesis.cons_cons name
    · exact inductionHypothesis.cons name

mutual

/-- A rearrangement of a constant has the same value. -/
theorem same_of_rearranges : ∀ (constant other : Constant), constant.Rearranges other →
    other.WellFormed → ∀ value, constant.value? = some value →
    ∃ partner, other.value? = some partner ∧ SameValue value partner
  | .list items, _, ⟨others, rfl, rearrange⟩, wellFormed, _, found => by
    obtain rfl := by simpa [Constant.value?] using found
    refine ⟨_, by rw [Constant.value?], ?_⟩
    simpa [SameValue, Value.same] using sameItems_of_rearrange items others rearrange wellFormed
  | .object members, _, ⟨others, rfl, rearrange⟩, ⟨distinct, wellFormed⟩, _, found => by
    obtain rfl := by simpa [Constant.value?] using found
    refine ⟨_, by rw [Constant.value?], ?_⟩
    exact same_map_of_rearranges
      (memberValues_of_rearrange members others rearrange wellFormed)
      (distinct.sublist (memberValues_names others))
  | .null, _, rfl, _, _, found => by simp [Constant.value?] at found
  | .bool truth, _, rfl, _, _, found => by
    obtain rfl := by simpa [Constant.value?] using found
    exact ⟨_, by rw [Constant.value?], by simp [SameValue, Value.same]⟩
  | .int whole, _, rfl, _, _, found => by
    obtain ⟨nearest, rounded, rfl⟩ :=
      Option.map_eq_some_iff.mp (by simpa [Constant.value?] using found)
    exact ⟨_, found, by simp [SameValue, Value.same, double_same]⟩
  | .real negative magnitude, _, rfl, _, _, found => by
    obtain rfl := by simpa [Constant.value?] using found
    exact ⟨_, by rw [Constant.value?], by simp [SameValue, Value.same, double_same]⟩
  | .text content, _, rfl, _, _, found => by
    obtain rfl := by simpa [Constant.value?] using found
    exact ⟨_, by rw [Constant.value?], by simp [SameValue, Value.same]⟩

/-- Rearranged items of a list have the same values. -/
theorem sameItems_of_rearrange : ∀ (items others : List Constant),
    ItemsRearrange items others → Constant.ItemsWellFormed others →
    Value.sameItems (Constant.itemValues items) (Constant.itemValues others) = true
  | [], _, rfl, _ => by simp [Constant.itemValues, Value.sameItems]
  | item :: items, _, ⟨other, others, rfl, first, rest⟩, ⟨wellFormed, othersWellFormed⟩ => by
    have tail := sameItems_of_rearrange items others rest othersWellFormed
    cases found : item.value? with
    | none =>
      have isNull := Constant.value_none (wellFormed_of_rearranges item other first wellFormed)
        found
      subst isNull
      obtain rfl : other = .null := first
      simpa [Constant.itemValues, Constant.value?] using tail
    | some value =>
      obtain ⟨partner, partnerFound, same⟩ :=
        same_of_rearranges item other first wellFormed value found
      have equal : value.same partner = true := same
      simp [Constant.itemValues, found, partnerFound, Value.sameItems, equal, tail]

/-- Rearranged members of an object have the same values in another order. -/
theorem memberValues_of_rearrange : ∀ (members others : List (String × Constant)),
    MembersRearrange members others → Constant.MembersWellFormed others →
    TableRearranges SameValue
      (Constant.memberValues members) (Constant.memberValues others)
  | [], _, rfl, _ => .empty
  | (name, member) :: members, _, ⟨before, other, after, rfl, first, rest⟩, wellFormed => by
    obtain ⟨_, own, othersWellFormed⟩ := membersWellFormed_middle wellFormed
    have tail := memberValues_of_rearrange members (before ++ after) rest othersWellFormed
    rw [memberValues_append] at tail ⊢
    cases found : member.value? with
    | none =>
      have isNull := Constant.value_none (wellFormed_of_rearranges member other first own) found
      subst isNull
      obtain rfl : other = .null := first
      simpa [Constant.memberValues, Constant.value?] using tail
    | some value =>
      obtain ⟨partner, partnerFound, same⟩ :=
        same_of_rearranges member other first own value found
      simpa [Constant.memberValues, found, partnerFound] using
        (TableRearranges.single same).place tail

end

/-- Rearranged constants look like blocks together. -/
theorem isBlockLike_of_rearranges {constant other : Constant}
    (rearranges : constant.Rearranges other) : constant.isBlockLike = other.isBlockLike := by
  have objects : ∀ items others, ItemsRearrange items others →
      items.all Constant.isObject = others.all Constant.isObject := by
    intro items
    induction items with
    | nil =>
      rintro _ rfl
      rfl
    | cons item items inductionHypothesis =>
      rintro _ ⟨partner, others, rfl, first, rest⟩
      have same : item.isObject = partner.isObject := by
        cases item with
        | list => obtain ⟨_, rfl, _⟩ := first; rfl
        | object => obtain ⟨_, rfl, _⟩ := first; rfl
        | _ => obtain rfl := first; rfl
      simp [same, inductionHypothesis others rest]
  cases constant with
  | list items =>
    obtain ⟨others, rfl, rearrange⟩ := rearranges
    exact objects items others rearrange
  | object members =>
    obtain ⟨others, rfl, _⟩ := rearranges
    rfl
  | _ =>
    obtain rfl := rearranges
    rfl

/-! ### Bodies -/

/-- An entry among others is well formed together with them. -/
theorem entriesWellFormed_middle {tree : BlockTree} {before after : List (String × Entry)}
    {name : String} {entry : Entry}
    (wellFormed : EntriesWellFormed tree (before ++ (name, entry) :: after)) :
    PlainName name ∧ entry.WellFormed (tree.child? name) ∧
      EntriesWellFormed tree (before ++ after) := by
  induction before with
  | nil => exact wellFormed
  | cons first before inductionHypothesis =>
    obtain ⟨plain, own, rest⟩ := wellFormed
    obtain ⟨middlePlain, middle, others⟩ := inductionHypothesis rest
    exact ⟨middlePlain, middle, plain, own, others⟩

/-- Entries in another order have the same names. -/
theorem EntriesRearrange.names : ∀ {entries others : List (String × Entry)},
    EntriesRearrange entries others → (entries.map (·.1)).Perm (others.map (·.1))
  | [], _, rearrange => by
    obtain rfl : _ = [] := rearrange
    exact .nil
  | (name, entry) :: entries, _, ⟨before, other, after, rfl, _, rest⟩ => by
    have names := rest.names
    rw [List.map_append] at names
    simpa using (names.cons name).trans List.perm_middle.symm

mutual

/-- A rearrangement of a well-formed body is well formed. -/
theorem bodyWellFormed_of_rearranges : ∀ (body other : Body) (tree : BlockTree),
    body.Rearranges other → other.WellFormed tree → body.WellFormed tree
  | .mk _ _ entries, _, tree, ⟨_, _, others, rfl, rearrange⟩, ⟨distinct, wellFormed⟩ =>
    ⟨rearrange.names.nodup_iff.mpr distinct,
      entriesWellFormed_of_rearrange entries others tree rearrange wellFormed⟩

/-- Rearranged entries are well formed. -/
theorem entriesWellFormed_of_rearrange : ∀ (entries others : List (String × Entry))
    (tree : BlockTree), EntriesRearrange entries others → EntriesWellFormed tree others →
    EntriesWellFormed tree entries
  | [], _, _, _, _ => trivial
  | (name, entry) :: entries, _, tree, ⟨before, other, after, rfl, first, rest⟩, wellFormed => by
    obtain ⟨plain, own, others⟩ := entriesWellFormed_middle wellFormed
    exact ⟨plain, entryWellFormed_of_rearranges entry other _ first own,
      entriesWellFormed_of_rearrange entries (before ++ after) tree rest others⟩

/-- A rearrangement of a well-formed entry is well formed. -/
theorem entryWellFormed_of_rearranges : ∀ (entry other : Entry) (place : Option BlockTree),
    entry.Rearranges other → other.WellFormed place → entry.WellFormed place
  | .setting constant, _, _, ⟨other, rfl, rearranges⟩, ⟨wellFormed, apart⟩ =>
    ⟨wellFormed_of_rearranges constant other rearranges wellFormed,
      isBlockLike_of_rearranges rearranges ▸ apart⟩
  | .blocks bodies, _, _, ⟨others, rfl, rearrange⟩, ⟨tree, place, wellFormed⟩ =>
    ⟨tree, place, bodiesWellFormed_of_rearrange bodies others tree rearrange wellFormed⟩

/-- Rearranged bodies of a name are well formed. -/
theorem bodiesWellFormed_of_rearrange : ∀ (bodies others : List Body) (tree : BlockTree),
    BodiesRearrange bodies others → BodiesWellFormed tree others → BodiesWellFormed tree bodies
  | [], _, _, _, _ => trivial
  | body :: bodies, _, tree, ⟨other, others, rfl, first, rest⟩,
      ⟨wellFormed, othersWellFormed⟩ =>
    ⟨bodyWellFormed_of_rearranges body other tree first wellFormed,
      bodiesWellFormed_of_rearrange bodies others tree rest othersWellFormed⟩

end

/-- Contents hold the same attributes and blocks, each table in an order of its own. -/
def SameContents (left right : Attributes × NestedBlocks) : Prop :=
  TableRearranges SameValue left.1 right.1 ∧ TableRearranges SameBlocks left.2 right.2

/-- The contents of entries on both sides of a place. -/
theorem entriesContents_append (line : Int → Int) (first second : List (String × Entry)) :
    entriesContents line (first ++ second) =
      ((entriesContents line first).1 ++ (entriesContents line second).1,
        (entriesContents line first).2 ++ (entriesContents line second).2) := by
  induction first with
  | nil => simp [entriesContents]
  | cons entry first inductionHypothesis =>
    obtain ⟨name, entry⟩ := entry
    simp [entriesContents, inductionHypothesis]

/-- The names of attributes and of blocks are names of the entries, in order. -/
theorem entriesContents_names (line : Int → Int) (entries : List (String × Entry)) :
    ((entriesContents line entries).1.map (·.1)).Sublist (entries.map (·.1)) ∧
      ((entriesContents line entries).2.map (·.1)).Sublist
        (entries.map fun entry => Key.text entry.1) := by
  induction entries with
  | nil => simp [entriesContents]
  | cons entry entries inductionHypothesis =>
    obtain ⟨name, entry⟩ := entry
    obtain ⟨attributes, blocks⟩ := inductionHypothesis
    cases entry with
    | setting constant =>
      simp only [entriesContents, Entry.contents, settingAttributes, List.nil_append,
        List.map_cons]
      split
      · exact ⟨attributes.cons_cons name, blocks.cons _⟩
      · exact ⟨attributes.cons name, blocks.cons _⟩
    | blocks bodies =>
      cases bodies with
      | nil => exact ⟨attributes.cons name, blocks.cons _⟩
      | cons body bodies => exact ⟨attributes.cons name, blocks.cons_cons _⟩

/-- The same contents are equal as tables, when the names on the right are different and those
on the left are texts. -/
theorem SameContents.equal {left right : List (String × Entry)} {line otherLine : Int → Int}
    (same : SameContents (entriesContents line left) (entriesContents otherLine right))
    (distinct : (right.map (·.1)).Nodup) :
    Value.same (.map (entriesContents line left).1)
        (.map (entriesContents otherLine right).1) = true ∧
      (entriesContents line left).2.length = (entriesContents otherLine right).2.length ∧
      sameBlockTables (entriesContents line left).2 (entriesContents otherLine right).2 =
        true := by
  obtain ⟨attributes, blocks⟩ := same
  obtain ⟨attributeNames, blockNames⟩ := entriesContents_names otherLine right
  have textNames : (right.map fun entry => Key.text entry.1).Nodup := by
    have mapped := distinct.map (f := Key.text) fun _ _ => Key.text.inj
    rwa [List.map_map] at mapped
  refine ⟨same_map_of_rearranges attributes (distinct.sublist attributeNames), blocks.1, ?_⟩
  refine sameBlockTables_of_rearranges blocks ?_ (textNames.sublist blockNames)
  intro entry member
  have named := (entriesContents_names line left).2.subset (List.mem_map.mpr ⟨_, member, rfl⟩)
  obtain ⟨source, _, same⟩ := List.mem_map.mp named
  exact ⟨source.1, same.symm⟩

/-- A rearranged setting gives the same attribute. -/
theorem settingAttributes_of_rearranges {constant other : Constant} (name : String)
    (rearranges : constant.Rearranges other) (wellFormed : other.WellFormed) :
    TableRearranges SameValue (settingAttributes name constant)
      (settingAttributes name other) := by
  cases found : constant.value? with
  | none =>
    have isNull := Constant.value_none
      (wellFormed_of_rearranges constant other rearranges wellFormed) found
    subst isNull
    obtain rfl : other = .null := rearranges
    rw [settingAttributes, found]
    exact .empty
  | some value =>
    obtain ⟨partner, partnerFound, same⟩ :=
      same_of_rearranges constant other rearranges wellFormed value found
    rw [settingAttributes, settingAttributes, found, partnerFound]
    exact .single same

mutual

/-- A rearrangement of a body has the same contents. -/
theorem bodyContents_of_rearranges (line otherLine : Int → Int) : ∀ (body other : Body)
    (tree : BlockTree), body.Rearranges other → other.WellFormed tree →
    Value.same (.map (body.contents line).1) (.map (other.contents otherLine).1) = true ∧
      (body.contents line).2.length = (other.contents otherLine).2.length ∧
      sameBlockTables (body.contents line).2 (other.contents otherLine).2 = true
  | .mk _ _ entries, _, tree, ⟨_, _, others, rfl, rearrange⟩, ⟨distinct, wellFormed⟩ => by
    rw [Body.contents, Body.contents]
    exact (entriesContents_of_rearrange line otherLine entries others tree rearrange
      wellFormed).equal distinct

/-- Rearranged entries have the same contents. -/
theorem entriesContents_of_rearrange (line otherLine : Int → Int) :
    ∀ (entries others : List (String × Entry)) (tree : BlockTree),
    EntriesRearrange entries others → EntriesWellFormed tree others →
    SameContents (entriesContents line entries) (entriesContents otherLine others)
  | [], _, _, rfl, _ => ⟨.empty, .empty⟩
  | (name, entry) :: entries, _, tree, ⟨before, other, after, rfl, first, rest⟩,
      wellFormed => by
    obtain ⟨_, own, othersWellFormed⟩ := entriesWellFormed_middle wellFormed
    have tail := entriesContents_of_rearrange line otherLine entries (before ++ after) tree rest
      othersWellFormed
    have head := entryContents_of_rearranges line otherLine entry other name _ first own
    rw [entriesContents_append] at tail ⊢
    exact ⟨head.1.place tail.1, head.2.place tail.2⟩

/-- A rearrangement of an entry has the same contents. -/
theorem entryContents_of_rearranges (line otherLine : Int → Int) : ∀ (entry other : Entry)
    (name : String) (place : Option BlockTree), entry.Rearranges other →
    other.WellFormed place →
    SameContents (entry.contents line name) (other.contents otherLine name)
  | .setting constant, _, name, _, ⟨other, rfl, rearranges⟩, ⟨wellFormed, _⟩ =>
    ⟨settingAttributes_of_rearranges name rearranges wellFormed, .empty⟩
  | .blocks [], _, _, _, ⟨_, rfl, rfl⟩, _ => ⟨.empty, .empty⟩
  | .blocks (body :: bodies), _, name, _, ⟨_, rfl, rearrange⟩, ⟨tree, _, wellFormed⟩ => by
    have blocks := bodiesContents_of_rearrange line otherLine (body :: bodies) _ name tree
      rearrange wellFormed
    obtain ⟨other, others, rfl, _⟩ := rearrange
    exact ⟨.empty, .single blocks⟩

/-- Rearranged bodies of a name are the same blocks. -/
theorem bodiesContents_of_rearrange (line otherLine : Int → Int) : ∀ (bodies others : List Body)
    (name : String) (tree : BlockTree), BodiesRearrange bodies others →
    BodiesWellFormed tree others →
    SameBlocks (bodiesContents line name bodies) (bodiesContents otherLine name others)
  | [], _, _, _, rfl, _ => by simp [bodiesContents, SameBlocks, sameBlockLists]
  | body :: bodies, _, name, tree, ⟨other, others, rfl, first, rest⟩,
      ⟨wellFormed, othersWellFormed⟩ => by
    have tail := bodiesContents_of_rearrange line otherLine bodies others name tree rest
      othersWellFormed
    obtain ⟨attributes, length, tables⟩ :=
      bodyContents_of_rearranges line otherLine body other tree first wellFormed
    have types : (Key.text name).same (.text name) = true := by simp [same_text]
    have equal : sameBlockLists (bodiesContents line name bodies)
        (bodiesContents otherLine name others) = true := tail
    simp [SameBlocks, bodiesContents, sameBlockLists, Block.same, types, attributes, length,
      tables, equal]

end

end InfraReview.Resource
