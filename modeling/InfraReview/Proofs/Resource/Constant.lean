import InfraReview.Hcl.Body
import InfraReview.Proofs.Entity.Quoting
import InfraReview.Proofs.Hcl.Search
import InfraReview.Proofs.Hcl.WrappedNumber

/-!
# Constants and their two renderings

A constant is what a declaration may give an attribute without computing anything. A plan
renders it as a JSON document and source text as a source value: there a text and the name of
a member have their escapes and their guards, and a negative number is a wrapped expression.

Both readers give a value for it, in which the nulls inside lists and objects are gone. They
can do so as long as its integers have doubles, and as long as no object in it has a name
twice or a name that marks a body. A plan gives the value itself. Source text decodes the texts
and not the names, so it gives the value with the names in it as they stand between quotes.
-/

namespace InfraReview.Resource

/-- A constant in a declaration. -/
inductive Constant where
  | null
  | bool (truth : Bool)
  | int (whole : Int)
  | real (negative : Bool) (magnitude : Magnitude)
  | text (content : String)
  | list (items : List Constant)
  | object (members : List (String × Constant))

/-- A name that is taken as it stands: it marks no body and is not in quotes. -/
structure PlainName (name : String) : Prop where
  notStart : name ≠ Hcl.startLineKey
  notEnd : name ≠ Hcl.endLineKey
  unquoted : Hcl.Meaning.isQuoted name.toList = false

instance (name : String) : Decidable (PlainName name) :=
  decidable_of_iff
    (name ≠ Hcl.startLineKey ∧ name ≠ Hcl.endLineKey ∧ Hcl.Meaning.isQuoted name.toList = false)
    ⟨fun ⟨notStart, notEnd, unquoted⟩ => ⟨notStart, notEnd, unquoted⟩,
      fun plain => ⟨plain.notStart, plain.notEnd, plain.unquoted⟩⟩

namespace Constant

mutual

/-- A constant in a plan. -/
def toJson : Constant → Json
  | .null => .null
  | .bool truth => .bool truth
  | .int whole => .int whole
  | .real negative magnitude => .double (.finite negative magnitude)
  | .text content => .string content
  | .list items => .array (itemsToJson items)
  | .object members => .object (membersToJson members)

/-- The items of a list in a plan. -/
def itemsToJson : List Constant → List Json
  | [] => []
  | item :: items => toJson item :: itemsToJson items

/-- The members of an object in a plan. -/
def membersToJson : List (String × Constant) → List (String × Json)
  | [] => []
  | (name, member) :: members => (name, toJson member) :: membersToJson members

end

/-- An integer in source text; there is a sign before a negative one. -/
def intTree (whole : Int) : Hcl.Tree :=
  if whole < 0 then .text (Hcl.wrappedNegative (Nat.toDigits 10 whole.natAbs)) else .int whole

/-- A double in source text; there is a sign before a negative one. -/
def realTree (negative : Bool) (magnitude : Magnitude) : Hcl.Tree :=
  if negative then .text (Hcl.wrappedNegative (Double.magnitudeText magnitude))
  else .double (.finite false magnitude)

mutual

/-- A constant in source text. -/
def toTree : Constant → Hcl.Tree
  | .null => .null
  | .bool truth => .bool truth
  | .int whole => intTree whole
  | .real negative magnitude => realTree negative magnitude
  | .text content => .text (Hcl.quotedText content)
  | .list items => .list (itemsToTree items)
  | .object members => .map (membersToTree members)

/-- The items of a list in source text. -/
def itemsToTree : List Constant → List Hcl.Tree
  | [] => []
  | item :: items => toTree item :: itemsToTree items

/-- The entries of an object in source text, with the names as they stand between quotes. -/
def membersToTree : List (String × Constant) → List (Key × Hcl.Tree)
  | [] => []
  | (name, member) :: members =>
    (.text (Hcl.quotedText name), toTree member) :: membersToTree members

end

mutual

/-- The value of a constant; null has none. -/
def value? : Constant → Option Value
  | .null => none
  | .bool truth => some (.bool truth)
  | .int whole => (Double.ofInt? whole).map .number
  | .real negative magnitude => some (.number (.finite negative magnitude))
  | .text content => some (.text content)
  | .list items => some (.list (itemValues items))
  | .object members => some (.map (memberValues members))

/-- The values of the items that are not null. -/
def itemValues : List Constant → List Value
  | [] => []
  | item :: items =>
    match value? item with
    | some value => value :: itemValues items
    | none => itemValues items

/-- The values of the members that are not null, under their names. -/
def memberValues : List (String × Constant) → List (String × Value)
  | [] => []
  | (name, member) :: members =>
    match value? member with
    | some value => (name, value) :: memberValues members
    | none => memberValues members

end

mutual

/-- A constant that both readers take: its integers have doubles, and its objects have plain
names, each one once. -/
def WellFormed : Constant → Prop
  | .int whole => (Double.ofInt? whole).isSome = true
  | .list items => ItemsWellFormed items
  | .object members => (members.map (·.1)).Nodup ∧ MembersWellFormed members
  | .null | .bool _ | .real _ _ | .text _ => True

/-- Every item of a list is well formed. -/
def ItemsWellFormed : List Constant → Prop
  | [] => True
  | item :: items => WellFormed item ∧ ItemsWellFormed items

/-- Every member of an object has a plain name and is well formed. -/
def MembersWellFormed : List (String × Constant) → Prop
  | [] => True
  | (name, member) :: members =>
    PlainName name ∧ WellFormed member ∧ MembersWellFormed members

end

/-! ### In a plan -/

/-- Only null has no value. -/
theorem value_none {constant : Constant} (wellFormed : constant.WellFormed)
    (none : constant.value? = none) : constant = .null := by
  cases constant with
  | null => rfl
  | int whole =>
    obtain ⟨nearest, found⟩ := Option.isSome_iff_exists.mp (show _ from wellFormed)
    simp [value?, found] at none
  | _ => simp [value?] at none

/-- A constant with a value is no null in a plan. -/
theorem toJson_ne_null {constant : Constant} {value : Value}
    (some : constant.value? = some value) : constant.toJson ≠ .null := by
  cases constant <;> simp_all [value?, toJson]

mutual

/-- A plan gives a constant its value. -/
theorem freeze_toJson : ∀ (constant : Constant) (value : Value), constant.WellFormed →
    constant.value? = some value → Value.freeze constant.toJson = .ok value
  | .null, _, _, found => by simp [value?] at found
  | .bool truth, _, _, found => by
    obtain rfl := by simpa [value?] using found
    simp [toJson, Value.freeze]
  | .int whole, _, _, found => by
    obtain ⟨nearest, rounded, rfl⟩ := Option.map_eq_some_iff.mp (by simpa [value?] using found)
    simp [toJson, Value.freeze, rounded]
  | .real negative magnitude, _, _, found => by
    obtain rfl := by simpa [value?] using found
    simp [toJson, Value.freeze]
  | .text content, _, _, found => by
    obtain rfl := by simpa [value?] using found
    simp [toJson, Value.freeze]
  | .list items, _, wellFormed, found => by
    obtain rfl := by simpa [value?] using found
    rw [toJson, Value.freeze, freezeItems_toJson items wellFormed]
    rfl
  | .object members, _, wellFormed, found => by
    obtain rfl := by simpa [value?] using found
    rw [toJson, Value.freeze, freezeMembers_toJson members wellFormed.2]
    rfl

/-- A plan gives the items of a list their values. -/
theorem freezeItems_toJson : ∀ items : List Constant, ItemsWellFormed items →
    Value.freezeItems (itemsToJson items) = .ok (itemValues items)
  | [], _ => by simp [itemsToJson, Value.freezeItems, itemValues]
  | item :: items, wellFormed => by
    have others := freezeItems_toJson items wellFormed.2
    cases found : item.value? with
    | none =>
      obtain rfl := value_none wellFormed.1 found
      simpa [itemsToJson, toJson, Value.freezeItems, itemValues, value?] using others
    | some value =>
      have first := freeze_toJson item value wellFormed.1 found
      rw [itemsToJson, Value.freezeItems, first, others, itemValues, found]
      · rfl
      · exact toJson_ne_null found

/-- A plan gives the members of an object their values. -/
theorem freezeMembers_toJson : ∀ members : List (String × Constant),
    MembersWellFormed members →
    Value.freezeMembers (membersToJson members) = .ok (memberValues members)
  | [], _ => by simp [membersToJson, Value.freezeMembers, memberValues]
  | (name, member) :: members, wellFormed => by
    have others := freezeMembers_toJson members wellFormed.2.2
    cases found : member.value? with
    | none =>
      obtain rfl := value_none wellFormed.2.1 found
      simpa [membersToJson, toJson, Value.freezeMembers, memberValues, value?] using others
    | some value =>
      have first := freeze_toJson member value wellFormed.2.1 found
      rw [membersToJson, Value.freezeMembers, first, others, memberValues, found]
      · rfl
      · exact toJson_ne_null found

end

/-! ### In source text -/

/-- The literal that a constant is in source text. -/
def literal (constant : Constant) : Hcl.Literal :=
  match constant.value? with
  | some value => .value value.quoted
  | none => .null

/-- A constant with a value is the literal of the value, with its names between quotes. -/
theorem literal_some {constant : Constant} {value : Value}
    (found : constant.value? = some value) : constant.literal = .value value.quoted := by
  simp [literal, found]

/-- A constant without a value is the literal null. -/
theorem literal_none {constant : Constant} (found : constant.value? = none) :
    constant.literal = .null := by
  simp [literal, found]

/-- Between quotes a plain name is not the mark of a body. -/
theorem quotedText_ne_start {name : String} (plain : PlainName name) :
    Hcl.quotedText name ≠ Hcl.startLineKey := by
  have start : Hcl.startLineKey = Hcl.quotedText Hcl.startLineKey := by decide
  rw [start]
  exact fun same => plain.notStart (Hcl.quotedText_injective same)

/-- The literal of a name that does not occur yet comes last. -/
theorem setLiteral_fresh {done : List (String × Hcl.Literal)} {name : String}
    (fresh : name ∉ done.map (·.1)) (found : Hcl.Literal) :
    Hcl.setLiteral done name found = done ++ [(name, found)] := by
  induction done with
  | nil => rfl
  | cons entry done inductionHypothesis =>
    obtain ⟨other, current⟩ := entry
    simp only [List.map_cons, List.mem_cons, not_or] at fresh
    rw [Hcl.setLiteral, if_neg (Ne.symm fresh.1), inductionHypothesis fresh.2]
    rfl

/-- Nothing among the literals of constants is unresolved. -/
theorem resolved_literals (items : List Constant) :
    Hcl.resolved? (items.map literal) = some (Value.quotedItems (itemValues items)) := by
  induction items with
  | nil => rfl
  | cons item items inductionHypothesis =>
    cases found : item.value? with
    | none =>
      simp [literal_none found, found, Hcl.resolved?, itemValues, inductionHypothesis]
    | some value =>
      simp [literal_some found, found, Hcl.resolved?, itemValues, Value.quotedItems,
        inductionHypothesis]

/-- Nothing among the named literals of constants is unresolved. -/
theorem resolved_members (members : List (String × Constant)) :
    Hcl.resolvedEntries?
        (members.map fun member => (Hcl.quotedText member.1, member.2.literal)) =
      some (Value.quotedEntries (memberValues members)) := by
  induction members with
  | nil => rfl
  | cons member members inductionHypothesis =>
    obtain ⟨name, constant⟩ := member
    cases found : constant.value? with
    | none =>
      simp [literal_none found, found, Hcl.resolvedEntries?, memberValues, inductionHypothesis]
    | some value =>
      simp [literal_some found, found, Hcl.resolvedEntries?, memberValues, Value.quotedEntries,
        inductionHypothesis]

/-- The literal of an integer in source text is its double. -/
theorem literal_intTree {whole : Int} {nearest : Double}
    (rounded : Double.ofInt? whole = some nearest) :
    Hcl.literal (intTree whole) = .ok (.value (.number nearest)) := by
  unfold intTree
  split
  · rename_i negative
    have magnitude : Double.ofQuotient? true whole.natAbs 1 = some nearest := by
      simpa [Double.ofInt?, negative] using rounded
    rw [Hcl.literal, Hcl.stringLiteral_wrappedInteger magnitude]
  · simp [Hcl.literal, rounded]

/-- The literal of a double in source text is that double. -/
theorem literal_realTree (negative : Bool) (magnitude : Magnitude) :
    Hcl.literal (realTree negative magnitude) =
      .ok (.value (.number (.finite negative magnitude))) := by
  cases negative with
  | true => simpa [realTree, Hcl.literal] using Hcl.stringLiteral_wrappedDouble magnitude
  | false => simp [realTree, Hcl.literal]

mutual

/-- Source text gives a constant its value, with the names in it between quotes. -/
theorem literal_toTree : ∀ constant : Constant, constant.WellFormed →
    Hcl.literal constant.toTree = .ok constant.literal
  | .null, _ => by rw [toTree, Hcl.literal, literal_none (by rw [value?])]
  | .bool truth, _ => by
    rw [toTree, Hcl.literal, literal_some (by rw [value?]), Value.quoted]
  | .int whole, wellFormed => by
    obtain ⟨nearest, rounded⟩ := Option.isSome_iff_exists.mp (show _ from wellFormed)
    rw [toTree, literal_intTree rounded, literal_some (by rw [value?, rounded]; rfl),
      Value.quoted]
  | .real negative magnitude, _ => by
    rw [toTree, literal_realTree, literal_some (by rw [value?]), Value.quoted]
  | .text content, _ => by
    rw [toTree, Hcl.literal, Hcl.stringLiteral_quotedText, literal_some (by rw [value?]),
      Value.quoted]
  | .list items, wellFormed => by
    rw [literal_some (by rw [value?]), Value.quoted]
    simp [toTree, Hcl.literal, literals_toTree items wellFormed, resolved_literals, bind,
      Except.bind]
  | .object members, wellFormed => by
    have different : (members.map fun member => Hcl.quotedText member.1).Nodup := by
      have mapped := wellFormed.1.map Hcl.quotedText_injective
      rwa [List.map_map] at mapped
    have found := entryLiterals_toTree members [] (by simpa using different)
      wellFormed.2
    rw [literal_some (by rw [value?]), Value.quoted]
    simp [toTree, Hcl.literal, found, resolved_members, bind, Except.bind]

/-- Source text gives the items of a list their values. -/
theorem literals_toTree : ∀ items : List Constant, ItemsWellFormed items →
    Hcl.literals (itemsToTree items) = .ok (items.map literal)
  | [], _ => by simp [itemsToTree, Hcl.literals]
  | item :: items, wellFormed => by
    have first := literal_toTree item wellFormed.1
    have others := literals_toTree items wellFormed.2
    simp [itemsToTree, Hcl.literals, first, others, bind, Except.bind]

/-- Source text gives the members of an object their values, behind those that were read and
under their names as they stand between quotes. -/
theorem entryLiterals_toTree : ∀ (members : List (String × Constant))
    (done : List (String × Hcl.Literal)),
    (done.map (·.1) ++ members.map fun member => Hcl.quotedText member.1).Nodup →
    MembersWellFormed members →
    Hcl.entryLiterals done (membersToTree members) =
      .ok (done ++ members.map fun member => (Hcl.quotedText member.1, member.2.literal))
  | [], done, _, _ => by simp [membersToTree, Hcl.entryLiterals]
  | (name, member) :: members, done, different, ⟨_, wellFormed, othersWellFormed⟩ => by
    have first := literal_toTree member wellFormed
    have fresh : Hcl.quotedText name ∉ done.map (·.1) := by
      intro known
      exact (List.nodup_append.mp different).2.2 _ known _ (by simp) rfl
    have others := entryLiterals_toTree members
      (done ++ [(Hcl.quotedText name, member.literal)]) (by simpa using different)
      othersWellFormed
    simp [membersToTree, Hcl.entryLiterals, first, Hcl.unquote_quotedText,
      setLiteral_fresh fresh, others, bind, Except.bind]

end

/-- An object of plain names is not marked as a body. -/
theorem isMarked_membersToTree (members : List (String × Constant))
    (wellFormed : MembersWellFormed members) :
    Hcl.isMarked (membersToTree members) = false := by
  induction members with
  | nil => rfl
  | cons member members inductionHypothesis =>
    obtain ⟨name, constant⟩ := member
    obtain ⟨plain, _, others⟩ := wellFormed
    rw [membersToTree, Hcl.isMarked_other (by simpa using quotedText_ne_start plain)]
    exact inductionHypothesis others

mutual

/-- No constant leads to a marked map. -/
theorem unwrapLabels_toTree : ∀ (constant : Constant) (labels : List String),
    constant.WellFormed → Hcl.unwrapLabels labels constant.toTree = .ok []
  | .object members, labels, wellFormed => by
    have unmarked : Hcl.isMarked (membersToTree members) = false :=
      isMarked_membersToTree members wellFormed.2
    rw [toTree, Hcl.unwrapLabels, unmarked]
    exact unwrapEntries_toTree members labels wellFormed.2
  | .int whole, _, _ => by
    rw [toTree, intTree]
    split <;> simp [Hcl.unwrapLabels]
  | .real negative magnitude, _, _ => by
    rw [toTree, realTree]
    split <;> simp [Hcl.unwrapLabels]
  | .null, _, _ | .bool _, _, _ | .text _, _, _ | .list _, _, _ => by
    simp [toTree, Hcl.unwrapLabels]

/-- No member of an object leads to a marked map. -/
theorem unwrapEntries_toTree : ∀ (members : List (String × Constant)) (labels : List String),
    MembersWellFormed members → Hcl.unwrapEntries labels (membersToTree members) = .ok []
  | [], _, _ => by simp [membersToTree, Hcl.unwrapEntries]
  | (name, member) :: members, labels, ⟨plain, wellFormed, othersWellFormed⟩ => by
    have first := unwrapLabels_toTree member (labels ++ [Hcl.unquote (Hcl.quotedText name)])
      wellFormed
    have others := unwrapEntries_toTree members labels othersWellFormed
    simp [membersToTree, Hcl.unwrapEntries, Hcl.label, first, others, bind, Except.bind]

end

/-- A constant is no list of blocks. -/
theorem blockBodies_toTree {constant : Constant} (wellFormed : constant.WellFormed) :
    Hcl.blockBodies constant.toTree = .ok none := by
  cases constant with
  | list items =>
    cases items with
    | nil => simp [toTree, itemsToTree, Hcl.blockBodies]
    | cons item items =>
      have first := unwrapLabels_toTree item [] wellFormed.1
      simp [toTree, itemsToTree, Hcl.blockBodies, Hcl.bodiesOfItems, first, bind, Except.bind]
  | int whole =>
    rw [toTree, intTree]
    split <;> simp [Hcl.blockBodies]
  | real negative magnitude =>
    rw [toTree, realTree]
    split <;> simp [Hcl.blockBodies]
  | _ => simp [toTree, Hcl.blockBodies]

end Constant

end InfraReview.Resource
