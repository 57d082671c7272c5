import InfraReview.Proofs.Json.Reading
import InfraReview.Proofs.Lookup
import InfraReview.Proofs.Number.Range
import InfraReview.Proofs.Value.Fitting

/-!
# Integers in documents

A document can be shown in a message exactly when none of the integers in it is too long. The
reader of texts and bytes only makes such documents; documents from elsewhere may be others.
-/

namespace InfraReview.Json

/-- A document whose integers can all be written, at every depth. -/
inductive Short : Json → Prop where
  | null : Short null
  | bool (value : Bool) : Short (bool value)
  | int {value : Int} (short : isLong value = false) : Short (int value)
  | double (value : Double) : Short (double value)
  | string (value : String) : Short (string value)
  | array {items : List Json} (inner : ∀ item ∈ items, Short item) : Short (array items)
  | object {members : List (String × Json)} (inner : ∀ member ∈ members, Short member.2) :
      Short (object members)

attribute [simp] Short.null Short.bool Short.double Short.string

/-- An integer is short when it can be written. -/
@[simp] theorem short_int_iff {value : Int} : Short (.int value) ↔ isLong value = false := by
  constructor
  · intro short
    cases short with
    | int short => exact short
  · exact .int

/-- An array is short when its items are. -/
@[simp] theorem short_array_iff {items : List Json} :
    Short (.array items) ↔ ∀ item ∈ items, Short item := by
  constructor
  · intro short
    cases short with
    | array inner => exact inner
  · exact .array

/-- An object is short when its values are. -/
@[simp] theorem short_object_iff {members : List (String × Json)} :
    Short (.object members) ↔ ∀ member ∈ members, Short member.2 := by
  constructor
  · intro short
    cases short with
    | object inner => exact inner
  · exact .object

mutual

/-- A document is short when it does not look like anything with an integer that is too long. -/
theorem isLong_display : ∀ document : Json, document.display.isLong = false ↔ Short document
  | .null | .bool _ | .double _ | .string _ => iff_of_true rfl (by simp)
  | .int _ => short_int_iff.symm
  | .array items => by
    rw [display, Text.Display.isLong, isLongItems_display items, short_array_iff]
  | .object members => by
    rw [display, Text.Display.isLong, isLongEntries_display members, short_object_iff]

/-- The same of the items of an array. -/
theorem isLongItems_display : ∀ items : List Json,
    Text.Display.isLongItems (displayItems items) = false ↔ ∀ item ∈ items, Short item
  | [] => by simp [displayItems, Text.Display.isLongItems]
  | item :: items => by
    rw [displayItems, Text.Display.isLongItems, Bool.or_eq_false_iff, isLong_display item,
      isLongItems_display items, List.forall_mem_cons]

/-- The same of the members of an object, whose names are texts. -/
theorem isLongEntries_display : ∀ members : List (String × Json),
    Text.Display.isLongEntries (displayMembers members) = false ↔
      ∀ member ∈ members, Short member.2
  | [] => by simp [displayMembers, Text.Display.isLongEntries]
  | (name, value) :: members => by
    rw [displayMembers, Text.Display.isLongEntries, Bool.or_eq_false_iff, Bool.or_eq_false_iff,
      isLong_display value, isLongEntries_display members, List.forall_mem_cons]
    simp [Text.Display.isLong]

end

/-- A document has a text exactly when it is short. -/
theorem shown_ok_iff {document : Json} {text : String} :
    document.shown = .ok text ↔ Short document ∧ document.display.plain = text := by
  rw [shown, Text.Display.written_eq_ok_iff, isLong_display]

/-- A document has no text exactly when it is not short, and then always for one reason. -/
theorem shown_error_iff {document : Json} {fault : LengthFault} :
    document.shown = .error fault ↔ ¬ Short document ∧ fault = .written := by
  rw [shown, Text.Display.written_eq_error_iff, ← isLong_display, Bool.not_eq_false]

/-- The text of a short document. -/
theorem Short.shown {document : Json} (short : Short document) :
    document.shown = .ok document.display.plain :=
  shown_ok_iff.mpr ⟨short, rfl⟩

/-- A member of a short object is short, and so is null in the place of one that is missing. -/
theorem Short.member {members : List (String × Json)} (short : Short (.object members))
    (name : String) : Short (Json.member members name) := by
  rw [Json.member]
  cases found : members.lookup name with
  | none => exact .null
  | some value => exact short_object_iff.mp short (name, value) (mem_of_lookup found)

/-- What counts as nothing is short. -/
theorem short_of_vacant {document : Json} (vacant : document.isVacant = true) :
    Short document := by
  cases document with
  | int value =>
    obtain rfl : value = 0 := by simpa [isVacant] using vacant
    exact .int (by decide)
  | array items =>
    obtain rfl : items = [] := by simpa [isVacant] using vacant
    exact .array (List.forall_mem_nil _)
  | object members =>
    obtain rfl : members = [] := by simpa [isVacant] using vacant
    exact .object (List.forall_mem_nil _)
  | _ => simp

/-! ### Integers with a double -/

/-- A number of so few binary digits has few enough decimal ones. -/
theorem lt_longBound_of_two {number places : Nat} (few : places ≤ maxDigits)
    (below : number < 2 ^ places) : number < longBound :=
  lt_longBound few (below.trans_le (Nat.pow_le_pow_left (by decide) places))

/-- An integer in the range of doubles is far from too long. -/
theorem isLong_of_isSome {whole : Int} (fits : (Double.ofInt? whole).isSome = true) :
    isLong whole = false := by
  have range : whole.natAbs < 2 ^ 1024 - 2 ^ 970 := (Double.ofInt_isSome_iff whole).mp fits
  exact isLong_eq_false (lt_longBound_of_two (by decide : 1024 ≤ maxDigits)
    (range.trans_le (Nat.sub_le _ _)))

mutual

/-- A document whose integers have doubles is short. -/
theorem short_of_fits : ∀ document : Json, document.Fits → Short document
  | .null, _ | .bool _, _ | .double _, _ | .string _, _ => by simp
  | .int _, fits => .int (isLong_of_isSome fits)
  | .array items, fits => .array (short_of_itemsFit items fits)
  | .object members, fits => .object (short_of_membersFit members fits)

/-- So are items whose integers have doubles. -/
theorem short_of_itemsFit : ∀ items : List Json, ItemsFit items → ∀ item ∈ items, Short item
  | [], _ => List.forall_mem_nil _
  | item :: items, fits =>
    List.forall_mem_cons.mpr ⟨short_of_fits item fits.1, short_of_itemsFit items fits.2⟩

/-- So are the values of members whose integers have doubles. -/
theorem short_of_membersFit : ∀ members : List (String × Json), MembersFit members →
    ∀ member ∈ members, Short member.2
  | [], _ => List.forall_mem_nil _
  | (_, value) :: members, fits =>
    List.forall_mem_cons.mpr ⟨short_of_fits value fits.1, short_of_membersFit members fits.2⟩

end

/-! ### Documents from texts -/

/-- The reader makes documents that are short: a number with too many digits is a fault. -/
theorem short_kept : KeptByReader Short where
  null := .null
  bool := .bool
  int := .int
  double := .double
  string := .string
  array := .array
  noMembers := .object (List.forall_mem_nil _)
  setMember {members} before name value written := by
    refine short_object_iff.mpr ?_
    have earlier := short_object_iff.mp before
    clear before
    induction members with
    | nil => exact List.forall_mem_singleton.mpr written
    | cons first rest inductionHypothesis =>
      obtain ⟨other, current⟩ := first
      obtain ⟨own, later⟩ := List.forall_mem_cons.mp earlier
      rw [setMember]
      split_ifs
      · exact List.forall_mem_cons.mpr ⟨written, later⟩
      · exact List.forall_mem_cons.mpr ⟨own, inductionHypothesis later⟩

/-- A document that was read from a text is short. -/
theorem short_of_read {text : List Char} {document : Json} (read : Json.read text = .ok document) :
    Short document :=
  short_kept.read read

end InfraReview.Json
