import InfraReview.Proofs.Success
import InfraReview.Value

/-!
# Documents whose integers fit

Only an integer beyond the range of doubles keeps a document from having a value, apart
from a null on its own. A document fits when it has no such integer at any depth.
-/

namespace InfraReview

namespace Json

mutual

/-- Every integer in a document has a double. -/
def Fits : Json → Prop
  | .int value => (Double.ofInt? value).isSome = true
  | .array items => ItemsFit items
  | .object members => MembersFit members
  | .null | .bool _ | .double _ | .string _ => True

/-- Every integer in the items of an array has a double. -/
def ItemsFit : List Json → Prop
  | [] => True
  | item :: items => Fits item ∧ ItemsFit items

/-- Every integer in the members of an object has a double. -/
def MembersFit : List (String × Json) → Prop
  | [] => True
  | (_, member) :: members => Fits member ∧ MembersFit members

end

end Json

namespace Value

open Json

mutual

/-- A document that fits has a value unless it is null. -/
theorem freeze_of_fits : ∀ document : Json, document.Fits → document ≠ .null →
    ∃ value, freeze document = .ok value
  | .null, _, notNull => absurd rfl notNull
  | .bool truth, _, _ => ⟨.bool truth, by simp [freeze]⟩
  | .int whole, fits, _ => by
    obtain ⟨nearest, found⟩ := Option.isSome_iff_exists.mp (show _ from fits)
    exact ⟨.number nearest, by simp [freeze, found]⟩
  | .double real, _, _ => ⟨.number real, by simp [freeze]⟩
  | .string content, _, _ => ⟨.text content, by simp [freeze]⟩
  | .array items, fits, _ => by
    obtain ⟨values, frozen⟩ := freezeItems_of_fits items fits
    exact ⟨.list values, by simp [freeze, frozen, Except.map]⟩
  | .object members, fits, _ => by
    obtain ⟨entries, frozen⟩ := freezeMembers_of_fits members fits
    exact ⟨.map entries, by simp [freeze, frozen, Except.map]⟩

/-- Items that fit have values. -/
theorem freezeItems_of_fits : ∀ items : List Json, ItemsFit items →
    ∃ values, freezeItems items = .ok values
  | [], _ => ⟨[], by simp [freezeItems]⟩
  | item :: items, fits => by
    obtain ⟨values, others⟩ := freezeItems_of_fits items fits.2
    by_cases isNull : item = .null
    · subst isNull
      exact ⟨values, by simpa [freezeItems] using others⟩
    · obtain ⟨value, first⟩ := freeze_of_fits item fits.1 isNull
      exact ⟨value :: values, by simp [freezeItems, first, others, bind, Except.bind]⟩

/-- Members that fit have values. -/
theorem freezeMembers_of_fits : ∀ members : List (String × Json), MembersFit members →
    ∃ entries, freezeMembers members = .ok entries
  | [], _ => ⟨[], by simp [freezeMembers]⟩
  | (name, member) :: members, fits => by
    obtain ⟨entries, others⟩ := freezeMembers_of_fits members fits.2
    by_cases isNull : member = .null
    · subst isNull
      exact ⟨entries, by simpa [freezeMembers] using others⟩
    · obtain ⟨value, first⟩ := freeze_of_fits member fits.1 isNull
      exact ⟨(name, value) :: entries, by
        simp [freezeMembers, first, others, bind, Except.bind]⟩

end

mutual

/-- A document that has a value fits. -/
theorem fits_of_freeze : ∀ (document : Json) {value : Value},
    freeze document = .ok value → document.Fits
  | .null, _, _ | .bool _, _, _ | .double _, _, _ | .string _, _, _ => trivial
  | .int whole, _, frozen => by
    cases found : Double.ofInt? whole with
    | none => simp [freeze, found] at frozen
    | some nearest => simp [Fits, found]
  | .array items, _, frozen => by
    rw [freeze] at frozen
    obtain ⟨values, inside, _⟩ := ok_of_map frozen
    exact fits_of_freezeItems items inside
  | .object members, _, frozen => by
    rw [freeze] at frozen
    obtain ⟨entries, inside, _⟩ := ok_of_map frozen
    exact fits_of_freezeMembers members inside

/-- Items that have values fit. -/
theorem fits_of_freezeItems : ∀ (items : List Json) {values : List Value},
    freezeItems items = .ok values → ItemsFit items
  | [], _, _ => trivial
  | item :: items, _, frozen => by
    by_cases isNull : item = .null
    · subst isNull
      exact ⟨trivial, fits_of_freezeItems items (by simpa [freezeItems] using frozen)⟩
    · rw [freezeItems] at frozen
      · obtain ⟨value, first, rest⟩ := ok_of_bind frozen
        obtain ⟨others, behind, _⟩ := ok_of_bind rest
        exact ⟨fits_of_freeze item first, fits_of_freezeItems items behind⟩
      · exact isNull

/-- Members that have values fit. -/
theorem fits_of_freezeMembers : ∀ (members : List (String × Json))
    {entries : List (String × Value)}, freezeMembers members = .ok entries → MembersFit members
  | [], _, _ => trivial
  | (name, member) :: members, _, frozen => by
    by_cases isNull : member = .null
    · subst isNull
      exact ⟨trivial, fits_of_freezeMembers members (by simpa [freezeMembers] using frozen)⟩
    · rw [freezeMembers] at frozen
      · obtain ⟨value, first, rest⟩ := ok_of_bind frozen
        obtain ⟨others, behind, _⟩ := ok_of_bind rest
        exact ⟨fits_of_freeze member first, fits_of_freezeMembers members behind⟩
      · exact isNull

end

end Value

end InfraReview
