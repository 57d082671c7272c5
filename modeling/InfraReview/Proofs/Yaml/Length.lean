import Mathlib.Data.List.Nodup
import Mathlib.Data.Finset.Card
import InfraReview.Yaml.Datum

/-!
# Integers in the data of documents

Data has a text exactly when no integer that can be reached in it is too long. Collections lie in a
store and may lead back to themselves. The text of data goes down into a collection once on each
way, and so it meets an integer on the way to it that goes into no collection twice.
-/

namespace InfraReview.Yaml

/-- The data in a collection. -/
def Collection.parts : Collection → List Datum
  | list items => items
  | map entries => entries.flatMap fun entry => [entry.1, entry.2]
  | set items => items

namespace Store

/-- The second data can be reached in the first one, along a way that goes into no collection at
one of the given places. -/
inductive Holds (store : Store) (around : List Place) : Datum → Datum → Prop where
  | self (datum : Datum) : Holds store around datum datum
  | first {first second inner : Datum} (inside : Holds store around first inner) :
      Holds store around (.pair first second) inner
  | second {first second inner : Datum} (inside : Holds store around second inner) :
      Holds store around (.pair first second) inner
  | part {place : Place} {part inner : Datum} (apart : place ∉ around)
      (member : part ∈ (store.get place).parts) (inside : Holds store around part inner) :
      Holds store around (.collection place) inner

/-- Data in which an integer can be reached that is too long. -/
def Overlong (store : Store) (datum : Datum) : Prop :=
  ∃ whole, store.Holds [] datum (.int whole) ∧ isLong whole = true

/-! ### Ways into collections -/

/-- A way keeps out of a collection, or else its end can be reached from something in that
collection by a way that does. Proof: by induction on the way; what follows the last time that it
goes into the collection is the second way. -/
theorem Holds.apart {store : Store} {around : List Place} {datum inner : Datum}
    (holds : store.Holds around datum inner) (place : Place) :
    store.Holds (place :: around) datum inner ∨
      ∃ part ∈ (store.get place).parts, store.Holds (place :: around) part inner := by
  induction holds with
  | self datum => exact .inl (.self datum)
  | first _ inductionHypothesis => exact inductionHypothesis.imp_left .first
  | second _ inductionHypothesis => exact inductionHypothesis.imp_left .second
  | @part own part inner apart member _ inductionHypothesis =>
    rcases inductionHypothesis with keeps | later
    · by_cases same : own = place
      · exact .inr ⟨part, same ▸ member, keeps⟩
      · exact .inl (.part (by simp [same, apart]) member keeps)
    · exact .inr later

/-- The end of a way into a collection can be reached from something in it by a way that does not
come back to it. -/
theorem Holds.once {store : Store} {around : List Place} {place : Place} {whole : Int}
    (holds : store.Holds around (.collection place) (.int whole)) :
    place ∉ around ∧ ∃ part ∈ (store.get place).parts,
      store.Holds (place :: around) part (.int whole) := by
  cases holds with
  | part apart member inside =>
    refine ⟨apart, ?_⟩
    rcases inside.apart place with keeps | later
    · exact ⟨_, member, keeps⟩
    · exact later

/-! ### Looks of collections -/

/-- Items hold an integer that is too long when one of them does. -/
theorem isLongItems_map {α : Type} (look : α → Text.Display) (items : List α) :
    Text.Display.isLongItems (items.map look) = true ↔
      ∃ item ∈ items, (look item).isLong = true := by
  induction items with
  | nil => simp [Text.Display.isLongItems]
  | cons item items inductionHypothesis =>
    simp [Text.Display.isLongItems, inductionHypothesis]

/-- Entries hold an integer that is too long when a key or a value does. -/
theorem isLongEntries_map (look : Datum → Text.Display) (entries : List (Datum × Datum)) :
    Text.Display.isLongEntries (entries.map fun (key, value) => (look key, look value)) = true ↔
      ∃ part ∈ (Collection.map entries).parts, (look part).isLong = true := by
  induction entries with
  | nil => simp [Text.Display.isLongEntries, Collection.parts]
  | cons entry entries inductionHypothesis =>
    obtain ⟨key, value⟩ := entry
    rw [List.map_cons, Text.Display.isLongEntries]
    simp only [Collection.parts] at inductionHypothesis
    simp [Collection.parts, inductionHypothesis, or_assoc]

/-- A collection that is not inside of itself looks long when something in it does. -/
theorem isLong_display_succ (store : Store) {depth : Nat} {around : List Place} {place : Place}
    (apart : place ∉ around) :
    (store.display (depth + 1) around place).isLong = true ↔
      ∃ part ∈ (store.get place).parts,
        (part.display (store.display depth (place :: around))).isLong = true := by
  rw [display, if_neg (by simpa using apart)]
  cases store.get place with
  | list items => exact isLongItems_map _ items
  | map entries => exact isLongEntries_map _ entries
  | set items => exact isLongItems_map _ items

/-- What stands for a collection inside of itself does not look long. -/
theorem isLong_ellipsis (collection : Collection) : collection.ellipsis.isLong = false := by
  cases collection <;> rfl

/-- What looks long has an integer in it that is too long. -/
theorem overlong_of_isLong (store : Store) (depth : Nat) (around : List Place) (datum : Datum)
    (long : (datum.display (store.display depth around)).isLong = true) : store.Overlong datum := by
  induction depth generalizing around datum with
  | zero =>
    induction datum with
    | int number => exact ⟨number, .self _, long⟩
    | pair first second fromFirst fromSecond =>
      rw [Datum.display, Text.Display.isLong, Bool.or_eq_true] at long
      rcases long with inFirst | inSecond
      · obtain ⟨whole, holds, long⟩ := fromFirst inFirst
        exact ⟨whole, .first holds, long⟩
      · obtain ⟨whole, holds, long⟩ := fromSecond inSecond
        exact ⟨whole, .second holds, long⟩
    | collection place => simp [Datum.display, display, isLong_ellipsis] at long
    | _ => cases long
  | succ depth inductionHypothesis =>
    induction datum with
    | int number => exact ⟨number, .self _, long⟩
    | pair first second fromFirst fromSecond =>
      rw [Datum.display, Text.Display.isLong, Bool.or_eq_true] at long
      rcases long with inFirst | inSecond
      · obtain ⟨whole, holds, long⟩ := fromFirst inFirst
        exact ⟨whole, .first holds, long⟩
      · obtain ⟨whole, holds, long⟩ := fromSecond inSecond
        exact ⟨whole, .second holds, long⟩
    | collection place =>
      by_cases known : place ∈ around
      · simp [Datum.display, display, known, isLong_ellipsis] at long
      · obtain ⟨part, member, inside⟩ := (store.isLong_display_succ known).mp long
        obtain ⟨whole, holds, long⟩ := inductionHypothesis _ part inside
        exact ⟨whole, .part List.not_mem_nil member holds, long⟩
    | _ => cases long

/-- There is nothing in a collection beyond the store. -/
theorem lt_of_mem_parts {store : Store} {place : Place} {part : Datum}
    (member : part ∈ (store.get place).parts) : place < store.collections.size := by
  by_contra beyond
  have missing : store.get place = .list [] := by
    simp [get, Array.getElem?_eq_none (Nat.le_of_not_lt beyond)]
  rw [missing] at member
  cases member

/-- Different places in a store are no more than its collections. -/
theorem length_le_of_places {store : Store} {places : List Place} (different : places.Nodup)
    (within : ∀ place ∈ places, place < store.collections.size) :
    places.length ≤ store.collections.size := by
  have among : places.toFinset ⊆ Finset.range store.collections.size := by
    intro place member
    exact Finset.mem_range.mpr (within place (List.mem_toFinset.mp member))
  have bound := Finset.card_le_card among
  rwa [List.toFinset_card_of_nodup different, Finset.card_range] at bound

/-- Data looks long when an integer that is too long can be reached in it by a way that keeps out
of the places around, as long as the depth is enough for the others. Proof: by induction on the
depth; a way into a collection goes on from something in it without coming back. -/
theorem isLong_of_holds (store : Store) (depth : Nat) (around : List Place) (datum : Datum)
    {whole : Int} (holds : store.Holds around datum (.int whole)) (long : isLong whole = true)
    (different : around.Nodup) (within : ∀ place ∈ around, place < store.collections.size)
    (deep : store.collections.size < depth + around.length) :
    (datum.display (store.display depth around)).isLong = true := by
  induction depth generalizing around datum with
  | zero =>
    have bound := length_le_of_places different within
    omega
  | succ depth inductionHypothesis =>
    induction datum with
    | int number =>
      cases holds
      exact long
    | pair first second fromFirst fromSecond =>
      rw [Datum.display, Text.Display.isLong, Bool.or_eq_true]
      cases holds with
      | first inside => exact .inl (fromFirst inside)
      | second inside => exact .inr (fromSecond inside)
    | collection place =>
      obtain ⟨apart, part, member, inside⟩ := holds.once
      refine (store.isLong_display_succ apart).mpr ⟨part, member, ?_⟩
      refine inductionHypothesis (place :: around) part inside
        (List.nodup_cons.mpr ⟨apart, different⟩)
        (List.forall_mem_cons.mpr ⟨lt_of_mem_parts member, within⟩) ?_
      rw [List.length_cons]
      omega
    | _ => cases holds

/-- Data has no text exactly when an integer that is too long can be reached in it, and then always
for one reason. -/
theorem shown_error_iff (store : Store) (datum : Datum) (fault : LengthFault) :
    store.shown datum = .error fault ↔ store.Overlong datum ∧ fault = .written := by
  have written : (datum.display (store.display (store.collections.size + 1) [])).written =
      .error fault ↔ store.Overlong datum ∧ fault = .written := by
    rw [Text.Display.written_eq_error_iff]
    refine and_congr_left fun _ => ⟨store.overlong_of_isLong _ _ datum, ?_⟩
    rintro ⟨whole, holds, long⟩
    exact store.isLong_of_holds _ _ datum holds long List.nodup_nil (List.forall_mem_nil _)
      (by simp)
  cases datum with
  | date day =>
    refine iff_of_false (by rintro ⟨⟩) ?_
    rintro ⟨⟨_, ⟨⟩, _⟩, _⟩
  | moment time offset =>
    refine iff_of_false (by rintro ⟨⟩) ?_
    rintro ⟨⟨_, ⟨⟩, _⟩, _⟩
  | _ => exact written

end Store

end InfraReview.Yaml
