import Mathlib.Data.List.Forall2
import InfraReview.Proofs.Hcl.Search

/-!
# The outermost bodies in order

The place of a map inside a value is told by the positions of the entries on the way to it. The keys
of these entries, without quotes, are its labels. A way goes through maps that are not marked and
ends at the first one that is, so no place is inside another one, and the order of positions,
compared one by one, is the order from left to right.

A search of a value finds the marked maps at all such places, in this order, each once and with its
labels. It finds nothing else, and what stands inside a marked map has no part in it. The blocks of
a list are then those of its items, one item after the other.
-/

namespace InfraReview.Hcl

/-- A value leads along positions of entries, whose keys have labels, to a marked map. -/
inductive LeadsAlong : Tree → List Nat → List String → List (Key × Tree) → Prop where
  | here {entries : List (Key × Tree)} (marked : isMarked entries = true) :
      LeadsAlong (.map entries) [] [] entries
  | under {entries body : List (Key × Tree)} {index : Nat} {key : Key} {inner : Tree}
      {next : String} {place : List Nat} {way : List String}
      (unmarked : isMarked entries = false) (entry : entries[index]? = some (key, inner))
      (named : label key = .ok next) (leads : LeadsAlong inner place way body) :
      LeadsAlong (.map entries) (index :: place) (next :: way) body

/-- Entries, with positions from a first one on, lead along positions to a marked map. -/
inductive EntriesLeadAlong (start : Nat) (entries : List (Key × Tree)) :
    List Nat → List String → List (Key × Tree) → Prop where
  | entry {body : List (Key × Tree)} {position : Nat} {key : Key} {inner : Tree} {next : String}
      {place : List Nat} {way : List String}
      (member : ((key, inner), position) ∈ entries.zipIdx start)
      (named : label key = .ok next) (leads : LeadsAlong inner place way body) :
      EntriesLeadAlong start entries (position :: place) (next :: way) body

/-- Labelled bodies are those at all places, one for each place and in the order of the places, with
the labels on the way after those in `labels`. -/
structure Gathers (Leads : List Nat → List String → List (Key × Tree) → Prop)
    (labels : List String) (places : List (List Nat)) (found : List LabelledBody) : Prop where
  inOrder : places.Pairwise (· < ·)
  all : ∀ place way body, Leads place way body → place ∈ places
  each : List.Forall₂ (fun place body => ∃ way, Leads place way body.entries ∧
    body.labels = labels ++ way) places found

/-! ### Places -/

/-- A place leads to one map, and nothing behind it leads to another one. -/
theorem LeadsAlong.outermost {tree : Tree} {place more : List Nat} {way other : List String}
    {body inside : List (Key × Tree)} (leads : LeadsAlong tree place way body)
    (further : LeadsAlong tree (place ++ more) other inside) : more = [] := by
  induction leads generalizing other with
  | here marked =>
    cases further with
    | here => rfl
    | under unmarked => simp [marked] at unmarked
  | under unmarked entry _ _ inductionHypothesis =>
    cases further with
    | under _ another _ rest =>
      obtain ⟨_, rfl⟩ := Prod.mk.inj (Option.some.inj (entry.symm.trans another))
      exact inductionHypothesis rest

/-- A map that is not marked leads where its entries do. -/
theorem leadsAlong_unmarked {entries : List (Key × Tree)} (unmarked : isMarked entries = false)
    {place : List Nat} {way : List String} {body : List (Key × Tree)} :
    LeadsAlong (.map entries) place way body ↔ EntriesLeadAlong 0 entries place way body := by
  constructor
  · intro leads
    cases leads with
    | here marked => simp [unmarked] at marked
    | under _ entry named leads =>
      exact .entry (List.mk_mem_zipIdx_iff_getElem?.mpr entry) named leads
  · rintro ⟨member, named, leads⟩
    exact .under unmarked (List.mk_mem_zipIdx_iff_getElem?.mp member) named leads

/-- A marked map leads to itself at once. -/
theorem leadsAlong_marked {entries : List (Key × Tree)} (marked : isMarked entries = true)
    {place : List Nat} {way : List String} {body : List (Key × Tree)} :
    LeadsAlong (.map entries) place way body ↔ place = [] ∧ way = [] ∧ body = entries := by
  constructor
  · intro leads
    cases leads with
    | here => exact ⟨rfl, rfl, rfl⟩
    | under unmarked => simp [marked] at unmarked
  · rintro ⟨rfl, rfl, rfl⟩
    exact .here marked

/-- Entries lead where the first one does, below its position, and where the others do. -/
theorem entriesLeadAlong_cons {start : Nat} {key : Key} {inner : Tree}
    {entries body : List (Key × Tree)} {next : String} (named : label key = .ok next)
    {place : List Nat} {way : List String} :
    EntriesLeadAlong start ((key, inner) :: entries) place way body ↔
      (∃ rest behind, place = start :: rest ∧ way = next :: behind ∧
        LeadsAlong inner rest behind body) ∨
      EntriesLeadAlong (start + 1) entries place way body := by
  constructor
  · rintro ⟨member, also, leads⟩
    rw [List.zipIdx_cons, List.mem_cons] at member
    rcases member with same | later
    · cases same
      obtain rfl := Except.ok.inj (named.symm.trans also)
      exact .inl ⟨_, _, rfl, rfl, leads⟩
    · exact .inr (.entry later also leads)
  · rintro (⟨rest, behind, rfl, rfl, leads⟩ | ⟨member, also, leads⟩)
    · exact .entry List.mem_cons_self named leads
    · exact .entry (List.mem_cons_of_mem _ member) also leads

/-- Entries from a position on lead along places that start there or behind it. -/
theorem EntriesLeadAlong.start_le {start : Nat} {entries body : List (Key × Tree)}
    {place : List Nat} {way : List String}
    (leads : EntriesLeadAlong start entries place way body) :
    ∃ position rest, place = position :: rest ∧ start ≤ position := by
  obtain ⟨member, _, _⟩ := leads
  exact ⟨_, _, rfl, List.le_snd_of_mem_zipIdx member⟩

/-! ### What a search gathers -/

/-- Each place leads somewhere. -/
theorem Gathers.leads {Leads : List Nat → List String → List (Key × Tree) → Prop}
    {labels : List String} {places : List (List Nat)} {found : List LabelledBody}
    (gathers : Gathers Leads labels places found) {place : List Nat} (member : place ∈ places) :
    ∃ way body, Leads place way body := by
  obtain ⟨index, inside, rfl⟩ := List.mem_iff_getElem.mp member
  obtain ⟨lengths, each⟩ := List.forall₂_iff_get.mp gathers.each
  obtain ⟨way, leads, _⟩ := each index inside (lengths ▸ inside)
  exact ⟨way, _, leads⟩

/-- Bodies of the first entry, followed by bodies of the others, are those of all. -/
theorem Gathers.cons {start : Nat} {key : Key} {inner : Tree} {entries : List (Key × Tree)}
    {next : String} (named : label key = .ok next) {labels : List String}
    {first others : List (List Nat)} {found more : List LabelledBody}
    (own : Gathers (LeadsAlong inner) (labels ++ [next]) first found)
    (rest : Gathers (EntriesLeadAlong (start + 1) entries) labels others more) :
    Gathers (EntriesLeadAlong start ((key, inner) :: entries)) labels
      (first.map (start :: ·) ++ others) (found ++ more) := by
  constructor
  · refine List.pairwise_append.mpr ⟨?_, rest.inOrder, ?_⟩
    · rw [List.pairwise_map]
      exact own.inOrder.imp fun before => List.cons_lt_cons_iff.mpr (.inr ⟨rfl, before⟩)
    · -- a place below the first entry starts with its position, and the others start behind it
      intro place member later behind
      obtain ⟨short, _, rfl⟩ := List.mem_map.mp member
      obtain ⟨way, body, leads⟩ := rest.leads behind
      obtain ⟨position, tail, rfl, least⟩ := leads.start_le
      exact List.cons_lt_cons_iff.mpr (.inl least)
  · intro place way body leads
    rcases (entriesLeadAlong_cons named).mp leads with ⟨short, behind, rfl, rfl, inside⟩ | later
    · exact List.mem_append_left _ (List.mem_map_of_mem (own.all _ _ _ inside))
    · exact List.mem_append_right _ (rest.all _ _ _ later)
  · refine List.rel_append ?_ (rest.each.imp ?_)
    · rw [List.forall₂_map_left_iff]
      refine own.each.imp fun short body ⟨way, leads, same⟩ => ⟨next :: way, ?_, ?_⟩
      · exact (entriesLeadAlong_cons named).mpr (.inl ⟨short, way, rfl, rfl, leads⟩)
      · rw [same, List.append_assoc, List.singleton_append]
    · rintro place body ⟨way, leads, same⟩
      exact ⟨way, (entriesLeadAlong_cons named).mpr (.inr leads), same⟩

mutual

/-- A search of a value gathers the bodies at all places. -/
theorem unwrapLabels_gathers : ∀ (tree : Tree) (labels : List String)
    (found : List LabelledBody), unwrapLabels labels tree = .ok found →
    ∃ places, Gathers (LeadsAlong tree) labels places found
  | .map entries, labels, found, done => by
    rw [unwrapLabels] at done
    by_cases marked : isMarked entries = true
    · rw [if_pos marked] at done
      cases done
      refine ⟨[[]], List.pairwise_singleton _ _, fun place way body leads => ?_, ?_⟩
      · simp [(leadsAlong_marked marked).mp leads]
      · exact .cons ⟨[], .here marked, (List.append_nil labels).symm⟩ .nil
    · rw [if_neg marked] at done
      have unmarked : isMarked entries = false := by simpa using marked
      have same : LeadsAlong (.map entries) = EntriesLeadAlong 0 entries := by
        funext place way body
        exact propext (leadsAlong_unmarked unmarked)
      rw [same]
      exact unwrapEntries_gathers entries 0 labels found done
  | .null, labels, found, done | .bool _, labels, found, done | .int _, labels, found, done
  | .double _, labels, found, done | .text _, labels, found, done
  | .list _, labels, found, done => by
    simp only [unwrapLabels, Except.ok.injEq] at done
    subst done
    refine ⟨[], .nil, fun place way body leads => ?_, .nil⟩
    cases leads

/-- A search of entries gathers the bodies at all places, from any first position on. -/
theorem unwrapEntries_gathers : ∀ (entries : List (Key × Tree)) (start : Nat)
    (labels : List String) (found : List LabelledBody), unwrapEntries labels entries = .ok found →
    ∃ places, Gathers (EntriesLeadAlong start entries) labels places found
  | [], start, labels, found, done => by
    simp only [unwrapEntries, Except.ok.injEq] at done
    subst done
    refine ⟨[], .nil, fun place way body leads => ?_, .nil⟩
    obtain ⟨member, _, _⟩ := leads
    cases member
  | (key, inner) :: entries, start, labels, found, done => by
    rw [unwrapEntries] at done
    obtain ⟨next, named, done⟩ := ok_of_bind done
    obtain ⟨first, firstDone, done⟩ := ok_of_bind done
    obtain ⟨others, othersDone, done⟩ := ok_of_bind done
    cases done
    obtain ⟨own, ownGathers⟩ := unwrapLabels_gathers inner _ first firstDone
    obtain ⟨rest, restGathers⟩ := unwrapEntries_gathers entries (start + 1) labels others othersDone
    exact ⟨_, ownGathers.cons named restGathers⟩

end

/-! ### The bodies of a list -/

/-- Bodies that are found in items are those of the items, one item after the other. -/
theorem bodiesOfItems_flatten {items : List Tree} {bodies : List LabelledBody}
    (done : bodiesOfItems items = .ok (some bodies)) :
    ∃ founds, List.Forall₂ (fun item found => unwrapLabels [] item = .ok found) items founds ∧
      bodies = founds.flatten := by
  induction items generalizing bodies with
  | nil =>
    cases done
    exact ⟨[], .nil, rfl⟩
  | cons item items inductionHypothesis =>
    rw [bodiesOfItems] at done
    obtain ⟨found, searched, done⟩ := ok_of_bind done
    split at done
    · cases done
    · obtain ⟨others, searchedOthers, done⟩ := ok_of_bind done
      obtain ⟨more, rfl, rfl⟩ := Option.map_eq_some_iff.mp (Except.ok.inj done)
      obtain ⟨founds, each, rfl⟩ := inductionHypothesis searchedOthers
      exact ⟨found :: founds, .cons searched each, rfl⟩

/-- A list that is not empty and in which no search strays is one of blocks or an attribute. It is
one of blocks when every item holds a body, and its bodies are then those of the items, one item
after the other. -/
theorem blockBodies_list {items : List Tree} (nonempty : items ≠ [])
    (sound : ¬ SearchStrays (.list items)) :
    ((∀ item ∈ items, HoldsBody item) → ∃ founds,
      List.Forall₂ (fun item found => unwrapLabels [] item = .ok found) items founds ∧
        blockBodies (.list items) = .ok (some founds.flatten)) ∧
      ((∃ item ∈ items, ¬ HoldsBody item) → blockBodies (.list items) = .ok none) := by
  obtain ⟨bodies, done⟩ := ok_of_not_fails (mt (blockBodies_fails_iff _).mp sound)
  cases bodies with
  | none =>
    refine ⟨fun held => ?_, fun _ => done⟩
    exact absurd ⟨items, rfl, nonempty, held⟩ (blockBodies_none done)
  | some bodies =>
    constructor
    · intro _
      have searched : bodiesOfItems items = .ok (some bodies) := by
        rw [blockBodies] at done
        · exact done
        · exact nonempty
      obtain ⟨founds, each, rfl⟩ := bodiesOfItems_flatten searched
      exact ⟨founds, each, done⟩
    · rintro ⟨item, member, bare⟩
      obtain ⟨_, ⟨⟩, _, held⟩ := (blockBodies_some done).1
      exact absurd (held item member) bare

/-- The outermost bodies are found. A search fails exactly when it meets a key that is no text.
Otherwise it finds one body for every place at which a value leads to a marked map through maps that
are not marked, the value itself included, in the order of the places and with the labels on the
way; no place is inside another one. A list that is not empty comes to the bodies of its items, one
item after the other, when every item holds one, and to none at all when there is an item without
one, unless a search of its items strays. -/
theorem outermost_bodies_found (tree : Tree) (labels : List String) :
    (Fails (unwrapLabels labels tree) ↔ Strays tree) ∧
      (∀ found, unwrapLabels labels tree = .ok found →
        ∃ places, Gathers (LeadsAlong tree) labels places found ∧
          ∀ place ∈ places, ∀ other ∈ places, place <+: other → other = place) ∧
      ∀ items, items ≠ [] →
        (Fails (blockBodies (.list items)) ↔ SearchStrays (.list items)) ∧
        (¬ SearchStrays (.list items) →
          ((∀ item ∈ items, HoldsBody item) → ∃ founds,
            List.Forall₂ (fun item found => unwrapLabels [] item = .ok found) items founds ∧
              blockBodies (.list items) = .ok (some founds.flatten)) ∧
          ((∃ item ∈ items, ¬ HoldsBody item) → blockBodies (.list items) = .ok none)) := by
  refine ⟨unwrapLabels_fails_iff tree labels, fun found done => ?_, fun items nonempty =>
    ⟨blockBodies_fails_iff _, blockBodies_list nonempty⟩⟩
  obtain ⟨places, gathers⟩ := unwrapLabels_gathers tree labels found done
  refine ⟨places, gathers, ?_⟩
  rintro place member _ further ⟨more, rfl⟩
  obtain ⟨way, body, leads⟩ := gathers.leads member
  obtain ⟨other, inside, beyond⟩ := gathers.leads further
  rw [leads.outermost beyond, List.append_nil]

/-- A body with a further body in it. -/
def outerBody : List (Key × Tree) :=
  [(.text "inner", .map [(.text startLineKey, .int 3)]), (.text startLineKey, .int 2)]

/-- A value that leads to two bodies: under a quoted key and a plain one, and under a key of its
own. A number and a list with a body stand between them. -/
def nestedValue : Tree :=
  .map [
    (.text "\"a\"", .map [
      (.text "b", .map [(.text startLineKey, .int 1)]),
      (.text "c", .int 1),
      (.text "d", .list [.map outerBody])]),
    (.text "e", .map outerBody)]

/-- The two bodies are found with their labels, and a list with this value alone has them as its
blocks. With a number behind it, the list has none. -/
theorem nested_bodies_found :
    unwrapLabels ["top"] nestedValue =
        .ok [⟨["top", "a", "b"], [(.text startLineKey, .int 1)]⟩, ⟨["top", "e"], outerBody⟩] ∧
      (∃ places, Gathers (LeadsAlong nestedValue) ["top"] places
        [⟨["top", "a", "b"], [(.text startLineKey, .int 1)]⟩, ⟨["top", "e"], outerBody⟩]) ∧
      blockBodies (.list [nestedValue]) = .ok (some
        [⟨["a", "b"], [(.text startLineKey, .int 1)]⟩, ⟨["e"], outerBody⟩]) ∧
      blockBodies (.list [nestedValue, .int 1]) = .ok none := by
  have found : unwrapLabels ["top"] nestedValue =
      .ok [⟨["top", "a", "b"], [(.text startLineKey, .int 1)]⟩, ⟨["top", "e"], outerBody⟩] := rfl
  have alone : unwrapLabels [] nestedValue =
      .ok [⟨["a", "b"], [(.text startLineKey, .int 1)]⟩, ⟨["e"], outerBody⟩] := rfl
  obtain ⟨_, gathers, lists⟩ := outermost_bodies_found nestedValue ["top"]
  have held : HoldsBody nestedValue := (holdsBody_iff alone).mpr rfl
  have bare : ¬ HoldsBody (.int 1) := by
    rintro ⟨_, ⟨⟩⟩
  refine ⟨found, ?_, ?_, ?_⟩
  · obtain ⟨places, gathered, _⟩ := gathers _ found
    exact ⟨places, gathered⟩
  · obtain ⟨strays, inside⟩ := lists [nestedValue] (List.cons_ne_nil _ _)
    have sound : ¬ SearchStrays (.list [nestedValue]) := by
      rw [← strays]
      exact not_fails_ok _
    obtain ⟨founds, each, done⟩ := (inside sound).1 (by simpa using held)
    cases each with
    | cons own rest =>
      cases rest
      obtain rfl := Except.ok.inj (alone.symm.trans own)
      exact done
  · obtain ⟨strays, inside⟩ := lists [nestedValue, .int 1] (List.cons_ne_nil _ _)
    have sound : ¬ SearchStrays (.list [nestedValue, .int 1]) := by
      rw [← strays]
      exact not_fails_ok _
    exact (inside sound).2 ⟨.int 1, by simp, bare⟩

/-- A value with a key that is no text. -/
def numberedValue : Tree := .map [(.text "a", .map [(.int 1, .text "b")])]

/-- Not every value is searched: one with a number for a key holds no body, but the search fails,
and a list with it does not come to the value of an attribute. -/
theorem numbered_key_strays :
    (¬ ∀ tree labels, ∃ found, unwrapLabels labels tree = .ok found) ∧
      ¬ ∀ items, items ≠ [] → (∃ item ∈ items, ¬ HoldsBody item) →
        blockBodies (.list items) = .ok none := by
  have failed : unwrapLabels [] numberedValue = .error (.labelWithoutLength "int") := rfl
  constructor
  · intro searched
    obtain ⟨found, done⟩ := searched numberedValue []
    rw [failed] at done
    cases done
  · intro left
    have bare : ¬ HoldsBody numberedValue := by
      rintro ⟨body, leads⟩
      rw [numberedValue, leads_unmarked rfl] at leads
      obtain ⟨entry, member, leads⟩ := leads
      obtain rfl := List.mem_singleton.mp member
      rw [leads_unmarked rfl] at leads
      obtain ⟨entry, member, leads⟩ := leads
      obtain rfl := List.mem_singleton.mp member
      cases leads
    have done := left [numberedValue] (List.cons_ne_nil _ _)
      ⟨numberedValue, List.mem_singleton_self _, bare⟩
    have broken : blockBodies (.list [numberedValue]) = .error (.labelWithoutLength "int") := rfl
    rw [broken] at done
    cases done

end InfraReview.Hcl
