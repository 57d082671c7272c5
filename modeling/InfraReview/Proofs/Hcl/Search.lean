import InfraReview.Hcl.Body
import InfraReview.Proofs.Success

/-!
# The search for bodies

A value is searched for the marked maps in it before it is known whether it holds blocks. The
search goes through maps alone, and every key that it meets on its way is taken for a label.
So it fails at a key that is no text, even in a value that turns out to be no list of blocks.

Here it is said what a value leads to and where a search strays, without the lists that the
search puts together, and the search is shown to agree with that.
-/

namespace InfraReview.Hcl

/-- A value leads to a marked map when it is the map or a map that is not marked and has a value
that leads there. -/
inductive Leads : Tree → List (Key × Tree) → Prop where
  | here {entries : List (Key × Tree)} (marked : isMarked entries = true) :
      Leads (.map entries) entries
  | under {entries body : List (Key × Tree)} {key : Key} {inner : Tree}
      (unmarked : isMarked entries = false) (member : (key, inner) ∈ entries)
      (leads : Leads inner body) : Leads (.map entries) body

/-- A value holds a body when it leads to one. -/
def HoldsBody (tree : Tree) : Prop := ∃ body, Leads tree body

/-- A search strays in a value when it meets a key there that is no text. -/
inductive Strays : Tree → Prop where
  | here {entries : List (Key × Tree)} {key : Key} {inner : Tree}
      (unmarked : isMarked entries = false) (member : (key, inner) ∈ entries)
      (nameless : Fails (label key)) : Strays (.map entries)
  | under {entries : List (Key × Tree)} {key : Key} {inner : Tree}
      (unmarked : isMarked entries = false) (member : (key, inner) ∈ entries)
      (strays : Strays inner) : Strays (.map entries)

/-- A value holds blocks when it is a list that is not empty and of which every item holds a
body. -/
def HoldsBlocks (tree : Tree) : Prop :=
  ∃ items, tree = .list items ∧ items ≠ [] ∧ ∀ item ∈ items, HoldsBody item

/-- A body is inside a value when an item of the value leads to it. -/
def Inside (tree : Tree) (body : List (Key × Tree)) : Prop :=
  ∃ items item, tree = .list items ∧ item ∈ items ∧ Leads item body

/-- The search of a list strays in the first item without a body or in one before it. -/
def SearchStrays (tree : Tree) : Prop :=
  ∃ before item after, tree = .list (before ++ item :: after) ∧
    (∀ earlier ∈ before, HoldsBody earlier) ∧ Strays item

/-! ### The mark of a body -/

/-- An entry with another key does not stand before what is looked up. -/
theorem entry?_other {key : Key} {name : String} (other : key ≠ .text name) (tree : Tree)
    (entries : List (Key × Tree)) :
    Tree.entry? ((key, tree) :: entries) name = Tree.entry? entries name := by
  have skipped : (Key.text name == key) = false := by simpa using Ne.symm other
  simp [Tree.entry?, List.lookup_cons, skipped]

/-- An entry that is no mark does not mark a map. -/
theorem isMarked_other {key : Key} (noMark : key ≠ .text startLineKey) (tree : Tree)
    (entries : List (Key × Tree)) : isMarked ((key, tree) :: entries) = isMarked entries := by
  rw [isMarked, entry?_other noMark, isMarked]

/-- A map with an integer for its mark is a body that starts on that line. -/
theorem markedLine_of_entry {body : List (Key × Tree)} {line : Int}
    (found : Tree.entry? body startLineKey = some (.int line)) :
    isMarked body = true ∧ markedLine body = .ok line := by
  constructor
  · rw [isMarked, found]
    rfl
  · simp only [markedLine, found]
    rfl

/-! ### Maps -/

/-- What a key has no label for is told by its sort. -/
theorem label_fault {key : Key} {fault : LiteralFault} (failed : label key = .error fault) :
    ∃ sort, fault = .labelWithoutLength sort := by
  cases key <;> cases failed <;> exact ⟨_, rfl⟩

/-- A marked map leads to itself and to nothing else. -/
theorem leads_marked {entries : List (Key × Tree)} (marked : isMarked entries = true)
    (body : List (Key × Tree)) : Leads (.map entries) body ↔ body = entries := by
  constructor
  · intro leads
    cases leads with
    | here => rfl
    | under unmarked _ _ => simp [marked] at unmarked
  · rintro rfl
    exact .here marked

/-- A map that is not marked leads to what its values lead to. -/
theorem leads_unmarked {entries : List (Key × Tree)} (unmarked : isMarked entries = false)
    (body : List (Key × Tree)) :
    Leads (.map entries) body ↔ ∃ entry ∈ entries, Leads entry.2 body := by
  constructor
  · intro leads
    cases leads with
    | here marked => simp [unmarked] at marked
    | under _ member leads => exact ⟨_, member, leads⟩
  · rintro ⟨⟨key, inner⟩, member, leads⟩
    exact .under unmarked member leads

/-- No search strays in a marked map. -/
theorem not_strays_marked {entries : List (Key × Tree)} (marked : isMarked entries = true) :
    ¬ Strays (.map entries) := by
  intro strays
  cases strays with
  | here unmarked _ _ => simp [marked] at unmarked
  | under unmarked _ _ => simp [marked] at unmarked

/-- A search strays in a map that is not marked at a key of the map or in one of its values. -/
theorem strays_unmarked {entries : List (Key × Tree)} (unmarked : isMarked entries = false) :
    Strays (.map entries) ↔ ∃ entry ∈ entries, Fails (label entry.1) ∨ Strays entry.2 := by
  constructor
  · intro strays
    cases strays with
    | here _ member nameless => exact ⟨_, member, .inl nameless⟩
    | under _ member strays => exact ⟨_, member, .inr strays⟩
  · rintro ⟨⟨key, inner⟩, member, nameless | strays⟩
    · exact .here unmarked member nameless
    · exact .under unmarked member strays

mutual

/-- The search of a value fails exactly when it strays. -/
theorem unwrapLabels_fails_iff : ∀ (tree : Tree) (labels : List String),
    Fails (unwrapLabels labels tree) ↔ Strays tree
  | .map entries, labels => by
    rw [unwrapLabels]
    by_cases marked : isMarked entries = true
    · simp [marked, not_strays_marked marked]
    · have unmarked : isMarked entries = false := by simpa using marked
      rw [if_neg marked, unwrapEntries_fails_iff entries labels, strays_unmarked unmarked]
  | .null, _ | .bool _, _ | .int _, _ | .double _, _ | .text _, _ | .list _, _ => by
    simp only [unwrapLabels, not_fails_ok, false_iff]
    rintro ⟨⟩

/-- The search of entries fails exactly when it strays at a key or in a value of theirs. -/
theorem unwrapEntries_fails_iff : ∀ (entries : List (Key × Tree)) (labels : List String),
    Fails (unwrapEntries labels entries) ↔
      ∃ entry ∈ entries, Fails (label entry.1) ∨ Strays entry.2
  | [], _ => by simp [unwrapEntries]
  | (key, inner) :: entries, labels => by
    have rest (next : String) : Fails (do
        let found ← unwrapLabels (labels ++ [next]) inner
        let others ← unwrapEntries labels entries
        .ok (found ++ others)) ↔
        Strays inner ∨ ∃ entry ∈ entries, Fails (label entry.1) ∨ Strays entry.2 := by
      rw [← unwrapLabels_fails_iff inner (labels ++ [next]),
        ← unwrapEntries_fails_iff entries labels]
      exact fails_bind_apart _ fun found => fails_bind_sound _ fun others => not_fails_ok _
    rw [unwrapEntries, fails_bind_apart _ rest]
    simp only [List.mem_cons, exists_eq_or_imp, or_assoc]

end

mutual

/-- A search finds the bodies that a value leads to. -/
theorem mem_unwrapLabels : ∀ (tree : Tree) (labels : List String) (found : List LabelledBody),
    unwrapLabels labels tree = .ok found → ∀ body, body ∈ found.map (·.entries) ↔ Leads tree body
  | .map entries, labels, found, done, body => by
    rw [unwrapLabels] at done
    by_cases marked : isMarked entries = true
    · rw [if_pos marked] at done
      cases done
      simp [leads_marked marked]
    · have unmarked : isMarked entries = false := by simpa using marked
      rw [if_neg marked] at done
      rw [leads_unmarked unmarked, mem_unwrapEntries entries labels found done]
  | .null, _, found, done, body | .bool _, _, found, done, body | .int _, _, found, done, body
  | .double _, _, found, done, body | .text _, _, found, done, body
  | .list _, _, found, done, body => by
    simp only [unwrapLabels, Except.ok.injEq] at done
    subst done
    simp only [List.map_nil, List.not_mem_nil, false_iff]
    rintro ⟨⟩

/-- A search finds the bodies that the values of entries lead to. -/
theorem mem_unwrapEntries : ∀ (entries : List (Key × Tree)) (labels : List String)
    (found : List LabelledBody), unwrapEntries labels entries = .ok found →
    ∀ body, body ∈ found.map (·.entries) ↔ ∃ entry ∈ entries, Leads entry.2 body
  | [], _, found, done, body => by
    simp only [unwrapEntries, Except.ok.injEq] at done
    subst done
    simp
  | (key, inner) :: entries, labels, found, done, body => by
    rw [unwrapEntries] at done
    obtain ⟨next, _, done⟩ := ok_of_bind done
    obtain ⟨first, firstDone, done⟩ := ok_of_bind done
    obtain ⟨others, othersDone, done⟩ := ok_of_bind done
    cases done
    rw [List.map_append, List.mem_append, mem_unwrapLabels inner _ first firstDone,
      mem_unwrapEntries entries labels others othersDone]
    simp only [List.mem_cons, exists_eq_or_imp]

end

mutual

/-- A search fails with the sort of a key that has no label. -/
theorem unwrapLabels_fault : ∀ (tree : Tree) (labels : List String) (fault : LiteralFault),
    unwrapLabels labels tree = .error fault → ∃ sort, fault = .labelWithoutLength sort
  | .map entries, labels, fault, failed => by
    rw [unwrapLabels] at failed
    split at failed
    · cases failed
    · exact unwrapEntries_fault entries labels fault failed
  | .null, _, _, failed | .bool _, _, _, failed | .int _, _, _, failed | .double _, _, _, failed
  | .text _, _, _, failed | .list _, _, _, failed => by
    simp [unwrapLabels] at failed

/-- A search of entries fails with the sort of a key that has no label. -/
theorem unwrapEntries_fault : ∀ (entries : List (Key × Tree)) (labels : List String)
    (fault : LiteralFault), unwrapEntries labels entries = .error fault →
    ∃ sort, fault = .labelWithoutLength sort
  | [], _, _, failed => by simp [unwrapEntries] at failed
  | (key, inner) :: entries, labels, fault, failed => by
    rw [unwrapEntries] at failed
    rcases error_of_bind failed with named | ⟨next, _, failed⟩
    · exact label_fault named
    rcases error_of_bind failed with searched | ⟨first, _, failed⟩
    · exact unwrapLabels_fault inner _ _ searched
    rcases error_of_bind failed with searched | ⟨others, _, failed⟩
    · exact unwrapEntries_fault entries _ _ searched
    cases failed

end

/-! ### Lists -/

/-- A value that a search does not stray in holds a body exactly when the search finds one. -/
theorem holdsBody_iff {tree : Tree} {labels : List String} {found : List LabelledBody}
    (done : unwrapLabels labels tree = .ok found) : HoldsBody tree ↔ found.isEmpty = false := by
  have members := mem_unwrapLabels tree labels found done
  unfold HoldsBody
  simp only [← members]
  cases found with
  | nil => simp
  | cons first found => simp

/-- The search of items fails exactly when it strays in one before which every item holds a
body. -/
theorem bodiesOfItems_fails_iff (items : List Tree) :
    Fails (bodiesOfItems items) ↔
      ∃ before item after, items = before ++ item :: after ∧
        (∀ earlier ∈ before, HoldsBody earlier) ∧ Strays item := by
  induction items with
  | nil => simp [bodiesOfItems]
  | cons item items inductionHypothesis =>
    have split : (∃ before other after, item :: items = before ++ other :: after ∧
        (∀ earlier ∈ before, HoldsBody earlier) ∧ Strays other) ↔
        Strays item ∨ (HoldsBody item ∧ Fails (bodiesOfItems items)) := by
      rw [inductionHypothesis]
      constructor
      · rintro ⟨before, other, after, same, held, strays⟩
        cases before with
        | nil =>
          obtain ⟨rfl, rfl⟩ := List.cons.inj same
          exact .inl strays
        | cons first before =>
          obtain ⟨rfl, rfl⟩ := List.cons.inj same
          obtain ⟨first, others⟩ := List.forall_mem_cons.mp held
          exact .inr ⟨first, before, other, after, rfl, others, strays⟩
      · rintro (strays | ⟨first, before, other, after, rfl, others, strays⟩)
        · exact ⟨[], item, items, rfl, by simp, strays⟩
        · exact ⟨item :: before, other, after, rfl, List.forall_mem_cons.mpr ⟨first, others⟩,
            strays⟩
    rw [split, bodiesOfItems, fails_bind, unwrapLabels_fails_iff]
    by_cases strays : Strays item
    · simp [strays]
    · obtain ⟨found, done⟩ := ok_of_not_fails (mt (unwrapLabels_fails_iff item []).mp strays)
      simp only [strays, false_or, done, Except.ok.injEq, exists_eq_left', holdsBody_iff done]
      cases empty : found.isEmpty with
      | true => simp
      | false => simpa using fails_bind_sound _ fun others => not_fails_ok _

/-- The search of items fails with the sort of a key that has no label. -/
theorem bodiesOfItems_fault {items : List Tree} {fault : LiteralFault}
    (failed : bodiesOfItems items = .error fault) : ∃ sort, fault = .labelWithoutLength sort := by
  induction items with
  | nil => cases failed
  | cons item items inductionHypothesis =>
    rw [bodiesOfItems] at failed
    rcases error_of_bind failed with searched | ⟨found, _, failed⟩
    · exact unwrapLabels_fault item [] _ searched
    split at failed
    · cases failed
    rcases error_of_bind failed with searched | ⟨others, _, failed⟩
    · exact inductionHypothesis searched
    cases failed

/-- Items of which some have no body hold no blocks. -/
theorem bodiesOfItems_none {items : List Tree} (done : bodiesOfItems items = .ok none) :
    ∃ item ∈ items, ¬ HoldsBody item := by
  induction items with
  | nil => cases done
  | cons item items inductionHypothesis =>
    rw [bodiesOfItems] at done
    obtain ⟨found, searched, done⟩ := ok_of_bind done
    split at done
    · rename_i empty
      refine ⟨item, List.mem_cons_self, ?_⟩
      rw [holdsBody_iff searched, empty]
      decide
    · obtain ⟨others, searchedOthers, done⟩ := ok_of_bind done
      cases others with
      | none =>
        obtain ⟨other, member, bare⟩ := inductionHypothesis searchedOthers
        exact ⟨other, List.mem_cons_of_mem _ member, bare⟩
      | some others => cases done

/-- When bodies are found in items, every item holds one and no search strays, and they are the
bodies that the items lead to. -/
theorem bodiesOfItems_some {items : List Tree} {bodies : List LabelledBody}
    (done : bodiesOfItems items = .ok (some bodies)) :
    (∀ item ∈ items, HoldsBody item ∧ ¬ Strays item) ∧
      ∀ body, body ∈ bodies.map (·.entries) ↔ ∃ item ∈ items, Leads item body := by
  induction items generalizing bodies with
  | nil =>
    cases done
    simp
  | cons item items inductionHypothesis =>
    rw [bodiesOfItems] at done
    obtain ⟨found, searched, done⟩ := ok_of_bind done
    split at done
    · cases done
    · rename_i filled
      obtain ⟨others, searchedOthers, done⟩ := ok_of_bind done
      cases others with
      | none => cases done
      | some others =>
        cases done
        obtain ⟨held, members⟩ := inductionHypothesis searchedOthers
        have first : HoldsBody item ∧ ¬ Strays item := by
          refine ⟨(holdsBody_iff searched).mpr (by simpa using filled), ?_⟩
          rw [← unwrapLabels_fails_iff item [], searched]
          exact not_fails_ok _
        refine ⟨List.forall_mem_cons.mpr ⟨first, held⟩, fun body => ?_⟩
        rw [List.map_append, List.mem_append, mem_unwrapLabels item [] found searched, members]
        simp only [List.mem_cons, exists_eq_or_imp]

/-- The search of a value fails exactly when it strays. -/
theorem blockBodies_fails_iff (tree : Tree) : Fails (blockBodies tree) ↔ SearchStrays tree := by
  unfold SearchStrays
  cases tree with
  | list items =>
    cases items with
    | nil => simp [blockBodies]
    | cons item items =>
      rw [blockBodies, bodiesOfItems_fails_iff]
      · simp
      · simp
  | _ => simp [blockBodies]

/-- The search of a value fails with the sort of a key that has no label. -/
theorem blockBodies_fault {tree : Tree} {fault : LiteralFault}
    (failed : blockBodies tree = .error fault) : ∃ sort, fault = .labelWithoutLength sort := by
  cases tree with
  | list items =>
    cases items with
    | nil => cases failed
    | cons item items =>
      rw [blockBodies] at failed
      · exact bodiesOfItems_fault failed
      · simp
  | _ => cases failed

/-- What is inside a list is what its items lead to. -/
theorem inside_list (items : List Tree) (body : List (Key × Tree)) :
    Inside (.list items) body ↔ ∃ item ∈ items, Leads item body := by
  constructor
  · rintro ⟨_, item, ⟨⟩, member, leads⟩
    exact ⟨item, member, leads⟩
  · rintro ⟨item, member, leads⟩
    exact ⟨items, item, rfl, member, leads⟩

/-- What is taken for the value of an attribute holds no blocks. -/
theorem blockBodies_none {tree : Tree} (done : blockBodies tree = .ok none) :
    ¬ HoldsBlocks tree := by
  rintro ⟨items, rfl, nonempty, held⟩
  rw [blockBodies] at done
  · obtain ⟨item, member, bare⟩ := bodiesOfItems_none done
    exact bare (held item member)
  · exact nonempty

/-- What is taken for blocks holds blocks, no search strays in its items, and the bodies are those
inside it. -/
theorem blockBodies_some {tree : Tree} {bodies : List LabelledBody}
    (done : blockBodies tree = .ok (some bodies)) :
    HoldsBlocks tree ∧ (∀ items, tree = .list items → ∀ item ∈ items, ¬ Strays item) ∧
      ∀ body, body ∈ bodies.map (·.entries) ↔ Inside tree body := by
  cases tree with
  | list items =>
    cases items with
    | nil => cases done
    | cons item items =>
      rw [blockBodies] at done
      · obtain ⟨held, members⟩ := bodiesOfItems_some done
        refine ⟨⟨item :: items, rfl, List.cons_ne_nil _ _, fun other member =>
          (held other member).1⟩, ?_, fun body => ?_⟩
        · rintro _ ⟨⟩ other member
          exact (held other member).2
        · rw [members, inside_list]
      · simp
  | _ => cases done

end InfraReview.Hcl
