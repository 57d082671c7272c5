import InfraReview.Proofs.Hcl.Escape
import InfraReview.Proofs.Hcl.Search

/-!
# Where source values break the reading off

Once the form of a text has been accepted, the reading of its blocks can still break off. It does so
at a value that has no literal, at a key that should be a label or a name and is no text, at a key
that is too long an integer, and at a mark that gives no line. Each of these matters only where the
reading comes by: values at the top of a text are not looked at, and a value that holds blocks is no
literal.

For every text it is said here, without the reader, whether it has such a place, and the
reading is shown to break off exactly when it has.
-/

namespace InfraReview.Hcl

/-- A value that has no literal: an integer without a double or a text with a wild escape, or a
list or a map with such a value in it, or a map with a key that is too long an integer. A text that
wraps a literal or is left as an expression is not decoded. -/
inductive ValueBreaks : Tree → Prop where
  | tooLarge {whole : Int} (large : Double.ofInt? whole = none) : ValueBreaks (.int whole)
  | escape {content : String} (unwrapped : wrapped? content.toList = none)
      (closed : hasOpener none content.toList = false) (wild : WildEscape content.toList) :
      ValueBreaks (.text content)
  | item {items : List Tree} {item : Tree} (member : item ∈ items) (breaks : ValueBreaks item) :
      ValueBreaks (.list items)
  | entry {entries : List (Key × Tree)} {key : Key} {inner : Tree}
      (member : (key, inner) ∈ entries) (breaks : ValueBreaks inner) : ValueBreaks (.map entries)
  | key {entries : List (Key × Tree)} {key : Key} {inner : Tree}
      (member : (key, inner) ∈ entries) (long : key.isLong = true) : ValueBreaks (.map entries)

/-- True for a mark that gives a line: an integer, a truth value, a finite number or the text of a
numeral with not too many digits. -/
def isLine : Tree → Bool
  | .int _ | .bool _ | .double (.finite _ _) => true
  | .text content =>
    (Numeral.excess? 10 content.toList).isNone && (Numeral.readIn 10 content.toList).isSome
  | _ => false

/-- A body has no line when its mark gives none. -/
def Lineless (entries : List (Key × Tree)) : Prop :=
  ∃ mark, Tree.entry? entries startLineKey = some mark ∧ isLine mark = false

mutual

/-- A body at which the reading breaks off: it has no line, or the reading breaks off at an
entry. -/
inductive BodyBreaks : List (Key × Tree) → Prop where
  | line {entries : List (Key × Tree)} (lineless : Lineless entries) : BodyBreaks entries
  | entry {entries : List (Key × Tree)} {key : Key} {tree : Tree}
      (member : (key, tree) ∈ entries) (breaks : EntryBreaks key tree) : BodyBreaks entries

/-- An entry of a body at which the reading breaks off: the search for blocks strays in its value,
or it holds blocks and the reading breaks off in one of them, or it is an attribute and its value
has no literal or is to be kept under a key that is no text. -/
inductive EntryBreaks : Key → Tree → Prop where
  | search {key : Key} {tree : Tree} (unmarked : isMarkKey key = false)
      (strays : SearchStrays tree) : EntryBreaks key tree
  | block {key : Key} {tree : Tree} {body : List (Key × Tree)} (unmarked : isMarkKey key = false)
      (holds : HoldsBlocks tree) (inside : Inside tree body) (breaks : BodyBreaks body) :
      EntryBreaks key tree
  | value {key : Key} {tree : Tree} (unmarked : isMarkKey key = false)
      (single : ¬ HoldsBlocks tree) (breaks : ValueBreaks tree) : EntryBreaks key tree
  | name {key : Key} {tree : Tree} {value : Value} (unmarked : isMarkKey key = false)
      (single : ¬ HoldsBlocks tree) (kept : literal tree = .ok (.value value))
      (nameless : Fails (label key)) : EntryBreaks key tree

end

/-- A whole text at whose blocks the reading breaks off: the search for blocks strays in a value,
or the reading breaks off in a block. -/
def TextBreaks (entries : List (Key × Tree)) : Prop :=
  ∃ entry ∈ entries, SearchStrays entry.2 ∨
    (HoldsBlocks entry.2 ∧ ∃ body, Inside entry.2 body ∧ BodyBreaks body)

/-! ### Values -/

/-- A text has no literal exactly when it is decoded and has a wild escape. -/
theorem stringLiteral_fails_iff (content : String) :
    Fails (stringLiteral content) ↔ ValueBreaks (.text content) := by
  have breaks : ValueBreaks (.text content) ↔ wrapped? content.toList = none ∧
      hasOpener none content.toList = false ∧ WildEscape content.toList := by
    constructor
    · intro breaks
      cases breaks with
      | escape unwrapped closed wild => exact ⟨unwrapped, closed, wild⟩
    · rintro ⟨unwrapped, closed, wild⟩
      exact .escape unwrapped closed wild
  rw [breaks, stringLiteral]
  cases wrapped : wrapped? content.toList with
  | some found => simp
  | none =>
    cases opened : hasOpener none content.toList with
    | true => simp
    | false => simp [unescape_fails_iff]

/-- A key of a map has no name exactly when it is too long. -/
theorem nameOfKey_fails_iff (key : Key) : Fails (nameOfKey key) ↔ key.isLong = true := by
  rw [nameOfKey_eq]
  split <;> simp_all

mutual

/-- A value has no literal exactly when it is said to have none. -/
theorem literal_fails_iff : ∀ tree : Tree, Fails (literal tree) ↔ ValueBreaks tree
  | .int whole => by
    rw [literal]
    constructor
    · intro broken
      split at broken
      · exact absurd broken (not_fails_ok _)
      · rename_i large
        exact .tooLarge large
    · rintro (large | _ | _ | _ | _)
      rw [large]
      exact fails_error _
  | .text content => by rw [literal, stringLiteral_fails_iff]
  | .list items => by
    have breaks : ValueBreaks (.list items) ↔ ∃ item ∈ items, ValueBreaks item := by
      constructor
      · intro breaks
        cases breaks with
        | item member breaks => exact ⟨_, member, breaks⟩
      · rintro ⟨item, member, breaks⟩
        exact .item member breaks
    rw [breaks, ← literals_fails_iff items, literal]
    refine fails_bind_sound _ fun found => ?_
    split <;> exact not_fails_ok _
  | .map entries => by
    have breaks : ValueBreaks (.map entries) ↔
        ∃ entry ∈ entries, entry.1.isLong = true ∨ ValueBreaks entry.2 := by
      constructor
      · intro breaks
        cases breaks with
        | entry member breaks => exact ⟨_, member, .inr breaks⟩
        | key member long => exact ⟨_, member, .inl long⟩
      · rintro ⟨⟨key, inner⟩, member, long | breaks⟩
        · exact .key member long
        · exact .entry member breaks
    rw [breaks, ← entryLiterals_fails_iff entries [], literal]
    refine fails_bind_sound _ fun found => ?_
    split <;> exact not_fails_ok _
  | .null | .bool _ | .double _ => by
    simp only [literal, not_fails_ok, false_iff]
    rintro ⟨⟩

/-- Items have no literals exactly when one of them has none. -/
theorem literals_fails_iff : ∀ items : List Tree,
    Fails (literals items) ↔ ∃ item ∈ items, ValueBreaks item
  | [] => by simp [literals]
  | item :: items => by
    have rest (first : Literal) : Fails (do
        let others ← literals items
        .ok (first :: others)) ↔ ∃ item ∈ items, ValueBreaks item := by
      rw [← literals_fails_iff items]
      exact fails_bind_sound _ fun others => not_fails_ok _
    rw [literals, fails_bind_apart _ rest, literal_fails_iff item]
    simp only [List.mem_cons, exists_eq_or_imp]

/-- Entries have no literals exactly when one of them has none. -/
theorem entryLiterals_fails_iff : ∀ (entries : List (Key × Tree)) (done : List (String × Literal)),
    Fails (entryLiterals done entries) ↔
      ∃ entry ∈ entries, entry.1.isLong = true ∨ ValueBreaks entry.2
  | [], _ => by simp [entryLiterals]
  | (key, tree) :: entries, done => by
    have named (name : String) : Fails (do
        let found ← literal tree
        entryLiterals (setLiteral done name found) entries) ↔
          ValueBreaks tree ∨ ∃ entry ∈ entries, entry.1.isLong = true ∨ ValueBreaks entry.2 := by
      rw [fails_bind_apart _ fun found =>
        entryLiterals_fails_iff entries (setLiteral done name found), literal_fails_iff tree]
    rw [entryLiterals, fails_bind_apart _ named, nameOfKey_fails_iff]
    simp only [List.mem_cons, exists_eq_or_imp, or_assoc]

end

/-- The mark of a body is not read exactly when it gives no line. -/
theorem markedLine_fails_iff (entries : List (Key × Tree)) :
    Fails (markedLine entries) ↔ Lineless entries := by
  unfold markedLine Lineless
  rw [fails_mapError]
  cases found : Tree.entry? entries startLineKey with
  | none => simp
  | some mark =>
    simp only [Option.some.injEq, exists_eq_left']
    cases mark with
    | double value =>
      change Fails (Numeral.ofDouble value) ↔ isLine (.double value) = false
      rw [Numeral.ofDouble, fails_mapError]
      cases value with
      | finite negative magnitude => cases negative <;> simp [Double.truncate, isLine]
      | _ => simp [Double.truncate, isLine]
    | text content =>
      change Fails (Numeral.ofTextIn 10 content) ↔ isLine (.text content) = false
      rw [Numeral.ofTextIn, isLine]
      cases Numeral.excess? 10 content.toList with
      | some digits => simp
      | none => cases Numeral.readIn 10 content.toList <;> simp
    | _ => simp [isLine]

/-! ### Bodies -/

/-- The reading breaks off at a body without a line or at one of its entries. -/
theorem bodyBreaks_iff (entries : List (Key × Tree)) :
    BodyBreaks entries ↔ Lineless entries ∨ ∃ entry ∈ entries, EntryBreaks entry.1 entry.2 := by
  constructor
  · intro breaks
    cases breaks with
    | line lineless => exact .inl lineless
    | entry member breaks => exact .inr ⟨_, member, breaks⟩
  · rintro (lineless | ⟨⟨key, tree⟩, member, breaks⟩)
    · exact .line lineless
    · exact .entry member breaks

/-- The reading does not break off at a mark. -/
theorem not_entryBreaks_mark {key : Key} (marks : isMarkKey key = true) (tree : Tree) :
    ¬ EntryBreaks key tree := by
  intro breaks
  cases breaks <;> simp_all

/-- At blocks the reading breaks off in one of them. -/
theorem entryBreaks_blocks {key : Key} {tree : Tree} (unmarked : isMarkKey key = false)
    (holds : HoldsBlocks tree) (straight : ¬ SearchStrays tree) :
    EntryBreaks key tree ↔ ∃ body, Inside tree body ∧ BodyBreaks body := by
  constructor
  · intro breaks
    cases breaks with
    | search _ strays => exact absurd strays straight
    | block _ _ inside breaks => exact ⟨_, inside, breaks⟩
    | value _ single _ => exact absurd holds single
    | name _ single _ _ => exact absurd holds single
  · rintro ⟨body, inside, breaks⟩
    exact .block unmarked holds inside breaks

/-- At an attribute the reading breaks off when its value has no literal or has one that is kept
under a key without a label. -/
theorem entryBreaks_attribute {key : Key} {tree : Tree} (unmarked : isMarkKey key = false)
    (single : ¬ HoldsBlocks tree) (straight : ¬ SearchStrays tree) :
    EntryBreaks key tree ↔ Fails (literal tree) ∨
      ∃ value, literal tree = .ok (.value value) ∧ Fails (label key) := by
  rw [literal_fails_iff]
  constructor
  · intro breaks
    cases breaks with
    | search _ strays => exact absurd strays straight
    | block _ holds _ _ => exact absurd holds single
    | value _ _ breaks => exact .inl breaks
    | name _ _ kept nameless => exact .inr ⟨_, kept, nameless⟩
  · rintro (breaks | ⟨value, kept, nameless⟩)
    · exact .value unmarked single breaks
    · exact .name unmarked single kept nameless

/-- Something inside a list has a property when something does that one of the items leads to. -/
theorem exists_inside_list (items : List Tree) (property : List (Key × Tree) → Prop) :
    (∃ body, Inside (.list items) body ∧ property body) ↔
      ∃ item ∈ items, ∃ body, Leads item body ∧ property body := by
  simp only [inside_list]
  constructor
  · rintro ⟨body, ⟨item, member, leads⟩, holds⟩
    exact ⟨item, member, body, leads, holds⟩
  · rintro ⟨item, member, body, leads, holds⟩
    exact ⟨body, ⟨item, member, leads⟩, holds⟩

/-- A body from whose entries and line something is made cannot be read exactly when the reading
breaks off at it, given that this is so for its entries. -/
theorem body_fails_iff {α : Type} {entries : List (Key × Tree)}
    (read : Fails (readEntries [] [] entries) ↔ ∃ entry ∈ entries, EntryBreaks entry.1 entry.2)
    (make : Attributes × NestedBlocks → Int → α) :
    Fails (do
      let contents ← readEntries [] [] entries
      let line ← markedLine entries
      .ok (make contents line)) ↔ BodyBreaks entries := by
  have line (contents : Attributes × NestedBlocks) : Fails (do
      let line ← markedLine entries
      .ok (make contents line)) ↔ Lineless entries := by
    rw [← markedLine_fails_iff]
    exact fails_bind_sound _ fun line => not_fails_ok _
  rw [fails_bind_apart _ line, read, bodyBreaks_iff]
  exact or_comm

mutual

/-- Entries of a body cannot be read exactly when the reading breaks off at one of them. -/
theorem readEntries_fails_iff : ∀ (entries : List (Key × Tree)) (attributes : Attributes)
    (blocks : NestedBlocks), Fails (readEntries attributes blocks entries) ↔
      ∃ entry ∈ entries, EntryBreaks entry.1 entry.2
  | [], _, _ => by simp [readEntries]
  | (key, tree) :: entries, attributes, blocks => by
    have others (attributes : Attributes) (blocks : NestedBlocks) :=
      readEntries_fails_iff entries attributes blocks
    rw [readEntries]
    simp only [List.mem_cons, exists_eq_or_imp]
    by_cases marks : isMarkKey key = true
    · rw [if_pos marks, others]
      simp [not_entryBreaks_mark marks]
    · have unmarked : isMarkKey key = false := by simpa using marks
      rw [if_neg marks]
      by_cases strays : SearchStrays tree
      · have broken := (blockBodies_fails_iff tree).mpr strays
        simp only [fails_bind, broken, true_or, true_iff]
        exact .inl (.search unmarked strays)
      · obtain ⟨found, searched⟩ := ok_of_not_fails (mt (blockBodies_fails_iff tree).mp strays)
        rw [searched]
        cases found with
        | some bodies =>
          obtain ⟨holds, straight, _⟩ := blockBodies_some searched
          have known := entryBreaks_blocks unmarked holds strays
          obtain ⟨items, rfl, _, _⟩ := holds
          rw [known, exists_inside_list]
          change Fails (readBlocks key (.list items) >>= fun more =>
            readEntries attributes (addBlocks blocks key more) entries) ↔ _
          rw [fails_bind_apart _ fun more => others attributes (addBlocks blocks key more),
            readBlocks, readItems_fails_iff items key (straight items rfl)]
        | none =>
          rw [entryBreaks_attribute unmarked (blockBodies_none searched) strays]
          cases converted : literal tree with
          | error fault => simp [bind, Except.bind]
          | ok found =>
            cases found with
            | value value =>
              change Fails (label key >>= fun name =>
                readEntries (setAttribute attributes name value) blocks entries) ↔ _
              rw [fails_bind_apart _ fun name => others _ blocks]
              simp
            | _ =>
              change Fails (readEntries attributes blocks entries) ↔ _
              simp [others]

/-- The blocks of items in which no search strays cannot be read exactly when the reading breaks
off in one of them. -/
theorem readItems_fails_iff : ∀ (items : List Tree) (type : Key),
    (∀ item ∈ items, ¬ Strays item) →
    (Fails (readItems type items) ↔ ∃ item ∈ items, ∃ body, Leads item body ∧ BodyBreaks body)
  | [], _, _ => by simp [readItems]
  | item :: items, type, straight => by
    obtain ⟨first, others⟩ := List.forall_mem_cons.mp straight
    have rest (found : List Block) : Fails (do
        let others ← readItems type items
        .ok (found ++ others)) ↔ ∃ item ∈ items, ∃ body, Leads item body ∧ BodyBreaks body := by
      rw [← readItems_fails_iff items type others]
      exact fails_bind_sound _ fun others => not_fails_ok _
    rw [readItems, fails_bind_apart _ rest, readLabelled_fails_iff item type [] first]
    simp only [List.mem_cons, exists_eq_or_imp]

/-- The blocks of an item in which no search strays cannot be read exactly when the reading
breaks off in one of them. -/
theorem readLabelled_fails_iff : ∀ (tree : Tree) (type : Key) (labels : List String),
    ¬ Strays tree →
    (Fails (readLabelled type labels tree) ↔ ∃ body, Leads tree body ∧ BodyBreaks body)
  | .map entries, type, labels, straight => by
    rw [readLabelled]
    by_cases marked : isMarked entries = true
    · rw [if_pos marked]
      simp only [leads_marked marked, exists_eq_left]
      exact body_fails_iff (readEntries_fails_iff entries [] []) fun contents line =>
        [(⟨type, labels, contents.1, contents.2, line⟩ : Block)]
    · have unmarked : isMarked entries = false := by simpa using marked
      rw [strays_unmarked unmarked] at straight
      rw [if_neg marked, readUnder_fails_iff entries type labels (by simpa using straight)]
      simp only [leads_unmarked unmarked]
      constructor
      · rintro ⟨entry, member, body, leads, breaks⟩
        exact ⟨body, ⟨entry, member, leads⟩, breaks⟩
      · rintro ⟨body, ⟨entry, member, leads⟩, breaks⟩
        exact ⟨entry, member, body, leads, breaks⟩
  | .null, _, _, _ | .bool _, _, _, _ | .int _, _, _, _ | .double _, _, _, _ | .text _, _, _, _
  | .list _, _, _, _ => by
    simp only [readLabelled, not_fails_ok, false_iff]
    rintro ⟨body, ⟨⟩, _⟩

/-- The blocks under labels cannot be read exactly when the reading breaks off in one of them. -/
theorem readUnder_fails_iff : ∀ (entries : List (Key × Tree)) (type : Key) (labels : List String),
    (∀ entry ∈ entries, ¬ Fails (label entry.1) ∧ ¬ Strays entry.2) →
    (Fails (readUnder type labels entries) ↔
      ∃ entry ∈ entries, ∃ body, Leads entry.2 body ∧ BodyBreaks body)
  | [], _, _, _ => by simp [readUnder]
  | (key, inner) :: entries, type, labels, straight => by
    obtain ⟨⟨named, first⟩, others⟩ := List.forall_mem_cons.mp straight
    obtain ⟨next, named⟩ := ok_of_not_fails named
    have rest (found : List Block) : Fails (do
        let others ← readUnder type labels entries
        .ok (found ++ others)) ↔
        ∃ entry ∈ entries, ∃ body, Leads entry.2 body ∧ BodyBreaks body := by
      rw [← readUnder_fails_iff entries type labels others]
      exact fails_bind_sound _ fun others => not_fails_ok _
    rw [readUnder, named]
    change Fails (readLabelled type (labels ++ [next]) inner >>= fun found => do
      let others ← readUnder type labels entries
      .ok (found ++ others)) ↔ _
    rw [fails_bind_apart _ rest, readLabelled_fails_iff inner type _ first]
    simp only [List.mem_cons, exists_eq_or_imp]

end

/-- A block cannot be read exactly when the reading breaks off at its body. -/
theorem toBlock_fails_iff (type : Key) (body : LabelledBody) :
    Fails (toBlock type body) ↔ BodyBreaks body.entries := by
  rw [toBlock]
  exact body_fails_iff (readEntries_fails_iff body.entries [] []) fun contents line =>
    (⟨type, body.labels, contents.1, contents.2, line⟩ : Block)

/-- The blocks of a text cannot be read exactly when the reading breaks off at them. -/
theorem topBlocks_fails_iff (entries : List (Key × Tree)) :
    Fails (topBlocks entries) ↔ TextBreaks entries := by
  unfold TextBreaks
  induction entries with
  | nil => simp [topBlocks]
  | cons entry entries inductionHypothesis =>
    obtain ⟨key, tree⟩ := entry
    simp only [List.mem_cons, exists_eq_or_imp, ← inductionHypothesis]
    rw [topBlocks]
    by_cases strays : SearchStrays tree
    · have broken := (blockBodies_fails_iff tree).mpr strays
      simp [fails_bind, broken, strays]
    · obtain ⟨found, searched⟩ := ok_of_not_fails (mt (blockBodies_fails_iff tree).mp strays)
      rw [searched]
      cases found with
      | none =>
        have single := blockBodies_none searched
        change Fails (topBlocks entries) ↔ _
        simp [strays, single]
      | some bodies =>
        obtain ⟨holds, _, members⟩ := blockBodies_some searched
        have broken : Fails (bodies.mapM (toBlock key)) ↔
            ∃ body, Inside tree body ∧ BodyBreaks body := by
          simp only [fails_mapM, toBlock_fails_iff, ← members]
          constructor
          · rintro ⟨body, member, breaks⟩
            exact ⟨body.entries, List.mem_map_of_mem member, breaks⟩
          · rintro ⟨_, member, breaks⟩
            obtain ⟨body, found, rfl⟩ := List.mem_map.mp member
            exact ⟨body, found, breaks⟩
        change Fails (bodies.mapM (toBlock key) >>= fun found => do
          let others ← topBlocks entries
          .ok (found ++ others)) ↔ _
        have rest (found : List Block) : Fails (do
            let others ← topBlocks entries
            .ok (found ++ others)) ↔ Fails (topBlocks entries) :=
          fails_bind_sound _ fun others => not_fails_ok _
        rw [fails_bind_apart _ rest, broken]
        simp [strays, holds]

end InfraReview.Hcl
