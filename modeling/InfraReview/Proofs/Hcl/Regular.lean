import InfraReview.Proofs.Entity.Regular
import InfraReview.Proofs.Hcl.Search
import InfraReview.Proofs.Resource.Body

/-!
# Regular blocks of source text

The reader of a body carries its tables along and adds one entry after the other: an attribute under
a new name, or all blocks of a new type. That the names and the types are new is what the form of
source text sees to. In a body each key stands once, and a key without quotes is its own name, so an
entry never falls on an earlier one. Nothing else is asked of a text here.
-/

namespace InfraReview.Hcl

open Resource (setAttribute_fresh addBlocks_fresh)

/-- A body is plain when it has each of its keys once and without quotes, and when the bodies inside
its values are plain, at every depth. -/
inductive PlainBody : List (Key × Tree) → Prop where
  | of {body : List (Key × Tree)} (once : (body.map Prod.fst).Nodup)
      (unquoted : ∀ name, .text name ∈ body.map Prod.fst → unquote name = name)
      (inner : ∀ entry ∈ body, ∀ other, Inside entry.2 other → PlainBody other) : PlainBody body

/-- A value leads to plain bodies only. -/
def LeadsToPlain (tree : Tree) : Prop := ∀ body, Leads tree body → PlainBody body

/-- A whole text is plain when the bodies inside its values are. -/
def PlainText (found : List (Key × Tree)) : Prop :=
  ∀ entry ∈ found, ∀ body, Inside entry.2 body → PlainBody body

/-- Blocks are orderly under a type when they are of the type and have orderly tables. -/
def OrderlyUnder (type : Key) (blocks : List Block) : Prop :=
  ∀ block ∈ blocks, block.type = type ∧ Orderly block.attributes block.blocks

/-- Blocks of two lists are orderly when both lists are. -/
theorem OrderlyUnder.append {type : Key} {first second : List Block}
    (left : OrderlyUnder type first) (right : OrderlyUnder type second) :
    OrderlyUnder type (first ++ second) :=
  List.forall_mem_append.mpr ⟨left, right⟩

/-! ### Values that hold bodies -/

/-- An item that holds a body has a block. Proof: by induction on the way to the body. -/
theorem readLabelled_ne_nil {tree : Tree} {body : List (Key × Tree)} (leads : Leads tree body)
    {type : Key} {labels : List String} {blocks : List Block}
    (done : readLabelled type labels tree = .ok blocks) : blocks ≠ [] := by
  induction leads generalizing labels blocks with
  | here marked =>
    rw [readLabelled, if_pos marked] at done
    obtain ⟨contents, _, done⟩ := ok_of_bind done
    obtain ⟨line, _, same⟩ := ok_of_bind done
    cases same
    exact List.cons_ne_nil _ _
  | @under entries _ key inner unmarked member _ inductionHypothesis =>
    rw [readLabelled, if_neg (by simp [unmarked])] at done
    clear unmarked
    -- the value stands under one of the keys, and the blocks of the other ones are around its own
    induction entries generalizing blocks with
    | nil => cases member
    | cons entry entries others =>
      rw [readUnder] at done
      obtain ⟨next, _, done⟩ := ok_of_bind done
      obtain ⟨found, own, done⟩ := ok_of_bind done
      obtain ⟨rest, behind, same⟩ := ok_of_bind done
      cases same
      rcases List.mem_cons.mp member with rfl | later
      · simp [inductionHypothesis own]
      · simp [others later behind]

/-- A value that holds blocks has some. -/
theorem readBlocks_ne_nil {tree : Tree} (holds : HoldsBlocks tree) {type : Key}
    {blocks : List Block} (done : readBlocks type tree = .ok blocks) : blocks ≠ [] := by
  obtain ⟨items, rfl, nonempty, held⟩ := holds
  cases items with
  | nil => exact absurd rfl nonempty
  | cons item items =>
    rw [readBlocks, readItems] at done
    obtain ⟨found, own, done⟩ := ok_of_bind done
    obtain ⟨rest, _, same⟩ := ok_of_bind done
    cases same
    obtain ⟨body, leads⟩ := held item List.mem_cons_self
    simp [readLabelled_ne_nil leads own]

/-! ### Bodies -/

/-- Entries whose keys stand once, unquoted and apart from the keys of tables, with plain bodies in
their values. It is what is left of a body while it is read. -/
structure Fresh (attributes : Attributes) (blocks : NestedBlocks)
    (entries : List (Key × Tree)) : Prop where
  once : (entries.map Prod.fst).Nodup
  apart : ∀ key ∈ entries.map Prod.fst, key ∉ tableKeys attributes blocks
  unquoted : ∀ name, .text name ∈ entries.map Prod.fst → unquote name = name
  inner : ∀ entry ∈ entries, ∀ body, Inside entry.2 body → PlainBody body

/-- A plain body is fresh for empty tables. -/
theorem PlainBody.fresh {body : List (Key × Tree)} (plain : PlainBody body) : Fresh [] [] body := by
  cases plain with
  | of once unquoted inner => exact ⟨once, by simp [tableKeys], unquoted, inner⟩

namespace Fresh

variable {attributes more : Attributes} {blocks others : NestedBlocks} {key : Key} {name : String}
  {tree : Tree} {entries : List (Key × Tree)}

/-- The first key is not among those of the tables. -/
theorem head (fresh : Fresh attributes blocks ((key, tree) :: entries)) :
    key ∉ tableKeys attributes blocks := fresh.apart key List.mem_cons_self

/-- The entries behind the first one are fresh after something is added under its key at most. -/
theorem tail (fresh : Fresh attributes blocks ((key, tree) :: entries))
    (added : ∀ other ∈ tableKeys more others, other = key) :
    Fresh (attributes ++ more) (blocks ++ others) entries where
  once := (List.nodup_cons.mp fresh.once).2
  apart := by
    intro other member found
    rcases mem_tableKeys_append.mp found with before | new
    · exact fresh.apart other (List.mem_cons_of_mem _ member) before
    · exact (List.nodup_cons.mp fresh.once).1 (added other new ▸ member)
  unquoted name member := fresh.unquoted name (List.mem_cons_of_mem _ member)
  inner entry member := fresh.inner entry (List.mem_cons_of_mem _ member)

/-- The entries behind the first one are fresh. -/
theorem skip (fresh : Fresh attributes blocks ((key, tree) :: entries)) :
    Fresh attributes blocks entries := by
  have added : ∀ other ∈ tableKeys [] [], other = key := by simp [tableKeys]
  simpa using fresh.tail added

/-- Orderly tables stay so when a table is added that has the key of the first entry at most. -/
theorem append (fresh : Fresh attributes blocks ((key, tree) :: entries))
    (orderly : Orderly attributes blocks) (addition : Orderly more others)
    (added : ∀ other ∈ tableKeys more others, other = key) :
    Orderly (attributes ++ more) (blocks ++ others) := by
  apply orderly.append addition
  intro other before new
  exact fresh.head (added other new ▸ before)

/-- An attribute under the first key keeps the tables orderly and the other entries fresh. -/
theorem setAttribute (fresh : Fresh attributes blocks ((.text name, tree) :: entries))
    (orderly : Orderly attributes blocks) (value : Value) :
    Orderly (setAttribute attributes name value) blocks ∧
      Fresh (Hcl.setAttribute attributes name value) blocks entries := by
  have added : ∀ other ∈ tableKeys [(name, value)] [], other = .text name := by simp [tableKeys]
  have absent : name ∉ attributes.map Prod.fst := by
    intro member
    exact fresh.head (List.mem_append_left _ (by simpa using member))
  rw [setAttribute_fresh absent]
  constructor
  · simpa using fresh.append orderly (.single name value) added
  · simpa using fresh.tail added

/-- Orderly blocks under the first key, of which there are some, keep the tables orderly and the
other entries fresh. -/
theorem addBlocks (fresh : Fresh attributes blocks ((key, tree) :: entries))
    (orderly : Orderly attributes blocks) {group : List Block} (filled : group ≠ [])
    (under : OrderlyUnder key group) :
    Orderly attributes (addBlocks blocks key group) ∧
      Fresh attributes (Hcl.addBlocks blocks key group) entries := by
  have added : ∀ other ∈ tableKeys [] [(key, group)], other = key := by simp [tableKeys]
  have addition : Orderly [] [(key, group)] := by
    apply Orderly.group filled
    · intro block member
      exact (under block member).1
    · intro block member
      exact (under block member).2
  have absent : key ∉ blocks.map Prod.fst := by
    intro member
    exact fresh.head (List.mem_append_right _ member)
  rw [addBlocks_fresh absent]
  constructor
  · simpa using fresh.append orderly addition added
  · simpa using fresh.tail added

end Fresh

mutual

/-- The tables stay orderly while fresh entries are read. Proof: by recursion on the entries along
their reading; each step adds a table that has the key of its entry alone. -/
theorem orderly_readEntries : ∀ (entries : List (Key × Tree)) {attributes : Attributes}
    {blocks : NestedBlocks} {contents : Attributes × NestedBlocks}, Orderly attributes blocks →
    Fresh attributes blocks entries → readEntries attributes blocks entries = .ok contents →
    Orderly contents.1 contents.2
  | [], _, _, _, orderly, _, done => by
    rw [readEntries] at done
    cases done
    exact orderly
  | (key, tree) :: entries, attributes, blocks, _, orderly, fresh, done => by
    rw [readEntries] at done
    split at done
    · exact orderly_readEntries entries orderly fresh.skip done
    · obtain ⟨searched, search, done⟩ := ok_of_bind done
      cases searched with
      | some bodies =>
        obtain ⟨more, read, done⟩ := ok_of_bind done
        obtain ⟨holds, _, _⟩ := blockBodies_some search
        have under := orderly_readBlocks tree key (fresh.inner _ List.mem_cons_self) read
        obtain ⟨orderly, fresh⟩ := fresh.addBlocks orderly (readBlocks_ne_nil holds read) under
        exact orderly_readEntries entries orderly fresh done
      | none =>
        obtain ⟨converted, _, done⟩ := ok_of_bind done
        cases converted with
        | value value =>
          obtain ⟨name, named, done⟩ := ok_of_bind done
          cases key with
          | text content =>
            obtain rfl : unquote content = name := Except.ok.inj named
            rw [fresh.unquoted content List.mem_cons_self] at done
            obtain ⟨orderly, fresh⟩ := fresh.setAttribute orderly value
            exact orderly_readEntries entries orderly fresh done
          | _ => cases named
        | _ => exact orderly_readEntries entries orderly fresh.skip done

/-- The blocks of a value with plain bodies are orderly. -/
theorem orderly_readBlocks : ∀ (tree : Tree) (type : Key) {blocks : List Block},
    (∀ body, Inside tree body → PlainBody body) → readBlocks type tree = .ok blocks →
    OrderlyUnder type blocks
  | .list items, type, _, plain, done => by
    rw [readBlocks] at done
    apply orderly_readItems items type ?_ done
    intro item member body leads
    exact plain body ⟨items, item, rfl, member, leads⟩
  | .null, _, _, _, done | .bool _, _, _, _, done | .int _, _, _, _, done | .double _, _, _, _, done
  | .text _, _, _, _, done | .map _, _, _, _, done => by
    rw [readBlocks] at done
    · cases done
      exact List.forall_mem_nil _
    all_goals simp

/-- The blocks of items that lead to plain bodies are orderly. -/
theorem orderly_readItems : ∀ (items : List Tree) (type : Key) {blocks : List Block},
    (∀ item ∈ items, LeadsToPlain item) → readItems type items = .ok blocks →
    OrderlyUnder type blocks
  | [], _, _, _, done => by
    rw [readItems] at done
    cases done
    exact List.forall_mem_nil _
  | item :: items, type, _, plain, done => by
    obtain ⟨first, others⟩ := List.forall_mem_cons.mp plain
    rw [readItems] at done
    obtain ⟨found, own, done⟩ := ok_of_bind done
    obtain ⟨rest, behind, same⟩ := ok_of_bind done
    cases same
    exact (orderly_readLabelled item type [] first own).append
      (orderly_readItems items type others behind)

/-- The blocks of an item that leads to plain bodies are orderly. -/
theorem orderly_readLabelled : ∀ (tree : Tree) (type : Key) (labels : List String)
    {blocks : List Block}, LeadsToPlain tree → readLabelled type labels tree = .ok blocks →
    OrderlyUnder type blocks
  | .map entries, type, labels, _, plain, done => by
    rw [readLabelled] at done
    by_cases marked : isMarked entries = true
    · rw [if_pos marked] at done
      obtain ⟨contents, read, done⟩ := ok_of_bind done
      obtain ⟨line, _, same⟩ := ok_of_bind done
      cases same
      have inside := orderly_readEntries entries .nil (plain entries (.here marked)).fresh read
      simpa [OrderlyUnder] using inside
    · rw [if_neg marked] at done
      apply orderly_readUnder entries type labels ?_ done
      intro entry member body leads
      exact plain body (.under (by simpa using marked) member leads)
  | .null, _, _, _, _, done | .bool _, _, _, _, _, done | .int _, _, _, _, _, done
  | .double _, _, _, _, _, done | .text _, _, _, _, _, done | .list _, _, _, _, _, done => by
    rw [readLabelled] at done
    · cases done
      exact List.forall_mem_nil _
    all_goals simp

/-- The blocks under labels are orderly when the values there lead to plain bodies. -/
theorem orderly_readUnder : ∀ (entries : List (Key × Tree)) (type : Key) (labels : List String)
    {blocks : List Block}, (∀ entry ∈ entries, LeadsToPlain entry.2) →
    readUnder type labels entries = .ok blocks → OrderlyUnder type blocks
  | [], _, _, _, _, done => by
    rw [readUnder] at done
    cases done
    exact List.forall_mem_nil _
  | (key, inner) :: entries, type, labels, _, plain, done => by
    obtain ⟨first, others⟩ := List.forall_mem_cons.mp plain
    rw [readUnder] at done
    obtain ⟨next, _, done⟩ := ok_of_bind done
    obtain ⟨found, own, done⟩ := ok_of_bind done
    obtain ⟨rest, behind, same⟩ := ok_of_bind done
    cases same
    exact (orderly_readLabelled inner type _ first own).append
      (orderly_readUnder entries type labels others behind)

end

/-! ### Whole texts -/

/-- The block of a plain body is orderly. -/
theorem orderly_toBlock {type : Key} {body : LabelledBody} {block : Block}
    (plain : PlainBody body.entries) (done : toBlock type body = .ok block) :
    Orderly block.attributes block.blocks := by
  rw [toBlock] at done
  obtain ⟨contents, read, done⟩ := ok_of_bind done
  obtain ⟨line, _, same⟩ := ok_of_bind done
  cases same
  exact orderly_readEntries body.entries .nil plain.fresh read

/-- The blocks at the top of a plain text are orderly. -/
theorem orderly_topBlocks {found : List (Key × Tree)} {blocks : List Block}
    (plain : PlainText found) (done : topBlocks found = .ok blocks) :
    ∀ block ∈ blocks, Orderly block.attributes block.blocks := by
  induction found generalizing blocks with
  | nil =>
    cases done
    exact List.forall_mem_nil _
  | cons entry entries inductionHypothesis =>
    obtain ⟨first, others⟩ := List.forall_mem_cons.mp plain
    rw [topBlocks] at done
    obtain ⟨searched, search, done⟩ := ok_of_bind done
    cases searched with
    | none => exact inductionHypothesis others done
    | some bodies =>
      obtain ⟨made, each, done⟩ := ok_of_bind done
      obtain ⟨rest, behind, same⟩ := ok_of_bind done
      cases same
      obtain ⟨_, _, inside⟩ := blockBodies_some search
      refine List.forall_mem_append.mpr ⟨?_, inductionHypothesis others behind⟩
      intro block member
      obtain ⟨body, listed, read⟩ := exists_of_mapM each member
      exact orderly_toBlock
        (first body.entries ((inside _).mp (List.mem_map_of_mem listed))) read

/-- The blocks of a plain text in the order of their lines are orderly. -/
theorem orderly_blocksInOrder {found : List (Key × Tree)} {blocks : List Block}
    (plain : PlainText found) (done : blocksInOrder found = .ok blocks) :
    ∀ block ∈ blocks, Orderly block.attributes block.blocks := by
  obtain ⟨top, read, rfl⟩ := ok_of_map done
  intro block member
  exact orderly_topBlocks plain read block (List.mem_mergeSort.mp member)

end InfraReview.Hcl
