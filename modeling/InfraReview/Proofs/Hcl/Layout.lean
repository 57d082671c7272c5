import InfraReview.Proofs.Hcl.Search
import InfraReview.Proofs.Resource.Body

/-!
# The layout of blocks in source values

A block has settings, whose values may be any source values, and under other names the blocks of
a type, each with labels and a body of its own. In a source value all of them are laid out as
entries of one map: a setting as its value, the blocks of a type as a list, each label of a
block as a map with one key around what follows, and a body by the marks of its lines.

Reading such a map gives back the block that was laid out, down to any depth. Lists and maps in
the settings are not taken for blocks, whatever they look like, because no mark is in them. The
reading does break off, though, where the first item of a list has a key on its way that is no
text: the search for marks takes it for a label.
-/

namespace InfraReview.Hcl

open Resource (setAttribute_fresh addBlocks_fresh)

mutual

/-- The body of a block, with the lines on which it starts and ends and its parts under their
names. -/
inductive Layout where
  | mk (firstLine lastLine : Int) (parts : List (String × Part))

/-- What stands under a name in a body: the value of a setting, or blocks with their labels. -/
inductive Part where
  | setting (tree : Tree)
  | blocks (blocks : List (List String × Layout))

end

/-- A body under labels, each of which is the key of a map around what follows. -/
def underLabels (labels : List String) (body : List (Key × Tree)) : Tree :=
  labels.foldr (fun label inner => .map [(.text label, inner)]) (.map body)

mutual

/-- The entries in which a body is laid out. -/
def Layout.toEntries : Layout → List (Key × Tree)
  | .mk firstLine lastLine parts => partsToEntries parts ++ Resource.marks firstLine lastLine

/-- The entries in which parts are laid out. -/
def partsToEntries : List (String × Part) → List (Key × Tree)
  | [] => []
  | (name, part) :: parts => (.text name, Part.toTree part) :: partsToEntries parts

/-- The value in which a part is laid out. -/
def Part.toTree : Part → Tree
  | .setting tree => tree
  | .blocks blocks => .list (blocksToTrees blocks)

/-- The items in which blocks are laid out. -/
def blocksToTrees : List (List String × Layout) → List Tree
  | [] => []
  | (labels, layout) :: blocks =>
    underLabels labels (Layout.toEntries layout) :: blocksToTrees blocks

end

/-- The line on which a body starts. -/
def Layout.firstLine : Layout → Int
  | .mk firstLine _ _ => firstLine

/-- The attribute that a setting is: none if its value is no literal or is null. -/
def keptAttribute (name : String) (tree : Tree) : Attributes :=
  match literal tree with
  | .ok (.value value) => [(name, value)]
  | _ => []

mutual

/-- The attributes and the blocks of a body. -/
def Layout.contents : Layout → Attributes × NestedBlocks
  | .mk _ _ parts => partsContents parts

/-- The attributes and the blocks of parts. -/
def partsContents : List (String × Part) → Attributes × NestedBlocks
  | [] => ([], [])
  | (name, part) :: parts =>
    let own := Part.contents name part
    let others := partsContents parts
    (own.1 ++ others.1, own.2 ++ others.2)

/-- The attribute or the blocks of one part. -/
def Part.contents (name : String) : Part → Attributes × NestedBlocks
  | .setting tree => (keptAttribute name tree, [])
  | .blocks blocks => ([], [(.text name, blocksContents name blocks)])

/-- The blocks of a type, with the quotes around their labels taken away. -/
def blocksContents (type : String) : List (List String × Layout) → List Block
  | [] => []
  | (labels, layout) :: blocks =>
    let inside := Layout.contents layout
    ⟨.text type, labels.map unquote, inside.1, inside.2, layout.firstLine⟩ ::
      blocksContents type blocks

end

/-- The block of a type with labels and a body. -/
def Layout.block (layout : Layout) (type : Key) (labels : List String) : Block :=
  ⟨type, labels, layout.contents.1, layout.contents.2, layout.firstLine⟩

mutual

/-- A value without the mark of a body anywhere in it. -/
def Unmarked : Tree → Prop
  | .list items => ItemsUnmarked items
  | .map entries => EntriesUnmarked entries
  | .null | .bool _ | .int _ | .double _ | .text _ => True

/-- Items without a mark. -/
def ItemsUnmarked : List Tree → Prop
  | [] => True
  | item :: items => Unmarked item ∧ ItemsUnmarked items

/-- Entries of which none is a mark or has one in its value. -/
def EntriesUnmarked : List (Key × Tree) → Prop
  | [] => True
  | (key, tree) :: entries =>
    key ≠ .text startLineKey ∧ Unmarked tree ∧ EntriesUnmarked entries

end

mutual

/-- A body that is laid out so that it can be told what is what: its names are different, they
are no marks and not in quotes, no setting has a mark in it and every one has a literal, there is
a block of every type that is named, and no label is a mark. -/
def Layout.WellFormed : Layout → Prop
  | .mk _ _ parts => (parts.map (·.1)).Nodup ∧ PartsWellFormed parts

/-- Every part has a proper name and is well formed. -/
def PartsWellFormed : List (String × Part) → Prop
  | [] => True
  | (name, part) :: parts =>
    isMarkKey (.text name) = false ∧ unquote name = name ∧ Part.WellFormed part ∧
      PartsWellFormed parts

/-- A part is well formed. -/
def Part.WellFormed : Part → Prop
  | .setting tree => Unmarked tree ∧ ¬ Fails (literal tree)
  | .blocks blocks => blocks ≠ [] ∧ BlocksWellFormed blocks

/-- No block has a mark for a label, and every one has a well-formed body. -/
def BlocksWellFormed : List (List String × Layout) → Prop
  | [] => True
  | (labels, layout) :: blocks =>
    startLineKey ∉ labels ∧ Layout.WellFormed layout ∧ BlocksWellFormed blocks

end

/-- The search for blocks strays in the first item of a list. -/
def FirstStrays (tree : Tree) : Prop :=
  ∃ first others, tree = .list (first :: others) ∧ Strays first

mutual

/-- A body in none of whose settings, at any depth, the search for blocks strays in the first
item. -/
def Layout.Searchable : Layout → Prop
  | .mk _ _ parts => PartsSearchable parts

/-- No search strays in any part. -/
def PartsSearchable : List (String × Part) → Prop
  | [] => True
  | (_, part) :: parts => Part.Searchable part ∧ PartsSearchable parts

/-- No search strays in a part. -/
def Part.Searchable : Part → Prop
  | .setting tree => ¬ FirstStrays tree
  | .blocks blocks => BlocksSearchable blocks

/-- No search strays in the body of any block. -/
def BlocksSearchable : List (List String × Layout) → Prop
  | [] => True
  | (_, layout) :: blocks => Layout.Searchable layout ∧ BlocksSearchable blocks

end

/-! ### Work that can break off at a label -/

/-- Work that comes to a value under a condition and otherwise breaks off at a key that has no
label. -/
structure ComesTo {α : Type} (work : Except LiteralFault α) (condition : Prop) (value : α) :
    Prop where
  there : condition → work = .ok value
  broken : ¬ condition → ∃ sort, work = .error (.labelWithoutLength sort)

/-- A value is come to under any condition that holds. -/
theorem comesTo_ok {α : Type} (value : α) {condition : Prop} (holds : condition) :
    ComesTo (.ok value) condition value :=
  ⟨fun _ => rfl, fun fails => absurd holds fails⟩

/-- Work in two steps comes to its value under the conditions of both. -/
theorem ComesTo.bind {α β : Type} {first : Except LiteralFault α}
    {next : α → Except LiteralFault β} {condition later : Prop} {value : α} {result : β}
    (now : ComesTo first condition value) (rest : ComesTo (next value) later result) :
    ComesTo (first >>= next) (condition ∧ later) result := by
  constructor
  · rintro ⟨holds, after⟩
    rw [now.there holds]
    exact rest.there after
  · intro fails
    by_cases holds : condition
    · rw [now.there holds]
      exact rest.broken fun after => fails ⟨holds, after⟩
    · obtain ⟨sort, broken⟩ := now.broken holds
      exact ⟨sort, by rw [broken]; rfl⟩

/-- Work goes on behind a value that is there in any case. -/
theorem ComesTo.map {α β : Type} {work : Except LiteralFault α} {condition : Prop} {value : α}
    (comes : ComesTo work condition value) (change : α → β) :
    ComesTo (work >>= fun found => .ok (change found)) condition (change value) := by
  constructor
  · intro holds
    rw [comes.there holds]
    rfl
  · intro fails
    obtain ⟨sort, broken⟩ := comes.broken fails
    exact ⟨sort, by rw [broken]; rfl⟩

/-! ### Settings -/

/-- A list of unmarked items has only such items. -/
theorem unmarked_of_mem {items : List Tree} (unmarked : ItemsUnmarked items) {item : Tree}
    (member : item ∈ items) : Unmarked item := by
  induction items with
  | nil => cases member
  | cons first items inductionHypothesis =>
    rcases List.mem_cons.mp member with rfl | later
    · exact unmarked.1
    · exact inductionHypothesis unmarked.2 later

/-- Unmarked entries have only unmarked values. -/
theorem unmarked_of_mem_entries {entries : List (Key × Tree)} (unmarked : EntriesUnmarked entries)
    {key : Key} {inner : Tree} (member : (key, inner) ∈ entries) : Unmarked inner := by
  induction entries with
  | nil => cases member
  | cons first entries inductionHypothesis =>
    rcases List.mem_cons.mp member with rfl | later
    · exact unmarked.2.1
    · exact inductionHypothesis unmarked.2.2 later

/-- Unmarked entries are not the body of a block. -/
theorem isMarked_unmarked {entries : List (Key × Tree)} (unmarked : EntriesUnmarked entries) :
    isMarked entries = false := by
  induction entries with
  | nil => rfl
  | cons first entries inductionHypothesis =>
    obtain ⟨key, tree⟩ := first
    obtain ⟨noMark, _, others⟩ := unmarked
    rw [isMarked_other noMark]
    exact inductionHypothesis others

/-- An unmarked value leads to no body. -/
theorem not_leads_unmarked {tree : Tree} {body : List (Key × Tree)} (leads : Leads tree body) :
    ¬ Unmarked tree := by
  induction leads with
  | here marked =>
    intro unmarked
    rw [isMarked_unmarked unmarked] at marked
    cases marked
  | under _ member _ inductionHypothesis =>
    exact fun unmarked => inductionHypothesis (unmarked_of_mem_entries unmarked member)

/-- No item of unmarked items holds a body. -/
theorem not_holdsBody_of_mem {items : List Tree} (unmarked : ItemsUnmarked items) {item : Tree}
    (member : item ∈ items) : ¬ HoldsBody item := by
  rintro ⟨body, leads⟩
  exact not_leads_unmarked leads (unmarked_of_mem unmarked member)

/-- In an unmarked value the search for blocks strays in the first item or not at all. -/
theorem searchStrays_unmarked {tree : Tree} (unmarked : Unmarked tree) :
    SearchStrays tree ↔ FirstStrays tree := by
  constructor
  · rintro ⟨before, item, after, rfl, held, strays⟩
    cases before with
    | nil => exact ⟨item, after, rfl, strays⟩
    | cons earlier before =>
      exact absurd (held earlier List.mem_cons_self)
        (not_holdsBody_of_mem unmarked List.mem_cons_self)
  · rintro ⟨first, others, rfl, strays⟩
    exact ⟨[], first, others, rfl, by simp, strays⟩

/-- An unmarked value is an attribute, unless the search for blocks strays in its first item. -/
theorem blockBodies_unmarked {tree : Tree} (unmarked : Unmarked tree) :
    ComesTo (blockBodies tree) (¬ FirstStrays tree) none := by
  rw [← searchStrays_unmarked unmarked]
  constructor
  · intro straight
    obtain ⟨found, searched⟩ := ok_of_not_fails (mt (blockBodies_fails_iff tree).mp straight)
    cases found with
    | none => exact searched
    | some bodies =>
      obtain ⟨items, rfl, nonempty, held⟩ := (blockBodies_some searched).1
      obtain ⟨first, items, rfl⟩ := List.exists_cons_of_ne_nil nonempty
      exact absurd (held first List.mem_cons_self)
        (not_holdsBody_of_mem unmarked List.mem_cons_self)
  · intro strays
    obtain ⟨fault, failed⟩ := (blockBodies_fails_iff tree).mpr (not_not.mp strays)
    obtain ⟨sort, rfl⟩ := blockBodies_fault failed
    exact ⟨sort, failed⟩

/-! ### Blocks -/

/-- The mark of the first line is found behind parts whose names are no marks. -/
theorem entry_startLine_parts {parts : List (String × Part)} (wellFormed : PartsWellFormed parts)
    (firstLine lastLine : Int) :
    Tree.entry? (partsToEntries parts ++ Resource.marks firstLine lastLine) startLineKey =
      some (.int firstLine) := by
  induction parts with
  | nil => simp [partsToEntries, Resource.marks, Tree.entry?]
  | cons first parts inductionHypothesis =>
    obtain ⟨name, part⟩ := first
    obtain ⟨noMark, _, _, others⟩ := wellFormed
    have other : Key.text name ≠ .text startLineKey := by
      intro same
      simp [same, isMarkKey] at noMark
    rw [partsToEntries, List.cons_append, entry?_other other]
    exact inductionHypothesis others

/-- A body that is laid out is marked with the line on which it starts. -/
theorem markedLine_toEntries {layout : Layout} (wellFormed : layout.WellFormed) :
    isMarked layout.toEntries = true ∧ markedLine layout.toEntries = .ok layout.firstLine := by
  obtain ⟨firstLine, lastLine, parts⟩ := layout
  rw [Layout.toEntries]
  exact markedLine_of_entry (entry_startLine_parts wellFormed.2 firstLine lastLine)

/-- A map with one label that is no mark is not the body of a block. -/
theorem isMarked_label {name : String} (noMark : name ≠ startLineKey) (inner : Tree) :
    isMarked [(.text name, inner)] = false := by
  rw [isMarked_other (by simpa using noMark)]
  rfl

/-- What a search finds under labels. A label that is a mark makes the map around what follows pass
for the body. -/
def foundUnder (outer : List String) (body : List (Key × Tree)) : List String → LabelledBody
  | [] => ⟨outer, body⟩
  | name :: labels =>
    if name = startLineKey then ⟨outer, [(.text name, underLabels labels body)]⟩
    else foundUnder (outer ++ [unquote name]) body labels

/-- Under labels of which none is a mark the body is found. -/
theorem foundUnder_eq {labels : List String} (noMarks : startLineKey ∉ labels)
    (outer : List String) (body : List (Key × Tree)) :
    foundUnder outer body labels = ⟨outer ++ labels.map unquote, body⟩ := by
  induction labels generalizing outer with
  | nil => simp [foundUnder]
  | cons name labels inductionHypothesis =>
    simp only [List.mem_cons, not_or] at noMarks
    rw [foundUnder, if_neg (Ne.symm noMarks.1), inductionHypothesis noMarks.2]
    simp

/-- A search finds one body under labels. -/
theorem unwrapLabels_foundUnder {body : List (Key × Tree)} (marked : isMarked body = true)
    (labels outer : List String) :
    unwrapLabels outer (underLabels labels body) = .ok [foundUnder outer body labels] := by
  induction labels generalizing outer with
  | nil => simp [underLabels, unwrapLabels, marked, foundUnder]
  | cons name labels inductionHypothesis =>
    change unwrapLabels outer (.map [(.text name, underLabels labels body)]) = _
    by_cases mark : name = startLineKey
    · simp [unwrapLabels, foundUnder, mark, isMarked, Tree.entry?]
    · have inside := inductionHypothesis (outer ++ [unquote name])
      have unmarked := isMarked_label mark (underLabels labels body)
      simp [unwrapLabels, foundUnder, mark, unmarked, unwrapEntries, label, inside, bind,
        Except.bind]

/-- A search finds a body under its labels. -/
theorem unwrapLabels_underLabels {labels : List String} {body : List (Key × Tree)}
    (noMarks : startLineKey ∉ labels) (marked : isMarked body = true) (outer : List String) :
    unwrapLabels outer (underLabels labels body) = .ok [⟨outer ++ labels.map unquote, body⟩] := by
  rw [unwrapLabels_foundUnder marked, foundUnder_eq noMarks]

/-- A body under labels is read as a block with these labels. -/
theorem readLabelled_underLabels (type : Key) {labels : List String} {body : List (Key × Tree)}
    (noMarks : startLineKey ∉ labels) (marked : isMarked body = true) (outer : List String) :
    readLabelled type outer (underLabels labels body) =
      (toBlock type ⟨outer ++ labels.map unquote, body⟩ >>= fun block => .ok [block]) := by
  induction labels generalizing outer with
  | nil =>
    change readLabelled type outer (.map body) = _
    rw [readLabelled, if_pos marked, toBlock]
    cases readEntries [] [] body with
    | error fault => rfl
    | ok contents =>
      cases markedLine body <;> simp [bind, Except.bind]
  | cons name labels inductionHypothesis =>
    simp only [List.mem_cons, not_or] at noMarks
    have inside := inductionHypothesis noMarks.2 (outer ++ [unquote name])
    have unmarked := isMarked_label (Ne.symm noMarks.1) (underLabels labels body)
    change readLabelled type outer (.map [(.text name, underLabels labels body)]) = _
    rw [readLabelled, if_neg (by simp [unmarked]), readUnder]
    change (readLabelled type (outer ++ [unquote name])
      (underLabels labels body) >>= fun found => do
      let others ← readUnder type outer []
      .ok (found ++ others)) = _
    rw [inside]
    simp only [List.map_cons, List.append_assoc, List.singleton_append]
    cases toBlock type ⟨outer ++ unquote name :: labels.map unquote, body⟩ <;>
      simp [readUnder, bind, Except.bind]

/-- Blocks that are laid out are found with their labels. -/
theorem bodiesOfItems_blocks (blocks : List (List String × Layout))
    (wellFormed : BlocksWellFormed blocks) :
    bodiesOfItems (blocksToTrees blocks) =
      .ok (some (blocks.map fun block => ⟨block.1.map unquote, block.2.toEntries⟩)) := by
  induction blocks with
  | nil => simp [blocksToTrees, bodiesOfItems]
  | cons block blocks inductionHypothesis =>
    obtain ⟨labels, layout⟩ := block
    obtain ⟨noMarks, body, others⟩ := wellFormed
    have found := unwrapLabels_underLabels noMarks (markedLine_toEntries body).1 []
    simp [blocksToTrees, bodiesOfItems, found, inductionHypothesis others, bind, Except.bind]

/-- Blocks that are laid out are a list of blocks when there is one at least. -/
theorem blockBodies_blocks {blocks : List (List String × Layout)} (nonempty : blocks ≠ [])
    (wellFormed : BlocksWellFormed blocks) :
    blockBodies (.list (blocksToTrees blocks)) =
      .ok (some (blocks.map fun block => ⟨block.1.map unquote, block.2.toEntries⟩)) := by
  rw [← bodiesOfItems_blocks blocks wellFormed]
  obtain ⟨⟨labels, layout⟩, blocks, rfl⟩ := List.exists_cons_of_ne_nil nonempty
  rw [blocksToTrees, blockBodies]
  simp

/-! ### Parts in order -/

/-- None of the names occurs in the attributes or in the blocks that were read. -/
def Unread (names : List String) (attributes : Attributes) (blocks : NestedBlocks) : Prop :=
  ∀ name ∈ names, name ∉ attributes.map (·.1) ∧ .text name ∉ blocks.map (·.1)

/-- Other names stay unread when what a name stands for has been read. -/
theorem Unread.next {name : String} {names : List String} {attributes : Attributes}
    {blocks : NestedBlocks} (unread : Unread (name :: names) attributes blocks)
    (absent : name ∉ names) (part : Part) :
    Unread names (attributes ++ (part.contents name).1) (blocks ++ (part.contents name).2) := by
  intro other member
  obtain ⟨noAttribute, noBlocks⟩ := unread other (List.mem_cons_of_mem _ member)
  have differs : other ≠ name := by
    rintro rfl
    exact absent member
  rw [List.map_append, List.mem_append, not_or, List.map_append, List.mem_append, not_or]
  refine ⟨⟨noAttribute, ?_⟩, noBlocks, ?_⟩
  · cases part with
    | setting tree =>
      simp only [Part.contents, keptAttribute]
      split <;> simp [differs]
    | blocks blocks => simp [Part.contents]
  · cases part <;> simp [Part.contents, differs]

/-- A setting is read as the attribute that it is, unless the search for blocks strays in it. -/
theorem readEntries_setting {name : String} {tree : Tree} {attributes : Attributes}
    {blocks : NestedBlocks} {rest : List (Key × Tree)} {later : Prop}
    {result : Attributes × NestedBlocks} (noMark : isMarkKey (.text name) = false)
    (bare : unquote name = name) (unmarked : Unmarked tree) (sound : ¬ Fails (literal tree))
    (fresh : name ∉ attributes.map (·.1))
    (others : ComesTo (readEntries (attributes ++ keptAttribute name tree) blocks rest) later
      result) :
    ComesTo (readEntries attributes blocks ((.text name, tree) :: rest))
      (¬ FirstStrays tree ∧ later) result := by
  rw [readEntries, if_neg (by simp [noMark])]
  refine (blockBodies_unmarked unmarked).bind ?_
  obtain ⟨found, converted⟩ := ok_of_not_fails sound
  rw [converted]
  cases found with
  | value value =>
    rw [keptAttribute, converted] at others
    simpa [label, bare, setAttribute_fresh fresh, bind, Except.bind] using others
  | _ =>
    rw [keptAttribute, converted] at others
    simpa [bind, Except.bind] using others

/-- Blocks under a name are read, unless the search strays in one of them, and are added behind
those that were read. -/
theorem readEntries_blocks {name : String} {parts : List (List String × Layout)}
    {attributes : Attributes} {blocks : NestedBlocks} {rest : List (Key × Tree)}
    {now later : Prop} {found : List Block} {result : Attributes × NestedBlocks}
    (noMark : isMarkKey (.text name) = false) (nonempty : parts ≠ [])
    (wellFormed : BlocksWellFormed parts) (fresh : .text name ∉ blocks.map (·.1))
    (read : ComesTo (readItems (.text name) (blocksToTrees parts)) now found)
    (others : ComesTo (readEntries attributes (blocks ++ [(.text name, found)]) rest) later
      result) :
    ComesTo (readEntries attributes blocks ((.text name, .list (blocksToTrees parts)) :: rest))
      (now ∧ later) result := by
  rw [readEntries, if_neg (by simp [noMark]), blockBodies_blocks nonempty wellFormed]
  change ComesTo (readBlocks (.text name) (.list (blocksToTrees parts)) >>= fun more =>
    readEntries attributes (addBlocks blocks (.text name) more) rest) _ _
  rw [← addBlocks_fresh fresh] at others
  rw [readBlocks]
  exact read.bind others

/-- A block whose entries are read is read with its line. -/
theorem toBlock_of_entries {layout : Layout} (wellFormed : layout.WellFormed)
    (read : ComesTo (readEntries [] [] layout.toEntries) layout.Searchable layout.contents)
    (type : Key) (labels : List String) :
    ComesTo (toBlock type ⟨labels, layout.toEntries⟩) layout.Searchable
      (layout.block type labels) := by
  rw [toBlock, (markedLine_toEntries wellFormed).2]
  exact read.map fun contents =>
    (⟨type, labels, contents.1, contents.2, layout.firstLine⟩ : Block)

mutual

/-- A body that is laid out is read as its contents, unless the search for blocks strays in a
setting of it. -/
theorem readEntries_layout : ∀ layout : Layout, layout.WellFormed →
    ComesTo (readEntries [] [] layout.toEntries) layout.Searchable layout.contents
  | .mk firstLine lastLine parts, wellFormed => by
    have found := readEntries_parts parts [] [] firstLine lastLine wellFormed.2 wellFormed.1
      (by simp [Unread])
    simpa [Layout.toEntries, Layout.Searchable, Layout.contents] using found

/-- Parts that are laid out are read as their contents, behind those that were read. -/
theorem readEntries_parts : ∀ (parts : List (String × Part)) (attributes : Attributes)
    (blocks : NestedBlocks) (firstLine lastLine : Int), PartsWellFormed parts →
    (parts.map (·.1)).Nodup → Unread (parts.map (·.1)) attributes blocks →
    ComesTo
      (readEntries attributes blocks
        (partsToEntries parts ++ Resource.marks firstLine lastLine))
      (PartsSearchable parts)
      (attributes ++ (partsContents parts).1, blocks ++ (partsContents parts).2)
  | [], attributes, blocks, firstLine, lastLine, _, _, _ => by
    simp only [partsToEntries, List.nil_append, Resource.readEntries_marks, partsContents,
      List.append_nil]
    exact comesTo_ok _ trivial
  | (name, .setting tree) :: parts, attributes, blocks, firstLine, lastLine,
      ⟨noMark, bare, ⟨unmarked, sound⟩, othersWellFormed⟩, distinct, unread => by
    obtain ⟨absent, othersDistinct⟩ := List.nodup_cons.mp distinct
    have others := readEntries_parts parts _ _ firstLine lastLine othersWellFormed othersDistinct
      (unread.next absent (.setting tree))
    simp only [Part.contents, List.append_nil] at others
    have read := readEntries_setting noMark bare unmarked sound
      (unread name List.mem_cons_self).1 others
    simpa [partsToEntries, Part.toTree, PartsSearchable, Part.Searchable, partsContents,
      Part.contents] using read
  | (name, .blocks nested) :: parts, attributes, blocks, firstLine, lastLine,
      ⟨noMark, _, ⟨nonempty, wellFormed⟩, othersWellFormed⟩, distinct, unread => by
    obtain ⟨absent, othersDistinct⟩ := List.nodup_cons.mp distinct
    have others := readEntries_parts parts _ _ firstLine lastLine othersWellFormed othersDistinct
      (unread.next absent (.blocks nested))
    simp only [Part.contents, List.append_nil] at others
    have read := readEntries_blocks noMark nonempty wellFormed
      (unread name List.mem_cons_self).2 (readItems_blocks nested name wellFormed) others
    simpa [partsToEntries, Part.toTree, PartsSearchable, Part.Searchable, partsContents,
      Part.contents] using read

/-- Blocks that are laid out are read as the blocks that they are. -/
theorem readItems_blocks : ∀ (blocks : List (List String × Layout)) (type : String),
    BlocksWellFormed blocks →
    ComesTo (readItems (.text type) (blocksToTrees blocks)) (BlocksSearchable blocks)
      (blocksContents type blocks)
  | [], _, _ => by
    simp only [blocksToTrees, readItems]
    exact comesTo_ok _ trivial
  | (labels, layout) :: blocks, type, ⟨noMarks, wellFormed, othersWellFormed⟩ => by
    have first := toBlock_of_entries wellFormed (readEntries_layout layout wellFormed)
      (.text type) (labels.map unquote)
    have others := readItems_blocks blocks type othersWellFormed
    rw [blocksToTrees, readItems,
      readLabelled_underLabels _ noMarks (markedLine_toEntries wellFormed).1]
    exact (first.map fun block => [block]).bind (others.map fun others => _ ++ others)

end

/-- A body that is laid out is read as a block with exactly its contents. The reading breaks off
exactly when the search for blocks strays in a setting, and then at a key without a label. -/
theorem layout_read_back (type : Key) (labels : List String) (layout : Layout)
    (wellFormed : layout.WellFormed) :
    (layout.Searchable →
      toBlock type ⟨labels, layout.toEntries⟩ = .ok (layout.block type labels)) ∧
      (¬ layout.Searchable →
        ∃ sort, toBlock type ⟨labels, layout.toEntries⟩ = .error (.labelWithoutLength sort)) := by
  have read := toBlock_of_entries wellFormed (readEntries_layout layout wellFormed) type labels
  exact ⟨read.there, read.broken⟩

/-- A body with lists and maps of all sorts in its settings and with labelled blocks. -/
def mixedLayout : Layout :=
  .mk 1 12
    [("name", .setting (.text "logs")), ("gone", .setting .null), ("none", .setting (.list [])),
      ("bare", .setting (.list [.map [], .map [(.text "a", .bool true)]])),
      ("rule", .blocks
        [(["\"first\"", "second"],
            .mk 5 8 [("on", .setting (.bool true)), ("inner", .blocks [([], .mk 6 7 [])])]),
          ([], .mk 9 9 [])])]

/-- That body is read as a block with all that was laid out. -/
theorem mixed_layout_read_back :
    mixedLayout.WellFormed ∧ mixedLayout.Searchable ∧
      toBlock (.text "resource") ⟨["t", "n"], mixedLayout.toEntries⟩ =
        .ok ⟨.text "resource", ["t", "n"],
          [("name", .text "logs"), ("none", .list []),
            ("bare", .list [.map [], .map [("a", .bool true)]])],
          [(.text "rule",
            [⟨.text "rule", ["first", "second"], [("on", .bool true)],
                [(.text "inner", [⟨.text "inner", [], [], [], 6⟩])], 5⟩,
              ⟨.text "rule", [], [], [], 9⟩])], 1⟩ := by
  have wellFormed : mixedLayout.WellFormed := by
    simp only [mixedLayout, Layout.WellFormed, PartsWellFormed, Part.WellFormed,
      BlocksWellFormed, Unmarked, ItemsUnmarked, EntriesUnmarked]
    decide
  have searchable : mixedLayout.Searchable := by
    simp only [mixedLayout, Layout.Searchable, PartsSearchable, Part.Searchable,
      BlocksSearchable, FirstStrays, Tree.list.injEq, List.cons.injEq, reduceCtorEq, false_and,
      and_assoc, exists_and_left, exists_eq_left', exists_false, ← unwrapLabels_fails_iff _ []]
    decide
  exact ⟨wellFormed, searchable,
    (layout_read_back (.text "resource") ["t", "n"] mixedLayout wellFormed).1 searchable⟩

/-- A body with a list whose first item has a number for a key. -/
def numberedLayout : Layout :=
  .mk 1 3 [("x", .setting (.list [.map [(.int 1, .text "a")]]))]

/-- Not every body is read back: a key that is no text breaks the search for blocks off, although
the value it stands in is a literal and no block. -/
theorem numbered_key_breaks_off :
    ¬ ∀ (type : Key) (labels : List String) (layout : Layout), layout.WellFormed →
      toBlock type ⟨labels, layout.toEntries⟩ = .ok (layout.block type labels) := by
  intro read
  have wellFormed : numberedLayout.WellFormed := by
    simp only [numberedLayout, Layout.WellFormed, PartsWellFormed, Part.WellFormed, Unmarked,
      ItemsUnmarked, EntriesUnmarked]
    decide
  have broken : toBlock (.text "resource") ⟨["t", "n"], numberedLayout.toEntries⟩ =
      .error (.labelWithoutLength "int") := by
    rfl
  have done := read (.text "resource") ["t", "n"] numberedLayout wellFormed
  rw [broken] at done
  cases done

end InfraReview.Hcl
