import Mathlib.Data.List.Perm.Basic
import InfraReview.Proofs.Hcl.Layout
import InfraReview.Proofs.Resource.Order

/-!
# Grouped blocks in the order of declaration

A text declares attributes and blocks in some order, and its entries do not keep that order. A
block goes into the list of its type, which stands where the first block of the type was declared,
so blocks of different types that take turns are torn apart.

Nothing gets lost by that: each part stands in one group, once. And every body has its line. So
when the lines of the blocks rise, the blocks that are found group by group and then sorted by
their lines are the declared ones in the order of declaration.
-/

namespace InfraReview.Hcl

/-! ### Parts at the top of a text -/

/-- A block at the top of a text: its type, its labels, what stands in its body and the lines on
which it starts and ends. -/
structure TopBlock where
  type : String
  labels : List String
  inside : List (Key × Tree)
  firstLine : Nat
  lastLine : Nat

/-- What is declared at the top of a text. -/
inductive TopPart where
  | setting (name : String) (tree : Tree)
  | block (declared : TopBlock)

/-- The blocks among parts, in order. -/
def declaredBlocks (parts : List TopPart) : List TopBlock :=
  parts.filterMap fun
    | .block declared => some declared
    | .setting _ _ => none

/-- The body of a block with its lines. -/
def TopBlock.body (declared : TopBlock) : List (Key × Tree) :=
  Tree.setEntry (Tree.setEntry declared.inside (.text startLineKey) (.int declared.firstLine))
    (.text endLineKey) (.int declared.lastLine)

/-- The body of a block under its labels. -/
def TopBlock.tree (declared : TopBlock) : Tree := underLabels declared.labels declared.body

/-- What a part means. A block is put together from the word for its type, its labels, which are
written between quotes, and its body. -/
def TopPart.meaning? : TopPart → Option Meaning
  | .setting name tree => some (.attribute name tree)
  | .block declared =>
    Meaning.block? declared.firstLine declared.lastLine
      (.name declared.type :: declared.labels.map (fun label => .token ("\"" ++ label ++ "\""))
        ++ [.value (.map declared.inside)])

/-- What parts mean together as the body of a whole text; nothing when they contradict each
other. -/
def presented? (parts : List TopPart) : Option Meaning :=
  (parts.mapM TopPart.meaning?).bind (Meaning.combine .body 0 0)

/-- The meaning of a part once it is put together. -/
def TopPart.meaning : TopPart → Meaning
  | .setting name tree => .attribute name tree
  | .block declared => .block declared.type declared.tree

/-- The quotes around a label are taken away. -/
theorem unquoted_quoted (label : String) : Meaning.unquoted ("\"" ++ label ++ "\"") = label := by
  have characters : ("\"" ++ label ++ "\"").toList = '"' :: (label.toList ++ ['"']) := by
    simp
  simp [Meaning.unquoted, characters, Meaning.isQuoted, List.getLast?_cons, Meaning.withoutEnds]

/-- Every part has a meaning: a block is its body under its labels. -/
theorem TopPart.meaning?_eq (part : TopPart) : part.meaning? = some part.meaning := by
  cases part with
  | setting name tree => rfl
  | block declared =>
    simp [TopPart.meaning?, Meaning.block?, Meaning.values, List.filterMap_map, unquoted_quoted]
    rfl

/-- The parts of a body are added to it one by one. -/
theorem presented?_eq (parts : List TopPart) :
    presented? parts =
      ((Meaning.Body.mk [] []).addAll (parts.map TopPart.meaning)).map fun body =>
        .value (.map body.entries) := by
  have given : parts.mapM TopPart.meaning? = some (parts.map TopPart.meaning) := by
    induction parts with
    | nil => rfl
    | cons part parts inductionHypothesis =>
      simp [List.mapM_cons, TopPart.meaning?_eq, inductionHypothesis]
  rw [presented?, given]
  rfl

/-! ### Entries that are written -/

/-- An entry that is written is looked up. -/
theorem entry?_setEntry (entries : List (Key × Tree)) (name : String) (value : Tree) :
    Tree.entry? (Tree.setEntry entries (.text name) value) name = some value := by
  induction entries with
  | nil => simp [Tree.setEntry, Tree.entry?]
  | cons first entries inductionHypothesis =>
    obtain ⟨key, current⟩ := first
    rw [Tree.setEntry, Resource.same_text]
    by_cases same : key = .text name
    · simp [same, Tree.entry?]
    · simpa [same, entry?_other same] using inductionHypothesis

/-- Writing an entry leaves other names as they are. -/
theorem entry?_setEntry_other {name other : String} (differs : other ≠ name)
    (entries : List (Key × Tree)) (value : Tree) :
    Tree.entry? (Tree.setEntry entries (.text name) value) other = Tree.entry? entries other := by
  have apart : Key.text name ≠ .text other := by simpa using Ne.symm differs
  induction entries with
  | nil => rw [Tree.setEntry, entry?_other apart]
  | cons first entries inductionHypothesis =>
    obtain ⟨key, current⟩ := first
    rw [Tree.setEntry, Resource.same_text]
    by_cases same : key = .text name
    · simp [same, entry?_other apart]
    · by_cases found : key = .text other
      · simp [found, Ne.symm apart, Tree.entry?]
      · simpa [same, entry?_other found] using inductionHypothesis

/-- A name that is looked up stands at one place, and there its value is written. -/
theorem setEntry_at_found {entries : List (Key × Tree)} {name : String} {current : Tree}
    (found : Tree.entry? entries name = some current) :
    ∃ before after, entries = before ++ (.text name, current) :: after ∧
      ∀ value, Tree.setEntry entries (.text name) value =
        before ++ (.text name, value) :: after := by
  induction entries with
  | nil => cases found
  | cons first entries inductionHypothesis =>
    obtain ⟨key, inner⟩ := first
    by_cases same : key = .text name
    · subst same
      have value : inner = current := by simpa [Tree.entry?] using found
      subst value
      exact ⟨[], entries, rfl, fun value => by simp [Tree.setEntry, Resource.same_text]⟩
    · rw [entry?_other same] at found
      obtain ⟨before, after, rfl, written⟩ := inductionHypothesis found
      refine ⟨(key, inner) :: before, after, rfl, fun value => ?_⟩
      rw [Tree.setEntry, Resource.same_text, if_neg (by simpa using same), written]
      rfl

/-! ### Groups -/

/-- What stands under one name at the top of a text: the value of an attribute, or the blocks of a
type in order. -/
inductive Group where
  | setting (name : String) (tree : Tree)
  | blocks (first : TopBlock) (others : List TopBlock)

/-- The entry of a group. -/
def Group.entry : Group → Key × Tree
  | .setting name tree => (.text name, tree)
  | .blocks first others => (.text first.type, .list (first.tree :: others.map TopBlock.tree))

/-- The parts in a group. -/
def Group.parts : Group → List TopPart
  | .setting name tree => [.setting name tree]
  | .blocks first others => (first :: others).map .block

/-- All blocks of a group have one type. -/
def Group.Uniform : Group → Prop
  | .setting _ _ => True
  | .blocks first others => ∀ other ∈ others, other.type = first.type

/-- A body has gathered parts in groups: its entries are those of the groups, in which each part
stands once, and it knows the names of its attributes. -/
structure Gathered (body : Meaning.Body) (groups : List Group) (parts : List TopPart) : Prop where
  entries : body.entries = groups.map Group.entry
  each : (groups.flatMap Group.parts).Perm parts
  uniform : ∀ group ∈ groups, group.Uniform
  names : ∀ name tree, Group.setting name tree ∈ groups → name ∈ body.attributes

/-- Nothing is gathered at the start. -/
theorem gathered_nil : Gathered ⟨[], []⟩ [] [] where
  entries := rfl
  each := .nil
  uniform := by simp
  names := by simp

/-- An attribute makes a group of its own. -/
theorem Gathered.addAttribute {body after : Meaning.Body} {groups : List Group}
    {parts : List TopPart} (gathered : Gathered body groups parts) {name : String} {tree : Tree}
    (added : body.addAttribute name tree = some after) :
    Gathered after (groups ++ [.setting name tree]) (parts ++ [.setting name tree]) := by
  unfold Meaning.Body.addAttribute at added
  split at added
  · cases added
  · cases added
    constructor
    · simp [gathered.entries, Group.entry]
    · simpa [Group.parts] using gathered.each.append_right _
    · simpa [or_imp, forall_and, Group.Uniform] using gathered.uniform
    · intro other value member
      rcases List.mem_append.mp member with earlier | last
      · exact List.mem_cons_of_mem _ (gathered.names other value earlier)
      · obtain ⟨rfl, _⟩ : other = name ∧ value = tree := by simpa using last
        exact List.mem_cons_self

/-- A block of a type that no entry has makes a group of its own. -/
theorem Gathered.newBlock {body : Meaning.Body} {groups : List Group} {parts : List TopPart}
    (gathered : Gathered body groups parts) (declared : TopBlock) :
    Gathered ⟨body.entries ++ [(.text declared.type, .list [declared.tree])], body.attributes⟩
      (groups ++ [.blocks declared []]) (parts ++ [.block declared]) := by
  constructor
  · simp [gathered.entries, Group.entry]
  · simpa [Group.parts] using gathered.each.append_right _
  · simpa [or_imp, forall_and, Group.Uniform] using gathered.uniform
  · intro name tree member
    exact gathered.names name tree (by simpa using member)

/-- A block comes to the end of the group of its type. -/
theorem Gathered.nextBlock {body : Meaning.Body} {before after : List Group} {first : TopBlock}
    {others : List TopBlock} {parts : List TopPart}
    (gathered : Gathered body (before ++ .blocks first others :: after) parts)
    {declared : TopBlock} (type : declared.type = first.type) :
    Gathered ⟨(before ++ .blocks first (others ++ [declared]) :: after).map Group.entry,
        body.attributes⟩
      (before ++ .blocks first (others ++ [declared]) :: after) (parts ++ [.block declared]) := by
  have uniform := gathered.uniform
  simp only [List.forall_mem_append, List.forall_mem_cons] at uniform
  obtain ⟨earlier, own, later⟩ := uniform
  constructor
  · rfl
  · have moved : ((before ++ .blocks first (others ++ [declared]) :: after).flatMap
        Group.parts).Perm
        ((before ++ .blocks first others :: after).flatMap Group.parts ++ [.block declared]) := by
      simp only [List.flatMap_append, List.flatMap_cons, List.append_assoc, Group.parts,
        List.map_append, List.map_cons, List.map_nil, List.cons_append, List.nil_append]
      apply List.Perm.append_left
      apply List.Perm.cons
      apply List.Perm.append_left
      exact (List.perm_append_singleton _ _).symm
    exact moved.trans (gathered.each.append_right _)
  · simp only [List.forall_mem_append, List.forall_mem_cons]
    refine ⟨earlier, ?_, later⟩
    simpa [Group.Uniform, or_imp, forall_and, type] using own
  · intro name tree member
    exact gathered.names name tree (by simpa using member)

/-- A block makes a group of its own or comes to the end of the group of its type, so the parts
are gathered with it. -/
theorem Gathered.addBlock {body next : Meaning.Body} {groups : List Group}
    {parts : List TopPart} (gathered : Gathered body groups parts) {declared : TopBlock}
    (added : body.addBlock declared.type declared.tree = some next) :
    ∃ groups, Gathered next groups (parts ++ [.block declared]) := by
  unfold Meaning.Body.addBlock at added
  split at added
  · cases added
    exact ⟨_, gathered.newBlock declared⟩
  · rename_i current found
    split at added
    · cases added
    · rename_i noAttribute
      cases added
      rw [gathered.entries] at found
      obtain ⟨_, _, place, written⟩ := setEntry_at_found found
      obtain ⟨before, behind, rfl, rfl, there⟩ := List.map_eq_append_iff.mp place
      obtain ⟨group, after, rfl, entry, rfl⟩ := List.map_eq_cons_iff.mp there
      rw [gathered.entries, written]
      -- the body knows the names of its attributes, so what stands there are blocks
      cases group with
      | setting name tree =>
        obtain ⟨rfl, rfl⟩ : name = declared.type ∧ tree = current := by
          simpa [Group.entry] using entry
        exact absurd (gathered.names declared.type tree (by simp)) (by simpa using noAttribute)
      | blocks first others =>
        obtain ⟨type, rfl⟩ : first.type = declared.type ∧
            .list (first.tree :: others.map TopBlock.tree) = current := by
          simpa [Group.entry] using entry
        refine ⟨before ++ .blocks first (others ++ [declared]) :: after, ?_⟩
        simpa [Group.entry, type] using gathered.nextBlock type.symm

/-- Parts that are added to a body one by one are gathered behind those that it has. Proof: by
induction on the parts; each of them keeps what is gathered. -/
theorem Gathered.addAll {parts : List TopPart} {body after : Meaning.Body} {groups : List Group}
    {done : List TopPart} (gathered : Gathered body groups done)
    (added : body.addAll (parts.map TopPart.meaning) = some after) :
    ∃ groups, Gathered after groups (done ++ parts) := by
  induction parts generalizing body groups done with
  | nil =>
    cases added
    exact ⟨groups, by simpa using gathered⟩
  | cons part parts inductionHypothesis =>
    rw [List.append_cons]
    cases part with
    | setting name tree =>
      obtain ⟨next, one, rest⟩ := Option.bind_eq_some_iff.mp added
      exact inductionHypothesis (gathered.addAttribute one) rest
    | block declared =>
      obtain ⟨next, one, rest⟩ := Option.bind_eq_some_iff.mp added
      obtain ⟨groups, gathered⟩ := gathered.addBlock one
      exact inductionHypothesis gathered rest

/-- The entries of a text are those of groups in which each of its parts stands once. -/
theorem groups_of_presented {parts : List TopPart} {entries : List (Key × Tree)}
    (presented : presented? parts = some (.value (.map entries))) :
    ∃ groups : List Group, entries = groups.map Group.entry ∧
      (groups.flatMap Group.parts).Perm parts ∧ ∀ group ∈ groups, group.Uniform := by
  rw [presented?_eq] at presented
  obtain ⟨body, added, same⟩ := Option.map_eq_some_iff.mp presented
  cases same
  obtain ⟨groups, gathered⟩ := gathered_nil.addAll added
  exact ⟨groups, gathered.entries, gathered.each, gathered.uniform⟩

/-! ### Single blocks -/

/-- What is found under labels cannot be read when a label is a mark, because the map under such a
label is no line. -/
theorem fails_toBlock_foundUnder {labels : List String} (mark : startLineKey ∈ labels) (type : Key)
    (body : List (Key × Tree)) (outer : List String) :
    Fails (toBlock type (foundUnder outer body labels)) := by
  induction labels generalizing outer with
  | nil => cases mark
  | cons name labels inductionHypothesis =>
    rw [foundUnder]
    by_cases same : name = startLineKey
    · subst same
      have lineless : Fails (markedLine [(.text startLineKey, underLabels labels body)]) := by
        cases labels <;> simp [markedLine, Tree.entry?, underLabels]
      rw [if_pos rfl, toBlock, fails_bind_apart _ fun _ => ?_]
      · exact .inr lineless
      · exact fails_bind_sound _ fun _ => not_fails_ok _
    · rw [if_neg same]
      apply inductionHypothesis
      exact (List.mem_cons.mp mark).resolve_left (Ne.symm same)

namespace TopBlock

/-- What the search finds of a block. -/
def found (declared : TopBlock) : LabelledBody := foundUnder [] declared.body declared.labels

/-- The block that a declared block is read as, if it can be read. -/
def read (declared : TopBlock) : Except LiteralFault Block :=
  toBlock (.text declared.type) declared.found

/-- A block is what was declared: it has the type, the labels without quotes, the attributes and
the nested blocks that are read from the body, and the line. No label is a mark. -/
structure Reads (declared : TopBlock) (block : Block) : Prop where
  noMarks : startLineKey ∉ declared.labels
  type : block.type = .text declared.type
  labels : block.labels = declared.labels.map unquote
  contents : readEntries [] [] declared.body = .ok (block.attributes, block.blocks)
  line : block.line = declared.firstLine

/-- The body of a block is marked with its line. -/
theorem markedLine_body (declared : TopBlock) :
    isMarked declared.body = true ∧ markedLine declared.body = .ok declared.firstLine := by
  apply markedLine_of_entry
  rw [body, entry?_setEntry_other (by decide), entry?_setEntry]

/-- A declared block is read as what it is. -/
theorem read_ok_iff (declared : TopBlock) (block : Block) :
    declared.read = .ok block ↔ declared.Reads block := by
  rw [read, found]
  constructor
  · intro done
    have noMarks : startLineKey ∉ declared.labels := by
      intro mark
      have failed := fails_toBlock_foundUnder mark (.text declared.type) declared.body []
      rw [done] at failed
      exact not_fails_ok block failed
    rw [foundUnder_eq noMarks, toBlock, declared.markedLine_body.2] at done
    obtain ⟨⟨attributes, blocks⟩, contents, done⟩ := ok_of_bind done
    cases done
    exact ⟨noMarks, rfl, rfl, contents, rfl⟩
  · intro reads
    obtain ⟨type, labels, attributes, blocks, line⟩ := block
    obtain ⟨noMarks, rfl, rfl, contents, rfl⟩ := reads
    rw [foundUnder_eq noMarks, toBlock, declared.markedLine_body.2, contents]
    rfl

end TopBlock

/-- Blocks under a name are found one by one. -/
theorem bodiesOfItems_declared (blocks : List TopBlock) :
    bodiesOfItems (blocks.map TopBlock.tree) = .ok (some (blocks.map TopBlock.found)) := by
  induction blocks with
  | nil => rfl
  | cons declared blocks inductionHypothesis =>
    have one := unwrapLabels_foundUnder declared.markedLine_body.1 declared.labels []
    simp [bodiesOfItems, TopBlock.tree, one, inductionHypothesis, TopBlock.found, bind,
      Except.bind]

/-- Declared blocks of one type are read one by one. -/
theorem mapM_toBlock_found {type : String} {blocks : List TopBlock}
    (same : ∀ declared ∈ blocks, declared.type = type) :
    (blocks.map TopBlock.found).mapM (toBlock (.text type)) = blocks.mapM TopBlock.read := by
  induction blocks with
  | nil => rfl
  | cons declared blocks inductionHypothesis =>
    obtain ⟨own, others⟩ := List.forall_mem_cons.mp same
    rw [List.map_cons, List.mapM_cons, List.mapM_cons, inductionHypothesis others, TopBlock.read,
      own]

/-- The entry of a group of blocks is read as these blocks, before those of the other entries. -/
theorem topBlocks_blocks {first : TopBlock} {others : List TopBlock}
    (uniform : Group.Uniform (.blocks first others)) (entries : List (Key × Tree)) :
    topBlocks (Group.entry (.blocks first others) :: entries) =
      ((first :: others).mapM TopBlock.read >>= fun found =>
        topBlocks entries >>= fun rest => .ok (found ++ rest)) := by
  have same : ∀ declared ∈ first :: others, declared.type = first.type :=
    List.forall_mem_cons.mpr ⟨rfl, uniform⟩
  have search : blockBodies (.list (first.tree :: others.map TopBlock.tree)) =
      .ok (some ((first :: others).map TopBlock.found)) := by
    rw [blockBodies, ← bodiesOfItems_declared]
    · rfl
    · simp
  rw [← mapM_toBlock_found same, Group.entry, topBlocks, search]
  rfl

/-- The entry of an attribute is passed over, unless the search for blocks strays in it. -/
theorem topBlocks_setting {name : String} {tree : Tree} (unmarked : Unmarked tree)
    (entries : List (Key × Tree)) (found : List Block) :
    topBlocks (Group.entry (.setting name tree) :: entries) = .ok found ↔
      ¬ FirstStrays tree ∧ topBlocks entries = .ok found := by
  have search := blockBodies_unmarked unmarked
  rw [Group.entry, topBlocks]
  by_cases strays : FirstStrays tree
  · obtain ⟨sort, broken⟩ := search.broken (not_not.mpr strays)
    simp [broken, strays, bind, Except.bind]
  · simp [search.there strays, strays, bind, Except.bind]

/-- No search strays in an attribute of parts. -/
def Straight (parts : List TopPart) : Prop :=
  ∀ name tree, TopPart.setting name tree ∈ parts → ¬ FirstStrays tree

/-- The blocks of groups are read one by one, in the order of the groups, unless the search for
blocks strays in an attribute. -/
theorem topBlocks_groups {groups : List Group} (uniform : ∀ group ∈ groups, group.Uniform)
    (unmarked : ∀ name tree, TopPart.setting name tree ∈ groups.flatMap Group.parts →
      Unmarked tree) (found : List Block) :
    topBlocks (groups.map Group.entry) = .ok found ↔
      Straight (groups.flatMap Group.parts) ∧
        (declaredBlocks (groups.flatMap Group.parts)).mapM TopBlock.read = .ok found := by
  induction groups generalizing found with
  | nil => simp [topBlocks, Straight, declaredBlocks, pure, Except.pure]
  | cons group groups inductionHypothesis =>
    rw [List.map_cons, List.flatMap_cons]
    obtain ⟨own, others⟩ := List.forall_mem_cons.mp uniform
    have rest := inductionHypothesis others fun name tree member =>
      unmarked name tree (by simp [member])
    cases group with
    | setting name tree =>
      rw [topBlocks_setting (unmarked name tree (by simp [Group.parts])), rest]
      simp [Straight, Group.parts, declaredBlocks, or_imp, forall_and, and_assoc]
    | blocks first others =>
      have straight : Straight (Group.parts (.blocks first others) ++
          groups.flatMap Group.parts) ↔ Straight (groups.flatMap Group.parts) := by
        simp [Straight, Group.parts]
      have declared : declaredBlocks (Group.parts (.blocks first others) ++
          groups.flatMap Group.parts) =
            (first :: others) ++ declaredBlocks (groups.flatMap Group.parts) := by
        simp [declaredBlocks, Group.parts, List.filterMap_map]
      rw [topBlocks_blocks own, straight, declared, List.mapM_append]
      constructor
      · intro done
        obtain ⟨now, read, done⟩ := ok_of_bind done
        obtain ⟨later, readLater, same⟩ := ok_of_bind done
        obtain ⟨straight, readLater⟩ := (rest later).mp readLater
        refine ⟨straight, ?_⟩
        rw [read, readLater]
        exact same
      · rintro ⟨straight, done⟩
        obtain ⟨now, read, done⟩ := ok_of_bind done
        obtain ⟨later, readLater, same⟩ := ok_of_bind done
        rw [read, (rest later).mpr ⟨straight, readLater⟩]
        exact same

/-! ### The order of lines -/

/-- Blocks whose lines rise are what sorting by lines makes of them in any order. Proof: both lists
are in the order of lines, and blocks of one line are the same. -/
theorem mergeSort_of_rising {blocks found : List Block} (same : blocks.Perm found)
    (rising : blocks.Pairwise fun earlier later => earlier.line < later.line) :
    found.mergeSort (fun a b => a.line ≤ b.line) = blocks := by
  have trans (a b c : Block) (first : decide (a.line ≤ b.line) = true)
      (second : decide (b.line ≤ c.line) = true) : decide (a.line ≤ c.line) = true := by
    simp only [decide_eq_true_eq] at first second ⊢
    omega
  have total (a b : Block) : (decide (a.line ≤ b.line) || decide (b.line ≤ a.line)) = true := by
    simp only [Bool.or_eq_true, decide_eq_true_eq]
    omega
  have sorted := List.pairwise_mergeSort trans total found
  have rearranged := (List.mergeSort_perm found fun a b => a.line ≤ b.line).trans same.symm
  have ordered : blocks.Pairwise fun a b => decide (a.line ≤ b.line) = true := by
    apply rising.imp
    intro earlier later before
    simpa using Int.le_of_lt before
  have distinct : (blocks.map (·.line)).Nodup := by
    rw [List.Nodup, List.pairwise_map]
    exact rising.imp fun before => Int.ne_of_lt before
  apply rearranged.eq_of_pairwise _ sorted ordered
  intro a b left right upTo downTo
  simp only [decide_eq_true_eq] at upTo downTo
  exact List.inj_on_of_nodup_map distinct (rearranged.mem_iff.mp left) right
    (Int.le_antisymm upTo downTo)

/-- Blocks that are read from declared ones whose lines rise have rising lines. -/
theorem rising_of_reads {declared : List TopBlock} {found : List Block}
    (reads : List.Forall₂ TopBlock.Reads declared found)
    (rising : declared.Pairwise fun earlier later => earlier.firstLine < later.firstLine) :
    found.Pairwise fun earlier later => earlier.line < later.line := by
  have lines : found.map (·.line) = declared.map fun block => (block.firstLine : Int) := by
    induction reads with
    | nil => rfl
    | cons first _ inductionHypothesis =>
      rw [List.map_cons, List.map_cons, first.line,
        inductionHypothesis (List.pairwise_cons.mp rising).2]
  rw [← List.pairwise_map (R := fun a b : Int => a < b), lines, List.pairwise_map]
  exact rising.imp fun before => Int.ofNat_lt.mpr before

/-- When the lines of blocks rise, they are read in the order of their declaration, unless the
search for blocks strays in an attribute: what is read are the declared blocks one by one. Proof:
the blocks are read group by group, which rearranges them, and sorting restores their order. -/
theorem blocksInOrder_presented {parts : List TopPart} {entries : List (Key × Tree)}
    (presented : presented? parts = some (.value (.map entries)))
    (unmarked : ∀ name tree, TopPart.setting name tree ∈ parts → Unmarked tree)
    (rising : (declaredBlocks parts).Pairwise fun earlier later =>
      earlier.firstLine < later.firstLine) (found : List Block) :
    blocksInOrder entries = .ok found ↔
      Straight parts ∧ List.Forall₂ TopBlock.Reads (declaredBlocks parts) found := by
  obtain ⟨groups, rfl, each, uniform⟩ := groups_of_presented presented
  have straight : Straight (groups.flatMap Group.parts) ↔ Straight parts := by
    simp only [Straight, each.mem_iff]
  have blocks := each.filterMap fun
    | .block declared => some declared
    | .setting _ _ => none
  have searched (found : List Block) := topBlocks_groups uniform
    (fun name tree member => unmarked name tree (each.mem_iff.mp member)) found
  simp only [straight, mapM_ok_iff, TopBlock.read_ok_iff] at searched
  rw [blocksInOrder]
  constructor
  · intro done
    obtain ⟨grouped, read, rfl⟩ := ok_of_map done
    obtain ⟨free, reads⟩ := (searched grouped).mp read
    obtain ⟨inOrder, reads, same⟩ := List.perm_comp_forall₂ blocks.symm reads
    rw [mergeSort_of_rising same (rising_of_reads reads rising)]
    exact ⟨free, reads⟩
  · rintro ⟨free, reads⟩
    obtain ⟨grouped, found, same⟩ := List.perm_comp_forall₂ blocks reads
    rw [(searched grouped).mpr ⟨free, found⟩]
    exact congrArg Except.ok (mergeSort_of_rising same.symm (rising_of_reads reads rising))

end InfraReview.Hcl
