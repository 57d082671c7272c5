import InfraReview.Plan.Values
import InfraReview.Proofs.Resource.Constant

/-!
# Bodies and their two renderings

The body of a declaration has settings, which are constants, and under other names nested
blocks, each with a body of its own. A plan renders the blocks of a name as a list of objects.
Source text renders them as a list of maps, which carry the lines of their blocks; a name
without blocks is not there at all.

Both readers find the contents of the body in its rendering, down to any depth, when the
table has exactly the names of the blocks in their places. There are two differences: a plan
does not have the lines of blocks, and source text gives the names in the values of attributes
as they stand between quotes.
-/

namespace InfraReview.Resource

mutual

/-- The body of a declaration or of a block, with the lines on which it starts and ends. -/
inductive Body where
  | mk (firstLine lastLine : Int) (entries : List (String × Entry))

/-- What stands under a name in a body. -/
inductive Entry where
  | setting (constant : Constant)
  | blocks (bodies : List Body)

end

mutual

/-- The members of a body in a plan. -/
def Body.toJson : Body → List (String × Json)
  | .mk _ _ entries => entriesToJson entries

/-- The members of entries in a plan. -/
def entriesToJson : List (String × Entry) → List (String × Json)
  | [] => []
  | (name, entry) :: entries => (name, Entry.toJson entry) :: entriesToJson entries

/-- An entry in a plan. -/
def Entry.toJson : Entry → Json
  | .setting constant => constant.toJson
  | .blocks bodies => .array (bodiesToJson bodies)

/-- The bodies of blocks in a plan. -/
def bodiesToJson : List Body → List Json
  | [] => []
  | body :: bodies => .object (Body.toJson body) :: bodiesToJson bodies

end

/-- The marks of a body. -/
def marks (firstLine lastLine : Int) : List (Key × Hcl.Tree) :=
  [(.text Hcl.startLineKey, .int firstLine), (.text Hcl.endLineKey, .int lastLine)]

mutual

/-- The entries of a body in source text. -/
def Body.toTree : Body → List (Key × Hcl.Tree)
  | .mk firstLine lastLine entries => entriesToTree entries ++ marks firstLine lastLine

/-- Entries in source text; a name without blocks is left out. -/
def entriesToTree : List (String × Entry) → List (Key × Hcl.Tree)
  | [] => []
  | (name, entry) :: entries =>
    match Entry.toTree? entry with
    | some tree => (.text name, tree) :: entriesToTree entries
    | none => entriesToTree entries

/-- An entry in source text, unless it is left out. -/
def Entry.toTree? : Entry → Option Hcl.Tree
  | .setting constant => some constant.toTree
  | .blocks [] => none
  | .blocks (body :: bodies) => some (.list (.map (Body.toTree body) :: bodiesToTree bodies))

/-- The bodies of blocks in source text. -/
def bodiesToTree : List Body → List Hcl.Tree
  | [] => []
  | body :: bodies => .map (Body.toTree body) :: bodiesToTree bodies

end

/-- The line on which a body starts. -/
def Body.firstLine : Body → Int
  | .mk firstLine _ _ => firstLine

/-- The attribute that a setting is; null is none. -/
def settingAttributes (name : String) (constant : Constant) : Attributes :=
  match constant.value? with
  | some value => [(name, value)]
  | none => []

mutual

/-- The attributes and the blocks of a body, given the line of a block by the line on which
its body starts. -/
def Body.contents (line : Int → Int) : Body → Attributes × NestedBlocks
  | .mk _ _ entries => entriesContents line entries

/-- The attributes and the blocks of entries. -/
def entriesContents (line : Int → Int) : List (String × Entry) → Attributes × NestedBlocks
  | [] => ([], [])
  | (name, entry) :: entries =>
    let own := Entry.contents line name entry
    let others := entriesContents line entries
    (own.1 ++ others.1, own.2 ++ others.2)

/-- The attribute or the blocks of one entry. -/
def Entry.contents (line : Int → Int) (name : String) : Entry → Attributes × NestedBlocks
  | .setting constant => (settingAttributes name constant, [])
  | .blocks [] => ([], [])
  | .blocks (body :: bodies) =>
    ([], [(.text name, bodiesContents line name (body :: bodies))])

/-- The blocks of a name. -/
def bodiesContents (line : Int → Int) (name : String) : List Body → List Block
  | [] => []
  | body :: bodies =>
    let inside := Body.contents line body
    ⟨.text name, [], inside.1, inside.2, line body.firstLine⟩ :: bodiesContents line name bodies

end

/-- True for an object. -/
def Constant.isObject : Constant → Bool
  | .object _ => true
  | _ => false

/-- True for a constant that has the form of blocks: an object, or a list of nothing but
objects, which may be empty. -/
def Constant.isBlockLike : Constant → Bool
  | .object _ => true
  | .list items => items.all isObject
  | _ => false

mutual

/-- A body at a place of the table that both readers take: its names are plain and different,
its blocks are the names that the table has there, and no setting that the table has there has
the form of blocks. -/
def Body.WellFormed (tree : BlockTree) : Body → Prop
  | .mk _ _ entries => (entries.map (·.1)).Nodup ∧ EntriesWellFormed tree entries

/-- Every entry at a place of the table is well formed. -/
def EntriesWellFormed (tree : BlockTree) : List (String × Entry) → Prop
  | [] => True
  | (name, entry) :: entries =>
    PlainName name ∧ Entry.WellFormed (tree.child? name) entry ∧ EntriesWellFormed tree entries

/-- An entry with the place of its name in the table is well formed. -/
def Entry.WellFormed (place : Option BlockTree) : Entry → Prop
  | .setting constant =>
    constant.WellFormed ∧ (place.isSome = true → constant.isBlockLike = false)
  | .blocks bodies => ∃ tree, place = some tree ∧ BodiesWellFormed tree bodies

/-- Every body of the blocks of a name is well formed. -/
def BodiesWellFormed (tree : BlockTree) : List Body → Prop
  | [] => True
  | body :: bodies => Body.WellFormed tree body ∧ BodiesWellFormed tree bodies

end

/-! ### In a plan -/

/-- A list of constants is a list of objects in a plan when it is one. -/
theorem all_isObject_toJson (items : List Constant) :
    (Constant.itemsToJson items).all Plan.isObject = items.all Constant.isObject := by
  induction items with
  | nil => rfl
  | cons item items inductionHypothesis =>
    simp only [Constant.itemsToJson, List.all_cons, inductionHypothesis]
    cases item <;> simp [Constant.toJson, Plan.isObject, Constant.isObject]

/-- Bodies are a list of objects in a plan. -/
theorem all_isObject_bodies (bodies : List Body) :
    (bodiesToJson bodies).all Plan.isObject = true := by
  induction bodies with
  | nil => rfl
  | cons body bodies inductionHypothesis =>
    simpa [bodiesToJson, Plan.isObject] using inductionHypothesis

/-- A plan takes a setting as an attribute, or as nothing when it is null. -/
theorem splitMember_setting {place : Option BlockTree} {name : String} {constant : Constant}
    (wellFormed : constant.WellFormed)
    (apart : place.isSome = true → constant.isBlockLike = false) :
    Plan.splitMember place name constant.toJson = .ok (settingAttributes name constant, []) := by
  cases found : constant.value? with
  | none =>
    obtain rfl := Constant.value_none wellFormed found
    simp [Constant.toJson, Plan.splitMember, settingAttributes, found]
  | some value =>
    have settled : settingAttributes name constant = [(name, value)] := by
      simp [settingAttributes, found]
    rw [settled]
    cases constant with
    | object members =>
      obtain rfl : .map (Constant.memberValues members) = value := by
        simpa [Constant.value?] using found
      have frozen := Constant.freezeMembers_toJson members wellFormed.2
      cases place with
      | none => simp [Constant.toJson, Plan.splitMember, frozen, Except.map]
      | some tree => simp [Constant.isBlockLike] at apart
    | list items =>
      obtain rfl : .list (Constant.itemValues items) = value := by
        simpa [Constant.value?] using found
      have frozen := Constant.freezeItems_toJson items wellFormed
      cases place with
      | none => simp [Constant.toJson, Plan.splitMember, frozen, Except.map]
      | some tree =>
        have mixed : (Constant.itemsToJson items).all Plan.isObject = false := by
          rw [all_isObject_toJson]
          exact apart rfl
        simp [Constant.toJson, Plan.splitMember, mixed, frozen, Except.map]
    | null => simp [Constant.value?] at found
    | _ =>
      have frozen := Constant.freeze_toJson _ value wellFormed found
      rw [Constant.toJson] at frozen ⊢
      rw [Plan.splitMember, frozen]
      · rfl
      all_goals simp

mutual

/-- A plan gives a body its contents, with no lines. -/
theorem splitMembers_body : ∀ (body : Body) (tree : BlockTree), body.WellFormed tree →
    Plan.splitMembers tree body.toJson = .ok (body.contents fun _ => 0)
  | .mk _ _ entries, tree, wellFormed => by
    rw [Body.toJson, Body.contents]
    exact splitMembers_entries entries tree wellFormed.2

/-- A plan gives entries their contents. -/
theorem splitMembers_entries : ∀ (entries : List (String × Entry)) (tree : BlockTree),
    EntriesWellFormed tree entries →
    Plan.splitMembers tree (entriesToJson entries) = .ok (entriesContents (fun _ => 0) entries)
  | [], _, _ => by simp [entriesToJson, Plan.splitMembers, entriesContents]
  | (name, entry) :: entries, tree, ⟨_, wellFormed, othersWellFormed⟩ => by
    have own := splitMember_entry entry name (tree.child? name) wellFormed
    have others := splitMembers_entries entries tree othersWellFormed
    simp [entriesToJson, Plan.splitMembers, own, others, entriesContents, bind, Except.bind]

/-- A plan gives one entry its contents. -/
theorem splitMember_entry : ∀ (entry : Entry) (name : String) (place : Option BlockTree),
    entry.WellFormed place →
    Plan.splitMember place name entry.toJson = .ok (entry.contents (fun _ => 0) name)
  | .setting constant, name, place, wellFormed => by
    rw [Entry.toJson, Entry.contents]
    exact splitMember_setting wellFormed.1 wellFormed.2
  | .blocks [], name, _, ⟨tree, rfl, _⟩ => by
    simp [Entry.toJson, bodiesToJson, Plan.splitMember, Plan.splitItems, Entry.contents, bind,
      Except.bind]
  | .blocks (body :: bodies), name, _, ⟨tree, rfl, wellFormed⟩ => by
    have items := splitItems_bodies (body :: bodies) name tree wellFormed
    have objects := all_isObject_bodies (body :: bodies)
    rw [Entry.toJson, Plan.splitMember, if_pos objects, items]
    simp [Entry.contents, bodiesContents, bind, Except.bind]

/-- A plan gives the bodies under a name their blocks. -/
theorem splitItems_bodies : ∀ (bodies : List Body) (name : String) (tree : BlockTree),
    BodiesWellFormed tree bodies →
    Plan.splitItems tree name (bodiesToJson bodies) =
      .ok (bodiesContents (fun _ => 0) name bodies)
  | [], _, _, _ => by simp [bodiesToJson, Plan.splitItems, bodiesContents]
  | body :: bodies, name, tree, ⟨wellFormed, othersWellFormed⟩ => by
    have first := splitMembers_body body tree wellFormed
    have others := splitItems_bodies bodies name tree othersWellFormed
    simp [bodiesToJson, Plan.splitItems, first, others, bodiesContents, bind, Except.bind]

end

/-! ### In source text -/

/-- An attribute whose name does not occur yet comes last. -/
theorem setAttribute_fresh {attributes : Attributes} {name : String}
    (fresh : name ∉ attributes.map (·.1)) (value : Value) :
    Hcl.setAttribute attributes name value = attributes ++ [(name, value)] := by
  induction attributes with
  | nil => rfl
  | cons entry attributes inductionHypothesis =>
    obtain ⟨other, current⟩ := entry
    simp only [List.map_cons, List.mem_cons, not_or] at fresh
    rw [Hcl.setAttribute, if_neg (Ne.symm fresh.1), inductionHypothesis fresh.2]
    rfl

/-- Blocks whose type does not occur yet come last. -/
theorem addBlocks_fresh {blocks : NestedBlocks} {type : Key}
    (fresh : type ∉ blocks.map (·.1)) (more : List Block) :
    Hcl.addBlocks blocks type more = blocks ++ [(type, more)] := by
  induction blocks with
  | nil => rfl
  | cons entry blocks inductionHypothesis =>
    obtain ⟨other, current⟩ := entry
    simp only [List.map_cons, List.mem_cons, not_or] at fresh
    rw [Hcl.addBlocks, if_neg (Ne.symm fresh.1), inductionHypothesis fresh.2]
    rfl

/-- The mark of the first line is found behind entries with plain names. -/
theorem entry_startLine {tree : BlockTree} {entries : List (String × Entry)}
    (wellFormed : EntriesWellFormed tree entries) (firstLine lastLine : Int) :
    Hcl.Tree.entry? (entriesToTree entries ++ marks firstLine lastLine) Hcl.startLineKey =
      some (.int firstLine) := by
  induction entries with
  | nil => simp [entriesToTree, marks, Hcl.Tree.entry?]
  | cons first entries inductionHypothesis =>
    obtain ⟨name, entry⟩ := first
    obtain ⟨plain, _, others⟩ := wellFormed
    rw [entriesToTree]
    cases entry.toTree? with
    | none => exact inductionHypothesis others
    | some tree =>
      rw [List.cons_append, Hcl.entry?_other (by simpa using plain.notStart)]
      exact inductionHypothesis others

/-- A body in source text is marked with the line on which it starts. -/
theorem markedLine_body {tree : BlockTree} {body : Body} (wellFormed : body.WellFormed tree) :
    Hcl.isMarked body.toTree = true ∧ Hcl.markedLine body.toTree = .ok body.firstLine := by
  obtain ⟨firstLine, lastLine, entries⟩ := body
  rw [Body.toTree]
  exact Hcl.markedLine_of_entry (entry_startLine wellFormed.2 firstLine lastLine)

/-- Bodies in source text are the bodies of blocks without labels. -/
theorem bodiesOfItems_bodies {tree : BlockTree} (bodies : List Body)
    (wellFormed : BodiesWellFormed tree bodies) :
    Hcl.bodiesOfItems (bodiesToTree bodies) =
      .ok (some (bodies.map fun body => ⟨[], body.toTree⟩)) := by
  induction bodies with
  | nil => simp [bodiesToTree, Hcl.bodiesOfItems]
  | cons body bodies inductionHypothesis =>
    have marked := (markedLine_body wellFormed.1).1
    simp [bodiesToTree, Hcl.bodiesOfItems, Hcl.unwrapLabels, marked,
      inductionHypothesis wellFormed.2, bind, Except.bind]

/-- A plain name is no mark of a body. -/
theorem isMarkKey_plain {name : String} (plain : PlainName name) :
    Hcl.isMarkKey (.text name) = false := by
  simp [Hcl.isMarkKey, plain.notStart, plain.notEnd]

/-- The marks of a body give nothing. -/
theorem readEntries_marks (attributes : Attributes) (blocks : NestedBlocks)
    (firstLine lastLine : Int) :
    Hcl.readEntries attributes blocks (marks firstLine lastLine) = .ok (attributes, blocks) := by
  simp [marks, Hcl.readEntries, Hcl.isMarkKey]

/-- Source text takes a setting as an attribute, or as nothing when it is null. -/
theorem readEntries_setting {name : String} {constant : Constant} {attributes : Attributes}
    {blocks : NestedBlocks} {rest : List (Key × Hcl.Tree)} (plain : PlainName name)
    (wellFormed : constant.WellFormed) (fresh : name ∉ attributes.map (·.1)) :
    Hcl.readEntries attributes blocks ((.text name, constant.toTree) :: rest) =
      Hcl.readEntries (attributes ++ (settingAttributes name constant).quoted) blocks rest := by
  have bodies := Constant.blockBodies_toTree wellFormed
  have literal := Constant.literal_toTree constant wellFormed
  rw [Hcl.readEntries, isMarkKey_plain plain]
  cases found : constant.value? with
  | none =>
    rw [Constant.literal_none found] at literal
    simp [bodies, literal, settingAttributes, found, Attributes.quoted, bind, Except.bind]
  | some value =>
    rw [Constant.literal_some found] at literal
    simp [bodies, literal, settingAttributes, found, Hcl.label, Attributes.quoted,
      Hcl.unquote_of_unquoted plain.unquoted, setAttribute_fresh fresh, bind, Except.bind]

/-- Blocks under a name are added behind those that were read. -/
theorem readEntries_blocks {name : String} {tree : BlockTree} {bodies : List Body}
    {found : List Block} (attributes : Attributes) {blocks : NestedBlocks}
    (rest : List (Key × Hcl.Tree)) (plain : PlainName name)
    (wellFormed : BodiesWellFormed tree bodies) (nonempty : bodies ≠ [])
    (read : Hcl.readItems (.text name) (bodiesToTree bodies) = .ok found)
    (fresh : .text name ∉ blocks.map (·.1)) :
    Hcl.readEntries attributes blocks ((.text name, .list (bodiesToTree bodies)) :: rest) =
      Hcl.readEntries attributes (blocks ++ [(.text name, found)]) rest := by
  have listed : Hcl.blockBodies (.list (bodiesToTree bodies)) =
      .ok (some (bodies.map fun body => ⟨[], body.toTree⟩)) := by
    rw [← bodiesOfItems_bodies bodies wellFormed]
    cases bodies with
    | nil => exact absurd rfl nonempty
    | cons body bodies => rw [bodiesToTree, Hcl.blockBodies]; simp
  rw [Hcl.readEntries, isMarkKey_plain plain]
  simp [listed, Hcl.readBlocks, read, addBlocks_fresh fresh, bind, Except.bind]

/-- No name of the entries occurs in the attributes or in the blocks that were read. -/
def Fresh (entries : List (String × Entry)) (attributes : Attributes)
    (blocks : NestedBlocks) : Prop :=
  ∀ name ∈ entries.map (·.1), name ∉ attributes.map (·.1) ∧ .text name ∉ blocks.map (·.1)

/-- Other names stay fresh when a setting has been read. -/
theorem Fresh.setting {name : String} {entry : Entry} {entries : List (String × Entry)}
    {attributes : Attributes} {blocks : NestedBlocks}
    (fresh : Fresh ((name, entry) :: entries) attributes blocks)
    (absent : name ∉ entries.map (·.1)) (constant : Constant) :
    Fresh entries (attributes ++ (settingAttributes name constant).quoted) blocks := by
  intro other member
  obtain ⟨noAttribute, noBlocks⟩ := fresh other (List.mem_cons_of_mem _ member)
  refine ⟨?_, noBlocks⟩
  have differs : other ≠ name := by
    rintro rfl
    exact absent member
  rw [List.map_append, List.mem_append, not_or]
  refine ⟨noAttribute, ?_⟩
  unfold settingAttributes
  split
  · simpa [Attributes.quoted] using differs
  · simp [Attributes.quoted]

/-- Other names stay fresh when blocks have been read. -/
theorem Fresh.blocks {name : String} {entry : Entry} {entries : List (String × Entry)}
    {attributes : Attributes} {blocks : NestedBlocks}
    (fresh : Fresh ((name, entry) :: entries) attributes blocks)
    (absent : name ∉ entries.map (·.1)) (found : List Block) :
    Fresh entries attributes (blocks ++ [(.text name, found)]) := by
  intro other member
  obtain ⟨noAttribute, noBlocks⟩ := fresh other (List.mem_cons_of_mem _ member)
  refine ⟨noAttribute, ?_⟩
  have differs : other ≠ name := by
    rintro rfl
    exact absent member
  rw [List.map_append, List.mem_append, not_or]
  exact ⟨noBlocks, by simpa using differs⟩

/-- Other names stay fresh when nothing has been read. -/
theorem Fresh.rest {name : String} {entry : Entry} {entries : List (String × Entry)}
    {attributes : Attributes} {blocks : NestedBlocks}
    (fresh : Fresh ((name, entry) :: entries) attributes blocks) :
    Fresh entries attributes blocks :=
  fun other member => fresh other (List.mem_cons_of_mem _ member)

/-- The contents of a body with the names in their values between quotes. -/
def quotedContents (contents : Attributes × NestedBlocks) : Attributes × NestedBlocks :=
  (contents.1.quoted, quotedTables contents.2)

/-- Contents that follow each other are quoted apart. -/
theorem quotedContents_append (first second : Attributes × NestedBlocks) :
    quotedContents (first.1 ++ second.1, first.2 ++ second.2) =
      ((quotedContents first).1 ++ (quotedContents second).1,
        (quotedContents first).2 ++ (quotedContents second).2) := by
  simp [quotedContents, Attributes.quoted, quotedTables_append]

mutual

/-- Source text gives a body its contents, with the lines of its blocks and with the names in
their values between quotes. -/
theorem readEntries_body : ∀ (body : Body) (tree : BlockTree), body.WellFormed tree →
    Hcl.readEntries [] [] body.toTree = .ok (quotedContents (body.contents id))
  | .mk firstLine lastLine entries, tree, wellFormed => by
    have found := readEntries_entries entries tree [] [] firstLine lastLine wellFormed.2
      wellFormed.1 (by simp [Fresh])
    rw [Body.toTree, Body.contents, found]
    rfl

/-- Source text gives entries their contents, behind those that were read. -/
theorem readEntries_entries : ∀ (entries : List (String × Entry)) (tree : BlockTree)
    (attributes : Attributes) (blocks : NestedBlocks) (firstLine lastLine : Int),
    EntriesWellFormed tree entries → (entries.map (·.1)).Nodup →
    Fresh entries attributes blocks →
    Hcl.readEntries attributes blocks (entriesToTree entries ++ marks firstLine lastLine) =
      .ok (attributes ++ (quotedContents (entriesContents id entries)).1,
        blocks ++ (quotedContents (entriesContents id entries)).2)
  | [], _, attributes, blocks, firstLine, lastLine, _, _, _ => by
    simpa [entriesToTree, entriesContents, quotedContents, Attributes.quoted, quotedTables] using
      readEntries_marks attributes blocks firstLine lastLine
  | (name, .setting constant) :: entries, tree, attributes, blocks, firstLine, lastLine,
      ⟨plain, wellFormed, othersWellFormed⟩, distinct, fresh => by
    obtain ⟨absent, othersDistinct⟩ := List.nodup_cons.mp distinct
    have others := readEntries_entries entries tree _ blocks firstLine lastLine othersWellFormed
      othersDistinct (fresh.setting absent constant)
    rw [entriesToTree, Entry.toTree?]
    simp only [List.cons_append]
    rw [readEntries_setting plain wellFormed.1 (fresh name List.mem_cons_self).1, others,
      entriesContents, quotedContents_append]
    simp [Entry.contents, quotedContents, quotedTables]
  | (name, .blocks []) :: entries, tree, attributes, blocks, firstLine, lastLine,
      ⟨_, _, othersWellFormed⟩, distinct, fresh => by
    have others := readEntries_entries entries tree attributes blocks firstLine lastLine
      othersWellFormed (List.nodup_cons.mp distinct).2 fresh.rest
    simpa [entriesToTree, Entry.toTree?, entriesContents, Entry.contents] using others
  | (name, .blocks (body :: bodies)) :: entries, tree, attributes, blocks, firstLine, lastLine,
      ⟨plain, ⟨place, _, wellFormed⟩, othersWellFormed⟩, distinct, fresh => by
    obtain ⟨absent, othersDistinct⟩ := List.nodup_cons.mp distinct
    have read := readItems_bodies (body :: bodies) name place wellFormed
    have others := readEntries_entries entries tree attributes _ firstLine lastLine
      othersWellFormed othersDistinct
      (fresh.blocks absent (quotedBlocks (bodiesContents id name (body :: bodies))))
    have added := readEntries_blocks attributes
      (entriesToTree entries ++ marks firstLine lastLine) plain wellFormed
      (List.cons_ne_nil _ _) read (fresh name List.mem_cons_self).2
    rw [entriesToTree, Entry.toTree?]
    simp only [List.cons_append]
    rw [bodiesToTree] at added
    rw [added, others, entriesContents, quotedContents_append]
    simp [Entry.contents, quotedContents, Attributes.quoted, quotedTables]

/-- Source text gives the bodies under a name their blocks. -/
theorem readItems_bodies : ∀ (bodies : List Body) (name : String) (tree : BlockTree),
    BodiesWellFormed tree bodies →
    Hcl.readItems (.text name) (bodiesToTree bodies) =
      .ok (quotedBlocks (bodiesContents id name bodies))
  | [], _, _, _ => by simp [bodiesToTree, Hcl.readItems, bodiesContents, quotedBlocks]
  | body :: bodies, name, tree, ⟨wellFormed, othersWellFormed⟩ => by
    have inside := readEntries_body body tree wellFormed
    have others := readItems_bodies bodies name tree othersWellFormed
    obtain ⟨marked, line⟩ := markedLine_body wellFormed
    simp [bodiesToTree, Hcl.readItems, Hcl.readLabelled, marked, inside, line, others,
      bodiesContents, quotedContents, quotedBlocks, Block.quoted, bind, Except.bind]

end

end InfraReview.Resource
