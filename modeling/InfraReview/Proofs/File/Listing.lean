import InfraReview.File.Tree
import InfraReview.Proofs.Lookup
import InfraReview.Proofs.Success

/-!
# The order in which directories list their entries

A directory has each name once, but it lists its entries in an order that nobody promises. Two trees
that differ in such orders alone have the same files under the same names, and every path leads to
the same place in both.

The names of the files of a tree are gathered along its directories. They are exactly those that
lead to a file, each of them once, and another order of listing rearranges them.
-/

namespace InfraReview

namespace FileTree

/-- A tree in which every directory has each name once. -/
inductive Distinct : FileTree → Prop where
  | file (content : List UInt8) : Distinct (.file content)
  | directory {entries : List (String × FileTree)} (once : (entries.map Prod.fst).Nodup)
      (inner : ∀ entry ∈ entries, Distinct entry.2) : Distinct (.directory entries)

/-- A tree is another one in which directories list their entries in a different order: entries
that stand next to each other change places, in any directory and any number of times. -/
inductive Relisted : FileTree → FileTree → Prop where
  | refl (tree : FileTree) : Relisted tree tree
  | swap (first second : String × FileTree) (entries : List (String × FileTree)) :
      Relisted (.directory (first :: second :: entries)) (.directory (second :: first :: entries))
  | under {tree other : FileTree} (name : String) (entries : List (String × FileTree))
      (inner : Relisted tree other) :
      Relisted (.directory ((name, tree) :: entries)) (.directory ((name, other) :: entries))
  | behind {entries others : List (String × FileTree)} (entry : String × FileTree)
      (rest : Relisted (.directory entries) (.directory others)) :
      Relisted (.directory (entry :: entries)) (.directory (entry :: others))
  | trans {first second third : FileTree} (one : Relisted first second)
      (other : Relisted second third) : Relisted first third

attribute [simp] Distinct.file

/-- An empty directory has no name twice. -/
@[simp] theorem distinct_nil : Distinct (.directory []) := .directory List.nodup_nil (by simp)

/-- A directory has its names once when the first one does not come again and the first tree and
the other entries have theirs once. -/
@[simp] theorem distinct_cons_iff {name : String} {tree : FileTree}
    {entries : List (String × FileTree)} :
    Distinct (.directory ((name, tree) :: entries)) ↔
      name ∉ entries.map Prod.fst ∧ tree.Distinct ∧ Distinct (.directory entries) := by
  constructor
  · rintro ⟨⟩
    rename_i once inner
    obtain ⟨absent, others⟩ := List.nodup_cons.mp once
    obtain ⟨own, rest⟩ := List.forall_mem_cons.mp inner
    exact ⟨absent, own, .directory others rest⟩
  · rintro ⟨absent, own, ⟨⟩⟩
    rename_i once inner
    exact .directory (List.nodup_cons.mpr ⟨absent, once⟩) (List.forall_mem_cons.mpr ⟨own, inner⟩)

/-! ### Names that lead to files -/

/-- The first name leads to its own tree. -/
theorem content?_first (name : String) (tree : FileTree) (entries : List (String × FileTree))
    (names : List String) :
    content? (.directory ((name, tree) :: entries)) (name :: names) = tree.content? names := by
  simp [content?, node?, child?]

/-- Another name leads to the other entries. -/
theorem content?_other {name first : String} (differs : first ≠ name) (tree : FileTree)
    (entries : List (String × FileTree)) (names : List String) :
    content? (.directory ((name, tree) :: entries)) (first :: names) =
      content? (.directory entries) (first :: names) := by
  have skipped : (first == name) = false := by simpa using differs
  simp [content?, node?, child?, List.lookup_cons, skipped]

/-- The names of a file below entries start with that of an entry. -/
theorem head_of_fileNamesIn {entries : List (String × FileTree)} {names : List String}
    (member : names ∈ fileNamesIn entries) :
    ∃ first rest, names = first :: rest ∧ first ∈ entries.map Prod.fst := by
  induction entries with
  | nil => simp [fileNamesIn] at member
  | cons entry entries inductionHypothesis =>
    obtain ⟨name, tree⟩ := entry
    rw [fileNamesIn, List.mem_append, List.mem_map] at member
    rcases member with ⟨rest, _, rfl⟩ | later
    · exact ⟨name, rest, rfl, List.mem_cons_self⟩
    · obtain ⟨first, rest, rfl, listed⟩ := inductionHypothesis later
      exact ⟨first, rest, rfl, List.mem_cons_of_mem _ listed⟩

mutual

/-- The names of the files of a tree are those that lead to a file. -/
theorem mem_fileNames : ∀ tree : FileTree, tree.Distinct → ∀ names,
    names ∈ fileNames tree ↔ ∃ content, tree.content? names = some content
  | .file content, _, names => by
    cases names <;> simp [fileNames, content?, node?, child?]
  | .directory entries, distinct, names => mem_fileNamesIn entries distinct names

/-- The names of the files below entries are those that lead to a file there. -/
theorem mem_fileNamesIn : ∀ entries : List (String × FileTree), Distinct (.directory entries) →
    ∀ names, names ∈ fileNamesIn entries ↔
      ∃ content, content? (.directory entries) names = some content
  | [], _, names => by
    cases names <;> simp [fileNamesIn, content?, node?, child?]
  | (name, tree) :: entries, distinct, names => by
    obtain ⟨absent, own, others⟩ := distinct_cons_iff.mp distinct
    rw [fileNamesIn, List.mem_append, mem_fileNamesIn entries others names]
    cases names with
    | nil => simp [content?, node?]
    | cons first rest =>
      by_cases same : first = name
      · subst same
        -- the name does not come again, so it leads to nothing else
        have elsewhere : ¬ ∃ content,
            content? (.directory entries) (first :: rest) = some content := by
          rw [← mem_fileNamesIn entries others]
          intro member
          obtain ⟨_, _, split, listed⟩ := head_of_fileNamesIn member
          obtain ⟨rfl, rfl⟩ := List.cons.inj split
          exact absent listed
        simp [content?_first, elsewhere, ← mem_fileNames tree own rest]
      · simp [content?_other same, Ne.symm same]

end

mutual

/-- No names of a file are gathered twice. -/
theorem nodup_fileNames : ∀ tree : FileTree, tree.Distinct → (fileNames tree).Nodup
  | .file content, _ => by simp [fileNames]
  | .directory entries, distinct => nodup_fileNamesIn entries distinct

/-- No names of a file below entries are gathered twice. -/
theorem nodup_fileNamesIn : ∀ entries : List (String × FileTree), Distinct (.directory entries) →
    (fileNamesIn entries).Nodup
  | [], _ => by simp [fileNamesIn]
  | (name, tree) :: entries, distinct => by
    obtain ⟨absent, own, others⟩ := distinct_cons_iff.mp distinct
    rw [fileNamesIn, List.nodup_append']
    refine ⟨(nodup_fileNames tree own).map fun left right same => (List.cons.inj same).2,
      nodup_fileNamesIn entries others, ?_⟩
    intro names here there
    obtain ⟨rest, _, rfl⟩ := List.mem_map.mp here
    obtain ⟨_, _, split, listed⟩ := head_of_fileNamesIn there
    obtain ⟨rfl, rfl⟩ := List.cons.inj split
    exact absent listed

end

/-! ### Trees that are listed differently -/

/-- The entries of a directory; a file has none. -/
def entries : FileTree → List (String × FileTree)
  | .file _ => []
  | .directory entries => entries

/-- In a tree with different names, a name leads to what is listed under it. -/
theorem child?_eq_some_iff {tree : FileTree} (distinct : tree.Distinct) {name : String}
    {inner : FileTree} : tree.child? name = some inner ↔ (name, inner) ∈ tree.entries := by
  cases distinct with
  | file content => simp [child?, entries]
  | directory once _ => exact lookup_eq_some_iff_mem once

/-- What a name leads to has different names too. -/
theorem Distinct.child {tree : FileTree} (distinct : tree.Distinct) {name : String}
    {inner : FileTree} (found : tree.child? name = some inner) : inner.Distinct := by
  cases distinct with
  | file content => cases found
  | directory _ others => exact others (name, inner) (mem_of_lookup found)

/-- What names lead to has different names too. -/
theorem Distinct.node {tree : FileTree} (distinct : tree.Distinct) {names : List String}
    {inner : FileTree} (found : tree.node? names = some inner) : inner.Distinct := by
  induction names generalizing tree with
  | nil =>
    obtain rfl := Option.some.inj found
    exact distinct
  | cons name names inductionHypothesis =>
    obtain ⟨next, there, further⟩ := Option.bind_eq_some_iff.mp found
    exact inductionHypothesis (distinct.child there) further

namespace Relisted

/-- What is listed differently is another listing of what it was before. -/
theorem symm {tree other : FileTree} (relisted : Relisted tree other) : Relisted other tree := by
  induction relisted with
  | refl tree => exact .refl tree
  | swap first second entries => exact .swap second first entries
  | under name entries _ inductionHypothesis => exact .under name entries inductionHypothesis
  | behind entry _ inductionHypothesis => exact .behind entry inductionHypothesis
  | trans _ _ back further => exact further.trans back

/-- The entries of a directory may be rearranged at will. -/
theorem of_perm {entries others : List (String × FileTree)} (same : entries.Perm others) :
    Relisted (.directory entries) (.directory others) := by
  induction same with
  | nil => exact .refl _
  | cons entry _ inductionHypothesis => exact .behind entry inductionHypothesis
  | swap first second entries => exact .swap second first entries
  | trans _ _ one other => exact one.trans other

/-- The names of the files are rearranged. -/
theorem perm_fileNames {tree other : FileTree} (relisted : Relisted tree other) :
    (fileNames tree).Perm (fileNames other) := by
  induction relisted with
  | refl tree => exact .refl _
  | swap first second entries =>
    simp only [fileNames, fileNamesIn, ← List.append_assoc]
    exact List.perm_append_comm.append_right _
  | under name entries _ inductionHypothesis =>
    exact (inductionHypothesis.map _).append_right _
  | behind entry _ inductionHypothesis => exact inductionHypothesis.append_left _
  | trans _ _ one other => exact one.trans other

/-- The names of the entries are rearranged. -/
theorem perm_names {tree other : FileTree} (relisted : Relisted tree other) :
    (tree.entries.map Prod.fst).Perm (other.entries.map Prod.fst) := by
  induction relisted with
  | refl tree => exact .refl _
  | swap first second entries => exact .swap _ _ _
  | under name entries _ _ => exact .refl _
  | behind entry _ inductionHypothesis => exact inductionHypothesis.cons _
  | trans _ _ one other => exact one.trans other

/-- Each directory still has different names. -/
theorem distinct {tree other : FileTree} (relisted : Relisted tree other)
    (distinct : tree.Distinct) : other.Distinct := by
  induction relisted with
  | refl tree => exact distinct
  | swap first second entries =>
    obtain ⟨firstName, firstTree⟩ := first
    obtain ⟨secondName, secondTree⟩ := second
    simp only [distinct_cons_iff, List.map_cons, List.mem_cons, not_or] at distinct ⊢
    obtain ⟨⟨differs, absent⟩, own, absentSecond, ownSecond, others⟩ := distinct
    exact ⟨⟨Ne.symm differs, absentSecond⟩, ownSecond, absent, own, others⟩
  | under name entries _ inductionHypothesis =>
    obtain ⟨absent, own, others⟩ := distinct_cons_iff.mp distinct
    exact distinct_cons_iff.mpr ⟨absent, inductionHypothesis own, others⟩
  | behind entry rest inductionHypothesis =>
    obtain ⟨absent, own, others⟩ := distinct_cons_iff.mp distinct
    exact distinct_cons_iff.mpr
      ⟨mt rest.perm_names.mem_iff.mpr absent, own, inductionHypothesis others⟩
  | trans _ _ one other => exact other (one distinct)

/-- Each entry is there under its name, listed differently. -/
theorem entry {tree other : FileTree} (relisted : Relisted tree other) {name : String}
    {inner : FileTree} (listed : (name, inner) ∈ tree.entries) :
    ∃ another, (name, another) ∈ other.entries ∧ Relisted inner another := by
  induction relisted generalizing inner with
  | refl tree => exact ⟨inner, listed, .refl inner⟩
  | swap first second entries =>
    exact ⟨inner, (List.Perm.swap second first entries).mem_iff.mp listed, .refl inner⟩
  | @under _ other current entries changed _ =>
    rcases List.mem_cons.mp listed with same | later
    · obtain ⟨rfl, rfl⟩ := Prod.mk.inj same
      exact ⟨other, List.mem_cons_self, changed⟩
    · exact ⟨inner, List.mem_cons_of_mem _ later, .refl inner⟩
  | behind first _ inductionHypothesis =>
    rcases List.mem_cons.mp listed with same | later
    · exact ⟨inner, same ▸ List.mem_cons_self, .refl inner⟩
    · obtain ⟨another, there, changed⟩ := inductionHypothesis later
      exact ⟨another, List.mem_cons_of_mem _ there, changed⟩
  | trans _ _ one other =>
    obtain ⟨middle, there, changed⟩ := one listed
    obtain ⟨last, further, again⟩ := other there
    exact ⟨last, further, changed.trans again⟩

/-- Names lead to what they led to before, listed differently. -/
theorem node {tree other : FileTree} (relisted : Relisted tree other) (distinct : tree.Distinct)
    {names : List String} {inner : FileTree} (found : tree.node? names = some inner) :
    ∃ another, other.node? names = some another ∧ Relisted inner another := by
  induction names generalizing tree other with
  | nil =>
    obtain rfl := Option.some.inj found
    exact ⟨other, rfl, relisted⟩
  | cons name names inductionHypothesis =>
    obtain ⟨next, there, further⟩ := Option.bind_eq_some_iff.mp found
    obtain ⟨another, listed, changed⟩ := relisted.entry ((child?_eq_some_iff distinct).mp there)
    obtain ⟨last, reached, same⟩ := inductionHypothesis changed (distinct.child there) further
    have elsewhere := (child?_eq_some_iff (relisted.distinct distinct)).mpr listed
    exact ⟨last, Option.bind_eq_some_iff.mpr ⟨another, elsewhere, reached⟩, same⟩

/-- Names that led nowhere lead nowhere. -/
theorem node_none {tree other : FileTree} (relisted : Relisted tree other)
    (distinct : tree.Distinct) {names : List String} (nothing : tree.node? names = none) :
    other.node? names = none := by
  cases found : other.node? names with
  | none => rfl
  | some inner =>
    obtain ⟨another, there, _⟩ := relisted.symm.node (relisted.distinct distinct) found
    rw [nothing] at there
    cases there

/-- A file stays as it is, and a directory stays a directory. -/
theorem sorts {tree other : FileTree} (relisted : Relisted tree other) :
    (∃ content, tree = .file content ∧ other = .file content) ∨
      ∃ entries others, tree = .directory entries ∧ other = .directory others := by
  induction relisted with
  | refl tree =>
    cases tree with
    | file content => exact .inl ⟨content, rfl, rfl⟩
    | directory entries => exact .inr ⟨entries, entries, rfl, rfl⟩
  | swap | under | behind => exact .inr ⟨_, _, rfl, rfl⟩
  | trans _ _ one other =>
    rcases one with ⟨content, rfl, rfl⟩ | ⟨entries, others, rfl, rfl⟩
    · exact other
    · rcases other with ⟨_, ⟨⟩, _⟩ | ⟨_, more, _, rfl⟩
      exact .inr ⟨entries, more, rfl, rfl⟩

end Relisted

end FileTree

namespace FileSystem

/-- The same files with the same place for relative paths, where directories list their entries in
a different order. -/
structure Relisted (files other : FileSystem) : Prop where
  tree : FileTree.Relisted files.tree other.tree
  directory : other.directory = files.directory

/-- Components are followed to the same place. -/
theorem follow_relisted {tree other : FileTree} (relisted : FileTree.Relisted tree other)
    (distinct : tree.Distinct) (place components : List String) :
    follow other place components = follow tree place components := by
  induction components generalizing place with
  | nil => rfl
  | cons component components inductionHypothesis =>
    unfold follow
    cases found : tree.node? place with
    | none => rw [relisted.node_none distinct found]
    | some inner =>
      obtain ⟨another, there, changed⟩ := relisted.node distinct found
      rw [there]
      rcases changed.sorts with ⟨content, rfl, rfl⟩ | ⟨entries, others, rfl, rfl⟩
      · rfl
      · simp only [inductionHypothesis]

/-- What a path leads to is at the end of its names. -/
theorem find_ok_iff {files : FileSystem} {path : FilePath} {tree : FileTree} :
    files.find path = .ok tree ↔
      ∃ place, files.place path = .ok place ∧ files.tree.node? place = some tree := by
  unfold find
  rw [bind_ok_iff]
  refine exists_congr fun place => and_congr_right fun _ => ?_
  cases files.tree.node? place <;> simp

/-- What a path leads to has different names when all files have. -/
theorem distinct_of_find {files : FileSystem} (distinct : files.tree.Distinct) {path : FilePath}
    {tree : FileTree} (found : files.find path = .ok tree) : tree.Distinct := by
  obtain ⟨place, _, reached⟩ := find_ok_iff.mp found
  exact distinct.node reached

/-- A path leads to what it led to before, listed differently. -/
theorem find_relisted {files other : FileSystem} (relisted : files.Relisted other)
    (distinct : files.tree.Distinct) {path : FilePath} {tree : FileTree}
    (found : files.find path = .ok tree) :
    ∃ another, other.find path = .ok another ∧ FileTree.Relisted tree another := by
  have same : other.place path = files.place path := by
    simp only [place, relisted.directory, follow_relisted relisted.tree distinct]
  obtain ⟨place, placed, reached⟩ := find_ok_iff.mp found
  obtain ⟨another, there, changed⟩ := relisted.tree.node distinct reached
  exact ⟨another, find_ok_iff.mpr ⟨place, same.trans placed, there⟩, changed⟩

end FileSystem

end InfraReview
