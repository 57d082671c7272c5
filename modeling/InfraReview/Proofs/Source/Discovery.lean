import Mathlib.Data.List.Lex
import Mathlib.Data.String.Basic
import InfraReview.Proofs.File.Listing
import InfraReview.Source.Files

/-!
# The source files of a directory

Which files below a directory are its source files is told by the names that lead to them from
there, and by nothing else: the last one ends in the suffix of source, and none of them is that of a
directory that tools keep for themselves. The path of the directory has no part in it, and neither
has a directory that is named like a source file.

The files come in the order of their components. It compares names one by one, so what stands in a
directory comes together, and it leaves no choice: however the directories list their entries, the
same files come in the same order.
-/

namespace InfraReview.Source

/-- The names lead from a directory to one of its source files. -/
structure SourceAt (tree : FileTree) (names : List String) : Prop where
  file : ∃ content, tree.content? names = some content
  suffixed : ∃ above stem, names = above ++ [stem ++ ".tf"]
  kept : ".terraform" ∉ names ∧ ".git" ∉ names

/-- Paths are those of the source files of a directory, each of them once and in the order of their
components. -/
structure Lists (tree : FileTree) (directory : FilePath) (found : List FilePath) : Prop where
  exact : ∀ path, path ∈ found ↔ ∃ names, SourceAt tree names ∧ path = directory.below names
  increasing : found.Pairwise fun earlier later =>
    earlier.lead = later.lead ∧ earlier.components < later.components

/-! ### The names of source files -/

/-- A name has the suffix of source when it is a stem with the suffix behind it. -/
theorem isSuffixOf_iff (name : String) :
    suffix.toList.isSuffixOf name.toList = true ↔ ∃ stem, name = stem ++ ".tf" := by
  rw [List.isSuffixOf_iff_suffix]
  constructor
  · rintro ⟨stem, same⟩
    refine ⟨String.ofList stem, String.toList_inj.mp ?_⟩
    rw [← same, String.toList_append, String.toList_ofList]
    rfl
  · rintro ⟨stem, rfl⟩
    exact ⟨stem.toList, String.toList_append.symm⟩

/-- Names are taken for those of a source file when the last one has the suffix of source and none
is that of a directory of a tool. -/
theorem isSource_iff (names : List String) :
    isSource names = true ↔
      (∃ above stem, names = above ++ [stem ++ ".tf"]) ∧ ".terraform" ∉ names ∧ ".git" ∉ names := by
  have skipped : (names.any fun name => skippedDirectories.contains name) = false ↔
      ".terraform" ∉ names ∧ ".git" ∉ names := by
    simp only [skippedDirectories, List.any_eq_false, List.contains_iff_mem, List.mem_cons,
      List.not_mem_nil, or_false, not_or, forall_and]
    exact and_congr List.forall_mem_ne' List.forall_mem_ne'
  rw [isSource, Bool.and_eq_true, Bool.not_eq_true', skipped]
  refine and_congr_left fun _ => ?_
  rcases List.eq_nil_or_concat names with rfl | ⟨above, last, rfl⟩
  · simp [suffix]
  · rw [List.concat_eq_append, List.getLast?_concat, Option.getD_some, isSuffixOf_iff]
    constructor
    · rintro ⟨stem, rfl⟩
      exact ⟨above, stem, rfl⟩
    · rintro ⟨others, stem, same⟩
      obtain ⟨_, ends⟩ := List.append_inj' same rfl
      exact ⟨stem, List.singleton_inj.mp ends⟩

/-! ### The order of names -/

/-- Names precede others when they are the same or stand before them component by component. -/
theorem precedes_iff (left right : List String) : precedes left right = true ↔ left ≤ right := by
  rw [le_iff_eq_or_lt]
  induction left generalizing right with
  | nil => cases right <;> simp [precedes]
  | cons first left inductionHypothesis =>
    cases right with
    | nil => simp [precedes]
    | cons other right =>
      simp only [precedes, Bool.or_eq_true, Bool.and_eq_true, decide_eq_true_eq, beq_iff_eq,
        inductionHypothesis, List.cons_lt_cons_iff, List.cons.injEq]
      tauto

/-- Names that are put in order increase when each stands there once. -/
theorem sorted_increasing {listed : List (List String)} (once : listed.Nodup) :
    (listed.mergeSort precedes).Pairwise (· < ·) := by
  have sorted : (listed.mergeSort precedes).Pairwise (precedes · · = true) := by
    refine List.pairwise_mergeSort (fun first second third => ?_) (fun first second => ?_) _
    · simp only [precedes_iff]
      exact le_trans
    · rw [Bool.or_eq_true, precedes_iff, precedes_iff]
      exact le_total first second
  have different : (listed.mergeSort precedes).Nodup :=
    (List.mergeSort_perm listed precedes).nodup_iff.mpr once
  refine (sorted.and different).imp fun ⟨before, differs⟩ => ?_
  exact lt_of_le_of_ne ((precedes_iff _ _).mp before) differs

/-- Names that are rearranged are put in the same order. -/
theorem mergeSort_congr {listed others : List (List String)} (same : listed.Perm others)
    (once : listed.Nodup) : listed.mergeSort precedes = others.mergeSort precedes := by
  -- both increase strictly, so they agree as soon as they hold the same names
  refine List.Perm.eq_of_pairwise (fun first second _ _ before after => ?_)
    (sorted_increasing once) (sorted_increasing (same.nodup_iff.mp once)) ?_
  · exact absurd after (lt_asymm before)
  · exact (List.mergeSort_perm _ _).trans (same.trans (List.mergeSort_perm _ _).symm)

/-- Below the same directory, paths are in the order of the names behind it. -/
theorem components_below_lt (directory : FilePath) {left right : List String}
    (before : left < right) :
    (directory.below left).components < (directory.below right).components := by
  simp only [FilePath.below]
  induction directory.components with
  | nil => exact before
  | cons first components inductionHypothesis =>
    exact List.cons_lt_cons_iff.mpr (.inr ⟨rfl, inductionHypothesis⟩)

/-! ### The files that are found -/

/-- The names of the source files of a tree, in order. -/
def sourceNames (tree : FileTree) : List (List String) :=
  (tree.fileNames.filter isSource).mergeSort precedes

/-- Below a directory, the source files of its tree are found. -/
theorem discover_directory {files : FileSystem} {directory : FilePath}
    {entries : List (String × FileTree)} (leads : files.find directory = .ok (.directory entries)) :
    discover files directory =
      .ok ((sourceNames (.directory entries)).map directory.below) := by
  have isDirectory : files.isDirectory directory = .ok true := by
    simp [FileSystem.isDirectory, FileSystem.leadsTo, leads, FileTree.isDirectory]
  rw [discover, isDirectory]
  simp [leads, sourceNames, bind, Except.bind]

/-- The names of source files are those that lead to one. -/
theorem mem_sourceNames {tree : FileTree} (distinct : tree.Distinct) (names : List String) :
    names ∈ sourceNames tree ↔ SourceAt tree names := by
  rw [sourceNames, List.mem_mergeSort, List.mem_filter, FileTree.mem_fileNames tree distinct,
    isSource_iff]
  constructor
  · rintro ⟨file, suffixed, kept⟩
    exact ⟨file, suffixed, kept⟩
  · rintro ⟨file, suffixed, kept⟩
    exact ⟨file, suffixed, kept⟩

/-- The names of source files increase. -/
theorem sourceNames_increasing {tree : FileTree} (distinct : tree.Distinct) :
    (sourceNames tree).Pairwise (· < ·) :=
  sorted_increasing ((FileTree.nodup_fileNames tree distinct).filter _)

/-- However directories list their entries, the names of source files are the same. -/
theorem sourceNames_relisted {tree other : FileTree} (relisted : FileTree.Relisted tree other)
    (distinct : tree.Distinct) : sourceNames other = sourceNames tree :=
  (mergeSort_congr (relisted.perm_fileNames.filter _)
    ((FileTree.nodup_fileNames tree distinct).filter _)).symm

/-- The names of source files give the paths of the source files. -/
theorem lists_sourceNames {tree : FileTree} (distinct : tree.Distinct) (directory : FilePath) :
    Lists tree directory ((sourceNames tree).map directory.below) := by
  constructor
  · intro path
    simp only [List.mem_map, mem_sourceNames distinct, eq_comm]
  · rw [List.pairwise_map]
    exact (sourceNames_increasing distinct).imp fun before =>
      ⟨rfl, components_below_lt directory before⟩

/-- The source files of a directory are found. They are the files below it, at any depth, whose
names end in the suffix of source and to which no name of a directory of a tool leads from there,
each of them once and in the order of their components. The same files are found in the same order
however the directories list their entries. -/
theorem sources_discovered {files : FileSystem} {directory : FilePath}
    {entries : List (String × FileTree)} (distinct : files.tree.Distinct)
    (leads : files.find directory = .ok (.directory entries)) :
    ∃ found, discover files directory = .ok found ∧
      Lists (.directory entries) directory found ∧
      ∀ other, files.Relisted other → discover other directory = .ok found := by
  have below := FileSystem.distinct_of_find distinct leads
  refine ⟨_, discover_directory leads, lists_sourceNames below directory, ?_⟩
  intro other relisted
  obtain ⟨another, elsewhere, changed⟩ := FileSystem.find_relisted relisted distinct leads
  rcases changed.sorts with ⟨_, ⟨⟩, _⟩ | ⟨_, others, ⟨⟩, rfl⟩
  rw [discover_directory elsewhere, sourceNames_relisted changed below]

/-- A directory inside one that a tool keeps. It has a hidden source file, a source file in a
directory whose name sorts before that of a file, a directory named like a source file, and a source
file that a tool keeps. -/
def workEntries : List (String × FileTree) :=
  [(".tf", .file []),
    ("a", .directory [("b.tf", .file []), (".terraform", .directory [("c.tf", .file [])])]),
    ("a-b.tf", .file []),
    ("d.tf", .directory [("e.tf", .file []), ("f.txt", .file [])])]

/-- A file system with that directory. -/
def workFiles (entries : List (String × FileTree)) : FileSystem :=
  ⟨.directory [(".git", .directory [("work", .directory entries)])], []⟩

/-- The source files of this directory are found, and those of the directory in the order of its
entries backwards are the same. -/
theorem work_sources_discovered :
    (workFiles workEntries).tree.Distinct ∧
      (workFiles workEntries).Relisted (workFiles workEntries.reverse) ∧
      discover (workFiles workEntries) (.ofText ".git/work") =
        .ok ([[".tf"], ["a", "b.tf"], ["a-b.tf"], ["d.tf", "e.tf"]].map
          (FilePath.ofText ".git/work").below) ∧
      discover (workFiles workEntries.reverse) (.ofText ".git/work") =
        discover (workFiles workEntries) (.ofText ".git/work") := by
  have distinct : (workFiles workEntries).tree.Distinct := by simp [workFiles, workEntries]
  have relisted : (workFiles workEntries).Relisted (workFiles workEntries.reverse) :=
    ⟨.under _ _ (.under _ _ (.of_perm (List.reverse_perm workEntries).symm)), rfl⟩
  have leads : (workFiles workEntries).find (.ofText ".git/work") =
      .ok (.directory workEntries) := rfl
  have inOrder : sourceNames (.directory workEntries) =
      [[".tf"], ["a", "b.tf"], ["a-b.tf"], ["d.tf", "e.tf"]] :=
    List.mergeSort_of_pairwise (by decide)
  obtain ⟨found, discovered, _, again⟩ := sources_discovered distinct leads
  refine ⟨distinct, relisted, ?_, (again _ relisted).trans discovered.symm⟩
  rw [discover_directory leads, inOrder]

end InfraReview.Source
