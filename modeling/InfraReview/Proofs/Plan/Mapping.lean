import InfraReview.Proofs.Plan.Placement
import InfraReview.Proofs.Text.Split
import InfraReview.Registry

/-!
# Mapped paths and the blocks of a plan

The table is asked about a path of blocks in two ways. The registry asks with the kind of an
entity and with one text, in which slashes stand between the names; the reading of a plan goes
down the table name by name while it goes down the values of a resource.

Both give one answer. When the values of a resource nest objects along a path, a mapped path
leads to a block of its entity, and a path that is not mapped meets an attribute instead. So the
expectations of checks that the registry reports against a table are those that a plan turns
into attributes.
-/

namespace InfraReview

namespace BlockTable

/-- The type of a resource, which carries no mark of a data source. -/
def IsBare (type : String) : Prop := dataMark.toList.isPrefixOf type.toList = false

/-- The names on a path of blocks: at least one, none of them empty, and none with a slash. -/
structure IsPath (path : List String) : Prop where
  nonempty : path ≠ []
  filled : ∀ name ∈ path, name.isEmpty = false
  slashFree : ∀ name ∈ path, '/' ∉ name.toList

/-- The text of a path, with slashes between its names. -/
def pathText (path : List String) : String := "/".intercalate path

/-- The names of a path are read from its text. -/
theorem segments_pathText {path : List String} (isPath : IsPath path) :
    segments (pathText path) = path := by
  have pieces : Text.splitChars '/' (pathText path).toList = path.map String.toList := by
    have text : (pathText path).toList = ['/'].intercalate (path.map String.toList) := by
      simp [pathText, String.toList_intercalate]
    rw [text]
    refine Text.splitChars_intercalate ?_ (by simpa using isPath.nonempty)
    intro characters member
    obtain ⟨name, inside, rfl⟩ := List.mem_map.mp member
    exact isPath.slashFree name inside
  have split : Text.splitAt '/' (pathText path) = path := by
    simp [Text.splitAt, pieces, Function.comp_def]
  rw [segments, split]
  exact List.filter_eq_self.mpr fun name member => by simp [isPath.filled name member]

/-- A type is its own kind without the mark. -/
theorem bareKind_of_bare {type : String} (bare : IsBare type) : bareKind type = type := by
  rw [bareKind, bare]

/-- The kind of a data source without the mark is its type. -/
theorem bareKind_marked (type : String) : bareKind (dataMark ++ type) = type := by
  have marked : dataMark.toList.isPrefixOf (dataMark ++ type).toList = true := by
    simp
  rw [bareKind, marked, ← String.length_toList, String.toList_append]
  simp only [List.drop_left, String.ofList_toList]

/-- A path of a type is mapped when the table can be followed along its names, for the type
itself and for the data source of the type. -/
theorem isMapped_pathText (table : BlockTable) {type : String} {path : List String}
    (bare : IsBare type) (isPath : IsPath path) :
    table.isMapped type (pathText path) = (table.tree? type path).isSome ∧
      table.isMapped (dataMark ++ type) (pathText path) = (table.tree? type path).isSome := by
  constructor
  · rw [isMapped, bareKind_of_bare bare, segments_pathText isPath]
  · rw [isMapped, bareKind_marked, segments_pathText isPath]

/-- Below the top of a kind, the table is followed from the names at the top. -/
theorem tree?_eq_descend (table : BlockTable) (type : String) {path : List String}
    (nonempty : path ≠ []) : table.tree? type path = (table.top type).descend? path := by
  cases path with
  | nil => exact absurd rfl nonempty
  | cons name rest =>
    cases found : table.lookup type with
    | none => simp [tree?, top, found, BlockTree.descend?, BlockTree.child?, BlockTree.children]
    | some tree => simp [tree?, top, found, BlockTree.descend?]

end BlockTable

namespace Plan

open BlockTable

/-! ### Values along a path -/

/-- The one object that a value has: the value itself, or the only item of a list. -/
def onlyObject? : Json → Option Members
  | .object members => some members
  | .array [.object members] => some members
  | _ => none

/-- The members of an object nest objects along a path: each name on the path has one object,
in which the rest of the path is nested. An object has each name once. -/
inductive Nests : List String → Members → Prop where
  | done (members : Members) : Nests [] members
  | step {name : String} {rest : List String} {members inner : Members} {value : Json}
      (distinct : (members.map (·.1)).Nodup) (member : (name, value) ∈ members)
      (one : onlyObject? value = some inner) (nests : Nests rest inner) :
      Nests (name :: rest) members

/-- An attribute stands somewhere along a path: under the first name, or along the rest of the
path in a block of that name. -/
def Exposes : Attributes → NestedBlocks → List String → Prop
  | _, _, [] => False
  | attributes, blocks, name :: rest =>
    attributes.has name = true ∨
      ∃ block ∈ blocks.named name, Exposes block.attributes block.blocks rest

/-- One object is one block under a listed name, and an attribute under any other. -/
theorem destination_onlyObject {value : Json} {inner : Members}
    (one : onlyObject? value = some inner) (listed : Bool) :
    destination listed value = if listed then .blocks [inner] else .attribute := by
  unfold onlyObject? at one
  split at one
  · cases one
    cases listed <;> rfl
  · cases one
    cases listed <;> rfl
  · cases one

/-- What one member adds stands under its own name. -/
theorem Added.names {tree : Option BlockTree} {name : String} {value : Json}
    {attributes : Attributes} {blocks : NestedBlocks}
    (added : Added tree name value attributes blocks) {other : String} (differs : other ≠ name) :
    attributes.lookup other = none ∧ blocks.lookup (.text other) = none := by
  have skipped : (other == name) = false := by simpa using differs
  have skippedKey : (Key.text other == Key.text name) = false := by simpa using differs
  cases added with
  | nothing _ => exact ⟨rfl, rfl⟩
  | setting frozen _ _ => exact ⟨by simp [List.lookup_cons, skipped], rfl⟩
  | blocks _ _ made _ _ _ => exact ⟨rfl, by simp [List.lookup_cons, skippedKey]⟩

/-- Nothing stands under a name that the members of an object do not have. -/
theorem lookup_of_absent {tree : BlockTree} {members : Members} {attributes : Attributes}
    {blocks : NestedBlocks} (split : splitMembers tree members = .ok (attributes, blocks))
    {name : String} (absent : name ∉ members.map (·.1)) :
    attributes.lookup name = none ∧ blocks.lookup (.text name) = none := by
  induction members generalizing attributes blocks with
  | nil =>
    obtain ⟨rfl, rfl⟩ : [] = attributes ∧ [] = blocks := by simpa [splitMembers] using split
    exact ⟨rfl, rfl⟩
  | cons member members inductionHypothesis =>
    obtain ⟨other, value⟩ := member
    rw [splitMembers] at split
    obtain ⟨own, ownSplit, rest⟩ := ok_of_bind split
    obtain ⟨others, othersSplit, same⟩ := ok_of_bind rest
    obtain ⟨rfl, rfl⟩ : own.1 ++ others.1 = attributes ∧ own.2 ++ others.2 = blocks := by
      simpa using same
    rw [List.map_cons, List.mem_cons, not_or] at absent
    obtain ⟨noOwn, noOwnBlock⟩ := (splitMember_ok ownSplit).names absent.1
    obtain ⟨noOther, noOtherBlock⟩ := inductionHypothesis othersSplit absent.2
    simp [List.lookup_append, noOwn, noOwnBlock, noOther, noOtherBlock]

/-- Under the name of a member stands what this member adds, as no other one has its name. -/
theorem lookup_of_split {tree : BlockTree} {members : Members} {attributes : Attributes}
    {blocks : NestedBlocks} (split : splitMembers tree members = .ok (attributes, blocks))
    (distinct : (members.map (·.1)).Nodup) {name : String} {value : Json}
    (member : (name, value) ∈ members) :
    ∃ own ownBlocks, Added (tree.child? name) name value own ownBlocks ∧
      attributes.lookup name = own.lookup name ∧
      blocks.lookup (.text name) = ownBlocks.lookup (.text name) := by
  induction members generalizing attributes blocks with
  | nil => cases member
  | cons first members inductionHypothesis =>
    obtain ⟨other, held⟩ := first
    rw [splitMembers] at split
    obtain ⟨own, ownSplit, rest⟩ := ok_of_bind split
    obtain ⟨others, othersSplit, same⟩ := ok_of_bind rest
    obtain ⟨rfl, rfl⟩ : own.1 ++ others.1 = attributes ∧ own.2 ++ others.2 = blocks := by
      simpa using same
    obtain ⟨fresh, distinct⟩ := List.nodup_cons.mp distinct
    rcases List.mem_cons.mp member with here | later
    · obtain ⟨rfl, rfl⟩ : name = other ∧ value = held := by simpa using here
      obtain ⟨noOther, noOtherBlock⟩ := lookup_of_absent othersSplit fresh
      refine ⟨own.1, own.2, splitMember_ok ownSplit, ?_, ?_⟩
      · simp [List.lookup_append, noOther]
      · simp [List.lookup_append, noOtherBlock]
    · have differs : name ≠ other := by
        rintro rfl
        exact fresh (List.mem_map_of_mem (f := (·.1)) later)
      obtain ⟨noOwn, noOwnBlock⟩ := (splitMember_ok ownSplit).names differs
      obtain ⟨made, madeBlocks, added, found, foundBlocks⟩ :=
        inductionHypothesis othersSplit distinct later
      refine ⟨made, madeBlocks, added, ?_, ?_⟩
      · simp [List.lookup_append, noOwn, found]
      · simp [List.lookup_append, noOwnBlock, foundBlocks]

/-- A name that the table does not list has an attribute and no blocks. -/
theorem attribute_of_unlisted {tree : BlockTree} {members inner : Members}
    {attributes : Attributes} {blocks : NestedBlocks}
    (split : splitMembers tree members = .ok (attributes, blocks))
    (distinct : (members.map (·.1)).Nodup) {name : String} {value : Json}
    (member : (name, value) ∈ members) (one : onlyObject? value = some inner)
    (unlisted : tree.child? name = none) :
    attributes.has name = true ∧ blocks.named name = [] := by
  obtain ⟨own, ownBlocks, added, found, foundBlocks⟩ := lookup_of_split split distinct member
  have goes := destination_onlyObject one (tree.child? name).isSome
  rw [Attributes.has, found, NestedBlocks.named, foundBlocks]
  rw [unlisted] at added goes
  cases added with
  | nothing nowhere => cases goes.symm.trans nowhere
  | setting frozen _ _ => simp
  | blocks _ _ _ listed _ _ => cases listed

/-- A name that the table lists has no attribute and one block, which is read one place further
down. -/
theorem block_of_listed {tree below : BlockTree} {members inner : Members}
    {attributes : Attributes} {blocks : NestedBlocks}
    (split : splitMembers tree members = .ok (attributes, blocks))
    (distinct : (members.map (·.1)).Nodup) {name : String} {value : Json}
    (member : (name, value) ∈ members) (one : onlyObject? value = some inner)
    (listed : tree.child? name = some below) :
    attributes.has name = false ∧ ∃ block, blocks.named name = [block] ∧
      splitMembers below inner = .ok (block.attributes, block.blocks) := by
  obtain ⟨own, ownBlocks, added, found, foundBlocks⟩ := lookup_of_split split distinct member
  have goes := destination_onlyObject one (tree.child? name).isSome
  rw [Attributes.has, found, NestedBlocks.named, foundBlocks]
  rw [listed] at added goes
  cases added with
  | nothing nowhere => cases goes.symm.trans nowhere
  | setting _ setting _ => cases goes.symm.trans setting
  | blocks _ bodies made place asBlocks madeOf =>
    obtain rfl := Option.some.inj place
    obtain rfl : [inner] = bodies := Destination.blocks.inj (goes.symm.trans asBlocks)
    cases madeOf with
    | cons first others =>
      cases others
      exact ⟨rfl, _, by simp, first.2.2⟩

/-- Along nested values a path leads to a block when the table can be followed along it, and
exposes an attribute when it cannot. Proof: by induction on the path; a name on it has either
one block, in which the rest of the path goes on, or an attribute, where it ends. -/
theorem leads_or_exposes {path : List String} {members : Members} (nests : Nests path members) :
    ∀ {tree : BlockTree} {attributes : Attributes} {blocks : NestedBlocks},
      splitMembers tree members = .ok (attributes, blocks) →
      (Leads blocks path ↔ (tree.descend? path).isSome = true) ∧
        (Exposes attributes blocks path ↔ (tree.descend? path).isSome = false) := by
  induction nests with
  | done members => simp [Leads, Exposes, BlockTree.descend?]
  | @step name rest members inner value distinct member one nests inductionHypothesis =>
    intro tree attributes blocks split
    cases place : tree.child? name with
    | none =>
      obtain ⟨present, noBlocks⟩ := attribute_of_unlisted split distinct member one place
      simp [Leads, Exposes, BlockTree.descend?, place, present, noBlocks]
    | some below =>
      obtain ⟨absent, block, named, inside⟩ :=
        block_of_listed split distinct member one place
      obtain ⟨leads, exposes⟩ := inductionHypothesis inside
      simp [Leads, Exposes, BlockTree.descend?, place, absent, named, leads, exposes]

/-! ### Resources along a path -/

/-- A resource of a mode and a type that shows what becomes of a path: its values, whose integers
fit, nest objects along the path. -/
structure Shows (members : Members) (mode type : String) (path : List String) : Prop where
  identified : ∃ address name, Identified members address type name
  hasMode : resourceMode members = .ok mode
  nested : ∃ values, Json.member members "values" = .object values ∧ Nests path values ∧
    Json.MembersFit values

/-- The entity of a resource that shows a path has a block at the end of the path when the path
is mapped, and an attribute somewhere along it when it is not. -/
theorem Shows.reading {members : Members} {mode type : String} {path : List String}
    (shows : Shows members mode type path) (table : BlockTable) (source : String)
    (nonempty : path ≠ []) :
    ∃ entity, normalize table source members = .ok entity ∧
      entity.kind = entityKind mode type ∧
      (Leads entity.blocks path ↔ (table.tree? type path).isSome = true) ∧
      (Exposes entity.attributes entity.blocks path ↔
        (table.tree? type path).isSome = false) := by
  obtain ⟨address, name, identified⟩ := shows.identified
  obtain ⟨values, given, nests, fits⟩ := shows.nested
  obtain ⟨⟨attributes, blocks⟩, split⟩ := splitMembers_of_fits values (table.top type) fits
  refine ⟨_, normalize_ok identified shows.hasMode (.given values given) split, rfl, ?_⟩
  rw [tree?_eq_descend table type nonempty]
  exact leads_or_exposes nests split

/-- Values that have nothing but an object for each name on a path. -/
def nestedValues : List String → Members
  | [] => []
  | name :: rest => [(name, .object (nestedValues rest))]

/-- Such values nest objects along the path. -/
theorem nests_nestedValues (path : List String) : Nests path (nestedValues path) := by
  induction path with
  | nil => exact .done _
  | cons name rest inductionHypothesis =>
    have distinct : ([name] : List String).Nodup :=
      List.nodup_cons.mpr ⟨List.not_mem_nil, List.nodup_nil⟩
    exact .step distinct List.mem_cons_self rfl inductionHypothesis

/-- Such values have no integers. -/
theorem fit_nestedValues (path : List String) : Json.MembersFit (nestedValues path) := by
  induction path with
  | nil => trivial
  | cons name rest inductionHypothesis => exact ⟨inductionHypothesis, trivial⟩

/-- A resource with such values. -/
def specimen (mode type : String) (path : List String) : Members := [
  ("address", .string "specimen"), ("mode", .string mode), ("type", .string type),
  ("name", .string "specimen"), ("values", .object (nestedValues path))]

/-- A specimen shows its path. -/
theorem shows_specimen {mode type : String} (named : mode.isEmpty = false)
    (filled : type.isEmpty = false) (path : List String) :
    Shows (specimen mode type path) mode type path where
  identified := ⟨"specimen", "specimen", rfl, rfl, rfl, by decide, filled, by decide⟩
  hasMode := by
    have given : Json.member (specimen mode type path) "mode" = .string mode := rfl
    simp [resourceMode, given, Json.isVacant, named, shown, Except.mapError]
  nested := ⟨_, rfl, nests_nestedValues path, fit_nestedValues path⟩

/-! ### Expectations of checks -/

/-- An expectation about a type of resource, or about the data source of a type. -/
structure WellPosed (expectation : Registry.Expectation) (type : String) (path : List String) :
    Prop where
  bare : IsBare type
  filled : type.isEmpty = false
  isPath : IsPath path
  kind : expectation.kind = type ∨ expectation.kind = dataMark ++ type
  text : expectation.path = pathText path

/-- A plan turns what an expectation is about into an attribute: every resource that shows the
path and whose entity is of the kind is read with an attribute somewhere along the path. -/
def TurnsIntoAttribute (table : BlockTable) (expectation : Registry.Expectation) : Prop :=
  ∀ mode type path members, WellPosed expectation type path → Shows members mode type path →
    entityKind mode type = expectation.kind →
    ∀ source, ∃ entity, normalize table source members = .ok entity ∧
      entity.kind = expectation.kind ∧ Exposes entity.attributes entity.blocks path

/-- A type and its data source are the kinds of resources in the two modes. -/
theorem WellPosed.mode {expectation : Registry.Expectation} {type : String} {path : List String}
    (posed : WellPosed expectation type path) :
    ∃ mode, mode.isEmpty = false ∧ entityKind mode type = expectation.kind := by
  rcases posed.kind with managed | data
  · exact ⟨"managed", by decide, managed.symm⟩
  · exact ⟨"data", by decide, data.symm⟩

/-- The path of an expectation is mapped when the table can be followed along it. -/
theorem WellPosed.isMapped {expectation : Registry.Expectation} {type : String}
    {path : List String} (posed : WellPosed expectation type path) (table : BlockTable) :
    table.isMapped expectation.kind expectation.path = (table.tree? type path).isSome := by
  obtain ⟨plain, marked⟩ := isMapped_pathText table posed.bare posed.isPath
  rw [posed.text]
  rcases posed.kind with managed | data
  · rw [managed, plain]
  · rw [data, marked]

/-- An expectation is not mapped exactly when a plan turns it into an attribute. The specimen
shows that a mapped one is not. -/
theorem WellPosed.isMapped_false_iff {expectation : Registry.Expectation} {type : String}
    {path : List String} (posed : WellPosed expectation type path) (table : BlockTable) :
    table.isMapped expectation.kind expectation.path = false ↔
      TurnsIntoAttribute table expectation := by
  constructor
  · intro unmapped mode type path members posed shows kind source
    obtain ⟨entity, normalized, ofKind, _, exposes⟩ :=
      shows.reading table source posed.isPath.nonempty
    rw [posed.isMapped table] at unmapped
    exact ⟨entity, normalized, ofKind.trans kind, exposes.mpr unmapped⟩
  · intro turns
    obtain ⟨mode, named, kind⟩ := posed.mode
    have shows := shows_specimen named posed.filled path
    obtain ⟨entity, normalized, _, exposed⟩ := turns mode type path _ posed shows kind "tfplan"
    obtain ⟨same, again, _, _, exposes⟩ := shows.reading table "tfplan" posed.isPath.nonempty
    obtain rfl : entity = same := Except.ok.inj (normalized.symm.trans again)
    rw [posed.isMapped table]
    exact exposes.mp exposed

/-- The table gives the registry and the reading of a plan one answer. A path is mapped for a
type of resource exactly when it is for its data source, and exactly when it leads to a block of
the entity of any resource, in whatever mode, whose values nest objects along it. Of the
expectations of a registry, those are reported, in their order, that a plan turns into
attributes. -/
theorem mapping_agrees_with_reading (table : BlockTable) :
    (∀ type path, IsBare type → IsPath path →
      table.isMapped type (pathText path) = table.isMapped (dataMark ++ type) (pathText path) ∧
      ∀ mode members, Shows members mode type path → ∀ source, ∃ entity,
        normalize table source members = .ok entity ∧
        (table.isMapped type (pathText path) = true ↔ Leads entity.blocks path)) ∧
    ∀ registry : Registry,
      (∀ expectation ∈ registry.expectations, ∃ type path, WellPosed expectation type path) →
      ∃ selects : Registry.Expectation → Bool,
        (∀ expectation ∈ registry.expectations,
          (selects expectation = true ↔ TurnsIntoAttribute table expectation)) ∧
        registry.unmappedBlocks table = registry.expectations.filter selects := by
  constructor
  · intro type path bare isPath
    obtain ⟨plain, marked⟩ := isMapped_pathText table bare isPath
    refine ⟨plain.trans marked.symm, fun mode members shows source => ?_⟩
    obtain ⟨entity, normalized, _, leads, _⟩ := shows.reading table source isPath.nonempty
    exact ⟨entity, normalized, by rw [plain, leads]⟩
  · intro registry posed
    refine ⟨_, fun expectation member => ?_, rfl⟩
    obtain ⟨type, path, wellPosed⟩ := posed expectation member
    rw [Bool.not_eq_true', wellPosed.isMapped_false_iff table]

/-- A table that knows a path of two names and one of the blocks that the built-in checks read.
The values of a data source nest an object and a list with one object along the path, beside
other members. -/
theorem lifecycle_path_agrees :
    let table : BlockTable := [
      ("aws_s3_bucket", .node [("lifecycle_rule", .node [leaf "expiration"])]),
      ("aws_security_group", .node [leaf "ingress"])]
    let path := ["lifecycle_rule", "expiration"]
    let members : Members := [
      ("address", .string "data.aws_s3_bucket.b"), ("mode", .string "data"),
      ("type", .string "aws_s3_bucket"), ("name", .string "b"),
      ("values", .object [("acl", .null), ("lifecycle_rule", .array [.object [
        ("id", .int 7), ("expiration", .object [("days", .int 30)])]])])]
    (table.isMapped "aws_s3_bucket" (pathText path) =
        table.isMapped (dataMark ++ "aws_s3_bucket") (pathText path) ∧
      ∃ entity, normalize table "tfplan" members = .ok entity ∧
        (table.isMapped "aws_s3_bucket" (pathText path) = true ↔ Leads entity.blocks path)) ∧
    ∃ selects : Registry.Expectation → Bool,
      (∀ expectation ∈ Registry.builtin.expectations,
        (selects expectation = true ↔ TurnsIntoAttribute table expectation)) ∧
      Registry.builtin.unmappedBlocks table = Registry.builtin.expectations.filter selects := by
  intro table path members
  have bare : IsBare "aws_s3_bucket" := by rfl
  have isPath : IsPath path := ⟨by decide, by decide, by decide⟩
  have shows : Shows members "data" "aws_s3_bucket" path := by
    refine ⟨⟨"data.aws_s3_bucket.b", "b", rfl, rfl, rfl, by decide, by decide, by decide⟩, rfl, _,
      rfl, ?_, ?_⟩
    · refine .step (by decide) (List.mem_cons_of_mem _ List.mem_cons_self) rfl ?_
      exact .step (by decide) (List.mem_cons_of_mem _ List.mem_cons_self) rfl (.done _)
    · simp only [Json.MembersFit, Json.Fits, Json.ItemsFit]
      decide
  have single (expectation : Registry.Expectation) (bare : IsBare expectation.kind)
      (filled : expectation.kind.isEmpty = false) (named : expectation.path.isEmpty = false)
      (slashFree : '/' ∉ expectation.path.toList) :
      ∃ type path, WellPosed expectation type path :=
    ⟨_, [expectation.path], bare, filled,
      ⟨List.cons_ne_nil _ _, by simpa using named, by simpa using slashFree⟩, .inl rfl, rfl⟩
  have posed : ∀ expectation ∈ Registry.builtin.expectations,
      ∃ type path, WellPosed expectation type path := by
    have known : Registry.builtin.expectations = [
        ⟨"S3-001", "aws_s3_bucket", "server_side_encryption_configuration"⟩,
        ⟨"S3-003", "aws_s3_bucket_versioning", "versioning_configuration"⟩,
        ⟨"VPC-001", "aws_security_group", "ingress"⟩] := by rfl
    intro expectation member
    rw [known] at member
    simp only [List.mem_cons, List.not_mem_nil, or_false] at member
    rcases member with rfl | rfl | rfl
    all_goals exact single _ (by rfl) (by decide) (by decide) (by decide)
  obtain ⟨reached, reported⟩ := mapping_agrees_with_reading table
  obtain ⟨same, reading⟩ := reached "aws_s3_bucket" path bare isPath
  exact ⟨⟨same, reading _ members shows "tfplan"⟩, reported Registry.builtin posed⟩

end Plan

end InfraReview
