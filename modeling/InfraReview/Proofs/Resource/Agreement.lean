import InfraReview.Plan.Entities
import InfraReview.Proofs.Plan.Resource
import InfraReview.Proofs.Resource.Order
import InfraReview.Source

/-!
# Plans and source text agree

One declaration is rendered twice: as the resource that a plan has for it, under an address,
and as the tree of a text that declares it. The plan may list the names of the body in any
order. Reading the one and the other gives entities that are the same, apart from the address,
which only a plan knows, as long as no name needs an escape or a guard between quotes.

The reader of source text decodes neither labels nor the names of members. Its entity is always
the one of the plan with these names as they stand between quotes. A label that is the mark of a
body is taken for the mark when it stands there without quotes, and what stands under it is
taken for a line.
-/

namespace InfraReview.Resource

/-- A text that is a label, with the quotes around it or without them. -/
structure Label where
  text : String
  inQuotes : Bool

namespace Label

/-- The key that a label is in source text. -/
def key (label : Label) : Key :=
  .text (if label.inQuotes then "\"" ++ Hcl.quotedText label.text ++ "\""
    else Hcl.quotedText label.text)

/-- A label that is taken for the mark of a body. -/
def IsMark (label : Label) : Prop := label.inQuotes = false ∧ label.text = Hcl.startLineKey

/-- A label is read from its key as it stands between quotes. -/
theorem read_key (label : Label) : Hcl.label label.key = .ok (Hcl.quotedText label.text) := by
  obtain ⟨text, inQuotes⟩ := label
  cases inQuotes with
  | true => exact congrArg Except.ok (Hcl.unquote_inQuotes (Hcl.quotedText text))
  | false => exact congrArg Except.ok (Hcl.unquote_quotedText text)

/-- The key of a label is the mark of a body exactly when the label is. -/
theorem key_eq_start_iff (label : Label) : label.key = .text Hcl.startLineKey ↔ label.IsMark := by
  obtain ⟨text, inQuotes⟩ := label
  cases inQuotes with
  | true =>
    have differs : "\"" ++ Hcl.quotedText text ++ "\"" ≠ Hcl.startLineKey := by
      intro same
      have characters := congrArg String.toList same
      simp [Hcl.startLineKey] at characters
    simpa [key, IsMark] using differs
  | false =>
    have start : Hcl.quotedText Hcl.startLineKey = Hcl.startLineKey := by decide
    have same : Hcl.quotedText text = Hcl.startLineKey ↔ text = Hcl.startLineKey := by
      rw [← start, Hcl.quotedText_injective.eq_iff, start]
    simpa [key, IsMark] using same

/-- A map with a label in it that is no mark is no body. -/
theorem isMarked_key {label : Label} (noMark : ¬ label.IsMark) (inner : Hcl.Tree) :
    Hcl.isMarked [(label.key, inner)] = false := by
  rw [Hcl.isMarked_other (label.key_eq_start_iff.not.mpr noMark)]
  rfl

/-- A map with a label in it that is a mark is a body, whose line is what the label leads to. -/
theorem toBlock_key {label : Label} (mark : label.IsMark) (inner : List (Key × Hcl.Tree)) :
    Hcl.isMarked [(label.key, .map inner)] = true ∧ ∀ type labels,
      Hcl.toBlock type ⟨labels, [(label.key, .map inner)]⟩ =
        .error (.line (.notANumber "dict")) := by
  rw [label.key_eq_start_iff.mpr mark]
  have entry : Hcl.Tree.entry? [(.text Hcl.startLineKey, .map inner)] Hcl.startLineKey =
      some (.map inner) := by
    simp [Hcl.Tree.entry?]
  refine ⟨by rw [Hcl.isMarked, entry]; rfl, fun type labels => ?_⟩
  simp [Hcl.toBlock, Hcl.readEntries, Hcl.isMarkKey, Hcl.markedLine, entry, Except.mapError, bind,
    Except.bind]

end Label

/-- The declaration of a resource or of a data source. -/
structure Declaration where
  isData : Bool
  type : Label
  name : Label
  body : Body

namespace Declaration

/-- The mode of a declaration. -/
def mode (declaration : Declaration) : String :=
  if declaration.isData then "data" else "managed"

/-- The resource that a plan has for a declaration, with its body as the plan lists it. -/
def planned (declaration : Declaration) (listed : Body) (address : String) :
    List (String × Json) := [
  ("address", .string address), ("mode", .string declaration.mode),
  ("type", .string declaration.type.text), ("name", .string declaration.name.text),
  ("values", .object listed.toJson)]

/-- The root module of a plan, with one resource. -/
def root (declaration : Declaration) (listed : Body) (address : String) :
    List (String × Json) := [
  ("resources", .array [.object (declaration.planned listed address)])]

/-- A plan with one resource, in its root module. -/
def plan (declaration : Declaration) (listed : Body) (address : String) :
    List (String × Json) := [
  ("planned_values", .object [("root_module", .object (declaration.root listed address))])]

/-- The word that declares an entity of the mode. -/
def keyword (declaration : Declaration) : String :=
  if declaration.isData then "data" else "resource"

/-- The tree of a text with one declaration: under its word its labels, and under them its
body. -/
def source (declaration : Declaration) : List (Key × Hcl.Tree) := [
  (.text declaration.keyword, .list [
    .map [(declaration.type.key, .map [(declaration.name.key, .map declaration.body.toTree)])]])]

/-- A declaration of a resource: its type and its name are not empty, and its body is well
formed for the type. -/
structure WellFormed (table : BlockTable) (declaration : Declaration) : Prop where
  type : declaration.type.text.isEmpty = false
  name : declaration.name.text.isEmpty = false
  body : declaration.body.WellFormed (table.top declaration.type.text)

/-- A declaration with a label that is taken for the mark of a body. -/
def HasMark (declaration : Declaration) : Prop :=
  declaration.type.IsMark ∨ declaration.name.IsMark

/-- The entity of a declaration, given what is known of it. -/
def entity (declaration : Declaration) (contents : Attributes × NestedBlocks)
    (address : Option String) (file : String) (line : Int) : Entity where
  kind :=
    if declaration.isData then BlockTable.dataMark ++ declaration.type.text
    else declaration.type.text
  localName := declaration.name.text
  attributes := contents.1
  blocks := contents.2
  fullAddress := address
  mode := declaration.mode
  file := file
  line := line

/-- A plan gives the entity of a declaration, with the address and with no lines. -/
theorem read_plan {table : BlockTable} {declaration : Declaration} {listed : Body}
    (wellFormed : declaration.WellFormed table)
    (listedWellFormed : listed.WellFormed (table.top declaration.type.text)) {address : String}
    (filled : address.isEmpty = false) (source : String) :
    Plan.read table source (.decoded (declaration.plan listed address)) =
      .ok [declaration.entity (listed.contents fun _ => 0) (some address) source 0] := by
  have identified : Plan.Identified (declaration.planned listed address) address
      declaration.type.text declaration.name.text :=
    ⟨rfl, rfl, rfl, filled, wellFormed.type, wellFormed.name⟩
  have split := splitMembers_body listed (table.top declaration.type.text) listedWellFormed
  have known : Plan.resourceMode (declaration.planned listed address) =
      .ok declaration.mode := by
    have given : Json.member (declaration.planned listed address) "mode" =
        .string declaration.mode := rfl
    have filled : declaration.mode.isEmpty = false := by
      unfold mode
      split <;> decide
    simp [Plan.resourceMode, given, filled, Json.isVacant, Plan.shown, Except.mapError]
  have normalized : Plan.normalize table source (declaration.planned listed address) =
      .ok (declaration.entity (listed.contents fun _ => 0) (some address) source 0) := by
    rw [Plan.normalize_ok identified known (.given _ rfl) split, Plan.entityOf]
    cases isData : declaration.isData <;> simp [entity, mode, isData, Plan.entityKind]
  have visits : Plan.survey (declaration.plan listed address) =
      .ok ⟨[.resource (declaration.planned listed address)], []⟩ := by
    have hasPlanned : Json.member (declaration.plan listed address) "planned_values" =
        .object [("root_module", .object (root declaration listed address))] := rfl
    have hasRoot : Json.member [("root_module", .object (root declaration listed address))]
        "root_module" = .object (root declaration listed address) := rfl
    have noChanges : Json.member (declaration.plan listed address) "resource_changes" = .null :=
      rfl
    have walked : Plan.moduleVisits (root declaration listed address) =
        [.resource (declaration.planned listed address)] := by
      simp [root, Plan.moduleVisits, Json.member, Plan.ownVisits, Plan.nestedVisits,
        Plan.resourceVisit]
    simp [Plan.survey, hasPlanned, hasRoot, noChanges, walked, Plan.destroyedAddresses,
      Json.isVacant, bind, Except.bind]
  have step : Plan.step table source [] (.resource (declaration.planned listed address)) =
      .ok (.entity
        (declaration.entity (listed.contents fun _ => 0) (some address) source 0)) := by
    simp [Plan.step, identified.hasAddress, normalized, Except.map]
  simp [Plan.read, Plan.Document.decode, Plan.entities, visits, Plan.readVisits, step, bind,
    Except.bind]

/-- The one block at the top of the source of a declaration. -/
theorem blocksOf_source {table : BlockTable} {declaration : Declaration}
    (wellFormed : declaration.WellFormed table) (noMark : ¬ declaration.HasMark) :
    Source.blocksOf declaration.source =
      .ok [⟨.text declaration.keyword,
        [Hcl.quotedText declaration.type.text, Hcl.quotedText declaration.name.text],
        (quotedContents (declaration.body.contents id)).1,
        (quotedContents (declaration.body.contents id)).2, declaration.body.firstLine⟩] := by
  obtain ⟨marked, line⟩ := markedLine_body wellFormed.body
  have inside := readEntries_body declaration.body _ wellFormed.body
  obtain ⟨typeStands, nameStands⟩ := not_or.mp noMark
  have bodies : Hcl.blockBodies (.list [.map [(declaration.type.key,
      .map [(declaration.name.key, .map declaration.body.toTree)])]]) =
      .ok (some [⟨[Hcl.quotedText declaration.type.text,
        Hcl.quotedText declaration.name.text], declaration.body.toTree⟩]) := by
    simp [Hcl.blockBodies, Hcl.bodiesOfItems, Hcl.unwrapLabels, Hcl.unwrapEntries,
      Label.isMarked_key typeStands, Label.isMarked_key nameStands, Label.read_key, marked, bind,
      Except.bind]
  have top : Hcl.topBlocks declaration.source =
      .ok [⟨.text declaration.keyword,
        [Hcl.quotedText declaration.type.text, Hcl.quotedText declaration.name.text],
        (quotedContents (declaration.body.contents id)).1,
        (quotedContents (declaration.body.contents id)).2, declaration.body.firstLine⟩] := by
    simp [source, Hcl.topBlocks, bodies, Hcl.toBlock, inside, line, bind, Except.bind, pure,
      Except.pure]
  simp [Source.blocksOf, Hcl.blocksInOrder, top, Except.map, Except.mapError]

/-- Reading a text breaks off at a label that is taken for a mark. -/
theorem blocksOf_mark {declaration : Declaration} (hasMark : declaration.HasMark) :
    Source.blocksOf declaration.source = .error (.broken (.line (.notANumber "dict"))) := by
  have bodies : ∃ labels entries, Hcl.blockBodies (.list [.map [(declaration.type.key,
      .map [(declaration.name.key, .map declaration.body.toTree)])]]) =
        .ok (some [⟨labels, entries⟩]) ∧
      ∀ type, Hcl.toBlock type ⟨labels, entries⟩ = .error (.line (.notANumber "dict")) := by
    by_cases typeMark : declaration.type.IsMark
    · obtain ⟨marked, breaks⟩ := Label.toBlock_key typeMark
        [(declaration.name.key, .map declaration.body.toTree)]
      refine ⟨[], _, ?_, fun type => breaks type []⟩
      simp [Hcl.blockBodies, Hcl.bodiesOfItems, Hcl.unwrapLabels, marked, bind, Except.bind]
    · have nameMark : declaration.name.IsMark := hasMark.resolve_left typeMark
      obtain ⟨marked, breaks⟩ := Label.toBlock_key nameMark declaration.body.toTree
      refine ⟨[Hcl.quotedText declaration.type.text], _, ?_, fun type => breaks type _⟩
      simp [Hcl.blockBodies, Hcl.bodiesOfItems, Hcl.unwrapLabels, Hcl.unwrapEntries,
        Label.isMarked_key typeMark, Label.read_key, marked, bind, Except.bind]
  obtain ⟨labels, entries, found, breaks⟩ := bodies
  have top : Hcl.topBlocks declaration.source = .error (.line (.notANumber "dict")) := by
    simp [source, Hcl.topBlocks, found, breaks, bind, Except.bind]
  simp [Source.blocksOf, Hcl.blocksInOrder, top, Except.map, Except.mapError]

/-- The mark of data sources stands for itself between quotes. -/
theorem quotedText_dataMark (type : String) :
    Hcl.quotedText (BlockTable.dataMark ++ type) = BlockTable.dataMark ++ Hcl.quotedText type := by
  apply String.toList_injective
  have marked (rest : List Char) :
      Hcl.guarded ['$', '%'] ('d' :: 'a' :: 't' :: 'a' :: '.' :: rest) =
        'd' :: 'a' :: 't' :: 'a' :: '.' :: Hcl.guarded ['$', '%'] rest := by
    simp [Hcl.guarded_other]
  simp [Hcl.quotedText, BlockTable.dataMark, marked, Hcl.escape, Hcl.escapeChar]

/-- Between quotes a text is empty only when it is. -/
theorem quotedText_filled {text : String} (filled : text.isEmpty = false) :
    (Hcl.quotedText text).isEmpty = false := by
  have empty : Hcl.quotedText "" = "" := by decide
  rw [String.isEmpty_eq_false_iff] at filled ⊢
  exact fun same => filled (Hcl.quotedText_injective (same.trans empty.symm))

/-- A text gives the entity of a declaration with its names as they stand between quotes,
without an address and with the lines. -/
theorem ofEntries_source {table : BlockTable} {declaration : Declaration}
    (wellFormed : declaration.WellFormed table) (noMark : ¬ declaration.HasMark) (file : String) :
    Source.ofEntries file declaration.source =
      .ok [(declaration.entity (declaration.body.contents id) none file
        declaration.body.firstLine).quoted] := by
  have typeFilled := quotedText_filled wellFormed.type
  have nameFilled := quotedText_filled wellFormed.name
  cases isData : declaration.isData <;>
    simp [Source.ofEntries, blocksOf_source wellFormed noMark, keyword, isData,
      Source.entityTypes, Source.toEntities, Source.toEntity, typeFilled, nameFilled, entity, mode,
      Entity.quoted, quotedContents, quotedText_dataMark, bind, Except.bind, Except.mapError]

/-- A plan that has the declaration as its one resource gives one entity, with the address in
the plan, whatever the order in which it lists the names of the body. A text that declares the
resource breaks off when a label is taken for the mark of a body. Otherwise it gives one entity
with no address, which is the one of the plan with its names as they stand between quotes. The
two are the same when none of these names needs an escape or a guard there. -/
theorem plan_agrees_with_source {table : BlockTable} {declaration : Declaration} {listed : Body}
    (wellFormed : declaration.WellFormed table) (rearranges : listed.Rearranges declaration.body)
    {address : String} (filled : address.isEmpty = false) (source file : String) :
    ∃ planned : Entity,
      Plan.read table source (.decoded (declaration.plan listed address)) = .ok [planned] ∧
      planned.fullAddress = some address ∧
      (declaration.HasMark →
        Source.ofEntries file declaration.source =
          .error (.broken (.line (.notANumber "dict")))) ∧
      (¬ declaration.HasMark → ∃ declared : Entity,
        Source.ofEntries file declaration.source = .ok [declared] ∧
        declared.fullAddress = none ∧
        Entity.same { planned.quoted with fullAddress := none } declared = true ∧
        ((∀ name ∈ planned.names, Hcl.quotedText name = name) →
          Entity.same { planned with fullAddress := none } declared = true)) := by
  have listedWellFormed := bodyWellFormed_of_rearranges listed declaration.body
    (table.top declaration.type.text) rearranges wellFormed.body
  obtain ⟨attributes, length, tables⟩ := bodyContents_of_rearranges (fun _ => 0) id listed
    declaration.body (table.top declaration.type.text) rearranges wellFormed.body
  refine ⟨_, read_plan wellFormed listedWellFormed filled source, rfl, fun hasMark => ?breaks,
    fun noMark => ⟨_, ofEntries_source wellFormed noMark file, rfl, ?agrees⟩⟩
  case breaks => simp [Source.ofEntries, blocksOf_mark hasMark, bind, Except.bind]
  case agrees =>
    have same : Entity.same
        (declaration.entity (listed.contents fun _ => 0) none source 0)
        (declaration.entity (declaration.body.contents id) none file
          declaration.body.firstLine) = true := by
      simp [Entity.same, entity, attributes, length, tables]
    have quoted := Entity.same_quoted same
    refine ⟨quoted, fun plain => ?_⟩
    have unchanged : (declaration.entity (listed.contents fun _ => 0) none source 0).quoted = _ :=
      Entity.quoted_eq_self plain
    rwa [unchanged] at quoted

/-- A bucket that is listed from behind, with a text that needs escapes and a guard, a negative
number, nulls and blocks in blocks. -/
theorem bucket_agrees :
    let size : Constant := .object [("least", .int (-7)), ("most", .null)]
    let sizeListed : Constant := .object [("most", .null), ("least", .int (-7))]
    let expiration : Body := .mk 6 8 [("days", .setting (.int 30))]
    let rule : Body := .mk 5 9 [
      ("enabled", .setting (.bool true)), ("expiration", .blocks [expiration])]
    let ruleListed : Body := .mk 0 0 [
      ("expiration", .blocks [expiration]), ("enabled", .setting (.bool true))]
    let declaration : Declaration := ⟨false, ⟨"aws_s3_bucket", false⟩, ⟨"logs", true⟩, .mk 1 12 [
      ("bucket", .setting (.text "the \"${name}\"\n")), ("size", .setting size),
      ("lifecycle_rule", .blocks [rule, .mk 10 11 []])]⟩
    let listed : Body := .mk 0 0 [
      ("lifecycle_rule", .blocks [ruleListed, .mk 0 0 []]), ("size", .setting sizeListed),
      ("bucket", .setting (.text "the \"${name}\"\n"))]
    ∃ planned declared : Entity,
      Plan.read .standard "tfplan" (.decoded (declaration.plan listed "module.a.b")) =
        .ok [planned] ∧
      Source.ofEntries "main.tf" declaration.source = .ok [declared] ∧
      planned.fullAddress = some "module.a.b" ∧ declared.fullAddress = none ∧
      Entity.same { planned with fullAddress := none } declared = true := by
  intro size sizeListed expiration rule ruleListed declaration listed
  have sizeRearranges : sizeListed.Rearranges size := by
    refine ⟨_, rfl, [_], _, [], rfl, rfl, ?_⟩
    exact ⟨[], _, [], rfl, rfl, rfl⟩
  have ruleRearranges : ruleListed.Rearranges rule := by
    refine ⟨_, _, _, rfl, [_], _, [], rfl, Entry.rearranges_self _, ?_⟩
    exact entriesRearrange_self _
  have rulesRearrange : Entry.Rearranges (.blocks [ruleListed, .mk 0 0 []])
      (.blocks [rule, .mk 10 11 []]) :=
    ⟨_, rfl, _, _, rfl, ruleRearranges, _, _, rfl, ⟨_, _, _, rfl, rfl⟩, rfl⟩
  have rearranges : listed.Rearranges declaration.body :=
    ⟨_, _, _, rfl, [_, _], _, [], rfl, rulesRearrange, [_], _, [], rfl,
      ⟨_, rfl, sizeRearranges⟩, entriesRearrange_self _⟩
  have sizeWellFormed : size.WellFormed :=
    ⟨by decide, by decide, by rfl, by decide, trivial, trivial⟩
  have expirationWellFormed : expiration.WellFormed (.node []) :=
    ⟨by decide, by decide, ⟨by rfl, fun _ => rfl⟩, trivial⟩
  have wellFormed : declaration.WellFormed .standard := by
    refine ⟨rfl, rfl, by decide, by decide, ⟨trivial, fun _ => rfl⟩, by decide,
      ⟨sizeWellFormed, ?_⟩, by decide, ⟨_, rfl, ?rule, ⟨by decide, trivial⟩, trivial⟩, trivial⟩
    case rule =>
      exact ⟨by decide, by decide, ⟨trivial, fun _ => rfl⟩, by decide,
        ⟨_, rfl, expirationWellFormed, trivial⟩, trivial⟩
    intro known
    cases known
  have noMark : ¬ declaration.HasMark := by
    rintro (⟨_, same⟩ | ⟨quotes, _⟩)
    · exact absurd same (by decide)
    · cases quotes
  have filled : "module.a.b".isEmpty = false := by decide
  obtain ⟨planned, fromPlan, address, _, agrees⟩ :=
    plan_agrees_with_source wellFormed rearranges filled "tfplan" "main.tf"
  obtain ⟨declared, fromText, unknown, _, same⟩ := agrees noMark
  refine ⟨planned, declared, fromPlan, fromText, address, unknown, same ?_⟩
  have listedWellFormed := bodyWellFormed_of_rearranges listed declaration.body _ rearranges
    wellFormed.body
  rw [read_plan wellFormed listedWellFormed filled "tfplan"] at fromPlan
  cases fromPlan
  decide

/-- The name of a member with a quote in it, which a plan gives and source text gives with its
escape; and a type that a plan takes and source text takes for the mark of a body. -/
theorem names_misread :
    let tagged : Declaration := ⟨false, ⟨"t", false⟩, ⟨"n", false⟩,
      .mk 1 3 [("tags", .setting (.object [("a\"b", .text "x")]))]⟩
    let marked : Declaration := ⟨false, ⟨"__start_line__", false⟩, ⟨"n", false⟩, .mk 1 2 []⟩
    (∀ declaration ∈ [tagged, marked],
      declaration.WellFormed .standard ∧ declaration.body.Rearranges declaration.body ∧
      BlockTable.dataMark.toList.isPrefixOf declaration.type.text.toList = false) ∧
    (∃ planned declared : Entity,
      Plan.read .standard "tfplan" (.decoded (tagged.plan tagged.body "t.n")) = .ok [planned] ∧
      planned.attributes = [("tags", .map [("a\"b", .text "x")])] ∧
      Source.ofEntries "main.tf" tagged.source = .ok [declared] ∧
      declared.attributes = [("tags", .map [("a\\\"b", .text "x")])] ∧
      Entity.same { planned with fullAddress := none } declared = false) ∧
    (∃ planned : Entity, planned.kind = "__start_line__" ∧
      Plan.read .standard "tfplan" (.decoded (marked.plan marked.body "t.n")) = .ok [planned] ∧
      Source.ofEntries "main.tf" marked.source =
        .error (.broken (.line (.notANumber "dict")))) := by
  intro tagged marked
  have taggedWellFormed : tagged.WellFormed .standard :=
    ⟨rfl, rfl, by decide, by decide, ⟨⟨by decide, by decide, trivial, trivial⟩,
      nofun⟩, trivial⟩
  have markedWellFormed : marked.WellFormed .standard := ⟨rfl, rfl, by decide, trivial⟩
  have noMark : ¬ tagged.HasMark := by
    rintro (⟨_, same⟩ | ⟨_, same⟩) <;> exact absurd same (by decide)
  refine ⟨?domain, ⟨_, _, read_plan taggedWellFormed taggedWellFormed.body (by decide) "tfplan",
    rfl, ofEntries_source taggedWellFormed noMark "main.tf", rfl, ?differ⟩,
    _, rfl, read_plan markedWellFormed markedWellFormed.body (by decide) "tfplan", ?breaks⟩
  case domain =>
    intro declaration member
    simp only [List.mem_cons, List.not_mem_nil, or_false] at member
    rcases member with rfl | rfl
    · exact ⟨taggedWellFormed, Body.rearranges_self _, by decide⟩
    · exact ⟨markedWellFormed, Body.rearranges_self _, by decide⟩
  case differ => decide
  case breaks =>
    simp [Source.ofEntries, blocksOf_mark (.inl ⟨rfl, rfl⟩ : marked.HasMark), bind, Except.bind]

end Declaration

end InfraReview.Resource
