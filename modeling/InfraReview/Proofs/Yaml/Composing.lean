import InfraReview.Proofs.Blame
import InfraReview.Yaml.Composition

/-!
# Faults of putting nodes together

Nodes are put together from tokens as the tokens come, and a fault that ends the tokens is met when
they are used up. So the fault of a document is a broken rule or that very fault. The steps refer
to each other in a circle, and are followed around it by induction on the number of steps.
-/

namespace InfraReview.Yaml

namespace Composer

variable {α β : Type} {ending : Fault}

/-- A step that keeps the fault behind the tokens in mind, and has no others but broken rules. -/
def Steady (ending : Fault) (step : Composer α) : Prop :=
  Keeps (fun state => state.ending = ending) (fun fault => fault = .malformed ∨ fault = ending) step

/-- A broken rule. -/
theorem steady_broken : Steady ending (reject .malformed : Composer α) := Keeps.fail (.inl rfl)

/-- A value without a step. -/
theorem steady_pure (value : α) : Steady ending (pure value : Composer α) := Keeps.pure value

/-- Two steps. -/
theorem Steady.bind {first : Composer α} {next : α → Composer β} (start : Steady ending first)
    (rest : ∀ value, Steady ending (next value)) : Steady ending (first >>= next) :=
  Keeps.bind start rest

/-- A choice between two steps. -/
theorem steady_choice {condition : Prop} [Decidable condition] {first second : Composer α}
    (left : Steady ending first) (right : Steady ending second) :
    Steady ending (if condition then first else second) :=
  Keeps.choice left right

/-- A change of anything but the fault behind the tokens. -/
theorem steady_modify {change : Composition → Composition}
    (same : ∀ state, (change state).ending = state.ending) :
    Steady ending (modify change : Composer PUnit) :=
  Keeps.modify fun state kept => (same state).trans kept

/-! ### Single steps -/

/-- To look at the next token is steady. -/
theorem steady_peek : Steady ending peek := by
  apply Keeps.get
  intro state kept
  cases state.tokens with
  | nil => exact Keeps.fail (.inr kept)
  | cons token tokens => exact Keeps.pure token

/-- To go on to the next token is steady. -/
theorem steady_skip : Steady ending skip := steady_modify fun _ => rfl

/-- To take a token if it is the given one is steady. -/
theorem steady_skipIf (token : Token) : Steady ending (skipIf token) :=
  steady_peek.bind fun _ =>
    steady_choice (steady_skip.bind fun _ => steady_pure true) (steady_pure false)

/-- To expect a token is steady. -/
theorem steady_expect (token : Token) : Steady ending (expect token) :=
  (steady_skipIf token).bind fun _ => steady_choice (steady_pure _) steady_broken

/-- To compare the next token with others is steady. -/
theorem steady_sees (tokens : List Token) : Steady ending (sees tokens) :=
  steady_peek.bind fun _ => steady_pure _

/-- To read an anchor is steady. -/
theorem steady_anchor : Steady ending anchor? := by
  refine steady_peek.bind fun token => ?_
  split
  · exact steady_skip.bind fun _ => steady_pure _
  · exact steady_pure _

/-- To read a tag is steady. -/
theorem steady_tag : Steady ending tag? := by
  refine steady_peek.bind fun token => ?_
  split
  · exact steady_skip.bind fun _ => steady_pure _
  · exact steady_pure _

/-- To read what stands before a node is steady. -/
theorem steady_properties : Steady ending properties := by
  refine steady_anchor.bind fun anchor => ?_
  split
  · exact steady_tag.bind fun _ => steady_pure _
  · refine steady_tag.bind fun tag => ?_
    split
    · exact steady_anchor.bind fun _ => steady_pure _
    · exact steady_pure _

/-- To find the whole name of a tag is steady. -/
theorem steady_fullName (tag : TagName) : Steady ending (fullName tag) := by
  unfold fullName
  split
  · exact steady_pure _
  · apply Keeps.get
    intro state kept
    split
    · exact Keeps.pure _
    · exact Keeps.fail (.inl rfl)

/-- To find the whole name of a tag, if there is one, is steady. -/
theorem steady_fullNames (tag : Option TagName) : Steady ending (tag.mapM fullName) := by
  cases tag with
  | none => exact steady_pure none
  | some tag => exact (steady_fullName tag).bind fun _ => steady_pure _

/-- To add a node is steady. -/
theorem steady_add (node : Node) : Steady ending (add node) := by
  apply Keeps.get
  intro state kept
  refine Keeps.bind (Keeps.set ?_) fun _ => steady_pure _
  exact kept

/-- To check a name is steady. -/
theorem steady_claim (anchor : Option String) : Steady ending (claim anchor) := by
  unfold claim
  split
  · exact steady_pure _
  · apply Keeps.get
    intro state kept
    exact Keeps.choice (Keeps.fail (.inl rfl)) (Keeps.pure _)

/-- To give a name is steady. -/
theorem steady_define (anchor : Option String) (id : NodeId) :
    Steady ending (define anchor id) := by
  unfold define
  split
  · exact steady_pure _
  · exact steady_modify fun _ => rfl

/-- To find the node of an alias is steady. -/
theorem steady_aliased (name : String) : Steady ending (aliased name) := by
  apply Keeps.get
  intro state kept
  split
  · exact Keeps.pure _
  · exact Keeps.fail (.inl rfl)

/-- To add a text is steady. -/
theorem steady_text (anchor : Option String) (tag : Tag) (content : String) :
    Steady ending (text anchor tag content) :=
  (steady_claim anchor).bind fun _ => (steady_add _).bind fun _ =>
    (steady_define anchor _).bind fun _ => steady_pure _

/-- To add a collection is steady when its content is. -/
theorem steady_collection (anchor : Option String) (tag : Tag) {read : Composer Content}
    (inside : Steady ending read) : Steady ending (collection anchor tag read) :=
  (steady_claim anchor).bind fun _ => (steady_add _).bind fun _ =>
    (steady_define anchor _).bind fun _ => inside.bind fun _ =>
    Steady.bind (steady_modify fun _ => rfl) fun _ => steady_pure _

/-- To do without a node is steady. -/
theorem steady_bare (anchor name : Option String) : Steady ending (node.bare anchor name) :=
  steady_choice (steady_text _ _ _) steady_broken

/-! ### Nodes -/

/-- All steps that read nodes are steady with a number of calls. -/
structure SteadyWithin (ending : Fault) (fuel : Nat) : Prop where
  node : ∀ inBlock unindented, Steady ending (node inBlock unindented fuel)
  blockItems : Steady ending (blockItems fuel)
  unindentedItems : Steady ending (unindentedItems fuel)
  blockEntries : Steady ending (blockEntries fuel)
  blockPart : Steady ending (blockPart fuel)
  flowItems : ∀ isFirst, Steady ending (flowItems isFirst fuel)
  flowItem : Steady ending (flowItem fuel)
  flowEntries : ∀ isFirst, Steady ending (flowEntries isFirst fuel)
  flowPair : Steady ending (flowPair fuel)

/-- Without any call left, a rule is broken. -/
theorem steadyWithin_zero : SteadyWithin ending 0 where
  node _ _ := steady_broken
  blockItems := steady_broken
  unindentedItems := steady_broken
  blockEntries := steady_broken
  blockPart := steady_broken
  flowItems _ := steady_broken
  flowItem := steady_broken
  flowEntries _ := steady_broken
  flowPair := steady_broken

section

variable {fuel : Nat} (inner : SteadyWithin ending fuel)

include inner

/-- With one more call, a node is steady. -/
theorem SteadyWithin.node_succ (inBlock unindented : Bool) :
    Steady ending (Composer.node inBlock unindented (fuel + 1)) := by
  rw [Composer.node]
  refine steady_peek.bind fun token => ?_
  split
  · exact steady_skip.bind fun _ => steady_aliased _
  refine steady_properties.bind fun found => (steady_fullNames _).bind fun name =>
    steady_peek.bind fun next => ?_
  split
  · refine steady_choice (steady_collection _ _ ?_) (steady_bare _ _)
    exact inner.unindentedItems.bind fun _ => steady_pure _
  · exact steady_skip.bind fun _ => steady_text _ _ _
  · refine steady_collection _ _ ?_
    exact steady_skip.bind fun _ => (inner.flowItems true).bind fun _ => steady_pure _
  · refine steady_collection _ _ ?_
    exact steady_skip.bind fun _ => (inner.flowEntries true).bind fun _ => steady_pure _
  · refine steady_choice (steady_collection _ _ ?_) (steady_bare _ _)
    exact steady_skip.bind fun _ => inner.blockItems.bind fun _ => steady_pure _
  · refine steady_choice (steady_collection _ _ ?_) (steady_bare _ _)
    exact steady_skip.bind fun _ => inner.blockEntries.bind fun _ => steady_pure _
  · exact steady_bare _ _

/-- A node that may be missing is steady when what follows it is. -/
theorem SteadyWithin.node_then (tokens : List Token) (inBlock unindented : Bool)
    {next : NodeId → Composer α} (rest : ∀ id, Steady ending (next id)) :
    Steady ending (do
      if ← sees tokens then
        let id ← emptyNode
        next id
      else
        let id ← Composer.node inBlock unindented fuel
        next id) :=
  (steady_sees tokens).bind fun _ =>
    steady_choice ((steady_add _).bind rest) ((inner.node inBlock unindented).bind rest)

/-- A value in brackets, which may be missing with its mark, is steady when what follows it is. -/
theorem SteadyWithin.value_then (tokens : List Token) {next : NodeId → Composer α}
    (rest : ∀ id, Steady ending (next id)) :
    Steady ending (do
      if ← skipIf .value then
        if ← sees tokens then
          let id ← emptyNode
          next id
        else
          let id ← Composer.node false false fuel
          next id
      else
        let id ← emptyNode
        next id) :=
  (steady_skipIf _).bind fun _ =>
    steady_choice (inner.node_then tokens false false rest) ((steady_add _).bind rest)

/-- With one more call, all steps that read nodes are steady. -/
theorem SteadyWithin.succ : SteadyWithin ending (fuel + 1) where
  node := inner.node_succ
  blockItems := by
    rw [Composer.blockItems]
    refine (steady_skipIf _).bind fun _ => steady_choice ?_ ?_
    · exact inner.node_then _ _ _ fun _ => inner.blockItems.bind fun _ => steady_pure _
    · exact (steady_expect _).bind fun _ => steady_pure _
  unindentedItems := by
    rw [Composer.unindentedItems]
    refine (steady_skipIf _).bind fun _ => steady_choice ?_ (steady_pure _)
    exact inner.node_then _ _ _ fun _ => inner.unindentedItems.bind fun _ => steady_pure _
  blockEntries := by
    rw [Composer.blockEntries]
    refine (steady_skipIf _).bind fun _ => steady_choice ?_ ?_
    · refine inner.blockPart.bind fun key => (steady_skipIf _).bind fun _ => ?_
      have others (value : NodeId) : Steady ending (do
          let rest ← Composer.blockEntries fuel
          pure ((key, value) :: rest)) :=
        inner.blockEntries.bind fun _ => steady_pure _
      exact steady_choice (inner.blockPart.bind others) ((steady_add _).bind others)
    · exact (steady_expect _).bind fun _ => steady_pure _
  blockPart := by
    rw [Composer.blockPart]
    exact (steady_sees _).bind fun _ => steady_choice (steady_add _) (inner.node true true)
  flowItems isFirst := by
    rw [Composer.flowItems]
    have items : Steady ending (do
        if ← skipIf .flowSequenceEnd then pure []
        else
          let item ← Composer.flowItem fuel
          pure (item :: (← Composer.flowItems false fuel))) :=
      (steady_skipIf _).bind fun _ => steady_choice (steady_pure _)
        (inner.flowItem.bind fun _ => (inner.flowItems false).bind fun _ => steady_pure _)
    refine (steady_skipIf _).bind fun _ => steady_choice (steady_pure _) ?_
    exact steady_choice items ((steady_expect _).bind fun _ => items)
  flowItem := by
    rw [Composer.flowItem]
    refine (steady_skipIf _).bind fun _ => steady_choice ?_ (inner.node false false)
    refine inner.node_then _ _ _ fun key => ?_
    exact inner.value_then _ fun value => steady_add _
  flowEntries isFirst := by
    rw [Composer.flowEntries]
    have entries : Steady ending (do
        if ← skipIf .flowMappingEnd then pure []
        else
          let entry ← Composer.flowPair fuel
          pure (entry :: (← Composer.flowEntries false fuel))) :=
      (steady_skipIf _).bind fun _ => steady_choice (steady_pure _)
        (inner.flowPair.bind fun _ => (inner.flowEntries false).bind fun _ => steady_pure _)
    refine (steady_skipIf _).bind fun _ => steady_choice (steady_pure _) ?_
    exact steady_choice entries ((steady_expect _).bind fun _ => entries)
  flowPair := by
    rw [Composer.flowPair]
    refine (steady_skipIf _).bind fun _ => steady_choice ?_ ?_
    · refine inner.node_then _ _ _ fun key => ?_
      exact inner.value_then _ fun value => steady_pure _
    · exact (inner.node false false).bind fun _ => (steady_add _).bind fun _ => steady_pure _

end

/-- With any number of calls, all steps that read nodes are steady. -/
theorem steadyWithin (fuel : Nat) : SteadyWithin ending fuel := by
  induction fuel with
  | zero => exact steadyWithin_zero
  | succ fuel inductionHypothesis => exact inductionHypothesis.succ

/-! ### Documents -/

/-- To pass over the ends of documents is steady. -/
theorem steady_skipDocumentEnds (fuel : Nat) : Steady ending (skipDocumentEnds fuel) := by
  induction fuel with
  | zero => exact steady_pure _
  | succ fuel inductionHypothesis =>
    rw [skipDocumentEnds]
    exact (steady_skipIf _).bind fun _ => steady_choice inductionHypothesis (steady_pure _)

/-- To read directives is steady. -/
theorem steady_directives (hasVersion : Bool) (handles : List (String × String)) (fuel : Nat) :
    Steady ending (directives hasVersion handles fuel) := by
  induction fuel generalizing hasVersion handles with
  | zero => exact steady_broken
  | succ fuel inductionHypothesis =>
    rw [directives]
    refine steady_peek.bind fun token => ?_
    split
    · exact steady_skip.bind fun _ => steady_choice steady_broken (inductionHypothesis _ _)
    · exact steady_skip.bind fun _ => steady_choice steady_broken (inductionHypothesis _ _)
    · exact steady_skip.bind fun _ => inductionHypothesis _ _
    · exact steady_pure _

/-- To read the content of a document is steady. -/
theorem steady_content (fuel : Nat) : Steady ending (content fuel) := by
  refine steady_peek.bind fun token => ?_
  split
  · exact steady_add _
  · exact steady_add _
  · exact steady_add _
  · exact steady_add _
  · exact (steadyWithin fuel).node true false

/-- To read a document with a mark at its start is steady. -/
theorem steady_markedDocument (fuel : Nat) : Steady ending (markedDocument fuel) := by
  refine (steady_skipDocumentEnds fuel).bind fun _ => (steady_sees _).bind fun _ =>
    steady_choice (steady_pure _) ?_
  refine (steady_directives _ _ _).bind fun _ => (steady_expect _).bind fun _ =>
    Steady.bind (steady_modify fun _ => rfl) fun _ => ?_
  exact (steady_content fuel).bind fun _ => steady_pure _

/-- To read the one document is steady. -/
theorem steady_document (fuel : Nat) : Steady ending (document fuel) := by
  have first : Steady ending (firstDocument fuel) := by
    refine steady_peek.bind fun token => ?_
    split
    · exact steady_markedDocument fuel
    · exact steady_markedDocument fuel
    · exact steady_pure _
    · exact ((steadyWithin fuel).node true false).bind fun _ => steady_pure _
  refine first.bind fun found => ?_
  split
  · exact steady_pure _
  · refine (steady_skipDocumentEnds fuel).bind fun _ => (steady_sees _).bind fun _ =>
      steady_choice (steady_pure _) ?_
    exact (steady_directives _ _ _).bind fun _ => steady_broken

end Composer

/-- The fault of putting tokens together is a broken rule, or the fault that ends the tokens. -/
theorem Document.ofTokens_blamed (tokens : Tokens) :
    FailsOnly (fun fault => fault = .malformed ∨ tokens.fault = some fault)
      (Document.ofTokens tokens) := by
  unfold Document.ofTokens
  refine .bind ?_ fun _ => .ok _
  intro fault failed
  have steady : Composer.Steady (tokens.fault.getD .malformed) _ :=
    Composer.steady_document (4 * tokens.tokens.length + 8)
  rcases (steady _ rfl).failsOnly fault failed with broken | same
  · exact .inl broken
  · cases ended : tokens.fault with
    | none => exact .inl (by rw [same, ended]; rfl)
    | some cause => exact .inr (by rw [same, ended]; rfl)

end InfraReview.Yaml
