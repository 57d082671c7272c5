import InfraReview.Proofs.Yaml.Composing
import InfraReview.Proofs.Yaml.Scanning
import InfraReview.Yaml.Document

/-!
# Where the reading of YAML breaks off

Apart from broken rules there are two sorts of faults. The tokens of a text end at an escape beyond
the code points or at a number in a directive with too many digits. Or a document has been put
together, and one of its nodes asks for a text that has no value under the tag of the node.

The data of a node is made from nodes that may have changed meanwhile, when merge keys were
resolved. But that changes neither the texts nor any tag that a text could lack a value for, so a
node without a value is one of the document as it was put together.
-/

namespace InfraReview.Yaml

/-- Why nodes give no data apart from broken rules: a mapping is asked for a timestamp, or a text
has no value under a tag that asks for it. -/
inductive Valueless (graph : Graph) : Fault → Prop where
  | mapping (id : NodeId) (entries : List Entry)
      (node : graph.node id = ⟨.timestamp, .mapping entries⟩) :
      Valueless graph .timestampOfMapping
  | text (id inner : NodeId) {characters : String} {fault : Fault}
      (content : (graph.node inner).content = .text characters)
      (lacking : datumOfText id (graph.tag id) characters = .error fault) : Valueless graph fault

/-- The faults of a text apart from broken rules: its tokens end at an escape beyond the code
points or at a number in a directive with too many digits, or its document has a node without a
value. -/
inductive Breaks (text : List Char) : Fault → Prop where
  | escape {code : Nat} {fault : Fault} (ended : (Tokens.ofText text).fault = some fault)
      (beyond : 0x110000 ≤ code) (lacking : charOfCode code = .error fault) : Breaks text fault
  | version {digits : Nat}
      (ended : (Tokens.ofText text).fault = some (.length (.read digits)))
      (long : maxDigits < digits) : Breaks text (.length (.read digits))
  | node {document : Document} {fault : Fault}
      (composed : Document.ofTokens (Tokens.ofText text) = .ok (some document))
      (lacking : Valueless document.graph fault) : Breaks text fault

/-! ### Nodes after merge keys were resolved -/

/-- The content of a mapping. -/
def Content.IsMapping (content : Content) : Prop := ∃ entries, content = .mapping entries

/-- A node that another one has become: the sign for a value may have become a text, and a mapping
may have other entries. -/
structure Node.Becomes (before after : Node) : Prop where
  tag : after.tag = before.tag ∨ after.tag = .text
  content : after.content = before.content ∨ before.content.IsMapping ∧ after.content.IsMapping

/-- Nodes that others have become. -/
def Graph.Becomes (before after : Graph) : Prop :=
  ∀ id, (before.node id).Becomes (after.node id)

namespace Graph

/-- Nodes stay what they are. -/
theorem Becomes.refl (graph : Graph) : graph.Becomes graph := fun _ => ⟨.inl rfl, .inl rfl⟩

/-- What nodes become twice. -/
theorem Becomes.trans {first second third : Graph} (early : first.Becomes second)
    (late : second.Becomes third) : first.Becomes third := by
  intro id
  constructor
  · rcases (late id).tag with same | text
    · rw [same]
      exact (early id).tag
    · exact .inr text
  · rcases (late id).content with same | ⟨middle, last⟩
    · rw [same]
      exact (early id).content
    · rcases (early id).content with same | ⟨start, _⟩
      · exact .inr ⟨same ▸ middle, last⟩
      · exact .inr ⟨start, last⟩

/-- A mapping stays one. -/
theorem Becomes.mapping {before after : Graph} (becomes : before.Becomes after) {id : NodeId}
    (mapping : (before.node id).content.IsMapping) : (after.node id).content.IsMapping := by
  rcases (becomes id).content with same | ⟨_, last⟩
  · rwa [same]
  · exact last

/-- A text was the same text before. -/
theorem Becomes.text {before after : Graph} (becomes : before.Becomes after) {id : NodeId}
    {characters : String} (text : (after.node id).content = .text characters) :
    (before.node id).content = .text characters := by
  rcases (becomes id).content with same | ⟨_, entries, last⟩
  · rw [← same, text]
  · rw [text] at last
    cases last

/-- Only the node that is put in a place may become another one. -/
theorem becomes_put {graph : Graph} {id : NodeId} {node : Node}
    (becomes : (graph.node id).Becomes node) : graph.Becomes (graph.put id node) := by
  intro other
  by_cases same : id = other
  · subst same
    by_cases within : id < graph.size
    · rwa [node_put within]
    · have unchanged : (graph.put id node).node id = graph.node id := by
        simp [Graph.node, put, show ¬ id < graph.nodes.size from within]
      rw [unchanged]
      exact ⟨.inl rfl, .inl rfl⟩
  · rw [node_put_of_ne same]
    exact ⟨.inl rfl, .inl rfl⟩

/-- A sign for a value becomes a text. -/
theorem becomes_retag (graph : Graph) (id : NodeId) : graph.Becomes (graph.retag id .text) :=
  becomes_put ⟨.inr rfl, .inl rfl⟩

/-- A mapping gets other entries. -/
theorem becomes_setEntries {graph : Graph} {id : NodeId}
    (mapping : (graph.node id).content.IsMapping) (entries : List Entry) :
    graph.Becomes (graph.setEntries id entries) :=
  becomes_put ⟨.inl rfl, .inr ⟨mapping, entries, rfl⟩⟩

/-! ### Merge keys -/

/-- Nodes that come from nodes by work whose only faults are broken rules. -/
def Reaches (graph : Graph) (result : Except Fault Graph) : Prop :=
  Yields (· = .malformed) graph.Becomes result

/-- A way to resolve mappings that makes of every mapping what it becomes. -/
def Sound (resolve : Resolver) : Prop :=
  ∀ (graph : Graph) (id : NodeId), (graph.node id).content.IsMapping →
    graph.Reaches (resolve graph id)

section

variable {resolve : Resolver} (sound : Sound resolve)

include sound

/-- To bring in a list of mappings resolves them. -/
theorem mergedFromItems_yields (graph : Graph) (items : List NodeId) :
    Yields (· = .malformed) (fun found => graph.Becomes found.2)
      (mergedFromItems resolve graph items) := by
  induction items generalizing graph with
  | nil => exact .ok (.refl graph)
  | cons item items inductionHypothesis =>
    rw [mergedFromItems]
    split
    · rename_i entries mapping
      refine (sound graph item ⟨entries, mapping⟩).bind fun resolved first => ?_
      refine (inductionHypothesis resolved).bind fun found rest => ?_
      exact .ok (first.trans rest)
    · exact .error rfl

/-- To bring in what stands under a merge key resolves mappings. -/
theorem mergedFrom_yields (graph : Graph) (id : NodeId) :
    Yields (· = .malformed) (fun found => graph.Becomes found.2)
      (mergedFrom resolve graph id) := by
  unfold mergedFrom
  split
  · rename_i entries mapping
    exact (sound graph id ⟨entries, mapping⟩).bind fun resolved first => .ok first
  · exact mergedFromItems_yields sound graph _
  · exact .error rfl

/-- To resolve the entries of a mapping makes of the nodes what they become. -/
theorem resolveEntries_reaches {id : NodeId} (entries : List Entry) (graph : Graph)
    (mapping : (graph.node id).content.IsMapping) (kept merged : List Entry) :
    graph.Reaches (resolveEntries resolve id kept merged entries graph) := by
  induction entries generalizing graph kept merged with
  | nil => exact .ok (becomes_setEntries mapping _)
  | cons entry rest inductionHypothesis =>
    obtain ⟨key, value⟩ := entry
    have goOn {after : Graph} (becomes : graph.Becomes after) (kept merged : List Entry) :
        graph.Reaches (resolveEntries resolve id kept merged rest after) := by
      have rested := inductionHypothesis after (becomes.mapping mapping) kept merged
      exact ⟨rested.failsOnly, fun last done => becomes.trans (rested.result last done)⟩
    rw [resolveEntries]
    split
    · have removed := becomes_setEntries mapping (kept ++ rest)
      refine (mergedFrom_yields sound _ value).bind fun (found, after) merging => ?_
      have becomes := removed.trans merging
      dsimp only
      split
      · exact goOn becomes _ _
      · exact .ok (becomes.trans (becomes_setEntries (becomes.mapping mapping) _))
    · exact goOn (becomes_retag graph key) _ _
    · exact goOn (.refl graph) _ _

end

/-- To resolve mappings up to a depth makes of the nodes what they become. -/
theorem sound_resolveWithin (depth : Nat) : Sound (resolveWithin depth) := by
  induction depth with
  | zero => exact fun graph id mapping => .ok (.refl graph)
  | succ depth inductionHypothesis =>
    intro graph id mapping
    exact resolveEntries_reaches inductionHypothesis _ graph mapping [] []

/-- To resolve a mapping makes of the nodes what they become. -/
theorem sound_resolve : Sound resolve := by
  intro graph id mapping
  exact sound_resolveWithin _ graph id mapping

/-! ### Data -/

/-- The text that a node gives is that of some node. -/
theorem textOf?_inner {graph : Graph} {depth : Nat} {id : NodeId} {characters : String}
    (given : graph.textOf? depth id = some characters) :
    ∃ inner, (graph.node inner).content = .text characters := by
  induction depth generalizing id with
  | zero => cases given
  | succ depth inductionHypothesis =>
    rw [textOf?] at given
    split at given
    · rename_i own content
      exact ⟨id, content.trans (congrArg Content.text (Option.some.inj given))⟩
    · cases given
    · obtain ⟨entry, _, under⟩ := Option.bind_eq_some_iff.mp given
      exact inductionHypothesis under

/-- A node has no data when a rule is broken, or for want of a value. -/
theorem textDatum_failsOnly (graph : Graph) (id : NodeId) :
    FailsOnly (fun fault => fault = .malformed ∨ Valueless graph fault) (graph.textDatum id) := by
  intro fault failed
  unfold textDatum at failed
  split at failed
  · exact .inl (Except.error.inj failed).symm
  · rename_i characters given
    obtain ⟨inner, content⟩ := textOf?_inner given
    split at failed
    · rename_i entries node
      cases failed
      exact .inr (.mapping id entries node)
    · rename_i tag content' node
      refine .inr (.text id inner content ?_)
      rw [Graph.tag, node]
      exact failed

/-- A node without a value was one before merge keys were resolved. -/
theorem Becomes.valueless {before after : Graph} (becomes : before.Becomes after) {fault : Fault}
    (lacking : Valueless after fault) : Valueless before fault := by
  cases lacking with
  | mapping id entries node =>
    have tag : (before.node id).tag = .timestamp := by
      rcases (becomes id).tag with same | text
      · rw [← same, node]
      · rw [node] at text
        cases text
    have content : (before.node id).content.IsMapping := by
      rcases (becomes id).content with same | ⟨start, _⟩
      · exact ⟨entries, by rw [← same, node]⟩
      · exact start
    obtain ⟨earlier, mapping⟩ := content
    exact .mapping id earlier (by rw [← tag, ← mapping])
  | @text id inner characters fault content lacking =>
    refine .text id inner (becomes.text content) ?_
    rcases (becomes id).tag with same | text
    · rwa [Graph.tag, ← same]
    · rw [Graph.tag, text] at lacking
      cases lacking

end Graph

namespace Constructor

variable {graph : Graph} {α β : Type}

/-- A step of making data that comes from the nodes of a document. It fails when a rule is broken,
or for want of the value of one of these nodes. -/
def From (graph : Graph) (step : Constructor α) : Prop :=
  Keeps (fun state => graph.Becomes state.graph)
    (fun fault => fault = .malformed ∨ Valueless graph fault) step

/-- A broken rule. -/
theorem from_broken : From graph (reject .malformed : Constructor α) := Keeps.fail (.inl rfl)

/-- A value without a step. -/
theorem from_pure (value : α) : From graph (pure value : Constructor α) := Keeps.pure value

/-- Two steps. -/
theorem From.bind {first : Constructor α} {next : α → Constructor β} (start : From graph first)
    (rest : ∀ value, From graph (next value)) : From graph (first >>= next) :=
  Keeps.bind start rest

/-- A change of anything but the nodes. -/
theorem from_modify {change : Construction → Construction}
    (same : ∀ state, (change state).graph = state.graph) :
    From graph (modify change : Constructor PUnit) :=
  Keeps.modify fun state kept => (same state).symm ▸ kept

/-- The data of a node comes from the nodes. -/
theorem from_datum (id : NodeId) : From graph (datum id) := by
  apply Keeps.get
  intro state becomes
  split
  · exact from_pure _
  · split
    · exact From.bind (from_modify fun _ => rfl) fun _ =>
        From.bind (from_modify fun _ => rfl) fun _ => from_pure _
    · split
      · rename_i fault failed
        apply Keeps.fail
        exact (state.graph.textDatum_failsOnly id fault failed).imp_right becomes.valueless
      · exact From.bind (from_modify fun _ => rfl) fun _ => from_pure _

/-- An entry comes from the nodes. -/
theorem from_entry (nodes : Entry) : From graph (entry nodes) := by
  refine (from_datum nodes.1).bind fun key => ?_
  split
  · exact from_broken
  · exact (from_datum nodes.2).bind fun _ => from_pure _

/-- A pair comes from the nodes. -/
theorem from_pair (id : NodeId) : From graph (pair id) := by
  apply Keeps.get
  intro state becomes
  split
  · exact (from_datum _).bind fun _ => (from_datum _).bind fun _ => from_pure _
  · exact from_broken

/-- The entries of a mapping come from the nodes. That it is a mapping is known of the state before
the step only, so this is said of that state. -/
theorem resolvedEntries_yields {id : NodeId} {state : Construction}
    (becomes : graph.Becomes state.graph) (mapping : (state.graph.node id).content.IsMapping) :
    Yields (fun fault => fault = .malformed ∨ Valueless graph fault)
      (fun (_, after) => graph.Becomes after.graph) ((resolvedEntries id).run state) := by
  have resolved := Graph.sound_resolve state.graph id mapping
  have entries (after : Graph) (becomesAfter : graph.Becomes after) :
      From graph (do
        set { state with graph := after }
        let found ← (after.entries id).mapM entry
        pure (Datum.ofEntries found)) :=
    From.bind (Keeps.set becomesAfter) fun _ =>
      From.bind (Keeps.mapM from_entry _) fun _ => from_pure _
  unfold resolvedEntries
  rw [StateT.run_bind, StateT.run_get, pure_bind]
  split
  · rename_i fault failed
    exact .error (.inl (resolved.failsOnly fault failed))
  · rename_i after done
    exact entries after (becomes.trans (resolved.result after done)) state becomes

/-- The content of a collection comes from the nodes. -/
theorem from_collection (id : NodeId) : From graph (collection id) := by
  apply Keeps.of_get
  intro state becomes
  have mapping {tag : Tag} {entries : List Entry}
      (node : state.graph.node id = ⟨tag, .mapping entries⟩) :
      (state.graph.node id).content.IsMapping := ⟨entries, by rw [node]⟩
  split
  · exact From.bind (Keeps.mapM from_datum _) (fun _ => from_pure _) state becomes
  · exact From.bind (Keeps.mapM from_pair _) (fun _ => from_pure _) state becomes
  · exact From.bind (Keeps.mapM from_pair _) (fun _ => from_pure _) state becomes
  · rename_i node
    rw [StateT.run_bind]
    exact (resolvedEntries_yields becomes (mapping node)).bind fun (_, after) kept => .ok kept
  · rename_i node
    rw [StateT.run_bind]
    exact (resolvedEntries_yields becomes (mapping node)).bind fun (_, after) kept => .ok kept
  · exact from_broken state becomes

/-- The collections that wait for their content get it from the nodes. -/
theorem from_complete (fuel : Nat) (ids : List NodeId) : From graph (complete fuel ids) := by
  induction fuel generalizing ids with
  | zero =>
    cases ids <;> exact from_pure _
  | succ fuel inductionHypothesis =>
    cases ids with
    | cons id ids =>
      rw [complete]
      exact (from_collection id).bind fun _ =>
        From.bind (from_modify fun _ => rfl) fun _ => inductionHypothesis ids
    | nil =>
      rw [complete]
      apply Keeps.get
      intro state becomes
      split
      · exact from_pure _
      · exact From.bind (from_modify fun _ => rfl) fun _ => inductionHypothesis _

end Constructor

/-- A document gives no data when a rule is broken, or for want of the value of one of its
nodes. -/
theorem Data.ofDocument_failsOnly (document : Document) :
    FailsOnly (fun fault => fault = .malformed ∨ Valueless document.graph fault)
      (Data.ofDocument document) := by
  have made : Constructor.From document.graph (Constructor.document document) :=
    (Constructor.from_datum document.root).bind fun _ =>
      (Constructor.from_complete _ _).bind fun _ => Constructor.from_pure _
  unfold Data.ofDocument
  exact .bind (made _ (.refl document.graph)).failsOnly fun _ => .ok _

/-- A text gives no data when a rule is broken, when its tokens end at an escape beyond the code
points or at a number in a directive with too many digits, or for want of the value of a node of
its document. -/
theorem read_failsOnly (text : List Char) :
    FailsOnly (fun fault => fault = .malformed ∨ Breaks text fault) (read text) := by
  unfold read
  refine .choice (.error (.inl rfl)) ?_
  intro fault failed
  rcases error_of_bind failed with early | ⟨found, composed, late⟩
  · rcases Document.ofTokens_blamed _ fault early with broken | ended
    · exact .inl broken
    · cases tokens_blamed text fault ended with
      | malformed => exact .inl rfl
      | escape beyond lacking => exact .inr (.escape ended beyond lacking)
      | version long => exact .inr (.version ended long)
  · cases found with
    | none => cases late
    | some document =>
      exact (Data.ofDocument_failsOnly document fault late).imp_right (.node composed)

end InfraReview.Yaml
