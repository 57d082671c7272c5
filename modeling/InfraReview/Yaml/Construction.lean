import InfraReview.Yaml.Merging
import InfraReview.Yaml.ScalarValue
import InfraReview.Yaml.SetOrder

/-!
# Data of nodes

The data of a node follows from its tag: texts and collections of the sort that the tag
asks for. A node has the same data wherever it stands. A collection gets its place at once and
its content later, after all collections that got their places before it: so of several
faults in a document the one nearest to its root counts, and of those at one distance the
first in the text. A key that is a collection is a fault of the mapping it stands in.

The merge keys of a map or a set are resolved when it gets its content, or before that when
another one merges it.
-/

namespace InfraReview.Yaml

/-- The state of making data: the nodes, the data of nodes so far, the collections, and the
nodes of those that wait for their content, the last one first. -/
structure Construction where
  graph : Graph
  made : Array (Option Datum)
  store : Store
  waiting : List NodeId

/-- A step of making data. -/
abbrev Constructor := StateT Construction (Except Fault)

/-- True for the tags of collections. -/
def Tag.isCollection : Tag → Bool
  | .sequence | .mapping | .set | .orderedMap | .pairs => true
  | _ => false

/-- The text of a node for a tag that asks for one. A mapping gives that under the first sign
for its value. -/
def Graph.textOf? (graph : Graph) : Nat → NodeId → Option String
  | 0, _ => none
  | depth + 1, id =>
    match (graph.node id).content with
    | .text characters => some characters
    | .sequence _ => none
    | .mapping entries =>
      (entries.find? fun entry => graph.tag entry.1 = .value).bind fun entry =>
        graph.textOf? depth entry.2

/-- The data of a node whose tag asks for a text. The text of a mapping is no timestamp. -/
def Graph.textDatum (graph : Graph) (id : NodeId) : Except Fault Datum :=
  match graph.textOf? (graph.size + 1) id with
  | none => .error .malformed
  | some text =>
    match graph.node id with
    | ⟨.timestamp, .mapping _⟩ => .error .timestampOfMapping
    | ⟨tag, _⟩ => datumOfText id tag text

namespace Constructor

/-- Gives up. -/
def reject {α : Type} (fault : Fault) : Constructor α := fun _ => .error fault

/-- Lets a node have data. -/
def record (id : NodeId) (found : Datum) : Constructor Unit :=
  modify fun state => { state with made := state.made.setIfInBounds id (some found) }

/-- The data of a node. A collection has its node's number as its place. -/
def datum (id : NodeId) : Constructor Datum := do
  let state ← get
  match state.made[id]?.join with
  | some found => pure found
  | none =>
    if (state.graph.tag id).isCollection then
      record id (.collection id)
      modify fun state => { state with waiting := id :: state.waiting }
      pure (.collection id)
    else
      match state.graph.textDatum id with
      | .error fault => reject fault
      | .ok found =>
        record id found
        pure found

/-- The data of an entry of a map, of which the key is no collection. -/
def entry (nodes : Entry) : Constructor (Datum × Datum) := do
  match ← datum nodes.1 with
  | .collection _ => reject .malformed
  | key => pure (key, ← datum nodes.2)

/-- The pair that a node gives, which is a mapping with a single entry. -/
def pair (id : NodeId) : Constructor Datum := do
  match (← get).graph.node id with
  | ⟨_, .mapping [(key, value)]⟩ =>
    let first ← datum key
    pure (.pair first (← datum value))
  | _ => reject .malformed

/-- The data of the entries of a mapping after its merge keys are resolved. -/
def resolvedEntries (id : NodeId) : Constructor (List (Datum × Datum)) := do
  let state ← get
  match state.graph.resolve id with
  | .error fault => reject fault
  | .ok graph =>
    set { state with graph }
    let found ← (graph.entries id).mapM entry
    pure (Datum.ofEntries found)

/-- The content of a collection. -/
def collection (id : NodeId) : Constructor Collection := do
  match (← get).graph.node id with
  | ⟨.sequence, .sequence items⟩ => pure (.list (← items.mapM datum))
  | ⟨.orderedMap, .sequence items⟩ => pure (.list (← items.mapM pair))
  | ⟨.pairs, .sequence items⟩ => pure (.list (← items.mapM pair))
  | ⟨.mapping, .mapping _⟩ => pure (.map (← resolvedEntries id))
  | ⟨.set, .mapping _⟩ =>
    let entries ← resolvedEntries id
    pure (.set (SetOrder.arrange (entries.map (·.1))))
  | _ => reject .malformed

/-- Gives the collections of `ids` their content, then those that got their places meanwhile,
and so on until none waits for it. -/
def complete : Nat → List NodeId → Constructor Unit
  | 0, _ => pure ()
  | fuel + 1, id :: ids => do
    let found ← collection id
    modify fun state => { state with store := state.store.put id found }
    complete fuel ids
  | fuel + 1, [] => do
    match (← get).waiting.reverse with
    | [] => pure ()
    | ids =>
      modify fun state => { state with waiting := [] }
      complete fuel ids

/-- The data of a document. Every node waits for its content once at most, and there are no
more turns than nodes. -/
def document (found : Document) : Constructor Datum := do
  let root ← datum found.root
  complete (2 * found.graph.size + 2) []
  pure root

end Constructor

/-- The data that a document stands for. -/
def Data.ofDocument (document : Document) : Except Fault Data := do
  let size := document.graph.size
  let start : Construction := ⟨document.graph, .replicate size none, .ofSize size, []⟩
  let (root, made) ← (Constructor.document document).run start
  .ok ⟨root, made.store⟩

end InfraReview.Yaml
