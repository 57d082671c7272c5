import InfraReview.Yaml.Fault
import InfraReview.Yaml.Node

/-!
# Merge keys

An entry under the merge key brings in the entries of another mapping, or of several of which
the earlier ones win. They come before the entries of the mapping itself, which win over all
of them. Resolving a mapping puts what its merge keys bring in into their place, and the same
is done to the mappings that it merges; a key that is the sign for the value of a mapping
becomes a text then.

A mapping may merge itself, or one that merges it in turn. Then it is resolved a second time
before the first time has come to its end: that one removes the merge keys that were left.
-/

namespace InfraReview.Yaml.Graph

/-- A way to resolve the merge keys of a mapping. -/
abbrev Resolver := Graph → NodeId → Except Fault Graph

/-- The entries that a list of mappings brings in, those of the last one first. -/
def mergedFromItems (resolve : Resolver) (graph : Graph) :
    List NodeId → Except Fault (List Entry × Graph)
  | [] => .ok ([], graph)
  | item :: items =>
    match (graph.node item).content with
    | .mapping _ => do
      let resolved ← resolve graph item
      let (others, last) ← mergedFromItems resolve resolved items
      .ok (others ++ resolved.entries item, last)
    | _ => .error .malformed

/-- The entries that the node under a merge key brings in. -/
def mergedFrom (resolve : Resolver) (graph : Graph) (id : NodeId) :
    Except Fault (List Entry × Graph) :=
  match (graph.node id).content with
  | .mapping _ => do
    let resolved ← resolve graph id
    .ok (resolved.entries id, resolved)
  | .sequence items => mergedFromItems resolve graph items
  | .text _ => .error .malformed

/-- Resolves the entries of a mapping one by one: `kept` are those before them, and `merged`
those brought in so far. When the mapping was resolved meanwhile, nothing is left to do. -/
def resolveEntries (resolve : Resolver) (id : NodeId) (kept merged : List Entry) :
    List Entry → Graph → Except Fault Graph
  | [], graph => .ok (graph.setEntries id (merged ++ kept))
  | (key, value) :: rest, graph =>
    match graph.tag key with
    | .merge => do
      let left := kept ++ rest
      let (found, after) ← mergedFrom resolve (graph.setEntries id left) value
      if after.entries id = left then resolveEntries resolve id kept (merged ++ found) rest after
      else .ok (after.setEntries id (merged ++ found ++ after.entries id))
    | .value =>
      resolveEntries resolve id (kept ++ [(key, value)]) merged rest (graph.retag key .text)
    | _ => resolveEntries resolve id (kept ++ [(key, value)]) merged rest graph

/-- Resolves a mapping and those it merges, up to a depth. -/
def resolveWithin : Nat → Resolver
  | 0, graph, _ => .ok graph
  | depth + 1, graph, id =>
    resolveEntries (resolveWithin depth) id [] [] (graph.entries id) graph

/-- The number of entries of all mappings. -/
def entryCount (graph : Graph) : Nat :=
  graph.nodes.foldl
    (fun count node =>
      match node.content with
      | .mapping entries => count + entries.length
      | _ => count)
    0

/-- Resolves the merge keys of a mapping. Each mapping inside another one is reached through
a merge key that has just been removed, so there are no more of them than entries. -/
def resolve : Resolver := fun graph id => resolveWithin (graph.entryCount + 1) graph id

end InfraReview.Yaml.Graph
