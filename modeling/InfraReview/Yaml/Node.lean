/-!
# Nodes of a YAML document

A document is made of nodes: texts, sequences and mappings, each with a tag that says what
it stands for. An alias is the very node that its anchor names, which may stand in several
places and even inside of itself. So the nodes of a document are numbered, and a collection
holds the numbers of its nodes.
-/

namespace InfraReview.Yaml

/-- What a node stands for. -/
inductive Tag where
  | null
  | bool
  | int
  | float
  | binary
  | timestamp
  | text
  | sequence
  | mapping
  | set
  | orderedMap
  | pairs
  | merge
  | value
  | other
  deriving DecidableEq, Repr

/-- The beginning that the names of the known tags share. -/
def tagStart : String := "tag:yaml.org,2002:"

/-- The known tags by the end of their names. -/
def tagEnds : List (String × Tag) :=
  [("null", .null), ("bool", .bool), ("int", .int), ("float", .float), ("binary", .binary),
    ("timestamp", .timestamp), ("str", .text), ("seq", .sequence), ("map", .mapping),
    ("set", .set), ("omap", .orderedMap), ("pairs", .pairs), ("merge", .merge), ("value", .value)]

/-- The tag with a name. -/
def Tag.ofName (name : String) : Tag :=
  ((tagEnds.find? fun known => tagStart ++ known.1 == name).map (·.2)).getD .other

/-- The number of a node in its document. -/
abbrev NodeId := Nat

/-- A key and its value in a mapping. -/
abbrev Entry := NodeId × NodeId

/-- What a node holds. -/
inductive Content where
  | text (characters : String)
  | sequence (items : List NodeId)
  | mapping (entries : List Entry)
  deriving DecidableEq, Repr

/-- A node of a document. -/
structure Node where
  tag : Tag
  content : Content
  deriving DecidableEq, Repr

/-- The nodes of a document, by their numbers. -/
structure Graph where
  nodes : Array Node

namespace Graph

/-- A document without nodes. -/
def empty : Graph := ⟨#[]⟩

/-- The number of nodes. -/
def size (graph : Graph) : Nat := graph.nodes.size

/-- The node with a number; an empty text where there is none. -/
def node (graph : Graph) (id : NodeId) : Node := graph.nodes[id]?.getD ⟨.null, .text ""⟩

/-- The nodes after one more is added, and its number. -/
def add (graph : Graph) (node : Node) : NodeId × Graph :=
  (graph.size, ⟨graph.nodes.push node⟩)

/-- The nodes after one of them is replaced. -/
def put (graph : Graph) (id : NodeId) (node : Node) : Graph :=
  ⟨graph.nodes.setIfInBounds id node⟩

/-- The tag of a node. -/
def tag (graph : Graph) (id : NodeId) : Tag := (graph.node id).tag

/-- The entries of a node; one that is no mapping has none. -/
def entries (graph : Graph) (id : NodeId) : List Entry :=
  match (graph.node id).content with
  | .mapping entries => entries
  | _ => []

/-- The nodes after a node is given another tag. -/
def retag (graph : Graph) (id : NodeId) (tag : Tag) : Graph :=
  graph.put id { graph.node id with tag }

/-- The nodes after a node is given other entries. -/
def setEntries (graph : Graph) (id : NodeId) (entries : List Entry) : Graph :=
  graph.put id { graph.node id with content := .mapping entries }

/-- What is put in the place of a node is found there. -/
theorem node_put {graph : Graph} {id : NodeId} (within : id < graph.size) (node : Node) :
    (graph.put id node).node id = node := by
  simp [Graph.node, put, show id < graph.nodes.size from within]

/-- Putting a node in a place leaves all others as they are. -/
theorem node_put_of_ne {graph : Graph} {id other : NodeId} (distinct : id ≠ other) (node : Node) :
    (graph.put id node).node other = graph.node other := by
  simp [Graph.node, put, distinct]

end Graph

/-- A document: its nodes, and the one that all others hang on. -/
structure Document where
  root : NodeId
  graph : Graph

end InfraReview.Yaml
