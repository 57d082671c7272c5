import InfraReview.Entity
import InfraReview.Hcl.Literal

/-!
# Bodies

A body does not say which of its entries are blocks, except that the map of a block
carries the line on which it starts. A list in which every item leads to such a marked
map is a list of blocks; the keys on the way to a marked map are the labels of its
block. Everything else is an attribute, which is kept when its value is a literal other
than null.
-/

namespace InfraReview.Hcl

/-- A marked map with the labels on the way to it. -/
structure LabelledBody where
  labels : List String
  entries : List (Key × Tree)

/-- The label of a key, without quotes. Only a text has one. -/
def label : Key → Except LiteralFault String
  | .text content => .ok (unquote content)
  | .null => .error (.labelWithoutLength "NoneType")
  | .bool _ => .error (.labelWithoutLength "bool")
  | .int _ => .error (.labelWithoutLength "int")
  | .double _ => .error (.labelWithoutLength "float")

/-- True for the entries of a map that is marked as the body of a block. -/
def isMarked (entries : List (Key × Tree)) : Bool :=
  (Tree.entry? entries startLineKey).isSome

mutual

/-- The outermost marked maps in a value, in order, with the labels on the way to them
after those in `labels`. -/
def unwrapLabels (labels : List String) : Tree → Except LiteralFault (List LabelledBody)
  | .map entries =>
    if isMarked entries then .ok [⟨labels, entries⟩] else unwrapEntries labels entries
  | _ => .ok []

/-- The outermost marked maps in the values of entries. -/
def unwrapEntries (labels : List String) :
    List (Key × Tree) → Except LiteralFault (List LabelledBody)
  | [] => .ok []
  | (key, inner) :: entries => do
    let next ← label key
    let found ← unwrapLabels (labels ++ [next]) inner
    let others ← unwrapEntries labels entries
    .ok (found ++ others)

end

/-- The marked maps in items, in order; nothing when some item has none. -/
def bodiesOfItems : List Tree → Except LiteralFault (Option (List LabelledBody))
  | [] => .ok (some [])
  | item :: items => do
    let found ← unwrapLabels [] item
    if found.isEmpty then .ok none
    else
      let others ← bodiesOfItems items
      .ok (others.map (found ++ ·))

/-- The bodies of blocks that a value holds; nothing for the value of an attribute. -/
def blockBodies : Tree → Except LiteralFault (Option (List LabelledBody))
  | .list [] => .ok none
  | .list items => bodiesOfItems items
  | _ => .ok none

/-- The line in the mark of a body. A mark that the text itself gives may be any value,
which is then asked for an integer. -/
def markedLine (entries : List (Key × Tree)) : Except LiteralFault Int :=
  let found : Except Numeral.Fault Int :=
    match Tree.entry? entries startLineKey with
    | none => .ok 0
    | some (.int value) => .ok value
    | some (.bool value) => .ok (Numeral.ofBool value)
    | some (.double value) => Numeral.ofDouble value
    | some (.text content) => Numeral.ofText content
    | some .null => .error (.notANumber "NoneType")
    | some (.list _) => .error (.notANumber "list")
    | some (.map _) => .error (.notANumber "dict")
  found.mapError .line

/-- Attributes after one more is written: a name that occurs keeps its place and takes
the new value. -/
def setAttribute (attributes : Attributes) (name : String) (value : Value) : Attributes :=
  match attributes with
  | [] => [(name, value)]
  | (other, current) :: rest =>
    if other = name then (other, value) :: rest
    else (other, current) :: setAttribute rest name value

/-- Blocks after more of a type are added behind those that there are. -/
def addBlocks (blocks : NestedBlocks) (type : Key) (more : List Block) : NestedBlocks :=
  match blocks with
  | [] => [(type, more)]
  | (other, current) :: rest =>
    if other = type then (other, current ++ more) :: rest
    else (other, current) :: addBlocks rest type more

/-- True for the keys that mark a body. -/
def isMarkKey (key : Key) : Bool := key == .text startLineKey || key == .text endLineKey

mutual

/-- The attributes and the blocks in the entries of a body, after those that there are
already. -/
def readEntries (attributes : Attributes) (blocks : NestedBlocks) :
    List (Key × Tree) → Except LiteralFault (Attributes × NestedBlocks)
  | [] => .ok (attributes, blocks)
  | (key, tree) :: entries => do
    if isMarkKey key then readEntries attributes blocks entries
    else
      match ← blockBodies tree with
      | some _ =>
        let more ← readBlocks key tree
        readEntries attributes (addBlocks blocks key more) entries
      | none =>
        match ← literal tree with
        | .value value =>
          let name ← label key
          readEntries (setAttribute attributes name value) blocks entries
        | _ => readEntries attributes blocks entries

/-- The blocks of a type in a value that holds blocks. -/
def readBlocks (type : Key) : Tree → Except LiteralFault (List Block)
  | .list items => readItems type items
  | _ => .ok []

/-- The blocks of a type in items, in order. -/
def readItems (type : Key) : List Tree → Except LiteralFault (List Block)
  | [] => .ok []
  | item :: items => do
    let found ← readLabelled type [] item
    let others ← readItems type items
    .ok (found ++ others)

/-- The blocks of a type in an item, with the labels on the way to them after those in
`labels`. -/
def readLabelled (type : Key) (labels : List String) :
    Tree → Except LiteralFault (List Block)
  | .map entries => do
    if isMarked entries then
      let (attributes, blocks) ← readEntries [] [] entries
      let line ← markedLine entries
      .ok [⟨type, labels, attributes, blocks, line⟩]
    else readUnder type labels entries
  | _ => .ok []

/-- The blocks of a type in the values of entries, each under the label of its key. -/
def readUnder (type : Key) (labels : List String) :
    List (Key × Tree) → Except LiteralFault (List Block)
  | [] => .ok []
  | (key, inner) :: entries => do
    let next ← label key
    let found ← readLabelled type (labels ++ [next]) inner
    let others ← readUnder type labels entries
    .ok (found ++ others)

end

/-- The block of a type that a labelled body describes. -/
def toBlock (type : Key) (body : LabelledBody) : Except LiteralFault Block := do
  let (attributes, blocks) ← readEntries [] [] body.entries
  let line ← markedLine body.entries
  .ok ⟨type, body.labels, attributes, blocks, line⟩

/-- The blocks in the entries of a whole text, grouped by type. -/
def topBlocks : List (Key × Tree) → Except LiteralFault (List Block)
  | [] => .ok []
  | (key, tree) :: entries => do
    match ← blockBodies tree with
    | none => topBlocks entries
    | some bodies =>
      let found ← bodies.mapM (toBlock key)
      let others ← topBlocks entries
      .ok (found ++ others)

/-- The blocks in the entries of a whole text in the order of their lines; blocks of one
line keep their order. -/
def blocksInOrder (entries : List (Key × Tree)) : Except LiteralFault (List Block) :=
  (topBlocks entries).map fun blocks => blocks.mergeSort fun a b => a.line ≤ b.line

/-- An attribute that is not kept because its value is no literal, and the type of the
block it stands in. -/
structure Dropped where
  name : Key
  type : Key
  deriving DecidableEq

mutual

/-- The attributes that are not kept in the entries of a block of a type, those of inner
blocks in their places. -/
def droppedEntries (type : Key) : List (Key × Tree) → List Dropped
  | [] => []
  | (key, tree) :: entries =>
    if isMarkKey key then droppedEntries type entries
    else
      match blockBodies tree with
      | .ok (some _) => droppedBlocks key tree ++ droppedEntries type entries
      | _ =>
        match literal tree with
        | .ok .unresolved => ⟨key, type⟩ :: droppedEntries type entries
        | _ => droppedEntries type entries

/-- The attributes that are not kept in the blocks of a value. -/
def droppedBlocks (type : Key) : Tree → List Dropped
  | .list items => droppedItems type items
  | _ => []

/-- The attributes that are not kept in the blocks of items. -/
def droppedItems (type : Key) : List Tree → List Dropped
  | [] => []
  | item :: items => droppedLabelled type item ++ droppedItems type items

/-- The attributes that are not kept in the blocks of one item. -/
def droppedLabelled (type : Key) : Tree → List Dropped
  | .map entries =>
    if isMarked entries then droppedEntries type entries else droppedUnder type entries
  | _ => []

/-- The attributes that are not kept in the blocks under labels. -/
def droppedUnder (type : Key) : List (Key × Tree) → List Dropped
  | [] => []
  | (_, inner) :: entries => droppedLabelled type inner ++ droppedUnder type entries

end

/-- The attributes that are not kept in a whole text. -/
def droppedTop : List (Key × Tree) → List Dropped
  | [] => []
  | (key, tree) :: entries =>
    match blockBodies tree with
    | .ok (some bodies) =>
      bodies.flatMap (fun body => droppedEntries key body.entries) ++ droppedTop entries
    | _ => droppedTop entries

end InfraReview.Hcl
