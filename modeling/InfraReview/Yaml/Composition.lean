import InfraReview.Yaml.PlainTag
import InfraReview.Yaml.Tokens

/-!
# Nodes from tokens

The tokens of a text are put together to the one document in it. A sequence, a mapping or
a text may have an anchor and a tag before it, in either order; where a node is missing,
there is an empty text. Inside brackets a key alone, a value alone and a pair in a
sequence have forms of their own.

A name may be given to one node only, and an alias needs a node of that name before it or
around it. A second document is an error.
-/

namespace InfraReview.Yaml

/-- The state of putting nodes together: the tokens left, the fault that follows them, the
handles that shorten tags, the nodes that the anchors name, and the nodes so far. -/
structure Composition where
  tokens : List Token
  ending : Fault
  handles : List (String × String)
  anchors : List (String × NodeId)
  graph : Graph

/-- A step of putting nodes together. -/
abbrev Composer := StateT Composition (Except Fault)

namespace Composer

/-- Gives up. -/
def reject {α : Type} (fault : Fault) : Composer α := fun _ => .error fault

/-- The next token, which stays. -/
def peek : Composer Token := do
  let state ← get
  match state.tokens with
  | [] => reject state.ending
  | token :: _ => pure token

/-- Goes on to the token after the next. -/
def skip : Composer Unit := modify fun state => { state with tokens := state.tokens.drop 1 }

/-- Takes the next token if it is the given one. -/
def skipIf (token : Token) : Composer Bool := do
  if (← peek) = token then
    skip
    pure true
  else pure false

/-- Takes the next token, which has to be the given one. -/
def expect (token : Token) : Composer Unit := do
  unless ← skipIf token do
    reject .malformed

/-- True when the next token is one of those given. -/
def sees (tokens : List Token) : Composer Bool := do
  pure (tokens.contains (← peek))

/-- The anchor at the next token, if there is one. -/
def anchor? : Composer (Option String) := do
  match ← peek with
  | .anchor name =>
    skip
    pure (some name)
  | _ => pure none

/-- The tag at the next token, if there is one. -/
def tag? : Composer (Option TagName) := do
  match ← peek with
  | .tag name =>
    skip
    pure (some name)
  | _ => pure none

/-- What stands before a node: an anchor and a tag, in either order. -/
def properties : Composer (Option String × Option TagName) := do
  match ← anchor? with
  | some anchor => pure (some anchor, ← tag?)
  | none =>
    match ← tag? with
    | some tag => pure (← anchor?, some tag)
    | none => pure (none, none)

/-- The whole name of a tag. -/
def fullName (tag : TagName) : Composer String := do
  match tag.handle with
  | none => pure tag.suffix
  | some handle =>
    match (← get).handles.lookup handle with
    | some start => pure (start ++ tag.suffix)
    | none => reject .malformed

/-- The tag of a text. An exclamation mark alone leaves the choice to the form of the
text, as no tag does for plain text; other text without a tag is just that. -/
def textTag (name : Option String) (plain : Bool) (text : String) : Tag :=
  match name with
  | none => if plain then .ofPlain text else .text
  | some "!" => .ofPlain text
  | some name => .ofName name

/-- The tag of a collection that has `fallback` if none is given. -/
def collectionTag (name : Option String) (fallback : Tag) : Tag :=
  match name with
  | none => fallback
  | some "!" => fallback
  | some name => .ofName name

/-- Adds a node. -/
def add (node : Node) : Composer NodeId := do
  let state ← get
  let (id, graph) := state.graph.add node
  set { state with graph }
  pure id

/-- Adds an empty text without a tag. -/
def emptyNode : Composer NodeId := add ⟨.ofPlain "", .text ""⟩

/-- Checks that a name is not given to a node yet. -/
def claim (anchor : Option String) : Composer Unit := do
  match anchor with
  | none => pure ()
  | some name =>
    if ((← get).anchors.lookup name).isSome then reject .malformed

/-- Lets an anchor name a node. -/
def define (anchor : Option String) (id : NodeId) : Composer Unit := do
  match anchor with
  | none => pure ()
  | some name => modify fun state => { state with anchors := (name, id) :: state.anchors }

/-- The node that an alias stands for. -/
def aliased (name : String) : Composer NodeId := do
  match (← get).anchors.lookup name with
  | some id => pure id
  | none => reject .malformed

/-- A collection, of which `read` reads the content. Its anchor names it already inside. -/
def collection (anchor : Option String) (tag : Tag) (read : Composer Content) :
    Composer NodeId := do
  claim anchor
  let id ← add ⟨tag, .sequence []⟩
  define anchor id
  let content ← read
  modify fun state => { state with graph := state.graph.put id ⟨tag, content⟩ }
  pure id

/-- A text. -/
def text (anchor : Option String) (tag : Tag) (content : String) : Composer NodeId := do
  claim anchor
  let id ← add ⟨tag, .text content⟩
  define anchor id
  pure id

mutual

/-- The next node. Outside of brackets it may be a collection that is written by
indentation; as a key or a value it may be a sequence that is not indented itself. -/
def node (inBlock unindented : Bool) : Nat → Composer NodeId
  | 0 => reject .malformed
  | fuel + 1 => do
    match ← peek with
    | .alias name =>
      skip
      aliased name
    | _ =>
      let (anchor, tagName) ← properties
      let name ← tagName.mapM fullName
      match ← peek with
      | .blockEntry =>
        if unindented then
          collection anchor (collectionTag name .sequence) do
            pure (.sequence (← unindentedItems fuel))
        else bare anchor name
      | .scalar plain content =>
        skip
        text anchor (textTag name plain content) content
      | .flowSequenceStart =>
        collection anchor (collectionTag name .sequence) do
          skip
          pure (.sequence (← flowItems true fuel))
      | .flowMappingStart =>
        collection anchor (collectionTag name .mapping) do
          skip
          pure (.mapping (← flowEntries true fuel))
      | .blockSequenceStart =>
        if inBlock then
          collection anchor (collectionTag name .sequence) do
            skip
            pure (.sequence (← blockItems fuel))
        else bare anchor name
      | .blockMappingStart =>
        if inBlock then
          collection anchor (collectionTag name .mapping) do
            skip
            pure (.mapping (← blockEntries fuel))
        else bare anchor name
      | _ => bare anchor name
where
  /-- The empty text after an anchor or a tag; without both, a node is missing. -/
  bare (anchor name : Option String) : Composer NodeId :=
    if anchor.isSome || name.isSome then text anchor (textTag name true "") ""
    else reject .malformed

/-- The items of an indented sequence up to its end. -/
def blockItems : Nat → Composer (List NodeId)
  | 0 => reject .malformed
  | fuel + 1 => do
    if ← skipIf .blockEntry then
      let item ←
        if ← sees [.blockEntry, .blockEnd] then emptyNode else node true false fuel
      pure (item :: (← blockItems fuel))
    else
      expect .blockEnd
      pure []

/-- The items of a sequence without an indentation of its own. -/
def unindentedItems : Nat → Composer (List NodeId)
  | 0 => reject .malformed
  | fuel + 1 => do
    if ← skipIf .blockEntry then
      let item ←
        if ← sees [.blockEntry, .key, .value, .blockEnd] then emptyNode
        else node true false fuel
      pure (item :: (← unindentedItems fuel))
    else pure []

/-- The entries of an indented mapping up to its end. -/
def blockEntries : Nat → Composer (List Entry)
  | 0 => reject .malformed
  | fuel + 1 => do
    if ← skipIf .key then
      let key ← blockPart fuel
      let value ← if ← skipIf .value then blockPart fuel else emptyNode
      pure ((key, value) :: (← blockEntries fuel))
    else
      expect .blockEnd
      pure []

/-- A key or a value of an indented mapping. -/
def blockPart : Nat → Composer NodeId
  | 0 => reject .malformed
  | fuel + 1 => do
    if ← sees [.key, .value, .blockEnd] then emptyNode else node true true fuel

/-- The items of a bracketed sequence up to its end. -/
def flowItems (isFirst : Bool) : Nat → Composer (List NodeId)
  | 0 => reject .malformed
  | fuel + 1 => do
    if ← skipIf .flowSequenceEnd then pure []
    else
      unless isFirst do
        expect .flowEntry
      if ← skipIf .flowSequenceEnd then pure []
      else
        let item ← flowItem fuel
        pure (item :: (← flowItems false fuel))

/-- An item of a bracketed sequence: a node, or a pair of a key and a value. -/
def flowItem : Nat → Composer NodeId
  | 0 => reject .malformed
  | fuel + 1 => do
    if ← skipIf .key then
      let key ←
        if ← sees [.value, .flowEntry, .flowSequenceEnd] then emptyNode
        else node false false fuel
      let value ←
        if ← skipIf .value then
          if ← sees [.flowEntry, .flowSequenceEnd] then emptyNode else node false false fuel
        else emptyNode
      add ⟨.mapping, .mapping [(key, value)]⟩
    else node false false fuel

/-- The entries of a bracketed mapping up to its end. -/
def flowEntries (isFirst : Bool) : Nat → Composer (List Entry)
  | 0 => reject .malformed
  | fuel + 1 => do
    if ← skipIf .flowMappingEnd then pure []
    else
      unless isFirst do
        expect .flowEntry
      if ← skipIf .flowMappingEnd then pure []
      else
        let entry ← flowPair fuel
        pure (entry :: (← flowEntries false fuel))

/-- An entry of a bracketed mapping: a key with a value or without, or a node alone. -/
def flowPair : Nat → Composer Entry
  | 0 => reject .malformed
  | fuel + 1 => do
    if ← skipIf .key then
      let key ←
        if ← sees [.value, .flowEntry, .flowMappingEnd] then emptyNode
        else node false false fuel
      let value ←
        if ← skipIf .value then
          if ← sees [.flowEntry, .flowMappingEnd] then emptyNode else node false false fuel
        else emptyNode
      pure (key, value)
    else
      let key ← node false false fuel
      pure (key, ← emptyNode)

end

/-- The handles that every document knows. -/
def standardHandles : List (String × String) := [("!", "!"), ("!!", tagStart)]

/-- Reads the directives before a document. At most one gives a version, which has to be
that of a major version one, and a handle is given once. -/
def directives (hasVersion : Bool) (handles : List (String × String)) :
    Nat → Composer (List (String × String))
  | 0 => reject .malformed
  | fuel + 1 => do
    match ← peek with
    | .directive (.version major) =>
      skip
      if hasVersion || major != 1 then reject .malformed else directives true handles fuel
    | .directive (.handle name start) =>
      skip
      if (handles.lookup name).isSome then reject .malformed
      else directives hasVersion ((name, start) :: handles) fuel
    | .directive .other =>
      skip
      directives hasVersion handles fuel
    | _ => pure handles

/-- Passes over marks that end documents. -/
def skipDocumentEnds : Nat → Composer Unit
  | 0 => pure ()
  | fuel + 1 => do
    if ← skipIf .documentEnd then skipDocumentEnds fuel

/-- The content of a document after its start was marked. -/
def content (fuel : Nat) : Composer NodeId := do
  match ← peek with
  | .directive _ => emptyNode
  | .documentStart => emptyNode
  | .documentEnd => emptyNode
  | .streamEnd => emptyNode
  | _ => node true false fuel

/-- A document of which the start is marked, unless the text ends first. -/
def markedDocument (fuel : Nat) : Composer (Option NodeId) := do
  skipDocumentEnds fuel
  if ← sees [.streamEnd] then pure none
  else
    let handles ← directives false [] fuel
    expect .documentStart
    modify fun state => { state with handles := handles ++ standardHandles }
    pure (some (← content fuel))

/-- The first document of a text. Its start need not be marked. -/
def firstDocument (fuel : Nat) : Composer (Option NodeId) := do
  match ← peek with
  | .directive _ => markedDocument fuel
  | .documentStart => markedDocument fuel
  | .streamEnd => pure none
  | _ => pure (some (← node true false fuel))

/-- The one document of a text, if it has any. -/
def document (fuel : Nat) : Composer (Option NodeId) := do
  match ← firstDocument fuel with
  | none => pure none
  | some found =>
    skipDocumentEnds fuel
    if ← sees [.streamEnd] then pure (some found)
    else
      let _ ← directives false [] fuel
      reject .malformed

end Composer

/-- The document that the tokens of a text give, if there is one. Every other step takes a
token, and a step never takes more than two calls. -/
def Document.ofTokens (tokens : Tokens) : Except Fault (Option Document) := do
  let start : Composition :=
    ⟨tokens.tokens, tokens.fault.getD .malformed, Composer.standardHandles, [], .empty⟩
  let (root, composed) ← (Composer.document (4 * tokens.tokens.length + 8)).run start
  .ok (root.map fun root => ⟨root, composed.graph⟩)

end InfraReview.Yaml
