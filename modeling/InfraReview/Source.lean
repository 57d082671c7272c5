import InfraReview.BlockTable
import InfraReview.Hcl.Body
import InfraReview.Libraries
import InfraReview.Log

/-!
# Entities in source text

Source text declares entities by its blocks for resources and data sources, in the order
of their lines; blocks of other types are passed over. The first label of such a block
is the kind, the second one the name. The first block without both of them is the error
of the whole text.

Text can be rejected, with its file and a line when it is known, or reading its literals
can break off.
-/

namespace InfraReview.Source

/-- Why source text is rejected. Line zero stands for no line. -/
structure Error where
  file : String
  line : Int
  reason : String
  deriving DecidableEq, Repr

/-- The message of an error, led by its place. -/
def Error.message (error : Error) : String :=
  let file := if error.file.isEmpty then "<source>" else error.file
  let place := if error.line = 0 then file else file ++ ":" ++ toString error.line
  place ++ ": " ++ error.reason

/-- Why source text gives no entities. -/
inductive Fault where
  | rejected (error : Error)
  | broken (fault : Hcl.LiteralFault)
  deriving DecidableEq, Repr

/-- The message of a fault. -/
def Fault.message : Fault → String
  | .rejected error => error.message
  | .broken fault => fault.message

/-- The reason for text that does not have the form of the language. What exactly is
wrong is left open. -/
def malformedReason : String := "<hcl>"

variable [Libraries]

/-- The entries of a text that was read from a file. -/
def entries (content : List Char) (file : String) :
    Except Fault (List (Key × Hcl.Tree)) :=
  (Libraries.readSource content).mapError fun (line : Nat) =>
    .rejected ⟨file, line, malformedReason⟩

/-- The top-level blocks in the entries of a text, in the order of their lines. -/
def blocksOf (found : List (Key × Hcl.Tree)) : Except Fault (List Block) :=
  (Hcl.blocksInOrder found).mapError .broken

/-- The top-level blocks of a text in the order of their lines. -/
def blocks (content : List Char) (file : String) : Except Fault (List Block) := do
  let found ← entries content file
  blocksOf found

/-- The types of blocks that declare entities. -/
def entityTypes : List String := ["resource", "data"]

/-- The entity that a block declares. -/
def toEntity (file : String) (block : Block) : Except Error Entity :=
  match block.labels with
  | kind :: name :: _ =>
    if kind.isEmpty then
      .error ⟨file, block.line, block.type.shown ++ " block has an empty type label"⟩
    else if name.isEmpty then
      .error ⟨file, block.line, block.type.shown ++ " block has an empty name label"⟩
    else
      let isData := block.type == .text "data"
      .ok {
        kind := if isData then BlockTable.dataMark ++ kind else kind
        localName := name
        attributes := block.attributes
        blocks := block.blocks
        fullAddress := none
        mode := if isData then "data" else "managed"
        file := file
        line := block.line }
  | _ =>
    .error ⟨file, block.line, block.type.shown ++ " block requires a type label and a name label"⟩

/-- The entities that blocks declare, in order, unless one is in error. -/
def toEntities (file : String) : List Block → Except Error (List Entity)
  | [] => .ok []
  | block :: blocks => do
    let first ← toEntity file block
    let others ← toEntities file blocks
    .ok (first :: others)

/-- The entities that the entries of a text declare. -/
def ofEntries (file : String) (found : List (Key × Hcl.Tree)) : Except Fault (List Entity) := do
  let blocks ← blocksOf found
  let declared := blocks.filter fun block => entityTypes.any fun type => block.type == .text type
  (toEntities file declared).mapError .rejected

/-- The entities that a text declares. -/
def read (content : List Char) (file : String) : Except Fault (List Entity) := do
  let found ← entries content file
  ofEntries file found

/-- What is noted while a text is read: the attributes that are no literals. -/
def readLog (content : List Char) : List LogEntry :=
  match Libraries.readSource content with
  | .error _ => []
  | .ok found =>
    (Hcl.droppedTop found).map fun dropped =>
      ⟨.debug, "wa_review.normalization.hcl",
        "Attribute " ++ dropped.name.shown ++ " of " ++ dropped.type.shown
          ++ " is not a literal; treating it as absent"⟩

end InfraReview.Source
