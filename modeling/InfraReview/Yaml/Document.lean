import InfraReview.Yaml.Composition
import InfraReview.Yaml.Construction

/-!
# YAML documents

A text holds at most one document. All its characters have to be printable, apart from
tabs and line ends. Faults of its form come before those of its values, since the data is
made only when the whole document has been put together.
-/

namespace InfraReview.Yaml

/-- A character that may stand in a text. -/
def isAllowed (c : Char) : Bool :=
  let code := c.toNat
  code == 0x09 || code == 0x0A || code == 0x0D || (0x20 ≤ code && code ≤ 0x7E) || code == 0x85
    || (0xA0 ≤ code && code ≤ 0xFFFD) || 0x10000 ≤ code

/-- The data of the document in a text; null if there is none. -/
def read (text : List Char) : Except Fault Data :=
  if !text.all isAllowed then .error .malformed
  else do
    match ← Document.ofTokens (Tokens.ofText text) with
    | none => .ok ⟨.null, .ofSize 0⟩
    | some document => Data.ofDocument document

end InfraReview.Yaml
