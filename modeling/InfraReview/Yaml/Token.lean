/-!
# Tokens of YAML text

The tokens mark where collections and documents begin and end, and carry the texts, the
tags and the names between those marks. Collections that are written by indentation have
no marks in the text, only in the tokens.
-/

namespace InfraReview.Yaml

/-- A tag in the text: the handle that shortens its start, if it has one, and the rest. -/
structure TagName where
  handle : Option String
  suffix : String
  deriving DecidableEq, Repr

/-- A line that sets up a document. -/
inductive Directive where
  | version (major : Nat)
  | handle (name start : String)
  | other
  deriving DecidableEq, Repr

/-- A token. -/
inductive Token where
  | directive (content : Directive)
  | documentStart
  | documentEnd
  | streamEnd
  | blockSequenceStart
  | blockMappingStart
  | blockEnd
  | flowSequenceStart
  | flowSequenceEnd
  | flowMappingStart
  | flowMappingEnd
  | blockEntry
  | flowEntry
  | key
  | value
  | alias (name : String)
  | anchor (name : String)
  | tag (name : TagName)
  | scalar (plain : Bool) (text : String)
  deriving DecidableEq, Repr

end InfraReview.Yaml
