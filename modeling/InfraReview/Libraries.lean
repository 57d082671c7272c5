import InfraReview.Hcl.Document
import InfraReview.Yaml.Document

/-!
# Libraries

The text of source files and that of suppression files are read by libraries. What is made of
their answers does not depend on how they get them: source text gives the entries of a body or
the line at fault, and a suppression file gives data or a fault. The readers of this project
are what runs.
-/

namespace InfraReview

/-- The readers that come from libraries. -/
class Libraries where
  readSource : List Char → Except Nat (List (Key × Hcl.Tree))
  readData : List Char → Except Yaml.Fault Yaml.Data

instance : Libraries where
  readSource := Hcl.read
  readData := Yaml.read

end InfraReview
