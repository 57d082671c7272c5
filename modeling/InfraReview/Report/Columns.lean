import InfraReview.Text.Blank

/-!
# Texts in columns

Rows of texts are written under each other so that their columns line up. A column is as
wide as its longest text, two blanks part it from the next one, and a double line runs
under the first row. No line ends in white space.
-/

namespace InfraReview.Columns

/-- A text with blanks after it up to a width. -/
def padded (width : Nat) (text : String) : String :=
  text ++ String.ofList (List.replicate (width - text.length) ' ')

/-- The widths of the columns, each that of its longest text. All rows have as many texts
as the first one. -/
def widths : List (List String) → List Nat
  | [] => []
  | [row] => row.map String.length
  | row :: rows => List.zipWith max (row.map String.length) (widths rows)

/-- A row with its texts padded to the widths of their columns. -/
def line (columns : List Nat) (row : List String) : String :=
  Text.trimEnd ("  ".intercalate (List.zipWith padded columns row))

/-- The double line under the first row. -/
def rule (columns : List Nat) : String :=
  "  ".intercalate (columns.map fun width => String.ofList (List.replicate width '='))

/-- The lines of rows, of which the first one is the heading. -/
def lines (heading : List String) (rows : List (List String)) : List String :=
  let columns := widths (heading :: rows)
  line columns heading :: rule columns :: rows.map (line columns)

end InfraReview.Columns
