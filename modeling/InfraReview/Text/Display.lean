import InfraReview.Number.Length
import InfraReview.Text.Quoted

/-!
# Displayed data

Messages show data of several formats: documents of a plan, values of a suppression
file, values of source expressions. Each format first says what its values look like,
as an outline of words, texts and collections, and one rule lays the outline out. A
text on its own is shown as it is; inside a collection it stands between quotes. What holds
an integer that is too long is not shown at all.
-/

namespace InfraReview.Text

/-- The look of a value: a word, an integer, a text, or a collection. -/
inductive Display where
  | word (characters : String)
  | integer (value : Int)
  | text (content : String)
  | list (items : List Display)
  | set (items : List Display)
  | pair (first second : Display)
  | map (entries : List (Display × Display))

namespace Display

mutual

/-- The layout of a value inside another one. -/
def inner : Display → String
  | word characters => characters
  | integer value => toString value
  | text content => quoted content
  | list items => "[" ++ innerItems items ++ "]"
  | set [] => "set()"
  | set (item :: items) => "\x7b" ++ innerItems (item :: items) ++ "\x7d"
  | pair first second => "(" ++ inner first ++ ", " ++ inner second ++ ")"
  | map entries => "\x7b" ++ innerEntries entries ++ "\x7d"

/-- Items with a comma and a blank between them. -/
def innerItems : List Display → String
  | [] => ""
  | [item] => inner item
  | item :: items => inner item ++ ", " ++ innerItems items

/-- Entries with a comma and a blank between them. -/
def innerEntries : List (Display × Display) → String
  | [] => ""
  | [(key, value)] => inner key ++ ": " ++ inner value
  | (key, value) :: entries =>
    inner key ++ ": " ++ inner value ++ ", " ++ innerEntries entries

end

/-- The layout of a value on its own. -/
def plain : Display → String
  | text content => content
  | other => other.inner

mutual

/-- True when a value is, or holds, an integer that is too long to be written. -/
def isLong : Display → Bool
  | integer value => InfraReview.isLong value
  | list items => isLongItems items
  | set items => isLongItems items
  | pair first second => isLong first || isLong second
  | map entries => isLongEntries entries
  | _ => false

/-- True when some item is, or holds, an integer that is too long. -/
def isLongItems : List Display → Bool
  | [] => false
  | item :: items => isLong item || isLongItems items

/-- True when some key or value is, or holds, an integer that is too long. -/
def isLongEntries : List (Display × Display) → Bool
  | [] => false
  | (key, value) :: entries => isLong key || isLong value || isLongEntries entries

end

/-- The text of a value on its own, unless it holds an integer that is too long. -/
def written (look : Display) : Except LengthFault String :=
  if look.isLong then .error .written else .ok look.plain

@[simp] theorem written_text (content : String) : (text content).written = .ok content := rfl

@[simp] theorem written_word (characters : String) :
    (word characters).written = .ok characters := rfl

theorem written_eq_ok_iff {look : Display} {content : String} :
    look.written = .ok content ↔ look.isLong = false ∧ look.plain = content := by
  cases long : look.isLong <;> simp [written, long]

theorem written_eq_error_iff {look : Display} {fault : LengthFault} :
    look.written = .error fault ↔ look.isLong = true ∧ fault = .written := by
  cases long : look.isLong <;> simp [written, long, eq_comm]

end Display

end InfraReview.Text
