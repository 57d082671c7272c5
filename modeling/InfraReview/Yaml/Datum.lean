import InfraReview.Calendar.Moment
import InfraReview.Number.Decimal
import InfraReview.Text.Blank
import InfraReview.Text.Display
import InfraReview.Text.Quoted

/-!
# Data of YAML documents

The data that a document stands for: null, truth values, numbers, texts, dates, moments,
byte strings, and collections of them. The keys of a map are no collections; they keep
the order of their first occurrence, and each has the value that was given last.

A collection may stand in several places and even inside of itself. So collections lie in a
store, and data refers to them by their places in it. Shown in a message, a collection inside
of itself is an ellipsis.
-/

namespace InfraReview.Yaml

/-- The place of a collection in a store. -/
abbrev Place := Nat

/-- The data that a node stands for. A moment may have a distance from universal time, in
minutes. The value that is no number comes from a node; where its own word stands for it,
that does not count. -/
inductive Datum where
  | null
  | bool (flag : Bool)
  | int (number : Int)
  | double (number : Double)
  | notANumber (origin : Option Nat)
  | text (content : String)
  | date (day : Date)
  | moment (time : Moment) (offset : Option Int)
  | bytes (content : List UInt8)
  | pair (first second : Datum)
  | collection (place : Place)
  deriving DecidableEq

/-- A collection of data. -/
inductive Collection where
  | list (items : List Datum)
  | map (entries : List (Datum × Datum))
  | set (items : List Datum)
  deriving DecidableEq

/-- Collections by their places. -/
structure Store where
  collections : Array Collection

/-- The data of a document: the collections in it, and what it is itself. -/
structure Data where
  root : Datum
  store : Store

namespace Store

/-- A store of a number of empty lists. -/
def ofSize (size : Nat) : Store := ⟨Array.replicate size (.list [])⟩

/-- The collection at a place; an empty list where there is none. -/
def get (store : Store) (place : Place) : Collection := store.collections[place]?.getD (.list [])

/-- A store after a collection is put in a place. -/
def put (store : Store) (place : Place) (collection : Collection) : Store :=
  ⟨store.collections.setIfInBounds place collection⟩

/-- A store after a collection is added, and the data that refers to it. -/
def add (store : Store) (collection : Collection) : Datum × Store :=
  (.collection store.collections.size, ⟨store.collections.push collection⟩)

/-- The collection that data is, if it is one. -/
def collection? (store : Store) : Datum → Option Collection
  | .collection place => some (store.get place)
  | _ => none

/-- The entries of data that is a map. -/
def entries? (store : Store) (datum : Datum) : Option (List (Datum × Datum)) :=
  match store.collection? datum with
  | some (.map entries) => some entries
  | _ => none

/-- The items of data that is a list. -/
def items? (store : Store) (datum : Datum) : Option (List Datum) :=
  match store.collection? datum with
  | some (.list items) => some items
  | _ => none

end Store

/-- True for collections that hold nothing. -/
def Collection.isEmpty : Collection → Bool
  | list items => items.isEmpty
  | map entries => entries.isEmpty
  | set items => items.isEmpty

/-- What a collection inside of itself looks like. -/
def Collection.ellipsis : Collection → Text.Display
  | list _ => .word "[...]"
  | map _ => .word "\x7b...\x7d"
  | set _ => .word "set(...)"

namespace Datum

instance : Inhabited Datum := ⟨.null⟩

/-- A distance from universal time in a message. -/
def offsetWord (offset : Int) : String :=
  if offset = 0 then "datetime.timezone.utc"
  else "datetime.timezone(" ++ spanText offset ++ ")"

/-- The numbers of a moment in a message. Seconds and parts of them are left out when
nothing comes after them. -/
def momentWord (time : Moment) (offset : Option Int) : String :=
  let small :=
    if time.microsecond = 0 then if time.second = 0 then [] else [time.second]
    else [time.second, time.microsecond]
  let numbers := [time.date.year, time.date.month, time.date.day, time.hour, time.minute] ++ small
  let parts := numbers.map toString
    ++ (offset.map fun minutes => "tzinfo=" ++ offsetWord minutes).toList
  "datetime.datetime(" ++ ", ".intercalate parts ++ ")"

/-- A date in a message. -/
def dateWord (day : Date) : String :=
  "datetime.date(" ++ ", ".intercalate ([day.year, day.month, day.day].map toString) ++ ")"

/-- What data looks like inside other data in a message, given what collections look like. -/
def display (inside : Place → Text.Display) : Datum → Text.Display
  | null => .word "None"
  | bool flag => .word (if flag then "True" else "False")
  | int number => .integer number
  | double number => .word number.text
  | notANumber _ => .word Double.nan.text
  | text content => .text content
  | date day => .word (dateWord day)
  | moment time offset => .word (momentWord time offset)
  | bytes content => .word (Text.quotedBytes content)
  | pair first second => .pair (first.display inside) (second.display inside)
  | collection place => inside place

/-- A distance from universal time after a time of day. -/
def offsetText (offset : Int) : String :=
  (if offset < 0 then "-" else "+") ++ paddedNumber 2 (offset.natAbs / 60) ++ ":"
    ++ paddedNumber 2 (offset.natAbs % 60)

/-- The value of a truth value or a finite number as a quotient; the truth values are one
and zero. -/
def quotient? : Datum → Option (Int × Nat)
  | bool flag => some (if flag then 1 else 0, 1)
  | int number => some (number, 1)
  | double number => number.toQuotient?
  | _ => none

/-- True when two moments are the same. Those with a distance from universal time are
compared by that time, and none of them is the same as one without. -/
def sameMoment (left right : Moment) (leftOffset rightOffset : Option Int) : Bool :=
  match leftOffset, rightOffset with
  | some first, some second => left.universal first == right.universal second
  | none, none => left == right
  | _, _ => false

/-- True when two data are one key. Numbers are by their value, of whatever sort; what is no
number is one key only with itself. -/
def sameKey (left right : Datum) : Bool :=
  match left.quotient?, right.quotient? with
  | some (a, b), some (c, d) => a * d == c * b
  | none, none =>
    match left, right with
    | moment first firstOffset, moment second secondOffset =>
      sameMoment first second firstOffset secondOffset
    | first, second => first == second
  | _, _ => false

/-- Entries after one more is written: a key that occurs keeps its place and takes the new
value, another one comes last. -/
def setEntry (entries : List (Datum × Datum)) (key value : Datum) : List (Datum × Datum) :=
  match entries with
  | [] => [(key, value)]
  | (other, current) :: rest =>
    if other.sameKey key then (other, value) :: rest
    else (other, current) :: setEntry rest key value

/-- The map of entries, the earlier ones written first. -/
def ofEntries (entries : List (Datum × Datum)) : List (Datum × Datum) :=
  entries.foldl (fun written entry => setEntry written entry.1 entry.2) []

/-- The value of the entry whose key is a text; null when there is none. -/
def member (entries : List (Datum × Datum)) (name : String) : Datum :=
  ((entries.find? fun entry => entry.1.sameKey (.text name)).map (·.2)).getD .null

end Datum

namespace Store

/-- What the collection at a place looks like inside of those at the places `around` it, shown
to a depth. -/
def display (store : Store) : Nat → List Place → Place → Text.Display
  | 0, _, place => (store.get place).ellipsis
  | depth + 1, around, place =>
    if around.contains place then (store.get place).ellipsis
    else
      let inside := Datum.display (store.display depth (place :: around))
      match store.get place with
      | .list items => .list (items.map inside)
      | .map entries => .map (entries.map fun (key, value) => (inside key, inside value))
      | .set items => .set (items.map inside)

/-- The text of data on its own, unless it holds an integer that is too long. No collection is
inside of more than there are. -/
def shown (store : Store) : Datum → Except LengthFault String
  | .date day => .ok day.text
  | .moment time offset => .ok (time.text " " ++ ((offset.map Datum.offsetText).getD ""))
  | other => (other.display (store.display (store.collections.size + 1) [])).written

/-- The text of a field: that of the data without white space around it. That of null is empty,
and of a moment only the date counts. -/
def fieldText (store : Store) : Datum → Except LengthFault String
  | .null => .ok ""
  | .date day => .ok day.shortText
  | .moment time _ => .ok time.date.shortText
  | other => (store.shown other).map Text.trim

/-- Data counts as nothing when it is null, false, zero or empty. -/
def isVacant (store : Store) : Datum → Bool
  | .null => true
  | .bool flag => !flag
  | .int number => number == 0
  | .double (.finite _ m) => m.significand == 0
  | .text content => content.isEmpty
  | .bytes content => content.isEmpty
  | .collection place => (store.get place).isEmpty
  | _ => false

end Store

end InfraReview.Yaml
