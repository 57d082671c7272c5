/-!
# Sorting by a comparison that may fail

Items are put in order by a comparison that may break off, and then so does the sorting: which
comparison is made first decides what is to blame. The items at the start that are in order
already, or in the opposite order, are taken over; each further one is put in its place, which
is looked for by halving and lies behind all items that it does not come before.
-/

namespace InfraReview.Sorting

variable {α ε : Type}

/-- Splits off the items that go on with a run after `previous`: those that come before the
item in front of them when the run descends, and those that do not when it ascends. -/
def spanRun (less : α → α → Except ε Bool) (descends : Bool) (previous : α) :
    List α → Except ε (List α × List α)
  | [] => .ok ([], [])
  | item :: items => do
    if (← less item previous) == descends then
      let (run, rest) ← spanRun less descends item items
      .ok (item :: run, rest)
    else .ok ([], item :: items)

/-- The place of an item among the ordered ones between two places. The interval of places is
halved `fuel` times. -/
def placeBetween (less : α → α → Except ε Bool) (ordered : Array α) (item : α) :
    Nat → Nat → Nat → Except ε Nat
  | 0, low, _ => .ok low
  | fuel + 1, low, high =>
    if high ≤ low then .ok low
    else
      let middle := low + (high - low) / 2
      match ordered[middle]? with
      | none => .ok low
      | some other => do
        if ← less item other then placeBetween less ordered item fuel low middle
        else placeBetween less ordered item fuel (middle + 1) high

/-- Ordered items after one more is put in its place. -/
def insert (less : α → α → Except ε Bool) (ordered : Array α) (item : α) :
    Except ε (Array α) := do
  let place ← placeBetween less ordered item (ordered.size + 1) 0 ordered.size
  .ok (ordered.extract 0 place ++ #[item] ++ ordered.extract place ordered.size)

/-- Ordered items after others are put in their places one by one. -/
def insertAll (less : α → α → Except ε Bool) (ordered : Array α) :
    List α → Except ε (Array α)
  | [] => .ok ordered
  | item :: items => do insertAll less (← insert less ordered item) items

/-- The items in order. -/
def sort (less : α → α → Except ε Bool) (items : List α) : Except ε (List α) :=
  match items with
  | first :: second :: others => do
    let descends ← less second first
    let (run, rest) ← spanRun less descends second others
    let ordered := if descends then (first :: second :: run).reverse else first :: second :: run
    (insertAll less ordered.toArray rest).map Array.toList
  | _ => .ok items

end InfraReview.Sorting
