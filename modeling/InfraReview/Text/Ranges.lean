/-!
# Ranges of code points

A property of characters is given by closed ranges of code points in ascending order, and a
code point is looked for in them by halving.
-/

namespace InfraReview.Text

/-- True when a code point lies in one of the ranges between the positions `low` and
`high`; the interval of positions is halved `fuel` times. -/
def isBetween (ranges : Array (Nat × Nat)) (code : Nat) : Nat → Nat → Nat → Bool
  | 0, _, _ => false
  | fuel + 1, low, high =>
    if high ≤ low then false
    else
      let middle := (low + high) / 2
      match ranges[middle]? with
      | none => false
      | some (first, last) =>
        if code < first then isBetween ranges code fuel low middle
        else if last < code then isBetween ranges code fuel (middle + 1) high
        else true

/-- True when a code point lies in one of some ranges. -/
def inRanges (ranges : Array (Nat × Nat)) (code : Nat) : Bool :=
  isBetween ranges code ranges.size 0 ranges.size

end InfraReview.Text
