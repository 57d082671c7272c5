import InfraReview.Number.Double

/-!
# Arithmetic of doubles

Sums and products are those of the exact values, rounded once. One out of range is
infinite.
-/

namespace InfraReview.Double

/-- The double nearest to a signed quotient, or an infinity. -/
def rounded (negative : Bool) (numerator denominator : Nat) : Double :=
  (ofQuotient? negative numerator denominator).getD (.infinity negative)

/-- The product of two doubles. -/
def multiply : Double → Double → Double
  | .finite leftNegative left, .finite rightNegative right =>
    let (a, b) := left.toQuotient
    let (c, d) := right.toQuotient
    rounded (leftNegative != rightNegative) (a * c) (b * d)
  | .infinity leftNegative, .infinity rightNegative => .infinity (leftNegative != rightNegative)
  | .infinity leftNegative, .finite rightNegative right =>
    if right.significand = 0 then .nan else .infinity (leftNegative != rightNegative)
  | .finite leftNegative left, .infinity rightNegative =>
    if left.significand = 0 then .nan else .infinity (leftNegative != rightNegative)
  | _, _ => .nan

/-- The sum of two doubles. Zero has a minus sign only as the sum of two such zeros. -/
def add : Double → Double → Double
  | .finite leftNegative left, .finite rightNegative right =>
    let (a, b) := left.toQuotient
    let (c, d) := right.toQuotient
    let signed (negative : Bool) (value : Nat) : Int := if negative then -(value : Int) else value
    let sum := signed leftNegative (a * d) + signed rightNegative (c * b)
    if sum = 0 then .finite (leftNegative && rightNegative) .zero
    else rounded (sum < 0) sum.natAbs (b * d)
  | .infinity leftNegative, .infinity rightNegative =>
    if leftNegative = rightNegative then .infinity leftNegative else .nan
  | .infinity negative, .finite _ _ => .infinity negative
  | .finite _ _, .infinity negative => .infinity negative
  | _, _ => .nan

end InfraReview.Double
