import AccessAudit.Number.Fixed

/-!
# Numbers for scores

Scores are computed and checked with a few operations only, those of `Scale`. Analyses run them on
doubles; what they come to with exact numbers can be said of the same definitions.
-/

namespace AccessAudit

/-- Numbers in which scores are computed. -/
class Scale (α : Type) extends Add α, Sub α, Mul α where
  /-- The number that a whole number is. -/
  ofInt : Int → α
  /-- Whether a number is less than another. -/
  less : α → α → Bool
  /-- Whether a number is no more than another. -/
  atMost : α → α → Bool
  /-- The number rounded to ten decimals. -/
  round : α → α

instance : Scale Float where
  ofInt := Number.ofInt
  less x y := x < y
  atMost x y := x ≤ y
  round := Number.roundTo 10

end AccessAudit
