import AccessAudit.Number.Shortest

/-!
# A fixed number of significant digits

A number may be kept with so many digits from its first one on, wherever its point is. Rounding
starts from the exact value, and a half goes to the even neighbour.
-/

namespace AccessAudit.Number

/-- The positive number `num / den` rounded to `count` significant digits; it has so many. -/
def significant (count num den : Nat) : Decimal :=
  let first := leadingExponent num den
  let shift : Int := count - 1 - first
  let digits := roundDiv (num * Nat.pow 10 shift.toNat) (den * Nat.pow 10 (-shift).toNat)
  -- rounding up may have produced one digit more
  if digits == Nat.pow 10 count then ⟨Nat.pow 10 (count - 1), first + 1⟩ else ⟨digits, first⟩

/-- The whole number that a decimal of `count` digits is, if it is one that is written without an
exponent. -/
def Decimal.whole? (count : Nat) (d : Decimal) : Option Nat :=
  let unit := Nat.pow 10 (count - 1 - d.exponent).toNat
  if d.exponent < count && d.digits % unit == 0 then some (d.digits / unit) else none

/-- The double nearest to a decimal of `count` digits. -/
def Decimal.nearest (count : Nat) (d : Decimal) : Float :=
  let power : Int := d.exponent - (count - 1)
  Float.ofScientific d.digits (power < 0) power.natAbs

end AccessAudit.Number
