/-!
# The exact value of a floating-point number

A finite double is a whole number times a power of two. Everything that is printed or rounded in
decimals starts from that pair, so that no step of it is itself rounded: `Float.exact` takes the
pair out of the sixty-four bits.
-/

namespace AccessAudit.Number

/-- What a floating-point number stands for. -/
inductive Exact where
  /-- No number. -/
  | undefined
  /-- Beyond every number. -/
  | infinite (negative : Bool)
  /-- `significand * 2 ^ exponent`, with its sign; zero has one too. -/
  | finite (negative : Bool) (significand : Nat) (exponent : Int)
  deriving DecidableEq, Repr

/-- The value of a double, read off its bits: one bit of sign, eleven of exponent, fifty-two of
fraction. -/
def exact (x : Float) : Exact :=
  let bits := x.toBits.toNat
  let negative := bits / Nat.pow 2 63 == 1
  let biased : Nat := bits / Nat.pow 2 52 % Nat.pow 2 11
  let fraction : Nat := bits % Nat.pow 2 52
  if biased == 0x7FF then
    if fraction == 0 then .infinite negative else .undefined
  else if biased == 0 then .finite negative fraction (-1074)
  else .finite negative (fraction + Nat.pow 2 52) (biased - 1075)

/-- Numerator and denominator of `significand * 2 ^ exponent`. -/
def ratio (significand : Nat) (exponent : Int) : Nat × Nat :=
  (significand * Nat.pow 2 exponent.toNat, Nat.pow 2 (-exponent).toNat)

/-- A quotient rounded to the nearest whole number, a half going to the even neighbour. -/
def roundDiv (num den : Nat) : Nat :=
  let whole := num / den
  let twice := 2 * (num % den)
  if twice < den then whole
  else if den < twice then whole + 1
  else if whole % 2 == 0 then whole else whole + 1

/-- The double nearest to a whole number. -/
def ofInt (n : Int) : Float :=
  if n < 0 then -(Float.ofScientific n.natAbs false 0) else Float.ofScientific n.natAbs false 0

/-- The whole number that a double equals, if it equals one. -/
def wholeValue? (x : Float) : Option Int :=
  match exact x with
  | .finite negative significand exponent =>
    let (num, den) := ratio significand exponent
    if num % den == 0 then some (if negative then -(num / den : Nat) else (num / den : Nat))
    else none
  | _ => none

/-- A finite double without its fraction. -/
def truncate? (x : Float) : Option Int :=
  match exact x with
  | .finite negative significand exponent =>
    let (num, den) := ratio significand exponent
    some (if negative then -(num / den : Nat) else (num / den : Nat))
  | _ => none

end AccessAudit.Number
