import AccessAudit.Number.Binary

/-!
# The shortest decimal that reads back

A double is printed with the fewest digits that still name it and no other double. The reals that
round to a double form an interval around it, which includes its ends when the significand is
even; a decimal with `k` digits names the double when it lies in that interval. The search goes
through `k = 1, 2, …` and looks at the two decimals next to the value, in exact arithmetic.

How the digits are laid out is a separate matter: `display` writes exponents from -4 to 15
positionally, always with a point, and the others in scientific notation.
-/

namespace AccessAudit.Number

/-- Decimal digits and the exponent of the first: `d.ddd * 10 ^ exponent`. -/
structure Decimal where
  /-- The digits as a whole number. -/
  digits : Nat
  /-- The power of ten of the first digit. -/
  exponent : Int
  deriving DecidableEq, Repr

/-- Whether `a / b` is below `10 ^ e`. -/
def belowPower (a b : Nat) (e : Int) : Bool := a * Nat.pow 10 (-e).toNat < b * Nat.pow 10 e.toNat

/-- The power of ten of the first digit of the positive number `a / b`. -/
def leadingExponent (a b : Nat) : Int :=
  let guess : Int := (Nat.toDigits 10 a).length - (Nat.toDigits 10 b).length
  if belowPower a b guess then guess - 1 else guess

/-- The decimal of `count` digits nearest below or above `x = 4 * m * unit` that lies between
`(4 * m - below) * unit` and `(4 * m + 2) * unit`, the nearer of the two if both do. -/
def candidate? (m : Nat) (below : Nat) (unitNum unitDen : Nat) (first : Int) (count : Nat) :
    Option Nat :=
  -- everything is multiplied out to whole numbers of one common unit
  let place : Int := first - count + 1
  let grid := unitDen * Nat.pow 10 place.toNat
  let scale := unitNum * Nat.pow 10 (-place).toNat
  let value := 4 * m * scale
  let low := (4 * m - below) * scale
  let high := (4 * m + 2) * scale
  let inside (d : Nat) : Bool :=
    if m % 2 == 0 then low ≤ d * grid && d * grid ≤ high
    else low < d * grid && d * grid < high
  let down := value / grid
  let up := down + 1
  match inside down, inside up with
  | true, true =>
    let toDown := value - down * grid
    let toUp := up * grid - value
    if toDown < toUp || (toDown == toUp && down % 2 == 0) then some down else some up
  | true, false => some down
  | false, true => some up
  | false, false => none

/-- A number without its trailing zeros. -/
def dropZeros : Nat → Nat → Nat
  | 0, n => n
  | fuel + 1, n => if n % 10 == 0 && n != 0 then dropZeros fuel (n / 10) else n

/-- The fewest digits that read back as `m * 2 ^ e`, for `m` positive. -/
def shortest (m : Nat) (e : Int) : Decimal :=
  let (unitNum, unitDen) := ratio 1 (e - 2)
  let (num, den) := ratio m e
  let first := leadingExponent num den
  -- below a power of two the doubles lie twice as close
  let below := if m == Nat.pow 2 52 && -1074 < e then 1 else 2
  let found := (List.range 17).findSome? fun k =>
    (candidate? m below unitNum unitDen first (k + 1)).map fun d => (k + 1, d)
  match found with
  | some (count, d) =>
    -- rounding up may have produced one digit more
    if d == Nat.pow 10 count then ⟨1, first + 1⟩ else ⟨dropZeros count d, first⟩
  | none => ⟨0, 0⟩

/-- A decimal in scientific notation, with two digits of exponent at least. -/
def Decimal.scientific (d : Decimal) : List Char :=
  let power := Nat.toDigits 10 d.exponent.natAbs
  let mantissa := match Nat.toDigits 10 d.digits with
    | [] => []
    | [one] => [one]
    | one :: rest => one :: '.' :: rest
  mantissa ++ ['e', if d.exponent < 0 then '-' else '+'] ++
    List.replicate (2 - power.length) '0' ++ power

/-- A decimal written positionally or, far from one, in scientific notation. -/
def Decimal.layout (d : Decimal) : List Char :=
  let digits := Nat.toDigits 10 d.digits
  if -4 ≤ d.exponent && d.exponent < 0 then
    '0' :: '.' :: List.replicate (-d.exponent - 1).toNat '0' ++ digits
  else if 0 ≤ d.exponent && d.exponent < 16 then
    let whole := d.exponent.toNat + 1
    if digits.length ≤ whole then
      digits ++ List.replicate (whole - digits.length) '0' ++ ['.', '0']
    else digits.take whole ++ '.' :: digits.drop whole
  else d.scientific

/-- The text of a number: the fewest digits that read back. -/
def display (x : Float) : String :=
  match exact x with
  | .undefined => "nan"
  | .infinite negative => if negative then "-inf" else "inf"
  | .finite negative significand exponent =>
    let digits := if significand == 0 then ['0', '.', '0']
      else (shortest significand exponent).layout
    String.ofList (if negative then '-' :: digits else digits)

end AccessAudit.Number
