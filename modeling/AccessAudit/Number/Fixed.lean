import AccessAudit.Number.Binary

/-!
# Decimals with a fixed number of places

Scores are shown with a fixed number of decimal places and are rounded to such a number before
they are compared. Both start from the exact binary value, so a half really is a half: it goes to
the even neighbour, and nothing else is a tie.
-/

namespace AccessAudit.Number

/-- The decimal digits of a number with a point before the last `places` of them. -/
def placePoint (places n : Nat) : List Char :=
  let digits := Nat.toDigits 10 n
  let padded := List.replicate (places + 1 - digits.length) '0' ++ digits
  let whole := padded.take (padded.length - places)
  if places == 0 then whole else whole ++ '.' :: padded.drop (padded.length - places)

/-- The value times `10 ^ places`, rounded to a whole number. -/
def scaled (places significand : Nat) (exponent : Int) : Nat :=
  let (num, den) := ratio significand exponent
  roundDiv (num * Nat.pow 10 places) den

/-- A number with `places` decimal places. -/
def fixed (places : Nat) (x : Float) : String :=
  match exact x with
  | .undefined => "nan"
  | .infinite negative => if negative then "-inf" else "inf"
  | .finite negative significand exponent =>
    let digits := String.ofList (placePoint places (scaled places significand exponent))
    if negative then "-" ++ digits else digits

/-- How many units of the last of `places` decimal places come nearest to the magnitude of a
number. -/
def count (places : Nat) (x : Float) : Nat :=
  match exact x with
  | .finite _ significand exponent => scaled places significand exponent
  | _ => 0

/-- A number rounded to `places` decimal places. -/
def roundTo (places : Nat) (x : Float) : Float :=
  match exact x with
  | .finite negative significand exponent =>
    let magnitude := Float.ofScientific (scaled places significand exponent) true places
    if negative then -magnitude else magnitude
  | _ => x

end AccessAudit.Number
