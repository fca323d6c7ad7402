import AccessAudit.Number.Binary
import AccessAudit.Text.Blank
import AccessAudit.Text.Digit

/-!
# Numbers read from text

Two kinds of numerals occur in attribute values and settings: whole numbers and decimals. Both may
be surrounded by blanks and signed, take decimal digits of any script, and allow single
underscores between digits.

* `readInt` accepts a sign and digits, up to `digitLimit` of them; a longer numeral is told apart
  from a text that is none.
* `readFloat?` accepts, beyond that, a point, an exponent, and the names of infinity and of no
  number, and rounds to the nearest double.
-/

namespace AccessAudit.Number

open Text

/-! ## Digits -/

/-- The values of a run of digits, single underscores between digits being left out. Fails on
anything else. -/
def digitRun? : List Char → Option (List Nat)
  | [] => some []
  | [c] => (digitValue? c).map ([·])
  | c :: '_' :: next :: rest => do
    let d ← digitValue? c
    let more ← digitRun? (next :: rest)
    pure (d :: more)
  | c :: rest => do
    let d ← digitValue? c
    let more ← digitRun? rest
    pure (d :: more)

/-- The number that a list of decimal digits writes. -/
def ofDigits (digits : List Nat) : Nat := digits.foldl (fun n d => 10 * n + d) 0

/-- The number a non-empty run of digits writes. -/
def readNat? (cs : List Char) : Option Nat :=
  match digitRun? cs with
  | some [] => none
  | some digits => some (ofDigits digits)
  | none => none

/-- A leading sign, and what follows it. -/
def takeSign : List Char → Bool × List Char
  | '-' :: rest => (true, rest)
  | '+' :: rest => (false, rest)
  | cs => (false, cs)

/-! ## Whole numbers -/

/-- How many digits a whole number may be written with. -/
def digitLimit : Nat := 4300

/-- Why a text writes no whole number. -/
inductive NumeralError where
  /-- It is no numeral. -/
  | malformed
  /-- It is a numeral of more digits than can be read. -/
  | tooLong (digits : Nat)
  deriving DecidableEq, Repr

/-- The whole number that a list of characters without surrounding blanks writes. -/
def readIntChars (cs : List Char) : Except NumeralError Int :=
  let (negative, run) := takeSign cs
  match digitRun? run with
  | none => .error .malformed
  | some digits =>
    if digits.isEmpty then .error .malformed
    else if digitLimit < digits.length then .error (.tooLong digits.length)
    else .ok (if negative then -(ofDigits digits : Int) else ofDigits digits)

/-- The whole number a text writes, or why it writes none. -/
def readInt (s : String) : Except NumeralError Int := readIntChars (trimPadding s.toList)

/-- The whole number a text writes. -/
def readInt? (s : String) : Option Int := (readInt s).toOption

/-! ## Decimals -/

/-- The double nearest to `digits * 10 ^ exponent`. Exponents so large or so small that every
number of that many digits is infinite or zero are not multiplied out. -/
def ofDecimal (digits : Nat) (exponent : Int) : Float :=
  let size : Int := (Nat.toDigits 10 digits).length
  if digits == 0 then 0.0
  else if 400 < size + exponent then Float.ofBits 0x7FF0000000000000
  else if size + exponent < -400 then 0.0
  else if exponent < 0 then Float.ofScientific digits true exponent.natAbs
  else Float.ofScientific digits false exponent.natAbs

/-- Digits before and after a point, each possibly none but not both. -/
def readMantissa? (cs : List Char) : Option (List Nat × Nat) :=
  let whole := cs.takeWhile (· != '.')
  match cs.dropWhile (· != '.') with
  | [] => do
    let digits ← digitRun? whole
    if digits.isEmpty then none else pure (digits, 0)
  | _ :: fraction => do
    let before ← digitRun? whole
    let after ← digitRun? fraction
    if before.isEmpty && after.isEmpty then none else pure (before ++ after, after.length)

/-- An exponent mark. -/
def isExponentMark (c : Char) : Bool := c == 'e' || c == 'E'

/-- The unsigned decimal that a list of characters writes. -/
def readUnsigned? (cs : List Char) : Option Float :=
  match (String.ofList cs).toLower with
  | "inf" | "infinity" => some (Float.ofBits 0x7FF0000000000000)
  | "nan" => some (Float.ofBits 0x7FF8000000000000)
  | _ => do
    let (digits, places) ← readMantissa? (cs.takeWhile fun c => !isExponentMark c)
    match cs.dropWhile fun c => !isExponentMark c with
    | [] => pure (ofDecimal (ofDigits digits) (-places))
    | _ :: power =>
      let (negative, run) := takeSign power
      let n ← readNat? run
      pure (ofDecimal (ofDigits digits) ((if negative then -(n : Int) else n) - places))

/-- The decimal that a list of characters without surrounding blanks writes. -/
def readFloatChars? (cs : List Char) : Option Float :=
  let (negative, rest) := takeSign cs
  (readUnsigned? rest).map fun x => if negative then -x else x

/-- The decimal a text writes, rounded to the nearest double. -/
def readFloat? (s : String) : Option Float := readFloatChars? (trimPadding s.toList)

end AccessAudit.Number
