import AccessAudit.Number.Reading
import AccessAudit.Selector.Error
import AccessAudit.Text.Lower

/-!
# Positions `an+b`

The argument of `:nth-child` and `:nth-last-child` names the positions `a * n + b` for the natural
numbers `n`. It is written `odd`, `even`, a number, or a coefficient with `n` and possibly a
signed number after it; blanks may stand around it and around that sign. `parseChars?` is that
grammar, `parse` reads it within the limit on digits, `render` writes it back, and `matches` decides
whether a position is one of those named.
-/

namespace AccessAudit.Selector.Nth

open Text Number

/-- The coefficient before `n`: one when only a sign or nothing is written. -/
def coefficient? (negative : Bool) (digits : List Char) : Option Int :=
  let sign : Int := if negative then -1 else 1
  if digits.isEmpty then some sign else (readNat? digits).map (sign * ·)

/-- What follows `n`: nothing, or a sign and a number. -/
def offset? (cs : List Char) : Option Int :=
  match trimLeft cs with
  | [] => some 0
  | c :: rest =>
    if c == '+' || c == '-' then
      let digits := trimLeft rest
      if digits.all isDecimalDigit then
        (readNat? digits).map fun n => if c == '-' then -(n : Int) else n
      else none
    else none

/-- A signed number, or a coefficient with `n` and an offset. -/
def linear? (cs : List Char) : Option (Int × Int) :=
  let (negative, unsigned) := takeSign cs
  let digits := unsigned.takeWhile isDecimalDigit
  match unsigned.dropWhile isDecimalDigit with
  | [] => (readNat? digits).map fun n => (0, if negative then -(n : Int) else n)
  | c :: rest =>
    if c == 'n' || c == 'N' then do
      let a ← coefficient? negative digits
      let b ← offset? rest
      pure (a, b)
    else none

/-- The coefficients that an argument writes. -/
def parseChars? (cs : List Char) : Option (Int × Int) :=
  let text := trim cs
  let folded := text.map Char.toLower
  if folded == ['o', 'd', 'd'] then some (2, 1)
  else if folded == ['e', 'v', 'e', 'n'] then some (2, 0)
  else linear? text

/-- The lengths of the runs of digits in an argument; the first of them has begun with `done`
digits. -/
def digitRuns (done : Nat) : List Char → List Nat
  | [] => [done]
  | c :: rest => if isDecimalDigit c then digitRuns (done + 1) rest else done :: digitRuns 0 rest

/-- The coefficients that an argument writes, or why it writes none. Its numbers stay within the
limit on digits. -/
def readChars (cs : List Char) : Except Reason (Int × Int) :=
  match parseChars? cs with
  | none => .error .invalidNth
  | some coefficients =>
    match (digitRuns 0 cs).find? (digitLimit < ·) with
    | some digits => .error (.longNumeral digits)
    | none => .ok coefficients

/-- The coefficients that an argument writes, or why it writes none. -/
def parse (s : String) : Except SyntaxError (Int × Int) :=
  match readChars s.toList with
  | .ok coefficients => .ok coefficients
  | .error reason => .error ⟨s, reason, none⟩

/-- The argument's canonical text. -/
def render (a b : Int) : String := toString a ++ "n+" ++ toString b

/-- Whether a position, counted from one, is `a * n + b` for a natural number `n`. -/
def «matches» (a b : Int) (position : Int) : Bool :=
  if a == 0 then position == b
  else Int.fmod (position - b) a == 0 && 0 ≤ Int.fdiv (position - b) a

end AccessAudit.Selector.Nth
