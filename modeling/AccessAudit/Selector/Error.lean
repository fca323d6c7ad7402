import AccessAudit.Failure

/-!
# Why a selector cannot be read

A text that is no selector is turned down at a position, for one of a few reasons. Only the reasons
for a bad `an+b` have no position: they are about the argument alone. A number in it may have more
digits than can be read; then the text is a selector all the same, and whatever needs it breaks down
(`Reason.failure?`).
-/

namespace AccessAudit.Selector

/-- What was wrong at a position. -/
inductive Reason where
  /-- There is nothing but blanks. -/
  | emptySelector
  /-- A name was expected. -/
  | expectedIdentifier
  /-- A compound has no condition. -/
  | emptyCompound
  /-- A character that cannot follow. -/
  | unexpectedCharacter (c : Char)
  /-- An attribute's name is followed by something else. -/
  | expectedBracketOrOperator
  /-- A quoted value has no end. -/
  | unterminatedString
  /-- An attribute condition does not end. -/
  | expectedBracket
  /-- A selector argument does not end. -/
  | expectedParenthesis
  /-- Any other argument does not end. -/
  | unterminatedArgument
  /-- The argument is not of the form `an+b`. -/
  | invalidNth
  /-- A number in the argument has more digits than can be read. -/
  | longNumeral (digits : Nat)
  /-- Something follows the selector. -/
  | trailingInput (rest : String)
  deriving DecidableEq, Repr

/-- The wording of a reason. -/
def Reason.message : Reason → String
  | emptySelector => "empty selector"
  | expectedIdentifier => "expected identifier"
  | emptyCompound => "empty compound selector"
  | unexpectedCharacter c => "unexpected character '" ++ c.toString ++ "'"
  | expectedBracketOrOperator => "expected ']' or attribute operator"
  | unterminatedString => "unterminated string"
  | expectedBracket => "expected ']'"
  | expectedParenthesis => "expected ')'"
  | unterminatedArgument => "unterminated pseudo-class argument"
  | invalidNth => "invalid nth expression"
  | longNumeral digits => (Failure.longNumeral digits).reason
  | trailingInput rest => "unexpected trailing input '" ++ rest ++ "'"

/-- The breakdown that a reason amounts to, if it is more than a fault of the text. -/
def Reason.failure? : Reason → Option Failure
  | longNumeral digits => some (.longNumeral digits)
  | _ => none

/-- A text that is no selector. -/
structure SyntaxError where
  /-- The text, or the argument that is not of the form `an+b`. -/
  text : String
  /-- What was wrong. -/
  reason : Reason
  /-- Where, counted in characters from the start of the text. -/
  position : Option Nat
  deriving DecidableEq, Repr

/-- The whole message. -/
def SyntaxError.message (e : SyntaxError) : String :=
  let place := match e.position with
    | some position => " at position " ++ toString position
    | none => ""
  "Invalid selector '" ++ e.text ++ "'" ++ place ++ ": " ++ e.reason.message

end AccessAudit.Selector
