import AccessAudit.Text.Blank
import AccessAudit.Text.CaseRanges

/-!
# Lower case

Names are compared without regard to case by writing them in small letters. Every capital has one
small letter, with two exceptions: the dotted capital I becomes two characters, and a capital
sigma becomes the final form at the end of a word.

A sigma ends a word when a character with case stands before it and none stands after it, marks
and modifiers between them being passed over. `lowerFrom` carries the first half of that condition
along and looks ahead for the second.
-/

namespace AccessAudit.Text

/-- Characters that do not separate a sigma from its neighbours. -/
def isCaseIgnorable (c : Char) : Bool := caseIgnorableRanges.has c

/-- Characters that have case. -/
def isCased (c : Char) : Bool := casedRanges.has c

/-- The small letter or letters of a character on its own. -/
def lowerChar (c : Char) : List Char :=
  let n := c.toNat
  if n < 0x80 then [c.toLower]
  else if n == 0x130 then ['i', Char.ofNat 0x307]
  else
    match lowerRuns.find? fun run => run.1 ≤ n && n ≤ run.2.1 && (n - run.1) % run.2.2.1 == 0 with
    | some run => [Char.ofNat ((n : Int) + run.2.2.2).toNat]
    | none => [c]

/-- Whether the next character that counts has case. -/
def casedAhead : List Char → Bool
  | [] => false
  | c :: rest => if isCaseIgnorable c then casedAhead rest else isCased c

/-- The list in small letters, when `casedBefore` says whether the last character that counts had
case. -/
def lowerFrom (casedBefore : Bool) : List Char → List Char
  | [] => []
  | c :: rest =>
    if c.toNat == 0x3A3 then
      let small := if casedBefore && !casedAhead rest then Char.ofNat 0x3C2 else Char.ofNat 0x3C3
      small :: lowerFrom true rest
    else
      lowerChar c ++ lowerFrom (if isCaseIgnorable c then casedBefore else isCased c) rest

/-- The list in small letters. -/
def lowerChars (cs : List Char) : List Char := lowerFrom false cs

/-- The text in small letters. -/
def lower (s : String) : String := String.ofList (lowerChars s.toList)

/-- The form in which names are compared: no blanks at the ends, small letters. -/
def normalize (s : String) : String := lower (strip s)

end AccessAudit.Text
