import AccessAudit.Selector.Parser

/-!
# Selectors within selectors

A selector can be the argument of another one, and so on. Whatever follows these arguments down can
do so only to a certain depth, which depends on what it is after: reading takes the least for each
step, writing the most. Beyond that depth it breaks down (`Selector.breakdown?`). Nothing else in
this library depends on the depth of a selector.
-/

namespace AccessAudit

namespace Selector

mutual

/-- How deep the arguments of a condition go, as far as their pseudo-classes count. -/
def Simple.depth (counts : String → Bool) : Simple → Nat
  | .pseudoClass name (.selectors list) =>
    if counts name then branchesDepth counts list + 1 else 0
  | _ => 0

/-- How deep the arguments of some conditions go. -/
def partsDepth (counts : String → Bool) : List Simple → Nat
  | [] => 0
  | part :: rest => max (part.depth counts) (partsDepth counts rest)

/-- How deep the arguments in a chain go. -/
def Complex.depth (counts : String → Bool) : Complex → Nat
  | .compound parts => partsDepth counts parts
  | .join left _ parts => max (left.depth counts) (partsDepth counts parts)

/-- How deep the arguments in some branches go. -/
def branchesDepth (counts : String → Bool) : List Complex → Nat
  | [] => 0
  | branch :: rest => max (branch.depth counts) (branchesDepth counts rest)

end

/-- How deep the parentheses of a text go; `now` are open. -/
def parenthesesDepth (now : Nat) : List Char → Nat
  | [] => now
  | c :: rest =>
    if c == '(' then parenthesesDepth (now + 1) rest
    else if c == ')' then max now (parenthesesDepth (now - 1) rest)
    else parenthesesDepth now rest

/-- What a selector is wanted for. -/
inductive Use where
  /-- Only to be read. -/
  | reading
  /-- Its weight. -/
  | weighing
  /-- To be matched with elements. -/
  | matching
  /-- To be written. -/
  | writing
  deriving DecidableEq, Repr

/-- How deep a selector may be for a use. -/
def Use.limit : Use → Nat
  | reading => 245
  | weighing => 164
  | matching => 109
  | writing => 75

/-- How deep a selector is for a use. The argument of `:where` weighs nothing and is not looked
into. -/
def Use.depth (use : Use) (list : SelectorList) : Nat :=
  match use with
  | weighing => branchesDepth (· != "where") list
  | _ => branchesDepth (fun _ => true) list

/-- The breakdown of whatever uses the selector list that a text writes, if there is one. A text
that is none is followed as far as it was read. -/
def breakdown? (use : Use) (s : String) : Option Failure :=
  match SelectorList.parse s with
  | .ok list =>
    if Use.reading.limit < Use.reading.depth list || use.limit < use.depth list then
      some .tooNested
    else none
  | .error e =>
    let text := Text.trim s.toList
    let seen := text.take (e.position.getD text.length)
    if Use.reading.limit < parenthesesDepth 0 seen then some .tooNested else e.reason.failure?

end Selector

end AccessAudit
