import AccessAudit.Markup.Fragment
import AccessAudit.Selector.Basic
import AccessAudit.Selector.Nth
import AccessAudit.Text.Lower

/-!
# Matching

Whether a selector describes an element of a fragment. Structural conditions are decided by the
fragment; runtime states by the set of states that are taken to hold. A state inside a negation is
never taken to hold.

The combinators are relations between orders: `Combinator.candidates` lists the elements that may
stand on the left, and a chain matches when the chain to the left matches one of them.
-/

namespace AccessAudit

namespace Selector

open Text

/-- The runtime states that are taken to hold. -/
inductive States where
  /-- All of them. -/
  | every
  /-- These and no others. -/
  | only (names : List String)
  deriving DecidableEq, Repr

/-- Whether a state is taken to hold. -/
def States.holds : States → String → Bool
  | every, _ => true
  | only names, name => names.contains name

/-! ## Conditions on one element -/

/-- Whether a text occurs in another. -/
def occursIn (part : List Char) : List Char → Bool
  | [] => part.isEmpty
  | c :: rest => part.isPrefixOf (c :: rest) || occursIn part rest

/-- Whether a value compares as wanted. The empty text begins, ends and is part of nothing. -/
def Comparison.holds : Comparison → (actual expected : String) → Bool
  | .equals, actual, expected => actual == expected
  | .includes, actual, expected => (words actual).contains expected
  | .dashed, actual, expected =>
    actual == expected || (expected.toList ++ ['-']).isPrefixOf actual.toList
  | .begins, actual, expected => !expected.isEmpty && expected.toList.isPrefixOf actual.toList
  | .ends, actual, expected => !expected.isEmpty && expected.toList.isSuffixOf actual.toList
  | .contains, actual, expected => !expected.isEmpty && occursIn expected.toList actual.toList

/-- Whether a value satisfies a test. -/
def ValueTest.holds (test : ValueTest) (actual : String) : Bool :=
  if test.ignoreCase then test.comparison.holds (lower actual) (lower test.value)
  else test.comparison.holds actual test.value

/-- Whether an element has an attribute with a value as wanted. -/
def attributeHolds (e : Element) (name : String) (test : Option ValueTest) : Bool :=
  match e.get? name with
  | none => false
  | some actual => test.all (·.holds actual)

/-- Whether the element is marked as switched off. -/
def marksDisabled (e : Element) : Bool :=
  e.has "disabled" || e.get? "aria-disabled" == some "true"

/-- The place of an element among its siblings, from zero. -/
def position (f : Fragment) (order : Nat) : Nat := (f.siblings order).idxOf order

/-- Whether a pseudo-class without a selector argument holds. -/
def plainPseudoClass (f : Fragment) (states : States) (order : Nat) (e : Element) (name : String)
    (nth : Option (Int × Int)) : Bool :=
  let siblings := (f.siblings order).length
  match name with
  | "not" | "is" | "where" | "matches" => false
  | "disabled" => marksDisabled e
  | "enabled" => !marksDisabled e
  | "checked" => e.has "checked" || e.has "selected" || e.get? "aria-checked" == some "true"
  | "required" => e.has "required" || e.get? "aria-required" == some "true"
  | "empty" => f.entries[order]?.any (·.childless)
  | "root" => (f.parent? order).isNone
  | "first-child" => position f order == 0
  | "last-child" => position f order + 1 == siblings
  | "only-child" => siblings == 1
  | "nth-child" => nth.any fun (a, b) => Nth.matches a b (position f order + 1)
  | "nth-last-child" => nth.any fun (a, b) => Nth.matches a b (siblings - position f order)
  | _ => states.holds name

/-! ## Chains -/

/-- The elements that stand in a combinator's relation to the left of an element. -/
def Combinator.candidates (f : Fragment) (order : Nat) : Combinator → List Nat
  | .child => (f.parent? order).toList
  | .descendant => f.ancestors order
  | .next => ((f.siblings order).takeWhile (· != order)).getLast?.toList
  | .later => (f.siblings order).takeWhile (· != order)

mutual

/-- Whether a condition holds of an element. -/
def Simple.matches (f : Fragment) (states : States) (order : Nat) (e : Element) : Simple → Bool
  | .type name => e.tag == name
  | .universal => true
  | .id value => e.id? == some value
  | .className name => e.classes.contains name
  | .attribute name test => attributeHolds e name test
  | .pseudoElement _ => true
  | .pseudoClass name (.selectors list) =>
    if name == "not" then !anyMatches f (.only []) order list
    else if takesSelectors.contains name then anyMatches f states order list
    else plainPseudoClass f states order e name none
  | .pseudoClass name .none => plainPseudoClass f states order e name none
  | .pseudoClass name (.nth a b) => plainPseudoClass f states order e name (some (a, b))

/-- Whether all conditions of a compound hold of an element. -/
def partsMatch (f : Fragment) (states : States) (order : Nat) (e : Element) :
    List Simple → Bool
  | [] => true
  | part :: rest => part.matches f states order e && partsMatch f states order e rest

/-- Whether a chain describes the element with an order. -/
def Complex.matches (f : Fragment) (states : States) (order : Nat) : Complex → Bool
  | .compound parts => (f.element? order).any fun e => partsMatch f states order e parts
  | .join left how parts =>
    ((f.element? order).any fun e => partsMatch f states order e parts)
      && (how.candidates f order).any fun other => left.matches f states other

/-- Whether one of several chains describes the element with an order. -/
def anyMatches (f : Fragment) (states : States) (order : Nat) : List Complex → Bool
  | [] => false
  | branch :: rest => branch.matches f states order || anyMatches f states order rest

end

end Selector

/-- Whether a selector list describes the element with an order. -/
def SelectorList.matches (list : SelectorList) (f : Fragment) (states : Selector.States)
    (order : Nat) : Bool :=
  Selector.anyMatches f states order list

/-- The branches that describe the element with an order when all states hold, with their places
in the list. -/
def SelectorList.matchingBranches (list : SelectorList) (f : Fragment) (order : Nat) :
    List (Selector.Complex × Nat) :=
  list.zipIdx.filter fun branch => branch.1.matches f .every order

end AccessAudit
