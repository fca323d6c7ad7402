import AccessAudit.Selector.Specificity

/-!
# Selectors

A selector list is a choice between complex selectors. A complex selector describes an element, by
a compound of simple conditions that all have to hold, and possibly how it is placed relative to
other elements: its last compound is the subject, and every compound before it is joined by a
combinator. A simple condition asks for a type, an id, a class, an attribute, a pseudo-element or
a pseudo-class; a pseudo-class may take a selector list, or the two coefficients of `an+b`.

A complex selector is nested to the left, so that there is always one combinator fewer than there
are compounds and the subject is at hand.
-/

namespace AccessAudit

namespace Selector

/-- How the element on the left is placed relative to the one on the right. -/
inductive Combinator where
  /-- Somewhere above it. -/
  | descendant
  /-- Directly above it. -/
  | child
  /-- The sibling directly before it. -/
  | next
  /-- Some earlier sibling. -/
  | later
  deriving DecidableEq, Repr

/-- How an attribute's value is compared. -/
inductive Comparison where
  /-- The whole value. -/
  | equals
  /-- One of its words. -/
  | includes
  /-- The value, or its beginning up to a hyphen. -/
  | dashed
  /-- Its beginning. -/
  | begins
  /-- Its end. -/
  | ends
  /-- Any part of it. -/
  | contains
  deriving DecidableEq, Repr

/-- What an attribute's value has to satisfy. -/
structure ValueTest where
  /-- The comparison made. -/
  comparison : Comparison
  /-- The text compared with. -/
  value : String
  /-- Whether letter case is disregarded. -/
  ignoreCase : Bool := false
  deriving DecidableEq, Repr

mutual

/-- One condition on one element. -/
inductive Simple where
  /-- The element's type. -/
  | type (name : String)
  /-- Any element. -/
  | universal
  /-- Its id. -/
  | id (value : String)
  /-- One of its classes. -/
  | className (name : String)
  /-- An attribute, and possibly its value. -/
  | attribute (name : String) (test : Option ValueTest)
  /-- A part of its rendering. -/
  | pseudoElement (name : String)
  /-- A structural property or a runtime state. -/
  | pseudoClass (name : String) (argument : Argument)

/-- What a pseudo-class is applied to. -/
inductive Argument where
  /-- Nothing. -/
  | none
  /-- A selector list. -/
  | selectors (list : List Complex)
  /-- The positions `an+b`. -/
  | nth (a b : Int)

/-- A chain of compounds. -/
inductive Complex where
  /-- A compound on its own. -/
  | compound (parts : List Simple)
  /-- A chain, and the compound that its last element is placed relative to. -/
  | join (left : Complex) (how : Combinator) (parts : List Simple)

end

/-- The conditions that hold of one element together. -/
abbrev Compound := List Simple

end Selector

/-- A choice between complex selectors. -/
abbrev SelectorList := List Selector.Complex

namespace Selector

/-! ## Views of a chain -/

/-- The compound that describes the selected element itself. -/
def Complex.subject : Complex → Compound
  | .compound parts => parts
  | .join _ _ parts => parts

/-- The compounds from left to right. -/
def Complex.compounds : Complex → List Compound
  | .compound parts => [parts]
  | .join left _ parts => left.compounds ++ [parts]

/-- The combinators from left to right. -/
def Complex.combinators : Complex → List Combinator
  | .compound _ => []
  | .join left how _ => left.combinators ++ [how]

/-- The pseudo-element that is styled in place of the subject. -/
def Complex.pseudoElement? (c : Complex) : Option String :=
  c.subject.findSome? fun
    | .pseudoElement name => some name
    | _ => none

/-! ## Pseudo-classes -/

/-- Pseudo-classes that hold or not by the interaction going on. -/
def runtimePseudoClasses : List String :=
  ["hover", "focus", "focus-visible", "focus-within", "active", "visited", "target", "link",
    "any-link"]

/-- Pseudo-classes that the markup alone decides. -/
def staticPseudoClasses : List String :=
  ["not", "is", "where", "matches", "disabled", "enabled", "checked", "required", "empty", "root",
    "first-child", "last-child", "only-child", "nth-child", "nth-last-child"]

/-- Pseudo-elements that may be written with a single colon. -/
def singleColonPseudoElements : List String := ["before", "after", "first-line", "first-letter"]

/-- Pseudo-classes that take a selector list. -/
def takesSelectors : List String := ["not", "is", "where", "matches"]

/-- Pseudo-classes that take positions. -/
def takesPositions : List String := ["nth-child", "nth-last-child"]

/-- Whether a pseudo-class is a runtime state. Those that are not known are taken for one. -/
def isRuntimeState (name : String) : Bool :=
  runtimePseudoClasses.contains name || !staticPseudoClasses.contains name

mutual

/-- The weight of a condition. A choice weighs as much as its heaviest branch, and one made with
`:where` weighs nothing. -/
def Simple.specificity : Simple → Specificity
  | .type _ => .ofType
  | .universal => .zero
  | .id _ => .ofId
  | .className _ => .ofClass
  | .attribute _ _ => .ofClass
  | .pseudoElement _ => .ofType
  | .pseudoClass name (.selectors list) =>
    if name == "where" then .zero
    else if takesSelectors.contains name then branchesSpecificity list
    else .ofClass
  | .pseudoClass name _ => if name == "where" then .zero else .ofClass

/-- The weight of conditions that hold together. -/
def partsSpecificity : List Simple → Specificity
  | [] => .zero
  | part :: rest => part.specificity + partsSpecificity rest

/-- The weight of a chain: all its compounds count. -/
def Complex.specificity : Complex → Specificity
  | .compound parts => partsSpecificity parts
  | .join left _ parts => left.specificity + partsSpecificity parts

/-- The weight of the heaviest branch. -/
def branchesSpecificity : List Complex → Specificity
  | [] => .zero
  | [branch] => branch.specificity
  | branch :: rest => branch.specificity.max (branchesSpecificity rest)

end

mutual

/-- The runtime states that a condition asks for. What a negation rules out is not asked for. -/
def Simple.states : Simple → List String
  | .pseudoClass name (.selectors list) => if name == "not" then [] else branchesStates list
  | .pseudoClass name _ => if name != "not" && isRuntimeState name then [name] else []
  | _ => []

/-- The runtime states that conditions ask for together. -/
def partsStates : List Simple → List String
  | [] => []
  | part :: rest => part.states ++ partsStates rest

/-- The runtime states that a chain asks for. -/
def Complex.states : Complex → List String
  | .compound parts => partsStates parts
  | .join left _ parts => left.states ++ partsStates parts

/-- The runtime states that some branch asks for. -/
def branchesStates : List Complex → List String
  | [] => []
  | branch :: rest => branch.states ++ branchesStates rest

end

end Selector

/-- The weight of a list: that of its heaviest branch. -/
def SelectorList.specificity (list : SelectorList) : Specificity :=
  Selector.branchesSpecificity list

/-- The id, when the list is a single `#id`. -/
def SelectorList.pureId? : SelectorList → Option String
  | [.compound [.id value]] => some value
  | _ => none

end AccessAudit
