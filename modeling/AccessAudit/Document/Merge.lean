import AccessAudit.Config
import AccessAudit.Document.Basic
import AccessAudit.Selector.Matching

/-!
# Merging

Fragments, scripts and style sheets become one document. A graph that is no tree is left out and
noted. The selector of an action is first looked up among the simple selectors by which elements
can be referred to, and only then parsed and matched; of several elements with an id, the first is
meant. What refers to no element is recorded as an orphan and is no error; a selector that cannot be
dealt with at all is (`assemble`).

What is attached to the elements is kept in one table, which is filled in three turns: by the
actions (`ActionPass`), by the rules, and by the style attributes (`StylePass`).
-/

namespace AccessAudit

open Text

/-! ## Fragments -/

/-- The fragments of some inputs, and what was left out. -/
def indexInputs : Nat → List FragmentInput → List Fragment × List Diagnostic
  | _, [] => ([], [])
  | place, input :: rest =>
    let (fragments, diagnostics) := indexInputs (place + 1) rest
    match input.toFragment (toString place) with
    | .ok f => (f :: fragments, diagnostics)
    | .error m => (fragments, ⟨m.source, m.why.reason⟩ :: diagnostics)

/-! ## Actions -/

/-- The elements that have a simple selector, under each such selector. -/
abbrev CandidateIndex := Table String (List Key)

namespace CandidateIndex

/-- Enters an element under a simple selector, unless it was entered there last. -/
def note (key : Key) (index : CandidateIndex) (selector : String) : CandidateIndex :=
  index.update selector [] fun bucket =>
    if bucket.getLast? = some key then bucket else bucket ++ [key]

/-- Enters an element under each of its simple selectors. -/
def noteAll (fragments : Array Fragment) (index : CandidateIndex) (key : Key) : CandidateIndex :=
  (((elementAt? fragments key).map Element.candidateSelectors).getD []).foldl (note key) index

/-- The index of the elements of some fragments. -/
def build (fragments : Array Fragment) : CandidateIndex :=
  (keysOf fragments).foldl (noteAll fragments) []

/-- The elements that a simple selector refers to, in document order. -/
def lookup (index : CandidateIndex) (selector : String) : List Key :=
  (index.get? selector).getD []

end CandidateIndex

/-- Why a selector refers to no element. -/
inductive Unresolved where
  /-- There is no selector. -/
  | noSelector
  /-- It is no selector. -/
  | unparseable (reason : Selector.Reason)
  /-- No element has the id. -/
  | noId (id : String)
  /-- No element matches. -/
  | noMatch
  deriving DecidableEq, Repr

/-- The reason in words. -/
def Unresolved.message : Unresolved → String
  | noSelector => "unresolvable binding"
  | unparseable reason => "unparseable selector: " ++ reason.message
  | noId id => "no element with id '" ++ id ++ "'"
  | noMatch => "no element matches selector"

/-- The elements that a selector list describes when all states hold, in document order. -/
def matchingKeys (fragments : Array Fragment) (list : SelectorList) : List Key :=
  (keysOf fragments).filter fun key =>
    fragments[key.fragment]?.any fun f => list.matches f .every key.order

/-- The elements that a selector refers to, in document order; none is an error. -/
def resolve (fragments : Array Fragment) (index : CandidateIndex) (selector : String) :
    Except Unresolved (List Key) :=
  if selector.isEmpty then .error .noSelector
  else
    match index.lookup selector with
    | first :: others => .ok (if selector.startsWith "#" then [first] else first :: others)
    | [] =>
      match SelectorList.parse selector with
      | .error e => .error (.unparseable e.reason)
      | .ok list =>
        match list.pureId? with
        | some id =>
          match index.lookup ("#" ++ id) with
          | first :: _ => .ok [first]
          | [] => .error (.noId id)
        | none =>
          match matchingKeys fragments list with
          | [] => .error .noMatch
          | found => .ok found

/-- The breakdown over the selector of an action, if there is one. A simple selector of an element
is not read, and without elements nothing is matched. -/
def resolveBreakdown? (fragments : Array Fragment) (index : CandidateIndex) (selector : String) :
    Option Failure :=
  let use : Selector.Use := if fragments.isEmpty then .reading else .matching
  (Selector.breakdown? use selector).filter fun _ => (index.lookup selector).isEmpty

/-! ## What is attached -/

/-- What is attached to elements. -/
abbrev Slots := Table Key Annotation

/-- Attaches the action at a place to an element. -/
def Slots.addAction (place : Nat) (slots : Slots) (key : Key) : Slots :=
  slots.update key {} fun noted => { noted with actions := noted.actions ++ [place] }

/-- Attaches a style match to an element. -/
def Slots.addStyle (slots : Slots) (entry : Key × StyleMatch) : Slots :=
  slots.update entry.1 {} fun noted => { noted with styles := noted.styles ++ [entry.2] }

/-- What going through the actions has led to. -/
structure ActionPass where
  /-- The actions so far. -/
  actions : Array (String × Action) := #[]
  /-- Those that refer to no element. -/
  orphans : List OrphanAction := []
  /-- What is attached. -/
  slots : Slots := []

/-- Goes on with the next action, whose place is after those so far. -/
def ActionPass.step (fragments : Array Fragment) (index : CandidateIndex) (pass : ActionPass)
    (entry : String × Action) : ActionPass :=
  let place := pass.actions.size
  let actions := pass.actions.push entry
  match resolve fragments index entry.2.selector with
  | .ok keys => { pass with actions, slots := keys.foldl (Slots.addAction place) pass.slots }
  | .error why =>
    let orphan := { place, source := entry.1, action := entry.2, reason := why.message }
    { pass with actions, orphans := pass.orphans ++ [orphan] }

/-! ## Style -/

/-- A rule with its place and its selector, if it has one. -/
structure PlacedRule where
  /-- The source. -/
  source : String
  /-- The rule. -/
  rule : Rule
  /-- The place of its declaration. -/
  place : Nat
  /-- The selector list, or why there is none. -/
  selectors : Except Selector.SyntaxError SelectorList

/-- The branches of a rule that describe an element when all states hold. -/
def PlacedRule.branches (r : PlacedRule) (f : Fragment) (order : Nat) : List Selector.Complex :=
  match r.selectors with
  | .ok list => (list.matchingBranches f order).map Prod.fst
  | .error _ => []

/-- The weight of a branch of a rule: the rule's own if it was declared or there is only one
branch. -/
def PlacedRule.weight (r : PlacedRule) (branch : Selector.Complex) : Specificity :=
  let single := match r.selectors with
    | .ok list => list.length == 1
    | .error _ => false
  if r.rule.declared || single then r.rule.specificity else branch.specificity

/-- The matches of a rule with an element, one a branch. -/
def PlacedRule.matchesOf (r : PlacedRule) (f : Fragment) (order : Nat) : List StyleMatch :=
  (r.branches f order).map fun branch =>
    { rule := r.rule, specificity := r.weight branch, order := r.place,
      states := branch.states.eraseDups, pseudoElement := branch.pseudoElement? }

/-- The declarations in an element's style attribute, if there are any. -/
def inlineText? (e : Element) : Option String :=
  match e.get? "style" with
  | some text => if isBlankText text then none else some text
  | none => none

/-- The match of an element's style attribute. Style attributes come after all rules, in document
order. -/
def inlineMatch? (e : Element) (place : Nat) : Option StyleMatch :=
  (inlineText? e).map fun text =>
    { rule := Rule.inline text e.location, specificity := .ofInline, order := place,
      inline := true }

/-- The matches of a rule with the elements of some fragments, in document order. -/
def PlacedRule.matchesIn (r : PlacedRule) (fragments : Array Fragment) : List (Key × StyleMatch) :=
  (keysOf fragments).flatMap fun key =>
    ((fragments[key.fragment]?.map fun f => r.matchesOf f key.order).getD []).map (key, ·)

/-- The reason why a rule with the given matches is an orphan, if it is one. -/
def PlacedRule.orphanReason? (r : PlacedRule) (found : List (Key × StyleMatch)) :
    Option Unresolved :=
  match r.selectors with
  | .error e => some (.unparseable e.reason)
  | .ok _ => if found.isEmpty then some .noMatch else none

/-- What going through the rules and the style attributes has led to. -/
structure StylePass where
  /-- The place of the next declaration. -/
  place : Nat := 0
  /-- The rules that match no element. -/
  orphans : List OrphanRule := []
  /-- What is attached. -/
  slots : Slots

/-- Goes on with the next rule. -/
def StylePass.rule (fragments : Array Fragment) (pass : StylePass) (entry : String × Rule) :
    StylePass :=
  let r : PlacedRule :=
    { source := entry.1, rule := entry.2, place := pass.place
      selectors := SelectorList.parse entry.2.selector }
  let found := r.matchesIn fragments
  let orphan? := (r.orphanReason? found).map fun why => ⟨r.source, r.rule, why.message⟩
  { place := pass.place + 1, orphans := pass.orphans ++ orphan?.toList
    slots := found.foldl Slots.addStyle pass.slots }

/-- Goes on with the style attribute of an element, if it has one. -/
def StylePass.inline (fragments : Array Fragment) (pass : StylePass) (key : Key) : StylePass :=
  match (elementAt? fragments key).bind fun e => inlineMatch? e pass.place with
  | some m => { pass with place := pass.place + 1, slots := pass.slots.addStyle (key, m) }
  | none => pass

/-! ## References -/

/-- Attributes that refer to elements by id. -/
def referenceAttributes : List String :=
  ["aria-labelledby", "aria-describedby", "aria-controls", "aria-owns", "aria-activedescendant"]

/-- The elements with each id, in document order. -/
def ownersTable (fragments : Array Fragment) : Table String (List Key) :=
  Table.collect (idAt? fragments) (keysOf fragments)

/-- The references in an element's attributes, each to the first owner of its id. -/
def referencesOf (fragments : Array Fragment) (owners : Table String (List Key)) (key : Key) :
    List Reference :=
  let value (name : String) : String :=
    ((elementAt? fragments key).map (·.valueOf name)).getD ""
  referenceAttributes.flatMap fun name =>
    (words (value name)).map fun id =>
      { source := key, name, id, target := (owners.get? id).bind List.head? }

/-- The ids that several elements have, with those elements. -/
def duplicatesOf (owners : Table String (List Key)) : List (String × List Key) :=
  owners.filter fun entry => 1 < entry.2.length

/-! ## The merge -/

/-- One document from fragments, scripts and style sheets. -/
def merge (config : Config) (inputs : List FragmentInput) (scripts : List Script)
    (sheets : List StyleSheet) (scope : Json) : Document :=
  let (usable, diagnostics) := indexInputs 0 inputs
  let fragments := usable.toArray
  let index := CandidateIndex.build fragments
  let attached := (flattenScripts scripts).foldl (ActionPass.step fragments index) {}
  let ruled := (flattenSheets sheets).foldl (StylePass.rule fragments) { slots := attached.slots }
  let styled := (keysOf fragments).foldl (StylePass.inline fragments) ruled
  let owners := ownersTable fragments
  let references := (keysOf fragments).flatMap (referencesOf fragments owners)
  { fragments
    annotations := styled.slots
    actions := attached.actions
    orphanActions := attached.orphans
    orphanRules := ruled.orphans
    references
    duplicateIds := duplicatesOf owners
    diagnostics
    completeness := config.completeness.score usable.length (references.any Reference.crosses)
    scope
    opacityThreshold := config.opacityThreshold }

/-- The first breakdown over a selector that has to be parsed: those of actions that are no simple
selector of an element, then those of rules. Without elements nothing is matched. -/
def mergeBreakdown? (inputs : List FragmentInput) (scripts : List Script)
    (sheets : List StyleSheet) : Option Failure :=
  let fragments := (indexInputs 0 inputs).1.toArray
  let index := CandidateIndex.build fragments
  let use : Selector.Use := if fragments.isEmpty then .reading else .matching
  ((flattenScripts scripts).findSome? fun entry =>
    resolveBreakdown? fragments index entry.2.selector).orElse fun _ =>
    (flattenSheets sheets).findSome? fun entry => Selector.breakdown? use entry.2.selector

/-- One document from fragments, scripts and style sheets, if every selector can be dealt with. -/
def assemble (config : Config) (inputs : List FragmentInput) (scripts : List Script)
    (sheets : List StyleSheet) (scope : Json) : Except Failure Document :=
  match mergeBreakdown? inputs scripts sheets with
  | some why => .error why
  | none => .ok (merge config inputs scripts sheets scope)

end AccessAudit
