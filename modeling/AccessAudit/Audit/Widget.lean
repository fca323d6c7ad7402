import AccessAudit.Audit.Analyzer
import AccessAudit.Audit.Pattern
import AccessAudit.Document.Context

/-!
# Completeness of widgets

Every element whose role calls for a pattern is checked against it, facet by facet; a facet from
which something is missing is one issue that names all missing pieces. An element whose role needs
a container is checked for being inside one.

What is missing is a list of `Piece`s first and a text only at the end.
-/

namespace AccessAudit

open Text

/-! ## Missing pieces -/

/-- Something that a widget lacks. -/
inductive Piece where
  /-- A part with one of some roles. -/
  | ownedPart (roles : List String)
  /-- An element with a role anywhere in the document. -/
  | relatedElement (role : String)
  /-- An accessible name from one of some attributes. -/
  | accessibleName (names : List String)
  /-- A reference on an element. -/
  | reference (name element : String)
  /-- A reference on an element that leads somewhere. -/
  | resolvedReference (name element : String)
  /-- A reference on an element that leads to one of some roles. -/
  | roleReference (name element : String) (roles : List String)
  /-- A handler for one of some keys. -/
  | keyHandling (group : List String)
  /-- The focus. -/
  | focus
  /-- The move of the focus into the widget. -/
  | focusEntry
  /-- A state on an element. -/
  | state (name element : String)
  /-- The updates of a state on an element. -/
  | stateUpdates (name element : String)
  deriving DecidableEq, Repr

/-- Alternatives in words. -/
def alternatives (items : List String) : String := " or ".intercalate items

/-- A missing piece in words. -/
def Piece.text : Piece → String
  | ownedPart roles => "an owned element with role \"" ++ alternatives roles ++ "\""
  | relatedElement role => "a related element with role \"" ++ role ++ "\""
  | accessibleName names => "an accessible name (" ++ alternatives names ++ ")"
  | reference name element => name ++ " on " ++ element
  | resolvedReference name element =>
    name ++ " on " ++ element ++ " resolving to an existing element"
  | roleReference name element roles =>
    name ++ " on " ++ element ++ " pointing to an element with role \"" ++ alternatives roles ++
      "\""
  | keyHandling group => Pattern.describeGroup group ++ " key handling"
  | focus => "keyboard focus (tabindex=\"0\")"
  | focusEntry => "a focus change moving focus into the dialog"
  | state name element => name ++ " on " ++ element
  | stateUpdates name element =>
    "runtime updates of " ++ name ++ " on " ++ element ++ " (declared but static)"

/-- The criterion that a missing piece of keyboard support adds. -/
def Piece.criterion? : Piece → Option String
  | keyHandling group => if group.contains "Tab" then some "2.1.2" else none
  | focusEntry => some "2.4.3"
  | _ => none

/-- An enumeration in words. -/
def enumerate (items : List String) : String :=
  match items.getLast? with
  | none => ""
  | some last =>
    if items.length == 1 then last
    else ", ".intercalate items.dropLast ++ " and " ++ last

/-- A missing piece with the fix for it. -/
structure Gap where
  /-- The piece. -/
  piece : Piece
  /-- The fix. -/
  fix : Option Fix := none
  deriving DecidableEq, Repr

namespace Document

variable (d : Document)

/-- Whether an element has one of some roles. -/
def hasRole (roles : List String) (key : Key) : Except Failure Bool := do
  let role ← d.roleOf key
  pure (role.any roles.contains)

/-- A selector to point at an element with. -/
def pointer (key : Key) : String :=
  let e := d.element key
  match e.id?, e.explicitRole? with
  | some id, _ => "#" ++ id
  | none, some role => "[role=\"" ++ role ++ "\"]"
  | none, none => e.tag

end Document

namespace Widget

variable (d : Document)

/-- The name of the analyzer. -/
def analyzerName : String := "widget-pattern"

/-! ## Which pattern -/

/-- Whether an element has a role by nature, so that it needs no support by scripts. -/
def isNative (e : Element) (role : String) : Bool :=
  match role with
  | "button" => e.tag == "button" ||
      (e.tag == "input" && ["button", "submit", "reset", "image"].contains e.inputType)
  | "link" => (e.tag == "a" || e.tag == "area") && e.has "href"
  | _ => false

/-- Whether an element is a button that shows and hides something. -/
def isDisclosure (key : Key) : Except Failure Bool :=
  let e := d.element key
  if e.has "aria-expanded" && e.explicitRole?.all (· == "button") then d.hasRole ["button"] key
  else .ok false

/-- The pattern that an element has to fulfil, if there is one. -/
def patternFor? (key : Key) : Except Failure (Option Pattern) := do
  if ← isDisclosure d key then pure (some Pattern.disclosure)
  else
    let e := d.element key
    pure (e.explicitRole?.bind fun role =>
      if isNative e role then none else Pattern.forRole? role)

/-! ## Facets -/

/-- The parts and related elements that are missing. -/
def missingParts (p : Pattern) (parts : List Key) : Except Failure (List Gap) := do
  let owned ← p.parts.filterM fun roles => do
    let found ← parts.anyM (d.hasRole roles)
    pure !found
  let related ← p.related.filterM fun role => do
    let found ← d.withRole (some role)
    pure found.isEmpty
  pure (owned.map (⟨.ownedPart ·, none⟩) ++ related.map (⟨.relatedElement ·, none⟩))

/-- Whether an element has a label of its own. -/
def isLabelled (e : Element) : Bool :=
  !isBlankText (e.valueOf "aria-label") || !(words (e.valueOf "aria-labelledby")).isEmpty

/-- The name that is missing. -/
def missingName (key : Key) (p : Pattern) : List Gap :=
  if p.nameAttributes.isEmpty || isLabelled (d.element key) then []
  else [⟨.accessibleName p.nameAttributes,
    some { description := "Label the widget", name := some "aria-labelledby" }⟩]

/-- The elements that have to carry a reference: the parts of the role, or for want of such the
elements of the role that the widget or its parts refer to. -/
def relationHolders (key : Key) (parts : List Key) (rule : RelationRule) :
    Except Failure (List Key) :=
  match rule.holder with
  | none => .ok [key]
  | some role => do
    let owned ← parts.filterM (d.hasRole [role])
    if owned.isEmpty then
      let targets := d.references.filterMap fun r =>
        if (key :: parts).contains r.source then r.target else none
      let holders ← targets.filterM (d.hasRole [role])
      pure holders.eraseDups
    else pure owned

/-- What is missing from a reference. -/
def missingReference? (rule : RelationRule) (holder : Key) : Except Failure (Option Piece) := do
  let described := (d.element holder).describe
  let tokens := words (d.valueOf holder rule.name)
  let targets := tokens.filterMap d.elementById?
  if tokens.isEmpty then pure (some (.reference rule.name described))
  else if targets.isEmpty then pure (some (.resolvedReference rule.name described))
  else if rule.targets.isEmpty then pure none
  else
    let found ← targets.anyM (d.hasRole rule.targets)
    pure (if found then none else some (.roleReference rule.name described rule.targets))

/-- The references of a rule that are missing. -/
def missingReferences (key : Key) (parts : List Key) (rule : RelationRule) :
    Except Failure (List Gap) := do
  let holders ← relationHolders d key parts rule
  let gaps ← holders.mapM fun holder => do
    let piece ← missingReference? d rule holder
    pure (piece.map fun piece => (⟨piece, some {
      description := "Add " ++ rule.name, name := some rule.name
      selector := some (d.pointer holder) }⟩ : Gap))
  pure gaps.reduceOption

/-- The name and the references that are missing. -/
def missingRelations (key : Key) (p : Pattern) (parts : List Key) : Except Failure (List Gap) := do
  let gaps ← p.relations.mapM (missingReferences d key parts)
  pure (missingName d key p ++ gaps.flatten)

/-- The keys that an element handles. The platform fires a click when a native control is
activated. -/
def handledKeys (key : Key) : Except Failure (List String) := do
  let handlers := (d.actionsFor key).filter (·.event?.isSome)
  let keys ← (handlers.filter Action.isKeyboard).mapM Action.handledKeys
  let clicked := (d.element key).isNativeActivationControl && handlers.any Action.isClick
  pure (keys.flatten ++ if clicked then Pattern.activation else [])

/-- Whether a widget is modal. -/
def isModal (key : Key) : Bool :=
  normalize (d.valueOf key "aria-modal") == "true" ||
    (d.mutationsFor key).contains ("aria-modal", some "true")

/-- Whether the focus is moved into a widget. -/
def hasFocusEntry (key : Key) : Bool :=
  (key :: d.descendants key).any fun member =>
    (d.element member).has "autofocus" || (d.actionsFor member).any (·.deed == .focus .focus)

/-- The groups of keys of which none is handled. -/
def unhandled (groups : List (List String)) (keys : List String) : List (List String) :=
  groups.filter fun group => !group.any keys.contains

/-- The groups of keys that a widget has to handle. -/
def keyGroups (key : Key) (p : Pattern) : List (List String) :=
  if isModal d key then p.keyGroups ++ p.modalKeyGroups else p.keyGroups

/-- The keys and the focus that are missing. -/
def missingKeys (key : Key) (p : Pattern) (parts : List Key) : Except Failure (List Gap) := do
  let keys ← (key :: parts).mapM (handledKeys d)
  let groups := unhandled (keyGroups d key p) keys.flatten
  let focus := if p.takesFocus && !d.isFocusable key then [Piece.focus] else []
  let entry := if p.entersFocus && !hasFocusEntry d key then [Piece.focusEntry] else []
  pure ((groups.map Piece.keyHandling ++ focus ++ entry).map (⟨·, none⟩))

/-- The elements that have to declare a state. Native parts keep theirs by themselves. -/
def stateHolders (key : Key) (parts : List Key) (rule : StateRule) : List Key :=
  match rule.holder with
  | none => [key]
  | some role => parts.filter fun part => (d.element part).explicitRole? == some role

/-- What is missing from a state. -/
def missingState? (rule : StateRule) (holder : Key) : Option Piece :=
  let e := d.element holder
  let declared := e.has rule.name
  let written := (d.mutationsFor holder).any (·.1 == rule.name)
  if written then none
  else if !declared then some (.state rule.name e.describe)
  else if rule.changes then some (.stateUpdates rule.name e.describe)
  else none

/-- The states that are missing. -/
def missingStates (key : Key) (p : Pattern) (parts : List Key) : List Gap :=
  p.states.flatMap fun rule => (stateHolders d key parts rule).filterMap fun holder =>
    (missingState? d rule holder).map fun piece => ⟨piece, some {
      description := "Declare and update " ++ rule.name, name := some rule.name
      value := some rule.sample, selector := some (d.pointer holder) }⟩

/-! ## Findings -/

/-- The criteria that are missed when a facet is incomplete. -/
def criteria (facet : Facet) (gaps : List Gap) : List String :=
  match facet with
  | .parts => ["1.3.1"]
  | .relations => ["1.3.1", "4.1.2"]
  | .keyboard => ("2.1.1" :: gaps.filterMap (·.piece.criterion?)).eraseDups
  | .state => ["4.1.2"]

/-- The finding for the missing pieces of a facet, if there are any. -/
def finding? (key : Key) (p : Pattern) (facet : Facet) (gaps : List Gap) : Option Finding :=
  match gaps with
  | [] => none
  | first :: _ => some {
      kind := p.kind facet
      message := p.name ++ " widget " ++ (d.element key).describe ++ " is missing " ++
        enumerate (gaps.map (·.piece.text))
      criteria := criteria facet gaps
      spot := d.spotOf key
      fix := first.fix }

/-- What is wrong with a widget. -/
def checkWidget (key : Key) (p : Pattern) : Except Failure (List Finding) := do
  let parts := d.owned key
  let structural ← missingParts d p parts
  let relations ← missingRelations d key p parts
  let keys ← missingKeys d key p parts
  pure ([finding? d key p .parts structural, finding? d key p .relations relations,
    finding? d key p .keyboard keys,
    finding? d key p .state (missingStates d key p parts)].reduceOption)

/-- Whether an element is owned by one of some containers through an attribute. -/
def isAdopted (key : Key) (containers : List String) : Except Failure Bool :=
  match (d.element key).id? with
  | none => .ok false
  | some id => d.keys.anyM fun other => do
    let fits ← d.hasRole containers other
    pure (fits && (words (d.valueOf other "aria-owns")).contains id)

/-- The finding for a role outside its containers. -/
def misplaced (key : Key) (role : String) (containers : List String) : Finding :=
  { kind := Pattern.misplacedKind role
    message := (d.element key).describe ++ " has role \"" ++ role ++
      "\" but is not inside an element with role \"" ++ alternatives containers ++ "\""
    criteria := ["1.3.1"]
    spot := d.spotOf key }

/-- What is wrong with the place of an element whose role needs a container. -/
def checkPlace (key : Key) (role : String) : Except Failure (List Finding) :=
  match Pattern.containers.get? role with
  | none => .ok []
  | some containers => do
    let enclosed ← (d.ancestors key).anyM (d.hasRole containers)
    if enclosed then pure []
    else
      let adopted ← isAdopted d key containers
      pure (if adopted then [] else [misplaced d key role containers])

/-- What is wrong with an element. -/
def checkElement (key : Key) : Except Failure (List Finding) := do
  let pattern ← patternFor? d key
  let findings ← match pattern with
    | some p => checkWidget d key p
    | none => pure []
  let placed ← match (d.element key).explicitRole? with
    | some role => checkPlace d key role
    | none => pure []
  pure (findings ++ placed)

/-- The issues of a document. -/
def analyze (context : AnalysisContext) : Except Failure (List Issue) := do
  let findings ← d.keys.mapM (checkElement d)
  pure (findings.flatten.map (·.issue analyzerName context))

/-! ## Actions without markup -/

/-- A role that a script gives to an element. -/
structure RoleChange where
  /-- The selector of the element. -/
  selector : String
  /-- The role. -/
  role : String
  /-- The action. -/
  action : Action

/-- The roles that actions give to elements. -/
def roleChanges (actions : List Action) : List RoleChange :=
  actions.filterMap fun a =>
    match a.deed with
    | .mutate "role" value => some ⟨a.selector, normalize (value.getD ""), a⟩
    | _ => none

/-- Role changes without those that repeat an earlier one. -/
def distinctChanges (changes : List RoleChange) : List RoleChange :=
  changes.eraseDupsBy fun a b => a.selector == b.selector && a.role == b.role

/-- The keys that handlers with a selector cover. -/
def keysFor (actions : List Action) (selector : String) : Except Failure (List String) := do
  let handlers := actions.filter fun a => a.isKeyboard && a.selector == selector
  let keys ← handlers.mapM Action.handledKeys
  pure keys.flatten

/-- What is wrong with a role that a script gives to an element. -/
def checkChange (actions : List Action) (change : RoleChange) : Except Failure (List Finding) :=
  match Pattern.forRole? change.role with
  | none => .ok []
  | some p => do
    let keys ← keysFor actions change.selector
    match unhandled p.keyGroups keys with
    | [] => pure []
    | groups => pure [{
        kind := p.kind .keyboard
        message := "\"" ++ change.selector ++ "\" is given role \"" ++ change.role ++
          "\" at runtime but no handler in this file covers " ++
          enumerate (groups.map fun group => (Piece.keyHandling group).text) ++
          "; the handler may live in another file"
        criteria := ["2.1.1"]
        spot := change.action.spot ""
        level := some .low }]

/-- The issues of actions without any markup. -/
def analyzeActions (actions : List Action) (context : AnalysisContext) :
    Except Failure (List Issue) := do
  let findings ← (distinctChanges (roleChanges actions)).mapM (checkChange actions)
  pure (findings.flatten.map (·.issue analyzerName context))

/-! ## The analyzer -/

/-- The kinds that the check of a facet declares: those that end with its name. -/
def facetKinds (facet : Facet) : List String :=
  Pattern.allKinds.filter fun kind => ("-" ++ facet.name).toList.isSuffixOf kind.toList

/-- The kinds that the check of places declares. -/
def placeKinds : List String :=
  Pattern.allKinds.filter fun kind => "misplaced-".toList.isPrefixOf kind.toList

/-- Checks every widget against its pattern. -/
def analyzer : Analyzer :=
  { name := analyzerName
    description := "Widget-pattern completeness (structure, relations, keyboard, state)"
    kinds := facetKinds .parts ++ facetKinds .relations ++ facetKinds .keyboard ++
      facetKinds .state ++ placeKinds
    analyze, analyzeActions }

end Widget

end AccessAudit
