import AccessAudit.Audit.Analyzer
import AccessAudit.Document.Context
import AccessAudit.Selector.Nesting

/-!
# Conflicts between markup, scripts and style

Contradictions between the three: elements that take the focus but are hidden, handlers for the
pointer without a counterpart for the keyboard, and focus that is moved to something invisible.
-/

namespace AccessAudit

namespace Conflict

variable (d : Document)

/-- The name of the analyzer. -/
def analyzerName : String := "cross-model-conflict"

/-- The kind of issue for an element that takes the focus but is hidden. -/
def focusableHiddenKind : String := "focusable-hidden"

/-- The kind of issue for a pointer handler without a keyboard handler. -/
def mouseOnlyKind : String := "mouse-only-click"

/-- The kind of issue for an element that takes the focus but is hidden from assistive
technology. -/
def ariaHiddenKind : String := "aria-hidden-focusable"

/-- The kind of issue for an element with handlers that is hidden from assistive technology. -/
def interactiveHiddenKind : String := "interactive-element-hidden"

/-- The kind of issue for focus that is moved to something invisible. -/
def focusToHiddenKind : String := "focus-to-hidden"

/-! ## Facts about an element -/

/-- Why an element takes the focus, in words. -/
def focusReason (e : Element) : String :=
  match e.tabIndex? with
  | some n => if 0 ≤ n then "tabindex=\"" ++ toString n ++ "\"" else "tabindex set at runtime"
  | none =>
    if e.isNativelyFocusable then "native <" ++ e.tag ++ ">" else "tabindex set at runtime"

/-- Why an element is hidden, if it is and stays so while it has the focus. Links that only show
while they have the focus are not hidden in this sense. -/
def lastingReason? (c : ElementContext) : Option String :=
  if (d.hiddenReason? c.key focusStates).isSome then c.hiddenReason else none

/-- The handlers attached to an element. -/
def handlers (key : Key) : List Action := (d.actionsFor key).filter (·.event?.isSome)

/-- The events of handlers in words. -/
def events (handlers : List Action) : String :=
  "/".intercalate (sortTexts (handlers.filterMap Action.event?))

/-- What takes an element out of the tabbing order. -/
def untabbable (description : String) : Fix :=
  { description, name := some "tabindex", value := some "-1" }

/-! ## Checks -/

/-- Elements that take the focus must not be hidden. -/
def checkFocusableHidden (c : ElementContext) : List Finding :=
  match if c.focusable then lastingReason? d c else none with
  | none => []
  | some reason => [{
      kind := focusableHiddenKind
      message := (d.element c.key).describe ++ " is focusable (" ++ focusReason (d.element c.key) ++
        ") but hidden by " ++ reason ++ "; keyboard users can tab to an invisible element"
      criteria := ["2.4.3", "2.4.7"]
      spot := d.spotOf c.key
      fix := some (untabbable "Remove the element from the tab order while it is hidden") }]

/-- Code that handles the keys that activate a control. -/
def keyHandlerSnippet : String :=
  "element.addEventListener('keydown', (event) => \x7b\n" ++
  "  if (event.key === 'Enter' || event.key === ' ') \x7b\n" ++
  "    event.preventDefault();\n" ++
  "    element.click();\n" ++
  "  \x7d\n" ++
  "\x7d);"

/-- What handles the pointer has to handle the keyboard. -/
def checkMouseOnly (c : ElementContext) : List Finding :=
  if c.clickHandler && !c.keyboardHandler && !(d.element c.key).isNativelyKeyboardActivated then
    let clicks := (handlers d c.key).filter Action.isClick
    [{ kind := mouseOnlyKind
       message := (d.element c.key).describe ++ " has a " ++ events clicks ++
         " handler but no keydown, keyup or keypress handler in any analyzed fragment"
       criteria := ["2.1.1"]
       spot := d.spotOf c.key
       fix := some {
         description := "Handle Enter and Space in a keydown listener"
         snippet := some keyHandlerSnippet }
       related := (clicks.filter (·.location.isSome)).map (·.spot "") }]
  else []

/-- Elements that take the focus must not be hidden from assistive technology. -/
def checkAriaHidden (c : ElementContext) : List Finding :=
  if c.focusable && d.isAriaHidden c.key then
    [{ kind := ariaHiddenKind
       message := (d.element c.key).describe ++ " is focusable (" ++
         focusReason (d.element c.key) ++ ") but is inside aria-hidden=\"true\"; " ++
         "screen readers cannot announce it when it receives focus"
       criteria := ["4.1.2"]
       spot := d.spotOf c.key
       fix := some (untabbable "Remove the element from the tab order") }]
  else []

/-- Elements with handlers must not be hidden from assistive technology. Those that take the focus
are reported as such. -/
def checkInteractiveHidden (c : ElementContext) : List Finding :=
  let handlers := handlers d c.key
  if !handlers.isEmpty && !c.focusable && d.isAriaHidden c.key then
    [{ kind := interactiveHiddenKind
       message := (d.element c.key).describe ++ " has " ++ events handlers ++
         " handler(s) but is inside aria-hidden=\"true\"; " ++
         "assistive technology hides an element users can still operate"
       criteria := ["4.1.2"]
       spot := d.spotOf c.key
       fix := some {
         description :=
           "Remove aria-hidden from the element and its ancestors, or remove the handlers"
         name := some "aria-hidden" }
       related := handlers.map fun h => h.spot (d.sourceOfAction h) }]
  else []

/-- The actions that move the focus to an element. -/
def focusMoves (key : Key) : List Action := (d.actionsFor key).filter (·.deed == .focus .focus)

/-- The finding for an action that moves the focus to a hidden element. -/
def focusToHidden (key : Key) (reason : String) (a : Action) : Finding :=
  let source := d.sourceOfAction a
  { kind := focusToHiddenKind
    message := "focus() moves focus to " ++ (d.element key).describe ++ " (\"" ++ a.selector ++
      "\"), which is hidden by " ++ reason
    criteria := ["2.4.3", "2.4.7"]
    spot := a.spot (if source.isEmpty then d.sourceOf key else source)
    related := [d.spotOf key] }

/-- Focus must not be moved to something invisible. -/
def checkFocusToHidden (c : ElementContext) : List Finding :=
  match lastingReason? d c with
  | none => []
  | some reason => (focusMoves d c.key).map (focusToHidden d c.key reason)

/-- What is wrong with an element. -/
def checkElement (key : Key) : Except Failure (List Finding) := do
  let c ← d.context key
  pure (checkFocusableHidden d c ++ checkMouseOnly d c ++ checkAriaHidden d c ++
    checkInteractiveHidden d c ++ checkFocusToHidden d c)

/-- The issues of a document. -/
def analyze (context : AnalysisContext) : Except Failure (List Issue) := do
  let findings ← d.keys.mapM (checkElement d)
  pure (findings.flatten.map (·.issue analyzerName context))

/-! ## Actions without markup -/

/-- Tags of elements that handle the keyboard by themselves. -/
def keyboardTags : List String := ["button", "select", "summary", "textarea", "input"]

/-- Whether a simple selector asks for an element that handles the keyboard by itself. -/
def asksForControl : Selector.Simple → Bool
  | .type name => keyboardTags.contains name
  | _ => false

/-- Whether a selector selects only elements that handle the keyboard by themselves. -/
def selectsControls (selector : String) : Except Failure Bool :=
  match Selector.breakdown? .reading selector, SelectorList.parse selector with
  | some why, _ => .error why
  | none, .ok list => .ok (list.all fun branch => branch.subject.any asksForControl)
  | none, .error _ => .ok false

/-- The selectors of handlers, each once, in order of their first use. -/
def handledSelectors (actions : List Action) : List String :=
  ((actions.filter (·.event?.isSome)).map Action.selector).filter (!·.isEmpty) |>.eraseDups

/-- The finding for a selector whose first mouse handler is given. -/
def mouseOnlyFinding (selector : String) (first : Action) : Finding :=
  { kind := mouseOnlyKind
    message := "\"" ++ selector ++ "\" has a " ++ first.event?.getD "" ++
      " handler but no keyboard handler in this file; " ++
      "the keyboard handler may live in another file"
    criteria := ["2.1.1"]
    spot := first.spot ""
    severity := some .warning
    level := some .low }

/-- What is wrong with the handlers for a selector. -/
def checkSelector (actions : List Action) (selector : String) : Except Failure (Option Finding) :=
  let handlers := actions.filter fun a => a.event?.isSome && a.selector == selector
  match handlers.filter Action.isClick with
  | [] => .ok none
  | first :: _ =>
    if handlers.any Action.isKeyboard then .ok none
    else do
      let native ← selectsControls selector
      pure (if native then none else some (mouseOnlyFinding selector first))

/-- The issues of actions without any markup. -/
def analyzeActions (actions : List Action) (context : AnalysisContext) :
    Except Failure (List Issue) := do
  let findings ← (handledSelectors actions).mapM (checkSelector actions)
  pure ((findings.filterMap id).map (·.issue analyzerName context))

/-- Finds contradictions between markup, scripts and style. -/
def analyzer : Analyzer :=
  { name := analyzerName
    description := "Conflicts between structure, behavior and style"
    kinds := [focusableHiddenKind, mouseOnlyKind, ariaHiddenKind, interactiveHiddenKind,
      focusToHiddenKind]
    analyze
    analyzeActions }

end Conflict

end AccessAudit
