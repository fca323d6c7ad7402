import AccessAudit.Document.Visibility

/-!
# Elements in context

What follows for an element from structure, behavior and style taken together: whether it takes the
focus, its accessible name, its role, the handlers attached to it, and whether it is hidden.
-/

namespace AccessAudit

open Text

/-- An element with all that is known about it. -/
structure ElementContext where
  /-- The key. -/
  key : Key
  /-- Whether it takes the focus. -/
  focusable : Bool
  /-- Whether users interact with it. -/
  interactive : Bool
  /-- Whether it handles pointer events. -/
  clickHandler : Bool
  /-- Whether it handles keyboard events. -/
  keyboardHandler : Bool
  /-- Its role. -/
  role : Option String
  /-- Its accessible name. -/
  name : String
  /-- Why it is hidden, if it is. -/
  hiddenReason : Option String

namespace Document

variable (d : Document)

/-- Whether an element takes the focus: a script puts it into the tabbing order, or its attribute
decides, or else its nature. -/
def isFocusable (key : Key) : Bool :=
  let given := (d.mutationsFor key).any fun (name, value) =>
    name == "tabindex" && (value.bind wholeNumber?).any (0 ≤ ·)
  given ||
    match (d.element key).tabIndex? with
    | some n => 0 ≤ n
    | none => (d.element key).isNativelyFocusable

/-- The text of an element that labels another. -/
def labelText (key : Key) : String :=
  let label := strip (d.valueOf key "aria-label")
  if label.isEmpty then d.textContent key else label

/-- The texts of the elements that label an element. -/
def labels (key : Key) : List String :=
  ((words (d.valueOf key "aria-labelledby")).filterMap d.elementById?).map d.labelText
    |>.filter (!·.isEmpty)

/-- The accessible name: the labels, or else the first text that is not blank among those that may
name the element. -/
def accessibleName (key : Key) : String :=
  let labels := d.labels key
  if labels.isEmpty then
    let texts := [d.valueOf key "aria-label", d.textContent key, d.valueOf key "alt",
      d.valueOf key "value", d.valueOf key "placeholder", d.valueOf key "title"]
    ((texts.map strip).find? (!·.isEmpty)).getD ""
  else " ".intercalate labels

/-- An element with all that is known about it. -/
def context (key : Key) : Except Failure ElementContext := do
  let handlers := (d.actionsFor key).filter (·.event?.isSome)
  let focusable := d.isFocusable key
  let role ← d.roleOf key
  pure {
    key, focusable, role
    interactive := !handlers.isEmpty || focusable || role.any widgetRoles.contains
    clickHandler := handlers.any Action.isClick
    keyboardHandler := handlers.any Action.isKeyboard
    name := d.accessibleName key
    hiddenReason := d.hiddenReason? key [] }

end Document

end AccessAudit
