import AccessAudit.Failure
import AccessAudit.Markup.Element
import AccessAudit.Number.Reading

/-!
# Roles and native behavior

The role that an element has without saying so, and what the platform does with it by itself:
whether it takes the focus, whether the keyboard activates it.

The role of a selection list depends on its size. A size may consist of digits that are no decimal
digits, such as a superscript, or of more digits than can be read; then it has no value and the role
cannot be told.
-/

namespace AccessAudit

open Text Number

/-- The whole number that a text writes, blanks around it aside. -/
def wholeNumber? (s : String) : Option Int := readInt? (strip s)

/-- Roles that tags stand for. -/
def implicitRoles : Entries String := [
  ("article", "article"), ("aside", "complementary"), ("button", "button"),
  ("datalist", "listbox"), ("details", "group"), ("dialog", "dialog"), ("fieldset", "group"),
  ("footer", "contentinfo"), ("form", "form"), ("h1", "heading"), ("h2", "heading"),
  ("h3", "heading"), ("h4", "heading"), ("h5", "heading"), ("h6", "heading"),
  ("header", "banner"), ("hr", "separator"), ("img", "img"), ("li", "listitem"),
  ("main", "main"), ("menu", "list"), ("meter", "meter"), ("nav", "navigation"), ("ol", "list"),
  ("optgroup", "group"), ("option", "option"), ("output", "status"),
  ("progress", "progressbar"), ("section", "region"), ("table", "table"),
  ("tbody", "rowgroup"), ("thead", "rowgroup"), ("tfoot", "rowgroup"), ("td", "cell"),
  ("textarea", "textbox"), ("th", "columnheader"), ("tr", "row"), ("ul", "list")]

/-- Roles that the types of input fields stand for. -/
def inputRoles : Entries String := [
  ("button", "button"), ("submit", "button"), ("reset", "button"), ("image", "button"),
  ("checkbox", "checkbox"), ("radio", "radio"), ("range", "slider"), ("number", "spinbutton"),
  ("search", "searchbox"), ("email", "textbox"), ("tel", "textbox"), ("text", "textbox"),
  ("url", "textbox")]

/-- Roles of interactive components. -/
def widgetRoles : List String := [
  "button", "checkbox", "combobox", "grid", "gridcell", "link", "listbox", "menu", "menubar",
  "menuitem", "menuitemcheckbox", "menuitemradio", "option", "radio", "radiogroup", "scrollbar",
  "searchbox", "slider", "spinbutton", "switch", "tab", "tablist", "textbox", "tree", "treegrid",
  "treeitem"]

/-- Tags that take the focus by themselves. -/
def focusableTags : List String := ["button", "select", "textarea", "summary", "iframe"]

/-- Types of input fields that act like buttons. -/
def buttonInputTypes : List String :=
  ["button", "submit", "reset", "image", "checkbox", "radio", "file", "color"]

/-- Types of input fields that a list of suggestions turns into a combination field. -/
def suggestingInputTypes : List String := ["text", "search", "email", "tel", "url"]

namespace Element

/-- The type of an input field; a text field when none is given. -/
def inputType (e : Element) : String :=
  let value := e.valueOf "type"
  normalize (if value.isEmpty then "text" else value)

/-- Whether a size shows more than one line. -/
def showsSeveral (size : String) : Except Failure Bool :=
  if size.isEmpty || !size.toList.all isDigitLike then .ok false
  else
    match readInt size with
    | .ok n => .ok (1 < n)
    | .error .malformed => .error (.badNumeral size)
    | .error (.tooLong digits) => .error (.longNumeral digits)

/-- The role that the element has without saying so. -/
def implicitRole (e : Element) : Except Failure (Option String) :=
  if e.tag == "a" || e.tag == "area" then .ok (if e.has "href" then some "link" else none)
  else if e.tag == "input" then
    if e.inputType == "hidden" then .ok none
    else if e.has "list" && suggestingInputTypes.contains e.inputType then .ok (some "combobox")
    else .ok (some ((inputRoles.get? e.inputType).getD "textbox"))
  else if e.tag == "select" then
    if e.has "multiple" then .ok (some "listbox")
    else do
      let several ← showsSeveral (strip (e.valueOf "size"))
      pure (some (if several then "listbox" else "combobox"))
  else if e.tag == "img" && e.get? "alt" == some "" then .ok (some "presentation")
  else .ok (implicitRoles.get? e.tag)

/-- The role that the element says it has, or else the one it has by itself. -/
def role (e : Element) : Except Failure (Option String) :=
  match e.explicitRole? with
  | some role => .ok (some role)
  | none => e.implicitRole

/-- Whether the element is switched off. -/
def isDisabled (e : Element) : Bool := e.has "disabled"

/-- Whether the element takes the focus by itself. -/
def isNativelyFocusable (e : Element) : Bool :=
  if e.isDisabled then false
  else if e.tag == "a" || e.tag == "area" then e.has "href"
  else if e.tag == "input" then e.inputType != "hidden"
  else if focusableTags.contains e.tag then true
  else (e.get? "contenteditable").any fun value => normalize value != "false"

/-- Whether the platform fires the element's click from the keyboard. -/
def isNativelyKeyboardActivated (e : Element) : Bool :=
  if ["button", "summary", "select", "textarea"].contains e.tag then true
  else if e.tag == "a" || e.tag == "area" then e.has "href"
  else e.tag == "input" && e.inputType != "hidden"

/-- Whether the element is a button, or an input field that acts like one. -/
def isNativeActivationControl (e : Element) : Bool :=
  e.tag == "button" || (e.tag == "input" && buttonInputTypes.contains e.inputType)

/-- The place in the tabbing order. -/
def tabIndex? (e : Element) : Option Int := (e.get? "tabindex").bind wholeNumber?

end Element

end AccessAudit
