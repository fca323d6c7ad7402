import AccessAudit.Style.Cascade

/-!
# Widget patterns

What a complete widget needs, pattern by pattern: the parts it owns and the elements it relates to,
the references between them, the keys it handles, and the states it keeps. Some roles only make
sense inside a container; those containers are listed here as well.
-/

namespace AccessAudit

/-- A reference that the widget, or each of its parts of a role, has to carry. -/
structure RelationRule where
  /-- The role of the parts that carry it; none for the widget itself. -/
  holder : Option String
  /-- The attribute. -/
  name : String
  /-- The roles of which the target has one; any role when there are none. -/
  targets : List String := []
  deriving DecidableEq, Repr

/-- A state that the widget, or each of its parts of a role, has to declare. -/
structure StateRule where
  /-- The role of the parts that declare it; none for the widget itself. -/
  holder : Option String
  /-- The attribute. -/
  name : String
  /-- Whether a script has to update it. -/
  changes : Bool := true
  /-- A value to suggest. -/
  sample : String := "false"
  deriving DecidableEq, Repr

/-- What a complete widget needs. -/
structure Pattern where
  /-- The name. -/
  name : String
  /-- The roles that call for the pattern. -/
  roles : List String
  /-- For each part it owns, the roles that the part may have. -/
  parts : List (List String) := []
  /-- The roles that have to occur in the document. -/
  related : List String := []
  /-- The references it needs. -/
  relations : List RelationRule := []
  /-- The attributes that may name it; none when it needs no name. -/
  nameAttributes : List String := []
  /-- Groups of keys; of each group, one key has to be handled. -/
  keyGroups : List (List String) := []
  /-- Groups of keys that a modal widget has to handle as well. -/
  modalKeyGroups : List (List String) := []
  /-- The states it needs. -/
  states : List StateRule := []
  /-- Whether the focus has to be moved into it. -/
  entersFocus : Bool := false
  /-- Whether it has to take the focus. -/
  takesFocus : Bool := false
  deriving DecidableEq, Repr

/-- A side of a widget that is checked on its own. -/
inductive Facet where
  /-- The parts. -/
  | parts
  /-- The references. -/
  | relations
  /-- The keys. -/
  | keyboard
  /-- The states. -/
  | state
  deriving DecidableEq, Repr

/-- The word for a facet. -/
def Facet.name : Facet → String
  | parts => "structure"
  | relations => "relations"
  | keyboard => "keyboard"
  | state => "state"

namespace Pattern

/-- The keys that activate a control. -/
def activation : List String := ["Enter", " "]

/-- The roles of items in a menu. -/
def menuItems : List String := ["menuitem", "menuitemcheckbox", "menuitemradio"]

/-- A button that shows and hides something. -/
def disclosure : Pattern :=
  { name := "disclosure", roles := []
    relations := [⟨none, "aria-controls", []⟩]
    keyGroups := [activation]
    states := [⟨none, "aria-expanded", true, "false"⟩] }

/-- All patterns. -/
def all : List Pattern := [
  { name := "tablist", roles := ["tablist"], parts := [["tab"]], related := ["tabpanel"]
    relations := [⟨some "tab", "aria-controls", ["tabpanel"]⟩,
      ⟨some "tabpanel", "aria-labelledby", ["tab"]⟩]
    keyGroups := [["ArrowRight", "ArrowDown"], ["ArrowLeft", "ArrowUp"]]
    states := [⟨some "tab", "aria-selected", true, "true"⟩] },
  { name := "dialog", roles := ["dialog", "alertdialog"]
    nameAttributes := ["aria-labelledby", "aria-label"]
    keyGroups := [["Escape"]], modalKeyGroups := [["Tab"]]
    states := [⟨none, "aria-modal", false, "true"⟩]
    entersFocus := true },
  { name := "combobox", roles := ["combobox"]
    relations := [⟨none, "aria-controls", ["listbox", "tree", "grid", "dialog"]⟩]
    keyGroups := [["ArrowDown", "ArrowUp"], ["Escape"]]
    states := [⟨none, "aria-expanded", true, "false"⟩]
    takesFocus := true },
  { name := "listbox", roles := ["listbox"], parts := [["option"]]
    keyGroups := [["ArrowDown", "ArrowRight"], ["ArrowUp", "ArrowLeft"]]
    states := [⟨some "option", "aria-selected", true, "false"⟩] },
  { name := "menu", roles := ["menu"], parts := [menuItems]
    keyGroups := [["ArrowDown"], ["ArrowUp"], ["Escape"]] },
  { name := "menubar", roles := ["menubar"], parts := [menuItems]
    keyGroups := [["ArrowRight"], ["ArrowLeft"]] },
  { name := "tree", roles := ["tree"], parts := [["treeitem"]]
    keyGroups := [["ArrowDown"], ["ArrowUp"], ["ArrowRight"], ["ArrowLeft"]] },
  { name := "radiogroup", roles := ["radiogroup"], parts := [["radio"]]
    keyGroups := [["ArrowDown", "ArrowRight"], ["ArrowUp", "ArrowLeft"]]
    states := [⟨some "radio", "aria-checked", true, "false"⟩] },
  { name := "grid", roles := ["grid", "treegrid"], parts := [["row"]]
    keyGroups := [["ArrowRight"], ["ArrowLeft"], ["ArrowDown"], ["ArrowUp"]] },
  { name := "toolbar", roles := ["toolbar"]
    keyGroups := [["ArrowRight", "ArrowDown"], ["ArrowLeft", "ArrowUp"]] },
  { name := "slider", roles := ["slider"]
    keyGroups := [["ArrowRight", "ArrowUp"], ["ArrowLeft", "ArrowDown"]]
    states := [⟨none, "aria-valuenow", true, "0"⟩, ⟨none, "aria-valuemin", false, "0"⟩,
      ⟨none, "aria-valuemax", false, "100"⟩]
    takesFocus := true },
  { name := "spinbutton", roles := ["spinbutton"]
    keyGroups := [["ArrowUp"], ["ArrowDown"]]
    states := [⟨none, "aria-valuenow", true, "0"⟩]
    takesFocus := true },
  { name := "switch", roles := ["switch"], keyGroups := [activation]
    states := [⟨none, "aria-checked", true, "false"⟩]
    takesFocus := true },
  { name := "checkbox", roles := ["checkbox"], keyGroups := [[" "]]
    states := [⟨none, "aria-checked", true, "false"⟩]
    takesFocus := true },
  { name := "button", roles := ["button"], keyGroups := [activation], takesFocus := true },
  { name := "link", roles := ["link"], keyGroups := [["Enter"]], takesFocus := true },
  disclosure]

/-- The pattern that a role calls for. -/
def forRole? (role : String) : Option Pattern := all.find? (·.roles.contains role)

/-- The containers inside which a role makes sense, for roles that need one. -/
def containers : Entries (List String) := [
  ("tab", ["tablist"]),
  ("option", ["listbox", "combobox", "group"]),
  ("menuitem", ["menu", "menubar", "group"]),
  ("menuitemcheckbox", ["menu", "menubar", "group"]),
  ("menuitemradio", ["menu", "menubar", "group"]),
  ("treeitem", ["tree", "group"]),
  ("radio", ["radiogroup"]),
  ("row", ["grid", "treegrid", "table", "rowgroup"]),
  ("gridcell", ["row"])]

/-! ## Kinds of issues -/

/-- The kind of issue for a facet that is incomplete. -/
def kind (p : Pattern) (facet : Facet) : String := "incomplete-" ++ p.name ++ "-" ++ facet.name

/-- The kinds of issues for a pattern. -/
def kinds (p : Pattern) : List String :=
  [p.kind .parts, p.kind .relations, p.kind .keyboard, p.kind .state]

/-- The kind of issue for a role outside its containers. -/
def misplacedKind (role : String) : String := "misplaced-" ++ role

/-- The kinds of issues for all patterns and roles. -/
def allKinds : List String := all.flatMap kinds ++ containers.names.map misplacedKind

/-! ## Keys in words -/

/-- The name of a key. -/
def keyName (key : String) : String := if key == " " then "Space" else key

/-- A group of keys in words, sorted, the space key last. -/
def describeGroup (group : List String) : String :=
  let keys := sortTexts group
  "/".intercalate ((keys.filter (· != " ") ++ keys.filter (· == " ")).map keyName)

end Pattern

end AccessAudit
