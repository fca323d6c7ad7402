import AccessAudit.Behavior.Keyboard
import AccessAudit.Location
import AccessAudit.Text.Lower

/-!
# Actions

What a script does to an element: it handles an event, moves the focus, changes an attribute, or
navigates. An action refers to its element by a selector or an id.

An action is read from an object whose `kind` tells the variant, and `dump` writes it in the form
in which it is read.
-/

namespace AccessAudit

open Text

/-- How an action refers to its element. -/
structure ElementReference where
  /-- A selector. -/
  selector : Option String := none
  /-- The name the element is bound to. -/
  binding : Option String := none
  /-- An id. -/
  id : Option String := none
  deriving DecidableEq, Repr

/-- When an action happens. -/
inductive Timing where
  | immediate
  | delayed
  | conditional
  | deferred
  deriving DecidableEq, Repr

/-- What is done to the focus. -/
inductive FocusMethod where
  | focus
  | blur
  deriving DecidableEq, Repr

/-- What an action does. -/
inductive Deed where
  /-- Handles an event. -/
  | handle (event : String) (body : Option String)
  /-- Moves the focus to the element or away from it. -/
  | focus (method : FocusMethod)
  /-- Changes an attribute. -/
  | mutate (name : String) (value : Option String)
  /-- Goes elsewhere. -/
  | navigate (target : String)
  deriving DecidableEq, Repr

/-- Something that a script does to an element. -/
structure Action where
  /-- The element. -/
  element : ElementReference := {}
  /-- When. -/
  timing : Timing := .immediate
  /-- What else is known. -/
  metadata : Entries Json := []
  /-- The place in the source. -/
  location : Option Location := none
  /-- What is done. -/
  deed : Deed

/-- The actions of one script. -/
structure Script where
  /-- The name of the source; empty when it has none. -/
  source : String := ""
  /-- The actions in order. -/
  actions : List Action := []

/-- The selector that a reference amounts to; empty when it has none. -/
def ElementReference.effectiveSelector (r : ElementReference) : String :=
  match r.selector.map strip with
  | some selector => if selector.isEmpty then byId else selector
  | none => byId
where
  /-- The selector for the id. -/
  byId : String :=
    match r.id.map strip with
    | some id => if id.isEmpty then "" else "#" ++ id
    | none => ""

/-- The word for a timing. -/
def Timing.name : Timing → String
  | immediate => "immediate"
  | delayed => "delayed"
  | conditional => "conditional"
  | deferred => "deferred"

/-- The word for a focus method. -/
def FocusMethod.name : FocusMethod → String
  | focus => "focus"
  | blur => "blur"

/-- The word for what an action does. -/
def Deed.kind : Deed → String
  | handle .. => "event-handler"
  | focus _ => "focus-change"
  | mutate .. => "state-mutation"
  | navigate _ => "navigation"

/-! ## Events -/

/-- Events that a pointer fires. -/
def clickEvents : List String :=
  ["click", "dblclick", "mousedown", "mouseup", "pointerdown", "pointerup"]

/-- Events that the keyboard fires. -/
def keyboardEvents : List String := ["keydown", "keypress", "keyup"]

/-- The name of an event without the `on` of its attribute. -/
def eventName (s : String) : String :=
  match (normalize s).toList with
  | 'o' :: 'n' :: c :: rest => String.ofList (c :: rest)
  | _ => normalize s

namespace Action

/-- The selector of the element. -/
def selector (a : Action) : String := a.element.effectiveSelector

/-- The event that is handled. -/
def event? (a : Action) : Option String :=
  match a.deed with
  | .handle event _ => some event
  | _ => none

/-- Whether the action handles a pointer event. -/
def isClick (a : Action) : Bool := a.event?.any clickEvents.contains

/-- Whether the action handles a keyboard event. -/
def isKeyboard (a : Action) : Bool := a.event?.any keyboardEvents.contains

/-- The items that a value lists: an empty value lists none, a text its characters, an object its
field names. -/
def listedKeys (v : Json) : Except Failure (List String) :=
  if v.isEmpty then .ok []
  else
    match v with
    | .arr items => .ok (items.map Json.text)
    | .str s => .ok (s.toList.map Char.toString)
    | .obj fields => .ok (fields.map Prod.fst)
    | other => .error (.notIterable other.kind)

/-- The keys that the action handles: those it lists, and those its body refers to. -/
def handledKeys (a : Action) : Except Failure (List String) :=
  match a.deed with
  | .handle _ body => do
    let listed ← listedKeys ((a.metadata.get? "keys").getD .null)
    let noted := match a.metadata.get? "handler_body" with
      | some v => if v.isEmpty then "" else v.text
      | none => ""
    let scanned := Keyboard.scan (body.getD "") ++ Keyboard.scan noted
    pure (listed.map Keyboard.normalize ++ scanned).eraseDups
  | _ => .ok []

end Action

/-! ## Reading -/

/-- The reference that an object describes. -/
def ElementReference.read : Reader ElementReference := Schema.model fun fields =>
  mk <$> Schema.field fields "selector" none (Schema.optional Schema.text)
    <*> Schema.field fields "binding" none (Schema.optional Schema.text)
    <*> Schema.field fields "id" none (Schema.optional Schema.text)

/-- The timing that a word names. -/
def Timing.read (v : Json) : Checked Timing :=
  match v with
  | .str "immediate" => .ok .immediate
  | .str "delayed" => .ok .delayed
  | .str "conditional" => .ok .conditional
  | .str "deferred" => .ok .deferred
  | _ => .fault .literal

/-- The focus method that a word names. -/
def FocusMethod.read (v : Json) : Checked FocusMethod :=
  match v with
  | .str "focus" => .ok .focus
  | .str "blur" => .ok .blur
  | _ => .fault .literal

/-- What an action of a kind does; none for an unknown kind. -/
def Deed.read? (fields : Entries Json) : (kind : String) → Option (Checked Deed)
  | "event-handler" => some <|
    handle <$> Schema.required fields "event" (fun v => .ok (eventName v.text))
      <*> Schema.field fields "handler_body" none (Schema.optional Schema.text)
  | "focus-change" => some (focus <$> Schema.field fields "method" .focus FocusMethod.read)
  | "state-mutation" => some <|
    mutate <$> Schema.required fields "attribute" (fun v => .ok (normalize v.text))
      <*> Schema.field fields "value" none (Schema.optional Schema.text)
  | "navigation" => some (navigate <$> Schema.field fields "target" "" Schema.text)
  | _ => none

/-- The action that an object describes. -/
def Action.read : Reader Action
  | .obj fields =>
    match fields.lookup "kind" with
    | none => .fault .tagNotFound
    | some (.str kind) =>
      match Deed.read? fields kind with
      | none => .fault .tagInvalid
      | some deed =>
        (mk <$> Schema.field fields "element" {} ElementReference.read
          <*> Schema.field fields "timing" .immediate Timing.read
          <*> Schema.field fields "metadata" [] Schema.fields
          <*> Schema.field fields "location" none (Schema.optional Location.read)
          <*> deed).under kind
    | some _ => .fault .tagInvalid
  | _ => .fault .modelAttributesType

/-- The script that an object describes. -/
def Script.read : Reader Script := Schema.model fun fields =>
  mk <$> Schema.field fields "source" "" Schema.text
    <*> Schema.field fields "actions" [] (Schema.list Action.read)

/-! ## Writing -/

/-- A text, or null. -/
def Json.ofText? (s : Option String) : Json := (s.map Json.str).getD .null

/-- A location, or null. -/
def Json.ofLocation? (l : Option Location) : Json := (l.map Location.dump).getD .null

/-- The object that describes a reference. -/
def ElementReference.dump (r : ElementReference) : Json :=
  .obj [("selector", .ofText? r.selector), ("binding", .ofText? r.binding), ("id", .ofText? r.id)]

/-- The fields that describe what an action does. -/
def Deed.dump : Deed → Entries Json
  | handle event body => [("event", .str event), ("handler_body", .ofText? body)]
  | focus method => [("method", .str method.name)]
  | mutate name value => [("attribute", .str name), ("value", .ofText? value)]
  | navigate target => [("target", .str target)]

/-- The object that describes an action. -/
def Action.dump (a : Action) : Json :=
  .obj ([("element", a.element.dump), ("timing", .str a.timing.name),
    ("metadata", .obj a.metadata), ("location", .ofLocation? a.location),
    ("kind", .str a.deed.kind)] ++ a.deed.dump)

/-- The object that describes a script. -/
def Script.dump (s : Script) : Json :=
  .obj [("source", .str s.source), ("actions", .arr (s.actions.map Action.dump))]

/-! ## Sameness and order -/

/-- Whether two actions say the same. -/
def Action.same (a b : Action) : Bool :=
  a.element == b.element && a.timing == b.timing && a.location == b.location && a.deed == b.deed
    && Json.same (.obj a.metadata) (.obj b.metadata)

/-- The actions of several scripts in order, each with its source. A script without a name is named
by its place. -/
def flattenScripts (scripts : List Script) : List (String × Action) :=
  scripts.zipIdx.flatMap fun (script, place) =>
    let source := if script.source.isEmpty then "behavior-" ++ toString place else script.source
    script.actions.map fun action => (source, action)

end AccessAudit
