import AccessAudit.Location
import AccessAudit.Selector.Nesting
import AccessAudit.Style.Declaration

/-!
# Style rules

A rule gives values to properties of the elements that a selector describes. Its weight is that of
its selector, unless the caller declares one. What a rule affects follows from the names of its
properties and from its selector.
-/

namespace AccessAudit

open Text

/-- A style rule. -/
structure Rule where
  /-- The selector. -/
  selector : String
  /-- The values of properties. -/
  properties : Entries String := []
  /-- The weight. -/
  specificity : Specificity := {}
  /-- Whether the weight was declared by the caller. -/
  declared : Bool := false
  /-- The names of the important properties. -/
  important : List String := []
  /-- The condition on the medium. -/
  mediaQuery : Option String := none
  /-- The place in the source. -/
  location : Option Location := none
  deriving DecidableEq, Repr

/-- The rules of one style sheet. -/
structure StyleSheet where
  /-- The name of the source; empty when it has none. -/
  source : String := ""
  /-- The rules in order. -/
  rules : List Rule := []

/-! ## What a rule affects -/

/-- Pseudo-classes that say in which state a rule applies. -/
def statePseudoClasses : List String :=
  ["focus-visible", "focus-within", "focus", "hover", "active", "disabled", "checked"]

/-- States in which an element has the focus, in one sense or another. -/
def focusStates : List String := ["focus", "focus-visible", "focus-within"]

/-- Properties that show the focus. -/
def focusProperties : List String :=
  ["outline", "outline-style", "outline-width", "outline-color", "outline-offset", "box-shadow"]

/-- Properties that may hide an element. -/
def visibilityProperties : List String :=
  ["display", "visibility", "opacity", "clip", "clip-path", "content-visibility", "width",
    "height", "overflow"]

/-- Properties that affect contrast. -/
def contrastProperties : List String :=
  ["color", "background", "background-color", "opacity", "filter", "mix-blend-mode"]

/-- Properties that affect interaction. -/
def interactionProperties : List String :=
  ["pointer-events", "cursor", "user-select", "touch-action"]

/-- The first state pseudo-class in a selector: after a single colon, and as a whole name. -/
def stateIn? (afterColon : Bool) : List Char → Option String
  | [] => none
  | c :: rest =>
    let name := String.ofList (rest.takeWhile isNameChar)
    if c == ':' && !afterColon && statePseudoClasses.contains name then some name
    else stateIn? (c == ':') rest

namespace Rule

/-- The state that the selector names first. -/
def pseudoClass? (r : Rule) : Option String := stateIn? false r.selector.toList

/-- Whether a property of a family is set. -/
def sets (r : Rule) (family : List String) : Bool := r.properties.any fun p => family.contains p.1

/-- Whether the rule is about the focus. -/
def affectsFocus (r : Rule) : Bool :=
  r.sets focusProperties || r.pseudoClass?.any focusStates.contains

/-- Whether the rule may hide an element. -/
def affectsVisibility (r : Rule) : Bool := r.sets visibilityProperties

/-- Whether the rule affects contrast. -/
def affectsContrast (r : Rule) : Bool := r.sets contrastProperties

/-- Whether the rule affects interaction. -/
def affectsInteraction (r : Rule) : Bool := r.sets interactionProperties

/-! ## Making rules -/

/-- Takes in one property: a value may end with `!important`. -/
def addProperty (done : Entries String × List String) (name value : String) :
    Entries String × List String :=
  let key := normalize name
  let (text, important) := Declaration.readValue value
  (done.1.put key text,
    if important && !done.2.contains key then done.2 ++ [key] else done.2)

/-- Brings properties to their usual form: names in small letters, and importance apart. -/
def normalizeProperties (properties : Entries String) (important : List String) :
    Entries String × List String :=
  properties.foldl (fun done p => addProperty done p.1 p.2) ([], important)

/-- The rule with given parts. Without a declared weight it has that of its selector. -/
def make (selector : String) (properties : Entries String) (important : List String)
    (weight : Option Specificity) (declared : Bool) (mediaQuery : Option String)
    (location : Option Location) : Rule :=
  let selector := strip selector
  let (properties, important) := normalizeProperties properties important
  { selector, properties, important, declared, mediaQuery, location,
    specificity := weight.getD (Specificity.ofText selector) }

/-- The selector of the rule that a style attribute amounts to. -/
def inlineSelector : String := "[style]"

/-- The rule that a style attribute amounts to. -/
def inline (text : String) (location : Option Location) : Rule :=
  let d := Declarations.parse text
  make inlineSelector d.properties d.important (some .ofInline) true none location

/-! ## Reading -/

/-- The names that a value lists as important, each once. -/
def listImportant (v : Json) : Checked (List Json) :=
  if v.isEmpty then .ok []
  else
    match v with
    | .arr items =>
      match items.find? (!·.isHashable) with
      | some item => .broken (.unhashable item.kind)
      | none => .ok (items.eraseDupsBy Json.same)
    | .str s => .ok ((s.toList.map fun c => .str c.toString).eraseDupsBy Json.same)
    | .obj fields => .ok ((fields.map fun entry => .str entry.1).eraseDupsBy Json.same)
    | other => .broken (.notIterable other.kind)

/-- The properties that a value gives. -/
def listProperties (v : Json) : Checked (Entries String) :=
  if v.isEmpty then .ok []
  else
    match v with
    | .obj fields => .ok (fields.map fun entry => (entry.1, entry.2.text))
    | other => .broken (.noFields other.kind)

/-- Takes in the value of a name: a name that is there keeps its place. -/
def putPair (done : List (Json × Json)) (name value : Json) : List (Json × Json) :=
  if done.any (·.1 == name) then done.map fun p => if p.1 == name then (p.1, value) else p
  else done ++ [(name, value)]

/-- The object whose fields are given as pairs of a name and a value. Names that are equal as values
are one name. -/
def ofPairs (pairs : List Json) : Except Failure Json := do
  let fields ← pairs.foldlM (fun done pair =>
    match pair.parts? with
    | some [name, value] =>
      if name.isHashable then .ok (putPair done name value) else .error (.unhashable name.kind)
    | some parts => .error (.badPair parts.length)
    | none => .error (.notIterable pair.kind)) []
  pure (.obj (fields.map fun p => (p.1.text, p.2)))

/-- Whether the weight can be found: it is given, or the selector can be dealt with. -/
def derivable (selector : String) (weight : Json) : Checked Unit :=
  match weight, Selector.breakdown? .weighing selector with
  | .null, some .tooNested => .broken .tooNested
  | .null, some why => .fault (.value why.reason)
  | _, _ => .ok ()

end Rule

/-- The items of a tuple of a given length, each under its place. -/
def readTuple {α : Type} (read : Reader α) : (count place : Nat) → List Json → Checked (List α)
  | 0, _, _ => .ok []
  | count + 1, place, items =>
    let first : Checked α :=
      match items with
      | v :: _ => (read v).under (toString place)
      | [] => .refused [⟨[toString place], .missing⟩]
    (List.cons <$> first) <*> readTuple read count (place + 1) (items.drop 1)

/-- The weight that a list of four numbers gives. -/
def Specificity.read : Reader Specificity
  | .arr items =>
    if 4 < items.length then .fault .tooLong
    else
      (readTuple Schema.int 4 0 items).map fun
        | [inline, ids, classes, types] => ⟨inline, ids, classes, types⟩
        | _ => .zero
  | _ => .fault .tupleType

/-- The rule that an object describes. -/
def Rule.read : Reader Rule := Schema.model fun fields =>
  let selector := ((fields.get? "selector").map Json.text).getD ""
  let given (name : String) : Json := (fields.get? name).getD .null
  (listImportant (given "important")).andThen fun important =>
    (listProperties (given "properties")).andThen fun properties =>
      (derivable selector (given "specificity")).andThen fun _ =>
      (fun weight declared important mediaQuery location =>
          make selector properties important weight declared mediaQuery location)
        <$> ((Schema.optional Specificity.read) (given "specificity")).under "specificity"
        <*> Schema.field fields "declared_specificity" (!(given "specificity") matches .null)
          Schema.bool
        <*> (Schema.itemsFrom Schema.text 0 important).under "important"
        <*> Schema.field fields "media_query" none (Schema.optional Schema.text)
        <*> Schema.field fields "location" none (Schema.optional Location.read)

/-- The rule with a selector, a declaration block and further fields. The location comes first and
is read by itself. -/
def Rule.ofText (selector : Json) (text : String) (fields : Entries Json) : Checked Rule :=
  let d := Declarations.parse text
  (Schema.optional Location.read ((fields.get? "location").getD .null)).andThen fun _ =>
  match ["properties", "important"].find? fields.has with
  | some name => .broken (.repeatedArgument name)
  | none =>
    Rule.read (.obj ([("selector", selector),
      ("properties", .obj (d.properties.map fun p => (p.1, .str p.2))),
      ("important", .arr (d.important.map .str))] ++ fields))

/-! ## Writing -/

/-- The object that describes a rule. -/
def Rule.dump (r : Rule) : Json :=
  .obj [("selector", .str r.selector),
    ("properties", .obj (r.properties.map fun p => (p.1, .str p.2))),
    ("specificity", .arr (r.specificity.vector.map .int)),
    ("declared_specificity", .bool r.declared),
    ("important", .arr (r.important.map .str)),
    ("affects_focus", .bool r.affectsFocus), ("affects_visibility", .bool r.affectsVisibility),
    ("affects_contrast", .bool r.affectsContrast),
    ("affects_interaction", .bool r.affectsInteraction),
    ("pseudo_class", (r.pseudoClass?.map Json.str).getD .null),
    ("media_query", (r.mediaQuery.map Json.str).getD .null),
    ("location", (r.location.map Location.dump).getD .null)]

/-- The style sheet that an object describes. -/
def StyleSheet.read : Reader StyleSheet := Schema.model fun fields =>
  mk <$> Schema.field fields "source" "" Schema.text
    <*> Schema.field fields "rules" [] (Schema.list Rule.read)

/-- The object that describes a style sheet. -/
def StyleSheet.dump (s : StyleSheet) : Json :=
  .obj [("source", .str s.source), ("rules", .arr (s.rules.map Rule.dump))]

/-- The rules of several style sheets in order, each with its source. A style sheet without a name
is named by its place. -/
def flattenSheets (sheets : List StyleSheet) : List (String × Rule) :=
  sheets.zipIdx.flatMap fun (sheet, place) =>
    let source := if sheet.source.isEmpty then "style-" ++ toString place else sheet.source
    sheet.rules.map fun rule => (source, rule)

end AccessAudit
