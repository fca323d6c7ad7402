import AccessAudit.Behavior.Action
import AccessAudit.Markup.Fragment
import AccessAudit.Markup.Role
import AccessAudit.Style.Cascade

/-!
# Documents

A document is a list of fragments with all that scripts and style sheets say about their elements.
An element is named by its key: the place of its fragment and its order in it. The annotation of an
element lists the actions attached to it and the style matches.

Here are the document and its structure; see `Document.Merge` for how it is put together.
-/

namespace AccessAudit

/-- The name of an element in a document. -/
structure Key where
  /-- The place of the fragment. -/
  fragment : Nat
  /-- The order in the fragment. -/
  order : Nat
  deriving DecidableEq, Repr, Inhabited

/-- What was attached to an element. -/
structure Annotation where
  /-- The places of the actions in the document's list of actions. -/
  actions : List Nat := []
  /-- The style matches. -/
  styles : List StyleMatch := []

/-- An id in an attribute that refers to elements. -/
structure Reference where
  /-- The element with the attribute. -/
  source : Key
  /-- The name of the attribute. -/
  name : String
  /-- The id. -/
  id : String
  /-- The element with that id. -/
  target : Option Key
  deriving DecidableEq, Repr

/-- Whether the element referred to is in another fragment. -/
def Reference.crosses (r : Reference) : Bool := r.target.any (·.fragment != r.source.fragment)

/-- An action that was attached to no element. -/
structure OrphanAction where
  /-- Its place in the document's list of actions. -/
  place : Nat
  /-- Its source. -/
  source : String
  /-- The action. -/
  action : Action
  /-- Why. -/
  reason : String

/-- A rule that matched no element. -/
structure OrphanRule where
  /-- Its source. -/
  source : String
  /-- The rule. -/
  rule : Rule
  /-- Why. -/
  reason : String

/-- A fragment that was left out. -/
structure Diagnostic where
  /-- The name of its source. -/
  source : String
  /-- Why. -/
  reason : String
  deriving DecidableEq, Repr

/-- The kind of a diagnostic. -/
def Diagnostic.kind : String := "malformed-fragment"

/-- The confidence of a diagnostic. -/
def Diagnostic.confidence : String := "LOW"

/-- Fragments with all that is known about their elements. -/
structure Document where
  /-- The fragments. -/
  fragments : Array Fragment
  /-- The annotations of the elements to which something was attached. -/
  annotations : Table Key Annotation
  /-- All actions in order, each with its source. -/
  actions : Array (String × Action)
  /-- The actions that were attached to no element. -/
  orphanActions : List OrphanAction
  /-- The rules that matched no element. -/
  orphanRules : List OrphanRule
  /-- The references between elements. -/
  references : List Reference
  /-- The ids that several elements have, with those elements. -/
  duplicateIds : List (String × List Key)
  /-- The fragments that were left out. -/
  diagnostics : List Diagnostic
  /-- How sure it is that the fragments are the whole picture. -/
  completeness : Float
  /-- What the document covers, as the caller put it. -/
  scope : Json
  /-- The greatest opacity at which an element counts as hidden. -/
  opacityThreshold : Float

/-- The keys of the elements of some fragments, in document order. -/
def keysOf (fragments : Array Fragment) : List Key :=
  fragments.toList.zipIdx.flatMap fun (f, place) => f.orders.map (⟨place, ·⟩)

/-- The element with a key. -/
def elementAt? (fragments : Array Fragment) (key : Key) : Option Element :=
  fragments[key.fragment]?.bind (·.element? key.order)

/-- The id of the element with a key. -/
def idAt? (fragments : Array Fragment) (key : Key) : Option String :=
  (elementAt? fragments key).bind Element.id?

namespace Document

variable (d : Document)

/-! ## Structure -/

/-- Whether there is any fragment. -/
def hasStructure : Bool := !d.fragments.isEmpty

/-- How many fragments were left out. -/
def skippedFragments : Nat := d.diagnostics.length

/-- The keys of all elements, in document order. -/
def keys : List Key := keysOf d.fragments

/-- The element with a key. -/
def element? (key : Key) : Option Element := elementAt? d.fragments key

/-- The element with a key; one without content when there is none. -/
def element (key : Key) : Element := (d.element? key).getD default

/-- The value of an attribute, empty when it is not there. -/
def valueOf (key : Key) (name : String) : String := (d.element key).valueOf name

/-- The source of an element's fragment. -/
def sourceOf (key : Key) : String := (d.fragments[key.fragment]?.map Fragment.source).getD ""

/-- Where an element stands: its own location, with the source of its fragment for want of a
file. -/
def locationOf (key : Key) : Location :=
  match (d.element key).location with
  | some l => if l.file.isEmpty then { l with file := d.sourceOf key } else l
  | none => { file := d.sourceOf key }

/-- An element's parent. -/
def parent? (key : Key) : Option Key :=
  (d.fragments[key.fragment]?.bind (·.parent? key.order)).map (⟨key.fragment, ·⟩)

/-- An element's ancestors, nearest first. -/
def ancestors (key : Key) : List Key :=
  ((d.fragments[key.fragment]?.map (·.ancestors key.order)).getD []).map (⟨key.fragment, ·⟩)

/-- An element's descendants in document order. -/
def descendants (key : Key) : List Key :=
  ((d.fragments[key.fragment]?.map (·.descendants key.order)).getD []).map (⟨key.fragment, ·⟩)

/-- The text below an element. -/
def textContent (key : Key) : String :=
  (d.fragments[key.fragment]?.map (·.textContent key.order)).getD ""

/-- The first element with each id, in document order. -/
def idTable : Table String Key := Table.firsts (idAt? d.fragments) d.keys

/-- The first element with an id, in document order. -/
def elementById? (id : String) : Option Key := d.idTable.get? id

/-- All ids that occur, sorted. -/
def allIds : List String := sortTexts d.idTable.keys

/-- An element's role. -/
def roleOf (key : Key) : Except Failure (Option String) := (d.element key).role

/-- The elements with a role, or those without any, in document order. -/
def withRole (role : Option String) : Except Failure (List Key) :=
  d.keys.filterM fun key => do
    let actual ← d.roleOf key
    pure (actual == role)

/-- Adds the target of an ownership and its descendants to what is owned already. -/
def addOwned (owned : List Key) (id : String) : List Key :=
  match d.elementById? id with
  | some target =>
    if owned.contains target then owned
    else
      let owned := owned ++ [target]
      owned ++ (d.descendants target).filter (!owned.contains ·)
  | none => owned

/-- What an element owns: its descendants, and the elements that its attribute `aria-owns` names,
with their descendants. -/
def owned (key : Key) : List Key :=
  (Text.words (d.valueOf key "aria-owns")).foldl d.addOwned (d.descendants key)

/-! ## Annotations -/

/-- What was attached to an element. -/
def annotation (key : Key) : Annotation := (d.annotations.get? key).getD {}

/-- The action at a place. -/
def actionAt? (place : Nat) : Option Action := d.actions[place]?.map Prod.snd

/-- The actions attached to an element. -/
def actionsFor (key : Key) : List Action := (d.annotation key).actions.filterMap d.actionAt?

/-- The style matches of an element. -/
def stylesFor (key : Key) : List StyleMatch := (d.annotation key).styles

/-- The changes to attributes among the actions attached to an element: name and value. -/
def mutationsFor (key : Key) : List (String × Option String) :=
  (d.actionsFor key).filterMap fun a =>
    match a.deed with
    | .mutate name value => some (name, value)
    | _ => none

/-- The source of the first action that says the same as a given one; empty when there is none. -/
def sourceOfAction (a : Action) : String :=
  ((d.actions.toList.find? fun entry => entry.2.same a).map Prod.fst).getD ""

/-- The references in an element's attributes. -/
def referencesFrom (key : Key) : List Reference := d.references.filter (·.source == key)

/-- The properties of an element when the given states hold. -/
def computedStyle (key : Key) (states : List String) : Entries String :=
  cascade (d.stylesFor key) states

end Document

end AccessAudit
