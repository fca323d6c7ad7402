import AccessAudit.Markup.Graph
import AccessAudit.Table

/-!
# Fragments

A fragment is a markup tree with an index over its elements. Elements are numbered in document
order, an element before its content; the number of an element is its *order*. For each order the
index has the element, the orders of its ancestors, nearest first, and the first order after its
subtree, so that the subtree of an element is an interval of orders.

`Graph.index` walks a graph in document order. It succeeds exactly when the graph is a tree as far
as elements go: the root is an element, all values are nodes, and no element is met twice. The walk
keeps a stack of slots that are still to be visited, each with the ancestors of its parent, and the
nodes that have not been visited yet; the latter shrink with each element, so the walk ends.
-/

namespace AccessAudit

/-- Why a graph is no fragment. -/
inductive Malformation where
  /-- The root is no element but a value of this kind. -/
  | rootKind (kind : String)
  /-- There is a value of this kind that is no node. -/
  | foreign (kind : String)
  /-- The element is part of its own content. -/
  | cycle (element : Element)
  /-- The element is met twice. -/
  | shared (element : Element)
  deriving DecidableEq, Repr

/-- The reason in words. -/
def Malformation.reason : Malformation → String
  | rootKind kind => "root is " ++ kind ++ ", not an Element"
  | foreign kind => "unexpected node type " ++ kind
  | cycle element => "cycle through " ++ element.describe
  | shared element => element.describe ++ " is reachable more than once"

/-- A graph that is no fragment, with the name of its source. -/
structure MalformedFragment where
  /-- The name of the source. -/
  source : String
  /-- Why it is no fragment. -/
  why : Malformation
  deriving DecidableEq, Repr

/-- The whole message. -/
def MalformedFragment.message (m : MalformedFragment) : String :=
  "Malformed fragment '" ++ m.source ++ "': " ++ m.why.reason

namespace Graph

/-! ## The walk -/

/-- A slot that is still to be visited. -/
structure Pending (n : Nat) where
  /-- The slot. -/
  slot : Slot n
  /-- The orders of the elements around it, nearest first. -/
  ancestors : List Nat

/-- An element that has been visited. -/
structure Visit (n : Nat) where
  /-- The node. -/
  node : Fin n
  /-- The element. -/
  element : Element
  /-- The orders of its ancestors, nearest first. -/
  ancestors : List Nat
  /-- Whether it has no content at all. -/
  childless : Bool

/-- What the walk has found: the elements in document order, and each text with the order of its
element. -/
structure Found (n : Nat) where
  /-- The elements. -/
  visits : Array (Visit n) := #[]
  /-- The texts. -/
  texts : Array (Nat × String) := #[]

/-- What is wrong with meeting an element again: if the first meeting is among the ancestors, the
element is part of its own content. -/
def secondMeeting {n : Nat} (found : Found n) (i : Fin n) (element : Element)
    (ancestors : List Nat) : Malformation :=
  match found.visits.findIdx? (·.node == i) with
  | some order => if ancestors.contains order then .cycle element else .shared element
  | none => .shared element

/-- Visits the pending slots. -/
def walk (g : Graph) (found : Found g.size) (unvisited : List (Fin g.size))
    (stack : List (Pending g.size)) : Except Malformation (Found g.size) :=
  match stack with
  | [] => .ok found
  | ⟨.foreign kind, _⟩ :: _ => .error (.foreign kind)
  | ⟨.node i, ancestors⟩ :: rest =>
    match g.cells[i] with
    | .text content =>
      walk g { found with texts := found.texts.push (ancestors.headD 0, content) } unvisited rest
    | .comment _ => walk g found unvisited rest
    | .element e children =>
      if i ∈ unvisited then
        let inner := found.visits.size :: ancestors
        walk g { found with visits := found.visits.push ⟨i, e, ancestors, children.isEmpty⟩ }
          (unvisited.erase i) (children.map (⟨·, inner⟩) ++ rest)
      else .error (secondMeeting found i e ancestors)
termination_by (unvisited.length, stack.length)
decreasing_by
  · exact Prod.Lex.right _ (by simp)
  · exact Prod.Lex.right _ (by simp)
  · exact Prod.Lex.left _ _ (by
      rename_i h
      have := List.length_pos_of_mem h
      rw [List.length_erase_of_mem h]
      omega)

end Graph

/-! ## The index -/

/-- An element of a fragment. -/
structure Fragment.Entry where
  /-- The element. -/
  element : Element
  /-- The orders of its ancestors, nearest first. -/
  ancestors : List Nat
  /-- The first order after its subtree. -/
  stop : Nat
  /-- Whether it has no content at all. -/
  childless : Bool

/-- A markup tree with an index over its elements. -/
structure Fragment where
  /-- The name of the source. -/
  source : String
  /-- The elements in document order. -/
  entries : Array Fragment.Entry
  /-- The texts in document order, each with the order of its element. -/
  texts : List (Nat × String)

/-- The first order from a place on at which an element is at most so deep. -/
def stopFrom (depth : Nat) : List Nat → Nat → Nat
  | [], place => place
  | d :: rest, place => if d ≤ depth then place else stopFrom depth rest (place + 1)

/-- The entries of visited elements. The subtree of an element goes on as long as elements are
deeper. -/
def entriesOf {n : Nat} (order : Nat) : List (Graph.Visit n) → List Fragment.Entry
  | [] => []
  | visit :: rest =>
    { element := visit.element, ancestors := visit.ancestors, childless := visit.childless,
      stop := stopFrom visit.ancestors.length (rest.map (·.ancestors.length)) (order + 1) }
      :: entriesOf (order + 1) rest

namespace Graph

/-- What is wrong with the root, if it is no element. -/
def rootFault? (g : Graph) : Option Malformation :=
  match g.root with
  | .foreign kind => some (.rootKind kind)
  | .node i =>
    match g.cells[i] with
    | .element .. => none
    | .text _ => some (.rootKind "TextNode")
    | .comment _ => some (.rootKind "CommentNode")

/-- The fragment that a graph describes, if it is a tree. -/
def index (g : Graph) (source : String) : Except Malformation Fragment :=
  match g.rootFault? with
  | some why => .error why
  | none =>
    (walk g {} (List.finRange g.size) [⟨g.root, []⟩]).map fun found =>
      { source, entries := (entriesOf 0 found.visits.toList).toArray, texts := found.texts.toList }

end Graph

namespace Fragment

variable (f : Fragment)

/-- How many elements there are. -/
def size : Nat := f.entries.size

/-- All orders. -/
def orders : List Nat := List.range f.size

/-- The element with an order. -/
def element? (order : Nat) : Option Element := f.entries[order]?.map Entry.element

/-- The orders of an element's ancestors, nearest first. -/
def ancestors (order : Nat) : List Nat := (f.entries[order]?.map Entry.ancestors).getD []

/-- The order of an element's parent. -/
def parent? (order : Nat) : Option Nat := (f.ancestors order).head?

/-- The first order after an element's subtree. -/
def stop (order : Nat) : Nat := (f.entries[order]?.map Entry.stop).getD 0

/-- The orders of an element's descendants. -/
def descendants (order : Nat) : List Nat :=
  List.range' (order + 1) (f.stop order - (order + 1))

/-- Whether an element is a descendant of another. -/
def isDescendant (order ancestor : Nat) : Bool := ancestor < order && order < f.stop ancestor

/-- Whether an element is a descendant of another, both given by numbers that may count from the
end. A number that means no element is an error only where it is looked up. -/
def isDescendantAt? (order ancestor : Int) : Option Bool :=
  if ancestor < order then (placeIn? f.size ancestor).map fun place => order < f.stop place
  else some false

/-- The orders of an element's element children. -/
def children (order : Nat) : List Nat := (f.descendants order).filter (f.parent? · == some order)

/-- The orders of the elements with the same parent, the element itself among them. The root is on
its own. -/
def siblings (order : Nat) : List Nat :=
  match f.parent? order with
  | some parent => f.children parent
  | none => [order]

/-- The text below an element. -/
def textContent (order : Nat) : String :=
  joinTexts ((f.texts.filter fun entry => order ≤ entry.1 && entry.1 < f.stop order).map Prod.snd)

/-- The orders of the elements with each id. -/
def idTable : Table String (List Nat) :=
  Table.collect (fun order => (f.element? order).bind Element.id?) f.orders

/-- The orders of the elements with an id. -/
def withId (id : String) : List Nat := (f.idTable.get? id).getD []

/-- The first element with an id. -/
def firstWithId? (id : String) : Option Nat := (f.withId id).head?

/-- The ids that occur, in document order of their first element. -/
def ids : List String := f.idTable.keys

/-- How many elements a path down from the root can go through. -/
def depth : Nat := f.orders.foldl (fun n order => max n ((f.ancestors order).length + 1)) 0

/-- How deep a fragment may be to be put away and brought back. -/
def storageLimit : Nat := 141

/-- Whether a fragment can be put away and brought back. Nothing else comes of that. -/
def isStorable : Bool := f.depth ≤ storageLimit

end Fragment

/-! ## Inputs -/

/-- What a document is put together from: fragments, and graphs that are still to be indexed. -/
inductive FragmentInput where
  /-- A fragment. -/
  | indexed (fragment : Fragment)
  /-- A graph. -/
  | bare (graph : Graph)

/-- The file that the root of a graph comes from; empty when it has none. -/
def Graph.rootFile (g : Graph) : String :=
  ((g.rootElement?.bind Element.location).map Location.file).getD ""

/-- The fragment of a graph, under a given name or else that of its file. -/
def Fragment.ofGraph (g : Graph) (source : String) : Except MalformedFragment Fragment :=
  let source := if source.isEmpty then g.rootFile else source
  match g.index source with
  | .ok f => .ok f
  | .error why => .error ⟨source, why⟩

/-- The fragment of an input. A graph without a file is named by its place among the inputs, which
is given in words. -/
def FragmentInput.toFragment (input : FragmentInput) (place : String) :
    Except MalformedFragment Fragment :=
  match input with
  | .indexed f => .ok f
  | .bare g =>
    Fragment.ofGraph g (if g.rootFile.isEmpty then "fragment-" ++ place else g.rootFile)

end AccessAudit
