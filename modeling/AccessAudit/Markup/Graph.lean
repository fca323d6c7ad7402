import AccessAudit.Markup.Node

/-!
# Node graphs

Content that was put together by hand need not be a tree: a node may be content of two elements,
or of itself, and a list of children may hold values that are no nodes. A graph has a fixed number
of nodes, and the content of an element is a list of slots that name nodes.

A tree is laid out as a graph in document order (`ofTree`), and further slots may be put in
(`insert`). Which graphs are trees is decided by their index (`Markup.Fragment`).
-/

namespace AccessAudit

/-- What a list of children may hold, in a graph of `n` nodes. -/
inductive Slot (n : Nat) where
  /-- A node. -/
  | node (i : Fin n)
  /-- A value of some kind that is no node. -/
  | foreign (kind : String)
  deriving DecidableEq, Repr

/-- A node of a graph of `n` nodes. -/
inductive Cell (n : Nat) where
  /-- An element and its content. -/
  | element (element : Element) (children : List (Slot n))
  /-- A run of text. -/
  | text (content : String)
  /-- A comment. -/
  | comment (content : String)
  deriving Repr

/-- Nodes that refer to each other, and the value that is taken for the root. -/
structure Graph where
  /-- How many nodes there are. -/
  size : Nat
  /-- The nodes. -/
  cells : Vector (Cell size) size
  /-- The root. -/
  root : Slot size

/-! ## Trees as graphs -/

mutual

/-- How many nodes a node is made of. -/
def Node.count : Node → Nat
  | .element _ children => countNodes children + 1
  | .text .. => 1
  | .comment .. => 1

/-- How many nodes a list of nodes is made of. -/
def countNodes : List Node → Nat
  | [] => 0
  | node :: rest => node.count + countNodes rest

end

theorem Node.count_pos (node : Node) : 0 < node.count := by
  cases node <;> simp [Node.count]

/-- The slots of nodes that are laid out one after the other from a place on. -/
def slotsFrom {n : Nat} (place : Nat) : (nodes : List Node) → place + countNodes nodes ≤ n →
    List (Slot n)
  | [], _ => []
  | node :: rest, fits =>
    have := node.count_pos
    .node ⟨place, by simp only [countNodes] at fits; omega⟩
      :: slotsFrom (place + node.count) rest (by simp only [countNodes] at fits; omega)

mutual

/-- The cells of a node that is laid out from a place on. -/
def Node.cellsFrom {n : Nat} (place : Nat) : (node : Node) → place + node.count ≤ n →
    List (Cell n)
  | .element e children, fits =>
    .element e (slotsFrom (place + 1) children (by simp only [Node.count] at fits; omega))
      :: cellsOfNodes (place + 1) children (by simp only [Node.count] at fits; omega)
  | .text content _, _ => [.text content]
  | .comment content _, _ => [.comment content]

/-- The cells of nodes that are laid out one after the other from a place on. -/
def cellsOfNodes {n : Nat} (place : Nat) : (nodes : List Node) → place + countNodes nodes ≤ n →
    List (Cell n)
  | [], _ => []
  | node :: rest, fits =>
    node.cellsFrom place (by simp only [countNodes] at fits; omega)
      ++ cellsOfNodes (place + node.count) rest (by simp only [countNodes] at fits; omega)

end

mutual

theorem Node.length_cellsFrom {n : Nat} (place : Nat) :
    (node : Node) → (fits : place + node.count ≤ n) →
      (node.cellsFrom place fits).length = node.count
  | .element _ children, _ => by
    simp only [Node.cellsFrom, Node.count, List.length_cons]
    rw [length_cellsOfNodes]
  | .text .., _ => by simp [Node.cellsFrom, Node.count]
  | .comment .., _ => by simp [Node.cellsFrom, Node.count]

theorem length_cellsOfNodes {n : Nat} (place : Nat) :
    (nodes : List Node) → (fits : place + countNodes nodes ≤ n) →
      (cellsOfNodes place nodes fits).length = countNodes nodes
  | [], _ => by simp [cellsOfNodes, countNodes]
  | node :: rest, _ => by
    simp only [cellsOfNodes, countNodes, List.length_append]
    rw [Node.length_cellsFrom, length_cellsOfNodes]

end

/-- The place that a number names in a list of so many: from the start, or from the end if it is
negative. -/
def placeIn? (size : Nat) (n : Int) : Option Nat :=
  let place := if n < 0 then n + size else n
  if 0 ≤ place && place < size then some place.toNat else none

/-- Why a path leads nowhere. -/
inductive PathError where
  /-- It goes on below something that is no element. -/
  | noContent
  /-- There is no child at a place. -/
  | outOfRange
  deriving DecidableEq, Repr

/-- The class of an error. -/
def PathError.kind : PathError → String
  | noContent => "AttributeError"
  | outOfRange => "IndexError"

namespace Graph

/-- A node laid out as a graph in document order. -/
def ofNode (node : Node) : Graph where
  size := node.count
  cells := ⟨(node.cellsFrom 0 (by omega)).toArray, by simp [Node.length_cellsFrom]⟩
  root := .node ⟨0, node.count_pos⟩

/-- A tree laid out as a graph in document order. -/
def ofTree (t : Tree) : Graph := ofNode t.toNode

/-- A value that is no node at all. -/
def ofForeign (kind : String) : Graph where
  size := 0
  cells := ⟨#[], rfl⟩
  root := .foreign kind

/-- The content of a node. -/
def children (g : Graph) (i : Fin g.size) : List (Slot g.size) :=
  match g.cells[i] with
  | .element _ slots => slots
  | _ => []

/-- The content of a slot; only elements have some. -/
def content? (g : Graph) : Slot g.size → Option (Fin g.size × List (Slot g.size))
  | .foreign _ => none
  | .node i =>
    match g.cells[i] with
    | .element _ slots => some (i, slots)
    | _ => none

/-- The slot that is reached from another by going down, each time to the child that a number
names. -/
def follow (g : Graph) : Slot g.size → List Int → Except PathError (Slot g.size)
  | slot, [] => .ok slot
  | slot, n :: rest =>
    match g.content? slot with
    | none => .error .noContent
    | some (_, slots) =>
      match (placeIn? slots.length n).bind (slots[·]?) with
      | some next => g.follow next rest
      | none => .error .outOfRange

/-- The graph with a further slot in the content of an element, before the child at a place. -/
def insert (g : Graph) (i : Fin g.size) (place : Nat) (slot : Slot g.size) : Graph :=
  match g.cells[i] with
  | .element e slots =>
    { g with cells := g.cells.set i (.element e (slots.take place ++ slot :: slots.drop place)) }
  | _ => g

/-- The element that is the root. -/
def rootElement? (g : Graph) : Option Element :=
  match g.root with
  | .node i =>
    match g.cells[i] with
    | .element e _ => some e
    | _ => none
  | .foreign _ => none

end Graph

end AccessAudit
