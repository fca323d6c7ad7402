import AccessAudit.Markup.Element

/-!
# Markup trees

A tree is a root element with its content: elements, texts and comments. Analysis reads the
elements and the texts; comments are kept and count as content.
-/

namespace AccessAudit

/-- A node of a markup tree. -/
inductive Node where
  /-- An element and its content. -/
  | element (element : Element) (children : List Node)
  /-- A run of text. -/
  | text (content : String) (location : Option Location)
  /-- A comment. -/
  | comment (content : String) (location : Option Location)
  deriving Inhabited

/-- A markup tree. -/
structure Tree where
  /-- The root element. -/
  root : Element
  /-- Its content. -/
  children : List Node
  deriving Inhabited

namespace Node

/-- Whether the node is an element. -/
def isElement : Node → Bool
  | element .. => true
  | _ => false

mutual

/-- The texts in a node, in document order. -/
def texts : Node → List String
  | element _ children => textsIn children
  | text content _ => [content]
  | comment .. => []

/-- The texts in a list of nodes, in document order. -/
def textsIn : List Node → List String
  | [] => []
  | node :: rest => node.texts ++ textsIn rest

end

mutual

/-- How many elements a path down from a node can go through. -/
def depth : Node → Nat
  | element _ children => depthIn children + 1
  | _ => 0

/-- How many elements a path down from some of the nodes can go through. -/
def depthIn : List Node → Nat
  | [] => 0
  | node :: rest => max node.depth (depthIn rest)

end

end Node

/-- Runs of text as one: each without surrounding blanks, blank ones left out. -/
def joinTexts (runs : List String) : String :=
  " ".intercalate ((runs.map Text.strip).filter (!·.isEmpty))

namespace Tree

/-- The tree as a node. -/
def toNode (t : Tree) : Node := .element t.root t.children

/-- All text below the root. -/
def textContent (t : Tree) : String := joinTexts (Node.textsIn t.children)

/-- How many elements the content has directly. -/
def elementChildren (t : Tree) : Nat := t.children.countP Node.isElement

end Tree

end AccessAudit
