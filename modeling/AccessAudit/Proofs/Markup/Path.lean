import AccessAudit.Markup.Fragment

/-!
# Paths into a graph

An element of a graph is met by going down from the root, each time to one of the children. The
places of these children, from the root on, are a *path*; `Graph.Reaches` says which slot a path
leads to. A graph that shares elements has several paths to one of them, and one with a cycle has
infinitely many, so `Graph.IsTree` can be said in terms of paths alone: the root is an element, no
path leads to a value that is no node, and no two paths lead to the same element.

Paths also say what document order is. Compared as lists of numbers, from the left, a path comes
before its extensions, and of two paths that part the one with the smaller place comes first. That
is the order in which an element comes before its content and the content is gone through from
left to right.

The walk over a graph never sees a path. Its invariant (`Markup.Walk`) attaches one to everything
that the walk has met or is about to meet, and the facts on `<` that this takes are here.
-/

namespace AccessAudit

/-- The places of children on the way down from the root. -/
abbrev Path := List Nat

namespace Path

/-! ## Document order -/

/-- The paths part, and the first one goes further to the left. -/
def Branches (left right : Path) : Prop :=
  ∃ stem i j s t, i < j ∧ left = stem ++ i :: s ∧ right = stem ++ j :: t

/-- Paths that part stay apart, whatever follows. -/
theorem Branches.append {left right : Path} (h : Branches left right) (s t : Path) :
    Branches (left ++ s) (right ++ t) := by
  obtain ⟨stem, i, j, s', t', hij, rfl, rfl⟩ := h
  exact ⟨stem, i, j, s' ++ s, t' ++ t, hij, by simp, by simp⟩

theorem Branches.lt {left right : Path} (h : Branches left right) : left < right := by
  obtain ⟨stem, i, j, s, t, hij, rfl, rfl⟩ := h
  exact List.append_left_lt (List.cons_lt_cons_iff.mpr (Or.inl hij))

theorem Branches.children {path : Path} {i j : Nat} (h : i < j) :
    Branches (path ++ [i]) (path ++ [j]) := ⟨path, i, j, [], [], h, rfl, rfl⟩

theorem lt_append_cons (path : Path) (place : Nat) (rest : Path) :
    path < path ++ place :: rest := by
  have h : path ++ [] < path ++ place :: rest := List.append_left_lt (List.nil_lt_cons place rest)
  simpa using h

/-- There are two ways to come before a path: to lie on it, or to part from it to the left. -/
theorem lt_iff {left right : Path} :
    left < right ↔ (∃ place rest, right = left ++ place :: rest) ∨ Branches left right := by
  constructor
  · intro h
    induction left generalizing right with
    | nil =>
      cases right with
      | nil => exact absurd h (List.lt_irrefl _)
      | cons j t => exact Or.inl ⟨j, t, rfl⟩
    | cons i s ih =>
      cases right with
      | nil => exact absurd h (List.not_lt_nil _)
      | cons j t =>
        rcases List.cons_lt_cons_iff.mp h with hij | ⟨rfl, hst⟩
        · exact Or.inr ⟨[], i, j, s, t, hij, rfl, rfl⟩
        · rcases ih hst with ⟨place, rest, rfl⟩ | ⟨stem, i', j', s', t', hij, rfl, rfl⟩
          · exact Or.inl ⟨place, rest, rfl⟩
          · exact Or.inr ⟨i :: stem, i', j', s', t', hij, rfl, rfl⟩
  · rintro (⟨place, rest, rfl⟩ | h)
    · exact lt_append_cons left place rest
    · exact h.lt

theorem lt_append {left right : Path} (h : left < right) (rest : Path) : left < right ++ rest := by
  rcases lt_iff.mp h with ⟨place, more, rfl⟩ | hb
  · rw [List.append_assoc, List.cons_append]
    exact lt_append_cons left place _
  · have := hb.append [] rest
    rw [List.append_nil] at this
    exact this.lt

/-- What comes after a path and not after an extension of it is an extension itself: the paths
below a path stand together. -/
theorem extends_of_between {path other : Path} {rest : Path} (after : path < other)
    (before : ¬ path ++ rest < other) : ∃ place more, other = path ++ place :: more := by
  rcases lt_iff.mp after with h | hb
  · exact h
  · have := (hb.append rest []).lt
    rw [List.append_nil] at this
    exact absurd this before

end Path

namespace Graph

variable (g : Graph)

/-! ## Which graphs are trees -/

/-- A path leads to a slot. -/
inductive Reaches : Path → Slot g.size → Prop where
  -- The empty path leads to the root.
  | root : Reaches [] g.root
  -- One step further down leads to a child.
  | child {path : Path} {i : Fin g.size} {place : Nat} {slot : Slot g.size}
      (above : Reaches path (.node i)) (here : (g.children i)[place]? = some slot) :
      Reaches (path ++ [place]) slot

/-- The element in a slot, if there is one. -/
def element? : Slot g.size → Option Element
  | .foreign _ => none
  | .node i =>
    match g.cells.get i with
    | .element e _ => some e
    | _ => none

/-- The graph is a tree as far as elements go. Texts and comments may be met on several paths. -/
structure IsTree : Prop where
  -- The root is an element.
  root : (g.element? g.root).isSome
  -- Only nodes are reached.
  nodes : ∀ path kind, ¬ g.Reaches path (.foreign kind)
  -- An element is reached on one path only.
  single : ∀ path other i, g.Reaches path (.node i) → g.Reaches other (.node i) →
    (g.element? (.node i)).isSome → path = other

/-- The paths lead to the elements, to each of them, in document order. -/
structure Preorder (paths : List Path) : Prop where
  -- They are in document order.
  sorted : paths.Pairwise (· < ·)
  -- They are the paths to elements.
  exact : ∀ path, path ∈ paths ↔ ∃ slot, g.Reaches path slot ∧ (g.element? slot).isSome

variable {g}

theorem element?_of_cell {i : Fin g.size} {e : Element} {slots : List (Slot g.size)}
    (h : g.cells.get i = .element e slots) : g.element? (.node i) = some e := by
  simp only [element?, h]

theorem element?_of_no_element {i : Fin g.size}
    (h : ∀ e slots, g.cells.get i ≠ .element e slots) : g.element? (.node i) = none := by
  unfold element?
  dsimp only
  split
  · rename_i e slots hcell
    exact absurd hcell (h e slots)
  · rfl

theorem children_of_cell {i : Fin g.size} {e : Element} {slots : List (Slot g.size)}
    (h : g.cells.get i = .element e slots) : g.children i = slots := by
  have hcell : g.cells[i] = .element e slots := h
  simp only [children, hcell]

theorem children_of_no_element {i : Fin g.size} (h : g.element? (.node i) = none) :
    g.children i = [] := by
  simp only [element?] at h
  simp only [children]
  split
  · rename_i e slots hcell
    have hget : g.cells.get i = .element e slots := hcell
    rw [hget] at h
    exact absurd h (by simp)
  · rfl

/-- The root has a fault exactly when it is no element. -/
theorem rootFault?_eq_none_iff : g.rootFault? = none ↔ (g.element? g.root).isSome := by
  unfold rootFault? element?
  cases g.root with
  | foreign kind => simp
  | node i =>
    have hget : g.cells.get i = g.cells[i] := rfl
    cases hcell : g.cells[i] <;> simp [hget, hcell]

/-- A path leads to one slot at most. -/
theorem Reaches.unique {path : Path} {slot other : Slot g.size} (h : g.Reaches path slot)
    (h' : g.Reaches path other) : slot = other := by
  induction h generalizing other with
  | root =>
    generalize hp : ([] : Path) = path at h'
    cases h' with
    | root => rfl
    | child => exact absurd hp (by simp)
  | @child path i place slot _ here ih =>
    generalize hp : path ++ [place] = path' at h'
    cases h' with
    | root => exact absurd hp (by simp)
    | @child path' j place' _ above' here' =>
      obtain ⟨rfl, hplace⟩ := List.append_inj' hp rfl
      obtain rfl : place = place' := by simpa using hplace
      cases ih above'
      rw [here] at here'
      exact Option.some.inj here'

/-- The last step of a path goes from an element to one of its children. -/
theorem Reaches.above {path : Path} {place : Nat} {slot : Slot g.size}
    (h : g.Reaches (path ++ [place]) slot) :
    ∃ i, g.Reaches path (.node i) ∧ (g.children i)[place]? = some slot := by
  generalize hp : path ++ [place] = path' at h
  cases h with
  | root => exact absurd hp (by simp)
  | @child path' i place' _ above here =>
    obtain ⟨rfl, hplace⟩ := List.append_inj' hp rfl
    obtain rfl : place = place' := by simpa using hplace
    exact ⟨i, above, here⟩

end Graph

end AccessAudit
