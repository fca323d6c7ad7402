import AccessAudit.Proofs.Markup.Path
import Mathlib.Data.List.Forall2
import Mathlib.Data.List.Nodup

/-!
# What the walk over a graph has done

`Graph.walk` knows nodes and orders, and it meets elements in an order of its own making. The
invariant `Walk.Progress` puts a path beside each thing it handles: `done` has the path of every
visited element, in the order of the visits, and `todo` the path of every pending slot. Then all
that matters is said of paths. The visited paths increase, every pending path comes after all of
them, and no pending path lies on another, so that whatever is pushed in place of a slot still
comes before the slots that were waiting behind it.

The walk makes two kinds of step: it passes a text or a comment (`Progress.pass`), or it visits an
element and puts its children in front (`Progress.visit`). `Progress.run` follows them to the end.
A walk that ends well has met every path there is; one that fails does so at a pending slot whose
path and whose predecessors are all known (`Progress.Blocked`).
-/

namespace AccessAudit

namespace Graph

namespace Walk

/-- The ancestors of what stands at a path: the orders of the elements on the path, nearest
first. -/
inductive Trail (done : List Path) : Path → List Nat → Prop where
  -- Nothing is above the root.
  | root : Trail done [] []
  -- A child has its parent above it, and then whatever the parent has.
  | child {path : Path} {ancestors : List Nat} {order : Nat} (place : Nat)
      (above : Trail done path ancestors) (here : done[order]? = some path) :
      Trail done (path ++ [place]) (order :: ancestors)

/-- An element was visited at a path. -/
structure Met (g : Graph) (done : List Path) (visit : Visit g.size) (path : Path) : Prop where
  -- The path leads to it.
  reaches : g.Reaches path (.node visit.node)
  -- It is the element that was noted.
  cell : ∃ slots, g.cells.get visit.node = .element visit.element slots ∧
    visit.childless = slots.isEmpty
  -- Its ancestors are those on the path.
  trail : Trail done path visit.ancestors

/-- A slot is pending at a path. -/
structure Awaited (g : Graph) (done : List Path) (item : Pending g.size) (path : Path) : Prop where
  -- The path leads to it.
  reaches : g.Reaches path item.slot
  -- Its ancestors are those on the path.
  trail : Trail done path item.ancestors

/-- What stands at the path is the root or a child of a visited element. -/
def Due (done : List Path) (path : Path) : Prop :=
  path = [] ∨ ∃ upper ∈ done, ∃ place, path = upper ++ [place]

/-- The slot holds a text or a comment. -/
def Idle (g : Graph) (slot : Slot g.size) : Prop := ∃ i, slot = .node i ∧ g.element? slot = none

/-- The state of a walk, with the paths of what was visited and of what is pending. -/
structure Progress (g : Graph) (found : Found g.size) (unvisited : List (Fin g.size))
    (stack : List (Pending g.size)) (done todo : List Path) : Prop where
  -- Each visit has its path.
  met : List.Forall₂ (Met g done) found.visits.toList done
  -- Each pending slot has its path.
  awaited : List.Forall₂ (Awaited g done) stack todo
  -- Elements were visited in document order.
  sorted : done.Pairwise (· < ·)
  -- What is pending comes after what was visited.
  ahead : ∀ path ∈ done, ∀ next ∈ todo, path < next
  -- What is pending is in document order, and nothing of it lies above the rest.
  apart : todo.Pairwise Path.Branches
  -- Nodes are unvisited until they are visited.
  fresh : ∀ i, i ∈ unvisited ↔ i ∉ found.visits.toList.map Visit.node
  -- No node is counted twice as unvisited.
  distinct : unvisited.Nodup
  -- No node was visited twice.
  once : (found.visits.toList.map Visit.node).Nodup
  -- Nothing that was due has been lost.
  covers : ∀ path slot, g.Reaches path slot → Due done path →
    path ∈ done ∨ path ∈ todo ∨ Idle g slot

variable {g : Graph} {found : Found g.size} {unvisited : List (Fin g.size)}
  {stack : List (Pending g.size)} {item : Pending g.size} {done todo : List Path} {path : Path}

/-! ## Trails -/

theorem Trail.append {ancestors : List Nat} (h : Trail done path ancestors) (more : List Path) :
    Trail (done ++ more) path ancestors := by
  induction h with
  | root => exact .root
  | child place _ here ih =>
    refine .child place ih ?_
    rw [List.getElem?_append_left (List.getElem?_eq_some_iff.mp here).1]
    exact here

theorem Met.append {visit : Visit g.size} (h : Met g done visit path) (more : List Path) :
    Met g (done ++ more) visit path := ⟨h.reaches, h.cell, h.trail.append more⟩

theorem Awaited.append (h : Awaited g done item path) (more : List Path) :
    Awaited g (done ++ more) item path := ⟨h.reaches, h.trail.append more⟩

/-- There are as many ancestors as steps. -/
theorem Trail.length {ancestors : List Nat} (h : Trail done path ancestors) :
    ancestors.length = path.length := by
  induction h with
  | root => rfl
  | child _ _ _ ih => simp [ih]

/-! ## The steps -/

/-- The paths of an element's children. -/
def childPaths (path : Path) (count : Nat) : List Path :=
  (List.range count).map fun place => path ++ [place]

theorem mem_childPaths {next : Path} {count : Nat} :
    next ∈ childPaths path count ↔ ∃ place < count, next = path ++ [place] := by
  simp only [childPaths, List.mem_map, List.mem_range]
  constructor
  · rintro ⟨place, hlt, rfl⟩
    exact ⟨place, hlt, rfl⟩
  · rintro ⟨place, hlt, rfl⟩
    exact ⟨place, hlt, rfl⟩

theorem childPaths_branches (path : Path) (count : Nat) :
    (childPaths path count).Pairwise Path.Branches := by
  unfold childPaths
  rw [List.pairwise_map]
  exact List.pairwise_lt_range.imp fun h => Path.Branches.children h

/-- The children of a visited element are pending at its child paths. -/
theorem awaited_children {i : Fin g.size} {e : Element} {slots : List (Slot g.size)}
    {ancestors : List Nat} {order : Nat} (cell : g.cells.get i = .element e slots)
    (reaches : g.Reaches path (.node i)) (trail : Trail done path ancestors)
    (here : done[order]? = some path) :
    List.Forall₂ (Awaited g done) (slots.map (⟨·, order :: ancestors⟩))
      (childPaths path slots.length) := by
  rw [List.forall₂_iff_get]
  refine ⟨by simp [childPaths], fun place hplace _ => ?_⟩
  have hlt : place < slots.length := by simpa using hplace
  simp only [List.get_eq_getElem, List.getElem_map, childPaths, List.getElem_range]
  refine ⟨.child reaches ?_, .child place trail here⟩
  rw [children_of_cell cell, List.getElem?_eq_getElem hlt]

/-- A text or a comment is passed. -/
theorem Progress.pass (h : Progress g found unvisited (item :: stack) done (path :: todo))
    (idle : Idle g item.slot) {found' : Found g.size} (same : found'.visits = found.visits) :
    Progress g found' unvisited stack done todo := by
  obtain ⟨here, rest⟩ := List.forall₂_cons.mp h.awaited
  refine ⟨by rw [same]; exact h.met, rest, h.sorted, ?_, (List.pairwise_cons.mp h.apart).2,
    by rw [same]; exact h.fresh, h.distinct, by rw [same]; exact h.once, ?_⟩
  · intro upper hupper next hnext
    exact h.ahead upper hupper next (List.mem_cons_of_mem _ hnext)
  · intro other slot reaches due
    rcases h.covers other slot reaches due with hdone | htodo | hidle
    · exact Or.inl hdone
    · rcases List.mem_cons.mp htodo with rfl | hrest
      · rw [reaches.unique here.reaches]
        exact Or.inr (Or.inr idle)
      · exact Or.inr (Or.inl hrest)
    · exact Or.inr (Or.inr hidle)

/-- The children of the element that is visited come after everything visited, and so does what was
pending behind it. -/
theorem Progress.ahead_visit
    (h : Progress g found unvisited (item :: stack) done (path :: todo)) (count : Nat) :
    ∀ upper ∈ done ++ [path], ∀ next ∈ childPaths path count ++ todo, upper < next := by
  intro upper hupper next hnext
  rcases List.mem_append.mp hnext with hchild | htodo
  · obtain ⟨place, -, rfl⟩ := mem_childPaths.mp hchild
    rcases List.mem_append.mp hupper with hdone | hself
    · exact Path.lt_append (h.ahead upper hdone path List.mem_cons_self) [place]
    · rw [List.mem_singleton.mp hself]
      exact Path.lt_append_cons path place []
  · rcases List.mem_append.mp hupper with hdone | hself
    · exact h.ahead upper hdone next (List.mem_cons_of_mem _ htodo)
    · rw [List.mem_singleton.mp hself]
      exact ((List.pairwise_cons.mp h.apart).1 next htodo).lt

/-- A child stays to the left of everything its parent was to the left of. -/
theorem Progress.apart_visit
    (h : Progress g found unvisited (item :: stack) done (path :: todo)) (count : Nat) :
    (childPaths path count ++ todo).Pairwise Path.Branches := by
  obtain ⟨hfirst, hapart⟩ := List.pairwise_cons.mp h.apart
  refine List.pairwise_append.mpr ⟨childPaths_branches path count, hapart, ?_⟩
  intro child hchild next hnext
  obtain ⟨place, -, rfl⟩ := mem_childPaths.mp hchild
  have hbranches := (hfirst next hnext).append [place] []
  rwa [List.append_nil] at hbranches

/-- A visit makes the children of the element due, and nothing else. -/
theorem due_visit {other : Path} (h : Due (done ++ [path]) other) :
    Due done other ∨ ∃ place, other = path ++ [place] := by
  rcases h with rfl | ⟨upper, hupper, place, rfl⟩
  · exact Or.inl (Or.inl rfl)
  · rcases List.mem_append.mp hupper with hdone | hself
    · exact Or.inl (Or.inr ⟨upper, hdone, place, rfl⟩)
    · rw [List.mem_singleton.mp hself]
      exact Or.inr ⟨place, rfl⟩

theorem Progress.covers_visit {i : Fin g.size} {ancestors : List Nat} {e : Element}
    {slots : List (Slot g.size)}
    (h : Progress g found unvisited (⟨.node i, ancestors⟩ :: stack) done (path :: todo))
    (cell : g.cells.get i = .element e slots) {other : Path} {slot : Slot g.size}
    (reaches : g.Reaches other slot) (due : Due (done ++ [path]) other) :
    other ∈ done ++ [path] ∨ other ∈ childPaths path slots.length ++ todo ∨ Idle g slot := by
  obtain ⟨here, -⟩ := List.forall₂_cons.mp h.awaited
  rcases due_visit due with hold | ⟨place, rfl⟩
  · rcases h.covers other slot reaches hold with hdone | htodo | hidle
    · exact Or.inl (List.mem_append_left _ hdone)
    · rcases List.mem_cons.mp htodo with rfl | hrest
      · exact Or.inl (List.mem_append_right _ (List.mem_singleton_self _))
      · exact Or.inr (Or.inl (List.mem_append_right _ hrest))
    · exact Or.inr (Or.inr hidle)
  · -- a path to a child leads through the element, and the walk has pushed every slot of it
    obtain ⟨j, hj, hchild⟩ := reaches.above
    cases hj.unique here.reaches
    rw [children_of_cell cell] at hchild
    have hlt := (List.getElem?_eq_some_iff.mp hchild).1
    exact Or.inr (Or.inl (List.mem_append_left _ (mem_childPaths.mpr ⟨place, hlt, rfl⟩)))

/-- An element is visited for the first time, and its children are put in front. -/
theorem Progress.visit {i : Fin g.size} {ancestors : List Nat} {e : Element}
    {slots : List (Slot g.size)}
    (h : Progress g found unvisited (⟨.node i, ancestors⟩ :: stack) done (path :: todo))
    (cell : g.cells.get i = .element e slots) (new : i ∈ unvisited) :
    Progress g { found with visits := found.visits.push ⟨i, e, ancestors, slots.isEmpty⟩ }
      (unvisited.erase i) (slots.map (⟨·, found.visits.size :: ancestors⟩) ++ stack)
      (done ++ [path]) (childPaths path slots.length ++ todo) := by
  obtain ⟨here, rest⟩ := List.forall₂_cons.mp h.awaited
  have hsize : found.visits.size = done.length := by
    simpa using h.met.length_eq
  have hlast : (done ++ [path])[found.visits.size]? = some path := by simp [hsize]
  refine ⟨?met, ?awaited, ?sorted, h.ahead_visit slots.length, h.apart_visit slots.length, ?fresh,
    h.distinct.erase i, ?once, fun _ _ reaches due => h.covers_visit cell reaches due⟩
  case met =>
    -- the new visit has the path of the slot it was pending in
    rw [Array.toList_push]
    refine List.rel_append (h.met.imp fun _ _ hmet => hmet.append [path]) ?_
    exact .cons ⟨here.reaches, ⟨slots, cell, rfl⟩, here.trail.append [path]⟩ .nil
  case awaited =>
    refine List.rel_append ?_ (rest.imp fun _ _ hawaited => hawaited.append [path])
    exact awaited_children cell here.reaches (here.trail.append [path]) hlast
  case sorted =>
    refine List.pairwise_append.mpr ⟨h.sorted, List.pairwise_singleton .., ?_⟩
    intro upper hupper last hl
    rw [List.mem_singleton.mp hl]
    exact h.ahead upper hupper path List.mem_cons_self
  case fresh =>
    intro j
    rw [h.distinct.mem_erase_iff, h.fresh j]
    simp only [Array.toList_push, List.map_append, List.map_cons, List.map_nil, List.mem_append,
      List.mem_singleton, not_or]
    exact and_comm
  case once =>
    simp only [Array.toList_push, List.map_append, List.map_cons, List.map_nil]
    refine List.nodup_append.mpr ⟨h.once, by simp, ?_⟩
    rintro a ha b hb rfl
    rw [List.mem_singleton.mp hb] at ha
    exact (h.fresh i).mp new ha

/-! ## The whole walk -/

theorem Progress.start (g : Graph) :
    Progress g {} (List.finRange g.size) [⟨g.root, []⟩] [] [[]] := by
  refine ⟨.nil, .cons ⟨.root, .root⟩ .nil, .nil, ?_, List.pairwise_singleton .., ?_,
    List.nodup_finRange g.size, .nil, ?_⟩
  · intro path hpath
    exact absurd hpath (List.not_mem_nil)
  · intro i
    simp [List.mem_finRange]
  · rintro path slot - (rfl | ⟨upper, hupper, -⟩)
    · exact Or.inr (Or.inl (List.mem_singleton_self _))
    · exact absurd hupper (List.not_mem_nil)

/-- A pending slot at which the walk cannot go on, and why. -/
inductive Blocked (g : Graph) (found : Found g.size) (unvisited : List (Fin g.size))
    (item : Pending g.size) : Malformation → Prop where
  -- It holds no node.
  | foreign {kind : String} (slot : item.slot = .foreign kind) :
      Blocked g found unvisited item (.foreign kind)
  -- It holds an element that was visited before.
  | again {i : Fin g.size} {e : Element} {slots : List (Slot g.size)} (slot : item.slot = .node i)
      (cell : g.cells.get i = .element e slots) (old : i ∉ unvisited) :
      Blocked g found unvisited item (secondMeeting found i e item.ancestors)

/-- The walk ends with nothing pending, or at a slot where it cannot go on. -/
theorem Progress.run (h : Progress g found unvisited stack done todo) :
    match walk g found unvisited stack with
    | .ok last => ∃ rest paths, Progress g last rest [] paths []
    | .error why => ∃ last rest item stack paths path todo,
        Progress g last rest (item :: stack) paths (path :: todo) ∧
          Blocked g last rest item why := by
  fun_induction walk g found unvisited stack generalizing done todo with
  | case1 found unvisited =>
    obtain rfl := List.forall₂_nil_left_iff.mp h.awaited
    exact ⟨unvisited, done, h⟩
  | case2 found unvisited kind ancestors rest =>
    obtain ⟨path, todo, -, -, rfl⟩ := List.forall₂_cons_left_iff.mp h.awaited
    exact ⟨found, unvisited, _, rest, done, path, todo, h, .foreign rfl⟩
  | case3 found unvisited i ancestors rest content cell ih =>
    obtain ⟨path, todo, -, -, rfl⟩ := List.forall₂_cons_left_iff.mp h.awaited
    have hcell : g.cells.get i = _ := cell
    exact ih (h.pass ⟨i, rfl, element?_of_no_element (by simp [hcell])⟩ rfl)
  | case4 found unvisited i ancestors rest content cell ih =>
    obtain ⟨path, todo, -, -, rfl⟩ := List.forall₂_cons_left_iff.mp h.awaited
    have hcell : g.cells.get i = _ := cell
    exact ih (h.pass ⟨i, rfl, element?_of_no_element (by simp [hcell])⟩ rfl)
  | case5 found unvisited i ancestors rest e slots cell new inner =>
    rename_i ih
    obtain ⟨path, todo, -, -, rfl⟩ := List.forall₂_cons_left_iff.mp h.awaited
    exact ih (h.visit cell new)
  | case6 found unvisited i ancestors rest e slots cell old =>
    obtain ⟨path, todo, -, -, rfl⟩ := List.forall₂_cons_left_iff.mp h.awaited
    exact ⟨found, unvisited, _, rest, done, path, todo, h, .again rfl cell old⟩

/-! ## Where it ends -/

/-- When nothing is pending, everything that can be reached was visited or holds no element. -/
theorem Progress.complete (h : Progress g found unvisited [] done []) {slot : Slot g.size}
    (reaches : g.Reaches path slot) : path ∈ done ∨ Idle g slot := by
  have hcovers : ∀ path slot, g.Reaches path slot → Due done path → path ∈ done ∨ Idle g slot := by
    intro path slot hreaches hdue
    rcases h.covers path slot hreaches hdue with hdone | htodo | hidle
    · exact Or.inl hdone
    · exact absurd htodo (List.not_mem_nil)
    · exact Or.inr hidle
  induction reaches with
  | root => exact hcovers [] g.root .root (Or.inl rfl)
  | @child upper i place slot above here ih =>
    rcases ih with hdone | ⟨j, hj, hnone⟩
    · exact hcovers _ slot (.child above here) (Or.inr ⟨upper, hdone, place, rfl⟩)
    · -- a text or a comment has no children
      rw [children_of_no_element hnone] at here
      exact absurd here (by simp)

theorem Progress.mem_visits (h : Progress g found unvisited stack done todo) {i : Fin g.size}
    (old : i ∉ unvisited) : i ∈ found.visits.toList.map Visit.node := by
  by_contra hnew
  exact old ((h.fresh i).mpr hnew)

/-- The visit with the same order as a path. -/
theorem Progress.met_at (h : Progress g found unvisited stack done todo) {order : Nat}
    (here : done[order]? = some path) :
    ∃ visit, found.visits.toList[order]? = some visit ∧ Met g done visit path := by
  obtain ⟨hlt, rfl⟩ := List.getElem?_eq_some_iff.mp here
  have hlt' : order < found.visits.toList.length := by rw [h.met.length_eq]; exact hlt
  exact ⟨_, List.getElem?_eq_getElem hlt', h.met.get hlt' hlt⟩

theorem Met.element {visit : Visit g.size} (h : Met g done visit path) :
    g.element? (.node visit.node) = some visit.element := by
  obtain ⟨slots, cell, -⟩ := h.cell
  exact element?_of_cell cell

/-- A visited node has one path among those of visited elements. -/
theorem Progress.path_unique (h : Progress g found unvisited stack done todo) {i : Fin g.size}
    {other : Path} (hpath : path ∈ done) (hother : other ∈ done)
    (reaches : g.Reaches path (.node i)) (reaches' : g.Reaches other (.node i)) :
    path = other := by
  obtain ⟨order, hlt, rfl⟩ := List.getElem_of_mem hpath
  obtain ⟨order', hlt', rfl⟩ := List.getElem_of_mem hother
  obtain ⟨visit, hvisit, hmet⟩ := h.met_at (List.getElem?_eq_getElem hlt)
  obtain ⟨visit', hvisit', hmet'⟩ := h.met_at (List.getElem?_eq_getElem hlt')
  have hnode : visit.node = i := by simpa using hmet.reaches.unique reaches
  have hnode' : visit'.node = i := by simpa using hmet'.reaches.unique reaches'
  have hmap : ∀ {k : Nat} {v : Visit g.size}, found.visits.toList[k]? = some v → v.node = i →
      (found.visits.toList.map Visit.node)[k]? = some i := by
    intro k v hv hn
    rw [List.getElem?_map, hv, Option.map_some, hn]
  obtain ⟨hk, hget⟩ := List.getElem?_eq_some_iff.mp (hmap hvisit hnode)
  obtain ⟨hk', hget'⟩ := List.getElem?_eq_some_iff.mp (hmap hvisit' hnode')
  obtain rfl : order = order' := h.once.getElem_inj_iff.mp (hget.trans hget'.symm)
  rfl

/-- A graph on which the walk ends well is a tree, and the visited paths are those of its
elements. -/
theorem Progress.isTree (h : Progress g found unvisited [] done [])
    (root : (g.element? g.root).isSome) : g.IsTree := by
  refine ⟨root, ?_, ?_⟩
  · intro path kind reaches
    rcases h.complete reaches with hdone | ⟨i, hi, -⟩
    · obtain ⟨order, hlt, rfl⟩ := List.getElem_of_mem hdone
      obtain ⟨visit, -, hmet⟩ := h.met_at (List.getElem?_eq_getElem hlt)
      exact absurd (hmet.reaches.unique reaches) (by simp)
    · exact absurd hi (by simp)
  · intro path other i reaches reaches' element
    have hmem : ∀ {p : Path}, g.Reaches p (.node i) → p ∈ done := by
      intro p hp
      rcases h.complete hp with hdone | ⟨_, -, hnone⟩
      · exact hdone
      · rw [hnone] at element
        exact absurd element (by simp)
    exact h.path_unique (hmem reaches) (hmem reaches') reaches reaches'

theorem Progress.preorder (h : Progress g found unvisited [] done []) : g.Preorder done := by
  refine ⟨h.sorted, fun path => ⟨fun hpath => ?_, ?_⟩⟩
  · obtain ⟨order, hlt, rfl⟩ := List.getElem_of_mem hpath
    obtain ⟨visit, -, hmet⟩ := h.met_at (List.getElem?_eq_getElem hlt)
    exact ⟨_, hmet.reaches, by rw [hmet.element]; rfl⟩
  · rintro ⟨slot, reaches, element⟩
    rcases h.complete reaches with hdone | ⟨_, -, hnone⟩
    · exact hdone
    · rw [hnone] at element
      exact absurd element (by simp)

/-- A graph on which the walk fails is no tree. -/
theorem Progress.not_isTree {why : Malformation}
    (h : Progress g found unvisited (item :: stack) done (path :: todo))
    (blocked : Blocked g found unvisited item why) : ¬ g.IsTree := by
  obtain ⟨here, -⟩ := List.forall₂_cons.mp h.awaited
  intro tree
  cases blocked with
  | foreign slot =>
    exact tree.nodes path _ (slot ▸ here.reaches)
  | @again i e slots slot cell old =>
    -- the node was visited at a path of its own, which comes before this one
    obtain ⟨visit, hvisit, rfl⟩ := List.mem_map.mp (h.mem_visits old)
    obtain ⟨order, hlt, rfl⟩ := List.getElem_of_mem hvisit
    have hlt' : order < done.length := by rw [← h.met.length_eq]; exact hlt
    have hmet := h.met.get hlt hlt'
    have hpath : done.get ⟨order, hlt'⟩ = path :=
      tree.single _ _ _ hmet.reaches (slot ▸ here.reaches) (by rw [hmet.element]; rfl)
    have hlt : done.get ⟨order, hlt'⟩ < path :=
      h.ahead _ (List.getElem_mem hlt') path (List.mem_cons_self ..)
    rw [hpath] at hlt
    exact List.lt_irrefl path hlt

end Walk

end Graph

end AccessAudit
