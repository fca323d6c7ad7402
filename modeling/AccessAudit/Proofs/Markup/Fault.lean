import AccessAudit.Document.Merge
import AccessAudit.Proofs.Markup.Index

/-!
# The first fault of a graph

A graph that is no tree may be wrong in many places. `Graph.Faulty` says what is wrong with the slot
at a path, without regard to the walk: it holds no node, or an element on its own path, or an
element that another path leads to earlier in document order. Of all faulty slots the first one is
told (`index_eq_error_iff`).

The walk stops at a pending slot. Everything that can be reached on a smaller path was visited, or
is a text or a comment (`Progress.before`), and nothing was visited twice, so no earlier slot is
faulty. The ancestors of the slot are the visits on its path; that tells a cycle from an element
that is only shared.
-/

namespace AccessAudit

namespace Graph

/-- What is wrong with the slot at a path. -/
inductive Faulty (g : Graph) (path : Path) : Malformation → Prop where
  -- It holds a value that is no node.
  | foreign {kind : String} (here : g.Reaches path (.foreign kind)) : Faulty g path (.foreign kind)
  -- It holds an element that is above it.
  | cycle {i : Fin g.size} {e : Element} {upper steps : Path} (here : g.Reaches path (.node i))
      (element : g.element? (.node i) = some e) (above : g.Reaches upper (.node i))
      (below : path = upper ++ steps) (apart : steps ≠ []) : Faulty g path (.cycle e)
  -- It holds an element that comes up before, and that is not above it.
  | shared {i : Fin g.size} {e : Element} {earlier : Path} (here : g.Reaches path (.node i))
      (element : g.element? (.node i) = some e) (before : earlier < path)
      (met : g.Reaches earlier (.node i))
      (beside : ∀ upper steps, path = upper ++ steps → steps ≠ [] → ¬ g.Reaches upper (.node i)) :
      Faulty g path (.shared e)

/-- The first faulty slot in document order, and what is wrong with it. -/
def FirstFault (g : Graph) (path : Path) (why : Malformation) : Prop :=
  g.Faulty path why ∧ ∀ earlier < path, ∀ other, ¬ g.Faulty earlier other

variable {g : Graph} {path : Path} {why : Malformation}

/-- One thing is wrong with a slot at most. -/
theorem Faulty.unique (h : g.Faulty path why) {other : Malformation} (h' : g.Faulty path other) :
    why = other := by
  cases h with
  | foreign here =>
    cases h' with
    | foreign here' => cases here.unique here'; rfl
    | cycle here' => cases here.unique here'
    | shared here' => cases here.unique here'
  | cycle here element above below apart =>
    cases h' with
    | foreign here' => cases here.unique here'
    | cycle here' element' =>
      cases here.unique here'
      rw [element] at element'
      rw [Option.some.inj element']
    | shared here' _ _ _ beside =>
      cases here.unique here'
      exact absurd above (beside _ _ below apart)
  | shared here element _ _ beside =>
    cases h' with
    | foreign here' => cases here.unique here'
    | cycle here' _ above below apart =>
      cases here.unique here'
      exact absurd above (beside _ _ below apart)
    | shared here' element' =>
      cases here.unique here'
      rw [element] at element'
      rw [Option.some.inj element']

theorem FirstFault.unique (h : g.FirstFault path why) {path' : Path} {why' : Malformation}
    (h' : g.FirstFault path' why') : path = path' ∧ why = why' := by
  have hlt : ¬ path < path' := fun hlt => h'.2 path hlt why h.1
  have hgt : ¬ path' < path := fun hgt => h.2 path' hgt why' h'.1
  obtain rfl : path = path' := List.le_antisymm (List.not_lt.mp hgt) (List.not_lt.mp hlt)
  exact ⟨rfl, h.1.unique h'.1⟩

namespace Walk

variable {found : Found g.size} {unvisited : List (Fin g.size)} {stack : List (Pending g.size)}
  {item : Pending g.size} {done todo : List Path} {earlier : Path} {i : Fin g.size}

/-! ## Before the walk stops -/

/-- What comes before the next pending slot was visited, or holds a text or a comment. -/
theorem Progress.before (h : Progress g found unvisited (item :: stack) done (path :: todo))
    {slot : Slot g.size} (reaches : g.Reaches earlier slot) (hlt : earlier < path) :
    earlier ∈ done ∨ Idle g slot := by
  have hcovers : ∀ other slot, g.Reaches other slot → Due done other → other < path →
      other ∈ done ∨ Idle g slot := by
    intro other slot hreaches hdue hother
    rcases h.covers other slot hreaches hdue with hdone | htodo | hidle
    · exact Or.inl hdone
    · -- pending slots start at the path, and it is the first of them
      rcases List.mem_cons.mp htodo with rfl | hlater
      · exact absurd hother (List.lt_irrefl other)
      · have hafter := ((List.pairwise_cons.mp h.apart).1 other hlater).lt
        exact absurd hother (List.lt_asymm hafter)
    · exact Or.inr hidle
  induction reaches with
  | root => exact hcovers [] g.root .root (Or.inl rfl) hlt
  | @child upper j place slot above here ih =>
    have hupper : upper < path := List.lt_trans (Path.lt_append_cons upper place []) hlt
    rcases ih hupper with hdone | ⟨_, hslot, hnone⟩
    · exact hcovers _ slot (.child above here) (Or.inr ⟨upper, hdone, place, rfl⟩) hlt
    · cases hslot
      rw [children_of_no_element hnone] at here
      exact absurd here (by simp)

theorem Progress.mem_done (h : Progress g found unvisited (item :: stack) done (path :: todo))
    (reaches : g.Reaches earlier (.node i)) {e : Element} (element : g.element? (.node i) = some e)
    (hlt : earlier < path) : earlier ∈ done := by
  rcases h.before reaches hlt with hdone | ⟨_, -, hnone⟩
  · exact hdone
  · rw [hnone] at element
    cases element

/-- No slot before the next pending one is faulty. -/
theorem Progress.not_faulty (h : Progress g found unvisited (item :: stack) done (path :: todo))
    (hlt : earlier < path) : ¬ g.Faulty earlier why := by
  intro hfault
  cases hfault with
  | foreign here =>
    rcases h.before here hlt with hdone | ⟨_, hslot, -⟩
    · obtain ⟨order, hsize, rfl⟩ := List.getElem_of_mem hdone
      obtain ⟨visit, -, hmet⟩ := h.met_at (List.getElem?_eq_getElem hsize)
      cases here.unique hmet.reaches
    · cases hslot
  | @cycle i e upper steps here element above below apart =>
    obtain ⟨place, rest, rfl⟩ := List.exists_cons_of_ne_nil apart
    have hupper : upper < earlier := below ▸ Path.lt_append_cons upper place rest
    have heq := h.path_unique (h.mem_done above element (List.lt_trans hupper hlt))
      (h.mem_done here element hlt) above here
    exact absurd hupper (heq ▸ List.lt_irrefl upper)
  | @shared i e first here element before met beside =>
    have heq := h.path_unique (h.mem_done met element (List.lt_trans before hlt))
      (h.mem_done here element hlt) met here
    exact absurd before (heq ▸ List.lt_irrefl first)

/-! ## Where the walk stops -/

/-- The visit of an element that is met again. -/
theorem Progress.visited (h : Progress g found unvisited stack done todo) (old : i ∉ unvisited) :
    ∃ order upper, found.visits.findIdx? (·.node == i) = some order ∧
      done[order]? = some upper ∧ g.Reaches upper (.node i) := by
  obtain ⟨visit, hvisit, rfl⟩ := List.mem_map.mp (h.mem_visits old)
  cases hfind : found.visits.findIdx? (·.node == visit.node) with
  | none =>
    have hnone := Array.findIdx?_eq_none_iff.mp hfind visit (Array.mem_toList_iff.mp hvisit)
    simp at hnone
  | some order =>
    obtain ⟨hsize, hnode, -⟩ := Array.findIdx?_eq_some_iff_getElem.mp hfind
    have hdone : order < done.length := by
      rw [← h.met.length_eq]
      simpa using hsize
    have hmet := h.met.get (by simpa using hsize) hdone
    refine ⟨order, _, rfl, List.getElem?_eq_getElem hdone, ?_⟩
    have hsame : found.visits[order].node = visit.node := by simpa using hnode
    have hreaches := hmet.reaches
    simp only [List.get_eq_getElem, Array.getElem_toList, hsame] at hreaches
    exact hreaches

/-- The slot at which the walk stops is faulty. -/
theorem Progress.faulty (h : Progress g found unvisited (item :: stack) done (path :: todo))
    (blocked : Blocked g found unvisited item why) : g.Faulty path why := by
  obtain ⟨awaited, -⟩ := List.forall₂_cons.mp h.awaited
  cases blocked with
  | foreign slot => exact .foreign (slot ▸ awaited.reaches)
  | @again i e slots slot cell old =>
    have here : g.Reaches path (.node i) := slot ▸ awaited.reaches
    have element : g.element? (.node i) = some e := element?_of_cell cell
    obtain ⟨order, first, hfind, hfirst, met⟩ := h.visited old
    have htrail := @Trail.mem_iff done path item.ancestors order awaited.trail h.sorted
    unfold secondMeeting
    rw [hfind]
    dsimp only
    split
    case isTrue habove =>
      obtain ⟨upper, steps, hupper, apart, below⟩ := htrail.mp (List.contains_iff_mem.mp habove)
      rw [hfirst] at hupper
      cases hupper
      exact .cycle here element met below apart
    case isFalse hbeside =>
      have hdone : first ∈ done := List.mem_of_getElem? hfirst
      refine .shared here element (h.ahead first hdone path List.mem_cons_self) met ?_
      intro upper steps below apart hupper
      -- an element above the slot was visited there, and so has to be an ancestor
      obtain ⟨place, rest, rfl⟩ := List.exists_cons_of_ne_nil apart
      have hlt : upper < path := below ▸ Path.lt_append_cons upper place rest
      have heq := h.path_unique (h.mem_done hupper element hlt) hdone hupper met
      subst heq
      exact hbeside (List.contains_iff_mem.mpr (htrail.mpr ⟨upper, _, hfirst, apart, below⟩))

theorem Progress.firstFault (h : Progress g found unvisited (item :: stack) done (path :: todo))
    (blocked : Blocked g found unvisited item why) : g.FirstFault path why :=
  ⟨h.faulty blocked, fun _ hlt _ => h.not_faulty hlt⟩

end Walk

/-! ## What is told of a graph -/

theorem Faulty.not_isTree (h : g.Faulty path why) : ¬ g.IsTree := by
  intro tree
  cases h with
  | foreign here => exact tree.nodes _ _ here
  | cycle here element above below apart =>
    have heq := tree.single _ _ _ above here (by rw [element]; rfl)
    rw [below] at heq
    exact apart (List.self_eq_append_right.mp heq)
  | @shared i e earlier here element before met =>
    have heq := tree.single _ _ _ met here (by rw [element]; rfl)
    exact absurd before (heq ▸ List.lt_irrefl earlier)

/-- A root that is an element is not faulty, so that a faulty slot is a child. -/
theorem Faulty.exists_child (h : g.Faulty path why) (root : (g.element? g.root).isSome) :
    ∃ upper place, path = upper ++ [place] := by
  rcases List.eq_nil_or_concat path with rfl | ⟨upper, place, rfl⟩
  · cases h with
    | foreign here =>
      rw [← here.unique .root] at root
      cases root
    | cycle here element above below apart =>
      exact absurd (List.append_eq_nil_iff.mp below.symm).2 apart
    | shared here element before => exact absurd before (List.not_lt_nil _)
  · exact ⟨upper, place, List.concat_eq_append ..⟩

/-- Indexing a graph whose root is an element fails exactly with its first fault. -/
theorem index_eq_error_iff (source : String) (root : (g.element? g.root).isSome) :
    g.index source = .error why ↔ ∃ path, g.FirstFault path why := by
  have hfault : ∀ why, g.index source = .error why → ∃ path, g.FirstFault path why := by
    intro why h
    unfold index at h
    rw [rootFault?_eq_none_iff.mpr root] at h
    have hrun := (Walk.Progress.start g).run
    cases hwalk : walk g {} (List.finRange g.size) [⟨g.root, []⟩] with
    | ok found =>
      rw [hwalk] at h
      cases h
    | error why' =>
      rw [hwalk] at h hrun
      cases h
      obtain ⟨_, _, _, _, _, path, _, hprogress, hblocked⟩ := hrun
      exact ⟨path, hprogress.firstFault hblocked⟩
  refine ⟨hfault why, ?_⟩
  rintro ⟨path, hfirst⟩
  have hcases := Fragment.index_cases g source
  cases hindex : g.index source with
  | ok f =>
    rw [hindex] at hcases
    exact absurd hcases.1 hfirst.1.not_isTree
  | error why' =>
    obtain ⟨path', hfirst'⟩ := hfault why' hindex
    rw [(hfirst.unique hfirst').2]

end Graph

/-! ## Leaving a graph out -/

theorem Fragment.ofGraph_eq_error_iff {g : Graph} {source : String} {m : MalformedFragment} :
    Fragment.ofGraph g source = .error m ↔
      m.source = (if source.isEmpty then g.rootFile else source) ∧
        g.index (if source.isEmpty then g.rootFile else source) = .error m.why := by
  unfold Fragment.ofGraph
  dsimp only
  generalize (if source.isEmpty then g.rootFile else source) = name
  cases g.index name with
  | ok f => simp
  | error why =>
    obtain ⟨source', why'⟩ := m
    simp only [Except.error.injEq, MalformedFragment.mk.injEq]
    exact and_congr_left' eq_comm

namespace FragmentInput

/-- The fragment of an input at a place, if it is one. -/
def fragment? (input : FragmentInput) (place : Nat) : Option Fragment :=
  (input.toFragment (toString place)).toOption

/-- What is noted of an input at a place, if it is no fragment. -/
def diagnostic? (input : FragmentInput) (place : Nat) : Option Diagnostic :=
  match input.toFragment (toString place) with
  | .ok _ => none
  | .error m => some ⟨m.source, m.why.reason⟩

end FragmentInput

/-- The fragments of inputs from a place on, in order. -/
def usableFrom (place : Nat) (inputs : List FragmentInput) : List Fragment :=
  (inputs.zipIdx place).filterMap fun entry => entry.1.fragment? entry.2

/-- What is noted of inputs from a place on, in order. -/
def notedFrom (place : Nat) (inputs : List FragmentInput) : List Diagnostic :=
  (inputs.zipIdx place).filterMap fun entry => entry.1.diagnostic? entry.2

/-- Every input gives a fragment or a diagnostic. -/
theorem indexInputs_eq (place : Nat) (inputs : List FragmentInput) :
    indexInputs place inputs = (usableFrom place inputs, notedFrom place inputs) := by
  unfold usableFrom notedFrom
  induction inputs generalizing place with
  | nil => rfl
  | cons input rest ih =>
    rw [indexInputs, ih (place + 1), List.zipIdx_cons]
    simp only [List.filterMap_cons, FragmentInput.fragment?, FragmentInput.diagnostic?]
    cases input.toFragment (toString place) with
    | ok f => rfl
    | error m => rfl

theorem zipIdx_split (before after : List FragmentInput) (input : FragmentInput) :
    (before ++ input :: after).zipIdx =
      before.zipIdx ++ (input, before.length) :: after.zipIdx (before.length + 1) := by
  rw [List.zipIdx_append, List.zipIdx_cons, Nat.zero_add]

section Skip

variable {before after : List FragmentInput} {input : FragmentInput} {m : MalformedFragment}
  (h : input.toFragment (toString before.length) = .error m)

include h

theorem notedFrom_skip : notedFrom 0 (before ++ input :: after) =
    notedFrom 0 before ++ ⟨m.source, m.why.reason⟩ :: notedFrom (before.length + 1) after := by
  have hnoted : input.diagnostic? before.length = some ⟨m.source, m.why.reason⟩ := by
    rw [FragmentInput.diagnostic?, h]
  rw [notedFrom, zipIdx_split, List.filterMap_append]
  simp only [List.filterMap_cons, hnoted]
  rfl

theorem usableFrom_skip : usableFrom 0 (before ++ input :: after) =
    usableFrom 0 before ++ usableFrom (before.length + 1) after := by
  have hnone : input.fragment? before.length = none := by
    rw [FragmentInput.fragment?, h]
    rfl
  rw [usableFrom, zipIdx_split, List.filterMap_append]
  simp only [List.filterMap_cons, hnone]
  rfl

end Skip

/-- The name that a graph among the inputs goes by. -/
def Graph.nameAt (g : Graph) (place : Nat) : String :=
  if g.rootFile.isEmpty then "fragment-" ++ toString place else g.rootFile

theorem Graph.nameAt_nonempty (g : Graph) (place : Nat) : (g.nameAt place).isEmpty = false := by
  unfold nameAt
  split
  · simp
  case isFalse hfile => simpa using hfile

/-- A graph with a first fault is noted for it and gives no fragment. -/
theorem Graph.FirstFault.toFragment_bare {g : Graph} {path : Path} {why : Malformation}
    (h : g.FirstFault path why) (root : (g.element? g.root).isSome) (place : Nat) :
    (FragmentInput.bare g).toFragment (toString place) = .error ⟨g.nameAt place, why⟩ := by
  show Fragment.ofGraph g (g.nameAt place) = _
  rw [Fragment.ofGraph_eq_error_iff, g.nameAt_nonempty]
  exact ⟨rfl, (Graph.index_eq_error_iff _ root).mpr ⟨path, h⟩⟩

/-- **A graph that is no tree is told by its first fault in document order.** Among the inputs of a
document it leaves one diagnostic, in its place, and no fragment. -/
theorem merge_tells_first_fault (g : Graph) (root : (g.element? g.root).isSome) :
    (∀ source m, Fragment.ofGraph g source = .error m ↔
      m.source = (if source.isEmpty then g.rootFile else source) ∧
        ∃ upper place, g.FirstFault (upper ++ [place]) m.why) ∧
    ∀ path why, g.FirstFault path why → ∀ config before after scripts sheets scope,
      (merge config (before ++ .bare g :: after) scripts sheets scope).diagnostics =
        notedFrom 0 before ++ ⟨g.nameAt before.length, why.reason⟩ ::
          notedFrom (before.length + 1) after ∧
      (merge config (before ++ .bare g :: after) scripts sheets scope).fragments.toList =
        usableFrom 0 before ++ usableFrom (before.length + 1) after := by
  constructor
  · intro source m
    rw [Fragment.ofGraph_eq_error_iff, Graph.index_eq_error_iff _ root]
    refine and_congr_right fun _ => ⟨?_, ?_⟩
    · rintro ⟨path, hfirst⟩
      obtain ⟨upper, place, rfl⟩ := hfirst.1.exists_child root
      exact ⟨upper, place, hfirst⟩
    · rintro ⟨upper, place, hfirst⟩
      exact ⟨_, hfirst⟩
  · intro path why hfirst config before after scripts sheets scope
    have hbare := hfirst.toFragment_bare root before.length
    constructor
    · show (indexInputs 0 (before ++ .bare g :: after)).2 = _
      rw [indexInputs_eq, notedFrom_skip hbare]
    · show (indexInputs 0 (before ++ .bare g :: after)).1.toArray.toList = _
      rw [indexInputs_eq, usableFrom_skip hbare]

/-- A page whose list has the page itself in its content, after a text that stands twice, and with
more faults behind. -/
def tangledPage : Graph where
  size := 4
  cells := #v[
    .element { tag := "main" }
      [.node ⟨3, by decide⟩, .node ⟨1, by decide⟩, .foreign "int", .node ⟨2, by decide⟩],
    .element { tag := "ul" } [.node ⟨3, by decide⟩, .node ⟨2, by decide⟩, .node ⟨0, by decide⟩],
    .element { tag := "li" } [],
    .text "Menu"]
  root := .node ⟨0, by decide⟩

theorem merge_tells_tangledPage :
    (∃ upper place, tangledPage.FirstFault (upper ++ [place]) (.cycle { tag := "main" })) ∧
      (merge {} [.bare tangledPage] [] [] .null).diagnostics =
        [⟨"fragment-0", "cycle through <main> element"⟩] := by
  have hindex : tangledPage.index "page" = .error (.cycle { tag := "main" }) := by cbv
  have htells := merge_tells_first_fault tangledPage rfl
  obtain ⟨-, upper, place, hfirst⟩ := (htells.1 "page" ⟨"page", .cycle { tag := "main" }⟩).mp
    (Fragment.ofGraph_eq_error_iff.mpr ⟨rfl, hindex⟩)
  exact ⟨⟨upper, place, hfirst⟩, (htells.2 _ _ hfirst {} [] [] [] [] .null).1⟩

end AccessAudit
