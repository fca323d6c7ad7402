import AccessAudit.Proofs.Markup.Walk
import Mathlib.Data.Fin.Tuple.Take

/-!
# What the index of a fragment says

A fragment keeps two encodings of ancestry: for each element the list of its ancestors, and the
first order after its subtree. Neither is the tree. `Fragment.LaidOut` says what ties a fragment to
a list of paths in document order, and from it every lookup is read off: the ancestors of an
element are the elements on its path, its parent is the one a step above, and its descendants, an
interval of orders, are the elements whose paths extend its own.

The ends of subtrees are found by comparing depths only. That this is enough rests on two facts
about paths in document order that are closed under going up: whatever comes between a path and an
extension of it is an extension too, and a path that is not below another has an ancestor as deep
as that other one between them.
-/

namespace AccessAudit

namespace Path

/-- Of the paths in a list, one is below another. -/
def Below (paths : List Path) (above order : Nat) : Prop :=
  ∃ upper steps, paths[above]? = some upper ∧ steps ≠ [] ∧ paths[order]? = some (upper ++ steps)

/-- Of the paths in a list, one is a step below another. -/
def ChildOf (paths : List Path) (above order : Nat) : Prop :=
  ∃ upper place, paths[above]? = some upper ∧ paths[order]? = some (upper ++ [place])

variable {paths : List Path} {above order : Nat} {upper path : Path}

/-! ## Lists of paths in document order -/

theorem lt_of_sorted (sorted : paths.Pairwise (· < ·)) (habove : paths[above]? = some upper)
    (here : paths[order]? = some path) (h : above < order) : upper < path := by
  obtain ⟨hlt, rfl⟩ := List.getElem?_eq_some_iff.mp habove
  obtain ⟨hlt', rfl⟩ := List.getElem?_eq_some_iff.mp here
  exact List.pairwise_iff_getElem.mp sorted above order hlt hlt' h

theorem order_lt_of_lt (sorted : paths.Pairwise (· < ·)) (habove : paths[above]? = some upper)
    (here : paths[order]? = some path) (h : upper < path) : above < order := by
  rcases Nat.lt_trichotomy above order with hlt | rfl | hgt
  · exact hlt
  · rw [habove] at here
    cases here
    exact absurd h (List.lt_irrefl _)
  · exact absurd h (List.lt_asymm (lt_of_sorted sorted here habove hgt))

theorem order_unique (sorted : paths.Pairwise (· < ·)) (habove : paths[above]? = some path)
    (here : paths[order]? = some path) : above = order := by
  rcases Nat.lt_trichotomy above order with hlt | rfl | hgt
  · exact absurd (lt_of_sorted sorted habove here hlt) (List.lt_irrefl _)
  · rfl
  · exact absurd (lt_of_sorted sorted here habove hgt) (List.lt_irrefl _)

theorem Below.lt (sorted : paths.Pairwise (· < ·)) (h : Below paths above order) :
    above < order := by
  obtain ⟨upper, steps, habove, hsteps, here⟩ := h
  refine order_lt_of_lt sorted habove here ?_
  cases steps with
  | nil => exact absurd rfl hsteps
  | cons place rest => exact lt_append_cons upper place rest

/-- Where paths are in document order and closed under going up, being below a path is a matter of
depth: everything in between, and the path itself, has to be deeper. -/
theorem below_iff_deeper (sorted : paths.Pairwise (· < ·))
    (closed : ∀ upper steps, upper ++ steps ∈ paths → upper ∈ paths)
    (habove : paths[above]? = some upper) (here : paths[order]? = some path) (h : above < order) :
    Below paths above order ↔
      ∀ between p, above < between → between ≤ order → paths[between]? = some p →
        upper.length < p.length := by
  constructor
  · rintro ⟨upper', steps, habove', hsteps, here'⟩ between p hab hbo hp
    rw [habove] at habove'
    cases habove'
    have hafter : upper < p := lt_of_sorted sorted habove hp hab
    have hbefore : ¬ upper ++ steps < p := fun hlt =>
      absurd (order_lt_of_lt sorted here' hp hlt) (by omega)
    obtain ⟨place, more, rfl⟩ := extends_of_between hafter hbefore
    simp
  · intro hdeeper
    have hlen : upper.length < path.length := hdeeper order path h (Nat.le_refl _) here
    -- the ancestor of the path that is as deep as `upper`
    obtain ⟨stem, rest, rfl, hstem⟩ :
        ∃ stem rest, path = stem ++ rest ∧ stem.length = upper.length :=
      ⟨path.take upper.length, path.drop upper.length, (List.take_append_drop _ _).symm,
        by rw [List.length_take]; omega⟩
    have hrest : rest ≠ [] := by
      rintro rfl
      simp [hstem] at hlen
    obtain ⟨place, more, rfl⟩ := List.exists_cons_of_ne_nil hrest
    have hmem : stem ∈ paths := closed stem _ (List.mem_of_getElem? here)
    obtain ⟨between, hbetween⟩ := List.getElem?_of_mem hmem
    have hbo : between < order :=
      order_lt_of_lt sorted hbetween here (lt_append_cons stem place more)
    rcases Nat.lt_trichotomy above between with hlt | rfl | hgt
    · exact absurd (hdeeper between stem hlt (Nat.le_of_lt hbo) hbetween) (by omega)
    · rw [habove] at hbetween
      cases hbetween
      exact ⟨upper, place :: more, habove, by simp, here⟩
    · -- then `upper` would lie between the ancestor and the path, and be deeper than itself
      have hbefore : ¬ stem ++ place :: more < upper := fun hlt =>
        absurd (order_lt_of_lt sorted here habove hlt) (by omega)
      obtain ⟨place', more', rfl⟩ :=
        extends_of_between (lt_of_sorted sorted hbetween habove hgt) hbefore
      exact absurd hstem (by simp)

end Path

namespace Graph.Walk

variable {done : List Path} {path : Path} {ancestors : List Nat} {order : Nat}

/-! ## Trails and paths -/

theorem Trail.upper (h : Trail done path ancestors) (hmem : order ∈ ancestors) :
    ∃ upper steps, done[order]? = some upper ∧ steps ≠ [] ∧ path = upper ++ steps := by
  induction h with
  | root => exact absurd hmem (List.not_mem_nil)
  | @child path ancestors nearest place _ here ih =>
    rcases List.mem_cons.mp hmem with rfl | hrest
    · exact ⟨path, [place], here, by simp, rfl⟩
    · obtain ⟨upper, steps, horder, -, rfl⟩ := ih hrest
      exact ⟨upper, steps ++ [place], horder, by simp, by simp⟩

theorem Trail.exists_of_upper {upper steps : Path} (h : Trail done (upper ++ steps) ancestors)
    (hsteps : steps ≠ []) : ∃ order ∈ ancestors, done[order]? = some upper := by
  generalize hpath : upper ++ steps = path at h
  induction h generalizing steps with
  | root => exact absurd (List.append_eq_nil_iff.mp hpath).2 hsteps
  | @child path ancestors nearest place _ here ih =>
    obtain ⟨init, last, rfl⟩ := (List.eq_nil_or_concat steps).resolve_left hsteps
    rw [List.concat_eq_append, ← List.append_assoc] at hpath
    obtain ⟨hinit, -⟩ := List.append_inj' hpath rfl
    by_cases hnil : init = []
    · subst hnil
      rw [List.append_nil] at hinit
      exact ⟨nearest, List.mem_cons_self .., by rw [here, hinit]⟩
    · obtain ⟨order, hmem, horder⟩ := ih hnil hinit
      exact ⟨order, List.mem_cons_of_mem _ hmem, horder⟩

theorem Trail.mem_iff (h : Trail done path ancestors) (sorted : done.Pairwise (· < ·)) :
    order ∈ ancestors ↔
      ∃ upper steps, done[order]? = some upper ∧ steps ≠ [] ∧ path = upper ++ steps := by
  constructor
  · exact h.upper
  · rintro ⟨upper, steps, horder, hsteps, rfl⟩
    obtain ⟨other, hmem, hother⟩ := h.exists_of_upper hsteps
    rwa [Path.order_unique sorted horder hother]

/-- The nearest ancestor is a step above, and the rest are its own ancestors. -/
theorem Trail.nearest {nearest : Nat} (h : Trail done path (nearest :: ancestors)) :
    ∃ upper place, done[nearest]? = some upper ∧ path = upper ++ [place] ∧
      Trail done upper ancestors := by
  cases h with
  | @child upper _ _ place above here => exact ⟨upper, place, here, rfl, above⟩

theorem Trail.eq_nil (h : Trail done path []) : path = [] := by
  cases h with
  | root => rfl

/-- Paths that all have their ancestors among them are closed under going up. -/
theorem closed_of_trails
    (trails : ∀ (order : Nat) (path : Path), done[order]? = some path →
      ∃ ancestors, Trail done path ancestors)
    (upper steps : Path) (hmem : upper ++ steps ∈ done) : upper ∈ done := by
  by_cases hsteps : steps = []
  · rwa [hsteps, List.append_nil] at hmem
  · obtain ⟨order, here⟩ := List.getElem?_of_mem hmem
    obtain ⟨_, trail⟩ := trails order _ here
    obtain ⟨above, -, habove⟩ := trail.exists_of_upper hsteps
    exact List.mem_of_getElem? habove

end Graph.Walk

/-! ## The ends of subtrees -/

theorem le_stopFrom (depth : Nat) (depths : List Nat) (place : Nat) :
    place ≤ stopFrom depth depths place := by
  induction depths generalizing place with
  | nil => exact Nat.le_refl place
  | cons d rest ih =>
    unfold stopFrom
    split
    · exact Nat.le_refl place
    · exact Nat.le_trans (Nat.le_succ place) (ih (place + 1))

theorem stopFrom_le (depth : Nat) (depths : List Nat) (place : Nat) :
    stopFrom depth depths place ≤ place + depths.length := by
  induction depths generalizing place with
  | nil => exact Nat.le_refl place
  | cons d rest ih =>
    unfold stopFrom
    split
    · exact Nat.le_add_right _ _
    · have := ih (place + 1)
      rw [List.length_cons]
      omega

/-- A subtree goes on as long as everything is deeper than its root. -/
theorem lt_stopFrom_iff {depth : Nat} {depths : List Nat} {place steps : Nat}
    (h : steps < depths.length) :
    place + steps < stopFrom depth depths place ↔
      ∀ k d, k ≤ steps → depths[k]? = some d → depth < d := by
  induction depths generalizing place steps with
  | nil => exact absurd h (by simp)
  | cons first rest ih =>
    unfold stopFrom
    split
    · rename_i hle
      constructor
      · intro hlt
        omega
      · intro hall
        have := hall 0 first (Nat.zero_le _) rfl
        omega
    · rename_i hdeep
      cases steps with
      | zero =>
        have := le_stopFrom depth rest (place + 1)
        refine ⟨fun _ k d hk hd => ?_, fun _ => by omega⟩
        obtain rfl : k = 0 := by omega
        cases hd
        omega
      | succ steps =>
        have hlt : steps < rest.length := by simpa using h
        rw [show place + (steps + 1) = place + 1 + steps by omega, ih hlt]
        constructor
        · intro hall k d hk hd
          cases k with
          | zero => cases hd; omega
          | succ k => exact hall k d (by omega) hd
        · intro hall k d hk hd
          exact hall (k + 1) d (by omega) hd

theorem getElem?_entriesOf {n : Nat} (visits : List (Graph.Visit n)) (start order : Nat) :
    (entriesOf start visits)[order]? = visits[order]?.map fun visit =>
      { element := visit.element, ancestors := visit.ancestors, childless := visit.childless,
        stop := stopFrom visit.ancestors.length
          ((visits.drop (order + 1)).map (·.ancestors.length)) (start + order + 1) } := by
  induction visits generalizing start order with
  | nil => rfl
  | cons visit rest ih =>
    cases order with
    | zero => rfl
    | succ order =>
      simp only [entriesOf, List.getElem?_cons_succ, List.drop_succ_cons, ih]
      rw [show start + 1 + order + 1 = start + (order + 1) + 1 by omega]

namespace Fragment

/-! ## Fragments and paths -/

/-- The index of a fragment describes the elements that stand at the given paths. -/
structure LaidOut (f : Fragment) (paths : List Path) : Prop where
  -- The paths are in document order.
  sorted : paths.Pairwise (· < ·)
  -- There is an element for each path.
  size : f.size = paths.length
  -- An element's ancestors are the elements on its path.
  trail : ∀ {order path}, paths[order]? = some path →
    Graph.Walk.Trail paths path (f.ancestors order)
  -- A subtree ends before the first element that is not below its root.
  lt_stop : ∀ {above order}, above < order → order < f.size →
    (order < f.stop above ↔ Path.Below paths above order)
  -- No subtree ends after the last element.
  stop_le : ∀ order, f.stop order ≤ f.size

variable {f : Fragment} {paths : List Path} {above order : Nat}

theorem ancestors_of_size_le (h : f.size ≤ order) : f.ancestors order = [] := by
  unfold ancestors
  rw [Array.getElem?_eq_none h]
  rfl

theorem LaidOut.path (h : f.LaidOut paths) (hlt : order < f.size) :
    ∃ path, paths[order]? = some path :=
  ⟨_, List.getElem?_eq_getElem (h.size ▸ hlt)⟩

theorem LaidOut.lt_size (h : f.LaidOut paths) {path : Path} (here : paths[order]? = some path) :
    order < f.size := by
  rw [h.size]
  exact (List.getElem?_eq_some_iff.mp here).1

theorem LaidOut.mem_ancestors (h : f.LaidOut paths) :
    above ∈ f.ancestors order ↔ Path.Below paths above order := by
  by_cases hlt : order < f.size
  · obtain ⟨path, here⟩ := h.path hlt
    rw [(h.trail here).mem_iff h.sorted]
    unfold Path.Below
    rw [here]
    simp only [Option.some.injEq]
  · rw [ancestors_of_size_le (Nat.le_of_not_lt hlt)]
    refine ⟨fun hmem => absurd hmem (List.not_mem_nil), ?_⟩
    rintro ⟨upper, steps, -, -, here⟩
    exact absurd (h.lt_size here) hlt

theorem LaidOut.parent?_eq_some (h : f.LaidOut paths) :
    f.parent? order = some above ↔ Path.ChildOf paths above order := by
  unfold parent?
  by_cases hlt : order < f.size
  · obtain ⟨path, here⟩ := h.path hlt
    have htrail := h.trail here
    cases hanc : f.ancestors order with
    | nil =>
      rw [hanc] at htrail
      refine ⟨fun hnone => absurd hnone (by simp), ?_⟩
      rintro ⟨upper, place, -, here'⟩
      rw [here, htrail.eq_nil] at here'
      exact absurd here' (by simp)
    | cons nearest rest =>
      rw [hanc] at htrail
      obtain ⟨upper, place, hnearest, rfl, -⟩ := htrail.nearest
      simp only [List.head?_cons, Option.some.injEq]
      constructor
      · rintro rfl
        exact ⟨upper, place, hnearest, here⟩
      · rintro ⟨upper', place', habove, here'⟩
        rw [here] at here'
        obtain ⟨rfl, -⟩ := List.append_inj' (Option.some.inj here') rfl
        exact Path.order_unique h.sorted hnearest habove
  · rw [ancestors_of_size_le (Nat.le_of_not_lt hlt)]
    refine ⟨fun hnone => absurd hnone (by simp), ?_⟩
    rintro ⟨upper, place, -, here⟩
    exact absurd (h.lt_size here) hlt

theorem LaidOut.isDescendant_iff (h : f.LaidOut paths) :
    f.isDescendant order above = true ↔ Path.Below paths above order := by
  unfold isDescendant
  simp only [Bool.and_eq_true, decide_eq_true_eq]
  constructor
  · rintro ⟨hlt, hstop⟩
    exact (h.lt_stop hlt (Nat.lt_of_lt_of_le hstop (h.stop_le above))).mp hstop
  · intro hbelow
    have hlt := hbelow.lt h.sorted
    obtain ⟨upper, steps, -, -, here⟩ := id hbelow
    exact ⟨hlt, (h.lt_stop hlt (h.lt_size here)).mpr hbelow⟩

/-- The descendants are the orders that count as descendants, whatever the index says. -/
theorem mem_descendants : order ∈ f.descendants above ↔ f.isDescendant order above = true := by
  unfold descendants isDescendant
  simp only [List.mem_range'_1, Bool.and_eq_true, decide_eq_true_eq]
  omega

/-! ## From the walk to the index -/

/-- The element with an order is the one that the path with this order leads to. -/
def Shows (f : Fragment) (g : Graph) (paths : List Path) : Prop :=
  ∀ order path, paths[order]? = some path →
    ∃ slot e, g.Reaches path slot ∧ g.element? slot = some e ∧ f.element? order = some e

/-- The fragment that comes of what a walk has found. -/
def ofFound {n : Nat} (source : String) (found : Graph.Found n) : Fragment :=
  { source, entries := (entriesOf 0 found.visits.toList).toArray, texts := found.texts.toList }

section OfFound

open Graph.Walk

variable {g : Graph} {found : Graph.Found g.size} {unvisited : List (Fin g.size)}
  {stack : List (Graph.Pending g.size)} {done todo : List Path} (source : String)

theorem entry_ofFound {visit : Graph.Visit g.size}
    (hvisit : found.visits.toList[order]? = some visit) :
    (ofFound source found).entries[order]? = some
      { element := visit.element, ancestors := visit.ancestors, childless := visit.childless,
        stop := stopFrom visit.ancestors.length
          ((found.visits.toList.drop (order + 1)).map (·.ancestors.length)) (order + 1) } := by
  simp only [ofFound, List.getElem?_toArray, getElem?_entriesOf, hvisit, Option.map_some,
    Nat.zero_add]

theorem size_ofFound (h : Progress g found unvisited stack done todo) :
    (ofFound source found).size = done.length := by
  have hlen : ∀ (visits : List (Graph.Visit g.size)) (start : Nat),
      (entriesOf start visits).length = visits.length := by
    intro visits
    induction visits with
    | nil => intro _; rfl
    | cons visit rest ih => intro start; simp only [entriesOf, List.length_cons, ih]
  simp only [Fragment.size, ofFound, List.size_toArray, hlen]
  exact h.met.length_eq

/-- The depths that the ends of subtrees are found by are the lengths of the paths. -/
theorem depth_of_met (h : Progress g found unvisited stack done todo) {k depth : Nat}
    (hdepth : (found.visits.toList.map (·.ancestors.length))[k]? = some depth) :
    ∃ path, done[k]? = some path ∧ path.length = depth := by
  rw [List.getElem?_map] at hdepth
  obtain ⟨visit, hvisit, rfl⟩ := Option.map_eq_some_iff.mp hdepth
  obtain ⟨hlt, rfl⟩ := List.getElem?_eq_some_iff.mp hvisit
  have hlt' : k < done.length := by rw [← h.met.length_eq]; exact hlt
  exact ⟨_, List.getElem?_eq_getElem hlt', (h.met.get hlt hlt').trail.length.symm⟩

theorem lt_stop_ofFound (h : Progress g found unvisited [] done [])
    (closed : ∀ upper steps, upper ++ steps ∈ done → upper ∈ done)
    (hlt : above < order) (hsize : order < done.length) :
    order < (ofFound source found).stop above ↔ Path.Below done above order := by
  obtain ⟨upper, habove⟩ : ∃ upper, done[above]? = some upper :=
    ⟨_, List.getElem?_eq_getElem (Nat.lt_trans hlt hsize)⟩
  obtain ⟨path, here⟩ : ∃ path, done[order]? = some path := ⟨_, List.getElem?_eq_getElem hsize⟩
  obtain ⟨visit, hvisit, hmet⟩ := h.met_at habove
  have hstop : (ofFound source found).stop above = stopFrom upper.length
      ((found.visits.toList.drop (above + 1)).map (·.ancestors.length)) (above + 1) := by
    simp only [stop, entry_ofFound source hvisit, Option.map_some, Option.getD_some,
      hmet.trail.length]
  have hdepths : ∀ k, ((found.visits.toList.drop (above + 1)).map (·.ancestors.length))[k]?
      = (found.visits.toList.map (·.ancestors.length))[above + 1 + k]? := by
    intro k
    rw [List.map_drop, List.getElem?_drop]
  have hvisits : found.visits.toList.length = done.length := h.met.length_eq
  have hsteps : order - (above + 1)
      < ((found.visits.toList.drop (above + 1)).map (·.ancestors.length)).length := by
    rw [List.length_map, List.length_drop, hvisits]
    omega
  have hiff := @lt_stopFrom_iff upper.length _ (above + 1) _ hsteps
  rw [show above + 1 + (order - (above + 1)) = order by omega] at hiff
  rw [hstop, hiff, Path.below_iff_deeper h.sorted closed habove here hlt]
  constructor
  · intro hall between p hab hbo hp
    obtain ⟨_, hbetween, hmet'⟩ := h.met_at hp
    refine hall (between - (above + 1)) p.length (by omega) ?_
    rw [hdepths, show above + 1 + (between - (above + 1)) = between by omega, List.getElem?_map,
      hbetween, Option.map_some, hmet'.trail.length]
  · intro hall k depth hk hdepth
    rw [hdepths] at hdepth
    obtain ⟨p, hp, rfl⟩ := depth_of_met h hdepth
    exact hall (above + 1 + k) p (by omega) (by omega) hp

/-- What a walk that ends well has found is laid out along the visited paths. -/
theorem laidOut_ofFound (h : Progress g found unvisited [] done []) :
    (ofFound source found).LaidOut done := by
  have htrail : ∀ {order path}, done[order]? = some path →
      Trail done path ((ofFound source found).ancestors order) := by
    intro order path here
    obtain ⟨visit, hvisit, hmet⟩ := h.met_at here
    simp only [ancestors, entry_ofFound source hvisit, Option.map_some, Option.getD_some]
    exact hmet.trail
  have hclosed := closed_of_trails fun _ _ here => ⟨_, htrail here⟩
  refine ⟨h.sorted, size_ofFound source h, htrail, ?_, ?_⟩
  · intro above order hlt hsize
    exact lt_stop_ofFound source h hclosed hlt (size_ofFound source h ▸ hsize)
  · intro order
    by_cases hlt : order < done.length
    · obtain ⟨visit, hvisit, hmet⟩ := h.met_at (List.getElem?_eq_getElem hlt)
      have hle := stopFrom_le visit.ancestors.length
        ((found.visits.toList.drop (order + 1)).map (·.ancestors.length)) (order + 1)
      have hvisits : found.visits.toList.length = done.length := h.met.length_eq
      rw [List.length_map, List.length_drop, hvisits] at hle
      simp only [stop, entry_ofFound source hvisit, Option.map_some, Option.getD_some,
        size_ofFound source h]
      omega
    · simp only [stop, Array.getElem?_eq_none (Nat.le_of_not_lt (size_ofFound source h ▸ hlt)),
        Option.map_none, Option.getD_none, Nat.zero_le]

theorem shows_ofFound (h : Progress g found unvisited stack done todo) :
    (ofFound source found).Shows g done := by
  intro order path here
  obtain ⟨visit, hvisit, hmet⟩ := h.met_at here
  refine ⟨_, visit.element, hmet.reaches, hmet.element, ?_⟩
  simp only [element?, entry_ofFound source hvisit, Option.map_some]

end OfFound

/-! ## Which graphs have an index, and what it says -/

/-- Indexing succeeds on trees only, and then lays the fragment out along the paths of the
elements. -/
theorem index_cases (g : Graph) (source : String) :
    match g.index source with
    | .ok f => g.IsTree ∧ ∃ paths, g.Preorder paths ∧ f.LaidOut paths ∧ f.Shows g paths
    | .error _ => ¬ g.IsTree := by
  unfold Graph.index
  cases hroot : g.rootFault? with
  | some why =>
    intro tree
    rw [Graph.rootFault?_eq_none_iff.mpr tree.root] at hroot
    exact absurd hroot (by simp)
  | none =>
    have hrun := (Graph.Walk.Progress.start g).run
    cases hwalk : Graph.walk g {} (List.finRange g.size) [⟨g.root, []⟩] with
    | error why =>
      rw [hwalk] at hrun
      obtain ⟨_, _, _, _, _, _, _, hprogress, hblocked⟩ := hrun
      exact hprogress.not_isTree hblocked
    | ok found =>
      rw [hwalk] at hrun
      obtain ⟨unvisited, paths, hprogress⟩ := hrun
      exact ⟨hprogress.isTree (Graph.rootFault?_eq_none_iff.mp hroot), paths, hprogress.preorder,
        laidOut_ofFound source hprogress, shows_ofFound source hprogress⟩

/-- The same for a fragment that may take its name from the root's file. -/
theorem ofGraph_cases (g : Graph) (source : String) :
    match Fragment.ofGraph g source with
    | .ok f => g.IsTree ∧ ∃ paths, g.Preorder paths ∧ f.LaidOut paths ∧ f.Shows g paths
    | .error _ => ¬ g.IsTree := by
  unfold Fragment.ofGraph
  have h := index_cases g (if source.isEmpty then g.rootFile else source)
  cases hindex : g.index (if source.isEmpty then g.rootFile else source) with
  | ok f => simpa only [hindex] using h
  | error why => simpa only [hindex] using h

/-- What can be computed of the index holds of the fragment. -/
theorem exists_of_index {α : Type} {g : Graph} {source : String} {view : Fragment → α} {a : α}
    (hsource : source.isEmpty = false) (h : (g.index source).toOption.map view = some a) :
    ∃ f, Fragment.ofGraph g source = .ok f ∧ view f = a := by
  cases hindex : g.index source with
  | error why =>
    rw [hindex] at h
    cases h
  | ok f =>
    rw [hindex] at h
    exact ⟨f, by simp [Fragment.ofGraph, hsource, hindex], Option.some.inj h⟩

/-- **A graph has an index exactly when it is a tree**, and the index then says what the tree is.
The elements are numbered in document order, which is the order of their paths; the parent of an
element is the element a step above it; and the interval of descendants, the test for a descendant
and the list of ancestors all say the same, that the one element is in the subtree below the
other. -/
theorem ofGraph_describes_tree (g : Graph) (source : String) :
    ((∃ f, Fragment.ofGraph g source = .ok f) ↔ g.IsTree) ∧
      ∀ f, Fragment.ofGraph g source = .ok f →
        ∃ paths, g.Preorder paths ∧ f.size = paths.length ∧ f.Shows g paths ∧
          (∀ above order, f.parent? order = some above ↔ Path.ChildOf paths above order) ∧
          ∀ above order,
            (order ∈ f.descendants above ↔ f.isDescendant order above = true) ∧
              (f.isDescendant order above = true ↔ above ∈ f.ancestors order) ∧
              (above ∈ f.ancestors order ↔ Path.Below paths above order) := by
  have hcases := ofGraph_cases g source
  constructor
  · constructor
    · rintro ⟨f, hf⟩
      rw [hf] at hcases
      exact hcases.1
    · intro tree
      cases hg : Fragment.ofGraph g source with
      | ok f => exact ⟨f, rfl⟩
      | error why =>
        rw [hg] at hcases
        exact absurd tree hcases
  · intro f hf
    rw [hf] at hcases
    obtain ⟨-, paths, hpreorder, hlaid, hshows⟩ := hcases
    refine ⟨paths, hpreorder, hlaid.size, hshows, fun above order => hlaid.parent?_eq_some, ?_⟩
    intro above order
    exact ⟨mem_descendants, hlaid.isDescendant_iff.trans hlaid.mem_ancestors.symm,
      hlaid.mem_ancestors⟩

/-- A page with one text in the content of all its three elements. -/
def sharedText : Graph where
  size := 4
  cells := #v[.element { tag := "main" } [.node 1, .node 2, .node 3],
    .element { tag := "p" } [.node 2], .text "Hello", .element { tag := "ul" } [.node 2]]
  root := .node 0

/-- A text may be shared: the page is a tree, and its two inner elements are side by side. -/
theorem ofGraph_describes_sharedText :
    ∃ f paths, Fragment.ofGraph sharedText "page" = .ok f ∧ sharedText.Preorder paths ∧
      f.size = 3 ∧ Path.Below paths 0 2 ∧ ¬ Path.Below paths 1 2 := by
  have hrun : (sharedText.index "page").toOption.map
      (fun f => (f.size, f.isDescendant 2 0, f.isDescendant 2 1)) = some (3, true, false) := by cbv
  obtain ⟨f, hf, hview⟩ := exists_of_index (by decide) hrun
  simp only [Prod.mk.injEq] at hview
  obtain ⟨hsize, hin, hout⟩ := hview
  obtain ⟨paths, hpreorder, -, -, -, hsame⟩ := (ofGraph_describes_tree sharedText "page").2 f hf
  have hbelow : ∀ above order, f.isDescendant order above = true ↔ Path.Below paths above order :=
    fun above order => (hsame above order).2.1.trans (hsame above order).2.2
  refine ⟨f, paths, hf, hpreorder, hsize, (hbelow 0 2).mp hin, fun h => ?_⟩
  rw [(hbelow 1 2).mpr h] at hout
  exact absurd hout (by simp)

end Fragment

end AccessAudit
