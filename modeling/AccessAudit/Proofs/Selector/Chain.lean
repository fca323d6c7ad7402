import AccessAudit.Proofs.Markup.Index
import AccessAudit.Selector.Matching

/-!
# What a chain of compounds means

A complex selector describes an element when elements can be found for all its compounds, the
described one for the last, such that each combinator holds between the elements on its two sides.
That is a statement on the tree (`Selector.Fits`), and it says nothing about how such elements are
looked for.

Matching goes from right to left: it holds the subject against the element and then tries, for the
rest of the chain, all elements that may stand on the left. The lists it tries are made from the
index: ancestors for one combinator, and for two others the siblings in document order up to the
element itself. `mem_candidates` says that these lists hold exactly the elements that stand in the
combinator's relation, and `matches_iff_fits` that trying them one after the other finds a
chain whenever there is one.
-/

namespace AccessAudit

/-! ## Relations between elements -/

namespace Path

/-- Of the paths in a list, two lead to children of one element, the first to an earlier one. -/
def EarlierSibling (paths : List Path) (left right : Nat) : Prop :=
  ∃ upper i j, i < j ∧ paths[left]? = some (upper ++ [i]) ∧ paths[right]? = some (upper ++ [j])

/-- Of the paths in a list, two lead to children of one element, and none leads to a child in
between. -/
def SiblingBefore (paths : List Path) (left right : Nat) : Prop :=
  ∃ upper i j, i < j ∧ paths[left]? = some (upper ++ [i]) ∧ paths[right]? = some (upper ++ [j]) ∧
    ∀ k, i < k → k < j → upper ++ [k] ∉ paths

variable {paths : List Path} {parent left right i j : Nat} {upper : Path}

theorem place_lt_iff (sorted : paths.Pairwise (· < ·)) (hleft : paths[left]? = some (upper ++ [i]))
    (hright : paths[right]? = some (upper ++ [j])) : i < j ↔ left < right := by
  constructor
  · intro hij
    exact order_lt_of_lt sorted hleft hright (Branches.children hij).lt
  · intro hlt
    rcases Nat.lt_trichotomy i j with hij | rfl | hji
    · exact hij
    · exact absurd (order_unique sorted hleft hright) (Nat.ne_of_lt hlt)
    · exact absurd (order_lt_of_lt sorted hright hleft (Branches.children hji).lt) (by omega)

/-- Siblings are compared by their orders. -/
theorem earlierSibling_iff (sorted : paths.Pairwise (· < ·)) (h : ChildOf paths parent right) :
    EarlierSibling paths left right ↔ ChildOf paths parent left ∧ left < right := by
  obtain ⟨upper, j, hparent, hright⟩ := h
  constructor
  · rintro ⟨upper', i, j', hij, hleft, hright'⟩
    rw [hright] at hright'
    obtain ⟨rfl, hj⟩ := List.append_inj' (Option.some.inj hright') rfl
    obtain rfl : j = j' := by simpa using hj
    exact ⟨⟨upper, i, hparent, hleft⟩, (place_lt_iff sorted hleft hright).mp hij⟩
  · rintro ⟨⟨upper', i, hparent', hleft⟩, hlt⟩
    rw [hparent] at hparent'
    cases hparent'
    exact ⟨upper, i, j, (place_lt_iff sorted hleft hright).mpr hlt, hleft, hright⟩

/-- The sibling before an element is the last of the earlier ones. -/
theorem siblingBefore_iff (sorted : paths.Pairwise (· < ·)) (h : ChildOf paths parent right) :
    SiblingBefore paths left right ↔ (ChildOf paths parent left ∧ left < right) ∧
      ∀ other, ChildOf paths parent other → other < right → other ≤ left := by
  constructor
  · rintro ⟨upper, i, j, hij, hleft, hright, hnone⟩
    have hearlier := (earlierSibling_iff sorted h).mp ⟨upper, i, j, hij, hleft, hright⟩
    refine ⟨hearlier, fun other hother hlt => ?_⟩
    obtain ⟨upper', i', k, hik, hother', hright'⟩ :=
      (earlierSibling_iff sorted h).mpr ⟨hother, hlt⟩
    rw [hright] at hright'
    obtain ⟨rfl, hk⟩ := List.append_inj' (Option.some.inj hright') rfl
    obtain rfl : j = k := by simpa using hk
    -- a later sibling would stand at a place in between
    refine Nat.le_of_not_lt fun hgt => ?_
    exact hnone i' ((place_lt_iff sorted hleft hother').mpr hgt) hik (List.mem_of_getElem? hother')
  · rintro ⟨hearlier, hlast⟩
    obtain ⟨upper, i, j, hij, hleft, hright⟩ := (earlierSibling_iff sorted h).mpr hearlier
    refine ⟨upper, i, j, hij, hleft, hright, fun k hik hkj hmem => ?_⟩
    obtain ⟨other, hother⟩ := List.getElem?_of_mem hmem
    have hother' := (earlierSibling_iff sorted h).mp ⟨upper, k, j, hkj, hother, hright⟩
    have hle := hlast other hother'.1 hother'.2
    exact absurd ((place_lt_iff sorted hleft hother).mp hik) (by omega)

end Path

/-! ## Siblings in the index -/

namespace Fragment

variable {f : Fragment} {paths : List Path} {parent left right order : Nat}

theorem LaidOut.mem_children (h : f.LaidOut paths) :
    order ∈ f.children parent ↔ Path.ChildOf paths parent order := by
  unfold children
  rw [List.mem_filter, beq_iff_eq, h.parent?_eq_some, mem_descendants, h.isDescendant_iff]
  refine ⟨fun hboth => hboth.2, fun hchild => ⟨?_, hchild⟩⟩
  obtain ⟨upper, place, hparent, here⟩ := hchild
  exact ⟨upper, [place], hparent, by simp, here⟩

/-- What stands at a child path has a parent. -/
theorem LaidOut.parent?_of_path (h : f.LaidOut paths) {upper : Path} {place : Nat}
    (here : paths[order]? = some (upper ++ [place])) : f.parent? order ≠ none := by
  obtain ⟨parent, -, habove⟩ := (h.trail here).exists_of_upper (by simp)
  rw [h.parent?_eq_some.mpr ⟨upper, place, habove, here⟩]
  simp

theorem children_sorted (f : Fragment) (parent : Nat) : (f.children parent).Pairwise (· < ·) :=
  List.Pairwise.filter _ List.pairwise_lt_range'

/-- In an increasing list, what stands before a member is what is smaller. -/
theorem takeWhile_ne_eq_filter {orders : List Nat} (sorted : orders.Pairwise (· < ·))
    (hmem : order ∈ orders) : orders.takeWhile (· != order) = orders.filter (· < order) := by
  induction orders with
  | nil => exact absurd hmem (List.not_mem_nil)
  | cons first rest ih =>
    obtain ⟨hfirst, hrest⟩ := List.pairwise_cons.mp sorted
    rcases List.mem_cons.mp hmem with rfl | hmem'
    · have hnone : rest.filter (· < order) = [] := by
        rw [List.filter_eq_nil_iff]
        intro other hother
        have := hfirst other hother
        simp only [decide_eq_true_eq]
        omega
      simp [hnone]
    · have hlt := hfirst order hmem'
      rw [List.takeWhile_cons_of_pos (by simp only [bne_iff_ne]; omega),
        List.filter_cons_of_pos (by simpa using hlt), ih hrest hmem']

theorem getLast?_eq_some_iff_max {orders : List Nat} (sorted : orders.Pairwise (· < ·)) :
    orders.getLast? = some order ↔ order ∈ orders ∧ ∀ other ∈ orders, other ≤ order := by
  constructor
  · intro hlast
    obtain ⟨init, rfl⟩ := List.getLast?_eq_some_iff.mp hlast
    refine ⟨by simp, fun other hother => ?_⟩
    rcases List.mem_append.mp hother with hinit | hself
    · exact Nat.le_of_lt ((List.pairwise_append.mp sorted).2.2 other hinit order (by simp))
    · exact Nat.le_of_eq (List.mem_singleton.mp hself)
  · rintro ⟨hmem, hmax⟩
    cases hlast : orders.getLast? with
    | none =>
      rw [List.getLast?_eq_none_iff.mp hlast] at hmem
      exact absurd hmem (List.not_mem_nil)
    | some last =>
      obtain ⟨init, rfl⟩ := List.getLast?_eq_some_iff.mp hlast
      have hle := hmax last (by simp)
      rcases List.mem_append.mp hmem with hinit | hself
      · have hlt := (List.pairwise_append.mp sorted).2.2 order hinit last (by simp)
        omega
      · rw [List.mem_singleton.mp hself]

end Fragment

namespace Selector

variable {f : Fragment} {paths : List Path} {states : States} {order : Nat}

/-- The combinator holds between two elements: the first is the parent of the second, one of its
ancestors, the sibling directly before it, or an earlier sibling. -/
def Combinator.Relates (paths : List Path) : Combinator → Nat → Nat → Prop
  | .child => Path.ChildOf paths
  | .descendant => Path.Below paths
  | .next => Path.SiblingBefore paths
  | .later => Path.EarlierSibling paths

theorem mem_later (h : f.LaidOut paths) {other : Nat} :
    other ∈ (f.siblings order).takeWhile (· != order) ↔ Path.EarlierSibling paths other order := by
  unfold Fragment.siblings
  cases hparent : f.parent? order with
  | none =>
    simp only [List.takeWhile_cons, bne_self_eq_false, Bool.false_eq_true, if_false]
    refine ⟨fun hmem => absurd hmem (List.not_mem_nil), ?_⟩
    rintro ⟨upper, i, j, -, -, here⟩
    exact absurd hparent (h.parent?_of_path here)
  | some parent =>
    have hchild := h.parent?_eq_some.mp hparent
    simp only [Fragment.takeWhile_ne_eq_filter (f.children_sorted parent)
      (h.mem_children.mpr hchild)]
    rw [Path.earlierSibling_iff h.sorted hchild, List.mem_filter, h.mem_children,
      decide_eq_true_eq]

theorem getLast?_later (h : f.LaidOut paths) {other : Nat} :
    ((f.siblings order).takeWhile (· != order)).getLast? = some other ↔
      Path.SiblingBefore paths other order := by
  have hsorted : ((f.siblings order).takeWhile (· != order)).Pairwise (· < ·) := by
    refine List.Pairwise.sublist (List.takeWhile_sublist _) ?_
    unfold Fragment.siblings
    split
    · exact f.children_sorted _
    · exact List.pairwise_singleton ..
  rw [Fragment.getLast?_eq_some_iff_max hsorted, mem_later h]
  cases hparent : f.parent? order with
  | none =>
    constructor
    · rintro ⟨⟨upper, i, j, -, -, here⟩, -⟩
      exact absurd hparent (h.parent?_of_path here)
    · rintro ⟨upper, i, j, -, -, here, -⟩
      exact absurd hparent (h.parent?_of_path here)
  | some parent =>
    have hchild := h.parent?_eq_some.mp hparent
    rw [Path.siblingBefore_iff h.sorted hchild, Path.earlierSibling_iff h.sorted hchild]
    refine and_congr_right fun _ => forall_congr' fun other => ?_
    rw [mem_later h, Path.earlierSibling_iff h.sorted hchild, and_imp]

/-- The elements that are tried are those in the combinator's relation, and all of them. -/
theorem mem_candidates (h : f.LaidOut paths) {how : Combinator} {other : Nat} :
    other ∈ how.candidates f order ↔ how.Relates paths other order := by
  cases how with
  | child =>
    simp only [Combinator.candidates, Option.mem_toList, Combinator.Relates, h.parent?_eq_some]
  | descendant => simp only [Combinator.candidates, Combinator.Relates, h.mem_ancestors]
  | next =>
    simp only [Combinator.candidates, Option.mem_toList, Combinator.Relates, getLast?_later h]
  | later => simp only [Combinator.candidates, Combinator.Relates, mem_later h]

/-! ## Chains -/

/-- All conditions of a compound hold of the element with an order. -/
def Compound.Holds (f : Fragment) (states : States) (order : Nat) (parts : Compound) : Prop :=
  ∃ e, f.element? order = some e ∧ ∀ part ∈ parts, part.matches f states order e = true

/-- A list of elements fits a chain: there is one for each compound, which holds of it, and each
combinator holds between the elements on its two sides. -/
structure Fits (f : Fragment) (paths : List Path) (states : States) (c : Complex)
    (chain : List Nat) : Prop where
  length : chain.length = c.compounds.length
  holds : ∀ (i : Nat) (parts : Compound) (order : Nat), c.compounds[i]? = some parts →
    chain[i]? = some order → Compound.Holds f states order parts
  related : ∀ (i : Nat) (how : Combinator) (left right : Nat), c.combinators[i]? = some how →
    chain[i]? = some left → chain[i + 1]? = some right → how.Relates paths left right

theorem partsMatch_iff {e : Element} {parts : Compound} :
    partsMatch f states order e parts = true ↔
      ∀ part ∈ parts, part.matches f states order e = true := by
  induction parts with
  | nil => simp [partsMatch]
  | cons part rest ih => simp [partsMatch, ih]

theorem any_partsMatch_iff {parts : Compound} :
    ((f.element? order).any fun e => partsMatch f states order e parts) = true ↔
      Compound.Holds f states order parts := by
  unfold Compound.Holds
  rw [Option.any_eq_true]
  exact exists_congr fun e => and_congr_right fun _ => partsMatch_iff

theorem Complex.compounds_compound (parts : Compound) :
    (Complex.compound parts).compounds = [parts] := rfl

theorem Complex.compounds_join (left : Complex) (how : Combinator) (parts : Compound) :
    (Complex.join left how parts).compounds = left.compounds ++ [parts] := rfl

theorem Complex.combinators_compound (parts : Compound) :
    (Complex.compound parts).combinators = [] := rfl

theorem Complex.combinators_join (left : Complex) (how : Combinator) (parts : Compound) :
    (Complex.join left how parts).combinators = left.combinators ++ [how] := rfl

theorem length_compounds : (c : Complex) → c.compounds.length = c.combinators.length + 1
  | .compound _ => rfl
  | .join left _ _ => by
    simp only [Complex.compounds_join, Complex.combinators_join, List.length_append,
      List.length_singleton, length_compounds left]

theorem fits_compound {parts : Compound} {chain : List Nat} :
    Fits f paths states (.compound parts) chain ↔
      ∃ order, chain = [order] ∧ Compound.Holds f states order parts := by
  constructor
  · intro h
    obtain ⟨order, rfl⟩ := List.length_eq_one_iff.mp h.length
    exact ⟨order, rfl, h.holds 0 parts order rfl rfl⟩
  · rintro ⟨order, rfl, hparts⟩
    refine ⟨rfl, fun i other order' hother horder => ?_, fun i how left right hhow => ?_⟩
    · cases i with
      | zero => cases hother; cases horder; exact hparts
      | succ i => exact absurd hother (by simp [Complex.compounds_compound])
    · exact absurd hhow (by simp [Complex.combinators_compound])

section Join

variable {left : Complex} {how : Combinator} {parts : Compound} {front : List Nat}
  {other last : Nat}

theorem Fits.length_front (h : Fits f paths states (.join left how parts) (front ++ [last])) :
    front.length = left.compounds.length := by
  simpa [Complex.compounds_join] using h.length

theorem Fits.fits_front (h : Fits f paths states (.join left how parts) (front ++ [last])) :
    Fits f paths states left front where
  length := h.length_front
  holds := by
    intro i parts' order hparts' horder
    refine h.holds i parts' order ?_ ?_
    · rw [Complex.compounds_join,
        List.getElem?_append_left (List.getElem?_eq_some_iff.mp hparts').1]
      exact hparts'
    · rw [List.getElem?_append_left (List.getElem?_eq_some_iff.mp horder).1]
      exact horder
  related := by
    intro i how' a b hhow' ha hb
    refine h.related i how' a b ?_ ?_ ?_
    · rw [Complex.combinators_join,
        List.getElem?_append_left (List.getElem?_eq_some_iff.mp hhow').1]
      exact hhow'
    · rw [List.getElem?_append_left (List.getElem?_eq_some_iff.mp ha).1]
      exact ha
    · rw [List.getElem?_append_left (List.getElem?_eq_some_iff.mp hb).1]
      exact hb

theorem Fits.holds_last (h : Fits f paths states (.join left how parts) (front ++ [last])) :
    Compound.Holds f states last parts := by
  refine h.holds front.length parts last ?_ ?_
  · rw [Complex.compounds_join, h.length_front, List.getElem?_concat_length]
  · rw [List.getElem?_concat_length]

theorem Fits.related_last (h : Fits f paths states (.join left how parts) (front ++ [last])) :
    ∃ other, front.getLast? = some other ∧ how.Relates paths other last := by
  have hcount : front.length = left.combinators.length + 1 := by
    rw [h.length_front, length_compounds]
  obtain ⟨other, hother⟩ : ∃ other, front[left.combinators.length]? = some other :=
    ⟨_, List.getElem?_eq_getElem (by omega)⟩
  refine ⟨other, ?_, h.related left.combinators.length how other last ?_ ?_ ?_⟩
  · rw [List.getLast?_eq_getElem?, hcount, Nat.add_sub_cancel]
    exact hother
  · rw [Complex.combinators_join, List.getElem?_concat_length]
  · rw [List.getElem?_append_left (by omega)]
    exact hother
  · rw [← hcount, List.getElem?_concat_length]

/-- One more element continues a list that fits. -/
theorem Fits.concat (h : Fits f paths states left front) (hother : front.getLast? = some other)
    (hrel : how.Relates paths other last) (hparts : Compound.Holds f states last parts) :
    Fits f paths states (.join left how parts) (front ++ [last]) := by
  have hfront := h.length
  have hcount := length_compounds left
  refine ⟨by simp [Complex.compounds_join, hfront], ?_, ?_⟩
  · intro i parts' order hparts' horder
    rcases Nat.lt_or_ge i front.length with hlt | hge
    · rw [List.getElem?_append_left hlt] at horder
      rw [Complex.compounds_join, List.getElem?_append_left (hfront ▸ hlt)] at hparts'
      exact h.holds i parts' order hparts' horder
    · obtain rfl : i = front.length := by
        have := (List.getElem?_eq_some_iff.mp horder).1
        simp only [List.length_append, List.length_singleton] at this
        omega
      rw [List.getElem?_concat_length] at horder
      rw [Complex.compounds_join, hfront, List.getElem?_concat_length] at hparts'
      cases horder
      cases hparts'
      exact hparts
  · intro i how' a b hhow' ha hb
    rcases Nat.lt_or_ge (i + 1) front.length with hlt | hge
    · rw [List.getElem?_append_left (by omega)] at ha
      rw [List.getElem?_append_left hlt] at hb
      rw [Complex.combinators_join, List.getElem?_append_left (by omega)] at hhow'
      exact h.related i how' a b hhow' ha hb
    · have hi : i + 1 = front.length := by
        have := (List.getElem?_eq_some_iff.mp hb).1
        simp only [List.length_append, List.length_singleton] at this
        omega
      rw [hi, List.getElem?_concat_length] at hb
      rw [List.getElem?_append_left (by omega)] at ha
      rw [Complex.combinators_join, show i = left.combinators.length by omega,
        List.getElem?_concat_length] at hhow'
      rw [List.getLast?_eq_getElem?, show front.length - 1 = i by omega, ha] at hother
      cases hb
      cases hhow'
      cases hother
      exact hrel

/-- A chain that goes on is fitted by a list that fits what came before, and one more element. -/
theorem fits_join {chain : List Nat} :
    Fits f paths states (.join left how parts) chain ↔
      ∃ front other last, chain = front ++ [last] ∧ Fits f paths states left front ∧
        front.getLast? = some other ∧ how.Relates paths other last ∧
        Compound.Holds f states last parts := by
  constructor
  · intro h
    obtain ⟨front, last, rfl⟩ : ∃ front last, chain = front ++ [last] := by
      rcases List.eq_nil_or_concat chain with rfl | ⟨front, last, hchain⟩
      · exact absurd h.length (by simp [Complex.compounds_join])
      · exact ⟨front, last, by rw [hchain, List.concat_eq_append]⟩
    obtain ⟨other, hother, hrel⟩ := h.related_last
    exact ⟨front, other, last, rfl, h.fits_front, hother, hrel, h.holds_last⟩
  · rintro ⟨front, other, last, rfl, hfits, hother, hrel, hparts⟩
    exact hfits.concat hother hrel hparts

end Join

/-- Trying the candidates finds a fitting list whenever there is one. -/
theorem matches_iff_fits (h : f.LaidOut paths) : (c : Complex) → (order : Nat) →
    (c.matches f states order = true ↔
      ∃ chain, Fits f paths states c chain ∧ chain.getLast? = some order)
  | .compound parts, order => by
    rw [Complex.matches, any_partsMatch_iff]
    constructor
    · intro hparts
      exact ⟨[order], fits_compound.mpr ⟨order, rfl, hparts⟩, rfl⟩
    · rintro ⟨chain, hfits, hlast⟩
      obtain ⟨order', rfl, hparts⟩ := fits_compound.mp hfits
      cases hlast
      exact hparts
  | .join left how parts, order => by
    rw [Complex.matches, Bool.and_eq_true, any_partsMatch_iff, List.any_eq_true]
    constructor
    · rintro ⟨hparts, other, hmem, hleft⟩
      obtain ⟨front, hfits, hother⟩ := (matches_iff_fits h left other).mp hleft
      refine ⟨front ++ [order], fits_join.mpr ?_, by simp⟩
      exact ⟨front, other, order, rfl, hfits, hother, (mem_candidates h).mp hmem, hparts⟩
    · rintro ⟨chain, hfits, hlast⟩
      obtain ⟨front, other, last, rfl, hfront, hother, hrel, hparts⟩ := fits_join.mp hfits
      obtain rfl : last = order := by simpa using hlast
      refine ⟨hparts, other, (mem_candidates h).mpr hrel, ?_⟩
      exact (matches_iff_fits h left other).mpr ⟨front, hfront, hother⟩

/-- **A complex selector describes an element exactly when some chain of elements that ends with it
fits the selector**, in any state and in any fragment that was made from a graph. The combinators
hold between elements of the tree: `paths` are the paths of the graph's elements in document order,
so that the element with an order stands at the path with that order. -/
theorem matches_iff_exists_chain {g : Graph} {source : String} {f : Fragment}
    (hf : Fragment.ofGraph g source = .ok f) :
    ∃ paths, g.Preorder paths ∧ f.size = paths.length ∧ f.Shows g paths ∧
      ∀ (c : Complex) (states : States) (order : Nat),
        c.matches f states order = true ↔
          ∃ chain, Fits f paths states c chain ∧ chain.getLast? = some order := by
  have hcases := Fragment.ofGraph_cases g source
  rw [hf] at hcases
  obtain ⟨-, paths, hpreorder, hlaid, hshows⟩ := hcases
  exact ⟨paths, hpreorder, hlaid.size, hshows, fun c states order => matches_iff_fits hlaid c order⟩

/-- The list after the paragraph on the page, by way of two combinators. -/
theorem exists_chain_sharedText :
    ∃ f paths chain, Fragment.ofGraph Fragment.sharedText "page" = .ok f ∧
      Fragment.sharedText.Preorder paths ∧ chain.getLast? = some 2 ∧
      Fits f paths .every
        (.join (.join (.compound [.type "main"]) .child [.type "p"]) .next [.type "ul"]) chain := by
  have hrun : (Fragment.sharedText.index "page").toOption.map (fun f =>
      Complex.matches f .every 2
        (.join (.join (.compound [.type "main"]) .child [.type "p"]) .next [.type "ul"]))
      = some true := by cbv
  obtain ⟨f, hf, hmatches⟩ := Fragment.exists_of_index (by decide) hrun
  obtain ⟨paths, hpreorder, -, -, hiff⟩ := matches_iff_exists_chain hf
  obtain ⟨chain, hfits, hlast⟩ := (hiff _ _ _).mp hmatches
  exact ⟨f, paths, chain, hf, hpreorder, hlast, hfits⟩

end Selector

end AccessAudit
