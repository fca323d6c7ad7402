import AccessAudit.Proofs.Selector.Chain

/-!
# Places among siblings

`:nth-child(an+b)` asks whether the place of an element, counted from one, is `a * n + b` for some
natural number `n`. The answer is computed by one floor division, whatever the signs: there is no
remainder, and the quotient is not negative (`Nth.matches_iff`). When `a` is zero there is nothing
to divide by, and `b` is the only place.

The place itself is looked up in the list of siblings, which is made anew from the parent. In a
fragment that was made from a graph that list has exactly the elements with the same parent, in
document order, so the element is found in it, and at one place only (`LaidOut.mem_siblings`). The
root is its only sibling. Hence `:first-child`, `:last-child` and `:only-child`, which look at the
place and at the length of the list directly, say the same as `:nth-child(1)`, `:nth-last-child(1)`
and both together.
-/

namespace AccessAudit

/-! ## Positions -/

theorem Selector.Nth.exists_zero_mul_iff {b position : Int} :
    (∃ n : Nat, 0 * (n : Int) + b = position) ↔ position = b := by
  simp only [Int.zero_mul, Int.zero_add, exists_const]
  exact eq_comm

theorem Selector.Nth.matches_iff (a b position : Int) :
    Nth.matches a b position = true ↔ ∃ n : Nat, a * n + b = position := by
  unfold Nth.matches
  by_cases ha : a = 0
  · subst ha
    rw [if_pos (beq_self_eq_true 0), beq_iff_eq, exists_zero_mul_iff]
  · simp only [beq_iff_eq, ha, if_false, Bool.and_eq_true, decide_eq_true_eq]
    constructor
    · rintro ⟨hrest, hquotient⟩
      have hdivision := Int.mul_fdiv_add_fmod (position - b) a
      refine ⟨(Int.fdiv (position - b) a).toNat, ?_⟩
      rw [Int.toNat_of_nonneg hquotient]
      omega
    · rintro ⟨n, rfl⟩
      rw [Int.add_sub_cancel, Int.mul_fmod_right, Int.mul_fdiv_cancel_left _ ha]
      exact ⟨rfl, Int.natCast_nonneg n⟩

/-! ## Siblings -/

namespace Fragment

variable {f : Fragment} {paths : List Path} {order other : Nat}

theorem siblings_sorted (f : Fragment) (order : Nat) : (f.siblings order).Pairwise (· < ·) := by
  unfold siblings
  cases f.parent? order with
  | none => exact List.pairwise_singleton ..
  | some parent => exact f.children_sorted parent

/-- What has no parent is the root. -/
theorem LaidOut.path_of_parent?_eq_none (h : f.LaidOut paths) (hlt : order < f.size)
    (hparent : f.parent? order = none) : paths[order]? = some [] := by
  obtain ⟨path, here⟩ := h.path hlt
  have htrail := h.trail here
  rw [List.head?_eq_none_iff.mp hparent] at htrail
  rw [here, htrail.eq_nil]

/-- The siblings of an element are the elements with the same parent. -/
theorem LaidOut.mem_siblings (h : f.LaidOut paths) (hlt : order < f.size) :
    other ∈ f.siblings order ↔ other < f.size ∧ f.parent? other = f.parent? order := by
  unfold siblings
  cases hparent : f.parent? order with
  | none =>
    rw [List.mem_singleton]
    constructor
    · rintro rfl
      exact ⟨hlt, hparent⟩
    · rintro ⟨hother, hnone⟩
      exact Path.order_unique h.sorted (h.path_of_parent?_eq_none hother hnone)
        (h.path_of_parent?_eq_none hlt hparent)
  | some parent =>
    rw [h.mem_children, ← h.parent?_eq_some]
    constructor
    · intro hchild
      obtain ⟨_, _, -, here⟩ := h.parent?_eq_some.mp hchild
      exact ⟨h.lt_size here, hchild⟩
    · exact And.right

end Fragment

namespace Selector

variable {f : Fragment} {order : Nat}

theorem getElem?_position (hmem : order ∈ f.siblings order) :
    (f.siblings order)[position f order]? = some order :=
  List.getElem?_idxOf hmem

theorem position_lt (hmem : order ∈ f.siblings order) :
    position f order < (f.siblings order).length :=
  List.idxOf_lt_length_of_mem hmem

/-! ## Structural pseudo-classes -/

section Structural

variable (f : Fragment) (states : States) (order : Nat) (e : Element)

theorem matches_nth (name : String) (a b : Int) :
    Simple.matches f states order e (.pseudoClass name (.nth a b)) =
      plainPseudoClass f states order e name (some (a, b)) := rfl

theorem matches_plain (name : String) :
    Simple.matches f states order e (.pseudoClass name .none) =
      plainPseudoClass f states order e name none := rfl

theorem nthChild_iff (a b : Int) :
    Simple.matches f states order e (.pseudoClass "nth-child" (.nth a b)) = true ↔
      ∃ n : Nat, a * n + b = position f order + 1 := by
  rw [matches_nth, ← Nth.matches_iff]
  rfl

theorem nthLastChild_iff (a b : Int) :
    Simple.matches f states order e (.pseudoClass "nth-last-child" (.nth a b)) = true ↔
      ∃ n : Nat, a * n + b = (f.siblings order).length - position f order := by
  rw [matches_nth, ← Nth.matches_iff]
  rfl

theorem firstChild_iff :
    Simple.matches f states order e (.pseudoClass "first-child" .none) = true ↔
      position f order = 0 := by
  rw [matches_plain]
  show (position f order == 0) = true ↔ _
  exact beq_iff_eq

theorem lastChild_iff :
    Simple.matches f states order e (.pseudoClass "last-child" .none) = true ↔
      position f order + 1 = (f.siblings order).length := by
  rw [matches_plain]
  show (position f order + 1 == (f.siblings order).length) = true ↔ _
  exact beq_iff_eq

theorem onlyChild_iff :
    Simple.matches f states order e (.pseudoClass "only-child" .none) = true ↔
      (f.siblings order).length = 1 := by
  rw [matches_plain]
  show ((f.siblings order).length == 1) = true ↔ _
  exact beq_iff_eq

end Structural

/-- **Positions mean what they say.** Let an element of a fragment that was made from a graph stand
at a place among its siblings. The siblings are the elements with the same parent, in document
order, and the element is at that place. Then `:nth-child(an+b)` holds exactly when the place
counted from one is `a * n + b` for a natural number `n`, and `:nth-last-child(an+b)` when the place
counted from the end is. The argument `1` is read as zero and one, and with it the two agree with
`:first-child` and `:last-child`, and both together with `:only-child`. -/
theorem nth_names_positions {g : Graph} {source : String} {f : Fragment} {order : Nat} {e : Element}
    (hf : Fragment.ofGraph g source = .ok f) (he : f.element? order = some e) (states : States) :
    let siblings := f.siblings order
    let place := position f order
    let holds := fun name argument => Simple.matches f states order e (.pseudoClass name argument)
    (∀ other, other ∈ siblings ↔ other < f.size ∧ f.parent? other = f.parent? order) ∧
      siblings.Pairwise (· < ·) ∧ siblings[place]? = some order ∧
      (∀ a b, holds "nth-child" (.nth a b) = true ↔ ∃ n : Nat, a * n + b = place + 1) ∧
      (∀ a b, holds "nth-last-child" (.nth a b) = true ↔
        ∃ n : Nat, a * n + b = siblings.length - place) ∧
      Nth.parse "1" = .ok (0, 1) ∧
      holds "first-child" .none = holds "nth-child" (.nth 0 1) ∧
      holds "last-child" .none = holds "nth-last-child" (.nth 0 1) ∧
      holds "only-child" .none =
        (holds "nth-child" (.nth 0 1) && holds "nth-last-child" (.nth 0 1)) := by
  intro siblings place holds
  have hcases := Fragment.ofGraph_cases g source
  rw [hf] at hcases
  obtain ⟨-, paths, -, hlaid, -⟩ := hcases
  have hlt : order < f.size := by
    rw [Fragment.element?, Option.map_eq_some_iff] at he
    obtain ⟨entry, hentry, -⟩ := he
    exact (Array.getElem?_eq_some_iff.mp hentry).1
  have hmem : order ∈ siblings := (hlaid.mem_siblings hlt).mpr ⟨hlt, rfl⟩
  have hplace : position f order < (f.siblings order).length := position_lt hmem
  refine ⟨fun other => hlaid.mem_siblings hlt, f.siblings_sorted order, getElem?_position hmem,
    nthChild_iff f states order e, nthLastChild_iff f states order e, by decide, ?_, ?_, ?_⟩
  · rw [Bool.eq_iff_iff, firstChild_iff, nthChild_iff, Nth.exists_zero_mul_iff]
    omega
  · rw [Bool.eq_iff_iff, lastChild_iff, nthLastChild_iff, Nth.exists_zero_mul_iff]
    omega
  · rw [Bool.eq_iff_iff, Bool.and_eq_true, onlyChild_iff, nthChild_iff, nthLastChild_iff,
      Nth.exists_zero_mul_iff, Nth.exists_zero_mul_iff]
    omega

/-- The list on the page is one of the first three children, and the root is the only one. -/
theorem nth_names_positions_sharedText :
    ∃ f, Fragment.ofGraph Fragment.sharedText "page" = .ok f ∧
      Simple.matches f .every 2 { tag := "ul" } (.pseudoClass "nth-child" (.nth (-1) 3)) = true ∧
      Simple.matches f .every 0 { tag := "main" } (.pseudoClass "only-child" .none) = true := by
  have hrun : (Fragment.sharedText.index "page").toOption.map (fun f => (f.element? 0, f.element? 2,
      f.siblings 0, f.siblings 2)) =
      some (some { tag := "main" }, some { tag := "ul" }, [0], [1, 2]) := by cbv
  obtain ⟨f, hf, hview⟩ := Fragment.exists_of_index (by decide) hrun
  simp only [Prod.mk.injEq] at hview
  obtain ⟨hroot, hlist, hsiblings, hsiblings'⟩ := hview
  refine ⟨f, hf, ?_, ?_⟩
  · obtain ⟨-, -, -, hnth, -⟩ := nth_names_positions hf hlist .every
    refine (hnth (-1) 3).mpr ⟨1, ?_⟩
    rw [position, hsiblings']
    decide
  · obtain ⟨-, -, -, hnth, hlast, -, -, -, honly⟩ := nth_names_positions hf hroot .every
    refine honly.trans (Bool.and_eq_true_iff.mpr ⟨(hnth 0 1).mpr ⟨0, ?_⟩, (hlast 0 1).mpr ⟨0, ?_⟩⟩)
    · rw [position, hsiblings]
      decide
    · rw [position, hsiblings]
      decide

end Selector

end AccessAudit
