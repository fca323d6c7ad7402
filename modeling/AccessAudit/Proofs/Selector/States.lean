import AccessAudit.Proofs.Selector.Shape
import AccessAudit.Selector.Matching

/-!
# Which states a match depends on

A chain is matched against an element in a set of runtime states, and on its own `Complex.states`
lists the states it asks for. The two are connected by `matches_of_states`: when a second set of
states has every state that the chain asks for and the first set has, an element that matches in
the first matches in the second. So matching is monotone in the states, and a match with all
states holds as soon as the states asked for do.

What stands in a negation is matched without any state, in both sets alike, so it is not asked
for. A pseudo-class that takes no selector list but has one would be matched by its name and asked
for by its list; such a selector is not read (`Complex.Shaped`).
-/

namespace AccessAudit

namespace Selector

/-- Of some states, all that the first set has are in the second. -/
def States.Covers (s t : States) (names : List String) : Prop :=
  ∀ name ∈ names, s.holds name = true → t.holds name = true

variable {f : Fragment} {s t : States} {order : Nat} {e : Element} {name : String}

theorem States.Covers.append {left right : List String} :
    s.Covers t (left ++ right) ↔ s.Covers t left ∧ s.Covers t right :=
  List.forall_mem_append

theorem States.covers_only {held more : List String} (h : held ⊆ more) {names : List String} :
    (States.only held).Covers (.only more) names := by
  intro name _ hname
  exact List.contains_iff_mem.mpr (h (List.contains_iff_mem.mp hname))

theorem States.covers_every {names : List String} : s.Covers .every names := fun _ _ _ => rfl

theorem States.covers_of_subset {names held : List String} (h : names ⊆ held) :
    s.Covers (.only held) names := fun _ hname _ => List.contains_iff_mem.mpr (h hname)

/-! ## Pseudo-classes without selectors -/

theorem plainPseudoClass_of_static (h : name ∈ staticPseudoClasses) (nth : Option (Int × Int)) :
    plainPseudoClass f s order e name nth = plainPseudoClass f t order e name nth := by
  simp only [staticPseudoClasses, List.mem_cons, List.not_mem_nil, or_false] at h
  rcases h with rfl | rfl | rfl | rfl | rfl | rfl | rfl | rfl | rfl | rfl | rfl | rfl | rfl | rfl
    | rfl <;> rfl

theorem plainPseudoClass_of_not_static (h : name ∉ staticPseudoClasses)
    (nth : Option (Int × Int)) : plainPseudoClass f s order e name nth = s.holds name := by
  unfold plainPseudoClass
  dsimp only
  split
  case h_16 => rfl
  all_goals exact absurd (by decide) h

/-- The markup decides, or the name is one of the states asked for. -/
theorem plainPseudoClass_mono {nth : Option (Int × Int)}
    (hcov : s.Covers t (if name != "not" && isRuntimeState name then [name] else []))
    (h : plainPseudoClass f s order e name nth = true) :
    plainPseudoClass f t order e name nth = true := by
  by_cases hstatic : name ∈ staticPseudoClasses
  · rw [plainPseudoClass_of_static hstatic]
    exact h
  · have hnot : name ≠ "not" := by
      rintro rfl
      exact hstatic (by decide)
    rw [plainPseudoClass_of_not_static hstatic] at h ⊢
    refine hcov name ?_ h
    simp [hnot, isRuntimeState, hstatic]

/-! ## Chains -/

mutual

theorem Simple.matches_of_states (f : Fragment) (order : Nat) (e : Element) : (part : Simple) →
    part.Shaped → s.Covers t part.states → part.matches f s order e = true →
    part.matches f t order e = true
  | .type _, _, _, h => h
  | .universal, _, _, h => h
  | .id _, _, _, h => h
  | .className _, _, _, h => h
  | .attribute _ _, _, _, h => h
  | .pseudoElement _, _, _, h => h
  | .pseudoClass _ .none, _, hcov, h => plainPseudoClass_mono hcov h
  | .pseudoClass _ (.nth _ _), _, hcov, h => plainPseudoClass_mono hcov h
  | .pseudoClass name (.selectors list), hshape, hcov, h => by
    obtain ⟨hname, -, hlist⟩ := hshape
    unfold Simple.matches at h ⊢
    unfold Simple.states at hcov
    by_cases hnot : name == "not"
    · rw [if_pos hnot] at h ⊢
      exact h
    · rw [if_neg hnot, if_pos (List.contains_iff_mem.mpr hname)] at h ⊢
      rw [if_neg hnot] at hcov
      exact anyMatches_of_states f order list hlist hcov h

theorem partsMatch_of_states (f : Fragment) (order : Nat) (e : Element) :
    (parts : List Simple) → partsShaped parts → s.Covers t (partsStates parts) →
    partsMatch f s order e parts = true → partsMatch f t order e parts = true
  | [], _, _, _ => rfl
  | part :: rest, hshape, hcov, h => by
    rw [partsStates, States.Covers.append] at hcov
    rw [partsMatch, Bool.and_eq_true] at h ⊢
    exact ⟨part.matches_of_states f order e hshape.1 hcov.1 h.1,
      partsMatch_of_states f order e rest hshape.2 hcov.2 h.2⟩

theorem Complex.matches_of_states (f : Fragment) (order : Nat) : (c : Complex) → c.Shaped →
    s.Covers t c.states → c.matches f s order = true → c.matches f t order = true
  | .compound parts, hshape, hcov, h => by
    rw [Complex.states] at hcov
    rw [Complex.matches, Option.any_eq_true] at h ⊢
    obtain ⟨e, he, hparts⟩ := h
    exact ⟨e, he, partsMatch_of_states f order e parts hshape.2.2 hcov hparts⟩
  | .join left how parts, hshape, hcov, h => by
    rw [Complex.states, States.Covers.append] at hcov
    rw [Complex.matches, Bool.and_eq_true, Option.any_eq_true, List.any_eq_true] at h ⊢
    obtain ⟨⟨e, he, hparts⟩, other, hother, hleft⟩ := h
    exact ⟨⟨e, he, partsMatch_of_states f order e parts hshape.2.2.2 hcov.2 hparts⟩,
      other, hother, left.matches_of_states f other hshape.1 hcov.1 hleft⟩

theorem anyMatches_of_states (f : Fragment) (order : Nat) : (list : List Complex) →
    branchesShaped list → s.Covers t (branchesStates list) →
    anyMatches f s order list = true → anyMatches f t order list = true
  | [], _, _, h => h
  | branch :: rest, hshape, hcov, h => by
    rw [branchesStates, States.Covers.append] at hcov
    rw [anyMatches, Bool.or_eq_true] at h ⊢
    rcases h with h | h
    · exact .inl (branch.matches_of_states f order hshape.1 hcov.1 h)
    · exact .inr (anyMatches_of_states f order rest hshape.2 hcov.2 h)

end

end Selector

end AccessAudit
