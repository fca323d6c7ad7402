import AccessAudit.Audit.Context
import Mathlib.Data.List.Forall2

/-!
# Checks that may break down

An analyzer checks one element after the other, and a check that breaks down ends the analysis. So
what is known of a whole analysis is known of each of its checks, and the other way round.
-/

namespace AccessAudit

section Checks

variable {ε α β γ : Type} {l : List α} {check : α → Except ε β}

theorem ok_of_bind {x : Except ε α} {next : α → Except ε β} {b : β} (h : x >>= next = .ok b) :
    ∃ a, x = .ok a ∧ next a = .ok b := by
  cases x with
  | error why => cases h
  | ok a => exact ⟨a, rfl, h⟩

/-- Checks succeed together when each of them does. -/
theorem mapM_eq_ok_iff {results : List β} :
    l.mapM check = .ok results ↔ List.Forall₂ (fun a b => check a = .ok b) l results := by
  induction l generalizing results with
  | nil =>
    rw [List.mapM_nil, List.forall₂_nil_left_iff]
    exact ⟨fun h => (Except.ok.inj h).symm, fun h => h ▸ rfl⟩
  | cons a rest ih =>
    rw [List.mapM_cons, List.forall₂_cons_left_iff]
    constructor
    · intro h
      obtain ⟨b, hb, h⟩ := ok_of_bind h
      obtain ⟨bs, hbs, h⟩ := ok_of_bind h
      exact ⟨b, bs, hb, ih.mp hbs, (Except.ok.inj h).symm⟩
    · rintro ⟨b, bs, hb, hbs, rfl⟩
      rw [hb, ih.mpr hbs]
      rfl

/-- Checks that succeed on the same list have results that are related one by one. -/
theorem exists_mapM_of_related {check' : α → Except ε γ} {R : β → γ → Prop} {results : List β}
    (hrelated : ∀ a ∈ l, ∀ b, check a = .ok b → ∃ c, check' a = .ok c ∧ R b c)
    (h : l.mapM check = .ok results) :
    ∃ results', l.mapM check' = .ok results' ∧ List.Forall₂ R results results' := by
  simp only [mapM_eq_ok_iff] at h ⊢
  induction h with
  | nil => exact ⟨[], .nil, .nil⟩
  | cons hb hrest ih =>
    obtain ⟨c, hc, hbc⟩ := hrelated _ List.mem_cons_self _ hb
    obtain ⟨cs, hcs, hrelated'⟩ := ih fun a ha => hrelated a (List.mem_cons_of_mem _ ha)
    exact ⟨c :: cs, .cons hc hcs, .cons hbc hrelated'⟩

theorem flatten_subset_of_forall₂ {l l' : List (List α)} (h : List.Forall₂ (· ⊆ ·) l l') :
    l.flatten ⊆ l'.flatten := by
  induction h with
  | nil => exact List.Subset.refl _
  | cons hfirst hrest ih =>
    rw [List.flatten_cons, List.flatten_cons, List.append_subset]
    exact ⟨List.subset_append_of_subset_left _ hfirst, List.subset_append_of_subset_right _ ih⟩

theorem mem_of_mapM_ok {results : List β} (h : l.mapM check = .ok results) {b : β} :
    b ∈ results ↔ ∃ a ∈ l, check a = .ok b := by
  rw [mapM_eq_ok_iff] at h
  induction h with
  | nil => simp
  | cons hb hrest ih => simp [ih, hb, eq_comm]

theorem exists_of_mapM_ok {results : List β} (h : l.mapM check = .ok results) {a : α}
    (ha : a ∈ l) : ∃ b, check a = .ok b := by
  rw [mapM_eq_ok_iff] at h
  induction h with
  | nil => cases ha
  | cons hb hrest ih =>
    rcases List.mem_cons.mp ha with rfl | ha
    · exact ⟨_, hb⟩
    · exact ih ha

theorem exists_mapM_ok (h : ∀ a ∈ l, ∃ b, check a = .ok b) :
    ∃ results, l.mapM check = .ok results := by
  induction l with
  | nil => exact ⟨[], rfl⟩
  | cons a rest ih =>
    rw [List.forall_mem_cons] at h
    obtain ⟨⟨b, hb⟩, hrest⟩ := h
    obtain ⟨bs, hbs⟩ := ih hrest
    rw [List.mapM_cons, hb, hbs]
    exact ⟨b :: bs, rfl⟩

/-- More checks that succeed have all results that there were, and maybe more. -/
theorem exists_mapM_of_subset {l' : List α} {results : List β} (h : l.mapM check = .ok results)
    (hold : l ⊆ l') (hnew : ∀ a ∈ l', a ∈ l ∨ ∃ b, check a = .ok b) :
    ∃ results', l'.mapM check = .ok results' ∧ results ⊆ results' := by
  have hall : ∀ a ∈ l', ∃ b, check a = .ok b := fun a ha =>
    (hnew a ha).elim (exists_of_mapM_ok h) id
  obtain ⟨results', h'⟩ := exists_mapM_ok hall
  refine ⟨results', h', fun b hb => ?_⟩
  obtain ⟨a, ha, hcheck⟩ := (mem_of_mapM_ok h).mp hb
  exact (mem_of_mapM_ok h').mpr ⟨a, hold ha, hcheck⟩

/-- A search comes to nothing when every test does. -/
theorem anyM_eq_ok_false {test : α → Except ε Bool} :
    l.anyM test = .ok false ↔ ∀ a ∈ l, test a = .ok false := by
  induction l with
  | nil => exact ⟨fun _ a ha => absurd ha List.not_mem_nil, fun _ => rfl⟩
  | cons a rest ih =>
    rw [List.anyM_cons, List.forall_mem_cons, ← ih]
    constructor
    · intro h
      obtain ⟨b, hb, h⟩ := ok_of_bind h
      cases b with
      | true => cases h
      | false => exact ⟨hb, h⟩
    · rintro ⟨ha, hrest⟩
      rw [ha]
      exact hrest

theorem exists_of_anyM_ok_true {test : α → Except ε Bool} (h : l.anyM test = .ok true) :
    ∃ a ∈ l, test a = .ok true := by
  induction l with
  | nil => cases h
  | cons a rest ih =>
    rw [List.anyM_cons] at h
    obtain ⟨b, hb, h⟩ := ok_of_bind h
    cases b with
    | true => exact ⟨a, List.mem_cons_self, hb⟩
    | false =>
      obtain ⟨other, hother, htest⟩ := ih h
      exact ⟨other, List.mem_cons_of_mem a hother, htest⟩

theorem exists_anyM_ok {test : α → Except ε Bool} (h : ∀ a ∈ l, ∃ b, test a = .ok b) :
    ∃ b, l.anyM test = .ok b := by
  induction l with
  | nil => exact ⟨false, rfl⟩
  | cons a rest ih =>
    rw [List.forall_mem_cons] at h
    obtain ⟨⟨b, hb⟩, hrest⟩ := h
    rw [List.anyM_cons, hb]
    cases b with
    | true => exact ⟨true, rfl⟩
    | false => exact ih hrest

end Checks

end AccessAudit
