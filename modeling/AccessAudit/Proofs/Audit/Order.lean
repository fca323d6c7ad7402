import AccessAudit.Audit.Issue
import Mathlib.Data.List.Basic

/-!
# Stable order of issues

Issues are sorted by place, kind, analyzer and message. Issues that differ otherwise, in their fix
or in how sure the analysis is, may have the same sort key, and then they stay in the order in which
they came. So the sorted list depends on the unsorted one only through its ties: two lists that have
the same issues for every sort key, in the same order, are sorted into the same list
(`Issue.sort_congr`), and leaving issues out may as well be done after sorting
(`Issue.filter_sort`).

Both are facts about any stable sort, and are stated for one first.
-/

namespace AccessAudit

/-! ## Stable sorting -/

section Stable

variable {α : Type} {le : α → α → Bool} {l l' : List α}

/-- Whether neither of two items has to come before the other. -/
def tied (le : α → α → Bool) (a b : α) : Bool := le a b && le b a

variable (htrans : ∀ a b c, le a b = true → le b c = true → le a c = true)
  (htotal : ∀ a b, (le a b || le b a) = true)

include htotal in
theorem tied_self (a : α) : tied le a a = true := by
  have hself := htotal a a
  rw [Bool.or_self] at hself
  rw [tied, hself]
  rfl

include htrans htotal in
/-- Sorting keeps ties as they are. -/
theorem filter_tied_mergeSort (a : α) :
    (l.mergeSort le).filter (tied le a) = l.filter (tied le a) := by
  have hties : (l.filter (tied le a)).Pairwise fun b c => le b c = true := by
    refine List.pairwise_of_forall_mem_list fun b hb c hc => ?_
    have hb' := Bool.and_eq_true_iff.mp (List.mem_filter.mp hb).2
    have hc' := Bool.and_eq_true_iff.mp (List.mem_filter.mp hc).2
    exact htrans b a c hb'.2 hc'.1
  have hkept : (l.filter (tied le a)).Sublist ((l.mergeSort le).filter (tied le a)) := by
    have hsub := (List.sublist_mergeSort htrans htotal hties List.filter_sublist).filter (tied le a)
    simpa only [List.filter_filter, Bool.and_self] using hsub
  exact (hkept.eq_of_length ((List.mergeSort_perm l le).filter _).length_eq.symm).symm

include htotal in
/-- A sorted list is known by its ties. -/
theorem eq_of_filter_tied (hl : l.Pairwise fun a b => le a b = true)
    (hl' : l'.Pairwise fun a b => le a b = true)
    (h : ∀ a, l.filter (tied le a) = l'.filter (tied le a)) : l = l' := by
  have hmem {k k' : List α} (hk : ∀ a, k.filter (tied le a) = k'.filter (tied le a)) {a : α}
      (ha : a ∈ k) : a ∈ k' := by
    have hfilter := List.mem_filter.mpr ⟨ha, tied_self htotal a⟩
    rw [hk] at hfilter
    exact (List.mem_filter.mp hfilter).1
  have hhead {a b : α} {k : List α} (hk : (b :: k).Pairwise fun a b => le a b = true)
      (ha : a ∈ b :: k) : le b a = true := by
    rcases List.mem_cons.mp ha with rfl | ha
    · simpa using htotal a a
    · exact List.rel_of_pairwise_cons hk ha
  induction l generalizing l' with
  | nil =>
    symm
    apply List.eq_nil_iff_forall_not_mem.mpr
    intro a ha
    exact List.not_mem_nil (hmem (fun b => (h b).symm) ha)
  | cons a rest ih =>
    cases l' with
    | nil => exact absurd (hmem h List.mem_cons_self) List.not_mem_nil
    | cons b rest' =>
      -- both heads come first in both lists, so they are tied, and ties agree
      have hba : le b a = true := hhead hl' (hmem h List.mem_cons_self)
      have hab : le a b = true := hhead hl (hmem (fun c => (h c).symm) List.mem_cons_self)
      have htied : tied le a b = true := by rw [tied, hab, hba]; rfl
      have hties := h a
      rw [List.filter_cons_of_pos (tied_self htotal a), List.filter_cons_of_pos htied] at hties
      obtain rfl : a = b := (List.cons.inj hties).1
      congr 1
      refine ih hl.of_cons hl'.of_cons fun c => ?_
      have hc := h c
      rw [List.filter_cons, List.filter_cons] at hc
      split at hc
      · exact (List.cons.inj hc).2
      · exact hc

include htrans htotal in
theorem mergeSort_congr (h : ∀ a, l.filter (tied le a) = l'.filter (tied le a)) :
    l.mergeSort le = l'.mergeSort le := by
  refine eq_of_filter_tied htotal (List.pairwise_mergeSort htrans htotal l)
    (List.pairwise_mergeSort htrans htotal l') fun a => ?_
  rw [filter_tied_mergeSort htrans htotal, filter_tied_mergeSort htrans htotal, h]

include htrans htotal in
theorem filter_mergeSort (p : α → Bool) (l : List α) :
    (l.mergeSort le).filter p = (l.filter p).mergeSort le := by
  refine eq_of_filter_tied htotal ((List.pairwise_mergeSort htrans htotal l).filter p)
    (List.pairwise_mergeSort htrans htotal _) fun a => ?_
  rw [filter_tied_mergeSort htrans htotal, List.filter_comm, filter_tied_mergeSort htrans htotal,
    List.filter_comm]

end Stable

/-! ## Sort keys -/

namespace Issue

instance : Std.TransCmp SortKey.compare :=
  inferInstanceAs (Std.TransCmp (compareLex (compareOn SortKey.file) (compareLex
    (compareOn SortKey.line) (compareLex (compareOn SortKey.column) (compareLex
      (compareOn SortKey.kind) (compareLex (compareOn SortKey.analyzer)
        (compareOn SortKey.message)))))))

theorem le_trans (a b c : Issue) (hab : a.le b = true) (hbc : b.le c = true) : a.le c = true :=
  Std.TransCmp.isLE_trans hab hbc

theorem SortKey.compare_swap (a b : SortKey) : b.compare a = (a.compare b).swap :=
  Std.OrientedCmp.eq_swap

theorem le_total (a b : Issue) : (a.le b || b.le a) = true := by
  unfold le
  rw [SortKey.compare_swap a.sortKey]
  cases a.sortKey.compare b.sortKey <;> rfl

theorem SortKey.compare_eq_eq {a b : SortKey} : a.compare b = .eq ↔ a = b := by
  unfold SortKey.compare
  simp only [Ordering.then_eq_eq, Std.compare_eq_iff_eq]
  constructor
  · rintro ⟨hfile, hline, hcolumn, hkind, hanalyzer, hmessage⟩
    cases a
    cases b
    simp_all
  · rintro rfl
    exact ⟨rfl, rfl, rfl, rfl, rfl, rfl⟩

theorem tied_iff {a b : Issue} : tied le a b = true ↔ a.sortKey = b.sortKey := by
  rw [← SortKey.compare_eq_eq, tied, le, le, SortKey.compare_swap a.sortKey]
  cases a.sortKey.compare b.sortKey <;> decide

theorem sort_perm (issues : List Issue) : (sort issues).Perm issues := List.mergeSort_perm issues le

theorem sort_sorted (issues : List Issue) : (sort issues).Pairwise fun a b => a.le b = true :=
  List.pairwise_mergeSort le_trans le_total issues

/-- Sorting depends only on which issues there are for each sort key, and in which order. -/
theorem sort_congr {issues issues' : List Issue} (h : ∀ key : SortKey,
    issues.filter (fun i => key = i.sortKey) = issues'.filter fun i => key = i.sortKey) :
    sort issues = sort issues' := by
  refine mergeSort_congr le_trans le_total fun a => ?_
  have htied : tied le a = fun i => decide (a.sortKey = i.sortKey) := by
    funext i
    rw [Bool.eq_iff_iff, tied_iff, decide_eq_true_iff]
  rw [htied]
  exact h a.sortKey

theorem filter_sort (p : Issue → Bool) (issues : List Issue) :
    (sort issues).filter p = sort (issues.filter p) :=
  filter_mergeSort le_trans le_total p issues

end Issue

end AccessAudit
