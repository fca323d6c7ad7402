import AccessAudit.Proofs.Audit.Order
import AccessAudit.Proofs.Style.Cascade
import AccessAudit.Report.Basic
import Mathlib.Algebra.BigOperators.Group.List.Lemmas
import Mathlib.Algebra.GroupWithZero.Nat
import Mathlib.Algebra.Order.Ring.Int
import Mathlib.Data.Prod.Lex
import Mathlib.Data.String.Basic

/-!
# Reports lose no issue

The views on a report are computed one by one from the same rows: a sorted table, and counts by
severity, by kind and by criterion. That they agree with each other rests on two facts. The sort is
stable, so the table has the rows of each sort key in the order in which they were added. And counts
of a list by its distinct items add up to its length (`sum_count_sortTexts`), whichever view does
the counting.
-/

namespace AccessAudit

/-! ## Order by several columns -/

theorem isLE_then_compare {α : Type} [LinearOrder α] (x y : α) (rest : Ordering) :
    ((compare x y).then rest).isLE = true ↔ x < y ∨ x = y ∧ rest.isLE = true := by
  rcases lt_trichotomy x y with h | h | h
  · simp [compare_lt_iff_lt.mpr h, h]
  · simp [h]
  · simp [compare_gt_iff_gt.mpr h, h.not_gt, h.ne']

theorem isLE_compare_iff {α : Type} [LinearOrder α] (x y : α) :
    (compare x y).isLE = true ↔ x ≤ y := by
  rw [Ordering.isLE_iff_ne_gt]
  exact compare_le_iff_le

section ByKey

variable {α κ : Type} [LinearOrder κ] {le : α → α → Bool} {key : α → κ}
  (hle : ∀ a b, le a b = true ↔ key a ≤ key b)

include hle

theorem trans_of_key (a b c : α) (hab : le a b = true) (hbc : le b c = true) : le a c = true := by
  rw [hle] at hab hbc ⊢
  exact hab.trans hbc

theorem total_of_key (a b : α) : (le a b || le b a) = true := by
  rw [Bool.or_eq_true, hle, hle]
  exact LinearOrder.le_total (key a) (key b)

theorem sorted_by_key (l : List α) : (l.mergeSort le).Pairwise fun a b => key a ≤ key b := by
  have hsorted := List.pairwise_mergeSort (trans_of_key hle) (total_of_key hle) l
  exact hsorted.imp fun h => (hle _ _).mp h

/-- Items with the same key are already in order, so a sort leaves them as they are. -/
theorem filter_key_mergeSort (l : List α) (k : κ) :
    (l.mergeSort le).filter (fun a => key a = k) = l.filter fun a => key a = k := by
  rw [filter_mergeSort (trans_of_key hle) (total_of_key hle)]
  apply List.mergeSort_of_pairwise
  refine List.pairwise_of_forall_mem_list fun a ha b hb => ?_
  simp only [List.mem_filter, decide_eq_true_eq] at ha hb
  rw [hle, ha.2, hb.2]

end ByKey

/-! ## Counting -/

theorem nodup_sortTexts (texts : List String) : (sortTexts texts).Nodup :=
  (sortTexts_sorted texts).imp fun h => ne_of_lt h

/-- Texts that are counted each on its own are all counted, and none twice. -/
theorem sum_count_sortTexts (texts : List String) :
    ((sortTexts texts).map fun text => texts.count text).sum = texts.length := by
  have hperm : (sortTexts texts).Perm texts.dedup := by
    rw [List.perm_ext_iff_of_nodup (nodup_sortTexts texts) texts.nodup_dedup]
    intro text
    rw [mem_sortTexts, List.mem_dedup]
  rw [(hperm.map _).sum_eq, List.sum_map_count_dedup_eq_length]

/-! ## Severities -/

namespace Severity

theorem rank_injective : Function.Injective rank := by
  intro s t h
  cases s <;> cases t <;> simp_all [rank]

theorem rank_le_info (s : Severity) : s.rank ≤ info.rank := by
  cases s <;> decide

end Severity

theorem Criterion.rank_graver (s t : Severity) :
    (Criterion.graver s t).rank = min s.rank t.rank := by
  unfold Criterion.graver
  split <;> omega

/-- What is gravest of some severities is one of them, and no other is graver. -/
theorem Criterion.foldl_graver (severities : List Severity) (s : Severity) :
    (severities.foldl Criterion.graver s = s ∨ severities.foldl Criterion.graver s ∈ severities) ∧
    ∀ t ∈ s :: severities, (severities.foldl Criterion.graver s).rank ≤ t.rank := by
  induction severities generalizing s with
  | nil => simp
  | cons t rest ih =>
    obtain ⟨hone, hleast⟩ := ih (Criterion.graver s t)
    simp only [List.forall_mem_cons, Criterion.rank_graver] at hleast
    rw [List.foldl_cons]
    constructor
    · rcases hone with hone | hone
      · rw [hone]
        unfold Criterion.graver
        split
        · exact .inr List.mem_cons_self
        · exact .inl rfl
      · exact .inr (List.mem_cons_of_mem t hone)
    · simp only [List.forall_mem_cons]
      exact ⟨by omega, by omega, hleast.2⟩

/-! ## Keys of rows and of kinds -/

/-- What rows are sorted by. -/
def Row.key (r : Row) : ℕ ×ₗ String ×ₗ String ×ₗ ℤ ×ₗ ℤ ×ₗ String :=
  toLex (r.severity.rank, toLex (r.jobName, toLex (r.file, toLex (r.line,
    toLex (r.column, r.kind)))))

theorem Row.compare_isLE (a b : Row) : (a.compare b).isLE = true ↔ a.key ≤ b.key := by
  unfold Row.compare Row.key
  simp only [isLE_then_compare, Prod.Lex.toLex_le_toLex, isLE_compare_iff]

namespace Report

/-- What kinds are sorted by: the more frequent come first. -/
def KindCount.key (c : KindCount) : ℕ ×ₗ ℕᵒᵈ ×ₗ String :=
  toLex (c.severity.rank, toLex (OrderDual.toDual c.count, c.kind))

theorem KindCount.compare_isLE (a b : KindCount) : (a.compare b).isLE = true ↔ a.key ≤ b.key := by
  unfold KindCount.compare KindCount.key
  simp only [isLE_then_compare, Prod.Lex.toLex_le_toLex, isLE_compare_iff,
    OrderDual.toDual_lt_toDual, OrderDual.toDual_inj, @eq_comm ℕ b.count]

/-! ## Views -/

variable (r : Report)

theorem severityCounts_sum :
    r.severityCount .error + r.severityCount .warning + r.severityCount .info = r.total := by
  unfold severityCount total
  induction r.rows with
  | nil => rfl
  | cons row rest ih =>
    simp only [List.countP_cons, List.length_cons]
    cases row.severity <;> simp <;> omega

theorem kindCount_count (kind : String) :
    (r.kindCount kind).count = (r.rows.map Row.kind).count kind := by
  unfold kindCount
  rw [List.count_eq_countP, List.countP_map, List.countP_eq_length_filter]
  rfl

/-- The severity that is given for a kind is the gravest among the rows of that kind. -/
theorem kindCount_severity {kind : String} (h : ∃ row ∈ r.rows, row.kind = kind) :
    (∃ row ∈ r.rows, row.kind = kind ∧ row.severity = (r.kindCount kind).severity) ∧
    ∀ row ∈ r.rows, row.kind = kind → (r.kindCount kind).severity.rank ≤ row.severity.rank := by
  obtain ⟨hone, hleast⟩ :=
    Criterion.foldl_graver ((r.rows.filter (·.kind == kind)).map Row.severity) .info
  have hgravest : ∀ row ∈ r.rows, row.kind = kind →
      (r.kindCount kind).severity.rank ≤ row.severity.rank := by
    intro row hrow hkind
    apply hleast
    refine List.mem_cons_of_mem _ (List.mem_map_of_mem ?_)
    simp [hrow, hkind]
  refine ⟨?_, hgravest⟩
  rcases hone with hinfo | hmem
  · -- no row is graver than the least grave severity, so all rows have it
    obtain ⟨row, hrow, hkind⟩ := h
    refine ⟨row, hrow, hkind, Severity.rank_injective ?_⟩
    have hrank : (r.kindCount kind).severity.rank = Severity.info.rank := congrArg _ hinfo
    have hle := hgravest row hrow hkind
    have hmost := row.severity.rank_le_info
    omega
  · simp only [List.mem_map, List.mem_filter, beq_iff_eq] at hmem
    obtain ⟨row, ⟨hrow, hkind⟩, hseverity⟩ := hmem
    exact ⟨row, hrow, hkind, hseverity⟩

theorem kindSummary_perm :
    r.kindSummary.Perm ((sortTexts (r.rows.map Row.kind)).map r.kindCount) :=
  List.mergeSort_perm _ _

theorem kinds_perm : (r.kindSummary.map KindCount.kind).Perm (sortTexts (r.rows.map Row.kind)) := by
  have hperm := r.kindSummary_perm.map KindCount.kind
  rw [List.map_map] at hperm
  have hkind : KindCount.kind ∘ r.kindCount = id := rfl
  rw [hkind, List.map_id] at hperm
  exact hperm

theorem nodup_kinds : (r.kindSummary.map KindCount.kind).Nodup :=
  r.kinds_perm.nodup_iff.mpr (nodup_sortTexts _)

theorem mem_kinds {kind : String} :
    kind ∈ r.kindSummary.map KindCount.kind ↔ ∃ row ∈ r.rows, row.kind = kind := by
  rw [r.kinds_perm.mem_iff, mem_sortTexts, List.mem_map]

theorem eq_kindCount_of_mem {c : KindCount} (h : c ∈ r.kindSummary) : c = r.kindCount c.kind := by
  rw [r.kindSummary_perm.mem_iff, List.mem_map] at h
  obtain ⟨kind, -, rfl⟩ := h
  rfl

theorem kindCounts_sum : (r.kindSummary.map KindCount.count).sum = r.total := by
  rw [(r.kindSummary_perm.map KindCount.count).sum_eq, List.map_map]
  have hcount : KindCount.count ∘ r.kindCount = fun kind => (r.rows.map Row.kind).count kind :=
    funext r.kindCount_count
  rw [hcount, sum_count_sortTexts, List.length_map, total]

theorem kindSummary_increases : r.kindSummary.Pairwise fun a b => a.key < b.key := by
  have hsorted : r.kindSummary.Pairwise fun a b => a.key ≤ b.key :=
    sorted_by_key KindCount.compare_isLE _
  have hdistinct : r.kindSummary.Pairwise fun a b => a.kind ≠ b.kind :=
    List.pairwise_map.mp r.nodup_kinds
  refine List.Pairwise.imp₂ ?_ hsorted hdistinct
  intro a b hle hne
  refine lt_of_le_of_ne hle fun hkey => hne ?_
  simp only [KindCount.key, EmbeddingLike.apply_eq_iff_eq, Prod.mk.injEq] at hkey
  exact hkey.2.2

theorem criteria_eq : r.criterionSummary.map CriterionCount.criterion =
    sortTexts (r.rows.flatMap Row.criteria) := by
  unfold criterionSummary tally
  rw [List.map_map, List.map_map]
  exact List.map_id _

theorem criterionCounts_sum : (r.criterionSummary.map CriterionCount.count).sum =
    (r.rows.map fun row => row.criteria.length).sum := by
  unfold criterionSummary tally
  rw [List.map_map, List.map_map, ← List.length_flatMap]
  exact sum_count_sortTexts _

/-- The views on a report account for its rows: none is lost, and none is counted twice. -/
structure Conserves (r : Report) (rows : List Row) : Prop where
  perm : r.table.Perm rows
  sorted : r.table.Pairwise fun a b => a.key ≤ b.key
  stable : ∀ k, r.table.filter (fun row => row.key = k) = rows.filter fun row => row.key = k
  severity : ∀ s, r.severityCount s = rows.countP (·.severity == s)
  severities_sum :
    r.severityCount .error + r.severityCount .warning + r.severityCount .info = r.total
  total : r.total = rows.length
  kinds_nodup : (r.kindSummary.map KindCount.kind).Nodup
  kinds : ∀ kind, kind ∈ r.kindSummary.map KindCount.kind ↔ ∃ row ∈ rows, row.kind = kind
  kinds_sum : (r.kindSummary.map KindCount.count).sum = r.total
  kinds_increase : r.kindSummary.Pairwise fun a b => a.key < b.key
  kind : ∀ c ∈ r.kindSummary, c.count = (rows.map Row.kind).count c.kind ∧
    (∃ row ∈ rows, row.kind = c.kind ∧ row.severity = c.severity) ∧
    ∀ row ∈ rows, row.kind = c.kind → c.severity.rank ≤ row.severity.rank
  criteria : r.criterionSummary.map CriterionCount.criterion = sortTexts (rows.flatMap Row.criteria)
  criteria_sum : (r.criterionSummary.map CriterionCount.count).sum =
    (rows.map fun row => row.criteria.length).sum

theorem conserves_rows : r.Conserves r.rows where
  perm := List.mergeSort_perm _ _
  sorted := sorted_by_key Row.compare_isLE _
  stable := filter_key_mergeSort Row.compare_isLE _
  severity _ := rfl
  severities_sum := r.severityCounts_sum
  total := rfl
  kinds_nodup := r.nodup_kinds
  kinds _ := r.mem_kinds
  kinds_sum := r.kindCounts_sum
  kinds_increase := r.kindSummary_increases
  kind c hc := by
    have hkind := r.mem_kinds.mp (List.mem_map_of_mem hc)
    rw [r.eq_kindCount_of_mem hc]
    exact ⟨r.kindCount_count c.kind, r.kindCount_severity hkind⟩
  criteria := r.criteria_eq
  criteria_sum := r.criterionCounts_sum

theorem rows_foldl_add (calls : List (List Issue × String)) (r : Report) :
    (calls.foldl (fun r call => r.add call.1 (.str call.2)) r).rows =
      r.rows ++ calls.flatMap fun call => call.1.map (Row.ofIssue (.str call.2)) := by
  induction calls generalizing r with
  | nil => simp
  | cons call rest ih =>
    rw [List.foldl_cons, ih, List.flatMap_cons, ← List.append_assoc]
    rfl

/-- However issues are added, job by job, the views account for exactly the rows of all of them. -/
theorem views_conserve (calls : List (List Issue × String)) :
    Conserves (calls.foldl (fun r call => r.add call.1 (.str call.2)) {})
      (calls.flatMap fun call => call.1.map (Row.ofIssue (.str call.2))) := by
  have hrows := rows_foldl_add calls {}
  rw [List.nil_append] at hrows
  rw [← hrows]
  exact conserves_rows _

end Report

end AccessAudit
