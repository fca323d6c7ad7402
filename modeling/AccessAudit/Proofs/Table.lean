import AccessAudit.Table
import Mathlib.Data.List.Induction
import Mathlib.Data.List.Nodup

/-!
# What tables hold

A table is described from outside by what can be looked up in it and by its keys in order: first for
one step (`get?_update`), and from there, by induction over the items, for the two ways to fill a
table with items that have a tag. Under a tag `collect` holds all items with it (`collect_eq`) and
`firsts` the first of them (`get?_firsts`), and the keys of both are the tags that occur.
-/

namespace AccessAudit

/-! ## Dropping what was there before -/

theorem nodup_eraseDups {α : Type} [BEq α] [LawfulBEq α] (items : List α) :
    items.eraseDups.Nodup := by
  match items with
  | [] => exact List.nodup_nil
  | item :: rest =>
    rw [List.eraseDups_cons, List.nodup_cons]
    refine ⟨?_, nodup_eraseDups (rest.filter fun other => !other == item)⟩
    rw [List.mem_eraseDups, List.mem_filter]
    simp
termination_by items.length
decreasing_by exact Nat.lt_succ_of_le (List.length_filter_le _ _)

theorem eraseDups_concat {α : Type} [DecidableEq α] (items : List α) (item : α) :
    (items ++ [item]).eraseDups =
      if item ∈ items then items.eraseDups else items.eraseDups ++ [item] := by
  rw [List.eraseDups_append]
  by_cases h : item ∈ items
  · simp [h, List.removeAll]
  · simp [h, List.removeAll, List.eraseDups_cons]

theorem eraseDups_of_nodup {α : Type} [DecidableEq α] {items : List α} (h : items.Nodup) :
    items.eraseDups = items := by
  induction items using List.reverseRecOn with
  | nil => rfl
  | append_singleton items item ih =>
    obtain ⟨hbefore, -, hdisjoint⟩ := List.nodup_append.mp h
    have hnew : item ∉ items := fun hmem => hdisjoint item hmem item (by simp) rfl
    rw [eraseDups_concat, if_neg hnew, ih hbefore]

namespace Table

variable {κ α ι : Type} [DecidableEq κ] {key other : κ}

/-! ## One step -/

theorem get?_cons (value : α) (rest : Table κ α) :
    get? ((other, value) :: rest) key = if key = other then some value else rest.get? key := by
  unfold get?
  rw [List.lookup_cons]
  by_cases h : key = other
  · simp [h]
  · simp [h, beq_eq_false_iff_ne.mpr h]

theorem get?_update (t : Table κ α) (start : α) (change : α → α) :
    (t.update other start change).get? key =
      if key = other then some (change ((t.get? key).getD start)) else t.get? key := by
  induction t with
  | nil =>
    rw [update, get?_cons]
    split
    · rfl
    · rfl
  | cons entry rest ih =>
    obtain ⟨first, value⟩ := entry
    rw [update]
    by_cases hfirst : first = other
    · rw [if_pos hfirst, get?_cons, get?_cons, hfirst]
      by_cases hkey : key = other
      · simp [hkey]
      · simp [hkey]
    · rw [if_neg hfirst, get?_cons, get?_cons, ih]
      by_cases hkey : key = first
      · simp [hkey, hfirst]
      · simp [hkey]

theorem getD_get?_update (t : Table κ α) (start : α) (change : α → α) :
    ((t.update other start change).get? key).getD start =
      if key = other then change ((t.get? key).getD start) else (t.get? key).getD start := by
  rw [get?_update]
  split
  · rfl
  · rfl

theorem update_of_not_mem {t : Table κ α} (h : key ∉ t.keys) (start : α) (change : α → α) :
    t.update key start change = t ++ [(key, change start)] := by
  induction t with
  | nil => rfl
  | cons entry rest ih =>
    obtain ⟨hne, hrest⟩ := not_or.mp (fun hor => h (List.mem_cons.mpr hor))
    rw [update, if_neg (Ne.symm hne), ih hrest]
    rfl

/-- Where the values depend on the keys, and no key comes twice, one value is changed. -/
theorem update_map {keys : List κ} (hkeys : keys.Nodup) (hkey : key ∈ keys) (value : κ → α)
    (start : α) (change : α → α) :
    update (keys.map fun k => (k, value k)) key start change =
      keys.map fun k => (k, if k = key then change (value k) else value k) := by
  induction keys with
  | nil => cases hkey
  | cons first rest ih =>
    obtain ⟨hfirst, hrest⟩ := List.nodup_cons.mp hkeys
    rw [List.map_cons, update, List.map_cons]
    by_cases heq : first = key
    · have hothers : ∀ k ∈ rest, k ≠ key := fun k hk hsame => hfirst (heq ▸ hsame ▸ hk)
      rw [if_pos heq, if_pos heq]
      congr 1
      apply List.map_congr_left
      intro k hk
      rw [if_neg (hothers k hk)]
    · rw [if_neg heq, if_neg heq, ih hrest ((List.mem_cons.mp hkey).resolve_left (Ne.symm heq))]

/-! ## All items with a tag -/

section Collect

variable {tag : ι → Option κ} {items : List ι}

theorem collect_concat (items : List ι) (item : ι) :
    collect tag (items ++ [item]) = enter tag (collect tag items) item := by
  rw [collect, List.foldl_append]
  rfl

/-- Under each tag that occurs there are the items with it, in order. -/
theorem collect_eq (tag : ι → Option κ) (items : List ι) :
    collect tag items = (items.filterMap tag).eraseDups.map fun key =>
      (key, items.filter fun item => decide (tag item = some key)) := by
  induction items using List.reverseRecOn with
  | nil => rfl
  | append_singleton items item ih =>
    rw [collect_concat, ih, enter, List.filterMap_append]
    cases htag : tag item with
    | none => simp [List.filterMap_cons_none htag, List.filter_append, htag]
    | some key =>
      have hsingle : [item].filterMap tag = [key] := by simp [htag]
      rw [hsingle, eraseDups_concat]
      by_cases hmem : key ∈ items.filterMap tag
      · rw [if_pos hmem]
        dsimp only
        rw [update_map (nodup_eraseDups _) (List.mem_eraseDups.mpr hmem)]
        apply List.map_congr_left
        intro k _
        by_cases hk : k = key
        · simp [hk, htag, List.filter_append]
        · simp [hk, htag, List.filter_append, Ne.symm hk]
      · have hnew : ∀ other ∈ items, tag other ≠ some key := fun other hother heq =>
          hmem (List.mem_filterMap.mpr ⟨other, hother, heq⟩)
        have hkeys : key ∉ Table.keys ((items.filterMap tag).eraseDups.map fun k =>
            (k, items.filter fun item => decide (tag item = some k))) := by
          rw [keys, List.map_map, List.mem_map]
          rintro ⟨k, hk, rfl⟩
          exact hmem (List.mem_eraseDups.mp hk)
        rw [if_neg hmem, List.map_append]
        dsimp only
        rw [update_of_not_mem hkeys]
        congr 1
        · apply List.map_congr_left
          intro k hk
          have hne : key ≠ k := by
            rintro rfl
            exact hmem (List.mem_eraseDups.mp hk)
          simp [htag, List.filter_append, hne]
        · have hnone : items.filter (fun item => decide (tag item = some key)) = [] :=
            List.filter_eq_nil_iff.mpr fun other hother => by simpa using hnew other hother
          simp [htag, List.filter_append, hnone]

theorem get?_map {keys : List κ} (value : κ → α) :
    get? (keys.map fun k => (k, value k)) key = if key ∈ keys then some (value key) else none := by
  induction keys with
  | nil => rfl
  | cons first rest ih =>
    rw [List.map_cons, get?_cons, ih]
    by_cases h : key = first
    · simp [h]
    · simp [h]

theorem getD_get?_collect (tag : ι → Option κ) (items : List ι) (key : κ) :
    ((collect tag items).get? key).getD [] =
      items.filter fun item => decide (tag item = some key) := by
  rw [collect_eq, get?_map]
  by_cases h : key ∈ (items.filterMap tag).eraseDups
  · rw [if_pos h]
    rfl
  · rw [if_neg h]
    rw [List.mem_eraseDups, List.mem_filterMap] at h
    symm
    apply List.filter_eq_nil_iff.mpr
    intro item hitem htag
    exact h ⟨item, hitem, of_decide_eq_true htag⟩

end Collect

/-! ## The first item with a tag -/

section Firsts

variable {tag : ι → Option κ}

theorem firsts_concat (items : List ι) (item : ι) :
    firsts tag (items ++ [item]) = enterFirst tag (firsts tag items) item := by
  rw [firsts, List.foldl_append]
  rfl

theorem get?_append (t t' : Table κ α) :
    get? (t ++ t') key = (t.get? key).or (t'.get? key) := by
  unfold get?
  rw [List.lookup_append]

theorem get?_firsts (tag : ι → Option κ) (items : List ι) (key : κ) :
    (firsts tag items).get? key = items.find? fun item => decide (tag item = some key) := by
  induction items using List.reverseRecOn with
  | nil => rfl
  | append_singleton items item ih =>
    rw [firsts_concat, enterFirst, List.find?_append, ← ih]
    cases htag : tag item with
    | none => simp [htag]
    | some first =>
      dsimp only
      by_cases hkey : first = key
      · subst hkey
        cases hold : (firsts tag items).get? first with
        | some _ => simp [hold]
        | none => simp [hold, htag, get?_append, get?_cons]
      · have hother : get? [(first, item)] key = none := by
          rw [get?_cons, if_neg (Ne.symm hkey)]
          rfl
        split
        · simp [htag, hkey]
        · simp [get?_append, hother, htag, hkey]

theorem isSome_get? {t : Table κ α} : (t.get? key).isSome = true ↔ key ∈ t.keys := by
  induction t with
  | nil => simp [get?, keys]
  | cons entry rest ih =>
    obtain ⟨first, value⟩ := entry
    rw [get?_cons, keys, List.map_cons, List.mem_cons, ← keys]
    by_cases h : key = first
    · simp [h]
    · simp [h, ih]

theorem keys_firsts (tag : ι → Option κ) (items : List ι) :
    (firsts tag items).keys = (items.filterMap tag).eraseDups := by
  induction items using List.reverseRecOn with
  | nil => rfl
  | append_singleton items item ih =>
    rw [firsts_concat, enterFirst, List.filterMap_append]
    cases htag : tag item with
    | none => simp [htag, ih]
    | some key =>
      have hsingle : [item].filterMap tag = [key] := by simp [htag]
      have hmem : key ∈ items.filterMap tag ↔ key ∈ (firsts tag items).keys := by
        rw [ih, List.mem_eraseDups]
      rw [hsingle, eraseDups_concat, ← ih]
      dsimp only
      by_cases h : key ∈ (firsts tag items).keys
      · rw [if_pos (isSome_get?.mpr h), if_pos (hmem.mpr h)]
      · rw [if_neg (fun hsome => h (isSome_get?.mp hsome)), if_neg (fun hold => h (hmem.mp hold))]
        simp [keys]

end Firsts

end Table

end AccessAudit
