import AccessAudit.Document.Merge
import AccessAudit.Proofs.Table

/-!
# Elements in document order, and who has an id

The elements of a document are listed by their keys, fragment by fragment. Which of them have a given
id is said by one list, `ownersOf`. No part of the merge looks at that list: a fragment, the merge
and the document each fill a table of their own while they go through the elements. What can be
looked up in these tables is tied to the list here, once for each table, and whatever depends on
ids is then said of the owners.
-/

namespace AccessAudit

open Text

/-! ## Document order -/

/-- One element comes before another: in an earlier fragment, or earlier in the same one. -/
def Key.Before (a b : Key) : Prop :=
  a.fragment < b.fragment ∨ a.fragment = b.fragment ∧ a.order < b.order

theorem Key.Before.ne {a b : Key} (h : a.Before b) : a ≠ b := by
  rintro rfl
  rcases h with h | ⟨-, h⟩
  · exact Nat.lt_irrefl _ h
  · exact Nat.lt_irrefl _ h

variable {fragments : Array Fragment} {key : Key}

theorem exists_element?_iff {f : Fragment} {order : Nat} :
    (∃ e, f.element? order = some e) ↔ order < f.size := by
  rw [← Option.isSome_iff_exists]
  simp [Fragment.element?, Fragment.size]

theorem mem_keysOf : key ∈ keysOf fragments ↔ ∃ e, elementAt? fragments key = some e := by
  unfold keysOf elementAt?
  rw [List.mem_flatMap]
  constructor
  · rintro ⟨⟨f, place⟩, hf, hkey⟩
    obtain ⟨order, horder, rfl⟩ := List.mem_map.mp hkey
    rw [List.mem_zipIdx_iff_getElem?, Array.getElem?_toList] at hf
    obtain ⟨e, he⟩ := exists_element?_iff.mpr (List.mem_range.mp horder)
    exact ⟨e, by rw [hf]; exact he⟩
  · rintro ⟨e, he⟩
    obtain ⟨f, hf, he⟩ := Option.bind_eq_some_iff.mp he
    refine ⟨(f, key.fragment), ?_, List.mem_map.mpr ⟨key.order, ?_, rfl⟩⟩
    · rw [List.mem_zipIdx_iff_getElem?, Array.getElem?_toList]
      exact hf
    · exact List.mem_range.mpr (exists_element?_iff.mp ⟨e, he⟩)

theorem keysOf_sorted (fragments : Array Fragment) : (keysOf fragments).Pairwise Key.Before := by
  unfold keysOf
  rw [List.pairwise_flatMap]
  constructor
  · rintro ⟨f, place⟩ -
    exact List.pairwise_map.mpr (List.pairwise_lt_range.imp fun h => .inr ⟨rfl, h⟩)
  · have hplaces : (fragments.toList.zipIdx.map Prod.snd).Pairwise (· < ·) := by
      rw [List.zipIdx_map_snd]
      exact List.pairwise_lt_range'
    refine (List.pairwise_map.mp hplaces).imp ?_
    intro a b hlt x hx y hy
    obtain ⟨i, -, rfl⟩ := List.mem_map.mp hx
    obtain ⟨j, -, rfl⟩ := List.mem_map.mp hy
    exact .inl hlt

theorem nodup_keysOf (fragments : Array Fragment) : (keysOf fragments).Nodup :=
  (keysOf_sorted fragments).imp Key.Before.ne

/-! ## Owners -/

/-- The keys of the elements with an id, in document order. -/
def ownersOf (fragments : Array Fragment) (id : String) : List Key :=
  (keysOf fragments).filter fun key => (elementAt? fragments key).any fun e => e.id? == some id

theorem mem_ownersOf {id : String} :
    key ∈ ownersOf fragments id ↔ ∃ e, elementAt? fragments key = some e ∧ e.id? = some id := by
  unfold ownersOf
  rw [List.mem_filter, mem_keysOf]
  constructor
  · rintro ⟨⟨e, he⟩, hid⟩
    rw [he, Option.any_some, beq_iff_eq] at hid
    exact ⟨e, he, hid⟩
  · rintro ⟨e, he, hid⟩
    exact ⟨⟨e, he⟩, by simp [he, hid]⟩

theorem decide_bind_id? (found : Option Element) (id : String) :
    decide (found.bind Element.id? = some id) = found.any fun e => e.id? == some id := by
  cases found with
  | none => rfl
  | some e => exact Bool.eq_iff_iff.mpr (by simp)

/-- The merge's table of owners. -/
theorem getD_get?_ownersTable (fragments : Array Fragment) (id : String) :
    ((ownersTable fragments).get? id).getD [] = ownersOf fragments id := by
  rw [ownersTable, Table.getD_get?_collect]
  exact List.filter_congr fun key _ => decide_bind_id? (elementAt? fragments key) id

/-- The document's table of first owners. -/
theorem Document.elementById?_eq_head? (d : Document) (id : String) :
    d.elementById? id = (ownersOf d.fragments id).head? := by
  rw [elementById?, idTable, Table.get?_firsts, ownersOf, List.head?_filter]
  congr 1
  exact funext fun key => decide_bind_id? (elementAt? d.fragments key) id

/-- A fragment's own table. -/
theorem Fragment.withId_eq (f : Fragment) (id : String) : f.withId id =
    f.orders.filter fun order => (f.element? order).any fun e => e.id? == some id := by
  rw [withId, idTable, Table.getD_get?_collect]
  exact List.filter_congr fun order _ => decide_bind_id? (f.element? order) id

/-! ## References and repeated ids -/

/-- The references in an element's attributes, each to the first owner of its id. -/
def referencesAt (fragments : Array Fragment) (key : Key) : List Reference :=
  referenceAttributes.flatMap fun name =>
    (words (((elementAt? fragments key).map (·.valueOf name)).getD "")).map fun id =>
      { source := key, name, id, target := (ownersOf fragments id).head? }

theorem mem_referencesAt {e : Element} {name id : String}
    (hat : elementAt? fragments key = some e) (hname : name ∈ referenceAttributes)
    (hid : id ∈ words (e.valueOf name)) :
    ⟨key, name, id, (ownersOf fragments id).head?⟩ ∈ referencesAt fragments key := by
  refine List.mem_flatMap.mpr ⟨name, hname, List.mem_map.mpr ⟨id, ?_, rfl⟩⟩
  rw [hat]
  exact hid

theorem referencesOf_ownersTable (fragments : Array Fragment) (key : Key) :
    referencesOf fragments (ownersTable fragments) key = referencesAt fragments key := by
  have htarget (id : String) : ((ownersTable fragments).get? id).bind List.head? =
      (ownersOf fragments id).head? := by
    rw [← getD_get?_ownersTable]
    cases (ownersTable fragments).get? id with
    | none => rfl
    | some owners => rfl
  unfold referencesOf referencesAt
  simp only [htarget]

/-- The ids that occur, each once, with those owners that are not alone. -/
theorem duplicatesOf_ownersTable (fragments : Array Fragment) :
    duplicatesOf (ownersTable fragments) =
      (((keysOf fragments).filterMap (idAt? fragments)).eraseDups.map fun id =>
        (id, ownersOf fragments id)).filter fun entry => 1 < entry.2.length := by
  have howners (id : String) : (keysOf fragments).filter
      (fun key => decide (idAt? fragments key = some id)) = ownersOf fragments id :=
    List.filter_congr fun key _ => decide_bind_id? (elementAt? fragments key) id
  rw [duplicatesOf, ownersTable, Table.collect_eq]
  simp only [howners]

section Merge

variable {config : Config} {inputs : List FragmentInput} {scripts : List Script}
  {sheets : List StyleSheet} {scope : Json}

theorem fragments_merge :
    (merge config inputs scripts sheets scope).fragments = (indexInputs 0 inputs).1.toArray := rfl

theorem references_merge : (merge config inputs scripts sheets scope).references =
    (keysOf (merge config inputs scripts sheets scope).fragments).flatMap
      (referencesAt (merge config inputs scripts sheets scope).fragments) := by
  rw [fragments_merge, ← funext (referencesOf_ownersTable (indexInputs 0 inputs).1.toArray)]
  rfl

theorem duplicateIds_merge : (merge config inputs scripts sheets scope).duplicateIds =
    duplicatesOf (ownersTable (merge config inputs scripts sheets scope).fragments) := rfl

end Merge

end AccessAudit
