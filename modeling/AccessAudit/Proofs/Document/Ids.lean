import AccessAudit.Audit.Integrity
import AccessAudit.Proofs.Document.Appending
import Mathlib.Algebra.BigOperators.Group.List.Lemmas
import Mathlib.Algebra.GroupWithZero.Nat

/-!
# The tables of ids

Which elements have an id is asked in several places: a fragment looks for its first element with
one, the document for the first of all, references look for the element they lead to, a table lists
the ids that are used twice, and the audit reports every use but the first. Each of these could pick
another element when an id is repeated, inside a fragment or across fragments: the tables are filled
by loops of their own, some of which keep all elements with an id and others the first one only.
`merge_idsAgree` says that they do not, and describes each by which element has which id.

The reports are counted. An id with `n` owners gives `n - 1` of them, so together with one for each
id they make up the elements that have one (`length_checkDuplicates`).
-/

namespace AccessAudit

open Text

/-! ## Owners of an id -/

namespace Document

variable {d : Document} {key : Key}

/-- The id of an element. -/
def idOf (d : Document) (key : Key) : Option String := (d.element key).id?

theorem element?_of_mem_keys (h : key ∈ d.keys) : d.element? key = some (d.element key) := by
  obtain ⟨e, he⟩ := mem_keysOf.mp h
  have hat : d.element? key = some e := he
  rw [element, hat]
  rfl

theorem ownersOf_eq (d : Document) (id : String) :
    ownersOf d.fragments id = d.keys.filter fun key => d.idOf key == some id := by
  apply List.filter_congr
  intro key hkey
  have hat : elementAt? d.fragments key = some (d.element key) := element?_of_mem_keys hkey
  rw [hat]
  rfl

theorem elementById?_eq_find? (d : Document) (id : String) :
    d.elementById? id = d.keys.find? fun key => d.idOf key == some id := by
  rw [elementById?_eq_head?, ownersOf_eq, List.head?_filter]

end Document

/-- The owners of an id are listed fragment by fragment. -/
theorem ownersOf_eq_flatMap (fragments : Array Fragment) (id : String) :
    ownersOf fragments id = fragments.toList.zipIdx.flatMap fun entry =>
      (entry.1.withId id).map (⟨entry.2, ·⟩) := by
  unfold ownersOf keysOf
  rw [List.filter_flatMap]
  apply List.flatMap_congr
  rintro ⟨f, place⟩ hentry
  rw [List.mem_zipIdx_iff_getElem?, Array.getElem?_toList] at hentry
  rw [Fragment.withId_eq, List.filter_map]
  congr 1
  apply List.filter_congr
  intro order _
  rw [Function.comp_apply, elementAt?, hentry, Option.bind_some]

theorem head?_ownersOf (fragments : Array Fragment) (id : String) :
    (ownersOf fragments id).head? = fragments.toList.zipIdx.findSome? fun entry =>
      (entry.1.firstWithId? id).map (⟨entry.2, ·⟩) := by
  rw [ownersOf_eq_flatMap, List.head?_flatMap]
  simp only [List.head?_map, Fragment.firstWithId?]

/-! ## Counting -/

section Counting

variable {d : Document}

/-- The ids of the elements in document order, each as often as it is used. -/
def Document.usedIds (d : Document) : List String := d.keys.filterMap d.idOf

theorem length_ownersOf (d : Document) (id : String) :
    (ownersOf d.fragments id).length = d.usedIds.count id := by
  rw [Document.ownersOf_eq, Document.usedIds, List.count_filterMap, List.countP_eq_length_filter]

theorem usedIds_eq (d : Document) :
    d.usedIds = (keysOf d.fragments).filterMap (idAt? d.fragments) := by
  apply List.filterMap_congr
  intro key hkey
  have hat : elementAt? d.fragments key = some (d.element key) :=
    Document.element?_of_mem_keys hkey
  rw [idAt?, hat, Option.bind_some, Document.idOf]

theorem duplicatesOf_eq (d : Document) : duplicatesOf (ownersTable d.fragments) =
    (d.usedIds.eraseDups.map fun id => (id, ownersOf d.fragments id)).filter
      fun entry => 1 < entry.2.length := by
  rw [duplicatesOf_ownersTable, usedIds_eq]

theorem mem_duplicatesOf {id : String} {keys : List Key} :
    (id, keys) ∈ duplicatesOf (ownersTable d.fragments) ↔
      keys = d.keys.filter (fun key => d.idOf key == some id) ∧ 2 ≤ keys.length := by
  rw [duplicatesOf_eq, List.mem_filter, List.mem_map, ← Document.ownersOf_eq]
  constructor
  · rintro ⟨⟨id', -, heq⟩, hlength⟩
    cases heq
    exact ⟨rfl, of_decide_eq_true hlength⟩
  · rintro ⟨rfl, hlength⟩
    refine ⟨⟨id, ?_, rfl⟩, decide_eq_true hlength⟩
    rw [List.mem_eraseDups, ← List.count_pos_iff, ← length_ownersOf]
    omega

theorem nodup_duplicatesOf (d : Document) :
    ((duplicatesOf (ownersTable d.fragments)).map Prod.fst).Nodup := by
  have hids : ((d.usedIds.eraseDups.map fun id => (id, ownersOf d.fragments id)).map
      Prod.fst).Nodup := by
    have hfirst : (Prod.fst ∘ fun id => (id, ownersOf d.fragments id)) = id := rfl
    rw [List.map_map, hfirst, List.map_id]
    exact nodup_eraseDups d.usedIds
  rw [duplicatesOf_eq]
  exact hids.sublist (List.filter_sublist.map _)

theorem allIds_eq (d : Document) : d.allIds = sortTexts d.usedIds := by
  rw [Document.allIds, Document.idTable, Table.keys_firsts, Document.keys, ← usedIds_eq, sortTexts,
    eraseDups_of_nodup (nodup_eraseDups _), sortTexts]

theorem Document.mem_allIds {id : String} :
    id ∈ d.allIds ↔ ∃ key ∈ d.keys, d.idOf key = some id := by
  rw [allIds_eq, mem_sortTexts, Document.usedIds, List.mem_filterMap]

theorem length_allIds (d : Document) : d.allIds.length = d.usedIds.eraseDups.length := by
  rw [allIds_eq, sortTexts, List.length_mergeSort]

/-- What is left out of a sum because it adds nothing. -/
theorem sum_map_filter {α : Type} (g : α → Nat) (p : α → Bool) (l : List α)
    (h : ∀ a ∈ l, p a = false → g a = 0) : ((l.filter p).map g).sum = (l.map g).sum := by
  induction l with
  | nil => rfl
  | cons a rest ih =>
    have hrest := ih fun b hb => h b (List.mem_cons_of_mem a hb)
    cases hp : p a with
    | true => simp [hp, hrest]
    | false => simp [hp, hrest, h a List.mem_cons_self hp]

/-- The uses of all ids are counted once if they are counted id by id. -/
theorem sum_count_usedIds (d : Document) :
    (d.usedIds.eraseDups.map fun id => d.usedIds.count id).sum = d.usedIds.length := by
  have hperm : d.usedIds.eraseDups.Perm d.usedIds.dedup := by
    rw [List.perm_ext_iff_of_nodup (nodup_eraseDups _) (List.nodup_dedup _)]
    intro id
    rw [List.mem_eraseDups, List.mem_dedup]
  rw [(hperm.map _).sum_nat, List.sum_map_count_dedup_eq_length]

/-- One for each id and one for each use but the first are as many as there are uses. -/
theorem sum_spare_usedIds (d : Document) :
    (d.usedIds.eraseDups.map fun id => d.usedIds.count id - 1).sum + d.usedIds.eraseDups.length =
      d.usedIds.length := by
  rw [← sum_count_usedIds]
  have hused : ∀ id ∈ d.usedIds.eraseDups, 0 < d.usedIds.count id := by
    intro id hid
    rw [List.mem_eraseDups] at hid
    exact List.count_pos_iff.mpr hid
  generalize d.usedIds.eraseDups = ids at hused ⊢
  induction ids with
  | nil => rfl
  | cons id rest ih =>
    have hfirst := hused id List.mem_cons_self
    have hrest := ih fun other hother => hused other (List.mem_cons_of_mem id hother)
    simp only [List.map_cons, List.sum_cons, List.length_cons]
    omega

end Counting

/-! ## The document -/

/-- Every use of an id but the first is reported. -/
theorem length_checkDuplicates (d : Document)
    (h : d.duplicateIds = duplicatesOf (ownersTable d.fragments)) :
    (Integrity.checkDuplicates d).length + d.allIds.length = d.usedIds.length := by
  have hreports : (Integrity.checkDuplicates d).length =
      (d.duplicateIds.map fun entry => entry.2.length - 1).sum := by
    unfold Integrity.checkDuplicates
    dsimp only
    rw [List.length_flatMap, ((List.mergeSort_perm d.duplicateIds _).map _).sum_nat]
    congr 1
    apply List.map_congr_left
    rintro ⟨id, owners⟩ -
    cases owners with
    | nil => rfl
    | cons first others => exact List.length_map _
  have hspare : (d.duplicateIds.map fun entry => entry.2.length - 1).sum =
      (d.usedIds.eraseDups.map fun id => d.usedIds.count id - 1).sum := by
    rw [h, duplicatesOf_eq, sum_map_filter, List.map_map]
    · simp only [Function.comp_def, length_ownersOf]
    · intro entry _ hfew
      have : ¬ 1 < entry.2.length := of_decide_eq_false hfew
      omega
  rw [hreports, hspare, length_allIds, sum_spare_usedIds]

/-- All that a document tells about ids says the same about which element has which. -/
structure Document.IdsAgree (d : Document) : Prop where
  ordered : d.keys.Pairwise Key.Before
  first : ∀ id, d.elementById? id = d.keys.find? fun key => d.idOf key == some id
  -- the first fragment in which there is one decides
  firstFragment : ∀ id, d.elementById? id = d.fragments.toList.zipIdx.findSome? fun entry =>
    (entry.1.firstWithId? id).map (⟨entry.2, ·⟩)
  references : d.references = d.keys.flatMap fun key => referenceAttributes.flatMap fun name =>
    (words (d.valueOf key name)).map fun id =>
      { source := key, name, id, target := d.elementById? id }
  crosses : ∀ r ∈ d.references, r.crosses = true ↔
    ∃ key, r.target = some key ∧ key.fragment ≠ r.source.fragment
  duplicates : ∀ id keys, (id, keys) ∈ d.duplicateIds ↔
    keys = d.keys.filter (fun key => d.idOf key == some id) ∧ 2 ≤ keys.length
  duplicatesOnce : (d.duplicateIds.map Prod.fst).Nodup
  allIds : d.allIds.Pairwise (· < ·) ∧ ∀ id, id ∈ d.allIds ↔ ∃ key ∈ d.keys, d.idOf key = some id
  reports : (Integrity.checkDuplicates d).length + d.allIds.length =
    (d.keys.filter fun key => (d.idOf key).isSome).length

theorem referencesAt_eq (d : Document) {key : Key} (h : key ∈ d.keys) :
    referencesAt d.fragments key = referenceAttributes.flatMap fun name =>
      (words (d.valueOf key name)).map fun id =>
        { source := key, name, id, target := d.elementById? id } := by
  have hat : elementAt? d.fragments key = some (d.element key) := Document.element?_of_mem_keys h
  unfold referencesAt
  rw [hat]
  simp only [Document.elementById?_eq_head?]
  rfl

theorem length_usedIds (d : Document) :
    d.usedIds.length = (d.keys.filter fun key => (d.idOf key).isSome).length := by
  rw [Document.usedIds, List.length_filterMap_eq_countP, List.countP_eq_length_filter]

theorem idsAgree_of_tables {d : Document}
    (hreferences : d.references = d.keys.flatMap (referencesAt d.fragments))
    (hduplicates : d.duplicateIds = duplicatesOf (ownersTable d.fragments)) : d.IdsAgree where
  ordered := keysOf_sorted d.fragments
  first := d.elementById?_eq_find?
  firstFragment := by
    intro id
    rw [d.elementById?_eq_head?, head?_ownersOf]
  references := by
    rw [hreferences]
    exact List.flatMap_congr fun key hkey => referencesAt_eq d hkey
  crosses := by
    intro r _
    rw [Reference.crosses, Option.any_eq_true]
    simp only [bne_iff_ne]
  duplicates := by
    intro id keys
    rw [hduplicates]
    exact mem_duplicatesOf
  duplicatesOnce := by
    rw [hduplicates]
    exact nodup_duplicatesOf d
  allIds := ⟨allIds_eq d ▸ sortTexts_sorted _, fun _ => Document.mem_allIds⟩
  reports := by rw [length_checkDuplicates d hduplicates, length_usedIds]

/-- A merged document tells one story about ids, however often they are used. -/
theorem merge_idsAgree (config : Config) (inputs : List FragmentInput) (scripts : List Script)
    (sheets : List StyleSheet) (scope : Json) :
    (merge config inputs scripts sheets scope).IdsAgree :=
  idsAgree_of_tables references_merge duplicateIds_merge

end AccessAudit
