import AccessAudit.Proofs.Document.Hiding
import Mathlib.Data.List.Sort

/-!
# What an element owns

An element owns what is below it, and whatever its attribute `aria-owns` names, with all that is
below that. The targets are gone through one after the other, and a target that is already there is
passed over together with everything below it. Nothing is lost by that: what has been gathered so
far is made of whole subtrees, since being below is transitive (`Document.descendants_trans`). So it
does not matter whether targets overlap, are named twice, are nested in one another, or are the
element itself or around it.

`Document.Gathered` says what has been gathered after some of the targets, and `owned_exactly` what
that comes to after all of them.
-/

namespace AccessAudit

open Text

/-! ## Above, below and document order -/

instance : Std.Irrefl Key.Before where
  irrefl := by
    intro key h
    unfold Key.Before at h
    omega

instance : Std.Antisymm Key.Before where
  antisymm := by
    intro a b h h'
    unfold Key.Before at h h'
    omega

/-- The fragments of a document come of graphs when the inputs that are fragments do. -/
theorem built_of_mem_merge {config : Config} {inputs : List FragmentInput} {scripts : List Script}
    {sheets : List StyleSheet} {scope : Json}
    (hbuilt : ∀ f, FragmentInput.indexed f ∈ inputs → f.Built) :
    ∀ f ∈ (merge config inputs scripts sheets scope).fragments, f.Built := by
  intro f hf
  rw [fragments_merge, List.mem_toArray] at hf
  exact built_of_mem_indexInputs hbuilt hf

namespace Document

variable {d : Document} {key x y : Key} {f : Fragment} {paths : List Path}

theorem mem_descendants_of_laidOut (hf : d.fragments[key.fragment]? = some f)
    (hlaid : f.LaidOut paths) {order : Nat} :
    ⟨key.fragment, order⟩ ∈ d.descendants key ↔ Path.Below paths key.order order := by
  unfold descendants
  simp [hf, Fragment.mem_descendants, hlaid.isDescendant_iff]

theorem descendants_trans (hbuilt : ∀ f ∈ d.fragments, f.Built) (h : x ∈ d.descendants key)
    (h' : y ∈ d.descendants x) : y ∈ d.descendants key := by
  obtain ⟨f, order, hf, -, rfl⟩ := fragment_of_mem_descendants h
  obtain ⟨-, below, -, -, rfl⟩ := fragment_of_mem_descendants h'
  obtain ⟨paths, hlaid⟩ := (hbuilt f (Array.mem_of_getElem? hf)).laidOut
  have hupper := (mem_descendants_of_laidOut hf hlaid).mp h
  have hlower := (@mem_descendants_of_laidOut d ⟨key.fragment, order⟩ f paths hf hlaid below).mp h'
  exact (mem_descendants_of_laidOut hf hlaid).mpr (hupper.trans hlower)

theorem mem_descendants_iff (hbuilt : ∀ f ∈ d.fragments, f.Built) :
    x ∈ d.descendants key ↔ key ∈ d.ancestors x := by
  constructor
  · exact mem_ancestors_of_mem_descendants hbuilt
  · intro h
    obtain ⟨above, habove, rfl⟩ := List.mem_map.mp h
    cases hf : d.fragments[x.fragment]? with
    | none =>
      rw [hf] at habove
      cases habove
    | some f =>
      rw [hf] at habove
      obtain ⟨paths, hlaid⟩ := (hbuilt f (Array.mem_of_getElem? hf)).laidOut
      have hbelow : Path.Below paths above x.order := hlaid.mem_ancestors.mp habove
      exact (@mem_descendants_of_laidOut d ⟨x.fragment, above⟩ f paths hf hlaid x.order).mpr hbelow

theorem mem_keys_of_mem_descendants (hbuilt : ∀ f ∈ d.fragments, f.Built)
    (h : x ∈ d.descendants key) : x ∈ d.keys := by
  obtain ⟨f, order, hf, -, rfl⟩ := fragment_of_mem_descendants h
  obtain ⟨paths, hlaid⟩ := (hbuilt f (Array.mem_of_getElem? hf)).laidOut
  obtain ⟨_, _, -, -, here⟩ := (mem_descendants_of_laidOut hf hlaid).mp h
  obtain ⟨e, he⟩ := exists_element?_iff.mpr (hlaid.lt_size here)
  exact mem_keysOf.mpr ⟨e, by simp [elementAt?, hf, he]⟩

theorem descendants_sorted (d : Document) (key : Key) :
    (d.descendants key).Pairwise Key.Before := by
  unfold descendants
  refine List.pairwise_map.mpr ?_
  cases d.fragments[key.fragment]? with
  | none => exact List.Pairwise.nil
  | some f =>
    refine List.Pairwise.imp ?_ List.pairwise_lt_range'
    intro a b hlt
    exact .inr ⟨rfl, hlt⟩

/-- The descendants of an element are the elements that have it above them, in document order. -/
theorem descendants_eq_filter (hbuilt : ∀ f ∈ d.fragments, f.Built) (key : Key) :
    d.descendants key = d.keys.filter fun x => (d.ancestors x).contains key := by
  have hkeys : d.keys.Pairwise Key.Before := keysOf_sorted d.fragments
  refine (d.descendants_sorted key).eq_of_mem_iff (hkeys.filter _) ?_
  intro x
  rw [List.mem_filter, List.contains_iff_mem, ← mem_descendants_iff hbuilt]
  exact ⟨fun h => ⟨mem_keys_of_mem_descendants hbuilt h, h⟩, fun h => h.2⟩

/-! ## Gathering -/

/-- An id brings in the element that has it, and all that is below that one. -/
def Brings (d : Document) (id : String) (x : Key) : Prop :=
  ∃ target, d.elementById? id = some target ∧ (x = target ∨ x ∈ d.descendants target)

/-- What has been gathered for an element after some of the ids that it names. -/
structure Gathered (d : Document) (key : Key) (ids : List String) (owned : List Key) : Prop where
  nodup : owned.Nodup
  starts : d.descendants key <+: owned
  mem_iff : ∀ x, x ∈ owned ↔ x ∈ d.descendants key ∨ ∃ id ∈ ids, d.Brings id x

variable {ids : List String} {owned : List Key}

theorem Brings.below {id : String} (hbuilt : ∀ f ∈ d.fragments, f.Built) (h : d.Brings id x)
    (hy : y ∈ d.descendants x) : d.Brings id y := by
  obtain ⟨target, htarget, rfl | hx⟩ := h
  · exact ⟨x, htarget, .inr hy⟩
  · exact ⟨target, htarget, .inr (descendants_trans hbuilt hx hy)⟩

theorem Gathered.closed (hbuilt : ∀ f ∈ d.fragments, f.Built) (h : d.Gathered key ids owned)
    (hx : x ∈ owned) (hy : y ∈ d.descendants x) : y ∈ owned := by
  rw [h.mem_iff] at hx ⊢
  rcases hx with hx | ⟨id, hid, hbrings⟩
  · exact .inl (descendants_trans hbuilt hx hy)
  · exact .inr ⟨id, hid, hbrings.below hbuilt hy⟩

theorem Gathered.start (d : Document) (key : Key) : d.Gathered key [] (d.descendants key) where
  nodup := (d.descendants_sorted key).nodup
  starts := List.prefix_refl _
  mem_iff := by simp

/-- In a list that is closed, a target that is already there has brought in all that it can. -/
theorem Gathered.mem_addOwned_iff (hbuilt : ∀ f ∈ d.fragments, f.Built)
    (h : d.Gathered key ids owned) (id : String) :
    x ∈ d.addOwned owned id ↔ x ∈ owned ∨ d.Brings id x := by
  unfold addOwned Brings
  cases d.elementById? id with
  | none => simp
  | some target =>
    dsimp only
    split
    · rename_i hpresent
      have htarget : target ∈ owned := List.contains_iff_mem.mp hpresent
      simp only [Option.some.injEq, exists_eq_left']
      constructor
      · exact .inl
      · rintro (hx | rfl | hx)
        · exact hx
        · exact htarget
        · exact h.closed hbuilt htarget hx
    · simp only [List.mem_append, List.mem_singleton, List.mem_filter, Bool.not_eq_true',
        List.contains_eq_mem, decide_eq_false_iff_not, Option.some.injEq, exists_eq_left']
      constructor
      · rintro ((hx | rfl) | ⟨hx, -⟩)
        · exact .inl hx
        · exact .inr (.inl rfl)
        · exact .inr (.inr hx)
      · rintro (hx | rfl | hx)
        · exact .inl (.inl hx)
        · exact .inl (.inr rfl)
        · by_cases hmem : x ∈ owned ∨ x = target
          · exact .inl hmem
          · exact .inr ⟨hx, hmem⟩

theorem nodup_addOwned (hnodup : owned.Nodup) (id : String) : (d.addOwned owned id).Nodup := by
  unfold addOwned
  cases d.elementById? id with
  | none => exact hnodup
  | some target =>
    dsimp only
    split
    · exact hnodup
    · rename_i habsent
      have hmore : (owned ++ [target]).Nodup := by
        refine List.nodup_append.mpr ⟨hnodup, List.nodup_singleton target, ?_⟩
        rintro x hx y hy rfl
        exact habsent (List.contains_iff_mem.mpr (List.mem_singleton.mp hy ▸ hx))
      refine List.nodup_append.mpr ⟨hmore, (d.descendants_sorted target).nodup.filter _, ?_⟩
      rintro x hx y hy rfl
      have hfresh := (List.mem_filter.mp hy).2
      rw [List.contains_iff_mem.mpr hx] at hfresh
      cases hfresh

theorem prefix_addOwned (d : Document) (owned : List Key) (id : String) :
    owned <+: d.addOwned owned id := by
  unfold addOwned
  cases d.elementById? id with
  | none => exact List.prefix_refl owned
  | some target =>
    dsimp only
    split
    · exact List.prefix_refl owned
    · rw [List.append_assoc]
      exact List.prefix_append _ _

theorem Gathered.step (hbuilt : ∀ f ∈ d.fragments, f.Built) (h : d.Gathered key ids owned)
    (id : String) : d.Gathered key (ids ++ [id]) (d.addOwned owned id) where
  nodup := nodup_addOwned h.nodup id
  starts := h.starts.trans (d.prefix_addOwned owned id)
  mem_iff := by
    intro x
    rw [h.mem_addOwned_iff hbuilt, h.mem_iff, or_assoc]
    simp only [List.mem_append, List.mem_singleton, or_and_right, exists_or, exists_eq_left]

theorem Gathered.run (hbuilt : ∀ f ∈ d.fragments, f.Built) (h : d.Gathered key ids owned)
    (more : List String) : d.Gathered key (ids ++ more) (more.foldl d.addOwned owned) := by
  induction more generalizing ids owned with
  | nil => simpa using h
  | cons id more ih => simpa using ih (h.step hbuilt id)

theorem gathered_owned (hbuilt : ∀ f ∈ d.fragments, f.Built) (key : Key) :
    d.Gathered key (words (d.valueOf key "aria-owns")) (d.owned key) :=
  (Gathered.start d key).run hbuilt _

end Document

/-- **What an element owns is exact.** In a document whose fragments come of graphs, the list has
nothing twice. It starts with the elements that have the given one above them, in document order.
With an element it has all that is below it. And it is made of these descendants, of the targets
that the words of `aria-owns` find, and of what is below the targets. -/
theorem owned_exactly (config : Config) (inputs : List FragmentInput) (scripts : List Script)
    (sheets : List StyleSheet) (scope : Json)
    (hbuilt : ∀ f, FragmentInput.indexed f ∈ inputs → f.Built) :
    let d := merge config inputs scripts sheets scope
    ∀ key, (d.owned key).Nodup ∧
      d.descendants key = (d.keys.filter fun x => (d.ancestors x).contains key) ∧
      d.descendants key <+: d.owned key ∧
      (∀ x ∈ d.owned key, ∀ y ∈ d.descendants x, y ∈ d.owned key) ∧
      ∀ x, x ∈ d.owned key ↔ x ∈ d.descendants key ∨
        ∃ id ∈ words (d.valueOf key "aria-owns"), ∃ target, d.elementById? id = some target ∧
          (x = target ∨ x ∈ d.descendants target) := by
  intro d key
  have hfragments : ∀ f ∈ d.fragments, f.Built := built_of_mem_merge hbuilt
  have hgathered := Document.gathered_owned hfragments key
  refine ⟨hgathered.nodup, Document.descendants_eq_filter hfragments key, hgathered.starts, ?_,
    hgathered.mem_iff⟩
  intro x hx y hy
  exact hgathered.closed hfragments hx hy

/-! ## A list that owns itself -/

/-- A list that names what is around it, and twice itself. -/
def ringList : Element :=
  { tag := "ul", attributes := [("id", "list"), ("aria-owns", "list outer list")] }

/-- An element around the list. -/
def ringBox : Element := { tag := "div", attributes := [("id", "outer")] }

/-- A page with that list and one item in it. -/
def ringPage : Graph where
  size := 5
  cells := #v[.element ringBox [.node ⟨1, by decide⟩, .node ⟨4, by decide⟩],
    .element ringList [.node ⟨2, by decide⟩], .element { tag := "li" } [.node ⟨3, by decide⟩],
    .text "One", .text "Two"]
  root := .node ⟨0, by decide⟩

theorem owned_exactly_ring : ∃ f, Fragment.ofGraph ringPage "page" = .ok f ∧
    let d := merge {} [.indexed f] [] [] .null
    (d.owned ⟨0, 1⟩).Nodup ∧ [⟨0, 2⟩] <+: d.owned ⟨0, 1⟩ ∧
      ⟨0, 1⟩ ∈ d.owned ⟨0, 1⟩ ∧ ⟨0, 0⟩ ∈ d.owned ⟨0, 1⟩ := by
  have hrun : (ringPage.index "page").toOption.map (fun f => (f.size, f.element? 0, f.element? 1,
      f.element? 2, f.descendants 1)) = some (3, some ringBox, some ringList,
        some { tag := "li" }, [2]) := by cbv
  obtain ⟨f, hf, hview⟩ := Fragment.exists_of_index (by decide) hrun
  simp only [Prod.mk.injEq] at hview
  obtain ⟨hsize, h0, h1, h2, hbelow⟩ := hview
  have hbuilt : ∀ g, FragmentInput.indexed g ∈ [.indexed f] → g.Built := by
    intro g hg
    cases List.mem_singleton.mp hg
    exact ⟨ringPage, "page", hf⟩
  refine ⟨f, hf, ?_⟩
  intro d
  obtain ⟨hnodup, -, hstarts, -, hmem⟩ := owned_exactly {} [.indexed f] [] [] .null hbuilt ⟨0, 1⟩
  have hdescendants : d.descendants ⟨0, 1⟩ = [⟨0, 2⟩] := by
    show (f.descendants 1).map _ = _
    rw [hbelow]
    rfl
  have hkeys : d.keys = [⟨0, 0⟩, ⟨0, 1⟩, ⟨0, 2⟩] := by
    rw [keys_single, Fragment.orders, hsize]
    rfl
  have hwords : words (d.valueOf ⟨0, 1⟩ "aria-owns") = ["list", "outer", "list"] := by
    rw [Document.valueOf, element_single h1]
    rfl
  have hfind : d.elementById? "list" = some ⟨0, 1⟩ ∧ d.elementById? "outer" = some ⟨0, 0⟩ := by
    rw [Document.elementById?_eq_find?, Document.elementById?_eq_find?, hkeys]
    simp only [List.find?_cons, Document.idOf, d, element_single h0, element_single h1,
      element_single h2]
    exact ⟨rfl, rfl⟩
  refine ⟨hnodup, hdescendants ▸ hstarts, ?_, ?_⟩
  · exact (hmem ⟨0, 1⟩).mpr (.inr ⟨"list", hwords ▸ by decide, _, hfind.1, .inl rfl⟩)
  · exact (hmem ⟨0, 0⟩).mpr (.inr ⟨"outer", hwords ▸ by decide, _, hfind.2, .inl rfl⟩)

end AccessAudit
