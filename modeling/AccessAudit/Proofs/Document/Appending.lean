import AccessAudit.Proofs.Document.Dependence

/-!
# Appending a fragment

A document grows by fragments behind those that are there. Nothing changes for the latter
(`merge_append`): their elements keep their keys, the matches recorded for them with the orders
these have, their computed styles and what hides them; an id that refers to an element goes on
referring to it; and so do references. Only a reference that led nowhere may lead into the new
fragment now, and then it crosses fragments.

All of this comes from two views of the fragments: keys are listed fragment by fragment, so those of
the new one come last, and the style attributes are counted in the same order.
-/

namespace AccessAudit

/-! ## Fragments and keys -/

theorem indexInputs_append {input : FragmentInput} {f : Fragment} (inputs : List FragmentInput)
    (place : Nat) (h : input.toFragment (toString (place + inputs.length)) = .ok f) :
    (indexInputs place (inputs ++ [input])).1 = (indexInputs place inputs).1 ++ [f] := by
  induction inputs generalizing place with
  | nil =>
    rw [List.length_nil, Nat.add_zero] at h
    simp only [List.nil_append, indexInputs, h]
  | cons first rest ih =>
    have hrest := ih (place + 1) (by rwa [List.length_cons, Nat.add_comm rest.length,
      ← Nat.add_assoc] at h)
    rw [List.cons_append, indexInputs, indexInputs]
    dsimp only
    cases first.toFragment (toString place) with
    | ok f' => exact congrArg (f' :: ·) hrest
    | error why => exact hrest

section Append

variable {fragments : List Fragment} {f : Fragment} {key : Key}

theorem keysOf_append : keysOf (fragments ++ [f]).toArray =
    keysOf fragments.toArray ++ f.orders.map (⟨fragments.length, ·⟩) := by
  simp [keysOf, List.zipIdx_append]

theorem fragment_lt_of_mem_keysOf (h : key ∈ keysOf fragments.toArray) :
    key.fragment < fragments.length := by
  obtain ⟨e, he⟩ := mem_keysOf.mp h
  obtain ⟨f, hf, -⟩ := Option.bind_eq_some_iff.mp he
  rw [List.getElem?_toArray] at hf
  exact (List.getElem?_eq_some_iff.mp hf).1

theorem getElem?_append_toArray (h : key.fragment < fragments.length) :
    (fragments ++ [f]).toArray[key.fragment]? = fragments.toArray[key.fragment]? := by
  rw [List.getElem?_toArray, List.getElem?_toArray, List.getElem?_append_left h]

theorem elementAt?_append (h : key.fragment < fragments.length) :
    elementAt? (fragments ++ [f]).toArray key = elementAt? fragments.toArray key := by
  rw [elementAt?, elementAt?, getElem?_append_toArray h]

/-- The owners of an id in a new fragment come last. -/
theorem ownersOf_append (fragments : List Fragment) (f : Fragment) (id : String) :
    ∃ added : List Key,
      ownersOf (fragments ++ [f]).toArray id = ownersOf fragments.toArray id ++ added ∧
      ∀ key ∈ added, key.fragment = fragments.length ∧ key ∈ keysOf (fragments ++ [f]).toArray := by
  have hold : (keysOf fragments.toArray).filter (fun key =>
      (elementAt? (fragments ++ [f]).toArray key).any fun e => e.id? == some id) =
        ownersOf fragments.toArray id := by
    refine List.filter_congr fun key hkey => ?_
    rw [elementAt?_append (fragment_lt_of_mem_keysOf hkey)]
  refine ⟨(f.orders.map (⟨fragments.length, ·⟩)).filter (fun key =>
      (elementAt? (fragments ++ [f]).toArray key).any fun e => e.id? == some id), ?_, ?_⟩
  · rw [ownersOf, keysOf_append, List.filter_append, hold]
  · intro key hkey
    have hmem := List.mem_of_mem_filter hkey
    obtain ⟨order, -, rfl⟩ := List.mem_map.mp hmem
    refine ⟨rfl, ?_⟩
    rw [keysOf_append]
    exact List.mem_append_right _ hmem

/-- An id keeps its first owner; one without may get one in the new fragment. -/
theorem head?_ownersOf_append (fragments : List Fragment) (f : Fragment) (id : String) :
    (∀ key, (ownersOf fragments.toArray id).head? = some key →
      (ownersOf (fragments ++ [f]).toArray id).head? = some key) ∧
    ((ownersOf fragments.toArray id).head? = none →
      ∀ key, (ownersOf (fragments ++ [f]).toArray id).head? = some key →
        key.fragment = fragments.length ∧ key ∈ keysOf (fragments ++ [f]).toArray) := by
  obtain ⟨added, hadded, hnew⟩ := ownersOf_append fragments f id
  rw [hadded, List.head?_append]
  constructor
  · intro key hkey
    rw [hkey, Option.some_or]
  · intro hnone key hkey
    rw [hnone, Option.none_or] at hkey
    exact hnew key (List.mem_of_head? hkey)

/-! ## Styles -/

theorem inlinePlace_append (hkey : key ∈ keysOf fragments.toArray) :
    inlinePlace (fragments ++ [f]).toArray key = inlinePlace fragments.toArray key := by
  unfold inlinePlace
  rw [keysOf_append, keysBefore_append hkey]
  refine List.countP_congr fun other hother => ?_
  have hmem : other ∈ keysOf fragments.toArray := (List.takeWhile_sublist _).subset hother
  rw [hasInline, hasInline, elementAt?_append (fragment_lt_of_mem_keysOf hmem)]

theorem recordedStyles_append (h : key.fragment < fragments.length) (rules : List Rule) :
    recordedStyles (fragments ++ [f]) rules key = recordedStyles fragments rules key := by
  unfold recordedStyles
  rw [List.getElem?_append_left h]
  cases hf : fragments[key.fragment]? with
  | none => rfl
  | some own =>
    cases he : own.element? key.order with
    | none => simp [he]
    | some e =>
      have hkey : key ∈ keysOf fragments.toArray := by
        refine mem_keysOf.mpr ⟨e, ?_⟩
        rw [elementAt?, List.getElem?_toArray, hf, Option.bind_some, he]
      rw [inlinePlace_append hkey]

end Append

/-! ## References -/

/-- What becomes of a reference when a fragment is appended: it keeps the element it leads to, and
if it led nowhere, an element that it leads to now is in that fragment. -/
structure Reference.Carried (fragment : Nat) (keys : List Key) (r r' : Reference) : Prop where
  source : r'.source = r.source
  name : r'.name = r.name
  id : r'.id = r.id
  resolved : ∀ key, r.target = some key → r'.target = some key ∧ r'.crosses = r.crosses
  unresolved : r.target = none → ∀ key, r'.target = some key →
    key.fragment = fragment ∧ key ∈ keys ∧ r'.crosses = true

section References

variable {fragments : List Fragment} {f : Fragment} {key : Key}

theorem Reference.carried_append (hkey : key ∈ keysOf fragments.toArray) (name id : String) :
    Reference.Carried fragments.length (keysOf (fragments ++ [f]).toArray)
      { source := key, name, id, target := (ownersOf fragments.toArray id).head? }
      { source := key, name, id, target := (ownersOf (fragments ++ [f]).toArray id).head? } := by
  obtain ⟨hkeeps, hfinds⟩ := head?_ownersOf_append fragments f id
  refine ⟨rfl, rfl, rfl, fun target htarget => ?_, fun hnone target htarget => ?_⟩
  · refine ⟨hkeeps target htarget, ?_⟩
    show Option.any _ _ = Option.any _ _
    rw [hkeeps target htarget, htarget]
  · obtain ⟨hfragment, hmem⟩ := hfinds hnone target htarget
    refine ⟨hfragment, hmem, ?_⟩
    -- the source is in an earlier fragment
    have hlt := fragment_lt_of_mem_keysOf hkey
    show Option.any _ _ = true
    rw [htarget]
    simp [hfragment]
    omega

theorem referencesAt_append (hkey : key ∈ keysOf fragments.toArray) :
    List.Forall₂ (Reference.Carried fragments.length (keysOf (fragments ++ [f]).toArray))
      (referencesAt fragments.toArray key) (referencesAt (fragments ++ [f]).toArray key) := by
  unfold referencesAt
  rw [elementAt?_append (fragment_lt_of_mem_keysOf hkey)]
  refine List.rel_flatMap (R := Eq) (List.forall₂_eq_eq_eq ▸ rfl) ?_
  rintro name _ rfl
  rw [List.forall₂_map_left_iff, List.forall₂_map_right_iff, List.forall₂_same]
  exact fun id _ => Reference.carried_append hkey name id

theorem target_of_mem_referencesAt {fragments : Array Fragment} {r : Reference}
    (h : r ∈ referencesAt fragments key) :
    r.source = key ∧ r.target = (ownersOf fragments r.id).head? := by
  obtain ⟨name, -, hr⟩ := List.mem_flatMap.mp h
  obtain ⟨id, -, rfl⟩ := List.mem_map.mp hr
  exact ⟨rfl, rfl⟩

theorem references_append (fragments : List Fragment) (f : Fragment) : ∃ kept added,
    (keysOf (fragments ++ [f]).toArray).flatMap (referencesAt (fragments ++ [f]).toArray) =
      kept ++ added ∧
    List.Forall₂ (Reference.Carried fragments.length (keysOf (fragments ++ [f]).toArray))
      ((keysOf fragments.toArray).flatMap (referencesAt fragments.toArray)) kept ∧
    ∀ r ∈ added, r.source.fragment = fragments.length := by
  refine ⟨(keysOf fragments.toArray).flatMap (referencesAt (fragments ++ [f]).toArray),
    (f.orders.map (⟨fragments.length, ·⟩)).flatMap (referencesAt (fragments ++ [f]).toArray),
    ?_, ?_, ?_⟩
  · rw [← List.flatMap_append, ← keysOf_append]
  · refine List.rel_flatMap (R := fun key key' => key = key' ∧ key ∈ keysOf fragments.toArray) ?_ ?_
    · exact List.forall₂_same.mpr fun key hkey => ⟨rfl, hkey⟩
    · rintro key _ ⟨rfl, hkey⟩
      exact referencesAt_append hkey
  · intro r hr
    obtain ⟨key, hkey, hr⟩ := List.mem_flatMap.mp hr
    obtain ⟨order, -, rfl⟩ := List.mem_map.mp hkey
    rw [(target_of_mem_referencesAt hr).1]

end References

/-! ## The document -/

/-- If a further fragment is well formed, it is appended to those of the document, and with the same
style sheets every element that was there keeps its matches, its computed style and what hides it.
An id goes on referring to the element it refers to. The references of earlier elements come first,
each carried on from what it was, and then those of the new fragment. -/
theorem merge_append (config : Config) (inputs : List FragmentInput) (input : FragmentInput)
    (f : Fragment) (scripts scripts' : List Script) (sheets : List StyleSheet) (scope scope' : Json)
    (h : input.toFragment (toString inputs.length) = .ok f) :
    let before := merge config inputs scripts sheets scope
    let after := merge config (inputs ++ [input]) scripts' sheets scope'
    after.fragments = before.fragments.push f ∧
    (∀ key ∈ before.keys, key ∈ after.keys ∧ after.stylesFor key = before.stylesFor key ∧
      ∀ held, after.computedStyle key held = before.computedStyle key held ∧
        after.hiddenReason? key held = before.hiddenReason? key held) ∧
    (∀ id key, before.elementById? id = some key → after.elementById? id = some key) ∧
    ∃ kept added, after.references = kept ++ added ∧
      List.Forall₂ (Reference.Carried before.fragments.size after.keys) before.references kept ∧
      ∀ r ∈ added, r.source.fragment = before.fragments.size := by
  intro before after
  have hindex : (indexInputs 0 (inputs ++ [input])).1 = (indexInputs 0 inputs).1 ++ [f] :=
    indexInputs_append inputs 0 (by rwa [Nat.zero_add])
  have hafter : after.fragments = ((indexInputs 0 inputs).1 ++ [f]).toArray := by
    rw [fragments_merge, hindex]
  have hbefore : before.fragments = (indexInputs 0 inputs).1.toArray := fragments_merge
  have hstyles (key : Key) (hkey : key.fragment < (indexInputs 0 inputs).1.length) :
      after.stylesFor key = before.stylesFor key := by
    rw [stylesFor_merge_eq, stylesFor_merge_eq, hindex, recordedStyles_append hkey]
  have hstyle (key : Key) (hkey : key.fragment < (indexInputs 0 inputs).1.length)
      (held : List String) : after.computedStyle key held = before.computedStyle key held :=
    congrArg (cascade · held) (hstyles key hkey)
  refine ⟨?_, fun key hkey => ?_, fun id key hkey => ?_, ?_⟩
  · rw [hafter, hbefore, List.push_toArray]
  · have hlt : key.fragment < (indexInputs 0 inputs).1.length := fragment_lt_of_mem_keysOf hkey
    refine ⟨?_, hstyles key hlt, fun held => ⟨hstyle key hlt held, ?_⟩⟩
    · rw [Document.keys, hafter, keysOf_append]
      exact List.mem_append_left _ hkey
    · refine Document.hiddenReason?_congr ?_ ?_ fun order => hstyle ⟨key.fragment, order⟩ hlt held
      · rw [opacityThreshold_merge, opacityThreshold_merge]
      · rw [hafter, hbefore, getElem?_append_toArray hlt]
  · rw [Document.elementById?_eq_head?, hbefore] at hkey
    rw [Document.elementById?_eq_head?, hafter]
    exact (head?_ownersOf_append _ f id).1 key hkey
  · rw [references_merge, references_merge, Document.keys, hafter, hbefore]
    exact references_append _ f

/-- A paragraph that refers to its title. -/
def titledParagraph : Element := { tag := "p", attributes := [("aria-labelledby", "title")] }

/-- A heading with an id. -/
def heading : Element := { tag := "h1", attributes := [("id", "title")] }

theorem referencesAt_titledParagraph {fragments : Array Fragment} {key : Key}
    (h : elementAt? fragments key = some titledParagraph) : referencesAt fragments key =
      [⟨key, "aria-labelledby", "title", (ownersOf fragments "title").head?⟩] := by
  have hids : referenceAttributes.map
      (fun name => (name, Text.words (titledParagraph.valueOf name))) =
      [("aria-labelledby", ["title"]), ("aria-describedby", []), ("aria-controls", []),
        ("aria-owns", []), ("aria-activedescendant", [])] := by decide
  have hlisted : referencesAt fragments key =
      (referenceAttributes.map fun name =>
        (name, Text.words (titledParagraph.valueOf name))).flatMap fun entry =>
        entry.2.map fun id => ⟨key, entry.1, id, (ownersOf fragments id).head?⟩ := by
    unfold referencesAt
    rw [h, List.flatMap_map]
    rfl
  rw [hlisted, hids]
  rfl

section Title

variable {f g : Fragment} (hsize : f.size = 1) (hsize' : g.size = 1)
  (he : f.element? 0 = some titledParagraph) (he' : g.element? 0 = some heading)
include hsize hsize' he he'

theorem ownersOf_title : ownersOf #[f, g] "title" = [⟨1, 0⟩] := by
  have hat : elementAt? #[f, g] ⟨0, 0⟩ = some titledParagraph := he
  have htitle : elementAt? #[f, g] ⟨1, 0⟩ = some heading := he'
  have hnone : (titledParagraph.id? == some "title") = false := by decide
  have hsome : (heading.id? == some "title") = true := by decide
  simp [ownersOf, keysOf_pair hsize hsize', hat, htitle, hnone, hsome]

/-- The reference of the paragraph leads from one fragment to the other. -/
theorem any_crosses_title (config : Config) (scripts : List Script) (sheets : List StyleSheet)
    (scope : Json) : (merge config [.indexed f, .indexed g] scripts sheets scope).references.any
      Reference.crosses = true := by
  have hat : elementAt? #[f, g] ⟨0, 0⟩ = some titledParagraph := he
  have hreference : ⟨⟨0, 0⟩, "aria-labelledby", "title", (ownersOf #[f, g] "title").head?⟩ ∈
      referencesAt #[f, g] ⟨0, 0⟩ := mem_referencesAt hat (by decide) (by decide)
  rw [ownersOf_title hsize hsize' he he'] at hreference
  rw [references_merge, List.any_eq_true]
  exact ⟨_, List.mem_flatMap.mpr ⟨_, mem_keysOf.mpr ⟨_, hat⟩, hreference⟩, rfl⟩

end Title

/-- The title is in a fragment of its own. When it is appended, the paragraph keeps its matches, and
its reference leads to the title. -/
theorem merge_append_title : ∃ f g, Fragment.ofGraph (elementPage titledParagraph) "page" = .ok f ∧
    Fragment.ofGraph (elementPage heading) "page" = .ok g ∧
    let before := merge {} [.indexed f] [] [{ rules := [plainRule] }] .null
    let after := merge {} [.indexed f, .indexed g] [] [{ rules := [plainRule] }] .null
    after.stylesFor ⟨0, 0⟩ = before.stylesFor ⟨0, 0⟩ ∧
      (∃ r ∈ before.references, r.source = ⟨0, 0⟩ ∧ r.target = none) ∧
      ∃ r ∈ after.references, r.source = ⟨0, 0⟩ ∧ r.target = some ⟨1, 0⟩ ∧ r.crosses = true := by
  obtain ⟨f, hf, hsize, he⟩ := exists_elementPage titledParagraph
  obtain ⟨g, hg, hsize', he'⟩ := exists_elementPage heading
  refine ⟨f, g, hf, hg, ?_⟩
  intro before after
  have hat : elementAt? #[f] ⟨0, 0⟩ = some titledParagraph := he
  have hnone : (titledParagraph.id? == some "title") = false := by decide
  have hkeys : keysOf #[f] = [⟨0, 0⟩] := keysOf_single hsize
  have howner : ownersOf #[f] "title" = [] := by
    simp [ownersOf, hkeys, hat, hnone]
  have hreferences : before.references = [⟨⟨0, 0⟩, "aria-labelledby", "title", none⟩] := by
    rw [references_merge, fragments_merge]
    show (keysOf #[f]).flatMap (referencesAt #[f]) = _
    rw [hkeys, List.flatMap_singleton, referencesAt_titledParagraph hat, howner]
    rfl
  obtain ⟨-, hold, -, kept, added, hafter, hkept, -⟩ :=
    merge_append {} [.indexed f] (.indexed g) g [] [] [{ rules := [plainRule] }] .null .null rfl
  have hkey : (⟨0, 0⟩ : Key) ∈ before.keys := by
    show _ ∈ keysOf #[f]
    rw [hkeys]
    exact List.mem_singleton_self _
  refine ⟨(hold ⟨0, 0⟩ hkey).2.1, ⟨_, hreferences ▸ List.mem_singleton_self _, rfl, rfl⟩, ?_⟩
  rw [show (merge {} [.indexed f] [] [{ rules := [plainRule] }] .null).references = _
    from hreferences] at hkept
  cases hkept with
  | @cons _ r _ _ hcarried hrest =>
    have hr : r ∈ after.references := hafter ▸ List.mem_append_left _ List.mem_cons_self
    obtain ⟨key, -, hof⟩ := List.mem_flatMap.mp (references_merge ▸ hr)
    have htarget : r.target = some ⟨1, 0⟩ := by
      rw [(target_of_mem_referencesAt hof).2, hcarried.id]
      exact congrArg List.head? (ownersOf_title hsize hsize' he he')
    exact ⟨r, hr, hcarried.source, htarget, (hcarried.unresolved rfl ⟨1, 0⟩ htarget).2.2⟩

end AccessAudit
