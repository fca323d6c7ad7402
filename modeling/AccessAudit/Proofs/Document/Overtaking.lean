import AccessAudit.Proofs.Document.Actions
import AccessAudit.Proofs.Document.Appending

/-!
# Actions after a fragment is appended

A fragment behind those that are there should not take actions away from their elements. Mostly it
does not: the index of simple selectors lists new elements last, matching looks at one fragment at
a time, and of the elements with an id the first is still the first.

What can go wrong is the choice between the two ways to resolve a selector. A text is looked up in
the index as it stands, and it is only parsed when no element at all has it among its simple
selectors. With a class `note.open` somewhere the text `.note.open` is found, and it is no longer
read as a condition on two classes: the action leaves the elements that have both
(`merge_append_drops`). `overtakes` is the test for that, and `merge_append_actions` says that an
action is taken away from an element exactly when it holds of its selector. It never holds of a
selector that refers to an earlier element if the names in the new fragment are plain.
-/

namespace AccessAudit

open Text Selector

/-- The elements of a fragment that can be referred to by a text. -/
def Fragment.referredBy (f : Fragment) (s : String) : List Nat :=
  f.orders.filter fun order => (f.element? order).any fun e => e.candidateSelectors.contains s

/-- An element of a new fragment can be referred to by a text that no earlier element can. -/
def overtakes (fragments : Array Fragment) (f : Fragment) (s : String) : Bool :=
  ((CandidateIndex.build fragments).lookup s).isEmpty && !(f.referredBy s).isEmpty

/-! ## What a text is resolved to -/

section Resolved

variable {fragments : Array Fragment} {s : String}

/-- The elements that a text refers to when it is parsed. -/
def parsedKeys (fragments : Array Fragment) (s : String) : List Key :=
  match SelectorList.parse s with
  | .error _ => []
  | .ok list =>
    match list.pureId? with
    | some id => ((CandidateIndex.build fragments).lookup ("#" ++ id)).head?.toList
    | none => matchingKeys fragments list

theorem resolvedKeys_empty (hs : s.isEmpty = true) : resolvedKeys fragments s = [] := by
  unfold resolvedKeys resolve
  rw [if_pos hs]
  rfl

theorem resolvedKeys_of_found (hs : s.isEmpty = false) {first : Key} {others : List Key}
    (h : (CandidateIndex.build fragments).lookup s = first :: others) :
    resolvedKeys fragments s = if s.startsWith "#" then [first] else first :: others := by
  unfold resolvedKeys resolve
  rw [if_neg (by simp [hs]), h]
  rfl

theorem resolvedKeys_of_not_found (hs : s.isEmpty = false)
    (h : (CandidateIndex.build fragments).lookup s = []) :
    resolvedKeys fragments s = parsedKeys fragments s := by
  unfold resolvedKeys resolve parsedKeys
  rw [if_neg (by simp [hs]), h]
  dsimp only
  cases SelectorList.parse s with
  | error why => rfl
  | ok list =>
    dsimp only
    cases list.pureId? with
    | some id =>
      dsimp only
      cases (CandidateIndex.build fragments).lookup ("#" ++ id) <;> rfl
    | none =>
      dsimp only
      cases matchingKeys fragments list <;> rfl

end Resolved

/-! ## Keys of a longer list of fragments -/

section Append

variable {fragments : List Fragment} {f : Fragment} {key : Key} {s : String}

/-- The keys of a fragment's elements when it stands behind some others. -/
def keysBehind (fragments : List Fragment) (orders : List Nat) : List Key :=
  orders.map (⟨fragments.length, ·⟩)

theorem not_mem_keysBehind (hkey : key ∈ keysOf fragments.toArray) (orders : List Nat) :
    key ∉ keysBehind fragments orders := by
  intro hnew
  obtain ⟨order, -, rfl⟩ := List.mem_map.mp hnew
  exact absurd (fragment_lt_of_mem_keysOf hkey) (Nat.lt_irrefl _)

/-- The index lists the elements of a new fragment last. -/
theorem lookup_append (fragments : List Fragment) (f : Fragment) (s : String) :
    (CandidateIndex.build (fragments ++ [f]).toArray).lookup s =
      (CandidateIndex.build fragments.toArray).lookup s ++
        keysBehind fragments (f.referredBy s) := by
  rw [lookup_build, lookup_build, keysOf_append, List.filter_append]
  congr 1
  · apply List.filter_congr
    intro key hkey
    rw [elementAt?_append (fragment_lt_of_mem_keysOf hkey)]
  · have hat (order : Nat) : elementAt? (fragments ++ [f]).toArray ⟨fragments.length, order⟩ =
        f.element? order := by
      simp [elementAt?]
    rw [keysBehind, Fragment.referredBy, List.filter_map]
    simp only [Function.comp_def, hat]

theorem mem_matchingKeys_append (hkey : key ∈ keysOf fragments.toArray) (list : SelectorList) :
    key ∈ matchingKeys (fragments ++ [f]).toArray list ↔
      key ∈ matchingKeys fragments.toArray list := by
  rw [mem_matchingKeys, mem_matchingKeys,
    getElem?_append_toArray (fragment_lt_of_mem_keysOf hkey)]

theorem mem_parsedKeys_append (hkey : key ∈ keysOf fragments.toArray) :
    key ∈ parsedKeys (fragments ++ [f]).toArray s ↔ key ∈ parsedKeys fragments.toArray s := by
  unfold parsedKeys
  cases SelectorList.parse s with
  | error why => exact Iff.rfl
  | ok list =>
    dsimp only
    cases list.pureId? with
    | none => exact mem_matchingKeys_append hkey list
    | some id =>
      dsimp only
      rw [lookup_append, List.head?_append]
      cases (CandidateIndex.build fragments.toArray).lookup ("#" ++ id) with
      | cons first others => exact Iff.rfl
      | nil =>
        -- the first element with the id is in the new fragment, if there is one
        have hnew : key ∉ (keysBehind fragments (f.referredBy ("#" ++ id))).head?.toList := by
          intro hhead
          exact not_mem_keysBehind hkey _ (List.mem_of_head? (Option.mem_toList.mp hhead))
        simpa using hnew

/-- A text refers to an earlier element as before, unless it is overtaken. -/
theorem mem_resolvedKeys_append (hkey : key ∈ keysOf fragments.toArray) :
    key ∈ resolvedKeys (fragments ++ [f]).toArray s ↔
      key ∈ resolvedKeys fragments.toArray s ∧ overtakes fragments.toArray f s = false := by
  cases hs : s.isEmpty with
  | true => simp [resolvedKeys_empty hs]
  | false =>
    have hlookup := lookup_append fragments f s
    have hout := not_mem_keysBehind hkey (f.referredBy s)
    unfold overtakes
    cases hold : (CandidateIndex.build fragments.toArray).lookup s with
    | cons first others =>
      rw [hold, List.cons_append] at hlookup
      rw [resolvedKeys_of_found hs hlookup, resolvedKeys_of_found hs hold]
      by_cases hsign : s.startsWith "#" = true
      · simp [hsign]
      · simp [hsign, hout]
    | nil =>
      rw [hold, List.nil_append] at hlookup
      rw [resolvedKeys_of_not_found hs hold]
      cases hnew : f.referredBy s with
      | nil =>
        rw [hnew] at hlookup
        rw [resolvedKeys_of_not_found hs hlookup, mem_parsedKeys_append hkey]
        simp
      | cons order others =>
        rw [hnew] at hlookup hout
        have hfirst : key ≠ ⟨fragments.length, order⟩ :=
          fun heq => hout (heq ▸ List.mem_cons_self)
        rw [resolvedKeys_of_found hs hlookup]
        by_cases hsign : s.startsWith "#" = true
        · simp [hsign, hfirst]
        · simpa [hsign, keysBehind] using hout

/-- A text by which an element with plain names can be referred to means that to the matcher, too:
an earlier element that it refers to has it among its own simple selectors. -/
theorem overtakes_of_plain (hplain : ∀ order e, f.element? order = some e → e.Plain)
    (hkey : key ∈ resolvedKeys fragments.toArray s) : overtakes fragments.toArray f s = false := by
  cases hs : s.isEmpty with
  | true => simp [resolvedKeys_empty hs] at hkey
  | false =>
    rw [← Bool.not_eq_true]
    intro hover
    obtain ⟨hempty, htaken⟩ := Bool.and_eq_true_iff.mp hover
    have hnone : (CandidateIndex.build fragments.toArray).lookup s = [] := by simpa using hempty
    obtain ⟨order, horder⟩ := List.exists_mem_of_ne_nil (f.referredBy s) (by simpa using htaken)
    obtain ⟨other, hother, hs'⟩ := (Option.any_eq_true _ _).mp (List.mem_filter.mp horder).2
    rw [List.contains_iff_mem, Element.candidateSelectors_eq, List.mem_map] at hs'
    obtain ⟨part, hpart, rfl⟩ := hs'
    have hparse := parse_render ((hplain order other hother).handle hpart)
    rw [resolvedKeys_of_not_found hs hnone, parsedKeys, hparse] at hkey
    dsimp only at hkey
    by_cases hid : ∃ value, part = .id value
    · obtain ⟨value, rfl⟩ := hid
      have hlookup : (CandidateIndex.build fragments.toArray).lookup ("#" ++ value) = [] := hnone
      simp [SelectorList.pureId?, hlookup] at hkey
    · rw [pureId?_single fun value heq => hid ⟨value, heq⟩] at hkey
      obtain ⟨f', e, hf, he, hmatch⟩ := mem_matchingKeys.mp hkey
      have hmatches : part.matches f' .every key.order e = true := by
        simpa [SelectorList.matches, anyMatches, Complex.matches, partsMatch, he] using hmatch
      have hown : part ∈ e.handles := (Element.mem_handles_iff_matches hpart).mpr hmatches
      have hfound : key ∈ (CandidateIndex.build fragments.toArray).lookup part.render := by
        rw [lookup_build, List.mem_filter, mem_keysOf]
        have hat : elementAt? fragments.toArray key = some e := by simp [elementAt?, hf, he]
        refine ⟨⟨e, hat⟩, ?_⟩
        rw [hat, Option.any_some, List.contains_iff_mem, Element.candidateSelectors_eq]
        exact List.mem_map_of_mem hown
      rw [hnone] at hfound
      cases hfound

end Append

/-! ## The document -/

/-- Where something was matched already, no selector breaks down over a further fragment. -/
theorem mergeBreakdown?_append {inputs : List FragmentInput} {input : FragmentInput} {f : Fragment}
    {scripts : List Script} {sheets : List StyleSheet}
    (hindex : (indexInputs 0 (inputs ++ [input])).1 = (indexInputs 0 inputs).1 ++ [f])
    (hsome : (indexInputs 0 inputs).1 ≠ [])
    (hnone : mergeBreakdown? inputs scripts sheets = none) :
    mergeBreakdown? (inputs ++ [input]) scripts sheets = none := by
  have huse : mergeUse ((indexInputs 0 inputs).1 ++ [f]).toArray =
      mergeUse (indexInputs 0 inputs).1.toArray := by
    simp [mergeUse, hsome]
  rw [mergeBreakdown?_eq_none_iff, breakdowns_eq_nil_iff] at hnone ⊢
  obtain ⟨hactions, hrules⟩ := hnone
  rw [hindex, huse]
  refine ⟨?_, hrules⟩
  intro entry hentry
  have hfound := hactions entry hentry
  rw [resolveBreakdown?_eq] at hfound ⊢
  rw [lookup_append, huse]
  split
  · next hempty => rwa [if_pos (List.append_eq_nil_iff.mp hempty).1] at hfound
  · rfl

/-- If a further fragment is well formed, an element that was there keeps its actions in order, less
those whose selector is overtaken. None is if the names in the new fragment are plain. The merge
does not break down if it did not without the fragment. -/
theorem merge_append_actions (config : Config) (inputs : List FragmentInput) (input : FragmentInput)
    (f : Fragment) (scripts : List Script) (sheets sheets' : List StyleSheet) (scope scope' : Json)
    (h : input.toFragment (toString inputs.length) = .ok f) :
    let before := merge config inputs scripts sheets scope
    let after := merge config (inputs ++ [input]) scripts sheets' scope'
    (∀ key ∈ before.keys,
      after.actionsFor key = (before.actionsFor key).filter
        (fun a => !overtakes before.fragments f a.selector) ∧
      (after.actionsFor key = before.actionsFor key ↔
        ∀ a ∈ before.actionsFor key, overtakes before.fragments f a.selector = false) ∧
      ((∀ order e, f.element? order = some e → e.Plain) →
        after.actionsFor key = before.actionsFor key)) ∧
    (before.keys ≠ [] → mergeBreakdown? inputs scripts sheets = none →
      mergeBreakdown? (inputs ++ [input]) scripts sheets = none) := by
  intro before after
  have hindex : (indexInputs 0 (inputs ++ [input])).1 = (indexInputs 0 inputs).1 ++ [f] :=
    indexInputs_append inputs 0 (by rwa [Nat.zero_add])
  have hfragments : before.fragments = (indexInputs 0 inputs).1.toArray := fragments_merge
  constructor
  · intro key hkey
    have hold : key ∈ keysOf (indexInputs 0 inputs).1.toArray := hkey
    have hfilter : after.actionsFor key = (before.actionsFor key).filter
        (fun a => !overtakes before.fragments f a.selector) := by
      rw [actionsFor_merge, actionsFor_merge, hindex, hfragments, List.filter_map,
        List.filter_filter]
      congr 1
      apply List.filter_congr
      intro entry _
      have hmem := mem_resolvedKeys_append (f := f) (s := entry.2.selector) hold
      rw [Bool.eq_iff_iff, List.contains_iff_mem, hmem, Bool.and_eq_true_iff, and_comm,
        List.contains_iff_mem]
      simp
    have hiff : after.actionsFor key = before.actionsFor key ↔
        ∀ a ∈ before.actionsFor key, overtakes before.fragments f a.selector = false := by
      rw [hfilter, List.filter_eq_self]
      simp
    refine ⟨hfilter, hiff, fun hplain => hiff.mpr fun a ha => ?_⟩
    rw [actionsFor_merge] at ha
    obtain ⟨entry, hentry, rfl⟩ := List.mem_map.mp ha
    rw [hfragments]
    exact overtakes_of_plain hplain (List.contains_iff_mem.mp (List.mem_filter.mp hentry).2)
  · intro hkeys hnone
    refine mergeBreakdown?_append hindex ?_ hnone
    intro hempty
    apply hkeys
    rw [Document.keys, hfragments, hempty]
    rfl

/-- A paragraph with two classes. -/
def openNote : Element := { tag := "p", attributes := [("class", "note open")] }

/-- A paragraph with one class, which has a dot in it. -/
def dottedNote : Element := { tag := "p", attributes := [("class", "note.open")] }

/-- An action on the elements with two classes. -/
def expandNotes : Action :=
  { element := { selector := some ".note.open" }, deed := .mutate "aria-expanded" (some "true") }

theorem parse_noteOpen : SelectorList.parse ".note.open" =
    .ok [.compound [.className "note", .className "open"]] := by
  have hname : IsName "note".toList ∧ IsName "open".toList := by decide
  have hdot : NameEnds ".open".toList := nameEnds_cons (by decide)
  have hstart : NameEnds ".note.open".toList := nameEnds_cons (by decide)
  refine parse_of_steps 4 (by rintro c ⟨⟩; decide) (by rintro c ⟨⟩; decide) (by decide)
    fun fuel => ?_
  rw [readCompound_of_nameEnds hstart (by decide)]
  show readParts (fuel + 3) [] ((Simple.className "note").render.toList ++ ".open".toList) = _
  rw [readParts_render hdot _ _ (.className "note") hname.1 rfl]
  show readParts (fuel + 2) _ ((Simple.className "open").render.toList ++ []) = _
  rw [readParts_render nameEnds_nil _ _ (.className "open") hname.2 rfl,
    readParts_nil _ (List.cons_ne_nil _ _)]
  rfl

section Notes

variable {f : Fragment}

theorem selector_expandNotes : expandNotes.selector = ".note.open" := by decide

theorem resolvedKeys_openNote (hsize : f.size = 1) (he : f.element? 0 = some openNote) :
    resolvedKeys #[f] ".note.open" = [⟨0, 0⟩] := by
  have hkeys : keysOf #[f] = [⟨0, 0⟩] := keysOf_single hsize
  have hat : elementAt? #[f] ⟨0, 0⟩ = some openNote := he
  have hown : ".note.open" ∉ openNote.candidateSelectors := by decide +kernel
  have hlookup : (CandidateIndex.build #[f]).lookup ".note.open" = [] := by
    simp [lookup_build, hkeys, hat, hown]
  have hclasses : openNote.classes = ["note", "open"] := by decide
  rw [resolvedKeys_of_not_found (by decide) hlookup, parsedKeys, parse_noteOpen]
  simp [SelectorList.pureId?, matchingKeys, hkeys, SelectorList.matches, anyMatches,
    Complex.matches, partsMatch, he, Simple.matches, hclasses]

theorem actionsFor_expandNotes (inputs : List FragmentInput) {keys : List Key}
    (h : resolvedKeys (indexInputs 0 inputs).1.toArray ".note.open" = keys) (key : Key) :
    (merge {} inputs [{ actions := [expandNotes] }] [] .null).actionsFor key =
      if key ∈ keys then [expandNotes] else [] := by
  rw [actionsFor_merge]
  by_cases hkey : key ∈ keys
  · simp [flattenScripts, selector_expandNotes, h, hkey]
  · simp [flattenScripts, selector_expandNotes, h, hkey]

end Notes

/-- A heading behind the note leaves the note its action. -/
theorem merge_append_actions_heading : ∃ f g,
    Fragment.ofGraph (elementPage openNote) "page" = .ok f ∧
    Fragment.ofGraph (elementPage heading) "page" = .ok g ∧
    (merge {} [.indexed f] [{ actions := [expandNotes] }] [] .null).actionsFor ⟨0, 0⟩ =
      [expandNotes] ∧
    (merge {} [.indexed f, .indexed g] [{ actions := [expandNotes] }] [] .null).actionsFor ⟨0, 0⟩ =
      [expandNotes] := by
  obtain ⟨f, hf, hsize, he⟩ := exists_elementPage openNote
  obtain ⟨g, hg, hsize', he'⟩ := exists_elementPage heading
  have hbefore := actionsFor_expandNotes [.indexed f] (resolvedKeys_openNote hsize he) ⟨0, 0⟩
  rw [if_pos (List.mem_singleton_self _)] at hbefore
  have hplain : ∀ order e, g.element? order = some e → e.Plain := by
    intro order e hat
    have hlt : order < g.size := exists_element?_iff.mp ⟨e, hat⟩
    obtain rfl : order = 0 := by omega
    obtain rfl : heading = e := Option.some.inj (he'.symm.trans hat)
    decide +kernel
  obtain ⟨hkept, -⟩ := merge_append_actions {} [.indexed f] (.indexed g) g
    [{ actions := [expandNotes] }] [] [] .null .null rfl
  refine ⟨f, g, hf, hg, hbefore, ?_⟩
  have hkey : (⟨0, 0⟩ : Key) ∈ keysOf #[f] := mem_keysOf.mpr ⟨openNote, he⟩
  exact ((hkept ⟨0, 0⟩ hkey).2.2 hplain).trans hbefore

/-- A class with a dot in another fragment takes the action away from the note. -/
theorem merge_append_drops : ∃ f g,
    Fragment.ofGraph (elementPage openNote) "page" = .ok f ∧
    Fragment.ofGraph (elementPage dottedNote) "page" = .ok g ∧
    (merge {} [.indexed f] [{ actions := [expandNotes] }] [] .null).actionsFor ⟨0, 0⟩ =
      [expandNotes] ∧
    (merge {} [.indexed f, .indexed g] [{ actions := [expandNotes] }] [] .null).actionsFor ⟨0, 0⟩ =
      [] := by
  obtain ⟨f, hf, hsize, he⟩ := exists_elementPage openNote
  obtain ⟨g, hg, hsize', he'⟩ := exists_elementPage dottedNote
  have hbefore := actionsFor_expandNotes [.indexed f] (resolvedKeys_openNote hsize he) ⟨0, 0⟩
  rw [if_pos (List.mem_singleton_self _)] at hbefore
  refine ⟨f, g, hf, hg, hbefore, ?_⟩
  have hkeys : keysOf #[f, g] = [⟨0, 0⟩, ⟨1, 0⟩] := keysOf_pair hsize hsize'
  have hat : elementAt? #[f, g] ⟨0, 0⟩ = some openNote := he
  have hat' : elementAt? #[f, g] ⟨1, 0⟩ = some dottedNote := he'
  have hnone : ".note.open" ∉ openNote.candidateSelectors := by decide +kernel
  have hsome : ".note.open" ∈ dottedNote.candidateSelectors := by decide +kernel
  have hlookup : (CandidateIndex.build #[f, g]).lookup ".note.open" = [⟨1, 0⟩] := by
    simp [lookup_build, hkeys, hat, hat', hnone, hsome]
  have hresolved := resolvedKeys_of_found (by decide) hlookup
  rw [ite_self] at hresolved
  rw [actionsFor_expandNotes [.indexed f, .indexed g] hresolved]
  decide

end AccessAudit
