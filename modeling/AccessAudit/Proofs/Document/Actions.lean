import AccessAudit.Proofs.Document.Candidates
import AccessAudit.Proofs.Document.Slots

/-!
# Where the actions go

The merge goes through the actions one by one. It resolves the selector of each. An action whose
selector is resolved to no element becomes an orphan; any other is attached, by its place in the
sequence of all actions, to each element that its selector is resolved to. `merge_accounts` says that
this loses and doubles nothing.

A step keeps the invariant `ActionPass.Attached`: what has been gone through is kept in order, and is
accounted for in the orphans or in the table of what is attached. Two facts carry it over a step.
`resolve` answers with an error, or with some elements of the document, at least one, in document
order and each once (`resolve_ok`): all ways to resolve a selector only ever pick from the keys of the
document, so neither a repeated class nor a repeated id makes an element come up twice. And a run
over different elements adds to each of them once (`Slots.actions_foldl_addAction`).
-/

namespace AccessAudit

open Text Selector

variable {fragments : Array Fragment} {key : Key} {s : String}

/-! ## What a selector is resolved to -/

theorem lookup_sublist (s : String) :
    ((CandidateIndex.build fragments).lookup s).Sublist (keysOf fragments) := by
  rw [lookup_build]
  exact List.filter_sublist

/-- A selector that is resolved is resolved to elements of the document, in document order. -/
theorem resolve_ok {keys : List Key}
    (h : resolve fragments (CandidateIndex.build fragments) s = .ok keys) :
    keys ≠ [] ∧ keys.Sublist (keysOf fragments) := by
  have hfirst {text : String} {first : Key} {others : List Key}
      (hlookup : (CandidateIndex.build fragments).lookup text = first :: others) :
      [first].Sublist (keysOf fragments) :=
    ((List.nil_sublist others).cons_cons first).trans (hlookup ▸ lookup_sublist text)
  unfold resolve at h
  by_cases hempty : s.isEmpty = true
  · rw [if_pos hempty] at h
    cases h
  rw [if_neg hempty] at h
  cases hlookup : (CandidateIndex.build fragments).lookup s with
  | cons first others =>
    rw [hlookup] at h
    cases h
    by_cases hid : s.startsWith "#" = true
    · rw [if_pos hid]
      exact ⟨List.cons_ne_nil _ _, hfirst hlookup⟩
    · rw [if_neg hid]
      exact ⟨List.cons_ne_nil _ _, hlookup ▸ lookup_sublist s⟩
  | nil =>
    rw [hlookup] at h
    cases hparse : SelectorList.parse s with
    | error why =>
      rw [hparse] at h
      cases h
    | ok list =>
      rw [hparse] at h
      dsimp only at h
      cases hid : list.pureId? with
      | some value =>
        rw [hid] at h
        dsimp only at h
        cases howners : (CandidateIndex.build fragments).lookup ("#" ++ value) with
        | nil =>
          rw [howners] at h
          cases h
        | cons first others =>
          rw [howners] at h
          cases h
          exact ⟨List.cons_ne_nil _ _, hfirst howners⟩
      | none =>
        rw [hid] at h
        dsimp only at h
        cases hfound : matchingKeys fragments list with
        | nil =>
          rw [hfound] at h
          cases h
        | cons first others =>
          rw [hfound] at h
          cases h
          exact ⟨List.cons_ne_nil _ _, hfound ▸ List.filter_sublist⟩

/-- The elements that a selector is resolved to; none when it is not resolved. -/
def resolvedKeys (fragments : Array Fragment) (s : String) : List Key :=
  (resolve fragments (CandidateIndex.build fragments) s).toOption.getD []

theorem resolvedKeys_sublist (fragments : Array Fragment) (s : String) :
    (resolvedKeys fragments s).Sublist (keysOf fragments) := by
  unfold resolvedKeys
  cases h : resolve fragments (CandidateIndex.build fragments) s with
  | error why => exact List.nil_sublist _
  | ok keys => exact (resolve_ok h).2

theorem resolvedKeys_sorted (fragments : Array Fragment) (s : String) :
    (resolvedKeys fragments s).Pairwise Key.Before :=
  (keysOf_sorted fragments).sublist (resolvedKeys_sublist fragments s)

/-! ## Places in a sequence -/

section Places

variable {α β : Type} {l : List α} {p : α → Bool} {place : Nat}

/-- The places of the items that satisfy a condition. -/
def placesWhere (p : α → Bool) (l : List α) : List Nat :=
  (l.zipIdx.filter fun entry => p entry.1).map Prod.snd

theorem placesWhere_sorted (p : α → Bool) (l : List α) :
    (placesWhere p l).Pairwise (· < ·) := by
  have hplaces : (l.zipIdx.map Prod.snd).Pairwise (· < ·) := by
    rw [List.zipIdx_map_snd]
    exact List.pairwise_lt_range'
  exact hplaces.sublist (List.filter_sublist.map _)

theorem mem_placesWhere : place ∈ placesWhere p l ↔ ∃ a, l[place]? = some a ∧ p a = true := by
  unfold placesWhere
  constructor
  · intro h
    obtain ⟨⟨a, i⟩, hentry, rfl⟩ := List.mem_map.mp h
    obtain ⟨hmem, hp⟩ := List.mem_filter.mp hentry
    exact ⟨a, List.mk_mem_zipIdx_iff_getElem?.mp hmem, hp⟩
  · rintro ⟨a, ha, hp⟩
    refine List.mem_map.mpr ⟨(a, place), List.mem_filter.mpr ⟨?_, hp⟩, rfl⟩
    exact List.mk_mem_zipIdx_iff_getElem?.mpr ha

theorem placesWhere_concat (p : α → Bool) (l : List α) (a : α) :
    placesWhere p (l ++ [a]) = placesWhere p l ++ if p a then [l.length] else [] := by
  unfold placesWhere
  rw [List.zipIdx_append, List.filter_append, List.map_append]
  by_cases h : p a = true
  · simp [h]
  · simp [h]

/-- The items at the places of those that satisfy a condition are those items, in order. -/
theorem filterMap_placesWhere (p : α → Bool) (l : List α) :
    (placesWhere p l).filterMap (l[·]?) = l.filter p := by
  have hback : ∀ entry ∈ l.zipIdx.filter (fun entry => p entry.1),
      ((l[·]?) ∘ Prod.snd) entry = (some ∘ Prod.fst) entry := by
    intro entry hentry
    exact List.mem_zipIdx_iff_getElem?.mp (List.mem_of_mem_filter hentry)
  calc (placesWhere p l).filterMap (l[·]?)
      = (l.zipIdx.filter fun entry => p entry.1).filterMap ((l[·]?) ∘ Prod.snd) :=
        List.filterMap_map
    _ = (l.zipIdx.filter fun entry => p entry.1).filterMap (some ∘ Prod.fst) :=
        List.filterMap_congr hback
    _ = (l.zipIdx.filter fun entry => p entry.1).map Prod.fst := by rw [List.filterMap_eq_map]
    _ = (l.zipIdx.map Prod.fst).filter p := List.filter_map.symm
    _ = l.filter p := by rw [List.zipIdx_map_fst]

end Places

/-! ## The sequence of all actions -/

/-- The name of a script's source. -/
def Script.sourceAt (script : Script) (place : Nat) : String :=
  if script.source.isEmpty then "behavior-" ++ toString place else script.source

theorem flattenScripts_eq (scripts : List Script) : flattenScripts scripts =
    scripts.zipIdx.flatMap fun entry => entry.1.actions.map (entry.1.sourceAt entry.2, ·) := rfl

/-! ## Going through the actions -/

/-- The orphan that an action at a place becomes if its selector is not resolved. -/
def orphanAt? (fragments : Array Fragment) (entry : (String × Action) × Nat) :
    Option OrphanAction :=
  match resolve fragments (CandidateIndex.build fragments) entry.1.2.selector with
  | .error why => some ⟨entry.2, entry.1.1, entry.1.2, why.message⟩
  | .ok _ => none

/-- What going through some actions has led to: each is kept, and has become an orphan or is attached
to the elements that its selector is resolved to. -/
structure ActionPass.Attached (fragments : Array Fragment) (entries : List (String × Action))
    (pass : ActionPass) : Prop where
  actions : pass.actions.toList = entries
  orphans : pass.orphans = entries.zipIdx.filterMap (orphanAt? fragments)
  noted : ∀ key, (pass.slots.on key).actions = placesWhere
    (fun entry => (resolvedKeys fragments entry.2.selector).contains key) entries

theorem ActionPass.Attached.step {entries : List (String × Action)} {pass : ActionPass}
    (h : pass.Attached fragments entries) (entry : String × Action) :
    (pass.step fragments (CandidateIndex.build fragments) entry).Attached fragments
      (entries ++ [entry]) := by
  have hsize : pass.actions.size = entries.length := by rw [← h.actions, Array.length_toList]
  have horphans : (entries ++ [entry]).zipIdx.filterMap (orphanAt? fragments) =
      pass.orphans ++ (orphanAt? fragments (entry, pass.actions.size)).toList := by
    rw [List.zipIdx_append, List.filterMap_append, ← h.orphans, hsize]
    cases horphan : orphanAt? fragments (entry, entries.length) with
    | none => simp [horphan]
    | some orphan => simp [horphan]
  have hnoted (key : Key) : placesWhere (fun entry =>
      (resolvedKeys fragments entry.2.selector).contains key) (entries ++ [entry]) =
        (pass.slots.on key).actions ++ if key ∈ resolvedKeys fragments entry.2.selector
          then [pass.actions.size] else [] := by
    rw [placesWhere_concat, h.noted key, hsize]
    simp only [List.contains_iff_mem]
  have hkept : (pass.actions.push entry).toList = entries ++ [entry] := by
    rw [Array.toList_push, h.actions]
  unfold ActionPass.step
  cases hresolve : resolve fragments (CandidateIndex.build fragments) entry.2.selector with
  | ok keys =>
    have hkeys : resolvedKeys fragments entry.2.selector = keys := by
      rw [resolvedKeys, hresolve]
      rfl
    have hnodup : keys.Nodup :=
      (nodup_keysOf fragments).sublist (hkeys ▸ resolvedKeys_sublist fragments _)
    refine ⟨hkept, ?_, fun key => ?_⟩
    · rw [horphans, orphanAt?, hresolve]
      exact (List.append_nil _).symm
    · rw [hnoted key, hkeys]
      exact Slots.actions_foldl_addAction hnodup _ _
  | error why =>
    refine ⟨hkept, ?_, fun key => ?_⟩
    · rw [horphans, orphanAt?, hresolve]
      rfl
    · rw [hnoted key, resolvedKeys, hresolve]
      exact (List.append_nil _).symm

theorem attached_attached (fragments : Array Fragment) (entries : List (String × Action)) :
    (attached fragments entries).Attached fragments entries := by
  induction entries using List.reverseRecOn with
  | nil => exact ⟨rfl, rfl, fun _ => rfl⟩
  | append_singleton entries entry ih =>
    rw [attached, List.foldl_concat]
    exact ih.step entry

/-! ## The actions of a merged document -/

section Merge

variable (config : Config) (inputs : List FragmentInput) (scripts : List Script)
  (sheets : List StyleSheet) (scope : Json)

theorem actions_merge :
    (merge config inputs scripts sheets scope).actions.toList = flattenScripts scripts :=
  (attached_attached (indexInputs 0 inputs).1.toArray (flattenScripts scripts)).actions

theorem orphanActions_merge :
    (merge config inputs scripts sheets scope).orphanActions =
      (flattenScripts scripts).zipIdx.filterMap
        (orphanAt? (indexInputs 0 inputs).1.toArray) :=
  (attached_attached (indexInputs 0 inputs).1.toArray (flattenScripts scripts)).orphans

/-- The actions attached to an element are those whose selector is resolved to it. -/
theorem noted_merge (key : Key) :
    (merge config inputs scripts sheets scope).noted key =
      placesWhere (fun entry => (resolvedKeys (indexInputs 0 inputs).1.toArray
        entry.2.selector).contains key) (flattenScripts scripts) := by
  have hattached := attached_attached (indexInputs 0 inputs).1.toArray (flattenScripts scripts)
  rw [← hattached.noted key]
  exact actions_styled _ _ (flattenSheets sheets) key

theorem actionsFor_merge (key : Key) :
    (merge config inputs scripts sheets scope).actionsFor key =
      ((flattenScripts scripts).filter fun entry => (resolvedKeys (indexInputs 0 inputs).1.toArray
        entry.2.selector).contains key).map Prod.snd := by
  unfold Document.actionsFor
  show ((merge config inputs scripts sheets scope).noted key).filterMap _ = _
  rw [noted_merge, ← filterMap_placesWhere, List.map_filterMap]
  apply List.filterMap_congr
  intro place _
  rw [Document.actionAt?, ← Array.getElem?_toList, actions_merge]

theorem place_orphanAt? (fragments : Array Fragment) (entry : (String × Action) × Nat) :
    (orphanAt? fragments entry).map OrphanAction.place =
      if (resolvedKeys fragments entry.1.2.selector).isEmpty then some entry.2 else none := by
  unfold orphanAt? resolvedKeys
  cases h : resolve fragments (CandidateIndex.build fragments) entry.1.2.selector with
  | error why => rfl
  | ok keys => simp [Except.toOption, (resolve_ok h).1]

theorem orphanPlaces_merge :
    (merge config inputs scripts sheets scope).orphanActions.map OrphanAction.place =
      placesWhere (fun entry => (resolvedKeys (indexInputs 0 inputs).1.toArray
        entry.2.selector).isEmpty) (flattenScripts scripts) := by
  rw [orphanActions_merge, List.map_filterMap]
  unfold placesWhere
  rw [← List.filterMap_eq_map, List.filterMap_filter]
  exact List.filterMap_congr fun entry _ => place_orphanAt? _ entry

theorem mem_orphanActions_merge {o : OrphanAction}
    (h : o ∈ (merge config inputs scripts sheets scope).orphanActions) :
    (flattenScripts scripts)[o.place]? = some (o.source, o.action) := by
  rw [orphanActions_merge] at h
  obtain ⟨⟨⟨source, action⟩, place⟩, hentry, ho⟩ := List.mem_filterMap.mp h
  unfold orphanAt? at ho
  split at ho
  · cases ho
    exact List.mem_zipIdx_iff_getElem?.mp hentry
  · cases ho

end Merge

/-- A document accounts for a sequence of actions: each is recorded as an orphan, or noted at the
elements that its selector is resolved to, of which there is at least one. -/
structure Document.Accounts (d : Document) (sequence : List (String × Action)) : Prop where
  actions : d.actions.toList = sequence
  resolvedOnce : ∀ s, (resolvedKeys d.fragments s).Pairwise Key.Before
  orphansOnce : (d.orphanActions.map OrphanAction.place).Pairwise (· < ·)
  orphan : ∀ o ∈ d.orphanActions, sequence[o.place]? = some (o.source, o.action)
  orphanOrNoted : ∀ place < sequence.length,
    place ∈ d.orphanActions.map OrphanAction.place ↔
      ¬ ∃ key ∈ d.keys, place ∈ d.noted key
  notedOnce : ∀ key, (d.noted key).Pairwise (· < ·)
  noted : ∀ key place, place ∈ d.noted key ↔ ∃ entry : String × Action,
    sequence[place]? = some entry ∧ key ∈ resolvedKeys d.fragments entry.2.selector
  actionsFor : ∀ key, d.actionsFor key = (sequence.filter fun entry =>
    (resolvedKeys d.fragments entry.2.selector).contains key).map Prod.snd

/-- The merge neither loses nor doubles an action. -/
theorem merge_accounts (config : Config) (inputs : List FragmentInput) (scripts : List Script)
    (sheets : List StyleSheet) (scope : Json) :
    (merge config inputs scripts sheets scope).Accounts (flattenScripts scripts) := by
  have hnoted (key : Key) (place : Nat) :
      place ∈ (merge config inputs scripts sheets scope).noted key ↔
        ∃ entry : String × Action, (flattenScripts scripts)[place]? = some entry ∧
          key ∈ resolvedKeys (indexInputs 0 inputs).1.toArray entry.2.selector := by
    simp only [noted_merge, mem_placesWhere, List.contains_iff_mem]
  refine ⟨?_, resolvedKeys_sorted _, ?_, ?_, ?_, ?_, hnoted, ?_⟩
  · exact actions_merge config inputs scripts sheets scope
  · rw [orphanPlaces_merge]
    exact placesWhere_sorted _ _
  · intro o ho
    exact mem_orphanActions_merge config inputs scripts sheets scope ho
  · intro place hplace
    have hentry : (flattenScripts scripts)[place]? = some (flattenScripts scripts)[place] :=
      List.getElem?_eq_getElem hplace
    rw [orphanPlaces_merge, mem_placesWhere]
    simp only [hnoted, hentry, Option.some.injEq, exists_eq_left', List.isEmpty_iff]
    constructor
    · rintro hnone ⟨key, -, hkey⟩
      rw [hnone] at hkey
      cases hkey
    · intro hnowhere
      apply List.eq_nil_iff_forall_not_mem.mpr
      intro key hkey
      exact hnowhere ⟨key, (resolvedKeys_sublist _ _).subset hkey, hkey⟩
  · intro key
    rw [noted_merge]
    exact placesWhere_sorted _ _
  · intro key
    exact actionsFor_merge config inputs scripts sheets scope key

end AccessAudit
