import AccessAudit.Proofs.Audit.Suggestion
import AccessAudit.Proofs.Document.Overtaking

/-!
# Retargeting an action

For an action on an id that does not exist, the fix names another selector: a number sign and the
closest known id. That text need not be a selector at all. An id may have blanks, dots, quotes or
colons in it, and the parser would take them for something else or refuse them. What makes the fix
work is that a selector is looked up as a text before it is parsed, and every id of the document is
among the texts that are looked up.

`retarget_attaches` says so: the merge with the selector of that action replaced succeeds, and the
action is noted at one element and is no orphan. Of the other texts by which elements are referred
to, only tags could begin with a number sign. If no tag does, the element is the one with the
suggested id.
-/

namespace AccessAudit

open Text Selector

/-! ## Another selector for an action -/

/-- The action with another selector. -/
def Action.retarget (a : Action) (selector : String) : Action :=
  { a with element := { a.element with selector := some selector } }

/-- The scripts with another selector for the action at a place, where the places go on from script
to script. -/
def retargetAt (selector : String) : Nat → List Script → List Script
  | _, [] => []
  | place, script :: rest =>
    if place < script.actions.length then
      { script with actions := script.actions.modify place (·.retarget selector) } :: rest
    else script :: retargetAt selector (place - script.actions.length) rest

section Sequence

variable {α β : Type}

theorem modify_append (l l' : List α) (place : Nat) (f : α → α) : (l ++ l').modify place f =
    if place < l.length then l.modify place f ++ l' else l ++ l'.modify (place - l.length) f := by
  induction l generalizing place with
  | nil => simp
  | cons a rest ih =>
    cases place with
    | zero => simp
    | succ place =>
      simp only [List.cons_append, List.modify_succ_cons, ih, List.length_cons,
        Nat.add_lt_add_iff_right, Nat.add_sub_add_right]
      split
      · rfl
      · rfl

theorem map_modify (f : α → α) (g : α → β) (f' : β → β) (h : ∀ a, g (f a) = f' (g a)) (l : List α)
    (place : Nat) : (l.modify place f).map g = (l.map g).modify place f' := by
  induction l generalizing place with
  | nil => simp
  | cons a rest ih =>
    cases place with
    | zero => simp [h]
    | succ place => simp [ih]

theorem mem_modify {l : List α} {place : Nat} {f : α → α} {a : α} (h : a ∈ l.modify place f) :
    a ∈ l ∨ ∃ b ∈ l, a = f b := by
  obtain ⟨i, hi⟩ := List.mem_iff_getElem?.mp h
  rw [List.getElem?_modify] at hi
  obtain ⟨b, hb, rfl⟩ := Option.map_eq_some_iff.mp hi
  have hmem : b ∈ l := List.mem_of_getElem? hb
  split
  · exact .inr ⟨b, hmem, rfl⟩
  · exact .inl hmem

end Sequence

/-- Stated for scripts that are numbered from any number on, which is what the induction needs. -/
theorem flatMap_retargetAt (selector : String) (scripts : List Script) (number place : Nat) :
    ((retargetAt selector place scripts).zipIdx number).flatMap
        (fun entry => entry.1.actions.map (entry.1.sourceAt entry.2, ·)) =
      ((scripts.zipIdx number).flatMap
        fun entry => entry.1.actions.map (entry.1.sourceAt entry.2, ·)).modify place
          fun entry => (entry.1, entry.2.retarget selector) := by
  induction scripts generalizing number place with
  | nil => simp [retargetAt]
  | cons script rest ih =>
    rw [retargetAt, List.zipIdx_cons, List.flatMap_cons, modify_append, List.length_map]
    by_cases h : place < script.actions.length
    · rw [if_pos h, if_pos h, List.zipIdx_cons, List.flatMap_cons]
      congr 1
      exact map_modify (·.retarget selector) (script.sourceAt number, ·)
        (fun entry => (entry.1, entry.2.retarget selector)) (fun _ => rfl) script.actions place
    · rw [if_neg h, if_neg h, List.zipIdx_cons, List.flatMap_cons, ih]

theorem flattenScripts_retargetAt (selector : String) (place : Nat) (scripts : List Script) :
    flattenScripts (retargetAt selector place scripts) =
      (flattenScripts scripts).modify place fun entry => (entry.1, entry.2.retarget selector) :=
  flatMap_retargetAt selector scripts 0 place

/-! ## Looking up a number sign and an id -/

section Lookup

variable {fragments : Array Fragment} {key : Key} {e : Element} {id : String}

/-- Nothing is cut off a number sign and an id. -/
theorem selector_retarget (a : Action) (hid : e.id? = some id) :
    (a.retarget ("#" ++ id)).selector = "#" ++ id := by
  obtain ⟨hne, htrim⟩ := Element.id?_spec hid
  have hchars : ("#" ++ id).toList = '#' :: id.toList := by simp
  have hfirst : ∀ c ∈ ('#' :: id.toList).head?, isBlank c = false := by
    intro c hc
    cases hc
    decide
  have hlast : ∀ c ∈ ('#' :: id.toList).getLast?, isBlank c = false := by
    intro c hc
    have hnil : id.toList ≠ [] := by simpa using hne
    rw [List.getLast?_cons_of_ne_nil hnil, ← htrim] at hc
    exact isBlank_getLast_trim c hc
  have hstrip : strip ("#" ++ id) = "#" ++ id := by
    rw [strip, hchars, trim_eq_self hfirst hlast, ← hchars, String.ofList_toList]
  have hsome : ("#" ++ id).isEmpty = false := by simp
  simp only [Action.selector, Action.retarget, ElementReference.effectiveSelector, Option.map_some,
    hstrip, hsome, Bool.false_eq_true, if_false]

theorem mem_lookup_id (he : elementAt? fragments key = some e) (hid : e.id? = some id) :
    key ∈ (CandidateIndex.build fragments).lookup ("#" ++ id) := by
  have hown : "#" ++ id ∈ e.candidateSelectors := by
    rw [Element.candidateSelectors_eq]
    exact List.mem_map.mpr ⟨.id id, Element.id_mem_handles.mpr hid, rfl⟩
  rw [lookup_build, List.mem_filter, mem_keysOf]
  exact ⟨⟨e, he⟩, by simp [he, hown]⟩

theorem startsWith_sign (id : String) : ("#" ++ id).startsWith "#" = true := by
  simp [String.startsWith_string_iff]

/-- A number sign and an id of the document are resolved to one element. -/
theorem resolvedKeys_sign (he : elementAt? fragments key = some e) (hid : e.id? = some id) :
    ∃ first ∈ keysOf fragments, resolvedKeys fragments ("#" ++ id) = [first] ∧
      ((∀ key e, elementAt? fragments key = some e → e.tag.startsWith "#" = false) →
        (ownersOf fragments id).head? = some first) := by
  have hmem := mem_lookup_id he hid
  cases hlookup : (CandidateIndex.build fragments).lookup ("#" ++ id) with
  | nil =>
    rw [hlookup] at hmem
    cases hmem
  | cons first others =>
    have hfirst : first ∈ keysOf fragments :=
      (lookup_sublist ("#" ++ id)).subset (hlookup ▸ List.mem_cons_self)
    refine ⟨first, hfirst, ?_, ?_⟩
    · rw [resolvedKeys_of_found (by simp) hlookup, if_pos (startsWith_sign id)]
    · intro htags
      rw [← lookup_sign htags, hlookup]
      rfl

end Lookup

/-! ## The merge -/

section Merge

variable {config : Config} {inputs : List FragmentInput} {scripts : List Script}
  {sheets : List StyleSheet} {scope : Json}

/-- A selector that is found where it is looked up breaks nothing down. -/
theorem breakdowns_retargetAt {selector : String} (place : Nat)
    (hselector : ∀ a : Action, (a.retarget selector).selector = selector)
    (hfound : (CandidateIndex.build (indexInputs 0 inputs).1.toArray).lookup selector ≠ [])
    (h : breakdowns inputs scripts sheets = []) :
    breakdowns inputs (retargetAt selector place scripts) sheets = [] := by
  rw [breakdowns_eq_nil_iff] at h ⊢
  obtain ⟨hactions, hrules⟩ := h
  refine ⟨?_, hrules⟩
  intro entry hentry
  rw [flattenScripts_retargetAt] at hentry
  rcases mem_modify hentry with hold | ⟨before, -, rfl⟩
  · exact hactions entry hold
  · rw [hselector, resolveBreakdown?_eq, if_neg hfound]

/-- What the merge does with an action whose selector is replaced by one for an element. -/
theorem noted_retargetAt (config : Config) (sheets : List StyleSheet) (scope : Json)
    {selector : String} {place : Nat} {entry : String × Action} {first : Key}
    (hentry : (flattenScripts scripts)[place]? = some entry)
    (hselector : (entry.2.retarget selector).selector = selector)
    (hfirst : resolvedKeys (indexInputs 0 inputs).1.toArray selector = [first]) :
    let d := merge config inputs (retargetAt selector place scripts) sheets scope
    d.actions.toList =
      (flattenScripts scripts).set place (entry.1, entry.2.retarget selector) ∧
    place ∉ d.orphanActions.map OrphanAction.place ∧
    ∀ other, place ∈ d.noted other ↔ other = first := by
  have hat : (flattenScripts (retargetAt selector place scripts))[place]? =
      some (entry.1, entry.2.retarget selector) := by
    rw [flattenScripts_retargetAt, List.getElem?_modify_eq, hentry]
    rfl
  refine ⟨?_, ?_, ?_⟩
  · rw [actions_merge, flattenScripts_retargetAt, List.modify_eq_set_getElem?, hentry]
    rfl
  · rw [orphanPlaces_merge, mem_placesWhere, hat]
    simp [hselector, hfirst]
  · intro other
    rw [noted_merge, mem_placesWhere, hat]
    simp [hselector, hfirst]

end Merge

/-! ## The fix -/

namespace Integrity

theorem fix_of_checkOrphan {d : Document} {context : AnalysisContext} {o : OrphanAction}
    {finding : Finding} {fix : Fix} (h : checkOrphan d context o = some finding)
    (hfix : finding.fix = some fix) : ∃ missing best, suggestion? d context missing = some best ∧
      fix.value = some best ∧ fix.selector = some ("#" ++ best) := by
  obtain ⟨missing, -, rfl⟩ := Option.map_eq_some_iff.mp h
  obtain ⟨best, hbest, rfl⟩ := Option.map_eq_some_iff.mp hfix
  exact ⟨missing, best, hbest, rfl, rfl⟩

/-- With the selector that the fix names, the merge succeeds as it did before, and the action is
noted at one element and is no orphan. If no tag begins with a number sign, that element is the
first one with the suggested id. -/
theorem retarget_attaches {config : Config} {inputs : List FragmentInput} {scripts : List Script}
    {sheets : List StyleSheet} {scope : Json} {d : Document}
    (hd : assemble config inputs scripts sheets scope = .ok d) (context : AnalysisContext) :
    checkOrphans d context = d.orphanActions.filterMap (checkOrphan d context) ∧
    ∀ o ∈ d.orphanActions, ∀ finding, checkOrphan d context o = some finding →
      ∀ fix, finding.fix = some fix → ∃ id key d',
        fix.value = some id ∧ fix.selector = some ("#" ++ id) ∧
        d.elementById? id = some key ∧
        assemble config inputs (retargetAt ("#" ++ id) o.place scripts) sheets scope = .ok d' ∧
        d'.fragments = d.fragments ∧
        d'.actions.toList =
          d.actions.toList.set o.place (o.source, o.action.retarget ("#" ++ id)) ∧
        o.place ∉ d'.orphanActions.map OrphanAction.place ∧
        (∃ first ∈ d'.keys, ∀ other, o.place ∈ d'.noted other ↔ other = first) ∧
        ((∀ other ∈ d.keys, (d.element other).tag.startsWith "#" = false) →
          ∀ other, o.place ∈ d'.noted other ↔ other = key) := by
  obtain ⟨hnone, rfl⟩ := assemble_eq_ok.mp hd
  refine ⟨rfl, ?_⟩
  intro o ho finding hfinding fix hfix
  obtain ⟨missing, id, hbest, hvalue, hselector⟩ := fix_of_checkOrphan hfinding hfix
  obtain ⟨-, key, hkey, hfind, hid⟩ := suggestion?_spec hbest
  have he := Document.element?_of_mem_keys hkey
  obtain ⟨first, hfirst, hresolved, hsame⟩ := resolvedKeys_sign he hid
  have hfound := List.ne_nil_of_mem (mem_lookup_id he hid)
  obtain ⟨hactions, horphan, hnoted⟩ := noted_retargetAt config sheets scope
    (mem_orphanActions_merge config inputs scripts sheets scope ho)
    (selector_retarget o.action hid) hresolved
  refine ⟨id, key, _, hvalue, hselector, hfind, assemble_eq_ok.mpr ⟨?_, rfl⟩, rfl, ?_,
    horphan, ⟨first, hfirst, hnoted⟩, ?_⟩
  · exact breakdowns_retargetAt o.place (fun a => selector_retarget a hid) hfound hnone
  · rw [hactions, actions_merge]
  · intro htags
    have hhead : (ownersOf (indexInputs 0 inputs).1.toArray id).head? = some first := by
      apply hsame
      intro other e he
      have hother : other ∈ (merge config inputs scripts sheets scope).keys :=
        mem_keysOf.mpr ⟨e, he⟩
      obtain rfl := Option.some.inj (he.symm.trans (Document.element?_of_mem_keys hother))
      exact htags other hother
    rw [Document.elementById?_eq_head?, fragments_merge] at hfind
    obtain rfl : first = key := Option.some.inj (hhead.symm.trans hfind)
    exact hnoted

/-- A button with an id that is no name. -/
def saveButton : Element := { tag := "button", attributes := [("id", "save: all")] }

/-- An action on an id that is written a little differently. -/
def pressSave : Action :=
  { element := { selector := some "#saveall" }, deed := .handle "click" none }

theorem selector_pressSave : pressSave.selector = "#saveall" := by decide

theorem parse_saveall : SelectorList.parse "#saveall" = .ok [.compound [.id "saveall"]] := by
  have hplain : (Simple.id "saveall").Plain := show IsName "saveall".toList by decide
  have htext : (Simple.id "saveall").render = "#saveall" := by decide
  rw [← htext]
  exact parse_render hplain

section SaveButton

variable {f : Fragment}

theorem resolve_saveall (hsize : f.size = 1) (he : f.element? 0 = some saveButton) :
    resolve #[f] (CandidateIndex.build #[f]) "#saveall" = .error (.noId "saveall") := by
  have hat : elementAt? #[f] ⟨0, 0⟩ = some saveButton := he
  have hown : "#saveall" ∉ saveButton.candidateSelectors := by decide +kernel
  have hlookup : (CandidateIndex.build #[f]).lookup "#saveall" = [] := by
    simp [lookup_build, keysOf_single hsize, hat, hown]
  unfold resolve
  rw [if_neg (by decide), hlookup, parse_saveall]
  simp [SelectorList.pureId?, hlookup]

theorem suggestion?_saveall (scripts : List Script) (hsize : f.size = 1)
    (he : f.element? 0 = some saveButton) :
    suggestion? (merge {} [.indexed f] scripts [] .null) {} "saveall" = some "save: all" := by
  have hid : saveButton.id? = some "save: all" := by decide +kernel
  refine suggestion?_of_idOf ?_ (by decide) (by decide +kernel)
  simp [keys_single, Fragment.orders, hsize, Document.idOf, element_single he, hid]

theorem assemble_saveButton (scripts : List Script)
    (h : ∀ entry ∈ flattenScripts scripts, entry.2.selector = "#saveall") :
    assemble {} [.indexed f] scripts [] .null = .ok (merge {} [.indexed f] scripts [] .null) := by
  have hfine (use : Use) : breakdown? use "#saveall" = none := by
    rw [breakdown?, parse_saveall]
    cases use
    all_goals decide
  refine assemble_eq_ok.mpr ⟨breakdowns_eq_nil_iff.mpr ⟨fun entry hentry => ?_, ?_⟩, rfl⟩
  · rw [h entry hentry, resolveBreakdown?_eq, hfine, ite_self]
  · intro entry hentry
    cases hentry

/-- The fix for an orphan that this action becomes. -/
theorem fix_pressSave (scripts : List Script) (place : Nat) (source reason : String)
    (hsize : f.size = 1) (he : f.element? 0 = some saveButton) :
    ∃ finding fix, checkOrphan (merge {} [.indexed f] scripts [] .null) {}
      ⟨place, source, pressSave, reason⟩ = some finding ∧ finding.fix = some fix ∧
        fix.value = some "save: all" := by
  have hselected : selectedId? pressSave.selector = some "saveall" := by
    rw [selector_pressSave, selectedId?, parse_saveall]
    rfl
  simp only [checkOrphan, hselected, Option.map_some, suggestion?_saveall scripts hsize he]
  exact ⟨_, _, rfl, rfl, rfl⟩

end SaveButton

/-- The same action in two scripts. The second one is led to the button. -/
theorem retarget_attaches_second : ∃ f d d',
    Fragment.ofGraph (elementPage saveButton) "page" = .ok f ∧
    assemble {} [.indexed f] [⟨"menu.js", [pressSave]⟩, ⟨"dialog.js", [pressSave]⟩] [] .null =
      .ok d ∧
    d.orphanActions.map OrphanAction.place = [0, 1] ∧
    assemble {} [.indexed f] [⟨"menu.js", [pressSave]⟩,
      ⟨"dialog.js", [pressSave.retarget "#save: all"]⟩] [] .null = .ok d' ∧
    1 ∉ d'.orphanActions.map OrphanAction.place ∧
    ∀ key, 1 ∈ d'.noted key ↔ key = ⟨0, 0⟩ := by
  obtain ⟨f, hf, hsize, he⟩ := exists_elementPage saveButton
  have hd := assemble_saveButton (f := f) [⟨"menu.js", [pressSave]⟩, ⟨"dialog.js", [pressSave]⟩]
    (by simp [flattenScripts, selector_pressSave])
  have hfragments : (indexInputs 0 [.indexed f]).1.toArray = #[f] := rfl
  have horphans : (merge {} [.indexed f] [⟨"menu.js", [pressSave]⟩, ⟨"dialog.js", [pressSave]⟩] []
      .null).orphanActions = [⟨0, "menu.js", pressSave, (Unresolved.noId "saveall").message⟩,
        ⟨1, "dialog.js", pressSave, (Unresolved.noId "saveall").message⟩] := by
    rw [orphanActions_merge, hfragments]
    simp [flattenScripts, orphanAt?, selector_pressSave, resolve_saveall hsize he]
  obtain ⟨finding, fix, hfinding, hfix, hvalue⟩ := fix_pressSave _ 1 "dialog.js" _ hsize he
  obtain ⟨-, hfixes⟩ := retarget_attaches hd {}
  obtain ⟨id, key, d', hid, -, hkey, hd', -, -, horphan, -, hnoted⟩ := hfixes
    ⟨1, "dialog.js", pressSave, (Unresolved.noId "saveall").message⟩ (by rw [horphans]; simp)
    finding hfinding fix hfix
  obtain rfl := Option.some.inj (hvalue.symm.trans hid)
  have hkeys : (merge {} [.indexed f] [⟨"menu.js", [pressSave]⟩, ⟨"dialog.js", [pressSave]⟩] []
      .null).keys = [⟨0, 0⟩] := keysOf_single hsize
  have hfirst : key = ⟨0, 0⟩ := by
    obtain ⟨hmem, -⟩ := Document.id?_of_elementById? hkey
    rw [hkeys] at hmem
    exact List.mem_singleton.mp hmem
  refine ⟨f, _, d', hf, hd, by rw [horphans]; rfl, hd', horphan, ?_⟩
  rw [← hfirst]
  apply hnoted
  intro other hother
  rw [hkeys] at hother
  rw [List.mem_singleton.mp hother, element_single he]
  simp [saveButton]

end Integrity

end AccessAudit
