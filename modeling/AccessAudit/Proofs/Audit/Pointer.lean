import AccessAudit.Audit.Conflict
import AccessAudit.Proofs.Audit.Checks
import AccessAudit.Proofs.Document.Markup
import AccessAudit.Proofs.Document.Overtaking
import AccessAudit.Proofs.Style.Cascade

/-!
# Handlers for the pointer alone

An element that handles the pointer but not the keyboard is reported, wherever its handlers are
declared. Which elements these are is said here over the actions of all scripts together, without
regard to their order and to the scripts they are in (`PointerOnly`).

`filter_analyze` says what the reports are: one for each such element, in document order. So
reports for the same actions in another order, or in other scripts, are about the same elements in
the same order, and they say the same, except that the places of the handlers may be listed in
another order (`analyze_perm`).
-/

namespace AccessAudit

theorem Action.isSome_event? {a : Action} {events : List String}
    (h : a.event?.any events.contains = true) : a.event?.isSome = true := by
  cases ha : a.event? with
  | none =>
    rw [ha] at h
    cases h
  | some event => rfl

namespace Conflict

/-! ## Which elements -/

/-- Of some actions, at least one handles the pointer at an element and none handles the keyboard
there, and the element does not do that by itself. -/
def PointerOnly (d : Document) (actions : List Action) (key : Key) : Prop :=
  (∃ a ∈ actions, a.isClick = true ∧ key ∈ resolvedKeys d.fragments a.selector) ∧
    (∀ a ∈ actions, a.isKeyboard = true → key ∉ resolvedKeys d.fragments a.selector) ∧
    (d.element key).isNativelyKeyboardActivated = false

instance (d : Document) (actions : List Action) (key : Key) :
    Decidable (PointerOnly d actions key) :=
  inferInstanceAs (Decidable (_ ∧ _ ∧ _))

theorem PointerOnly.congr {d d' : Document} {actions actions' : List Action} {key : Key}
    (hmarkup : d'.markup = d.markup) (hactions : actions.Perm actions') :
    PointerOnly d' actions' key ↔ PointerOnly d actions key := by
  have hfragments := Document.eq_of_markup Document.fragments_markup hmarkup
  have helement := Document.eq_of_markup Document.element_markup hmarkup
  simp only [PointerOnly, hfragments, helement, hactions.mem_iff]

/-! ## What is reported -/

/-- Whether an issue is about an element that handles the pointer alone. -/
def isPointerIssue (i : Issue) : Bool := i.kind == mouseOnlyKind

/-- The handlers of an element for the pointer. -/
def clicks (d : Document) (key : Key) : List Action := (handlers d key).filter Action.isClick

/-- The finding about an element that handles the pointer alone. -/
def pointerFinding (d : Document) (key : Key) : Finding :=
  { kind := mouseOnlyKind
    message := (d.element key).describe ++ " has a " ++ events (clicks d key) ++
      " handler but no keydown, keyup or keypress handler in any analyzed fragment"
    criteria := ["2.1.1"]
    spot := d.spotOf key
    fix := some {
      description := "Handle Enter and Space in a keydown listener"
      snippet := some keyHandlerSnippet }
    related := ((clicks d key).filter (·.location.isSome)).map (·.spot "") }

/-- The issue about an element that handles the pointer alone. -/
def pointerIssue (d : Document) (context : AnalysisContext) (key : Key) : Issue :=
  (pointerFinding d key).issue analyzerName context

section Element

variable {d : Document} {key : Key} {c : ElementContext}

theorem checkMouseOnly_eq (d : Document) (c : ElementContext) :
    checkMouseOnly d c =
      if c.clickHandler && !c.keyboardHandler && !(d.element c.key).isNativelyKeyboardActivated
      then [pointerFinding d c.key] else [] := rfl

/-- The context of an element can be had when its role can be looked up. -/
theorem exists_context_iff :
    (∃ c, d.context key = .ok c) ↔ ∃ role, d.roleOf key = .ok role := by
  unfold Document.context
  constructor
  · rintro ⟨c, h⟩
    obtain ⟨role, hrole, -⟩ := ok_of_bind h
    exact ⟨role, hrole⟩
  · rintro ⟨role, hrole⟩
    rw [hrole]
    exact ⟨_, rfl⟩

theorem context_cases (h : d.context key = .ok c) : c.key = key ∧
    c.clickHandler = (handlers d key).any Action.isClick ∧
    c.keyboardHandler = (handlers d key).any Action.isKeyboard := by
  unfold Document.context at h
  obtain ⟨role, -, h⟩ := ok_of_bind h
  obtain rfl := Except.ok.inj h
  exact ⟨rfl, rfl, rfl⟩

theorem any_handlers {config : Config} {inputs : List FragmentInput} {scripts : List Script}
    {sheets : List StyleSheet} {scope : Json} {test : Action → Bool}
    (htest : ∀ a, test a = true → a.event?.isSome = true) :
    (handlers (merge config inputs scripts sheets scope) key).any test = true ↔
      ∃ a ∈ scripts.flatMap Script.actions, test a = true ∧
        key ∈ resolvedKeys (merge config inputs scripts sheets scope).fragments a.selector := by
  rw [handlers, actionsFor_merge_eq, fragments_merge, List.any_eq_true]
  simp only [List.mem_filter, List.contains_iff_mem]
  constructor
  · rintro ⟨a, ⟨⟨ha, hkey⟩, -⟩, hok⟩
    exact ⟨a, ha, hok, hkey⟩
  · rintro ⟨a, ha, hok, hkey⟩
    exact ⟨a, ⟨⟨ha, hkey⟩, htest a hok⟩, hok⟩

/-! The other checks have kinds of their own. -/

theorem kind_of_checkFocusableHidden {f : Finding} (h : f ∈ checkFocusableHidden d c) :
    f.kind = focusableHiddenKind := by
  unfold checkFocusableHidden at h
  split at h
  · cases h
  · rw [List.mem_singleton.mp h]

theorem kind_of_checkAriaHidden {f : Finding} (h : f ∈ checkAriaHidden d c) :
    f.kind = ariaHiddenKind := by
  unfold checkAriaHidden at h
  split at h
  · rw [List.mem_singleton.mp h]
  · cases h

theorem kind_of_checkInteractiveHidden {f : Finding} (h : f ∈ checkInteractiveHidden d c) :
    f.kind = interactiveHiddenKind := by
  unfold checkInteractiveHidden at h
  dsimp only at h
  split at h
  · rw [List.mem_singleton.mp h]
  · cases h

theorem kind_of_checkFocusToHidden {f : Finding} (h : f ∈ checkFocusToHidden d c) :
    f.kind = focusToHiddenKind := by
  unfold checkFocusToHidden at h
  split at h
  · cases h
  · obtain ⟨a, -, rfl⟩ := List.mem_map.mp h
    rfl

theorem filter_of_kind (wanted : String) {findings : List Finding} {kind : String}
    (hkind : ∀ f ∈ findings, f.kind = kind) (hother : kind ≠ wanted) :
    findings.filter (·.kind == wanted) = [] := by
  rw [List.filter_eq_nil_iff]
  intro f hf
  rw [hkind f hf, beq_iff_eq]
  exact hother

/-- Of what is found at an element, the check for the keyboard decides what is of its kind. -/
theorem filter_checkElement {findings : List Finding} (h : checkElement d key = .ok findings) :
    findings.filter (·.kind == mouseOnlyKind) =
      if (handlers d key).any Action.isClick && !(handlers d key).any Action.isKeyboard &&
          !(d.element key).isNativelyKeyboardActivated
      then [pointerFinding d key] else [] := by
  unfold checkElement at h
  obtain ⟨c, hc, h⟩ := ok_of_bind h
  obtain rfl := Except.ok.inj h
  obtain ⟨rfl, hclick, hkeyboard⟩ := context_cases hc
  simp only [List.filter_append, checkMouseOnly_eq, hclick, hkeyboard,
    filter_of_kind mouseOnlyKind (fun f hf => kind_of_checkFocusableHidden hf) (by decide),
    filter_of_kind mouseOnlyKind (fun f hf => kind_of_checkAriaHidden hf) (by decide),
    filter_of_kind mouseOnlyKind (fun f hf => kind_of_checkInteractiveHidden hf) (by decide),
    filter_of_kind mouseOnlyKind (fun f hf => kind_of_checkFocusToHidden hf) (by decide),
    List.append_nil, List.nil_append]
  split
  · rfl
  · rfl

theorem exists_checkElement_iff :
    (∃ findings, checkElement d key = .ok findings) ↔ ∃ role, d.roleOf key = .ok role := by
  rw [← exists_context_iff]
  unfold checkElement
  constructor
  · rintro ⟨findings, h⟩
    obtain ⟨c, hc, -⟩ := ok_of_bind h
    exact ⟨c, hc⟩
  · rintro ⟨c, hc⟩
    rw [hc]
    exact ⟨_, rfl⟩

theorem exists_checkElement_of_analyze {context : AnalysisContext} {issues : List Issue}
    (hrun : analyze d context = .ok issues) (hkey : key ∈ d.keys) :
    ∃ findings, checkElement d key = .ok findings := by
  unfold analyze at hrun
  obtain ⟨lists, hlists, -⟩ := ok_of_bind hrun
  exact exists_of_mapM_ok hlists hkey

/-- The analysis succeeds when the roles of all elements can be looked up. -/
theorem exists_analyze_iff (context : AnalysisContext) :
    (∃ issues, analyze d context = .ok issues) ↔
      ∀ key ∈ d.keys, ∃ role, d.roleOf key = .ok role := by
  constructor
  · rintro ⟨issues, hrun⟩ key hkey
    exact exists_checkElement_iff.mp (exists_checkElement_of_analyze hrun hkey)
  · intro hroles
    obtain ⟨lists, hlists⟩ := exists_mapM_ok fun key hkey =>
      exists_checkElement_iff.mpr (hroles key hkey)
    unfold analyze
    rw [hlists]
    exact ⟨_, rfl⟩

end Element

/-! ## Reports -/

section Merge

variable {config : Config} {inputs : List FragmentInput} {scripts : List Script}
  {sheets : List StyleSheet} {scope : Json} {context : AnalysisContext}

theorem pointerOnly_iff {key : Key} :
    ((handlers (merge config inputs scripts sheets scope) key).any Action.isClick &&
      !(handlers (merge config inputs scripts sheets scope) key).any Action.isKeyboard &&
      !((merge config inputs scripts sheets scope).element key).isNativelyKeyboardActivated) =
        true ↔ PointerOnly (merge config inputs scripts sheets scope)
          (scripts.flatMap Script.actions) key := by
  have hclick (a : Action) : a.isClick = true → a.event?.isSome = true := Action.isSome_event?
  have hkeyboard (a : Action) : a.isKeyboard = true → a.event?.isSome = true :=
    Action.isSome_event?
  rw [Bool.and_eq_true_iff, Bool.and_eq_true_iff, Bool.not_eq_true', ← Bool.not_eq_true,
    Bool.not_eq_true', any_handlers hclick, any_handlers hkeyboard]
  simp only [PointerOnly, not_exists, not_and, and_assoc]

/-- Of what is found at some elements, what is of the kind comes from those that handle the pointer
alone. -/
theorem filter_flatten {keys : List Key} {lists : List (List Finding)}
    (h : List.Forall₂ (fun key findings =>
      checkElement (merge config inputs scripts sheets scope) key = .ok findings) keys lists) :
    lists.flatten.filter (·.kind == mouseOnlyKind) =
      (keys.filter fun key => PointerOnly (merge config inputs scripts sheets scope)
        (scripts.flatMap Script.actions) key).map
          (pointerFinding (merge config inputs scripts sheets scope)) := by
  -- along the elements: each adds its own report, or none
  induction h with
  | nil => rfl
  | cons hcheck hrest ih =>
    rw [List.flatten_cons, List.filter_append, filter_checkElement hcheck, ih, List.filter_cons]
    simp only [pointerOnly_iff, decide_eq_true_eq]
    split
    · rfl
    · rfl

/-- The reports of elements that handle the pointer alone, one for each, in document order. -/
theorem filter_analyze {issues : List Issue}
    (hrun : analyze (merge config inputs scripts sheets scope) context = .ok issues) :
    issues.filter isPointerIssue = ((merge config inputs scripts sheets scope).keys.filter
      fun key => PointerOnly (merge config inputs scripts sheets scope)
        (scripts.flatMap Script.actions) key).map
          (pointerIssue (merge config inputs scripts sheets scope) context) := by
  unfold analyze at hrun
  obtain ⟨lists, hlists, hrun⟩ := ok_of_bind hrun
  obtain rfl := Except.ok.inj hrun
  have hkinds : isPointerIssue ∘ (·.issue analyzerName context) =
      fun f : Finding => f.kind == mouseOnlyKind := rfl
  rw [List.filter_map, hkinds, filter_flatten (mapM_eq_ok_iff.mp hlists), List.map_map]
  rfl

end Merge

/-! ## Another order, other scripts -/

/-- Two issues are the same but for the order of further places. -/
def SameButOrder (i i' : Issue) : Prop :=
  i' = { i with related := i'.related } ∧ i.related.Perm i'.related

section Reordered

variable {config : Config} {inputs : List FragmentInput} {scripts scripts' : List Script}
  {sheets : List StyleSheet} {scope : Json}
  (hperm : (scripts.flatMap Script.actions).Perm (scripts'.flatMap Script.actions))
include hperm

theorem clicks_perm (key : Key) : (clicks (merge config inputs scripts sheets scope) key).Perm
    (clicks (merge config inputs scripts' sheets scope) key) := by
  unfold clicks handlers
  rw [actionsFor_merge_eq, actionsFor_merge_eq]
  exact ((hperm.filter _).filter _).filter _

theorem events_clicks (key : Key) : events (clicks (merge config inputs scripts sheets scope) key) =
    events (clicks (merge config inputs scripts' sheets scope) key) := by
  unfold events
  have hsame : sortTexts ((clicks (merge config inputs scripts sheets scope) key).filterMap
      Action.event?) = sortTexts ((clicks (merge config inputs scripts' sheets scope) key).filterMap
        Action.event?) :=
    sortTexts_congr fun text => ((clicks_perm hperm key).filterMap Action.event?).mem_iff
  rw [hsame]

theorem sameButOrder_pointerIssue (context : AnalysisContext) (key : Key) :
    SameButOrder (pointerIssue (merge config inputs scripts sheets scope) context key)
      (pointerIssue (merge config inputs scripts' sheets scope) context key) := by
  have hmarkup := markup_merge config inputs scripts sheets scope scripts'
  refine ⟨?_, ((clicks_perm hperm key).filter _).map _⟩
  simp only [pointerIssue, pointerFinding, Finding.issue, events_clicks hperm key,
    Document.eq_of_markup Document.element_markup hmarkup,
    Document.eq_of_markup Document.spotOf_markup hmarkup]

end Reordered

/-- An element has one report of handling the pointer alone if it does, and the reports come in
document order. When the same actions come in another order or in other scripts, the analysis
succeeds as well, and the reports are the same, except that places of handlers may come in another
order. -/
theorem analyze_perm (config : Config) (inputs : List FragmentInput)
    (scripts scripts' : List Script) (sheets : List StyleSheet) (scope : Json)
    (context : AnalysisContext)
    (hperm : (scripts.flatMap Script.actions).Perm (scripts'.flatMap Script.actions))
    (issues : List Issue)
    (hrun : analyze (merge config inputs scripts sheets scope) context = .ok issues) :
    let d := merge config inputs scripts sheets scope
    (∃ issues', analyze (merge config inputs scripts' sheets scope) context = .ok issues' ∧
      List.Forall₂ SameButOrder (issues.filter isPointerIssue) (issues'.filter isPointerIssue)) ∧
    (∀ key ∈ d.keys, ∃ findings, checkElement d key = .ok findings ∧
      ((findings.filter (·.kind == mouseOnlyKind)).length = 1 ↔
        PointerOnly d (scripts.flatMap Script.actions) key)) ∧
    issues.filter isPointerIssue =
      (d.keys.filter fun key => PointerOnly d (scripts.flatMap Script.actions) key).map
        (pointerIssue d context) := by
  intro d
  refine ⟨?_, ?_, filter_analyze hrun⟩
  · have hmarkup := markup_merge config inputs scripts sheets scope scripts'
    obtain ⟨issues', hrun'⟩ :
        ∃ issues', analyze (merge config inputs scripts' sheets scope) context = .ok issues' := by
      rw [exists_analyze_iff, Document.eq_of_markup Document.keys_markup hmarkup,
        Document.eq_of_markup Document.roleOf_markup hmarkup]
      exact (exists_analyze_iff context).mp ⟨issues, hrun⟩
    have hsame : ((merge config inputs scripts' sheets scope).keys.filter fun key =>
        PointerOnly (merge config inputs scripts' sheets scope)
          (scripts'.flatMap Script.actions) key) =
        d.keys.filter fun key => PointerOnly d (scripts.flatMap Script.actions) key := by
      rw [Document.eq_of_markup Document.keys_markup hmarkup]
      exact List.filter_congr fun key _ => decide_eq_decide.mpr (PointerOnly.congr hmarkup hperm)
    refine ⟨issues', hrun', ?_⟩
    rw [filter_analyze hrun, filter_analyze hrun', hsame, List.forall₂_map_left_iff,
      List.forall₂_map_right_iff, List.forall₂_same]
    exact fun key _ => sameButOrder_pointerIssue hperm context key
  · intro key hkey
    obtain ⟨findings, hcheck⟩ := exists_checkElement_of_analyze hrun hkey
    refine ⟨findings, hcheck, ?_⟩
    rw [filter_checkElement hcheck]
    split
    case isTrue hreported => exact ⟨fun _ => pointerOnly_iff.mp hreported, fun _ => rfl⟩
    case isFalse hsilent =>
      exact ⟨fun hone => absurd hone Nat.zero_ne_one,
        fun honly => absurd (pointerOnly_iff.mpr honly) hsilent⟩

/-! ## A card with two handlers -/

/-- An element to click on. -/
def card : Element := { tag := "div", attributes := [("id", "card")] }

/-- A handler of clicks, attached by the tag. -/
def clickCard : Action := { element := { selector := some "div" }, deed := .handle "click" none }

/-- A handler of pointer events, attached by the id. -/
def pressCard : Action := { element := { id := some "card" }, deed := .handle "pointerdown" none }

/-- A page with a card whose handlers are in two scripts. -/
def splitCard (f : Fragment) : Document :=
  merge {} [.indexed f] [{ actions := [clickCard] }, { actions := [pressCard] }] [] .null

/-- The same with one script, in which the handlers come the other way round. -/
def joinedCard (f : Fragment) : Document :=
  merge {} [.indexed f] [{ actions := [pressCard, clickCard] }] [] .null

section Card

variable {f : Fragment} (hsize : f.size = 1) (he : f.element? 0 = some card)
include hsize

theorem keys_splitCard : (splitCard f).keys = [⟨0, 0⟩] := keysOf_single hsize

include he

theorem resolvedKeys_card : resolvedKeys #[f] "div" = [⟨0, 0⟩] := by
  have hkeys : keysOf #[f] = [⟨0, 0⟩] := keys_splitCard hsize
  have hat : elementAt? #[f] ⟨0, 0⟩ = some card := he
  have hown : "div" ∈ card.candidateSelectors := by decide +kernel
  have hlookup : (CandidateIndex.build #[f]).lookup "div" = [⟨0, 0⟩] := by
    simp [lookup_build, hkeys, hat, hown]
  rw [resolvedKeys_of_found (by decide) hlookup, ite_self]

theorem pointerOnly_card : PointerOnly (splitCard f) [clickCard, pressCard] ⟨0, 0⟩ := by
  have hnone : ∀ a ∈ [clickCard, pressCard], a.isKeyboard = false := by decide
  have hselector : clickCard.selector = "div" := by decide
  have helement : (splitCard f).element ⟨0, 0⟩ = card := element_single he
  refine ⟨⟨clickCard, List.mem_cons_self, rfl, ?_⟩, ?_, ?_⟩
  · rw [hselector, splitCard, fragments_merge]
    exact resolvedKeys_card hsize he ▸ List.mem_singleton_self _
  · intro a ha hkeyboard
    rw [hnone a ha] at hkeyboard
    cases hkeyboard
  · rw [helement]
    decide

end Card

/-- The card is reported once, and the same when its handlers are in one script. -/
theorem analyze_perm_card : ∃ f issues issues',
    Fragment.ofGraph (elementPage card) "page" = .ok f ∧
    analyze (splitCard f) {} = .ok issues ∧ analyze (joinedCard f) {} = .ok issues' ∧
    issues.filter isPointerIssue = [pointerIssue (splitCard f) {} ⟨0, 0⟩] ∧
    List.Forall₂ SameButOrder (issues.filter isPointerIssue)
      (issues'.filter isPointerIssue) := by
  obtain ⟨f, hf, hsize, he⟩ := exists_elementPage card
  have hroles : ∀ key ∈ (splitCard f).keys, ∃ role, (splitCard f).roleOf key = .ok role := by
    have helement : (splitCard f).element ⟨0, 0⟩ = card := element_single he
    rw [keys_splitCard hsize]
    intro key hkey
    rw [List.mem_singleton.mp hkey, Document.roleOf, helement]
    exact ⟨_, rfl⟩
  obtain ⟨issues, hrun⟩ := (exists_analyze_iff {}).mpr hroles
  obtain ⟨⟨issues', hrun', hsame⟩, -, hreports⟩ := analyze_perm {} [.indexed f]
    [{ actions := [clickCard] }, { actions := [pressCard] }]
    [{ actions := [pressCard, clickCard] }] [] .null {} (.swap pressCard clickCard []) issues hrun
  refine ⟨f, issues, issues', hf, hrun, hrun', ?_, hsame⟩
  have hone : ((splitCard f).keys.filter fun key =>
      PointerOnly (splitCard f) [clickCard, pressCard] key) = [⟨0, 0⟩] := by
    rw [keys_splitCard hsize, List.filter_singleton, decide_eq_true (pointerOnly_card hsize he)]
    rfl
  exact hreports.trans (congrArg (List.map (pointerIssue (splitCard f) {})) hone)

end Conflict

end AccessAudit
