import AccessAudit.Proofs.Audit.Ownership
import AccessAudit.Proofs.Document.Markup

/-!
# A handler more

When a script gets one more handler for the keyboard, the completeness of widgets can only improve,
and only on the side of the keyboard. `analyze_insert` says so of two runs, before and after: the
second succeeds when the first does, the issues that are not about the keyboard are the same in the
same order, and each issue about the keyboard is one of the first run with some of the missing
pieces gone.

Of the four sides of a widget, parts and references are read off the markup alone. States and the
focus depend on actions, but not on handlers. What is left is the keys that are handled: those of an
action, of an element, of a widget with its parts. At each of these levels they can only get more,
and so there can only be fewer groups of keys of which none is handled.
-/

namespace AccessAudit

open Text

/-! ## Checks of the markup -/

namespace Document

variable (d : Document)

@[simp] theorem hasRole_markup : d.markup.hasRole = d.hasRole := rfl

@[simp] theorem pointer_markup : d.markup.pointer = d.pointer := by
  funext key
  unfold pointer
  rw [element_markup]

end Document

namespace Widget

section Markup

variable (d : Document)

theorem patternFor?_markup : patternFor? d.markup = patternFor? d := rfl

theorem missingParts_markup : missingParts d.markup = missingParts d := rfl

theorem missingName_markup : missingName d.markup = missingName d := rfl

theorem relationHolders_markup : relationHolders d.markup = relationHolders d := by
  funext key parts rule
  simp only [relationHolders, Document.hasRole_markup, Document.references_markup]

theorem missingReference?_markup : missingReference? d.markup = missingReference? d := rfl

theorem missingReferences_markup : missingReferences d.markup = missingReferences d := by
  funext key parts rule
  simp only [missingReferences, relationHolders_markup, missingReference?_markup,
    Document.pointer_markup]

theorem missingRelations_markup : missingRelations d.markup = missingRelations d := by
  funext key p parts
  simp only [missingRelations, missingName_markup, missingReferences_markup]

theorem stateHolders_markup : stateHolders d.markup = stateHolders d := rfl

theorem finding?_markup : finding? d.markup = finding? d := by
  funext key p facet gaps
  simp only [finding?, Document.element_markup, Document.spotOf_markup]

theorem isAdopted_markup : isAdopted d.markup = isAdopted d := by
  funext key containers
  unfold isAdopted
  rw [Document.element_markup]
  cases (d.element key).id? with
  | none => rfl
  | some id => simp only [Document.keys_markup, Document.hasRole_markup, Document.valueOf_markup]

theorem misplaced_markup : misplaced d.markup = misplaced d := rfl

theorem checkPlace_markup : checkPlace d.markup = checkPlace d := by
  funext key role
  unfold checkPlace
  cases Pattern.containers.get? role with
  | none => rfl
  | some containers => simp only [Document.ancestors_markup, Document.hasRole_markup,
      isAdopted_markup, misplaced_markup]

end Markup

end Widget

/-! ## Keyboard handlers -/

namespace Action

variable {a : Action}

/-- A value from which keys can be listed, whatever is in it. -/
def listsKeys : Json → Bool
  | .null | .str _ | .arr _ | .obj _ => true
  | _ => false

theorem exists_listedKeys {v : Json} (h : listsKeys v = true) :
    ∃ keys, listedKeys v = .ok keys := by
  unfold listedKeys
  split
  · exact ⟨[], rfl⟩
  · cases v with
    | null => exact absurd rfl ‹_›
    | str s => exact ⟨_, rfl⟩
    | arr items => exact ⟨_, rfl⟩
    | obj fields => exact ⟨_, rfl⟩
    | _ => cases h

theorem exists_handle (hkeyboard : a.isKeyboard = true) :
    ∃ event ∈ keyboardEvents, a.event? = some event ∧ ∃ body, a.deed = .handle event body := by
  unfold isKeyboard event? at *
  cases hdeed : a.deed with
  | handle event body =>
    rw [hdeed] at hkeyboard
    exact ⟨event, List.contains_iff_mem.mp hkeyboard, rfl, body, rfl⟩
  | _ =>
    rw [hdeed] at hkeyboard
    cases hkeyboard

theorem exists_handledKeys (hkeyboard : a.isKeyboard = true)
    (hkeys : (a.metadata.get? "keys").all listsKeys = true) : ∃ keys, a.handledKeys = .ok keys := by
  obtain ⟨event, -, -, body, hdeed⟩ := exists_handle hkeyboard
  have hlists : listsKeys ((a.metadata.get? "keys").getD .null) = true := by
    cases hv : a.metadata.get? "keys" with
    | none => rfl
    | some v =>
      rw [hv] at hkeys
      exact hkeys
  obtain ⟨listed, hlisted⟩ := exists_listedKeys hlists
  unfold handledKeys
  rw [hdeed]
  simp only [hlisted]
  exact ⟨_, rfl⟩

theorem isClick_of_isKeyboard (hkeyboard : a.isKeyboard = true) : a.isClick = false := by
  obtain ⟨event, hevent, ha, -⟩ := exists_handle hkeyboard
  have hdisjoint : ∀ event ∈ keyboardEvents, clickEvents.contains event = false := by decide
  rw [isClick, ha]
  exact hdisjoint event hevent

end Action

/-! ## Documents with a handler more -/

/-- A document is another with an action more: the markup is the same, and at an element the actions
are the same, or the action is inserted somewhere among them. -/
structure Document.Gains (d d' : Document) (a : Action) : Prop where
  markup : d'.markup = d.markup
  actions : ∀ key, d'.actionsFor key = d.actionsFor key ∨ ∃ before after,
    d.actionsFor key = before ++ after ∧ d'.actionsFor key = before ++ a :: after

theorem gains_merge {config : Config} {inputs : List FragmentInput} {scripts scripts' : List Script}
    {sheets : List StyleSheet} {scope : Json} {a : Action} {front back : List Action}
    (hscripts : scripts.flatMap Script.actions = front ++ back)
    (hscripts' : scripts'.flatMap Script.actions = front ++ a :: back) :
    (merge config inputs scripts sheets scope).Gains
      (merge config inputs scripts' sheets scope) a := by
  refine ⟨markup_merge config inputs scripts sheets scope scripts', fun key => ?_⟩
  rw [actionsFor_merge_eq, actionsFor_merge_eq, hscripts, hscripts', List.filter_append,
    List.filter_append, List.filter_cons]
  split
  · exact .inr ⟨_, _, rfl, rfl⟩
  · exact .inl rfl

namespace Document.Gains

variable {d d' : Document} {a : Action} (h : d.Gains d' a)
include h

/-- What is read off the markup stays. -/
theorem view {β : Sort*} {view : Document → β} (hview : ∀ d : Document, view d.markup = view d) :
    view d' = view d :=
  Document.eq_of_markup hview h.markup

/-- What is made of the other actions stays. -/
theorem filterMap {β : Type} {view : Action → Option β} (hview : view a = none) (key : Key) :
    (d'.actionsFor key).filterMap view = (d.actionsFor key).filterMap view := by
  rcases h.actions key with hsame | ⟨before, after, hold, hnew⟩
  · rw [hsame]
  · rw [hold, hnew, List.filterMap_append, List.filterMap_append, List.filterMap_cons_none hview]

theorem any {test : Action → Bool} (htest : test a = false) (key : Key) :
    (d'.actionsFor key).any test = (d.actionsFor key).any test := by
  rcases h.actions key with hsame | ⟨before, after, hold, hnew⟩
  · rw [hsame]
  · rw [hold, hnew, List.any_append, List.any_append, List.any_cons, htest, Bool.false_or]

theorem mem_old {b : Action} {key : Key} (hb : b ∈ d.actionsFor key) : b ∈ d'.actionsFor key := by
  rcases h.actions key with hsame | ⟨before, after, hold, hnew⟩
  · exact hsame ▸ hb
  · rw [hold] at hb
    rw [hnew]
    exact (List.perm_middle.mem_iff).mpr (List.mem_cons_of_mem a hb)

theorem mem_new {b : Action} {key : Key} (hb : b ∈ d'.actionsFor key) :
    b = a ∨ b ∈ d.actionsFor key := by
  rcases h.actions key with hsame | ⟨before, after, hold, hnew⟩
  · exact .inr (hsame ▸ hb)
  · rw [hnew] at hb
    rw [hold]
    exact List.mem_cons.mp ((List.perm_middle.mem_iff).mp hb)

end Document.Gains

/-! ## What a handler leaves alone -/

namespace Widget

section Gains

variable {d d' : Document} {a : Action} (h : d.Gains d' a) (hkeyboard : a.isKeyboard = true)
include h hkeyboard

theorem mutationsFor_gains (key : Key) : d'.mutationsFor key = d.mutationsFor key := by
  obtain ⟨event, -, -, body, hdeed⟩ := Action.exists_handle hkeyboard
  exact h.filterMap (by rw [hdeed]) key

theorem isFocusable_gains (key : Key) : d'.isFocusable key = d.isFocusable key := by
  unfold Document.isFocusable
  rw [mutationsFor_gains h hkeyboard, h.view Document.element_markup]

theorem isModal_gains (key : Key) : isModal d' key = isModal d key := by
  unfold isModal
  rw [mutationsFor_gains h hkeyboard, h.view Document.valueOf_markup]

theorem hasFocusEntry_gains (key : Key) : hasFocusEntry d' key = hasFocusEntry d key := by
  obtain ⟨event, -, -, body, hdeed⟩ := Action.exists_handle hkeyboard
  have hfocus (member : Key) : (d'.actionsFor member).any (·.deed == .focus .focus) =
      (d.actionsFor member).any (·.deed == .focus .focus) := h.any (by rw [hdeed]; rfl) member
  simp only [hasFocusEntry, h.view Document.descendants_markup, h.view Document.element_markup,
    hfocus]

theorem missingStates_gains (key : Key) (p : Pattern) (parts : List Key) :
    missingStates d' key p parts = missingStates d key p parts := by
  simp only [missingStates, missingState?, h.view stateHolders_markup,
    h.view Document.element_markup, h.view Document.pointer_markup, mutationsFor_gains h hkeyboard]

/-! ## Keys -/

variable (hkeys : (a.metadata.get? "keys").all Action.listsKeys = true)

include hkeys in
/-- An element handles the keys that it did, and maybe more. -/
theorem exists_handledKeys_gains {key : Key} {keys : List String}
    (hrun : handledKeys d key = .ok keys) :
    ∃ keys', handledKeys d' key = .ok keys' ∧ keys ⊆ keys' := by
  unfold handledKeys at hrun
  obtain ⟨lists, hlists, hrun⟩ := ok_of_bind hrun
  obtain rfl := Except.ok.inj hrun
  -- no event is both of the keyboard and of the pointer, so activation by clicks stays
  have hclicks : ((d'.actionsFor key).filter (·.event?.isSome)).any Action.isClick =
      ((d.actionsFor key).filter (·.event?.isSome)).any Action.isClick := by
    rw [List.any_filter, List.any_filter]
    exact h.any (by rw [Action.isClick_of_isKeyboard hkeyboard, Bool.and_false]) key
  obtain ⟨lists', hlists', hmore⟩ : ∃ lists', (((d'.actionsFor key).filter
      (·.event?.isSome)).filter Action.isKeyboard).mapM Action.handledKeys = .ok lists' ∧
        lists ⊆ lists' := by
    -- the analysis could break down only at the new handler, and its keys can be listed
    refine exists_mapM_of_subset hlists ?_ ?_
    · exact List.filter_subset _ (List.filter_subset _ fun b hb => h.mem_old hb)
    · intro b hb
      simp only [List.mem_filter] at hb ⊢
      rcases h.mem_new hb.1.1 with rfl | hold
      · exact .inr (Action.exists_handledKeys hkeyboard hkeys)
      · exact .inl ⟨⟨hold, hb.1.2⟩, hb.2⟩
  have hflat : lists.flatten ⊆ lists'.flatten := by
    intro name hname
    obtain ⟨list, hlist, hname⟩ := List.mem_flatten.mp hname
    exact List.mem_flatten.mpr ⟨list, hmore hlist, hname⟩
  simp only [handledKeys, hlists', hclicks, h.view Document.element_markup]
  exact ⟨_, rfl, List.append_subset.mpr
    ⟨List.subset_append_of_subset_left _ hflat, List.subset_append_right _ _⟩⟩

omit h hkeyboard in
/-- The more keys are handled, the fewer groups are left. -/
theorem unhandled_sublist (groups : List (List String)) {keys keys' : List String}
    (hmore : keys ⊆ keys') : (unhandled groups keys').Sublist (unhandled groups keys) := by
  apply List.monotone_filter_right
  intro group hnone
  simp only [Bool.not_eq_true', List.any_eq_false, List.contains_iff_mem] at hnone ⊢
  exact fun name hname hhandled => hnone name hname (hmore hhandled)

include hkeys in
/-- A widget lacks what it did, except maybe for some pieces. -/
theorem exists_missingKeys_gains {key : Key} {p : Pattern} {parts : List Key} {gaps : List Gap}
    (hrun : missingKeys d key p parts = .ok gaps) :
    ∃ gaps', missingKeys d' key p parts = .ok gaps' ∧ gaps'.Sublist gaps := by
  unfold missingKeys at hrun
  obtain ⟨lists, hlists, hrun⟩ := ok_of_bind hrun
  obtain rfl := Except.ok.inj hrun
  obtain ⟨lists', hlists', hmore⟩ := exists_mapM_of_related
    (fun member _ keys hmember => exists_handledKeys_gains h hkeyboard hkeys hmember) hlists
  have hgroups : keyGroups d' key p = keyGroups d key p := by
    unfold keyGroups
    rw [isModal_gains h hkeyboard]
  simp only [missingKeys, hlists', hgroups, isFocusable_gains h hkeyboard,
    hasFocusEntry_gains h hkeyboard]
  refine ⟨_, rfl, ?_⟩
  have hleft := unhandled_sublist (keyGroups d key p) (flatten_subset_of_forall₂ hmore)
  exact (((hleft.map _).append_right _).append_right _).map _

end Gains

end Widget

/-! ## Kinds of issues -/

namespace Pattern

theorem getLast?_kind (p : Pattern) (facet : Facet) :
    (p.kind facet).toList.getLast? = facet.name.toList.getLast? := by
  rw [kind, String.toList_append, List.getLast?_append]
  cases facet <;> rfl

/-- Whether a kind of issue is about keyboard support. -/
def isKeyboardKind (kind : String) : Bool := (all.map (·.kind .keyboard)).contains kind

theorem isKeyboardKind_keyboard {p : Pattern} (hp : p ∈ all) :
    isKeyboardKind (p.kind .keyboard) = true :=
  List.contains_iff_mem.mpr (List.mem_map_of_mem hp)

theorem isKeyboardKind_kind (p : Pattern) {facet : Facet} (h : facet ≠ .keyboard) :
    isKeyboardKind (p.kind facet) = false := by
  apply Bool.eq_false_iff.mpr
  intro hkind
  obtain ⟨q, -, hq⟩ := List.mem_map.mp (List.contains_iff_mem.mp hkind)
  -- the names of the facets end differently
  have hlast := congrArg (·.toList.getLast?) hq
  simp only [getLast?_kind] at hlast
  cases facet with
  | keyboard => exact h rfl
  | _ => revert hlast; decide

theorem isKeyboardKind_misplacedKind (role : String) :
    isKeyboardKind (misplacedKind role) = false := by
  apply Bool.eq_false_iff.mpr
  intro hkind
  obtain ⟨q, -, hq⟩ := List.mem_map.mp (List.contains_iff_mem.mp hkind)
  have hfirst := congrArg (·.toList.head?) hq
  simp [misplacedKind, kind] at hfirst

end Pattern

/-! ## Lists of findings -/

/-- A list of findings is another, of which only the part about the keyboard has changed: some of
it is gone, and the rest is related to what it was. -/
structure Eased {α : Type} (keyboard : α → Bool) (R : α → α → Prop) (l' l : List α) : Prop where
  others : l'.filter (!keyboard ·) = l.filter (!keyboard ·)
  keyboard : List.SublistForall₂ R (l'.filter keyboard) (l.filter keyboard)

namespace Eased

variable {α β : Type} {keyboard : α → Bool} {R : α → α → Prop}

theorem of_others {l : List α} (h : ∀ x ∈ l, keyboard x = false) : Eased keyboard R l l := by
  refine ⟨rfl, ?_⟩
  have hnone : l.filter keyboard = [] := List.filter_eq_nil_iff.mpr fun x hx => by simp [h x hx]
  rw [hnone]
  exact .nil

theorem gone {x : α} (h : keyboard x = true) : Eased keyboard R [] [x] := by
  constructor
  · simp [h]
  · exact .nil

theorem single {x x' : α} (h' : keyboard x' = true) (h : keyboard x = true) (hR : R x' x) :
    Eased keyboard R [x'] [x] := by
  constructor
  · simp [h, h']
  · simpa [h, h'] using .cons hR .nil

theorem append {l₁ l₁' l₂ l₂' : List α} (h₁ : Eased keyboard R l₁' l₁)
    (h₂ : Eased keyboard R l₂' l₂) : Eased keyboard R (l₁' ++ l₂') (l₁ ++ l₂) := by
  constructor
  · rw [List.filter_append, List.filter_append, h₁.others, h₂.others]
  · rw [List.filter_append, List.filter_append]
    obtain ⟨m₁, hrel₁, hsub₁⟩ := List.sublistForall₂_iff.mp h₁.keyboard
    obtain ⟨m₂, hrel₂, hsub₂⟩ := List.sublistForall₂_iff.mp h₂.keyboard
    exact List.sublistForall₂_iff.mpr ⟨m₁ ++ m₂, List.rel_append hrel₁ hrel₂, hsub₁.append hsub₂⟩

theorem flatten {lists lists' : List (List α)}
    (h : List.Forall₂ (fun l l' => Eased keyboard R l' l) lists lists') :
    Eased keyboard R lists'.flatten lists.flatten := by
  induction h with
  | nil => exact of_others (by simp)
  | cons hfirst hrest ih => exact hfirst.append ih

theorem map {keyboard' : β → Bool} {R' : β → β → Prop} {g : α → β} {l l' : List α}
    (hg : ∀ x, keyboard' (g x) = keyboard x)
    (h : Eased keyboard (fun x' x => R' (g x') (g x)) l' l) :
    Eased keyboard' R' (l'.map g) (l.map g) := by
  have hsame : keyboard' ∘ g = keyboard := funext hg
  have hother : (!keyboard' ·) ∘ g = (!keyboard ·) := funext fun x => congrArg (!·) (hg x)
  constructor
  · rw [List.filter_map, List.filter_map, hother, h.others]
  · rw [List.filter_map, List.filter_map, hsame, List.sublistForall₂_map_left_iff,
      List.sublistForall₂_map_right_iff]
    exact h.keyboard

end Eased

namespace Widget

/-! ## Two runs -/

/-- An issue says what a widget lacks for the keyboard. -/
structure Lacks (d : Document) (context : AnalysisContext) (key : Key) (p : Pattern)
    (gaps : List Gap) (i : Issue) : Prop where
  element : key ∈ d.keys
  pattern : patternFor? d key = .ok (some p)
  missing : missingKeys d key p (d.owned key) = .ok gaps
  issue : (finding? d key p .keyboard gaps).map (·.issue analyzerName context) = some i

/-- An issue of one document and an issue of another are about what the same widget lacks, and the
first names some of the pieces that the second names. -/
def Relieves (d d' : Document) (context : AnalysisContext) (i' i : Issue) : Prop :=
  ∃ key p gaps gaps', Lacks d' context key p gaps' i' ∧ Lacks d context key p gaps i ∧
    gaps'.Sublist gaps

theorem mem_all_of_patternFor? {d : Document} {key : Key} {p : Pattern}
    (h : patternFor? d key = .ok (some p)) : p ∈ Pattern.all := by
  unfold patternFor? at h
  obtain ⟨disclosure, -, h⟩ := ok_of_bind h
  cases disclosure with
  | true =>
    cases h
    exact List.mem_of_getLast? rfl
  | false =>
    have hrole := Except.ok.inj h
    obtain ⟨role, -, hrole⟩ := Option.bind_eq_some_iff.mp hrole
    split at hrole
    · cases hrole
    · exact List.mem_of_find?_eq_some hrole

theorem kind_of_finding? {d : Document} {key : Key} {p : Pattern} {facet : Facet}
    {gaps : List Gap} {f : Finding} (h : finding? d key p facet gaps = some f) :
    f.kind = p.kind facet := by
  cases gaps with
  | nil => cases h
  | cons first rest =>
    cases h
    rfl

theorem finding?_eq_none {d : Document} {key : Key} {p : Pattern} {facet : Facet}
    {gaps : List Gap} : finding? d key p facet gaps = none ↔ gaps = [] := by
  cases gaps with
  | nil => exact ⟨fun _ => rfl, fun _ => rfl⟩
  | cons first rest => simp [finding?]

/-- What is wrong with an element as far as its pattern goes. -/
def checkPattern (d : Document) (key : Key) : Option Pattern → Except Failure (List Finding)
  | some p => checkWidget d key p
  | none => .ok []

/-- What is wrong with an element as far as its place goes. -/
def checkRole (d : Document) (key : Key) : Option String → Except Failure (List Finding)
  | some role => checkPlace d key role
  | none => .ok []

theorem checkElement_eq (d : Document) (key : Key) : checkElement d key = (do
    let pattern ← patternFor? d key
    let findings ← checkPattern d key pattern
    let placed ← checkRole d key (d.element key).explicitRole?
    pure (findings ++ placed)) := by
  unfold checkElement
  congr 1
  funext pattern
  cases pattern <;> cases (d.element key).explicitRole? <;> rfl

section Gains

variable {d d' : Document} {a : Action} (h : d.Gains d' a) (hkeyboard : a.isKeyboard = true)
  (hkeys : (a.metadata.get? "keys").all Action.listsKeys = true) (context : AnalysisContext)
  {key : Key}

/-- Findings, after and before, with the relation between their issues. -/
abbrev EasedFindings (d d' : Document) (context : AnalysisContext) : List Finding → List Finding →
    Prop :=
  Eased (fun f => Pattern.isKeyboardKind f.kind) fun f' f =>
    Relieves d d' context (f'.issue analyzerName context) (f.issue analyzerName context)

theorem eased_finding? {p : Pattern} {facet : Facet} (hfacet : facet ≠ .keyboard)
    (gaps : List Gap) :
    EasedFindings d d' context (finding? d key p facet gaps).toList
      (finding? d key p facet gaps).toList := by
  refine .of_others fun f hf => ?_
  rw [kind_of_finding? (Option.mem_toList.mp hf), Pattern.isKeyboardKind_kind p hfacet]

include h in
theorem eased_keyboard {p : Pattern} {gaps gaps' : List Gap} (hkey : key ∈ d.keys)
    (hpattern : patternFor? d key = .ok (some p))
    (hgaps : missingKeys d key p (d.owned key) = .ok gaps)
    (hgaps' : missingKeys d' key p (d.owned key) = .ok gaps') (hsub : gaps'.Sublist gaps) :
    EasedFindings d d' context (finding? d' key p .keyboard gaps').toList
      (finding? d key p .keyboard gaps).toList := by
  have hkind {gaps : List Gap} {f : Finding} (hf : finding? d key p .keyboard gaps = some f) :
      Pattern.isKeyboardKind f.kind = true := by
    rw [kind_of_finding? hf]
    exact Pattern.isKeyboardKind_keyboard (mem_all_of_patternFor? hpattern)
  have hsame : finding? d' key p .keyboard gaps' = finding? d key p .keyboard gaps' := by
    rw [h.view finding?_markup]
  rw [hsame]
  -- a finding before may be gone after, but none comes up that was not there
  cases hf : finding? d key p .keyboard gaps with
  | none =>
    cases finding?_eq_none.mp hf
    cases List.sublist_nil.mp hsub
    rw [hf]
    exact .of_others fun f hf => absurd hf List.not_mem_nil
  | some f =>
    cases hf' : finding? d key p .keyboard gaps' with
    | none => exact .gone (hkind hf)
    | some f' =>
      have hlacks : Lacks d context key p gaps (f.issue analyzerName context) :=
        ⟨hkey, hpattern, hgaps, by rw [hf]; rfl⟩
      have hlacks' : Lacks d' context key p gaps' (f'.issue analyzerName context) := by
        refine ⟨?_, ?_, ?_, by rw [hsame, hf']; rfl⟩
        · rw [h.view Document.keys_markup]
          exact hkey
        · rw [h.view patternFor?_markup]
          exact hpattern
        · rw [h.view Document.owned_markup]
          exact hgaps'
      exact .single (hkind hf') (hkind hf) ⟨key, p, gaps, gaps', hlacks', hlacks, hsub⟩

include h hkeyboard hkeys in
theorem exists_checkWidget_gains {p : Pattern} {findings : List Finding} (hkey : key ∈ d.keys)
    (hpattern : patternFor? d key = .ok (some p)) (hrun : checkWidget d key p = .ok findings) :
    ∃ findings', checkWidget d' key p = .ok findings' ∧
      EasedFindings d d' context findings' findings := by
  unfold checkWidget at hrun
  obtain ⟨structural, hstructural, hrun⟩ := ok_of_bind hrun
  obtain ⟨relations, hrelations, hrun⟩ := ok_of_bind hrun
  obtain ⟨gaps, hgaps, hrun⟩ := ok_of_bind hrun
  obtain rfl := Except.ok.inj hrun
  obtain ⟨gaps', hgaps', hsub⟩ := exists_missingKeys_gains h hkeyboard hkeys hgaps
  refine ⟨[finding? d key p .parts structural, finding? d key p .relations relations,
    finding? d' key p .keyboard gaps',
    finding? d key p .state (missingStates d key p (d.owned key))].reduceOption, ?_, ?_⟩
  · simp only [checkWidget, h.view missingParts_markup, h.view missingRelations_markup,
      h.view finding?_markup, h.view Document.owned_markup, missingStates_gains h hkeyboard,
      hstructural, hrelations, hgaps']
    rfl
  · show EasedFindings d d' context (List.filterMap id _) (List.filterMap id _)
    simp only [List.filterMap_eq_flatMap_toList, List.flatMap_cons, List.flatMap_nil,
      List.append_nil, id]
    exact (eased_finding? context (by decide) _).append <|
      (eased_finding? context (by decide) _).append <|
      (eased_keyboard h context hkey hpattern hgaps hgaps' hsub).append <|
      eased_finding? context (by decide) _

theorem misplaced_of_checkRole {role : Option String} {findings : List Finding}
    (hrun : checkRole d key role = .ok findings) {f : Finding} (hf : f ∈ findings) :
    ∃ role containers, Pattern.containers.get? role = some containers ∧
      f.kind = Pattern.misplacedKind role := by
  cases role with
  | none =>
    cases hrun
    cases hf
  | some role =>
    rw [checkRole] at hrun
    cases hcontainers : Pattern.containers.get? role with
    | none =>
      rw [checkPlace, hcontainers] at hrun
      cases hrun
      cases hf
    | some containers =>
      rcases checkPlace_cases hcontainers hrun with ⟨rfl, -⟩ | ⟨rfl, -⟩
      · cases hf
      · cases List.mem_singleton.mp hf
        exact ⟨role, containers, hcontainers, rfl⟩

/-- What is wrong with the place of an element is not about the keyboard. -/
theorem isKeyboardKind_of_checkRole {role : Option String} {findings : List Finding}
    (hrun : checkRole d key role = .ok findings) {f : Finding} (hf : f ∈ findings) :
    Pattern.isKeyboardKind f.kind = false := by
  obtain ⟨role, -, -, hkind⟩ := misplaced_of_checkRole hrun hf
  rw [hkind]
  exact Pattern.isKeyboardKind_misplacedKind role

include h hkeyboard hkeys in
/-- What is wrong with an element, after and before. -/
theorem exists_checkElement_gains {findings : List Finding} (hkey : key ∈ d.keys)
    (hrun : checkElement d key = .ok findings) :
    ∃ findings', checkElement d' key = .ok findings' ∧
      EasedFindings d d' context findings' findings := by
  rw [checkElement_eq] at hrun
  obtain ⟨pattern, hpattern, hrun⟩ := ok_of_bind hrun
  obtain ⟨widget, hwidget, hrun⟩ := ok_of_bind hrun
  obtain ⟨placed, hplaced, hrun⟩ := ok_of_bind hrun
  obtain rfl := Except.ok.inj hrun
  obtain ⟨widget', hwidget', heased⟩ : ∃ widget', checkPattern d' key pattern = .ok widget' ∧
      EasedFindings d d' context widget' widget := by
    cases pattern with
    | none =>
      cases hwidget
      exact ⟨[], rfl, .of_others fun f hf => absurd hf List.not_mem_nil⟩
    | some p => exact exists_checkWidget_gains h hkeyboard hkeys context hkey hpattern hwidget
  have hplaced' : checkRole d' key (d.element key).explicitRole? = .ok placed := by
    rw [← hplaced]
    cases (d.element key).explicitRole? with
    | none => rfl
    | some role => rw [checkRole, checkRole, h.view checkPlace_markup]
  have hstays : EasedFindings d d' context placed placed :=
    .of_others fun f hf => isKeyboardKind_of_checkRole hplaced hf
  refine ⟨widget' ++ placed, ?_, heased.append hstays⟩
  rw [checkElement_eq, h.view patternFor?_markup, hpattern, h.view Document.element_markup]
  show (do
    let findings ← checkPattern d' key pattern
    let placed ← checkRole d' key (d.element key).explicitRole?
    pure (findings ++ placed)) = Except.ok (widget' ++ placed)
  rw [hwidget', hplaced']
  rfl

end Gains

/-- With one more keyboard handler anywhere in the scripts, the merge breaks down over the selector of
the handler or not at all, if it did not before, and the analysis succeeds if it did before. What it
says about parts, references, states and places is the same, and every issue about the keyboard that
is left was there before, for the same widget, with the same pieces or more. -/
theorem analyze_insert (config : Config) (inputs : List FragmentInput)
    (scripts scripts' : List Script) (sheets : List StyleSheet) (scope : Json)
    (context : AnalysisContext) (a : Action) (front back : List Action)
    (hscripts : scripts.flatMap Script.actions = front ++ back)
    (hscripts' : scripts'.flatMap Script.actions = front ++ a :: back)
    (hkeyboard : a.isKeyboard = true)
    (hkeys : (a.metadata.get? "keys").all Action.listsKeys = true) (issues : List Issue)
    (hrun : analyze (merge config inputs scripts sheets scope) context = .ok issues) :
    (assemble config inputs scripts' sheets scope =
        .ok (merge config inputs scripts' sheets scope) ↔
      assemble config inputs scripts sheets scope = .ok (merge config inputs scripts sheets scope) ∧
      resolveBreakdown? (indexInputs 0 inputs).1.toArray
        (CandidateIndex.build (indexInputs 0 inputs).1.toArray) a.selector = none) ∧
    (assemble config inputs scripts sheets scope = .ok (merge config inputs scripts sheets scope) →
      ∀ why, assemble config inputs scripts' sheets scope = .error why ↔
        resolveBreakdown? (indexInputs 0 inputs).1.toArray
          (CandidateIndex.build (indexInputs 0 inputs).1.toArray) a.selector = some why) ∧
    ∃ issues', analyze (merge config inputs scripts' sheets scope) context = .ok issues' ∧
      issues'.filter (fun i => !Pattern.isKeyboardKind i.kind) =
        issues.filter (fun i => !Pattern.isKeyboardKind i.kind) ∧
      List.SublistForall₂ (Relieves (merge config inputs scripts sheets scope)
          (merge config inputs scripts' sheets scope) context)
        (issues'.filter fun i => Pattern.isKeyboardKind i.kind)
        (issues.filter fun i => Pattern.isKeyboardKind i.kind) := by
  refine ⟨assemble_insert_eq_ok hscripts hscripts',
    fun hmerge why => assemble_insert_eq_error hscripts hscripts' hmerge, ?_⟩
  have hgains : (merge config inputs scripts sheets scope).Gains
      (merge config inputs scripts' sheets scope) a := gains_merge hscripts hscripts'
  unfold analyze at hrun
  obtain ⟨lists, hlists, hrun⟩ := ok_of_bind hrun
  obtain rfl := Except.ok.inj hrun
  obtain ⟨lists', hlists', hrelated⟩ := exists_mapM_of_related (fun key hkey findings hcheck =>
    exists_checkElement_gains hgains hkeyboard hkeys context hkey hcheck) hlists
  have heased : Eased (fun i : Issue => Pattern.isKeyboardKind i.kind)
      (Relieves (merge config inputs scripts sheets scope)
        (merge config inputs scripts' sheets scope) context)
      (lists'.flatten.map (·.issue analyzerName context))
      (lists.flatten.map (·.issue analyzerName context)) :=
    .map (fun _ => rfl) (.flatten hrelated)
  refine ⟨_, ?_, heased.others, heased.keyboard⟩
  unfold analyze
  rw [hgains.view Document.keys_markup, hlists']
  rfl

/-! ## A toolbar -/

/-- A toolbar without anything in it. -/
def toolbar : Element := { tag := "div", attributes := [("role", "toolbar")] }

/-- The pattern of toolbars. -/
def toolbarPattern : Pattern :=
  { name := "toolbar", roles := ["toolbar"]
    keyGroups := [["ArrowRight", "ArrowDown"], ["ArrowLeft", "ArrowUp"]] }

/-- A page with a toolbar alone, and its scripts. -/
def toolbarDocument (f : Fragment) (scripts : List Script) : Document :=
  merge {} [.indexed f] scripts [] .null

/-- The handler of one arrow key. -/
def arrowHandler : Action :=
  { element := { selector := some "div" }
    metadata := [("keys", .arr [.str "ArrowRight"])]
    deed := .handle "keydown" none }

theorem resolveBreakdown?_arrowHandler (fragments : Array Fragment) :
    resolveBreakdown? fragments (CandidateIndex.build fragments) arrowHandler.selector = none := by
  have hselector : arrowHandler.selector = (Selector.Simple.type "div").render := by
    decide +kernel
  have hplain : (Selector.Simple.type "div").Plain := ⟨by decide, by decide +kernel⟩
  rw [resolveBreakdown?_eq, hselector, breakdown?_render _ hplain, ite_self]

theorem exists_toolbarPage : ∃ f, Fragment.ofGraph (elementPage toolbar) "page" = .ok f ∧
    f.size = 1 ∧ f.element? 0 = some toolbar ∧ f.descendants 0 = [] := by
  have hrun : ((elementPage toolbar).index "page").toOption.map
      (fun f => (f.size, f.element? 0, f.descendants 0)) = some (1, some toolbar, []) := by cbv
  obtain ⟨f, hf, hview⟩ := Fragment.exists_of_index (by decide) hrun
  simp only [Prod.mk.injEq] at hview
  exact ⟨f, hf, hview⟩

section Toolbar

variable {f : Fragment} (he : f.element? 0 = some toolbar)
include he

theorem element_toolbar : (toolbarDocument f []).element ⟨0, 0⟩ = toolbar := element_single he

theorem patternFor?_toolbar :
    patternFor? (toolbarDocument f []) ⟨0, 0⟩ = .ok (some toolbarPattern) := by
  rw [patternFor?, isDisclosure, element_toolbar he]
  rfl

/-- Without any script, no group of keys is handled. -/
theorem missingKeys_toolbar : missingKeys (toolbarDocument f []) ⟨0, 0⟩ toolbarPattern [] =
    .ok (toolbarPattern.keyGroups.map fun group => ⟨.keyHandling group, none⟩) := by
  have hactions : (toolbarDocument f []).actionsFor ⟨0, 0⟩ = [] := by
    rw [toolbarDocument, actionsFor_merge_eq]
    rfl
  have hhandled : handledKeys (toolbarDocument f []) ⟨0, 0⟩ = .ok [] := by
    rw [handledKeys, hactions, element_toolbar he]
    rfl
  have hmodal : isModal (toolbarDocument f []) ⟨0, 0⟩ = false := by
    rw [isModal, Document.valueOf, element_toolbar he, Document.mutationsFor, hactions]
    rfl
  simp only [missingKeys, keyGroups, hmodal, List.mapM_cons, List.mapM_nil, hhandled]
  rfl

theorem checkElement_toolbar (hbelow : f.descendants 0 = []) :
    checkElement (toolbarDocument f []) ⟨0, 0⟩ =
      .ok (finding? (toolbarDocument f []) ⟨0, 0⟩ toolbarPattern .keyboard
        (toolbarPattern.keyGroups.map fun group => ⟨.keyHandling group, none⟩)).toList := by
  have hinside : (toolbarDocument f []).descendants ⟨0, 0⟩ = (f.descendants 0).map (⟨0, ·⟩) := rfl
  have howned : (toolbarDocument f []).owned ⟨0, 0⟩ = [] := by
    rw [Document.owned, Document.valueOf, element_toolbar he, hinside, hbelow]
    rfl
  have hwidget : checkWidget (toolbarDocument f []) ⟨0, 0⟩ toolbarPattern =
      .ok (finding? (toolbarDocument f []) ⟨0, 0⟩ toolbarPattern .keyboard
        (toolbarPattern.keyGroups.map fun group => ⟨.keyHandling group, none⟩)).toList := by
    rw [checkWidget, howned, missingKeys_toolbar he]
    rfl
  have hplace : checkRole (toolbarDocument f []) ⟨0, 0⟩ toolbar.explicitRole? = .ok [] := rfl
  rw [checkElement_eq, patternFor?_toolbar he, element_toolbar he, hplace]
  show checkWidget (toolbarDocument f []) ⟨0, 0⟩ toolbarPattern >>= _ = _
  rw [hwidget]
  rfl

theorem analyze_toolbar (hsize : f.size = 1) (hbelow : f.descendants 0 = []) :
    ∃ issue, analyze (toolbarDocument f []) {} = .ok [issue] ∧
      Pattern.isKeyboardKind issue.kind = true := by
  have hkeys : (toolbarDocument f []).keys = [⟨0, 0⟩] := keysOf_single hsize
  have hkind := Pattern.isKeyboardKind_keyboard (mem_all_of_patternFor? (patternFor?_toolbar he))
  unfold analyze
  rw [hkeys, List.mapM_cons, checkElement_toolbar he hbelow]
  exact ⟨_, rfl, hkind⟩

end Toolbar

/-- A toolbar that gets a handler of one arrow key. -/
theorem analyze_insert_toolbar : ∃ f issue,
    Fragment.ofGraph (elementPage toolbar) "page" = .ok f ∧
      assemble {} [.indexed f] [] [] .null = .ok (toolbarDocument f []) ∧
      analyze (toolbarDocument f []) {} = .ok [issue] ∧
      Pattern.isKeyboardKind issue.kind = true ∧
      assemble {} [.indexed f] [{ actions := [arrowHandler] }] [] .null =
        .ok (toolbarDocument f [{ actions := [arrowHandler] }]) ∧
      ∃ issues', analyze (toolbarDocument f [{ actions := [arrowHandler] }]) {} = .ok issues' ∧
        issues'.filter (fun i => !Pattern.isKeyboardKind i.kind) =
          [issue].filter (fun i => !Pattern.isKeyboardKind i.kind) ∧
        List.SublistForall₂
          (Relieves (toolbarDocument f []) (toolbarDocument f [{ actions := [arrowHandler] }]) {})
          (issues'.filter fun i => Pattern.isKeyboardKind i.kind)
          ([issue].filter fun i => Pattern.isKeyboardKind i.kind) := by
  obtain ⟨f, hf, hsize, he, hbelow⟩ := exists_toolbarPage
  obtain ⟨issue, hrun, hkind⟩ := analyze_toolbar he hsize hbelow
  obtain ⟨hassemble, -, hafter⟩ := analyze_insert {} [.indexed f] []
    [{ actions := [arrowHandler] }] [] .null {} arrowHandler [] [] rfl rfl (by decide) rfl [issue] hrun
  have hbefore : assemble {} [.indexed f] [] [] .null = .ok (toolbarDocument f []) :=
    assemble_eq_ok.mpr ⟨rfl, rfl⟩
  exact ⟨f, issue, hf, hbefore, hrun, hkind,
    hassemble.mpr ⟨hbefore, resolveBreakdown?_arrowHandler #[f]⟩, hafter⟩

end Widget

end AccessAudit
