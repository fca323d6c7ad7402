import AccessAudit.Audit.Conflict
import AccessAudit.Audit.Widget
import AccessAudit.Proofs.Audit.Pointer
import AccessAudit.Proofs.Document.Splitting
import AccessAudit.Proofs.Style.Cascade
import Mathlib.Data.List.Perm.Basic

/-!
# Findings on actions alone

Without markup the analyzers have only the actions. One groups handlers by selector, the other goes
through the roles that scripts give to elements and looks for handlers before and after. What they
find is told here by membership in the list of actions (`PointerSelector`, `LacksKeys`), and neither
the groups nor the set of roles seen so far occurs in it. So the order of the actions does not
matter, nor does it matter how often one of them is there.
-/

namespace AccessAudit

/-- What an issue is about: its kind and the element. -/
def Issue.subject (i : Issue) : String × String := (i.kind, i.spot.element)

theorem Action.spot_element (a : Action) (file : String) : (a.spot file).element = a.selector := by
  unfold Action.spot
  cases a.location <;> rfl

/-! ## Checks that report at most once -/

section Reports

variable {ε α β γ : Type} {l : List α} {check : α → Except ε β} {results : List β}

theorem reports_of_mapM {P : α → Prop} {found : β → List γ} {subject : α → γ}
    (h : l.mapM check = .ok results)
    (hcheck : ∀ a ∈ l, ∀ b, check a = .ok b →
      P a ∧ found b = [subject a] ∨ ¬ P a ∧ found b = []) :
    ∃ reported : List α, reported.Sublist l ∧ (∀ a, a ∈ reported ↔ a ∈ l ∧ P a) ∧
      results.flatMap found = reported.map subject := by
  rw [mapM_eq_ok_iff] at h
  induction h with
  | nil => exact ⟨[], .slnil, by simp, rfl⟩
  | @cons a b rest bs hb hrest ih =>
    rw [List.forall_mem_cons] at hcheck
    obtain ⟨reported, hsub, hmem, hfound⟩ := ih hcheck.2
    rw [List.flatMap_cons, hfound]
    rcases hcheck.1 b hb with ⟨hP, hone⟩ | ⟨hP, hnone⟩
    · refine ⟨a :: reported, hsub.cons_cons a, ?_, by simp [hone]⟩
      intro other
      simp only [List.mem_cons, hmem]
      grind
    · refine ⟨reported, hsub.cons a, ?_, by simp [hnone]⟩
      intro other
      simp only [List.mem_cons, hmem]
      grind

/-- Items without repetition by a key, seen as their keys. -/
theorem map_eraseDupsBy [BEq β] [LawfulBEq β] (key : α → β) (items : List α) :
    (items.eraseDupsBy fun a b => key a == key b).map key = (items.map key).eraseDups := by
  match items with
  | [] => rfl
  | item :: rest =>
    have hkept : (fun b => decide ((key b == key item) = false)) =
        (fun b => !b == key item) ∘ key := by
      funext b
      simp
    rw [List.eraseDupsBy_cons, List.map_cons, List.map_cons, List.eraseDups_cons,
      map_eraseDupsBy key, List.filter_map, hkept]
termination_by items.length
decreasing_by exact Nat.lt_succ_of_le (List.length_filter_le _ _)

theorem subjects_perm {Reported Reported' : α → Prop} {reported reported' : List α}
    (hnodup : reported.Nodup) (hnodup' : reported'.Nodup)
    (hmem : ∀ a, a ∈ reported ↔ Reported a) (hmem' : ∀ a, a ∈ reported' ↔ Reported' a)
    (hsame : ∀ a, Reported' a ↔ Reported a) (subject : α → γ) :
    (reported'.map subject).Perm (reported.map subject) := by
  apply List.Perm.map
  rw [List.perm_ext_iff_of_nodup hnodup' hnodup]
  intro a
  rw [hmem', hmem, hsame]

end Reports

/-! ## Handlers for the pointer alone -/

namespace Conflict

variable {actions actions' : List Action} {context : AnalysisContext} {issues : List Issue}
  {s : String}

/-- Some action handles the pointer for a selector, and none handles the keyboard for it. -/
def PointerSelector (actions : List Action) (s : String) : Prop :=
  s ≠ "" ∧ (∃ a ∈ actions, a.selector = s ∧ a.isClick = true) ∧
    ∀ a ∈ actions, a.selector = s → a.isKeyboard = false

/-- Whatever a selector selects has the tag of a control: each of its branches asks for one. -/
def SelectsOnlyControls (s : String) : Prop :=
  ∃ list, SelectorList.parse s = .ok list ∧
    ∀ branch ∈ list, ∃ tag ∈ keyboardTags, Selector.Simple.type tag ∈ branch.subject

theorem any_asksForControl {parts : Selector.Compound} :
    parts.any asksForControl = true ↔ ∃ tag ∈ keyboardTags, Selector.Simple.type tag ∈ parts := by
  rw [List.any_eq_true]
  constructor
  · rintro ⟨part, hpart, hasks⟩
    cases part with
    | type tag => exact ⟨tag, List.contains_iff_mem.mp hasks, hpart⟩
    | _ => cases hasks
  · rintro ⟨tag, htag, hpart⟩
    exact ⟨_, hpart, List.contains_iff_mem.mpr htag⟩

theorem selectsControls_iff {native : Bool} (h : selectsControls s = .ok native) :
    native = true ↔ SelectsOnlyControls s := by
  unfold selectsControls at h
  unfold SelectsOnlyControls
  split at h
  · cases h
  · next list _ hparse =>
    obtain rfl := Except.ok.inj h
    simp only [hparse, Except.ok.injEq, exists_eq_left', List.all_eq_true, any_asksForControl]
  · next hparse =>
    obtain rfl := Except.ok.inj h
    simp [hparse]

theorem mem_handledSelectors : s ∈ handledSelectors actions ↔
    s ≠ "" ∧ ∃ a ∈ actions, a.event?.isSome = true ∧ a.selector = s := by
  unfold handledSelectors
  simp only [List.mem_eraseDups, List.mem_filter, List.mem_map, Bool.not_eq_true',
    String.isEmpty_eq_false_iff, and_assoc]
  exact and_comm

theorem PointerSelector.mem (h : PointerSelector actions s) : s ∈ handledSelectors actions := by
  obtain ⟨hne, ⟨a, ha, hselector, hclick⟩, -⟩ := h
  exact mem_handledSelectors.mpr ⟨hne, a, ha, Action.isSome_event? hclick, hselector⟩

/-- The handlers for a selector. -/
def handlersOf (actions : List Action) (s : String) : List Action :=
  actions.filter fun a => a.event?.isSome && a.selector == s

theorem mem_handlersOf {a : Action} : a ∈ handlersOf actions s ↔
    a ∈ actions ∧ a.event?.isSome = true ∧ a.selector = s := by
  simp [handlersOf]

theorem checkSelector_of_nil (h : (handlersOf actions s).filter Action.isClick = []) :
    checkSelector actions s = .ok none := by
  unfold handlersOf at h
  unfold checkSelector
  simp only [h]

theorem checkSelector_of_cons {first : Action} {others : List Action}
    (h : (handlersOf actions s).filter Action.isClick = first :: others) :
    checkSelector actions s =
      if (handlersOf actions s).any Action.isKeyboard then .ok none
      else (selectsControls s).map fun native =>
        if native then none else some (mouseOnlyFinding s first) := by
  unfold handlersOf at h ⊢
  unfold checkSelector
  simp only [h]
  split
  · rfl
  · cases selectsControls s <;> rfl

/-- A check comes to a finding or to none, and looks at the selector itself only if the handlers
call for it. -/
theorem checkSelector_cases (actions : List Action) (hne : s ≠ "") :
    (¬ PointerSelector actions s ∧ checkSelector actions s = .ok none) ∨
    (PointerSelector actions s ∧ ∃ first : Action, first.selector = s ∧
      checkSelector actions s = (selectsControls s).map fun native =>
        if native then none else some (mouseOnlyFinding s first)) := by
  cases hclicks : (handlersOf actions s).filter Action.isClick with
  | nil =>
    refine .inl ⟨?_, checkSelector_of_nil hclicks⟩
    rintro ⟨-, ⟨a, ha, hselector, hclick⟩, -⟩
    have hmem := mem_handlersOf.mpr ⟨ha, Action.isSome_event? hclick, hselector⟩
    exact List.filter_eq_nil_iff.mp hclicks a hmem hclick
  | cons first others =>
    have hfirst := List.mem_filter.mp (hclicks ▸ List.mem_cons_self)
    obtain ⟨hmem, -, hselector⟩ := mem_handlersOf.mp hfirst.1
    rw [checkSelector_of_cons hclicks]
    by_cases hkeyboard : (handlersOf actions s).any Action.isKeyboard = true
    · refine .inl ⟨?_, if_pos hkeyboard⟩
      rintro ⟨-, -, hno⟩
      obtain ⟨a, ha, hpress⟩ := List.any_eq_true.mp hkeyboard
      obtain ⟨ha, -, hsame⟩ := mem_handlersOf.mp ha
      rw [hno a ha hsame] at hpress
      cases hpress
    · refine .inr ⟨⟨hne, ⟨first, hmem, hselector, hfirst.2⟩, ?_⟩, first, hselector,
        if_neg hkeyboard⟩
      intro a ha hsame
      by_contra hpress
      rw [Bool.not_eq_false] at hpress
      apply hkeyboard
      exact List.any_eq_true.mpr
        ⟨a, mem_handlersOf.mpr ⟨ha, Action.isSome_event? hpress, hsame⟩, hpress⟩

theorem exists_checkSelector_iff (hne : s ≠ "") :
    (∃ found, checkSelector actions s = .ok found) ↔
      (PointerSelector actions s → ∃ native, selectsControls s = .ok native) := by
  rcases checkSelector_cases actions hne with ⟨hother, hcheck⟩ | ⟨hpointer, first, -, hcheck⟩
  · exact ⟨fun _ hpointer => absurd hpointer hother, fun _ => ⟨none, hcheck⟩⟩
  · rw [hcheck]
    cases selectsControls s <;> simp [hpointer, Except.map]

theorem checkSelector_reports (context : AnalysisContext) {found : Option Finding} (hne : s ≠ "")
    (h : checkSelector actions s = .ok found) :
    (PointerSelector actions s ∧ ¬ SelectsOnlyControls s) ∧
      found.toList.map (fun f => (f.issue analyzerName context).subject) = [(mouseOnlyKind, s)] ∨
    ¬ (PointerSelector actions s ∧ ¬ SelectsOnlyControls s) ∧
      found.toList.map (fun f => (f.issue analyzerName context).subject) = [] := by
  rcases checkSelector_cases actions hne with ⟨hother, hcheck⟩ | ⟨hpointer, first, rfl, hcheck⟩
  · rw [hcheck] at h
    obtain rfl := Except.ok.inj h
    exact .inr ⟨fun hreported => hother hreported.1, rfl⟩
  · rw [hcheck] at h
    cases hnative : selectsControls first.selector with
    | error why =>
      rw [hnative] at h
      cases h
    | ok native =>
      rw [hnative] at h
      obtain rfl := Except.ok.inj h
      have hcontrols := selectsControls_iff hnative
      cases native with
      | true => exact .inr ⟨fun hreported => hreported.2 (hcontrols.mp rfl), rfl⟩
      | false =>
        refine .inl ⟨⟨hpointer, fun honly => Bool.false_ne_true (hcontrols.mpr honly)⟩, ?_⟩
        simp [Issue.subject, Finding.issue, mouseOnlyFinding, Action.spot_element]

/-- The analysis succeeds exactly if each selector that it has to look at can be dealt with. -/
theorem exists_analyzeActions_iff :
    (∃ issues, analyzeActions actions context = .ok issues) ↔
      ∀ s, PointerSelector actions s → ∃ native, selectsControls s = .ok native := by
  unfold analyzeActions
  constructor
  · rintro ⟨issues, h⟩ s hpointer
    obtain ⟨findings, hfindings, -⟩ := ok_of_bind h
    have hfound := exists_of_mapM_ok hfindings hpointer.mem
    exact (exists_checkSelector_iff hpointer.1).mp hfound hpointer
  · intro h
    have hall : ∀ s ∈ handledSelectors actions, ∃ found, checkSelector actions s = .ok found := by
      intro s hs
      exact (exists_checkSelector_iff (mem_handledSelectors.mp hs).1).mpr (h s)
    obtain ⟨findings, hfindings⟩ := exists_mapM_ok hall
    rw [hfindings]
    exact ⟨_, rfl⟩

/-- Each selector with handlers for the pointer alone is reported once, unless it selects controls
only. -/
theorem reports_of_analyzeActions (h : analyzeActions actions context = .ok issues) :
    ∃ selectors : List String, selectors.Nodup ∧
      (∀ s, s ∈ selectors ↔ PointerSelector actions s ∧ ¬ SelectsOnlyControls s) ∧
      issues.map Issue.subject = selectors.map fun s => (mouseOnlyKind, s) := by
  obtain ⟨findings, hfindings, hissues⟩ := ok_of_bind h
  obtain ⟨selectors, hsub, hmem, hreported⟩ := reports_of_mapM hfindings
    fun s hs found => checkSelector_reports context (mem_handledSelectors.mp hs).1
  refine ⟨selectors, hsub.nodup (nodup_eraseDups _), ?_, ?_⟩
  · intro s
    rw [hmem]
    exact ⟨And.right, fun hreport => ⟨hreport.1.mem, hreport⟩⟩
  · rw [← hreported, ← Except.ok.inj hissues, List.map_map, List.filterMap_eq_flatMap_toList,
      List.map_flatMap]
    rfl

theorem PointerSelector.congr (h : actions.Perm actions') :
    PointerSelector actions' s ↔ PointerSelector actions s := by
  simp only [PointerSelector, h.mem_iff]

end Conflict

/-! ## Roles without keys -/

namespace Widget

variable {actions actions' : List Action} {context : AnalysisContext} {issues : List Issue}
  {s role key : String}

/-- Some action gives a role to what a selector selects. -/
def Assigned (actions : List Action) (s role : String) : Prop :=
  ∃ a ∈ actions, a.selector = s ∧
    ∃ value, a.deed = .mutate "role" value ∧ Text.normalize (value.getD "") = role

/-- Some action handles a key for a selector. -/
def Handles (actions : List Action) (s key : String) : Prop :=
  ∃ a ∈ actions, a.isKeyboard = true ∧ a.selector = s ∧
    ∃ keys, a.handledKeys = .ok keys ∧ key ∈ keys

/-- A role calls for keys that no action handles for a selector. -/
def LacksKeys (actions : List Action) (s role : String) : Prop :=
  ∃ p, Pattern.forRole? role = some p ∧
    ∃ group ∈ p.keyGroups, ∀ key ∈ group, ¬ Handles actions s key

/-- The keys of each handler for a selector can be told. -/
def TellsKeys (actions : List Action) (s : String) : Prop :=
  ∀ a ∈ actions, a.isKeyboard = true → a.selector = s → ∃ keys, a.handledKeys = .ok keys

/-- The kind of issue for a role whose keys are not handled. -/
def keyboardKind (role : String) : String :=
  ((Pattern.forRole? role).map (·.kind .keyboard)).getD ""

/-! ### The roles that are given -/

/-- The selector and the role of a change. -/
def RoleChange.assignment (c : RoleChange) : String × String := (c.selector, c.role)

theorem mem_roleChanges {c : RoleChange} : c ∈ roleChanges actions ↔
    c.action ∈ actions ∧ c.action.selector = c.selector ∧
      ∃ value, c.action.deed = .mutate "role" value ∧ Text.normalize (value.getD "") = c.role := by
  unfold roleChanges
  rw [List.mem_filterMap]
  constructor
  · rintro ⟨a, ha, hc⟩
    split at hc
    · next value hdeed =>
      obtain rfl := Option.some.inj hc
      exact ⟨ha, rfl, value, hdeed, rfl⟩
    · cases hc
  · rintro ⟨ha, hselector, value, hdeed, hrole⟩
    refine ⟨c.action, ha, ?_⟩
    rw [hdeed]
    simp only [hselector, hrole]

theorem assignments_eq : (distinctChanges (roleChanges actions)).map RoleChange.assignment =
    ((roleChanges actions).map RoleChange.assignment).eraseDups :=
  map_eraseDupsBy RoleChange.assignment (roleChanges actions)

theorem mem_assignments :
    (s, role) ∈ (distinctChanges (roleChanges actions)).map RoleChange.assignment ↔
      Assigned actions s role := by
  rw [assignments_eq, List.mem_eraseDups, List.mem_map]
  constructor
  · rintro ⟨c, hc, heq⟩
    obtain ⟨rfl, rfl⟩ := Prod.mk.inj heq
    obtain ⟨ha, hselector, hdeed⟩ := mem_roleChanges.mp hc
    exact ⟨c.action, ha, hselector, hdeed⟩
  · rintro ⟨a, ha, hselector, hdeed⟩
    exact ⟨⟨s, role, a⟩, mem_roleChanges.mpr ⟨ha, hselector, hdeed⟩, rfl⟩

/-! ### The keys that are handled -/

theorem mem_of_keysFor {keys : List String} (h : keysFor actions s = .ok keys) :
    key ∈ keys ↔ Handles actions s key := by
  obtain ⟨lists, hlists, hflat⟩ := ok_of_bind h
  obtain rfl := Except.ok.inj hflat
  simp only [List.mem_flatten, mem_of_mapM_ok hlists, List.mem_filter, Bool.and_eq_true, beq_iff_eq]
  constructor
  · rintro ⟨list, ⟨a, ⟨ha, hkeyboard, hselector⟩, hkeys⟩, hkey⟩
    exact ⟨a, ha, hkeyboard, hselector, list, hkeys, hkey⟩
  · rintro ⟨a, ha, hkeyboard, hselector, list, hkeys, hkey⟩
    exact ⟨list, ⟨a, ⟨ha, hkeyboard, hselector⟩, hkeys⟩, hkey⟩

theorem exists_keysFor_iff : (∃ keys, keysFor actions s = .ok keys) ↔ TellsKeys actions s := by
  unfold keysFor TellsKeys
  constructor
  · rintro ⟨keys, h⟩ a ha hkeyboard hselector
    obtain ⟨lists, hlists, -⟩ := ok_of_bind h
    apply exists_of_mapM_ok hlists
    simp [ha, hkeyboard, hselector]
  · intro h
    have hall : ∀ a ∈ actions.filter (fun a => a.isKeyboard && a.selector == s),
        ∃ keys, a.handledKeys = .ok keys := by
      intro a ha
      simp only [List.mem_filter, Bool.and_eq_true, beq_iff_eq] at ha
      exact h a ha.1 ha.2.1 ha.2.2
    obtain ⟨lists, hlists⟩ := exists_mapM_ok hall
    dsimp only
    rw [hlists]
    exact ⟨_, rfl⟩

theorem unhandled_eq_nil_iff {groups : List (List String)} {keys : List String} :
    unhandled groups keys = [] ↔ ∀ group ∈ groups, ∃ key ∈ group, key ∈ keys := by
  simp [unhandled]

/-! ### What is reported -/

theorem checkChange_of_none {c : RoleChange} (h : Pattern.forRole? c.role = none) :
    checkChange actions c = .ok [] := by
  unfold checkChange
  rw [h]

theorem keysFor_of_checkChange {c : RoleChange} {p : Pattern} {found : List Finding}
    (hp : Pattern.forRole? c.role = some p) (h : checkChange actions c = .ok found) :
    ∃ keys, keysFor actions c.selector = .ok keys := by
  unfold checkChange at h
  rw [hp] at h
  obtain ⟨keys, hkeys, -⟩ := ok_of_bind h
  exact ⟨keys, hkeys⟩

theorem checkChange_of_keysFor {c : RoleChange} {p : Pattern} {keys : List String}
    (hp : Pattern.forRole? c.role = some p) (hkeys : keysFor actions c.selector = .ok keys) :
    unhandled p.keyGroups keys = [] ∧ checkChange actions c = .ok [] ∨
    unhandled p.keyGroups keys ≠ [] ∧ ∃ f : Finding, checkChange actions c = .ok [f] ∧
      f.kind = p.kind .keyboard ∧ f.spot = c.action.spot "" := by
  unfold checkChange
  rw [hp]
  simp only [hkeys, bind, Except.bind]
  split
  · next hnone => exact .inl ⟨hnone, rfl⟩
  · next hsome => exact .inr ⟨hsome, _, rfl, rfl, rfl⟩

theorem exists_checkChange_iff {c : RoleChange} : (∃ found, checkChange actions c = .ok found) ↔
    ((Pattern.forRole? c.role).isSome = true → TellsKeys actions c.selector) := by
  rw [← exists_keysFor_iff]
  constructor
  · rintro ⟨found, h⟩ hsome
    obtain ⟨p, hp⟩ := Option.isSome_iff_exists.mp hsome
    exact keysFor_of_checkChange hp h
  · intro h
    cases hpattern : Pattern.forRole? c.role with
    | none => exact ⟨[], checkChange_of_none hpattern⟩
    | some p =>
      rw [hpattern] at h
      obtain ⟨keys, hkeys⟩ := h rfl
      rcases checkChange_of_keysFor hpattern hkeys with ⟨-, hcheck⟩ | ⟨-, f, hcheck, -⟩
      · exact ⟨[], hcheck⟩
      · exact ⟨[f], hcheck⟩

theorem lacksKeys_iff {p : Pattern} {keys : List String} (hp : Pattern.forRole? role = some p)
    (hkeys : keysFor actions s = .ok keys) :
    LacksKeys actions s role ↔ unhandled p.keyGroups keys ≠ [] := by
  rw [Ne, unhandled_eq_nil_iff]
  simp only [LacksKeys, hp, Option.some.injEq, exists_eq_left', mem_of_keysFor hkeys, not_forall,
    not_exists, not_and, exists_prop]

theorem checkChange_reports (context : AnalysisContext) {c : RoleChange} {found : List Finding}
    (hselector : c.action.selector = c.selector) (h : checkChange actions c = .ok found) :
    LacksKeys actions c.selector c.role ∧
      found.map (fun f => (f.issue analyzerName context).subject) =
        [(keyboardKind c.role, c.selector)] ∨
    ¬ LacksKeys actions c.selector c.role ∧
      found.map (fun f => (f.issue analyzerName context).subject) = [] := by
  cases hpattern : Pattern.forRole? c.role with
  | none =>
    rw [checkChange_of_none hpattern] at h
    obtain rfl := Except.ok.inj h
    refine .inr ⟨?_, rfl⟩
    rintro ⟨p, hp, -⟩
    rw [hpattern] at hp
    cases hp
  | some p =>
    obtain ⟨keys, hkeys⟩ := keysFor_of_checkChange hpattern h
    rw [lacksKeys_iff hpattern hkeys]
    rcases checkChange_of_keysFor hpattern hkeys with ⟨hnone, hcheck⟩ | ⟨hsome, f, hcheck, hf⟩
    · obtain rfl := Except.ok.inj (hcheck.symm.trans h)
      exact .inr ⟨fun hsome => hsome hnone, rfl⟩
    · obtain rfl := Except.ok.inj (hcheck.symm.trans h)
      refine .inl ⟨hsome, ?_⟩
      simp [Issue.subject, Finding.issue, keyboardKind, hpattern, hf.1, hf.2, Action.spot_element,
        hselector]

theorem selector_of_mem {c : RoleChange} (h : c ∈ distinctChanges (roleChanges actions)) :
    c.action.selector = c.selector :=
  (mem_roleChanges.mp ((eraseDupsBy_sublist _ _).subset h)).2.1

/-- The analysis succeeds exactly if the keys can be told of each handler that it has to look at. -/
theorem exists_analyzeActions_iff :
    (∃ issues, analyzeActions actions context = .ok issues) ↔
      ∀ s role, Assigned actions s role → (Pattern.forRole? role).isSome = true →
        TellsKeys actions s := by
  unfold analyzeActions
  constructor
  · rintro ⟨issues, h⟩ s role hassigned
    obtain ⟨findings, hfindings, -⟩ := ok_of_bind h
    obtain ⟨c, hc, heq⟩ := List.mem_map.mp (mem_assignments.mpr hassigned)
    obtain ⟨rfl, rfl⟩ := Prod.mk.inj heq
    exact exists_checkChange_iff.mp (exists_of_mapM_ok hfindings hc)
  · intro h
    have hall : ∀ c ∈ distinctChanges (roleChanges actions),
        ∃ found, checkChange actions c = .ok found := by
      intro c hc
      have hassigned := mem_assignments.mp (List.mem_map_of_mem hc)
      exact exists_checkChange_iff.mpr (h c.selector c.role hassigned)
    obtain ⟨findings, hfindings⟩ := exists_mapM_ok hall
    rw [hfindings]
    exact ⟨_, rfl⟩

/-- Each role that is given to a selector is reported once, if keys that it calls for are not
handled. -/
theorem reports_of_analyzeActions (h : analyzeActions actions context = .ok issues) :
    ∃ roles : List (String × String), roles.Nodup ∧
      (∀ q, q ∈ roles ↔ Assigned actions q.1 q.2 ∧ LacksKeys actions q.1 q.2) ∧
      issues.map Issue.subject = roles.map fun q => (keyboardKind q.2, q.1) := by
  obtain ⟨findings, hfindings, hissues⟩ := ok_of_bind h
  obtain ⟨changes, hsub, hmem, hreported⟩ := reports_of_mapM hfindings
    fun c hc found => checkChange_reports context (selector_of_mem hc)
  refine ⟨changes.map RoleChange.assignment, ?_, ?_, ?_⟩
  · have hnodup := nodup_eraseDups ((roleChanges actions).map RoleChange.assignment)
    rw [← assignments_eq] at hnodup
    exact (hsub.map RoleChange.assignment).nodup hnodup
  · rintro ⟨s, role⟩
    rw [← mem_assignments, List.mem_map, List.mem_map]
    constructor
    · rintro ⟨c, hc, heq⟩
      obtain ⟨hin, hlacks⟩ := (hmem c).mp hc
      obtain ⟨rfl, rfl⟩ := Prod.mk.inj heq
      exact ⟨⟨c, hin, rfl⟩, hlacks⟩
    · rintro ⟨⟨c, hin, heq⟩, hlacks⟩
      obtain ⟨rfl, rfl⟩ := Prod.mk.inj heq
      exact ⟨c, (hmem c).mpr ⟨hin, hlacks⟩, rfl⟩
  · rw [← Except.ok.inj hissues, List.map_map, List.map_flatten, List.map_map]
    exact hreported

theorem Assigned.congr (h : actions.Perm actions') :
    Assigned actions' s role ↔ Assigned actions s role := by
  simp only [Assigned, h.mem_iff]

theorem LacksKeys.congr (h : actions.Perm actions') :
    LacksKeys actions' s role ↔ LacksKeys actions s role := by
  simp only [LacksKeys, Handles, h.mem_iff]

theorem TellsKeys.congr (h : actions.Perm actions') :
    TellsKeys actions' s ↔ TellsKeys actions s := by
  simp only [TellsKeys, h.mem_iff]

end Widget

/-! ## The order of actions -/

/-- Analyses that succeed on some actions succeed on them in any order, and are about the same
elements then. One reports each selector with handlers for the pointer alone, unless it selects
controls only; the other each role that is given to a selector and calls for keys which are not
handled for it. Each is reported once. -/
theorem fileScope_perm {actions actions' : List Action} (h : actions.Perm actions')
    (context : AnalysisContext) :
    (∀ issues, Conflict.analyzeActions actions context = .ok issues →
      (∃ issues', Conflict.analyzeActions actions' context = .ok issues' ∧
        (issues'.map Issue.subject).Perm (issues.map Issue.subject)) ∧
      ∃ selectors : List String, selectors.Nodup ∧
        (∀ s, s ∈ selectors ↔
          Conflict.PointerSelector actions s ∧ ¬ Conflict.SelectsOnlyControls s) ∧
        issues.map Issue.subject = selectors.map fun s => (Conflict.mouseOnlyKind, s)) ∧
    ∀ issues, Widget.analyzeActions actions context = .ok issues →
      (∃ issues', Widget.analyzeActions actions' context = .ok issues' ∧
        (issues'.map Issue.subject).Perm (issues.map Issue.subject)) ∧
      ∃ roles : List (String × String), roles.Nodup ∧
        (∀ q, q ∈ roles ↔ Widget.Assigned actions q.1 q.2 ∧ Widget.LacksKeys actions q.1 q.2) ∧
        issues.map Issue.subject = roles.map fun q => (Widget.keyboardKind q.2, q.1) := by
  constructor
  · intro issues hissues
    obtain ⟨selectors, hnodup, hmem, hreports⟩ := Conflict.reports_of_analyzeActions hissues
    have hsucceeds := Conflict.exists_analyzeActions_iff.mp ⟨issues, hissues⟩
    have hsucceeds' : ∃ issues', Conflict.analyzeActions actions' context = .ok issues' :=
      Conflict.exists_analyzeActions_iff.mpr fun s hs =>
        hsucceeds s ((Conflict.PointerSelector.congr h).mp hs)
    obtain ⟨issues', hissues'⟩ := hsucceeds'
    obtain ⟨selectors', hnodup', hmem', hreports'⟩ := Conflict.reports_of_analyzeActions hissues'
    refine ⟨⟨issues', hissues', ?_⟩, selectors, hnodup, hmem, hreports⟩
    rw [hreports, hreports']
    exact subjects_perm hnodup hnodup' hmem hmem'
      (fun s => and_congr_left' (Conflict.PointerSelector.congr h)) _
  · intro issues hissues
    obtain ⟨roles, hnodup, hmem, hreports⟩ := Widget.reports_of_analyzeActions hissues
    have hsucceeds := Widget.exists_analyzeActions_iff.mp ⟨issues, hissues⟩
    have hsucceeds' : ∃ issues', Widget.analyzeActions actions' context = .ok issues' :=
      Widget.exists_analyzeActions_iff.mpr fun s role hassigned hsome =>
        (Widget.TellsKeys.congr h).mpr
          (hsucceeds s role ((Widget.Assigned.congr h).mp hassigned) hsome)
    obtain ⟨issues', hissues'⟩ := hsucceeds'
    obtain ⟨roles', hnodup', hmem', hreports'⟩ := Widget.reports_of_analyzeActions hissues'
    refine ⟨⟨issues', hissues', ?_⟩, roles, hnodup, hmem, hreports⟩
    rw [hreports, hreports']
    exact subjects_perm hnodup hnodup' hmem hmem'
      (fun q => and_congr (Widget.Assigned.congr h) (Widget.LacksKeys.congr h)) _

/-- Clicks on a paragraph are handled twice, and it is given the role of a button; keys are handled
for another element. -/
def paragraphActions : List Action :=
  [{ element := { selector := some "p" }, deed := .handle "click" none },
    { element := { selector := some "p" }, deed := .mutate "role" (some " Button") },
    { element := { selector := some "p" }, deed := .handle "click" none },
    { element := { selector := some "h1" }, deed := .handle "keydown" none }]

theorem selector_paragraphActions {a : Action} (ha : a ∈ paragraphActions) :
    a.selector = "p" ∧ a.isKeyboard = false ∨ a.selector = "h1" ∧ a.isClick = false := by
  have hall : paragraphActions.all (fun a => a.selector == "p" && !a.isKeyboard ||
    a.selector == "h1" && !a.isClick) = true := by decide +kernel
  have htold := List.all_eq_true.mp hall a ha
  simpa using htold

theorem selectsControls_paragraph : Conflict.selectsControls "p" = .ok false := by
  unfold Conflict.selectsControls
  rw [breakdown?_paragraph, parse_paragraph]
  decide

theorem pointerSelector_paragraph : Conflict.PointerSelector paragraphActions "p" := by
  refine ⟨by decide, ⟨_, List.mem_cons_self, by decide +kernel, by decide⟩, ?_⟩
  intro a ha hselector
  rcases selector_paragraphActions ha with ⟨-, hkeyboard⟩ | ⟨hother, -⟩
  · exact hkeyboard
  · rw [hselector] at hother
    exact absurd hother (by decide)

theorem lacksKeys_paragraph : Widget.LacksKeys paragraphActions "p" "button" := by
  refine ⟨_, rfl, Pattern.activation, List.mem_cons_self, ?_⟩
  rintro key - ⟨a, ha, hkeyboard, hselector, -⟩
  rcases selector_paragraphActions ha with ⟨-, hno⟩ | ⟨hother, -⟩
  · rw [hno] at hkeyboard
    cases hkeyboard
  · rw [hselector] at hother
    exact absurd hother (by decide)

theorem fileScope_perm_paragraph : paragraphActions.Perm paragraphActions.reverse ∧
    (∃ issues issues', Conflict.analyzeActions paragraphActions {} = .ok issues ∧
      Conflict.analyzeActions paragraphActions.reverse {} = .ok issues' ∧
      (issues'.map Issue.subject).Perm (issues.map Issue.subject) ∧
      ("mouse-only-click", "p") ∈ issues.map Issue.subject) ∧
    ∃ issues issues', Widget.analyzeActions paragraphActions {} = .ok issues ∧
      Widget.analyzeActions paragraphActions.reverse {} = .ok issues' ∧
      (issues'.map Issue.subject).Perm (issues.map Issue.subject) ∧
      ("incomplete-button-keyboard", "p") ∈ issues.map Issue.subject := by
  have hperm := (List.reverse_perm paragraphActions).symm
  obtain ⟨hpointer, hroles⟩ := fileScope_perm hperm {}
  refine ⟨hperm, ?_, ?_⟩
  · have hsucceeds : ∃ issues, Conflict.analyzeActions paragraphActions {} = .ok issues := by
      refine Conflict.exists_analyzeActions_iff.mpr ?_
      rintro s ⟨-, ⟨a, ha, rfl, hclick⟩, -⟩
      rcases selector_paragraphActions ha with ⟨hselector, -⟩ | ⟨-, hno⟩
      · exact ⟨false, hselector ▸ selectsControls_paragraph⟩
      · rw [hno] at hclick
        cases hclick
    obtain ⟨issues, hissues⟩ := hsucceeds
    obtain ⟨⟨issues', hissues', hsame⟩, selectors, -, hmem, hreports⟩ := hpointer issues hissues
    refine ⟨issues, issues', hissues, hissues', hsame, ?_⟩
    rw [hreports]
    refine List.mem_map_of_mem ((hmem "p").mpr ⟨pointerSelector_paragraph, ?_⟩)
    intro honly
    exact Bool.false_ne_true ((Conflict.selectsControls_iff selectsControls_paragraph).mpr honly)
  · have hsucceeds : ∃ issues, Widget.analyzeActions paragraphActions {} = .ok issues := by
      refine Widget.exists_analyzeActions_iff.mpr fun s role _ _ a ha _ _ => ?_
      simp only [paragraphActions, List.mem_cons, List.not_mem_nil, or_false] at ha
      rcases ha with rfl | rfl | rfl | rfl <;> exact ⟨_, rfl⟩
    obtain ⟨issues, hissues⟩ := hsucceeds
    obtain ⟨⟨issues', hissues', hsame⟩, roles, -, hmem, hreports⟩ := hroles issues hissues
    refine ⟨issues, issues', hissues, hissues', hsame, ?_⟩
    rw [hreports]
    have hassigned : Widget.Assigned paragraphActions "p" "button" :=
      ⟨_, List.mem_cons_of_mem _ List.mem_cons_self, by decide +kernel, _, rfl, by decide +kernel⟩
    have hbutton : ("p", "button") ∈ roles := (hmem _).mpr ⟨hassigned, lacksKeys_paragraph⟩
    exact List.mem_map.mpr ⟨_, hbutton, by decide +kernel⟩

end AccessAudit
