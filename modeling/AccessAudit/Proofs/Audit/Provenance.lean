import AccessAudit.Proofs.Audit.Pointer
import AccessAudit.Proofs.Document.Hiding
import AccessAudit.Proofs.Style.Block

/-!
# The file that a finding names

A finding about an action that moves the focus to something hidden names the file of the action, and
for want of one the script it was read from. An element has a list of its actions but not of their
scripts, so the script is looked up: it is that of the first action of the document that says the
same. `focusToHidden_files` says what comes of this. The file is right for an action with a file of
its own, and for any other it is right exactly when the first action that says the same is in the
same script. In `focusToHidden_repeated` it is wrong: two scripts do the same, and both findings
name the first of them.

That some action says the same as an action of the document needs an argument, because sameness
looks fields up by their names. A value is the same as itself if each name in it occurs once
(`Json.same_self`).
-/

namespace AccessAudit

/-! ## Saying the same -/

mutual

/-- The fields of an object have different names, here and in all that is within. -/
def Json.NamesOnce : Json → Prop
  | .arr items => Json.ItemsNamesOnce items
  | .obj fields => (Entries.names fields).Nodup ∧ Json.FieldsNamesOnce fields
  | _ => True

/-- The same for the items of a list. -/
def Json.ItemsNamesOnce : List Json → Prop
  | [] => True
  | item :: rest => item.NamesOnce ∧ Json.ItemsNamesOnce rest

/-- The same for the values of some fields. -/
def Json.FieldsNamesOnce : List (String × Json) → Prop
  | [] => True
  | (_, value) :: rest => value.NamesOnce ∧ Json.FieldsNamesOnce rest

end

theorem Json.Numeric.same_self (x : Json.Numeric) : x.same x = true := by
  cases x with
  | whole n => simp [Json.Numeric.same]
  | decimal x => simp [Json.Numeric.same]

mutual

theorem Json.same_self : (j : Json) → j.NamesOnce → j.same j = true
  | .null, _ => by simp [Json.same]
  | .bool _, _ => by simp [Json.same, Json.numeric?, Json.Numeric.same_self]
  | .int _, _ => by simp [Json.same, Json.numeric?, Json.Numeric.same_self]
  | .float _, _ => by simp [Json.same, Json.numeric?, Json.Numeric.same_self]
  | .str _, _ => by simp [Json.same]
  | .arr items, h => by
    rw [Json.same]
    exact Json.sameItems_self items h
  | .obj fields, h => by
    rw [Json.same, beq_self_eq_true, Bool.true_and]
    exact Json.sameFields_of_get? fields fields h.2 fun entry hentry =>
      Entries.get?_of_mem h.1 hentry

theorem Json.sameItems_self :
    (items : List Json) → Json.ItemsNamesOnce items → Json.sameItems items items = true
  | [], _ => by simp [Json.sameItems]
  | item :: rest, h => by
    rw [Json.sameItems, Json.same_self item h.1, Json.sameItems_self rest h.2]
    rfl

/-- The second list of fields is the whole object in every step of the induction. -/
theorem Json.sameFields_of_get? : (fields others : Entries Json) → Json.FieldsNamesOnce fields →
    (∀ entry ∈ fields, others.get? entry.1 = some entry.2) → Json.sameFields fields others = true
  | [], _, _, _ => by simp [Json.sameFields]
  | (name, value) :: rest, others, h, hget => by
    have hfirst : others.lookup name = some value := hget (name, value) List.mem_cons_self
    have hrest := Json.sameFields_of_get? rest others h.2 fun entry hentry =>
      hget entry (List.mem_cons_of_mem _ hentry)
    rw [Json.sameFields, hfirst, hrest, Bool.and_true]
    exact Json.same_self value h.1

end

namespace Action

/-- The fields of what else is known of an action have different names. -/
def NamesOnce (a : Action) : Prop := (Json.obj a.metadata).NamesOnce

theorem same_self {a : Action} (h : a.NamesOnce) : a.same a = true := by
  simp [same, Json.same_self _ h]

/-! ## Files -/

/-- The file that an action itself is said to be in. -/
def ownFile? (a : Action) : Option String := (a.location.map Location.file).filter (· ≠ "")

theorem file_spot (a : Action) (source : String) :
    (a.spot source).file = a.ownFile?.getD source := by
  unfold spot ownFile?
  cases a.location with
  | none => rfl
  | some l =>
    by_cases hfile : l.file = ""
    · simp [hfile, Option.filter]
    · simp [hfile, Option.filter]

end Action

theorem source_ne_empty {scripts : List Script} {entry : String × Action}
    (h : entry ∈ flattenScripts scripts) : entry.1 ≠ "" := by
  rw [flattenScripts_eq] at h
  obtain ⟨⟨script, place⟩, -, hentry⟩ := List.mem_flatMap.mp h
  obtain ⟨a, -, rfl⟩ := List.mem_map.mp hentry
  dsimp only
  unfold Script.sourceAt
  split
  case isTrue => simp
  case isFalse hsource => simpa using hsource

section Merge

variable {config : Config} {inputs : List FragmentInput} {scripts : List Script}
  {sheets : List StyleSheet} {scope : Json}

/-- The source of an action is looked up by what it says. -/
theorem exists_sourceOfAction {entry : String × Action} (hentry : entry ∈ flattenScripts scripts)
    (hnames : entry.2.NamesOnce) : ∃ first ∈ flattenScripts scripts,
      (flattenScripts scripts).find? (fun other => other.2.same entry.2) = some first ∧
      (merge config inputs scripts sheets scope).sourceOfAction entry.2 = first.1 := by
  cases hfind : (flattenScripts scripts).find? fun other => other.2.same entry.2 with
  | none => exact absurd (Action.same_self hnames) (List.find?_eq_none.mp hfind entry hentry)
  | some first =>
    refine ⟨first, List.mem_of_find?_eq_some hfind, rfl, ?_⟩
    rw [Document.sourceOfAction, actions_merge, hfind]
    rfl

end Merge

namespace Conflict

/-! ## What is found -/

section Element

variable {d : Document} {key : Key} {c : ElementContext}

theorem lastingReason?_of_context (h : d.context key = .ok c) : lastingReason? d c =
    if (d.hiddenReason? key focusStates).isSome then d.hiddenReason? key [] else none := by
  unfold Document.context at h
  obtain ⟨role, -, h⟩ := ok_of_bind h
  obtain rfl := Except.ok.inj h
  rfl

/-- Of what is found at an element, the last check decides what is about moving the focus there. -/
theorem filter_checkElement_focus {findings : List Finding}
    (h : checkElement d key = .ok findings) :
    findings.filter (·.kind == focusToHiddenKind) =
      match if (d.hiddenReason? key focusStates).isSome then d.hiddenReason? key [] else none with
      | none => []
      | some reason => (focusMoves d key).map (focusToHidden d key reason) := by
  unfold checkElement at h
  obtain ⟨c, hc, h⟩ := ok_of_bind h
  obtain rfl := Except.ok.inj h
  obtain ⟨rfl, -⟩ := context_cases hc
  have hkept : (checkFocusToHidden d c).filter (·.kind == focusToHiddenKind) =
      checkFocusToHidden d c := by
    rw [List.filter_eq_self]
    intro f hf
    rw [kind_of_checkFocusToHidden hf, beq_self_eq_true]
  have hpointer : ∀ f ∈ checkMouseOnly d c, f.kind = mouseOnlyKind := by
    intro f hf
    rw [checkMouseOnly_eq] at hf
    split at hf
    · rw [List.mem_singleton.mp hf]
      rfl
    · cases hf
  rw [← lastingReason?_of_context hc]
  simp only [List.filter_append, hkept,
    filter_of_kind focusToHiddenKind (fun f hf => kind_of_checkFocusableHidden hf) (by decide),
    filter_of_kind focusToHiddenKind hpointer (by decide),
    filter_of_kind focusToHiddenKind (fun f hf => kind_of_checkAriaHidden hf) (by decide),
    filter_of_kind focusToHiddenKind (fun f hf => kind_of_checkInteractiveHidden hf) (by decide),
    List.nil_append]
  rfl

/-- An element that is hidden either way, and the actions that move the focus to it. -/
theorem filter_checkElement_hidden {findings : List Finding}
    (h : checkElement d key = .ok findings) (hhidden : (d.hiddenReason? key []).isSome = true)
    (hfocus : (d.hiddenReason? key focusStates).isSome = true) : ∃ reason,
      findings.filter (·.kind == focusToHiddenKind) =
        (focusMoves d key).map (focusToHidden d key reason) := by
  obtain ⟨reason, hreason⟩ := Option.isSome_iff_exists.mp hhidden
  refine ⟨reason, ?_⟩
  rw [filter_checkElement_focus h, if_pos hfocus, hreason]

end Element

section Merge

variable {config : Config} {inputs : List FragmentInput} {scripts : List Script}
  {sheets : List StyleSheet} {scope : Json}

/-- The actions of all scripts that move the focus to an element, each with its source. -/
def focusEntries (fragments : Array Fragment) (scripts : List Script) (key : Key) :
    List (String × Action) :=
  (flattenScripts scripts).filter fun entry => entry.2.deed == .focus .focus &&
    (resolvedKeys fragments entry.2.selector).contains key

theorem focusMoves_merge {key : Key} : focusMoves (merge config inputs scripts sheets scope) key =
    (focusEntries (merge config inputs scripts sheets scope).fragments scripts key).map
      Prod.snd := by
  rw [focusMoves, actionsFor_merge, focusEntries, fragments_merge, List.filter_map,
    List.filter_filter]
  rfl

/-- The file that a finding about an action names. -/
theorem file_focusToHidden {a : Action} {first : String × Action}
    (hfirst : first ∈ flattenScripts scripts)
    (hsource : (merge config inputs scripts sheets scope).sourceOfAction a = first.1) (key : Key)
    (reason : String) :
    (focusToHidden (merge config inputs scripts sheets scope) key reason a).spot.file =
      a.ownFile?.getD first.1 := by
  have hne := source_ne_empty hfirst
  unfold focusToHidden
  dsimp only
  rw [hsource, if_neg (by simpa using hne), Action.file_spot]

end Merge

/-- An element that is hidden, with the focus and without it, gets one finding for each action that
moves the focus to it, in the order of the scripts. The finding names the action's own file or else
the source of the first action that says the same. This is the action's own source exactly when that
one is in the same script. -/
theorem focusToHidden_files (config : Config) (inputs : List FragmentInput) (scripts : List Script)
    (sheets : List StyleSheet) (scope : Json) (key : Key)
    (hnames : ∀ entry ∈ flattenScripts scripts, entry.2.NamesOnce) :
    let d := merge config inputs scripts sheets scope
    (∃ role, d.roleOf key = .ok role) → (d.hiddenReason? key []).isSome = true →
    (d.hiddenReason? key focusStates).isSome = true →
    focusMoves d key = (focusEntries d.fragments scripts key).map Prod.snd ∧
    ∃ findings, checkElement d key = .ok findings ∧
      List.Forall₂ (fun (entry : String × Action) (finding : Finding) =>
          finding.spot.element = entry.2.selector ∧
          ∃ first ∈ flattenScripts scripts,
            (flattenScripts scripts).find? (fun other => other.2.same entry.2) = some first ∧
            finding.spot.file = entry.2.ownFile?.getD first.1 ∧
            (finding.spot.file = entry.2.ownFile?.getD entry.1 ↔
              entry.2.ownFile?.isSome = true ∨ first.1 = entry.1))
        (focusEntries d.fragments scripts key)
        (findings.filter (·.kind == focusToHiddenKind)) := by
  intro d hrole hhidden hfocus
  obtain ⟨findings, hfindings⟩ := exists_checkElement_iff.mpr hrole
  obtain ⟨reason, hfilter⟩ := filter_checkElement_hidden hfindings hhidden hfocus
  refine ⟨focusMoves_merge, findings, hfindings, ?_⟩
  rw [hfilter, focusMoves_merge, List.forall₂_map_right_iff, List.forall₂_map_right_iff,
    List.forall₂_same]
  intro entry hmove
  have hentry : entry ∈ flattenScripts scripts := List.mem_of_mem_filter hmove
  obtain ⟨first, hfirst, hfind, hsource⟩ := exists_sourceOfAction hentry (hnames entry hentry)
  have hfile := file_focusToHidden hfirst hsource key reason
  refine ⟨?_, first, hfirst, hfind, hfile, ?_⟩
  · unfold focusToHidden Action.spot
    cases entry.2.location with
    | none => rfl
    | some l => rfl
  · rw [hfile]
    cases entry.2.ownFile? with
    | none => simp
    | some file => simp

/-! ## A menu that is not shown -/

/-- A style that does not display an element hides it. -/
theorem isSome_hiddenReason? {d : Document} {key : Key} {states : List String}
    (h : (d.computedStyle key states).get? "display" = some "none") :
    (d.hiddenReason? key states).isSome = true := by
  refine Document.isSome_hiddenReason?_iff.mpr (.inl ⟨key, List.mem_cons_self, .inl ?_⟩)
  rw [NotDisplayed, styleValue, h]
  decide

/-- A menu that is not displayed. -/
def hiddenMenu : Element :=
  { tag := "p", attributes := [("id", "menu"), ("style", "display: none")] }

/-- An action that moves the focus to the menu. -/
def focusMenu : Action := { element := { selector := some "#menu" }, deed := .focus .focus }

/-- One that names it by its id, with more known about it. -/
def focusMenuById : Action :=
  { element := { id := some "menu" }, deed := .focus .focus
    metadata := [("on", .obj [("key", .str "Enter"), ("times", .int 2)])] }

section HiddenMenu

variable {f : Fragment} (scripts : List Script)

theorem fragments_single : (merge {} [.indexed f] scripts [] .null).fragments = #[f] := rfl

theorem display_hiddenMenu (he : f.element? 0 = some hiddenMenu) (states : List String) :
    ((merge {} [.indexed f] scripts [] .null).computedStyle ⟨0, 0⟩ states).get? "display" =
      some "none" := by
  have hvalue : (Rule.inline "display: none" hiddenMenu.location).properties.get? "display" =
      some "none" := by decide +kernel
  have htext : inlineText? hiddenMenu = some "display: none" := by decide +kernel
  rw [get?_computedStyle_single {} scripts .null he htext, hvalue]

theorem exists_roleOf_hiddenMenu (he : f.element? 0 = some hiddenMenu) :
    ∃ role, (merge {} [.indexed f] scripts [] .null).roleOf ⟨0, 0⟩ = .ok role := by
  rw [Document.roleOf, element_single he]
  exact ⟨_, rfl⟩

theorem focusEntries_hiddenMenu (hsize : f.size = 1) (he : f.element? 0 = some hiddenMenu)
    (h : ∀ entry ∈ flattenScripts scripts, entry.2.deed = .focus .focus ∧
      entry.2.selector = "#menu") :
    focusEntries #[f] scripts ⟨0, 0⟩ = flattenScripts scripts := by
  have hkeys : keysOf #[f] = [⟨0, 0⟩] := keysOf_single hsize
  have hat : elementAt? #[f] ⟨0, 0⟩ = some hiddenMenu := he
  have hown : "#menu" ∈ hiddenMenu.candidateSelectors := by decide +kernel
  have hlookup : (CandidateIndex.build #[f]).lookup "#menu" = [⟨0, 0⟩] := by
    simp [lookup_build, hkeys, hat, hown]
  have hresolved := resolvedKeys_of_found (by decide) hlookup
  rw [ite_self] at hresolved
  rw [focusEntries, List.filter_eq_self]
  intro entry hentry
  obtain ⟨hdeed, hselector⟩ := h entry hentry
  rw [hdeed, hselector, hresolved]
  decide

end HiddenMenu

/-- Two scripts. -/
def twoScripts (first second : List Action) : List Script := [⟨"a.js", first⟩, ⟨"b.js", second⟩]

theorem flattenScripts_twoScripts (first second : List Action) :
    flattenScripts (twoScripts first second) =
      first.map ("a.js", ·) ++ second.map ("b.js", ·) := by
  simp [flattenScripts, twoScripts]

/-- A script that does the same twice and one that does something else are told apart. -/
theorem focusToHidden_files_menu : ∃ f findings,
    Fragment.ofGraph (elementPage hiddenMenu) "page" = .ok f ∧
    checkElement (merge {} [.indexed f] (twoScripts [focusMenu, focusMenu] [focusMenuById]) []
      .null) ⟨0, 0⟩ = .ok findings ∧
    (findings.filter (·.kind == focusToHiddenKind)).map (·.spot.file) =
      ["a.js", "a.js", "b.js"] := by
  obtain ⟨f, hf, hsize, he⟩ := exists_elementPage hiddenMenu
  have hflat := flattenScripts_twoScripts [focusMenu, focusMenu] [focusMenuById]
  have hentries := focusEntries_hiddenMenu (twoScripts [focusMenu, focusMenu] [focusMenuById])
    hsize he (by rw [hflat]; decide)
  have hnames : focusMenu.NamesOnce ∧ focusMenuById.NamesOnce := by
    simp [Action.NamesOnce, Json.NamesOnce, Json.FieldsNamesOnce, Entries.names, focusMenu,
      focusMenuById]
  obtain ⟨-, findings, hfindings, hfiles⟩ := focusToHidden_files {} [.indexed f]
    (twoScripts [focusMenu, focusMenu] [focusMenuById]) [] .null ⟨0, 0⟩ (by simp [hflat, hnames])
    (exists_roleOf_hiddenMenu _ he) (isSome_hiddenReason? (display_hiddenMenu _ he _))
    (isSome_hiddenReason? (display_hiddenMenu _ he _))
  refine ⟨f, findings, hf, hfindings, ?_⟩
  have hown : focusMenu.ownFile? = none ∧ focusMenuById.ownFile? = none := ⟨rfl, rfl⟩
  have hsame : focusMenu.same focusMenu = true ∧ focusMenu.same focusMenuById = false ∧
    focusMenuById.same focusMenuById = true := by decide +kernel
  rw [fragments_single, hentries, hflat] at hfiles
  simp only [List.map_cons, List.map_nil, List.cons_append, List.nil_append,
    List.forall₂_cons_left_iff, List.forall₂_nil_left_iff] at hfiles
  obtain ⟨one, _, ⟨-, _, -, hfirst, hone, -⟩, ⟨two, _, ⟨-, _, -, hsecond, htwo, -⟩,
    ⟨three, _, ⟨-, _, -, hthird, hthree, -⟩, rfl, rfl⟩, rfl⟩, hall⟩ := hfiles
  simp only [List.find?_cons, hsame, Option.some.injEq] at hfirst hsecond hthird
  subst hfirst hsecond hthird
  rw [hall]
  simp [hone, htwo, hthree, hown]

/-- Two scripts do the same, and both findings name the first. -/
theorem focusToHidden_repeated : ∃ f findings,
    Fragment.ofGraph (elementPage hiddenMenu) "page" = .ok f ∧
    let scripts := twoScripts [focusMenu] [focusMenu]
    let d := merge {} [.indexed f] scripts [] .null
    (d.hiddenReason? ⟨0, 0⟩ []).isSome = true ∧ (d.hiddenReason? ⟨0, 0⟩ focusStates).isSome = true ∧
    focusEntries d.fragments scripts ⟨0, 0⟩ = [("a.js", focusMenu), ("b.js", focusMenu)] ∧
    focusMenu.ownFile? = none ∧ checkElement d ⟨0, 0⟩ = .ok findings ∧
    (findings.filter (·.kind == focusToHiddenKind)).map (·.spot.file) = ["a.js", "a.js"] := by
  obtain ⟨f, hf, hsize, he⟩ := exists_elementPage hiddenMenu
  have hflat := flattenScripts_twoScripts [focusMenu] [focusMenu]
  have hentries := focusEntries_hiddenMenu (twoScripts [focusMenu] [focusMenu]) hsize he
    (by rw [hflat]; decide)
  have hhidden (states : List String) := isSome_hiddenReason?
    (display_hiddenMenu (twoScripts [focusMenu] [focusMenu]) he states)
  obtain ⟨findings, hfindings⟩ := exists_checkElement_iff.mpr
    (exists_roleOf_hiddenMenu (twoScripts [focusMenu] [focusMenu]) he)
  obtain ⟨reason, hfilter⟩ := filter_checkElement_hidden hfindings (hhidden _) (hhidden _)
  have hown : focusMenu.ownFile? = none := rfl
  refine ⟨f, findings, hf, hhidden _, hhidden _, hentries.trans hflat, hown, hfindings, ?_⟩
  have hmem : ("a.js", focusMenu) ∈ flattenScripts (twoScripts [focusMenu] [focusMenu]) := by
    simp [hflat]
  have hsource : (merge {} [.indexed f] (twoScripts [focusMenu] [focusMenu]) []
      .null).sourceOfAction focusMenu = "a.js" := by
    have hsame : focusMenu.same focusMenu = true := by decide +kernel
    rw [Document.sourceOfAction, actions_merge, hflat]
    simp [hsame]
  have hfile := file_focusToHidden hmem hsource ⟨0, 0⟩ reason
  rw [hfilter, focusMoves_merge, fragments_single, hentries, hflat]
  simp [hfile, hown]

end Conflict

end AccessAudit
