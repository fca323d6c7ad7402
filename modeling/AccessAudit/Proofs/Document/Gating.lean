import AccessAudit.Proofs.Document.Styles

/-!
# What the gate on states keeps out

A recorded match applies once all states hold that its branch names. `applicable_styles_match` says
that nothing passes this gate which does not describe the element. Here is the other direction:
whether a branch that describes the element always passes.

It does not. A chain names the states of every branch of a list in its conditions, and one branch is
enough to match, so a state may be named and not needed (`gate_drops_choice`). `gate_keeps_exactly`
says when that happens: a chain needs all states that it names, at an element, exactly when it does
not match the element once any one of them is taken away from those it names. That is so for every
element if the branches of each list outside negations all name the same states (`Uniform`), as
those of a list of one branch do, and those of a list without states.
-/

namespace AccessAudit

namespace Selector

open Text

/-! ## Chains that need the states they name -/

mutual

/-- Whichever branch of a choice is taken, the same states are asked for. -/
def Simple.Uniform : Simple → Prop
  | .pseudoClass name (.selectors list) =>
    name = "not" ∨ branchesUniform (branchesStates list) list
  | _ => True

/-- All conditions are uniform. -/
def partsUniform : List Simple → Prop
  | [] => True
  | part :: rest => part.Uniform ∧ partsUniform rest

/-- All compounds are uniform. -/
def Complex.Uniform : Complex → Prop
  | .compound parts => partsUniform parts
  | .join left _ parts => left.Uniform ∧ partsUniform parts

/-- All branches are uniform, and each asks for all of some states. -/
def branchesUniform (asked : List String) : List Complex → Prop
  | [] => True
  | branch :: rest => branch.Uniform ∧ asked ⊆ branch.states ∧ branchesUniform asked rest

end

variable {f : Fragment} {order : Nat} {e : Element} {name : String} {held : List String}

theorem isRuntimeState_of_static :
    ∀ name ∈ staticPseudoClasses, isRuntimeState name = false := by decide

theorem plainPseudoClass_asks {nth : Option (Int × Int)}
    (h : plainPseudoClass f (.only held) order e name nth = true) :
    (if name != "not" && isRuntimeState name then [name] else []) ⊆ held := by
  by_cases hstatic : name ∈ staticPseudoClasses
  · simp [isRuntimeState_of_static name hstatic]
  · rw [plainPseudoClass_of_not_static hstatic] at h
    have hheld : name ∈ held := List.contains_iff_mem.mp h
    intro asked hasked
    split at hasked
    · rwa [List.mem_singleton.mp hasked]
    · cases hasked

mutual

theorem Simple.states_of_matches (f : Fragment) (order : Nat) (e : Element) : (part : Simple) →
    part.Shaped → part.Uniform → part.matches f (.only held) order e = true → part.states ⊆ held
  | .type _, _, _, _ => List.nil_subset _
  | .universal, _, _, _ => List.nil_subset _
  | .id _, _, _, _ => List.nil_subset _
  | .className _, _, _, _ => List.nil_subset _
  | .attribute _ _, _, _, _ => List.nil_subset _
  | .pseudoElement _, _, _, _ => List.nil_subset _
  | .pseudoClass _ .none, _, _, h => plainPseudoClass_asks h
  | .pseudoClass _ (.nth _ _), _, _, h => plainPseudoClass_asks h
  | .pseudoClass name (.selectors list), hshape, huniform, h => by
    obtain ⟨hname, -, hlist⟩ := hshape
    unfold Simple.matches at h
    unfold Simple.states
    by_cases hnot : name == "not"
    · rw [if_pos hnot]
      exact List.nil_subset _
    · rw [if_neg hnot, if_pos (List.contains_iff_mem.mpr hname)] at h
      rw [if_neg hnot]
      have hbranches : branchesUniform (branchesStates list) list :=
        huniform.resolve_left fun heq => hnot (beq_iff_eq.mpr heq)
      exact anyMatches_asked f order list hlist hbranches h

theorem partsStates_of_match (f : Fragment) (order : Nat) (e : Element) :
    (parts : List Simple) → partsShaped parts → partsUniform parts →
    partsMatch f (.only held) order e parts = true → partsStates parts ⊆ held
  | [], _, _, _ => List.nil_subset _
  | part :: rest, hshape, huniform, h => by
    rw [partsMatch, Bool.and_eq_true] at h
    rw [partsStates]
    exact List.append_subset.mpr
      ⟨part.states_of_matches f order e hshape.1 huniform.1 h.1,
        partsStates_of_match f order e rest hshape.2 huniform.2 h.2⟩

theorem Complex.states_of_matches (f : Fragment) (order : Nat) : (c : Complex) → c.Shaped →
    c.Uniform → c.matches f (.only held) order = true → c.states ⊆ held
  | .compound parts, hshape, huniform, h => by
    rw [Complex.matches, Option.any_eq_true] at h
    obtain ⟨e, -, hparts⟩ := h
    exact partsStates_of_match f order e parts hshape.2.2 huniform hparts
  | .join left how parts, hshape, huniform, h => by
    rw [Complex.matches, Bool.and_eq_true, Option.any_eq_true, List.any_eq_true] at h
    obtain ⟨⟨e, -, hparts⟩, other, -, hleft⟩ := h
    rw [Complex.states]
    exact List.append_subset.mpr
      ⟨left.states_of_matches f other hshape.1 huniform.1 hleft,
        partsStates_of_match f order e parts hshape.2.2.2 huniform.2 hparts⟩

theorem anyMatches_asked {asked : List String} (f : Fragment) (order : Nat) :
    (list : List Complex) → branchesShaped list → branchesUniform asked list →
    anyMatches f (.only held) order list = true → asked ⊆ held
  | branch :: rest, hshape, huniform, h => by
    rw [anyMatches, Bool.or_eq_true] at h
    rcases h with h | h
    · exact List.Subset.trans huniform.2.1 (branch.states_of_matches f order hshape.1 huniform.1 h)
    · exact anyMatches_asked f order rest hshape.2 huniform.2.2 h

end

/-- The states that a chain names, without one of them. -/
def Complex.statesBut (c : Complex) (name : String) : List String := c.states.filter (· != name)

theorem Complex.states_required_iff {c : Complex} (hshape : c.Shaped) :
    (∀ held, c.matches f (.only held) order = true → c.states ⊆ held) ↔
      ∀ name ∈ c.states, c.matches f (.only (c.statesBut name)) order = false := by
  constructor
  · intro hgate name hname
    rw [Bool.eq_false_iff]
    intro h
    have hin : name ∈ c.statesBut name := hgate _ h hname
    simp [Complex.statesBut] at hin
  · intro hneeds held h name hname
    apply Decidable.byContradiction
    intro hnot
    have hcovers : (States.only held).Covers (.only (c.statesBut name)) c.states := by
      intro other hother hheld
      have hne : other ≠ name := by
        rintro rfl
        exact hnot (List.contains_iff_mem.mp hheld)
      simp [States.holds, Complex.statesBut, hother, hne]
    have hbut := c.matches_of_states f order hshape hcovers h
    rw [hneeds name hname] at hbut
    cases hbut

end Selector

open Selector

/-! ## The gate of a merged document -/

theorem Selector.Complex.element_of_matches {f : Fragment} {s : States} {order : Nat} :
    {c : Selector.Complex} → c.matches f s order = true → ∃ e, f.element? order = some e
  | .compound _, h => by
    rw [Complex.matches, Option.any_eq_true] at h
    exact ⟨h.choose, h.choose_spec.1⟩
  | .join _ _ _, h => by
    rw [Complex.matches, Bool.and_eq_true, Option.any_eq_true] at h
    exact ⟨h.1.choose, h.1.choose_spec.1⟩

theorem StyleMatch.applies_iff {m : StyleMatch} {held : List String} : m.applies held = true ↔
    m.pseudoElement = none ∧ m.rule.mediaQuery = none ∧ m.states ⊆ held := by
  simp [StyleMatch.applies, List.subset_def, and_assoc]

section Merge

variable {config : Config} {inputs : List FragmentInput} {scripts : List Script}
  {sheets : List StyleSheet} {scope : Json} {key : Key}

/-- A branch that describes the element in some states is recorded with all the states it names. -/
theorem mem_stylesFor_of_matches {f : Fragment} {r : PlacedRule} {list : SelectorList}
    {branch : Selector.Complex} {states : States}
    (hf : (merge config inputs scripts sheets scope).fragments[key.fragment]? = some f)
    (hr : r ∈ placeRules sheets) (hlist : SelectorList.parse r.rule.selector = .ok list)
    (hbranch : branch ∈ list) (h : branch.matches f states key.order = true) :
    { rule := r.rule, specificity := r.weight branch, order := r.place,
      states := branch.states.eraseDups, pseudoElement := branch.pseudoElement? } ∈
      (merge config inputs scripts sheets scope).stylesFor key := by
  obtain ⟨e, he⟩ := Complex.element_of_matches h
  have hshape : branch.Shaped := (Parsed.branch hlist hbranch).shaped
  have hevery : branch.matches f .every key.order = true :=
    branch.matches_of_states f key.order hshape States.covers_every h
  refine mem_stylesFor_merge.mpr ⟨f, e, hf, he, .inl ⟨r, hr, ?_⟩⟩
  refine PlacedRule.mem_matchesOf.mpr ⟨branch, PlacedRule.mem_branches.mpr ?_, rfl⟩
  exact ⟨list, (selectors_of_mem_placeRules hr).trans hlist, hbranch, hevery⟩

end Merge

/-- A chain needs all states that it names exactly when it needs each one of them, and a uniform
chain does. In a document, the match of a branch that describes an element is recorded, and nothing
keeps it out of the cascade but a pseudo-element, a condition on the medium, or a state that the
branch names and that does not hold. -/
theorem gate_keeps_exactly {c : Selector.Complex} (hc : Parsed c) (f : Fragment) (order : Nat) :
    ((∀ held, c.matches f (.only held) order = true → c.states ⊆ held) ↔
      ∀ name ∈ c.states, c.matches f (.only (c.statesBut name)) order = false) ∧
    (c.Uniform → ∀ held, c.matches f (.only held) order = true → c.states ⊆ held) ∧
    ∀ (config : Config) (inputs : List FragmentInput) (scripts : List Script)
      (sheets : List StyleSheet) (scope : Json) (place : Nat) (held : List String)
      (r : PlacedRule) (list : SelectorList),
      (merge config inputs scripts sheets scope).fragments[place]? = some f →
      r ∈ placeRules sheets → SelectorList.parse r.rule.selector = .ok list → c ∈ list →
      c.matches f (.only held) order = true →
      ∃ m ∈ (merge config inputs scripts sheets scope).stylesFor ⟨place, order⟩,
        m.rule = r.rule ∧ m.order = r.place ∧
        (m.applies held = true ↔ c.pseudoElement? = none ∧ r.rule.mediaQuery = none ∧
          c.states ⊆ held) := by
  refine ⟨Complex.states_required_iff hc.shaped, fun huniform held h => ?_, ?_⟩
  · exact c.states_of_matches f order hc.shaped huniform h
  · intro config inputs scripts sheets scope place held r list hf hr hlist hbranch h
    refine ⟨_, mem_stylesFor_of_matches hf hr hlist hbranch h, rfl, rfl, ?_⟩
    rw [StyleMatch.applies_iff]
    simp [List.subset_def]

/-- The state is needed where it is the only way to match. -/
theorem gate_keeps_hover : ∃ f, Fragment.ofGraph Fragment.sharedText "page" = .ok f ∧
    ∃ branch : Selector.Complex, Parsed branch ∧ branch.Uniform ∧
      branch.matches f (.only ["hover"]) 1 = true ∧ branch.states ⊆ ["hover"] ∧
      ∃ m ∈ (merge {} [.indexed f] [] [hoverSheet] .null).stylesFor ⟨0, 1⟩,
        m.applies ["hover"] = true := by
  obtain ⟨f, hf, he⟩ := exists_paragraph
  have hparsed : Parsed (.compound [.type "p", .pseudoClass "hover" .none]) :=
    .branch parse_hover (List.mem_singleton_self _)
  have huniform : Selector.Complex.Uniform (.compound [.type "p", .pseudoClass "hover" .none]) := by
    simp [Complex.Uniform, partsUniform, Simple.Uniform]
  have hmatch : Selector.Complex.matches f (.only ["hover"]) 1
      (.compound [.type "p", .pseudoClass "hover" .none]) = true := matches_hover he (by decide)
  obtain ⟨-, hneeded, hgate⟩ := gate_keeps_exactly hparsed f 1
  have hstates := hneeded huniform ["hover"] hmatch
  obtain ⟨m, hm, -, -, happlies⟩ := hgate {} [.indexed f] [] [hoverSheet] .null 0 ["hover"]
    ⟨"style-0", { selector := "p:hover" }, 0, SelectorList.parse "p:hover"⟩ _
    rfl (List.mem_singleton_self _) parse_hover (List.mem_singleton_self _) hmatch
  exact ⟨f, hf, _, hparsed, huniform, hmatch, hstates, m, hm, happlies.mpr ⟨rfl, rfl, hstates⟩⟩

/-! ## A state that is named and not needed -/

/-- A choice between a state and a type. -/
def choice : Selector.Complex :=
  .compound [.pseudoClass "is" (.selectors
    [.compound [.pseudoClass "hover" .none], .compound [.type "p"]])]

theorem parse_choice : SelectorList.parse ":is(:hover,p)" = .ok [choice] := by
  have hcomma : ArgumentEnds ",p)".toList := ⟨',', "p)".toList, rfl, .inl rfl⟩
  have hclose : ArgumentEnds ")".toList := ⟨')', [], rfl, .inr rfl⟩
  have hstate (fuel : Nat) : readPseudo (fuel + 1) ("hover".toList ++ ",p)".toList) =
      .ok (.pseudoClass "hover" .none, ",p)".toList) :=
    readPseudo_name (by decide) hcomma.nameEnds (by decide) fuel (by decide +kernel)
  have hfirst (fuel : Nat) : readCompound (fuel + 3) ":hover,p)".toList =
      .ok ([.pseudoClass "hover" .none], ",p)".toList) := by
    have hcolon : NameEnds ":hover,p)".toList := nameEnds_cons (by decide)
    rw [readCompound_of_nameEnds hcolon (by decide),
      show ":hover,p)".toList = ':' :: ("hover".toList ++ ",p)".toList) from rfl, readParts, hstate]
    exact readParts_ends hcomma (List.cons_ne_nil _ _) fuel
  have hsecond (fuel : Nat) : readCompound (fuel + 3) "p)".toList =
      .ok ([.type "p"], ")".toList) := by
    rw [show "p)".toList = "p".toList ++ ")".toList from rfl,
      readCompound_name (by decide) hclose.nameEnds]
    exact readParts_ends hclose (List.cons_ne_nil _ _) (fuel + 1)
  have hlist (fuel : Nat) : readList (fuel + 6) true ":hover,p)".toList =
      .ok ([.compound [.pseudoClass "hover" .none], .compound [.type "p"]], ")".toList) := by
    refine readList_comma (readComplex_ends hcomma (hfirst (fuel + 1))) ?_
    exact readList_last (readComplex_ends hclose (hsecond fuel))
  have hchoice (fuel : Nat) : readPseudo (fuel + 7) ("is".toList ++ '(' :: ":hover,p)".toList) =
      .ok (.pseudoClass "is" (.selectors
        [.compound [.pseudoClass "hover" .none], .compound [.type "p"]]), []) :=
    readPseudo_selectors (by decide) (by decide) (hlist fuel)
  have hcolon : NameEnds ":is(:hover,p)".toList := nameEnds_cons (by decide)
  refine parse_of_steps 9 (by rintro c ⟨⟩; decide) (by rintro c ⟨⟩; decide) (by decide)
    fun fuel => ?_
  rw [readCompound_of_nameEnds hcolon (by decide),
    show ":is(:hover,p)".toList = ':' :: ("is".toList ++ '(' :: ":hover,p)".toList) from rfl,
    readParts, hchoice]
  exact readParts_nil (fuel + 6) (List.cons_ne_nil _ _)

/-- A rule for what is in a state or of a type. -/
def choiceRule : Rule :=
  { selector := ":is(:hover,p)", properties := [("color", "red")], specificity := .ofClass }

/-- The choice describes the paragraph without any state, and names one: its rule gives the
paragraph no color until that state holds. -/
theorem gate_drops_choice : ∃ f, Fragment.ofGraph Fragment.sharedText "page" = .ok f ∧
    ∃ branch : Selector.Complex, Parsed branch ∧ branch.matches f (.only []) 1 = true ∧
      ¬ branch.states ⊆ [] ∧
      (merge {} [.indexed f] [] [{ rules := [choiceRule] }] .null).computedStyle ⟨0, 1⟩ [] = [] ∧
      (merge {} [.indexed f] [] [{ rules := [choiceRule] }] .null).computedStyle ⟨0, 1⟩ ["hover"] =
        [("color", "red")] := by
  obtain ⟨f, hf, he⟩ := exists_paragraph
  have hmatch (s : States) : choice.matches f s 1 = true := by
    simp [choice, Complex.matches, he, partsMatch, Simple.matches, anyMatches, takesSelectors]
  have hrules : placeRules [{ rules := [choiceRule] }] =
      [⟨"style-0", choiceRule, 0, .ok [choice]⟩] := by
    rw [← parse_choice]
    rfl
  have hmatches : PlacedRule.matchesOf ⟨"style-0", choiceRule, 0, .ok [choice]⟩ f 1 =
      [{ rule := choiceRule, specificity := .ofClass, order := 0, states := ["hover"] }] :=
    PlacedRule.matchesOf_single rfl (hmatch _)
  have hinline (place : Nat) : inlineMatch? { tag := "p" } place = none := rfl
  have hstyles : (merge {} [.indexed f] [] [{ rules := [choiceRule] }] .null).stylesFor ⟨0, 1⟩ =
      [{ rule := choiceRule, specificity := .ofClass, order := 0, states := ["hover"] }] := by
    rw [stylesFor_merge_of_element (f := f) rfl he, hrules]
    simp [hmatches, hinline]
  refine ⟨f, hf, choice, .branch parse_choice (List.mem_singleton_self _), hmatch _, by decide, ?_⟩
  unfold Document.computedStyle
  rw [hstyles]
  constructor
  · show (sortTexts []).filterMap _ = []
    simp [sortTexts]
  · have hnames : sortTexts ["color"] = ["color"] := by simp [sortTexts, List.eraseDups_cons]
    show (sortTexts ["color"]).filterMap _ = _
    rw [hnames]
    rfl

end AccessAudit
