import AccessAudit.Proofs.Document.Slots
import AccessAudit.Proofs.Markup.Index
import AccessAudit.Proofs.Selector.Reading
import AccessAudit.Proofs.Selector.States

/-!
# The style matches of a merged document

The merge matches each rule in turn with all elements, with all states assumed, and records for each
branch that describes an element which states the branch asks for. Later the matches are filtered by
the states that hold. `stylesFor_merge` says what is recorded, and
`applicable_styles_match` that the filter is sound: a branch whose match applies describes the
element in the states that hold.
-/

namespace AccessAudit

open Selector

/-! ## What is recorded -/

theorem selectors_of_mem_placeRules {sheets : List StyleSheet} {r : PlacedRule}
    (h : r ∈ placeRules sheets) : r.selectors = SelectorList.parse r.rule.selector := by
  obtain ⟨⟨⟨source, rule⟩, place⟩, -, rfl⟩ := List.mem_map.mp h
  rfl

theorem PlacedRule.mem_branches {r : PlacedRule} {f : Fragment} {order : Nat}
    {branch : Selector.Complex} : branch ∈ r.branches f order ↔
      ∃ list, r.selectors = .ok list ∧ branch ∈ list ∧ branch.matches f .every order = true := by
  unfold PlacedRule.branches
  cases hr : r.selectors with
  | error why => simp
  | ok list =>
    constructor
    · intro h
      obtain ⟨⟨b, place⟩, hb, rfl⟩ := List.mem_map.mp h
      obtain ⟨hmem, hmatch⟩ := List.mem_filter.mp hb
      exact ⟨list, rfl, List.fst_mem_of_mem_zipIdx hmem, hmatch⟩
    · rintro ⟨_, ⟨⟩, hmem, hmatch⟩
      obtain ⟨place, hplace⟩ := List.mem_iff_getElem?.mp hmem
      refine List.mem_map.mpr ⟨(branch, place), List.mem_filter.mpr ⟨?_, hmatch⟩, rfl⟩
      exact List.mk_mem_zipIdx_iff_getElem?.mpr hplace

theorem PlacedRule.mem_matchesOf {r : PlacedRule} {f : Fragment} {order : Nat} {m : StyleMatch} :
    m ∈ r.matchesOf f order ↔ ∃ branch ∈ r.branches f order,
      m = { rule := r.rule, specificity := r.weight branch, order := r.place,
            states := branch.states.eraseDups, pseudoElement := branch.pseudoElement? } := by
  unfold PlacedRule.matchesOf
  rw [List.mem_map]
  exact exists_congr fun branch => and_congr_right fun _ => eq_comm

/-- A rule with a single branch that describes the element has one match, with the rule's weight. -/
theorem PlacedRule.matchesOf_single {r : PlacedRule} {f : Fragment} {order : Nat}
    {branch : Selector.Complex} (h : r.selectors = .ok [branch])
    (hmatch : branch.matches f .every order = true) :
    r.matchesOf f order =
      [{ rule := r.rule, specificity := r.rule.specificity, order := r.place,
         states := branch.states.eraseDups, pseudoElement := branch.pseudoElement? }] := by
  simp [PlacedRule.matchesOf, PlacedRule.branches, PlacedRule.weight,
    SelectorList.matchingBranches, h, hmatch]

section Merge

variable {config : Config} {inputs : List FragmentInput} {scripts : List Script}
  {sheets : List StyleSheet} {scope : Json} {key : Key}

/-- The matches of the rules in order of declaration, then that of the style attribute; nothing
where there is no element. -/
theorem stylesFor_merge :
    (merge config inputs scripts sheets scope).stylesFor key =
      ((merge config inputs scripts sheets scope).fragments[key.fragment]?.bind fun f =>
        (f.element? key.order).map fun e => (placeRules sheets).flatMap (·.matchesOf f key.order)
          ++ (inlineMatch? e ((placeRules sheets).length
            + inlinePlace (indexInputs 0 inputs).1.toArray key)).toList).getD [] := by
  have hstyles := styles_styled (indexInputs 0 inputs).1.toArray (flattenScripts scripts)
    (flattenSheets sheets) key
  rw [fragments_merge]
  refine hstyles.trans ?_
  unfold PlacedRule.matchesAt inlineAt? elementAt?
  cases (indexInputs 0 inputs).1.toArray[key.fragment]? with
  | none => simp
  | some f =>
    simp only [Option.bind_some]
    cases f.element? key.order with
    | none => simp
    | some e => rfl

theorem stylesFor_merge_of_element {f : Fragment} {e : Element}
    (hf : (merge config inputs scripts sheets scope).fragments[key.fragment]? = some f)
    (he : f.element? key.order = some e) :
    (merge config inputs scripts sheets scope).stylesFor key =
      (placeRules sheets).flatMap (·.matchesOf f key.order)
        ++ (inlineMatch? e ((placeRules sheets).length
          + inlinePlace (indexInputs 0 inputs).1.toArray key)).toList := by
  rw [stylesFor_merge, hf, Option.bind_some, he]
  rfl

theorem mem_stylesFor_merge {m : StyleMatch} :
    m ∈ (merge config inputs scripts sheets scope).stylesFor key ↔
      ∃ f e, (merge config inputs scripts sheets scope).fragments[key.fragment]? = some f ∧
        f.element? key.order = some e ∧
        ((∃ r ∈ placeRules sheets, m ∈ r.matchesOf f key.order) ∨
          inlineMatch? e ((placeRules sheets).length
            + inlinePlace (indexInputs 0 inputs).1.toArray key) = some m) := by
  rw [stylesFor_merge]
  cases hf : (merge config inputs scripts sheets scope).fragments[key.fragment]? with
  | none => simp
  | some f =>
    cases he : f.element? key.order with
    | none => simp [he]
    | some e => simp [he]

/-! ## Which matches apply -/

theorem StyleMatch.states_of_applies {m : StyleMatch} {names held : List String}
    (hnames : m.states = names.eraseDups) (h : m.applies held = true) : names ⊆ held := by
  unfold StyleMatch.applies at h
  simp only [Bool.and_eq_true, List.all_eq_true, hnames, List.mem_eraseDups] at h
  exact fun name hname => List.contains_iff_mem.mp (h.2 name hname)

theorem parse_hover : SelectorList.parse "p:hover" =
    .ok [.compound [.type "p", .pseudoClass "hover" .none]] := by
  have htype (fuel : Nat) : readCompound (fuel + 3) ("p".toList ++ ":hover".toList) =
      readParts (fuel + 2) [.type "p"] ":hover".toList :=
    readCompound_name (by decide) (nameEnds_cons (by decide)) (fuel + 2)
  have hstate (fuel : Nat) : readPseudo (fuel + 1) ("hover".toList ++ []) =
      .ok (.pseudoClass "hover" .none, []) :=
    readPseudo_name (by decide) nameEnds_nil (by decide) fuel (by decide +kernel)
  have hfirst : ∀ c ∈ "p:hover".toList.head?, Text.isBlank c = false := by
    rintro c ⟨⟩
    decide
  have hlast : ∀ c ∈ "p:hover".toList.getLast?, Text.isBlank c = false := by
    rintro c ⟨⟩
    decide
  refine parse_of_readCompound hfirst hlast fun fuel => ?_
  rw [show "p:hover".toList = "p".toList ++ ":hover".toList from rfl, htype,
    show ":hover".toList = ':' :: ("hover".toList ++ []) from rfl, readParts, hstate]
  exact readParts_nil fuel (List.cons_ne_nil _ _)

theorem parse_paragraph : SelectorList.parse "p" = .ok [.compound [.type "p"]] := by
  have hplain : (Simple.type "p").Plain := ⟨by decide, by decide +kernel⟩
  exact parse_render hplain

theorem breakdown?_paragraph (use : Selector.Use) : breakdown? use "p" = none := by
  rw [breakdown?, parse_paragraph]
  cases use <;> decide

/-- A page with a paragraph. -/
theorem exists_paragraph : ∃ f, Fragment.ofGraph Fragment.sharedText "page" = .ok f ∧
    f.element? 1 = some { tag := "p" } := by
  have hrun : (Fragment.sharedText.index "page").toOption.map (·.element? 1) =
      some (some { tag := "p" }) := by cbv
  exact Fragment.exists_of_index (by decide) hrun

/-- The page that is one element. -/
def elementPage (e : Element) : Graph where
  size := 1
  cells := #v[.element e []]
  root := .node ⟨0, Nat.one_pos⟩

theorem exists_elementPage (e : Element) : ∃ f, Fragment.ofGraph (elementPage e) "page" = .ok f ∧
    f.size = 1 ∧ f.element? 0 = some e := by
  have hrun : ((elementPage e).index "page").toOption.map (fun f => (f.size, f.element? 0)) =
      some (1, some e) := by cbv
  obtain ⟨f, hf, hview⟩ := Fragment.exists_of_index (by decide) hrun
  exact ⟨f, hf, Prod.mk.inj hview⟩

section OneFragment

variable {config : Config} {scripts : List Script} {sheets : List StyleSheet} {scope : Json}
  {f : Fragment} {order : Nat}

theorem keys_single :
    (merge config [.indexed f] scripts sheets scope).keys = f.orders.map (⟨0, ·⟩) := by
  show keysOf #[f] = _
  simp [keysOf]

theorem keysOf_single (hsize : f.size = 1) : keysOf #[f] = [⟨0, 0⟩] := by
  simp [keysOf, Fragment.orders, hsize]

theorem keysOf_pair {g : Fragment} (hsize : f.size = 1) (hsize' : g.size = 1) :
    keysOf #[f, g] = [⟨0, 0⟩, ⟨1, 0⟩] := by
  simp [keysOf, Fragment.orders, hsize, hsize']

theorem element_single {e : Element} (he : f.element? order = some e) :
    (merge config [.indexed f] scripts sheets scope).element ⟨0, order⟩ = e := by
  show ((f.element? order).getD default) = e
  rw [he]
  rfl

end OneFragment

section Paragraph

variable {f : Fragment} {order : Nat} {states : States}

theorem matches_paragraph (he : f.element? order = some { tag := "p" }) :
    Selector.Complex.matches f states order (.compound [.type "p"]) = true := by
  simp [Selector.Complex.matches, he, partsMatch, Simple.matches]

theorem matches_hover (he : f.element? order = some { tag := "p" })
    (hstate : states.holds "hover" = true) : Selector.Complex.matches f states order
      (.compound [.type "p", .pseudoClass "hover" .none]) = true := by
  simp [Selector.Complex.matches, he, partsMatch, Simple.matches, plainPseudoClass, hstate]

/-- A single rule for paragraphs has its one match with its own weight. -/
theorem stylesFor_paragraph (he : f.element? 1 = some { tag := "p" }) {r : Rule}
    (hr : r.selector = "p") :
    (merge {} [.indexed f] [] [{ rules := [r] }] .null).stylesFor ⟨0, 1⟩ =
      [{ rule := r, specificity := r.specificity, order := 0 }] := by
  have hrules : placeRules [{ rules := [r] }] =
      [⟨"style-0", r, 0, .ok [.compound [.type "p"]]⟩] := by
    rw [← parse_paragraph, ← hr]
    rfl
  have hmatch : PlacedRule.matchesOf ⟨"style-0", r, 0, .ok [.compound [.type "p"]]⟩ f 1 =
      [{ rule := r, specificity := r.specificity, order := 0 }] :=
    PlacedRule.matchesOf_single rfl (matches_paragraph he)
  have hinline (place : Nat) : inlineMatch? { tag := "p" } place = none := rfl
  rw [stylesFor_merge_of_element (f := f) rfl he, hrules]
  simp [hmatch, hinline]

end Paragraph

/-- A sheet with a rule that asks for a state. -/
def hoverSheet : StyleSheet := { rules := [{ selector := "p:hover" }] }

/-- What is recorded of the rule where it matches. -/
def hoverMatch : StyleMatch :=
  { rule := { selector := "p:hover" }, specificity := {}, order := 0, states := ["hover"] }

/-- Matching is monotone in the states, a match with all states holds once the states asked for do,
and so a recorded match that applies comes from a branch that describes the element in the states
that hold, if it does not come from a style attribute. -/
theorem applicable_styles_match :
    (∀ {c : Selector.Complex}, Parsed c → ∀ (f : Fragment) (order : Nat) (held : List String),
      (c.matches f (.only held) order = true → c.matches f .every order = true ∧
        ∀ more, held ⊆ more → c.matches f (.only more) order = true) ∧
      (c.matches f .every order = true → c.states ⊆ held →
        c.matches f (.only held) order = true)) ∧
    ∀ (config : Config) (inputs : List FragmentInput) (scripts : List Script)
      (sheets : List StyleSheet) (scope : Json) (key : Key) (held : List String) (m : StyleMatch),
      m ∈ (merge config inputs scripts sheets scope).stylesFor key → m.applies held = true →
      ∃ f e, (merge config inputs scripts sheets scope).fragments[key.fragment]? = some f ∧
        f.element? key.order = some e ∧
        ((∃ r ∈ placeRules sheets, ∃ list, SelectorList.parse r.rule.selector = .ok list ∧
          ∃ branch ∈ list, branch.matches f (.only held) key.order = true ∧
            m = { rule := r.rule, specificity := r.weight branch, order := r.place,
                  states := branch.states.eraseDups, pseudoElement := branch.pseudoElement? }) ∨
          ∃ place, inlineMatch? e place = some m) := by
  constructor
  · intro c hc f order held
    refine ⟨fun h => ⟨?_, fun more hsub => ?_⟩, fun h hstates => ?_⟩
    · exact c.matches_of_states f order hc.shaped States.covers_every h
    · exact c.matches_of_states f order hc.shaped (States.covers_only hsub) h
    · exact c.matches_of_states f order hc.shaped (States.covers_of_subset hstates) h
  · intro config inputs scripts sheets scope key held m hm happlies
    obtain ⟨f, e, hf, he, hm⟩ := mem_stylesFor_merge.mp hm
    refine ⟨f, e, hf, he, ?_⟩
    rcases hm with ⟨r, hr, hm⟩ | hinline
    · obtain ⟨branch, hbranch, rfl⟩ := PlacedRule.mem_matchesOf.mp hm
      obtain ⟨list, hlist, hmem, hmatch⟩ := PlacedRule.mem_branches.mp hbranch
      rw [selectors_of_mem_placeRules hr] at hlist
      refine .inl ⟨r, hr, list, hlist, branch, hmem, ?_, rfl⟩
      have hshape : branch.Shaped := (Parsed.branch hlist hmem).shaped
      have hstates : branch.states ⊆ held := StyleMatch.states_of_applies rfl happlies
      exact branch.matches_of_states f key.order hshape (States.covers_of_subset hstates) hmatch
    · exact .inr ⟨_, hinline⟩

/-- The rule is recorded for the paragraph, applies once the state holds, and then describes it. -/
theorem applicable_styles_match_hover :
    ∃ f, Fragment.ofGraph Fragment.sharedText "page" = .ok f ∧
      hoverMatch ∈ (merge {} [.indexed f] [] [hoverSheet] .null).stylesFor ⟨0, 1⟩ ∧
      hoverMatch.applies [] = false ∧ hoverMatch.applies ["hover"] = true ∧
      ∃ list, SelectorList.parse "p:hover" = .ok list ∧
        ∃ branch ∈ list, branch.matches f (.only ["hover"]) 1 = true := by
  have hrun : (Fragment.sharedText.index "page").toOption.map (·.element? 1) =
      some (some { tag := "p" }) := by cbv
  obtain ⟨f, hf, he⟩ := Fragment.exists_of_index (by decide) hrun
  have hmatch : Selector.Complex.matches f .every 1
      (.compound [.type "p", .pseudoClass "hover" .none]) = true := by
    simp [Selector.Complex.matches, he, partsMatch, Simple.matches, plainPseudoClass, States.holds]
  have hrules : placeRules [hoverSheet] =
      [⟨"style-0", { selector := "p:hover" }, 0, SelectorList.parse "p:hover"⟩] := rfl
  have hbranch : hoverMatch ∈ PlacedRule.matchesOf ⟨"style-0", { selector := "p:hover" }, 0,
      .ok [.compound [.type "p", .pseudoClass "hover" .none]]⟩ f 1 := by
    refine PlacedRule.mem_matchesOf.mpr ⟨.compound [.type "p", .pseudoClass "hover" .none], ?_, rfl⟩
    exact PlacedRule.mem_branches.mpr ⟨_, rfl, List.mem_singleton_self _, hmatch⟩
  have hm : hoverMatch ∈ (merge {} [.indexed f] [] [hoverSheet] .null).stylesFor ⟨0, 1⟩ := by
    refine mem_stylesFor_merge.mpr ⟨f, { tag := "p" }, rfl, he, .inl ?_⟩
    rw [hrules, parse_hover]
    exact ⟨_, List.mem_singleton_self _, hbranch⟩
  obtain ⟨f', e', hf', he', hsource⟩ := applicable_styles_match.2 {} [.indexed f] [] [hoverSheet]
    .null ⟨0, 1⟩ ["hover"] hoverMatch hm (by decide)
  obtain rfl : f = f' := Option.some.inj hf'
  obtain rfl := Option.some.inj (he.symm.trans he')
  refine ⟨f, hf, hm, by decide, by decide, ?_⟩
  rcases hsource with ⟨r, hr, list, hlist, branch, hbranch, hholds, -⟩ | ⟨place, hinline⟩
  · rw [hrules, List.mem_singleton] at hr
    subst hr
    exact ⟨list, hlist, branch, hbranch, hholds⟩
  · cases hinline

end Merge

end AccessAudit
