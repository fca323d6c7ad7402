import AccessAudit.Proofs.Document.Computed
import AccessAudit.Proofs.Style.Block

/-!
# Style attributes against style sheets

A style attribute is a rule of its own, heavier than every rule whose weight comes from its
selector: no selector sets the first count of a weight, whatever lists it has in its conditions
(`ofText_inline`). So for a property that an element's attribute declares, the cascade has one
question left, whether a rule declares it as important while the attribute does not.
`computedStyle_inline` answers it both ways.

Only a weight that the caller declares can be as heavy as an attribute, so the rules here have the
weight of their selectors (`Rule.OwnWeight`). Whether a rule is marked as declared does not matter.
-/

namespace AccessAudit

open Text Selector

/-! ## No selector sets the first count -/

theorem Specificity.inline_add (a b : Specificity) : (a + b).inline = a.inline + b.inline := rfl

theorem Specificity.inline_max {a b : Specificity} (ha : a.inline = 0) (hb : b.inline = 0) :
    (a.max b).inline = 0 := by
  unfold Specificity.max
  split
  · exact hb
  · exact ha

mutual

theorem Selector.Simple.inline_specificity : (part : Simple) → part.specificity.inline = 0
  | .type _ => rfl
  | .universal => rfl
  | .id _ => rfl
  | .className _ => rfl
  | .attribute _ _ => rfl
  | .pseudoElement _ => rfl
  | .pseudoClass name .none => by
    rw [Simple.specificity]
    · split <;> rfl
    · exact nofun
  | .pseudoClass name (.nth _ _) => by
    rw [Simple.specificity]
    · split <;> rfl
    · exact nofun
  | .pseudoClass name (.selectors list) => by
    rw [Simple.specificity]
    split
    · rfl
    · split
      · exact inline_branchesSpecificity list
      · rfl

theorem Selector.inline_partsSpecificity : (parts : List Simple) →
    (partsSpecificity parts).inline = 0
  | [] => rfl
  | part :: rest => by
    rw [partsSpecificity, Specificity.inline_add, part.inline_specificity,
      inline_partsSpecificity rest]
    rfl

theorem Selector.Complex.inline_specificity : (c : Selector.Complex) → c.specificity.inline = 0
  | .compound parts => by
    rw [Complex.specificity]
    exact inline_partsSpecificity parts
  | .join left _ parts => by
    rw [Complex.specificity, Specificity.inline_add, left.inline_specificity,
      inline_partsSpecificity parts]
    rfl

theorem Selector.inline_branchesSpecificity : (list : List Selector.Complex) →
    (branchesSpecificity list).inline = 0
  | [] => rfl
  | [branch] => by
    rw [branchesSpecificity]
    exact branch.inline_specificity
  | branch :: next :: rest => by
    rw [branchesSpecificity]
    · exact Specificity.inline_max branch.inline_specificity
        (inline_branchesSpecificity (next :: rest))
    · exact nofun

end

theorem ofText_inline (s : String) : (Specificity.ofText s).inline = 0 := by
  unfold Specificity.ofText
  cases SelectorList.parse s with
  | ok list => exact inline_branchesSpecificity list
  | error why => rfl

/-- The weight of a rule is that of its selector. -/
def Rule.OwnWeight (r : Rule) : Prop := r.specificity = Specificity.ofText r.selector

/-- A rule that is read without a weight has its own, however it is marked. -/
theorem Rule.ownWeight_of_read {fields : Entries Json} {r : Rule}
    (h : Rule.read (.obj fields) = .ok r) (hnone : (fields.get? "specificity").getD .null = .null) :
    r.OwnWeight := by
  obtain ⟨selector, properties, important, weight, declared, mediaQuery, location, rfl, hweight,
    -⟩ := Rule.read_eq_make h
  rw [hnone] at hweight
  obtain rfl : none = weight := Checked.ok.inj hweight
  simp [Rule.OwnWeight]

theorem PlacedRule.weight_cases (r : PlacedRule) (branch : Selector.Complex) :
    r.weight branch = r.rule.specificity ∨ r.weight branch = branch.specificity := by
  unfold PlacedRule.weight
  exact ite_eq_or_eq _ _ _

theorem PlacedRule.inline_weight {r : PlacedRule} (h : r.rule.OwnWeight)
    (branch : Selector.Complex) : (r.weight branch).inline = 0 := by
  rcases r.weight_cases branch with hweight | hweight
  · rw [hweight, h]
    exact ofText_inline _
  · rw [hweight]
    exact branch.inline_specificity

/-! ## The match of a style attribute -/

theorem inlineText?_of_declares {e : Element} {text p value : String}
    (htext : e.get? "style" = some text)
    (hvalue : (Rule.inline text e.location).properties.get? p = some value) :
    inlineText? e = some text := by
  have hblank : isBlankText text = false := by
    rw [Bool.eq_false_iff]
    intro hblank
    rw [Rule.inline, Declarations.parse_blank hblank] at hvalue
    cases hvalue
  rw [inlineText?, htext]
  simp [hblank]

/-- A match of a style sheet that applies and declares a property as important. -/
structure StyleMatch.Insists (m : StyleMatch) (held : List String) (p : String) : Prop where
  fromSheet : m.inline = false
  applies : m.applies held = true
  declares : p ∈ m.rule.properties.names
  important : p ∈ m.rule.important

theorem StyleMatch.not_yields_self (p : String) (m : StyleMatch) : ¬ m.Yields p m := by
  rw [← cascadeKey_lt_iff]
  exact List.lt_irrefl _

section Merge

variable {config : Config} {inputs : List FragmentInput} {scripts : List Script}
  {sheets : List StyleSheet} {scope : Json} {key : Key} {f : Fragment} {e : Element}
  {held : List String} {m : StyleMatch} {text p value : String}

theorem rule_mem_of_mem_placeRules {r : PlacedRule} (h : r ∈ placeRules sheets) :
    ∃ sheet ∈ sheets, r.rule ∈ sheet.rules := by
  have hentry : (r.source, r.rule) ∈ flattenSheets sheets := by
    rw [← map_placeRules]
    exact List.mem_map_of_mem h
  unfold flattenSheets at hentry
  obtain ⟨⟨sheet, place⟩, hsheet, hrule⟩ := List.mem_flatMap.mp hentry
  obtain ⟨rule, hmem, heq⟩ := List.mem_map.mp hrule
  obtain rfl : rule = r.rule := (Prod.mk.inj heq).2
  exact ⟨sheet, List.fst_mem_of_mem_zipIdx hsheet, hmem⟩

/-- What is recorded of an element's style attribute. -/
theorem mem_stylesFor_inline
    (hf : (merge config inputs scripts sheets scope).fragments[key.fragment]? = some f)
    (he : f.element? key.order = some e) (htext : inlineText? e = some text) :
    ∃ m ∈ (merge config inputs scripts sheets scope).stylesFor key,
      m.rule = Rule.inline text e.location ∧ m.specificity = .ofInline ∧ m.inline = true ∧
      ∀ held, m.applies held = true := by
  have hrecorded (place : Nat) : inlineMatch? e place = some
      { rule := Rule.inline text e.location, specificity := .ofInline, order := place,
        inline := true } := by
    rw [inlineMatch?, htext]
    rfl
  exact ⟨_, mem_stylesFor_merge.mpr ⟨f, e, hf, he, .inr (hrecorded _)⟩, rfl, rfl, rfl, fun _ => rfl⟩

/-- A match of a sheet is lighter than a style attribute. -/
theorem inline_specificity_of_sheet (hown : ∀ sheet ∈ sheets, ∀ r ∈ sheet.rules, r.OwnWeight)
    (hm : m ∈ (merge config inputs scripts sheets scope).stylesFor key)
    (hsheet : m.inline = false) : m.specificity.inline = 0 := by
  obtain ⟨f, e, -, -, ⟨r, hr, hm⟩ | hinline⟩ := mem_stylesFor_merge.mp hm
  · obtain ⟨branch, -, rfl⟩ := PlacedRule.mem_matchesOf.mp hm
    obtain ⟨sheet, hsheet, hrule⟩ := rule_mem_of_mem_placeRules hr
    exact PlacedRule.inline_weight (hown sheet hsheet _ hrule) branch
  · obtain ⟨text, -, rfl⟩ := Option.map_eq_some_iff.mp hinline
    cases hsheet

/-- An element has one match from its style attribute at most. -/
theorem inline_unique {m' : StyleMatch}
    (hm : m ∈ (merge config inputs scripts sheets scope).stylesFor key)
    (hm' : m' ∈ (merge config inputs scripts sheets scope).stylesFor key)
    (hinline : m.inline = true) (hinline' : m'.inline = true) : m = m' := by
  obtain ⟨r, -, -, -, hsheet⟩ | ⟨e, he, -, hmatch⟩ := origin_of_mem_stylesFor hm
  · rw [hinline] at hsheet
    cases hsheet
  obtain ⟨r, -, -, -, hsheet⟩ | ⟨e', he', -, hmatch'⟩ := origin_of_mem_stylesFor hm'
  · rw [hinline'] at hsheet
    cases hsheet
  obtain rfl : e = e' := Option.some.inj (he.symm.trans he')
  exact Option.some.inj (hmatch.symm.trans hmatch')

/-- The style attribute wins unless a match of a sheet insists. -/
theorem wins_of_inline (hown : ∀ sheet ∈ sheets, ∀ r ∈ sheet.rules, r.OwnWeight)
    (hm : m ∈ (merge config inputs scripts sheets scope).stylesFor key) (hinline : m.inline = true)
    (hweight : m.specificity = .ofInline) (happlies : m.applies held = true)
    (hdeclares : p ∈ m.rule.properties.names)
    (hfree : p ∉ m.rule.important →
      ∀ other ∈ (merge config inputs scripts sheets scope).stylesFor key, ¬ other.Insists held p) :
    m.Wins ((merge config inputs scripts sheets scope).stylesFor key) held p := by
  refine ⟨hm, happlies, hdeclares, fun other hother happlies' hdeclares' hyields => ?_⟩
  cases hother' : other.inline with
  | true =>
    obtain rfl := inline_unique hm hother hinline hother'
    exact StyleMatch.not_yields_self p m hyields
  | false =>
    have hlight := inline_specificity_of_sheet hown hother hother'
    rcases hyields with ⟨hplain, himportant⟩ | ⟨-, hlighter | ⟨hequal, -⟩⟩
    · exact hfree hplain other hother ⟨hother', happlies', hdeclares', himportant⟩
    · rw [hweight] at hlighter
      unfold Specificity.Lighter Specificity.ofInline at hlighter
      dsimp only at hlighter
      omega
    · rw [← hequal, hweight] at hlight
      cases hlight

/-- If a match of a sheet insists and the style attribute does not, such a match wins. -/
theorem exists_wins_of_insists (hm : m ∈ (merge config inputs scripts sheets scope).stylesFor key)
    (hinline : m.inline = true) (hplain : p ∉ m.rule.important)
    (hinsists : ∃ other ∈ (merge config inputs scripts sheets scope).stylesFor key,
      other.Insists held p) :
    ∃ winner ∈ (merge config inputs scripts sheets scope).stylesFor key, winner.Insists held p ∧
      winner.Wins ((merge config inputs scripts sheets scope).stylesFor key) held p := by
  obtain ⟨other, hother, hinsists⟩ := hinsists
  obtain ⟨value, hvalue⟩ := exists_value_of_declares hother hinsists.applies hinsists.declares
  obtain ⟨winner, hwins, -⟩ := exists_wins_of_value hvalue
  have himportant : p ∈ winner.rule.important := by
    by_contra hnot
    exact hwins.greatest other hother hinsists.applies hinsists.declares
      (.inl ⟨hnot, hinsists.important⟩)
  have hsheet : winner.inline = false := by
    rw [Bool.eq_false_iff]
    intro hwinner
    obtain rfl := inline_unique hm hwins.mem hinline hwinner
    exact hplain himportant
  exact ⟨winner, hwins.mem, ⟨hsheet, hwins.applies, hwins.declares, himportant⟩, hwins⟩

end Merge

/-- No selector is as heavy as a style attribute, and a rule that is read without a weight has that
of its selector. If all rules do, a property that an element's style attribute declares has the
value declared there; only where the attribute does not declare it as important and a rule that
applies does, the value is that of the winner among such rules. -/
theorem computedStyle_inline :
    (∀ s, (Specificity.ofText s).inline = 0) ∧
    (∀ (fields : Entries Json) (r : Rule), Rule.read (.obj fields) = .ok r →
      (fields.get? "specificity").getD .null = .null → r.OwnWeight) ∧
    ∀ (config : Config) (inputs : List FragmentInput) (scripts : List Script)
      (sheets : List StyleSheet) (scope : Json) (key : Key) (held : List String) (f : Fragment)
      (e : Element) (text p value : String),
      (∀ sheet ∈ sheets, ∀ r ∈ sheet.rules, r.OwnWeight) →
      (merge config inputs scripts sheets scope).fragments[key.fragment]? = some f →
      f.element? key.order = some e → e.get? "style" = some text →
      (Rule.inline text e.location).properties.get? p = some value →
      let styles := (merge config inputs scripts sheets scope).stylesFor key
      let computed := (merge config inputs scripts sheets scope).computedStyle key held
      let overridden := p ∉ (Rule.inline text e.location).important ∧
        ∃ m ∈ styles, m.Insists held p
      (¬ overridden → computed.get? p = some value) ∧
      (overridden → ∃ m ∈ styles, m.Insists held p ∧ m.Wins styles held p ∧
        computed.get? p = m.rule.properties.get? p) := by
  refine ⟨ofText_inline, fun fields r => Rule.ownWeight_of_read, ?_⟩
  intro config inputs scripts sheets scope key held f e text p value hown hf he hstyle hvalue styles
    computed overridden
  have hone := oneRuleAPlace_stylesFor config inputs scripts sheets scope key
  have htext := inlineText?_of_declares hstyle hvalue
  obtain ⟨m, hm, hrule, hweight, hinline, happlies⟩ := mem_stylesFor_inline hf he htext
  rw [← hrule] at hvalue
  constructor
  · intro hnot
    have hwins : m.Wins styles held p := by
      refine wins_of_inline hown hm hinline hweight (happlies held)
        (Entries.mem_names_iff.mpr ⟨value, hvalue⟩) fun hplain other hother hinsists => ?_
      exact hnot ⟨hrule ▸ hplain, other, hother, hinsists⟩
    exact (cascade_get?_iff hone).mpr ⟨m, hwins, hvalue⟩
  · rintro ⟨hplain, hinsists⟩
    rw [← hrule] at hplain
    obtain ⟨winner, hwinner, hinsists, hwins⟩ := exists_wins_of_insists hm hinline hplain hinsists
    obtain ⟨value', hvalue'⟩ := Entries.mem_names_iff.mp hwins.declares
    refine ⟨winner, hwinner, hinsists, hwins, ?_⟩
    rw [hvalue']
    exact (cascade_get?_iff hone).mpr ⟨winner, hwins, hvalue'⟩

/-- A paragraph with a style attribute. -/
def greenParagraph : Element :=
  { tag := "p", attributes := [("style", "color: green; width: 1px")] }

/-- A rule for the same two properties, one of them important. -/
def insistentRule : Rule :=
  { selector := "p", properties := [("color", "red"), ("width", "0")], important := ["width"],
    specificity := .ofType }

/-- The attribute's colour stands, and its width gives way to the important one of the rule. -/
theorem computedStyle_inline_paragraph :
    ∃ f, Fragment.ofGraph (elementPage greenParagraph) "page" = .ok f ∧
      let computed := (merge {} [.indexed f] [] [{ rules := [insistentRule] }] .null).computedStyle
        ⟨0, 0⟩ []
      computed.get? "color" = some "green" ∧ computed.get? "width" = some "0" := by
  obtain ⟨f, hf, -, he⟩ := exists_elementPage greenParagraph
  have hown : insistentRule.OwnWeight := by
    show Specificity.ofType = Specificity.ofText "p"
    rw [Specificity.ofText, parse_paragraph]
    decide
  have hrules : placeRules [{ rules := [insistentRule] }] =
      [⟨"style-0", insistentRule, 0, .ok [.compound [.type "p"]]⟩] := by
    rw [← parse_paragraph]
    rfl
  have hcolor : (Rule.inline "color: green; width: 1px" none).properties.get? "color" =
      some "green" := by decide +kernel
  have hwidth : (Rule.inline "color: green; width: 1px" none).properties.get? "width" =
      some "1px" := by decide +kernel
  have hplain : "width" ∉ (Rule.inline "color: green; width: 1px" none).important := by
    decide +kernel
  have hmatch : PlacedRule.matchesOf
      ⟨"style-0", insistentRule, 0, .ok [.compound [.type "p"]]⟩ f 0 =
      [{ rule := insistentRule, specificity := .ofType, order := 0 }] := by
    have hbranch : Selector.Complex.matches f .every 0 (.compound [.type "p"]) = true := by
      simp [Selector.Complex.matches, he, partsMatch, Simple.matches, greenParagraph]
    exact PlacedRule.matchesOf_single rfl hbranch
  have hsheet :
      ∀ m ∈ (merge {} [.indexed f] [] [{ rules := [insistentRule] }] .null).stylesFor ⟨0, 0⟩,
      m.inline = false → m.rule = insistentRule := by
    intro m hm hnot
    obtain ⟨r, hr, hrule, -, -⟩ | ⟨e', -, -, hinline⟩ := origin_of_mem_stylesFor hm
    · rw [hrules, List.mem_singleton] at hr
      rw [hrule, hr]
    · obtain ⟨text, -, rfl⟩ := Option.map_eq_some_iff.mp hinline
      cases hnot
  have hfirst : { rule := insistentRule, specificity := .ofType, order := 0 } ∈
      (merge {} [.indexed f] [] [{ rules := [insistentRule] }] .null).stylesFor ⟨0, 0⟩ := by
    refine mem_stylesFor_merge.mpr ⟨f, _, rfl, he, .inl ?_⟩
    rw [hrules]
    exact ⟨_, List.mem_singleton_self _, hmatch ▸ List.mem_singleton_self _⟩
  have hresult := computedStyle_inline.2.2 {} [.indexed f] [] [{ rules := [insistentRule] }] .null
    ⟨0, 0⟩ [] f greenParagraph "color: green; width: 1px"
  refine ⟨f, hf, ?_, ?_⟩
  · refine (hresult "color" "green" (by simpa using hown) rfl he rfl hcolor).1 ?_
    rintro ⟨-, m, hm, hinsists⟩
    have himportant := hinsists.important
    rw [hsheet m hm hinsists.fromSheet] at himportant
    exact absurd himportant (by decide)
  · have hoverridden := (hresult "width" "1px" (by simpa using hown) rfl he rfl hwidth).2
      ⟨hplain, _, hfirst, rfl, rfl, by decide, by decide⟩
    obtain ⟨m, hm, hinsists, -, hvalue⟩ := hoverridden
    rw [hvalue, hsheet m hm hinsists.fromSheet]
    rfl

end AccessAudit
