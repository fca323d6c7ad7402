import AccessAudit.Proofs.Document.Actions
import AccessAudit.Proofs.Document.Styles
import AccessAudit.Proofs.Style.Weight

/-!
# Which matches an element has

The merge attaches rules to elements branch by branch, and behind them the element's own style
attribute. `merge_attaches` says exactly which matches an element has, with what weight and in which
order, which rules are orphans, and over which selectors there is no document at all.

What the passes over rules and style attributes leave behind is known (`stylesFor_merge`). Two things
are left. The weight of a match may be that of the rule or that of the branch. A rule with a single
branch takes its own, which was found from its text when the rule was made and agrees with the branch
only if nobody declared another (`Rule.Derived`). And no two style attributes may have the same order
anywhere in the document: along document order their count only grows (`inlinePlace_lt`).
-/

namespace AccessAudit

open Text Selector

/-! ## The places of style attributes -/

theorem Key.before_trichotomy (a b : Key) : a = b ∨ a.Before b ∨ b.Before a := by
  obtain ⟨i, j⟩ := a
  obtain ⟨i', j'⟩ := b
  unfold Key.Before
  simp only [Key.mk.injEq]
  omega

theorem Key.Before.asymm {a b : Key} (h : a.Before b) : ¬ b.Before a := by
  unfold Key.Before at h ⊢
  omega

/-- An element with a style attribute comes, by its place, before all later elements. -/
theorem inlinePlace_lt {fragments : Array Fragment} {a b : Key} (ha : a ∈ keysOf fragments)
    (hb : b ∈ keysOf fragments) (hinline : hasInline fragments a = true) (h : a.Before b) :
    inlinePlace fragments a < inlinePlace fragments b := by
  obtain ⟨earlier, later, hkeys, hb⟩ := List.eq_append_cons_of_mem hb
  have hsorted := keysOf_sorted fragments
  rw [hkeys, List.pairwise_append, List.pairwise_cons] at hsorted
  have hearlier : a ∈ earlier := by
    rw [hkeys, List.mem_append, List.mem_cons] at ha
    rcases ha with hmem | heq | hmem
    · exact hmem
    · exact absurd heq h.ne
    · exact absurd (hsorted.2.1.1 a hmem) h.asymm
  unfold inlinePlace
  rw [hkeys, keysBefore_of_not_mem hb, keysBefore_append hearlier]
  obtain ⟨before, between, rfl, hnot⟩ := List.eq_append_cons_of_mem hearlier
  rw [keysBefore_of_not_mem hnot, List.countP_append, List.countP_cons_of_pos hinline]
  omega

/-! ## Matches of rules -/

/-- The branches of a rule that describe an element when all states hold. -/
def Rule.describing (r : Rule) (f : Fragment) (order : Nat) : List Selector.Complex :=
  match SelectorList.parse r.selector with
  | .ok list => list.filter fun branch => branch.matches f .every order
  | .error _ => []

/-- The branches that describe an element, rule by rule, each with its rule and the place of that. -/
def describing (rules : List (String × Rule)) (f : Fragment) (order : Nat) :
    List (Rule × Nat × Selector.Complex) :=
  rules.zipIdx.flatMap fun entry =>
    (entry.1.2.describing f order).map fun branch => (entry.1.2, entry.2, branch)

/-- What is recorded of a branch of the rule at a place. -/
structure StyleMatch.Records (m : StyleMatch) (r : Rule) (place : Nat)
    (branch : Selector.Complex) : Prop where
  rule : m.rule = r
  order : m.order = place
  states : ∀ name, name ∈ m.states ↔ name ∈ branch.states
  pseudoElement : m.pseudoElement = branch.pseudoElement?
  inline : m.inline = false
  derived : r.Derived → m.specificity = branch.specificity
  declared : r.declared = true → m.specificity = r.specificity

section Records

variable {f : Fragment} {order : Nat} {r : PlacedRule} {list : SelectorList}
  {branch : Selector.Complex}

theorem PlacedRule.branches_eq (h : r.selectors = SelectorList.parse r.rule.selector) :
    r.branches f order = r.rule.describing f order := by
  unfold PlacedRule.branches Rule.describing
  rw [h]
  cases SelectorList.parse r.rule.selector with
  | error why => rfl
  | ok list =>
    show (list.zipIdx.filter ((fun b => b.matches f .every order) ∘ Prod.fst)).map Prod.fst = _
    rw [← List.filter_map, List.zipIdx_map_fst]

/-- Unless the weight was declared, a branch has its own, also where the rule's is taken. -/
theorem PlacedRule.weight_of_derived (h : r.selectors = .ok list)
    (hparse : SelectorList.parse r.rule.selector = .ok list) (hbranch : branch ∈ list)
    (hderived : r.rule.Derived) : r.weight branch = branch.specificity := by
  unfold PlacedRule.weight
  dsimp only
  rw [h, hderived.1, Bool.false_or]
  by_cases hsingle : list.length == 1
  · obtain ⟨only, rfl⟩ := List.length_eq_one_iff.mp (beq_iff_eq.mp hsingle)
    obtain rfl : branch = only := List.mem_singleton.mp hbranch
    rw [if_pos hsingle, hderived.2, Specificity.ofText, hparse]
    rfl
  · rw [if_neg hsingle]

theorem PlacedRule.matchesOf_records (h : r.selectors = SelectorList.parse r.rule.selector) :
    List.Forall₂ (fun branch m => m.Records r.rule r.place branch)
      (r.rule.describing f order) (r.matchesOf f order) := by
  unfold PlacedRule.matchesOf
  rw [PlacedRule.branches_eq h, List.forall₂_map_right_iff, List.forall₂_same]
  intro branch hbranch
  refine ⟨rfl, rfl, fun name => List.mem_eraseDups, rfl, rfl, fun hderived => ?_, fun hdeclared => ?_⟩
  · unfold Rule.describing at hbranch
    split at hbranch
    case h_1 list hparse =>
      have hmem : branch ∈ list := List.mem_of_mem_filter hbranch
      exact PlacedRule.weight_of_derived (h.trans hparse) hparse hmem hderived
    case h_2 => cases hbranch
  · show r.weight branch = r.rule.specificity
    simp [PlacedRule.weight, hdeclared]

theorem matchesOf_placeRules (sheets : List StyleSheet) :
    List.Forall₂ (fun slot m => m.Records slot.1 slot.2.1 slot.2.2)
      (describing (flattenSheets sheets) f order)
      ((placeRules sheets).flatMap (·.matchesOf f order)) := by
  unfold describing placeRules placed
  rw [List.flatMap_map]
  refine List.rel_flatMap (R := Eq) (List.forall₂_eq_eq_eq ▸ rfl) ?_
  rintro ⟨⟨source, rule⟩, place⟩ _ rfl
  rw [List.forall₂_map_left_iff]
  exact PlacedRule.matchesOf_records (r := ⟨source, rule, place, _⟩) rfl

end Records

/-! ## The match of a style attribute -/

/-- What is recorded of the text of a style attribute, behind a number of rules. -/
structure StyleMatch.Inlines (m : StyleMatch) (e : Element) (text : String) (count : Nat) :
    Prop where
  rule : m.rule = Rule.inline text e.location
  order : (count : Int) ≤ m.order
  states : m.states = []
  pseudoElement : m.pseudoElement = none
  inline : m.inline = true
  specificity : m.specificity = .ofInline

theorem inlineText?_eq (e : Element) :
    inlineText? e = (e.get? "style").filter fun text => !isBlankText text := by
  unfold inlineText?
  cases e.get? "style" with
  | none => rfl
  | some text => cases h : isBlankText text <;> simp [Option.filter, h]

theorem inlineMatch?_inlines (e : Element) {count : Nat} (place : Nat) (h : count ≤ place) :
    Option.Rel (fun text m => m.Inlines e text count)
      ((e.get? "style").filter fun text => !isBlankText text) (inlineMatch? e place) := by
  rw [← inlineText?_eq]
  unfold inlineMatch?
  cases inlineText? e with
  | none => exact .none
  | some text => exact .some ⟨rfl, Int.ofNat_le.mpr h, rfl, rfl, rfl, rfl⟩

/-! ## Rules that describe nothing -/

/-- The selector does not parse, or no branch describes any element. -/
def Rule.Unmatched (r : Rule) (fragments : Array Fragment) : Prop :=
  ∀ list, SelectorList.parse r.selector = .ok list → ∀ branch ∈ list,
    ∀ (key : Key) (f : Fragment) (e : Element), fragments[key.fragment]? = some f →
      f.element? key.order = some e → branch.matches f .every key.order = false

/-- Whether a rule describes nothing. -/
def Rule.unmatched (fragments : Array Fragment) (r : Rule) : Bool :=
  match SelectorList.parse r.selector with
  | .ok list => (matchingKeys fragments list).isEmpty
  | .error _ => true

theorem Selector.anyMatches_iff {f : Fragment} {states : States} {order : Nat}
    (list : List Selector.Complex) : anyMatches f states order list = true ↔
      ∃ branch ∈ list, branch.matches f states order = true := by
  induction list with
  | nil => simp [anyMatches]
  | cons branch rest ih => simp [anyMatches, ih]

theorem Rule.unmatched_iff {r : Rule} {fragments : Array Fragment} :
    r.unmatched fragments = true ↔ r.Unmatched fragments := by
  unfold Rule.unmatched Rule.Unmatched
  cases hparse : SelectorList.parse r.selector with
  | error why => simp
  | ok list =>
    simp only [List.isEmpty_iff, List.eq_nil_iff_forall_not_mem, mem_matchingKeys,
      SelectorList.matches, anyMatches_iff]
    constructor
    · rintro hnone _ ⟨⟩ branch hbranch key f e hf he
      by_contra hmatch
      exact hnone key ⟨f, e, hf, he, branch, hbranch, Bool.not_eq_false _ ▸ hmatch⟩
    · rintro hnone key ⟨f, e, hf, he, branch, hbranch, hmatch⟩
      rw [hnone list rfl branch hbranch key f e hf he] at hmatch
      cases hmatch

theorem PlacedRule.matchesIn_eq_nil {r : PlacedRule} (fragments : Array Fragment)
    {list : SelectorList} (h : r.selectors = .ok list) :
    r.matchesIn fragments = [] ↔ matchingKeys fragments list = [] := by
  rw [PlacedRule.matchesIn, List.flatMap_eq_nil_iff, matchingKeys, List.filter_eq_nil_iff]
  refine forall₂_congr fun key _ => ?_
  cases fragments[key.fragment]? with
  | none => simp
  | some f =>
    have hbranches : r.branches f key.order = [] ↔
        ¬ list.matches f .every key.order = true := by
      rw [SelectorList.matches, anyMatches_iff, List.eq_nil_iff_forall_not_mem]
      simp only [PlacedRule.mem_branches, h, Except.ok.injEq, exists_eq_left', not_exists]
    simpa [PlacedRule.matchesOf] using hbranches

theorem PlacedRule.isSome_orphan? {r : PlacedRule} {fragments : Array Fragment}
    (h : r.selectors = SelectorList.parse r.rule.selector) :
    (r.orphan? fragments).isSome = r.rule.unmatched fragments := by
  unfold PlacedRule.orphan? PlacedRule.orphanReason? Rule.unmatched
  rw [Option.isSome_map, h]
  cases hparse : SelectorList.parse r.rule.selector with
  | error why => rfl
  | ok list =>
    have hnil := PlacedRule.matchesIn_eq_nil fragments (h.trans hparse)
    by_cases hnone : matchingKeys fragments list = []
    · simp [hnone, hnil.mpr hnone]
    · simp [hnone, mt hnil.mp hnone]

section Merge

variable {config : Config} {inputs : List FragmentInput} {scripts : List Script}
  {sheets : List StyleSheet} {scope : Json}

theorem getElem?_placeRules {r : PlacedRule} (h : r ∈ placeRules sheets) :
    (placeRules sheets)[r.place]? = some r := by
  obtain ⟨⟨⟨source, rule⟩, place⟩, hentry, rfl⟩ := List.mem_map.mp h
  have hat : (flattenSheets sheets)[place]? = some (source, rule) :=
    List.mk_mem_zipIdx_iff_getElem?.mp hentry
  simp [placeRules, placed, hat]

theorem map_placeRules (sheets : List StyleSheet) :
    (placeRules sheets).map (fun r => (r.source, r.rule)) = flattenSheets sheets := by
  unfold placeRules placed
  rw [List.map_map]
  exact List.zipIdx_map_fst 0 _

theorem orphanRules_merge_placed : (merge config inputs scripts sheets scope).orphanRules =
    (placeRules sheets).filterMap (·.orphan? (indexInputs 0 inputs).1.toArray) :=
  (ruled_ruled (indexInputs 0 inputs).1.toArray (flattenScripts scripts)
    (flattenSheets sheets)).orphans

theorem orphanRules_merge :
    (merge config inputs scripts sheets scope).orphanRules.map (fun o => (o.source, o.rule)) =
      (flattenSheets sheets).filter fun entry =>
        entry.2.unmatched (indexInputs 0 inputs).1.toArray := by
  have hrule : ∀ r ∈ placeRules sheets,
      ((r.orphan? (indexInputs 0 inputs).1.toArray).map fun o => (o.source, o.rule)) =
        if r.rule.unmatched (indexInputs 0 inputs).1.toArray then some (r.source, r.rule)
        else none := by
    intro r hr
    rw [← r.isSome_orphan? (selectors_of_mem_placeRules hr), PlacedRule.orphan?]
    cases r.orphanReason? (r.matchesIn (indexInputs 0 inputs).1.toArray) with
    | none => rfl
    | some why => rfl
  calc (merge config inputs scripts sheets scope).orphanRules.map (fun o => (o.source, o.rule))
      = (placeRules sheets).filterMap fun r =>
          (r.orphan? (indexInputs 0 inputs).1.toArray).map fun o => (o.source, o.rule) := by
        rw [orphanRules_merge_placed, List.map_filterMap]
    _ = (placeRules sheets).filterMap fun r =>
          if r.rule.unmatched (indexInputs 0 inputs).1.toArray then some (r.source, r.rule)
          else none := List.filterMap_congr hrule
    _ = ((placeRules sheets).map fun r => (r.source, r.rule)).filter fun entry =>
          entry.2.unmatched (indexInputs 0 inputs).1.toArray := by
        rw [← List.filterMap_eq_filter, List.filterMap_map]
        rfl
    _ = _ := by rw [map_placeRules]

/-! ## Orders -/

variable {key key' : Key} {m m' : StyleMatch}

/-- A match comes from a rule and has its place for its order, or from a style attribute and comes
behind all rules. -/
theorem origin_of_mem_stylesFor
    (hm : m ∈ (merge config inputs scripts sheets scope).stylesFor key) :
    (∃ r ∈ placeRules sheets, m.rule = r.rule ∧ m.order = r.place ∧ m.inline = false) ∨
      ∃ e, elementAt? (indexInputs 0 inputs).1.toArray key = some e ∧
        m.order = (placeRules sheets).length + inlinePlace (indexInputs 0 inputs).1.toArray key ∧
        inlineMatch? e ((placeRules sheets).length
          + inlinePlace (indexInputs 0 inputs).1.toArray key) = some m := by
  obtain ⟨f, e, hf, he, ⟨r, hr, hm⟩ | hinline⟩ := mem_stylesFor_merge.mp hm
  · obtain ⟨branch, -, rfl⟩ := PlacedRule.mem_matchesOf.mp hm
    exact .inl ⟨r, hr, rfl, rfl, rfl⟩
  · rw [fragments_merge] at hf
    obtain ⟨text, -, rfl⟩ := Option.map_eq_some_iff.mp hinline
    exact .inr ⟨e, by rw [elementAt?, hf]; exact he, Int.natCast_add _ _, hinline⟩

theorem hasInline_of_inlineMatch? {fragments : Array Fragment} {e : Element} {place : Nat}
    (he : elementAt? fragments key = some e) (hm : inlineMatch? e place = some m) :
    hasInline fragments key = true := by
  rw [← isSome_inlineAt? place, inlineAt?, he, Option.bind_some, hm]
  rfl

theorem place_lt_of_mem_placeRules {r : PlacedRule} (h : r ∈ placeRules sheets) :
    r.place < (placeRules sheets).length :=
  (List.getElem?_eq_some_iff.mp (getElem?_placeRules h)).1

/-- No other match has the order of a style attribute. -/
theorem eq_of_inline_order (hm : m ∈ (merge config inputs scripts sheets scope).stylesFor key)
    (hm' : m' ∈ (merge config inputs scripts sheets scope).stylesFor key')
    (hinline : m.inline = true) (horder : m.order = m'.order) : key = key' ∧ m = m' := by
  obtain ⟨r, hr, -, -, hrule⟩ | ⟨e, he, hplace, hmatch⟩ := origin_of_mem_stylesFor hm
  · rw [hinline] at hrule
    cases hrule
  obtain ⟨r, hr, -, hplace', -⟩ | ⟨e', he', hplace', hmatch'⟩ := origin_of_mem_stylesFor hm'
  · have hlt := place_lt_of_mem_placeRules hr
    omega
  -- along document order the places of style attributes grow, so equal ones are of one element
  have hkey : key = key' := by
    have hmem := mem_keysOf.mpr ⟨e, he⟩
    have hmem' := mem_keysOf.mpr ⟨e', he'⟩
    rcases Key.before_trichotomy key key' with heq | hbefore | hafter
    · exact heq
    · have hlt := inlinePlace_lt hmem hmem' (hasInline_of_inlineMatch? he hmatch) hbefore
      omega
    · have hlt := inlinePlace_lt hmem' hmem (hasInline_of_inlineMatch? he' hmatch') hafter
      omega
  subst hkey
  obtain rfl : e = e' := Option.some.inj (he.symm.trans he')
  exact ⟨rfl, Option.some.inj (hmatch.symm.trans hmatch')⟩

/-- Matches of equal order come from one rule. -/
theorem rule_eq_of_order (hm : m ∈ (merge config inputs scripts sheets scope).stylesFor key)
    (hm' : m' ∈ (merge config inputs scripts sheets scope).stylesFor key')
    (horder : m.order = m'.order) : m.rule = m'.rule := by
  obtain ⟨r, hr, hrule, hplace, -⟩ | ⟨e, -, -, hmatch⟩ := origin_of_mem_stylesFor hm
  · obtain ⟨r', hr', hrule', hplace', -⟩ | ⟨e', -, hplace', -⟩ :=
      origin_of_mem_stylesFor hm'
    · have hsame : r.place = r'.place := by omega
      have hat := getElem?_placeRules hr
      rw [hsame, getElem?_placeRules hr'] at hat
      rw [hrule, hrule', Option.some.inj hat]
    · have hlt := place_lt_of_mem_placeRules hr
      omega
  · obtain ⟨text, -, rfl⟩ := Option.map_eq_some_iff.mp hmatch
    rw [(eq_of_inline_order hm hm' rfl horder).2]

end Merge

/-- A document attaches a sequence of rules: the matches of an element are those of the branches
that describe it, rule by rule, and then that of its style attribute, whose order no other match has;
and the rules that describe nothing are the orphans. -/
structure Document.Attaches (d : Document) (rules : List (String × Rule)) : Prop where
  stylesFor : ∀ (key : Key) (f : Fragment) (e : Element),
    d.fragments[key.fragment]? = some f → f.element? key.order = some e →
      ∃ fromRules fromAttribute, d.stylesFor key = fromRules ++ fromAttribute.toList ∧
        List.Forall₂ (fun slot m => m.Records slot.1 slot.2.1 slot.2.2)
          (describing rules f key.order) fromRules ∧
        Option.Rel (fun text m => m.Inlines e text rules.length)
          ((e.get? "style").filter fun text => !isBlankText text) fromAttribute
  noElement : ∀ key, key ∉ d.keys → d.stylesFor key = []
  inlineOrder : ∀ (key key' : Key) (m m' : StyleMatch), m ∈ d.stylesFor key →
    m' ∈ d.stylesFor key' → m.inline = true → m.order = m'.order → key = key' ∧ m = m'
  orphanRules : ∃ places : List Nat, places.Pairwise (· < ·) ∧
    (∀ place, place ∈ places ↔ ∃ entry : String × Rule, rules[place]? = some entry ∧
      entry.2.Unmatched d.fragments) ∧
    d.orphanRules.map (fun o => (o.source, o.rule)) = places.filterMap (rules[·]?)

/-- The merge attaches the rules of the sheets in the order of their declaration, unless a selector
cannot be dealt with: then it fails with the first breakdown, and otherwise it succeeds. The weight of
a rule that is read is derived if the caller gives none, and otherwise declared. -/
theorem merge_attaches :
    (∀ (config : Config) (inputs : List FragmentInput) (scripts : List Script)
      (sheets : List StyleSheet) (scope : Json),
      (merge config inputs scripts sheets scope).Attaches (flattenSheets sheets) ∧
      (assemble config inputs scripts sheets scope =
        .ok (merge config inputs scripts sheets scope) ↔ breakdowns inputs scripts sheets = []) ∧
      ∀ why, assemble config inputs scripts sheets scope = .error why ↔
        (breakdowns inputs scripts sheets).head? = some why) ∧
    ∀ (fields : Entries Json) (r : Rule), Rule.read (.obj fields) = .ok r →
      fields.get? "declared_specificity" = none →
      ((fields.get? "specificity").getD .null = .null → r.Derived) ∧
      ((fields.get? "specificity").getD .null ≠ .null → r.declared = true ∧
        Specificity.read ((fields.get? "specificity").getD .null) = .ok r.specificity) := by
  refine ⟨fun config inputs scripts sheets scope => ⟨⟨?_, ?_, ?_, ?_⟩, ?_, ?_⟩,
    fun fields r => Rule.read_weight⟩
  · intro key f e hf he
    have hcount : (placeRules sheets).length = (flattenSheets sheets).length := by
      rw [← map_placeRules, List.length_map]
    refine ⟨_, _, ?_, matchesOf_placeRules sheets, inlineMatch?_inlines e
      ((placeRules sheets).length + inlinePlace (indexInputs 0 inputs).1.toArray key) ?_⟩
    · exact stylesFor_merge_of_element hf he
    · omega
  · intro key hkey
    apply List.eq_nil_iff_forall_not_mem.mpr
    intro m hm
    obtain ⟨f, e, hf, he, -⟩ := mem_stylesFor_merge.mp hm
    exact hkey (mem_keysOf.mpr ⟨e, by rw [elementAt?, hf, Option.bind_some, he]⟩)
  · intro key key' m m' hm hm' hinline horder
    exact eq_of_inline_order hm hm' hinline horder
  · refine ⟨placesWhere (fun entry => entry.2.unmatched (indexInputs 0 inputs).1.toArray)
      (flattenSheets sheets), placesWhere_sorted _ _, fun place => ?_, ?_⟩
    · simp only [mem_placesWhere, Rule.unmatched_iff, fragments_merge]
    · rw [orphanRules_merge, filterMap_placesWhere]
  · rw [assemble_eq_ok, and_iff_left rfl]
  · intro why
    exact assemble_eq_error

/-- The fields of a rule with a declared weight. -/
def weighted : Entries Json :=
  [("selector", .str "p"), ("specificity", .arr [.int 0, .int 1, .int 0, .int 0])]

/-- A rule that is read with a weight has its one match at the paragraph, with that weight, in a
document that the merge does give. -/
theorem merge_attaches_weighted : ∃ f r, Fragment.ofGraph Fragment.sharedText "page" = .ok f ∧
    Rule.read (.obj weighted) = .ok r ∧
    ∃ d m, assemble {} [.indexed f] [] [{ rules := [r] }] .null = .ok d ∧
      d.stylesFor ⟨0, 1⟩ = [m] ∧ m.rule = r ∧ m.order = 0 ∧ m.specificity = ⟨0, 1, 0, 0⟩ := by
  obtain ⟨f, hf, he⟩ := exists_paragraph
  obtain ⟨r, hr, hselector⟩ : ∃ r, Rule.read (.obj weighted) = .ok r ∧ r.selector = "p" :=
    ⟨_, rfl, rfl⟩
  have hgiven : (weighted.get? "specificity").getD .null ≠ .null := by
    rintro ⟨⟩
  obtain ⟨hdeclared, hvector⟩ := (merge_attaches.2 weighted r hr rfl).2 hgiven
  have hweight : r.specificity = ⟨0, 1, 0, 0⟩ := (Checked.ok.inj hvector).symm
  have hbranches : r.describing f 1 = [.compound [.type "p"]] := by
    rw [Rule.describing, hselector, parse_paragraph]
    simp [matches_paragraph he]
  have hslots : describing (flattenSheets [{ rules := [r] }]) f 1 =
      [(r, 0, .compound [.type "p"])] := by
    simp [describing, flattenSheets, hbranches]
  obtain ⟨hattaches, hassemble, -⟩ :=
    merge_attaches.1 {} [.indexed f] [] [{ rules := [r] }] .null
  have hnone : breakdowns [.indexed f] [] [{ rules := [r] }] = [] := by
    simp [breakdowns, actionBreakdowns, ruleBreakdowns, hselector, breakdown?_paragraph]
  obtain ⟨fromRules, fromAttribute, hstyles, hrecords, hinline⟩ :=
    hattaches.stylesFor ⟨0, 1⟩ f _ rfl he
  rw [hslots] at hrecords
  cases hrecords with
  | cons hfirst hrest =>
    cases hrest
    cases hinline
    exact ⟨f, r, hf, hr, _, _, hassemble.mpr hnone, hstyles, hfirst.rule, hfirst.order,
      (hfirst.declared hdeclared).trans hweight⟩

end AccessAudit
