import AccessAudit.Proofs.Document.Dependence

/-!
# Rules that match nothing

A rule that describes no element has no effect but to be an orphan. It takes a place, though, and so
moves the rules behind it and all style attributes. `merge_insert` says that this cannot be seen:
any number of such rules may be inserted anywhere in the style sheets, and every computed style, and
with it what hides an element, is the same. The orphans of the document are those from before and
the inserted rules, in order of declaration.

Where rules are inserted is written as a revision of each style sheet, in which every rule has a
mark that says whether it is new. The proof inserts one rule at a time.
-/

namespace AccessAudit

open Selector

/-! ## Revisions -/

/-- A style sheet in which some rules are marked as new. -/
structure SheetRevision where
  /-- The name of the source; empty when it has none. -/
  source : String := ""
  /-- The rules in order, each with its mark. -/
  rules : List (Rule × Bool) := []

namespace SheetRevision

/-- The style sheet without the new rules. -/
def before (s : SheetRevision) : StyleSheet :=
  { source := s.source, rules := (s.rules.filter (!·.2)).map Prod.fst }

/-- The style sheet with the new rules. -/
def after (s : SheetRevision) : StyleSheet := { source := s.source, rules := s.rules.map Prod.fst }

/-- The rules of revised style sheets in order, each with its source and its mark. -/
def entries (revisions : List SheetRevision) : List ((String × Rule) × Bool) :=
  revisions.zipIdx.flatMap fun (s, place) =>
    let source := if s.source.isEmpty then "style-" ++ toString place else s.source
    s.rules.map fun entry => ((source, entry.1), entry.2)

variable (revisions : List SheetRevision)

theorem flattenSheets_after :
    flattenSheets (revisions.map after) = (entries revisions).map Prod.fst := by
  unfold flattenSheets entries
  rw [List.zipIdx_map, List.flatMap_map, List.map_flatMap]
  refine List.flatMap_congr fun entry _ => ?_
  simp [after, Function.comp_def]

theorem flattenSheets_before :
    flattenSheets (revisions.map before) = ((entries revisions).filter (!·.2)).map Prod.fst := by
  unfold flattenSheets entries
  rw [List.zipIdx_map, List.flatMap_map, List.filter_flatMap, List.map_flatMap]
  refine List.flatMap_congr fun entry _ => ?_
  simp [before, Function.comp_def, List.filter_map]

theorem rules_after : (revisions.map after).flatMap StyleSheet.rules =
    (revisions.flatMap SheetRevision.rules).map Prod.fst := by
  rw [List.flatMap_map, List.map_flatMap]
  rfl

theorem rules_before : (revisions.map before).flatMap StyleSheet.rules =
    ((revisions.flatMap SheetRevision.rules).filter (!·.2)).map Prod.fst := by
  rw [List.flatMap_map, List.filter_flatMap, List.map_flatMap]
  rfl

theorem mem_entries {revisions : List SheetRevision} {entry : (String × Rule) × Bool}
    (h : entry ∈ entries revisions) :
    (entry.1.2, entry.2) ∈ revisions.flatMap SheetRevision.rules := by
  unfold entries at h
  obtain ⟨⟨s, place⟩, hs, hentry⟩ := List.mem_flatMap.mp h
  obtain ⟨rule, hrule, rfl⟩ := List.mem_map.mp hentry
  exact List.mem_flatMap.mpr ⟨s, List.fst_mem_of_mem_zipIdx hs, hrule⟩

end SheetRevision

/-! ## Styles -/

theorem Rule.Unmatched.matchesOf {fragments : List Fragment} {r : Rule}
    (h : r.Unmatched fragments.toArray) {key : Key} {f : Fragment} {e : Element}
    (hf : fragments[key.fragment]? = some f) (he : f.element? key.order = some e) (place : Nat) :
    (r.placed place).matchesOf f key.order = [] := by
  apply List.eq_nil_iff_forall_not_mem.mpr
  intro m hm
  obtain ⟨branch, hbranch, -⟩ := PlacedRule.mem_matchesOf.mp hm
  obtain ⟨list, hlist, hmem, hmatch⟩ := PlacedRule.mem_branches.mp hbranch
  rw [h list hlist branch hmem key f e (by rw [List.getElem?_toArray, hf]) he] at hmatch
  cases hmatch

section Insert

variable {f : Fragment} {order : Nat} {e : Element} {place : Nat} {r : Rule}
  {rules rules' : List Rule}

/-- A rule without matches moves what comes behind it. -/
theorem elementStyles_insert (h : ∀ place, (r.placed place).matchesOf f order = []) :
    elementStyles f order e place (rules ++ r :: rules') =
      (elementStyles f order e place (rules ++ rules')).map
        (StyleMatch.reorder (makeRoom (rules.length - 1))) := by
  have hlength : (rules ++ r :: rules').length + place = (rules ++ rules').length + place + 1 := by
    simp only [List.length_append, List.length_cons]
    omega
  have hbefore : ∀ m ∈ matchesFrom f order 0 rules, m.order ≤ (rules.length - 1 : Int) := by
    intro m hm
    have horder := (order_of_mem_matchesFrom hm).2
    omega
  have hafter : ∀ m ∈ matchesFrom f order rules.length rules' ++
      (inlineMatch? e ((rules ++ rules').length + place)).toList,
      (rules.length - 1 : Int) < m.order := by
    intro m hm
    rcases List.mem_append.mp hm with hm | hm
    · have horder := (order_of_mem_matchesFrom hm).1
      omega
    · have horder := order_of_inlineMatch? hm
      rw [List.length_append] at horder
      omega
  rw [elementStyles, elementStyles, matchesFrom_append, matchesFrom_append, matchesFrom, h,
    Nat.zero_add, List.nil_append, matchesFrom_succ, hlength, inlineMatch?_succ, List.append_assoc,
    List.append_assoc, List.map_append, map_makeRoom_of_le hbefore, map_makeRoom_of_lt hafter,
    List.map_append]

end Insert

section Records

variable {inputs : List FragmentInput} {key : Key} {held : List String}

theorem cascade_recordedStyles_insert {r : Rule} (h : r.Unmatched (indexInputs 0 inputs).1.toArray)
    (rules rules' : List Rule) :
    cascade (recordedStyles (indexInputs 0 inputs).1 (rules ++ rules') key) held =
      cascade (recordedStyles (indexInputs 0 inputs).1 (rules ++ r :: rules') key) held := by
  apply cascade_recordedStyles_congr
  intro f e place hf he hone
  rw [elementStyles_insert (h.matchesOf hf he)]
  exact cascade_reorder hone keepsOrder_makeRoom

/-- The new rules are inserted one by one, behind rules that stay. -/
theorem cascade_recordedStyles_revise (entries : List (Rule × Bool)) (rules : List Rule)
    (h : ∀ entry ∈ entries, entry.2 = true → entry.1.Unmatched (indexInputs 0 inputs).1.toArray) :
    cascade (recordedStyles (indexInputs 0 inputs).1
        (rules ++ (entries.filter (!·.2)).map Prod.fst) key) held =
      cascade (recordedStyles (indexInputs 0 inputs).1 (rules ++ entries.map Prod.fst) key)
        held := by
  induction entries generalizing rules with
  | nil => rfl
  | cons entry rest ih =>
    obtain ⟨r, new⟩ := entry
    have hrest := fun other hother => h other (List.mem_cons_of_mem _ hother)
    cases new with
    | true =>
      have hr : r.Unmatched (indexInputs 0 inputs).1.toArray := h (r, true) List.mem_cons_self rfl
      calc _ = cascade (recordedStyles (indexInputs 0 inputs).1
              (rules ++ (rest.filter (!·.2)).map Prod.fst) key) held := rfl
        _ = cascade (recordedStyles (indexInputs 0 inputs).1
              (rules ++ rest.map Prod.fst) key) held := ih rules hrest
        _ = _ := cascade_recordedStyles_insert hr rules (rest.map Prod.fst)
    | false =>
      have hkept := ih (rules ++ [r]) hrest
      rw [List.append_assoc, List.append_assoc] at hkept
      exact hkept

end Records

/-! ## Orphans -/

/-- The orphan that a rule is, if it is one; its place plays no part. -/
def orphanOf? (fragments : Array Fragment) (entry : String × Rule) : Option OrphanRule :=
  PlacedRule.orphan? ⟨entry.1, entry.2, 0, SelectorList.parse entry.2.selector⟩ fragments

theorem orphanOf?_eq_some {fragments : Array Fragment} {entry : String × Rule} {o : OrphanRule}
    (h : orphanOf? fragments entry = some o) : (o.source, o.rule) = entry := by
  obtain ⟨why, -, rfl⟩ := Option.map_eq_some_iff.mp h
  rfl

theorem orphanOf?_isSome {fragments : Array Fragment} {entry : String × Rule} :
    (orphanOf? fragments entry).isSome = true ↔ entry.2.Unmatched fragments := by
  rw [orphanOf?, PlacedRule.isSome_orphan? rfl]
  exact Rule.unmatched_iff

theorem orphan?_eq_orphanOf? {fragments : Array Fragment} {r : PlacedRule}
    (h : r.selectors = SelectorList.parse r.rule.selector) :
    r.orphan? fragments = orphanOf? fragments (r.source, r.rule) := by
  unfold orphanOf? PlacedRule.orphan? PlacedRule.orphanReason?
  rw [h]
  cases hparse : SelectorList.parse r.rule.selector with
  | error why => rfl
  | ok list =>
    have hnil := PlacedRule.matchesIn_eq_nil fragments (h.trans hparse)
    have hnil' := PlacedRule.matchesIn_eq_nil fragments
      (r := ⟨r.source, r.rule, 0, .ok list⟩) rfl
    by_cases hnone : matchingKeys fragments list = []
    · simp [hnil.mpr hnone, hnil'.mpr hnone]
    · simp [mt hnil.mp hnone, mt hnil'.mp hnone]

section Merge

variable {config : Config} {inputs : List FragmentInput} {scripts : List Script}
  {sheets : List StyleSheet} {scope : Json}

theorem orphanRules_merge_eq : (merge config inputs scripts sheets scope).orphanRules =
    (flattenSheets sheets).filterMap (orphanOf? (indexInputs 0 inputs).1.toArray) := by
  rw [orphanRules_merge_placed, ← map_placeRules, List.filterMap_map]
  exact List.filterMap_congr fun r hr => orphan?_eq_orphanOf? (selectors_of_mem_placeRules hr)

end Merge

/-- Orphans after rules were inserted, each with the mark of its rule: they come in the order in
which the rules are declared, those that are not new are the orphans from before, and every new rule
is there. -/
structure OrphansRevised (entries : List ((String × Rule) × Bool)) (before after : List OrphanRule)
    (orphans : List (OrphanRule × Bool)) : Prop where
  after : after = orphans.map Prod.fst
  before : before = (orphans.filter (!·.2)).map Prod.fst
  declared : (orphans.map fun o => ((o.1.source, o.1.rule), o.2)).Sublist entries
  inserted : (orphans.filter (·.2)).map (fun o => (o.1.source, o.1.rule)) =
    (entries.filter (·.2)).map Prod.fst

theorem exists_orphansRevised {fragments : Array Fragment} (entries : List ((String × Rule) × Bool))
    (h : ∀ entry ∈ entries, entry.2 = true → entry.1.2.Unmatched fragments) :
    ∃ orphans, OrphansRevised entries
      (((entries.filter (!·.2)).map Prod.fst).filterMap (orphanOf? fragments))
      ((entries.map Prod.fst).filterMap (orphanOf? fragments)) orphans := by
  induction entries with
  | nil => exact ⟨[], rfl, rfl, .slnil, rfl⟩
  | cons entry rest ih =>
    obtain ⟨orphans, horphans⟩ := ih fun other hother => h other (List.mem_cons_of_mem _ hother)
    obtain ⟨rule, new⟩ := entry
    cases horphan : orphanOf? fragments rule with
    | none =>
      -- a rule that is no orphan is not new
      have hold : new = false := by
        rw [Bool.eq_false_iff]
        rintro rfl
        have hsome := orphanOf?_isSome.mpr (h (rule, true) List.mem_cons_self rfl)
        rw [horphan] at hsome
        cases hsome
      subst hold
      refine ⟨orphans, ?_, ?_, horphans.declared.cons _, horphans.inserted⟩
      · rw [List.map_cons, List.filterMap_cons_none horphan]
        exact horphans.after
      · rw [List.filter_cons_of_pos rfl, List.map_cons, List.filterMap_cons_none horphan]
        exact horphans.before
    | some o =>
      have hentry := orphanOf?_eq_some horphan
      refine ⟨(o, new) :: orphans, ?_, ?_, ?_, ?_⟩
      · rw [List.map_cons, List.filterMap_cons_some horphan, horphans.after]
        rfl
      · cases new with
        | true => exact horphans.before
        | false =>
          rw [List.filter_cons_of_pos rfl, List.map_cons, List.filterMap_cons_some horphan,
            horphans.before]
          rfl
      · rw [List.map_cons, hentry]
        exact horphans.declared.cons_cons _
      · cases new with
        | true =>
          rw [List.filter_cons_of_pos rfl, List.filter_cons_of_pos rfl, List.map_cons,
            List.map_cons, hentry, horphans.inserted]
        | false => exact horphans.inserted

/-! ## Breakdowns -/

theorem findSome?_revise {α : Type} (g : Rule → Option α) (entries : List (Rule × Bool))
    (h : ∀ entry ∈ entries, entry.2 = true → g entry.1 = none) :
    ((entries.filter (!·.2)).map Prod.fst).findSome? g = (entries.map Prod.fst).findSome? g := by
  induction entries with
  | nil => rfl
  | cons entry rest ih =>
    obtain ⟨r, new⟩ := entry
    have hrest := ih fun other hother => h other (List.mem_cons_of_mem _ hother)
    cases new with
    | true =>
      rw [List.map_cons, List.findSome?_cons, h (r, true) List.mem_cons_self rfl]
      exact hrest
    | false =>
      rw [List.filter_cons_of_pos rfl, List.map_cons, List.map_cons, List.findSome?_cons,
        List.findSome?_cons, hrest]

/-! ## The document -/

/-- Rules that do not parse or describe no element may be inserted anywhere: computed styles and
what hides an element stay the same for every element and all states, and the orphans are those from
before and the inserted rules, in order of declaration. The merge breaks down as it did before,
unless it does so over an inserted rule. -/
theorem merge_insert (config : Config) (inputs : List FragmentInput) (scripts : List Script)
    (revisions : List SheetRevision) (scope : Json)
    (h : ∀ entry ∈ revisions.flatMap SheetRevision.rules, entry.2 = true →
      entry.1.Unmatched (indexInputs 0 inputs).1.toArray) :
    let before := merge config inputs scripts (revisions.map SheetRevision.before) scope
    let after := merge config inputs scripts (revisions.map SheetRevision.after) scope
    (∀ key held, after.computedStyle key held = before.computedStyle key held) ∧
    (∀ key held, after.hiddenReason? key held = before.hiddenReason? key held) ∧
    (∃ orphans, OrphansRevised (SheetRevision.entries revisions) before.orphanRules
      after.orphanRules orphans) ∧
    ((∀ entry ∈ revisions.flatMap SheetRevision.rules, entry.2 = true →
      ∀ use, breakdown? use entry.1.selector = none) →
      mergeBreakdown? inputs scripts (revisions.map SheetRevision.after) =
        mergeBreakdown? inputs scripts (revisions.map SheetRevision.before)) := by
  intro before after
  have hstyle (key : Key) (held : List String) :
      after.computedStyle key held = before.computedStyle key held := by
    rw [computedStyle_merge_eq, computedStyle_merge_eq, SheetRevision.rules_after,
      SheetRevision.rules_before]
    exact (cascade_recordedStyles_revise _ [] h).symm
  refine ⟨hstyle, fun key held => ?_, ?_, fun hbreakdown => ?_⟩
  · refine Document.hiddenReason?_congr ?_ ?_ fun order => hstyle _ held
    · rw [opacityThreshold_merge, opacityThreshold_merge]
    · rw [fragments_merge, fragments_merge]
  · rw [orphanRules_merge_eq, orphanRules_merge_eq, SheetRevision.flattenSheets_after,
      SheetRevision.flattenSheets_before]
    exact exists_orphansRevised _ fun entry hentry => h _ (SheetRevision.mem_entries hentry)
  · apply mergeBreakdown?_congr
    intro use
    rw [SheetRevision.rules_after, SheetRevision.rules_before]
    exact (findSome?_revise _ _ fun entry hentry hnew => hbreakdown entry hentry hnew use).symm

/-- A rule without a selector. -/
def blankRule : Rule := { selector := "", properties := [("color", "blue")] }

/-- A style sheet in which it is put in front of another rule. -/
def blankInFront : SheetRevision := { rules := [(blankRule, true), (plainRule, false)] }

/-- The paragraph keeps its colour, and the rule without a selector is the only orphan. -/
theorem merge_insert_blank : ∃ f, Fragment.ofGraph Fragment.sharedText "page" = .ok f ∧
    let before := merge {} [.indexed f] [] [{ rules := [plainRule] }] .null
    let after := merge {} [.indexed f] [] [{ rules := [blankRule, plainRule] }] .null
    (after.computedStyle ⟨0, 1⟩ []).get? "color" = some "red" ∧ before.orphanRules = [] ∧
      after.orphanRules.map (fun o => (o.source, o.rule)) = [("style-0", blankRule)] := by
  obtain ⟨f, hf, he⟩ := exists_paragraph
  refine ⟨f, hf, ?_⟩
  intro before after
  have hblank : ∀ entry ∈ [blankInFront].flatMap SheetRevision.rules, entry.2 = true →
      entry.1.Unmatched #[f] := by
    intro entry hentry hnew
    have hcases : entry = (blankRule, true) ∨ entry = (plainRule, false) := by
      simpa [blankInFront] using hentry
    rcases hcases with rfl | rfl
    · rintro list ⟨⟩
    · cases hnew
  obtain ⟨hstyle, -, ⟨orphans, horphans⟩, -⟩ :=
    merge_insert {} [.indexed f] [] [blankInFront] .null hblank
  have hplain : orphanOf? #[f] ("style-0", plainRule) = none := by
    rw [← Option.not_isSome_iff_eq_none, orphanOf?_isSome]
    intro hunmatched
    have hmatch := hunmatched _ parse_paragraph _ (List.mem_singleton_self _) ⟨0, 1⟩ f _ rfl he
    rw [matches_paragraph he] at hmatch
    cases hmatch
  have hbefore : before.orphanRules = [] := by
    rw [orphanRules_merge_eq]
    exact List.filterMap_cons_none hplain
  have hnew : orphans.filter (·.2) = orphans := by
    have hold : orphans.filter (!·.2) = [] :=
      List.map_eq_nil_iff.mp (horphans.before.symm.trans hbefore)
    refine List.filter_eq_self.mpr fun o ho => ?_
    simpa using List.filter_eq_nil_iff.mp hold o ho
  have hstyles : before.stylesFor ⟨0, 1⟩ =
      [{ rule := plainRule, specificity := .ofType, order := 0 }] := stylesFor_paragraph he rfl
  refine ⟨?_, hbefore, ?_⟩
  · rw [show after.computedStyle ⟨0, 1⟩ [] = before.computedStyle ⟨0, 1⟩ [] from hstyle ⟨0, 1⟩ []]
    rw [Document.computedStyle, hstyles, cascade_get?]
    rfl
  · rw [show after.orphanRules = orphans.map Prod.fst from horphans.after, List.map_map, ← hnew]
    exact horphans.inserted

end AccessAudit
