import AccessAudit.Proofs.Audit.Dispatch
import AccessAudit.Proofs.Audit.Keyboard
import AccessAudit.Proofs.Audit.Pointer
import AccessAudit.Proofs.Style.Cascade

/-!
# The catalogue of kinds

Every analyzer declares the kinds of issues that it reports. For widgets these are put together from
two sides: kinds are made of the names of patterns, facets and roles where an issue is reported, and
picked out of the list of all kinds by how they begin or end where they are declared. That the one
is always among the other is `run_catalogued`: whatever the engine reports is declared by the
analyzer that it names, or is one of the few kinds that are the engine's own.
-/

namespace AccessAudit

/-- An analyzer signs the issues it reports, and reports those kinds only that it declares. -/
structure Analyzer.KeepsTo (a : Analyzer) : Prop where
  document : ∀ d context issues, a.analyze d context = .ok issues →
    ∀ i ∈ issues, i.analyzer = a.name ∧ i.kind ∈ a.kinds
  actions : ∀ actions context issues, a.analyzeActions actions context = .ok issues →
    ∀ i ∈ issues, i.analyzer = a.name ∧ i.kind ∈ a.kinds

theorem kind_of_mem_issues {findings : List Finding} {name : String} {context : AnalysisContext}
    {kinds : List String} (h : ∀ f ∈ findings, f.kind ∈ kinds) :
    ∀ i ∈ findings.map (·.issue name context), i.analyzer = name ∧ i.kind ∈ kinds := by
  intro i hi
  obtain ⟨f, hf, rfl⟩ := List.mem_map.mp hi
  exact ⟨rfl, h f hf⟩

/-- Checks that keep to some kinds one by one do so together. -/
theorem kind_of_mem_flatten {α : Type} {check : α → Except Failure (List Finding)}
    {items : List α} {found : List (List Finding)} {kinds : List String}
    (hfound : items.mapM check = .ok found)
    (h : ∀ item findings, check item = .ok findings → ∀ f ∈ findings, f.kind ∈ kinds) :
    ∀ f ∈ found.flatten, f.kind ∈ kinds := by
  intro f hf
  obtain ⟨findings, hfindings, hmem⟩ := List.mem_flatten.mp hf
  obtain ⟨item, -, hcheck⟩ := (mem_of_mapM_ok hfound).mp hfindings
  exact h item findings hcheck f hmem

/-! ## Widgets -/

namespace Widget

theorem kind_mem_allKinds {p : Pattern} (hp : p ∈ Pattern.all) (facet : Facet) :
    p.kind facet ∈ Pattern.allKinds := by
  refine List.mem_append_left _ (List.mem_flatMap.mpr ⟨p, hp, ?_⟩)
  cases facet <;> simp [Pattern.kinds]

/-- What the check of a facet reports ends with the name of the facet. -/
theorem kind_mem_facetKinds {p : Pattern} (hp : p ∈ Pattern.all) (facet : Facet) :
    p.kind facet ∈ facetKinds facet := by
  refine List.mem_filter.mpr ⟨kind_mem_allKinds hp facet, ?_⟩
  rw [List.isSuffixOf_iff_suffix, Pattern.kind, String.append_assoc,
    @String.toList_append ("incomplete-" ++ p.name)]
  exact List.suffix_append _ _

theorem kind_mem_placeKinds {role : String} (hrole : role ∈ Pattern.containers.names) :
    Pattern.misplacedKind role ∈ placeKinds := by
  refine List.mem_filter.mpr ⟨List.mem_append_right _ (List.mem_map_of_mem hrole), ?_⟩
  rw [List.isPrefixOf_iff_prefix, Pattern.misplacedKind, String.toList_append]
  exact List.prefix_append _ _

theorem mem_kinds_of_facet {kind : String} {facet : Facet} (h : kind ∈ facetKinds facet) :
    kind ∈ analyzer.kinds := by
  show kind ∈ facetKinds .parts ++ facetKinds .relations ++ facetKinds .keyboard ++
    facetKinds .state ++ placeKinds
  cases facet <;> simp [h]

theorem mem_kinds_of_place {kind : String} (h : kind ∈ placeKinds) : kind ∈ analyzer.kinds :=
  List.mem_append_right _ h

theorem kind_of_checkPattern {d : Document} {key : Key} {pattern : Option Pattern}
    {findings : List Finding} (hpattern : patternFor? d key = .ok pattern)
    (h : checkPattern d key pattern = .ok findings) :
    ∀ f ∈ findings, f.kind ∈ analyzer.kinds := by
  cases pattern with
  | none =>
    cases h
    exact fun f hf => absurd hf List.not_mem_nil
  | some p =>
    have hp := mem_all_of_patternFor? hpattern
    obtain ⟨structural, -, h⟩ := ok_of_bind h
    obtain ⟨relations, -, h⟩ := ok_of_bind h
    obtain ⟨keys, -, h⟩ := ok_of_bind h
    obtain rfl := Except.ok.inj h
    intro f hf
    obtain ⟨found, hfound, hsome⟩ := List.mem_filterMap.mp
      (show f ∈ List.filterMap id _ from hf)
    simp only [List.mem_cons, List.not_mem_nil, or_false] at hfound
    obtain ⟨facet, gaps, rfl⟩ : ∃ facet gaps, found = finding? d key p facet gaps := by
      rcases hfound with rfl | rfl | rfl | rfl
      all_goals exact ⟨_, _, rfl⟩
    rw [kind_of_finding? hsome]
    exact mem_kinds_of_facet (kind_mem_facetKinds hp facet)

theorem kind_of_checkRole {d : Document} {key : Key} {role : Option String}
    {findings : List Finding} (h : checkRole d key role = .ok findings) :
    ∀ f ∈ findings, f.kind ∈ analyzer.kinds := by
  intro f hf
  obtain ⟨role, containers, hcontainers, hkind⟩ := misplaced_of_checkRole h hf
  rw [hkind]
  exact mem_kinds_of_place (kind_mem_placeKinds (Entries.mem_names_iff.mpr ⟨_, hcontainers⟩))

theorem kind_of_checkElement {d : Document} {key : Key} {findings : List Finding}
    (h : checkElement d key = .ok findings) : ∀ f ∈ findings, f.kind ∈ analyzer.kinds := by
  rw [checkElement_eq] at h
  obtain ⟨pattern, hpattern, h⟩ := ok_of_bind h
  obtain ⟨widget, hwidget, h⟩ := ok_of_bind h
  obtain ⟨placed, hplaced, h⟩ := ok_of_bind h
  obtain rfl := Except.ok.inj h
  rw [List.forall_mem_append]
  exact ⟨kind_of_checkPattern hpattern hwidget, kind_of_checkRole hplaced⟩

theorem kind_of_checkChange {actions : List Action} {change : RoleChange}
    {findings : List Finding} (h : checkChange actions change = .ok findings) :
    ∀ f ∈ findings, f.kind ∈ analyzer.kinds := by
  intro f hf
  unfold checkChange at h
  cases hp : Pattern.forRole? change.role with
  | none =>
    rw [hp] at h
    cases h
    cases hf
  | some p =>
    rw [hp] at h
    obtain ⟨keys, -, h⟩ := ok_of_bind h
    split at h
    · cases h
      cases hf
    · cases h
      rw [List.mem_singleton.mp hf]
      exact mem_kinds_of_facet (kind_mem_facetKinds (List.mem_of_find?_eq_some hp) .keyboard)

theorem analyzer_keepsTo : analyzer.KeepsTo where
  document := by
    intro d context issues h
    obtain ⟨found, hfound, h⟩ := ok_of_bind h
    obtain rfl := Except.ok.inj h
    exact kind_of_mem_issues (kind_of_mem_flatten hfound fun _ _ => kind_of_checkElement)
  actions := by
    intro actions context issues h
    obtain ⟨found, hfound, h⟩ := ok_of_bind h
    obtain rfl := Except.ok.inj h
    exact kind_of_mem_issues (kind_of_mem_flatten hfound fun _ _ => kind_of_checkChange)

end Widget

/-! ## References -/

namespace Integrity

theorem kind_of_checkWritten {d : Document} {context : AnalysisContext} {key : Key} {a : Action}
    {f : Finding} (h : f ∈ checkWritten d context key a) : f.kind = missingKind := by
  unfold checkWritten at h
  split at h
  · split at h
    · obtain ⟨word, -, rfl⟩ := List.mem_map.mp h
      rfl
    · cases h
  · cases h

theorem kind_of_checkDuplicates {d : Document} {f : Finding} (h : f ∈ checkDuplicates d) :
    f.kind = duplicateKind := by
  obtain ⟨⟨id, owners⟩, -, h⟩ := List.mem_flatMap.mp h
  cases owners with
  | nil => cases h
  | cons first others =>
    obtain ⟨key, -, rfl⟩ := List.mem_map.mp h
    rfl

theorem kind_of_findings (d : Document) (context : AnalysisContext) :
    ∀ f ∈ findings d context, f.kind ∈ analyzer.kinds := by
  intro f hf
  show f.kind ∈ [missingKind, orphanKind, duplicateKind]
  simp only [findings, List.mem_append] at hf
  rcases hf with ((hf | hf) | hf) | hf
  · obtain ⟨r, -, rfl⟩ := List.mem_map.mp hf
    simp [missingReference]
  · obtain ⟨key, -, hf⟩ := List.mem_flatMap.mp hf
    obtain ⟨a, -, hf⟩ := List.mem_flatMap.mp hf
    simp [kind_of_checkWritten hf]
  · obtain ⟨o, -, hf⟩ := List.mem_filterMap.mp hf
    obtain ⟨id, -, rfl⟩ := Option.map_eq_some_iff.mp hf
    simp
  · simp [kind_of_checkDuplicates hf]

theorem analyzer_keepsTo : analyzer.KeepsTo where
  document := by
    intro d context issues h
    obtain rfl := Except.ok.inj h
    exact kind_of_mem_issues (kind_of_findings d context)
  actions := by
    intro actions context issues h
    obtain rfl := Except.ok.inj h
    exact fun i hi => absurd hi List.not_mem_nil

end Integrity

/-! ## Conflicts -/

namespace Conflict

theorem kind_of_checkElement {d : Document} {key : Key} {findings : List Finding}
    (h : checkElement d key = .ok findings) : ∀ f ∈ findings, f.kind ∈ analyzer.kinds := by
  obtain ⟨c, -, h⟩ := ok_of_bind h
  obtain rfl := Except.ok.inj h
  intro f hf
  show f.kind ∈ [focusableHiddenKind, mouseOnlyKind, ariaHiddenKind, interactiveHiddenKind,
    focusToHiddenKind]
  simp only [List.mem_append] at hf
  rcases hf with (((hf | hf) | hf) | hf) | hf
  · simp [kind_of_checkFocusableHidden hf]
  · rw [checkMouseOnly_eq] at hf
    split at hf
    · cases List.mem_singleton.mp hf
      simp [pointerFinding]
    · cases hf
  · simp [kind_of_checkAriaHidden hf]
  · simp [kind_of_checkInteractiveHidden hf]
  · simp [kind_of_checkFocusToHidden hf]

theorem kind_of_checkSelector {actions : List Action} {selector : String} {f : Finding}
    (h : checkSelector actions selector = .ok (some f)) : f.kind ∈ analyzer.kinds := by
  unfold checkSelector at h
  dsimp only at h
  split at h
  · cases h
  · split at h
    · cases h
    · obtain ⟨native, -, h⟩ := ok_of_bind h
      cases native with
      | true => cases h
      | false =>
        cases h
        simp [mouseOnlyFinding, analyzer]

theorem analyzer_keepsTo : analyzer.KeepsTo where
  document := by
    intro d context issues h
    obtain ⟨found, hfound, h⟩ := ok_of_bind h
    obtain rfl := Except.ok.inj h
    exact kind_of_mem_issues (kind_of_mem_flatten hfound fun _ _ => kind_of_checkElement)
  actions := by
    intro actions context issues h
    obtain ⟨found, hfound, h⟩ := ok_of_bind h
    obtain rfl := Except.ok.inj h
    refine kind_of_mem_issues fun f hf => ?_
    obtain ⟨finding, hfinding, hsome⟩ := List.mem_filterMap.mp hf
    obtain rfl : finding = some f := hsome
    obtain ⟨selector, -, hcheck⟩ := (mem_of_mapM_ok hfound).mp hfinding
    exact kind_of_checkSelector hcheck

end Conflict

/-! ## The engine -/

namespace Engine

variable {e : Engine} {d : Document} {context : AnalysisContext}

/-- The issue is of one of the engine's own kinds, or of a kind that the analyzer it names
declares. -/
def Catalogued (i : Issue) : Prop :=
  i.kind ∈ kinds ∨ ∃ a, Analyzer.find? i.analyzer = some a ∧ i.kind ∈ a.kinds

theorem Catalogued.mem_allKinds {i : Issue} (h : Catalogued i) : i.kind ∈ allKinds := by
  rcases h with hown | ⟨a, hfind, hkind⟩
  · exact List.mem_append_left _ hown
  · exact List.mem_append_right _
      (List.mem_flatMap.mpr ⟨a, List.mem_of_find?_eq_some hfind, hkind⟩)

theorem keepsTo_of_mem_all {a : Analyzer} (h : a ∈ Analyzer.all) :
    a.KeepsTo ∧ Analyzer.find? a.name = some a := by
  simp only [Analyzer.all, List.mem_cons, List.not_mem_nil, or_false] at h
  rcases h with rfl | rfl | rfl
  · exact ⟨Widget.analyzer_keepsTo, rfl⟩
  · exact ⟨Integrity.analyzer_keepsTo, rfl⟩
  · exact ⟨Conflict.analyzer_keepsTo, rfl⟩

/-- An analyzer that breaks down is reported under its name, with a kind of the engine's. -/
theorem catalogued_of_mem_guarded {a : Analyzer} (ha : a ∈ Analyzer.all)
    {result : Except Failure (List Issue)}
    (h : ∀ issues, result = .ok issues → ∀ i ∈ issues, i.analyzer = a.name ∧ i.kind ∈ a.kinds) :
    ∀ i ∈ guarded context a result, Catalogued i := by
  intro i hi
  cases result with
  | ok issues =>
    obtain ⟨hname, hkind⟩ := h issues rfl i hi
    exact .inr ⟨a, hname ▸ (keepsTo_of_mem_all ha).2, hkind⟩
  | error why =>
    rw [List.mem_singleton.mp hi]
    exact .inl List.mem_cons_self

theorem catalogued_of_mem_diagnosticIssues {skipped : List Issue}
    (h : diagnosticIssues d = .ok skipped) : ∀ i ∈ skipped, Catalogued i := by
  intro i hi
  unfold diagnosticIssues at h
  split at h
  · cases h
    cases hi
  · obtain ⟨scope, -, rfl⟩ := Checked.map_eq_ok h
    obtain ⟨diagnostic, -, rfl⟩ := List.mem_map.mp hi
    exact .inl (List.mem_cons_of_mem _ List.mem_cons_self)

section

variable (hanalyzers : ∀ a ∈ e.analyzers, a ∈ Analyzer.all)
include hanalyzers

theorem catalogued_of_mem_dispatch {call : Analyzer → Except Failure (List Issue)}
    (h : ∀ a ∈ Analyzer.all, ∀ issues, call a = .ok issues →
      ∀ i ∈ issues, i.analyzer = a.name ∧ i.kind ∈ a.kinds) :
    ∀ i ∈ e.dispatch context call, Catalogued i := by
  intro i hi
  obtain ⟨a, ha, hi⟩ := List.mem_flatMap.mp hi
  exact catalogued_of_mem_guarded (hanalyzers a ha) (h a (hanalyzers a ha)) i hi

theorem catalogued_of_mem_actionIssues (actions : List Action) :
    ∀ i ∈ e.actionIssues actions, Catalogued i :=
  catalogued_of_mem_dispatch hanalyzers fun _ ha issues h =>
    (keepsTo_of_mem_all ha).1.actions actions _ issues h

theorem catalogued_of_mem_analyzerIssues {found : List Issue} (h : e.analyzerIssues d = .ok found) :
    ∀ i ∈ found, Catalogued i := by
  unfold analyzerIssues at h
  split at h
  · obtain ⟨context, -, rfl⟩ := Checked.map_eq_ok h
    exact catalogued_of_mem_dispatch hanalyzers fun _ ha issues h =>
      (keepsTo_of_mem_all ha).1.document d context issues h
  · cases h
    exact catalogued_of_mem_actionIssues hanalyzers _

theorem catalogued_of_mem_run {issues : List Issue} (h : e.run d = .ok issues) :
    ∀ i ∈ issues, Catalogued i := by
  obtain ⟨found, hfound, h⟩ := Checked.andThen_eq_ok h
  obtain ⟨skipped, hskipped, rfl⟩ := Checked.map_eq_ok h
  intro i hi
  rcases List.mem_append.mp ((Issue.sort_perm _).mem_iff.mp hi) with hi | hi
  · exact catalogued_of_mem_analyzerIssues hanalyzers hfound i hi
  · exact catalogued_of_mem_diagnosticIssues hskipped i hi

end

/-- Telling how many analyzers run at a time can only keep a run from giving a result. -/
theorem run_of_runWith {workers : Json} {issues : List Issue}
    (h : e.runWith workers d = .ok issues) : e.run d = .ok issues := by
  obtain ⟨-, -, h⟩ := Checked.andThen_eq_ok h
  cases hworkers : checkWorkers workers with
  | ok => rwa [hworkers] at h
  | error why =>
    rw [hworkers] at h
    cases h

/-- Every issue that an engine with analyzers of the list reports has a kind that is catalogued: for
a document, however many analyzers run at a time, and for actions without any markup. -/
theorem run_catalogued (e : Engine) (hanalyzers : ∀ a ∈ e.analyzers, a ∈ Analyzer.all) :
    (∀ d issues, e.run d = .ok issues → ∀ i ∈ issues, Catalogued i ∧ i.kind ∈ allKinds) ∧
    (∀ workers d issues, e.runWith workers d = .ok issues →
      ∀ i ∈ issues, Catalogued i ∧ i.kind ∈ allKinds) ∧
    ∀ actions, ∀ i ∈ e.runActions actions, Catalogued i ∧ i.kind ∈ allKinds := by
  have hrun : ∀ d issues, e.run d = .ok issues →
      ∀ i ∈ issues, Catalogued i ∧ i.kind ∈ allKinds := by
    intro d issues h i hi
    have hi := catalogued_of_mem_run hanalyzers h i hi
    exact ⟨hi, hi.mem_allKinds⟩
  refine ⟨hrun, fun workers d issues h => hrun d issues (run_of_runWith h), ?_⟩
  intro actions i hi
  have hi := catalogued_of_mem_actionIssues hanalyzers actions i
    ((Issue.sort_perm _).mem_iff.mp hi)
  exact ⟨hi, hi.mem_allKinds⟩

theorem mem_all_of_ofConfig (config : Config) (names : Option (List String)) :
    ∀ a ∈ (ofConfig config names).analyzers, a ∈ Analyzer.all := by
  intro a ha
  change a ∈ Analyzer.enabled _ at ha
  unfold Analyzer.enabled at ha
  split at ha
  · exact ha
  · exact List.mem_of_mem_filter ha

/-- A script that makes a toolbar of an element. -/
def makeToolbar : Action :=
  { element := { selector := some ".tools" }, deed := .mutate "role" (some "toolbar") }

/-- Without any markup, that is reported for its missing arrow keys. -/
theorem run_catalogued_toolbar :
    ∃ i ∈ (ofConfig {} none).runActions [makeToolbar], i.analyzer = "widget-pattern" ∧
      i.kind = "incomplete-toolbar-keyboard" ∧ Catalogued i ∧ i.kind ∈ allKinds := by
  have hissues : (("widget-pattern", "incomplete-toolbar-keyboard") : String × String) ∈
      ((ofConfig {} none).runActions [makeToolbar]).map fun i => (i.analyzer, i.kind) := by
    decide +kernel
  obtain ⟨i, hi, hpair⟩ := List.mem_map.mp hissues
  obtain ⟨hname, hkind⟩ := Prod.mk.inj hpair
  obtain ⟨-, -, hactions⟩ := run_catalogued (ofConfig {} none) (mem_all_of_ofConfig _ _)
  exact ⟨i, hi, hname, hkind, hactions [makeToolbar] i hi⟩

end Engine

end AccessAudit
