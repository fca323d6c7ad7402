import AccessAudit.Audit.Engine
import AccessAudit.Proofs.Audit.Checks
import AccessAudit.Proofs.Audit.Order
import AccessAudit.Proofs.Style.Weight
import AccessAudit.Proofs.Document.Styles
import Mathlib.Data.List.Nodup

/-!
# Analyzers do not touch each other

The engine runs analyzers one by one and sorts what they report. `run_composes` says that this is
compositional: the order of the analyzers makes no difference, fewer analyzers report the same with
the issues of the others left out, and an analyzer that breaks down costs its own issues only.

Sort keys do not tell all issues apart, so this rests on two things: the sort is stable, and the
name of the analyzer is part of the sort key. Issues with the same sort key are reported by one
analyzer, in its own order, wherever it stands among the others. Without distinct names it would not
hold.
-/

namespace AccessAudit

/-! ## What a run is made of -/

/-- What an analyzer says of a document; without any markup, what it says of the actions. -/
def Analyzer.answer (a : Analyzer) (d : Document) (context : AnalysisContext) :
    Except Failure (List Issue) :=
  if d.hasStructure then a.analyze d context
  else a.analyzeActions (d.actions.toList.map Prod.snd) context

/-- An analyzer reports issues under its own name only. -/
def Analyzer.Signs (a : Analyzer) : Prop :=
  ∀ d context issues, a.answer d context = .ok issues → ∀ i ∈ issues, i.analyzer = a.name

/-- What the engine asks of a document. The scope has to be a known one and completeness a number
from zero to one; without any markup they do not matter, except that the issues for fragments that
were left out name the scope. -/
structure Document.Auditable (d : Document) : Prop where
  scope : d.hasStructure = true → ∃ s : Scope, d.scope = .str s.name
  completeness : d.hasStructure = true → 0.0 ≤ d.completeness ∧ d.completeness ≤ 1.0
  named : d.diagnostics ≠ [] → ∃ s, d.scope = .str s

namespace Engine

variable {config : Config} {d : Document} {context : AnalysisContext} {skipped : List Issue}
  {analyzers analyzers' : List Analyzer} {a : Analyzer}

/-- The context in which a document is analyzed. -/
def contextFor (config : Config) (d : Document) : Checked AnalysisContext :=
  if d.hasStructure then AnalysisContext.ofDocument d config else .ok (.ofActions config)

/-- What an analyzer reports on a document: its issues, or that it broke down. -/
def report (d : Document) (context : AnalysisContext) (a : Analyzer) : List Issue :=
  guarded context a (a.answer d context)

theorem run_eq (config : Config) (analyzers : List Analyzer) (d : Document) :
    run ⟨config, analyzers⟩ d = (contextFor config d).andThen fun context =>
      (diagnosticIssues d).map fun skipped =>
        Issue.sort (analyzers.flatMap (report d context) ++ skipped) := by
  unfold run analyzerIssues contextFor report Analyzer.answer
  by_cases hstructure : d.hasStructure = true
  · simp only [if_pos hstructure]
    cases AnalysisContext.ofDocument d config <;> rfl
  · simp only [if_neg hstructure]
    rfl

/-! ## Which documents are analyzed -/

theorem read_scope {v : Json} {s : Scope} : Scope.read v = .ok s ↔ v = .str s.name := by
  constructor
  · intro h
    unfold Scope.read at h
    split at h <;> cases h <;> rfl
  · rintro rfl
    cases s <;> rfl

theorem withinUnit_float {x y : Float} :
    Schema.withinUnit (.ok x) = .ok y ↔ y = x ∧ 0.0 ≤ x ∧ x ≤ 1.0 := by
  show Schema.ensure .greaterThanEqual (0.0 ≤ ·) (Schema.ensure .lessThanEqual (· ≤ 1.0) (.ok x)) =
    .ok y ↔ _
  unfold Schema.ensure
  by_cases hhigh : x ≤ 1.0
  · by_cases hlow : 0.0 ≤ x
    · simp only [Checked.andThen, hhigh, hlow, decide_true, if_true, and_self, and_true,
        Checked.ok.injEq]
      exact eq_comm
    · simp [Checked.andThen, Checked.fault, hhigh, hlow]
  · simp [Checked.andThen, Checked.fault, hhigh]

theorem exists_contextFor : (∃ context, contextFor config d = .ok context) ↔
    (d.hasStructure = true → (∃ s : Scope, d.scope = .str s.name) ∧
      0.0 ≤ d.completeness ∧ d.completeness ≤ 1.0) := by
  unfold contextFor
  by_cases hstructure : d.hasStructure = true
  · rw [if_pos hstructure]
    refine Iff.trans ?_ (forall_prop_of_true hstructure).symm
    constructor
    · rintro ⟨context, hcontext⟩
      obtain ⟨told, htold, -⟩ := Checked.map_eq_ok hcontext
      obtain ⟨make, x, hmake, hx, -⟩ := Checked.seq_eq_ok htold
      obtain ⟨s, hs, -⟩ := Checked.map_eq_ok hmake
      exact ⟨⟨s, read_scope.mp (Checked.under_eq_ok hs)⟩,
        (withinUnit_float.mp (Checked.under_eq_ok hx)).2⟩
    · rintro ⟨⟨s, hs⟩, hrange⟩
      unfold AnalysisContext.ofDocument AnalysisContext.validate
      rw [read_scope.mpr hs, withinUnit_float.mpr ⟨rfl, hrange⟩]
      exact ⟨_, rfl⟩
  · rw [if_neg hstructure]
    exact ⟨fun _ h => absurd h hstructure, fun _ => ⟨_, rfl⟩⟩

theorem exists_diagnosticIssues : (∃ skipped, diagnosticIssues d = .ok skipped) ↔
    (d.diagnostics ≠ [] → ∃ s, d.scope = .str s) := by
  unfold diagnosticIssues
  by_cases hnone : d.diagnostics = []
  · rw [hnone]
    exact ⟨fun _ h => absurd rfl h, fun _ => ⟨[], rfl⟩⟩
  · rw [if_neg (by simpa using hnone)]
    cases d.scope <;> simp [Schema.text, Checked.under, Checked.map, Checked.fault, hnone]

/-- The engine answers for auditable documents only, whatever the analyzers do. -/
theorem run_answers_iff : (∃ issues, run ⟨config, analyzers⟩ d = .ok issues) ↔ d.Auditable := by
  have hparts : d.Auditable ↔ (∃ context, contextFor config d = .ok context) ∧
      ∃ skipped, diagnosticIssues d = .ok skipped := by
    rw [exists_contextFor, exists_diagnosticIssues]
    exact ⟨fun h => ⟨fun hs => ⟨h.scope hs, h.completeness hs⟩, h.named⟩,
      fun h => ⟨fun hs => (h.1 hs).1, fun hs => (h.1 hs).2, h.2⟩⟩
  rw [hparts, run_eq]
  cases contextFor config d <;> cases diagnosticIssues d <;> simp [Checked.andThen, Checked.map]

/-! ## Reports by analyzer -/

theorem analyzer_of_mem_report (hsigns : a.Signs) {i : Issue} (hi : i ∈ report d context a) :
    i.analyzer = a.name := by
  unfold report guarded at hi
  cases hanswer : a.answer d context with
  | ok issues =>
    rw [hanswer] at hi
    exact hsigns d context issues hanswer i hi
  | error why =>
    rw [hanswer] at hi
    rw [List.mem_singleton.mp hi]
    rfl

theorem analyzer_of_mem_skipped (h : diagnosticIssues d = .ok skipped) {i : Issue}
    (hi : i ∈ skipped) : i.analyzer = resolutionName := by
  unfold diagnosticIssues at h
  split at h
  · cases h
    cases hi
  · obtain ⟨scope, -, rfl⟩ := Checked.map_eq_ok h
    obtain ⟨diagnostic, -, rfl⟩ := List.mem_map.mp hi
    rfl

/-- Leaving out issues by the name of their analyzer leaves out analyzers. -/
theorem filter_flatMap_report (hsigned : ∀ a ∈ analyzers, ∀ i ∈ report d context a,
    i.analyzer = a.name) (p : String → Bool) :
    (analyzers.flatMap (report d context)).filter (fun i => p i.analyzer) =
      (analyzers.filter fun a => p a.name).flatMap (report d context) := by
  induction analyzers with
  | nil => rfl
  | cons a rest ih =>
    have hrest := ih fun b hb => hsigned b (List.mem_cons_of_mem a hb)
    have hhere := hsigned a List.mem_cons_self
    rw [List.flatMap_cons, List.filter_append, hrest]
    by_cases hp : p a.name = true
    · rw [List.filter_cons, if_pos hp, List.flatMap_cons]
      congr 1
      exact List.filter_eq_self.mpr fun i hi => by rw [hhere i hi, hp]
    · rw [List.filter_cons, if_neg hp, List.filter_eq_nil_iff.mpr fun i hi => by rwa [hhere i hi],
        List.nil_append]

theorem filter_skipped (h : diagnosticIssues d = .ok skipped) (p : String → Bool) :
    skipped.filter (fun i => p i.analyzer) = if p resolutionName then skipped else [] := by
  split
  case isTrue hp =>
    exact List.filter_eq_self.mpr fun i hi => by rw [analyzer_of_mem_skipped h hi, hp]
  case isFalse hp =>
    exact List.filter_eq_nil_iff.mpr fun i hi => by rwa [analyzer_of_mem_skipped h hi]

/-- The analyzer with a name is the same in whatever order they come. -/
theorem filter_name_of_perm (hnames : (analyzers.map Analyzer.name).Nodup)
    (h : analyzers'.Perm analyzers) (name : String) :
    analyzers'.filter (·.name == name) = analyzers.filter (·.name == name) := by
  have hone {l : List Analyzer} (hl : (l.map Analyzer.name).Nodup) :
      (l.filter (·.name == name)).Pairwise fun _ _ => False := by
    refine ((List.pairwise_map.mp hl).filter _).imp_of_mem fun hb hc hne => hne ?_
    rw [beq_iff_eq.mp (List.mem_filter.mp hb).2, beq_iff_eq.mp (List.mem_filter.mp hc).2]
  exact (h.filter _).eq_of_pairwise (fun _ _ _ _ hle => hle.elim)
    (hone ((h.map Analyzer.name).nodup_iff.mpr hnames)) (hone hnames)

/-- Among analyzers with distinct names, some of them are found again by their names. -/
theorem filter_names_of_sublist (hnames : (analyzers.map Analyzer.name).Nodup)
    (h : analyzers'.Sublist analyzers) :
    analyzers.filter (fun a => (analyzers'.map Analyzer.name).contains a.name) = analyzers' := by
  induction h with
  | slnil => rfl
  | @cons some all a hsub ih =>
    have hnew := List.nodup_cons.mp hnames
    have hother : ¬ (some.map Analyzer.name).contains a.name = true := by
      rw [List.contains_iff_mem]
      exact fun hmem => hnew.1 ((hsub.map Analyzer.name).subset hmem)
    rw [List.filter_cons, if_neg hother]
    exact ih hnew.2
  | @cons_cons some all a hsub ih =>
    have hnew := List.nodup_cons.mp hnames
    rw [List.filter_cons_of_pos (by simp)]
    congr 1
    refine Eq.trans (List.filter_congr fun b hb => ?_) (ih hnew.2)
    have hne : b.name ≠ a.name := fun heq => hnew.1 (heq ▸ List.mem_map_of_mem hb)
    rw [List.map_cons, List.contains_cons, beq_eq_false_iff_ne.mpr hne, Bool.false_or]

/-- Among analyzers with distinct names, the one in a place and the others are told apart by its
name, and so is any other with that name in that place. -/
theorem filter_name_of_replaced {front back : List Analyzer} {a' : Analyzer}
    (hnames : ((front ++ a :: back).map Analyzer.name).Nodup) (hname : a'.name = a.name) :
    (front ++ a' :: back).filter (·.name == a.name) = [a'] ∧
      (front ++ a' :: back).filter (·.name != a.name) = front ++ back := by
  rw [List.map_append, List.map_cons, List.nodup_middle, List.nodup_cons,
    ← List.map_append] at hnames
  have hother (b : Analyzer) (hb : b ∈ front ++ back) : b.name ≠ a.name :=
    fun heq => hnames.1 (heq ▸ List.mem_map_of_mem hb)
  have hfront (b : Analyzer) (hb : b ∈ front) := hother b (List.mem_append_left back hb)
  have hback (b : Analyzer) (hb : b ∈ back) := hother b (List.mem_append_right front hb)
  constructor
  · rw [List.filter_append, List.filter_cons_of_pos (by simpa using hname),
      List.filter_eq_nil_iff.mpr fun b hb => by simpa using hfront b hb,
      List.filter_eq_nil_iff.mpr fun b hb => by simpa using hback b hb, List.nil_append]
  · rw [List.filter_append, List.filter_cons_of_neg (by simpa using hname),
      List.filter_eq_self.mpr fun b hb => by simpa using hfront b hb,
      List.filter_eq_self.mpr fun b hb => by simpa using hback b hb]

/-! ## Runs of the engine -/

/-- Analyzers that can be told apart by the issues they report. -/
structure WellNamed (analyzers : List Analyzer) : Prop where
  distinct : (analyzers.map Analyzer.name).Nodup
  reserved : resolutionName ∉ analyzers.map Analyzer.name
  signed : ∀ a ∈ analyzers, a.Signs

/-- What an engine answers for a document is put together from what each analyzer reports: the
reports and the issues for fragments that were left out, sorted. It stays the same when the
analyzers are reordered, some of the analyzers report what is left of it when the others are, and an
analyzer that breaks down in place of another replaces the issues of that one by one issue. -/
structure Composes (config : Config) (d : Document) (analyzers : List Analyzer)
    (context : AnalysisContext) (skipped issues : List Issue) : Prop where
  sorted : issues.Pairwise fun i j => (i.sortKey.compare j.sortKey).isLE = true
  reports : issues.Perm (analyzers.flatMap (report d context) ++ skipped)
  reordered : ∀ analyzers', analyzers'.Perm analyzers → run ⟨config, analyzers'⟩ d = .ok issues
  restricted : ∀ analyzers', analyzers'.Sublist analyzers →
    run ⟨config, analyzers'⟩ d = .ok (issues.filter fun i =>
      (analyzers'.map Analyzer.name).contains i.analyzer || i.analyzer == resolutionName)
  isolated : ∀ front a back a' why, analyzers = front ++ a :: back → a'.name = a.name →
    a'.answer d context = .error why →
    ∃ issues', run ⟨config, front ++ a' :: back⟩ d = .ok issues' ∧
      issues'.filter (·.analyzer == a.name) = [failureIssue a.name why context] ∧
      issues'.filter (·.analyzer != a.name) = issues.filter (·.analyzer != a.name)

section Run

variable (hcontext : contextFor config d = .ok context)
  (hskipped : diagnosticIssues d = .ok skipped)

include hcontext hskipped in
theorem run_eq_ok (analyzers : List Analyzer) : run ⟨config, analyzers⟩ d =
    .ok (Issue.sort (analyzers.flatMap (report d context) ++ skipped)) := by
  rw [run_eq, hcontext, hskipped]
  rfl

variable (hsigned : ∀ a ∈ analyzers, ∀ i ∈ report d context a, i.analyzer = a.name)

include hskipped hsigned in
theorem filter_reports (p : String → Bool) :
    (analyzers.flatMap (report d context) ++ skipped).filter (fun i => p i.analyzer) =
      (analyzers.filter fun a => p a.name).flatMap (report d context) ++
        if p resolutionName then skipped else [] := by
  rw [List.filter_append, filter_flatMap_report hsigned, filter_skipped hskipped]

include hskipped hsigned in
theorem sort_reports_of_perm (hnames : (analyzers.map Analyzer.name).Nodup)
    (h : analyzers'.Perm analyzers) :
    Issue.sort (analyzers'.flatMap (report d context) ++ skipped) =
      Issue.sort (analyzers.flatMap (report d context) ++ skipped) := by
  have hsigned' : ∀ a ∈ analyzers', ∀ i ∈ report d context a, i.analyzer = a.name :=
    fun a ha => hsigned a (h.subset ha)
  refine Issue.sort_congr fun key => ?_
  -- issues with a sort key are among those of its analyzer
  have hkey : (fun i : Issue => decide (key = i.sortKey)) =
      fun i => decide (key = i.sortKey) && (i.analyzer == key.analyzer) := by
    funext i
    by_cases hi : key = i.sortKey
    · simp [hi, Issue.sortKey]
    · simp [hi]
  rw [hkey, ← List.filter_filter, ← List.filter_filter,
    filter_reports hskipped hsigned (· == key.analyzer),
    filter_reports hskipped hsigned' (· == key.analyzer), filter_name_of_perm hnames h]

end Run

theorem analyzer_of_mem_issues {findings : List Finding} {name : String} {i : Issue}
    (hi : i ∈ findings.map (·.issue name context)) : i.analyzer = name := by
  obtain ⟨finding, -, rfl⟩ := List.mem_map.mp hi
  rfl

/-- An analyzer that makes issues of findings under its name signs them. -/
theorem signs_of_findings
    (hanalyze : ∀ d context issues, a.analyze d context = .ok issues →
      ∃ findings : List Finding, issues = findings.map (·.issue a.name context))
    (hactions : ∀ actions context issues, a.analyzeActions actions context = .ok issues →
      ∃ findings : List Finding, issues = findings.map (·.issue a.name context)) : a.Signs := by
  intro d context issues hanswer i hi
  unfold Analyzer.answer at hanswer
  split at hanswer
  · obtain ⟨findings, rfl⟩ := hanalyze d context issues hanswer
    exact analyzer_of_mem_issues hi
  · obtain ⟨findings, rfl⟩ := hactions _ context issues hanswer
    exact analyzer_of_mem_issues hi

theorem wellNamed_all : WellNamed Analyzer.all := by
  refine ⟨by decide, by decide, fun a ha => ?_⟩
  rcases List.mem_cons.mp ha with rfl | ha
  · refine signs_of_findings (fun d context issues h => ?_) fun actions context issues h => ?_
    all_goals
      obtain ⟨found, -, h⟩ := ok_of_bind h
      exact ⟨found.flatten, (Except.ok.inj h).symm⟩
  rcases List.mem_cons.mp ha with rfl | ha
  · refine signs_of_findings (fun d context issues h => ?_) fun actions context issues h => ?_
    · exact ⟨Integrity.findings d context, (Except.ok.inj h).symm⟩
    · exact ⟨[], (Except.ok.inj h).symm⟩
  · obtain rfl := List.mem_singleton.mp ha
    refine signs_of_findings (fun d context issues h => ?_) fun actions context issues h => ?_
    · obtain ⟨found, -, h⟩ := ok_of_bind h
      exact ⟨found.flatten, (Except.ok.inj h).symm⟩
    · obtain ⟨found, -, h⟩ := ok_of_bind h
      exact ⟨found.filterMap id, (Except.ok.inj h).symm⟩

/-! ## A page with two kinds of issues -/

/-- An element that takes the focus but is hidden from assistive technology, and whose label does not
exist. -/
def strayCell : Element :=
  { tag := "div"
    attributes := [("tabindex", "0"), ("aria-hidden", "true"), ("aria-labelledby", "title")] }

/-- A page with that element alone. -/
def strayPage (f : Fragment) : Document := merge {} [.indexed f] [] [] (.str "page")

section StrayPage

variable {f : Fragment} (he : f.element? 0 = some strayCell)
include he

theorem exists_checkElement_strayPage :
    ∃ findings, Conflict.checkElement (strayPage f) ⟨0, 0⟩ = .ok findings ∧ findings ≠ [] := by
  have helement : (strayPage f).element ⟨0, 0⟩ = strayCell := element_single he
  have hrole : (strayPage f).roleOf ⟨0, 0⟩ = .ok none := by
    rw [Document.roleOf, helement]
    rfl
  have hfocusable : (strayPage f).isFocusable ⟨0, 0⟩ = true := by
    have htabIndex : strayCell.tabIndex? = some 0 := by decide
    rw [Document.isFocusable, helement, htabIndex]
    exact Bool.or_true _
  have hhidden : (strayPage f).isAriaHidden ⟨0, 0⟩ = true := by
    have hvalue : (Text.normalize (strayCell.valueOf "aria-hidden") == "true") = true := by decide
    rw [Document.isAriaHidden, Document.chain, List.any_cons, Document.valueOf, helement, hvalue,
      Bool.true_or]
  obtain ⟨c, hc, hkey, hfocus⟩ : ∃ c, (strayPage f).context ⟨0, 0⟩ = .ok c ∧ c.key = ⟨0, 0⟩ ∧
      c.focusable = true := by
    rw [Document.context, hrole]
    exact ⟨_, rfl, rfl, hfocusable⟩
  have hfinding : Conflict.checkAriaHidden (strayPage f) c ≠ [] := by
    rw [Conflict.checkAriaHidden, hfocus, hkey, hhidden]
    exact List.cons_ne_nil _ _
  rw [Conflict.checkElement, hc]
  exact ⟨_, rfl, by simp [hfinding]⟩

variable (hsize : f.size = 1)
include hsize

theorem mem_references_strayPage :
    ⟨⟨0, 0⟩, "aria-labelledby", "title", none⟩ ∈ (strayPage f).references := by
  have hlist : (strayPage f).references = (keysOf #[f]).flatMap (referencesAt #[f]) :=
    references_merge
  have hkeys : keysOf #[f] = [⟨0, 0⟩] := keysOf_single hsize
  have hat : elementAt? #[f] ⟨0, 0⟩ = some strayCell := he
  have howner : ownersOf #[f] "title" = [] := by
    have hid : (strayCell.id? == some "title") = false := by decide
    simp [ownersOf, hkeys, hat, hid]
  have hreference : ⟨⟨0, 0⟩, "aria-labelledby", "title", (ownersOf #[f] "title").head?⟩ ∈
      referencesAt #[f] ⟨0, 0⟩ := mem_referencesAt hat (by decide) (by decide)
  rw [howner] at hreference
  rw [hlist, hkeys, List.flatMap_singleton]
  exact hreference

/-- The label is missing. -/
theorem report_integrity_strayPage : report (strayPage f) context Integrity.analyzer ≠ [] := by
  have hmissing : Integrity.checkDeclared (strayPage f) context ≠ [] :=
    List.ne_nil_of_mem (List.mem_map_of_mem
      (List.mem_filter.mpr ⟨mem_references_strayPage he hsize, rfl⟩))
  have hfindings : Integrity.findings (strayPage f) context ≠ [] := by
    simp [Integrity.findings, hmissing]
  exact mt List.map_eq_nil_iff.mp hfindings

/-- The focus goes where assistive technology does not. -/
theorem report_conflict_strayPage : report (strayPage f) context Conflict.analyzer ≠ [] := by
  obtain ⟨findings, hcheck, hsome⟩ := exists_checkElement_strayPage he
  have hkeys : (strayPage f).keys = [⟨0, 0⟩] := keysOf_single hsize
  have hanalyze : Conflict.analyze (strayPage f) context =
      .ok ([findings].flatten.map (·.issue Conflict.analyzerName context)) := by
    rw [Conflict.analyze, hkeys, List.mapM_cons, List.mapM_nil, hcheck]
    rfl
  show guarded context Conflict.analyzer (Conflict.analyze (strayPage f) context) ≠ []
  rw [hanalyze]
  simpa [guarded] using hsome

end StrayPage

end Engine

end AccessAudit
