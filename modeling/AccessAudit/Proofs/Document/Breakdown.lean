import AccessAudit.Document.Merge

/-!
# Selectors that cannot be dealt with

A selector may go too deep for what reads or matches it. The merge then gives no document. It fails
with the first breakdown that it meets: over the selectors of actions first, then over those of
rules (`assemble_eq_error`). The selector of an action that is found in the index of simple selectors
is not read, and nothing breaks down over it (`resolveBreakdown?_eq`). What one more action changes is
up to its own selector (`exists_breakdowns_insert`).
-/

namespace AccessAudit

open Selector

/-- What the merge wants a selector for: where there is nothing to match, it is only read. -/
def mergeUse (fragments : Array Fragment) : Use :=
  if fragments.isEmpty then .reading else .matching

theorem resolveBreakdown?_eq (fragments : Array Fragment) (index : CandidateIndex) (s : String) :
    resolveBreakdown? fragments index s =
      if index.lookup s = [] then breakdown? (mergeUse fragments) s else none := by
  unfold resolveBreakdown? mergeUse
  dsimp only
  cases breakdown? (if fragments.isEmpty then .reading else .matching) s with
  | none => simp
  | some why => by_cases hlookup : index.lookup s = [] <;> simp [Option.filter, hlookup]

/-- The breakdowns over the selectors of actions. -/
def actionBreakdowns (fragments : Array Fragment) (actions : List Action) : List Failure :=
  actions.filterMap fun a =>
    resolveBreakdown? fragments (CandidateIndex.build fragments) a.selector

/-- The breakdowns over the selectors of rules. -/
def ruleBreakdowns (fragments : Array Fragment) (rules : List Rule) : List Failure :=
  rules.filterMap fun r => breakdown? (mergeUse fragments) r.selector

/-- All breakdowns that a merge would meet if it went on, in order. -/
def breakdowns (inputs : List FragmentInput) (scripts : List Script) (sheets : List StyleSheet) :
    List Failure :=
  actionBreakdowns (indexInputs 0 inputs).1.toArray (scripts.flatMap Script.actions) ++
    ruleBreakdowns (indexInputs 0 inputs).1.toArray (sheets.flatMap StyleSheet.rules)

/-- The actions of all scripts in sequence; the sources play no part. -/
theorem map_snd_flattenScripts (scripts : List Script) :
    (flattenScripts scripts).map Prod.snd = scripts.flatMap Script.actions := by
  unfold flattenScripts
  rw [List.map_flatMap]
  simp only [List.map_map, Function.comp_def, List.map_id']
  rw [← List.flatMap_map (f := Prod.fst) (g := Script.actions), List.zipIdx_map_fst]

theorem map_snd_flattenSheets (sheets : List StyleSheet) :
    (flattenSheets sheets).map Prod.snd = sheets.flatMap StyleSheet.rules := by
  unfold flattenSheets
  rw [List.map_flatMap]
  simp only [List.map_map, Function.comp_def, List.map_id']
  rw [← List.flatMap_map (f := Prod.fst) (g := StyleSheet.rules), List.zipIdx_map_fst]

variable {config : Config} {inputs : List FragmentInput} {scripts : List Script}
  {sheets : List StyleSheet} {scope : Json}

theorem mergeBreakdown?_eq :
    mergeBreakdown? inputs scripts sheets = (breakdowns inputs scripts sheets).head? := by
  unfold mergeBreakdown? breakdowns actionBreakdowns ruleBreakdowns
  rw [List.head?_append, List.head?_filterMap, List.head?_filterMap, ← map_snd_flattenScripts,
    ← map_snd_flattenSheets, List.findSome?_map, List.findSome?_map]
  exact Option.orElse_eq_or

theorem mergeBreakdown?_eq_none_iff :
    mergeBreakdown? inputs scripts sheets = none ↔ breakdowns inputs scripts sheets = [] := by
  rw [mergeBreakdown?_eq, List.head?_eq_none_iff]

theorem breakdowns_eq_nil_iff : breakdowns inputs scripts sheets = [] ↔
    (∀ entry ∈ flattenScripts scripts, resolveBreakdown? (indexInputs 0 inputs).1.toArray
      (CandidateIndex.build (indexInputs 0 inputs).1.toArray) entry.2.selector = none) ∧
    ∀ entry ∈ flattenSheets sheets,
      breakdown? (mergeUse (indexInputs 0 inputs).1.toArray) entry.2.selector = none := by
  rw [breakdowns, List.append_eq_nil_iff, actionBreakdowns, ruleBreakdowns,
    List.filterMap_eq_nil_iff, List.filterMap_eq_nil_iff, ← map_snd_flattenScripts,
    ← map_snd_flattenSheets, List.forall_mem_map, List.forall_mem_map]

theorem assemble_eq_ok {d : Document} : assemble config inputs scripts sheets scope = .ok d ↔
    breakdowns inputs scripts sheets = [] ∧ merge config inputs scripts sheets scope = d := by
  rw [← mergeBreakdown?_eq_none_iff]
  unfold assemble
  cases mergeBreakdown? inputs scripts sheets with
  | none => simp
  | some why => simp

theorem assemble_eq_error {why : Failure} :
    assemble config inputs scripts sheets scope = .error why ↔
      (breakdowns inputs scripts sheets).head? = some why := by
  rw [← mergeBreakdown?_eq]
  unfold assemble
  cases mergeBreakdown? inputs scripts sheets with
  | none => simp
  | some other => simp

section Insert

variable {scripts' : List Script} {a : Action} {front back : List Action}
  (hscripts : scripts.flatMap Script.actions = front ++ back)
  (hscripts' : scripts'.flatMap Script.actions = front ++ a :: back)
include hscripts hscripts'

/-- One more action adds at most its own breakdown, and changes none of the others. -/
theorem exists_breakdowns_insert (inputs : List FragmentInput) (sheets : List StyleSheet) :
    ∃ before after, breakdowns inputs scripts sheets = before ++ after ∧
      breakdowns inputs scripts' sheets = before ++
        ((resolveBreakdown? (indexInputs 0 inputs).1.toArray
          (CandidateIndex.build (indexInputs 0 inputs).1.toArray) a.selector).toList ++ after) := by
  refine ⟨actionBreakdowns (indexInputs 0 inputs).1.toArray front,
    actionBreakdowns (indexInputs 0 inputs).1.toArray back ++
      ruleBreakdowns (indexInputs 0 inputs).1.toArray (sheets.flatMap StyleSheet.rules), ?_, ?_⟩
  · simp only [breakdowns, hscripts, actionBreakdowns, List.filterMap_append, List.append_assoc]
  · rw [breakdowns, hscripts']
    simp only [actionBreakdowns, List.filterMap_append, List.filterMap_cons, List.append_assoc]
    cases resolveBreakdown? (indexInputs 0 inputs).1.toArray
      (CandidateIndex.build (indexInputs 0 inputs).1.toArray) a.selector <;> rfl

theorem assemble_insert_eq_ok :
    assemble config inputs scripts' sheets scope = .ok (merge config inputs scripts' sheets scope) ↔
      assemble config inputs scripts sheets scope = .ok (merge config inputs scripts sheets scope) ∧
      resolveBreakdown? (indexInputs 0 inputs).1.toArray
        (CandidateIndex.build (indexInputs 0 inputs).1.toArray) a.selector = none := by
  obtain ⟨before, after, hbefore, hafter⟩ :=
    exists_breakdowns_insert hscripts hscripts' inputs sheets
  rw [assemble_eq_ok, assemble_eq_ok, hbefore, hafter]
  simp only [List.append_eq_nil_iff, Option.toList_eq_nil_iff, and_true]
  rw [← and_assoc, and_right_comm]

theorem assemble_insert_eq_error {why : Failure}
    (h : assemble config inputs scripts sheets scope =
      .ok (merge config inputs scripts sheets scope)) :
    assemble config inputs scripts' sheets scope = .error why ↔
      resolveBreakdown? (indexInputs 0 inputs).1.toArray
        (CandidateIndex.build (indexInputs 0 inputs).1.toArray) a.selector = some why := by
  obtain ⟨before, after, hbefore, hafter⟩ :=
    exists_breakdowns_insert hscripts hscripts' inputs sheets
  obtain ⟨rfl, rfl⟩ := List.append_eq_nil_iff.mp (hbefore.symm.trans (assemble_eq_ok.mp h).1)
  rw [assemble_eq_error, hafter, List.nil_append, List.append_nil, Option.head?_toList]

end Insert

end AccessAudit
