import AccessAudit.Document.Visibility
import AccessAudit.Proofs.Document.Computed
import AccessAudit.Proofs.Style.Transfer

/-!
# What the style of an element depends on

The styles of a merged document depend on its fragments and on the rules of all style sheets as one
sequence, and on nothing else that is merged (`stylesFor_merge_eq`): not on scripts, and not on how
the rules are divided into sheets or what these are called. What hides an element depends, besides a
threshold, on its fragment and on the computed styles in it (`hiddenReason?_congr`).

Theorems about a document that is merged again, with other rules or with more fragments, start from
these two.
-/

namespace AccessAudit

open Selector

/-! ## Rules in sequence -/

/-- A rule at a place. -/
def Rule.placed (r : Rule) (place : Nat) : PlacedRule :=
  { source := "", rule := r, place, selectors := SelectorList.parse r.selector }

/-- The matches of rules in sequence, of which the first is at a given place. -/
def matchesFrom (f : Fragment) (order : Nat) : Nat → List Rule → List StyleMatch
  | _, [] => []
  | place, r :: rest => (r.placed place).matchesOf f order ++ matchesFrom f order (place + 1) rest

section Sequence

variable {f : Fragment} {order : Nat}

theorem flatMap_matchesOf_zipIdx (entries : List (String × Rule)) (place : Nat) :
    ((entries.zipIdx place).flatMap fun entry => PlacedRule.matchesOf
      ⟨entry.1.1, entry.1.2, entry.2, SelectorList.parse entry.1.2.selector⟩ f order) =
      matchesFrom f order place (entries.map Prod.snd) := by
  induction entries generalizing place with
  | nil => rfl
  | cons entry rest ih =>
    rw [List.zipIdx_cons, List.flatMap_cons, ih]
    rfl

theorem matchesOf_placeRules_eq (sheets : List StyleSheet) :
    (placeRules sheets).flatMap (·.matchesOf f order) =
      matchesFrom f order 0 (sheets.flatMap StyleSheet.rules) := by
  unfold placeRules placed
  rw [List.flatMap_map, flatMap_matchesOf_zipIdx, map_snd_flattenSheets]

theorem matchesFrom_append (place : Nat) (rules rules' : List Rule) :
    matchesFrom f order place (rules ++ rules') =
      matchesFrom f order place rules ++ matchesFrom f order (place + rules.length) rules' := by
  induction rules generalizing place with
  | nil => rfl
  | cons r rest ih =>
    have hplace : place + 1 + rest.length = place + (rest.length + 1) := by omega
    rw [List.cons_append, matchesFrom, matchesFrom, ih, List.append_assoc, List.length_cons, hplace]

theorem matchesFrom_succ (place : Nat) (rules : List Rule) :
    matchesFrom f order (place + 1) rules =
      (matchesFrom f order place rules).map (StyleMatch.reorder (· + 1)) := by
  induction rules generalizing place with
  | nil => rfl
  | cons r rest ih =>
    rw [matchesFrom, matchesFrom, ih, List.map_append]
    congr 1
    unfold PlacedRule.matchesOf
    rw [List.map_map]
    rfl

theorem order_of_mem_matchesOf {r : Rule} {place : Nat} {m : StyleMatch}
    (h : m ∈ (r.placed place).matchesOf f order) : m.rule = r ∧ m.order = place := by
  obtain ⟨branch, -, rfl⟩ := PlacedRule.mem_matchesOf.mp h
  exact ⟨rfl, rfl⟩

theorem order_of_mem_matchesFrom {place : Nat} {rules : List Rule} {m : StyleMatch}
    (h : m ∈ matchesFrom f order place rules) :
    (place : Int) ≤ m.order ∧ m.order < place + rules.length := by
  induction rules generalizing place with
  | nil => cases h
  | cons r rest ih =>
    rw [List.length_cons]
    rcases List.mem_append.mp h with hfirst | hrest
    · have horder := (order_of_mem_matchesOf hfirst).2
      omega
    · have horder := ih hrest
      omega

end Sequence

theorem inlineMatch?_succ (e : Element) (place : Nat) :
    (inlineMatch? e (place + 1)).toList =
      (inlineMatch? e place).toList.map (StyleMatch.reorder (· + 1)) := by
  unfold inlineMatch?
  cases inlineText? e with
  | none => rfl
  | some text => rfl

theorem order_of_inlineMatch? {e : Element} {place : Nat} {m : StyleMatch}
    (h : m ∈ (inlineMatch? e place).toList) : m.order = place := by
  obtain ⟨text, -, rfl⟩ := Option.map_eq_some_iff.mp (Option.mem_toList.mp h)
  rfl

/-! ## Styles -/

/-- The matches of rules with an element of a fragment, and behind them that of its style attribute,
which is at a given place among all style attributes. -/
def elementStyles (f : Fragment) (order : Nat) (e : Element) (place : Nat) (rules : List Rule) :
    List StyleMatch :=
  matchesFrom f order 0 rules ++ (inlineMatch? e (rules.length + place)).toList

/-- What is recorded for a key, given the fragments and the rules. -/
def recordedStyles (fragments : List Fragment) (rules : List Rule) (key : Key) : List StyleMatch :=
  (fragments[key.fragment]?.bind fun f => (f.element? key.order).map fun e =>
    elementStyles f key.order e (inlinePlace fragments.toArray key) rules).getD []

section Merge

variable {config : Config} {inputs : List FragmentInput} {scripts : List Script}
  {sheets : List StyleSheet} {scope : Json} {key : Key}

theorem stylesFor_merge_eq :
    (merge config inputs scripts sheets scope).stylesFor key =
      recordedStyles (indexInputs 0 inputs).1 (sheets.flatMap StyleSheet.rules) key := by
  have hcount : (placeRules sheets).length = (sheets.flatMap StyleSheet.rules).length := by
    rw [← map_snd_flattenSheets, ← map_placeRules, List.length_map, List.length_map]
  rw [stylesFor_merge, fragments_merge, List.getElem?_toArray, recordedStyles]
  simp only [elementStyles, matchesOf_placeRules_eq, hcount]

theorem computedStyle_merge_eq (held : List String) :
    (merge config inputs scripts sheets scope).computedStyle key held =
      cascade (recordedStyles (indexInputs 0 inputs).1 (sheets.flatMap StyleSheet.rules) key)
        held :=
  congrArg (cascade · held) stylesFor_merge_eq

theorem opacityThreshold_merge :
    (merge config inputs scripts sheets scope).opacityThreshold = config.opacityThreshold := rfl

theorem mergeBreakdown?_congr {sheets' : List StyleSheet}
    (h : ∀ use, (sheets.flatMap StyleSheet.rules).findSome? (fun r => breakdown? use r.selector) =
      (sheets'.flatMap StyleSheet.rules).findSome? fun r => breakdown? use r.selector) :
    mergeBreakdown? inputs scripts sheets = mergeBreakdown? inputs scripts sheets' := by
  have hrules (use : Selector.Use) :
      ((flattenSheets sheets).findSome? fun entry => breakdown? use entry.2.selector) =
        (flattenSheets sheets').findSome? fun entry => breakdown? use entry.2.selector := by
    have hsame := h use
    rw [← map_snd_flattenSheets, ← map_snd_flattenSheets, List.findSome?_map,
      List.findSome?_map] at hsame
    exact hsame
  unfold mergeBreakdown?
  simp only [hrules]

theorem assemble_map_congr {α : Type} {view : Document → α} {sheets' : List StyleSheet}
    (hbreakdown : mergeBreakdown? inputs scripts sheets = mergeBreakdown? inputs scripts sheets')
    (hview : view (merge config inputs scripts sheets scope) =
      view (merge config inputs scripts sheets' scope)) :
    (assemble config inputs scripts sheets scope).map view =
      (assemble config inputs scripts sheets' scope).map view := by
  unfold assemble
  rw [hbreakdown]
  cases mergeBreakdown? inputs scripts sheets' with
  | some why => rfl
  | none => exact congrArg Except.ok hview

end Merge

/-- The rules of a sequence are recorded at places of their own. -/
theorem oneRuleAPlace_recordedStyles (inputs : List FragmentInput) (rules : List Rule) (key : Key) :
    OneRuleAPlace (recordedStyles (indexInputs 0 inputs).1 rules key) := by
  have hmerge := oneRuleAPlace_stylesFor {} inputs [] [{ rules }] .null key
  rw [stylesFor_merge_eq] at hmerge
  simpa using hmerge

/-- Rules may be exchanged if no element can tell. -/
theorem cascade_recordedStyles_congr {inputs : List FragmentInput} {rules rules' : List Rule}
    {key : Key} {held : List String}
    (h : ∀ f e place, (indexInputs 0 inputs).1[key.fragment]? = some f →
      f.element? key.order = some e → OneRuleAPlace (elementStyles f key.order e place rules) →
      cascade (elementStyles f key.order e place rules) held =
        cascade (elementStyles f key.order e place rules') held) :
    cascade (recordedStyles (indexInputs 0 inputs).1 rules key) held =
      cascade (recordedStyles (indexInputs 0 inputs).1 rules' key) held := by
  have hone := oneRuleAPlace_recordedStyles inputs rules key
  unfold recordedStyles at hone ⊢
  cases hf : (indexInputs 0 inputs).1[key.fragment]? with
  | none => rfl
  | some f =>
    rw [hf, Option.bind_some] at hone
    rw [Option.bind_some, Option.bind_some]
    cases he : f.element? key.order with
    | none => rfl
    | some e =>
      rw [he, Option.map_some, Option.getD_some] at hone
      exact h f e _ hf he hone

/-! ## Hiding -/

namespace Document

variable {d d' : Document} {key : Key}

theorem ancestors_congr (h : d.fragments[key.fragment]? = d'.fragments[key.fragment]?) :
    d.ancestors key = d'.ancestors key := by
  unfold ancestors
  rw [h]

theorem fragment_of_mem_chain {other : Key} (h : other ∈ d.chain key) :
    other.fragment = key.fragment := by
  rcases List.mem_cons.mp h with rfl | h
  · rfl
  · obtain ⟨order, -, rfl⟩ := List.mem_map.mp h
    rfl

theorem element_congr (h : d.fragments[key.fragment]? = d'.fragments[key.fragment]?) :
    d.element key = d'.element key := by
  unfold element element? elementAt?
  rw [h]

/-- What hides an element is found in its fragment. -/
theorem hiddenReason?_congr {held : List String}
    (hthreshold : d.opacityThreshold = d'.opacityThreshold)
    (hfragment : d.fragments[key.fragment]? = d'.fragments[key.fragment]?)
    (hstyle : ∀ order, d.computedStyle ⟨key.fragment, order⟩ held =
      d'.computedStyle ⟨key.fragment, order⟩ held) :
    d.hiddenReason? key held = d'.hiddenReason? key held := by
  have hchain : d.chain key = d'.chain key := by
    rw [chain, chain, ancestors_congr hfragment]
  have hat : ∀ other ∈ d.chain key, d.computedStyle other held = d'.computedStyle other held := by
    rintro ⟨fragment, order⟩ hother
    obtain rfl : fragment = key.fragment := fragment_of_mem_chain hother
    exact hstyle order
  have helement : ∀ other ∈ d.chain key, d.element other = d'.element other := by
    intro other hother
    apply element_congr
    rw [fragment_of_mem_chain hother, hfragment]
  unfold hiddenReason?
  dsimp only
  rw [List.map_congr_left hat, ← hchain, hthreshold, hat key List.mem_cons_self]
  split
  case h_2 => rfl
  case h_1 place c _ =>
    cases hplace : (d.chain key)[place]? with
    | none => rfl
    | some other =>
      dsimp only
      rw [helement other (List.mem_of_getElem? hplace)]

end Document

end AccessAudit
