import AccessAudit.Proofs.Document.Attachment
import AccessAudit.Proofs.Style.Cascade

/-!
# The computed style of an element

By `rule_eq_of_order` the matches that the merge records meet the one condition under which the
cascade depends on nothing but which matches there are. So the computed style of an element is the
cascade of its matches in any order, and gives each property the value of its winner.
-/

namespace AccessAudit

open Selector

section Merge

variable (config : Config) (inputs : List FragmentInput) (scripts : List Script)
  (sheets : List StyleSheet) (scope : Json) (key : Key)

theorem oneRuleAPlace_stylesFor :
    OneRuleAPlace ((merge config inputs scripts sheets scope).stylesFor key) := by
  intro m hm other hother horder
  exact rule_eq_of_order hm hother horder

/-- The cascade of an element's matches, in whatever order, is its computed style. It has exactly the
properties that some match sets which applies, each once, and for each the value that is set by the
match with the greatest importance, weight and order. -/
theorem computedStyle_greatest (held : List String) (matched : List StyleMatch)
    (h : matched.Perm ((merge config inputs scripts sheets scope).stylesFor key)) :
    cascade matched held = (merge config inputs scripts sheets scope).computedStyle key held ∧
    (cascade matched held).names.Pairwise (· < ·) ∧
    (∀ p, p ∈ (cascade matched held).names ↔
      ∃ m ∈ (merge config inputs scripts sheets scope).stylesFor key,
        m.applies held = true ∧ p ∈ m.rule.properties.names) ∧
    ∀ p value, (cascade matched held).get? p = some value ↔ ∃ m : StyleMatch,
      m.Wins ((merge config inputs scripts sheets scope).stylesFor key) held p ∧
        m.rule.properties.get? p = some value := by
  have hone := oneRuleAPlace_stylesFor config inputs scripts sheets scope key
  have hsame : cascade matched held =
      cascade ((merge config inputs scripts sheets scope).stylesFor key) held :=
    (cascade_congr hone fun m => h.mem_iff.symm).symm
  rw [hsame]
  refine ⟨rfl, ?_, fun p => ?_, fun p value => cascade_get?_iff hone⟩
  · rw [names_cascade]
    exact sortTexts_sorted _
  · rw [names_cascade]
    exact mem_declaredNames

end Merge

/-- A rule that asks for a state. -/
def hoverRule : Rule :=
  { selector := "p:hover", properties := [("color", "blue")], specificity := ⟨0, 0, 1, 1⟩ }

/-- A lighter rule for the same property. -/
def plainRule : Rule :=
  { selector := "p", properties := [("color", "red")], specificity := .ofType }

/-- With the state the heavier rule wins, though it is declared first, and in both orders of the two
matches. -/
theorem computedStyle_greatest_hover :
    ∃ f, Fragment.ofGraph Fragment.sharedText "page" = .ok f ∧ ∃ heavy light : StyleMatch,
      (merge {} [.indexed f] [] [{ rules := [hoverRule, plainRule] }] .null).stylesFor ⟨0, 1⟩ =
        [heavy, light] ∧
      (cascade [heavy, light] ["hover"]).get? "color" = some "blue" ∧
      (cascade [light, heavy] ["hover"]).get? "color" = some "blue" := by
  obtain ⟨f, hf, he⟩ := exists_paragraph
  have hrules : placeRules [{ rules := [hoverRule, plainRule] }] =
      [⟨"style-0", hoverRule, 0, .ok [.compound [.type "p", .pseudoClass "hover" .none]]⟩,
        ⟨"style-0", plainRule, 1, .ok [.compound [.type "p"]]⟩] := by
    rw [← parse_hover, ← parse_paragraph]
    rfl
  have hheavy : PlacedRule.matchesOf ⟨"style-0", hoverRule, 0,
      .ok [.compound [.type "p", .pseudoClass "hover" .none]]⟩ f 1 =
      [{ rule := hoverRule, specificity := ⟨0, 0, 1, 1⟩, order := 0, states := ["hover"] }] :=
    PlacedRule.matchesOf_single rfl (matches_hover he rfl)
  have hlight : PlacedRule.matchesOf ⟨"style-0", plainRule, 1, .ok [.compound [.type "p"]]⟩ f 1 =
      [{ rule := plainRule, specificity := .ofType, order := 1 }] :=
    PlacedRule.matchesOf_single rfl (matches_paragraph he)
  have hinline (place : Nat) : inlineMatch? { tag := "p" } place = none := rfl
  have hstyles : (merge {} [.indexed f] [] [{ rules := [hoverRule, plainRule] }] .null).stylesFor
      ⟨0, 1⟩ =
      [{ rule := hoverRule, specificity := ⟨0, 0, 1, 1⟩, order := 0, states := ["hover"] },
        { rule := plainRule, specificity := .ofType, order := 1 }] := by
    rw [stylesFor_merge_of_element (f := f) rfl he, hrules]
    simp [hheavy, hlight, hinline]
  have hpicks := computedStyle_greatest {} [.indexed f] [] [{ rules := [hoverRule, plainRule] }] .null
    ⟨0, 1⟩ ["hover"]
  rw [hstyles] at hpicks
  have hwins : StyleMatch.Wins
      { rule := hoverRule, specificity := ⟨0, 0, 1, 1⟩, order := 0, states := ["hover"] }
      [{ rule := hoverRule, specificity := ⟨0, 0, 1, 1⟩, order := 0, states := ["hover"] },
        { rule := plainRule, specificity := .ofType, order := 1 }] ["hover"] "color" :=
    ⟨List.mem_cons_self, by decide, by decide, by decide⟩
  refine ⟨f, hf, _, _, hstyles, ?_, ?_⟩
  · exact ((hpicks _ (.refl _)).2.2.2 "color" "blue").mpr ⟨_, hwins, rfl⟩
  · exact ((hpicks _ (.swap _ _ _)).2.2.2 "color" "blue").mpr ⟨_, hwins, rfl⟩

end AccessAudit
