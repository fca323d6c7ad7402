import AccessAudit.Proofs.Audit.Ownership
import AccessAudit.Proofs.Document.Computed

/-!
# Hiding along the ancestors

Whether an element is hidden is found in one walk up its ancestors, which stops at the first answer
and keeps in mind whether visibility has been declared. `hidden_along_chain` says the same without
the walk: the style of the element or of an ancestor takes it away with all that is in it
(`Removes`), or the nearest of them that declares visibility declares it hidden, or the element is
clipped away or has no size by itself.

The first of these, and being hidden from assistive technology, is passed on to all that is below.
An element that is below another has the ancestors of that one among its own
(`Document.chain_subset`), since both are found on the paths of the tree.
-/

namespace AccessAudit

open Text

/-! ## What a style says -/

section Style

variable {threshold : Float} {style : Entries String} {styles : List (Entries String)}

/-- The element is not displayed. -/
def NotDisplayed (style : Entries String) : Prop := lower (styleValue style "display") = "none"

/-- The opacity can be read and is at most the threshold. -/
def Transparent (threshold : Float) (style : Entries String) : Prop :=
  ∃ value x, style.get? "opacity" = some value ∧ opacity? value = some x ∧ x ≤ threshold

/-- The element is positioned and lies a thousand pixels or more beyond the left or upper edge. -/
def OffScreen (style : Entries String) : Prop :=
  Text.normalize (styleValue style "position") ∈ ["absolute", "fixed"] ∧
    ∃ side ∈ ["left", "top"], ∃ x, offset? (styleValue style side) = some x ∧ x ≤ -1000.0

/-- The style takes the element away with all that is in it. -/
def Removes (threshold : Float) (style : Entries String) : Prop :=
  NotDisplayed style ∨ Transparent threshold style ∨ OffScreen style

/-- The visibility that the style declares is that of a hidden element. -/
def DeclaresHidden (style : Entries String) : Prop :=
  lower (styleValue style "visibility") ∈ ["hidden", "collapse"]

/-- A rectangle or a path clips the whole element away. -/
def Clipped (style : Entries String) : Prop :=
  clipsAll (styleValue style "clip") = true ∨ clipPathHides (styleValue style "clip-path") = true

/-- The element has no width or no height and cuts off what overflows. -/
def Sizeless (style : Entries String) : Prop :=
  lower (styleValue style "overflow") = "hidden" ∧
    ∃ dimension ∈ ["width", "height"], isZeroLength (styleValue style dimension) = true

theorem isSome_offscreen? : (offscreen? style).isSome = true ↔ OffScreen style := by
  unfold offscreen? OffScreen
  by_cases hposition : Text.normalize (styleValue style "position") ∈ ["absolute", "fixed"]
  · have hguard : (!(["absolute", "fixed"].contains
        (Text.normalize (styleValue style "position")))) = false := by
      rw [List.contains_iff_mem.mpr hposition, Bool.not_true]
    rw [hguard, if_neg Bool.false_ne_true, List.findSome?_isSome_iff]
    refine Iff.trans (exists_congr fun side => and_congr_right fun _ => ?_)
      (and_iff_right hposition).symm
    cases offset? (styleValue style side) with
    | none => simp
    | some x => by_cases hx : x ≤ -1000.0 <;> simp [hx]
  · have hguard : (!(["absolute", "fixed"].contains
        (Text.normalize (styleValue style "position")))) = true := by
      rw [Bool.not_eq_true', Bool.eq_false_iff, ne_eq, List.contains_iff_mem]
      exact hposition
    rw [if_pos hguard]
    exact ⟨fun h => (Bool.false_ne_true h).elim, fun h => absurd h.1 hposition⟩

theorem any_opacity? : ((style.get? "opacity").bind opacity?).any (· ≤ threshold) = true ↔
    Transparent threshold style := by
  unfold Transparent
  cases style.get? "opacity" with
  | none => simp
  | some value => cases hx : opacity? value <;> simp [hx]

theorem isSome_hidesSubtree? :
    (hidesSubtree? threshold style).isSome = true ↔ Removes threshold style := by
  unfold hidesSubtree? Removes
  by_cases hdisplay : NotDisplayed style
  · rw [if_pos (beq_iff_eq.mpr hdisplay)]
    exact ⟨fun _ => .inl hdisplay, fun _ => rfl⟩
  rw [if_neg fun h => hdisplay (beq_iff_eq.mp h), or_iff_right hdisplay]
  by_cases hopacity : Transparent threshold style
  · rw [if_pos (any_opacity?.mpr hopacity)]
    exact ⟨fun _ => .inl hopacity, fun _ => rfl⟩
  rw [if_neg fun h => hopacity (any_opacity?.mp h), or_iff_right hopacity, Option.isSome_map]
  exact isSome_offscreen?

theorem isSome_declaresHidden? : (declaresHidden? style).isSome = true ↔ DeclaresHidden style := by
  unfold declaresHidden? DeclaresHidden
  by_cases h : lower (styleValue style "visibility") ∈ ["hidden", "collapse"]
  · have hvalue : (lower (styleValue style "visibility") == "hidden" ||
        lower (styleValue style "visibility") == "collapse") = true := by simpa using h
    simp [hvalue, h]
  · have hvalue : (lower (styleValue style "visibility") == "hidden" ||
        lower (styleValue style "visibility") == "collapse") = false := by simpa using h
    simp [hvalue, h]

theorem isSome_hidesAlone? :
    (hidesAlone? style).isSome = true ↔ Clipped style ∨ Sizeless style := by
  unfold hidesAlone? Clipped Sizeless
  by_cases hclip : clipsAll (styleValue style "clip") = true
  · simp [hclip]
  by_cases hpath : clipPathHides (styleValue style "clip-path") = true
  · simp [hclip, hpath]
  by_cases hoverflow : lower (styleValue style "overflow") = "hidden"
  · simp [hclip, hpath, hoverflow]
  · simp [hclip, hpath, hoverflow]

/-! ## The walk -/

/-- The walk finds an answer if a style on the way takes the element away, or, as long as visibility
has not been declared, if the first style that declares it declares the element hidden. -/
theorem isSome_concealedAlong (decided : Bool) (place : Nat) :
    (concealedAlong threshold decided place styles).isSome = true ↔
      (∃ style ∈ styles, Removes threshold style) ∨
      decided = false ∧ ∃ style, styles.find? (·.has "visibility") = some style ∧
        DeclaresHidden style := by
  induction styles generalizing decided place with
  | nil => simp [concealedAlong]
  | cons style rest ih =>
    rw [concealedAlong]
    cases hsubtree : hidesSubtree? threshold style with
    | some c =>
      have hremoves : Removes threshold style := isSome_hidesSubtree?.mp (by rw [hsubtree]; rfl)
      exact ⟨fun _ => .inl ⟨style, List.mem_cons_self, hremoves⟩, fun _ => rfl⟩
    | none =>
      have hremoves : ¬ Removes threshold style := by
        rw [← isSome_hidesSubtree?, hsubtree]
        exact Bool.false_ne_true
      simp only [List.mem_cons, exists_eq_or_imp, hremoves, false_or]
      cases decided with
      | true =>
        -- what the style says about visibility does not count any more
        simpa using ih true (place + 1)
      | false =>
        cases hhas : style.has "visibility" with
        | false => simpa [hhas] using ih false (place + 1)
        | true =>
          simp only [Bool.not_false, Bool.true_and, if_true, List.find?_cons, hhas,
            Option.some.injEq, exists_eq_left', true_and, ← @isSome_declaresHidden? style]
          cases declaresHidden? style with
          | some c => simp
          | none => simpa using ih true (place + 1)

end Style

/-! ## Elements and their ancestors -/

theorem Path.Below.trans {paths : List Path} {above between order : Nat}
    (h : Path.Below paths above between) (h' : Path.Below paths between order) :
    Path.Below paths above order := by
  obtain ⟨upper, steps, habove, hsteps, hbetween⟩ := h
  obtain ⟨_, more, hbetween', -, here⟩ := h'
  obtain rfl := Option.some.inj (hbetween.symm.trans hbetween')
  refine ⟨upper, steps ++ more, habove, fun hnil => ?_, by rw [here, List.append_assoc]⟩
  exact hsteps (List.append_eq_nil_iff.mp hnil).1

namespace Document

variable {d : Document} {key x : Key} {states : List String}

/-- An element that is below another has that one and its ancestors above it. -/
theorem chain_subset (hbuilt : ∀ f ∈ d.fragments, f.Built) (h : x ∈ d.descendants key) :
    d.chain key ⊆ d.chain x := by
  have hkey := mem_ancestors_of_mem_descendants hbuilt h
  obtain ⟨f, order, hf, horder, rfl⟩ := fragment_of_mem_descendants h
  obtain ⟨paths, hlaid⟩ := (hbuilt f (Array.mem_of_getElem? hf)).laidOut
  have hbelow := hlaid.isDescendant_iff.mp (Fragment.mem_descendants.mp horder)
  have hancestors (place : Nat) : d.ancestors ⟨key.fragment, place⟩ =
      (f.ancestors place).map (⟨key.fragment, ·⟩) := by
    unfold ancestors
    rw [hf]
    rfl
  intro other hother
  refine List.mem_cons_of_mem _ ?_
  rcases List.mem_cons.mp hother with rfl | hother
  · exact hkey
  · rw [hancestors] at hother ⊢
    obtain ⟨above, habove, rfl⟩ := List.mem_map.mp hother
    exact List.mem_map_of_mem
      (hlaid.mem_ancestors.mpr ((hlaid.mem_ancestors.mp habove).trans hbelow))

/-- The style of the element or of an ancestor takes it away with all that is in it. -/
def RemovedAlong (d : Document) (states : List String) (key : Key) : Prop :=
  ∃ k ∈ d.chain key, Removes d.opacityThreshold (d.computedStyle k states)

/-- Of the element and its ancestors, the nearest that declares visibility declares it hidden. -/
def NearestHidden (d : Document) (states : List String) (key : Key) : Prop :=
  ∃ k, (d.chain key).find? (fun k => (d.computedStyle k states).has "visibility") = some k ∧
    DeclaresHidden (d.computedStyle k states)

theorem isSome_hiddenReason?_iff : (d.hiddenReason? key states).isSome = true ↔
    d.RemovedAlong states key ∨ d.NearestHidden states key ∨
      Clipped (d.computedStyle key states) ∨ Sizeless (d.computedStyle key states) := by
  have hwalk : (concealedAlong d.opacityThreshold false 0
      ((d.chain key).map (d.computedStyle · states))).isSome = true ↔
      d.RemovedAlong states key ∨ d.NearestHidden states key := by
    rw [isSome_concealedAlong]
    have hnearest : ((d.chain key).map (d.computedStyle · states)).find? (·.has "visibility") =
        ((d.chain key).find? fun k => (d.computedStyle k states).has "visibility").map
          (d.computedStyle · states) := List.find?_map ..
    simp only [hnearest, RemovedAlong, NearestHidden, List.mem_map, Option.map_eq_some_iff,
      exists_exists_and_eq_and, true_and]
  rw [← isSome_hidesAlone?, ← or_assoc, ← hwalk]
  unfold hiddenReason?
  dsimp only
  cases concealedAlong d.opacityThreshold false 0
      ((d.chain key).map (d.computedStyle · states)) with
  | some found => simp
  | none => simp

end Document

/-- An element is hidden exactly when its style or that of an ancestor takes it away, or the nearest
of them that declares visibility declares it hidden, or it is clipped away or has no size by itself.
What is taken away is taken away with all its descendants, and these are hidden from assistive
technology when it is. -/
theorem hidden_along_chain (config : Config) (inputs : List FragmentInput) (scripts : List Script)
    (sheets : List StyleSheet) (scope : Json)
    (hbuilt : ∀ f, FragmentInput.indexed f ∈ inputs → f.Built) :
    let d := merge config inputs scripts sheets scope
    ∀ key states,
      ((d.hiddenReason? key states).isSome = true ↔
        d.RemovedAlong states key ∨ d.NearestHidden states key ∨
          Clipped (d.computedStyle key states) ∨ Sizeless (d.computedStyle key states)) ∧
      ∀ x ∈ d.descendants key,
        (d.RemovedAlong states key →
          d.RemovedAlong states x ∧ (d.hiddenReason? x states).isSome = true) ∧
        (d.isAriaHidden key = true → d.isAriaHidden x = true) := by
  intro d key states
  refine ⟨Document.isSome_hiddenReason?_iff, fun x hx => ?_⟩
  have hbuilt' : ∀ f ∈ d.fragments, f.Built := by
    intro f hf
    rw [fragments_merge, List.mem_toArray] at hf
    exact built_of_mem_indexInputs hbuilt hf
  have hchain : d.chain key ⊆ d.chain x := Document.chain_subset hbuilt' hx
  constructor
  · rintro ⟨k, hk, hremoves⟩
    have hremoved : d.RemovedAlong states x := ⟨k, hchain hk, hremoves⟩
    exact ⟨hremoved, Document.isSome_hiddenReason?_iff.mpr (.inl hremoved)⟩
  · intro hidden
    obtain ⟨k, hk, htrue⟩ := List.any_eq_true.mp hidden
    exact List.any_eq_true.mpr ⟨k, hchain hk, htrue⟩

/-! ## A drawer that is closed -/

/-- Without style sheets, a style attribute has the last word on each property. -/
theorem get?_computedStyle_single {f : Fragment} {e : Element} {order : Nat} {text : String}
    (config : Config) (scripts : List Script) (scope : Json) (he : f.element? order = some e)
    (htext : inlineText? e = some text) (states : List String) (p : String) :
    ((merge config [.indexed f] scripts [] scope).computedStyle ⟨0, order⟩ states).get? p =
      (Rule.inline text e.location).properties.get? p := by
  have hstyles : ∃ place, (merge config [.indexed f] scripts [] scope).stylesFor ⟨0, order⟩ =
      [{ rule := Rule.inline text e.location, specificity := .ofInline, order := place,
         inline := true }] := by
    rw [stylesFor_merge_of_element rfl he, inlineMatch?, htext]
    exact ⟨_, rfl⟩
  obtain ⟨place, hstyles⟩ := hstyles
  have happlies : StyleMatch.applies { rule := Rule.inline text e.location
                                       specificity := .ofInline, order := place
                                       inline := true } states = true := rfl
  rw [Document.computedStyle, cascade_get?, hstyles]
  cases hvalue : (Rule.inline text e.location).properties.get? p with
  | none => simp [cascadeValue?, candidatesFor, Candidate.best?, happlies, hvalue]
  | some value => simp [cascadeValue?, candidatesFor, Candidate.best?, happlies, hvalue]

/-- A drawer that is not displayed and is hidden from assistive technology. -/
def drawer : Element :=
  { tag := "div", attributes := [("style", "display: none"), ("aria-hidden", "true")] }

/-- A page that is a drawer with a button in it. -/
def drawerPage : Graph where
  size := 2
  cells := #v[.element drawer [.node ⟨1, by decide⟩], .element { tag := "button" } []]
  root := .node ⟨0, by decide⟩

/-- The button is hidden in every state, as the drawer is, though nothing is said about it. -/
theorem hidden_along_chain_drawer : ∃ f, Fragment.ofGraph drawerPage "page" = .ok f ∧
    let d := merge {} [.indexed f] [] [] .null
    ⟨0, 1⟩ ∈ d.descendants ⟨0, 0⟩ ∧ d.isAriaHidden ⟨0, 1⟩ = true ∧
      ∀ states, d.RemovedAlong states ⟨0, 1⟩ ∧ (d.hiddenReason? ⟨0, 1⟩ states).isSome = true := by
  have hrun : (drawerPage.index "page").toOption.map (fun f => (f.element? 0, f.descendants 0)) =
      some (some drawer, [1]) := by cbv
  obtain ⟨f, hf, hview⟩ := Fragment.exists_of_index (by decide) hrun
  obtain ⟨he, hbelow⟩ := Prod.mk.inj hview
  have hbuilt : ∀ g, FragmentInput.indexed g ∈ [.indexed f] → g.Built := by
    intro g hg
    cases List.mem_singleton.mp hg
    exact ⟨drawerPage, "page", hf⟩
  have hinside : ⟨0, 1⟩ ∈ (merge {} [.indexed f] [] [] .null).descendants ⟨0, 0⟩ := by
    show _ ∈ (f.descendants 0).map _
    rw [hbelow]
    exact List.mem_cons_self
  have hdisplay (states : List String) : (merge {} [.indexed f] [] [] .null).RemovedAlong states
      ⟨0, 0⟩ := by
    have hvalue : (Rule.inline "display: none" drawer.location).properties.get? "display" =
        some "none" := by decide +kernel
    have htext : inlineText? drawer = some "display: none" := by decide +kernel
    refine ⟨⟨0, 0⟩, List.mem_cons_self, .inl ?_⟩
    rw [NotDisplayed, styleValue, get?_computedStyle_single {} [] .null he htext, hvalue]
    decide
  have haria : (merge {} [.indexed f] [] [] .null).isAriaHidden ⟨0, 0⟩ = true := by
    refine List.any_eq_true.mpr ⟨⟨0, 0⟩, List.mem_cons_self, ?_⟩
    rw [Document.valueOf, element_single he]
    decide
  have hpassed (states : List String) :=
    (hidden_along_chain {} [.indexed f] [] [] .null hbuilt ⟨0, 0⟩ states).2 ⟨0, 1⟩ hinside
  exact ⟨f, hf, hinside, (hpassed []).2 haria, fun states => (hpassed states).1 (hdisplay states)⟩

end AccessAudit
