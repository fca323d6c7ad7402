import AccessAudit.Proofs.Style.Block

/-!
# Cascades of different matches

When rules are added, moved or taken apart, the matches of an element change, and the cascade may
still be the same. `Represents` says for one property why: every match that sets the property has an
image with the same value, no image is preferred to another without cause, and whatever else there
is yields to an image. Then the image of a winner wins (`Represents.wins`), and the cascades are
equal (`cascade_of_represents`).

Two uses are here. Moving matches without changing who comes first changes nothing
(`cascade_reorder`), and neither does putting two rules in the place of one, if together they
declare what it declares (`Splits.cascade`).
-/

namespace AccessAudit

/-! ## Representation -/

/-- A match that applies and sets a property. -/
structure StyleMatch.Sets (m : StyleMatch) (held : List String) (p : String) : Prop where
  applies : m.applies held = true
  declares : p ∈ m.rule.properties.names

theorem StyleMatch.Yields.trans {p : String} {a b c : StyleMatch} (hab : a.Yields p b)
    (hbc : b.Yields p c) : a.Yields p c := by
  rw [← cascadeKey_lt_iff] at hab hbc ⊢
  exact List.lt_trans hab hbc

/-- Every match that sets the property has an image with the same value, images are ordered as the
matches are, and every other match that sets the property yields to an image. -/
structure Represents (held : List String) (p : String) (matched matched' : List StyleMatch)
    (image : StyleMatch → StyleMatch) : Prop where
  mem : ∀ m ∈ matched, m.Sets held p → image m ∈ matched'
  applies : ∀ m ∈ matched, m.Sets held p → (image m).applies held = true
  value : ∀ m ∈ matched, m.Sets held p →
    (image m).rule.properties.get? p = m.rule.properties.get? p
  yields : ∀ m ∈ matched, ∀ other ∈ matched, m.Sets held p → other.Sets held p →
    (image m).Yields p (image other) → m.Yields p other
  bounded : ∀ n ∈ matched', n.Sets held p → ∃ m ∈ matched, m.Sets held p ∧
    (n = image m ∨ n.Yields p (image m))

section Represents

variable {held : List String} {p : String} {matched matched' : List StyleMatch}
  {image : StyleMatch → StyleMatch} {m : StyleMatch}

theorem StyleMatch.Wins.sets (h : m.Wins matched held p) : m.Sets held p := ⟨h.applies, h.declares⟩

theorem Represents.declares (h : Represents held p matched matched' image) (hm : m ∈ matched)
    (hsets : m.Sets held p) : p ∈ (image m).rule.properties.names := by
  rw [Entries.mem_names_iff, h.value m hm hsets]
  exact Entries.mem_names_iff.mp hsets.declares

/-- The image of a winner wins. -/
theorem Represents.wins (h : Represents held p matched matched' image)
    (hwins : m.Wins matched held p) :
    (image m).Wins matched' held p where
  mem := h.mem m hwins.mem hwins.sets
  applies := h.applies m hwins.mem hwins.sets
  declares := h.declares hwins.mem hwins.sets
  greatest := by
    intro n hn happlies hdeclares hyields
    obtain ⟨other, hother, hsets, hbound⟩ := h.bounded n hn ⟨happlies, hdeclares⟩
    have himages : (image m).Yields p (image other) := by
      rcases hbound with rfl | hbound
      · exact hyields
      · exact hyields.trans hbound
    exact hwins.greatest other hother hsets.applies hsets.declares
      (h.yields m hwins.mem other hother hwins.sets hsets himages)

theorem Represents.cascadeValue? (h : Represents held p matched matched' image)
    (hone : OneRuleAPlace matched') :
    AccessAudit.cascadeValue? matched held p = AccessAudit.cascadeValue? matched' held p := by
  have hforth : ∀ value, AccessAudit.cascadeValue? matched held p = some value →
      AccessAudit.cascadeValue? matched' held p = some value := by
    intro value hvalue
    obtain ⟨m, hwins, hset⟩ := exists_wins_of_value hvalue
    refine (cascadeValue?_eq_some_iff hone).mpr ⟨image m, h.wins hwins, ?_⟩
    rw [h.value m hwins.mem hwins.sets, hset]
  apply Option.ext
  intro value
  refine ⟨hforth value, fun hvalue => ?_⟩
  -- a value on the one side comes from a match, which is bounded by one on the other
  obtain ⟨n, hwins, -⟩ := exists_wins_of_value hvalue
  obtain ⟨m, hm, hsets, -⟩ := h.bounded n hwins.mem hwins.sets
  obtain ⟨value', hvalue'⟩ := exists_value_of_declares hm hsets.applies hsets.declares
  have hsame := hforth value' hvalue'
  rw [hvalue] at hsame
  rw [hvalue', hsame]

end Represents

section Cascade

variable {held : List String} {matched matched' : List StyleMatch}

theorem mem_declaredNames_iff_value {p : String} :
    p ∈ declaredNames matched held ↔ ∃ value, cascadeValue? matched held p = some value := by
  rw [mem_declaredNames]
  constructor
  · rintro ⟨m, hm, happlies, hdeclares⟩
    exact exists_value_of_declares hm happlies hdeclares
  · rintro ⟨value, hvalue⟩
    obtain ⟨m, hwins, -⟩ := exists_wins_of_value hvalue
    exact ⟨m, hwins.mem, hwins.applies, hwins.declares⟩

/-- A cascade is given by its values. -/
theorem cascade_eq_of_values
    (h : ∀ p, cascadeValue? matched held p = cascadeValue? matched' held p) :
    cascade matched held = cascade matched' held := by
  have hnames : declaredNames matched held = declaredNames matched' held := by
    refine (sortTexts_sorted _).eq_of_mem_iff (sortTexts_sorted _) fun p => ?_
    have hiff : p ∈ declaredNames matched held ↔ p ∈ declaredNames matched' held := by
      rw [mem_declaredNames_iff_value, mem_declaredNames_iff_value, h]
    exact hiff
  rw [cascade_eq, cascade_eq, hnames]
  simp only [h]

theorem cascade_of_represents (hone : OneRuleAPlace matched')
    (h : ∀ p, ∃ image, Represents held p matched matched' image) :
    cascade matched held = cascade matched' held := by
  apply cascade_eq_of_values
  intro p
  obtain ⟨image, himage⟩ := h p
  exact himage.cascadeValue? hone

/-! ## Moving matches -/

/-- A match with its order moved. -/
def StyleMatch.reorder (move : Int → Int) (m : StyleMatch) : StyleMatch :=
  { m with order := move m.order }

/-- A move that keeps those in front that are in front. -/
def KeepsOrder (move : Int → Int) (matched : List StyleMatch) : Prop :=
  ∀ m ∈ matched, ∀ other ∈ matched, m.order < other.order → move m.order < move other.order

theorem oneRuleAPlace_reorder {move : Int → Int} (hone : OneRuleAPlace matched)
    (hmove : KeepsOrder move matched) :
    OneRuleAPlace (matched.map (StyleMatch.reorder move)) := by
  intro n hn n' hn' horder
  obtain ⟨m, hm, rfl⟩ := List.mem_map.mp hn
  obtain ⟨m', hm', rfl⟩ := List.mem_map.mp hn'
  have hsame : move m.order = move m'.order := horder
  refine hone m hm m' hm' ?_
  rcases Int.lt_trichotomy m.order m'.order with hless | hequal | hgreater
  · have hlt := hmove m hm m' hm' hless
    omega
  · exact hequal
  · have hlt := hmove m' hm' m hm hgreater
    omega

/-- Matches may be moved as long as those in front stay in front. -/
theorem cascade_reorder {move : Int → Int} (hone : OneRuleAPlace matched)
    (hmove : KeepsOrder move matched) :
    cascade matched held = cascade (matched.map (StyleMatch.reorder move)) held := by
  have hback : ∀ m ∈ matched, ∀ other ∈ matched, move m.order < move other.order →
      m.order < other.order := by
    intro m hm other hother hlt
    rcases Int.lt_trichotomy m.order other.order with hless | hequal | hgreater
    · exact hless
    · rw [hequal] at hlt
      omega
    · have hreverse := hmove other hother m hm hgreater
      omega
  apply cascade_of_represents (oneRuleAPlace_reorder hone hmove)
  intro p
  refine ⟨StyleMatch.reorder move, ?_, ?_, ?_, ?_, ?_⟩
  · exact fun m hm _ => List.mem_map_of_mem hm
  · exact fun m _ hsets => hsets.applies
  · exact fun m _ _ => rfl
  · intro m hm other hother _ _ hyields
    rcases hyields with himportant | ⟨hsame, hlighter | ⟨hequal, hlt⟩⟩
    · exact .inl himportant
    · exact .inr ⟨hsame, .inl hlighter⟩
    · exact .inr ⟨hsame, .inr ⟨hequal, hback m hm other hother hlt⟩⟩
  · intro n hn hsets
    obtain ⟨m, hm, rfl⟩ := List.mem_map.mp hn
    exact ⟨m, hm, ⟨hsets.applies, hsets.declares⟩, .inl rfl⟩

end Cascade

/-! ## Two rules in the place of one -/

/-- The declarations of a rule. -/
def Rule.block (r : Rule) : Declarations := { properties := r.properties, important := r.important }

/-- A rule declares what two rules declare one behind the other, under the same condition, and what
these mark as important they declare. -/
structure Rule.Overlays (front back whole : Rule) : Prop where
  frontQuery : front.mediaQuery = whole.mediaQuery
  backQuery : back.mediaQuery = whole.mediaQuery
  frontDeclared : ∀ p ∈ front.important, p ∈ front.properties.names
  backDeclared : ∀ p ∈ back.important, p ∈ back.properties.names
  block : front.block.Overlays back.block whole.block

/-- The first of two rules decides on a property: it alone declares it as important, or the second
does not declare it. -/
def Rule.Decides (front back : Rule) (p : String) : Prop :=
  (p ∈ front.important ∧ p ∉ back.important) ∨ p ∉ back.properties.names

namespace Rule.Overlays

variable {front back whole : Rule} {p : String}

theorem important (h : front.Overlays back whole) :
    p ∈ whole.important ↔ p ∈ front.important ∨ p ∈ back.important :=
  h.block.important p

theorem value (h : front.Overlays back whole) : whole.properties.get? p =
    if p ∈ front.important ∧ p ∉ back.important then front.properties.get? p
    else (back.properties.get? p).or (front.properties.get? p) :=
  h.block.value p

theorem value_of_decides (h : front.Overlays back whole) (hp : front.Decides back p) :
    front.properties.get? p = whole.properties.get? p := by
  rw [h.value]
  split
  case isTrue => rfl
  case isFalse hnot =>
    have hnone : back.properties.get? p = none := by
      rw [Option.eq_none_iff_forall_ne_some]
      intro value hvalue
      exact (hp.resolve_left hnot) (Entries.mem_names_iff.mpr ⟨value, hvalue⟩)
    rw [hnone, Option.none_or]

theorem value_of_not_decides (h : front.Overlays back whole) (hp : ¬ front.Decides back p) :
    back.properties.get? p = whole.properties.get? p := by
  obtain ⟨hnot, hback⟩ := not_or.mp hp
  obtain ⟨value, hvalue⟩ := Entries.mem_names_iff.mp (not_not.mp hback)
  rw [h.value, if_neg hnot, hvalue, Option.some_or]

theorem important_of_decides (h : front.Overlays back whole) (hp : front.Decides back p) :
    p ∈ front.important ↔ p ∈ whole.important := by
  have hback : p ∉ back.important := by
    rcases hp with ⟨-, hback⟩ | hnames
    · exact hback
    · exact fun himportant => hnames (h.backDeclared p himportant)
  rw [h.important, or_iff_left hback]

theorem important_of_not_decides (h : front.Overlays back whole) (hp : ¬ front.Decides back p) :
    p ∈ back.important ↔ p ∈ whole.important := by
  obtain ⟨hnot, -⟩ := not_or.mp hp
  rw [h.important]
  tauto

theorem declares (h : front.Overlays back whole)
    (hp : p ∈ front.properties.names ∨ p ∈ back.properties.names) : p ∈ whole.properties.names := by
  rw [Entries.mem_names_iff]
  by_cases hdecides : front.Decides back p
  · rw [← h.value_of_decides hdecides, ← Entries.mem_names_iff]
    rcases hp with hfront | hback
    · exact hfront
    · -- the second rule declares the property, so the first decides by its importance
      exact h.frontDeclared p (hdecides.resolve_right (not_not_intro hback)).1
  · rw [← h.value_of_not_decides hdecides, ← Entries.mem_names_iff]
    exact not_not.mp (not_or.mp hdecides).2

end Rule.Overlays

/-- A match of another rule at another place. -/
def StyleMatch.turned (m : StyleMatch) (r : Rule) (order : Int) : StyleMatch :=
  { m with rule := r, order }

theorem StyleMatch.applies_turned {m : StyleMatch} {r : Rule} {order : Int} {held : List String}
    (h : r.mediaQuery = m.rule.mediaQuery) : (m.turned r order).applies held = m.applies held := by
  unfold applies turned
  dsimp only
  rw [h]

section Turned

variable {front back : Rule} {p : String} (m : StyleMatch) (place : Int)

/-- Where the first rule does not decide, it is not more important than the second and comes
first. -/
theorem StyleMatch.turned_front_yields (h : ¬ front.Decides back p) :
    (m.turned front place).Yields p (m.turned back (place + 1)) := by
  obtain ⟨hnot, -⟩ := not_or.mp h
  by_cases hfront : p ∈ front.important
  · have hback : p ∈ back.important := by
      by_contra hplain
      exact hnot ⟨hfront, hplain⟩
    exact .inr ⟨iff_of_true hfront hback, .inr ⟨rfl, Int.lt_succ place⟩⟩
  · by_cases hback : p ∈ back.important
    · exact .inl ⟨hfront, hback⟩
    · exact .inr ⟨iff_of_false hfront hback, .inr ⟨rfl, Int.lt_succ place⟩⟩

/-- Where the second rule declares a property and the first decides, it does so by importance. -/
theorem StyleMatch.turned_back_yields (h : front.Decides back p)
    (hback : p ∈ back.properties.names) :
    (m.turned back (place + 1)).Yields p (m.turned front place) := by
  obtain ⟨himportant, hplain⟩ := h.resolve_right (not_not_intro hback)
  exact .inl ⟨hplain, himportant⟩

end Turned

instance (front back : Rule) (p : String) : Decidable (front.Decides back p) :=
  inferInstanceAs (Decidable (_ ∨ _))

/-- For a match of the rule that is taken apart, the match of the one that decides; another match
stays. -/
def splitImage (front back : Rule) (place : Int) (p : String) (m : StyleMatch) : StyleMatch :=
  if m.order = place then
    if front.Decides back p then m.turned front place else m.turned back (place + 1)
  else m

/-- In the one list a rule has its matches at a place, in the other the two rules have them there
and at the next place, and there are the same matches apart from these. -/
structure Splits (front back whole : Rule) (place : Int)
    (here rest matched matched' : List StyleMatch) : Prop where
  overlays : front.Overlays back whole
  rule : ∀ m ∈ here, m.rule = whole
  order : ∀ m ∈ here, m.order = place
  apart : ∀ m ∈ rest, m.order < place ∨ place + 1 < m.order
  oneRule : OneRuleAPlace rest
  mem : ∀ m, m ∈ matched ↔ m ∈ rest ∨ m ∈ here
  mem' : ∀ n, n ∈ matched' ↔ n ∈ rest ∨ ∃ m ∈ here, n = m.turned front place ∨
    n = m.turned back (place + 1)

namespace Splits

variable {held : List String} {here rest matched matched' : List StyleMatch}
  {front back whole : Rule} {place : Int} {p : String} {m other n : StyleMatch}

theorem splitImage_of_apart (h : Splits front back whole place here rest matched matched')
    (hm : m ∈ rest) : splitImage front back place p m = m := by
  have horder := h.apart m hm
  exact if_neg (by omega)

theorem splitImage_of_here (h : Splits front back whole place here rest matched matched')
    (hm : m ∈ here) : splitImage front back place p m =
      if front.Decides back p then m.turned front place else m.turned back (place + 1) :=
  if_pos (h.order m hm)

/-- The image of a match agrees with it in all that is compared, up to the place. -/
theorem splitImage_agrees (h : Splits front back whole place here rest matched matched')
    (hm : m ∈ matched) (held : List String) (p : String) :
    (splitImage front back place p m).specificity = m.specificity ∧
      (splitImage front back place p m).applies held = m.applies held ∧
      (splitImage front back place p m).rule.properties.get? p = m.rule.properties.get? p ∧
      (p ∈ (splitImage front back place p m).rule.important ↔ p ∈ m.rule.important) := by
  rcases (h.mem m).mp hm with hm | hm
  · rw [h.splitImage_of_apart hm]
    exact ⟨rfl, rfl, rfl, Iff.rfl⟩
  · have hrule := h.rule m hm
    rw [h.splitImage_of_here hm]
    by_cases hp : front.Decides back p
    · rw [if_pos hp, hrule]
      refine ⟨rfl, StyleMatch.applies_turned ?_, h.overlays.value_of_decides hp,
        h.overlays.important_of_decides hp⟩
      rw [hrule, h.overlays.frontQuery]
    · rw [if_neg hp, hrule]
      refine ⟨rfl, StyleMatch.applies_turned ?_, h.overlays.value_of_not_decides hp,
        h.overlays.important_of_not_decides hp⟩
      rw [hrule, h.overlays.backQuery]

/-- The images of the matches of the rule are all at one of the two places, so they come before and
after the same matches as these. -/
theorem order_of_splitImage (h : Splits front back whole place here rest matched matched')
    (hm : m ∈ matched) (hother : other ∈ matched)
    (hlt : (splitImage front back place p m).order < (splitImage front back place p other).order) :
    m.order < other.order := by
  have hplace : ∀ m ∈ here, (splitImage front back place p m).order =
      if front.Decides back p then place else place + 1 := by
    intro m hm
    rw [h.splitImage_of_here hm]
    split <;> rfl
  have hbounds : place ≤ (if front.Decides back p then place else place + 1) ∧
      (if front.Decides back p then place else place + 1) ≤ place + 1 := by
    split <;> omega
  rcases (h.mem m).mp hm with hm | hm
  · have horder := h.apart m hm
    rw [h.splitImage_of_apart hm] at hlt
    rcases (h.mem other).mp hother with hother | hother
    · rw [h.splitImage_of_apart hother] at hlt
      exact hlt
    · rw [hplace other hother] at hlt
      rw [h.order other hother]
      omega
  · rw [hplace m hm] at hlt
    rw [h.order m hm]
    rcases (h.mem other).mp hother with hother | hother
    · have horder := h.apart other hother
      rw [h.splitImage_of_apart hother] at hlt
      omega
    · rw [hplace other hother] at hlt
      omega

/-- A match of one of the two rules comes from a match of the rule. -/
theorem sets_of_turned (h : Splits front back whole place here rest matched matched')
    (hm : m ∈ here) (hn : n = m.turned front place ∨ n = m.turned back (place + 1))
    (hsets : n.Sets held p) : m.Sets held p := by
  have hrule := h.rule m hm
  rcases hn with rfl | rfl
  · refine ⟨?_, hrule ▸ h.overlays.declares (.inl hsets.declares)⟩
    rw [← hsets.applies, StyleMatch.applies_turned (hrule ▸ h.overlays.frontQuery)]
  · refine ⟨?_, hrule ▸ h.overlays.declares (.inr hsets.declares)⟩
    rw [← hsets.applies, StyleMatch.applies_turned (hrule ▸ h.overlays.backQuery)]

/-- What the one of the two rules sets that does not decide yields to what the other sets. -/
theorem bounded (h : Splits front back whole place here rest matched matched') (hn : n ∈ matched')
    (hsets : n.Sets held p) : ∃ m ∈ matched, m.Sets held p ∧
      (n = splitImage front back place p m ∨ n.Yields p (splitImage front back place p m)) := by
  rcases (h.mem' n).mp hn with hn | ⟨m, hm, hn⟩
  · exact ⟨n, (h.mem n).mpr (.inl hn), hsets, .inl (h.splitImage_of_apart hn).symm⟩
  refine ⟨m, (h.mem m).mpr (.inr hm), h.sets_of_turned hm hn hsets, ?_⟩
  rw [h.splitImage_of_here hm]
  by_cases hp : front.Decides back p
  · rw [if_pos hp]
    rcases hn with rfl | rfl
    · exact .inl rfl
    · exact .inr (m.turned_back_yields place hp hsets.declares)
  · rw [if_neg hp]
    rcases hn with rfl | rfl
    · exact .inr (m.turned_front_yields place hp)
    · exact .inl rfl

theorem represents (h : Splits front back whole place here rest matched matched') :
    Represents held p matched matched' (splitImage front back place p) where
  mem := by
    intro m hm _
    rw [h.mem']
    rcases (h.mem m).mp hm with hm | hm
    · rw [h.splitImage_of_apart hm]
      exact .inl hm
    · rw [h.splitImage_of_here hm]
      refine .inr ⟨m, hm, ?_⟩
      split
      · exact .inl rfl
      · exact .inr rfl
  applies := fun m hm hsets => (h.splitImage_agrees hm held p).2.1.trans hsets.applies
  value := fun m hm _ => (h.splitImage_agrees hm held p).2.2.1
  yields := by
    intro m hm other hother _ _ hyields
    obtain ⟨hweight, -, -, himportant⟩ := h.splitImage_agrees hm held p
    obtain ⟨hweight', -, -, himportant'⟩ := h.splitImage_agrees hother held p
    unfold StyleMatch.Yields at hyields
    rw [himportant, himportant', hweight, hweight'] at hyields
    rcases hyields with hyields | ⟨hsame, hlighter | ⟨hequal, hlt⟩⟩
    · exact .inl hyields
    · exact .inr ⟨hsame, .inl hlighter⟩
    · exact .inr ⟨hsame, .inr ⟨hequal, h.order_of_splitImage hm hother hlt⟩⟩
  bounded := fun n hn hsets => h.bounded hn hsets

theorem oneRuleAPlace (h : Splits front back whole place here rest matched matched') :
    OneRuleAPlace matched' := by
  intro n hn n' hn' horder
  rcases (h.mem' n).mp hn with hn | ⟨m, hm, hn⟩
  · have hfar := h.apart n hn
    rcases (h.mem' n').mp hn' with hn' | ⟨m', hm', rfl | rfl⟩
    · exact h.oneRule n hn n' hn' horder
    · have hplace : n.order = place := horder
      omega
    · have hplace : n.order = place + 1 := horder
      omega
  · rcases (h.mem' n').mp hn' with hn' | ⟨m', hm', hn'⟩
    · have hfar := h.apart n' hn'
      rcases hn with rfl | rfl
      · have hplace : place = n'.order := horder
        omega
      · have hplace : place + 1 = n'.order := horder
        omega
    · rcases hn with rfl | rfl <;> rcases hn' with rfl | rfl
      · rfl
      · have hplace : place = place + 1 := horder
        omega
      · have hplace : place + 1 = place := horder
        omega
      · rfl

/-- Two rules may stand in the place of one. -/
theorem cascade (h : Splits front back whole place here rest matched matched')
    (held : List String) :
    AccessAudit.cascade matched held = AccessAudit.cascade matched' held :=
  cascade_of_represents h.oneRuleAPlace fun _ => ⟨_, h.represents⟩

end Splits

/-- Everything behind a place moves by one. -/
def makeRoom (place order : Int) : Int := if place < order then order + 1 else order

section MakeRoom

variable {place : Int} {matched : List StyleMatch}

theorem keepsOrder_makeRoom : KeepsOrder (makeRoom place) matched := by
  intro m _ other _ hlt
  unfold makeRoom
  split <;> split <;> omega

theorem map_makeRoom_of_le (h : ∀ m ∈ matched, m.order ≤ place) :
    matched.map (StyleMatch.reorder (makeRoom place)) = matched := by
  refine (List.map_congr_left fun m hm => ?_).trans (List.map_id matched)
  have hle := h m hm
  have hstays : makeRoom place m.order = m.order := if_neg (by omega)
  rw [StyleMatch.reorder, hstays, id]

theorem map_makeRoom_of_lt (h : ∀ m ∈ matched, place < m.order) :
    matched.map (StyleMatch.reorder (makeRoom place)) =
      matched.map (StyleMatch.reorder (· + 1)) := by
  refine List.map_congr_left fun m hm => ?_
  have hmoves : makeRoom place m.order = m.order + 1 := if_pos (h m hm)
  rw [StyleMatch.reorder, hmoves, StyleMatch.reorder]

end MakeRoom

/-- The matches of a rule may be replaced by those of two rules that it overlays, if the matches
behind make room. -/
theorem cascade_split {front back whole : Rule} {place : Int} {before here after : List StyleMatch}
    (hoverlays : front.Overlays back whole) (hbefore : ∀ m ∈ before, m.order < place)
    (hrule : ∀ m ∈ here, m.rule = whole) (horder : ∀ m ∈ here, m.order = place)
    (hafter : ∀ m ∈ after, place < m.order) (hone : OneRuleAPlace (before ++ (here ++ after)))
    (held : List String) :
    cascade (before ++ (here ++ after)) held =
      cascade (before ++ (here.map (·.turned front place) ++
        (here.map (·.turned back (place + 1)) ++
          after.map (StyleMatch.reorder (· + 1))))) held := by
  have hmoved : (before ++ (here ++ after)).map (StyleMatch.reorder (makeRoom place)) =
      before ++ (here ++ after.map (StyleMatch.reorder (· + 1))) := by
    rw [List.map_append, List.map_append, map_makeRoom_of_lt hafter,
      map_makeRoom_of_le fun m hm => Int.le_of_lt (hbefore m hm),
      map_makeRoom_of_le fun m hm => Int.le_of_eq (horder m hm)]
  have hone' : OneRuleAPlace (before ++ (here ++ after.map (StyleMatch.reorder (· + 1)))) :=
    hmoved ▸ oneRuleAPlace_reorder hone keepsOrder_makeRoom
  have hsplits : Splits front back whole place here
      (before ++ after.map (StyleMatch.reorder (· + 1)))
      (before ++ (here ++ after.map (StyleMatch.reorder (· + 1))))
      (before ++ (here.map (·.turned front place) ++
        (here.map (·.turned back (place + 1)) ++ after.map (StyleMatch.reorder (· + 1))))) := by
    refine ⟨hoverlays, hrule, horder, ?_, ?_, ?_, ?_⟩
    · intro m hm
      rcases List.mem_append.mp hm with hm | hm
      · exact .inl (hbefore m hm)
      · obtain ⟨m', hm', rfl⟩ := List.mem_map.mp hm
        exact .inr (Int.add_lt_add_right (hafter m' hm') 1)
    · intro m hm other hother
      refine hone' m ?_ other ?_
      · simp only [List.mem_append] at hm ⊢
        tauto
      · simp only [List.mem_append] at hother ⊢
        tauto
    · intro m
      simp only [List.mem_append]
      tauto
    · intro n
      simp only [List.mem_append, List.mem_map, exists_or, and_or_left, @eq_comm _ n, or_assoc,
        or_left_comm, or_comm]
  rw [cascade_reorder hone keepsOrder_makeRoom, hmoved]
  exact hsplits.cascade held

end AccessAudit
