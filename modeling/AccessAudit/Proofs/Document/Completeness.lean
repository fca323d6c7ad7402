import AccessAudit.Audit.Context
import AccessAudit.Proofs.Document.Appending
import AccessAudit.Proofs.Number.Exact
import AccessAudit.Proofs.Schema.Rereading

/-!
# Completeness in exact numbers

How complete a document is, is a score from its number of fragments. In exact numbers, and with
constants that are accepted, the score is from zero to one, falls with the number of fragments, is
never below the rounded floor and is no less once a reference between fragments is resolved
(`score_range_and_order`). So it always passes the check that an analysis makes of a document.

The bounds come from the ranges of the three constants alone. That the floor leaves room for a step
is not needed for them, and it could not be: doubles are accepted whose exact values leave none.
-/

namespace AccessAudit

variable {α : Type}

/-! ## Ranges of constants -/

namespace Schema

theorem ensure_eq_ok {cause : Cause} {holds : α → Bool} {x : Checked α} {a : α}
    (h : ensure cause holds x = .ok a) : x = .ok a ∧ holds a = true := by
  obtain ⟨b, hb, hstep⟩ := Checked.andThen_eq_ok h
  by_cases hholds : holds b = true
  · rw [if_pos hholds] at hstep
    cases hstep
    exact ⟨hb, hholds⟩
  · rw [if_neg hholds] at hstep
    cases hstep

variable [Scale α]

theorem withinUnit_eq_ok {x : Checked α} {a : α} (h : withinUnit x = .ok a) :
    Scale.atMost (Scale.ofInt 0) a = true ∧ Scale.atMost a (Scale.ofInt 1) = true := by
  obtain ⟨hupTo, hlow⟩ := ensure_eq_ok h
  exact ⟨hlow, (ensure_eq_ok hupTo).2⟩

theorem withinPositiveUnit_eq_ok {x : Checked α} {a : α} (h : withinPositiveUnit x = .ok a) :
    Scale.less (Scale.ofInt 0) a = true ∧ Scale.atMost a (Scale.ofInt 1) = true := by
  obtain ⟨hupTo, hlow⟩ := ensure_eq_ok h
  exact ⟨hlow, (ensure_eq_ok hupTo).2⟩

end Schema

namespace Completeness

/-- All constants are in their ranges. -/
structure InRange [Scale α] (c : Completeness α) : Prop where
  step : Scale.less (Scale.ofInt 0) c.step = true ∧ Scale.atMost c.step (Scale.ofInt 1) = true
  floor : Scale.atMost (Scale.ofInt 0) c.floor = true ∧ Scale.atMost c.floor (Scale.ofInt 1) = true
  bonus : Scale.atMost (Scale.ofInt 0) c.bonus = true ∧ Scale.atMost c.bonus (Scale.ofInt 1) = true

theorem inRange_of_read [Scale α] {number : Reader α} {usual c : Completeness α}
    {fields : Entries Json} (husual : usual.InRange) (h : read number usual fields = .ok c) :
    c.InRange := by
  obtain ⟨withFloor, bonus, hwithFloor, hbonus, rfl⟩ := Checked.seq_eq_ok h
  obtain ⟨withStep, floor, hwithStep, hfloor, rfl⟩ := Checked.seq_eq_ok hwithFloor
  obtain ⟨step, hstep, rfl⟩ := Checked.map_eq_ok hwithStep
  refine ⟨?_, ?_, ?_⟩
  · obtain rfl | ⟨v, hv⟩ := Schema.field_eq_ok hstep
    · exact husual.step
    · exact Schema.withinPositiveUnit_eq_ok hv
  · obtain rfl | ⟨v, hv⟩ := Schema.field_eq_ok hfloor
    · exact husual.floor
    · exact Schema.withinUnit_eq_ok hv
  · obtain rfl | ⟨v, hv⟩ := Schema.field_eq_ok hbonus
    · exact husual.bonus
    · exact Schema.withinUnit_eq_ok hv

/-- The exact values of constants. -/
def exact (c : Completeness Float) : Completeness ℚ :=
  ⟨Number.value c.step, Number.value c.floor, Number.value c.bonus⟩

/-- The constants with which scores are bounded. -/
structure Bounded (c : Completeness ℚ) : Prop where
  step : 0 ≤ c.step
  floor : 0 ≤ c.floor ∧ c.floor ≤ 1
  bonus : 0 ≤ c.bonus

theorem InRange.bounded {c : Completeness ℚ} (h : c.InRange) : c.Bounded := by
  obtain ⟨⟨hstep, -⟩, ⟨hfloor, hfloor'⟩, ⟨hbonus, -⟩⟩ := h
  simp only [Scale.less_rat, Scale.atMost_rat, Scale.ofInt_rat, Int.cast_zero, Int.cast_one]
    at hstep hfloor hfloor' hbonus
  exact ⟨hstep.le, ⟨hfloor, hfloor'⟩, hbonus⟩

theorem value_range {x : Float} (hlow : Scale.atMost (Scale.ofInt 0) x = true)
    (hhigh : Scale.atMost x (Scale.ofInt 1) = true) :
    0 ≤ Number.value x ∧ Number.value x ≤ 1 := by
  have h := Number.value_mono (x := Number.ofInt 0) (z := Number.ofInt 1) (by decide +kernel)
    (by decide +kernel) (of_decide_eq_true hlow) (of_decide_eq_true hhigh)
  rwa [Number.value_ofInt_zero, Number.value_ofInt_one] at h

theorem InRange.bounded_exact {c : Completeness Float} (h : c.InRange) : c.exact.Bounded := by
  have hstep : Scale.atMost (Scale.ofInt 0) c.step = true :=
    decide_eq_true (Number.float_le_of_lt (of_decide_eq_true h.step.1))
  exact ⟨(value_range hstep h.step.2).1, value_range h.floor.1 h.floor.2,
    (value_range h.bonus.1 h.bonus.2).1⟩

/-! ## Accepted constants -/

/-- The constants that are accepted: those that are read in exact numbers, and the exact values of
those of a configuration. -/
inductive Accepted : Completeness ℚ → Prop
  | exactly {number : Reader ℚ} {fields : Entries Json} {c : Completeness ℚ}
      (h : (read number ⟨1 / 10, 3 / 10, 3 / 10⟩ fields).andThen checkRoom = .ok c) : Accepted c
  | config {v : Json} {config : Config} (h : Config.read v = .ok config) :
      Accepted config.completeness.exact

theorem inRange_of_config {v : Json} {config : Config} (h : Config.read v = .ok config) :
    config.completeness.InRange := by
  unfold Config.read Schema.model at h
  split at h
  case h_2 => cases h
  case h_1 fields =>
    obtain ⟨read, hread, hroom⟩ := Checked.andThen_eq_ok h
    obtain ⟨_, _, rfl⟩ := Checked.map_eq_ok hroom
    obtain ⟨_, _, hworkers, -, rfl⟩ := Checked.seq_eq_ok hread
    obtain ⟨_, _, hopacity, -, rfl⟩ := Checked.seq_eq_ok hworkers
    obtain ⟨_, _, hsuggestions, -, rfl⟩ := Checked.seq_eq_ok hopacity
    obtain ⟨_, _, hdivisor, -, rfl⟩ := Checked.seq_eq_ok hsuggestions
    obtain ⟨_, _, hdistance, -, rfl⟩ := Checked.seq_eq_ok hdivisor
    obtain ⟨_, _, hmake, -, rfl⟩ := Checked.seq_eq_ok hdistance
    obtain ⟨_, hcompleteness, rfl⟩ := Checked.map_eq_ok hmake
    have husual : ({} : Config).completeness.InRange := by
      refine ⟨?_, ?_, ?_⟩ <;> decide +kernel
    exact inRange_of_read husual hcompleteness

theorem checkRoom_eq_ok [Scale α] {c c' : Completeness α} (h : c.checkRoom = .ok c') : c' = c := by
  unfold checkRoom at h
  split at h <;> cases h
  rfl

theorem Accepted.bounded {c : Completeness ℚ} (h : c.Accepted) : c.Bounded := by
  cases h with
  | exactly h =>
    obtain ⟨_, hread, hroom⟩ := Checked.andThen_eq_ok h
    obtain rfl := checkRoom_eq_ok hroom
    have husual : (⟨1 / 10, 3 / 10, 3 / 10⟩ : Completeness ℚ).InRange := by
      refine ⟨?_, ?_, ?_⟩ <;> norm_num
    exact (inRange_of_read husual hread).bounded
  | config h => exact (inRange_of_config h).bounded_exact

/-! ## Scores -/

section Scores

variable {c : Completeness ℚ}

theorem base_eq (c : Completeness ℚ) (amount : ℚ) :
    c.base amount = max (1 - c.step * amount) c.floor := by
  have hdef : c.base amount =
      if c.floor < 1 - c.step * amount then 1 - c.step * amount else c.floor := by
    unfold base
    simp
  rw [hdef]
  split
  · exact (max_eq_left (le_of_lt ‹_›)).symm
  · exact (max_eq_right (not_lt.mp ‹_›)).symm

theorem boosted_eq (c : Completeness ℚ) (amount : ℚ) :
    c.boosted amount = min (c.base amount + c.bonus) 1 := by
  have hdef : c.boosted amount =
      if c.base amount + c.bonus < 1 then c.base amount + c.bonus else 1 := by
    unfold boosted
    simp
  rw [hdef]
  split
  · exact (min_eq_left (le_of_lt ‹_›)).symm
  · exact (min_eq_right (not_lt.mp ‹_›)).symm

theorem floor_le_base (c : Completeness ℚ) (amount : ℚ) : c.floor ≤ c.base amount := by
  rw [base_eq]
  exact le_max_right _ _

theorem Bounded.base_le_one (h : c.Bounded) {amount : ℚ} (hamount : 0 ≤ amount) :
    c.base amount ≤ 1 := by
  rw [base_eq]
  refine max_le ?_ h.floor.2
  exact sub_le_self 1 (mul_nonneg h.step hamount)

theorem Bounded.base_antitone (h : c.Bounded) {amount amount' : ℚ} (hle : amount ≤ amount') :
    c.base amount' ≤ c.base amount := by
  rw [base_eq, base_eq]
  have hcost : c.step * amount ≤ c.step * amount' := mul_le_mul_of_nonneg_left hle h.step
  exact max_le_max (sub_le_sub_left hcost 1) le_rfl

theorem Bounded.base_le_boosted (h : c.Bounded) {amount : ℚ} (hamount : 0 ≤ amount) :
    c.base amount ≤ c.boosted amount := by
  rw [boosted_eq]
  exact le_min (le_add_of_nonneg_right h.bonus) (h.base_le_one hamount)

theorem boosted_le_one (c : Completeness ℚ) (amount : ℚ) : c.boosted amount ≤ 1 := by
  rw [boosted_eq]
  exact min_le_right _ _

theorem Bounded.boosted_antitone (h : c.Bounded) {amount amount' : ℚ} (hle : amount ≤ amount') :
    c.boosted amount' ≤ c.boosted amount := by
  rw [boosted_eq, boosted_eq]
  exact min_le_min (add_le_add_left (h.base_antitone hle) c.bonus) le_rfl

theorem Bounded.floor_le_scoreAt (h : c.Bounded) {amount : ℚ} (hamount : 0 ≤ amount)
    (crossed : Bool) : Scale.round c.floor ≤ c.scoreAt amount crossed := by
  have hfloor := floor_le_base c amount
  refine Number.nearest_mono 10 ?_
  cases crossed with
  | false => exact hfloor
  | true => exact hfloor.trans (h.base_le_boosted hamount)

theorem Bounded.scoreAt_range (h : c.Bounded) {amount : ℚ} (hamount : 0 ≤ amount)
    (crossed : Bool) : 0 ≤ c.scoreAt amount crossed ∧ c.scoreAt amount crossed ≤ 1 := by
  have hzero : Number.nearest 10 0 = 0 := by exact_mod_cast Number.nearest_intCast 10 0
  have hone : Number.nearest 10 1 = 1 := by exact_mod_cast Number.nearest_intCast 10 1
  refine ⟨?_, ?_⟩
  · calc (0 : ℚ) = Number.nearest 10 0 := hzero.symm
      _ ≤ Scale.round c.floor := Number.nearest_mono 10 h.floor.1
      _ ≤ c.scoreAt amount crossed := h.floor_le_scoreAt hamount crossed
  · rw [← hone]
    refine Number.nearest_mono 10 ?_
    cases crossed with
    | false => exact h.base_le_one hamount
    | true => exact boosted_le_one c amount

theorem Bounded.scoreAt_antitone (h : c.Bounded) {amount amount' : ℚ} (hle : amount ≤ amount')
    (crossed : Bool) : c.scoreAt amount' crossed ≤ c.scoreAt amount crossed := by
  refine Number.nearest_mono 10 ?_
  cases crossed with
  | false => exact h.base_antitone hle
  | true => exact h.boosted_antitone hle

theorem score_of_pos (c : Completeness ℚ) {n : Int} (h : 1 ≤ n) (crossed : Bool) :
    c.score n crossed = c.scoreAt n crossed := by
  unfold score
  rw [if_neg (by omega), Scale.ofInt_rat]

theorem Bounded.score_range (h : c.Bounded) (n : Int) (crossed : Bool) :
    0 ≤ c.score n crossed ∧ c.score n crossed ≤ 1 := by
  by_cases hn : 1 ≤ n
  · rw [score_of_pos c hn]
    exact h.scoreAt_range (by exact_mod_cast (by omega : 0 ≤ n)) crossed
  · unfold score
    rw [if_pos (by omega)]
    simp

end Scores

end Completeness

/-! ## Documents -/

/-- The completeness of a document by some constants. -/
def Document.scoreBy [Scale α] (d : Document) (c : Completeness α) : α :=
  c.score d.fragments.size (d.references.any Reference.crosses)

theorem validate_of_range {scope : Json} {s : Scope} {q : ℚ} (hscope : Scope.read scope = .ok s)
    (hrange : 0 ≤ q ∧ q ≤ 1) : AnalysisContext.validate scope q = .ok (s, q) := by
  have hunit : Schema.withinUnit (.ok q) = .ok q := by
    simp [Schema.withinUnit, Schema.upToOne, Schema.ensure, Checked.andThen, hrange]
  unfold AnalysisContext.validate
  rw [hscope, hunit]
  rfl

/-- With accepted constants, and in exact numbers, scores are from zero to one, so that every
merged document of a known scope passes the check of an analysis; they fall with the number of
fragments, stay at the rounded floor or above it, and a resolved reference between fragments does
not lower them. -/
theorem Completeness.score_range_and_order {c : Completeness ℚ} (h : c.Accepted) :
    (∀ (n : Int) (crossed : Bool), 0 ≤ c.score n crossed ∧ c.score n crossed ≤ 1) ∧
    (∀ (config : Config) (inputs : List FragmentInput) (scripts : List Script)
      (sheets : List StyleSheet) (scope : Json) (s : Scope), Scope.read scope = .ok s →
      (merge config inputs scripts sheets scope).completeness =
        (merge config inputs scripts sheets scope).scoreBy config.completeness ∧
      AnalysisContext.validate (merge config inputs scripts sheets scope).scope
          ((merge config inputs scripts sheets scope).scoreBy c) =
        .ok (s, (merge config inputs scripts sheets scope).scoreBy c)) ∧
    (∀ (m n : Int) (crossed : Bool), 1 ≤ m → m ≤ n → c.score n crossed ≤ c.score m crossed) ∧
    (∀ (n : Int) (crossed : Bool), 1 ≤ n → Scale.round c.floor ≤ c.score n crossed) ∧
    ∀ n : Int, 1 ≤ n → c.score n false ≤ c.score n true := by
  have hbounded := h.bounded
  refine ⟨hbounded.score_range, ?_, ?_, ?_, ?_⟩
  · intro config inputs scripts sheets scope s hscope
    exact ⟨rfl, validate_of_range hscope (hbounded.score_range _ _)⟩
  · intro m n crossed hm hle
    rw [score_of_pos c hm, score_of_pos c (hm.trans hle)]
    exact hbounded.scoreAt_antitone (by exact_mod_cast hle) crossed
  · intro n crossed hn
    rw [score_of_pos c hn]
    exact hbounded.floor_le_scoreAt (by exact_mod_cast (by omega : 0 ≤ n)) crossed
  · intro n hn
    rw [score_of_pos c hn, score_of_pos c hn]
    refine Number.nearest_mono 10 ?_
    exact hbounded.base_le_boosted (by exact_mod_cast (by omega : 0 ≤ n))

/-- Constants of a configuration: each fragment costs a quarter, down to a half. -/
def Config.quarters : Config := { completeness := ⟨0.25, 0.5, 0.3⟩ }

theorem Config.read_quarters :
    Config.read (.obj [("completeness_step", .float 0.25), ("completeness_floor", .float 0.5)]) =
      .ok Config.quarters := by
  rfl

/-- A paragraph and its title in two fragments. -/
theorem Completeness.score_range_and_order_quarters : ∃ f g,
    Config.read (.obj [("completeness_step", .float 0.25), ("completeness_floor", .float 0.5)]) =
      .ok Config.quarters ∧
    Fragment.ofGraph (elementPage titledParagraph) "page" = .ok f ∧
    Fragment.ofGraph (elementPage heading) "page" = .ok g ∧
    let d := merge .quarters [.indexed f, .indexed g] [] [] (.str "page")
    let c := Config.quarters.completeness.exact
    d.completeness = Config.quarters.completeness.score 2 true ∧
    Scope.read d.scope = .ok .page ∧
    AnalysisContext.validate d.scope (c.score 2 true) = .ok (.page, c.score 2 true) ∧
    c.score 9 true ≤ c.score 2 true ∧ Scale.round c.floor ≤ c.score 9 false ∧
    c.score 9 false ≤ c.score 9 true := by
  obtain ⟨f, hf, hsize, he⟩ := exists_elementPage titledParagraph
  obtain ⟨g, hg, hsize', he'⟩ := exists_elementPage heading
  obtain ⟨-, hmerged, hfalls, hfloor, hcrossed⟩ :=
    Completeness.score_range_and_order (.config Config.read_quarters)
  obtain ⟨hscore, hvalid⟩ := hmerged .quarters [.indexed f, .indexed g] [] [] (.str "page") .page rfl
  have hcrosses := any_crosses_title hsize hsize' he he' .quarters [] [] (.str "page")
  have htwo : ((merge .quarters [.indexed f, .indexed g] [] [] (.str "page")).fragments.size) = 2 :=
    rfl
  rw [Document.scoreBy, hcrosses, htwo] at hscore hvalid
  exact ⟨f, g, Config.read_quarters, hf, hg, hscore, rfl, hvalid,
    hfalls 2 9 true (by decide) (by decide), hfloor 9 false (by decide), hcrossed 9 (by decide)⟩

end AccessAudit
