import AccessAudit.Proofs.Table
import AccessAudit.Style.Cascade
import Mathlib.Data.List.Sort

/-!
# What the cascade picks

The cascade goes through the matches in the order in which they are recorded and keeps, of two equal
keys, the one that came first. So what it picks may depend on that order: two matches with the same
importance, weight and place can set a property to different values. It does not once matches of
equal order come from one rule (`OneRuleAPlace`), and then `cascade_get?_iff` says what is picked
without any list order: the value that a match sets to which no other is preferred.
-/

namespace AccessAudit

/-! ## Items once each, and sorted texts -/

theorem eraseDupsBy_sublist {α : Type} (same : α → α → Bool) (items : List α) :
    (items.eraseDupsBy same).Sublist items := by
  match items with
  | [] => exact .refl []
  | item :: rest =>
    rw [List.eraseDupsBy_cons]
    exact ((eraseDupsBy_sublist same _).trans List.filter_sublist).cons_cons item
termination_by items.length
decreasing_by exact Nat.lt_succ_of_le (List.length_filter_le _ _)

theorem mem_sortTexts {text : String} {texts : List String} :
    text ∈ sortTexts texts ↔ text ∈ texts := by
  unfold sortTexts
  rw [(List.mergeSort_perm _ _).mem_iff, List.mem_eraseDups]

theorem sortTexts_sorted (texts : List String) : (sortTexts texts).Pairwise (· < ·) := by
  have htrans (a b c : String) (hab : decide (a ≤ b) = true) (hbc : decide (b ≤ c) = true) :
      decide (a ≤ c) = true :=
    decide_eq_true (String.le_trans (of_decide_eq_true hab) (of_decide_eq_true hbc))
  have htotal (a b : String) : (decide (a ≤ b) || decide (b ≤ a)) = true := by
    simpa using String.le_total a b
  have hle : (sortTexts texts).Pairwise (· ≤ ·) :=
    (List.pairwise_mergeSort htrans htotal texts.eraseDups).imp of_decide_eq_true
  have hne : (sortTexts texts).Pairwise (· ≠ ·) :=
    (List.mergeSort_perm _ _).nodup_iff.mpr (nodup_eraseDups texts)
  exact (hle.and hne).imp fun h => Std.lt_of_le_of_ne h.1 h.2

theorem sortTexts_congr {texts texts' : List String} (h : ∀ text, text ∈ texts ↔ text ∈ texts') :
    sortTexts texts = sortTexts texts' := by
  refine (sortTexts_sorted texts).eq_of_mem_iff (sortTexts_sorted texts') fun text => ?_
  rw [mem_sortTexts, mem_sortTexts]
  exact h text

/-! ## Entries by name -/

theorem Entries.mem_names_iff {α : Type} {entries : Entries α} {name : String} :
    name ∈ entries.names ↔ ∃ value, entries.get? name = some value := by
  rw [← Option.isSome_iff_exists, Entries.get?, List.lookup_isSome_iff, Entries.names, List.mem_map]
  simp only [beq_iff_eq, @eq_comm String name]

theorem Entries.get?_filterMap {α : Type} (g : String → Option α) (names : List String)
    (name : String) :
    Entries.get? (names.filterMap fun n => (g n).map fun value => (n, value)) name =
      if name ∈ names then g name else none := by
  induction names with
  | nil => rfl
  | cons first rest ih =>
    unfold Entries.get? at ih ⊢
    cases hg : g first with
    | none =>
      rw [List.filterMap_cons, hg, Option.map_none]
      dsimp only
      rw [ih]
      by_cases hname : name = first
      · simp [hname, hg]
      · simp [hname]
    | some value =>
      rw [List.filterMap_cons, hg, Option.map_some]
      dsimp only
      by_cases hname : name = first
      · simp [hname, hg]
      · have hbeq : (name == first) = false := beq_eq_false_iff_ne.mpr hname
        simp [List.lookup_cons, hbeq, hname, ih]

/-! ## Which match is preferred -/

/-- Weights are compared count by count. -/
def Specificity.Lighter (a b : Specificity) : Prop :=
  a.inline < b.inline ∨ a.inline = b.inline ∧ (a.ids < b.ids ∨ a.ids = b.ids ∧
    (a.classes < b.classes ∨ a.classes = b.classes ∧ a.types < b.types))

/-- Another match is preferred for a property: by importance, then by weight, then by order. -/
def StyleMatch.Yields (p : String) (m other : StyleMatch) : Prop :=
  (p ∉ m.rule.important ∧ p ∈ other.rule.important) ∨
    (p ∈ m.rule.important ↔ p ∈ other.rule.important) ∧
      (m.specificity.Lighter other.specificity ∨
        m.specificity = other.specificity ∧ m.order < other.order)

theorem StyleMatch.cascadeKey_lt_iff {p : String} {m other : StyleMatch} :
    m.cascadeKey p < other.cascadeKey p ↔ m.Yields p other := by
  obtain ⟨rule, ⟨inline, ids, classes, types⟩, order⟩ := m
  obtain ⟨rule', ⟨inline', ids', classes', types'⟩, order'⟩ := other
  unfold cascadeKey Yields Specificity.Lighter Specificity.vector
  simp only [List.cons_append, List.nil_append, List.cons_lt_cons_iff, List.contains_iff_mem,
    Specificity.mk.injEq]
  -- the importance decides unless it is the same; then the numbers are compared
  by_cases hp : p ∈ rule.important
  · by_cases hp' : p ∈ rule'.important
    · simp [hp, hp']
      omega
    · simp [hp, hp']
  · by_cases hp' : p ∈ rule'.important
    · simp [hp, hp']
    · simp [hp, hp']
      omega

instance (p : String) (m other : StyleMatch) : Decidable (m.Yields p other) :=
  decidable_of_iff (m.cascadeKey p < other.cascadeKey p) StyleMatch.cascadeKey_lt_iff

theorem StyleMatch.order_eq_of_cascadeKey {p : String} {m other : StyleMatch}
    (h : m.cascadeKey p = other.cascadeKey p) : m.order = other.order := by
  unfold cascadeKey Specificity.vector at h
  simp only [List.cons_append, List.nil_append, List.cons.injEq] at h
  exact h.2.2.2.2.2.1

/-! ## The best candidate -/

/-- The fold ends with one of the candidates, and with none above it. -/
theorem Candidate.foldl_best {best : Candidate} (first : Candidate) (rest : List Candidate)
    (h : rest.foldl (fun best other => if best.key < other.key then other else best) first = best) :
    best ∈ first :: rest ∧ ∀ other ∈ first :: rest, ¬ best.key < other.key := by
  induction rest generalizing first with
  | nil =>
    subst h
    simp
  | cons next rest ih =>
    rw [List.foldl_cons] at h
    by_cases hlt : first.key < next.key
    · rw [if_pos hlt] at h
      obtain ⟨hmem, hnone⟩ := ih next h
      refine ⟨List.mem_cons_of_mem _ hmem, fun other hother => ?_⟩
      rcases List.mem_cons.mp hother with rfl | hother
      · intro habove
        exact hnone next List.mem_cons_self (List.lt_trans habove hlt)
      · exact hnone other hother
    · rw [if_neg hlt] at h
      obtain ⟨hmem, hnone⟩ := ih first h
      have hfirst := List.not_lt.mp (hnone first List.mem_cons_self)
      refine ⟨?_, fun other hother => ?_⟩
      · rcases List.mem_cons.mp hmem with rfl | hmem
        · exact List.mem_cons_self
        · exact List.mem_cons_of_mem _ (List.mem_cons_of_mem _ hmem)
      · rcases List.mem_cons.mp hother with rfl | hother
        · exact List.not_lt.mpr hfirst
        rcases List.mem_cons.mp hother with rfl | hother
        · exact List.not_lt.mpr (List.le_trans (List.not_lt.mp hlt) hfirst)
        · exact hnone other (List.mem_cons_of_mem _ hother)

theorem Candidate.best?_eq_none_iff {candidates : List Candidate} :
    best? candidates = none ↔ candidates = [] := by
  cases candidates with
  | nil => simp [best?]
  | cons first rest => simp [best?]

theorem Candidate.best?_eq_some {candidates : List Candidate} {best : Candidate}
    (h : best? candidates = some best) :
    best ∈ candidates ∧ ∀ other ∈ candidates, ¬ best.key < other.key := by
  cases candidates with
  | nil => cases h
  | cons first rest => exact foldl_best first rest (Option.some.inj h)

/-! ## Winners -/

/-- A match that applies and sets a property, and to which no other such match is preferred. -/
structure StyleMatch.Wins (m : StyleMatch) (matched : List StyleMatch) (held : List String)
    (p : String) : Prop where
  mem : m ∈ matched
  applies : m.applies held = true
  declares : p ∈ m.rule.properties.names
  greatest : ∀ other ∈ matched, other.applies held = true → p ∈ other.rule.properties.names →
    ¬ m.Yields p other

/-- Matches of equal order come from one rule. -/
def OneRuleAPlace (matched : List StyleMatch) : Prop :=
  ∀ m ∈ matched, ∀ other ∈ matched, m.order = other.order → m.rule = other.rule

section Winners

variable {matched : List StyleMatch} {held : List String} {p value : String}

theorem mem_candidatesFor {c : Candidate} :
    c ∈ candidatesFor (matched.filter (·.applies held)) p ↔ ∃ m ∈ matched, m.applies held = true ∧
      ∃ value, m.rule.properties.get? p = some value ∧ ⟨m.cascadeKey p, value⟩ = c := by
  unfold candidatesFor
  simp only [List.mem_filterMap, List.mem_filter, Option.map_eq_some_iff, and_assoc]

/-- The value that the cascade picks for a property. -/
def cascadeValue? (matched : List StyleMatch) (held : List String) (p : String) : Option String :=
  (Candidate.best? (candidatesFor (matched.filter (·.applies held)) p)).map Candidate.value

theorem exists_wins_of_value (h : cascadeValue? matched held p = some value) :
    ∃ m : StyleMatch, m.Wins matched held p ∧ m.rule.properties.get? p = some value := by
  obtain ⟨best, hbest, rfl⟩ := Option.map_eq_some_iff.mp h
  obtain ⟨hmem, hnone⟩ := Candidate.best?_eq_some hbest
  obtain ⟨m, hm, happlies, value, hvalue, rfl⟩ := mem_candidatesFor.mp hmem
  refine ⟨m, ⟨hm, happlies, Entries.mem_names_iff.mpr ⟨value, hvalue⟩, ?_⟩, hvalue⟩
  intro other hother happlies' hdeclares hyields
  obtain ⟨value', hvalue'⟩ := Entries.mem_names_iff.mp hdeclares
  have hcandidate := mem_candidatesFor.mpr ⟨other, hother, happlies', value', hvalue', rfl⟩
  exact hnone _ hcandidate (StyleMatch.cascadeKey_lt_iff.mpr hyields)

theorem exists_value_of_declares {m : StyleMatch} (hm : m ∈ matched)
    (happlies : m.applies held = true) (hdeclares : p ∈ m.rule.properties.names) :
    ∃ value, cascadeValue? matched held p = some value := by
  obtain ⟨value, hvalue⟩ := Entries.mem_names_iff.mp hdeclares
  have hcandidate := mem_candidatesFor.mpr ⟨m, hm, happlies, value, hvalue, rfl⟩
  unfold cascadeValue?
  cases hbest : Candidate.best? (candidatesFor (matched.filter (·.applies held)) p) with
  | none =>
    rw [Candidate.best?_eq_none_iff.mp hbest] at hcandidate
    cases hcandidate
  | some best => exact ⟨best.value, rfl⟩

/-- Two winners have the same key, so the same order, and so the same rule. -/
theorem StyleMatch.Wins.rule_eq {m other : StyleMatch} (hone : OneRuleAPlace matched)
    (h : m.Wins matched held p) (hother : other.Wins matched held p) : m.rule = other.rule := by
  have hle := h.greatest other hother.mem hother.applies hother.declares
  have hge := hother.greatest m h.mem h.applies h.declares
  rw [← cascadeKey_lt_iff, List.not_lt] at hle hge
  exact hone m h.mem other hother.mem (order_eq_of_cascadeKey (List.le_antisymm hge hle))

theorem StyleMatch.Wins.of_mem_iff {m : StyleMatch} {matched' : List StyleMatch}
    (h : ∀ other, other ∈ matched ↔ other ∈ matched') (hwins : m.Wins matched held p) :
    m.Wins matched' held p where
  mem := (h m).mp hwins.mem
  applies := hwins.applies
  declares := hwins.declares
  greatest := fun other hother => hwins.greatest other ((h other).mpr hother)

theorem cascadeValue?_eq_some_iff (hone : OneRuleAPlace matched) :
    cascadeValue? matched held p = some value ↔
      ∃ m : StyleMatch, m.Wins matched held p ∧ m.rule.properties.get? p = some value := by
  constructor
  · exact exists_wins_of_value
  · rintro ⟨m, hwins, hvalue⟩
    obtain ⟨value', hvalue'⟩ := exists_value_of_declares hwins.mem hwins.applies hwins.declares
    obtain ⟨other, hother, hset⟩ := exists_wins_of_value hvalue'
    rw [hwins.rule_eq hone hother, hset] at hvalue
    rw [hvalue', hvalue]

end Winners

/-! ## The cascade -/

section Cascade

variable {matched matched' : List StyleMatch} {held : List String} {p value : String}

/-- The properties that matches set which apply, by name. -/
def declaredNames (matched : List StyleMatch) (held : List String) : List String :=
  sortTexts ((matched.filter (·.applies held)).flatMap fun m => m.rule.properties.names)

theorem mem_declaredNames : p ∈ declaredNames matched held ↔
    ∃ m ∈ matched, m.applies held = true ∧ p ∈ m.rule.properties.names := by
  unfold declaredNames
  simp only [mem_sortTexts, List.mem_flatMap, List.mem_filter, and_assoc]

theorem cascade_eq (matched : List StyleMatch) (held : List String) :
    cascade matched held = (declaredNames matched held).filterMap fun name =>
      (cascadeValue? matched held name).map fun value => (name, value) := by
  unfold cascade cascadeValue? declaredNames
  simp only [Option.map_map, Function.comp_def]

theorem names_cascade (matched : List StyleMatch) (held : List String) :
    (cascade matched held).names = declaredNames matched held := by
  have hvalue : ∀ name ∈ declaredNames matched held,
      ((cascadeValue? matched held name).map fun value => (name, value)).map Prod.fst =
        some name := by
    intro name hname
    obtain ⟨m, hm, happlies, hdeclares⟩ := mem_declaredNames.mp hname
    obtain ⟨value, hvalue⟩ := exists_value_of_declares hm happlies hdeclares
    rw [hvalue]
    rfl
  rw [cascade_eq, Entries.names, List.map_filterMap, List.filterMap_congr hvalue,
    List.filterMap_some]

theorem cascade_get? (matched : List StyleMatch) (held : List String) (p : String) :
    (cascade matched held).get? p = cascadeValue? matched held p := by
  rw [cascade_eq, Entries.get?_filterMap]
  split
  case isTrue => rfl
  case isFalse hnot =>
    symm
    rw [Option.eq_none_iff_forall_ne_some]
    intro value hvalue
    obtain ⟨m, hwins, -⟩ := exists_wins_of_value hvalue
    exact hnot (mem_declaredNames.mpr ⟨m, hwins.mem, hwins.applies, hwins.declares⟩)

/-- The cascade gives a property the value that a winner sets. -/
theorem cascade_get?_iff (hone : OneRuleAPlace matched) :
    (cascade matched held).get? p = some value ↔
      ∃ m : StyleMatch, m.Wins matched held p ∧ m.rule.properties.get? p = some value := by
  rw [cascade_get?]
  exact cascadeValue?_eq_some_iff hone

/-- Only which matches there are counts, not in what order or how often they are recorded. -/
theorem cascade_congr (hone : OneRuleAPlace matched) (h : ∀ m, m ∈ matched ↔ m ∈ matched') :
    cascade matched held = cascade matched' held := by
  have hone' : OneRuleAPlace matched' := by
    intro m hm other hother
    exact hone m ((h m).mpr hm) other ((h other).mpr hother)
  have hvalues (name : String) :
      cascadeValue? matched held name = cascadeValue? matched' held name := by
    apply Option.ext
    intro value
    rw [cascadeValue?_eq_some_iff hone, cascadeValue?_eq_some_iff hone']
    exact exists_congr fun m => and_congr_left fun _ =>
      ⟨.of_mem_iff h, .of_mem_iff fun other => (h other).symm⟩
  have hnames : declaredNames matched held = declaredNames matched' held := by
    apply sortTexts_congr
    simp only [List.mem_flatMap, List.mem_filter, h, implies_true]
  rw [cascade_eq, cascade_eq, hnames]
  simp only [hvalues]

end Cascade

end AccessAudit
