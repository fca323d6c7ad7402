import AccessAudit.Style.Rule

/-!
# The weight of a rule

The weight of a rule is that of its selector or one that the caller declares, and a mark on the rule
says which. When a rule is read, the mark follows from whether a weight is given, unless the reader
is told otherwise (`Rule.read_weight`): a rule that was written out and is read again has a weight
and yet none that was declared.
-/

namespace AccessAudit

open Text

/-- The weight was not declared: it is that of the selector. -/
def Rule.Derived (r : Rule) : Prop :=
  r.declared = false ∧ r.specificity = Specificity.ofText r.selector

section Reading

variable {α β : Type}

theorem Checked.andThen_eq_ok {x : Checked α} {step : α → Checked β} {b : β}
    (h : x.andThen step = .ok b) : ∃ a, x = .ok a ∧ step a = .ok b := by
  cases x with
  | ok a => exact ⟨a, rfl, h⟩
  | refused faults => cases h
  | broken why => cases h

theorem Checked.map_eq_ok {g : α → β} {x : Checked α} {b : β} (h : g <$> x = .ok b) :
    ∃ a, x = .ok a ∧ b = g a := by
  cases x with
  | ok a =>
    cases h
    exact ⟨a, rfl, rfl⟩
  | refused faults => cases h
  | broken why => cases h

theorem Checked.seq_eq_ok {g : Checked (α → β)} {x : Checked α} {b : β} (h : g <*> x = .ok b) :
    ∃ k a, g = .ok k ∧ x = .ok a ∧ b = k a := by
  cases g <;> cases x
  case ok.ok k a =>
    cases h
    exact ⟨k, a, rfl, rfl, rfl⟩
  all_goals cases h

theorem Checked.under_eq_ok {step : String} {x : Checked α} {a : α} (h : x.under step = .ok a) :
    x = .ok a := by
  cases x with
  | ok a => exact h
  | refused faults => cases h
  | broken why => cases h

theorem not_matches_null : ∀ {v : Json}, v ≠ .null → (!(v matches .null)) = true := by
  intro v h
  cases v with
  | null => exact absurd rfl h
  | _ => rfl

/-- A rule is made of what was read. -/
theorem Rule.read_eq_make {fields : Entries Json} {r : Rule} (h : Rule.read (.obj fields) = .ok r) :
    ∃ selector properties important weight declared mediaQuery location,
      r = Rule.make selector properties important weight declared mediaQuery location ∧
      Schema.optional Specificity.read ((fields.get? "specificity").getD .null) = .ok weight ∧
      Schema.field fields "declared_specificity"
        (!((fields.get? "specificity").getD .null) matches .null) Schema.bool = .ok declared ∧
      ∃ items, Rule.listImportant ((fields.get? "important").getD .null) = .ok items ∧
        Schema.itemsFrom Schema.text 0 items = .ok important := by
  obtain ⟨items, hitems, h⟩ := Checked.andThen_eq_ok h
  obtain ⟨properties, -, h⟩ := Checked.andThen_eq_ok h
  obtain ⟨-, -, h⟩ := Checked.andThen_eq_ok h
  obtain ⟨_, location, hmedia, -, hr⟩ := Checked.seq_eq_ok h
  obtain ⟨_, mediaQuery, hnames, -, rfl⟩ := Checked.seq_eq_ok hmedia
  obtain ⟨_, names, hflag, htexts, rfl⟩ := Checked.seq_eq_ok hnames
  obtain ⟨_, declared, hvector, hdeclared, rfl⟩ := Checked.seq_eq_ok hflag
  obtain ⟨weight, hweight, rfl⟩ := Checked.map_eq_ok hvector
  exact ⟨_, _, names, weight, declared, mediaQuery, location, hr, Checked.under_eq_ok hweight,
    hdeclared, items, hitems, Checked.under_eq_ok htexts⟩

section Make

variable (selector : String) (properties : Entries String) (important : List String)
  (weight : Option Specificity) (declared : Bool) (mediaQuery : Option String)
  (location : Option Location)

@[simp] theorem Rule.make_selector :
    (Rule.make selector properties important weight declared mediaQuery location).selector =
      strip selector := by
  unfold Rule.make
  rfl

@[simp] theorem Rule.make_declared :
    (Rule.make selector properties important weight declared mediaQuery location).declared =
      declared := by
  unfold Rule.make
  rfl

@[simp] theorem Rule.make_specificity :
    (Rule.make selector properties important weight declared mediaQuery location).specificity =
      weight.getD (Specificity.ofText (strip selector)) := by
  unfold Rule.make
  rfl

end Make

theorem Schema.optional_of_ne_null {read : Reader α} :
    ∀ {v : Json}, v ≠ .null → Schema.optional read v = some <$> read v := by
  intro v h
  cases v with
  | null => exact absurd rfl h
  | _ => rfl

/-- Unless the reader is told otherwise, a rule that is read with a weight has that one declared, and
a rule that is read without has the weight of its selector. -/
theorem Rule.read_weight {fields : Entries Json} {r : Rule} (h : Rule.read (.obj fields) = .ok r)
    (huntold : fields.get? "declared_specificity" = none) :
    ((fields.get? "specificity").getD .null = .null → r.Derived) ∧
      ((fields.get? "specificity").getD .null ≠ .null → r.declared = true ∧
        Specificity.read ((fields.get? "specificity").getD .null) = .ok r.specificity) := by
  obtain ⟨selector, properties, important, weight, declared, mediaQuery, location, rfl, hweight,
    hdeclared, -⟩ := Rule.read_eq_make h
  unfold Schema.field at hdeclared
  rw [huntold] at hdeclared
  constructor
  · intro hnull
    rw [hnull] at hweight hdeclared
    obtain rfl : none = weight := Checked.ok.inj hweight
    obtain rfl : false = declared := Checked.ok.inj hdeclared
    simp [Rule.Derived]
  · intro hgiven
    rw [Schema.optional_of_ne_null hgiven] at hweight
    obtain ⟨vector, hvector, rfl⟩ := Checked.map_eq_ok hweight
    rw [Rule.make_declared, Rule.make_specificity, ← Checked.ok.inj hdeclared]
    exact ⟨not_matches_null hgiven, hvector⟩

end Reading

end AccessAudit
