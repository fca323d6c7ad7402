import AccessAudit.Proofs.Style.Weight

/-!
# Reading what was written

Jobs cross to their workers in written form, and what is written is read again. Here is what that
comes to for the parts that rules and actions have in common: lists, parts that may be missing, and
locations. Numbers that are not finite have no written form; values without any are written as they
are (`Json.writable_of_finite`).
-/

namespace AccessAudit

/-! ## Parts -/

theorem map_eq_self_iff {α : Type} {back : α → α} {items : List α} :
    items.map back = items ↔ ∀ item ∈ items, back item = item := by
  have hinj := @List.map_inj_left _ _ items back id
  rw [List.map_id] at hinj
  exact hinj

namespace Schema

variable {α : Type} {read : Reader α} {write : α → Json}

/-- Items that are read back as something each are so as a list. -/
theorem itemsFrom_map {back : α → α} {items : List α}
    (h : ∀ item ∈ items, read (write item) = .ok (back item)) (place : Nat) :
    itemsFrom read place (items.map write) = .ok (items.map back) := by
  induction items generalizing place with
  | nil => rfl
  | cons item rest ih =>
    have hrest := ih (fun other hother => h other (List.mem_cons_of_mem _ hother)) (place + 1)
    rw [List.map_cons, itemsFrom, h item List.mem_cons_self, hrest]
    rfl

/-- Items of which each is read back as itself or not at all are so as a list. -/
theorem itemsFrom_eq_self {items found : List α} {place : Nat}
    (h : ∀ item ∈ items, ∀ a, read (write item) = .ok a → a = item)
    (hread : itemsFrom read place (items.map write) = .ok found) :
    found = items ∧ ∀ item ∈ items, read (write item) = .ok item := by
  induction items generalizing found place with
  | nil =>
    cases hread
    simp
  | cons item rest ih =>
    rw [List.map_cons, itemsFrom] at hread
    obtain ⟨_, others, hhead, hothers, rfl⟩ := Checked.seq_eq_ok hread
    obtain ⟨a, ha, rfl⟩ := Checked.map_eq_ok hhead
    have hitem := Checked.under_eq_ok ha
    obtain rfl := h item List.mem_cons_self a hitem
    obtain ⟨rfl, hrest⟩ := ih (fun other hother => h other (List.mem_cons_of_mem _ hother)) hothers
    exact ⟨rfl, List.forall_mem_cons.mpr ⟨hitem, hrest⟩⟩

theorem field_eq_ok {entries : Entries Json} {name : String} {absent a : α}
    (h : field entries name absent read = .ok a) : a = absent ∨ ∃ v, read v = .ok a := by
  unfold field at h
  split at h
  · exact .inr ⟨_, Checked.under_eq_ok h⟩
  · cases h
    exact .inl rfl

theorem required_eq_ok {entries : Entries Json} {name : String} {a : α}
    (h : required entries name read = .ok a) : ∃ v, read v = .ok a := by
  unfold required at h
  split at h
  · exact ⟨_, Checked.under_eq_ok h⟩
  · cases h

theorem optional_map (h : ∀ a, read (write a) = .ok a) (hnull : ∀ a, write a ≠ .null)
    (x : Option α) : optional read ((x.map write).getD .null) = .ok x := by
  cases x with
  | none => rfl
  | some a =>
    show optional read (write a) = _
    rw [optional_of_ne_null (hnull a), h a]
    rfl

theorem optional_text (s : Option String) :
    optional text ((s.map Json.str).getD .null) = .ok s :=
  @optional_map _ text Json.str (fun _ => rfl) (fun _ h => by cases h) s

end Schema

namespace Location

theorem read_dump (l : Location) : read l.dump = .ok l := by
  obtain ⟨file, line, column, endLine, endColumn⟩ := l
  cases endLine <;> cases endColumn <;> rfl

theorem optional_read (l : Option Location) :
    Schema.optional read ((l.map dump).getD .null) = .ok l :=
  Schema.optional_map read_dump (fun _ h => by cases h) l

end Location

/-! ## Values that can be written -/

namespace Json

mutual

/-- The numbers in a value are finite. -/
def Finite : Json → Prop
  | float value => ∃ negative significand exponent,
    Number.exact value = .finite negative significand exponent
  | arr items => FiniteItems items
  | obj fields => FiniteFields fields
  | _ => True

/-- The numbers in the items of a list are finite. -/
def FiniteItems : List Json → Prop
  | [] => True
  | item :: rest => item.Finite ∧ FiniteItems rest

/-- The numbers in the fields of an object are finite. -/
def FiniteFields : List (String × Json) → Prop
  | [] => True
  | (_, value) :: rest => value.Finite ∧ FiniteFields rest

end

mutual

theorem writable_of_finite : (v : Json) → v.Finite → v.writable = v
  | .null, _ => by simp [writable]
  | .bool _, _ => by simp [writable]
  | .int _, _ => by simp [writable]
  | .float value, h => by
    obtain ⟨negative, significand, exponent, hvalue⟩ := h
    rw [writable, hvalue]
  | .str _, _ => by simp [writable]
  | .arr items, h => by rw [writable, writableItems_of_finite items h]
  | .obj fields, h => by rw [writable, writableFields_of_finite fields h]

theorem writableItems_of_finite :
    (items : List Json) → FiniteItems items → writableItems items = items
  | [], _ => by simp [writableItems]
  | item :: rest, h => by
    rw [writableItems, writable_of_finite item h.1, writableItems_of_finite rest h.2]

theorem writableFields_of_finite :
    (fields : List (String × Json)) → FiniteFields fields → writableFields fields = fields
  | [], _ => by simp [writableFields]
  | (name, value) :: rest, h => by
    rw [writableFields, writable_of_finite value h.1, writableFields_of_finite rest h.2]

end

theorem finiteItems_map {α : Type} {write : α → Json} {items : List α}
    (h : ∀ item ∈ items, (write item).Finite) : FiniteItems (items.map write) := by
  induction items with
  | nil => trivial
  | cons item rest ih =>
    have hrest := ih fun other hother => h other (List.mem_cons_of_mem _ hother)
    exact ⟨h item List.mem_cons_self, hrest⟩

theorem finiteFields_texts (entries : Entries String) :
    FiniteFields (entries.map fun entry => (entry.1, .str entry.2)) := by
  induction entries with
  | nil => trivial
  | cons entry rest ih => exact ⟨trivial, ih⟩

theorem finite_text? (s : Option String) : ((s.map Json.str).getD .null).Finite := by
  cases s <;> trivial

theorem finite_location? (l : Option Location) : ((l.map Location.dump).getD .null).Finite := by
  cases l with
  | none => trivial
  | some l =>
    obtain ⟨file, line, column, endLine, endColumn⟩ := l
    cases endLine <;> cases endColumn <;> simp [Location.dump, Finite, FiniteFields]

end Json

end AccessAudit
