import AccessAudit.Behavior.Action
import AccessAudit.Proofs.Schema.Rereading
import AccessAudit.Proofs.Text.Normal

/-!
# Actions that are written and read again

Reading an action brings names to their usual form. For the attribute that is changed, that form
stays what it is when it is read again. The name of an event does not always: the `on` of an
attribute is taken off without looking at what is left, and that may begin with a blank or with
another `on` (`ononline` is the attribute for `online`, which is read as `line` the next time). So
an action stays what it is exactly if its event begins with neither (`Action.reread_eq_self_iff`).
-/

namespace AccessAudit

open Text

/-! ## Names of events -/

/-- The name begins with no blank, and with no `on` that something follows. -/
def EventSettled (event : String) : Prop :=
  (∀ c ∈ event.toList.head?, isBlank c = false) ∧ ∀ c rest, event.toList ≠ 'o' :: 'n' :: c :: rest

theorem eventName_cases (s : String) :
    (∃ c rest, (normalize s).toList = 'o' :: 'n' :: c :: rest ∧
      eventName s = String.ofList (c :: rest)) ∨
    (∀ c rest, (normalize s).toList ≠ 'o' :: 'n' :: c :: rest) ∧ eventName s = normalize s := by
  unfold eventName
  split
  case h_1 c rest h => exact .inl ⟨c, rest, h, rfl⟩
  case h_2 h => exact .inr ⟨h, rfl⟩

theorem eventName_form (s : String) : (∀ c ∈ (eventName s).toList, IsSmall c) ∧
    ∀ c ∈ (eventName s).toList.getLast?, isBlank c = false := by
  have hsmall : ∀ c ∈ (normalize s).toList, IsSmall c := by
    intro c hc
    simp only [Text.normalize, lower, String.toList_ofList] at hc
    exact isSmall_of_mem_lowerFrom hc
  have hlast : ∀ c ∈ (normalize s).toList.getLast?, isBlank c = false := by
    simp only [Text.normalize, lower, strip, String.toList_ofList]
    exact isBlank_getLast_lowerFrom isBlank_getLast_trim
  rcases eventName_cases s with ⟨c, rest, hname, heq⟩ | ⟨-, heq⟩
  · rw [hname] at hsmall hlast
    rw [heq, String.toList_ofList]
    refine ⟨fun d hd => hsmall d ?_, fun d hd => hlast d ?_⟩
    · exact List.mem_cons_of_mem _ (List.mem_cons_of_mem _ hd)
    · simpa using hd
  · rw [heq]
    exact ⟨hsmall, hlast⟩

theorem toList_normalize_of_small {s : String} (h : ∀ c ∈ s.toList, IsSmall c) :
    (normalize s).toList = trim s.toList := by
  have hsmall : ∀ c ∈ trim s.toList, IsSmall c := fun c hc => h c ((trim_sublist _).subset hc)
  simp only [Text.normalize, lower, strip, String.toList_ofList, lowerChars,
    lowerFrom_eq_self hsmall]

/-- Taking the name of an event once more changes it exactly if it is not settled: what is taken off
makes it shorter. -/
theorem eventName_eq_self_iff (s : String) :
    eventName (eventName s) = eventName s ↔ EventSettled (eventName s) := by
  obtain ⟨hsmall, hlast⟩ := eventName_form s
  generalize eventName s = event at hsmall hlast
  have hnormal := toList_normalize_of_small hsmall
  have hlength := (trim_sublist event.toList).length_le
  rcases eventName_cases event with ⟨c, rest, hname, heq⟩ | ⟨hname, heq⟩
  · rw [hnormal] at hname
    rw [heq]
    refine iff_of_false (fun hself => ?_) (fun hsettled => ?_)
    · rw [← hself, String.toList_ofList] at hname hlength
      rw [hname] at hlength
      simp only [List.length_cons] at hlength
      omega
    · rw [trim_eq_self hsettled.1 hlast] at hname
      exact hsettled.2 c rest hname
  · rw [hnormal] at hname
    rw [heq, ← String.toList_inj, hnormal]
    constructor
    · intro hself
      rw [hself] at hname
      refine ⟨?_, hname⟩
      rw [← hself]
      exact isBlank_head_trim
    · intro hsettled
      exact trim_eq_self hsettled.1 hlast

/-! ## Reading again -/

theorem ElementReference.read_dump (r : ElementReference) : read r.dump = .ok r := by
  obtain ⟨selector, binding, id⟩ := r
  cases selector <;> cases binding <;> cases id <;> rfl

theorem ElementReference.finite_dump (r : ElementReference) : r.dump.Finite :=
  ⟨Json.finite_text? r.selector, Json.finite_text? r.binding, Json.finite_text? r.id, trivial⟩

theorem Timing.read_name (t : Timing) : read (.str t.name) = .ok t := by
  cases t <;> rfl

theorem FocusMethod.read_name (m : FocusMethod) : read (.str m.name) = .ok m := by
  cases m <;> rfl

namespace Deed

/-- What is done as it is read again: the name of an event is taken once more. -/
def reread : Deed → Deed
  | handle event body => handle (eventName event) body
  | other => other

/-- What is done is in the form in which it is read. -/
def Formed : Deed → Prop
  | handle event _ => ∃ s, event = eventName s
  | mutate name _ => ∃ s, name = normalize s
  | _ => True

theorem formed_of_read? {fields : Entries Json} {kind : String} {deed : Deed}
    (h : read? fields kind = some (.ok deed)) : deed.Formed := by
  have hrequired {name s : String} {form : String → String}
      (h : Schema.required fields name (fun v => .ok (form v.text)) = .ok s) :
      ∃ s', s = form s' := by
    unfold Schema.required at h
    split at h
    · exact ⟨_, (Checked.ok.inj (Checked.under_eq_ok h)).symm⟩
    · cases h
  unfold read? at h
  split at h
  · obtain ⟨_, body, hmap, -, rfl⟩ := Checked.seq_eq_ok (Option.some.inj h)
    obtain ⟨event, hevent, rfl⟩ := Checked.map_eq_ok hmap
    exact hrequired hevent
  · obtain ⟨method, -, rfl⟩ := Checked.map_eq_ok (Option.some.inj h)
    trivial
  · obtain ⟨_, value, hmap, -, rfl⟩ := Checked.seq_eq_ok (Option.some.inj h)
    obtain ⟨name, hname, rfl⟩ := Checked.map_eq_ok hmap
    exact hrequired hname
  · obtain ⟨target, -, rfl⟩ := Checked.map_eq_ok (Option.some.inj h)
    trivial
  · cases h

theorem finite_dump (deed : Deed) : Json.FiniteFields deed.dump := by
  cases deed with
  | handle event body => exact ⟨trivial, Json.finite_text? body, trivial⟩
  | focus method => exact ⟨trivial, trivial⟩
  | mutate name value => exact ⟨trivial, Json.finite_text? value, trivial⟩
  | navigate target => exact ⟨trivial, trivial⟩

end Deed

namespace Action

/-- The action as it is read again. -/
def reread (a : Action) : Action := { a with deed := a.deed.reread }

theorem formed_of_read {v : Json} {a : Action} (h : read v = .ok a) : a.deed.Formed := by
  unfold read at h
  split at h
  · split at h
    · cases h
    · split at h
      · cases h
      case h_2 deed hdeed =>
        obtain ⟨_, found, hlocation, hfound, rfl⟩ := Checked.seq_eq_ok (Checked.under_eq_ok h)
        obtain ⟨_, location, hmetadata, -, rfl⟩ := Checked.seq_eq_ok hlocation
        obtain ⟨_, metadata, htiming, -, rfl⟩ := Checked.seq_eq_ok hmetadata
        obtain ⟨_, timing, helement, -, rfl⟩ := Checked.seq_eq_ok htiming
        obtain ⟨element, -, rfl⟩ := Checked.map_eq_ok helement
        rw [hfound] at hdeed
        exact Deed.formed_of_read? hdeed
    · cases h
  · cases h

theorem read?_dump {a : Action} {fields : Entries Json} (h : a.dump = .obj fields)
    (hformed : a.deed.Formed) : Deed.read? fields a.deed.kind = some (.ok a.deed.reread) := by
  obtain ⟨element, timing, metadata, location, deed⟩ := a
  cases h
  cases deed with
  | handle event body =>
    show some (Deed.handle <$> .ok (eventName event) <*>
      (Schema.optional Schema.text (.ofText? body)).under "handler_body") = _
    rw [Json.ofText?, Schema.optional_text]
    rfl
  | focus method =>
    show some (Deed.focus <$> (FocusMethod.read (.str method.name)).under "method") = _
    rw [FocusMethod.read_name]
    rfl
  | mutate name value =>
    obtain ⟨s, rfl⟩ := hformed
    show some (Deed.mutate <$> .ok (normalize (normalize s)) <*>
      (Schema.optional Schema.text (.ofText? value)).under "value") = _
    rw [normalize_normalize, Json.ofText?, Schema.optional_text]
    rfl
  | navigate target => rfl

theorem read_of_kind {fields : Entries Json} {kind : String} {deed : Checked Deed}
    (hkind : fields.lookup "kind" = some (.str kind)) (hdeed : Deed.read? fields kind = some deed) :
    read (.obj fields) = (mk <$> Schema.field fields "element" {} ElementReference.read
      <*> Schema.field fields "timing" .immediate Timing.read
      <*> Schema.field fields "metadata" [] Schema.fields
      <*> Schema.field fields "location" none (Schema.optional Location.read)
      <*> deed).under kind := by
  rw [read, hkind]
  dsimp only
  rw [hdeed]

theorem read_dump {a : Action} (h : a.deed.Formed) : read a.dump = .ok a.reread := by
  have hdeed := read?_dump (a := a) rfl h
  rw [dump, read_of_kind rfl hdeed]
  show (mk <$> (ElementReference.read a.element.dump).under "element"
    <*> (Timing.read (.str a.timing.name)).under "timing" <*> .ok a.metadata
    <*> (Schema.optional Location.read (.ofLocation? a.location)).under "location"
    <*> .ok a.deed.reread).under a.deed.kind = _
  rw [ElementReference.read_dump, Timing.read_name, Json.ofLocation?, Location.optional_read]
  rfl

theorem reread_eq_self_iff {a : Action} (h : a.deed.Formed) :
    a.reread = a ↔ ∀ event ∈ a.event?, EventSettled event := by
  obtain ⟨element, timing, metadata, location, deed⟩ := a
  cases deed with
  | handle event body =>
    obtain ⟨s, hs⟩ := h
    have heq := eventName_eq_self_iff s
    rw [← hs] at heq
    simp [reread, Deed.reread, event?, heq]
  | focus method => simp [reread, Deed.reread, event?]
  | mutate name value => simp [reread, Deed.reread, event?]
  | navigate target => simp [reread, Deed.reread, event?]

theorem finite_dump {a : Action} (h : (Json.obj a.metadata).Finite) : a.dump.Finite :=
  ⟨a.element.finite_dump, trivial, h, Json.finite_location? a.location, trivial, a.deed.finite_dump⟩

end Action

/-! ## Scripts -/

namespace Script

/-- The script as it is read again. -/
def reread (s : Script) : Script := { s with actions := s.actions.map Action.reread }

theorem read_dump {s : Script} (h : ∀ a ∈ s.actions, a.deed.Formed) :
    read s.dump = .ok s.reread := by
  have hactions := Schema.itemsFrom_map (fun a ha => Action.read_dump (h a ha)) 0
  show mk <$> .ok s.source <*>
    (Schema.itemsFrom Action.read 0 (s.actions.map Action.dump)).under "actions" = _
  rw [hactions]
  rfl

theorem reread_eq_self_iff {s : Script} (h : ∀ a ∈ s.actions, a.deed.Formed) :
    s.reread = s ↔ ∀ a ∈ s.actions, ∀ event ∈ a.event?, EventSettled event := by
  have hactions : s.reread = s ↔ s.actions.map Action.reread = s.actions :=
    ⟨fun heq => congrArg Script.actions heq, fun heq => by rw [reread, heq]⟩
  rw [hactions, map_eq_self_iff]
  exact forall₂_congr fun a ha => Action.reread_eq_self_iff (h a ha)

theorem finite_dump {s : Script} (h : ∀ a ∈ s.actions, (Json.obj a.metadata).Finite) :
    s.dump.Finite := by
  have hactions := Json.finiteItems_map fun a ha => Action.finite_dump (h a ha)
  simp [dump, Json.Finite, Json.FiniteFields, hactions]

end Script

end AccessAudit
