import AccessAudit.Proofs.Document.Owners

/-!
# What the passes of the merge attach

What is attached to the elements lies in one table. Three passes write to it: over the actions, over
the rules and over the style attributes. Each is described by what it leaves at one element
(`Slots.on`), first for a step and then, by induction over what has been gone through, for a run.
The passes share the table but not what they write: only the first attaches actions, and only the
other two attach matches.

The places of the matches come from one counter, which the rules advance one by one, whatever becomes
of them, and then the style attributes, so that the place of a style attribute is the number of rules
and of style attributes before it (`inlinePlace`).
-/

namespace AccessAudit

variable {fragments : Array Fragment} {key : Key}

/-! ## One table -/

namespace Slots

/-- What is attached to an element. -/
def on (slots : Slots) (key : Key) : Annotation := (slots.get? key).getD {}

theorem on_addAction (slots : Slots) (place : Nat) (other : Key) :
    (slots.addAction place other).on key = if key = other then
      { slots.on key with actions := (slots.on key).actions ++ [place] } else slots.on key :=
  Table.getD_get?_update slots {} _

theorem on_addStyle (slots : Slots) (entry : Key × StyleMatch) :
    (slots.addStyle entry).on key = if key = entry.1 then
      { slots.on key with styles := (slots.on key).styles ++ [entry.2] } else slots.on key :=
  Table.getD_get?_update slots {} _

theorem styles_addAction (slots : Slots) (place : Nat) (other : Key) :
    ((slots.addAction place other).on key).styles = (slots.on key).styles := by
  rw [on_addAction]
  split
  · rfl
  · rfl

theorem actions_addStyle (slots : Slots) (entry : Key × StyleMatch) :
    ((slots.addStyle entry).on key).actions = (slots.on key).actions := by
  rw [on_addStyle]
  split
  · rfl
  · rfl

/-- An action is attached once to each of its elements, since these are different. -/
theorem actions_foldl_addAction {keys : List Key} (hkeys : keys.Nodup) (place : Nat)
    (slots : Slots) : ((keys.foldl (addAction place) slots).on key).actions =
      (slots.on key).actions ++ if key ∈ keys then [place] else [] := by
  induction keys generalizing slots with
  | nil => simp
  | cons first rest ih =>
    obtain ⟨hfirst, hrest⟩ := List.nodup_cons.mp hkeys
    rw [List.foldl_cons, ih hrest, on_addAction]
    by_cases h : key = first
    · have hnot : key ∉ rest := h ▸ hfirst
      simp [h, h ▸ hnot]
    · simp [h]

theorem styles_foldl_addAction (keys : List Key) (place : Nat) (slots : Slots) :
    ((keys.foldl (addAction place) slots).on key).styles = (slots.on key).styles := by
  induction keys generalizing slots with
  | nil => rfl
  | cons first rest ih => rw [List.foldl_cons, ih, styles_addAction]

theorem styles_foldl_addStyle (entries : List (Key × StyleMatch)) (slots : Slots) :
    ((entries.foldl addStyle slots).on key).styles =
      (slots.on key).styles ++ (entries.filter fun entry => entry.1 = key).map Prod.snd := by
  induction entries generalizing slots with
  | nil => simp
  | cons entry rest ih =>
    rw [List.foldl_cons, ih, on_addStyle]
    by_cases h : key = entry.1
    · simp [h]
    · simp [h, Ne.symm h]

theorem actions_foldl_addStyle (entries : List (Key × StyleMatch)) (slots : Slots) :
    ((entries.foldl addStyle slots).on key).actions = (slots.on key).actions := by
  induction entries generalizing slots with
  | nil => rfl
  | cons entry rest ih => rw [List.foldl_cons, ih, actions_addStyle]

end Slots

/-! ## The actions -/

theorem ActionPass.styles_step (index : CandidateIndex) (pass : ActionPass)
    (entry : String × Action) :
    ((pass.step fragments index entry).slots.on key).styles = (pass.slots.on key).styles := by
  unfold ActionPass.step
  dsimp only
  split
  · exact Slots.styles_foldl_addAction _ _ _
  · rfl

/-- Going through the actions attaches no matches. -/
theorem ActionPass.styles_foldl (fragments : Array Fragment) (index : CandidateIndex)
    (entries : List (String × Action)) (key : Key) :
    ((entries.foldl (ActionPass.step fragments index) {}).slots.on key).styles = [] := by
  induction entries using List.reverseRecOn with
  | nil => rfl
  | append_singleton entries entry ih => rw [List.foldl_concat, styles_step, ih]

/-! ## The rules -/

/-- Rules with their places. -/
def placed (rules : List (String × Rule)) : List PlacedRule :=
  rules.zipIdx.map fun ((source, rule), place) =>
    { source, rule, place, selectors := SelectorList.parse rule.selector }

/-- The rules of style sheets with their places. -/
def placeRules (sheets : List StyleSheet) : List PlacedRule := placed (flattenSheets sheets)

theorem placed_concat (rules : List (String × Rule)) (entry : String × Rule) :
    placed (rules ++ [entry]) = placed rules ++
      [⟨entry.1, entry.2, rules.length, SelectorList.parse entry.2.selector⟩] := by
  simp [placed, List.zipIdx_append]

namespace PlacedRule

/-- The matches of a rule with an element, if there is one. -/
def matchesAt (r : PlacedRule) (fragments : Array Fragment) (key : Key) : List StyleMatch :=
  (fragments[key.fragment]?.bind fun f =>
    (f.element? key.order).map fun _ => r.matchesOf f key.order).getD []

/-- The orphan that a rule becomes if it has no match. -/
def orphan? (r : PlacedRule) (fragments : Array Fragment) : Option OrphanRule :=
  (r.orphanReason? (r.matchesIn fragments)).map fun why => ⟨r.source, r.rule, why.message⟩

theorem filter_flatMap_key {keys : List Key} (hkeys : keys.Nodup) (found : Key → List StyleMatch) :
    ((keys.flatMap fun k => (found k).map (k, ·)).filter fun entry => entry.1 = key).map Prod.snd =
      if key ∈ keys then found key else [] := by
  induction keys with
  | nil => rfl
  | cons first rest ih =>
    obtain ⟨hfirst, hrest⟩ := List.nodup_cons.mp hkeys
    rw [List.flatMap_cons, List.filter_append, List.map_append, ih hrest, List.filter_map,
      List.map_map]
    by_cases h : first = key
    · have hnot : key ∉ rest := h ▸ hfirst
      simp [h, hnot, Function.comp_def]
    · simp [h, Ne.symm h, Function.comp_def]

theorem filter_matchesIn (r : PlacedRule) : ((r.matchesIn fragments).filter fun entry =>
    entry.1 = key).map Prod.snd = r.matchesAt fragments key := by
  rw [matchesIn, filter_flatMap_key (nodup_keysOf fragments), matchesAt]
  by_cases h : key ∈ keysOf fragments
  · obtain ⟨e, he⟩ := mem_keysOf.mp h
    obtain ⟨f, hf, he⟩ := Option.bind_eq_some_iff.mp he
    rw [if_pos h, hf]
    simp [he]
  · rw [if_neg h]
    cases hf : fragments[key.fragment]? with
    | none => rfl
    | some f =>
      cases he : f.element? key.order with
      | none => simp [he]
      | some e => exact absurd (mem_keysOf.mpr ⟨e, by rw [elementAt?, hf]; exact he⟩) h

end PlacedRule

namespace StylePass

/-- What going through rules has led to, from what was attached before. -/
structure Ruled (fragments : Array Fragment) (start : Slots) (rules : List (String × Rule))
    (pass : StylePass) : Prop where
  place : pass.place = rules.length
  orphans : pass.orphans = (placed rules).filterMap (·.orphan? fragments)
  actions : ∀ key, (pass.slots.on key).actions = (start.on key).actions
  styles : ∀ key, (pass.slots.on key).styles =
    (start.on key).styles ++ (placed rules).flatMap (·.matchesAt fragments key)

theorem Ruled.step {start : Slots} {rules : List (String × Rule)} {pass : StylePass}
    (h : Ruled fragments start rules pass) (entry : String × Rule) :
    Ruled fragments start (rules ++ [entry]) (pass.rule fragments entry) where
  place := by
    rw [List.length_append, ← h.place]
    rfl
  orphans := by
    rw [placed_concat, List.filterMap_append, ← h.orphans, ← h.place]
    simp only [StylePass.rule, List.filterMap_cons, List.filterMap_nil, PlacedRule.orphan?]
    split
    · next hnone => rw [hnone]; rfl
    · next orphan hsome => rw [hsome]; rfl
  actions key := by
    rw [← h.actions key]
    exact Slots.actions_foldl_addStyle _ _
  styles key := by
    rw [placed_concat, List.flatMap_append, ← List.append_assoc, ← h.styles key, ← h.place,
      List.flatMap_singleton, ← PlacedRule.filter_matchesIn]
    exact Slots.styles_foldl_addStyle _ _

theorem ruled (fragments : Array Fragment) (start : Slots) (rules : List (String × Rule)) :
    Ruled fragments start rules (rules.foldl (rule fragments) { slots := start }) := by
  induction rules using List.reverseRecOn with
  | nil => exact ⟨rfl, rfl, fun _ => rfl, fun _ => (List.append_nil _).symm⟩
  | append_singleton rules entry ih =>
    rw [List.foldl_concat]
    exact ih.step entry

end StylePass

/-! ## The style attributes -/

/-- Whether the element at a key has a style attribute with declarations. -/
def hasInline (fragments : Array Fragment) (key : Key) : Bool :=
  ((elementAt? fragments key).bind inlineText?).isSome

/-- The keys in a list before a key. -/
def keysBefore (keys : List Key) (key : Key) : List Key := keys.takeWhile (· ≠ key)

theorem keysBefore_of_not_mem {before : List Key} (h : key ∉ before) (after : List Key) :
    keysBefore (before ++ key :: after) key = before := by
  have hbefore : ∀ k ∈ before, decide (k ≠ key) = true := by
    intro k hk
    exact decide_eq_true (ne_of_mem_of_not_mem hk h)
  rw [keysBefore, List.takeWhile_append_of_pos hbefore, List.takeWhile_cons_of_neg (by simp),
    List.append_nil]

theorem keysBefore_append {keys : List Key} (h : key ∈ keys) (more : List Key) :
    keysBefore (keys ++ more) key = keysBefore keys key := by
  obtain ⟨before, after, rfl, hbefore⟩ := List.eq_append_cons_of_mem h
  rw [List.append_assoc, List.cons_append, keysBefore_of_not_mem hbefore,
    keysBefore_of_not_mem hbefore]

/-- The place of an element's style attribute among those of all elements: the number of those
before it. -/
def inlinePlace (fragments : Array Fragment) (key : Key) : Nat :=
  (keysBefore (keysOf fragments) key).countP (hasInline fragments)

/-- The match of the style attribute of the element at a key. -/
def inlineAt? (fragments : Array Fragment) (place : Nat) (key : Key) : Option StyleMatch :=
  (elementAt? fragments key).bind fun e => inlineMatch? e place

theorem isSome_inlineAt? (place : Nat) :
    (inlineAt? fragments place key).isSome = hasInline fragments key := by
  unfold inlineAt? hasInline inlineMatch?
  cases elementAt? fragments key with
  | none => rfl
  | some e => simp

namespace StylePass

/-- What going through the style attributes of some elements has led to. -/
structure Inlined (fragments : Array Fragment) (start : StylePass) (keys : List Key)
    (pass : StylePass) : Prop where
  place : pass.place = start.place + keys.countP (hasInline fragments)
  actions : ∀ key, (pass.slots.on key).actions = (start.slots.on key).actions
  styles : ∀ key, (pass.slots.on key).styles = (start.slots.on key).styles ++
    if key ∈ keys then (inlineAt? fragments
      (start.place + (keysBefore keys key).countP (hasInline fragments)) key).toList else []

variable {start pass : StylePass} {keys : List Key} {next : Key}

theorem inline_eq (fragments : Array Fragment) (pass : StylePass) (next : Key) :
    pass.inline fragments next = match inlineAt? fragments pass.place next with
      | some m => { pass with place := pass.place + 1, slots := pass.slots.addStyle (next, m) }
      | none => pass := rfl

theorem place_inline (fragments : Array Fragment) (pass : StylePass) (next : Key) :
    (pass.inline fragments next).place =
      pass.place + [next].countP (hasInline fragments) := by
  rw [inline_eq, List.countP_singleton, ← isSome_inlineAt? pass.place]
  cases inlineAt? fragments pass.place next with
  | none => rfl
  | some m => rfl

theorem actions_inline (fragments : Array Fragment) (pass : StylePass) (next : Key) :
    ((pass.inline fragments next).slots.on key).actions = (pass.slots.on key).actions := by
  rw [inline_eq]
  cases inlineAt? fragments pass.place next with
  | none => rfl
  | some m => exact Slots.actions_addStyle _ _

theorem styles_inline (fragments : Array Fragment) (pass : StylePass) (next : Key) :
    ((pass.inline fragments next).slots.on key).styles = (pass.slots.on key).styles ++
      if key = next then (inlineAt? fragments pass.place next).toList else [] := by
  rw [inline_eq]
  cases inlineAt? fragments pass.place next with
  | none => simp
  | some m =>
    show ((pass.slots.addStyle (next, m)).on key).styles = _
    rw [Slots.on_addStyle]
    by_cases h : key = next
    · simp [h]
    · simp [h]

theorem Inlined.step (h : Inlined fragments start keys pass) (hnext : next ∉ keys) :
    Inlined fragments start (keys ++ [next]) (pass.inline fragments next) where
  place := by rw [place_inline, h.place, List.countP_append, Nat.add_assoc]
  actions key := by rw [actions_inline, h.actions key]
  styles key := by
    rw [styles_inline, h.styles key, h.place]
    by_cases hkey : key = next
    · subst hkey
      simp [hnext, keysBefore_of_not_mem hnext]
    · by_cases hmem : key ∈ keys
      · simp [hkey, hmem, keysBefore_append hmem]
      · simp [hkey, hmem]

theorem inlined (fragments : Array Fragment) (start : StylePass) (hkeys : keys.Nodup) :
    Inlined fragments start keys (keys.foldl (inline fragments) start) := by
  induction keys using List.reverseRecOn with
  | nil => exact ⟨rfl, fun _ => rfl, fun _ => (List.append_nil _).symm⟩
  | append_singleton keys next ih =>
    obtain ⟨hbefore, -, hdisjoint⟩ := List.nodup_append.mp hkeys
    rw [List.foldl_concat]
    exact (ih hbefore).step fun hmem => hdisjoint next hmem next (by simp) rfl

end StylePass

/-! ## All three passes -/

/-- The places of the actions that are attached to an element. -/
def Document.noted (d : Document) (key : Key) : List Nat := (d.annotation key).actions

/-- What going through actions leads to. -/
def attached (fragments : Array Fragment) (entries : List (String × Action)) : ActionPass :=
  entries.foldl (ActionPass.step fragments (CandidateIndex.build fragments)) {}

/-- What going through rules then leads to. -/
def ruled (fragments : Array Fragment) (entries : List (String × Action))
    (rules : List (String × Rule)) : StylePass :=
  rules.foldl (StylePass.rule fragments) { slots := (attached fragments entries).slots }

/-- What going through the style attributes at last leads to. -/
def styled (fragments : Array Fragment) (entries : List (String × Action))
    (rules : List (String × Rule)) : StylePass :=
  (keysOf fragments).foldl (StylePass.inline fragments) (ruled fragments entries rules)

section Passes

variable (fragments : Array Fragment) (entries : List (String × Action))
  (rules : List (String × Rule)) (key : Key)

theorem ruled_ruled : StylePass.Ruled fragments (attached fragments entries).slots rules
    (ruled fragments entries rules) := StylePass.ruled fragments _ rules

theorem inlined_styled : StylePass.Inlined fragments (ruled fragments entries rules)
    (keysOf fragments) (styled fragments entries rules) :=
  StylePass.inlined fragments _ (nodup_keysOf fragments)

theorem actions_styled : ((styled fragments entries rules).slots.on key).actions =
    ((attached fragments entries).slots.on key).actions :=
  ((inlined_styled fragments entries rules).actions key).trans
    ((ruled_ruled fragments entries rules).actions key)

theorem styles_styled : ((styled fragments entries rules).slots.on key).styles =
    (placed rules).flatMap (·.matchesAt fragments key) ++
      (inlineAt? fragments ((placed rules).length + inlinePlace fragments key) key).toList := by
  have hattached : ((attached fragments entries).slots.on key).styles = [] :=
    ActionPass.styles_foldl fragments _ entries key
  rw [(inlined_styled fragments entries rules).styles key,
    (ruled_ruled fragments entries rules).styles key, (ruled_ruled fragments entries rules).place,
    hattached, List.nil_append, placed, List.length_map, List.length_zipIdx]
  by_cases h : key ∈ keysOf fragments
  · rw [if_pos h]
    rfl
  · have hnone : elementAt? fragments key = none :=
      Option.eq_none_iff_forall_ne_some.mpr fun e he => h (mem_keysOf.mpr ⟨e, he⟩)
    rw [if_neg h, inlineAt?, hnone]
    rfl

end Passes

end AccessAudit
