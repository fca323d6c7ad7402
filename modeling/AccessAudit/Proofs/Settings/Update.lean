import AccessAudit.Proofs.Text.Words
import AccessAudit.Settings

/-!
# Storing a setting

An attempt to store a value at a path goes down section by section and makes those that are missing
before it knows whether it will succeed. It fails where a value stands in the place of a section,
and it breaks down where a number is too large for its new type. In both cases something was there
already all the way down, so nothing was made: only below a section that is new can sections be
missing, and there nothing is in the way (`Assigned.stored_of_nil`).

A value is cast to the type of the one it replaces. The second time it is cast to the type of what
was stored the first time, which may be another one; but casting then changes nothing
(`castLike_castLike`), so storing a value twice is storing it once.
-/

namespace AccessAudit

/-! ## Fields -/

theorem FieldName.same_text_iff {key : FieldName} {name : String} :
    key.same (.text name) = true ↔ key.value = .str name := by
  unfold same
  generalize key.value = v
  show v.same (.str name) = true ↔ _
  cases v <;> simp [Json.same, Json.numeric?]

namespace SettingTree

variable {fields : List (FieldName × SettingTree)} {name other : String} {tree : SettingTree}

theorem find?_cons (key : FieldName) (tree : SettingTree) (rest : List (FieldName × SettingTree))
    (name : FieldName) : find? ((key, tree) :: rest) name =
      if key.same name = true then some tree else find? rest name := by
  unfold find?
  rw [List.find?_cons]
  cases key.same name with
  | true => rfl
  | false => rfl

theorem put_nil (name : FieldName) (tree : SettingTree) : put [] name tree = [(name, tree)] := rfl

theorem put_cons (key : FieldName) (old : SettingTree) (rest : List (FieldName × SettingTree))
    (name : FieldName) (tree : SettingTree) : put ((key, old) :: rest) name tree =
      if key.same name = true then (key, tree) :: rest else (key, old) :: put rest name tree := rfl

theorem find?_put_self (fields : List (FieldName × SettingTree)) (name : String)
    (tree : SettingTree) : find? (put fields (.text name) tree) (.text name) = some tree := by
  induction fields with
  | nil => rw [put_nil, find?_cons, if_pos (FieldName.same_text_iff.mpr rfl)]
  | cons field rest ih =>
    obtain ⟨key, old⟩ := field
    rw [put_cons]
    split
    case isTrue hkey => rw [find?_cons, if_pos hkey]
    case isFalse hkey => rw [find?_cons, if_neg hkey, ih]

theorem find?_put_of_ne (h : other ≠ name) :
    find? (put fields (.text name) tree) (.text other) = find? fields (.text other) := by
  have hapart {key : FieldName} (hkey : key.same (.text name) = true) :
      ¬ key.same (.text other) = true := by
    rw [FieldName.same_text_iff] at hkey ⊢
    rw [hkey]
    intro heq
    cases heq
    exact h rfl
  induction fields with
  | nil => rw [put_nil, find?_cons, if_neg (hapart (FieldName.same_text_iff.mpr rfl))]
  | cons field rest ih =>
    obtain ⟨key, old⟩ := field
    rw [put_cons]
    split
    case isTrue hkey => rw [find?_cons, find?_cons, if_neg (hapart hkey), if_neg (hapart hkey)]
    case isFalse => rw [find?_cons, find?_cons, ih]

theorem put_put (fields : List (FieldName × SettingTree)) (name : String)
    (tree tree' : SettingTree) :
    put (put fields (.text name) tree) (.text name) tree' = put fields (.text name) tree' := by
  induction fields with
  | nil => rw [put_nil, put_cons, if_pos (FieldName.same_text_iff.mpr rfl), put_nil]
  | cons field rest ih =>
    obtain ⟨key, old⟩ := field
    rw [put_cons, put_cons]
    split
    case isTrue hkey => rw [put_cons, if_pos hkey]
    case isFalse hkey => rw [put_cons, if_neg hkey, ih]

/-- Putting back what is there changes nothing. -/
theorem put_of_find? (h : find? fields (.text name) = some tree) :
    put fields (.text name) tree = fields := by
  induction fields with
  | nil => cases h
  | cons field rest ih =>
    obtain ⟨key, old⟩ := field
    rw [find?_cons] at h
    rw [put_cons]
    split
    case isTrue hkey =>
      rw [if_pos hkey] at h
      rw [Option.some.inj h]
    case isFalse hkey =>
      rw [if_neg hkey] at h
      rw [ih h]

end SettingTree

/-! ## Casts -/

/-- A value fits where it is. -/
theorem castLike_ofJson (v : Json) : castLike (.ofJson v) v = .ok (.ofJson v) := by
  cases v <;> rfl

section Casts

variable {v : Json} {current tree : SettingTree}

theorem castInt_done (h : castInt v = .done tree) :
    (∃ n, tree = .leaf (.int n)) ∨ tree = .ofJson v := by
  unfold castInt at h
  split at h
  · cases h
    exact .inr rfl
  · cases h
    exact .inr rfl
  · split at h
    · cases h
    · split at h
      · cases h
        exact .inl ⟨_, rfl⟩
      · cases h
  · split at h
    · cases h
      exact .inl ⟨_, rfl⟩
    · cases h
  · cases h

theorem castFloat_done (h : castFloat v = .done tree) : ∃ x, tree = .leaf (.float x) := by
  unfold castFloat at h
  split at h
  · cases h
    exact ⟨_, rfl⟩
  · cases h
    exact ⟨_, rfl⟩
  · split at h
    · cases h
    · cases h
      exact ⟨_, rfl⟩
  · split at h
    · cases h
      exact ⟨_, rfl⟩
    · cases h
  · cases h

theorem castList_done (h : castList v = .done tree) : ∃ items, tree = .leaf (.arr items) := by
  cases v <;> cases h <;> exact ⟨_, rfl⟩

theorem castSection_done (h : castSection v = .done tree) : ∃ fields, tree = .branch fields := by
  unfold castSection at h
  split at h
  · cases h
    exact ⟨_, rfl⟩
  · split at h
    · cases h
      exact ⟨_, rfl⟩
    · cases h
  · split at h
    · cases h
      exact ⟨_, rfl⟩
    · cases h
  · cases h

/-- What a cast gives is of the type that was asked for, or is the value itself. Either way the
value is cast to it again. -/
theorem castTo_done (h : castTo current v = .done tree) :
    castTo tree v = .done tree ∨ tree = .ofJson v := by
  cases current with
  | branch fields =>
    obtain ⟨fields', rfl⟩ := castSection_done h
    exact .inl h
  | leaf old =>
    cases old with
    | null =>
      cases h
      exact .inr rfl
    | bool b =>
      cases v <;> cases h <;> exact .inl rfl
    | int n =>
      rcases castInt_done h with ⟨n', rfl⟩ | rfl
      · exact .inl h
      · exact .inr rfl
    | float x =>
      obtain ⟨x', rfl⟩ := castFloat_done h
      exact .inl h
    | str s =>
      cases h
      exact .inl rfl
    | arr items =>
      obtain ⟨items', rfl⟩ := castList_done h
      exact .inl h
    | obj fields =>
      obtain ⟨fields', rfl⟩ := castSection_done h
      exact .inl h

theorem castLike_castLike (h : castLike current v = .ok tree) : castLike tree v = .ok tree := by
  unfold castLike at h
  cases hcast : castTo current v with
  | done stored =>
    rw [hcast] at h
    cases h
    rcases castTo_done hcast with hagain | rfl
    · rw [castLike, hagain]
    · exact castLike_ofJson v
  | unfit =>
    rw [hcast] at h
    cases h
    exact castLike_ofJson v
  | tooLarge =>
    rw [hcast] at h
    cases h

end Casts

/-! ## Going down -/

namespace Settings

open SettingTree

variable {fields inner : List (FieldName × SettingTree)} {v : Json} {first next : String}
  {rest parts : List String} {tree : SettingTree}

/-- The section under a name, a new one if nothing is there; none if a value is. -/
def sectionUnder? (fields : List (FieldName × SettingTree)) (name : String) :
    Option (List (FieldName × SettingTree)) :=
  match find? fields (.text name) with
  | none => some []
  | some (.branch inner) => some inner
  | some (.leaf _) => none

theorem sectionUnder?_put (fields inner : List (FieldName × SettingTree)) (name : String) :
    sectionUnder? (put fields (.text name) (.branch inner)) name = some inner := by
  unfold sectionUnder?
  rw [find?_put_self]

theorem get?_cons (fields : List (FieldName × SettingTree)) (part : String)
    (parts : List String) : get? (.branch fields) (part :: parts) =
      (find? fields (.text part)).bind fun tree => get? tree parts := by
  rw [get?]
  cases find? fields (.text part) with
  | none => rfl
  | some tree => rfl

theorem get?_below (fields : List (FieldName × SettingTree)) (first next : String)
    (parts : List String) : get? (.branch fields) (first :: next :: parts) =
      (sectionUnder? fields first).bind fun inner => get? (.branch inner) (next :: parts) := by
  rw [get?_cons]
  unfold sectionUnder?
  cases find? fields (.text first) with
  | none => rfl
  | some old =>
    cases old with
    | leaf w => rfl
    | branch inner => rfl

theorem get?_put_self (fields : List (FieldName × SettingTree)) (first : String)
    (tree : SettingTree) (parts : List String) :
    get? (.branch (put fields (.text first) tree)) (first :: parts) = get? tree parts := by
  rw [get?_cons, find?_put_self, Option.bind_some]

theorem get?_put_of_ne {part : String} (h : part ≠ first) :
    get? (.branch (put fields (.text first) tree)) (part :: parts) =
      get? (.branch fields) (part :: parts) := by
  rw [get?_cons, get?_cons, find?_put_of_ne h]

/-! ## Storing a value -/

/-- What an attempt to store a value comes to. -/
inductive Assigned (v : Json) : List (FieldName × SettingTree) → String → List String →
    Update (List (FieldName × SettingTree)) → Prop where
  | stored {fields : List (FieldName × SettingTree)} {first : String} {tree : SettingTree}
      (cast : castLike ((find? fields (.text first)).getD (.leaf .null)) v = .ok tree) :
      Assigned v fields first [] ⟨put fields (.text first) tree, .ok true⟩
  | broken {fields : List (FieldName × SettingTree)} {first : String} {why : Failure}
      (cast : castLike ((find? fields (.text first)).getD (.leaf .null)) v = .error why) :
      Assigned v fields first [] ⟨fields, .error why⟩
  | blocked {fields : List (FieldName × SettingTree)} {first next : String} {rest : List String}
      (taken : sectionUnder? fields first = none) :
      Assigned v fields first (next :: rest) ⟨fields, .ok false⟩
  | inside {fields inner : List (FieldName × SettingTree)} {first next : String}
      {rest : List String} {done : Update (List (FieldName × SettingTree))}
      (opened : sectionUnder? fields first = some inner)
      (assigned : Assigned v inner next rest done) :
      Assigned v fields first (next :: rest)
        ⟨put fields (.text first) (.branch done.after), done.stored⟩

theorem assigned_assign (v : Json) (fields : List (FieldName × SettingTree)) (first : String)
    (rest : List String) : Assigned v fields first rest (assign v fields first rest) := by
  induction rest generalizing fields first with
  | nil =>
    rw [assign]
    cases cast : castLike ((find? fields (.text first)).getD (.leaf .null)) v with
    | ok tree => exact .stored cast
    | error why => exact .broken cast
  | cons next rest ih =>
    rw [assign, ensure]
    cases hfind : find? fields (.text first) with
    | none =>
      have opened : sectionUnder? fields first = some [] := by
        unfold sectionUnder?
        rw [hfind]
      have hinside := Assigned.inside opened (ih [] next)
      simp only [Option.isSome_none, Bool.false_eq_true, if_false, find?_put_self,
        SettingTree.empty, put_put]
      exact hinside
    | some old =>
      simp only [Option.isSome_some, if_true, hfind]
      cases old with
      | leaf w =>
        have taken : sectionUnder? fields first = none := by
          unfold sectionUnder?
          rw [hfind]
        exact .blocked taken
      | branch inner =>
        have opened : sectionUnder? fields first = some inner := by
          unfold sectionUnder?
          rw [hfind]
        exact .inside opened (ih inner next)

namespace Assigned

variable {done : Update (List (FieldName × SettingTree))}

theorem unique (h : Assigned v fields first rest done)
    {done' : Update (List (FieldName × SettingTree))} (h' : Assigned v fields first rest done') :
    done = done' := by
  induction h generalizing done' with
  | stored cast =>
    cases h' with
    | stored cast' => rw [Except.ok.inj (cast.symm.trans cast')]
    | broken cast' => cases cast.symm.trans cast'
  | broken cast =>
    cases h' with
    | stored cast' => cases cast.symm.trans cast'
    | broken cast' => rw [Except.error.inj (cast.symm.trans cast')]
  | blocked taken =>
    cases h' with
    | blocked => rfl
    | inside opened' => cases taken.symm.trans opened'
  | inside opened _ ih =>
    cases h' with
    | blocked taken' => cases opened.symm.trans taken'
    | inside opened' assigned' =>
      cases opened.symm.trans opened'
      rw [ih assigned']

/-- Nothing is in the way below a section that is new. -/
theorem stored_of_nil (h : Assigned v [] first rest done) : done.stored = .ok true := by
  generalize hnew : ([] : List (FieldName × SettingTree)) = fields at h
  induction h with
  | stored => rfl
  | broken cast =>
    subst hnew
    cases cast
  | blocked taken =>
    subst hnew
    cases taken
  | inside opened _ ih =>
    subst hnew
    cases opened
    exact ih rfl

/-- Where no value is stored, nothing changes. -/
theorem after_of_not_stored (h : Assigned v fields first rest done)
    (failed : done.stored ≠ .ok true) : done.after = fields := by
  induction h with
  | stored => exact absurd rfl failed
  | broken => rfl
  | blocked => rfl
  | @inside fields inner first next rest done opened assigned ih =>
    show put fields (.text first) (.branch done.after) = fields
    rw [ih failed]
    apply put_of_find?
    -- the section is not new, as then the value would have been stored
    unfold sectionUnder? at opened
    cases hfind : find? fields (.text first) with
    | none =>
      rw [hfind] at opened
      cases opened
      exact absurd assigned.stored_of_nil failed
    | some old =>
      rw [hfind] at opened
      cases old with
      | leaf w => cases opened
      | branch old =>
        cases opened
        rfl

/-- A stored value is there afterwards, cast to the type of what was there before. -/
theorem get?_self (h : Assigned v fields first rest done) (success : done.stored = .ok true) :
    ∃ tree, castLike ((get? (.branch fields) (first :: rest)).getD (.leaf .null)) v = .ok tree ∧
      get? (.branch done.after) (first :: rest) = some tree := by
  induction h with
  | @stored fields first tree cast =>
    have hget : get? (.branch fields) [first] = find? fields (.text first) :=
      (get?_cons ..).trans (Option.bind_fun_some _)
    rw [hget]
    exact ⟨tree, cast, get?_put_self ..⟩
  | broken => cases success
  | blocked => cases success
  | inside opened _ ih =>
    rw [get?_below, opened, Option.bind_some, get?_put_self]
    exact ih success

theorem get?_of_ne (h : Assigned v fields first rest done) {part : String} (hne : part ≠ first) :
    get? (.branch done.after) (part :: parts) = get? (.branch fields) (part :: parts) := by
  cases h with
  | stored => exact get?_put_of_ne hne
  | broken => rfl
  | blocked => rfl
  | inside => exact get?_put_of_ne hne

/-- Paths that are neither above nor below lead to what they led to. -/
theorem get?_of_apart (h : Assigned v fields first rest done) (hlong : ¬ first :: rest <+: parts)
    (hshort : ¬ parts <+: first :: rest) :
    get? (.branch done.after) parts = get? (.branch fields) parts := by
  induction h generalizing parts with
  | broken => rfl
  | blocked => rfl
  | @stored fields first tree cast =>
    cases parts with
    | nil => exact absurd List.nil_prefix hshort
    | cons part more =>
      have hpart : part ≠ first := by
        rintro rfl
        exact hlong ⟨more, rfl⟩
      exact get?_put_of_ne hpart
  | @inside fields inner first next rest done opened assigned ih =>
    cases parts with
    | nil => exact absurd List.nil_prefix hshort
    | cons part more =>
      by_cases hpart : part = first
      · subst hpart
        rw [List.cons_prefix_cons, not_and] at hlong hshort
        cases more with
        | nil => exact absurd List.nil_prefix (hshort rfl)
        | cons other more =>
          rw [get?_put_self, get?_below, opened, Option.bind_some]
          exact ih (hlong rfl) (hshort rfl)
      · exact (inside opened assigned).get?_of_ne hpart

/-- A value that is stored again changes nothing. -/
theorem again (h : Assigned v fields first rest done) (success : done.stored = .ok true) :
    Assigned v done.after first rest ⟨done.after, .ok true⟩ := by
  induction h with
  | broken => cases success
  | blocked => cases success
  | @stored fields first tree cast =>
    have hcast : castLike ((find? (put fields (.text first) tree) (.text first)).getD
        (.leaf .null)) v = .ok tree := by
      rw [find?_put_self, Option.getD_some]
      exact castLike_castLike cast
    have hagain := Assigned.stored hcast
    rw [put_put] at hagain
    exact hagain
  | @inside fields inner first next rest done opened assigned ih =>
    have hagain := Assigned.inside (sectionUnder?_put fields done.after first) (ih success)
    rw [put_put] at hagain
    exact hagain

end Assigned

/-! ## Paths -/

/-- The parts of a path that dots divide. -/
def dotted (path : String) : List String := (path.toList.splitOn '.').map String.ofList

theorem parts_split (part cs : List Char) : (SettingPath.split part cs).parts =
    ((cs.splitOn '.').modifyHead (part.reverse ++ ·)).map String.ofList := by
  induction cs generalizing part with
  | nil => simp [SettingPath.split, SettingPath.parts]
  | cons c cs ih =>
    rw [SettingPath.split, Text.modifyHead_splitOn_cons]
    split
    · show String.ofList part.reverse :: (SettingPath.split [] cs).parts = _
      rw [ih [], Text.modifyHead_splitOn_nil, List.map_cons]
    · exact ih (c :: part)

theorem parts_ofText (path : String) : (SettingPath.ofText path).parts = dotted path := by
  rw [SettingPath.ofText, parts_split, Text.modifyHead_splitOn_nil, dotted]

/-! ## The whole store -/

/-- The value of a tree, or a default in the place of null. -/
def orDefault : SettingTree → Json → Json
  | .leaf .null, default => default
  | tree, _ => tree.toJson

theorem get_eq (settings : SettingTree) (path : SettingPath) (default : Json) :
    get settings path default =
      ((get? settings path.parts).map fun tree => orDefault tree default).getD default := by
  unfold get given?
  cases get? settings path.parts with
  | none => rfl
  | some tree =>
    cases tree with
    | branch fields => rfl
    | leaf w => cases w <;> rfl

theorem castLike_eq_ok_iff {current tree : SettingTree} : castLike current v = .ok tree ↔
    castTo current v = .done tree ∨ castTo current v = .unfit ∧ tree = .ofJson v := by
  unfold castLike
  cases castTo current v with
  | done stored => simp
  | unfit => simp [eq_comm]
  | tooLarge => simp

section Update

variable {settings : SettingTree} {p : SettingPath}

theorem not_stored_leaf (w : Json) (p : SettingPath) (v : Json) :
    (update (.leaf w) p v).stored ≠ .ok true := by
  cases w with
  | null =>
    show (if p.rest.isEmpty then Except.ok false
      else Except.error (Failure.noSections Json.null.kind)) ≠ .ok true
    split
    · simp
    · simp
  | _ => simp [update]

theorem after_update_leaf (w : Json) (p : SettingPath) (v : Json) :
    (update (.leaf w) p v).after = .leaf w := by
  cases w <;> rfl

/-- Unless a value is stored, the settings are as before. -/
theorem after_update_of_not_stored (h : (update settings p v).stored ≠ .ok true) :
    (update settings p v).after = settings := by
  cases settings with
  | leaf w => exact after_update_leaf w p v
  | branch fields => exact congrArg SettingTree.branch ((assigned_assign ..).after_of_not_stored h)

theorem get?_update (h : (update settings p v).stored = .ok true) :
    ∃ tree, castLike ((get? settings p.parts).getD (.leaf .null)) v = .ok tree ∧
      get? (update settings p v).after p.parts = some tree := by
  cases settings with
  | leaf w => exact absurd h (not_stored_leaf w p v)
  | branch fields => exact (assigned_assign v fields p.first p.rest).get?_self h

theorem get?_update_of_apart (h : ¬ p.parts <+: parts) (h' : ¬ parts <+: p.parts) :
    get? (update settings p v).after parts = get? settings parts := by
  cases settings with
  | leaf w => rw [after_update_leaf]
  | branch fields => exact (assigned_assign v fields p.first p.rest).get?_of_apart h h'

theorem update_update (h : (update settings p v).stored = .ok true) :
    update (update settings p v).after p v = ⟨(update settings p v).after, .ok true⟩ := by
  cases settings with
  | leaf w => exact absurd h (not_stored_leaf w p v)
  | branch fields =>
    show (⟨.branch (assign v (assign v fields p.first p.rest).after p.first p.rest).after,
      (assign v (assign v fields p.first p.rest).after p.first p.rest).stored⟩ : Update SettingTree)
        = ⟨.branch (assign v fields p.first p.rest).after, .ok true⟩
    have hagain := (assigned_assign v fields p.first p.rest).again h
    rw [(assigned_assign ..).unique hagain]

end Update

/-- **Storing a value is exact, all or nothing, and the same when done twice.** Unless the value is
stored the settings are as before, with no section made. If it is, the path leads to it, cast to the
type of what was there or else as it came; paths that are neither above nor below lead to what they
led to; and storing it once more changes nothing. -/
theorem update_exact (settings : SettingTree) (path : String) (v : Json) :
    ((update settings (.ofText path) v).stored ≠ .ok true →
      (update settings (.ofText path) v).after = settings) ∧
    ((update settings (.ofText path) v).stored = .ok true →
      (∃ current tree, current = (get? settings (dotted path)).getD (.leaf .null) ∧
        (castTo current v = .done tree ∨ castTo current v = .unfit ∧ tree = .ofJson v) ∧
        ∀ default, get (update settings (.ofText path) v).after (.ofText path) default =
          orDefault tree default) ∧
      (∀ other, ¬ dotted path <+: dotted other → ¬ dotted other <+: dotted path →
        ∀ default, get (update settings (.ofText path) v).after (.ofText other) default =
          get settings (.ofText other) default) ∧
      update (update settings (.ofText path) v).after (.ofText path) v =
        ⟨(update settings (.ofText path) v).after, .ok true⟩) := by
  refine ⟨after_update_of_not_stored, fun h => ⟨?_, ?_, update_update h⟩⟩
  · obtain ⟨tree, hcast, hget⟩ := get?_update h
    rw [parts_ofText] at hcast
    refine ⟨_, tree, rfl, castLike_eq_ok_iff.mp hcast, fun default => ?_⟩
    rw [get_eq, hget]
    rfl
  · intro other hlong hshort default
    rw [← parts_ofText path, ← parts_ofText other] at hlong hshort
    rw [get_eq, get_eq, get?_update_of_apart hlong hshort]

/-- Settings with one limit in a section. -/
def oneLimit : SettingTree := .branch [(.text "fuzzy", .branch [(.text "limit", .leaf (.int 3))])]

theorem update_exact_oneLimit :
    (update oneLimit (.ofText "fuzzy.limit.least") (.int 1)).after = oneLimit ∧
      update (update oneLimit (.ofText "fuzzy.limit") (.str "5")).after (.ofText "fuzzy.limit")
        (.str "5") = ⟨(update oneLimit (.ofText "fuzzy.limit") (.str "5")).after, .ok true⟩ ∧
      get (update oneLimit (.ofText "fuzzy.limit") (.str "5")).after (.ofText "fuzzy.name") .null =
        get oneLimit (.ofText "fuzzy.name") .null := by
  have hfails : (update oneLimit (.ofText "fuzzy.limit.least") (.int 1)).stored = .ok false := by
    have hpath : SettingPath.ofText "fuzzy.limit.least" = ⟨"fuzzy", ["limit", "least"]⟩ := by
      decide
    rw [hpath]
    rfl
  have hstores : (update oneLimit (.ofText "fuzzy.limit") (.str "5")).stored = .ok true := by
    have hpath : SettingPath.ofText "fuzzy.limit" = ⟨"fuzzy", ["limit"]⟩ := by decide
    rw [hpath]
    rfl
  have hlimit := (update_exact oneLimit "fuzzy.limit" (.str "5")).2 hstores
  refine ⟨(update_exact oneLimit "fuzzy.limit.least" (.int 1)).1 ?_, hlimit.2.2,
    hlimit.2.1 "fuzzy.name" (by decide) (by decide) .null⟩
  rw [hfails]
  simp

end Settings

end AccessAudit
