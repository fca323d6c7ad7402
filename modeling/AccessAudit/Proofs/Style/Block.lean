import AccessAudit.Proofs.Style.Cascade
import AccessAudit.Proofs.Text.Normal
import Mathlib.Data.List.TakeWhile

/-!
# Declaration blocks

A block is read piece by piece, and a later declaration of a property replaces an earlier one unless
only the earlier one is important. So a block that is put together from two is the second laid over
the first, property by property (`parse_append`). `Overlays` says what that means; one declaration
taken in on both sides keeps it, and the rest is a fold over the pieces.

What is read has a form of its own (`Tidy`): names are in small letters and occur once, and a value
that still ends with `!important`, having ended with it twice, is important already. That is why
making a rule of a block takes nothing away from it but a second mark of importance
(`normalizeProperties_of_tidy`).
-/

namespace AccessAudit

open Text

/-! ## Entries -/

namespace Entries

variable {α β : Type}

theorem get?_cons (name : String) (value : α) (rest : Entries α) (p : String) :
    Entries.get? ((name, value) :: rest) p = if p = name then some value else rest.get? p := by
  unfold Entries.get?
  rw [List.lookup_cons]
  by_cases h : p = name
  · simp [h]
  · simp [h, beq_eq_false_iff_ne.mpr h]

theorem get?_put (entries : Entries α) (name p : String) (value : α) :
    (entries.put name value).get? p = if p = name then some value else entries.get? p := by
  induction entries with
  | nil => exact get?_cons name value [] p
  | cons entry rest ih =>
    obtain ⟨key, old⟩ := entry
    rw [put]
    by_cases hkey : key == name
    · rw [if_pos hkey, get?_cons, get?_cons, eq_of_beq hkey]
      split <;> rfl
    · have hne : key ≠ name := fun heq => hkey (beq_iff_eq.mpr heq)
      rw [if_neg hkey, get?_cons, get?_cons, ih]
      by_cases hp : p = key
      · simp [hp, hne]
      · simp [hp]

theorem names_put (entries : Entries α) (name : String) (value : α) :
    (entries.put name value).names =
      if name ∈ entries.names then entries.names else entries.names ++ [name] := by
  induction entries with
  | nil => rfl
  | cons entry rest ih =>
    obtain ⟨key, old⟩ := entry
    rw [put]
    by_cases hkey : key == name
    · rw [if_pos hkey]
      simp [names, eq_of_beq hkey]
    · have hne : name ≠ key := fun heq => hkey (beq_iff_eq.mpr heq.symm)
      rw [if_neg hkey]
      simp only [names, List.map_cons] at ih ⊢
      rw [ih]
      by_cases hmem : name ∈ rest.map Prod.fst
      · simp [hmem]
      · simp [hmem, hne]

theorem put_of_not_mem {entries : Entries α} {name : String} (h : name ∉ entries.names)
    (value : α) :
    entries.put name value = entries ++ [(name, value)] := by
  induction entries with
  | nil => rfl
  | cons entry rest ih =>
    obtain ⟨key, old⟩ := entry
    obtain ⟨hkey, hrest⟩ := not_or.mp (fun hor => h (List.mem_cons.mpr hor))
    have hne : (key == name) = false := beq_eq_false_iff_ne.mpr (Ne.symm hkey)
    rw [put, hne, if_neg Bool.false_ne_true, ih hrest]
    rfl

theorem get?_map (entries : Entries α) (g : α → β) (p : String) :
    Entries.get? (entries.map fun entry => (entry.1, g entry.2)) p = (entries.get? p).map g := by
  induction entries with
  | nil => rfl
  | cons entry rest ih =>
    rw [List.map_cons, get?_cons, get?_cons, ih]
    split <;> rfl

theorem get?_of_mem {entries : Entries α} (h : entries.names.Nodup) {entry : String × α}
    (hentry : entry ∈ entries) : entries.get? entry.1 = some entry.2 := by
  induction entries with
  | nil => cases hentry
  | cons first rest ih =>
    obtain ⟨hfirst, hrest⟩ := List.nodup_cons.mp h
    rw [get?_cons]
    rcases List.mem_cons.mp hentry with rfl | hentry
    · rw [if_pos rfl]
    · have hne : entry.1 ≠ first.1 := fun heq => hfirst (heq ▸ List.mem_map_of_mem hentry)
      rw [if_neg hne]
      exact ih hrest hentry

end Entries

theorem Rule.addProperty_eq (done : Entries String × List String) (name value : String) :
    Rule.addProperty done name value =
      (done.1.put (Text.normalize name) (Declaration.readValue value).1,
        if (Declaration.readValue value).2 && !done.2.contains (Text.normalize name) then
          done.2 ++ [Text.normalize name] else done.2) := by
  unfold Rule.addProperty
  generalize Declaration.readValue value = read
  rfl

namespace Declarations

variable {d front back whole : Declarations} {p name value : String} {important : Bool}

/-! ## One declaration -/

theorem get?_add (d : Declarations) (name value : String) (important : Bool) (p : String) :
    (d.add name value important).properties.get? p =
      if p = name ∧ (name ∈ d.important → important = true) then some value
      else d.properties.get? p := by
  unfold add
  by_cases hkeeps : d.important.contains name && !important
  · obtain ⟨hname, hplain⟩ := Bool.and_eq_true_iff.mp hkeeps
    have hnot : ¬ (name ∈ d.important → important = true) := by
      intro h
      rw [h (List.contains_iff_mem.mp hname)] at hplain
      cases hplain
    rw [if_pos hkeeps, if_neg fun h => hnot h.2]
  · have htakes : name ∈ d.important → important = true := by
      intro hname
      cases important with
      | true => rfl
      | false => exact absurd (by simp [hname]) hkeeps
    rw [if_neg hkeeps, Entries.get?_put]
    simp only [and_iff_left htakes]

theorem mem_important_add : p ∈ (d.add name value important).important ↔
    p ∈ d.important ∨ p = name ∧ important = true := by
  unfold add
  by_cases hname : name ∈ d.important
  · cases important with
    | false => simp [hname]
    | true =>
      have hsame : p = name → p ∈ d.important := fun heq => heq ▸ hname
      simpa [hname] using hsame
  · cases important with
    | false => simp [hname]
    | true => simp [hname]

/-- One block laid over another. -/
structure Overlays (front back whole : Declarations) : Prop where
  important : ∀ p, p ∈ whole.important ↔ p ∈ front.important ∨ p ∈ back.important
  value : ∀ p, whole.properties.get? p =
    if p ∈ front.important ∧ p ∉ back.important then front.properties.get? p
    else (back.properties.get? p).or (front.properties.get? p)

theorem Overlays.empty (d : Declarations) : d.Overlays {} d where
  important p := by simp
  value p := by
    have hnone : Entries.get? (Declarations.properties {}) p = none := rfl
    simp [hnone]

/-- A declaration that is taken in behind keeps one block laid over the other. -/
theorem Overlays.add (h : front.Overlays back whole) (name value : String) (important : Bool) :
    front.Overlays (back.add name value important) (whole.add name value important) where
  important p := by
    rw [mem_important_add, mem_important_add, h.important]
    tauto
  value p := by
    have hvalue := h.value p
    have himportant := h.important name
    rw [get?_add, get?_add, hvalue]
    by_cases hp : p = name
    · subst hp
      cases important with
      | true => simp [mem_important_add]
      | false =>
        -- an unimportant declaration counts in front of no important one, on either side
        by_cases hback : p ∈ back.important
        · simp [himportant, hback, mem_important_add]
        · by_cases hfront : p ∈ front.important
          · simp [himportant, hback, hfront, mem_important_add]
          · simp [himportant, hback, hfront, mem_important_add]
    · simp [hp, mem_important_add]

/-! ## Pieces -/

/-- What a piece declares: a name, a value and whether it is important. -/
def readPiece? (piece : List Char) : Option (String × String × Bool) :=
  match piece.dropWhile (· != ':') with
  | [] => none
  | _ :: value =>
    let name := String.ofList (lowerChars (trim (piece.takeWhile (· != ':'))))
    if name.isEmpty then none
    else
      let (text, important) := Declaration.splitImportant value
      some (name, String.ofList text, important)

theorem addPiece_eq (d : Declarations) (piece : List Char) :
    d.addPiece piece = match readPiece? piece with
      | some (name, value, important) => d.add name value important
      | none => d := by
  unfold addPiece readPiece?
  cases piece.dropWhile (· != ':') with
  | nil => rfl
  | cons colon value =>
    dsimp only
    split <;> rfl

theorem piecesFrom_append (current cs ds : List Char) :
    piecesFrom current (cs ++ ';' :: ds) = piecesFrom current cs ++ piecesFrom [] ds := by
  induction cs generalizing current with
  | nil => simp [piecesFrom]
  | cons c rest ih =>
    rw [List.cons_append, piecesFrom, piecesFrom]
    split
    · rw [ih]
      rfl
    · exact ih (c :: current)

theorem Overlays.foldl (h : front.Overlays back whole) (pieces : List (List Char)) :
    front.Overlays (pieces.foldl addPiece back) (pieces.foldl addPiece whole) := by
  induction pieces generalizing back whole with
  | nil => exact h
  | cons piece rest ih =>
    rw [List.foldl_cons, List.foldl_cons]
    apply ih
    rw [addPiece_eq, addPiece_eq]
    cases readPiece? piece with
    | none => exact h
    | some entry => exact h.add entry.1 entry.2.1 entry.2.2

/-- A block put together from two is the second laid over the first. -/
theorem parse_append (text text' : String) :
    (parse text).Overlays (parse text') (parse (text ++ ";" ++ text')) := by
  have hpieces : piecesFrom [] (text ++ ";" ++ text').toList =
      piecesFrom [] text.toList ++ piecesFrom [] text'.toList := by
    rw [← piecesFrom_append]
    simp
  unfold parse
  rw [hpieces, List.foldl_append]
  exact (Overlays.empty _).foldl _

theorem piecesFrom_of_not_mem {current cs : List Char} (h : ';' ∉ cs) :
    piecesFrom current cs = [current.reverse ++ cs] := by
  induction cs generalizing current with
  | nil => simp [piecesFrom]
  | cons c rest ih =>
    have hne : (c == ';') = false := beq_eq_false_iff_ne.mpr (List.ne_of_not_mem_cons h).symm
    rw [piecesFrom, hne, if_neg Bool.false_ne_true, ih (List.not_mem_of_not_mem_cons h)]
    simp

/-- A blank text declares nothing. -/
theorem parse_blank {text : String} (h : isBlankText text = true) : parse text = {} := by
  have hblank : ∀ c ∈ text.toList, isBlank c = true := List.all_eq_true.mp h
  have hsemicolon : ';' ∉ text.toList := fun hmem => absurd (hblank _ hmem) (by decide)
  have hcolon : text.toList.dropWhile (· != ':') = [] := by
    rw [List.dropWhile_eq_nil_iff]
    intro c hc
    have hne : c ≠ ':' := by
      rintro rfl
      exact absurd (hblank _ hc) (by decide)
    exact bne_iff_ne.mpr hne
  rw [parse, piecesFrom_of_not_mem hsemicolon]
  simp [addPiece, hcolon]

/-! ## The form of what was read -/

/-- A value that is not important has no mark left. -/
theorem splitImportant_of_plain {cs text : List Char}
    (h : Declaration.splitImportant cs = (text, false)) :
    Declaration.splitImportant text = (text, false) := by
  have htext : text = trim cs := by
    unfold Declaration.splitImportant at h
    dsimp only at h
    split at h
    · split at h
      · cases h
      · cases h
        rfl
    · cases h
      rfl
  subst htext
  rw [← h]
  unfold Declaration.splitImportant
  rw [trim_trim]

theorem readPiece?_eq_some {piece : List Char}
    (h : readPiece? piece = some (name, value, important)) :
    normalize name = name ∧ (important = false → (Declaration.readValue value).2 = false) := by
  unfold readPiece? at h
  split at h
  · cases h
  · dsimp only at h
    split at h
    · cases h
    · cases hvalue : Declaration.splitImportant _ with
      | mk text flag =>
        rw [hvalue] at h
        cases h
        constructor
        · have hname : String.ofList (lowerChars (trim (piece.takeWhile (· != ':')))) =
              normalize (String.ofList (piece.takeWhile (· != ':'))) := by
            simp [Text.normalize, lower, strip]
          rw [hname, normalize_normalize]
        · rintro rfl
          simp [Declaration.readValue, splitImportant_of_plain hvalue]

/-- Names are in their usual form and occur once, and so do the important ones among them; a value
that ends with a mark of importance is important. -/
structure Tidy (d : Declarations) : Prop where
  names : d.properties.names.Nodup
  importantNames : d.important.Nodup
  declared : ∀ p ∈ d.important, p ∈ d.properties.names
  normal : ∀ p ∈ d.properties.names, normalize p = p
  marked : ∀ p value, d.properties.get? p = some value →
    (Declaration.readValue value).2 = true → p ∈ d.important

theorem Tidy.empty : Tidy {} where
  names := List.nodup_nil
  importantNames := List.nodup_nil
  declared := nofun
  normal := nofun
  marked := nofun

theorem names_add (d : Declarations) (name value : String) (important : Bool) :
    (d.add name value important).properties.names = d.properties.names ∨
      (d.add name value important).properties.names = d.properties.names ++ [name] ∧
        name ∉ d.properties.names := by
  unfold add
  split
  · exact .inl rfl
  · rw [Entries.names_put]
    by_cases hmem : name ∈ d.properties.names
    · exact .inl (if_pos hmem)
    · exact .inr ⟨if_neg hmem, hmem⟩

theorem nodup_important_add (h : d.important.Nodup) (name value : String) (important : Bool) :
    (d.add name value important).important.Nodup := by
  unfold add
  split
  · exact h
  · dsimp only
    split
    case isTrue hnew =>
      have hnot : name ∉ d.important := by
        simpa using (Bool.and_eq_true_iff.mp hnew).2
      exact List.nodup_append.mpr ⟨h, List.nodup_singleton name, fun a ha b hb => by
        rintro rfl
        exact hnot (List.mem_singleton.mp hb ▸ ha)⟩
    case isFalse => exact h

theorem Tidy.add (h : d.Tidy) (hnormal : normalize name = name)
    (hplain : important = false → (Declaration.readValue value).2 = false) :
    (d.add name value important).Tidy where
  names := by
    rcases names_add d name value important with heq | ⟨heq, hnot⟩
    · rw [heq]
      exact h.names
    · rw [heq, List.nodup_append]
      refine ⟨h.names, List.nodup_singleton name, fun a ha b hb => ?_⟩
      rintro rfl
      exact hnot (List.mem_singleton.mp hb ▸ ha)
  importantNames := nodup_important_add h.importantNames name value important
  declared := by
    intro p hp
    rw [Entries.mem_names_iff]
    rw [mem_important_add] at hp
    rw [get?_add]
    split
    · exact ⟨value, rfl⟩
    case isFalse hold =>
      rcases hp with hp | ⟨rfl, rfl⟩
      · exact Entries.mem_names_iff.mp (h.declared p hp)
      · exact absurd ⟨rfl, fun _ => rfl⟩ hold
  normal := by
    intro p hp
    rcases names_add d name value important with heq | ⟨heq, -⟩
    · exact h.normal p (heq ▸ hp)
    · rw [heq, List.mem_append, List.mem_singleton] at hp
      rcases hp with hp | rfl
      · exact h.normal p hp
      · exact hnormal
  marked := by
    intro p value' hvalue hmark
    rw [get?_add] at hvalue
    rw [mem_important_add]
    split at hvalue
    case isTrue hnew =>
      cases hvalue
      cases important with
      | true => exact .inr ⟨hnew.1, rfl⟩
      | false =>
        rw [hplain rfl] at hmark
        cases hmark
    case isFalse => exact .inl (h.marked p value' hvalue hmark)

theorem Tidy.foldl (h : d.Tidy) (pieces : List (List Char)) : (pieces.foldl addPiece d).Tidy := by
  induction pieces generalizing d with
  | nil => exact h
  | cons piece rest ih =>
    rw [List.foldl_cons]
    apply ih
    rw [addPiece_eq]
    cases hpiece : readPiece? piece with
    | none => exact h
    | some entry =>
      obtain ⟨hnormal, hplain⟩ := readPiece?_eq_some hpiece
      exact h.add hnormal hplain

theorem parse_tidy (text : String) : (parse text).Tidy := Tidy.empty.foldl _

/-! ## Making a rule of a block -/

/-- The values of a block without a second mark of importance. -/
def settled (d : Declarations) : Entries String :=
  d.properties.map fun entry => (entry.1, (Declaration.readValue entry.2).1)

theorem get?_settled (d : Declarations) (p : String) :
    d.settled.get? p = (d.properties.get? p).map fun value => (Declaration.readValue value).1 :=
  Entries.get?_map d.properties (fun value => (Declaration.readValue value).1) p

/-- The block with the values that a rule made of it has. -/
def settle (d : Declarations) : Declarations := { d with properties := d.settled }

theorem Overlays.settle (h : front.Overlays back whole) :
    front.settle.Overlays back.settle whole.settle where
  important := h.important
  value := by
    intro p
    show whole.settled.get? p =
      if p ∈ front.important ∧ p ∉ back.important then front.settled.get? p
      else (back.settled.get? p).or (front.settled.get? p)
    rw [get?_settled, get?_settled, get?_settled, h.value p]
    split
    · rfl
    · rw [Option.map_or]

theorem Tidy.declared_settle (h : d.Tidy) :
    ∀ p ∈ d.settle.important, p ∈ d.settle.properties.names := by
  intro p hp
  obtain ⟨value, hvalue⟩ := Entries.mem_names_iff.mp (h.declared p hp)
  rw [Entries.mem_names_iff]
  refine ⟨(Declaration.readValue value).1, ?_⟩
  rw [settle, get?_settled, hvalue, Option.map_some]

theorem foldl_addProperty {important : List String} (rest done : Entries String)
    (hnames : (done.names ++ rest.names).Nodup) (hnormal : ∀ p ∈ rest.names, normalize p = p)
    (hmarked : ∀ entry ∈ rest, (Declaration.readValue entry.2).2 = true → entry.1 ∈ important) :
    rest.foldl (fun done entry => Rule.addProperty done entry.1 entry.2) (done, important) =
      (done ++ rest.map fun entry => (entry.1, (Declaration.readValue entry.2).1), important) := by
  induction rest generalizing done with
  | nil => simp
  | cons entry rest ih =>
    obtain ⟨name, value⟩ := entry
    have hfresh : name ∉ done.names := by
      intro hmem
      exact (List.nodup_append.mp hnames).2.2 name hmem name List.mem_cons_self rfl
    have hstep : Rule.addProperty (done, important) name value =
        (done ++ [(name, (Declaration.readValue value).1)], important) := by
      have hkept : ((Declaration.readValue value).2 && !important.contains name) = false := by
        by_cases hmark : (Declaration.readValue value).2 = true
        · simp [hmarked (name, value) List.mem_cons_self hmark]
        · simp [hmark]
      rw [Rule.addProperty_eq, hnormal name List.mem_cons_self, Entries.put_of_not_mem hfresh,
        hkept]
      rfl
    rw [List.foldl_cons, hstep, ih]
    · simp
    · simpa [Entries.names] using hnames
    · exact fun p hp => hnormal p (List.mem_cons_of_mem _ hp)
    · exact fun entry hentry => hmarked entry (List.mem_cons_of_mem _ hentry)

theorem normalizeProperties_of_tidy (h : d.Tidy) :
    Rule.normalizeProperties d.properties d.important = (d.settled, d.important) := by
  have hmarked : ∀ entry ∈ d.properties, (Declaration.readValue entry.2).2 = true →
      entry.1 ∈ d.important := by
    intro entry hentry hmark
    exact h.marked entry.1 entry.2 (Entries.get?_of_mem h.names hentry) hmark
  exact foldl_addProperty d.properties [] h.names h.normal hmarked

end Declarations

end AccessAudit
