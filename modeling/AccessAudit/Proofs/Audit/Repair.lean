import AccessAudit.Proofs.Audit.Suggestion
import AccessAudit.Proofs.Document.Writing
import AccessAudit.Proofs.Text.Words

/-!
# Repairing a reference

For a reference to an id that does not exist, the fix writes the attribute anew, with the closest
known id in the place of the missing one. The suggestion is an id of the document, so it leads to an
element. Whether the new value refers to that element is another matter: the value is read word by
word, and an id may have blanks inside.

`fix_repairs` says what comes of it. In the new value the words of the suggestion stand in the place
of the missing id, and the other words are as they were. If there is no blank in the suggestion, and
only then, this is the replacement of one id by another; the document with the new value then has
the references it had, with those to the missing id led to the suggested element. `fix_splits_id` is
a fix that names two ids, neither of which exists, because the suggestion has a blank in it.
-/

namespace AccessAudit

open Text

theorem flatMap_eq_map {α β : Type} {l : List α} {f : α → List β} {g : α → β}
    (h : ∀ a ∈ l, f a = [g a]) : l.flatMap f = l.map g := by
  rw [List.flatMap_congr h]
  exact List.flatMap_pure_eq_map g l

namespace Integrity

/-! ## The words of the new value -/

section Words

variable {value old new : String}

theorem words_replaceWord (value old new : String) : words (replaceWord value old new) =
    (words value).flatMap fun word => if word = old then words new else [word] := by
  unfold replaceWord
  rw [words_intercalate, List.flatMap_map]
  apply List.flatMap_congr
  intro word hword
  by_cases h : word = old
  · simp [h]
  · simp [h, words_of_mem_words hword]

/-- One word is replaced by one word exactly when there is no blank in the new one. -/
theorem words_replaceWord_eq_map_iff (hold : old ∈ words value) (hnew : new ≠ "") :
    words (replaceWord value old new) =
        (words value).map (fun word => if word = old then new else word) ↔
      ∀ c ∈ new.toList, isBlank c = false := by
  constructor
  · intro h
    -- the new word is then among the words of a text, and these have no blanks
    have hmem : new ∈ words (replaceWord value old new) := by
      rw [h]
      exact List.mem_map.mpr ⟨old, hold, if_pos rfl⟩
    exact (not_blank_of_mem_words hmem).2
  · intro h
    rw [words_replaceWord]
    apply flatMap_eq_map
    intro word _
    by_cases hword : word = old
    · simp [hword, words_of_not_blank hnew h]
    · simp [hword]

theorem not_mem_words_replaceWord (hne : new ≠ old) (hnew : new ≠ "")
    (h : ∀ c ∈ new.toList, isBlank c = false) : old ∉ words (replaceWord value old new) := by
  rw [words_replaceWord, words_of_not_blank hnew h]
  intro hmem
  obtain ⟨word, -, hword⟩ := List.mem_flatMap.mp hmem
  by_cases heq : word = old
  · rw [if_pos heq] at hword
    exact hne (List.mem_singleton.mp hword).symm
  · rw [if_neg heq] at hword
    exact heq (List.mem_singleton.mp hword).symm

end Words

/-! ## The references of the new value -/

/-- Two references are the same id in the same attribute, which may list it more than once. -/
def Repeats (s r : Reference) : Prop := s.source = r.source ∧ s.name = r.name ∧ s.id = r.id

instance (s r : Reference) : Decidable (Repeats s r) := inferInstanceAs (Decidable (_ ∧ _ ∧ _))

section References

variable {config : Config} {inputs : List FragmentInput} {scripts : List Script}
  {sheets : List StyleSheet} {scope : Json} {r : Reference}

theorem reading_of_mem_references (hr : r ∈ (merge config inputs scripts sheets scope).references) :
    r.name ∈ referenceAttributes ∧
      r.id ∈ words ((merge config inputs scripts sheets scope).valueOf r.source r.name) := by
  rw [references_eq_readings] at hr
  obtain ⟨key, -, hr⟩ := List.mem_flatMap.mp hr
  obtain ⟨name, hname, hr⟩ := List.mem_flatMap.mp hr
  obtain ⟨id, hid, rfl⟩ := List.mem_map.mp hr
  exact ⟨hname, hid⟩

theorem name_ne_id (hname : r.name ∈ referenceAttributes) : r.name ≠ "id" := by
  intro heq
  rw [heq] at hname
  exact absurd hname (by decide)

/-- With an id replaced in an attribute, its references are replaced by those to the words of what
is put there, and all others are kept. -/
theorem references_replaceWord (hname : r.name ∈ referenceAttributes) (best : String) :
    let d := merge config inputs scripts sheets scope
    (merge config (d.write r.source r.name (replaceWord (d.valueOf r.source r.name) r.id best))
        scripts sheets scope).references =
      d.references.flatMap fun s =>
        if Repeats s r then (words best).map (d.reading r.source r.name) else [s] := by
  intro d
  have hreadings : d.references = d.keys.flatMap fun key => referenceAttributes.flatMap fun name =>
      (words (d.valueOf key name)).map (d.reading key name) := references_eq_readings
  rw [references_write d _ (name_ne_id hname), hreadings, List.flatMap_assoc]
  apply List.flatMap_congr
  intro key _
  rw [List.flatMap_assoc]
  apply List.flatMap_congr
  intro name _
  rw [List.flatMap_map]
  by_cases hhere : key = r.source ∧ name = r.name
  · obtain ⟨rfl, rfl⟩ := hhere
    rw [if_pos ⟨rfl, rfl⟩, words_replaceWord, List.map_flatMap]
    apply List.flatMap_congr
    intro id _
    by_cases hid : id = r.id
    · simp [hid, Repeats, Document.reading]
    · simp [hid, Repeats, Document.reading]
  · rw [if_neg hhere]
    symm
    apply flatMap_eq_map
    intro id _
    exact if_neg fun h => hhere ⟨h.1, h.2.1⟩

end References

/-! ## The fix -/

/-- What is found for a reference that leads nowhere. -/
def declaredFinding (d : Document) (context : AnalysisContext) (r : Reference) : Finding :=
  missingReference d context r.source r.name r.id (d.valueOf r.source r.name) "" (d.spotOf r.source)
    []

theorem fix_of_declaredFinding {d : Document} {context : AnalysisContext} {r : Reference}
    {fix : Fix} (h : (declaredFinding d context r).fix = some fix) :
    ∃ best, suggestion? d context r.id = some best ∧ fix.name = some r.name ∧
      fix.value = some (replaceWord (d.valueOf r.source r.name) r.id best) := by
  obtain ⟨best, hbest, rfl⟩ := Option.map_eq_some_iff.mp h
  exact ⟨best, hbest, rfl, rfl⟩

/-- The fix for a reference to a missing id writes the attribute with the words of a known id in the
place of the missing one. These words are that one id exactly when there is no blank in it. Then the
missing id is gone from the attribute, its references lead to the element with the known id, and all
other references of the document stay as they are. -/
theorem fix_repairs (config : Config) (inputs : List FragmentInput) (scripts : List Script)
    (sheets : List StyleSheet) (scope : Json) (context : AnalysisContext) :
    let d := merge config inputs scripts sheets scope
    checkDeclared d context =
      (d.references.filter (·.target.isNone)).map (declaredFinding d context) ∧
    ∀ r ∈ d.references, r.target = none → ∀ fix, (declaredFinding d context r).fix = some fix →
      ∃ best value key, fix.name = some r.name ∧ fix.value = some value ∧
        d.elementById? best = some key ∧ best ≠ r.id ∧
        words value = (words (d.valueOf r.source r.name)).flatMap
          (fun word => if word = r.id then words best else [word]) ∧
        (words value = (words (d.valueOf r.source r.name)).map
            (fun word => if word = r.id then best else word) ↔
          ∀ c ∈ best.toList, isBlank c = false) ∧
        ((∀ c ∈ best.toList, isBlank c = false) → r.id ∉ words value ∧
          (merge config (d.write r.source r.name value) scripts sheets scope).references =
            d.references.map fun s =>
              if Repeats s r then { s with id := best, target := some key } else s) := by
  intro d
  refine ⟨rfl, ?_⟩
  intro r hr _ fix hfix
  obtain ⟨best, hbest, hname, hvalue⟩ := fix_of_declaredFinding hfix
  obtain ⟨hne, key, -, hkey, hid⟩ := suggestion?_spec hbest
  obtain ⟨hattribute, hword⟩ := reading_of_mem_references hr
  have hnonempty : best ≠ "" := (Element.id?_spec hid).1
  refine ⟨best, _, key, hname, hvalue, hkey, hne, words_replaceWord _ _ _,
    words_replaceWord_eq_map_iff hword hnonempty, ?_⟩
  intro hblank
  refine ⟨not_mem_words_replaceWord hne hnonempty hblank, ?_⟩
  rw [references_replaceWord hattribute best]
  apply flatMap_eq_map
  intro s _
  by_cases hs : Repeats s r
  · have hreading : d.reading r.source r.name best = { s with id := best, target := some key } := by
      rw [Document.reading, hkey, hs.1, hs.2.1]
    rw [if_pos hs, if_pos hs, words_of_not_blank hnonempty hblank, List.map_singleton, ← hreading]
  · rw [if_neg hs, if_neg hs]

/-! ## A field and what it controls -/

/-- A page with an element that has an id, and a field that refers to an id. -/
def fieldPage (known named : String) : Graph where
  size := 3
  cells := #v[.element { tag := "div" } [.node ⟨1, by decide⟩, .node ⟨2, by decide⟩],
    .element { tag := "p", attributes := [("id", known)] } [],
    .element { tag := "input", attributes := [("aria-controls", named)] } []]
  root := .node ⟨0, by decide⟩

/-- A fragment is the index of such a page. -/
structure ShowsField (known named : String) (f : Fragment) : Prop where
  size : f.size = 3
  root : f.element? 0 = some { tag := "div" }
  known : f.element? 1 = some { tag := "p", attributes := [("id", known)] }
  field : f.element? 2 = some { tag := "input", attributes := [("aria-controls", named)] }

theorem exists_fieldPage (known named : String) : ∃ f,
    Fragment.ofGraph (fieldPage known named) "page" = .ok f ∧ ShowsField known named f := by
  have hrun : ((fieldPage known named).index "page").toOption.map (fun f =>
      (f.size, f.element? 0, f.element? 1, f.element? 2)) =
      some (3, some { tag := "div" }, some { tag := "p", attributes := [("id", known)] },
        some { tag := "input", attributes := [("aria-controls", named)] }) := by cbv
  obtain ⟨f, hf, hview⟩ := Fragment.exists_of_index (by decide) hrun
  simp only [Prod.mk.injEq] at hview
  obtain ⟨hsize, hroot, hknown, hfield⟩ := hview
  exact ⟨f, hf, hsize, hroot, hknown, hfield⟩

/-- The document of such a page alone. -/
def fieldDocument (f : Fragment) : Document := merge {} [.indexed f] [] [] .null

section Field

variable {f : Fragment} {known named : String}

theorem ShowsField.keys (h : ShowsField known named f) :
    (fieldDocument f).keys = [⟨0, 0⟩, ⟨0, 1⟩, ⟨0, 2⟩] := by
  rw [fieldDocument, keys_single, Fragment.orders, h.size]
  rfl

theorem ShowsField.elements (h : ShowsField known named f) :
    (fieldDocument f).element ⟨0, 0⟩ = { tag := "div" } ∧
      (fieldDocument f).element ⟨0, 1⟩ = { tag := "p", attributes := [("id", known)] } ∧
      (fieldDocument f).element ⟨0, 2⟩ =
        { tag := "input", attributes := [("aria-controls", named)] } :=
  ⟨element_single h.root, element_single h.known, element_single h.field⟩

theorem ShowsField.idOf (h : ShowsField known named f) (hknown : strip known = known)
    (hne : known ≠ "") : (fieldDocument f).idOf ⟨0, 0⟩ = none ∧
      (fieldDocument f).idOf ⟨0, 1⟩ = some known ∧ (fieldDocument f).idOf ⟨0, 2⟩ = none := by
  obtain ⟨hroot, hp, hfield⟩ := h.elements
  simp only [Document.idOf, hroot, hp, hfield]
  refine ⟨rfl, ?_, rfl⟩
  show (if (strip known).isEmpty then none else some (strip known)) = some known
  rw [hknown, if_neg (by simpa using hne)]

theorem ShowsField.elementById? (h : ShowsField known named f) (hknown : strip known = known)
    (hne : known ≠ "") (id : String) :
    (fieldDocument f).elementById? id = if id = known then some ⟨0, 1⟩ else none := by
  obtain ⟨h0, h1, h2⟩ := h.idOf hknown hne
  rw [Document.elementById?_eq_find?, h.keys]
  by_cases hid : id = known
  · simp [h0, h1, hid]
  · simp [h0, h1, h2, hid, Ne.symm hid]

theorem ShowsField.references (h : ShowsField known named f) :
    (fieldDocument f).references =
      (words named).map ((fieldDocument f).reading ⟨0, 2⟩ "aria-controls") := by
  have hreadings : (fieldDocument f).references = (fieldDocument f).keys.flatMap fun key =>
      referenceAttributes.flatMap fun name => (words ((fieldDocument f).valueOf key name)).map
        ((fieldDocument f).reading key name) := references_eq_readings
  obtain ⟨hroot, hknown, hfield⟩ := h.elements
  have hempty : words "" = [] := rfl
  rw [hreadings, h.keys]
  simp [referenceAttributes, Document.valueOf, hroot, hknown, hfield, Element.valueOf, Element.get?,
    Entries.get?, List.lookup_cons, hempty]

theorem ShowsField.suggestion? (h : ShowsField known named f) (hknown : strip known = known)
    (hne : known ≠ "") {missing : String} (hother : known ≠ missing)
    (hnear : (Similarity.distance missing known : Int) ≤ Config.suggestionThreshold {} missing) :
    suggestion? (fieldDocument f) {} missing = some known := by
  obtain ⟨h0, h1, h2⟩ := h.idOf hknown hne
  exact suggestion?_of_idOf (by simp [h.keys, h0, h1, h2]) hother hnear

/-- The fix for an id that the field names, when the known one is close to it. -/
theorem ShowsField.fix (h : ShowsField known named f) (missing : String)
    (hknown : strip known = known) (hne : known ≠ "") (hother : known ≠ missing)
    (hnear : (Similarity.distance missing known : Int) ≤ Config.suggestionThreshold {} missing) :
    ∃ fix, (declaredFinding (fieldDocument f) {} ((fieldDocument f).reading ⟨0, 2⟩ "aria-controls"
        missing)).fix = some fix ∧ fix.value = some (replaceWord named missing known) := by
  have hvalue : (fieldDocument f).valueOf ⟨0, 2⟩ "aria-controls" = named := by
    rw [Document.valueOf, h.elements.2.2]
    rfl
  simp only [declaredFinding, missingReference, Document.reading,
    h.suggestion? hknown hne hother hnear, hvalue]
  exact ⟨_, rfl, rfl⟩

end Field

/-- A missing id that is named twice, beside another one, is led to the element that is meant. -/
theorem fix_repairs_panel : ∃ f,
    Fragment.ofGraph (fieldPage "panel" "panle other panle") "page" = .ok f ∧
    let d := fieldDocument f
    d.reading ⟨0, 2⟩ "aria-controls" "panle" ∈ d.references ∧ d.elementById? "panle" = none ∧
    ∃ fix, (declaredFinding d {} (d.reading ⟨0, 2⟩ "aria-controls" "panle")).fix = some fix ∧
      fix.value = some "panel other panel" ∧
      (merge {} (d.write ⟨0, 2⟩ "aria-controls" "panel other panel") [] [] .null).references =
        [⟨⟨0, 2⟩, "aria-controls", "panel", some ⟨0, 1⟩⟩, ⟨⟨0, 2⟩, "aria-controls", "other", none⟩,
          ⟨⟨0, 2⟩, "aria-controls", "panel", some ⟨0, 1⟩⟩] := by
  obtain ⟨f, hf, h⟩ := exists_fieldPage "panel" "panle other panle"
  have hknown : strip "panel" = "panel" := by decide
  have hwords : words "panle other panle" = ["panle", "other", "panle"] := by decide
  have hfind := h.elementById? hknown (by decide)
  have hmissing : (fieldDocument f).elementById? "panle" = none := by simp [hfind]
  have hmem : (fieldDocument f).reading ⟨0, 2⟩ "aria-controls" "panle" ∈
      (fieldDocument f).references := by simp [h.references, hwords]
  obtain ⟨fix, hfix, hvalue⟩ := h.fix "panle" hknown (by decide) (by decide)
    (by decide +kernel)
  have htext : replaceWord "panle other panle" "panle" "panel" = "panel other panel" := by decide
  rw [htext] at hvalue
  obtain ⟨best, value, key, -, hvalue', hkey, -, -, -, hrepair⟩ :=
    (fix_repairs {} [.indexed f] [] [] .null {}).2 _ hmem hmissing fix hfix
  obtain rfl := Option.some.inj (hvalue.symm.trans hvalue')
  obtain ⟨rfl, rfl⟩ : best = "panel" ∧ key = ⟨0, 1⟩ := by
    have hbest : (fieldDocument f).elementById? best = some key := hkey
    rw [hfind] at hbest
    split at hbest
    case isTrue heq => exact ⟨heq, (Option.some.inj hbest).symm⟩
    case isFalse => cases hbest
  refine ⟨f, hf, hmem, hmissing, fix, hfix, hvalue, ?_⟩
  have hblank : "panel".toList.all (fun c => !isBlank c) = true := by decide
  have hreferences : (merge {} ((fieldDocument f).write ⟨0, 2⟩ "aria-controls" "panel other panel")
      [] [] .null).references = (fieldDocument f).references.map _ :=
    (hrepair (by simpa only [List.all_eq_true, Bool.not_eq_true'] using hblank)).2
  rw [hreferences, h.references, hwords]
  simp [Document.reading, Repeats, hfind]

/-- The suggestion has a blank in it, so the fix names two ids, and no element has either. -/
theorem fix_splits_id : ∃ f, Fragment.ofGraph (fieldPage "tab panel" "tabpanel") "page" = .ok f ∧
    let d := fieldDocument f
    let r := d.reading ⟨0, 2⟩ "aria-controls" "tabpanel"
    r ∈ d.references ∧ r.target = none ∧
    ∃ fix value, (declaredFinding d {} r).fix = some fix ∧ fix.value = some value ∧
      words value = ["tab", "panel"] ∧
      (¬ ∃ best, (d.elementById? best).isSome ∧ words value =
        (words (d.valueOf r.source r.name)).map fun word => if word = r.id then best else word) ∧
      (merge {} (d.write r.source r.name value) [] [] .null).references =
        [⟨⟨0, 2⟩, "aria-controls", "tab", none⟩, ⟨⟨0, 2⟩, "aria-controls", "panel", none⟩] := by
  obtain ⟨f, hf, h⟩ := exists_fieldPage "tab panel" "tabpanel"
  have hknown : strip "tab panel" = "tab panel" := by decide
  have hwords : words "tabpanel" = ["tabpanel"] := by decide
  have hfind := h.elementById? hknown (by decide)
  have hvalue : (fieldDocument f).valueOf ⟨0, 2⟩ "aria-controls" = "tabpanel" := by
    rw [Document.valueOf, h.elements.2.2]
    rfl
  have hmissing : (fieldDocument f).elementById? "tabpanel" = none := by simp [hfind]
  obtain ⟨fix, hfix, hfixed⟩ := h.fix "tabpanel" hknown (by decide) (by decide)
    (by decide +kernel)
  have hsplit : words (replaceWord "tabpanel" "tabpanel" "tab panel") = ["tab", "panel"] := by
    decide
  refine ⟨f, hf, ?_, hmissing, fix, _, hfix, hfixed, hsplit, ?_, ?_⟩
  · simp [h.references, hwords]
  · rintro ⟨best, -, hone⟩
    have hlength := congrArg List.length hone
    rw [hsplit, List.length_map, Document.reading, hvalue, hwords] at hlength
    cases hlength
  · have hreferences : (merge {} ((fieldDocument f).write ⟨0, 2⟩ "aria-controls" (replaceWord
        ((fieldDocument f).valueOf ⟨0, 2⟩ "aria-controls") "tabpanel" "tab panel"))
        [] [] .null).references = (fieldDocument f).references.flatMap _ :=
      references_replaceWord (r := (fieldDocument f).reading ⟨0, 2⟩ "aria-controls" "tabpanel")
        (show "aria-controls" ∈ referenceAttributes by decide) "tab panel"
    have hparts : words "tab panel" = ["tab", "panel"] := by decide
    have hnone (id : String) (hid : id ≠ "tab panel") :
        (merge {} [.indexed f] [] [] .null).elementById? id = none := (hfind id).trans (if_neg hid)
    rw [hvalue, h.references, hwords] at hreferences
    refine hreferences.trans ?_
    simp [Document.reading, Repeats, hparts, hnone]

end Integrity

end AccessAudit
