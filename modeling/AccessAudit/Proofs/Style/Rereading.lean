import AccessAudit.Proofs.Document.Splitting

/-!
# Rules that are written and read again

A rule that is read, or made of a declaration block or of a style attribute, is in its usual form:
names are in small letters and occur once, and importance stands apart from the values. Reading it
again takes that form to itself, with one exception. Of a value that ends with `!important` more
than once only the last mark is taken off, and each further reading takes off one more
(`Rule.read_dump`). So a rule stays what it is exactly if no value of it ends with such a mark
(`Rule.reread_eq_self_iff`).
-/

namespace AccessAudit

open Text

/-! ## Marks of importance -/

namespace Declaration

/-- The characters spell the word `important`, each letter in any of its spellings. -/
def Spells (cs : List Char) : Prop :=
  List.Forall₂ (fun wanted c => isLetter wanted c = true) "important".toList cs

/-- The characters are a mark of importance: an exclamation mark, blanks, and the word. -/
def IsMark (cs : List Char) : Prop :=
  ∃ gap word, cs = '!' :: (gap ++ word) ∧ (∀ c ∈ gap, isBlank c = true) ∧ Spells word

/-- The text ends with a mark of importance. -/
def Marked (text : String) : Prop := ∃ value mark, text.toList = value ++ mark ∧ IsMark mark

theorem afterLetters_eq_some {word cs rest : List Char} : afterLetters word cs = some rest ↔
    ∃ letters, cs = letters ++ rest ∧
      List.Forall₂ (fun wanted c => isLetter wanted c = true) word letters := by
  induction word generalizing cs with
  | nil =>
    constructor
    · intro h
      cases h
      exact ⟨[], rfl, .nil⟩
    · rintro ⟨letters, rfl, hletters⟩
      cases hletters
      rfl
  | cons wanted word ih =>
    constructor
    · intro h
      cases cs with
      | nil => cases h
      | cons c cs =>
        rw [afterLetters] at h
        split at h
        case isTrue hc =>
          obtain ⟨letters, rfl, hletters⟩ := ih.mp h
          exact ⟨c :: letters, rfl, .cons hc hletters⟩
        case isFalse => cases h
    · rintro ⟨letters, rfl, hletters⟩
      cases hletters with
      | cons hc hletters =>
        rw [List.cons_append, afterLetters, if_pos hc]
        exact ih.mpr ⟨_, rfl, hletters⟩

/-- The mark is looked for from the end, so the word comes first and backwards. -/
theorem exists_isMark_iff {cs value : List Char} : (∃ mark, cs = value ++ mark ∧ IsMark mark) ↔
    ∃ before, afterLetters "tnatropmi".toList cs.reverse = some before ∧
      before.dropWhile isBlank = '!' :: value.reverse := by
  have hword : "tnatropmi".toList = "important".toList.reverse := rfl
  have hmark : ∀ c ∈ ('!' :: value.reverse).head?, isBlank c = false := by
    rintro c ⟨⟩
    decide
  constructor
  · rintro ⟨-, rfl, gap, word, rfl, hgap, hspells⟩
    refine ⟨gap.reverse ++ '!' :: value.reverse, ?_, ?_⟩
    · rw [afterLetters_eq_some]
      refine ⟨word.reverse, by simp, ?_⟩
      rw [hword, List.forall₂_reverse_iff]
      exact hspells
    · exact (trimLeft_eq_iff hmark).mpr
        ⟨gap.reverse, rfl, fun c hc => hgap c (List.mem_reverse.mp hc)⟩
  · rintro ⟨before, hletters, hblanks⟩
    obtain ⟨letters, hcs, hspells⟩ := afterLetters_eq_some.mp hletters
    obtain ⟨gap, rfl, hgap⟩ := (trimLeft_eq_iff hmark).mp hblanks
    refine ⟨'!' :: (gap.reverse ++ letters.reverse), ?_, gap.reverse, letters.reverse, rfl,
      fun c hc => hgap c (List.mem_reverse.mp hc), ?_⟩
    · rw [← List.reverse_inj, hcs]
      simp
    · rw [hword, ← List.forall₂_reverse_iff, List.reverse_reverse] at hspells
      exact hspells

theorem splitImportant_cases (cs : List Char) :
    (splitImportant cs = (trim cs, false) ∧ ¬ ∃ value mark, trim cs = value ++ mark ∧ IsMark mark) ∨
      ∃ value mark, trim cs = value ++ mark ∧ IsMark mark ∧
        splitImportant cs = (trim value, true) := by
  unfold splitImportant
  dsimp only
  cases hletters : afterLetters "tnatropmi".toList (trim cs).reverse with
  | none =>
    refine .inl ⟨rfl, ?_⟩
    rintro ⟨value, hmark⟩
    obtain ⟨before, hbefore, -⟩ := exists_isMark_iff.mp hmark
    rw [hletters] at hbefore
    cases hbefore
  | some before =>
    dsimp only
    split
    case h_1 value hvalue =>
      rw [← List.reverse_reverse value] at hvalue
      obtain ⟨mark, htrim, hmark⟩ := exists_isMark_iff.mpr ⟨before, hletters, hvalue⟩
      exact .inr ⟨value.reverse, mark, htrim, hmark, rfl⟩
    case h_2 hnone =>
      refine .inl ⟨rfl, ?_⟩
      rintro ⟨value, hmark⟩
      obtain ⟨before', hbefore, hvalue⟩ := exists_isMark_iff.mp hmark
      cases hletters.symm.trans hbefore
      exact hnone _ hvalue

/-- A text without blanks at its ends is read as it is, unless there is a mark at its end. -/
theorem readValue_eq_self_iff {text : String} (h : trim text.toList = text.toList) :
    (readValue text).1 = text ↔ ¬ Marked text := by
  have hcases := splitImportant_cases text.toList
  rw [h] at hcases
  unfold readValue
  rcases hcases with ⟨hsplit, hplain⟩ | ⟨value, mark, htext, hmark, hsplit⟩
  · rw [hsplit]
    exact iff_of_true (String.ofList_toList) hplain
  · rw [hsplit]
    refine iff_of_false (fun heq => ?_) (fun hplain => hplain ⟨value, mark, htext, hmark⟩)
    have hlength := (trim_sublist value).length_le
    obtain ⟨gap, word, rfl, -⟩ := hmark
    have hshort : text.toList = trim value := by
      rw [← heq]
      simp
    rw [← hshort, htext] at hlength
    simp only [List.length_append, List.length_cons] at hlength
    omega

theorem trim_readValue (text : String) :
    trim (readValue text).1.toList = (readValue text).1.toList := by
  unfold readValue
  rcases splitImportant_cases text.toList with ⟨hsplit, -⟩ | ⟨value, mark, -, -, hsplit⟩
  all_goals
    rw [hsplit]
    simp [trim_trim]

/-- Where a mark is left there was one before. -/
theorem important_of_readValue {text : String} (h : (readValue (readValue text).1).2 = true) :
    (readValue text).2 = true := by
  cases hsplit : splitImportant text.toList with
  | mk value important =>
    cases important with
    | true => simp [readValue, hsplit]
    | false => simp [readValue, hsplit, Declarations.splitImportant_of_plain hsplit] at h

end Declaration

/-! ## The usual form -/

namespace Rule

/-- Names are in small letters and occur once, values have no blanks at their ends, and a value with
a mark left is important. -/
structure Formed (properties : Entries String) (important : List String) : Prop where
  names : properties.names.Nodup
  normal : ∀ name ∈ properties.names, Text.normalize name = name
  importantNames : important.Nodup
  marked : ∀ name value, properties.get? name = some value →
    (Declaration.readValue value).2 = true → name ∈ important
  trimmed : ∀ name value, properties.get? name = some value → trim value.toList = value.toList

variable {done : Entries String × List String}

theorem Formed.empty {important : List String} (h : important.Nodup) : Formed [] important :=
  ⟨List.nodup_nil, by simp [Entries.names], h, by simp [Entries.get?], by simp [Entries.get?]⟩

theorem mem_important_addProperty {name value other : String} :
    other ∈ (addProperty done name value).2 ↔
      other ∈ done.2 ∨ other = Text.normalize name ∧ (Declaration.readValue value).2 = true := by
  rw [addProperty_eq]
  dsimp only
  split
  case isTrue h =>
    obtain ⟨hmark, -⟩ := Bool.and_eq_true_iff.mp h
    simp [hmark]
  case isFalse h =>
    refine ⟨.inl, ?_⟩
    rintro (hother | ⟨rfl, hmark⟩)
    · exact hother
    · simpa [hmark] using h

theorem Formed.add (h : Formed done.1 done.2) (name value : String) :
    Formed (addProperty done name value).1 (addProperty done name value).2 where
  names := by
    rw [addProperty_eq, Entries.names_put]
    split
    · exact h.names
    case isFalse hnew =>
      rw [← List.concat_eq_append]
      exact h.names.concat hnew
  normal := by
    rw [addProperty_eq, Entries.names_put]
    intro other hother
    split at hother
    · exact h.normal other hother
    · rcases List.mem_append.mp hother with hother | hother
      · exact h.normal other hother
      · rw [List.mem_singleton.mp hother, normalize_normalize]
  importantNames := by
    rw [addProperty_eq]
    dsimp only
    split
    case isTrue hnew =>
      obtain ⟨-, hnot⟩ := Bool.and_eq_true_iff.mp hnew
      rw [← List.concat_eq_append]
      exact h.importantNames.concat (by simpa using hnot)
    case isFalse => exact h.importantNames
  marked := by
    intro other text htext hmark
    rw [mem_important_addProperty]
    rw [addProperty_eq, Entries.get?_put] at htext
    split at htext
    case isTrue hother =>
      rw [← Option.some.inj htext] at hmark
      exact .inr ⟨hother, Declaration.important_of_readValue hmark⟩
    case isFalse => exact .inl (h.marked other text htext hmark)
  trimmed := by
    intro other text htext
    rw [addProperty_eq, Entries.get?_put] at htext
    split at htext
    · rw [← Option.some.inj htext]
      exact Declaration.trim_readValue value
    · exact h.trimmed other text htext

theorem Formed.foldl (h : Formed done.1 done.2) (properties : Entries String) :
    Formed (properties.foldl (fun done p => addProperty done p.1 p.2) done).1
      (properties.foldl (fun done p => addProperty done p.1 p.2) done).2 := by
  induction properties generalizing done with
  | nil => exact h
  | cons entry rest ih => exact ih (h.add entry.1 entry.2)

/-! ## How rules come about -/

/-- The rule is read, or made of a declaration block or of a style attribute. -/
inductive Made : Rule → Prop
  | read {v : Json} {r : Rule} (h : Rule.read v = .ok r) : Made r
  | ofText {selector : Json} {text : String} {fields : Entries Json} {r : Rule}
      (h : Rule.ofText selector text fields = .ok r) : Made r
  | inline (text : String) (location : Option Location) : Made (Rule.inline text location)

theorem pairwise_eraseDupsBy {α : Type} (same : α → α → Bool) (items : List α) :
    (items.eraseDupsBy same).Pairwise fun first second => same second first = false := by
  match items with
  | [] => exact .nil
  | item :: rest =>
    rw [List.eraseDupsBy_cons]
    refine .cons (fun other hother => ?_) (pairwise_eraseDupsBy same _)
    simpa using (List.mem_filter.mp ((eraseDupsBy_sublist same _).subset hother)).2
termination_by items.length
decreasing_by exact Nat.lt_succ_of_le (List.length_filter_le _ _)

theorem texts_of_itemsFrom {items : List Json} {place : Nat} {names : List String}
    (h : Schema.itemsFrom Schema.text place items = .ok names) : items = names.map Json.str := by
  induction items generalizing place names with
  | nil =>
    cases h
    rfl
  | cons item rest ih =>
    obtain ⟨_, names, hitem, hrest, rfl⟩ := Checked.seq_eq_ok h
    obtain ⟨name, hname, rfl⟩ := Checked.map_eq_ok hitem
    rw [ih hrest]
    cases item with
    | str text =>
      cases hname
      rfl
    | _ => cases hname

theorem nodup_of_listImportant {v : Json} {items : List Json} {names : List String}
    (h : listImportant v = .ok items) (hnames : Schema.itemsFrom Schema.text 0 items = .ok names) :
    names.Nodup := by
  obtain rfl := texts_of_itemsFrom hnames
  have hapart : (names.map Json.str).Pairwise fun first second => second.same first = false := by
    unfold listImportant at h
    split at h
    · cases names with
      | nil => exact .nil
      | cons name rest => cases h
    · split at h
      · split at h
        · cases h
        · rw [← Checked.ok.inj h]
          exact pairwise_eraseDupsBy _ _
      · rw [← Checked.ok.inj h]
        exact pairwise_eraseDupsBy _ _
      · rw [← Checked.ok.inj h]
        exact pairwise_eraseDupsBy _ _
      · cases h
  rw [List.pairwise_map] at hapart
  refine hapart.imp fun {first second} hne heq => ?_
  simp [heq, Json.same] at hne

theorem Made.read_or_inline {r : Rule} (h : r.Made) :
    (∃ fields, Rule.read (.obj fields) = .ok r) ∨
      ∃ text location, r = Rule.inline text location := by
  cases h with
  | @read v _ h =>
    cases v with
    | obj fields => exact .inl ⟨fields, h⟩
    | _ => cases h
  | ofText h =>
    obtain ⟨-, -, h⟩ := Checked.andThen_eq_ok h
    split at h
    · cases h
    · exact .inl ⟨_, h⟩
  | inline text location => exact .inr ⟨text, location, rfl⟩

theorem Made.exists_make {r : Rule} (h : r.Made) :
    ∃ selector properties important weight declared mediaQuery location, important.Nodup ∧
      r = Rule.make selector properties important weight declared mediaQuery location := by
  rcases h.read_or_inline with ⟨fields, hread⟩ | ⟨text, location, rfl⟩
  · obtain ⟨selector, properties, important, weight, declared, mediaQuery, location, hr, -, -,
      items, hitems, htexts⟩ := read_eq_make hread
    exact ⟨selector, properties, important, weight, declared, mediaQuery, location,
      nodup_of_listImportant hitems htexts, hr⟩
  · exact ⟨_, _, _, _, _, _, _, (Declarations.parse_tidy text).importantNames, rfl⟩

/-! ## Reading again -/

/-- The rule as it is read again: every value without the mark at its end, if it has one. -/
def reread (r : Rule) : Rule :=
  { r with properties := r.properties.map fun p => (p.1, (Declaration.readValue p.2).1) }

theorem Made.formed {r : Rule} (h : r.Made) : Formed r.properties r.important := by
  obtain ⟨selector, properties, important, weight, declared, mediaQuery, location, himportant,
    rfl⟩ := h.exists_make
  exact (Formed.empty himportant : Formed ([], important).1 ([], important).2).foldl properties

theorem Made.strip_selector {r : Rule} (h : r.Made) : strip r.selector = r.selector := by
  obtain ⟨selector, properties, important, weight, declared, mediaQuery, location, -, rfl⟩ :=
    h.exists_make
  rw [make_selector]
  simp [strip, trim_trim]

theorem Formed.make {r : Rule} (h : Formed r.properties r.important)
    (hselector : strip r.selector = r.selector) :
    Rule.make r.selector r.properties r.important (some r.specificity) r.declared r.mediaQuery
      r.location = r.reread := by
  have hmarked : ∀ entry ∈ r.properties, (Declaration.readValue entry.2).2 = true →
      entry.1 ∈ r.important := fun entry hentry =>
    h.marked entry.1 entry.2 (Entries.get?_of_mem h.names hentry)
  have hproperties : Rule.normalizeProperties r.properties r.important =
      (r.reread.properties, r.important) :=
    Declarations.foldl_addProperty r.properties [] h.names h.normal hmarked
  unfold Rule.make
  rw [hproperties, hselector]
  rfl

theorem read_dump {r : Rule} (h : r.Made) : Rule.read r.dump = .ok r.reread := by
  have himportant := listImportant_names h.formed.importantNames
  have hproperties := listProperties_texts r.properties
  have hlocation := Location.optional_read r.location
  have hmedia := Schema.optional_text r.mediaQuery
  rw [← h.formed.make h.strip_selector]
  show (listImportant (.arr (r.important.map .str))).andThen (fun important =>
    (listProperties (.obj (r.properties.map fun p => (p.1, .str p.2)))).andThen fun properties =>
      Checked.andThen (.ok ()) fun _ =>
        (fun weight declared important mediaQuery location =>
            make r.selector properties important weight declared mediaQuery location)
          <$> .ok (some r.specificity) <*> .ok r.declared
          <*> (Schema.itemsFrom Schema.text 0 important).under "important"
          <*> (Schema.optional Schema.text ((r.mediaQuery.map Json.str).getD .null)).under
            "media_query"
          <*> (Schema.optional Location.read ((r.location.map Location.dump).getD .null)).under
            "location") = _
  rw [himportant, hproperties, hlocation, hmedia]
  show _ <*> (Schema.itemsFrom Schema.text 0 (r.important.map .str)).under "important" <*> _ <*> _ =
    _
  rw [itemsFrom_text]
  rfl

theorem reread_eq_self_iff {r : Rule} (h : r.Made) :
    r.reread = r ↔ ∀ p ∈ r.properties, ¬ Declaration.Marked p.2 := by
  have hvalue : ∀ p ∈ r.properties,
      ((p.1, (Declaration.readValue p.2).1) = p ↔ ¬ Declaration.Marked p.2) := by
    intro p hp
    have htrim := h.formed.trimmed p.1 p.2 (Entries.get?_of_mem h.formed.names hp)
    rw [← Declaration.readValue_eq_self_iff htrim, Prod.ext_iff]
    simp
  have hproperties : r.reread = r ↔
      r.properties.map (fun p => (p.1, (Declaration.readValue p.2).1)) = r.properties :=
    ⟨fun heq => congrArg Rule.properties heq, fun heq => by rw [reread, heq]⟩
  rw [hproperties, map_eq_self_iff]
  exact forall₂_congr hvalue

theorem finite_dump (r : Rule) : r.dump.Finite := by
  have himportant : Json.FiniteItems (r.important.map .str) :=
    Json.finiteItems_map fun _ _ => trivial
  have hproperties := Json.finiteFields_texts r.properties
  have hpseudo := Json.finite_text? r.pseudoClass?
  have hmedia := Json.finite_text? r.mediaQuery
  have hlocation := Json.finite_location? r.location
  simp [dump, Json.Finite, Json.FiniteFields, Json.FiniteItems, Specificity.vector, himportant,
    hproperties, hpseudo, hmedia, hlocation]

end Rule

/-! ## Style sheets -/

namespace StyleSheet

/-- The style sheet as it is read again. -/
def reread (s : StyleSheet) : StyleSheet := { s with rules := s.rules.map Rule.reread }

theorem read_dump {s : StyleSheet} (h : ∀ r ∈ s.rules, r.Made) : read s.dump = .ok s.reread := by
  have hrules := Schema.itemsFrom_map (fun r hr => Rule.read_dump (h r hr)) 0
  show mk <$> .ok s.source <*>
    (Schema.itemsFrom Rule.read 0 (s.rules.map Rule.dump)).under "rules" = _
  rw [hrules]
  rfl

theorem reread_eq_self_iff {s : StyleSheet} (h : ∀ r ∈ s.rules, r.Made) :
    s.reread = s ↔ ∀ r ∈ s.rules, ∀ p ∈ r.properties, ¬ Declaration.Marked p.2 := by
  have hrules : s.reread = s ↔ s.rules.map Rule.reread = s.rules :=
    ⟨fun heq => congrArg StyleSheet.rules heq, fun heq => by rw [reread, heq]⟩
  rw [hrules, map_eq_self_iff]
  exact forall₂_congr fun r hr => Rule.reread_eq_self_iff (h r hr)

theorem finite_dump (s : StyleSheet) : s.dump.Finite := by
  have hrules := Json.finiteItems_map fun r (_ : r ∈ s.rules) => r.finite_dump
  simp [dump, Json.Finite, Json.FiniteFields, hrules]

end StyleSheet

end AccessAudit
