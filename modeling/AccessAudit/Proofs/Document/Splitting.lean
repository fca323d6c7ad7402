import AccessAudit.Proofs.Document.Dependence
import AccessAudit.Proofs.Schema.Rereading

/-!
# Taking a rule apart

A rule whose declaration block is put together from two may be replaced, where it stands, by two
rules with the same selector and the one block each: no computed style changes (`assemble_split`).

The rule reads with all that it has besides its block exactly if the two do
(`Rule.ofText_uniform`), so the three agree in everything the cascade compares but importance, value
and place. How these fit together is the matter of `Declarations.parse_append`, for the blocks, and
of `cascade_split`, for the matches.
-/

namespace AccessAudit

open Text Selector

/-! ## Reading a rule with a block -/

theorem eraseDupsBy_str {names : List String} (h : names.Nodup) :
    (names.map Json.str).eraseDupsBy Json.same = names.map Json.str := by
  induction names with
  | nil => rfl
  | cons name rest ih =>
    obtain ⟨hname, hrest⟩ := List.nodup_cons.mp h
    have hkept : ((rest.map Json.str).filter fun other => Json.same other (.str name) = false) =
        rest.map Json.str := by
      refine List.filter_eq_self.mpr fun other hother => ?_
      obtain ⟨other, hmem, rfl⟩ := List.mem_map.mp hother
      have hne : other ≠ name := fun heq => hname (heq ▸ hmem)
      simp [Json.same, hne]
    rw [List.map_cons, List.eraseDupsBy_cons, hkept, ih hrest]

theorem itemsFrom_text (names : List String) (place : Nat) :
    Schema.itemsFrom Schema.text place (names.map Json.str) = .ok names := by
  have hback := @Schema.itemsFrom_map _ Schema.text Json.str id names (fun _ _ => rfl) place
  rw [List.map_id] at hback
  exact hback

theorem Rule.listImportant_names {names : List String} (h : names.Nodup) :
    Rule.listImportant (.arr (names.map Json.str)) = .ok (names.map Json.str) := by
  have hhashable : (names.map Json.str).find? (!·.isHashable) = none := by
    rw [List.find?_eq_none]
    intro item hitem
    obtain ⟨name, -, rfl⟩ := List.mem_map.mp hitem
    simp [Json.isHashable]
  unfold Rule.listImportant
  by_cases hempty : (Json.arr (names.map Json.str)).isEmpty
  · rw [if_pos hempty]
    have hnil : names.map Json.str = [] := List.isEmpty_iff.mp hempty
    rw [hnil]
  · rw [if_neg hempty]
    dsimp only
    rw [hhashable, eraseDupsBy_str h]

theorem Rule.listProperties_texts (properties : Entries String) :
    Rule.listProperties (.obj (properties.map fun p => (p.1, .str p.2))) = .ok properties := by
  cases properties with
  | nil => rfl
  | cons first rest =>
    have hback : ((first :: rest).map fun p => (p.1, Json.str p.2)).map
        (fun entry => (entry.1, entry.2.text)) = first :: rest := by
      rw [List.map_map]
      exact List.map_id'' (fun _ => rfl) _
    show Checked.ok _ = _
    rw [hback]

/-- The fields of a rule with a block. -/
def Rule.blockFields (selector : Json) (d : Declarations) (fields : Entries Json) : Entries Json :=
  [("selector", selector), ("properties", .obj (d.properties.map fun p => (p.1, .str p.2))),
    ("important", .arr (d.important.map .str))] ++ fields

/-- A rule with a block is read like one without, and takes the block as it is. -/
theorem Rule.read_blockFields (selector : Json) {d : Declarations} (fields : Entries Json)
    (hd : d.important.Nodup) : Rule.read (.obj (blockFields selector d fields)) =
      (derivable selector.text ((fields.get? "specificity").getD .null)).andThen fun _ =>
        (fun weight declared important mediaQuery location =>
            make selector.text d.properties important weight declared mediaQuery location)
          <$> (Schema.optional Specificity.read
            ((fields.get? "specificity").getD .null)).under "specificity"
          <*> Schema.field fields "declared_specificity"
            (!((fields.get? "specificity").getD .null) matches .null) Schema.bool
          <*> .ok d.important
          <*> Schema.field fields "media_query" none (Schema.optional Schema.text)
          <*> Schema.field fields "location" none (Schema.optional Location.read) := by
  show (listImportant (.arr (d.important.map .str))).andThen (fun important =>
    (listProperties (.obj (d.properties.map fun p => (p.1, .str p.2)))).andThen _) = _
  rw [listImportant_names hd, listProperties_texts]
  show (derivable selector.text ((fields.get? "specificity").getD .null)).andThen (fun _ =>
    _ <*> (Schema.itemsFrom Schema.text 0 (d.important.map .str)).under "important" <*> _ <*> _) = _
  rw [itemsFrom_text]
  rfl

/-- If a rule can be read with one block it can be read with any, and the rules differ in nothing
but their blocks. -/
theorem Rule.ofText_uniform {selector : Json} {text : String} {fields : Entries Json} {r : Rule}
    (h : Rule.ofText selector text fields = .ok r) :
    ∃ weight declared mediaQuery location, ∀ other, Rule.ofText selector other fields =
      .ok (Rule.make selector.text (Declarations.parse other).properties
        (Declarations.parse other).important weight declared mediaQuery location) := by
  obtain ⟨place, hplace, h⟩ := Checked.andThen_eq_ok h
  cases hrepeated : ["properties", "important"].find? fields.has with
  | some name =>
    rw [hrepeated] at h
    cases h
  | none =>
    rw [hrepeated] at h
    dsimp only at h
    have hread := Rule.read_blockFields selector fields
      (Declarations.parse_tidy text).importantNames
    rw [show Rule.read (.obj (blockFields selector (Declarations.parse text) fields)) = .ok r
      from h] at hread
    obtain ⟨_, hderivable, hread⟩ := Checked.andThen_eq_ok hread.symm
    obtain ⟨_, location, hmedia, hlocation, -⟩ := Checked.seq_eq_ok hread
    obtain ⟨_, mediaQuery, hnames, hmediaQuery, -⟩ := Checked.seq_eq_ok hmedia
    obtain ⟨_, names, hflag, -, -⟩ := Checked.seq_eq_ok hnames
    obtain ⟨_, declared, hvector, hdeclared, -⟩ := Checked.seq_eq_ok hflag
    obtain ⟨weight, hweight, -⟩ := Checked.map_eq_ok hvector
    refine ⟨weight, declared, mediaQuery, location, fun other => ?_⟩
    have hother := Rule.read_blockFields selector fields
      (Declarations.parse_tidy other).importantNames
    rw [hderivable, hweight, hdeclared, hmediaQuery, hlocation] at hother
    unfold Rule.ofText
    dsimp only
    rw [hplace, hrepeated]
    exact hother

/-! ## The three rules -/

section Make

variable (selector : String) (weight : Option Specificity) (declared : Bool)
  (mediaQuery : Option String) (location : Option Location)

theorem Rule.make_of_tidy {d : Declarations} (hd : d.Tidy) :
    Rule.make selector d.properties d.important weight declared mediaQuery location =
      { selector := strip selector, properties := d.settled, important := d.important, declared,
        mediaQuery, location,
        specificity := weight.getD (Specificity.ofText (strip selector)) } := by
  unfold Rule.make
  rw [Declarations.normalizeProperties_of_tidy hd]

/-- A rule with a block that is put together from two declares what rules with the two declare. -/
theorem Rule.overlays_make (text text' : String) :
    let rule (text : String) : Rule := Rule.make selector (Declarations.parse text).properties
      (Declarations.parse text).important weight declared mediaQuery location
    (rule text).Overlays (rule text') (rule (text ++ ";" ++ text')) := by
  intro rule
  have hrule (text : String) : rule text = _ :=
    Rule.make_of_tidy selector weight declared mediaQuery location (Declarations.parse_tidy text)
  rw [hrule, hrule, hrule]
  exact ⟨rfl, rfl, (Declarations.parse_tidy text).declared_settle,
    (Declarations.parse_tidy text').declared_settle, (Declarations.parse_append text text').settle⟩

/-- Rules that agree in selector and weight. -/
structure Rule.Alike (r r' : Rule) : Prop where
  selector : r'.selector = r.selector
  specificity : r'.specificity = r.specificity
  declared : r'.declared = r.declared

theorem Rule.alike_make (d d' : Declarations) :
    (Rule.make selector d.properties d.important weight declared mediaQuery location).Alike
      (Rule.make selector d'.properties d'.important weight declared mediaQuery location) where
  selector := by simp
  specificity := by simp
  declared := by simp

end Make

section Matches

variable {f : Fragment} {order : Nat} {r r' : Rule}

/-- Rules that are alike have the same matches but for themselves. -/
theorem Rule.Alike.matchesOf_turned (h : r.Alike r') (place place' : Nat) :
    (r'.placed place').matchesOf f order =
      ((r.placed place).matchesOf f order).map (·.turned r' place') := by
  have hbranches : (r'.placed place').branches f order = (r.placed place).branches f order := by
    unfold PlacedRule.branches Rule.placed
    rw [h.selector]
  have hweights (branch : Selector.Complex) :
      (r'.placed place').weight branch = (r.placed place).weight branch := by
    unfold PlacedRule.weight Rule.placed
    dsimp only
    rw [h.selector, h.specificity, h.declared]
  unfold PlacedRule.matchesOf
  rw [hbranches, List.map_map]
  simp only [hweights]
  rfl

end Matches

section Records

variable {f : Fragment} {order : Nat} {e : Element} {place : Nat} {front back whole : Rule}
  {rules rules' : List Rule}

theorem elementStyles_whole :
    elementStyles f order e place (rules ++ whole :: rules') =
      matchesFrom f order 0 rules ++ ((whole.placed rules.length).matchesOf f order ++
        (matchesFrom f order (rules.length + 1) rules' ++
          (inlineMatch? e ((rules ++ whole :: rules').length + place)).toList)) := by
  rw [elementStyles, matchesFrom_append, matchesFrom, Nat.zero_add, List.append_assoc,
    List.append_assoc]

theorem elementStyles_parts (hfront : whole.Alike front) (hback : whole.Alike back) :
    elementStyles f order e place (rules ++ front :: back :: rules') =
      matchesFrom f order 0 rules ++
        (((whole.placed rules.length).matchesOf f order).map (·.turned front rules.length) ++
          (((whole.placed rules.length).matchesOf f order).map (·.turned back (rules.length + 1)) ++
            (matchesFrom f order (rules.length + 1) rules' ++
              (inlineMatch? e ((rules ++ whole :: rules').length + place)).toList).map
                (StyleMatch.reorder (· + 1)))) := by
  have hlength : (rules ++ front :: back :: rules').length + place =
      (rules ++ whole :: rules').length + place + 1 := by
    simp only [List.length_append, List.length_cons]
    omega
  have hsecond : (back.placed (rules.length + 1)).matchesOf f order =
      ((whole.placed rules.length).matchesOf f order).map (·.turned back (rules.length + 1)) :=
    hback.matchesOf_turned rules.length (rules.length + 1)
  rw [elementStyles, matchesFrom_append, matchesFrom, matchesFrom, Nat.zero_add, hlength,
    inlineMatch?_succ, matchesFrom_succ (rules.length + 1), hsecond,
    hfront.matchesOf_turned rules.length rules.length]
  simp only [List.append_assoc, List.map_append]

theorem cascade_elementStyles_split (hoverlays : front.Overlays back whole)
    (hfront : whole.Alike front) (hback : whole.Alike back)
    (hone : OneRuleAPlace (elementStyles f order e place (rules ++ whole :: rules')))
    (held : List String) :
    cascade (elementStyles f order e place (rules ++ whole :: rules')) held =
      cascade (elementStyles f order e place (rules ++ front :: back :: rules')) held := by
  rw [elementStyles_whole] at hone
  rw [elementStyles_whole, elementStyles_parts hfront hback]
  refine cascade_split hoverlays ?_ ?_ ?_ ?_ hone held
  · intro m hm
    have horder := (order_of_mem_matchesFrom hm).2
    omega
  · exact fun m hm => (order_of_mem_matchesOf hm).1
  · exact fun m hm => (order_of_mem_matchesOf hm).2
  · intro m hm
    rcases List.mem_append.mp hm with hm | hm
    · have horder := (order_of_mem_matchesFrom hm).1
      omega
    · have horder := order_of_inlineMatch? hm
      rw [List.length_append, List.length_cons] at horder
      omega

end Records

/-! ## The document -/

section Document

variable {config : Config} {inputs : List FragmentInput} {scripts : List Script} {scope : Json}
  {sheets sheets' : List StyleSheet} {source : String} {rules rules' : List Rule}
  {front back whole : Rule}

theorem flatMap_rules_insert (rules : List Rule) :
    (sheets ++ { source, rules } :: sheets').flatMap StyleSheet.rules =
      sheets.flatMap StyleSheet.rules ++ (rules ++ sheets'.flatMap StyleSheet.rules) := by
  rw [List.flatMap_append, List.flatMap_cons]

theorem mergeBreakdown?_split (hfront : whole.Alike front) (hback : whole.Alike back) :
    mergeBreakdown? inputs scripts
        (sheets ++ { source, rules := rules ++ whole :: rules' } :: sheets') =
      mergeBreakdown? inputs scripts
        (sheets ++ { source, rules := rules ++ front :: back :: rules' } :: sheets') := by
  apply mergeBreakdown?_congr
  intro use
  simp only [flatMap_rules_insert, List.findSome?_append, List.findSome?_cons, hfront.selector,
    hback.selector]
  cases breakdown? use whole.selector with
  | some why => rfl
  | none => rfl

theorem computedStyle_split (hoverlays : front.Overlays back whole) (hfront : whole.Alike front)
    (hback : whole.Alike back) {key : Key} {held : List String} :
    (merge config inputs scripts
      (sheets ++ { source, rules := rules ++ whole :: rules' } :: sheets')
      scope).computedStyle key held =
    (merge config inputs scripts
      (sheets ++ { source, rules := rules ++ front :: back :: rules' } :: sheets')
      scope).computedStyle key held := by
  rw [computedStyle_merge_eq, computedStyle_merge_eq, flatMap_rules_insert, flatMap_rules_insert,
    List.append_assoc rules, List.append_assoc rules, ← List.append_assoc _ rules,
    ← List.append_assoc _ rules]
  apply cascade_recordedStyles_congr
  intro f e place _ _ hone
  exact cascade_elementStyles_split hoverlays hfront hback hone held

end Document

/-- A rule whose block is put together from two can be read with either of them alone, and the two
rules that are read so may stand in its place: whether the merge breaks down and what it computes
for any element in any states is the same. -/
theorem assemble_split (selector : Json) (text text' : String) (fields : Entries Json)
    (whole : Rule) (h : Rule.ofText selector (text ++ ";" ++ text') fields = .ok whole) :
    ∃ front back, Rule.ofText selector text fields = .ok front ∧
      Rule.ofText selector text' fields = .ok back ∧
      ∀ (config : Config) (inputs : List FragmentInput) (scripts : List Script) (scope : Json)
        (sheets sheets' : List StyleSheet) (source : String) (rules rules' : List Rule) (key : Key)
        (held : List String),
        (assemble config inputs scripts
            (sheets ++ { source, rules := rules ++ whole :: rules' } :: sheets') scope).map
          (·.computedStyle key held) =
        (assemble config inputs scripts
            (sheets ++ { source, rules := rules ++ front :: back :: rules' } :: sheets') scope).map
          (·.computedStyle key held) := by
  obtain ⟨weight, declared, mediaQuery, location, hread⟩ := Rule.ofText_uniform h
  obtain rfl := Checked.ok.inj (h.symm.trans (hread (text ++ ";" ++ text')))
  refine ⟨_, _, hread text, hread text', ?_⟩
  intro config inputs scripts scope sheets sheets' source rules rules' key held
  have hoverlays := Rule.overlays_make selector.text weight declared mediaQuery location text text'
  have halike := Rule.alike_make selector.text weight declared mediaQuery location
  apply assemble_map_congr
  · exact mergeBreakdown?_split (halike _ _) (halike _ _)
  · exact computedStyle_split hoverlays (halike _ _) (halike _ _)

theorem ofText_paragraph (text : String) : Rule.ofText (.str "p") text [] =
    .ok (Rule.make "p" (Declarations.parse text).properties (Declarations.parse text).important none
      false none none) := by
  have hread := Rule.read_blockFields (.str "p") [] (Declarations.parse_tidy text).importantNames
  have hderivable : Rule.derivable "p" .null = .ok () := by
    unfold Rule.derivable
    rw [breakdown?_paragraph]
  exact hread.trans (congrArg (Checked.andThen · _) hderivable)

/-- Of two widths the first is important, and stays when the rule is taken apart. -/
theorem assemble_split_paragraph : ∃ f whole front back style,
    Fragment.ofGraph Fragment.sharedText "page" = .ok f ∧
    Rule.ofText (.str "p") "width: 0 !important;width: 1px" [] = .ok whole ∧
    Rule.ofText (.str "p") "width: 0 !important" [] = .ok front ∧
    Rule.ofText (.str "p") "width: 1px" [] = .ok back ∧
    (assemble {} [.indexed f] [] [{ rules := [whole] }] .null).map (·.computedStyle ⟨0, 1⟩ []) =
      .ok style ∧
    (assemble {} [.indexed f] [] [{ rules := [front, back] }] .null).map
      (·.computedStyle ⟨0, 1⟩ []) = .ok style ∧
    style.get? "width" = some "0" := by
  obtain ⟨f, hf, he⟩ := exists_paragraph
  have hwhole := ofText_paragraph "width: 0 !important;width: 1px"
  obtain ⟨front, back, hfront, hback, hsame⟩ :=
    assemble_split (.str "p") "width: 0 !important" "width: 1px" [] _ hwhole
  generalize hmade : Rule.make "p" _ _ none false none none = whole at hwhole hsame
  have hselector : whole.selector = "p" := by
    rw [← hmade]
    decide +kernel
  have hvalue : whole.properties.get? "width" = some "0" := by
    rw [← hmade]
    decide +kernel
  have happlies : StyleMatch.applies
      { rule := whole, specificity := whole.specificity, order := 0 } [] = true := by
    rw [← hmade]
    rfl
  have hbreakdown : mergeBreakdown? [.indexed f] [] [{ rules := [whole] }] = none := by
    simp [mergeBreakdown?, flattenScripts, flattenSheets, hselector, breakdown?_paragraph]
  have hleft : (assemble {} [.indexed f] [] [{ rules := [whole] }] .null).map
      (·.computedStyle ⟨0, 1⟩ []) = .ok (cascade
        [{ rule := whole, specificity := whole.specificity, order := 0 }] []) := by
    rw [assemble, hbreakdown, ← stylesFor_paragraph he hselector]
    rfl
  refine ⟨f, whole, front, back, _, hf, hwhole, hfront, hback, hleft, ?_, ?_⟩
  · rw [← hleft]
    exact (hsame {} [.indexed f] [] .null [] [] "" [] [] ⟨0, 1⟩ []).symm
  · rw [cascade_get?]
    simp [cascadeValue?, candidatesFor, Candidate.best?, happlies, hvalue]

end AccessAudit
