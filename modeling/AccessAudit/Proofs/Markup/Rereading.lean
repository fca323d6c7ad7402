import AccessAudit.Markup.Reading
import AccessAudit.Proofs.Schema.Rereading
import AccessAudit.Proofs.Text.Normal

/-!
# Trees that are written and read again

Reading an element brings its tag and the names of its attributes to their usual form, and turns
down two attributes of one name (`readPairs_of_clash`). What it establishes is kept by writing and
reading again: a tree that is constructed in that way is read back as itself, however it was put
together, if it is not too deep for the reader (`okIff_tree`). How deep a tree is for the reader is
`Node.levels`; trees that were read are never too deep.
-/

namespace AccessAudit

open Text

/-! ## Results that depend on a condition -/

namespace Checked

variable {α β : Type} {p q : Prop}

/-- The result is a value if the condition holds, and is turned down otherwise. -/
def OkIff (p : Prop) (a : α) (x : Checked α) : Prop :=
  (p → x = .ok a) ∧ (¬ p → ∃ faults, x = .refused faults)

theorem OkIff.ok (a : α) : OkIff True a (.ok a) := by
  refine ⟨fun _ => rfl, fun h => absurd trivial h⟩

theorem OkIff.refused {a : α} {x : Checked α} {faults : List Fault} (hx : x = .refused faults)
    (hp : ¬ p) : OkIff p a x :=
  ⟨fun h => absurd h hp, fun _ => ⟨faults, hx⟩⟩

theorem OkIff.congr {a : α} {x : Checked α} (h : OkIff p a x) (hiff : p ↔ q) : OkIff q a x :=
  propext hiff ▸ h

theorem OkIff.of_ok {a b : α} {x : Checked α} (h : OkIff p a x) (hx : x = .ok b) : p := by
  apply Classical.byContradiction
  intro hp
  obtain ⟨faults, hfaults⟩ := h.2 hp
  cases hx.symm.trans hfaults

theorem OkIff.eq_of_ok {a b : α} {x : Checked α} (h : OkIff p a x) (hx : x = .ok b) : b = a :=
  Checked.ok.inj (hx.symm.trans (h.1 (h.of_ok hx)))

theorem OkIff.map {a : α} {x : Checked α} (h : OkIff p a x) (f : α → β) :
    OkIff p (f a) (f <$> x) := by
  refine ⟨?_, ?_⟩
  · intro hp
    rw [h.1 hp]
    rfl
  · intro hp
    obtain ⟨faults, hx⟩ := h.2 hp
    rw [hx]
    exact ⟨faults, rfl⟩

theorem OkIff.seq {f : α → β} {a : α} {g : Checked (α → β)} {x : Checked α} (hg : OkIff p f g)
    (hx : OkIff q a x) : OkIff (p ∧ q) (f a) (g <*> x) := by
  refine ⟨?_, ?_⟩
  · intro hpq
    rw [hg.1 hpq.1, hx.1 hpq.2]
    rfl
  · intro hpq
    by_cases hp : p
    · obtain ⟨faults, hx⟩ := hx.2 fun hq => hpq ⟨hp, hq⟩
      rw [hg.1 hp, hx]
      exact ⟨faults, rfl⟩
    · obtain ⟨faults, hg⟩ := hg.2 hp
      rw [hg]
      by_cases hq : q
      · rw [hx.1 hq]
        exact ⟨faults, rfl⟩
      · obtain ⟨more, hx⟩ := hx.2 hq
        rw [hx]
        exact ⟨faults ++ more, rfl⟩

theorem OkIff.under {a : α} {x : Checked α} (h : OkIff p a x) (step : String) :
    OkIff p a (x.under step) := by
  refine ⟨?_, ?_⟩
  · intro hp
    rw [h.1 hp]
    rfl
  · intro hp
    obtain ⟨faults, hx⟩ := h.2 hp
    rw [hx]
    exact ⟨_, rfl⟩

end Checked

/-! ## Attributes -/

/-- The names of pairs in their usual form. -/
def attributeNames (pairs : List (Json × Json)) : List String :=
  pairs.map fun pair => normalize pair.1.text

/-- The attributes that pairs describe. -/
def attributeEntries (pairs : List (Json × Json)) : Entries String :=
  pairs.map fun pair => (normalize pair.1.text, attributeText pair.2)

/-- Pairs as values. -/
def pairValues (pairs : List (Json × Json)) : List Json :=
  pairs.map fun pair => .arr [pair.1, pair.2]

theorem Entries.has_iff {α : Type} {entries : Entries α} {name : String} :
    entries.has name = true ↔ name ∈ entries.names := by
  simp [Entries.has, Entries.names]

/-- The fault of a second attribute of a name. -/
def duplicateAttribute (key : String) : Cause := .value ("duplicate attribute '" ++ key ++ "'")

theorem readPairs_cons (done : Entries String) (pair : Json × Json) (pairs : List (Json × Json)) :
    readPairs done (pairValues (pair :: pairs)) =
      if done.has (normalize pair.1.text) then .fault (duplicateAttribute (normalize pair.1.text))
      else readPairs (done ++ attributeEntries [pair]) (pairValues pairs) := by
  rw [pairValues, List.map_cons, readPairs]
  rfl

theorem names_append_entry (done : Entries String) (pair : Json × Json) :
    (done ++ attributeEntries [pair]).names = done.names ++ [normalize pair.1.text] := by
  simp [Entries.names, attributeEntries]

theorem nodup_append_entry {done : Entries String} {pair : Json × Json} (hdone : done.names.Nodup)
    (hnew : normalize pair.1.text ∉ done.names) :
    (done ++ attributeEntries [pair]).names.Nodup := by
  rw [names_append_entry]
  refine List.nodup_append.mpr ⟨hdone, by simp, ?_⟩
  rintro name hname _ hkey rfl
  rw [List.mem_singleton.mp hkey] at hname
  exact hnew hname

/-- Pairs of different names are the attributes, in order. -/
theorem readPairs_of_nodup (pairs : List (Json × Json)) (done : Entries String)
    (h : (done.names ++ attributeNames pairs).Nodup) :
    readPairs done (pairValues pairs) = .ok (done ++ attributeEntries pairs) := by
  induction pairs generalizing done with
  | nil => simp [pairValues, attributeEntries, readPairs]
  | cons pair rest ih =>
    have hnew : normalize pair.1.text ∉ done.names := by
      intro hold
      exact (List.nodup_append.mp h).2.2 _ hold _ List.mem_cons_self rfl
    have hrest : ((done ++ attributeEntries [pair]).names ++ attributeNames rest).Nodup := by
      rwa [names_append_entry, List.append_assoc]
    rw [readPairs_cons, if_neg (mt Entries.has_iff.mp hnew), ih _ hrest]
    simp [attributeEntries]

/-- Of pairs with a name twice, the first that repeats a name before it is turned down. -/
theorem readPairs_of_clash (pairs : List (Json × Json)) (done : Entries String)
    (hdone : done.names.Nodup) (h : ¬ (done.names ++ attributeNames pairs).Nodup) :
    ∃ before key after, attributeNames pairs = before ++ key :: after ∧
      (done.names ++ before).Nodup ∧ key ∈ done.names ++ before ∧
      readPairs done (pairValues pairs) = .fault (duplicateAttribute key) := by
  induction pairs generalizing done with
  | nil => exact absurd (by simpa [attributeNames] using hdone) h
  | cons pair rest ih =>
    rw [readPairs_cons]
    by_cases hold : normalize pair.1.text ∈ done.names
    · refine ⟨[], _, attributeNames rest, rfl, by simpa using hdone, by simpa using hold, ?_⟩
      rw [if_pos (Entries.has_iff.mpr hold)]
    · have hclash : ¬ ((done ++ attributeEntries [pair]).names ++ attributeNames rest).Nodup := by
        rwa [names_append_entry, List.append_assoc]
      obtain ⟨before, key, after, hsplit, hbefore, hkey, hread⟩ :=
        ih _ (nodup_append_entry hdone hold) hclash
      rw [names_append_entry, List.append_assoc] at hbefore hkey
      refine ⟨normalize pair.1.text :: before, key, after, ?_, hbefore, hkey, ?_⟩
      · exact congrArg (normalize pair.1.text :: ·) hsplit
      · rw [if_neg (mt Entries.has_iff.mp hold), hread]

/-- What reading establishes of attributes: the names are in their usual form, and differ. -/
structure Settled (attributes : Entries String) : Prop where
  nodup : attributes.names.Nodup
  normal : ∀ name ∈ attributes.names, normalize name = name

theorem Settled.append_entry {done : Entries String} (h : Settled done) (pair : Json × Json)
    (hnew : normalize pair.1.text ∉ done.names) : Settled (done ++ attributeEntries [pair]) := by
  refine ⟨nodup_append_entry h.nodup hnew, ?_⟩
  intro name hname
  rw [names_append_entry, List.mem_append, List.mem_singleton] at hname
  rcases hname with hold | rfl
  · exact h.normal name hold
  · exact normalize_normalize _

theorem settled_of_readPairs (items : List Json) {done attributes : Entries String}
    (hdone : Settled done) (h : readPairs done items = .ok attributes) : Settled attributes := by
  induction items generalizing done with
  | nil =>
    cases h
    exact hdone
  | cons v rest ih =>
    rw [readPairs] at h
    obtain ⟨⟨name, value⟩, -, hstep⟩ := Checked.andThen_eq_ok h
    dsimp only at hstep
    by_cases hold : done.has (normalize name.text) = true
    · rw [if_pos hold] at hstep
      cases hstep
    · rw [if_neg hold] at hstep
      exact ih (hdone.append_entry (name, value) (mt Entries.has_iff.mpr hold)) hstep

theorem settled_of_readAttributes {v : Json} {attributes : Entries String}
    (h : readAttributes v = .ok attributes) : Settled attributes := by
  have hnone : Settled [] := ⟨List.nodup_nil, fun _ hname => nomatch hname⟩
  cases v with
  | null =>
    cases h
    exact hnone
  | obj fields => exact settled_of_readPairs _ hnone h
  | arr items => exact settled_of_readPairs _ hnone h
  | str s => exact settled_of_readPairs _ hnone h
  | bool b => cases h
  | int n => cases h
  | float x => cases h

/-- Attributes as pairs of texts. -/
def textPairs (attributes : Entries String) : List (Json × Json) :=
  attributes.map fun entry => (.str entry.1, .str entry.2)

theorem attributeNames_textPairs {attributes : Entries String} (h : Settled attributes) :
    attributeNames (textPairs attributes) = attributes.names := by
  simp only [attributeNames, textPairs, List.map_map, Entries.names]
  refine List.map_congr_left ?_
  intro entry hentry
  exact h.normal _ (List.mem_map_of_mem hentry)

theorem attributeEntries_textPairs {attributes : Entries String} (h : Settled attributes) :
    attributeEntries (textPairs attributes) = attributes := by
  simp only [attributeEntries, textPairs, List.map_map]
  refine (List.map_congr_left ?_).trans (List.map_id attributes)
  intro entry hentry
  simp only [Function.comp_apply, Json.text, attributeText]
  rw [h.normal _ (List.mem_map_of_mem hentry)]
  rfl

theorem readAttributes_dump {attributes : Entries String} (h : Settled attributes) :
    readAttributes (.obj (attributes.map fun entry => (entry.1, .str entry.2))) =
      .ok attributes := by
  have hread := readPairs_of_nodup (textPairs attributes) []
    (attributeNames_textPairs h ▸ h.nodup)
  rw [attributeEntries_textPairs h] at hread
  simp only [readAttributes, List.map_map]
  simp only [pairValues, textPairs, List.map_map] at hread
  exact hread

/-! ## Constructed trees -/

/-- The tag is the usual form of some value's text, and the attributes are read. -/
structure Element.Constructed (e : Element) : Prop where
  tag : ∃ v : Json, e.tag = normalize v.text
  attributes : ∃ v, readAttributes v = .ok e.attributes

/-- The nodes that can be put together from parts that are constructed. -/
inductive Node.Constructed : Node → Prop
  | element {e : Element} {children : List Node} (h : e.Constructed)
      (hchildren : ∀ child ∈ children, Node.Constructed child) :
      Node.Constructed (.element e children)
  | text (content : String) (location : Option Location) : Node.Constructed (.text content location)
  | comment (content : String) (location : Option Location) :
      Node.Constructed (.comment content location)

/-- A tree whose elements are all constructed. -/
def Tree.Constructed (t : Tree) : Prop := t.toNode.Constructed

/-- The levels of a location, if there is one. -/
def Location.levels (l : Option Location) : Nat := if l.isSome then 1 else 0

mutual

/-- How many levels a node has for a reader: each element is one, and so is a location. -/
def Node.levels : Node → Nat
  | .element e children => max (levelsIn children) (Location.levels e.location) + 1
  | .text _ location => Location.levels location
  | .comment _ location => Location.levels location

/-- The most levels of some nodes. -/
def Node.levelsIn : List Node → Nat
  | [] => 0
  | node :: rest => max node.levels (levelsIn rest)

end

variable {limit : Nat}

theorem readLocation_dump (depth : Nat) (l : Location) : readLocation limit depth l.dump =
    some <$> if depth < limit then Location.read l.dump else .fault .recursionLoop := rfl

theorem okIff_location {depth : Nat} (h : depth ≤ limit) (l : Option Location) :
    (readLocation limit depth ((l.map Location.dump).getD .null)).OkIff
      (depth + Location.levels l ≤ limit) l := by
  cases l with
  | none => exact (Checked.OkIff.ok none).congr (iff_of_true trivial h)
  | some l =>
    have hiff : depth < limit ↔ depth + Location.levels (some l) ≤ limit :=
      Nat.lt_iff_add_one_le
    rw [Option.map_some, Option.getD_some, readLocation_dump]
    refine Checked.OkIff.congr (Checked.OkIff.map ?_ some) hiff
    by_cases hdepth : depth < limit
    · rw [if_pos hdepth, Location.read_dump]
      exact (Checked.OkIff.ok l).congr (iff_of_true trivial hdepth)
    · rw [if_neg hdepth]
      exact Checked.OkIff.refused rfl hdepth

/-- The tree of parts that were read. -/
def Tree.ofParts (_ tag : String) (attributes : Entries String) (content : List Node)
    (location : Option Location) (uid : Option String) : Tree :=
  ⟨Element.of tag attributes location uid, content⟩

theorem readElement_dump (depth : Nat) (e : Element) (written : List Json)
    (content : Checked (List Node)) {fields : Entries Json} (h : e.dump written = .obj fields) :
    readElement limit depth fields content = Tree.ofParts <$> .ok "element"
      <*> .ok (normalize e.tag)
      <*> (readAttributes (.obj (e.attributes.map fun entry => (entry.1, .str entry.2)))).under
        "attributes"
      <*> content
      <*> (readLocation limit depth ((e.location.map Location.dump).getD .null)).under "location"
      <*> (Schema.optional Schema.text ((e.uid.map Json.str).getD .null)).under "uid" := by
  cases h
  rfl

theorem okIff_readElement {e : Element} (he : e.Constructed) {depth : Nat}
    (hdepth : depth ≤ limit) {p : Prop} {children : List Node} {written : List Json}
    {content : Checked (List Node)} (hcontent : content.OkIff p children) {fields : Entries Json}
    (hfields : e.dump written = .obj fields) :
    (readElement limit depth fields content).OkIff
      (p ∧ depth + Location.levels e.location ≤ limit) ⟨e, children⟩ := by
  obtain ⟨⟨v, htag⟩, w, hattributes⟩ := he
  have htag' : normalize e.tag = e.tag := by rw [htag, normalize_normalize]
  have hlocation := (okIff_location hdepth e.location).under "location"
  rw [readElement_dump depth e written content hfields, htag',
    readAttributes_dump (settled_of_readAttributes hattributes), Schema.optional_text]
  have hnamed := ((Checked.OkIff.ok "element").map Tree.ofParts).seq (.ok e.tag)
  have hdescribed := hnamed.seq ((Checked.OkIff.ok e.attributes).under "attributes")
  have hplaced := (hdescribed.seq hcontent).seq hlocation
  exact (hplaced.seq ((Checked.OkIff.ok e.uid).under "uid")).congr (by simp)

theorem readChildrenField_dump (depth : Nat) (e : Element) (written : List Json)
    {fields : Entries Json} (h : e.dump written = .obj fields) :
    readChildrenField limit depth fields = (readNodes limit depth 0 written).under "children" := by
  cases h
  simp [readChildrenField, readChildren]

theorem readNode_dump (depth : Nat) (e : Element) (written : List Json) {fields : Entries Json}
    (h : e.dump written = .obj fields) :
    readNode limit depth (.obj fields) =
      (Tree.toNode <$> if depth < limit then
          readElement limit (depth + 1) fields
            ((readNodes limit (depth + 1) 0 written).under "children")
        else .fault .recursionLoop).under "element" := by
  rw [readNode, ← readChildrenField_dump (depth + 1) e written h]
  cases h
  rfl

theorem okIff_leaf {depth : Nat} (hdepth : depth ≤ limit)
    (make : String → Option Location → Node) (tag content : String) (location : Option Location)
    (hread : ∀ fields, dumpLeaf tag content location = .obj fields →
      readNode limit depth (.obj fields) = (readLeaf limit depth tag make fields).under tag) :
    (readNode limit depth (dumpLeaf tag content location)).OkIff
      (depth + Location.levels location ≤ limit) (make content location) := by
  obtain ⟨fields, hfields⟩ : ∃ fields, dumpLeaf tag content location = .obj fields := ⟨_, rfl⟩
  have hleaf : readLeaf limit depth tag make fields =
      (fun _ content location => make content location)
        <$> (Schema.literal [tag] (.str tag)).under "node_type" <*> .ok content
        <*> (readLocation limit depth ((location.map Location.dump).getD .null)).under
          "location" := by
    cases hfields
    rfl
  have htag : Schema.literal [tag] (.str tag) = .ok tag := by simp [Schema.literal]
  rw [hfields, hread fields hfields, hleaf, htag]
  refine Checked.OkIff.under ?_ tag
  have hlocation := (okIff_location hdepth location).under "location"
  have hmade := ((Checked.OkIff.ok tag).under "node_type").map
    fun _ content location => make content location
  exact ((hmade.seq (.ok content)).seq hlocation).congr (by simp)

mutual

/-- A constructed node is read back as itself if it is not too deep. -/
theorem okIff_node : (n : Node) → n.Constructed → {depth : Nat} → depth ≤ limit →
    (readNode limit depth n.dump).OkIff (depth + n.levels ≤ limit) n
  | .element e children, h, depth, hdepth => by
    obtain ⟨he, hchildren⟩ : e.Constructed ∧ ∀ child ∈ children, child.Constructed := by
      cases h with
      | element he hchildren => exact ⟨he, hchildren⟩
    obtain ⟨fields, hfields⟩ : ∃ fields, e.dump (dumpNodes children) = .obj fields := ⟨_, rfl⟩
    rw [Node.dump, hfields, readNode_dump depth e (dumpNodes children) hfields, Node.levels]
    refine Checked.OkIff.under ?_ "element"
    by_cases hlt : depth < limit
    · rw [if_pos hlt]
      have hcontent := (okIff_nodes children hchildren hlt 0).under "children"
      refine ((okIff_readElement he hlt hcontent hfields).map Tree.toNode).congr ?_
      omega
    · rw [if_neg hlt]
      exact Checked.OkIff.refused rfl (by omega)
  | .text content location, _, _, hdepth => by
    rw [Node.dump, Node.levels]
    refine okIff_leaf hdepth .text "text" content location ?_
    intro fields hfields
    rw [readNode]
    cases hfields
    rfl
  | .comment content location, _, _, hdepth => by
    rw [Node.dump, Node.levels]
    refine okIff_leaf hdepth .comment "comment" content location ?_
    intro fields hfields
    rw [readNode]
    cases hfields
    rfl

theorem okIff_nodes : (children : List Node) → (∀ child ∈ children, child.Constructed) →
    {depth : Nat} → depth ≤ limit → (place : Nat) →
    (readNodes limit depth place (dumpNodes children)).OkIff
      (depth + Node.levelsIn children ≤ limit) children
  | [], _, depth, hdepth, place => by
    rw [dumpNodes, readNodes, Node.levelsIn]
    exact (Checked.OkIff.ok []).congr (by simpa using hdepth)
  | node :: rest, h, depth, hdepth, place => by
    have hnode := okIff_node node (h node List.mem_cons_self) hdepth
    have hrest := okIff_nodes rest (fun other hother => h other (List.mem_cons_of_mem _ hother))
      hdepth (place + 1)
    rw [dumpNodes, readNodes, Node.levelsIn]
    refine (((hnode.under (toString place)).map List.cons).seq hrest).congr ?_
    omega

end

theorem read_obj (limit : Nat) (fields : Entries Json) : Tree.read (.obj fields) limit =
    if 0 < limit then readElement limit 1 fields (readChildrenField limit 1 fields)
    else .fault .recursionLoop := rfl

/-- A constructed tree is read back as itself if it is not too deep, and turned down otherwise. -/
theorem okIff_tree {t : Tree} (h : t.Constructed) (limit : Nat) :
    (Tree.read t.dump limit).OkIff (t.toNode.levels ≤ limit) t := by
  obtain ⟨e, children⟩ := t
  obtain ⟨he, hchildren⟩ : e.Constructed ∧ ∀ child ∈ children, child.Constructed := by
    cases h with
    | element he hchildren => exact ⟨he, hchildren⟩
  obtain ⟨fields, hfields⟩ : ∃ fields, e.dump (dumpNodes children) = .obj fields := ⟨_, rfl⟩
  rw [Tree.dump, Tree.toNode, Node.dump, hfields, read_obj, Node.levels,
    readChildrenField_dump 1 e (dumpNodes children) hfields]
  by_cases hone : 0 < limit
  · rw [if_pos hone]
    have hcontent := (okIff_nodes children hchildren hone 0).under "children"
    refine (okIff_readElement he hone hcontent hfields).congr ?_
    dsimp only
    omega
  · rw [if_neg hone]
    exact Checked.OkIff.refused rfl (by omega)

/-! ## Descriptions with attributes -/

/-- The tree with other attributes at its root. -/
def Tree.withAttributes (t : Tree) (attributes : Entries String) : Tree :=
  ⟨{ t.root with attributes }, t.children⟩

theorem read_attributes_cons (hlimit : 0 < limit) (attributes : Json) (rest : Entries Json) :
    Tree.read (.obj (("attributes", attributes) :: rest)) limit = Tree.ofParts
      <$> Schema.field rest "node_type" "element" (Schema.literal ["element"])
      <*> Schema.required rest "tag" (fun v => .ok (normalize v.text))
      <*> (readAttributes attributes).under "attributes"
      <*> readChildrenField limit 1 rest
      <*> Schema.field rest "location" none (readLocation limit 1)
      <*> Schema.field rest "uid" none (Schema.optional Schema.text) := by
  have hcontent : readChildrenField limit 1 (("attributes", attributes) :: rest) =
      readChildrenField limit 1 rest := by
    rw [readChildrenField]
    rfl
  rw [← hcontent, read_obj, if_pos hlimit]
  rfl

/-- Nothing is read where not even one element may stand. -/
theorem pos_of_read {v : Json} {t : Tree} (h : Tree.read v limit = .ok t) : 0 < limit := by
  rcases Nat.eq_zero_or_pos limit with rfl | hpos
  · cases v <;> cases h
  · exact hpos

/-- Where a description fits without attributes, the attributes alone decide. -/
theorem read_attributes {rest : Entries Json} {t : Tree}
    (h : Tree.read (.obj (("attributes", .arr []) :: rest)) limit = .ok t) (attributes : Json) :
    Tree.read (.obj (("attributes", attributes) :: rest)) limit =
      t.withAttributes <$> (readAttributes attributes).under "attributes" := by
  have hlimit := pos_of_read h
  rw [read_attributes_cons hlimit] at h
  obtain ⟨_, uid, hplaced, huid, rfl⟩ := Checked.seq_eq_ok h
  obtain ⟨_, location, hfilled, hlocation, rfl⟩ := Checked.seq_eq_ok hplaced
  obtain ⟨_, children, hdescribed, hcontent, rfl⟩ := Checked.seq_eq_ok hfilled
  obtain ⟨_, none, hnamed, -, rfl⟩ := Checked.seq_eq_ok hdescribed
  obtain ⟨_, tag, htyped, htag, rfl⟩ := Checked.seq_eq_ok hnamed
  obtain ⟨kind, hkind, rfl⟩ := Checked.map_eq_ok htyped
  rw [read_attributes_cons hlimit, hkind, htag, hcontent, hlocation, huid]
  cases (readAttributes attributes).under "attributes" <;> rfl

/-- Pairs of different names become the attributes. -/
theorem read_pairs_of_nodup {rest : Entries Json} {t : Tree}
    (h : Tree.read (.obj (("attributes", .arr []) :: rest)) limit = .ok t)
    {pairs : List (Json × Json)} (hnodup : (attributeNames pairs).Nodup) :
    Tree.read (.obj (("attributes", .arr (pairValues pairs)) :: rest)) limit =
      .ok (t.withAttributes (attributeEntries pairs)) := by
  have hread : readAttributes (.arr (pairValues pairs)) = .ok (attributeEntries pairs) :=
    readPairs_of_nodup pairs [] hnodup
  rw [read_attributes h, hread]
  rfl

/-- Of pairs with a name twice, the first that repeats a name is the only fault. -/
theorem read_pairs_of_clash {rest : Entries Json} {t : Tree}
    (h : Tree.read (.obj (("attributes", .arr []) :: rest)) limit = .ok t)
    {pairs : List (Json × Json)} (hclash : ¬ (attributeNames pairs).Nodup) :
    ∃ before key after, attributeNames pairs = before ++ key :: after ∧ before.Nodup ∧
      key ∈ before ∧ Tree.read (.obj (("attributes", .arr (pairValues pairs)) :: rest)) limit =
        .refused [⟨["attributes"], duplicateAttribute key⟩] := by
  obtain ⟨before, key, after, hsplit, hbefore, hkey, hread⟩ :=
    readPairs_of_clash pairs [] List.nodup_nil hclash
  refine ⟨before, key, after, hsplit, hbefore, hkey, ?_⟩
  have hread' : readAttributes (.arr (pairValues pairs)) = .fault (duplicateAttribute key) := hread
  rw [read_attributes h, hread']
  rfl

/-! ## Trees that were read -/

theorem levels_of_readLocation {depth : Nat} (hdepth : depth ≤ limit) {v : Json}
    {l : Option Location} (h : readLocation limit depth v = .ok l) :
    depth + Location.levels l ≤ limit := by
  cases l with
  | none => exact hdepth
  | some l =>
    by_cases hlt : depth < limit
    · exact Nat.lt_iff_add_one_le.mp hlt
    · have hv : v ≠ .null := by
        rintro rfl
        cases h
      rw [readLocation, Schema.optional_of_ne_null hv, if_neg hlt] at h
      cases h

theorem levels_of_field {depth : Nat} (hdepth : depth ≤ limit) {fields : Entries Json}
    {l : Option Location}
    (h : Schema.field fields "location" none (readLocation limit depth) = .ok l) :
    depth + Location.levels l ≤ limit := by
  obtain rfl | ⟨v, hv⟩ := Schema.field_eq_ok h
  · exact hdepth
  · exact levels_of_readLocation hdepth hv

theorem constructed_of_readElement {depth : Nat} (hdepth : depth ≤ limit)
    {fields : Entries Json} {content : Checked (List Node)} {t : Tree}
    (h : readElement limit depth fields content = .ok t) :
    t.root.Constructed ∧ content = .ok t.children ∧
      depth + Location.levels t.root.location ≤ limit := by
  obtain ⟨_, uid, hplaced, -, rfl⟩ := Checked.seq_eq_ok h
  obtain ⟨_, location, hfilled, hlocation, rfl⟩ := Checked.seq_eq_ok hplaced
  obtain ⟨_, children, hdescribed, hcontent, rfl⟩ := Checked.seq_eq_ok hfilled
  obtain ⟨_, attributes, hnamed, hattributes, rfl⟩ := Checked.seq_eq_ok hdescribed
  obtain ⟨_, tag, htyped, htag, rfl⟩ := Checked.seq_eq_ok hnamed
  obtain ⟨_, -, rfl⟩ := Checked.map_eq_ok htyped
  obtain ⟨v, hv⟩ := Schema.required_eq_ok htag
  refine ⟨⟨⟨v, (Checked.ok.inj hv).symm⟩, ?_⟩, hcontent, levels_of_field hdepth hlocation⟩
  obtain rfl | hread := Schema.field_eq_ok hattributes
  · exact ⟨.null, rfl⟩
  · exact hread

theorem levels_of_readLeaf {depth : Nat} (hdepth : depth ≤ limit) {tag : String}
    {make : String → Option Location → Node} {fields : Entries Json} {n : Node}
    (h : readLeaf limit depth tag make fields = .ok n) :
    ∃ content location, n = make content location ∧
      depth + Location.levels location ≤ limit := by
  obtain ⟨_, location, hfilled, hlocation, rfl⟩ := Checked.seq_eq_ok h
  obtain ⟨_, content, htyped, -, rfl⟩ := Checked.seq_eq_ok hfilled
  obtain ⟨_, -, rfl⟩ := Checked.map_eq_ok htyped
  exact ⟨content, location, rfl, levels_of_field hdepth hlocation⟩

mutual

theorem constructed_of_readNode : (v : Json) → {depth : Nat} → {n : Node} →
    readNode limit depth v = .ok n → depth ≤ limit →
    n.Constructed ∧ depth + n.levels ≤ limit
  | .obj fields, depth, n, h, hdepth => by
    rw [readNode] at h
    split at h
    · cases h
    · dsimp only at h
      by_cases hlt : depth < limit
      · rw [if_pos hlt] at h
        obtain ⟨t, ht, rfl⟩ := Checked.map_eq_ok (Checked.under_eq_ok h)
        obtain ⟨hroot, hcontent, hlocation⟩ := constructed_of_readElement hlt ht
        obtain ⟨hchildren, hlevels⟩ := constructed_of_readChildrenField fields hcontent hlt
        refine ⟨.element hroot hchildren, ?_⟩
        rw [Tree.toNode, Node.levels]
        omega
      · rw [if_neg hlt] at h
        cases h
    · obtain ⟨content, location, rfl, hlevels⟩ :=
        levels_of_readLeaf hdepth (Checked.under_eq_ok h)
      exact ⟨.text content location, by rwa [Node.levels]⟩
    · obtain ⟨content, location, rfl, hlevels⟩ :=
        levels_of_readLeaf hdepth (Checked.under_eq_ok h)
      exact ⟨.comment content location, by rwa [Node.levels]⟩
    · cases h
  | .null, _, _, h, _ => by simp [readNode, Checked.fault] at h
  | .bool _, _, _, h, _ => by simp [readNode, Checked.fault] at h
  | .int _, _, _, h, _ => by simp [readNode, Checked.fault] at h
  | .float _, _, _, h, _ => by simp [readNode, Checked.fault] at h
  | .str _, _, _, h, _ => by simp [readNode, Checked.fault] at h
  | .arr _, _, _, h, _ => by simp [readNode, Checked.fault] at h

theorem constructed_of_readNodes : (items : List Json) → {depth place : Nat} → {nodes : List Node} →
    readNodes limit depth place items = .ok nodes → depth ≤ limit →
    (∀ n ∈ nodes, n.Constructed) ∧ depth + Node.levelsIn nodes ≤ limit
  | [], _, _, _, h, hdepth => by
    rw [readNodes] at h
    cases h
    exact ⟨by simp, by rwa [Node.levelsIn]⟩
  | v :: rest, _, _, _, h, hdepth => by
    rw [readNodes] at h
    obtain ⟨_, nodes, hhead, hrest, rfl⟩ := Checked.seq_eq_ok h
    obtain ⟨n, hn, rfl⟩ := Checked.map_eq_ok hhead
    obtain ⟨hfirst, hlevel⟩ := constructed_of_readNode v (Checked.under_eq_ok hn) hdepth
    obtain ⟨hothers, hlevels⟩ := constructed_of_readNodes rest hrest hdepth
    refine ⟨List.forall_mem_cons.mpr ⟨hfirst, hothers⟩, ?_⟩
    rw [Node.levelsIn]
    omega

theorem constructed_of_readChildrenField : (fields : List (String × Json)) → {depth : Nat} →
    {nodes : List Node} → readChildrenField limit depth fields = .ok nodes → depth ≤ limit →
    (∀ n ∈ nodes, n.Constructed) ∧ depth + Node.levelsIn nodes ≤ limit
  | [], _, _, h, hdepth => by
    rw [readChildrenField] at h
    cases h
    exact ⟨by simp, by rwa [Node.levelsIn]⟩
  | (name, value) :: rest, _, _, h, hdepth => by
    rw [readChildrenField] at h
    split at h
    · exact constructed_of_readChildren value (Checked.under_eq_ok h) hdepth
    · exact constructed_of_readChildrenField rest h hdepth

theorem constructed_of_readChildren : (v : Json) → {depth : Nat} → {nodes : List Node} →
    readChildren limit depth v = .ok nodes → depth ≤ limit →
    (∀ n ∈ nodes, n.Constructed) ∧ depth + Node.levelsIn nodes ≤ limit
  | .arr items, _, _, h, hdepth => by
    rw [readChildren] at h
    exact constructed_of_readNodes items h hdepth
  | .null, _, _, h, _ => by simp [readChildren, Checked.fault] at h
  | .bool _, _, _, h, _ => by simp [readChildren, Checked.fault] at h
  | .int _, _, _, h, _ => by simp [readChildren, Checked.fault] at h
  | .float _, _, _, h, _ => by simp [readChildren, Checked.fault] at h
  | .str _, _, _, h, _ => by simp [readChildren, Checked.fault] at h
  | .obj _, _, _, h, _ => by simp [readChildren, Checked.fault] at h

end

/-- What is read is constructed, and not too deep to be read again. -/
theorem constructed_of_read {v : Json} {t : Tree} (h : Tree.read v limit = .ok t) :
    t.Constructed ∧ t.toNode.levels ≤ limit := by
  have hone := pos_of_read h
  cases v with
  | obj fields =>
    rw [read_obj, if_pos hone] at h
    obtain ⟨hroot, hcontent, hlocation⟩ := constructed_of_readElement hone h
    obtain ⟨hchildren, hlevels⟩ := constructed_of_readChildrenField fields hcontent hone
    refine ⟨.element hroot hchildren, ?_⟩
    rw [Tree.toNode, Node.levels]
    omega
  | _ => cases h

/-! ## The written form -/

theorem itemsHeight_le_element (e : Element) (written : List Json) :
    Json.itemsHeight written + 2 ≤ (e.dump written).height := by
  simp only [Element.dump, Json.height, Json.fieldsHeight]
  omega

mutual

/-- Each element takes two of the values that lie inside each other. -/
theorem depth_le_height : (n : Node) → 2 * n.depth ≤ n.dump.height
  | .element e children => by
    have hchildren := depthIn_le_itemsHeight children
    have helement := itemsHeight_le_element e (dumpNodes children)
    rw [Node.depth, Node.dump]
    omega
  | .text content location => by simp [Node.depth]
  | .comment content location => by simp [Node.depth]

theorem depthIn_le_itemsHeight : (nodes : List Node) →
    2 * Node.depthIn nodes ≤ Json.itemsHeight (dumpNodes nodes)
  | [] => by simp [Node.depthIn]
  | node :: rest => by
    have hnode := depth_le_height node
    have hrest := depthIn_le_itemsHeight rest
    rw [dumpNodes, Node.depthIn, Json.itemsHeight]
    omega

end

mutual

theorem finite_node : (n : Node) → n.dump.Finite
  | .element e children => by
    rw [Node.dump]
    exact ⟨trivial, trivial, Json.finiteFields_texts e.attributes, finite_nodes children,
      Json.finite_location? e.location, Json.finite_text? e.uid, trivial⟩
  | .text content location => by
    rw [Node.dump]
    exact ⟨trivial, trivial, Json.finite_location? location, trivial⟩
  | .comment content location => by
    rw [Node.dump]
    exact ⟨trivial, trivial, Json.finite_location? location, trivial⟩

theorem finite_nodes : (nodes : List Node) → Json.FiniteItems (dumpNodes nodes)
  | [] => by
    rw [dumpNodes]
    trivial
  | node :: rest => by
    rw [dumpNodes]
    exact ⟨finite_node node, finite_nodes rest⟩

end

end AccessAudit
