import AccessAudit.Proofs.Document.Ids
import AccessAudit.Proofs.Style.Block

/-!
# Writing to an attribute

A correction asks for a value to be written to an attribute of one element. What that does to a
document is said by one equation: at the key of the element there is the element with the value, and
every other key has the element it had (`elementAt?_writeTo`). So no element moves, and if the
attribute is not the id, every id goes on leading where it led. Only the references in the attribute
that is written to are read anew (`references_write`).
-/

namespace AccessAudit

open Text

/-! ## Elements and fragments -/

/-- The element with a value written to an attribute. -/
def Element.write (e : Element) (name value : String) : Element :=
  { e with attributes := e.attributes.put name value }

/-- The fragment with a value written to an attribute of one element. -/
def Fragment.write (f : Fragment) (order : Nat) (name value : String) : Fragment :=
  { f with entries := f.entries.modify order fun entry =>
      { entry with element := entry.element.write name value } }

section Parts

variable {name value : String}

theorem Element.valueOf_write (e : Element) (p : String) :
    (e.write name value).valueOf p = if p = name then value else e.valueOf p := by
  unfold Element.valueOf Element.get? Element.write
  rw [Entries.get?_put]
  split
  · rfl
  · rfl

theorem Element.id?_write (e : Element) (hname : name ≠ "id") :
    (e.write name value).id? = e.id? := by
  unfold Element.id?
  rw [Element.valueOf_write, if_neg hname.symm]

theorem Fragment.size_write (f : Fragment) (order : Nat) :
    (f.write order name value).size = f.size := by
  simp [Fragment.write, Fragment.size]

theorem Fragment.element?_write (f : Fragment) (order other : Nat) :
    (f.write order name value).element? other =
      (f.element? other).map fun e => if other = order then e.write name value else e := by
  unfold Fragment.write Fragment.element?
  rw [Array.getElem?_modify]
  cases f.entries[other]? with
  | none => simp
  | some entry =>
    by_cases h : order = other
    · simp [h]
    · simp [h, Ne.symm h]

end Parts

/-! ## Documents -/

/-- The fragments with a value written to an attribute of one element. -/
def writeTo (fragments : Array Fragment) (key : Key) (name value : String) : Array Fragment :=
  fragments.modify key.fragment (·.write key.order name value)

/-- What a document with a value written to an attribute of one element is put together from. -/
def Document.write (d : Document) (key : Key) (name value : String) : List FragmentInput :=
  (writeTo d.fragments key name value).toList.map .indexed

section Frame

variable {fragments : Array Fragment} {key : Key} {name value : String}

theorem elementAt?_writeTo (other : Key) : elementAt? (writeTo fragments key name value) other =
    (elementAt? fragments other).map fun e => if other = key then e.write name value else e := by
  unfold elementAt? writeTo
  rw [Array.getElem?_modify]
  cases hf : fragments[other.fragment]? with
  | none => simp
  | some f =>
    by_cases hfragment : key.fragment = other.fragment
    · have hkey : other.order = key.order ↔ other = key := by
        rw [Key.mk.injEq, hfragment]
        simp
      simp [hfragment, Fragment.element?_write, hkey]
    · have hkey : other ≠ key := fun heq => hfragment (heq ▸ rfl)
      simp [hfragment, hkey]

theorem keysOf_writeTo : keysOf (writeTo fragments key name value) = keysOf fragments := by
  have hsizes (l : Array Fragment) : keysOf l =
      (l.toList.map Fragment.size).zipIdx.flatMap fun entry =>
        (List.range entry.1).map (⟨entry.2, ·⟩) := by
    rw [List.zipIdx_map, List.flatMap_map]
    rfl
  have hsame : (writeTo fragments key name value).toList.map Fragment.size =
      fragments.toList.map Fragment.size := by
    apply List.ext_getElem?
    intro place
    rw [writeTo, Array.toList_modify, List.getElem?_map, List.getElem?_map, List.getElem?_modify]
    cases fragments.toList[place]? with
    | none => rfl
    | some f =>
      by_cases h : key.fragment = place
      · simp [h, Fragment.size_write]
      · simp [h]
  rw [hsizes, hsame, ← hsizes]

theorem ownersOf_writeTo (hname : name ≠ "id") (id : String) :
    ownersOf (writeTo fragments key name value) id = ownersOf fragments id := by
  unfold ownersOf
  rw [keysOf_writeTo]
  apply List.filter_congr
  intro other _
  rw [elementAt?_writeTo]
  cases elementAt? fragments other with
  | none => rfl
  | some e =>
    by_cases h : other = key
    · simp [h, Element.id?_write e hname]
    · simp [h]

theorem indexInputs_indexed (fragments : List Fragment) (place : Nat) :
    (indexInputs place (fragments.map .indexed)).1 = fragments := by
  induction fragments generalizing place with
  | nil => rfl
  | cons f rest ih =>
    rw [List.map_cons, indexInputs]
    exact congrArg (f :: ·) (ih (place + 1))

end Frame

/-! ## References -/

/-- The reference that an id in an attribute is. -/
def Document.reading (d : Document) (key : Key) (name id : String) : Reference :=
  { source := key, name, id, target := d.elementById? id }

section References

variable {config : Config} {inputs : List FragmentInput} {scripts : List Script}
  {sheets : List StyleSheet} {scope : Json}

theorem references_eq_readings : (merge config inputs scripts sheets scope).references =
    (merge config inputs scripts sheets scope).keys.flatMap fun key =>
      referenceAttributes.flatMap fun name =>
        (words ((merge config inputs scripts sheets scope).valueOf key name)).map
          ((merge config inputs scripts sheets scope).reading key name) :=
  (idsAgree_of_tables references_merge duplicateIds_merge).references

variable (d : Document) {key : Key} {name : String} (value : String)

theorem fragments_write : (merge config (d.write key name value) scripts sheets scope).fragments =
    writeTo d.fragments key name value := by
  rw [fragments_merge, Document.write, indexInputs_indexed]

theorem keys_write :
    (merge config (d.write key name value) scripts sheets scope).keys = d.keys := by
  rw [Document.keys, fragments_write, keysOf_writeTo]
  rfl

theorem elementById?_write (hname : name ≠ "id") (id : String) :
    (merge config (d.write key name value) scripts sheets scope).elementById? id =
      d.elementById? id := by
  rw [Document.elementById?_eq_head?, fragments_write, ownersOf_writeTo hname,
    Document.elementById?_eq_head?]

theorem valueOf_write {other : Key} (hother : other ∈ d.keys) (p : String) :
    (merge config (d.write key name value) scripts sheets scope).valueOf other p =
      if other = key ∧ p = name then value else d.valueOf other p := by
  have hat : elementAt? d.fragments other = some (d.element other) :=
    Document.element?_of_mem_keys hother
  have helement : (merge config (d.write key name value) scripts sheets scope).element other =
      if other = key then (d.element other).write name value else d.element other := by
    rw [Document.element, Document.element?, fragments_write, elementAt?_writeTo, hat]
    rfl
  rw [Document.valueOf, helement]
  by_cases h : other = key
  · simp [h, Element.valueOf_write, Document.valueOf]
  · simp [h, Document.valueOf]

/-- The references of a document in which a value was written. -/
theorem references_write (hname : name ≠ "id") :
    (merge config (d.write key name value) scripts sheets scope).references =
      d.keys.flatMap fun other => referenceAttributes.flatMap fun p =>
        (words (if other = key ∧ p = name then value else d.valueOf other p)).map
          (d.reading other p) := by
  rw [references_eq_readings, keys_write]
  apply List.flatMap_congr
  intro other hother
  apply List.flatMap_congr
  intro p _
  rw [valueOf_write d value hother]
  apply List.map_congr_left
  intro id _
  simp only [Document.reading, elementById?_write d value hname]

end References

end AccessAudit
