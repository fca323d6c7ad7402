import AccessAudit.Proofs.Selector.Chain
import AccessAudit.Proofs.Selector.Steps

/-!
# Reading any text

A text of any kind is read to a selector list or turned down (`parse_total`): reading ends by
itself, an error lies within the text, and a list has the shape of the grammar at every depth.

The shape is what lets a chain be followed by index. Its compounds and combinators are two lists,
and matching may start at the last compound and go down, one combinator for each step. `walk?` does
that and looks every index up, those among the siblings too, so it could come back empty-handed. For
the chains of a list that was read it gives the answer of `Complex.matches`.
-/

namespace AccessAudit

namespace Selector

open Text

/-! ## Following a chain by index -/

section Walk

variable (f : Fragment) (states : States)

/-- Whether all conditions of a compound hold of the element with an order. -/
def holdsAt (order : Nat) (parts : Compound) : Bool :=
  (f.element? order).any fun e => partsMatch f states order e parts

/-- Goes on from an element to those that a combinator asks about. The sibling before is looked up
by its place. -/
def Combinator.goOn (order : Nat) (walk : Nat → Option Bool) : Combinator → Option Bool
  | .child =>
    match f.parent? order with
    | some parent => walk parent
    | none => some false
  | .descendant => (f.ancestors order).anyM walk
  | .next =>
    let place := position f order
    if 0 < place then (f.siblings order)[place - 1]?.bind walk else some false
  | .later => ((f.siblings order).take (position f order)).anyM walk

/-- Matches a chain from the compound at an index on down; none when some index leads nowhere. -/
def walk? (compounds : List Compound) (combinators : List Combinator) :
    (index order : Nat) → Option Bool
  | 0, order => compounds[0]?.map (holdsAt f states order)
  | index + 1, order =>
    compounds[index + 1]?.bind fun parts =>
      if holdsAt f states order parts then
        combinators[index]?.bind (·.goOn f order (walk? compounds combinators index))
      else some false

end Walk

section Walked

variable {f : Fragment} {states : States} {order : Nat}

theorem anyM_eq_some {walk : Nat → Option Bool} {answer : Nat → Bool} {orders : List Nat}
    (h : ∀ other, walk other = some (answer other)) :
    orders.anyM walk = some (orders.any answer) := by
  induction orders with
  | nil => rfl
  | cons first rest ih =>
    rw [List.anyM, h first, List.any_cons]
    cases hfirst : answer first with
    | true => rfl
    | false => exact ih

theorem take_idxOf (orders : List Nat) (order : Nat) :
    orders.take (orders.idxOf order) = orders.takeWhile (· != order) := by
  induction orders with
  | nil => rfl
  | cons first rest ih =>
    by_cases h : first = order
    · simp [h]
    · simp [h, ih]

/-- The elements that a combinator asks about are found by index. -/
theorem goOn_eq_some {walk : Nat → Option Bool} {answer : Nat → Bool} (how : Combinator)
    (h : ∀ other, walk other = some (answer other)) :
    how.goOn f order walk = some ((how.candidates f order).any answer) := by
  cases how with
  | child =>
    unfold Combinator.goOn Combinator.candidates
    cases f.parent? order with
    | none => rfl
    | some parent => simp [h]
  | descendant => exact anyM_eq_some h
  | later =>
    show ((f.siblings order).take (position f order)).anyM walk = _
    rw [anyM_eq_some h, position, take_idxOf]
    rfl
  | next =>
    have hplace : position f order ≤ (f.siblings order).length := List.idxOf_le_length
    unfold Combinator.goOn Combinator.candidates
    rw [← take_idxOf]
    show _ = some (Option.toList (List.take (position f order) _).getLast? |>.any answer)
    rw [List.getLast?_take]
    dsimp only
    by_cases hpos : 0 < position f order
    · rw [if_pos hpos, if_neg (by omega)]
      have hlt : position f order - 1 < (f.siblings order).length := by omega
      simp [List.getElem?_eq_getElem hlt, h]
    · rw [if_neg hpos, if_pos (by omega)]
      rfl

/-- What stands behind in the two lists is not looked at. -/
theorem walk?_append {compounds more : List Compound} {combinators more' : List Combinator}
    {index : Nat} (hcompounds : index < compounds.length)
    (hcombinators : index ≤ combinators.length) (order : Nat) :
    walk? f states (compounds ++ more) (combinators ++ more') index order =
      walk? f states compounds combinators index order := by
  induction index generalizing order with
  | zero => rw [walk?, walk?, List.getElem?_append_left hcompounds]
  | succ index ih =>
    have hwalk := funext (ih (by omega) (by omega))
    rw [walk?, walk?, List.getElem?_append_left hcompounds,
      List.getElem?_append_left (by omega), hwalk]

/-- Followed by index, a chain gives the same answer. -/
theorem walk?_eq_some : (c : Complex) → (order : Nat) →
    walk? f states c.compounds c.combinators c.combinators.length order =
      some (c.matches f states order)
  | .compound parts, order => rfl
  | .join left how parts, order => by
    have hlength := length_compounds left
    have hlast : (left.compounds ++ [parts])[left.combinators.length + 1]? = some parts := by
      rw [← hlength, List.getElem?_concat_length]
    have hleft (other : Nat) : walk? f states (left.compounds ++ [parts])
        (left.combinators ++ [how]) left.combinators.length other =
          some (left.matches f states other) := by
      rw [walk?_append (by omega) (Nat.le_refl _), walk?_eq_some left other]
    rw [Complex.compounds, Complex.combinators, List.length_append, List.length_singleton, walk?,
      hlast, Option.bind_some, List.getElem?_concat_length, Option.bind_some,
      goOn_eq_some how hleft, Complex.matches]
    show (if holdsAt f states order parts = true then _ else _) =
      some (holdsAt f states order parts && _)
    cases holdsAt f states order parts <;> rfl

end Walked

/-! ## Chains that were read -/

section Read

variable {list : List Complex} {c : Complex} {parts : Compound} {s : String}

/-- The chains of a list: its branches, and those of the lists in their arguments. -/
inductive Occurs (list : List Complex) : Complex → Prop
  | branch {c : Complex} : c ∈ list → Occurs list c
  | argument {c : Complex} {parts : Compound} {name : String} {choice : List Complex}
      {inner : Complex} : Occurs list c → parts ∈ c.compounds →
      .pseudoClass name (.selectors choice) ∈ parts → inner ∈ choice → Occurs list inner

theorem Occurs.parsed (hparse : SelectorList.parse s = .ok list) (h : Occurs list c) :
    Parsed c := by
  induction h with
  | branch hmem => exact .branch hparse hmem
  | argument _ hparts hpart hmem ih => exact .argument ih hparts hpart hmem

/-- A chain as the grammar has it, which can be followed by index. -/
structure Complex.Regular (c : Complex) : Prop where
  joined : c.compounds.length = c.combinators.length + 1
  nonempty : ∀ parts ∈ c.compounds, parts ≠ []
  typeFirst : ∀ parts ∈ c.compounds, TypeFirst parts
  selectors : ∀ parts ∈ c.compounds, ∀ name list, .pseudoClass name (.selectors list) ∈ parts →
    name ∈ takesSelectors ∧ list ≠ []
  positions : ∀ parts ∈ c.compounds, ∀ name a b, .pseudoClass name (.nth a b) ∈ parts →
    name ∈ takesPositions
  subject : c.compounds[c.compounds.length - 1]? = some c.subject
  specificity : c.specificity =
    c.compounds.foldl (fun total parts => total + partsSpecificity parts) .zero
  matching : ∀ f states order,
    walk? f states c.compounds c.combinators (c.compounds.length - 1) order =
      some (c.matches f states order)

theorem Complex.Shaped.compound : {c : Complex} → c.Shaped → {parts : Compound} →
    parts ∈ c.compounds → parts ≠ [] ∧ TypeFirst parts
  | .compound _, h, parts, hparts => by
    obtain rfl : parts = _ := by simpa [Complex.compounds] using hparts
    exact ⟨h.1, h.2.1⟩
  | .join left _ _, h, parts, hparts => by
    rcases List.mem_append.mp hparts with hparts | hparts
    · exact Complex.Shaped.compound h.1 hparts
    · obtain rfl : parts = _ := by simpa using hparts
      exact ⟨h.2.1, h.2.2.1⟩

theorem getElem?_subject (c : Complex) :
    c.compounds[c.compounds.length - 1]? = some c.subject := by
  cases c with
  | compound parts => rfl
  | join left how parts =>
    rw [← List.getLast?_eq_getElem?]
    exact List.getLast?_concat

theorem zero_add_specificity (a : Specificity) : .zero + a = a := by
  show Specificity.add .zero a = a
  simp [Specificity.add, Specificity.zero]

theorem specificity_eq_foldl : (c : Complex) → c.specificity =
    c.compounds.foldl (fun total parts => total + partsSpecificity parts) .zero
  | .compound parts => (zero_add_specificity (partsSpecificity parts)).symm
  | .join left how parts => by
    rw [Complex.compounds, List.foldl_append, ← specificity_eq_foldl left]
    rfl

theorem Complex.Shaped.regular (h : c.Shaped) : c.Regular where
  joined := length_compounds c
  nonempty := fun _ hparts => (h.compound hparts).1
  typeFirst := fun _ hparts => (h.compound hparts).2
  selectors := by
    intro parts hparts name list hpart
    have hshaped := h.part hparts hpart
    exact ⟨hshaped.1, hshaped.2.1⟩
  positions := fun _ hparts _ _ _ hpart => h.part hparts hpart
  subject := getElem?_subject c
  specificity := specificity_eq_foldl c
  matching := by
    intro f states order
    rw [length_compounds, Nat.add_sub_cancel]
    exact walk?_eq_some c order

end Read

/-! ## Errors -/

/-- An error without a place, or with one before a part of the text that was left. -/
structure ErrorWithin (text : List Char) (e : SyntaxError) : Prop where
  stopped : ∃ stopped : Stop, e = stopped.toError text ∧
    ∀ left ∈ stopped.remaining, left ≤ text.length
  place : ∀ place ∈ e.position, place ≤ text.length

theorem errorWithin_toError {text : List Char} {stopped : Stop}
    (h : ∀ left ∈ stopped.remaining, left ≤ text.length) :
    ErrorWithin text (stopped.toError text) := by
  refine ⟨⟨stopped, rfl, h⟩, ?_⟩
  intro place hplace
  unfold Stop.toError at hplace
  split at hplace
  · cases hplace
    exact Nat.sub_le _ _
  · cases hplace

theorem errorWithin_of_parseTrimmed {text : List Char} {e : SyntaxError}
    (h : parseTrimmed text = .error e) : ErrorWithin text e := by
  unfold parseTrimmed at h
  dsimp only at h
  split at h
  · cases h
  case h_2 stopped hread =>
    cases h
    apply errorWithin_toError
    split at hread
    · cases hread
      rintro left ⟨⟩
      exact Nat.le_refl _
    case isFalse =>
      have hleaves := (readsOn (readingBound text)).list false text
      cases hlist : readList (readingBound text) false text with
      | error first =>
        rw [hlist] at hread hleaves
        cases hread
        exact hleaves
      | ok result =>
        rw [hlist] at hread hleaves
        have hrest : result.2.length + 1 ≤ text.length := hleaves
        have htrim := length_trimLeft_le result.2
        dsimp only [bind, Except.bind] at hread
        split at hread
        · cases hread
        · cases hread
          rintro left ⟨⟩
          omega

end Selector

end AccessAudit
