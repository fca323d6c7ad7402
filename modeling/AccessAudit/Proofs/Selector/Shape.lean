import AccessAudit.Selector.Parser

/-!
# The shape of selectors that were read

The type of selectors leaves room for more than the grammar writes: an empty compound, a type
condition behind another one, `:hover` with a selector list. `Complex.Shaped` rules these out at
every depth, and `readsShaped` says that no reading function returns them.

The reading functions call each other with one step less each time, so what they return is
described for all six at once (`ReadsShaped`): the description for a number of steps follows from
the one for one step less.
-/

namespace AccessAudit

namespace Selector

open Text

/-! ## Shape -/

/-- A condition on the type, which goes before all others. -/
def Simple.isType : Simple → Bool
  | .type _ => true
  | .universal => true
  | _ => false

/-- No condition but the first is on the type. -/
def TypeFirst (parts : Compound) : Prop := ∀ part ∈ parts.tail, part.isType = false

mutual

/-- Only pseudo-classes made for it have an argument, and a selector list in it is not empty. -/
def Simple.Shaped : Simple → Prop
  | .pseudoClass name (.selectors list) => name ∈ takesSelectors ∧ list ≠ [] ∧ branchesShaped list
  | .pseudoClass name (.nth _ _) => name ∈ takesPositions
  | _ => True

/-- All conditions have the shape. -/
def partsShaped : List Simple → Prop
  | [] => True
  | part :: rest => part.Shaped ∧ partsShaped rest

/-- No compound is empty, and in none a condition on the type stands behind another one. -/
def Complex.Shaped : Complex → Prop
  | .compound parts => parts ≠ [] ∧ TypeFirst parts ∧ partsShaped parts
  | .join left _ parts => left.Shaped ∧ parts ≠ [] ∧ TypeFirst parts ∧ partsShaped parts

/-- All branches have the shape. -/
def branchesShaped : List Complex → Prop
  | [] => True
  | branch :: rest => branch.Shaped ∧ branchesShaped rest

end

theorem partsShaped_iff {parts : List Simple} :
    partsShaped parts ↔ ∀ part ∈ parts, part.Shaped := by
  induction parts with
  | nil => simp [partsShaped]
  | cons part rest ih => simp [partsShaped, ih]

theorem branchesShaped_iff {list : List Complex} :
    branchesShaped list ↔ ∀ branch ∈ list, branch.Shaped := by
  induction list with
  | nil => simp [branchesShaped]
  | cons branch rest ih => simp [branchesShaped, ih]

theorem Complex.Shaped.part : {c : Complex} → c.Shaped → {parts : Compound} →
    parts ∈ c.compounds → {part : Simple} → part ∈ parts → part.Shaped
  | .compound _, h, parts, hparts, part, hpart => by
    obtain rfl : parts = _ := by simpa [Complex.compounds] using hparts
    exact partsShaped_iff.mp h.2.2 part hpart
  | .join left _ _, h, parts, hparts, part, hpart => by
    rw [Complex.compounds, List.mem_append] at hparts
    rcases hparts with hparts | hparts
    · exact Complex.Shaped.part h.1 hparts hpart
    · obtain rfl : parts = _ := by simpa using hparts
      exact partsShaped_iff.mp h.2.2.2 part hpart

/-! ## What the readers return -/

theorem bind_eq_ok {α β : Type} {x : Read α} {next : α → Read β} {b : β}
    (h : (x >>= next) = .ok b) : ∃ a, x = .ok a ∧ next a = .ok b := by
  cases x with
  | error s => cases h
  | ok a => exact ⟨a, rfl, h⟩

theorem stop_ne_ok {α : Type} {reason : Reason} {left : List Char} {a : α} :
    stop reason left ≠ .ok a := nofun

variable {fuel : Nat} {nested : Bool} {name : String} {part : Simple} {parts done : List Simple}
  {cs rest : List Char}

theorem readAttribute_ok (h : readAttribute cs = .ok (part, rest)) :
    ∃ name test, part = .attribute name test := by
  obtain ⟨⟨name, after⟩, -, h⟩ := bind_eq_ok h
  dsimp only at h
  split at h
  · split at h
    · cases h
      exact ⟨_, _, rfl⟩
    · exact absurd h stop_ne_ok
  · obtain ⟨⟨value, after⟩, -, h⟩ := bind_eq_ok h
    dsimp only at h
    split at h
    · cases h
      exact ⟨_, _, rfl⟩
    · exact absurd h stop_ne_ok

theorem readRawArgument_ok (h : readRawArgument name cs = .ok (part, rest)) :
    part = .pseudoClass name .none ∨
      name ∈ takesPositions ∧ ∃ a b, part = .pseudoClass name (.nth a b) := by
  unfold readRawArgument at h
  split at h
  · exact absurd h stop_ne_ok
  · dsimp only at h
    split at h
    case isTrue hname =>
      split at h
      · cases h
        exact .inr ⟨List.contains_iff_mem.mp hname, _, _, rfl⟩
      · cases h
    case isFalse =>
      cases h
      exact .inl rfl

/-- What the readers return within a number of steps. -/
structure ReadsShaped (fuel : Nat) : Prop where
  list : ∀ {nested cs list rest}, readList fuel nested cs = .ok (list, rest) →
    list ≠ [] ∧ branchesShaped list
  complex : ∀ {nested cs c rest}, readComplex fuel nested cs = .ok (c, rest) → c.Shaped
  chain : ∀ {nested left cs c rest}, left.Shaped →
    readChain fuel nested left cs = .ok (c, rest) → c.Shaped
  compound : ∀ {cs parts rest}, readCompound fuel cs = .ok (parts, rest) →
    parts ≠ [] ∧ TypeFirst parts ∧ partsShaped parts
  -- the conditions before have the shape when put into the order in which they are written
  parts : ∀ {done cs parts rest}, TypeFirst done.reverse → partsShaped done.reverse →
    readParts fuel done cs = .ok (parts, rest) → parts ≠ [] ∧ TypeFirst parts ∧ partsShaped parts
  pseudo : ∀ {cs part rest}, readPseudo fuel cs = .ok (part, rest) →
    part.Shaped ∧ part.isType = false

theorem TypeFirst.push (h : TypeFirst done.reverse) (hpart : part.isType = false) :
    TypeFirst (part :: done).reverse := by
  intro other hother
  rw [List.reverse_cons] at hother
  cases hd : done.reverse with
  | nil => simp [hd] at hother
  | cons first tail =>
    rw [hd, List.cons_append, List.tail_cons, List.mem_append, List.mem_singleton] at hother
    rcases hother with hother | rfl
    · exact h other (by rw [hd]; exact hother)
    · exact hpart

theorem partsShaped_push (h : partsShaped done.reverse) (hpart : part.Shaped) :
    partsShaped (part :: done).reverse := by
  rw [partsShaped_iff] at h ⊢
  intro other hother
  rw [List.reverse_cons, List.mem_append, List.mem_singleton] at hother
  rcases hother with hother | rfl
  · exact h other hother
  · exact hpart

namespace ReadsShaped

theorem zero : ReadsShaped 0 where
  list h := absurd h stop_ne_ok
  complex h := absurd h stop_ne_ok
  chain _ h := absurd h stop_ne_ok
  compound h := absurd h stop_ne_ok
  parts _ _ h := absurd h stop_ne_ok
  pseudo h := absurd h stop_ne_ok

theorem list_succ (r : ReadsShaped fuel) {list : List Complex}
    (h : readList (fuel + 1) nested cs = .ok (list, rest)) : list ≠ [] ∧ branchesShaped list := by
  obtain ⟨⟨branch, after⟩, hbranch, h⟩ := bind_eq_ok h
  dsimp only at h
  split at h
  · obtain ⟨⟨others, left⟩, hothers, h⟩ := bind_eq_ok h
    cases h
    exact ⟨by simp, r.complex hbranch, (r.list hothers).2⟩
  · cases h
    exact ⟨by simp, r.complex hbranch, trivial⟩

theorem complex_succ (r : ReadsShaped fuel) {c : Complex}
    (h : readComplex (fuel + 1) nested cs = .ok (c, rest)) : c.Shaped := by
  obtain ⟨⟨parts, after⟩, hparts, h⟩ := bind_eq_ok h
  have hfirst : Complex.Shaped (.compound parts) := r.compound hparts
  exact r.chain hfirst h

theorem chain_succ (r : ReadsShaped fuel) {left c : Complex} (hleft : left.Shaped)
    (h : readChain (fuel + 1) nested left cs = .ok (c, rest)) : c.Shaped := by
  unfold readChain at h
  dsimp only at h
  split at h
  case h_1 =>
    cases h
    exact hleft
  case h_2 => exact absurd h stop_ne_ok
  case h_3 how _ =>
    obtain ⟨⟨parts, after⟩, hparts, h⟩ := bind_eq_ok h
    have hjoin : Complex.Shaped (.join left how parts) := ⟨hleft, r.compound hparts⟩
    exact r.chain hjoin h

theorem compound_succ (r : ReadsShaped fuel) (h : readCompound (fuel + 1) cs = .ok (parts, rest)) :
    parts ≠ [] ∧ TypeFirst parts ∧ partsShaped parts := by
  unfold readCompound at h
  split at h
  · exact r.parts (by simp [TypeFirst]) (by simp [partsShaped, Simple.Shaped]) h
  · split at h
    · exact r.parts (by simp [TypeFirst]) (by simp [partsShaped]) h
    · exact r.parts (by simp [TypeFirst]) (by simp [partsShaped, Simple.Shaped]) h

/-- Every condition that is read after the first has the shape, and is none on the type. -/
theorem parts_succ (r : ReadsShaped fuel) (hfirst : TypeFirst done.reverse)
    (hdone : partsShaped done.reverse) (h : readParts (fuel + 1) done cs = .ok (parts, rest)) :
    parts ≠ [] ∧ TypeFirst parts ∧ partsShaped parts := by
  have push {part : Simple} {left : List Char}
      (h : readParts fuel (part :: done) left = .ok (parts, rest))
      (hpart : part.Shaped ∧ part.isType = false) :
      parts ≠ [] ∧ TypeFirst parts ∧ partsShaped parts :=
    r.parts (hfirst.push hpart.2) (partsShaped_push hdone hpart.1) h
  unfold readParts at h
  split at h
  · obtain ⟨_, -, h⟩ := bind_eq_ok h
    exact push h ⟨trivial, rfl⟩
  · obtain ⟨_, -, h⟩ := bind_eq_ok h
    exact push h ⟨trivial, rfl⟩
  · obtain ⟨⟨part, left⟩, hpart, h⟩ := bind_eq_ok h
    obtain ⟨name, test, rfl⟩ := readAttribute_ok hpart
    exact push h ⟨trivial, rfl⟩
  · obtain ⟨⟨part, left⟩, hpart, h⟩ := bind_eq_ok h
    exact push h (r.pseudo hpart)
  · split at h
    · exact absurd h stop_ne_ok
    case isFalse hne =>
      cases h
      exact ⟨by simpa using hne, hfirst, hdone⟩

theorem pseudo_succ (r : ReadsShaped fuel) (h : readPseudo (fuel + 1) cs = .ok (part, rest)) :
    part.Shaped ∧ part.isType = false := by
  unfold readPseudo at h
  split at h
  · obtain ⟨_, -, h⟩ := bind_eq_ok h
    cases h
    exact ⟨trivial, rfl⟩
  · obtain ⟨⟨name, left⟩, -, h⟩ := bind_eq_ok h
    dsimp only at h
    split at h
    · cases h
      exact ⟨trivial, rfl⟩
    · split at h
      · split at h
        case isTrue hname =>
          obtain ⟨⟨list, after⟩, hlist, h⟩ := bind_eq_ok h
          dsimp only at h
          split at h
          · cases h
            exact ⟨⟨List.contains_iff_mem.mp hname, r.list hlist⟩, rfl⟩
          · exact absurd h stop_ne_ok
        case isFalse =>
          rcases readRawArgument_ok h with rfl | ⟨hname, a, b, rfl⟩
          · exact ⟨trivial, rfl⟩
          · exact ⟨hname, rfl⟩
      · cases h
        exact ⟨trivial, rfl⟩

end ReadsShaped

theorem readsShaped : (fuel : Nat) → ReadsShaped fuel
  | 0 => .zero
  | fuel + 1 =>
    have r := readsShaped fuel
    { list := r.list_succ, complex := r.complex_succ, chain := r.chain_succ
      compound := r.compound_succ, parts := r.parts_succ, pseudo := r.pseudo_succ }

/-- What parsing a text returns is what its list reader returns. -/
theorem exists_readList_of_parse {s : String} {list : SelectorList}
    (h : SelectorList.parse s = .ok list) :
    ∃ fuel cs rest, readList fuel false cs = .ok (list, rest) := by
  unfold SelectorList.parse parseTrimmed at h
  dsimp only at h
  split at h
  case h_1 hread =>
    cases h
    split at hread
    · exact absurd hread stop_ne_ok
    · obtain ⟨⟨list, after⟩, hlist, hread⟩ := bind_eq_ok hread
      dsimp only at hread
      split at hread
      · cases hread
        exact ⟨_, _, _, hlist⟩
      · exact absurd hread stop_ne_ok
  case h_2 => cases h

theorem shaped_of_parse {s : String} {list : SelectorList} (h : SelectorList.parse s = .ok list) :
    list ≠ [] ∧ branchesShaped list := by
  obtain ⟨fuel, cs, rest, hlist⟩ := exists_readList_of_parse h
  exact (readsShaped fuel).list hlist

/-- The chains that reading a text returns: the branches of its list, and those of the lists in
their arguments. -/
inductive Parsed : Complex → Prop
  | branch {s : String} {list : SelectorList} {c : Complex} :
      SelectorList.parse s = .ok list → c ∈ list → Parsed c
  | argument {c : Complex} {parts : Compound} {name : String} {list : List Complex}
      {inner : Complex} : Parsed c → parts ∈ c.compounds →
      .pseudoClass name (.selectors list) ∈ parts → inner ∈ list → Parsed inner

theorem Parsed.shaped {c : Complex} (h : Parsed c) : c.Shaped := by
  induction h with
  | branch hparse hmem => exact branchesShaped_iff.mp (shaped_of_parse hparse).2 _ hmem
  | argument _ hparts hpart hmem ih =>
    exact branchesShaped_iff.mp (ih.part hparts hpart).2.2 _ hmem

end Selector

end AccessAudit
