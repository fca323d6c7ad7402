import AccessAudit.Proofs.Selector.Nth
import AccessAudit.Proofs.Selector.Steps

/-!
# Reading back a canonical text

A selector list is written by `render` and read again by `parse`. It comes back as it was
(`parse_render_list`) if it has the shape of the grammar and if its names can be written as they
are: no character of them needs a backslash, they are in small letters where reading makes them so,
and no attribute value has a double quote in it. One thing can still go wrong. A position may be a
number of more digits than can be read, and then the first such number is reported
(`branchesLongNumeral?`).

The text of a selector is nested as the selector is, so reading it back is shown along the selector,
for a text with anything behind it that cannot be taken for a part of it. What may stand behind is
different for a condition (`PartEnds`), a compound (`CompoundEnds`), a chain (`ChainEnds`) and a
list (`ListEnds`). The number of steps is left alone: once it is enough for a text, every reader
called on the way has the same answer with one step less (`Spare`).
-/

namespace AccessAudit

namespace Selector

open Text

/-! ## Selectors that can be read back -/

mutual

/-- The names of a condition stand for themselves when they are written. -/
def Simple.Legible : Simple → Prop
  | .type name => IsName name.toList ∧ lower name = name
  | .universal => True
  | .id value => IsName value.toList
  | .className name => IsName name.toList
  | .attribute name test => IsName name.toList ∧ lower name = name ∧
      ∀ t ∈ test, '"' ∉ t.value.toList
  | .pseudoElement name => IsName name.toList ∧ lower name = name
  | .pseudoClass name argument => IsName name.toList ∧ lower name = name ∧
      name ∉ singleColonPseudoElements ∧ argument.Legible

/-- A negative `b` would stand behind a second sign. -/
def Argument.Legible : Argument → Prop
  | .none => True
  | .selectors list => branchesLegible list
  | .nth _ b => 0 ≤ b

/-- All conditions can be read back. -/
def partsLegible : List Simple → Prop
  | [] => True
  | part :: rest => part.Legible ∧ partsLegible rest

/-- All compounds can be read back. -/
def Complex.Legible : Complex → Prop
  | .compound parts => partsLegible parts
  | .join left _ parts => left.Legible ∧ partsLegible parts

/-- All branches can be read back. -/
def branchesLegible : List Complex → Prop
  | [] => True
  | branch :: rest => branch.Legible ∧ branchesLegible rest

end

mutual

/-- The first position in a condition with too long a number, and the digits of that. -/
def Simple.longNumeral? : Simple → Option (String × Nat)
  | .pseudoClass _ (.selectors list) => branchesLongNumeral? list
  | .pseudoClass _ (.nth a b) => (Nth.overlong? a b).map (Nth.render a b, ·)
  | _ => none

/-- The first in some conditions. -/
def partsLongNumeral? : List Simple → Option (String × Nat)
  | [] => none
  | part :: rest => part.longNumeral?.or (partsLongNumeral? rest)

/-- The first in a chain. -/
def Complex.longNumeral? : Complex → Option (String × Nat)
  | .compound parts => partsLongNumeral? parts
  | .join left _ parts => left.longNumeral?.or (partsLongNumeral? parts)

/-- The first in a list. -/
def branchesLongNumeral? : List Complex → Option (String × Nat)
  | [] => none
  | branch :: rest => branch.longNumeral?.or (branchesLongNumeral? rest)

end

/-- Reading goes on where no number is too long. -/
def checked : Option (String × Nat) → Read Unit
  | none => .ok ()
  | some (argument, digits) =>
    .error { remaining := none, reason := .longNumeral digits, argument }

theorem checked_none_bind {β : Type} (next : Unit → Read β) : (checked none >>= next) = next () :=
  rfl

theorem checked_or_bind {β : Type} (first second : Option (String × Nat)) (next : Unit → Read β) :
    (checked (first.or second) >>= next) = checked first >>= fun _ => checked second >>= next := by
  cases first <;> rfl

variable {fuel : Nat} {nested : Bool} {cs rest name : List Char} {part : Simple}
  {parts done : List Simple} {long : Option (String × Nat)}

/-! ## Steps -/

/-- The readers of a text do not miss the last of their steps. -/
structure Spare (less : Nat) (cs : List Char) : Prop where
  list : ∀ nested, readList less nested cs = readList (less + 1) nested cs
  complex : ∀ nested, readComplex less nested cs = readComplex (less + 1) nested cs
  chain : ∀ nested left, readChain less nested left cs = readChain (less + 1) nested left cs
  compound : readCompound less cs = readCompound (less + 1) cs
  parts : ∀ done, readParts less done cs = readParts (less + 1) done cs

theorem spare {less : Nat} (h : readingBound cs ≤ less + 1) : Spare less cs := by
  have hsettled := settled less.le_succ
  unfold readingBound at h
  constructor
  · exact fun nested => hsettled.list nested cs (by omega)
  · exact fun nested => hsettled.complex nested cs (by omega)
  · exact fun nested left => hsettled.chain nested left cs (by omega)
  · exact hsettled.compound cs (by omega)
  · exact fun done => hsettled.parts done cs (by omega)

theorem exists_step (h : readingBound cs ≤ fuel) : ∃ less, fuel = less + 1 := by
  unfold readingBound at h
  exact ⟨fuel - 1, by omega⟩

theorem bound_behind (before : List Char) (h : readingBound (before ++ cs) ≤ fuel) :
    readingBound cs ≤ fuel := by
  simp only [readingBound, List.length_append] at h ⊢
  omega

/-! ## What stands behind -/

/-- A condition ends here: neither its name nor an argument follows. -/
def PartEnds (rest : List Char) : Prop := NameEnds rest ∧ rest.head? ≠ some '('

/-- A compound ends here. -/
def CompoundEnds (rest : List Char) : Prop := ∀ c ∈ rest.head?, c = ' ' ∨ c = ',' ∨ c = ')'

/-- A chain ends here. -/
def ChainEnds (nested : Bool) (rest : List Char) : Prop :=
  ∀ c ∈ rest.head?, c = ',' ∨ nested = true ∧ c = ')'

/-- A list ends here. -/
def ListEnds (nested : Bool) (rest : List Char) : Prop :=
  ∀ c ∈ rest.head?, nested = true ∧ c = ')'

theorem CompoundEnds.partEnds (h : CompoundEnds rest) : PartEnds rest := by
  cases rest with
  | nil => exact ⟨nameEnds_nil, by simp⟩
  | cons c left =>
    obtain rfl | rfl | rfl := h c rfl
    all_goals exact ⟨nameEnds_cons (by decide), by simp⟩

theorem ChainEnds.compoundEnds (h : ChainEnds nested rest) : CompoundEnds rest := by
  intro c hc
  obtain rfl | ⟨-, rfl⟩ := h c hc
  · exact .inr (.inl rfl)
  · exact .inr (.inr rfl)

theorem ListEnds.chainEnds (h : ListEnds nested rest) : ChainEnds nested rest :=
  fun c hc => .inr (h c hc)

theorem partEnds_render (rest : List Char) (htype : part.isType = false) :
    PartEnds (part.render.toList ++ rest) := by
  obtain ⟨c, left, htext, hc⟩ := head_render part htype
  rw [htext]
  obtain rfl | rfl | rfl | rfl := hc
  all_goals exact ⟨nameEnds_cons (by decide), by simp⟩

theorem toList_renderParts_cons (part : Simple) (parts : List Simple) :
    (renderParts (part :: parts)).toList ++ rest =
      part.render.toList ++ ((renderParts parts).toList ++ rest) := by
  rw [renderParts, String.toList_append, List.append_assoc]

theorem partEnds_renderParts (htypes : ∀ part ∈ parts, part.isType = false)
    (hrest : PartEnds rest) : PartEnds ((renderParts parts).toList ++ rest) := by
  cases parts with
  | nil => exact hrest
  | cons part more =>
    rw [toList_renderParts_cons]
    exact partEnds_render _ (htypes part List.mem_cons_self)

/-! ## Conditions -/

/-- A condition is read as the next of its compound. -/
def Simple.ReadsBack (part : Simple) : Prop :=
  ∀ (fuel : Nat) (done : List Simple) (rest : List Char),
    readingBound (part.render.toList ++ rest) ≤ fuel → PartEnds rest →
      readParts fuel done (part.render.toList ++ rest) =
        checked part.longNumeral? >>= fun _ => readParts fuel (part :: done) rest

theorem Simple.Plain.readsBack (hplain : part.Plain) (htype : part.isType = false)
    (hlong : part.longNumeral? = none) : part.ReadsBack := by
  intro fuel done rest hfuel hrest
  obtain ⟨less, rfl⟩ := exists_step hfuel
  rw [readParts_render hrest.1 less done part hplain htype, hlong, checked_none_bind]
  exact (spare (bound_behind _ hfuel)).parts (part :: done)

/-- A condition behind a colon is left to the reader for them. -/
theorem readsBack_of_pseudo {text : List Char}
    (htext : ∀ rest, part.render.toList ++ rest = ':' :: (text ++ rest))
    (hread : ∀ (less : Nat) (rest : List Char), readingBound (text ++ rest) ≤ less →
      PartEnds rest → readPseudo less (text ++ rest) =
        checked part.longNumeral? >>= fun _ => .ok (part, rest)) : part.ReadsBack := by
  intro fuel done rest hfuel hrest
  obtain ⟨less, rfl⟩ := exists_step hfuel
  have hspare := spare (bound_behind _ hfuel)
  have hless : readingBound (text ++ rest) ≤ less := by
    simp only [htext, readingBound, List.length_cons] at hfuel ⊢
    omega
  rw [htext, readParts, hread less rest hless hrest, bind_assoc, ← hspare.parts]
  rfl

theorem readsBack_pseudoElement {name : String} (hname : IsName name.toList)
    (hlower : lower name = name) : (Simple.pseudoElement name).ReadsBack := by
  have htext (rest : List Char) : (Simple.pseudoElement name).render.toList ++ rest =
      ':' :: (':' :: name.toList ++ rest) := by simp [Simple.render]
  refine readsBack_of_pseudo htext ?_
  intro less rest hless hrest
  obtain ⟨less, rfl⟩ := exists_step hless
  rw [List.cons_append, readPseudo, readLowerName_append hname hrest.1, lowerChars_toList hlower]
  rfl

theorem readsBack_pseudoClass {name : String} (hname : IsName name.toList)
    (hlower : lower name = name) (hclass : name ∉ singleColonPseudoElements) :
    (Simple.pseudoClass name .none).ReadsBack := by
  have htext (rest : List Char) : (Simple.pseudoClass name .none).render.toList ++ rest =
      ':' :: (name.toList ++ rest) := by simp [Simple.render]
  refine readsBack_of_pseudo htext ?_
  intro less rest hless hrest
  obtain ⟨less, rfl⟩ := exists_step hless
  have hread := readPseudo_name hname hrest.1 hrest.2 less
  rw [lowerChars_toList hlower] at hread
  exact hread hclass

/-! ## Arguments -/

/-- A list is read back whole. -/
def BranchesReadBack (list : List Complex) : Prop :=
  ∀ (fuel : Nat) (nested : Bool) (rest : List Char),
    readingBound ((renderBranches list).toList ++ rest) ≤ fuel → ListEnds nested rest →
      readList fuel nested ((renderBranches list).toList ++ rest) =
        checked (branchesLongNumeral? list) >>= fun _ => .ok (list, rest)

theorem listEnds_nil : ListEnds nested [] := by
  rintro c ⟨⟩

theorem listEnds_parenthesis : ListEnds true (')' :: rest) := by
  rintro c ⟨⟩
  exact ⟨rfl, rfl⟩

theorem readsBack_selectors {name : String} {list : List Complex} (hname : IsName name.toList)
    (hlower : lower name = name) (hclass : name ∈ takesSelectors) (hlist : BranchesReadBack list) :
    (Simple.pseudoClass name (.selectors list)).ReadsBack := by
  have htext (rest : List Char) :
      (Simple.pseudoClass name (.selectors list)).render.toList ++ rest =
        ':' :: (name.toList ++ '(' :: ((renderBranches list).toList ++ [')']) ++ rest) := by
    simp [Simple.render]
  refine readsBack_of_pseudo htext ?_
  intro less rest hless hrest
  obtain ⟨less, rfl⟩ := exists_step hless
  have hinner : readingBound ((renderBranches list).toList ++ ')' :: rest) ≤ less := by
    simp only [readingBound, List.length_append, List.length_cons, List.length_nil] at hless ⊢
    omega
  have hread := hlist less true (')' :: rest) hinner listEnds_parenthesis
  have hopen := @readPseudo_open name.toList hname
    ((renderBranches list).toList ++ ')' :: rest) less
  rw [lowerChars_toList hlower] at hopen
  simp only [List.append_assoc, List.cons_append, List.nil_append]
  rw [hopen (not_mem_of_takesSelectors _ hclass), if_pos (List.contains_iff_mem.mpr hclass), hread,
    bind_assoc]
  dsimp only [bind, Except.bind, pure]
  rw [trimLeft_parenthesis]
  rfl

theorem readRawArgument_render {name : String} {a b : Int} (hb : 0 ≤ b)
    (hclass : name ∈ takesPositions) (rest : List Char) :
    readRawArgument name ((Nth.render a b).toList ++ ')' :: rest) =
      checked (Simple.pseudoClass name (.nth a b)).longNumeral? >>= fun _ =>
        .ok (.pseudoClass name (.nth a b), rest) := by
  have hinner : ∀ c ∈ (Nth.render a b).toList, (c != ')') = true := by
    intro c hc
    rw [bne_iff_ne]
    rintro rfl
    exact absurd (Nth.mem_render hc) (by decide)
  rw [readRawArgument, List.dropWhile_append_of_pos hinner, List.takeWhile_append_of_pos hinner,
    List.dropWhile_cons_of_neg (by decide), List.takeWhile_cons_of_neg (by decide), List.append_nil]
  dsimp only
  rw [if_pos (List.contains_iff_mem.mpr hclass), Nth.readChars_render a hb, String.ofList_toList]
  unfold Simple.longNumeral?
  cases Nth.overlong? a b <;> rfl

theorem not_mem_of_takesPositions : ∀ known ∈ takesPositions,
    known ∉ singleColonPseudoElements ∧ known ∉ takesSelectors := by decide

theorem readsBack_nth {name : String} {a b : Int} (hname : IsName name.toList)
    (hlower : lower name = name) (hclass : name ∈ takesPositions) (hb : 0 ≤ b) :
    (Simple.pseudoClass name (.nth a b)).ReadsBack := by
  have htext (rest : List Char) : (Simple.pseudoClass name (.nth a b)).render.toList ++ rest =
      ':' :: (name.toList ++ '(' :: ((Nth.render a b).toList ++ [')']) ++ rest) := by
    simp [Simple.render]
  refine readsBack_of_pseudo htext ?_
  intro less rest hless hrest
  obtain ⟨less, rfl⟩ := exists_step hless
  obtain ⟨hcolon, hselectors⟩ := not_mem_of_takesPositions name hclass
  have hopen := @readPseudo_open name.toList hname ((Nth.render a b).toList ++ ')' :: rest) less
  rw [lowerChars_toList hlower] at hopen
  simp only [List.append_assoc, List.cons_append, List.nil_append]
  rw [hopen hcolon, if_neg (by simpa using hselectors), readRawArgument_render hb hclass]

/-! ## Compounds -/

theorem readParts_end (hfuel : readingBound rest ≤ fuel) (hrest : CompoundEnds rest)
    (hdone : done ≠ []) : readParts fuel done rest = .ok (done.reverse, rest) := by
  obtain ⟨less, rfl⟩ := exists_step hfuel
  cases rest with
  | nil => exact readParts_nil less hdone
  | cons c left =>
    obtain rfl | rfl | rfl := hrest c rfl
    all_goals simp [readParts, hdone]

/-- Conditions that are read back one by one are read back together. -/
theorem readParts_renderParts (hfuel : readingBound ((renderParts parts).toList ++ rest) ≤ fuel)
    (hrest : CompoundEnds rest) (htypes : ∀ part ∈ parts, part.isType = false)
    (hparts : ∀ part ∈ parts, part.ReadsBack) (hdone : done ≠ [] ∨ parts ≠ []) :
    readParts fuel done ((renderParts parts).toList ++ rest) =
      checked (partsLongNumeral? parts) >>= fun _ => .ok (done.reverse ++ parts, rest) := by
  induction parts generalizing done with
  | nil =>
    obtain hdone | hparts := hdone
    · rw [List.append_nil, partsLongNumeral?, checked_none_bind]
      exact readParts_end hfuel hrest hdone
    · exact absurd rfl hparts
  | cons part parts ih =>
    rw [toList_renderParts_cons] at hfuel ⊢
    have htypes' : ∀ part ∈ parts, part.isType = false :=
      fun part hpart => htypes part (List.mem_cons_of_mem _ hpart)
    have hends := partEnds_renderParts htypes' hrest.partEnds
    have hrec := @ih (part :: done) (bound_behind _ hfuel) htypes'
      (fun part hpart => hparts part (List.mem_cons_of_mem _ hpart)) (.inl (List.cons_ne_nil _ _))
    rw [hparts part List.mem_cons_self fuel done _ hfuel hends, hrec, partsLongNumeral?,
      checked_or_bind, List.reverse_cons, List.append_assoc, List.singleton_append]

theorem readCompound_typed {first : Simple}
    (hfuel : readingBound ((renderParts (first :: parts)).toList ++ rest) ≤ fuel)
    (hrest : CompoundEnds rest) (htype : first.isType = true) (hlegible : first.Legible)
    (htypes : ∀ part ∈ parts, part.isType = false) (hparts : ∀ part ∈ parts, part.ReadsBack) :
    readCompound fuel ((renderParts (first :: parts)).toList ++ rest) =
      checked (partsLongNumeral? (first :: parts)) >>= fun _ => .ok (first :: parts, rest) := by
  obtain ⟨less, rfl⟩ := exists_step hfuel
  have hends := partEnds_renderParts htypes hrest.partEnds
  rw [toList_renderParts_cons] at hfuel ⊢
  have hbehind := bound_behind _ hfuel
  have hread : readParts (less + 1) [first] ((renderParts parts).toList ++ rest) = _ :=
    readParts_renderParts hbehind hrest htypes hparts (.inl (List.cons_ne_nil _ _))
  rw [← (spare hbehind).parts] at hread
  cases first with
  | type name =>
    have hname := readCompound_name hlegible.1 hends.1 less
    rw [lowerChars_toList hlegible.2] at hname
    rw [Simple.render, hname, hread]
    rfl
  | universal =>
    show readCompound (less + 1) ('*' :: ((renderParts parts).toList ++ rest)) = _
    rw [readCompound, hread]
    rfl
  | _ => cases htype

theorem readCompound_untyped
    (hfuel : readingBound ((renderParts parts).toList ++ rest) ≤ fuel) (hrest : CompoundEnds rest)
    (hne : parts ≠ []) (htypes : ∀ part ∈ parts, part.isType = false)
    (hparts : ∀ part ∈ parts, part.ReadsBack) :
    readCompound fuel ((renderParts parts).toList ++ rest) =
      checked (partsLongNumeral? parts) >>= fun _ => .ok (parts, rest) := by
  obtain ⟨less, rfl⟩ := exists_step hfuel
  have hends := partEnds_renderParts htypes hrest.partEnds
  have hstar : ((renderParts parts).toList ++ rest).head? ≠ some '*' := by
    obtain ⟨first, more, rfl⟩ := List.exists_cons_of_ne_nil hne
    obtain ⟨c, left, htext, hc⟩ := head_render first (htypes first List.mem_cons_self)
    rw [toList_renderParts_cons, htext]
    rcases hc with rfl | rfl | rfl | rfl <;> simp
  rw [readCompound_of_nameEnds hends.1 hstar less, (spare hfuel).parts]
  exact readParts_renderParts hfuel hrest htypes hparts (.inr hne)

/-- A compound is read back. -/
theorem readCompound_renderParts (hfuel : readingBound ((renderParts parts).toList ++ rest) ≤ fuel)
    (hrest : CompoundEnds rest) (hne : parts ≠ []) (hfirst : TypeFirst parts)
    (hlegible : partsLegible parts)
    (hparts : ∀ part ∈ parts, part.isType = false → part.ReadsBack) :
    readCompound fuel ((renderParts parts).toList ++ rest) =
      checked (partsLongNumeral? parts) >>= fun _ => .ok (parts, rest) := by
  obtain ⟨first, more, rfl⟩ := List.exists_cons_of_ne_nil hne
  have hmore : ∀ part ∈ more, part.ReadsBack := fun part hpart =>
    hparts part (List.mem_cons_of_mem _ hpart) (hfirst part hpart)
  cases htype : first.isType with
  | true => exact readCompound_typed hfuel hrest htype hlegible.1 hfirst hmore
  | false =>
    refine readCompound_untyped hfuel hrest hne ?_ ?_
    · exact List.forall_mem_cons.mpr ⟨htype, hfirst⟩
    · exact List.forall_mem_cons.mpr ⟨hparts first List.mem_cons_self htype, hmore⟩

/-! ## Chains -/

/-- A compound may begin like this. -/
def Starts (c : Char) : Prop :=
  isNameChar c = true ∨ c = '*' ∨ c = '#' ∨ c = '.' ∨ c = '[' ∨ c = ':'

theorem Starts.not_blank {c : Char} (h : Starts c) : isBlank c = false := by
  obtain hname | rfl | rfl | rfl | rfl | rfl := h
  · exact isBlank_of_isNameChar hname
  all_goals decide

theorem Starts.combine {c : Char} (h : Starts c) (nested : Bool) (left : List Char) :
    joint nested true (c :: left) = .combine .descendant := by
  have hne : c ≠ '>' ∧ c ≠ '+' ∧ c ≠ '~' ∧ c ≠ ',' ∧ c ≠ ')' := by
    obtain hname | rfl | rfl | rfl | rfl | rfl := h
    · refine ⟨?_, ?_, ?_, ?_, ?_⟩ <;> (rintro rfl; exact absurd hname (by decide))
    all_goals decide
  obtain ⟨hchild, hnext, hlater, hcomma, hclose⟩ := hne
  simp [joint, hcomma, hclose]

theorem head_renderParts (hne : parts ≠ []) (hlegible : partsLegible parts) :
    ∃ c left, (renderParts parts).toList = c :: left ∧ Starts c := by
  obtain ⟨first, more, rfl⟩ := List.exists_cons_of_ne_nil hne
  rw [renderParts, String.toList_append]
  cases htype : first.isType with
  | false =>
    obtain ⟨c, left, htext, hc⟩ := head_render first htype
    rw [htext]
    exact ⟨c, _, rfl, .inr (.inr hc)⟩
  | true =>
    cases first with
    | type name =>
      obtain ⟨c, left, htext⟩ := List.exists_cons_of_ne_nil hlegible.1.1.1
      rw [Simple.render, htext]
      exact ⟨c, _, rfl, .inl (hlegible.1.1.2 c (by simp [htext]))⟩
    | universal => exact ⟨'*', _, rfl, .inr (.inl rfl)⟩
    | _ => cases htype

theorem trimLeft_blank (cs : List Char) : trimLeft (' ' :: cs) = trimLeft cs := rfl

/-- Between two compounds a combinator is found, and behind it the second one. -/
theorem joint_separator (how : Combinator) (nested : Bool) {c : Char} (hc : Starts c)
    (text : List Char) (hcs : cs = how.separator.toList ++ c :: text) :
    joint nested ((trimLeft cs).length != cs.length) (trimLeft cs) = .combine how ∧
      afterCombinator how (trimLeft cs) = c :: text := by
  have htext : trimLeft (c :: text) = c :: text :=
    trimLeft_eq_self (by rintro d ⟨⟩; exact hc.not_blank)
  subst hcs
  cases how with
  | descendant =>
    show joint nested ((trimLeft (' ' :: c :: text)).length != _) (trimLeft (' ' :: c :: text)) =
      _ ∧ trimLeft (' ' :: c :: text) = c :: text
    rw [trimLeft_blank, htext]
    have hblanks : ((c :: text).length !=
        (Combinator.descendant.separator.toList ++ c :: text).length) = true := by
      simp [Combinator.separator]
    rw [hblanks]
    exact ⟨hc.combine nested text, rfl⟩
  | child | next | later => exact ⟨rfl, htext⟩

theorem readChain_step {how : Combinator} {left : Complex}
    (hfuel : readingBound (how.separator.toList ++ ((renderParts parts).toList ++ rest)) ≤ fuel)
    (hne : parts ≠ []) (hlegible : partsLegible parts)
    (hread : readCompound fuel ((renderParts parts).toList ++ rest) =
      checked long >>= fun _ => .ok (parts, rest)) :
    readChain fuel nested left (how.separator.toList ++ ((renderParts parts).toList ++ rest)) =
      checked long >>= fun _ => readChain fuel nested (.join left how parts) rest := by
  obtain ⟨less, rfl⟩ := exists_step hfuel
  obtain ⟨c, text, htext, hstart⟩ := head_renderParts hne hlegible
  have hbehind := bound_behind _ hfuel
  have hspare := spare (bound_behind _ hbehind)
  rw [← (spare hbehind).compound] at hread
  rw [htext, List.cons_append] at hread ⊢
  obtain ⟨hjoint, hafter⟩ := joint_separator how nested hstart (text ++ rest) rfl
  rw [readChain]
  dsimp only
  rw [hjoint]
  dsimp only
  rw [hafter, hread, bind_assoc, ← hspare.chain]
  rfl

/-- A chain is read back, and then reading looks for more of it. -/
def Complex.ReadsBack (c : Complex) : Prop :=
  ∀ (fuel : Nat) (nested : Bool) (rest : List Char),
    readingBound (c.render.toList ++ rest) ≤ fuel → CompoundEnds rest →
      readComplex fuel nested (c.render.toList ++ rest) =
        checked c.longNumeral? >>= fun _ => readChain fuel nested c rest

theorem readsBack_compound (hne : parts ≠ []) (hfirst : TypeFirst parts)
    (hlegible : partsLegible parts)
    (hparts : ∀ part ∈ parts, part.isType = false → part.ReadsBack) :
    (Complex.compound parts).ReadsBack := by
  intro fuel nested rest hfuel hrest
  have hread := readCompound_renderParts hfuel hrest hne hfirst hlegible hparts
  obtain ⟨less, rfl⟩ := exists_step hfuel
  rw [Complex.render] at hfuel ⊢
  rw [← (spare hfuel).compound] at hread
  rw [readComplex, hread, bind_assoc, ← (spare (bound_behind _ hfuel)).chain]
  rfl

theorem compoundEnds_separator (how : Combinator) :
    CompoundEnds (how.separator.toList ++ rest) := by
  cases how <;> (rintro c ⟨⟩; exact .inl rfl)

theorem readsBack_join {how : Combinator} {left : Complex} (hleft : left.ReadsBack)
    (hne : parts ≠ []) (hfirst : TypeFirst parts) (hlegible : partsLegible parts)
    (hparts : ∀ part ∈ parts, part.isType = false → part.ReadsBack) :
    (Complex.join left how parts).ReadsBack := by
  intro fuel nested rest hfuel hrest
  simp only [Complex.render, String.toList_append, List.append_assoc] at hfuel ⊢
  have hbehind := bound_behind _ hfuel
  have hread := readCompound_renderParts (bound_behind _ hbehind) hrest hne hfirst hlegible hparts
  rw [hleft fuel nested _ hfuel (compoundEnds_separator how),
    readChain_step hbehind hne hlegible hread, Complex.longNumeral?, checked_or_bind]

/-! ## Lists -/

theorem ChainEnds.trimLeft (h : ChainEnds nested rest) : trimLeft rest = rest := by
  apply trimLeft_eq_self
  intro c hc
  obtain rfl | ⟨-, rfl⟩ := h c hc <;> decide

theorem readChain_end (hfuel : readingBound rest ≤ fuel) (hrest : ChainEnds nested rest)
    (c : Complex) : readChain fuel nested c rest = .ok (c, rest) := by
  obtain ⟨less, rfl⟩ := exists_step hfuel
  rw [readChain, hrest.trimLeft]
  cases rest with
  | nil => rfl
  | cons d left =>
    obtain rfl | ⟨rfl, rfl⟩ := hrest d rfl
    · rfl
    · rfl

theorem Complex.ReadsBack.whole {c : Complex} (h : c.ReadsBack)
    (hfuel : readingBound (c.render.toList ++ rest) ≤ fuel) (hrest : ChainEnds nested rest) :
    readComplex fuel nested (c.render.toList ++ rest) =
      checked c.longNumeral? >>= fun _ => .ok (c, rest) := by
  rw [h fuel nested rest hfuel hrest.compoundEnds, readChain_end (bound_behind _ hfuel) hrest]

theorem head_renderComplex : (c : Complex) → c.Shaped → c.Legible →
    ∃ d left, c.render.toList = d :: left ∧ Starts d
  | .compound _, hshaped, hlegible => head_renderParts hshaped.1 hlegible
  | .join left how parts, hshaped, hlegible => by
    obtain ⟨d, text, htext, hstart⟩ := head_renderComplex left hshaped.1 hlegible.1
    refine ⟨d, text ++ (how.separator.toList ++ (renderParts parts).toList), ?_, hstart⟩
    simp [Complex.render, htext]

theorem readList_step {branch : Complex} (hbranch : branch.ReadsBack) (hshaped : branch.Shaped)
    (hlegible : branch.Legible) (hfuel : readingBound (branch.render.toList ++ rest) ≤ fuel)
    (hrest : ChainEnds nested rest) :
    readList fuel nested (branch.render.toList ++ rest) =
      checked branch.longNumeral? >>= fun _ =>
        match rest with
        | ',' :: more => do
          let (others, left) ← readList fuel nested more
          pure (branch :: others, left)
        | left => pure ([branch], left) := by
  have hread := hbranch.whole hfuel hrest
  obtain ⟨less, rfl⟩ := exists_step hfuel
  obtain ⟨d, text, htext, hstart⟩ := head_renderComplex branch hshaped hlegible
  have htrim : trimLeft (branch.render.toList ++ rest) = branch.render.toList ++ rest := by
    apply trimLeft_eq_self
    rw [htext]
    rintro c ⟨⟩
    exact hstart.not_blank
  rw [← (spare hfuel).complex] at hread
  rw [readList, htrim, hread, bind_assoc]
  refine congrArg _ (funext fun _ => ?_)
  show (match trimLeft rest with
    | ',' :: more => readList less nested more >>= fun read => pure (branch :: read.1, read.2)
    | left => pure ([branch], left)) = _
  rw [hrest.trimLeft]
  split
  case h_1 more => rw [(spare (bound_behind [','] (bound_behind _ hfuel))).list]
  case h_2 => rfl

theorem readList_blank (hfuel : readingBound cs ≤ fuel) :
    readList fuel nested (' ' :: cs) = readList fuel nested cs := by
  obtain ⟨less, rfl⟩ := exists_step hfuel
  rw [readList, readList, trimLeft_blank]

theorem branchesReadBack_single {branch : Complex} (hbranch : branch.ReadsBack)
    (hshaped : branch.Shaped) (hlegible : branch.Legible) : BranchesReadBack [branch] := by
  intro fuel nested rest hfuel hrest
  rw [renderBranches] at hfuel ⊢
  rw [readList_step hbranch hshaped hlegible hfuel hrest.chainEnds, branchesLongNumeral?,
    branchesLongNumeral?, Option.or_none]
  cases rest with
  | nil => rfl
  | cons c left =>
    obtain ⟨-, rfl⟩ := hrest c rfl
    rfl

theorem chainEnds_comma : ChainEnds nested (',' :: rest) := by
  rintro c ⟨⟩
  exact .inl rfl

theorem branchesReadBack_cons {branch : Complex} {others : List Complex}
    (hbranch : branch.ReadsBack) (hshaped : branch.Shaped) (hlegible : branch.Legible)
    (hne : others ≠ []) (hothers : BranchesReadBack others) :
    BranchesReadBack (branch :: others) := by
  intro fuel nested rest hfuel hrest
  have htext : (renderBranches (branch :: others)).toList ++ rest =
      branch.render.toList ++ ',' :: ' ' :: ((renderBranches others).toList ++ rest) := by
    obtain ⟨next, more, rfl⟩ := List.exists_cons_of_ne_nil hne
    simp [renderBranches]
  rw [htext] at hfuel ⊢
  have hbehind : readingBound ((renderBranches others).toList ++ rest) ≤ fuel :=
    bound_behind [',', ' '] (bound_behind _ hfuel)
  rw [readList_step hbranch hshaped hlegible hfuel chainEnds_comma, branchesLongNumeral?,
    checked_or_bind]
  refine congrArg _ (funext fun _ => ?_)
  show (readList fuel nested (' ' :: ((renderBranches others).toList ++ rest)) >>= fun read =>
    pure (branch :: read.1, read.2)) = _
  rw [readList_blank hbehind, hothers fuel nested rest hbehind hrest, bind_assoc]
  rfl

/-! ## All levels -/

mutual

theorem Simple.readsBack : (part : Simple) → part.Shaped → part.Legible → part.isType = false →
    part.ReadsBack
  | .id _, _, hlegible, htype => Simple.Plain.readsBack hlegible htype rfl
  | .className _, _, hlegible, htype => Simple.Plain.readsBack hlegible htype rfl
  | .attribute _ _, _, hlegible, htype => Simple.Plain.readsBack hlegible htype rfl
  | .pseudoElement _, _, hlegible, _ => readsBack_pseudoElement hlegible.1 hlegible.2
  | .pseudoClass _ .none, _, hlegible, _ =>
    readsBack_pseudoClass hlegible.1 hlegible.2.1 hlegible.2.2.1
  | .pseudoClass _ (.selectors list), hshaped, hlegible, _ =>
    readsBack_selectors hlegible.1 hlegible.2.1 hshaped.1
      (branches_readBack list hshaped.2.1 hshaped.2.2 hlegible.2.2.2)
  | .pseudoClass _ (.nth _ _), hshaped, hlegible, _ =>
    readsBack_nth hlegible.1 hlegible.2.1 hshaped hlegible.2.2.2

theorem parts_readBack : (parts : List Simple) → partsShaped parts → partsLegible parts →
    ∀ part ∈ parts, part.isType = false → part.ReadsBack
  | [], _, _ => List.forall_mem_nil _
  | part :: more, hshaped, hlegible => List.forall_mem_cons.mpr
      ⟨Simple.readsBack part hshaped.1 hlegible.1, parts_readBack more hshaped.2 hlegible.2⟩

theorem Complex.readsBack : (c : Complex) → c.Shaped → c.Legible → c.ReadsBack
  | .compound parts, hshaped, hlegible =>
    readsBack_compound hshaped.1 hshaped.2.1 hlegible (parts_readBack parts hshaped.2.2 hlegible)
  | .join left _ parts, hshaped, hlegible =>
    readsBack_join (Complex.readsBack left hshaped.1 hlegible.1) hshaped.2.1 hshaped.2.2.1
      hlegible.2 (parts_readBack parts hshaped.2.2.2 hlegible.2)

theorem branches_readBack : (list : List Complex) → list ≠ [] → branchesShaped list →
    branchesLegible list → BranchesReadBack list
  | [branch], _, hshaped, hlegible =>
    branchesReadBack_single (Complex.readsBack branch hshaped.1 hlegible.1) hshaped.1 hlegible.1
  | branch :: next :: more, _, hshaped, hlegible =>
    branchesReadBack_cons (Complex.readsBack branch hshaped.1 hlegible.1) hshaped.1 hlegible.1
      (List.cons_ne_nil _ _)
      (branches_readBack (next :: more) (List.cons_ne_nil _ _) hshaped.2 hlegible.2)

end

/-! ## The whole text -/

/-- A text that does not end in a blank. -/
def EndsClean (cs : List Char) : Prop := ∀ c ∈ cs.getLast?, isBlank c = false

theorem EndsClean.append {before : List Char} (hbefore : cs = [] → EndsClean before)
    (h : EndsClean cs) : EndsClean (before ++ cs) := by
  intro c hc
  rw [List.getLast?_append] at hc
  cases hlast : cs.getLast? with
  | none =>
    rw [hlast] at hc
    exact hbefore (List.getLast?_eq_none_iff.mp hlast) c hc
  | some last =>
    rw [hlast] at hc
    exact h c (hlast.trans hc)

theorem endsClean_name (hname : IsName name) : EndsClean name :=
  fun _ hc => isBlank_of_mem_name hname (List.mem_of_getLast? hc)

theorem endsClean_sign {c : Char} (h : isBlank c = false) : EndsClean [c] := by
  rintro d ⟨⟩
  exact h

theorem endsClean_part : (part : Simple) → part.Legible → EndsClean part.render.toList
  | .type _, hlegible => isBlank_getLast_render _ hlegible
  | .universal, _ => endsClean_sign (by decide)
  | .id _, hlegible => isBlank_getLast_render _ hlegible
  | .className _, hlegible => isBlank_getLast_render _ hlegible
  | .attribute _ _, hlegible => isBlank_getLast_render _ hlegible
  | .pseudoElement _, hlegible => by
    rw [Simple.render, String.toList_append]
    exact EndsClean.append (fun hnil => absurd hnil hlegible.1.1) (endsClean_name hlegible.1)
  | .pseudoClass _ .none, hlegible => by
    rw [Simple.render, String.toList_append]
    exact EndsClean.append (fun hnil => absurd hnil hlegible.1.1) (endsClean_name hlegible.1)
  | .pseudoClass _ (.selectors _), _ => by
    rw [Simple.render, String.toList_append]
    exact EndsClean.append (fun hnil => absurd hnil (by decide)) (endsClean_sign (by decide))
  | .pseudoClass _ (.nth _ _), _ => by
    rw [Simple.render, String.toList_append]
    exact EndsClean.append (fun hnil => absurd hnil (by decide)) (endsClean_sign (by decide))

theorem endsClean_parts (hlegible : partsLegible parts) :
    EndsClean (renderParts parts).toList := by
  induction parts with
  | nil => nofun
  | cons part more ih =>
    rw [renderParts, String.toList_append]
    exact EndsClean.append (fun _ => endsClean_part part hlegible.1) (ih hlegible.2)

theorem endsClean_complex (c : Complex) (hshaped : c.Shaped) (hlegible : c.Legible) :
    EndsClean c.render.toList := by
  cases c with
  | compound parts => exact endsClean_parts hlegible
  | join left how parts =>
    obtain ⟨d, text, htext, -⟩ := head_renderParts hshaped.2.1 hlegible.2
    rw [Complex.render, String.toList_append]
    exact EndsClean.append (fun hnil => by simp [hnil] at htext) (endsClean_parts hlegible.2)

theorem head_renderBranches {list : List Complex} (hne : list ≠ []) (hshaped : branchesShaped list)
    (hlegible : branchesLegible list) :
    ∃ c left, (renderBranches list).toList = c :: left ∧ Starts c := by
  obtain ⟨branch, more, rfl⟩ := List.exists_cons_of_ne_nil hne
  obtain ⟨c, text, htext, hstart⟩ := head_renderComplex branch hshaped.1 hlegible.1
  cases more with
  | nil => exact ⟨c, text, htext, hstart⟩
  | cons next more =>
    refine ⟨c, text ++ (", " ++ renderBranches (next :: more)).toList, ?_, hstart⟩
    simp [renderBranches, htext]

theorem endsClean_branches : (list : List Complex) → branchesShaped list → branchesLegible list →
    EndsClean (renderBranches list).toList
  | [], _, _ => nofun
  | [branch], hshaped, hlegible => endsClean_complex branch hshaped.1 hlegible.1
  | branch :: next :: more, hshaped, hlegible => by
    have hmore := endsClean_branches (next :: more) hshaped.2 hlegible.2
    obtain ⟨c, text, htext, -⟩ :=
      head_renderBranches (List.cons_ne_nil next more) hshaped.2 hlegible.2
    rw [renderBranches, String.toList_append]
    · exact EndsClean.append (fun hnil => by simp [hnil] at htext) hmore
    · nofun

/-- A selector list is read back from its canonical text, unless a position in it has more digits
than can be read. -/
theorem parse_render_list {list : SelectorList} (hne : list ≠ []) (hshaped : branchesShaped list)
    (hlegible : branchesLegible list) :
    SelectorList.parse list.render =
      match branchesLongNumeral? list with
      | none => .ok list
      | some (argument, digits) => .error ⟨argument, .longNumeral digits, none⟩ := by
  obtain ⟨c, text, htext, hstart⟩ := head_renderBranches hne hshaped hlegible
  change list.render.toList = c :: text at htext
  have htrim : trim list.render.toList = list.render.toList := by
    refine trim_eq_self ?_ (endsClean_branches list hshaped hlegible)
    rw [htext]
    rintro d ⟨⟩
    exact hstart.not_blank
  have hread := branches_readBack list hne hshaped hlegible
    (readingBound list.render.toList) false []
  rw [List.append_nil] at hread
  change _ → _ → readList _ false list.render.toList = _ at hread
  rw [SelectorList.parse, htrim, parseTrimmed, if_neg (by simp [htext]),
    hread (Nat.le_refl _) listEnds_nil]
  cases branchesLongNumeral? list <;> rfl

/-- A chain with a choice and positions in it, and a value that looks like the text around it. -/
def itemsBefore : SelectorList :=
  [.join (.compound [.type "ul"]) .child
    [.type "li",
      .pseudoClass "not" (.selectors [.compound [.className "a"],
        .compound [.attribute "title" (some ⟨.equals, "x]) (, y", true⟩)]]),
      .pseudoClass "nth-child" (.nth (-2) 3), .pseudoElement "before"],
    .compound [.universal]]

example : itemsBefore.render =
    "ul > li:not(.a, [title=\"x]) (, y\" i]):nth-child(-2n+3)::before, *" := by decide +kernel

theorem parse_render_itemsBefore :
    (itemsBefore ≠ [] ∧ branchesShaped itemsBefore ∧ branchesLegible itemsBefore) ∧
      SelectorList.parse itemsBefore.render = .ok itemsBefore := by
  have hne : itemsBefore ≠ [] := List.cons_ne_nil _ _
  have hshaped : branchesShaped itemsBefore := by
    simp [itemsBefore, branchesShaped, Complex.Shaped, partsShaped, Simple.Shaped, TypeFirst,
      Simple.isType, takesSelectors, takesPositions]
  have hlegible : branchesLegible itemsBefore := by
    simp only [itemsBefore, branchesLegible, Complex.Legible, partsLegible, Simple.Legible,
      Argument.Legible]
    decide +kernel
  have hlong : branchesLongNumeral? itemsBefore = none := by decide
  have hparse := parse_render_list hne hshaped hlegible
  rw [hlong] at hparse
  exact ⟨⟨hne, hshaped, hlegible⟩, hparse⟩

end Selector

end AccessAudit
