import AccessAudit.Proofs.Number.Numerals
import AccessAudit.Proofs.Selector.Canonical
import AccessAudit.Proofs.Text.Normal

/-!
# Positions that were read are read again

An argument `an+b` can be written in many ways: as a word, without a coefficient, with blanks, with
leading zeros, in the digits of any script. What comes of it is written in one way. For most
arguments that text is an argument for the same positions, so that the canonical text of
`:nth-child` and `:nth-last-child` can be read; but the sign between the two numbers is always a
plus, and a negative number brings a second sign, which the grammar does not have
(`nth_survives_unless_negative`).

There is a limit on the digits of a number, and the text that is written has to keep it. It does,
because no number has more digits than the argument that it was read from: digits of other scripts
have the same values, and leading zeros are dropped (`length_toDigits_readNat?`). So the two numbers
of an argument that was accepted are within the limit (`Nth.overlong?_eq_none`).
-/

namespace AccessAudit

open Text

/-! ## Digits -/

namespace Number

theorem digitValue?_lt {c : Char} {n : Nat} (h : digitValue? c = some n) : n < 10 := by
  unfold digitValue? at h
  dsimp only at h
  split at h
  · split at h
    · rename_i hdigit
      simp only [Bool.and_eq_true, decide_eq_true_eq] at hdigit
      cases h
      omega
    · cases h
  · obtain ⟨base, hbase, rfl⟩ := Option.map_eq_some_iff.mp h
    have hin := Array.find?_some hbase
    simp only [Bool.and_eq_true, decide_eq_true_eq] at hin
    omega

theorem lt_of_mem_digitRun? {cs : List Char} {digits : List Nat} (h : digitRun? cs = some digits) :
    ∀ d ∈ digits, d < 10 := by
  have hcons {c : Char} {digits : List Nat} {more : Option (List Nat)}
      (hrest : ∀ digits, more = some digits → ∀ d ∈ digits, d < 10)
      (h : (do let d ← digitValue? c; let more ← more; pure (d :: more)) = some digits) :
      ∀ d ∈ digits, d < 10 := by
    obtain ⟨first, hfirst, h⟩ := Option.bind_eq_some_iff.mp h
    obtain ⟨others, hothers, h⟩ := Option.bind_eq_some_iff.mp h
    cases h
    exact List.forall_mem_cons.mpr ⟨digitValue?_lt hfirst, hrest others hothers⟩
  fun_induction digitRun? cs generalizing digits with
  | case1 =>
    cases h
    simp
  | case2 c =>
    obtain ⟨n, hn, rfl⟩ := Option.map_eq_some_iff.mp h
    simpa using digitValue?_lt hn
  | case3 c next rest ih => exact hcons (fun _ => ih) h
  | case4 c rest hlast hunderscore ih => exact hcons (fun _ => ih) h

theorem length_toDigits_step (n : Nat) {d : Nat} (hd : d < 10) :
    (Nat.toDigits 10 (10 * n + d)).length ≤ (Nat.toDigits 10 n).length + 1 := by
  rcases Nat.eq_zero_or_pos n with rfl | hn
  · rw [Nat.mul_zero, Nat.zero_add, Nat.toDigits_of_lt_base hd]
    simp
  · rw [← Nat.toDigits_append_toDigits (by decide) hn hd, Nat.toDigits_of_lt_base hd]
    simp

theorem length_toDigits_foldl (n : Nat) {digits : List Nat} (h : ∀ d ∈ digits, d < 10) :
    (Nat.toDigits 10 (digits.foldl (fun n d => 10 * n + d) n)).length ≤
      (Nat.toDigits 10 n).length + digits.length := by
  induction digits generalizing n with
  | nil => simp
  | cons d digits ih =>
    have hstep := length_toDigits_step n (h d List.mem_cons_self)
    have hrest := ih (10 * n + d) fun e he => h e (List.mem_cons_of_mem d he)
    simp only [List.foldl_cons, List.length_cons]
    omega

/-- A number has no more digits than the text that it was read from. -/
theorem length_toDigits_readNat? {cs : List Char} {n : Nat}
    (hcs : ∀ c ∈ cs, isDecimalDigit c = true) (h : readNat? cs = some n) :
    (Nat.toDigits 10 n).length ≤ cs.length := by
  obtain ⟨digits, hdigits, hlength⟩ := exists_digitRun? hcs
  have hlt := lt_of_mem_digitRun? hdigits
  rw [readNat?, hdigits] at h
  cases digits with
  | nil => cases h
  | cons d digits =>
    cases h
    -- the first digit makes a number of one digit, and every further one adds at most one
    have hfirst : d < 10 := hlt d List.mem_cons_self
    have hrest := length_toDigits_foldl d fun e he => hlt e (List.mem_cons_of_mem d he)
    rw [Nat.toDigits_of_lt_base hfirst] at hrest
    rw [← hlength]
    simpa [ofDigits, Nat.add_comm] using hrest

end Number

namespace Selector.Nth

open Number

variable {cs rest : List Char} {a b : Int} {done : Nat}

/-! ## Runs of digits -/

theorem exists_run_ge (done : Nat) (cs : List Char) : ∃ run ∈ digitRuns done cs, done ≤ run := by
  induction cs generalizing done with
  | nil => exact ⟨done, List.mem_singleton_self done, Nat.le_refl done⟩
  | cons c rest ih =>
    unfold digitRuns
    split
    · obtain ⟨run, hrun, hle⟩ := ih (done + 1)
      exact ⟨run, hrun, by omega⟩
    · exact ⟨done, List.mem_cons_self, Nat.le_refl done⟩

theorem exists_run_of_part {ds : List Char} (h : ds <:+: cs)
    (hds : ∀ c ∈ ds, isDecimalDigit c = true) : ∃ run ∈ digitRuns done cs, ds.length ≤ run := by
  obtain ⟨before, after, rfl⟩ := h
  induction before generalizing done with
  | nil =>
    rw [List.nil_append, digitRuns_append done hds]
    obtain ⟨run, hrun, hle⟩ := exists_run_ge (done + ds.length) after
    exact ⟨run, hrun, by omega⟩
  | cons c before ih =>
    simp only [List.cons_append, digitRuns]
    split
    · exact ih
    · obtain ⟨run, hrun, hle⟩ := @ih 0
      exact ⟨run, List.mem_cons_of_mem done hrun, hle⟩

/-! ## The numbers of an argument -/

/-- A number has one digit, or no more than stand in a row somewhere in a text. -/
def Spelled (cs : List Char) (a : Int) : Prop :=
  (digitsOf a).length ≤ 1 ∨ ∃ ds, ds <:+: cs ∧ (∀ c ∈ ds, isDecimalDigit c = true) ∧
    (digitsOf a).length ≤ ds.length

theorem Spelled.widen {part : List Char} (h : Spelled part a) (hpart : part <:+: cs) :
    Spelled cs a := by
  rcases h with hone | ⟨ds, hds, hdigits, hle⟩
  · exact .inl hone
  · exact .inr ⟨ds, hds.trans hpart, hdigits, hle⟩

theorem Spelled.length_le (h : Spelled cs a)
    (hruns : (digitRuns 0 cs).find? (digitLimit < ·) = none) :
    (digitsOf a).length ≤ digitLimit := by
  rcases h with hone | ⟨ds, hds, hdigits, hle⟩
  · exact Nat.le_trans hone (by decide)
  · obtain ⟨run, hrun, hlength⟩ := @exists_run_of_part cs 0 ds hds hdigits
    have hlimit := List.find?_eq_none.mp hruns run hrun
    simp only [decide_eq_true_eq] at hlimit
    omega

theorem readNat?_of_cast {x : Int} (h : (readNat? cs >>= fun n => pure (n : Int)) = some x) :
    ∃ n : Nat, readNat? cs = some n ∧ x = n := by
  obtain ⟨n, hn, h⟩ := Option.bind_eq_some_iff.mp h
  cases h
  exact ⟨n, hn, rfl⟩

theorem spelled_of_readNat? {n : Nat} (hcs : ∀ c ∈ cs, isDecimalDigit c = true)
    (h : readNat? cs = some n) (ha : a.natAbs = n) : Spelled cs a := by
  refine .inr ⟨cs, List.infix_refl cs, hcs, ?_⟩
  rw [digitsOf, ha]
  exact length_toDigits_readNat? hcs h

theorem spelled_coefficient? {negative : Bool} (hcs : ∀ c ∈ cs, isDecimalDigit c = true)
    (h : coefficient? negative cs = some a) : Spelled cs a := by
  unfold coefficient? at h
  dsimp only at h
  split at h
  · cases h
    refine .inl ?_
    cases negative with
    | true => decide
    | false => decide
  · obtain ⟨_, hread, rfl⟩ := Option.map_eq_some_iff.mp h
    obtain ⟨n, hn, rfl⟩ := readNat?_of_cast hread
    refine spelled_of_readNat? hcs hn ?_
    cases negative with
    | true => simp
    | false => simp

theorem spelled_offset? (h : offset? cs = some b) : Spelled cs b := by
  have htrim (cs : List Char) : trimLeft cs <:+: cs := (List.dropWhile_suffix isBlank).isInfix
  unfold offset? at h
  split at h
  · cases h
    exact .inl (by decide)
  · rename_i c rest hrest
    split at h
    · dsimp only at h
      split at h
      · rename_i hall
        obtain ⟨_, hread, rfl⟩ := Option.map_eq_some_iff.mp h
        obtain ⟨n, hn, rfl⟩ := readNat?_of_cast hread
        have hbehind : trimLeft rest <:+: cs := by
          refine (htrim rest).trans (List.IsInfix.trans ?_ (htrim cs))
          rw [hrest]
          exact (List.suffix_cons c rest).isInfix
        refine (spelled_of_readNat? (List.all_eq_true.mp hall) hn ?_).widen hbehind
        split
        · simp
        · simp
      · cases h
    · cases h

theorem takeSign_suffix (cs : List Char) : (takeSign cs).2 <:+ cs := by
  unfold takeSign
  split
  · exact List.suffix_cons _ _
  · exact List.suffix_cons _ _
  · exact List.suffix_refl cs

theorem spelled_linear? (h : linear? cs = some (a, b)) : Spelled cs a ∧ Spelled cs b := by
  have hsign := (takeSign_suffix cs).isInfix
  unfold linear? at h
  generalize takeSign cs = signed at h hsign
  obtain ⟨negative, unsigned⟩ := signed
  dsimp only at h hsign
  have hdigits : ∀ c ∈ unsigned.takeWhile isDecimalDigit, isDecimalDigit c = true :=
    fun c hc => List.all_eq_true.mp List.all_takeWhile c hc
  have hfirst : unsigned.takeWhile isDecimalDigit <:+: cs :=
    (List.takeWhile_prefix isDecimalDigit).isInfix.trans hsign
  have hsecond : unsigned.dropWhile isDecimalDigit <:+: cs :=
    (List.dropWhile_suffix isDecimalDigit).isInfix.trans hsign
  split at h
  · obtain ⟨_, hread, hab⟩ := Option.map_eq_some_iff.mp h
    obtain ⟨n, hn, rfl⟩ := readNat?_of_cast hread
    cases hab
    refine ⟨.inl (by decide), (spelled_of_readNat? hdigits hn ?_).widen hfirst⟩
    split
    · simp
    · simp
  · rename_i c rest hrest
    split at h
    · obtain ⟨a', ha, h⟩ := Option.bind_eq_some_iff.mp h
      obtain ⟨b', hb, h⟩ := Option.bind_eq_some_iff.mp h
      cases h
      rw [hrest] at hsecond
      have hbehind : rest <:+: cs := (List.suffix_cons c rest).isInfix.trans hsecond
      exact ⟨(spelled_coefficient? hdigits ha).widen hfirst,
        (spelled_offset? hb).widen hbehind⟩
    · cases h

theorem spelled_parseChars? (h : parseChars? cs = some (a, b)) : Spelled cs a ∧ Spelled cs b := by
  unfold parseChars? at h
  dsimp only at h
  split at h
  · cases h
    exact ⟨.inl (by decide), .inl (by decide)⟩
  · split at h
    · cases h
      exact ⟨.inl (by decide), .inl (by decide)⟩
    · obtain ⟨ha, hb⟩ := spelled_linear? h
      have htrim : trim cs <:+: cs := by
        have hright := trimRight_prefix (trimLeft cs)
        exact hright.isInfix.trans (List.dropWhile_suffix isBlank).isInfix
      exact ⟨ha.widen htrim, hb.widen htrim⟩

/-- The numbers of an argument that was accepted are within the limit on digits. -/
theorem overlong?_eq_none (h : readChars cs = .ok (a, b)) : overlong? a b = none := by
  unfold readChars at h
  split at h
  · cases h
  · rename_i hparse
    split at h
    · cases h
    · rename_i hruns
      cases h
      obtain ⟨ha, hb⟩ := spelled_parseChars? hparse
      have hlength := ha.length_le hruns
      have hlength' := hb.length_le hruns
      simp only [overlong?, List.find?_eq_none, List.mem_cons, List.not_mem_nil, or_false]
      rintro digits (rfl | rfl)
      · simpa using hlength
      · simpa using hlength'

/-- The canonical text of an argument that was accepted. -/
theorem readChars_render_of_readChars (h : readChars cs = .ok (a, b)) :
    readChars (render a b).toList = if 0 ≤ b then .ok (a, b) else .error .invalidNth := by
  by_cases hb : 0 ≤ b
  · rw [if_pos hb, readChars_render a hb, overlong?_eq_none h]
  · rw [if_neg hb, readChars_render_of_neg a (by omega)]

theorem readChars_of_parse {s : String} (h : parse s = .ok (a, b)) :
    readChars s.toList = .ok (a, b) := by
  unfold parse at h
  split at h
  · rename_i hread
    cases h
    exact hread
  · cases h

end Selector.Nth

namespace Selector

/-! ## Positions in selectors that were read -/

/-- The positions of a condition, if it has any, were read from some argument. -/
def Simple.PositionsRead : Simple → Prop
  | .pseudoClass _ (.nth a b) => ∃ raw, Nth.readChars raw = .ok (a, b)
  | _ => True

/-- The positions of all conditions in the compounds of a chain were read. -/
def Complex.PositionsRead (c : Complex) : Prop :=
  ∀ parts ∈ c.compounds, ∀ part ∈ parts, part.PositionsRead

variable {fuel : Nat} {nested : Bool} {name : String} {part : Simple} {parts done : List Simple}
  {cs rest : List Char} {left c : Complex} {a b : Int}

theorem positionsRead_readRawArgument (h : readRawArgument name cs = .ok (part, rest)) :
    part.PositionsRead := by
  unfold readRawArgument at h
  split at h
  · exact absurd h stop_ne_ok
  · dsimp only at h
    split at h
    · split at h
      · rename_i hread
        cases h
        exact ⟨_, hread⟩
      · cases h
    · cases h
      trivial

theorem positionsRead_readPseudo (h : readPseudo fuel cs = .ok (part, rest)) :
    part.PositionsRead := by
  cases fuel with
  | zero => exact absurd h stop_ne_ok
  | succ fuel =>
    unfold readPseudo at h
    split at h
    · obtain ⟨_, -, h⟩ := bind_eq_ok h
      cases h
      trivial
    · obtain ⟨⟨name, left⟩, -, h⟩ := bind_eq_ok h
      dsimp only at h
      split at h
      · cases h
        trivial
      · split at h
        · split at h
          · obtain ⟨⟨list, after⟩, -, h⟩ := bind_eq_ok h
            dsimp only at h
            split at h
            · cases h
              trivial
            · exact absurd h stop_ne_ok
          · exact positionsRead_readRawArgument h
        · cases h
          trivial

theorem positionsRead_readParts (hdone : ∀ part ∈ done, part.PositionsRead)
    (h : readParts fuel done cs = .ok (parts, rest)) : ∀ part ∈ parts, part.PositionsRead := by
  induction fuel generalizing done cs with
  | zero => exact absurd h stop_ne_ok
  | succ fuel ih =>
    have push {part : Simple} {left : List Char} (hpart : part.PositionsRead)
        (h : readParts fuel (part :: done) left = .ok (parts, rest)) :
        ∀ part ∈ parts, part.PositionsRead :=
      ih (List.forall_mem_cons.mpr ⟨hpart, hdone⟩) h
    unfold readParts at h
    split at h
    · obtain ⟨_, -, h⟩ := bind_eq_ok h
      refine push ?_ h
      trivial
    · obtain ⟨_, -, h⟩ := bind_eq_ok h
      refine push ?_ h
      trivial
    · obtain ⟨⟨part, left⟩, hpart, h⟩ := bind_eq_ok h
      obtain ⟨name, test, rfl⟩ := readAttribute_ok hpart
      refine push ?_ h
      trivial
    · obtain ⟨⟨part, left⟩, hpart, h⟩ := bind_eq_ok h
      exact push (positionsRead_readPseudo hpart) h
    · split at h
      · exact absurd h stop_ne_ok
      · cases h
        intro part hpart
        exact hdone part (List.mem_reverse.mp hpart)

theorem positionsRead_readCompound (h : readCompound fuel cs = .ok (parts, rest)) :
    ∀ part ∈ parts, part.PositionsRead := by
  cases fuel with
  | zero => exact absurd h stop_ne_ok
  | succ fuel =>
    unfold readCompound at h
    split at h
    · exact positionsRead_readParts (by simp [Simple.PositionsRead]) h
    · split at h
      · exact positionsRead_readParts (by simp) h
      · exact positionsRead_readParts (by simp [Simple.PositionsRead]) h

theorem positionsRead_readChain (hleft : left.PositionsRead)
    (h : readChain fuel nested left cs = .ok (c, rest)) : c.PositionsRead := by
  induction fuel generalizing left cs with
  | zero => exact absurd h stop_ne_ok
  | succ fuel ih =>
    unfold readChain at h
    dsimp only at h
    split at h
    · cases h
      exact hleft
    · exact absurd h stop_ne_ok
    · rename_i how _
      obtain ⟨⟨parts, after⟩, hparts, h⟩ := bind_eq_ok h
      refine ih ?_ h
      intro other hother
      rw [Complex.compounds, List.mem_append, List.mem_singleton] at hother
      rcases hother with hother | rfl
      · exact hleft other hother
      · exact positionsRead_readCompound hparts

theorem positionsRead_readComplex (h : readComplex fuel nested cs = .ok (c, rest)) :
    c.PositionsRead := by
  cases fuel with
  | zero => exact absurd h stop_ne_ok
  | succ fuel =>
    obtain ⟨⟨parts, after⟩, hparts, h⟩ := bind_eq_ok h
    refine positionsRead_readChain ?_ h
    intro other hother
    rw [Complex.compounds, List.mem_singleton] at hother
    subst hother
    exact positionsRead_readCompound hparts

theorem positionsRead_readList {list : List Complex}
    (h : readList fuel nested cs = .ok (list, rest)) : ∀ c ∈ list, c.PositionsRead := by
  induction fuel generalizing cs list with
  | zero => exact absurd h stop_ne_ok
  | succ fuel ih =>
    obtain ⟨⟨branch, after⟩, hbranch, h⟩ := bind_eq_ok h
    dsimp only at h
    split at h
    · obtain ⟨⟨others, left⟩, hothers, h⟩ := bind_eq_ok h
      cases h
      exact List.forall_mem_cons.mpr ⟨positionsRead_readComplex hbranch, ih hothers⟩
    · cases h
      simpa using positionsRead_readComplex hbranch

theorem positionsRead_of_parse {s : String} {list : SelectorList}
    (h : SelectorList.parse s = .ok list) : ∀ c ∈ list, c.PositionsRead := by
  obtain ⟨fuel, cs, rest, hlist⟩ := exists_readList_of_parse h
  exact positionsRead_readList hlist

/-! ## The canonical text -/

/-- A selector that is a pseudo-class and nothing else. -/
def pseudoClassAlone (name : String) (argument : Argument) : SelectorList :=
  [.compound [.pseudoClass name argument]]

theorem name_of_takesPositions : ∀ known ∈ takesPositions,
    IsName known.toList ∧ lower known = known := by decide +kernel

theorem readRawArgument_error {raw : List Char} {reason : Reason} (hraw : ')' ∉ raw)
    (hclass : name ∈ takesPositions) (h : Nth.readChars raw = .error reason) :
    readRawArgument name (raw ++ ')' :: rest) =
      .error { remaining := none, reason, argument := String.ofList raw } := by
  have hinner : ∀ c ∈ raw, (c != ')') = true := by
    intro c hc
    rw [bne_iff_ne]
    rintro rfl
    exact hraw hc
  rw [readRawArgument, List.dropWhile_append_of_pos hinner, List.takeWhile_append_of_pos hinner,
    List.dropWhile_cons_of_neg (by decide), List.takeWhile_cons_of_neg (by decide), List.append_nil]
  dsimp only
  rw [if_pos (List.contains_iff_mem.mpr hclass), h]

theorem toList_render_nth (name : String) (a b : Int) :
    (pseudoClassAlone name (.nth a b)).render.toList =
      ':' :: (name.toList ++ '(' :: ((Nth.render a b).toList ++ [')'])) := by
  simp [pseudoClassAlone, SelectorList.render, renderBranches, Complex.render, renderParts,
    Simple.render]

theorem toList_render_bare (name : String) :
    (pseudoClassAlone name .none).render.toList = ':' :: name.toList := by
  simp [pseudoClassAlone, SelectorList.render, renderBranches, Complex.render, renderParts,
    Simple.render]

/-- A text at whose first compound reading stops, and that has no blanks at its ends. -/
theorem parse_of_stop {s : String} {stop : Stop} (hne : s.toList ≠ [])
    (hfirst : ∀ c ∈ s.toList.head?, isBlank c = false)
    (hlast : ∀ c ∈ s.toList.getLast?, isBlank c = false)
    (hread : ∀ fuel, readCompound (fuel + 3) s.toList = .error stop) :
    SelectorList.parse s = .error (stop.toError s.toList) := by
  have hcomplex : readComplex (4 * s.toList.length + 7) false s.toList = .error stop := by
    rw [readComplex, hread (4 * s.toList.length + 3)]
    rfl
  have hlist : readList (readingBound s.toList) false s.toList = .error stop := by
    rw [readingBound, readList, trimLeft_eq_self hfirst, hcomplex]
    rfl
  rw [SelectorList.parse, trim_eq_self hfirst hlast, parseTrimmed, if_neg (by simpa using hne),
    hlist]
  rfl

section Alone

variable (hclass : name ∈ takesPositions)

include hclass

theorem readCompound_positions (a b : Int) (fuel : Nat) :
    readCompound (fuel + 3) (pseudoClassAlone name (.nth a b)).render.toList =
      readRawArgument name ((Nth.render a b).toList ++ [')']) >>= fun read =>
        readParts (fuel + 1) [read.1] read.2 := by
  obtain ⟨hname, hlower⟩ := name_of_takesPositions name hclass
  obtain ⟨hcolon, hselectors⟩ := not_mem_of_takesPositions name hclass
  have hpseudo := @readPseudo_open name.toList hname ((Nth.render a b).toList ++ [')']) fuel
  rw [lowerChars_toList hlower] at hpseudo
  rw [toList_render_nth, readCompound_of_nameEnds (nameEnds_cons (by decide)) (by simp), readParts,
    hpseudo hcolon, if_neg (by simpa using hselectors)]

theorem readCompound_bare (fuel : Nat) :
    readCompound (fuel + 3) (pseudoClassAlone name .none).render.toList =
      .ok ([.pseudoClass name .none], []) := by
  obtain ⟨hname, hlower⟩ := name_of_takesPositions name hclass
  have hpseudo := @readPseudo_name name.toList [] hname nameEnds_nil (by simp) fuel
  rw [lowerChars_toList hlower, List.append_nil] at hpseudo
  rw [toList_render_bare, readCompound_of_nameEnds (nameEnds_cons (by decide)) (by simp), readParts,
    hpseudo (not_mem_of_takesPositions name hclass).1]
  exact readParts_nil fuel (List.cons_ne_nil _ _)

/-- The canonical text of positions that were read. -/
theorem parse_render_positions {raw : List Char} (h : Nth.readChars raw = .ok (a, b)) :
    SelectorList.parse (pseudoClassAlone name (.nth a b)).render =
      if 0 ≤ b then .ok (pseudoClassAlone name (.nth a b))
      else .error ⟨Nth.render a b, .invalidNth, none⟩ := by
  have htext := toList_render_nth name a b
  have hfirst : ∀ c ∈ (pseudoClassAlone name (.nth a b)).render.toList.head?,
      isBlank c = false := by
    rw [htext]
    rintro c ⟨⟩
    decide
  have hlast : ∀ c ∈ (pseudoClassAlone name (.nth a b)).render.toList.getLast?,
      isBlank c = false := by
    have hends : (pseudoClassAlone name (.nth a b)).render.toList =
        ':' :: (name.toList ++ '(' :: (Nth.render a b).toList) ++ [')'] := by simp [htext]
    rw [hends, List.getLast?_concat]
    rintro c ⟨⟩
    decide
  by_cases hb : 0 ≤ b
  · have hargument := @readRawArgument_render name a b hb hclass []
    rw [Simple.longNumeral?, Nth.overlong?_eq_none h, Option.map_none, checked_none_bind]
      at hargument
    rw [if_pos hb]
    refine parse_of_readCompound hfirst hlast ?_
    intro fuel
    rw [readCompound_positions hclass, hargument]
    exact readParts_nil fuel (List.cons_ne_nil _ _)
  · have hraw : ')' ∉ (Nth.render a b).toList := by
      intro hmem
      exact absurd (Nth.mem_render hmem) (by decide)
    have hargument := @readRawArgument_error name [] _ _ hraw hclass
      (Nth.readChars_render_of_neg a (by omega))
    rw [String.ofList_toList] at hargument
    have hread (fuel : Nat) :
        readCompound (fuel + 3) (pseudoClassAlone name (.nth a b)).render.toList =
          .error { remaining := none, reason := .invalidNth, argument := Nth.render a b } := by
      rw [readCompound_positions hclass, hargument]
      rfl
    rw [if_neg hb]
    exact parse_of_stop (by simp [htext]) hfirst hlast hread

theorem parse_render_bare : SelectorList.parse (pseudoClassAlone name .none).render =
    .ok (pseudoClassAlone name .none) := by
  obtain ⟨hname, -⟩ := name_of_takesPositions name hclass
  have hblank : ∀ c ∈ (pseudoClassAlone name .none).render.toList, isBlank c = false := by
    rw [toList_render_bare]
    refine List.forall_mem_cons.mpr ⟨by decide, ?_⟩
    intro c hc
    exact isBlank_of_mem_name hname hc
  exact parse_of_readCompound (fun c hc => hblank c (List.mem_of_mem_head? hc))
    (fun c hc => hblank c (List.mem_of_getLast? hc)) (readCompound_bare hclass)

end Alone

/-- The canonical text of an argument that can be read is read as the same positions unless `b` is
negative, and the same holds of a selector that is `:nth-child` or `:nth-last-child` and nothing
else. With a negative `b` the text is refused. Without an argument there is nothing to go wrong. -/
theorem nth_survives_unless_negative (a b : Int) :
    (∀ expression, Nth.parse expression = .ok (a, b) →
      Nth.parse (Nth.render a b) =
        if 0 ≤ b then .ok (a, b) else .error ⟨Nth.render a b, .invalidNth, none⟩) ∧
    ∀ name ∈ takesPositions,
      (∀ s, SelectorList.parse s = .ok (pseudoClassAlone name (.nth a b)) →
        SelectorList.parse (pseudoClassAlone name (.nth a b)).render =
          if 0 ≤ b then .ok (pseudoClassAlone name (.nth a b))
          else .error ⟨Nth.render a b, .invalidNth, none⟩) ∧
      SelectorList.parse (pseudoClassAlone name .none).render =
        .ok (pseudoClassAlone name .none) := by
  refine ⟨?_, ?_⟩
  · intro expression h
    have hread := Nth.readChars_render_of_readChars (Nth.readChars_of_parse h)
    rw [Nth.parse, hread]
    by_cases hb : 0 ≤ b
    · rw [if_pos hb, if_pos hb]
    · rw [if_neg hb, if_neg hb]
  · intro name hclass
    refine ⟨?_, parse_render_bare hclass⟩
    intro s h
    obtain ⟨raw, hraw⟩ := positionsRead_of_parse h _ List.mem_cons_self
      [.pseudoClass name (.nth a b)] List.mem_cons_self _ List.mem_cons_self
    exact parse_render_positions hclass hraw

/-- An argument with blanks, and a selector with its positions. -/
theorem nth_survives_apart : Nth.parse " +3N + 02 " = .ok (3, 2) ∧
    Nth.parse (Nth.render 3 2) = .ok (3, 2) ∧
    ∃ s, SelectorList.parse s = .ok (pseudoClassAlone "nth-last-child" (.nth 3 2)) ∧
      SelectorList.parse (pseudoClassAlone "nth-last-child" (.nth 3 2)).render =
        .ok (pseudoClassAlone "nth-last-child" (.nth 3 2)) := by
  have hread : Nth.parse " +3N + 02 " = .ok (3, 2) := by decide
  have hclass : "nth-last-child" ∈ takesPositions := by decide
  have hparse := parse_render_positions hclass (Nth.readChars_of_parse hread)
  obtain ⟨hargument, hselector⟩ := nth_survives_unless_negative 3 2
  exact ⟨hread, hargument _ hread, _, hparse, (hselector _ hclass).1 _ hparse⟩

/-- The text with a negative number behind the plus is no argument. -/
theorem nth_lost : Nth.parse "3n - 2" = .ok (3, -2) ∧ Nth.render 3 (-2) = "3n+-2" ∧
    Nth.parse "3n+-2" = .error ⟨"3n+-2", .invalidNth, none⟩ := by
  decide

end Selector

end AccessAudit
