import AccessAudit.Proofs.Selector.Reading

/-!
# Positions read back

The canonical text of `an+b` is a signed number, the letter `n`, a plus sign and a second number.
Where the second one is not negative this is an argument again, and reading it gives `a` and `b`
back (`readChars_render`), unless one of the two has more digits than can be read. Before a negative
number there are two signs, and the text is refused (`readChars_render_of_neg`).
-/

namespace AccessAudit

namespace Number

open Text

variable {c : Char} {ds : List Char}

theorem toNat_of_isDigit (h : c.isDigit = true) : 0x30 ≤ c.toNat ∧ c.toNat ≤ 0x39 :=
  Char.isDigit_iff_toNat.mp h

theorem digitValue?_of_isDigit (h : c.isDigit = true) :
    digitValue? c = some (c.toNat - '0'.toNat) := by
  obtain ⟨hlow, hhigh⟩ := toNat_of_isDigit h
  have hascii : c.toNat < 0x80 := by omega
  simp [digitValue?, hascii, hlow, hhigh]

theorem isDecimalDigit_of_isDigit (h : c.isDigit = true) : isDecimalDigit c = true := by
  rw [isDecimalDigit, digitValue?_of_isDigit h]
  rfl

theorem digitRun?_of_isDigit (h : ∀ c ∈ ds, c.isDigit = true) :
    digitRun? ds = some (ds.map fun c => c.toNat - '0'.toNat) := by
  fun_induction digitRun? ds with
  | case1 => rfl
  | case2 c =>
    rw [digitValue?_of_isDigit (h c List.mem_cons_self)]
    rfl
  | case3 c next rest ih =>
    -- an underscore is no digit
    exact absurd (h '_' (by simp)) (by decide)
  | case4 c rest hlast hunderscore ih =>
    rw [digitValue?_of_isDigit (h c List.mem_cons_self),
      ih fun d hd => h d (List.mem_cons_of_mem c hd)]
    rfl

/-- The digits of a number are read as that number. -/
theorem readNat?_toDigits (n : Nat) : readNat? (Nat.toDigits 10 n) = some n := by
  have hrun := digitRun?_of_isDigit fun c (hc : c ∈ Nat.toDigits 10 n) =>
    Nat.isDigit_of_mem_toDigits (by decide) (by decide) hc
  have hvalue : ofDigits ((Nat.toDigits 10 n).map fun c => c.toNat - '0'.toNat) = n := by
    rw [ofDigits, List.foldl_map, ← Nat.ofDigitChars_eq_foldl]
    exact Nat.ofDigitChars_toDigits (by decide) (by decide)
  rw [readNat?, hrun]
  split
  case h_1 hnil => simp [Nat.toDigits_ne_nil] at hnil
  case h_2 digits _ hdigits =>
    cases hdigits
    rw [hvalue]
  case h_3 hnone => cases hnone

end Number

namespace Selector.Nth

open Text Number

/-- The digits of a whole number. -/
def digitsOf (a : Int) : List Char := Nat.toDigits 10 a.natAbs

theorem isDigit_of_mem {a : Int} {c : Char} (h : c ∈ digitsOf a) : c.isDigit = true :=
  Nat.isDigit_of_mem_toDigits (by decide) (by decide) h

theorem digitsOf_ne_nil (a : Int) : digitsOf a ≠ [] := Nat.toDigits_ne_nil

/-- How many digits the first number has that cannot be read back. -/
def overlong? (a b : Int) : Option Nat :=
  [(digitsOf a).length, (digitsOf b).length].find? (digitLimit < ·)

theorem toList_repr (a : Int) :
    a.repr.toList = (if a < 0 then ['-'] else []) ++ digitsOf a := by
  cases a with
  | ofNat n => simp [Int.repr, Nat.toList_repr, digitsOf]
  | negSucc n => simp [Int.repr, Nat.toList_repr, digitsOf, Int.negSucc_lt_zero]

variable {a b : Int} {rest : List Char}

theorem toList_render (a b : Int) : (render a b).toList = (if a < 0 then ['-'] else []) ++
    (digitsOf a ++ 'n' :: '+' :: ((if b < 0 then ['-'] else []) ++ digitsOf b)) := by
  simp [render, toList_repr]

/-! ## The two numbers -/

theorem takeSign_digitsOf (a : Int) (rest : List Char) :
    takeSign (digitsOf a ++ rest) = (false, digitsOf a ++ rest) := by
  obtain ⟨c, ds, hds⟩ := List.exists_cons_of_ne_nil (digitsOf_ne_nil a)
  have hc : c.isDigit = true := isDigit_of_mem (a := a) (by simp [hds])
  rw [hds, List.cons_append, takeSign.eq_def]
  split
  case h_1 heq =>
    cases heq
    exact absurd hc (by decide)
  case h_2 heq =>
    cases heq
    exact absurd hc (by decide)
  case h_3 => rfl

theorem takeSign_signed (a : Int) (rest : List Char) :
    takeSign ((if a < 0 then ['-'] else []) ++ (digitsOf a ++ rest)) =
      (decide (a < 0), digitsOf a ++ rest) := by
  by_cases h : a < 0
  · rw [if_pos h, decide_eq_true h]
    rfl
  · rw [if_neg h, decide_eq_false h]
    exact takeSign_digitsOf a rest

theorem isDecimalDigit_of_mem {c : Char} (h : c ∈ digitsOf a) : isDecimalDigit c = true :=
  isDecimalDigit_of_isDigit (isDigit_of_mem h)

theorem coefficient?_digitsOf (a : Int) : coefficient? (decide (a < 0)) (digitsOf a) = some a := by
  rw [coefficient?, if_neg (by simp [digitsOf_ne_nil]), digitsOf, readNat?_toDigits]
  show some ((if decide (a < 0) = true then -1 else 1) * (a.natAbs : Int)) = some a
  congr 1
  by_cases h : a < 0
  · rw [if_pos (decide_eq_true h)]
    omega
  · rw [if_neg (by simpa using h)]
    omega

theorem isBlank_of_isDigit {c : Char} (h : c.isDigit = true) : isBlank c = false := by
  apply isBlank_of_isNameChar
  have hrange := toNat_of_isDigit h
  have hascii : c.toNat < 0x80 := by omega
  simp [isNameChar, isWord, hascii, Char.isAlphanum, h]

theorem trimLeft_digitsOf (a : Int) : trimLeft (digitsOf a) = digitsOf a := by
  apply trimLeft_eq_self
  intro c hc
  exact isBlank_of_isDigit (isDigit_of_mem (List.mem_of_mem_head? hc))

theorem offset?_digitsOf (hb : 0 ≤ b) : offset? ('+' :: digitsOf b) = some b := by
  have hplus : trimLeft ('+' :: digitsOf b) = '+' :: digitsOf b :=
    trimLeft_eq_self (by rintro c ⟨⟩; decide)
  have hall : (digitsOf b).all isDecimalDigit = true :=
    List.all_eq_true.mpr fun _ hc => isDecimalDigit_of_mem hc
  rw [offset?, hplus]
  dsimp only
  rw [if_pos (by decide), trimLeft_digitsOf, if_pos hall, digitsOf, readNat?_toDigits]
  show some (b.natAbs : Int) = some b
  rw [Int.natAbs_of_nonneg hb]

/-- A second sign is neither a blank nor a digit. -/
theorem offset?_minus (rest : List Char) : offset? ('+' :: '-' :: rest) = none := by
  have htrim (c : Char) (h : isBlank c = false) (cs : List Char) : trimLeft (c :: cs) = c :: cs :=
    trimLeft_eq_self (by rintro d ⟨⟩; exact h)
  rw [offset?, htrim '+' (by decide)]
  dsimp only
  rw [if_pos (by decide), htrim '-' (by decide), if_neg]
  simp only [List.all_cons, Bool.and_eq_true, not_and]
  intro hdigit
  exact absurd hdigit (by decide)

theorem offset?_signed (b : Int) :
    offset? ('+' :: ((if b < 0 then ['-'] else []) ++ digitsOf b)) =
      if 0 ≤ b then some b else none := by
  by_cases hb : b < 0
  · rw [if_pos hb, if_neg (by omega)]
    exact offset?_minus (digitsOf b)
  · rw [if_neg hb, if_pos (by omega)]
    exact offset?_digitsOf (by omega)

theorem linear?_signed (a : Int) (rest : List Char) :
    linear? ((if a < 0 then ['-'] else []) ++ (digitsOf a ++ 'n' :: rest)) =
      (offset? rest).map (a, ·) := by
  have hdigits : ∀ c ∈ digitsOf a, isDecimalDigit c = true := fun _ => isDecimalDigit_of_mem
  have htake : (digitsOf a ++ 'n' :: rest).takeWhile isDecimalDigit = digitsOf a := by
    rw [List.takeWhile_append_of_pos hdigits, List.takeWhile_cons_of_neg (by decide),
      List.append_nil]
  have hdrop : (digitsOf a ++ 'n' :: rest).dropWhile isDecimalDigit = 'n' :: rest := by
    rw [List.dropWhile_append_of_pos hdigits, List.dropWhile_cons_of_neg (by decide)]
  rw [linear?, takeSign_signed]
  dsimp only
  rw [htake, hdrop]
  dsimp only
  rw [if_pos (by decide), coefficient?_digitsOf]
  cases offset? rest with
  | none => rfl
  | some b => rfl

/-! ## The whole argument -/

theorem mem_render {c : Char} (h : c ∈ (render a b).toList) :
    c.isDigit = true ∨ c = '-' ∨ c = 'n' ∨ c = '+' := by
  have hminus {x : Int} (hsign : c ∈ if x < 0 then ['-'] else []) : c = '-' := by
    split at hsign
    · exact List.mem_singleton.mp hsign
    · cases hsign
  rw [toList_render] at h
  simp only [List.mem_append, List.mem_cons] at h
  rcases h with hsign | hdigit | rfl | rfl | hsign | hdigit
  · exact .inr (.inl (hminus hsign))
  · exact .inl (isDigit_of_mem hdigit)
  · exact .inr (.inr (.inl rfl))
  · exact .inr (.inr (.inr rfl))
  · exact .inr (.inl (hminus hsign))
  · exact .inl (isDigit_of_mem hdigit)

theorem isBlank_of_mem_render {c : Char} (h : c ∈ (render a b).toList) : isBlank c = false := by
  rcases mem_render h with hdigit | rfl | rfl | rfl
  · exact isBlank_of_isDigit hdigit
  all_goals decide

theorem parseChars?_render (a b : Int) :
    parseChars? (render a b).toList = if 0 ≤ b then some (a, b) else none := by
  have hplus : '+' ∈ (render a b).toList.map Char.toLower := by
    rw [toList_render]
    simp
  have htrim : trim (render a b).toList = (render a b).toList :=
    trim_eq_self (fun c hc => isBlank_of_mem_render (List.mem_of_mem_head? hc))
      fun c hc => isBlank_of_mem_render (List.mem_of_getLast? hc)
  rw [parseChars?, htrim, if_neg, if_neg, toList_render, linear?_signed, offset?_signed]
  · split
    · rfl
    · rfl
  · intro heven
    rw [eq_of_beq heven] at hplus
    exact absurd hplus (by decide)
  · intro hodd
    rw [eq_of_beq hodd] at hplus
    exact absurd hplus (by decide)

theorem digitRuns_append (done : Nat) {ds : List Char} (h : ∀ c ∈ ds, isDecimalDigit c = true) :
    digitRuns done (ds ++ rest) = digitRuns (done + ds.length) rest := by
  induction ds generalizing done with
  | nil => rfl
  | cons c ds ih =>
    rw [List.cons_append, digitRuns, if_pos (h c List.mem_cons_self),
      ih (done + 1) fun d hd => h d (List.mem_cons_of_mem c hd), List.length_cons,
      Nat.add_assoc, Nat.add_comm 1]

theorem digitRuns_render (a : Int) (hb : 0 ≤ b) :
    (digitRuns 0 (render a b).toList).find? (digitLimit < ·) = overlong? a b := by
  have hruns : digitRuns 0 (digitsOf a ++ 'n' :: '+' :: digitsOf b) =
      [(digitsOf a).length, 0, (digitsOf b).length] := by
    have hlast := @digitRuns_append [] 0 (digitsOf b) fun _ => isDecimalDigit_of_mem
    rw [List.append_nil, Nat.zero_add] at hlast
    rw [digitRuns_append 0 fun _ => isDecimalDigit_of_mem, Nat.zero_add, digitRuns,
      if_neg (by decide), digitRuns, if_neg (by decide), hlast]
    rfl
  -- neither the sign nor the place between the letter and the plus has digits before it
  have hfind : ([(digitsOf a).length, 0, (digitsOf b).length].find? (digitLimit < ·)) =
      overlong? a b := by
    rw [overlong?, List.find?_cons, List.find?_cons, List.find?_cons]
    rfl
  rw [toList_render, if_neg (show ¬ b < 0 by omega), List.nil_append]
  by_cases h : a < 0
  · rw [if_pos h]
    show List.find? _ (digitRuns 0 ('-' :: (digitsOf a ++ 'n' :: '+' :: digitsOf b))) = _
    rw [digitRuns, if_neg (by decide), hruns, List.find?_cons_of_neg (by decide), hfind]
  · rw [if_neg h, List.nil_append, hruns, hfind]

/-- The argument with `n` and a number that is not negative is read back. -/
theorem readChars_render (a : Int) (hb : 0 ≤ b) :
    readChars (render a b).toList =
      match overlong? a b with
      | some digits => .error (.longNumeral digits)
      | none => .ok (a, b) := by
  have hparse := parseChars?_render a b
  rw [if_pos hb] at hparse
  have hruns := digitRuns_render a hb
  cases hlong : overlong? a b with
  | none => simp [readChars, hparse, hruns, hlong]
  | some digits => simp [readChars, hparse, hruns, hlong]

theorem readChars_render_of_neg (a : Int) (hb : b < 0) :
    readChars (render a b).toList = .error .invalidNth := by
  rw [readChars, parseChars?_render, if_neg (by omega)]

end Selector.Nth

end AccessAudit
