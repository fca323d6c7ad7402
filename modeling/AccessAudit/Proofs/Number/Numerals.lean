import AccessAudit.Proofs.Selector.Nth
import Mathlib.Data.List.TakeWhile

/-!
# Numerals of digits

What the readers of numbers do with texts that pass for numerals at first sight. A text of decimal
digits, with a fraction or without one, is a decimal (`exists_readUnsigned?`), and without one it is
a whole number if it is not too long (`readInt_of_isDecimalDigit`). A superscript looks like a digit
and has no place in a numeral (`readInt_of_not_isDecimalDigit`).
-/

namespace AccessAudit

namespace Text

/-! ## Digits -/

variable {c : Char}

theorem decimalZeros_avoid_blanks :
    decimalZeros.toList.all (fun base => avoidsBlanks (base, base + 9)) = true := by decide +kernel

theorem ornamentalDigits_avoid_blanks : ornamentalDigits.toList.all
    (fun range => avoidsBlanks range && Nat.ble 0x80 range.1) = true := by decide +kernel

theorem isBlank_of_isDecimalDigit (h : isDecimalDigit c = true) : isBlank c = false := by
  unfold isDecimalDigit digitValue? at h
  dsimp only at h
  split at h
  case isTrue hascii =>
    split at h
    case isTrue hdigit =>
      simp only [Bool.and_eq_true, decide_eq_true_eq] at hdigit
      simp only [isBlank, Bool.or_eq_false_iff, Bool.and_eq_false_iff, decide_eq_false_iff_not,
        beq_eq_false_iff_ne]
      omega
    case isFalse => cases h
  case isFalse hascii =>
    rw [Option.isSome_map] at h
    obtain ⟨base, hbase⟩ := Option.isSome_iff_exists.mp h
    have hmem := (Array.mem_of_find?_eq_some hbase).val
    have hin := Array.find?_some hbase
    simp only [Bool.and_eq_true, decide_eq_true_eq] at hin
    exact isBlank_of_avoidsBlanks (List.all_eq_true.mp decimalZeros_avoid_blanks base hmem) hin
      hascii

/-- No blank looks like a digit. -/
theorem isBlank_of_isDigitLike (h : isDigitLike c = true) : isBlank c = false := by
  rcases Bool.or_eq_true_iff.mp h with hdecimal | hornament
  · exact isBlank_of_isDecimalDigit hdecimal
  · obtain ⟨range, hrange, hin⟩ := Array.any_eq_true'.mp hornament
    have htable := List.all_eq_true.mp ornamentalDigits_avoid_blanks range hrange.val
    simp only [Bool.and_eq_true, decide_eq_true_eq, Nat.ble_eq] at hin htable
    exact isBlank_of_avoidsBlanks htable.1 hin (by omega)

/-- What is no digit is none of the characters that look like one. -/
theorem ne_of_isDigitLike (h : isDigitLike c = true) (other : Char)
    (hother : isDigitLike other = false) : c ≠ other := by
  rintro rfl
  rw [h] at hother
  cases hother

theorem isDigitLike_of_isDecimalDigit (h : isDecimalDigit c = true) : isDigitLike c = true := by
  rw [isDigitLike, h, Bool.true_or]

theorem trimPadding_eq_self {cs : List Char} (h : ∀ c ∈ cs, isBlank c = false) :
    trimPadding cs = cs := by
  have hnone (l : List Char) (hl : ∀ c ∈ l, isBlank c = false) : l.dropWhile isPadding = l := by
    cases l with
    | nil => rfl
    | cons c rest =>
      apply List.dropWhile_cons_of_neg
      rw [isPadding, hl c List.mem_cons_self]
      simp
  rw [trimPadding, hnone cs h, hnone cs.reverse (by simpa using h), List.reverse_reverse]

end Text

namespace Number

open Text

/-! ## Runs of digits -/

section Run

variable {cs : List Char}

theorem exists_digitRun? (h : ∀ c ∈ cs, isDecimalDigit c = true) :
    ∃ digits, digitRun? cs = some digits ∧ digits.length = cs.length := by
  fun_induction digitRun? cs with
  | case1 => exact ⟨[], rfl, rfl⟩
  | case2 c =>
    obtain ⟨n, hn⟩ := Option.isSome_iff_exists.mp (h c List.mem_cons_self)
    exact ⟨[n], by rw [hn]; rfl, rfl⟩
  | case3 c next rest ih =>
    -- an underscore is no digit
    exact absurd (h '_' (by simp)) (by decide)
  | case4 c rest hlast hunderscore ih =>
    obtain ⟨n, hn⟩ := Option.isSome_iff_exists.mp (h c List.mem_cons_self)
    obtain ⟨digits, hdigits, hlength⟩ := ih fun d hd => h d (List.mem_cons_of_mem c hd)
    exact ⟨n :: digits, by rw [hn, hdigits]; rfl, by rw [List.length_cons, hlength]; rfl⟩

/-- Where no underscores are, every character has to be a decimal digit. -/
theorem digitRun?_eq_none (hunderscore : '_' ∉ cs) {c : Char} (hc : c ∈ cs)
    (hnot : isDecimalDigit c = false) : digitRun? cs = none := by
  have hvalue : digitValue? c = none := by simpa [isDecimalDigit] using hnot
  fun_induction digitRun? cs with
  | case1 => cases hc
  | case2 d =>
    obtain rfl := List.mem_singleton.mp hc
    rw [hvalue]
    rfl
  | case3 d next rest ih => exact absurd (by simp) hunderscore
  | case4 d rest hlast hmark ih =>
    rcases List.mem_cons.mp hc with rfl | hrest
    · rw [hvalue]
      rfl
    · rw [ih (fun hmem => hunderscore (List.mem_cons_of_mem d hmem)) hrest]
      cases digitValue? d with
      | none => rfl
      | some n => rfl

end Run

/-! ## Whole numbers -/

section Whole

variable {s : String}

theorem takeSign_of_isDigitLike {cs : List Char} (h : ∀ c ∈ cs.head?, isDigitLike c = true) :
    takeSign cs = (false, cs) := by
  cases cs with
  | nil => rfl
  | cons c rest =>
    have hc := h c rfl
    unfold takeSign
    split
    case h_1 heq =>
      exact absurd (List.cons.inj heq).1 (ne_of_isDigitLike hc '-' (by decide +kernel))
    case h_2 heq =>
      exact absurd (List.cons.inj heq).1 (ne_of_isDigitLike hc '+' (by decide +kernel))
    case h_3 => rfl

theorem readInt_of_isDigitLike (h : ∀ c ∈ s.toList, isDigitLike c = true) :
    readInt s = match digitRun? s.toList with
      | none => .error .malformed
      | some digits =>
        if digits.isEmpty then .error .malformed
        else if digitLimit < digits.length then .error (.tooLong digits.length)
        else .ok (ofDigits digits) := by
  have htrim : trimPadding s.toList = s.toList :=
    trimPadding_eq_self fun c hc => isBlank_of_isDigitLike (h c hc)
  rw [readInt, htrim, readIntChars, takeSign_of_isDigitLike fun c hc => h c (List.mem_of_head? hc)]
  rfl

theorem readInt_of_isDecimalDigit (hne : s ≠ "")
    (h : ∀ c ∈ s.toList, isDecimalDigit c = true) : ∃ n, readInt s =
      if digitLimit < s.length then .error (.tooLong s.length) else .ok n := by
  obtain ⟨digits, hdigits, hlength⟩ := exists_digitRun? h
  rw [String.length_toList] at hlength
  have hsome : digits ≠ [] := by
    rintro rfl
    exact hne (String.length_eq_zero_iff.mp hlength.symm)
  rw [readInt_of_isDigitLike fun c hc => isDigitLike_of_isDecimalDigit (h c hc), hdigits]
  dsimp only
  rw [if_neg (by simpa using hsome), hlength]
  exact ⟨_, rfl⟩

/-- Characters that only look like digits spoil a numeral. -/
theorem readInt_of_not_isDecimalDigit (h : ∀ c ∈ s.toList, isDigitLike c = true) {c : Char}
    (hc : c ∈ s.toList) (hnot : isDecimalDigit c = false) : readInt s = .error .malformed := by
  have hunderscore : '_' ∉ s.toList := fun hmem =>
    ne_of_isDigitLike (h '_' hmem) '_' (by decide +kernel) rfl
  rw [readInt_of_isDigitLike h, digitRun?_eq_none hunderscore hc hnot]

end Whole

/-! ## Decimals -/

section Decimal

variable {whole tail : List Char}

theorem exists_readMantissa? (hne : whole ≠ []) (hwhole : ∀ c ∈ whole, isDecimalDigit c = true)
    (htail : tail = [] ∨ ∃ fraction, tail = '.' :: fraction ∧
      ∀ c ∈ fraction, isDecimalDigit c = true) :
    ∃ mantissa, readMantissa? (whole ++ tail) = some mantissa := by
  have hpoint : ∀ c ∈ whole, (c != '.') = true := fun c hc => bne_iff_ne.mpr
    (ne_of_isDigitLike (isDigitLike_of_isDecimalDigit (hwhole c hc)) '.' (by decide +kernel))
  obtain ⟨before, hbefore, hlength⟩ := exists_digitRun? hwhole
  have hsome : before ≠ [] := by
    rintro rfl
    exact hne (List.length_eq_zero_iff.mp hlength.symm)
  unfold readMantissa?
  rw [List.takeWhile_append_of_pos hpoint, List.dropWhile_append_of_pos hpoint]
  rcases htail with rfl | ⟨fraction, rfl, hfraction⟩
  · simp [hbefore, hsome]
  · obtain ⟨after, hafter, -⟩ := exists_digitRun? hfraction
    simp [hbefore, hafter, hsome]

/-- Digits, and possibly a point and more digits, are a decimal. -/
theorem exists_readUnsigned? (hne : whole ≠ []) (hwhole : ∀ c ∈ whole, isDecimalDigit c = true)
    (htail : tail = [] ∨ ∃ fraction, tail = '.' :: fraction ∧
      ∀ c ∈ fraction, isDecimalDigit c = true) :
    ∃ x, readUnsigned? (whole ++ tail) = some x := by
  have hdigit {c : Char} (h : isDecimalDigit c = true) : (!isExponentMark c) = true := by
    have hlike := isDigitLike_of_isDecimalDigit h
    simp [isExponentMark, ne_of_isDigitLike hlike 'e' (by decide +kernel),
      ne_of_isDigitLike hlike 'E' (by decide +kernel)]
  have hmark : ∀ c ∈ whole ++ tail, (!isExponentMark c) = true := by
    intro c hc
    rcases List.mem_append.mp hc with hc | hc
    · exact hdigit (hwhole c hc)
    · rcases htail with rfl | ⟨fraction, rfl, hfraction⟩
      · cases hc
      · rcases List.mem_cons.mp hc with rfl | hc
        · decide
        · exact hdigit (hfraction c hc)
  obtain ⟨mantissa, hmantissa⟩ := exists_readMantissa? hne hwhole htail
  unfold readUnsigned?
  rw [List.takeWhile_eq_self_iff.mpr hmark, List.dropWhile_eq_nil_iff.mpr hmark, hmantissa]
  -- the names of infinity and of no number have values, too
  split
  · exact ⟨_, rfl⟩
  · exact ⟨_, rfl⟩
  · exact ⟨_, rfl⟩
  · exact ⟨_, rfl⟩

end Decimal

end Number

end AccessAudit
