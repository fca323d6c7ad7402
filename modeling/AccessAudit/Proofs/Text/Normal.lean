import AccessAudit.Proofs.Selector.Reading

/-!
# Small letters once and for all

Names of properties are brought to small letters when a block is read, and again when a rule is made
of it. The second time changes nothing: every character that lowering writes is its own small letter
(`IsSmall`), so a text in small letters stays as it is (`normalize_normalize`).

Nothing in the way the table of capitals is read says so. It is a fact about the entries: the small
letters of a run of capitals are capitals of no run, not even of their own, where capitals and small
letters take turns (`lowerRuns_settle`). The runs are compared as a whole and not letter by letter.
-/

namespace AccessAudit.Text

/-- A character that stays as it is, whatever stands around it. -/
def IsSmall (c : Char) : Prop := c.toNat ≠ 0x3A3 ∧ lowerChar c = [c]

instance (c : Char) : Decidable (IsSmall c) := inferInstanceAs (Decidable (_ ∧ _))

theorem lowerFrom_eq_self {cs : List Char} (h : ∀ c ∈ cs, IsSmall c) (casedBefore : Bool) :
    lowerFrom casedBefore cs = cs := by
  induction cs generalizing casedBefore with
  | nil => rfl
  | cons c rest ih =>
    obtain ⟨hsigma, hsmall⟩ := h c List.mem_cons_self
    have hne : (c.toNat == 0x3A3) = false := beq_eq_false_iff_ne.mpr hsigma
    rw [lowerFrom, hne, if_neg Bool.false_ne_true, hsmall,
      ih fun other hother => h other (List.mem_cons_of_mem _ hother)]
    rfl

/-! ## The table of capitals -/

/-- Whether a code point is that of a capital of a run. -/
def CaseRun.has (run : CaseRun) (n : Nat) : Bool :=
  run.1 ≤ n && n ≤ run.2.1 && (n - run.1) % run.2.2.1 == 0

/-- The code point of the small letter of a capital of a run. -/
def CaseRun.small (run : CaseRun) (n : Nat) : Nat := ((n : Int) + run.2.2.2).toNat

/-- Whether the small letters of a run are no capitals of another: the two lie apart, or both go in
steps of two and one is between the steps of the other. -/
def CaseRun.avoids (run other : CaseRun) : Bool :=
  Nat.blt (run.small run.2.1) other.1 || Nat.blt other.2.1 (run.small run.1) ||
    ((run.1 == run.2.1 || run.2.2.1 % 2 == 0) && other.2.2.1 % 2 == 0 &&
      (run.small run.1 + other.1) % 2 == 1)

/-- Whether the small letters of a run are characters, and no blanks, no capitals below `0x80` and
not the dotted capital: all of them lie in one of these ranges. -/
def CaseRun.lands (run : CaseRun) : Bool :=
  [(0x61, 0x7A), (0xA1, 0x12F), (0x131, 0x167F), (0x1681, 0x1FFF), (0x2060, 0x2FFF),
    (0x3001, 0xD7FF), (0xE000, 0x10FFFF)].any
      fun range => Nat.ble range.1 (run.small run.1) && Nat.ble (run.small run.2.1) range.2

theorem lowerRuns_settle : lowerRuns.toList.all (fun run =>
    run.lands && lowerRuns.toList.all run.avoids) = true := by decide +kernel

section Runs

variable {run other : CaseRun} {n : Nat}

theorem CaseRun.has_iff : run.has n = true ↔
    run.1 ≤ n ∧ n ≤ run.2.1 ∧ (n - run.1) % run.2.2.1 = 0 := by
  simp [CaseRun.has, and_assoc]

/-- Small letters lie as far apart as their capitals. -/
theorem CaseRun.small_eq (hlands : run.lands = true) (hn : run.has n = true) :
    run.small n = run.small run.1 + (n - run.1) := by
  obtain ⟨hfirst, hlast, -⟩ := has_iff.mp hn
  have hpositive : 0 < run.small run.1 := by
    simp only [lands, List.any_cons, List.any_nil, Bool.or_false, Bool.or_eq_true, Bool.and_eq_true,
      Nat.ble_eq] at hlands
    omega
  unfold small at hpositive ⊢
  omega

/-- The small letter of a capital is no capital of a run that is avoided. -/
theorem CaseRun.not_has_small (hlands : run.lands = true) (h : run.avoids other = true)
    (hn : run.has n = true) : other.has (run.small n) = false := by
  have hsmall := small_eq hlands hn
  obtain ⟨hfirst, hlast, hstep⟩ := has_iff.mp hn
  have hend : run.small n ≤ run.small run.2.1 := by
    unfold small
    omega
  rw [Bool.eq_false_iff]
  intro hother
  obtain ⟨hfirst', hlast', hstep'⟩ := has_iff.mp hother
  simp only [avoids, Bool.or_eq_true, Bool.and_eq_true, Nat.blt_eq, beq_iff_eq] at h
  rcases h with (hbelow | habove) | ⟨⟨heven, heven'⟩, hodd⟩
  · omega
  · omega
  · -- both distances are even, and the two first letters lie an odd distance apart
    have hdistance : (n - run.1) % 2 = 0 := by
      rcases heven with hsingle | heven
      · omega
      · exact (Nat.mod_mod_of_dvd _ (Nat.dvd_of_mod_eq_zero heven)).symm.trans (by rw [hstep])
    have hdistance' : (run.small n - other.1) % 2 = 0 :=
      (Nat.mod_mod_of_dvd _ (Nat.dvd_of_mod_eq_zero heven')).symm.trans (by rw [hstep'])
    omega

/-- What is known of the small letter of a capital by itself. -/
theorem CaseRun.small_of_lands (hlands : run.lands = true) (hn : run.has n = true) :
    (Char.ofNat (run.small n)).toNat = run.small n ∧
      isBlank (Char.ofNat (run.small n)) = false ∧
      (0x61 ≤ run.small n ∧ run.small n ≤ 0x7A ∨ 0x80 ≤ run.small n ∧ run.small n ≠ 0x130) := by
  have hsmall := small_eq hlands hn
  obtain ⟨hfirst, hlast, -⟩ := has_iff.mp hn
  have hend : run.small n ≤ run.small run.2.1 := by
    unfold small
    omega
  simp only [lands, List.any_cons, List.any_nil, Bool.or_false, Bool.or_eq_true, Bool.and_eq_true,
    Nat.ble_eq] at hlands
  have hvalid : (run.small n).isValidChar := by
    unfold Nat.isValidChar
    omega
  have hchar : (Char.ofNat (run.small n)).toNat = run.small n := by
    rw [Char.ofNat, dif_pos hvalid]
    rfl
  refine ⟨hchar, ?_, by omega⟩
  simp only [isBlank, hchar, Bool.or_eq_false_iff, Bool.and_eq_false_iff, decide_eq_false_iff_not,
    beq_eq_false_iff_ne]
  omega

end Runs

/-! ## Single characters -/

/-- The four ways to come to the small letters of a character. -/
theorem lowerChar_cases (c : Char) :
    (c.toNat < 0x80 ∧ lowerChar c = [c.toLower]) ∨
    (c.toNat = 0x130 ∧ lowerChar c = ['i', Char.ofNat 0x307]) ∨
    (∃ run ∈ lowerRuns, run.has c.toNat = true ∧
      lowerChar c = [Char.ofNat (run.small c.toNat)]) ∨
    (0x80 ≤ c.toNat ∧ c.toNat ≠ 0x130 ∧ (∀ run ∈ lowerRuns, run.has c.toNat = false) ∧
      lowerChar c = [c]) := by
  unfold lowerChar
  dsimp only
  by_cases hascii : c.toNat < 0x80
  · exact .inl ⟨hascii, if_pos hascii⟩
  rw [if_neg hascii]
  by_cases hdotted : (c.toNat == 0x130) = true
  · exact .inr (.inl ⟨eq_of_beq hdotted, if_pos hdotted⟩)
  rw [if_neg hdotted]
  cases hfind : lowerRuns.find? fun run =>
      run.1 ≤ c.toNat && c.toNat ≤ run.2.1 && (c.toNat - run.1) % run.2.2.1 == 0 with
  | some run =>
    have hhas := Array.find?_some hfind
    exact .inr (.inr (.inl ⟨run, Array.mem_of_find?_eq_some hfind, hhas, rfl⟩))
  | none =>
    have hnone := Array.find?_eq_none.mp hfind
    refine .inr (.inr (.inr ⟨Nat.le_of_not_lt hascii, fun heq => hdotted (beq_iff_eq.mpr heq), ?_,
      rfl⟩))
    exact fun run hrun => Bool.eq_false_iff.mpr (hnone run hrun)

theorem isSmall_ascii : ∀ n < 0x80, IsSmall (Char.ofNat n).toLower ∧
    (isBlank (Char.ofNat n) = false → isBlank (Char.ofNat n).toLower = false) := by decide +kernel

theorem isSmall_dotted : IsSmall 'i' ∧ IsSmall (Char.ofNat 0x307) := by decide +kernel

theorem isSmall_sigma : IsSmall (Char.ofNat 0x3C2) ∧ IsSmall (Char.ofNat 0x3C3) := by
  decide +kernel

theorem lowerChar_eq_self {c : Char} (h : 0x80 ≤ c.toNat) (hdotted : c.toNat ≠ 0x130)
    (hnone : ∀ run ∈ lowerRuns, run.has c.toNat = false) : lowerChar c = [c] := by
  rcases lowerChar_cases c with ⟨hascii, -⟩ | ⟨heq, -⟩ | ⟨run, hrun, hhas, -⟩ | ⟨-, -, -, hself⟩
  · omega
  · exact absurd heq hdotted
  · rw [hnone run hrun] at hhas
    cases hhas
  · exact hself

theorem sigma_capital : ∃ run ∈ lowerRuns, run.has 0x3A3 = true :=
  ⟨(0x3A3, 0x3AB, 1, 32), by decide +kernel, rfl⟩

theorem isSmall_of_uncased {c : Char} (h : 0x80 ≤ c.toNat) (hdotted : c.toNat ≠ 0x130)
    (hnone : ∀ run ∈ lowerRuns, run.has c.toNat = false) : IsSmall c := by
  refine ⟨fun hsigma => ?_, lowerChar_eq_self h hdotted hnone⟩
  obtain ⟨run, hrun, hhas⟩ := sigma_capital
  rw [← hsigma, hnone run hrun] at hhas
  cases hhas

/-- The small letter of a capital in the table is no capital itself, and no blank. -/
theorem isSmall_of_has {run : CaseRun} {n : Nat} (hrun : run ∈ lowerRuns)
    (hhas : run.has n = true) : IsSmall (Char.ofNat (run.small n)) ∧
      isBlank (Char.ofNat (run.small n)) = false := by
  have hsettled := List.all_eq_true.mp lowerRuns_settle run (Array.mem_toList_iff.mpr hrun)
  obtain ⟨hlands, havoids⟩ := Bool.and_eq_true_iff.mp hsettled
  obtain ⟨hchar, hblank, hrange⟩ := CaseRun.small_of_lands hlands hhas
  have hnone : ∀ other ∈ lowerRuns,
      other.has (Char.ofNat (run.small n)).toNat = false := by
    intro other hother
    have havoid := List.all_eq_true.mp havoids other (Array.mem_toList_iff.mpr hother)
    rw [hchar]
    exact CaseRun.not_has_small hlands havoid hhas
  refine ⟨?_, hblank⟩
  rcases hrange with ⟨hfrom, hto⟩ | ⟨hbeyond, hdotted⟩
  · -- the one capital beyond ASCII with a small letter in it
    have hsmall : ∀ k < 0x7B, 0x61 ≤ k → IsSmall (Char.ofNat k) := by decide +kernel
    exact hsmall _ (Nat.lt_succ_of_le hto) hfrom
  · exact isSmall_of_uncased (hchar.symm ▸ hbeyond) (hchar.symm ▸ hdotted) hnone

/-- Every small letter of a character is small, and none is a blank unless the character is one. -/
theorem isSmall_of_mem_lowerChar {c d : Char} (h : d ∈ lowerChar c) :
    IsSmall d ∧ (isBlank c = false → isBlank d = false) := by
  rcases lowerChar_cases c with ⟨hascii, heq⟩ | ⟨-, heq⟩ | ⟨run, hrun, hhas, heq⟩ |
    ⟨hbeyond, hdotted, hnone, heq⟩
  · obtain rfl : d = c.toLower := by simpa [heq] using h
    have hsmall := isSmall_ascii c.toNat hascii
    rwa [Char.ofNat_toNat] at hsmall
  · have hd : d = 'i' ∨ d = Char.ofNat 0x307 := by simpa [heq] using h
    rcases hd with rfl | rfl
    · exact ⟨isSmall_dotted.1, fun _ => by decide⟩
    · exact ⟨isSmall_dotted.2, fun _ => by decide⟩
  · obtain rfl : d = _ := by simpa [heq] using h
    obtain ⟨hsmall, hblank⟩ := isSmall_of_has hrun hhas
    exact ⟨hsmall, fun _ => hblank⟩
  · obtain rfl : d = c := by simpa [heq] using h
    exact ⟨isSmall_of_uncased hbeyond hdotted hnone, id⟩

theorem lowerChar_ne_nil (c : Char) : lowerChar c ≠ [] := by
  rcases lowerChar_cases c with ⟨-, heq⟩ | ⟨-, heq⟩ | ⟨_, -, -, heq⟩ | ⟨-, -, -, heq⟩ <;> simp [heq]

/-! ## Texts in small letters -/

/-- Lowering goes character by character, and what is written for one is small and not empty. -/
theorem lowerFrom_cons (casedBefore : Bool) (c : Char) (rest : List Char) :
    ∃ letters casedBefore', lowerFrom casedBefore (c :: rest) =
      letters ++ lowerFrom casedBefore' rest ∧ letters ≠ [] ∧
      ∀ d ∈ letters, IsSmall d ∧ (isBlank c = false → isBlank d = false) := by
  rw [lowerFrom]
  split
  · refine ⟨[_], true, rfl, List.cons_ne_nil _ _, ?_⟩
    intro d hd
    rw [List.mem_singleton.mp hd]
    split
    · exact ⟨isSmall_sigma.1, fun _ => by decide⟩
    · exact ⟨isSmall_sigma.2, fun _ => by decide⟩
  · exact ⟨lowerChar c, _, rfl, lowerChar_ne_nil c, fun d hd => isSmall_of_mem_lowerChar hd⟩

theorem isSmall_of_mem_lowerFrom {casedBefore : Bool} {cs : List Char} {d : Char}
    (h : d ∈ lowerFrom casedBefore cs) : IsSmall d := by
  induction cs generalizing casedBefore with
  | nil => cases h
  | cons c rest ih =>
    obtain ⟨letters, casedBefore', heq, -, hletters⟩ := lowerFrom_cons casedBefore c rest
    rw [heq, List.mem_append] at h
    rcases h with hfirst | hrest
    · exact (hletters d hfirst).1
    · exact ih hrest

theorem lowerChars_lowerChars (cs : List Char) : lowerChars (lowerChars cs) = lowerChars cs :=
  lowerFrom_eq_self (fun _ h => isSmall_of_mem_lowerFrom h) false

/-! ## Blanks at the ends -/

theorem isBlank_head_trimLeft {cs : List Char} : ∀ c ∈ (trimLeft cs).head?, isBlank c = false := by
  intro c hc
  have hfirst := List.head?_dropWhile_not isBlank cs
  rw [show (cs.dropWhile isBlank).head? = some c from hc] at hfirst
  exact hfirst

theorem trimRight_prefix (cs : List Char) : trimRight cs <+: cs := by
  unfold trimRight
  rw [← List.reverse_suffix, List.reverse_reverse]
  exact List.dropWhile_suffix isBlank

theorem trim_sublist (cs : List Char) : (trim cs).Sublist cs := by
  have hright := trimRight_prefix (trimLeft cs)
  exact hright.sublist.trans (List.dropWhile_sublist isBlank)

theorem isBlank_head_trim {cs : List Char} : ∀ c ∈ (trim cs).head?, isBlank c = false := by
  intro c hc
  obtain ⟨rest, hrest⟩ := trimRight_prefix (trimLeft cs)
  have hfirst : ∀ c ∈ (trimLeft cs).head?, isBlank c = false := isBlank_head_trimLeft
  apply hfirst c
  rw [← hrest, List.head?_append]
  exact Option.or_eq_some_iff.mpr (.inl hc)

theorem isBlank_getLast_trim {cs : List Char} : ∀ c ∈ (trim cs).getLast?, isBlank c = false := by
  intro c hc
  rw [trim, trimRight, List.getLast?_reverse] at hc
  exact isBlank_head_trimLeft c hc

theorem trim_trim (cs : List Char) : trim (trim cs) = trim cs :=
  trim_eq_self isBlank_head_trim isBlank_getLast_trim

theorem isBlank_head_lowerFrom {casedBefore : Bool} {cs : List Char}
    (h : ∀ c ∈ cs.head?, isBlank c = false) :
    ∀ d ∈ (lowerFrom casedBefore cs).head?, isBlank d = false := by
  cases cs with
  | nil => nofun
  | cons c rest =>
    obtain ⟨letters, casedBefore', heq, hne, hletters⟩ := lowerFrom_cons casedBefore c rest
    obtain ⟨first, others, rfl⟩ := List.exists_cons_of_ne_nil hne
    rw [heq]
    rintro d ⟨⟩
    exact (hletters first List.mem_cons_self).2 (h c rfl)

theorem isBlank_getLast_lowerFrom {casedBefore : Bool} {cs : List Char}
    (h : ∀ c ∈ cs.getLast?, isBlank c = false) :
    ∀ d ∈ (lowerFrom casedBefore cs).getLast?, isBlank d = false := by
  induction cs generalizing casedBefore with
  | nil => nofun
  | cons c rest ih =>
    obtain ⟨letters, casedBefore', heq, hne, hletters⟩ := lowerFrom_cons casedBefore c rest
    rw [heq]
    intro d hd
    rw [List.getLast?_append] at hd
    cases rest with
    | nil =>
      have hlast : d ∈ letters := List.mem_of_getLast? hd
      exact (hletters d hlast).2 (h c rfl)
    | cons next rest =>
      obtain ⟨letters', casedBefore'', heq', hne', -⟩ := lowerFrom_cons casedBefore' next rest
      have hsome : (lowerFrom casedBefore' (next :: rest)).getLast?.isSome := by
        simp [heq', hne']
      rw [Option.or_of_isSome hsome] at hd
      exact ih (by rwa [List.getLast?_cons_cons] at h) d hd

theorem trim_lowerChars_trim (cs : List Char) :
    trim (lowerChars (trim cs)) = lowerChars (trim cs) :=
  trim_eq_self (isBlank_head_lowerFrom isBlank_head_trim)
    (isBlank_getLast_lowerFrom isBlank_getLast_trim)

/-- The form in which names are compared is its own. -/
theorem normalize_normalize (s : String) : normalize (normalize s) = normalize s := by
  unfold normalize lower strip
  simp only [String.toList_ofList, trim_lowerChars_trim, lowerChars_lowerChars]

end AccessAudit.Text
