import AccessAudit.Proofs.Selector.Shape
import AccessAudit.Selector.Printer

/-!
# Reading back what was written

The text of a single condition is read as that condition. The readers are described on a text that
goes on after what they read: a name ends where a character stands that cannot be part of one, an
attribute at its bracket. `parse_render` puts them together for the conditions that hold of the
markup alone, when their names are made of word characters and hyphens.
-/

namespace AccessAudit

namespace Text

/-! ## Letters -/

/-- A name as it can be written without backslashes. -/
def IsName (cs : List Char) : Prop := cs ≠ [] ∧ ∀ c ∈ cs, isNameChar c = true

instance (cs : List Char) : Decidable (IsName cs) :=
  decidable_of_iff ((!cs.isEmpty && cs.all isNameChar) = true) (by simp [IsName])

/-- Whether a range of code points has no blank beyond ASCII in it. -/
def avoidsBlanks (range : Nat × Nat) : Bool :=
  [(0x85, 0x85), (0xA0, 0xA0), (0x1680, 0x1680), (0x2000, 0x200A), (0x2028, 0x2029),
    (0x202F, 0x202F), (0x205F, 0x205F), (0x3000, 0x3000)].all
      fun blanks => Nat.blt blanks.2 range.1 || Nat.blt range.2 blanks.1

theorem wordRanges_avoid_blanks : wordRanges.toList.all avoidsBlanks = true := by decide +kernel

theorem isBlank_ascii : ∀ n < 0x80, isNameChar (Char.ofNat n) = true →
    isBlank (Char.ofNat n) = false := by decide +kernel

theorem isBlank_of_avoidsBlanks {c : Char} {range : Nat × Nat} (havoid : avoidsBlanks range = true)
    (hin : range.1 ≤ c.toNat ∧ c.toNat ≤ range.2) (hascii : ¬ c.toNat < 0x80) :
    isBlank c = false := by
  simp only [avoidsBlanks, List.all_cons, List.all_nil, Bool.and_true, Bool.and_eq_true,
    Bool.or_eq_true, Nat.blt_eq] at havoid
  simp only [isBlank, Bool.or_eq_false_iff, Bool.and_eq_false_iff, decide_eq_false_iff_not,
    beq_eq_false_iff_ne]
  omega

/-- No blank is part of a name. Below `0x80` the characters are tried one by one, above it the
blanks are held against the table of word characters. -/
theorem isBlank_of_isNameChar {c : Char} (h : isNameChar c = true) : isBlank c = false := by
  by_cases hascii : c.toNat < 0x80
  · have hc : Char.ofNat c.toNat = c := Char.ofNat_toNat c
    have := isBlank_ascii c.toNat hascii
    rw [hc] at this
    exact this h
  · have hword : wordRanges.has c = true := by
      rcases Bool.or_eq_true_iff.mp h with hword | hhyphen
      · rwa [isWord, if_neg hascii] at hword
      · rw [eq_of_beq hhyphen] at hascii
        exact absurd (by decide) hascii
    obtain ⟨range, hrange, hin⟩ := Array.any_eq_true'.mp hword
    have havoid := List.all_eq_true.mp wordRanges_avoid_blanks range hrange.val
    simp only [Bool.and_eq_true, decide_eq_true_eq] at hin
    exact isBlank_of_avoidsBlanks havoid hin hascii

/-- Below `0x80` a capital has its small letter whatever stands around it. -/
theorem lowerFrom_ascii (casedBefore : Bool) {cs : List Char}
    (h : cs.all (fun c => c.toNat < 0x80) = true) :
    lowerFrom casedBefore cs = cs.map Char.toLower := by
  induction cs generalizing casedBefore with
  | nil => rfl
  | cons c rest ih =>
    rw [List.all_cons, Bool.and_eq_true, decide_eq_true_eq] at h
    have hsigma : (c.toNat == 0x3A3) = false := by
      rw [beq_eq_false_iff_ne]
      omega
    rw [lowerFrom, if_neg (by simp [hsigma]), lowerChar, if_pos h.1, ih _ h.2]
    rfl

/-! ## Blanks at the ends -/

theorem trimLeft_eq_self {cs : List Char} (h : ∀ c ∈ cs.head?, isBlank c = false) :
    trimLeft cs = cs := by
  cases cs with
  | nil => rfl
  | cons c rest =>
    have hc : isBlank c = false := h c rfl
    simp [trimLeft, hc]

theorem trimLeft_eq_iff {cs rest : List Char} (h : ∀ c ∈ rest.head?, isBlank c = false) :
    trimLeft cs = rest ↔ ∃ gap, cs = gap ++ rest ∧ ∀ c ∈ gap, isBlank c = true := by
  constructor
  · rintro rfl
    exact ⟨cs.takeWhile isBlank, List.takeWhile_append_dropWhile.symm,
      List.all_eq_true.mp List.all_takeWhile⟩
  · rintro ⟨gap, rfl, hgap⟩
    rw [trimLeft, List.dropWhile_append_of_pos hgap]
    exact trimLeft_eq_self h

theorem trim_eq_self {cs : List Char} (hfirst : ∀ c ∈ cs.head?, isBlank c = false)
    (hlast : ∀ c ∈ cs.getLast?, isBlank c = false) : trim cs = cs := by
  have hback : trimLeft cs.reverse = cs.reverse := by
    apply trimLeft_eq_self
    rwa [List.head?_reverse]
  rw [trim, trimLeft_eq_self hfirst]
  show (trimLeft cs.reverse).reverse = cs
  rw [hback, List.reverse_reverse]

end Text

namespace Selector

open Text

variable {name rest : List Char}

/-! ## Names -/

/-- A name cannot go on here. -/
def NameEnds (rest : List Char) : Prop := ∀ c ∈ rest.head?, isNameChar c = false ∧ c ≠ '\\'

theorem nameEnds_nil : NameEnds [] := nofun

theorem nameEnds_cons {c : Char} (h : isNameChar c = false ∧ c ≠ '\\') : NameEnds (c :: rest) := by
  rintro d ⟨⟩
  exact h

theorem spanName_of_nameEnds (h : NameEnds rest) : spanName rest = ([], rest) := by
  cases rest with
  | nil => rfl
  | cons c rest =>
    obtain ⟨hc, hslash⟩ := h c rfl
    rw [spanName.eq_def]
    split
    case h_1 => contradiction
    case h_2 heq =>
      cases heq
      exact absurd rfl hslash
    case h_3 heq =>
      cases heq
      simp [hc]

theorem spanName_cons {c : Char} (h : isNameChar c = true) :
    spanName (c :: rest) = (c :: (spanName rest).1, (spanName rest).2) := by
  rw [spanName.eq_def]
  split
  case h_1 => contradiction
  case h_2 heq =>
    cases heq
    exact absurd h (by decide)
  case h_3 heq =>
    cases heq
    rw [if_pos h]

theorem spanName_append (hname : ∀ c ∈ name, isNameChar c = true) (hrest : NameEnds rest) :
    spanName (name ++ rest) = (name, rest) := by
  induction name with
  | nil => exact spanName_of_nameEnds hrest
  | cons c name ih =>
    rw [List.cons_append, spanName_cons (hname c List.mem_cons_self),
      ih fun d hd => hname d (List.mem_cons_of_mem c hd)]

theorem readName_append (hname : IsName name) (hrest : NameEnds rest) :
    readName (name ++ rest) = .ok (name, rest) := by
  obtain ⟨c, name, rfl⟩ := List.exists_cons_of_ne_nil hname.1
  rw [readName, spanName_append hname.2 hrest]

theorem readExactName_append (hname : IsName name) (hrest : NameEnds rest) :
    readExactName (name ++ rest) = .ok (String.ofList name, rest) := by
  rw [readExactName, readName_append hname hrest]
  rfl

theorem readLowerName_append (hname : IsName name) (hrest : NameEnds rest) :
    readLowerName (name ++ rest) = .ok (String.ofList (lowerChars name), rest) := by
  rw [readLowerName, readName_append hname hrest]
  rfl

theorem IsName.head {c : Char} (hname : IsName name) (hc : c ∈ (name ++ rest).head?) :
    isNameChar c = true := by
  obtain ⟨d, name, rfl⟩ := List.exists_cons_of_ne_nil hname.1
  cases hc
  exact hname.2 c List.mem_cons_self

theorem trimLeft_name (hname : IsName name) : trimLeft (name ++ rest) = name ++ rest :=
  trimLeft_eq_self fun _ hc => isBlank_of_isNameChar (IsName.head hname hc)

/-! ## Attributes -/

theorem nameEnds_symbol (how : Comparison) : NameEnds (how.symbol.toList ++ rest) := by
  cases how <;> exact nameEnds_cons (by decide)

theorem spanComparison_symbol (how : Comparison) :
    spanComparison (how.symbol.toList ++ rest) = some (how, rest) := by
  cases how <;> rfl

theorem trimLeft_symbol (how : Comparison) :
    trimLeft (how.symbol.toList ++ rest) = how.symbol.toList ++ rest := by
  apply trimLeft_eq_self
  cases how <;> (rintro c ⟨⟩; decide)

theorem readValue_quoted {value : List Char} (h : '"' ∉ value) :
    readValue ('"' :: (value ++ '"' :: rest)) = .ok (String.ofList value, rest) := by
  have hvalue : ∀ c ∈ value, (c != '"') = true := by
    intro c hc
    rw [bne_iff_ne]
    rintro rfl
    exact h hc
  rw [readValue, if_pos (by decide), List.dropWhile_append_of_pos hvalue,
    List.takeWhile_append_of_pos hvalue]
  simp

theorem trimLeft_bracket : trimLeft (']' :: rest) = ']' :: rest :=
  trimLeft_eq_self (by rintro c ⟨⟩; decide)

/-- The mark is read before the bracket, and the bracket is no mark. -/
theorem spanCaseMark_mark (ignoreCase : Bool) :
    spanCaseMark (trimLeft ((if ignoreCase then [' ', 'i'] else []) ++ ']' :: rest)) =
      (ignoreCase, ']' :: rest) := by
  cases ignoreCase with
  | true =>
    show spanCaseMark ('i' :: ']' :: rest) = (true, ']' :: rest)
    rw [← trimLeft_bracket]
    rfl
  | false =>
    show spanCaseMark (trimLeft (']' :: rest)) = (false, ']' :: rest)
    rw [trimLeft_bracket]
    cases rest with
    | nil => rfl
    | cons next rest => simp [spanCaseMark]

theorem readAttribute_presence (hname : IsName name) :
    readAttribute (name ++ ']' :: rest) =
      .ok (.attribute (String.ofList (lowerChars name)) none, rest) := by
  have hend : NameEnds (']' :: rest) := nameEnds_cons (by decide)
  rw [readAttribute, trimLeft_name hname, readLowerName_append hname hend]
  rfl

theorem toList_render (test : ValueTest) : test.render.toList =
    test.comparison.symbol.toList ++ '"' :: (test.value.toList ++
      '"' :: if test.ignoreCase then [' ', 'i'] else []) := by
  cases test with
  | mk comparison value ignoreCase => cases ignoreCase <;> simp [ValueTest.render]

theorem readAttribute_test (hname : IsName name) {test : ValueTest}
    (hvalue : '"' ∉ test.value.toList) :
    readAttribute (name ++ test.render.toList ++ ']' :: rest) =
      .ok (.attribute (String.ofList (lowerChars name)) (some test), rest) := by
  have htext : name ++ test.render.toList ++ ']' :: rest = name ++ (test.comparison.symbol.toList ++
      '"' :: (test.value.toList ++
        '"' :: ((if test.ignoreCase then [' ', 'i'] else []) ++ ']' :: rest))) := by
    simp [toList_render]
  have hquote (left : List Char) : trimLeft ('"' :: left) = '"' :: left :=
    trimLeft_eq_self (by rintro c ⟨⟩; decide)
  rw [htext, readAttribute, trimLeft_name hname, readLowerName_append hname (nameEnds_symbol _)]
  dsimp only [bind, Except.bind]
  rw [trimLeft_symbol, spanComparison_symbol]
  dsimp only
  rw [hquote, readValue_quoted hvalue]
  dsimp only
  rw [spanCaseMark_mark, String.ofList_toList]
  rfl

/-! ## Pseudo-classes -/

/-- A name after a colon, without an argument. -/
theorem readPseudo_name (hname : IsName name) (hrest : NameEnds rest)
    (hopen : rest.head? ≠ some '(') (fuel : Nat)
    (hclass : String.ofList (lowerChars name) ∉ singleColonPseudoElements) :
    readPseudo (fuel + 1) (name ++ rest) =
      .ok (.pseudoClass (String.ofList (lowerChars name)) .none, rest) := by
  obtain ⟨c, name, rfl⟩ := List.exists_cons_of_ne_nil hname.1
  rw [readPseudo, readLowerName_append hname hrest]
  · dsimp only [bind, Except.bind]
    rw [if_neg (by simpa using hclass)]
    split
    · exact absurd rfl hopen
    · rfl
  · intro after heq
    obtain rfl : c = ':' := (List.cons.inj heq).1
    exact absurd (hname.2 ':' List.mem_cons_self) (by decide)

/-! ## Selector lists in arguments -/

/-- A chain in an argument ends here: at a comma, or at the closing parenthesis. -/
def ArgumentEnds (rest : List Char) : Prop := ∃ c left, rest = c :: left ∧ (c = ',' ∨ c = ')')

theorem ArgumentEnds.nameEnds (h : ArgumentEnds rest) : NameEnds rest := by
  obtain ⟨c, left, rfl, rfl | rfl⟩ := h <;> exact nameEnds_cons (by decide)

theorem ArgumentEnds.trimLeft (h : ArgumentEnds rest) : trimLeft rest = rest := by
  obtain ⟨c, left, rfl, rfl | rfl⟩ := h <;> exact trimLeft_eq_self (by rintro c ⟨⟩; decide)

theorem readParts_ends (h : ArgumentEnds rest) {done : List Simple} (hdone : done ≠ [])
    (fuel : Nat) : readParts (fuel + 1) done rest = .ok (done.reverse, rest) := by
  obtain ⟨c, left, rfl, rfl | rfl⟩ := h <;> simp [readParts, hdone]

theorem readComplex_ends (h : ArgumentEnds rest) {cs : List Char} {parts : Compound} {fuel : Nat}
    (hread : readCompound (fuel + 1) cs = .ok (parts, rest)) :
    readComplex (fuel + 2) true cs = .ok (.compound parts, rest) := by
  rw [readComplex, hread]
  show readChain (fuel + 1) true (.compound parts) rest = _
  rw [readChain, h.trimLeft]
  obtain ⟨c, left, rfl, rfl | rfl⟩ := h <;> simp [joint]

theorem readList_comma {cs more left : List Char} {fuel : Nat} {branch : Complex}
    {others : List Complex}
    (hbranch : readComplex fuel true (trimLeft cs) = .ok (branch, ',' :: more))
    (hmore : readList fuel true more = .ok (others, left)) :
    readList (fuel + 1) true cs = .ok (branch :: others, left) := by
  have hcomma : trimLeft (',' :: more) = ',' :: more :=
    ArgumentEnds.trimLeft ⟨',', more, rfl, .inl rfl⟩
  rw [readList, hbranch]
  dsimp only [bind, Except.bind]
  rw [hcomma]
  show (readList fuel true more >>= fun read => pure (branch :: read.1, read.2)) = _
  rw [hmore]
  rfl

theorem trimLeft_parenthesis : trimLeft (')' :: rest) = ')' :: rest :=
  ArgumentEnds.trimLeft ⟨')', rest, rfl, .inr rfl⟩

theorem readList_last {cs after : List Char} {fuel : Nat} {branch : Complex}
    (hbranch : readComplex fuel true (trimLeft cs) = .ok (branch, ')' :: after)) :
    readList (fuel + 1) true cs = .ok ([branch], ')' :: after) := by
  rw [readList, hbranch]
  dsimp only [bind, Except.bind]
  rw [trimLeft_parenthesis]
  rfl

/-- A name after a colon, with an argument. -/
theorem readPseudo_open (hname : IsName name) {inner : List Char} {fuel : Nat}
    (hclass : String.ofList (lowerChars name) ∉ singleColonPseudoElements) :
    readPseudo (fuel + 1) (name ++ '(' :: inner) =
      if takesSelectors.contains (String.ofList (lowerChars name)) then do
        let (list, rest) ← readList fuel true inner
        match trimLeft rest with
        | ')' :: after =>
          pure (.pseudoClass (String.ofList (lowerChars name)) (.selectors list), after)
        | other => stop .expectedParenthesis other
      else readRawArgument (String.ofList (lowerChars name)) inner := by
  have hopen : NameEnds ('(' :: inner) := nameEnds_cons (by decide)
  obtain ⟨c, name, rfl⟩ := List.exists_cons_of_ne_nil hname.1
  rw [readPseudo, readLowerName_append hname hopen]
  · dsimp only [bind, Except.bind]
    rw [if_neg (by simpa using hclass)]
    rfl
  · intro after heq
    obtain rfl : c = ':' := (List.cons.inj heq).1
    exact absurd (hname.2 ':' List.mem_cons_self) (by decide)

theorem not_mem_of_takesSelectors :
    ∀ known ∈ takesSelectors, known ∉ singleColonPseudoElements := by decide

/-- A name after a colon, with a selector list. -/
theorem readPseudo_selectors (hname : IsName name) {inner after : List Char} {list : List Complex}
    {fuel : Nat} (hclass : String.ofList (lowerChars name) ∈ takesSelectors)
    (hlist : readList fuel true inner = .ok (list, ')' :: after)) :
    readPseudo (fuel + 1) (name ++ '(' :: inner) =
      .ok (.pseudoClass (String.ofList (lowerChars name)) (.selectors list), after) := by
  rw [readPseudo_open hname (not_mem_of_takesSelectors _ hclass),
    if_pos (List.contains_iff_mem.mpr hclass), hlist]
  dsimp only [bind, Except.bind]
  rw [trimLeft_parenthesis]
  rfl

/-! ## Conditions on the markup -/

/-- A condition on type, id, class or attribute that is written with plain names. -/
def Simple.Plain : Simple → Prop
  | .type name => IsName name.toList ∧ lower name = name
  | .id value => IsName value.toList
  | .className name => IsName name.toList
  | .attribute name test => IsName name.toList ∧ lower name = name ∧
      ∀ t ∈ test, '"' ∉ t.value.toList
  | _ => False

theorem lowerChars_toList {s : String} (h : lower s = s) :
    String.ofList (lowerChars s.toList) = s := h

/-- A condition other than on the type is read as the next of its compound. -/
theorem readParts_render (hrest : NameEnds rest) (fuel : Nat) (done : List Simple) :
    (part : Simple) → part.Plain → part.isType = false →
      readParts (fuel + 1) done (part.render.toList ++ rest) = readParts fuel (part :: done) rest
  | .id value, hvalue, _ => by
    have hread := readExactName_append hvalue hrest
    rw [String.ofList_toList] at hread
    simp [Simple.render, readParts, hread, bind, Except.bind]
  | .className name, hname, _ => by
    have hread := readExactName_append hname hrest
    rw [String.ofList_toList] at hread
    simp [Simple.render, readParts, hread, bind, Except.bind]
  | .attribute name none, ⟨hname, hlower, _⟩, _ => by
    have hread : readAttribute (name.toList ++ ']' :: rest) = _ := readAttribute_presence hname
    rw [lowerChars_toList hlower] at hread
    simp [Simple.render, readParts, hread, bind, Except.bind]
  | .attribute name (some test), ⟨hname, hlower, hvalue⟩, _ => by
    have hread : readAttribute (name.toList ++ test.render.toList ++ ']' :: rest) = _ :=
      readAttribute_test hname (hvalue test rfl)
    rw [lowerChars_toList hlower, List.append_assoc] at hread
    simp [Simple.render, readParts, hread, bind, Except.bind]

theorem readParts_nil (fuel : Nat) {done : List Simple} (h : done ≠ []) :
    readParts (fuel + 1) done [] = .ok (done.reverse, []) := by
  simp [readParts, h]

theorem readCompound_of_nameEnds {cs : List Char} (h : NameEnds cs) (hstar : cs.head? ≠ some '*')
    (fuel : Nat) : readCompound (fuel + 1) cs = readParts fuel [] cs := by
  rw [readCompound, spanName_of_nameEnds h]
  rintro rest rfl
  exact hstar rfl

theorem readCompound_name (hname : IsName name) (hrest : NameEnds rest) (fuel : Nat) :
    readCompound (fuel + 1) (name ++ rest) =
      readParts fuel [.type (String.ofList (lowerChars name))] rest := by
  obtain ⟨c, name, rfl⟩ := List.exists_cons_of_ne_nil hname.1
  rw [readCompound, spanName_append hname.2 hrest]
  intro after heq
  obtain rfl : c = '*' := (List.cons.inj heq).1
  exact absurd (hname.2 '*' List.mem_cons_self) (by decide)

theorem Simple.Plain.exists_type {part : Simple} (hplain : part.Plain)
    (htype : part.isType = true) : ∃ name, part = .type name := by
  cases part
  case type name => exact ⟨name, rfl⟩
  case universal => cases hplain
  all_goals cases htype

/-- The first character of a condition that is none on the type. -/
theorem head_render : (part : Simple) → part.isType = false →
    ∃ c left, part.render.toList = c :: left ∧ (c = '#' ∨ c = '.' ∨ c = '[' ∨ c = ':')
  | .id value, _ => ⟨'#', value.toList, by simp [Simple.render], .inl rfl⟩
  | .className name, _ => ⟨'.', name.toList, by simp [Simple.render], .inr (.inl rfl)⟩
  | .attribute name none, _ =>
    ⟨'[', name.toList ++ [']'], by simp [Simple.render], .inr (.inr (.inl rfl))⟩
  | .attribute name (some test), _ =>
    ⟨'[', name.toList ++ test.render.toList ++ [']'], by simp [Simple.render],
      .inr (.inr (.inl rfl))⟩
  | .pseudoElement name, _ =>
    ⟨':', ':' :: name.toList, by simp [Simple.render], .inr (.inr (.inr rfl))⟩
  | .pseudoClass name .none, _ =>
    ⟨':', name.toList, by simp [Simple.render], .inr (.inr (.inr rfl))⟩
  | .pseudoClass name (.selectors list), _ =>
    ⟨':', name.toList ++ '(' :: (renderBranches list).toList ++ [')'], by simp [Simple.render],
      .inr (.inr (.inr rfl))⟩
  | .pseudoClass name (.nth a b), _ =>
    ⟨':', name.toList ++ '(' :: (Nth.render a b).toList ++ [')'], by simp [Simple.render],
      .inr (.inr (.inr rfl))⟩

theorem readCompound_render (fuel : Nat) (part : Simple) (hplain : part.Plain) :
    readCompound (fuel + 3) part.render.toList = .ok ([part], []) := by
  cases htype : part.isType with
  | true =>
    obtain ⟨name, rfl⟩ := hplain.exists_type htype
    have hread := readCompound_name hplain.1 nameEnds_nil (fuel + 2)
    rw [List.append_nil, lowerChars_toList hplain.2] at hread
    rw [Simple.render, hread, readParts_nil _ (by simp)]
    rfl
  | false =>
    obtain ⟨c, left, htext, hc⟩ := head_render part htype
    have hends : NameEnds part.render.toList := by
      rw [htext]
      exact nameEnds_cons (by rcases hc with rfl | rfl | rfl | rfl <;> decide)
    have hstar : part.render.toList.head? ≠ some '*' := by
      rw [htext]
      rcases hc with rfl | rfl | rfl | rfl <;> simp
    have hread := readParts_render nameEnds_nil (fuel + 1) [] part hplain htype
    rw [List.append_nil] at hread
    rw [readCompound_of_nameEnds hends hstar, hread, readParts_nil _ (by simp)]
    rfl

theorem isBlank_of_mem_name {c : Char} (hname : IsName name) (hc : c ∈ name) : isBlank c = false :=
  isBlank_of_isNameChar (hname.2 c hc)

theorem getLast?_bracket (cs : List Char) : (cs ++ "]".toList).getLast? = some ']' :=
  List.getLast?_concat

/-- A written condition does not end in a blank. -/
theorem isBlank_getLast_render : (part : Simple) → part.Plain →
    ∀ c ∈ part.render.toList.getLast?, isBlank c = false
  | .type name, h, c, hc => isBlank_of_mem_name h.1 (List.mem_of_getLast? hc)
  | .id value, h, c, hc => by
    rw [Simple.render, String.toList_append] at hc
    rcases List.mem_append.mp (List.mem_of_getLast? hc) with hc | hc
    · obtain rfl : c = '#' := by simpa using hc
      decide
    · exact isBlank_of_mem_name h hc
  | .className name, h, c, hc => by
    rw [Simple.render, String.toList_append] at hc
    rcases List.mem_append.mp (List.mem_of_getLast? hc) with hc | hc
    · obtain rfl : c = '.' := by simpa using hc
      decide
    · exact isBlank_of_mem_name h hc
  | .attribute name none, _, c, hc => by
    rw [Simple.render, String.toList_append, getLast?_bracket] at hc
    cases hc
    decide
  | .attribute name (some test), _, c, hc => by
    rw [Simple.render, String.toList_append, getLast?_bracket] at hc
    cases hc
    decide

/-- A written condition does not begin with a blank. -/
theorem isBlank_head_render (part : Simple) (hplain : part.Plain) :
    ∀ c ∈ part.render.toList.head?, isBlank c = false := by
  cases htype : part.isType with
  | true =>
    obtain ⟨name, rfl⟩ := hplain.exists_type htype
    exact fun c hc => isBlank_of_mem_name hplain.1 (List.mem_of_mem_head? hc)
  | false =>
    obtain ⟨c, left, htext, hc⟩ := head_render part htype
    rw [htext]
    rintro d ⟨⟩
    rcases hc with rfl | rfl | rfl | rfl <;> decide

/-- A text that a compound takes up in some number of steps, and that has no blanks at its ends. -/
theorem parse_of_steps {s : String} {parts : Compound} (steps : Nat)
    (hfirst : ∀ c ∈ s.toList.head?, isBlank c = false)
    (hlast : ∀ c ∈ s.toList.getLast?, isBlank c = false)
    (hsteps : steps ≤ 4 * s.toList.length + 6)
    (hread : ∀ fuel, readCompound (fuel + steps) s.toList = .ok (parts, [])) :
    SelectorList.parse s = .ok [.compound parts] := by
  have hbound := hread (4 * s.toList.length + 6 - steps)
  rw [Nat.sub_add_cancel hsteps] at hbound
  have hne : s.toList ≠ [] := by
    intro h
    rw [h] at hbound
    exact absurd hbound (by simp [readCompound, spanName, readParts, stop])
  have hcomplex : readComplex (4 * s.toList.length + 7) false s.toList =
      .ok (.compound parts, []) := by
    rw [readComplex, hbound]
    rfl
  have hlist : readList (readingBound s.toList) false s.toList = .ok ([.compound parts], []) := by
    rw [readingBound, readList, trimLeft_eq_self hfirst, hcomplex]
    rfl
  rw [SelectorList.parse, trim_eq_self hfirst hlast, parseTrimmed,
    if_neg (by simpa using hne), hlist]
  rfl

theorem parse_of_readCompound {s : String} {parts : Compound}
    (hfirst : ∀ c ∈ s.toList.head?, isBlank c = false)
    (hlast : ∀ c ∈ s.toList.getLast?, isBlank c = false)
    (hread : ∀ fuel, readCompound (fuel + 3) s.toList = .ok (parts, [])) :
    SelectorList.parse s = .ok [.compound parts] :=
  parse_of_steps 3 hfirst hlast (by omega) hread

/-- What a single condition on the markup writes is read as that condition. -/
theorem parse_render {part : Simple} (h : part.Plain) :
    SelectorList.parse part.render = .ok [.compound [part]] :=
  parse_of_readCompound (isBlank_head_render part h) (isBlank_getLast_render part h)
    fun fuel => readCompound_render fuel part h

end Selector

end AccessAudit
