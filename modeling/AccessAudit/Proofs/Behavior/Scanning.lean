import AccessAudit.Behavior.Keyboard
import AccessAudit.Proofs.Number.Numerals
import Mathlib.Data.Finset.Lattice.Lemmas

/-!
# Scanning statement by statement

The scanner runs over a handler body three times, for whole words, for quoted blanks and for
compared codes. What it finds is said here without it: a key is found exactly if some passage of the
text refers to it (`mem_scan`). Whether a passage does is told by its characters and the two that
stand next to it, since a word or a number may go on to the left or to the right.

One fact about passages then does for all three runs. A character that is in no passage, and beside
one is as good as the end of the text, cuts the text in two that have their passages each on its own
(`Separates.occurs_append`). For words it is any character that is in no word, which is why the
scanner may collect them run by run. For mentions of keys it is the semicolon: it is no word
character, blank or digit, and neither a quote nor an equals sign.
-/

namespace AccessAudit.Keyboard

open Text

/-! ## Passages of a text -/

/-- A kind of passage, told by its characters and the two that stand next to it. -/
abbrev Passage := (prev : Option Char) → (passage : List Char) → (next : Option Char) → Prop

variable {P : Passage} {prev next : Option Char} {c : Char} {a b cs passage : List Char}

/-- The text begins with a passage of the kind, when `prev` stands before the text. -/
def Starts (P : Passage) (prev : Option Char) (cs : List Char) : Prop :=
  ∃ passage right, cs = passage ++ right ∧ P prev passage right.head?

/-- The text has a passage of the kind, when `prev` stands before the text. -/
def Occurs (P : Passage) (prev : Option Char) (cs : List Char) : Prop :=
  ∃ left passage right, cs = left ++ passage ++ right ∧
    P (left.getLast?.or prev) passage right.head?

theorem occurs_nil : Occurs P prev [] ↔ P prev [] none := by
  constructor
  · rintro ⟨left, passage, right, hcs, h⟩
    obtain ⟨rfl, rfl, rfl⟩ : left = [] ∧ passage = [] ∧ right = [] := by simpa using hcs.symm
    exact h
  · intro h
    exact ⟨[], [], [], rfl, h⟩

theorem getLast?_cons_or (left : List Char) :
    (c :: left).getLast?.or prev = left.getLast?.or (some c) := by
  rw [List.getLast?_cons]
  cases left.getLast? with
  | none => rfl
  | some d => rfl

/-- The step of a scanner: it looks at the head of the text, and goes on behind it. -/
theorem occurs_cons : Occurs P prev (c :: cs) ↔ Starts P prev (c :: cs) ∨ Occurs P (some c) cs := by
  constructor
  · rintro ⟨left, passage, right, hcs, h⟩
    cases left with
    | nil => exact .inl ⟨passage, right, hcs, h⟩
    | cons d left =>
      rw [List.cons_append, List.cons_append, List.cons.injEq] at hcs
      obtain ⟨rfl, hcs⟩ := hcs
      rw [getLast?_cons_or] at h
      exact .inr ⟨left, passage, right, hcs, h⟩
  · rintro (⟨passage, right, hcs, h⟩ | ⟨left, passage, right, rfl, h⟩)
    · exact ⟨[], passage, right, hcs, h⟩
    · refine ⟨c :: left, passage, right, rfl, ?_⟩
      rw [getLast?_cons_or]
      exact h

/-- The character is in no passage of the kind, and beside one it is as good as the end of the
text. -/
structure Separates (c : Char) (P : Passage) : Prop where
  notMem : ∀ {prev passage next}, P prev passage next → c ∉ passage
  before : ∀ {passage next}, P (some c) passage next ↔ P none passage next
  after : ∀ {prev passage}, P prev passage (some c) ↔ P prev passage none

namespace Separates

theorem starts_append (h : Separates c P) : Starts P prev (a ++ c :: b) ↔ Starts P prev a := by
  constructor
  · rintro ⟨passage, right, hcs, hP⟩
    rcases List.append_eq_append_iff.mp hcs with ⟨beyond, hpassage, hright⟩ | ⟨rest, ha, hright⟩
    · -- a passage that goes beyond `a` has the separator in it, unless it ends there
      cases beyond with
      | nil =>
        rw [List.append_nil] at hpassage
        rw [List.nil_append] at hright
        rw [← hright] at hP
        exact ⟨passage, [], by rw [hpassage, List.append_nil], h.after.mp hP⟩
      | cons d beyond =>
        rw [List.cons_append, List.cons.injEq] at hright
        refine absurd ?_ (h.notMem hP)
        rw [hpassage, hright.1]
        simp
    · refine ⟨passage, rest, ha, ?_⟩
      rw [hright] at hP
      cases rest with
      | nil => exact h.after.mp hP
      | cons d rest => exact hP
  · rintro ⟨passage, right, rfl, hP⟩
    refine ⟨passage, right ++ c :: b, List.append_assoc .., ?_⟩
    cases right with
    | nil => exact h.after.mpr hP
    | cons d right => exact hP

theorem occurs_some (h : Separates c P) : Occurs P (some c) cs ↔ Occurs P none cs := by
  cases cs with
  | nil => rw [occurs_nil, occurs_nil, h.before]
  | cons d cs =>
    rw [occurs_cons, occurs_cons]
    simp only [Starts, h.before]

/-- A separator makes no passage, and it hides or cuts none. -/
theorem occurs_append (h : Separates c P) :
    Occurs P prev (a ++ c :: b) ↔ Occurs P prev a ∨ Occurs P none b := by
  induction a generalizing prev with
  | nil =>
    have hstart : Starts P prev (c :: b) ↔ Occurs P prev [] := by
      rw [← List.nil_append (c :: b), h.starts_append, occurs_nil]
      simp [Starts]
    rw [List.nil_append, occurs_cons, hstart, h.occurs_some]
  | cons d a ih =>
    rw [List.cons_append, occurs_cons, ← List.cons_append, h.starts_append, ih, occurs_cons,
      or_assoc]

end Separates

/-! ## Whole words -/

/-- No word goes on there: the text ends, or a character stands there that is in no word. -/
def Edge (c? : Option Char) : Prop := ∀ c ∈ c?, isWord c = false

theorem edge_none : Edge none := by
  rintro c ⟨⟩

theorem edge_some : Edge (some c) ↔ isWord c = false := by
  simp [Edge]

theorem edge_iff : Edge prev ↔ prev.any isWord = false := by
  cases prev with
  | none => exact iff_of_true edge_none rfl
  | some c => rw [edge_some, Option.any_some]

theorem Edge.eq_none (h : Edge prev) (hword : ∀ c ∈ prev, isWord c = true) : prev = none := by
  cases prev with
  | none => rfl
  | some c =>
    rw [edge_some, hword c rfl] at h
    cases h

/-- The passage is the word, and the word is not part of a longer one. -/
structure Whole (word : List Char) (prev : Option Char) (passage : List Char)
    (next : Option Char) : Prop where
  eq : passage = word
  before : Edge prev
  after : Edge next

variable {word current : List Char}

theorem Whole.separates (hword : ∀ d ∈ word, isWord d = true) (hc : isWord c = false) :
    Separates c (Whole word) where
  notMem := by
    rintro _ _ _ ⟨rfl, -, -⟩ hmem
    rw [hword c hmem] at hc
    cases hc
  before := ⟨fun h => ⟨h.eq, edge_none, h.after⟩, fun h => ⟨h.eq, edge_some.mpr hc, h.after⟩⟩
  after := ⟨fun h => ⟨h.eq, h.before, edge_none⟩, fun h => ⟨h.eq, h.before, edge_some.mpr hc⟩⟩

theorem occurs_whole_iff_eq (hcs : ∀ d ∈ cs, isWord d = true) :
    Occurs (Whole word) none cs ↔ word = cs := by
  constructor
  · rintro ⟨left, _, right, rfl, rfl, hleft, hright⟩
    rw [Option.or_none] at hleft
    have hleft : left.getLast? = none :=
      hleft.eq_none fun d hd => hcs d (by simp [List.mem_of_getLast? hd])
    have hright : right.head? = none :=
      hright.eq_none fun d hd => hcs d (by simp [List.mem_of_head? hd])
    rw [List.getLast?_eq_none_iff.mp hleft, List.head?_eq_none_iff.mp hright, List.nil_append,
      List.append_nil]
  · rintro rfl
    exact ⟨[], word, [], by simp, rfl, edge_none, edge_none⟩

theorem mem_run_ended (hne : word ≠ []) (hcurrent : ∀ d ∈ current, isWord d = true)
    (runs : List (List Char)) :
    word ∈ (if current.isEmpty then runs else current.reverse :: runs) ↔
      Occurs (Whole word) none current.reverse ∨ word ∈ runs := by
  rw [occurs_whole_iff_eq (by simpa using hcurrent)]
  cases current with
  | nil => simp [hne]
  | cons d current => simp

/-- By induction on what is left of the text, which the run under way is put before. -/
theorem mem_runsFrom (hne : word ≠ []) (hword : ∀ d ∈ word, isWord d = true)
    (hcurrent : ∀ d ∈ current, isWord d = true) :
    word ∈ runsFrom current cs ↔ Occurs (Whole word) none (current.reverse ++ cs) := by
  induction cs generalizing current with
  | nil =>
    rw [runsFrom, mem_run_ended hne hcurrent, List.append_nil]
    simp
  | cons d cs ih =>
    rw [runsFrom]
    cases hd : isWord d with
    | true =>
      have hnext := ih (List.forall_mem_cons.mpr ⟨hd, hcurrent⟩)
      rw [if_pos rfl, hnext, List.reverse_cons, List.append_assoc, List.singleton_append]
    | false =>
      have hrest := @ih [] (by simp)
      rw [List.reverse_nil, List.nil_append] at hrest
      rw [if_neg Bool.false_ne_true, mem_run_ended hne hcurrent, hrest,
        (Whole.separates hword hd).occurs_append]

theorem mem_wordRuns {word : String} (hne : word ≠ "")
    (hword : ∀ d ∈ word.toList, isWord d = true) :
    word ∈ wordRuns cs ↔ Occurs (Whole word.toList) none cs := by
  have hrun := @mem_runsFrom cs word.toList [] (by simpa using hne) hword (by simp)
  rw [List.reverse_nil, List.nil_append] at hrun
  rw [wordRuns, List.mem_map, ← hrun]
  constructor
  · rintro ⟨run, hmem, rfl⟩
    rw [String.toList_ofList]
    exact hmem
  · intro hmem
    exact ⟨word.toList, hmem, String.ofList_toList⟩

/-! ## Quoted blanks -/

/-- A blank between two quotes of the same kind. -/
def QuotedBlank (_prev : Option Char) (passage : List Char) (_next : Option Char) : Prop :=
  passage = ['\'', ' ', '\''] ∨ passage = ['"', ' ', '"']

theorem starts_quotedBlank : Starts QuotedBlank prev cs ↔
    ∃ quote rest, (quote = '\'' ∨ quote = '"') ∧ cs = quote :: ' ' :: quote :: rest := by
  constructor
  · rintro ⟨_, rest, rfl, rfl | rfl⟩
    · exact ⟨'\'', rest, .inl rfl, rfl⟩
    · exact ⟨'"', rest, .inr rfl, rfl⟩
  · rintro ⟨_, rest, rfl | rfl, rfl⟩
    · exact ⟨_, rest, rfl, .inl rfl⟩
    · exact ⟨_, rest, rfl, .inr rfl⟩

theorem hasQuotedBlank_iff : hasQuotedBlank cs = true ↔ Occurs QuotedBlank prev cs := by
  fun_induction hasQuotedBlank cs generalizing prev with
  | case1 quote b c rest ih =>
    have hstart : Starts QuotedBlank prev (quote :: b :: c :: rest) ↔
        (quote = '\'' ∨ quote = '"') ∧ b = ' ' ∧ c = quote := by
      rw [starts_quotedBlank]
      constructor
      · rintro ⟨_, _, hquote, ⟨⟩⟩
        exact ⟨hquote, rfl, rfl⟩
      · rintro ⟨hquote, rfl, rfl⟩
        exact ⟨_, _, hquote, rfl⟩
    rw [occurs_cons, hstart, Bool.or_eq_true, @ih (some quote)]
    simp only [Bool.and_eq_true, Bool.or_eq_true, beq_iff_eq, and_assoc]
  | case2 cs hshort =>
    refine iff_of_false Bool.false_ne_true ?_
    rintro ⟨left, passage, right, hcs, hpassage⟩
    have hthree : passage.length = 3 := by rcases hpassage with rfl | rfl <;> rfl
    have hlength := congrArg List.length hcs
    rw [List.length_append, List.length_append, hthree] at hlength
    rcases cs with _ | ⟨a, _ | ⟨b, _ | ⟨c, rest⟩⟩⟩
    case cons.cons.cons => exact hshort a b c rest rfl
    all_goals
      simp only [List.length_cons, List.length_nil] at hlength
      omega

/-! ## Compared codes -/

variable {code : String}

/-- A sign of equality, and a number on its right. -/
def Comparison (code : String) (passage : List Char) : Prop :=
  ∃ sign ∈ ["==", "==="], ∃ gap gap', (∀ c ∈ gap ++ gap', isBlank c = true) ∧
    passage = gap ++ sign.toList ++ gap' ++ code.toList

/-- The digits of a number, all of them when `next` stands after it. -/
structure Numeral (code : String) (next : Option Char) : Prop where
  nonempty : code ≠ ""
  digits : ∀ c ∈ code.toList, isDecimalDigit c = true
  after : ∀ c ∈ next, isDecimalDigit c = false

/-- A comparison of a key code, under one of its two names, with a number. -/
structure Compared (code : String) (prev : Option Char) (passage : List Char)
    (next : Option Char) : Prop where
  before : Edge prev
  numeral : Numeral code next
  reads : ∃ property ∈ ["keyCode", "which"], ∃ comparison, Comparison code comparison ∧
    passage = property.toList ++ comparison

theorem takeWhile_eq_iff {p : Char → Bool} {run : List Char} : cs.takeWhile p = run ↔
    ∃ right, cs = run ++ right ∧ (∀ c ∈ run, p c = true) ∧ ∀ c ∈ right.head?, p c = false := by
  constructor
  · rintro rfl
    refine ⟨cs.dropWhile p, List.takeWhile_append_dropWhile.symm,
      List.all_eq_true.mp List.all_takeWhile, ?_⟩
    intro c hc
    have hstop := List.head?_dropWhile_not p cs
    rw [Option.mem_def.mp hc] at hstop
    exact hstop
  · rintro ⟨right, rfl, hrun, hright⟩
    rw [List.takeWhile_append_of_pos hrun]
    cases right with
    | nil => simp
    | cons c right => simp [hright c rfl]

theorem ofList_eq_some {run : List Char} :
    (if run.isEmpty then none else some (String.ofList run)) = some code ↔
      code ≠ "" ∧ run = code.toList := by
  cases run with
  | nil =>
    refine iff_of_false (by simp) ?_
    rintro ⟨hne, h⟩
    exact hne (String.toList_eq_nil_iff.mp h.symm)
  | cons c run =>
    rw [if_neg (by simp), Option.some.injEq]
    constructor
    · rintro rfl
      exact ⟨by simp, String.toList_ofList.symm⟩
    · rintro ⟨-, h⟩
      rw [h, String.ofList_toList]

theorem comparedDigits?_eq_some : comparedDigits? cs = some code ↔
    code ≠ "" ∧ ∃ sign ∈ ["==", "==="], ∃ rest, trimLeft cs = sign.toList ++ rest ∧
      (trimLeft rest).takeWhile isDecimalDigit = code.toList := by
  constructor
  · intro h
    unfold comparedDigits? at h
    split at h
    case h_1 rest heq =>
      obtain ⟨hne, hdigits⟩ := ofList_eq_some.mp h
      refine ⟨hne, ?_⟩
      split at hdigits
      case h_1 more => exact ⟨"===", by simp, more, heq, hdigits⟩
      case h_2 => exact ⟨"==", by simp, rest, heq, hdigits⟩
    case h_2 => cases h
  · rintro ⟨hne, sign, hsign, rest, hcs, hdigits⟩
    unfold comparedDigits?
    rw [hcs]
    rcases List.mem_pair.mp hsign with rfl | rfl
    · refine ofList_eq_some.mpr ⟨hne, ?_⟩
      split
      case h_1 more heq =>
        -- the shorter sign is never cut from the longer one: no digits come before the third `=`
        obtain rfl : rest = '=' :: more := heq
        exact absurd (String.toList_eq_nil_iff.mp hdigits.symm) hne
      case h_2 => exact hdigits
    · exact ofList_eq_some.mpr ⟨hne, hdigits⟩

theorem isBlank_head_sign {sign : String} (h : sign ∈ ["==", "==="]) (rest : List Char) :
    ∀ c ∈ (sign.toList ++ rest).head?, isBlank c = false := by
  rcases List.mem_pair.mp h with rfl | rfl <;> rintro c ⟨⟩ <;> rfl

theorem isBlank_head_numeral (hne : code ≠ "") (h : ∀ c ∈ code.toList, isDecimalDigit c = true)
    (rest : List Char) : ∀ c ∈ (code.toList ++ rest).head?, isBlank c = false := by
  intro c hc
  rw [List.head?_append_of_ne_nil _ (mt String.toList_eq_nil_iff.mp hne)] at hc
  exact isBlank_of_isDecimalDigit (h c (List.mem_of_head? hc))

theorem comparedDigits?_eq_some_iff : comparedDigits? cs = some code ↔
    ∃ passage right, cs = passage ++ right ∧ Comparison code passage ∧
      Numeral code right.head? := by
  rw [comparedDigits?_eq_some]
  constructor
  · rintro ⟨hne, sign, hsign, rest, hcs, hrun⟩
    obtain ⟨right, hrest, hdigits, hright⟩ := takeWhile_eq_iff.mp hrun
    obtain ⟨gap, rfl, hgap⟩ := (trimLeft_eq_iff (isBlank_head_sign hsign rest)).mp hcs
    obtain ⟨gap', rfl, hgap'⟩ := (trimLeft_eq_iff (isBlank_head_numeral hne hdigits right)).mp hrest
    have hblanks := List.forall_mem_append.mpr ⟨hgap, hgap'⟩
    refine ⟨gap ++ sign.toList ++ gap' ++ code.toList, right, ?_, ?_, hne, hdigits, hright⟩
    · simp only [List.append_assoc]
    · exact ⟨sign, hsign, gap, gap', hblanks, rfl⟩
  · rintro ⟨_, right, rfl, ⟨sign, hsign, gap, gap', hblanks, rfl⟩, hne, hdigits, hright⟩
    obtain ⟨hgap, hgap'⟩ := List.forall_mem_append.mp hblanks
    refine ⟨hne, sign, hsign, gap' ++ (code.toList ++ right), ?_, ?_⟩
    · rw [trimLeft_eq_iff (isBlank_head_sign hsign _)]
      exact ⟨gap, by simp only [List.append_assoc], hgap⟩
    · rw [takeWhile_eq_iff]
      refine ⟨right, ?_, hdigits, hright⟩
      rw [trimLeft_eq_iff (isBlank_head_numeral hne hdigits right)]
      exact ⟨gap', rfl, hgap'⟩

theorem after?_eq_some {word : String} {rest : List Char} :
    after? word cs = some rest ↔ cs = word.toList ++ rest := by
  unfold after?
  rw [← String.length_toList, Option.ite_none_right_eq_some, List.isPrefixOf_iff_prefix,
    Option.some.injEq]
  constructor
  · rintro ⟨⟨right, rfl⟩, rfl⟩
    rw [List.drop_left]
  · rintro rfl
    exact ⟨List.prefix_append .., List.drop_left⟩

/-- The two names do not begin alike, so the second is not passed over for the first. -/
theorem after?_or_eq_some {rest : List Char} :
    (after? "keyCode" cs).or (after? "which" cs) = some rest ↔
      ∃ property ∈ ["keyCode", "which"], cs = property.toList ++ rest := by
  rw [Option.or_eq_some_iff, after?_eq_some, after?_eq_some, Option.eq_none_iff_forall_ne_some]
  simp only [List.mem_pair, exists_eq_or_imp, exists_eq_left, ne_eq, after?_eq_some]
  constructor
  · rintro (h | ⟨-, h⟩)
    · exact .inl h
    · exact .inr h
  · rintro (h | h)
    · exact .inl h
    · refine .inr ⟨?_, h⟩
      intro other hother
      rw [h] at hother
      cases hother

theorem starts_compared : Starts (Compared code) prev cs ↔
    Edge prev ∧
      ((after? "keyCode" cs).or (after? "which" cs)).bind comparedDigits? = some code := by
  rw [Option.bind_eq_some_iff]
  simp only [after?_or_eq_some, comparedDigits?_eq_some_iff]
  constructor
  · rintro ⟨_, right, rfl, hprev, hnumeral, property, hproperty, comparison, hcomparison, rfl⟩
    refine ⟨hprev, comparison ++ right, ⟨property, hproperty, List.append_assoc ..⟩, ?_⟩
    exact ⟨comparison, right, rfl, hcomparison, hnumeral⟩
  · rintro ⟨hprev, _, ⟨property, hproperty, rfl⟩, comparison, right, rfl, hcomparison, hnumeral⟩
    refine ⟨property.toList ++ comparison, right, (List.append_assoc ..).symm, hprev, hnumeral, ?_⟩
    exact ⟨property, hproperty, comparison, hcomparison, rfl⟩

theorem mem_comparedCodes :
    code ∈ comparedCodes (prev.any isWord) cs ↔ Occurs (Compared code) prev cs := by
  induction cs generalizing prev with
  | nil =>
    rw [occurs_nil]
    refine iff_of_false List.not_mem_nil ?_
    rintro ⟨-, hnumeral, property, -, comparison, ⟨sign, -, gap, gap', -, rfl⟩, hpassage⟩
    simp [hnumeral.nonempty] at hpassage
  | cons c cs ih =>
    have hrest := @ih (some c)
    rw [Option.any_some] at hrest
    rw [comparedCodes, List.mem_append, occurs_cons, hrest, starts_compared, edge_iff,
      Option.mem_toList]
    refine or_congr_left ?_
    cases prev.any isWord with
    | true => simp
    | false => simp

/-! ## Mentions of keys -/

/-- The words that stand for keys. -/
def keyWords : List (String × String) :=
  named.map (fun name => (name, name)) ++ [("Space", space), ("Spacebar", space)]

/-- The passage refers to the key. -/
inductive Mention (key : String) (prev : Option Char) (passage : List Char)
    (next : Option Char) : Prop
  /-- By a word that stands for it. -/
  | word (word : String) : (word, key) ∈ keyWords → Whole word.toList prev passage next →
    Mention key prev passage next
  /-- As a blank between quotes, if it is the space key. -/
  | quoted : key = space → QuotedBlank prev passage next → Mention key prev passage next
  /-- By a comparison with its code. -/
  | code (code : String) : byCode.lookup code = some key → Compared code prev passage next →
    Mention key prev passage next

/-- The text refers to the key somewhere. -/
def Mentions (text key : String) : Prop := Occurs (Mention key) none text.toList

variable {key : String}

theorem occurs_mention : Occurs (Mention key) prev cs ↔
    (∃ word, (word, key) ∈ keyWords ∧ Occurs (Whole word.toList) prev cs) ∨
    (key = space ∧ Occurs QuotedBlank prev cs) ∨
    ∃ code, byCode.lookup code = some key ∧ Occurs (Compared code) prev cs := by
  constructor
  · rintro ⟨left, passage, right, hcs, ⟨word, hkey, h⟩ | ⟨hkey, h⟩ | ⟨code, hkey, h⟩⟩
    · exact .inl ⟨word, hkey, left, passage, right, hcs, h⟩
    · exact .inr (.inl ⟨hkey, left, passage, right, hcs, h⟩)
    · exact .inr (.inr ⟨code, hkey, left, passage, right, hcs, h⟩)
  · rintro (⟨word, hkey, h⟩ | ⟨hkey, h⟩ | ⟨code, hkey, h⟩)
    · obtain ⟨left, passage, right, hcs, h⟩ := h
      exact ⟨left, passage, right, hcs, .word word hkey h⟩
    · obtain ⟨left, passage, right, hcs, h⟩ := h
      exact ⟨left, passage, right, hcs, .quoted hkey h⟩
    · obtain ⟨left, passage, right, hcs, h⟩ := h
      exact ⟨left, passage, right, hcs, .code code hkey h⟩

theorem isWord_of_mem_keyWords {word : String} (h : (word, key) ∈ keyWords) :
    word ≠ "" ∧ ∀ c ∈ word.toList, isWord c = true := by
  have hall : keyWords.all (fun pair => pair.1 != "" && pair.1.toList.all isWord) = true := by
    decide
  simpa using List.all_eq_true.mp hall _ h

theorem mem_keyWords {word : String} : (word, key) ∈ keyWords ↔
    word ∈ named ∧ word = key ∨ (word = "Space" ∨ word = "Spacebar") ∧ key = space := by
  simp only [keyWords, List.mem_append, List.mem_map, Prod.mk.injEq, List.mem_pair, or_and_right]
  refine or_congr_left ⟨?_, ?_⟩
  · rintro ⟨name, hname, rfl, rfl⟩
    exact ⟨hname, rfl⟩
  · rintro ⟨hname, rfl⟩
    exact ⟨word, hname, rfl, rfl⟩

theorem exists_keyWord_iff :
    (∃ word, (word, key) ∈ keyWords ∧ Occurs (Whole word.toList) none cs) ↔
      key ∈ named ∧ key ∈ wordRuns cs ∨
        ("Space" ∈ wordRuns cs ∨ "Spacebar" ∈ wordRuns cs) ∧ key = space := by
  have hruns (word : String) :
      (word, key) ∈ keyWords ∧ Occurs (Whole word.toList) none cs ↔
        (word, key) ∈ keyWords ∧ word ∈ wordRuns cs := by
    refine and_congr_right fun hkey => ?_
    obtain ⟨hne, hword⟩ := isWord_of_mem_keyWords hkey
    exact (mem_wordRuns hne hword).symm
  rw [exists_congr hruns]
  simp only [mem_keyWords]
  constructor
  · rintro ⟨word, ⟨hname, rfl⟩ | ⟨rfl | rfl, hkey⟩, hrun⟩
    · exact .inl ⟨hname, hrun⟩
    · exact .inr ⟨.inl hrun, hkey⟩
    · exact .inr ⟨.inr hrun, hkey⟩
  · rintro (⟨hname, hrun⟩ | ⟨hrun | hrun, hkey⟩)
    · exact ⟨key, .inl ⟨hname, rfl⟩, hrun⟩
    · exact ⟨"Space", .inr ⟨.inl rfl, hkey⟩, hrun⟩
    · exact ⟨"Spacebar", .inr ⟨.inr rfl, hkey⟩, hrun⟩

theorem mem_scanChars : key ∈ scanChars cs ↔ Occurs (Mention key) none cs := by
  rw [occurs_mention, exists_keyWord_iff, ← hasQuotedBlank_iff]
  simp only [← mem_comparedCodes, Option.any_none]
  simp only [scanChars, List.mem_append, List.mem_filter, List.contains_iff_mem,
    List.mem_ite_nil_right, Bool.or_eq_true, List.mem_singleton, List.mem_filterMap]
  grind

/-- The scanner finds the keys that the text refers to, and no others. -/
theorem mem_scan {text : String} : key ∈ scan text ↔ Mentions text key := by
  rw [scan, List.mem_eraseDups, mem_scanChars, Mentions]

/-! ## Statements -/

theorem Compared.semicolon_notMem (h : Compared code prev passage next) : ';' ∉ passage := by
  obtain ⟨-, hnumeral, property, hproperty, -, ⟨sign, hsign, gap, gap', hblanks, rfl⟩, rfl⟩ := h
  obtain ⟨hgap, hgap'⟩ := List.forall_mem_append.mp hblanks
  have hproperty : ';' ∉ property.toList := by
    rcases List.mem_pair.mp hproperty with rfl | rfl <;> decide
  have hsign : ';' ∉ sign.toList := by
    rcases List.mem_pair.mp hsign with rfl | rfl <;> decide
  have hblank : ¬ isBlank ';' = true := by decide
  have hdigit : ¬ isDecimalDigit ';' = true := by decide
  simp only [List.mem_append, not_or]
  exact ⟨hproperty, ⟨⟨mt (hgap _) hblank, hsign⟩, mt (hgap' _) hblank⟩,
    mt (hnumeral.digits _) hdigit⟩

/-- What stands beside a mention matters only by what it is not. -/
theorem Mention.imp {prev' next' : Option Char} (hbefore : Edge prev → Edge prev')
    (hafter : Edge next → Edge next')
    (hdigit : (∀ c ∈ next, isDecimalDigit c = false) → ∀ c ∈ next', isDecimalDigit c = false)
    (h : Mention key prev passage next) : Mention key prev' passage next' := by
  cases h with
  | word word hkey h => exact .word word hkey ⟨h.eq, hbefore h.before, hafter h.after⟩
  | quoted hkey h => exact .quoted hkey h
  | code code hkey h =>
    obtain ⟨hprev, ⟨hne, hdigits, hnext⟩, hreads⟩ := h
    exact .code code hkey ⟨hbefore hprev, ⟨hne, hdigits, hdigit hnext⟩, hreads⟩

theorem separates_semicolon (key : String) : Separates ';' (Mention key) := by
  have hedge : Edge (some ';') := edge_some.mpr (by decide)
  have hdigit : ∀ c ∈ some ';', isDecimalDigit c = false := by
    rintro c ⟨⟩
    decide
  constructor
  case notMem =>
    rintro prev passage next (⟨word, hkey, h⟩ | ⟨-, h⟩ | ⟨code, -, h⟩)
    · rw [h.eq]
      exact mt ((isWord_of_mem_keyWords hkey).2 ';') (by decide)
    · rcases h with rfl | rfl <;> decide
    · exact h.semicolon_notMem
  case before =>
    exact ⟨Mention.imp (fun _ => edge_none) id id, Mention.imp (fun _ => hedge) id id⟩
  case after =>
    refine ⟨Mention.imp id (fun _ => edge_none) ?_, Mention.imp id (fun _ => hedge) fun _ => hdigit⟩
    rintro - c ⟨⟩

/-- The keys that two statements refer to are those of the one and those of the other; and they are
the keys that some passage of one statement, taken alone, refers to. -/
theorem scan_statements (a b : String) :
    (scan (a ++ ";" ++ b)).toFinset = (scan a).toFinset ∪ (scan b).toFinset ∧
      ∀ key, key ∈ scan (a ++ ";" ++ b) ↔ Mentions a key ∨ Mentions b key := by
  have hmem (key : String) : key ∈ scan (a ++ ";" ++ b) ↔ Mentions a key ∨ Mentions b key := by
    have htext : (a ++ ";" ++ b).toList = a.toList ++ ';' :: b.toList := by simp
    rw [mem_scan, Mentions, htext, (separates_semicolon key).occurs_append, Mentions, Mentions]
  refine ⟨?_, hmem⟩
  ext key
  rw [Finset.mem_union, List.mem_toFinset, List.mem_toFinset, List.mem_toFinset, hmem, mem_scan,
    mem_scan]

-- A blank is no separator: a comparison may go on behind it.
example : scan "keyCode" = [] ∧ scan "== 13" = [] ∧ scan "keyCode == 13" = ["Enter"] := by decide

end AccessAudit.Keyboard
