import AccessAudit.Proofs.Style.Rereading
import AccessAudit.Proofs.Text.Words

/-!
# Repeated declarations

A block is a sequence of declarations, and the same property may be declared many times in it. What
counts is the last declaration that is important, or the last one if none is. `Resolves` says that
of a list of declarations; besides, names are kept in the order in which they first came up, and the
important ones in the order in which they first were important.

Which declarations a block has is said without the reader: the text is cut at its semicolons, and a
piece declares something if it has a colon and what stands before the first one is not blank
(`Declares`). The value is important if it ends with a mark of importance (`IsMark`), which is cut
off.
-/

namespace AccessAudit

open Text

/-! ## What a piece declares -/

/-- A property with a value, and whether that is important. -/
structure Declared where
  name : String
  value : String
  important : Bool

namespace Declaration

theorem splitImportant_of_isMark {cs body mark : List Char} (h : trim cs = body ++ mark)
    (hmark : IsMark mark) : splitImportant cs = (trim body, true) := by
  obtain ⟨before, hletters, hblanks⟩ := exists_isMark_iff.mp ⟨mark, h, hmark⟩
  unfold splitImportant
  dsimp only
  rw [hletters]
  dsimp only
  rw [hblanks]
  show (trim body.reverse.reverse, true) = _
  rw [List.reverse_reverse]

theorem splitImportant_of_no_mark {cs : List Char}
    (h : ¬ ∃ body mark, trim cs = body ++ mark ∧ IsMark mark) :
    splitImportant cs = (trim cs, false) := by
  rcases splitImportant_cases cs with ⟨hsplit, -⟩ | ⟨body, mark, hcs, hmark, -⟩
  · exact hsplit
  · exact absurd ⟨body, mark, hcs, hmark⟩ h

end Declaration

namespace Text

theorem trim_eq_nil_iff {cs : List Char} : trim cs = [] ↔ ∀ c ∈ cs, isBlank c = true := by
  have hleft : trimLeft cs = [] ↔ ∀ c ∈ cs, isBlank c = true := List.dropWhile_eq_nil_iff
  rw [← hleft]
  constructor
  · intro h
    have hblank : ∀ c ∈ trimLeft cs, isBlank c = true := by
      simpa [trim, trimRight, List.dropWhile_eq_nil_iff] using h
    cases hcs : trimLeft cs with
    | nil => rfl
    | cons c rest =>
      have hfirst := @isBlank_head_trimLeft cs c (by rw [hcs]; rfl)
      rw [hblank c (hcs ▸ List.mem_cons_self)] at hfirst
      cases hfirst
  · intro h
    rw [trim, h]
    rfl

theorem normalize_eq_empty_iff {s : String} : normalize s = "" ↔ isBlankText s = true := by
  have hlower : lowerChars (trim s.toList) = [] ↔ trim s.toList = [] := by
    cases htrim : trim s.toList with
    | nil => exact ⟨fun _ => rfl, fun _ => rfl⟩
    | cons c rest =>
      obtain ⟨letters, casedBefore, heq, hne, -⟩ := lowerFrom_cons false c rest
      simp [lowerChars, heq, hne]
  rw [isBlankText, List.all_eq_true, ← trim_eq_nil_iff, ← hlower, normalize, lower, strip,
    String.toList_ofList, String.ofList_eq_empty_iff]

end Text

/-- What a piece of a block declares. -/
inductive Declares (piece : List Char) : Declared → Prop where
  | important {name value body mark : List Char} (split : piece = name ++ ':' :: value)
      (first : ':' ∉ name) (named : isBlankText (String.ofList name) = false)
      (marked : trim value = body ++ mark) (isMark : Declaration.IsMark mark) :
      Declares piece ⟨normalize (String.ofList name), String.ofList (trim body), true⟩
  | plain {name value : List Char} (split : piece = name ++ ':' :: value)
      (first : ':' ∉ name) (named : isBlankText (String.ofList name) = false)
      (unmarked : ¬ ∃ body mark, trim value = body ++ mark ∧ Declaration.IsMark mark) :
      Declares piece ⟨normalize (String.ofList name), String.ofList (trim value), false⟩

/-- The declaration that a piece is read as. -/
def Declared.ofPiece? (piece : List Char) : Option Declared :=
  (Declarations.readPiece? piece).map fun entry => ⟨entry.1, entry.2.1, entry.2.2⟩

namespace Declarations

theorem addPiece_eq_ofPiece? (d : Declarations) (piece : List Char) :
    d.addPiece piece = match Declared.ofPiece? piece with
      | some e => d.add e.name e.value e.important
      | none => d := by
  rw [addPiece_eq, Declared.ofPiece?]
  cases readPiece? piece with
  | none => rfl
  | some entry => rfl

/-- A piece is read at its first colon. -/
theorem readPiece?_of_colon {name value : List Char} (first : ':' ∉ name) :
    readPiece? (name ++ ':' :: value) =
      if isBlankText (String.ofList name) = true then none
      else some (normalize (String.ofList name),
        String.ofList (Declaration.splitImportant value).1,
        (Declaration.splitImportant value).2) := by
  have hname : ∀ c ∈ name, (c != ':') = true := by
    intro c hc
    exact bne_iff_ne.mpr fun h => first (h ▸ hc)
  have htake : (name ++ ':' :: value).takeWhile (· != ':') = name := by
    rw [List.takeWhile_append_of_pos hname, List.takeWhile_cons_of_neg (by decide),
      List.append_nil]
  have hdrop : (name ++ ':' :: value).dropWhile (· != ':') = ':' :: value := by
    rw [List.dropWhile_append_of_pos hname, List.dropWhile_cons_of_neg (by decide)]
  have hempty : (normalize (String.ofList name)).isEmpty =
      isBlankText (String.ofList name) := by
    rw [Bool.eq_iff_iff, String.isEmpty_iff, normalize_eq_empty_iff]
  have hnormal : String.ofList (lowerChars (trim name)) = normalize (String.ofList name) := by
    simp [Text.normalize, lower, strip]
  unfold readPiece?
  rw [hdrop, htake, hnormal]
  dsimp only
  rw [hempty]

theorem readPiece?_of_no_colon {piece : List Char} (h : ':' ∉ piece) : readPiece? piece = none := by
  have hdrop : piece.dropWhile (· != ':') = [] := by
    rw [List.dropWhile_eq_nil_iff]
    intro c hc
    exact bne_iff_ne.mpr fun heq => h (heq ▸ hc)
  rw [readPiece?, hdrop]

end Declarations

theorem Declared.ofPiece?_eq_some_iff {piece : List Char} {e : Declared} :
    Declared.ofPiece? piece = some e ↔ Declares piece e := by
  constructor
  · intro h
    by_cases hcolon : ':' ∈ piece
    · obtain ⟨name, value, split, first⟩ := List.eq_append_cons_of_mem hcolon
      rw [split, ofPiece?, Declarations.readPiece?_of_colon first] at h
      cases named : isBlankText (String.ofList name) with
      | true =>
        rw [named, if_pos rfl] at h
        cases h
      | false =>
        rw [named, if_neg Bool.false_ne_true, Option.map_some] at h
        rw [← Option.some.inj h]
        by_cases hmarked : ∃ body mark, trim value = body ++ mark ∧ Declaration.IsMark mark
        · obtain ⟨body, mark, marked, isMark⟩ := hmarked
          rw [Declaration.splitImportant_of_isMark marked isMark]
          exact .important split first named marked isMark
        · rw [Declaration.splitImportant_of_no_mark hmarked]
          exact .plain split first named hmarked
    · rw [ofPiece?, Declarations.readPiece?_of_no_colon hcolon] at h
      cases h
  · intro h
    cases h with
    | important split first named marked isMark =>
      rw [split, ofPiece?, Declarations.readPiece?_of_colon first, named,
        Declaration.splitImportant_of_isMark marked isMark]
      rfl
    | plain split first named unmarked =>
      rw [split, ofPiece?, Declarations.readPiece?_of_colon first, named,
        Declaration.splitImportant_of_no_mark unmarked]
      rfl

/-! ## Which declaration counts -/

/-- The value that a list of declarations gives a property last. -/
def lastValue (entries : List Declared) (p : String) : Option String :=
  (entries.filter fun e => e.name == p).getLast?.map Declared.value

theorem lastValue_concat (entries : List Declared) (e : Declared) (p : String) :
    lastValue (entries ++ [e]) p = if p = e.name then some e.value else lastValue entries p := by
  unfold lastValue
  by_cases hp : p = e.name
  · simp [hp, List.filter_append]
  · have hne : ¬ e.name = p := fun h => hp h.symm
    simp [hp, hne, List.filter_append]

theorem lastValue_eq_none_iff {entries : List Declared} {p : String} :
    lastValue entries p = none ↔ p ∉ entries.map Declared.name := by
  simp [lastValue]

/-- The declarations that are important. -/
def importantOf (entries : List Declared) : List Declared := entries.filter Declared.important

theorem importantOf_concat (entries : List Declared) (e : Declared) :
    importantOf (entries ++ [e]) =
      if e.important = true then importantOf entries ++ [e] else importantOf entries := by
  unfold importantOf
  rw [List.filter_append]
  cases h : e.important with
  | true => simp [h]
  | false => simp [h]

namespace Declarations

/-- What a sequence of declarations comes to. -/
structure Resolves (entries : List Declared) (d : Declarations) : Prop where
  -- The last important declaration of a property counts, or the last one if none is important.
  value : ∀ p, d.properties.get? p =
    (lastValue (importantOf entries) p).or (lastValue entries p)
  -- Names are in the order in which they first came up.
  names : d.properties.names = (entries.map Declared.name).eraseDups
  -- Important names are in the order in which they first were important.
  important : d.important = ((importantOf entries).map Declared.name).eraseDups

variable {entries : List Declared} {d : Declarations}

theorem Resolves.mem_important (h : Resolves entries d) {p : String} :
    p ∈ d.important ↔ p ∈ (importantOf entries).map Declared.name := by
  rw [h.important, List.mem_eraseDups]

theorem Resolves.mem_names_of_important (h : Resolves entries d) {p : String}
    (hp : p ∈ d.important) : p ∈ entries.map Declared.name := by
  obtain ⟨e, he, rfl⟩ := List.mem_map.mp (h.mem_important.mp hp)
  exact List.mem_map_of_mem (List.mem_of_mem_filter he)

theorem important_add (d : Declarations) (name value : String) (important : Bool) :
    (d.add name value important).important =
      if important = true ∧ name ∉ d.important then d.important ++ [name] else d.important := by
  unfold add
  cases important with
  | false =>
    by_cases hname : name ∈ d.important
    · simp [hname]
    · simp [hname]
  | true => simp

/-- One declaration more. -/
theorem Resolves.add (h : Resolves entries d) (e : Declared) :
    Resolves (entries ++ [e]) (d.add e.name e.value e.important) where
  value := by
    intro p
    rw [get?_add, h.value, lastValue_concat, importantOf_concat]
    by_cases hp : p = e.name
    · subst hp
      cases himportant : e.important with
      | true => simp [lastValue_concat]
      | false =>
        by_cases hmem : e.name ∈ d.important
        · -- an earlier declaration is important, so this one is passed over on both sides
          have hsome : (lastValue (importantOf entries) e.name).isSome := by
            rw [Option.isSome_iff_ne_none, Ne, lastValue_eq_none_iff]
            exact not_not.mpr (h.mem_important.mp hmem)
          simp [hmem, Option.or_of_isSome hsome]
        · have hnone : lastValue (importantOf entries) e.name = none :=
            lastValue_eq_none_iff.mpr fun hname => hmem (h.mem_important.mpr hname)
          simp [hmem, hnone]
    · simp only [hp, false_and, if_false]
      split
      · simp only [lastValue_concat, hp, if_false]
      · rfl
  names := by
    rw [List.map_append, List.map_singleton, eraseDups_concat, ← h.names]
    unfold Declarations.add
    split
    case isTrue hkept =>
      have hmem : e.name ∈ d.important := by
        simpa using (Bool.and_eq_true_iff.mp hkept).1
      rw [if_pos (h.mem_names_of_important hmem)]
    case isFalse =>
      have hnames : e.name ∈ d.properties.names ↔ e.name ∈ entries.map Declared.name := by
        rw [h.names, List.mem_eraseDups]
      simp only [Entries.names_put, hnames]
  important := by
    rw [important_add, importantOf_concat]
    cases himportant : e.important with
    | false => simpa using h.important
    | true =>
      rw [if_pos rfl, List.map_append, List.map_singleton, eraseDups_concat, ← h.important]
      by_cases hmem : e.name ∈ d.important
      · rw [if_pos (h.mem_important.mp hmem), if_neg fun hnew => hnew.2 hmem]
      · rw [if_neg (fun hname => hmem (h.mem_important.mpr hname)), if_pos ⟨rfl, hmem⟩]

/-- What a run of pieces makes of declarations. -/
theorem Resolves.foldl (h : Resolves entries d) (pieces : List (List Char)) :
    Resolves (entries ++ pieces.filterMap Declared.ofPiece?) (pieces.foldl addPiece d) := by
  induction pieces generalizing entries d with
  | nil => simpa using h
  | cons piece rest ih =>
    rw [List.foldl_cons, addPiece_eq_ofPiece?]
    cases hpiece : Declared.ofPiece? piece with
    | none =>
      rw [List.filterMap_cons_none hpiece]
      exact ih h
    | some e =>
      rw [List.filterMap_cons_some hpiece, List.append_cons]
      exact ih (h.add e)

theorem Resolves.empty : Resolves [] {} where
  value _ := rfl
  names := rfl
  important := rfl

/-- The pieces of a block are what its semicolons divide. -/
theorem piecesFrom_eq_splitOn (current cs : List Char) :
    piecesFrom current cs = (cs.splitOn ';').modifyHead (current.reverse ++ ·) := by
  induction cs generalizing current with
  | nil => simp [piecesFrom]
  | cons c rest ih =>
    rw [piecesFrom, modifyHead_splitOn_cons]
    split
    · rw [ih [], modifyHead_splitOn_nil]
    · exact ih (c :: current)

/-- **Of repeated declarations in a block the last important one counts, or else the last.** -/
theorem parse_resolves (text : String) :
    Resolves ((text.toList.splitOn ';').filterMap Declared.ofPiece?) (parse text) ∧
      ∀ piece e, Declared.ofPiece? piece = some e ↔ Declares piece e := by
  refine ⟨?_, fun piece e => Declared.ofPiece?_eq_some_iff⟩
  rw [parse, piecesFrom_eq_splitOn, modifyHead_splitOn_nil]
  exact Resolves.empty.foldl (text.toList.splitOn ';')

end Declarations

end AccessAudit
