import AccessAudit.Proofs.Audit.Pointer
import AccessAudit.Proofs.Number.Numerals

/-!
# When the role of an element can be told

Roles and contexts are derived from attributes and styles that may be any text. Where a number is
asked for, the text is read only if it looks like one, so what matters is that nothing passes for a
number that cannot be read. For offsets this is so (`isSome_offset?_iff`). For the size of a
selection list it is not: all its characters may look like digits when some are no decimal digits,
or when they are too many.

`contexts_told_iff` says that this is the only way to fail: the role of an element, and with it its
context, can be told exactly when its size is not of this sort. One element with such a size is
enough to break the analysis of the whole document; `context_not_told` is a list with a superscript
for its size.
-/

namespace AccessAudit

open Text Number

/-! ## Offsets -/

section Offset

/-- The text of an offset without its unit. -/
def offsetText (value : String) : List Char :=
  let cs := lowerChars (trim value.toList)
  if ['x', 'p'].isPrefixOf cs.reverse then cs.take (cs.length - 2) else cs

/-- Digits, and possibly a point and more digits. -/
def IsDecimal (cs : List Char) : Prop :=
  ∃ whole tail, cs = whole ++ tail ∧ whole ≠ [] ∧ (∀ c ∈ whole, isDecimalDigit c = true) ∧
    (tail = [] ∨ ∃ fraction, tail = '.' :: fraction ∧ fraction ≠ [] ∧
      ∀ c ∈ fraction, isDecimalDigit c = true)

/-- The test that an offset has to pass before it is read. -/
def passesForDecimal (cs : List Char) : Bool :=
  let whole := cs.takeWhile isDecimalDigit
  let wellFormed := match cs.drop whole.length with
    | [] => true
    | '.' :: fraction => !fraction.isEmpty && fraction.all isDecimalDigit
    | _ => false
  !whole.isEmpty && wellFormed

theorem passesForDecimal_iff (cs : List Char) : passesForDecimal cs = true ↔ IsDecimal cs := by
  have hdrop : cs.drop (cs.takeWhile isDecimalDigit).length = cs.dropWhile isDecimalDigit := by
    calc cs.drop (cs.takeWhile isDecimalDigit).length
        = (cs.takeWhile isDecimalDigit ++ cs.dropWhile isDecimalDigit).drop
            (cs.takeWhile isDecimalDigit).length := by rw [List.takeWhile_append_dropWhile]
      _ = cs.dropWhile isDecimalDigit := List.drop_left
  unfold passesForDecimal
  dsimp only
  rw [hdrop]
  constructor
  · intro h
    obtain ⟨hwhole, hform⟩ := Bool.and_eq_true_iff.mp h
    refine ⟨cs.takeWhile isDecimalDigit, cs.dropWhile isDecimalDigit,
      List.takeWhile_append_dropWhile.symm, by simpa using hwhole,
      fun c hc => List.mem_takeWhile_imp hc, ?_⟩
    split at hform
    case h_1 hend => exact .inl hend
    case h_2 fraction hend =>
      obtain ⟨hsome, hdigits⟩ := Bool.and_eq_true_iff.mp hform
      exact .inr ⟨fraction, hend, by simpa using hsome, List.all_eq_true.mp hdigits⟩
    case h_3 => cases hform
  · rintro ⟨whole, tail, rfl, hne, hwhole, htail⟩
    have hpoint : isDecimalDigit '.' = false := by decide +kernel
    rw [List.takeWhile_append_of_pos hwhole, List.dropWhile_append_of_pos hwhole]
    rcases htail with rfl | ⟨fraction, rfl, hsome, hdigits⟩
    · simp [hne]
    · simpa [hpoint, hne, hsome] using hdigits

theorem IsDecimal.head {cs : List Char} (h : IsDecimal cs) :
    ∀ c ∈ cs.head?, isDigitLike c = true := by
  obtain ⟨whole, tail, rfl, hne, hwhole, -⟩ := h
  obtain ⟨first, rest, rfl⟩ := List.exists_cons_of_ne_nil hne
  intro c hc
  cases hc
  exact isDigitLike_of_isDecimalDigit (hwhole first List.mem_cons_self)

theorem IsDecimal.exists_readUnsigned? {cs : List Char} (h : IsDecimal cs) :
    ∃ x, readUnsigned? cs = some x := by
  obtain ⟨whole, tail, rfl, hne, hwhole, htail⟩ := h
  refine Number.exists_readUnsigned? hne hwhole (htail.imp_right ?_)
  rintro ⟨fraction, htail, -, hdigits⟩
  exact ⟨fraction, htail, hdigits⟩

/-- A text without the minus sign at its head. -/
def unsignedPart : List Char → List Char
  | '-' :: rest => rest
  | cs => cs

theorem IsDecimal.unsignedPart_eq {cs : List Char} (h : IsDecimal cs) : unsignedPart cs = cs := by
  unfold unsignedPart
  split
  case h_1 rest =>
    exact absurd rfl (ne_of_isDigitLike (h.head '-' rfl) '-' (by decide +kernel))
  case h_2 => rfl

theorem offset?_eq (value : String) : offset? value =
    if passesForDecimal (unsignedPart (offsetText value)) then readFloatChars? (offsetText value)
    else none := by
  unfold offset? offsetText
  dsimp only
  -- the text is the same on both sides, and nothing has to look into it
  generalize (if ['x', 'p'].isPrefixOf (lowerChars (trim value.toList)).reverse then _ else _) =
    text
  rfl

/-- An offset has a value exactly when it is a decimal, possibly with a minus sign before it. -/
theorem isSome_offset?_iff (value : String) : (offset? value).isSome = true ↔
    ∃ unsigned, IsDecimal unsigned ∧
      (offsetText value = unsigned ∨ offsetText value = '-' :: unsigned) := by
  rw [offset?_eq]
  constructor
  · intro h
    split at h
    case isTrue hpasses =>
      refine ⟨_, (passesForDecimal_iff _).mp hpasses, ?_⟩
      unfold unsignedPart
      split
      case h_1 rest heq => exact .inr heq
      case h_2 => exact .inl rfl
    case isFalse => cases h
  · rintro ⟨unsigned, hdecimal, htext⟩
    obtain ⟨x, hx⟩ := hdecimal.exists_readUnsigned?
    have hpart : unsignedPart (offsetText value) = unsigned := by
      rcases htext with htext | htext
      · rw [htext, hdecimal.unsignedPart_eq]
      · rw [htext]
        rfl
    rw [hpart, if_pos ((passesForDecimal_iff unsigned).mpr hdecimal)]
    rcases htext with htext | htext
    · rw [htext, readFloatChars?, takeSign_of_isDigitLike hdecimal.head]
      dsimp only
      rw [hx]
      rfl
    · rw [htext]
      show ((readUnsigned? unsigned).map _).isSome = true
      rw [hx]
      rfl

end Offset

/-! ## Sizes -/

/-- A text that passes for a numeral and is none that can be read. -/
structure Obscure (size : String) : Prop where
  nonempty : size ≠ ""
  alike : ∀ c ∈ size.toList, isDigitLike c = true
  unreadable : (∃ c ∈ size.toList, isDecimalDigit c = false) ∨ digitLimit < size.length

namespace Element

theorem exists_showsSeveral_iff (size : String) :
    (∃ several, showsSeveral size = .ok several) ↔ ¬ Obscure size := by
  unfold showsSeveral
  by_cases hguard : (size.isEmpty || !size.toList.all isDigitLike) = true
  · rw [if_pos hguard]
    have hclear : ¬ Obscure size := by
      intro h
      have hall : size.toList.all isDigitLike = true := List.all_eq_true.mpr h.alike
      simp [h.nonempty, hall] at hguard
    exact ⟨fun _ => hclear, fun _ => ⟨_, rfl⟩⟩
  · rw [if_neg hguard]
    simp only [Bool.or_eq_true, Bool.not_eq_true', not_or, Bool.not_eq_false,
      String.isEmpty_iff, List.all_eq_true] at hguard
    obtain ⟨hne, halike⟩ := hguard
    by_cases hornament : ∃ c ∈ size.toList, isDecimalDigit c = false
    · obtain ⟨c, hc, hnot⟩ := hornament
      have hobscure : Obscure size := ⟨hne, halike, .inl ⟨c, hc, hnot⟩⟩
      rw [readInt_of_not_isDecimalDigit halike hc hnot]
      simp [hobscure]
    · have hdecimal : ∀ c ∈ size.toList, isDecimalDigit c = true := by
        simpa using hornament
      obtain ⟨n, hn⟩ := readInt_of_isDecimalDigit hne hdecimal
      rw [hn]
      by_cases hlong : digitLimit < size.length
      · have hobscure : Obscure size := ⟨hne, halike, .inr hlong⟩
        simp [hlong, hobscure]
      · have hclear : ¬ Obscure size := fun h => h.unreadable.elim hornament hlong
        simp [hlong, hclear]

/-- The role of the element depends on its size, and the size is obscure. -/
def HasObscureSize (e : Element) : Prop :=
  e.explicitRole? = none ∧ e.tag = "select" ∧ e.has "multiple" = false ∧
    Obscure (strip (e.valueOf "size"))

theorem exists_implicitRole_iff (e : Element) : (∃ role, e.implicitRole = .ok role) ↔
    ¬ (e.tag = "select" ∧ e.has "multiple" = false ∧ Obscure (strip (e.valueOf "size"))) := by
  unfold implicitRole
  by_cases hselect : e.tag = "select"
  · have hsize := exists_showsSeveral_iff (strip (e.valueOf "size"))
    cases hmultiple : e.has "multiple" with
    | true => simp [hselect]
    | false =>
      simp only [hselect, true_and, ← hsize]
      cases showsSeveral (strip (e.valueOf "size")) with
      | error why => simp [bind, Except.bind]
      | ok several => simp [bind, Except.bind, pure, Except.pure]
  · simp only [hselect, false_and, not_false_eq_true, iff_true, beq_iff_eq, if_false]
    -- all other branches are answers
    split
    · exact ⟨_, rfl⟩
    · split
      · split
        · exact ⟨_, rfl⟩
        · split
          · exact ⟨_, rfl⟩
          · exact ⟨_, rfl⟩
      · split
        · exact ⟨_, rfl⟩
        · exact ⟨_, rfl⟩

theorem exists_role_iff (e : Element) : (∃ role, e.role = .ok role) ↔ ¬ e.HasObscureSize := by
  unfold role HasObscureSize
  cases e.explicitRole? with
  | some role => simp
  | none => simpa using e.exists_implicitRole_iff

end Element

/-! ## Documents -/

/-- The role of an element and its context can be told exactly when its size is not obscure, and the
document can be analyzed when this is so for all elements. Offsets do not stand in the way, as one
that passes for a number has a value. -/
theorem contexts_told_iff (d : Document) :
    (∀ key, ((∃ role, d.roleOf key = .ok role) ↔ ¬ (d.element key).HasObscureSize) ∧
      ((∃ c, d.context key = .ok c) ↔ ¬ (d.element key).HasObscureSize)) ∧
    (∀ context, (∃ issues, Conflict.analyze d context = .ok issues) ↔
      ∀ key ∈ d.keys, ¬ (d.element key).HasObscureSize) ∧
    ∀ value, (offset? value).isSome = true ↔ ∃ unsigned, IsDecimal unsigned ∧
      (offsetText value = unsigned ∨ offsetText value = '-' :: unsigned) := by
  have hrole (key : Key) :
      (∃ role, d.roleOf key = .ok role) ↔ ¬ (d.element key).HasObscureSize :=
    (d.element key).exists_role_iff
  refine ⟨fun key => ⟨hrole key, Conflict.exists_context_iff.trans (hrole key)⟩, ?_,
    isSome_offset?_iff⟩
  intro context
  rw [Conflict.exists_analyze_iff]
  exact forall₂_congr fun key _ => hrole key

/-- A selection list with a superscript for its size. -/
def squaredList : Element := { tag := "select", attributes := [("size", "²")] }

/-- Neither its role nor its context can be told, and the analysis breaks down. -/
theorem context_not_told : ∃ f, Fragment.ofGraph (elementPage squaredList) "page" = .ok f ∧
    let d := merge {} [.indexed f] [] [] .null
    d.roleOf ⟨0, 0⟩ = .error (.badNumeral "²") ∧ d.context ⟨0, 0⟩ = .error (.badNumeral "²") ∧
    ∀ context, Conflict.analyze d context = .error (.badNumeral "²") := by
  obtain ⟨f, hf, hsize, he⟩ := exists_elementPage squaredList
  have hrole : (merge {} [.indexed f] [] [] .null).roleOf ⟨0, 0⟩ = .error (.badNumeral "²") := by
    rw [Document.roleOf, element_single he]
    decide +kernel
  have hcontext : (merge {} [.indexed f] [] [] .null).context ⟨0, 0⟩ =
      .error (.badNumeral "²") := by
    unfold Document.context
    rw [hrole]
    rfl
  refine ⟨f, hf, hrole, hcontext, ?_⟩
  intro context
  have hkeys : (merge {} [.indexed f] [] [] .null).keys = [⟨0, 0⟩] :=
    keysOf_single hsize
  simp [Conflict.analyze, hkeys, Conflict.checkElement, hcontext, bind, Except.bind]

end AccessAudit
