import AccessAudit.Proofs.Selector.Shape

/-!
# Reading ends by itself

The reading functions carry a count of steps, and one that has none left stops with an error of its
own. That error is no fault of any text, so it should never be met. It is not: every way round the
functions uses up characters, and `parse` starts with more steps than that takes. `readList_steps`
says it without speaking of errors. However many steps more there are, the answer is the same.

Two things are shown of all readers at once, each for a number of steps from the one for a step
less. `ReadsOn` says what a reader leaves: no more than it was given, and less where it must have
read something; an error counts no more characters than there were. `Settled` says that a reader
with enough steps for what it is given, four for a character, does not notice further ones.
-/

namespace AccessAudit

namespace Selector

open Text

/-! ## What a reader leaves -/

/-- What is left is shorter by a number of characters, and an error is placed within the text. -/
def Leaves {α : Type} (cs : List Char) (used : Nat) : Read (α × List Char) → Prop
  | .ok (_, rest) => rest.length + used ≤ cs.length
  | .error s => ∀ left ∈ s.remaining, left ≤ cs.length

section Leaves

variable {α β : Type} {cs cs' rest : List Char} {used used' : Nat} {r : Read (α × List Char)}

theorem Leaves.stop {reason : Reason} (h : rest.length ≤ cs.length) :
    Leaves cs used (stop reason rest : Read (α × List Char)) := by
  rintro left ⟨⟩
  exact h

theorem Leaves.mono (h : Leaves cs' used r) (hlength : cs'.length ≤ cs.length)
    (hused : cs'.length + used' ≤ cs.length + used) : Leaves cs used' r := by
  cases r with
  | ok result =>
    have hrest : result.2.length + used ≤ cs'.length := h
    show result.2.length + used' ≤ cs.length
    omega
  | error s => exact fun left hleft => Nat.le_trans (h left hleft) hlength

/-- A character before the text is used up along with it. -/
theorem Leaves.behind {c : Char} (h : Leaves rest used r) (hused : used' ≤ used + 1) :
    Leaves (c :: rest) used' r :=
  h.mono (by simp) (by simp only [List.length_cons]; omega)

theorem Leaves.bind {next : α × List Char → Read (β × List Char)} (h : Leaves cs used r)
    (hnext : ∀ a rest, rest.length + used ≤ cs.length → Leaves rest 0 (next (a, rest))) :
    Leaves cs used (r >>= next) := by
  cases r with
  | error s => exact h
  | ok result =>
    have hrest : result.2.length + used ≤ cs.length := h
    exact (hnext result.1 result.2 hrest).mono (by omega) (by omega)

end Leaves

variable {fuel : Nat} {nested : Bool} {cs rest : List Char} {done : List Simple} {left : Complex}

theorem length_dropWhile_le (p : Char → Bool) (cs : List Char) :
    (cs.dropWhile p).length ≤ cs.length :=
  (List.dropWhile_suffix p).length_le

theorem length_trimLeft_le (cs : List Char) : (trimLeft cs).length ≤ cs.length :=
  length_dropWhile_le isBlank cs

theorem length_spanName (cs : List Char) :
    (spanName cs).1.length + (spanName cs).2.length ≤ cs.length := by
  fun_induction spanName cs with
  | case1 => exact Nat.le_refl _
  | case2 => simp
  | case3 c rest hc name left heq ih =>
    rw [heq] at ih
    simp only [List.length_cons] at ih ⊢
    omega
  | case4 c rest hc hname name left heq ih =>
    rw [heq] at ih
    simp only [List.length_cons] at ih ⊢
    omega
  | case5 => simp

theorem leaves_readName (cs : List Char) : Leaves cs 1 (readName cs) := by
  have hlength := length_spanName cs
  unfold readName
  split
  case h_1 => exact Leaves.stop (Nat.le_refl _)
  case h_2 name rest hname heq =>
    rw [heq] at hlength
    have hpos : 0 < name.length := List.length_pos_iff.mpr hname
    show rest.length + 1 ≤ cs.length
    dsimp only at hlength
    omega

theorem leaves_readLowerName (cs : List Char) : Leaves cs 1 (readLowerName cs) :=
  Leaves.bind (leaves_readName cs) fun _ rest _ => Nat.le_refl (rest.length + 0)

theorem leaves_readExactName (cs : List Char) : Leaves cs 1 (readExactName cs) :=
  Leaves.bind (leaves_readName cs) fun _ rest _ => Nat.le_refl (rest.length + 0)

theorem length_spanComparison {how : Comparison} (h : spanComparison cs = some (how, rest)) :
    rest.length ≤ cs.length := by
  unfold spanComparison at h
  split at h
  case h_7 => cases h
  all_goals
    cases h
    simp only [List.length_cons]
    omega

theorem leaves_readValue (cs : List Char) : Leaves cs 0 (readValue cs) := by
  unfold readValue
  split
  case h_1 c rest =>
    split
    · have hdrop := length_dropWhile_le (· != c) rest
      split
      · exact Leaves.stop (Nat.le_refl _)
      case h_2 quote after heq =>
        rw [heq, List.length_cons] at hdrop
        show after.length + 0 ≤ rest.length + 1
        omega
    · exact (leaves_readExactName _).mono (Nat.le_refl _) (by omega)
  case h_2 => exact (leaves_readExactName _).mono (Nat.le_refl _) (by omega)

theorem length_spanCaseMark (cs : List Char) : (spanCaseMark cs).2.length ≤ cs.length := by
  unfold spanCaseMark
  split
  case h_1 mark next rest =>
    have htrim := length_trimLeft_le (next :: rest)
    simp only [List.length_cons] at htrim
    split
    · split
      · simp only [List.length_cons]
        omega
      · split
        · simp only [List.length_cons]
          omega
        · exact Nat.le_refl _
    · exact Nat.le_refl _
  case h_2 => exact Nat.le_refl _

theorem leaves_readAttribute (cs : List Char) : Leaves cs 1 (readAttribute cs) := by
  have htrim := length_trimLeft_le cs
  refine Leaves.bind ((leaves_readLowerName (trimLeft cs)).mono htrim (by omega)) ?_
  intro name rest hrest
  have htrim' := length_trimLeft_le rest
  dsimp only
  split
  · split
    case h_1 after heq =>
      rw [heq, List.length_cons] at htrim'
      show after.length + 0 ≤ rest.length
      omega
    · exact Leaves.stop htrim'
  case h_2 how after hspan =>
    have hafter := length_spanComparison hspan
    have htrim'' := length_trimLeft_le after
    refine Leaves.bind ((leaves_readValue (trimLeft after)).mono (by omega) (by omega)) ?_
    intro value last hlast
    have hmark := length_spanCaseMark (trimLeft last)
    have hend := length_trimLeft_le last
    dsimp only
    split
    case h_1 after' heq =>
      rw [heq, List.length_cons] at hmark
      show after'.length + 0 ≤ last.length
      omega
    · exact Leaves.stop (by omega)

theorem leaves_readRawArgument (name : String) (cs : List Char) :
    Leaves cs 1 (readRawArgument name cs) := by
  have hdrop := length_dropWhile_le (· != ')') cs
  unfold readRawArgument
  split
  · exact Leaves.stop (Nat.le_refl _)
  case h_2 close after heq =>
    rw [heq, List.length_cons] at hdrop
    dsimp only
    split
    · split
      · exact hdrop
      · rintro left ⟨⟩
    · exact hdrop

theorem length_afterCombinator (how : Combinator) (cs : List Char) :
    (afterCombinator how cs).length ≤ cs.length := by
  have htrim := length_trimLeft_le (cs.drop 1)
  rw [List.length_drop] at htrim
  cases how with
  | descendant => exact Nat.le_refl _
  | child | next | later =>
    show (trimLeft (cs.drop 1)).length ≤ cs.length
    omega

/-- What the readers leave within a number of steps. -/
structure ReadsOn (fuel : Nat) : Prop where
  list : ∀ nested cs, Leaves cs 1 (readList fuel nested cs)
  complex : ∀ nested cs, Leaves cs 1 (readComplex fuel nested cs)
  chain : ∀ nested left cs, Leaves cs 0 (readChain fuel nested left cs)
  compound : ∀ cs, Leaves cs 1 (readCompound fuel cs)
  -- the first condition of a compound has to be read, a further one need not be there
  parts : ∀ done cs, Leaves cs (if done.isEmpty then 1 else 0) (readParts fuel done cs)
  pseudo : ∀ cs, Leaves cs 1 (readPseudo fuel cs)

namespace ReadsOn

theorem zero : ReadsOn 0 where
  list _ _ := Leaves.stop (Nat.le_refl _)
  complex _ _ := Leaves.stop (Nat.le_refl _)
  chain _ _ _ := Leaves.stop (Nat.le_refl _)
  compound _ := Leaves.stop (Nat.le_refl _)
  parts _ _ := Leaves.stop (Nat.le_refl _)
  pseudo _ := Leaves.stop (Nat.le_refl _)

theorem list_succ (r : ReadsOn fuel) (nested : Bool) (cs : List Char) :
    Leaves cs 1 (readList (fuel + 1) nested cs) := by
  have htrim := length_trimLeft_le cs
  refine Leaves.bind ((r.complex nested (trimLeft cs)).mono htrim (by omega)) ?_
  intro branch rest _
  have htrim' := length_trimLeft_le rest
  dsimp only
  split
  case h_1 more heq =>
    rw [heq, List.length_cons] at htrim'
    refine (Leaves.bind (r.list nested more) ?_).mono (by omega) (by omega)
    intro others left _
    exact Nat.le_refl (left.length + 0)
  case h_2 => exact htrim'

theorem complex_succ (r : ReadsOn fuel) (nested : Bool) (cs : List Char) :
    Leaves cs 1 (readComplex (fuel + 1) nested cs) :=
  Leaves.bind (r.compound cs) fun parts rest _ => r.chain nested (.compound parts) rest

theorem chain_succ (r : ReadsOn fuel) (nested : Bool) (left : Complex) (cs : List Char) :
    Leaves cs 0 (readChain (fuel + 1) nested left cs) := by
  have htrim := length_trimLeft_le cs
  unfold readChain
  dsimp only
  split
  case h_1 => exact htrim
  case h_2 => exact Leaves.stop htrim
  case h_3 how _ =>
    have hafter := length_afterCombinator how (trimLeft cs)
    refine Leaves.bind ((r.compound (afterCombinator how (trimLeft cs))).mono (by omega)
      (by omega)) ?_
    intro parts after _
    exact r.chain nested (.join left how parts) after

theorem compound_succ (r : ReadsOn fuel) (cs : List Char) :
    Leaves cs 1 (readCompound (fuel + 1) cs) := by
  have hlength := length_spanName cs
  unfold readCompound
  split
  case h_1 rest => exact (r.parts [.universal] rest).behind (Nat.le_refl 1)
  case h_2 =>
    split
    case h_1 => exact r.parts [] cs
    case h_2 name rest hname heq =>
      rw [heq] at hlength
      dsimp only at hlength
      have hpos : 0 < name.length := List.length_pos_iff.mpr hname
      refine (r.parts [.type (String.ofList (lowerChars name))] rest).mono (by omega) ?_
      simp only [List.isEmpty_cons, Bool.false_eq_true, if_false]
      omega

theorem parts_succ (r : ReadsOn fuel) (done : List Simple) (cs : List Char) :
    Leaves cs (if done.isEmpty then 1 else 0) (readParts (fuel + 1) done cs) := by
  generalize hused : (if done.isEmpty then 1 else 0) = used
  have hone : used ≤ 1 := by
    rw [← hused]
    split <;> omega
  -- a condition with a sign before it uses that up at least
  have push {α : Type} (c : Char) (rest : List Char) (read : Read (α × List Char))
      (hread : Leaves rest 0 read) (part : α → Simple) :
      Leaves (c :: rest) used
        (read >>= fun result => readParts fuel (part result.1 :: done) result.2) := by
    refine (Leaves.bind hread ?_).behind hone
    intro a left _
    exact r.parts (part a :: done) left
  unfold readParts
  split
  case h_1 rest =>
    exact push '#' rest (readExactName rest)
      ((leaves_readExactName rest).mono (Nat.le_refl _) (by omega)) Simple.id
  case h_2 rest =>
    exact push '.' rest (readExactName rest)
      ((leaves_readExactName rest).mono (Nat.le_refl _) (by omega)) Simple.className
  case h_3 rest =>
    exact push '[' rest (readAttribute rest)
      ((leaves_readAttribute rest).mono (Nat.le_refl _) (by omega)) id
  case h_4 rest =>
    exact push ':' rest (readPseudo fuel rest)
      ((r.pseudo rest).mono (Nat.le_refl _) (by omega)) id
  case h_5 =>
    split
    · exact Leaves.stop (Nat.le_refl _)
    case isFalse hne =>
      rw [if_neg hne] at hused
      rw [← hused]
      exact Nat.le_refl _

theorem pseudo_succ (r : ReadsOn fuel) (cs : List Char) :
    Leaves cs 1 (readPseudo (fuel + 1) cs) := by
  unfold readPseudo
  split
  case h_1 rest =>
    refine (Leaves.bind (leaves_readLowerName rest) ?_).behind (by omega)
    intro name left _
    exact Nat.le_refl (left.length + 0)
  case h_2 =>
    refine Leaves.bind (leaves_readLowerName cs) ?_
    intro name left _
    dsimp only
    split
    · exact Nat.le_refl (left.length + 0)
    · split
      case h_1 inner _ =>
        split
        · refine (Leaves.bind (r.list true inner) ?_).behind (by omega)
          intro list rest _
          have htrim := length_trimLeft_le rest
          dsimp only
          split
          case h_1 after heq =>
            rw [heq, List.length_cons] at htrim
            show after.length + 0 ≤ rest.length
            omega
          · exact Leaves.stop htrim
        · exact (leaves_readRawArgument name inner).behind (by omega)
      case h_2 => exact Nat.le_refl (left.length + 0)

end ReadsOn

theorem readsOn : (fuel : Nat) → ReadsOn fuel
  | 0 => .zero
  | fuel + 1 =>
    have r := readsOn fuel
    { list := r.list_succ, complex := r.complex_succ, chain := r.chain_succ
      compound := r.compound_succ, parts := r.parts_succ, pseudo := r.pseudo_succ }

/-! ## Enough steps -/

/-- Two readings agree if their first steps do and what is done with the result does. -/
theorem bind_congr_ok {α β : Type} {x x' : Read α} {next next' : α → Read β} (hx : x = x')
    (hnext : ∀ a, x = .ok a → next a = next' a) : (x >>= next) = (x' >>= next') := by
  subst hx
  cases x with
  | error s => rfl
  | ok a => exact hnext a rfl

theorem Leaves.of_ok {α : Type} {used : Nat} {r : Read (α × List Char)} {a : α}
    (h : Leaves cs used r) (hr : r = .ok (a, rest)) : rest.length + used ≤ cs.length := by
  subst hr
  exact h

/-- The readers with two numbers of steps agree where the first is enough. -/
structure Settled (fuel more : Nat) : Prop where
  list : ∀ nested cs, 4 * cs.length + 4 ≤ fuel → readList fuel nested cs = readList more nested cs
  complex : ∀ nested cs, 4 * cs.length + 3 ≤ fuel →
    readComplex fuel nested cs = readComplex more nested cs
  chain : ∀ nested left cs, 4 * cs.length + 3 ≤ fuel →
    readChain fuel nested left cs = readChain more nested left cs
  compound : ∀ cs, 4 * cs.length + 2 ≤ fuel → readCompound fuel cs = readCompound more cs
  parts : ∀ done cs, 4 * cs.length + 1 ≤ fuel → readParts fuel done cs = readParts more done cs
  pseudo : ∀ cs, 4 * cs.length + 1 ≤ fuel → readPseudo fuel cs = readPseudo more cs

namespace Settled

variable {more : Nat}

theorem list_succ (h : Settled fuel more) (nested : Bool) (cs : List Char)
    (hsteps : 4 * cs.length + 4 ≤ fuel + 1) :
    readList (fuel + 1) nested cs = readList (more + 1) nested cs := by
  have htrim := length_trimLeft_le cs
  refine bind_congr_ok (h.complex nested (trimLeft cs) (by omega)) ?_
  rintro ⟨branch, rest⟩ hread
  have hrest := ((readsOn fuel).complex nested (trimLeft cs)).of_ok hread
  have htrim' := length_trimLeft_le rest
  dsimp only
  split
  case h_1 further heq =>
    rw [heq, List.length_cons] at htrim'
    exact bind_congr_ok (h.list nested further (by omega)) fun _ _ => rfl
  case h_2 => rfl

theorem complex_succ (h : Settled fuel more) (nested : Bool) (cs : List Char)
    (hsteps : 4 * cs.length + 3 ≤ fuel + 1) :
    readComplex (fuel + 1) nested cs = readComplex (more + 1) nested cs := by
  refine bind_congr_ok (h.compound cs (by omega)) ?_
  rintro ⟨parts, rest⟩ hread
  have hrest := ((readsOn fuel).compound cs).of_ok hread
  exact h.chain nested (.compound parts) rest (by omega)

theorem chain_succ (h : Settled fuel more) (nested : Bool) (left : Complex) (cs : List Char)
    (hsteps : 4 * cs.length + 3 ≤ fuel + 1) :
    readChain (fuel + 1) nested left cs = readChain (more + 1) nested left cs := by
  have htrim := length_trimLeft_le cs
  unfold readChain
  dsimp only
  split
  case h_1 => rfl
  case h_2 => rfl
  case h_3 how _ =>
    have hafter := length_afterCombinator how (trimLeft cs)
    refine bind_congr_ok (h.compound _ (by omega)) ?_
    rintro ⟨parts, rest⟩ hread
    have hrest := ((readsOn fuel).compound _).of_ok hread
    exact h.chain nested (.join left how parts) rest (by omega)

theorem compound_succ (h : Settled fuel more) (cs : List Char)
    (hsteps : 4 * cs.length + 2 ≤ fuel + 1) :
    readCompound (fuel + 1) cs = readCompound (more + 1) cs := by
  have hlength := length_spanName cs
  unfold readCompound
  split
  case h_1 rest =>
    rw [List.length_cons] at hsteps
    exact h.parts [.universal] rest (by omega)
  case h_2 =>
    split
    case h_1 => exact h.parts [] cs (by omega)
    case h_2 name rest _ heq =>
      rw [heq] at hlength
      dsimp only at hlength
      exact h.parts _ rest (by omega)

theorem parts_succ (h : Settled fuel more) (done : List Simple) (cs : List Char)
    (hsteps : 4 * cs.length + 1 ≤ fuel + 1) :
    readParts (fuel + 1) done cs = readParts (more + 1) done cs := by
  have push {α : Type} {rest : List Char} {read read' : Read (α × List Char)} (heq : read = read')
      (hread : Leaves rest 1 read) (hrest : 4 * rest.length + 4 ≤ fuel) (part : α → Simple) :
      (read >>= fun result => readParts fuel (part result.1 :: done) result.2) =
        read' >>= fun result => readParts more (part result.1 :: done) result.2 := by
    refine bind_congr_ok heq ?_
    rintro ⟨a, left⟩ hok
    have hleft := hread.of_ok hok
    exact h.parts (part a :: done) left (by omega)
  unfold readParts
  split
  case h_1 rest =>
    rw [List.length_cons] at hsteps
    exact push rfl (leaves_readExactName rest) (by omega) Simple.id
  case h_2 rest =>
    rw [List.length_cons] at hsteps
    exact push rfl (leaves_readExactName rest) (by omega) Simple.className
  case h_3 rest =>
    rw [List.length_cons] at hsteps
    exact push rfl (leaves_readAttribute rest) (by omega) id
  case h_4 rest =>
    rw [List.length_cons] at hsteps
    exact push (h.pseudo rest (by omega)) ((readsOn fuel).pseudo rest) (by omega) id
  case h_5 => rfl

theorem pseudo_succ (h : Settled fuel more) (cs : List Char)
    (hsteps : 4 * cs.length + 1 ≤ fuel + 1) :
    readPseudo (fuel + 1) cs = readPseudo (more + 1) cs := by
  unfold readPseudo
  split
  case h_1 => rfl
  case h_2 =>
    refine bind_congr_ok rfl ?_
    rintro ⟨name, left⟩ hread
    have hleft := (leaves_readLowerName cs).of_ok hread
    dsimp only
    split
    · rfl
    · split
      case h_1 inner =>
        rw [List.length_cons] at hleft
        split
        · exact bind_congr_ok (h.list true inner (by omega)) fun _ _ => rfl
        · rfl
      case h_2 => rfl

end Settled

theorem settled : {fuel more : Nat} → fuel ≤ more → Settled fuel more
  | 0, _, _ => by constructor <;> intros <;> omega
  | fuel + 1, more + 1, hmore =>
    have h : Settled fuel more := settled (Nat.le_of_succ_le_succ hmore)
    { list := h.list_succ, complex := h.complex_succ, chain := h.chain_succ
      compound := h.compound_succ, parts := h.parts_succ, pseudo := h.pseudo_succ }

/-- Reading a list does not notice that its steps are counted. -/
theorem readList_steps (nested : Bool) (cs : List Char) (h : readingBound cs ≤ fuel) :
    readList fuel nested cs = readList (readingBound cs) nested cs := by
  have hsteps : 4 * cs.length + 4 ≤ readingBound cs := by
    unfold readingBound
    omega
  exact ((settled h).list nested cs hsteps).symm

end Selector

end AccessAudit
