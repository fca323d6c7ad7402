import AccessAudit.Similarity.Distance
import Mathlib.Order.Bounds.Basic

/-!
# The edit distance is the least number of edits

An edit inserts, deletes or substitutes one item, anywhere in a list. The distance is computed from
a table, row by row, and says nothing of edits. Between the two stands the alignment: two lists laid
side by side, where an item is paired with one of the other list or with nothing. `Aligned n a b`
counts the places at which the two sides differ.

An alignment can be read as a sequence of as many edits (`Aligned.edits`). The other way round a
sequence of edits may touch one place several times, so it gives an alignment that costs no more:
a single edit is an alignment, and alignments of `a` with `b` and of `b` with `c` compose
(`Aligned.trans`). Hence the two have the same least count.

The table holds the least costs of alignments (`Row`). What the last items of two lists are paired
with decides a cell from its three neighbours (`cost_corner`). The table is filled from the first
items on while an alignment is built from its first place on, so the heads of the two lists are
kept in reverse; turning both lists round changes no cost.
-/

namespace AccessAudit.Similarity

/-! ## Edits -/

section Edits

variable {α : Type}

/-- A list comes of another by one edit. -/
inductive Edit : List α → List α → Prop
  | insert (front back : List α) (c : α) : Edit (front ++ back) (front ++ c :: back)
  | delete (front back : List α) (c : α) : Edit (front ++ c :: back) (front ++ back)
  | substitute (front back : List α) (c d : α) : Edit (front ++ c :: back) (front ++ d :: back)

/-- A list comes of another by so many edits, one after the other. -/
inductive Edits : Nat → List α → List α → Prop
  | refl (a : List α) : Edits 0 a a
  | step {n : Nat} {a b c : List α} : Edit a b → Edits n b c → Edits (n + 1) a c

variable {n : Nat} {a b : List α}

theorem Edit.cons (c : α) (h : Edit a b) : Edit (c :: a) (c :: b) := by
  cases h with
  | insert front back d => exact .insert (c :: front) back d
  | delete front back d => exact .delete (c :: front) back d
  | substitute front back d e => exact .substitute (c :: front) back d e

theorem Edits.cons (c : α) (h : Edits n a b) : Edits n (c :: a) (c :: b) := by
  induction h with
  | refl a => exact .refl (c :: a)
  | step first _ ih => exact .step (first.cons c) ih

end Edits

variable {α : Type} [BEq α]

/-! ## Alignments -/

/-- What it costs to pair two items. -/
def mismatch (c d : α) : Nat := if c == d then 0 else 1

/-- Two lists laid side by side differ at so many places. -/
inductive Aligned : Nat → List α → List α → Prop
  | nil : Aligned 0 [] []
  | pair {n : Nat} {a b : List α} (c d : α) :
      Aligned n a b → Aligned (n + mismatch c d) (c :: a) (d :: b)
  | drop {n : Nat} {a b : List α} (c : α) : Aligned n a b → Aligned (n + 1) (c :: a) b
  | add {n : Nat} {a b : List α} (d : α) : Aligned n a b → Aligned (n + 1) a (d :: b)

variable {k m n : Nat} {a b c : List α} {x y z : α}

theorem mismatch_le_one (x y : α) : mismatch x y ≤ 1 := by
  unfold mismatch
  split <;> omega

theorem Aligned.append {a' b' : List α} (h : Aligned m a b) (h' : Aligned n a' b') :
    Aligned (m + n) (a ++ a') (b ++ b') := by
  induction h with
  | nil => simpa using h'
  | @pair m a b x y _ ih =>
    rw [Nat.add_right_comm]
    exact ih.pair x y
  | @drop m a b x _ ih =>
    rw [Nat.add_right_comm]
    exact ih.drop x
  | @add m a b y _ ih =>
    rw [Nat.add_right_comm]
    exact ih.add y

theorem Aligned.reverse (h : Aligned n a b) : Aligned n a.reverse b.reverse := by
  induction h with
  | nil => exact .nil
  | @pair n a b x y _ ih =>
    rw [List.reverse_cons, List.reverse_cons]
    have hlast : Aligned (mismatch x y) [x] [y] := by simpa using Aligned.nil.pair x y
    exact ih.append hlast
  | @drop n a b x _ ih =>
    rw [List.reverse_cons]
    simpa using ih.append (Aligned.nil.drop x)
  | @add n a b y _ ih =>
    rw [List.reverse_cons]
    simpa using ih.append (Aligned.nil.add y)

theorem Aligned.prepend (added : List α) (h : Aligned n a b) :
    Aligned (n + added.length) a (added ++ b) := by
  induction added with
  | nil => exact h
  | cons y added ih => exact ih.add y

theorem Aligned.drop_all : (a : List α) → Aligned a.length a []
  | [] => .nil
  | x :: a => (Aligned.drop_all a).drop x

theorem Aligned.add_all : (b : List α) → Aligned b.length [] b
  | [] => .nil
  | y :: b => (Aligned.add_all b).add y

theorem Aligned.length_le (h : Aligned n a b) :
    a.length ≤ b.length + n ∧ b.length ≤ a.length + n := by
  induction h with
  | nil => simp
  | pair x y _ ih =>
    simp only [List.length_cons]
    omega
  | drop x _ ih =>
    simp only [List.length_cons]
    omega
  | add y _ ih =>
    simp only [List.length_cons]
    omega

/-- Pairing the items from the first on costs no more than the longer list is long. -/
theorem exists_aligned_le_max : (a b : List α) → ∃ n ≤ max a.length b.length, Aligned n a b
  | [], b => ⟨b.length, by simp, .add_all b⟩
  | a, [] => ⟨a.length, by simp, .drop_all a⟩
  | x :: a, y :: b => by
    obtain ⟨n, hn, h⟩ := exists_aligned_le_max a b
    have := mismatch_le_one x y
    refine ⟨n + mismatch x y, ?_, h.pair x y⟩
    simp only [List.length_cons]
    omega

/-- In an alignment, the first item on the left is paired or dropped after some items were
added. -/
theorem Aligned.uncons (h : Aligned n (x :: a) c) :
    (∃ added y rest m, c = added ++ y :: rest ∧ n = m + mismatch x y + added.length ∧
        Aligned m a rest) ∨
      ∃ added rest m, c = added ++ rest ∧ n = m + 1 + added.length ∧ Aligned m a rest := by
  generalize hleft : x :: a = left at h
  induction h with
  | nil => cases hleft
  | @pair m a' b x' y h _ =>
    cases hleft
    exact .inl ⟨[], y, b, m, rfl, rfl, h⟩
  | @drop m a' b x' h _ =>
    cases hleft
    exact .inr ⟨[], b, m, rfl, rfl, h⟩
  | @add m a' b z _ ih =>
    rcases ih hleft with ⟨added, y, rest, m, rfl, rfl, h⟩ | ⟨added, rest, m, rfl, rfl, h⟩
    · exact .inl ⟨z :: added, y, rest, m, rfl, by simp only [List.length_cons]; omega, h⟩
    · exact .inr ⟨z :: added, rest, m, rfl, by simp only [List.length_cons]; omega, h⟩

section Lawful

variable [LawfulBEq α]

theorem mismatch_self (x : α) : mismatch x x = 0 := by simp [mismatch]

theorem mismatch_of_ne (h : x ≠ y) : mismatch x y = 1 := by simp [mismatch, h]

theorem mismatch_comm (x y : α) : mismatch x y = mismatch y x := by
  by_cases h : x = y
  · rw [h]
  · rw [mismatch_of_ne h, mismatch_of_ne (Ne.symm h)]

theorem mismatch_triangle (x y z : α) : mismatch x z ≤ mismatch x y + mismatch y z := by
  by_cases h : x = y
  · rw [h]
    omega
  · rw [mismatch_of_ne h]
    have := mismatch_le_one x z
    omega

theorem Aligned.refl : (a : List α) → Aligned 0 a a
  | [] => .nil
  | x :: a => by simpa [mismatch_self] using (Aligned.refl a).pair x x

theorem Aligned.symm (h : Aligned n a b) : Aligned n b a := by
  induction h with
  | nil => exact .nil
  | pair x y _ ih =>
    rw [mismatch_comm]
    exact ih.pair y x
  | drop x _ ih => exact ih.add x
  | add y _ ih => exact ih.drop y

theorem Aligned.eq_of_zero (h : Aligned 0 a b) : a = b := by
  generalize hzero : 0 = n at h
  induction h with
  | nil => rfl
  | @pair n a b x y _ ih =>
    by_cases hxy : x = y
    · rw [hxy, ih (by omega)]
    · rw [mismatch_of_ne hxy] at hzero
      omega
  | drop x _ _ => omega
  | add y _ _ => omega

/-- Alignments compose, and the costs add up at most. What stands in the middle may have been
paired on both sides, on one or on none. -/
theorem Aligned.trans (h : Aligned m a b) (h' : Aligned n b c) :
    ∃ k ≤ m + n, Aligned k a c := by
  induction h generalizing n c with
  | nil => exact ⟨n, by omega, h'⟩
  | @pair m a b x y _ ih =>
    rcases h'.uncons with ⟨added, z, rest, j, rfl, rfl, hrest⟩ | ⟨added, rest, j, rfl, rfl, hrest⟩
    · obtain ⟨k, hk, h⟩ := ih hrest
      have := mismatch_triangle x y z
      exact ⟨k + mismatch x z + added.length, by omega, (h.pair x z).prepend added⟩
    · obtain ⟨k, hk, h⟩ := ih hrest
      exact ⟨k + 1 + added.length, by omega, (h.drop x).prepend added⟩
  | @drop m a b x _ ih =>
    obtain ⟨k, hk, h⟩ := ih h'
    exact ⟨k + 1, by omega, h.drop x⟩
  | @add m a b y _ ih =>
    rcases h'.uncons with ⟨added, z, rest, j, rfl, rfl, hrest⟩ | ⟨added, rest, j, rfl, rfl, hrest⟩
    · obtain ⟨k, hk, h⟩ := ih hrest
      exact ⟨k + 1 + added.length, by omega, (h.add z).prepend added⟩
    · obtain ⟨k, hk, h⟩ := ih hrest
      exact ⟨k + added.length, by omega, h.prepend added⟩

/-! ## Alignments and edits -/

theorem Aligned.edits (h : Aligned n a b) : Edits n a b := by
  induction h with
  | nil => exact .refl []
  | @pair n a b x y _ ih =>
    by_cases hxy : x = y
    · rw [hxy, mismatch_self]
      exact ih.cons y
    · rw [mismatch_of_ne hxy]
      exact .step (.substitute [] a x y) (ih.cons y)
  | @drop n a b x _ ih => exact .step (.delete [] a x) ih
  | @add n a b y _ ih => exact .step (.insert [] a y) (ih.cons y)

theorem Edit.aligned (h : Edit a b) : ∃ n ≤ 1, Aligned n a b := by
  have hfront (front : List α) {n : Nat} {a b : List α} (h : Aligned n a b) :
      Aligned n (front ++ a) (front ++ b) := by
    simpa using (Aligned.refl front).append h
  cases h with
  | insert front back y => exact ⟨1, by omega, hfront front ((Aligned.refl back).add y)⟩
  | delete front back x => exact ⟨1, by omega, hfront front ((Aligned.refl back).drop x)⟩
  | substitute front back x y =>
    have := mismatch_le_one x y
    exact ⟨0 + mismatch x y, by omega, hfront front ((Aligned.refl back).pair x y)⟩

theorem Edits.aligned (h : Edits n a b) : ∃ m ≤ n, Aligned m a b := by
  induction h with
  | refl a => exact ⟨0, by omega, .refl a⟩
  | step first _ ih =>
    obtain ⟨i, hi, hfirst⟩ := first.aligned
    obtain ⟨j, hj, hrest⟩ := ih
    obtain ⟨k, hk, h⟩ := hfirst.trans hrest
    exact ⟨k, by omega, h⟩

end Lawful

/-! ## Least costs -/

/-- The least cost of an alignment. -/
def Cost (a b : List α) (n : Nat) : Prop := IsLeast {m | Aligned m a b} n

theorem Cost.reverse (h : Cost a b n) : Cost a.reverse b.reverse n := by
  refine ⟨h.1.reverse, ?_⟩
  intro m hm
  have hback := Aligned.reverse hm
  rw [List.reverse_reverse, List.reverse_reverse] at hback
  exact h.2 hback

theorem Cost.unique (h : Cost a b m) (h' : Cost a b n) : m = n := IsLeast.unique h h'

theorem cost_nil_right (a : List α) : Cost a [] a.length := by
  refine ⟨.drop_all a, ?_⟩
  intro m hm
  simpa using hm.length_le.1

theorem cost_nil_left (b : List α) : Cost [] b b.length := by
  refine ⟨.add_all b, ?_⟩
  intro m hm
  simpa using hm.length_le.2

/-- A cell from the three before it: above, to the left, and above that one. -/
theorem cost_corner {up left diagonal : Nat} (hup : Cost a (y :: b) up)
    (hleft : Cost (x :: a) b left) (hdiagonal : Cost a b diagonal) :
    Cost (x :: a) (y :: b) (min (min (up + 1) (left + 1)) (diagonal + mismatch x y)) := by
  constructor
  · -- one of the three is the least, and its alignment goes on with the last place
    rcases Nat.le_total (min (up + 1) (left + 1)) (diagonal + mismatch x y) with hle | hle
    · rw [Nat.min_eq_left hle]
      rcases Nat.le_total (up + 1) (left + 1) with hle' | hle'
      · rw [Nat.min_eq_left hle']
        exact hup.1.drop x
      · rw [Nat.min_eq_right hle']
        exact hleft.1.add y
    · rw [Nat.min_eq_right hle]
      exact hdiagonal.1.pair x y
  · intro m hm
    cases hm with
    | @pair m _ _ _ _ h =>
      have := hdiagonal.2 h
      omega
    | @drop m _ _ _ h =>
      have := hup.2 h
      omega
    | @add m _ _ _ h =>
      have := hleft.2 h
      omega

/-! ## The table -/

/-- The cells of a row from a place on: the least costs for `a` and the heads of the other list,
which has `done` before that place, in reverse, and `rest` after it. -/
inductive Row (a : List α) : List α → List α → List Nat → Prop
  | last {done : List α} {n : Nat} : Cost a done n → Row a done [] [n]
  | cell {done rest : List α} {n : Nat} {cells : List Nat} (y : α) :
      Cost a done n → Row a (y :: done) rest cells → Row a done (y :: rest) (n :: cells)

variable {done rest : List α} {cells : List Nat}

theorem Row.cost_head (h : Row a done rest cells) :
    ∃ n more, cells = n :: more ∧ Cost a done n := by
  cases h with
  | last hn => exact ⟨_, _, rfl, hn⟩
  | cell y hn _ => exact ⟨_, _, rfl, hn⟩

theorem Row.cost_last (h : Row a done rest cells) :
    Cost a (rest.reverse ++ done) (cells.getLastD 0) := by
  induction h with
  | last hn => exact hn
  | @cell done rest n cells y _ hrest ih =>
    obtain ⟨next, more, rfl, -⟩ := hrest.cost_head
    simpa using ih

theorem row_range (rest done : List α) :
    Row [] done rest (List.range' done.length (rest.length + 1)) := by
  induction rest generalizing done with
  | nil => exact .last (cost_nil_left done)
  | cons y rest ih => exact .cell y (cost_nil_left done) (ih (y :: done))

theorem row_firstRow (b : List α) : Row [] [] b (firstRow b) := by
  rw [firstRow, List.range_eq_range']
  exact row_range b []

theorem row_rowFrom {left : Nat} (hleft : Cost (x :: a) done left)
    (habove : Row a done rest cells) :
    Row (x :: a) done rest (left :: rowFrom x left rest cells) := by
  induction habove generalizing left with
  | last _ => exact .last hleft
  | @cell done rest diagonal cells y hdiagonal hmore ih =>
    obtain ⟨up, above, rfl, hup⟩ := hmore.cost_head
    exact .cell y hleft (ih (cost_corner hup hleft hdiagonal))

theorem row_nextRow (h : Row a [] b cells) : Row (x :: a) [] b (nextRow b cells x) := by
  obtain ⟨n, more, rfl, hn⟩ := h.cost_head
  have hfirst : Cost (x :: a) [] (n + 1) := by
    rw [hn.unique (cost_nil_right a)]
    exact cost_nil_right (x :: a)
  exact row_rowFrom hfirst h

theorem row_foldl (items : List α) (h : Row a [] b cells) :
    Row (items.reverse ++ a) [] b (items.foldl (nextRow b) cells) := by
  induction items generalizing a cells with
  | nil => exact h
  | cons x items ih => simpa using ih (row_nextRow h)

theorem cost_tableDistance (a b : List α) : Cost a b (tableDistance a b) := by
  have hrow : Row a.reverse [] b (a.foldl (nextRow b) (firstRow b)) := by
    simpa using row_foldl a (row_firstRow b)
  have hlast := hrow.cost_last.reverse
  rw [List.append_nil, List.reverse_reverse, List.reverse_reverse] at hlast
  exact hlast

theorem cost_distanceToShorter (long short : List α) :
    Cost long short (distanceToShorter long short) := by
  unfold distanceToShorter
  split
  · rename_i hempty
    rw [List.isEmpty_iff.mp hempty]
    exact cost_nil_right long
  · exact cost_tableDistance long short

/-! ## The distance -/

variable [LawfulBEq α]

theorem Cost.symm (h : Cost a b n) : Cost b a n := by
  refine ⟨h.1.symm, ?_⟩
  intro m hm
  exact h.2 hm.symm

theorem cost_listDistance (a b : List α) : Cost a b (listDistance a b) := by
  unfold listDistance
  split
  · rename_i heq
    rw [eq_of_beq heq]
    exact ⟨.refl b, fun m _ => Nat.zero_le m⟩
  · split
    · exact (cost_distanceToShorter b a).symm
    · exact cost_distanceToShorter a b

theorem Cost.isLeast_edits (h : Cost a b n) : IsLeast {m | Edits m a b} n := by
  refine ⟨h.1.edits, ?_⟩
  intro m hm
  obtain ⟨k, hk, haligned⟩ := Edits.aligned hm
  exact Nat.le_trans (h.2 haligned) hk

theorem Cost.eq_zero_iff (h : Cost a b n) : n = 0 ↔ a = b := by
  constructor
  · rintro rfl
    exact h.1.eq_of_zero
  · rintro rfl
    exact Nat.le_zero.mp (h.2 (.refl a))

theorem Cost.triangle (hab : Cost a b m) (hbc : Cost b c n) (hac : Cost a c k) : k ≤ m + n := by
  obtain ⟨j, hj, h⟩ := hab.1.trans hbc.1
  exact Nat.le_trans (hac.2 h) hj

omit [LawfulBEq α] in
theorem Cost.le_max (h : Cost a b n) : n ≤ max a.length b.length := by
  obtain ⟨m, hm, haligned⟩ := exists_aligned_le_max a b
  exact Nat.le_trans (h.2 haligned) hm

/-- **The distance of two texts is the least number of edits that turn the one into the other.** So
it is a metric, and lies between the difference of the two lengths and the greater of them. -/
theorem distance_least_edits (a b : String) :
    IsLeast {n | Edits n a.toList b.toList} (distance a b) ∧
      distance b a = distance a b ∧
      (distance a b = 0 ↔ a = b) ∧
      (∀ c, distance a c ≤ distance a b + distance b c) ∧
      ((a.length : Int) - b.length).natAbs ≤ distance a b ∧
      distance a b ≤ max a.length b.length := by
  have hcost (a b : String) : Cost a.toList b.toList (distance a b) := cost_listDistance _ _
  have hab := hcost a b
  refine ⟨hab.isLeast_edits, (hcost b a).unique hab.symm, ?_, ?_, ?_, ?_⟩
  · rw [hab.eq_zero_iff, String.toList_inj]
  · intro c
    exact hab.triangle (hcost b c) (hcost a c)
  · have hlengths := hab.1.length_le
    simp only [String.length_toList] at hlengths
    omega
  · simpa only [String.length_toList] using hab.le_max

end AccessAudit.Similarity
