import AccessAudit.Proofs.Style.Cascade
import AccessAudit.Similarity.Ranking
import Mathlib.Algebra.Order.Ring.Int
import Mathlib.Data.List.Sort
import Mathlib.Data.Prod.Lex
import Mathlib.Data.String.Basic

/-!
# Rankings are canonical

Candidates are sorted by distance, then by similarity, the more similar first, then by name.
`Candidate.key` has the three in one, and tells any two candidates apart. So no two candidates of a
ranking are tied: a ranking is strictly increasing (`rank_increases`), and such a list is known by
its members. Hence it does not matter how often or in which order the known names came
(`rank_congr`).

The best candidate is as close as any known name, also of those that are too far away to be ranked:
they are further away than all that are.
-/

namespace AccessAudit.Similarity

namespace Candidate

/-- What candidates are sorted by. -/
def key (c : Candidate) : ℕ ×ₗ ℤ ×ₗ String :=
  toLex (c.distance, toLex (-(c.millionths : ℤ), c.name))

variable {a b : Candidate}

theorem key_le_iff : a.key ≤ b.key ↔ a.distance < b.distance ∨ a.distance = b.distance ∧
    (b.millionths < a.millionths ∨ a.millionths = b.millionths ∧ a.name ≤ b.name) := by
  simp only [key, Prod.Lex.toLex_le_toLex, neg_lt_neg_iff, neg_inj, Nat.cast_lt, Nat.cast_inj]

theorem le_iff_key_le : a.le b = true ↔ a.key ≤ b.key := by
  rw [key_le_iff]
  unfold le
  by_cases hdistance : a.distance = b.distance
  · by_cases hmillionths : a.millionths = b.millionths
    · simp only [hdistance, hmillionths, bne_self_eq_false, Bool.false_eq_true, if_false,
        decide_eq_true_eq, Nat.lt_irrefl, false_or, true_and]
    · have hne : (a.millionths != b.millionths) = true := bne_iff_ne.mpr hmillionths
      simp only [hdistance, hne, hmillionths, bne_self_eq_false, Bool.false_eq_true, if_false,
        if_true, decide_eq_true_eq, Nat.lt_irrefl, false_or, true_and, false_and, or_false]
  · have hne : (a.distance != b.distance) = true := bne_iff_ne.mpr hdistance
    simp only [hne, hdistance, if_true, decide_eq_true_eq, false_and, or_false]

theorem key_injective : Function.Injective key := by
  intro a b h
  obtain ⟨hdistance, hmillionths, hname⟩ : a.distance = b.distance ∧
      -(a.millionths : ℤ) = -(b.millionths : ℤ) ∧ a.name = b.name := by
    simpa only [key, EmbeddingLike.apply_eq_iff_eq, Prod.mk.injEq] using h
  rw [neg_inj, Nat.cast_inj] at hmillionths
  cases a
  cases b
  simp_all

theorem le_trans (a b c : Candidate) (hab : a.le b = true) (hbc : b.le c = true) :
    a.le c = true := by
  rw [le_iff_key_le] at hab hbc ⊢
  exact hab.trans hbc

theorem le_total (a b : Candidate) : (a.le b || b.le a) = true := by
  rw [Bool.or_eq_true, le_iff_key_le, le_iff_key_le]
  exact LinearOrder.le_total a.key b.key

end Candidate

variable {missing : String} {names : List String} {maxDistance : Int}

/-! ## The members of a ranking -/

/-- A known name is ranked unless it is the unknown one or too far away. -/
def Ranked (missing : String) (names : List String) (maxDistance : Int) (name : String) : Prop :=
  name ∈ names ∧ name ≠ missing ∧ (distance missing name : Int) ≤ maxDistance

theorem mem_rank {c : Candidate} : c ∈ rank missing names maxDistance ↔
    Ranked missing names maxDistance c.name ∧ c = .ofName missing c.name := by
  unfold rank Ranked
  simp only [List.mem_mergeSort, List.mem_map, List.mem_filter, List.mem_eraseDups, bne_iff_ne,
    decide_eq_true_eq, and_assoc]
  constructor
  · rintro ⟨name, hname, hother, hnear, rfl⟩
    exact ⟨hname, hother, hnear, rfl⟩
  · rintro ⟨hname, hother, hnear, hc⟩
    exact ⟨c.name, hname, hother, hnear, hc.symm⟩

theorem nodup_rank (missing : String) (names : List String) (maxDistance : Int) :
    ((rank missing names maxDistance).map Candidate.name).Nodup := by
  unfold rank
  have hnames (known : List String) :
      (known.map (Candidate.ofName missing)).map Candidate.name = known := by
    rw [List.map_map]
    exact List.map_id known
  rw [((List.mergeSort_perm _ _).map _).nodup_iff, hnames]
  exact ((nodup_eraseDups names).filter _).filter _

theorem rank_increases (missing : String) (names : List String) (maxDistance : Int) :
    (rank missing names maxDistance).Pairwise fun a b => a.key < b.key := by
  have hsorted : (rank missing names maxDistance).Pairwise fun a b => a.le b = true :=
    List.pairwise_mergeSort Candidate.le_trans Candidate.le_total _
  have hdistinct : (rank missing names maxDistance).Pairwise (· ≠ ·) :=
    (nodup_rank missing names maxDistance).of_map
  refine List.Pairwise.imp₂ ?_ hsorted hdistinct
  intro a b hle hne
  exact lt_of_le_of_ne (Candidate.le_iff_key_le.mp hle) (Candidate.key_injective.ne hne)

/-- A ranking depends on the known names only through what they are. -/
theorem rank_congr {names' : List String} (h : ∀ name, name ∈ names' ↔ name ∈ names) :
    rank missing names' maxDistance = rank missing names maxDistance := by
  have : Std.Irrefl fun a b : Candidate => a.key < b.key := ⟨fun a => lt_irrefl a.key⟩
  have : Std.Antisymm fun a b : Candidate => a.key < b.key :=
    ⟨fun _ _ hab hba => absurd hab hba.asymm⟩
  refine (rank_increases ..).eq_of_mem_iff (rank_increases ..) ?_
  intro c
  rw [mem_rank, mem_rank, Ranked, Ranked, h]

/-! ## Suggestions -/

theorem takeLimit_initial {α : Type} (limit : Int) (items : List α) :
    takeLimit limit items <+: items := by
  unfold takeLimit
  split
  · exact ⟨_, List.take_append_drop _ items⟩
  · exact ⟨_, List.take_append_drop _ items⟩

theorem suggest_initial (missing : String) (names : List String) (maxDistance limit : Int) :
    suggest missing names maxDistance limit <+:
      (rank missing names maxDistance).map Candidate.name :=
  (takeLimit_initial limit _).map Candidate.name

theorem length_suggest (missing : String) (names : List String) (maxDistance : Int)
    (limit : ℕ) : (suggest missing names maxDistance limit).length =
      min limit (rank missing names maxDistance).length := by
  unfold suggest takeLimit
  simp

/-- The first candidate of a ranking is as close as any known name. -/
theorem distance_head_rank {first : Candidate} {rest : List Candidate}
    (h : rank missing names maxDistance = first :: rest) {name : String} (hname : name ∈ names)
    (hother : name ≠ missing) : distance missing first.name ≤ distance missing name := by
  have hfirst : first ∈ rank missing names maxDistance := h ▸ List.mem_cons_self
  obtain ⟨⟨-, -, hnear⟩, hmade⟩ := mem_rank.mp hfirst
  by_cases hrange : (distance missing name : Int) ≤ maxDistance
  · -- the name is ranked as well, and not before the first
    have hranked : Candidate.ofName missing name ∈ rank missing names maxDistance :=
      mem_rank.mpr ⟨⟨hname, hother, hrange⟩, rfl⟩
    rw [h] at hranked
    rcases List.mem_cons.mp hranked with heq | hrest
    · rw [← heq]
      exact Nat.le_refl _
    · have hincreases := h ▸ rank_increases missing names maxDistance
      have hlt := List.rel_of_pairwise_cons hincreases hrest
      rw [hmade] at hlt
      rcases Candidate.key_le_iff.mp hlt.le with hcloser | ⟨hsame, -⟩
      · exact Nat.le_of_lt hcloser
      · exact Nat.le_of_eq hsame
  · omega

/-- The first suggestion is the name of the first candidate. -/
theorem rank_eq_cons_of_suggest {limit : Int} {best : String}
    (h : (suggest missing names maxDistance limit).head? = some best) :
    ∃ first rest, rank missing names maxDistance = first :: rest ∧ first.name = best := by
  obtain ⟨others, hsuggest⟩ := List.head?_eq_some_iff.mp h
  obtain ⟨rest, hrank⟩ := suggest_initial missing names maxDistance limit
  rw [hsuggest, List.cons_append] at hrank
  obtain ⟨first, more, heq, hname, -⟩ := List.map_eq_cons_iff.mp hrank.symm
  exact ⟨first, more, heq, hname⟩

/-- **A ranking has each known name within the distance once, in strictly increasing order, and
depends on nothing else.** The suggestions are its first names, so that the first one is as close as
any known name. -/
theorem rank_canonical (missing : String) (names : List String) (maxDistance : Int) :
    (∀ c, c ∈ rank missing names maxDistance ↔
      Ranked missing names maxDistance c.name ∧ c = .ofName missing c.name) ∧
    ((rank missing names maxDistance).map Candidate.name).Nodup ∧
    ((rank missing names maxDistance).Pairwise fun a b => a.key < b.key) ∧
    (∀ names', (∀ name, name ∈ names' ↔ name ∈ names) →
      rank missing names' maxDistance = rank missing names maxDistance) ∧
    (∀ limit, suggest missing names maxDistance limit <+:
      (rank missing names maxDistance).map Candidate.name) ∧
    (∀ limit : ℕ, (suggest missing names maxDistance limit).length =
      min limit (rank missing names maxDistance).length) ∧
    ∀ limit best, (suggest missing names maxDistance limit).head? = some best →
      best ∈ names ∧ best ≠ missing ∧
        ∀ name ∈ names, name ≠ missing → distance missing best ≤ distance missing name := by
  refine ⟨fun c => mem_rank, nodup_rank .., rank_increases .., fun names' h => rank_congr h,
    suggest_initial missing names maxDistance, length_suggest missing names maxDistance, ?_⟩
  intro limit best h
  obtain ⟨first, rest, hrank, rfl⟩ := rank_eq_cons_of_suggest h
  have hfirst : first ∈ rank missing names maxDistance := hrank ▸ List.mem_cons_self
  obtain ⟨hknown, hother, -⟩ := (mem_rank.mp hfirst).1
  exact ⟨hknown, hother, fun name hname hne => distance_head_rank hrank hname hne⟩

/-- The only tab at distance one is suggested, and it does not matter that it is known twice. -/
theorem rank_canonical_tabs :
    rank "tab-3" ["tab-10", "tab-1", "tab-1"] 1 = rank "tab-3" ["tab-1", "tab-10"] 1 ∧
      (suggest "tab-3" ["tab-1", "tab-10"] 1 3).head? = some "tab-1" ∧
      distance "tab-3" "tab-1" ≤ distance "tab-3" "tab-10" := by
  obtain ⟨-, -, -, hcongr, -, -, hbest⟩ := rank_canonical "tab-3" ["tab-1", "tab-10"] 1
  have hhead : (suggest "tab-3" ["tab-1", "tab-10"] 1 3).head? = some "tab-1" := by
    have hnear : distance "tab-3" "tab-1" = 1 := by decide
    have hfar : distance "tab-3" "tab-10" = 2 := by decide
    have honce : ["tab-1", "tab-10"].eraseDups = ["tab-1", "tab-10"] := rfl
    simp [suggest, rank, honce, hnear, hfar, takeLimit, Candidate.ofName]
  refine ⟨hcongr _ ?_, hhead, (hbest 3 "tab-1" hhead).2.2 "tab-10" (by simp) (by decide)⟩
  intro name
  simp only [List.mem_cons, List.not_mem_nil, or_false]
  tauto

end AccessAudit.Similarity
