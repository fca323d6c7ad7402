import AccessAudit.Number.Scale
import Mathlib.Algebra.Order.Field.Power
import Mathlib.Algebra.Order.Field.Rat
import Mathlib.Algebra.Order.Ring.Abs
import Mathlib.Data.Rat.Lemmas
import Mathlib.Tactic.FieldSimp
import Mathlib.Tactic.Linarith
import Mathlib.Tactic.Positivity
import Mathlib.Tactic.Ring

/-!
# Scores in exact numbers

Rational numbers are a `Scale`: the operations are exact, and rounding goes to the nearest number of
ten decimals, to the even one of two. `IsNearest` says what such a number is; that it is unique and
grows with the number rounded is proved of it, not of the division that finds it.

A finite double has a rational value, and doubles are ordered as their values are (`value_mono`).
-/

namespace AccessAudit.Number

/-! ## The nearest whole number -/

/-- The whole number nearest to `q`, which is even where two are. -/
structure IsNearest (k : ℤ) (q : ℚ) : Prop where
  close : |q - k| ≤ 1 / 2
  even : |q - k| = 1 / 2 → Even k

namespace IsNearest

variable {j k : ℤ} {p q : ℚ}

theorem intCast (k : ℤ) : IsNearest k k := by
  refine ⟨?_, ?_⟩ <;> simp

theorem of_lt (h : |q - k| < 1 / 2) : IsNearest k q :=
  ⟨h.le, fun htie => absurd htie h.ne⟩

theorem neg (h : IsNearest k q) : IsNearest (-k) (-q) := by
  have habs : |(-q) - ((-k : ℤ) : ℚ)| = |q - k| := by
    rw [Int.cast_neg, neg_sub_neg, abs_sub_comm]
  refine ⟨habs ▸ h.close, ?_⟩
  intro htie
  exact (h.even (habs ▸ htie)).neg

-- Were `j` the greater, both numbers would lie half way from `k` to `k + 1`, and of these two
-- only one is even.
theorem mono (hj : IsNearest j p) (hk : IsNearest k q) (hle : p ≤ q) : j ≤ k := by
  by_contra hlt
  have hnext : (k : ℚ) + 1 ≤ j := by exact_mod_cast not_le.mp hlt
  have hp := abs_le.mp hj.close
  have hq := abs_le.mp hk.close
  have hjk : (j : ℚ) = k + 1 := by linarith
  have hjtie : |p - j| = 1 / 2 := by
    rw [abs_of_nonpos] <;> linarith
  have hktie : |q - k| = 1 / 2 := by
    rw [abs_of_nonneg] <;> linarith
  have hj' : j = k + 1 := by exact_mod_cast hjk
  have hodd : ¬ Even (k + 1) := by
    rw [Int.even_add_one, not_not]
    exact hk.even hktie
  exact hodd (hj' ▸ hj.even hjtie)

theorem unique (hj : IsNearest j q) (hk : IsNearest k q) : j = k :=
  le_antisymm (hj.mono hk le_rfl) (hk.mono hj le_rfl)

end IsNearest

/-! ## Rounding a quotient -/

section Quotient

variable {den rest : Nat}

theorem div_eq_whole_add (num : Nat) (hden : 0 < den) :
    (num : ℚ) / den = (num / den : Nat) + (num % den : Nat) / (den : ℚ) := by
  have hpos : (0 : ℚ) < den := by exact_mod_cast hden
  have hsum : (den : ℚ) * (num / den : Nat) + (num % den : Nat) = num := by
    exact_mod_cast Nat.div_add_mod num den
  field_simp
  linarith

theorem div_lt_half (hden : 0 < den) (h : 2 * rest < den) : (rest : ℚ) / den < 1 / 2 := by
  have hpos : (0 : ℚ) < den := by exact_mod_cast hden
  have hlt : (2 : ℚ) * rest < den := by exact_mod_cast h
  rw [div_lt_iff₀ hpos]
  linarith

theorem half_lt_div (hden : 0 < den) (h : den < 2 * rest) : 1 / 2 < (rest : ℚ) / den := by
  have hpos : (0 : ℚ) < den := by exact_mod_cast hden
  have hlt : (den : ℚ) < 2 * rest := by exact_mod_cast h
  rw [lt_div_iff₀ hpos]
  linarith

theorem div_eq_half (hden : 0 < den) (h : 2 * rest = den) : (rest : ℚ) / den = 1 / 2 := by
  have hpos : (0 : ℚ) < den := by exact_mod_cast hden
  have heq : (2 : ℚ) * rest = den := by exact_mod_cast h
  rw [div_eq_iff hpos.ne']
  linarith

/-- Half way between two whole numbers, the even one is the nearest. -/
theorem isNearest_half (whole : Nat) :
    IsNearest (if whole % 2 == 0 then whole else whole + 1 : Nat) (whole + 1 / 2) := by
  by_cases heven : whole % 2 = 0
  · rw [if_pos (by simpa using heven)]
    refine ⟨?_, ?_⟩
    · rw [abs_of_nonneg] <;> push_cast <;> linarith
    · intro _
      exact_mod_cast Nat.even_iff.mpr heven
  · rw [if_neg (by simpa using heven)]
    refine ⟨?_, ?_⟩
    · rw [abs_of_nonpos] <;> push_cast <;> linarith
    · intro _
      have hnext : Even (whole + 1) := by
        rw [Nat.even_iff]
        omega
      exact_mod_cast hnext

theorem isNearest_roundDiv (num : Nat) (hden : 0 < den) :
    IsNearest (roundDiv num den) (num / den) := by
  have hlow : (0 : ℚ) ≤ (num % den : Nat) / (den : ℚ) := by positivity
  have hhigh : ((num % den : Nat) : ℚ) / den < 1 := by
    rw [div_lt_one (by exact_mod_cast hden)]
    exact_mod_cast Nat.mod_lt num hden
  unfold roundDiv
  rw [div_eq_whole_add num hden]
  dsimp only
  generalize num / den = whole
  by_cases hdown : 2 * (num % den) < den
  · rw [if_pos hdown]
    have hrest := div_lt_half hden hdown
    refine IsNearest.of_lt ?_
    rw [abs_of_nonneg] <;> push_cast <;> linarith
  · by_cases hup : den < 2 * (num % den)
    · rw [if_neg hdown, if_pos hup]
      have hrest := half_lt_div hden hup
      refine IsNearest.of_lt ?_
      rw [abs_of_nonpos] <;> push_cast <;> linarith
    · rw [if_neg hdown, if_neg hup, div_eq_half hden (by omega)]
      exact isNearest_half whole

end Quotient

/-! ## Rounding to decimals -/

/-- How many units of the last of `places` decimal places come nearest to a number. -/
def units (places : Nat) (q : ℚ) : ℤ :=
  q.num.sign * roundDiv (q.num.natAbs * 10 ^ places) q.den

/-- A number rounded to `places` decimal places. -/
def nearest (places : Nat) (q : ℚ) : ℚ := units places q / 10 ^ places

theorem isNearest_units (places : Nat) (q : ℚ) : IsNearest (units places q) (q * 10 ^ places) := by
  have hmagnitude := isNearest_roundDiv (q.num.natAbs * 10 ^ places) q.den_pos
  have hvalue : ((q.num.natAbs * 10 ^ places : Nat) : ℚ) / q.den = |q| * 10 ^ places := by
    rw [Rat.abs_def, Nat.cast_mul, mul_div_right_comm, Rat.divInt_eq_div]
    push_cast
    rw [Nat.cast_natAbs, Int.cast_abs]
  rw [hvalue] at hmagnitude
  unfold units
  rcases lt_trichotomy q 0 with hneg | rfl | hpos
  · rw [Int.sign_eq_neg_one_of_neg (Rat.num_neg.mpr hneg), neg_one_mul]
    rw [abs_of_neg hneg] at hmagnitude
    simpa using hmagnitude.neg
  · simpa using IsNearest.intCast 0
  · rw [Int.sign_eq_one_of_pos (Rat.num_pos.mpr hpos), one_mul]
    rwa [abs_of_pos hpos] at hmagnitude

theorem nearest_mono (places : Nat) {p q : ℚ} (h : p ≤ q) :
    nearest places p ≤ nearest places q := by
  have hpow : (0 : ℚ) < 10 ^ places := by positivity
  have hunits : units places p ≤ units places q :=
    (isNearest_units places p).mono (isNearest_units places q)
      (mul_le_mul_of_nonneg_right h hpow.le)
  exact div_le_div_of_nonneg_right (by exact_mod_cast hunits) hpow.le

theorem nearest_intCast (places : Nat) (n : ℤ) : nearest places n = n := by
  have hpow : (0 : ℚ) < 10 ^ places := by positivity
  have hwhole : IsNearest (n * 10 ^ places) (n * 10 ^ places) := by
    exact_mod_cast IsNearest.intCast (n * 10 ^ places)
  have hunits : units places n = n * 10 ^ places := (isNearest_units places n).unique hwhole
  rw [nearest, hunits, div_eq_iff hpow.ne']
  push_cast
  rfl

/-! ## The value of a double -/

/-- Whether an exact form stands for a number. -/
def Exact.isFinite : Exact → Bool
  | .finite .. => true
  | _ => false

/-- The number that an exact form stands for. -/
def Exact.value : Exact → ℚ
  | .finite negative significand exponent =>
    (if negative then -1 else 1) * (significand * 2 ^ exponent)
  | _ => 0

/-- The number that a finite double is. -/
def value (x : Float) : ℚ := (exact x).value

/-! ## The order of doubles -/

open Float.Model (UnpackedFloat)
open Float.Model.UnpackedFloat (Sign)

/-- What an unpacked double stands for. -/
def Exact.ofUnpacked : UnpackedFloat → Exact
  | .notANumber => .undefined
  | .infinity sign => .infinite (sign == .negative)
  | .zero sign => .finite (sign == .negative) 0 (-1074)
  | .finite sign mantissa exponent _ => .finite (sign == .negative) mantissa exponent

theorem ofUnpacked_finite (sign : Sign) {mantissa : Nat} (exponent : Int) (h : 0 < mantissa) :
    Exact.ofUnpacked (.finite sign mantissa exponent h) =
      .finite (sign == .negative) mantissa exponent := rfl

theorem toNat_unpackMantissa (b : BitVec Float.Model.Format.binary64.numBits) :
    (UnpackedFloat.unpackMantissa b).toNat = b.toNat % 2 ^ 52 :=
  BitVec.extractLsb_toNat 51 0 b

theorem toNat_unpackExponent (b : BitVec Float.Model.Format.binary64.numBits) :
    (UnpackedFloat.unpackExponent b).toNat = b.toNat / 2 ^ 52 % 2 ^ 11 := by
  rw [← Nat.shiftRight_eq_div_pow]
  exact BitVec.extractLsb_toNat 62 52 b

theorem toNat_unpackSign (b : BitVec Float.Model.Format.binary64.numBits) :
    (UnpackedFloat.unpackSign b).toNat = b.toNat / 2 ^ 63 := by
  have hlt : b.toNat < 2 ^ 64 := b.isLt
  have hbit : (UnpackedFloat.unpackSign b).toNat = (b.toNat >>> 63) % 2 ^ 1 :=
    BitVec.extractLsb_toNat 63 63 b
  rw [hbit, Nat.shiftRight_eq_div_pow]
  omega

theorem ofBitVec_unpackSign (b : BitVec Float.Model.Format.binary64.numBits) :
    (Sign.ofBitVec (UnpackedFloat.unpackSign b) == .negative) = (b.toNat / 2 ^ 63 == 1) := by
  rw [← toNat_unpackSign]
  obtain hzero | hone := (UnpackedFloat.unpackSign b).eq_zero_or_eq_one
  · rw [hzero]
    rfl
  · rw [hone]
    rfl

theorem toNat_one_append (b : BitVec Float.Model.Format.binary64.numBits) :
    (1#1 ++ UnpackedFloat.unpackMantissa b).toNat = b.toNat % 2 ^ 52 + 2 ^ 52 := by
  rw [BitVec.toNat_append, ← Nat.shiftLeft_add_eq_or_of_lt (UnpackedFloat.unpackMantissa b).isLt,
    toNat_unpackMantissa]
  exact Nat.add_comm ..

/-- What sixty-four bits stand for. -/
def Exact.ofBits (bits : Nat) : Exact :=
  if bits / 2 ^ 52 % 2 ^ 11 = 2047 then
    if bits % 2 ^ 52 = 0 then .infinite (bits / 2 ^ 63 == 1) else .undefined
  else if bits / 2 ^ 52 % 2 ^ 11 = 0 then
    .finite (bits / 2 ^ 63 == 1) (bits % 2 ^ 52) (-1074)
  else
    .finite (bits / 2 ^ 63 == 1) (bits % 2 ^ 52 + 2 ^ 52)
      ((bits / 2 ^ 52 % 2 ^ 11 : Nat) - 1075)

theorem exact_eq_ofBits (x : Float) : exact x = Exact.ofBits x.toBits.toNat := by
  unfold exact Exact.ofBits
  simp only [Nat.pow_eq, beq_iff_eq]

theorem ofUnpacked_unpack (b : BitVec Float.Model.Format.binary64.numBits) :
    Exact.ofUnpacked (UnpackedFloat.unpack .binary64 b) = Exact.ofBits b.toNat := by
  have hexponent := toNat_unpackExponent b
  have hmantissa := toNat_unpackMantissa b
  have hsign := ofBitVec_unpackSign b
  unfold UnpackedFloat.unpack Exact.ofBits
  rw [← hexponent, ← hmantissa, ← hsign]
  have hall : UnpackedFloat.unpackExponent b = -1#11 ↔
      (UnpackedFloat.unpackExponent b).toNat = 2047 := BitVec.toNat_inj.symm
  have hnone : UnpackedFloat.unpackExponent b = 0#11 ↔
      (UnpackedFloat.unpackExponent b).toNat = 0 := BitVec.toNat_inj.symm
  have hclear : UnpackedFloat.unpackMantissa b = 0#52 ↔
      (UnpackedFloat.unpackMantissa b).toNat = 0 := BitVec.toNat_inj.symm
  by_cases hall' : UnpackedFloat.unpackExponent b = -1#11
  · rw [if_pos hall', if_pos (hall.mp hall')]
    by_cases hclear' : UnpackedFloat.unpackMantissa b = 0#52
    · rw [if_pos hclear', if_pos (hclear.mp hclear')]
      rfl
    · rw [if_neg hclear', if_neg (mt hclear.mpr hclear')]
      rfl
  · rw [if_neg hall', if_neg (mt hall.mpr hall')]
    by_cases hnone' : UnpackedFloat.unpackExponent b = 0#11
    · rw [if_pos hnone', if_pos (hnone.mp hnone')]
      by_cases hclear' : UnpackedFloat.unpackMantissa b = 0#52
      · rw [dif_pos hclear', hclear.mp hclear']
        rfl
      · rw [dif_neg hclear', ofUnpacked_finite, hnone.mp hnone']
        rfl
    · rw [if_neg hnone', if_neg (mt hnone.mpr hnone'), ofUnpacked_finite, toNat_one_append,
        hmantissa]
      rfl

theorem exact_eq (x : Float) : exact x = Exact.ofUnpacked x.toModel.unpack := by
  rw [exact_eq_ofBits]
  exact (ofUnpacked_unpack x.toModel.toBits.toBitVec).symm

/-- The form that doubles have: either all bits of the significand are used, or the exponent is the
least one. -/
structure Canonical (significand : Nat) (exponent : Int) : Prop where
  lt : significand < 2 ^ 53
  least : -1074 ≤ exponent
  full : exponent ≠ -1074 → 2 ^ 52 ≤ significand

theorem canonical_of_exact {x : Float} {negative : Bool} {significand : Nat} {exponent : Int}
    (h : exact x = .finite negative significand exponent) : Canonical significand exponent := by
  unfold exact at h
  simp only [Nat.pow_eq, beq_iff_eq] at h
  split at h
  · split at h <;> cases h
  · split at h
    · cases h
      refine ⟨by omega, le_rfl, fun hne => absurd rfl hne⟩
    · cases h
      exact ⟨by omega, by omega, fun _ => by omega⟩

/-- Magnitudes are ordered by exponent first, and then by significand. -/
theorem Canonical.magnitude_le {m n : Nat} {e f : Int} (hm : Canonical m e) (hn : Canonical n f)
    (h : ((compare e f).then (compare m n)).isLE = true) :
    (m * 2 ^ e : ℚ) ≤ n * 2 ^ f := by
  have htwo : (0 : ℚ) < 2 ^ e := by positivity
  rcases lt_trichotomy e f with hlt | rfl | hgt
  · have hfull : (2 : ℚ) ^ 52 ≤ n := by
      have := hm.least
      exact_mod_cast hn.full (by omega)
    have hm' : (m : ℚ) ≤ 2 ^ 53 := by exact_mod_cast hm.lt.le
    calc (m * 2 ^ e : ℚ)
        ≤ 2 ^ 53 * 2 ^ e := mul_le_mul_of_nonneg_right hm' htwo.le
      _ = 2 ^ 52 * 2 ^ (e + 1) := by
          rw [zpow_add_one₀ two_ne_zero]
          ring
      _ ≤ n * 2 ^ f := by
          have : (2 : ℚ) ^ (e + 1) ≤ 2 ^ f := zpow_le_zpow_right₀ one_le_two hlt
          gcongr
  · have hle : m ≤ n := by simpa [Nat.isLE_compare] using h
    have : (m : ℚ) ≤ n := by exact_mod_cast hle
    gcongr
  · simp [compare_gt_iff_gt.mpr hgt] at h

/-- The unpacked doubles that are numbers. -/
inductive Regular : UnpackedFloat → Prop
  | zero (sign : Sign) : Regular (.zero sign)
  | finite (sign : Sign) {mantissa : Nat} {exponent : Int} (hpos : 0 < mantissa)
      (h : Canonical mantissa exponent) : Regular (.finite sign mantissa exponent hpos)

theorem regular_unpack {x : Float} (h : (exact x).isFinite = true) : Regular x.toModel.unpack := by
  have hexact := exact_eq x
  rw [hexact] at h
  cases hunpack : x.toModel.unpack with
  | notANumber =>
    rw [hunpack] at h
    exact Bool.noConfusion h
  | infinity sign =>
    rw [hunpack] at h
    exact Bool.noConfusion h
  | zero sign => exact .zero sign
  | finite sign mantissa exponent hpos =>
    rw [hunpack, ofUnpacked_finite] at hexact
    exact .finite sign hpos (canonical_of_exact hexact)

theorem value_zero (sign : Sign) : (Exact.ofUnpacked (.zero sign)).value = 0 := by
  show (if sign == .negative then (-1 : ℚ) else 1) * ((0 : Nat) * 2 ^ (-1074 : Int)) = 0
  rw [Nat.cast_zero, zero_mul, mul_zero]

theorem value_positive {m : Nat} {e : Int} (h : 0 < m) :
    (Exact.ofUnpacked (.finite .positive m e h)).value = m * 2 ^ e :=
  one_mul _

theorem value_negative {m : Nat} {e : Int} (h : 0 < m) :
    (Exact.ofUnpacked (.finite .negative m e h)).value = -(m * 2 ^ e) :=
  neg_one_mul _

theorem Regular.value_le {a b : UnpackedFloat} (ha : Regular a) (hb : Regular b)
    (h : (a.compare b).any (·.isLE) = true) :
    (Exact.ofUnpacked a).value ≤ (Exact.ofUnpacked b).value := by
  have hmagnitude : ∀ (m : Nat) (e : Int), (0 : ℚ) ≤ m * 2 ^ e := by
    intro m e
    positivity
  cases ha with
  | zero sign =>
    cases hb with
    | zero sign' => rw [value_zero, value_zero]
    | @finite sign' n f hn hcanonical' =>
      cases sign' with
      | negative => exact Bool.noConfusion h
      | positive =>
        rw [value_zero, value_positive]
        exact hmagnitude n f
  | @finite sign m e hm hcanonical =>
    cases hb with
    | zero sign' =>
      cases sign with
      | negative =>
        rw [value_zero, value_negative]
        exact neg_nonpos.mpr (hmagnitude m e)
      | positive => exact Bool.noConfusion h
    | @finite sign' n f hn hcanonical' =>
      cases sign with
      | negative =>
        cases sign' with
        | negative =>
          have hswap : ((compare e f).then (compare m n)).swap =
              (compare f e).then (compare n m) := by
            rw [Ordering.swap_then, ← Std.OrientedOrd.eq_swap, ← Std.OrientedOrd.eq_swap]
          have hle : ((compare f e).then (compare n m)).isLE = true := hswap ▸ h
          rw [value_negative, value_negative]
          exact neg_le_neg (hcanonical'.magnitude_le hcanonical hle)
        | positive =>
          rw [value_negative, value_positive]
          exact (neg_nonpos.mpr (hmagnitude m e)).trans (hmagnitude n f)
      | positive =>
        cases sign' with
        | negative => exact Bool.noConfusion h
        | positive =>
          rw [value_positive, value_positive]
          exact hcanonical.magnitude_le hcanonical' h

theorem Regular.isFinite_of_between {a b c : UnpackedFloat} (ha : Regular a) (hc : Regular c)
    (hlow : (a.compare b).any (·.isLE) = true) (hhigh : (b.compare c).any (·.isLE) = true) :
    (Exact.ofUnpacked b).isFinite = true := by
  cases b with
  | notANumber => exact Bool.noConfusion hhigh
  | infinity sign =>
    cases sign with
    | negative => cases ha <;> exact Bool.noConfusion hlow
    | positive => cases hc <;> exact Bool.noConfusion hhigh
  | zero sign => rfl
  | finite sign mantissa exponent hpos => rfl

theorem compare_of_le {x y : Float} (h : x ≤ y) :
    (x.toModel.unpack.compare y.toModel.unpack).any (·.isLE) = true :=
  of_decide_eq_true (p := x.toModel ≤ y.toModel) h

theorem float_le_of_lt {x y : Float} (h : x < y) : x ≤ y := by
  have hlt : x.toModel.unpack.lt y.toModel.unpack = true :=
    of_decide_eq_true (p := x.toModel < y.toModel) h
  have hcompare : x.toModel.unpack.compare y.toModel.unpack = some .lt := by
    simpa [UnpackedFloat.lt] using hlt
  have hle : x.toModel.unpack.le y.toModel.unpack = true := by
    simp [UnpackedFloat.le, hcompare]
  exact decide_eq_true (p := x.toModel ≤ y.toModel) hle

/-- Finite doubles are ordered as their values are, and what is between two of them is finite. -/
theorem value_mono {x y z : Float} (hx : (exact x).isFinite = true) (hz : (exact z).isFinite = true)
    (hlow : x ≤ y) (hhigh : y ≤ z) : value x ≤ value y ∧ value y ≤ value z := by
  have hy : (exact y).isFinite = true := by
    rw [exact_eq]
    exact (regular_unpack hx).isFinite_of_between (regular_unpack hz) (compare_of_le hlow)
      (compare_of_le hhigh)
  unfold value
  rw [exact_eq, exact_eq y, exact_eq z]
  exact ⟨(regular_unpack hx).value_le (regular_unpack hy) (compare_of_le hlow),
    (regular_unpack hy).value_le (regular_unpack hz) (compare_of_le hhigh)⟩

theorem value_ofInt_zero : value (ofInt 0) = 0 := by
  have h : exact (ofInt 0) = .finite false 0 (-1074) := by decide +kernel
  simp [value, h, Exact.value]

theorem value_ofInt_one : value (ofInt 1) = 1 := by
  have h : exact (ofInt 1) = .finite false (2 ^ 52) (-52) := by decide +kernel
  norm_num [value, h, Exact.value]

end AccessAudit.Number

namespace AccessAudit

/-! ## The scale -/

instance : Scale ℚ where
  ofInt n := n
  less x y := x < y
  atMost x y := x ≤ y
  round := Number.nearest 10

namespace Scale

@[simp]
theorem ofInt_rat (n : Int) : (ofInt n : ℚ) = n := rfl

@[simp]
theorem atMost_rat {p q : ℚ} : atMost p q = true ↔ p ≤ q := decide_eq_true_iff

@[simp]
theorem less_rat {p q : ℚ} : less p q = true ↔ p < q := decide_eq_true_iff

end Scale

end AccessAudit
