import Mathlib.Data.Rat.Floor
import Mathlib.Algebra.Order.Field.Power
import Mathlib.Tactic.FieldSimp
import Mathlib.Tactic.Linarith
import Mathlib.Tactic.Positivity

/-!
# Inference — binary64 arithmetic

`FramePreprocessor.preprocess` computes its letterbox with Python floats:
two true divisions of integers, `min`, the product of an integer and a
float, and `int()`. Each binary64 operation returns its exact result
rounded to 53 significant bits, to nearest with ties to even. The
operands here are positive and far inside the normal range, so a value
is a significand times a power of two, without subnormals, infinities or
overflow.

* `Binary64.roundRatio_error`: the value nearest `a / d` lies within a
  relative `2⁻⁵³` of it, and `Binary64.roundRatio_mant`: its significand
  has 53 bits (or is `2⁵³` when rounding carries into the next binade).
* `Binary64.pyMin_error`, `Binary64.mulNat_error_of_near`: Python's `min`
  keeps that error, and a product `n * x` with `x` near `s` is within a
  relative `3 · 2⁻⁵³` of `n * s`.
* `Binary64.trunc_eq_floor`: `int()` of a non-negative value is its
  floor.

All recursion is structural, so the kernel evaluates these definitions
on concrete frames.
-/

namespace ViewGuard

/-! ## Nearest integer, ties to even -/

/-- The integer nearest `a / d`, ties to the even one. -/
def rne (a d : Nat) : Nat :=
  if 2 * (a % d) < d then a / d
  else if d < 2 * (a % d) then a / d + 1
  else if a / d % 2 = 0 then a / d else a / d + 1

theorem rne_cases (a d : Nat) :
    (rne a d = a / d ∧ 2 * (a % d) ≤ d) ∨ (rne a d = a / d + 1 ∧ d ≤ 2 * (a % d)) := by
  unfold rne
  split_ifs <;> omega

/-- The nearest multiple of `d` is within half a step of `a`. -/
theorem rne_mul_sub_le {a d : Nat} (hd : 0 < d) : |(rne a d : ℚ) * d - a| ≤ d / 2 := by
  have hdm : (a : ℚ) = d * (a / d : ℕ) + (a % d : ℕ) := by exact_mod_cast (Nat.div_add_mod a d).symm
  have hr : ((a % d : ℕ) : ℚ) < d := by exact_mod_cast Nat.mod_lt a hd
  have hr0 : (0 : ℚ) ≤ (a % d : ℕ) := Nat.cast_nonneg _
  rw [abs_sub_le_iff]
  rcases rne_cases a d with ⟨he, h2⟩ | ⟨he, h2⟩ <;> rw [he]
  · have h2' : 2 * ((a % d : ℕ) : ℚ) ≤ d := by exact_mod_cast h2
    constructor <;> linarith
  · have h2' : (d : ℚ) ≤ 2 * (a % d : ℕ) := by exact_mod_cast h2
    push_cast
    constructor <;> linarith

theorem rne_zero (d : Nat) : rne 0 d = 0 := by
  unfold rne
  split_ifs <;> simp_all

/-! ## Binades -/

/-- The number of binary digits of `n`, by structural recursion on a fuel
(`n` itself is always enough). -/
def bitLength : Nat → Nat → Nat
  | 0, _ => 0
  | fuel + 1, n => if n = 0 then 0 else bitLength fuel (n / 2) + 1

theorem bitLength_zero : ∀ fuel, bitLength fuel 0 = 0
  | 0 => rfl
  | _ + 1 => if_pos rfl

/-- `n` has `bitLength` binary digits: `2 ^ (L - 1) ≤ n < 2 ^ L`. -/
theorem bitLength_spec : ∀ fuel n, n < 2 ^ fuel →
    n < 2 ^ bitLength fuel n ∧ (0 < n → 2 ^ bitLength fuel n ≤ 2 * n)
  | 0, n, h => by
    rw [bitLength, pow_zero]
    rw [pow_zero] at h
    omega
  | fuel + 1, n, h => by
    rw [bitLength]
    split_ifs with h0
    · rw [pow_zero]
      omega
    · have ih := bitLength_spec fuel (n / 2) (by rw [Nat.pow_succ] at h; omega)
      rw [Nat.pow_succ]
      rcases Nat.eq_zero_or_pos (n / 2) with h2 | h2
      · rw [h2, bitLength_zero, pow_zero]
        omega
      · have := ih.2 h2
        omega

/-- An integer power of two as a fraction of natural powers. -/
theorem two_zpow_eq (k : Int) : (2 : ℚ) ^ k = 2 ^ k.toNat / 2 ^ (-k).toNat := by
  obtain ⟨n, rfl | rfl⟩ := Int.eq_nat_or_neg k
  · simp
  · simp [zpow_neg]

/-- A comparison of natural numbers against a power of two, read in `ℚ`. -/
theorem lt_two_zpow_iff {a d : Nat} (hd : 0 < d) (k : Int) :
    a * 2 ^ (-k).toNat < d * 2 ^ k.toNat ↔ (a : ℚ) / d < 2 ^ k := by
  rw [two_zpow_eq, div_lt_div_iff₀ (by exact_mod_cast hd) (by positivity), mul_comm ((2 : ℚ) ^ k.toNat)]
  norm_cast

/-- The exponent `k` of the binade of `a / d`, `2 ^ k ≤ a / d < 2 ^ (k + 1)`.
The digit counts of `a` and `d` put `a / d` strictly between
`2 ^ (k₀ - 1)` and `2 ^ (k₀ + 1)` for their difference `k₀`; one
comparison with `2 ^ k₀` settles which binade it is. -/
def binade (a d : Nat) : Int :=
  let k₀ : Int := (bitLength a a : Int) - bitLength d d
  if a * 2 ^ (-k₀).toNat < d * 2 ^ k₀.toNat then k₀ - 1 else k₀

theorem binade_spec {a d : Nat} (ha : 0 < a) (hd : 0 < d) :
    (2 : ℚ) ^ binade a d ≤ a / d ∧ (a : ℚ) / d < 2 ^ (binade a d + 1) := by
  obtain ⟨ha1, ha2⟩ := bitLength_spec a a (Nat.lt_two_pow a)
  obtain ⟨hd1, hd2⟩ := bitLength_spec d d (Nat.lt_two_pow d)
  have qa1 : (a : ℚ) < 2 ^ bitLength a a := by exact_mod_cast ha1
  have qa2 : (2 : ℚ) ^ bitLength a a ≤ 2 * a := by exact_mod_cast ha2 ha
  have qd1 : (d : ℚ) < 2 ^ bitLength d d := by exact_mod_cast hd1
  have qd2 : (2 : ℚ) ^ bitLength d d ≤ 2 * d := by exact_mod_cast hd2 hd
  have hd' : (0 : ℚ) < d := by exact_mod_cast hd
  unfold binade
  dsimp only
  set La := bitLength a a
  set Ld := bitLength d d
  have hk : (2 : ℚ) ^ ((La : Int) - Ld) = 2 ^ La / 2 ^ Ld := by
    rw [zpow_sub₀ two_ne_zero, zpow_natCast, zpow_natCast]
  have hpd : (0 : ℚ) < 2 ^ Ld := by positivity
  -- the digit counts bound `a / d` on both sides
  have hlo : (2 : ℚ) ^ ((La : Int) - Ld) / 2 < a / d := by
    rw [hk, div_div, div_lt_div_iff₀ (by positivity) hd']
    calc (2 : ℚ) ^ La * d ≤ 2 * a * d := mul_le_mul_of_nonneg_right qa2 hd'.le
      _ < 2 * a * 2 ^ Ld := mul_lt_mul_of_pos_left qd1 (by positivity)
      _ = a * (2 ^ Ld * 2) := by ring
  have hhi : (a : ℚ) / d < 2 ^ ((La : Int) - Ld) * 2 := by
    rw [hk, div_mul_eq_mul_div, div_lt_div_iff₀ hd' hpd]
    calc (a : ℚ) * 2 ^ Ld ≤ a * (2 * d) := mul_le_mul_of_nonneg_left qd2 (Nat.cast_nonneg a)
      _ < 2 ^ La * (2 * d) := mul_lt_mul_of_pos_right qa1 (by positivity)
      _ = 2 ^ La * 2 * d := by ring
  split_ifs with hc <;> rw [lt_two_zpow_iff hd] at hc
  · rw [sub_add_cancel, zpow_sub_one₀ two_ne_zero, ← div_eq_mul_inv]
    exact ⟨hlo.le, hc⟩
  · rw [zpow_add_one₀ two_ne_zero]
    exact ⟨not_lt.mp hc, hhi⟩

/-! ## Values -/

/-- A non-negative binary64 value `mant * 2 ^ exp`. -/
structure Binary64 where
  mant : Nat
  exp : Int
  deriving DecidableEq, Repr

namespace Binary64

/-- The value. -/
def val (x : Binary64) : ℚ := x.mant * 2 ^ x.exp

/-- The value as a fraction `num / den` of natural numbers. -/
def num (x : Binary64) : Nat := x.mant * 2 ^ x.exp.toNat

def den (x : Binary64) : Nat := 2 ^ (-x.exp).toNat

/-- The binary64 value nearest `a / d`: 53 significant bits, so the unit
in the last place is `2 ^ (binade a d - 52)`, ties to even. -/
def roundRatio (a d : Nat) : Binary64 :=
  let e := binade a d - 52
  ⟨rne (a * 2 ^ (-e).toNat) (d * 2 ^ e.toNat), e⟩

/-- `float(n) * x`, for an integer `n` that binary64 holds exactly: the
exact product, rounded. -/
def mulNat (x : Binary64) (n : Nat) : Binary64 := roundRatio (n * x.num) x.den

/-- `int(x)`: truncation toward zero. -/
def trunc (x : Binary64) : Nat := x.num / x.den

/-- Python's `min(x, y)`: the first argument unless the second is
smaller. -/
def pyMin (x y : Binary64) : Binary64 := if y.num * x.den < x.num * y.den then y else x

theorem den_pos (x : Binary64) : 0 < x.den := Nat.two_pow_pos _

theorem val_eq (x : Binary64) : x.val = (x.num : ℚ) / x.den := by
  rw [val, num, den, two_zpow_eq]
  push_cast
  ring

theorem val_nonneg (x : Binary64) : 0 ≤ x.val := by
  rw [val_eq]
  positivity

theorem val_pos {x : Binary64} (h : 0 < x.mant) : 0 < x.val := by
  rw [val]
  have : (0 : ℚ) < x.mant := by exact_mod_cast h
  positivity

/-- `int()` of a non-negative value is its floor. -/
theorem trunc_eq_floor (x : Binary64) : x.trunc = ⌊x.val⌋₊ := by
  rw [val_eq, Nat.floor_div_eq_div]
  rfl

theorem lt_iff_num_lt (x y : Binary64) : y.val < x.val ↔ y.num * x.den < x.num * y.den := by
  rw [val_eq, val_eq, div_lt_div_iff₀ (by exact_mod_cast y.den_pos) (by exact_mod_cast x.den_pos)]
  norm_cast

theorem pyMin_val (x y : Binary64) : (pyMin x y).val = min x.val y.val := by
  unfold pyMin
  split_ifs with h
  · rw [min_eq_right ((lt_iff_num_lt x y).mpr h).le]
  · rw [min_eq_left (not_lt.mp (mt (lt_iff_num_lt x y).mp h))]

/-! ## Rounding error -/

/-- The numerator and denominator `roundRatio` rounds: `a / d` scaled
into `[2⁵², 2⁵³)`. -/
theorem roundRatio_scaled {a d : Nat} (ha : 0 < a) (hd : 0 < d) :
    ((a * 2 ^ (-(binade a d - 52)).toNat : ℕ) : ℚ) / (d * 2 ^ (binade a d - 52).toNat : ℕ) =
        a / d / 2 ^ (binade a d - 52) ∧
      2 ^ 52 ≤ (a : ℚ) / d / 2 ^ (binade a d - 52) ∧ (a : ℚ) / d / 2 ^ (binade a d - 52) < 2 ^ 53 := by
  obtain ⟨hlo, hhi⟩ := binade_spec ha hd
  have ht : (0 : ℚ) < 2 ^ (binade a d - 52) := zpow_pos two_pos _
  have h52 : (2 : ℚ) ^ (binade a d) = 2 ^ (binade a d - 52) * 2 ^ 52 := by
    rw [← zpow_natCast, ← zpow_add₀ two_ne_zero, Nat.cast_ofNat, sub_add_cancel]
  have h53 : (2 : ℚ) ^ (binade a d + 1) = 2 ^ (binade a d - 52) * 2 ^ 53 := by
    rw [← zpow_natCast, ← zpow_add₀ two_ne_zero, Nat.cast_ofNat]
    ring_nf
  refine ⟨?_, ?_, ?_⟩
  · rw [two_zpow_eq]
    push_cast
    field_simp
  · rw [le_div_iff₀ ht, mul_comm]
    linarith
  · rw [div_lt_iff₀ ht, mul_comm]
    linarith

/-- **Rounding error**: the binary64 value nearest `a / d` lies within a
relative `2⁻⁵³` of it. -/
theorem roundRatio_error {a d : Nat} (ha : 0 < a) (hd : 0 < d) :
    |(roundRatio a d).val - a / d| ≤ a / d / 2 ^ 53 := by
  obtain ⟨hsc, hlo, -⟩ := roundRatio_scaled ha hd
  have ht : (0 : ℚ) < 2 ^ (binade a d - 52) := zpow_pos two_pos _
  have hD : 0 < d * 2 ^ (binade a d - 52).toNat := Nat.mul_pos hd (Nat.two_pow_pos _)
  have hD' : (0 : ℚ) < (d * 2 ^ (binade a d - 52).toNat : ℕ) := by exact_mod_cast hD
  -- the significand is within `1/2` of the scaled quotient
  have hm : |(rne (a * 2 ^ (-(binade a d - 52)).toNat) (d * 2 ^ (binade a d - 52).toNat) : ℚ) -
      a / d / 2 ^ (binade a d - 52)| ≤ 1 / 2 := by
    have hnear := rne_mul_sub_le (a := a * 2 ^ (-(binade a d - 52)).toNat) hD
    rw [← hsc, ← mul_div_cancel_right₀ (rne _ _ : ℚ) hD'.ne', ← sub_div, abs_div, abs_of_pos hD',
      div_le_iff₀ hD']
    linarith
  have hval : (roundRatio a d).val - a / d =
      2 ^ (binade a d - 52) * ((rne (a * 2 ^ (-(binade a d - 52)).toNat) (d * 2 ^ (binade a d - 52).toNat) : ℚ) -
        a / d / 2 ^ (binade a d - 52)) := by
    rw [roundRatio, val, mul_sub, mul_div_cancel₀ _ ht.ne', mul_comm]
  rw [hval, abs_mul, abs_of_pos ht]
  calc 2 ^ (binade a d - 52) * |_ - _| ≤ 2 ^ (binade a d - 52) * (1 / 2) :=
        mul_le_mul_of_nonneg_left hm ht.le
    _ = 2 ^ (binade a d - 52) * 2 ^ 52 / 2 ^ 53 := by ring
    _ ≤ a / d / 2 ^ 53 := div_le_div_of_nonneg_right (by rwa [← le_div_iff₀' ht]) (by positivity)

/-- The significand has 53 bits, or is `2⁵³` when rounding carries. -/
theorem roundRatio_mant {a d : Nat} (ha : 0 < a) (hd : 0 < d) :
    2 ^ 52 ≤ (roundRatio a d).mant ∧ (roundRatio a d).mant ≤ 2 ^ 53 := by
  obtain ⟨hsc, hlo, hhi⟩ := roundRatio_scaled ha hd
  have hD : (0 : ℚ) < (d * 2 ^ (binade a d - 52).toNat : ℕ) := by positivity
  rw [← hsc] at hlo hhi
  rw [le_div_iff₀ hD] at hlo
  rw [div_lt_iff₀ hD] at hhi
  have hlo' : (d * 2 ^ (binade a d - 52).toNat) * 2 ^ 52 ≤ a * 2 ^ (-(binade a d - 52)).toNat := by
    rw [mul_comm]; exact_mod_cast hlo
  have hhi' : a * 2 ^ (-(binade a d - 52)).toNat < (d * 2 ^ (binade a d - 52).toNat) * 2 ^ 53 := by
    rw [mul_comm _ (2 ^ 53)]; exact_mod_cast hhi
  have hq1 := (Nat.le_div_iff_mul_le (Nat.mul_pos hd (Nat.two_pow_pos _))).mpr (mul_comm _ (2 ^ 52) ▸ hlo')
  have hq2 := (Nat.div_lt_iff_lt_mul (Nat.mul_pos hd (Nat.two_pow_pos _))).mpr (mul_comm (2 ^ 53) _ ▸ hhi')
  show 2 ^ 52 ≤ rne _ _ ∧ rne _ _ ≤ 2 ^ 53
  rcases rne_cases (a * 2 ^ (-(binade a d - 52)).toNat) (d * 2 ^ (binade a d - 52).toNat) with
    ⟨he, -⟩ | ⟨he, -⟩ <;> rw [he] <;> omega

/-- `min` of two values, each within a relative `2⁻⁵³` of its exact
counterpart, is within that of the exact `min`. -/
theorem pyMin_error {x y : Binary64} {a b : ℚ} (hx : |x.val - a| ≤ a / 2 ^ 53)
    (hy : |y.val - b| ≤ b / 2 ^ 53) : |(pyMin x y).val - min a b| ≤ min a b / 2 ^ 53 := by
  rw [pyMin_val, abs_sub_le_iff]
  rw [abs_sub_le_iff] at hx hy
  rcases le_total a b with hab | hab
  · rw [min_eq_left hab]
    have := le_min (show a - a / 2 ^ 53 ≤ x.val by linarith) (show a - a / 2 ^ 53 ≤ y.val by linarith)
    constructor <;> linarith [min_le_left x.val y.val]
  · rw [min_eq_right hab]
    have := le_min (show b - b / 2 ^ 53 ≤ x.val by linarith) (show b - b / 2 ^ 53 ≤ y.val by linarith)
    constructor <;> linarith [min_le_right x.val y.val]

/-- The product `n * x` of a value near `s` is within a relative
`3 · 2⁻⁵³` of `n * s`: one rounding of the product on top of `x`'s. -/
theorem mulNat_error_of_near {x : Binary64} {s : ℚ} (hs : 0 < s) (hx : |x.val - s| ≤ s / 2 ^ 53)
    {n : Nat} (hn : 0 < n) : |(x.mulNat n).val - n * s| ≤ 3 * (n * s) / 2 ^ 53 := by
  have hn' : (0 : ℚ) < n := by exact_mod_cast hn
  rw [abs_sub_le_iff] at hx
  have hxpos : 0 < x.mant := by
    by_contra h0
    have : x.val = 0 := by rw [val, Nat.eq_zero_of_not_pos h0]; simp
    linarith
  have hprod : |(x.mulNat n).val - n * x.val| ≤ n * x.val / 2 ^ 53 := by
    have h := roundRatio_error (a := n * x.num) (d := x.den)
      (Nat.mul_pos hn (Nat.mul_pos hxpos (Nat.two_pow_pos _))) x.den_pos
    rwa [Nat.cast_mul, mul_div_assoc, ← val_eq] at h
  rw [abs_sub_le_iff] at hprod ⊢
  have h1 : (n : ℚ) * x.val ≤ n * s + n * s / 2 ^ 53 := by
    have := mul_le_mul_of_nonneg_left hx.1 hn'.le
    linarith
  have h2 : (n : ℚ) * s - n * s / 2 ^ 53 ≤ n * x.val := by
    have := mul_le_mul_of_nonneg_left hx.2 hn'.le
    linarith
  have hns : 0 < (n : ℚ) * s := mul_pos hn' hs
  constructor <;> linarith

/-- A product that truncates to a non-zero integer had a positive factor. -/
theorem val_pos_of_trunc_mulNat_ne_zero {x : Binary64} {n : Nat} (h : (x.mulNat n).trunc ≠ 0) :
    0 < x.val := by
  refine val_pos (Nat.pos_of_ne_zero fun h0 => h ?_)
  simp [trunc, mulNat, roundRatio, num, h0, rne_zero]

end Binary64

end ViewGuard
