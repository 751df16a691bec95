/-
# Scaling by a rate close to one

A rate `1 + a / 2 ^ k` is stored as its fixed-point offset `a`, and `x` is scaled by adding the
correction `x * a / 2 ^ k`, rounded down.  What is lost by rounding is less than one, and an
offset that is itself a rounded quotient loses little more.
-/
import Mathlib.Tactic

def scale (k : ℕ) (a x : ℤ) : ℤ := x + x * a / 2 ^ k

section

variable {k : ℕ} {a b x y : ℤ}

/-! ## Rounding -/

lemma scale_mul_le (k : ℕ) (a x : ℤ) : scale k a x * 2 ^ k ≤ x * (2 ^ k + a) := by
  have hfloor := Int.ediv_mul_le (x * a) (b := 2 ^ k) (by positivity)
  unfold scale
  linarith

lemma lt_scale_mul (k : ℕ) (a x : ℤ) : x * (2 ^ k + a) < scale k a x * 2 ^ k + 2 ^ k := by
  have hfloor := Int.lt_ediv_add_one_mul_self (x * a) (b := 2 ^ k) (by positivity)
  unfold scale
  linarith

lemma le_scale_iff : y ≤ scale k a x ↔ y * 2 ^ k ≤ x * (2 ^ k + a) := by
  have hpos : (0 : ℤ) < 2 ^ k := by positivity
  unfold scale
  rw [← sub_le_iff_le_add', Int.le_ediv_iff_mul_le hpos]
  constructor <;> intro h <;> linarith

@[simp] lemma scale_zero (k : ℕ) (a : ℤ) : scale k a 0 = 0 := by
  simp [scale]

lemma scale_mono (ha : 0 ≤ 2 ^ k + a) (h : x ≤ y) : scale k a x ≤ scale k a y := by
  rw [le_scale_iff]
  calc scale k a x * 2 ^ k ≤ x * (2 ^ k + a) := scale_mul_le k a x
    _ ≤ y * (2 ^ k + a) := mul_le_mul_of_nonneg_right h ha

lemma le_scale_add (k : ℕ) (a x y : ℤ) : scale k a x + scale k a y ≤ scale k a (x + y) := by
  rw [le_scale_iff]
  have hx := scale_mul_le k a x
  have hy := scale_mul_le k a y
  linarith

lemma scale_add_le (k : ℕ) (a x y : ℤ) : scale k a (x + y) ≤ scale k a x + scale k a y + 1 := by
  have hpos : (0 : ℤ) < 2 ^ k := by positivity
  have hsum := scale_mul_le k a (x + y)
  have hx := lt_scale_mul k a x
  have hy := lt_scale_mul k a y
  have hlt : scale k a (x + y) * 2 ^ k < (scale k a x + scale k a y + 2) * 2 ^ k := by linarith
  have := lt_of_mul_lt_mul_right hlt hpos.le
  omega

/-- **There and back.**  Two rates whose product is one up to `e / 2 ^ (2 * k)` give `x` back up to
that part of it, and up to the two roundings. -/
theorem scale_scale_sub {e : ℤ} (hb : 0 ≤ 2 ^ k + b) (hb' : b ≤ 2 ^ k)
    (he : |(2 ^ k + a) * (2 ^ k + b) - 2 ^ k * 2 ^ k| ≤ e) :
    (scale k b (scale k a x) - x) * (2 ^ k * 2 ^ k) ≤ |x| * e ∧
      -(|x| * e) - 3 * (2 ^ k * 2 ^ k) < (scale k b (scale k a x) - x) * (2 ^ k * 2 ^ k) := by
  have hpos : (0 : ℤ) < 2 ^ k := by positivity
  have hlow := scale_mul_le k a x
  have hhigh := lt_scale_mul k a x
  have hlow' := scale_mul_le k b (scale k a x)
  have hhigh' := lt_scale_mul k b (scale k a x)
  -- the error of the product of the rates, for all of `x`
  have herror : |x * ((2 ^ k + a) * (2 ^ k + b) - 2 ^ k * 2 ^ k)| ≤ |x| * e := by
    rw [abs_mul]
    exact mul_le_mul_of_nonneg_left he (abs_nonneg x)
  obtain ⟨hlower, hupper⟩ := abs_le.mp herror
  set P : ℤ := 2 ^ k with hP
  set y := scale k a x
  set z := scale k b y
  constructor
  · -- both roundings are downwards
    have h₁ : y * P * (P + b) ≤ x * (P + a) * (P + b) := mul_le_mul_of_nonneg_right hlow hb
    have h₂ : z * P * P ≤ y * (P + b) * P := mul_le_mul_of_nonneg_right hlow' hpos.le
    linarith
  · have h₁ : x * (P + a) * (P + b) ≤ (y * P + P) * (P + b) :=
      mul_le_mul_of_nonneg_right hhigh.le hb
    have h₂ : y * (P + b) * P < (z * P + P) * P := mul_lt_mul_of_pos_right hhigh' hpos
    have h₃ : P * b ≤ P * P := mul_le_mul_of_nonneg_left hb' hpos.le
    linarith

lemma abs_tdiv_sub_le {z d m : ℤ} (h : |z - m * d| < m) : |z.tdiv m - d| ≤ 1 := by
  have hm : 0 < m := lt_of_le_of_lt (abs_nonneg _) h
  obtain ⟨hlow, hhigh⟩ := abs_lt.mp h
  have hmod := Int.mul_tdiv_add_tmod z m
  have hmod_lt := Int.tmod_lt_of_pos z hm
  have hmod_gt := Int.lt_tmod_of_pos z hm
  rw [abs_le]
  constructor
  · by_contra hlt
    have hle : z.tdiv m ≤ d - 2 := by omega
    have := mul_le_mul_of_nonneg_left hle hm.le
    linarith
  · by_contra hlt
    have hle : d + 2 ≤ z.tdiv m := by omega
    have := mul_le_mul_of_nonneg_left hle hm.le
    linarith

lemma quotient_bounds (r : ℕ) (n : ℤ) {d : ℤ} (hd : 0 < d) :
    n.tdiv d / 2 ^ r * 2 ^ r * d < n + d ∧ n < (n.tdiv d / 2 ^ r * 2 ^ r + 2 ^ r + 1) * d := by
  have hpos : (0 : ℤ) < 2 ^ r := by positivity
  have hmod := Int.mul_tdiv_add_tmod n d
  have hmod_lt := Int.tmod_lt_of_pos n hd
  have hmod_gt := Int.lt_tmod_of_pos n hd
  have hlow := Int.ediv_mul_le (n.tdiv d) hpos.ne'
  have hhigh := Int.lt_ediv_add_one_mul_self (n.tdiv d) hpos
  constructor
  · have := mul_le_mul_of_nonneg_right hlow hd.le
    linarith
  · have hle : n.tdiv d ≤ n.tdiv d / 2 ^ r * 2 ^ r + 2 ^ r := by linarith
    have := mul_le_mul_of_nonneg_right hle hd.le
    linarith

/-- **A measured rate.**  The offset is computed from an interval `x` that ought to be `y`, and
divided by `y` where the exact rate would be divided by `x`: the square of the difference is
missing when `x` is scaled, in units of `y`, besides the roundings. -/
theorem scale_quotient (k r : ℕ) (hx : 0 < x) (hy : 0 < y) :
    (scale k (((y - x) * (2 ^ k * 2 ^ r)).tdiv y / 2 ^ r) x - y) * (2 ^ k * 2 ^ r * y) <
        x * y - 2 ^ k * 2 ^ r * (y - x) ^ 2 ∧
      -(2 ^ k * 2 ^ r * (y - x) ^ 2) - x * (2 ^ r + 1) * y <
        (scale k (((y - x) * (2 ^ k * 2 ^ r)).tdiv y / 2 ^ r) x - y + 1) *
          (2 ^ k * 2 ^ r * y) := by
  obtain ⟨hoffset, hoffset'⟩ := quotient_bounds r ((y - x) * (2 ^ k * 2 ^ r)) hy
  set offset := ((y - x) * (2 ^ k * 2 ^ r)).tdiv y / 2 ^ r
  have hlow := scale_mul_le k offset x
  have hhigh := lt_scale_mul k offset x
  have hunit : (0 : ℤ) < 2 ^ r * y := by positivity
  set c := scale k offset x
  constructor
  · have h₁ := mul_le_mul_of_nonneg_right hlow hunit.le
    have h₂ := mul_lt_mul_of_pos_left hoffset hx
    linarith
  · have h₁ := mul_lt_mul_of_pos_right hhigh hunit
    have h₂ := mul_lt_mul_of_pos_left hoffset' hx
    linarith

end
