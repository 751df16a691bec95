/-
# Fixed-width integers

Unsigned and two's-complement readings of an integer at the widths the code
uses.  Arithmetic is done on `ℤ` and reduced where the machine reduces it.
-/
import Mathlib.Tactic

variable (x : ℤ)

def u32 : ℕ := (x % 4294967296).toNat

def u64 : ℕ := (x % 18446744073709551616).toNat

def s32 : ℤ := (x + 2147483648) % 4294967296 - 2147483648

def s64 : ℤ := (x + 9223372036854775808) % 18446744073709551616 - 9223372036854775808

def Fits32 : Prop := -2 ^ 31 ≤ x ∧ x < 2 ^ 31
  deriving Decidable

def Fits64 : Prop := -2 ^ 63 ≤ x ∧ x < 2 ^ 63

lemma s32_eq {x : ℤ} (h : Fits32 x) : s32 x = x := by
  obtain ⟨hlow, hhigh⟩ := h
  unfold s32
  omega

lemma fits32_s32 (x : ℤ) : Fits32 (s32 x) := by
  unfold Fits32 s32
  omega

lemma fits32_tdiv {x n : ℤ} (hx : Fits32 x) (hn : 0 ≤ n) : Fits32 (x.tdiv n) := by
  obtain ⟨hlow, hhigh⟩ := hx
  rcases le_total 0 x with h | h
  · exact ⟨(by norm_num : (-2 ^ 31 : ℤ) ≤ 0).trans (Int.tdiv_nonneg h hn),
      (Int.tdiv_le_self n h).trans_lt hhigh⟩
  · have hneg := Int.tdiv_le_self n (neg_nonneg.mpr h)
    have hpos := Int.tdiv_nonneg (neg_nonneg.mpr h) hn
    rw [Int.neg_tdiv] at hneg hpos
    constructor <;> omega

lemma s64_eq {x : ℤ} (h : Fits64 x) : s64 x = x := by
  obtain ⟨hlow, hhigh⟩ := h
  unfold s64
  omega

lemma fits32_of_abs_lt {x : ℤ} (h : |x| < 2 ^ 31) : Fits32 x := by
  obtain ⟨hlow, hhigh⟩ := abs_lt.mp h
  exact ⟨hlow.le, hhigh⟩

lemma fits64_of_abs_lt {x : ℤ} (h : |x| < 2 ^ 63) : Fits64 x := by
  obtain ⟨hlow, hhigh⟩ := abs_lt.mp h
  exact ⟨hlow.le, hhigh⟩

def timeafter (a b : ℕ) : Bool := decide (s32 ((b : ℤ) - a) < 0)
