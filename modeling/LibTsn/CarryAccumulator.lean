/-
# An accumulator whose carry is taken one step late

An amount `f` is added in every step to an accumulator that starts at zero.  When
the accumulator has reached `m` the step has a carry, and only then the accumulator
is reduced modulo `m`, after the amount of the step has been added.
-/
import Mathlib.Tactic

namespace CarryAccumulator

def next (f m acc : ℕ) : ℕ := if m ≤ acc then (acc + f) % m else acc + f

def carry (m acc : ℕ) : ℕ := if m ≤ acc then 1 else 0

def value (f m n : ℕ) : ℕ := (next f m)^[n] 0

def carries (f m n : ℕ) : ℕ := ∑ i ∈ Finset.range n, carry m (value f m i)

variable {f m : ℕ}

lemma value_succ (f m n : ℕ) : value f m (n + 1) = next f m (value f m n) :=
  Function.iterate_succ_apply' _ _ _

lemma carries_succ (f m n : ℕ) : carries f m (n + 1) = carries f m n + carry m (value f m n) :=
  Finset.sum_range_succ _ n

lemma value_lt (hm : 0 < m) (n : ℕ) : value f m n < m + f := by
  induction n with
  | zero => exact Nat.add_pos_left hm f
  | succ n ih =>
    rw [value_succ]
    unfold next
    split
    · exact (Nat.mod_lt _ hm).trans_le (Nat.le_add_right m f)
    · omega

lemma value_of_small {n : ℕ} (h : ∀ i < n, i * f < m) :
    value f m n = n * f ∧ carries f m n = 0 := by
  induction n with
  | zero => exact ⟨(Nat.zero_mul f).symm, rfl⟩
  | succ n ih =>
    obtain ⟨hvalue, hcarries⟩ := ih fun i hi => h i (Nat.lt_succ_of_lt hi)
    have hsmall : ¬ m ≤ value f m n := by
      rw [hvalue]
      exact Nat.not_le_of_lt (h n (Nat.lt_succ_self n))
    rw [value_succ, carries_succ]
    unfold next carry
    rw [if_neg hsmall, if_neg hsmall, hvalue, hcarries, Nat.succ_mul]
    exact ⟨rfl, rfl⟩

/-- **The carry comes.**  After enough steps the accumulator has reached `m`, with no
carry before. -/
theorem exists_reaches (m : ℕ) (hf : 0 < f) :
    ∃ n, m ≤ value f m n ∧ carries f m n = 0 ∧ value f m n = n * f := by
  have hex : ∃ n, m ≤ n * f := ⟨m, Nat.le_mul_of_pos_right m hf⟩
  obtain ⟨hvalue, hcarries⟩ :=
    value_of_small fun i hi => Nat.lt_of_not_le (Nat.find_min hex hi)
  exact ⟨Nat.find hex, hvalue ▸ Nat.find_spec hex, hcarries, hvalue⟩

lemma carries_add_le (f m n k : ℕ) : carries f m (n + k) ≤ carries f m n + k := by
  induction k with
  | zero => exact le_refl _
  | succ k ih =>
    rw [← Nat.add_assoc, carries_succ]
    unfold carry
    split <;> omega

/-- **No two carries in a row.**  A carry leaves less than `m`, so the step after it has none. -/
theorem carries_add_two_le (hm : 0 < m) (n : ℕ) : carries f m (n + 2) ≤ carries f m n + 1 := by
  rw [carries_succ, carries_succ, value_succ]
  unfold next carry
  by_cases h : m ≤ value f m n
  · rw [if_pos h, if_pos h, if_neg (Nat.not_le_of_lt (Nat.mod_lt _ hm))]
  · rw [if_neg h, if_neg h]
    split <;> omega

end CarryAccumulator
