/-
# Packed digits

Lists of digits of a base `b`, packed `k` to a word: the first digit of a word is
its most significant one, and a last word with fewer digits is filled with zeros.
A writer appends digit by digit, adding to the last word or starting a new one; a
reader divides and takes the remainder.
-/
import Mathlib.Tactic

namespace Packing

/-! ## One word -/

def word (b : ℕ) : ℕ → List ℕ → ℕ
  | 0, _ => 0
  | k + 1, ds => ds.headD 0 * b ^ k + word b k ds.tail

@[simp] lemma word_nil (b k : ℕ) : word b k [] = 0 := by
  induction k with
  | zero => rfl
  | succ k ih => simp [word, ih]

lemma word_lt (b : ℕ) (ds : List ℕ) (h : ∀ d ∈ ds, d < b) (k : ℕ) (hb : 0 < b) :
    word b k ds < b ^ k := by
  induction k generalizing ds with
  | zero => simp [word]
  | succ k ih =>
    have hhead : ds.headD 0 < b := by
      cases ds with
      | nil => exact hb
      | cons d ds => exact h d List.mem_cons_self
    have htail := ih ds.tail fun d hd => h d (List.mem_of_mem_tail hd)
    calc word b (k + 1) ds = ds.headD 0 * b ^ k + word b k ds.tail := rfl
      _ < ds.headD 0 * b ^ k + b ^ k := by omega
      _ = (ds.headD 0 + 1) * b ^ k := by ring
      _ ≤ b * b ^ k := Nat.mul_le_mul_right _ hhead
      _ = b ^ (k + 1) := by ring

lemma word_append_of_le (b k : ℕ) (ds es : List ℕ) (h : k ≤ ds.length) :
    word b k (ds ++ es) = word b k ds := by
  induction k generalizing ds with
  | zero => rfl
  | succ k ih =>
    cases ds with
    | nil => simp at h
    | cons d ds =>
      simp only [word, List.cons_append, List.headD_cons, List.tail_cons]
      rw [ih ds (by simpa using h)]

lemma word_append_digit (b k : ℕ) (ds : List ℕ) (d : ℕ) (h : ds.length < k) :
    word b k (ds ++ [d]) = word b k ds + d * b ^ (k - 1 - ds.length) := by
  induction k generalizing ds with
  | zero => omega
  | succ k ih =>
    cases ds with
    | nil => simp [word]
    | cons e ds =>
      simp only [List.length_cons] at h ⊢
      simp only [word, List.cons_append, List.headD_cons, List.tail_cons]
      rw [ih ds (by omega), show k + 1 - 1 - (ds.length + 1) = k - 1 - ds.length by omega]
      ring

lemma word_digit (b : ℕ) (ds : List ℕ) (h : ∀ d ∈ ds, d < b) (hb : 0 < b) (k i : ℕ) (hi : i < k) :
    word b k ds / b ^ (k - 1 - i) % b = ds.getD i 0 := by
  induction k generalizing ds i with
  | zero => omega
  | succ k ih =>
    have htail : ∀ d ∈ ds.tail, d < b := fun d hd => h d (List.mem_of_mem_tail hd)
    have hlt := word_lt b ds.tail htail k hb
    cases i with
    | zero =>
      have hhead : ds.headD 0 < b := by
        cases ds with
        | nil => exact hb
        | cons d ds => exact h d List.mem_cons_self
      rw [word, show k + 1 - 1 - 0 = k by omega, Nat.add_comm,
        Nat.add_mul_div_right _ _ (by positivity), Nat.div_eq_of_lt hlt, Nat.zero_add,
        Nat.mod_eq_of_lt hhead]
      cases ds <;> rfl
    | succ i =>
      -- the first digit contributes a multiple of `b` to the quotient
      have hsplit : b ^ k = b ^ i * b * b ^ (k - 1 - i) := by
        rw [← pow_succ, ← pow_add]
        congr 1
        omega
      have hquot : word b (k + 1) ds / b ^ (k - 1 - i)
          = ds.headD 0 * (b ^ i * b) + word b k ds.tail / b ^ (k - 1 - i) := by
        rw [word, hsplit, show ds.headD 0 * (b ^ i * b * b ^ (k - 1 - i)) + word b k ds.tail
          = word b k ds.tail + ds.headD 0 * (b ^ i * b) * b ^ (k - 1 - i) by ring,
          Nat.add_mul_div_right _ _ (by positivity)]
        ring
      rw [show k + 1 - 1 - (i + 1) = k - 1 - i by omega, hquot,
        show ds.headD 0 * (b ^ i * b) = ds.headD 0 * b ^ i * b by ring,
        Nat.mul_add_mod_self_right, ih ds.tail htail i (by omega)]
      cases ds <;> rfl

/-! ## A list of words -/

def words (b k : ℕ) (ds : List ℕ) : List ℕ :=
  (List.range ((ds.length + k - 1) / k)).map fun j => word b k (ds.drop (k * j))

@[simp] lemma words_nil (b k : ℕ) (hk : 0 < k) : words b k [] = [] := by
  rw [words, List.length_nil, Nat.zero_add, Nat.div_eq_of_lt (by omega)]
  rfl

@[simp] lemma length_words (b k : ℕ) (ds : List ℕ) :
    (words b k ds).length = (ds.length + k - 1) / k := by
  simp [words]

lemma words_lt (b k : ℕ) (ds : List ℕ) (h : ∀ d ∈ ds, d < b) (hb : 0 < b) :
    ∀ w ∈ words b k ds, w < b ^ k := by
  intro w hw
  obtain ⟨j, -, rfl⟩ := List.mem_map.1 hw
  exact word_lt b _ (fun d hd => h d (List.mem_of_mem_drop hd)) k hb

lemma words_append_full (b k : ℕ) (ds : List ℕ) (d : ℕ) (hk : 0 < k) (h : ds.length % k = 0) :
    words b k (ds ++ [d]) = words b k ds ++ [d * b ^ (k - 1)] := by
  obtain ⟨q, hq⟩ := Nat.dvd_of_mod_eq_zero h
  have hcount : (ds.length + k - 1) / k = q := by
    rw [hq, show k * q + k - 1 = (k - 1) + k * q by omega, Nat.add_mul_div_left _ _ hk,
      Nat.div_eq_of_lt (by omega), Nat.zero_add]
  have hcount' : ((ds ++ [d]).length + k - 1) / k = q + 1 := by
    rw [List.length_append, List.length_singleton, hq, show k * q + 1 + k - 1 = k * (q + 1) by
      rw [Nat.mul_add]; omega, Nat.mul_div_cancel_left _ hk]
  rw [words, hcount', List.range_succ, List.map_append, words, hcount]
  congr 1
  · apply List.map_congr_left
    intro j hj
    have hj := List.mem_range.1 hj
    have hle : k * (j + 1) ≤ k * q := Nat.mul_le_mul_left k hj
    rw [Nat.mul_add] at hle
    rw [List.drop_append_of_le_length (by omega), word_append_of_le]
    rw [List.length_drop]
    omega
  · rw [List.map_singleton, List.drop_append_of_le_length (by omega),
      List.drop_eq_nil_of_le (by omega), word_append_digit b k [] d (by simpa using hk)]
    simp

lemma words_append_partial (b k : ℕ) (ds : List ℕ) (d : ℕ) (hk : 0 < k) (h : ds.length % k ≠ 0) :
    words b k (ds ++ [d])
      = (words b k ds).modify (ds.length / k) (· + d * b ^ (k - 1 - ds.length % k)) := by
  have hdiv := Nat.div_add_mod ds.length k
  have hmod := Nat.mod_lt ds.length hk
  generalize hq : ds.length / k = q at hdiv ⊢
  generalize hr : ds.length % k = r at hdiv hmod h ⊢
  have hcount : (ds.length + k - 1) / k = q + 1 := by
    rw [← hdiv, show k * q + r + k - 1 = (r - 1) + k * (q + 1) by rw [Nat.mul_add]; omega,
      Nat.add_mul_div_left _ _ hk, Nat.div_eq_of_lt (by omega), Nat.zero_add]
  have hcount' : ((ds ++ [d]).length + k - 1) / k = q + 1 := by
    rw [List.length_append, List.length_singleton, ← hdiv,
      show k * q + r + 1 + k - 1 = r + k * (q + 1) by rw [Nat.mul_add]; omega,
      Nat.add_mul_div_left _ _ hk, Nat.div_eq_of_lt (by omega), Nat.zero_add]
  apply List.ext_getElem
  · rw [length_words, List.length_modify, length_words, hcount, hcount']
  · intro j hj _
    rw [length_words, hcount'] at hj
    simp only [List.getElem_modify, words, List.getElem_map, List.getElem_range]
    have hle : k * j ≤ k * q := Nat.mul_le_mul_left k (by omega)
    rw [List.drop_append_of_le_length (by omega)]
    split_ifs with heq
    · subst heq
      rw [word_append_digit _ _ _ _ (by rw [List.length_drop]; omega), List.length_drop]
      congr 3
      omega
    · have hle : k * (j + 1) ≤ k * q := Nat.mul_le_mul_left k (by omega)
      rw [Nat.mul_add] at hle
      rw [word_append_of_le _ _ _ _ (by rw [List.length_drop]; omega)]

lemma words_digit (b k : ℕ) (ds : List ℕ) (h : ∀ d ∈ ds, d < b) (hb : 0 < b) (hk : 0 < k)
    (i : ℕ) (hi : i < ds.length) :
    (words b k ds).getD (i / k) 0 / b ^ (k - 1 - i % k) % b = ds.getD i 0 := by
  have hcount : i / k < (ds.length + k - 1) / k := by
    have hdiv := Nat.div_add_mod i k
    rw [Nat.lt_iff_add_one_le, Nat.le_div_iff_mul_le hk, Nat.add_mul, Nat.mul_comm (i / k)]
    omega
  rw [List.getD_eq_getElem?_getD, words, List.getElem?_map, List.getElem?_range hcount]
  simp only [Option.map_some, Option.getD_some]
  rw [word_digit b _ (fun d hd => h d (List.mem_of_mem_drop hd)) hb k _ (Nat.mod_lt i hk),
    List.getD_eq_getElem?_getD, List.getElem?_drop, Nat.div_add_mod, List.getD_eq_getElem?_getD]

end Packing
