/-
# Big-endian numerals and byte memory

Two small toolkits for programs that assemble packets by hand.
-/
import Mathlib.Data.List.GetD
import Mathlib.Tactic

/-! ## Big-endian numerals -/

variable (bs : List UInt8)

def beNat : ℕ := bs.foldl (fun acc b => acc * 256 + b.toNat) 0

def beBytes : ℕ → ℕ → List UInt8
  | 0, _ => []
  | n + 1, v => UInt8.ofNat (v / 256 ^ n) :: beBytes n v

@[simp] lemma length_beBytes (n v : ℕ) : (beBytes n v).length = n := by
  induction n with
  | zero => rfl
  | succ n ih => simp [beBytes, ih]

lemma foldl_beNat (a : ℕ) :
    bs.foldl (fun acc b => acc * 256 + b.toNat) a = a * 256 ^ bs.length + beNat bs := by
  induction bs generalizing a with
  | nil => simp [beNat]
  | cons b bs ih =>
    have hb : beNat (b :: bs) = (0 * 256 + b.toNat) * 256 ^ bs.length + beNat bs := ih _
    rw [List.foldl_cons, ih, hb, List.length_cons]
    ring

lemma beNat_cons (b : UInt8) (bs : List UInt8) :
    beNat (b :: bs) = b.toNat * 256 ^ bs.length + beNat bs := by
  rw [beNat, List.foldl_cons, foldl_beNat]
  simp

lemma beNat_append (as bs : List UInt8) :
    beNat (as ++ bs) = beNat as * 256 ^ bs.length + beNat bs := by
  rw [beNat, List.foldl_append, foldl_beNat]
  rfl

lemma beNat_lt : beNat bs < 256 ^ bs.length := by
  induction bs with
  | nil => simp [beNat]
  | cons b bs ih =>
    rw [beNat_cons, List.length_cons, pow_succ]
    have hb : b.toNat ≤ 255 := Nat.le_of_lt_succ b.toNat_lt
    have hmul : b.toNat * 256 ^ bs.length ≤ 255 * 256 ^ bs.length :=
      Nat.mul_le_mul_right _ hb
    omega

/-- **Round trip.**  Reading back the low `n` bytes of `v` gives `v` modulo
`256 ^ n`. -/
theorem beNat_beBytes (n v : ℕ) : beNat (beBytes n v) = v % 256 ^ n := by
  induction n with
  | zero => simp [beBytes, beNat, Nat.mod_one]
  | succ n ih =>
    have hbyte : (UInt8.ofNat (v / 256 ^ n)).toNat = v / 256 ^ n % 256 := by simp
    rw [beBytes, beNat_cons, length_beBytes, ih, hbyte, pow_succ, Nat.mod_mul,
      Nat.mul_comm, Nat.add_comm]

/-- **Round trip, the other way.**  A byte string of length `n` is the numeral
of its value. -/
theorem beBytes_beNat : beBytes bs.length (beNat bs) = bs := by
  have aux : ∀ (cs : List UInt8) (k : ℕ),
      beBytes cs.length (k * 256 ^ cs.length + beNat cs) = cs := by
    intro cs
    induction cs with
    | nil => intro k; rfl
    | cons c cs ih =>
      intro k
      rw [List.length_cons, beBytes, beNat_cons]
      have hpos : 0 < 256 ^ cs.length := Nat.pow_pos (by norm_num)
      have hsplit : k * 256 ^ (cs.length + 1) + (c.toNat * 256 ^ cs.length + beNat cs)
          = (k * 256 + c.toNat) * 256 ^ cs.length + beNat cs := by ring
      rw [hsplit, ih, Nat.mul_comm, Nat.mul_add_div hpos, Nat.div_eq_of_lt (beNat_lt cs)]
      congr 1
      apply UInt8.toNat_inj.mp
      simp
  simpa using aux bs 0

lemma beBytes_add (m n v : ℕ) : beBytes (m + n) v = beBytes m (v / 256 ^ n) ++ beBytes n v := by
  induction m with
  | zero => simp [beBytes]
  | succ m ih =>
    rw [Nat.succ_add, beBytes, ih, beBytes, Nat.div_div_eq_div_mul, ← pow_add, Nat.add_comm n m,
      List.cons_append]

lemma beNat_inj {as bs : List UInt8} (hlen : as.length = bs.length)
    (h : beNat as = beNat bs) : as = bs := by
  rw [← beBytes_beNat as, ← beBytes_beNat bs, hlen, h]

def compareBytes : List UInt8 → List UInt8 → ℤ
  | a :: as, b :: bs => if a > b then -1 else if a < b then 1 else compareBytes as bs
  | _, _ => 0

lemma compareBytes_eq (as bs : List UInt8) (hlen : as.length = bs.length) : compareBytes as bs
      = if beNat bs < beNat as then -1 else if beNat as < beNat bs then 1 else 0 := by
  induction as generalizing bs with
  | nil =>
    rw [List.length_nil] at hlen
    rw [List.length_eq_zero_iff.mp hlen.symm]
    simp [compareBytes]
  | cons a as ih =>
    cases bs with
    | nil => simp at hlen
    | cons b bs =>
      rw [List.length_cons, List.length_cons, Nat.succ_inj] at hlen
      have ha := beNat_lt as
      have hb := beNat_lt bs
      rw [← hlen] at hb
      rw [compareBytes, ih bs hlen, beNat_cons, beNat_cons, ← hlen]
      -- the head byte outweighs everything behind it
      have houtweigh : ∀ x y u v : ℕ, x < y → u < 256 ^ as.length →
          x * 256 ^ as.length + u < y * 256 ^ as.length + v := by
        intro x y u v hxy hu
        have hmul : (x + 1) * 256 ^ as.length ≤ y * 256 ^ as.length :=
          Nat.mul_le_mul_right _ hxy
        rw [Nat.add_mul, Nat.one_mul] at hmul
        omega
      rcases lt_trichotomy a.toNat b.toNat with hab | hab | hab
      · have hlt := houtweigh a.toNat b.toNat (beNat as) (beNat bs) hab ha
        rw [if_neg (by rw [gt_iff_lt, UInt8.lt_iff_toNat_lt]; omega),
          if_pos (UInt8.lt_iff_toNat_lt.mpr hab), if_neg (by omega), if_pos hlt]
      · have heq : a = b := UInt8.toNat_inj.mp hab
        subst heq
        rw [if_neg (UInt8.lt_irrefl a), if_neg (UInt8.lt_irrefl a)]
        simp only [add_lt_add_iff_left]
      · have hlt := houtweigh b.toNat a.toNat (beNat bs) (beNat as) hab hb
        rw [if_pos (UInt8.lt_iff_toNat_lt.mpr hab), if_pos hlt]

def leBytes (n v : ℕ) : List UInt8 := (beBytes n v).reverse

def byterev (v : ℕ) : ℕ := beNat (beBytes 4 v).reverse

lemma leBytes_byterev (v : ℕ) : leBytes 4 (byterev v) = beBytes 4 v := by
  have h := beBytes_beNat (beBytes 4 v).reverse
  rw [List.length_reverse, length_beBytes] at h
  rw [leBytes, byterev, h, List.reverse_reverse]

/-! ## Byte memory -/

abbrev Mem := ℕ → UInt8

namespace Mem

def store (m : Mem) (a : ℕ) (bs : List UInt8) : Mem :=
  fun x => if a ≤ x ∧ x < a + bs.length then bs.getD (x - a) 0 else m x

def load (m : Mem) (a n : ℕ) : List UInt8 := (List.range n).map fun i => m (a + i)

variable (m : Mem) (a : ℕ) (bs : List UInt8)

@[simp] lemma length_load (a n : ℕ) : (m.load a n).length = n := by
  simp [load]

lemma store_apply_of_lt {a x : ℕ} (bs : List UInt8) (h : x < a) : m.store a bs x = m x := by
  rw [store, if_neg (by omega)]

lemma store_apply_of_ge {a x : ℕ} (bs : List UInt8) (h : a + bs.length ≤ x) :
    m.store a bs x = m x := by
  rw [store, if_neg (by omega)]

lemma store_apply_add {i : ℕ} (h : i < bs.length) : m.store a bs (a + i) = bs.getD i 0 := by
  rw [store, if_pos (by omega), Nat.add_sub_cancel_left]

lemma load_store_same : (m.store a bs).load a bs.length = bs := by
  apply List.ext_getElem
  · simp
  · intro i h₁ h₂
    simp only [load, List.getElem_map, List.getElem_range]
    rw [store_apply_add m a bs h₂]
    simp [h₂]

@[simp] lemma store_singleton_same (b : UInt8) : m.store a [b] a = b := by
  simp [store]

lemma store_singleton_of_ne {a x : ℕ} (b : UInt8) (h : x ≠ a) : m.store a [b] x = m x := by
  rcases Nat.lt_or_gt_of_ne h with hlt | hgt
  · exact m.store_apply_of_lt [b] hlt
  · exact m.store_apply_of_ge [b] hgt

lemma store_apply_congr {m m' : Mem} {x : ℕ} (a : ℕ) (bs : List UInt8) (h : m x = m' x) :
    m.store a bs x = m'.store a bs x := by
  unfold store
  split_ifs
  · rfl
  · exact h

lemma load_congr {m m' : Mem} {a n : ℕ} (h : ∀ x, a ≤ x → m x = m' x) :
    m.load a n = m'.load a n := by
  apply List.map_congr_left
  intro i _
  exact h (a + i) (Nat.le_add_right a i)

lemma beNat_load_store (a n v : ℕ) : beNat ((m.store a (beBytes n v)).load a n) = v % 256 ^ n := by
  have h := load_store_same m a (beBytes n v)
  rw [length_beBytes] at h
  rw [h, beNat_beBytes]

lemma load_store_disjoint {a b n : ℕ} (bs : List UInt8) (h : b + n ≤ a ∨ a + bs.length ≤ b) :
    (m.store a bs).load b n = m.load b n := by
  apply List.map_congr_left
  intro i hi
  rw [List.mem_range] at hi
  rcases h with h | h
  · exact store_apply_of_lt m bs (by omega)
  · exact store_apply_of_ge m bs (by omega)

lemma store_store_append (bs cs : List UInt8) :
    (m.store a bs).store (a + bs.length) cs = m.store a (bs ++ cs) := by
  funext x
  simp only [store, List.length_append]
  by_cases h₁ : a + bs.length ≤ x
  · by_cases h₂ : x < a + bs.length + cs.length
    · rw [if_pos ⟨h₁, h₂⟩, if_pos (by omega), List.getD_append_right _ _ _ _ (by omega)]
      congr 1
      omega
    · rw [if_neg (by omega), if_neg (by omega), if_neg (by omega)]
  · rw [if_neg (by omega)]
    by_cases h₃ : a ≤ x
    · rw [if_pos (by omega), if_pos (by omega), List.getD_append _ _ _ _ (by omega)]
    · rw [if_neg (by omega), if_neg (by omega)]

@[simp] lemma store_nil : m.store a [] = m := by
  funext x
  rw [store, if_neg (by simp)]

lemma load_add (a k n : ℕ) : m.load a (k + n) = m.load a k ++ m.load (a + k) n := by
  unfold load
  rw [List.range_add, List.map_append, List.map_map]
  congr 1
  apply List.map_congr_left
  intro i _
  simp [Nat.add_assoc]

lemma drop_load (a k n : ℕ) : (m.load a (k + n)).drop k = m.load (a + k) n := by
  rw [load_add, List.drop_left' (length_load m a k)]

def Holds (m : Mem) (a : ℕ) (bs : List UInt8) : Prop := m.load a bs.length = bs

lemma holds_append {m : Mem} {a : ℕ} {bs cs : List UInt8} :
    m.Holds a (bs ++ cs) ↔ m.Holds a bs ∧ m.Holds (a + bs.length) cs := by
  unfold Holds
  rw [List.length_append, load_add,
    List.append_eq_append_iff_of_size_eq_left (length_load m a bs.length)]

lemma Holds.apply {m : Mem} {a : ℕ} {bs : List UInt8} (h : m.Holds a bs) {i : ℕ}
    (hi : i < bs.length) : m (a + i) = bs.getD i 0 := by
  rw [← h, List.getD_eq_getElem?_getD]
  simp [load, hi]

lemma Holds.load_part {m : Mem} {a : ℕ} {bs : List UInt8} (h : m.Holds a bs) {k n : ℕ}
    (hk : k + n ≤ bs.length) : m.load (a + k) n = (bs.drop k).take n := by
  obtain ⟨j, hj⟩ := Nat.exists_eq_add_of_le hk
  unfold Holds at h
  rw [hj, Nat.add_assoc] at h
  rw [← h, drop_load, load_add, List.take_left' (length_load m (a + k) n)]

lemma Holds.block {α : Type*} {m : Mem} {a : ℕ} {g : α → List UInt8} {size : ℕ}
    (hg : ∀ x, (g x).length = size) {xs : List α} (h : m.Holds a (xs.flatMap g)) {j : ℕ} {x : α}
    (hx : xs[j]? = some x) : m.Holds (a + size * j) (g x) := by
  induction xs generalizing a j with
  | nil => cases hx
  | cons y ys ih =>
    rw [List.flatMap_cons, holds_append, hg] at h
    cases j with
    | zero =>
      rw [List.getElem?_cons_zero, Option.some.injEq] at hx
      rw [← hx]
      exact h.1
    | succ j =>
      rw [Nat.mul_succ, Nat.add_comm (size * j), ← Nat.add_assoc]
      exact ih h.2 hx

end Mem
