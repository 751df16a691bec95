/-
# Ring buffers and queues that are filled in batches

A ring of `n` cells is read from a position on, around the end (`window`).  Two positions that
are fewer than `n` apart tell how many cells lie between them (`distance`).  A position that was
moved out of the ring is brought back by whole turns (`normalize`).

`BatchQueue` is what a ring with one writer and one reader is for: a bounded queue in which
what was stored becomes visible to the reader when the writer publishes it.
-/
import Mathlib.Tactic

namespace Ring

variable {α : Type*} {n : ℕ}

def next (n p : ℕ) : ℕ := if p + 1 = n then 0 else p + 1

def window (n : ℕ) (cells : ℕ → α) (p k : ℕ) : List α :=
  (List.range k).map fun j => cells ((p + j) % n)

def distance (n p q : ℕ) : ℕ := (q + n - p) % n

variable (cells : ℕ → α) {p : ℕ}

lemma next_eq (h : p < n) : next n p = (p + 1) % n := by
  unfold next
  split_ifs with hlast
  · rw [hlast, Nat.mod_self]
  · exact (Nat.mod_eq_of_lt (by omega)).symm

lemma next_lt (h : p < n) : next n p < n := by
  unfold next
  split_ifs <;> omega

lemma next_mod (hn : 0 < n) (p : ℕ) : next n (p % n) = (p + 1) % n := by
  rw [next_eq (Nat.mod_lt p hn), Nat.mod_add_mod]

lemma next_add_mod (h : p < n) (k : ℕ) : (next n p + k) % n = (p + (k + 1)) % n := by
  rw [next_eq h, Nat.mod_add_mod]
  congr 1
  omega

@[simp] lemma length_window (p k : ℕ) : (window n cells p k).length = k := by
  simp [window]

lemma window_succ (p k : ℕ) :
    window n cells p (k + 1) = window n cells p k ++ [cells ((p + k) % n)] := by
  simp [window, List.range_succ]

lemma window_cons (h : p < n) (k : ℕ) :
    window n cells p (k + 1) = cells p :: window n cells (next n p) k := by
  unfold window
  rw [List.range_succ_eq_map, List.map_cons, List.map_map, Nat.add_zero, Nat.mod_eq_of_lt h]
  congr 1
  refine List.map_congr_left fun j _ => ?_
  rw [next_add_mod h]
  rfl

lemma add_mod_inj {p i j : ℕ} (hi : i < n) (hj : j < n) (h : (p + i) % n = (p + j) % n) :
    i = j := by
  have hcancel : i % n = j % n := Nat.ModEq.add_left_cancel' p h
  rwa [Nat.mod_eq_of_lt hi, Nat.mod_eq_of_lt hj] at hcancel

lemma window_update (p : ℕ) {k : ℕ} (h : k < n) (v : α) :
    window n (Function.update cells ((p + k) % n) v) p k = window n cells p k := by
  refine List.map_congr_left fun j hj => Function.update_of_ne ?_ ..
  intro heq
  have hlt := List.mem_range.mp hj
  have := add_mod_inj (hlt.trans h) h heq
  omega

lemma distance_add {p k : ℕ} (hp : p < n) (hk : k < n) : distance n p ((p + k) % n) = k := by
  unfold distance
  rcases Nat.lt_or_ge (p + k) n with hlt | hge
  · rw [Nat.mod_eq_of_lt hlt, show p + k + n - p = k + n by omega, Nat.add_mod_right,
      Nat.mod_eq_of_lt hk]
  · have hround : (p + k) % n = p + k - n := by
      rw [Nat.mod_eq_sub_mod hge, Nat.mod_eq_of_lt (by omega)]
    rw [hround, show p + k - n + n - p = k by omega, Nat.mod_eq_of_lt hk]

lemma add_distance {p q : ℕ} (hp : p < n) (hq : q < n) : (p + distance n p q) % n = q := by
  unfold distance
  rcases Nat.lt_or_ge q p with hlt | hge
  · rw [Nat.mod_eq_of_lt (by omega : q + n - p < n), show p + (q + n - p) = q + n by omega,
      Nat.add_mod_right, Nat.mod_eq_of_lt hq]
  · have hround : (q + n - p) % n = q - p := by
      rw [show q + n - p = q - p + n by omega, Nat.add_mod_right, Nat.mod_eq_of_lt (by omega)]
    rw [hround, show p + (q - p) = q by omega, Nat.mod_eq_of_lt hq]

lemma distance_lt (hn : 0 < n) (p q : ℕ) : distance n p q < n := Nat.mod_lt _ hn

lemma eq_add_mod_iff {p k : ℕ} (hp : p < n) (hk : k < n) : p = (p + k) % n ↔ k = 0 := by
  constructor
  · intro h
    have h0 : (p + 0) % n = (p + k) % n := by
      rw [Nat.add_zero, Nat.mod_eq_of_lt hp]
      exact h
    exact (add_mod_inj (Nat.zero_lt_of_lt hp) hk h0).symm
  · rintro rfl
    rw [Nat.add_zero, Nat.mod_eq_of_lt hp]

def raise (n : ℕ) : ℕ → ℤ → ℤ
  | 0, p => p
  | fuel + 1, p => if p < 0 then raise n fuel (p + n) else p

def lower (n : ℕ) : ℕ → ℤ → ℤ
  | 0, p => p
  | fuel + 1, p => if n ≤ p then lower n fuel (p - n) else p

def normalize (n : ℕ) (p : ℤ) : ℤ :=
  let raised := raise n p.natAbs p
  lower n raised.natAbs raised

lemma raise_spec (hn : 0 < n) (fuel : ℕ) {p : ℤ} (hfuel : -p ≤ fuel) :
    0 ≤ raise n fuel p ∧ raise n fuel p % n = p % n := by
  induction fuel generalizing p with
  | zero => exact ⟨by rw [raise]; omega, rfl⟩
  | succ fuel ih =>
    rw [raise]
    split_ifs with hneg
    · obtain ⟨hnonneg, hmod⟩ := ih (p := p + n) (by omega)
      exact ⟨hnonneg, hmod.trans (Int.add_emod_right p n)⟩
    · exact ⟨by omega, rfl⟩

lemma lower_eq (hn : 0 < n) {fuel : ℕ} {p : ℤ} (hp : 0 ≤ p) (hfuel : p ≤ fuel) :
    lower n fuel p = p % n := by
  induction fuel generalizing p with
  | zero =>
    rw [lower, Int.emod_eq_of_lt hp]
    omega
  | succ fuel ih =>
    rw [lower]
    split_ifs with hbehind
    · rw [ih (by omega) (by omega), Int.sub_emod_right]
    · exact (Int.emod_eq_of_lt hp (by omega)).symm

lemma normalize_eq (hn : 0 < n) (p : ℤ) : normalize n p = p % n := by
  obtain ⟨hnonneg, hmod⟩ := raise_spec (p := p) hn p.natAbs (by omega)
  unfold normalize
  dsimp only
  rw [lower_eq hn hnonneg (by omega), hmod]

lemma distance_eq_emod {p q : ℕ} (hp : p < n) : (distance n p q : ℤ) = ((q : ℤ) - p) % n := by
  unfold distance
  rw [Int.natCast_mod, Nat.cast_sub (by omega), Nat.cast_add, add_sub_right_comm,
    Int.add_emod_right]

lemma distance_normalize {p q : ℕ} (hp : p < n) (d : ℤ) :
    (distance n p (normalize n ((q : ℤ) - d)).toNat : ℤ) = ((distance n p q : ℤ) - d) % n := by
  have hn : 0 < n := Nat.zero_lt_of_lt hp
  have hnonneg : 0 ≤ ((q : ℤ) - d) % n := Int.emod_nonneg _ (by omega)
  rw [distance_eq_emod hp, distance_eq_emod hp, normalize_eq hn, Int.toNat_of_nonneg hnonneg,
    Int.emod_sub_emod, Int.emod_sub_emod, sub_right_comm]

end Ring

/-! ## Queues that are filled in batches -/

structure BatchQueue (α : Type*) where
  content : List α
  visible : ℕ
  deriving DecidableEq

namespace BatchQueue

variable {α : Type*}

inductive Act (α : Type*) where
  | accept (v : α)
  | refuse (v : α)
  | store (v : α)
  | publish
  | take (v : α)
  | miss
  deriving DecidableEq

variable [DecidableEq α]

def step (capacity : ℕ) (q : BatchQueue α) : Act α → Option (BatchQueue α)
  | .accept _ => if q.content.length < capacity then some q else none
  | .refuse _ => if q.content.length = capacity then some q else none
  | .store v =>
    if q.content.length < capacity then some { q with content := q.content ++ [v] } else none
  | .publish => some { q with visible := q.content.length }
  | .take v =>
    if 0 < q.visible ∧ q.content.head? = some v then some ⟨q.content.tail, q.visible - 1⟩ else none
  | .miss => if q.visible = 0 then some q else none

variable {capacity : ℕ} (acts : List (Act α))

def stored : List α :=
  acts.filterMap fun
    | .store v => some v
    | _ => none

def taken : List α :=
  acts.filterMap fun
    | .take v => some v
    | _ => none

/-- **Step.**  Nothing is lost or made up by one action. -/
theorem step_conservation {q q' : BatchQueue α} {a : Act α} (h : q.step capacity a = some q') :
    q.content ++ stored [a] = taken [a] ++ q'.content := by
  cases a with
  | accept v =>
    obtain ⟨-, ⟨⟩⟩ := Option.ite_none_right_eq_some.mp h
    exact List.append_nil _
  | refuse v =>
    obtain ⟨-, ⟨⟩⟩ := Option.ite_none_right_eq_some.mp h
    exact List.append_nil _
  | store v =>
    obtain ⟨-, ⟨⟩⟩ := Option.ite_none_right_eq_some.mp h
    rfl
  | publish =>
    cases h
    exact List.append_nil _
  | take v =>
    obtain ⟨⟨-, hhead⟩, ⟨⟩⟩ := Option.ite_none_right_eq_some.mp h
    obtain ⟨rest, hrest⟩ := List.head?_eq_some_iff.mp hhead
    show q.content ++ [] = [v] ++ q.content.tail
    rw [hrest]
    exact List.append_nil _
  | miss =>
    obtain ⟨-, ⟨⟩⟩ := Option.ite_none_right_eq_some.mp h
    exact List.append_nil _

/-- **Conservation.**  In a legal sequence of actions, what is taken is what was there and what is
stored, in order, without what is still there. -/
theorem conservation {q q' : BatchQueue α} {acts : List (Act α)}
    (h : acts.foldlM (step capacity) q = some q') :
    q.content ++ stored acts = taken acts ++ q'.content := by
  induction acts generalizing q with
  | nil =>
    cases h
    exact List.append_nil _
  | cons a acts ih =>
    rw [List.foldlM_cons] at h
    obtain ⟨q₁, hq₁, hrest⟩ := Option.bind_eq_some_iff.mp h
    have hstored : stored (a :: acts) = stored [a] ++ stored acts :=
      List.filterMap_append (l := [a])
    have htaken : taken (a :: acts) = taken [a] ++ taken acts :=
      List.filterMap_append (l := [a])
    rw [hstored, htaken, ← List.append_assoc, step_conservation hq₁, List.append_assoc, ih hrest,
      List.append_assoc]

end BatchQueue
