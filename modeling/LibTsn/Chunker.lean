/-
# Cutting a stream into consecutive blocks

A `Chunker` cuts a stream of items into blocks of varying length: a block begun
in phase `r` takes `size r` items, and the block after it is begun in phase
`next r`.  Feeding items one at a time keeps the finished blocks and the items
of the unfinished one.
-/
import LibTsn.Run

structure Chunker (ρ : Type*) where
  size : ρ → ℕ
  next : ρ → ρ

namespace Chunker

variable {ρ α : Type*}

structure State (ρ α : Type*) where
  phase : ρ
  pending : List α
  blocks : List (List α)

def start (r : ρ) : State ρ α := ⟨r, [], []⟩

variable (c : Chunker ρ) (s : State ρ α) (r : ρ) (xs : List α)

def feed (x : α) : State ρ α :=
  if s.pending.length + 1 = c.size s.phase then
    ⟨c.next s.phase, [], s.blocks ++ [s.pending ++ [x]]⟩
  else
    { s with pending := s.pending ++ [x] }

def feedAll (r : ρ) (xs : List α) : State ρ α :=
  Run.runFrom c.feed (start r) xs

lemma feed_of_full (x : α) (h : s.pending.length + 1 = c.size s.phase) :
    c.feed s x = ⟨c.next s.phase, [], s.blocks ++ [s.pending ++ [x]]⟩ := by
  rw [feed, if_pos h]

lemma feed_of_not_full (x : α) (h : s.pending.length + 1 ≠ c.size s.phase) :
    c.feed s x = { s with pending := s.pending ++ [x] } := by
  rw [feed, if_neg h]

@[simp] lemma feedAll_nil : c.feedAll r ([] : List α) = start r := rfl

lemma feedAll_concat (x : α) : c.feedAll r (xs ++ [x]) = c.feed (c.feedAll r xs) x := by
  rw [feedAll, Run.runFrom_append]
  rfl

/-- **Nothing is lost.**  The finished blocks and the unfinished one are the
items fed. -/
theorem flatten_blocks_append_pending :
    (c.feedAll r xs).blocks.flatten ++ (c.feedAll r xs).pending = xs := by
  induction xs using List.reverseRecOn with
  | nil => rfl
  | append_singleton xs x ih =>
    rw [feedAll_concat]
    by_cases h : (c.feedAll r xs).pending.length + 1 = c.size (c.feedAll r xs).phase
    · rw [feed_of_full c _ x h]
      simp only [List.flatten_append, List.flatten_cons, List.flatten_nil,
        List.append_nil]
      rw [← List.append_assoc, ih]
    · rw [feed_of_not_full c _ x h]
      simp only
      rw [← List.append_assoc, ih]

lemma phase_feedAll : (c.feedAll r xs).phase = c.next^[(c.feedAll r xs).blocks.length] r := by
  induction xs using List.reverseRecOn with
  | nil => rfl
  | append_singleton xs x ih =>
    rw [feedAll_concat]
    by_cases h : (c.feedAll r xs).pending.length + 1 = c.size (c.feedAll r xs).phase
    · rw [feed_of_full c _ x h]
      simp only [List.length_append, List.length_singleton,
        Function.iterate_succ_apply', ← ih]
    · rw [feed_of_not_full c _ x h]
      exact ih

/-- **Block sizes.**  The `n`-th block has the size of the `n`-th phase. -/
theorem length_block (n : ℕ) (b : List α) (hb : (c.feedAll r xs).blocks[n]? = some b) :
    b.length = c.size (c.next^[n] r) := by
  induction xs using List.reverseRecOn with
  | nil => simp [start] at hb
  | append_singleton xs x ih =>
    rw [feedAll_concat] at hb
    by_cases h : (c.feedAll r xs).pending.length + 1 = c.size (c.feedAll r xs).phase
    · rw [feed_of_full c _ x h] at hb
      rcases Nat.lt_trichotomy n (c.feedAll r xs).blocks.length with hn | hn | hn
      · rw [List.getElem?_append_left hn] at hb
        exact ih hb
      · subst hn
        rw [List.getElem?_concat_length, Option.some.injEq] at hb
        rw [← hb, List.length_append, List.length_singleton, h, phase_feedAll]
      · rw [List.getElem?_eq_none (by simp; omega)] at hb
        exact absurd hb (by simp)
    · rw [feed_of_not_full c _ x h] at hb
      exact ih hb

lemma pending_length_lt (hpos : ∀ r, 0 < c.size r) (r : ρ) (xs : List α) :
    (c.feedAll r xs).pending.length < c.size (c.feedAll r xs).phase := by
  induction xs using List.reverseRecOn with
  | nil => exact hpos r
  | append_singleton xs x ih =>
    rw [feedAll_concat]
    by_cases h : (c.feedAll r xs).pending.length + 1 = c.size (c.feedAll r xs).phase
    · rw [feed_of_full c _ x h]
      exact hpos _
    · rw [feed_of_not_full c _ x h]
      simp only [List.length_append, List.length_singleton]
      omega

/-! ## Counting -/

def total (r : ρ) (n : ℕ) : ℕ := ∑ i ∈ Finset.range n, c.size (c.next^[i] r)

lemma total_succ (n : ℕ) : c.total r (n + 1) = c.total r n + c.size (c.next^[n] r) :=
  Finset.sum_range_succ _ n

lemma total_mono : Monotone (c.total r) :=
  monotone_nat_of_le_succ fun n => (c.total_succ r n).symm ▸ Nat.le_add_right _ _

lemma sum_length_take {n : ℕ} (hn : n ≤ (c.feedAll r xs).blocks.length) :
    (((c.feedAll r xs).blocks.take n).map List.length).sum = c.total r n := by
  induction n with
  | zero => rfl
  | succ n ih =>
    have hblock := length_block c r xs n _ (List.getElem?_eq_getElem hn)
    rw [List.take_add_one, List.getElem?_eq_getElem hn, Option.toList_some, List.map_append,
      List.sum_append, ih (Nat.le_of_succ_le hn), total_succ, ← hblock]
    rfl

lemma length_feedAll : xs.length =
      c.total r (c.feedAll r xs).blocks.length + (c.feedAll r xs).pending.length := by
  have hlength := congrArg List.length (flatten_blocks_append_pending c r xs)
  rw [List.length_append, List.length_flatten] at hlength
  rw [← hlength, ← sum_length_take c r xs le_rfl, List.take_length]

/-- **Counting.**  The finished blocks are as many as the items fed fill. -/
theorem length_blocks_eq (hpos : ∀ r, 0 < c.size r) (r : ρ) (xs : List α) {n : ℕ}
    (hlow : c.total r n ≤ xs.length) (hhigh : xs.length < c.total r (n + 1)) :
    (c.feedAll r xs).blocks.length = n := by
  have hlength := length_feedAll c r xs
  have hshort := pending_length_lt c hpos r xs
  rw [phase_feedAll] at hshort
  generalize (c.feedAll r xs).blocks.length = m at hlength hshort ⊢
  have hnext := total_succ c r m
  rcases Nat.lt_trichotomy m n with hm | hm | hm
  · have := total_mono c r (show m + 1 ≤ n from hm)
    omega
  · exact hm
  · have := total_mono c r (show n + 1 ≤ m from hm)
    omega

end Chunker
