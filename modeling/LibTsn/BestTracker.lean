/-
# Tracking the best candidate, with a drop rule

A selector hears candidates one at a time, in any order and with repetitions,
and keeps one of them; at the start, and after a drop, it holds its own
candidate `own`.  A better candidate than the one held replaces it.  A worse
one than a foreign one held makes the selector drop it.
-/
import Mathlib.Tactic

namespace BestTracker

variable {α : Type*} [LinearOrder α] (own : α) (worse : α → α → Prop) [DecidableRel worse]

def step (v x : α) : α :=
  if x < v then x else if v < own ∧ worse v x then own else v

variable (xs : List α)

def track : α := xs.foldl (step own worse) own

def best : α := xs.foldl min own

lemma best_le_own : best own xs ≤ own := by
  induction xs using List.reverseRecOn with
  | nil => exact le_rfl
  | append_singleton xs x ih =>
    rw [best, List.foldl_append]
    exact le_trans (min_le_left _ _) ih

lemma best_le_of_mem {xs : List α} {x : α} (hx : x ∈ xs) : best own xs ≤ x := by
  induction xs using List.reverseRecOn with
  | nil => simp at hx
  | append_singleton xs y ih =>
    rw [best, List.foldl_append]
    rcases List.mem_append.mp hx with hx | hx
    · exact le_trans (min_le_left _ _) (ih hx)
    · rw [List.mem_singleton] at hx
      rw [hx]
      exact min_le_right _ _

lemma best_mem : best own xs = own ∨ best own xs ∈ xs := by
  induction xs using List.reverseRecOn with
  | nil => exact Or.inl rfl
  | append_singleton xs x ih =>
    have hsplit : best own (xs ++ [x]) = min (best own xs) x := by
      rw [best, List.foldl_append]
      rfl
    rw [hsplit]
    rcases min_choice (best own xs) x with h | h
    · rw [h]
      rcases ih with ih | ih
      · exact Or.inl ih
      · exact Or.inr (List.mem_append_left _ ih)
    · rw [h]
      exact Or.inr (by simp)

lemma foldl_step_mem (v : α) (xs : List α) :
    xs.foldl (step own worse) v = own ∨ xs.foldl (step own worse) v = v ∨
      xs.foldl (step own worse) v ∈ xs := by
  induction xs generalizing v with
  | nil => exact Or.inr (Or.inl rfl)
  | cons x xs ih =>
    have hstep : step own worse v x = x ∨ step own worse v x = own ∨ step own worse v x = v := by
      unfold step
      split_ifs
      · exact Or.inl rfl
      · exact Or.inr (Or.inl rfl)
      · exact Or.inr (Or.inr rfl)
    rw [List.foldl_cons]
    rcases ih (step own worse v x) with h | h | h
    · exact Or.inl h
    · rcases hstep with h' | h' | h'
      · rw [h, h']
        exact Or.inr (Or.inr (by simp))
      · exact Or.inl (h.trans h')
      · exact Or.inr (Or.inl (h.trans h'))
    · exact Or.inr (Or.inr (List.mem_cons_of_mem _ h))

section

variable {own worse}

lemma step_eq_of_le (hworse : ∀ v x, worse v x → v < x) {m v : α} (h : m ≤ v) :
    step own worse v m = m := by
  unfold step
  rcases lt_or_eq_of_le h with h | h
  · rw [if_pos h]
  · subst h
    rw [if_neg (lt_irrefl m), if_neg (fun hw => lt_irrefl m (hworse m m hw.2))]

lemma foldl_step_eq_iff {m : α} (hm : m < own) {xs : List α} (hxs : ∀ x ∈ xs, m < x) :
    xs.foldl (step own worse) m = m ↔ ∀ x ∈ xs, ¬ worse m x := by
  induction xs with
  | nil => simp
  | cons x xs ih =>
    have hx : m < x := hxs x (by simp)
    have hrest : ∀ y ∈ xs, m < y := fun y hy => hxs y (List.mem_cons_of_mem _ hy)
    rw [List.foldl_cons, step, if_neg (not_lt_of_gt hx)]
    by_cases hw : worse m x
    · rw [if_pos ⟨hm, hw⟩]
      refine iff_of_false (fun h => ?_) (fun h => h x (by simp) hw)
      rcases foldl_step_mem own worse own xs with h' | h' | h'
      · rw [h'] at h
        exact hm.ne' h
      · rw [h'] at h
        exact hm.ne' h
      · rw [h] at h'
        exact lt_irrefl m (hrest m h')
    · rw [if_neg (fun h => hw h.2), ih hrest]
      simp [hw]

/-- **Selection.**  The selector ends on the best candidate heard exactly when
that is its own, or nothing worse was heard after the best one was heard last. -/
theorem track_eq_min_iff (own : α) (hworse : ∀ v x, worse v x → v < x) (xs : List α) :
    track own worse xs = best own xs ↔
      best own xs = own ∨
        ∀ x ∈ xs.reverse.takeWhile (fun x => x ≠ best own xs), ¬ worse (best own xs) x := by
  set m := best own xs with hm
  by_cases hown : m = own
  · -- nothing heard is better than `own`, so it is never replaced
    refine iff_of_true ?_ (Or.inl hown)
    have hkeep : ∀ ys : List α, (∀ y ∈ ys, own ≤ y) → ys.foldl (step own worse) own = own := by
      intro ys hys
      induction ys with
      | nil => rfl
      | cons y ys ih =>
        rw [List.foldl_cons, step, if_neg (not_lt_of_ge (hys y (by simp))),
          if_neg (fun h => lt_irrefl own h.1)]
        exact ih fun z hz => hys z (List.mem_cons_of_mem _ hz)
    rw [hown]
    refine hkeep xs fun y hy => ?_
    rw [← hown]
    exact best_le_of_mem own hy
  · have hlt : m < own := lt_of_le_of_ne (best_le_own own xs) hown
    have hmem : m ∈ xs := (best_mem own xs).resolve_left hown
    -- split at the last time the best candidate is heard
    obtain ⟨post, pre, hsplit, hpost⟩ :=
      List.eq_append_cons_of_mem (List.mem_reverse.mpr hmem)
    have hwhile : xs.reverse.takeWhile (fun x => decide (x ≠ m)) = post := by
      rw [hsplit, List.takeWhile_append_of_pos (fun x hx => by
        simp only [decide_eq_true_eq]
        rintro rfl
        exact hpost hx)]
      simp
    have hxs : xs = pre.reverse ++ m :: post.reverse := by
      rw [← List.reverse_reverse xs, hsplit]
      simp
    have hhold : pre.reverse.foldl (step own worse) own ≥ m := by
      rcases foldl_step_mem own worse own pre.reverse with h | h | h
      · rw [h]; exact hlt.le
      · rw [h]; exact hlt.le
      · refine best_le_of_mem own ?_
        rw [hxs]
        exact List.mem_append_left _ h
    have htrack : track own worse xs = post.reverse.foldl (step own worse) m := by
      rw [track, hxs, List.foldl_append, List.foldl_cons, step_eq_of_le hworse hhold]
    have habove : ∀ x ∈ post.reverse, m < x := by
      intro x hx
      have hxm : x ∈ xs := by
        rw [hxs]
        exact List.mem_append_right _ (List.mem_cons_of_mem _ hx)
      refine lt_of_le_of_ne (best_le_of_mem own hxm) ?_
      rintro rfl
      exact hpost (List.mem_reverse.mp hx)
    rw [htrack, foldl_step_eq_iff hlt habove, hwhile]
    simp [hown]

end

end BestTracker
