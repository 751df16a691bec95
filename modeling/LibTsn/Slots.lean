/-
# Tables of slots

A table is a list of fixed length whose entries are either in use or free.  Taking a free
entry, giving one back and changing one that stays in use each change the entries in use
in one place; this file says so up to the order of the entries.
-/
import Mathlib.Tactic

namespace Slots

variable {α : Type*} {used : α → Bool} {xs : List α} {x y : α} {i : ℕ}

lemma getD_set_self (h : i < xs.length) (y default : α) : (xs.set i y).getD i default = y := by
  rw [List.getD_eq_getElem?_getD, List.getElem?_set_self h, Option.getD_some]

lemma getD_set_ne {j : ℕ} (h : i ≠ j) (y default : α) :
    (xs.set i y).getD j default = xs.getD j default := by
  rw [List.getD_eq_getElem?_getD, List.getElem?_set_ne h, ← List.getD_eq_getElem?_getD]

def occupied (used : α → Bool) (xs : List α) : List α := xs.filter used

lemma exists_rest (h : xs[i]? = some x) :
    ∃ rest : List α, xs.Perm (x :: rest) ∧ ∀ y, (xs.set i y).Perm (y :: rest) := by
  obtain ⟨hi, rfl⟩ := List.getElem?_eq_some_iff.mp h
  have hset : ∀ y, (xs.set i y).Perm (y :: (xs.take i ++ xs.drop (i + 1))) := by
    intro y
    rw [List.set_eq_take_append_cons_drop, if_pos hi]
    exact List.perm_middle
  refine ⟨xs.take i ++ xs.drop (i + 1), ?_, hset⟩
  have hself := hset xs[i]
  rwa [List.set_getElem_self] at hself

lemma modify_eq_set (h : xs[i]? = some x) (change : α → α) :
    xs.modify i change = xs.set i (change x) := by
  rw [List.modify_eq_set_getElem?, h]
  rfl

lemma occupied_perm (used : α → Bool) {ys : List α} (h : xs.Perm ys) :
    (occupied used xs).Perm (occupied used ys) :=
  h.filter _

lemma occupied_cons_of_used (h : used x = true) (xs : List α) :
    occupied used (x :: xs) = x :: occupied used xs :=
  List.filter_cons_of_pos h

lemma occupied_cons_of_free (h : used x = false) (xs : List α) :
    occupied used (x :: xs) = occupied used xs :=
  List.filter_cons_of_neg (by rw [h]; exact Bool.false_ne_true)

lemma occupied_take (hx : xs[i]? = some x) (hfree : used x = false) (hy : used y = true) :
    (occupied used (xs.set i y)).Perm (y :: occupied used xs) := by
  obtain ⟨rest, hxs, hset⟩ := exists_rest hx
  have hold := occupied_perm used hxs
  have hnew := occupied_perm used (hset y)
  rw [occupied_cons_of_free hfree] at hold
  rw [occupied_cons_of_used hy] at hnew
  exact hnew.trans (hold.symm.cons y)

lemma occupied_release (hx : xs[i]? = some x) (hused : used x = true) (hy : used y = false) :
    (occupied used xs).Perm (x :: occupied used (xs.set i y)) := by
  obtain ⟨rest, hxs, hset⟩ := exists_rest hx
  have hold := occupied_perm used hxs
  have hnew := occupied_perm used (hset y)
  rw [occupied_cons_of_used hused] at hold
  rw [occupied_cons_of_free hy] at hnew
  exact hold.trans (hnew.symm.cons x)

lemma occupied_replace (hx : xs[i]? = some x) (hused : used x = true) (hy : used y = true) :
    ∃ rest, (occupied used xs).Perm (x :: rest) ∧
      (occupied used (xs.set i y)).Perm (y :: rest) := by
  obtain ⟨rest, hxs, hset⟩ := exists_rest hx
  have hold := occupied_perm used hxs
  have hnew := occupied_perm used (hset y)
  rw [occupied_cons_of_used hused] at hold
  rw [occupied_cons_of_used hy] at hnew
  exact ⟨occupied used rest, hold, hnew⟩

lemma occupied_eq_nil (h : ∀ x ∈ xs, ¬ used x = true) : occupied used xs = [] :=
  List.filter_eq_nil_iff.mpr h

lemma mem_occupied : x ∈ occupied used xs ↔ x ∈ xs ∧ used x = true := List.mem_filter

end Slots
