/-
# The stream table

Streams are entered into the table by their ids, attributes point to entries of it, and
`srp_cleanup_reservation_entry` frees an entry when no attribute of the stream is left.
-/
import LibTsn.SrpSlots
import LibTsn.SrpView

open Function (update update_eq_self update_of_ne update_self)

namespace SrpState

/-- What is done to the table.  An attribute is created for the entry of a stream. -/
inductive TableOp (a : ℕ)
  | add (r : AvbSrpInfo)
  | addStreamIdOnly (id : StreamId)
  | create (type : MrpAttributeType) (here : Bool) (j : ℕ)
  | cleanup (i : Fin a)

variable {a t v : ℕ} {s : SrpState a t v}

def tableStep (s : SrpState a t v) : TableOp a → SrpState a t v
  | .add r => (s.addReservationEntry r).2
  | .addStreamIdOnly id => (s.addReservationEntryStreamIdOnly id).2
  | .create type here j => (s.beginAttr type here (.stream j)).2
  | .cleanup i => s.cleanupReservationEntry i

def tableId (s : SrpState a t v) (j : ℕ) : StreamId := (s.table j).reservation.id

/-- The operation is for a stream with an id: 0 marks a free entry of the table. -/
def TableOk (s : SrpState a t v) : TableOp a → Prop
  | .add r => r.id ≠ (0, 0)
  | .addStreamIdOnly id => id ≠ (0, 0)
  | .create type _ j => IsStreamType type ∧ j < t ∧ s.tableId j ≠ (0, 0)
  | .cleanup _ => True

instance (s : SrpState a t v) (op : TableOp a) : Decidable (s.TableOk op) := by
  cases op <;> unfold TableOk <;> infer_instance

/-- The attribute is one of a stream that is in use. -/
def UsesStream (x : MrpAttribute) : Prop :=
  x.applicantState ≠ .unused ∧ IsStreamType x.attributeType

structure TableSound (s : SrpState a t v) : Prop where
  unique : ∀ j l, j < t → l < t → s.tableId j ≠ (0, 0) → s.tableId j = s.tableId l → j = l
  entry : ∀ i, UsesStream (s.attrs i) →
    ∃ j, j < t ∧ (s.attrs i).attributeInfo = .stream j ∧ s.tableId j ≠ (0, 0)

lemma tableId_setEntry (j : ℕ) (x : AvbStreamEntry) (s : SrpState a t v) :
    (s.setEntry j x).tableId = update s.tableId j x.reservation.id := by
  funext l
  show (update s.table j x l).reservation.id = _
  by_cases hl : l = j
  · rw [hl, update_self, update_self]
  · rw [update_of_ne hl, update_of_ne hl]
    rfl

lemma tableSound_setEntry (h : TableSound s) {j : ℕ} {x : AvbStreamEntry} {id : StreamId}
    (hx : x.reservation.id = id) (hid : id ≠ (0, 0))
    (hj : s.tableId j = id ∨ s.tableId j = (0, 0) ∧ ∀ l, l < t → s.tableId l ≠ id) :
    TableSound (s.setEntry j x) := by
  refine ⟨fun k l hk hl hne heq => ?_, fun i hi => ?_⟩
  · rw [tableId_setEntry, hx] at hne heq
    rcases hj with hj | ⟨-, habsent⟩
    · rw [← hj, update_eq_self] at hne heq
      exact h.unique k l hk hl hne heq
    · by_cases hkj : k = j <;> by_cases hlj : l = j
      · exact hkj.trans hlj.symm
      · rw [hkj, update_self, update_of_ne hlj] at heq
        exact absurd heq.symm (habsent l hl)
      · rw [hlj, update_self, update_of_ne hkj] at heq
        exact absurd heq (habsent k hk)
      · rw [update_of_ne hkj] at hne
        rw [update_of_ne hkj, update_of_ne hlj] at heq
        exact h.unique k l hk hl hne heq
  · obtain ⟨k, hk, hinfo, hne⟩ := h.entry i hi
    refine ⟨k, hk, hinfo, ?_⟩
    rw [tableId_setEntry, hx]
    by_cases hkj : k = j
    · rw [hkj, update_self]
      exact hid
    · rw [update_of_ne hkj]
      exact hne

lemma tableSound_begin (h : TableSound s) {j : ℕ} (hj : j < t) (hid : s.tableId j ≠ (0, 0))
    (type : MrpAttributeType) (here : Bool) : TableSound (s.beginAttr type here (.stream j)).2 := by
  cases hget : s.getAttr.1 with
  | none =>
    have hsame : (s.beginAttr type here (.stream j)).2 = { s with exhausted := true } := by
      unfold beginAttr
      unfold getAttr at hget ⊢
      split at hget
      · cases hget
      · rfl
    rw [hsame]
    exact ⟨h.unique, h.entry⟩
  | some i =>
    rw [beginAttr_eq hget]
    refine ⟨h.unique, fun l hl => ?_⟩
    by_cases hli : l = i
    · subst hli
      refine ⟨j, hj, ?_, hid⟩
      show (update s.attrs l _ l).attributeInfo = _
      rw [update_self]
      rfl
    · have hattr : ((s.setAttr i (begunSlot type here (.stream j) (s.attrs i))).setRequest i
          none).attrs l = s.attrs l := update_of_ne hli _ _
      rw [hattr] at hl ⊢
      exact h.entry l hl

lemma not_sameStream {x : MrpAttribute} {i : Fin a} (hx : IsStreamType x.attributeType)
    (hpair : s.matchAttributePairByStreamId x true = none)
    (hsame : s.matchAttrByStreamAndType x true = none) (hi : UsesStream (s.attrs i)) :
    ¬ s.SameStream x (s.attrs i) := by
  intro hstream
  have hmatchable : Matchable true (s.attrs i) := ⟨hi.1, .inl rfl⟩
  have hnot := List.find?_eq_none.mp hpair i (List.mem_finRange i)
  have hnot' := List.find?_eq_none.mp hsame i (List.mem_finRange i)
  rw [decide_eq_true_iff] at hnot hnot'
  rcases hx with hx | hx <;> rcases hi.2 with hi | hi
  · exact hnot' ⟨hmatchable, .inr ⟨hx, hi⟩, hstream⟩
  · exact hnot ⟨hmatchable, .inl ⟨hx, hi⟩, hstream⟩
  · exact hnot ⟨hmatchable, .inr ⟨hx, hi⟩, hstream⟩
  · exact hnot' ⟨hmatchable, .inl (hx.trans hi.symm), hstream⟩

lemma tableSound_remove (h : TableSound s) {x : MrpAttribute} {id : StreamId}
    (hx : s.streamOf x = some id)
    (hnone : ∀ i, UsesStream (s.attrs i) → ¬ s.SameStream x (s.attrs i)) :
    TableSound (s.removeReservationEntry id) := by
  unfold removeReservationEntry
  split
  · next l hl =>
    obtain ⟨hlt, hlid⟩ := matchReservationEntryById_some hl
    have hids := tableId_setEntry l .zero s
    refine ⟨fun j k hj hk hne heq => ?_, fun i hi => ?_⟩
    · rw [hids] at hne heq
      by_cases hjl : j = l
      · rw [hjl, update_self] at hne
        exact absurd rfl hne
      · rw [update_of_ne hjl] at hne heq
        by_cases hkl : k = l
        · rw [hkl, update_self] at heq
          exact absurd heq hne
        · rw [update_of_ne hkl] at heq
          exact h.unique j k hj hk hne heq
    · obtain ⟨j, hj, hinfo, hne⟩ := h.entry i hi
      refine ⟨j, hj, hinfo, ?_⟩
      rw [hids, update_of_ne]
      · exact hne
      · -- an attribute with this entry would have been found
        rintro rfl
        have hstream : s.streamOf (s.attrs i) = some id := by
          unfold streamOf
          rw [hinfo]
          exact congrArg some (hlid.resolve_right fun hzero => hne hzero.1)
        exact hnone i hi ⟨hx.symm ▸ Option.some_ne_none id, hx.trans hstream.symm⟩
  · exact ⟨h.unique, h.entry⟩

lemma tableSound_cleanup (h : TableSound s) (i : Fin a) :
    TableSound (s.cleanupReservationEntry i) := by
  have hmid : ∀ s' : SrpState a t v,
      (s' = s.setAttr i { s.attrs i with applicantState := .unused } ∨
      s' = s) → TableSound s' := by
    rintro s' (rfl | rfl)
    · refine ⟨h.unique, fun l hl => ?_⟩
      by_cases hli : l = i
      · rw [hli, attrs_setAttr_self] at hl
        exact absurd rfl hl.1
      · rw [attrs_setAttr_of_ne hli] at hl ⊢
        exact h.entry l hl
    · exact h
  unfold cleanupReservationEntry
  extract_lets x s'
  have hs' : TableSound s' := by
    refine hmid s' ?_
    show (if _ then _ else _) = _ ∨ (if _ then _ else _) = _
    split_ifs
    · exact .inl rfl
    · exact .inr rfl
  split_ifs with hlast
  · split
    · next id hid =>
      exact tableSound_remove hs' hid fun k hk => not_sameStream hlast.1 hlast.2.1 hlast.2.2 hk
    · exact ⟨hs'.unique, hs'.entry⟩
  · exact hs'

lemma tableSound_step (h : TableSound s) {op : TableOp a} (hop : s.TableOk op) :
    TableSound (s.tableStep op) := by
  cases op with
  | add r =>
    show TableSound (s.addReservationEntry r).2
    unfold addReservationEntry
    split
    · next j hj => exact tableSound_setEntry h rfl hop (matchReservationEntryById_some hj).2
    · exact ⟨h.unique, h.entry⟩
  | addStreamIdOnly id =>
    show TableSound (s.addReservationEntryStreamIdOnly id).2
    unfold addReservationEntryStreamIdOnly
    split
    · next j hj => exact tableSound_setEntry h rfl hop (matchReservationEntryById_some hj).2
    · exact ⟨h.unique, h.entry⟩
  | create type here j => exact tableSound_begin h hop.2.1 hop.2.2 type here
  | cleanup i => exact tableSound_cleanup h i

lemma matchReservationEntryById_eq_none_iff (s : SrpState a t v) (id : StreamId) :
    s.matchReservationEntryById id = none ↔
      (∀ j, j < t → s.tableId j ≠ id) ∧ ∀ j, j < t → s.tableId j ≠ (0, 0) := by
  unfold matchReservationEntryById
  rw [Option.or_eq_none_iff, List.find?_eq_none, List.find?_eq_none]
  simp [tableId]

end SrpState
