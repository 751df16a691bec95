/-
# An attached stream keeps its attributes

Between a request to attach to a stream and the next request to detach from it, the pool
holds a Talker attribute of the stream, so that declarations of its talker are matched,
and a Listener attribute of it that was last asked to join.
-/
import LibTsn.SrpRequests

open Function (update update_eq_self update_of_ne update_self)

/-! ## The watched task -/

structure AttachWatch (a t v : ℕ) where
  srp : SrpState a t v
  attached : StreamId → Bool

section

variable {a t v : ℕ}
variable (s : SrpState a t v) (w : AttachWatch a t v)

def attachStep (e : SrpEvent) : AttachWatch a t v where
  srp := srpStep w.srp e
  attached := match e with
    | .registerAttach id _ => update w.attached id true
    | .deregisterAttach id => update w.attached id false
    | _ => w.attached

def TalkerWaits (id : StreamId) : Prop :=
  ∃ i, (s.attrs i).applicantState ≠ .unused ∧ (s.attrs i).attributeType.IsTalker ∧
    s.streamOf (s.attrs i) = some id ∧ (s.attrs i).removeAfterNextTx = true
  deriving Decidable

/-- An attach is for a real stream whose talker is not on its way out; streams of its own the device
does not register. -/
def AttachesSettled : SrpEvent → Prop
  | .registerAttach id _ => id ≠ (0, 0) ∧ ¬ TalkerWaits w.srp id
  | .registerStream _ | .deregisterStream _ => False
  | _ => True

instance (w : AttachWatch a t v) (e : SrpEvent) : Decidable (AttachesSettled w e) :=
  match e with
  | .registerAttach id _ => inferInstanceAs (Decidable (id ≠ (0, 0) ∧ ¬ TalkerWaits w.srp id))
  | .registerStream _ | .deregisterStream _ => inferInstanceAs (Decidable False)
  | .deregisterAttach _ | .leaveVlan _ | .packet _ _ _ | .linkUp | .periodic _ | .manager _ _ =>
    inferInstanceAs (Decidable True)

def HasAttributes (id : StreamId) : Prop :=
  (∃ i, (s.attrs i).applicantState.Begun ∧ (s.attrs i).attributeType.IsTalker ∧
    s.streamOf (s.attrs i) = some id) ∧
  ∃ i, (s.attrs i).applicantState.Begun ∧ (s.attrs i).attributeType = .listener ∧
    s.streamOf (s.attrs i) = some id ∧ (s.requests i = some .join ∨ s.requests i = some .new)
  deriving Decidable

end

/-! ## The invariant -/

structure AttachSound {a t v : ℕ} (attached : StreamId → Bool) (V : SrpView a t v) : Prop where
  talker : ∀ id, attached id = true → ∃ i, V.IsOf .talker id i ∧ (V.slots i).flagged = false
  listener : ∀ id, attached id = true → ∃ i, V.IsOf .listener id i ∧
    ((V.slots i).request = some .join ∨ (V.slots i).request = some .new)
  waits : ∀ i id, V.IsOf .talker id i → (V.slots i).flagged = false → attached id = true

namespace SrpView

section

variable {a t v : ℕ} {attached : StreamId → Bool} {V V' : SrpView a t v} {i l : Fin a}
  {x : SlotView} {id id' : StreamId} {kind : SlotKind} {info : AttributeInfo}

lemma isOf_setSlot_of_ne (h : l ≠ i) : (V.setSlot i x).IsOf kind id l ↔ V.IsOf kind id l := by
  unfold IsOf
  rw [slots_setSlot_of_ne h, streamOf_setSlot_of_ne h]

lemma attachSound_setId (hs : SrpSound V) {j : ℕ} (hj : V.ids j = id ∨ V.ids j = (0, 0))
    (h : AttachSound attached V) : AttachSound attached (V.setId j id) := by
  constructor
  · intro id' hid
    obtain ⟨i, hi, hflag⟩ := h.talker id' hid
    exact ⟨i, (isOf_setId_iff hs hj (Or.inl rfl)).mpr hi, hflag⟩
  · intro id' hid
    obtain ⟨i, hi, hreq⟩ := h.listener id' hid
    exact ⟨i, (isOf_setId_iff hs hj (Or.inr rfl)).mpr hi, hreq⟩
  · intro i id' hi hflag
    exact h.waits i id' ((isOf_setId_iff hs hj (Or.inl rfl)).mp hi) hflag

lemma attachSound_listener (h : AttachSound attached V) (hold : (V.slots i).kind ≠ .talker)
    (hkind : x.kind = .listener) (hinfo : (V.slots i).kind = .listener → x.info = (V.slots i).info)
    (hreq : x.request = some .new) : AttachSound attached (V.setSlot i x) := by
  have hself := slots_setSlot_self i x V
  have hne : ∀ l, (V.slots l).kind = .talker → l ≠ i := by
    rintro l hl rfl
    exact hold hl
  constructor
  · intro id hid
    obtain ⟨l, hl, hflag⟩ := h.talker id hid
    refine ⟨l, (isOf_setSlot_of_ne (hne l hl.1)).mpr hl, ?_⟩
    rw [slots_setSlot_of_ne (hne l hl.1)]
    exact hflag
  · intro id hid
    obtain ⟨l, hl, hjoined⟩ := h.listener id hid
    by_cases hli : l = i
    · rw [hli] at hl
      refine ⟨i, ⟨?_, ?_⟩, Or.inr ?_⟩
      · rw [hself]
        exact hkind
      · rw [streamOf_setSlot (hinfo hl.1)]
        exact hl.2
      · rw [hself]
        exact hreq
    · refine ⟨l, (isOf_setSlot_of_ne hli).mpr hl, ?_⟩
      rw [slots_setSlot_of_ne hli]
      exact hjoined
  · intro l id hl hflag
    have hli : l ≠ i := by
      rintro rfl
      have hl' := hl.1
      rw [hself, hkind] at hl'
      cases hl'
    rw [slots_setSlot_of_ne hli] at hflag
    exact h.waits l id ((isOf_setSlot_of_ne hli).mp hl) hflag

lemma Begins.of_room (h : Begins x V V') (hroom : V'.exhausted = false) :
    V.exhausted = false ∧ ∃ i, (V.slots i).kind = .unused ∧ V' = V.setSlot i x := by
  cases h with
  | slot i hfree => exact ⟨hroom, i, hfree, rfl⟩
  | full => exact absurd hroom Bool.true_eq_false.mp

lemma JoinsListener.of_room (h : JoinsListener id info V V') (hroom : V'.exhausted = false) :
    V.exhausted = false := by
  cases h with
  | found => exact hroom
  | made _ _ h => exact (h.of_room hroom).1

lemma Attaches.of_room (h : Attaches id V V') (hroom : V'.exhausted = false) :
    V.exhausted = false := by
  cases h with
  | advertised _ _ _ h => exact h.of_room hroom
  | failed => exact hroom
  | noEntry => exact absurd hroom Bool.true_eq_false.mp
  | fresh _ _ _ _ _ _ hlistener htalker => exact hlistener.of_room (htalker.of_room hroom).1

lemma attachSound_joinsListener (h : AttachSound attached V) {j : ℕ} (hj : V.ids j = id)
    (hjoins : JoinsListener id (.stream j) V V') (hroom : V'.exhausted = false) :
    AttachSound attached V' ∧ ∃ l, V'.IsOf .listener id l ∧ (V'.slots l).request = some .new := by
  cases hjoins with
  | found l hl =>
    have hinfo : (V.slots l).join.info = (V.slots l).info := rfl
    refine ⟨attachSound_listener h ?_ hl.1 (fun _ => hinfo) rfl, l, ⟨?_, ?_⟩, ?_⟩
    · rw [hl.1]
      intro heq
      cases heq
    · rw [slots_setSlot_self]
      exact hl.1
    · rw [streamOf_setSlot hinfo]
      exact hl.2
    · rw [slots_setSlot_self]
      rfl
  | made _ _ hbegins =>
    obtain ⟨-, i, hfree, rfl⟩ := hbegins.of_room hroom
    refine ⟨attachSound_listener h ?_ rfl ?_ rfl, i, ⟨?_, ?_⟩, ?_⟩
    · rw [hfree]
      intro heq
      cases heq
    · rw [hfree]
      intro heq
      cases heq
    · rw [slots_setSlot_self]
      rfl
    · rw [streamOf_setSlot_self (j := j) rfl, hj]
    · rw [slots_setSlot_self]
      rfl

lemma update_attached (h : attached id = true) : update attached id true = attached := by
  rw [← h, update_eq_self]

lemma attachSound_attaches (hs : SrpSound V) (h : AttachSound attached V)
    (hsettled : ∀ i, V.IsOf .talker id i → (V.slots i).flagged = false)
    (hattaches : Attaches id V V') (hroom : V'.exhausted = false) :
    AttachSound (update attached id true) V' := by
  cases hattaches with
  | advertised i hi _ hjoins =>
    obtain ⟨j, hj, hinfo, -⟩ := hs.entry i hi.isStream_talker
    have hid : V.ids j = id := by
      have hstream := hi.2
      unfold streamOf at hstream
      rw [hinfo] at hstream
      exact Option.some.inj hstream
    rw [update_attached (h.waits i id hi (hsettled i hi))]
    rw [hinfo] at hjoins
    exact (attachSound_joinsListener h hid hjoins hroom).1
  | failed i hi =>
    rw [update_attached (h.waits i id hi (hsettled i hi))]
    exact h
  | noEntry => exact absurd hroom Bool.true_eq_false.mp
  | fresh hnone j hj hentry V₁ _ hlistener htalker =>
    have hentry' : V.ids j = id ∨ V.ids j = (0, 0) := hentry.imp_right And.left
    obtain ⟨hroom₁, f, hfree, rfl⟩ := htalker.of_room hroom
    obtain ⟨h₁, l, hl, hreq⟩ := attachSound_joinsListener (attachSound_setId hs hentry' h)
      (ids_setId_self j id V) hlistener hroom₁
    have hids : V₁.ids j = id := by
      rw [hlistener.frame.1]
      exact ids_setId_self j id V
    -- no attribute that was there before has the slot of the new talker
    have hne : ∀ m, (V₁.slots m).kind ≠ .unused → m ≠ f := by
      rintro m hm rfl
      exact hm hfree
    have hneTalker : ∀ m id', V₁.IsOf .talker id' m → m ≠ f := by
      intro m id' hm
      exact hne m (by rw [hm.1]; intro heq; cases heq)
    have hneListener : ∀ m id', V₁.IsOf .listener id' m → m ≠ f := by
      intro m id' hm
      exact hne m (by rw [hm.1]; intro heq; cases heq)
    constructor
    · intro id' hid'
      by_cases heq : id' = id
      · refine ⟨f, ⟨?_, ?_⟩, ?_⟩
        · rw [slots_setSlot_self]
          rfl
        · rw [streamOf_setSlot_self (j := j) rfl, hids, heq]
        · rw [slots_setSlot_self]
          rfl
      · rw [update_of_ne heq] at hid'
        obtain ⟨m, hm, hflag⟩ := h₁.talker id' hid'
        refine ⟨m, (isOf_setSlot_of_ne (hneTalker m id' hm)).mpr hm, ?_⟩
        rw [slots_setSlot_of_ne (hneTalker m id' hm)]
        exact hflag
    · intro id' hid'
      by_cases heq : id' = id
      · rw [heq]
        refine ⟨l, (isOf_setSlot_of_ne (hneListener l id hl)).mpr hl, Or.inr ?_⟩
        rw [slots_setSlot_of_ne (hneListener l id hl)]
        exact hreq
      · rw [update_of_ne heq] at hid'
        obtain ⟨m, hm, hjoined⟩ := h₁.listener id' hid'
        refine ⟨m, (isOf_setSlot_of_ne (hneListener m id' hm)).mpr hm, ?_⟩
        rw [slots_setSlot_of_ne (hneListener m id' hm)]
        exact hjoined
    · intro m id' hm hflag
      by_cases heq : id' = id
      · rw [heq, update_self]
      · rw [update_of_ne heq]
        have hmf : m ≠ f := by
          rintro rfl
          have hstream := hm.2
          rw [streamOf_setSlot_self (j := j) rfl, hids] at hstream
          exact heq (Option.some.inj hstream).symm
        rw [slots_setSlot_of_ne hmf] at hflag
        exact h₁.waits m id' ((isOf_setSlot_of_ne hmf).mp hm) hflag

lemma attachSound_leavesListener (hleaves : LeavesListener id V V') (h : AttachSound attached V) :
    (∀ m, (V.slots m).kind = .talker → V'.slots m = V.slots m) ∧
    ∀ id', id' ≠ id → attached id' = true → ∃ m, V'.IsOf .listener id' m ∧
      ((V'.slots m).request = some .join ∨ (V'.slots m).request = some .new) := by
  cases hleaves with
  | none => exact ⟨fun _ _ => rfl, fun id' _ hid' => h.listener id' hid'⟩
  | found l hl =>
    constructor
    · intro m hm
      refine slots_setSlot_of_ne ?_ _ V
      rintro rfl
      rw [hl.1] at hm
      cases hm
    · intro id' hne hid'
      obtain ⟨m, hm, hjoined⟩ := h.listener id' hid'
      have hml : m ≠ l := by
        rintro rfl
        exact hne (Option.some.inj (hm.2.symm.trans hl.2))
      refine ⟨m, (isOf_setSlot_of_ne hml).mpr hm, ?_⟩
      rw [slots_setSlot_of_ne hml]
      exact hjoined

lemma attachSound_detaches (hs : SrpSound V) (h : AttachSound attached V)
    (hdetaches : Detaches id V V') : AttachSound (update attached id false) V' := by
  have hcases : ∀ id', update attached id false id' = true →
      id' ≠ id ∧ attached id' = true := by
    intro id' hid'
    by_cases heq : id' = id
    · rw [heq, update_self] at hid'
      cases hid'
    · rw [update_of_ne heq] at hid'
      exact ⟨heq, hid'⟩
  cases hdetaches with
  | talker V₁ hleaves i hi =>
    obtain ⟨htalkers, hlisteners⟩ := attachSound_leavesListener hleaves h
    have hi₀ := hleaves.isOf_talker_iff.mp hi
    constructor
    · intro id' hid'
      obtain ⟨hid, hattached⟩ := hcases id' hid'
      obtain ⟨m, hm, hflag⟩ := h.talker id' hattached
      have hmi : m ≠ i := by
        rintro rfl
        exact hid (Option.some.inj (hm.2.symm.trans hi₀.2))
      refine ⟨m, (isOf_setSlot_of_ne hmi).mpr (hleaves.isOf_talker_iff.mpr hm), ?_⟩
      rw [slots_setSlot_of_ne hmi, htalkers m hm.1]
      exact hflag
    · intro id' hid'
      obtain ⟨hid, hattached⟩ := hcases id' hid'
      obtain ⟨m, hm, hjoined⟩ := hlisteners id' hid hattached
      have hmi : m ≠ i := by
        rintro rfl
        exact hid (Option.some.inj (hm.2.symm.trans hi.2))
      refine ⟨m, (isOf_setSlot_of_ne hmi).mpr hm, ?_⟩
      rw [slots_setSlot_of_ne hmi]
      exact hjoined
    · intro m id' hm hflag
      have hmi : m ≠ i := by
        rintro rfl
        rw [slots_setSlot_self] at hflag
        cases hflag
      have hm₀ := hleaves.isOf_talker_iff.mp ((isOf_setSlot_of_ne hmi).mp hm)
      rw [slots_setSlot_of_ne hmi, htalkers m hm₀.1] at hflag
      have hid : id' ≠ id := by
        rintro rfl
        exact hmi (hs.unique m i hm₀.1 hi₀.1 (hm₀.2.trans hi₀.2.symm))
      rw [update_of_ne hid]
      exact h.waits m id' hm₀ hflag
  | none _ hleaves hnone =>
    obtain ⟨htalkers, hlisteners⟩ := attachSound_leavesListener hleaves h
    constructor
    · intro id' hid'
      obtain ⟨-, hattached⟩ := hcases id' hid'
      obtain ⟨m, hm, hflag⟩ := h.talker id' hattached
      refine ⟨m, hleaves.isOf_talker_iff.mpr hm, ?_⟩
      rw [htalkers m hm.1]
      exact hflag
    · intro id' hid'
      obtain ⟨hid, hattached⟩ := hcases id' hid'
      exact hlisteners id' hid hattached
    · intro m id' hm hflag
      have hid : id' ≠ id := by
        rintro rfl
        exact hnone m hm
      have hm₀ := hleaves.isOf_talker_iff.mp hm
      rw [htalkers m hm₀.1] at hflag
      rw [update_of_ne hid]
      exact h.waits m id' hm₀ hflag

/-- **Removal.**  Only talkers that wait for it are removed. -/
theorem attachSound_removed (hs : SrpSound V) (hflag : (V.slots i).flagged = true)
    (hremoved : Removed i V V') (h : AttachSound attached V) : AttachSound attached V' := by
  have hkept : ∀ m kind id, V.IsOf kind id m → m ≠ i → V.IsStream m → V'.IsOf kind id m := by
    intro m kind id hm hmi hstream
    refine ⟨?_, ?_⟩
    · rw [hremoved.slots_of_ne hmi]
      exact hm.1
    · rw [hremoved.streamOf_eq hs hmi hstream]
      exact hm.2
  constructor
  · intro id hid
    obtain ⟨m, hm, hm'⟩ := h.talker id hid
    have hmi : m ≠ i := by
      rintro rfl
      rw [hflag] at hm'
      cases hm'
    refine ⟨m, hkept m _ id hm hmi hm.isStream_talker, ?_⟩
    rw [hremoved.slots_of_ne hmi]
    exact hm'
  · intro id hid
    obtain ⟨m, hm, hjoined⟩ := h.listener id hid
    have hmi : m ≠ i := by
      rintro rfl
      have hkind := hs.flagged m hflag
      rw [hm.1] at hkind
      cases hkind
    refine ⟨m, hkept m _ id hm hmi hm.isStream_listener, ?_⟩
    rw [hremoved.slots_of_ne hmi]
    exact hjoined
  · intro m id hm hm'
    obtain ⟨hmi, hstream⟩ := hremoved.isStream hm.isStream_talker
    rw [hremoved.slots_of_ne hmi] at hm'
    refine h.waits m id ⟨?_, ?_⟩ hm'
    · rw [← hremoved.slots_of_ne hmi]
      exact hm.1
    · rw [← hremoved.streamOf_eq hs hmi hstream]
      exact hm.2

end

end SrpView

/-! ## Runs -/

section

variable {a t v : ℕ}
variable {s : SrpState a t v} (attached : StreamId → Bool)

def AttachInv (V : SrpView a t v) : Prop :=
  SrpSound V ∧ (V.exhausted = false → AttachSound attached V)

lemma closed_attachInv :
    SrpState.ClosedUnderRemoval (AttachInv attached : SrpView a t v → Prop) := by
  refine ⟨fun _ h => h.1, ?_⟩
  intro V V' i h hflag hremoved
  refine ⟨hremoved.srpSound h.1 hflag, fun hroom => ?_⟩
  rw [hremoved.frame.2.2.2] at hroom
  exact SrpView.attachSound_removed h.1 hflag hremoved (h.2 hroom)

lemma listening_of_settled {w : AttachWatch a t v} {e : SrpEvent} (h : AttachesSettled w e) :
    e.Listening := by
  cases e with
  | registerAttach id vlan => exact h.1
  | registerStream r => exact h
  | deregisterStream id => exact h
  | _ => trivial

lemma attachInv_step (w : AttachWatch a t v) (e : SrpEvent) (h : AttachInv w.attached w.srp.view)
    (he : AttachesSettled w e) :
    AttachInv (attachStep w e).attached (attachStep w e).srp.view := by
  cases e with
  | registerAttach id vlan =>
    have hattaches := SrpState.attaches_joinListenerAttrs h.1 he.1 vlan
    refine ⟨hattaches.srpSound h.1 he.1, fun hroom => ?_⟩
    refine SrpView.attachSound_attaches h.1 (h.2 (hattaches.of_room hroom)) ?_ hattaches hroom
    -- a talker of the stream would wait otherwise
    intro i hi
    cases hflag : (w.srp.view.slots i).flagged with
    | false => rfl
    | true =>
      have hwaits := (SrpState.view_flagged w.srp i).symm.trans hflag
      obtain ⟨-, hused, htype, -⟩ := SrpState.flagged_attr h.1 hwaits
      exfalso
      refine he.2 ⟨i, hused, htype, ?_, hwaits⟩
      rw [← SrpState.view_streamOf hi.isStream_talker]
      exact hi.2
  | deregisterAttach id =>
    have hdetaches := SrpState.detaches_leaveListenerAttrs h.1 id
    refine ⟨hdetaches.srpSound h.1, fun hroom => ?_⟩
    have hsame : (w.srp.leaveListenerAttrs id).view.exhausted = w.srp.view.exhausted :=
      hdetaches.exhausted_eq
    exact SrpView.attachSound_detaches h.1 (h.2 (hsame.symm.trans hroom)) hdetaches
  | _ =>
    exact closed_step (closed_attachInv w.attached) (listening_of_settled he)
      (fun _ _ h => by cases h) (fun _ h => by cases h) h

lemma attr_of_isOf (hs : SrpSound s.view) {kind : SlotKind} {id : StreamId} {i : Fin a}
    (hi : s.view.IsOf kind id i) (hstream : s.view.IsStream i) :
    (s.attrs i).applicantState.Begun ∧ typeKind (s.attrs i).attributeType = kind ∧
      s.streamOf (s.attrs i) = some id ∧ (s.view.slots i).request = s.requests i := by
  have hkind := SrpState.attrKind_of_isStream hstream
  have hbegun := hs.begun i hstream
  rw [SrpState.view_slots, attrView_of_stream hkind] at hbegun
  have hbegun : (s.attrs i).applicantState.Begun := of_decide_eq_true hbegun
  refine ⟨hbegun, ?_, ?_, ?_⟩
  · rw [← attrKind_of_used hbegun.1, ← attrView_kind _ (s.requests i)]
    exact hi.1
  · rw [← SrpState.view_streamOf hstream]
    exact hi.2
  · rw [SrpState.view_slots, attrView_of_stream hkind]

lemma hasAttributes_of_sound {attached : StreamId → Bool} {id : StreamId} (hs : SrpSound s.view)
    (h : AttachSound attached s.view) (hid : attached id = true) : HasAttributes s id := by
  constructor
  · obtain ⟨i, hi, -⟩ := h.talker id hid
    obtain ⟨hbegun, hkind, hstream, -⟩ := attr_of_isOf hs hi hi.isStream_talker
    exact ⟨i, hbegun, typeKind_eq_talker_iff.mp hkind, hstream⟩
  · obtain ⟨i, hi, hjoined⟩ := h.listener id hid
    obtain ⟨hbegun, hkind, hstream, hreq⟩ := attr_of_isOf hs hi hi.isStream_listener
    rw [hreq] at hjoined
    exact ⟨i, hbegun, typeKind_eq_listener_iff.mp hkind, hstream, hjoined⟩

end

def attachInit (k t v : ℕ) (srcAddr : Vector UInt8 6) (now : ℕ) : AttachWatch (1 + v + k) t v :=
  ⟨srpInit k t v srcAddr now, fun _ => false⟩

lemma attachInv_attachInit (k t v : ℕ) (srcAddr : Vector UInt8 6) (now : ℕ) :
    AttachInv (attachInit k t v srcAddr now).attached (attachInit k t v srcAddr now).srp.view := by
  have hs := srpSound_srpInit k t v srcAddr now
  refine ⟨hs, fun _ => ⟨?_, ?_, ?_⟩⟩
  · intro id hid
    cases hid
  · intro id hid
    cases hid
  · intro i id hi
    have hkind : ((srpInit k t v srcAddr now).view.slots i).kind = .talker := hi.1
    rw [srpInit_slots] at hkind
    split_ifs at hkind
    cases hkind

/-- **An attached stream keeps its attributes.**  In every run of a listening device that
attaches to a stream only while no Talker attribute of it waits for its removal, as long as
neither the pool nor the stream table has been exhausted, every attached stream has a Talker
attribute and a Listener attribute that was last asked to join. -/
theorem attached_stream_keeps_attributes (k t v : ℕ) (srcAddr : Vector UInt8 6) (now : ℕ)
    (es : List SrpEvent)
    (hg : Run.Guarded attachStep AttachesSettled (attachInit k t v srcAddr now) es)
    (hroom : (Run.runFrom attachStep (attachInit k t v srcAddr now) es).srp.exhausted = false)
    (id : StreamId)
    (hid : (Run.runFrom attachStep (attachInit k t v srcAddr now) es).attached id = true) :
    HasAttributes (Run.runFrom attachStep (attachInit k t v srcAddr now) es).srp id := by
  have hstep : ∀ (w : AttachWatch (1 + v + k) t v) (e : SrpEvent),
      AttachInv w.attached w.srp.view → AttachesSettled w e →
      AttachInv (attachStep w e).attached (attachStep w e).srp.view := attachInv_step
  obtain ⟨hs, h⟩ :=
    Run.invariant_of_guarded hstep (attachInv_attachInit k t v srcAddr now) es hg
  exact hasAttributes_of_sound hs (h hroom) hid

/-! ## A stream attached again too early -/

def leaveAllFrame : Mem := fun k =>
  [0x01, 0x80, 0xc2, 0, 0, 0x0e, 0, 0, 0, 0, 0, 0, 0x22, 0xea, 0, 1, 25, 0, 29, 0x20, 0].getD k 0

def smallDevice : AttachWatch (1 + 1 + 3) 2 1 := attachInit 3 2 1 (Vector.replicate 6 0) 0

def attachedEvents : List SrpEvent :=
  [.registerAttach (1, 2) 0, .packet leaveAllFrame 64 (fun _ => 0), .periodic fun _ => 25000000]

theorem attached_stream_keeps_attributes_leaveall :
    HasAttributes (Run.runFrom attachStep smallDevice attachedEvents).srp (1, 2) :=
  attached_stream_keeps_attributes 3 2 1 (Vector.replicate 6 0) 0 attachedEvents
    (by decide +kernel) (by decide +kernel) (1, 2) (by decide +kernel)

def reattachedEvents : List SrpEvent :=
  [.registerAttach (1, 2) 0, .deregisterAttach (1, 2), .registerAttach (1, 2) 0,
    .packet leaveAllFrame 64 (fun _ => 0), .periodic fun _ => 25000000]

theorem reattached_talker_is_removed :
    (Run.runFrom attachStep smallDevice reattachedEvents).attached (1, 2) = true ∧
      (Run.runFrom attachStep smallDevice reattachedEvents).srp.exhausted = false ∧
      ¬ ∃ i, ((Run.runFrom attachStep smallDevice reattachedEvents).srp.attrs i).applicantState ≠
          .unused ∧
        ((Run.runFrom attachStep smallDevice reattachedEvents).srp.attrs i).attributeType.IsTalker ∧
        (Run.runFrom attachStep smallDevice reattachedEvents).srp.streamOf
          ((Run.runFrom attachStep smallDevice reattachedEvents).srp.attrs i) = some (1, 2) := by
  decide +kernel
