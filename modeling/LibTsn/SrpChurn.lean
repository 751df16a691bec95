/-
# Streams that come and go

A listener that attaches to streams and detaches from them again, one after the other,
should give back what it took: behind each detach, a LeaveAll and a transmit opportunity,
no more slots of the pool and no more stream entries should be in use than before.
-/
import LibTsn.SrpTalkers

/-! ## What is in use -/

def SrpState.usedAttributes {a t v : ℕ} (s : SrpState a t v) : ℕ :=
  (Finset.univ.filter fun i => (s.attrs i).applicantState ≠ .unused).card

def SrpState.usedEntries {a t v : ℕ} (s : SrpState a t v) : ℕ :=
  ((Finset.range t).filter fun j => (s.table j).reservation.id ≠ (0, 0)).card

namespace SrpView

section

variable {a t v : ℕ} {V V' : SrpView a t v} {i : Fin a} {x : SlotView} {id : StreamId}
  {info : AttributeInfo}

def usedSlots (V : SrpView a t v) : Finset (Fin a) :=
  Finset.univ.filter fun i => (V.slots i).kind ≠ .unused

def usedIds (V : SrpView a t v) : Finset ℕ := (Finset.range t).filter fun j => V.ids j ≠ (0, 0)

lemma mem_usedSlots : i ∈ V.usedSlots ↔ (V.slots i).kind ≠ .unused := by
  unfold usedSlots
  rw [Finset.mem_filter]
  exact and_iff_right (Finset.mem_univ i)

lemma usedSlots_setSlot_same (hold : (V.slots i).kind ≠ .unused) (hnew : x.kind ≠ .unused) :
    (V.setSlot i x).usedSlots = V.usedSlots := by
  ext l
  rw [mem_usedSlots, mem_usedSlots]
  by_cases hl : l = i
  · rw [hl, slots_setSlot_self]
    exact iff_of_true hnew hold
  · rw [slots_setSlot_of_ne hl]

lemma card_setSlot_le (i : Fin a) (x : SlotView) (V : SrpView a t v) :
    (V.setSlot i x).usedSlots.card ≤ V.usedSlots.card + 1 := by
  have hsub : (V.setSlot i x).usedSlots ⊆ insert i V.usedSlots := by
    intro l hl
    rw [mem_usedSlots] at hl
    rw [Finset.mem_insert]
    by_cases hli : l = i
    · exact Or.inl hli
    · rw [slots_setSlot_of_ne hli] at hl
      exact Or.inr (mem_usedSlots.mpr hl)
  exact (Finset.card_le_card hsub).trans (Finset.card_insert_le i _)

lemma card_begins_le (h : Begins x V V') : V'.usedSlots.card ≤ V.usedSlots.card + 1 := by
  cases h with
  | slot i _ => exact card_setSlot_le i x V
  | full => exact Nat.le_succ _

lemma card_removed (hs : SrpSound V) (hflag : (V.slots i).flagged = true) (h : Removed i V V') :
    V'.usedSlots.card + 1 = V.usedSlots.card ∧ V'.usedIds.card ≤ V.usedIds.card := by
  have herase : V'.usedSlots = V.usedSlots.erase i := by
    ext l
    rw [mem_usedSlots, Finset.mem_erase, mem_usedSlots]
    by_cases hl : l = i
    · rw [hl, h.slots_self]
      exact iff_of_false (fun hne => hne rfl) fun hand => hand.1 rfl
    · rw [h.slots_of_ne hl]
      exact (and_iff_right hl).symm
  have hmem : i ∈ V.usedSlots := by
    rw [mem_usedSlots, hs.flagged i hflag]
    exact SlotKind.noConfusion
  refine ⟨by rw [herase, Finset.card_erase_add_one hmem], ?_⟩
  cases h with
  | slot => exact le_refl _
  | entry j hid hlast =>
    refine Finset.card_le_card fun l hl => ?_
    unfold usedIds at hl ⊢
    rw [Finset.mem_filter] at hl ⊢
    refine ⟨hl.1, fun hzero => hl.2 ?_⟩
    show Function.update V.ids j (0, 0) l = (0, 0)
    by_cases hlj : l = j
    · rw [hlj, Function.update_self]
    · rw [Function.update_of_ne hlj]
      exact hzero

lemma setId_eq {j : ℕ} (h : V.ids j = id) : V.setId j id = V := by
  unfold setId
  rw [← h, Function.update_eq_self]

def Known (V : SrpView a t v) (id : StreamId) : Prop :=
  ∃ i, V.IsOf .talker id i ∨ V.IsOf .listener id i

lemma card_joinsListener_le (h : JoinsListener id info V V') :
    V'.usedSlots.card ≤ V.usedSlots.card + 1 ∧ V'.usedIds = V.usedIds := by
  cases h with
  | found l hl => exact ⟨card_setSlot_le l _ V, rfl⟩
  | made _ _ h =>
    refine ⟨card_begins_le h, ?_⟩
    cases h <;> rfl

lemma JoinsListener.isOf_talker (h : JoinsListener id info V V') {l : Fin a} {id' : StreamId}
    (hl : V.IsOf .talker id' l) : V'.IsOf .talker id' l := by
  have hne : ∀ {i x}, (V.slots i).kind ≠ .talker → (V.setSlot i x).IsOf .talker id' l := by
    intro i x hi
    have hli : l ≠ i := by
      rintro rfl
      exact hi hl.1
    unfold IsOf
    rw [slots_setSlot_of_ne hli, streamOf_setSlot_of_ne hli]
    exact hl
  cases h with
  | found m hm =>
    refine hne ?_
    rw [hm.1]
    exact SlotKind.noConfusion
  | made _ _ h =>
    cases h with
    | slot i hfree =>
      refine hne ?_
      rw [hfree]
      exact SlotKind.noConfusion
    | full => exact hl

/-- **Attach.**  A stream that has an attribute in the pool takes one slot at most, and then
there is a talker of it; it takes no stream entry. -/
theorem Attaches.card_le (hs : SrpSound V) (hknown : V.Known id) (h : Attaches id V V') :
    V'.usedIds = V.usedIds ∧ (V'.usedSlots.card ≤ V.usedSlots.card ∨
      V'.usedSlots.card ≤ V.usedSlots.card + 1 ∧ ∃ i, V'.IsOf .talker id i) := by
  cases h with
  | advertised i hi _ h =>
    obtain ⟨hcard, hids⟩ := card_joinsListener_le h
    exact ⟨hids, Or.inr ⟨hcard, i, h.isOf_talker hi⟩⟩
  | failed => exact ⟨rfl, Or.inl (le_refl _)⟩
  | noEntry => exact ⟨rfl, Or.inl (le_refl _)⟩
  | fresh hnone j hj hentry V₁ _ hlistener htalker =>
    -- the attribute in the pool is a listener, and its entry is the one that is found
    obtain ⟨l, hl⟩ := hknown
    have hl := hl.resolve_left (hnone l)
    obtain ⟨k, hk, hinfo, -⟩ := hs.entry l hl.isStream_listener
    have hkid : V.ids k = id := by
      have hstream := hl.2
      unfold streamOf at hstream
      rw [hinfo] at hstream
      exact Option.some.inj hstream
    have hjid : V.ids j = id := hentry.resolve_right fun h => h.2 k hk hkid
    rw [setId_eq hjid] at hlistener
    cases hlistener with
    | found m hm =>
      have hused : (V.setSlot m (V.slots m).join).usedSlots = V.usedSlots := by
        refine usedSlots_setSlot_same ?_ ?_
        · rw [hm.1]
          exact SlotKind.noConfusion
        · show (V.slots m).kind ≠ .unused
          rw [hm.1]
          exact SlotKind.noConfusion
      rw [← hused]
      have hle := card_begins_le htalker
      cases htalker with
      | slot f hfree =>
        refine ⟨rfl, Or.inr ⟨hle, f, ?_, ?_⟩⟩
        · rw [slots_setSlot_self]
          rfl
        · rw [streamOf_setSlot_self (j := j) rfl]
          exact congrArg some hjid
      | full => exact ⟨rfl, Or.inl (le_refl _)⟩
    | made _ hnoListener => exact absurd hl (hnoListener l)

/-- **Detach.**  It takes nothing, and the talker of the stream waits for its removal. -/
theorem Detaches.card_le (h : Detaches id V V') : V'.usedIds = V.usedIds ∧
    V'.usedSlots = V.usedSlots ∧
      ((∃ i, V.IsOf .talker id i) → ∃ i, (V'.slots i).flagged = true) := by
  have hleaves : ∀ V₁, LeavesListener id V V₁ →
      V₁.usedIds = V.usedIds ∧ V₁.usedSlots = V.usedSlots := by
    intro V₁ h
    cases h with
    | none => exact ⟨rfl, rfl⟩
    | found l hl =>
      refine ⟨rfl, usedSlots_setSlot_same ?_ ?_⟩
      · rw [hl.1]
        exact SlotKind.noConfusion
      · show (V.slots l).kind ≠ .unused
        rw [hl.1]
        exact SlotKind.noConfusion
  cases h with
  | talker V₁ h i hi =>
    obtain ⟨hids, hslots⟩ := hleaves V₁ h
    have hused : (V₁.setSlot i (V₁.slots i).remove).usedSlots = V₁.usedSlots := by
      refine usedSlots_setSlot_same ?_ ?_
      · rw [hi.1]
        exact SlotKind.noConfusion
      · show (V₁.slots i).kind ≠ .unused
        rw [hi.1]
        exact SlotKind.noConfusion
    refine ⟨hids, hused.trans hslots, fun _ => ⟨i, ?_⟩⟩
    rw [slots_setSlot_self]
    rfl
  | none _ h hnone =>
    obtain ⟨hids, hslots⟩ := hleaves V' h
    refine ⟨hids, hslots, ?_⟩
    rintro ⟨i, hi⟩
    exact absurd (h.isOf_talker_iff.mpr hi) (hnone i)

lemma exists_free (h : V.usedSlots.card < a) : ∃ i, (V.slots i).kind = .unused := by
  by_contra hnone
  have hall : V.usedSlots = Finset.univ := by
    ext i
    rw [mem_usedSlots]
    exact iff_of_true (fun hi => hnone ⟨i, hi⟩) (Finset.mem_univ i)
  rw [hall, Finset.card_univ, Fintype.card_fin] at h
  exact lt_irrefl a h

lemma Begins.exhausted_eq (h : Begins x V V') (hroom : V.usedSlots.card < a) :
    V'.exhausted = V.exhausted := by
  cases h with
  | slot => rfl
  | full hfull =>
    obtain ⟨i, hi⟩ := exists_free hroom
    exact absurd hi (hfull i)

lemma JoinsListener.exhausted_eq (h : JoinsListener id info V V') (hroom : V.usedSlots.card < a) :
    V'.exhausted = V.exhausted := by
  cases h with
  | found => rfl
  | made _ _ h => exact h.exhausted_eq hroom

/-- **Room.**  With two free slots and an entry without an id nothing an attach asks for is
missing. -/
theorem Attaches.exhausted_eq (h : Attaches id V V') (hslots : V.usedSlots.card + 2 ≤ a)
    (hids : V.usedIds.card < t) : V'.exhausted = V.exhausted := by
  cases h with
  | advertised i hi _ h => exact h.exhausted_eq (by omega)
  | failed => rfl
  | noEntry hnone hfull =>
    exfalso
    have hall : V.usedIds = Finset.range t := by
      unfold usedIds
      rw [Finset.filter_eq_self]
      intro j hj
      exact (hfull j (Finset.mem_range.mp hj)).2
    rw [hall, Finset.card_range] at hids
    exact lt_irrefl t hids
  | fresh hnone j hj hentry V₁ _ hlistener htalker =>
    have hcard : V₁.usedSlots.card ≤ V.usedSlots.card + 1 := (card_joinsListener_le hlistener).1
    have hfirst : V₁.exhausted = V.exhausted :=
      hlistener.exhausted_eq (show V.usedSlots.card < a by omega)
    rw [htalker.exhausted_eq (by omega), hfirst]

end

end SrpView

lemma usedAttributes_eq {a t v : ℕ} (s : SrpState a t v) :
    s.usedAttributes = s.view.usedSlots.card := by
  unfold SrpState.usedAttributes SrpView.usedSlots
  congr 1
  ext i
  rw [Finset.mem_filter, Finset.mem_filter, SrpState.view_slots, attrView_kind]
  exact and_congr_right fun _ => not_congr attrKind_eq_unused_iff.symm

lemma usedEntries_eq {a t v : ℕ} (s : SrpState a t v) : s.usedEntries = s.view.usedIds.card := rfl

/-! ## The watched device -/

inductive ChurnPhase where
  | idle
  | attached (id : StreamId)
  | detached
  | left
  deriving DecidableEq

structure ChurnWatch (a t v : ℕ) where
  srp : SrpState a t v
  phase : ChurnPhase

section

variable {a t v : ℕ}

def framePhase (frame : Mem) (nbytes : ℕ) (s : SrpState a t v) : ChurnPhase → ChurnPhase
  | .detached =>
    if SrpState.seenFrame frame nbytes (false, false) s = (true, true) then .left else .detached
  | .left =>
    if SrpState.seenFrame frame nbytes (true, true) s = (true, true) then .left else .detached
  | phase => phase

variable (s : SrpState a t v) (w : ChurnWatch a t v)

/-- A call of `mrp_periodic` behind a detach: the device may bring a LeaveAll itself, and with a
LeaveAll behind it a transmit opportunity without one ends the detach. -/
def periodicPhase : ChurnPhase → ChurnPhase
  | .detached =>
    if s.LeaveAllExpires then if s.TransmitsMsrp then .idle else .left else .detached
  | .left => if s.TransmitsMsrp then .idle else .left
  | phase => phase

def churnStep (e : SrpEvent) : ChurnWatch a t v where
  srp := srpStep w.srp e
  phase := match e with
    | .registerAttach id _ => .attached id
    | .deregisterAttach _ => .detached
    | .packet frame nbytes clock =>
      framePhase frame nbytes ({ w.srp with clock := clock } : SrpState a t v) w.phase
    | .periodic clock => periodicPhase ({ w.srp with clock := clock } : SrpState a t v) w.phase
    | _ => w.phase

def InPairs : SrpEvent → Prop
  | .registerAttach _ _ => w.phase = .idle
  | .deregisterAttach id => w.phase = .attached id
  | .registerStream _ | .deregisterStream _ => False
  | _ => True

instance (w : ChurnWatch a t v) (e : SrpEvent) : Decidable (InPairs w e) :=
  match e with
  | .registerAttach _ _ => inferInstanceAs (Decidable (_ = _))
  | .deregisterAttach _ => inferInstanceAs (Decidable (_ = _))
  | .registerStream _ | .deregisterStream _ => inferInstanceAs (Decidable False)
  | .leaveVlan _ | .packet _ _ _ | .linkUp | .periodic _ | .manager _ _ =>
    inferInstanceAs (Decidable True)

def StreamKnown (id : StreamId) : Prop :=
  ∃ i, (s.attrs i).applicantState ≠ .unused ∧ SrpState.IsStreamType (s.attrs i).attributeType ∧
    s.streamOf (s.attrs i) = some id
  deriving Decidable

def AttachesKnown : SrpEvent → Prop
  | .registerAttach id _ => id ≠ (0, 0) ∧ StreamKnown w.srp id
  | _ => True

instance (w : ChurnWatch a t v) (e : SrpEvent) : Decidable (AttachesKnown w e) :=
  match e with
  | .registerAttach id _ => inferInstanceAs (Decidable (id ≠ (0, 0) ∧ StreamKnown w.srp id))
  | .deregisterAttach _ | .registerStream _ | .deregisterStream _ | .leaveVlan _ | .packet _ _ _
  | .linkUp | .periodic _ | .manager _ _ => inferInstanceAs (Decidable True)

/-! ## The invariant -/

structure ChurnView (n m : ℕ) (phase : ChurnPhase) (V : SrpView a t v) : Prop where
  sound : SrpSound V
  entries : V.usedIds.card ≤ m
  slots : V.usedSlots.card ≤ n ∨ V.usedSlots.card ≤ n + 1 ∧
    match phase with
    | .idle => False
    | .attached id => ∃ i, V.IsOf .talker id i
    | .detached | .left => ∃ i, (V.slots i).flagged = true

lemma closed_churnView (n m : ℕ) (phase : ChurnPhase) :
    SrpState.ClosedUnderRemoval (ChurnView n m phase : SrpView a t v → Prop) := by
  refine ⟨fun _ h => h.sound, ?_⟩
  intro V V' i h hflag hremoved
  obtain ⟨hslots, hids⟩ := SrpView.card_removed h.sound hflag hremoved
  refine ⟨hremoved.srpSound h.sound hflag, hids.trans h.entries, Or.inl ?_⟩
  rcases h.slots with hle | ⟨hle, -⟩ <;> omega

lemma ChurnView.idle {n m : ℕ} {V : SrpView a t v} {phase : ChurnPhase}
    (h : ChurnView n m phase V) (hphase : phase = .detached ∨ phase = .left)
    (hnone : ∀ i, (V.slots i).flagged = false) : ChurnView n m .idle V := by
  refine ⟨h.sound, h.entries, Or.inl ?_⟩
  have hcase : V.usedSlots.card ≤ n ∨
      V.usedSlots.card ≤ n + 1 ∧ ∃ i, (V.slots i).flagged = true := by
    have hslots := h.slots
    rcases hphase with rfl | rfl <;> exact hslots
  rcases hcase with hle | ⟨-, i, hi⟩
  · exact hle
  · rw [hnone i] at hi
    cases hi

lemma ChurnView.waits {n m : ℕ} {V : SrpView a t v} {phase phase' : ChurnPhase}
    (h : ChurnView n m phase V) (hphase : phase = .detached ∨ phase = .left)
    (hphase' : phase' = .detached ∨ phase' = .left) : ChurnView n m phase' V := by
  have hslots := h.slots
  refine ⟨h.sound, h.entries, ?_⟩
  rcases hphase with rfl | rfl <;> rcases hphase' with rfl | rfl <;> exact hslots

structure ChurnSound (n m : ℕ) (w : ChurnWatch a t v) : Prop where
  view : ChurnView n m w.phase w.srp.view
  observes : SrpState.TalkersIn Observes w.srp
  left : w.phase = .left → SrpState.TalkersIn LeftObserver w.srp

/-! ## Steps -/

section

variable {n m : ℕ} {w : ChurnWatch a t v}

lemma known_of_streamKnown {s : SrpState a t v} {id : StreamId} (h : StreamKnown s id) :
    s.view.Known id := by
  obtain ⟨i, hused, htype, hstream⟩ := h
  have hkind : (s.view.slots i).kind = typeKind (s.attrs i).attributeType :=
    (attrView_kind _ _).trans (attrKind_of_used hused)
  have hslot : s.view.IsStream i := by
    unfold SrpView.IsStream
    rw [hkind, typeKind_eq_talker_iff, typeKind_eq_listener_iff]
    exact htype
  have hid : s.view.streamOf i = some id := by
    rw [SrpState.view_streamOf hslot]
    exact hstream
  exact ⟨i, hslot.imp (fun h => ⟨h, hid⟩) fun h => ⟨h, hid⟩⟩

lemma churnSound_attach (h : ChurnSound n m w) {id : StreamId} (hphase : w.phase = .idle)
    (hid : id ≠ (0, 0)) (hknown : StreamKnown w.srp id) (vlan : ℕ) :
    ChurnSound n m (churnStep w (.registerAttach id vlan)) := by
  have hs := h.view.sound
  have hattaches := SrpState.attaches_joinListenerAttrs hs hid vlan
  obtain ⟨hids, hslots⟩ := hattaches.card_le hs (known_of_streamKnown hknown)
  have hle : w.srp.view.usedSlots.card ≤ n := by
    have hslots := h.view.slots
    rw [hphase] at hslots
    exact hslots.resolve_right fun hfalse => hfalse.2
  refine ⟨⟨hattaches.srpSound hs hid, ?_, ?_⟩, ?_, fun hleft => by cases hleft⟩
  · show (w.srp.joinListenerAttrs id vlan).view.usedIds.card ≤ m
    rw [hids]
    exact h.view.entries
  · rcases hslots with hslots | ⟨hslots, htalker⟩
    · exact Or.inl (hslots.trans hle)
    · exact Or.inr ⟨hslots.trans (Nat.succ_le_succ hle), htalker⟩
  · exact SrpState.talkersIn_joinListenerAttrs hs h.observes hid vlan

lemma churnSound_detach (h : ChurnSound n m w) {id : StreamId} (hphase : w.phase = .attached id) :
    ChurnSound n m (churnStep w (.deregisterAttach id)) := by
  have hs := h.view.sound
  have hdetaches := SrpState.detaches_leaveListenerAttrs hs id
  obtain ⟨hids, hslots, hflag⟩ := hdetaches.card_le
  have hcase := h.view.slots
  rw [hphase] at hcase
  refine ⟨⟨hdetaches.srpSound hs, ?_, ?_⟩, ?_, fun hleft => by cases hleft⟩
  · show (w.srp.leaveListenerAttrs id).view.usedIds.card ≤ m
    rw [hids]
    exact h.view.entries
  · show (w.srp.leaveListenerAttrs id).view.usedSlots.card ≤ n ∨
      (w.srp.leaveListenerAttrs id).view.usedSlots.card ≤ n + 1 ∧ _
    rw [hslots]
    exact hcase.imp_right fun hle => ⟨hle.1, hflag hle.2⟩
  · exact SrpState.talkersIn_leaveListenerAttrs h.observes id

lemma churnView_other (h : ChurnSound n m w) {e : SrpEvent} (he : e.Listening)
    (hattach : ∀ id vlan, e ≠ .registerAttach id vlan) (hdetach : ∀ id, e ≠ .deregisterAttach id) :
    ChurnView n m w.phase (srpStep w.srp e).view :=
  closed_step (closed_churnView n m w.phase) he hattach hdetach h.view

lemma seenSound_of_phase (h : ChurnSound n m w) {seen : Bool × Bool}
    (hseen : seen = (true, true) → w.phase = .left) (hfst : seen.1 = seen.2) :
    SrpState.SeenSound w.srp seen := by
  have hleft : seen.1 = true → SrpState.TalkersIn LeftObserver w.srp := by
    intro h₁
    refine h.left (hseen ?_)
    exact Prod.ext h₁ (hfst ▸ h₁)
  refine ⟨h.view.sound, h.observes, fun h₁ => ?_, fun h₂ => ?_⟩
  · exact SrpState.statesIn_of_talkersIn (hleft h₁) (Or.inl rfl)
  · exact SrpState.statesIn_of_talkersIn (hleft (hfst.trans h₂)) (Or.inr rfl)

lemma churnSound_packet (h : ChurnSound n m w) (frame : Mem) (nbytes : ℕ) (clock : ℕ → ℕ) :
    ChurnSound n m (churnStep w (.packet frame nbytes clock)) := by
  have hview := churnView_other h (e := .packet frame nbytes clock) trivial
    (fun _ _ heq => by cases heq) fun _ heq => by cases heq
  have hclocked : ChurnSound n m ⟨({ w.srp with clock := clock } : SrpState a t v), w.phase⟩ :=
    ⟨h.view, h.observes, h.left⟩
  -- behind a frame both kinds of talkers are in LO if a LeaveAll for both has been seen last
  have hframe : ∀ seen : Bool × Bool, (seen = (true, true) → w.phase = .left) → seen.1 = seen.2 →
      SrpState.seenFrame frame nbytes seen ({ w.srp with clock := clock } : SrpState a t v) =
        (true, true) →
      SrpState.TalkersIn LeftObserver (srpStep w.srp (.packet frame nbytes clock)) := by
    intro seen hseen hfst hall
    have hsound := SrpState.seenSound_processControlPacket (seenSound_of_phase hclocked hseen hfst)
      frame nbytes
    rw [hall] at hsound
    exact SrpState.talkersIn_of_both (hsound.advertise rfl) (hsound.failed rfl)
  have hobserves : SrpState.TalkersIn Observes (srpStep w.srp (.packet frame nbytes clock)) := by
    have hnone : ((false, false) : Bool × Bool) = (true, true) → w.phase = .left := by
      intro heq
      cases heq
    exact (SrpState.seenSound_processControlPacket (seenSound_of_phase hclocked hnone rfl) frame
      nbytes).observes
  unfold churnStep framePhase
  dsimp only
  cases hphase : w.phase with
  | idle =>
    rw [hphase] at hview
    exact ⟨hview, hobserves, fun heq => by cases heq⟩
  | attached id =>
    rw [hphase] at hview
    exact ⟨hview, hobserves, fun heq => by cases heq⟩
  | detached =>
    rw [hphase] at hview hframe
    dsimp only
    split_ifs with hall
    · refine ⟨hview.waits (Or.inl rfl) (Or.inr rfl), hobserves, fun _ =>
        hframe (false, false) ?_ rfl hall⟩
      intro heq
      cases heq
    · exact ⟨hview, hobserves, fun heq => by cases heq⟩
  | left =>
    rw [hphase] at hview hframe
    dsimp only
    split_ifs with hall
    · exact ⟨hview, hobserves, fun _ => hframe (true, true) (fun _ => rfl) rfl hall⟩
    · exact ⟨hview.waits (Or.inr rfl) (Or.inl rfl), hobserves, fun heq => by cases heq⟩

lemma churnSound_periodic (h : ChurnSound n m w) (clock : ℕ → ℕ) :
    ChurnSound n m (churnStep w (.periodic clock)) := by
  have hview := churnView_other h (e := .periodic clock) trivial
    (fun _ _ heq => by cases heq) fun _ heq => by cases heq
  obtain ⟨hobserves, hleft⟩ :=
    SrpState.talkersIn_periodic (s := { w.srp with clock := clock }) h.view.sound h.observes
  unfold churnStep periodicPhase
  dsimp only
  cases hphase : w.phase with
  | idle =>
    rw [hphase] at hview
    exact ⟨hview, hobserves, fun heq => by cases heq⟩
  | attached id =>
    rw [hphase] at hview
    exact ⟨hview, hobserves, fun heq => by cases heq⟩
  | detached =>
    rw [hphase] at hview
    dsimp only
    split_ifs with hexpires htransmits
    · have hnone := hleft (Or.inr hexpires)
      rw [if_pos htransmits] at hnone
      exact ⟨hview.idle (Or.inl rfl) hnone, hobserves, fun heq => by cases heq⟩
    · have hlo := hleft (Or.inr hexpires)
      rw [if_neg htransmits] at hlo
      exact ⟨hview.waits (Or.inl rfl) (Or.inr rfl), hobserves, fun _ => hlo⟩
    · exact ⟨hview, hobserves, fun heq => by cases heq⟩
  | left =>
    rw [hphase] at hview
    dsimp only
    split_ifs with htransmits
    · have hnone := hleft (Or.inl (h.left hphase))
      rw [if_pos htransmits] at hnone
      exact ⟨hview.idle (Or.inr rfl) hnone, hobserves, fun heq => by cases heq⟩
    · have hlo := hleft (Or.inl (h.left hphase))
      rw [if_neg htransmits] at hlo
      exact ⟨hview, hobserves, fun _ => hlo⟩

lemma churnSound_step (w : ChurnWatch a t v) (e : SrpEvent) (h : ChurnSound n m w)
    (he : InPairs w e ∧ AttachesKnown w e) : ChurnSound n m (churnStep w e) := by
  have hs := h.view.sound
  cases e with
  | registerAttach id vlan => exact churnSound_attach h he.1 he.2.1 he.2.2 vlan
  | deregisterAttach id => exact churnSound_detach h he.1
  | registerStream r => exact absurd he.1 id
  | deregisterStream id' => exact absurd he.1 id
  | packet frame nbytes clock => exact churnSound_packet h frame nbytes clock
  | periodic clock => exact churnSound_periodic h clock
  | leaveVlan vlan =>
    refine ⟨churnView_other h (e := .leaveVlan vlan) trivial (fun _ _ heq => by cases heq)
      (fun _ heq => by cases heq), ?_, ?_⟩
    · exact SrpState.talkersIn_leaveVlan hs h.observes vlan
    · exact fun hleft => SrpState.talkersIn_leaveVlan hs (h.left hleft) vlan
  | linkUp =>
    refine ⟨churnView_other h (e := .linkUp) trivial (fun _ _ heq => by cases heq)
      (fun _ heq => by cases heq), ?_, ?_⟩
    · exact SrpState.talkersIn_domainJoin hs h.observes
    · exact fun hleft => SrpState.talkersIn_domainJoin hs (h.left hleft)
  | manager sources sinks => exact ⟨h.view, h.observes, h.left⟩

end

end

section

variable {a t v : ℕ} {s : SrpState a t v} {e : SrpEvent}

lemma observes_step (hs : SrpSound s.view) (h : SrpState.TalkersIn Observes s) (he : e.Listening) :
    SrpState.TalkersIn Observes (srpStep s e) := by
  cases e with
  | registerAttach id vlan => exact SrpState.talkersIn_joinListenerAttrs hs h he vlan
  | deregisterAttach id => exact SrpState.talkersIn_leaveListenerAttrs h id
  | registerStream r => exact absurd he id
  | deregisterStream id' => exact absurd he id
  | leaveVlan vlan => exact SrpState.talkersIn_leaveVlan hs h vlan
  | packet frame nbytes clock =>
    have hseen : SrpState.SeenSound ({ s with clock := clock } : SrpState a t v) (false, false) :=
      ⟨hs, h, fun heq => absurd heq Bool.false_ne_true, fun heq => absurd heq Bool.false_ne_true⟩
    exact (SrpState.seenSound_processControlPacket hseen frame nbytes).observes
  | linkUp => exact SrpState.talkersIn_domainJoin hs h
  | periodic clock => exact (SrpState.talkersIn_periodic (s := { s with clock := clock }) hs h).1
  | manager sources sinks => exact h

def churnStart (k t v : ℕ) (srcAddr : Vector UInt8 6) (now : ℕ) (history : List SrpEvent) :
    ChurnWatch (1 + v + k) t v :=
  ⟨Run.runFrom srpStep (srpInit k t v srcAddr now) history, .idle⟩

lemma churnSound_churnStart (k t v : ℕ) (srcAddr : Vector UInt8 6) (now : ℕ)
    {history : List SrpEvent} (h : ∀ e ∈ history, e.Listening) :
    ChurnSound (churnStart k t v srcAddr now history).srp.usedAttributes
      (churnStart k t v srcAddr now history).srp.usedEntries
      (churnStart k t v srcAddr now history) := by
  have hstep : ∀ (s : SrpState (1 + v + k) t v) (e : SrpEvent),
      SrpSound s.view ∧ SrpState.TalkersIn Observes s → e.Listening →
      SrpSound (srpStep s e).view ∧ SrpState.TalkersIn Observes (srpStep s e) :=
    fun s e hs he => ⟨srpSound_step hs.1 he, observes_step hs.1 hs.2 he⟩
  have hinit : SrpState.TalkersIn Observes (srpInit k t v srcAddr now) := by
    intro i hbegun
    exfalso
    revert hbegun
    show ¬ (if i.val = 0 then _ else if i.val ≤ v then _ else _ : MrpAttribute).applicantState.Begun
    split_ifs
    · exact fun hbegun => hbegun.2 rfl
    · exact fun hbegun => hbegun.2 rfl
    · exact fun hbegun => hbegun.1 rfl
  obtain ⟨hs, hobserves⟩ := Run.invariant_of_guarded hstep
    ⟨srpSound_srpInit k t v srcAddr now, hinit⟩ history (Run.guarded_of_forall fun e he _ => h e he)
  refine ⟨⟨hs, ?_, Or.inl ?_⟩, hobserves, fun heq => by cases heq⟩
  · rw [usedEntries_eq]
  · rw [usedAttributes_eq]

end

/-- **Churn does not leak.**  A device that has listened for a while goes on to attach to streams
and detach from them, each detach with a LeaveAll and a transmit opportunity behind it before the
next attach, and each stream with an attribute in the pool when it is attached to.  Then no more
slots and no more stream entries are in use at the end than at the start, so that with room at the
start for a stream there is room for any stream at the end. -/
theorem churn_does_not_leak (k t v : ℕ) (srcAddr : Vector UInt8 6) (now : ℕ)
    (history es : List SrpEvent) (hhistory : ∀ e ∈ history, e.Listening)
    (hg : Run.Guarded churnStep (fun w e => InPairs w e ∧ AttachesKnown w e)
      (churnStart k t v srcAddr now history) es)
    (hidle : (Run.runFrom churnStep (churnStart k t v srcAddr now history) es).phase = .idle) :
    (Run.runFrom churnStep (churnStart k t v srcAddr now history) es).srp.usedAttributes ≤
        (churnStart k t v srcAddr now history).srp.usedAttributes ∧
      (Run.runFrom churnStep (churnStart k t v srcAddr now history) es).srp.usedEntries ≤
        (churnStart k t v srcAddr now history).srp.usedEntries ∧
      ((churnStart k t v srcAddr now history).srp.usedAttributes + 2 ≤ 1 + v + k →
        (churnStart k t v srcAddr now history).srp.usedEntries < t →
        ∀ (id : StreamId) (vlan : ℕ), id ≠ (0, 0) →
          ((Run.runFrom churnStep (churnStart k t v srcAddr now history)
            es).srp.joinListenerAttrs id
            vlan).exhausted =
          (Run.runFrom churnStep (churnStart k t v srcAddr now history) es).srp.exhausted) := by
  have h := Run.invariant_of_guarded churnSound_step
    (churnSound_churnStart k t v srcAddr now hhistory) es hg
  generalize Run.runFrom churnStep (churnStart k t v srcAddr now history) es = w at h hidle ⊢
  have hslots :
      w.srp.usedAttributes ≤ (churnStart k t v srcAddr now history).srp.usedAttributes := by
    have hcase := h.view.slots
    rw [hidle] at hcase
    rw [usedAttributes_eq w.srp]
    exact hcase.resolve_right fun hfalse => hfalse.2
  have hids : w.srp.usedEntries ≤ (churnStart k t v srcAddr now history).srp.usedEntries :=
    h.view.entries
  refine ⟨hslots, hids, fun hroom hentry id vlan hid => ?_⟩
  have hattaches := SrpState.attaches_joinListenerAttrs h.view.sound hid vlan
  refine hattaches.exhausted_eq ?_ ?_
  · rw [← usedAttributes_eq]
    omega
  · rw [← usedEntries_eq]
    omega

def leaveAllTalkersFrame : Mem := fun k =>
  (([0x01, 0x80, 0xc2, 0, 0, 0x0e, 0, 0, 0, 0, 0, 0, 0x22, 0xea, 0, 1, 25, 0, 29, 0x20] :
    List UInt8) ++ List.replicate 28 0 ++ [2, 34, 0, 38, 0x20]).getD k 0

def churnCycle (id : StreamId) (time : ℕ) : List SrpEvent :=
  [.registerAttach id 0, .deregisterAttach id, .packet leaveAllTalkersFrame 94 (fun _ => time),
    .periodic fun _ => time]

theorem churn_does_not_leak_again :
    (Run.runFrom churnStep (churnStart 3 2 1 (Vector.replicate 6 0) 0 (churnCycle (1, 2) 25000000))
        (churnCycle (1, 2) 50000000)).srp.usedAttributes ≤
      (churnStart 3 2 1 (Vector.replicate 6 0) 0 (churnCycle (1, 2) 25000000)).srp.usedAttributes :=
  (churn_does_not_leak 3 2 1 (Vector.replicate 6 0) 0 (churnCycle (1, 2) 25000000)
    (churnCycle (1, 2) 50000000) (by decide +kernel) (by decide +kernel) (by decide +kernel)).1

theorem detached_stream_leaks :
    Run.Guarded churnStep InPairs (churnStart 3 2 1 (Vector.replicate 6 0) 0 [])
        (churnCycle (1, 2) 25000000) ∧
      (Run.runFrom churnStep (churnStart 3 2 1 (Vector.replicate 6 0) 0 [])
        (churnCycle (1, 2) 25000000)).phase = .idle ∧
      (churnStart 3 2 1 (Vector.replicate 6 0) 0 []).srp.usedAttributes <
        (Run.runFrom churnStep (churnStart 3 2 1 (Vector.replicate 6 0) 0 [])
          (churnCycle (1, 2) 25000000)).srp.usedAttributes ∧
      (churnStart 3 2 1 (Vector.replicate 6 0) 0 []).srp.usedEntries <
        (Run.runFrom churnStep (churnStart 3 2 1 (Vector.replicate 6 0) 0 [])
          (churnCycle (1, 2) 25000000)).srp.usedEntries := by
  decide +kernel
