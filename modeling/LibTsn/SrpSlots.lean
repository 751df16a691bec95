/-
# What a slot of the attribute pool remembers

`mrp_attribute_init` calls `memset` with size and value swapped, so that it clears nothing.  A slot
that is taken again, initialised and begun has the state of a new attribute, but the indications
that were pending, their parameter, the mark that it is to be removed and the times of the leave
timer are those of its last use.

Some of this can be seen later, and some cannot: a stopped timer has no use for its times, and a
parameter is replaced before the next indication.  `MrpAttribute.live` forgets what cannot be seen.
-/
import LibTsn.SrpState

/-! ## The slot as a machine -/

/-- What is seen of an attribute. -/
inductive SlotOutput where
  | transmitted (event : MrpAttributeEvent)
  | removed
  | indicated (indication : MrpIndication) (four : ℕ)
  deriving DecidableEq

/-- What happens to an attribute: what `MrpInput` lists, and a talker that becomes one of the other
type. -/
inductive SlotInput where
  | mrp (input : MrpInput)
  | retype (type : MrpAttributeType)

variable (x : MrpAttribute)

/-- An attribute marked for it is given up behind its next transmission. -/
def MrpAttribute.giveUp : MrpAttribute :=
  if x.removeAfterNextTx then
    { x with
      removeAfterNextTx := false
      applicantState :=
        if x.here = false ∧ x.attributeType ≠ .domainVector then .unused else x.applicantState }
  else x

/-- The slot behind a transmission, in which it takes part or not. -/
def MrpAttribute.afterSending (leaveAll : Bool) : MrpAttribute :=
  let y := if transmits leaveAll x.applicantState then x.giveUp else x
  { y with applicantState := SrpState.applicantAfterTx leaveAll y }

def slotTx (leaveAll : Bool) (now : ℕ) : MrpAttribute :=
  (registrarEvent now 0 (txEvent leaveAll) x).afterSending leaveAll

def slotStep : SlotInput → MrpAttribute
  | .mrp (.transmit leaveAll now) => slotTx x leaveAll now
  | .mrp input => mrpInput x input
  | .retype type => { x with attributeType := type }

def slotSent (leaveAll : Bool) : List SlotOutput :=
  if transmits leaveAll x.applicantState then
    .transmitted (makeTxEvent leaveAll x) :: if x.removeAfterNextTx then [.removed] else []
  else []

def slotOutputs : SlotInput → List SlotOutput
  | .mrp (.transmit leaveAll now) => slotSent (registrarEvent now 0 (txEvent leaveAll) x) leaveAll
  | .mrp (.poll _) => (pendingIndications x).map (.indicated · x.fourVectorParameter)
  | _ => []

/-! ## What cannot be seen -/

def AvbTimer.live (tmr : AvbTimer) : AvbTimer :=
  if tmr.active = 0 then ⟨0, 0, 0, tmr.timeoutMultiplier⟩ else tmr

/-- The parameter is of no use while nothing is registered and no indication is pending. -/
def MrpAttribute.FourUnused : Prop := x.registrarState = .empty ∧ pendingIndications x = []
  deriving Decidable

def MrpAttribute.live : MrpAttribute :=
  { x with
    leaveTimer := x.leaveTimer.live
    fourVectorParameter := if x.FourUnused then 0 else x.fourVectorParameter }

section

variable (tmr : AvbTimer) {x y : MrpAttribute}

lemma AvbTimer.active_live : tmr.live.active = tmr.active := by
  unfold live
  split_ifs with h
  · exact h.symm
  · rfl

lemma AvbTimer.multiplier_live : tmr.live.timeoutMultiplier = tmr.timeoutMultiplier := by
  unfold live
  split_ifs <;> rfl

lemma AvbTimer.live_live : tmr.live.live = tmr.live := by
  unfold live
  split_ifs <;> simp_all

lemma live_stopAvbTimer : (stopAvbTimer tmr.live).live = (stopAvbTimer tmr).live := by
  unfold AvbTimer.live stopAvbTimer
  split_ifs <;> simp_all

lemma startAvbTimer_live (now cs : ℕ) :
    startAvbTimer now cs tmr.live = startAvbTimer now cs tmr := by
  unfold startAvbTimer
  rw [AvbTimer.multiplier_live]

lemma live_avbTimerExpired (now : ℕ) :
    (avbTimerExpired now tmr.live).1.live = (avbTimerExpired now tmr).1.live ∧
      (avbTimerExpired now tmr.live).2 = (avbTimerExpired now tmr).2 := by
  unfold avbTimerExpired
  rw [AvbTimer.active_live]
  split_ifs <;> simp_all [AvbTimer.live]

lemma live_congr
    (hframe :
      { x with leaveTimer := y.leaveTimer, fourVectorParameter := y.fourVectorParameter } = y)
    (htimer : x.leaveTimer.live = y.leaveTimer.live)
    (hfour : x.FourUnused ∨ x.fourVectorParameter = y.fourVectorParameter) : x.live = y.live := by
  have hunused : y.FourUnused ↔ x.FourUnused := by
    rw [← hframe]
    rfl
  have hparameter : x.live.fourVectorParameter = y.live.fourVectorParameter := by
    unfold MrpAttribute.live
    dsimp only
    rcases hfour with h | h
    · rw [if_pos h, if_pos (hunused.mpr h)]
    · simp only [hunused, h]
  have hrest : x.live =
      { y.live with
        leaveTimer := x.leaveTimer.live, fourVectorParameter := x.live.fourVectorParameter } := by
    rw [← hframe]
    rfl
  rw [hrest, hparameter, htimer]
  rfl

variable (x)

lemma four_live : x.FourUnused ∨ x.live.fourVectorParameter = x.fourVectorParameter :=
  (em _).imp id fun h => if_neg h

lemma live_live : x.live.live = x.live :=
  live_congr rfl (AvbTimer.live_live _) (four_live x)

/-! The registrar does not look at what is forgotten. -/

lemma live_stopLeaveTimer :
    (stopLeaveTimer x.live).leaveTimer.live = (stopLeaveTimer x).leaveTimer.live := by
  unfold stopLeaveTimer
  by_cases h : x.registrarState = .leaving
  · rw [if_pos h, if_pos (show x.live.registrarState = .leaving from h)]
    exact live_stopAvbTimer x.leaveTimer
  · rw [if_neg h, if_neg (show ¬ x.live.registrarState = .leaving from h)]
    exact AvbTimer.live_live _

lemma live_registrarNew (four : ℕ) :
    (registrarNew four x.live).live = (registrarNew four x).live := by
  unfold registrarNew
  rw [stopLeaveTimer_eq, stopLeaveTimer_eq x]
  exact live_congr rfl (live_stopLeaveTimer x) (Or.inr rfl)

lemma live_registrarJoin (four : ℕ) :
    (registrarJoin four x.live).live = (registrarJoin four x).live := by
  unfold registrarJoin
  rw [stopLeaveTimer_eq, stopLeaveTimer_eq x]
  by_cases hempty : x.registrarState = .empty
  · rw [if_pos (Or.inl hempty), if_pos (Or.inl (show x.live.registrarState = .empty from hempty))]
    exact live_congr rfl (live_stopLeaveTimer x) (Or.inr rfl)
  · -- the old parameter is compared, and is one that can be seen
    have hfour : x.live.fourVectorParameter = x.fourVectorParameter := if_neg fun h => hempty h.1
    have hsame : x.live.registrarState = x.registrarState := rfl
    rw [hfour, hsame]
    split_ifs
    · exact live_congr rfl (live_stopLeaveTimer x) (Or.inr rfl)
    · exact live_congr rfl (live_stopLeaveTimer x) (Or.inr rfl)

lemma live_registrarLeave (now : ℕ) :
    (registrarLeave now x.live).live = (registrarLeave now x).live := by
  unfold registrarLeave
  by_cases h : x.registrarState = .registered
  · rw [if_pos h, if_pos (show x.live.registrarState = .registered from h)]
    refine live_congr rfl (congrArg _ (startAvbTimer_live x.leaveTimer now _)) (Or.inr ?_)
    exact if_neg fun hunused => by cases h.symm.trans hunused.1
  · rw [if_neg h, if_neg (show ¬ x.live.registrarState = .registered from h)]
    exact live_live x

lemma live_registrarExpire (four : ℕ) :
    (registrarExpire four x.live).live = (registrarExpire four x).live := by
  unfold registrarExpire
  by_cases h : x.registrarState = .leaving
  · rw [if_pos h, if_pos (show x.live.registrarState = .leaving from h)]
    exact live_congr rfl (AvbTimer.live_live _) (Or.inr rfl)
  · rw [if_neg h, if_neg (show ¬ x.live.registrarState = .leaving from h)]
    exact live_congr rfl (AvbTimer.live_live _) ((four_live x).imp (fun h => ⟨rfl, h.2⟩) id)

lemma live_registrarEvent (now four : ℕ) (e : MrpEvent) :
    (registrarEvent now four e x.live).live = (registrarEvent now four e x).live := by
  cases e with
  | begin =>
    exact live_congr rfl (AvbTimer.live_live _) ((four_live x).imp (fun h => ⟨rfl, h.2⟩) id)
  | receiveNew => exact live_registrarNew x four
  | receiveJoinIn | receiveJoinMt => exact live_registrarJoin x four
  | receiveLeave | receiveLeaveAll | txLeaveAll | redeclare => exact live_registrarLeave x now
  | leaveTimer | flush => exact live_registrarExpire x four
  | _ => exact live_live x

end

/-! ## Slots that look alike -/

section

variable {x y : MrpAttribute}

lemma frame_of_live (h : x.live = y.live) :
    { x with leaveTimer := y.leaveTimer, fourVectorParameter := y.fourVectorParameter } = y :=
  congrArg (fun z : MrpAttribute =>
    { z with leaveTimer := y.leaveTimer, fourVectorParameter := y.fourVectorParameter }) h

lemma four_of_live (h : x.live = y.live) :
    x.FourUnused ∨ x.fourVectorParameter = y.fourVectorParameter := by
  have hunused : y.FourUnused ↔ x.FourUnused := by
    rw [← frame_of_live h]
    rfl
  rcases four_live x with hx | hx
  · exact Or.inl hx
  · rcases four_live y with hy | hy
    · exact Or.inl (hunused.mp hy)
    · exact Or.inr (hx.symm.trans ((congrArg (·.fourVectorParameter) h).trans hy))

/-- An applicant that does not depend on what is forgotten. -/
lemma live_setApplicant {f : MrpAttribute → MrpApplicantState} (hf : ∀ x, f x.live = f x)
    (h : x.live = y.live) : ({ x with applicantState := f x } : MrpAttribute).live =
      ({ y with applicantState := f y } : MrpAttribute).live := by
  have hsame : f x = f y := by rw [← hf x, ← hf y, h]
  calc ({ x with applicantState := f x } : MrpAttribute).live
      = { x.live with applicantState := f x } := rfl
    _ = { y.live with applicantState := f y } := by rw [h, hsame]
    _ = _ := rfl

lemma registrarEvent_alike (h : x.live = y.live) (now four : ℕ) (e : MrpEvent) :
    (registrarEvent now four e x).live = (registrarEvent now four e y).live := by
  rw [← live_registrarEvent, h, live_registrarEvent]

lemma mrpUpdateState_alike (h : x.live = y.live) (now four : ℕ) (e : MrpEvent) :
    (mrpUpdateState now four e x).1.live = (mrpUpdateState now four e y).1.live := by
  have hregistrar := registrarEvent_alike h now four e
  cases e with
  | tx =>
    exact live_setApplicant (f := fun z => afterTx z.registrarState z.applicantState)
      (fun _ => rfl) hregistrar
  | txLeaveAll =>
    exact live_setApplicant (f := fun z => afterTxLeaveAll z.applicantState)
      (fun _ => rfl) hregistrar
  | _ =>
    exact live_setApplicant (f := fun z => applicantEvent _ z.applicantState)
      (fun _ => rfl) hregistrar

lemma slotTx_alike (h : x.live = y.live) (leaveAll : Bool) (now : ℕ) :
    (slotTx x leaveAll now).live = (slotTx y leaveAll now).live := by
  -- the slot behind the transmission, before the applicant moves
  have hgiven : ∀ z : MrpAttribute,
      (if transmits leaveAll z.applicantState then z.giveUp else z).live =
        if transmits leaveAll z.live.applicantState then z.live.giveUp else z.live := by
    intro z
    rw [apply_ite MrpAttribute.live]
    unfold MrpAttribute.giveUp
    rw [apply_ite MrpAttribute.live]
    rfl
  refine live_setApplicant (f := SrpState.applicantAfterTx leaveAll) (fun _ => rfl) ?_
  rw [hgiven, hgiven, registrarEvent_alike h]

lemma pollLeaveTimer_alike (h : x.live = y.live) (now : ℕ) :
    (pollLeaveTimer now (clearPending x)).live = (pollLeaveTimer now (clearPending y)).live := by
  have htimer : x.leaveTimer.live = y.leaveTimer.live := congrArg (·.leaveTimer) h
  obtain ⟨hx, hxran⟩ := live_avbTimerExpired x.leaveTimer now
  obtain ⟨hy, hyran⟩ := live_avbTimerExpired y.leaveTimer now
  rw [htimer] at hx hxran
  have hcleared : ({ clearPending x with leaveTimer := (avbTimerExpired now x.leaveTimer).1 } :
      MrpAttribute).live =
      ({ clearPending y with leaveTimer := (avbTimerExpired now y.leaveTimer).1 } :
        MrpAttribute).live := by
    refine live_congr (congrArg (fun z => ({ clearPending z with
      leaveTimer := (avbTimerExpired now y.leaveTimer).1 } : MrpAttribute)) (frame_of_live h))
      (hx.symm.trans hy) ?_
    exact (four_of_live h).imp (fun hunused => ⟨hunused.1, rfl⟩) id
  unfold pollLeaveTimer
  dsimp only
  rw [show (clearPending x).leaveTimer = x.leaveTimer from rfl,
    show (clearPending y).leaveTimer = y.leaveTimer from rfl, hxran.symm.trans hyran]
  split_ifs
  · exact mrpUpdateState_alike hcleared now 0 .leaveTimer
  · exact hcleared

/-- **Step.**  Slots that look alike go on looking alike. -/
lemma slotStep_alike (h : x.live = y.live) (i : SlotInput) :
    (slotStep x i).live = (slotStep y i).live := by
  cases i with
  | retype type => exact congrArg (fun z : MrpAttribute => { z with attributeType := type }) h
  | mrp input =>
    cases input with
    | received e four now => exact mrpUpdateState_alike h now four (mrpIn e)
    | leaveAll now => exact mrpUpdateState_alike h now 0 .receiveLeaveAll
    | transmit leaveAll now => exact slotTx_alike h leaveAll now
    | join new =>
      refine mrpUpdateState_alike ?_ 0 0 _
      exact congrArg (fun z : MrpAttribute => { z with removeAfterNextTx := false }) h
    | leave => exact mrpUpdateState_alike h 0 0 .lv
    | periodicTimer => exact mrpUpdateState_alike h 0 0 .periodic
    | poll now => exact pollLeaveTimer_alike h now

lemma slotOutputs_alike (h : x.live = y.live) (i : SlotInput) :
    slotOutputs x i = slotOutputs y i := by
  cases i with
  | retype type => rfl
  | mrp input =>
    cases input with
    | transmit leaveAll now =>
      have hsent := congrArg (slotSent · leaveAll) (registrarEvent_alike h now 0 (txEvent leaveAll))
      exact hsent
    | poll now =>
      have hlive := congrArg pendingIndications h
      have hpending : pendingIndications x = pendingIndications y := hlive
      show (pendingIndications x).map _ = (pendingIndications y).map _
      rcases four_of_live h with hunused | hfour
      · rw [← hpending, hunused.2]
        rfl
      · rw [hpending, hfour]
    | _ => rfl

end

/-! ## The history of a slot -/

/-- The fields that survive `mrp_attribute_init` and `mrp_mad_begin` agree, as far as they can be
seen: the mark, the pending indications and, if there are any, their parameter. -/
structure SameResidue (x y : MrpAttribute) : Prop where
  removeAfterNextTx : x.removeAfterNextTx = y.removeAfterNextTx
  pendingJoinNew : x.pendingJoinNew = y.pendingJoinNew
  pendingJoin : x.pendingJoin = y.pendingJoin
  pendingLeave : x.pendingLeave = y.pendingLeave
  fourVectorParameter : pendingIndications x = [] ∨ x.fourVectorParameter = y.fourVectorParameter

/-- A slot after `mrp_get_attr`, `mrp_attribute_init` and `mrp_mad_begin`. -/
def begunSlot (type : MrpAttributeType) (here : Bool) (info : AttributeInfo) (x : MrpAttribute) :
    MrpAttribute :=
  mrpMadBegin { x with
    applicantState := .disabled, attributeType := type, attributeInfo := info, here := here }

section

variable {x y : MrpAttribute} (type : MrpAttributeType) (here : Bool) (info : AttributeInfo)

lemma live_begunSlot (h : SameResidue x y) :
    (begunSlot type here info x).live = (begunSlot type here info y).live := by
  obtain ⟨hremove, hnew, hjoin, hleave, hfour⟩ := h
  refine live_congr ?_ rfl (hfour.imp (fun h => ⟨rfl, h⟩) id)
  unfold begunSlot mrpMadBegin mrpUpdateState registrarEvent
  dsimp only
  rw [hremove, hnew, hjoin, hleave]

lemma pendingIndications_inj (h : pendingIndications x = pendingIndications y) :
    x.pendingJoinNew = y.pendingJoinNew ∧ x.pendingJoin = y.pendingJoin ∧
      x.pendingLeave = y.pendingLeave := by
  unfold pendingIndications at h
  generalize x.pendingJoinNew = p at h ⊢
  generalize y.pendingJoinNew = p' at h ⊢
  generalize x.pendingJoin = q at h ⊢
  generalize y.pendingJoin = q' at h ⊢
  generalize x.pendingLeave = r at h ⊢
  generalize y.pendingLeave = r' at h ⊢
  revert h
  revert p p' q q' r r'
  decide

/-- The next turn in `mrp_periodic` shows what is pending, and a transmission behind a LeaveAll
whether the slot is marked. -/
lemma sameResidue_of_outputs (h : ∀ inputs,
    Run.outputs slotStep slotOutputs (begunSlot type here info x) inputs =
      Run.outputs slotStep slotOutputs (begunSlot type here info y) inputs) : SameResidue x y := by
  have hpoll : (pendingIndications x).map (SlotOutput.indicated · x.fourVectorParameter) ++ [] =
      (pendingIndications y).map (SlotOutput.indicated · y.fourVectorParameter) ++ [] :=
    h [.mrp (.poll 0)]
  have hmark :
      SlotOutput.transmitted .evMt :: (if x.removeAfterNextTx then [.removed] else []) ++ [] =
      .transmitted .evMt :: (if y.removeAfterNextTx then [.removed] else []) ++ [] :=
    h [.mrp (.leaveAll 0), .mrp (.transmit false 0)]
  rw [List.append_nil, List.append_nil] at hpoll
  have hpending : pendingIndications x = pendingIndications y := by
    have hshown := congrArg (List.filterMap fun | .indicated k _ => some k | _ => none) hpoll
    simpa [List.filterMap_map, Function.comp_def] using hshown
  obtain ⟨hnew, hjoin, hleave⟩ := pendingIndications_inj hpending
  refine ⟨?_, hnew, hjoin, hleave, ?_⟩
  · revert hmark
    cases x.removeAfterNextTx <;> cases y.removeAfterNextTx <;> simp
  · rw [← hpending] at hpoll
    cases hx : pendingIndications x with
    | nil => exact Or.inl rfl
    | cons k rest =>
      rw [hx, List.map_cons, List.map_cons, List.cons.injEq] at hpoll
      exact Or.inr (SlotOutput.indicated.inj hpoll.1).2

end

/-! ## The slot in the pool -/

namespace SrpState

variable {a t v : ℕ} {s : SrpState a t v} {i : Fin a} {x : MrpAttribute}

lemma attrs_removeReservationEntry (id : StreamId) (s : SrpState a t v) :
    (s.removeReservationEntry id).attrs = s.attrs := by
  unfold removeReservationEntry
  split <;> rfl

lemma attrs_cleanupReservationEntry (i : Fin a) (s : SrpState a t v) :
    (s.cleanupReservationEntry i).attrs i =
      if (s.attrs i).here = false ∧ (s.attrs i).attributeType ≠ .domainVector then
        { s.attrs i with applicantState := .unused }
      else s.attrs i := by
  unfold cleanupReservationEntry
  dsimp only
  -- the entry of the stream is removed or not, the attributes stay
  split_ifs with hgone hlast hlast
  · split
    · rw [attrs_removeReservationEntry]
      exact Function.update_self _ _ _
    · exact Function.update_self _ _ _
  · exact Function.update_self _ _ _
  · split
    · rw [attrs_removeReservationEntry]
    · rfl
  · rfl

lemma attrs_doTx (i : Fin a) (event : MrpAttributeEvent) (s : SrpState a t v) :
    (s.doTx i event).attrs i = (s.attrs i).giveUp := by
  unfold doTx MrpAttribute.giveUp
  dsimp only
  split_ifs with hmark hgone
  · show Function.update _ _ _ _ = _
    rw [Function.update_self, attrs_cleanupReservationEntry, if_pos hgone]
  · show Function.update _ _ _ _ = _
    rw [Function.update_self, attrs_cleanupReservationEntry, if_neg hgone]
  · rfl

lemma attrs_transmitAttr (leaveAll : Bool) (i : Fin a) (s : SrpState a t v) :
    (s.transmitAttr leaveAll i).attrs i = (s.attrs i).afterSending leaveAll := by
  unfold transmitAttr MrpAttribute.afterSending
  dsimp only
  split_ifs
  · show Function.update _ _ _ _ = _
    rw [Function.update_self, attrs_doTx]
  · exact Function.update_self _ _ _

/-- **The machine is the one in the pool.**  `mrp_update_state` changes the slot as `slotStep` says,
at a time that it reads from the clock. -/
theorem attrs_updateState_slot (i : Fin a) (s : SrpState a t v) :
    (∀ leaveAll, (s.updateState (txEvent leaveAll) 0 i).attrs i =
        slotStep (s.attrs i) (.mrp (.transmit leaveAll s.now))) ∧
      ∀ e four, e ≠ .tx → e ≠ .txLeaveAll →
        ∃ now, (s.updateState e four i).attrs i = (mrpUpdateState now four e (s.attrs i)).1 := by
  constructor
  · intro leaveAll
    have hslot := attrs_transmitAttr leaveAll i
      (s.tick.setAttr i (registrarEvent s.now 0 (txEvent leaveAll) (s.attrs i)))
    rw [show (s.tick.setAttr i (registrarEvent s.now 0 (txEvent leaveAll) (s.attrs i))).attrs i = _
      from Function.update_self _ _ _] at hslot
    cases leaveAll <;> exact hslot
  · intro e four htx htx'
    have hattrs : (s.restartLeaveall (s.attrs i).attributeType).attrs = s.attrs := by
      unfold restartLeaveall
      split_ifs <;> rfl
    cases e with
    | tx => exact absurd rfl htx
    | txLeaveAll => exact absurd rfl htx'
    | receiveLeaveAll =>
      refine ⟨(s.restartLeaveall (s.attrs i).attributeType).now, ?_⟩
      unfold updateState
      dsimp only
      rw [if_pos rfl]
      simp only [setAttr, Function.update_self, hattrs]
      rfl
    | _ => exact ⟨s.now, Function.update_self _ _ _⟩

lemma getAttr_eq (h : s.getAttr.1 = some i) :
    s.getAttr = (some i, s.setAttr i { s.attrs i with applicantState := .disabled }) ∧
      (s.attrs i).applicantState = .unused := by
  unfold getAttr at h ⊢
  split at h
  · next j hfind =>
    cases h
    have hfound := List.find?_some hfind
    exact ⟨rfl, of_decide_eq_true hfound⟩
  · cases h

lemma beginAttr_eq (h : s.getAttr.1 = some i) (type : MrpAttributeType) (here : Bool)
    (info : AttributeInfo) : (s.beginAttr type here info).2 =
      (s.setAttr i (begunSlot type here info (s.attrs i))).setRequest i none := by
  unfold beginAttr
  rw [(getAttr_eq h).1]
  simp only [attributeInit, madBegin, setAttr, Function.update_self, Function.update_idem]
  rfl

lemma getAttr_setAttr (h : s.getAttr.1 = some i) (hx : x.applicantState = .unused) :
    (s.setAttr i x).getAttr.1 = some i := by
  have hsame : ∀ j, ((s.setAttr i x).attrs j).applicantState = (s.attrs j).applicantState := by
    intro j
    show (Function.update s.attrs i x j).applicantState = _
    by_cases hj : j = i
    · rw [hj, Function.update_self, hx, (getAttr_eq h).2]
    · rw [Function.update_of_ne hj]
  unfold getAttr at h ⊢
  simp only [hsame]
  split at h
  · exact h
  · cases h

/-- **When a slot has no history.**  Let two tasks differ only in the contents of the unused slot
that `mrp_get_attr` returns.  After it was taken, initialised and begun they still differ in it at
most, and whatever happens to the slot from then on, the same events are transmitted, the same
indications given with the same parameters and the same removals made, exactly if the fields that
were not cleared agree as far as they can be seen. -/
theorem slot_history_iff (s : SrpState a t v) (i : Fin a) (hfree : s.getAttr.1 = some i)
    (x : MrpAttribute) (hx : x.applicantState = .unused) (type : MrpAttributeType) (here : Bool)
    (info : AttributeInfo) :
    let s₁ := (s.beginAttr type here info).2
    let s₂ := (beginAttr type here info (s.setAttr i x)).2
    s₂ = s₁.setAttr i (s₂.attrs i) ∧
      ((∀ inputs, Run.outputs slotStep slotOutputs (s₂.attrs i) inputs =
          Run.outputs slotStep slotOutputs (s₁.attrs i) inputs) ↔ SameResidue x (s.attrs i)) := by
  intro s₁ s₂
  have hs₁ : s₁ = (s.setAttr i (begunSlot type here info (s.attrs i))).setRequest i none :=
    beginAttr_eq hfree type here info
  have hs₂ : s₂ = (s.setAttr i (begunSlot type here info x)).setRequest i none := by
    have hbegun := beginAttr_eq (getAttr_setAttr hfree hx) type here info
    rw [show (s.setAttr i x).attrs i = x from Function.update_self _ _ _] at hbegun
    refine hbegun.trans ?_
    simp only [setAttr, Function.update_idem]
  have hslot₁ : s₁.attrs i = begunSlot type here info (s.attrs i) := by
    rw [hs₁]
    exact Function.update_self _ _ _
  have hslot₂ : s₂.attrs i = begunSlot type here info x := by
    rw [hs₂]
    exact Function.update_self _ _ _
  constructor
  · rw [hslot₂, hs₁, hs₂]
    simp only [setRequest, setAttr, Function.update_idem]
  · rw [hslot₁, hslot₂]
    refine ⟨sameResidue_of_outputs type here info, fun h => ?_⟩
    exact Run.outputs_eq_of_rel (R := fun x y : MrpAttribute => x.live = y.live)
      (fun _ _ e h => slotStep_alike h e) (fun _ _ e h => slotOutputs_alike h e)
      (live_begunSlot type here info h)

def oneTalker : SrpState (1 + 0 + 1) 1 0 :=
  { srpInit 1 1 0 (Vector.replicate 6 0) 0 with
    domain := ⟨false, 2⟩
    table := fun _ => { AvbStreamEntry.zero with
      reservation := { AvbSrpInfo.zero with streamId1 := 7 }, talkerPresent := true } }

/-- A parameter without an indication and the times of a stopped timer are not seen. -/
theorem slot_history_iff_stopped_timer :
    let x := { MrpAttribute.zero with fourVectorParameter := 3, leaveTimer := ⟨5, 6, 0, 1⟩ }
    x ≠ oneTalker.attrs 1 ∧ ∀ inputs, Run.outputs slotStep slotOutputs
        ((beginAttr .talkerAdvertise false (.stream 0) (oneTalker.setAttr 1 x)).2.attrs 1) inputs =
      Run.outputs slotStep slotOutputs
        ((oneTalker.beginAttr .talkerAdvertise false (.stream 0)).2.attrs 1) inputs :=
  ⟨by decide, (slot_history_iff oneTalker 1 (by decide) _ rfl .talkerAdvertise false
    (.stream 0)).2.mpr ⟨rfl, rfl, rfl, rfl, Or.inl rfl⟩⟩

/-- A Leave that was pending in the slot takes the talker away that the slot is taken for. -/
theorem slot_keeps_pending_leave :
    let x := { MrpAttribute.zero with pendingLeave := true }
    let events : List SrpEvent := [.periodic fun _ => 0]
    ((Run.runFrom srpStep (oneTalker.beginAttr .talkerAdvertise false (.stream 0)).2 events).table
        0).talkerPresent = true ∧
      ((Run.runFrom srpStep (beginAttr .talkerAdvertise false (.stream 0) (oneTalker.setAttr 1 x)).2
        events).table 0).talkerPresent = false := by
  decide

end SrpState
