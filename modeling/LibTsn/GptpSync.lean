/-
# Which Sync steers the clock

A Sync is remembered in one slot until its Follow_Up arrives.  The slot is not
cleared when the port changes its role or its master, the source of the Sync is
not looked at, and the Follow_Up is taken in any role.
-/
import LibTsn.GptpBmca

/-! ## The history -/

structure ReceivedSync where
  msg : PtpMsg
  ingress : ℕ

variable (w : WatchedPort) (s : PtpState) (m : PtpMsg)

def syncsOf : PtpEvent → List ReceivedSync
  | .recv m ts _ _ =>
    if m.transportSpecific = 1 ∧ m.messageType = 0 then [⟨m, onThisTile s ts⟩] else []
  | _ => []

/-- The event calls `set_new_role(PTP_SLAVE)`: a qualified Announce of a clock
better than the one held. -/
def BecomesSlave : PtpEvent → Prop
  | .recv m _ _ _ =>
    m.transportSpecific = 1 ∧ m.messageType = 11 ∧ s.asCapable ∧ qualifyAnnounce s m ∧
      newBest s.cfg s.bestAnnounceMsg m.announce > 0
  | _ => False

instance (s : PtpState) (e : PtpEvent) : Decidable (BecomesSlave s e) :=
  match e with
  | .recv _ _ _ _ => inferInstanceAs (Decidable (_ ∧ _ ∧ _ ∧ _ ∧ _))
  | .reset _ => isFalse id
  | .periodic _ _ _ _ => isFalse id

structure WatchedPort where
  port : PtpState
  syncs : List ReceivedSync

def watchStep (e : PtpEvent) : WatchedPort where
  port := ptpStep w.port e
  syncs :=
    if BecomesSlave w.port e ∨ (ptpStep w.port e).roleState ≠ .slave then []
    else w.syncs ++ syncsOf w.port e

lemma port_runFrom_watchStep (es : List PtpEvent) :
    (Run.runFrom watchStep w es).port = Run.runFrom ptpStep w.port es :=
  Run.runFrom_watched (fun _ _ => rfl) w es

/-! ## An empty slot stays empty -/

/-- The stored Sync, as the receipt timeouts see it. -/
def syncView (s : PtpState) : Bool × ℕ × ℕ :=
  (s.receivedSync, s.lastReceivedSyncTime, s.lastReceiveSyncUpstreamInterval)

/-- The last Announce of the master, as the receipt timeouts see it. -/
def announceView (s : PtpState) : Bool × ℕ :=
  (s.lastReceivedAnnounceTimeValid, s.lastReceivedAnnounceTime)

def receiptView (s : PtpState) : (Bool × ℕ × ℕ) × Bool × ℕ := (syncView s, announceView s)

section

variable {s : PtpState}
variable (now : ℕ)

lemma OnlyRole.receiptView {s s' : PtpState} (h : OnlyRole s s') :
    receiptView s' = receiptView s :=
  h.view fun _ _ => rfl

lemma receiptView_recvPdelayResp (now ingress : ℕ) (m : PtpMsg) (s : PtpState) :
    receiptView (recvPdelayResp now ingress m s) = receiptView s := by
  have hcount : receiptView (countLostFollowUp now m s) = receiptView s := by
    unfold countLostFollowUp
    split_ifs
    · exact (onlyRole_pdelayReqReset now _).receiptView
    · rfl
  have hstore : ∀ s, receiptView (storePdelayResp now ingress m s) = receiptView s := by
    intro s
    unfold storePdelayResp
    split_ifs
    · rfl
    · exact (onlyRole_pdelayReqReset now s).receiptView
  unfold recvPdelayResp
  split_ifs
  · exact (onlyRole_pdelayReqReset now (countMultipleResp s)).receiptView
  · exact (hstore _).trans hcount

lemma receiptView_recvPdelayRespFollowUp (m : PtpMsg) (s : PtpState) :
    receiptView (recvPdelayRespFollowUp now m s) = receiptView s := by
  unfold recvPdelayRespFollowUp
  split_ifs
  · exact (onlyRole_completeExchange now m s).receiptView
  · exact (onlyRole_pdelayReqReset now s).receiptView
  · rfl

lemma receiptView_ptpPeriodic (t now syncEgress pdelayEgress : ℕ) (s : PtpState) :
    receiptView (ptpPeriodic t now syncEgress pdelayEgress s).1
      = receiptView (periodicTimeouts t now (periodicSending s).1) := by
  have hclock : ∀ {s s'}, OnlyClock s s' → receiptView s' = receiptView s :=
    fun h => h.view fun _ _ => rfl
  have hpdelay : ∀ sending s,
      receiptView (periodicPdelayReq t now pdelayEgress sending s).1 = receiptView s := by
    intro sending s
    have hcount := (onlyRole_countUnanswered now s).receiptView
    unfold periodicPdelayReq
    split
    · cases sending <;> exact hcount
    · rfl
  unfold ptpPeriodic
  dsimp only
  rw [hclock (onlyClock_periodicUpdateReferenceTimestamps _ _), hpdelay,
    hclock (onlyClock_periodicSync _ _ _ _ _), hclock (onlyClock_periodicAnnounce _ _ _ _)]

lemma syncView_recvAnnounce (now ingress : ℕ) (m : PtpMsg) (s : PtpState) :
    syncView (recvAnnounce now ingress m s) = syncView s := by
  have hroles : syncView (bmcaUpdateRoles now m s) = syncView s := by
    unfold bmcaUpdateRoles
    dsimp only
    split_ifs <;> rfl
  unfold recvAnnounce
  dsimp only
  split_ifs
  · exact hroles
  · exact hroles
  · rfl

lemma receivedSync_periodicTimeouts {t : ℕ} (h : (followUpReceiptTimeout t s).receivedSync = false)
    (now : ℕ) : (periodicTimeouts t now s).receivedSync = false := by
  unfold periodicTimeouts receiptTimeout
  split_ifs
  · rfl
  · rfl
  · exact h

lemma receivedSync_ptpPeriodic (t now syncEgress pdelayEgress : ℕ) (s : PtpState) :
    (ptpPeriodic t now syncEgress pdelayEgress s).1.receivedSync
      = (periodicTimeouts t now (periodicSending s).1).receivedSync :=
  congrArg (·.1.1) (receiptView_ptpPeriodic t now syncEgress pdelayEgress s)

lemma syncView_ptpReset (s : PtpState) : syncView (ptpReset now s) = syncView s :=
  (onlyRole_resetAscapable now _).view fun _ _ => rfl

lemma receivedSync_ptpStep (h : s.receivedSync = false) {e : PtpEvent}
    (h' : (ptpStep s e).receivedSync = true) :
    ∃ m ts now egress, e = .recv m ts now egress ∧ m.transportSpecific = 1 ∧
      m.messageType = 0 ∧ s.asCapable = true ∧ s.roleState = .slave := by
  cases e with
  | recv m ts now egress =>
    simp only [ptpStep, ptpEvent, ptpRecv] at h'
    split at h'
    case isFalse => rw [h] at h'; cases h'
    case isTrue htransport =>
      split at h'
      case h_1 htype =>
        unfold recvSync at h'
        split at h'
        case isFalse => rw [h] at h'; cases h'
        case isTrue hstore =>
          simp only [Bool.and_eq_true, decide_eq_true_eq] at hstore
          exact ⟨m, ts, now, egress, rfl, htransport, htype, hstore.1.1, hstore.2⟩
      case h_2 =>
        have : s.receivedSync = true := h'
        rw [h] at this; cases this
      case h_3 =>
        have hsame := congrArg (·.1.1) (receiptView_recvPdelayResp now (onThisTile s ts) m s)
        cases h.symm.trans (hsame.symm.trans h')
      case h_4 =>
        simp [recvFollowUp, h] at h'
      case h_5 =>
        have hsame := congrArg (·.1.1) (receiptView_recvPdelayRespFollowUp now m s)
        cases h.symm.trans (hsame.symm.trans h')
      case h_6 =>
        have hsame := congrArg Prod.fst (syncView_recvAnnounce now (onThisTile s ts) m s)
        cases h.symm.trans (hsame.symm.trans h')
      case h_7 => rw [h] at h'; cases h'
  | reset now =>
    have hsame := congrArg Prod.fst (syncView_ptpReset now s)
    cases h.symm.trans (hsame.symm.trans h')
  | periodic t now syncEgress pdelayEgress =>
    simp only [ptpStep, ptpEvent, receivedSync_ptpPeriodic] at h'
    have hsending : (periodicSending s).1.receivedSync = s.receivedSync :=
      (onlyClock_periodicSending s).view fun _ _ => rfl
    have hfollow : (followUpReceiptTimeout t (periodicSending s).1).receivedSync = false := by
      unfold followUpReceiptTimeout
      split_ifs
      · rfl
      · exact hsending.trans h
    rw [receivedSync_periodicTimeouts hfollow] at h'
    cases h'

end

/-! ## A filled slot -/

def slotView : Bool × ℕ × ℕ × PortIdentity × PtpPortRole × Bool :=
  (s.receivedSync, s.receivedSyncId, s.receivedSyncTs, s.masterPortId, s.roleState, s.asCapable)

/-- The message completes an exchange: `update_path_delay` is called for it. -/
def CompletesExchange : PtpEvent → Prop
  | .recv m _ _ _ =>
    m.transportSpecific = 1 ∧ m.messageType = 10 ∧ s.receivedPdelay = true ∧
      s.receivedPdelayId = m.sequenceId ∧ m.sourcePortIdentity = s.delayInfo.rcvdSourceIdentity
  | _ => False

instance (s : PtpState) (e : PtpEvent) : Decidable (CompletesExchange s e) :=
  match e with
  | .recv _ _ _ _ => inferInstanceAs (Decidable (_ ∧ _))
  | .reset _ => isFalse id
  | .periodic _ _ _ _ => isFalse id

/-- The exchange that `m` completes leaves the neighbour one that the port is asCapable with: the
averaged path delay is small enough, and the counter of exchanges has not wrapped. -/
def ConfirmsNeighbour : Prop :=
  (measureExchange m s).delayInfo.pdelay ≤ ptpNeighborPropDelayThreshNs ∧
    2 ≤ (measureExchange m s).delayInfo.exchanges
  deriving Decidable

/-- The event gives no reason to call `set_new_role`.  A Pdelay_Resp can count two lost responses, a
Pdelay_Resp_Follow_Up counts one if an exchange is open that it does not complete, and an Announce
matters only if it is qualified. -/
def KeepsMaster (e : PtpEvent) : Prop :=
  match e with
  | .recv m _ _ _ => m.transportSpecific = 1 →
    (m.messageType = 3 → s.delayInfo.lostResponses + 1 < ptpAllowedLostResponses) ∧
    (m.messageType = 10 → s.receivedPdelay → ¬ CompletesExchange s e →
      s.delayInfo.lostResponses < ptpAllowedLostResponses) ∧
    (CompletesExchange s e → ConfirmsNeighbour s m) ∧
    (m.messageType = 11 → qualifyAnnounce s m → ¬ m.announce.vector < s.bestAnnounceMsg.vector ∧
      ¬ worseQuality s.bestAnnounceMsg.vector m.announce.vector)
  | .reset _ => False
  | .periodic _ _ _ _ => s.delayInfo.lostResponses < ptpAllowedLostResponses

def FromMaster : PtpEvent → Prop
  | .recv m _ _ _ => m.messageType = 0 → s.asCapable → s.receivedSync = false →
      s.roleState = .slave → m.sourcePortIdentity = s.masterPortId
  | _ => True

def SyncGuard (e : PtpEvent) : Prop :=
  (s.receivedSync → KeepsMaster s e) ∧ FromMaster s e

instance (s : PtpState) (e : PtpEvent) : Decidable (KeepsMaster s e) :=
  match e with
  | .recv _ _ _ _ => inferInstanceAs (Decidable (_ → _))
  | .reset _ => isFalse id
  | .periodic _ _ _ _ => inferInstanceAs (Decidable (_ < _))

instance (s : PtpState) (e : PtpEvent) : Decidable (FromMaster s e) :=
  match e with
  | .recv _ _ _ _ => inferInstanceAs (Decidable (_ → _))
  | .reset _ => isTrue trivial
  | .periodic _ _ _ _ => isTrue trivial

deriving instance Decidable for SyncGuard

section

variable {s : PtpState}

lemma pdelayReqReset_of_lt (h : s.delayInfo.lostResponses < ptpAllowedLostResponses) (now : ℕ) :
    pdelayReqReset now s = { s with
      delayInfo := { s.delayInfo with lostResponses := s.delayInfo.lostResponses + 1 } } := by
  unfold pdelayReqReset
  rw [if_pos h]

lemma slotView_recvPdelayResp (h : s.delayInfo.lostResponses + 1 < ptpAllowedLostResponses)
    (now ingress : ℕ) (m : PtpMsg) : slotView (recvPdelayResp now ingress m s) = slotView s := by
  -- a response can count twice: for the follow up that did not come and for itself
  have hcount : slotView (countLostFollowUp now m s) = slotView s ∧
      (countLostFollowUp now m s).delayInfo.lostResponses ≤ s.delayInfo.lostResponses + 1 := by
    unfold countLostFollowUp
    split_ifs
    · rw [pdelayReqReset_of_lt (by exact Nat.lt_of_succ_lt h)]
      exact ⟨rfl, le_refl _⟩
    · exact ⟨rfl, Nat.le_succ _⟩
  have hstore : ∀ s, s.delayInfo.lostResponses < ptpAllowedLostResponses →
      slotView (storePdelayResp now ingress m s) = slotView s := by
    intro s hs
    unfold storePdelayResp
    split_ifs
    · rfl
    · rw [pdelayReqReset_of_lt hs]
      rfl
  unfold recvPdelayResp
  split_ifs
  · rw [pdelayReqReset_of_lt (by exact Nat.lt_of_succ_lt h)]
    rfl
  · exact (hstore _ (lt_of_le_of_lt hcount.2 h)).trans hcount.1

lemma slotView_completeExchange (hcap : s.asCapable = true) {m : PtpMsg}
    (h : ConfirmsNeighbour s m) (now : ℕ) : slotView (completeExchange now m s) = slotView s := by
  have hvalid : (measureExchange m s).delayInfo.valid = true := by
    show (averagePathDelay _ _).valid = true
    unfold averagePathDelay
    split_ifs with hv
    · exact hv
    · rfl
  have hsame : judgeNeighbour now (measureExchange m s) = measureExchange m s := by
    unfold judgeNeighbour setAscapable
    rw [if_pos ⟨hvalid, h.1, h.2⟩, if_pos (by exact hcap)]
  unfold completeExchange
  rw [hsame]
  rfl

lemma slotView_recvPdelayRespFollowUp (hcap : s.asCapable = true) {m : PtpMsg} {ts now egress : ℕ}
    (htransport : m.transportSpecific = 1) (htype : m.messageType = 10)
    (he : KeepsMaster s (.recv m ts now egress)) :
    slotView (recvPdelayRespFollowUp now m s) = slotView s := by
  obtain ⟨-, hlost, hconfirm, -⟩ := he htransport
  unfold recvPdelayRespFollowUp
  split_ifs with hopen hmatch
  · exact slotView_completeExchange hcap (hconfirm ⟨htransport, htype, hopen, hmatch⟩) now
  · rw [pdelayReqReset_of_lt (hlost htype hopen fun h => hmatch h.2.2.2)]
    rfl
  · rfl

lemma bmcaUpdateRoles_of_even {m : PtpMsg}
    (hbetter : ¬ m.announce.vector < s.bestAnnounceMsg.vector)
    (hworse : ¬ worseQuality s.bestAnnounceMsg.vector m.announce.vector) :
    newBest s.cfg s.bestAnnounceMsg m.announce = 0 := by
  have hquality : ¬ s.bestAnnounceMsg.quality < m.announce.quality := hworse
  rw [newBest_eq, if_neg hquality, if_neg hbetter, ite_self]

lemma slotView_recvAnnounce {m : PtpMsg} (hzero : qualifyAnnounce s m = true →
      newBest s.cfg s.bestAnnounceMsg m.announce = 0) (now ingress : ℕ) :
    slotView (recvAnnounce now ingress m s) = slotView s := by
  unfold recvAnnounce
  split
  next hqualified =>
    have hsame : bmcaUpdateRoles now m s = s := by
      simp only [bmcaUpdateRoles, hzero (Bool.and_eq_true _ _ ▸ hqualified).2, lt_irrefl, false_and,
        if_false]
    rw [hsame]
    dsimp only
    split_ifs <;> rfl
  next => rfl

lemma recvFollowUp_cases (m : PtpMsg) (s : PtpState) :
    (recvFollowUp m s).receivedSync = false ∨ recvFollowUp m s = s := by
  unfold recvFollowUp
  split_ifs
  · exact Or.inl rfl
  · exact Or.inr rfl
  · exact Or.inl rfl

lemma periodicTimeouts_cases (t now : ℕ) (s : PtpState) :
    (periodicTimeouts t now s).receivedSync = false ∨ periodicTimeouts t now s = s := by
  unfold periodicTimeouts receiptTimeout
  split_ifs
  · exact Or.inl rfl
  · exact Or.inl rfl
  · unfold followUpReceiptTimeout
    split_ifs
    · exact Or.inl rfl
    · exact Or.inr rfl

lemma slotView_ptpPeriodic {t now : ℕ} (syncEgress pdelayEgress : ℕ)
    (hquiet : periodicTimeouts t now (periodicSending s).1 = (periodicSending s).1)
    (hlost : s.delayInfo.lostResponses < ptpAllowedLostResponses) :
    slotView (ptpPeriodic t now syncEgress pdelayEgress s).1 = slotView s := by
  have hclock : ∀ {s s'}, OnlyClock s s' →
      slotView s' = slotView s ∧ s'.delayInfo.lostResponses = s.delayInfo.lostResponses :=
    fun h => ⟨h.view fun _ _ => rfl, h.view (f := (·.delayInfo.lostResponses)) fun _ _ => rfl⟩
  have hcount : ∀ s, s.delayInfo.lostResponses < ptpAllowedLostResponses →
      slotView (countUnanswered now s) = slotView s := by
    intro s hs
    unfold countUnanswered
    split_ifs
    · rw [pdelayReqReset_of_lt hs]
      rfl
    · rfl
  have hpdelay : ∀ sending s, s.delayInfo.lostResponses < ptpAllowedLostResponses →
      slotView (periodicPdelayReq t now pdelayEgress sending s).1 = slotView s := by
    intro sending s hs
    unfold periodicPdelayReq
    split
    · cases sending <;> exact hcount s hs
    · rfl
  have hbefore := hclock <| ((onlyClock_periodicSending s).trans
    (onlyClock_periodicAnnounce t s.roleState s.asCapable _)).trans
    (onlyClock_periodicSync t syncEgress s.roleState s.asCapable _)
  unfold ptpPeriodic
  dsimp only
  rw [(hclock (onlyClock_periodicUpdateReferenceTimestamps _ _)).1, hquiet,
    hpdelay _ _ (by rwa [hbefore.2]), hbefore.1]

/-- **Step of a filled slot.**  An event that gives no reason to leave the master
empties the slot or leaves it, the role and the master as they are; and it does
not make the port a slave anew. -/
theorem filledSlot_step (hcap : s.asCapable = true) (hfull : s.receivedSync = true)
    {e : PtpEvent} (he : KeepsMaster s e) :
    ((ptpStep s e).receivedSync = false ∨ slotView (ptpStep s e) = slotView s) ∧
      ¬ BecomesSlave s e := by
  cases e with
  | recv m ts now egress =>
    have hannounce : m.transportSpecific = 1 → m.messageType = 11 → qualifyAnnounce s m = true →
        newBest s.cfg s.bestAnnounceMsg m.announce = 0 := by
      intro htransport htype hqualified
      obtain ⟨hbetter, hworse⟩ := (he htransport).2.2.2 htype hqualified
      exact bmcaUpdateRoles_of_even hbetter hworse
    constructor
    · simp only [ptpStep, ptpEvent, ptpRecv]
      split
      next htransport =>
        split
        · -- the slot is taken
          refine Or.inr ?_
          unfold recvSync
          rw [hfull, hcap]
          rfl
        · exact Or.inr rfl
        · next htype => exact Or.inr (slotView_recvPdelayResp ((he htransport).1 htype) now _ m)
        · rcases recvFollowUp_cases m s with h | h
          · exact Or.inl h
          · exact Or.inr (congrArg slotView h)
        · next htype => exact Or.inr (slotView_recvPdelayRespFollowUp hcap htransport htype he)
        · next htype => exact Or.inr (slotView_recvAnnounce (hannounce htransport htype) now _)
        · exact Or.inr rfl
      next => exact Or.inr rfl
    · rintro ⟨htransport, htype, -, hqualified, hpos⟩
      rw [hannounce htransport htype hqualified] at hpos
      exact absurd hpos (lt_irrefl 0)
  | reset now => exact absurd he id
  | periodic t now syncEgress pdelayEgress =>
    refine ⟨?_, id⟩
    rcases periodicTimeouts_cases t now (periodicSending s).1 with h | h
    · refine Or.inl ?_
      show (ptpPeriodic t now syncEgress pdelayEgress s).1.receivedSync = false
      rw [receivedSync_ptpPeriodic]
      exact h
    · exact Or.inr (slotView_ptpPeriodic syncEgress pdelayEgress h he)

end

structure StoredSync (w : WatchedPort) : Prop where
  role : w.port.receivedSync = true → w.port.roleState = .slave
  capable : w.port.receivedSync = true → w.port.asCapable = true
  sync : w.port.receivedSync = true → ∃ y ∈ w.syncs, y.ingress = w.port.receivedSyncTs ∧
    y.msg.sourcePortIdentity = w.port.masterPortId ∧ y.msg.sequenceId = w.port.receivedSyncId

lemma storedSync_step {w : WatchedPort} (h : StoredSync w) {e : PtpEvent}
    (he : SyncGuard w.port e) : StoredSync (watchStep w e) := by
  by_cases hfull : w.port.receivedSync = true
  · obtain ⟨hstep, hnot⟩ := filledSlot_step (h.capable hfull) hfull (he.1 hfull)
    rcases hstep with hempty | hview
    · -- emptied: nothing to show
      have hne : ¬ (watchStep w e).port.receivedSync = true := by
        show ¬ (ptpStep w.port e).receivedSync = true
        rw [hempty]
        exact Bool.false_ne_true
      exact ⟨fun hf => absurd hf hne, fun hf => absurd hf hne, fun hf => absurd hf hne⟩
    · simp only [slotView, Prod.mk.injEq] at hview
      obtain ⟨-, hid, hts, hmaster, hrole, hcap⟩ := hview
      refine ⟨fun _ => hrole.trans (h.role hfull), fun _ => hcap.trans (h.capable hfull), ?_⟩
      intro _
      obtain ⟨y, hy, hin, hsrc, hseq⟩ := h.sync hfull
      have hslave : (ptpStep w.port e).roleState = .slave := hrole.trans (h.role hfull)
      refine ⟨y, ?_, hin.trans hts.symm, hsrc.trans hmaster.symm, hseq.trans hid.symm⟩
      show y ∈ (if BecomesSlave w.port e ∨ (ptpStep w.port e).roleState ≠ .slave then []
        else w.syncs ++ syncsOf w.port e)
      rw [if_neg (not_or.mpr ⟨hnot, not_not.mpr hslave⟩)]
      exact List.mem_append_left _ hy
  · have hempty : w.port.receivedSync = false := by simpa using hfull
    by_cases hfill : (ptpStep w.port e).receivedSync = true
    · -- filled by this Sync
      obtain ⟨m, ts, now, egress, rfl, htransport, htype, hcap, hrole⟩ :=
        receivedSync_ptpStep hempty hfill
      have hstep : ptpStep w.port (.recv m ts now egress)
          = recvSync (onThisTile w.port ts) m w.port := by
        simp only [ptpStep, ptpEvent, ptpRecv, htransport, htype, if_true]
      have hstored : recvSync (onThisTile w.port ts) m w.port = { w.port with
          receivedSync := true
          receivedSyncId := m.sequenceId
          receivedSyncTs := onThisTile w.port ts
          lastReceivedSyncTime := onThisTile w.port ts
          lastReceiveSyncUpstreamInterval := logSecToTimerTicks m.logMessageInterval } := by
        unfold recvSync
        rw [if_pos (by simp [hcap, hempty, hrole])]
      have hmaster := he.2 htype hcap hempty hrole
      have hport : (watchStep w (.recv m ts now egress)).port = _ := hstep.trans hstored
      refine ⟨fun _ => ?_, fun _ => ?_, fun _ => ⟨⟨m, onThisTile w.port ts⟩, ?_, ?_, ?_, ?_⟩⟩
      · rw [hport]
        exact hrole
      · rw [hport]
        exact hcap
      · have hnot : ¬ BecomesSlave w.port (.recv m ts now egress) := by
          rintro ⟨-, htype', -⟩
          rw [htype] at htype'
          cases htype'
        have hslave : (ptpStep w.port (.recv m ts now egress)).roleState = .slave := by
          rw [hstep, hstored]
          exact hrole
        simp only [watchStep, syncsOf]
        rw [if_neg (not_or.mpr ⟨hnot, not_not.mpr hslave⟩), if_pos ⟨htransport, htype⟩]
        exact List.mem_append_right _ (List.mem_singleton_self _)
      · rw [hport]
      · rw [hport]
        exact hmaster
      · rw [hport]
    · exact ⟨fun hf => absurd hf hfill, fun hf => absurd hf hfill, fun hf => absurd hf hfill⟩

def clockView : ℤ × ℤ × ℕ × PtpTimestamp :=
  (s.gPtpAdjust, s.gInvPtpAdjust, s.ptpReferenceLocalTs, s.ptpReferencePtpTs)

lemma followUp_of_clockView_ne {s : PtpState} {m : PtpMsg} {ts now egress : ℕ}
    (htype : m.messageType = 8)
    (hne : clockView (ptpStep s (.recv m ts now egress)) ≠ clockView s) :
    s.receivedSync = true ∧ m.sourcePortIdentity = s.masterPortId ∧
      s.receivedSyncId = m.sequenceId := by
  by_cases htransport : m.transportSpecific = 1
  · have hstep : ptpStep s (.recv m ts now egress) = recvFollowUp m s := by
      simp only [ptpStep, ptpEvent, ptpRecv, htransport, htype, if_true]
    rw [hstep] at hne
    unfold recvFollowUp at hne
    split_ifs at hne with hmine hseq
    · exact ⟨hmine.1, hmine.2, hseq⟩
    · exact absurd rfl hne
    · exact absurd rfl hne
  · exfalso
    apply hne
    simp only [ptpStep, ptpEvent, ptpRecv, if_neg htransport]

/-- The port is a slave, and the ingress time the Follow_Up `m` is matched with
is that of a Sync received since it became one, from the source of `m`, which is
the master, and with the sequence id of `m`. -/
def SteeredByMaster : Prop :=
  w.port.roleState = .slave ∧ m.sourcePortIdentity = w.port.masterPortId ∧
    ∃ y ∈ w.syncs, y.ingress = w.port.receivedSyncTs ∧
      y.msg.sourcePortIdentity = m.sourcePortIdentity ∧ y.msg.sequenceId = m.sequenceId

/-- The port of `masterPort` before `ptp_init`. -/
def coldPort : PtpState :=
  { masterPort with
    asCapable := false
    delayInfo := ⟨false, 0, 0, 0, 0, 0, Vector.replicate 10 0⟩ }

def neighbourMessage (messageType sequenceId : ℕ) : PtpMsg where
  transportSpecific := 1
  messageType := messageType
  correctionField := Vector.replicate 8 0
  sourcePortIdentity := Vector.replicate 10 2
  sequenceId := sequenceId
  logMessageInterval := 0
  announce := (clockAnnouncement 100 2).msg.announce
  timestamp := Vector.replicate 10 0
  requestingPortIdentity := Vector.replicate 8 1
  requestingPortId := 1

def pdelayExchange (n : ℕ) : List PtpEvent :=
  [.periodic (n * 100000001) 0 0 (n * 100000001 + 5),
    .recv (neighbourMessage 3 n) (n * 100000001 + 15) 0 0,
    .recv (neighbourMessage 10 n) (n * 100000001 + 25) 0 0]

def storesSync : List PtpEvent :=
  pdelayExchange 1 ++ pdelayExchange 2 ++
    [(clockAnnouncement 100 2).event, .recv (neighbourMessage 0 5) 200001000 0 0]
