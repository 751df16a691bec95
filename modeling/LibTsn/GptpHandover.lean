/-
# Leaving the role of slave

What happens to a slave when its master is lost: when it leaves the role, and
what becomes of the PTP time it keeps.
-/
import LibTsn.GptpPdelay

/-! ## The PTP time of a local time -/

def localTimestampToPtp (localTs referenceLocalTs : ℕ) (referencePtpTs : PtpTimestamp)
    (ptpAdjust : ℤ) : PtpTimestamp :=
  let localDiff := u32 (s32 localTs - s32 referenceLocalTs)
  ptpTimestampOffset64 referencePtpTs (localTimeToPtpTime localDiff ptpAdjust)

variable (t : ℕ) (s : PtpState) (ts : PtpTimestamp)

def localToPtpTs (localTs : ℕ) : PtpTimestamp :=
  localTimestampToPtp localTs s.ptpReferenceLocalTs s.ptpReferencePtpTs s.gPtpAdjust

lemma sec_ptpTimestampOffset64 (offset : ℤ) : (ptpTimestampOffset64 ts offset).sec =
      (ts.sec + u64 (ts.nanoseconds + offset) / nanosecondsPerSecond) % 2 ^ 64 :=
  PtpTimestamp.sec_words _ _

lemma ptpTimestampDiff_offset64 {x y : ℤ} (hns : ts.nanoseconds < 2 ^ 32) (hx : 0 ≤ x)
    (hx' : x < 2 ^ 60) (hy : 0 ≤ y) (hy' : y < 2 ^ 60) :
    ptpTimestampDiff (ptpTimestampOffset64 ts x) (ptpTimestampOffset64 ts y) = x - y := by
  have hwords : ∀ z : ℤ, 0 ≤ z → z < 2 ^ 60 →
      (u64 (ts.nanoseconds + z) : ℤ) = ts.nanoseconds + z := by
    intro z hz hz'
    unfold u64
    omega
  have hux := hwords x hx hx'
  have huy := hwords y hy hy'
  unfold ptpTimestampDiff
  rw [sec_ptpTimestampOffset64, sec_ptpTimestampOffset64]
  show s64 (s64 (((u64 (ts.nanoseconds + x) % nanosecondsPerSecond : ℕ) : ℤ) -
    ((u64 (ts.nanoseconds + y) % nanosecondsPerSecond : ℕ) : ℤ)) + _) = x - y
  generalize u64 (ts.nanoseconds + x) = a at hux ⊢
  generalize u64 (ts.nanoseconds + y) = b at huy ⊢
  generalize ts.sec = sec
  unfold nanosecondsPerSecond s64
  omega

lemma corrected_nonneg (d : ℕ) {adjust : ℤ} (hadjust : |adjust| < 2 ^ 20) :
    0 ≤ 10 * (d : ℤ) + 10 * d * adjust / 2 ^ 30 := by
  have hlower : -(10 * (d : ℤ) * 2 ^ 20) ≤ 10 * d * adjust := by
    have hticks : 0 ≤ 10 * (d : ℤ) := by omega
    have := mul_le_mul_of_nonneg_left (abs_lt.mp hadjust).1.le hticks
    linarith
  generalize 10 * (d : ℤ) * adjust = correction at hlower ⊢
  omega

lemma localTimestampToPtp_eq {d : ℕ} (hd : d < 2 ^ 31) (reference : ℕ) (ts : PtpTimestamp)
    (adjust : ℤ) : localTimestampToPtp ((reference + d) % 2 ^ 32) reference ts adjust =
      ptpTimestampOffset64 ts (localTimeToPtpTime d adjust) := by
  have hdiff : u32 (s32 ((reference + d) % 2 ^ 32 : ℕ) - s32 reference) = d := by
    unfold u32 s32
    omega
  unfold localTimestampToPtp
  rw [hdiff]

/-! ## The jump -/

def NegligibleCorrection (d : ℕ) (adjust : ℤ) : Prop :=
  -2 ^ 30 ≤ 10 * d * adjust ∧ 10 * d * adjust < 2 ^ 31
  deriving Decidable

/-- **Handover.**  At `d` ticks after the reference, the change of role leaves the
PTP time where it was, up to one nanosecond, if and only if the port becomes
uncertain or the correction accumulated by then is negligible. -/
theorem handover_jump_iff (s : PtpState) (role : PtpPortRole)
    (hrole : role = .master ∨ role = .uncertain) (now d : ℕ) (hd : d < 2 ^ 31)
    (hns : s.ptpReferencePtpTs.nanoseconds < 2 ^ 32) (hadjust : |s.gPtpAdjust| < 2 ^ 20) :
    |ptpTimestampDiff
        (localToPtpTs (setNewRole now role s) ((s.ptpReferenceLocalTs + d) % 2 ^ 32))
        (localToPtpTs s ((s.ptpReferenceLocalTs + d) % 2 ^ 32))| ≤ 1 ↔
      role = .uncertain ∨ NegligibleCorrection d s.gPtpAdjust := by
  have hbound := abs_lt.mp (abs_correction_lt (d := d) (by omega) (by omega) hadjust)
  have hnonneg := corrected_nonneg d hadjust
  have hbefore : localToPtpTs s ((s.ptpReferenceLocalTs + d) % 2 ^ 32) =
      ptpTimestampOffset64 s.ptpReferencePtpTs (10 * d + 10 * d * s.gPtpAdjust / 2 ^ 30) := by
    rw [← localTimeToPtpTime_eq (by omega) hadjust]
    exact localTimestampToPtp_eq hd _ _ _
  rcases hrole with rfl | rfl
  · -- the rate offset is zero after the change
    have hafter : localToPtpTs (setNewRole now .master s) ((s.ptpReferenceLocalTs + d) % 2 ^ 32) =
        ptpTimestampOffset64 s.ptpReferencePtpTs (10 * d) := by
      have hzero : localTimeToPtpTime d 0 = 10 * d := by
        rw [localTimeToPtpTime_eq (by omega) (by norm_num)]
        simp
      rw [← hzero]
      exact localTimestampToPtp_eq hd _ _ _
    have hdiff := ptpTimestampDiff_offset64 s.ptpReferencePtpTs hns (x := 10 * d)
      (y := 10 * d + 10 * d * s.gPtpAdjust / 2 ^ 30) (by omega) (by omega) (by omega) (by omega)
    rw [hafter, hbefore, hdiff, abs_le]
    simp only [reduceCtorEq, false_or]
    unfold NegligibleCorrection
    omega
  · -- neither the rate offset nor the reference changes
    have hafter :
        localToPtpTs (setNewRole now .uncertain s) ((s.ptpReferenceLocalTs + d) % 2 ^ 32) =
        localToPtpTs s ((s.ptpReferenceLocalTs + d) % 2 ^ 32) := rfl
    have hsame := ptpTimestampDiff_offset64 s.ptpReferencePtpTs hns
      (x := 10 * d + 10 * d * s.gPtpAdjust / 2 ^ 30) (y := 10 * d + 10 * d * s.gPtpAdjust / 2 ^ 30)
      (by omega) (by omega) (by omega) (by omega)
    rw [hafter, hbefore, hsame]
    simp

def steeredSlave : PtpState :=
  { coldPort with asCapable := true, roleState := .slave, gPtpAdjust := 107374 }

theorem early_handover_keeps_time : |ptpTimestampDiff
        (localToPtpTs (setNewRole 10 .master steeredSlave)
          ((steeredSlave.ptpReferenceLocalTs + 10) % 2 ^ 32))
        (localToPtpTs steeredSlave ((steeredSlave.ptpReferenceLocalTs + 10) % 2 ^ 32))| ≤ 1 :=
  (handover_jump_iff steeredSlave .master (Or.inl rfl) 10 10 (by decide) (by decide)
    (by decide)).mpr (Or.inr (by decide))

/-- One second after it the time of the new master jumps back by 100 µs. -/
theorem handover_jumps_back :
    ¬ |ptpTimestampDiff (localToPtpTs (setNewRole 100000000 .master steeredSlave) 100000000)
        (localToPtpTs steeredSlave 100000000)| ≤ 1 := by
  decide +kernel

/-! ## The end of the role -/

/-- `announceReceiptTimeout` of `ptp_periodic`. -/
def AnnounceOverdue : Prop :=
  s.lastReceivedAnnounceTimeValid = true ∧
    timeafter t (s.lastReceivedAnnounceTime + recvAnnounceTimeout) = true

/-- `syncReceiptTimeout` of `ptp_periodic`, for a Sync that `followUpReceiptTimeout` has not dropped
in the same call. -/
def SyncOverdue : Prop :=
  s.receivedSync = true ∧
    timeafter t (s.lastReceivedSyncTime + s.lastReceiveSyncUpstreamInterval) = false ∧
    timeafter t (s.lastReceivedSyncTime +
      s.lastReceiveSyncUpstreamInterval * ptpSyncReceiptTimeoutMultiple) = true

/-- The next Pdelay request is due, the last one is unanswered, and as many responses as the port
tolerates are lost already. -/
def NeighbourGivenUp : Prop :=
  RequestDue t s ∧ s.pdelayRequestSent = true ∧ s.receivedPdelay = false ∧
    ptpAllowedLostResponses ≤ s.delayInfo.lostResponses ∧ s.asCapable = true

section

variable {s : PtpState}

lemma receiptTimeout_iff (t : ℕ) (hslave : s.roleState = .slave) :
    ReceiptTimeout t (followUpReceiptTimeout t s) ↔ AnnounceOverdue t s ∨ SyncOverdue t s := by
  unfold followUpReceiptTimeout
  split_ifs with hfollow
  · -- the Sync is dropped before its own timeout is looked at
    unfold ReceiptTimeout AnnounceOverdue SyncOverdue
    simp [hfollow.2.2]
  · have hkept : s.receivedSync = true →
        timeafter t (s.lastReceivedSyncTime + s.lastReceiveSyncUpstreamInterval) = false := by
      intro hsync
      by_contra hafter
      rw [Bool.not_eq_false] at hafter
      exact hfollow ⟨hsync, hslave, hafter⟩
    refine or_congr Iff.rfl ⟨?_, ?_⟩
    · rintro ⟨hsync, -, hafter⟩
      exact ⟨hsync, hkept hsync, hafter⟩
    · rintro ⟨hsync, -, hafter⟩
      exact ⟨hsync, hslave, hafter⟩

lemma roleState_beforePdelayReq (t now syncEgress : ℕ) (hslave : s.roleState = .slave) :
    (beforePdelayReq t now syncEgress s).roleState = .slave ↔
      ¬ (AnnounceOverdue t s ∨ SyncOverdue t s) := by
  have hclock : ∀ {s s'}, OnlyClock s s' → s'.roleState = s.roleState :=
    fun h => h.view fun _ _ => rfl
  have hsending := (hclock (onlyClock_periodicSending s)).trans hslave
  have htimeouts : (AnnounceOverdue t (periodicSending s).1 ∨ SyncOverdue t (periodicSending s).1) =
      (AnnounceOverdue t s ∨ SyncOverdue t s) :=
    (onlyClock_periodicSending s).view (f := fun s => AnnounceOverdue t s ∨ SyncOverdue t s)
      fun _ _ => rfl
  have hfollow : (followUpReceiptTimeout t (periodicSending s).1).roleState = .slave := by
    unfold followUpReceiptTimeout
    split_ifs <;> exact hsending
  rw [hclock (onlyClock_beforePdelayReq _ _ _ _), ← htimeouts, ← receiptTimeout_iff t hsending]
  unfold periodicTimeouts receiptTimeout
  split_ifs with htimeout
  · exact ⟨fun h => (nomatch h), fun h => absurd htimeout h⟩
  · exact ⟨fun _ => htimeout, fun _ => hfollow⟩

lemma roleState_periodicPdelayReq (t now egress : ℕ) (sending : Bool) (s : PtpState) :
    (periodicPdelayReq t now egress sending s).1.roleState = .slave ↔
      s.roleState = .slave ∧ ¬ NeighbourGivenUp t s := by
  have hcount : (countUnanswered now s).roleState = .slave ↔ s.roleState = .slave ∧
      ¬ (s.pdelayRequestSent = true ∧ s.receivedPdelay = false ∧
        ptpAllowedLostResponses ≤ s.delayInfo.lostResponses ∧ s.asCapable = true) := by
    unfold countUnanswered pdelayReqReset resetAscapable
    split_ifs with hunanswered hlost hcap
    · exact ⟨fun h => ⟨h, fun hgone => absurd hlost (Nat.not_lt.mpr hgone.2.2.1)⟩, And.left⟩
    · exact ⟨fun h => (nomatch h), fun h => absurd ⟨hunanswered.1, hunanswered.2,
        Nat.not_lt.mp hlost, hcap⟩ h.2⟩
    · exact ⟨fun h => ⟨h, fun hgone => hcap hgone.2.2.2⟩, And.left⟩
    · exact ⟨fun h => ⟨h, fun hgone => hunanswered ⟨hgone.1, hgone.2.1⟩⟩, And.left⟩
  unfold periodicPdelayReq NeighbourGivenUp RequestDue
  split_ifs with hdue
  · show (countUnanswered now s).roleState = _ ↔ _
    rw [hcount]
    exact and_congr_right' (not_congr ⟨fun h => ⟨hdue, h⟩, And.right⟩)
  · show (countUnanswered now s).roleState = _ ↔ _
    rw [hcount]
    exact and_congr_right' (not_congr ⟨fun h => ⟨hdue, h⟩, And.right⟩)
  · exact ⟨fun h => ⟨h, fun hgone => hdue hgone.1⟩, And.left⟩

lemma roleState_ptpPeriodic (t now syncEgress pdelayEgress : ℕ) (s : PtpState) :
    (ptpStep s (.periodic t now syncEgress pdelayEgress)).roleState =
      (periodicPdelayReq t now pdelayEgress (periodicSending s).2
        (beforePdelayReq t now syncEgress s)).1.roleState :=
  (onlyClock_periodicUpdateReferenceTimestamps t _).view fun _ _ => rfl

lemma neighbourGivenUp_beforePdelayReq (t now syncEgress : ℕ) (s : PtpState) :
    NeighbourGivenUp t (beforePdelayReq t now syncEgress s) ↔ NeighbourGivenUp t s := by
  have hbefore := pdelayVars_beforePdelayReq t now syncEgress s
  have hrest := congrArg (fun v => v.1.requestSent = true ∧ v.1.received = false ∧
    ptpAllowedLostResponses ≤ v.2.1.lostResponses ∧ v.2.1.asCapable = true) hbefore
  exact and_congr (requestDue_beforePdelayReq t now syncEgress s) (iff_of_eq hrest)

/-- **End of the role.**  A call of `ptp_periodic` takes the role of slave away
exactly when the Announce messages of the master are overdue, when the neighbour
is given up, or when a Sync is still stored that is overdue while its interval
counts as not over. -/
lemma slave_left_iff (hslave : s.roleState = .slave) (t now syncEgress pdelayEgress : ℕ) :
    (ptpStep s (.periodic t now syncEgress pdelayEgress)).roleState ≠ .slave ↔
      AnnounceOverdue t s ∨ SyncOverdue t s ∨ NeighbourGivenUp t s := by
  rw [roleState_ptpPeriodic, ne_eq, roleState_periodicPdelayReq,
    roleState_beforePdelayReq t now syncEgress hslave, neighbourGivenUp_beforePdelayReq]
  tauto

end

/-! ## Silence of the master -/

/-- The time since a Sync, added up over the calls of `ptp_periodic`: the port itself only compares
32-bit readings of its timer. -/
structure Silence where
  /-- The upstream interval that the Sync carried. -/
  interval : ℕ
  /-- The ingress time of the Sync, or the time of the last call since. -/
  polled : ℕ
  elapsed : ℕ
  deriving DecidableEq

/-- The ticks from the last reading to a call at `t`. -/
def Silence.gap (σ : Silence) (t : ℕ) : ℕ := u32 ((t : ℤ) - σ.polled)

def Silence.poll (t : ℕ) (σ : Silence) : Silence :=
  { σ with polled := t, elapsed := σ.elapsed + σ.gap t }

/-- A port, the ingress time of the last Announce of its master, and the time since the last Sync it
accepted in its present role of slave. -/
structure SlaveWatch where
  port : PtpState
  announced : ℕ
  silence : Option Silence

/-- The Sync is stored: `received_sync` becomes 1. -/
def AcceptsSync (m : PtpMsg) : Prop :=
  m.transportSpecific = 1 ∧ m.messageType = 0 ∧ s.asCapable = true ∧ s.receivedSync = false ∧
    s.roleState = .slave
  deriving Decidable

/-- A qualified Announce of the clock that the port follows after it. -/
def AnnouncesMaster (e : PtpEvent) : Prop :=
  match e with
  | .recv m _ _ _ =>
    m.transportSpecific = 1 ∧ m.messageType = 11 ∧ s.asCapable ∧ qualifyAnnounce s m ∧
      (ptpStep s e).roleState = .slave ∧ m.sourcePortIdentity = (ptpStep s e).masterPortId ∧
      (ptpStep s e).bestAnnounceMsg.grandmasterIdentity = m.announce.grandmasterIdentity
  | _ => False

instance (s : PtpState) (e : PtpEvent) : Decidable (AnnouncesMaster s e) :=
  match e with
  | .recv _ _ _ _ => inferInstanceAs (Decidable (_ ∧ _))
  | .reset _ => isFalse id
  | .periodic _ _ _ _ => isFalse id

variable (w : SlaveWatch)

def SlaveWatch.silenceAfter : PtpEvent → Option Silence
  | .recv m ts _ _ =>
    if AcceptsSync w.port m then
      some ⟨logSecToTimerTicks m.logMessageInterval, onThisTile w.port ts, 0⟩
    else w.silence
  | .periodic t _ _ _ => w.silence.map (Silence.poll t)
  | .reset _ => none

def slaveWatchStep (e : PtpEvent) : SlaveWatch where
  port := ptpStep w.port e
  announced :=
    match e with
    | .recv _ ts _ _ => if AnnouncesMaster w.port e then onThisTile w.port ts else w.announced
    | _ => w.announced
  silence :=
    if BecomesSlave w.port e ∨ (ptpStep w.port e).roleState ≠ .slave then none
    else w.silenceAfter e

/-- While the time since a Sync is taken, `ptp_periodic` is called before the 32-bit times are
ambiguous. -/
def PolledInTime : PtpEvent → Prop
  | .periodic t _ _ _ => ∀ σ ∈ w.silence, σ.gap t < 2 ^ 31
  | _ => True

instance (w : SlaveWatch) (e : PtpEvent) : Decidable (PolledInTime w e) :=
  match e with
  | .recv _ _ _ _ => isTrue trivial
  | .reset _ => isTrue trivial
  | .periodic _ _ _ _ => inferInstanceAs (Decidable (∀ σ ∈ w.silence, _))

/-- The stored Sync is the one that the silence `σ` is counted from, and its interval was not over
at the last call. -/
structure Stores (s : PtpState) (σ : Silence) : Prop where
  interval : s.lastReceiveSyncUpstreamInterval = σ.interval
  polled : (s.lastReceivedSyncTime + σ.elapsed : ℤ) % 2 ^ 32 = σ.polled % 2 ^ 32
  elapsed : σ.elapsed ≤ σ.interval

/-- What the port remembers of its master is what was seen. -/
structure Remembers (w : SlaveWatch) : Prop where
  slave : ∀ σ ∈ w.silence, w.port.roleState = .slave
  announce : w.port.roleState = .slave → announceView w.port = (true, w.announced)
  sync : ∀ σ ∈ w.silence, w.port.receivedSync = true → Stores w.port σ

section

variable {w : SlaveWatch} {s : PtpState} {σ : Silence}

/-- Once the interval is over, the follow-up timeout is the one that finds the Sync. -/
lemma Stores.timeafter_interval (h : Stores s σ) {t : ℕ} (hgap : σ.gap t < 2 ^ 31)
    (hover : σ.interval < σ.elapsed + σ.gap t) :
    timeafter t (s.lastReceivedSyncTime + s.lastReceiveSyncUpstreamInterval) = true := by
  obtain ⟨hinterval, hpolled, helapsed⟩ := h
  have hticks : (σ.gap t : ℤ) = ((t : ℤ) - σ.polled) % 2 ^ 32 := by
    unfold Silence.gap u32
    omega
  rw [hinterval]
  unfold timeafter s32
  rw [decide_eq_true_eq]
  push_cast
  omega

/-- An Announce that leaves the port a slave is one of its master, or changes nothing. -/
lemma announceView_recvAnnounce {m : PtpMsg} {now ingress : ℕ} {s' : PtpState}
    (hs' : recvAnnounce now ingress m s = s') (hslave : s'.roleState = .slave) :
    if s.asCapable ∧ qualifyAnnounce s m ∧ m.sourcePortIdentity = s'.masterPortId ∧
        s'.bestAnnounceMsg.grandmasterIdentity = m.announce.grandmasterIdentity then
      announceView s' = (true, ingress)
    else s.roleState = .slave ∧ announceView s' = announceView s := by
  subst hs'
  unfold recvAnnounce at hslave ⊢
  by_cases hqualified : (s.asCapable && qualifyAnnounce s m) = true
  · rw [if_pos hqualified] at hslave ⊢
    rw [Bool.and_eq_true] at hqualified
    dsimp only at hslave ⊢
    split_ifs at hslave ⊢ with hmaster hfrom hfrom
    · rfl
    · exact absurd ⟨hqualified.1, hqualified.2, hmaster.2⟩ hfrom
    · exact absurd ⟨hslave, hfrom.2.2⟩ hmaster
    · unfold bmcaUpdateRoles at hslave hmaster ⊢
      dsimp only at hslave hmaster ⊢
      split_ifs at hslave hmaster ⊢ with hbest hworse
      · exact absurd ⟨rfl, rfl, rfl⟩ hmaster
      · cases hslave
      · exact ⟨hslave, rfl⟩
  · rw [if_neg hqualified] at hslave ⊢
    rw [if_neg fun h => hqualified (by simp [h.1, h.2.1])]
    exact ⟨hslave, rfl⟩

lemma roleInv_slaveBefore (s₀ : PtpState) :
    RoleInv fun s => s.roleState = .slave → s₀.roleState = .slave where
  congr h hview hslave := h ((congrArg (·.2.1) hview).symm.trans hslave)
  master _ _ hslave := nomatch hslave
  uncertain _ _ hslave := nomatch hslave

/-- No other message changes what is known of the Announces of the master. -/
lemma announceView_ptpRecv {m : PtpMsg} (ts now egress : ℕ)
    (hm : ¬ (m.transportSpecific = 1 ∧ m.messageType = 11)) :
    announceView (ptpRecv m ts now egress s).1 = announceView s := by
  unfold ptpRecv
  dsimp only
  split
  next htransport =>
    split
    · unfold recvSync
      split_ifs <;> rfl
    · rfl
    · exact congrArg Prod.snd (receiptView_recvPdelayResp _ _ _ _)
    · unfold recvFollowUp
      split_ifs
      · exact (onlyClock_steer m s).view (f := announceView) fun _ _ => rfl
      · rfl
      · rfl
    · exact congrArg Prod.snd (receiptView_recvPdelayRespFollowUp _ _ _)
    · next htype => exact absurd ⟨htransport, htype⟩ hm
    · rfl
  next => rfl

lemma announceView_ptpPeriodic {t now syncEgress pdelayEgress : ℕ}
    (hslave : (ptpStep s (.periodic t now syncEgress pdelayEgress)).roleState = .slave) :
    s.roleState = .slave ∧
      announceView (ptpStep s (.periodic t now syncEgress pdelayEgress)) = announceView s := by
  have hview := receiptView_ptpPeriodic t now syncEgress pdelayEgress s
  have hrole := roleState_ptpPeriodic t now syncEgress pdelayEgress s
  have htimeouts : (periodicTimeouts t now (periodicSending s).1).roleState = .slave := by
    have hbefore := (roleState_periodicPdelayReq _ _ _ _ _).mp (hrole.symm.trans hslave)
    exact ((onlyClock_beforePdelayReq t now syncEgress s).view fun _ _ => rfl).symm.trans hbefore.1
  have hfollow : announceView (followUpReceiptTimeout t (periodicSending s).1) =
      announceView (periodicSending s).1 := by
    unfold followUpReceiptTimeout
    split_ifs <;> rfl
  refine ⟨roleInv_ptpPeriodic (roleInv_slaveBefore s) id t now syncEgress pdelayEgress hslave,
    (congrArg Prod.snd hview).trans ?_⟩
  have hsending : announceView (periodicSending s).1 = announceView s :=
    (onlyClock_periodicSending s).view fun _ _ => rfl
  rw [← hsending, ← hfollow]
  unfold periodicTimeouts receiptTimeout at htimeouts ⊢
  split_ifs at htimeouts ⊢ with htimeout hslave'
  · cases htimeouts
  · exact absurd htimeouts hslave'
  · rfl

/-- A slot that is full after an event it was not filled by was full before it. -/
lemma syncView_ptpStep {e : PtpEvent}
    (hnot : ∀ m ts now egress, e = .recv m ts now egress → ¬ AcceptsSync s m)
    (hfull : (ptpStep s e).receivedSync = true) : syncView (ptpStep s e) = syncView s := by
  cases e with
  | recv m ts now egress =>
    simp only [ptpStep, ptpEvent, ptpRecv] at hfull ⊢
    split at hfull
    next htransport =>
      rw [if_pos htransport]
      split at hfull
      next htype =>
        unfold recvSync
        split_ifs with hstore
        · simp only [Bool.and_eq_true, Bool.not_eq_true', decide_eq_true_eq] at hstore
          exact absurd ⟨htransport, htype, hstore.1.1, hstore.1.2, hstore.2⟩
            (hnot m ts now egress rfl)
        · rfl
      next => rfl
      next => exact congrArg Prod.fst (receiptView_recvPdelayResp _ _ _ _)
      next =>
        rcases recvFollowUp_cases m s with hempty | hsame
        · exact absurd (hempty.symm.trans hfull) Bool.false_ne_true
        · exact congrArg syncView hsame
      next => exact congrArg Prod.fst (receiptView_recvPdelayRespFollowUp _ _ _)
      next => exact syncView_recvAnnounce _ _ _ _
      next => rfl
    next htransport => rw [if_neg htransport]
  | reset now => exact syncView_ptpReset now s
  | periodic t now syncEgress pdelayEgress =>
    have hview := congrArg Prod.fst (receiptView_ptpPeriodic t now syncEgress pdelayEgress s)
    refine hview.trans ?_
    rcases periodicTimeouts_cases t now (periodicSending s).1 with hempty | hsame
    · have hafter := receivedSync_ptpPeriodic t now syncEgress pdelayEgress s
      exact absurd ((hafter.trans hempty).symm.trans hfull) Bool.false_ne_true
    · exact (congrArg syncView hsame).trans ((onlyClock_periodicSending s).view fun _ _ => rfl)

lemma Stores.congr {s' : PtpState} (h : Stores s σ) (hview : syncView s' = syncView s) :
    Stores s' σ := by
  simp only [syncView, Prod.mk.injEq] at hview
  exact ⟨hview.2.2.trans h.interval, hview.2.1 ▸ h.polled, h.elapsed⟩

/-- A call of `ptp_periodic` that leaves the Sync stored comes before the interval is over. -/
lemma Stores.poll (h : Stores s σ) {t now syncEgress pdelayEgress : ℕ} (hgap : σ.gap t < 2 ^ 31)
    (hslave : s.roleState = .slave) (hstored : s.receivedSync = true)
    (hfull : (ptpStep s (.periodic t now syncEgress pdelayEgress)).receivedSync = true) :
    Stores s (σ.poll t) := by
  refine ⟨h.interval, ?_, ?_⟩
  · have := h.polled
    simp only [Silence.poll, Silence.gap, u32]
    omega
  · by_contra hover
    have hafter := h.timeafter_interval hgap (not_le.mp hover)
    have hsame := (onlyClock_periodicSending s).view (f := fun s => s.receivedSync ∧
      s.roleState = .slave ∧ timeafter t (s.lastReceivedSyncTime +
        s.lastReceiveSyncUpstreamInterval)) fun _ _ => rfl
    have hdrop : (followUpReceiptTimeout t (periodicSending s).1).receivedSync = false := by
      unfold followUpReceiptTimeout
      rw [if_pos (hsame.mpr ⟨hstored, hslave, hafter⟩)]
    have hempty := (receivedSync_ptpPeriodic t now syncEgress pdelayEgress s).trans
      (receivedSync_periodicTimeouts hdrop now)
    exact absurd (hempty.symm.trans hfull) Bool.false_ne_true

/-- **Step.**  The port goes on remembering its master. -/
lemma remembers_step (h : Remembers w) {e : PtpEvent} (he : PolledInTime w e) :
    Remembers (slaveWatchStep w e) := by
  have hsilent : ∀ σ ∈ (slaveWatchStep w e).silence,
      (ptpStep w.port e).roleState = .slave ∧ σ ∈ w.silenceAfter e := by
    intro σ hσ
    simp only [slaveWatchStep] at hσ
    split_ifs at hσ with hleft
    · cases hσ
    · exact ⟨not_not.mp (not_or.mp hleft).2, hσ⟩
  refine ⟨fun σ hσ => (hsilent σ hσ).1, ?_, ?_⟩
  · intro hslave
    change (ptpStep w.port e).roleState = .slave at hslave
    show announceView (ptpStep w.port e) = _
    cases e with
    | recv m ts now egress =>
      by_cases hm : m.transportSpecific = 1 ∧ m.messageType = 11
      · have hstep : recvAnnounce now (onThisTile w.port ts) m w.port =
            ptpStep w.port (.recv m ts now egress) := by
          simp only [ptpStep, ptpEvent, ptpRecv, hm.1, hm.2, if_true]
        have hannounce := announceView_recvAnnounce hstep hslave
        simp only [slaveWatchStep, AnnouncesMaster, hm, hslave, true_and]
        split_ifs at hannounce ⊢
        · exact hannounce
        · exact hannounce.2.trans (h.announce hannounce.1)
      · have hnot : ¬ AnnouncesMaster w.port (.recv m ts now egress) := fun ha => hm ⟨ha.1, ha.2.1⟩
        have hbefore := roleInv_ptpRecv (roleInv_slaveBefore w.port) id ts now egress
          (fun htransport htype => absurd ⟨htransport, htype⟩ hm) hslave
        simp only [slaveWatchStep, if_neg hnot]
        exact (announceView_ptpRecv ts now egress hm).trans (h.announce hbefore)
    | reset now =>
      have hmaster := roleInv_slaveBefore (setNewRole now .master w.port)
      have hslave' : PtpPortRole.master = .slave := roleInv_ptpReset hmaster id hslave
      cases hslave'
    | periodic t now syncEgress pdelayEgress =>
      obtain ⟨hbefore, hview⟩ := announceView_ptpPeriodic hslave
      exact hview.trans (h.announce hbefore)
  · intro σ hσ hfull
    obtain ⟨hslave, hσ⟩ := hsilent σ hσ
    change (ptpStep w.port e).receivedSync = true at hfull
    show Stores (ptpStep w.port e) σ
    cases e with
    | recv m ts now egress =>
      simp only [SlaveWatch.silenceAfter] at hσ
      split_ifs at hσ with haccept
      · cases hσ
        obtain ⟨htransport, htype, hcap, hempty, hrole⟩ := haccept
        simp only [ptpStep, ptpEvent, ptpRecv, htransport, htype, if_true, recvSync, hcap, hempty,
          hrole, Bool.not_false, decide_true, Bool.and_self]
        exact ⟨rfl, by simp, Nat.zero_le _⟩
      · have hview := syncView_ptpStep (fun _ _ _ _ hrecv => by cases hrecv; exact haccept) hfull
        exact (h.sync σ hσ ((congrArg Prod.fst hview).symm.trans hfull)).congr hview
    | reset now => cases hσ
    | periodic t now syncEgress pdelayEgress =>
      obtain ⟨σ₀, hσ₀, rfl⟩ := Option.mem_map.mp hσ
      have hview := syncView_ptpStep (by simp) hfull
      have hstored : w.port.receivedSync = true := (congrArg Prod.fst hview).symm.trans hfull
      exact ((h.sync σ₀ hσ₀ hstored).poll (he σ₀ hσ₀) (h.slave σ₀ hσ₀) hstored hfull).congr hview

end

/-- **Silence of the master.**  In every run from `ptp_init`, take a slave that has accepted a Sync
in this role, and a call of `ptp_periodic` later than the sync receipt timeout after it, where no
two readings of the time are `2 ^ 31` ticks or more apart.  The call takes the role away exactly if
the last Announce of the master is overdue or the neighbour is given up: the silence itself is no
reason, since the follow-up timeout has dropped the Sync by then. -/
theorem slave_left_without_sync_iff (s₀ : PtpState) (t₀ : ℕ) (es : List PtpEvent)
    (hg : Run.Guarded slaveWatchStep PolledInTime ⟨ptpInit t₀ s₀, 0, none⟩ es) (σ : Silence)
    (hσ : (Run.runFrom slaveWatchStep ⟨ptpInit t₀ s₀, 0, none⟩ es).silence = some σ)
    (t now syncEgress pdelayEgress : ℕ) (hgap : σ.gap t < 2 ^ 31)
    (hlimit : ptpSyncReceiptTimeoutMultiple * σ.interval < σ.elapsed + σ.gap t) :
    let w := Run.runFrom slaveWatchStep ⟨ptpInit t₀ s₀, 0, none⟩ es
    (ptpStep w.port (.periodic t now syncEgress pdelayEgress)).roleState ≠ .slave ↔
      timeafter t (w.announced + recvAnnounceTimeout) = true ∨ NeighbourGivenUp t w.port := by
  intro w
  have hinit : Remembers ⟨ptpInit t₀ s₀, 0, none⟩ := by
    refine ⟨fun _ h => (nomatch h), fun hslave => ?_, fun _ h => (nomatch h)⟩
    have hmaster := roleInv_slaveBefore (setNewRole t₀ .master s₀)
    exact nomatch roleInv_ptpReset hmaster id hslave
  have hstep : ∀ w e, Remembers w → PolledInTime w e → Remembers (slaveWatchStep w e) :=
    fun _ _ h he => remembers_step h he
  have h : Remembers w := Run.invariant_of_guarded hstep hinit es hg
  have hslave := h.slave σ hσ
  have hannounce : AnnounceOverdue t w.port ↔
      timeafter t (w.announced + recvAnnounceTimeout) = true := by
    have hview := h.announce hslave
    simp only [announceView, Prod.mk.injEq] at hview
    unfold AnnounceOverdue
    rw [hview.1, hview.2]
    exact and_iff_right rfl
  have hsync : ¬ SyncOverdue t w.port := by
    rintro ⟨hstored, hrunning, -⟩
    have hover : σ.interval < σ.elapsed + σ.gap t := by
      unfold ptpSyncReceiptTimeoutMultiple at hlimit
      omega
    have hafter := (h.sync σ hσ hstored).timeafter_interval hgap hover
    exact absurd (hrunning.symm.trans hafter) Bool.false_ne_true
  rw [slave_left_iff hslave, hannounce, or_iff_right_of_imp fun h => absurd h hsync]

def syncStops : List PtpEvent :=
  storesSync ++ [.recv (neighbourMessage 8 5) 200002000 0 0,
    .recv (neighbourMessage 11 6) 400000000 0 0, .periodic 450000000 0 0 450000005]

theorem slave_left_without_announce :
    (ptpStep (Run.runFrom slaveWatchStep ⟨ptpInit 0 coldPort, 0, none⟩ syncStops).port
      (.periodic 700000001 0 0 0)).roleState ≠ .slave :=
  (slave_left_without_sync_iff coldPort 0 syncStops (by decide +kernel)
    ⟨100000000, 450000000, 249999000⟩ (by decide +kernel) 700000001 0 0 0 (by decide)
    (by decide)).mpr (Or.inl (by decide +kernel))

/-- At the first call later than three intervals after the last Sync the port is still a slave: an
Announce arrived two seconds before. -/
theorem slave_kept_without_sync :
    let w := Run.runFrom slaveWatchStep ⟨ptpInit 0 coldPort, 0, none⟩ syncStops
    Run.Guarded slaveWatchStep PolledInTime ⟨ptpInit 0 coldPort, 0, none⟩ syncStops ∧
      ∃ σ ∈ w.silence, σ.elapsed ≤ ptpSyncReceiptTimeoutMultiple * σ.interval ∧
        ptpSyncReceiptTimeoutMultiple * σ.interval < σ.elapsed + σ.gap 600000000 ∧
        (ptpStep w.port (.periodic 600000000 0 0 600000005)).roleState = .slave := by
  refine ⟨by decide +kernel, ⟨100000000, 450000000, 249999000⟩, by decide +kernel⟩
