/-
# Roles and the best master

What the best-master algorithm keeps true of the port, and which grandmaster it
ends on.
-/
import LibTsn.BestTracker
import LibTsn.GptpState

/-! ## What the role depends on -/

def roleView (s : PtpState) : ClockConfig × PtpPortRole × AnnounceMessage :=
  (s.cfg, s.roleState, s.bestAnnounceMsg)

variable (now : ℕ) (m : PtpMsg) {cfg : ClockConfig} {s : PtpState}

lemma OnlyClock.roleView {s s' : PtpState} (h : OnlyClock s s') : roleView s' = roleView s :=
  h.view fun _ _ => rfl

lemma roleView_recvSync (ingress : ℕ) (m : PtpMsg) (s : PtpState) :
    roleView (recvSync ingress m s) = roleView s := by
  unfold recvSync
  split_ifs <;> rfl

lemma roleView_recvFollowUp (s : PtpState) : roleView (recvFollowUp m s) = roleView s := by
  unfold recvFollowUp
  split_ifs
  · exact (onlyClock_steer m s).roleView
  · rfl
  · rfl

/-! ## The role invariant -/

/-- A property of the role that `set_new_role` keeps when it makes the port master or uncertain. -/
structure RoleInv (P : PtpState → Prop) : Prop where
  congr : ∀ {s s'}, P s → roleView s' = roleView s → P s'
  master : ∀ {s} now, P s → P (setNewRole now .master s)
  uncertain : ∀ {s} now, P s → P (setNewRole now .uncertain s)

section

variable {P : PtpState → Prop} {s : PtpState}

lemma roleInv_resetAscapable (hP : RoleInv P) (h : P s) (now : ℕ) : P (resetAscapable now s) := by
  unfold resetAscapable
  split_ifs
  · exact hP.master now (hP.congr h rfl)
  · exact h

lemma roleInv_pdelayReqReset (hP : RoleInv P) (h : P s) (now : ℕ) : P (pdelayReqReset now s) := by
  unfold pdelayReqReset
  split_ifs
  · exact hP.congr h rfl
  · exact roleInv_resetAscapable hP h now

lemma roleInv_recvPdelayResp (hP : RoleInv P) (h : P s) (now ingress : ℕ) (m : PtpMsg) :
    P (recvPdelayResp now ingress m s) := by
  have hcount : P (countLostFollowUp now m s) := by
    unfold countLostFollowUp
    split_ifs
    · refine roleInv_pdelayReqReset hP ?_ now
      exact hP.congr h rfl
    · exact h
  have hstore : P (storePdelayResp now ingress m (countLostFollowUp now m s)) := by
    unfold storePdelayResp
    split_ifs
    · exact hP.congr hcount rfl
    · exact roleInv_pdelayReqReset hP hcount now
  unfold recvPdelayResp
  split_ifs
  · refine roleInv_pdelayReqReset hP ?_ now
    exact hP.congr h rfl
  · exact hP.congr hstore rfl

lemma roleInv_recvPdelayRespFollowUp (hP : RoleInv P) (h : P s) (now : ℕ) (m : PtpMsg) :
    P (recvPdelayRespFollowUp now m s) := by
  have hmeasured : P (measureExchange m s) := hP.congr h rfl
  have hjudged : P (judgeNeighbour now (measureExchange m s)) := by
    unfold judgeNeighbour setAscapable
    split_ifs
    · exact hmeasured
    · exact hP.master now (hP.congr hmeasured rfl)
    · exact roleInv_resetAscapable hP hmeasured now
  unfold recvPdelayRespFollowUp
  split_ifs
  · exact hP.congr hjudged rfl
  · exact hP.congr (roleInv_pdelayReqReset hP h now) rfl
  · exact hP.congr h rfl

lemma roleInv_ptpRecv (hP : RoleInv P) (h : P s) {m : PtpMsg} (ts now egress : ℕ)
    (hannounce : m.transportSpecific = 1 → m.messageType = 11 →
      P (recvAnnounce now (onThisTile s ts) m s)) :
    P (ptpRecv m ts now egress s).1 := by
  unfold ptpRecv
  dsimp only
  split
  next htransport =>
    split
    · exact hP.congr h (roleView_recvSync _ _ _)
    · exact hP.congr h rfl
    · exact roleInv_recvPdelayResp hP h now _ m
    · exact hP.congr h (roleView_recvFollowUp _ _)
    · exact roleInv_recvPdelayRespFollowUp hP h now m
    · next htype => exact hannounce htransport htype
    · exact h
  next => exact h

lemma roleInv_ptpReset (hP : RoleInv P) {now : ℕ} (h : P (setNewRole now .master s)) :
    P (ptpReset now s) := by
  refine roleInv_resetAscapable hP ?_ now
  exact hP.congr h rfl

lemma roleView_followUpReceiptTimeout (t : ℕ) (s : PtpState) :
    roleView (followUpReceiptTimeout t s) = roleView s := by
  unfold followUpReceiptTimeout
  split_ifs <;> rfl

lemma roleView_periodicTimeouts (hs : s.roleState ≠ .slave) (t now : ℕ) :
    roleView (periodicTimeouts t now s) = roleView s := by
  have hview := roleView_followUpReceiptTimeout t s
  have hrole : (followUpReceiptTimeout t s).roleState = s.roleState :=
    congrArg (fun v => v.2.1) hview
  unfold periodicTimeouts receiptTimeout
  rw [hrole, if_neg hs]
  split_ifs <;> exact hview

lemma roleInv_ptpPeriodic (hP : RoleInv P) (h : P s) (t now syncEgress pdelayEgress : ℕ) :
    P (ptpPeriodic t now syncEgress pdelayEgress s).1 := by
  have htimeouts : P (periodicTimeouts t now (periodicSending s).1) := by
    have hfollow := hP.congr (hP.congr h (onlyClock_periodicSending s).roleView)
      (roleView_followUpReceiptTimeout t _)
    unfold periodicTimeouts receiptTimeout
    split_ifs
    · exact hP.uncertain now (hP.congr hfollow rfl)
    · exact hP.congr hfollow rfl
    · exact hfollow
  have hpdelay : ∀ {s} sending, P s → P (periodicPdelayReq t now pdelayEgress sending s).1 := by
    intro s sending h
    have hcount : P (countUnanswered now s) := by
      unfold countUnanswered
      split_ifs
      · exact roleInv_pdelayReqReset hP h now
      · exact h
    unfold periodicPdelayReq
    split
    · cases sending <;> exact hP.congr hcount rfl
    · exact h
  have hsync := hP.congr htimeouts ((onlyClock_periodicAnnounce t s.roleState s.asCapable _).trans
    (onlyClock_periodicSync t syncEgress s.roleState s.asCapable _)).roleView
  exact hP.congr (hpdelay _ hsync) (onlyClock_periodicUpdateReferenceTimestamps t _).roleView

end

/-- The best announcement the port holds is better than its own exactly if the port is a slave. -/
structure BmcaInv (cfg : ClockConfig) (s : PtpState) : Prop where
  cfg_eq : s.cfg = cfg
  slave : s.roleState = .slave → s.bestAnnounceMsg.vector < cfg.vector
  own : s.roleState ≠ .slave →
    s.bestAnnounceMsg.vector = cfg.vector ∧ s.bestAnnounceMsg.stepsRemoved = 0

section

variable {cfg : ClockConfig} {s : PtpState}

lemma bmcaInv_setNewRole_master (hcfg : s.cfg = cfg) (now : ℕ) :
    BmcaInv cfg (setNewRole now .master s) := by
  subst hcfg
  refine ⟨rfl, ?_, fun _ => ⟨rfl, rfl⟩⟩
  intro h
  cases h

lemma roleInv_bmcaInv (cfg : ClockConfig) : RoleInv (BmcaInv cfg) where
  congr := by
    intro s s' h hview
    simp only [roleView, Prod.mk.injEq] at hview
    obtain ⟨hcfg, hrole, hbest⟩ := hview
    refine ⟨hcfg.trans h.cfg_eq, ?_, ?_⟩
    · rw [hrole, hbest]
      exact h.slave
    · rw [hrole, hbest]
      exact h.own
  master := fun now h => bmcaInv_setNewRole_master h.cfg_eq now
  uncertain := by
    intro s now h
    obtain ⟨rfl, -, -⟩ := h
    refine ⟨rfl, ?_, fun _ => ⟨rfl, rfl⟩⟩
    intro h
    cases h

lemma BmcaInv.vector_le (h : BmcaInv cfg s) : s.bestAnnounceMsg.vector ≤ cfg.vector := by
  by_cases hs : s.roleState = .slave
  · exact (h.slave hs).le
  · exact (h.own hs).1.le

lemma bmcaInv_recvAnnounce (h : BmcaInv cfg s) (now ingress : ℕ) (m : PtpMsg) :
    BmcaInv cfg (recvAnnounce now ingress m s) := by
  have hroles : BmcaInv cfg (bmcaUpdateRoles now m s) := by
    unfold bmcaUpdateRoles
    simp only
    split_ifs with hbest hdrop
    · -- a new best clock: better than the one held, hence than our own
      have hone : newBest s.cfg s.bestAnnounceMsg m.announce = 1 := by
        rw [newBest_eq] at hbest ⊢
        split_ifs at hbest ⊢ with h₁ h₂ h₃
        · omega
        · omega
        · rfl
        · omega
      have hlt := ((newBest_eq_one_iff _ _ _).mp hone).2
      refine ⟨h.cfg_eq, fun _ => lt_of_lt_of_le hlt h.vector_le, ?_⟩
      intro hne
      exact absurd rfl hne
    · exact (roleInv_bmcaInv cfg).congr (bmcaInv_setNewRole_master h.cfg_eq now) rfl
    · exact h
  unfold recvAnnounce
  simp only
  split_ifs
  · exact (roleInv_bmcaInv cfg).congr hroles rfl
  · exact hroles
  · exact h

lemma bmcaInv_ptpReset (hcfg : s.cfg = cfg) (now : ℕ) : BmcaInv cfg (ptpReset now s) :=
  roleInv_ptpReset (roleInv_bmcaInv cfg) (bmcaInv_setNewRole_master hcfg now)

lemma bmcaInv_ptpStep (h : BmcaInv cfg s) (e : PtpEvent) : BmcaInv cfg (ptpStep s e) := by
  cases e with
  | recv m ts now egress =>
    exact roleInv_ptpRecv (roleInv_bmcaInv cfg) h ts now egress
      fun _ _ => bmcaInv_recvAnnounce h now _ m
  | reset now => exact bmcaInv_ptpReset h.cfg_eq now
  | periodic t now syncEgress pdelayEgress =>
    exact roleInv_ptpPeriodic (roleInv_bmcaInv cfg) h t now syncEgress pdelayEgress

/-- **Run.**  The invariant holds in every state reachable from `ptp_init`. -/
theorem bmcaInv_run (s₀ : PtpState) (now : ℕ) (es : List PtpEvent) :
    BmcaInv s₀.cfg (Run.runFrom ptpStep (ptpInit now s₀) es) := by
  have hstep : ∀ s e, BmcaInv s₀.cfg s → BmcaInv s₀.cfg (ptpStep s e) :=
    fun _ e h => bmcaInv_ptpStep h e
  have hinit : BmcaInv s₀.cfg (ptpInit now s₀) :=
    (roleInv_bmcaInv _).congr (bmcaInv_ptpReset rfl now) rfl
  exact Run.invariant_of_step hstep hinit es

structure OwnAnnounce (cfg : ClockConfig) (m : AnnounceMessage) : Prop where
  vector : m.vector = cfg.vector
  steps : m.stepsRemoved = 0
  path : m.pathSequence.toList.take (m.tlvLength.toNat / 8) = [cfg.myPortId]
  writes : ∀ i ∈ announcePathWrites m.stepsRemoved.toNat, i < ptpMaximumPathTraceTlv

lemma ownAnnounce_sendPtpAnnounceMsg (h : BmcaInv cfg s) (hs : s.roleState ≠ .slave)
    {src : PortIdentity} {seq : ℕ} {len : ℤ} {m : AnnounceMessage}
    (hm : PtpTx.announce src seq len m ∈ (sendPtpAnnounceMsg s).2) : OwnAnnounce cfg m := by
  obtain ⟨hvec, hsteps⟩ := h.own hs
  unfold sendPtpAnnounceMsg at hm
  simp only [List.mem_singleton, PtpTx.announce.injEq] at hm
  obtain ⟨-, -, -, rfl⟩ := hm
  refine ⟨hvec, hsteps, ?_, ?_⟩
  · simp only [hsteps, h.cfg_eq]
    rfl
  · intro i hi
    simp only [hsteps, announcePathWrites, UInt16.toNat_zero, zero_add, List.range_one,
      List.mem_singleton] at hi
    rw [hi]
    decide

lemma ownAnnounce_ptpEvent (h : BmcaInv cfg s) (e : PtpEvent) {src : PortIdentity} {seq : ℕ}
    {len : ℤ} {m : AnnounceMessage} (hm : PtpTx.announce src seq len m ∈ (ptpEvent s e).2) :
    OwnAnnounce cfg m := by
  cases e with
  | recv msg ts now egress =>
    exfalso
    revert hm
    simp only [ptpEvent, ptpRecv]
    split
    · split <;> simp [sendPtpPdelayRespMsg]
    · simp
  | reset now => simp [ptpEvent] at hm
  | periodic t now syncEgress pdelayEgress =>
    simp only [ptpEvent, ptpPeriodic, List.mem_append] at hm
    rcases hm with (hm | hm) | hm
    · -- the role read at the start is still the role when the message is built
      have hview := (onlyClock_periodicSending s).roleView
      unfold periodicAnnounce at hm
      split at hm
      · rename_i hdue
        have hs : s.roleState ≠ .slave := by
          rcases hdue.2.1 with hr | hr <;> rw [hr] <;> decide
        have hsend : (periodicSending s).1.roleState ≠ .slave := by
          have hrole := congrArg (fun v => v.2.1) hview
          simp only [roleView] at hrole
          rw [hrole]
          exact hs
        have hkeep := roleView_periodicTimeouts hsend t now
        have hinv := (roleInv_bmcaInv cfg).congr ((roleInv_bmcaInv cfg).congr h hview) hkeep
        refine ownAnnounce_sendPtpAnnounceMsg hinv ?_ hm
        have hrole := congrArg (fun v => v.2.1) hkeep
        simp only [roleView] at hrole
        rw [hrole]
        exact hsend
      · simp at hm
    · exfalso
      unfold periodicSync at hm
      split at hm <;> simp [sendPtpSyncMsg] at hm
    · exfalso
      unfold periodicPdelayReq at hm
      split at hm
      · revert hm
        cases (periodicSending s).2 <;> simp [sendPtpPdelayReqMsg]
      · simp at hm

end

/-- **Role invariant.**  In every state reachable from `ptp_init`, whatever
messages, resets and periodic calls led there: a slave follows a clock strictly
better than this device; otherwise the best announcement is the device's own;
and every Announce sent next is the device's own, with itself as path trace. -/
theorem bmca_role_invariant (s₀ : PtpState) (now : ℕ) (es : List PtpEvent) :
    let s := Run.runFrom ptpStep (ptpInit now s₀) es
    (s.roleState = .slave → s.bestAnnounceMsg.vector < s₀.cfg.vector) ∧
    (s.roleState ≠ .slave →
      s.bestAnnounceMsg.vector = s₀.cfg.vector ∧ s.bestAnnounceMsg.stepsRemoved = 0) ∧
    ∀ e src seq len m, PtpTx.announce src seq len m ∈ (ptpEvent s e).2 →
      OwnAnnounce s₀.cfg m := by
  intro s
  have h := bmcaInv_run s₀ now es
  exact ⟨h.slave, h.own, fun e src seq len m hm => ownAnnounce_ptpEvent h e hm⟩

/-! ## Grandmaster selection -/

structure Announcement where
  msg : PtpMsg
  ts : ℕ
  now : ℕ
  egress : ℕ

def Announcement.event (a : Announcement) : PtpEvent := .recv a.msg a.ts a.now a.egress

def Announcement.vector (a : Announcement) : ClockVector := a.msg.announce.vector

structure Qualified (s : PtpState) (a : Announcement) : Prop where
  transport : a.msg.transportSpecific = 1
  type : a.msg.messageType = 11
  qualified : qualifyAnnounce s a.msg = true
  foreign : a.msg.announce.grandmasterIdentity ≠ s.cfg.myPortId

def worseQuality (v x : ClockVector) : Prop := (ofLex v).1 < (ofLex x).1

instance : DecidableRel worseQuality := fun v x =>
  inferInstanceAs (Decidable ((ofLex v).1 < (ofLex x).1))

lemma lt_of_worseQuality (v x : ClockVector) (h : worseQuality v x) : v < x :=
  Prod.Lex.lt_iff.mpr (Or.inl h)

lemma asCapable_bmcaUpdateRoles (s : PtpState) :
    (bmcaUpdateRoles now m s).asCapable = s.asCapable := by
  unfold bmcaUpdateRoles
  dsimp only
  split_ifs <;> rfl

lemma vector_bmcaUpdateRoles (h : BmcaInv cfg s) (now : ℕ) {m : PtpMsg}
    (hforeign : m.announce.grandmasterIdentity ≠ s.cfg.myPortId) :
    (bmcaUpdateRoles now m s).bestAnnounceMsg.vector
      = BestTracker.step cfg.vector worseQuality s.bestAnnounceMsg.vector m.announce.vector := by
  rw [BestTracker.step]
  by_cases hlt : m.announce.vector < s.bestAnnounceMsg.vector
  · -- better: taken over
    have hone : newBest s.cfg s.bestAnnounceMsg m.announce = 1 :=
      (newBest_eq_one_iff _ _ _).mpr ⟨hforeign, hlt⟩
    rw [if_pos hlt]
    simp only [bmcaUpdateRoles, hone]
    rfl
  · rw [if_neg hlt]
    by_cases hw : worseQuality s.bestAnnounceMsg.vector m.announce.vector
    · have hneg : newBest s.cfg s.bestAnnounceMsg m.announce = -1 :=
        (newBest_eq_neg_one_iff _ _ _).mpr ⟨hforeign, hw⟩
      by_cases hs : s.roleState = .slave
      · -- worse, and we are a slave: the master is dropped
        rw [if_pos ⟨h.slave hs, hw⟩, ← h.cfg_eq]
        simp only [bmcaUpdateRoles, hneg, hs]
        rfl
      · rw [if_neg (fun hx => hx.1.ne (h.own hs).1)]
        simp only [bmcaUpdateRoles, hneg, hs, and_false, if_false]
        rfl
    · have hzero : newBest s.cfg s.bestAnnounceMsg m.announce = 0 := by
        have hq : ¬ s.bestAnnounceMsg.quality < m.announce.quality := hw
        rw [newBest_eq, if_neg hforeign, if_neg hq, if_neg hlt]
      rw [if_neg (fun hx => hw hx.2)]
      simp only [bmcaUpdateRoles, hzero, lt_irrefl, false_and, if_false]

lemma vector_ptpStep (h : BmcaInv cfg s) (hcap : s.asCapable = true) {a : Announcement}
    (ha : Qualified s a) : (ptpStep s a.event).bestAnnounceMsg.vector
        = BestTracker.step cfg.vector worseQuality s.bestAnnounceMsg.vector a.vector ∧
      (ptpStep s a.event).asCapable = true := by
  have hview : (ptpStep s a.event).bestAnnounceMsg
        = (bmcaUpdateRoles a.now a.msg s).bestAnnounceMsg ∧
      (ptpStep s a.event).asCapable = (bmcaUpdateRoles a.now a.msg s).asCapable := by
    simp only [ptpStep, Announcement.event, ptpEvent, ptpRecv, ha.transport, ha.type, if_true,
      recvAnnounce, hcap, ha.qualified, Bool.and_self]
    split_ifs <;> exact ⟨rfl, rfl⟩
  rw [hview.1, hview.2, asCapable_bmcaUpdateRoles]
  exact ⟨vector_bmcaUpdateRoles h a.now ha.foreign, hcap⟩

lemma qualified_congr {s s' : PtpState} (hcfg : s'.cfg = s.cfg) {a : Announcement}
    (ha : Qualified s a) : Qualified s' a := by
  refine ⟨ha.transport, ha.type, ?_, ?_⟩
  · have h := ha.qualified
    unfold qualifyAnnounce at h ⊢
    rw [hcfg]
    exact h
  · rw [hcfg]
    exact ha.foreign

/-- **Refinement.**  Over a sequence of qualified Announce messages the vector
held is the one the selector tracks. -/
theorem vector_run (h : BmcaInv cfg s) (hcap : s.asCapable = true) (as : List Announcement)
    (has : ∀ a ∈ as, Qualified s a) :
    (Run.runFrom ptpStep s (as.map (·.event))).bestAnnounceMsg.vector
      = (as.map (·.vector)).foldl (BestTracker.step cfg.vector worseQuality)
          s.bestAnnounceMsg.vector := by
  induction as generalizing s with
  | nil => rfl
  | cons a as ih =>
    have hstep := bmcaInv_ptpStep h a.event
    obtain ⟨hvec, hcap'⟩ := vector_ptpStep h hcap (has a (by simp))
    have hcfg : (ptpStep s a.event).cfg = s.cfg := hstep.cfg_eq.trans h.cfg_eq.symm
    rw [List.map_cons, List.map_cons, Run.runFrom_cons, List.foldl_cons, ← hvec]
    refine ih hstep hcap' fun b hb => qualified_congr hcfg (has b ?_)
    exact List.mem_cons_of_mem _ hb

def bestClock (cfg : ClockConfig) (as : List Announcement) : ClockVector :=
  BestTracker.best cfg.vector (as.map (·.vector))

def afterBest (cfg : ClockConfig) (as : List Announcement) : List ClockVector :=
  (as.map (·.vector)).reverse.takeWhile fun v => v ≠ bestClock cfg as

lemma vector_eq_of_identity {as : List Announcement} (has : ∀ a ∈ as, Qualified s a)
    (hfixed : ∀ a ∈ as, ∀ b ∈ as,
      a.msg.announce.grandmasterIdentity = b.msg.announce.grandmasterIdentity →
        a.vector = b.vector)
    {v w : ClockVector} (hv : v = s.cfg.vector ∨ v ∈ as.map (·.vector))
    (hw : w = s.cfg.vector ∨ w ∈ as.map (·.vector)) (hid : (ofLex v).2 = (ofLex w).2) : v = w := by
  have hforeign : ∀ a ∈ as, (ofLex a.vector).2 ≠ (ofLex s.cfg.vector).2 := by
    intro a ha heq
    exact (has a ha).foreign ((clockIdentity_eq_iff _ _).mpr heq)
  rcases hv with rfl | hv
  · rcases hw with rfl | hw
    · rfl
    · obtain ⟨b, hb, rfl⟩ := List.mem_map.mp hw
      exact absurd hid.symm (hforeign b hb)
  · obtain ⟨a, ha, rfl⟩ := List.mem_map.mp hv
    rcases hw with rfl | hw
    · exact absurd hid (hforeign a ha)
    · obtain ⟨b, hb, rfl⟩ := List.mem_map.mp hw
      exact hfixed a ha b hb ((clockIdentity_eq_iff _ _).mpr hid)

/-- **Grandmaster selection.**  An `asCapable` master with its own vector as best
receives qualified Announce messages of foreign clocks with fixed vectors.  It
ends on the best clock exactly when that is the device itself, or no clock that
is worse in one of the first five fields announced after the best clock did so
for the last time. -/
theorem grandmaster_selection_iff (s : PtpState) (hcap : s.asCapable = true)
    (hrole : s.roleState = .master) (hown : s.bestAnnounceMsg.vector = s.cfg.vector)
    (hsteps : s.bestAnnounceMsg.stepsRemoved = 0) (as : List Announcement)
    (has : ∀ a ∈ as, Qualified s a) (hfixed : ∀ a ∈ as, ∀ b ∈ as,
      a.msg.announce.grandmasterIdentity = b.msg.announce.grandmasterIdentity →
      a.vector = b.vector) : beNat (Run.runFrom ptpStep s
        (as.map (·.event))).bestAnnounceMsg.grandmasterIdentity.toList
      = (ofLex (bestClock s.cfg as)).2 ↔
    bestClock s.cfg as = s.cfg.vector ∨
      ∀ v ∈ afterBest s.cfg as, ¬ worseQuality (bestClock s.cfg as) v := by
  have hinv : BmcaInv s.cfg s := by
    refine ⟨rfl, ?_, fun _ => ⟨hown, hsteps⟩⟩
    rw [hrole]
    intro h
    cases h
  have hrun := vector_run hinv hcap as has
  rw [hown] at hrun
  have hiff := BestTracker.track_eq_min_iff s.cfg.vector lt_of_worseQuality
    (as.map (·.vector))
  -- the identity held is that of the best clock iff the vector held is its vector
  have hheld := BestTracker.foldl_step_mem s.cfg.vector worseQuality s.cfg.vector
    (as.map (·.vector))
  rw [← hrun] at hheld
  have hheld' : (Run.runFrom ptpStep s (as.map (·.event))).bestAnnounceMsg.vector = s.cfg.vector ∨
      (Run.runFrom ptpStep s (as.map (·.event))).bestAnnounceMsg.vector ∈ as.map (·.vector) := by
    rcases hheld with h | h | h
    · exact Or.inl h
    · exact Or.inl h
    · exact Or.inr h
  have hbest := BestTracker.best_mem s.cfg.vector (as.map (·.vector))
  rw [afterBest, bestClock, ← hiff, BestTracker.track, ← hrun]
  constructor
  · intro hid
    exact vector_eq_of_identity has hfixed hheld' hbest hid
  · intro hvec
    rw [← hvec]
    rfl

/-! ## A third clock -/

def clockAnnouncement (priority1 id : UInt8) : Announcement where
  msg :=
    { transportSpecific := 1
      messageType := 11
      correctionField := Vector.replicate 8 0
      sourcePortIdentity := Vector.replicate 10 id
      sequenceId := 0
      logMessageInterval := 0
      announce := ⟨priority1, 248, 0x20, 0x436A, 248, Vector.replicate 8 id, 0, 8,
        Vector.replicate 8 (Vector.replicate 8 id)⟩
      timestamp := Vector.replicate 10 0
      requestingPortIdentity := Vector.replicate 8 0
      requestingPortId := 0 }
  ts := 0
  now := 0
  egress := 0

def masterPort : PtpState where
  cfg := ⟨Vector.replicate 8 1, 250, 248⟩
  tileTimerOffset := 0
  throwAwaySyncOutliers := false
  asCapable := true
  roleState := .master
  delayInfo := ⟨false, 0, 0, 2, 0, 0, Vector.replicate 10 0⟩
  gPtpAdjust := 0
  gInvPtpAdjust := 0
  gPtpAdjustValid := false
  ptpReferenceLocalTs := 0
  ptpReferencePtpTs := ⟨0, 0, 0⟩
  ptpLastGmFreqChange := 0
  ptpGmTimebaseInd := 0
  masterPortId := Vector.replicate 10 0
  lastReceivedAnnounceTimeValid := false
  lastReceivedAnnounceTime := 0
  lastReceivedSyncTime := 0
  lastReceiveSyncUpstreamInterval := 0
  lastAnnounceTime := 0
  lastSyncTime := 0
  lastPdelayReqTime := 0
  prevAdjustMasterTs := ⟨0, 0, 0⟩
  prevAdjustLocalTs := 0
  prevAdjustValid := false
  receivedSync := false
  receivedSyncId := 0
  receivedSyncTs := 0
  syncLock := false
  syncCount := 0
  bestAnnounceMsg := createMyAnnounceMsg ⟨Vector.replicate 8 1, 250, 248⟩
    ⟨0, 0, 0, 0, 0, Vector.replicate 8 0, 0, 0, Vector.replicate 8 (Vector.replicate 8 0)⟩
  pdelayEpochTimer := 0
  prevPdelayLocalTs := 0
  periodicCounter := 0
  announceSeqId := 0
  syncSeqId := 0
  pdelayReqSeqId := 0
  pdelayRequestSent := false
  pdelayRequestSentTs := 0
  receivedPdelay := false
  receivedPdelayId := 0
  pdelayRespIngressTs := 0
  pdelayRequestReceiptTs := ⟨0, 0, 0⟩

lemma qualified_clockAnnouncement {priority1 id : UInt8}
    (h : (priority1, id) = (100, 2) ∨ (priority1, id) = (200, 3)) :
    Qualified masterPort (clockAnnouncement priority1 id) := by
  rcases h with h | h
  · obtain ⟨rfl, rfl⟩ := Prod.mk.inj h
    exact ⟨rfl, rfl, by decide +kernel, by decide +kernel⟩
  · obtain ⟨rfl, rfl⟩ := Prod.mk.inj h
    exact ⟨rfl, rfl, by decide +kernel, by decide +kernel⟩

theorem grandmaster_selection_best_last : beNat (Run.runFrom ptpStep masterPort
        ([clockAnnouncement 200 3, clockAnnouncement 100 2].map
          (·.event))).bestAnnounceMsg.grandmasterIdentity.toList
      = (ofLex
        (bestClock masterPort.cfg [clockAnnouncement 200 3, clockAnnouncement 100 2])).2 := by
  refine (grandmaster_selection_iff masterPort rfl rfl rfl rfl _ ?_ ?_).mpr ?_
  · intro a ha
    rcases List.mem_cons.mp ha with rfl | ha
    · exact qualified_clockAnnouncement (Or.inr rfl)
    · rw [List.mem_singleton] at ha
      rw [ha]
      exact qualified_clockAnnouncement (Or.inl rfl)
  · decide +kernel
  · decide +kernel

/-- A clock of priority 100 announces, then one of priority 200.  The port, of
priority 250, drops the first and ends on itself. -/
theorem worse_announce_drops_best_master :
    masterPort.asCapable = true ∧ masterPort.roleState = .master ∧
    masterPort.bestAnnounceMsg.vector = masterPort.cfg.vector ∧
    (∀ a ∈ [clockAnnouncement 100 2, clockAnnouncement 200 3], Qualified masterPort a) ∧
    beNat (Run.runFrom ptpStep masterPort
        ([clockAnnouncement 100 2, clockAnnouncement 200 3].map
          (·.event))).bestAnnounceMsg.grandmasterIdentity.toList
      ≠ (ofLex
        (bestClock masterPort.cfg [clockAnnouncement 100 2, clockAnnouncement 200 3])).2 := by
  refine ⟨rfl, rfl, rfl, ?_, by decide +kernel⟩
  intro a ha
  rcases List.mem_cons.mp ha with rfl | ha
  · exact qualified_clockAnnouncement (Or.inl rfl)
  · rw [List.mem_singleton] at ha
    rw [ha]
    exact qualified_clockAnnouncement (Or.inr rfl)
