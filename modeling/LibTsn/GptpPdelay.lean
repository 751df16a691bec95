/-
# The Pdelay exchange

A measurement of the path delay takes three messages: a request of this port,
the Pdelay_Resp of the neighbour and its Pdelay_Resp_Follow_Up.  Two flags carry
the exchange: `pdelay_request_sent`, from the request to the response, and
`received_pdelay`, from the response to the follow up.
-/
import LibTsn.GptpSync

/-! ## The variables of the exchange -/

structure ExchangeVars where
  requestSeqId : ℕ
  requestSent : Bool
  requestSentTs : ℕ
  received : Bool
  receivedId : ℕ
  respIngressTs : ℕ
  requestReceiptTs : PtpTimestamp
  source : PortIdentity

structure NeighbourVars where
  asCapable : Bool
  pdelay : ℕ
  exchanges : ℕ
  lostResponses : ℕ

variable (w : PdelayPort) (m : PtpMsg) (s : PtpState)

def exchangeVars : ExchangeVars where
  requestSeqId := s.pdelayReqSeqId
  requestSent := s.pdelayRequestSent
  requestSentTs := s.pdelayRequestSentTs
  received := s.receivedPdelay
  receivedId := s.receivedPdelayId
  respIngressTs := s.pdelayRespIngressTs
  requestReceiptTs := s.pdelayRequestReceiptTs
  source := s.delayInfo.rcvdSourceIdentity

def neighbourVars : NeighbourVars where
  asCapable := s.asCapable
  pdelay := s.delayInfo.pdelay
  exchanges := s.delayInfo.exchanges
  lostResponses := s.delayInfo.lostResponses

def pdelayVars : ExchangeVars × NeighbourVars × ℤ :=
  (exchangeVars s, neighbourVars s, s.tileTimerOffset)

def RequestDue (t : ℕ) (s : PtpState) : Prop :=
  timeafter t (s.lastPdelayReqTime + pdelayReqPeriod) = true
  deriving Decidable

/-! ## What leaves the exchange alone -/

section

variable {s : PtpState}

@[simp] lemma pdelayVars_setNewRole (now : ℕ) (role : PtpPortRole) (s : PtpState) :
    pdelayVars (setNewRole now role s) = pdelayVars s := by
  cases role <;> rfl

lemma pdelayVars_recvAnnounce (now ingress : ℕ) (m : PtpMsg) (s : PtpState) :
    pdelayVars (recvAnnounce now ingress m s) = pdelayVars s := by
  have hroles : pdelayVars (bmcaUpdateRoles now m s) = pdelayVars s := by
    unfold bmcaUpdateRoles
    dsimp only
    split_ifs <;> rfl
  unfold recvAnnounce
  dsimp only
  split_ifs
  · exact hroles
  · exact hroles
  · rfl

def unsteered (s : PtpState) : (ExchangeVars × NeighbourVars × ℤ) × PtpPortRole :=
  (pdelayVars s, s.roleState)

lemma unsteered_recvSync (ingress : ℕ) (m : PtpMsg) (s : PtpState) :
    unsteered (recvSync ingress m s) = unsteered s := by
  unfold recvSync
  split_ifs <;> rfl

lemma unsteered_recvFollowUp (m : PtpMsg) (s : PtpState) :
    unsteered (recvFollowUp m s) = unsteered s := by
  have hsteer : unsteered (steer m s) = unsteered s := (onlyClock_steer m s).view fun _ _ => rfl
  unfold recvFollowUp
  split_ifs
  · exact hsteer
  · rfl
  · rfl

lemma pdelayVars_recv {m : PtpMsg} (ts now egress : ℕ)
    (hm : ¬ (m.transportSpecific = 1 ∧ (m.messageType = 3 ∨ m.messageType = 10))) :
    pdelayVars (ptpStep s (.recv m ts now egress)) = pdelayVars s := by
  show pdelayVars (ptpRecv m ts now egress s).1 = pdelayVars s
  unfold ptpRecv
  dsimp only
  split_ifs with htransport
  · split
    · exact congrArg Prod.fst (unsteered_recvSync _ _ _)
    · rfl
    · rename_i htype
      exact absurd ⟨htransport, Or.inl htype⟩ hm
    · exact congrArg Prod.fst (unsteered_recvFollowUp _ _)
    · rename_i htype
      exact absurd ⟨htransport, Or.inr htype⟩ hm
    · exact pdelayVars_recvAnnounce _ _ _ _
    · rfl
  · rfl

lemma pdelayVars_periodicTimeouts (t now : ℕ) (s : PtpState) :
    pdelayVars (periodicTimeouts t now s) = pdelayVars s := by
  have hfollow : pdelayVars (followUpReceiptTimeout t s) = pdelayVars s := by
    unfold followUpReceiptTimeout
    split_ifs <;> rfl
  unfold periodicTimeouts receiptTimeout
  split_ifs
  · rw [pdelayVars_setNewRole]
    exact hfollow
  · exact hfollow
  · exact hfollow

lemma lastPdelayReqTime_periodicTimeouts (t now : ℕ) (s : PtpState) :
    (periodicTimeouts t now s).lastPdelayReqTime = s.lastPdelayReqTime := by
  have hfollow : (followUpReceiptTimeout t s).lastPdelayReqTime = s.lastPdelayReqTime := by
    unfold followUpReceiptTimeout
    split_ifs <;> rfl
  unfold periodicTimeouts receiptTimeout
  split_ifs <;> exact hfollow

/-- The port when `ptp_periodic` comes to the Pdelay request. -/
def beforePdelayReq (t now syncEgress : ℕ) (s : PtpState) : PtpState :=
  (periodicSync t syncEgress s.roleState s.asCapable
    (periodicAnnounce t s.roleState s.asCapable
      (periodicTimeouts t now (periodicSending s).1)).1).1

lemma onlyClock_beforePdelayReq (t now syncEgress : ℕ) (s : PtpState) :
    OnlyClock (periodicTimeouts t now (periodicSending s).1) (beforePdelayReq t now syncEgress s) :=
  (onlyClock_periodicAnnounce _ _ _ _).trans (onlyClock_periodicSync _ _ _ _ _)

lemma pdelayVars_beforePdelayReq (t now syncEgress : ℕ) (s : PtpState) :
    pdelayVars (beforePdelayReq t now syncEgress s) = pdelayVars s := by
  have hclock : ∀ {s s'}, OnlyClock s s' → pdelayVars s' = pdelayVars s :=
    fun h => h.view fun _ _ => rfl
  rw [hclock (onlyClock_beforePdelayReq _ _ _ _), pdelayVars_periodicTimeouts,
    hclock (onlyClock_periodicSending s)]

lemma requestDue_beforePdelayReq (t now syncEgress : ℕ) (s : PtpState) :
    RequestDue t (beforePdelayReq t now syncEgress s) ↔ RequestDue t s := by
  have hclock : ∀ {s s'}, OnlyClock s s' → s'.lastPdelayReqTime = s.lastPdelayReqTime :=
    fun h => h.view fun _ _ => rfl
  unfold RequestDue
  rw [hclock (onlyClock_beforePdelayReq _ _ _ _), lastPdelayReqTime_periodicTimeouts,
    hclock (onlyClock_periodicSending s)]

lemma pdelayVars_ptpPeriodic (t now syncEgress pdelayEgress : ℕ) (s : PtpState) :
    pdelayVars (ptpStep s (.periodic t now syncEgress pdelayEgress)) =
      pdelayVars (periodicPdelayReq t now pdelayEgress (periodicSending s).2
        (beforePdelayReq t now syncEgress s)).1 := by
  exact (onlyClock_periodicUpdateReferenceTimestamps t _).view fun _ _ => rfl

end

/-! ## The steps of an exchange -/

section

variable {s : PtpState}
variable (now : ℕ) (m : PtpMsg)

lemma OnlyRole.exchangeVars {s s' : PtpState} (h : OnlyRole s s') :
    exchangeVars s' = exchangeVars s :=
  h.view fun _ _ => rfl

lemma exchangeVars_ptpReset (s : PtpState) : exchangeVars (ptpReset now s) = exchangeVars s :=
  (onlyRole_resetAscapable now _).exchangeVars

lemma exchangeVars_recvPdelayRespFollowUp (s : PtpState) :
    exchangeVars (recvPdelayRespFollowUp now m s) = { exchangeVars s with received := false } := by
  have hany : ∀ s', exchangeVars s' = exchangeVars s →
      exchangeVars { s' with receivedPdelay := false } =
        { exchangeVars s with received := false } := by
    intro s' h
    rw [← h]
    rfl
  unfold recvPdelayRespFollowUp
  dsimp only
  apply hany
  split_ifs
  · exact (onlyRole_completeExchange now m s).exchangeVars
  · exact (onlyRole_pdelayReqReset now s).exchangeVars
  · rfl

def stored (ingress : ℕ) (v : ExchangeVars) : ExchangeVars :=
  { v with
    requestSent := false
    received := true
    receivedId := m.sequenceId
    respIngressTs := ingress
    requestReceiptTs := networkToPtpTimestamp m.timestamp
    source := m.sourcePortIdentity }

lemma exchangeVars_recvPdelayResp (now ingress : ℕ) (m : PtpMsg) (s : PtpState) :
    ((exchangeVars s).requestSent = true ∧ (exchangeVars s).requestSeqId = m.sequenceId ∧
      exchangeVars (recvPdelayResp now ingress m s) = stored m ingress (exchangeVars s)) ∨
    ∃ sent received, (sent = true → (exchangeVars s).requestSent = true) ∧
      (received = true → (exchangeVars s).received = true) ∧
      exchangeVars (recvPdelayResp now ingress m s) =
        { exchangeVars s with requestSent := sent, received := received } := by
  obtain ⟨received, hreceived, hcount⟩ : ∃ received,
      (received = true → (exchangeVars s).received = true) ∧
      exchangeVars (countLostFollowUp now m s) = { exchangeVars s with received := received } := by
    unfold countLostFollowUp
    split_ifs
    · exact ⟨false, fun h => absurd h Bool.false_ne_true,
        (onlyRole_pdelayReqReset now _).exchangeVars⟩
    · exact ⟨s.receivedPdelay, id, rfl⟩
  unfold recvPdelayResp
  split_ifs
  · right
    exact ⟨s.pdelayRequestSent, s.receivedPdelay, id, id,
      (onlyRole_pdelayReqReset now _).exchangeVars⟩
  · have hsame : ∀ s', exchangeVars { s' with pdelayRequestSent := false } =
        { exchangeVars s' with requestSent := false } := fun _ => rfl
    rw [hsame]
    unfold storePdelayResp
    split_ifs with hfits
    · left
      refine ⟨?_, ?_, ?_⟩
      · have h : (exchangeVars (countLostFollowUp now m s)).requestSent = true := hfits.1
        rw [hcount] at h
        exact h
      · have h : (exchangeVars (countLostFollowUp now m s)).requestSeqId = m.sequenceId := hfits.2.1
        rw [hcount] at h
        exact h
      · show { stored m ingress (exchangeVars (countLostFollowUp now m s)) with
          requestSent := false } = _
        rw [hcount]
        rfl
    · right
      refine ⟨false, received, fun h => absurd h Bool.false_ne_true, hreceived, ?_⟩
      rw [(onlyRole_pdelayReqReset now _).exchangeVars, hcount]

def requested (egress : ℕ) (v : ExchangeVars) : ExchangeVars :=
  { v with
    requestSeqId := (v.requestSeqId + 1) % 2 ^ 16
    requestSentTs := egress
    requestSent := true }

def SendsRequest (t : ℕ) (s : PtpState) : Prop := RequestDue t s ∧ (periodicSending s).2 = true
  deriving Decidable

lemma exchangeVars_periodicPdelayReq (t now egress : ℕ) (sending : Bool) (s : PtpState) :
    exchangeVars (periodicPdelayReq t now egress sending s).1 =
      if RequestDue t s ∧ sending = true then requested (onThisTile s egress) (exchangeVars s)
      else exchangeVars s := by
  have hcount := (onlyRole_countUnanswered now s).exchangeVars
  have htile : onThisTile (countUnanswered now s) egress = onThisTile s egress :=
    (onlyRole_countUnanswered now s).view (f := (onThisTile · egress)) fun _ _ => rfl
  have hsend : exchangeVars (sendPtpPdelayReqMsg egress (countUnanswered now s)).1 =
      requested (onThisTile s egress) (exchangeVars s) := by
    rw [← hcount, ← htile]
    rfl
  have htime : ∀ s', exchangeVars { s' with lastPdelayReqTime := t } = exchangeVars s' :=
    fun _ => rfl
  unfold periodicPdelayReq RequestDue
  cases sending
  · simp only [Bool.false_eq_true, if_false, and_false]
    split_ifs
    · rw [htime, hcount]
    · rfl
  · simp only [and_true, if_true]
    split_ifs
    · rw [htime, hsend]
    · rfl

lemma exchangeVars_ptpPeriodic (t now syncEgress pdelayEgress : ℕ) (s : PtpState) :
    exchangeVars (ptpStep s (.periodic t now syncEgress pdelayEgress)) =
      if SendsRequest t s then requested (onThisTile s pdelayEgress) (exchangeVars s)
      else exchangeVars s := by
  have hbefore := pdelayVars_beforePdelayReq t now syncEgress s
  have hexchange : exchangeVars (beforePdelayReq t now syncEgress s) = exchangeVars s :=
    congrArg Prod.fst hbefore
  have htile : onThisTile (beforePdelayReq t now syncEgress s) pdelayEgress =
      onThisTile s pdelayEgress := by
    have hoffset := congrArg (fun v => v.2.2) hbefore
    exact congrArg (fun offset => u32 (pdelayEgress - offset)) hoffset
  have hvars := congrArg Prod.fst (pdelayVars_ptpPeriodic t now syncEgress pdelayEgress s)
  refine hvars.trans ?_
  show exchangeVars (periodicPdelayReq t now pdelayEgress (periodicSending s).2
    (beforePdelayReq t now syncEgress s)).1 = _
  rw [exchangeVars_periodicPdelayReq, hexchange, htile]
  exact if_congr (and_congr_left' (requestDue_beforePdelayReq t now syncEgress s)) rfl rfl

end

/-! ## The history of the exchanges -/

structure SentRequest where
  sequenceId : ℕ
  egress : ℕ
  deriving DecidableEq

structure ReceivedResp where
  msg : PtpMsg
  ingress : ℕ
  deriving DecidableEq

def requestsOf : PtpEvent → List SentRequest
  | .periodic t now syncEgress pdelayEgress =>
    (ptpPeriodic t now syncEgress pdelayEgress s).2.filterMap fun tx =>
      match tx with
      | .pdelayReq id => some ⟨id, onThisTile s pdelayEgress⟩
      | _ => none
  | _ => []

def responsesOf : PtpEvent → List ReceivedResp
  | .recv m ts _ _ =>
    if m.transportSpecific = 1 ∧ m.messageType = 3 then [⟨m, onThisTile s ts⟩] else []
  | _ => []

structure PdelayPort where
  port : PtpState
  requests : List SentRequest
  responses : List ReceivedResp
  completed : ℕ

def pdelayStep (e : PtpEvent) : PdelayPort where
  port := ptpStep w.port e
  requests := w.requests ++ requestsOf w.port e
  responses := w.responses ++ responsesOf w.port e
  completed :=
    if w.port.asCapable = true ∧ (ptpStep w.port e).asCapable = false then 0
    else if CompletesExchange w.port e then w.completed + 1
    else w.completed

lemma port_runFrom_pdelayStep (es : List PtpEvent) :
    (Run.runFrom pdelayStep w es).port = Run.runFrom ptpStep w.port es :=
  Run.runFrom_watched (fun _ _ => rfl) w es

lemma mem_requestsOf_periodic {t now syncEgress pdelayEgress : ℕ} {s : PtpState}
    (hsends : SendsRequest t s) : ⟨(s.pdelayReqSeqId + 1) % 2 ^ 16, onThisTile s pdelayEgress⟩ ∈
      requestsOf s (.periodic t now syncEgress pdelayEgress) := by
  have hbefore := congrArg Prod.fst (pdelayVars_beforePdelayReq t now syncEgress s)
  have hseq : (countUnanswered now (beforePdelayReq t now syncEgress s)).pdelayReqSeqId =
      s.pdelayReqSeqId := by
    have hcount := (onlyRole_countUnanswered now (beforePdelayReq t now syncEgress s)).exchangeVars
    exact congrArg ExchangeVars.requestSeqId (hcount.trans hbefore)
  have hsent : PtpTx.pdelayReq ((s.pdelayReqSeqId + 1) % 2 ^ 16) ∈
      (periodicPdelayReq t now pdelayEgress (periodicSending s).2
        (beforePdelayReq t now syncEgress s)).2 := by
    have hdue : timeafter t
        ((beforePdelayReq t now syncEgress s).lastPdelayReqTime + pdelayReqPeriod) = true :=
      (requestDue_beforePdelayReq t now syncEgress s).mpr hsends.1
    unfold periodicPdelayReq
    rw [if_pos hdue, hsends.2]
    show _ ∈ [PtpTx.pdelayReq _]
    rw [hseq]
    exact List.mem_singleton_self _
  show _ ∈ List.filterMap _ _
  exact List.mem_filterMap.mpr ⟨_, List.mem_append_right _ hsent, rfl⟩

/-! ## One request, one response, one follow up -/

structure Backed (v : ExchangeVars) (requests : List SentRequest) (responses : List ReceivedResp) :
    Prop where
  sent : v.requestSent = true → ⟨v.requestSeqId, v.requestSentTs⟩ ∈ requests
  asked : v.received = true → ⟨v.receivedId, v.requestSentTs⟩ ∈ requests
  answered : v.received = true → ∃ r ∈ responses, r.msg.sequenceId = v.receivedId ∧
    r.msg.sourcePortIdentity = v.source ∧
    networkToPtpTimestamp r.msg.timestamp = v.requestReceiptTs ∧ r.ingress = v.respIngressTs

def RequestsWait : PtpEvent → Prop
  | .periodic t _ _ _ => SendsRequest t s → s.receivedPdelay = false
  | _ => True

instance (s : PtpState) (e : PtpEvent) : Decidable (RequestsWait s e) :=
  match e with
  | .recv _ _ _ _ => isTrue trivial
  | .reset _ => isTrue trivial
  | .periodic _ _ _ _ => inferInstanceAs (Decidable (_ → _))

section

variable {v : ExchangeVars} {requests : List SentRequest} {responses : List ReceivedResp}

lemma Backed.append (h : Backed v requests responses) (moreRequests : List SentRequest)
    (moreResponses : List ReceivedResp) :
    Backed v (requests ++ moreRequests) (responses ++ moreResponses) where
  sent hs := List.mem_append_left _ (h.sent hs)
  asked hr := List.mem_append_left _ (h.asked hr)
  answered hr := by
    obtain ⟨r, hr, hfits⟩ := h.answered hr
    exact ⟨r, List.mem_append_left _ hr, hfits⟩

lemma Backed.clear (h : Backed v requests responses) {sent received : Bool}
    (hsent : sent = true → v.requestSent = true) (hreceived : received = true → v.received = true) :
    Backed { v with requestSent := sent, received := received } requests responses where
  sent hs := h.sent (hsent hs)
  asked hr := h.asked (hreceived hr)
  answered hr := h.answered (hreceived hr)

lemma Backed.stored (h : Backed v requests responses) {m : PtpMsg} {ingress : ℕ}
    (hsent : v.requestSent = true) (hseq : v.requestSeqId = m.sequenceId)
    (hmem : ⟨m, ingress⟩ ∈ responses) : Backed (stored m ingress v) requests responses where
  sent hs := absurd hs Bool.false_ne_true
  asked _ := by
    have hmem := h.sent hsent
    rw [hseq] at hmem
    exact hmem
  answered _ := ⟨⟨m, ingress⟩, hmem, rfl, rfl, rfl, rfl⟩

lemma Backed.requested (hwaiting : v.received = false) {egress : ℕ}
    (hmem : ⟨(v.requestSeqId + 1) % 2 ^ 16, egress⟩ ∈ requests) :
    Backed (requested egress v) requests responses where
  sent _ := hmem
  asked hr := by
    have hr : v.received = true := hr
    rw [hwaiting] at hr
    cases hr
  answered hr := by
    have hr : v.received = true := hr
    rw [hwaiting] at hr
    cases hr

end

lemma ptpStep_pdelayResp {m : PtpMsg} (htransport : m.transportSpecific = 1)
    (htype : m.messageType = 3) (ts now egress : ℕ) (s : PtpState) :
    ptpStep s (.recv m ts now egress) = recvPdelayResp now (onThisTile s ts) m s := by
  simp only [ptpStep, ptpEvent, ptpRecv, htransport, htype, if_true]

lemma ptpStep_pdelayRespFollowUp {m : PtpMsg} (htransport : m.transportSpecific = 1)
    (htype : m.messageType = 10) (ts now egress : ℕ) (s : PtpState) :
    ptpStep s (.recv m ts now egress) = recvPdelayRespFollowUp now m s := by
  simp only [ptpStep, ptpEvent, ptpRecv, htransport, htype, if_true]

lemma backed_step {w : PdelayPort} (h : Backed (exchangeVars w.port) w.requests w.responses)
    {e : PtpEvent} (he : RequestsWait w.port e) :
    Backed (exchangeVars (pdelayStep w e).port) (pdelayStep w e).requests
      (pdelayStep w e).responses := by
  show Backed (exchangeVars (ptpStep w.port e)) (w.requests ++ requestsOf w.port e)
    (w.responses ++ responsesOf w.port e)
  cases e with
  | recv m ts now egress =>
    by_cases hm : m.transportSpecific = 1 ∧ (m.messageType = 3 ∨ m.messageType = 10)
    · obtain ⟨htransport, htype | htype⟩ := hm
      · rw [ptpStep_pdelayResp htransport htype]
        have hmem : (⟨m, onThisTile w.port ts⟩ : ReceivedResp) ∈
            responsesOf w.port (.recv m ts now egress) := by
          show _ ∈ if m.transportSpecific = 1 ∧ m.messageType = 3 then _ else _
          rw [if_pos ⟨htransport, htype⟩]
          exact List.mem_singleton_self _
        rcases exchangeVars_recvPdelayResp now (onThisTile w.port ts) m w.port with
          ⟨hsent, hseq, hvars⟩ | ⟨sent, received, hsent, hreceived, hvars⟩
        · rw [hvars]
          exact (h.append _ _).stored hsent hseq (List.mem_append_right _ hmem)
        · rw [hvars]
          exact (h.append _ _).clear hsent hreceived
      · rw [ptpStep_pdelayRespFollowUp htransport htype, exchangeVars_recvPdelayRespFollowUp]
        exact (h.append _ _).clear id fun hr => absurd hr Bool.false_ne_true
    · rw [show exchangeVars _ = _ from congrArg Prod.fst (pdelayVars_recv ts now egress hm)]
      exact h.append _ _
  | reset now =>
    rw [show exchangeVars (ptpStep w.port (.reset now)) = _ from exchangeVars_ptpReset now w.port]
    exact h.append _ _
  | periodic t now syncEgress pdelayEgress =>
    rw [exchangeVars_ptpPeriodic]
    split_ifs with hsends
    · exact Backed.requested (he hsends)
        (List.mem_append_right _ (mem_requestsOf_periodic hsends))
    · exact h.append _ _

/-- The times `update_path_delay` is called with. -/
structure PathDelayTimes where
  requestReceipt : PtpTimestamp
  responseEgress : PtpTimestamp
  requestEgress : ℕ
  responseIngress : ℕ
  deriving DecidableEq

def pathDelayTimes (m : PtpMsg) : PathDelayTimes where
  requestReceipt := s.pdelayRequestReceiptTs
  responseEgress := networkToPtpTimestamp m.timestamp
  requestEgress := s.pdelayRequestSentTs
  responseIngress := s.pdelayRespIngressTs

/-- The measurement that the follow up `m` completes is made of `m`, of a request
and of a response of the run with its sequence id, the response from its source. -/
def OneExchange : Prop :=
  ∃ q ∈ w.requests, ∃ r ∈ w.responses,
    q.sequenceId = m.sequenceId ∧ r.msg.sequenceId = m.sequenceId ∧
      r.msg.sourcePortIdentity = m.sourcePortIdentity ∧
      pathDelayTimes w.port m =
        ⟨networkToPtpTimestamp r.msg.timestamp, networkToPtpTimestamp m.timestamp,
          q.egress, r.ingress⟩
  deriving Decidable

/-- **One exchange.**  In every run from `ptp_init` in which no request is sent
while a response waits for its follow up, a follow up that completes an exchange
is measured with the request and the response it belongs to. -/
theorem exchange_of_one_request (s₀ : PtpState) (hsent : s₀.pdelayRequestSent = false)
    (hreceived : s₀.receivedPdelay = false) (t₀ : ℕ) (es : List PtpEvent)
    (hg : Run.Guarded ptpStep RequestsWait (ptpInit t₀ s₀) es) (m : PtpMsg) (ts now egress : ℕ)
    (hm : CompletesExchange (Run.runFrom ptpStep (ptpInit t₀ s₀) es) (.recv m ts now egress)) :
    OneExchange (Run.runFrom pdelayStep ⟨ptpInit t₀ s₀, [], [], 0⟩ es) m := by
  have hstep : ∀ w e, Backed (exchangeVars w.port) w.requests w.responses →
      RequestsWait w.port e →
      Backed (exchangeVars (pdelayStep w e).port) (pdelayStep w e).requests
        (pdelayStep w e).responses := fun _ _ h he => backed_step h he
  have hinit : Backed (exchangeVars (ptpInit t₀ s₀)) [] [] := by
    have hvars : exchangeVars (ptpInit t₀ s₀) = exchangeVars s₀ := exchangeVars_ptpReset t₀ s₀
    rw [hvars]
    refine ⟨fun hs => ?_, fun hr => ?_, fun hr => ?_⟩
    · exact absurd (hsent.symm.trans hs) Bool.false_ne_true
    · exact absurd (hreceived.symm.trans hr) Bool.false_ne_true
    · exact absurd (hreceived.symm.trans hr) Bool.false_ne_true
  have hguard : Run.Guarded pdelayStep (fun w e => RequestsWait w.port e)
      ⟨ptpInit t₀ s₀, [], [], 0⟩ es := Run.guarded_watched (fun _ _ => rfl) hg
  have hend := Run.invariant_of_guarded hstep hinit es hguard
  have hport := port_runFrom_pdelayStep ⟨ptpInit t₀ s₀, [], [], 0⟩ es
  rw [← hport] at hm
  obtain ⟨-, -, hwaits, hid, hsource⟩ := hm
  obtain ⟨r, hr, hseq, hsrc, hreceipt, hingress⟩ := hend.answered hwaits
  refine ⟨_, hend.asked hwaits, r, hr, hid, hseq.trans hid, hsrc.trans hsource.symm, ?_⟩
  rw [hreceipt, hingress]
  rfl

def awaitsFollowUp : List PtpEvent :=
  [.periodic 100000001 0 0 100000006, .recv (neighbourMessage 3 1) 100000016 0 0]

theorem first_exchange_of_one_request :
    OneExchange (Run.runFrom pdelayStep ⟨ptpInit 0 coldPort, [], [], 0⟩ awaitsFollowUp)
      (neighbourMessage 10 1) :=
  exchange_of_one_request coldPort rfl rfl 0 awaitsFollowUp (by decide +kernel)
    (neighbourMessage 10 1) 100000026 0 0 (by decide +kernel)

/-- A second request is sent while the response to the first waits.  The follow
up of the first still completes an exchange, measured from the egress time of the
second. -/
theorem second_request_mixes_exchanges : CompletesExchange
        (Run.runFrom ptpStep (ptpInit 0 coldPort)
          (awaitsFollowUp ++ [.periodic 200000002 0 0 200000007]))
        (.recv (neighbourMessage 10 1) 200000010 0 0) ∧
      ¬ OneExchange
        (Run.runFrom pdelayStep ⟨ptpInit 0 coldPort, [], [], 0⟩
          (awaitsFollowUp ++ [.periodic 200000002 0 0 200000007]))
        (neighbourMessage 10 1) := by
  decide +kernel

/-! ## What is known about the neighbour -/

structure Wanes (s s' : PtpState) : Prop where
  kept_or_cleared :
    (s'.asCapable = s.asCapable ∧ s'.delayInfo.exchanges = s.delayInfo.exchanges ∧
      (s'.asCapable = true → s'.delayInfo.pdelay = s.delayInfo.pdelay)) ∨
    (s.asCapable = true ∧ s'.asCapable = false ∧ s'.delayInfo.exchanges = 0)
  slave : s'.roleState = .slave →
    s'.asCapable = true ∨ s.roleState = .slave ∧ s'.asCapable = s.asCapable
  lost : s.delayInfo.lostResponses ≤ ptpAllowedLostResponses →
    s'.delayInfo.lostResponses ≤ ptpAllowedLostResponses

section

variable {s s' s'' : PtpState}

lemma Wanes.refl (s : PtpState) : Wanes s s :=
  ⟨Or.inl ⟨rfl, rfl, fun _ => rfl⟩, fun h => Or.inr ⟨h, rfl⟩, id⟩

lemma Wanes.trans (h : Wanes s s') (h' : Wanes s' s'') : Wanes s s'' where
  kept_or_cleared := by
    rcases h'.kept_or_cleared with ⟨hcap', hex', hdelay'⟩ | ⟨hcap', hclear', hex'⟩
    · rcases h.kept_or_cleared with ⟨hcap, hex, hdelay⟩ | ⟨hcap, hclear, hex⟩
      · left
        refine ⟨hcap'.trans hcap, hex'.trans hex, fun h => ?_⟩
        exact (hdelay' h).trans (hdelay (hcap'.symm.trans h))
      · exact Or.inr ⟨hcap, hcap'.trans hclear, hex'.trans hex⟩
    · rcases h.kept_or_cleared with ⟨hcap, -, -⟩ | ⟨-, hclear, -⟩
      · exact Or.inr ⟨hcap.symm.trans hcap', hclear', hex'⟩
      · rw [hclear] at hcap'
        cases hcap'
  slave hrole := by
    rcases h'.slave hrole with hcap | ⟨hrole', hcap'⟩
    · exact Or.inl hcap
    · rcases h.slave hrole' with hcap | ⟨hrole, hcap⟩
      · exact Or.inl (hcap'.trans hcap)
      · exact Or.inr ⟨hrole, hcap'.trans hcap⟩
  lost hle := h'.lost (h.lost hle)

lemma Wanes.of_vars (hvars : neighbourVars s' = neighbourVars s)
    (hrole : s'.roleState = .slave → s'.asCapable = true ∨ s.roleState = .slave) : Wanes s s' := by
  have hcap : s'.asCapable = s.asCapable := congrArg NeighbourVars.asCapable hvars
  have hlost : s'.delayInfo.lostResponses = s.delayInfo.lostResponses :=
    congrArg NeighbourVars.lostResponses hvars
  refine ⟨Or.inl ⟨hcap, congrArg NeighbourVars.exchanges hvars,
    fun _ => congrArg NeighbourVars.pdelay hvars⟩, fun h => ?_, fun h => hlost.trans_le h⟩
  rcases hrole h with h | h
  · exact Or.inl h
  · exact Or.inr ⟨h, hcap⟩

variable (now : ℕ)

lemma wanes_resetAscapable (s : PtpState) : Wanes s (resetAscapable now s) := by
  unfold resetAscapable
  split_ifs with hcap
  · exact ⟨Or.inr ⟨hcap, rfl, rfl⟩, fun h => (nomatch h), id⟩
  · exact Wanes.refl s

lemma asCapable_resetAscapable (s : PtpState) : (resetAscapable now s).asCapable = false := by
  unfold resetAscapable
  split_ifs with hcap
  · rfl
  · exact Bool.eq_false_iff.mpr hcap

lemma pdelayReqReset_cases (s : PtpState) : (pdelayReqReset now s).asCapable = false ∨
      s.delayInfo.lostResponses < ptpAllowedLostResponses ∧
      pdelayReqReset now s = { s with
        delayInfo := { s.delayInfo with lostResponses := s.delayInfo.lostResponses + 1 } } := by
  unfold pdelayReqReset
  split_ifs with hlost
  · exact Or.inr ⟨hlost, rfl⟩
  · exact Or.inl (asCapable_resetAscapable now s)

lemma wanes_pdelayReqReset (s : PtpState) : Wanes s (pdelayReqReset now s) := by
  unfold pdelayReqReset
  split_ifs with hlost
  · exact ⟨Or.inl ⟨rfl, rfl, fun _ => rfl⟩, fun h => Or.inr ⟨h, rfl⟩, fun _ => hlost⟩
  · exact wanes_resetAscapable now s

lemma wanes_recvPdelayResp (now ingress : ℕ) (m : PtpMsg) (s : PtpState) :
    Wanes s (recvPdelayResp now ingress m s) := by
  have hcount : Wanes s (countLostFollowUp now m s) := by
    unfold countLostFollowUp
    have hflag : Wanes s { s with receivedPdelay := false } := Wanes.of_vars rfl Or.inr
    split_ifs
    · exact hflag.trans (wanes_pdelayReqReset now _)
    · exact Wanes.refl s
  have hstore : ∀ s, Wanes s (storePdelayResp now ingress m s) := by
    intro s
    unfold storePdelayResp
    split_ifs
    · exact Wanes.of_vars rfl Or.inr
    · exact wanes_pdelayReqReset now s
  have hmultiple : Wanes s (countMultipleResp s) := Wanes.of_vars rfl Or.inr
  unfold recvPdelayResp
  split_ifs
  · exact hmultiple.trans (wanes_pdelayReqReset now (countMultipleResp s))
  · exact (hcount.trans (hstore _)).trans (Wanes.of_vars rfl Or.inr)

lemma wanes_recvAnnounce (now ingress : ℕ) (m : PtpMsg) (s : PtpState) :
    Wanes s (recvAnnounce now ingress m s) := by
  refine Wanes.of_vars (congrArg (fun v => v.2.1) (pdelayVars_recvAnnounce now ingress m s)) ?_
  have hcap : (recvAnnounce now ingress m s).asCapable = s.asCapable :=
    congrArg (fun v => v.2.1.asCapable) (pdelayVars_recvAnnounce now ingress m s)
  intro hrole
  by_cases h : s.asCapable = true
  · exact Or.inl (hcap.trans h)
  · right
    unfold recvAnnounce at hrole
    rw [if_neg] at hrole
    · exact hrole
    · simp [h]

lemma wanes_of_unsteered (h : unsteered s' = unsteered s) : Wanes s s' := by
  have hrole : s'.roleState = s.roleState := congrArg Prod.snd h
  exact Wanes.of_vars (congrArg (fun v => v.1.2.1) h) fun h => Or.inr (hrole.symm.trans h)

lemma wanes_ptpReset (s : PtpState) : Wanes s (ptpReset now s) := by
  unfold ptpReset resetAscapable
  dsimp only
  split_ifs with hcap
  · exact ⟨Or.inr ⟨hcap, rfl, rfl⟩, fun h => (nomatch h), fun _ => Nat.zero_le _⟩
  · exact ⟨Or.inl ⟨rfl, rfl, fun h => absurd h hcap⟩, fun h => (nomatch h), fun _ => Nat.zero_le _⟩

lemma wanes_beforePdelayReq (t now syncEgress : ℕ) (s : PtpState) :
    Wanes s (beforePdelayReq t now syncEgress s) := by
  have hsending : (periodicSending s).1.roleState = s.roleState := by
    unfold periodicSending
    split_ifs <;> rfl
  have hfollow : ∀ s, (followUpReceiptTimeout t s).roleState = s.roleState := by
    intro s
    unfold followUpReceiptTimeout
    split_ifs <;> rfl
  have htimeouts : ∀ s, (periodicTimeouts t now s).roleState = .slave → s.roleState = .slave := by
    intro s
    unfold periodicTimeouts receiptTimeout
    split_ifs
    · exact fun h => (nomatch h)
    · exact fun h => (hfollow s).symm.trans h
    · exact fun h => (hfollow s).symm.trans h
  have hannounce : ∀ role capable s,
      (periodicAnnounce t role capable s).1.roleState = s.roleState := by
    intro role capable s
    unfold periodicAnnounce
    split_ifs <;> rfl
  have hsync : ∀ role capable s,
      (periodicSync t syncEgress role capable s).1.roleState = s.roleState := by
    intro role capable s
    unfold periodicSync
    split_ifs <;> rfl
  refine Wanes.of_vars (congrArg (fun v => v.2.1)
    (pdelayVars_beforePdelayReq t now syncEgress s)) ?_
  intro hrole
  right
  unfold beforePdelayReq at hrole
  rw [hsync, hannounce] at hrole
  exact hsending.symm.trans (htimeouts _ hrole)

lemma wanes_ptpPeriodic (t now syncEgress pdelayEgress : ℕ) (s : PtpState) :
    Wanes s (ptpStep s (.periodic t now syncEgress pdelayEgress)) := by
  have hcount : ∀ s, Wanes s (countUnanswered now s) := by
    intro s
    unfold countUnanswered
    split_ifs
    · exact wanes_pdelayReqReset now s
    · exact Wanes.refl s
  have hrequest : ∀ sending s, Wanes s (periodicPdelayReq t now pdelayEgress sending s).1 := by
    intro sending s
    unfold periodicPdelayReq
    split
    · refine (hcount s).trans ?_
      cases sending <;> exact Wanes.of_vars rfl Or.inr
    · exact Wanes.refl s
  have hreference : ∀ s, Wanes s (periodicUpdateReferenceTimestamps t s) := by
    intro s
    apply wanes_of_unsteered
    unfold periodicUpdateReferenceTimestamps
    dsimp only
    split_ifs <;> rfl
  exact ((wanes_beforePdelayReq t now syncEgress s).trans (hrequest _ _)).trans (hreference _)

lemma wanes_ptpStep {e : PtpEvent} (he : ¬ CompletesExchange s e) : Wanes s (ptpStep s e) := by
  cases e with
  | recv m ts now egress =>
    show Wanes s (ptpRecv m ts now egress s).1
    unfold ptpRecv
    dsimp only
    split_ifs with htransport
    · split
      · exact wanes_of_unsteered (unsteered_recvSync _ _ _)
      · exact wanes_of_unsteered rfl
      · exact wanes_recvPdelayResp _ _ _ _
      · exact wanes_of_unsteered (unsteered_recvFollowUp _ _)
      · rename_i htype
        have hflag : ∀ s, Wanes s { s with receivedPdelay := false } :=
          fun _ => Wanes.of_vars rfl Or.inr
        unfold recvPdelayRespFollowUp
        dsimp only
        refine Wanes.trans ?_ (hflag _)
        split_ifs with hwaits hfits
        · exact absurd ⟨htransport, htype, hwaits, hfits⟩ he
        · exact wanes_pdelayReqReset now s
        · exact Wanes.refl s
      · exact wanes_recvAnnounce _ _ _ _
      · exact Wanes.refl s
    · exact Wanes.refl s
  | reset now => exact wanes_ptpReset now s
  | periodic t now syncEgress pdelayEgress =>
    exact wanes_ptpPeriodic t now syncEgress pdelayEgress s

end

structure NeighbourSound (w : PdelayPort) : Prop where
  slave : w.port.roleState = .slave → w.port.asCapable = true
  delay : w.port.asCapable = true →
    w.port.delayInfo.pdelay ≤ ptpNeighborPropDelayThreshNs ∧ 2 ≤ w.port.delayInfo.exchanges
  counted : w.port.delayInfo.exchanges ≤ w.completed
  lost : w.port.delayInfo.lostResponses ≤ ptpAllowedLostResponses

lemma judgeNeighbour_cases (now : ℕ) (s : PtpState) : ((judgeNeighbour now s).asCapable = true ∧
      (judgeNeighbour now s).delayInfo.pdelay ≤ ptpNeighborPropDelayThreshNs ∧
      2 ≤ s.delayInfo.exchanges ∧
      (judgeNeighbour now s).delayInfo.exchanges = s.delayInfo.exchanges) ∨
    ((judgeNeighbour now s).asCapable = false ∧ Wanes s (judgeNeighbour now s)) := by
  unfold judgeNeighbour
  split_ifs with hjudge
  · left
    unfold setAscapable
    split_ifs with hcap
    · exact ⟨hcap, hjudge.2.1, hjudge.2.2, rfl⟩
    · exact ⟨rfl, hjudge.2.1, hjudge.2.2, rfl⟩
  · right
    exact ⟨asCapable_resetAscapable now s, wanes_resetAscapable now s⟩

lemma exchanges_measureExchange :
    (measureExchange m s).delayInfo.exchanges = (s.delayInfo.exchanges + 1) % 2 ^ 32 := by
  unfold measureExchange updatePathDelay averagePathDelay
  dsimp only
  split_ifs <;> rfl

lemma ptpStep_of_completesExchange {s : PtpState} {m : PtpMsg} {ts now egress : ℕ}
    (hm : CompletesExchange s (.recv m ts now egress)) :
    let s' := ptpStep s (.recv m ts now egress)
    let judged := judgeNeighbour now (measureExchange m s)
    s'.asCapable = judged.asCapable ∧ s'.roleState = judged.roleState ∧
      s'.delayInfo.pdelay = judged.delayInfo.pdelay ∧
      s'.delayInfo.exchanges = judged.delayInfo.exchanges ∧ s'.delayInfo.lostResponses = 0 := by
  obtain ⟨htransport, htype, hwaits, hfits⟩ := hm
  rw [ptpStep_pdelayRespFollowUp htransport htype]
  unfold recvPdelayRespFollowUp
  rw [if_pos hwaits, if_pos hfits]
  exact ⟨rfl, rfl, rfl, rfl, rfl⟩

lemma neighbourSound_completes {w : PdelayPort} (h : NeighbourSound w) {m : PtpMsg}
    {ts now egress : ℕ} (he : CompletesExchange w.port (.recv m ts now egress)) :
    NeighbourSound (pdelayStep w (.recv m ts now egress)) := by
  obtain ⟨hcap, hrole, hdelay, hex, hlost⟩ := ptpStep_of_completesExchange he
  have hmeasured := exchanges_measureExchange m w.port
  have hone : (w.port.delayInfo.exchanges + 1) % 2 ^ 32 ≤ w.completed + 1 :=
    (Nat.mod_le _ _).trans (Nat.succ_le_succ h.counted)
  have hcount : (pdelayStep w (.recv m ts now egress)).completed =
      if w.port.asCapable = true ∧ (ptpStep w.port (.recv m ts now egress)).asCapable = false then 0
      else w.completed + 1 := by
    show (if _ then 0 else if _ then _ else _) = _
    rw [if_pos he]
  rcases judgeNeighbour_cases now (measureExchange m w.port) with
    ⟨hcapable, hle, htwo, hkept⟩ | ⟨hclear, hwanes⟩
  · refine ⟨fun _ => hcap.trans hcapable, fun _ => ⟨hdelay.trans_le hle, ?_⟩, ?_, ?_⟩
    · exact htwo.trans_eq (hex.trans hkept).symm
    · refine hex.trans_le ?_
      rw [hcount, if_neg, hkept, hmeasured]
      · exact hone
      · rintro ⟨-, hclear⟩
        exact absurd ((hclear.symm.trans hcap).trans hcapable) Bool.false_ne_true
    · exact hlost.trans_le (Nat.zero_le _)
  · refine ⟨fun hslave => ?_, fun hcapable => ?_, ?_, ?_⟩
    · -- a slave was capable, so the loss of `asCapable` has made it master
      rcases hwanes.slave (hrole.symm.trans hslave) with hcapable | ⟨hslave, hkept⟩
      · exact hcap.trans hcapable
      · exact hcap.trans (hkept.trans (h.slave hslave))
    · exact absurd ((hclear.symm.trans hcap.symm).trans hcapable) Bool.false_ne_true
    · refine hex.trans_le ?_
      rw [hcount]
      rcases hwanes.kept_or_cleared with ⟨hkept, hkeptex, -⟩ | ⟨hbefore, -, hzero⟩
      · rw [if_neg, hkeptex, hmeasured]
        · exact hone
        · rintro ⟨hbefore, -⟩
          exact absurd ((hclear.symm.trans hkept).trans hbefore) Bool.false_ne_true
      · rw [hzero]
        exact Nat.zero_le _
    · exact hlost.trans_le (Nat.zero_le _)

lemma neighbourSound_step {w : PdelayPort} (h : NeighbourSound w) (e : PtpEvent) :
    NeighbourSound (pdelayStep w e) := by
  by_cases he : CompletesExchange w.port e
  · cases e with
    | recv m ts now egress => exact neighbourSound_completes h he
    | reset now => exact he.elim
    | periodic t now syncEgress pdelayEgress => exact he.elim
  · have hwanes := wanes_ptpStep he
    refine ⟨fun hrole => ?_, fun hcap => ?_, ?_, hwanes.lost h.lost⟩
    · rcases hwanes.slave hrole with hcap | ⟨hslave, hcap⟩
      · exact hcap
      · exact hcap.trans (h.slave hslave)
    · rcases hwanes.kept_or_cleared with ⟨hkept, hex, hdelay⟩ | ⟨-, hclear, -⟩
      · obtain ⟨hle, htwo⟩ := h.delay (hkept.symm.trans hcap)
        exact ⟨(hdelay hcap).trans_le hle, htwo.trans_eq hex.symm⟩
      · exact absurd (hclear.symm.trans hcap) Bool.false_ne_true
    · show (ptpStep w.port e).delayInfo.exchanges ≤ if _ then 0 else if _ then _ else _
      rw [if_neg he]
      rcases hwanes.kept_or_cleared with ⟨hkept, hex, -⟩ | ⟨hcap, hclear, hex⟩
      · rw [if_neg, hex]
        · exact h.counted
        · rintro ⟨hcap, hclear⟩
          exact absurd ((hclear.symm.trans hkept).trans hcap) Bool.false_ne_true
      · rw [if_pos ⟨hcap, hclear⟩, hex]

/-! ## The loss of the neighbour -/

/-- The event is a call of `ptp_periodic` that finds a request period over. -/
def EndsPeriod : PtpEvent → Prop
  | .periodic t _ _ _ => RequestDue t s
  | _ => False

instance (s : PtpState) (e : PtpEvent) : Decidable (EndsPeriod s e) :=
  match e with
  | .recv _ _ _ _ => isFalse id
  | .reset _ => isFalse id
  | .periodic t _ _ _ => inferInstanceAs (Decidable (RequestDue t s))

def periodsEnded : PtpState → List PtpEvent → ℕ
  | _, [] => 0
  | s, e :: es => (if EndsPeriod s e then 1 else 0) + periodsEnded (ptpStep s e) es

def PeriodCounts : PtpEvent → Prop
  | .periodic t _ _ _ => RequestDue t s →
    s.receivedPdelay = false ∧ (s.pdelayRequestSent = true ∨ (periodicSending s).2 = true)
  | _ => True

instance (s : PtpState) (e : PtpEvent) : Decidable (PeriodCounts s e) :=
  match e with
  | .recv _ _ _ _ => isTrue trivial
  | .reset _ => isTrue trivial
  | .periodic _ _ _ _ => inferInstanceAs (Decidable (_ → _))

def lossesDue : ℕ :=
  s.delayInfo.lostResponses + (s.pdelayRequestSent || s.receivedPdelay).toNat

lemma lossesDue_le : lossesDue s ≤ s.delayInfo.lostResponses + 1 := by
  unfold lossesDue
  have := Bool.toNat_le (s.pdelayRequestSent || s.receivedPdelay)
  omega

lemma lossesDue_of_vars {s s' : PtpState} (h : pdelayVars s' = pdelayVars s) :
    lossesDue s' = lossesDue s :=
  congrArg (fun v => v.2.1.lostResponses + (v.1.requestSent || v.1.received).toNat) h

section

variable {s : PtpState} {now : ℕ}

lemma lossesDue_recvPdelayResp {ingress : ℕ} {m : PtpMsg}
    (hcap : (recvPdelayResp now ingress m s).asCapable = true) :
    s.delayInfo.lostResponses + 1 ≤ lossesDue (recvPdelayResp now ingress m s) := by
  have hcount : (countLostFollowUp now m s).asCapable = true →
      s.delayInfo.lostResponses ≤ (countLostFollowUp now m s).delayInfo.lostResponses := by
    unfold countLostFollowUp
    split_ifs
    · rcases pdelayReqReset_cases now { s with receivedPdelay := false } with h | ⟨-, h⟩
      · exact fun hcap => absurd (h.symm.trans hcap) Bool.false_ne_true
      · rw [h]
        exact fun _ => Nat.le_succ _
    · exact fun _ => le_rfl
  unfold recvPdelayResp at hcap ⊢
  split_ifs at hcap ⊢
  · rcases pdelayReqReset_cases now (countMultipleResp s) with h | ⟨-, h⟩
    · exact absurd (h.symm.trans hcap) Bool.false_ne_true
    · rw [h]
      exact Nat.le_add_right _ _
  · unfold storePdelayResp at hcap ⊢
    split_ifs at hcap ⊢
    · exact Nat.succ_le_succ (hcount hcap)
    · rcases pdelayReqReset_cases now (countLostFollowUp now m s) with h | ⟨-, h⟩
      · exact absurd (h.symm.trans hcap) Bool.false_ne_true
      · rw [h] at hcap ⊢
        exact (Nat.succ_le_succ (hcount hcap)).trans (Nat.le_add_right _ _)

lemma lossesDue_recvPdelayRespFollowUp {m : PtpMsg}
    (hfits : ¬ (s.receivedPdelay = true ∧ s.receivedPdelayId = m.sequenceId ∧
      m.sourcePortIdentity = s.delayInfo.rcvdSourceIdentity))
    (hcap : (recvPdelayRespFollowUp now m s).asCapable = true) :
    lossesDue s ≤ lossesDue (recvPdelayRespFollowUp now m s) := by
  unfold recvPdelayRespFollowUp at hcap ⊢
  by_cases hwaits : s.receivedPdelay = true
  · rw [if_pos hwaits, if_neg fun h => hfits ⟨hwaits, h⟩] at hcap ⊢
    rcases pdelayReqReset_cases now s with h | ⟨-, h⟩
    · exact absurd (h.symm.trans hcap) Bool.false_ne_true
    · rw [h]
      exact (lossesDue_le s).trans (Nat.le_add_right _ _)
  · rw [if_neg hwaits]
    rw [Bool.not_eq_true] at hwaits
    unfold lossesDue
    rw [hwaits]

lemma lossesDue_periodicPdelayReq {t egress : ℕ} {sending : Bool} (hdue : RequestDue t s)
    (hwaits : s.receivedPdelay = false) (hopen : s.pdelayRequestSent = true ∨ sending = true)
    (hcap : (periodicPdelayReq t now egress sending s).1.asCapable = true) :
    lossesDue s + 1 ≤ lossesDue (periodicPdelayReq t now egress sending s).1 := by
  unfold RequestDue at hdue
  unfold periodicPdelayReq at hcap ⊢
  rw [if_pos hdue] at hcap ⊢
  by_cases hsent : s.pdelayRequestSent = true
  · have hbefore : lossesDue s = s.delayInfo.lostResponses + 1 := by
      unfold lossesDue
      rw [hsent]
      rfl
    have hcount : countUnanswered now s = pdelayReqReset now s := if_pos ⟨hsent, hwaits⟩
    rw [hcount] at hcap ⊢
    rcases pdelayReqReset_cases now s with h | ⟨-, h⟩
    · cases sending <;> exact absurd (h.symm.trans hcap) Bool.false_ne_true
    · rw [h, hbefore]
      cases sending
      · show _ ≤ s.delayInfo.lostResponses + 1 + (s.pdelayRequestSent || s.receivedPdelay).toNat
        rw [hsent]
        exact le_rfl
      · exact le_rfl
  · have hsending : sending = true := hopen.resolve_left hsent
    rw [Bool.not_eq_true] at hsent
    have hbefore : lossesDue s = s.delayInfo.lostResponses := by
      unfold lossesDue
      rw [hsent, hwaits]
      rfl
    have hcount : countUnanswered now s = s :=
      if_neg fun h => absurd (hsent.symm.trans h.1) Bool.false_ne_true
    rw [hcount, hsending, hbefore]
    exact le_rfl

lemma lossesDue_step {e : PtpEvent} (he : ¬ CompletesExchange s e) (hperiod : PeriodCounts s e)
    (hcap : (ptpStep s e).asCapable = true) :
    lossesDue s + (if EndsPeriod s e then 1 else 0) ≤ lossesDue (ptpStep s e) := by
  cases e with
  | recv m ts now egress =>
    rw [if_neg (fun h : EndsPeriod s (.recv m ts now egress) => h), Nat.add_zero]
    by_cases hm : m.transportSpecific = 1 ∧ (m.messageType = 3 ∨ m.messageType = 10)
    · obtain ⟨htransport, htype | htype⟩ := hm
      · rw [ptpStep_pdelayResp htransport htype] at hcap ⊢
        exact (lossesDue_le s).trans (lossesDue_recvPdelayResp hcap)
      · rw [ptpStep_pdelayRespFollowUp htransport htype] at hcap ⊢
        exact lossesDue_recvPdelayRespFollowUp (fun h => he ⟨htransport, htype, h⟩) hcap
    · exact (lossesDue_of_vars (pdelayVars_recv ts now egress hm)).ge
  | reset now =>
    have hclear : (ptpReset now s).asCapable = false := asCapable_resetAscapable now _
    exact absurd (hclear.symm.trans hcap) Bool.false_ne_true
  | periodic t now syncEgress pdelayEgress =>
    have hvars := pdelayVars_ptpPeriodic t now syncEgress pdelayEgress s
    have hbefore := pdelayVars_beforePdelayReq t now syncEgress s
    have hdue := requestDue_beforePdelayReq t now syncEgress s
    rw [lossesDue_of_vars hvars, ← lossesDue_of_vars hbefore]
    split_ifs with hends
    · obtain ⟨hwaits, hopen⟩ := hperiod hends
      refine lossesDue_periodicPdelayReq (hdue.mpr hends) ?_ ?_ ?_
      · exact (congrArg (fun v => v.1.received) hbefore).trans hwaits
      · exact hopen.imp_left (congrArg (fun v => v.1.requestSent) hbefore).trans
      · exact (congrArg (fun v => v.2.1.asCapable) hvars).symm.trans hcap
    · have hnot : ¬ RequestDue t (beforePdelayReq t now syncEgress s) := fun h => hends (hdue.mp h)
      unfold RequestDue at hnot
      unfold periodicPdelayReq
      rw [if_neg hnot]
      exact le_rfl

lemma lossesDue_run {es : List PtpEvent}
    (hg : Run.Guarded ptpStep (fun s e => ¬ CompletesExchange s e ∧ PeriodCounts s e) s es)
    (hcap : (Run.runFrom ptpStep s es).asCapable = true) :
    lossesDue s + periodsEnded s es ≤ lossesDue (Run.runFrom ptpStep s es) := by
  induction es generalizing s with
  | nil => exact le_rfl
  | cons e es ih =>
    obtain ⟨⟨he, hperiod⟩, hrest⟩ := hg
    have hnext := ih hrest hcap
    -- `asCapable` cannot come back, so the first event has kept it
    have hkept : (ptpStep s e).asCapable = true := by
      by_contra hlost
      have hwanes : ∀ s' e, ¬ s'.asCapable = true →
          (¬ CompletesExchange s' e ∧ PeriodCounts s' e) → ¬ (ptpStep s' e).asCapable = true := by
        intro s' e hs he hcap
        rcases (wanes_ptpStep he.1).kept_or_cleared with ⟨h, -⟩ | ⟨h, -⟩
        · exact hs (h.symm.trans hcap)
        · exact hs h
      exact Run.invariant_of_guarded hwanes hlost es hrest hcap
    have hstep := lossesDue_step he hperiod hkept
    show lossesDue s + ((if EndsPeriod s e then 1 else 0) + periodsEnded (ptpStep s e) es) ≤
      lossesDue (Run.runFrom ptpStep (ptpStep s e) es)
    omega

end

/-- `n` calls of `ptp_periodic`, two in each request period, from `t` on. -/
def pollTwicePerPeriod (t n : ℕ) : List PtpEvent :=
  (List.range n).map fun i => .periodic (t + i * 50000001) 0 0 0

def neighbourLostBeforeFollowUp : PtpState :=
  Run.runFrom ptpStep (ptpInit 0 coldPort)
    (pdelayExchange 1 ++ pdelayExchange 2 ++
      [.periodic 300000003 0 0 300000008, .recv (neighbourMessage 3 3) 300000018 0 0])
