/-
# The gPTP port

The state of the one-port gPTP build and its transitions: messages received
(`ptp_recv`), link resets (`ptp_reset`) and the periodic call
(`ptp_periodic`).  A transition also lists the messages it transmits.

Every event carries the readings of the local timer it takes: `now` is what
`get_local_time` returns, and the egress times are what the Ethernet server
returns for a timed transmission.
-/
import LibTsn.Run
import LibTsn.GptpTime
import LibTsn.GptpAnnounce

/-! ## Constants -/

def timerTicksPerSec : ℕ := 100000000

/-- `LOG_SEC_TO_TIMER_TICKS`; a shift by 32 or more leaves nothing. -/
def logSecToTimerTicks (x : ℤ) : ℕ :=
  if x < 0 then timerTicksPerSec >>> x.natAbs else (timerTicksPerSec <<< x.natAbs) % 2 ^ 32

def announcePeriod : ℕ := 100000000

def syncPeriod : ℕ := 12500000

def pdelayReqPeriod : ℕ := 100000000

def recvAnnounceTimeout : ℕ := 300000000

def ptpSyncReceiptTimeoutMultiple : ℕ := 3

def ptpAllowedLostResponses : ℕ := 3

def ptpNeighborPropDelayThreshNs : ℕ := 800

def ptpSyncLockAcceptableVariation : ℤ := 0x100000

def ptpSyncLockStabilityCount : ℕ := 5

def updateReferenceTimestampPeriod : ℤ := 500000000

/-- Five minutes in calls of `ptp_periodic`. -/
def fiveMinutesInPeriodic : ℕ := 5 * 60 * 10000

/-! ## State -/

inductive PtpPortRole where
  | master
  | uncertain
  | slave
  | disabled
  deriving DecidableEq, Repr

structure PathDelay where
  valid : Bool
  pdelay : ℕ
  lostResponses : ℕ
  exchanges : ℕ
  multipleRespCount : ℕ
  lastMultipleRespSeqId : ℕ
  rcvdSourceIdentity : PortIdentity
  deriving DecidableEq, Repr

structure PtpState where
  cfg : ClockConfig
  tileTimerOffset : ℤ
  /-- `PTP_THROW_AWAY_SYNC_OUTLIERS`, a build option. -/
  throwAwaySyncOutliers : Bool
  asCapable : Bool
  roleState : PtpPortRole
  delayInfo : PathDelay
  gPtpAdjust : ℤ
  gInvPtpAdjust : ℤ
  gPtpAdjustValid : Bool
  ptpReferenceLocalTs : ℕ
  ptpReferencePtpTs : PtpTimestamp
  ptpLastGmFreqChange : ℤ
  ptpGmTimebaseInd : ℤ
  masterPortId : PortIdentity
  lastReceivedAnnounceTimeValid : Bool
  lastReceivedAnnounceTime : ℕ
  lastReceivedSyncTime : ℕ
  lastReceiveSyncUpstreamInterval : ℕ
  lastAnnounceTime : ℕ
  lastSyncTime : ℕ
  lastPdelayReqTime : ℕ
  prevAdjustMasterTs : PtpTimestamp
  prevAdjustLocalTs : ℕ
  prevAdjustValid : Bool
  receivedSync : Bool
  receivedSyncId : ℕ
  receivedSyncTs : ℕ
  syncLock : Bool
  syncCount : ℕ
  bestAnnounceMsg : AnnounceMessage
  pdelayEpochTimer : ℕ
  prevPdelayLocalTs : ℕ
  periodicCounter : ℕ
  announceSeqId : ℕ
  syncSeqId : ℕ
  pdelayReqSeqId : ℕ
  pdelayRequestSent : Bool
  pdelayRequestSentTs : ℕ
  receivedPdelay : Bool
  receivedPdelayId : ℕ
  pdelayRespIngressTs : ℕ
  pdelayRequestReceiptTs : PtpTimestamp
  deriving DecidableEq

structure PtpMsg where
  transportSpecific : ℕ
  messageType : ℕ
  correctionField : Vector UInt8 8
  sourcePortIdentity : PortIdentity
  sequenceId : ℕ
  logMessageInterval : ℤ
  announce : AnnounceMessage
  /-- `preciseOriginTimestamp`, `requestReceiptTimestamp` and
  `responseOriginTimestamp`: the first ten bytes of the body. -/
  timestamp : Vector UInt8 10
  requestingPortIdentity : ClockIdentity
  requestingPortId : ℕ
  deriving DecidableEq

inductive PtpTx where
  | announce (source : PortIdentity) (sequenceId : ℕ) (messageLength : ℤ) (msg : AnnounceMessage)
  | sync (sequenceId : ℕ)
  | followUp (sequenceId : ℕ) (origin : PtpTimestamp) (lastGmFreqChange gmTimebaseInd : ℤ)
  | pdelayReq (sequenceId : ℕ)
  | pdelayResp (sequenceId : ℕ) (requesting : PortIdentity) (receipt : PtpTimestamp)
  | pdelayRespFollowUp (sequenceId : ℕ) (origin : PtpTimestamp)
  deriving DecidableEq

/-! ## Roles -/

variable (now : ℕ) (s : PtpState)

def setNewRole (newRole : PtpPortRole) (s : PtpState) : PtpState :=
  match newRole with
  | .slave =>
    { s with
      delayInfo := { s.delayInfo with valid := false }
      gPtpAdjust := 0
      gInvPtpAdjust := 0
      prevAdjustValid := false
      gPtpAdjustValid := false
      lastPdelayReqTime := now
      syncLock := false
      syncCount := 0
      roleState := .slave }
  | .master =>
    { s with
      ptpLastGmFreqChange := s32 (s.gInvPtpAdjust * 2 ^ 11)
      ptpGmTimebaseInd := s32 (s.ptpGmTimebaseInd + 1)
      gPtpAdjust := 0
      gInvPtpAdjust := 0
      lastSyncTime := now
      lastAnnounceTime := now
      roleState := .master
      bestAnnounceMsg := createMyAnnounceMsg s.cfg s.bestAnnounceMsg }
  | .uncertain =>
    { s with
      roleState := .uncertain
      bestAnnounceMsg := createMyAnnounceMsg s.cfg s.bestAnnounceMsg }
  | .disabled => { s with roleState := .disabled }

def setAscapable : PtpState :=
  if s.asCapable then s else setNewRole now .master { s with asCapable := true }

def resetAscapable : PtpState :=
  if s.asCapable then
    setNewRole now .master
      { s with
        asCapable := false
        delayInfo := { s.delayInfo with exchanges := 0, pdelay := 0, valid := false } }
  else s

def pdelayReqReset : PtpState :=
  if s.delayInfo.lostResponses < ptpAllowedLostResponses then
    { s with delayInfo := { s.delayInfo with lostResponses := s.delayInfo.lostResponses + 1 } }
  else resetAscapable now s

variable (masterTs : PtpTimestamp) (m : PtpMsg) (s : PtpState)

def qualifyAnnounce (m : PtpMsg) : Bool :=
  let tlv := min (m.announce.tlvLength.toNat / 8) ptpMaximumPathTraceTlv
  decide (m.sourcePortIdentity.toList.take 8 ≠ s.cfg.myPortId.toList) &&
    decide (m.announce.stepsRemoved.toNat < 255) &&
    (m.announce.pathSequence.toList.take tlv).all
      fun c => decide (compareClockIdentityToMe s.cfg c ≠ 0)

variable (egress : ℕ) (localTs : ℕ) (t : ℕ) (now : ℕ) (m : PtpMsg) (s : PtpState)

def bmcaUpdateRoles : PtpState :=
  let best := newBest s.cfg s.bestAnnounceMsg m.announce
  if best > 0 then
    { setNewRole now .slave
        { s with bestAnnounceMsg := m.announce, masterPortId := m.sourcePortIdentity } with
      lastReceivedAnnounceTimeValid := false
      masterPortId := m.sourcePortIdentity }
  else if best < 0 ∧ s.roleState = .slave then
    { setNewRole now .master s with lastReceivedAnnounceTimeValid := false }
  else s

/-- The `PTP_ANNOUNCE_MESG` case of `ptp_recv`. -/
def recvAnnounce (now ingress : ℕ) (m : PtpMsg) (s : PtpState) : PtpState :=
  if s.asCapable && qualifyAnnounce s m then
    let s := bmcaUpdateRoles now m s
    if s.roleState = .slave ∧ m.sourcePortIdentity = s.masterPortId ∧
        s.bestAnnounceMsg.grandmasterIdentity = m.announce.grandmasterIdentity then
      { s with lastReceivedAnnounceTimeValid := true, lastReceivedAnnounceTime := ingress }
    else s
  else s

/-! ## Sync and Follow_Up -/

/-- The `PTP_SYNC_MESG` case of `ptp_recv`. -/
def recvSync (ingress : ℕ) (m : PtpMsg) (s : PtpState) : PtpState :=
  if s.asCapable && !s.receivedSync && decide (s.roleState = .slave) then
    { s with
      receivedSync := true
      receivedSyncId := m.sequenceId
      receivedSyncTs := ingress
      lastReceivedSyncTime := ingress
      lastReceiveSyncUpstreamInterval := logSecToTimerTicks m.logMessageInterval }
  else s

/-- The sync-lock counter of `update_adjust`; `true` when the lock is lost and
the measurement is dropped. -/
def syncLockStep (diff : ℤ) (s : PtpState) : PtpState × Bool :=
  if s.syncLock = false then
    if diff < ptpSyncLockAcceptableVariation then
      if s.syncCount + 1 > ptpSyncLockStabilityCount then
        ({ s with syncLock := true, syncCount := 0 }, false)
      else ({ s with syncCount := s.syncCount + 1 }, false)
    else ({ s with syncCount := 0 }, false)
  else
    if diff > ptpSyncLockAcceptableVariation then
      if s.syncCount + 1 > ptpSyncLockStabilityCount then
        ({ s with syncLock := false, syncCount := 0, prevAdjustValid := false }, true)
      else ({ s with syncCount := s.syncCount + 1 }, false)
    else ({ s with syncCount := 0 }, false)

/-- The re-averaging of `update_adjust`, with weight 32. -/
def averageAdjust (old new : ℤ) : ℤ := s32 ((s64 (old * 31 + new)).tdiv 32)

/-- The end of `update_adjust`: the measurement becomes the previous one. -/
def keepMeasurement : PtpState :=
  { s with prevAdjustLocalTs := localTs, prevAdjustMasterTs := masterTs, prevAdjustValid := true }

/-- The new rate offsets of `update_adjust`, averaged with the old ones if there
are any; `true` when the sync lock is lost and nothing is taken over. -/
def applyAdjust (adjust invAdjust : ℤ) (s : PtpState) : PtpState × Bool :=
  if s.gPtpAdjustValid then
    let lock := syncLockStep |adjust - s.gPtpAdjust| s
    if lock.2 then lock
    else
      ({ lock.1 with
          gPtpAdjust := averageAdjust s.gPtpAdjust adjust
          gInvPtpAdjust := averageAdjust s.gInvPtpAdjust invAdjust }, false)
  else
    ({ s with gPtpAdjust := s32 adjust, gInvPtpAdjust := s32 invAdjust, gPtpAdjustValid := true },
      false)

def rateOffset (a b c : ℤ) : ℤ := s64 ((s64 (s64 (a - b) * 2 ^ 35)).tdiv c) / 2 ^ 5

def localInterval (localTs prevLocalTs : ℕ) : ℤ :=
  s64 (s32 (s32 localTs - s32 prevLocalTs) * 10)

/-- `update_adjust`; the flag is its return value. -/
def updateAdjust : PtpState × Bool :=
  if s.prevAdjustValid then
    let masterDiff := ptpTimestampDiff masterTs s.prevAdjustMasterTs
    let localDiff := localInterval localTs s.prevAdjustLocalTs
    if s.throwAwaySyncOutliers ∧ (masterDiff > 150000000 ∨ masterDiff < 100000000) then
      ({ s with prevAdjustValid := false }, true)
    else if masterDiff = 0 ∨ localDiff = 0 then
      ({ s with prevAdjustValid := false }, true)
    else
      let out := applyAdjust (rateOffset masterDiff localDiff masterDiff)
        (rateOffset localDiff masterDiff localDiff) s
      if out.2 then out else (keepMeasurement masterTs localTs out.1, false)
  else (keepMeasurement masterTs localTs s, false)

def updateReferenceTimestamps (masterEgressTs : PtpTimestamp) (localIngressTs : ℕ)
    (s : PtpState) : PtpState :=
  { s with
    ptpReferenceLocalTs := localIngressTs
    ptpReferencePtpTs := ptpTimestampOffset64 masterEgressTs s.delayInfo.pdelay }

def masterEgressTs : PtpTimestamp :=
  ptpTimestampOffset64 (networkToPtpTimestamp m.timestamp)
    (s64 (beNat m.correctionField.toList) / 2 ^ 16)

def steer : PtpState :=
  let adjusted := updateAdjust (masterEgressTs m) s.receivedSyncTs s
  if adjusted.2 then adjusted.1
  else updateReferenceTimestamps (masterEgressTs m) s.receivedSyncTs adjusted.1

/-- The `PTP_FOLLOW_UP_MESG` case of `ptp_recv`. -/
def recvFollowUp : PtpState :=
  if s.receivedSync ∧ m.sourcePortIdentity = s.masterPortId then
    if s.receivedSyncId = m.sequenceId then { steer m s with receivedSync := false } else s
  else { s with receivedSync := false }

/-! ## Path delay -/

def measuredDelay (masterIngressTs masterEgressTs : PtpTimestamp)
    (localEgressTs localIngressTs : ℕ) (ptpAdjust : ℤ) : ℤ :=
  let masterDiff := ptpTimestampDiff masterEgressTs masterIngressTs
  let localDiff := localTimeToPtpTime (u32 (s32 (s32 localIngressTs - s32 localEgressTs))) ptpAdjust
  max 0 ((s64 (localDiff - masterDiff)).tdiv 2)

def averagePathDelay (info : PathDelay) (delay : ℤ) : PathDelay :=
  if info.valid then { info with pdelay := u32 (info.pdelay * 31 + s32 delay) / 32 }
  else { info with pdelay := u32 delay, valid := true }

def updatePathDelay (masterIngressTs masterEgressTs : PtpTimestamp)
    (localEgressTs localIngressTs : ℕ) (s : PtpState) : PtpState :=
  let delay :=
    measuredDelay masterIngressTs masterEgressTs localEgressTs localIngressTs s.gPtpAdjust
  { s with delayInfo := averagePathDelay s.delayInfo delay }

def localToEpochTs : PtpState × PtpTimestamp :=
  let timer :=
    if localTs ≤ s.prevPdelayLocalTs then
      (s.pdelayEpochTimer + ((2 ^ 32 - 1 - s.prevPdelayLocalTs) + localTs) % 2 ^ 32) % 2 ^ 64
    else (s.pdelayEpochTimer + (localTs - s.prevPdelayLocalTs)) % 2 ^ 64
  let nanosec := timer * 10 % 2 ^ 64
  let sec := nanosec / nanosecondsPerSecond
  ({ s with pdelayEpochTimer := timer, prevPdelayLocalTs := localTs },
    ⟨sec % 2 ^ 32, sec >>> 32, nanosec % nanosecondsPerSecond⟩)

def onThisTile (ts : ℕ) : ℕ := u32 (ts - s.tileTimerOffset)

def sendPtpPdelayRespMsg (reqIngressTs egress : ℕ) (s : PtpState) : PtpState × List PtpTx :=
  let receipt := localToEpochTs reqIngressTs s
  let response := localToEpochTs (onThisTile s egress) receipt.1
  (response.1, [.pdelayResp m.sequenceId m.sourcePortIdentity receipt.2,
    .pdelayRespFollowUp m.sequenceId response.2])

def SecondResponder : Prop :=
  s.pdelayRequestSent = false ∧ s.receivedPdelay ∧
    m.sourcePortIdentity ≠ s.delayInfo.rcvdSourceIdentity ∧ s.pdelayReqSeqId = m.sequenceId
  deriving Decidable

def countMultipleResp : PtpState :=
  { s with delayInfo := { s.delayInfo with
      multipleRespCount :=
        if s.delayInfo.multipleRespCount = 0 ∨
            s.pdelayReqSeqId = s.delayInfo.lastMultipleRespSeqId + 1 then
          (s.delayInfo.multipleRespCount + 1) % 2 ^ 32
        else 0
      lastMultipleRespSeqId := s.pdelayReqSeqId } }

def countLostFollowUp : PtpState :=
  if s.receivedPdelay ∧ s.pdelayReqSeqId = m.sequenceId then
    pdelayReqReset now { s with receivedPdelay := false }
  else s

def storePdelayResp (now ingress : ℕ) (m : PtpMsg) (s : PtpState) : PtpState :=
  if s.pdelayRequestSent ∧ s.pdelayReqSeqId = m.sequenceId ∧
      m.requestingPortIdentity = s.cfg.myPortId ∧ m.requestingPortId = 1 then
    { s with
      receivedPdelay := true
      receivedPdelayId := m.sequenceId
      pdelayRespIngressTs := ingress
      pdelayRequestReceiptTs := networkToPtpTimestamp m.timestamp
      delayInfo := { s.delayInfo with rcvdSourceIdentity := m.sourcePortIdentity } }
  else pdelayReqReset now s

/-- The `PTP_PDELAY_RESP_MESG` case of `ptp_recv`. -/
def recvPdelayResp (now ingress : ℕ) (m : PtpMsg) (s : PtpState) : PtpState :=
  if SecondResponder m s then pdelayReqReset now (countMultipleResp s)
  else
    { storePdelayResp now ingress m (countLostFollowUp now m s) with pdelayRequestSent := false }

def measureExchange : PtpState :=
  let s := updatePathDelay s.pdelayRequestReceiptTs (networkToPtpTimestamp m.timestamp)
    s.pdelayRequestSentTs s.pdelayRespIngressTs s
  { s with delayInfo := { s.delayInfo with exchanges := (s.delayInfo.exchanges + 1) % 2 ^ 32 } }

def judgeNeighbour : PtpState :=
  if s.delayInfo.valid ∧ s.delayInfo.pdelay ≤ ptpNeighborPropDelayThreshNs ∧
      2 ≤ s.delayInfo.exchanges then setAscapable now s
  else resetAscapable now s

def completeExchange : PtpState :=
  let s := judgeNeighbour now (measureExchange m s)
  { s with delayInfo := { s.delayInfo with lostResponses := 0 } }

/-- The `PTP_PDELAY_RESP_FOLLOW_UP_MESG` case of `ptp_recv`. -/
def recvPdelayRespFollowUp : PtpState :=
  let s :=
    if s.receivedPdelay then
      if s.receivedPdelayId = m.sequenceId ∧
          m.sourcePortIdentity = s.delayInfo.rcvdSourceIdentity then completeExchange now m s
      else pdelayReqReset now s
    else s
  { s with receivedPdelay := false }

/-! ## Events -/

/-- `ptp_recv`.  Message types: Sync 0, Pdelay_Req 2, Pdelay_Resp 3, Follow_Up 8,
Pdelay_Resp_Follow_Up 10, Announce 11. -/
def ptpRecv (ts now egress : ℕ) (s : PtpState) : PtpState × List PtpTx :=
  let ingress := onThisTile s ts
  if m.transportSpecific = 1 then
    match m.messageType with
    | 0 => (recvSync ingress m s, [])
    | 2 => sendPtpPdelayRespMsg m ingress egress s
    | 3 => (recvPdelayResp now ingress m s, [])
    | 8 => (recvFollowUp m s, [])
    | 10 => (recvPdelayRespFollowUp now m s, [])
    | 11 => (recvAnnounce now ingress m s, [])
    | _ => (s, [])
  else (s, [])

def ptpReset : PtpState :=
  let s := setNewRole now .master s
  resetAscapable now
    { s with
      lastReceivedAnnounceTimeValid := false
      delayInfo := { s.delayInfo with multipleRespCount := 0, pdelay := 0, lostResponses := 0 }
      periodicCounter := 0 }

/-- `ptp_init`, from the static variables `s`: the addresses and priorities of
`s.cfg` are what it computes from the MAC address and the server type. -/
def ptpInit : PtpState :=
  { ptpReset now s with pdelayEpochTimer := now }

def myPortIdentity (cfg : ClockConfig) : PortIdentity := cfg.myPortId ++ #v[(0 : UInt8), 1]

/-- The entries of `pathSequence` that `send_ptp_announce_msg` writes when the
best clock is `steps` hops away. -/
def announcePathWrites (steps : ℕ) : List ℕ := List.range (steps + 1)

def sendPtpAnnounceMsg : PtpState × List PtpTx :=
  let best := s.bestAnnounceMsg
  let steps := best.stepsRemoved.toNat
  let seqId := (s.announceSeqId + 1) % 2 ^ 16
  let path := Vector.ofFn fun i : Fin 8 =>
    if i.val = steps then s.cfg.myPortId
    else if i.val < steps then best.pathSequence.get i
    else Vector.replicate 8 0
  ({ s with announceSeqId := seqId },
    [.announce (myPortIdentity s.cfg) seqId (132 - (8 - ((steps : ℤ) + 1)) * 8)
      { best with tlvLength := UInt16.ofNat ((steps + 1) * 8), pathSequence := path }])

def sendPtpSyncMsg : PtpState × List PtpTx :=
  let seqId := (s.syncSeqId + 1) % 2 ^ 16
  let localDiff := u32 (s32 (onThisTile s egress) - s32 s.ptpReferenceLocalTs)
  let origin := ptpTimestampOffset64 s.ptpReferencePtpTs (localTimeToPtpTime localDiff s.gPtpAdjust)
  ({ s with syncSeqId := seqId },
    [.sync seqId, .followUp seqId origin s.ptpLastGmFreqChange s.ptpGmTimebaseInd])

def sendPtpPdelayReqMsg : PtpState × List PtpTx :=
  let seqId := (s.pdelayReqSeqId + 1) % 2 ^ 16
  ({ s with
      pdelayReqSeqId := seqId
      pdelayRequestSentTs := onThisTile s egress
      pdelayRequestSent := true },
    [.pdelayReq seqId])

def periodicUpdateReferenceTimestamps : PtpState :=
  let localDiff := s32 ((t : ℤ) - s.ptpReferenceLocalTs)
  if localDiff > updateReferenceTimestampPeriod then
    { s with
      ptpReferenceLocalTs := t
      ptpReferencePtpTs := ptpTimestampOffset64 s.ptpReferencePtpTs
        (localTimeToPtpTime localDiff.toNat s.gPtpAdjust) }
  else s

def periodicSending : PtpState × Bool :=
  if s.delayInfo.multipleRespCount < 3 then (s, true)
  else if fiveMinutesInPeriodic ≤ s.periodicCounter + 1 then
    ({ s with
        periodicCounter := 0
        delayInfo := { s.delayInfo with multipleRespCount := 0 } }, true)
  else ({ s with periodicCounter := s.periodicCounter + 1 }, false)

def followUpReceiptTimeout : PtpState :=
  if s.receivedSync ∧ s.roleState = .slave ∧
      timeafter t (s.lastReceivedSyncTime + s.lastReceiveSyncUpstreamInterval) then
    { s with receivedSync := false }
  else s

def ReceiptTimeout : Prop :=
  (s.lastReceivedAnnounceTimeValid ∧
      timeafter t (s.lastReceivedAnnounceTime + recvAnnounceTimeout)) ∨
    (s.receivedSync ∧ s.roleState = .slave ∧
      timeafter t (s.lastReceivedSyncTime +
        s.lastReceiveSyncUpstreamInterval * ptpSyncReceiptTimeoutMultiple))
  deriving Decidable

def forgetMaster : PtpState :=
  { s with
    receivedSync := false
    lastReceivedAnnounceTime := t
    lastAnnounceTime := u32 ((t : ℤ) - announcePeriod - 1)
    lastReceivedAnnounceTimeValid := false }

def receiptTimeout (t now : ℕ) (s : PtpState) : PtpState :=
  if ReceiptTimeout t s then
    if s.roleState = .slave then setNewRole now .uncertain (forgetMaster t s)
    else forgetMaster t s
  else s

/-- The receipt timeouts of `ptp_periodic`. -/
def periodicTimeouts (t now : ℕ) (s : PtpState) : PtpState :=
  receiptTimeout t now (followUpReceiptTimeout t s)

def periodicAnnounce (role : PtpPortRole) (asCapable : Bool) (s : PtpState) :
    PtpState × List PtpTx :=
  if asCapable ∧ (role = .master ∨ role = .uncertain) ∧
      timeafter t (s.lastAnnounceTime + announcePeriod) then
    let out := sendPtpAnnounceMsg s
    ({ out.1 with lastAnnounceTime := t }, out.2)
  else (s, [])

def periodicSync (t egress : ℕ) (role : PtpPortRole) (asCapable : Bool) (s : PtpState) :
    PtpState × List PtpTx :=
  if asCapable ∧ role = .master ∧ timeafter t (s.lastSyncTime + syncPeriod) then
    let out := sendPtpSyncMsg egress s
    ({ out.1 with lastSyncTime := t }, out.2)
  else (s, [])

def countUnanswered : PtpState :=
  if s.pdelayRequestSent ∧ s.receivedPdelay = false then pdelayReqReset now s else s

def periodicPdelayReq (t now egress : ℕ) (sending : Bool) (s : PtpState) : PtpState × List PtpTx :=
  if timeafter t (s.lastPdelayReqTime + pdelayReqPeriod) then
    let out :=
      if sending then sendPtpPdelayReqMsg egress (countUnanswered now s)
      else (countUnanswered now s, [])
    ({ out.1 with lastPdelayReqTime := t }, out.2)
  else (s, [])

/-- `ptp_periodic`.  Role and `asCapable` are read once, at the start. -/
def ptpPeriodic (t now syncEgress pdelayEgress : ℕ) (s : PtpState) : PtpState × List PtpTx :=
  let role := s.roleState
  let asCapable := s.asCapable
  let sending := periodicSending s
  let s := periodicTimeouts t now sending.1
  let announce := periodicAnnounce t role asCapable s
  let sync := periodicSync t syncEgress role asCapable announce.1
  let pdelay := periodicPdelayReq t now pdelayEgress sending.2 sync.1
  (periodicUpdateReferenceTimestamps t pdelay.1, announce.2 ++ sync.2 ++ pdelay.2)

inductive PtpEvent where
  | recv (m : PtpMsg) (ts now egress : ℕ)
  | reset (now : ℕ)
  | periodic (t now syncEgress pdelayEgress : ℕ)

def ptpEvent : PtpEvent → PtpState × List PtpTx
  | .recv m ts now egress => ptpRecv m ts now egress s
  | .reset now => (ptpReset now s, [])
  | .periodic t now syncEgress pdelayEgress => ptpPeriodic t now syncEgress pdelayEgress s

def ptpStep (e : PtpEvent) : PtpState := (ptpEvent s e).1

/-! ## What the helpers write -/

/-- `s` with the clock, the periods of Announce and Sync and the multiple-response count of `s'`. -/
def PtpState.withClock (s s' : PtpState) : PtpState :=
  { s with
    gPtpAdjust := s'.gPtpAdjust
    gInvPtpAdjust := s'.gInvPtpAdjust
    gPtpAdjustValid := s'.gPtpAdjustValid
    ptpReferenceLocalTs := s'.ptpReferenceLocalTs
    ptpReferencePtpTs := s'.ptpReferencePtpTs
    prevAdjustMasterTs := s'.prevAdjustMasterTs
    prevAdjustLocalTs := s'.prevAdjustLocalTs
    prevAdjustValid := s'.prevAdjustValid
    syncLock := s'.syncLock
    syncCount := s'.syncCount
    lastAnnounceTime := s'.lastAnnounceTime
    lastSyncTime := s'.lastSyncTime
    announceSeqId := s'.announceSeqId
    syncSeqId := s'.syncSeqId
    periodicCounter := s'.periodicCounter
    delayInfo := { s.delayInfo with multipleRespCount := s'.delayInfo.multipleRespCount } }

/-- `s` with the role and all that a change of role or of `asCapable` writes, taken from `s'`. -/
def PtpState.withRole (s s' : PtpState) : PtpState :=
  { s.withClock s' with
    asCapable := s'.asCapable
    roleState := s'.roleState
    bestAnnounceMsg := s'.bestAnnounceMsg
    lastPdelayReqTime := s'.lastPdelayReqTime
    ptpLastGmFreqChange := s'.ptpLastGmFreqChange
    ptpGmTimebaseInd := s'.ptpGmTimebaseInd
    delayInfo := { s'.delayInfo with rcvdSourceIdentity := s.delayInfo.rcvdSourceIdentity } }

/-- Nothing but the clock differs. -/
def OnlyClock (s s' : PtpState) : Prop := s' = s.withClock s'

/-- Nothing but the role, and what changes with it, differs. -/
def OnlyRole (s s' : PtpState) : Prop := s' = s.withRole s'

section Frames

variable {s s' s'' : PtpState}

/-- What does not look at the clock is unchanged. -/
lemma OnlyClock.view {α : Type} {f : PtpState → α} (h : OnlyClock s s')
    (hf : ∀ s s', f (s.withClock s') = f s) : f s' = f s :=
  (congrArg f h).trans (hf s s')

/-- What does not look at the role is unchanged. -/
lemma OnlyRole.view {α : Type} {f : PtpState → α} (h : OnlyRole s s')
    (hf : ∀ s s', f (s.withRole s') = f s) : f s' = f s :=
  (congrArg f h).trans (hf s s')

lemma OnlyClock.trans (h : OnlyClock s s') (h' : OnlyClock s' s'') : OnlyClock s s'' := by
  have hkept := congrArg (PtpState.withClock · s'') h
  exact Eq.trans h' hkept

lemma OnlyRole.trans (h : OnlyRole s s') (h' : OnlyRole s' s'') : OnlyRole s s'' := by
  have hkept := congrArg (PtpState.withRole · s'') h
  exact Eq.trans h' hkept

lemma onlyClock_steer (m : PtpMsg) (s : PtpState) : OnlyClock s (steer m s) := by
  have hlock : ∀ diff, OnlyClock s (syncLockStep diff s).1 := by
    intro diff
    unfold syncLockStep
    split_ifs <;> rfl
  have happly : ∀ adjust invAdjust, OnlyClock s (applyAdjust adjust invAdjust s).1 := by
    intro adjust invAdjust
    unfold applyAdjust
    dsimp only
    split_ifs
    · exact hlock _
    · exact (hlock _).trans rfl
    · rfl
  have hadjust : ∀ masterTs localTs, OnlyClock s (updateAdjust masterTs localTs s).1 := by
    intro masterTs localTs
    unfold updateAdjust
    dsimp only
    split_ifs
    · rfl
    · rfl
    · exact happly _ _
    · exact (happly _ _).trans rfl
    · rfl
  unfold steer
  dsimp only
  split_ifs
  · exact hadjust _ _
  · exact (hadjust _ _).trans rfl

lemma onlyClock_periodicSending (s : PtpState) : OnlyClock s (periodicSending s).1 := by
  unfold periodicSending
  split_ifs <;> rfl

lemma onlyClock_periodicAnnounce (t : ℕ) (role : PtpPortRole) (asCapable : Bool) (s : PtpState) :
    OnlyClock s (periodicAnnounce t role asCapable s).1 := by
  unfold periodicAnnounce
  split_ifs <;> rfl

lemma onlyClock_periodicSync (t egress : ℕ) (role : PtpPortRole) (asCapable : Bool)
    (s : PtpState) : OnlyClock s (periodicSync t egress role asCapable s).1 := by
  unfold periodicSync
  split_ifs <;> rfl

lemma onlyClock_periodicUpdateReferenceTimestamps (t : ℕ) (s : PtpState) :
    OnlyClock s (periodicUpdateReferenceTimestamps t s) := by
  unfold periodicUpdateReferenceTimestamps
  dsimp only
  split_ifs <;> rfl

variable (now : ℕ)

lemma onlyRole_setNewRole (role : PtpPortRole) (s : PtpState) :
    OnlyRole s (setNewRole now role s) := by
  cases role <;> rfl

lemma onlyRole_setAscapable (s : PtpState) : OnlyRole s (setAscapable now s) := by
  unfold setAscapable
  split_ifs <;> rfl

lemma onlyRole_resetAscapable (s : PtpState) : OnlyRole s (resetAscapable now s) := by
  unfold resetAscapable
  split_ifs <;> rfl

lemma onlyRole_pdelayReqReset (s : PtpState) : OnlyRole s (pdelayReqReset now s) := by
  unfold pdelayReqReset
  split_ifs
  · rfl
  · exact onlyRole_resetAscapable now s

lemma onlyRole_completeExchange (m : PtpMsg) (s : PtpState) :
    OnlyRole s (completeExchange now m s) := by
  have hdelay : ∀ info : PathDelay, info.rcvdSourceIdentity = s.delayInfo.rcvdSourceIdentity →
      OnlyRole s { s with delayInfo := info } := by
    intro info hsource
    unfold OnlyRole PtpState.withRole
    rw [← hsource]
    rfl
  have hmeasure : OnlyRole s (measureExchange m s) := by
    refine hdelay _ ?_
    unfold updatePathDelay averagePathDelay
    dsimp only
    split_ifs <;> rfl
  have hjudge : ∀ s, OnlyRole s (judgeNeighbour now s) := by
    intro s
    unfold judgeNeighbour
    split_ifs
    · exact onlyRole_setAscapable now s
    · exact onlyRole_resetAscapable now s
  exact (hmeasure.trans (hjudge _)).trans rfl

lemma onlyRole_countUnanswered (s : PtpState) : OnlyRole s (countUnanswered now s) := by
  unfold countUnanswered
  split_ifs
  · exact onlyRole_pdelayReqReset now s
  · rfl

end Frames
