/-
# The AVB manager and the talker units

`avb_manager` keeps a record for every source and for every media input.  Its clients
read a record, change it and write it back, and `update_source_state` acts on the change
of state: it maps the inputs of the source and sends commands to the talker unit that the
source belongs to.  The record is stored whatever `update_source_state` makes of it.

Every access to an array whose index or length a client can influence is listed
(`ManagerAct`).  A command that traps in the talker unit ends the run.
-/
import LibTsn.Aecp
import LibTsn.TalkerSend

/-! ## Records -/

/-- `media_info_t` of an input; `none` is `UNMAPPED`. -/
structure MediaInfo where
  clkCtl : ℕ
  mappedTo : Option ℕ
  deriving DecidableEq

/-- What the control protocols change, and what `register_talkers` and the application set up. The
entries of the map are read as unsigned words. -/
structure AvbSourceInfo where
  info : AvbEndpointInfo
  talkerCtl : ℕ
  localId : UInt8
  presentation : ℤ
  map : List ℕ
  deriving DecidableEq

structure AvbManager where
  sources : ℕ → AvbSourceInfo
  inputs : ℕ → MediaInfo

structure ManagerConfig extends AecpConfig where
  maxChannelsPerTalkerStream : ℕ
  maxAudioSampleRate : ℕ

variable (st : TalkerState) (cfg : ManagerConfig) (m : AvbManager)

def ManagerConfig.talkerMaxNumSamplesPerChannel : ℕ :=
  cfg.maxAudioSampleRate / avb1722PacketRate

def ManagerConfig.maxPktBufSizeTalker : ℕ :=
  avbEthernetHdrSize + avbTpHdrSize + avbCipHdrSize +
    cfg.talkerMaxNumSamplesPerChannel * cfg.maxChannelsPerTalkerStream * 4 + 4

/-- The bytes of one `tx_buf`, an array of words. -/
def ManagerConfig.txBufSize : ℕ := 4 * ((cfg.maxPktBufSizeTalker + 3) / 4)

namespace AvbSourceInfo

variable (src : AvbSourceInfo)

def channels : ℕ := src.info.stream.numChannels.toNat

def mapAt (k : ℕ) : ℕ := src.map.getD k 0

def usedInputs : List ℕ := (List.range src.channels).map src.mapAt

def rate (src : AvbSourceInfo) : ℕ := u32 src.info.stream.rate

def change (f : AvbEndpointInfo → AvbEndpointInfo) (src : AvbSourceInfo) : AvbSourceInfo :=
  { src with info := f src.info }

/-- What `configure_talker_stream` sends. -/
def setup (sourceNum : ℕ) : TalkerSetup where
  sampleType := UInt32.ofNat src.info.stream.format.toNat
  destMacAdrs := src.info.reservation.destMacAddr.toList
  streamIdExt := sourceNum
  map := src.usedInputs
  rate := src.rate
  -- `AVB_DEFAULT_PRESENTATION_TIME_DELAY_NS`
  presentationDelay := if src.presentation ≠ 0 then u32 src.presentation else 2000000

end AvbSourceInfo

/-! ## Accesses -/

inductive ManagerAct where
  /-- `source->map[k]`. -/
  | mapRead (k : ℕ)
  /-- `inputs[c]`. -/
  | input (c : ℕ)
  /-- `configure_stream` is called for a stream of so many channels and this rate. -/
  | configured (numChannels rate : ℕ)
  /-- `stream.map[k]` in the talker unit is written. -/
  | streamMap (k : ℕ)
  /-- Bytes of `tx_buf` are written. -/
  | txBuf (offset length : ℕ)
  deriving DecidableEq, Repr

def ManagerAct.Fits : ManagerAct → Prop
  | .mapRead k => k < cfg.maxChannelsPerTalkerStream
  | .input c => c < cfg.numMediaInputs
  | .configured numChannels rate =>
    1 ≤ numChannels ∧ numChannels ≤ cfg.maxChannelsPerTalkerStream ∧
      (tsIntervalOfRate rate).isSome = true ∧ rate ≤ cfg.maxAudioSampleRate
  | .streamMap k => k < cfg.maxChannelsPerTalkerStream
  | .txBuf offset length => offset + length ≤ cfg.txBufSize

instance ManagerAct.decidableFits (cfg : ManagerConfig) (a : ManagerAct) : Decidable (a.Fits cfg) :=
  match a with
  | .mapRead _ => inferInstanceAs (Decidable (_ < _))
  | .input _ => inferInstanceAs (Decidable (_ < _))
  | .configured _ _ => inferInstanceAs (Decidable (_ ∧ _))
  | .streamMap _ => inferInstanceAs (Decidable (_ < _))
  | .txBuf _ _ => inferInstanceAs (Decidable (_ ≤ _))

def AvbSourceInfo.mapAccesses (src : AvbSourceInfo) : List ManagerAct :=
  (List.range src.channels).flatMap fun k => [.mapRead k, .input (src.mapAt k)]

/-- What a command writes in the talker unit: `configure_stream` and `AVB1722_Talker_bufInit`, or
`avb1722_set_buffer_vlan`. -/
def TalkerCmd.acts : TalkerCmd → List ManagerAct
  | .configure _ setup =>
    .configured setup.map.length setup.rate :: (List.range setup.map.length).map .streamMap ++
      [.txBuf bufStart (avbEthernetHdrSize + avbTpHdrSize + avbCipHdrSize)]
  | .setVlan _ _ => [.txBuf (bufStart + 14) 2]
  | _ => []

/-- What `avb1722_create_packet` writes. -/
def createPacketActs (stream : TalkerStreamConfig) : List ManagerAct :=
  .txBuf (sampleDest stream) (4 * stream.numChannels) ::
    if stream.currentSamplesInPacket + 1 = samplesPerChannel stream then
      [.txBuf (cipHdr + 3) 1, .txBuf (avbtpHdr + 20) 2, .txBuf (avbtpHdr + 1) 1,
        .txBuf (avbtpHdr + 12) 4, .txBuf (avbtpHdr + 8) 4, .txBuf (avbtpHdr + 2) 1]
    else []

/-! ## `update_source_state` -/

/-- The assignments to `mapped_to`, for one input after the other. -/
def setMappedTo (inputs : ℕ → MediaInfo) (cs : List ℕ) (mappedTo : Option ℕ) : ℕ → MediaInfo :=
  cs.foldl (fun inputs c => Function.update inputs c { inputs c with mappedTo := mappedTo }) inputs

structure ManagerUpdate where
  manager : AvbManager
  cmds : List TalkerCmd
  acts : List ManagerAct

namespace AvbManager

variable (m : AvbManager) (cfg : ManagerConfig)
variable (i : ℕ) (srpVlan : UInt16) (src : AvbSourceInfo)

def setSource : AvbManager :=
  { m with sources := Function.update m.sources i src }

def configureTalkerStream : ManagerUpdate where
  manager := { m with inputs := setMappedTo m.inputs (m.sources i).usedInputs (some i) }
  cmds := [.configure (m.sources i).localId.toNat ((m.sources i).setup i)]
  acts := (m.sources i).mapAccesses ++ (List.range (m.sources i).channels).map .mapRead

/-- `avb_srp_calculate_max_framesize`, stored in a short. -/
def srpMaxFramesize : UInt16 :=
  UInt16.ofNat (32 + src.channels *
    ((cfg.maxAudioSampleRate + (avb1722PacketRate - 1)) / avb1722PacketRate) * 4)

/-- `valid` in `update_source_state`: there are channels, the VLAN is not negative, and the inputs
are unmapped and have one clock. -/
def sourceValid : Bool :=
  decide (0 < (m.sources i).channels) && decide ((m.sources i).info.reservation.vlanId < 0x8000) &&
    (m.sources i).usedInputs.all fun c =>
      decide ((m.inputs c).mappedTo = none) &&
        decide ((m.inputs c).clkCtl = (m.inputs ((m.sources i).mapAt 0)).clkCtl)

def validActs : List ManagerAct :=
  [.mapRead 0, .input ((m.sources i).mapAt 0)] ++ (m.sources i).mapAccesses

def reserve (x : AvbEndpointInfo) : AvbEndpointInfo :=
  { x with reservation := { x.reservation with
    tspecMaxFrameSize := srpMaxFramesize cfg src
    vlanId := srpVlan } }

def turnOn (m : AvbManager) (i : ℕ) : ManagerUpdate :=
  let u := m.configureTalkerStream i
  { manager := u.manager.setSource i
      ((m.sources i).change (reserve cfg srpVlan (m.sources i)))
    cmds := u.cmds ++ [.setVlan (m.sources i).localId.toNat srpVlan.toNat]
    acts := m.validActs i ++ u.acts }

/-- `update_source_state`, when the record has been stored. -/
def updateSourceState (m : AvbManager) (i : ℕ) (prev state : AvbStreamState) : ManagerUpdate :=
  if prev = .disabled ∧ state = .potential then
    if m.sourceValid i then m.turnOn cfg srpVlan i else ⟨m, [], m.validActs i⟩
  else if prev = .enabled ∧ state = .potential then ⟨m, [.stop (m.sources i).localId.toNat], []⟩
  else if prev = .potential ∧ state = .enabled then
    let u := m.configureTalkerStream i
    { u with cmds := u.cmds ++ [.go (m.sources i).localId.toNat] }
  else if prev ≠ .disabled ∧ state = .disabled then
    ⟨{ m with inputs := setMappedTo m.inputs (m.sources i).usedInputs none },
      [.stop (m.sources i).localId.toNat], (m.sources i).mapAccesses⟩
  else ⟨m, [], []⟩

def setSourceInfo (m : AvbManager) (i : ℕ) (src : AvbSourceInfo) : ManagerUpdate :=
  updateSourceState cfg srpVlan (m.setSource i src) i (m.sources i).info.stream.state
    src.info.stream.state

end AvbManager

/-! ## The system -/

structure AvbSystem where
  manager : AvbManager
  talkers : ℕ → TalkerState

structure SourceUpdate where
  source : ℕ
  change : AvbEndpointInfo → AvbEndpointInfo

namespace AvbSystem

variable (cfg : ManagerConfig) (s : AvbSystem)

def source (i : ℕ) : AvbSourceInfo := s.manager.sources i

def state (s : AvbSystem) (i : ℕ) : AvbStreamState := (s.source i).info.stream.state

def stream (s : AvbSystem) (i : ℕ) : TalkerStreamConfig :=
  ((s.talkers (s.source i).talkerCtl).slots (s.source i).localId.toNat).stream

variable (unit : ℕ) (srpVlan : UInt16)

def managed (s : AvbSystem) (u : SourceUpdate) : ManagerUpdate :=
  s.manager.setSourceInfo cfg srpVlan u.source ((s.source u.source).change u.change)

def carryOut (r : ManagerUpdate) : Option AvbSystem :=
  (r.cmds.foldlM avb1722TalkerHandleCmd (s.talkers unit)).map fun st =>
    ⟨r.manager, Function.update s.talkers unit st⟩

def update (s : AvbSystem) (u : SourceUpdate) : Option AvbSystem :=
  s.carryOut (s.source u.source).talkerCtl (s.managed cfg srpVlan u)

def updateActs (s : AvbSystem) (u : SourceUpdate) : List ManagerAct :=
  let r := s.managed cfg srpVlan u
  r.acts ++ r.cmds.flatMap TalkerCmd.acts

def audio (ti : PtpTimeInfoMod64) (sb : AudioDoubleBuffer) : AvbSystem :=
  { s with talkers :=
      Function.update s.talkers unit (avb1722TalkerSendPackets (s.talkers unit) ti sb).1 }

def audioActs (sb : AudioDoubleBuffer) : List ManagerAct :=
  if sb.dataReady = false then []
  else (List.range (s.talkers unit).visited).flatMap fun j =>
    if ((s.talkers unit).slots j).stream.active = 2 then
      createPacketActs ((s.talkers unit).slots j).stream
    else []

end AvbSystem

/-! ## Clients -/

inductive SourceRequest where
  | setSourceState (i : ℕ) (state : AvbStreamState)
  /-- `avb_srp_listener_join_ind` for the stream of a source: whether the stream may be enabled,
  and whether the listener is ready.  The source computes the first from the Talker Advertise that
  is declared for the stream; here it is left open, so that what follows holds for either value. -/
  | listenerJoinInd (i : ℕ) (enableStream ready : Bool)
  /-- `avb_srp_listener_leave_ind`, with or without a listener on the other port. -/
  | listenerLeaveInd (i : ℕ) (otherPort : Bool)
  | domainJoinInd (vlan : UInt16)
  | onListenerConnect (i : ℕ)
  | onListenerDisconnect (i : ℕ) (connectionCount : ℤ)
  /-- A `SET_STREAM_FORMAT` command. -/
  | setStreamFormat (env : AecpEnv) (pkt : Mem)
  /-- A `START_STREAMING` or a `STOP_STREAMING` command. -/
  | startStopStreaming (env : AecpEnv) (start : Bool) (pkt : Mem)

def setSourceStateUpdates (i : ℕ) (state : AvbStreamState) : List SourceUpdate :=
  if i < cfg.numSources then
    [⟨i, fun x => { x with stream := { x.stream with state := state } }⟩]
  else []

def setSourceVlanUpdates (i : ℕ) (vlan : UInt16) : List SourceUpdate :=
  if i < cfg.numSources then
    [⟨i, fun x => { x with reservation := { x.reservation with vlanId := vlan } }⟩]
  else []

def AecpAct.sourceUpdates : AecpAct → List SourceUpdate
  | .setSourceInfo i info => [⟨i, fun _ => info⟩]
  | .setSourceState i state => setSourceStateUpdates cfg i state
  | _ => []

def AecpEnv.ofManager (env : AecpEnv) (m : AvbManager) : AecpEnv :=
  { env with sourceInfo := fun i => (m.sources i).info }

def SourceRequest.updates : SourceRequest → List SourceUpdate
  | .setSourceState i state => setSourceStateUpdates cfg i state
  | .listenerJoinInd i enableStream ready =>
    if (enableStream && ready) = true ∧ (m.sources i).info.stream.state = .potential then
      setSourceStateUpdates cfg i .enabled
    else []
  | .listenerLeaveInd i otherPort =>
    if (m.sources i).info.stream.state = .enabled ∧ otherPort = false then
      setSourceStateUpdates cfg i .potential
    else []
  | .domainJoinInd vlan =>
    (List.range cfg.numSources).flatMap fun i =>
      if (m.sources i).info.reservation.vlanId = 0 then setSourceVlanUpdates cfg i vlan else []
  | .onListenerConnect i =>
    if (m.sources i).info.stream.state = .disabled then setSourceStateUpdates cfg i .potential
    else []
  | .onListenerDisconnect i connectionCount =>
    if (m.sources i).info.stream.state ≠ .disabled ∧ connectionCount = 0 then
      setSourceStateUpdates cfg i .disabled ++ setSourceVlanUpdates cfg i 0
    else []
  | .setStreamFormat env pkt =>
    (processAemCmdGetsetStreamFormat cfg.toAecpConfig (env.ofManager m) .setStreamFormat
      pkt).2.2.flatMap (AecpAct.sourceUpdates cfg)
  | .startStopStreaming env start pkt =>
    (processAemCmdStartstopStreaming cfg.toAecpConfig (env.ofManager m)
      (if start then .startStreaming else .stopStreaming) pkt).2.2.flatMap
        (AecpAct.sourceUpdates cfg)

inductive AvbEvent where
  | request (r : SourceRequest) (srpVlan : UInt16)
  | audio (unit : ℕ) (ti : PtpTimeInfoMod64) (sb : AudioDoubleBuffer)

namespace AvbSystem

variable (cfg : ManagerConfig)
variable (srpVlan : UInt16) (o : Option AvbSystem) (u : SourceUpdate)

def updateStep : Option AvbSystem :=
  o.bind fun s => s.update cfg srpVlan u

def updateStepActs : List ManagerAct :=
  o.elim [] fun s => s.updateActs cfg srpVlan u

def step : Option AvbSystem → AvbEvent → Option AvbSystem
  | none, _ => none
  | some s, .request r srpVlan =>
    Run.runFrom (updateStep cfg srpVlan) (some s) (r.updates cfg s.manager)
  | some s, .audio unit ti sb => some (s.audio unit ti sb)

def acts : Option AvbSystem → AvbEvent → List ManagerAct
  | none, _ => []
  | some s, .request r srpVlan =>
    Run.outputs (updateStep cfg srpVlan) (updateStepActs cfg srpVlan) (some s)
      (r.updates cfg s.manager)
  | some s, .audio unit _ sb => s.audioActs unit sb

end AvbSystem

section

variable {inputs : ℕ → MediaInfo} {cs : List ℕ} {mappedTo : Option ℕ}

lemma mappedTo_setMappedTo (c : ℕ) : (setMappedTo inputs cs mappedTo c).mappedTo =
      if c ∈ cs then mappedTo else (inputs c).mappedTo := by
  unfold setMappedTo
  induction cs generalizing inputs with
  | nil => rw [List.foldl_nil, if_neg List.not_mem_nil]
  | cons d cs ih =>
    rw [List.foldl_cons, ih]
    by_cases hmem : c ∈ cs
    · rw [if_pos hmem, if_pos (List.mem_cons_of_mem d hmem)]
    rw [if_neg hmem]
    by_cases hcd : c = d
    · rw [hcd, Function.update_self, if_pos List.mem_cons_self]
    · rw [Function.update_of_ne hcd, if_neg (List.not_mem_cons_of_ne_of_not_mem hcd hmem)]

end

namespace AvbManager

variable {cfg : ManagerConfig} {srpVlan : UInt16} {m : AvbManager} {i : ℕ}
  {prev state : AvbStreamState}

lemma updateSourceState_cases {P : ManagerUpdate → Prop}
    (hon : prev = .disabled → state = .potential → m.sourceValid i = true →
      P (m.turnOn cfg srpVlan i))
    (hrefused : prev = .disabled → state = .potential → m.sourceValid i = false →
      P ⟨m, [], m.validActs i⟩)
    (hstop : prev = .enabled → state = .potential → P ⟨m, [.stop (m.sources i).localId.toNat], []⟩)
    (hgo : prev = .potential → state = .enabled →
      P { m.configureTalkerStream i with
        cmds := (m.configureTalkerStream i).cmds ++ [.go (m.sources i).localId.toNat] })
    (hoff : prev ≠ .disabled → state = .disabled →
      P ⟨{ m with inputs := setMappedTo m.inputs (m.sources i).usedInputs none },
        [.stop (m.sources i).localId.toNat], (m.sources i).mapAccesses⟩)
    (hrest : prev = state ∨ prev = .disabled ∧ state = .enabled → P ⟨m, [], []⟩) :
    P (m.updateSourceState cfg srpVlan i prev state) := by
  unfold updateSourceState
  split_ifs with h₁ hvalid h₂ h₃ h₄
  · exact hon h₁.1 h₁.2 hvalid
  · exact hrefused h₁.1 h₁.2 (Bool.eq_false_iff.mpr hvalid)
  · exact hstop h₂.1 h₂.2
  · exact hgo h₃.1 h₃.2
  · exact hoff h₄.1 h₄.2
  · refine hrest ?_
    -- the table leaves these four pairs of states
    cases prev <;> cases state <;> simp_all

end AvbManager

/-! ## What a request does -/

def SourceUpdate.KeepsFormat (u : SourceUpdate) : Prop :=
  ∀ x, (u.change x).stream.numChannels = x.stream.numChannels ∧
    (u.change x).stream.rate = x.stream.rate

/-- The record with the format of a `SET_STREAM_FORMAT` command. -/
def AvbEndpointInfo.withFormat (pkt : Mem) (x : AvbEndpointInfo) : AvbEndpointInfo :=
  { x with stream := { x.stream with
    numChannels := pkt 34
    rate := samplingRateFromSfc (pkt 30).toNat
    format := 0 } }

def SetsFormat (pkt : Mem) : Prop :=
  field16 pkt 24 = AemType.streamOutput ∧ field16 pkt 26 < cfg.numSources ∧
    (m.sources (field16 pkt 26)).info.stream.state ≠ .enabled
  deriving Decidable

section

variable {cfg : ManagerConfig} {m : AvbManager} {u : SourceUpdate}

lemma mem_setSourceStateUpdates {i : ℕ} {state : AvbStreamState}
    (h : u ∈ setSourceStateUpdates cfg i state) : u.source < cfg.numSources ∧ u.KeepsFormat := by
  unfold setSourceStateUpdates at h
  split_ifs at h with hi
  · rw [List.mem_singleton.mp h]
    exact ⟨hi, fun _ => ⟨rfl, rfl⟩⟩
  · cases h

lemma mem_setSourceVlanUpdates {i : ℕ} {vlan : UInt16}
    (h : u ∈ setSourceVlanUpdates cfg i vlan) : u.source < cfg.numSources ∧ u.KeepsFormat := by
  unfold setSourceVlanUpdates at h
  split_ifs at h with hi
  · rw [List.mem_singleton.mp h]
    exact ⟨hi, fun _ => ⟨rfl, rfl⟩⟩
  · cases h

lemma updates_setStreamFormat (env : AecpEnv) (pkt : Mem) :
    SourceRequest.updates cfg m (.setStreamFormat env pkt) =
      if SetsFormat cfg m pkt then
        [⟨field16 pkt 26, fun _ => ((m.sources (field16 pkt 26)).info).withFormat pkt⟩]
      else [] := by
  have htypes : AemType.streamOutput ≠ AemType.streamInput := by decide
  show (processAemCmdGetsetStreamFormat cfg.toAecpConfig (env.ofManager m) .setStreamFormat
    pkt).2.2.flatMap (AecpAct.sourceUpdates cfg) = _
  unfold processAemCmdGetsetStreamFormat
  by_cases hset : SetsFormat cfg m pkt
  · obtain ⟨hout, hi, hstate⟩ := hset
    have hin : field16 pkt 24 ≠ AemType.streamInput := hout ▸ htypes
    have hstream : streamOf cfg.toAecpConfig (env.ofManager m) (field16 pkt 24) (field16 pkt 26) =
        some (m.sources (field16 pkt 26)).info := by
      unfold streamOf
      rw [if_neg (fun h => hin h.1), if_pos ⟨hout, hi⟩]
      rfl
    rw [hstream, if_pos ⟨hout, hi, hstate⟩]
    dsimp only
    rw [if_neg (by decide), if_neg hstate, setStreamOf, if_neg hin]
    rfl
  · rw [if_neg hset]
    cases hstream : streamOf cfg.toAecpConfig (env.ofManager m) (field16 pkt 24)
        (field16 pkt 26) with
    | none => rfl
    | some info =>
      dsimp only
      rw [if_neg (by decide)]
      by_cases hrun : info.stream.state = .enabled
      · rw [if_pos hrun]
        rfl
      rw [if_neg hrun]
      -- only a sink is left
      have hin : field16 pkt 24 = AemType.streamInput := by
        by_contra hin
        unfold streamOf at hstream
        rw [if_neg (fun h => hin h.1)] at hstream
        split_ifs at hstream with hout
        cases hstream
        exact hset ⟨hout.1, hout.2, hrun⟩
      rw [setStreamOf, if_pos hin]
      rfl

lemma mem_updates_startStopStreaming {env : AecpEnv} {start : Bool} {pkt : Mem}
    (h : u ∈ SourceRequest.updates cfg m (.startStopStreaming env start pkt)) :
    ∃ i state, u ∈ setSourceStateUpdates cfg i state := by
  obtain ⟨a, ha, hu⟩ := List.mem_flatMap.mp
    (show u ∈ (processAemCmdStartstopStreaming cfg.toAecpConfig (env.ofManager m)
      (if start then .startStreaming else .stopStreaming) pkt).2.2.flatMap
        (AecpAct.sourceUpdates cfg) from h)
  have hact : ∀ a ∈ (processAemCmdStartstopStreaming cfg.toAecpConfig (env.ofManager m)
      (if start then .startStreaming else .stopStreaming) pkt).2.2,
      (∃ i state, a = .setSinkState i state) ∨ ∃ i state, a = .setSourceState i state := by
    unfold processAemCmdStartstopStreaming
    dsimp only
    split_ifs
    all_goals simp
  rcases hact a ha with ⟨i, state, rfl⟩ | ⟨i, state, rfl⟩
  · cases hu
  · exact ⟨i, state, hu⟩

/-- **Every update** of a request is for a source, and leaves its format alone unless the request
is a `SET_STREAM_FORMAT` command. -/
theorem mem_updates {r : SourceRequest} (h : u ∈ r.updates cfg m) :
    u.source < cfg.numSources ∧ (u.KeepsFormat ∨ ∃ env pkt, r = .setStreamFormat env pkt ∧
      SetsFormat cfg m pkt ∧ u = ⟨field16 pkt 26, fun _ =>
        ((m.sources (field16 pkt 26)).info).withFormat pkt⟩) := by
  have hstate : ∀ {i state} {Q : Prop}, u ∈ setSourceStateUpdates cfg i state →
      u.source < cfg.numSources ∧ (u.KeepsFormat ∨ Q) :=
    fun h => (mem_setSourceStateUpdates h).imp_right Or.inl
  cases r with
  | setSourceState i state => exact hstate h
  | listenerJoinInd i enableStream ready =>
    exact hstate (List.mem_ite_nil_right.mp h).2
  | listenerLeaveInd i otherPort =>
    exact hstate (List.mem_ite_nil_right.mp h).2
  | domainJoinInd vlan =>
    obtain ⟨i, -, hi⟩ := List.mem_flatMap.mp h
    exact (mem_setSourceVlanUpdates (List.mem_ite_nil_right.mp hi).2).imp_right Or.inl
  | onListenerConnect i =>
    exact hstate (List.mem_ite_nil_right.mp h).2
  | onListenerDisconnect i connectionCount =>
    rcases List.mem_append.mp (List.mem_ite_nil_right.mp h).2 with h | h
    · exact hstate h
    · exact (mem_setSourceVlanUpdates h).imp_right Or.inl
  | setStreamFormat env pkt =>
    rw [updates_setStreamFormat] at h
    split_ifs at h with hset
    · rw [List.mem_singleton.mp h]
      exact ⟨hset.2.1, Or.inr ⟨env, pkt, rfl, hset, rfl⟩⟩
    · cases h
  | startStopStreaming env start pkt =>
    obtain ⟨i, state, hu⟩ := mem_updates_startStopStreaming h
    exact hstate hu

end

lemma handleCmd_pair {st st' st'' : TalkerState} {c d : TalkerCmd}
    (hc : avb1722TalkerHandleCmd st c = some st') (hd : avb1722TalkerHandleCmd st' d = some st'') :
    ([c] ++ [d]).foldlM avb1722TalkerHandleCmd st = some st'' := by
  rw [List.singleton_append, List.foldlM_cons, hc]
  show [d].foldlM avb1722TalkerHandleCmd st' = some st''
  rw [List.foldlM_cons, hd]
  rfl

lemma stream_sendFirst (j : ℕ) : ((sendFirst st).1.slots j).stream = (st.slots j).stream := by
  unfold sendFirst
  split
  · rfl
  · rename_i i _
    show (Function.update st.slots i _ j).stream = _
    by_cases hj : j = i
    · rw [hj, Function.update_self]
    · rw [Function.update_of_ne hj]

lemma stream_avb1722TalkerSendPackets (ti : PtpTimeInfoMod64) (sb : AudioDoubleBuffer) (j : ℕ) :
    ((avb1722TalkerSendPackets st ti sb).1.slots j).stream = (st.slots j).stream ∨
      (st.slots j).stream.active = 2 ∧ ∃ frame,
        ((avb1722TalkerSendPackets st ti sb).1.slots j).stream =
          (avb1722CreatePacket st.audioSampleType (st.slots j).txBuf (st.slots j).stream ti
            frame).2.1 := by
  unfold avb1722TalkerSendPackets
  split_ifs
  · exact Or.inl rfl
  · exact Or.inl rfl
  rw [stream_sendFirst]
  unfold buildAll
  dsimp only
  split_ifs
  swap
  · exact Or.inl rfl
  by_cases hactive : (st.slots j).stream.active = 2
  · rw [buildSlot, if_pos hactive]
    exact Or.inr ⟨hactive, _, rfl⟩
  · rw [buildSlot, if_neg hactive]
    exact Or.inl rfl

lemma active_avb1722CreatePacket (t : UInt32) (buf : Mem) (stream : TalkerStreamConfig)
    (ti : PtpTimeInfoMod64) (frame : AudioFrame) :
    (avb1722CreatePacket t buf stream ti frame).2.1.active = stream.active := by
  by_cases h : stream.currentSamplesInPacket + 1 = samplesPerChannel stream
  · rw [avb1722CreatePacket_of_full t buf stream ti frame h]
  · rw [avb1722CreatePacket_of_not_full t buf stream ti frame h]
