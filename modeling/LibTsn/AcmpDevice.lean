/-
# The device with its default hooks

The ACMP machines together with the sinks and the sources of the AVB manager, and the
application hooks as the core stack provides them.  What a periodic call learns about a
sink or a source (`AcmpEnv`) is read from its record, and the hooks it calls change the
records.

`AVB_1722_1_MAX_LISTENERS` and `AVB_1722_1_MAX_TALKERS` are the numbers of sinks and of
sources, so that a unique id in range is the number of a record.  What the manager asks of
SRP for a stream that is turned on is answered from outside with a VLAN.
-/
import LibTsn.AcmpLiveness
import LibTsn.AvbInfo

/-! ## Sinks and sources -/

variable (state : AvbStreamState) (srpVlan : UInt16) (x : AvbEndpointInfo)

/-- `set_sink_state` and `set_source_state`.  A stream that is turned on gets the VLAN that
SRP answers. -/
def AvbEndpointInfo.setState : AvbEndpointInfo :=
  let y := { x with stream := { x.stream with state := state } }
  if x.stream.state = .disabled ∧ state = .potential then
    { y with reservation := { y.reservation with vlanId := srpVlan } }
  else y

@[simp] lemma AvbEndpointInfo.state_setState : (x.setState state srpVlan).stream.state = state := by
  unfold setState
  split_ifs <;> rfl

def AvbEndpointInfo.streamId : UInt64 :=
  (x.reservation.streamId0.toUInt64 <<< 32) + x.reservation.streamId1.toUInt64

def AvbEndpointInfo.setDisabled (f : AvbSrpInfo → AvbSrpInfo) (x : AvbEndpointInfo) :
    AvbEndpointInfo :=
  if x.stream.state ≠ .disabled then x else { x with reservation := f x.reservation }

def AvbEndpointInfo.setSinkId (id : UInt64) (x : AvbEndpointInfo) : AvbEndpointInfo :=
  x.setDisabled fun r => { r with streamId0 := (id >>> 32).toUInt32, streamId1 := id.toUInt32 }

def AvbEndpointInfo.setSinkAddr (addr : Vector UInt8 6) (x : AvbEndpointInfo) : AvbEndpointInfo :=
  x.setDisabled fun r => { r with destMacAddr := addr }

def AvbEndpointInfo.setSinkVlan (vlan : UInt16) (x : AvbEndpointInfo) : AvbEndpointInfo :=
  x.setDisabled fun r => { r with vlanId := vlan }

/-- `avb_listener_on_talker_connect_default`, for the record of its sink. -/
def avbListenerOnTalkerConnectDefault (destAddr : Vector UInt8 6) (streamId : UInt64)
    (vlanId srpVlan : UInt16) (x : AvbEndpointInfo) : AvbEndpointInfo :=
  let x := if x.streamId ≠ streamId then x.setState .disabled srpVlan else x
  (((x.setSinkId streamId).setSinkAddr destAddr).setSinkVlan vlanId).setState .potential srpVlan

def avbListenerOnTalkerDisconnectDefault : AvbEndpointInfo :=
  x.setState .disabled srpVlan

/-- `avb_talker_on_listener_connect_default`, for the record of its source.  The stream id it
sets in the table of the talker is in `AcmpDevice.answer`. -/
def avbTalkerOnListenerConnectDefault : AvbEndpointInfo :=
  if x.stream.state = .disabled then x.setState .potential srpVlan else x

def avbTalkerOnListenerDisconnectDefault (connectionCount : ℤ) (srpVlan : UInt16)
    (x : AvbEndpointInfo) : AvbEndpointInfo :=
  if x.stream.state ≠ .disabled ∧ connectionCount = 0 then
    let x := x.setState .disabled srpVlan
    { x with reservation := { x.reservation with vlanId := 0 } }
  else x

/-! ## The device -/

structure AcmpDevice where
  acmp : AcmpState
  sinks : ℕ → AvbEndpointInfo
  sources : ℕ → AvbEndpointInfo

namespace AcmpDevice

variable (srpVlan : UInt16) (cfg : AcmpConfig) (d : AcmpDevice)

def answer (env : AcmpEnv) : AcmpEnv :=
  let sink := d.sinks d.acmp.listener.cmdResp.listenerUniqueId.toNat
  let source := d.sources d.acmp.talkerRcvdCmdResp.talkerUniqueId.toNat
  { env with
    sinkReserved := decide (sink.stream.state ≠ .disabled)
    connectStatus := AcmpStatus.success
    sourceStreamId := if source.stream.state = .disabled then some source.streamId else none }

def answered : AcmpEvent → AcmpEvent
  | .controllerPeriodic env => .controllerPeriodic (d.answer env)
  | .talkerPeriodic env => .talkerPeriodic (d.answer env)
  | .listenerPeriodic env => .listenerPeriodic (d.answer env)
  | e => e

variable (e : Event) (i : ℕ) (f : AvbEndpointInfo → AvbEndpointInfo)

def changeSink : AcmpDevice :=
  { d with sinks := Function.update d.sinks i (f (d.sinks i)) }

def changeSource : AcmpDevice :=
  { d with sources := Function.update d.sources i (f (d.sources i)) }

def hook (srpVlan : UInt16) (d : AcmpDevice) : AcmpOut → AcmpDevice
  | .listenerOnTalkerConnect sink _ destMac streamId vlanId =>
    d.changeSink sink.toNat (avbListenerOnTalkerConnectDefault destMac streamId vlanId srpVlan)
  | .listenerOnTalkerDisconnect sink _ _ _ =>
    d.changeSink sink.toNat (avbListenerOnTalkerDisconnectDefault srpVlan)
  | .talkerOnListenerConnect source _ =>
    d.changeSource source.toNat (avbTalkerOnListenerConnectDefault srpVlan)
  | .talkerOnListenerDisconnect source _ connectionCount =>
    d.changeSource source.toNat (avbTalkerOnListenerDisconnectDefault connectionCount srpVlan)
  | _ => d

abbrev Event := AcmpEvent × UInt16

def outputs : List AcmpOut :=
  (acmpEvent cfg d.acmp (d.answered e.1)).2

def step : AcmpDevice :=
  (d.outputs cfg e).foldl (hook e.2) { d with acmp := acmpStep cfg d.acmp (d.answered e.1) }

def init (now : ℕ) (d : AcmpDevice) : AcmpDevice :=
  { d with acmp := acmpInit cfg now d.acmp }

@[simp] lemma acmp_hook (o : AcmpOut) : (d.hook srpVlan o).acmp = d.acmp := by
  cases o <;> rfl

lemma acmp_foldl_hook (outs : List AcmpOut) (d : AcmpDevice) :
    (outs.foldl (hook srpVlan) d).acmp = d.acmp := by
  induction outs generalizing d with
  | nil => rfl
  | cons o outs ih => rw [List.foldl_cons, ih, acmp_hook]

lemma acmp_step : (d.step cfg e).acmp = acmpStep cfg d.acmp (d.answered e.1) :=
  acmp_foldl_hook _ _ _

lemma state_avbListenerOnTalkerConnectDefault (destAddr : Vector UInt8 6) (streamId : UInt64)
    (vlanId srpVlan : UInt16) (x : AvbEndpointInfo) :
    (avbListenerOnTalkerConnectDefault destAddr streamId vlanId srpVlan x).stream.state
      = .potential := by
  exact AvbEndpointInfo.state_setState _ _ _

end AcmpDevice

/-! ## Commands in flight -/

variable {env : AcmpEnv} (cfg : AcmpConfig) (s : AcmpState) (ent : AcmpEntity)
variable (flags : UInt16) (status : ℕ) (messageType : ℕ) (i : ℕ) (f : AcmpInflight)

def AcmpEntity.Answers : Prop :=
  f.inUse = true ∧ f.command.sequenceId = ent.cmdResp.sequenceId
  deriving Decidable

def AcmpEntity.finish : AcmpEntity :=
  { ent with inflightCommands := ent.inflightCommands.modify i ({ · with inUse := false }) }

lemma acmpRemoveInflight_cases :
    (acmpRemoveInflight ent = (ent, none) ∧ ∀ f ∈ ent.inflightCommands, ¬ ent.Answers f) ∨
    ∃ i f, ent.inflightCommands[i]? = some f ∧ ent.Answers f ∧
      acmpRemoveInflight ent = (ent.finish i, some f) := by
  unfold acmpRemoveInflight acmpGetInflightFromSequenceId
  cases hfind : ent.inflightCommands.findIdx? fun f =>
      f.inUse && decide (f.command.sequenceId = ent.cmdResp.sequenceId) with
  | none =>
    refine Or.inl ⟨rfl, fun f hf h => ?_⟩
    have hno := List.findIdx?_eq_none_iff.mp hfind f hf
    rw [h.1, decide_eq_true h.2] at hno
    cases hno
  | some i =>
    obtain ⟨hi, htest, -⟩ := List.findIdx?_eq_some_iff_getElem.mp hfind
    obtain ⟨huse, hid⟩ := Bool.and_eq_true_iff.mp htest
    have hget : ent.inflightCommands[i]? = some ent.inflightCommands[i] :=
      List.getElem?_eq_getElem hi
    refine Or.inr ⟨i, _, hget, ⟨huse, of_decide_eq_true hid⟩, ?_⟩
    exact congrArg (Prod.mk (ent.finish i)) hget

def acmpListenerFinish (s : AcmpState) : AcmpState :=
  updateListenerCmdResp (fun r => { r with sequenceId := f.originalSequenceId })
    { s with listener := s.listener.finish i }

def acmpListenerDone : AcmpState :=
  { updateListenerCmdResp (fun r => { r with status := AcmpStatus.success }) s with
    listenerState := .waiting }

lemma acmpListenerRemoveInflight_cases : (acmpListenerRemoveInflight s = (s, false) ∧
      ∀ f ∈ s.listener.inflightCommands, ¬ s.listener.Answers f) ∨
    ∃ i f, s.listener.inflightCommands[i]? = some f ∧ s.listener.Answers f ∧
      acmpListenerRemoveInflight s = (acmpListenerFinish i f s, true) := by
  unfold acmpListenerRemoveInflight
  rcases acmpRemoveInflight_cases s.listener with ⟨heq, hno⟩ | ⟨i, f, hf, hans, heq⟩
  · rw [heq]
    exact Or.inl ⟨rfl, hno⟩
  · rw [heq]
    exact Or.inr ⟨i, f, hf, hans, rfl⟩

lemma acmpListenerConnectTx_cases (env : AcmpEnv) (s : AcmpState) :
    (¬ acmpListenerValidListenerUnique cfg s = true ∧ acmpListenerConnectTx cfg env s = (s, [])) ∨
    acmpListenerValidListenerUnique cfg s = true ∧
      (((∀ f ∈ s.listener.inflightCommands, ¬ s.listener.Answers f) ∧
        acmpListenerConnectTx cfg env s = (acmpListenerAfterConnect cfg s, [])) ∨
      ∃ i f, s.listener.inflightCommands[i]? = some f ∧ s.listener.Answers f ∧
        acmpListenerConnectTx cfg env s =
          (acmpListenerAfterConnect cfg (acmpListenerConnected env (acmpListenerFinish i f s)).1,
            (acmpListenerConnected env (acmpListenerFinish i f s)).2)) := by
  unfold acmpListenerConnectTx acmpListenerAnswerConnect
  by_cases hvalid : acmpListenerValidListenerUnique cfg s = true
  swap
  · rw [if_neg hvalid]
    exact Or.inl ⟨hvalid, rfl⟩
  rw [if_pos hvalid]
  refine Or.inr ⟨hvalid, ?_⟩
  rcases acmpListenerRemoveInflight_cases s with ⟨heq, hno⟩ | ⟨i, f, hf, hans, heq⟩
  · rw [heq]
    exact Or.inl ⟨hno, rfl⟩
  · rw [heq]
    exact Or.inr ⟨i, f, hf, hans, rfl⟩

lemma acmpListenerDisconnectTx_cases :
    (¬ acmpListenerValidListenerUnique cfg s = true ∧ acmpListenerDisconnectTx cfg s = (s, [])) ∨
    acmpListenerValidListenerUnique cfg s = true ∧
      (((∀ f ∈ s.listener.inflightCommands, ¬ s.listener.Answers f) ∧
        acmpListenerDisconnectTx cfg s = (acmpListenerDone s, [])) ∨
      ∃ i f, s.listener.inflightCommands[i]? = some f ∧ s.listener.Answers f ∧
        acmpListenerDisconnectTx cfg s =
          (acmpListenerDone (acmpZeroListenerStreamInfo (acmpListenerFinish i f s)),
            [acmpSendResponse AcmpCmd.disconnectRxResponse
              (acmpListenerFinish i f s).listener.cmdResp
              (acmpListenerFinish i f s).listener.cmdResp.status])) := by
  unfold acmpListenerDisconnectTx acmpListenerAnswerDisconnect
  by_cases hvalid : acmpListenerValidListenerUnique cfg s = true
  swap
  · rw [if_neg hvalid]
    exact Or.inl ⟨hvalid, rfl⟩
  rw [if_pos hvalid]
  refine Or.inr ⟨hvalid, ?_⟩
  rcases acmpListenerRemoveInflight_cases s with ⟨heq, hno⟩ | ⟨i, f, hf, hans, heq⟩
  · rw [heq]
    exact Or.inl ⟨hno, rfl⟩
  · rw [heq]
    exact Or.inr ⟨i, f, hf, hans, rfl⟩

lemma acmpListenerConnected_of_classA {s : AcmpState}
    (hclass : s.listener.cmdResp.flags &&& acmpFlagsClassB = 0) : acmpListenerConnected env s =
      (acmpAddListenerStreamInfo
        (updateListenerCmdResp (fun r => { r with status := env.connectStatus }) s),
      [.listenerOnTalkerConnect s.listener.cmdResp.listenerUniqueId s.listener.cmdResp.talkerGuid
          s.listener.cmdResp.streamDestMac s.listener.cmdResp.streamId s.listener.cmdResp.vlanId,
        acmpSendResponse AcmpCmd.connectRxResponse
          { s.listener.cmdResp with status := env.connectStatus } env.connectStatus]) := by
  unfold acmpListenerConnected
  rw [if_neg (not_not.mpr hclass)]

lemma acmpListenerConnected_of_classB {s : AcmpState}
    (hclass : s.listener.cmdResp.flags &&& acmpFlagsClassB ≠ 0) : acmpListenerConnected env s =
      (s, [acmpSendResponse AcmpCmd.connectRxResponse s.listener.cmdResp
        AcmpStatus.incompatibleRequest]) := by
  unfold acmpListenerConnected
  rw [if_pos hclass]

/-! ## A talker's refusal -/

def sentResponses (outs : List AcmpOut) : List AcmpCmdResp :=
  outs.filterMap fun
    | .packet p => if p.messageType = messageType then some p else none
    | _ => none

namespace AcmpDevice

variable (cfg : AcmpConfig) (d : AcmpDevice) (p : AcmpCmdResp)

def takes (srpVlan : UInt16) : AcmpDevice :=
  d.step cfg (.packet p, srpVlan)

/-- **The refusal is passed on.**  Of the call that deals with the response, one answer goes
to the controller, with the talker's status; sink and table entry are as before. -/
def RefusalPassedOn (env : AcmpEnv) (srpVlan : UInt16) : Prop :=
  let taken := d.takes cfg p srpVlan
  let after := taken.step cfg (.listenerPeriodic env, srpVlan)
  let outs := taken.outputs cfg (.listenerPeriodic env, srpVlan)
  let sink := p.listenerUniqueId.toNat
  (sentResponses AcmpCmd.connectRxResponse outs).map AcmpCmdResp.status = [p.status] ∧
    (after.sinks sink).stream.state = (d.sinks sink).stream.state ∧
    after.acmp.listenerStreams[sink]? = d.acmp.listenerStreams[sink]?

/-- The response is for a `CONNECT_TX_COMMAND` that is in flight. -/
def AnswersConnect : Prop :=
  ∃ f ∈ d.acmp.listener.inflightCommands, f.inUse = true ∧
    f.command.sequenceId = p.sequenceId ∧ f.command.messageType = AcmpCmd.connectTxCommand

def heldResponse : AcmpState :=
  { d.acmp with
    listener := { d.acmp.listener with cmdResp := p }
    listenerState := .connectTxResponse }

lemma takes_eq {cfg : AcmpConfig} {d : AcmpDevice} {p : AcmpCmdResp} (srpVlan : UInt16)
    (hwait : d.acmp.listenerState = .waiting) (hguid : p.listenerGuid = cfg.myGuid)
    (htype : p.messageType = AcmpCmd.connectTxResponse) :
    d.takes cfg p srpVlan = { d with acmp := d.heldResponse p } := by
  have hpacket : processAcmpPacket cfg p d.acmp = d.heldResponse p := by
    unfold processAcmpPacket
    rw [htype]
    unfold processAcmpListenerPacket
    rw [if_neg (not_not.mpr hguid), if_neg (not_not.mpr hwait), htype]
    rfl
  show ({ d with acmp := processAcmpPacket cfg p d.acmp } : AcmpDevice) = _
  rw [hpacket]

/-- **A talker's refusal** of a connection in flight reaches the controller and changes nothing
exactly when the unique id is in range, the response is for class B, and the refusal is
`INCOMPATIBLE_REQUEST`: every other refusal is answered with success and connects the sink. -/
theorem talker_refusal_passed_on_iff (cfg : AcmpConfig) (d : AcmpDevice) (p : AcmpCmdResp)
    (env : AcmpEnv) (srpVlan : UInt16) (hwait : d.acmp.listenerState = .waiting)
    (hguid : p.listenerGuid = cfg.myGuid) (htype : p.messageType = AcmpCmd.connectTxResponse)
    (hrefused : p.status ≠ AcmpStatus.success) (hanswers : d.AnswersConnect p) :
    d.RefusalPassedOn cfg p env srpVlan ↔
      p.listenerUniqueId.toNat < cfg.maxListeners ∧ p.flags &&& acmpFlagsClassB ≠ 0 ∧
        p.status = AcmpStatus.incompatibleRequest := by
  unfold RefusalPassedOn
  rw [takes_eq srpVlan hwait hguid htype]
  dsimp only
  set held : AcmpDevice := { d with acmp := d.heldResponse p } with hheld
  have hperiodic : acmpEvent cfg held.acmp (held.answered (.listenerPeriodic env)) =
      acmpListenerConnectTx cfg (held.answer env) held.acmp := rfl
  have hout : held.outputs cfg (.listenerPeriodic env, srpVlan) =
      (acmpListenerConnectTx cfg (held.answer env) held.acmp).2 := congrArg Prod.snd hperiodic
  have hstep : held.step cfg (.listenerPeriodic env, srpVlan) =
      (acmpListenerConnectTx cfg (held.answer env) held.acmp).2.foldl (hook srpVlan)
        { held with acmp := (acmpListenerConnectTx cfg (held.answer env) held.acmp).1 } := rfl
  rcases acmpListenerConnectTx_cases cfg (held.answer env) held.acmp with
    ⟨hvalid, hnone⟩ | ⟨hvalid, ⟨hno, -⟩ | ⟨i, g, -, -, hconnect⟩⟩
  · -- the response is kept, and nothing is sent
    rw [hout, hnone]
    refine ⟨fun h => ?_, fun h => absurd (decide_eq_true h.1) hvalid⟩
    cases h.1
  · obtain ⟨f, hf, huse, hid, -⟩ := hanswers
    exact absurd ⟨huse, hid⟩ (hno f hf)
  have hrange : p.listenerUniqueId.toNat < cfg.maxListeners := of_decide_eq_true hvalid
  by_cases hclass : p.flags &&& acmpFlagsClassB = 0
  · have hclass' : (acmpListenerFinish i g held.acmp).listener.cmdResp.flags &&& acmpFlagsClassB
        = 0 := hclass
    refine ⟨fun h => ?_, fun h => absurd hclass h.2.1⟩
    rw [hout, hconnect, acmpListenerConnected_of_classA hclass'] at h
    have hstatus : [AcmpStatus.success] = [p.status] := h.1
    exact absurd (List.cons.inj hstatus).1.symm hrefused
  · have hclass' : (acmpListenerFinish i g held.acmp).listener.cmdResp.flags &&& acmpFlagsClassB
        ≠ 0 := hclass
    rw [hstep, hout, hconnect, acmpListenerConnected_of_classB hclass']
    constructor
    · intro h
      have hstatus : [AcmpStatus.incompatibleRequest] = [p.status] := h.1
      exact ⟨hrange, hclass, (List.cons.inj hstatus).1.symm⟩
    · intro h
      refine ⟨?_, rfl, ?_⟩
      · rw [h.2.2]
        rfl
      · unfold acmpListenerAfterConnect
        split_ifs <;> rfl

end AcmpDevice

def idleRecord : AvbEndpointInfo where
  reservation := ⟨0, 0, Vector.replicate 6 0, 0, 0, 0, 0, 0, Vector.replicate 8 0, 0⟩
  stream := ⟨.disabled, 0, 0, 0⟩

def oneSinkDevice : AcmpDevice :=
  AcmpDevice.init oneSink 0 ⟨acmpCold, fun _ => idleRecord, fun _ => idleRecord⟩

def sinkMessage (talkerGuid : UInt64) (sequenceId : UInt16) : AcmpCmdResp :=
  { AcmpCmdResp.zero with
    messageType := messageType
    controllerGuid := 9
    talkerGuid := talkerGuid
    listenerGuid := 1
    sequenceId := sequenceId }

def listenerCall : AcmpDevice.Event := (.listenerPeriodic ⟨0, 0, false, 0, none⟩, 2)

def messageArrives (p : AcmpCmdResp) : AcmpDevice.Event := (.packet p, 2)

def connectingDevice : AcmpDevice :=
  Run.runFrom (AcmpDevice.step oneSink) oneSinkDevice
    [messageArrives (sinkMessage AcmpCmd.connectRxCommand 2 7), listenerCall]

def talkerAnswer : AcmpCmdResp :=
  { sinkMessage AcmpCmd.connectTxResponse 2 0 with flags := flags, status := status }

lemma answersConnect_connectingDevice :
    connectingDevice.AnswersConnect (talkerAnswer flags status) := by
  have hinflight : connectingDevice.acmp.listener.inflightCommands.any (fun f =>
      f.inUse && decide (f.command.sequenceId = 0 ∧
        f.command.messageType = AcmpCmd.connectTxCommand)) = true := by
    decide +kernel
  obtain ⟨f, hf, htest⟩ := List.any_eq_true.mp hinflight
  obtain ⟨huse, hcommand⟩ := Bool.and_eq_true_iff.mp htest
  obtain ⟨hid, htype⟩ := of_decide_eq_true hcommand
  exact ⟨f, hf, huse, hid, htype⟩

theorem class_b_refusal_passed_on :
    connectingDevice.RefusalPassedOn oneSink (talkerAnswer 1 17) ⟨0, 0, false, 0, none⟩ 2 :=
  (AcmpDevice.talker_refusal_passed_on_iff oneSink connectingDevice (talkerAnswer 1 17)
    ⟨0, 0, false, 0, none⟩ 2 (by decide +kernel) rfl rfl (by decide)
    (answersConnect_connectingDevice 1 17)).mpr ⟨by decide, by decide, rfl⟩

/-- Status 3 is answered with status 0, the sink is turned on and its entry says connected. -/
theorem talker_refusal_connects_sink : connectingDevice.AnswersConnect (talkerAnswer 0 3) ∧
      ¬ connectingDevice.RefusalPassedOn oneSink (talkerAnswer 0 3) ⟨0, 0, false, 0, none⟩ 2 ∧
      (sentResponses AcmpCmd.connectRxResponse ((connectingDevice.takes oneSink
        (talkerAnswer 0 3) 2).outputs oneSink listenerCall)).map AcmpCmdResp.status = [0] ∧
      (connectingDevice.sinks 0).stream.state = .disabled ∧
      (((connectingDevice.takes oneSink (talkerAnswer 0 3) 2).step oneSink listenerCall).sinks
        0).stream.state = .potential ∧
      (((connectingDevice.takes oneSink (talkerAnswer 0 3) 2).step oneSink
        listenerCall).acmp.listenerStreams.map AcmpListenerStream.connected) = [true] := by
  have hstatus : (sentResponses AcmpCmd.connectRxResponse ((connectingDevice.takes oneSink
      (talkerAnswer 0 3) 2).outputs oneSink listenerCall)).map AcmpCmdResp.status = [0] := by
    decide +kernel
  refine ⟨answersConnect_connectingDevice 0 3, fun h => ?_, hstatus, by decide +kernel,
    by decide +kernel, by decide +kernel⟩
  have hsame : [0] = [3] := hstatus.symm.trans h.1
  exact absurd hsame (by decide)
