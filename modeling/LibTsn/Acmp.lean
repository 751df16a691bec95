/-
# Connection management

The three ACMP state machines of the device: controller, talker and listener.
A packet that is accepted is stored and moves its machine out of `WAITING`; the
machine's periodic call then acts on it.  Commands
in flight are kept in a table until they are answered or time out.

A periodic call takes from outside the readings of the local timer and what the
application answers (`AcmpEnv`), and lists what it sends and which application
hooks it calls (`AcmpOut`).
-/
import LibTsn.Run
import LibTsn.MiscTimer

/-! The values of `avb_1722_1_acmp_message_t`. -/

namespace AcmpCmd

@[match_pattern] def connectTxCommand : ℕ := 0
@[match_pattern] def connectTxResponse : ℕ := 1
@[match_pattern] def disconnectTxCommand : ℕ := 2
@[match_pattern] def disconnectTxResponse : ℕ := 3
@[match_pattern] def getTxStateCommand : ℕ := 4
@[match_pattern] def getTxStateResponse : ℕ := 5
@[match_pattern] def connectRxCommand : ℕ := 6
@[match_pattern] def connectRxResponse : ℕ := 7
@[match_pattern] def disconnectRxCommand : ℕ := 8
@[match_pattern] def disconnectRxResponse : ℕ := 9
@[match_pattern] def getRxStateCommand : ℕ := 10
@[match_pattern] def getRxStateResponse : ℕ := 11
@[match_pattern] def getTxConnectionCommand : ℕ := 12
@[match_pattern] def getTxConnectionResponse : ℕ := 13

end AcmpCmd

/-! The values of `avb_1722_1_acmp_status_t` that the device sends itself. -/

namespace AcmpStatus

def success : ℕ := 0
def listenerUnknownId : ℕ := 1
def talkerUnknownId : ℕ := 2
def listenerTalkerTimeout : ℕ := 7
def listenerExclusive : ℕ := 8
def stateUnavailable : ℕ := 9
def notConnected : ℕ := 10
def noSuchConnection : ℕ := 11
def incompatibleRequest : ℕ := 17

end AcmpStatus

def acmpFlagsClassB : UInt16 := 1

def acmpFlagsFastConnect : UInt16 := 2

/-- `avb_1722_1_acmp_cmd_resp`, which is also the contents of a packet: type and
status are the message type and the valid time of its header. -/
structure AcmpCmdResp where
  messageType : ℕ
  status : ℕ
  streamId : UInt64
  controllerGuid : UInt64
  talkerGuid : UInt64
  listenerGuid : UInt64
  talkerUniqueId : UInt16
  listenerUniqueId : UInt16
  streamDestMac : Vector UInt8 6
  connectionCount : UInt16
  sequenceId : UInt16
  flags : UInt16
  vlanId : UInt16
  deriving DecidableEq

def AcmpCmdResp.zero : AcmpCmdResp :=
  ⟨0, 0, 0, 0, 0, 0, 0, 0, Vector.replicate 6 0, 0, 0, 0, 0⟩

def createAcmpPacket (cr : AcmpCmdResp) (messageType status : ℕ) : AcmpCmdResp :=
  { cr with messageType := messageType, status := status }

/-! ## State -/

structure AcmpConfig where
  myGuid : UInt64
  maxListeners : ℕ
  maxTalkers : ℕ
  maxListenersPerTalker : ℕ
  maxInflightCommands : ℕ
  numSources : ℕ
  avbDefaultVlan : UInt16

structure AcmpInflight where
  inUse : Bool
  timeout : ℕ
  retried : Bool
  command : AcmpCmdResp
  originalSequenceId : UInt16
  deriving DecidableEq

def AcmpInflight.zero : AcmpInflight := ⟨false, 0, false, .zero, 0⟩

structure AcmpListenerStream where
  talkerGuid : UInt64
  talkerUniqueId : UInt16
  connected : Bool
  streamId : UInt64
  destinationMac : Vector UInt8 6
  deriving DecidableEq

def AcmpListenerStream.zero : AcmpListenerStream := ⟨0, 0, false, 0, Vector.replicate 6 0⟩

structure AcmpListenerPair where
  guid : UInt64
  uniqueId : UInt16
  deriving DecidableEq

structure AcmpTalkerStream where
  streamId : UInt64
  connectionCount : ℤ
  destinationMac : Vector UInt8 6
  connectedListeners : List AcmpListenerPair
  deriving DecidableEq

inductive AcmpControllerState where
  | idle
  | waiting
  | timeout
  | connectRxResponse
  | disconnectRxResponse
  | getTxStateResponse
  | getRxStateResponse
  | getTxConnectionResponse
  deriving DecidableEq, Repr

inductive AcmpTalkerState where
  | idle
  | waiting
  | connect
  | disconnect
  | getState
  | getConnection
  deriving DecidableEq, Repr

inductive AcmpListenerState where
  | idle
  | waiting
  | connectRxCommand
  | disconnectRxCommand
  | connectTxResponse
  | disconnectTxResponse
  | getState
  | rxTimeout
  deriving DecidableEq, Repr

/-- The entities that send commands: `CONTROLLER` and `LISTENER`. -/
inductive AcmpEntityType where
  | controller
  | listener
  deriving DecidableEq, Repr

/-- What the code keeps per entity type: the in-flight commands, their clock and
timer, the entry that has timed out, the next sequence id, and the message being
worked on (`acmp_controller_cmd_resp`, `acmp_listener_rcvd_cmd_resp`). -/
structure AcmpEntity where
  inflightCommands : List AcmpInflight
  centisecondCounter : ℕ
  inflightTimer : AvbTimer
  inflightTimeoutIdx : Option ℕ
  sequenceId : UInt16
  cmdResp : AcmpCmdResp
  deriving DecidableEq

structure AcmpState where
  controllerState : AcmpControllerState
  talkerState : AcmpTalkerState
  listenerState : AcmpListenerState
  controller : AcmpEntity
  listener : AcmpEntity
  talkerRcvdCmdResp : AcmpCmdResp
  listenerStreams : List AcmpListenerStream
  talkerStreams : List AcmpTalkerStream
  deriving DecidableEq

variable (cfg : AcmpConfig) (pkt : AcmpCmdResp) (env : AcmpEnv) (s : AcmpState)

def AcmpState.entity : AcmpEntityType → AcmpEntity
  | .controller => s.controller
  | .listener => s.listener

variable (p : AcmpListenerPair) (info : AcmpTalkerStream) (now : ℕ) (messageType : ℕ)
  (originalSequenceId : UInt16) (ent : AcmpEntity)

def AcmpState.setEntity : AcmpEntityType → AcmpState
  | .controller => { s with controller := ent }
  | .listener => { s with listener := ent }

structure AcmpEnv where
  /-- The time `avb_timer_expired` reads. -/
  pollTime : ℕ
  /-- The time `start_avb_timer` reads. -/
  restartTime : ℕ
  /-- `avb.get_sink_state` of the sink asked for is not `AVB_SINK_STATE_DISABLED`. -/
  sinkReserved : Bool
  /-- What `avb_listener_on_talker_connect` returns. -/
  connectStatus : ℕ
  /-- The stream id `avb_talker_on_listener_connect` sets, if it sets one. -/
  sourceStreamId : Option UInt64

inductive AcmpOut where
  | packet (p : AcmpCmdResp)
  | talkerOnListenerConnect (source : UInt16) (listenerGuid : UInt64)
  | talkerOnListenerDisconnect (source : UInt16) (listenerGuid : UInt64) (connectionCount : ℤ)
  | talkerOnListenerConnectFailed (source : UInt16) (listenerGuid : UInt64) (status : ℕ)
  | listenerOnTalkerConnect (sink : UInt16) (talkerGuid : UInt64) (destMac : Vector UInt8 6)
      (streamId : UInt64) (vlanId : UInt16)
  | listenerOnTalkerDisconnect (sink : UInt16) (talkerGuid : UInt64) (destMac : Vector UInt8 6)
      (streamId : UInt64)
  deriving DecidableEq

/-! ## In-flight commands -/

/-- `avb_1722_1_acmp_inflight_timeouts`, in centiseconds. -/
def acmpInflightTimeouts : List ℕ := [20, 2, 2, 45, 5, 2, 2]

def acmpProgressInflightTimer : AcmpEntity :=
  let polled := avbTimerExpired env.pollTime ent.inflightTimer
  if polled.2 then
    { ent with
      inflightTimer := startAvbTimer env.restartTime 1 polled.1
      centisecondCounter := (ent.centisecondCounter + 1) % 2 ^ 32 }
  else { ent with inflightTimer := polled.1 }

def acmpGetInflightFromSequenceId (id : UInt16) (ent : AcmpEntity) : Option ℕ :=
  ent.inflightCommands.findIdx? fun f => f.inUse && decide (f.command.sequenceId = id)

/-- The timeout that `acmp_update_inflight_timeout` sets. -/
def acmpInflightTimeout : ℕ :=
  if messageType % 2 = 0 ∧ messageType ≤ 12 then
    (ent.centisecondCounter + acmpInflightTimeouts.getD (messageType / 2) 0) % 2 ^ 32
  else 0

def acmpSetInflightRetry (messageType idx : ℕ) (ent : AcmpEntity) : AcmpEntity :=
  { ent with
    inflightCommands := ent.inflightCommands.modify idx fun f =>
      { f with timeout := acmpInflightTimeout messageType ent, retried := true } }

def acmpAddInflight : AcmpEntity :=
  match ent.inflightCommands.findIdx? fun f => !f.inUse with
  | none => ent
  | some i =>
    { ent with
      inflightCommands := ent.inflightCommands.set i
        { inUse := true
          timeout := acmpInflightTimeout messageType ent
          retried := false
          command := { ent.cmdResp with messageType := messageType }
          originalSequenceId := originalSequenceId } }

def acmpRemoveInflight : AcmpEntity × Option AcmpInflight :=
  match acmpGetInflightFromSequenceId ent.cmdResp.sequenceId ent with
  | none => (ent, none)
  | some i =>
    ({ ent with inflightCommands := ent.inflightCommands.modify i ({ · with inUse := false }) },
      ent.inflightCommands[i]?)

def acmpCheckInflightCommandTimeouts : Option ℕ :=
  ent.inflightCommands.findIdx? fun f => f.inUse && decide (f.timeout ≤ ent.centisecondCounter)

/-- The `WAITING` case of a periodic call: the entity whose timeouts were looked up. -/
def acmpPollTimeouts : AcmpEntity :=
  let ent := acmpProgressInflightTimer env ent
  { ent with inflightTimeoutIdx := acmpCheckInflightCommandTimeouts ent }

/-! ## Received packets -/

/-- The state `process_avb_1722_1_acmp_controller_packet` moves to. -/
def acmpControllerNext : AcmpControllerState :=
  match messageType with
  | AcmpCmd.connectRxResponse => .connectRxResponse
  | AcmpCmd.disconnectRxResponse => .disconnectRxResponse
  | AcmpCmd.getTxStateResponse => .getRxStateResponse
  | AcmpCmd.getRxStateResponse => .getRxStateResponse
  | AcmpCmd.getTxConnectionResponse => .getTxConnectionResponse
  | _ => .waiting

def processAcmpControllerPacket : AcmpState :=
  if s.controllerState ≠ .waiting then s
  else if pkt.controllerGuid ≠ cfg.myGuid then s
  else
    match acmpGetInflightFromSequenceId pkt.sequenceId s.controller with
    | none => s
    | some i =>
      if pkt.messageType ≠
          (s.controller.inflightCommands.getD i .zero).command.messageType + 1 then s
      else
        { s with
          controller := { s.controller with cmdResp := pkt }
          controllerState := acmpControllerNext pkt.messageType }

/-- The state `process_avb_1722_1_acmp_talker_packet` moves to. -/
def acmpTalkerNext : AcmpTalkerState :=
  match messageType with
  | AcmpCmd.connectTxCommand => .connect
  | AcmpCmd.disconnectTxCommand => .disconnect
  | AcmpCmd.getTxStateCommand => .getState
  | AcmpCmd.getTxConnectionCommand => .getConnection
  | _ => .waiting

def processAcmpTalkerPacket : AcmpState :=
  if pkt.talkerGuid ≠ cfg.myGuid then s
  else if s.talkerState ≠ .waiting then s
  else { s with talkerRcvdCmdResp := pkt, talkerState := acmpTalkerNext pkt.messageType }

/-- The state `process_avb_1722_1_acmp_listener_packet` moves to. -/
def acmpListenerNext : AcmpListenerState :=
  match messageType with
  | AcmpCmd.connectTxResponse => .connectTxResponse
  | AcmpCmd.disconnectTxResponse => .disconnectTxResponse
  | AcmpCmd.connectRxCommand => .connectRxCommand
  | AcmpCmd.disconnectRxCommand => .disconnectRxCommand
  | AcmpCmd.getRxStateCommand => .getState
  | _ => .waiting

def processAcmpListenerPacket : AcmpState :=
  if pkt.listenerGuid ≠ cfg.myGuid then s
  else if s.listenerState ≠ .waiting then s
  else
    { s with
      listener := { s.listener with cmdResp := pkt }
      listenerState := acmpListenerNext pkt.messageType }

/-- `process_avb_1722_1_acmp_packet`: each message type belongs to one machine. -/
def processAcmpPacket : AcmpState :=
  match pkt.messageType with
  | AcmpCmd.connectTxCommand => processAcmpTalkerPacket cfg pkt s
  | AcmpCmd.disconnectTxCommand => processAcmpTalkerPacket cfg pkt s
  | AcmpCmd.getTxStateCommand => processAcmpTalkerPacket cfg pkt s
  | AcmpCmd.getTxConnectionCommand => processAcmpTalkerPacket cfg pkt s
  | AcmpCmd.connectTxResponse => processAcmpListenerPacket cfg pkt s
  | AcmpCmd.disconnectTxResponse => processAcmpListenerPacket cfg pkt s
  | AcmpCmd.connectRxCommand => processAcmpListenerPacket cfg pkt s
  | AcmpCmd.disconnectRxCommand => processAcmpListenerPacket cfg pkt s
  | AcmpCmd.getRxStateCommand => processAcmpListenerPacket cfg pkt s
  | AcmpCmd.connectRxResponse => processAcmpControllerPacket cfg pkt s
  | AcmpCmd.disconnectRxResponse => processAcmpControllerPacket cfg pkt s
  | AcmpCmd.getRxStateResponse => processAcmpControllerPacket cfg pkt s
  | AcmpCmd.getTxStateResponse => processAcmpControllerPacket cfg pkt s
  | AcmpCmd.getTxConnectionResponse => processAcmpControllerPacket cfg pkt s
  | _ => s

/-! ## Commands and responses -/

/-- The message `acmp_send_command` is given: that of the entity, or that of the
in-flight entry it retries. -/
def acmpCommand : Option ℕ → AcmpCmdResp
  | none => ent.cmdResp
  | some i => (ent.inflightCommands.getD i .zero).command

def acmpNumberCommand : Option ℕ → AcmpEntity
  | none =>
    { ent with
      cmdResp := { ent.cmdResp with sequenceId := ent.sequenceId }
      sequenceId := ent.sequenceId + 1 }
  | some i =>
    { ent with
      inflightCommands := ent.inflightCommands.modify i fun f =>
        { f with command := { f.command with sequenceId := ent.sequenceId } }
      sequenceId := ent.sequenceId + 1 }

def acmpNoteCommand : Option ℕ → AcmpEntity
  | none => acmpAddInflight messageType originalSequenceId ent
  | some i => acmpSetInflightRetry messageType i ent

def acmpCommandPacket (retry : Option ℕ) (ent : AcmpEntity) : AcmpCmdResp :=
  createAcmpPacket { acmpCommand ent retry with sequenceId := ent.sequenceId } messageType
    AcmpStatus.success

/-- `acmp_send_command`.  The packet is also given to the device's own machines. -/
def acmpSendCommand (entityType : AcmpEntityType) (messageType : ℕ) (retry : Option ℕ)
    (s : AcmpState) : AcmpState × List AcmpOut :=
  let pkt := acmpCommandPacket messageType retry (s.entity entityType)
  let original := (acmpCommand (s.entity entityType) retry).sequenceId
  let looped := processAcmpPacket cfg pkt
    (s.setEntity (acmpNumberCommand (s.entity entityType) retry) entityType)
  (looped.setEntity (acmpNoteCommand messageType original (looped.entity entityType) retry)
    entityType, [.packet pkt])

def acmpSendResponse (response : AcmpCmdResp) (status : ℕ) : AcmpOut :=
  .packet (createAcmpPacket response messageType status)

def acmpControllerConnectDisconnect (talkerGuid listenerGuid : UInt64)
    (talkerId listenerId : UInt16) (s : AcmpState) : AcmpState × List AcmpOut :=
  acmpSendCommand cfg .controller messageType none
    { s with controller := { s.controller with cmdResp := { s.controller.cmdResp with
        controllerGuid := cfg.myGuid
        talkerGuid := talkerGuid
        listenerGuid := listenerGuid
        talkerUniqueId := talkerId
        listenerUniqueId := listenerId } } }

/-- The `ACMP_CONTROLLER_TIMEOUT` case: a command is retried once. -/
def acmpControllerTimeout : AcmpState × List AcmpOut :=
  match s.controller.inflightTimeoutIdx with
  | none => (s, [])
  | some i =>
    let f := s.controller.inflightCommands.getD i .zero
    if f.retried then
      ({ s with controller := { s.controller with
          inflightCommands :=
            s.controller.inflightCommands.modify i ({ · with inUse := false }) } },
        [])
    else acmpSendCommand cfg .controller f.command.messageType (some i) s

def acmpControllerRemoveInflight : AcmpState :=
  { s with controller := (acmpRemoveInflight s.controller).1 }

/-- The hook of `ACMP_CONTROLLER_CONNECT_RX_RESPONSE`. -/
def acmpControllerConnectFailed (r : AcmpCmdResp) : List AcmpOut :=
  if r.status ≠ AcmpStatus.success then
    [.talkerOnListenerConnectFailed r.talkerUniqueId r.listenerGuid r.status]
  else []

def acmpControllerPeriodic : AcmpState × List AcmpOut :=
  match s.controllerState with
  | .idle => (s, [])
  | .waiting =>
    let ent := acmpPollTimeouts env s.controller
    ({ s with
        controller := ent
        controllerState := if ent.inflightTimeoutIdx.isSome then .timeout else .waiting }, [])
  | .timeout =>
    let out := acmpControllerTimeout cfg s
    ({ out.1 with controllerState := .waiting }, out.2)
  | .connectRxResponse =>
    ({ acmpControllerRemoveInflight s with controllerState := .waiting },
      acmpControllerConnectFailed s.controller.cmdResp)
  | .disconnectRxResponse =>
    ({ acmpControllerRemoveInflight s with controllerState := .waiting }, [])
  | .getTxStateResponse => ({ acmpControllerRemoveInflight s with controllerState := .waiting }, [])
  | .getRxStateResponse => ({ acmpControllerRemoveInflight s with controllerState := .waiting }, [])
  | .getTxConnectionResponse =>
    ({ acmpControllerRemoveInflight s with controllerState := .waiting }, [])

/-! ## The talker -/

def acmpTalkerValidTalkerUnique : Bool :=
  decide (0 < cfg.numSources) && decide (s.talkerRcvdCmdResp.talkerUniqueId.toNat < cfg.maxTalkers)

def acmpTalkerStream : AcmpTalkerStream :=
  s.talkerStreams.getD s.talkerRcvdCmdResp.talkerUniqueId.toNat ⟨0, 0, Vector.replicate 6 0, []⟩

def setAcmpTalkerStream (s : AcmpState) : AcmpState :=
  { s with talkerStreams := s.talkerStreams.set s.talkerRcvdCmdResp.talkerUniqueId.toNat info }

def acmpRcvdListener : AcmpListenerPair :=
  ⟨s.talkerRcvdCmdResp.listenerGuid, s.talkerRcvdCmdResp.listenerUniqueId⟩

/-- A listener entered in the table of a stream, as in `acmp_add_talker_stream_info`. -/
def AcmpTalkerStream.addListener : AcmpTalkerStream :=
  if p ∈ info.connectedListeners then info
  else
    match info.connectedListeners.findIdx? fun q => decide (q.guid = 0) with
    | none => info
    | some i =>
      { info with
        connectedListeners := info.connectedListeners.set i p
        connectionCount := info.connectionCount + 1 }

/-- A listener taken out of the table, as in `acmp_remove_talker_stream_info`. -/
def AcmpTalkerStream.removeListener : AcmpTalkerStream :=
  match info.connectedListeners.findIdx? fun q => decide (q = p) with
  | none => info
  | some i =>
    { info with
      connectedListeners := info.connectedListeners.set i ⟨0, 0⟩
      connectionCount := info.connectionCount - 1 }

def acmpAddTalkerStreamInfo : AcmpState :=
  setAcmpTalkerStream ((acmpTalkerStream s).addListener (acmpRcvdListener s)) s

def acmpRemoveTalkerStreamInfo : AcmpState :=
  setAcmpTalkerStream ((acmpTalkerStream s).removeListener (acmpRcvdListener s)) s

/-- What `avb_talker_on_listener_connect` does to the stream: it may set its id. -/
def acmpTalkerHook : AcmpState :=
  match env.sourceStreamId with
  | none => s
  | some id => setAcmpTalkerStream { acmpTalkerStream s with streamId := id } s

def acmpSetTalkerResponse : AcmpState :=
  { s with talkerRcvdCmdResp := { s.talkerRcvdCmdResp with
      streamId := (acmpTalkerStream s).streamId
      streamDestMac := (acmpTalkerStream s).destinationMac
      connectionCount := UInt16.ofInt (acmpTalkerStream s).connectionCount } }

def acmpReportedVlan (streamId : UInt64) : UInt16 :=
  if streamId ≠ 0 then cfg.avbDefaultVlan else 0

def acmpTalkerGetState : AcmpState :=
  { s with talkerRcvdCmdResp := { s.talkerRcvdCmdResp with
      streamId := (acmpTalkerStream s).streamId
      streamDestMac := (acmpTalkerStream s).destinationMac
      connectionCount := UInt16.ofInt (acmpTalkerStream s).connectionCount
      vlanId := acmpReportedVlan cfg (acmpTalkerStream s).streamId } }

/-- `acmp_talker_get_connection`, with the status it returns. -/
def acmpTalkerGetConnection : AcmpState × ℕ :=
  let connection := s.talkerRcvdCmdResp.connectionCount.toNat
  let pair := (acmpTalkerStream s).connectedListeners.getD connection ⟨0, 0⟩
  if cfg.maxListenersPerTalker ≤ connection then (s, AcmpStatus.stateUnavailable)
  else if pair.guid = 0 then (s, AcmpStatus.noSuchConnection)
  else
    ({ s with talkerRcvdCmdResp := { s.talkerRcvdCmdResp with
        streamId := (acmpTalkerStream s).streamId
        streamDestMac := (acmpTalkerStream s).destinationMac
        listenerGuid := pair.guid
        listenerUniqueId := pair.uniqueId
        vlanId := cfg.avbDefaultVlan } }, AcmpStatus.success)

/-- The `ACMP_TALKER_CONNECT` case. -/
def acmpTalkerConnect : AcmpState × List AcmpOut :=
  let r := s.talkerRcvdCmdResp
  if acmpTalkerValidTalkerUnique cfg s then
    let s := acmpSetTalkerResponse (acmpTalkerHook env (acmpAddTalkerStreamInfo s))
    (s, [.talkerOnListenerConnect r.talkerUniqueId r.listenerGuid,
      acmpSendResponse AcmpCmd.connectTxResponse s.talkerRcvdCmdResp AcmpStatus.success])
  else (s, [acmpSendResponse AcmpCmd.connectTxResponse r AcmpStatus.talkerUnknownId])

/-- The `ACMP_TALKER_DISCONNECT` case. -/
def acmpTalkerDisconnect : AcmpState × List AcmpOut :=
  let r := s.talkerRcvdCmdResp
  if acmpTalkerValidTalkerUnique cfg s then
    let removed := acmpRemoveTalkerStreamInfo s
    let s := acmpSetTalkerResponse removed
    (s, [.talkerOnListenerDisconnect r.talkerUniqueId r.listenerGuid
        (acmpTalkerStream removed).connectionCount,
      acmpSendResponse AcmpCmd.disconnectTxResponse s.talkerRcvdCmdResp AcmpStatus.success])
  else (s, [acmpSendResponse AcmpCmd.disconnectTxResponse r AcmpStatus.talkerUnknownId])

/-- The `ACMP_TALKER_GET_STATE` case. -/
def acmpTalkerGetStateResponse : AcmpState × List AcmpOut :=
  if acmpTalkerValidTalkerUnique cfg s then
    let s := acmpTalkerGetState cfg s
    (s, [acmpSendResponse AcmpCmd.getTxStateResponse s.talkerRcvdCmdResp AcmpStatus.success])
  else
    (s, [acmpSendResponse AcmpCmd.getTxStateResponse s.talkerRcvdCmdResp
      AcmpStatus.talkerUnknownId])

/-- The `ACMP_TALKER_GET_CONNECTION` case. -/
def acmpTalkerGetConnectionResponse : AcmpState × List AcmpOut :=
  if acmpTalkerValidTalkerUnique cfg s then
    let out := acmpTalkerGetConnection cfg s
    (out.1, [acmpSendResponse AcmpCmd.getTxConnectionResponse out.1.talkerRcvdCmdResp out.2])
  else
    (s, [acmpSendResponse AcmpCmd.getTxConnectionResponse s.talkerRcvdCmdResp
      AcmpStatus.talkerUnknownId])

def acmpTalkerPeriodic : AcmpState × List AcmpOut :=
  match s.talkerState with
  | .idle => (s, [])
  | .waiting => (s, [])
  | .connect =>
    let out := acmpTalkerConnect cfg env s
    ({ out.1 with talkerState := .waiting }, out.2)
  | .disconnect =>
    let out := acmpTalkerDisconnect cfg s
    ({ out.1 with talkerState := .waiting }, out.2)
  | .getState =>
    let out := acmpTalkerGetStateResponse cfg s
    ({ out.1 with talkerState := .waiting }, out.2)
  | .getConnection =>
    let out := acmpTalkerGetConnectionResponse cfg s
    ({ out.1 with talkerState := .waiting }, out.2)

/-! ## The listener -/

def acmpListenerValidListenerUnique : Bool :=
  decide (s.listener.cmdResp.listenerUniqueId.toNat < cfg.maxListeners)

def acmpListenerStream : AcmpListenerStream :=
  s.listenerStreams.getD s.listener.cmdResp.listenerUniqueId.toNat .zero

def acmpListenerIsConnected (connectedTo : Bool) (env : AcmpEnv) (s : AcmpState) : Bool :=
  env.sinkReserved &&
    (decide ((acmpListenerStream s).talkerGuid = s.listener.cmdResp.talkerGuid ∧
      (acmpListenerStream s).talkerUniqueId = s.listener.cmdResp.talkerUniqueId) == connectedTo)

/-- `acmp_zero_listener_stream_info`, for the stream of the received message. -/
def acmpZeroListenerStreamInfo : AcmpState :=
  { s with listenerStreams :=
      s.listenerStreams.set s.listener.cmdResp.listenerUniqueId.toNat .zero }

def acmpAddListenerStreamInfo : AcmpState :=
  let r := s.listener.cmdResp
  { s with
    listenerStreams := s.listenerStreams.set r.listenerUniqueId.toNat
      { talkerGuid := r.talkerGuid
        talkerUniqueId := r.talkerUniqueId
        connected := true
        streamId := r.streamId
        destinationMac := r.streamDestMac } }

def updateListenerCmdResp (f : AcmpCmdResp → AcmpCmdResp) (s : AcmpState) : AcmpState :=
  { s with listener := { s.listener with cmdResp := f s.listener.cmdResp } }

def acmpListenerGetState : AcmpState :=
  let info := acmpListenerStream s
  updateListenerCmdResp (fun r =>
    { r with
      streamId := info.streamId
      streamDestMac := info.destinationMac
      talkerGuid := info.talkerGuid
      talkerUniqueId := info.talkerUniqueId
      connectionCount := if info.connected then 1 else 0
      vlanId := acmpReportedVlan cfg info.streamId }) s

/-- The `ACMP_LISTENER_CONNECT_RX_COMMAND` case. -/
def acmpListenerConnectRx : AcmpState × List AcmpOut :=
  if acmpListenerValidListenerUnique cfg s then
    if acmpListenerIsConnected false env s then
      (s, [acmpSendResponse AcmpCmd.connectRxResponse s.listener.cmdResp
        AcmpStatus.listenerExclusive])
    else acmpSendCommand cfg .listener AcmpCmd.connectTxCommand none s
  else
    (s, [acmpSendResponse AcmpCmd.connectRxResponse s.listener.cmdResp
      AcmpStatus.listenerUnknownId])

/-- The hook of `ACMP_LISTENER_DISCONNECT_RX_COMMAND`. -/
def acmpListenerDisconnectHook (r : AcmpCmdResp) : AcmpOut :=
  .listenerOnTalkerDisconnect r.listenerUniqueId r.talkerGuid r.streamDestMac r.streamId

/-- The `ACMP_LISTENER_DISCONNECT_RX_COMMAND` case. -/
def acmpListenerDisconnectRx : AcmpState × List AcmpOut :=
  if acmpListenerValidListenerUnique cfg s then
    if acmpListenerIsConnected true env s then
      let out := acmpSendCommand cfg .listener AcmpCmd.disconnectTxCommand none s
      (acmpZeroListenerStreamInfo out.1,
        out.2 ++ [acmpListenerDisconnectHook out.1.listener.cmdResp])
    else
      (s, [acmpSendResponse AcmpCmd.disconnectRxResponse s.listener.cmdResp
        AcmpStatus.notConnected])
  else
    (s, [acmpSendResponse AcmpCmd.disconnectRxResponse s.listener.cmdResp
      AcmpStatus.listenerUnknownId])

def acmpListenerRemoveInflight : AcmpState × Bool :=
  let removed := acmpRemoveInflight s.listener
  match removed.2 with
  | none => (s, false)
  | some f =>
    ({ s with listener := { removed.1 with
        cmdResp := { removed.1.cmdResp with sequenceId := f.originalSequenceId } } }, true)

def acmpListenerConnected : AcmpState × List AcmpOut :=
  let r := s.listener.cmdResp
  if r.flags &&& acmpFlagsClassB ≠ 0 then
    (s, [acmpSendResponse AcmpCmd.connectRxResponse r AcmpStatus.incompatibleRequest])
  else
    (acmpAddListenerStreamInfo
        (updateListenerCmdResp (fun r => { r with status := env.connectStatus }) s),
      [.listenerOnTalkerConnect r.listenerUniqueId r.talkerGuid r.streamDestMac r.streamId r.vlanId,
        acmpSendResponse AcmpCmd.connectRxResponse { r with status := env.connectStatus }
          env.connectStatus])

def acmpListenerAnswerConnect : AcmpState × List AcmpOut :=
  let removed := acmpListenerRemoveInflight s
  if removed.2 then acmpListenerConnected env removed.1 else (removed.1, [])

def acmpListenerAfterConnect : AcmpState :=
  if s.listener.cmdResp.flags &&& acmpFlagsFastConnect ≠ 0 then
    let s := updateListenerCmdResp (fun r => { r with controllerGuid := cfg.myGuid }) s
    { s with listenerState := .getState }
  else { s with listenerState := .waiting }

/-- The `ACMP_LISTENER_CONNECT_TX_RESPONSE` case.  The state only changes when the
unique id is in range. -/
def acmpListenerConnectTx : AcmpState × List AcmpOut :=
  if acmpListenerValidListenerUnique cfg s then
    let out := acmpListenerAnswerConnect env s
    (acmpListenerAfterConnect cfg out.1, out.2)
  else (s, [])

def acmpListenerAnswerDisconnect : AcmpState × List AcmpOut :=
  let removed := acmpListenerRemoveInflight s
  if removed.2 then
    (acmpZeroListenerStreamInfo removed.1,
      [acmpSendResponse AcmpCmd.disconnectRxResponse removed.1.listener.cmdResp
        removed.1.listener.cmdResp.status])
  else (removed.1, [])

/-- The `ACMP_LISTENER_DISCONNECT_TX_RESPONSE` case.  The state only changes when
the unique id is in range. -/
def acmpListenerDisconnectTx : AcmpState × List AcmpOut :=
  if acmpListenerValidListenerUnique cfg s then
    let out := acmpListenerAnswerDisconnect s
    let s := updateListenerCmdResp (fun r => { r with status := AcmpStatus.success }) out.1
    ({ s with listenerState := .waiting }, out.2)
  else (s, [])

/-- The `ACMP_LISTENER_GET_STATE` case. -/
def acmpListenerGetStateResponse : AcmpState × List AcmpOut :=
  if acmpListenerValidListenerUnique cfg s then
    let s := acmpListenerGetState cfg s
    (s, [acmpSendResponse AcmpCmd.getRxStateResponse s.listener.cmdResp AcmpStatus.success])
  else
    (s, [acmpSendResponse AcmpCmd.getRxStateResponse s.listener.cmdResp
      AcmpStatus.listenerUnknownId])

def acmpListenerTimeoutResponse (f : AcmpInflight) : List AcmpOut :=
  if f.command.flags &&& acmpFlagsFastConnect ≠ 0 then []
  else
    [acmpSendResponse (f.command.messageType + 7)
      { f.command with sequenceId := f.originalSequenceId } AcmpStatus.listenerTalkerTimeout]

/-- The `ACMP_LISTENER_RX_TIMEOUT` case: a command is retried once. -/
def acmpListenerRxTimeout : AcmpState × List AcmpOut :=
  match s.listener.inflightTimeoutIdx with
  | none => (s, [])
  | some i =>
    let f := s.listener.inflightCommands.getD i .zero
    if f.retried then
      ({ s with listener := { s.listener with
          inflightCommands := s.listener.inflightCommands.modify i fun f =>
            { f with
              inUse := false
              command := { f.command with sequenceId := f.originalSequenceId } } } },
        acmpListenerTimeoutResponse f)
    else acmpSendCommand cfg .listener f.command.messageType (some i) s

def acmpListenerPeriodic : AcmpState × List AcmpOut :=
  match s.listenerState with
  | .idle => (s, [])
  | .waiting =>
    let ent := acmpPollTimeouts env s.listener
    ({ s with
        listener := ent
        listenerState := if ent.inflightTimeoutIdx.isSome then .rxTimeout else .waiting }, [])
  | .connectRxCommand =>
    let out := acmpListenerConnectRx cfg env s
    ({ out.1 with listenerState := .waiting }, out.2)
  | .disconnectRxCommand =>
    let out := acmpListenerDisconnectRx cfg env s
    ({ out.1 with listenerState := .waiting }, out.2)
  | .connectTxResponse => acmpListenerConnectTx cfg env s
  | .disconnectTxResponse => acmpListenerDisconnectTx cfg s
  | .getState =>
    let out := acmpListenerGetStateResponse cfg s
    ({ out.1 with listenerState := .waiting }, out.2)
  | .rxTimeout =>
    let out := acmpListenerRxTimeout cfg s
    ({ out.1 with listenerState := .waiting }, out.2)

/-! ## Initialisation and events -/

def acmpEntityInit : AcmpEntity :=
  { ent with
    inflightCommands := List.replicate cfg.maxInflightCommands .zero
    sequenceId := 0
    centisecondCounter := 0
    inflightTimer := startAvbTimer now 1 (initAvbTimer 10 ent.inflightTimer) }

/-- `avb_1722_1_acmp_controller_init`, `avb_1722_1_acmp_talker_init` and
`avb_1722_1_acmp_listener_init`. -/
def acmpInit (s : AcmpState) : AcmpState :=
  { s with
    controllerState := .waiting
    talkerState := .waiting
    listenerState := .waiting
    controller := acmpEntityInit cfg now s.controller
    listener := acmpEntityInit cfg now s.listener
    listenerStreams := List.replicate cfg.maxListeners .zero }

inductive AcmpEvent where
  | packet (p : AcmpCmdResp)
  | controllerPeriodic (env : AcmpEnv)
  | talkerPeriodic (env : AcmpEnv)
  | listenerPeriodic (env : AcmpEnv)
  | controllerConnect (talkerGuid listenerGuid : UInt64) (talkerId listenerId : UInt16)
  | controllerDisconnect (talkerGuid listenerGuid : UInt64) (talkerId listenerId : UInt16)

def acmpEvent : AcmpEvent → AcmpState × List AcmpOut
  | .packet p => (processAcmpPacket cfg p s, [])
  | .controllerPeriodic env => acmpControllerPeriodic cfg env s
  | .talkerPeriodic env => acmpTalkerPeriodic cfg env s
  | .listenerPeriodic env => acmpListenerPeriodic cfg env s
  | .controllerConnect talkerGuid listenerGuid talkerId listenerId =>
    acmpControllerConnectDisconnect cfg AcmpCmd.connectRxCommand talkerGuid listenerGuid
      talkerId listenerId s
  | .controllerDisconnect talkerGuid listenerGuid talkerId listenerId =>
    acmpControllerConnectDisconnect cfg AcmpCmd.disconnectRxCommand talkerGuid listenerGuid
      talkerId listenerId s

def acmpStep (e : AcmpEvent) : AcmpState :=
  (acmpEvent cfg s e).1
