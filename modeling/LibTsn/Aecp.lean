/-
# Enumeration and control

The AECP side of the device: the dispatch of received packets, the AEM commands,
the acquire state machine with its periodic call, and the firmware upload.

A received packet is a memory of bytes from its first header byte on; handlers
edit it in place, as the code does, before parts of it are copied into the
response.  What a call does is the list of its actions (`AecpAct`).
-/
import LibTsn.AvbInfo
import LibTsn.MiscTimer
import Mathlib.Data.Nat.Digits.Defs

/-! ## Layout -/

/-- `sizeof(ethernet_hdr_t)`. -/
def ethernetHdrSize : ℕ := 14

def aecpPayloadOffset : ℕ := 22

def aecpCommandDataOffset : ℕ := 12

def aecpResponsePayload : ℕ := ethernetHdrSize + aecpPayloadOffset

/-- Where the descriptor of a `READ_DESCRIPTOR` response starts in the buffer. -/
def aecpResponseDescriptor : ℕ := aecpResponsePayload + 6

/-- The bytes of `avb_1722_1_buf`: `AVB_1722_1_PACKET_SIZE_WORDS` words, enough for
an Ethernet header and the largest 1722.1 packet. -/
def avb17221BufSize : ℕ := (540 + ethernetHdrSize + 3) / 4 * 4

variable (pkt : Mem) (a : ℕ)

/-- `ntoh_16` read into an unsigned short. -/
def field16 : ℕ := beNat (pkt.load a 2)

/-- `ntoh_16` read into an unsigned int: the `short` it returns is sign-extended. -/
def signedField16 : ℕ :=
  if field16 pkt a < 0x8000 then field16 pkt a else field16 pkt a + 0xffff0000

def guidField : ℕ := beNat (pkt.load a 8)

def messageType1722 : ℕ := (pkt 1).toNat % 16

def dataLength1722 : ℕ := (pkt 2).toNat % 8 * 256 + (pkt 3).toNat

def aemCommandCode : ℕ := (pkt 22).toNat % 128 * 256 + (pkt 23).toNat

inductive AecpMessage where
  | aemCommand
  | aemResponse
  | addressAccessCommand
  | other
  deriving DecidableEq, Repr

def AecpMessage.ofCode : ℕ → AecpMessage
  | 0 => .aemCommand
  | 1 => .aemResponse
  | 2 => .addressAccessCommand
  | _ => .other

inductive AemCommand where
  | acquireEntity
  | lockEntity
  | entityAvailable
  | controllerAvailable
  | readDescriptor
  | setStreamFormat
  | getStreamFormat
  | setStreamInfo
  | getStreamInfo
  | setSamplingRate
  | getSamplingRate
  | setClockSource
  | getClockSource
  | setControl
  | getControl
  | setSignalSelector
  | getSignalSelector
  | startStreaming
  | stopStreaming
  | getCounters
  | reboot
  | startOperation
  | abortOperation
  | other
  deriving DecidableEq, Repr

def AemCommand.ofCode : ℕ → AemCommand
  | 0 => .acquireEntity
  | 1 => .lockEntity
  | 2 => .entityAvailable
  | 3 => .controllerAvailable
  | 4 => .readDescriptor
  | 8 => .setStreamFormat
  | 9 => .getStreamFormat
  | 14 => .setStreamInfo
  | 15 => .getStreamInfo
  | 20 => .setSamplingRate
  | 21 => .getSamplingRate
  | 22 => .setClockSource
  | 23 => .getClockSource
  | 24 => .setControl
  | 25 => .getControl
  | 28 => .setSignalSelector
  | 29 => .getSignalSelector
  | 34 => .startStreaming
  | 35 => .stopStreaming
  | 41 => .getCounters
  | 42 => .reboot
  | 52 => .startOperation
  | 53 => .abortOperation
  | _ => .other

/-! The values of `avb_1722_1_aecp_aem_status_code` that the device sends itself. -/

namespace AemStatus

def success : UInt8 := 0
def notImplemented : UInt8 := 1
def noSuchDescriptor : UInt8 := 2
def entityAcquired : UInt8 := 4
def badArguments : UInt8 := 7
def inProgress : UInt8 := 9
def entityMisbehaving : UInt8 := 10
def notSupported : UInt8 := 11
def streamIsRunning : UInt8 := 12

end AemStatus

/-! The values of `avb_1722_1_aecp_address_access_status_code` in use. -/

namespace AaStatus

def success : UInt8 := 0
def addressInvalid : UInt8 := 4
def tlvInvalid : UInt8 := 5

end AaStatus

/-! The descriptor types of `aem_descriptor_types.h` that the code names. -/

namespace AemType

def entity : ℕ := 0x00
def audioUnit : ℕ := 0x02
def streamInput : ℕ := 0x05
def streamOutput : ℕ := 0x06
def memoryObject : ℕ := 0x0b
def streamPortInput : ℕ := 0x0e
def streamPortOutput : ℕ := 0x0f
def audioCluster : ℕ := 0x14
def audioMap : ℕ := 0x17
def control : ℕ := 0x1a
def signalSelector : ℕ := 0x1b
def clockDomain : ℕ := 0x24

end AemType

/-! ## State -/

inductive EntityAcquiredStatus where
  | notAcquired
  | acquired
  | acquiredAndPersistent
  | acquiredButPending
  deriving DecidableEq, Repr

inductive ControllerAvailableState where
  | inA
  | inB
  | inC
  | inD
  | inE
  | inF
  | idle
  deriving DecidableEq, Repr

structure AemDescriptor where
  size : ℕ
  object : ℕ
  deriving DecidableEq

/-- One type's entry of `aem_descriptor_list`. -/
structure AemDescriptorGroup where
  type : ℕ
  descriptors : List AemDescriptor

structure AdpFields where
  vendorId : ℕ
  entityModelId : ℕ
  entityCapabilities : ℕ
  talkerStreamSources : ℕ
  talkerCapabilities : ℕ
  listenerStreamSinks : ℕ
  listenerCapabilities : ℕ
  controllerCapabilities : ℕ
  identifyControlIndex : ℕ
  associationId : ℕ

structure AecpConfig where
  myGuid : UInt64
  myMacAddr : Vector UInt8 6
  adpDestAddr : Vector UInt8 6
  adp : AdpFields
  aemEnabled : Bool
  firmwareUpgradeEnabled : Bool
  generateDescriptorsOnFly : Bool
  numSources : ℕ
  numSinks : ℕ
  numMediaInputs : ℕ
  numMediaOutputs : ℕ
  numMediaClocks : ℕ
  descriptorList : List AemDescriptorGroup
  /-- The objects `desc_audio_cluster_template`, `desc_stream_port_input_0` and
  `desc_stream_port_output_0`, whose sizes are those of their structures. -/
  audioClusterTemplate : ℕ
  streamPortInput0 : ℕ
  streamPortOutput0 : ℕ
  /-- `desc_stream_input_0` and `desc_stream_output_0`. -/
  streamInput0 : AemDescriptor
  streamOutput0 : AemDescriptor

structure AecpState where
  entityAcquiredStatus : EntityAcquiredStatus
  controllerAvailableState : ControllerAvailableState
  controllerAvailableTimer : AvbTimer
  pendingControllerGuid : ℕ
  acquiredControllerGuid : ℕ
  acquiredControllerMac : Vector UInt8 6
  pendingControllerMac : Vector UInt8 6
  pendingControllerSequence : ℕ
  pendingPersistent : UInt8
  controllerAvailableSequence : UInt16
  aaBytesCopied : ℕ
  aaFlashWriteAddr : ℕ
  aaNextWriteAddress : ℕ
  flashPageBuf : Mem
  operationId : ℤ
  /-- `write_offset` of the upgrade image. -/
  writeOffset : ℕ
  descriptors : ℕ → Mem
  buf : Mem

/-- What `get_control_value` answers: the status, `value_size`, `values_length` and
the bytes written to `values`. -/
structure ControlValue where
  status : UInt8
  valueSize : ℕ
  valuesLength : UInt16
  values : List UInt8

structure AecpEnv where
  /-- The six bytes `memcpy(.., &src_addr, 6)` copies: those of the pointer. -/
  srcAddrPointer : Vector UInt8 6
  /-- The local time that `avb_timer_expired` reads. -/
  pollTime : ℕ
  /-- The local time that `start_avb_timer` reads. -/
  restartTime : ℕ
  sinkInfo : ℕ → AvbEndpointInfo
  sourceInfo : ℕ → AvbEndpointInfo
  mediaClockInfo : ℕ → MediaClockInfo
  getControlValue : ℕ → ControlValue
  setControlStatus : UInt8
  getSignalSelector : ℕ → UInt8 × UInt16 × UInt16 × UInt16
  setSignalSelectorStatus : UInt8
  /-- `fl_getFactoryImage` succeeds. -/
  factoryImage : Bool
  /-- The attempts of `fl_startImageAdd` or `fl_startImageReplace` that are still in
  progress: whether the interval of the progress message has passed. -/
  imageAttempts : List Bool
  imageFails : Bool
  /-- `fl_writeImagePage` fails at an offset. -/
  pageWriteFails : ℕ → Bool
  availableIndex : ℕ
  gptpGrandmasterId : Vector UInt8 8

inductive AecpAct where
  | store (offset : ℕ) (bytes : List UInt8)
  | send (len : ℕ)
  | setSinkInfo (i : ℕ) (info : AvbEndpointInfo)
  | setSourceInfo (i : ℕ) (info : AvbEndpointInfo)
  | setSinkState (i : ℕ) (state : AvbStreamState)
  | setSourceState (i : ℕ) (state : AvbStreamState)
  | setMediaClockState (i : ℕ) (enabled : Bool)
  | setMediaClockRate (i : ℕ) (rate : ℤ)
  | setMediaClockType (i clockType : ℕ)
  | setControlValue (i : ℕ) (values : List UInt8)
  | setSignalSelector (i signalType signalIndex signalOutput : ℕ)
  | writeImagePage (page : List UInt8)
  | deviceReboot
  | trap

def playStores (buf : Mem) : List AecpAct → Mem
  | [] => buf
  | .store a bs :: acts => playStores (buf.store a bs) acts
  | _ :: acts => playStores buf acts

/-! ## Responses -/

variable (cfg : AecpConfig) (env : AecpEnv) (st : AecpState)
variable (dest : Vector UInt8 6) (cmd : AemCommand) (pkt : Mem) (srcAddr : Vector UInt8 6)
  (status : UInt8) (numPktBytes : ℕ)

/-- The bytes `avb_1722_1_create_1722_1_header` writes.  Status and length share a
byte, and neither is masked. -/
def header1722 (subtype messageType : ℕ) (status : UInt8) (dataLen : ℕ) : List UInt8 :=
  dest.toList ++ cfg.myMacAddr.toList ++
    [0x22, 0xf0, UInt8.ofNat (0x80 + subtype), UInt8.ofNat messageType,
      UInt8.ofNat (status.toNat * 8) ||| UInt8.ofNat (dataLen / 256), UInt8.ofNat dataLen]

def aecpSubtype : ℕ := 0x7b

/-- `avb_1722_1_create_aecp_response_header`: the header, and the guids and the
sequence id of the command. -/
def createAecpResponseHeader (messageType dataLen : ℕ) (pkt : Mem) : List AecpAct :=
  [.store 0 (header1722 cfg dest aecpSubtype (messageType + 1) status dataLen),
    .store 18 (pkt.load 4 18)]

def createAecpAemResponse (commandDataLen : ℕ) (pkt : Mem) : List AecpAct :=
  createAecpResponseHeader cfg srcAddr status 0 (commandDataLen + 12) pkt
    ++ [.store aecpResponsePayload (pkt.load aecpPayloadOffset (commandDataLen + 2))]

/-- The length passed to `eth_send_packet`: at least 64 bytes. -/
def txBytes (n : ℕ) : ℕ := if n < 64 then 64 else n

def createControllerAvailablePacket : List AecpAct :=
  [.store 0 (header1722 cfg st.acquiredControllerMac aecpSubtype 0 AemStatus.success
      aecpCommandDataOffset),
    .store 18 (beBytes 8 st.acquiredControllerGuid ++ beBytes 8 cfg.myGuid.toNat
      ++ beBytes 2 st.controllerAvailableSequence.toNat),
    .store aecpResponsePayload [0, 3]]

/-- `sizeof(avb_1722_1_aem_acquire_entity_command_t)`. -/
def acquireEntityCommandSize : ℕ := 16

def createAcquireResponsePacket : List AecpAct :=
  [.store (aecpResponsePayload + 2) [st.pendingPersistent],
    .store (aecpResponsePayload + 6) (beBytes 8 st.acquiredControllerGuid ++ [0, 0, 0, 0]),
    .store 0 (header1722 cfg st.pendingControllerMac aecpSubtype 1 status
      (aecpCommandDataOffset + acquireEntityCommandSize)),
    .store 18 (beBytes 8 cfg.myGuid.toNat ++ beBytes 8 st.pendingControllerGuid
      ++ beBytes 2 st.pendingControllerSequence),
    .store aecpResponsePayload [0, 0]]

/-- What `avb_1722_1_create_acquire_response_packet` returns. -/
def acquireResponseLength : ℕ := acquireEntityCommandSize + aecpPayloadOffset

/-! ## Descriptors -/

/-- `avb_itoa` in base 10: no digit for zero, then filled up with zeros. -/
def avbItoa (n fill : ℕ) : List UInt8 :=
  (((Nat.digits 10 n).map fun d => UInt8.ofNat (48 + d))
    ++ List.replicate (fill - (Nat.digits 10 n).length) 48).reverse

/-- The text `generate_object_name` appends. -/
def generateObjectName (base n : ℕ) : List UInt8 :=
  if n ≠ 0 then avbItoa (base * n + 1) 1 ++ [45] ++ avbItoa (base * n + n) 0
  else avbItoa (base + 1) 1

def generateDescriptor (readType readId : ℕ) (desc : Mem) : Mem :=
  -- the low byte of `descriptor_index`
  let desc := desc.store 3 [UInt8.ofNat readId]
  let clear := List.replicate 64 0
  let id := if cfg.numMediaOutputs ≤ readId then readId - cfg.numMediaOutputs else readId
  if readType = AemType.audioCluster then
    -- "Channel "
    (desc.store 4 clear).store 4
      ([67, 104, 97, 110, 110, 101, 108, 32] ++ generateObjectName id 0)
  else if readType = AemType.streamOutput then
    -- "Output "
    (desc.store 4 clear).store 4
      ([79, 117, 116, 112, 117, 116, 32]
        ++ generateObjectName id (cfg.numMediaInputs / cfg.numSources))
  else if readType = AemType.streamInput then
    -- "Input "
    (desc.store 4 clear).store 4
      ([73, 110, 112, 117, 116, 32]
        ++ generateObjectName (readId % 256) (cfg.numMediaOutputs / cfg.numSinks))
  else if readType = AemType.streamPortOutput then
    (desc.store 14
      (beBytes 2 (cfg.numMediaOutputs + readId * cfg.numMediaInputs / cfg.numSources))).store 18
      (beBytes 2 (cfg.numSources + readId))
  else if readType = AemType.streamPortInput then
    (desc.store 14 (beBytes 2 (readId * cfg.numMediaOutputs / cfg.numSinks))).store 18
      (beBytes 2 readId)
  else desc

def onFlyDescriptor (readType readId : ℕ) : Option AemDescriptor :=
  if ¬ cfg.generateDescriptorsOnFly then none
  else if readType = AemType.audioCluster then
    if readId < cfg.numMediaOutputs + cfg.numMediaInputs then some ⟨87, cfg.audioClusterTemplate⟩
    else none
  else if cfg.numSources = 0 then none
  else if readType = AemType.streamInput then
    if readId < cfg.numSinks then some cfg.streamInput0 else none
  else if readType = AemType.streamPortInput then
    if readId < cfg.numSinks then some ⟨20, cfg.streamPortInput0⟩ else none
  else if readType = AemType.streamOutput then
    if readId < cfg.numSources then some cfg.streamOutput0 else none
  else if readType = AemType.streamPortOutput then
    if readId < cfg.numSources then some ⟨20, cfg.streamPortOutput0⟩ else none
  else none

def numMappings (readId : ℕ) : ℕ :=
  if 0 < cfg.numSinks ∧ 0 < cfg.numSources then
    if readId < cfg.numSinks then cfg.numMediaOutputs / cfg.numSinks
    else cfg.numMediaInputs / cfg.numSources
  else if 0 < cfg.numSources then
    if readId < cfg.numSources then cfg.numMediaInputs / cfg.numSources else 0
  else if readId < cfg.numSinks then cfg.numMediaOutputs / cfg.numSinks else 0

def storeAudioMap (readId : ℕ) : List AecpAct :=
  let n := numMappings cfg readId
  [.store aecpResponseDescriptor (List.replicate (8 + 8 * n) 0),
    .store aecpResponseDescriptor
      (beBytes 2 AemType.audioMap ++ beBytes 2 readId ++ beBytes 2 8 ++ beBytes 2 n)]
  ++ (List.range n).map fun i =>
    .store (aecpResponseDescriptor + 8 + 8 * i)
      (beBytes 2 (readId % cfg.numSinks) ++ beBytes 2 i ++ beBytes 2 i ++ beBytes 2 0)

structure DescriptorSearch where
  found : Bool
  descriptor : AemDescriptor

def searchGroup (objects : ℕ → Mem) (readId : ℕ) :
    DescriptorSearch → List AemDescriptor → DescriptorSearch
  | acc, [] => acc
  | acc, d :: ds =>
    if field16 (objects d.object) 2 = readId then ⟨true, d⟩
    else searchGroup objects readId { acc with descriptor := d } ds

/-- The search in `aem_descriptor_list`, which ends at the first type that is larger. -/
def searchDescriptors (objects : ℕ → Mem) (readType readId : ℕ) :
    DescriptorSearch → List AemDescriptorGroup → DescriptorSearch
  | acc, [] => acc
  | acc, g :: gs =>
    if g.type ≤ readType then
      searchDescriptors objects readType readId
        (if g.type = readType then searchGroup objects readId acc g.descriptors else acc) gs
    else acc

inductive ReadAnswer where
  | descriptor (d : AemDescriptor)
  | audioMap
  | notFound

/-- Which descriptor `create_aem_read_descriptor_response` answers with. -/
def readAnswer (objects : ℕ → Mem) (readType readId : ℕ) : ReadAnswer :=
  match onFlyDescriptor cfg readType readId with
  | some d => .descriptor d
  | none =>
    if cfg.generateDescriptorsOnFly ∧ readType = AemType.audioMap then
      if readId < cfg.numSinks + cfg.numSources then .audioMap else .notFound
    else
      let search := searchDescriptors objects readType readId ⟨false, ⟨0, 0⟩⟩ cfg.descriptorList
      if search.found then .descriptor search.descriptor else .notFound

def sfcFromSamplingRate (rate : ℤ) : ℕ :=
  if rate = 32000 then 0
  else if rate = 44100 then 1
  else if rate = 48000 then 2
  else if rate = 88200 then 3
  else if rate = 96000 then 4
  else if rate = 176400 then 5
  else if rate = 192000 then 6
  else 0

def samplingRateFromSfc : ℕ → ℤ
  | 0 => 32000
  | 1 => 44100
  | 2 => 48000
  | 3 => 88200
  | 4 => 96000
  | 5 => 176400
  | 6 => 192000
  | _ => 0

/-- The bytes `get_stream_format_field` writes. -/
def streamFormatField (stream : AvbStreamInfo) : List UInt8 :=
  [0x00, 0xa0, UInt8.ofNat (sfcFromSamplingRate stream.rate), stream.numChannels, 0x40, 0,
    stream.numChannels, 0]

/-- `sizeof(aem_desc_control_t)`. -/
def aemDescControlSize : ℕ := 104

/-- The `control_value_type` of the descriptor in the buffer is a linear one: the
signed field is at most `AEM_CONTROL_LINEAR_DOUBLE`. -/
def linearControl (buf : Mem) : Bool :=
  let v := field16 buf (aecpResponseDescriptor + 80)
  decide (v ≤ 9 ∨ 0x8000 ≤ v)

/-- `set_current_fields_in_descriptor`, over the buffer as it is then.  The flag says
that the call returns: `fail` stops the device. -/
def setCurrentFieldsInDescriptor (buf : Mem) (readType readId : ℕ) : List AecpAct × Bool :=
  if readType = AemType.audioUnit then
    ([.store (aecpResponseDescriptor + 136) (beBytes 4 (u32 (env.mediaClockInfo 0).rate))], true)
  else if readType = AemType.clockDomain then
    ([.store (aecpResponseDescriptor + 70) (beBytes 2 (env.mediaClockInfo 0).clockType)], true)
  else if readType = AemType.streamInput then
    ([.store (aecpResponseDescriptor + 74) (streamFormatField (env.sinkInfo readId).stream)], true)
  else if readType = AemType.streamOutput then
    ([.store (aecpResponseDescriptor + 74) (streamFormatField (env.sourceInfo readId).stream)],
      true)
  else if readType = AemType.control then
    let v := env.getControlValue (readId % 65536)
    if v.valueSize ≠ v.valuesLength.toNat then ([.trap], false)
    else if linearControl buf then
      ([.store (aecpResponseDescriptor + aemDescControlSize + 4 * v.valueSize)
        ((v.values ++ List.replicate v.valueSize 0).take v.valueSize)], true)
    else ([.trap], false)
  else if readType = AemType.signalSelector then
    let (_, signalType, signalIndex, signalOutput) := env.getSignalSelector (readId % 65536)
    ([.store (aecpResponseDescriptor + 84)
      (beBytes 2 signalType.toNat ++ beBytes 2 signalIndex.toNat ++ beBytes 2 signalOutput.toNat)],
      true)
  else ([], true)

def readDescriptorHeader (descSize : ℕ) (pkt : Mem) : List AecpAct :=
  createAecpResponseHeader cfg srcAddr AemStatus.success 0 (descSize + 16) pkt
    ++ [.store aecpResponsePayload (pkt.load aecpPayloadOffset 6)]

def finishDescriptor (buf : Mem) (readType readId descSize : ℕ) (acts : List AecpAct) :
    List AecpAct :=
  let fields := setCurrentFieldsInDescriptor env (playStores buf acts) readType readId
  acts ++ fields.1
    ++ if fields.2 then [.send (txBytes (aecpResponseDescriptor + descSize))] else []

/-- The `READ_DESCRIPTOR` command: `create_aem_read_descriptor_response` and the frame
sent.  A copied descriptor brings 40 bytes of what lies behind it. -/
def processAemCmdReadDescriptor : AecpState × List AecpAct :=
  let readType := signedField16 pkt 28
  let readId := signedField16 pkt 30
  match readAnswer cfg st.descriptors readType readId with
  | .descriptor d =>
    let desc :=
      if (onFlyDescriptor cfg readType readId).isSome then
        generateDescriptor cfg readType readId (st.descriptors d.object)
      else st.descriptors d.object
    ({ st with descriptors := Function.update st.descriptors d.object desc },
      finishDescriptor env st.buf readType readId d.size
        (readDescriptorHeader cfg srcAddr d.size pkt
          ++ [.store aecpResponseDescriptor (desc.load 0 (d.size + 40))]))
  | .audioMap =>
    let size := 8 + 8 * numMappings cfg readId
    (st, finishDescriptor env st.buf readType readId size
      (storeAudioMap cfg readId ++ readDescriptorHeader cfg srcAddr size pkt))
  | .notFound =>
    (st, createAecpResponseHeader cfg srcAddr AemStatus.noSuchDescriptor 0 40 pkt
      ++ [.store aecpResponsePayload (pkt.load aecpPayloadOffset 28), .send (txBytes 46)])

/-! ## Commands -/

structure AemOutcome where
  state : AecpState
  pkt : Mem
  status : UInt8
  cdLen : ℤ
  reboot : Bool
  acts : List AecpAct

def AemOutcome.reply (cdLen : ℕ) (r : Mem × UInt8 × List AecpAct) : AemOutcome :=
  ⟨st, r.1, r.2.1, cdLen, false, r.2.2⟩

def setOwnerGuid : Mem :=
  pkt.store 28 (beBytes 8 st.acquiredControllerGuid)

def startControllerAvailable : AecpState × List AecpAct :=
  let st := { st with
    pendingControllerGuid := guidField pkt 12
    pendingControllerMac := env.srcAddrPointer
    pendingControllerSequence := field16 pkt 20
    pendingPersistent := pkt 27 &&& 1
    controllerAvailableSequence := st.controllerAvailableSequence + 1 }
  ({ st with
      controllerAvailableTimer := startAvbTimer env.restartTime 12 st.controllerAvailableTimer
      controllerAvailableState := .inA
      entityAcquiredStatus := .acquiredButPending },
    createControllerAvailablePacket cfg st ++ [.send 64])

/-- The length `process_aem_cmd_acquire` returns, an unsigned short. -/
def acquireCdLen : ℕ :=
  (dataLength1722 pkt + 65536 - aecpCommandDataOffset) % 65536

def acquireOutcome (acts : List AecpAct) :
    AemOutcome := ⟨st, pkt, status, acquireCdLen pkt, false, acts⟩

/-- The release branch of `process_aem_cmd_acquire`. -/
def releaseEntity : AemOutcome :=
  if st.entityAcquiredStatus = .notAcquired then acquireOutcome st pkt AemStatus.badArguments []
  else if guidField pkt 12 = st.acquiredControllerGuid then
    acquireOutcome { st with
      entityAcquiredStatus := .notAcquired
      acquiredControllerGuid := 0
      acquiredControllerMac := Vector.replicate 6 0 } pkt AemStatus.success []
  else acquireOutcome st (setOwnerGuid st pkt) AemStatus.entityAcquired []

def acquiredStatus (persistent : Bool) : EntityAcquiredStatus :=
  if persistent then .acquiredAndPersistent else .acquired

/-- The acquire branch of `process_aem_cmd_acquire`. -/
def acquireEntity : AemOutcome :=
  match st.entityAcquiredStatus with
  | .notAcquired =>
    let st := { st with
      entityAcquiredStatus := acquiredStatus (pkt 27 &&& 1 ≠ 0)
      acquiredControllerGuid := guidField pkt 12
      acquiredControllerMac := env.srcAddrPointer }
    acquireOutcome st (setOwnerGuid st pkt) AemStatus.success []
  | .acquiredButPending => acquireOutcome st pkt AemStatus.success []
  | .acquired =>
    if guidField pkt 12 = st.acquiredControllerGuid then
      acquireOutcome st (setOwnerGuid st pkt) AemStatus.success []
    else
      let r := startControllerAvailable cfg env st pkt
      acquireOutcome r.1 (setOwnerGuid r.1 pkt) AemStatus.inProgress r.2
  | .acquiredAndPersistent =>
    acquireOutcome st (setOwnerGuid st pkt)
      (if guidField pkt 12 = st.acquiredControllerGuid then AemStatus.success
        else AemStatus.entityAcquired) []

def processAemCmdAcquire : AemOutcome :=
  if ¬ (field16 pkt 36 = AemType.entity ∧ field16 pkt 38 = 0) then
    acquireOutcome st pkt AemStatus.notSupported []
  else if pkt 24 &&& 0x80 ≠ 0 then releaseEntity st pkt
  else acquireEntity cfg env st pkt

def streamOf (descType streamIndex : ℕ) : Option AvbEndpointInfo :=
  if descType = AemType.streamInput ∧ streamIndex < cfg.numSinks then
    some (env.sinkInfo streamIndex)
  else if descType = AemType.streamOutput ∧ streamIndex < cfg.numSources then
    some (env.sourceInfo streamIndex)
  else none

/-- `_set_sink_info` or `_set_source_info`. -/
def setStreamOf (descType streamIndex : ℕ) (info : AvbEndpointInfo) : AecpAct :=
  if descType = AemType.streamInput then .setSinkInfo streamIndex info
  else .setSourceInfo streamIndex info

def processAemCmdGetsetStreamFormat : Mem × UInt8 × List AecpAct :=
  match streamOf cfg env (field16 pkt 24) (field16 pkt 26) with
  | none => (pkt, AemStatus.noSuchDescriptor, [])
  | some info =>
    if cmd = .getStreamFormat then
      (pkt.store 28 (streamFormatField info.stream), AemStatus.success, [])
    else if info.stream.state = .enabled then (pkt, AemStatus.streamIsRunning, [])
    else
      let stream := { info.stream with
        numChannels := pkt 34
        rate := samplingRateFromSfc (pkt 30).toNat
        format := 0 }
      (pkt, AemStatus.success,
        [setStreamOf (field16 pkt 24) (field16 pkt 26) { info with stream := stream }])

/-- The stream info written into the response.  `flags` is what the code's
conditional expression yields: its condition is the whole disjunction, which is
never zero. -/
def streamInfoFields (info : AvbEndpointInfo) : List UInt8 :=
  beBytes 4 0x08000000 ++ streamFormatField info.stream
    ++ beBytes 4 info.reservation.streamId0.toNat ++ beBytes 4 info.reservation.streamId1.toNat
    ++ beBytes 4 info.reservation.accumulatedLatency.toNat
    ++ info.reservation.destMacAddr.toList ++ [info.reservation.failureCode]

def processAemCmdGetsetStreamInfo : Mem × UInt8 × List AecpAct :=
  match streamOf cfg env (field16 pkt 24) (field16 pkt 26) with
  | none => (pkt, AemStatus.noSuchDescriptor, [])
  | some info =>
    if cmd = .getStreamInfo then
      ((pkt.store 28 (streamInfoFields info)).store 60
        (info.reservation.failureBridgeId.toList ++ beBytes 2 info.reservation.vlanId.toNat),
        AemStatus.success, [])
    else if info.stream.state ≠ .disabled then (pkt, AemStatus.streamIsRunning, [])
    else
      -- AECP_STREAM_INFO_FLAGS_STREAM_VLAN_ID_VALID
      let vlanId := if pkt 28 &&& 2 ≠ 0 then UInt16.ofNat (field16 pkt 68)
        else info.reservation.vlanId
      (pkt, AemStatus.success, [setStreamOf (field16 pkt 24) (field16 pkt 26)
        { info with reservation := { info.reservation with vlanId := vlanId } }])

def processAemCmdGetsetSamplingRate : Mem × UInt8 × List AecpAct :=
  let clock := field16 pkt 26
  if ¬ clock < cfg.numMediaClocks then (pkt, AemStatus.noSuchDescriptor, [])
  else if cmd = .getSamplingRate then
    (pkt.store 28 (beBytes 4 (u32 (env.mediaClockInfo clock).rate)), AemStatus.success, [])
  else
    (pkt, AemStatus.success, [.setMediaClockState clock false,
      .setMediaClockRate clock (s32 (beNat (pkt.load 28 4))), .setMediaClockState clock true])

def processAemCmdGetsetClockSource : Mem × UInt8 × List AecpAct :=
  let clock := field16 pkt 26
  if ¬ clock < cfg.numMediaClocks then (pkt, AemStatus.noSuchDescriptor, [])
  else if cmd = .getClockSource then
    (pkt.store 28 (beBytes 2 (env.mediaClockInfo clock).clockType), AemStatus.success, [])
  else
    (pkt, AemStatus.success, [.setMediaClockState clock false,
      .setMediaClockType clock (signedField16 pkt 28), .setMediaClockState clock true])

def processAemCmdStartstopStreaming : Mem × UInt8 × List AecpAct :=
  let i := field16 pkt 26
  if field16 pkt 24 = AemType.streamInput then
    if ¬ i < cfg.numSinks then (pkt, AemStatus.noSuchDescriptor, [])
    else if cmd = .startStreaming then
      (pkt, AemStatus.success, [.setSinkState i .potential, .setSinkState i .enabled])
    else if (env.sinkInfo i).stream.state = .enabled then
      (pkt, AemStatus.success, [.setSinkState i .potential, .setSinkState i .disabled])
    else (pkt, AemStatus.success, [.setSinkState i .disabled])
  else if field16 pkt 24 = AemType.streamOutput then
    if ¬ i < cfg.numSources then (pkt, AemStatus.noSuchDescriptor, [])
    else if cmd = .startStreaming then (pkt, AemStatus.success, [.setSourceState i .enabled])
    else if (env.sourceInfo i).stream.state = .enabled then
      (pkt, AemStatus.success, [.setSourceState i .potential])
    else (pkt, AemStatus.success, [])
  else (pkt, AemStatus.success, [])

/-- `process_aem_cmd_getset_signal_selector`.  What the application answers to a GET is
not written back. -/
def processAemCmdGetsetSignalSelector : Mem × UInt8 × List AecpAct :=
  if field16 pkt 24 ≠ AemType.signalSelector then (pkt, AemStatus.badArguments, [])
  else if cmd = .getSignalSelector then (pkt, (env.getSignalSelector (field16 pkt 26)).1, [])
  else (pkt, env.setSignalSelectorStatus, [.setSignalSelector (field16 pkt 26) (field16 pkt 28)
    (field16 pkt 30) (field16 pkt 32)])

def processAemCmdGetCounters : Mem × UInt8 × List AecpAct :=
  if field16 pkt 24 ≠ AemType.clockDomain then (pkt, AemStatus.notSupported, [])
  else if ¬ field16 pkt 26 < cfg.numMediaClocks then (pkt, AemStatus.noSuchDescriptor, [])
  else
    let info := env.mediaClockInfo (field16 pkt 26)
    (pkt.store 28 (beBytes 4 3 ++ beBytes 4 (u32 info.lockCounter)
      ++ beBytes 4 (u32 info.unlockCounter) ++ List.replicate 120 0), AemStatus.success, [])

/-- The `values_length` computed from the packet, an unsigned short. -/
def controlValuesLength : ℕ :=
  (dataLength1722 pkt + 65536 - 4 - aecpCommandDataOffset) % 65536

/-- `process_aem_cmd_getset_control`, with the length it returns. -/
def processAemCmdGetsetControl : (Mem × UInt8 × List AecpAct) × ℕ :=
  if field16 pkt 24 ≠ AemType.control then
    ((pkt, AemStatus.badArguments, []), controlValuesLength pkt)
  else if cmd = .getControl then
    let v := env.getControlValue (field16 pkt 26)
    ((pkt.store 28 v.values, v.status, []), v.valuesLength.toNat)
  else
    ((pkt, env.setControlStatus,
      [.setControlValue (field16 pkt 26) (pkt.load 28 (controlValuesLength pkt))]),
      controlValuesLength pkt)

/-! ## Firmware -/

def flashPageSize : ℕ := 256

/-- The `AEM_MEMORY_OBJECT_OPERATION` values. -/
inductive MemoryOperation where
  | store
  | storeAndReboot
  | erase
  | upload
  | other
  deriving DecidableEq, Repr

def MemoryOperation.ofCode : ℕ → MemoryOperation
  | 0 => .store
  | 1 => .storeAndReboot
  | 3 => .erase
  | 4 => .upload
  | _ => .other

/-- A response of `process_aem_cmd_start_abort_operation`, sent at once. -/
def operationResponse (pkt : Mem) : List AecpAct :=
  createAecpAemResponse cfg srcAddr status (dataLength1722 pkt) pkt
    ++ [.send (txBytes (8 + aecpPayloadOffset))]

/-- `UPLOAD` and `ERASE`: progress messages while the flash library is busy, then the
response. -/
def startUpload : AemOutcome :=
  if ¬ env.factoryImage then ⟨st, pkt, AemStatus.entityMisbehaving, 0, false, []⟩
  else
    let status := if env.imageFails then AemStatus.entityMisbehaving else AemStatus.success
    let progress := env.imageAttempts.flatMap fun elapsed =>
      if elapsed then operationResponse cfg srcAddr AemStatus.inProgress pkt else []
    ⟨if env.imageFails then st else { st with writeOffset := 0 }, pkt, status, 0, false,
      progress ++ operationResponse cfg srcAddr status pkt⟩

/-- `STORE` and `STORE_AND_REBOOT`: the response, then an unsolicited
`OPERATION_STATUS` made from the same packet. -/
def startStore (reboot : Bool) : AemOutcome :=
  let pkt := pkt.store 28 (beBytes 2 (u32 st.operationId))
  let done := (pkt.store 22 [0x80, 54]).store 30 (beBytes 2 1000)
  ⟨{ st with operationId := s32 (st.operationId + 1) }, done, AemStatus.success, 0, reboot,
    operationResponse cfg srcAddr AemStatus.success pkt
      ++ operationResponse cfg srcAddr AemStatus.success done⟩

def processAemCmdStartAbortOperation : AemOutcome :=
  let cdLen : ℤ := (dataLength1722 pkt : ℤ) - aecpCommandDataOffset
  if cmd = .startOperation ∧ field16 pkt 24 = AemType.memoryObject ∧ field16 pkt 26 = 0 then
    match MemoryOperation.ofCode (field16 pkt 30) with
    | .upload | .erase => startUpload cfg env st pkt srcAddr
    | .store => startStore cfg st pkt srcAddr false
    | .storeAndReboot => startStore cfg st pkt srcAddr true
    | .other => ⟨st, pkt, AemStatus.badArguments, cdLen, false, []⟩
  else if cmd = .abortOperation then
    ⟨{ st with aaBytesCopied := 0, aaFlashWriteAddr := 0, aaNextWriteAddress := 0 }, pkt,
      AemStatus.success, cdLen, false, []⟩
  else ⟨st, pkt, AemStatus.noSuchDescriptor, cdLen, false, []⟩

structure AaLoop where
  bytesCopied : ℕ
  flashWriteAddr : ℕ
  writeOffset : ℕ
  pageBuf : Mem
  bytesAvailable : ℤ
  packetIndex : ℕ
  status : UInt8
  pages : List (List UInt8)

/-- `avb_write_upgrade_image_page`, and the address moved on. -/
def AaLoop.writePage (s : AaLoop) (page : List UInt8) : AaLoop :=
  let inOrder := decide (s.flashWriteAddr = s.writeOffset)
  let written := inOrder && !env.pageWriteFails s.writeOffset
  { s with
    flashWriteAddr := (s.flashWriteAddr + flashPageSize) % 2 ^ 32
    bytesAvailable := s.bytesAvailable - flashPageSize
    status := if written then s.status else AaStatus.addressInvalid
    writeOffset := if written then (s.writeOffset + flashPageSize) % 2 ^ 32 else s.writeOffset
    pages := if inOrder then s.pages ++ [page] else s.pages }

def AaLoop.body (data length : ℕ) (s : AaLoop) : AaLoop :=
  if s.bytesCopied = 0 then
    if s.packetIndex = 0 ∨ s.packetIndex + flashPageSize ≤ length then
      { s.writePage env (pkt.load (data + s.packetIndex) flashPageSize) with
        packetIndex := s.packetIndex + flashPageSize }
    else
      { s with
        pageBuf := s.pageBuf.store 0 (pkt.load (data + s.packetIndex) s.bytesAvailable.toNat)
        bytesCopied := s.bytesAvailable.toNat
        bytesAvailable := 0
        packetIndex := 0 }
  else if s.bytesCopied = flashPageSize then
    { s.writePage env (s.pageBuf.load 0 flashPageSize) with bytesCopied := 0 }
  else
    { s with
      pageBuf := s.pageBuf.store s.bytesCopied
        (pkt.load (data + s.packetIndex) (flashPageSize - s.bytesCopied))
      bytesCopied := flashPageSize
      packetIndex := s.packetIndex + (flashPageSize - s.bytesCopied) }

def AaLoop.rest (env : AecpEnv) (pkt : Mem) (data length : ℕ) : ℕ → AaLoop → AaLoop
  | 0, s => s
  | fuel + 1, s =>
    if 0 < s.bytesAvailable then AaLoop.rest env pkt data length fuel (s.body env pkt data length)
    else s

def AaLoop.run (data length : ℕ) (s : AaLoop) : AaLoop :=
  AaLoop.rest env pkt data length 20 (s.body env pkt data length)

def writeUpgradeData (length : ℕ) : AecpState × UInt8 × List AecpAct :=
  let s := AaLoop.run env pkt 34 length
    ⟨st.aaBytesCopied, st.aaFlashWriteAddr, st.writeOffset, st.flashPageBuf,
      (length : ℤ) + st.aaBytesCopied, 0, AaStatus.success, []⟩
  ({ st with
      aaBytesCopied := s.bytesCopied
      aaFlashWriteAddr := s.flashWriteAddr
      aaNextWriteAddress := (st.aaNextWriteAddress + length) % 2 ^ 32
      flashPageBuf := s.pageBuf
      writeOffset := s.writeOffset },
    s.status, s.pages.map .writeImagePage)

def processAecpAddressAccessCmd : AecpState × List AecpAct :=
  if guidField pkt 4 ≠ cfg.myGuid.toNat then (st, [])
  else
    let length := (pkt 24).toNat % 16 * 256 + (pkt 25).toNat
    let (st, status, acts) :=
      if field16 pkt 22 ≠ 1 ∨ (pkt 24).toNat / 16 ≠ 1 then (st, AaStatus.tlvInvalid, [])
      else if st.aaNextWriteAddress ≠ beNat (pkt.load 30 4) then (st, AaStatus.addressInvalid, [])
      else writeUpgradeData env st pkt length
    (st, acts ++ createAecpResponseHeader cfg srcAddr status 2 (dataLength1722 pkt) pkt
      ++ [.store aecpResponsePayload (pkt.load aecpPayloadOffset 514),
        .send (txBytes (numPktBytes + ethernetHdrSize))])

/-! ## Dispatch -/

def adpDepartImmediately : List AecpAct :=
  [.store ethernetHdrSize (List.replicate 68 0),
    .store 0 (header1722 cfg cfg.adpDestAddr 0x7a 1 0 56),
    .store 18 (beBytes 8 cfg.myGuid.toNat ++ beBytes 4 cfg.adp.vendorId
      ++ beBytes 4 cfg.adp.entityModelId ++ beBytes 4 cfg.adp.entityCapabilities
      ++ beBytes 2 cfg.adp.talkerStreamSources ++ beBytes 2 cfg.adp.talkerCapabilities
      ++ beBytes 2 cfg.adp.listenerStreamSinks ++ beBytes 2 cfg.adp.listenerCapabilities
      ++ beBytes 4 cfg.adp.controllerCapabilities ++ beBytes 4 env.availableIndex
      ++ env.gptpGrandmasterId.toList ++ [0]),
    .store 66 (beBytes 2 cfg.adp.identifyControlIndex ++ beBytes 2 0
      ++ beBytes 4 cfg.adp.associationId),
    .send 82]

/-- The end of `process_avb_1722_1_aecp_aem_msg`: the response is sent, and the device
reboots if it was asked to. -/
def finishAemMsg (cdLen : ℤ) (reboot : Bool) : List AecpAct :=
  (if 0 < cdLen then [.send (txBytes (cdLen.toNat + 2 + aecpPayloadOffset + ethernetHdrSize))]
    else [])
  ++ if reboot then adpDepartImmediately cfg env ++ [.deviceReboot] else []

def AemOutcome.respond (o : AemOutcome) : AecpState × List AecpAct :=
  (o.state, o.acts
    ++ (if 0 < o.cdLen then createAecpAemResponse cfg srcAddr o.status o.cdLen.toNat o.pkt else [])
    ++ finishAemMsg cfg env o.cdLen o.reboot)

def notImplementedResponse (pkt : Mem) (numPktBytes : ℕ) : List AecpAct :=
  createAecpResponseHeader cfg srcAddr AemStatus.notImplemented 0 (dataLength1722 pkt) pkt
    ++ [.store aecpResponsePayload
        (pkt.load aecpPayloadOffset (u32 ((numPktBytes : ℤ) - aecpPayloadOffset))),
      .send (txBytes (numPktBytes + ethernetHdrSize))]

def handleAemCommand : AemOutcome :=
  let reply := AemOutcome.reply st
  match cmd with
  | .acquireEntity => processAemCmdAcquire cfg env st pkt
  | .entityAvailable => reply aecpPayloadOffset (pkt, AemStatus.success, [])
  | .reboot => ⟨st, pkt, AemStatus.success, aecpPayloadOffset, true, []⟩
  | .getStreamInfo | .setStreamInfo => reply 48 (processAemCmdGetsetStreamInfo cfg env cmd pkt)
  | .getStreamFormat | .setStreamFormat =>
    reply 12 (processAemCmdGetsetStreamFormat cfg env cmd pkt)
  | .getSamplingRate | .setSamplingRate =>
    reply 8 (processAemCmdGetsetSamplingRate cfg env cmd pkt)
  | .getClockSource | .setClockSource => reply 8 (processAemCmdGetsetClockSource cfg env cmd pkt)
  | .startStreaming | .stopStreaming => reply 4 (processAemCmdStartstopStreaming cfg env cmd pkt)
  | .getControl | .setControl =>
    let r := processAemCmdGetsetControl env cmd pkt
    reply (r.2 + 4 + aecpCommandDataOffset) r.1
  | .getSignalSelector | .setSignalSelector =>
    reply 12 (processAemCmdGetsetSignalSelector env cmd pkt)
  | .getCounters => reply 136 (processAemCmdGetCounters cfg env pkt)
  | .startOperation | .abortOperation =>
    if cfg.firmwareUpgradeEnabled then
      processAemCmdStartAbortOperation cfg env st cmd pkt srcAddr
    else ⟨st, pkt, AemStatus.success, 0, false, []⟩
  | .lockEntity | .controllerAvailable | .readDescriptor | .other =>
    ⟨st, pkt, AemStatus.success, 0, false, []⟩

/-- The command branch of `process_avb_1722_1_aecp_aem_msg`.  `CONTROLLER_AVAILABLE` is
a command the device sends and does not implement. -/
def processAemCommand : AecpState × List AecpAct :=
  if guidField pkt 4 ≠ cfg.myGuid.toNat then (st, [])
  else
    match AemCommand.ofCode (aemCommandCode pkt) with
    | .readDescriptor => processAemCmdReadDescriptor cfg env st pkt srcAddr
    | .controllerAvailable | .other =>
      (st, notImplementedResponse cfg srcAddr pkt numPktBytes)
    | cmd => (handleAemCommand cfg env st cmd pkt srcAddr).respond cfg env srcAddr

def processAemResponse : AecpState × List AecpAct :=
  if AemCommand.ofCode (aemCommandCode pkt) = .controllerAvailable
      ∧ st.entityAcquiredStatus = .acquiredButPending ∧ guidField pkt 12 = cfg.myGuid.toNat then
    if guidField pkt 4 = st.pendingControllerGuid then
      let st := { st with entityAcquiredStatus := .acquired, controllerAvailableState := .idle }
      (st, createAcquireResponsePacket cfg st AemStatus.success
        ++ finishAemMsg cfg env acquireResponseLength false)
    else if guidField pkt 4 = st.acquiredControllerGuid then
      let st := { st with
        entityAcquiredStatus := acquiredStatus (pkt 27 &&& 1 ≠ 0)
        controllerAvailableTimer := stopAvbTimer st.controllerAvailableTimer }
      (st, createAcquireResponsePacket cfg st AemStatus.entityAcquired
        ++ finishAemMsg cfg env acquireResponseLength false)
    else (st, [])
  else (st, [])

/-- The switch of `process_avb_1722_1_aecp_packet`. -/
def dispatchAecpPacket : AecpState × List AecpAct :=
  match AecpMessage.ofCode (messageType1722 pkt) with
  | .aemCommand =>
    if cfg.aemEnabled then processAemCommand cfg env st pkt srcAddr numPktBytes else (st, [])
  | .aemResponse => if cfg.aemEnabled then processAemResponse cfg env st pkt else (st, [])
  | .addressAccessCommand =>
    if cfg.firmwareUpgradeEnabled then
      processAecpAddressAccessCmd cfg env st pkt srcAddr numPktBytes
    else (st, [])
  | .other => (st, [])

/-- `process_avb_1722_1_aecp_packet`, with the buffer as the actions leave it. -/
def processAecpPacket : AecpState × List AecpAct :=
  let r := dispatchAecpPacket cfg env st pkt srcAddr numPktBytes
  ({ r.1 with buf := playStores st.buf r.2 }, r.2)

/-- The states a pending acquire goes through, with `available_timeouts`, in
centiseconds. -/
def ControllerAvailableState.next : ControllerAvailableState → ControllerAvailableState × ℕ
  | .inA => (.inB, 12)
  | .inB => (.inC, 1)
  | .inC => (.inD, 11)
  | .inD => (.inE, 12)
  | .inE => (.inF, 2)
  | .inF => (.idle, 0)
  | .idle => (.idle, 0)

/-- The switch of `avb_1722_1_aecp_aem_periodic`, when the timer has expired. -/
def controllerAvailableTimeout : AecpState × List AecpAct :=
  match st.controllerAvailableState with
  | .idle => (st, [])
  | .inF =>
    let st := { st with
      entityAcquiredStatus := acquiredStatus (st.pendingPersistent ≠ 0)
      acquiredControllerGuid := st.pendingControllerGuid
      acquiredControllerMac := st.pendingControllerMac
      controllerAvailableState := .idle }
    (st, createAcquireResponsePacket cfg st AemStatus.success
      ++ [.send (txBytes acquireResponseLength)])
  | s =>
    ({ st with
        controllerAvailableTimer :=
          startAvbTimer env.restartTime s.next.2 st.controllerAvailableTimer
        controllerAvailableState := s.next.1 },
      createAcquireResponsePacket cfg st AemStatus.inProgress
        ++ [.send (txBytes acquireResponseLength)])

def aecpAemPeriodic : AecpState × List AecpAct :=
  let polled := avbTimerExpired env.pollTime st.controllerAvailableTimer
  let st := { st with controllerAvailableTimer := polled.1 }
  if polled.2 then
    let r := controllerAvailableTimeout cfg env st
    ({ r.1 with buf := playStores st.buf r.2 }, r.2)
  else (st, [])
