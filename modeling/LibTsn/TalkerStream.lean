/-
# One talker stream

The configuration of a talker stream and the function that builds its packets,
`avb1722_create_packet`.  A call consumes one audio frame: it writes the
frame's samples into the transmit buffer and, when the packet is full, fills
in the header fields that change from packet to packet.

Addresses are those of the buffer `Buf0`, in which the packet starts two bytes in.
-/
import LibTsn.GptpTime

/-! ## Constants of the packet format -/

def avbEthernetHdrSize : ℕ := 18

def avbTpHdrSize : ℕ := 24

def avbCipHdrSize : ℕ := 8

def avb1722PacketRate : ℕ := 8000

def mbla24Bit : UInt32 := 0x40000000

def mbla20Bit : UInt32 := 0x41000000

def mbla16Bit : UInt32 := 0x42000000

def bufStart : ℕ := 2

def avbtpHdr : ℕ := bufStart + avbEthernetHdrSize

def cipHdr : ℕ := bufStart + (avbEthernetHdrSize + avbTpHdrSize)

def sampleStart : ℕ := bufStart + (avbEthernetHdrSize + avbTpHdrSize + avbCipHdrSize)

/-! ## Configuration -/

structure AudioFrame where
  timestamp : ℕ
  samples : List UInt32
  deriving DecidableEq, Repr

structure TalkerStreamConfig where
  active : ℕ := 0
  destMacAdrs : List UInt8 := []
  srcMacAdrs : List UInt8 := []
  streamId0 : ℕ := 0
  streamId1 : ℕ := 0
  numChannels : ℕ := 0
  map : List ℕ := []
  sampleType : UInt32 := 0
  currentSamplesInPacket : ℕ := 0
  timestampValid : Bool := false
  timestamp : ℕ := 0
  dbcAtStartOfLastPacket : ℕ := 0
  tsInterval : ℕ := 0
  samplesPerPacketBase : ℕ := 0
  samplesPerPacketFractional : ℕ := 0
  rem : ℕ := 0
  presentationDelay : ℕ := 0
  sequenceNumber : ℕ := 0
  deriving DecidableEq, Repr

structure TalkerSetup where
  sampleType : UInt32
  destMacAdrs : List UInt8
  streamIdExt : ℕ
  map : List ℕ
  rate : ℕ
  presentationDelay : ℕ
  deriving DecidableEq, Repr

def tsIntervalOfRate : ℕ → Option ℕ
  | 8000 => some 1
  | 16000 => some 2
  | 32000 => some 8
  | 44100 => some 8
  | 48000 => some 8
  | 88200 => some 16
  | 96000 => some 16
  | 176400 => some 32
  | 192000 => some 32
  | _ => none

def samplesPerPacket (rate : ℕ) : ℕ := ((rate / 100) <<< 16) / (avb1722PacketRate / 100)

variable (t : UInt32) (map : List ℕ) (stream : TalkerStreamConfig) (frame : AudioFrame) (buf : Mem)

/-- `configure_stream`.  An unsupported rate traps. -/
def configureStream (setup : TalkerSetup) (macAddr : List UInt8) : Option TalkerStreamConfig :=
  match tsIntervalOfRate setup.rate with
  | none => none
  | some tsInterval =>
    let tmp := samplesPerPacket setup.rate
    some { stream with
      sampleType := setup.sampleType
      destMacAdrs := setup.destMacAdrs
      srcMacAdrs := macAddr
      streamId1 := beNat (macAddr.take 4)
      streamId0 := (beNat (macAddr.drop 4) <<< 16) ||| setup.streamIdExt
      numChannels := setup.map.length
      map := setup.map
      presentationDelay := setup.presentationDelay
      tsInterval := tsInterval
      samplesPerPacketBase := tmp >>> 16
      samplesPerPacketFractional := tmp &&& 0xffff
      rem := 0
      currentSamplesInPacket := 0
      timestampValid := false
      dbcAtStartOfLastPacket := 0
      active := 1
      sequenceNumber := 0 }

def disableStream : TalkerStreamConfig :=
  { stream with streamId1 := 0, streamId0 := 0, active := 0 }

def startStream : TalkerStreamConfig :=
  { stream with sequenceNumber := 0, active := 2 }

def stopStream : TalkerStreamConfig :=
  { stream with active := 1 }

/-! ## Building a packet -/

def avb1722CipHeaderGen (buf : Mem) (dbc : ℕ) : Mem :=
  buf.store (cipHdr + 3) [UInt8.ofNat dbc]

/-- The low bit of `version_flags`. -/
def setAvbtpTv (buf : Mem) (tv : Bool) : Mem :=
  buf.store (avbtpHdr + 1) [(buf (avbtpHdr + 1) &&& 0xfe) ||| (if tv then 1 else 0)]

def avb1722AvbtpHeaderGen (buf : Mem) (validTs : Bool)
    (avbtpTs pktDataLength sequenceNumber streamId0 : ℕ) : Mem :=
  let buf := buf.store (avbtpHdr + 20) (beBytes 2 pktDataLength)
  let buf := setAvbtpTv buf validTs
  let buf := buf.store (avbtpHdr + 12) (beBytes 4 (if validTs then avbtpTs else 0))
  let buf := buf.store (avbtpHdr + 8) (beBytes 4 streamId0)
  buf.store (avbtpHdr + 2) [UInt8.ofNat sequenceNumber]

def samplesPerChannel : ℕ :=
  stream.samplesPerPacketBase + (if stream.rem &&& 0xffff0000 ≠ 0 then 1 else 0)

variable (audioSampleType : UInt32)

def sampleWord (map : List ℕ) (frame : AudioFrame) (i : ℕ) : UInt32 :=
  ((frame.samples.getD (map.getD i 0) 0) >>> 8) ||| audioSampleType

def writeSamples (map : List ℕ) (frame : AudioFrame) (buf : Mem) (dest numChannels : ℕ) : Mem :=
  (List.range numChannels).foldl
    (fun buf i =>
      buf.store (dest + 4 * i) (leBytes 4 (byterev (sampleWord audioSampleType map frame i).toNat)))
    buf

def tsThisDbc : Bool :=
  let thisDbc := (stream.dbcAtStartOfLastPacket + stream.currentSamplesInPacket) % 2 ^ 32
  (thisDbc &&& (stream.tsInterval - 1)) == 0

def nextRem : ℕ :=
  let rem := (stream.rem + stream.samplesPerPacketFractional) % 2 ^ 32
  if samplesPerChannel stream > stream.samplesPerPacketBase then rem &&& 0xffff else rem

/-- Where the samples of the next frame start in the transmit buffer. -/
def sampleDest : ℕ := sampleStart + 4 * (stream.currentSamplesInPacket * stream.numChannels)

def avb1722CreatePacket (buf : Mem) (stream : TalkerStreamConfig) (timeInfo : PtpTimeInfoMod64)
    (frame : AudioFrame) : Mem × TalkerStreamConfig × ℕ :=
  let dest := sampleDest stream
  let spc := samplesPerChannel stream
  let dbc := stream.dbcAtStartOfLastPacket
  let buf := writeSamples audioSampleType stream.map frame buf dest stream.numChannels
  let timestampValid := tsThisDbc stream || stream.timestampValid
  let presentationTime := if tsThisDbc stream then frame.timestamp else stream.timestamp
  if stream.currentSamplesInPacket + 1 = spc then
    let pktDataLength := avbCipHdrSize + ((spc * stream.numChannels) <<< 2)
    let buf := avb1722CipHeaderGen buf (dbc &&& 0xff)
    let ptpTs :=
      if timestampValid then
        (localTimestampToPtpMod32 presentationTime timeInfo + stream.presentationDelay) % 2 ^ 32
      else 0
    let buf := avb1722AvbtpHeaderGen buf timestampValid ptpTs pktDataLength
      stream.sequenceNumber stream.streamId0
    (buf,
      { stream with
        rem := nextRem stream
        dbcAtStartOfLastPacket := (dbc + spc) % 2 ^ 32
        sequenceNumber := (stream.sequenceNumber + 1) % 256
        currentSamplesInPacket := 0
        timestampValid := false },
      avbEthernetHdrSize + avbTpHdrSize + pktDataLength)
  else
    (buf,
      { stream with
        timestampValid := timestampValid
        timestamp := presentationTime
        currentSamplesInPacket := stream.currentSamplesInPacket + 1 },
      0)

/-! ## Initialising the buffer -/

/-- The sample type that `AVB1722_Talker_bufInit` stores in the global
`AVB1722_audioSampleType`. -/
def storedSampleType (sampleType : UInt32) : UInt32 :=
  if sampleType = mbla20Bit then mbla20Bit
  else if sampleType = mbla16Bit then mbla16Bit
  else mbla24Bit

def dataBlockSize : ℕ :=
  if stream.sampleType = mbla16Bit then stream.numChannels / 2 else stream.numChannels

/-- The 50 header bytes that `AVB1722_Talker_bufInit` writes, field by field. -/
def talkerHeader (vlanid : ℕ) : List UInt8 :=
  -- Ethernet: DA, SA, TPID, flagVID with the default PCP 3 and CFI 0, etype
  stream.destMacAdrs.take 6 ++ stream.srcMacAdrs.take 6 ++ beBytes 2 0x8100
    ++ [UInt8.ofNat ((3 <<< 5) ||| ((vlanid >>> 8) &&& 0xf)), UInt8.ofNat vlanid]
    ++ beBytes 2 0x22f0
  -- AVBTP: subtype, SV set, sequence number, TU, stream id, timestamp, gateway, length
    ++ ([0, 0x80, 0, 0] : List UInt8) ++ beBytes 4 stream.streamId1 ++ beBytes 4 stream.streamId0
    ++ List.replicate 10 (0 : UInt8)
  -- protocol specific: tag 1, channel 31, tcode 0xA, sy 0
    ++ [UInt8.ofNat ((1 <<< 6) ||| 31), UInt8.ofNat (0xa <<< 4)]
  -- CIP: EOH1 and SID, DBS, FN/QPC/SPH, DBC, EOH2 and FMT, FDF, SYT
    ++ [(63 : UInt8), UInt8.ofNat (dataBlockSize stream), 0, 0, UInt8.ofNat ((2 <<< 6) ||| 0x10),
      2, 0xff, 0xff]

def avb1722TalkerBufInit (buf : Mem) (stream : TalkerStreamConfig) (vlanid : ℕ) : Mem × UInt32 :=
  (buf.store bufStart (talkerHeader stream vlanid), storedSampleType stream.sampleType)

def avb1722SetBufferVlan (vlan : ℕ) (buf : Mem) : Mem :=
  buf.store (bufStart + 14)
    [(buf (bufStart + 14) &&& (0xf0 : UInt8)) ||| UInt8.ofNat ((vlan >>> 8) &&& 0xf),
      UInt8.ofNat vlan]

def frameBytes (map : List ℕ) (numChannels : ℕ) (frame : AudioFrame) : List UInt8 :=
  (List.range numChannels).flatMap fun i =>
    beBytes 4 (sampleWord audioSampleType map frame i).toNat

@[simp] lemma length_frameBytes (n : ℕ) (frame : AudioFrame) :
    (frameBytes t map n frame).length = 4 * n := by
  simp [frameBytes, List.length_flatMap, Nat.mul_comm]

lemma writeSamples_eq (dest n : ℕ) :
    writeSamples t map frame buf dest n = buf.store dest (frameBytes t map n frame) := by
  induction n with
  | zero => simp [writeSamples, frameBytes]
  | succ n ih =>
    have hsplit : frameBytes t map (n + 1) frame
        = frameBytes t map n frame ++ beBytes 4 (sampleWord t map frame n).toNat := by
      simp [frameBytes, List.range_succ]
    have hdest : dest + 4 * n = dest + (frameBytes t map n frame).length := by
      rw [length_frameBytes]
    rw [writeSamples, List.range_succ, List.foldl_append, List.foldl_cons, List.foldl_nil,
      ← writeSamples, ih, leBytes_byterev, hdest, Mem.store_store_append, hsplit]

lemma avb1722CipHeaderGen_apply_of_ge (dbc : ℕ) {x : ℕ} (h : sampleStart ≤ x) :
    avb1722CipHeaderGen buf dbc x = buf x := by
  have hx : cipHdr + 3 + [UInt8.ofNat dbc].length ≤ x := by
    rw [List.length_singleton]
    exact le_trans (by decide) h
  exact Mem.store_apply_of_ge buf _ hx

lemma avb1722AvbtpHeaderGen_apply_of_ge (tv : Bool) (ts len sn sid : ℕ) {x : ℕ} (h : cipHdr ≤ x) :
    avb1722AvbtpHeaderGen buf tv ts len sn sid x = buf x := by
  have hx : 44 ≤ x := h
  have ha : avbtpHdr = 20 := rfl
  unfold avb1722AvbtpHeaderGen setAvbtpTv
  repeat rw [Mem.store_apply_of_ge]
  all_goals simp only [ha, length_beBytes, List.length_singleton]; omega

/-! ## What one call does -/

section

variable (t : UInt32) (buf : Mem) (stream : TalkerStreamConfig) (ti : PtpTimeInfoMod64)
  (frame : AudioFrame)

lemma avb1722CreatePacket_of_not_full
    (h : stream.currentSamplesInPacket + 1 ≠ samplesPerChannel stream) :
    (avb1722CreatePacket t buf stream ti frame).2 =
      ({ stream with
          timestampValid := tsThisDbc stream || stream.timestampValid
          timestamp := if tsThisDbc stream then frame.timestamp else stream.timestamp
          currentSamplesInPacket := stream.currentSamplesInPacket + 1 }, 0) := by
  simp only [avb1722CreatePacket, if_neg h]

lemma avb1722CreatePacket_of_full
    (h : stream.currentSamplesInPacket + 1 = samplesPerChannel stream) :
    (avb1722CreatePacket t buf stream ti frame).2.1 =
      { stream with
        rem := nextRem stream
        dbcAtStartOfLastPacket :=
          (stream.dbcAtStartOfLastPacket + samplesPerChannel stream) % 2 ^ 32
        sequenceNumber := (stream.sequenceNumber + 1) % 256
        currentSamplesInPacket := 0
        timestampValid := false } := by
  simp only [avb1722CreatePacket, if_pos h]

lemma avb1722CreatePacket_size : (avb1722CreatePacket t buf stream ti frame).2.2
      = if stream.currentSamplesInPacket + 1 = samplesPerChannel stream then
          50 + 4 * (samplesPerChannel stream * stream.numChannels)
        else 0 := by
  unfold avb1722CreatePacket
  simp only
  split
  · simp only [avbEthernetHdrSize, avbTpHdrSize, avbCipHdrSize, Nat.shiftLeft_eq]
    omega
  · rfl

lemma avb1722CreatePacket_apply_of_ge {x : ℕ} (h : sampleStart ≤ x) :
    (avb1722CreatePacket t buf stream ti frame).1 x
      = buf.store (sampleDest stream) (frameBytes t stream.map stream.numChannels frame) x := by
  have hc : cipHdr ≤ x := le_trans (by decide) h
  unfold avb1722CreatePacket
  simp only [writeSamples_eq]
  split
  · simp only
    rw [avb1722AvbtpHeaderGen_apply_of_ge _ _ _ _ _ _ hc, avb1722CipHeaderGen_apply_of_ge _ _ h]
  · rfl

/-- **Sample data.**  A call appends the frame's bytes to the samples already in
the packet. -/
theorem avb1722CreatePacket_load : (avb1722CreatePacket t buf stream ti frame).1.load sampleStart
        (4 * ((stream.currentSamplesInPacket + 1) * stream.numChannels))
      = buf.load sampleStart (4 * (stream.currentSamplesInPacket * stream.numChannels))
        ++ frameBytes t stream.map stream.numChannels frame := by
  set k := 4 * (stream.currentSamplesInPacket * stream.numChannels) with hk
  set bs := frameBytes t stream.map stream.numChannels frame with hbs
  have hlen : 4 * ((stream.currentSamplesInPacket + 1) * stream.numChannels) = k + bs.length := by
    rw [hk, hbs, length_frameBytes]
    ring
  have hload : ∀ n, (avb1722CreatePacket t buf stream ti frame).1.load sampleStart n
      = (buf.store (sampleStart + k) bs).load sampleStart n := by
    intro n
    apply List.map_congr_left
    intro i _
    exact avb1722CreatePacket_apply_of_ge t buf stream ti frame (Nat.le_add_right _ _)
  rw [hload, hlen, Mem.load_add, Mem.load_store_same,
    Mem.load_store_disjoint _ _ (Or.inl le_rfl)]

lemma avb1722CreatePacket_static :
    (avb1722CreatePacket t buf stream ti frame).2.1.map = stream.map ∧
    (avb1722CreatePacket t buf stream ti frame).2.1.numChannels = stream.numChannels := by
  by_cases h : stream.currentSamplesInPacket + 1 = samplesPerChannel stream
  · rw [avb1722CreatePacket_of_full t buf stream ti frame h]
    exact ⟨rfl, rfl⟩
  · rw [avb1722CreatePacket_of_not_full t buf stream ti frame h]
    exact ⟨rfl, rfl⟩

end
