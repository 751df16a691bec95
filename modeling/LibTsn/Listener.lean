/-
# The 1722 listener

`avb_1722_listener_process_packet` finds out by itself what a stream carries: from the data block
counters of consecutive packets it computes the number of channels, and from the sizes of sixteen
packets the rate.  Once it has locked, the samples of every packet are pushed into the output
FIFOs, and a timestamp is passed on with the index of its sample.
-/
import LibTsn.FifoPush
import LibTsn.TalkerStream

/-! ## The record of a stream -/

/-- `avb_1722_stream_info_t`.  A FIFO is a number, and a negative one is no FIFO. -/
structure ListenerStreamInfo where
  active : Bool
  chanLock : ℕ
  rate : ℤ
  prevNumSamples : ℤ
  numChannelsInPayload : ℤ
  numChannels : ℤ
  dbc : ℤ
  map : ℕ → ℤ

structure ReceivedFrame where
  buf : Mem
  numBytes : ℕ

inductive ListenerAct where
  | enable (fifo mediaClock : ℤ)
  | disable (fifo : ℤ)
  | setPtpTimestamp (fifo : ℤ) (timestamp sampleNum : ℕ)
  | maintain (fifo : ℤ)
  | stridedPush (fifo samplePtr stride n : ℤ)
  deriving DecidableEq, Repr

structure ListenerOutcome where
  ret : ℕ
  acts : List ListenerAct
  reads : List ℤ
  deriving DecidableEq, Repr

namespace ListenerStreamInfo

variable (s : ListenerStreamInfo)

def mapped (n : ℤ) : List ℕ :=
  (List.range n.toNat).filter fun i => decide (0 ≤ s.map i)

lemma mem_mapped {s : ListenerStreamInfo} {n : ℤ} {i : ℕ} :
    i ∈ s.mapped n ↔ (i : ℤ) < n ∧ 0 ≤ s.map i := by
  unfold mapped
  rw [List.mem_filter, List.mem_range, decide_eq_true_iff]
  omega

def remap (newMap : ℕ → ℤ) (i : ℕ) : ℤ :=
  if (i : ℤ) < s.numChannels then newMap i else s.map i

def configureStream (mediaClock rate numChannels : ℤ) (newMap : ℕ → ℤ) :
    ListenerStreamInfo × List ListenerAct :=
  let s := { s with rate := rate, numChannels := numChannels }
  let s := { s with map := s.remap newMap }
  ({ s with active := true, numChannelsInPayload := 0, chanLock := 0, prevNumSamples := 0,
            dbc := -1 },
    (s.mapped numChannels).map fun i => .enable (s.map i) mediaClock)

/-- `adjust_stream` with a channel map. -/
def adjustStream (newMap : ℕ → ℤ) : ListenerStreamInfo :=
  { s with map := s.remap newMap }

def disableStream : ListenerStreamInfo × List ListenerAct :=
  ({ s with active := false }, (s.mapped s.numChannels).map fun i => .disable (s.map i))

end ListenerStreamInfo

/-! ## The header -/

namespace ReceivedFrame

variable (f : ReceivedFrame)

/-- `avb_ethernet_hdr_size`: with a VLAN tag or without. -/
def hdr : ℕ := if f.buf 12 = 0x81 then 18 else 14

def version : UInt8 := (f.buf (f.hdr + 1) >>> 4) &&& 7

def cd : UInt8 := f.buf f.hdr >>> 7

def sv : UInt8 := f.buf (f.hdr + 1) >>> 7

def tv : UInt8 := f.buf (f.hdr + 1) &&& 1

def timestamp : ℕ := beNat (f.buf.load (f.hdr + 12) 4)

def dbcValue : ℕ := (f.buf (f.hdr + avbTpHdrSize + 3)).toNat

/-- The `packet_data_length` field. -/
def pktDataLength : ℕ := beNat (f.buf.load (f.hdr + 20) 2)

/-- `num_samples_in_payload`, negative if the length does not even cover the CIP header. -/
def numSamplesInPayload : ℤ := ((f.pktDataLength : ℤ) - 8) >>> (2 : ℕ)

def samplePtr : ℕ := f.hdr + avbTpHdrSize + avbCipHdrSize

lemma samplePtr_eq : f.samplePtr = f.hdr + 32 := rfl

end ReceivedFrame

/-! ## Locking -/

def rateOfSamples : ℤ → ℤ
  | 1 => 8000
  | 2 => 16000
  | 4 => 32000
  | 5 => 44100
  | 6 => 48000
  | 11 => 88200
  | 12 => 96000
  | 24 => 192000
  | _ => 0

def sytInterval : ℤ → Option ℕ
  | 8000 => some 1
  | 16000 => some 2
  | 32000 => some 8
  | 44100 => some 8
  | 48000 => some 8
  | 88200 => some 16
  | 96000 => some 16
  | 176400 => some 32
  | 192000 => some 32
  | _ => none

namespace ListenerStreamInfo

variable (s : ListenerStreamInfo)

def dbcDiff (dbcValue : ℕ) : ℤ :=
  if dbcValue - s.dbc < 0 then dbcValue - s.dbc + 0x100 else dbcValue - s.dbc

def expectChannels (numChannels : ℤ) : ListenerStreamInfo :=
  if s.numChannelsInPayload = 0 ∨ s.numChannelsInPayload ≠ numChannels then
    { s with numChannelsInPayload := numChannels, chanLock := 0, rate := 0 }
  else s

def countSamples (numSamples : ℤ) : ListenerStreamInfo :=
  let s := { s with rate := s.rate + numSamples, chanLock := s.chanLock + 1 }
  if s.chanLock = 16 then
    { s with rate := rateOfSamples ((s.rate.tdiv s.numChannelsInPayload).tdiv 16) }
  else s

def lockOn (prevNumSamples dbcDiff numSamples : ℤ) : ListenerStreamInfo :=
  if prevNumSamples = 0 ∨ dbcDiff = 0 then s
  else (s.expectChannels (prevNumSamples.tdiv dbcDiff)).countSamples numSamples

lemma numChannelsInPayload_countSamples (n : ℤ) :
    (s.countSamples n).numChannelsInPayload = s.numChannelsInPayload := by
  unfold countSamples
  dsimp only
  split <;> rfl

end ListenerStreamInfo

/-! ## Processing a packet -/

def ListenerOutcome.discard (reads : List ℤ) : ListenerOutcome := ⟨0, [], reads⟩

def wordReads (p : ℤ) : List ℤ := [p, p + 1, p + 2, p + 3]

def ListenerAct.reads (hdr : ℤ) : ListenerAct → List ℤ
  | .setPtpTimestamp _ _ _ => wordReads (hdr + 12)
  | .stridedPush _ samplePtr stride n =>
    (stridedIndices stride n).flatMap fun i => wordReads (samplePtr + 4 * i)
  | _ => []

def headerReads (hdr : ℤ) : List ℤ :=
  [12, hdr + 1, hdr, hdr + 1, hdr + 27, hdr + 20, hdr + 21]

namespace ListenerStreamInfo

variable (s : ListenerStreamInfo)

def stampActs (timestamp sampleNum : ℕ) : List ListenerAct :=
  (s.mapped s.numChannels).map fun i => .setPtpTimestamp (s.map i) timestamp sampleNum

def maintainActs : List ListenerAct :=
  (s.mapped s.numChannels).map fun i => .maintain (s.map i)

def pushedChannels : ℤ := min s.numChannels s.numChannelsInPayload

def pushActs (samplePtr n : ℤ) : List ListenerAct :=
  (s.mapped s.pushedChannels).map fun i =>
    .stridedPush (s.map i) (samplePtr + 4 * i) s.numChannelsInPayload n

def deliver (f : ReceivedFrame) (stamps : List ListenerAct) : ListenerOutcome :=
  let acts := stamps ++ s.maintainActs ++ s.pushActs f.samplePtr f.numSamplesInPayload
  ⟨1, acts, headerReads f.hdr ++ [(f.hdr : ℤ) + 1] ++ acts.flatMap (ListenerAct.reads f.hdr)⟩

end ListenerStreamInfo

def sampleNum (sytInterval dbcValue : ℕ) : ℕ :=
  (sytInterval - (dbcValue &&& (sytInterval - 1))) &&& (sytInterval - 1)

variable (cfg : FifoConfig) (s : ListenerStreamInfo) (f : ReceivedFrame)

def ListenerStreamInfo.noted : ListenerStreamInfo :=
  { s with dbc := f.dbcValue, prevNumSamples := f.numSamplesInPayload }

def ListenerStreamInfo.receive : ListenerStreamInfo × ListenerOutcome :=
  let s' := s.noted f
  if s.chanLock < 16 then
    (s'.lockOn s.prevNumSamples (s.dbcDiff f.dbcValue) f.numSamplesInPayload,
      .discard (headerReads f.hdr))
  else if f.tv = 1 then
    match sytInterval s.rate with
    | none => (s', .discard (headerReads f.hdr ++ [(f.hdr : ℤ) + 1]))
    | some syt => (s', s'.deliver f (s'.stampActs f.timestamp (sampleNum syt f.dbcValue)))
  else (s', s'.deliver f [])

/-- `avb_1722_listener_process_packet`.  `Buf[12]` is read before anything is known of the size of
the frame. -/
def avb1722ListenerProcessPacket : ListenerStreamInfo × ListenerOutcome :=
  let hdr : ℤ := f.hdr
  if f.numBytes ≤ f.hdr + avbTpHdrSize + avbCipHdrSize then (s, .discard [12])
  else if f.version ≠ 0 then (s, .discard [12, hdr + 1])
  else if f.cd ≠ 0 then (s, .discard [12, hdr + 1, hdr])
  else if f.sv = 0 then (s, .discard [12, hdr + 1, hdr, hdr + 1])
  else s.receive f

structure ReceivedFrame.Proper (f : ReceivedFrame) : Prop where
  long : f.samplePtr < f.numBytes
  version : f.version = 0
  cd : f.cd = 0
  sv : f.sv ≠ 0

lemma processPacket_of_proper {f : ReceivedFrame} (h : f.Proper) :
    avb1722ListenerProcessPacket s f = s.receive f := by
  have hlong : ¬ f.numBytes ≤ f.hdr + avbTpHdrSize + avbCipHdrSize := Nat.not_le_of_lt h.long
  unfold avb1722ListenerProcessPacket
  dsimp only
  rw [if_neg hlong, if_neg (not_not.mpr h.version), if_neg (not_not.mpr h.cd), if_neg h.sv]

lemma processPacket_of_not_proper {f : ReceivedFrame} (h : ¬ f.Proper) :
    (avb1722ListenerProcessPacket s f).1 = s := by
  unfold avb1722ListenerProcessPacket
  dsimp only
  split_ifs with hlong hversion hcd hsv
  · rfl
  · rfl
  · rfl
  · rfl
  · exact absurd ⟨Nat.lt_of_not_le hlong, not_not.mp hversion, not_not.mp hcd, hsv⟩ h

lemma receive_of_locked {s : ListenerStreamInfo} (h : ¬ s.chanLock < 16) (f : ReceivedFrame) :
    (s.receive f).1 = s.noted f := by
  unfold ListenerStreamInfo.receive
  dsimp only
  rw [if_neg h]
  split
  · split <;> rfl
  · rfl

def wordAt (buf : Mem) (p : ℤ) : UInt32 := UInt32.ofNat (beNat (buf.load p.toNat 4).reverse)

def ListenerAct.pushed (buf : Mem) : ListenerAct → List (ℤ × List UInt32)
  | .stridedPush fifo samplePtr stride n =>
    [(fifo, (stridedIndices stride n).map fun i => cfg.arriving (wordAt buf (samplePtr + 4 * i)))]
  | _ => []

/-- **A push delivers its samples.**  Whatever the other thread does to the record of the FIFO, the
call returns, and has tried to store exactly the samples that are pushed, in order, all scaled by
the volume that it has read, which is zero for a FIFO that is zeroing. -/
theorem strided_push_delivers (buf : Mem) (fifo samplePtr : ℤ) {stride n : ℤ} (hpos : 0 < stride)
    (hsmall : n + stride ≤ 2 ^ 31) (t : PushThread) (fs : ℕ → Ofifo) :
    ∃ samples, (ListenerAct.stridedPush fifo samplePtr stride n).pushed cfg buf =
      [(fifo, samples)] ∧
      (t.call (fun i => wordAt buf (samplePtr + 4 * i)) stride n).Tries cfg fs
        (samples.map (cfg.scaled (PushThread.volumeRead cfg fs))) := by
  refine ⟨_, rfl, ?_⟩
  rw [List.map_map]
  exact t.call_tries cfg _ hpos hsmall fs

/-- Two of three words, while the FIFO is zeroing. -/
theorem strided_push_delivers_zeroing :
    ∃ samples, (ListenerAct.stridedPush 0 32 2 3).pushed shortFifoBuild (fun _ => 1)
        = [(0, samples)] ∧
      (shortFifo.push.call (fun i => wordAt (fun _ => 1) (32 + 4 * i)) 2 3).Tries shortFifoBuild
        (fun _ => { shortFifo.fifo with state := .zeroing })
        (samples.map (shortFifoBuild.scaled 0)) :=
  strided_push_delivers shortFifoBuild _ 0 32 (by decide) (by decide) _ _

/-! ## The unit -/

/-- `avb_1722_listener_state_t`, with `m` for `MAX_AVB_STREAMS_PER_LISTENER`. -/
structure ListenerState (m : ℕ) where
  streams : Fin m → ListenerStreamInfo
  received1722 : ℕ

/-- `avb_1722_listener_init`.  Only the flag of a stream is initialised. -/
def avb1722ListenerInit {m : ℕ} (streams : Fin m → ListenerStreamInfo) : ListenerState m :=
  ⟨fun i => { streams i with active := false }, 0⟩

inductive ListenerEvent (m : ℕ) where
  | packet (filterData : ℕ) (isData : Bool) (frame : ReceivedFrame)
  | configure (stream : Fin m) (mediaClock rate numChannels : ℤ) (map : ℕ → ℤ)
  | adjustMap (stream : Fin m) (map : ℕ → ℤ)
  | disable (stream : Fin m)

namespace ListenerState

variable {m : ℕ}
variable (st : ListenerState m)

def setStream (i : Fin m) (s : ListenerStreamInfo) : ListenerState m :=
  { st with streams := Function.update st.streams i s }

/-- The stream whose packet `avb_1722_listener_handle_packet` processes. -/
def target (filterData : ℕ) (isData : Bool) : Option (Fin m) :=
  if h : isData = true ∧ filterData < m then
    if (st.streams ⟨filterData, h.2⟩).active then some ⟨filterData, h.2⟩ else none
  else none

/-- `avb_1722_listener_handle_packet` and `avb_1722_listener_handle_cmd`. -/
def step : ListenerEvent m → ListenerState m
  | .packet filterData isData frame =>
    match st.target filterData isData with
    | none => st
    | some i =>
      { st.setStream i (avb1722ListenerProcessPacket (st.streams i) frame).1 with
        received1722 := st.received1722 + 1 }
  | .configure i mediaClock rate numChannels map =>
    st.setStream i ((st.streams i).configureStream mediaClock rate numChannels map).1
  | .adjustMap i map => st.setStream i ((st.streams i).adjustStream map)
  | .disable i => st.setStream i (st.streams i).disableStream.1

def processed : ListenerEvent m → List (ReceivedFrame × ListenerOutcome)
  | .packet filterData isData frame =>
    match st.target filterData isData with
    | none => []
    | some i => [(frame, (avb1722ListenerProcessPacket (st.streams i) frame).2)]
  | _ => []

end ListenerState
