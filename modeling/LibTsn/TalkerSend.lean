/-
# The talker unit: many streams, one send per call

`avb_1722_talker_send_packets` gives a ready audio frame to every streaming
stream and then sends at most one of the packets that are waiting.  Packets
wait in the buffer they were built in.
-/
import LibTsn.Run
import LibTsn.TalkerStream

open Function (update_self update_of_ne update)

/-- `audio_double_buffer_t`.  The producer fills the active buffer. -/
structure AudioDoubleBuffer where
  activeBuffer : Bool
  dataReady : Bool
  buffer : Bool → AudioFrame

variable (st : TalkerState) (ti : PtpTimeInfoMod64) (sb : AudioDoubleBuffer) (frame : AudioFrame)

/-- The producer's turn: the frame is written to the active buffer, then
`audio_buffers_swap_active_buffer`. -/
def AudioDoubleBuffer.handFrame : AudioDoubleBuffer where
  activeBuffer := !sb.activeBuffer
  dataReady := true
  buffer := fun i => if i = sb.activeBuffer then frame else sb.buffer i

/-! ## State and commands -/

structure TalkerSlot where
  stream : TalkerStreamConfig
  txBuf : Mem
  txBufFillSize : ℕ

/-- `avb_1722_talker_state_t`, with the global `AVB1722_audioSampleType`. -/
structure TalkerState where
  slots : ℕ → TalkerSlot
  maxActiveAvbStream : ℤ
  macAddr : List UInt8
  vlan : ℕ
  sent1722 : ℕ
  audioSampleType : UInt32

/-- `avb_1722_talker_init`.  The `memset` of the buffers has its last two
arguments swapped and clears nothing, so the buffers hold whatever they held. -/
def avb1722TalkerInit (bufs : ℕ → Mem) (macAddr : List UInt8) : TalkerState where
  slots := fun i => ⟨{}, bufs i, 0⟩
  maxActiveAvbStream := -1
  macAddr := macAddr
  vlan := 0
  sent1722 := 0
  audioSampleType := mbla24Bit

/-- The commands of `avb_1722_talker_handle_cmd` that change the modelled state. -/
inductive TalkerCmd where
  | configure (streamNum : ℕ) (setup : TalkerSetup)
  | disable (streamNum : ℕ)
  | go (streamNum : ℕ)
  | stop (streamNum : ℕ)
  | setVlan (streamNum vlan : ℕ)
  deriving Repr

variable (t : UInt32) (T : Talk) (x : AudioFrame × PtpTimeInfoMod64)
  {payload : List AudioFrame → List UInt8} {log : List StreamEvent} (i : ℕ)

def TalkerState.setSlot (slot : TalkerSlot) : TalkerState :=
  { st with slots := Function.update st.slots i slot }

def TalkerState.onStream (f : TalkerStreamConfig → TalkerStreamConfig) : TalkerState :=
  st.setSlot i { st.slots i with stream := f (st.slots i).stream }

/-- `avb_1722_talker_handle_cmd`; `none` when the configuration traps. -/
def avb1722TalkerHandleCmd : TalkerCmd → Option TalkerState
  | .configure i setup =>
    match configureStream (st.slots i).stream setup st.macAddr with
    | none => none
    | some stream =>
      let init := avb1722TalkerBufInit (st.slots i).txBuf stream st.vlan
      some { st.setSlot i { st.slots i with stream := stream, txBuf := init.1 } with
        maxActiveAvbStream := max st.maxActiveAvbStream i
        audioSampleType := init.2 }
  | .disable i => some (st.onStream i disableStream)
  | .go i => some (st.onStream i startStream)
  | .stop i => some (st.onStream i stopStream)
  | .setVlan i vlan =>
    some { st.setSlot i
        { st.slots i with txBuf := avb1722SetBufferVlan vlan (st.slots i).txBuf } with
      vlan := vlan }

/-! ## `avb_1722_talker_send_packets` -/

/-- The body of the building loop: the slot after the frame, and `packet_size`. -/
def buildSlot (ti : PtpTimeInfoMod64) (frame : AudioFrame) (slot : TalkerSlot) : TalkerSlot × ℕ :=
  if slot.stream.active = 2 then
    let out := avb1722CreatePacket t slot.txBuf slot.stream ti frame
    (⟨out.2.1, out.1, if slot.txBufFillSize = 0 then out.2.2 else slot.txBufFillSize⟩, out.2.2)
  else (slot, 0)

def TalkerState.visited : ℕ := (st.maxActiveAvbStream + 1).toNat

def buildAll : TalkerState :=
  { st with slots := fun i =>
      if i < st.visited then (buildSlot st.audioSampleType ti frame (st.slots i)).1
      else st.slots i }

def sendFirst : TalkerState × Option (ℕ × List UInt8) :=
  match (List.range st.visited).find? fun i => (st.slots i).txBufFillSize ≠ 0 with
  | none => (st, none)
  | some i =>
    let slot := st.slots i
    ({ st.setSlot i { slot with txBufFillSize := 0 } with sent1722 := st.sent1722 + 1 },
      some (i, slot.txBuf.load bufStart slot.txBufFillSize))

def avb1722TalkerSendPackets : TalkerState × AudioDoubleBuffer × Option (ℕ × List UInt8) :=
  if sb.dataReady = false then (st, sb, none)
  else if st.maxActiveAvbStream = -1 then (st, sb, none)
  else
    let out := sendFirst (buildAll st ti (sb.buffer (!sb.activeBuffer)))
    (out.1, { sb with dataReady := false }, out.2)

/-! ## Runs, with a log for every stream -/

inductive StreamEvent where
  | completed (frames : List AudioFrame)
  | sent (bytes : List UInt8)
  deriving DecidableEq, Repr

structure Talk where
  st : TalkerState
  sb : AudioDoubleBuffer
  consumed : ℕ → List AudioFrame
  log : ℕ → List StreamEvent

/-- `avb1722_create_packet` is called for stream `i`. -/
def TalkerState.Building : Prop :=
  i < st.visited ∧ (st.slots i).stream.active = 2
  deriving Decidable

def TalkerState.Completes : Prop :=
  st.Building i ∧
    (st.slots i).stream.currentSamplesInPacket + 1 = samplesPerChannel (st.slots i).stream
  deriving Decidable

/-- What the call reports for stream `i`: a packet is complete when
`avb1722_create_packet` is called and returns a size. -/
def packetCompleted : Bool :=
  decide (i < st.visited) && (buildSlot st.audioSampleType ti frame (st.slots i)).2 != 0

def sentEvents : Option (ℕ × List UInt8) → List StreamEvent
  | some (j, bytes) => if j = i then [.sent bytes] else []
  | none => []

def callEvents (sent : Option (ℕ × List UInt8)) (i : ℕ) : List StreamEvent :=
  (if packetCompleted T.st x.2 x.1 i then [.completed (T.consumed i ++ [x.1])] else []) ++
    sentEvents i sent

/-- Hand a frame over and call `avb_1722_talker_send_packets` once. -/
def talkStep : Talk :=
  let out := avb1722TalkerSendPackets T.st x.2 (T.sb.handFrame x.1)
  { st := out.1
    sb := out.2.1
    consumed := fun i =>
      if packetCompleted T.st x.2 x.1 i then []
      else if T.st.Building i then T.consumed i ++ [x.1] else T.consumed i
    log := fun i => T.log i ++ callEvents T x out.2.2 i }

def Talk.start : Talk := ⟨st, sb, fun _ => [], fun _ => []⟩

/-! ## Stream integrity -/

def streamPayload (frames : List AudioFrame) : List UInt8 :=
  frames.flatMap
    (frameBytes st.audioSampleType (st.slots i).stream.map (st.slots i).stream.numChannels)

/-- The packets of a stream that are completed are sent one by one, each with its own samples. -/
def Integrity (payload : List AudioFrame → List UInt8) : List StreamEvent → Prop
  | [] => True
  | [.completed _] => True
  | .completed frames :: .sent bytes :: rest =>
    bytes.drop 50 = payload frames ∧ Integrity payload rest
  | _ => False

/-- The next frame completes the packet of one stream at most. -/
def OneCompletes (_ : AudioFrame × PtpTimeInfoMod64) : Prop :=
  ∀ i j, T.st.Completes i → T.st.Completes j → i = j

instance (x : AudioFrame × PtpTimeInfoMod64) : Decidable (OneCompletes T x) :=
  decidable_of_iff
    (∀ i < T.st.visited, ∀ j < T.st.visited, T.st.Completes i → T.st.Completes j → i = j)
    ⟨fun h i j hi hj => h i hi.1.1 j hj.1.1 hi hj, fun h i _ j _ => h i j⟩

def AllSent (payload : List AudioFrame → List UInt8) (log : List StreamEvent) : Prop :=
  ∃ pairs : List (List AudioFrame × List UInt8),
    log = pairs.flatMap (fun p => [.completed p.1, .sent p.2]) ∧
    ∀ p ∈ pairs, p.2.drop 50 = payload p.1

lemma integrity_of_allSent (h : AllSent payload log) : Integrity payload log := by
  obtain ⟨pairs, rfl, hpairs⟩ := h
  induction pairs with
  | nil => trivial
  | cons p ps ih =>
    refine ⟨hpairs p (by simp), ih ?_⟩
    intro q hq
    exact hpairs q (by simp [hq])

lemma allSent_append (h : AllSent payload log) {frames : List AudioFrame} {bytes : List UInt8}
    (hb : bytes.drop 50 = payload frames) :
    AllSent payload (log ++ [.completed frames, .sent bytes]) := by
  obtain ⟨pairs, rfl, hpairs⟩ := h
  refine ⟨pairs ++ [(frames, bytes)], by simp, ?_⟩
  intro p hp
  rcases List.mem_append.mp hp with hp | hp
  · exact hpairs p hp
  · rw [List.mem_singleton] at hp
    rw [hp]
    exact hb

lemma buildSlot_size (ti : PtpTimeInfoMod64) (frame : AudioFrame) (slot : TalkerSlot) :
    (buildSlot t ti frame slot).2
      = if slot.stream.active = 2 ∧
            slot.stream.currentSamplesInPacket + 1 = samplesPerChannel slot.stream then
          50 + 4 * (samplesPerChannel slot.stream * slot.stream.numChannels)
        else 0 := by
  unfold buildSlot
  by_cases ha : slot.stream.active = 2
  · simp only [ha, if_true, true_and]
    exact avb1722CreatePacket_size t slot.txBuf slot.stream ti frame
  · simp only [ha, if_false, false_and]

lemma packetCompleted_iff : packetCompleted st ti frame i = true ↔ st.Completes i := by
  rw [packetCompleted, Bool.and_eq_true, decide_eq_true_iff, bne_iff_ne, buildSlot_size,
    TalkerState.Completes, TalkerState.Building, and_assoc]
  refine and_congr_right fun _ => ?_
  split
  · rename_i h
    exact iff_of_true (by omega) h
  · rename_i h
    exact iff_of_false (fun h' => h' rfl) h

lemma avb1722TalkerSendPackets_handFrame : (avb1722TalkerSendPackets st ti (sb.handFrame frame)).1
      = (sendFirst (buildAll st ti frame)).1 ∧
    (avb1722TalkerSendPackets st ti (sb.handFrame frame)).2.2
      = (sendFirst (buildAll st ti frame)).2 := by
  have hread : (sb.handFrame frame).buffer (!(sb.handFrame frame).activeBuffer) = frame := by
    simp [AudioDoubleBuffer.handFrame]
  have hready : (sb.handFrame frame).dataReady = true := rfl
  unfold avb1722TalkerSendPackets
  rw [hread, hready]
  by_cases hmax : st.maxActiveAvbStream = -1
  · have hv : st.visited = 0 := by simp [TalkerState.visited, hmax]
    have hbuild : buildAll st ti frame = st := by simp [buildAll, hv]
    rw [hbuild]
    simp [hmax, sendFirst, hv]
  · simp [hmax]

lemma sendFirst_of_one
    (hone : ∀ i j, i < st.visited → j < st.visited → (st.slots i).txBufFillSize ≠ 0 →
      (st.slots j).txBufFillSize ≠ 0 → i = j)
    (i : ℕ) :
    ((sendFirst st).1.slots i).stream = (st.slots i).stream ∧
    ((sendFirst st).1.slots i).txBuf = (st.slots i).txBuf ∧
    ((sendFirst st).1.slots i).txBufFillSize
      = (if i < st.visited then 0 else (st.slots i).txBufFillSize) ∧
    sentEvents i (sendFirst st).2
      = if i < st.visited ∧ (st.slots i).txBufFillSize ≠ 0 then
          [.sent ((st.slots i).txBuf.load bufStart (st.slots i).txBufFillSize)]
        else [] := by
  cases hfind : (List.range st.visited).find? fun i => (st.slots i).txBufFillSize ≠ 0 with
  | none =>
    have hzero : i < st.visited → (st.slots i).txBufFillSize = 0 := by
      intro hi
      have h := List.find?_eq_none.mp hfind i (List.mem_range.mpr hi)
      simpa using h
    have hsend : sendFirst st = (st, none) := by rw [sendFirst, hfind]
    rw [hsend]
    refine ⟨rfl, rfl, ?_, ?_⟩
    · split
      · rename_i hi
        exact hzero hi
      · rfl
    · rw [if_neg (fun h => h.2 (hzero h.1))]
      rfl
  | some k =>
    have hk : (st.slots k).txBufFillSize ≠ 0 := by simpa using List.find?_some hfind
    have hkv : k < st.visited := List.mem_range.mp (List.mem_of_find?_eq_some hfind)
    have hsend : sendFirst st
        = ({ st.setSlot k { st.slots k with txBufFillSize := 0 } with
              sent1722 := st.sent1722 + 1 },
            some (k, (st.slots k).txBuf.load bufStart (st.slots k).txBufFillSize)) := by
      rw [sendFirst, hfind]
    rw [hsend]
    by_cases hik : i = k
    · subst hik
      simp only [TalkerState.setSlot, update_self, hkv, hk, if_true, sentEvents, ne_eq,
        not_false_eq_true, and_self]
    · have hzero : i < st.visited → (st.slots i).txBufFillSize = 0 := by
        intro hi
        by_contra hne
        exact hik (hone i k hi hkv hne hk)
      refine ⟨?_, ?_, ?_, ?_⟩
      · simp only [TalkerState.setSlot, update_of_ne hik]
      · simp only [TalkerState.setSlot, update_of_ne hik]
      · simp only [TalkerState.setSlot, update_of_ne hik]
        split
        · rename_i hi
          exact hzero hi
        · rfl
      · rw [if_neg (fun h => h.2 (hzero h.1))]
        simp only [sentEvents, if_neg (Ne.symm hik)]

/-! ## The invariant -/

structure SlotOk (t : UInt32) (map : List ℕ) (n : ℕ) (slot : TalkerSlot)
    (consumed : List AudioFrame) (log : List StreamEvent) : Prop where
  map_eq : slot.stream.map = map
  channels_eq : slot.stream.numChannels = n
  idle : slot.txBufFillSize = 0
  current : slot.stream.currentSamplesInPacket = consumed.length
  data : slot.txBuf.load sampleStart (4 * (consumed.length * n))
    = consumed.flatMap (frameBytes t map n)
  sent : AllSent (fun frames => frames.flatMap (frameBytes t map n)) log

structure TalkOk (st₀ : TalkerState) (T : Talk) : Prop where
  sampleType : T.st.audioSampleType = st₀.audioSampleType
  slot : ∀ i, SlotOk st₀.audioSampleType (st₀.slots i).stream.map
    (st₀.slots i).stream.numChannels (T.st.slots i) (T.consumed i) (T.log i)

lemma sendFirst_audioSampleType : (sendFirst st).1.audioSampleType = st.audioSampleType := by
  unfold sendFirst
  split <;> rfl

lemma buildSlot_fill {t : UInt32} {ti : PtpTimeInfoMod64} {frame : AudioFrame}
    {slot : TalkerSlot} (h : slot.txBufFillSize = 0) :
    (buildSlot t ti frame slot).1.txBufFillSize = (buildSlot t ti frame slot).2 := by
  by_cases ha : slot.stream.active = 2
  · simp only [buildSlot, ha, if_true, h]
  · simp only [buildSlot, ha, if_false, h]

section

variable {t : UInt32} {map : List ℕ} {n : ℕ} {slot : TalkerSlot} {consumed : List AudioFrame}
  {log : List StreamEvent}

lemma slotOk_build (h : SlotOk t map n slot consumed log) (ha : slot.stream.active = 2)
    (hfull : slot.stream.currentSamplesInPacket + 1 ≠ samplesPerChannel slot.stream)
    (ti : PtpTimeInfoMod64) (frame : AudioFrame) :
    SlotOk t map n (buildSlot t ti frame slot).1 (consumed ++ [frame]) log := by
  have hnext := avb1722CreatePacket_of_not_full t slot.txBuf slot.stream ti frame hfull
  have hstatic := avb1722CreatePacket_static t slot.txBuf slot.stream ti frame
  have hload := avb1722CreatePacket_load t slot.txBuf slot.stream ti frame
  rw [h.current, h.channels_eq, h.map_eq, h.data] at hload
  simp only [buildSlot, ha, if_true]
  refine ⟨hstatic.1.trans h.map_eq, hstatic.2.trans h.channels_eq, ?_, ?_, ?_, h.sent⟩
  · simp [h.idle, hnext]
  · simp [hnext, h.current]
  · rw [List.length_append, List.length_singleton, List.flatMap_append]
    simpa using hload

lemma payload_completed (h : SlotOk t map n slot consumed log) (ha : slot.stream.active = 2)
    (hfull : slot.stream.currentSamplesInPacket + 1 = samplesPerChannel slot.stream)
    (ti : PtpTimeInfoMod64) (frame : AudioFrame) :
    ((buildSlot t ti frame slot).1.txBuf.load bufStart (buildSlot t ti frame slot).2).drop 50
      = (consumed ++ [frame]).flatMap (frameBytes t map n) := by
  have hload := avb1722CreatePacket_load t slot.txBuf slot.stream ti frame
  rw [hfull, h.current, h.channels_eq, h.map_eq, h.data] at hload
  rw [buildSlot_size, if_pos ⟨ha, hfull⟩, h.channels_eq, Mem.drop_load, List.flatMap_append]
  simp only [buildSlot, ha, if_true]
  rw [show bufStart + 50 = sampleStart from rfl, hload]
  simp

lemma slotOk_completed (h : SlotOk t map n slot consumed log) (ha : slot.stream.active = 2)
    (hfull : slot.stream.currentSamplesInPacket + 1 = samplesPerChannel slot.stream)
    (ti : PtpTimeInfoMod64) (frame : AudioFrame) {slot' : TalkerSlot}
    (hstream : slot'.stream = (buildSlot t ti frame slot).1.stream)
    (hidle : slot'.txBufFillSize = 0) :
    SlotOk t map n slot' [] (log ++ [.completed (consumed ++ [frame]),
      .sent ((buildSlot t ti frame slot).1.txBuf.load bufStart
        (buildSlot t ti frame slot).2)]) := by
  have hstatic := avb1722CreatePacket_static t slot.txBuf slot.stream ti frame
  have hnext := avb1722CreatePacket_of_full t slot.txBuf slot.stream ti frame hfull
  have hout : slot'.stream = (avb1722CreatePacket t slot.txBuf slot.stream ti frame).2.1 := by
    rw [hstream]
    simp only [buildSlot, ha, if_true]
  refine ⟨?_, ?_, hidle, ?_, ?_, allSent_append h.sent (payload_completed h ha hfull ti frame)⟩
  · rw [hout, hstatic.1, h.map_eq]
  · rw [hout, hstatic.2, h.channels_eq]
  · rw [hout, hnext]
    rfl
  · simp [Mem.load]

end

/-- **Step.**  A call in which at most one stream completes a packet keeps every
stream in order. -/
theorem talkOk_step {st₀ : TalkerState} {T : Talk} (h : TalkOk st₀ T)
    (x : AudioFrame × PtpTimeInfoMod64) (hone : OneCompletes T x) : TalkOk st₀ (talkStep T x) := by
  obtain ⟨hst, hsent⟩ := avb1722TalkerSendPackets_handFrame T.st x.2 T.sb x.1
  set B := buildAll T.st x.2 x.1 with hB
  have hvis : B.visited = T.st.visited := rfl
  have hslotB : ∀ i, i < T.st.visited →
      B.slots i = (buildSlot st₀.audioSampleType x.2 x.1 (T.st.slots i)).1 := by
    intro i hi
    rw [hB]
    simp only [buildAll, if_pos hi, h.sampleType]
  have hslotB' : ∀ i, ¬ i < T.st.visited → B.slots i = T.st.slots i := by
    intro i hi
    rw [hB]
    simp only [buildAll, if_neg hi]
  have hfill : ∀ i, i < T.st.visited → (B.slots i).txBufFillSize
      = (buildSlot st₀.audioSampleType x.2 x.1 (T.st.slots i)).2 := by
    intro i hi
    rw [hslotB i hi]
    exact buildSlot_fill (h.slot i).idle
  have hcomp : ∀ i, i < T.st.visited → ((B.slots i).txBufFillSize ≠ 0 ↔ T.st.Completes i) := by
    intro i hi
    rw [← packetCompleted_iff T.st x.2 x.1 i, packetCompleted, hfill i hi, h.sampleType]
    simp [hi]
  have hsingle := sendFirst_of_one B fun i j hi hj hi' hj' =>
    hone i j ((hcomp i hi).mp hi') ((hcomp j hj).mp hj')
  refine ⟨?_, fun i => ?_⟩
  · show (avb1722TalkerSendPackets T.st x.2 (T.sb.handFrame x.1)).1.audioSampleType = _
    rw [hst, sendFirst_audioSampleType]
    exact h.sampleType
  · obtain ⟨hstream, hbuf, hidle, hev⟩ := hsingle i
    show SlotOk _ _ _ ((avb1722TalkerSendPackets T.st x.2 (T.sb.handFrame x.1)).1.slots i)
      (if packetCompleted T.st x.2 x.1 i then []
        else if T.st.Building i then T.consumed i ++ [x.1] else T.consumed i)
      (T.log i ++ callEvents T x
        (avb1722TalkerSendPackets T.st x.2 (T.sb.handFrame x.1)).2.2 i)
    rw [hst, hsent, callEvents, hev]
    by_cases hc : T.st.Completes i
    · -- the packet completed in this call is the one sent
      obtain ⟨⟨hi, ha⟩, hfull⟩ := hc
      have hdone : packetCompleted T.st x.2 x.1 i = true :=
        (packetCompleted_iff _ _ _ _).mpr ⟨⟨hi, ha⟩, hfull⟩
      rw [hvis, if_pos hi] at hidle
      rw [if_pos hdone, if_pos hdone, if_pos ⟨hi, (hcomp i hi).mpr ⟨⟨hi, ha⟩, hfull⟩⟩,
        hfill i hi, hslotB i hi]
      exact slotOk_completed (h.slot i) ha hfull x.2 x.1 (by rw [hstream, hslotB i hi]) hidle
    · have hnot : ¬ packetCompleted T.st x.2 x.1 i = true := fun hp =>
        hc ((packetCompleted_iff _ _ _ _).mp hp)
      have hnone : ¬ (i < B.visited ∧ (B.slots i).txBufFillSize ≠ 0) := fun hp =>
        hc ((hcomp i hp.1).mp hp.2)
      have hsame : (sendFirst B).1.slots i = B.slots i := by
        have hf : ((sendFirst B).1.slots i).txBufFillSize = (B.slots i).txBufFillSize := by
          rw [hidle]
          split
          · rename_i hi
            by_contra hne
            exact hnone ⟨hi, Ne.symm hne⟩
          · rfl
        cases hs : (sendFirst B).1.slots i
        cases hb : B.slots i
        rw [hs, hb] at hstream hbuf hf
        simp only at hstream hbuf hf
        rw [hstream, hbuf, hf]
      rw [if_neg hnot, if_neg hnot, if_neg hnone, List.append_nil, List.append_nil, hsame]
      by_cases hbuilding : T.st.Building i
      · rw [if_pos hbuilding, hslotB i hbuilding.1]
        exact slotOk_build (h.slot i) hbuilding.2 (fun hf => hc ⟨hbuilding, hf⟩) x.2 x.1
      · rw [if_neg hbuilding]
        by_cases hi : i < T.st.visited
        · have ha : (T.st.slots i).stream.active ≠ 2 := fun ha => hbuilding ⟨hi, ha⟩
          rw [hslotB i hi, buildSlot, if_neg ha]
          exact h.slot i
        · rw [hslotB' i hi]
          exact h.slot i

lemma handleCmd_fresh {st st' : TalkerState} {cmd : TalkerCmd}
    (h : ∀ i, (st.slots i).stream.currentSamplesInPacket = 0 ∧ (st.slots i).txBufFillSize = 0)
    (hcmd : avb1722TalkerHandleCmd st cmd = some st') (i : ℕ) :
    (st'.slots i).stream.currentSamplesInPacket = 0 ∧ (st'.slots i).txBufFillSize = 0 := by
  -- every command replaces one slot by one that is fresh again
  have hset : ∀ (k : ℕ) (slot : TalkerSlot), slot.stream.currentSamplesInPacket = 0 ∧
      slot.txBufFillSize = 0 →
      (update st.slots k slot i).stream.currentSamplesInPacket = 0 ∧
      (update st.slots k slot i).txBufFillSize = 0 := by
    intro k slot hslot
    by_cases hik : i = k
    · subst hik
      rw [update_self]
      exact hslot
    · rw [update_of_ne hik]
      exact h i
  cases cmd with
  | configure k setup =>
    simp only [avb1722TalkerHandleCmd] at hcmd
    split at hcmd
    · cases hcmd
    · rename_i stream hconf
      cases hcmd
      refine hset k _ ⟨?_, (h k).2⟩
      unfold configureStream at hconf
      split at hconf <;> cases hconf
      rfl
  | disable k => cases hcmd; exact hset k _ (h k)
  | go k => cases hcmd; exact hset k _ (h k)
  | stop k => cases hcmd; exact hset k _ (h k)
  | setVlan k vlan => cases hcmd; exact hset k _ (h k)

lemma handleCmds_fresh (cmds : List TalkerCmd) {st st' : TalkerState}
    (h : ∀ i, (st.slots i).stream.currentSamplesInPacket = 0 ∧ (st.slots i).txBufFillSize = 0)
    (hcmds : cmds.foldlM avb1722TalkerHandleCmd st = some st') (i : ℕ) :
    (st'.slots i).stream.currentSamplesInPacket = 0 ∧ (st'.slots i).txBufFillSize = 0 := by
  induction cmds generalizing st with
  | nil =>
    cases hcmds
    exact h i
  | cons cmd cmds ih =>
    rw [List.foldlM_cons] at hcmds
    obtain ⟨st₁, h₁, hrest⟩ := Option.bind_eq_some_iff.mp hcmds
    exact ih (handleCmd_fresh h h₁) hrest

lemma talkOk_start {st : TalkerState} (sb : AudioDoubleBuffer)
    (h : ∀ i, (st.slots i).stream.currentSamplesInPacket = 0 ∧ (st.slots i).txBufFillSize = 0) :
    TalkOk st (Talk.start st sb) := by
  refine ⟨rfl, fun i => ⟨rfl, rfl, (h i).2, (h i).1, ?_, [], rfl, ?_⟩⟩
  · simp [Talk.start, Mem.load]
  · intro p hp
    simp at hp

/-! ## Stream integrity over runs -/

/-- **Stream integrity.**  Configure and start streams in any way, then hand over
frames: in every run in which no frame completes packets of two streams, every
completed packet of every stream is sent once, with exactly the mapped samples
of its own frames, before the stream completes another. -/
theorem talker_stream_integrity (bufs : ℕ → Mem) (mac : List UInt8) (cmds : List TalkerCmd)
    (st : TalkerState)
    (hcmds : cmds.foldlM avb1722TalkerHandleCmd (avb1722TalkerInit bufs mac) = some st)
    (sb : AudioDoubleBuffer) (xs : List (AudioFrame × PtpTimeInfoMod64))
    (hone : Run.Guarded talkStep OneCompletes (Talk.start st sb) xs) (i : ℕ) :
    Integrity (streamPayload st i) ((Run.runFrom talkStep (Talk.start st sb) xs).log i) := by
  have hfresh := handleCmds_fresh cmds (fun i => ⟨rfl, rfl⟩) hcmds
  have hstep : ∀ T x, TalkOk st T → OneCompletes T x → TalkOk st (talkStep T x) :=
    fun _ x h hx => talkOk_step h x hx
  have hend := Run.invariant_of_guarded hstep (talkOk_start sb hfresh) xs hone
  exact integrity_of_allSent (hend.slot i).sent

def monoStream (k rate : ℕ) : TalkerSetup := ⟨mbla24Bit, List.replicate 6 0, k, [k], rate, 0⟩

def twoStreams (rate₀ rate₁ : ℕ) : List TalkerCmd :=
  [.configure 0 (monoStream 0 rate₀), .configure 1 (monoStream 1 rate₁), .go 0, .go 1]

def idleBuffer : AudioDoubleBuffer := ⟨false, false, fun _ => ⟨0, []⟩⟩

def stereoFrame (a b : UInt32) : AudioFrame × PtpTimeInfoMod64 := (⟨0, [a, b]⟩, ⟨0, 0, 0, 0, 0⟩)

def twoStreamUnit (rate₀ rate₁ : ℕ) : TalkerState :=
  ((twoStreams rate₀ rate₁).foldlM avb1722TalkerHandleCmd
    (avb1722TalkerInit (fun _ _ => 0) (List.replicate 6 0))).getD
      (avb1722TalkerInit (fun _ _ => 0) (List.replicate 6 0))

def fiveFrames : List (AudioFrame × PtpTimeInfoMod64) :=
  [stereoFrame 256 512, stereoFrame 768 1024, stereoFrame 1280 1536, stereoFrame 1792 2048,
    stereoFrame 2304 2560]

/-- At 32 kHz the fourth frame completes a packet, at 44.1 kHz the fifth. -/
theorem talker_integrity_two_rates :
    (∀ i < 2, ((Run.runFrom talkStep (Talk.start (twoStreamUnit 32000 44100) idleBuffer)
      fiveFrames).log i).length = 2) ∧
    ∀ i, Integrity (streamPayload (twoStreamUnit 32000 44100) i)
      ((Run.runFrom talkStep (Talk.start (twoStreamUnit 32000 44100) idleBuffer)
        fiveFrames).log i) := by
  refine ⟨by decide +kernel, ?_⟩
  exact talker_stream_integrity (fun _ _ => 0) (List.replicate 6 0) (twoStreams 32000 44100)
    (twoStreamUnit 32000 44100) rfl idleBuffer fiveFrames (by decide +kernel)

/-- Two streams at 16 kHz complete together with the second frame.  Stream 1 has
to wait, the third frame is written over its first sample, and the packet sent
for it then is not the packet that was completed. -/
theorem talker_overwrites_waiting_packet : (twoStreams 16000 16000).foldlM avb1722TalkerHandleCmd
        (avb1722TalkerInit (fun _ _ => 0) (List.replicate 6 0))
      = some (twoStreamUnit 16000 16000) ∧
    ¬ Integrity (streamPayload (twoStreamUnit 16000 16000) 1)
      ((Run.runFrom talkStep (Talk.start (twoStreamUnit 16000 16000) idleBuffer)
        [stereoFrame 256 512, stereoFrame 768 1024, stereoFrame 1280 1536]).log 1) := by
  refine ⟨rfl, ?_⟩
  have hlog : (Run.runFrom talkStep (Talk.start (twoStreamUnit 16000 16000) idleBuffer)
      [stereoFrame 256 512, stereoFrame 768 1024, stereoFrame 1280 1536]).log 1
      = [.completed [⟨0, [256, 512]⟩, ⟨0, [768, 1024]⟩],
         .sent ((Run.runFrom talkStep (Talk.start (twoStreamUnit 16000 16000) idleBuffer)
            [stereoFrame 256 512, stereoFrame 768 1024, stereoFrame 1280 1536]).st.slots 1
              |>.txBuf.load bufStart 58)] := by
    decide +kernel
  rw [hlog]
  rintro ⟨hbytes, -⟩
  revert hbytes
  decide +kernel
