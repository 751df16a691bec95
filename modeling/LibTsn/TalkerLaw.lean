/-
# The data block counter and timestamp law of a talker stream

Frames are fed to `avb1722_create_packet` one at a time, from configuration on.
`StreamRun` keeps what the code keeps, the buffer and the stream, and beside
them the frames consumed since the last packet and the packets completed so
far, each with the frames it was built from.
-/
import LibTsn.Chunker
import LibTsn.TalkerStream

open List (length_append length_singleton)

/-! ## Header fields read back -/

variable (t : UInt32) (buf : Mem)

def packetSequenceNumber : ℕ := (buf (avbtpHdr + 2)).toNat

def packetDbc : ℕ := (buf (cipHdr + 3)).toNat

def packetTv : Bool := buf (avbtpHdr + 1) &&& 1 == 1

def packetTimestamp : ℕ := beNat (buf.load (avbtpHdr + 12) 4)

/-- The `packet_data_length` field. -/
def packetDataLength : ℕ := beNat (buf.load (avbtpHdr + 20) 2)

section

variable (buf : Mem) (tv : Bool) (ts len sn sid : ℕ)

lemma packetSequenceNumber_headerGen :
    packetSequenceNumber (avb1722AvbtpHeaderGen buf tv ts len sn sid) = sn % 256 := by
  rw [packetSequenceNumber, avb1722AvbtpHeaderGen, Mem.store_singleton_same]
  simp

lemma packetDbc_headerGen :
    packetDbc (avb1722AvbtpHeaderGen buf tv ts len sn sid) = packetDbc buf := by
  rw [packetDbc, avb1722AvbtpHeaderGen_apply_of_ge _ _ _ _ _ _ (Nat.le_add_right _ _), packetDbc]

lemma packetDbc_cipHeaderGen (dbc : ℕ) : packetDbc (avb1722CipHeaderGen buf dbc) = dbc % 256 := by
  rw [packetDbc, avb1722CipHeaderGen, Mem.store_singleton_same]
  simp

lemma packetTv_headerGen : packetTv (avb1722AvbtpHeaderGen buf tv ts len sn sid) = tv := by
  have hbit : ∀ b : UInt8, ((b &&& 0xfe ||| (if tv then 1 else 0)) &&& 1 == 1) = tv := by
    intro b
    rw [← Bool.coe_iff_coe, beq_iff_eq, ← UInt8.toBitVec_inj]
    cases tv <;> simp [BitVec.and_assoc, BitVec.and_or_distrib_right]
  have ha : avbtpHdr = 20 := rfl
  unfold packetTv avb1722AvbtpHeaderGen
  rw [Mem.store_apply_of_lt _ _ (by omega), Mem.store_apply_of_lt _ _ (by omega),
    Mem.store_apply_of_lt _ _ (by omega), setAvbtpTv, Mem.store_singleton_same]
  exact hbit _

lemma packetTimestamp_headerGen : packetTimestamp (avb1722AvbtpHeaderGen buf tv ts len sn sid)
      = if tv then ts % 2 ^ 32 else 0 := by
  have ha : avbtpHdr = 20 := rfl
  unfold packetTimestamp avb1722AvbtpHeaderGen
  rw [Mem.load_store_disjoint _ _ (by simp [ha]), Mem.load_store_disjoint _ _ (by simp [ha]),
    Mem.beNat_load_store]
  cases tv <;> simp

lemma packetDataLength_headerGen :
    packetDataLength (avb1722AvbtpHeaderGen buf tv ts len sn sid) = len % 2 ^ 16 := by
  have ha : avbtpHdr = 20 := rfl
  unfold packetDataLength avb1722AvbtpHeaderGen setAvbtpTv
  rw [Mem.load_store_disjoint _ _ (by simp [ha]), Mem.load_store_disjoint _ _ (by simp [ha]),
    Mem.load_store_disjoint _ _ (by simp [ha]), Mem.load_store_disjoint _ _ (by simp [ha]),
    Mem.beNat_load_store]
  norm_num

end

/-! ## Supported configurations -/

structure Configured (c : TalkerStreamConfig) : Prop where
  fresh : c = { c with currentSamplesInPacket := 0, rem := 0, timestampValid := false,
                       dbcAtStartOfLastPacket := 0, sequenceNumber := 0 }
  base_pos : 1 ≤ c.samplesPerPacketBase
  interval : ∃ k ≤ 5, c.tsInterval = 2 ^ k
  base_le : c.samplesPerPacketBase ≤ c.tsInterval
  base_lt : c.samplesPerPacketFractional ≠ 0 → c.samplesPerPacketBase < c.tsInterval

def supportedRates : List ℕ := [8000, 16000, 32000, 44100, 48000, 88200, 96000, 176400, 192000]

lemma mem_supportedRates {rate ts : ℕ} (h : tsIntervalOfRate rate = some ts) :
    rate ∈ supportedRates := by
  unfold tsIntervalOfRate at h
  split at h
  all_goals first | decide | cases h

lemma rate_supported {rate ts : ℕ} (h : tsIntervalOfRate rate = some ts) :
    1 ≤ samplesPerPacket rate >>> 16 ∧ (∃ k ≤ 5, ts = 2 ^ k) ∧
      samplesPerPacket rate >>> 16 ≤ ts ∧
      (samplesPerPacket rate &&& 0xffff ≠ 0 → samplesPerPacket rate >>> 16 < ts) := by
  unfold tsIntervalOfRate at h
  split at h <;> cases h
  · exact ⟨by decide, ⟨0, by decide⟩, by decide, by decide⟩
  · exact ⟨by decide, ⟨1, by decide⟩, by decide, by decide⟩
  · exact ⟨by decide, ⟨3, by decide⟩, by decide, by decide⟩
  · exact ⟨by decide, ⟨3, by decide⟩, by decide, by decide⟩
  · exact ⟨by decide, ⟨3, by decide⟩, by decide, by decide⟩
  · exact ⟨by decide, ⟨4, by decide⟩, by decide, by decide⟩
  · exact ⟨by decide, ⟨4, by decide⟩, by decide, by decide⟩
  · exact ⟨by decide, ⟨5, by decide⟩, by decide, by decide⟩
  · exact ⟨by decide, ⟨5, by decide⟩, by decide, by decide⟩

lemma configured_of_configureStream {s c : TalkerStreamConfig} {setup : TalkerSetup}
    {mac : List UInt8} (h : configureStream s setup mac = some c) : Configured c := by
  unfold configureStream at h
  split at h
  · cases h
  · rename_i ts hts
    cases h
    obtain ⟨hpos, hk, hle, hlt⟩ := rate_supported hts
    exact ⟨rfl, hpos, hk, hle, hlt⟩

structure Settings (setup : TalkerSetup) (mac : List UInt8) (c : TalkerStreamConfig) : Prop where
  tsInterval : tsIntervalOfRate setup.rate = some c.tsInterval
  base : c.samplesPerPacketBase = samplesPerPacket setup.rate >>> 16
  fractional : c.samplesPerPacketFractional = samplesPerPacket setup.rate &&& 0xffff
  presentationDelay : c.presentationDelay = setup.presentationDelay
  numChannels : c.numChannels = setup.map.length
  destMacAdrs : c.destMacAdrs = setup.destMacAdrs
  srcMacAdrs : c.srcMacAdrs = mac

lemma settings_of_configureStream {s c : TalkerStreamConfig} {setup : TalkerSetup}
    {mac : List UInt8} (h : configureStream s setup mac = some c) : Settings setup mac c := by
  unfold configureStream at h
  split at h
  · cases h
  · rename_i ts hts
    cases h
    exact ⟨hts, rfl, rfl, rfl, rfl, rfl, rfl⟩

/-! ## Feeding frames -/

structure BuiltPacket where
  inputs : List (AudioFrame × PtpTimeInfoMod64)
  buf : Mem

structure StreamRun where
  buf : Mem
  stream : TalkerStreamConfig
  consumed : List (AudioFrame × PtpTimeInfoMod64)
  packets : List BuiltPacket

def streamStep (r : StreamRun) (x : AudioFrame × PtpTimeInfoMod64) : StreamRun :=
  let out := avb1722CreatePacket t r.buf r.stream x.2 x.1
  if out.2.2 = 0 then
    { buf := out.1, stream := out.2.1, consumed := r.consumed ++ [x], packets := r.packets }
  else
    { buf := out.1, stream := out.2.1, consumed := [],
      packets := r.packets ++ [⟨r.consumed ++ [x], out.1⟩] }

def streamRun (c : TalkerStreamConfig) (xs : List (AudioFrame × PtpTimeInfoMod64)) : StreamRun :=
  Run.runFrom (streamStep t) ⟨buf, c, [], []⟩ xs

variable (t : UInt32) {c : TalkerStreamConfig} {r : StreamRun} (x : AudioFrame × PtpTimeInfoMod64)

lemma streamStep_of_full (h : r.stream.currentSamplesInPacket + 1 = samplesPerChannel r.stream) :
    streamStep t r x =
      { buf := (avb1722CreatePacket t r.buf r.stream x.2 x.1).1
        stream :=
          { r.stream with
            rem := nextRem r.stream
            dbcAtStartOfLastPacket :=
              (r.stream.dbcAtStartOfLastPacket + samplesPerChannel r.stream) % 2 ^ 32
            sequenceNumber := (r.stream.sequenceNumber + 1) % 256
            currentSamplesInPacket := 0
            timestampValid := false }
        consumed := []
        packets := r.packets ++
          [⟨r.consumed ++ [x], (avb1722CreatePacket t r.buf r.stream x.2 x.1).1⟩] } := by
  have hsize : (avb1722CreatePacket t r.buf r.stream x.2 x.1).2.2 ≠ 0 := by
    rw [avb1722CreatePacket_size, if_pos h]
    omega
  simp only [streamStep, if_neg hsize, avb1722CreatePacket_of_full t r.buf r.stream x.2 x.1 h]

lemma streamStep_of_not_full
    (h : r.stream.currentSamplesInPacket + 1 ≠ samplesPerChannel r.stream) : streamStep t r x =
      { buf := (avb1722CreatePacket t r.buf r.stream x.2 x.1).1
        stream :=
          { r.stream with
            timestampValid := tsThisDbc r.stream || r.stream.timestampValid
            timestamp := if tsThisDbc r.stream then x.1.timestamp else r.stream.timestamp
            currentSamplesInPacket := r.stream.currentSamplesInPacket + 1 }
        consumed := r.consumed ++ [x]
        packets := r.packets } := by
  simp only [streamStep, avb1722CreatePacket_of_not_full t r.buf r.stream x.2 x.1 h, if_true]

lemma streamRun_snoc (buf : Mem) (c : TalkerStreamConfig)
    (xs : List (AudioFrame × PtpTimeInfoMod64)) (x : AudioFrame × PtpTimeInfoMod64) :
    streamRun t buf c (xs ++ [x]) = streamStep t (streamRun t buf c xs) x := by
  rw [streamRun, Run.runFrom_append]
  rfl

def frameChunker (c : TalkerStreamConfig) : Chunker ℕ where
  size rem := samplesPerChannel { c with rem := rem }
  next rem := nextRem { c with rem := rem }

def stampOffset (tsInterval dbc : ℕ) : ℕ := (tsInterval - dbc % tsInterval) % tsInterval

variable (ps : List BuiltPacket) {stream : TalkerStreamConfig}

def samplesIn : ℕ := (ps.map (·.inputs.length)).sum

/-- Packet `n` of a stream, after `before` samples: its counters, its length, its time. -/
structure PacketLaw (c : TalkerStreamConfig) (n before : ℕ) (p : BuiltPacket) : Prop where
  sequenceNumber : packetSequenceNumber p.buf = n % 256
  dbc : packetDbc p.buf = before % 256
  dataLength : packetDataLength p.buf = (8 + 4 * (p.inputs.length * c.numChannels)) % 2 ^ 16
  tv : packetTv p.buf = true ↔ stampOffset c.tsInterval (packetDbc p.buf) < p.inputs.length
  timestamp : ∀ x last, p.inputs[stampOffset c.tsInterval (packetDbc p.buf)]? = some x →
    p.inputs.getLast? = some last →
    packetTimestamp p.buf
      = (localTimestampToPtpMod32 x.1.timestamp last.2 + c.presentationDelay) % 2 ^ 32

lemma stamp_test {k total len : ℕ} (hk : k ≤ 5) (hlen : len < 2 ^ k) :
    (((total % 2 ^ 32 + len) % 2 ^ 32 &&& (2 ^ k - 1)) == 0)
      = decide (stampOffset (2 ^ k) total = len) := by
  rw [Nat.and_two_pow_sub_one_eq_mod, ← Bool.coe_iff_coe, beq_iff_eq, decide_eq_true_iff,
    stampOffset]
  interval_cases k <;> omega

lemma stampOffset_mod {k : ℕ} (hk : k ≤ 5) (total : ℕ) :
    stampOffset (2 ^ k) (total % 256) = stampOffset (2 ^ k) total := by
  rw [stampOffset, stampOffset, Nat.mod_mod_of_dvd]
  interval_cases k <;> decide

lemma samplesIn_append (p : BuiltPacket) :
    samplesIn (ps ++ [p]) = samplesIn ps + p.inputs.length := by
  simp [samplesIn]

/-! ## The invariant of a fed stream -/

structure Coupled (c : TalkerStreamConfig) (r : StreamRun) : Prop where
  stream : r.stream =
    { c with
      currentSamplesInPacket := r.consumed.length
      rem := r.stream.rem
      timestampValid := r.stream.timestampValid
      timestamp := r.stream.timestamp
      dbcAtStartOfLastPacket := samplesIn r.packets % 2 ^ 32
      sequenceNumber := r.packets.length % 256 }
  rem_zero : c.samplesPerPacketFractional = 0 → r.stream.rem = 0
  short : r.consumed.length < samplesPerChannel r.stream
  valid : r.stream.timestampValid
    = decide (stampOffset c.tsInterval (samplesIn r.packets) < r.consumed.length)
  stamp : ∀ x, r.consumed[stampOffset c.tsInterval (samplesIn r.packets)]? = some x →
    r.stream.timestamp = x.1.timestamp
  law : ∀ n p, r.packets[n]? = some p → PacketLaw c n (samplesIn (r.packets.take n)) p

lemma Coupled.current (h : Coupled c r) : r.stream.currentSamplesInPacket = r.consumed.length := by
  rw [h.stream]

lemma samplesPerChannel_zero (h : stream.rem = 0) :
    samplesPerChannel stream = stream.samplesPerPacketBase := by
  simp [samplesPerChannel, h]

lemma base_le_samplesPerChannel (stream : TalkerStreamConfig) :
    stream.samplesPerPacketBase ≤ samplesPerChannel stream :=
  Nat.le_add_right _ _

lemma samplesPerChannel_le (stream : TalkerStreamConfig) :
    samplesPerChannel stream ≤ stream.samplesPerPacketBase + 1 := by
  unfold samplesPerChannel
  split <;> omega

lemma nextRem_zero (hf : stream.samplesPerPacketFractional = 0) (hr : stream.rem = 0) :
    nextRem stream = 0 := by
  simp [nextRem, hf, hr]

lemma samplesPerChannel_le_interval (hc : Configured c) {stream : TalkerStreamConfig}
    (hb : stream.samplesPerPacketBase = c.samplesPerPacketBase)
    (hr : c.samplesPerPacketFractional = 0 → stream.rem = 0) :
    samplesPerChannel stream ≤ c.tsInterval := by
  by_cases hf : c.samplesPerPacketFractional = 0
  · rw [samplesPerChannel_zero (hr hf), hb]
    exact hc.base_le
  · have h := hc.base_lt hf
    have h' := samplesPerChannel_le stream
    omega

lemma coupled_start (hc : Configured c) (buf : Mem) : Coupled c ⟨buf, c, [], []⟩ := by
  have hrem : c.rem = 0 := by rw [hc.fresh]
  have htv : c.timestampValid = false := by rw [hc.fresh]
  refine ⟨?_, fun _ => hrem, ?_, ?_, ?_, ?_⟩
  · conv_lhs => rw [hc.fresh]
    simp [samplesIn, hrem, htv]
  · rw [samplesPerChannel_zero hrem]
    exact hc.base_pos
  · simpa using htv
  · intro x hx
    simp at hx
  · intro n p hp
    simp at hp

lemma avb1722CreatePacket_header (buf : Mem) (stream : TalkerStreamConfig)
    (ti : PtpTimeInfoMod64) (frame : AudioFrame)
    (h : stream.currentSamplesInPacket + 1 = samplesPerChannel stream) :
    let out := (avb1722CreatePacket t buf stream ti frame).1
    let time := if tsThisDbc stream then frame.timestamp else stream.timestamp
    packetSequenceNumber out = stream.sequenceNumber % 256 ∧
    packetDbc out = stream.dbcAtStartOfLastPacket % 256 ∧
    packetDataLength out = (8 + 4 * (samplesPerChannel stream * stream.numChannels)) % 2 ^ 16 ∧
    packetTv out = (tsThisDbc stream || stream.timestampValid) ∧
    (packetTv out = true → packetTimestamp out
      = (localTimestampToPtpMod32 time ti + stream.presentationDelay) % 2 ^ 32) := by
  simp only [avb1722CreatePacket, if_pos h, packetSequenceNumber_headerGen, packetDbc_headerGen,
    packetDbc_cipHeaderGen, packetDataLength_headerGen, packetTv_headerGen,
    packetTimestamp_headerGen]
  refine ⟨trivial, ?_, ?_, trivial, ?_⟩
  · rw [show (0xff : ℕ) = 2 ^ 8 - 1 from rfl, Nat.and_two_pow_sub_one_eq_mod]
    omega
  · rw [avbCipHdrSize, Nat.shiftLeft_eq, Nat.mul_comm _ (2 ^ 2)]
  · intro hv
    simp only [hv, if_true, Nat.mod_mod]

section

variable {c : TalkerStreamConfig} {r : StreamRun}

lemma tsThisDbc_coupled (hc : Configured c) (h : Coupled c r) : tsThisDbc r.stream
      = decide (stampOffset c.tsInterval (samplesIn r.packets) = r.consumed.length) := by
  obtain ⟨k, hk, hts⟩ := hc.interval
  have hlen : r.consumed.length < 2 ^ k := by
    have hb : r.stream.samplesPerPacketBase = c.samplesPerPacketBase := by rw [h.stream]
    have hle := samplesPerChannel_le_interval hc hb h.rem_zero
    have hs := h.short
    omega
  have hstream := h.stream
  unfold tsThisDbc
  rw [hstream]
  simp only [hts]
  exact stamp_test hk hlen

lemma valid_after (hc : Configured c) (h : Coupled c r) :
    (tsThisDbc r.stream || r.stream.timestampValid)
      = decide (stampOffset c.tsInterval (samplesIn r.packets) < r.consumed.length + 1) := by
  rw [tsThisDbc_coupled hc h, h.valid, ← Bool.decide_or, decide_eq_decide]
  omega

lemma stamp_after (hc : Configured c) (h : Coupled c r) (x y : AudioFrame × PtpTimeInfoMod64)
    (hy : (r.consumed ++ [x])[stampOffset c.tsInterval (samplesIn r.packets)]? = some y) :
    (if tsThisDbc r.stream then x.1.timestamp else r.stream.timestamp) = y.1.timestamp := by
  rw [tsThisDbc_coupled hc h]
  by_cases hj : stampOffset c.tsInterval (samplesIn r.packets) = r.consumed.length
  · rw [hj, List.getElem?_concat_length, Option.some.injEq] at hy
    simp [hj, hy]
  · have hlt : stampOffset c.tsInterval (samplesIn r.packets) < r.consumed.length := by
      have hlen := (List.getElem?_eq_some_iff.mp hy).1
      rw [length_append, length_singleton] at hlen
      omega
    rw [List.getElem?_append_left hlt] at hy
    simp only [hj, decide_false, Bool.false_eq_true, if_false]
    exact h.stamp y hy

lemma packetLaw_completed (hc : Configured c) (h : Coupled c r) (t : UInt32)
    (x : AudioFrame × PtpTimeInfoMod64)
    (hfull : r.consumed.length + 1 = samplesPerChannel r.stream) :
    PacketLaw c r.packets.length (samplesIn r.packets)
      ⟨r.consumed ++ [x], (avb1722CreatePacket t r.buf r.stream x.2 x.1).1⟩ := by
  obtain ⟨k, hk, hts⟩ := hc.interval
  have hstream := h.stream
  have hcur := h.current
  have hseq : r.stream.sequenceNumber = r.packets.length % 256 := by rw [hstream]
  have hdbc : r.stream.dbcAtStartOfLastPacket = samplesIn r.packets % 2 ^ 32 := by rw [hstream]
  have hnum : r.stream.numChannels = c.numChannels := by rw [hstream]
  have hdel : r.stream.presentationDelay = c.presentationDelay := by rw [hstream]
  have hlast : (r.consumed ++ [x]).getLast? = some x := by simp
  obtain ⟨h₁, h₂, h₃, h₄, h₅⟩ := avb1722CreatePacket_header t r.buf r.stream x.2 x.1
    (by rw [hcur]; exact hfull)
  have hdbc' : packetDbc (avb1722CreatePacket t r.buf r.stream x.2 x.1).1
      = samplesIn r.packets % 256 := by
    rw [h₂, hdbc]
    omega
  have hoff : stampOffset c.tsInterval (packetDbc (avb1722CreatePacket t r.buf r.stream x.2 x.1).1)
      = stampOffset c.tsInterval (samplesIn r.packets) := by
    rw [hdbc', hts, stampOffset_mod hk]
  have htv : packetTv (avb1722CreatePacket t r.buf r.stream x.2 x.1).1 = true
      ↔ stampOffset c.tsInterval (samplesIn r.packets) < r.consumed.length + 1 := by
    rw [h₄, valid_after hc h, decide_eq_true_iff]
  refine ⟨?_, hdbc', ?_, ?_, ?_⟩
  · rw [h₁, hseq, Nat.mod_mod]
  · rw [h₃, ← hfull, hnum, length_append, length_singleton]
  · rw [hoff, htv, length_append, length_singleton]
  · intro y last hy hl
    simp only [hoff] at hy
    rw [hlast, Option.some.injEq] at hl
    have hlt := (List.getElem?_eq_some_iff.mp hy).1
    rw [length_append, length_singleton] at hlt
    rw [h₅ (htv.mpr hlt), stamp_after hc h x y hy, hdel, hl]

lemma packetLaw_snoc {ps : List BuiltPacket} {q : BuiltPacket}
    (hlaw : ∀ n p, ps[n]? = some p → PacketLaw c n (samplesIn (ps.take n)) p)
    (hq : PacketLaw c ps.length (samplesIn ps) q) (n : ℕ) (p : BuiltPacket)
    (hp : (ps ++ [q])[n]? = some p) : PacketLaw c n (samplesIn ((ps ++ [q]).take n)) p := by
  rcases Nat.lt_trichotomy n ps.length with hn | hn | hn
  · rw [List.getElem?_append_left hn] at hp
    rw [List.take_append_of_le_length hn.le]
    exact hlaw n p hp
  · subst hn
    rw [List.getElem?_concat_length, Option.some.injEq] at hp
    rw [List.take_left, ← hp]
    exact hq
  · rw [List.getElem?_eq_none (by simp; omega)] at hp
    exact absurd hp (by simp)

lemma coupled_of_full (hc : Configured c) (h : Coupled c r) (t : UInt32)
    (x : AudioFrame × PtpTimeInfoMod64)
    (hfull : r.consumed.length + 1 = samplesPerChannel r.stream) :
    Coupled c (streamStep t r x) := by
  have hstream := h.stream
  have hbase : r.stream.samplesPerPacketBase = c.samplesPerPacketBase := by rw [hstream]
  have hfrac : r.stream.samplesPerPacketFractional = c.samplesPerPacketFractional := by
    rw [hstream]
  rw [streamStep_of_full t x (h.current ▸ hfull)]
  refine ⟨?_, ?_, ?_, ?_, ?_, packetLaw_snoc h.law (packetLaw_completed hc h t x hfull)⟩
  · conv_lhs => rw [hstream]
    simp only [samplesIn_append, length_append, length_singleton, List.length_nil,
      ← hfull, ← hstream, TalkerStreamConfig.mk.injEq, true_and]
    constructor <;> omega
  · intro hf
    exact nextRem_zero (hfrac.trans hf) (h.rem_zero hf)
  · refine lt_of_lt_of_le ?_ (base_le_samplesPerChannel _)
    simp only [hbase, List.length_nil]
    exact hc.base_pos
  · simp
  · intro y hy
    simp at hy

lemma coupled_of_not_full (hc : Configured c) (h : Coupled c r) (t : UInt32)
    (x : AudioFrame × PtpTimeInfoMod64)
    (hfull : r.consumed.length + 1 ≠ samplesPerChannel r.stream) :
    Coupled c (streamStep t r x) := by
  have hstream := h.stream
  rw [streamStep_of_not_full t x (h.current ▸ hfull)]
  refine ⟨?_, h.rem_zero, ?_, ?_, ?_, h.law⟩
  · conv_lhs => rw [hstream]
    simp only [length_append, length_singleton, ← hstream]
  · -- the size of the packet does not depend on what the call changes
    show (r.consumed ++ [x]).length < samplesPerChannel r.stream
    have hshort := h.short
    rw [length_append, length_singleton]
    omega
  · simp only [length_append, length_singleton]
    exact valid_after hc h
  · intro y hy
    exact stamp_after hc h x y hy

lemma coupled_step (hc : Configured c) (h : Coupled c r) (t : UInt32)
    (x : AudioFrame × PtpTimeInfoMod64) : Coupled c (streamStep t r x) := by
  by_cases hfull : r.consumed.length + 1 = samplesPerChannel r.stream
  · exact coupled_of_full hc h t x hfull
  · exact coupled_of_not_full hc h t x hfull

end

/-- **Run.**  Every fed stream is coupled to what it has consumed. -/
theorem coupled_streamRun (hc : Configured c) (t : UInt32) (buf : Mem)
    (xs : List (AudioFrame × PtpTimeInfoMod64)) : Coupled c (streamRun t buf c xs) := by
  have hstep : ∀ r x, Coupled c r → Coupled c (streamStep t r x) :=
    fun _ x h => coupled_step hc h t x
  exact Run.invariant_of_step hstep (coupled_start hc buf) xs

/-- **Refinement.**  The packets are the blocks the `frameChunker` cuts. -/
theorem streamRun_refines_chunker (hc : Configured c) (t : UInt32) (buf : Mem)
    (xs : List (AudioFrame × PtpTimeInfoMod64)) :
    (streamRun t buf c xs).packets.map (·.inputs) = ((frameChunker c).feedAll 0 xs).blocks ∧
    (streamRun t buf c xs).consumed = ((frameChunker c).feedAll 0 xs).pending ∧
    (streamRun t buf c xs).stream.rem = ((frameChunker c).feedAll 0 xs).phase := by
  induction xs using List.reverseRecOn with
  | nil =>
    refine ⟨rfl, rfl, ?_⟩
    show c.rem = 0
    rw [hc.fresh]
  | append_singleton xs x ih =>
    obtain ⟨hblocks, hpending, hphase⟩ := ih
    have hcoupled := coupled_streamRun hc t buf xs
    rw [streamRun_snoc, Chunker.feedAll_concat]
    set r := streamRun t buf c xs with hr
    set s := (frameChunker c).feedAll 0 xs with hs
    -- size and next phase depend on the stream only through its accumulator
    have hspc : samplesPerChannel r.stream = (frameChunker c).size s.phase := by
      rw [← hphase]
      show samplesPerChannel r.stream = samplesPerChannel { c with rem := r.stream.rem }
      conv_lhs => rw [hcoupled.stream]
      rfl
    have hnextRem : nextRem r.stream = (frameChunker c).next s.phase := by
      rw [← hphase]
      show nextRem r.stream = nextRem { c with rem := r.stream.rem }
      conv_lhs => rw [hcoupled.stream]
      rfl
    by_cases hfull : r.consumed.length + 1 = samplesPerChannel r.stream
    · rw [Chunker.feed_of_full _ _ _ (by rw [← hpending, ← hspc]; exact hfull),
        streamStep_of_full t x (hcoupled.current ▸ hfull)]
      refine ⟨?_, rfl, hnextRem⟩
      rw [List.map_append, hblocks, ← hpending]
      rfl
    · rw [Chunker.feed_of_not_full _ _ _ (by rw [← hpending, ← hspc]; exact hfull),
        streamStep_of_not_full t x (hcoupled.current ▸ hfull)]
      exact ⟨hblocks, by rw [hpending], hphase⟩

lemma streamRun_frames (hc : Configured c) (t : UInt32) (buf : Mem)
    (xs : List (AudioFrame × PtpTimeInfoMod64)) :
    ((streamRun t buf c xs).packets.map (·.inputs)).flatten ++ (streamRun t buf c xs).consumed
      = xs := by
  obtain ⟨hblocks, hpending, -⟩ := streamRun_refines_chunker hc t buf xs
  rw [hblocks, hpending]
  exact Chunker.flatten_blocks_append_pending _ _ _

lemma length_inputs_streamRun (hc : Configured c) (t : UInt32) (buf : Mem)
    (xs : List (AudioFrame × PtpTimeInfoMod64)) (n : ℕ) (p : BuiltPacket)
    (hp : (streamRun t buf c xs).packets[n]? = some p) :
    p.inputs.length = (frameChunker c).size ((frameChunker c).next^[n] 0) := by
  apply Chunker.length_block (frameChunker c) 0 xs n
  rw [← (streamRun_refines_chunker hc t buf xs).1, List.getElem?_map, hp]
  rfl

/-- **The talker law.**  From configuration on, whatever the frames and the time
information: the frames go into packets in order, fewer than an interval's
worth waiting, and every completed packet carries the sequence number, counter,
flag and timestamp of `PacketLaw`. -/
theorem talker_dbc_timestamp_law (s c : TalkerStreamConfig) (setup : TalkerSetup)
    (mac : List UInt8) (h : configureStream s setup mac = some c) (t : UInt32) (buf : Mem)
    (xs : List (AudioFrame × PtpTimeInfoMod64)) : tsIntervalOfRate setup.rate = some c.tsInterval ∧
    c.presentationDelay = setup.presentationDelay ∧
    ((streamRun t buf c xs).packets.map (·.inputs)).flatten ++ (streamRun t buf c xs).consumed
      = xs ∧
    (streamRun t buf c xs).consumed.length < c.tsInterval ∧
    ∀ n p, (streamRun t buf c xs).packets[n]? = some p →
      PacketLaw c n (samplesIn ((streamRun t buf c xs).packets.take n)) p := by
  have hc := configured_of_configureStream h
  have hcoupled := coupled_streamRun hc t buf xs
  have hbase : (streamRun t buf c xs).stream.samplesPerPacketBase = c.samplesPerPacketBase := by
    rw [hcoupled.stream]
  have hshort : (streamRun t buf c xs).consumed.length < c.tsInterval :=
    lt_of_lt_of_le hcoupled.short (samplesPerChannel_le_interval hc hbase hcoupled.rem_zero)
  have hset := settings_of_configureStream h
  exact ⟨hset.tsInterval, hset.presentationDelay, streamRun_frames hc t buf xs,
    hshort, hcoupled.law⟩

def monoSetup : TalkerSetup := ⟨mbla24Bit, List.replicate 6 0, 0, [0], 48000, 2000000⟩

theorem talker_law_mono : ∃ c, configureStream {} monoSetup (List.replicate 6 0) = some c ∧
      ∃ p, (streamRun mbla24Bit (fun _ => 0) c
          (List.replicate 6 (⟨7, [1]⟩, ⟨0, 0, 0, 0, 0⟩))).packets[0]? = some p ∧
        PacketLaw c 0 0 p := by
  refine ⟨_, rfl, _, rfl, ?_⟩
  exact (talker_dbc_timestamp_law {} _ monoSetup (List.replicate 6 0) rfl mbla24Bit (fun _ => 0)
    (List.replicate 6 (⟨7, [1]⟩, ⟨0, 0, 0, 0, 0⟩))).2.2.2.2 0 _ rfl
