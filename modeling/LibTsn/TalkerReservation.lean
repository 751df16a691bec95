/-
# Packets, their buffer and their reservation

The samples per packet are rounded three times: down for the size of the transmit
buffer, up for the frame size that is reserved, and one way or the other from packet to
packet.
-/
import LibTsn.ManagerFormats
import LibTsn.TalkerRate

def avb1722PlusSipHeaderSize : ℕ := 32

/-- `avb_srp_calculate_max_framesize`.  The constants of a build are `int`s, so the
product is far from a word's end. -/
def avbSrpCalculateMaxFramesize (cfg : ManagerConfig) (src : AvbSourceInfo) : ℕ :=
  let samplesPerPacket := (cfg.maxAudioSampleRate + (avb1722PacketRate - 1)) / avb1722PacketRate
  avb1722PlusSipHeaderSize + src.channels * samplesPerPacket * 4

/-- Where `avb1722_create_packet` writes the sample of channel `i`. -/
def sampleWordAt (stream : TalkerStreamConfig) (i : ℕ) : ℕ := sampleDest stream + 4 * i

/-! ## The largest packet -/

def largestPacket (rate : ℕ) : ℕ := (rate + (avb1722PacketRate - 1)) / avb1722PacketRate

section

variable {s c : TalkerStreamConfig} {setup : TalkerSetup} {mac : List UInt8}
  (h : configureStream s setup mac = some c)
include h

lemma largestPacket_eq : largestPacket setup.rate =
      c.samplesPerPacketBase + if c.samplesPerPacketFractional = 0 then 0 else 1 := by
  have hrates : ∀ rate ∈ supportedRates, largestPacket rate = samplesPerPacket rate >>> 16 +
      if samplesPerPacket rate &&& 0xffff = 0 then 0 else 1 := by decide
  have hset := settings_of_configureStream h
  rw [hset.base, hset.fractional]
  exact hrates _ (mem_supportedRates hset.tsInterval)

variable (t : UInt32) (buf : Mem) (xs : List (AudioFrame × PtpTimeInfoMod64))

lemma samplesPerChannel_le_largest :
    samplesPerChannel (streamRun t buf c xs).stream ≤ largestPacket setup.rate := by
  have hcoupled := coupled_streamRun (configured_of_configureStream h) t buf xs
  have hbase : (streamRun t buf c xs).stream.samplesPerPacketBase = c.samplesPerPacketBase := by
    rw [hcoupled.stream]
  rw [largestPacket_eq h]
  split
  · rename_i hfrac
    rw [samplesPerChannel_zero (hcoupled.rem_zero hfrac), hbase, Nat.add_zero]
  · rw [← hbase]
    exact samplesPerChannel_le _

lemma length_inputs_le_largest {p : BuiltPacket} (hp : p ∈ (streamRun t buf c xs).packets) :
    p.inputs.length ≤ largestPacket setup.rate := by
  obtain ⟨n, hn⟩ := List.mem_iff_getElem?.mp hp
  obtain ⟨-, hfrac⟩ := parts_of_configureStream h
  rw [length_inputs_streamRun (configured_of_configureStream h) t buf xs n p hn,
    frameChunker_size_phase hfrac, largestPacket_eq h]
  unfold CarryAccumulator.carry
  split_ifs with hcarry hzero
  · -- without a fraction there is never a carry
    have hvalue := (CarryAccumulator.value_of_small (f := 0) (m := 65536) (n := n)
      fun i _ => by simp).1
    rw [hzero, hvalue] at hcarry
    omega
  all_goals omega

lemma exists_largest :
    ∃ n, (frameChunker c).size ((frameChunker c).next^[n] 0) = largestPacket setup.rate := by
  obtain ⟨-, hfrac⟩ := parts_of_configureStream h
  rw [largestPacket_eq h]
  simp only [frameChunker_size_phase hfrac]
  by_cases hzero : c.samplesPerPacketFractional = 0
  · refine ⟨0, ?_⟩
    rw [if_pos hzero]
    rfl
  · obtain ⟨n, hreached, -, -⟩ :=
      CarryAccumulator.exists_reaches 65536 (Nat.pos_of_ne_zero hzero)
    refine ⟨n, ?_⟩
    rw [if_neg hzero, CarryAccumulator.carry, if_pos hreached]

lemma exists_almost_largest :
    ∃ xs, (streamRun t buf c xs).stream.currentSamplesInPacket + 1 = largestPacket setup.rate := by
  have hc := configured_of_configureStream h
  obtain ⟨n, hn⟩ := exists_largest h
  have hpos := frameChunker_size_pos hc ((frameChunker c).next^[n] 0)
  have htotal := Chunker.total_succ (frameChunker c) 0 n
  let xs := List.replicate ((frameChunker c).total 0 n + (largestPacket setup.rate - 1))
    ((⟨0, []⟩, ⟨0, 0, 0, 0, 0⟩) : AudioFrame × PtpTimeInfoMod64)
  have hxs : xs.length = (frameChunker c).total 0 n + (largestPacket setup.rate - 1) :=
    List.length_replicate
  have hblocks : ((frameChunker c).feedAll 0 xs).blocks.length = n :=
    Chunker.length_blocks_eq _ (frameChunker_size_pos hc) 0 xs (by omega) (by omega)
  have hlength := Chunker.length_feedAll (frameChunker c) 0 xs
  rw [hblocks] at hlength
  refine ⟨xs, ?_⟩
  rw [(coupled_streamRun hc t buf xs).current, (streamRun_refines_chunker hc t buf xs).2.1]
  omega

end

/-! ## The reservation and the buffer -/

section

variable {cfg : ManagerConfig} {src : AvbSourceInfo} {i : ℕ} {s c : TalkerStreamConfig}
  {mac : List UInt8}

lemma numChannels_of_setup (h : configureStream s (src.setup i) mac = some c) :
    c.numChannels = src.channels := by
  rw [(settings_of_configureStream h).numChannels]
  simp [AvbSourceInfo.setup, AvbSourceInfo.usedInputs]

/-- **The reservation.**  It covers every packet. -/
theorem frame_le_reserved (h : configureStream s (src.setup i) mac = some c)
    (hrate : src.rate ≤ cfg.maxAudioSampleRate) (t : UInt32) (buf : Mem)
    (xs : List (AudioFrame × PtpTimeInfoMod64)) {p : BuiltPacket}
    (hp : p ∈ (streamRun t buf c xs).packets) :
    avb1722PlusSipHeaderSize + 4 * (p.inputs.length * c.numChannels) ≤
      avbSrpCalculateMaxFramesize cfg src := by
  have hpacket : p.inputs.length ≤
      (cfg.maxAudioSampleRate + (avb1722PacketRate - 1)) / avb1722PacketRate :=
    (length_inputs_le_largest h t buf xs hp).trans
      (Nat.div_le_div_right (Nat.add_le_add_right hrate _))
  have hdata := Nat.mul_le_mul_left src.channels hpacket
  unfold avbSrpCalculateMaxFramesize
  rw [numChannels_of_setup h, Nat.mul_comm p.inputs.length]
  dsimp only
  omega

lemma lastSample_fits_iff (r : TalkerStreamConfig) (hpos : 0 < r.numChannels) :
    (∀ k < r.numChannels, sampleWordAt r k + 4 ≤ cfg.maxPktBufSizeTalker) ↔
      (r.currentSamplesInPacket + 1) * r.numChannels ≤
        cfg.talkerMaxNumSamplesPerChannel * cfg.maxChannelsPerTalkerStream := by
  have hsize : cfg.maxPktBufSizeTalker = 54 +
      cfg.talkerMaxNumSamplesPerChannel * cfg.maxChannelsPerTalkerStream * 4 := by
    show 50 + _ * 4 + 4 = _
    omega
  have hstart : sampleStart = 52 := rfl
  unfold sampleWordAt sampleDest
  rw [hsize, hstart, Nat.add_mul, Nat.one_mul]
  constructor
  · intro hall
    have hlast := hall (r.numChannels - 1) (by omega)
    omega
  · intro hle k hk
    omega

end

/-- **The buffer and the reservation.**  For every build, and every stream of a
supported rate of at most the rate of the build: in every run every sample word is
written inside the `MAX_PKT_BUF_SIZE_TALKER` bytes of the buffer and every packet fits the
reserved frame size, if and only if the samples of the largest packet are no more than the
buffer was made for. -/
theorem packets_fit_iff (cfg : ManagerConfig) (src : AvbSourceInfo) (i : ℕ)
    (s c : TalkerStreamConfig) (mac : List UInt8)
    (h : configureStream s (src.setup i) mac = some c) (hrate : src.rate ≤ cfg.maxAudioSampleRate) :
    (∀ (t : UInt32) (buf : Mem) (xs : List (AudioFrame × PtpTimeInfoMod64)),
      (∀ k < c.numChannels,
        sampleWordAt (streamRun t buf c xs).stream k + 4 ≤ cfg.maxPktBufSizeTalker) ∧
      ∀ p ∈ (streamRun t buf c xs).packets,
        avb1722PlusSipHeaderSize + 4 * (p.inputs.length * c.numChannels) ≤
          avbSrpCalculateMaxFramesize cfg src) ↔
      largestPacket src.rate * src.channels ≤
        cfg.talkerMaxNumSamplesPerChannel * cfg.maxChannelsPerTalkerStream := by
  have hnum := numChannels_of_setup h
  have hstream : ∀ t buf xs, (streamRun t buf c xs).stream.numChannels = c.numChannels :=
    fun t buf xs => by rw [(coupled_streamRun (configured_of_configureStream h) t buf xs).stream]
  rcases Nat.eq_zero_or_pos src.channels with hzero | hpos
  · -- a stream without channels writes nothing
    rw [hzero, Nat.mul_zero]
    refine iff_of_true (fun t buf xs => ⟨?_, ?_⟩) (Nat.zero_le _)
    · intro k hk
      omega
    · intro p hp
      exact frame_le_reserved h hrate t buf xs hp
  constructor
  · intro hfits
    obtain ⟨xs, hxs⟩ := exists_almost_largest h 0 (fun _ => 0)
    have hwords := (hfits 0 (fun _ => 0) xs).1
    rw [← hstream 0 (fun _ => 0) xs, lastSample_fits_iff _ (by rw [hstream, hnum]; exact hpos),
      hxs, hstream, hnum] at hwords
    exact hwords
  · intro hroom t buf xs
    refine ⟨?_, fun p hp => frame_le_reserved h hrate t buf xs hp⟩
    have hcoupled := coupled_streamRun (configured_of_configureStream h) t buf xs
    have hcurrent : (streamRun t buf c xs).stream.currentSamplesInPacket + 1 ≤
        largestPacket src.rate := by
      rw [hcoupled.current]
      exact hcoupled.short.trans_le (samplesPerChannel_le_largest h t buf xs)
    rw [← hstream t buf xs, lastSample_fits_iff _ (by rw [hstream, hnum]; exact hpos), hstream,
      hnum]
    exact (Nat.mul_le_mul_right _ hcurrent).trans hroom

theorem packets_fit_44100_in_48000 :
    ∃ c, configureStream {} ((stereoSource 44100).setup 0) (List.replicate 6 0) = some c ∧
      ∀ (t : UInt32) (buf : Mem) (xs : List (AudioFrame × PtpTimeInfoMod64)),
        (∀ k < c.numChannels, sampleWordAt (streamRun t buf c xs).stream k + 4 ≤
          (stereoBuild 48000).maxPktBufSizeTalker) ∧
        ∀ p ∈ (streamRun t buf c xs).packets,
          avb1722PlusSipHeaderSize + 4 * (p.inputs.length * c.numChannels) ≤
            avbSrpCalculateMaxFramesize (stereoBuild 48000) (stereoSource 44100) :=
  ⟨_, rfl, (packets_fit_iff (stereoBuild 48000) (stereoSource 44100) 0 {} _ (List.replicate 6 0)
    rfl (by decide)).mpr (by decide)⟩

/-- In a build for 44.1 kHz the sixth sample of the third packet is written behind the
buffer. -/
theorem packets_leave_buffer_44100 :
    ∃ c, configureStream {} ((stereoSource 44100).setup 0) (List.replicate 6 0) = some c ∧
      ∃ xs, ¬ ∀ k < c.numChannels,
        sampleWordAt (streamRun mbla24Bit (fun _ => 0) c xs).stream k + 4 ≤
          (stereoBuild 44100).maxPktBufSizeTalker :=
  ⟨_, rfl, List.replicate 15 (⟨7, [1, 2]⟩, ⟨0, 0, 0, 0, 0⟩), by decide +kernel⟩
