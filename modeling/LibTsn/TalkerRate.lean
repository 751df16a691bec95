/-
# The packet rate of a talker stream

The number of samples in a packet follows an accumulator of the fractional part of
the samples per packet (`CarryAccumulator`), which is looked at before the fraction of
the packet is added.  `q` is the configured number of samples per packet in 16.16
format, and `packetDeficit` what the first `n` packets are short of `n * q`.
-/
import LibTsn.CarryAccumulator
import LibTsn.TalkerLaw

/-! ## The accumulator of the code -/

lemma and_high_half {x : ℕ} (h : x < 2 ^ 32) : x &&& 0xffff0000 = (x >>> 16) <<< 16 := by
  apply Nat.eq_of_testBit_eq
  intro i
  have hmask : (0xffff0000 : ℕ) = (2 ^ 16 - 1) <<< 16 := rfl
  rw [hmask, Nat.testBit_and, Nat.testBit_shiftLeft, Nat.testBit_shiftLeft,
    Nat.testBit_shiftRight, Nat.testBit_two_pow_sub_one]
  by_cases hlow : 16 ≤ i
  · rw [Nat.add_sub_cancel' hlow]
    by_cases hhigh : i < 32
    · simp [hlow, show i - 16 < 16 by omega]
    · -- there are no bits above the word
      have hzero : x.testBit i = false :=
        Nat.testBit_lt_two_pow (h.trans_le (Nat.pow_le_pow_right (by decide) (by omega)))
      simp [hzero]
  · simp [hlow]

lemma and_high_half_ne_zero {x : ℕ} (h : x < 2 ^ 32) : x &&& 0xffff0000 ≠ 0 ↔ 65536 ≤ x := by
  rw [and_high_half h, Nat.shiftLeft_eq, Nat.shiftRight_eq_div_pow]
  omega

section

variable {c : TalkerStreamConfig}

lemma frameChunker_size {rem : ℕ} (h : rem < 2 ^ 32) :
    (frameChunker c).size rem = c.samplesPerPacketBase + CarryAccumulator.carry 65536 rem := by
  show samplesPerChannel { c with rem := rem } = _
  unfold samplesPerChannel CarryAccumulator.carry
  simp only [and_high_half_ne_zero h]

lemma frameChunker_next {rem : ℕ} (hfrac : c.samplesPerPacketFractional < 65536)
    (h : rem < 65536 + c.samplesPerPacketFractional) : (frameChunker c).next rem =
      CarryAccumulator.next c.samplesPerPacketFractional 65536 rem := by
  have hmask : (0xffff : ℕ) = 2 ^ 16 - 1 := rfl
  have hmore : samplesPerChannel { c with rem := rem } > c.samplesPerPacketBase ↔ 65536 ≤ rem := by
    rw [← and_high_half_ne_zero (by omega)]
    unfold samplesPerChannel
    dsimp only
    split <;> omega
  show nextRem { c with rem := rem } = _
  unfold nextRem CarryAccumulator.next
  dsimp only
  rw [Nat.mod_eq_of_lt (by omega), hmask, Nat.and_two_pow_sub_one_eq_mod]
  simp only [hmore]

lemma phase_frameChunker (hfrac : c.samplesPerPacketFractional < 65536) (n : ℕ) :
    (frameChunker c).next^[n] 0 =
      CarryAccumulator.value c.samplesPerPacketFractional 65536 n := by
  induction n with
  | zero => rfl
  | succ n ih =>
    rw [Function.iterate_succ_apply', ih, CarryAccumulator.value_succ]
    exact frameChunker_next hfrac (CarryAccumulator.value_lt (by decide) n)

lemma frameChunker_size_phase (hfrac : c.samplesPerPacketFractional < 65536) (n : ℕ) :
    (frameChunker c).size ((frameChunker c).next^[n] 0) =
      c.samplesPerPacketBase + CarryAccumulator.carry 65536
        (CarryAccumulator.value c.samplesPerPacketFractional 65536 n) := by
  have hlt := CarryAccumulator.value_lt (f := c.samplesPerPacketFractional) (m := 65536)
    (by decide) n
  rw [phase_frameChunker hfrac, frameChunker_size (by omega)]

lemma total_frameChunker (hfrac : c.samplesPerPacketFractional < 65536) (n : ℕ) :
    (frameChunker c).total 0 n = n * c.samplesPerPacketBase +
      CarryAccumulator.carries c.samplesPerPacketFractional 65536 n := by
  induction n with
  | zero => simp [Chunker.total, CarryAccumulator.carries]
  | succ n ih =>
    rw [Chunker.total_succ, ih, frameChunker_size_phase hfrac, CarryAccumulator.carries_succ,
      Nat.succ_mul]
    omega

lemma frameChunker_size_pos (hc : Configured c) (rem : ℕ) : 0 < (frameChunker c).size rem :=
  Nat.add_pos_left hc.base_pos _

end

section

variable {c : TalkerStreamConfig} (hc : Configured c) (t : UInt32) (buf : Mem)
include hc

variable (xs : List (AudioFrame × PtpTimeInfoMod64))

lemma length_packets_streamRun :
    (streamRun t buf c xs).packets.length = ((frameChunker c).feedAll 0 xs).blocks.length := by
  rw [← (streamRun_refines_chunker hc t buf xs).1, List.length_map]

lemma samplesIn_take_streamRun {n : ℕ} (hn : n ≤ (streamRun t buf c xs).packets.length) :
    samplesIn ((streamRun t buf c xs).packets.take n) = (frameChunker c).total 0 n := by
  rw [length_packets_streamRun hc] at hn
  rw [← Chunker.sum_length_take (frameChunker c) 0 xs hn,
    ← (streamRun_refines_chunker hc t buf xs).1, ← List.map_take, List.map_map]
  rfl

lemma exists_packets_streamRun (n : ℕ) : ∃ xs, (streamRun t buf c xs).packets.length = n := by
  refine ⟨List.replicate ((frameChunker c).total 0 n) (⟨0, []⟩, ⟨0, 0, 0, 0, 0⟩), ?_⟩
  rw [length_packets_streamRun hc]
  apply Chunker.length_blocks_eq _ (frameChunker_size_pos hc)
  · rw [List.length_replicate]
  · rw [List.length_replicate, Chunker.total_succ]
    exact Nat.lt_add_of_pos_right (frameChunker_size_pos hc _)

end

/-! ## The deficit -/

def packetDeficit (q : ℕ) (r : StreamRun) (n : ℕ) : ℤ :=
  n * q - 2 ^ 16 * samplesIn (r.packets.take n)

section

variable {s c : TalkerStreamConfig} {setup : TalkerSetup} {mac : List UInt8}
  (h : configureStream s setup mac = some c)
include h

lemma parts_of_configureStream :
    c.samplesPerPacketBase * 65536 + c.samplesPerPacketFractional = samplesPerPacket setup.rate ∧
      c.samplesPerPacketFractional < 65536 := by
  have hset := settings_of_configureStream h
  have hmask : (0xffff : ℕ) = 2 ^ 16 - 1 := rfl
  rw [hset.base, hset.fractional, Nat.shiftRight_eq_div_pow, hmask, Nat.and_two_pow_sub_one_eq_mod]
  omega

lemma packetDeficit_eq (t : UInt32) (buf : Mem) (xs : List (AudioFrame × PtpTimeInfoMod64))
    {n : ℕ} (hn : n ≤ (streamRun t buf c xs).packets.length) :
    packetDeficit (samplesPerPacket setup.rate) (streamRun t buf c xs) n =
      n * c.samplesPerPacketFractional -
        2 ^ 16 * CarryAccumulator.carries c.samplesPerPacketFractional 65536 n := by
  obtain ⟨hparts, hfrac⟩ := parts_of_configureStream h
  unfold packetDeficit
  rw [samplesIn_take_streamRun (configured_of_configureStream h) t buf xs hn,
    total_frameChunker hfrac, ← hparts]
  push_cast
  ring

lemma fractional_eq_zero_iff :
    c.samplesPerPacketFractional = 0 ↔ setup.rate % avb1722PacketRate = 0 := by
  have hrates : ∀ rate ∈ supportedRates,
      samplesPerPacket rate &&& 0xffff = 0 ↔ rate % avb1722PacketRate = 0 := by decide
  have hset := settings_of_configureStream h
  rw [hset.fractional]
  exact hrates _ (mem_supportedRates hset.tsInterval)

end

/-- **The packet rate.**  For every supported rate: in every run, the number of samples
per channel in the first `n` packets differs from `n * q / 2 ^ 16` by less than one, for
every `n`, if and only if the rate is a multiple of the packet rate. -/
theorem packet_rate_exact_iff (s c : TalkerStreamConfig) (setup : TalkerSetup) (mac : List UInt8)
    (h : configureStream s setup mac = some c) :
    (∀ (t : UInt32) (buf : Mem) (xs : List (AudioFrame × PtpTimeInfoMod64)) (n : ℕ),
      n ≤ (streamRun t buf c xs).packets.length →
        |packetDeficit (samplesPerPacket setup.rate) (streamRun t buf c xs) n| < 2 ^ 16) ↔
      setup.rate % avb1722PacketRate = 0 := by
  rw [← fractional_eq_zero_iff h]
  constructor
  · intro hexact
    by_contra hfrac
    -- the accumulator reaches a whole sample before the first packet that takes one more
    obtain ⟨n, hreached, hcarries, hvalue⟩ :=
      CarryAccumulator.exists_reaches 65536 (Nat.pos_of_ne_zero hfrac)
    obtain ⟨xs, hxs⟩ :=
      exists_packets_streamRun (configured_of_configureStream h) 0 (fun _ => 0) n
    have hdeficit := hexact 0 (fun _ => 0) xs n hxs.ge
    rw [packetDeficit_eq h _ _ _ hxs.ge, hcarries] at hdeficit
    rw [hvalue] at hreached
    have hlarge : (65536 : ℤ) ≤ n * c.samplesPerPacketFractional := by exact_mod_cast hreached
    have hsmall := (abs_lt.mp hdeficit).2
    push_cast at hsmall
    linarith
  · intro hfrac t buf xs n hn
    have hcarries := (CarryAccumulator.value_of_small (f := 0) (m := 65536) (n := n)
      fun i _ => by simp).2
    rw [packetDeficit_eq h _ _ _ hn, hfrac, hcarries]
    simp

theorem packet_rate_exact_48000 : ∃ c, configureStream {} monoSetup (List.replicate 6 0) = some c ∧
      ∀ (t : UInt32) (buf : Mem) (xs : List (AudioFrame × PtpTimeInfoMod64)) (n : ℕ),
        n ≤ (streamRun t buf c xs).packets.length →
          |packetDeficit (samplesPerPacket 48000) (streamRun t buf c xs) n| < 2 ^ 16 :=
  ⟨_, rfl, (packet_rate_exact_iff {} _ monoSetup (List.replicate 6 0) rfl).mpr (by decide)⟩

/-- The mono stream at 44.1 kHz is short of a sample after two packets. -/
theorem packet_rate_not_exact_44100 :
    ∃ c, configureStream {} { monoSetup with rate := 44100 } (List.replicate 6 0) = some c ∧
      ∃ xs, 2 ≤ (streamRun mbla24Bit (fun _ => 0) c xs).packets.length ∧
        ¬ |packetDeficit (samplesPerPacket 44100) (streamRun mbla24Bit (fun _ => 0) c xs) 2|
          < 2 ^ 16 := by
  refine ⟨_, rfl, List.replicate 10 (⟨7, [1]⟩, ⟨0, 0, 0, 0, 0⟩), ?_, ?_⟩
  · decide +kernel
  · decide +kernel
