/-
# The inference of channels and rate on any input

Until it has locked, the listener divides by what it has learned from earlier frames: by the
difference of two data block counters, and by the number of channels that this gave.  Once it has
locked, that number is the stride of the pushes.  None of it is checked against the configuration
of the stream, and it can be zero or negative.
-/
import LibTsn.ListenerBounds

/-! ## Divisions -/

def divideChecked (x y : ℤ) : Option ℤ := if y = 0 then none else some (x.tdiv y)

namespace ListenerStreamInfo

variable (s : ListenerStreamInfo)

def countSamplesChecked (numSamples : ℤ) : Option ListenerStreamInfo :=
  let s := { s with rate := s.rate + numSamples, chanLock := s.chanLock + 1 }
  if s.chanLock = 16 then do
    let perChannel ← divideChecked s.rate s.numChannelsInPayload
    let average ← divideChecked perChannel 16
    return { s with rate := rateOfSamples average }
  else some s

def lockOnChecked (prevNumSamples dbcDiff numSamples : ℤ) : Option ListenerStreamInfo :=
  if prevNumSamples = 0 ∨ dbcDiff = 0 then some s
  else do
    let numChannels ← divideChecked prevNumSamples dbcDiff
    (s.expectChannels numChannels).countSamplesChecked numSamples

def receiveChecked (f : ReceivedFrame) : Option (ListenerStreamInfo × ListenerOutcome) :=
  if s.chanLock < 16 then do
    let s' ← (s.noted f).lockOnChecked s.prevNumSamples (s.dbcDiff f.dbcValue) f.numSamplesInPayload
    return (s', .discard (headerReads f.hdr))
  else some (s.receive f)

variable {s}

lemma expectChannels_ne_zero {n : ℤ} (h : (s.expectChannels n).chanLock + 1 = 16) :
    (s.expectChannels n).numChannelsInPayload ≠ 0 := by
  unfold expectChannels at h ⊢
  split_ifs at h ⊢ with hnew
  · cases h
  · exact fun hzero => hnew (Or.inl hzero)

lemma countSamplesChecked_eq (n : ℤ) (h : s.chanLock + 1 = 16 → s.numChannelsInPayload ≠ 0) :
    s.countSamplesChecked n = some (s.countSamples n) := by
  unfold countSamplesChecked countSamples
  dsimp only
  split_ifs with hlast
  · simp [divideChecked, h hlast]
  · rfl

/-- **No division by zero**, whatever the stream has learned. -/
theorem receiveChecked_eq (f : ReceivedFrame) : s.receiveChecked f = some (s.receive f) := by
  unfold receiveChecked
  split_ifs with hlock
  · have hlockOn : (s.noted f).lockOnChecked s.prevNumSamples (s.dbcDiff f.dbcValue)
        f.numSamplesInPayload = some ((s.noted f).lockOn s.prevNumSamples (s.dbcDiff f.dbcValue)
          f.numSamplesInPayload) := by
      unfold lockOnChecked lockOn
      split_ifs with hnone
      · rfl
      · rw [divideChecked, if_neg fun hzero => hnone (Or.inr hzero)]
        exact countSamplesChecked_eq _ expectChannels_ne_zero
    rw [hlockOn]
    unfold receive
    dsimp only
    rw [if_pos hlock]
    rfl
  · rfl

/-! ## What is learned -/

structure Inferred (s : ListenerStreamInfo) : Prop where
  prev : s.prevNumSamples.natAbs ≤ 2 ^ 14
  channels : s.numChannelsInPayload.natAbs ≤ 2 ^ 14

lemma abs_numSamplesInPayload (f : ReceivedFrame) : f.numSamplesInPayload.natAbs ≤ 2 ^ 14 := by
  have hlength : f.pktDataLength < 256 ^ 2 := by
    have hlt := beNat_lt (f.buf.load (f.hdr + 20) 2)
    rwa [Mem.length_load] at hlt
  rw [ReceivedFrame.numSamplesInPayload, Int.shiftRight_eq_div_pow]
  omega

lemma prevNumSamples_countSamples (n : ℤ) :
    (s.countSamples n).prevNumSamples = s.prevNumSamples := by
  unfold countSamples
  dsimp only
  split <;> rfl

lemma Inferred.receive (h : s.Inferred) (f : ReceivedFrame) : (s.receive f).1.Inferred := by
  have hnoted : (s.noted f).Inferred := ⟨abs_numSamplesInPayload f, h.channels⟩
  by_cases hlock : s.chanLock < 16
  · unfold ListenerStreamInfo.receive
    dsimp only
    rw [if_pos hlock]
    unfold lockOn
    split_ifs
    · exact hnoted
    · refine ⟨?_, ?_⟩
      · rw [prevNumSamples_countSamples]
        unfold expectChannels
        split_ifs <;> exact hnoted.prev
      · rw [numChannelsInPayload_countSamples]
        unfold expectChannels
        split_ifs
        · show (s.prevNumSamples.tdiv (s.dbcDiff f.dbcValue)).natAbs ≤ 2 ^ 14
          exact (Int.natAbs_tdiv_le_natAbs _ _).trans h.prev
        · exact h.channels
  · rw [receive_of_locked hlock]
    exact hnoted

lemma Inferred.process (h : s.Inferred) (f : ReceivedFrame) :
    (avb1722ListenerProcessPacket s f).1.Inferred := by
  by_cases hproper : f.Proper
  · rw [processPacket_of_proper s hproper]
    exact h.receive f
  · rwa [processPacket_of_not_proper s hproper]

/-! ## The pushes -/

lemma acts_receive (s : ListenerStreamInfo) (f : ReceivedFrame) : (s.receive f).2.acts = [] ∨
      ∃ stamps, (∀ a ∈ stamps, ∃ fifo ts k, a = .setPtpTimestamp fifo ts k) ∧
        (s.receive f).2.acts = stamps ++ (s.noted f).maintainActs ++
          (s.noted f).pushActs f.samplePtr f.numSamplesInPayload := by
  unfold receive
  dsimp only
  split_ifs
  · exact Or.inl rfl
  · split
    · exact Or.inl rfl
    · refine Or.inr ⟨_, fun a ha => ?_, rfl⟩
      obtain ⟨i, -, rfl⟩ := List.mem_map.mp ha
      exact ⟨_, _, _, rfl⟩
  · exact Or.inr ⟨[], fun a ha => (nomatch ha), rfl⟩

lemma stridedPush_receive {f : ReceivedFrame} {fifo p stride n : ℤ}
    (h : .stridedPush fifo p stride n ∈ (s.receive f).2.acts) :
    stride = s.numChannelsInPayload ∧ 0 < stride ∧ n = f.numSamplesInPayload := by
  rcases acts_receive s f with hnone | ⟨stamps, hstamps, hacts⟩
  · rw [hnone] at h
    cases h
  · rw [hacts] at h
    rcases List.mem_append.mp h with h | h
    · rcases List.mem_append.mp h with h | h
      · obtain ⟨fifo', ts, k, heq⟩ := hstamps _ h
        cases heq
      · obtain ⟨i, -, heq⟩ := List.mem_map.mp h
        cases heq
    · obtain ⟨i, hi, heq⟩ := List.mem_map.mp h
      cases heq
      exact ⟨rfl, pos_of_mem_mapped hi, rfl⟩

lemma acts_of_not_proper {f : ReceivedFrame} (h : ¬ f.Proper) :
    (avb1722ListenerProcessPacket s f).2.acts = [] := by
  unfold avb1722ListenerProcessPacket
  dsimp only
  split_ifs with hlong hversion hcd hsv
  · rfl
  · rfl
  · rfl
  · rfl
  · exact absurd ⟨Nat.lt_of_not_le hlong, not_not.mp hversion, not_not.mp hcd, hsv⟩ h

end ListenerStreamInfo

/-- **The inference is safe.**  From a stream that has just been configured, after any frames: the
next frame is processed without a division by zero, and every push that is called for it has a
stride of at least one and returns, whatever the other thread does to its FIFO. -/
theorem inference_safe (s₀ : ListenerStreamInfo) (mediaClock rate numChannels : ℤ)
    (map : ℕ → ℤ) (frames : List ReceivedFrame) (f : ReceivedFrame) :
    let s := Run.runFrom (fun s f => (avb1722ListenerProcessPacket s f).1)
      (s₀.configureStream mediaClock rate numChannels map).1 frames
    s.receiveChecked f = some (s.receive f) ∧
      ∀ fifo samplePtr stride n,
        .stridedPush fifo samplePtr stride n ∈ (avb1722ListenerProcessPacket s f).2.acts →
          1 ≤ stride ∧ ∀ (cfg : FifoConfig) (t : PushThread) (words : ℤ → UInt32) (fs : ℕ → Ofifo),
            ∃ k, (Run.stateAt (fun t f => t.step cfg f) (t.call words stride n) fs k).pc
              = .idle := by
  intro s
  have hs : s.Inferred := by
    refine Run.invariant_of_step (fun s f h => h.process f) ?_ frames
    exact ⟨Nat.zero_le _, Nat.zero_le _⟩
  refine ⟨ListenerStreamInfo.receiveChecked_eq f, fun fifo p stride n hpush => ?_⟩
  by_cases hproper : f.Proper
  · rw [processPacket_of_proper s hproper] at hpush
    obtain ⟨hstride, hpos, hn⟩ := ListenerStreamInfo.stridedPush_receive hpush
    have hsamples := ListenerStreamInfo.abs_numSamplesInPayload f
    have hchannels := hs.channels
    exact ⟨hpos, fun cfg t words fs => PushThread.push_returns cfg t words hpos (by omega) fs⟩
  · rw [ListenerStreamInfo.acts_of_not_proper hproper] at hpush
    cases hpush
