/-
# Locking onto a regular stream

A regular stream has a fixed number of channels, and its packets count the samples per channel
that went before them.  A listener that has just been configured locks onto such a stream wherever
it begins to listen.
-/
import LibTsn.Listener

/-! ## Frames of a regular stream -/

structure RegularStream where
  channels : ℕ
  before : ℕ → ℕ
  channels_pos : 0 < channels
  grows : ∀ n, before n < before (n + 1)
  small : ∀ n, before (n + 1) < before n + 256

structure RegularStream.Carries (S : RegularStream) (n : ℕ) (f : ReceivedFrame) : Prop where
  proper : f.Proper
  dbc : f.dbcValue = S.before n % 256
  samples : f.numSamplesInPayload = (S.before (n + 1) - S.before n) * S.channels

def RegularStream.Follows (S : RegularStream) (j : ℕ) (fs : List ReceivedFrame) : Prop :=
  ∀ i f, fs[i]? = some f → S.Carries (j + i) f

variable (s : ListenerStreamInfo) (fs : List ReceivedFrame) (f : ReceivedFrame)

def hear : ListenerStreamInfo :=
  (avb1722ListenerProcessPacket s f).1

def listen (fs : List ReceivedFrame) : ListenerStreamInfo :=
  Run.runFrom hear s fs

lemma listen_concat : listen s (fs ++ [f]) = hear (listen s fs) f :=
  Run.runFrom_append hear s fs [f]

lemma listen_take_drop (n : ℕ) : listen (listen s (fs.take n)) (fs.drop n) = listen s fs := by
  show Run.runFrom hear (Run.runFrom hear s (fs.take n)) (fs.drop n) = Run.runFrom hear s fs
  rw [← Run.runFrom_append, List.take_append_drop]

def SameMap (s s' : ListenerStreamInfo) : Prop := s'.numChannels = s.numChannels ∧ s'.map = s.map

lemma sameMap_lockOn (prev diff n : ℤ) : SameMap s (s.lockOn prev diff n) := by
  unfold ListenerStreamInfo.lockOn ListenerStreamInfo.countSamples
    ListenerStreamInfo.expectChannels
  dsimp only
  split_ifs <;> exact ⟨rfl, rfl⟩

lemma sameMap_hear : SameMap s (hear s f) := by
  by_cases hproper : f.Proper
  · rw [hear, processPacket_of_proper s hproper]
    by_cases hlock : s.chanLock < 16
    · unfold ListenerStreamInfo.receive
      rw [if_pos hlock]
      exact sameMap_lockOn (s.noted f) _ _ _
    · rw [receive_of_locked hlock]
      exact ⟨rfl, rfl⟩
  · rw [hear, processPacket_of_not_proper s hproper]
    exact ⟨rfl, rfl⟩

lemma sameMap_listen : SameMap s (listen s fs) := by
  have hstep : ∀ s' f, SameMap s s' → SameMap s (hear s' f) := fun s' f h =>
    ⟨(sameMap_hear s' f).1.trans h.1, (sameMap_hear s' f).2.trans h.2⟩
  exact Run.invariant_of_step hstep ⟨rfl, rfl⟩ fs

/-! ## Locking -/

section

variable {S : RegularStream} {j : ℕ} {s : ListenerStreamInfo} {f : ReceivedFrame}

lemma hear_of_unlocked {n : ℕ} (hf : S.Carries n f) (hlock : s.chanLock < 16) : hear s f
      = (s.noted f).lockOn s.prevNumSamples (s.dbcDiff f.dbcValue) f.numSamplesInPayload := by
  rw [hear, processPacket_of_proper s hf.proper, ListenerStreamInfo.receive]
  exact congrArg Prod.fst (if_pos hlock)

structure Locking (S : RegularStream) (j k : ℕ) (s : ListenerStreamInfo) : Prop where
  dbc : s.dbc = (S.before (j + k) % 256 : ℕ)
  prev : s.prevNumSamples = (S.before (j + k + 1) - S.before (j + k)) * S.channels
  chanLock : s.chanLock = k
  start : k = 0 → s.numChannelsInPayload = 0
  counting : k ≠ 0 → s.numChannelsInPayload = S.channels ∧
    s.rate = (S.before (j + k + 1) - S.before (j + 1)) * S.channels

lemma locking_first (hf : S.Carries j f) (hlock : s.chanLock = 0) (hprev : s.prevNumSamples = 0)
    (hpayload : s.numChannelsInPayload = 0) : Locking S j 0 (hear s f) := by
  have hhear : hear s f = s.noted f := by
    rw [hear_of_unlocked hf (by omega), ListenerStreamInfo.lockOn, if_pos (Or.inl hprev)]
  rw [hhear]
  refine ⟨?_, hf.samples, hlock, fun _ => hpayload, fun hk => absurd rfl hk⟩
  exact congrArg Nat.cast hf.dbc

variable {channels : ℕ} {rate : ℤ} {fs : List ReceivedFrame} {k : ℕ}

lemma channels_of_dbcDiff (h : Locking S j k s) (hf : S.Carries (j + (k + 1)) f) :
    s.prevNumSamples ≠ 0 ∧ s.dbcDiff f.dbcValue ≠ 0 ∧
      s.prevNumSamples.tdiv (s.dbcDiff f.dbcValue) = S.channels := by
  have hgrows := S.grows (j + k)
  have hsmall := S.small (j + k)
  have hchannels := S.channels_pos
  have hdiff : s.dbcDiff f.dbcValue = S.before (j + k + 1) - S.before (j + k) := by
    unfold ListenerStreamInfo.dbcDiff
    rw [h.dbc, hf.dbc, ← Nat.add_assoc]
    split <;> omega
  have hne : (S.before (j + k + 1) : ℤ) - S.before (j + k) ≠ 0 := by omega
  rw [h.prev, hdiff]
  exact ⟨mul_ne_zero hne (by omega), hne, Int.mul_tdiv_cancel_left _ hne⟩

structure Expecting (S : RegularStream) (j k : ℕ) (f : ReceivedFrame) (s : ListenerStreamInfo) :
    Prop where
  dbc : s.dbc = (S.before (j + (k + 1)) % 256 : ℕ)
  prev : s.prevNumSamples = f.numSamplesInPayload
  chanLock : s.chanLock = k
  payload : s.numChannelsInPayload = S.channels
  rate : s.rate = (S.before (j + k + 1) - S.before (j + 1)) * S.channels

lemma locking_count (h : Locking S j k s) (hf : S.Carries (j + (k + 1)) f) (hk : k < 16) :
    ∃ s', Expecting S j k f s' ∧ hear s f = s'.countSamples f.numSamplesInPayload := by
  obtain ⟨hprev, hdiff, hquot⟩ := channels_of_dbcDiff h hf
  have hhear : hear s f
      = ((s.noted f).expectChannels S.channels).countSamples f.numSamplesInPayload := by
    rw [hear_of_unlocked hf (by rw [h.chanLock]; exact hk), ListenerStreamInfo.lockOn,
      if_neg (not_or.mpr ⟨hprev, hdiff⟩), hquot]
  have hdbc : (f.dbcValue : ℤ) = (S.before (j + (k + 1)) % 256 : ℕ) := congrArg Nat.cast hf.dbc
  refine ⟨_, ?_, hhear⟩
  unfold ListenerStreamInfo.expectChannels
  by_cases hzero : k = 0
  · have hnew : (s.noted f).numChannelsInPayload = 0 := h.start hzero
    rw [if_pos (Or.inl hnew)]
    refine ⟨hdbc, rfl, hzero.symm, rfl, ?_⟩
    rw [hzero, Nat.add_zero, sub_self, zero_mul]
  · obtain ⟨hpayload, hrate⟩ := h.counting hzero
    have hpos := S.channels_pos
    have hsame : ¬ ((s.noted f).numChannelsInPayload = 0 ∨
        (s.noted f).numChannelsInPayload ≠ S.channels) := by
      have hnoted : (s.noted f).numChannelsInPayload = S.channels := hpayload
      omega
    rw [if_neg hsame]
    exact ⟨hdbc, rfl, h.chanLock, hpayload, hrate⟩

lemma locking_next (h : Locking S j k s) (hf : S.Carries (j + (k + 1)) f) (hk : k + 1 < 16) :
    Locking S j (k + 1) (hear s f) := by
  obtain ⟨s', ⟨hdbc, hprev, hlock, hpayload, hrate⟩, hhear⟩ := locking_count h hf (by omega)
  have hcount : s'.countSamples f.numSamplesInPayload
      = { s' with rate := s'.rate + f.numSamplesInPayload, chanLock := s'.chanLock + 1 } := by
    unfold ListenerStreamInfo.countSamples
    exact if_neg (by dsimp only; omega)
  rw [hhear, hcount]
  refine ⟨hdbc, hprev.trans hf.samples, congrArg (· + 1) hlock, (fun hk => nomatch hk),
    fun _ => ⟨hpayload, ?_⟩⟩
  show s'.rate + f.numSamplesInPayload = _
  rw [hrate, hf.samples, ← Nat.add_assoc]
  ring

def RegularStream.mean (S : RegularStream) (j : ℕ) : ℕ := (S.before (j + 16) - S.before j) / 16

structure Locked (channels : ℕ) (rate : ℤ) (s : ListenerStreamInfo) : Prop where
  chanLock : s.chanLock = 16
  payload : s.numChannelsInPayload = channels
  rate : s.rate = rate

lemma RegularStream.before_le (S : RegularStream) (n k : ℕ) : S.before n ≤ S.before (n + k) := by
  induction k with
  | zero => exact le_refl _
  | succ k ih => exact ih.trans (S.grows (n + k)).le

lemma locked_of_locking (h : Locking S j 15 s) (hf : S.Carries (j + 16) f) :
    Locked S.channels (rateOfSamples (S.mean (j + 1))) (hear s f) := by
  obtain ⟨s', ⟨-, -, hlock, hpayload, hrate⟩, hhear⟩ := locking_count h hf (by decide)
  have hcount : s'.countSamples f.numSamplesInPayload
      = { s' with
          rate := rateOfSamples
            (((s'.rate + f.numSamplesInPayload).tdiv s'.numChannelsInPayload).tdiv 16)
          chanLock := s'.chanLock + 1 } := by
    unfold ListenerStreamInfo.countSamples
    exact if_pos (by dsimp only; omega)
  have hsum : s'.rate + f.numSamplesInPayload
      = ((S.before (j + 1 + 16) - S.before (j + 1) : ℕ) : ℤ) * S.channels := by
    have hle := S.before_le (j + 1) 16
    rw [hrate, hf.samples, Nat.cast_sub hle]
    ring_nf
  have hne : (S.channels : ℤ) ≠ 0 := by exact_mod_cast S.channels_pos.ne'
  rw [hhear, hcount]
  refine ⟨congrArg (· + 1) hlock, hpayload, ?_⟩
  show rateOfSamples _ = _
  rw [hsum, hpayload, Int.mul_tdiv_cancel _ hne]
  exact congrArg rateOfSamples (Int.ofNat_tdiv _ 16).symm

lemma locked_hear (h : Locked channels rate s) (f : ReceivedFrame) :
    Locked channels rate (hear s f) := by
  by_cases hproper : f.Proper
  · have hlock : ¬ s.chanLock < 16 := by
      rw [h.chanLock]
      decide
    rw [hear, processPacket_of_proper s hproper, receive_of_locked hlock]
    exact ⟨h.chanLock, h.payload, h.rate⟩
  · rw [hear, processPacket_of_not_proper s hproper]
    exact h

lemma locked_listen (h : Locked channels rate s) (fs : List ReceivedFrame) :
    Locked channels rate (listen s fs) := by
  have hstep : ∀ s f, Locked channels rate s → Locked channels rate (hear s f) :=
    fun _ f h => locked_hear h f
  exact Run.invariant_of_step hstep h fs

/-! ## Runs -/

structure Fresh (s : ListenerStreamInfo) : Prop where
  chanLock : s.chanLock = 0
  payload : s.numChannelsInPayload = 0
  prev : s.prevNumSamples = 0

lemma fresh_configureStream (s : ListenerStreamInfo) (mediaClock rate numChannels : ℤ)
    (map : ℕ → ℤ) : Fresh (s.configureStream mediaClock rate numChannels map).1 :=
  ⟨rfl, rfl, rfl⟩

lemma RegularStream.Follows.concat (h : S.Follows j (fs ++ [f])) :
    S.Follows j fs ∧ S.Carries (j + fs.length) f := by
  refine ⟨fun i g hg => h i g ?_, h fs.length f List.getElem?_concat_length⟩
  rw [List.getElem?_append_left (List.getElem?_eq_some_iff.mp hg).1]
  exact hg

lemma RegularStream.Follows.take (h : S.Follows j fs) (n : ℕ) : S.Follows j (fs.take n) := by
  intro i f hf
  rw [List.getElem?_take] at hf
  split at hf
  · exact h i f hf
  · cases hf

lemma exists_concat (hlen : fs.length = k + 1) : ∃ gs g, fs = gs ++ [g] ∧ gs.length = k := by
  obtain rfl | ⟨gs, g, rfl⟩ := List.eq_nil_or_concat' fs
  · cases hlen
  · rw [List.length_append, List.length_singleton, Nat.add_right_cancel_iff] at hlen
    exact ⟨gs, g, rfl, hlen⟩

/-- **Counting.**  After `k + 1` packets, `k` have been counted. -/
theorem locking_run (hs : Fresh s) {k : ℕ} (hk : k < 16) {fs : List ReceivedFrame}
    (hlen : fs.length = k + 1) (hfs : S.Follows j fs) : Locking S j k (listen s fs) := by
  induction k generalizing fs with
  | zero =>
    obtain ⟨f, rfl⟩ := List.length_eq_one_iff.mp hlen
    exact locking_first (hfs 0 f rfl) hs.chanLock hs.prev hs.payload
  | succ k ih =>
    obtain ⟨fs, f, rfl, hinit⟩ := exists_concat hlen
    obtain ⟨hinitial, hlast⟩ := hfs.concat
    rw [hinit] at hlast
    rw [listen_concat]
    exact locking_next (ih (by omega) hinit hinitial) hlast hk

/-- **The lock.**  From the seventeenth packet on the stream has locked. -/
theorem locked_run (hs : Fresh s) {fs : List ReceivedFrame} (hlen : 17 ≤ fs.length)
    (hfs : S.Follows j fs) : Locked S.channels (rateOfSamples (S.mean (j + 1))) (listen s fs) := by
  obtain ⟨gs, g, htake, hinit⟩ := exists_concat (List.length_take_of_le hlen)
  have hfollows : S.Follows j (gs ++ [g]) := by
    rw [← htake]
    exact hfs.take 17
  obtain ⟨hinitial, hlast⟩ := hfollows.concat
  rw [hinit] at hlast
  rw [← listen_take_drop s fs 17, htake, listen_concat]
  exact locked_listen (locked_of_locking (locking_run hs (by decide) hinit hinitial) hlast) _

end

lemma receive_of_rate {s : ListenerStreamInfo} (hlock : s.chanLock = 16) (f : ReceivedFrame)
    {syt : ℕ} (hrate : sytInterval s.rate = some syt) : (s.receive f).2 = s.deliver f
      (if f.tv = 1 then s.stampActs f.timestamp (sampleNum syt f.dbcValue) else []) := by
  have hlocked : ¬ s.chanLock < 16 := by omega
  unfold ListenerStreamInfo.receive
  dsimp only
  rw [if_neg hlocked, hrate]
  split <;> rfl
