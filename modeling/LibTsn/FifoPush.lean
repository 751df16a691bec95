/-
# What a strided push reads

A push walks over the words of a packet with the distance of two samples of one channel.
`stridedIndices` are the words it comes to, and `said_append_toCome` says that these, converted
in this order, are the samples that it tries to store, whatever the other thread does to the
shared record in the meantime.
-/
import LibTsn.AudioFifo

/-! ## The words -/

def stridedCount (stride n : ℤ) : ℕ := ((n + stride - 1) / stride).toNat

def stridedIndices (stride n : ℤ) : List ℤ :=
  (List.range (stridedCount stride n)).map fun j : ℕ => (j : ℤ) * stride

lemma lt_stridedCount_iff {stride : ℤ} (n : ℤ) (hstride : 0 < stride) (j : ℕ) :
    j < stridedCount stride n ↔ j * stride < n := by
  have hdiv := @Int.le_ediv_iff_mul_le (j + 1) (n + stride - 1) stride hstride
  rw [add_mul, one_mul] at hdiv
  unfold stridedCount
  omega

lemma mem_stridedIndices {stride n : ℤ} (hstride : 0 < stride) {i : ℤ} :
    i ∈ stridedIndices stride n ↔ ∃ j : ℕ, i = j * stride ∧ (j : ℤ) ≤ (n - 1) / stride := by
  simp only [stridedIndices, List.mem_map, List.mem_range, lt_stridedCount_iff n hstride]
  refine exists_congr fun j => ?_
  have hdiv := @Int.le_ediv_iff_mul_le j (n - 1) stride hstride
  constructor
  · rintro ⟨hlt, rfl⟩
    exact ⟨rfl, by omega⟩
  · rintro ⟨rfl, hle⟩
    exact ⟨by omega, rfl⟩

/-! ## The samples -/

def FifoConfig.arriving (cfg : FifoConfig) (word : UInt32) : UInt32 :=
  let sample := UInt32.ofNat (byterev word.toNat)
  if cfg.formatSaf then sample else sample <<< 8

def FifoConfig.scaled (cfg : FifoConfig) (volume sample : UInt32) : UInt32 :=
  if cfg.volumeControl then
    UInt32.ofNat (s32 sample.toNat * s32 volume.toNat / 2 ^ 38 % 2 ^ 24).toNat
  else sample * volume

/-- The samples that a push has tried to store: accepted or refused. -/
def triedSamples (log : List FifoOut) : List UInt32 :=
  log.filterMap fun
    | .act (.accept v) => some v
    | .act (.refuse v) => some v
    | _ => none

def PushPc.started : PushPc → Bool
  | .readWrptr | .readState | .readVolume => false
  | _ => true

namespace PushThread

variable (cfg : FifoConfig) (t : PushThread)

def said (f : Ofifo) : List UInt32 := triedSamples (t.out f)

def samplesFrom (k : ℕ) : List UInt32 :=
  ((List.range (stridedCount t.stride t.n)).drop k).map fun j : ℕ =>
    cfg.convert t.volume (t.words (j * t.stride))

def toCome : List UInt32 :=
  match t.pc with
  | .readDptr => t.sample :: t.samplesFrom cfg t.count
  | .storeSample => t.samplesFrom cfg t.count
  | _ => []

structure InLoop (t : PushThread) : Prop where
  pos : 0 < t.stride
  small : t.n + t.stride ≤ 2 ^ 31
  started : t.pc.started = true
  body : t.pc = .readDptr ∨ t.pc = .storeSample →
    t.i + t.stride = t.count * t.stride ∧ t.samplePtr = t.count * t.stride ∧ 0 ≤ t.i ∧ t.i < t.n

variable (cfg : FifoConfig) (t : PushThread)

/-- **Loop.**  At the loop condition all samples from the counter on are still to come. -/
theorem inLoop_loop (hpos : 0 < t.stride) (hsmall : t.n + t.stride ≤ 2 ^ 31)
    (hi : t.i = t.count * t.stride) (hptr : t.samplePtr = t.count * t.stride) :
    (t.loop cfg).InLoop ∧ (t.loop cfg).toCome cfg = t.samplesFrom cfg t.count := by
  have hcount := lt_stridedCount_iff t.n hpos t.count
  rw [← hi] at hcount
  unfold loop
  split_ifs with hlt
  · have hmore := hcount.mpr hlt
    have hnonneg : 0 ≤ t.i := by
      rw [hi]
      positivity
    refine ⟨⟨hpos, hsmall, rfl, fun _ => ⟨?_, ?_, hnonneg, hlt⟩⟩, ?_⟩
    · push_cast
      rw [hi, add_mul, one_mul]
    · push_cast
      rw [hptr, add_mul, one_mul]
    · have hdrop : (List.range (stridedCount t.stride t.n)).drop t.count
          = t.count :: (List.range (stridedCount t.stride t.n)).drop (t.count + 1) := by
        rw [List.drop_eq_getElem_cons (by rw [List.length_range]; exact hmore), List.getElem_range]
      show cfg.convert t.volume (t.words t.samplePtr) :: List.map _ _ = List.map _ _
      rw [hdrop, List.map_cons, hptr]
  · refine ⟨⟨hpos, hsmall, rfl, fun hpc => hpc.elim (nomatch ·) (nomatch ·)⟩, ?_⟩
    have hdrop : (List.range (stridedCount t.stride t.n)).drop t.count = [] := by
      rw [List.drop_eq_nil_iff, List.length_range]
      omega
    rw [samplesFrom, hdrop]
    rfl

lemma inLoop_endBody (h : t.InLoop) (hpc : t.pc = .readDptr ∨ t.pc = .storeSample) (w : ℕ) :
    (endBody cfg { t with wrptr := w }).InLoop ∧
      (endBody cfg { t with wrptr := w }).toCome cfg = t.samplesFrom cfg t.count := by
  obtain ⟨hi, hptr, hnonneg, hlt⟩ := h.body hpc
  have hpos := h.pos
  have hsmall := h.small
  have hs : s32 (t.i + t.stride) = t.i + t.stride := by
    unfold s32
    omega
  exact inLoop_loop cfg { t with wrptr := w, i := s32 (t.i + t.stride) } hpos hsmall
    (hs.trans hi) hptr

/-- **Step.**  An access says the next sample, or nothing. -/
theorem inLoop_step (h : t.InLoop) (f : Ofifo) :
    (t.step cfg f).InLoop ∧ t.toCome cfg = t.said f ++ (t.step cfg f).toCome cfg := by
  have hstarted := h.started
  cases hpc : t.pc with
  | readWrptr | readState | readVolume =>
    rw [hpc] at hstarted
    cases hstarted
  | readDptr =>
    rw [said, out, step, toCome, hpc]
    by_cases heq : t.newWrptr = f.dptr
    · obtain ⟨hin, hcome⟩ := t.inLoop_endBody cfg h (Or.inl hpc) t.wrptr
      rw [if_neg (not_not.mpr heq), if_neg (not_not.mpr heq)]
      exact ⟨hin, congrArg (t.sample :: ·) hcome.symm⟩
    · rw [if_pos heq, if_pos heq]
      exact ⟨⟨h.pos, h.small, rfl, fun _ => h.body (Or.inl hpc)⟩, rfl⟩
  | storeSample =>
    obtain ⟨hin, hcome⟩ := t.inLoop_endBody cfg h (Or.inr hpc) t.newWrptr
    rw [said, out, step, toCome, hpc]
    exact ⟨hin, hcome.symm⟩
  | idle =>
    rw [said, out, step, hpc]
    exact ⟨h, rfl⟩
  | writeWrptr | readSampleCount | writeSampleCount =>
    rw [said, out, step, toCome, hpc]
    refine ⟨⟨h.pos, h.small, rfl, ?_⟩, rfl⟩
    rintro (hpc | hpc) <;> cases hpc

/-- **Run.**  From the loop on, whatever records the accesses find: the samples tried and those
to come are together the words of the strided indices, converted. -/
theorem said_append_toCome (hpos : 0 < t.stride) (hsmall : t.n + t.stride ≤ 2 ^ 31) (hi : t.i = 0)
    (hptr : t.samplePtr = 0) (hcount : t.count = 0) (fs : List Ofifo) :
    Run.outputs (fun t f => t.step cfg f) said (t.loop cfg) fs
        ++ toCome cfg (Run.runFrom (fun t f => t.step cfg f) (t.loop cfg) fs)
      = (stridedIndices t.stride t.n).map fun i => cfg.convert t.volume (t.words i) := by
  have hzero : (0 : ℤ) = t.count * t.stride := by rw [hcount, Nat.cast_zero, zero_mul]
  obtain ⟨hin, hcome⟩ := t.inLoop_loop cfg hpos hsmall (hi.trans hzero) (hptr.trans hzero)
  rw [Run.outputs_append_rest (toCome cfg) (fun t f h => inLoop_step cfg t h f) hin fs,
    hcome, hcount, samplesFrom, List.drop_zero, stridedIndices, List.map_map]
  rfl

/-! ## The end of a push -/

def pcRank : PushPc → ℕ
  | .idle => 0
  | .writeSampleCount => 1
  | .readSampleCount => 2
  | .writeWrptr | .readDptr => 3
  | .storeSample | .readVolume => 4
  | .readState => 5
  | .readWrptr => 6

def rank (cfg : FifoConfig) (t : PushThread) : ℕ :=
  2 * (if t.pc.started then (t.toCome cfg).length else stridedCount t.stride t.n) + pcRank t.pc

inductive Underway (t : PushThread) : Prop where
  | starting (hpos : 0 < t.stride) (hsmall : t.n + t.stride ≤ 2 ^ 31) (hi : t.i = 0)
      (hptr : t.samplePtr = 0) (hcount : t.count = 0) (hpc : t.pc.started = false)
  | inLoop (h : t.InLoop)

lemma pcRank_loop : pcRank (t.loop cfg).pc = 3 := by
  unfold loop
  split <;> rfl

lemma rank_of_inLoop {t : PushThread} (h : t.InLoop) :
    t.rank cfg = 2 * (t.toCome cfg).length + pcRank t.pc := by
  rw [rank, if_pos h.started]

lemma underway_loop (hpos : 0 < t.stride) (hsmall : t.n + t.stride ≤ 2 ^ 31) (hi : t.i = 0)
    (hptr : t.samplePtr = 0) (hcount : t.count = 0) {k : ℕ} (hk : 3 < k) :
    (t.loop cfg).Underway ∧ (t.loop cfg).rank cfg < 2 * stridedCount t.stride t.n + k := by
  have hzero : (0 : ℤ) = t.count * t.stride := by rw [hcount, Nat.cast_zero, zero_mul]
  obtain ⟨hin, hcome⟩ := t.inLoop_loop cfg hpos hsmall (hi.trans hzero) (hptr.trans hzero)
  refine ⟨.inLoop hin, ?_⟩
  rw [rank_of_inLoop cfg hin, hcome, pcRank_loop, hcount]
  simpa [samplesFrom] using hk

/-- **Step.**  Every access brings a push nearer to its end. -/
theorem underway_step (f : Ofifo) (h : t.Underway) (hbusy : t.pc ≠ .idle) :
    (t.step cfg f).Underway ∧ (t.step cfg f).rank cfg < t.rank cfg := by
  cases h with
  | starting hpos hsmall hi hptr hcount hpc =>
    have hrank : t.rank cfg = 2 * stridedCount t.stride t.n + pcRank t.pc := by
      rw [rank, hpc]
      rfl
    rw [hrank]
    cases hat : t.pc with
    | readWrptr =>
      rw [step, hat]
      exact ⟨.starting hpos hsmall hi hptr hcount rfl, Nat.lt_succ_self _⟩
    | readState =>
      rw [step, hat]
      dsimp only
      split_ifs
      · exact underway_loop cfg { t with pc := .readState, volume := 0 } hpos hsmall hi hptr hcount
          (by decide)
      · exact ⟨.starting hpos hsmall hi hptr hcount rfl, Nat.lt_succ_self _⟩
      · exact underway_loop cfg { t with pc := .readState, volume := 1 } hpos hsmall hi hptr hcount
          (by decide)
    | readVolume =>
      rw [step, hat]
      exact underway_loop cfg { t with pc := .readVolume, volume := f.volume } hpos hsmall hi hptr
        hcount (by decide)
    | idle | readDptr | storeSample | writeWrptr | readSampleCount | writeSampleCount =>
      rw [hat] at hpc
      cases hpc
  | inLoop h =>
    obtain ⟨hin, hcome⟩ := t.inLoop_step cfg h f
    refine ⟨.inLoop hin, ?_⟩
    rw [rank_of_inLoop cfg hin, rank_of_inLoop cfg h, hcome, List.length_append]
    have hstarted := h.started
    cases hpc : t.pc with
    | idle => exact absurd hpc hbusy
    | readWrptr | readState | readVolume =>
      rw [hpc] at hstarted
      cases hstarted
    | readDptr =>
      have hsaid : (t.said f).length = 1 := by
        rw [said, out, hpc]
        dsimp only
        split <;> rfl
      have hnext : pcRank (t.step cfg f).pc ≤ 4 := by
        rw [step, hpc]
        dsimp only
        split_ifs
        · exact le_refl _
        · rw [endBody, pcRank_loop]
          decide
      rw [show pcRank .readDptr = 3 from rfl]
      omega
    | storeSample =>
      have hnext : pcRank (t.step cfg f).pc = 3 := by
        rw [step, hpc]
        exact pcRank_loop ..
      rw [show pcRank .storeSample = 4 from rfl]
      omega
    | writeWrptr | readSampleCount | writeSampleCount =>
      have hnext : pcRank (t.step cfg f).pc < pcRank t.pc := by
        rw [step, hpc]
        simp [pcRank]
      rw [hpc] at hnext
      omega

/-- **A push returns**, whatever records its accesses find. -/
theorem push_returns (words : ℤ → UInt32) {stride n : ℤ} (hpos : 0 < stride)
    (hsmall : n + stride ≤ 2 ^ 31) (fs : ℕ → Ofifo) :
    ∃ k, (Run.stateAt (fun t f => t.step cfg f) (t.call words stride n) fs k).pc = .idle :=
  Run.exists_stateAt_of_rank (rank cfg) (fun t f => underway_step cfg t f)
    (.starting hpos hsmall rfl rfl rfl rfl)

/-- The push returns, having tried the samples, if its accesses find these records. -/
def Tries (fs : ℕ → Ofifo) (samples : List UInt32) : Prop :=
  ∃ k, (Run.runFrom (fun t f => t.step cfg f) t ((List.range k).map fs)).pc = .idle ∧
    Run.outputs (fun t f => t.step cfg f) said t ((List.range k).map fs) = samples

/-- The volume that a push reads. -/
def volumeRead (fs : ℕ → Ofifo) : UInt32 :=
  if (fs 1).state = .zeroing then 0 else if cfg.volumeControl then (fs 2).volume else 1

lemma Tries.cons {cfg : FifoConfig} {t : PushThread} {fs : ℕ → Ofifo} {samples : List UInt32}
    (hsaid : t.said (fs 0) = []) (h : (t.step cfg (fs 0)).Tries cfg (fun i => fs (i + 1)) samples) :
    t.Tries cfg fs samples := by
  obtain ⟨k, hidle, hrest⟩ := h
  have hrecords : (List.range (k + 1)).map fs = fs 0 :: (List.range k).map fun i => fs (i + 1) := by
    rw [List.range_succ_eq_map, List.map_cons, List.map_map]
    rfl
  refine ⟨k + 1, ?_, ?_⟩
  · rw [hrecords]
    exact hidle
  · rw [hrecords, Run.outputs, hsaid]
    exact hrest

lemma loop_tries (hpos : 0 < t.stride) (hsmall : t.n + t.stride ≤ 2 ^ 31) (hi : t.i = 0)
    (hptr : t.samplePtr = 0) (hcount : t.count = 0) (fs : ℕ → Ofifo) : (t.loop cfg).Tries cfg fs
      ((stridedIndices t.stride t.n).map fun i => cfg.convert t.volume (t.words i)) := by
  have hunderway := (underway_loop cfg t hpos hsmall hi hptr hcount (Nat.lt_succ_self 3)).1
  have hreturns : ∃ k, (Run.stateAt (fun t f => t.step cfg f) (t.loop cfg) fs k).pc = .idle :=
    Run.exists_stateAt_of_rank (rank cfg) (fun t f => underway_step cfg t f) hunderway
  obtain ⟨k, hidle⟩ := hreturns
  rw [← Run.runFrom_range] at hidle
  have hsaid := said_append_toCome cfg t hpos hsmall hi hptr hcount ((List.range k).map fs)
  rw [toCome, hidle, List.append_nil] at hsaid
  exact ⟨k, hidle, hsaid⟩

lemma call_tries (words : ℤ → UInt32) {stride n : ℤ} (hpos : 0 < stride)
    (hsmall : n + stride ≤ 2 ^ 31) (fs : ℕ → Ofifo) : (t.call words stride n).Tries cfg fs
      ((stridedIndices stride n).map fun i => cfg.convert (volumeRead cfg fs) (words i)) := by
  unfold volumeRead
  refine .cons rfl (.cons rfl ?_)
  dsimp only [step, call]
  split_ifs
  · exact loop_tries cfg _ hpos hsmall rfl rfl rfl _
  · exact .cons rfl (loop_tries cfg _ hpos hsmall rfl rfl rfl _)
  · exact loop_tries cfg _ hpos hsmall rfl rfl rfl _

end PushThread

/-! ## The calls of a run -/

/-- A call of `audio_output_fifo_strided_push`. -/
structure PushRequest where
  words : ℤ → UInt32
  stride : ℤ
  n : ℤ

/-- Every `stride`-th of the first `n` words, converted. -/
def PushRequest.samples (cfg : FifoConfig) (volume : UInt32) (c : PushRequest) : List UInt32 :=
  (stridedIndices c.stride c.n).map fun i => cfg.convert volume (c.words i)

/-- The stride is positive, and the loop counter does not overflow. -/
def PushRequest.Fits (c : PushRequest) : Prop := 0 < c.stride ∧ c.n + c.stride ≤ 2 ^ 31

/-- The call that an event makes. -/
def FifoSystem.requests (s : FifoSystem) : FifoEvent → List PushRequest
  | .pushCall words stride n => if s.push.pc = .idle then [⟨words, stride, n⟩] else []
  | _ => []

/-- The calls that a run makes. -/
def fifoRequests (cfg : FifoConfig) (s : FifoSystem) (es : List FifoEvent) : List PushRequest :=
  Run.outputs (FifoSystem.step cfg) FifoSystem.requests s es

/-- The volume that a push to a locked FIFO reads. -/
def Ofifo.pushVolume (cfg : FifoConfig) (f : Ofifo) : UInt32 :=
  if cfg.volumeControl then f.volume else 1

/-- What the call in progress still has to try. -/
def PushThread.remaining (cfg : FifoConfig) (volume : UInt32) (t : PushThread) : List UInt32 :=
  if t.pc.started then t.toCome cfg else PushRequest.samples cfg volume ⟨t.words, t.stride, t.n⟩

/-- The samples tried in a run, with those that the call in progress still has to try. -/
structure FifoRun.Offering (cfg : FifoConfig) (volume : UInt32) (samples : List UInt32)
    (w : FifoRun) : Prop where
  tried : triedSamples w.log ++ w.sys.push.remaining cfg volume = samples
  underway : w.sys.push.pc = .idle ∨ w.sys.push.Underway
  control : w.sys.push.pc = .readVolume → cfg.volumeControl = true
  locked : w.sys.fifo.state = .locked
  volume : w.sys.fifo.pushVolume cfg = volume

section

variable {cfg : FifoConfig} {volume : UInt32} {samples : List UInt32} {w : FifoRun}

lemma PushThread.remaining_of_idle {t : PushThread} (h : t.pc = .idle) :
    t.remaining cfg volume = [] := by
  rw [remaining, toCome, h]
  rfl

lemma PushThread.remaining_loop {t : PushThread} (hpos : 0 < t.stride)
    (hsmall : t.n + t.stride ≤ 2 ^ 31) (hi : t.i = 0) (hptr : t.samplePtr = 0)
    (hcount : t.count = 0) :
    (t.loop cfg).remaining cfg volume =
      PushRequest.samples cfg t.volume ⟨t.words, t.stride, t.n⟩ := by
  have hzero : (0 : ℤ) = t.count * t.stride := by rw [hcount, Nat.cast_zero, zero_mul]
  obtain ⟨hin, hcome⟩ := t.inLoop_loop cfg hpos hsmall (hi.trans hzero) (hptr.trans hzero)
  rw [remaining, if_pos hin.started, hcome]
  simp [samplesFrom, hcount, PushRequest.samples, stridedIndices]

/-- An access to a locked FIFO tries the next sample, or none. -/
lemma PushThread.remaining_step {t : PushThread} {f : Ofifo} (h : t.Underway)
    (hcontrol : t.pc = .readVolume → cfg.volumeControl = true) (hlocked : f.state = .locked) :
    t.remaining cfg (f.pushVolume cfg) =
      t.said f ++ (t.step cfg f).remaining cfg (f.pushVolume cfg) := by
  cases h with
  | inLoop h =>
    obtain ⟨hin, hcome⟩ := t.inLoop_step cfg h f
    rw [remaining, remaining, if_pos h.started, if_pos hin.started, hcome]
  | starting hpos hsmall hi hptr hcount hpc =>
    have hrest : t.remaining cfg (f.pushVolume cfg) =
        PushRequest.samples cfg (f.pushVolume cfg) ⟨t.words, t.stride, t.n⟩ := by
      rw [remaining, hpc]
      rfl
    rw [hrest]
    cases hat : t.pc with
    | readWrptr =>
      rw [said, out, step, hat]
      rfl
    | readState =>
      rw [said, out, step, hat]
      dsimp only
      rw [if_neg (by rw [hlocked]; decide), Ofifo.pushVolume]
      split_ifs
      · rfl
      · exact (remaining_loop (t := { t with pc := .readState, volume := 1 }) hpos hsmall hi hptr
          hcount).symm
    | readVolume =>
      rw [said, out, step, hat, Ofifo.pushVolume, if_pos (hcontrol hat)]
      exact (remaining_loop (t := { t with pc := .readVolume, volume := f.volume }) hpos hsmall hi
        hptr hcount).symm
    | idle | readDptr | storeSample | writeWrptr | readSampleCount | writeSampleCount =>
      rw [hat] at hpc
      cases hpc

lemma PushThread.control_step {t : PushThread} {f : Ofifo}
    (h : (t.step cfg f).pc = .readVolume) : t.pc = .readVolume ∨ cfg.volumeControl = true := by
  have hloop : ∀ t : PushThread, (t.loop cfg).pc ≠ .readVolume := by
    intro t
    unfold loop
    split <;> exact nofun
  cases hpc : t.pc <;> rw [step, hpc] at h
  case readState =>
    dsimp only at h
    split_ifs at h with _ hcontrol
    · exact absurd h (hloop _)
    · exact Or.inr hcontrol
    · exact absurd h (hloop _)
  case readDptr =>
    dsimp only at h
    split_ifs at h
    exact absurd h (hloop _)
  case storeSample => exact absurd h (hloop _)
  case readVolume => exact Or.inl rfl
  case idle => exact Or.inl (hpc.symm.trans h)
  all_goals cases h

lemma PushThread.step_of_idle {t : PushThread} (h : t.pc = .idle) (f : Ofifo) :
    t.step cfg f = t ∧ t.said f = [] := by
  rw [step, said, out, h]
  exact ⟨rfl, rfl⟩

/-- Nobody writes the state or the volume. -/
lemma locked_of_write {f : Ofifo} (hlocked : f.state = .locked)
    (hvolume : f.pushVolume cfg = volume)
    (t : PushThread) (p : PullThread) :
    ((t.write f).state = .locked ∧ (t.write f).pushVolume cfg = volume) ∧
      (p.write cfg f).state = .locked ∧ (p.write cfg f).pushVolume cfg = volume := by
  refine ⟨?_, ?_⟩
  · unfold PushThread.write
    split <;> exact ⟨hlocked, hvolume⟩
  · unfold PullThread.write
    split <;> exact ⟨hlocked, hvolume⟩

lemma triedSamples_pull (p : PullThread) (f : Ofifo) : triedSamples (p.out f) = [] := by
  unfold PullThread.out
  split
  · split <;> rfl
  · rfl
  · rfl
  · rfl

/-- **Step.**  A call adds its samples to those to be tried. -/
lemma offering_step (h : w.Offering cfg volume samples) (e : FifoEvent)
    (hfits : ∀ c ∈ w.sys.requests e, c.Fits) : (fifoRunStep cfg w e).Offering cfg volume
      (samples ++ (w.sys.requests e).flatMap (PushRequest.samples cfg volume)) := by
  obtain ⟨htried, hunderway, hcontrol, hlocked, hvolume⟩ := h
  obtain ⟨hpush, hpull⟩ := locked_of_write hlocked hvolume w.sys.push w.sys.pull
  have hlog : triedSamples (w.log ++ w.sys.out e) =
      triedSamples w.log ++ triedSamples (w.sys.out e) := List.filterMap_append
  cases e with
  | pushCall words stride n =>
    simp only [FifoSystem.requests] at hfits ⊢
    simp only [fifoRunStep, FifoSystem.step, FifoSystem.out, List.append_nil]
    split_ifs at hfits ⊢ with hidle
    · rw [PushThread.remaining_of_idle hidle, List.append_nil] at htried
      obtain ⟨hpos, hsmall⟩ := hfits _ (List.mem_singleton_self _)
      refine ⟨?_, Or.inr (.starting hpos hsmall rfl rfl rfl rfl), nofun, hlocked, hvolume⟩
      rw [← htried, List.flatMap_singleton]
      rfl
    · rw [List.flatMap_nil, List.append_nil]
      exact ⟨htried, hunderway, hcontrol, hlocked, hvolume⟩
  | pullCall timestamp =>
    simp only [FifoSystem.requests, List.flatMap_nil, List.append_nil, fifoRunStep, FifoSystem.step,
      FifoSystem.out]
    split_ifs <;> exact ⟨htried, hunderway, hcontrol, hlocked, hvolume⟩
  | pushAccess =>
    simp only [FifoSystem.requests, List.flatMap_nil, List.append_nil]
    refine ⟨?_, ?_, ?_, hpush.1, hpush.2⟩
    · show triedSamples (w.log ++ w.sys.out .pushAccess) ++ _ = _
      rw [hlog, ← htried, List.append_assoc]
      refine congrArg (triedSamples w.log ++ ·) ?_
      rcases hunderway with hidle | hunderway
      · have hsame : w.sys.push.step cfg w.sys.fifo = w.sys.push ∧
            w.sys.push.said w.sys.fifo = [] :=
          PushThread.step_of_idle hidle w.sys.fifo
        show w.sys.push.said w.sys.fifo ++ (w.sys.push.step cfg w.sys.fifo).remaining cfg volume = _
        rw [hsame.1, hsame.2, List.nil_append]
      · exact (hvolume ▸ PushThread.remaining_step hunderway hcontrol hlocked).symm
    · show (w.sys.push.step cfg w.sys.fifo).pc = .idle ∨ (w.sys.push.step cfg w.sys.fifo).Underway
      by_cases hidle : w.sys.push.pc = .idle
      · rw [(PushThread.step_of_idle hidle w.sys.fifo).1]
        exact Or.inl hidle
      · have hbusy := hunderway.resolve_left hidle
        exact Or.inr (PushThread.underway_step cfg _ w.sys.fifo hbusy hidle).1
    · intro hpc
      exact (PushThread.control_step hpc).elim hcontrol id
  | pullAccess =>
    simp only [FifoSystem.requests, List.flatMap_nil, List.append_nil]
    refine ⟨?_, hunderway, hcontrol, hpull.1, hpull.2⟩
    show triedSamples (w.log ++ w.sys.out .pullAccess) ++ _ = _
    rw [hlog, FifoSystem.out, triedSamples_pull, List.append_nil]
    exact htried

/-- **Run.**  In every run the samples tried and to be tried are those of the calls made. -/
lemma offering_run (h : w.Offering cfg volume samples) (es : List FifoEvent)
    (hfits : ∀ c ∈ fifoRequests cfg w.sys es, c.Fits) :
    (Run.runFrom (fifoRunStep cfg) w es).Offering cfg volume
      (samples ++ (fifoRequests cfg w.sys es).flatMap (PushRequest.samples cfg volume)) := by
  induction es generalizing w samples with
  | nil =>
    rw [fifoRequests, Run.outputs, List.flatMap_nil, List.append_nil]
    exact h
  | cons e es ih =>
    rw [fifoRequests, Run.outputs, List.forall_mem_append] at hfits
    have hrest := ih (offering_step h e hfits.1) hfits.2
    rw [List.append_assoc, ← List.flatMap_append] at hrest
    exact hrest

end

/-! ## The whole queue -/

/-- The pushing thread has tried the samples of its calls, in order and each once, up to a point
that is their end once it has returned from the last call; and it does return. -/
structure FifoRun.Offers (cfg : FifoConfig) (samples : List UInt32) (w : FifoRun) : Prop where
  tried : triedSamples w.log <+: samples
  all : w.sys.push.pc = .idle → triedSamples w.log = samples
  returns : ∀ fs : ℕ → Ofifo,
    ∃ k, (Run.stateAt (fun t f => t.step cfg f) w.sys.push fs k).pc = .idle

lemma FifoRun.Offering.offers {cfg : FifoConfig} {volume : UInt32} {samples : List UInt32}
    {w : FifoRun} (h : w.Offering cfg volume samples) : w.Offers cfg samples where
  tried := ⟨_, h.tried⟩
  all hidle := by
    have htried := h.tried
    rwa [PushThread.remaining_of_idle hidle, List.append_nil] at htried
  returns fs := by
    rcases h.underway with hidle | hunderway
    · exact ⟨0, hidle⟩
    · exact Run.exists_stateAt_of_rank (PushThread.rank cfg)
        (fun t f => PushThread.underway_step cfg t f) hunderway

/-- **The FIFO is a queue**, in every interleaving of the accesses of one pushing and one pulling
thread.  What the pushes try to store in it are the converted words of the calls, unless a loop
counter overflows. -/
theorem audio_output_fifo_is_queue (cfg : FifoConfig) (s : FifoSystem) (hs : s.Quiet cfg)
    (es : List FifoEvent) :
    (fifoRun cfg s es).Correct cfg (s.fifo.queued cfg) ∧
      ((∀ c ∈ fifoRequests cfg s es, c.Fits) → (fifoRun cfg s es).Offers cfg
        ((fifoRequests cfg s es).flatMap (PushRequest.samples cfg (s.fifo.pushVolume cfg)))) := by
  refine ⟨(fifo_refines_batchQueue hs es).correct, fun hfits => ?_⟩
  have hstart : FifoRun.Offering cfg (s.fifo.pushVolume cfg) [] ⟨s, []⟩ :=
    ⟨PushThread.remaining_of_idle hs.push, Or.inl hs.push,
      fun h => absurd (hs.push.symm.trans h) nofun, hs.locked, rfl⟩
  exact (offering_run hstart es hfits).offers

def pushWhilePulling : List FifoEvent :=
  [.pushCall (fun k => if k = 0 then 0x01000000 else 0x02000000) 1 2, .pullCall 5] ++
    List.replicate 3 .pushAccess ++ List.replicate 3 .pullAccess ++
    List.replicate 6 .pushAccess ++ List.replicate 3 .pullAccess

/-- The push tries 1 and 2, and the ring of three words has room for one of them. -/
theorem short_fifo_push_while_pulling :
    let w := fifoRun shortFifoBuild shortFifo pushWhilePulling
    w.Correct shortFifoBuild (shortFifo.fifo.queued shortFifoBuild) ∧
      w.Offers shortFifoBuild [1, 2] ∧ returnedSamples w.log = [7] ∧
        acceptedSamples w.log = [1] := by
  have hqueue :=
    audio_output_fifo_is_queue shortFifoBuild shortFifo quiet_shortFifo pushWhilePulling
  refine ⟨hqueue.1, ?_, by decide +kernel, by decide +kernel⟩
  refine hqueue.2 ?_
  intro c hc
  rw [List.mem_singleton.mp hc]
  exact ⟨by decide, by decide⟩
