/-
# Leaving the state ZEROING

A FIFO that was enabled or reset is filled with zeros.  `audio_output_fifo_maintain` looks at one
word only, the marker right behind the write pointer, to find out whether all words have been
overwritten.
-/
import LibTsn.FifoControl

open Function (update update_self update_of_ne)

namespace OfifoRecord

inductive Restarted (cfg : FifoConfig) : OfifoRecord → Prop where
  | enable (f : OfifoRecord) (mediaClock : ℤ) :
      Restarted cfg (f.enableAudioOutputFifo cfg mediaClock)
  | reset (f : OfifoRecord) (notified : Bool) (hdptr : f.dptr < cfg.wordSize)
      (hwrptr : f.wrptr < cfg.wordSize) :
      Restarted cfg (f.audioOutputFifoHandleBufCtl cfg notified .reset).1

/-! ## What has been overwritten -/

inductive Zeroed (cfg : FifoConfig) (f : OfifoRecord) : Prop where
  | upTo (k : ℕ) (hk : k < cfg.wordSize)
      (hwrptr : f.wrptr = (f.zeroMarker + (k + 1)) % cfg.wordSize)
      (hmarker : f.fifo f.zeroMarker ≠ 0)
      (hzero : ∀ i < k, f.fifo ((f.zeroMarker + (i + 1)) % cfg.wordSize) = 0)
  | all (hzero : ∀ i < cfg.wordSize, f.fifo i = 0)

structure Silencing (cfg : FifoConfig) (f : OfifoRecord) : Prop extends f.Valid cfg where
  zeroed : f.state = .zeroing → f.Zeroed cfg

variable {cfg : FifoConfig} {f : OfifoRecord}

lemma convert_zero (cfg : FifoConfig) (word : UInt32) : cfg.convert 0 word = 0 := by
  unfold FifoConfig.convert
  have hvolume : s32 (0 : UInt32).toNat = 0 := by decide
  rw [hvolume]
  split_ifs <;> simp

lemma Zeroed.write (h : f.Zeroed cfg) (hlt : f.zeroMarker < cfg.wordSize) : Zeroed cfg { f with
      fifo := update f.fifo f.wrptr 0
      wrptr := Ring.next cfg.wordSize f.wrptr } := by
  have hpos : 0 < cfg.wordSize := Nat.zero_lt_of_lt hlt
  have hkept : ∀ i, f.fifo i = 0 → update f.fifo f.wrptr 0 i = 0 := by
    intro i hi
    by_cases heq : i = f.wrptr
    · rw [heq, update_self]
    · rw [update_of_ne heq, hi]
  cases h with
  | all hzero => exact .all fun i hi => hkept i (hzero i hi)
  | upTo k hk hwrptr hmarker hzero =>
    rcases Nat.lt_or_ge (k + 1) cfg.wordSize with hmore | hlast
    · refine .upTo (k + 1) hmore ?_ ?_ ?_
      · show Ring.next cfg.wordSize f.wrptr = _
        rw [hwrptr, Ring.next_mod hpos, Nat.add_assoc]
      · have hne : f.zeroMarker ≠ f.wrptr := by
          rw [hwrptr, Ne, Ring.eq_add_mod_iff hlt hmore]
          omega
        exact fun hgone => hmarker ((update_of_ne hne 0 f.fifo).symm.trans hgone)
      · intro i hi
        rcases Nat.lt_succ_iff_lt_or_eq.mp hi with hold | rfl
        · exact hkept _ (hzero i hold)
        · show update f.fifo f.wrptr 0 _ = 0
          rw [← hwrptr, update_self]
    · refine .all fun q hq => ?_
      -- the word at distance `d` from the marker; the marker itself is the word written now
      have hat := Ring.add_distance hlt hq
      rcases hd : Ring.distance cfg.wordSize f.zeroMarker q with _ | d
      · have hself : f.wrptr = q := by
          rw [hwrptr, ← hat, hd, show k + 1 = cfg.wordSize by omega, Nat.add_mod_right,
            Nat.add_zero]
        show update f.fifo f.wrptr 0 q = 0
        rw [hself, update_self]
      · have hround := Ring.distance_lt hpos f.zeroMarker q
        rw [← hat, hd]
        exact hkept _ (hzero d (by omega))

lemma Silencing.storeSample (h : f.Silencing cfg) {sample : UInt32}
    (hsample : f.state = .zeroing → sample = 0) : (f.storeSample cfg sample).Silencing cfg := by
  unfold OfifoRecord.storeSample
  split
  · exact h
  · refine ⟨⟨h.dptr_lt, Ring.next_lt h.wrptr_lt, h.zeroMarker_lt⟩, fun hstate => ?_⟩
    rw [hsample hstate]
    exact (h.zeroed hstate).write (h.zeroMarker_lt hstate)

lemma state_storeSample (sample : UInt32) : (f.storeSample cfg sample).state = f.state := by
  unfold storeSample
  split <;> rfl

lemma Silencing.storeSamples (samples : List UInt32) :
    ∀ f : OfifoRecord, f.Silencing cfg → (f.state = .zeroing → ∀ x ∈ samples, x = 0) →
      (samples.foldl (OfifoRecord.storeSample cfg) f).Silencing cfg := by
  induction samples with
  | nil =>
    intro f h _
    exact h
  | cons sample samples ih =>
    intro f h hzero
    rw [List.foldl_cons]
    refine ih _ (h.storeSample fun hstate => hzero hstate _ List.mem_cons_self) fun hstate => ?_
    rw [state_storeSample] at hstate
    exact fun x hx => hzero hstate x (List.mem_cons_of_mem _ hx)

lemma Silencing.push (h : f.Silencing cfg) (words : List UInt32) :
    (f.audioOutputFifoStridedPush cfg words).Silencing cfg := by
  have hpushed := Silencing.storeSamples (words.map (cfg.convert (f.pushVolume cfg))) f h
    (fun hstate x hx => by
      obtain ⟨word, -, rfl⟩ := List.mem_map.mp hx
      rw [pushVolume, if_pos hstate, convert_zero])
  refine ⟨⟨hpushed.dptr_lt, hpushed.wrptr_lt, hpushed.zeroMarker_lt⟩, fun hstate => ?_⟩
  cases hpushed.zeroed hstate with
  | upTo k hk hwrptr hmarker hzero => exact .upTo k hk hwrptr hmarker hzero
  | all hzero => exact .all hzero

lemma Silencing.pull (h : f.Silencing cfg) (timestamp : UInt32) :
    (f.audioOutputFifoPullSample cfg timestamp).1.Silencing cfg := by
  unfold audioOutputFifoPullSample
  split
  · exact h
  · refine ⟨⟨Ring.next_lt h.dptr_lt, h.wrptr_lt, h.zeroMarker_lt⟩, fun hstate => ?_⟩
    cases h.zeroed hstate with
    | upTo k hk hwrptr hmarker hzero => exact .upTo k hk hwrptr hmarker hzero
    | all hzero => exact .all hzero

/-! ## Maintenance -/

lemma maintain_cases (cfg : FifoConfig) (f : OfifoRecord) (notified : Bool) :
    (f.state = .zeroing ∧ f.fifo f.zeroMarker = 0 ∧
      (f.audioOutputFifoMaintain cfg notified).1.state = .locking ∧
      (f.audioOutputFifoMaintain cfg notified).1.fifo = f.fifo ∧
      (f.audioOutputFifoMaintain cfg notified).1.dptr = f.dptr ∧
      (f.audioOutputFifoMaintain cfg notified).1.wrptr
        = (Ring.lower cfg.wordSize (f.dptr + cfg.wordSize / 2)
            ((f.dptr + cfg.wordSize / 2 : ℕ) : ℤ)).toNat) ∨
    ((f.audioOutputFifoMaintain cfg notified).1.state = f.state ∧
      (f.audioOutputFifoMaintain cfg notified).1.fifo = f.fifo ∧
      (f.audioOutputFifoMaintain cfg notified).1.wrptr = f.wrptr ∧
      (f.audioOutputFifoMaintain cfg notified).1.zeroMarker = f.zeroMarker) := by
  unfold audioOutputFifoMaintain maintainState
  cases hstate : f.state <;> by_cases hmarker : f.fifo f.zeroMarker = 0 <;>
    split_ifs <;> simp_all

lemma Silencing.maintain (h : f.Silencing cfg) (notified : Bool) :
    (f.audioOutputFifoMaintain cfg notified).1.Silencing cfg := by
  refine ⟨h.toValid.maintain notified, fun hstate => ?_⟩
  rcases maintain_cases cfg f notified with
    ⟨-, -, hlocking, -⟩ | ⟨hsame, hfifo, hwrptr, hzeroMarker⟩
  · rw [hlocking] at hstate
    exact absurd hstate (by decide)
  · rw [hsame] at hstate
    cases h.zeroed hstate with
    | upTo k hk hwr hmarker hzero =>
      refine .upTo k hk ?_ ?_ ?_
      · rw [hwrptr, hzeroMarker, hwr]
      · rwa [hfifo, hzeroMarker]
      · rwa [hfifo, hzeroMarker]
    | all hzero => exact .all (by rwa [hfifo])

lemma Silencing.operate (h : f.Silencing cfg) (op : FifoOperation) :
    (f.operate cfg op).Silencing cfg := by
  cases op with
  | push words => exact h.push words
  | pull timestamp => exact h.pull timestamp
  | maintain notified => exact h.maintain notified

lemma Restarted.silencing (hsize : 0 < cfg.wordSize) (h : Restarted cfg f) : f.Silencing cfg := by
  cases h with
  | enable f mediaClock =>
    refine ⟨valid_enable hsize mediaClock, fun _ => .upTo 0 hsize ?_ ?_ ?_⟩
    · show 0 = (cfg.wordSize - 1 + 1) % cfg.wordSize
      rw [Nat.sub_add_cancel hsize, Nat.mod_self]
    · simp [enableAudioOutputFifo]
    · exact fun i hi => absurd hi (Nat.not_lt_zero i)
  | reset f notified hdptr hwrptr =>
    have hmarker : (if f.wrptr = 0 then cfg.wordSize - 1 else f.wrptr - 1) < cfg.wordSize := by
      split <;> omega
    refine ⟨⟨hdptr, hwrptr, fun _ => hmarker⟩, fun _ => .upTo 0 hsize ?_ ?_ ?_⟩
    · show f.wrptr = ((if f.wrptr = 0 then cfg.wordSize - 1 else f.wrptr - 1) + 1) % cfg.wordSize
      split_ifs with hfirst
      · rw [Nat.sub_add_cancel hsize, Nat.mod_self, hfirst]
      · rw [Nat.sub_add_cancel (by omega), Nat.mod_eq_of_lt hwrptr]
    · simp [audioOutputFifoHandleBufCtl, resetFill]
    · exact fun i hi => absurd hi (Nat.not_lt_zero i)

/-- **Zeroing ends in silence.**  Whatever was in the FIFO, and whatever is pushed, pulled and
maintained after it was enabled or reset: the call that moves it to LOCKING finds every word zero
and leaves it filled to one half. -/
theorem zeroing_ends_silent (cfg : FifoConfig) (f : OfifoRecord) (hsize : 0 < cfg.wordSize)
    (hstart : Restarted cfg f) (ops : List FifoOperation) (notified : Bool)
    (hfrom : (Run.runFrom (operate cfg) f ops).state = .zeroing)
    (hto : ((Run.runFrom (operate cfg) f ops).operate cfg (.maintain notified)).state = .locking) :
    (∀ i < cfg.wordSize,
      ((Run.runFrom (operate cfg) f ops).operate cfg (.maintain notified)).fifo i = 0) ∧
    ((Run.runFrom (operate cfg) f ops).operate cfg (.maintain notified)).fill cfg
      = cfg.wordSize / 2 := by
  have hrun : (Run.runFrom (operate cfg) f ops).Silencing cfg :=
    Run.invariant_of_step (fun _ op h => h.operate op) (hstart.silencing hsize) ops
  generalize Run.runFrom (operate cfg) f ops = g at *
  rcases maintain_cases cfg g notified with
    ⟨-, hgone, -, hfifo, hdptr, hwrptr⟩ | ⟨hsame, -⟩
  · constructor
    · cases hrun.zeroed hfrom with
      | upTo k hk hwr hmarker hzero => exact absurd hgone hmarker
      | all hzero =>
        show ∀ i < cfg.wordSize, (g.audioOutputFifoMaintain cfg notified).1.fifo i = 0
        rwa [hfifo]
    · show Ring.distance cfg.wordSize (g.audioOutputFifoMaintain cfg notified).1.dptr
        (g.audioOutputFifoMaintain cfg notified).1.wrptr = _
      rw [hdptr, hwrptr, Ring.lower_eq hsize (Int.natCast_nonneg _) (le_refl _),
        ← Int.natCast_mod, Int.toNat_natCast]
      exact Ring.distance_add hrun.dptr_lt (by omega)
  · exact absurd (hsame.symm.trans hto) (by rw [hfrom]; decide)

def playing : OfifoRecord where
  zeroFlag := 0
  dptr := 1
  wrptr := 0
  marker := none
  localTs := 0
  state := .locked
  sampleCount := 20
  volume := 1
  fifo := fun _ => 9
  ptpTs := 0
  zeroMarker := 0
  lastNotificationTime := 0
  mediaClock := 0
  pendingInitNotification := false

theorem zeroing_ends_silent_two_words :
    Restarted ⟨2, false, false⟩ (playing.enableAudioOutputFifo ⟨2, false, false⟩ 0) ∧
      (Run.runFrom (operate ⟨2, false, false⟩) (playing.enableAudioOutputFifo ⟨2, false, false⟩ 0)
        [.push [5, 6], .pull 3, .push [7], .maintain false]).fill ⟨2, false, false⟩ = 1 :=
  ⟨.enable playing 0, (zeroing_ends_silent ⟨2, false, false⟩ _ (by decide) (.enable playing 0)
    [.push [5, 6], .pull 3, .push [7]] false (by decide +kernel) (by decide +kernel)).2⟩

end OfifoRecord
