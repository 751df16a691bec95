/-
# Control of the audio output FIFO

Besides the two threads that push and pull samples, a FIFO is controlled by the 1722 thread:
it is initialised, enabled and disabled with its stream, goes from zeroing to locking
(`audio_output_fifo_maintain`), and obeys the media clock server
(`audio_output_fifo_handle_buf_ctl`), which asks for the timestamps and then resets the FIFO or
moves its write pointer.
-/
import LibTsn.AudioFifo

/-- `ofifo_t` with the fields that only the control functions access. -/
structure OfifoRecord extends Ofifo where
  ptpTs : UInt32
  zeroMarker : ℕ
  lastNotificationTime : UInt32
  mediaClock : ℤ
  pendingInitNotification : Bool

inductive BufCtlCommand where
  | requestInfo
  | requestNewStreamInfo
  | adjustFill (adjust : ℤ)
  | reset
  | ack
  deriving DecidableEq, Repr

inductive BufCtlNotice where
  | newStream
  | gotInfo
  deriving DecidableEq, Repr

/-- What `send_buf_ctl_info` says about the FIFO. -/
structure BufCtlInfo where
  active : Bool
  ptpTs : UInt32
  localTs : UInt32
  rdptr : ℕ
  wrptr : ℕ
  deriving DecidableEq, Repr

inductive BufCtlReply where
  | info (i : BufCtlInfo)
  | newStreamInfo (mediaClock : ℤ)
  | ack
  deriving DecidableEq, Repr

/-- What the threads that push and pull samples do, between the calls that control the FIFO. -/
inductive FifoOperation where
  | push (words : List UInt32)
  | pull (timestamp : UInt32)
  | maintain (notified : Bool)
  deriving DecidableEq, Repr

def maxVolume : UInt32 := 0x40000000

def notificationPeriod : UInt32 := 250

namespace OfifoRecord

variable (cfg : FifoConfig) (f : OfifoRecord)

def audioOutputFifoInit : OfifoRecord :=
  { f with
    state := .disabled
    dptr := 0
    wrptr := 0
    mediaClock := -1
    pendingInitNotification := false
    lastNotificationTime := 0
    volume := maxVolume }

def disableAudioOutputFifo : OfifoRecord :=
  { f with state := .disabled, zeroFlag := 1 }

def enableAudioOutputFifo (mediaClock : ℤ) (f : OfifoRecord) : OfifoRecord :=
  { f with
    state := .zeroing
    dptr := 0
    wrptr := 0
    marker := none
    localTs := 0
    ptpTs := 0
    zeroMarker := cfg.wordSize - 1
    zeroFlag := 1
    fifo := Function.update f.fifo (cfg.wordSize - 1) 1
    sampleCount := 0
    mediaClock := mediaClock
    pendingInitNotification := true }

def audioOutputFifoSetPtpTimestamp (ptpTs : UInt32) (sampleNumber : ℕ) (f : OfifoRecord) :
    OfifoRecord :=
  if f.marker = none then
    let marker := f.wrptr + sampleNumber
    { f with
      ptpTs := if ptpTs = 0 then 1 else ptpTs
      localTs := 0
      marker := some (if cfg.wordSize ≤ marker then marker - cfg.wordSize else marker) }
  else f

/-- The switch of `audio_output_fifo_maintain`, with the flag `notified_buf_ctl`. -/
def maintainState (notified : Bool) : OfifoRecord × Bool × List BufCtlNotice :=
  match f.state with
  | .disabled => (f, notified, [])
  | .zeroing =>
    if f.fifo f.zeroMarker = 0 then
      -- all of the buffer has been zeroed
      let newWrptr := Ring.lower cfg.wordSize (f.dptr + cfg.wordSize / 2)
        ((f.dptr + cfg.wordSize / 2 : ℕ) : ℤ)
      ({ f with
          wrptr := newWrptr.toNat
          state := .locking
          localTs := 0
          ptpTs := 0
          marker := none
          zeroFlag := 1 }, notified, [])
    else (f, notified, [])
  | .locking | .locked =>
    if f.ptpTs ≠ 0 ∧ f.localTs ≠ 0 ∧ notified = false ∧
        (f.lastNotificationTime = 0 ∨
          notificationPeriod < f.sampleCount - f.lastNotificationTime) then
      ({ f with lastNotificationTime := f.sampleCount }, true, [.gotInfo])
    else (f, notified, [])

def audioOutputFifoMaintain (notified : Bool) : OfifoRecord × Bool × List BufCtlNotice :=
  if f.pendingInitNotification ∧ notified = false then
    let r := maintainState cfg { f with pendingInitNotification := false } true
    (r.1, r.2.1, .newStream :: r.2.2)
  else maintainState cfg f notified

/-- The case `BUF_CTL_ADJUST_FILL`. -/
def adjustFill (adjust : ℤ) (f : OfifoRecord) : OfifoRecord :=
  { f with
    wrptr := (Ring.normalize cfg.wordSize ((f.wrptr : ℤ) - adjust)).toNat
    state := .locked
    zeroFlag := 0
    ptpTs := 0
    localTs := 0
    marker := none }

/-- The case `BUF_CTL_RESET`. -/
def resetFill : OfifoRecord :=
  let zeroMarker := if f.wrptr = 0 then cfg.wordSize - 1 else f.wrptr - 1
  { f with
    state := .zeroing
    zeroMarker := zeroMarker
    zeroFlag := 1
    fifo := Function.update f.fifo zeroMarker 1 }

/-- `audio_output_fifo_handle_buf_ctl`, with the flag `buf_ctl_notified`. -/
def audioOutputFifoHandleBufCtl (notified : Bool) : BufCtlCommand → OfifoRecord × Bool × BufCtlReply
  | .requestInfo =>
    ({ f with ptpTs := 0, localTs := 0, marker := none }, notified,
      .info ⟨decide (f.state = .locked), f.ptpTs, f.localTs, f.dptr, f.wrptr⟩)
  | .requestNewStreamInfo => (f, false, .newStreamInfo f.mediaClock)
  | .adjustFill adjust => (f.adjustFill cfg adjust, false, .ack)
  | .reset => (f.resetFill cfg, false, .ack)
  | .ack => (f, false, .ack)

/-- The volume that a push multiplies with. -/
def pushVolume : UInt32 :=
  if f.state = .zeroing then 0 else if cfg.volumeControl then f.volume else 1

/-- One round of the loop of a push: a sample that the FIFO has no room for is dropped. -/
def storeSample (sample : UInt32) : OfifoRecord :=
  if Ring.next cfg.wordSize f.wrptr = f.dptr then f
  else
    { f with
      fifo := Function.update f.fifo f.wrptr sample
      wrptr := Ring.next cfg.wordSize f.wrptr }

/-- `audio_output_fifo_strided_push` for the words that its loop comes to. -/
def audioOutputFifoStridedPush (words : List UInt32) (f : OfifoRecord) : OfifoRecord :=
  let pushed := (words.map (cfg.convert (f.pushVolume cfg))).foldl (storeSample cfg) f
  { pushed with sampleCount := f.sampleCount + UInt32.ofNat words.length }

/-- `audio_output_fifo_pull_sample`, with the sample it returns. -/
def audioOutputFifoPullSample (timestamp : UInt32) (f : OfifoRecord) : OfifoRecord × UInt32 :=
  if f.dptr = f.wrptr then (f, 0)
  else
    ({ f with
        localTs :=
          if f.marker = some f.dptr ∧ f.localTs = 0 then
            if timestamp = 0 then 1 else timestamp
          else f.localTs
        dptr := Ring.next cfg.wordSize f.dptr },
      if f.zeroFlag ≠ 0 then 0 else f.fifo f.dptr)

def operate : FifoOperation → OfifoRecord
  | .push words => f.audioOutputFifoStridedPush cfg words
  | .pull timestamp => (f.audioOutputFifoPullSample cfg timestamp).1
  | .maintain notified => (f.audioOutputFifoMaintain cfg notified).1

/-! ## Pointers and fill levels -/

structure Valid (cfg : FifoConfig) (f : OfifoRecord) : Prop where
  dptr_lt : f.dptr < cfg.wordSize
  wrptr_lt : f.wrptr < cfg.wordSize
  zeroMarker_lt : f.state = .zeroing → f.zeroMarker < cfg.wordSize

def fill : ℕ := Ring.distance cfg.wordSize f.dptr f.wrptr

variable {cfg : FifoConfig} {f : OfifoRecord}

lemma valid_init (h : 0 < cfg.wordSize) : f.audioOutputFifoInit.Valid cfg :=
  ⟨h, h, fun hstate => nomatch hstate⟩

lemma valid_enable (h : 0 < cfg.wordSize) (mediaClock : ℤ) :
    (f.enableAudioOutputFifo cfg mediaClock).Valid cfg :=
  ⟨h, h, fun _ => Nat.sub_lt h Nat.one_pos⟩

lemma Valid.disable (h : f.Valid cfg) : f.disableAudioOutputFifo.Valid cfg :=
  ⟨h.dptr_lt, h.wrptr_lt, fun hstate => nomatch hstate⟩

lemma Valid.setPtpTimestamp (h : f.Valid cfg) (ptpTs : UInt32) (sampleNumber : ℕ) :
    (f.audioOutputFifoSetPtpTimestamp cfg ptpTs sampleNumber).Valid cfg := by
  unfold audioOutputFifoSetPtpTimestamp
  split
  · exact ⟨h.dptr_lt, h.wrptr_lt, h.zeroMarker_lt⟩
  · exact h

lemma Valid.maintainState (h : f.Valid cfg) (notified : Bool) :
    (f.maintainState cfg notified).1.Valid cfg := by
  have hsize : 0 < cfg.wordSize := Nat.zero_lt_of_lt h.dptr_lt
  unfold OfifoRecord.maintainState
  split
  · exact h
  · split
    · refine ⟨h.dptr_lt, ?_, fun hstate => nomatch hstate⟩
      have hlt := Int.emod_lt_of_pos ((f.dptr + cfg.wordSize / 2 : ℕ) : ℤ)
        (Int.natCast_pos.mpr hsize)
      dsimp only
      rw [Ring.lower_eq hsize (Int.natCast_nonneg _) (le_refl _)]
      omega
    · exact h
  · split <;> exact ⟨h.dptr_lt, h.wrptr_lt, h.zeroMarker_lt⟩
  · split <;> exact ⟨h.dptr_lt, h.wrptr_lt, h.zeroMarker_lt⟩

lemma Valid.maintain (h : f.Valid cfg) (notified : Bool) :
    (f.audioOutputFifoMaintain cfg notified).1.Valid cfg := by
  unfold audioOutputFifoMaintain
  split
  · have hcleared : Valid cfg { f with pendingInitNotification := false } :=
      ⟨h.dptr_lt, h.wrptr_lt, h.zeroMarker_lt⟩
    exact hcleared.maintainState true
  · exact h.maintainState notified

lemma Valid.adjustFill (h : f.Valid cfg) (adjust : ℤ) : (f.adjustFill cfg adjust).Valid cfg := by
  have hsize : 0 < cfg.wordSize := Nat.zero_lt_of_lt h.dptr_lt
  have hnonneg := Int.emod_nonneg ((f.wrptr : ℤ) - adjust) (by omega : (cfg.wordSize : ℤ) ≠ 0)
  have hlt := Int.emod_lt_of_pos ((f.wrptr : ℤ) - adjust) (Int.natCast_pos.mpr hsize)
  refine ⟨h.dptr_lt, ?_, fun hstate => nomatch hstate⟩
  show (Ring.normalize cfg.wordSize ((f.wrptr : ℤ) - adjust)).toNat < cfg.wordSize
  rw [Ring.normalize_eq hsize]
  omega

lemma Valid.resetFill (h : f.Valid cfg) : (f.resetFill cfg).Valid cfg := by
  refine ⟨h.dptr_lt, h.wrptr_lt, fun _ => ?_⟩
  have hlt := h.wrptr_lt
  show (if f.wrptr = 0 then cfg.wordSize - 1 else f.wrptr - 1) < cfg.wordSize
  split <;> omega

lemma Valid.handleBufCtl (h : f.Valid cfg) (notified : Bool) (command : BufCtlCommand) :
    (f.audioOutputFifoHandleBufCtl cfg notified command).1.Valid cfg := by
  cases command with
  | requestInfo => exact ⟨h.dptr_lt, h.wrptr_lt, h.zeroMarker_lt⟩
  | requestNewStreamInfo => exact h
  | adjustFill adjust => exact h.adjustFill adjust
  | reset => exact h.resetFill
  | ack => exact h

lemma Valid.storeSample (h : f.Valid cfg) (sample : UInt32) :
    (f.storeSample cfg sample).Valid cfg := by
  unfold OfifoRecord.storeSample
  split
  · exact h
  · exact ⟨h.dptr_lt, Ring.next_lt h.wrptr_lt, h.zeroMarker_lt⟩

lemma Valid.push (h : f.Valid cfg) (words : List UInt32) :
    (f.audioOutputFifoStridedPush cfg words).Valid cfg := by
  have hpushed : ∀ samples : List UInt32,
      (samples.foldl (OfifoRecord.storeSample cfg) f).Valid cfg := by
    intro samples
    exact Run.invariant_of_step (fun f sample h => h.storeSample sample) h samples
  have hkept := hpushed (words.map (cfg.convert (f.pushVolume cfg)))
  exact ⟨hkept.dptr_lt, hkept.wrptr_lt, hkept.zeroMarker_lt⟩

lemma Valid.pull (h : f.Valid cfg) (timestamp : UInt32) :
    (f.audioOutputFifoPullSample cfg timestamp).1.Valid cfg := by
  unfold audioOutputFifoPullSample
  split
  · exact h
  · exact ⟨Ring.next_lt h.dptr_lt, h.wrptr_lt, h.zeroMarker_lt⟩

lemma Valid.operate (h : f.Valid cfg) (op : FifoOperation) : (f.operate cfg op).Valid cfg := by
  cases op with
  | push words => exact h.push words
  | pull timestamp => exact h.pull timestamp
  | maintain notified => exact h.maintain notified

/-- **An adjustment.**  The fill level is reduced by it, around the buffer. -/
theorem fill_adjustFill (h : f.Valid cfg) (adjust : ℤ) :
    ((f.adjustFill cfg adjust).fill cfg : ℤ) = ((f.fill cfg : ℤ) - adjust) % cfg.wordSize :=
  Ring.distance_normalize h.dptr_lt adjust

end OfifoRecord

/-! ## Runs of control functions -/

inductive FifoControlEvent where
  | enable (mediaClock : ℤ)
  | disable
  | setPtpTimestamp (ptpTs : UInt32) (sampleNumber : ℕ)
  | bufCtl (notified : Bool) (command : BufCtlCommand)
  | operate (op : FifoOperation)

def OfifoRecord.control (cfg : FifoConfig) (f : OfifoRecord) : FifoControlEvent → OfifoRecord
  | .enable mediaClock => f.enableAudioOutputFifo cfg mediaClock
  | .disable => f.disableAudioOutputFifo
  | .setPtpTimestamp ptpTs sampleNumber => f.audioOutputFifoSetPtpTimestamp cfg ptpTs sampleNumber
  | .bufCtl notified command => (f.audioOutputFifoHandleBufCtl cfg notified command).1
  | .operate op => f.operate cfg op

/-- **The pointers stay in the buffer** whatever is called after the initialisation. -/
theorem valid_control (cfg : FifoConfig) (f : OfifoRecord) (hsize : 0 < cfg.wordSize)
    (es : List FifoControlEvent) :
    (Run.runFrom (OfifoRecord.control cfg) f.audioOutputFifoInit es).Valid cfg := by
  refine Run.invariant_of_step ?_ (OfifoRecord.valid_init hsize) es
  intro f e h
  cases e with
  | enable mediaClock => exact OfifoRecord.valid_enable hsize mediaClock
  | disable => exact h.disable
  | setPtpTimestamp ptpTs sampleNumber => exact h.setPtpTimestamp ptpTs sampleNumber
  | bufCtl notified command => exact h.handleBufCtl notified command
  | operate op => exact h.operate op

theorem valid_control_reset : (Run.runFrom (OfifoRecord.control shortFifoBuild)
    (OfifoRecord.audioOutputFifoInit ⟨shortFifo.fifo, 0, 0, 0, 0, false⟩)
    [.enable 0, .operate (.push [1]), .bufCtl true (.adjustFill 2), .operate (.pull 7),
      .bufCtl true .reset]).Valid shortFifoBuild :=
  valid_control shortFifoBuild _ (by decide) _
