/-
# The media clock server and the fill level of a FIFO

When a FIFO has played a sample with a timestamp, the server compares the time it was played with
the time it was meant for (`manage_buffer`).  Once the difference has been stable for a while, the
server tells the FIFO to shorten its content by as many samples, so that the stream is in time.
-/
import LibTsn.FifoControl
import LibTsn.GptpTime

/-! ## The server -/

structure MediaClockConfig where
  fifo : FifoConfig
  maxAudioSampleRate : ℕ

/-- `buf_info_t` without the number of the FIFO. -/
structure BufInfo where
  lockCount : ℤ
  prevDiff : ℤ
  stabilityCount : ℤ
  mediaClock : ℤ
  deriving DecidableEq, Repr

/-- What `manage_buffer` finds outside: the clocks of the two tiles, the PTP time and the word
length of the media clock. -/
structure MediaClockEnv where
  othercoreNow : ℕ
  thiscoreNow : ℕ
  serverTileId : ℕ
  localTileId : ℕ
  timeInfo : PtpTimeInfoMod64
  wordLength : ℕ

def stableThreshold : ℤ := 32

def lockCountThreshold : ℤ := 400

def acceptableFillAdjust : ℤ := 50000

def lostLockThreshold : ℤ := 24

def minFillLevel : ℤ := 5

variable (cfg : MediaClockConfig) (env : MediaClockEnv) (b : BufInfo) (info : BufCtlInfo)

def MediaClockConfig.maxSamplesPer1722Packet : ℕ := cfg.maxAudioSampleRate / 8000

def MediaClockConfig.maxAdjust : ℤ :=
  (cfg.fifo.wordSize : ℤ) - cfg.maxSamplesPer1722Packet

def reportedFill : ℤ :=
  let fill := (info.wrptr : ℤ) - info.rdptr
  if fill < 0 then fill + cfg.fifo.wordSize else fill

def playedLate : ℤ :=
  let outgoingLocal :=
    if env.serverTileId ≠ env.localTileId then
      u32 ((info.localTs.toNat : ℤ) - s32 ((env.othercoreNow : ℤ) - env.thiscoreNow))
    else info.localTs.toNat
  let ptpOutgoingActual := localTimestampToPtpMod32 outgoingLocal env.timeInfo
  s32 (s32 ptpOutgoingActual - s32 info.ptpTs.toNat)

def sampleLength : ℤ := ((env.wordLength * 10 % 2 ^ 32) >>> 16 : ℕ)

def sampleDiff : ℤ :=
  (playedLate env info).tdiv (sampleLength env)

/-- The counters after a report: `lock_count` and `stability_count`. -/
def BufInfo.count (locked : Bool) (diff : ℤ) : BufInfo :=
  { b with
    lockCount := if locked ∧ b.lockCount < lockCountThreshold then b.lockCount + 1 else b.lockCount
    stabilityCount :=
      if diff < acceptableFillAdjust ∧ -acceptableFillAdjust < diff ∧
          s32 (diff - b.prevDiff) ≤ 1 ∧ -1 ≤ s32 (diff - b.prevDiff) then
        s32 (b.stabilityCount + 1)
      else 0 }

/-- What `manage_buffer` does to the counters of the media clock. -/
inductive MediaClockAct where
  | locked
  | unlocked
  deriving DecidableEq, Repr

/-- The decision of `manage_buffer` over a report with a word length. -/
def decideBuffer (locked : Bool) (fill diff : ℤ) : BufInfo × BufCtlCommand × List MediaClockAct :=
  let b := b.count locked diff
  if locked = false ∧ stableThreshold < b.stabilityCount then
    if cfg.maxAdjust < fill - diff ∨ fill - diff < -cfg.maxAdjust then
      ({ b with prevDiff := diff }, .reset, [])
    else ({ b with lockCount := 0, prevDiff := diff }, .adjustFill diff, [.locked])
  else if locked = true ∧ b.lockCount = lockCountThreshold ∧
      (lostLockThreshold < diff ∨ diff < -lostLockThreshold ∨ fill < minFillLevel) then
    ({ b with prevDiff := diff }, .reset, [.unlocked])
  else ({ b with prevDiff := diff }, .ack, [])

/-- `manage_buffer` after the report.  A word length so short that a sample has no length divides
by zero, which stops the server. -/
def manageBufferInfo : Option (BufInfo × BufCtlCommand × List MediaClockAct) :=
  if env.wordLength = 0 then some (b, .ack, [])
  else if sampleLength env = 0 then none
  else some (decideBuffer cfg b info.active (reportedFill cfg info) (sampleDiff env info))

/-- `manage_buffer`, with what it makes of the FIFO if that is left alone in the meantime. -/
def manageBuffer (f : OfifoRecord) (notified : Bool) :
    Option (BufInfo × BufCtlCommand × OfifoRecord) :=
  if b.mediaClock = -1 then
    some (b, .ack, (f.audioOutputFifoHandleBufCtl cfg.fifo notified .ack).1)
  else
    let report := f.audioOutputFifoHandleBufCtl cfg.fifo notified .requestInfo
    match report.2.2 with
    | .info info =>
      (manageBufferInfo cfg env b info).map fun r =>
        (r.1, r.2.1, (report.1.audioOutputFifoHandleBufCtl cfg.fifo notified r.2.1).1)
    | _ => none

/-! ## Reports and adjustments -/

/-- A call of `manage_buffer`: what it finds outside, and the FIFO it asks. -/
structure TimingReport (cfg : MediaClockConfig) where
  env : MediaClockEnv
  fifo : OfifoRecord
  notified : Bool
  valid : fifo.Valid cfg.fifo

/-- A command `BUF_CTL_ADJUST_FILL`, with the fill level of the report before it and that of the
FIFO after it. -/
structure Adjustment where
  fill : ℤ
  adjust : ℤ
  after : ℤ
  deriving DecidableEq, Repr

def serverStep (s : Option BufInfo) (e : TimingReport cfg) : Option BufInfo :=
  s.bind fun b => (manageBuffer cfg e.env b e.fifo e.notified).map (·.1)

def adjustments (s : Option BufInfo) (e : TimingReport cfg) : List Adjustment :=
  match s.bind fun b => manageBuffer cfg e.env b e.fifo e.notified with
  | some (_, .adjustFill adjust, f) => [⟨e.fifo.fill cfg.fifo, adjust, f.fill cfg.fifo⟩]
  | _ => []

def adjustmentsAlong : Option BufInfo → List (TimingReport cfg) →
    List Adjustment :=
  Run.outputs (serverStep cfg) (adjustments cfg)

/-! ## When the fill level is adjusted -/

namespace TimingReport

variable {cfg : MediaClockConfig} (e : TimingReport cfg)

/-- What the FIFO answers to the request of the server. -/
def answer : BufCtlInfo :=
  ⟨decide (e.fifo.state = .locked), e.fifo.ptpTs, e.fifo.localTs, e.fifo.dptr, e.fifo.wrptr⟩

/-- The number of samples by which the report is late: the time by which its sample was played
late, in lengths of a sample. -/
def late : ℤ := sampleDiff e.env e.answer

/-- The media clock has a word length. -/
def Timed : Prop := e.env.wordLength ≠ 0
  deriving Decidable

/-- The word length is none, or long enough not to divide by zero. -/
def Divides : Prop := e.Timed → sampleLength e.env ≠ 0

/-- The adjustment after the report, if there is one: the fill level is reduced by the samples that
it is late, around the buffer. -/
def adjustment : Adjustment :=
  ⟨e.fifo.fill cfg.fifo, e.late, ((e.fifo.fill cfg.fifo : ℤ) - e.late) % cfg.fifo.wordSize⟩

end TimingReport

section

variable {cfg : MediaClockConfig}

/-- How late the reports with a word length are, the last one first. -/
def latenesses (es : List (TimingReport cfg)) : List ℤ :=
  ((es.filter fun e => e.Timed).map TimingReport.late).reverse

/-- The number of reports, up to the last one, that are late by less than the acceptable number of
samples and differ by at most one sample from the report before.  The counter of `b` counts for
those before the first one. -/
def steadyCount (b : BufInfo) : List ℤ → ℤ
  | [] => b.stabilityCount
  | late :: earlier =>
    if |late| < acceptableFillAdjust ∧ |late - earlier.headD b.prevDiff| ≤ 1 then
      steadyCount b earlier + 1
    else 0

/-- A report after which the server, which started with `b`, adjusts the fill level: the clock is
registered and none of the divisions was by zero; the FIFO is not locked; enough reports have been
steady; and the level aimed at passes the check of the server. -/
structure AdjustsAfter (b : BufInfo) (history : List (TimingReport cfg)) (e : TimingReport cfg) :
    Prop where
  registered : b.mediaClock ≠ -1
  divides : ∀ r ∈ history ++ [e], r.Divides
  timed : e.Timed
  unlocked : e.fifo.state ≠ .locked
  steady : stableThreshold < s32 (steadyCount b (latenesses (history ++ [e])))
  close : |(e.fifo.fill cfg.fifo : ℤ) - e.late| ≤ cfg.maxAdjust

end

section

variable {cfg : MediaClockConfig} {env : MediaClockEnv} {b b' : BufInfo} {f : OfifoRecord}

lemma reportedFill_eq (h : f.Valid cfg.fifo) (locked : Bool) (ptpTs localTs : UInt32) :
    reportedFill cfg ⟨locked, ptpTs, localTs, f.dptr, f.wrptr⟩ = f.fill cfg.fifo := by
  have hdptr := h.dptr_lt
  have hwrptr := h.wrptr_lt
  unfold OfifoRecord.fill reportedFill
  dsimp only
  rw [Ring.distance_eq_emod hdptr]
  split_ifs with hneg
  · rw [← Int.add_emod_right, Int.emod_eq_of_lt (by omega) (by omega)]
  · exact (Int.emod_eq_of_lt (by omega) (by omega)).symm

/-- What `manage_buffer` keeps of a report that it can divide by, and when it adjusts. -/
lemma decideBuffer_spec (cfg : MediaClockConfig) (b : BufInfo) (locked : Bool) (fill diff : ℤ) :
    (decideBuffer cfg b locked fill diff).1.mediaClock = b.mediaClock ∧
      (decideBuffer cfg b locked fill diff).1.prevDiff = diff ∧
      (decideBuffer cfg b locked fill diff).1.stabilityCount =
        (b.count locked diff).stabilityCount ∧
      ∀ adjust, (decideBuffer cfg b locked fill diff).2.1 = .adjustFill adjust ↔
        locked = false ∧ stableThreshold < (b.count locked diff).stabilityCount ∧
          |fill - diff| ≤ cfg.maxAdjust ∧ adjust = diff := by
  unfold decideBuffer
  dsimp only
  split_ifs with hstable hfar hlost
  · refine ⟨rfl, rfl, rfl, fun adjust => ⟨nofun, fun h => ?_⟩⟩
    have := abs_le.mp h.2.2.1
    omega
  · refine ⟨rfl, rfl, rfl, fun adjust => ?_⟩
    rw [not_or, not_lt, not_lt] at hfar
    constructor
    · rintro ⟨⟩
      exact ⟨hstable.1, hstable.2, abs_le.mpr ⟨hfar.2, hfar.1⟩, rfl⟩
    · rintro ⟨-, -, -, rfl⟩
      rfl
  all_goals exact ⟨rfl, rfl, rfl, fun adjust => ⟨nofun, fun h => absurd ⟨h.1, h.2.1⟩ hstable⟩⟩

lemma fits32_late (e : TimingReport cfg) : Fits32 e.late := by
  have hlength : 0 ≤ sampleLength e.env := Int.natCast_nonneg _
  have hlate : Fits32 (playedLate e.env e.answer) := fits32_s32 _
  unfold TimingReport.late sampleDiff
  exact fits32_tdiv hlate hlength

/-- The counter of steady reports: the conditions of the code, on 32-bit words, are those on the
numbers. -/
lemma stabilityCount_count (locked : Bool) {diff : ℤ} (hprev : Fits32 b.prevDiff)
    (hdiff : Fits32 diff) :
    (b.count locked diff).stabilityCount =
      if |diff| < acceptableFillAdjust ∧ |diff - b.prevDiff| ≤ 1 then s32 (b.stabilityCount + 1)
      else 0 := by
  unfold BufInfo.count
  dsimp only
  refine if_congr ?_ rfl rfl
  obtain ⟨hprevLow, hprevHigh⟩ := hprev
  obtain ⟨hdiffLow, hdiffHigh⟩ := hdiff
  rw [abs_lt, abs_le]
  unfold acceptableFillAdjust s32
  omega

lemma manageBufferInfo_eq (b : BufInfo) {e : TimingReport cfg} (htimed : e.Timed)
    (hlength : sampleLength e.env ≠ 0) :
    manageBufferInfo cfg e.env b e.answer =
      some (decideBuffer cfg b e.answer.active (e.fifo.fill cfg.fifo) e.late) := by
  rw [manageBufferInfo, if_neg htimed, if_neg hlength, TimingReport.answer, reportedFill_eq e.valid]
  rfl

lemma serverStep_some (hclock : b.mediaClock ≠ -1) (e : TimingReport cfg) :
    serverStep cfg (some b) e = (manageBufferInfo cfg e.env b e.answer).map (·.1) := by
  unfold serverStep manageBuffer
  rw [Option.bind_some, if_neg hclock]
  dsimp only [OfifoRecord.audioOutputFifoHandleBufCtl]
  rw [Option.map_map]
  rfl

/-- The server after some reports: it has stopped, or its counters are those of the reports. -/
inductive Tracks (b : BufInfo) (es : List (TimingReport cfg)) : Option BufInfo → Prop where
  | stopped (h : ¬ ∀ r ∈ es, r.Divides) : Tracks b es none
  | running {b' : BufInfo} (hdivides : ∀ r ∈ es, r.Divides)
      (hclock : b'.mediaClock = b.mediaClock)
      (hprev : b'.prevDiff = (latenesses es).headD b.prevDiff) (hfits : Fits32 b'.prevDiff)
      (hcount : b'.stabilityCount = s32 (steadyCount b (latenesses es))) : Tracks b es (some b')

lemma latenesses_concat_timed {es : List (TimingReport cfg)} {e : TimingReport cfg}
    (h : e.Timed) : latenesses (es ++ [e]) = e.late :: latenesses es := by
  simp [latenesses, List.filter_append, h]

lemma latenesses_concat_untimed {es : List (TimingReport cfg)} {e : TimingReport cfg}
    (h : ¬ e.Timed) : latenesses (es ++ [e]) = latenesses es := by
  simp [latenesses, List.filter_append, h]

lemma forall_divides_concat {es : List (TimingReport cfg)} {e : TimingReport cfg} :
    (∀ r ∈ es ++ [e], r.Divides) ↔ (∀ r ∈ es, r.Divides) ∧ e.Divides := by
  simp [or_imp, forall_and]

/-- The counter of steady reports after one more. -/
lemma stabilityCount_next {es : List (TimingReport cfg)} {e : TimingReport cfg} (htimed : e.Timed)
    (hprev : b'.prevDiff = (latenesses es).headD b.prevDiff) (hfits : Fits32 b'.prevDiff)
    (hcount : b'.stabilityCount = s32 (steadyCount b (latenesses es))) (locked : Bool) :
    (b'.count locked e.late).stabilityCount =
      s32 (steadyCount b (latenesses (es ++ [e]))) := by
  rw [stabilityCount_count locked hfits (fits32_late e), latenesses_concat_timed htimed,
    steadyCount, hprev, hcount]
  split_ifs
  · unfold s32
    omega
  · rfl

lemma Tracks.step (hclock : b.mediaClock ≠ -1) {es : List (TimingReport cfg)}
    {s : Option BufInfo} (h : Tracks b es s) (e : TimingReport cfg) :
    Tracks b (es ++ [e]) (serverStep cfg s e) := by
  cases h with
  | stopped h => exact .stopped fun hall => h (forall_divides_concat.mp hall).1
  | @running b' hdivides hkept hprev hfits hcount =>
    rw [serverStep_some (hkept ▸ hclock)]
    by_cases htimed : e.Timed
    · by_cases hlength : sampleLength e.env = 0
      · rw [manageBufferInfo, if_neg htimed, if_pos hlength]
        exact .stopped fun hall => (forall_divides_concat.mp hall).2 htimed hlength
      · rw [manageBufferInfo_eq b' htimed hlength, Option.map_some]
        obtain ⟨hclock', hprev', hcount', -⟩ := decideBuffer_spec cfg b'
          e.answer.active (e.fifo.fill cfg.fifo) e.late
        generalize decideBuffer cfg b' e.answer.active (e.fifo.fill cfg.fifo) e.late = r at *
        refine .running (forall_divides_concat.mpr ⟨hdivides, fun _ => hlength⟩)
          (hclock'.trans hkept) ?_ (hprev' ▸ fits32_late e)
          (hcount'.trans (stabilityCount_next htimed hprev hfits hcount _))
        rw [latenesses_concat_timed htimed, List.headD_cons, hprev']
    · rw [manageBufferInfo, if_pos (not_not.mp htimed)]
      rw [← latenesses_concat_untimed htimed] at hprev hcount
      exact .running (forall_divides_concat.mpr ⟨hdivides, fun h => absurd h htimed⟩) hkept hprev
        hfits hcount

lemma tracks_run (hclock : b.mediaClock ≠ -1) (hprev : Fits32 b.prevDiff)
    (hcount : Fits32 b.stabilityCount) (es : List (TimingReport cfg)) :
    Tracks b es (Run.runFrom (serverStep cfg) (some b) es) := by
  induction es using List.reverseRecOn with
  | nil => exact .running (fun _ h => nomatch h) rfl rfl hprev (s32_eq hcount).symm
  | append_singleton es e ih =>
    rw [Run.runFrom_append]
    exact ih.step hclock e

/-- **What an adjustment does.**  It is the decision of the server over the report, and the level
afterwards is the one aimed at, around the buffer. -/
lemma mem_adjustments_iff {a : Adjustment} (hclock : b.mediaClock ≠ -1) (e : TimingReport cfg) :
    a ∈ adjustments cfg (some b) e ↔
      (e.Divides ∧ e.Timed ∧ e.answer.active = false ∧
        stableThreshold < (b.count e.answer.active e.late).stabilityCount ∧
        |(e.fifo.fill cfg.fifo : ℤ) - e.late| ≤ cfg.maxAdjust) ∧
      a = e.adjustment := by
  -- the request for the report has not moved the pointers
  have hreported : OfifoRecord.Valid cfg.fifo
      { e.fifo with ptpTs := 0, localTs := 0, marker := none } :=
    ⟨e.valid.dptr_lt, e.valid.wrptr_lt, e.valid.zeroMarker_lt⟩
  have hanswer : (some b).bind (fun b => manageBuffer cfg e.env b e.fifo e.notified) =
      (manageBufferInfo cfg e.env b e.answer).map fun r => (r.1, r.2.1,
        (OfifoRecord.audioOutputFifoHandleBufCtl cfg.fifo
          { e.fifo with ptpTs := 0, localTs := 0, marker := none } e.notified r.2.1).1) := by
    rw [Option.bind_some, manageBuffer, if_neg hclock]
    rfl
  unfold adjustments
  rw [hanswer]
  by_cases htimed : e.Timed
  swap
  · rw [manageBufferInfo, if_pos (not_not.mp htimed)]
    simp [htimed]
  by_cases hlength : sampleLength e.env = 0
  · rw [manageBufferInfo, if_neg htimed, if_pos hlength]
    exact iff_of_false (fun ha => nomatch ha) fun h => h.1.1 htimed hlength
  · obtain ⟨-, -, -, hadjust⟩ :=
      decideBuffer_spec cfg b e.answer.active (e.fifo.fill cfg.fifo) e.late
    rw [manageBufferInfo_eq b htimed hlength, Option.map_some]
    generalize decideBuffer cfg b e.answer.active (e.fifo.fill cfg.fifo) e.late = r at *
    obtain ⟨b', command, acts⟩ := r
    constructor
    · intro ha
      cases command with
      | adjustFill adjust =>
        obtain ⟨hactive, hsteady, hclose, heq⟩ := (hadjust adjust).mp rfl
        refine ⟨⟨fun _ => hlength, htimed, hactive, hsteady, hclose⟩, ?_⟩
        rw [List.mem_singleton.mp ha, TimingReport.adjustment, heq]
        exact congrArg _ (OfifoRecord.fill_adjustFill hreported e.late)
      | _ => cases ha
    · rintro ⟨⟨-, -, hactive, hsteady, hclose⟩, rfl⟩
      cases (hadjust e.late).mpr ⟨hactive, hsteady, hclose, rfl⟩
      refine List.mem_singleton.mpr ?_
      rw [TimingReport.adjustment]
      exact congrArg _ (OfifoRecord.fill_adjustFill hreported e.late).symm

/-- A FIFO whose clock is not registered is not adjusted. -/
lemma adjustmentsAlong_unregistered (hclock : b.mediaClock = -1) (es : List (TimingReport cfg)) :
    adjustmentsAlong cfg (some b) es = [] := by
  have hmanage : ∀ e : TimingReport cfg, serverStep cfg (some b) e = some b ∧
      adjustments cfg (some b) e = [] := by
    intro e
    unfold serverStep adjustments manageBuffer
    rw [Option.bind_some, Option.bind_some, if_pos hclock]
    exact ⟨rfl, rfl⟩
  induction es with
  | nil => rfl
  | cons e es ih =>
    show adjustments cfg (some b) e ++ adjustmentsAlong cfg (serverStep cfg (some b) e) es = []
    rw [(hmanage e).1, (hmanage e).2, ih, List.append_nil]

/-- The reports after which the server adjusts, and the adjustment. -/
lemma mem_adjustmentsAlong_iff {a : Adjustment} (hprev : Fits32 b.prevDiff)
    (hcount : Fits32 b.stabilityCount) {es : List (TimingReport cfg)} :
    a ∈ adjustmentsAlong cfg (some b) es ↔
      ∃ history e rest, es = history ++ e :: rest ∧ AdjustsAfter b history e ∧
        a = e.adjustment := by
  by_cases hclock : b.mediaClock = -1
  · rw [adjustmentsAlong_unregistered hclock]
    refine iff_of_false (fun ha => nomatch ha) ?_
    rintro ⟨history, e, rest, -, hadjusts, -⟩
    exact hadjusts.registered hclock
  rw [adjustmentsAlong, Run.mem_outputs_iff]
  refine exists₃_congr fun history e rest => and_congr_right fun _ => ?_
  have hafter := tracks_run hclock hprev hcount history
  generalize Run.runFrom (serverStep cfg) (some b) history = s at hafter
  cases hafter with
  | stopped h =>
    refine iff_of_false (fun ha => nomatch ha) fun hadjusts => h ?_
    exact (forall_divides_concat.mp hadjusts.1.divides).1
  | running hdivides hkept hprev' hfits hcount' =>
    rw [mem_adjustments_iff (hkept ▸ hclock) e]
    refine and_congr_left fun _ => ⟨?_, fun h => ?_⟩
    · rintro ⟨he, htimed, hactive, hsteady, hclose⟩
      rw [stabilityCount_next htimed hprev' hfits hcount'] at hsteady
      exact ⟨hclock, forall_divides_concat.mpr ⟨hdivides, he⟩, htimed,
        of_decide_eq_false hactive, hsteady, hclose⟩
    · refine ⟨(forall_divides_concat.mp h.divides).2, h.timed, decide_eq_false h.unlocked, ?_,
        h.close⟩
      rw [stabilityCount_next h.timed hprev' hfits hcount']
      exact h.steady

/-- A level within the bounds of the check is one of the buffer if it is neither negative nor the
whole buffer. -/
lemma level_iff {level size bound : ℤ} (hbound : bound ≤ size) (hclose : |level| ≤ bound) :
    0 ≤ level ∧ level ≤ size - 1 ∧ level % size = level ↔ 0 ≤ level ∧ level ≠ size := by
  have hle := (abs_le.mp hclose).2
  constructor
  · rintro ⟨hnonneg, hlt, -⟩
    omega
  · rintro ⟨hnonneg, hne⟩
    exact ⟨hnonneg, by omega, Int.emod_eq_of_lt hnonneg (by omega)⟩

end

/-- **Fill levels.**  Over every sequence of reports, the level that an adjustment aims at is in the
buffer and the FIFO ends at it, exactly if no report after which the server adjusts is later than
its FIFO is full, and none aims at a full buffer, which has no room for the pointers. -/
theorem fill_adjusted_iff (cfg : MediaClockConfig) (b : BufInfo) (hprev : Fits32 b.prevDiff)
    (hcount : Fits32 b.stabilityCount) (es : List (TimingReport cfg)) :
    (∀ a ∈ adjustmentsAlong cfg (some b) es,
        0 ≤ a.fill - a.adjust ∧ a.fill - a.adjust ≤ cfg.fifo.wordSize - 1 ∧
          a.after = a.fill - a.adjust) ↔
      ∀ history e rest, es = history ++ e :: rest → AdjustsAfter b history e →
        e.late ≤ e.fifo.fill cfg.fifo ∧ e.fifo.fill cfg.fifo - e.late ≠ cfg.fifo.wordSize := by
  have hmax : cfg.maxAdjust ≤ cfg.fifo.wordSize := by
    unfold MediaClockConfig.maxAdjust
    omega
  constructor
  · intro hall history e rest hes hadjusts
    have ha := hall e.adjustment ((mem_adjustmentsAlong_iff hprev hcount).mpr
      ⟨history, e, rest, hes, hadjusts, rfl⟩)
    dsimp only [TimingReport.adjustment] at ha
    have hlevel := (level_iff hmax hadjusts.close).mp ha
    exact ⟨Int.sub_nonneg.mp hlevel.1, hlevel.2⟩
  · intro hall a ha
    obtain ⟨history, e, rest, hes, hadjusts, rfl⟩ := (mem_adjustmentsAlong_iff hprev hcount).mp ha
    obtain ⟨hle, hne⟩ := hall history e rest hes hadjusts
    dsimp only [TimingReport.adjustment]
    exact (level_iff hmax hadjusts.close).mpr ⟨Int.sub_nonneg.mpr hle, hne⟩

def clock48000 : MediaClockConfig := ⟨⟨106, false, false⟩, 48000⟩

def lockingFifo (fill : ℕ) (ticks : UInt32) : OfifoRecord where
  zeroFlag := 1
  dptr := 0
  wrptr := fill
  marker := none
  localTs := ticks
  sampleCount := 0
  state := .locking
  volume := 1
  fifo := fun _ => 0
  ptpTs := 1
  zeroMarker := 0
  lastNotificationTime := 0
  mediaClock := 0
  pendingInitNotification := false

/-- A report of a sample that was played 20 samples late. -/
def lateReport (fill : Fin 106) : TimingReport clock48000 where
  env := ⟨0, 0, 0, 0, ⟨0, 0, 0, 0, 0⟩, 0x8235556⟩
  fifo := lockingFifo fill 41667
  notified := true
  valid := ⟨(by decide : 0 < 106), fill.isLt, fun h => nomatch h⟩

theorem fill_adjusted_to_ten :
    adjustmentsAlong clock48000 (some ⟨0, 0, 0, 0⟩) (List.replicate 34 (lateReport 30)) =
        [⟨30, 20, 10⟩] ∧
      ∀ history e rest, List.replicate 34 (lateReport 30) = history ++ e :: rest →
        AdjustsAfter ⟨0, 0, 0, 0⟩ history e →
          e.late ≤ e.fifo.fill clock48000.fifo ∧
            e.fifo.fill clock48000.fifo - e.late ≠ clock48000.fifo.wordSize :=
  ⟨by decide +kernel, (fill_adjusted_iff clock48000 ⟨0, 0, 0, 0⟩ (by decide) (by decide)
    (List.replicate 34 (lateReport 30))).mp (by decide +kernel)⟩

/-- After 34 such reports the server shortens 10 samples by 20, and the FIFO has 96. -/
theorem fill_adjusted_below_zero :
    adjustmentsAlong clock48000 (some ⟨0, 0, 0, 0⟩) (List.replicate 34 (lateReport 10)) =
        [⟨10, 20, 96⟩] ∧
      ¬ ∀ a ∈ adjustmentsAlong clock48000 (some ⟨0, 0, 0, 0⟩) (List.replicate 34 (lateReport 10)),
        0 ≤ a.fill - a.adjust ∧ a.fill - a.adjust ≤ clock48000.fifo.wordSize - 1 ∧
          a.after = a.fill - a.adjust := by
  decide +kernel
