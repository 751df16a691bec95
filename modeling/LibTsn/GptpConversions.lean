/-
# Three conversions of a local time to PTP time

`local_timestamp_to_ptp` gives seconds and nanoseconds,
`local_timestamp_to_ptp_mod64` the nanoseconds in a 64-bit word and
`local_timestamp_to_ptp_mod32` their low half.  The last two take the distance
from the reference as a signed word.  The first takes it as an unsigned word, so
that a time just before the reference is converted to one 43 seconds after it.
-/
import LibTsn.GptpHandover

/-! ## The time information of a client -/

structure PtpTimeInfo where
  localTs : ℕ
  ptpTs : PtpTimestamp
  ptpAdjust : ℤ
  invPtpAdjust : ℤ
  deriving DecidableEq, Repr

structure PtpTimestamp.Fits (ts : PtpTimestamp) : Prop where
  seconds0 : ts.seconds0 < 2 ^ 32
  seconds1 : ts.seconds1 < 2 ^ 32
  nanoseconds : ts.nanoseconds < 2 ^ 32

lemma PtpTimestamp.Fits.sec_eq {ts : PtpTimestamp} (h : ts.Fits) :
    ts.sec = ts.seconds0 + ts.seconds1 * 2 ^ 32 := by
  unfold PtpTimestamp.sec
  rw [Nat.or_comm, ← Nat.shiftLeft_add_eq_or_of_lt h.seconds0, Nat.shiftLeft_eq, Nat.add_comm]

variable (ts : PtpTimestamp) (localTs : ℕ) (info : PtpTimeInfo)

def ptpGetReferencePtpTsMod64 : ℕ × ℕ :=
  let t := (ts.seconds0 + (ts.seconds1 <<< 32)) % 2 ^ 64
  let t := t * nanosecondsPerSecond % 2 ^ 64
  let t := (t + ts.nanoseconds) % 2 ^ 64
  (t >>> 32, t % 2 ^ 32)

/-- `ptp_get_local_time_info_mod64`, for the reference that `info` holds. -/
def ptpGetLocalTimeInfoMod64 : PtpTimeInfoMod64 :=
  let (hi, lo) := ptpGetReferencePtpTsMod64 info.ptpTs
  ⟨info.localTs, hi, lo, info.ptpAdjust, info.invPtpAdjust⟩

def localTimestampToPtpOf (localTs : ℕ) (info : PtpTimeInfo) : PtpTimestamp :=
  localTimestampToPtp localTs info.localTs info.ptpTs info.ptpAdjust

def localTimestampToPtpMod64 (localTs : ℕ) (info : PtpTimeInfoMod64) : ℕ × ℕ :=
  let localDiff := s32 (s32 localTs - s32 info.localTs)
  let ptpMod64 : ℕ := ((info.ptpTsHi <<< 32) + info.ptpTsLo) % 2 ^ 64
  let localDiff := s64 (localDiff * 10)
  let localDiff := s64 (localDiff + s64 (localDiff * info.ptpAdjust) / 2 ^ 30)
  let ptpMod64 := u64 (ptpMod64 + localDiff)
  (ptpMod64 >>> 32, ptpMod64 % 2 ^ 32)

def PtpTimestamp.totalNanoseconds : ℕ :=
  ts.sec * nanosecondsPerSecond + ts.nanoseconds

def PtpTimeInfo.distance (localTs : ℕ) : ℤ :=
  s32 ((localTs : ℤ) - info.localTs)

def ptpTicks (d adjust : ℤ) : ℤ := 10 * d + 10 * d * adjust / 2 ^ 30

/-! ## The signed conversions -/

lemma signedDistance_eq : s32 (s32 localTs - s32 info.localTs) = info.distance localTs := by
  unfold PtpTimeInfo.distance s32
  omega

lemma distance_bounds : -2 ^ 31 ≤ info.distance localTs ∧ info.distance localTs < 2 ^ 31 := by
  unfold PtpTimeInfo.distance s32
  omega

lemma reference_mod64 {ts : PtpTimestamp} (hts : ts.Fits) :
    ((ptpGetReferencePtpTsMod64 ts).1 <<< 32) + (ptpGetReferencePtpTsMod64 ts).2 =
      ts.totalNanoseconds % 2 ^ 64 := by
  unfold ptpGetReferencePtpTsMod64 PtpTimestamp.totalNanoseconds nanosecondsPerSecond
  rw [hts.sec_eq]
  dsimp only
  rw [Nat.shiftRight_eq_div_pow, Nat.shiftLeft_eq]
  omega

lemma localTimestampToPtpMod64_eq {info : PtpTimeInfo} (hts : info.ptpTs.Fits)
    (hadjust : |info.ptpAdjust| < 2 ^ 20) (localTs : ℕ) :
    (((localTimestampToPtpMod64 localTs (ptpGetLocalTimeInfoMod64 info)).1 * 2 ^ 32 +
        (localTimestampToPtpMod64 localTs (ptpGetLocalTimeInfoMod64 info)).2 : ℕ) : ℤ) =
      (info.ptpTs.totalNanoseconds + ptpTicks (info.distance localTs) info.ptpAdjust) % 2 ^ 64 := by
  obtain ⟨hlow, hhigh⟩ := distance_bounds localTs info
  have hticks : s64 (s64 (info.distance localTs * 10) +
      s64 (s64 (info.distance localTs * 10) * info.ptpAdjust) / 2 ^ 30) =
        ptpTicks (info.distance localTs) info.ptpAdjust :=
    scaledTicks_eq (by omega) (by omega) hadjust
  have href := reference_mod64 hts
  unfold localTimestampToPtpMod64 ptpGetLocalTimeInfoMod64
  dsimp only
  rw [signedDistance_eq, hticks, href, Nat.shiftRight_eq_div_pow]
  generalize ptpTicks (info.distance localTs) info.ptpAdjust = ticks
  generalize info.ptpTs.totalNanoseconds = total
  unfold u64
  omega

lemma localTimestampToPtpMod32_eq (info : PtpTimeInfoMod64) :
    (localTimestampToPtpMod64 localTs info).2 = localTimestampToPtpMod32 localTs info := by
  unfold localTimestampToPtpMod64 localTimestampToPtpMod32
  dsimp only
  rw [Nat.shiftLeft_eq]
  generalize s64 (s64 (s32 (s32 localTs - s32 info.localTs) * 10) + _) = ticks
  unfold u64 u32 s32
  omega

lemma totalNanoseconds_offset64 {offset : ℤ} (hlow : 0 ≤ ts.nanoseconds + offset)
    (hhigh : ts.nanoseconds + offset < 2 ^ 64) :
    ((ptpTimestampOffset64 ts offset).totalNanoseconds : ℤ) % 2 ^ 64 =
      (ts.totalNanoseconds + offset) % 2 ^ 64 := by
  have hword : (u64 (ts.nanoseconds + offset) : ℤ) = ts.nanoseconds + offset := by
    unfold u64
    omega
  unfold PtpTimestamp.totalNanoseconds
  rw [sec_ptpTimestampOffset64]
  show ((((ts.sec + u64 (ts.nanoseconds + offset) / nanosecondsPerSecond) % 2 ^ 64 *
    nanosecondsPerSecond + u64 (ts.nanoseconds + offset) % nanosecondsPerSecond : ℕ)) :
      ℤ) % 2 ^ 64 = _
  generalize u64 (ts.nanoseconds + offset) = x at hword ⊢
  unfold nanosecondsPerSecond
  omega

lemma unsignedDistance_eq : (u32 (s32 localTs - s32 info.localTs) : ℤ) =
      if 0 ≤ info.distance localTs then info.distance localTs
      else info.distance localTs + 2 ^ 32 := by
  unfold PtpTimeInfo.distance u32 s32
  split <;> omega

lemma ptpTicks_add (d adjust : ℤ) :
    ptpTicks (d + 2 ^ 32) adjust = ptpTicks d adjust + (10 * 2 ^ 32 + 40 * adjust) := by
  unfold ptpTicks
  have hcorrection : 10 * (d + 2 ^ 32) * adjust = 10 * d * adjust + 40 * adjust * 2 ^ 30 := by ring
  rw [hcorrection, Int.add_mul_ediv_right _ _ (by norm_num)]
  ring

/-- **The conversion before the reference.**  From the reference on the result is the
PTP time of the signed distance; before it, it is ahead of that by `2 ^ 32` ticks. -/
theorem totalNanoseconds_localTimestampToPtp {info : PtpTimeInfo} (hts : info.ptpTs.Fits)
    (hadjust : |info.ptpAdjust| < 2 ^ 20) (localTs : ℕ) :
    ((localTimestampToPtpOf localTs info).totalNanoseconds : ℤ) % 2 ^ 64 =
      (info.ptpTs.totalNanoseconds + ptpTicks (info.distance localTs) info.ptpAdjust +
        if 0 ≤ info.distance localTs then 0 else 10 * 2 ^ 32 + 40 * info.ptpAdjust) % 2 ^ 64 := by
  have hns := hts.nanoseconds
  have hwide : u32 (s32 localTs - s32 info.localTs) < 2 ^ 32 := by
    unfold u32
    omega
  have hticks : localTimeToPtpTime (u32 (s32 localTs - s32 info.localTs)) info.ptpAdjust =
      ptpTicks (u32 (s32 localTs - s32 info.localTs)) info.ptpAdjust :=
    localTimeToPtpTime_eq hwide.le hadjust
  have hnonneg := corrected_nonneg (u32 (s32 localTs - s32 info.localTs)) hadjust
  have hbound := abs_lt.mp (abs_correction_lt (d := u32 (s32 localTs - s32 info.localTs))
    (by omega) (by omega) hadjust)
  have hoffset : ((localTimestampToPtpOf localTs info).totalNanoseconds : ℤ) % 2 ^ 64 =
      (info.ptpTs.totalNanoseconds +
        ptpTicks (u32 (s32 localTs - s32 info.localTs)) info.ptpAdjust) % 2 ^ 64 := by
    unfold localTimestampToPtpOf localTimestampToPtp
    dsimp only
    rw [hticks]
    apply totalNanoseconds_offset64 <;> unfold ptpTicks <;> omega
  rw [hoffset, unsignedDistance_eq]
  split
  · rw [add_zero]
  · rw [ptpTicks_add, add_assoc]

/-! ## Agreement -/

structure ConversionsAgree (localTs : ℕ) (info : PtpTimeInfo) : Prop where
  mod64 : (localTimestampToPtpOf localTs info).totalNanoseconds % 2 ^ 64 =
    (localTimestampToPtpMod64 localTs (ptpGetLocalTimeInfoMod64 info)).1 * 2 ^ 32 +
      (localTimestampToPtpMod64 localTs (ptpGetLocalTimeInfoMod64 info)).2
  mod32 : (localTimestampToPtpMod64 localTs (ptpGetLocalTimeInfoMod64 info)).2 =
    localTimestampToPtpMod32 localTs (ptpGetLocalTimeInfoMod64 info)

/-- **Agreement.**  For every reference, rate adjustment and local time, the three
conversions agree if and only if the local time is not before the reference. -/
theorem conversions_agree_iff (info : PtpTimeInfo) (hts : info.ptpTs.Fits)
    (hadjust : |info.ptpAdjust| < 2 ^ 20) (localTs : ℕ) :
    ConversionsAgree localTs info ↔ 0 ≤ info.distance localTs := by
  have hfull := totalNanoseconds_localTimestampToPtp hts hadjust localTs
  have hwords := localTimestampToPtpMod64_eq hts hadjust localTs
  obtain ⟨hadjustLow, hadjustHigh⟩ := abs_lt.mp hadjust
  constructor
  · intro h
    by_contra hbefore
    -- the surplus is positive and far below a turn of the 64-bit word
    rw [if_neg hbefore] at hfull
    have hsame : (info.ptpTs.totalNanoseconds + ptpTicks (info.distance localTs) info.ptpAdjust +
        (10 * 2 ^ 32 + 40 * info.ptpAdjust)) % 2 ^ 64 =
        (info.ptpTs.totalNanoseconds + ptpTicks (info.distance localTs) info.ptpAdjust) %
          2 ^ 64 := by
      rw [← hfull, ← hwords]
      exact_mod_cast h.mod64
    have hdvd := Int.ModEq.dvd hsame
    rw [sub_add_cancel_left, dvd_neg] at hdvd
    have hle := Int.le_of_dvd (by linarith) hdvd
    linarith
  · intro hafter
    refine ⟨?_, localTimestampToPtpMod32_eq _ _⟩
    rw [if_pos hafter, add_zero] at hfull
    omega

def referenceAt100 : PtpTimeInfo := ⟨100, ⟨7, 0, 0⟩, 5, -5⟩

theorem conversions_agree_after_reference :
    ConversionsAgree 100 referenceAt100 ∧ ConversionsAgree 110 referenceAt100 := by
  have hts : referenceAt100.ptpTs.Fits := ⟨by decide, by decide, by decide⟩
  have hadjust : |referenceAt100.ptpAdjust| < 2 ^ 20 := by decide
  exact ⟨(conversions_agree_iff referenceAt100 hts hadjust 100).mpr (by decide),
    (conversions_agree_iff referenceAt100 hts hadjust 110).mpr (by decide)⟩

/-- One tick before the reference `local_timestamp_to_ptp` answers 49.9 s. -/
theorem conversions_disagree_before_reference :
    localTimestampToPtpOf 99 referenceAt100 = ⟨49, 0, 949673149⟩ ∧
      ¬ ConversionsAgree 99 referenceAt100 := by
  refine ⟨by decide, fun h => ?_⟩
  have hmod := h.mod64
  revert hmod
  decide
