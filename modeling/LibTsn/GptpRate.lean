/-
# Rates between the local clock and the PTP clock

`update_adjust` measures how long the time between two Sync messages was for the master and for
the local clock, and stores the rate each way as a fixed-point offset.  The conversions scale by
these offsets.
-/
import LibTsn.FixedPoint
import LibTsn.GptpTimestamps

/-! ## Conversions to local time -/

def ptpTimestampToLocal (ts : PtpTimestamp) (info : PtpTimeInfo) : ℕ :=
  let ptpDiff := ptpTimestampDiff ts info.ptpTs
  let localDiff := s64 (ptpDiff + s64 (ptpDiff * info.invPtpAdjust) / 2 ^ 30)
  let localDiff := localDiff.tdiv 10
  u32 (info.localTs + localDiff)

def ptpMod32TimestampToLocal (ts : ℕ) (info : PtpTimeInfoMod64) : ℕ :=
  let ptpDiff := s32 (s32 ts - s32 info.ptpTsLo)
  let localDiff := s64 (ptpDiff + s64 (ptpDiff * info.invPtpAdjust) / 2 ^ 30)
  let localDiff := localDiff.tdiv 10
  u32 (info.localTs + localDiff)

lemma s32_sub_word {x : ℤ} (reference : ℕ) (hx : Fits32 x) :
    s32 (s32 (u32 (reference + x)) - s32 reference) = x := by
  obtain ⟨hlow, hhigh⟩ := hx
  unfold s32 u32
  omega

lemma s32_word_sub {q : ℤ} {t reference : ℕ} (h : |q - s32 ((t : ℤ) - reference)| ≤ 1) :
    s32 ((u32 (reference + q) : ℤ) - t) = q - s32 ((t : ℤ) - reference) := by
  obtain ⟨hlow, hhigh⟩ := abs_le.mp h
  unfold s32 u32 at *
  omega

lemma abs_mul_rate_le {x a n : ℤ} (hx : |x| ≤ n) (ha : |a| < 2 ^ 20) : |x * a| ≤ n * 2 ^ 20 := by
  rw [abs_mul]
  exact mul_le_mul hx ha.le (abs_nonneg a) ((abs_nonneg x).trans hx)

lemma abs_scale_sub_le {x a n : ℤ} (hx : |x| ≤ n * 2 ^ 10) (ha : |a| < 2 ^ 20) :
    |scale 30 a x - x| ≤ n + 1 := by
  obtain ⟨hlow, hhigh⟩ := abs_le.mp (abs_mul_rate_le hx ha)
  unfold scale
  generalize x * a = correction at hlow hhigh ⊢
  rw [abs_le]
  constructor <;> omega

lemma scaledDifference_eq {x b : ℤ} (hx : |x| ≤ 2 ^ 32) (hb : |b| < 2 ^ 20) :
    s64 (x + s64 (x * b) / 2 ^ 30) = scale 30 b x := by
  have hproduct := abs_mul_rate_le hx hb
  have hsmall := abs_scale_sub_le (x := x) (n := 2 ^ 22) (by omega) hb
  rw [s64_eq (fits64_of_abs_lt (hproduct.trans_lt (by norm_num)))]
  refine s64_eq (fits64_of_abs_lt ?_)
  obtain ⟨hlow, hhigh⟩ := abs_le.mp hx
  obtain ⟨hlow', hhigh'⟩ := abs_le.mp hsmall
  show |scale 30 b x| < 2 ^ 63
  rw [abs_lt]
  constructor <;> omega

/-- **Local time to PTP time and back.**  For all rates each way whose product is one up to
`2 ^ (-29)`, and every local time within two seconds of the reference, the local time comes back up
to one tick. -/
theorem local_ptp_local (info : PtpTimeInfoMod64) (ha : |info.ptpAdjust| < 2 ^ 20)
    (hb : |info.invPtpAdjust| < 2 ^ 20)
    (hinverse : |(2 ^ 30 + info.ptpAdjust) * (2 ^ 30 + info.invPtpAdjust) - 2 ^ 60| ≤ 2 ^ 31)
    (t : ℕ) (hnear : |s32 ((t : ℤ) - info.localTs)| ≤ 2 * 10 ^ 8) :
    |s32 ((ptpMod32TimestampToLocal (localTimestampToPtpMod32 t info) info : ℤ) - t)| ≤ 1 := by
  have hdistance : s32 (s32 t - s32 info.localTs) = s32 ((t : ℤ) - info.localTs) := by
    unfold s32
    omega
  set d := s32 ((t : ℤ) - info.localTs) with hd
  obtain ⟨hlow, hhigh⟩ := abs_le.mp hnear
  have hx : |10 * d| ≤ 2 * 10 ^ 9 := by
    rw [abs_le]
    constructor <;> omega
  -- the PTP time, as a difference to that of the reference
  set y := scale 30 info.ptpAdjust (10 * d) with hy
  have hfar := abs_scale_sub_le (n := 1953125) (hx.trans (by norm_num)) ha
  have hyabs : |y| < 2 ^ 31 := by
    obtain ⟨hlow', hhigh'⟩ := abs_le.mp hfar
    rw [abs_lt]
    constructor <;> omega
  have hptp : localTimestampToPtpMod32 t info = u32 (info.ptpTsLo + y) := by
    unfold localTimestampToPtpMod32
    dsimp only
    rw [hdistance, scaledTicks_eq (by omega) (by omega) ha]
    show u32 (info.ptpTsLo + s32 y) = _
    rw [s32_eq (fits32_of_abs_lt hyabs)]
  have hback : s32 (s32 (localTimestampToPtpMod32 t info) - s32 info.ptpTsLo) = y := by
    rw [hptp]
    exact s32_sub_word _ (fits32_of_abs_lt hyabs)
  -- and back
  have herror : |scale 30 info.invPtpAdjust y - 10 * d| < 10 := by
    obtain ⟨hupper, hlower⟩ := scale_scale_sub (k := 30) (a := info.ptpAdjust)
      (b := info.invPtpAdjust) (x := 10 * d) (e := 2 ^ 31) (by linarith [(abs_lt.mp hb).1])
      (by linarith [(abs_lt.mp hb).2]) (by norm_num at hinverse ⊢; exact hinverse)
    have hproduct : |10 * d| * 2 ^ 31 ≤ 2 * 10 ^ 9 * 2 ^ 31 :=
      mul_le_mul_of_nonneg_right hx (by norm_num)
    rw [← hy] at hupper hlower
    rw [abs_lt]
    constructor <;> linarith
  have htick := abs_tdiv_sub_le herror
  unfold ptpMod32TimestampToLocal
  dsimp only
  rw [hback, scaledDifference_eq (hyabs.le.trans (by norm_num)) hb, s32_word_sub htick]
  exact htick

def fastMaster : PtpTimeInfoMod64 := ⟨4000000000, 7, 4294967000, 107374, -107363⟩

theorem local_ptp_local_fast :
    |s32 ((ptpMod32TimestampToLocal (localTimestampToPtpMod32 (4200000000 % 2 ^ 32) fastMaster)
      fastMaster : ℤ) - (4200000000 % 2 ^ 32 : ℕ))| ≤ 1 :=
  local_ptp_local fastMaster (by decide) (by decide) (by decide) _ (by decide)

/-! ## A measured rate -/

structure CloseIntervals (l m : ℤ) : Prop where
  long : 62500000 ≤ l
  short : l ≤ 500000000
  ticks : 10 ∣ l
  close : 10000 * |m - l| ≤ l

/-- A second measurement: the one before is known, no rate is known yet, and `update_adjust`
accepts it.  Between the two lie `l` ns of the local clock and `m` ns of the master. -/
structure FirstRate (s : PtpState) (masterTs : PtpTimestamp) (localTs : ℕ) (l m : ℤ) : Prop where
  prev : s.prevAdjustValid = true
  reset : s.gPtpAdjustValid = false
  accepted : (updateAdjust masterTs localTs s).2 = false
  localInterval_eq : localInterval localTs s.prevAdjustLocalTs = l
  masterInterval_eq :
    (masterTs.totalNanoseconds : ℤ) - s.prevAdjustMasterTs.totalNanoseconds = m

/-- The rate offset of `x` ns that ought to be `y` ns, as `update_adjust` computes it. -/
def measuredOffset (x y : ℤ) : ℤ := ((y - x) * 2 ^ 35).tdiv y / 2 ^ 5

def rateSteps (l m adjust invAdjust : ℤ) : List ℤ :=
  [m, l, m - l, l - m, (m - l) * 2 ^ 35, (l - m) * 2 ^ 35,
    ((m - l) * 2 ^ 35).tdiv m, ((l - m) * 2 ^ 35).tdiv l,
    l * adjust, l + l * adjust / 2 ^ 30, m * invAdjust, m + m * invAdjust / 2 ^ 30]

def ReproducesPtp (l m adjust : ℤ) : Prop := |localTimeToPtpTime (l / 10).toNat adjust - m| ≤ 2

def ReproducesLocal (l m invAdjust : ℤ) : Prop :=
  ∀ (ts : PtpTimestamp) (info : PtpTimeInfo), info.invPtpAdjust = invAdjust →
    (ts.totalNanoseconds : ℤ) - info.ptpTs.totalNanoseconds = m →
      |10 * s32 ((ptpTimestampToLocal ts info : ℤ) - info.localTs) - l| ≤ 20

section

variable {x y : ℤ}

lemma abs_measuredOffset_lt (hy : 0 < y) (hclose : 9999 * |y - x| ≤ y) :
    |measuredOffset x y| < 2 ^ 17 := by
  obtain ⟨hupper, hlower⟩ := quotient_bounds 5 ((y - x) * 2 ^ 35) hy
  have hlow := neg_abs_le (y - x)
  have hhigh := le_abs_self (y - x)
  show |((y - x) * 2 ^ 35).tdiv y / 2 ^ 5| < 2 ^ 17
  set offset := ((y - x) * 2 ^ 35).tdiv y / 2 ^ 5
  rw [abs_lt]
  constructor
  · by_contra hle
    have := mul_le_mul_of_nonneg_right (not_lt.mp hle) hy.le
    linarith
  · by_contra hle
    have := mul_le_mul_of_nonneg_right (not_lt.mp hle) hy.le
    linarith

lemma abs_shifted_lt (hsmall : |y - x| ≤ 50000) : |(y - x) * 2 ^ 35| < 2 ^ 52 := by
  rw [abs_mul]
  calc |y - x| * |(2 : ℤ) ^ 35| ≤ 50000 * 2 ^ 35 := by
        rw [abs_of_pos (by norm_num : (0 : ℤ) < 2 ^ 35)]
        exact mul_le_mul_of_nonneg_right hsmall (by norm_num)
    _ < 2 ^ 52 := by norm_num

lemma abs_tdiv_le (n d : ℤ) : |n.tdiv d| ≤ |n| := by
  rw [Int.abs_eq_natAbs, Int.abs_eq_natAbs]
  exact_mod_cast Int.natAbs_tdiv_le_natAbs n d

lemma rateOffset_eq (hsmall : |y - x| ≤ 50000) : rateOffset y x y = measuredOffset x y := by
  have hshifted := abs_shifted_lt hsmall
  unfold rateOffset measuredOffset
  rw [s64_eq (x := y - x) (fits64_of_abs_lt (hsmall.trans_lt (by norm_num))),
    s64_eq (fits64_of_abs_lt (hshifted.trans (by norm_num))),
    s64_eq (fits64_of_abs_lt (((abs_tdiv_le _ y).trans_lt hshifted).trans (by norm_num)))]

lemma scale_measuredOffset (hx : 0 < x) (hy : 0 < y) (hshort : x ≤ 2 ^ 29) :
    scale 30 (measuredOffset x y) x ≤ y ∧
      (scale 30 (measuredOffset x y) x - y) * (2 ^ 35 * y) < x * y - 2 ^ 35 * (y - x) ^ 2 ∧
      -(2 ^ 35 * (y - x) ^ 2) - 33 * (x * y) <
        (scale 30 (measuredOffset x y) x - y + 1) * (2 ^ 35 * y) := by
  obtain ⟨hupper, hlower⟩ := scale_quotient 30 5 hx hy
  have hprecision : (2 : ℤ) ^ 30 * 2 ^ 5 = 2 ^ 35 := by norm_num
  rw [hprecision] at hupper hlower
  change (scale 30 (measuredOffset x y) x - y) * _ < _ at hupper
  change _ < (scale 30 (measuredOffset x y) x - y + 1) * _ at hlower
  set c := scale 30 (measuredOffset x y) x
  refine ⟨?_, hupper, by linarith⟩
  by_contra hlong
  have hle : 1 * (2 ^ 35 * y) ≤ (c - y) * (2 ^ 35 * y) :=
    mul_le_mul_of_nonneg_right (by omega) (by positivity)
  have hxy : x * y ≤ 2 ^ 29 * y := mul_le_mul_of_nonneg_right hshort hy.le
  have hsquare := sq_nonneg (y - x)
  linarith

end

section

variable {s : PtpState} {masterTs : PtpTimestamp} {localTs : ℕ} {l m : ℤ}

namespace CloseIntervals

lemma abs_sub_le (h : CloseIntervals l m) : |m - l| ≤ 50000 := by
  have hshort := h.short
  have hclose := h.close
  omega

lemma master_close (h : CloseIntervals l m) : 9999 * |m - l| ≤ m := by
  have hclose := h.close
  have hlow := neg_abs_le (m - l)
  omega

lemma master_bounds (h : CloseIntervals l m) : 62000000 ≤ m ∧ m ≤ 500050000 := by
  have hlong := h.long
  have hshort := h.short
  obtain ⟨hlow, hhigh⟩ := abs_le.mp h.abs_sub_le
  constructor <;> omega

lemma square_le (h : CloseIntervals l m) : 10 ^ 8 * (m - l) ^ 2 ≤ l ^ 2 := by
  have hnonneg : 0 ≤ 10000 * |m - l| := by positivity
  have hsquare := pow_le_pow_left₀ hnonneg h.close 2
  rw [mul_pow, sq_abs] at hsquare
  linarith

lemma abs_offset_lt (h : CloseIntervals l m) : |measuredOffset l m| < 2 ^ 17 := by
  apply abs_measuredOffset_lt _ h.master_close
  have := h.master_bounds
  omega

lemma abs_invOffset_lt (h : CloseIntervals l m) : |measuredOffset m l| < 2 ^ 17 := by
  have hlong := h.long
  have hclose := h.close
  have hnonneg := abs_nonneg (m - l)
  apply abs_measuredOffset_lt (by omega)
  rw [abs_sub_comm]
  omega

lemma toPtpTime_eq (h : CloseIntervals l m) :
    localTimeToPtpTime (l / 10).toNat (measuredOffset l m) = scale 30 (measuredOffset l m) l := by
  have hlong := h.long
  have hshort := h.short
  have hticks := h.ticks
  have hwhole : 10 * ((l / 10).toNat : ℤ) = l := by omega
  rw [localTimeToPtpTime_eq (by omega) (h.abs_offset_lt.trans (by norm_num)), hwhole]
  rfl

lemma reproducesPtp (h : CloseIntervals l m)
    (hsquare : 2 ^ 35 * (m - l) ^ 2 + 33 * (l * m) ≤ 2 ^ 36 * m) :
    ReproducesPtp l m (measuredOffset l m) := by
  have hlong := h.long
  have hm : 0 < m := lt_of_lt_of_le (by norm_num) h.master_bounds.1
  obtain ⟨hupper, -, hlower⟩ := scale_measuredOffset (by omega) hm (h.short.trans (by norm_num))
  unfold ReproducesPtp
  rw [h.toPtpTime_eq, abs_le]
  set c := scale 30 (measuredOffset l m) l
  refine ⟨?_, by omega⟩
  by_contra hfar
  have hle : (c - m + 1) * (2 ^ 35 * m) ≤ -2 * (2 ^ 35 * m) :=
    mul_le_mul_of_nonneg_right (by omega) (by positivity)
  linarith

lemma not_reproducesPtp (h : CloseIntervals l m)
    (hsquare : 2 ^ 36 * m + l * m ≤ 2 ^ 35 * (m - l) ^ 2) :
    ¬ ReproducesPtp l m (measuredOffset l m) := by
  have hlong := h.long
  have hm : 0 < m := lt_of_lt_of_le (by norm_num) h.master_bounds.1
  obtain ⟨-, hupper, -⟩ := scale_measuredOffset (by omega) hm (h.short.trans (by norm_num))
  unfold ReproducesPtp
  rw [h.toPtpTime_eq, abs_le]
  rintro ⟨hnear, -⟩
  set c := scale 30 (measuredOffset l m) l
  have hle : -2 * (2 ^ 35 * m) ≤ (c - m) * (2 ^ 35 * m) :=
    mul_le_mul_of_nonneg_right hnear (by positivity)
  linarith

lemma abs_scale_inverse_lt (h : CloseIntervals l m) :
    |scale 30 (measuredOffset m l) m - l| < 10 := by
  have hlong := h.long
  have hshort := h.short
  have hbounds := h.master_bounds
  have hsquare := h.square_le
  obtain ⟨hupper, -, hlower⟩ :=
    scale_measuredOffset (x := m) (y := l) (by omega) (by omega) (by omega)
  set c := scale 30 (measuredOffset m l) m
  rw [abs_lt]
  refine ⟨?_, by omega⟩
  by_contra hfar
  have hle : (c - l + 1) * (2 ^ 35 * l) ≤ -9 * (2 ^ 35 * l) :=
    mul_le_mul_of_nonneg_right (by omega) (by positivity)
  have hl : l ^ 2 ≤ 500000000 * l := by nlinarith
  have hml : m * l ≤ 500050000 * l := mul_le_mul_of_nonneg_right hbounds.2 (by omega)
  nlinarith

lemma reproducesLocal (h : CloseIntervals l m) : ReproducesLocal l m (measuredOffset m l) := by
  intro ts info hinv hdiff
  have hlong := h.long
  have hshort := h.short
  have hticks := h.ticks
  have hbounds := h.master_bounds
  have hm : |m| ≤ 2 ^ 32 := by
    rw [abs_le]
    constructor <;> omega
  have hptp : ptpTimestampDiff ts info.ptpTs = m := by
    rw [ptpTimestampDiff_eq, hdiff]
    exact s64_eq (fits64_of_abs_lt (hm.trans_lt (by norm_num)))
  have htick : |(scale 30 (measuredOffset m l) m).tdiv 10 - l / 10| ≤ 1 := by
    apply abs_tdiv_sub_le
    rw [Int.mul_ediv_cancel' hticks]
    exact h.abs_scale_inverse_lt
  unfold ptpTimestampToLocal
  dsimp only
  rw [hptp, hinv, scaledDifference_eq hm (h.abs_invOffset_lt.trans (by norm_num))]
  generalize (scale 30 (measuredOffset m l) m).tdiv 10 = q at htick ⊢
  obtain ⟨hlow, hhigh⟩ := abs_le.mp htick
  have hword : s32 ((u32 (info.localTs + q) : ℤ) - info.localTs) = q := by
    unfold s32 u32
    omega
  rw [hword, abs_le]
  constructor <;> omega

lemma fits_rateSteps (h : CloseIntervals l m) :
    ∀ v ∈ rateSteps l m (measuredOffset l m) (measuredOffset m l), Fits64 v := by
  have hlong := h.long
  have hshort := h.short
  obtain ⟨hmlow, hmhigh⟩ := h.master_bounds
  have hsub := h.abs_sub_le
  have hsub' : |l - m| ≤ 50000 := by rwa [abs_sub_comm]
  have hl : |l| ≤ 2 ^ 30 := by rw [abs_le]; constructor <;> omega
  have hm : |m| ≤ 2 ^ 30 := by rw [abs_le]; constructor <;> omega
  have hadjust := h.abs_offset_lt.trans (show (2 : ℤ) ^ 17 < 2 ^ 20 by norm_num)
  have hinv := h.abs_invOffset_lt.trans (show (2 : ℤ) ^ 17 < 2 ^ 20 by norm_num)
  have hscale : ∀ {x a : ℤ}, |x| ≤ 2 ^ 30 → |a| < 2 ^ 20 → Fits64 (scale 30 a x) := by
    intro x a hx ha
    have hnear := abs_le.mp (abs_scale_sub_le (n := 2 ^ 20) (hx.trans (by norm_num)) ha)
    obtain ⟨hlow, hhigh⟩ := abs_le.mp hx
    constructor <;> omega
  intro v hv
  simp only [rateSteps, List.mem_cons, List.not_mem_nil, or_false] at hv
  rcases hv with rfl | rfl | rfl | rfl | rfl | rfl | rfl | rfl | rfl | rfl | rfl | rfl
  · exact fits64_of_abs_lt (hm.trans_lt (by norm_num))
  · exact fits64_of_abs_lt (hl.trans_lt (by norm_num))
  · exact fits64_of_abs_lt (hsub.trans_lt (by norm_num))
  · exact fits64_of_abs_lt (hsub'.trans_lt (by norm_num))
  · exact fits64_of_abs_lt ((abs_shifted_lt hsub).trans (by norm_num))
  · exact fits64_of_abs_lt ((abs_shifted_lt hsub').trans (by norm_num))
  · exact fits64_of_abs_lt (((abs_tdiv_le _ m).trans_lt (abs_shifted_lt hsub)).trans (by norm_num))
  · exact fits64_of_abs_lt (((abs_tdiv_le _ l).trans_lt (abs_shifted_lt hsub')).trans (by norm_num))
  · exact fits64_of_abs_lt ((abs_mul_rate_le hl hadjust).trans_lt (by norm_num))
  · exact hscale hl hadjust
  · exact fits64_of_abs_lt ((abs_mul_rate_le hm hinv).trans_lt (by norm_num))
  · exact hscale hm hinv

end CloseIntervals

lemma FirstRate.stored (h : FirstRate s masterTs localTs l m) (hclose : CloseIntervals l m) :
    (updateAdjust masterTs localTs s).1.gPtpAdjust = measuredOffset l m ∧
      (updateAdjust masterTs localTs s).1.gInvPtpAdjust = measuredOffset m l := by
  have hmaster : ptpTimestampDiff masterTs s.prevAdjustMasterTs = m := by
    rw [ptpTimestampDiff_eq, h.masterInterval_eq]
    exact s64_eq (hclose.fits_rateSteps m (by simp [rateSteps]))
  have haccepted := h.accepted
  have hinverse : |l - m| ≤ 50000 := by
    rw [abs_sub_comm]
    exact hclose.abs_sub_le
  have hwords : s32 (measuredOffset l m) = measuredOffset l m ∧
      s32 (measuredOffset m l) = measuredOffset m l :=
    ⟨s32_eq (fits32_of_abs_lt (hclose.abs_offset_lt.trans (by norm_num))),
      s32_eq (fits32_of_abs_lt (hclose.abs_invOffset_lt.trans (by norm_num)))⟩
  unfold updateAdjust applyAdjust at haccepted ⊢
  simp only [h.prev, h.reset, h.localInterval_eq, hmaster, rateOffset_eq hclose.abs_sub_le,
    rateOffset_eq hinverse, hwords.1, hwords.2, if_true, Bool.false_eq_true, if_false]
    at haccepted ⊢
  split_ifs at haccepted ⊢
  exact ⟨rfl, rfl⟩

end

/-- **A measured rate.**  For every second measurement after a reset that `update_adjust` accepts,
with the rates that it stores: nothing overflows, and the interval of the master is converted to
the local one up to two ticks.  The local one is converted to that of the master up to 2 ns if the
square of their difference, in units of the interval, and the roundings stay below that, and not
if the square alone is above it. -/
theorem rate_reproduced (s : PtpState) (masterTs : PtpTimestamp) (localTs : ℕ) (l m : ℤ)
    (hrate : FirstRate s masterTs localTs l m) (hclose : CloseIntervals l m) :
    let s' := (updateAdjust masterTs localTs s).1
    (∀ v ∈ rateSteps l m s'.gPtpAdjust s'.gInvPtpAdjust, Fits64 v) ∧
      ReproducesLocal l m s'.gInvPtpAdjust ∧
      (2 ^ 35 * (m - l) ^ 2 + 33 * (l * m) ≤ 2 ^ 36 * m → ReproducesPtp l m s'.gPtpAdjust) ∧
      (2 ^ 36 * m + l * m ≤ 2 ^ 35 * (m - l) ^ 2 → ¬ ReproducesPtp l m s'.gPtpAdjust) := by
  obtain ⟨hadjust, hinv⟩ := hrate.stored hclose
  dsimp only
  rw [hadjust, hinv]
  exact ⟨hclose.fits_rateSteps, hclose.reproducesLocal, hclose.reproducesPtp,
    hclose.not_reproducesPtp⟩

def firstMeasured : PtpState := (updateAdjust ⟨7, 0, 0⟩ 100 (setNewRole 0 .slave coldPort)).1

theorem rate_reproduced_125ms : ReproducesLocal 125000000 125012500
        (updateAdjust ⟨7, 0, 125012500⟩ 12500100 firstMeasured).1.gInvPtpAdjust ∧
      ReproducesPtp 125000000 125012500
        (updateAdjust ⟨7, 0, 125012500⟩ 12500100 firstMeasured).1.gPtpAdjust := by
  have hrate : FirstRate firstMeasured ⟨7, 0, 125012500⟩ 12500100 125000000 125012500 :=
    ⟨by decide +kernel, by decide +kernel, by decide +kernel, by decide +kernel, by decide +kernel⟩
  have hclose : CloseIntervals 125000000 125012500 := ⟨by decide, by decide, by decide, by decide⟩
  obtain ⟨-, hlocal, hptp, -⟩ := rate_reproduced firstMeasured _ _ _ _ hrate hclose
  exact ⟨hlocal, hptp (by norm_num)⟩

theorem rate_not_reproduced_500ms :
    FirstRate firstMeasured ⟨7, 0, 500050000⟩ 50000100 500000000 500050000 ∧
      CloseIntervals 500000000 500050000 ∧
      localTimeToPtpTime 50000000
          (updateAdjust ⟨7, 0, 500050000⟩ 50000100 firstMeasured).1.gPtpAdjust = 500049994 ∧
      ¬ ReproducesPtp 500000000 500050000
        (updateAdjust ⟨7, 0, 500050000⟩ 50000100 firstMeasured).1.gPtpAdjust := by
  refine ⟨⟨by decide +kernel, by decide +kernel, by decide +kernel, by decide +kernel,
    by decide +kernel⟩, ⟨by decide, by decide, by decide, by decide⟩, by decide +kernel, ?_⟩
  unfold ReproducesPtp
  decide +kernel
