/-
# Moving the reference

PTP time is counted from a reference, a local time with the PTP time that belongs to it.  When no
Sync comes, `periodic_update_reference_timestamps` moves the reference every five seconds, so that
the distance to it stays below half a turn of the local counter.
-/
import LibTsn.GptpRate

def ptpAfter (s : PtpState) (t₀ d : ℕ) : PtpTimestamp := localToPtpTs s ((t₀ + d) % 2 ^ 32)

def referenceDistance (s : PtpState) (t : ℕ) : ℤ := s32 ((t : ℤ) - s.ptpReferenceLocalTs)

section

variable {s : PtpState} {t₀ d e : ℕ} {a : ℤ}

lemma rate_nonneg (ha : |a| < 2 ^ 20) : 0 ≤ 2 ^ 30 + a := by
  have := (abs_lt.mp ha).1
  omega

lemma scale_ticks_nonneg (ha : |a| < 2 ^ 20) (n : ℕ) : 0 ≤ scale 30 a (10 * n) := by
  have hmono := scale_mono (k := 30) (rate_nonneg ha) (show (0 : ℤ) ≤ 10 * n by omega)
  rwa [scale_zero] at hmono

lemma scale_ticks_lt (ha : |a| < 2 ^ 20) {n : ℕ} (hn : n < 2 ^ 56) :
    scale 30 a (10 * n) < 2 ^ 60 := by
  have hx : |10 * (n : ℤ)| ≤ 10 * 2 ^ 46 * 2 ^ 10 := by
    rw [abs_le]
    constructor <;> omega
  have hnear := (abs_le.mp (abs_scale_sub_le hx ha)).2
  omega

/-! ## Before and after a move -/

lemma exists_s32_eq (x : ℤ) : ∃ k, s32 x = x + 4294967296 * k := by
  refine ⟨-((x + 2147483648) / 4294967296), ?_⟩
  unfold s32
  omega

lemma ticks_since_reference {n : ℕ} (hdistance : referenceDistance s t₀ = n) (hd : n + d < 2 ^ 31) :
    u32 (s32 ((t₀ + d) % 2 ^ 32 : ℕ) - s32 s.ptpReferenceLocalTs) = n + d := by
  obtain ⟨k, hk⟩ := exists_s32_eq ((t₀ + d) % 2 ^ 32 : ℕ)
  obtain ⟨l, hl⟩ := exists_s32_eq s.ptpReferenceLocalTs
  obtain ⟨m, hm⟩ := exists_s32_eq (t₀ - s.ptpReferenceLocalTs)
  unfold referenceDistance at hdistance
  have hword := Nat.div_add_mod (t₀ + d) (2 ^ 32)
  have hsum : s32 ((t₀ + d) % 2 ^ 32 : ℕ) - s32 s.ptpReferenceLocalTs
      = ((n + d : ℕ) : ℤ) + 4294967296 * (k - l - m - ((t₀ + d) / 2 ^ 32 : ℕ)) := by
    rw [hk, hl]
    push_cast
    omega
  rw [hsum, u32, Int.add_mul_emod_self_left, Int.emod_eq_of_lt (by omega) (by omega)]
  exact Int.toNat_natCast _

lemma ptpAfter_eq (hadjust : |s.gPtpAdjust| < 2 ^ 20) {n : ℕ}
    (hdistance : referenceDistance s t₀ = n) (hd : n + d < 2 ^ 31) :
    ptpAfter s t₀ d = ptpTimestampOffset64 s.ptpReferencePtpTs
      (scale 30 s.gPtpAdjust (10 * (n + d : ℕ))) := by
  unfold ptpAfter localToPtpTs localTimestampToPtp
  dsimp only
  rw [ticks_since_reference hdistance hd, localTimeToPtpTime_eq (by omega) hadjust]
  rfl

lemma reference_moved (hadjust : |s.gPtpAdjust| < 2 ^ 20) {n : ℕ}
    (hdistance : referenceDistance s t₀ = n) (hmoves : updateReferenceTimestampPeriod < n) :
    (periodicUpdateReferenceTimestamps t₀ s).ptpReferenceLocalTs = t₀ ∧
      (periodicUpdateReferenceTimestamps t₀ s).gPtpAdjust = s.gPtpAdjust ∧
      (periodicUpdateReferenceTimestamps t₀ s).ptpReferencePtpTs =
        ptpTimestampOffset64 s.ptpReferencePtpTs (scale 30 s.gPtpAdjust (10 * n)) := by
  have hn : (n : ℤ) < 2 ^ 31 := by
    rw [← hdistance]
    unfold referenceDistance s32
    omega
  have hticks : localTimeToPtpTime n s.gPtpAdjust = scale 30 s.gPtpAdjust (10 * n) :=
    localTimeToPtpTime_eq (by omega) hadjust
  unfold referenceDistance at hdistance
  unfold periodicUpdateReferenceTimestamps
  dsimp only
  rw [hdistance, if_pos hmoves]
  refine ⟨rfl, rfl, ?_⟩
  rw [Int.toNat_natCast, hticks]

lemma ptpAfter_moved (hns : s.ptpReferencePtpTs.nanoseconds < 2 ^ 32)
    (hadjust : |s.gPtpAdjust| < 2 ^ 20) {n : ℕ} (hdistance : referenceDistance s t₀ = n)
    (hmoves : updateReferenceTimestampPeriod < n) (hd : n + d < 2 ^ 31) :
    ptpAfter (periodicUpdateReferenceTimestamps t₀ s) t₀ d =
      ptpTimestampOffset64 s.ptpReferencePtpTs
        (scale 30 s.gPtpAdjust (10 * n) + scale 30 s.gPtpAdjust (10 * d)) := by
  obtain ⟨hlocal, hrate, hptp⟩ := reference_moved hadjust hdistance hmoves
  have hzero : referenceDistance (periodicUpdateReferenceTimestamps t₀ s) t₀ = (0 : ℕ) := by
    rw [referenceDistance, hlocal, sub_self]
    decide
  rw [ptpAfter_eq (by rwa [hrate]) hzero (by omega), hrate, hptp, Nat.zero_add]
  exact ptpTimestampOffset64_offset64 hns (scale_ticks_nonneg hadjust n)
    (scale_ticks_lt hadjust (by omega)) (scale_ticks_nonneg hadjust d)
    (scale_ticks_lt hadjust (by omega))

lemma abs_moved_sub_le (a : ℤ) (n d : ℕ) :
    |scale 30 a (10 * n) + scale 30 a (10 * d) - scale 30 a (10 * (n + d : ℕ))| ≤ 1 := by
  have hlow := le_scale_add 30 a (10 * n) (10 * d)
  have hhigh := scale_add_le 30 a (10 * n) (10 * d)
  have hsum : (10 * (n + d : ℕ) : ℤ) = 10 * n + 10 * d := by
    push_cast
    ring
  rw [hsum, abs_le]
  constructor <;> omega

end

/-! ## PTP time is kept -/

structure TimeKept (before after : ℕ → PtpTimestamp) (n : ℕ) : Prop where
  close : ∀ d < n, |ptpTimestampDiff (after d) (before d)| ≤ 1
  mono : ∀ d e, d ≤ e → e < n → 0 ≤ ptpTimestampDiff (before e) (before d)
  mono_after : ∀ d e, d ≤ e → e < n → 0 ≤ ptpTimestampDiff (after e) (after d)

structure TotalKept (before after : ℕ → PtpTimestamp) (n : ℕ) : Prop where
  close : ∀ d < n, |((after d).totalNanoseconds : ℤ) - (before d).totalNanoseconds| ≤ 1
  mono : ∀ d e, d ≤ e → e < n → (before d).totalNanoseconds ≤ (before e).totalNanoseconds
  mono_after : ∀ d e, d ≤ e → e < n → (after d).totalNanoseconds ≤ (after e).totalNanoseconds

section

variable {ts : PtpTimestamp} {before after : ℕ → PtpTimestamp} {f g : ℕ → ℤ} {n : ℕ}

structure CountFrom (ts : PtpTimestamp) (time : ℕ → PtpTimestamp) (f : ℕ → ℤ) (n : ℕ) : Prop where
  time_eq : ∀ d < n, time d = ptpTimestampOffset64 ts (f d)
  nonneg : ∀ d < n, 0 ≤ f d
  small : ∀ d < n, f d < 2 ^ 60
  mono : ∀ d e, d ≤ e → e < n → f d ≤ f e

lemma CountFrom.mono_diff (h : CountFrom ts before f n) (hns : ts.nanoseconds < 2 ^ 32)
    (d e : ℕ) (hde : d ≤ e) (he : e < n) : 0 ≤ ptpTimestampDiff (before e) (before d) := by
  have hd := lt_of_le_of_lt hde he
  rw [h.time_eq e he, h.time_eq d hd, ptpTimestampDiff_offset64 ts hns (h.nonneg e he)
    (h.small e he) (h.nonneg d hd) (h.small d hd)]
  exact sub_nonneg.mpr (h.mono d e hde he)

lemma CountFrom.total (h : CountFrom ts before f n) (hns : ts.nanoseconds < 2 ^ 32)
    (hsec : ts.sec < 2 ^ 62) {d : ℕ} (hd : d < n) :
    ((before d).totalNanoseconds : ℤ) = ts.totalNanoseconds + f d := by
  have hnonneg := h.nonneg d hd
  have hsmall := h.small d hd
  rw [h.time_eq d hd, totalNanoseconds_offset64_word (hsec.trans (by norm_num))]
  unfold PtpTimestamp.totalNanoseconds u64
  push_cast
  omega

lemma timeKept_of_counts (hbefore : CountFrom ts before f n) (hafter : CountFrom ts after g n)
    (hclose : ∀ d < n, |g d - f d| ≤ 1) (hns : ts.nanoseconds < 2 ^ 32) :
    TimeKept before after n := by
  refine ⟨fun d hd => ?_, hbefore.mono_diff hns, hafter.mono_diff hns⟩
  rw [hafter.time_eq d hd, hbefore.time_eq d hd, ptpTimestampDiff_offset64 ts hns
    (hafter.nonneg d hd) (hafter.small d hd) (hbefore.nonneg d hd) (hbefore.small d hd)]
  exact hclose d hd

lemma totalKept_of_counts (hbefore : CountFrom ts before f n) (hafter : CountFrom ts after g n)
    (hclose : ∀ d < n, |g d - f d| ≤ 1) (hns : ts.nanoseconds < 2 ^ 32) (hsec : ts.sec < 2 ^ 62) :
    TotalKept before after n := by
  have hmono : ∀ {time : ℕ → PtpTimestamp} {f : ℕ → ℤ}, CountFrom ts time f n →
      ∀ d e, d ≤ e → e < n → (time d).totalNanoseconds ≤ (time e).totalNanoseconds := by
    intro time f h d e hde he
    have htotal := h.total hns hsec (lt_of_le_of_lt hde he)
    have htotal' := h.total hns hsec he
    have := h.mono d e hde he
    omega
  refine ⟨fun d hd => ?_, hmono hbefore, hmono hafter⟩
  rw [hafter.total hns hsec hd, hbefore.total hns hsec hd, add_sub_add_left_eq_sub]
  exact hclose d hd

end

/-- **A move of the reference.**  For every reference and rate, and every local time `t₀` at which
`periodic_update_reference_timestamps` moves the reference: for all local times from then on that
are less than `2 ^ 31` ticks after the old reference, the PTP times before and after the move
differ by at most one nanosecond, and both do not fall.  This is said of the differences, which are
taken around the end of the seconds, and of the total times for references that are not near it. -/
theorem reference_move_keeps_time (s : PtpState) (t₀ : ℕ)
    (hns : s.ptpReferencePtpTs.nanoseconds < 2 ^ 32) (hadjust : |s.gPtpAdjust| < 2 ^ 20)
    (hmoves : updateReferenceTimestampPeriod < referenceDistance s t₀) :
    TimeKept (ptpAfter s t₀) (ptpAfter (periodicUpdateReferenceTimestamps t₀ s) t₀)
        (2 ^ 31 - referenceDistance s t₀).toNat ∧
      (s.ptpReferencePtpTs.sec < 2 ^ 62 →
        TotalKept (ptpAfter s t₀) (ptpAfter (periodicUpdateReferenceTimestamps t₀ s) t₀)
          (2 ^ 31 - referenceDistance s t₀).toNat) := by
  obtain ⟨n, hdistance⟩ : ∃ n : ℕ, referenceDistance s t₀ = n :=
    Int.eq_ofNat_of_zero_le (by unfold updateReferenceTimestampPeriod at hmoves; omega)
  rw [hdistance] at hmoves ⊢
  have hin : ∀ d, d < ((2 : ℤ) ^ 31 - n).toNat → n + d < 2 ^ 31 := by
    intro d hd
    omega
  have hbefore : CountFrom s.ptpReferencePtpTs (ptpAfter s t₀)
      (fun d => scale 30 s.gPtpAdjust (10 * (n + d : ℕ))) ((2 : ℤ) ^ 31 - n).toNat := by
    refine ⟨fun d hd => ptpAfter_eq hadjust hdistance (hin d hd), fun d _ => ?_, fun d hd => ?_,
      fun d e hde he => ?_⟩
    · exact scale_ticks_nonneg hadjust (n + d)
    · have := hin d hd
      exact scale_ticks_lt hadjust (by omega)
    · apply scale_mono (rate_nonneg hadjust)
      omega
  have hafter : CountFrom s.ptpReferencePtpTs
      (ptpAfter (periodicUpdateReferenceTimestamps t₀ s) t₀)
      (fun d => scale 30 s.gPtpAdjust (10 * n) + scale 30 s.gPtpAdjust (10 * d))
      ((2 : ℤ) ^ 31 - n).toNat := by
    refine ⟨fun d hd => ptpAfter_moved hns hadjust hdistance hmoves (hin d hd), fun d _ => ?_,
      fun d hd => ?_, fun d e hde he => ?_⟩
    · exact add_nonneg (scale_ticks_nonneg hadjust n) (scale_ticks_nonneg hadjust d)
    · have := hin d hd
      have hboth := le_scale_add 30 s.gPtpAdjust (10 * n) (10 * d)
      have hlt := scale_ticks_lt hadjust (n := n + d) (by omega)
      push_cast at hlt
      rw [mul_add] at hlt
      omega
    · apply add_le_add_right
      apply scale_mono (rate_nonneg hadjust)
      omega
  have hclose : ∀ d < ((2 : ℤ) ^ 31 - n).toNat, |scale 30 s.gPtpAdjust (10 * n) +
      scale 30 s.gPtpAdjust (10 * d) - scale 30 s.gPtpAdjust (10 * (n + d : ℕ))| ≤ 1 :=
    fun d _ => abs_moved_sub_le s.gPtpAdjust n d
  exact ⟨timeKept_of_counts hbefore hafter hclose hns,
    totalKept_of_counts hbefore hafter hclose hns⟩

theorem reference_moved_after_six_seconds : TimeKept (ptpAfter coldPort 600000000)
      (ptpAfter (periodicUpdateReferenceTimestamps 600000000 coldPort) 600000000) 1547483648 :=
  (reference_move_keeps_time coldPort 600000000 (by decide) (by decide +kernel)
    (by decide +kernel)).1
