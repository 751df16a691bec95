/-
# The clock of the path delay, and its average

A responder stamps a Pdelay request and its own answer with a clock that adds up the ticks between
the calls of `local_to_epoch_ts`.  A call that finds a counter that is not above the last reading
takes it to have wrapped around, and adds one tick less than have passed: a wrap loses a tick, and
two equal readings count as almost a full turn of the counter.
-/
import LibTsn.GptpTimestamps

/-! ## The epoch clock -/

def countedTicks (a b : ℕ) : ℕ := if b ≤ a then ((2 ^ 32 - 1 - a) + b) % 2 ^ 32 else b - a

def readings (τ : ℕ → ℕ) (k : ℕ) : ℕ := τ k % 2 ^ 32

structure Successive (τ : ℕ → ℕ) : Prop where
  mono : Monotone τ
  close : ∀ k, τ (k + 1) < τ k + 2 ^ 32

/-- The nanoseconds that the `k`-th call of `local_to_epoch_ts` returns. -/
def epochTime (s : PtpState) (τ : ℕ → ℕ) (k : ℕ) : ℕ :=
  (localToEpochTs (readings τ k)
    (Run.stateAt (fun s t => (localToEpochTs t s).1) s (readings τ) k)).2.totalNanoseconds

section

variable {s : PtpState} {τ : ℕ → ℕ}

lemma totalNanoseconds_localToEpochTs (t : ℕ) (s : PtpState) :
    (localToEpochTs t s).2.totalNanoseconds =
      (localToEpochTs t s).1.pdelayEpochTimer * 10 % 2 ^ 64 := by
  unfold PtpTimestamp.totalNanoseconds localToEpochTs
  rw [PtpTimestamp.sec_words]
  exact Nat.div_add_mod' _ _

lemma pdelayEpochTimer_localToEpochTs (t : ℕ) (s : PtpState) :
    (localToEpochTs t s).1.pdelayEpochTimer =
      (s.pdelayEpochTimer + countedTicks s.prevPdelayLocalTs t) % 2 ^ 64 := by
  unfold localToEpochTs countedTicks
  split_ifs <;> rfl

lemma epochTime_succ (s : PtpState) (τ : ℕ → ℕ) (k : ℕ) : epochTime s τ (k + 1) =
      (epochTime s τ k + countedTicks (readings τ k) (readings τ (k + 1)) * 10) % 2 ^ 64 := by
  unfold epochTime
  rw [totalNanoseconds_localToEpochTs, totalNanoseconds_localToEpochTs,
    pdelayEpochTimer_localToEpochTs]
  have hlast : (Run.stateAt (fun s t => (localToEpochTs t s).1) s (readings τ)
      (k + 1)).prevPdelayLocalTs = readings τ k := rfl
  have htimer : (Run.stateAt (fun s t => (localToEpochTs t s).1) s (readings τ)
      (k + 1)).pdelayEpochTimer = (localToEpochTs (readings τ k) (Run.stateAt
        (fun s t => (localToEpochTs t s).1) s (readings τ) k)).1.pdelayEpochTimer := rfl
  rw [hlast, htimer]
  omega

lemma countedTicks_eq_iff (h : Successive τ) (k : ℕ) :
    countedTicks (readings τ k) (readings τ (k + 1)) = τ (k + 1) - τ k ↔
      readings τ k < readings τ (k + 1) := by
  have hmono : τ k ≤ τ (k + 1) := h.mono (Nat.le_succ k)
  have hclose := h.close k
  unfold countedTicks readings
  split_ifs <;> omega

lemma countedTicks_lt (a b : ℕ) (hb : b < 2 ^ 32) : countedTicks a b < 2 ^ 32 := by
  unfold countedTicks
  split_ifs <;> omega

lemma epochTime_lt (s : PtpState) (τ : ℕ → ℕ) (k : ℕ) : epochTime s τ k < 2 ^ 64 := by
  unfold epochTime
  rw [totalNanoseconds_localToEpochTs]
  exact Nat.mod_lt _ (by decide)

lemma counted_of_exact {time counted passed : ℕ} (hcounted : counted < 2 ^ 32)
    (hpassed : passed < 2 ^ 32) (h : time + 10 * passed = (time + counted * 10) % 2 ^ 64) :
    counted = passed := by
  have hmod : time + 10 * passed ≡ time + counted * 10 [MOD 2 ^ 64] := by
    rw [h]
    exact Nat.mod_modEq _ _
  clear h
  have heq : 10 * passed = counted * 10 :=
    (Nat.ModEq.add_left_cancel' time hmod).eq_of_lt_of_lt (by omega) (by omega)
  omega

lemma growing_of_exact (h : Successive τ) {k : ℕ}
    (hexact : epochTime s τ (k + 1) = epochTime s τ k + 10 * (τ (k + 1) - τ k)) :
    readings τ k < readings τ (k + 1) := by
  have hpassed : τ (k + 1) - τ k < 2 ^ 32 :=
    Nat.sub_lt_left_of_lt_add (h.mono (Nat.le_succ k)) (h.close k)
  rw [epochTime_succ] at hexact
  refine (countedTicks_eq_iff h k).mp (counted_of_exact ?_ hpassed hexact.symm)
  exact countedTicks_lt _ _ (Nat.mod_lt _ (by decide))

/-- **Run.**  While the readings grow, the clock is exact modulo its width. -/
theorem epochTime_of_growing (h : Successive τ) {n : ℕ}
    (hgrows : ∀ k < n, readings τ k < readings τ (k + 1)) :
    epochTime s τ n = (epochTime s τ 0 + 10 * (τ n - τ 0)) % 2 ^ 64 := by
  induction n with
  | zero =>
    have hlt := epochTime_lt s τ 0
    omega
  | succ n ih =>
    have hrest := ih fun k hk => hgrows k (hk.trans (Nat.lt_succ_self n))
    have hcounted := (countedTicks_eq_iff h n).mpr (hgrows n (Nat.lt_succ_self n))
    have hmono : τ n ≤ τ (n + 1) := h.mono (Nat.le_succ n)
    have hfirst := h.mono (Nat.zero_le n)
    rw [epochTime_succ, hrest, hcounted, Nat.mod_add_mod]
    refine congrArg (· % 2 ^ 64) ?_
    omega

end

/-- **The epoch clock.**  Over any sequence of calls the time that is returned goes on by ten
nanoseconds a tick if and only if each reading is above the one before, and the time fits. -/
theorem epoch_clock_exact_iff (s : PtpState) (τ : ℕ → ℕ) (h : Successive τ) (n : ℕ) :
    (∀ k ≤ n, epochTime s τ k = epochTime s τ 0 + 10 * (τ k - τ 0)) ↔
      (∀ k < n, readings τ k < readings τ (k + 1)) ∧
        epochTime s τ 0 + 10 * (τ n - τ 0) < 2 ^ 64 := by
  constructor
  · intro hexact
    refine ⟨fun k hk => growing_of_exact (s := s) h ?_, ?_⟩
    · have hmono : τ k ≤ τ (k + 1) := h.mono (Nat.le_succ k)
      have hfirst := h.mono (Nat.zero_le k)
      rw [hexact (k + 1) hk, hexact k hk.le]
      omega
    · rw [← hexact n (le_refl n)]
      exact epochTime_lt s τ n
  · rintro ⟨hgrows, hfits⟩ k hk
    rw [epochTime_of_growing h fun j hj => hgrows j (hj.trans_le hk)]
    have hmono := h.mono hk
    exact Nat.mod_eq_of_lt (by omega)

theorem epoch_clock_exact_early :
    epochTime coldPort (3 * ·) 100 = epochTime coldPort (3 * ·) 0 + 10 * (3 * 100 - 3 * 0) :=
  (epoch_clock_exact_iff coldPort (3 * ·) ⟨fun _ _ h => Nat.mul_le_mul_left 3 h, fun k => by omega⟩
    100).mpr (by decide +kernel) 100 le_rfl

def aroundWrap (k : ℕ) : ℕ := if k = 0 then 2 ^ 32 - 10 else 2 ^ 32 + 5

/-- Over a wrap 15 ticks are counted as 14, also in the turnaround that is sent to the neighbour;
two equal readings are 42.9 s apart. -/
theorem epoch_clock_drifts : Successive aroundWrap ∧
      epochTime coldPort aroundWrap 1 = epochTime coldPort aroundWrap 0 + 140 ∧
      epochTime coldPort aroundWrap 2 = epochTime coldPort aroundWrap 1 + 42949672950 ∧
      (sendPtpPdelayRespMsg (neighbourMessage 2 5) (2 ^ 32 - 10) 5 coldPort).2 =
        [.pdelayResp 5 (Vector.replicate 10 2) ⟨42, 0, 949672860⟩,
          .pdelayRespFollowUp 5 ⟨42, 0, 949673000⟩] := by
  refine ⟨⟨?_, ?_⟩, by decide +kernel, by decide +kernel, by decide +kernel⟩
  · intro i j hij
    unfold aroundWrap
    split_ifs <;> omega
  · intro k
    unfold aroundWrap
    split_ifs <;> omega

/-! ## The average -/

def exchangeDelay (ticks : ℕ) (ptpAdjust turnaround : ℤ) : ℤ :=
  max 0 ((10 * ticks + 10 * ticks * ptpAdjust / 2 ^ 30 - turnaround).tdiv 2)

variable {ticks : ℕ} (egress : ℕ)

lemma roundTrip_eq (h : ticks < 2 ^ 31) :
    u32 (s32 (s32 ((egress + ticks) % 2 ^ 32 : ℕ) - s32 egress)) = ticks := by
  unfold u32 s32
  omega

lemma fits64_roundTrip {correction turnaround : ℤ} (hticks : ticks < 2 ^ 31)
    (hcorrection : |correction| < 2 ^ 56) (hturnaround : |turnaround| < 2 ^ 62) :
    Fits64 (10 * ticks + correction / 2 ^ 30 - turnaround) := by
  obtain ⟨hlow, hhigh⟩ := abs_lt.mp hcorrection
  obtain ⟨hlow', hhigh'⟩ := abs_lt.mp hturnaround
  constructor <;> omega

lemma measuredDelay_eq {masterIngressTs masterEgressTs : PtpTimestamp} {ptpAdjust : ℤ}
    (hticks : ticks < 2 ^ 31) (hadjust : |ptpAdjust| < 2 ^ 20)
    (hmaster :
      |(masterEgressTs.totalNanoseconds : ℤ) - masterIngressTs.totalNanoseconds| < 2 ^ 62) :
    measuredDelay masterIngressTs masterEgressTs egress ((egress + ticks) % 2 ^ 32) ptpAdjust =
      exchangeDelay ticks ptpAdjust
        (masterEgressTs.totalNanoseconds - masterIngressTs.totalNanoseconds) := by
  have hturn : ptpTimestampDiff masterEgressTs masterIngressTs =
      masterEgressTs.totalNanoseconds - masterIngressTs.totalNanoseconds := by
    rw [ptpTimestampDiff_eq]
    exact s64_eq (fits64_of_abs_lt (hmaster.trans (by norm_num)))
  have hcorrection := abs_correction_lt (d := ticks) (by omega) (by omega) hadjust
  unfold measuredDelay exchangeDelay
  rw [roundTrip_eq egress hticks, hturn, localTimeToPtpTime_eq (by omega) hadjust]
  dsimp only
  rw [s64_eq (fits64_roundTrip hticks hcorrection hmaster)]

lemma average_between {p : ℕ} {d : ℤ} (hp : p < 2 ^ 27) (hd : 0 ≤ d) (hd' : d < 2 ^ 27) :
    min (p : ℤ) d ≤ (u32 (p * 31 + s32 d) / 32 : ℕ) ∧
      ((u32 (p * 31 + s32 d) / 32 : ℕ) : ℤ) ≤ max (p : ℤ) d := by
  have hsum : u32 (p * 31 + s32 d) = p * 31 + d.toNat := by
    rw [s32_eq ⟨by omega, by omega⟩]
    unfold u32
    omega
  rw [hsum]
  rcases le_total (p : ℤ) d with hle | hle
  · rw [min_eq_left hle, max_eq_right hle]
    omega
  · rw [min_eq_right hle, max_eq_left hle]
    omega

/-- **The average path delay.**  After an exchange the average is between the average so far and
the delay of the exchange, and without an average so far it is that delay. -/
theorem path_delay_between (s : PtpState) (masterIngressTs masterEgressTs : PtpTimestamp)
    (localEgressTs ticks : ℕ) (hp : s.delayInfo.pdelay < 2 ^ 27)
    (hadjust : |s.gPtpAdjust| < 2 ^ 20) (hticks : ticks < 2 ^ 31)
    (hmaster : |(masterEgressTs.totalNanoseconds : ℤ) - masterIngressTs.totalNanoseconds| < 2 ^ 62)
    (hd : exchangeDelay ticks s.gPtpAdjust
      (masterEgressTs.totalNanoseconds - masterIngressTs.totalNanoseconds) < 2 ^ 27) :
    let d := exchangeDelay ticks s.gPtpAdjust
      (masterEgressTs.totalNanoseconds - masterIngressTs.totalNanoseconds)
    let s' := updatePathDelay masterIngressTs masterEgressTs localEgressTs
      ((localEgressTs + ticks) % 2 ^ 32) s
    if s.delayInfo.valid then
      min (s.delayInfo.pdelay : ℤ) d ≤ s'.delayInfo.pdelay ∧
        (s'.delayInfo.pdelay : ℤ) ≤ max (s.delayInfo.pdelay : ℤ) d
    else (s'.delayInfo.pdelay : ℤ) = d := by
  intro d s'
  have hd₀ : 0 ≤ d := le_max_left _ _
  have hstored : s'.delayInfo = averagePathDelay s.delayInfo d :=
    congrArg (averagePathDelay s.delayInfo) (measuredDelay_eq localEgressTs hticks hadjust hmaster)
  rw [hstored]
  unfold averagePathDelay
  split_ifs with hvalid
  · exact average_between hp hd₀ hd
  · show ((u32 d : ℕ) : ℤ) = d
    unfold u32
    omega

def averagedPort : PtpState :=
  { coldPort with delayInfo := { coldPort.delayInfo with valid := true, pdelay := 5000 } }

theorem path_delay_over_wrap :
    let s' := updatePathDelay ⟨2, 0, 0⟩ ⟨2, 0, 5000⟩ (2 ^ 32 - 1) 999 averagedPort
    exchangeDelay 1000 0 5000 = 2500 ∧ s'.delayInfo.pdelay = 4921 ∧
      min (5000 : ℤ) (exchangeDelay 1000 0 5000) ≤ s'.delayInfo.pdelay ∧
      (s'.delayInfo.pdelay : ℤ) ≤ max (5000 : ℤ) (exchangeDelay 1000 0 5000) :=
  ⟨by decide +kernel, by decide +kernel,
    path_delay_between averagedPort ⟨2, 0, 0⟩ ⟨2, 0, 5000⟩ (2 ^ 32 - 1) 1000 (by decide +kernel)
      (by decide +kernel) (by decide) (by decide +kernel) (by decide +kernel)⟩
