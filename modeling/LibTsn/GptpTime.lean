/-
# Conversions between local time and PTP time

The local clock counts 10 ns ticks in a 32-bit word.  `ptpAdjust` is the rate
offset between the two clocks, a fixed-point number with 30 fractional bits.
-/
import LibTsn.Bytes
import LibTsn.MachineInt

structure PtpTimeInfoMod64 where
  localTs : ℕ
  ptpTsHi : ℕ
  ptpTsLo : ℕ
  ptpAdjust : ℤ
  invPtpAdjust : ℤ
  deriving DecidableEq, Repr

def localTimestampToPtpMod32 (localTs : ℕ) (info : PtpTimeInfoMod64) : ℕ :=
  let localDiff := s32 (s32 localTs - s32 info.localTs)
  let localDiff := s64 (localDiff * 10)
  let localDiff := s64 (localDiff + s64 (localDiff * info.ptpAdjust) / 2 ^ 30)
  u32 (info.ptpTsLo + s32 localDiff)

/-! ## Timestamps -/

structure PtpTimestamp where
  seconds0 : ℕ
  seconds1 : ℕ
  nanoseconds : ℕ
  deriving DecidableEq, Repr

def nanosecondsPerSecond : ℕ := 1000000000

def PtpTimestamp.sec (ts : PtpTimestamp) : ℕ := ts.seconds0 ||| (ts.seconds1 <<< 32)

lemma PtpTimestamp.sec_words (x nanoseconds : ℕ) :
    PtpTimestamp.sec ⟨x % 2 ^ 32, x >>> 32, nanoseconds⟩ = x := by
  have hlow : x % 2 ^ 32 < 2 ^ 32 := Nat.mod_lt _ (by decide)
  show x % 2 ^ 32 ||| (x >>> 32) <<< 32 = x
  rw [Nat.or_comm, ← Nat.shiftLeft_add_eq_or_of_lt hlow, Nat.shiftLeft_eq,
    Nat.shiftRight_eq_div_pow]
  omega

/-- `ptp_timestamp_offset64`.  The nanoseconds are an unsigned 64-bit number. -/
def ptpTimestampOffset64 (ts : PtpTimestamp) (offset : ℤ) : PtpTimestamp :=
  let nanosec := u64 (ts.nanoseconds + offset)
  let sec := (ts.sec + nanosec / nanosecondsPerSecond) % 2 ^ 64
  ⟨sec % 2 ^ 32, sec >>> 32, nanosec % nanosecondsPerSecond⟩

def ptpTimestampDiff (a b : PtpTimestamp) : ℤ :=
  let secDiff := s64 (a.sec - b.sec)
  let nanosecDiff := s64 (a.nanoseconds - b.nanoseconds)
  s64 (nanosecDiff + s64 (secDiff * nanosecondsPerSecond))

def localTimeToPtpTime (t : ℕ) (ptpAdjust : ℤ) : ℤ :=
  let ret := s64 (t * 10)
  s64 (ret + s64 (ret * ptpAdjust) / 2 ^ 30)

lemma abs_correction_lt {d adjust : ℤ} (hlow : -2 ^ 32 ≤ d) (hhigh : d ≤ 2 ^ 32)
    (hadjust : |adjust| < 2 ^ 20) : |10 * d * adjust| < 2 ^ 56 := by
  have hticks : |10 * d| ≤ 10 * 2 ^ 32 := by
    rw [abs_le]
    constructor <;> omega
  calc |10 * d * adjust|
      = |10 * d| * |adjust| := abs_mul _ _
    _ ≤ (10 * 2 ^ 32) * 2 ^ 20 := mul_le_mul hticks hadjust.le (abs_nonneg _) (by norm_num)
    _ < 2 ^ 56 := by norm_num

lemma scaledTicks_eq {d adjust : ℤ} (hlow : -2 ^ 32 ≤ d) (hhigh : d ≤ 2 ^ 32)
    (hadjust : |adjust| < 2 ^ 20) : s64 (s64 (d * 10) + s64 (s64 (d * 10) * adjust) / 2 ^ 30) =
      10 * d + 10 * d * adjust / 2 ^ 30 := by
  have hbound := abs_lt.mp (abs_correction_lt hlow hhigh hadjust)
  have hticks : s64 (d * 10) = 10 * d := by
    unfold s64
    omega
  rw [hticks]
  generalize 10 * d * adjust = correction at hbound ⊢
  unfold s64
  omega

lemma localTimeToPtpTime_eq {d : ℕ} {adjust : ℤ} (hd : d ≤ 2 ^ 32) (hadjust : |adjust| < 2 ^ 20) :
    localTimeToPtpTime d adjust = 10 * d + 10 * d * adjust / 2 ^ 30 :=
  scaledTicks_eq (by omega) (by omega) hadjust

def networkToPtpTimestamp (msg : Vector UInt8 10) : PtpTimestamp :=
  ⟨beNat ((msg.toList.drop 2).take 4), beNat (msg.toList.take 2) <<< 16,
    beNat (msg.toList.drop 6)⟩
