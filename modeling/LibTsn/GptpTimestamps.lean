/-
# PTP timestamps

Arithmetic on timestamps of seconds and nanoseconds, and the ten bytes in which a message carries
them.
-/
import LibTsn.GptpConversions

/-! ## Offset and difference -/

section

variable {ts : PtpTimestamp} {offset : ℤ}

lemma nanoseconds_offset64_lt (ts : PtpTimestamp) (offset : ℤ) :
    (ptpTimestampOffset64 ts offset).nanoseconds < nanosecondsPerSecond :=
  Nat.mod_lt _ (by decide)

lemma totalNanoseconds_offset64_word (hsec : ts.sec < 2 ^ 63) (offset : ℤ) :
    (ptpTimestampOffset64 ts offset).totalNanoseconds =
      ts.sec * nanosecondsPerSecond + u64 (ts.nanoseconds + offset) := by
  have hword : u64 (ts.nanoseconds + offset) < 2 ^ 64 := by
    unfold u64
    omega
  unfold PtpTimestamp.totalNanoseconds
  rw [sec_ptpTimestampOffset64]
  show (ts.sec + u64 (ts.nanoseconds + offset) / nanosecondsPerSecond) % 2 ^ 64 *
    nanosecondsPerSecond + u64 (ts.nanoseconds + offset) % nanosecondsPerSecond = _
  generalize u64 (ts.nanoseconds + offset) = word at hword ⊢
  unfold nanosecondsPerSecond
  omega

lemma totalNanoseconds_offset64_eq (hsec : ts.sec < 2 ^ 48) (hns : ts.nanoseconds < 2 ^ 32)
    (hoffset : |offset| < 2 ^ 62) : ((ptpTimestampOffset64 ts offset).totalNanoseconds : ℤ) =
      ts.totalNanoseconds + offset + if 0 ≤ ts.nanoseconds + offset then 0 else 2 ^ 64 := by
  obtain ⟨hlow, hhigh⟩ := abs_lt.mp hoffset
  rw [totalNanoseconds_offset64_word (hsec.trans (by norm_num))]
  unfold PtpTimestamp.totalNanoseconds nanosecondsPerSecond u64
  push_cast
  split <;> omega

lemma ptpTimestampOffset64_offset64 (hns : ts.nanoseconds < 2 ^ 32) {x y : ℤ} (hx : 0 ≤ x)
    (hx' : x < 2 ^ 60) (hy : 0 ≤ y) (hy' : y < 2 ^ 60) :
    ptpTimestampOffset64 (ptpTimestampOffset64 ts x) y = ptpTimestampOffset64 ts (x + y) := by
  have hsec := sec_ptpTimestampOffset64 ts x
  have hfirst : u64 (ts.nanoseconds + x) = ts.nanoseconds + x.toNat := by
    unfold u64
    omega
  have hsecond : u64 ((ptpTimestampOffset64 ts x).nanoseconds + y) =
      (ts.nanoseconds + x.toNat) % nanosecondsPerSecond + y.toNat := by
    show u64 ((u64 (ts.nanoseconds + x) % nanosecondsPerSecond : ℕ) + y) = _
    rw [hfirst]
    unfold u64 nanosecondsPerSecond
    omega
  have hboth : u64 (ts.nanoseconds + (x + y)) = ts.nanoseconds + x.toNat + y.toNat := by
    unfold u64
    omega
  rw [hfirst] at hsec
  have hseconds : ((ptpTimestampOffset64 ts x).sec +
      ((ts.nanoseconds + x.toNat) % nanosecondsPerSecond + y.toNat) /
        nanosecondsPerSecond) % 2 ^ 64 =
      (ts.sec + (ts.nanoseconds + x.toNat + y.toNat) / nanosecondsPerSecond) % 2 ^ 64 := by
    rw [hsec]
    unfold nanosecondsPerSecond
    omega
  rw [ptpTimestampOffset64, ptpTimestampOffset64.eq_def ts (x + y), hsecond, hboth]
  dsimp only
  rw [hseconds]
  congr 1
  unfold nanosecondsPerSecond
  omega

lemma ptpTimestampDiff_eq (a b : PtpTimestamp) :
    ptpTimestampDiff a b = s64 ((a.totalNanoseconds : ℤ) - b.totalNanoseconds) := by
  unfold ptpTimestampDiff PtpTimestamp.totalNanoseconds nanosecondsPerSecond s64
  push_cast
  omega

lemma ptpTimestampDiff_offset64_self (hsec : ts.sec < 2 ^ 48) (hns : ts.nanoseconds < 2 ^ 32)
    (hoffset : |offset| < 2 ^ 62) :
    ptpTimestampDiff (ptpTimestampOffset64 ts offset) ts = offset := by
  obtain ⟨hlow, hhigh⟩ := abs_lt.mp hoffset
  rw [ptpTimestampDiff_eq, totalNanoseconds_offset64_eq hsec hns hoffset]
  unfold s64
  split <;> omega

end

structure OffsetExact (ts : PtpTimestamp) (offset : ℤ) : Prop where
  nanoseconds : (ptpTimestampOffset64 ts offset).nanoseconds < nanosecondsPerSecond
  total : ((ptpTimestampOffset64 ts offset).totalNanoseconds : ℤ) = ts.totalNanoseconds + offset
  diff : ptpTimestampDiff (ptpTimestampOffset64 ts offset) ts = offset

/-- **Offsets.**  To every timestamp every offset is added exactly if and only if it does not take
the nanoseconds below zero. -/
theorem offset_exact_iff (ts : PtpTimestamp) (hns : ts.nanoseconds < nanosecondsPerSecond)
    (hsec : ts.sec < 2 ^ 48) (offset : ℤ) (hoffset : |offset| < 2 ^ 62) :
    OffsetExact ts offset ↔ 0 ≤ ts.nanoseconds + offset := by
  have hns' : ts.nanoseconds < 2 ^ 32 := hns.trans (by decide)
  have hresult := totalNanoseconds_offset64_eq hsec hns' hoffset
  constructor
  · intro h
    by_contra hneg
    rw [if_neg hneg, h.total] at hresult
    omega
  · intro hnonneg
    rw [if_pos hnonneg, add_zero] at hresult
    exact ⟨nanoseconds_offset64_lt ts offset, hresult,
      ptpTimestampDiff_offset64_self hsec hns' hoffset⟩

theorem offset_exact_half_second :
    OffsetExact ⟨7, 0, 600000000⟩ (-500000000) ∧ OffsetExact ⟨7, 0, 600000000⟩ 500000000 := by
  constructor
  · exact (offset_exact_iff ⟨7, 0, 600000000⟩ (by decide) (by decide) (-500000000)
      (by decide)).mpr (by decide)
  · exact (offset_exact_iff ⟨7, 0, 600000000⟩ (by decide) (by decide) 500000000
      (by decide)).mpr (by decide)

def correctedFollowUp : PtpMsg :=
  { neighbourMessage 8 5 with
    timestamp := #v[0, 0, 0, 0, 0, 7, 0, 0, 0, 0]
    correctionField := #v[0xff, 0xff, 0xff, 0xff, 0xff, 0xff, 0, 0] }

/-- Instead of one nanosecond back, the time of the master goes 584 years ahead. -/
theorem offset_below_second : ¬ OffsetExact ⟨7, 0, 0⟩ (-1) ∧
      ptpTimestampOffset64 ⟨7, 0, 0⟩ (-1) = ⟨1266874896, 4, 709551615⟩ ∧
      masterEgressTs correctedFollowUp = ⟨1266874896, 4, 709551615⟩ := by
  refine ⟨fun h => ?_, by decide, by decide +kernel⟩
  have htotal := h.total
  revert htotal
  decide

/-! ## The bytes of a timestamp -/

def wordByte (word i : ℕ) : UInt8 := UInt8.ofNat (word >>> (8 * i))

def timestampToNetwork (ts : PtpTimestamp) : Vector UInt8 10 :=
  Vector.ofFn fun i =>
    if i.val < 2 then wordByte ts.seconds1 (3 - i.val)
    else if i.val < 6 then wordByte ts.seconds0 (5 - i.val)
    else wordByte ts.nanoseconds (9 - i.val)

section

variable {ts : PtpTimestamp}

lemma toList_timestampToNetwork (ts : PtpTimestamp) : (timestampToNetwork ts).toList =
      beBytes 2 (ts.seconds1 / 2 ^ 16) ++ beBytes 4 ts.seconds0 ++ beBytes 4 ts.nanoseconds := by
  have hbyte : ∀ w i, wordByte w i = UInt8.ofNat (w / 256 ^ i) := by
    intro w i
    unfold wordByte
    rw [Nat.shiftRight_eq_div_pow, pow_mul]
    norm_num
  unfold timestampToNetwork
  simp only [hbyte]
  rw [Vector.toList_ofFn]
  simp [beBytes, List.ofFn_succ, Nat.div_div_eq_div_mul]

lemma networkToPtpTimestamp_timestampToNetwork (h : ts.Fits) :
    networkToPtpTimestamp (timestampToNetwork ts) =
      ⟨ts.seconds0, ts.seconds1 / 2 ^ 16 % 2 ^ 16 * 2 ^ 16, ts.nanoseconds⟩ := by
  have hseconds0 := h.seconds0
  have hnanoseconds := h.nanoseconds
  unfold networkToPtpTimestamp
  rw [toList_timestampToNetwork, List.append_assoc, List.take_left' (length_beBytes _ _),
    List.drop_left' (length_beBytes _ _), List.take_left' (length_beBytes _ _),
    ← List.append_assoc, List.drop_left' (by simp), beNat_beBytes, beNat_beBytes, beNat_beBytes,
    Nat.shiftLeft_eq]
  rw [PtpTimestamp.mk.injEq]
  refine ⟨?_, rfl, ?_⟩ <;> omega

lemma timestampToNetwork_networkToPtpTimestamp (msg : Vector UInt8 10) :
    timestampToNetwork (networkToPtpTimestamp msg) = msg := by
  apply Vector.toList_inj.mp
  rw [toList_timestampToNetwork]
  unfold networkToPtpTimestamp
  dsimp only
  have hupper : (beNat (msg.toList.take 2) <<< 16) / 2 ^ 16 = beNat (msg.toList.take 2) := by
    rw [Nat.shiftLeft_eq]
    omega
  have hbytes : ∀ l : List UInt8, ∀ n, l.length = n → beBytes n (beNat l) = l := by
    rintro l n rfl
    exact beBytes_beNat l
  rw [hupper, hbytes _ 2 (by simp), hbytes _ 4 (by simp), hbytes _ 4 (by simp), List.append_assoc]
  have hrest : (msg.toList.drop 2).take 4 ++ msg.toList.drop 6 = msg.toList.drop 2 := by
    have h := List.take_append_drop 4 (msg.toList.drop 2)
    rwa [List.drop_drop] at h
  rw [hrest]
  exact List.take_append_drop 2 msg.toList

end

structure CodecFaithful (ts : PtpTimestamp) : Prop where
  written : (timestampToNetwork ts).toList = beBytes 6 ts.sec ++ beBytes 4 ts.nanoseconds
  readBack : networkToPtpTimestamp (timestampToNetwork ts) = ts

/-- **The codec.**  A timestamp of 48 bits of seconds is written and read back faithfully if and
only if 32 bits are enough for its seconds; ten bytes that are read are always written back as
they were. -/
theorem codec_faithful_iff (ts : PtpTimestamp) (hfits : ts.Fits) (hsec : ts.sec < 2 ^ 48) :
    (CodecFaithful ts ↔ ts.sec < 2 ^ 32) ∧
      ∀ msg, timestampToNetwork (networkToPtpTimestamp msg) = msg := by
  have hseconds0 := hfits.seconds0
  rw [hfits.sec_eq] at hsec
  have hupper : ts.seconds1 / 2 ^ 16 = 0 := by omega
  refine ⟨⟨fun h => ?_, fun hlow => ⟨?_, ?_⟩⟩, timestampToNetwork_networkToPtpTimestamp⟩
  · -- what is read back has no upper word
    have hback := h.readBack
    rw [networkToPtpTimestamp_timestampToNetwork hfits, hupper] at hback
    have hzero : 0 = ts.seconds1 := congrArg PtpTimestamp.seconds1 hback
    rw [hfits.sec_eq]
    omega
  · rw [hfits.sec_eq] at hlow
    have hzero : ts.seconds1 = 0 := by omega
    rw [toList_timestampToNetwork, hfits.sec_eq, hzero]
    have hsmall : (ts.seconds0 + 0 * 2 ^ 32) / 256 ^ 4 = 0 := by omega
    rw [beBytes_add 2 4, hsmall]
    rfl
  · rw [hfits.sec_eq] at hlow
    have hzero : ts.seconds1 = 0 := by omega
    rw [networkToPtpTimestamp_timestampToNetwork hfits, hzero]
    obtain ⟨seconds0, seconds1, nanoseconds⟩ := ts
    dsimp only at hzero
    subst hzero
    rfl

theorem codec_faithful_seven_seconds :
    CodecFaithful ⟨7, 0, 5⟩ ∧ timestampToNetwork ⟨7, 0, 5⟩ = #v[0, 0, 0, 0, 0, 7, 0, 0, 0, 5] :=
  ⟨(codec_faithful_iff ⟨7, 0, 5⟩ ⟨by decide, by decide, by decide⟩ (by decide)).1.mpr (by decide),
    by decide +kernel⟩

theorem codec_loses_upper_word : (⟨0, 1, 0⟩ : PtpTimestamp).sec = 2 ^ 32 ∧
      timestampToNetwork ⟨0, 1, 0⟩ = Vector.replicate 10 0 ∧
      networkToPtpTimestamp (timestampToNetwork ⟨0, 1, 0⟩) = ⟨0, 0, 0⟩ :=
  ⟨by decide, by decide +kernel, by decide +kernel⟩
