/-
# Announce messages and the comparison of clocks

A clock announces a vector of six numbers; smaller is better, the first
difference decides.  The best-master algorithm of the port compares a received
vector with the best one field by field, `newBest`.
-/
import Mathlib.Data.Prod.Lex
import Mathlib.Order.Lex
import LibTsn.Bytes

/-! ## Messages -/

/-- A clock identity, `n64_t`. -/
abbrev ClockIdentity := Vector UInt8 8

/-- A port identity, `n80_t`: the clock identity and a port number. -/
abbrev PortIdentity := Vector UInt8 10

def ptpMaximumPathTraceTlv : ℕ := 8

structure AnnounceMessage where
  grandmasterPriority1 : UInt8
  clockClass : UInt8
  clockAccuracy : UInt8
  clockOffsetScaledLogVariance : UInt16
  grandmasterPriority2 : UInt8
  grandmasterIdentity : ClockIdentity
  stepsRemoved : UInt16
  tlvLength : UInt16
  pathSequence : Vector ClockIdentity 8
  deriving DecidableEq, Repr

structure ClockConfig where
  myPortId : ClockIdentity
  ptpPriority1 : UInt8
  ptpPriority2 : UInt8
  deriving DecidableEq, Repr

variable (m : AnnounceMessage) (cfg : ClockConfig) (msg : AnnounceMessage)

/-- `create_my_announce_msg`, over a message whose other fields stay. -/
def createMyAnnounceMsg : AnnounceMessage where
  grandmasterPriority1 := cfg.ptpPriority1
  clockClass := 248
  clockAccuracy := 0x20
  clockOffsetScaledLogVariance := 0x436A
  grandmasterPriority2 := cfg.ptpPriority2
  grandmasterIdentity := cfg.myPortId
  stepsRemoved := 0
  tlvLength := 8
  pathSequence := msg.pathSequence.set 0 cfg.myPortId

/-! ## The order of clocks -/

abbrev ClockQuality := ℕ ×ₗ ℕ ×ₗ ℕ ×ₗ ℕ ×ₗ ℕ

abbrev ClockVector := ClockQuality ×ₗ ℕ

def AnnounceMessage.quality : ClockQuality :=
  toLex (m.grandmasterPriority1.toNat, toLex (m.clockClass.toNat, toLex (m.clockAccuracy.toNat,
    toLex (m.clockOffsetScaledLogVariance.toNat, m.grandmasterPriority2.toNat))))

def AnnounceMessage.vector : ClockVector :=
  toLex (m.quality, beNat m.grandmasterIdentity.toList)

def ClockConfig.vector : ClockVector :=
  toLex (toLex (cfg.ptpPriority1.toNat, toLex (248, toLex (0x20, toLex (0x436A,
    cfg.ptpPriority2.toNat)))), beNat cfg.myPortId.toList)

lemma clockIdentity_eq_iff (a b : ClockIdentity) : a = b ↔ beNat a.toList = beNat b.toList := by
  constructor
  · rintro rfl
    rfl
  · intro h
    apply Vector.toList_inj.mp
    exact beNat_inj (by simp) h

/-! ## The comparison in the code -/

def compareClockIdentity (c₁ c₂ : ClockIdentity) : ℤ := compareBytes c₁.toList c₂.toList

def compareClockIdentityToMe (c : ClockIdentity) : ℤ :=
  compareClockIdentity c cfg.myPortId

/-- The value of `new_best` in `bmca_update_roles`. -/
def newBest (best m : AnnounceMessage) : ℤ :=
  if compareClockIdentityToMe cfg m.grandmasterIdentity = 0 then 0
  else if m.grandmasterPriority1 > best.grandmasterPriority1 then -1
  else if m.grandmasterPriority1 < best.grandmasterPriority1 then 1
  else if m.clockClass > best.clockClass then -1
  else if m.clockClass < best.clockClass then 1
  else if m.clockAccuracy > best.clockAccuracy then -1
  else if m.clockAccuracy < best.clockAccuracy then 1
  else if m.clockOffsetScaledLogVariance > best.clockOffsetScaledLogVariance then -1
  else if m.clockOffsetScaledLogVariance < best.clockOffsetScaledLogVariance then 1
  else if m.grandmasterPriority2 > best.grandmasterPriority2 then -1
  else if m.grandmasterPriority2 < best.grandmasterPriority2 then 1
  else if compareClockIdentity m.grandmasterIdentity best.grandmasterIdentity ≤ 0 then 0
  else 1

lemma compareClockIdentity_eq (a b : ClockIdentity) :
    compareClockIdentity a b = if beNat b.toList < beNat a.toList then -1
      else if beNat a.toList < beNat b.toList then 1 else 0 :=
  compareBytes_eq _ _ (by simp)

lemma compareClockIdentity_eq_zero_iff (a b : ClockIdentity) :
    compareClockIdentity a b = 0 ↔ a = b := by
  rw [compareClockIdentity_eq, clockIdentity_eq_iff]
  split
  · simp; omega
  · split
    · simp; omega
    · simp; omega

lemma lex_compare_step {α β : Type*} [LinearOrder α] [LinearOrder β] (a b : α) (q r : β) (z : ℤ) :
    (if b < a then -1 else if a < b then 1 else if r < q then -1 else if q < r then 1 else z)
      = if toLex (b, r) < toLex (a, q) then -1
        else if toLex (a, q) < toLex (b, r) then 1 else z := by
  simp only [Prod.Lex.toLex_lt_toLex]
  rcases lt_trichotomy a b with h | h | h
  · simp [h, not_lt_of_gt h, h.ne, h.ne']
  · subst h
    simp
  · simp [h]

lemma newBest_eq (best m : AnnounceMessage) : newBest cfg best m
      = if m.grandmasterIdentity = cfg.myPortId then 0
        else if best.quality < m.quality then -1
        else if m.vector < best.vector then 1
        else 0 := by
  have hid : (if compareClockIdentity m.grandmasterIdentity best.grandmasterIdentity ≤ 0 then
        (0 : ℤ) else 1)
      = if beNat m.grandmasterIdentity.toList < beNat best.grandmasterIdentity.toList then 1
        else 0 := by
    rw [compareClockIdentity_eq]
    split_ifs <;> first | rfl | omega
  unfold newBest compareClockIdentityToMe
  rw [hid]
  simp only [compareClockIdentity_eq_zero_iff, gt_iff_lt, UInt8.lt_iff_toNat_lt,
    UInt16.lt_iff_toNat_lt]
  rw [lex_compare_step m.clockOffsetScaledLogVariance.toNat,
    lex_compare_step m.clockAccuracy.toNat, lex_compare_step m.clockClass.toNat,
    lex_compare_step m.grandmasterPriority1.toNat]
  -- the quality decides, and the identity only between equal qualities
  have hvec : m.vector < best.vector ↔ m.quality < best.quality ∨ m.quality = best.quality ∧
      beNat m.grandmasterIdentity.toList < beNat best.grandmasterIdentity.toList :=
    Prod.Lex.toLex_lt_toLex
  show (if m.grandmasterIdentity = cfg.myPortId then 0
      else if best.quality < m.quality then -1 else if m.quality < best.quality then 1
      else if beNat m.grandmasterIdentity.toList < beNat best.grandmasterIdentity.toList then 1
      else 0) = _
  rcases lt_trichotomy m.quality best.quality with h | h | h
  · simp only [hvec, h, true_or, if_true]
  · simp only [hvec, h, lt_irrefl, false_or, true_and, if_false]
  · simp only [h, if_true]

lemma newBest_eq_one_iff (best m : AnnounceMessage) :
    newBest cfg best m = 1 ↔ m.grandmasterIdentity ≠ cfg.myPortId ∧ m.vector < best.vector := by
  have hq : best.quality < m.quality → ¬ m.vector < best.vector := by
    intro h hlt
    rw [AnnounceMessage.vector, AnnounceMessage.vector, Prod.Lex.toLex_lt_toLex] at hlt
    rcases hlt with hlt | ⟨heq, -⟩
    · exact lt_asymm h hlt
    · simp only at heq
      rw [heq] at h
      exact lt_irrefl _ h
  rw [newBest_eq]
  split_ifs with h₁ h₂ h₃
  · simp [h₁]
  · simp [hq h₂]
  · simp [h₁, h₃]
  · simp [h₃]

lemma newBest_eq_neg_one_iff (best m : AnnounceMessage) :
    newBest cfg best m = -1 ↔ m.grandmasterIdentity ≠ cfg.myPortId ∧ best.quality < m.quality := by
  rw [newBest_eq]
  split_ifs with h₁ h₂ h₃
  · simp [h₁]
  · simp [h₁, h₂]
  · simp [h₂]
  · simp [h₂]
