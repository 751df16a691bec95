/-
# Conflicts of address ranges

`maap_conflict` compares the range of a device with a range of another one, in three cases of which
the last is never reached.  A device that keeps its range answers a probe of addresses of it with
the part that both have in common, and the sender of the probe picks another range.
-/
import LibTsn.Maap

/-- The last two bytes of `count` addresses from `start` on, as one number each. -/
noncomputable def offsetsFrom (start : MacAddr) (count : ℤ) : Finset ℤ :=
  Finset.Ico (start.offset : ℤ) (start.offset + count)

/-! ## Conflicts -/

/-- The range and the `count` addresses from `start` on intersect, as intervals of one pool. -/
def MaapAddressRange.MeetsRange (a : MaapAddressRange) (start : MacAddr) (count : ℤ) : Prop :=
  start.pool = a.base.pool ∧ (start.offset : ℤ) < a.base.offset + a.range ∧
    (a.base.offset : ℤ) < start.offset + count

variable {addr : MaapAddressRange} {start : MacAddr} {count : ℤ} {s : MaapState}
  {frame : List UInt8}

section

variable (hown : (addr.base.offset : ℤ) + addr.range < 2 ^ 31)
  (hremote : (start.offset : ℤ) + count < 2 ^ 31)
include hown hremote

lemma maapConflict_of_meets (h : addr.MeetsRange start count) (w : ℤ) :
    maapConflict w addr start count =
      some (max (addr.base.offset : ℤ) start.offset,
        min (addr.base.offset + addr.range) (start.offset + count) -
          max (addr.base.offset : ℤ) start.offset) := by
  obtain ⟨hpool, hlt, hlt'⟩ := h
  have hoffset := addr.base.offset_lt
  unfold maapConflict
  rw [if_neg (not_not_intro hpool)]
  dsimp only
  rw [s32_eq ⟨by omega, hown⟩, s32_eq ⟨by omega, hremote⟩]
  by_cases hle : (start.offset : ℤ) ≤ addr.base.offset
  · rw [if_pos ⟨hle, hlt'⟩, max_eq_left hle]
    split_ifs with hless
    · rw [min_eq_left hless.le, s32_eq ⟨by omega, by omega⟩]
    · rw [min_eq_right (not_lt.mp hless), s32_eq ⟨by omega, by omega⟩]
  · rw [if_neg fun h => hle h.1, if_pos ⟨not_le.mp hle, hlt⟩, max_eq_right (not_le.mp hle).le]
    split_ifs with hinside
    · rw [min_eq_right hinside, add_sub_cancel_left]
    · rw [min_eq_left (not_le.mp hinside).le, s32_eq ⟨by omega, by omega⟩]

lemma maapConflict_of_not_meets (hrange : 1 ≤ addr.range) (hcount : 1 ≤ count)
    (h : ¬ addr.MeetsRange start count) (w : ℤ) : maapConflict w addr start count = none := by
  unfold maapConflict
  split_ifs with hpool
  · rfl
  · have hapart : ¬ ((start.offset : ℤ) < addr.base.offset + addr.range ∧
        (addr.base.offset : ℤ) < start.offset + count) := fun hmeets => h ⟨not_not.mp hpool, hmeets⟩
    dsimp only
    rw [s32_eq ⟨by omega, hown⟩, s32_eq ⟨by omega, hremote⟩, if_neg (by omega), if_neg (by omega),
      if_neg (by omega)]

end

lemma meetsRange_iff (hpool : start.pool = addr.base.pool) (hrange : 1 ≤ addr.range)
    (hcount : 1 ≤ count) : addr.MeetsRange start count ↔
      (offsetsFrom addr.base addr.range ∩ offsetsFrom start count).Nonempty := by
  unfold offsetsFrom MaapAddressRange.MeetsRange
  rw [Finset.Ico_inter_Ico, Finset.nonempty_Ico, max_lt_iff, lt_min_iff, lt_min_iff]
  constructor
  · rintro ⟨-, hlt, hlt'⟩
    exact ⟨⟨by omega, hlt'⟩, hlt, by omega⟩
  · rintro ⟨⟨-, hlt'⟩, hlt, -⟩
    exact ⟨hpool, hlt, hlt'⟩

/-! ## Defence -/

/-- The frame makes a device that probes pick another range: a Probe of a device with a smaller
address, or a Defend, about addresses of its range. -/
def Expels (s : MaapState) (frame : List UInt8) : Prop :=
  (MaapPacket.ofBytes (receivedPacket frame)).subtype = 0x7e ∧
    ((MaapPacket.ofBytes (receivedPacket frame)).messageType = 1 ∧
        s.maapAddr.MeetsRange (MaapPacket.ofBytes (receivedPacket frame)).requestStart
          (MaapPacket.ofBytes (receivedPacket frame)).requestedCount ∧
        maapCompareMac s (receivedSrcAddr frame) = false ∨
      (MaapPacket.ofBytes (receivedPacket frame)).messageType = 2 ∧
        s.maapAddr.MeetsRange (MaapPacket.ofBytes (receivedPacket frame)).conflictStart
          (MaapPacket.ofBytes (receivedPacket frame)).conflictCount)

lemma add_count_lt (a : MacAddr) (bytes : Mem) :
    (a.offset : ℤ) + (MaapPacket.ofBytes bytes).requestedCount < 2 ^ 31 ∧
      (a.offset : ℤ) + (MaapPacket.ofBytes bytes).conflictCount < 2 ^ 31 := by
  have hoffset := a.offset_lt
  have hword : ∀ k, beNat (bytes.load k 2) < 65536 := by
    intro k
    have hlt := beNat_lt (bytes.load k 2)
    rwa [Mem.length_load] at hlt
  have hrequest := hword 18
  have hconflict := hword 26
  simp only [MaapPacket.ofBytes]
  omega

lemma process_of_expels (env : MaapEnv) (hstate : s.maapAddr.state = .probing)
    (hown : (s.maapAddr.base.offset : ℤ) + s.maapAddr.range < 2 ^ 31) (h : Expels s frame) :
    (avb1722MaapProcessPacket env s (receivedPacket frame) (receivedSrcAddr frame)).1 =
      avb1722MaapRequestAddresses env (-1) none s := by
  obtain ⟨hsubtype, hcase⟩ := h
  unfold avb1722MaapProcessPacket
  dsimp only
  rw [if_neg (not_not_intro hsubtype), if_neg (by rw [hstate]; decide)]
  rcases hcase with ⟨htype, hmeets, hcompare⟩ | ⟨htype, hmeets⟩
  · rw [if_pos htype, processProbe, maapConflict_of_meets hown (add_count_lt _ _).1 hmeets]
    dsimp only
    rw [if_pos hstate, hcompare]
    rfl
  · rw [if_neg (by rw [htype]; decide), if_pos htype, processClaim,
      maapConflict_of_meets hown (add_count_lt _ _).2 hmeets]
    rw [if_pos Option.isSome_some, if_neg (by rw [hstate]; rintro ⟨h, -⟩; cases h)]

/-- A Probe of the `count` addresses from `start` on. -/
structure IsProbe (bytes : Mem) (start : MacAddr) (count : ℤ) : Prop where
  subtype : (MaapPacket.ofBytes bytes).subtype = 0x7e
  messageType : (MaapPacket.ofBytes bytes).messageType = 1
  start : (MaapPacket.ofBytes bytes).requestStart = start
  count : ((MaapPacket.ofBytes bytes).requestedCount : ℤ) = count

/-- A Defend of exactly the addresses that the range has in common with the `count` from `start`
on. -/
structure Defends (addr : MaapAddressRange) (start : MacAddr) (count : ℤ) (frame : List UInt8) :
    Prop where
  subtype : (MaapPacket.ofBytes (receivedPacket frame)).subtype = 0x7e
  messageType : (MaapPacket.ofBytes (receivedPacket frame)).messageType = 2
  pool : (MaapPacket.ofBytes (receivedPacket frame)).conflictStart.pool = addr.base.pool
  first : IsLeast (↑(offsetsFrom addr.base addr.range ∩ offsetsFrom start count) : Set ℤ)
    (MaapPacket.ofBytes (receivedPacket frame)).conflictStart.offset
  count : (MaapPacket.ofBytes (receivedPacket frame)).conflictCount =
    (offsetsFrom addr.base addr.range ∩ offsetsFrom start count).card

lemma Defends.expels (h : Defends addr start count frame) (hpool : start.pool = addr.base.pool)
    {s : MaapState} (hbase : s.maapAddr.base = start) (hrange : s.maapAddr.range = count) :
    Expels s frame := by
  have hfirst := Finset.mem_coe.mp h.first.1
  have hcard := h.count ▸ Finset.card_pos.mpr ⟨_, hfirst⟩
  obtain ⟨hlow, hhigh⟩ := Finset.mem_Ico.mp (Finset.mem_inter.mp hfirst).2
  refine ⟨h.subtype, Or.inr ⟨h.messageType, ?_, ?_, ?_⟩⟩
  · rw [h.pool, hbase, hpool]
  · rw [hbase, hrange]
    exact hhigh
  · rw [hbase]
    omega

lemma process_probe_reserved (env : MaapEnv) (srcAddr : MacAddr) {s : MaapState} {bytes : Mem}
    {start : MacAddr} {count : ℤ} (hstate : s.maapAddr.state = .reserved)
    (hown : (s.maapAddr.base.offset : ℤ) + s.maapAddr.range < 2 ^ 31)
    (hrange : 1 ≤ s.maapAddr.range) (hprobe : IsProbe bytes start count) (hcount : 1 ≤ count)
    (hmeets : s.maapAddr.MeetsRange start count) :
    ∃ frame, avb1722MaapProcessPacket env s bytes srcAddr = (s, [frame]) ∧
      Defends s.maapAddr start count frame := by
  have hoffset := s.maapAddr.base.offset_lt
  have hoffset' := start.offset_lt
  have hword : count < 65536 := by
    have hlt := beNat_lt (bytes.load 18 2)
    rw [Mem.length_load] at hlt
    rw [← hprobe.count]
    exact_mod_cast hlt
  have hconflict := maapConflict_of_meets hown (by omega) hmeets env.stackWord
  obtain ⟨hpool, hless, hless'⟩ := hmeets
  set first := max (s.maapAddr.base.offset : ℤ) start.offset with hfirst
  set last := min (s.maapAddr.base.offset + s.maapAddr.range) (start.offset + count) with hlast
  have hinter : offsetsFrom s.maapAddr.base s.maapAddr.range ∩ offsetsFrom start count =
      Finset.Ico first last := Finset.Ico_inter_Ico
  have hlt : first < last := by omega
  refine ⟨maapFrame s.myMacAddr 2 srcAddr start (MaapPacket.ofBytes bytes).requestedCount
    (s.maapAddr.base.withOffset (u32 first)) (last - first), ?_, ?_⟩
  · unfold avb1722MaapProcessPacket
    dsimp only
    rw [if_neg (not_not_intro hprobe.subtype), if_neg (by rw [hstate]; decide),
      if_pos hprobe.messageType, processProbe, hprobe.start, hprobe.count, hconflict]
    dsimp only
    rw [if_neg (by rw [hstate]; decide)]
    rfl
  · obtain ⟨-, hpacket⟩ := parse_maapFrame s.myMacAddr 2 srcAddr start
      (MaapPacket.ofBytes bytes).requestedCount (s.maapAddr.base.withOffset (u32 first))
      (last - first)
    have hstart : ((u32 first % 65536 : ℕ) : ℤ) = first := by
      unfold u32
      omega
    have hnumber : u32 (last - first) % 65536 = (last - first).toNat := by
      unfold u32
      omega
    constructor
    · rw [hpacket]
    · rw [hpacket]
      rfl
    · rw [hpacket]
      exact MacAddr.pool_withOffset _ _
    · rw [hpacket, hinter, Finset.coe_Ico]
      dsimp only
      rw [MacAddr.offset_withOffset, hstart]
      exact isLeast_Ico hlt
    · rw [hpacket, hinter, Int.card_Ico]
      exact hnumber

def keepsTen : MaapState :=
  { maapStatics with
    maapAddr := ⟨maapAllocationPoolBaseAddr.withOffset 10, 10, 0, false, .reserved⟩ }
