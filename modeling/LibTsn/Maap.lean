/-
# MAAP: claiming multicast addresses

`avb_1722_maap.xc`: a device picks a range of addresses, probes it four times and then keeps it.
It defends what it keeps against probes of others, and picks another range when it is told that
its own is in use.

The functions work on the static variables of the file (`MaapState`) and return the frames they
send.  Time, random numbers and an uninitialised variable come from outside (`MaapEnv`).
-/
import LibTsn.Bytes
import LibTsn.MiscTimer

/-! ## Addresses -/

abbrev MacAddr := Vector UInt8 6

def maapAllocationPoolSize : ℕ := 0xfe00

namespace MacAddr

variable (a : MacAddr)

def pool : UInt8 × UInt8 × UInt8 × UInt8 := (a[0], a[1], a[2], a[3])

def offset : ℕ := (a[4]).toNat * 256 + (a[5]).toNat

def withOffset (n : ℕ) : MacAddr :=
  (a.set 4 (UInt8.ofNat (n / 256))).set 5 (UInt8.ofNat n)

def toNumReverse : ℕ :=
  (List.finRange 6).foldl (fun x i => x + (a.get i).toNat <<< (i.val * 8)) 0

variable (a : MacAddr)

lemma pool_withOffset (n : ℕ) : (a.withOffset n).pool = a.pool := by
  simp [withOffset, pool]

lemma offset_withOffset (n : ℕ) : (a.withOffset n).offset = n % 65536 := by
  simp only [withOffset, offset, Vector.getElem_set]
  simp
  omega

lemma offset_lt : a.offset < 65536 := by
  have hhigh := (a[4]).toNat_lt
  have hlow := (a[5]).toNat_lt
  unfold offset
  omega

lemma toNumReverse_eq : a.toNumReverse = beNat a.toList.reverse := by
  obtain ⟨⟨l⟩, hl⟩ := a
  obtain ⟨b₀, b₁, b₂, b₃, b₄, b₅, rfl⟩ : ∃ b₀ b₁ b₂ b₃ b₄ b₅, l = [b₀, b₁, b₂, b₃, b₄, b₅] := by
    match l, hl with
    | [b₀, b₁, b₂, b₃, b₄, b₅], _ => exact ⟨b₀, b₁, b₂, b₃, b₄, b₅, rfl⟩
  show 0 + b₀.toNat <<< 0 + b₁.toNat <<< 8 + b₂.toNat <<< 16 + b₃.toNat <<< 24 + b₄.toNat <<< 32 +
    b₅.toNat <<< 40 = beNat [b₅, b₄, b₃, b₂, b₁, b₀]
  simp only [beNat, List.foldl_cons, List.foldl_nil, Nat.shiftLeft_eq]
  ring

lemma toNumReverse_inj {a b : MacAddr} (h : a.toNumReverse = b.toNumReverse) : a = b := by
  rw [toNumReverse_eq, toNumReverse_eq] at h
  have hbytes := List.reverse_injective (beNat_inj (by simp) h)
  exact Vector.toList_inj.mp hbytes

end MacAddr

def maapAllocationPoolBaseAddr : MacAddr := ⟨#[0x91, 0xe0, 0xf0, 0x00, 0x00, 0x00], rfl⟩

def maapDestAddr : MacAddr := ⟨#[0x91, 0xe0, 0xf0, 0x00, 0xff, 0x00], rfl⟩

inductive MaapMode where
  | disabled
  | probing
  | reserved
  deriving DecidableEq, Repr

structure MaapAddressRange where
  base : MacAddr
  range : ℤ
  probeCount : ℤ
  immediately : Bool
  state : MaapMode
  deriving DecidableEq

structure MaapState where
  myMacAddr : MacAddr
  maapAddr : MaapAddressRange
  maapTimer : AvbTimer
  timeoutVal : ℕ
  deriving DecidableEq

structure MaapEnv where
  now : ℕ
  rand : ℕ
  stackWord : ℤ

/-! ## Frames -/

inductive MaapMessage where
  | probe
  | announce
  | defend (srcAddr requestAddr : MacAddr) (requestCount : ℤ) (conflictAddr : MacAddr)
    (conflictCount : ℤ)

variable (myMacAddr : MacAddr) (frame : List UInt8)

def maapFrame (messageType : UInt8) (dest requestAddr : MacAddr) (requestCount : ℤ)
    (conflictAddr : MacAddr) (conflictCount : ℤ) : List UInt8 :=
  dest.toList ++ myMacAddr.toList ++ [0x22, 0xf0, 0xfe, messageType, 0x08, 16] ++
    List.replicate 8 0 ++ requestAddr.toList ++ beBytes 2 (u32 requestCount) ++
    conflictAddr.toList ++ beBytes 2 (u32 conflictCount) ++ List.replicate 22 0

def createMaapPacket (addr : MaapAddressRange) : MaapMessage → List UInt8
  | .probe =>
    maapFrame myMacAddr 1 maapDestAddr addr.base addr.range (Vector.replicate 6 0) 0
  | .defend srcAddr requestAddr requestCount conflictAddr conflictCount =>
    maapFrame myMacAddr 2 srcAddr requestAddr requestCount conflictAddr conflictCount
  | .announce =>
    maapFrame myMacAddr 3 maapDestAddr addr.base addr.range (Vector.replicate 6 0) 0

def macAddrAt (pkt : Mem) (a : ℕ) : MacAddr := Vector.ofFn fun i => pkt (a + i.val)

structure MaapPacket where
  subtype : ℕ
  messageType : ℕ
  requestStart : MacAddr
  requestedCount : ℕ
  conflictStart : MacAddr
  conflictCount : ℕ
  deriving DecidableEq

/-- The `GET_MAAP` macros. -/
def MaapPacket.ofBytes (pkt : Mem) : MaapPacket where
  subtype := (pkt 0).toNat % 128
  messageType := (pkt 1).toNat % 16
  requestStart := macAddrAt pkt 12
  requestedCount := beNat (pkt.load 18 2)
  conflictStart := macAddrAt pkt 20
  conflictCount := beNat (pkt.load 26 2)

def receivedBytes : Mem := fun i => frame.getD i 0

def receivedPacket : Mem := fun i => receivedBytes frame (14 + i)

def receivedSrcAddr : MacAddr := macAddrAt (receivedBytes frame) 6

/-! ## Functions -/

/-- The static variables before `avb_1722_maap_init`. -/
def maapStatics : MaapState :=
  ⟨Vector.replicate 6 0, ⟨Vector.replicate 6 0, 0, 0, false, .disabled⟩, ⟨0, 0, 0, 0⟩, 0⟩

def avb1722MaapInit (macaddr : MacAddr) (s : MaapState) : MaapState :=
  { s with
    myMacAddr := macaddr
    maapAddr := { s.maapAddr with state := .disabled, base := maapAllocationPoolBaseAddr }
    maapTimer := initAvbTimer 1 s.maapTimer }

/-- `range_offset`.  The divisor is an unsigned number; a range of the whole pool divides by
zero, which stops the device. -/
def rangeOffset (rand : ℕ) (range : ℤ) : ℕ := rand % u32 (maapAllocationPoolSize - range)

variable (frame : List UInt8) (env : MaapEnv) (s : MaapState)

def avb1722MaapRequestAddresses (numAddr : ℤ) (startAddress : Option MacAddr) (s : MaapState) :
    MaapState :=
  let base := match startAddress with
    | some a => a
    | none => s.maapAddr.base.withOffset (rangeOffset env.rand s.maapAddr.range)
  let range := if numAddr ≠ -1 then numAddr else s.maapAddr.range
  let timeoutVal := 50 + (base[5]).toNat % 8
  { s with
    maapAddr := ⟨base, range, 3, true, .probing⟩
    timeoutVal := timeoutVal
    maapTimer := startAvbTimer env.now timeoutVal s.maapTimer }

def avb1722MaapRerequestAddresses : MaapState :=
  if s.maapAddr.state ≠ .disabled then avb1722MaapRequestAddresses env (-1) none s else s

def avb1722MaapRelinquishAddresses : MaapState :=
  { s with maapAddr := { s.maapAddr with state := .disabled } }

def announceInterval (rand : ℕ) : ℕ := 300 + rand % 200 / 10

/-- The addresses given to `avb_talker_on_source_address_reserved`. -/
def reservedAddresses (addr : MaapAddressRange) : List MacAddr :=
  (List.range addr.range.toNat).map fun i => addr.base.withOffset (addr.base.offset + i)

/-- The condition of both cases of `avb_1722_maap_periodic`, with the timer after it. -/
def maapDue : AvbTimer × Bool :=
  if s.maapAddr.immediately then (s.maapTimer, true) else avbTimerExpired env.now s.maapTimer

/-- A probe, sent by `avb_1722_maap_periodic`: the last one reserves the range. -/
def sendProbe : MaapState × List (List UInt8) × List MacAddr :=
  let frame := createMaapPacket s.myMacAddr s.maapAddr .probe
  if s.maapAddr.probeCount = 0 then
    ({ s with
        maapAddr := { s.maapAddr with
          state := .reserved
          immediately := true
          probeCount := s.maapAddr.probeCount - 1 }
        timeoutVal := announceInterval env.rand
        maapTimer := startAvbTimer env.now (announceInterval env.rand)
          (initAvbTimer 10 s.maapTimer) },
      [frame], reservedAddresses s.maapAddr)
  else
    ({ s with
        maapAddr := { s.maapAddr with
          immediately := false
          probeCount := s.maapAddr.probeCount - 1 }
        maapTimer := startAvbTimer env.now s.timeoutVal (initAvbTimer 1 s.maapTimer) },
      [frame], [])

/-- An announcement, sent by `avb_1722_maap_periodic`. -/
def sendAnnounce : MaapState × List (List UInt8) × List MacAddr :=
  let frame := createMaapPacket s.myMacAddr s.maapAddr .announce
  if s.maapAddr.immediately then
    ({ s with maapAddr := { s.maapAddr with immediately := false } }, [frame], [])
  else
    ({ s with
        timeoutVal := announceInterval env.rand
        maapTimer := startAvbTimer env.now (announceInterval env.rand) s.maapTimer },
      [frame], [])

def avb1722MaapPeriodic : MaapState × List (List UInt8) × List MacAddr :=
  let due := maapDue env s
  match s.maapAddr.state with
  | .disabled => (s, [], [])
  | .probing =>
    if due.2 then sendProbe env { s with maapTimer := due.1 }
    else ({ s with maapTimer := due.1 }, [], [])
  | .reserved =>
    if due.2 then sendAnnounce env { s with maapTimer := due.1 }
    else ({ s with maapTimer := due.1 }, [], [])

def maapCompareMac (srcAddr : MacAddr) : Bool :=
  decide (s.myMacAddr.toNumReverse < srcAddr.toNumReverse)

/-- `maap_conflict`: the first address in conflict and their number.  All sums are 32-bit integers,
and `stackWord` is what `first_conflict_addr` holds if it is not written. -/
def maapConflict (stackWord : ℤ) (addr : MaapAddressRange) (remoteAddr : MacAddr)
    (remoteCount : ℤ) : Option (ℤ × ℤ) :=
  if remoteAddr.pool ≠ addr.base.pool then none
  else
    let myAddrLo : ℤ := addr.base.offset
    let myAddrHi := s32 (myAddrLo + addr.range)
    let conflictLo : ℤ := remoteAddr.offset
    let conflictHi := s32 (conflictLo + remoteCount)
    if conflictLo ≤ myAddrLo ∧ myAddrLo < conflictHi then
      some (myAddrLo,
        if myAddrHi < conflictHi then s32 (myAddrHi - myAddrLo) else s32 (conflictHi - myAddrLo))
    else if myAddrLo < conflictLo ∧ conflictLo < myAddrHi then
      some (conflictLo, if conflictHi ≤ myAddrHi then remoteCount else s32 (myAddrHi - conflictLo))
    else if myAddrLo = conflictLo ∧ myAddrHi = conflictHi then some (stackWord, remoteCount)
    else none

/-- The case `MAAP_PROBE`. -/
def processProbe (pkt : MaapPacket) (srcAddr : MacAddr) : MaapState × List (List UInt8) :=
  match maapConflict env.stackWord s.maapAddr pkt.requestStart pkt.requestedCount with
  | none => (s, [])
  | some (firstConflict, conflictCount) =>
    if s.maapAddr.state = .probing then
      if maapCompareMac s srcAddr then (s, [])
      else (avb1722MaapRequestAddresses env (-1) none s, [])
    else
      (s, [createMaapPacket s.myMacAddr s.maapAddr
        (.defend srcAddr pkt.requestStart pkt.requestedCount
          (s.maapAddr.base.withOffset (u32 firstConflict)) conflictCount)])

/-- The case `MAAP_ANNOUNCE`, and `MAAP_DEFEND` with the other range of the packet. -/
def processClaim (start : MacAddr) (count : ℕ) (srcAddr : MacAddr) :
    MaapState × List (List UInt8) :=
  if (maapConflict env.stackWord s.maapAddr start count).isSome then
    if s.maapAddr.state = .reserved ∧ maapCompareMac s srcAddr then (s, [])
    else (avb1722MaapRequestAddresses env (-1) none s, [])
  else (s, [])

def avb1722MaapProcessPacket (bytes : Mem) (srcAddr : MacAddr) : MaapState × List (List UInt8) :=
  let pkt := MaapPacket.ofBytes bytes
  if pkt.subtype ≠ 0x7e then (s, [])
  else if s.maapAddr.state = .disabled then (s, [])
  else if pkt.messageType = 1 then processProbe env s pkt srcAddr
  else if pkt.messageType = 2 then processClaim env s pkt.conflictStart pkt.conflictCount srcAddr
  else if pkt.messageType = 3 then processClaim env s pkt.requestStart pkt.requestedCount srcAddr
  else (s, [])

/-! ## Frames are read back -/

lemma macAddrAt_of_holds {m : Mem} {a : ℕ} {b : MacAddr} (h : m.Holds a b.toList) :
    macAddrAt m a = b := by
  apply Vector.ext
  intro i hi
  have hbyte := h.apply (i := i) (by simpa using hi)
  rw [List.getD_eq_getElem _ _ (by simpa using hi), Vector.getElem_toList] at hbyte
  simpa [macAddrAt] using hbyte

lemma holds_receivedBytes : (receivedBytes frame).Holds 0 frame := by
  unfold Mem.Holds Mem.load receivedBytes
  apply List.ext_getElem
  · simp
  · intro i hi hi'
    simp [List.getElem?_eq_getElem hi']

lemma load_receivedPacket (a n : ℕ) :
    (receivedPacket frame).load a n = (receivedBytes frame).load (14 + a) n := by
  unfold Mem.load receivedPacket
  refine List.map_congr_left fun i _ => ?_
  rw [Nat.add_assoc]

lemma macAddrAt_receivedPacket (a : ℕ) :
    macAddrAt (receivedPacket frame) a = macAddrAt (receivedBytes frame) (14 + a) := by
  unfold macAddrAt receivedPacket
  congr 1
  funext i
  rw [Nat.add_assoc]

section

variable (mac : MacAddr) (messageType : UInt8) (dest request : MacAddr) (requestCount : ℤ)
  (conflict : MacAddr) (conflictCount : ℤ)

/-- **Frames are read back.**  The sender, the message type and both ranges, the numbers in 16
bits. -/
theorem parse_maapFrame :
    receivedSrcAddr (maapFrame mac messageType dest request requestCount conflict conflictCount) =
        mac ∧
      MaapPacket.ofBytes (receivedPacket
          (maapFrame mac messageType dest request requestCount conflict conflictCount)) =
        ⟨0x7e, messageType.toNat % 16, request, u32 requestCount % 65536, conflict,
          u32 conflictCount % 65536⟩ := by
  have hframe := holds_receivedBytes
    (maapFrame mac messageType dest request requestCount conflict conflictCount)
  set m :=
    receivedBytes (maapFrame mac messageType dest request requestCount conflict conflictCount)
    with hm
  unfold maapFrame at hframe
  simp only [Mem.holds_append, List.length_append, Vector.length_toList, List.length_cons,
    List.length_nil, List.length_replicate, length_beBytes, Nat.zero_add] at hframe
  obtain ⟨⟨⟨⟨⟨⟨⟨⟨-, hmac⟩, hheader⟩, -⟩, hrequest⟩, hcount⟩, hconflict⟩, hccount⟩, -⟩ := hframe
  refine ⟨macAddrAt_of_holds hmac, ?_⟩
  have hbyte : ∀ k, k < 6 → m (12 + k) =
      ([0x22, 0xf0, 0xfe, messageType, 0x08, 16] : List UInt8).getD k 0 :=
    fun k hk => hheader.apply hk
  have hloads : ∀ (a : ℕ) (v : ℤ), m.Holds a (beBytes 2 (u32 v)) →
      beNat (m.load a 2) = u32 v % 65536 := by
    intro a v h
    unfold Mem.Holds at h
    rw [length_beBytes] at h
    rw [h, beNat_beBytes]
    rfl
  unfold MaapPacket.ofBytes
  rw [MaapPacket.mk.injEq]
  refine ⟨?_, ?_, ?_, ?_, ?_, ?_⟩
  · show (m (12 + 2)).toNat % 128 = 0x7e
    rw [hbyte 2 (by decide)]
    show (0xfe : UInt8).toNat % 128 = 0x7e
    decide
  · show (m (12 + 3)).toNat % 16 = _
    rw [hbyte 3 (by decide)]
    rfl
  · rw [macAddrAt_receivedPacket]
    exact macAddrAt_of_holds hrequest
  · rw [load_receivedPacket]
    exact hloads _ _ hcount
  · rw [macAddrAt_receivedPacket]
    exact macAddrAt_of_holds hconflict
  · rw [load_receivedPacket]
    exact hloads _ _ hccount

end

/-! ## What a call can do -/

section

variable (env : MaapEnv) (s : MaapState)
variable (mac : MacAddr) (addr : MaapAddressRange) (timer : AvbTimer)

lemma maapAddr_mk (val : ℕ) : (MaapState.mk mac addr timer val).maapAddr = addr := rfl

lemma myMacAddr_mk (val : ℕ) : (MaapState.mk mac addr timer val).myMacAddr = mac := rfl

lemma sendAnnounce_keeps : (sendAnnounce env s).1.myMacAddr = s.myMacAddr ∧
      (sendAnnounce env s).1.maapAddr.base = s.maapAddr.base ∧
      (sendAnnounce env s).1.maapAddr.range = s.maapAddr.range ∧
      (sendAnnounce env s).1.maapAddr.state = s.maapAddr.state ∧
      (sendAnnounce env s).2.2 = [] := by
  unfold sendAnnounce
  dsimp only
  split
  · exact ⟨rfl, rfl, rfl, rfl, rfl⟩
  · rw [maapAddr_mk, myMacAddr_mk]
    exact ⟨rfl, rfl, rfl, rfl, rfl⟩

lemma processProbe_cases (pkt : MaapPacket) (srcAddr : MacAddr) :
    (processProbe env s pkt srcAddr).1 = s ∨
      (processProbe env s pkt srcAddr).1 = avb1722MaapRequestAddresses env (-1) none s := by
  unfold processProbe
  split
  · exact Or.inl rfl
  · split_ifs
    · exact Or.inl rfl
    · exact Or.inr rfl
    · exact Or.inl rfl

lemma processClaim_cases (start : MacAddr) (count : ℕ) (srcAddr : MacAddr) :
    (processClaim env s start count srcAddr).1 = s ∨
      (processClaim env s start count srcAddr).1 = avb1722MaapRequestAddresses env (-1) none s := by
  unfold processClaim
  split_ifs
  · exact Or.inl rfl
  · exact Or.inr rfl
  · exact Or.inl rfl

lemma processPacket_cases (bytes : Mem) (srcAddr : MacAddr) :
    (avb1722MaapProcessPacket env s bytes srcAddr).1 = s ∨
      s.maapAddr.state ≠ .disabled ∧
        (avb1722MaapProcessPacket env s bytes srcAddr).1 =
          avb1722MaapRequestAddresses env (-1) none s := by
  unfold avb1722MaapProcessPacket
  dsimp only
  split_ifs with hsubtype hdisabled
  · exact Or.inl rfl
  · exact Or.inl rfl
  · exact (processProbe_cases env s _ srcAddr).imp_right fun h => ⟨hdisabled, h⟩
  · exact (processClaim_cases env s _ _ srcAddr).imp_right fun h => ⟨hdisabled, h⟩
  · exact (processClaim_cases env s _ _ srcAddr).imp_right fun h => ⟨hdisabled, h⟩
  · exact Or.inl rfl

end
