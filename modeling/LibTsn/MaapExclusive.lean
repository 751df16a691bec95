/-
# Two devices never keep the same address

Two devices run MAAP over a network that delivers every frame within 100 ms, and each is polled at
least every 100 ms.  They may pick new ranges, give them up and start again at any time.

If the ranges of two devices meet, one of them is bound to lose its range (`Doomed`): it is still
probing, and either it has not sent its first probe yet, or something is on its way that makes it
pick another range.  All this takes 870 ms at most from its first probe on, and a device needs three
probe intervals of at least 500 ms to get from there to a range that it keeps.
-/
import LibTsn.MaapConflict
import LibTsn.TimedNet

open TimedNet

/-! ## The two devices -/

inductive MaapCall where
  | request (rand : ℕ) (numAddr : ℤ) (startAddress : Option MacAddr)
  | rerequest (rand : ℕ)
  | relinquish

structure MaapChance where
  rand : ℕ
  stackWord : ℤ

def maapMachine (skew : ℕ) : Machine MaapState MaapCall MaapChance (List UInt8) where
  call := fun t c s =>
    match c with
    | .request rand numAddr startAddress =>
      (avb1722MaapRequestAddresses ⟨(t + skew) % 2 ^ 32, rand, 0⟩ numAddr startAddress s, [])
    | .rerequest rand => (avb1722MaapRerequestAddresses ⟨(t + skew) % 2 ^ 32, rand, 0⟩ s, [])
    | .relinquish => (avb1722MaapRelinquishAddresses s, [])
  poll := fun t r s =>
    let done := avb1722MaapPeriodic ⟨(t + skew) % 2 ^ 32, r.rand, r.stackWord⟩ s
    (done.1, done.2.1)
  receive := fun t r frame s =>
    avb1722MaapProcessPacket ⟨(t + skew) % 2 ^ 32, r.rand, r.stackWord⟩ s (receivedPacket frame)
      (receivedSrcAddr frame)

def maapBounds : Bounds := ⟨10 * ticksPerCentisecond, 10 * ticksPerCentisecond⟩

/-- The number of addresses fits the two bytes that a Probe has for it. -/
def MaapCall.Allowed : MaapCall → Prop
  | .request _ numAddr _ => 1 ≤ numAddr ∧ numAddr ≤ 65535
  | _ => True

instance : (c : MaapCall) → Decidable c.Allowed
  | .request _ _ _ => inferInstanceAs (Decidable (_ ∧ _))
  | .rerequest _ | .relinquish => inferInstanceAs (Decidable True)

def maapNet (mac : Bool → MacAddr) : Net MaapState (List UInt8) :=
  ⟨0, fun p => avb1722MaapInit (mac p) maapStatics, fun _ => 0, []⟩

/-- The ranges intersect, as intervals of numbers that do not wrap.  See `disjoint_of_not_meets` for
the addresses that are kept. -/
def MaapAddressRange.Meets (a b : MaapAddressRange) : Prop :=
  a.base.pool = b.base.pool ∧ (a.base.offset : ℤ) < b.base.offset + b.range ∧
    (b.base.offset : ℤ) < a.base.offset + a.range
  deriving Decidable

lemma MaapAddressRange.Meets.symm {a b : MaapAddressRange} (h : a.Meets b) : b.Meets a :=
  ⟨h.1.symm, h.2.2, h.2.1⟩

lemma disjoint_of_not_meets {a b : MaapAddressRange} (ha : (a.base.offset : ℤ) + a.range ≤ 65536)
    (hb : (b.base.offset : ℤ) + b.range ≤ 65536) (h : ¬ a.Meets b) :
    (reservedAddresses a).Disjoint (reservedAddresses b) := by
  intro x hxa hxb
  obtain ⟨i, hi, rfl⟩ := List.mem_map.mp hxa
  obtain ⟨j, hj, hji⟩ := List.mem_map.mp hxb
  rw [List.mem_range] at hi hj
  have hpool := congrArg MacAddr.pool hji
  have hoffset := congrArg MacAddr.offset hji
  rw [MacAddr.pool_withOffset, MacAddr.pool_withOffset] at hpool
  rw [MacAddr.offset_withOffset, MacAddr.offset_withOffset] at hoffset
  exact h ⟨hpool.symm, by omega, by omega⟩

/-! ## Probes -/

def probeFrame (s : MaapState) : List UInt8 := createMaapPacket s.myMacAddr s.maapAddr .probe

lemma parse_probeFrame {s : MaapState} (h : 1 ≤ s.maapAddr.range ∧ s.maapAddr.range ≤ 65535) :
    receivedSrcAddr (probeFrame s) = s.myMacAddr ∧
      (MaapPacket.ofBytes (receivedPacket (probeFrame s))).subtype = 0x7e ∧
      (MaapPacket.ofBytes (receivedPacket (probeFrame s))).messageType = 1 ∧
      (MaapPacket.ofBytes (receivedPacket (probeFrame s))).requestStart = s.maapAddr.base ∧
      ((MaapPacket.ofBytes (receivedPacket (probeFrame s))).requestedCount : ℤ) =
        s.maapAddr.range := by
  obtain ⟨hsrc, hpacket⟩ := parse_maapFrame s.myMacAddr 1 maapDestAddr s.maapAddr.base
    s.maapAddr.range (Vector.replicate 6 0) 0
  have hcount : ((u32 s.maapAddr.range % 65536 : ℕ) : ℤ) = s.maapAddr.range := by
    unfold u32
    omega
  unfold probeFrame createMaapPacket
  rw [hsrc, hpacket]
  exact ⟨rfl, rfl, rfl, rfl, hcount⟩

section

variable {a b : MaapState} (env : MaapEnv)

lemma meetsRange_probeFrame (hb : 1 ≤ b.maapAddr.range ∧ b.maapAddr.range ≤ 65535)
    (hmeets : a.maapAddr.Meets b.maapAddr) :
    a.maapAddr.MeetsRange (MaapPacket.ofBytes (receivedPacket (probeFrame b))).requestStart
      (MaapPacket.ofBytes (receivedPacket (probeFrame b))).requestedCount := by
  obtain ⟨-, -, -, hstart, hcount⟩ := parse_probeFrame hb
  rw [hstart, hcount]
  exact ⟨hmeets.1.symm, hmeets.2.2, hmeets.2.1⟩

lemma expels_probeFrame (hb : 1 ≤ b.maapAddr.range ∧ b.maapAddr.range ≤ 65535)
    (hmeets : a.maapAddr.Meets b.maapAddr)
    (hmac : b.myMacAddr.toNumReverse < a.myMacAddr.toNumReverse) : Expels a (probeFrame b) := by
  obtain ⟨hsrc, hsubtype, htype, -⟩ := parse_probeFrame hb
  refine ⟨hsubtype, Or.inl ⟨htype, meetsRange_probeFrame hb hmeets, ?_⟩⟩
  rw [hsrc]
  exact decide_eq_false (by omega)

lemma ends_lt {s : MaapState} (h : s.maapAddr.range ≤ 65535) :
    (s.maapAddr.base.offset : ℤ) + s.maapAddr.range < 2 ^ 31 := by
  have hoffset := s.maapAddr.base.offset_lt
  omega

lemma process_probe_defended (ha : 1 ≤ a.maapAddr.range ∧ a.maapAddr.range ≤ 65535)
    (hb : 1 ≤ b.maapAddr.range ∧ b.maapAddr.range ≤ 65535) (hstate : a.maapAddr.state = .reserved)
    (hmeets : a.maapAddr.Meets b.maapAddr) : ∃ frame, Expels b frame ∧
      avb1722MaapProcessPacket env a (receivedPacket (probeFrame b))
        (receivedSrcAddr (probeFrame b)) =
        (a, [frame]) := by
  obtain ⟨-, hsubtype, htype, hstart, hcount⟩ := parse_probeFrame hb
  obtain ⟨frame, hprocess, hdefends⟩ := process_probe_reserved env
    (receivedSrcAddr (probeFrame b)) hstate (ends_lt ha.2) ha.1 ⟨hsubtype, htype, hstart, hcount⟩
    hb.1 ⟨hmeets.1.symm, hmeets.2.2, hmeets.2.1⟩
  exact ⟨frame, hdefends.expels hmeets.1.symm rfl rfl, hprocess⟩

end

/-! ## One device in time -/

def MaapState.First (a : MaapState) : Prop :=
  a.maapAddr.immediately = true ∧ a.maapAddr.probeCount = 3

structure Armed (now lastPoll skew due : ℕ) (a : MaapState) : Prop where
  probing : a.maapAddr.state = .probing
  waiting : a.maapAddr.immediately = false
  active : a.maapTimer.active = 1
  timeout : a.maapTimer.timeout = (due + skew) % 2 ^ 32
  polled : lastPoll ≤ due
  soon : due ≤ now + 57 * ticksPerCentisecond
  probeCount : 0 ≤ a.maapAddr.probeCount

def earliest (due : ℕ) (a : MaapState) : ℕ :=
  due + a.maapAddr.probeCount.toNat * (50 * ticksPerCentisecond)

structure DeviceInv (now lastPoll skew : ℕ) (a : MaapState) : Prop where
  range : a.maapAddr.state ≠ .disabled → 1 ≤ a.maapAddr.range ∧ a.maapAddr.range ≤ 65535
  interval : a.maapAddr.state = .probing → 50 ≤ a.timeoutVal ∧ a.timeoutVal ≤ 57
  probes : a.maapAddr.state = .probing → a.First ∨ ∃ due, Armed now lastPoll skew due a

structure SameRange (a b : MaapState) : Prop where
  mac : b.myMacAddr = a.myMacAddr
  base : b.maapAddr.base = a.maapAddr.base
  range : b.maapAddr.range = a.maapAddr.range

section

variable {now lastPoll skew due : ℕ} {a b : MaapState}

lemma Armed.later (h : Armed now lastPoll skew due a) {now' : ℕ} (hle : now ≤ now') :
    Armed now' lastPoll skew due a :=
  { h with soon := h.soon.trans (Nat.add_le_add_right hle _) }

lemma Armed.polledAt (h : Armed now lastPoll skew due a) {t : ℕ} (hle : t ≤ due) :
    Armed now t skew due a :=
  { h with polled := hle }

lemma DeviceInv.later (h : DeviceInv now lastPoll skew a) {now' : ℕ} (hle : now ≤ now') :
    DeviceInv now' lastPoll skew a :=
  { h with probes := fun hstate => (h.probes hstate).imp_right fun ⟨due, hdue⟩ =>
      ⟨due, hdue.later hle⟩ }

lemma SameRange.refl (a : MaapState) : SameRange a a := ⟨rfl, rfl, rfl⟩

lemma SameRange.meets (h : SameRange a b) (c : MaapAddressRange) :
    b.maapAddr.Meets c ↔ a.maapAddr.Meets c := by
  unfold MaapAddressRange.Meets
  rw [h.base, h.range]

lemma SameRange.expels (h : SameRange a b) (frame : List UInt8) :
    Expels b frame ↔ Expels a frame := by
  unfold Expels MaapAddressRange.MeetsRange maapCompareMac
  rw [h.base, h.range, h.mac]

lemma SameRange.probeFrame_eq (h : SameRange a b) : probeFrame b = probeFrame a := by
  unfold probeFrame createMaapPacket
  dsimp only
  rw [h.base, h.range, h.mac]

lemma Armed.expired (h : Armed now lastPoll skew due a)
    (hpoll : now ≤ lastPoll + 10 * ticksPerCentisecond) :
    timeafter ((now + skew) % 2 ^ 32) a.maapTimer.timeout = decide (due < now) := by
  have hsoon := h.soon
  have hpolled := h.polled
  unfold timeafter s32
  rw [h.timeout, decide_eq_decide]
  unfold ticksPerCentisecond at *
  omega

structure Probed (now skew : ℕ) (a b : MaapState) : Prop where
  same : SameRange a b
  outcome : a.maapAddr.probeCount = 0 ∧ b.maapAddr.state = .reserved ∨
    a.maapAddr.probeCount ≠ 0 ∧ b.maapAddr.probeCount = a.maapAddr.probeCount - 1 ∧
      b.timeoutVal = a.timeoutVal ∧
      Armed now now skew (now + a.timeoutVal * ticksPerCentisecond) b

lemma sendProbe_probed {env : MaapEnv} (henv : env.now = (now + skew) % 2 ^ 32)
    (hstate : a.maapAddr.state = .probing) (hinterval : a.timeoutVal ≤ 57)
    (hcount : 0 ≤ a.maapAddr.probeCount) (timer : AvbTimer) :
    (sendProbe env { a with maapTimer := timer }).2.1 = [probeFrame a] ∧
      Probed now skew a (sendProbe env { a with maapTimer := timer }).1 := by
  unfold sendProbe
  dsimp only
  split_ifs with hlast
  · exact ⟨rfl, ⟨rfl, rfl, rfl⟩, Or.inl ⟨hlast, rfl⟩⟩
  · refine ⟨rfl, ⟨rfl, rfl, rfl⟩, Or.inr ⟨hlast, rfl, rfl, hstate, rfl, ?_, ?_, ?_, ?_, ?_⟩⟩
    · rw [startAvbTimer_active]
      rfl
    · show (env.now + a.timeoutVal * ticksPerCentisecond) % 2 ^ 32 = _
      rw [henv]
      omega
    · exact Nat.le_add_right _ _
    · exact Nat.add_le_add_left (Nat.mul_le_mul_right _ hinterval) _
    · show 0 ≤ a.maapAddr.probeCount - 1
      omega

lemma maapDue_of_first (h : a.First) (env : MaapEnv) : maapDue env a = (a.maapTimer, true) :=
  if_pos h.1

lemma maapDue_of_armed {env : MaapEnv} (henv : env.now = (now + skew) % 2 ^ 32)
    (h : Armed now lastPoll skew due a) (hpoll : now ≤ lastPoll + 10 * ticksPerCentisecond) :
    due < now ∧ (maapDue env a).2 = true ∨ now ≤ due ∧ maapDue env a = (a.maapTimer, false) := by
  have hexpired := h.expired hpoll
  unfold maapDue avbTimerExpired
  rw [if_neg (by rw [h.waiting]; decide), if_neg (by rw [h.active]; decide), henv, hexpired]
  by_cases hdue : due < now
  · rw [if_pos (decide_eq_true hdue), h.active]
    exact Or.inl ⟨hdue, rfl⟩
  · rw [if_neg (by rw [decide_eq_true_eq]; exact hdue)]
    exact Or.inr ⟨Nat.le_of_not_lt hdue, rfl⟩

variable (env : MaapEnv)

/-- **A poll while the device probes.**  Its time has come and it sends a probe, or nothing
happens. -/
theorem poll_probing (henv : env.now = (now + skew) % 2 ^ 32) (h : DeviceInv now lastPoll skew a)
    (hpoll : now ≤ lastPoll + 10 * ticksPerCentisecond) (hstate : a.maapAddr.state = .probing) :
    (avb1722MaapPeriodic env a).1 = a ∧ a.maapAddr.immediately = false ∧
        (∀ due, Armed now lastPoll skew due a → now ≤ due) ∨
      (avb1722MaapPeriodic env a).2.1 = [probeFrame a] ∧
        Probed now skew a (avb1722MaapPeriodic env a).1 ∧
        ∀ due, Armed now lastPoll skew due a → due < now := by
  have hsend : (maapDue env a).2 = true → 0 ≤ a.maapAddr.probeCount →
      (avb1722MaapPeriodic env a).2.1 = [probeFrame a] ∧
        Probed now skew a (avb1722MaapPeriodic env a).1 := by
    intro hdue hcount
    unfold avb1722MaapPeriodic
    rw [hstate]
    dsimp only
    rw [if_pos hdue]
    exact sendProbe_probed henv hstate (h.interval hstate).2 hcount _
  rcases h.probes hstate with hfirst | ⟨due, harmed⟩
  · right
    obtain ⟨hframes, hprobed⟩ := hsend (by rw [maapDue_of_first hfirst]) (by rw [hfirst.2]; decide)
    exact ⟨hframes, hprobed, fun due harmed =>
      absurd (harmed.waiting.symm.trans hfirst.1) Bool.false_ne_true⟩
  · rcases maapDue_of_armed henv harmed hpoll with ⟨-, hdue⟩ | ⟨-, hdue⟩
    · right
      obtain ⟨hframes, hprobed⟩ := hsend hdue harmed.probeCount
      refine ⟨hframes, hprobed, fun due' harmed' => ?_⟩
      rcases maapDue_of_armed henv harmed' hpoll with ⟨hlt, -⟩ | ⟨-, hnot⟩
      · exact hlt
      · rw [hnot] at hdue
        cases hdue
    · left
      refine ⟨?_, harmed.waiting, fun due' harmed' => ?_⟩
      · unfold avb1722MaapPeriodic
        rw [hstate]
        dsimp only
        rw [hdue]
        rfl
      · rcases maapDue_of_armed henv harmed' hpoll with ⟨-, hyes⟩ | ⟨hle, -⟩
        · rw [hdue] at hyes
          cases hyes
        · exact hle

lemma poll_other (hstate : a.maapAddr.state ≠ .probing) :
    SameRange a (avb1722MaapPeriodic env a).1 ∧
      (avb1722MaapPeriodic env a).1.maapAddr.state = a.maapAddr.state := by
  unfold avb1722MaapPeriodic
  dsimp only
  split
  · exact ⟨.refl a, rfl⟩
  · rename_i hprobing
    exact absurd hprobing hstate
  · split
    · obtain ⟨hmac, hbase, hrange, hkept, -⟩ :=
        sendAnnounce_keeps env { a with maapTimer := (maapDue env a).1 }
      exact ⟨⟨hmac, hbase, hrange⟩, hkept⟩
    · exact ⟨⟨rfl, rfl, rfl⟩, rfl⟩

structure Restarted (b : MaapState) : Prop where
  probing : b.maapAddr.state = .probing
  first : b.First
  interval : 50 ≤ b.timeoutVal ∧ b.timeoutVal ≤ 57

lemma request_restarted (numAddr : ℤ) (startAddress : Option MacAddr) (a : MaapState) :
    Restarted (avb1722MaapRequestAddresses env numAddr startAddress a) := by
  refine ⟨rfl, ⟨rfl, rfl⟩, Nat.le_add_right _ _, ?_⟩
  unfold avb1722MaapRequestAddresses
  dsimp only
  omega

lemma Restarted.deviceInv (h : Restarted b)
    (hrange : 1 ≤ b.maapAddr.range ∧ b.maapAddr.range ≤ 65535) (now lastPoll skew : ℕ) :
    DeviceInv now lastPoll skew b :=
  ⟨fun _ => hrange, fun _ => h.interval, fun _ => Or.inl h.first⟩

lemma range_redraw (a : MaapState) :
    (avb1722MaapRequestAddresses env (-1) none a).maapAddr.range = a.maapAddr.range := rfl

lemma deviceInv_redraw (h : DeviceInv now lastPoll skew a) (hstate : a.maapAddr.state ≠ .disabled)
    (env : MaapEnv) : DeviceInv now lastPoll skew (avb1722MaapRequestAddresses env (-1) none a) :=
  (request_restarted env (-1) none a).deviceInv (by rw [range_redraw]; exact h.range hstate) now
    lastPoll skew

lemma deviceInv_of_not_probing (h : DeviceInv now lastPoll skew a) (hsame : SameRange a b)
    (hactive : b.maapAddr.state ≠ .disabled → a.maapAddr.state ≠ .disabled)
    (hstate : b.maapAddr.state ≠ .probing) (t : ℕ) : DeviceInv now t skew b where
  range := by
    intro hb
    rw [hsame.range]
    exact h.range (hactive hb)
  interval := fun hprobing => absurd hprobing hstate
  probes := fun hprobing => absurd hprobing hstate

lemma DeviceInv.poll (henv : env.now = (now + skew) % 2 ^ 32)
    (h : DeviceInv now lastPoll skew a) (hpoll : now ≤ lastPoll + 10 * ticksPerCentisecond) :
    DeviceInv now now skew (avb1722MaapPeriodic env a).1 := by
  by_cases hstate : a.maapAddr.state = .probing
  swap
  · obtain ⟨hsame, hkept⟩ := poll_other env hstate
    exact deviceInv_of_not_probing h hsame (by rw [hkept]; exact id) (by rw [hkept]; exact hstate) _
  have hactive : a.maapAddr.state ≠ .disabled := by rw [hstate]; decide
  rcases poll_probing env henv h hpoll hstate with ⟨hkept, hwaiting, hnot⟩ | ⟨-, hprobed, -⟩
  · rw [hkept]
    refine { h with probes := fun _ => ?_ }
    rcases h.probes hstate with hfirst | ⟨due, harmed⟩
    · exact absurd (hwaiting.symm.trans hfirst.1) Bool.false_ne_true
    · exact Or.inr ⟨due, harmed.polledAt (hnot due harmed)⟩
  · rcases hprobed.outcome with ⟨-, hreserved⟩ | ⟨-, -, hval, harmed⟩
    · exact deviceInv_of_not_probing h hprobed.same (fun _ => hactive)
        (by rw [hreserved]; decide) _
    · refine ⟨fun _ => ?_, fun _ => ?_, fun _ => Or.inr ⟨_, harmed⟩⟩
      · rw [hprobed.same.range]
        exact h.range hactive
      · rw [hval]
        exact h.interval hstate

lemma call_cases (h : DeviceInv now lastPoll skew a) (c : MaapCall) (hc : c.Allowed) (t : ℕ) :
    Restarted ((maapMachine skew).call t c a).1 ∧
        DeviceInv now lastPoll skew ((maapMachine skew).call t c a).1 ∨
      ((maapMachine skew).call t c a).1.maapAddr.state = .disabled := by
  cases c with
  | request rand numAddr startAddress =>
    left
    have hrestarted := request_restarted ⟨(t + skew) % 2 ^ 32, rand, 0⟩ numAddr startAddress a
    refine ⟨hrestarted, hrestarted.deviceInv ?_ now lastPoll skew⟩
    have hrange : (avb1722MaapRequestAddresses ⟨(t + skew) % 2 ^ 32, rand, 0⟩ numAddr startAddress
        a).maapAddr.range = numAddr := if_pos (by have := hc.1; omega)
    rw [hrange]
    exact hc
  | rerequest rand =>
    show Restarted (avb1722MaapRerequestAddresses _ a) ∧
        DeviceInv now lastPoll skew (avb1722MaapRerequestAddresses _ a) ∨
      (avb1722MaapRerequestAddresses _ a).maapAddr.state = .disabled
    unfold avb1722MaapRerequestAddresses
    by_cases hstate : a.maapAddr.state = .disabled
    · rw [if_neg (not_not_intro hstate)]
      exact Or.inr hstate
    · rw [if_pos hstate]
      exact Or.inl ⟨request_restarted _ _ _ _, deviceInv_redraw h hstate _⟩
  | relinquish => exact Or.inr rfl

lemma deviceInv_of_disabled (h : a.maapAddr.state = .disabled) (now lastPoll skew : ℕ) :
    DeviceInv now lastPoll skew a :=
  ⟨fun hactive => absurd h hactive, fun hprobing => (nomatch h.symm.trans hprobing),
    fun hprobing => (nomatch h.symm.trans hprobing)⟩

lemma receive_cases (h : DeviceInv now lastPoll skew a) (env : MaapEnv) (bytes : Mem)
    (srcAddr : MacAddr) : Restarted (avb1722MaapProcessPacket env a bytes srcAddr).1 ∧
        DeviceInv now lastPoll skew (avb1722MaapProcessPacket env a bytes srcAddr).1 ∨
      (avb1722MaapProcessPacket env a bytes srcAddr).1 = a := by
  rcases processPacket_cases env a bytes srcAddr with hkept | ⟨hactive, hpicked⟩
  · exact Or.inr hkept
  · rw [hpicked]
    exact Or.inl ⟨request_restarted _ _ _ _, deviceInv_redraw h hactive env⟩

end

/-! ## Bound to lose -/

variable (skew : Bool → ℕ) (s : Net MaapState (List UInt8)) (p : Bool)

def Rival (d : ℕ) : Prop :=
  (s.party (!p)).myMacAddr.toNumReverse < (s.party p).myMacAddr.toNumReverse ∧
    (s.party (!p)).maapAddr.state = .probing ∧
    ((s.party (!p)).First ∧ s.lastPoll (!p) + 20 * ticksPerCentisecond ≤ d ∨
      ∃ due, Armed s.now (s.lastPoll (!p)) (skew (!p)) due (s.party (!p)) ∧
        due + 20 * ticksPerCentisecond ≤ d)

inductive Coming (skew : Bool → ℕ) (s : Net MaapState (List UInt8)) (p : Bool) (d : ℕ) : Prop where
  | probe (m : InFlight (List UInt8)) (hm : m ∈ s.flight) (hsender : m.sender = p)
      (hbody : m.body = probeFrame (s.party p)) (hd : m.sentAt + 87 * ticksPerCentisecond ≤ d)
  | frame (m : InFlight (List UInt8)) (hm : m ∈ s.flight) (hsender : m.sender = !p)
      (hexpels : Expels (s.party p) m.body) (hd : m.sentAt + 10 * ticksPerCentisecond ≤ d)
  | rival (h : Rival skew s p d)

def Doomed : Prop :=
  (s.party p).maapAddr.state = .probing ∧
    ((s.party p).First ∨
      ∃ due, Armed s.now (s.lastPoll p) (skew p) due (s.party p) ∧
        Coming skew s p (earliest due (s.party p)))

def Clash : Prop :=
  (∀ p, (s.party p).maapAddr.state ≠ .disabled) ∧
    ∀ p, (s.party p).maapAddr.Meets (s.party (!p)).maapAddr

structure NetInv (mac : Bool → MacAddr) (skew : Bool → ℕ) (s : Net MaapState (List UInt8)) :
    Prop where
  timely : Timely maapBounds s
  mac : ∀ p, (s.party p).myMacAddr = mac p
  device : ∀ p, DeviceInv s.now (s.lastPoll p) (skew p) (s.party p)
  doomed : Clash s → ∃ p, Doomed skew s p

section

variable {skew : Bool → ℕ} {s t : Net MaapState (List UInt8)} {p : Bool} {d e : ℕ}

lemma Coming.mono (h : Coming skew s p d) (hle : d ≤ e) : Coming skew s p e := by
  cases h with
  | probe m hm hsender hbody hd => exact .probe m hm hsender hbody (hd.trans hle)
  | frame m hm hsender hexpels hd => exact .frame m hm hsender hexpels (hd.trans hle)
  | rival h =>
    refine .rival ⟨h.1, h.2.1, h.2.2.imp (fun h => ⟨h.1, h.2.trans hle⟩) ?_⟩
    rintro ⟨due, harmed, hdue⟩
    exact ⟨due, harmed, hdue.trans hle⟩

lemma Coming.now_le (h : Coming skew s p d) (htimely : Timely maapBounds s) : s.now ≤ d := by
  have hpolled := (htimely.polled (!p)).2
  unfold maapBounds at htimely hpolled
  dsimp only at hpolled
  cases h with
  | probe m hm hsender hbody hd =>
    have hnow := htimely.flight m hm
    dsimp only at hnow
    omega
  | frame m hm hsender hexpels hd => exact (htimely.flight m hm).trans hd
  | rival h =>
    rcases h.2.2 with ⟨-, hle⟩ | ⟨due, harmed, hle⟩
    · omega
    · have := harmed.polled
      omega

lemma Coming.transport (h : Coming skew s p d) (hsame : SameRange (s.party p) (t.party p))
    (hflight : ∀ m ∈ s.flight, m ∈ t.flight) (hrival : Rival skew s p d → Coming skew t p d) :
    Coming skew t p d := by
  cases h with
  | probe m hm hsender hbody hd =>
    exact .probe m (hflight m hm) hsender (hbody.trans hsame.probeFrame_eq.symm) hd
  | frame m hm hsender hexpels hd =>
    exact .frame m (hflight m hm) hsender ((hsame.expels _).mpr hexpels) hd
  | rival h => exact hrival h

lemma Rival.transport (h : Rival skew s p d) (hsame : SameRange (s.party p) (t.party p))
    (hother : t.party (!p) = s.party (!p)) (hpoll : t.lastPoll (!p) = s.lastPoll (!p))
    (hnow : s.now ≤ t.now) : Rival skew t p d := by
  unfold Rival
  rw [hsame.mac, hother, hpoll]
  refine ⟨h.1, h.2.1, h.2.2.imp_right ?_⟩
  rintro ⟨due, harmed, hdue⟩
  exact ⟨due, harmed.later hnow, hdue⟩

end

/-! ## Steps -/

def maapMachines (skew : Bool → ℕ) (p : Bool) :
    Machine MaapState MaapCall MaapChance (List UInt8) :=
  maapMachine (skew p)

section

variable {mac : Bool → MacAddr} {skew : Bool → ℕ} {s t : Net MaapState (List UInt8)} {p q : Bool}

lemma Doomed.transport (h : Doomed skew s p) (hparty : t.party p = s.party p)
    (hpoll : t.lastPoll p = s.lastPoll p) (hnow : s.now ≤ t.now)
    (hcoming : ∀ d, Coming skew s p d → Coming skew t p d) : Doomed skew t p := by
  unfold Doomed
  rw [hparty, hpoll]
  refine ⟨h.1, h.2.imp_right ?_⟩
  rintro ⟨due, harmed, hdue⟩
  exact ⟨due, harmed.later hnow, hcoming _ hdue⟩

lemma Clash.of_same (h : Clash t) (hsame : ∀ p, SameRange (s.party p) (t.party p))
    (hactive : ∀ p, (t.party p).maapAddr.state ≠ .disabled →
      (s.party p).maapAddr.state ≠ .disabled) : Clash s := by
  refine ⟨fun p => hactive p (h.1 p), fun p => ?_⟩
  have hmeets := h.2 p
  rw [(hsame p).meets] at hmeets
  exact (((hsame (!p)).meets _).mp hmeets.symm).symm

lemma doomed_of_restarted (h : Restarted (s.party p)) : Doomed skew s p :=
  ⟨h.probing, Or.inl h.first⟩

lemma NetInv.advance (h : NetInv mac skew s) {d : ℕ}
    (htimely : Timely maapBounds { s with now := s.now + d }) :
    NetInv mac skew { s with now := s.now + d } where
  timely := htimely
  mac := h.mac
  device := fun p => (h.device p).later (Nat.le_add_right _ _)
  doomed := by
    intro hclash
    obtain ⟨p, hdoomed⟩ := h.doomed ⟨hclash.1, hclash.2⟩
    refine ⟨p, hdoomed.transport rfl rfl (Nat.le_add_right _ _) fun d hcoming => ?_⟩
    exact hcoming.transport (.refl _) (fun m hm => hm) fun hrival =>
      .rival (hrival.transport (.refl _) rfl rfl (Nat.le_add_right _ _))

lemma NetInv.call (h : NetInv mac skew s) (q : Bool) {c : MaapCall} (hc : c.Allowed)
    (htimely : Timely maapBounds (s.act q ((maapMachines skew q).call s.now c (s.party q)))) :
    NetInv mac skew (s.act q ((maapMachines skew q).call s.now c (s.party q))) := by
  have hcases := call_cases (h.device q) c hc s.now
  refine ⟨htimely, forall_party q ?_ ?_, forall_party q ?_ ?_, ?_⟩
  · rw [party_act, ← h.mac q]
    cases c with
    | rerequest rand =>
      show (avb1722MaapRerequestAddresses _ (s.party q)).myMacAddr = _
      unfold avb1722MaapRerequestAddresses
      split <;> rfl
    | _ => rfl
  · rw [party_act_not]
    exact h.mac (!q)
  · rw [party_act]
    rcases hcases with ⟨-, hdevice⟩ | hdisabled
    · exact hdevice
    · exact deviceInv_of_disabled hdisabled _ _ _
  · rw [party_act_not]
    exact h.device (!q)
  · intro hclash
    rcases hcases with ⟨hrestarted, -⟩ | hdisabled
    · refine ⟨q, doomed_of_restarted ?_⟩
      rw [party_act]
      exact hrestarted
    · have hactive := hclash.1 q
      rw [party_act] at hactive
      exact absurd hdisabled hactive

/-! ### Polls -/

variable (skew s) in
lemma step_poll_other (q : Bool) (r : MaapChance) :
    (step (maapMachines skew) s (.poll q r)).party (!q) = s.party (!q) ∧
      (step (maapMachines skew) s (.poll q r)).lastPoll (!q) = s.lastPoll (!q) :=
  ⟨party_act_not _ _ _, Function.update_of_ne (by cases q <;> decide) ..⟩

variable (skew s) in
lemma step_poll_self (q : Bool) (r : MaapChance) :
    (step (maapMachines skew) s (.poll q r)).party q =
        (avb1722MaapPeriodic ⟨(s.now + skew q) % 2 ^ 32, r.rand, r.stackWord⟩ (s.party q)).1 ∧
      (step (maapMachines skew) s (.poll q r)).lastPoll q = s.now :=
  ⟨party_act _ _ _, Function.update_self ..⟩

lemma mem_flight_step_poll (q : Bool) (r : MaapChance) {m : InFlight (List UInt8)}
    (hm : m ∈ s.flight) : m ∈ (step (maapMachines skew) s (.poll q r)).flight :=
  mem_flight_act_of_mem _ _ _ hm

variable {r : MaapChance}

lemma doomed_poll_kept (h : NetInv mac skew s)
    (hkept : (step (maapMachines skew) s (.poll q r)).party q = s.party q)
    (hwaiting : (s.party q).maapAddr.immediately = false)
    (hnot : ∀ due, Armed s.now (s.lastPoll q) (skew q) due (s.party q) → s.now ≤ due)
    (hclash : Clash (step (maapMachines skew) s (.poll q r))) :
    ∃ p, Doomed skew (step (maapMachines skew) s (.poll q r)) p := by
  set t := step (maapMachines skew) s (.poll q r) with ht
  obtain ⟨hother, hotherPoll⟩ := step_poll_other skew s q r
  have hpollq : t.lastPoll q = s.now := (step_poll_self skew s q r).2
  have hparty : ∀ p, t.party p = s.party p := forall_party q hkept hother
  have hclash' : Clash s :=
    hclash.of_same (fun p => by rw [hparty]; exact .refl _) (fun p => by rw [hparty]; exact id)
  have hfirst : ¬ (s.party q).First := fun hfirst =>
    absurd (hwaiting.symm.trans hfirst.1) Bool.false_ne_true
  obtain ⟨p, hdoomed⟩ := h.doomed hclash'
  refine ⟨p, ?_⟩
  by_cases hp : p = q
  · -- its own timer runs on
    subst hp
    obtain ⟨hstate, hcase⟩ := hdoomed
    rcases hcase with hcase | ⟨due, harmed, hcoming⟩
    · exact absurd hcase hfirst
    · unfold Doomed
      rw [hkept, hpollq]
      refine ⟨hstate, Or.inr ⟨due, harmed.polledAt (hnot due harmed), ?_⟩⟩
      refine hcoming.transport (by rw [hkept]; exact .refl _)
        (fun m hm => mem_flight_step_poll _ r hm) fun hrival => ?_
      exact .rival (hrival.transport (by rw [hkept]; exact .refl _) hother hotherPoll (le_refl _))
  · -- it is the rival of the other device
    have hp' : p = !q := Bool.eq_not_of_ne hp
    subst hp'
    refine hdoomed.transport hother hotherPoll (le_refl _) fun d hcoming => ?_
    refine hcoming.transport (by rw [hother]; exact .refl _)
      (fun m hm => mem_flight_step_poll _ r hm) fun hrival => ?_
    obtain ⟨hless, hstate, hcase⟩ := hrival
    rw [Bool.not_not] at hless hstate hcase
    rcases hcase with ⟨hcase, -⟩ | ⟨due, harmed, hdue⟩
    · exact absurd hcase hfirst
    · refine .rival ⟨?_, ?_, Or.inr ⟨due, ?_, hdue⟩⟩
      · rw [Bool.not_not, hkept, hother]
        exact hless
      · rw [Bool.not_not, hkept]
        exact hstate
      · rw [Bool.not_not, hkept, hpollq]
        exact harmed.polledAt (hnot due harmed)

lemma Doomed.probeCount_ne_zero (hdoomed : Doomed skew s q) (h : NetInv mac skew s)
    (hdue : ∀ due, Armed s.now (s.lastPoll q) (skew q) due (s.party q) → due < s.now) :
    (s.party q).maapAddr.probeCount ≠ 0 := by
  intro hlast
  rcases hdoomed.2 with hfirst | ⟨due, harmed, hcoming⟩
  · rw [hfirst.2] at hlast
    cases hlast
  · have hnow := hcoming.now_le h.timely
    have hlt := hdue due harmed
    unfold earliest at hnow
    rw [hlast] at hnow
    simp at hnow
    omega

lemma Doomed.poll_probed (hdoomed : Doomed skew s q) (h : NetInv mac skew s)
    (hframe : probeFrame (s.party q) ∈ ((maapMachines skew q).poll s.now r (s.party q)).2)
    (hprobed : Probed s.now (skew q) (s.party q) ((step (maapMachines skew) s (.poll q r)).party q))
    (hdue : ∀ due, Armed s.now (s.lastPoll q) (skew q) due (s.party q) → due < s.now) :
    Doomed skew (step (maapMachines skew) s (.poll q r)) q := by
  obtain ⟨hother, hotherPoll⟩ := step_poll_other skew s q r
  have hpollq := (step_poll_self skew s q r).2
  obtain ⟨hlow, hhigh⟩ := (h.device q).interval hdoomed.1
  rcases hprobed.outcome with ⟨hlast, -⟩ | ⟨hmore, hcount, -, harmed'⟩
  · exact absurd hlast (hdoomed.probeCount_ne_zero h hdue)
  · refine ⟨harmed'.probing, Or.inr ⟨_, by rw [hpollq]; exact harmed', ?_⟩⟩
    rcases hdoomed.2 with hfirst | ⟨due, harmed, hcoming⟩
    · -- it is the first one
      refine .probe ⟨q, s.now, probeFrame (s.party q)⟩ (mem_flight_act_of_sent _ _ _ hframe) rfl
        hprobed.same.probeFrame_eq.symm ?_
      unfold earliest
      rw [hcount, hfirst.2]
      show s.now + 87 * ticksPerCentisecond ≤
        s.now + (s.party q).timeoutVal * ticksPerCentisecond + 2 * (50 * ticksPerCentisecond)
      unfold ticksPerCentisecond
      omega
    · -- it keeps its range no earlier than before
      refine Coming.mono (d := earliest due (s.party q)) ?_ ?_
      · refine hcoming.transport hprobed.same (fun m hm => mem_flight_step_poll _ r hm)
          fun hrival => ?_
        exact .rival (hrival.transport hprobed.same hother hotherPoll (le_refl _))
      · have hlt := hdue due harmed
        have hnonneg := harmed.probeCount
        unfold earliest
        rw [hcount]
        unfold ticksPerCentisecond
        omega

lemma Rival.poll_probed {d : ℕ} (hrival : Rival skew s (!q) d) (h : NetInv mac skew s)
    (hclash : Clash s)
    (hframe : probeFrame (s.party q) ∈ ((maapMachines skew q).poll s.now r (s.party q)).2) :
    Coming skew (step (maapMachines skew) s (.poll q r)) (!q) d := by
  obtain ⟨hless, -, hcase⟩ := hrival
  rw [Bool.not_not] at hless hcase
  have hmeets := hclash.2 (!q)
  rw [Bool.not_not] at hmeets
  refine .frame ⟨q, s.now, probeFrame (s.party q)⟩ (mem_flight_act_of_sent _ _ _ hframe)
    (Bool.not_not q).symm ?_ ?_
  · rw [(step_poll_other skew s q r).1]
    exact expels_probeFrame ((h.device q).range (hclash.1 q)) hmeets hless
  · have hnow := (h.timely.polled q).2
    unfold maapBounds at hnow
    dsimp only at hnow ⊢
    rcases hcase with ⟨-, hle⟩ | ⟨due, harmed, hle⟩
    · omega
    · have := harmed.polled
      omega

lemma doomed_poll_probed (h : NetInv mac skew s) (hstate : (s.party q).maapAddr.state = .probing)
    (hframe : probeFrame (s.party q) ∈ ((maapMachines skew q).poll s.now r (s.party q)).2)
    (hprobed : Probed s.now (skew q) (s.party q) ((step (maapMachines skew) s (.poll q r)).party q))
    (hdue : ∀ due, Armed s.now (s.lastPoll q) (skew q) due (s.party q) → due < s.now)
    (hclash : Clash (step (maapMachines skew) s (.poll q r))) :
    ∃ p, Doomed skew (step (maapMachines skew) s (.poll q r)) p := by
  obtain ⟨hother, hotherPoll⟩ := step_poll_other skew s q r
  have hactive : (s.party q).maapAddr.state ≠ .disabled := by rw [hstate]; decide
  have hclash' : Clash s :=
    hclash.of_same (forall_party q hprobed.same (by rw [hother]; exact .refl _))
      (forall_party q (fun _ => hactive) (by rw [hother]; exact id))
  obtain ⟨p, hdoomed⟩ := h.doomed hclash'
  refine ⟨p, ?_⟩
  by_cases hp : p = q
  · subst hp
    exact hdoomed.poll_probed h hframe hprobed hdue
  · have hp' : p = !q := Bool.eq_not_of_ne hp
    subst hp'
    refine hdoomed.transport hother hotherPoll (le_refl _) fun d hcoming => ?_
    exact hcoming.transport (by rw [hother]; exact .refl _)
      (fun m hm => mem_flight_step_poll _ r hm) fun hrival => hrival.poll_probed h hclash' hframe

lemma doomed_poll_other (h : NetInv mac skew s) (hstate : (s.party q).maapAddr.state ≠ .probing)
    (hsame : SameRange (s.party q) ((step (maapMachines skew) s (.poll q r)).party q))
    (hkept : ((step (maapMachines skew) s (.poll q r)).party q).maapAddr.state =
      (s.party q).maapAddr.state)
    (hclash : Clash (step (maapMachines skew) s (.poll q r))) :
    ∃ p, Doomed skew (step (maapMachines skew) s (.poll q r)) p := by
  obtain ⟨hother, hotherPoll⟩ := step_poll_other skew s q r
  have hclash' : Clash s := hclash.of_same (forall_party q hsame (by rw [hother]; exact .refl _))
    (forall_party q (by rw [hkept]; exact id) (by rw [hother]; exact id))
  obtain ⟨p, hdoomed⟩ := h.doomed hclash'
  refine ⟨p, ?_⟩
  have hp : p = !q := Bool.eq_not_of_ne fun hp => hstate (hp ▸ hdoomed.1)
  subst hp
  refine hdoomed.transport hother hotherPoll (le_refl _) fun d hcoming => ?_
  refine hcoming.transport (by rw [hother]; exact .refl _)
    (fun m hm => mem_flight_step_poll _ r hm) fun hrival => ?_
  have hprobing := hrival.2.1
  rw [Bool.not_not] at hprobing
  exact absurd hprobing hstate

lemma NetInv.poll (h : NetInv mac skew s) (q : Bool) (r : MaapChance)
    (htimely : Timely maapBounds (step (maapMachines skew) s (.poll q r))) :
    NetInv mac skew (step (maapMachines skew) s (.poll q r)) := by
  obtain ⟨hother, hotherPoll⟩ := step_poll_other skew s q r
  obtain ⟨hself, hselfPoll⟩ := step_poll_self skew s q r
  have hpoll : s.now ≤ s.lastPoll q + 10 * ticksPerCentisecond := (h.timely.polled q).2
  have hdevice := (h.device q).poll ⟨(s.now + skew q) % 2 ^ 32, r.rand, r.stackWord⟩ rfl hpoll
  -- in all cases the range is the same
  have hcases : SameRange (s.party q) ((step (maapMachines skew) s (.poll q r)).party q) ∧
      (Clash (step (maapMachines skew) s (.poll q r)) →
        ∃ p, Doomed skew (step (maapMachines skew) s (.poll q r)) p) := by
    by_cases hstate : (s.party q).maapAddr.state = .probing
    · rcases poll_probing ⟨(s.now + skew q) % 2 ^ 32, r.rand, r.stackWord⟩ rfl (h.device q)
        hpoll hstate with ⟨hkept, hwaiting, hnot⟩ | ⟨hframe, hprobed, hdue⟩
      · rw [← hself] at hkept
        refine ⟨?_, doomed_poll_kept h hkept hwaiting hnot⟩
        rw [hkept]
        exact .refl _
      · rw [← hself] at hprobed
        refine ⟨hprobed.same, doomed_poll_probed h hstate ?_ hprobed hdue⟩
        show _ ∈ (avb1722MaapPeriodic _ (s.party q)).2.1
        rw [hframe]
        exact List.mem_singleton_self _
    · obtain ⟨hsame, hkept⟩ :=
        poll_other ⟨(s.now + skew q) % 2 ^ 32, r.rand, r.stackWord⟩ hstate
      rw [← hself] at hsame hkept
      exact ⟨hsame, doomed_poll_other h hstate hsame hkept⟩
  refine ⟨htimely, forall_party q ?_ ?_, forall_party q ?_ ?_, hcases.2⟩
  · rw [hcases.1.mac]
    exact h.mac q
  · rw [hother]
    exact h.mac (!q)
  · rw [hself, hselfPoll]
    exact hdevice
  · rw [hother, hotherPoll]
    exact h.device (!q)

/-! ### Frames that arrive -/

lemma NetInv.toNumReverse_ne (h : NetInv mac skew s) (hmac : mac false ≠ mac true) (q : Bool) :
    (s.party q).myMacAddr.toNumReverse ≠ (s.party (!q)).myMacAddr.toNumReverse := by
  intro heq
  have hsame := MacAddr.toNumReverse_inj heq
  rw [h.mac, h.mac] at hsame
  cases q with
  | false => exact hmac hsame
  | true => exact hmac hsame.symm

lemma NetInv.rival_of_probing (h : NetInv mac skew s)
    (hstate : (s.party q).maapAddr.state = .probing)
    (hless : (s.party q).myMacAddr.toNumReverse < (s.party (!q)).myMacAddr.toNumReverse) {d : ℕ}
    (hd : s.now + 77 * ticksPerCentisecond ≤ d) : Rival skew s (!q) d := by
  unfold Rival
  rw [Bool.not_not]
  refine ⟨hless, hstate, ?_⟩
  have hpolled := (h.timely.polled q).1
  rcases (h.device q).probes hstate with hfirst | ⟨due, harmed⟩
  · exact Or.inl ⟨hfirst, by omega⟩
  · have hsoon := harmed.soon
    exact Or.inr ⟨due, harmed, by omega⟩

lemma NetInv.probe_arrived {body : List UInt8} {r : MaapChance} (h : NetInv mac skew s)
    (hmac : mac false ≠ mac true) (hclash : Clash s) (hbody : body = probeFrame (s.party (!q)))
    (hexpelled : ¬ ((s.party q).maapAddr.state = .probing ∧ Expels (s.party q) body)) :
    (∃ frame ∈ ((maapMachines skew q).receive s.now r body (s.party q)).2,
        Expels (s.party (!q)) frame) ∨
      ∀ d, s.now + 77 * ticksPerCentisecond ≤ d → Rival skew s (!q) d := by
  have hactive := hclash.1 q
  have hrangeq := (h.device q).range hactive
  have hrange := (h.device (!q)).range (hclash.1 (!q))
  cases hstate : (s.party q).maapAddr.state with
  | disabled => exact absurd hstate hactive
  | reserved =>
    left
    obtain ⟨frame, hexpels, hprocess⟩ := process_probe_defended
      ⟨(s.now + skew q) % 2 ^ 32, r.rand, r.stackWord⟩ hrangeq hrange hstate (hclash.2 q)
    rw [← hbody] at hprocess
    refine ⟨frame, ?_, hexpels⟩
    show frame ∈ (avb1722MaapProcessPacket _ (s.party q) _ _).2
    rw [hprocess]
    exact List.mem_singleton_self _
  | probing =>
    right
    intro d hd
    rcases Nat.lt_or_gt_of_ne (h.toNumReverse_ne hmac q) with hless | hless
    · exact h.rival_of_probing hstate hless hd
    · refine absurd ⟨hstate, ?_⟩ hexpelled
      rw [hbody]
      exact expels_probeFrame hrange (hclash.2 q) hless

lemma doomed_deliver_kept {k : ℕ} {m : InFlight (List UInt8)} {r : MaapChance}
    (h : NetInv mac skew s) (hmac : mac false ≠ mac true) (hk : s.flight[k]? = some m)
    (hq : m.sender = !q)
    (hkept : ((maapMachines skew q).receive s.now r m.body (s.party q)).1 = s.party q)
    (hclash : Clash s) : ∃ p, Doomed skew (Net.act { s with flight := s.flight.eraseIdx k } q
      ((maapMachines skew q).receive s.now r m.body (s.party q))) p := by
  set t := Net.act { s with flight := s.flight.eraseIdx k } q
      ((maapMachines skew q).receive s.now r m.body (s.party q)) with ht
  have hparty : ∀ p, t.party p = s.party p := forall_party q
    ((party_act _ _ _).trans hkept) (party_act_not _ _ _)
  have hflight : ∀ m' ∈ s.flight, m' = m ∨ m' ∈ t.flight := fun m' hm' =>
    (mem_eraseIdx_or hk hm').imp_right (mem_flight_act_of_mem _ _ _)
  have hsamep : ∀ p, SameRange (s.party p) (t.party p) := fun p => by rw [hparty]; exact .refl _
  have hmem : m ∈ s.flight := List.mem_of_getElem? hk
  have hnow : s.now ≤ m.sentAt + 10 * ticksPerCentisecond := h.timely.flight m hmem
  obtain ⟨p, hdoomed⟩ := h.doomed hclash
  -- a frame that expels would not have been ignored, unless the device starts anyway
  by_cases hexpelled : (s.party q).maapAddr.state = .probing ∧ Expels (s.party q) m.body
  · refine ⟨q, doomed_of_restarted ?_⟩
    have hpicked := process_of_expels ⟨(s.now + skew q) % 2 ^ 32, r.rand, r.stackWord⟩ hexpelled.1
      (ends_lt ((h.device q).range (hclash.1 q)).2) hexpelled.2
    rw [hparty, ← hkept]
    show Restarted (avb1722MaapProcessPacket _ (s.party q) _ _).1
    rw [hpicked]
    exact request_restarted _ _ _ _
  refine ⟨p, hdoomed.transport (hparty p) rfl (le_refl _) fun d hcoming => ?_⟩
  cases hcoming with
  | rival hrival =>
    exact .rival (hrival.transport (hsamep p) (hparty _) rfl (le_refl _))
  | frame m' hm' hsender hexpels hd =>
    rcases hflight m' hm' with rfl | hm'
    · -- it is the frame for `q`
      have hpq : p = q := Bool.not_inj (hsender.symm.trans hq)
      subst hpq
      exact absurd ⟨hdoomed.1, hexpels⟩ hexpelled
    · exact .frame m' hm' hsender (((hsamep p).expels _).mpr hexpels) hd
  | probe m' hm' hsender hbody hd =>
    rcases hflight m' hm' with rfl | hm'
    swap
    · exact .probe m' hm' hsender (hbody.trans (hsamep p).probeFrame_eq.symm) hd
    -- the probe has arrived at `q`
    have hpq : p = !q := hsender.symm.trans hq
    subst hpq
    rcases h.probe_arrived hmac hclash hbody hexpelled with ⟨frame, hframe, hexpels⟩ | hrival
    · -- it is answered
      refine .frame ⟨q, s.now, frame⟩ (mem_flight_act_of_sent _ _ _ hframe)
        (Bool.not_not q).symm (((hsamep _).expels _).mpr hexpels) ?_
      dsimp only
      omega
    · -- it is ignored, but `q` goes on probing
      exact .rival ((hrival d (by omega)).transport (hsamep _) (hparty _) rfl (le_refl _))

lemma NetInv.deliver (h : NetInv mac skew s) (hmac : mac false ≠ mac true) {k : ℕ}
    {m : InFlight (List UInt8)} {r : MaapChance} (hk : s.flight[k]? = some m) (hq : m.sender = !q)
    (htimely : Timely maapBounds (Net.act { s with flight := s.flight.eraseIdx k } q
      ((maapMachines skew q).receive s.now r m.body (s.party q)))) :
    NetInv mac skew (Net.act { s with flight := s.flight.eraseIdx k } q
      ((maapMachines skew q).receive s.now r m.body (s.party q))) := by
  have hmacq : ((maapMachines skew q).receive s.now r m.body (s.party q)).1.myMacAddr =
      (s.party q).myMacAddr := by
    show (avb1722MaapProcessPacket _ (s.party q) _ _).1.myMacAddr = _
    rcases processPacket_cases ⟨(s.now + skew q) % 2 ^ 32, r.rand, r.stackWord⟩ (s.party q)
      (receivedPacket m.body) (receivedSrcAddr m.body) with hkept | ⟨-, hpicked⟩
    · rw [hkept]
    · rw [hpicked]
      rfl
  have hcases := receive_cases (h.device q) ⟨(s.now + skew q) % 2 ^ 32, r.rand, r.stackWord⟩
    (receivedPacket m.body) (receivedSrcAddr m.body)
  refine ⟨htimely, forall_party q ?_ ?_, forall_party q ?_ ?_, fun hclash => ?_⟩
  · rw [party_act, hmacq]
    exact h.mac q
  · rw [party_act_not]
    exact h.mac (!q)
  · rw [party_act]
    rcases hcases with ⟨-, hdevice⟩ | hkept
    · exact hdevice
    · show DeviceInv _ _ _ (avb1722MaapProcessPacket _ (s.party q) _ _).1
      rw [hkept]
      exact h.device q
  · rw [party_act_not]
    exact h.device (!q)
  · rcases hcases with ⟨hrestarted, -⟩ | hkept
    · refine ⟨q, doomed_of_restarted ?_⟩
      rw [party_act]
      exact hrestarted
    · have hkept' : ((maapMachines skew q).receive s.now r m.body (s.party q)).1 =
          s.party q := hkept
      refine doomed_deliver_kept h hmac hk hq hkept' (hclash.of_same ?_ ?_)
      · refine forall_party q ?_ ?_
        · rw [party_act, hkept']
          exact .refl _
        · rw [party_act_not]
          exact .refl _
      · refine forall_party q ?_ ?_
        · rw [party_act, hkept']
          exact id
        · rw [party_act_not]
          exact id

/-- **Step.**  Whatever is allowed keeps the invariant. -/
theorem NetInv.step {e : Event MaapCall MaapChance} (h : NetInv mac skew s)
    (hmac : mac false ≠ mac true) (he : Allowed maapBounds MaapCall.Allowed s e) :
    NetInv mac skew (step (maapMachines skew) s e) := by
  have htimely : Timely maapBounds (TimedNet.step (maapMachines skew) s e) := h.timely.step he
  cases e with
  | advance d => exact h.advance htimely
  | call p c => exact h.call p he htimely
  | poll p r => exact h.poll p r htimely
  | deliver k r =>
    unfold TimedNet.step at htimely ⊢
    dsimp only at htimely ⊢
    split at htimely
    · exact h
    · rename_i m hk
      exact h.deliver hmac hk (Bool.not_not m.sender).symm htimely

lemma netInv_start (mac : Bool → MacAddr) (skew : Bool → ℕ) : NetInv mac skew (maapNet mac) where
  timely := ⟨fun _ hm => (nomatch hm), fun _ => ⟨le_refl 0, Nat.zero_le _⟩⟩
  mac := fun _ => rfl
  device := fun _ => deviceInv_of_disabled rfl _ _ _
  doomed := fun hclash => absurd rfl (hclash.1 true)

end

/-! ## Exclusion -/

/-- **Two devices keep disjoint ranges.**  For all clocks, random numbers, requests of up to 65535
addresses and their times, and every order in which frames arrive, the ranges that two devices with
different addresses keep do not intersect.  If none of them runs over the end of the pool prefix,
no address is kept by both. -/
theorem maap_exclusive (mac : Bool → MacAddr) (skew : Bool → ℕ) (hmac : mac false ≠ mac true)
    (es : List (Event MaapCall MaapChance))
    (hes : Run.Guarded (step (maapMachines skew)) (Allowed maapBounds MaapCall.Allowed)
      (maapNet mac) es) :
    let s := Run.runFrom (step (maapMachines skew)) (maapNet mac) es
    (∀ p, (s.party p).maapAddr.state = .reserved) →
      ¬ (s.party false).maapAddr.Meets (s.party true).maapAddr ∧
        ((∀ p, ((s.party p).maapAddr.base.offset : ℤ) + (s.party p).maapAddr.range ≤ 65536) →
          (reservedAddresses (s.party false).maapAddr).Disjoint
            (reservedAddresses (s.party true).maapAddr)) := by
  intro s hreserved
  have hstep : ∀ s e, NetInv mac skew s → Allowed maapBounds MaapCall.Allowed s e →
      NetInv mac skew (step (maapMachines skew) s e) := fun s e h he => h.step hmac he
  have hinv : NetInv mac skew s := Run.invariant_of_guarded hstep (netInv_start mac skew) es hes
  have hapart : ¬ (s.party false).maapAddr.Meets (s.party true).maapAddr := by
    intro hmeets
    obtain ⟨p, hprobing, -⟩ := hinv.doomed
      ⟨fun p => by rw [hreserved p]; decide, forall_party false hmeets hmeets.symm⟩
    rw [hreserved p] at hprobing
    cases hprobing
  exact ⟨hapart, fun hends => disjoint_of_not_meets (hends false) (hends true) hapart⟩

def twoMacs (p : Bool) : MacAddr := Vector.replicate 6 (if p then 2 else 1)

def twoSkews (p : Bool) : ℕ := if p then 4294967000 else 17

def maapRound : List (Event MaapCall MaapChance) :=
  [.poll false ⟨0, 0⟩, .poll true ⟨0, 0⟩, .deliver 0 ⟨77, 0⟩, .deliver 0 ⟨77, 0⟩,
    .advance (10 * ticksPerCentisecond)]

/-- Both devices ask for addresses, at the same time, and nothing happens to them for 2.4 s. -/
def bothRequest (numAddr : Bool → ℤ) (offset : Bool → ℕ) : List (Event MaapCall MaapChance) :=
  [.call false (.request 0 (numAddr false)
      (some (maapAllocationPoolBaseAddr.withOffset (offset false)))),
    .call true (.request 0 (numAddr true)
      (some (maapAllocationPoolBaseAddr.withOffset (offset true))))] ++
    (List.replicate 24 maapRound).flatten

def bothRequestNet (numAddr : Bool → ℤ) (offset : Bool → ℕ) : Net MaapState (List UInt8) :=
  Run.runFrom (step (maapMachines twoSkews)) (maapNet twoMacs) (bothRequest numAddr offset)

theorem maap_exclusive_same_address :
    (∀ p, ((bothRequestNet (fun _ => 1) fun _ => 0).party p).maapAddr.state = .reserved) ∧
      (reservedAddresses ((bothRequestNet (fun _ => 1) fun _ => 0).party false).maapAddr).Disjoint
        (reservedAddresses ((bothRequestNet (fun _ => 1) fun _ => 0).party true).maapAddr) :=
  ⟨by decide +kernel,
    (maap_exclusive twoMacs twoSkews (by decide +kernel) (bothRequest (fun _ => 1) fun _ => 0)
      (by decide +kernel) (by decide +kernel)).2 (by decide +kernel)⟩

/-- A request of at least one address. -/
def MaapCall.AtLeastOne : MaapCall → Prop
  | .request _ numAddr _ => 1 ≤ numAddr
  | _ => True

instance : (c : MaapCall) → Decidable c.AtLeastOne
  | .request _ _ _ => inferInstanceAs (Decidable (1 ≤ _))
  | .rerequest _ | .relinquish => inferInstanceAs (Decidable True)

/-- Both devices keep the whole pool, which their probes call a range of 0 addresses.  And if one
keeps two addresses from the last one on, and the other the first, the first is kept by both. -/
theorem maap_keeps_shared_addresses :
    (Run.Guarded (step (maapMachines twoSkews)) (Allowed maapBounds MaapCall.AtLeastOne)
        (maapNet twoMacs) (bothRequest (fun _ => 65536) fun _ => 0) ∧
      (bothRequestNet (fun _ => 65536) fun _ => 0).flight = [] ∧
      (∀ p, ((bothRequestNet (fun _ => 65536) fun _ => 0).party p).maapAddr.state = .reserved) ∧
      ((bothRequestNet (fun _ => 65536) fun _ => 0).party false).maapAddr.Meets
        ((bothRequestNet (fun _ => 65536) fun _ => 0).party true).maapAddr) ∧
    Run.Guarded (step (maapMachines twoSkews)) (Allowed maapBounds MaapCall.Allowed)
        (maapNet twoMacs) (bothRequest (fun p => if p then 1 else 2) fun p =>
          if p then 0 else 65535) ∧
      (∀ p, ((bothRequestNet (fun p => if p then 1 else 2) fun p =>
        if p then 0 else 65535).party p).maapAddr.state = .reserved) ∧
      ∃ x ∈ reservedAddresses ((bothRequestNet (fun p => if p then 1 else 2) fun p =>
          if p then 0 else 65535).party false).maapAddr,
        x ∈ reservedAddresses ((bothRequestNet (fun p => if p then 1 else 2) fun p =>
          if p then 0 else 65535).party true).maapAddr := by
  refine ⟨by decide +kernel, by decide +kernel, by decide +kernel, ?_⟩
  exact ⟨maapAllocationPoolBaseAddr.withOffset 0, by decide +kernel, by decide +kernel⟩
