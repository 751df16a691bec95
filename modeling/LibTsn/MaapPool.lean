/-
# Ranges and the address pool of MAAP

A device may claim addresses of the pool only.  A range that is drawn at random starts at an
offset below the size of the pool less the range, but `avb_1722_maap_request_addresses` draws it
before it stores the number of addresses that are requested: the offset fits the range of the
request before.
-/
import LibTsn.Maap
import LibTsn.Run

/-! ## Events of a device -/

inductive MaapEvent where
  | request (env : MaapEnv) (numAddr : ℤ) (startAddress : Option MacAddr)
  | rerequest (env : MaapEnv)
  | relinquish
  | periodic (env : MaapEnv)
  | packet (env : MaapEnv) (bytes : Mem) (srcAddr : MacAddr)

variable (s : MaapState)

def MaapState.step : MaapEvent → MaapState
  | .request env numAddr startAddress => avb1722MaapRequestAddresses env numAddr startAddress s
  | .rerequest env => avb1722MaapRerequestAddresses env s
  | .relinquish => avb1722MaapRelinquishAddresses s
  | .periodic env => (avb1722MaapPeriodic env s).1
  | .packet env bytes srcAddr => (avb1722MaapProcessPacket env s bytes srcAddr).1

def MaapState.reported : MaapEvent → List MacAddr
  | .periodic env => (avb1722MaapPeriodic env s).2.2
  | _ => []

def maapStart (macaddr : MacAddr) : MaapState := avb1722MaapInit macaddr maapStatics

/-! ## The pool -/

def MacAddr.InPool (a : MacAddr) : Prop :=
  a.pool = maapAllocationPoolBaseAddr.pool ∧ a.offset < maapAllocationPoolSize
  deriving Decidable

def MacAddr.RangeInPool (a : MacAddr) (range : ℤ) : Prop :=
  a.pool = maapAllocationPoolBaseAddr.pool ∧ (a.offset : ℤ) + range ≤ maapAllocationPoolSize
  deriving Decidable

def MaapEvent.Sensible : MaapEvent → Prop
  | .request _ numAddr startAddress =>
    1 ≤ numAddr ∧ numAddr ≤ maapAllocationPoolSize - 1 ∧
      ∀ a ∈ startAddress, a.RangeInPool numAddr
  | _ => True

instance decidableSensible : (e : MaapEvent) → Decidable e.Sensible
  | .request _ numAddr startAddress =>
    -- not by trying every address there is
    haveI : Decidable (∀ a ∈ startAddress, a.RangeInPool numAddr) := startAddress.decidableForallMem
    inferInstanceAs (Decidable (_ ∧ _ ∧ ∀ a ∈ startAddress, _))
  | .rerequest _ | .relinquish | .periodic _ | .packet _ _ _ => inferInstanceAs (Decidable True)

/-- A range that is drawn at random ends inside the pool. -/
def DrawFits : MaapEvent → Prop
  | .request env numAddr none =>
    (rangeOffset env.rand s.maapAddr.range : ℤ) + numAddr ≤ maapAllocationPoolSize
  | _ => True

instance (s : MaapState) : (e : MaapEvent) → Decidable (DrawFits s e)
  | .request _ _ none => inferInstanceAs (Decidable (_ ≤ _))
  | .request _ _ (some _) => inferInstanceAs (Decidable True)
  | .rerequest _ | .relinquish | .periodic _ | .packet _ _ _ => inferInstanceAs (Decidable True)

def MaapState.shown (e : MaapEvent) : List (MaapAddressRange × List MacAddr) :=
  [((s.step e).maapAddr, s.reported e)]

def ShownInPool (r : MaapAddressRange × List MacAddr) : Prop :=
  (r.1.state ≠ .disabled → r.1.base.RangeInPool r.1.range) ∧ ∀ a ∈ r.2, a.InPool
  deriving Decidable

structure MaapState.PoolInv (s : MaapState) : Prop where
  pool : s.maapAddr.base.pool = maapAllocationPoolBaseAddr.pool
  range_nonneg : 0 ≤ s.maapAddr.range
  range_le : s.maapAddr.range ≤ maapAllocationPoolSize - 1
  fits : s.maapAddr.state ≠ .disabled → s.maapAddr.base.RangeInPool s.maapAddr.range

lemma poolInv_start (macaddr : MacAddr) : (maapStart macaddr).PoolInv :=
  ⟨rfl, le_refl 0, Int.natCast_nonneg 0xfdff, fun h => absurd rfl h⟩

section

variable {s : MaapState} {env : MaapEnv}

lemma rangeOffset_lt (h : s.PoolInv) (rand : ℕ) :
    (rangeOffset rand s.maapAddr.range : ℤ) + s.maapAddr.range < maapAllocationPoolSize := by
  have hnonneg := h.range_nonneg
  have hle := h.range_le
  have hdivisor : u32 (maapAllocationPoolSize - s.maapAddr.range) =
      ((maapAllocationPoolSize : ℤ) - s.maapAddr.range).toNat := by
    unfold u32 maapAllocationPoolSize at *
    omega
  have hlt := Nat.mod_lt rand (y := ((maapAllocationPoolSize : ℤ) - s.maapAddr.range).toNat)
    (by omega)
  unfold rangeOffset
  rw [hdivisor]
  omega

lemma drawn_in_pool_iff (h : s.PoolInv) (rand : ℕ) (range : ℤ) :
    (s.maapAddr.base.withOffset (rangeOffset rand s.maapAddr.range)).RangeInPool range ↔
      (rangeOffset rand s.maapAddr.range : ℤ) + range ≤ maapAllocationPoolSize := by
  have hlt := rangeOffset_lt h rand
  have hnonneg := h.range_nonneg
  have hsmall : rangeOffset rand s.maapAddr.range % 65536 = rangeOffset rand s.maapAddr.range := by
    unfold maapAllocationPoolSize at hlt
    omega
  unfold MacAddr.RangeInPool
  rw [MacAddr.pool_withOffset, MacAddr.offset_withOffset, hsmall]
  exact and_iff_right h.pool

lemma poolInv_redraw (h : s.PoolInv) : (avb1722MaapRequestAddresses env (-1) none s).PoolInv := by
  have hfits := (drawn_in_pool_iff h env.rand s.maapAddr.range).mpr (rangeOffset_lt h env.rand).le
  exact ⟨(MacAddr.pool_withOffset _ _).trans h.pool, h.range_nonneg, h.range_le, fun _ => hfits⟩

lemma range_request {numAddr : ℤ} {startAddress : Option MacAddr} (h : 1 ≤ numAddr) :
    (avb1722MaapRequestAddresses env numAddr startAddress s).maapAddr.range = numAddr :=
  if_pos (by omega)

variable (s env) in
lemma periodic_range : (avb1722MaapPeriodic env s).1.maapAddr.base = s.maapAddr.base ∧
      (avb1722MaapPeriodic env s).1.maapAddr.range = s.maapAddr.range ∧
      ((avb1722MaapPeriodic env s).1.maapAddr.state ≠ .disabled ↔
        s.maapAddr.state ≠ .disabled) := by
  unfold avb1722MaapPeriodic
  dsimp only
  split
  · exact ⟨rfl, rfl, Iff.rfl⟩
  · rename_i hstate
    split
    · unfold sendProbe
      dsimp only
      split
      · exact ⟨rfl, rfl, iff_of_true (fun h => nomatch h) (by rw [hstate]; decide)⟩
      · exact ⟨rfl, rfl, Iff.rfl⟩
    · exact ⟨rfl, rfl, Iff.rfl⟩
  · split
    · obtain ⟨-, hbase, hrange, hkept, -⟩ :=
        sendAnnounce_keeps env { s with maapTimer := (maapDue env s).1 }
      exact ⟨hbase, hrange, by rw [hkept]⟩
    · exact ⟨rfl, rfl, Iff.rfl⟩

variable (s env) in
lemma periodic_reported : (avb1722MaapPeriodic env s).2.2 = [] ∨
      s.maapAddr.state ≠ .disabled ∧
        (avb1722MaapPeriodic env s).2.2 = reservedAddresses s.maapAddr := by
  unfold avb1722MaapPeriodic
  dsimp only
  split
  · exact Or.inl rfl
  · rename_i hstate
    split
    · unfold sendProbe
      dsimp only
      split
      · exact Or.inr ⟨by rw [hstate]; decide, rfl⟩
      · exact Or.inl rfl
    · exact Or.inl rfl
  · split
    · exact Or.inl (sendAnnounce_keeps env _).2.2.2.2
    · exact Or.inl rfl

lemma reservedAddresses_inPool {addr : MaapAddressRange}
    (h : addr.base.RangeInPool addr.range) : ∀ a ∈ reservedAddresses addr, a.InPool := by
  intro a ha
  obtain ⟨i, hi, rfl⟩ := List.mem_map.mp ha
  have hlt := List.mem_range.mp hi
  have hfits := h.2
  unfold MacAddr.InPool
  rw [MacAddr.pool_withOffset, MacAddr.offset_withOffset]
  refine ⟨h.1, ?_⟩
  unfold maapAllocationPoolSize at *
  omega

/-- **Step.**  What an event shows lies in the pool exactly if its draw fits. -/
theorem shown_in_pool_iff (h : s.PoolInv) {e : MaapEvent} (he : e.Sensible) :
    (∀ r ∈ s.shown e, ShownInPool r) ↔ DrawFits s e := by
  unfold MaapState.shown
  rw [List.forall_mem_singleton]
  cases e with
  | request env numAddr startAddress =>
    obtain ⟨hone, -, hstart⟩ := he
    have hshown : ShownInPool
        ((avb1722MaapRequestAddresses env numAddr startAddress s).maapAddr, []) ↔
        (avb1722MaapRequestAddresses env numAddr startAddress s).maapAddr.base.RangeInPool
          numAddr := by
      unfold ShownInPool
      rw [range_request hone]
      exact ⟨fun h => h.1 (fun hstate => nomatch hstate), fun h =>
        ⟨fun _ => h, fun a ha => nomatch ha⟩⟩
    refine hshown.trans ?_
    cases startAddress with
    | none => exact drawn_in_pool_iff h env.rand numAddr
    | some a => exact iff_of_true (hstart a rfl) trivial
  | rerequest env =>
    refine iff_of_true ⟨?_, fun a ha => nomatch ha⟩ trivial
    show (avb1722MaapRerequestAddresses env s).maapAddr.state ≠ .disabled → _
    unfold MaapState.step avb1722MaapRerequestAddresses
    dsimp only
    split
    · exact (poolInv_redraw h).fits
    · exact h.fits
  | relinquish =>
    exact iff_of_true ⟨fun hstate => absurd rfl hstate, fun a ha => nomatch ha⟩ trivial
  | periodic env =>
    obtain ⟨hbase, hrange, hstate⟩ := periodic_range s env
    refine iff_of_true ⟨?_, ?_⟩ trivial
    · show (avb1722MaapPeriodic env s).1.maapAddr.state ≠ .disabled →
        (avb1722MaapPeriodic env s).1.maapAddr.base.RangeInPool
          (avb1722MaapPeriodic env s).1.maapAddr.range
      rw [hbase, hrange, hstate]
      exact h.fits
    · show ∀ a ∈ (avb1722MaapPeriodic env s).2.2, a.InPool
      rcases periodic_reported s env with hnone | ⟨hactive, hall⟩
      · rw [hnone]
        exact fun a ha => nomatch ha
      · rw [hall]
        exact reservedAddresses_inPool (h.fits hactive)
  | packet env bytes srcAddr =>
    refine iff_of_true ⟨?_, fun a ha => nomatch ha⟩ trivial
    show (avb1722MaapProcessPacket env s bytes srcAddr).1.maapAddr.state ≠ .disabled →
      (avb1722MaapProcessPacket env s bytes srcAddr).1.maapAddr.base.RangeInPool
        (avb1722MaapProcessPacket env s bytes srcAddr).1.maapAddr.range
    rcases processPacket_cases env s bytes srcAddr with hkept | ⟨-, hpicked⟩
    · rw [hkept]
      exact h.fits
    · rw [hpicked]
      exact (poolInv_redraw h).fits

lemma step_range (h : s.PoolInv) {e : MaapEvent} (he : e.Sensible) :
    (s.step e).maapAddr.base.pool = maapAllocationPoolBaseAddr.pool ∧
      0 ≤ (s.step e).maapAddr.range ∧
      (s.step e).maapAddr.range ≤ maapAllocationPoolSize - 1 := by
  have hkept := And.intro h.pool (And.intro h.range_nonneg h.range_le)
  have hredraw : ∀ env, (avb1722MaapRequestAddresses env (-1) none s).PoolInv :=
    fun env => poolInv_redraw h
  cases e with
  | request env numAddr startAddress =>
    obtain ⟨hone, hmax, hstart⟩ := he
    show (avb1722MaapRequestAddresses env numAddr startAddress s).maapAddr.base.pool = _ ∧
      0 ≤ (avb1722MaapRequestAddresses env numAddr startAddress s).maapAddr.range ∧
      (avb1722MaapRequestAddresses env numAddr startAddress s).maapAddr.range ≤ _
    rw [range_request hone]
    refine ⟨?_, by omega, hmax⟩
    cases startAddress with
    | none => exact (MacAddr.pool_withOffset _ _).trans h.pool
    | some a => exact (hstart a rfl).1
  | rerequest env =>
    unfold MaapState.step avb1722MaapRerequestAddresses
    dsimp only
    split
    · exact ⟨(hredraw env).pool, (hredraw env).range_nonneg, (hredraw env).range_le⟩
    · exact hkept
  | relinquish => exact hkept
  | periodic env =>
    obtain ⟨hbase, hrange, -⟩ := periodic_range s env
    show (avb1722MaapPeriodic env s).1.maapAddr.base.pool = _ ∧
      0 ≤ (avb1722MaapPeriodic env s).1.maapAddr.range ∧
      (avb1722MaapPeriodic env s).1.maapAddr.range ≤ _
    rw [hbase, hrange]
    exact hkept
  | packet env bytes srcAddr =>
    unfold MaapState.step
    dsimp only
    rcases processPacket_cases env s bytes srcAddr with hsame | ⟨-, hpicked⟩
    · rw [hsame]
      exact hkept
    · rw [hpicked]
      exact ⟨(hredraw env).pool, (hredraw env).range_nonneg, (hredraw env).range_le⟩

lemma MaapState.PoolInv.step (h : s.PoolInv) {e : MaapEvent} (he : e.Sensible)
    (hfits : DrawFits s e) : (s.step e).PoolInv := by
  obtain ⟨hpool, hnonneg, hle⟩ := step_range h he
  exact ⟨hpool, hnonneg, hle, ((shown_in_pool_iff h he).mpr hfits _ List.mem_cons_self).1⟩

end

/-- **Ranges in the pool.**  In every run of sensible requests, repeated requests, packets and
periodic calls, every range that is probed or kept and every address that is reported lies in the
pool, exactly if each offset that is drawn for a number of addresses leaves room for them. -/
theorem ranges_in_pool_iff (macaddr : MacAddr) (es : List MaapEvent) (hes : ∀ e ∈ es, e.Sensible) :
    (∀ r ∈ Run.outputs MaapState.step MaapState.shown (maapStart macaddr) es, ShownInPool r) ↔
      Run.Guarded MaapState.step DrawFits (maapStart macaddr) es := by
  have hstep : ∀ (s : MaapState) e, s.PoolInv → e.Sensible → DrawFits s e → (s.step e).PoolInv :=
    fun s e h he hfits => h.step he hfits
  exact Run.forall_outputs_iff_of_guarded hstep (fun s e h he => shown_in_pool_iff h he)
    (poolInv_start macaddr) hes

def probedRequest (rand : ℕ) (numAddr : ℤ) (startAddress : Option MacAddr) : List MaapEvent :=
  [.request ⟨0, rand, 0⟩ numAddr startAddress, .periodic ⟨0, 0, 0⟩,
    .periodic ⟨58 * ticksPerCentisecond, 0, 0⟩, .periodic ⟨116 * ticksPerCentisecond, 0, 0⟩,
    .periodic ⟨174 * ticksPerCentisecond, 0, 0⟩]

def lateStart : MacAddr := maapAllocationPoolBaseAddr.withOffset 0xfdfe

theorem ranges_in_pool_late_start :
    (∀ e ∈ probedRequest 0 2 (some lateStart), e.Sensible) ∧
      ∀ r ∈ Run.outputs MaapState.step MaapState.shown (maapStart (Vector.replicate 6 1))
        (probedRequest 0 2 (some lateStart)), ShownInPool r :=
  ⟨by decide +kernel, (ranges_in_pool_iff (Vector.replicate 6 1)
    (probedRequest 0 2 (some lateStart)) (by decide +kernel)).mpr (by decide +kernel)⟩

/-- The first request, for two addresses: the offset is drawn for none, and the second address that
is reported is the one behind the pool. -/
theorem drawn_range_leaves_pool : (∀ e ∈ probedRequest 0xfdff 2 none, e.Sensible) ∧
      ((Run.outputs MaapState.step MaapState.shown (maapStart (Vector.replicate 6 1))
        (probedRequest 0xfdff 2 none)).flatMap (·.2)).map MacAddr.offset = [0xfdff, 0xfe00] ∧
      ¬ ∀ r ∈ Run.outputs MaapState.step MaapState.shown (maapStart (Vector.replicate 6 1))
        (probedRequest 0xfdff 2 none), ShownInPool r := by
  decide +kernel
