/-
# The manager and the talker agree on the state of the streams

The manager stores the state that a client writes, and `update_source_state` acts on a part of
the pairs of previous and next state.  A source is streaming for the manager when its state
is `ENABLED`, and for its talker unit when `active` is 2; an input is taken when `mapped_to`
names a source.
-/
import LibTsn.ManagerFormats

open Function (update update_of_ne update_self)

def registerTalkers : ℕ → List ℕ → List (ℕ × UInt8)
  | _, [] => []
  | unit, n :: ns =>
    (List.range n).map (fun j => (unit, UInt8.ofNat j)) ++ registerTalkers (unit + 1) ns

variable {unit : ℕ} {ns : List ℕ} (cfg : ManagerConfig)

lemma unit_le_of_mem_registerTalkers {p : ℕ × UInt8} (h : p ∈ registerTalkers unit ns) :
    unit ≤ p.1 := by
  induction ns generalizing unit with
  | nil => cases h
  | cons n ns ih =>
    rcases List.mem_append.mp h with h | h
    · obtain ⟨j, -, rfl⟩ := List.mem_map.mp h
      exact le_refl unit
    · exact (Nat.le_succ unit).trans (ih h)

lemma nodup_registerTalkers (h : ∀ n ∈ ns, n ≤ 256) : (registerTalkers unit ns).Nodup := by
  induction ns generalizing unit with
  | nil => exact List.nodup_nil
  | cons n ns ih =>
    obtain ⟨hn, hns⟩ := List.forall_mem_cons.mp h
    refine List.nodup_append.mpr ⟨?_, ih hns, ?_⟩
    · refine List.Nodup.map_on ?_ List.nodup_range
      intro a ha b hb hab
      have hmod : a % 256 = b % 256 := by
        have := congrArg (fun p => (Prod.snd p).toNat) hab
        simpa using this
      have halt := List.mem_range.mp ha
      have hblt := List.mem_range.mp hb
      omega
    · intro p hp q hq hpq
      obtain ⟨j, -, rfl⟩ := List.mem_map.mp hp
      have hle := unit_le_of_mem_registerTalkers hq
      rw [← hpq] at hle
      exact absurd hle (Nat.not_succ_le_self unit)

/-! ## Inputs and their sources -/

namespace AvbManager

def Uses (cfg : ManagerConfig) (m : AvbManager) (i c : ℕ) : Prop :=
  i < cfg.numSources ∧ (m.sources i).info.stream.state ≠ .disabled ∧ c ∈ (m.sources i).usedInputs

structure Mapped (cfg : ManagerConfig) (m : AvbManager) : Prop where
  used : ∀ i c, m.Uses cfg i c → (m.inputs c).mappedTo = some i
  free : ∀ c < cfg.numMediaInputs, (∀ i, ¬ m.Uses cfg i c) → (m.inputs c).mappedTo = none

section

variable {cfg : ManagerConfig} {m m' : AvbManager} {i : ℕ}

lemma uses_iff_of_ne (hothers : ∀ k, k ≠ i → m'.sources k = m.sources k) {k : ℕ} (hk : k ≠ i)
    (c : ℕ) : m'.Uses cfg k c ↔ m.Uses cfg k c := by
  unfold Uses
  rw [hothers k hk]

lemma Mapped.take (h : m.Mapped cfg) (hi : i < cfg.numSources)
    (hothers : ∀ k, k ≠ i → m'.sources k = m.sources k)
    (hon : (m'.sources i).info.stream.state ≠ .disabled)
    (hkept : ∀ c, m.Uses cfg i c → c ∈ (m'.sources i).usedInputs)
    (hbefore : ∀ c ∈ (m'.sources i).usedInputs,
      (m.inputs c).mappedTo = none ∨ (m.inputs c).mappedTo = some i)
    (hin : ∀ c ∈ (m'.sources i).usedInputs, (m'.inputs c).mappedTo = some i)
    (hout : ∀ c, c ∉ (m'.sources i).usedInputs → (m'.inputs c).mappedTo = (m.inputs c).mappedTo) :
    m'.Mapped cfg where
  used := by
    intro k c huses
    by_cases hk : k = i
    · rw [hk] at huses ⊢
      exact hin c huses.2.2
    have hmapped := h.used k c ((uses_iff_of_ne hothers hk c).mp huses)
    -- an input of another source is not one of the inputs that are taken
    have hnot : c ∉ (m'.sources i).usedInputs := by
      intro hc
      rcases hbefore c hc with hnone | hsome
      · cases hnone.symm.trans hmapped
      · exact hk (Option.some.inj (hmapped.symm.trans hsome))
    rw [hout c hnot, hmapped]
  free := by
    intro c hc hnone
    have hnot : c ∉ (m'.sources i).usedInputs := fun hmem => hnone i ⟨hi, hon, hmem⟩
    rw [hout c hnot]
    refine h.free c hc fun k huses => ?_
    by_cases hk : k = i
    · rw [hk] at huses
      exact hnot (hkept c huses)
    · exact hnone k ((uses_iff_of_ne hothers hk c).mpr huses)

lemma Mapped.release (h : m.Mapped cfg) (hi : i < cfg.numSources)
    (hothers : ∀ k, k ≠ i → m'.sources k = m.sources k)
    (hoff : (m'.sources i).info.stream.state = .disabled)
    (hon : (m.sources i).info.stream.state ≠ .disabled)
    (hsame : ∀ c, c ∈ (m'.sources i).usedInputs ↔ c ∈ (m.sources i).usedInputs)
    (hin : ∀ c ∈ (m'.sources i).usedInputs, (m'.inputs c).mappedTo = none)
    (hout : ∀ c, c ∉ (m'.sources i).usedInputs → (m'.inputs c).mappedTo = (m.inputs c).mappedTo) :
    m'.Mapped cfg where
  used := by
    intro k c huses
    have hk : k ≠ i := by
      intro hk
      rw [hk] at huses
      exact huses.2.1 hoff
    have hmapped := h.used k c ((uses_iff_of_ne hothers hk c).mp huses)
    have hnot : c ∉ (m'.sources i).usedInputs := by
      intro hc
      have hmine := h.used i c ⟨hi, hon, (hsame c).mp hc⟩
      exact hk (Option.some.inj (hmapped.symm.trans hmine))
    rw [hout c hnot, hmapped]
  free := by
    intro c hc hnone
    by_cases hmem : c ∈ (m'.sources i).usedInputs
    · exact hin c hmem
    rw [hout c hmem]
    refine h.free c hc fun k huses => ?_
    by_cases hk : k = i
    · rw [hk] at huses
      exact hmem ((hsame c).mpr huses.2.2)
    · exact hnone k ((uses_iff_of_ne hothers hk c).mpr huses)

lemma Mapped.stay (h : m.Mapped cfg) (hothers : ∀ k, k ≠ i → m'.sources k = m.sources k)
    (hoff : (m'.sources i).info.stream.state = .disabled)
    (hoff₀ : (m.sources i).info.stream.state = .disabled) (hinputs : m'.inputs = m.inputs) :
    m'.Mapped cfg := by
  have huses : ∀ k c, m'.Uses cfg k c ↔ m.Uses cfg k c := by
    intro k c
    by_cases hk : k = i
    · rw [hk]
      exact iff_of_false (fun hu => hu.2.1 hoff) (fun hu => hu.2.1 hoff₀)
    · exact uses_iff_of_ne hothers hk c
  constructor
  · intro k c hu
    rw [hinputs]
    exact h.used k c ((huses k c).mp hu)
  · intro c hc hnone
    rw [hinputs]
    exact h.free c hc fun k hu => hnone k ((huses k c).mpr hu)

end

end AvbManager

/-! ## Commands and `active` -/

def CarriesOut (cmds : List TalkerCmd) (j : ℕ) (active : ℕ → ℕ) : Prop :=
  ∀ st : TalkerState, ∃ st', cmds.foldlM avb1722TalkerHandleCmd st = some st' ∧
    (∀ k, k ≠ j → (st'.slots k).stream = (st.slots k).stream) ∧
    (st'.slots j).stream.active = active (st.slots j).stream.active

lemma carriesOut_nil (j : ℕ) : CarriesOut [] j id := fun st => ⟨st, rfl, fun _ _ => rfl, rfl⟩

section

variable {st : TalkerState} {j : ℕ} {slot : TalkerSlot}

lemma stream_setSlot_of_ne {k : ℕ} (h : k ≠ j) :
    ((st.setSlot j slot).slots k).stream = (st.slots k).stream := by
  show (update st.slots j slot k).stream = (st.slots k).stream
  rw [update_of_ne h]

lemma stream_setSlot_self : ((st.setSlot j slot).slots j).stream = slot.stream := by
  show (update st.slots j slot j).stream = slot.stream
  rw [update_self]

variable (j) in
lemma carriesOut_stop : CarriesOut [.stop j] j fun _ => 1 := by
  intro st
  refine ⟨_, rfl, fun k hk => stream_setSlot_of_ne hk, ?_⟩
  exact congrArg TalkerStreamConfig.active stream_setSlot_self

variable {setup : TalkerSetup}

lemma handleCmd_configure (h : (tsIntervalOfRate setup.rate).isSome = true) (st : TalkerState)
    (j : ℕ) : ∃ st', avb1722TalkerHandleCmd st (.configure j setup) = some st' ∧
      (∀ k, k ≠ j → (st'.slots k).stream = (st.slots k).stream) ∧
      (st'.slots j).stream.active = 1 := by
  obtain ⟨ts, hts⟩ := Option.isSome_iff_exists.mp h
  unfold avb1722TalkerHandleCmd configureStream
  dsimp only
  rw [hts]
  refine ⟨_, rfl, fun k hk => stream_setSlot_of_ne hk, ?_⟩
  exact congrArg TalkerStreamConfig.active stream_setSlot_self

lemma carriesOut_configure_setVlan (h : (tsIntervalOfRate setup.rate).isSome = true)
    (j vlan : ℕ) : CarriesOut ([.configure j setup] ++ [.setVlan j vlan]) j fun _ => 1 := by
  intro st
  obtain ⟨st', hst', hothers, hactive⟩ := handleCmd_configure h st j
  refine ⟨_, handleCmd_pair hst' rfl, fun k hk => ?_, ?_⟩
  · exact (stream_setSlot_of_ne hk).trans (hothers k hk)
  · exact (congrArg TalkerStreamConfig.active stream_setSlot_self).trans hactive

lemma carriesOut_configure_go (h : (tsIntervalOfRate setup.rate).isSome = true) (j : ℕ) :
    CarriesOut ([.configure j setup] ++ [.go j]) j fun _ => 2 := by
  intro st
  obtain ⟨st', hst', hothers, -⟩ := handleCmd_configure h st j
  refine ⟨_, handleCmd_pair hst' rfl, fun k hk => ?_, ?_⟩
  · exact (stream_setSlot_of_ne hk).trans (hothers k hk)
  · exact congrArg TalkerStreamConfig.active stream_setSlot_self

end

/-! ## The system -/

/-- **In order.**  The record that is written has a format that fits; a source that is off is not
started at once, and is turned on only if `update_source_state` finds it valid; and a source that
is on keeps its inputs. -/
structure AvbSystem.UpdateInOrder (cfg : ManagerConfig) (s : AvbSystem) (u : SourceUpdate) :
    Prop where
  format : ((s.source u.source).change u.change).FormatFits cfg
  start : s.state u.source = .disabled →
    (u.change (s.source u.source).info).stream.state ≠ .enabled
  turnOn : s.state u.source = .disabled →
    (u.change (s.source u.source).info).stream.state = .potential →
    (s.manager.setSource u.source ((s.source u.source).change u.change)).sourceValid u.source = true
  inputs : s.state u.source ≠ .disabled →
    (∀ c ∈ ((s.source u.source).change u.change).usedInputs, c ∈ (s.source u.source).usedInputs) ∧
      ∀ c ∈ (s.source u.source).usedInputs, c ∈ ((s.source u.source).change u.change).usedInputs

def AvbSystem.Placed (s : AvbSystem) : Prop :=
  ∀ i < cfg.numSources, ∀ k < cfg.numSources,
    (s.source i).talkerCtl = (s.source k).talkerCtl → (s.source i).localId = (s.source k).localId →
      i = k

/-- **The invariant.** -/
structure AvbSystem.AgreeInv (cfg : ManagerConfig) (s : AvbSystem) : Prop where
  placed : s.Placed cfg
  formats : ∀ i < cfg.numSources, (s.source i).FormatFits cfg
  mapped : s.manager.Mapped cfg
  enabled : ∀ i < cfg.numSources, s.state i = .enabled ↔ (s.stream i).active = 2

structure ManagerUpdate.Handles (m : AvbManager) (i : ℕ) (new : AvbSourceInfo)
    (active : ℕ → ℕ) (r : ManagerUpdate) : Prop where
  cmds : CarriesOut r.cmds new.localId.toNat active
  others : ∀ k, k ≠ i → r.manager.sources k = m.sources k
  record : ∃ f : AvbEndpointInfo → AvbEndpointInfo, (∀ x, (f x).stream = x.stream) ∧
    r.manager.sources i = new.change f

section

variable {cfg : ManagerConfig} {s : AvbSystem} {i : ℕ} {new : AvbSourceInfo} {active : ℕ → ℕ}
  {r : ManagerUpdate}

lemma agreeInv_of_handles (h : s.AgreeInv cfg) (hi : i < cfg.numSources)
    (hfit : new.FormatFits cfg) (hctl : new.talkerCtl = (s.source i).talkerCtl)
    (hid : new.localId = (s.source i).localId) (hr : r.Handles s.manager i new active)
    (hmapped : r.manager.Mapped cfg)
    (hactive : new.info.stream.state = .enabled ↔ active (s.stream i).active = 2) :
    ∃ s', s.carryOut (s.source i).talkerCtl r = some s' ∧ s'.AgreeInv cfg := by
  obtain ⟨st, hst, hothers, hone⟩ := hr.cmds (s.talkers (s.source i).talkerCtl)
  obtain ⟨f, hf, hrecord⟩ := hr.record
  refine ⟨_, congrArg (Option.map _) hst, ?_⟩
  set s' : AvbSystem := ⟨r.manager, update s.talkers (s.source i).talkerCtl st⟩ with hs'
  have hsource : ∀ k, k ≠ i → s'.source k = s.source k := hr.others
  have hself : s'.source i = new.change f := hrecord
  have hplace : ∀ k, (s'.source k).talkerCtl = (s.source k).talkerCtl ∧
      (s'.source k).localId = (s.source k).localId := by
    intro k
    by_cases hk : k = i
    · rw [hk, hself]
      exact ⟨hctl, hid⟩
    · rw [hsource k hk]
      exact ⟨rfl, rfl⟩
  have hstream : ∀ k, s'.stream k = ((update s.talkers (s.source i).talkerCtl st
      (s.source k).talkerCtl).slots (s.source k).localId.toNat).stream := by
    intro k
    unfold AvbSystem.stream
    rw [(hplace k).1, (hplace k).2]
  constructor
  · intro k hk l hl hctl' hid'
    rw [(hplace k).1, (hplace l).1] at hctl'
    rw [(hplace k).2, (hplace l).2] at hid'
    exact h.placed k hk l hl hctl' hid'
  · intro k hk
    by_cases hki : k = i
    · rw [hki, hself]
      exact formatFits_change (fun x => by rw [hf]; exact ⟨rfl, rfl⟩) hfit
    · rw [hsource k hki]
      exact h.formats k hk
  · exact hmapped
  · intro k hk
    rw [hstream]
    by_cases hki : k = i
    · rw [hki, update_self, ← hid, hone, hid]
      show (s'.source i).info.stream.state = .enabled ↔ _
      rw [hself]
      show (f new.info).stream.state = .enabled ↔ _
      rw [hf]
      exact hactive
    · have hstate : s'.state k = s.state k := by
        unfold AvbSystem.state
        rw [hsource k hki]
      rw [hstate, h.enabled k hk]
      by_cases hunit : (s.source k).talkerCtl = (s.source i).talkerCtl
      · have hne : (s.source k).localId.toNat ≠ new.localId.toNat := by
          intro heq
          rw [hid] at heq
          exact hki (h.placed k hk i hi hunit (UInt8.toNat_inj.mp heq))
        rw [hunit, update_self, hothers _ hne]
        unfold AvbSystem.stream
        rw [hunit]
      · rw [update_of_ne hunit]
        rfl

lemma mappedTo_of_sourceValid {m : AvbManager} (h : m.sourceValid i = true) {c : ℕ}
    (hc : c ∈ (m.sources i).usedInputs) : (m.inputs c).mappedTo = none := by
  unfold AvbManager.sourceValid at h
  have hall := List.all_eq_true.mp (Bool.and_eq_true_iff.mp h).2 c hc
  exact of_decide_eq_true (Bool.and_eq_true_iff.mp hall).1

lemma mapped_of_same {m m' : AvbManager} (h : m.Mapped cfg) (hi : i < cfg.numSources)
    (hothers : ∀ k, k ≠ i → m'.sources k = m.sources k)
    (hon : (m.sources i).info.stream.state ≠ .disabled)
    (hon' : (m'.sources i).info.stream.state ≠ .disabled)
    (hsame : ∀ c, c ∈ (m'.sources i).usedInputs ↔ c ∈ (m.sources i).usedInputs)
    (hinputs : m'.inputs = m.inputs) : m'.Mapped cfg := by
  have hmine : ∀ c ∈ (m'.sources i).usedInputs, (m.inputs c).mappedTo = some i :=
    fun c hc => h.used i c ⟨hi, hon, (hsame c).mp hc⟩
  refine h.take hi hothers hon' ?_ ?_ ?_ ?_
  · exact fun c huses => (hsame c).mpr huses.2.2
  · exact fun c hc => Or.inr (hmine c hc)
  · rw [hinputs]
    exact hmine
  · rw [hinputs]
    exact fun _ _ => rfl

lemma mapped_of_configure {m m' : AvbManager} (h : m.Mapped cfg) (hi : i < cfg.numSources)
    (hothers : ∀ k, k ≠ i → m'.sources k = m.sources k)
    (hon' : (m'.sources i).info.stream.state ≠ .disabled)
    (hkept : ∀ c, m.Uses cfg i c → c ∈ (m'.sources i).usedInputs)
    (hbefore : ∀ c ∈ (m'.sources i).usedInputs,
      (m.inputs c).mappedTo = none ∨ (m.inputs c).mappedTo = some i)
    (hinputs : m'.inputs = setMappedTo m.inputs (m'.sources i).usedInputs (some i)) :
    m'.Mapped cfg := by
  refine h.take hi hothers hon' hkept hbefore ?_ ?_
  · intro c hc
    rw [hinputs, mappedTo_setMappedTo, if_pos hc]
  · intro c hc
    rw [hinputs, mappedTo_setMappedTo, if_neg hc]

section

variable {m₀ m : AvbManager}

lemma handles_of_stored (hothers : ∀ k, k ≠ i → m.sources k = m₀.sources k)
    (hsources : r.manager.sources = m.sources)
    (hcmds : CarriesOut r.cmds (m.sources i).localId.toNat active) :
    r.Handles m₀ i (m.sources i) active where
  cmds := hcmds
  others := by
    rw [hsources]
    exact hothers
  record := by
    rw [hsources]
    exact ⟨id, fun _ => rfl, rfl⟩

lemma handles_turnOn (srpVlan : UInt16) (hothers : ∀ k, k ≠ i → m.sources k = m₀.sources k)
    (haccepted : (tsIntervalOfRate (m.sources i).rate).isSome = true) :
    (m.turnOn cfg srpVlan i).Handles m₀ i (m.sources i) fun _ => 1 where
  cmds := carriesOut_configure_setVlan haccepted _ _
  others := by
    intro k hk
    exact (update_of_ne hk ..).trans (hothers k hk)
  record := ⟨AvbManager.reserve cfg srpVlan (m.sources i), fun _ => rfl, update_self ..⟩

end

variable {u : SourceUpdate}

/-- **Update.**  An update in order does not trap, and the manager and the talker agree after
it. -/
theorem agreeInv_update (h : s.AgreeInv cfg) (srpVlan : UInt16) (hi : u.source < cfg.numSources)
    (hok : s.UpdateInOrder cfg u) : ∃ s', s.update cfg srpVlan u = some s' ∧ s'.AgreeInv cfg := by
  set i := u.source with hidef
  set new := (s.source i).change u.change with hnew
  set m := s.manager.setSource i new with hm
  have hself : m.sources i = new := update_self ..
  have hothers : ∀ k, k ≠ i → m.sources k = s.manager.sources k :=
    fun k hk => update_of_ne hk ..
  have haccepted : (tsIntervalOfRate (m.sources i).rate).isSome = true := by
    rw [hself]
    exact hok.format.accepted
  have hstored : (m.sources i).info.stream.state = new.info.stream.state := by rw [hself]
  have hsame : s.state i ≠ .disabled → ∀ c,
      c ∈ (m.sources i).usedInputs ↔ c ∈ (s.manager.sources i).usedInputs := by
    intro hon c
    rw [hself]
    exact ⟨(hok.inputs hon).1 c, (hok.inputs hon).2 c⟩
  have hfinish : ∀ {r : ManagerUpdate} {active : ℕ → ℕ},
      r.Handles s.manager i (m.sources i) active → r.manager.Mapped cfg →
      (new.info.stream.state = .enabled ↔ active (s.stream i).active = 2) →
      ∃ s', s.carryOut (s.source i).talkerCtl r = some s' ∧ s'.AgreeInv cfg := by
    intro r active hr hmapped hactive
    rw [hself] at hr
    exact agreeInv_of_handles h hi hok.format rfl rfl hr hmapped hactive
  show ∃ s', s.carryOut (s.source i).talkerCtl
    (m.updateSourceState cfg srpVlan i (s.state i) new.info.stream.state) = some s' ∧
      s'.AgreeInv cfg
  refine AvbManager.updateSourceState_cases (P := fun r => ∃ s',
    s.carryOut (s.source i).talkerCtl r = some s' ∧ s'.AgreeInv cfg) ?_ ?_ ?_ ?_ ?_ ?_
  · -- turned on: the inputs were free
    intro hprev hstate hvalid
    have hturned : (m.turnOn cfg srpVlan i).manager.sources i =
        (m.sources i).change (AvbManager.reserve cfg srpVlan (m.sources i)) :=
      update_self ..
    have hused : ((m.turnOn cfg srpVlan i).manager.sources i).usedInputs =
        (m.sources i).usedInputs := by
      rw [hturned]
      rfl
    refine hfinish (handles_turnOn srpVlan hothers haccepted) ?_ ?_
    · refine mapped_of_configure h.mapped hi (handles_turnOn srpVlan hothers haccepted).others
        ?_ ?_ ?_ ?_
      · rw [hturned]
        show (m.sources i).info.stream.state ≠ .disabled
        rw [hstored, hstate]
        decide
      · exact fun c huses => absurd hprev huses.2.1
      · rw [hused]
        exact fun c hc => Or.inl (mappedTo_of_sourceValid hvalid hc)
      · rw [hused]
        rfl
    · rw [hstate]
      exact iff_of_false (by decide) (by decide)
  · intro hprev hstate hinvalid
    exact absurd (hok.turnOn hprev hstate) (Bool.eq_false_iff.mp hinvalid)
  · -- stopped: the maps stay
    intro hprev hstate
    have hon : s.state i ≠ .disabled := by rw [hprev]; decide
    refine hfinish (handles_of_stored hothers rfl (carriesOut_stop _)) ?_ ?_
    · refine mapped_of_same h.mapped hi hothers hon ?_ (hsame hon) rfl
      rw [hstored, hstate]
      decide
    · rw [hstate]
      exact iff_of_false (by decide) (by decide)
  · -- started: the inputs are its own
    intro hprev hstate
    have hon : s.state i ≠ .disabled := by rw [hprev]; decide
    refine hfinish (handles_of_stored hothers rfl (carriesOut_configure_go haccepted _)) ?_ ?_
    · refine mapped_of_configure h.mapped hi hothers ?_ ?_ ?_ rfl
      · show (m.sources i).info.stream.state ≠ .disabled
        rw [hstored, hstate]
        decide
      · exact fun c huses => (hsame hon c).mpr huses.2.2
      · exact fun c hc => Or.inr (h.mapped.used i c ⟨hi, hon, (hsame hon c).mp hc⟩)
    · rw [hstate]
      exact iff_of_true rfl rfl
  · -- turned off
    intro hon hstate
    refine hfinish (handles_of_stored hothers rfl (carriesOut_stop _)) ?_ ?_
    · refine h.mapped.release hi hothers ?_ hon (hsame hon) ?_ ?_
      · exact hstored.trans hstate
      · intro c hc
        exact (mappedTo_setMappedTo c).trans (if_pos hc)
      · intro c hc
        exact (mappedTo_setMappedTo c).trans (if_neg hc)
    · rw [hstate]
      exact iff_of_false (by decide) (by decide)
  · rintro (hstay | ⟨hprev, hstate⟩)
    swap
    · exact absurd hstate (hok.start hprev)
    refine hfinish (handles_of_stored hothers rfl (carriesOut_nil _)) ?_ ?_
    · by_cases hoff : s.state i = .disabled
      · exact h.mapped.stay hothers (hstored.trans (hstay.symm.trans hoff)) hoff rfl
      · refine mapped_of_same h.mapped hi hothers hoff ?_ (hsame hoff) rfl
        rw [hstored, ← hstay]
        exact hoff
    · rw [← hstay]
      exact h.enabled i hi

end

/-! ## Runs -/

def UpdateInOrder (cfg : ManagerConfig) : Option AvbSystem → SourceUpdate → Prop
  | some s, u => s.UpdateInOrder cfg u
  | none, _ => True

def StatesInOrder : Option AvbSystem → AvbEvent → Prop
  | some s, .request r srpVlan =>
    Run.Guarded (AvbSystem.updateStep cfg srpVlan) (UpdateInOrder cfg) (some s)
      (r.updates cfg s.manager)
  | _, _ => True

instance (cfg : ManagerConfig) (s : AvbSystem) (u : SourceUpdate) :
    Decidable (s.UpdateInOrder cfg u) :=
  decidable_of_iff (((s.source u.source).change u.change).FormatFits cfg ∧
      (s.state u.source = .disabled →
        (u.change (s.source u.source).info).stream.state ≠ .enabled) ∧
      (s.state u.source = .disabled →
        (u.change (s.source u.source).info).stream.state = .potential →
        (s.manager.setSource u.source ((s.source u.source).change u.change)).sourceValid
          u.source = true) ∧
      (s.state u.source ≠ .disabled →
        (∀ c ∈ ((s.source u.source).change u.change).usedInputs,
          c ∈ (s.source u.source).usedInputs) ∧
        ∀ c ∈ (s.source u.source).usedInputs,
          c ∈ ((s.source u.source).change u.change).usedInputs))
    ⟨fun h => ⟨h.1, h.2.1, h.2.2.1, h.2.2.2⟩, fun h => ⟨h.format, h.start, h.turnOn, h.inputs⟩⟩

instance (cfg : ManagerConfig) (o : Option AvbSystem) (u : SourceUpdate) :
    Decidable (UpdateInOrder cfg o u) :=
  match o with
  | some s => inferInstanceAs (Decidable (s.UpdateInOrder cfg u))
  | none => isTrue trivial

instance (cfg : ManagerConfig) (o : Option AvbSystem) (e : AvbEvent) :
    Decidable (StatesInOrder cfg o e) :=
  match o, e with
  | some s, .request r srpVlan =>
    inferInstanceAs (Decidable (Run.Guarded (AvbSystem.updateStep cfg srpVlan) (UpdateInOrder cfg)
      (some s) (r.updates cfg s.manager)))
  | some _, .audio _ _ _ => isTrue trivial
  | none, _ => isTrue trivial

/-- **Agreement.** -/
structure AvbSystem.Agree (cfg : ManagerConfig) (s : AvbSystem) : Prop where
  enabled : ∀ i < cfg.numSources, s.state i = .enabled ↔ (s.stream i).active = 2
  mapped : ∀ i c, s.manager.Uses cfg i c → (s.manager.inputs c).mappedTo = some i
  alone : ∀ i j c, s.manager.Uses cfg i c → s.manager.Uses cfg j c → i = j
  unmapped : ∀ c < cfg.numMediaInputs, (∀ i, ¬ s.manager.Uses cfg i c) →
    (s.manager.inputs c).mappedTo = none

/-- The sources have the streams that `register_talkers` gave them. -/
def AvbSystem.Registered (numStreams : List ℕ) (s : AvbSystem) : Prop :=
  ∀ i < cfg.numSources,
    (registerTalkers 0 numStreams)[i]? = some ((s.source i).talkerCtl, (s.source i).localId)

instance (cfg : ManagerConfig) (numStreams : List ℕ) (s : AvbSystem) :
    Decidable (s.Registered cfg numStreams) :=
  inferInstanceAs (Decidable (∀ i < cfg.numSources,
    (registerTalkers 0 numStreams)[i]? = some ((s.source i).talkerCtl, (s.source i).localId)))

section

variable {cfg : ManagerConfig} {s : AvbSystem}

lemma AvbSystem.AgreeInv.agree (h : s.AgreeInv cfg) : s.Agree cfg where
  enabled := h.enabled
  mapped := h.mapped.used
  alone := by
    intro i j c hi hj
    exact Option.some.inj ((h.mapped.used i c hi).symm.trans (h.mapped.used j c hj))
  unmapped := h.mapped.free

lemma AvbSystem.Registered.placed {numStreams : List ℕ} (h : s.Registered cfg numStreams)
    (hunits : ∀ n ∈ numStreams, n ≤ 256) : s.Placed cfg := by
  intro i hi k hk hctl hid
  have heq : (registerTalkers 0 numStreams)[i]? = (registerTalkers 0 numStreams)[k]? := by
    rw [h i hi, h k hk, hctl, hid]
  have hlt : i < (registerTalkers 0 numStreams).length :=
    (List.getElem?_eq_some_iff.mp (h i hi)).1
  exact (List.getElem?_inj hlt (nodup_registerTalkers hunits)).mp heq

lemma agreeInv_of_cold (hcold : s.Cold cfg) (hplaced : s.Placed cfg)
    (hformats : ∀ i < cfg.numSources, (s.source i).FormatFits cfg) : s.AgreeInv cfg where
  placed := hplaced
  formats := hformats
  mapped := by
    refine ⟨fun i c huses => ?_, fun c hc _ => hcold.unmapped c hc⟩
    exact absurd (hcold.disabled i huses.1) huses.2.1
  enabled := by
    intro i hi
    rw [hcold.disabled i hi]
    refine iff_of_false (by decide) fun hactive => ?_
    cases (hcold.stopped _ _).symm.trans hactive

lemma agreeInv_audio (h : s.AgreeInv cfg) (unit : ℕ) (ti : PtpTimeInfoMod64)
    (sb : AudioDoubleBuffer) : (s.audio unit ti sb).AgreeInv cfg where
  placed := h.placed
  formats := h.formats
  mapped := h.mapped
  enabled := by
    intro i hi
    rw [show (s.audio unit ti sb).state i = s.state i from rfl, h.enabled i hi]
    show _ ↔ ((update s.talkers unit _ (s.source i).talkerCtl).slots
      (s.source i).localId.toNat).stream.active = 2
    by_cases hunit : (s.source i).talkerCtl = unit
    swap
    · rw [update_of_ne hunit]
      rfl
    unfold AvbSystem.stream
    rw [hunit, update_self]
    rcases stream_avb1722TalkerSendPackets (s.talkers unit) ti sb (s.source i).localId.toNat with
      heq | ⟨-, frame, heq⟩
    · rw [heq]
    · rw [heq, active_avb1722CreatePacket]

def Agreeing (cfg : ManagerConfig) (o : Option AvbSystem) : Prop :=
  ∃ s, o = some s ∧ s.AgreeInv cfg

lemma agreeing_step {o : Option AvbSystem} (h : Agreeing cfg o) {e : AvbEvent}
    (hok : StatesInOrder cfg o e) : Agreeing cfg (AvbSystem.step cfg o e) := by
  have hstart := h
  obtain ⟨s, rfl, hs⟩ := h
  cases e with
  | audio unit ti sb => exact ⟨_, rfl, agreeInv_audio hs unit ti sb⟩
  | request r srpVlan =>
    -- the updates of a request are updates of sources
    have hguard : Run.Guarded (AvbSystem.updateStep cfg srpVlan)
        (fun o u => UpdateInOrder cfg o u ∧ u.source < cfg.numSources) (some s)
        (r.updates cfg s.manager) :=
      Run.guarded_and_forall hok fun u hu => (mem_updates hu).1
    have hupdate : ∀ o u, Agreeing cfg o →
        UpdateInOrder cfg o u ∧ u.source < cfg.numSources →
        Agreeing cfg (AvbSystem.updateStep cfg srpVlan o u) := by
      rintro o u ⟨s, rfl, hs⟩ ⟨hu, hi⟩
      exact agreeInv_update hs srpVlan hi hu
    exact Run.invariant_of_guarded hupdate hstart _ hguard

end

/-- **Manager and talker agree**, in every run in order of the system from its registration on. -/
theorem manager_and_talker_agree (cfg : ManagerConfig) (numStreams : List ℕ)
    (hunits : ∀ n ∈ numStreams, n ≤ 256) (s : AvbSystem) (hcold : s.Cold cfg)
    (hregistered : s.Registered cfg numStreams)
    (hformats : ∀ i < cfg.numSources, (s.source i).FormatFits cfg) (es : List AvbEvent)
    (hes : Run.Guarded (AvbSystem.step cfg) (StatesInOrder cfg) (some s) es) :
    ∃ t, Run.runFrom (AvbSystem.step cfg) (some s) es = some t ∧ t.Agree cfg := by
  have hstep : ∀ o e, Agreeing cfg o → StatesInOrder cfg o e →
      Agreeing cfg (AvbSystem.step cfg o e) := fun _ _ h hok => agreeing_step h hok
  have hstart : Agreeing cfg (some s) :=
    ⟨s, rfl, agreeInv_of_cold hcold (hregistered.placed hunits) hformats⟩
  obtain ⟨t, ht, hinv⟩ := Run.invariant_of_guarded hstep hstart es hes
  exact ⟨t, ht, hinv.agree⟩

/-! ## Two sources -/

def twoSourceBuild : ManagerConfig :=
  { stereoBuild 48000 with numSources := 2, numMediaInputs := 4 }

variable (i : ℕ) (map : List ℕ)

def twoSourceSystem : AvbSystem where
  manager := ⟨fun i => if i = 0 then stereoSource 48000
    else { stereoSource 48000 with localId := 1, map := map }, fun _ => ⟨0, none⟩⟩
  talkers := fun _ => avb1722TalkerInit (fun _ _ => 0) (List.replicate 6 0)

lemma cold_twoSourceSystem : (twoSourceSystem map).Cold twoSourceBuild where
  disabled := by
    intro i _
    show (if i = 0 then stereoSource 48000
      else { stereoSource 48000 with localId := 1, map := map }).info.stream.state = .disabled
    split_ifs <;> rfl
  unmapped := fun _ _ => rfl
  stopped := fun _ _ => rfl

def connects : AvbEvent := .request (.onListenerConnect i) 2

def disconnects : AvbEvent := .request (.onListenerDisconnect i 0) 2

def listenerReady : AvbEvent := .request (.listenerJoinInd i true true) 2

def enables : AvbEvent := .request (.setSourceState i .enabled) 2

def twoSourceRun (es : List AvbEvent) : Option AvbSystem :=
  Run.runFrom (AvbSystem.step twoSourceBuild) (some (twoSourceSystem map)) es

theorem two_sources_agree :
    ∃ t, twoSourceRun [2, 3] [connects 0, connects 1, listenerReady 1, formatComes 2 1,
      listenerReady 0, disconnects 1] = some t ∧ t.Agree twoSourceBuild :=
  manager_and_talker_agree twoSourceBuild [2] (by decide) (twoSourceSystem [2, 3])
    (cold_twoSourceSystem [2, 3]) (by decide +kernel) (by decide +kernel) _ (by decide +kernel)

/-- A source that is started from `DISABLED` is `ENABLED` and not streaming; two sources with the
same input are both on, whichever the input is mapped to; and an input that a format command takes
from a source stays mapped to it. -/
theorem manager_and_talker_disagree : (twoSourceRun [2, 3] [streamingStarts]).map
        (fun t => (t.state 0, (t.stream 0).active)) = some (.enabled, 0) ∧
    (twoSourceRun [0, 3] [connects 0, connects 1]).map
        (fun t => (t.state 0, t.state 1, (t.source 1).usedInputs, (t.manager.inputs 0).mappedTo)) =
      some (.potential, .potential, [0, 3], some 0) ∧
    (twoSourceRun [0, 3] [connects 0, connects 1, enables 1]).map
        (fun t => (t.state 0, (t.source 0).usedInputs, (t.manager.inputs 0).mappedTo)) =
      some (.potential, [0, 1], some 1) ∧
    (twoSourceRun [2, 3] [connects 0, formatComes 1 2, disconnects 0]).map
        (fun t => (t.state 0, t.state 1, (t.manager.inputs 1).mappedTo)) =
      some (.disabled, .disabled, some 0) := by
  refine ⟨?_, ?_, ?_, ?_⟩
  all_goals decide +kernel
