/-
# The entities that ADP discovers

ENTITY_AVAILABLE packets enter the entities of the network into a database, and the periodic
function tells the application of the new ones.  Packets and the periodic function share one state
and the index of the latest new entity, so that an entity is forgotten when another one comes, or
leaves, before the next periodic call.
-/
import LibTsn.MiscTimer
import LibTsn.Run

open Function (update update_self update_of_ne)

/-! ## The database -/

/-- What an ENTITY_AVAILABLE packet tells of an entity. -/
structure AdpInfo where
  guid : UInt64
  vendorId : UInt32
  entityModelId : UInt32
  capabilities : UInt32
  talkerStreamSources : UInt16
  talkerCapabilities : UInt16
  listenerStreamSinks : UInt16
  listenerCapabilities : UInt16
  controllerCapabilities : UInt32
  availableIndex : UInt32
  gptpGrandmasterId : UInt64
  gptpDomainNumber : UInt8
  identifyControlIndex : UInt16
  associationId : UInt32
  deriving DecidableEq

structure AdpEntity extends AdpInfo where
  timeout : ℕ
  deriving DecidableEq

inductive AdpDiscoveryState
  | idle | waiting | discover | added | removed
  deriving DecidableEq

/-- The database and the state of the discovery.  `latest` is `adp_latest_entity_added_index`, and
`none` for -1. -/
structure AdpDiscovery (n : ℕ) where
  entities : Fin n → AdpEntity
  state : AdpDiscoveryState
  latest : Option (Fin n)
  twoSecondCounter : ℕ
  timer : AvbTimer

namespace AdpDiscovery

variable {n : ℕ} (s : AdpDiscovery n)

def guid (i : Fin n) : UInt64 := (s.entities i).guid

/-- The loop of `avb_1722_1_entity_database_add`: the last empty slot, or the one with the guid. -/
def findSlot (guid : UInt64) : List (Fin n) → Option (Fin n) → Option (Fin n) × Bool
  | [], found => (found, false)
  | i :: rest, found =>
    if s.guid i = 0 then findSlot guid rest (some i)
    else if s.guid i = guid then (some i, true)
    else findSlot guid rest found

/-- `avb_1722_1_entity_database_add`, and whether the entity is new. -/
def databaseAdd (info : AdpInfo) (validTime : ℕ) : AdpDiscovery n × Bool :=
  match s.findSlot info.guid (List.finRange n) none with
  | (none, _) => (s, false)
  | (some i, update) =>
    let entity := ⟨info, (validTime + s.twoSecondCounter) % 2 ^ 32⟩
    let s := { s with entities := Function.update s.entities i entity }
    if update then (s, false) else ({ s with latest := some i }, true)

def clearSlot (i : Fin n) : AdpDiscovery n :=
  { s with entities := Function.update s.entities i { s.entities i with guid := 0 } }

def databaseFlush : AdpDiscovery n :=
  { s with entities := fun i => { s.entities i with guid := 0 } }

/-- `avb_1722_1_entity_database_remove`, with `avb_1722_1_entity_database_find`. -/
def databaseRemove (guid : UInt64) : AdpDiscovery n :=
  match (List.finRange n).find? fun i => s.guid i = guid with
  | some i => s.clearSlot i
  | none => s

def databaseCheckTimeout : AdpDiscovery n :=
  match (List.finRange n).find? fun i =>
      s.guid i ≠ 0 ∧ (s.entities i).timeout < s.twoSecondCounter with
  | some i => s.clearSlot i
  | none => s

/-- `avb_1722_1_adp_init`, at local time `now`. -/
def init (now : ℕ) : AdpDiscovery n :=
  { s.databaseFlush with
    state := .waiting
    timer := startAvbTimer now 1 (initAvbTimer 200 s.timer) }

/-- The packets, the request of the application to discover entities, and the periodic call with
its two readings of the time. -/
inductive Event
  | available (info : AdpInfo) (validTime : ℕ)
  | departing (guid : UInt64)
  | otherPacket
  | discover
  | periodic (now restart : ℕ)
  deriving DecidableEq

def discoveryPeriodic (now restart : ℕ) : AdpDiscovery n :=
  match s.state with
  | .idle => s
  | .waiting =>
    let r := avbTimerExpired now s.timer
    if r.2 then
      { databaseCheckTimeout { s with twoSecondCounter := (s.twoSecondCounter + 1) % 2 ^ 32 } with
        timer := startAvbTimer restart 1 r.1 }
    else { s with timer := r.1 }
  | .discover | .added | .removed => { s with state := .waiting }

/-- `process_avb_1722_1_adp_packet`, `avb_1722_1_adp_discover` and the periodic call. -/
def step : Event → AdpDiscovery n
  | .available info validTime =>
    let r := s.databaseAdd info validTime
    if r.2 then { r.1 with state := .added } else r.1
  | .departing guid => { s.databaseRemove guid with state := .removed }
  | .otherPacket => s
  | .discover => if s.state = .waiting then { s with state := .discover } else s
  | .periodic now restart => s.discoveryPeriodic now restart

/-- The record that `avb_entity_on_new_entity_available` is called with. -/
def reported : Event → Option AdpEntity
  | .periodic _ _ => if s.state = .added then s.latest.map s.entities else none
  | _ => none

/-! ## The watched run -/

/-- The guid is absent and there is a free slot. -/
def Creates (guid : UInt64) : Prop := (∀ i, s.guid i ≠ guid) ∧ ∃ i, s.guid i = 0

instance (guid : UInt64) : Decidable (s.Creates guid) := inferInstanceAs (Decidable (_ ∧ _))

def created : Event → List UInt64
  | .available info _ => if s.Creates info.guid then [info.guid] else []
  | _ => []

/-- The discovery, and the entities that were entered, are still there and have not been
reported. -/
structure Watch (n : ℕ) where
  disc : AdpDiscovery n
  unreported : List UInt64

def Watch.step (w : Watch n) (e : Event) : Watch n where
  disc := w.disc.step e
  unreported := (w.disc.created e ++
    w.unreported.filter fun g => (w.disc.reported e).map (·.guid) ≠ some g).filter
      fun g => ∃ i, (w.disc.step e).guid i = g

def Watch.Undisturbed (w : Watch n) (e : Event) : Prop :=
  w.disc.state = .added → match e with
    | .available info _ => ¬ w.disc.Creates info.guid
    | .departing guid => w.disc.latest.map w.disc.guid = some guid
    | _ => True

instance (w : Watch n) (e : Event) : Decidable (w.Undisturbed e) := by
  unfold Watch.Undisturbed
  cases e <;> infer_instance

def Event.NonZero : Event → Prop
  | .available info _ => info.guid ≠ 0
  | .departing guid => guid ≠ 0
  | _ => True

instance (e : Event) : Decidable e.NonZero := by
  cases e <;> unfold Event.NonZero <;> infer_instance

/-! ## One record for a guid -/

variable {s}

/-- No guid has two records. -/
def Unique (s : AdpDiscovery n) : Prop := ∀ i j, s.guid i ≠ 0 → s.guid i = s.guid j → i = j

lemma findSlot_spec {guid : UInt64} (hguid : guid ≠ 0) : ∀ (is : List (Fin n)) (found),
    (∀ i, found = some i → s.guid i = 0) →
      (∃ i, s.findSlot guid is found = (some i, true) ∧ s.guid i = guid) ∨
      (∀ i ∈ is, s.guid i ≠ guid) ∧
        ((∃ i, s.findSlot guid is found = (some i, false) ∧ s.guid i = 0) ∨
          s.findSlot guid is found = (none, false) ∧ found = none ∧ ∀ i ∈ is, s.guid i ≠ 0)
  | [], none, _ => .inr ⟨by simp, .inr ⟨rfl, rfl, by simp⟩⟩
  | [], some i, h => .inr ⟨by simp, .inl ⟨i, rfl, h i rfl⟩⟩
  | i :: is, found, h => by
    rw [findSlot]
    split_ifs with hfree hsame
    · have hrest := findSlot_spec hguid is (some i) fun _ hi => Option.some.inj hi ▸ hfree
      refine hrest.imp_right fun ⟨habsent, hslot⟩ => ⟨?_, .inl (hslot.resolve_right ?_)⟩
      · exact List.forall_mem_cons.mpr ⟨fun heq => hguid (heq.symm.trans hfree), habsent⟩
      · exact fun hnone => Option.some_ne_none i hnone.2.1
    · exact .inl ⟨i, rfl, hsame⟩
    · refine (findSlot_spec hguid is found h).imp_right fun ⟨habsent, hslot⟩ => ?_
      exact ⟨List.forall_mem_cons.mpr ⟨hsame, habsent⟩,
        hslot.imp_right fun ⟨hnone, hfound, hfull⟩ =>
        ⟨hnone, hfound, List.forall_mem_cons.mpr ⟨hfree, hfull⟩⟩⟩

/-- The event creates and reports nothing, and what is to be reported stays. -/
structure Quiet (s : AdpDiscovery n) (e : Event) : Prop where
  guids : (s.step e).guid = s.guid
  latest : (s.step e).latest = s.latest
  state : (s.step e).state = .added ↔ s.state = .added
  created : s.created e = []
  reported : s.reported e = none

/-- **The packet of an entity.**  It enters the entity if it is new and there is a free slot, and
the entity is then the one to be reported; otherwise it is quiet. -/
theorem available_cases {info : AdpInfo} (hguid : info.guid ≠ 0) (validTime : ℕ) :
    (s.Creates info.guid ∧ ∃ i, (s.step (.available info validTime)).latest = some i ∧
      (s.step (.available info validTime)).state = .added ∧
      (s.step (.available info validTime)).guid = update s.guid i info.guid) ∨
    (¬ s.Creates info.guid ∧ s.Quiet (.available info validTime)) := by
  have hguids : ∀ (i : Fin n) (t : ℕ),
      (fun j => (update s.entities i ⟨info, t⟩ j).guid)
        = update s.guid i info.guid := by
    intro i t
    funext j
    by_cases hj : j = i
    · rw [hj, update_self, update_self]
    · rw [update_of_ne hj, update_of_ne hj]
      rfl
  have hstep : s.step (.available info validTime) = if (s.databaseAdd info validTime).2 then
      { (s.databaseAdd info validTime).1 with state := .added }
    else (s.databaseAdd info validTime).1 := rfl
  unfold databaseAdd at hstep
  rcases findSlot_spec hguid (List.finRange n) none (by simp) with ⟨i, hfind, hi⟩ | ⟨habsent, hslot⟩
  · rw [hfind] at hstep
    have hno : ¬ s.Creates info.guid := fun hcreates => hcreates.1 i hi
    have hsame : (s.step (.available info validTime)).guid = s.guid := by
      rw [hstep]
      refine (hguids i _).trans ?_
      rw [← hi, Function.update_eq_self]
    exact .inr ⟨hno, hsame, by rw [hstep]; rfl, by rw [hstep]; rfl, if_neg hno, rfl⟩
  · rcases hslot with ⟨i, hfind, hi⟩ | ⟨hfind, -, hfull⟩
    · rw [hfind] at hstep
      rw [hstep]
      exact .inl ⟨⟨fun j => habsent j (List.mem_finRange j), i, hi⟩, i, rfl, rfl, hguids i _⟩
    · rw [hfind] at hstep
      have hno : ¬ s.Creates info.guid := fun ⟨_, i, hi⟩ => hfull i (List.mem_finRange i) hi
      have hsame : s.step (.available info validTime) = s := hstep
      exact .inr ⟨hno, by rw [hsame], by rw [hsame], by rw [hsame], if_neg hno, rfl⟩

lemma guid_clearSlot (i : Fin n) : (s.clearSlot i).guid = update s.guid i 0 := by
  funext j
  show (update s.entities i _ j).guid = _
  by_cases hj : j = i
  · rw [hj, update_self, update_self]
  · rw [update_of_ne hj, update_of_ne hj]
    rfl

lemma unique_update {i : Fin n} {g : UInt64} {d : AdpDiscovery n} (h : s.Unique)
    (hg : g ≠ 0 → ∀ j, s.guid j ≠ g) (hd : d.guid = update s.guid i g) : d.Unique := by
  intro j k hj hjk
  rw [hd] at hj hjk
  by_cases hji : j = i <;> by_cases hki : k = i
  · exact hji.trans hki.symm
  · rw [hji, update_self, update_of_ne hki] at hjk
    rw [hji, update_self] at hj
    exact absurd hjk.symm (hg hj k)
  · rw [hki, update_self, update_of_ne hji] at hjk
    rw [update_of_ne hji] at hj
    exact absurd hjk (hg (hjk ▸ hj) j)
  · rw [update_of_ne hji] at hj
    rw [update_of_ne hji, update_of_ne hki] at hjk
    exact h j k hj hjk

lemma unique_of_guid_eq {d : AdpDiscovery n} (h : s.Unique) (hd : d.guid = s.guid) :
    d.Unique := fun i j hi hij => by
  rw [hd] at hi hij
  exact h i j hi hij

lemma unique_clearSlot (h : s.Unique) (i : Fin n) : (s.clearSlot i).Unique :=
  unique_update h (absurd rfl) (guid_clearSlot i)

lemma step_departing (h : s.Unique) {guid : UInt64} (hguid : guid ≠ 0) :
    (s.step (.departing guid)).Unique ∧ ∀ i, (s.step (.departing guid)).guid i ≠ guid := by
  show (s.databaseRemove guid).Unique ∧ ∀ i, (s.databaseRemove guid).guid i ≠ guid
  unfold databaseRemove
  split
  · next i hfind =>
    have hfound := List.find?_some hfind
    have hi : s.guid i = guid := of_decide_eq_true hfound
    refine ⟨unique_clearSlot h i, fun j hj => ?_⟩
    rw [guid_clearSlot] at hj
    by_cases hji : j = i
    · rw [hji, update_self] at hj
      exact hguid hj.symm
    · rw [update_of_ne hji] at hj
      exact hji (h j i (hj ▸ hguid) (hj.trans hi.symm))
  · next hnone =>
    refine ⟨h, fun i hi => ?_⟩
    exact List.find?_eq_none.mp hnone i (List.mem_finRange i) (decide_eq_true hi)

lemma step_periodic (h : s.Unique) (now restart : ℕ) : (s.step (.periodic now restart)).Unique ∧
      (s.step (.periodic now restart)).state ≠ .added := by
  show (s.discoveryPeriodic now restart).Unique ∧ (s.discoveryPeriodic now restart).state ≠ .added
  unfold discoveryPeriodic
  split
  · next hidle => exact ⟨h, by rw [hidle]; decide⟩
  · next hwaiting =>
    have hstate : s.state ≠ .added := by
      rw [hwaiting]
      decide
    dsimp only
    split_ifs
    · unfold databaseCheckTimeout
      split
      · exact ⟨unique_clearSlot h _, hstate⟩
      · exact ⟨h, hstate⟩
    · exact ⟨h, hstate⟩
  all_goals exact ⟨h, AdpDiscoveryState.noConfusion⟩

/-! ## One report for an entity -/

variable {w : Watch n} {e : Event}

lemma Watch.mem_unreported_step {g : UInt64} : g ∈ (w.step e).unreported ↔
    (g ∈ w.disc.created e ∨ g ∈ w.unreported ∧ (w.disc.reported e).map (·.guid) ≠ some g) ∧
      ∃ i, (w.disc.step e).guid i = g := by
  simp only [Watch.step, List.mem_filter, List.mem_append, decide_eq_true_iff]

/-- Every guid has one record, and the entity to be reported next has not been reported. -/
structure Watch.Sound (w : Watch n) : Prop where
  unique : w.disc.Unique
  pending : w.disc.state = .added →
    ∃ i, w.disc.latest = some i ∧ w.disc.guid i ≠ 0 ∧ w.disc.guid i ∈ w.unreported

/-- Only the latest entity is still to be reported. -/
def Watch.Settled (w : Watch n) : Prop :=
  ∀ g ∈ w.unreported, w.disc.state = .added ∧ ∃ i, w.disc.latest = some i ∧ w.disc.guid i = g

lemma quiet_otherPacket : s.Quiet .otherPacket := ⟨rfl, rfl, Iff.rfl, rfl, rfl⟩

lemma quiet_discover : s.Quiet .discover := by
  have hstep : s.step .discover = if s.state = .waiting then { s with state := .discover } else s :=
    rfl
  constructor <;> try rw [hstep]
  · split_ifs <;> rfl
  · split_ifs <;> rfl
  · split_ifs with hwaiting
    · rw [hwaiting]
      decide
    · exact Iff.rfl
  · rfl
  · rfl

lemma Watch.mem_unreported_quiet (he : w.disc.Quiet e) {g : UInt64} :
    g ∈ (w.step e).unreported ↔ g ∈ w.unreported ∧ ∃ i, w.disc.guid i = g := by
  rw [mem_unreported_step, he.created, he.reported, he.guids, Option.map_none]
  simp

lemma Watch.Sound.quiet (h : w.Sound) (he : w.disc.Quiet e) : (w.step e).Sound := by
  refine ⟨unique_of_guid_eq h.unique he.guids, fun hadded => ?_⟩
  obtain ⟨i, hi, hne, hmem⟩ := h.pending (he.state.mp hadded)
  have hsame : (w.step e).disc.guid i = w.disc.guid i := congrFun he.guids i
  rw [← hsame] at hne hmem
  exact ⟨i, he.latest.trans hi, hne, (mem_unreported_quiet he).mpr ⟨hmem, i, hsame.symm⟩⟩

lemma Watch.Sound.step (h : w.Sound) (he : e.NonZero) : (w.step e).Sound := by
  cases e with
  | available info validTime =>
    rcases available_cases (s := w.disc) he validTime with
      ⟨hcreates, i, hlatest, -, hguids⟩ | ⟨-, hquiet⟩
    · have hi : (w.step (.available info validTime)).disc.guid i = info.guid :=
        (congrFun hguids i).trans (update_self _ _ _)
      refine ⟨unique_update h.unique (fun _ => hcreates.1) hguids, fun _ => ⟨i, hlatest, ?_, ?_⟩⟩
      · exact hi.symm ▸ he
      · refine mem_unreported_step.mpr ⟨.inl ?_, i, rfl⟩
        rw [created, if_pos hcreates]
        exact List.mem_singleton.mpr hi
    · exact h.quiet hquiet
  | departing guid => exact ⟨(step_departing h.unique he).1, fun hadded => nomatch hadded⟩
  | otherPacket => exact h.quiet quiet_otherPacket
  | discover => exact h.quiet quiet_discover
  | periodic now restart =>
    obtain ⟨hunique, hstate⟩ := step_periodic h.unique now restart
    exact ⟨hunique, fun hadded => absurd hadded hstate⟩

lemma Watch.Settled.quiet (h : w.Settled) (he : w.disc.Quiet e) : (w.step e).Settled := by
  intro g hg
  obtain ⟨hadded, i, hi, hguid⟩ := h g ((mem_unreported_quiet he).mp hg).1
  exact ⟨he.state.mpr hadded, i, he.latest.trans hi, (congrFun he.guids i).trans hguid⟩

lemma Watch.Settled.periodic (h : w.Settled) (now restart : ℕ) :
    (w.step (.periodic now restart)).unreported = [] := by
  refine List.eq_nil_iff_forall_not_mem.mpr fun g hg => ?_
  obtain ⟨hcreated | ⟨hmem, hunreported⟩, -⟩ := mem_unreported_step.mp hg
  · exact absurd hcreated List.not_mem_nil
  · obtain ⟨hadded, i, hi, hguid⟩ := h g hmem
    refine hunreported ?_
    rw [reported, if_pos hadded, hi]
    exact congrArg some hguid

lemma Watch.Settled.step (h : w.Settled) (hsound : w.Sound) (he : e.NonZero)
    (hundisturbed : w.Undisturbed e) : (w.step e).Settled := by
  cases e with
  | available info validTime =>
    rcases available_cases (s := w.disc) he validTime with
      ⟨hcreates, i, hlatest, hstate, hguids⟩ | ⟨-, hquiet⟩
    · intro g hg
      obtain ⟨hcreated | ⟨hmem, -⟩, -⟩ := mem_unreported_step.mp hg
      · rw [created, if_pos hcreates, List.mem_singleton] at hcreated
        refine ⟨hstate, i, hlatest, (congrFun hguids i).trans ?_⟩
        rw [update_self, hcreated]
      · exact absurd hcreates (hundisturbed (h g hmem).1)
    · exact h.quiet hquiet
  | departing guid =>
    -- the entity that was to be reported is the one that leaves
    intro g hg
    obtain ⟨hcreated | ⟨hmem, -⟩, i, hi⟩ := mem_unreported_step.mp hg
    · exact absurd hcreated List.not_mem_nil
    · obtain ⟨hadded, j, hj, hguid⟩ := h g hmem
      have hlatest := hundisturbed hadded
      rw [hj, Option.map_some, hguid] at hlatest
      exact absurd (hi.trans (Option.some.inj hlatest)) ((step_departing hsound.unique he).2 i)
  | otherPacket => exact h.quiet quiet_otherPacket
  | discover => exact h.quiet quiet_discover
  | periodic now restart =>
    intro g hg
    rw [h.periodic now restart] at hg
    exact absurd hg List.not_mem_nil

/-- An entity of which only the guid is known. -/
def bareEntity (guid : UInt64) : AdpInfo := ⟨guid, 0, 0, 0, 0, 0, 0, 0, 0, 0, 0, 0, 0, 0⟩

def emptyDatabase : AdpDiscovery 2 :=
  ⟨fun _ => ⟨bareEntity 0, 0⟩, .idle, none, 0, ⟨0, 0, 0, 0⟩⟩

end AdpDiscovery
