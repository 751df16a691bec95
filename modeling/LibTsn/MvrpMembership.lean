/-
# VLAN membership

The sources and sinks of the device, the table of VLANs that they join, and what a
peer that hears every MVRP frame has registered.
-/
import LibTsn.MrpPair

open Function (update update_eq_self update_idem update_of_ne update_self forall_update_iff)

/-! ## The table of VLANs -/

structure MvrpEntry where
  active : Bool
  attr : MrpAttribute
  vlan : ℕ
  deriving DecidableEq

def mrpIsObserver (a : MrpAttribute) : Bool :=
  match a.applicantState with
  | .vo | .ao | .qo => true
  | _ => false

section

variable {n : ℕ}
variable (vlan : ℕ) (entries : Fin n → MvrpEntry)

def activeEntry (vlan : ℕ) : Option (Fin n) :=
  (List.finRange n).reverse.find? fun i => (entries i).active && (entries i).vlan = vlan

def firstFree : Option (Fin n) :=
  (List.finRange n).find? fun i => !(entries i).active

/-- The entry that `avb_join_vlan` takes: the active one of the VLAN, the first that is not
active, or the first active one that has become an observer. -/
def joinEntry (vlan : ℕ) : Option (Fin n) :=
  (activeEntry entries vlan).or
    ((firstFree entries).or
      ((List.finRange n).find? fun i => (entries i).active && mrpIsObserver (entries i).attr))

def avbJoinVlan : Fin n → MvrpEntry :=
  match joinEntry entries vlan with
  | some i =>
    update entries i ⟨true, mrpMadJoin true (mrpMadBegin (entries i).attr), vlan⟩
  | none => entries

def avbLeaveVlan : Fin n → MvrpEntry :=
  match activeEntry entries vlan with
  | some i => update entries i ⟨false, mrpMadLeave (entries i).attr, (entries i).vlan⟩
  | none => entries

end

/-! ## Streams -/

/-- What the membership depends on in an `avb_source_info_t` or `avb_sink_info_t`. -/
structure VlanStream where
  state : AvbStreamState
  vlan : ℕ
  deriving DecidableEq

/-- What `avb_srp_join_listener_attrs` finds: a Talker Advertise, with or without a Listener
attribute and, without, perhaps no free one; only a Talker Failed; or no talker, with or
without room in the stream table. -/
inductive AttachMatch where
  | advertise (listener freeAttr : Bool)
  | failed
  | noTalker (freeEntry : Bool)
  deriving DecidableEq

/-- The calls of `avb_join_vlan` in `avb_srp_join_listener_attrs`. -/
def attachJoins : AttachMatch → ℕ
  | .advertise true _ => 1
  | .advertise false true => 2
  | .advertise false false => 0
  | .failed => 0
  | .noTalker true => 1
  | .noTalker false => 0

structure MvrpFrame where
  leaveAll : Bool
  events : List (ℕ × MrpAttributeEvent)
  deriving DecidableEq

/-- The device: `n` entries for VLANs, `m` sources, `k` sinks, whether a LeaveAll of its own
waits to be transmitted, the VLAN of the domain, and what has been sent. -/
structure MvrpState (n m k : ℕ) where
  entries : Fin n → MvrpEntry
  streams : Fin m ⊕ Fin k → VlanStream
  leaveAllActive : Bool
  domainVlan : ℕ
  sent : List MvrpFrame

inductive MvrpEvent (m k : ℕ) where
  | setSource (i : Fin m) (info : VlanStream) (valid : Bool)
  | setSink (i : Fin k) (info : VlanStream) (found : AttachMatch)
  | leaveAllTimer (now : ℕ)
  | periodicTimer
  | joinTimer (now : ℕ)

section

variable {n m k : ℕ}

def validToLeaveVlan (streams : Fin m ⊕ Fin k → VlanStream) : Bool :=
  decide (∀ j, (streams j).state = .disabled)

def vidToJoin (domainVlan vlan : ℕ) : ℕ := if vlan = 0 then domainVlan else vlan

variable (leaveAll : Bool) (j : Fin m ⊕ Fin k)

def enableVlanStream (vlan joins : ℕ) (s : MvrpState n m k) : MvrpState n m k :=
  let vid := vidToJoin s.domainVlan vlan
  { s with
    entries := (avbJoinVlan vid)^[joins] s.entries
    streams := update s.streams j { s.streams j with vlan := vid } }

def disableVlanStream (vlan : ℕ) (s : MvrpState n m k) : MvrpState n m k :=
  if vlan ≠ 0 ∧ validToLeaveVlan s.streams then { s with entries := avbLeaveVlan vlan s.entries }
  else s

/-- What `update_source_state` and `update_sink_state` do to the membership, when the record
has been stored; `joins` is how often the VLAN is joined if the stream is enabled at all.  A
stream that does not become POTENTIAL from DISABLED joins nothing. -/
def updateStreamState (info : VlanStream) (joins : Option ℕ) (s : MvrpState n m k) :
    MvrpState n m k :=
  let prev := (s.streams j).state
  let s := { s with streams := update s.streams j info }
  if prev = .disabled ∧ info.state = .potential then
    match joins with
    | some c => enableVlanStream j info.vlan c s
    | none => s
  else if prev ≠ .disabled ∧ info.state = .disabled then disableVlanStream info.vlan s
  else s

def updateSourceState (i : Fin m) (info : VlanStream) (valid : Bool) :
    MvrpState n m k → MvrpState n m k :=
  updateStreamState (.inl i) info (if valid then some 1 else none)

def updateSinkState (i : Fin k) (info : VlanStream) (found : AttachMatch) :
    MvrpState n m k → MvrpState n m k :=
  updateStreamState (.inr i) info (some (attachJoins found))

def entryEvent (now : ℕ) (x : MvrpEntry) : Option MrpAttributeEvent :=
  (mrpUpdateState now 0 (txEvent leaveAll) x.attr).2

def mvrpFrame (now : ℕ) (entries : Fin n → MvrpEntry) : MvrpFrame where
  leaveAll := leaveAll
  events := (List.finRange n).filterMap fun i =>
    (entryEvent leaveAll now (entries i)).map fun e => ((entries i).vlan, e)

def inputEntries (i : MrpInput) (entries : Fin n → MvrpEntry) : Fin n → MvrpEntry :=
  fun j => { entries j with attr := mrpInput (entries j).attr i }

def mvrpStep (s : MvrpState n m k) : MvrpEvent m k → MvrpState n m k
  | .setSource i info valid => updateSourceState i info valid s
  | .setSink i info found => updateSinkState i info found s
  | .leaveAllTimer now =>
    { s with entries := inputEntries (.leaveAll now) s.entries, leaveAllActive := true }
  | .periodicTimer => { s with entries := inputEntries .periodicTimer s.entries }
  | .joinTimer now =>
    { s with
      entries := inputEntries (.transmit s.leaveAllActive now) s.entries
      leaveAllActive := false
      sent := s.sent ++ [mvrpFrame s.leaveAllActive now s.entries] }

/-- The device behind `avb_mvrp_init`, with all streams disabled. -/
def mvrpInit (n m k domainVlan : ℕ) : MvrpState n m k where
  entries := fun _ =>
    ⟨false, { MrpAttribute.zero with attributeType := .vidVector, applicantState := .disabled }, 0⟩
  streams := fun _ => ⟨.disabled, 0⟩
  leaveAllActive := false
  domainVlan := domainVlan
  sent := []

end

/-! ## The peer -/

def peerEvent (registered : ℕ → Bool) (x : ℕ × MrpAttributeEvent) : ℕ → Bool :=
  fun v => if v = x.1 then registeredInput (registered v) (.received x.2 0 0) else registered v

def peerFrame (registered : ℕ → Bool) (f : MvrpFrame) : ℕ → Bool :=
  f.events.foldl peerEvent (if f.leaveAll then fun _ => false else registered)

def peerRegistered (sent : List MvrpFrame) : ℕ → Bool := sent.foldl peerFrame fun _ => false

section

variable {registered : ℕ → Bool} {v : ℕ}

lemma peerEvent_other {x : ℕ × MrpAttributeEvent} (h : x.1 ≠ v) :
    peerEvent registered x v = registered v :=
  if_neg (Ne.symm h)

lemma peerEvent_same (e : MrpAttributeEvent) :
    peerEvent registered (v, e) v = registeredInput (registered v) (.received e 0 0) :=
  if_pos rfl

lemma peer_of_declared {es : List (ℕ × MrpAttributeEvent)} (hlv : (v, .evLv) ∉ es)
    (h : registered v = true ∨ ∃ e, (v, e) ∈ es ∧ isDeclaration (some e) = true) :
    es.foldl peerEvent registered v = true := by
  induction es generalizing registered with
  | nil =>
    rcases h with h | ⟨e, he, -⟩
    · exact h
    · cases he
  | cons x es ih =>
    rw [List.foldl_cons]
    refine ih (fun hmem => hlv (List.mem_cons_of_mem _ hmem)) ?_
    by_cases hx : x.1 = v
    · obtain ⟨v', e⟩ := x
      obtain rfl : v' = v := hx
      rw [peerEvent_same]
      have hne : e ≠ .evLv := by
        rintro rfl
        exact hlv List.mem_cons_self
      rcases h with h | ⟨e', he', hdecl⟩
      · left
        rw [h]
        cases e <;> first | rfl | exact absurd rfl hne
      · rcases List.mem_cons.mp he' with heq | hrest
        · left
          obtain rfl : e' = e := congrArg Prod.snd heq
          cases e' <;> first | rfl | cases hdecl
        · exact Or.inr ⟨e', hrest, hdecl⟩
    · rw [peerEvent_other hx]
      rcases h with h | ⟨e', he', hdecl⟩
      · exact Or.inl h
      · rcases List.mem_cons.mp he' with heq | hrest
        · exact absurd (congrArg Prod.fst heq).symm hx
        · exact Or.inr ⟨e', hrest, hdecl⟩

lemma declared_of_peer {es : List (ℕ × MrpAttributeEvent)}
    (h : es.foldl peerEvent registered v = true) :
    (∃ e, (v, e) ∈ es ∧ isDeclaration (some e) = true) ∨
      registered v = true ∧ (v, .evLv) ∉ es := by
  induction es generalizing registered with
  | nil => exact Or.inr ⟨h, List.not_mem_nil⟩
  | cons x es ih =>
    rw [List.foldl_cons] at h
    rcases ih h with ⟨e, he, hdecl⟩ | ⟨hreg, hlv⟩
    · exact Or.inl ⟨e, List.mem_cons_of_mem _ he, hdecl⟩
    · by_cases hx : x.1 = v
      · obtain ⟨v', e⟩ := x
        obtain rfl : v' = v := hx
        rw [peerEvent_same] at hreg
        by_cases hdecl : isDeclaration (some e) = true
        · exact Or.inl ⟨e, List.mem_cons_self, hdecl⟩
        · right
          have hne : e ≠ .evLv := by
            rintro rfl
            cases hreg
          refine ⟨?_, ?_⟩
          · cases e <;> first | exact hreg | exact absurd rfl hdecl | exact absurd rfl hne
          · intro hmem
            rcases List.mem_cons.mp hmem with heq | hrest
            · exact hne (congrArg Prod.snd heq).symm
            · exact hlv hrest
      · right
        rw [peerEvent_other hx] at hreg
        refine ⟨hreg, fun hmem => ?_⟩
        rcases List.mem_cons.mp hmem with heq | hrest
        · exact hx (congrArg Prod.fst heq).symm
        · exact hlv hrest

end

section

variable {leaveAll : Bool} {now : ℕ} {x : MvrpEntry}

def Resting (st : MrpApplicantState) : Bool := Observing st || decide (st = .disabled)

lemma entryEvent_lv_iff (leaveAll : Bool) (now : ℕ) (x : MvrpEntry) :
    entryEvent leaveAll now x = some .evLv ↔ x.attr.applicantState = .la := by
  obtain ⟨registrar, hmake⟩ := makeTxEvent_registrarEvent now leaveAll x.attr
  rw [entryEvent, txEvent_eq_some, hmake]
  generalize x.attr.applicantState = st
  cases leaveAll <;> cases st <;> cases registrar <;> decide

lemma entryEvent_declares (h : Declaring x.attr.applicantState = true) :
    isDeclaration (entryEvent leaveAll now x) = true ↔
      x.attr.applicantState ≠ if leaveAll then .vp else .qa := by
  obtain ⟨registrar, hmake⟩ := makeTxEvent_registrarEvent now leaveAll x.attr
  rw [entryEvent, txEvent_eq_some, hmake]
  generalize x.attr.applicantState = st at h ⊢
  revert h
  cases leaveAll <;> cases st <;> cases registrar <;> decide

/-! The applicants behind the timers, a Leave and a transmit opportunity. -/

variable {st : MrpApplicantState}

lemma resting_tx (h : Resting st = true) (leaveAll : Bool) (r : MrpRegistrarState) :
    Resting (if leaveAll then afterTxLeaveAll st else afterTx r st) = true := by
  revert h
  cases leaveAll <;> cases st <;> cases r <;> decide

lemma tx_ne_la (st : MrpApplicantState) (leaveAll : Bool) (r : MrpRegistrarState) :
    (if leaveAll then afterTxLeaveAll st else afterTx r st) ≠ .la := by
  cases leaveAll <;> cases st <;> cases r <;> decide

lemma tx_eq_vp_iff {leaveAll : Bool} {r : MrpRegistrarState} :
    (if leaveAll then afterTxLeaveAll st else afterTx r st) = .vp ↔
      leaveAll = true ∧ st = .vp := by
  cases leaveAll <;> cases st <;> cases r <;> decide

lemma resting_applicantLeave (h : Resting st = true) : Resting (applicantLeave st) = true := by
  revert h
  cases st <;> decide

lemma resting_applicantPeriodic (h : Resting st = true) :
    Resting (applicantPeriodic st) = true := by
  revert h
  cases st <;> decide

lemma declaring_applicantPeriodic (h : Declaring st = true) :
    Declaring (applicantPeriodic st) = true := by
  revert h
  cases st <;> decide

lemma applicantLeave_of_declaring (h : Declaring st = true) :
    applicantLeave st = .vp ∨ applicantLeave st = .vn := by
  revert h
  cases st <;> decide

lemma la_of_applicantLeave (h : applicantLeave st = .la) : st = .la := by
  revert h
  cases st <;> decide

lemma applicantLv_of_declaring (h : Declaring st = true) (hvp : st ≠ .vp) :
    applicantLv st = .la := by
  revert h hvp
  cases st <;> decide

lemma resting_applicantLv (h : Declaring st = true) : Resting (applicantLv st) = true := by
  revert h
  cases st <;> decide

lemma entryEvent_resting (h : Resting x.attr.applicantState = true) :
    isDeclaration (entryEvent leaveAll now x) = false := by
  obtain ⟨registrar, hmake⟩ := makeTxEvent_registrarEvent now leaveAll x.attr
  rw [entryEvent, txEvent_eq_some, hmake]
  generalize x.attr.applicantState = st at h ⊢
  revert h
  cases leaveAll <;> cases st <;> cases registrar <;> decide

end

lemma mem_mvrpFrame {n : ℕ} {leaveAll : Bool} {now : ℕ} {entries : Fin n → MvrpEntry} {v : ℕ}
    {e : MrpAttributeEvent} : (v, e) ∈ (mvrpFrame leaveAll now entries).events ↔
      ∃ i, (entries i).vlan = v ∧ entryEvent leaveAll now (entries i) = some e := by
  unfold mvrpFrame
  rw [List.mem_filterMap]
  constructor
  · rintro ⟨i, -, hi⟩
    obtain ⟨e', he', heq⟩ := Option.map_eq_some_iff.mp hi
    obtain ⟨rfl, rfl⟩ := Prod.mk.inj heq
    exact ⟨i, rfl, he'⟩
  · rintro ⟨i, rfl, hi⟩
    exact ⟨i, List.mem_finRange i, by rw [hi]; rfl⟩

/-! ## Membership -/

/-- **Membership.**  The active entries are those of the VLANs in use, and what the peer has
registered beyond them is about to go away. -/
structure MembershipSound {n m k : ℕ} (used : Finset ℕ) (s : MvrpState n m k) : Prop where
  inUse : ∀ v, (∃ i, (s.entries i).active = true ∧ (s.entries i).vlan = v) ↔ v ∈ used
  distinct : ∀ i j, (s.entries i).active = true → (s.entries j).active = true →
    (s.entries i).vlan = (s.entries j).vlan → i = j
  declaring : ∀ i, (s.entries i).active = true →
    Declaring (s.entries i).attr.applicantState = true
  resting : ∀ i, (s.entries i).active = false → Resting (s.entries i).attr.applicantState = true
  heard : ∀ i, (s.entries i).active = true → (s.entries i).attr.applicantState ≠ .vn →
    (s.entries i).attr.applicantState ≠ .vp → peerRegistered s.sent (s.entries i).vlan = true
  setBack : ∀ i, (s.entries i).active = true → (s.entries i).attr.applicantState = .vp →
    peerRegistered s.sent (s.entries i).vlan = true → s.leaveAllActive = true
  packed : ∀ i j, j < i → (s.entries i).active = true → (s.entries j).active = true
  leaving : ∀ i, (s.entries i).attr.applicantState = .la → used = ∅ ∧ i.val = 0
  left : ∀ v, peerRegistered s.sent v = true →
    v ∈ used ∨ (∃ i, (s.entries i).attr.applicantState = .la ∧ (s.entries i).vlan = v) ∨
      s.leaveAllActive = true

section

variable {n m k : ℕ} {used : Finset ℕ} {s : MvrpState n m k}

lemma peerRegistered_snoc (sent : List MvrpFrame) (f : MvrpFrame) :
    peerRegistered (sent ++ [f]) = peerFrame (peerRegistered sent) f :=
  List.foldl_append

lemma peerFrame_mvrpFrame (h : MembershipSound used s) (now : ℕ) :
    (∀ i, (s.entries i).active = true →
      ((s.entries i).attr.applicantState ≠ (if s.leaveAllActive then .vp else .qa) ∨
        s.leaveAllActive = false ∧ peerRegistered s.sent (s.entries i).vlan = true) →
      peerFrame (peerRegistered s.sent) (mvrpFrame s.leaveAllActive now s.entries)
        (s.entries i).vlan = true) ∧
    ∀ v, peerFrame (peerRegistered s.sent) (mvrpFrame s.leaveAllActive now s.entries) v = true →
      (∃ i, (s.entries i).active = true ∧ (s.entries i).vlan = v ∧
        (s.entries i).attr.applicantState ≠ (if s.leaveAllActive then .vp else .qa)) ∨
      s.leaveAllActive = false ∧ peerRegistered s.sent v = true ∧
        ∀ i, (s.entries i).attr.applicantState = .la → (s.entries i).vlan ≠ v := by
  constructor
  · intro i hactive hst
    -- nothing leaves while a VLAN is in use
    have hlv : ((s.entries i).vlan, .evLv) ∉ (mvrpFrame s.leaveAllActive now s.entries).events := by
      intro hmem
      obtain ⟨j, -, hj⟩ := mem_mvrpFrame.mp hmem
      have hempty := (h.leaving j ((entryEvent_lv_iff _ _ _).mp hj)).1
      have hused := (h.inUse _).mp ⟨i, hactive, rfl⟩
      rw [hempty] at hused
      exact absurd hused (Finset.notMem_empty _)
    refine peer_of_declared hlv ?_
    rcases hst with hst | ⟨hidle, hreg⟩
    · right
      have hdeclares : isDeclaration (entryEvent s.leaveAllActive now (s.entries i)) = true :=
        (entryEvent_declares (h.declaring i hactive)).mpr hst
      obtain ⟨e, he⟩ := Option.isSome_iff_exists.mp (isSome_of_isDeclaration hdeclares)
      rw [he] at hdeclares
      exact ⟨e, mem_mvrpFrame.mpr ⟨i, rfl, he⟩, hdeclares⟩
    · left
      rw [hidle]
      exact hreg
  · intro v hv
    rcases declared_of_peer hv with ⟨e, hmem, hdeclares⟩ | ⟨hreg, hlv⟩
    · left
      obtain ⟨i, hvlan, hi⟩ := mem_mvrpFrame.mp hmem
      rw [← hi] at hdeclares
      have hactive : (s.entries i).active = true := by
        by_contra hnot
        have hresting := h.resting i (Bool.eq_false_of_not_eq_true hnot)
        exact absurd ((entryEvent_resting hresting).symm.trans hdeclares) Bool.false_ne_true
      exact ⟨i, hactive, hvlan, (entryEvent_declares (h.declaring i hactive)).mp hdeclares⟩
    · right
      have hreg : (if s.leaveAllActive then fun _ => false else peerRegistered s.sent) v = true :=
        hreg
      cases hall : s.leaveAllActive with
      | true =>
        rw [hall] at hreg
        cases hreg
      | false =>
        rw [hall] at hreg
        refine ⟨rfl, hreg, fun i hla hvlan => hlv ?_⟩
        exact mem_mvrpFrame.mpr ⟨i, hvlan, (entryEvent_lv_iff _ _ _).mpr hla⟩

lemma applicantState_transmit (now : ℕ) (leaveAll : Bool) (a : MrpAttribute) :
    (mrpInput a (.transmit leaveAll now)).applicantState =
      if leaveAll then afterTxLeaveAll a.applicantState
      else afterTx a.registrarState a.applicantState :=
  applicantState_tx now leaveAll a

lemma membershipSound_joinTimer (h : MembershipSound used s) (now : ℕ) :
    MembershipSound used (mvrpStep s (.joinTimer now)) := by
  obtain ⟨hsent, honly⟩ := peerFrame_mvrpFrame h now
  have hstate : ∀ i, ((mvrpStep s (.joinTimer now)).entries i).attr.applicantState =
      if s.leaveAllActive then afterTxLeaveAll (s.entries i).attr.applicantState
      else afterTx (s.entries i).attr.registrarState (s.entries i).attr.applicantState :=
    fun i => applicantState_transmit now s.leaveAllActive _
  have hpeer : peerRegistered (mvrpStep s (.joinTimer now)).sent =
      peerFrame (peerRegistered s.sent) (mvrpFrame s.leaveAllActive now s.entries) :=
    peerRegistered_snoc _ _
  constructor
  · exact h.inUse
  · exact h.distinct
  · intro i hactive
    exact declaring_tx (h.declaring i hactive)
  · intro i hactive
    rw [hstate]
    exact resting_tx (h.resting i hactive) _ _
  · intro i hactive hvn hvp
    rw [hstate] at hvp
    rw [hpeer]
    refine hsent i hactive ?_
    by_cases hst : (s.entries i).attr.applicantState = if s.leaveAllActive then .vp else .qa
    · right
      cases hall : s.leaveAllActive with
      | true =>
        rw [hall, if_pos rfl] at hst
        exact absurd (tx_eq_vp_iff.mpr ⟨hall, hst⟩) hvp
      | false =>
        rw [hall, if_neg Bool.false_ne_true] at hst
        refine ⟨rfl, h.heard i hactive ?_ ?_⟩ <;> rw [hst] <;> decide
    · exact Or.inl hst
  · intro i hactive hvp hreg
    rw [hstate] at hvp
    obtain ⟨hall, hst⟩ := tx_eq_vp_iff.mp hvp
    rw [hpeer] at hreg
    exfalso
    rcases honly _ hreg with ⟨j, hj, hvlan, hne⟩ | ⟨hidle, -, -⟩
    · obtain rfl := h.distinct j i hj hactive hvlan
      rw [hall, if_pos rfl] at hne
      exact hne hst
    · exact absurd (hidle.symm.trans hall) Bool.false_ne_true
  · exact h.packed
  · intro i hla
    rw [hstate] at hla
    exact absurd hla (tx_ne_la _ _ _)
  · intro v hreg
    rw [hpeer] at hreg
    left
    rcases honly v hreg with ⟨i, hactive, hvlan, -⟩ | ⟨hidle, hbefore, hnone⟩
    · exact (h.inUse v).mp ⟨i, hactive, hvlan⟩
    · rcases h.left v hbefore with hused | ⟨i, hla, hvlan⟩ | hall
      · exact hused
      · exact absurd hvlan (hnone i hla)
      · exact absurd (hidle.symm.trans hall) Bool.false_ne_true

lemma membershipSound_leaveAllTimer (h : MembershipSound used s) (now : ℕ) :
    MembershipSound used (mvrpStep s (.leaveAllTimer now)) := by
  have hstate : ∀ i, ((mvrpStep s (.leaveAllTimer now)).entries i).attr.applicantState =
      applicantLeave (s.entries i).attr.applicantState :=
    fun i => applicantState_mrpInput (by intro _ _ h; cases h) _
  constructor
  · exact h.inUse
  · exact h.distinct
  · intro i hactive
    rw [hstate]
    rcases applicantLeave_of_declaring (h.declaring i hactive) with hst | hst <;> rw [hst] <;> rfl
  · intro i hactive
    rw [hstate]
    exact resting_applicantLeave (h.resting i hactive)
  · intro i hactive hvn hvp
    rw [hstate] at hvn hvp
    rcases applicantLeave_of_declaring (h.declaring i hactive) with hst | hst
    · exact absurd hst hvp
    · exact absurd hst hvn
  · intro i hactive hvp hreg
    rfl
  · exact h.packed
  · intro i hla
    rw [hstate] at hla
    exact h.leaving i (la_of_applicantLeave hla)
  · intro v hreg
    exact Or.inr (Or.inr rfl)

lemma membershipSound_periodicTimer (h : MembershipSound used s) :
    MembershipSound used (mvrpStep s .periodicTimer) := by
  have hstate : ∀ i, ((mvrpStep s .periodicTimer).entries i).attr.applicantState =
      applicantPeriodic (s.entries i).attr.applicantState :=
    fun i => applicantState_mrpInput (by intro _ _ h; cases h) _
  -- only quiet applicants move
  have hkeeps : ∀ st, (applicantPeriodic st = .vn ↔ st = .vn) ∧
    (applicantPeriodic st = .vp ↔ st = .vp) ∧
      (applicantPeriodic st = .la ↔ st = .la) := by
    intro st
    cases st <;> decide
  constructor
  · exact h.inUse
  · exact h.distinct
  · intro i hactive
    rw [hstate]
    exact declaring_applicantPeriodic (h.declaring i hactive)
  · intro i hactive
    rw [hstate]
    exact resting_applicantPeriodic (h.resting i hactive)
  · intro i hactive hvn hvp
    rw [hstate] at hvn hvp
    exact h.heard i hactive (fun hst => hvn ((hkeeps _).1.mpr hst))
      fun hst => hvp ((hkeeps _).2.1.mpr hst)
  · intro i hactive hvp hreg
    rw [hstate] at hvp
    exact h.setBack i hactive ((hkeeps _).2.1.mp hvp) hreg
  · exact h.packed
  · intro i hla
    rw [hstate] at hla
    exact h.leaving i ((hkeeps _).2.2.mp hla)
  · intro v hreg
    rcases h.left v hreg with hused | ⟨i, hla, hvlan⟩ | hall
    · exact Or.inl hused
    · refine Or.inr (Or.inl ⟨i, ?_, hvlan⟩)
      rw [hstate]
      exact (hkeeps _).2.2.mpr hla
    · exact Or.inr (Or.inr hall)

lemma MembershipSound.of_entries {s' : MvrpState n m k} (h : MembershipSound used s)
    (hentries : s'.entries = s.entries) (hactive : s'.leaveAllActive = s.leaveAllActive)
    (hsent : s'.sent = s.sent) : MembershipSound used s' := by
  obtain ⟨entries, streams, leaveAllActive, domainVlan, sent⟩ := s
  obtain ⟨entries', streams', leaveAllActive', domainVlan', sent'⟩ := s'
  subst hentries hactive hsent
  exact ⟨h.inUse, h.distinct, h.declaring, h.resting, h.heard, h.setBack, h.packed, h.leaving,
    h.left⟩

variable {entries : Fin n → MvrpEntry} {v : ℕ}

lemma activeEntry_some {i : Fin n} (h : activeEntry entries v = some i) :
    (entries i).active = true ∧ (entries i).vlan = v := by
  have hi := List.find?_some h
  rwa [Bool.and_eq_true, decide_eq_true_eq] at hi

lemma activeEntry_none (h : activeEntry entries v = none) (i : Fin n)
    (hactive : (entries i).active = true) : (entries i).vlan ≠ v := by
  intro hvlan
  have hi := List.find?_eq_none.mp h i (List.mem_reverse.mpr (List.mem_finRange i))
  rw [hactive, hvlan] at hi
  simp at hi

lemma firstFree_eq_some {i : Fin n} (h : firstFree entries = some i) :
    (entries i).active = false ∧ ∀ j, j < i → (entries j).active = true := by
  obtain ⟨hi, l, hl, hget, hbefore⟩ := List.find?_eq_some_iff_getElem.mp h
  rw [List.getElem_finRange] at hget
  rw [Bool.not_eq_true'] at hi
  refine ⟨hi, fun j hj => ?_⟩
  have hlt : j.val < l := by
    rw [← hget] at hj
    exact hj
  have hat := hbefore j.val hlt
  rw [List.getElem_finRange, Bool.not_not] at hat
  exact hat

def TakenFor (entries : Fin n → MvrpEntry) (v : ℕ) (i : Fin n) : Prop :=
  (entries i).active = true ∧ (entries i).vlan = v ∨
    (entries i).active = false ∧ (∀ j, j < i → (entries j).active = true) ∧
      ∀ j, (entries j).active = true → (entries j).vlan ≠ v

lemma exists_joinEntry (h : MembershipSound used s) {v : ℕ} (hcard : (insert v used).card ≤ n) :
    ∃ i, joinEntry s.entries v = some i ∧ TakenFor s.entries v i := by
  unfold joinEntry
  cases hactive : activeEntry s.entries v with
  | some i => exact ⟨i, rfl, Or.inl (activeEntry_some hactive)⟩
  | none =>
    have hother := activeEntry_none hactive
    cases hfree : firstFree s.entries with
    | some i =>
      obtain ⟨hi, hbefore⟩ := firstFree_eq_some hfree
      exact ⟨i, rfl, Or.inr ⟨hi, hbefore, hother⟩⟩
    | none =>
      -- all entries are active, and their VLANs fill the table
      exfalso
      have hall : ∀ i, (s.entries i).active = true := by
        intro i
        have hi := List.find?_eq_none.mp hfree i (List.mem_finRange i)
        rwa [Bool.not_eq_true', Bool.not_eq_false] at hi
      have himage : Finset.univ.image (fun i => (s.entries i).vlan) = used := by
        ext u
        rw [Finset.mem_image, ← h.inUse u]
        constructor
        · rintro ⟨i, -, hi⟩
          exact ⟨i, hall i, hi⟩
        · rintro ⟨i, -, hi⟩
          exact ⟨i, Finset.mem_univ i, hi⟩
      have hsize : used.card = n := by
        rw [← himage, Finset.card_image_of_injective _
          (fun i j hij => h.distinct i j (hall i) (hall j) hij), Finset.card_univ, Fintype.card_fin]
      have hnew : v ∉ used := by
        intro hmem
        obtain ⟨i, hi, hvlan⟩ := (h.inUse v).mpr hmem
        exact hother i hi hvlan
      rw [Finset.card_insert_of_notMem hnew] at hcard
      omega

def TakesNoLeave (entries : Fin n → MvrpEntry) (v : ℕ) : Prop :=
  ∀ i, joinEntry entries v = some i → (entries i).attr.applicantState = .la → (entries i).vlan = v
  deriving Decidable

lemma MembershipSound.taken_of_la (h : MembershipSound used s) {v : ℕ} {i j : Fin n}
    (hwhich : TakenFor s.entries v i) (hla : (s.entries j).attr.applicantState = .la) : j = i := by
  obtain ⟨hempty, hzero⟩ := h.leaving j hla
  have hnone : ∀ l, (s.entries l).active ≠ true := by
    intro l hl
    have hused := (h.inUse _).mp ⟨l, hl, rfl⟩
    rw [hempty] at hused
    exact absurd hused (Finset.notMem_empty _)
  by_contra hne
  rcases hwhich with ⟨hi, -⟩ | ⟨-, hbefore, -⟩
  · exact hnone i hi
  · have hlt : j < i := by
      rw [Fin.lt_def]
      have hval : j.val ≠ i.val := fun heq => hne (Fin.ext heq)
      omega
    exact hnone j (hbefore j hlt)

/-! What an entry taken for a VLAN does to the table. -/

section

variable {entries : Fin n → MvrpEntry} {x : MvrpEntry} {v : ℕ} {i : Fin n}

lemma TakenFor.inUse (h : TakenFor entries v i) (hactive : x.active = true) (hvlan : x.vlan = v)
    (hinUse : ∀ u, (∃ j, (entries j).active = true ∧ (entries j).vlan = u) ↔ u ∈ used) (u : ℕ) :
    (∃ j, (update entries i x j).active = true ∧
      (update entries i x j).vlan = u) ↔ u ∈ insert v used := by
  rw [Function.exists_update_iff entries fun _ y => y.active = true ∧ y.vlan = u,
    Finset.mem_insert, ← hinUse u]
  constructor
  · rintro (⟨-, hu⟩ | ⟨j, -, hj⟩)
    · exact Or.inl (hu.symm.trans hvlan)
    · exact Or.inr ⟨j, hj⟩
  · rintro (rfl | ⟨j, hj, hu⟩)
    · exact Or.inl ⟨hactive, hvlan⟩
    · by_cases hji : j = i
      · subst hji
        rcases h with ⟨-, hv⟩ | ⟨hi, -, -⟩
        · exact Or.inl ⟨hactive, hvlan.trans (hv.symm.trans hu)⟩
        · exact absurd (hi.symm.trans hj) Bool.false_ne_true
      · exact Or.inr ⟨j, hji, hj, hu⟩

lemma TakenFor.sole (h : TakenFor entries v i)
    (hdistinct : ∀ j l, (entries j).active = true → (entries l).active = true →
      (entries j).vlan = (entries l).vlan → j = l) {j : Fin n} (hj : j ≠ i)
    (hactive : (entries j).active = true) : (entries j).vlan ≠ v := by
  intro hvlan
  rcases h with ⟨hi, hvlan'⟩ | ⟨-, -, hother⟩
  · exact hj (hdistinct j i hactive hi (hvlan.trans hvlan'.symm))
  · exact hother j hactive hvlan

lemma TakenFor.distinct (h : TakenFor entries v i) (hvlan : x.vlan = v)
    (hdistinct : ∀ j l, (entries j).active = true → (entries l).active = true →
      (entries j).vlan = (entries l).vlan → j = l) (j l : Fin n)
    (hj : (update entries i x j).active = true)
    (hl : (update entries i x l).active = true)
    (hsame : (update entries i x j).vlan = (update entries i x l).vlan) :
    j = l := by
  by_cases hji : j = i
  · by_cases hli : l = i
    · exact hji.trans hli.symm
    · rw [hji, update_self, update_of_ne hli, hvlan] at hsame
      rw [update_of_ne hli] at hl
      exact absurd hsame.symm (h.sole hdistinct hli hl)
  · rw [update_of_ne hji] at hj hsame
    by_cases hli : l = i
    · rw [hli, update_self, hvlan] at hsame
      exact absurd hsame (h.sole hdistinct hji hj)
    · rw [update_of_ne hli] at hl hsame
      exact hdistinct j l hj hl hsame

lemma TakenFor.packed (h : TakenFor entries v i) (hactive : x.active = true)
    (hpacked : ∀ j l, l < j → (entries j).active = true → (entries l).active = true)
    (j l : Fin n) (hlt : l < j) (hj : (update entries i x j).active = true) :
    (update entries i x l).active = true := by
  by_cases hli : l = i
  · rw [hli, update_self]
    exact hactive
  · rw [update_of_ne hli]
    by_cases hji : j = i
    · rw [hji] at hlt
      rcases h with ⟨hi, -⟩ | ⟨-, hbefore, -⟩
      · exact hpacked i l hlt hi
      · exact hbefore l hlt
    · rw [update_of_ne hji] at hj
      exact hpacked j l hlt hj

end

lemma membershipSound_join (h : MembershipSound used s) {v : ℕ}
    (hcard : (insert v used).card ≤ n) (hleaves : TakesNoLeave s.entries v) :
    MembershipSound (insert v used) { s with entries := avbJoinVlan v s.entries } := by
  obtain ⟨i, hjoin, htaken⟩ := exists_joinEntry h hcard
  have hentries : avbJoinVlan v s.entries = update s.entries i
      ⟨true, mrpMadJoin true (mrpMadBegin (s.entries i).attr), v⟩ := by
    unfold avbJoinVlan
    rw [hjoin]
  rw [hentries]
  constructor
  · exact htaken.inUse rfl rfl h.inUse
  · exact htaken.distinct rfl h.distinct
  · refine (forall_update_iff s.entries fun _ y => y.active = true →
      Declaring y.attr.applicantState = true).mpr ⟨fun _ => rfl, ?_⟩
    exact fun j _ => h.declaring j
  · refine (forall_update_iff s.entries fun _ y => y.active = false →
      Resting y.attr.applicantState = true).mpr ⟨fun hoff => (nomatch hoff), ?_⟩
    exact fun j _ => h.resting j
  · refine (forall_update_iff s.entries fun _ y => y.active = true →
      y.attr.applicantState ≠ .vn → y.attr.applicantState ≠ .vp →
      peerRegistered s.sent y.vlan = true).mpr ⟨fun _ hvn => absurd rfl hvn, ?_⟩
    exact fun j _ => h.heard j
  · refine (forall_update_iff s.entries fun _ y => y.active = true →
      y.attr.applicantState = .vp → peerRegistered s.sent y.vlan = true →
      s.leaveAllActive = true).mpr ⟨fun _ hvp => (nomatch hvp), ?_⟩
    exact fun j _ => h.setBack j
  · exact htaken.packed rfl h.packed
  · -- only the entry taken can leave, and it does not any more
    refine (forall_update_iff s.entries fun j y => y.attr.applicantState = .la →
      insert v used = ∅ ∧ j.val = 0).mpr ⟨fun hla => (nomatch hla), ?_⟩
    exact fun j hj hla => absurd (h.taken_of_la htaken hla) hj
  · intro u hreg
    rcases h.left u hreg with hu | ⟨j, hla, hvlan⟩ | hall
    · exact Or.inl (Finset.mem_insert_of_mem hu)
    · left
      obtain rfl := h.taken_of_la htaken hla
      rw [← hvlan, hleaves j hjoin hla]
      exact Finset.mem_insert_self _ _
    · exact Or.inr (Or.inr hall)

lemma membershipSound_joins (h : MembershipSound used s) {v c : ℕ} (hc : c ≠ 0)
    (hcard : (insert v used).card ≤ n) (hleaves : TakesNoLeave s.entries v) :
    MembershipSound (insert v used) { s with entries := (avbJoinVlan v)^[c] s.entries } := by
  induction c with
  | zero => exact absurd rfl hc
  | succ c ih =>
    rw [Function.iterate_succ_apply']
    by_cases hzero : c = 0
    · rw [hzero]
      exact membershipSound_join h hcard hleaves
    · have hbefore := ih hzero
      have hsame : insert v (insert v used) = insert v used := Finset.insert_idem v used
      have hnone : TakesNoLeave ((avbJoinVlan v)^[c] s.entries) v := by
        intro i _ hla
        exact absurd (hbefore.leaving i hla).1 (Finset.insert_ne_empty v used)
      have hafter := membershipSound_join hbefore (v := v) (by rw [hsame]; exact hcard) hnone
      rw [hsame] at hafter
      exact hafter

lemma exists_leaveEntry (h : MembershipSound used s) {v : ℕ} (hv : v ∈ used) :
    ∃ i, (s.entries i).active = true ∧ (s.entries i).vlan = v ∧
      avbLeaveVlan v s.entries = update s.entries i
        ⟨false, mrpMadLeave (s.entries i).attr, (s.entries i).vlan⟩ := by
  obtain ⟨j, hj, hvlan⟩ := (h.inUse v).mpr hv
  unfold avbLeaveVlan
  cases hfind : activeEntry s.entries v with
  | none => exact absurd hvlan (activeEntry_none hfind j hj)
  | some i =>
    obtain ⟨hactive, hvlan'⟩ := activeEntry_some hfind
    exact ⟨i, hactive, hvlan', rfl⟩

lemma MembershipSound.eq_of_singleton (h : MembershipSound {v} s) {i j : Fin n}
    (hi : (s.entries i).active = true) (hj : (s.entries j).active = true) : j = i := by
  have hvlan := Finset.mem_singleton.mp ((h.inUse _).mp ⟨i, hi, rfl⟩)
  have hsame := Finset.mem_singleton.mp ((h.inUse _).mp ⟨j, hj, rfl⟩)
  exact h.distinct j i hj hi (hsame.trans hvlan.symm)

lemma MembershipSound.first_of_singleton (h : MembershipSound {v} s) {i : Fin n}
    (hi : (s.entries i).active = true) : i.val = 0 := by
  by_contra hpos
  have hzero : (⟨0, by omega⟩ : Fin n) < i := Nat.pos_of_ne_zero hpos
  exact absurd (h.eq_of_singleton hi (h.packed i _ hzero hi)) (ne_of_lt hzero)

lemma membershipSound_leave (h : MembershipSound {v} s) :
    MembershipSound ∅ { s with entries := avbLeaveVlan v s.entries } := by
  obtain ⟨i, hactive, hvlan, hentries⟩ := exists_leaveEntry h (Finset.mem_singleton_self v)
  have hdeclaring := h.declaring i hactive
  -- the others were not active before
  have hidle : ∀ j, j ≠ i → (s.entries j).active = false := fun j hj =>
    Bool.eq_false_iff.mpr fun hon => hj (h.eq_of_singleton hactive hon)
  have hnone : ∀ j, (update s.entries i
      ⟨false, mrpMadLeave (s.entries i).attr, (s.entries i).vlan⟩ j).active ≠ true :=
    (forall_update_iff s.entries fun _ y => y.active ≠ true).mpr
      ⟨Bool.false_ne_true, fun j hj => Bool.eq_false_iff.mp (hidle j hj)⟩
  rw [hentries]
  constructor
  · intro u
    constructor
    · rintro ⟨j, hj, -⟩
      exact absurd hj (hnone j)
    · intro hu
      exact absurd hu (Finset.notMem_empty u)
  · exact fun j l hj => absurd hj (hnone j)
  · exact fun j hj => absurd hj (hnone j)
  · refine (forall_update_iff s.entries fun _ y => y.active = false →
      Resting y.attr.applicantState = true).mpr ⟨fun _ => resting_applicantLv hdeclaring, ?_⟩
    exact fun j _ => h.resting j
  · exact fun j hj => absurd hj (hnone j)
  · exact fun j hj => absurd hj (hnone j)
  · exact fun j l _ hj => absurd hj (hnone j)
  · refine (forall_update_iff s.entries fun j y => y.attr.applicantState = .la →
      (∅ : Finset ℕ) = ∅ ∧ j.val = 0).mpr ⟨fun _ => ⟨rfl, h.first_of_singleton hactive⟩, ?_⟩
    exact fun j _ hla => absurd (h.leaving j hla).1 (Finset.singleton_ne_empty v)
  · intro u hreg
    right
    rcases h.left u hreg with hu | ⟨j, hla, -⟩ | hall
    · obtain rfl := Finset.mem_singleton.mp hu
      -- an applicant that was set back goes without a Leave, for a LeaveAll is on its way
      by_cases hvp : (s.entries i).attr.applicantState = .vp
      · right
        rw [← hvlan] at hreg
        exact h.setBack i hactive hvp hreg
      · left
        refine ⟨i, ?_, ?_⟩
        · dsimp only
          rw [update_self]
          exact applicantLv_of_declaring hdeclaring hvp
        · dsimp only
          rw [update_self]
          exact hvlan
    · exact absurd (h.leaving j hla).1 (Finset.singleton_ne_empty v)
    · exact Or.inr hall

end

/-! ## The VLANs of the streams -/

section

variable {n m k : ℕ} {s : MvrpState n m k}

def usedVlans (streams : Fin m ⊕ Fin k → VlanStream) : Finset ℕ :=
  (Finset.univ.filter fun j => (streams j).state ≠ .disabled).image fun j => (streams j).vlan

variable {streams : Fin m ⊕ Fin k → VlanStream} {j : Fin m ⊕ Fin k} {info : VlanStream}
  {joins : Option ℕ}

lemma mem_usedVlans {v : ℕ} :
    v ∈ usedVlans streams ↔ ∃ j, (streams j).state ≠ .disabled ∧ (streams j).vlan = v := by
  unfold usedVlans
  simp only [Finset.mem_image, Finset.mem_filter, Finset.mem_univ, true_and]

def UsedElsewhere (streams : Fin m ⊕ Fin k → VlanStream) (j : Fin m ⊕ Fin k) (v : ℕ) : Prop :=
  ∃ l, l ≠ j ∧ (streams l).state ≠ .disabled ∧ (streams l).vlan = v

lemma mem_usedVlans_update {v : ℕ} : v ∈ usedVlans (update streams j info) ↔
      info.state ≠ .disabled ∧ info.vlan = v ∨ UsedElsewhere streams j v := by
  rw [mem_usedVlans,
    Function.exists_update_iff streams fun _ x => x.state ≠ .disabled ∧ x.vlan = v]
  rfl

lemma mem_usedVlans_iff (j : Fin m ⊕ Fin k) {v : ℕ} : v ∈ usedVlans streams ↔
      (streams j).state ≠ .disabled ∧ (streams j).vlan = v ∨ UsedElsewhere streams j v := by
  have hsame : v ∈ usedVlans (update streams j (streams j)) ↔ _ := mem_usedVlans_update
  rwa [update_eq_self] at hsame

structure StreamChange (m k : ℕ) where
  stream : Fin m ⊕ Fin k
  info : VlanStream
  usable : Bool

def AttachMatch.usable : AttachMatch → Bool
  | .advertise listener freeAttr => listener || freeAttr
  | .failed => false
  | .noTalker freeEntry => freeEntry

def MvrpEvent.change : MvrpEvent m k → Option (StreamChange m k)
  | .setSource i info valid => some ⟨.inl i, info, valid⟩
  | .setSink i info found => some ⟨.inr i, info, found.usable⟩
  | _ => none

lemma attachJoins_ne_zero {found : AttachMatch} (h : found.usable = true) :
    attachJoins found ≠ 0 := by
  revert h
  rcases found with ⟨_ | _, _ | _⟩ | - | (_ | _) <;> decide

variable {e : MvrpEvent m k} {c : StreamChange m k}

lemma mvrpStep_of_change (h : e.change = some c) (s : MvrpState n m k) :
    ∃ joins, mvrpStep s e = updateStreamState c.stream c.info joins s ∧
      (c.usable = true → ∃ d, joins = some d ∧ d ≠ 0) := by
  cases e with
  | setSource i info valid =>
    obtain rfl := Option.some.inj h
    refine ⟨_, rfl, fun hvalid => ⟨1, ?_, one_ne_zero⟩⟩
    exact if_pos hvalid
  | setSink i info found =>
    obtain rfl := Option.some.inj h
    exact ⟨_, rfl, fun husable => ⟨_, rfl, attachJoins_ne_zero husable⟩⟩
  | _ => cases h

def KeepsVlan (s : MvrpState n m k) (c : StreamChange m k) : Prop :=
  c.info.vlan ≠ 0 ∧
  ((s.streams c.stream).state ≠ .disabled → c.info.vlan = (s.streams c.stream).vlan) ∧
  (usedVlans (update s.streams c.stream c.info)).card ≤ n
  deriving Decidable

/-- **The condition.**  A stream leaves DISABLED for POTENTIAL with what it needs in place,
and the entry taken for its VLAN does not still leave another one; it is disabled while
another stream uses its VLAN, or as the last one in use. -/
def FollowsStream (s : MvrpState n m k) (c : StreamChange m k) : Prop :=
  ((s.streams c.stream).state = .disabled → c.info.state ≠ .disabled →
    c.info.state = .potential ∧ c.usable = true ∧ TakesNoLeave s.entries c.info.vlan) ∧
  ((s.streams c.stream).state ≠ .disabled → c.info.state = .disabled →
    UsedElsewhere s.streams c.stream c.info.vlan ∨
      ∀ l, l ≠ c.stream → (s.streams l).state = .disabled)

instance (streams : Fin m ⊕ Fin k → VlanStream) (j : Fin m ⊕ Fin k) (v : ℕ) :
    Decidable (UsedElsewhere streams j v) :=
  inferInstanceAs (Decidable (∃ _, _ ∧ _ ∧ _))

deriving instance Decidable for FollowsStream

lemma membershipSound_enable (h : MembershipSound (usedVlans s.streams) s)
    (hzero : info.vlan ≠ 0) (hcard : (usedVlans (update s.streams j info)).card ≤ n)
    (hprev : (s.streams j).state = .disabled) (hpotential : info.state = .potential)
    (hjoins : ∃ d, joins = some d ∧ d ≠ 0) (hleaves : TakesNoLeave s.entries info.vlan) :
    MembershipSound (usedVlans (updateStreamState j info joins s).streams)
      (updateStreamState j info joins s) := by
  obtain ⟨d, rfl, hd⟩ := hjoins
  have hused : usedVlans (update s.streams j info) =
      insert info.vlan (usedVlans s.streams) := by
    ext v
    rw [mem_usedVlans_update, Finset.mem_insert, mem_usedVlans_iff j, hprev, hpotential]
    simp [eq_comm]
  have hupdate : updateStreamState j info (some d) s =
      { s with
        entries := (avbJoinVlan info.vlan)^[d] s.entries
        streams := update s.streams j info } := by
    have hcond : (s.streams j).state = .disabled ∧ info.state = .potential := ⟨hprev, hpotential⟩
    unfold updateStreamState enableVlanStream vidToJoin
    simp only [if_pos hcond, if_neg hzero, update_self, update_idem]
  rw [hupdate]
  rw [hused] at hcard
  rw [hused]
  exact (membershipSound_joins h hd hcard hleaves).of_entries rfl rfl rfl

lemma membershipSound_disable (h : MembershipSound (usedVlans s.streams) s)
    (hzero : info.vlan ≠ 0) (hprev : (s.streams j).state ≠ .disabled)
    (hsame : info.vlan = (s.streams j).vlan) (hdisabled : info.state = .disabled)
    (hlast : UsedElsewhere s.streams j info.vlan ∨ ∀ l, l ≠ j → (s.streams l).state = .disabled) :
    MembershipSound (usedVlans (updateStreamState j info joins s).streams)
      (updateStreamState j info joins s) := by
  have hupdate : updateStreamState j info joins s =
      disableVlanStream info.vlan { s with streams := update s.streams j info } := by
    unfold updateStreamState
    rw [if_neg (fun hc => hprev hc.1), if_pos ⟨hprev, hdisabled⟩]
  rw [hupdate]
  unfold disableVlanStream
  rcases hlast with ⟨l, hl, hstate, hvlan⟩ | hlast
  · -- the VLAN stays in use
    have hinvalid : validToLeaveVlan (update s.streams j info) = false := by
      unfold validToLeaveVlan
      rw [decide_eq_false_iff_not]
      intro hall
      have hl' := hall l
      rw [update_of_ne hl] at hl'
      exact hstate hl'
    have hused : usedVlans (update s.streams j info) = usedVlans s.streams := by
      ext v
      rw [mem_usedVlans_update, mem_usedVlans_iff j, ← hsame]
      constructor
      · rintro (⟨hon, -⟩ | helse)
        · exact absurd hdisabled hon
        · exact Or.inr helse
      · rintro (⟨-, rfl⟩ | helse)
        · exact Or.inr ⟨l, hl, hstate, hvlan⟩
        · exact Or.inr helse
    rw [if_neg (fun hc => absurd (hinvalid.symm.trans hc.2) Bool.false_ne_true)]
    show MembershipSound (usedVlans (update s.streams j info)) _
    rw [hused]
    exact h.of_entries rfl rfl rfl
  · have hvalid : validToLeaveVlan (update s.streams j info) = true := by
      unfold validToLeaveVlan
      rw [decide_eq_true_eq]
      intro l
      by_cases hl : l = j
      · rw [hl, update_self]
        exact hdisabled
      · rw [update_of_ne hl]
        exact hlast l hl
    have hnone : ∀ v, ¬ UsedElsewhere s.streams j v := by
      rintro v ⟨l, hl, hstate, -⟩
      exact hstate (hlast l hl)
    have hbefore : usedVlans s.streams = {info.vlan} := by
      ext v
      rw [mem_usedVlans_iff j, Finset.mem_singleton, ← hsame]
      simp [hprev, hnone, eq_comm]
    have hafter : usedVlans (update s.streams j info) = ∅ := by
      ext v
      rw [mem_usedVlans_update]
      simp [hdisabled, hnone]
    rw [if_pos ⟨hzero, hvalid⟩]
    show MembershipSound (usedVlans (update s.streams j info)) _
    rw [hafter]
    rw [hbefore] at h
    exact (membershipSound_leave h).of_entries rfl rfl rfl

lemma membershipSound_stay (h : MembershipSound (usedVlans s.streams) s)
    (hstays : (s.streams j).state = .disabled ↔ info.state = .disabled)
    (hsame : (s.streams j).state ≠ .disabled → info.vlan = (s.streams j).vlan) :
    MembershipSound (usedVlans (updateStreamState j info joins s).streams)
      (updateStreamState j info joins s) := by
  have hupdate : updateStreamState j info joins s =
      { s with streams := update s.streams j info } := by
    have hjoined : ¬ ((s.streams j).state = .disabled ∧ info.state = .potential) := by
      rintro ⟨hprev, hpotential⟩
      have hdisabled := hstays.mp hprev
      rw [hpotential] at hdisabled
      cases hdisabled
    unfold updateStreamState
    rw [if_neg hjoined, if_neg (fun hc => hc.1 (hstays.mpr hc.2))]
  have hused : usedVlans (update s.streams j info) = usedVlans s.streams := by
    ext v
    rw [mem_usedVlans_update, mem_usedVlans_iff j]
    by_cases hprev : (s.streams j).state = .disabled
    · simp only [hprev, hstays.mp hprev, ne_eq, not_true_eq_false, false_and]
    · simp only [hprev, mt hstays.mpr hprev, hsame hprev, ne_eq, not_false_eq_true, true_and]
  rw [hupdate]
  rw [hused]
  exact h.of_entries rfl rfl rfl

lemma membershipSound_change {joins : Option ℕ} (h : MembershipSound (usedVlans s.streams) s)
    (hkeeps : KeepsVlan s c) (hfollows : FollowsStream s c)
    (hjoins : c.usable = true → ∃ d, joins = some d ∧ d ≠ 0) :
    MembershipSound (usedVlans (updateStreamState c.stream c.info joins s).streams)
      (updateStreamState c.stream c.info joins s) := by
  obtain ⟨hzero, hsame, hcard⟩ := hkeeps
  obtain ⟨henable, hdisable⟩ := hfollows
  by_cases hprev : (s.streams c.stream).state = .disabled
  · by_cases hstate : c.info.state = .disabled
    · exact membershipSound_stay h (iff_of_true hprev hstate) fun hon => absurd hprev hon
    · obtain ⟨hpotential, husable, hleaves⟩ := henable hprev hstate
      exact membershipSound_enable h hzero hcard hprev hpotential (hjoins husable) hleaves
  · by_cases hstate : c.info.state = .disabled
    · exact membershipSound_disable h hzero hprev (hsame hprev) hstate (hdisable hprev hstate)
    · exact membershipSound_stay h (iff_of_false hprev hstate) hsame

lemma membershipSound_step (h : MembershipSound (usedVlans s.streams) s)
    (hok : ∀ c ∈ e.change, KeepsVlan s c ∧ FollowsStream s c) :
    MembershipSound (usedVlans (mvrpStep s e).streams) (mvrpStep s e) := by
  cases hchange : e.change with
  | some c =>
    obtain ⟨hkeeps, hfollows⟩ := hok c hchange
    obtain ⟨joins, hstep, hjoins⟩ := mvrpStep_of_change hchange s
    rw [hstep]
    exact membershipSound_change h hkeeps hfollows hjoins
  | none =>
    cases e with
    | setSource i info valid => cases hchange
    | setSink i info found => cases hchange
    | leaveAllTimer now => exact membershipSound_leaveAllTimer h now
    | periodicTimer => exact membershipSound_periodicTimer h
    | joinTimer now => exact membershipSound_joinTimer h now

lemma membershipSound_mvrpInit (n m k domainVlan : ℕ) :
    MembershipSound (usedVlans (mvrpInit n m k domainVlan).streams)
      (mvrpInit n m k domainVlan) := by
  have hnone : usedVlans (mvrpInit n m k domainVlan).streams = ∅ := by
    ext v
    rw [mem_usedVlans]
    constructor
    · rintro ⟨j, hj, -⟩
      exact absurd rfl hj
    · intro hv
      exact absurd hv (Finset.notMem_empty v)
  rw [hnone]
  constructor
  · intro v
    constructor
    · rintro ⟨i, hi, -⟩
      cases hi
    · intro hv
      exact absurd hv (Finset.notMem_empty v)
  · intro i j hi
    cases hi
  · intro i hi
    cases hi
  · intro i _
    rfl
  · intro i hi
    cases hi
  · intro i hi
    cases hi
  · intro i j _ hi
    cases hi
  · intro i hla
    cases hla
  · intro v hv
    cases hv

end

/-! ## Membership follows the streams -/

section

variable {n m k : ℕ} {s : MvrpState n m k}

def MvrpEvent.isQuiet : MvrpEvent m k → Bool
  | .periodicTimer | .joinTimer _ => true
  | _ => false

def MvrpEvent.isJoinTimer : MvrpEvent m k → Bool
  | .joinTimer _ => true
  | _ => false

structure Settled (s : MvrpState n m k) : Prop where
  idle : s.leaveAllActive = false
  sent : ∀ i, (s.entries i).attr.applicantState ≠ .vn ∧ (s.entries i).attr.applicantState ≠ .vp ∧
    (s.entries i).attr.applicantState ≠ .la

lemma idle_step (h : s.leaveAllActive = false) {e : MvrpEvent m k} (he : e.isQuiet = true) :
    (mvrpStep s e).leaveAllActive = false := by
  cases e with
  | periodicTimer => exact h
  | joinTimer now => rfl
  | _ => cases he

lemma settled_joinTimer (h : s.leaveAllActive = false) (now : ℕ) :
    Settled (mvrpStep s (.joinTimer now)) := by
  refine ⟨rfl, fun i => ?_⟩
  have hstate : ((mvrpStep s (.joinTimer now)).entries i).attr.applicantState =
      if s.leaveAllActive then afterTxLeaveAll (s.entries i).attr.applicantState
      else afterTx (s.entries i).attr.registrarState (s.entries i).attr.applicantState :=
    applicantState_transmit now s.leaveAllActive _
  rw [hstate, h, if_neg Bool.false_ne_true]
  generalize (s.entries i).attr.applicantState = st
  generalize (s.entries i).attr.registrarState = r
  cases st <;> cases r <;> decide

lemma settled_step (h : Settled s) {e : MvrpEvent m k} (he : e.isQuiet = true) :
    Settled (mvrpStep s e) := by
  cases e with
  | periodicTimer =>
    refine ⟨h.idle, fun i => ?_⟩
    have hbefore := h.sent i
    have hstate : ((mvrpStep s .periodicTimer).entries i).attr.applicantState =
        applicantPeriodic (s.entries i).attr.applicantState :=
      applicantState_mrpInput (by intro _ _ h; cases h) _
    rw [hstate]
    generalize (s.entries i).attr.applicantState = st at hbefore ⊢
    revert hbefore
    cases st <;> decide
  | joinTimer now => exact settled_joinTimer h.idle now
  | _ => cases he

lemma settled_of_joinTimer (h : s.leaveAllActive = false) {es : List (MvrpEvent m k)}
    (hquiet : ∀ e ∈ es, e.isQuiet = true) (hcount : 0 < es.countP MvrpEvent.isJoinTimer) :
    Settled (Run.runFrom mvrpStep s es) := by
  obtain ⟨e, he, hjoin⟩ := List.countP_pos_iff.mp hcount
  obtain ⟨es₁, es₂, rfl⟩ := List.append_of_mem he
  have hidle : ∀ s (e : MvrpEvent m k), s.leaveAllActive = false → e.isQuiet = true →
      (mvrpStep s e : MvrpState n m k).leaveAllActive = false :=
    fun _ _ hs he => idle_step hs he
  have hstep : ∀ s (e : MvrpEvent m k), Settled s → e.isQuiet = true →
      Settled (mvrpStep s e : MvrpState n m k) :=
    fun _ _ hs he => settled_step hs he
  have hbefore := Run.invariant_of_guarded hidle h es₁
    (Run.guarded_of_forall fun e' he' _ => hquiet e' (List.mem_append_left _ he'))
  rw [Run.runFrom_append, Run.runFrom_cons]
  refine Run.invariant_of_guarded hstep ?_ es₂
    (Run.guarded_of_forall fun e' he' _ =>
      hquiet e' (List.mem_append_right _ (List.mem_cons_of_mem _ he')))
  cases e with
  | joinTimer now => exact settled_joinTimer hbefore now
  | _ => cases hjoin

lemma peerRegistered_iff {used : Finset ℕ} (h : MembershipSound used s) (hsettled : Settled s)
    (v : ℕ) : peerRegistered s.sent v = true ↔ v ∈ used := by
  constructor
  · intro hreg
    rcases h.left v hreg with hused | ⟨i, hla, -⟩ | hall
    · exact hused
    · exact absurd hla (hsettled.sent i).2.2
    · exact absurd (hsettled.idle.symm.trans hall) Bool.false_ne_true
  · intro hused
    obtain ⟨i, hactive, rfl⟩ := (h.inUse v).mpr hused
    exact h.heard i hactive (hsettled.sent i).1 (hsettled.sent i).2.1

/-- **VLAN membership follows the streams.**  Whatever the streams have done under the
condition: without further requests and after two transmit opportunities without LeaveAll,
the peer has registered the VLANs of the streams that are not disabled. -/
theorem vlan_membership_follows_streams (n m k domainVlan : ℕ) (es quiet : List (MvrpEvent m k))
    (hg : Run.Guarded mvrpStep
      (fun s e => ∀ c ∈ e.change, KeepsVlan s c ∧ FollowsStream s c)
      (mvrpInit n m k domainVlan) es)
    (hidle : (Run.runFrom mvrpStep (mvrpInit n m k domainVlan) es).leaveAllActive = false)
    (hquiet : ∀ e ∈ quiet, e.isQuiet = true) (htwice : 2 ≤ quiet.countP MvrpEvent.isJoinTimer)
    (v : ℕ) :
    let s := Run.runFrom mvrpStep (mvrpInit n m k domainVlan) (es ++ quiet)
    peerRegistered s.sent v = true ↔
      ∃ j, (s.streams j).state ≠ .disabled ∧ (s.streams j).vlan = v := by
  have hstep : ∀ (s : MvrpState n m k) (e : MvrpEvent m k),
      MembershipSound (usedVlans s.streams) s →
      (∀ c ∈ e.change, KeepsVlan s c ∧ FollowsStream s c) →
      MembershipSound (usedVlans (mvrpStep s e).streams) (mvrpStep s e) :=
    fun _ _ h hok => membershipSound_step h hok
  have hunchanged : ∀ e ∈ quiet, ∀ s : MvrpState n m k,
      ∀ c ∈ e.change, KeepsVlan s c ∧ FollowsStream s c := by
    intro e he s c hc
    have hq := hquiet e he
    cases e with
    | periodicTimer => cases hc
    | joinTimer now => cases hc
    | _ => cases hq
  have hall := (Run.guarded_append mvrpStep _ _ es quiet).mpr
    ⟨hg, Run.guarded_of_forall hunchanged⟩
  have hsound := Run.invariant_of_guarded hstep (membershipSound_mvrpInit n m k domainVlan) _ hall
  have hsettled := settled_of_joinTimer hidle hquiet (by omega)
  rw [← Run.runFrom_append] at hsettled
  intro s
  rw [← mem_usedVlans]
  exact peerRegistered_iff hsound hsettled v

def sharedVlanEvents : List (MvrpEvent 1 1) :=
  [.setSource 0 ⟨.potential, 2⟩ true, .joinTimer 0,
    .setSink 0 ⟨.potential, 2⟩ (.advertise false true),
    .setSource 0 ⟨.disabled, 2⟩ true, .leaveAllTimer 0, .joinTimer 0]

def quietEvents {m k : ℕ} : List (MvrpEvent m k) := [.joinTimer 0, .periodicTimer, .joinTimer 0]

theorem shared_vlan_stays_registered :
    let s := Run.runFrom mvrpStep (mvrpInit 2 1 1 2) (sharedVlanEvents ++ quietEvents)
    (peerRegistered s.sent 2 = true ↔
      ∃ j, (s.streams j).state ≠ .disabled ∧ (s.streams j).vlan = 2) ∧
      peerRegistered s.sent 2 = true :=
  ⟨vlan_membership_follows_streams 2 1 1 2 sharedVlanEvents quietEvents (by decide +kernel)
    (by decide +kernel) (by decide) (by decide) 2, by decide +kernel⟩

def twoVlanEvents : List (MvrpEvent 2 0) :=
  [.setSource 0 ⟨.potential, 2⟩ true, .setSource 1 ⟨.potential, 3⟩ true, .joinTimer 0,
    .setSource 0 ⟨.disabled, 2⟩ true]

theorem disabled_stream_stays_registered :
    Run.Guarded mvrpStep (fun s e => ∀ c ∈ e.change, KeepsVlan s c) (mvrpInit 2 2 0 2)
        twoVlanEvents ∧
      (Run.runFrom mvrpStep (mvrpInit 2 2 0 2) twoVlanEvents).leaveAllActive = false ∧
      let s := Run.runFrom mvrpStep (mvrpInit 2 2 0 2) (twoVlanEvents ++ quietEvents)
      peerRegistered s.sent 2 = true ∧
        ¬ ∃ j, (s.streams j).state ≠ .disabled ∧ (s.streams j).vlan = 2 := by
  decide +kernel

end
