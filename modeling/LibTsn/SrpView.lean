/-
# What the attributes of the streams are

A view of the SRP task: which slots of the pool are in use and for which stream, which of
them wait to be removed, what was last asked of them, and the stream ids of the table.
Received packets, timers and indications leave the view alone; a transmission takes out
attributes that wait for it; only the requests of the manager do more.
-/
import LibTsn.SrpState

open Function (update update_eq_self update_idem update_of_ne update_self)

/-! ## The view -/

inductive SlotKind where
  | unused
  | talker
  | listener
  | other (type : MrpAttributeType)
  deriving DecidableEq

def typeKind : MrpAttributeType → SlotKind
  | .talkerAdvertise | .talkerFailed => .talker
  | .listener => .listener
  | type => .other type

def attrKind (x : MrpAttribute) : SlotKind :=
  if x.applicantState = .unused then .unused else typeKind x.attributeType

structure SlotView where
  kind : SlotKind
  flagged : Bool
  begun : Bool
  here : Bool
  info : AttributeInfo
  request : Option MadRequest
  deriving DecidableEq

def attrView (x : MrpAttribute) (r : Option MadRequest) : SlotView :=
  if attrKind x = .talker ∨ attrKind x = .listener then
    ⟨attrKind x, x.removeAfterNextTx, decide x.applicantState.Begun, x.here, x.attributeInfo, r⟩
  else ⟨attrKind x, x.removeAfterNextTx, false, false, .null, none⟩

structure SrpView (a t v : ℕ) where
  slots : Fin a → SlotView
  ids : ℕ → StreamId
  listed : Fin a → Prop
  domainAttr : Fin a
  vlanAttrs : Fin v → Fin a
  exhausted : Bool

def SrpState.view {a t v : ℕ} (s : SrpState a t v) : SrpView a t v where
  slots := fun i => attrView (s.attrs i) (s.requests i)
  ids := fun j => (s.table j).reservation.id
  listed := fun i => i ∈ s.order
  domainAttr := s.domainAttr
  vlanAttrs := fun k => (s.vlans k).attr
  exhausted := s.exhausted

namespace SrpView

variable {a t v : ℕ}
variable (V : SrpView a t v) (i : Fin a)

def streamOf : Option StreamId :=
  match (V.slots i).info with
  | .stream j => some (V.ids j)
  | _ => none

def IsStream : Prop :=
  (V.slots i).kind = .talker ∨ (V.slots i).kind = .listener

def setSlot (x : SlotView) (V : SrpView a t v) : SrpView a t v :=
  { V with slots := update V.slots i x }

def setId (j : ℕ) (id : StreamId) (V : SrpView a t v) : SrpView a t v :=
  { V with ids := update V.ids j id }

end SrpView

/-- **The pool is sound.**  Only talkers wait to be removed, and none of them is of this
device; the attributes of streams have begun and have entries with ids; a stream has one
talker; the attributes of the domain and of the VLANs keep their slots; every slot is in the
list. -/
structure SrpSound {a t v : ℕ} (V : SrpView a t v) : Prop where
  flagged : ∀ i, (V.slots i).flagged = true → (V.slots i).kind = .talker
  begun : ∀ i, V.IsStream i → (V.slots i).begun = true
  here : ∀ i, (V.slots i).kind = .talker → (V.slots i).here = false
  entry : ∀ i, V.IsStream i → ∃ j, j < t ∧ (V.slots i).info = .stream j ∧ V.ids j ≠ (0, 0)
  unique : ∀ i l, (V.slots i).kind = .talker → (V.slots l).kind = .talker →
    V.streamOf i = V.streamOf l → i = l
  domain : (V.slots V.domainAttr).kind = .other .domainVector
  vlan : ∀ k, (V.slots (V.vlanAttrs k)).kind = .other .vidVector
  listed : ∀ i, V.listed i

/-! ## Slots -/

section

variable {x y : MrpAttribute} {r : Option MadRequest}

lemma attrView_kind (x : MrpAttribute) (r : Option MadRequest) :
    (attrView x r).kind = attrKind x := by
  unfold attrView
  split_ifs <;> rfl

lemma attrView_flagged (x : MrpAttribute) (r : Option MadRequest) :
    (attrView x r).flagged = x.removeAfterNextTx := by
  unfold attrView
  split_ifs <;> rfl

lemma attrKind_of_used (h : x.applicantState ≠ .unused) : attrKind x = typeKind x.attributeType :=
  if_neg h

lemma attrKind_eq_unused_iff : attrKind x = .unused ↔ x.applicantState = .unused := by
  constructor
  · intro h
    by_contra hused
    rw [attrKind_of_used hused] at h
    revert h
    cases x.attributeType <;> intro h <;> cases h
  · intro h
    exact if_pos h

lemma typeKind_eq_talker_iff {type : MrpAttributeType} :
    typeKind type = .talker ↔ type.IsTalker := by
  cases type <;> decide

lemma typeKind_eq_listener_iff {type : MrpAttributeType} :
    typeKind type = .listener ↔ type = .listener := by
  cases type <;> decide

lemma attrView_of_stream (h : attrKind x = .talker ∨ attrKind x = .listener) : attrView x r =
      ⟨attrKind x, x.removeAfterNextTx, decide x.applicantState.Begun, x.here,
        x.attributeInfo, r⟩ :=
  if_pos h

lemma attrView_of_other (h : ¬ (attrKind x = .talker ∨ attrKind x = .listener)) :
    attrView x r = ⟨attrKind x, x.removeAfterNextTx, false, false, .null, none⟩ :=
  if_neg h

lemma attrView_congr (hkind : attrKind y = attrKind x)
    (hbegun : y.applicantState.Begun ↔ x.applicantState.Begun)
    (hflag : y.removeAfterNextTx = x.removeAfterNextTx) (hhere : y.here = x.here)
    (hinfo : y.attributeInfo = x.attributeInfo) : attrView y r = attrView x r := by
  unfold attrView
  rw [hkind, hflag, hhere, hinfo]
  simp only [hbegun]

lemma attrView_of_begun (hx : x.applicantState.Begun) (hy : y.applicantState.Begun)
    (htype : typeKind y.attributeType = typeKind x.attributeType)
    (hflag : y.removeAfterNextTx = x.removeAfterNextTx) (hhere : y.here = x.here)
    (hinfo : y.attributeInfo = x.attributeInfo) : attrView y r = attrView x r := by
  refine attrView_congr ?_ (iff_of_true hy hx) hflag hhere hinfo
  rw [attrKind_of_used hy.1, attrKind_of_used hx.1, htype]

end

/-! ## What leaves the view alone -/

namespace SrpState

section

variable {a t v : ℕ} {s : SrpState a t v}

lemma view_slots (s : SrpState a t v) (i : Fin a) :
    s.view.slots i = attrView (s.attrs i) (s.requests i) := rfl

lemma view_congr {s s' : SrpState a t v} (hattrs : s'.attrs = s.attrs)
    (horder : s'.order = s.order) (hrequests : s'.requests = s.requests)
    (htable : s'.table = s.table) (hdomain : s'.domainAttr = s.domainAttr)
    (hvlans : s'.vlans = s.vlans) (hexhausted : s'.exhausted = s.exhausted) : s'.view = s.view := by
  unfold view
  rw [hattrs, horder, hrequests, htable, hdomain, hvlans, hexhausted]

variable (i : Fin a) (x : MrpAttribute) (type : MrpAttributeType) {e : MrpEvent}

@[simp] lemma attrs_setAttr_self (s : SrpState a t v) : (s.setAttr i x).attrs i = x := by
  unfold setAttr
  exact update_self i x s.attrs

lemma attrs_setAttr_of_ne {i l : Fin a} (h : l ≠ i) (x : MrpAttribute) (s : SrpState a t v) :
    (s.setAttr i x).attrs l = s.attrs l := by
  unfold setAttr
  exact update_of_ne h x s.attrs

lemma setAttr_setAttr (x y : MrpAttribute) (s : SrpState a t v) :
    (s.setAttr i x).setAttr i y = s.setAttr i y := by
  unfold setAttr
  dsimp only
  rw [update_idem]

lemma view_setAttr {i : Fin a} {x : MrpAttribute}
    (h : attrView x (s.requests i) = attrView (s.attrs i) (s.requests i)) :
    (s.setAttr i x).view = s.view := by
  have hslots : (s.setAttr i x).view.slots = s.view.slots := by
    funext l
    show attrView (update s.attrs i x l) (s.requests l) = attrView (s.attrs l) (s.requests l)
    by_cases hl : l = i
    · rw [hl, update_self]
      exact h
    · rw [update_of_ne hl]
  show { (s.setAttr i x).view with slots := (s.setAttr i x).view.slots } = s.view
  rw [hslots]
  rfl

lemma view_setAttr_eq (s : SrpState a t v) :
    (s.setAttr i x).view = s.view.setSlot i (attrView x (s.requests i)) := by
  have hslots : (s.setAttr i x).view.slots =
      update s.view.slots i (attrView x (s.requests i)) := by
    funext l
    show attrView (update s.attrs i x l) (s.requests l) = _
    by_cases hl : l = i
    · rw [hl, update_self, update_self]
    · rw [update_of_ne hl, update_of_ne hl]
      rfl
  show { (s.setAttr i x).view with slots := (s.setAttr i x).view.slots } = _
  rw [hslots]
  rfl

lemma view_setRequest_setAttr (r : Option MadRequest) (s : SrpState a t v) :
    ((s.setAttr i x).setRequest i r).view = s.view.setSlot i (attrView x r) := by
  have hslots : ((s.setAttr i x).setRequest i r).view.slots =
      update s.view.slots i (attrView x r) := by
    funext l
    show attrView (update s.attrs i x l) (update s.requests i r l) = _
    by_cases hl : l = i
    · rw [hl, update_self, update_self, update_self]
    · rw [update_of_ne hl, update_of_ne hl, update_of_ne hl]
      rfl
  show { ((s.setAttr i x).setRequest i r).view with
    slots := ((s.setAttr i x).setRequest i r).view.slots } = _
  rw [hslots]
  rfl

lemma view_setEntry_eq (j : ℕ) (x : AvbStreamEntry) (s : SrpState a t v) :
    (s.setEntry j x).view = s.view.setId j x.reservation.id := by
  have hids : (s.setEntry j x).view.ids = update s.view.ids j x.reservation.id := by
    funext l
    show (update s.table j x l).reservation.id = _
    by_cases hl : l = j
    · rw [hl, update_self, update_self]
    · rw [update_of_ne hl, update_of_ne hl]
      rfl
  show { (s.setEntry j x).view with ids := (s.setEntry j x).view.ids } = _
  rw [hids]
  rfl

lemma view_setEntry {j : ℕ} {x : AvbStreamEntry}
    (h : x.reservation.id = (s.table j).reservation.id) : (s.setEntry j x).view = s.view := by
  rw [view_setEntry_eq, h]
  show { s.view with ids := update s.view.ids j (s.view.ids j) } = s.view
  rw [update_eq_self]

lemma view_foldl {β : Type*} {f : SrpState a t v → β → SrpState a t v}
    (h : ∀ s x, (f s x).view = s.view) (xs : List β) (s : SrpState a t v) :
    (xs.foldl f s).view = s.view := by
  induction xs generalizing s with
  | nil => rfl
  | cons x xs ih => rw [List.foldl_cons, ih, h]

lemma view_restartLeaveall (s : SrpState a t v) : (s.restartLeaveall type).view = s.view := by
  unfold restartLeaveall
  split_ifs <;> exact view_congr rfl rfl rfl rfl rfl rfl rfl

lemma attrs_restartLeaveall (s : SrpState a t v) : (s.restartLeaveall type).attrs = s.attrs := by
  unfold restartLeaveall
  split_ifs <;> simp only [tick]

lemma attrView_registrarEvent (now four : ℕ) (e : MrpEvent) (x : MrpAttribute)
    (r : Option MadRequest) : attrView (registrarEvent now four e x) r = attrView x r := by
  obtain ⟨htype, hstate, hflag, hhere, hinfo⟩ := registrarEvent_frame now four e x
  refine attrView_congr ?_ (by rw [hstate]) hflag hhere hinfo
  unfold attrKind
  rw [hstate, htype]

lemma attrView_applicantState {x : MrpAttribute} {st : MrpApplicantState}
    (hx : x.applicantState.Begun) (hst : st.Begun) (r : Option MadRequest) :
    attrView { x with applicantState := st } r = attrView x r :=
  attrView_of_begun hx hst rfl rfl rfl rfl

/-- **Events without a transmission.**  They leave the view of a begun attribute alone. -/
theorem view_updateState (htx : e ≠ .tx) (htx' : e ≠ .txLeaveAll) (four : ℕ) {i : Fin a}
    (hbegun : (s.attrs i).applicantState.Begun ∨ e = .leaveTimer) :
    (s.updateState e four i).view = s.view := by
  have hrestart : ∀ s' : SrpState a t v, s'.view = s.view → s'.attrs = s.attrs →
      (s'.tick.setAttr i { registrarEvent s'.now four e (s'.attrs i) with
        applicantState :=
          applicantEvent e (registrarEvent s'.now four e (s'.attrs i)).applicantState
        }).view = s.view := by
    intro s' hview hattrs
    have hstate := (registrarEvent_frame s'.now four e (s'.attrs i)).2.1
    rw [← hview]
    refine view_setAttr ?_
    show attrView _ (s'.requests i) = attrView (s'.attrs i) (s'.requests i)
    rw [← attrView_registrarEvent s'.now four e (s'.attrs i)]
    rcases hbegun with hbegun | rfl
    · rw [← hattrs, ← hstate] at hbegun
      exact attrView_applicantState hbegun (begun_applicantEvent e hbegun) _
    · rfl
  unfold updateState
  cases e with
  | tx => exact absurd rfl htx
  | txLeaveAll => exact absurd rfl htx'
  | receiveLeaveAll =>
    dsimp only
    rw [if_pos rfl, setAttr_setAttr]
    exact hrestart _ (view_restartLeaveall _ s) (attrs_restartLeaveall _ s)
  | _ =>
    dsimp only
    rw [if_neg (by decide), setAttr_setAttr]
    exact hrestart s rfl rfl

lemma view_attributeTypeEvent (htx : e ≠ .tx) (htx' : e ≠ .txLeaveAll) (s : SrpState a t v) :
    (s.attributeTypeEvent type e).view = s.view := by
  unfold attributeTypeEvent
  refine view_foldl ?_ _ s
  intro s i
  split_ifs with h
  · exact view_updateState htx htx' 0 (Or.inl h.1)
  · rfl

lemma view_msrpTypesEvent (htx : e ≠ .tx) (htx' : e ≠ .txLeaveAll) (s : SrpState a t v) :
    (s.msrpTypesEvent e).view = s.view := by
  unfold msrpTypesEvent
  simp only [view_attributeTypeEvent _ htx htx']

lemma view_globalEvent (htx : e ≠ .tx) (htx' : e ≠ .txLeaveAll) (s : SrpState a t v) :
    (s.globalEvent e).view = s.view := by
  unfold globalEvent
  refine view_foldl ?_ _ s
  intro s i
  split_ifs with h
  · exact view_updateState htx htx' 0 (Or.inl h.1)
  · rfl

end

end SrpState

/-! ## Packets and indications -/

namespace SrpState

section

variable {a t v : ℕ} {s : SrpState a t v}
variable {id : StreamId} (x : MrpAttribute) (i : Fin a) {p : Reader a t v}

lemma matchReservationEntryById_some {j : ℕ} (h : s.matchReservationEntryById id = some j) :
    j < t ∧ (s.view.ids j = id ∨
      s.view.ids j = (0, 0) ∧ ∀ l, l < t → s.view.ids l ≠ id) := by
  unfold matchReservationEntryById at h
  cases hfind : (List.range t).find? fun j => decide ((s.table j).reservation.id = id) with
  | some l =>
    rw [hfind] at h
    obtain rfl : l = j := Option.some.inj h
    have hid := List.find?_some hfind
    rw [decide_eq_true_eq] at hid
    exact ⟨List.mem_range.mp (List.mem_of_find?_eq_some hfind), Or.inl hid⟩
  | none =>
    rw [hfind] at h
    have hempty : (List.range t).reverse.find?
        (fun j => decide ((s.table j).reservation.id = (0, 0))) = some j := h
    have hid := List.find?_some hempty
    rw [decide_eq_true_eq] at hid
    refine ⟨List.mem_range.mp (List.mem_reverse.mp (List.mem_of_find?_eq_some hempty)),
      Or.inr ⟨hid, fun l hl heq => ?_⟩⟩
    have hl := List.find?_eq_none.mp hfind l (List.mem_range.mpr hl)
    exact hl (decide_eq_true heq)

lemma exists_matchReservationEntryById {j : ℕ} (hj : j < t) (hid : s.view.ids j = id) :
    ∃ l, s.matchReservationEntryById id = some l ∧ s.view.ids l = id := by
  cases hfind : s.matchReservationEntryById id with
  | some l =>
    refine ⟨l, rfl, ?_⟩
    rcases (matchReservationEntryById_some hfind).2 with hl | ⟨-, hnone⟩
    · exact hl
    · exact absurd hid (hnone j hj)
  | none =>
    exfalso
    unfold matchReservationEntryById at hfind
    rw [Option.or_eq_none_iff] at hfind
    exact List.find?_eq_none.mp hfind.1 j (List.mem_range.mpr hj) (decide_eq_true hid)

lemma view_addReservationEntry {r : AvbSrpInfo} {j : ℕ} (hj : j < t)
    (hid : s.view.ids j = r.id) : (s.addReservationEntry r).2.view = s.view := by
  obtain ⟨l, hl, hlid⟩ := exists_matchReservationEntryById hj hid
  unfold addReservationEntry
  rw [hl]
  exact view_setEntry hlid.symm

lemma attrView_talkerType {x : MrpAttribute} {type : MrpAttributeType}
    (hx : x.attributeType.IsTalker) (htype : type.IsTalker) (r : Option MadRequest) :
    attrView { x with attributeType := type } r = attrView x r := by
  refine attrView_congr ?_ Iff.rfl rfl rfl rfl
  unfold attrKind
  dsimp only
  rw [typeKind_eq_talker_iff.mpr hx, typeKind_eq_talker_iff.mpr htype]

section

variable {p : Reader a t v} {i : Fin a} {j fv n : ℕ}

lemma view_matchTalkerFailure (hx : (p.srp.attrs i).attributeType.IsTalker) (failed : Bool) :
    (matchTalkerFailure i j fv failed p).srp.view = p.srp.view := by
  have htype : ∀ type : MrpAttributeType, type.IsTalker →
      (p.srp.setAttr i { p.srp.attrs i with attributeType := type }).view = p.srp.view :=
    fun type h => view_setAttr (attrView_talkerType hx h _)
  unfold matchTalkerFailure
  dsimp only
  split_ifs
  · refine Eq.trans (view_setEntry ?_) (htype _ (Or.inr rfl))
    rfl
  · refine Eq.trans (view_setEntry ?_) (htype _ (Or.inl rfl))
    rfl
  · exact htype _ (Or.inl rfl)

lemma view_matchTalkerReservation (hj : j < t) :
    (matchTalkerReservation j fv n p).srp.view = p.srp.view := by
  unfold matchTalkerReservation
  dsimp only
  split_ifs
  · rfl
  · have hentry : (p.srp.setEntry j { p.srp.table j with
        reservation := talkerReservationAt p.pkt fv n (p.srp.table j).reservation }).view =
        p.srp.view := view_setEntry rfl
    refine (view_addReservationEntry hj ?_).trans hentry
    rw [hentry]
    rfl

lemma attrs_matchTalkerFailure (failed : Bool) :
    ((matchTalkerFailure i j fv failed p).srp.attrs i).applicantState =
      (p.srp.attrs i).applicantState := by
  have hset : ∀ x : MrpAttribute, x.applicantState = (p.srp.attrs i).applicantState →
      ((p.srp.setAttr i x).attrs i).applicantState = (p.srp.attrs i).applicantState := by
    intro x hx
    rw [attrs_setAttr_self, hx]
  unfold matchTalkerFailure
  dsimp only
  split_ifs <;> exact hset _ rfl

lemma attrs_matchTalkerReservation : (matchTalkerReservation j fv n p).srp.attrs = p.srp.attrs := by
  unfold matchTalkerReservation addReservationEntry
  dsimp only
  split_ifs
  · rfl
  · split <;> rfl

lemma view_slot_of_talker (hbegun : (s.attrs i).applicantState.Begun)
    (htype : (s.attrs i).attributeType.IsTalker) :
    (s.view.slots i).kind = .talker ∧ (s.view.slots i).info = (s.attrs i).attributeInfo := by
  have hkind : attrKind (s.attrs i) = .talker := by
    rw [attrKind_of_used hbegun.1, typeKind_eq_talker_iff]
    exact htype
  rw [view_slots]
  refine ⟨(attrView_kind _ _).trans hkind, ?_⟩
  rw [attrView_of_stream (Or.inl hkind)]

lemma matchTalkerAdvertise_frame (hs : SrpSound p.srp.view)
    (hbegun : (p.srp.attrs i).applicantState.Begun)
    (htype : (p.srp.attrs i).attributeType.IsTalker) (fv n : ℕ) (leaveAll failed : Bool) :
    (matchTalkerAdvertise i fv n leaveAll failed p).2.srp.view = p.srp.view ∧
      ((matchTalkerAdvertise i fv n leaveAll failed p).2.srp.attrs i).applicantState =
        (p.srp.attrs i).applicantState := by
  obtain ⟨hkind, hinfo⟩ := view_slot_of_talker hbegun htype
  obtain ⟨j, hj, hstream, -⟩ := hs.entry i (Or.inl hkind)
  unfold matchTalkerAdvertise
  rw [← hinfo, hstream]
  dsimp only
  split_ifs
  · exact ⟨rfl, rfl⟩
  · exact ⟨rfl, rfl⟩
  · exact ⟨view_setEntry rfl, rfl⟩
  · refine ⟨(view_matchTalkerReservation hj).trans (view_matchTalkerFailure htype failed), ?_⟩
    rw [attrs_matchTalkerReservation]
    exact attrs_matchTalkerFailure failed

end

lemma matchAttributeOfSameType_frame (hs : SrpSound p.srp.view) (type : MrpAttributeType)
    (i : Fin a) (fv n four : ℕ) (leaveAll : Bool) :
    (matchAttributeOfSameType type i fv n four leaveAll p).2.srp.view = p.srp.view ∧
      ((matchAttributeOfSameType type i fv n four leaveAll p).1 = true →
        ((matchAttributeOfSameType type i fv n four leaveAll p).2.srp.attrs
          i).applicantState.Begun) := by
  unfold matchAttributeOfSameType
  dsimp only
  by_cases hbegun : (p.srp.attrs i).applicantState.Begun
  swap
  · rw [if_pos hbegun]
    exact ⟨rfl, fun h => absurd h Bool.false_ne_true⟩
  by_cases htype : (p.srp.attrs i).attributeType = type ∨
      (p.srp.attrs i).attributeType.IsTalker ∧ type.IsTalker
  swap
  · rw [if_neg (not_not.mpr hbegun), if_pos htype]
    exact ⟨rfl, fun h => absurd h Bool.false_ne_true⟩
  · rw [if_neg (not_not.mpr hbegun), if_neg (not_not.mpr htype)]
    have htalker : ∀ type : MrpAttributeType, type.IsTalker →
        ((p.srp.attrs i).attributeType = type ∨
          (p.srp.attrs i).attributeType.IsTalker ∧ type.IsTalker) →
        (p.srp.attrs i).attributeType.IsTalker := by
      rintro type htype (heq | ⟨h, -⟩)
      · rw [heq]
        exact htype
      · exact h
    cases type with
    | talkerAdvertise =>
      obtain ⟨hview, hstate⟩ := matchTalkerAdvertise_frame hs hbegun
        (htalker _ (Or.inl rfl) htype) fv n leaveAll false
      exact ⟨hview, fun _ => by rw [hstate]; exact hbegun⟩
    | talkerFailed =>
      obtain ⟨hview, hstate⟩ := matchTalkerAdvertise_frame hs hbegun
        (htalker _ (Or.inr rfl) htype) fv n leaveAll true
      exact ⟨hview, fun _ => by rw [hstate]; exact hbegun⟩
    | domainVector =>
      show (matchDomain fv n p).2.srp.view = p.srp.view ∧ ((matchDomain fv n p).1 = true →
        ((matchDomain fv n p).2.srp.attrs i).applicantState.Begun)
      unfold matchDomain
      split_ifs
      · exact ⟨rfl, fun _ => hbegun⟩
      · exact ⟨rfl, fun _ => hbegun⟩
    | listener => exact ⟨rfl, fun _ => hbegun⟩
    | macVector => exact ⟨rfl, fun _ => hbegun⟩
    | vidVector => exact ⟨rfl, fun _ => hbegun⟩

lemma mrpIn_ne_tx (e : MrpAttributeEvent) : mrpIn e ≠ .tx ∧ mrpIn e ≠ .txLeaveAll := by
  cases e <;> decide

lemma view_readValue (hs : SrpSound p.srp.view) (type : MrpAttributeType) (fv n three four : ℕ)
    (leaveAll : Bool) (i : Fin a) :
    (readValue type fv n three four leaveAll p i).srp.view = p.srp.view := by
  obtain ⟨hview, hbegun⟩ := matchAttributeOfSameType_frame hs type i fv n four leaveAll
  unfold readValue
  split
  · rename_i p' heq
    rw [heq] at hview hbegun
    obtain ⟨htx, htx'⟩ := mrpIn_ne_tx (threePackedEvent three)
    exact (view_updateState htx htx' four (Or.inl (hbegun rfl))).trans hview
  · rename_i p' heq
    rw [heq] at hview
    exact hview

lemma view_readVisit (hs : SrpSound p.srp.view) (x : MrpVisit) :
    (readVisit p x).srp.view = p.srp.view := by
  have hfold : ∀ (type : MrpAttributeType) (fv n three four : ℕ) (leaveAll : Bool)
      (is : List (Fin a)) (p : Reader a t v), SrpSound p.srp.view →
      (is.foldl (readValue type fv n three four leaveAll) p).srp.view = p.srp.view := by
    intro type fv n three four leaveAll is
    induction is with
    | nil => intro p _; rfl
    | cons i is ih =>
      intro p hs
      have hview := view_readValue hs type fv n three four leaveAll i
      rw [List.foldl_cons, ih _ (by rw [hview]; exact hs), hview]
  cases x with
  | leaveAll type =>
    cases type with
    | none => rfl
    | some type => exact view_attributeTypeEvent type (by decide) (by decide) p.srp
  | value type fv n three four leaveAll =>
    cases type with
    | none => rfl
    | some type => exact hfold type fv n three four leaveAll _ p hs

lemma view_processControlPacket (hs : SrpSound s.view) (frame : Mem) (nbytes : ℕ) :
    (s.processControlPacket frame nbytes).view = s.view := by
  have hvisit : ∀ (p : Reader a t v) (x : MrpVisit), p.srp.view = s.view →
      (readVisit p x).srp.view = s.view := by
    intro p x hp
    rw [← hp]
    exact view_readVisit (by rw [hp]; exact hs) x
  unfold processControlPacket
  dsimp only
  split
  · exact mrpWalk_invariant (P := fun p : Reader a t v => p.srp.view = s.view) hvisit _ _ rfl
  · rfl

structure Indicated (s s' : SrpState a t v) : Prop where
  attrs : s'.attrs = s.attrs
  requests : s'.requests = s.requests
  view : s'.view = s.view

lemma Indicated.refl (s : SrpState a t v) : Indicated s s := ⟨rfl, rfl, rfl⟩

lemma Indicated.trans {s₁ s₂ s₃ : SrpState a t v} (h : Indicated s₁ s₂) (h' : Indicated s₂ s₃) :
    Indicated s₁ s₃ :=
  ⟨h'.attrs.trans h.attrs, h'.requests.trans h.requests, h'.view.trans h.view⟩

lemma indicated_setEntry {j : ℕ} {x : AvbStreamEntry}
    (h : x.reservation.id = (s.table j).reservation.id) : Indicated s (s.setEntry j x) :=
  ⟨rfl, rfl, view_setEntry h⟩

lemma indicated_setBwReserved (id : StreamId) (reserved : Bool) (s : SrpState a t v) :
    Indicated s (s.setBwReserved id reserved) := by
  unfold setBwReserved
  split
  · exact indicated_setEntry rfl
  · exact ⟨rfl, rfl, rfl⟩

lemma indicated_sendJoinIndication (s : SrpState a t v) : Indicated s (s.sendJoinIndication x) := by
  unfold sendJoinIndication
  split
  · unfold listenerJoinInd
    split
    · split_ifs
      · exact .refl s
      · exact (indicated_setBwReserved _ true s).trans ⟨rfl, rfl, rfl⟩
    · exact .refl s
  · exact ⟨rfl, rfl, rfl⟩
  · exact .refl s

lemma indicated_sendLeaveIndication (s : SrpState a t v) :
    Indicated s (s.sendLeaveIndication x) := by
  unfold sendLeaveIndication
  split
  · exact indicated_setEntry rfl
  · unfold listenerLeaveInd
    split
    · exact (indicated_setBwReserved _ false s).trans ⟨rfl, rfl, rfl⟩
    · exact .refl s
  · exact ⟨rfl, rfl, rfl⟩
  · exact .refl s

lemma indicated_ite {c : Prop} [Decidable c] {s s' s'' : SrpState a t v} (h : Indicated s s')
    (h' : Indicated s' s'') : Indicated s (if c then s'' else s') := by
  split_ifs
  · exact h.trans h'
  · exact h

lemma sendIndications_eq (s : SrpState a t v) :
    ∃ s', Indicated s s' ∧ s.sendIndications i = s'.setAttr i (clearPending (s.attrs i)) := by
  unfold sendIndications
  dsimp only
  have h := indicated_ite (c := (s.attrs i).pendingJoinNew = true) (.refl s)
    (indicated_sendJoinIndication (s.attrs i) s)
  have h := indicated_ite (c := (s.attrs i).pendingJoin = true) h
    (indicated_sendJoinIndication (s.attrs i) _)
  have h := indicated_ite (c := (s.attrs i).pendingLeave = true) h
    (indicated_sendLeaveIndication (s.attrs i) _)
  exact ⟨_, h, rfl⟩

lemma view_sendIndications (s : SrpState a t v) : (s.sendIndications i).view = s.view := by
  obtain ⟨s', h, heq⟩ := sendIndications_eq i s
  rw [heq, ← h.view]
  refine view_setAttr ?_
  rw [h.attrs]
  exact attrView_congr rfl Iff.rfl rfl rfl rfl

lemma here_of_talker {i : Fin a} (hused : (s.attrs i).applicantState ≠ .unused)
    (hs : SrpSound s.view) (htype : (s.attrs i).attributeType.IsTalker) :
    (s.attrs i).here = false := by
  have hkind : attrKind (s.attrs i) = .talker := by
    rw [attrKind_of_used hused, typeKind_eq_talker_iff]
    exact htype
  have h := hs.here i ((attrView_kind _ _).trans hkind)
  rw [view_slots, attrView_of_stream (Or.inl hkind)] at h
  exact h

lemma view_convertTalker {i : Fin a} (hused : (s.attrs i).applicantState ≠ .unused)
    (hs : SrpSound s.view) : (s.convertTalker i).view = s.view := by
  have hhere := here_of_talker hused hs
  have hset : ∀ (type : MrpAttributeType) (j : ℕ) (x : AvbStreamEntry),
      (s.attrs i).attributeType.IsTalker → type.IsTalker →
      x.reservation.id = (s.table j).reservation.id →
      ((s.setAttr i { s.attrs i with attributeType := type }).setEntry j x).view = s.view := by
    intro type j x htype htype' hid
    refine Eq.trans (view_setEntry ?_) (view_setAttr (attrView_talkerType htype htype' _))
    exact hid
  unfold convertTalker
  dsimp only
  split
  · by_cases hadvertise :
        (s.attrs i).attributeType = .talkerAdvertise ∧ s.domain.boundaryPort = true
    · rw [if_pos hadvertise, if_neg (by rw [hhere (Or.inl hadvertise.1)]; decide)]
      exact hset _ _ _ (Or.inl hadvertise.1) (Or.inr rfl) rfl
    · rw [if_neg hadvertise]
      split_ifs with hfailed hx
      · rw [hhere (Or.inr hfailed.1)] at hx
        cases hx
      · exact hset _ _ _ (Or.inr hfailed.1) (Or.inl rfl) rfl
      · rfl
  · rfl

lemma view_pollAttr (s : SrpState a t v) : (s.pollAttr i).view = s.view := by
  have htimer : (s.tick.setAttr i { s.attrs i with
      leaveTimer := (avbTimerExpired s.now (s.attrs i).leaveTimer).1 }).view = s.view :=
    view_setAttr (attrView_congr rfl Iff.rfl rfl rfl rfl)
  unfold pollAttr
  dsimp only
  split_ifs
  · exact (view_updateState (by decide) (by decide) 0 (Or.inr rfl)).trans htimer
  · exact htimer

lemma used_sendIndications {i : Fin a} (hused : (s.attrs i).applicantState ≠ .unused) :
    ((s.sendIndications i).attrs i).applicantState ≠ .unused := by
  obtain ⟨s', -, heq⟩ := sendIndications_eq i s
  rw [heq, attrs_setAttr_self]
  exact hused

lemma view_periodicAttrs (hs : SrpSound s.view) (is : List (Fin a)) :
    (is.foldl periodicAttr s).view = s.view := by
  induction is generalizing s with
  | nil => rfl
  | cons i is ih =>
    have hview : (s.periodicAttr i).view = s.view := by
      unfold periodicAttr
      split_ifs with hused
      · rfl
      · have hind := view_sendIndications i s
        have hconvert := view_convertTalker (used_sendIndications hused) (by rw [hind]; exact hs)
        exact (view_pollAttr i _).trans (hconvert.trans hind)
    rw [List.foldl_cons, ih (by rw [hview]; exact hs), hview]

end

end SrpState

/-! ## Transmission -/

def SlotView.free : SlotView := ⟨.unused, false, false, false, .null, none⟩

inductive Removed {a t v : ℕ} (i : Fin a) (V : SrpView a t v) : SrpView a t v → Prop where
  | slot : Removed i V (V.setSlot i .free)
  | entry (j : ℕ) (hid : V.streamOf i = some (V.ids j))
      (hlast : ∀ l, l ≠ i → V.IsStream l → V.streamOf l ≠ V.streamOf i) :
      Removed i V ((V.setSlot i .free).setId j (0, 0))

namespace SrpState

section

variable {a t v : ℕ} {s : SrpState a t v} {i : Fin a}

lemma view_streamOf (h : s.view.IsStream i) : s.view.streamOf i = s.streamOf (s.attrs i) := by
  have hkind : attrKind (s.attrs i) = .talker ∨ attrKind (s.attrs i) = .listener := by
    rw [← attrView_kind (s.attrs i) (s.requests i)]
    exact h
  unfold SrpView.streamOf streamOf
  rw [view_slots, attrView_of_stream hkind]
  rfl

lemma isStream_cases (h : s.view.IsStream i) : (s.attrs i).applicantState ≠ .unused ∧
      ((s.attrs i).attributeType.IsTalker ∨ (s.attrs i).attributeType = .listener) := by
  have hkind : attrKind (s.attrs i) = .talker ∨ attrKind (s.attrs i) = .listener := by
    rw [← attrView_kind (s.attrs i) (s.requests i)]
    exact h
  have hused : (s.attrs i).applicantState ≠ .unused := by
    intro hunused
    rw [attrKind_eq_unused_iff.mpr hunused] at hkind
    rcases hkind with hkind | hkind <;> cases hkind
  rw [attrKind_of_used hused, typeKind_eq_talker_iff, typeKind_eq_listener_iff] at hkind
  exact ⟨hused, hkind⟩

lemma flagged_attr (hs : SrpSound s.view) (hflag : (s.attrs i).removeAfterNextTx = true) :
    (s.view.slots i).kind = .talker ∧ (s.attrs i).applicantState ≠ .unused ∧
      (s.attrs i).attributeType.IsTalker ∧ (s.attrs i).here = false := by
  have hkind : (s.view.slots i).kind = .talker :=
    hs.flagged i ((attrView_flagged _ _).trans hflag)
  have hslot : attrKind (s.attrs i) = .talker := (attrView_kind _ (s.requests i)).symm.trans hkind
  obtain ⟨hused, -⟩ := isStream_cases (Or.inl hkind)
  have htype : (s.attrs i).attributeType.IsTalker := by
    rw [← typeKind_eq_talker_iff, ← attrKind_of_used hused]
    exact hslot
  have hhere := hs.here i hkind
  rw [view_slots, attrView_of_stream (Or.inl hslot)] at hhere
  exact ⟨hkind, hused, htype, hhere⟩

variable (leaveAll : Bool) {x : MrpAttribute}

lemma no_other_stream {s' : SrpState a t v}
    (hnone : s'.matchAttributePairByStreamId x true = none ∧
      s'.matchAttrByStreamAndType x true = none)
    {l : Fin a} (hattr : s'.attrs l = s.attrs l) (htype : x.attributeType.IsTalker)
    (hstream : s.view.IsStream l) (hsome : s'.streamOf x ≠ none) :
    s'.streamOf x ≠ s'.streamOf (s'.attrs l) := by
  intro hsame
  obtain ⟨hused, hcases⟩ := isStream_cases hstream
  have hmatchable : Matchable true (s'.attrs l) := by
    rw [hattr]
    exact ⟨hused, Or.inl rfl⟩
  have hmem := List.mem_finRange l
  rcases hcases with htalker | hlistener
  · refine List.find?_eq_none.mp hnone.2 l hmem (decide_eq_true ⟨hmatchable, Or.inr ⟨htype, ?_⟩,
      hsome, hsame⟩)
    rw [hattr]
    exact htalker
  · refine List.find?_eq_none.mp hnone.1 l hmem (decide_eq_true ⟨hmatchable, Or.inl ⟨htype, ?_⟩,
      hsome, hsame⟩)
    rw [hattr]
    exact hlistener

lemma removed_cleanup (hs : SrpSound s.view) (hflag : (s.attrs i).removeAfterNextTx = true) :
    Removed i s.view ((s.cleanupReservationEntry i).setAttr i
      { (s.cleanupReservationEntry i).attrs i with removeAfterNextTx := false }).view ∧
      ((s.cleanupReservationEntry i).attrs i).applicantState = .unused ∧
      ∀ l, l ≠ i → (s.cleanupReservationEntry i).attrs l = s.attrs l := by
  obtain ⟨hkind, hused, htype, hhere⟩ := flagged_attr hs hflag
  set x : MrpAttribute := { s.attrs i with applicantState := .unused } with hx
  -- the state in between, with the slot unused
  have hmid : ∀ s' : SrpState a t v, s'.attrs i = x →
      (s'.setAttr i { s'.attrs i with removeAfterNextTx := false }).view =
        s'.view.setSlot i .free := by
    intro s' hattr
    rw [view_setAttr_eq, hattr]
    rfl
  have hunused : (s.attrs i).here = false ∧ (s.attrs i).attributeType ≠ .domainVector := by
    refine ⟨hhere, fun hdom => ?_⟩
    rw [hdom] at htype
    rcases htype with h | h <;> cases h
  have hfree : (s.setAttr i x).view.setSlot i .free = s.view.setSlot i .free := by
    rw [view_setAttr_eq]
    unfold SrpView.setSlot
    dsimp only
    rw [update_idem]
  unfold cleanupReservationEntry
  dsimp only
  rw [if_pos hunused]
  by_cases hlast : IsStreamType (s.attrs i).attributeType ∧
      (s.setAttr i x).matchAttributePairByStreamId (s.attrs i) true = none ∧
      (s.setAttr i x).matchAttrByStreamAndType (s.attrs i) true = none
  · rw [if_pos hlast]
    -- the entry of the stream is found, and no other attribute is of the stream
    obtain ⟨j, hj, hinfo, -⟩ := hs.entry i (Or.inl hkind)
    have hstream : s.view.streamOf i = some (s.view.ids j) := by
      unfold SrpView.streamOf
      rw [hinfo]
    have hstream' : (s.setAttr i x).streamOf (s.attrs i) = some (s.view.ids j) := by
      rw [← hstream, view_streamOf (Or.inl hkind)]
      rfl
    have hothers : ∀ l, l ≠ i → s.view.IsStream l → s.view.streamOf l ≠ s.view.streamOf i := by
      intro l hl hl' heq
      have hattr := attrs_setAttr_of_ne hl x s
      refine no_other_stream hlast.2 hattr htype hl' ?_ ?_
      · rw [hstream']
        exact Option.some_ne_none _
      · rw [hstream', ← hstream, ← heq, view_streamOf hl', hattr]
        rfl
    rw [hstream']
    dsimp only
    obtain ⟨l, hl, hlid⟩ := exists_matchReservationEntryById (s := s.setAttr i x) hj rfl
    have hremove : (s.setAttr i x).removeReservationEntry (s.view.ids j) =
        (s.setAttr i x).setEntry l .zero := by
      unfold removeReservationEntry
      rw [show s.view.ids j = (s.setAttr i x).view.ids j from rfl, hl]
    rw [hremove]
    refine ⟨?_, ?_, fun l' hl' => attrs_setAttr_of_ne hl' x s⟩
    · rw [hmid ((s.setAttr i x).setEntry l .zero) (attrs_setAttr_self i x s), view_setEntry_eq]
      have hsame :
          ((s.setAttr i x).view.setId l AvbStreamEntry.zero.reservation.id).setSlot i .free =
          (s.view.setSlot i .free).setId l (0, 0) := by
        rw [← hfree]
        rfl
      rw [hsame]
      refine .entry l ?_ hothers
      rw [hstream]
      exact congrArg some hlid.symm
    · show ((s.setAttr i x).attrs i).applicantState = .unused
      rw [attrs_setAttr_self]
  · rw [if_neg hlast]
    refine ⟨?_, ?_, fun l hl => attrs_setAttr_of_ne hl x s⟩
    · rw [hmid _ (attrs_setAttr_self i x s), hfree]
      exact .slot
    · rw [attrs_setAttr_self]

lemma begun_applicantAfterTx (h : x.applicantState.Begun) :
    (applicantAfterTx leaveAll x).Begun := by
  unfold applicantAfterTx
  split_ifs
  · exact begun_afterTxLeaveAll h
  · exact begun_afterTx _ h

lemma transmitAttr_kept {leaveAll : Bool} (hbegun : (s.attrs i).applicantState.Begun)
    (hno : ¬ (transmits leaveAll (s.attrs i).applicantState = true ∧
      (s.attrs i).removeAfterNextTx = true)) : (s.transmitAttr leaveAll i).view = s.view ∧
      (s.transmitAttr leaveAll i).attrs = update s.attrs i
        { s.attrs i with applicantState := applicantAfterTx leaveAll (s.attrs i) } := by
  have hset : ∀ s' : SrpState a t v, s'.attrs = s.attrs → s'.view = s.view →
      (s'.setAttr i { s'.attrs i with
        applicantState := applicantAfterTx leaveAll (s'.attrs i) }).view = s.view ∧
      (s'.setAttr i { s'.attrs i with
        applicantState := applicantAfterTx leaveAll (s'.attrs i) }).attrs =
          update s.attrs i
            { s.attrs i with applicantState := applicantAfterTx leaveAll (s.attrs i) } := by
    intro s' hattrs hview
    constructor
    · refine Eq.trans (view_setAttr ?_) hview
      rw [hattrs]
      exact attrView_applicantState hbegun (begun_applicantAfterTx leaveAll hbegun) _
    · unfold setAttr
      dsimp only
      rw [hattrs]
  unfold transmitAttr
  dsimp only
  by_cases htx : transmits leaveAll (s.attrs i).applicantState = true
  · rw [if_pos htx]
    unfold doTx
    dsimp only
    rw [if_neg (fun hflag => hno ⟨htx, hflag⟩)]
    exact hset _ rfl rfl
  · rw [if_neg htx]
    exact hset s rfl rfl

lemma transmitAttr_removed (hs : SrpSound s.view) {leaveAll : Bool}
    (htx : transmits leaveAll (s.attrs i).applicantState = true)
    (hflag : (s.attrs i).removeAfterNextTx = true) :
    Removed i s.view (s.transmitAttr leaveAll i).view ∧
      ((s.transmitAttr leaveAll i).attrs i).applicantState = .unused ∧
      ∀ l, l ≠ i → (s.transmitAttr leaveAll i).attrs l = s.attrs l := by
  unfold transmitAttr
  dsimp only
  rw [if_pos htx]
  unfold doTx
  dsimp only
  rw [if_pos hflag]
  set s' : SrpState a t v := { s with
    tx := txDeclaration s.srcAddr s.domain (s.declaration (s.attrs i))
      (makeTxEvent leaveAll (s.attrs i)).code s.tx } with hs'
  obtain ⟨hremoved, hunused, hothers⟩ := removed_cleanup (s := s') (i := i) hs hflag
  -- an unused attribute stays as it is
  have hstate : ∀ x : MrpAttribute, x.applicantState = .unused →
      { x with applicantState := applicantAfterTx leaveAll x } = x := by
    intro x hx
    have hafter : applicantAfterTx leaveAll x = x.applicantState := by
      unfold applicantAfterTx
      rw [hx]
      split_ifs <;> rfl
    rw [hafter]
  generalize hy : { (s'.cleanupReservationEntry i).attrs i with removeAfterNextTx := false } = y
    at hremoved ⊢
  have hy' : y.applicantState = .unused := by
    rw [← hy]
    exact hunused
  rw [attrs_setAttr_self, hstate y hy']
  refine ⟨?_, ?_, fun l hl => ?_⟩
  · rw [view_setAttr (by rw [attrs_setAttr_self])]
    exact hremoved
  · rw [attrs_setAttr_self]
    exact hy'
  · rw [attrs_setAttr_of_ne hl, attrs_setAttr_of_ne hl, hothers l hl]

def beforeTx (leaveAll : Bool) (i : Fin a) (s : SrpState a t v) : SrpState a t v :=
  s.tick.setAttr i (registrarEvent s.now 0 (txEvent leaveAll) (s.attrs i))

lemma updateState_tx (i : Fin a) (s : SrpState a t v) :
    s.updateState (txEvent leaveAll) 0 i = (s.beforeTx leaveAll i).transmitAttr leaveAll i := by
  unfold updateState beforeTx
  cases leaveAll <;> rfl

lemma view_beforeTx (i : Fin a) (s : SrpState a t v) : (s.beforeTx leaveAll i).view = s.view :=
  view_setAttr (attrView_registrarEvent _ _ _ _ _)

lemma attrs_beforeTx_of_ne {l : Fin a} (h : l ≠ i) (s : SrpState a t v) :
    (s.beforeTx leaveAll i).attrs l = s.attrs l :=
  attrs_setAttr_of_ne h _ s.tick

lemma attrs_beforeTx (i : Fin a) (s : SrpState a t v) :
    ((s.beforeTx leaveAll i).attrs i).applicantState = (s.attrs i).applicantState ∧
      ((s.beforeTx leaveAll i).attrs i).removeAfterNextTx = (s.attrs i).removeAfterNextTx ∧
      ((s.beforeTx leaveAll i).attrs i).attributeType = (s.attrs i).attributeType := by
  obtain ⟨htype, hstate, hflag, -, -⟩ :=
    registrarEvent_frame s.now 0 (txEvent leaveAll) (s.attrs i)
  unfold beforeTx
  rw [attrs_setAttr_self]
  exact ⟨hstate, hflag, htype⟩

/-- **A transmit opportunity.**  A slot that transmits and waits for it is given back, and
nothing else is seen of it. -/
theorem updateState_tx_removed (hs : SrpSound s.view) {leaveAll : Bool}
    (htx : transmits leaveAll (s.attrs i).applicantState = true)
    (hflag : (s.attrs i).removeAfterNextTx = true) :
    Removed i s.view (s.updateState (txEvent leaveAll) 0 i).view ∧
      ((s.updateState (txEvent leaveAll) 0 i).attrs i).applicantState = .unused ∧
      ∀ l, l ≠ i → (s.updateState (txEvent leaveAll) 0 i).attrs l = s.attrs l := by
  obtain ⟨hstate, hflag', -⟩ := attrs_beforeTx leaveAll i s
  have hview := view_beforeTx leaveAll i s
  rw [← hstate] at htx
  rw [← hflag'] at hflag
  obtain ⟨hremoved, hunused, hothers⟩ :=
    transmitAttr_removed (by rw [hview]; exact hs) htx hflag
  rw [hview] at hremoved
  rw [updateState_tx]
  exact ⟨hremoved, hunused,
    fun l hl => (hothers l hl).trans (attrs_beforeTx_of_ne leaveAll hl s)⟩

lemma updateState_tx_kept {leaveAll : Bool} (hbegun : (s.attrs i).applicantState.Begun)
    (hno : ¬ (transmits leaveAll (s.attrs i).applicantState = true ∧
      (s.attrs i).removeAfterNextTx = true)) :
    (s.updateState (txEvent leaveAll) 0 i).view = s.view ∧
      (∃ x : MrpAttribute, x.applicantState = (s.attrs i).applicantState ∧
        ((s.updateState (txEvent leaveAll) 0 i).attrs i).applicantState =
          applicantAfterTx leaveAll x) ∧
      ((s.updateState (txEvent leaveAll) 0 i).attrs i).attributeType = (s.attrs i).attributeType ∧
      ∀ l, l ≠ i → (s.updateState (txEvent leaveAll) 0 i).attrs l = s.attrs l := by
  obtain ⟨hstate, hflag, htype⟩ := attrs_beforeTx leaveAll i s
  have hview := view_beforeTx leaveAll i s
  rw [← hstate] at hbegun
  rw [← hstate, ← hflag] at hno
  obtain ⟨hkept, hattrs⟩ := transmitAttr_kept hbegun hno
  rw [updateState_tx]
  refine ⟨hkept.trans hview, ⟨_, hstate, ?_⟩, ?_, fun l hl => ?_⟩
  · rw [hattrs, update_self]
  · rw [hattrs, update_self]
    exact htype
  · rw [hattrs, update_of_ne hl]
    exact attrs_beforeTx_of_ne leaveAll hl s

/-! ## The periodic function -/

section

variable {P : SrpView a t v → Prop}

structure ClosedUnderRemoval (P : SrpView a t v → Prop) : Prop where
  sound : ∀ V, P V → SrpSound V
  removed : ∀ V V' i, P V → (V.slots i).flagged = true → Removed i V V' → P V'

lemma ClosedUnderRemoval.attributeTypeEvent (h : ClosedUnderRemoval P) (type : MrpAttributeType)
    (leaveAll : Bool) {s : SrpState a t v} (hs : P s.view) :
    P (s.attributeTypeEvent type (txEvent leaveAll)).view := by
  unfold SrpState.attributeTypeEvent
  generalize s.order = is
  induction is generalizing s with
  | nil => exact hs
  | cons i is ih =>
    rw [List.foldl_cons]
    refine ih ?_
    split_ifs with hbegun
    · by_cases htx : transmits leaveAll (s.attrs i).applicantState = true ∧
          (s.attrs i).removeAfterNextTx = true
      · refine h.removed _ _ i hs ((attrView_flagged _ _).trans htx.2) ?_
        exact (updateState_tx_removed (h.sound _ hs) htx.1 htx.2).1
      · rw [(updateState_tx_kept hbegun.1 htx).1]
        exact hs
    · exact hs

lemma ClosedUnderRemoval.msrpTypesEvent (h : ClosedUnderRemoval P) (leaveAll : Bool)
    {s : SrpState a t v} (hs : P s.view) : P (s.msrpTypesEvent (txEvent leaveAll)).view := by
  unfold SrpState.msrpTypesEvent
  exact h.attributeTypeEvent _ leaveAll (h.attributeTypeEvent _ leaveAll
    (h.attributeTypeEvent _ leaveAll (h.attributeTypeEvent _ leaveAll hs)))

lemma view_sortAttrs (s : SrpState a t v) : s.sortAttrs.view = s.view := by
  have hlisted : s.sortAttrs.view.listed = s.view.listed := by
    funext i
    exact propext (perm_sortList s.order).mem_iff
  show { s.view with listed := s.sortAttrs.view.listed } = s.view
  rw [hlisted]

lemma ClosedUnderRemoval.transmitMvrp (h : ClosedUnderRemoval P) {s : SrpState a t v}
    (hs : P s.view) : P s.transmitMvrp.view := by
  unfold SrpState.transmitMvrp
  refine h.attributeTypeEvent .vidVector s.mvrpLeaveallActive (P := P) ?_
  dsimp only
  split_ifs <;> exact hs

lemma ClosedUnderRemoval.transmitMsrp (h : ClosedUnderRemoval P) {s : SrpState a t v}
    (hs : P s.view) : P s.transmitMsrp.view := by
  unfold SrpState.transmitMsrp
  refine h.msrpTypesEvent s.msrpLeaveallActive (P := P) ?_
  dsimp only
  split_ifs <;> exact hs

lemma view_pollPeriodicTimer (s : SrpState a t v) : s.pollPeriodicTimer.view = s.view := by
  have hread : s.readPeriodicTimer.view = s.view := view_congr rfl rfl rfl rfl rfl rfl rfl
  have hstart : ∀ s' : SrpState a t v, s'.startPeriodicTimer.view = s'.view := by
    intro s'
    unfold startPeriodicTimer
    exact view_congr rfl rfl rfl rfl rfl rfl rfl
  unfold pollPeriodicTimer
  split_ifs
  · rw [hstart, view_globalEvent (by decide) (by decide), hread]
  · exact hread

lemma view_pollMsrpLeaveallTimer (s : SrpState a t v) : s.pollMsrpLeaveallTimer.view = s.view := by
  have hread : s.readMsrpLeaveallTimer.view = s.view := view_congr rfl rfl rfl rfl rfl rfl rfl
  have hstart : ∀ s' : SrpState a t v, s'.startMsrpLeaveallTimer.view = s'.view := by
    intro s'
    unfold startMsrpLeaveallTimer
    exact view_congr rfl rfl rfl rfl rfl rfl rfl
  unfold pollMsrpLeaveallTimer
  split_ifs
  · rw [hstart, view_msrpTypesEvent (by decide) (by decide), hread]
  · exact hread

lemma view_pollMvrpLeaveallTimer (s : SrpState a t v) : s.pollMvrpLeaveallTimer.view = s.view := by
  have hread : s.readMvrpLeaveallTimer.view = s.view := view_congr rfl rfl rfl rfl rfl rfl rfl
  have hstart : ∀ s' : SrpState a t v, s'.startMvrpLeaveallTimer.view = s'.view := by
    intro s'
    unfold startMvrpLeaveallTimer
    exact view_congr rfl rfl rfl rfl rfl rfl rfl
  unfold pollMvrpLeaveallTimer
  split_ifs
  · rw [hstart, view_attributeTypeEvent _ (by decide) (by decide), hread]
  · exact hread

lemma ClosedUnderRemoval.pollJoinTimer (h : ClosedUnderRemoval P) {s : SrpState a t v}
    (hs : P s.view) : P s.pollJoinTimer.view := by
  have hread : s.readJoinTimer.view = s.view := view_congr rfl rfl rfl rfl rfl rfl rfl
  have hstart : s.readJoinTimer.startJoinTimer.view = s.readJoinTimer.view :=
    view_congr rfl rfl rfl rfl rfl rfl rfl
  unfold SrpState.pollJoinTimer
  split_ifs
  · refine h.transmitMsrp (h.transmitMvrp ?_)
    rw [view_sortAttrs, hstart, hread]
    exact hs
  · rw [hread]
    exact hs

/-- **The periodic function.**  What a removal keeps, `mrp_periodic` keeps. -/
theorem ClosedUnderRemoval.periodic (h : ClosedUnderRemoval P) {s : SrpState a t v}
    (hs : P s.view) : P s.periodic.view := by
  have hpolls : P s.pollPeriodicTimer.pollMsrpLeaveallTimer.pollMvrpLeaveallTimer.view := by
    rw [view_pollMvrpLeaveallTimer, view_pollMsrpLeaveallTimer, view_pollPeriodicTimer]
    exact hs
  have hjoin := h.pollJoinTimer hpolls
  unfold SrpState.periodic
  rw [view_periodicAttrs (h.sound _ hjoin)]
  exact hjoin

end

end

end SrpState
