/-
# The SRP task

The whole state of MRP, MSRP and MVRP in the build with one port: the pool of
attributes with the list they are sorted in, the stream table, the domain, the table of
VLANs, the timers and the packet under construction; and what the requests of the
manager, the received packets and `mrp_periodic` do to it.

A pointer is the number of its slot or entry.  The readings of the timer come with the
events (`clock`).  `exhausted` notes that a slot or an entry was asked for and there was
none, `trapped` that the code has trapped or has followed a null pointer.
-/
import LibTsn.MrpSendBuffer
import LibTsn.MvrpMembership

/-! ## Stream entries -/

abbrev StreamId := UInt32 × UInt32

def AvbSrpInfo.id (r : AvbSrpInfo) : StreamId := (r.streamId0, r.streamId1)

def AvbSrpInfo.zero : AvbSrpInfo where
  streamId0 := 0
  streamId1 := 0
  destMacAddr := Vector.replicate 6 0
  vlanId := 0
  tspecMaxFrameSize := 0
  tspecMaxInterval := 0
  tspec := 0
  accumulatedLatency := 0
  failureBridgeId := Vector.replicate 8 0
  failureCode := 0

/-- `avb_stream_entry`, with one port. -/
structure AvbStreamEntry where
  reservation : AvbSrpInfo
  listenerPresent : Bool
  talkerPresent : Bool
  bwReserved : Bool
  reservationFailed : Bool
  deriving DecidableEq

def AvbStreamEntry.zero : AvbStreamEntry where
  reservation := .zero
  listenerPresent := false
  talkerPresent := false
  bwReserved := false
  reservationFailed := false

/-! ## The sorted list -/

section

variable {α : Type*} (before : α → α → Bool)

/-- The first loop of `sort_attrs`: an element that does not stand before its successor is
taken out and put on a stack. -/
def takeOut : List α → List α × List α
  | [] => ([], [])
  | [x] => ([x], [])
  | x :: y :: rest =>
    let r := takeOut (y :: rest)
    if before x y then (x :: r.1, r.2) else (r.1, r.2 ++ [x])

def insertAfter (x : α) : List α → List α
  | [] => [x]
  | [y] => [y, x]
  | y :: z :: rest =>
    if before y x && before x z then y :: x :: z :: rest else y :: insertAfter x (z :: rest)

/-- An element put back by the second loop of `sort_attrs`. -/
def insertBack (x : α) : List α → List α
  | [] => [x]
  | y :: rest => if before x y then x :: y :: rest else insertAfter before x (y :: rest)

/-- `sort_attrs`, on the list of attributes. -/
def sortList (xs : List α) : List α :=
  (takeOut before xs).2.foldl (fun ys x => insertBack before x ys) (takeOut before xs).1

variable {before}

lemma perm_takeOut : ∀ xs : List α, ((takeOut before xs).2 ++ (takeOut before xs).1).Perm xs
  | [] => List.Perm.refl _
  | [_] => List.Perm.refl _
  | x :: y :: rest => by
    have ih := perm_takeOut (y :: rest)
    rw [takeOut]
    split_ifs
    · exact List.perm_middle.trans (ih.cons x)
    · rw [List.append_assoc]
      exact List.perm_middle.trans (ih.cons x)

lemma perm_insertAfter (x : α) : ∀ xs : List α, (insertAfter before x xs).Perm (x :: xs)
  | [] => List.Perm.refl _
  | [y] => List.Perm.swap x y []
  | y :: z :: rest => by
    rw [insertAfter]
    split_ifs
    · exact List.Perm.swap x y _
    · exact ((perm_insertAfter x (z :: rest)).cons y).trans (List.Perm.swap x y _)

lemma perm_insertBack (x : α) (xs : List α) : (insertBack before x xs).Perm (x :: xs) := by
  unfold insertBack
  split
  · exact List.Perm.refl _
  · split_ifs
    · exact List.Perm.refl _
    · exact perm_insertAfter x _

lemma perm_sortList (xs : List α) : (sortList before xs).Perm xs := by
  have hback : ∀ zs ys : List α,
      (zs.foldl (fun ys x => insertBack before x ys) ys).Perm (zs ++ ys) := by
    intro zs
    induction zs with
    | nil => intro ys; exact List.Perm.refl _
    | cons z zs ih =>
      intro ys
      rw [List.foldl_cons]
      refine (ih _).trans ?_
      exact ((perm_insertBack z ys).append_left zs).trans List.perm_middle
  exact (hback _ _).trans (perm_takeOut xs)

end

/-! ## The state -/

/-- `mvrp_entry`, with its attribute in the pool. -/
structure SrpVlan (a : ℕ) where
  active : Bool
  attr : Fin a
  vlan : ℕ

structure SrpState (a t v : ℕ) where
  attrs : Fin a → MrpAttribute
  order : List (Fin a)
  requests : Fin a → Option MadRequest
  table : ℕ → AvbStreamEntry
  domain : SrpDomain
  domainAttr : Fin a
  vlans : Fin v → SrpVlan a
  periodicTimer : AvbTimer
  joinTimer : AvbTimer
  msrpLeaveallTimer : AvbTimer
  mvrpLeaveallTimer : AvbTimer
  msrpLeaveallActive : Bool
  mvrpLeaveallActive : Bool
  srcAddr : Vector UInt8 6
  headerType : Vector UInt8 2
  tx : MrpTx
  sources : List AvbEndpointInfo
  sinks : List AvbEndpointInfo
  clock : ℕ → ℕ
  exhausted : Bool
  trapped : Bool

namespace SrpState

variable {a t v : ℕ}
variable (r : AvbSrpInfo) (x : MrpAttribute) (s : SrpState a t v)

def now : ℕ := s.clock 0

def tick : SrpState a t v := { s with clock := fun n => s.clock (n + 1) }

variable (matchDisabled : Bool) (i : Fin a) (type : MrpAttributeType) (e : MrpEvent) (id : StreamId)
  (vlan : ℕ)

def setAttr (x : MrpAttribute) (s : SrpState a t v) : SrpState a t v :=
  { s with attrs := Function.update s.attrs i x }

def setEntry (j : ℕ) (x : AvbStreamEntry) (s : SrpState a t v) : SrpState a t v :=
  { s with table := Function.update s.table j x }

def setRequest (r : Option MadRequest) (s : SrpState a t v) : SrpState a t v :=
  { s with requests := Function.update s.requests i r }

def streamOf (x : MrpAttribute) : Option StreamId :=
  match x.attributeInfo with
  | .stream j => some (s.table j).reservation.id
  | _ => none

/-! ## Requests of an attribute -/

def getAttr : Option (Fin a) × SrpState a t v :=
  match (List.finRange a).find? fun i => decide ((s.attrs i).applicantState = .unused) with
  | some i => (some i, s.setAttr i { s.attrs i with applicantState := .disabled })
  | none => (none, { s with exhausted := true })

/-- `mrp_attribute_init`.  Its `memset` clears nothing, since size and value are
swapped. -/
def attributeInit (here : Bool) (info : AttributeInfo) (s : SrpState a t v) : SrpState a t v :=
  s.setAttr i { s.attrs i with attributeType := type, attributeInfo := info, here := here }

def madBegin (s : SrpState a t v) : SrpState a t v :=
  (s.setAttr i (mrpMadBegin (s.attrs i))).setRequest i none

def madJoin (new : Bool) (i : Fin a) (s : SrpState a t v) : SrpState a t v :=
  (s.setAttr i (mrpMadJoin new (s.attrs i))).setRequest i (some (if new then .new else .join))

def madLeave (s : SrpState a t v) : SrpState a t v :=
  (s.setAttr i (mrpMadLeave (s.attrs i))).setRequest i (some .leave)

/-! ## Matching -/

/-- `mrp_match_type_non_prop_attribute`; with one port nothing is propagated. -/
def matchTypeNonPropAttribute (s : SrpState a t v) : Option (Fin a) :=
  (List.finRange a).find? fun j =>
    decide ((s.attrs j).applicantState.Begun ∧ (s.attrs j).attributeType = type ∧
      s.streamOf (s.attrs j) = some id)

def Matchable (x : MrpAttribute) : Prop :=
  x.applicantState ≠ .unused ∧ (matchDisabled = true ∨ x.applicantState ≠ .disabled)

instance (matchDisabled : Bool) (x : MrpAttribute) : Decidable (Matchable matchDisabled x) :=
  inferInstanceAs (Decidable (_ ∧ _))

def SameStream (x y : MrpAttribute) : Prop :=
  s.streamOf x ≠ none ∧ s.streamOf x = s.streamOf y
  deriving Decidable

/-- `mrp_match_attr_by_stream_and_type`, on the port of the attribute. -/
def matchAttrByStreamAndType (s : SrpState a t v) : Option (Fin a) :=
  (List.finRange a).find? fun j =>
    decide (Matchable matchDisabled (s.attrs j) ∧
      (x.attributeType = (s.attrs j).attributeType ∨
        x.attributeType.IsTalker ∧ (s.attrs j).attributeType.IsTalker) ∧
      s.SameStream x (s.attrs j))

/-- `mrp_match_attribute_pair_by_stream_id`, on the port of the attribute. -/
def matchAttributePairByStreamId (s : SrpState a t v) : Option (Fin a) :=
  (List.finRange a).find? fun j =>
    decide (Matchable matchDisabled (s.attrs j) ∧
      (x.attributeType.IsTalker ∧ (s.attrs j).attributeType = .listener ∨
        x.attributeType = .listener ∧ (s.attrs j).attributeType.IsTalker) ∧
      s.SameStream x (s.attrs j))

/-! ## The stream table -/

/-- `srp_match_reservation_entry_by_id`: the entry of the stream, or else the last empty
one. -/
def matchReservationEntryById (s : SrpState a t v) : Option ℕ :=
  ((List.range t).find? fun j => decide ((s.table j).reservation.id = id)).or
    ((List.range t).reverse.find? fun j => decide ((s.table j).reservation.id = (0, 0)))

def addReservationEntryStreamIdOnly (s : SrpState a t v) : Option ℕ × SrpState a t v :=
  match s.matchReservationEntryById id with
  | some j =>
    let x := s.table j
    let r := if x.talkerPresent then x.reservation else .zero
    (some j, s.setEntry j { x with
      reservation := { r with streamId0 := id.1, streamId1 := id.2 }
      listenerPresent := true })
  | none => (none, { s with exhausted := true })

/-- `srp_add_reservation_entry`: all but the failure information is stored. -/
def addReservationEntry : Option ℕ × SrpState a t v :=
  match s.matchReservationEntryById r.id with
  | some j =>
    let x := s.table j
    (some j, s.setEntry j { x with
      reservation := { r with
        failureBridgeId := x.reservation.failureBridgeId
        failureCode := x.reservation.failureCode }
      talkerPresent := true })
  | none => (none, { s with exhausted := true })

def removeReservationEntry (s : SrpState a t v) : SrpState a t v :=
  match s.matchReservationEntryById id with
  | some j => s.setEntry j .zero
  | none => { s with trapped := true }

def IsStreamType : Prop := type.IsTalker ∨ type = .listener
  deriving Decidable

/-- `srp_cleanup_reservation_entry`: an attribute of another participant becomes unused, and
with the last attribute of a stream goes the stream entry. -/
def cleanupReservationEntry (s : SrpState a t v) : SrpState a t v :=
  let x := s.attrs i
  let s := if x.here = false ∧ x.attributeType ≠ .domainVector then
      s.setAttr i { x with applicantState := .unused }
    else s
  if IsStreamType x.attributeType ∧ s.matchAttributePairByStreamId x true = none ∧
      s.matchAttrByStreamAndType x true = none then
    match s.streamOf x with
    | some id => s.removeReservationEntry id
    | none => { s with trapped := true }
  else s

/-! ## The attribute machines in the pool -/

def declaration (x : MrpAttribute) : MrpDeclaration :=
  let entry := match x.attributeInfo with
    | .stream j => s.table j
    | _ => .zero
  { type := x.attributeType
    reservation := entry.reservation
    talkerPresent := entry.talkerPresent
    reservationFailed := entry.reservationFailed
    vlan := match x.attributeInfo with
      | .vlan k => if h : k < v then (s.vlans ⟨k, h⟩).vlan else 0
      | _ => 0 }

def doTx (event : MrpAttributeEvent) (s : SrpState a t v) : SrpState a t v :=
  let s := { s with
    tx := txDeclaration s.srcAddr s.domain (s.declaration (s.attrs i)) event.code s.tx }
  if (s.attrs i).removeAfterNextTx then
    let s := s.cleanupReservationEntry i
    s.setAttr i { s.attrs i with removeAfterNextTx := false }
  else s

def restartLeaveall (s : SrpState a t v) : SrpState a t v :=
  if type = .vidVector then
    { s.tick with
      mvrpLeaveallTimer := startAvbTimer s.now 10 s.mvrpLeaveallTimer
      mvrpLeaveallActive := false }
  else
    { s.tick with
      msrpLeaveallTimer := startAvbTimer s.now 10 s.msrpLeaveallTimer
      msrpLeaveallActive := false }

def applicantAfterTx (leaveAll : Bool) (x : MrpAttribute) : MrpApplicantState :=
  if leaveAll then afterTxLeaveAll x.applicantState else afterTx x.registrarState x.applicantState

def transmitAttr (leaveAll : Bool) (i : Fin a) (s : SrpState a t v) : SrpState a t v :=
  let x := s.attrs i
  let s := if transmits leaveAll x.applicantState then s.doTx i (makeTxEvent leaveAll x) else s
  s.setAttr i { s.attrs i with applicantState := applicantAfterTx leaveAll (s.attrs i) }

/-- `mrp_update_state`.  A reading is taken for the leave timer of the attribute. -/
def updateState (four : ℕ) (i : Fin a) (s : SrpState a t v) : SrpState a t v :=
  let s := if e = .receiveLeaveAll then s.restartLeaveall (s.attrs i).attributeType else s
  let x := registrarEvent s.now four e (s.attrs i)
  let s := s.tick.setAttr i x
  match e with
  | .tx => s.transmitAttr false i
  | .txLeaveAll => s.transmitAttr true i
  | e => s.setAttr i { x with applicantState := applicantEvent e x.applicantState }

def globalEvent (s : SrpState a t v) : SrpState a t v :=
  s.order.foldl (fun s i =>
    if (s.attrs i).applicantState.Begun ∧
        (e ≠ .periodic ∨ (s.attrs i).attributeType = .vidVector) then
      s.updateState e 0 i
    else s) s

def attributeTypeEvent (s : SrpState a t v) : SrpState a t v :=
  s.order.foldl (fun s i =>
    if (s.attrs i).applicantState.Begun ∧ (s.attrs i).attributeType = type then
      s.updateState e 0 i
    else s) s

def msrpTypesEvent (s : SrpState a t v) : SrpState a t v :=
  (((s.attributeTypeEvent .talkerAdvertise e).attributeTypeEvent .talkerFailed e).attributeTypeEvent
    .listener e).attributeTypeEvent .domainVector e

def vlanEntries : Fin v → MvrpEntry :=
  fun k => ⟨(s.vlans k).active, s.attrs (s.vlans k).attr, (s.vlans k).vlan⟩

def joinVlan (s : SrpState a t v) : SrpState a t v :=
  match joinEntry s.vlanEntries vlan with
  | some k =>
    let i := (s.vlans k).attr
    let s := { s with vlans := Function.update s.vlans k ⟨true, i, vlan⟩ }
    (s.madBegin i).madJoin true i
  | none => s

def leaveVlan (s : SrpState a t v) : SrpState a t v :=
  match activeEntry s.vlanEntries vlan with
  | some k =>
    let i := (s.vlans k).attr
    let s := s.madLeave i
    { s with vlans := Function.update s.vlans k ⟨false, i, (s.vlans k).vlan⟩ }
  | none => s

/-! ## Requests of the manager -/

def beginAttr (here : Bool) (info : AttributeInfo) (s : SrpState a t v) :
    Option (Fin a) × SrpState a t v :=
  match s.getAttr with
  | (some i, s) => (some i, (s.attributeInit i type here info).madBegin i)
  | (none, s) => (none, s)

def matchTalker (s : SrpState a t v) : Option (Fin a) :=
  (s.matchTypeNonPropAttribute .talkerAdvertise id).or
    (s.matchTypeNonPropAttribute .talkerFailed id)

/-- LJ2 and LJ3 of `avb_srp_join_listener_attrs`: the talker is there. -/
def joinListenerOfTalker (talker : Fin a) (vid : ℕ) (s : SrpState a t v) : SrpState a t v :=
  match s.matchAttributePairByStreamId (s.attrs talker) false with
  | some i => (s.joinVlan vid).madJoin true i
  | none =>
    match s.getAttr with
    | (some i, s) =>
      let s := s.joinVlan vid
      let s := s.attributeInit i .listener true (s.attrs talker).attributeInfo
      ((s.madBegin i).joinVlan vid).madJoin true i
    | (none, s) => s

def joinListener (entry vid : ℕ) (s : SrpState a t v) : SrpState a t v :=
  let listener := s.matchTypeNonPropAttribute .listener id
  let s := s.joinVlan vid
  match listener with
  | some i => s.madJoin true i
  | none =>
    match s.beginAttr .listener true (.stream entry) with
    | (some i, s) => s.madJoin true i
    | (none, s) => s

/-- LJ5 of `avb_srp_join_listener_attrs`: the talker has not arrived. -/
def joinListenerAlone (vid : ℕ) (s : SrpState a t v) : SrpState a t v :=
  match s.addReservationEntryStreamIdOnly id with
  | (some j, s) => ((s.joinListener id j vid).beginAttr .talkerAdvertise false (.stream j)).2
  | (none, s) => s

def vidToJoin (s : SrpState a t v) : ℕ := if vlan = 0 then s.domain.vlanId else vlan

/-- `avb_srp_join_listener_attrs`, which returns the VLAN to join. -/
def joinListenerAttrs (s : SrpState a t v) : SrpState a t v :=
  match s.matchTypeNonPropAttribute .talkerAdvertise id with
  | some i => s.joinListenerOfTalker i (s.vidToJoin vlan)
  | none =>
    if s.matchTypeNonPropAttribute .talkerFailed id = none then
      s.joinListenerAlone id (s.vidToJoin vlan)
    else s

def leaveListener (s : SrpState a t v) : SrpState a t v :=
  match s.matchTypeNonPropAttribute .listener id with
  | some i => (s.setAttr i { s.attrs i with here := false }).madLeave i
  | none => s

def removeAfterNextTx (i : Fin a) (s : SrpState a t v) : SrpState a t v :=
  s.setAttr i { s.attrs i with here := false, removeAfterNextTx := true }

def leaveListenerAttrs (s : SrpState a t v) : SrpState a t v :=
  match s.matchTalker id with
  | some i => (s.leaveListener id).removeAfterNextTx i
  | none => s.leaveListener id

/-- `avb_srp_create_and_join_talker_advertise_attrs`.  Without a stream entry it follows a
null pointer. -/
def createAndJoinTalkerAdvertiseAttrs : SrpState a t v :=
  match s.addReservationEntry r with
  | (some j, s) =>
    let talker := s.matchTalker r.id
    let s := if r.vlanId = 0 then
        s.setEntry j { s.table j with
          reservation := { (s.table j).reservation with vlanId := UInt16.ofNat s.domain.vlanId } }
      else s
    let s := s.joinVlan (s.table j).reservation.vlanId.toNat
    let s := match talker with
      | some i => s.madJoin true i
      | none =>
        match s.beginAttr .talkerAdvertise true (.stream j) with
        | (some i, s) => s.madJoin true i
        | (none, s) => s
    match s.matchTypeNonPropAttribute .listener r.id with
    | some _ => s
    | none => (s.beginAttr .listener false (.stream j)).2
  | (none, s) => { s with trapped := true }

def leaveTalkerAttrs (s : SrpState a t v) : SrpState a t v :=
  let s := match s.matchTalker id with
    | some i => s.madLeave i
    | none => s
  s.leaveListener id

def domainJoin : SrpState a t v :=
  (s.madBegin s.domainAttr).madJoin true s.domainAttr

/-! ## Received packets -/

structure Reader (a t v : ℕ) where
  srp : SrpState a t v
  pkt : Mem

def streamIdAt (pkt : Mem) (fv n : ℕ) : ℕ := (beNat (pkt.load fv 8) + n) % 2 ^ 64

def talkerReservationAt (pkt : Mem) (fv n : ℕ) (r : AvbSrpInfo) : AvbSrpInfo :=
  let mac := beBytes 6 ((beNat (pkt.load (fv + 8) 6) + n) % 2 ^ 48)
  { r with
    vlanId := UInt16.ofNat (beNat (pkt.load (fv + 14) 2))
    destMacAddr := Vector.ofFn fun k => mac.getD k 0
    tspecMaxFrameSize := UInt16.ofNat (beNat (pkt.load (fv + 16) 2))
    tspecMaxInterval := UInt16.ofNat (beNat (pkt.load (fv + 18) 2))
    tspec := pkt (fv + 20)
    accumulatedLatency := UInt32.ofNat (beNat (pkt.load (fv + 21) 4)) }

def matchTalkerFailure (j fv : ℕ) (failed : Bool) (p : Reader a t v) : Reader a t v :=
  let s := p.srp
  let x := s.table j
  if failed then
    let s := s.setAttr i { s.attrs i with attributeType := .talkerFailed }
    let s := s.setEntry j { x with
      reservationFailed := true
      reservation := { x.reservation with
        failureBridgeId := Vector.ofFn fun k : Fin 8 => p.pkt (fv + 25 + k)
        failureCode := p.pkt (fv + 33) } }
    { p with srp := s }
  else
    let s := s.setAttr i { s.attrs i with attributeType := .talkerAdvertise }
    if x.reservationFailed then
      { srp := s.setEntry j { x with
          reservationFailed := false
          reservation := { x.reservation with failureBridgeId := Vector.replicate 8 0 } }
        pkt := p.pkt.store (fv + 33) [0] }
    else { p with srp := s }

def matchTalkerReservation (j fv n : ℕ) (p : Reader a t v) : Reader a t v :=
  let x := p.srp.table j
  if x.talkerPresent then p
  else
    let r := talkerReservationAt p.pkt fv n x.reservation
    { p with srp := ((p.srp.setEntry j { x with reservation := r }).addReservationEntry r).2 }

def matchTalkerAdvertise (fv n : ℕ) (leaveAll failed : Bool) (p : Reader a t v) :
    Bool × Reader a t v :=
  match (p.srp.attrs i).attributeInfo with
  | .stream j =>
    let x := p.srp.table j
    if x.reservation.streamId ≠ streamIdAt p.pkt fv n then (false, p)
    else if leaveAll then (true, p)
    else if (p.pkt (fv + 20)).toNat / 32 ≠ 3 then
      (false, { p with srp := p.srp.setEntry j { x with reservationFailed := true } })
    else (true, matchTalkerReservation j fv n (matchTalkerFailure i j fv failed p))
  | _ => (false, p)

def matchListener (fv n four : ℕ) (p : Reader a t v) : Bool :=
  match (p.srp.attrs i).attributeInfo with
  | .stream j =>
    decide (four ≠ FourPacked.ignore ∧
      (p.srp.table j).reservation.streamId = streamIdAt p.pkt fv n)
  | _ => false

def matchDomain (fv n : ℕ) (p : Reader a t v) : Bool × Reader a t v :=
  if ((p.pkt fv).toNat + n) % 256 = 6 ∧ ((p.pkt (fv + 1)).toNat + n) % 256 = 3 then
    (true, { p with srp := { p.srp with
      domain := { p.srp.domain with vlanId := beNat (p.pkt.load (fv + 2) 2) } } })
  else (false, p)

/-- `avb_mvrp_match_vid_vector`.  The VLAN of an entry has come from a `short`. -/
def matchVidVector (fv n : ℕ) (p : Reader a t v) : Bool :=
  match (p.srp.attrs i).attributeInfo with
  | .vlan k =>
    if h : k < v then
      decide (((beNat (p.pkt.load fv 2) + n : ℕ) : ℤ)
        = ((p.srp.vlans ⟨k, h⟩).vlan + 32768 : ℤ) % 65536 - 32768)
    else false
  | _ => false

def matchAttributeOfSameType (i : Fin a) (fv n four : ℕ) (leaveAll : Bool) (p : Reader a t v) :
    Bool × Reader a t v :=
  let x := p.srp.attrs i
  if ¬ x.applicantState.Begun then (false, p)
  else if ¬ (x.attributeType = type ∨ x.attributeType.IsTalker ∧ type.IsTalker) then (false, p)
  else
    match type with
    | .talkerAdvertise => matchTalkerAdvertise i fv n leaveAll false p
    | .talkerFailed => matchTalkerAdvertise i fv n leaveAll true p
    | .listener => (matchListener i fv n four p, p)
    | .domainVector => matchDomain fv n p
    | .macVector => (false, p)
    | .vidVector => (matchVidVector i fv n p, p)

def threePackedEvent : ℕ → MrpAttributeEvent
  | 0 => .evNew
  | 1 => .evJoinIn
  | 2 => .evIn
  | 3 => .evJoinMt
  | 4 => .evMt
  | _ => .evLv

def readValue (fv n three four : ℕ) (leaveAll : Bool) (p : Reader a t v) (i : Fin a) :
    Reader a t v :=
  match matchAttributeOfSameType type i fv n four leaveAll p with
  | (true, p) => { p with srp := p.srp.updateState (mrpIn (threePackedEvent three)) four i }
  | (false, p) => p

def readVisit (p : Reader a t v) : MrpVisit → Reader a t v
  | .leaveAll (some type) => { p with srp := p.srp.attributeTypeEvent type .receiveLeaveAll }
  | .value (some type) fv n three four leaveAll =>
    (List.finRange a).foldl (readValue type fv n three four leaveAll) p
  | _ => p

def processPacket (etype : MrpEthertype) (pkt : Mem) (len : ℕ) (s : SrpState a t v) :
    SrpState a t v :=
  (mrpWalk Reader.pkt readVisit etype len ⟨s, pkt⟩).srp

def controlEthertype (frame : Mem) : Option MrpEthertype :=
  let offset := if frame 13 = 0x18 then 16 else 12
  if frame.load offset 2 = [0x22, 0xea] ∧ frame.load 0 6 = [0x01, 0x80, 0xc2, 0x00, 0x00, 0x0e] then
    some .srp
  else if frame.load offset 2 = [0x88, 0xf5] ∧
      frame.load 0 6 = [0x01, 0x80, 0xc2, 0x00, 0x00, 0x21] then
    some .mvrp
  else none

/-- `avb_process_srp_control_packet`, for a frame of `nbytes` bytes. -/
def processControlPacket (frame : Mem) (nbytes : ℕ) (s : SrpState a t v) : SrpState a t v :=
  let size := if frame 13 = 0x18 then 18 else 14
  match controlEthertype frame with
  | some etype => s.processPacket etype (fun k => frame (size + k)) (nbytes - size)
  | none => s

/-! ## Indications -/

def sourceIndex (s : SrpState a t v) : Option ℕ :=
  s.sources.findIdx? fun x => decide (x.reservation.id = id)

def changeSource (k : ℕ) (f : AvbStreamState → AvbStreamState) (s : SrpState a t v) :
    SrpState a t v :=
  { s with sources :=
      s.sources.modify k fun x => { x with stream := { x.stream with state := f x.stream.state } } }

def setBwReserved (reserved : Bool) (s : SrpState a t v) : SrpState a t v :=
  match s.matchReservationEntryById id with
  | some j => s.setEntry j { s.table j with bwReserved := reserved }
  | none => { s with trapped := true }

def listenerJoinInd (four : ℕ) (s : SrpState a t v) : SrpState a t v :=
  match s.sourceIndex id with
  | some k =>
    if s.matchTypeNonPropAttribute .talkerAdvertise id = none then s
    else (s.setBwReserved id true).changeSource k fun state =>
      if state = .potential ∧ ListenerReady four then .enabled else state
  | none => s

def listenerLeaveInd (s : SrpState a t v) : SrpState a t v :=
  match s.sourceIndex id with
  | some k =>
    (s.setBwReserved id false).changeSource k fun state =>
      if state = .enabled then .potential else state
  | none => s

def setVlanFromDomain (vlanId : ℕ) (x : AvbEndpointInfo) : AvbEndpointInfo :=
  if x.reservation.vlanId = 0 then
    { x with reservation := { x.reservation with vlanId := UInt16.ofNat vlanId } }
  else x

def domainJoinInd : SrpState a t v :=
  { s with
    domain := { s.domain with boundaryPort := false }
    sources := s.sources.map (setVlanFromDomain s.domain.vlanId)
    sinks := s.sinks.map (setVlanFromDomain s.domain.vlanId) }

def domainLeaveInd : SrpState a t v :=
  { s with domain := { s.domain with boundaryPort := true } }

def talkerLeaveInd (j : ℕ) (s : SrpState a t v) : SrpState a t v :=
  s.setEntry j { s.table j with talkerPresent := false }

/-- `send_join_indication`.  With one port nothing is done about a talker. -/
def sendJoinIndication : SrpState a t v :=
  match x.attributeType, x.attributeInfo with
  | .listener, .stream j => s.listenerJoinInd (s.table j).reservation.id x.fourVectorParameter
  | .domainVector, _ => s.domainJoinInd
  | _, _ => s

def sendLeaveIndication : SrpState a t v :=
  match x.attributeType, x.attributeInfo with
  | .talkerAdvertise, .stream j => s.talkerLeaveInd j
  | .listener, .stream j => s.listenerLeaveInd (s.table j).reservation.id
  | .domainVector, _ => s.domainLeaveInd
  | _, _ => s

def sendIndications (s : SrpState a t v) : SrpState a t v :=
  let x := s.attrs i
  let s := if x.pendingJoinNew then s.sendJoinIndication x else s
  let s := if x.pendingJoin then s.sendJoinIndication x else s
  let s := if x.pendingLeave then s.sendLeaveIndication x else s
  s.setAttr i (clearPending x)

/-- Behind `hdr->src_addr` stands the ethertype. -/
def failureBridgeId : Vector UInt8 8 :=
  Vector.ofFn fun i : Fin 8 => if i.val < 2 then 0 else (s.srcAddr ++ s.headerType).get i

def convertTalker (s : SrpState a t v) : SrpState a t v :=
  let x := s.attrs i
  match x.attributeInfo with
  | .stream j =>
    let entry := s.table j
    if x.attributeType = .talkerAdvertise ∧ s.domain.boundaryPort then
      let s := s.setAttr i { x with attributeType := .talkerFailed }
      let s := s.setEntry j { entry with
        talkerPresent := false
        reservation := { entry.reservation with
          failureCode := 8
          failureBridgeId := s.failureBridgeId } }
      if x.here then s.madJoin true i else s
    else if x.attributeType = .talkerFailed ∧ ¬ s.domain.boundaryPort ∧
        entry.reservation.failureCode = 8 then
      let s := s.setAttr i { x with attributeType := .talkerAdvertise }
      let s := s.setEntry j { entry with talkerPresent := true }
      if x.here then s.madJoin true i else s
    else s
  | _ => s

def pollAttr (s : SrpState a t v) : SrpState a t v :=
  let r := avbTimerExpired s.now (s.attrs i).leaveTimer
  let s := s.tick.setAttr i { s.attrs i with leaveTimer := r.1 }
  if r.2 then s.updateState .leaveTimer 0 i else s

/-- One attribute in the last loop of `mrp_periodic`. -/
def periodicAttr : SrpState a t v :=
  if (s.attrs i).applicantState = .unused then s
  else ((s.sendIndications i).convertTalker i).pollAttr i

/-! ## The periodic function -/

/-- `compare_attr`.  A talker is compared by the byte of its stream id that stands where a
stream record has its local id. -/
def compareAttr (i j : Fin a) : Bool :=
  let x := s.attrs i
  let y := s.attrs j
  let entry (z : MrpAttribute) : AvbSrpInfo := match z.attributeInfo with
    | .stream j => (s.table j).reservation
    | _ => .zero
  let last (st : MrpApplicantState) (otherwise : Bool) :=
    if x.applicantState = st then decide (y.applicantState = st ∧ i < j)
    else decide (y.applicantState = st) || otherwise
  last .unused <| last .disabled <|
    if x.attributeType ≠ y.attributeType then
      decide (typeOrder x.attributeType < typeOrder y.attributeType)
    else
      match x.attributeType with
      | .talkerAdvertise =>
        decide ((entry x).streamId1.toNat / 256 % 256 < (entry y).streamId1.toNat / 256 % 256)
      | .listener => decide ((entry x).streamId < (entry y).streamId)
      | _ => decide (i < j)
where
  typeOrder : MrpAttributeType → ℕ
    | .talkerAdvertise => 0
    | .talkerFailed => 1
    | .listener => 2
    | .domainVector => 3
    | .macVector => 4
    | .vidVector => 5

def sortAttrs : SrpState a t v :=
  { s with order := sortList s.compareAttr s.order }

def readPeriodicTimer : SrpState a t v :=
  { s.tick with periodicTimer := (avbTimerExpired s.now s.periodicTimer).1 }

def startPeriodicTimer : SrpState a t v :=
  { s.tick with periodicTimer := startAvbTimer s.now 10 s.periodicTimer }

/-- The periodic timer in `mrp_periodic`. -/
def pollPeriodicTimer : SrpState a t v :=
  if (avbTimerExpired s.now s.periodicTimer).2 then
    (s.readPeriodicTimer.globalEvent .periodic).startPeriodicTimer
  else s.readPeriodicTimer

def readMsrpLeaveallTimer : SrpState a t v :=
  { s.tick with msrpLeaveallTimer := (avbTimerExpired s.now s.msrpLeaveallTimer).1 }

def startMsrpLeaveallTimer : SrpState a t v :=
  { s.tick with
    msrpLeaveallActive := true
    msrpLeaveallTimer := startAvbTimer s.now 10 s.msrpLeaveallTimer }

/-- The LeaveAll timer of MSRP in `mrp_periodic`. -/
def pollMsrpLeaveallTimer : SrpState a t v :=
  if (avbTimerExpired s.now s.msrpLeaveallTimer).2 then
    (s.readMsrpLeaveallTimer.msrpTypesEvent .receiveLeaveAll).startMsrpLeaveallTimer
  else s.readMsrpLeaveallTimer

def readMvrpLeaveallTimer : SrpState a t v :=
  { s.tick with mvrpLeaveallTimer := (avbTimerExpired s.now s.mvrpLeaveallTimer).1 }

def startMvrpLeaveallTimer : SrpState a t v :=
  { s.tick with
    mvrpLeaveallActive := true
    mvrpLeaveallTimer := startAvbTimer s.now 10 s.mvrpLeaveallTimer }

/-- The LeaveAll timer of MVRP in `mrp_periodic`. -/
def pollMvrpLeaveallTimer : SrpState a t v :=
  if (avbTimerExpired s.now s.mvrpLeaveallTimer).2 then
    (s.readMvrpLeaveallTimer.attributeTypeEvent .vidVector .receiveLeaveAll).startMvrpLeaveallTimer
  else s.readMvrpLeaveallTimer

def configure (etype : MrpEthertype) (s : SrpState a t v) : SrpState a t v :=
  { s with
    tx := configureSendBuffer etype s.tx
    headerType := match etype with
      | .srp => #v[0x22, 0xea]
      | .mvrp => #v[0x88, 0xf5] }

def sendLeaveAlls (types : List MrpAttributeType) (s : SrpState a t v) : SrpState a t v :=
  { s with tx := types.foldl (fun tx type => txLeaveAll s.srcAddr type tx) s.tx }

def flush : SrpState a t v := { s with tx := forceSend s.srcAddr s.tx }

def transmitMvrp : SrpState a t v :=
  let leaveAll := s.mvrpLeaveallActive
  let s := s.configure .mvrp
  let s := if leaveAll then
      { s.sendLeaveAlls [.vidVector] with mvrpLeaveallActive := false }
    else s
  (s.attributeTypeEvent .vidVector (txEvent leaveAll)).flush

def transmitMsrp : SrpState a t v :=
  let leaveAll := s.msrpLeaveallActive
  let s := s.configure .srp
  let s := if leaveAll then
      { s.sendLeaveAlls [.talkerAdvertise, .talkerFailed, .listener, .domainVector] with
        msrpLeaveallActive := false }
    else s
  (s.msrpTypesEvent (txEvent leaveAll)).flush

def readJoinTimer : SrpState a t v :=
  { s.tick with joinTimer := (avbTimerExpired s.now s.joinTimer).1 }

def startJoinTimer : SrpState a t v :=
  { s.tick with joinTimer := startAvbTimer s.now 20 s.joinTimer }

/-- The join timer in `mrp_periodic`, with the transmit opportunities it gives. -/
def pollJoinTimer : SrpState a t v :=
  if (avbTimerExpired s.now s.joinTimer).2 then
    s.readJoinTimer.startJoinTimer.sortAttrs.transmitMvrp.transmitMsrp
  else s.readJoinTimer

def periodic : SrpState a t v :=
  (List.finRange a).foldl periodicAttr
    s.pollPeriodicTimer.pollMsrpLeaveallTimer.pollMvrpLeaveallTimer.pollJoinTimer

end SrpState

/-- What happens to the task: the requests of the manager, a received frame, the link coming
up, a call of `mrp_periodic`, and what others do to the records of the manager. -/
inductive SrpEvent where
  | registerAttach (id : StreamId) (vlan : ℕ)
  | deregisterAttach (id : StreamId)
  | registerStream (r : AvbSrpInfo)
  | deregisterStream (id : StreamId)
  | leaveVlan (vlan : ℕ)
  | packet (frame : Mem) (nbytes : ℕ) (clock : ℕ → ℕ)
  | linkUp
  | periodic (clock : ℕ → ℕ)
  | manager (sources sinks : List AvbEndpointInfo)

/-- One event of `avb_srp_task`. -/
def srpStep {a t v : ℕ} (s : SrpState a t v) : SrpEvent → SrpState a t v
  | .registerAttach id vlan => s.joinListenerAttrs id vlan
  | .deregisterAttach id => s.leaveListenerAttrs id
  | .registerStream r => s.createAndJoinTalkerAdvertiseAttrs r
  | .deregisterStream id => s.leaveTalkerAttrs id
  | .leaveVlan vlan => s.leaveVlan vlan
  | .packet frame nbytes clock =>
    SrpState.processControlPacket frame nbytes { s with clock := clock }
  | .linkUp => s.domainJoin
  | .periodic clock => SrpState.periodic { s with clock := clock }
  | .manager sources sinks => { s with sources := sources, sinks := sinks }

/-- The task behind `mrp_init`, `srp_domain_init` and `avb_mvrp_init`, with `k` attributes
besides those of the domain and the VLANs, at local time `now`. -/
def srpInit (k t v : ℕ) (srcAddr : Vector UInt8 6) (now : ℕ) : SrpState (1 + v + k) t v where
  attrs := fun i =>
    if i.val = 0 then
      { MrpAttribute.zero with
        attributeType := .domainVector
        applicantState := .disabled
        here := true }
    else if i.val ≤ v then
      { MrpAttribute.zero with
        attributeType := .vidVector
        applicantState := .disabled
        here := true
        attributeInfo := .vlan (i.val - 1) }
    else .zero
  order := List.finRange (1 + v + k)
  requests := fun _ => none
  table := fun _ => .zero
  domain := ⟨true, 2⟩
  domainAttr := ⟨0, by omega⟩
  vlans := fun k => ⟨false, ⟨1 + k.val, by omega⟩, 0⟩
  periodicTimer := startAvbTimer now 10 (initAvbTimer 10 ⟨0, 0, 0, 0⟩)
  joinTimer := startAvbTimer now 20 (initAvbTimer 1 ⟨0, 0, 0, 0⟩)
  msrpLeaveallTimer := startAvbTimer now 10 (initAvbTimer 100 ⟨0, 0, 0, 0⟩)
  mvrpLeaveallTimer := startAvbTimer now 10 (initAvbTimer 100 ⟨0, 0, 0, 0⟩)
  msrpLeaveallActive := false
  mvrpLeaveallActive := false
  srcAddr := srcAddr
  headerType := #v[0, 0]
  tx := ⟨.mvrp, [], []⟩
  sources := []
  sinks := []
  clock := fun _ => now
  exhausted := false
  trapped := false
