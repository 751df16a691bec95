/-
# The machines of one MRP attribute

The registrar and the applicant of a full participant.  Each is a function of the
event; what an applicant transmits, and its state behind a transmission, are
functions of their own, since a transmission can remove the attribute in between.
-/
import LibTsn.MiscTimer
import LibTsn.MrpPdu

/-! ## States and events -/

inductive MrpApplicantState where
  | unused
  | disabled
  | vo
  | vp
  | vn
  | an
  | aa
  | qa
  | la
  | ao
  | qo
  | ap
  | qp
  | lo
  deriving DecidableEq, Repr

/-- An attribute that has begun: neither `MRP_UNUSED` nor `MRP_DISABLED`. -/
def MrpApplicantState.Begun (st : MrpApplicantState) : Prop := st ≠ .unused ∧ st ≠ .disabled
  deriving Decidable

inductive MrpRegistrarState where
  | registered
  | leaving
  | empty
  deriving DecidableEq, Repr

inductive MrpEvent where
  | begin
  | new
  | flush
  | join
  | lv
  | receiveNew
  | receiveJoinIn
  | receiveIn
  | receiveJoinMt
  | receiveMt
  | receiveLeave
  | receiveLeaveAll
  | redeclare
  | periodic
  | tx
  | txLeaveAll
  | leaveTimer
  deriving DecidableEq, Repr

inductive AttributeInfo where
  | null
  | stream (i : ℕ)
  | vlan (i : ℕ)
  deriving DecidableEq, Repr

/-- `mrp_attribute_state`.  The three bits of `pending_indications` are fields of their
own. -/
structure MrpAttribute where
  attributeType : MrpAttributeType
  applicantState : MrpApplicantState
  removeAfterNextTx : Bool
  registrarState : MrpRegistrarState
  leaveTimer : AvbTimer
  pendingJoinNew : Bool
  pendingJoin : Bool
  pendingLeave : Bool
  fourVectorParameter : ℕ
  here : Bool
  attributeInfo : AttributeInfo
  deriving DecidableEq, Repr

def MrpAttribute.zero : MrpAttribute where
  attributeType := .talkerAdvertise
  applicantState := .unused
  removeAfterNextTx := false
  registrarState := .registered
  leaveTimer := ⟨0, 0, 0, 0⟩
  pendingJoinNew := false
  pendingJoin := false
  pendingLeave := false
  fourVectorParameter := 0
  here := false
  attributeInfo := .null

/-! ## The registrar -/

def mrpLeavetimerPeriodCentiseconds : ℕ := 80

variable (a : MrpAttribute) (e : MrpEvent) {st : MrpApplicantState}

def stopLeaveTimer : MrpAttribute :=
  if a.registrarState = .leaving then { a with leaveTimer := stopAvbTimer a.leaveTimer } else a

variable (leaveAll : Bool) (four : ℕ)

def registrarNew (a : MrpAttribute) : MrpAttribute :=
  { stopLeaveTimer a with
    registrarState := .registered
    pendingJoinNew := true
    fourVectorParameter := four }

def registrarJoin (a : MrpAttribute) : MrpAttribute :=
  if a.registrarState = .empty
      ∨ (a.fourVectorParameter = FourPacked.askingFailed ∧ four = FourPacked.ready) then
    { stopLeaveTimer a with
      registrarState := .registered
      pendingJoin := true
      fourVectorParameter := four }
  else { stopLeaveTimer a with registrarState := .registered }

def registrarLeave (now : ℕ) (a : MrpAttribute) : MrpAttribute :=
  if a.registrarState = .registered then
    { a with
      leaveTimer := startAvbTimer now mrpLeavetimerPeriodCentiseconds a.leaveTimer
      registrarState := .leaving }
  else a

def registrarExpire (a : MrpAttribute) : MrpAttribute :=
  if a.registrarState = .leaving then
    { a with pendingLeave := true, fourVectorParameter := four, registrarState := .empty }
  else { a with registrarState := .empty }

def registrarEvent (now four : ℕ) (e : MrpEvent) (a : MrpAttribute) : MrpAttribute :=
  match e with
  | .begin => { a with registrarState := .empty }
  | .receiveNew => registrarNew four a
  | .receiveJoinIn | .receiveJoinMt => registrarJoin four a
  | .receiveLeave | .receiveLeaveAll | .txLeaveAll | .redeclare => registrarLeave now a
  | .leaveTimer | .flush => registrarExpire four a
  | _ => a

/-! ## The applicant -/

def applicantJoin : MrpApplicantState → MrpApplicantState
  | .vo | .lo => .vp
  | .la => .aa
  | .ao => .ap
  | .qo => .qp
  | st => st

def applicantLv : MrpApplicantState → MrpApplicantState
  | .qp => .qo
  | .ap => .ao
  | .vp => .vo
  | .vn | .an | .aa | .qa => .la
  | st => st

def applicantJoinIn : MrpApplicantState → MrpApplicantState
  | .aa => .qa
  | .ao => .qo
  | .ap => .qp
  | st => st

def applicantIn : MrpApplicantState → MrpApplicantState
  | .aa => .qa
  | st => st

def applicantMt : MrpApplicantState → MrpApplicantState
  | .qa => .aa
  | .qo => .ao
  | .qp => .ap
  | .lo => .vo
  | st => st

def applicantLeave : MrpApplicantState → MrpApplicantState
  | .vo | .ao | .qo => .lo
  | .an => .vn
  | .aa | .qa | .ap | .qp => .vp
  | st => st

def applicantPeriodic : MrpApplicantState → MrpApplicantState
  | .qa => .aa
  | .qp => .ap
  | st => st

def applicantEvent (e : MrpEvent) (st : MrpApplicantState) : MrpApplicantState :=
  match e with
  | .begin => .vo
  | .new => .vn
  | .join => applicantJoin st
  | .lv => applicantLv st
  | .receiveJoinIn => applicantMt (applicantIn (applicantJoinIn st))
  | .receiveIn => applicantMt (applicantIn st)
  | .receiveJoinMt | .receiveMt => applicantMt st
  | .receiveLeave | .receiveLeaveAll | .redeclare => applicantLeave st
  | .periodic => applicantPeriodic st
  | _ => st

def transmits : MrpApplicantState → Bool
  | .vp | .vn | .an | .aa | .la | .ap => true
  | .qa | .qp => leaveAll
  | .lo => !leaveAll
  | _ => false

def makeTxEvent (a : MrpAttribute) : MrpAttributeEvent :=
  let registered := decide (a.registrarState = .registered)
  match a.applicantState with
  | .vp | .aa | .ap | .qa | .qp =>
    if leaveAll && decide (a.applicantState = .vp) then
      if registered then .evIn else .evMt
    else if leaveAll || decide (a.applicantState ≠ .qp) then
      if registered then .evJoinIn else .evJoinMt
    else .evNew
  | .vn | .an => .evNew
  | .la => .evLv
  | .lo => if registered then .evIn else .evMt
  | _ => .evNew

/-- The applicant behind `MRP_EVENT_TX`. -/
def afterTx (registrar : MrpRegistrarState) : MrpApplicantState → MrpApplicantState
  | .vp => .aa
  | .vn => .an
  | .an => if registrar ≠ .registered then .aa else .qa
  | .aa | .ap => .qa
  | .la | .lo => .vo
  | st => st

/-- The applicant behind `MRP_EVENT_TX_LEAVE_ALL`. -/
def afterTxLeaveAll : MrpApplicantState → MrpApplicantState
  | .vo | .la | .ao | .qo => .lo
  | .vn => .an
  | .an | .aa | .ap | .qp => .qa
  | st => st

/-! ## One attribute -/

/-- `mrp_update_state`, for an attribute that its transmission does not remove, with the
event it transmits.  The registrar moves first. -/
def mrpUpdateState (now four : ℕ) (e : MrpEvent) (a : MrpAttribute) :
    MrpAttribute × Option MrpAttributeEvent :=
  let a := registrarEvent now four e a
  match e with
  | .tx =>
    ({ a with applicantState := afterTx a.registrarState a.applicantState },
      if transmits false a.applicantState then some (makeTxEvent false a) else none)
  | .txLeaveAll =>
    ({ a with applicantState := afterTxLeaveAll a.applicantState },
      if transmits true a.applicantState then some (makeTxEvent true a) else none)
  | e => ({ a with applicantState := applicantEvent e a.applicantState }, none)

/-- The event that `mrp_in` makes of a received three-packed event. -/
def mrpIn : MrpAttributeEvent → MrpEvent
  | .evNew => .receiveNew
  | .evJoinIn => .receiveJoinIn
  | .evIn => .receiveIn
  | .evJoinMt => .receiveJoinMt
  | .evMt => .receiveMt
  | .evLv => .receiveLeave

def mrpMadBegin : MrpAttribute :=
  (mrpUpdateState 0 0 .begin { a with leaveTimer := initAvbTimer 1 a.leaveTimer }).1

def mrpMadJoin (new : Bool) (a : MrpAttribute) : MrpAttribute :=
  (mrpUpdateState 0 0 (if new then .new else .join) { a with removeAfterNextTx := false }).1

def mrpMadLeave : MrpAttribute := (mrpUpdateState 0 0 .lv a).1

inductive MrpIndication where
  | joinNew
  | join
  | leave
  deriving DecidableEq, Repr

/-- The indications that `mrp_periodic` sends for an attribute, in its order. -/
def pendingIndications : List MrpIndication :=
  (if a.pendingJoinNew then [.joinNew] else []) ++ (if a.pendingJoin then [.join] else []) ++
    (if a.pendingLeave then [.leave] else [])

def clearPending : MrpAttribute :=
  { a with pendingJoinNew := false, pendingJoin := false, pendingLeave := false }

/-- The leave timer of an attribute in `mrp_periodic`. -/
def pollLeaveTimer (now : ℕ) (a : MrpAttribute) : MrpAttribute :=
  let expired := avbTimerExpired now a.leaveTimer
  if expired.2 then (mrpUpdateState now 0 .leaveTimer { a with leaveTimer := expired.1 }).1
  else { a with leaveTimer := expired.1 }

lemma begun_applicantEvent (h : st.Begun) : (applicantEvent e st).Begun := by
  revert h
  cases e <;> cases st <;> decide

lemma begun_afterTx (r : MrpRegistrarState) {st : MrpApplicantState} (h : st.Begun) :
    (afterTx r st).Begun := by
  revert h
  cases r <;> cases st <;> decide

lemma begun_afterTxLeaveAll (h : st.Begun) : (afterTxLeaveAll st).Begun := by
  revert h
  cases st <;> decide

lemma stopLeaveTimer_eq :
    stopLeaveTimer a = { a with leaveTimer := (stopLeaveTimer a).leaveTimer } := by
  unfold stopLeaveTimer
  split_ifs <;> rfl

/-- Only the variables of the registrar differ. -/
def RegistrarOnly (a b : MrpAttribute) : Prop :=
  b.attributeType = a.attributeType ∧ b.applicantState = a.applicantState ∧
    b.removeAfterNextTx = a.removeAfterNextTx ∧ b.here = a.here ∧
    b.attributeInfo = a.attributeInfo

lemma registrarEvent_frame (now four : ℕ) (e : MrpEvent) (a : MrpAttribute) :
    RegistrarOnly a (registrarEvent now four e a) := by
  have hjoin : RegistrarOnly a (registrarJoin four a) := by
    unfold registrarJoin
    rw [stopLeaveTimer_eq]
    split_ifs <;> exact ⟨rfl, rfl, rfl, rfl, rfl⟩
  have hleave : RegistrarOnly a (registrarLeave now a) := by
    unfold registrarLeave
    split_ifs <;> exact ⟨rfl, rfl, rfl, rfl, rfl⟩
  have hexpire : RegistrarOnly a (registrarExpire four a) := by
    unfold registrarExpire
    split_ifs <;> exact ⟨rfl, rfl, rfl, rfl, rfl⟩
  cases e with
  | receiveNew =>
    show RegistrarOnly a (registrarNew four a)
    rw [registrarNew, stopLeaveTimer_eq]
    exact ⟨rfl, rfl, rfl, rfl, rfl⟩
  | receiveJoinIn | receiveJoinMt => exact hjoin
  | receiveLeave | receiveLeaveAll | txLeaveAll | redeclare => exact hleave
  | leaveTimer | flush => exact hexpire
  | _ => exact ⟨rfl, rfl, rfl, rfl, rfl⟩
