/-
# Two MRP participants

Two participants hold the same attribute and are joined by two loss-free,
in-order channels.  A frame carries the event the sender's applicant has chosen,
and the mark of a LeaveAll.
-/
import LibTsn.MrpIndications

/-! ## The participants -/

structure MrpMessage where
  leaveAll : Bool
  event : Option MrpAttributeEvent
  deriving DecidableEq

structure MrpParticipant where
  attr : MrpAttribute
  leaveAllActive : Bool
  inbox : List MrpMessage
  deriving DecidableEq

inductive MadRequest where
  | join
  | new
  | leave
  deriving DecidableEq

inductive MrpAction where
  | request (r : MadRequest)
  | leaveAllTimer (now : ℕ)
  | tx (now : ℕ)
  | periodicTimer
  | poll (now : ℕ)
  | receive (now : ℕ)

def MadRequest.input : MadRequest → MrpInput
  | .join => .join false
  | .new => .join true
  | .leave => .leave

def txEvent (leaveAll : Bool) : MrpEvent := if leaveAll then .txLeaveAll else .tx

def txMessages (leaveAll : Bool) (event : Option MrpAttributeEvent) : List MrpMessage :=
  if leaveAll || event.isSome then [⟨leaveAll, event⟩] else []

def receiveMessage (now : ℕ) (m : MrpMessage) (a : MrpAttribute) : MrpAttribute :=
  let a := if m.leaveAll then mrpInput a (.leaveAll now) else a
  match m.event with
  | some e => mrpInput a (.received e 0 now)
  | none => a

variable (w : MrpPair) (p : MrpParticipant)

def mrpAct : MrpAction → MrpParticipant × List MrpMessage
  | .request r => ({ p with attr := mrpInput p.attr r.input }, [])
  | .leaveAllTimer now =>
    ({ p with attr := mrpInput p.attr (.leaveAll now), leaveAllActive := true }, [])
  | .tx now =>
    let out := mrpUpdateState now 0 (txEvent p.leaveAllActive) p.attr
    ({ p with attr := out.1, leaveAllActive := false }, txMessages p.leaveAllActive out.2)
  | .periodicTimer => ({ p with attr := mrpInput p.attr .periodicTimer }, [])
  | .poll now => ({ p with attr := mrpInput p.attr (.poll now) }, [])
  | .receive now =>
    match p.inbox with
    | [] => (p, [])
    | m :: rest =>
      ({ attr := receiveMessage now m p.attr
         leaveAllActive := p.leaveAllActive && !m.leaveAll
         inbox := rest }, [])

structure MrpPair where
  a : MrpParticipant
  b : MrpParticipant
  deriving DecidableEq

inductive MrpSide where
  | a
  | b
  deriving DecidableEq

variable (declares : Bool) (st : MrpApplicantState) (ms : List MrpMessage)

def MrpParticipant.send : MrpParticipant :=
  { p with inbox := p.inbox ++ ms }

def pairStep (e : MrpSide × MrpAction) : MrpPair :=
  match e.1 with
  | .a => ⟨(mrpAct w.a e.2).1, w.b.send (mrpAct w.a e.2).2⟩
  | .b => ⟨w.a.send (mrpAct w.b e.2).2, (mrpAct w.b e.2).1⟩

def pairBegin (a b : MrpAttribute) : MrpPair :=
  ⟨⟨mrpMadBegin a, false, []⟩, ⟨mrpMadBegin b, false, []⟩⟩

/-! ## The attribute of one participant -/

def Declaring : MrpApplicantState → Bool
  | .vp | .vn | .an | .aa | .qa => true
  | _ => false

def Observing : MrpApplicantState → Bool
  | .vo | .lo | .la => true
  | _ => false

def applicantInput : MrpInput → MrpApplicantState
  | .received e _ _ => applicantEvent (mrpIn e) st
  | .leaveAll _ => applicantLeave st
  | .join new => if new then .vn else applicantJoin st
  | .leave => applicantLv st
  | .periodicTimer => applicantPeriodic st
  | _ => st

section

variable {a : MrpAttribute}

lemma applicantState_mrpUpdateState (now four : ℕ) {e : MrpEvent} (htx : e ≠ .tx)
    (htx' : e ≠ .txLeaveAll) (a : MrpAttribute) :
    (mrpUpdateState now four e a).1.applicantState = applicantEvent e a.applicantState := by
  have hframe := (registrarEvent_frame now four e a).2.1
  cases e with
  | tx => exact absurd rfl htx
  | txLeaveAll => exact absurd rfl htx'
  | _ => simp only [mrpUpdateState, hframe]

lemma applicantState_mrpInput {i : MrpInput} (hi : ∀ leaveAll now, i ≠ .transmit leaveAll now)
    (a : MrpAttribute) : (mrpInput a i).applicantState = applicantInput a.applicantState i := by
  cases i with
  | received e four now =>
    exact applicantState_mrpUpdateState now four (by cases e <;> decide) (by cases e <;> decide) a
  | leaveAll now => exact applicantState_mrpUpdateState now 0 (by decide) (by decide) a
  | transmit leaveAll now => exact absurd rfl (hi leaveAll now)
  | join new => cases new <;> rfl
  | leave => rfl
  | periodicTimer => exact applicantState_mrpUpdateState 0 0 (by decide) (by decide) a
  | poll now =>
    show (pollLeaveTimer now (clearPending a)).applicantState = a.applicantState
    unfold pollLeaveTimer
    dsimp only
    split_ifs
    · exact applicantState_mrpUpdateState now 0 (by decide) (by decide) _
    · rfl

lemma quiet_of_applicantInput {st : MrpApplicantState} {i : MrpInput}
    (h : applicantInput st i = .qa) : st = .qa := by
  revert h
  cases i with
  | received e four now =>
    show applicantEvent (mrpIn e) st = .qa → st = .qa
    cases e <;> cases st <;> decide
  | leaveAll now =>
    show applicantLeave st = .qa → st = .qa
    cases st <;> decide
  | transmit leaveAll now => exact id
  | join new => cases new <;> cases st <;> decide
  | leave => cases st <;> decide
  | periodicTimer => cases st <;> decide
  | poll now => exact id

def registeredInput (registered : Bool) : MrpInput → Bool
  | .received .evNew _ _ | .received .evJoinIn _ _ | .received .evJoinMt _ _ => true
  | .received .evLv _ _ | .leaveAll _ | .transmit true _ => false
  | _ => registered

def MrpAttribute.isIn (a : MrpAttribute) : Bool := decide (a.registrarState = .registered)

lemma isIn_registrarLeave (now : ℕ) (a : MrpAttribute) : (registrarLeave now a).isIn = false := by
  unfold registrarLeave MrpAttribute.isIn
  split_ifs with h
  · rfl
  · exact decide_eq_false h

lemma isIn_mrpInput_of_unpolled {i : MrpInput} (hi : ∀ now, i ≠ .poll now) (a : MrpAttribute) :
    (mrpInput a i).isIn = registeredInput a.isIn i := by
  have hvars := congrArg RegistrarVars.registrar (registrarVars_mrpInput a i)
  have hisIn : (mrpInput a i).isIn =
      decide ((registrarVars (mrpInput a i)).registrar = .registered) := rfl
  rw [hisIn, hvars]
  have hjoin : ∀ four, (registrarJoin four a).isIn = true := by
    intro four
    unfold registrarJoin
    split_ifs <;> rfl
  cases i with
  | received e four now =>
    cases e with
    | evNew => rfl
    | evJoinIn => exact hjoin four
    | evJoinMt => exact hjoin four
    | evLv => exact isIn_registrarLeave now a
    | evIn => rfl
    | evMt => rfl
  | leaveAll now => exact isIn_registrarLeave now a
  | transmit leaveAll now =>
    cases leaveAll
    · rfl
    · exact isIn_registrarLeave now a
  | join new => rfl
  | leave => rfl
  | periodicTimer => rfl
  | poll now => exact absurd rfl (hi now)

lemma isIn_mrpInput (h : TimerSound (registrarVars a)) (i : MrpInput) :
    (mrpInput a i).isIn = registeredInput a.isIn i := by
  by_cases hpoll : ∃ now, i = .poll now
  · obtain ⟨now, rfl⟩ := hpoll
    have hclear : TimerSound (registrarVars (clearPending a)) := ⟨h.once, h.active⟩
    show decide ((pollLeaveTimer now (clearPending a)).registrarState = .registered) = a.isIn
    obtain ⟨-, timer, hvars | ⟨hleaving, hvars⟩⟩ := pollLeaveTimer_cases hclear now
    · exact congrArg (fun v => decide (v.registrar = .registered)) hvars
    · have hleaving : a.registrarState = .leaving := hleaving
      unfold MrpAttribute.isIn
      rw [hleaving]
      exact congrArg (fun v => decide (v.registrar = .registered)) hvars
  · exact isIn_mrpInput_of_unpolled (not_exists.mp hpoll) a

end

/-! ## Frames -/

def registeredAfter (registered : Bool) (m : MrpMessage) : Bool :=
  let registered := if m.leaveAll then false else registered
  match m.event with
  | some e => registeredInput registered (.received e 0 0)
  | none => registered

def MrpParticipant.willBeIn : Bool :=
  p.inbox.foldl registeredAfter p.attr.isIn

def isDeclaration : Option MrpAttributeEvent → Bool
  | some .evNew | some .evJoinIn | some .evJoinMt => true
  | _ => false

def HasMark : Prop := ∃ m ∈ ms, m.leaveAll = true

section

variable {a : MrpAttribute}

lemma isIn_receiveMessage (now : ℕ) (m : MrpMessage) (a : MrpAttribute) :
    (receiveMessage now m a).isIn = registeredAfter a.isIn m := by
  obtain ⟨leaveAll, event⟩ := m
  have hevent : ∀ e a', (mrpInput a' (.received e 0 now)).isIn =
      registeredInput a'.isIn (.received e 0 0) := by
    intro e a'
    rw [isIn_mrpInput_of_unpolled (by intro _ h; cases h)]
    cases e <;> rfl
  have hleft : (mrpInput a (.leaveAll now)).isIn = false :=
    isIn_mrpInput_of_unpolled (by intro _ h; cases h) a
  cases event with
  | none =>
    cases leaveAll
    · rfl
    · exact hleft
  | some e =>
    cases leaveAll
    · exact hevent e a
    · have hafter := hevent e (mrpInput a (.leaveAll now))
      rw [hleft] at hafter
      exact hafter

lemma timerSound_receiveMessage (h : TimerSound (registrarVars a)) (now : ℕ) (m : MrpMessage) :
    TimerSound (registrarVars (receiveMessage now m a)) := by
  unfold receiveMessage
  dsimp only
  have hmark : TimerSound (registrarVars
      (if m.leaveAll then mrpInput a (.leaveAll now) else a)) := by
    split_ifs
    · exact timerSound_mrpInput h _
    · exact h
  cases m.event with
  | none => exact hmark
  | some e => exact timerSound_mrpInput hmark _

lemma applicantState_receiveMessage {now : ℕ} {m : MrpMessage}
    (h : (receiveMessage now m a).applicantState = .qa) :
    m.leaveAll = false ∧ a.applicantState = .qa := by
  obtain ⟨leaveAll, event⟩ := m
  have hevent : ∀ e st, applicantEvent (mrpIn e) st = .qa → st = .qa :=
    fun e st h => quiet_of_applicantInput (i := .received e 0 0) h
  have hleave : ∀ st, applicantLeave st ≠ .qa := by
    intro st
    cases st <;> decide
  have hreceived : ∀ e four now a', (mrpInput a' (.received e four now)).applicantState =
      applicantEvent (mrpIn e) a'.applicantState := by
    intro e four now a'
    exact applicantState_mrpInput (by intro _ _ h; cases h) a'
  have hleft : (mrpInput a (.leaveAll now)).applicantState = applicantLeave a.applicantState :=
    applicantState_mrpInput (by intro _ _ h; cases h) a
  cases leaveAll
  · refine ⟨rfl, ?_⟩
    cases event with
    | none => exact h
    | some e =>
      have h : (mrpInput a (.received e 0 now)).applicantState = .qa := h
      rw [hreceived] at h
      exact hevent _ _ h
  · exfalso
    cases event with
    | none =>
      have h : (mrpInput a (.leaveAll now)).applicantState = .qa := h
      rw [hleft] at h
      exact hleave _ h
    | some e =>
      have h : (mrpInput (mrpInput a (.leaveAll now)) (.received e 0 now)).applicantState = .qa := h
      rw [hreceived, hleft] at h
      exact hleave _ (hevent _ _ h)

lemma foldl_registeredAfter_of_hasMark {ms : List MrpMessage} (h : HasMark ms) (r r' : Bool) :
    ms.foldl registeredAfter r = ms.foldl registeredAfter r' := by
  induction ms generalizing r r' with
  | nil =>
    obtain ⟨m, hm, -⟩ := h
    cases hm
  | cons m ms ih =>
    by_cases hmark : m.leaveAll = true
    · have hsame : registeredAfter r m = registeredAfter r' m := by
        unfold registeredAfter
        rw [if_pos hmark, if_pos hmark]
      rw [List.foldl_cons, List.foldl_cons, hsame]
    · obtain ⟨m', hm', hmark'⟩ := h
      rcases List.mem_cons.mp hm' with rfl | hrest
      · exact absurd hmark' hmark
      · exact ih ⟨m', hrest, hmark'⟩ _ _

lemma registeredAfter_of_declaration {event : Option MrpAttributeEvent}
    (h : isDeclaration event = true) (r leaveAll : Bool) :
    registeredAfter r ⟨leaveAll, event⟩ = true := by
  cases event with
  | none => cases h
  | some e => cases e <;> first | rfl | cases h

lemma isSome_of_isDeclaration {event : Option MrpAttributeEvent}
    (h : isDeclaration event = true) : event.isSome = true := by
  cases event with
  | none => cases h
  | some e => rfl

end

/-! ## Transmissions -/

section

variable {now : ℕ} {leaveAll : Bool} {a : MrpAttribute}

lemma txEvent_eq_some (now : ℕ) (leaveAll : Bool) (a : MrpAttribute) :
    (mrpUpdateState now 0 (txEvent leaveAll) a).2 =
      if transmits leaveAll a.applicantState then
        some (makeTxEvent leaveAll (registrarEvent now 0 (txEvent leaveAll) a))
      else none := by
  have hframe := (registrarEvent_frame now 0 (txEvent leaveAll) a).2.1
  cases leaveAll
  · show (if transmits false (registrarEvent now 0 .tx a).applicantState then _ else _) = _
    rfl
  · show (if transmits true (registrarEvent now 0 .txLeaveAll a).applicantState then _ else _) = _
    rw [show (registrarEvent now 0 .txLeaveAll a).applicantState = _ from hframe]

lemma applicantState_tx (now : ℕ) (leaveAll : Bool) (a : MrpAttribute) :
    (mrpUpdateState now 0 (txEvent leaveAll) a).1.applicantState =
      if leaveAll then afterTxLeaveAll a.applicantState
      else afterTx a.registrarState a.applicantState := by
  have hframe := (registrarEvent_frame now 0 (txEvent leaveAll) a).2.1
  cases leaveAll
  · rfl
  · show afterTxLeaveAll (registrarEvent now 0 .txLeaveAll a).applicantState = _
    rw [show (registrarEvent now 0 .txLeaveAll a).applicantState = _ from hframe]
    rfl

lemma makeTxEvent_registrarEvent (now : ℕ) (leaveAll : Bool) (a : MrpAttribute) :
    ∃ registrar, makeTxEvent leaveAll (registrarEvent now 0 (txEvent leaveAll) a) =
      makeTxEvent leaveAll { MrpAttribute.zero with
        applicantState := a.applicantState, registrarState := registrar } := by
  have hframe := (registrarEvent_frame now 0 (txEvent leaveAll) a).2.1
  refine ⟨(registrarEvent now 0 (txEvent leaveAll) a).registrarState, ?_⟩
  unfold makeTxEvent
  rw [hframe]

lemma quiet_of_tx (h : (mrpUpdateState now 0 (txEvent leaveAll) a).1.applicantState = .qa) :
    isDeclaration (mrpUpdateState now 0 (txEvent leaveAll) a).2 = true ∨
      leaveAll = false ∧ a.applicantState = .qa ∧
        (mrpUpdateState now 0 (txEvent leaveAll) a).2 = none := by
  rw [applicantState_tx] at h
  obtain ⟨registrar, hmake⟩ := makeTxEvent_registrarEvent now leaveAll a
  rw [txEvent_eq_some, hmake]
  generalize a.applicantState = st at h ⊢
  generalize a.registrarState = r at h
  revert h
  cases leaveAll <;> cases st <;> cases registrar <;> cases r <;> decide

lemma declares_of_tx (h : Declaring a.applicantState = true) :
    isDeclaration (mrpUpdateState now 0 (txEvent false) a).2 = true ∨
      a.applicantState = .qa ∧ (mrpUpdateState now 0 (txEvent false) a).2 = none := by
  obtain ⟨registrar, hmake⟩ := makeTxEvent_registrarEvent now false a
  rw [txEvent_eq_some, hmake]
  generalize a.applicantState = st at h ⊢
  revert h
  cases st <;> cases registrar <;> decide

lemma not_declares_of_tx (h : Observing a.applicantState = true) :
    isDeclaration (mrpUpdateState now 0 (txEvent leaveAll) a).2 = false := by
  obtain ⟨registrar, hmake⟩ := makeTxEvent_registrarEvent now leaveAll a
  rw [txEvent_eq_some, hmake]
  generalize a.applicantState = st at h ⊢
  revert h
  cases leaveAll <;> cases st <;> cases registrar <;> decide

lemma declaring_tx (h : Declaring a.applicantState = true) :
    Declaring (mrpUpdateState now 0 (txEvent leaveAll) a).1.applicantState = true := by
  rw [applicantState_tx]
  generalize a.applicantState = st at h ⊢
  generalize a.registrarState = r
  revert h
  cases leaveAll <;> cases st <;> cases r <;> decide

lemma observing_tx (h : Observing a.applicantState = true) :
    Observing (mrpUpdateState now 0 (txEvent leaveAll) a).1.applicantState = true := by
  rw [applicantState_tx]
  generalize a.applicantState = st at h ⊢
  generalize a.registrarState = r
  revert h
  cases leaveAll <;> cases st <;> cases r <;> decide

end

/-! ## What a quiet applicant knows -/

structure QuietHeard (w : MrpPair) : Prop where
  timerA : TimerSound (registrarVars w.a.attr)
  timerB : TimerSound (registrarVars w.b.attr)
  heard : w.a.attr.applicantState = .qa →
    w.b.willBeIn = true ∨ HasMark w.a.inbox ∨ w.b.leaveAllActive = true
  again : w.a.attr.applicantState = .qa → HasMark w.b.inbox → w.b.willBeIn = true

section

variable {w : MrpPair}

lemma willBeIn_send (p : MrpParticipant) (ms : List MrpMessage) :
    (p.send ms).willBeIn = ms.foldl registeredAfter p.willBeIn :=
  List.foldl_append

lemma HasMark.append_left {ms : List MrpMessage} (h : HasMark ms) (ms' : List MrpMessage) :
    HasMark (ms ++ ms') := by
  obtain ⟨m, hm, hmark⟩ := h
  exact ⟨m, List.mem_append_left _ hm, hmark⟩

lemma send_nil (p : MrpParticipant) : p.send [] = p := by
  unfold MrpParticipant.send
  rw [List.append_nil]

variable {p : MrpParticipant}

lemma mrpAct_receive_nil (hinbox : p.inbox = []) (now : ℕ) : mrpAct p (.receive now) = (p, []) := by
  unfold mrpAct
  rw [hinbox]

lemma mrpAct_receive_cons {m : MrpMessage} {rest : List MrpMessage}
    (hinbox : p.inbox = m :: rest) (now : ℕ) : mrpAct p (.receive now) =
      (⟨receiveMessage now m p.attr, p.leaveAllActive && !m.leaveAll, rest⟩, []) := by
  unfold mrpAct
  rw [hinbox]

lemma timerSound_mrpAct (h : TimerSound (registrarVars p.attr)) (act : MrpAction) :
    TimerSound (registrarVars (mrpAct p act).1.attr) := by
  cases act with
  | request r => exact timerSound_mrpInput h _
  | leaveAllTimer now => exact timerSound_mrpInput h _
  | tx now =>
    show TimerSound (registrarVars (mrpUpdateState now 0 (txEvent p.leaveAllActive) p.attr).1)
    cases p.leaveAllActive
    · exact timerSound_mrpInput h (.transmit false now)
    · exact timerSound_mrpInput h (.transmit true now)
  | periodicTimer => exact timerSound_mrpInput h _
  | poll now => exact timerSound_mrpInput h _
  | receive now =>
    cases hinbox : p.inbox with
    | nil =>
      rw [mrpAct_receive_nil hinbox]
      exact h
    | cons m rest =>
      rw [mrpAct_receive_cons hinbox]
      exact timerSound_receiveMessage h now m

lemma QuietHeard.of_silent (h : QuietHeard w) {act : MrpAction} (hout : (mrpAct w.a act).2 = [])
    (hquiet : (mrpAct w.a act).1.attr.applicantState = .qa →
      w.a.attr.applicantState = .qa ∧ (HasMark w.a.inbox → HasMark (mrpAct w.a act).1.inbox)) :
    QuietHeard (pairStep w (.a, act)) := by
  have hb : (pairStep w (.a, act)).b = w.b := by
    show w.b.send (mrpAct w.a act).2 = w.b
    rw [hout, send_nil]
  refine ⟨timerSound_mrpAct h.timerA act, ?_, fun hq => ?_, fun hq => ?_⟩
  · rw [hb]
    exact h.timerB
  · obtain ⟨hq, hmark⟩ := hquiet hq
    rw [hb]
    exact (h.heard hq).imp_right (Or.imp_left hmark)
  · rw [hb]
    exact h.again (hquiet hq).1

lemma quietHeard_step_a (h : QuietHeard w) (act : MrpAction) :
    QuietHeard (pairStep w (.a, act)) := by
  have hinput : ∀ i : MrpInput, (∀ leaveAll now, i ≠ .transmit leaveAll now) →
      (mrpInput w.a.attr i).applicantState = .qa → w.a.attr.applicantState = .qa := by
    intro i hi hq
    rw [applicantState_mrpInput hi] at hq
    exact quiet_of_applicantInput hq
  cases act with
  | request r =>
    refine h.of_silent rfl fun hq => ⟨hinput r.input ?_ hq, id⟩
    intro _ _ hr
    cases r <;> cases hr
  | leaveAllTimer now =>
    refine h.of_silent rfl fun hq => ⟨hinput (.leaveAll now) ?_ hq, id⟩
    intro _ _ hi
    cases hi
  | tx now =>
    -- an applicant that becomes quiet has just declared
    have hmessages : (pairStep w (.a, .tx now)).a.attr.applicantState = .qa →
        (mrpAct w.a (.tx now)).2 = [] ∧ w.a.attr.applicantState = .qa ∨
          (pairStep w (.a, .tx now)).b.willBeIn = true := by
      intro hq
      have hout : (mrpAct w.a (.tx now)).2 = txMessages w.a.leaveAllActive
        (mrpUpdateState now 0 (txEvent w.a.leaveAllActive) w.a.attr).2 := rfl
      have hb : (pairStep w (.a, .tx now)).b = w.b.send (mrpAct w.a (.tx now)).2 := rfl
      rw [hb, willBeIn_send, hout]
      rcases quiet_of_tx hq with hdeclares | ⟨hidle, hq, hnone⟩
      · right
        have hsome := isSome_of_isDeclaration hdeclares
        rw [txMessages, if_pos (by rw [hsome, Bool.or_true])]
        exact registeredAfter_of_declaration hdeclares _ _
      · left
        rw [hnone, hidle]
        exact ⟨rfl, hq⟩
    have hb : (mrpAct w.a (.tx now)).2 = [] → (pairStep w (.a, .tx now)).b = w.b := by
      intro hout
      show w.b.send (mrpAct w.a (.tx now)).2 = w.b
      rw [hout, send_nil]
    refine ⟨timerSound_mrpAct h.timerA _, h.timerB, fun hq => ?_, fun hq hmark => ?_⟩
    · rcases hmessages hq with ⟨hout, hq⟩ | hin
      · rw [hb hout]
        exact h.heard hq
      · exact Or.inl hin
    · rcases hmessages hq with ⟨hout, hq⟩ | hin
      · rw [hb hout] at hmark ⊢
        exact h.again hq hmark
      · exact hin
  | periodicTimer =>
    refine h.of_silent rfl fun hq => ⟨hinput .periodicTimer ?_ hq, id⟩
    intro _ _ hi
    cases hi
  | poll now =>
    refine h.of_silent rfl fun hq => ⟨hinput (.poll now) ?_ hq, id⟩
    intro _ _ hi
    cases hi
  | receive now =>
    cases hinbox : w.a.inbox with
    | nil =>
      have hact := mrpAct_receive_nil hinbox now
      refine h.of_silent (by rw [hact]) fun hq => ?_
      rw [hact] at hq ⊢
      exact ⟨hq, id⟩
    | cons m rest =>
      have hact := mrpAct_receive_cons hinbox now
      refine h.of_silent (by rw [hact]) fun hq => ?_
      rw [hact] at hq ⊢
      obtain ⟨hplain, hq⟩ := applicantState_receiveMessage hq
      refine ⟨hq, ?_⟩
      rintro ⟨m', hm', hmark⟩
      rw [hinbox] at hm'
      rcases List.mem_cons.mp hm' with rfl | hrest
      · exact absurd (hplain.symm.trans hmark) Bool.false_ne_true
      · exact ⟨m', hrest, hmark⟩

lemma QuietHeard.of_inbox (h : QuietHeard w) {act : MrpAction}
    (hinbox : (mrpAct w.b act).1.inbox = w.b.inbox)
    (hkeeps : (mrpAct w.b act).1.attr.isIn = w.b.attr.isIn ∧
        (mrpAct w.b act).1.leaveAllActive = w.b.leaveAllActive ∨
      HasMark (mrpAct w.b act).2 ∨ (mrpAct w.b act).1.leaveAllActive = true) :
    QuietHeard (pairStep w (.b, act)) := by
  refine ⟨h.timerA, timerSound_mrpAct h.timerB act, fun hq => ?_, fun hq hmark => ?_⟩
  · show (mrpAct w.b act).1.willBeIn = true ∨ HasMark (w.a.inbox ++ (mrpAct w.b act).2) ∨
      (mrpAct w.b act).1.leaveAllActive = true
    rcases hkeeps with ⟨hin, hactive⟩ | ⟨m, hm, hmark⟩ | hactive
    · unfold MrpParticipant.willBeIn
      rw [hinbox, hin, hactive]
      exact (h.heard hq).imp_right (Or.imp_left fun hmark => hmark.append_left _)
    · exact Or.inr (Or.inl ⟨m, List.mem_append_right _ hm, hmark⟩)
    · exact Or.inr (Or.inr hactive)
  · have hmark : HasMark w.b.inbox := hinbox ▸ hmark
    show (mrpAct w.b act).1.inbox.foldl registeredAfter _ = true
    rw [hinbox, foldl_registeredAfter_of_hasMark hmark _ w.b.attr.isIn]
    exact h.again hq hmark

lemma quietHeard_step_b (h : QuietHeard w) (act : MrpAction) :
    QuietHeard (pairStep w (.b, act)) := by
  cases act with
  | request r =>
    refine h.of_inbox rfl (Or.inl ⟨?_, rfl⟩)
    show (mrpInput w.b.attr r.input).isIn = _
    rw [isIn_mrpInput h.timerB]
    cases r <;> rfl
  | leaveAllTimer now => exact h.of_inbox rfl (Or.inr (Or.inr rfl))
  | tx now =>
    refine h.of_inbox rfl ?_
    have hout : (mrpAct w.b (.tx now)).2 = txMessages w.b.leaveAllActive
      (mrpUpdateState now 0 (txEvent w.b.leaveAllActive) w.b.attr).2 := rfl
    have hin : (mrpAct w.b (.tx now)).1.attr =
      (mrpUpdateState now 0 (txEvent w.b.leaveAllActive) w.b.attr).1 := rfl
    rw [hout, hin]
    cases hactive : w.b.leaveAllActive with
    | false => exact Or.inl ⟨isIn_mrpInput h.timerB (.transmit false now), rfl⟩
    | true => exact Or.inr (Or.inl ⟨_, List.mem_singleton_self _, rfl⟩)
  | periodicTimer => exact h.of_inbox rfl (Or.inl ⟨isIn_mrpInput h.timerB .periodicTimer, rfl⟩)
  | poll now => exact h.of_inbox rfl (Or.inl ⟨isIn_mrpInput h.timerB (.poll now), rfl⟩)
  | receive now =>
    cases hinbox : w.b.inbox with
    | nil =>
      have hact := mrpAct_receive_nil hinbox now
      exact h.of_inbox (by rw [hact]) (Or.inl (by rw [hact]; exact ⟨rfl, rfl⟩))
    | cons m rest =>
      have hact := mrpAct_receive_cons hinbox now
      have hstep : pairStep w (.b, .receive now) = ⟨w.a,
          ⟨receiveMessage now m w.b.attr, w.b.leaveAllActive && !m.leaveAll, rest⟩⟩ := by
        show (⟨w.a.send (mrpAct w.b (.receive now)).2, (mrpAct w.b (.receive now)).1⟩ : MrpPair) = _
        rw [hact, send_nil]
      -- what will be registered in the end does not change when a message arrives
      have hwill :
          rest.foldl registeredAfter (receiveMessage now m w.b.attr).isIn = w.b.willBeIn := by
        unfold MrpParticipant.willBeIn
        rw [isIn_receiveMessage, hinbox]
        rfl
      rw [hstep]
      refine ⟨h.timerA, timerSound_receiveMessage h.timerB now m, fun hq => ?_, ?_⟩
      · show rest.foldl registeredAfter _ = true ∨ HasMark w.a.inbox ∨
          (w.b.leaveAllActive && !m.leaveAll) = true
        rw [hwill]
        cases hmark : m.leaveAll with
        | false =>
          rw [Bool.not_false, Bool.and_true]
          exact h.heard hq
        | true =>
          refine Or.inl (h.again hq ⟨m, ?_, hmark⟩)
          rw [hinbox]
          exact List.mem_cons_self
      · rintro hq ⟨m', hm', hmark⟩
        show rest.foldl registeredAfter _ = true
        rw [hwill]
        refine h.again hq ⟨m', ?_, hmark⟩
        rw [hinbox]
        exact List.mem_cons_of_mem _ hm'

lemma quietHeard_step (h : QuietHeard w) (e : MrpSide × MrpAction) : QuietHeard (pairStep w e) := by
  obtain ⟨side, act⟩ := e
  cases side with
  | a => exact quietHeard_step_a h act
  | b => exact quietHeard_step_b h act

lemma quietHeard_pairBegin (a b : MrpAttribute) : QuietHeard (pairBegin a b) :=
  ⟨timerSound_mrpMadBegin a, timerSound_mrpMadBegin b, (by intro h; cases h), (by intro h; cases h)⟩

end

/-! ## What the declaring end has been asked for -/

def declaresAfter : MrpSide × MrpAction → Bool
  | (.a, .request .leave) => false
  | (.a, .request _) => true
  | _ => declares

def FitsRequest : Bool :=
  if declares then Declaring st else Observing st

def MrpInput.isOwn : MrpInput → Bool
  | .transmit _ _ | .join _ | .leave => true
  | _ => false

section

variable {w : MrpPair} {declares : Bool}

lemma fitsRequest_mrpInput {a : MrpAttribute} (h : FitsRequest declares a.applicantState = true)
    {i : MrpInput} (hi : i.isOwn = false) :
    FitsRequest declares (mrpInput a i).applicantState = true := by
  have htransmit : ∀ leaveAll now, i ≠ .transmit leaveAll now := by
    rintro leaveAll now rfl
    cases hi
  rw [applicantState_mrpInput htransmit]
  generalize a.applicantState = st at h ⊢
  revert h
  cases i with
  | received e four now =>
    show _ → FitsRequest declares (applicantEvent (mrpIn e) st) = true
    cases declares <;> cases e <;> cases st <;> decide
  | leaveAll now =>
    show _ → FitsRequest declares (applicantLeave st) = true
    cases declares <;> cases st <;> decide
  | transmit leaveAll now => cases hi
  | join new => cases hi
  | leave => cases hi
  | periodicTimer => cases declares <;> cases st <;> decide
  | poll now => exact id

lemma fitsRequest_receiveMessage {a : MrpAttribute}
    (h : FitsRequest declares a.applicantState = true) (now : ℕ) (m : MrpMessage) :
    FitsRequest declares (receiveMessage now m a).applicantState = true := by
  have hmark : FitsRequest declares
      (if m.leaveAll then mrpInput a (.leaveAll now) else a).applicantState = true := by
    split_ifs
    · exact fitsRequest_mrpInput h rfl
    · exact h
  unfold receiveMessage
  dsimp only
  cases m.event with
  | none => exact hmark
  | some e => exact fitsRequest_mrpInput hmark rfl

/-- **Requests.**  Whatever happens, the applicant of the first end declares exactly if the
last request there was to. -/
theorem fitsRequest_step (h : FitsRequest declares w.a.attr.applicantState = true)
    (e : MrpSide × MrpAction) :
    FitsRequest (declaresAfter declares e) (pairStep w e).a.attr.applicantState = true := by
  obtain ⟨side, act⟩ := e
  cases side with
  | b => exact h
  | a =>
    cases act with
    | request r =>
      have hst : (pairStep w (.a, .request r)).a.attr.applicantState =
          applicantInput w.a.attr.applicantState r.input :=
        applicantState_mrpInput (by intro _ _ hr; cases r <;> cases hr) _
      rw [hst]
      generalize w.a.attr.applicantState = st at h
      revert h
      cases r <;> cases declares <;> cases st <;> decide
    | leaveAllTimer now => exact fitsRequest_mrpInput h rfl
    | tx now =>
      cases declares
      · exact observing_tx h
      · exact declaring_tx h
    | periodicTimer => exact fitsRequest_mrpInput h rfl
    | poll now => exact fitsRequest_mrpInput h rfl
    | receive now =>
      show FitsRequest declares (mrpAct w.a (.receive now)).1.attr.applicantState = true
      cases hinbox : w.a.inbox with
      | nil =>
        rw [mrpAct_receive_nil hinbox]
        exact h
      | cons m rest =>
        rw [mrpAct_receive_cons hinbox]
        exact fitsRequest_receiveMessage h now m

lemma fitsRequest_runFrom (h : FitsRequest declares w.a.attr.applicantState = true)
    (es : List (MrpSide × MrpAction)) : FitsRequest (Run.runFrom declaresAfter declares es)
      (Run.runFrom pairStep w es).a.attr.applicantState = true := by
  induction es generalizing w declares with
  | nil => exact h
  | cons e es ih => exact ih (fitsRequest_step h e)

end

/-! ## Convergence -/

def Unrequested : MrpSide × MrpAction → Bool
  | (.a, .request _) => false
  | _ => true

def Unprompted : MrpSide × MrpAction → Bool
  | (.a, .request _) => false
  | (_, .leaveAllTimer _) => false
  | _ => true

def Drained : Prop := w.a.inbox = [] ∧ w.b.inbox = []
  deriving Decidable

def LeaveAllIdle : Prop :=
  w.a.leaveAllActive = false ∧ w.b.leaveAllActive = false
  deriving Decidable

def transmissions (es : List (MrpSide × MrpAction)) : ℕ :=
  es.countP fun e => match e with
    | (.a, .tx _) => true
    | _ => false

structure Declared (w : MrpPair) : Prop where
  quiet : QuietHeard w
  declaring : FitsRequest true w.a.attr.applicantState = true
  idle : LeaveAllIdle w
  unmarked : ¬ HasMark w.a.inbox
  declarations : ∀ m ∈ w.b.inbox, m.leaveAll = false ∧ isDeclaration m.event = true

section

variable {w : MrpPair}
variable {p : MrpParticipant} {act : MrpAction} {m : MrpMessage}

lemma mem_mrpAct (hm : m ∈ (mrpAct p act).2) :
    ∃ now, m = ⟨p.leaveAllActive, (mrpUpdateState now 0 (txEvent p.leaveAllActive) p.attr).2⟩ ∧
      (p.leaveAllActive || m.event.isSome) = true := by
  cases act with
  | tx now =>
    refine ⟨now, ?_⟩
    have hm : m ∈ txMessages p.leaveAllActive
      (mrpUpdateState now 0 (txEvent p.leaveAllActive) p.attr).2 := hm
    unfold txMessages at hm
    split_ifs at hm with hsome
    · obtain rfl := List.mem_singleton.mp hm
      exact ⟨rfl, hsome⟩
    · cases hm
  | receive now =>
    cases hinbox : p.inbox with
    | nil =>
      rw [mrpAct_receive_nil hinbox] at hm
      cases hm
    | cons m' rest =>
      rw [mrpAct_receive_cons hinbox] at hm
      cases hm
  | _ => cases hm

lemma isDeclaration_of_mem_mrpAct (hidle : p.leaveAllActive = false)
    (hdeclaring : Declaring p.attr.applicantState = true) (hm : m ∈ (mrpAct p act).2) :
    isDeclaration m.event = true := by
  obtain ⟨now, rfl, hsome⟩ := mem_mrpAct hm
  rw [hidle] at hsome ⊢
  rcases declares_of_tx hdeclaring with h | ⟨-, hnone⟩
  · exact h
  · rw [hnone] at hsome
    cases hsome

lemma idle_mrpAct (hidle : p.leaveAllActive = false) {act : MrpAction}
    (hact : ∀ now, act ≠ .leaveAllTimer now) : (mrpAct p act).1.leaveAllActive = false := by
  cases act with
  | leaveAllTimer now => exact absurd rfl (hact now)
  | receive now =>
    cases hinbox : p.inbox with
    | nil =>
      rw [mrpAct_receive_nil hinbox]
      exact hidle
    | cons m rest =>
      rw [mrpAct_receive_cons hinbox]
      show (p.leaveAllActive && !m.leaveAll) = false
      rw [hidle, Bool.false_and]
  | tx now => rfl
  | _ => exact hidle

lemma mem_inbox_of_mrpAct (hm : m ∈ (mrpAct p act).1.inbox) : m ∈ p.inbox := by
  cases act with
  | receive now =>
    cases hinbox : p.inbox with
    | nil =>
      rw [mrpAct_receive_nil hinbox, hinbox] at hm
      exact hm
    | cons m' rest =>
      rw [mrpAct_receive_cons hinbox] at hm
      exact List.mem_cons_of_mem _ hm
  | _ => exact hm

lemma declared_step (h : Declared w) {e : MrpSide × MrpAction} (he : Unprompted e = true) :
    Declared (pairStep w e) := by
  obtain ⟨side, act⟩ := e
  have htimer : ∀ now, act ≠ .leaveAllTimer now := by
    rintro now rfl
    cases side <;> cases he
  have hdeclares : declaresAfter true (side, act) = true := by
    cases side with
    | b => rfl
    | a =>
      cases act with
      | request r => cases he
      | _ => rfl
  have hdeclaring := fitsRequest_step h.declaring (side, act)
  rw [hdeclares] at hdeclaring
  obtain ⟨hidleA, hidleB⟩ := h.idle
  cases side with
  | a =>
    refine ⟨quietHeard_step_a h.quiet act, hdeclaring, ⟨idle_mrpAct hidleA htimer, hidleB⟩, ?_, ?_⟩
    · rintro ⟨m, hm, hmark⟩
      exact h.unmarked ⟨m, mem_inbox_of_mrpAct hm, hmark⟩
    · intro m hm
      rcases List.mem_append.mp hm with hm | hm
      · exact h.declarations m hm
      · refine ⟨?_, isDeclaration_of_mem_mrpAct hidleA h.declaring hm⟩
        obtain ⟨now, rfl, -⟩ := mem_mrpAct hm
        exact hidleA
  | b =>
    refine ⟨quietHeard_step_b h.quiet act, hdeclaring, ⟨hidleA, idle_mrpAct hidleB htimer⟩, ?_, ?_⟩
    · rintro ⟨m, hm, hmark⟩
      rcases List.mem_append.mp hm with hm | hm
      · exact h.unmarked ⟨m, hm, hmark⟩
      · obtain ⟨now, rfl, -⟩ := mem_mrpAct hm
        exact absurd (hidleB.symm.trans hmark) Bool.false_ne_true
    · intro m hm
      exact h.declarations m (mem_inbox_of_mrpAct hm)

lemma isIn_step (h : Declared w) {e : MrpSide × MrpAction} (he : Unprompted e = true)
    (hin : w.b.attr.isIn = true) : (pairStep w e).b.attr.isIn = true := by
  obtain ⟨side, act⟩ := e
  cases side with
  | a => exact hin
  | b =>
    have hinput : ∀ i, registeredInput true i = true → (mrpInput w.b.attr i).isIn = true := by
      intro i hi
      rw [isIn_mrpInput h.quiet.timerB, hin, hi]
    cases act with
    | request r => exact hinput r.input (by cases r <;> rfl)
    | leaveAllTimer now => cases he
    | tx now =>
      show (mrpUpdateState now 0 (txEvent w.b.leaveAllActive) w.b.attr).1.isIn = true
      rw [h.idle.2]
      exact hinput (.transmit false now) rfl
    | periodicTimer => exact hinput .periodicTimer rfl
    | poll now => exact hinput (.poll now) rfl
    | receive now =>
      show (mrpAct w.b (.receive now)).1.attr.isIn = true
      cases hinbox : w.b.inbox with
      | nil =>
        rw [mrpAct_receive_nil hinbox]
        exact hin
      | cons m rest =>
        rw [mrpAct_receive_cons hinbox]
        show (receiveMessage now m w.b.attr).isIn = true
        have hm : m ∈ w.b.inbox := by
          rw [hinbox]
          exact List.mem_cons_self
        rw [isIn_receiveMessage]
        exact registeredAfter_of_declaration (h.declarations m hm).2 _ _

def Reached (w : MrpPair) : Prop := w.b.attr.isIn = true ∨ w.b.inbox ≠ []

lemma reached_step (h : Declared w) {e : MrpSide × MrpAction} (he : Unprompted e = true)
    (hreached : Reached w) : Reached (pairStep w e) := by
  obtain ⟨side, act⟩ := e
  rcases hreached with hin | hsome
  · exact Or.inl (isIn_step h he hin)
  · cases side with
    | a =>
      right
      intro hnil
      exact hsome (List.append_eq_nil_iff.mp hnil).1
    | b =>
      cases act with
      | receive now =>
        obtain ⟨m, rest, hinbox⟩ := List.exists_cons_of_ne_nil hsome
        have hm : m ∈ w.b.inbox := by
          rw [hinbox]
          exact List.mem_cons_self
        left
        show (mrpAct w.b (.receive now)).1.attr.isIn = true
        rw [mrpAct_receive_cons hinbox]
        show (receiveMessage now m w.b.attr).isIn = true
        rw [isIn_receiveMessage]
        exact registeredAfter_of_declaration (h.declarations m hm).2 _ _
      | _ => exact Or.inr hsome

lemma reached_tx (h : Declared w) (now : ℕ) : Reached (pairStep w (.a, .tx now)) := by
  have hb : (pairStep w (.a, .tx now)).b = w.b.send (txMessages w.a.leaveAllActive
    (mrpUpdateState now 0 (txEvent w.a.leaveAllActive) w.a.attr).2) := rfl
  unfold Reached
  rw [hb, h.idle.1]
  have htx : isDeclaration (mrpUpdateState now 0 (txEvent false) w.a.attr).2 = true ∨ _ :=
    declares_of_tx h.declaring
  rcases htx with hdeclares | ⟨hquiet, hnone⟩
  · right
    have hsome := isSome_of_isDeclaration hdeclares
    show w.b.inbox ++ txMessages false _ ≠ []
    rw [txMessages, if_pos (by rw [hsome, Bool.or_true])]
    exact List.append_ne_nil_of_right_ne_nil _ (List.cons_ne_nil _ _)
  · rw [hnone]
    show w.b.attr.isIn = true ∨ w.b.inbox ++ [] ≠ []
    rw [List.append_nil]
    rcases h.quiet.heard hquiet with hwill | hmark | hactive
    · by_cases hinbox : w.b.inbox = []
      · left
        unfold MrpParticipant.willBeIn at hwill
        rw [hinbox] at hwill
        exact hwill
      · exact Or.inr hinbox
    · exact absurd hmark h.unmarked
    · exact absurd (h.idle.2.symm.trans hactive) Bool.false_ne_true

lemma declared_runFrom (h : Declared w) {es : List (MrpSide × MrpAction)}
    (hes : ∀ e ∈ es, Unprompted e = true) :
    Declared (Run.runFrom pairStep w es) ∧ (Reached w → Reached (Run.runFrom pairStep w es)) ∧
      (w.b.attr.isIn = true → (Run.runFrom pairStep w es).b.attr.isIn = true) := by
  induction es generalizing w with
  | nil => exact ⟨h, id, id⟩
  | cons e es ih =>
    have he := hes e List.mem_cons_self
    obtain ⟨hdeclared, hreached, hin⟩ :=
      ih (declared_step h he) fun e' he' => hes e' (List.mem_cons_of_mem _ he')
    exact ⟨hdeclared, hreached ∘ reached_step h he, hin ∘ isIn_step h he⟩

lemma reached_of_transmissions (h : Declared w) {es : List (MrpSide × MrpAction)}
    (hes : ∀ e ∈ es, Unprompted e = true) (hcount : 0 < transmissions es) :
    Reached (Run.runFrom pairStep w es) := by
  obtain ⟨e, he, htx⟩ := List.countP_pos_iff.mp hcount
  obtain ⟨es₁, es₂, rfl⟩ := List.append_of_mem he
  have hbefore := (declared_runFrom h fun e' he' => hes e' (List.mem_append_left _ he')).1
  have hafter : ∀ e' ∈ es₂, Unprompted e' = true := fun e' he' =>
    hes e' (List.mem_append_right _ (List.mem_cons_of_mem _ he'))
  have hstep := declared_step hbefore (hes e he)
  rw [Run.runFrom_append, Run.runFrom_cons]
  refine (declared_runFrom hstep hafter).2.1 ?_
  obtain ⟨side, act⟩ := e
  cases side with
  | b => cases htx
  | a =>
    cases act with
    | tx now => exact reached_tx hbefore now
    | _ => cases htx

end

structure Withdrawn (w : MrpPair) : Prop where
  observing : FitsRequest false w.a.attr.applicantState = true
  withdrawals : ∀ m ∈ w.b.inbox, isDeclaration m.event = false
  timer : TimerSound (registrarVars w.b.attr)

section

variable {w : MrpPair}

lemma registeredAfter_of_withdrawal {m : MrpMessage} (h : isDeclaration m.event = false) :
    registeredAfter false m = false := by
  obtain ⟨leaveAll, event⟩ := m
  revert h
  cases event with
  | none => cases leaveAll <;> decide
  | some e => cases leaveAll <;> cases e <;> decide

lemma withdrawn_step (h : Withdrawn w) {e : MrpSide × MrpAction} (he : Unrequested e = true) :
    Withdrawn (pairStep w e) := by
  obtain ⟨side, act⟩ := e
  have hdeclares : declaresAfter false (side, act) = false := by
    cases side with
    | b => rfl
    | a =>
      cases act with
      | request r => cases he
      | _ => rfl
  have hobserving := fitsRequest_step h.observing (side, act)
  rw [hdeclares] at hobserving
  cases side with
  | a =>
    refine ⟨hobserving, fun m hm => ?_, h.timer⟩
    rcases List.mem_append.mp hm with hm | hm
    · exact h.withdrawals m hm
    · obtain ⟨now, rfl, -⟩ := mem_mrpAct hm
      exact not_declares_of_tx h.observing
  | b =>
    exact ⟨hobserving, fun m hm => h.withdrawals m (mem_inbox_of_mrpAct hm),
      timerSound_mrpAct h.timer act⟩

lemma unregistered_step (h : Withdrawn w) (hout : w.b.attr.isIn = false)
    (e : MrpSide × MrpAction) : (pairStep w e).b.attr.isIn = false := by
  obtain ⟨side, act⟩ := e
  have hinput : ∀ i, registeredInput false i = false → (mrpInput w.b.attr i).isIn = false := by
    intro i hi
    rw [isIn_mrpInput h.timer, hout, hi]
  cases side with
  | a => exact hout
  | b =>
    cases act with
    | request r => exact hinput r.input (by cases r <;> rfl)
    | leaveAllTimer now => exact hinput (.leaveAll now) rfl
    | tx now =>
      show (mrpUpdateState now 0 (txEvent w.b.leaveAllActive) w.b.attr).1.isIn = false
      cases w.b.leaveAllActive
      · exact hinput (.transmit false now) rfl
      · exact hinput (.transmit true now) rfl
    | periodicTimer => exact hinput .periodicTimer rfl
    | poll now => exact hinput (.poll now) rfl
    | receive now =>
      show (mrpAct w.b (.receive now)).1.attr.isIn = false
      cases hinbox : w.b.inbox with
      | nil =>
        rw [mrpAct_receive_nil hinbox]
        exact hout
      | cons m rest =>
        rw [mrpAct_receive_cons hinbox]
        show (receiveMessage now m w.b.attr).isIn = false
        have hm : m ∈ w.b.inbox := by
          rw [hinbox]
          exact List.mem_cons_self
        rw [isIn_receiveMessage, hout]
        exact registeredAfter_of_withdrawal (h.withdrawals m hm)

lemma withdrawn_runFrom (h : Withdrawn w) {es : List (MrpSide × MrpAction)}
    (hes : ∀ e ∈ es, Unrequested e = true) : Withdrawn (Run.runFrom pairStep w es) ∧
      (w.b.attr.isIn = false → (Run.runFrom pairStep w es).b.attr.isIn = false) := by
  induction es generalizing w with
  | nil => exact ⟨h, id⟩
  | cons e es ih =>
    obtain ⟨hwithdrawn, hout⟩ := ih (withdrawn_step h (hes e List.mem_cons_self))
      fun e' he' => hes e' (List.mem_cons_of_mem _ he')
    exact ⟨hwithdrawn, fun h' => hout (unregistered_step h h' e)⟩

def LeaveTimerOver (now : ℕ) (a : MrpAttribute) : Prop :=
  a.leaveTimer.active = 0 ∨ (avbTimerExpired now a.leaveTimer).2 = true
  deriving Decidable

lemma empty_of_leaveTimerOver {a : MrpAttribute} (htimer : TimerSound (registrarVars a))
    (hout : a.isIn = false) {now : ℕ} (hover : LeaveTimerOver now a) :
    (mrpInput a (.poll now)).registrarState = .empty := by
  have hnot : a.registrarState ≠ .registered := of_decide_eq_false hout
  have hactive : a.leaveTimer.active = if a.registrarState = .leaving then 1 else 0 := htimer.active
  have hclear : TimerSound (registrarVars (clearPending a)) := ⟨htimer.once, htimer.active⟩
  show (pollLeaveTimer now (clearPending a)).registrarState = .empty
  rcases hover with hstopped | hexpired
  · have hempty : a.registrarState = .empty := by
      cases hstate : a.registrarState with
      | registered => exact absurd hstate hnot
      | leaving =>
        rw [hstate, if_pos rfl, hstopped] at hactive
        cases hactive
      | empty => rfl
    obtain ⟨-, timer, hvars | ⟨-, hvars⟩⟩ := pollLeaveTimer_cases hclear now
    · exact (congrArg RegistrarVars.registrar hvars).trans hempty
    · exact congrArg RegistrarVars.registrar hvars
  · have hexpired : (avbTimerExpired now (clearPending a).leaveTimer).2 = true := hexpired
    unfold pollLeaveTimer
    dsimp only
    rw [if_pos hexpired]
    show (registrarExpire 0 _).registrarState = .empty
    unfold registrarExpire
    split_ifs <;> rfl

end

/-- **Convergence.**  Take any run of the two participants from their begin to a state in
which nothing is on its way, and no request at the first end from then on.

If the last request there was a Join or a New and no LeaveAll is under way, then without a
further LeaveAll, behind three transmit opportunities of the first end and the delivery of
what they send, the other end is registered, and stays so.  If it was a Leave, or there was
none, then behind a transmitted LeaveAll of the other end, once its leave timer is over, it
is empty. -/
theorem declarations_converge (a b : MrpAttribute) (es : List (MrpSide × MrpAction))
    (hdrained : Drained (Run.runFrom pairStep (pairBegin a b) es)) :
    let w := Run.runFrom pairStep (pairBegin a b) es
    (Run.runFrom declaresAfter false es = true → LeaveAllIdle w →
      ∀ es₁ es₂, (∀ e ∈ es₁ ++ es₂, Unprompted e = true) → 3 ≤ transmissions es₁ →
        (Run.runFrom pairStep w es₁).b.inbox = [] →
        (Run.runFrom pairStep w (es₁ ++ es₂)).b.attr.registrarState = .registered) ∧
    (Run.runFrom declaresAfter false es = false →
      ∀ es₁ now es₂, (∀ e ∈ es₁ ++ es₂, Unrequested e = true) →
        (Run.runFrom pairStep w es₁).b.leaveAllActive = true →
        let w₂ := Run.runFrom pairStep w (es₁ ++ (.b, .tx now) :: es₂)
        ∀ now', LeaveTimerOver now' w₂.b.attr →
          (pairStep w₂ (.b, .poll now')).b.attr.registrarState = .empty) := by
  intro w
  have hstep : ∀ w e, QuietHeard w → QuietHeard (pairStep w e) := fun _ e h => quietHeard_step h e
  have hquiet : QuietHeard w := Run.invariant_of_step hstep (quietHeard_pairBegin a b) es
  have hfits : FitsRequest (Run.runFrom declaresAfter false es) w.a.attr.applicantState = true :=
    fitsRequest_runFrom rfl es
  obtain ⟨hinboxA, hinboxB⟩ := hdrained
  constructor
  · intro hdeclares hidle es₁ es₂ hes hcount hdelivered
    have hes₁ : ∀ e ∈ es₁, Unprompted e = true := fun e he => hes e (List.mem_append_left _ he)
    have hes₂ : ∀ e ∈ es₂, Unprompted e = true := fun e he => hes e (List.mem_append_right _ he)
    have hdeclared : Declared w := by
      rw [hdeclares] at hfits
      refine ⟨hquiet, hfits, hidle, ?_, ?_⟩
      · rintro ⟨m, hm, -⟩
        rw [hinboxA] at hm
        cases hm
      · intro m hm
        rw [hinboxB] at hm
        cases hm
    have hin : (Run.runFrom pairStep w es₁).b.attr.isIn = true := by
      rcases reached_of_transmissions hdeclared hes₁ (by omega) with hin | hsome
      · exact hin
      · exact absurd hdelivered hsome
    have hlater := (declared_runFrom (declared_runFrom hdeclared hes₁).1 hes₂).2.2 hin
    rw [Run.runFrom_append]
    exact of_decide_eq_true hlater
  · intro hdeclares es₁ now es₂ hes hactive w₂ now' hover
    have hes₁ : ∀ e ∈ es₁, Unrequested e = true := fun e he => hes e (List.mem_append_left _ he)
    have hes₂ : ∀ e ∈ es₂, Unrequested e = true := fun e he => hes e (List.mem_append_right _ he)
    have hwithdrawn : Withdrawn w := by
      rw [hdeclares] at hfits
      refine ⟨hfits, fun m hm => ?_, hquiet.timerB⟩
      rw [hinboxB] at hm
      cases hm
    have hbefore := (withdrawn_runFrom hwithdrawn hes₁).1
    -- the LeaveAll takes the registration away
    have hleft : (pairStep (Run.runFrom pairStep w es₁) (.b, .tx now)).b.attr.isIn = false := by
      show (mrpUpdateState now 0 (txEvent (Run.runFrom pairStep w es₁).b.leaveAllActive) _).1.isIn =
        _
      rw [hactive]
      exact isIn_mrpInput hbefore.timer (.transmit true now)
    have hstep : Withdrawn (pairStep (Run.runFrom pairStep w es₁) (.b, .tx now)) :=
      withdrawn_step hbefore rfl
    obtain ⟨hafter, hout⟩ := withdrawn_runFrom hstep hes₂
    have hw₂ : w₂ = Run.runFrom pairStep
        (pairStep (Run.runFrom pairStep w es₁) (.b, .tx now)) es₂ := by
      show Run.runFrom pairStep w (es₁ ++ (.b, .tx now) :: es₂) = _
      rw [Run.runFrom_append, Run.runFrom_cons]
    rw [← hw₂] at hafter hout
    exact empty_of_leaveTimerOver hafter.timer (hout hleft) hover

def joins : List (MrpSide × MrpAction) := [(.a, .request .join)]

def transmitsThrice : List (MrpSide × MrpAction) :=
  [(.a, .tx 0), (.b, .receive 1), (.a, .tx 2), (.b, .receive 3), (.a, .tx 4), (.b, .receive 5)]

def joinsAndLeaves : List (MrpSide × MrpAction) :=
  [(.a, .request .join), (.a, .tx 0), (.b, .receive 1), (.a, .request .leave)]

theorem joined_and_left_converge :
    (Run.runFrom pairStep (Run.runFrom pairStep (pairBegin .zero .zero) joins)
      (transmitsThrice ++ [(.b, .tx 6)])).b.attr.registrarState = .registered ∧
    (pairStep (Run.runFrom pairStep (Run.runFrom pairStep (pairBegin .zero .zero) joinsAndLeaves)
        ([(.b, .leaveAllTimer 2)] ++ (.b, .tx 3) ::
          [(.a, .receive 4), (.a, .tx 5), (.b, .receive 6)]))
      (.b, .poll 100000000)).b.attr.registrarState = .empty := by
  have hjoined := declarations_converge .zero .zero joins (by decide +kernel)
  have hleft := declarations_converge .zero .zero joinsAndLeaves (by decide +kernel)
  constructor
  · exact hjoined.1 (by decide +kernel) (by decide +kernel) transmitsThrice [(.b, .tx 6)]
      (by decide +kernel) (by decide +kernel) (by decide +kernel)
  · exact hleft.2 (by decide +kernel) [(.b, .leaveAllTimer 2)] 3
      [(.a, .receive 4), (.a, .tx 5), (.b, .receive 6)] (by decide +kernel) (by decide +kernel)
      100000000 (by decide +kernel)
