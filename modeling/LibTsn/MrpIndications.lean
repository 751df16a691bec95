/-
# Indications of an MRP attribute

The registrar notes what its owner is to be told in three flags, and
`mrp_periodic` sends what is noted in a fixed order: Join of a new declaration,
Join, Leave.
-/
import LibTsn.Run
import LibTsn.MrpMachine

/-! ## The life of an attribute -/

inductive MrpInput where
  | received (e : MrpAttributeEvent) (four now : ℕ)
  | leaveAll (now : ℕ)
  | transmit (leaveAll : Bool) (now : ℕ)
  | join (new : Bool)
  | leave
  | periodicTimer
  /-- The turn of the attribute in `mrp_periodic`. -/
  | poll (now : ℕ)

variable (is : List MrpIndication) (a : MrpAttribute) {source : AvbStreamState}

def mrpInput : MrpInput → MrpAttribute
  | .received e four now => (mrpUpdateState now four (mrpIn e) a).1
  | .leaveAll now => (mrpUpdateState now 0 .receiveLeaveAll a).1
  | .transmit leaveAll now => (mrpUpdateState now 0 (if leaveAll then .txLeaveAll else .tx) a).1
  | .join new => mrpMadJoin new a
  | .leave => mrpMadLeave a
  | .periodicTimer => (mrpUpdateState 0 0 .periodic a).1
  | .poll now => pollLeaveTimer now (clearPending a)

def MrpAttributeEvent.Declares (e : MrpAttributeEvent) : Prop :=
  e = .evNew ∨ e = .evJoinIn ∨ e = .evJoinMt
  deriving Decidable

structure RegistrarVars where
  registrar : MrpRegistrarState
  timer : AvbTimer
  pendingJoinNew : Bool
  pendingJoin : Bool
  pendingLeave : Bool
  four : ℕ

def registrarVars : RegistrarVars where
  registrar := a.registrarState
  timer := a.leaveTimer
  pendingJoinNew := a.pendingJoinNew
  pendingJoin := a.pendingJoin
  pendingLeave := a.pendingLeave
  four := a.fourVectorParameter

lemma registrarVars_mrpUpdateState (now four : ℕ) (e : MrpEvent) (a : MrpAttribute) :
    registrarVars (mrpUpdateState now four e a).1 =
      registrarVars (registrarEvent now four e a) := by
  cases e <;> rfl

lemma registrarVars_mrpInput (i : MrpInput) : registrarVars (mrpInput a i) =
      match i with
      | .received e four now =>
        if e = .evNew then registrarVars (registrarNew four a)
        else if e = .evJoinIn ∨ e = .evJoinMt then registrarVars (registrarJoin four a)
        else if e = .evLv then registrarVars (registrarLeave now a)
        else registrarVars a
      | .leaveAll now => registrarVars (registrarLeave now a)
      | .transmit leaveAll now =>
        if leaveAll then registrarVars (registrarLeave now a) else registrarVars a
      | .poll now => registrarVars (pollLeaveTimer now (clearPending a))
      | _ => registrarVars a := by
  cases i with
  | received e four now =>
    show registrarVars (mrpUpdateState now four (mrpIn e) a).1 = _
    rw [registrarVars_mrpUpdateState]
    cases e <;> rfl
  | leaveAll now => exact registrarVars_mrpUpdateState now 0 .receiveLeaveAll a
  | transmit leaveAll now =>
    show registrarVars (mrpUpdateState now 0 (if leaveAll then .txLeaveAll else .tx) a).1 = _
    rw [registrarVars_mrpUpdateState]
    cases leaveAll <;> rfl
  | join new => cases new <;> rfl
  | leave => rfl
  | periodicTimer => rfl
  | poll now => rfl

/-! ## The leave timer -/

structure TimerSound (v : RegistrarVars) : Prop where
  once : v.timer.timeoutMultiplier = 1
  active : v.timer.active = if v.registrar = .leaving then 1 else 0

section

variable {a : MrpAttribute}

lemma timerSound_stopLeaveTimer (h : TimerSound (registrarVars a)) :
    (stopLeaveTimer a).leaveTimer.timeoutMultiplier = 1 ∧
      (stopLeaveTimer a).leaveTimer.active = 0 := by
  have hactive : a.leaveTimer.active = if a.registrarState = .leaving then 1 else 0 := h.active
  unfold stopLeaveTimer
  split_ifs with hleaving
  · exact ⟨h.once, rfl⟩
  · rw [if_neg hleaving] at hactive
    exact ⟨h.once, hactive⟩

lemma timerSound_registrarLeave (h : TimerSound (registrarVars a)) (now : ℕ) :
    TimerSound (registrarVars (registrarLeave now a)) := by
  have honce : a.leaveTimer.timeoutMultiplier = 1 := h.once
  unfold registrarLeave
  split_ifs
  · constructor
    · show (startAvbTimer now _ a.leaveTimer).timeoutMultiplier = 1
      rw [startAvbTimer_timeoutMultiplier, honce]
    · show (startAvbTimer now _ a.leaveTimer).active = 1
      rw [startAvbTimer_active, honce]
  · exact h

/-- **A turn of the leave timer.**  It goes on, or it runs out. -/
lemma pollLeaveTimer_cases (h : TimerSound (registrarVars a)) (now : ℕ) :
    TimerSound (registrarVars (pollLeaveTimer now a)) ∧ ∃ timer,
      registrarVars (pollLeaveTimer now a) = { registrarVars a with timer := timer } ∨
      a.registrarState = .leaving ∧ registrarVars (pollLeaveTimer now a) =
        { registrarVars a with
          registrar := .empty, timer := timer, pendingLeave := true, four := 0 } := by
  have honce : a.leaveTimer.timeoutMultiplier = 1 := h.once
  have hactive : a.leaveTimer.active = if a.registrarState = .leaving then 1 else 0 := h.active
  -- the timer either does not run out, or it does and stops
  have hexpired : (avbTimerExpired now a.leaveTimer).1.timeoutMultiplier = 1 ∧
      ((avbTimerExpired now a.leaveTimer).2 = false ∧
        (avbTimerExpired now a.leaveTimer).1.active = a.leaveTimer.active ∨
      (avbTimerExpired now a.leaveTimer).2 = true ∧ a.registrarState = .leaving ∧
        (avbTimerExpired now a.leaveTimer).1.active = 0) := by
    unfold avbTimerExpired
    split_ifs with hstopped hafter
    · exact ⟨honce, Or.inl ⟨rfl, rfl⟩⟩
    · have hleaving : a.registrarState = .leaving := by
        by_contra hnot
        rw [if_neg hnot] at hactive
        exact hstopped hactive
      rw [if_pos hleaving] at hactive
      refine ⟨honce, Or.inr ⟨?_, hleaving, ?_⟩⟩
      · show decide (a.leaveTimer.active - 1 = 0) = true
        rw [hactive]
        rfl
      · show a.leaveTimer.active - 1 = 0
        rw [hactive]
        rfl
    · exact ⟨honce, Or.inl ⟨rfl, rfl⟩⟩
  unfold pollLeaveTimer
  dsimp only
  generalize avbTimerExpired now a.leaveTimer = expired at hexpired ⊢
  obtain ⟨timer, ran⟩ := expired
  obtain ⟨honce', ⟨rfl, hsame⟩ | ⟨rfl, hleaving, hstop⟩⟩ := hexpired
  · exact ⟨⟨honce', hsame.trans hactive⟩, timer, Or.inl rfl⟩
  · have hexpire : registrarExpire 0 { a with leaveTimer := timer } =
        { a with
          leaveTimer := timer, pendingLeave := true, fourVectorParameter := 0
          registrarState := .empty } := if_pos hleaving
    have hvars : registrarVars (mrpUpdateState now 0 .leaveTimer { a with leaveTimer := timer }).1 =
        registrarVars (registrarExpire 0 { a with leaveTimer := timer }) :=
      registrarVars_mrpUpdateState now 0 .leaveTimer _
    rw [hexpire] at hvars
    refine ⟨?_, timer, Or.inr ⟨hleaving, hvars⟩⟩
    show TimerSound (registrarVars (mrpUpdateState now 0 .leaveTimer _).1)
    rw [hvars]
    exact ⟨honce', hstop⟩

lemma timerSound_mrpInput (h : TimerSound (registrarVars a)) (i : MrpInput) :
    TimerSound (registrarVars (mrpInput a i)) := by
  have hstop := timerSound_stopLeaveTimer h
  have hjoin : ∀ four, TimerSound (registrarVars (registrarJoin four a)) := by
    intro four
    unfold registrarJoin
    split_ifs <;> exact ⟨hstop.1, hstop.2⟩
  rw [registrarVars_mrpInput]
  cases i with
  | received e four now =>
    cases e with
    | evNew => exact ⟨hstop.1, hstop.2⟩
    | evJoinIn => exact hjoin four
    | evJoinMt => exact hjoin four
    | evLv => exact timerSound_registrarLeave h now
    | evIn => exact h
    | evMt => exact h
  | leaveAll now => exact timerSound_registrarLeave h now
  | transmit leaveAll now =>
    cases leaveAll
    · exact h
    · exact timerSound_registrarLeave h now
  | join new => exact h
  | leave => exact h
  | periodicTimer => exact h
  | poll now =>
    have hclear : TimerSound (registrarVars (clearPending a)) := ⟨h.once, h.active⟩
    exact (pollLeaveTimer_cases hclear now).1

lemma timerSound_mrpMadBegin (a : MrpAttribute) : TimerSound (registrarVars (mrpMadBegin a)) :=
  ⟨rfl, rfl⟩

end

/-! ## The last indication -/

structure IndicatedAttribute where
  attr : MrpAttribute
  sent : List MrpIndication

def indicatedStep (w : IndicatedAttribute) (i : MrpInput) : IndicatedAttribute where
  attr := mrpInput w.attr i
  sent :=
    match i with
    | .poll _ => w.sent ++ pendingIndications w.attr
    | _ => w.sent

def JoinLast (is : List MrpIndication) : Prop :=
  is.getLast? = some .joinNew ∨ is.getLast? = some .join
  deriving Decidable

def LeaveLast (is : List MrpIndication) : Prop := is.getLast? = none ∨ is.getLast? = some .leave
  deriving Decidable

lemma leaveLast_iff : LeaveLast is ↔ ¬ JoinLast is := by
  unfold LeaveLast JoinLast
  cases is.getLast? with
  | none => simp
  | some i => cases i <;> simp

lemma joinLast_append_pendingIndications : JoinLast (is ++ pendingIndications a) ↔
      a.pendingLeave = false ∧
        (a.pendingJoinNew = true ∨ a.pendingJoin = true ∨ JoinLast is) := by
  unfold pendingIndications JoinLast
  cases a.pendingJoinNew <;> cases a.pendingJoin <;> cases a.pendingLeave <;> simp

structure IndicationsAgree (v : RegistrarVars) (sent : List MrpIndication) : Prop where
  timer : TimerSound v
  last : (v.pendingLeave = false ∧
    (v.pendingJoinNew = true ∨ v.pendingJoin = true ∨ JoinLast sent)) ↔ v.registrar ≠ .empty

def NoJoinBeforeLeave : MrpInput → Prop
  | .received e _ _ => e.Declares → a.pendingLeave = false
  | _ => True

instance (a : MrpAttribute) (i : MrpInput) : Decidable (NoJoinBeforeLeave a i) :=
  match i with
  | .received _ _ _ => inferInstanceAs (Decidable (_ → _))
  | .leaveAll _ => isTrue trivial
  | .transmit _ _ => isTrue trivial
  | .join _ => isTrue trivial
  | .leave => isTrue trivial
  | .periodicTimer => isTrue trivial
  | .poll _ => isTrue trivial

section

variable {a : MrpAttribute} {sent : List MrpIndication}

lemma indicationsAgree_new (h : IndicationsAgree (registrarVars a) sent)
    (hleave : a.pendingLeave = false) (four : ℕ) :
    IndicationsAgree (registrarVars (registrarNew four a)) sent := by
  obtain ⟨honce, hstop⟩ := timerSound_stopLeaveTimer h.timer
  rw [registrarNew, stopLeaveTimer_eq]
  refine ⟨⟨honce, hstop⟩, ?_⟩
  constructor
  · intro _ h
    cases h
  · intro _
    exact ⟨hleave, Or.inl rfl⟩

lemma indicationsAgree_join (h : IndicationsAgree (registrarVars a) sent)
    (hleave : a.pendingLeave = false) (four : ℕ) :
    IndicationsAgree (registrarVars (registrarJoin four a)) sent := by
  obtain ⟨honce, hstop⟩ := timerSound_stopLeaveTimer h.timer
  unfold registrarJoin
  rw [stopLeaveTimer_eq]
  split_ifs with hnoted
  · refine ⟨⟨honce, hstop⟩, ?_⟩
    constructor
    · intro _ h
      cases h
    · intro _
      exact ⟨hleave, Or.inr (Or.inl rfl)⟩
  · -- nothing is noted because the attribute is registered already
    refine ⟨⟨honce, hstop⟩, ?_⟩
    constructor
    · intro _ h
      cases h
    · intro _
      obtain ⟨-, hjoined⟩ := h.last.mpr fun hempty => hnoted (Or.inl hempty)
      exact ⟨hleave, hjoined⟩

lemma indicationsAgree_leave (h : IndicationsAgree (registrarVars a) sent) (now : ℕ) :
    IndicationsAgree (registrarVars (registrarLeave now a)) sent := by
  refine ⟨timerSound_registrarLeave h.timer now, ?_⟩
  have hlast := h.last
  unfold registrarLeave
  split_ifs with hregistered
  · constructor
    · intro _ h
      cases h
    · intro _
      apply hlast.mpr
      show a.registrarState ≠ .empty
      rw [hregistered]
      decide
  · exact hlast

lemma indicationsAgree_poll (h : IndicationsAgree (registrarVars a) sent) (now : ℕ) :
    IndicationsAgree (registrarVars (pollLeaveTimer now (clearPending a)))
      (sent ++ pendingIndications a) := by
  have htimer : TimerSound (registrarVars (clearPending a)) :=
    ⟨h.timer.once, h.timer.active⟩
  have hlast : JoinLast (sent ++ pendingIndications a) ↔ a.registrarState ≠ .empty :=
    (joinLast_append_pendingIndications sent a).trans h.last
  obtain ⟨hsound, timer, hvars | ⟨-, hvars⟩⟩ := pollLeaveTimer_cases htimer now
  · -- nothing is noted any more, so the last indication is the last one sent
    rw [hvars] at hsound ⊢
    refine ⟨hsound, ?_⟩
    simpa [registrarVars, clearPending] using hlast
  · rw [hvars] at hsound ⊢
    refine ⟨hsound, ?_⟩
    constructor
    · rintro ⟨hnot, -⟩
      cases hnot
    · intro h
      exact absurd rfl h

end

lemma indicationsAgree_step {w : IndicatedAttribute}
    (h : IndicationsAgree (registrarVars w.attr) w.sent) {i : MrpInput}
    (hi : NoJoinBeforeLeave w.attr i) :
    IndicationsAgree (registrarVars (indicatedStep w i).attr) (indicatedStep w i).sent := by
  have hvars := registrarVars_mrpInput w.attr i
  show IndicationsAgree (registrarVars (mrpInput w.attr i)) (indicatedStep w i).sent
  rw [hvars]
  cases i with
  | received e four now =>
    cases e with
    | evNew => exact indicationsAgree_new h (hi (Or.inl rfl)) four
    | evJoinIn => exact indicationsAgree_join h (hi (Or.inr (Or.inl rfl))) four
    | evJoinMt => exact indicationsAgree_join h (hi (Or.inr (Or.inr rfl))) four
    | evLv => exact indicationsAgree_leave h now
    | evIn => exact h
    | evMt => exact h
  | leaveAll now => exact indicationsAgree_leave h now
  | transmit leaveAll now =>
    cases leaveAll
    · exact h
    · exact indicationsAgree_leave h now
  | join new => exact h
  | leave => exact h
  | periodicTimer => exact h
  | poll now => exact indicationsAgree_poll h now

def NothingPending : Prop := pendingIndications a = []
  deriving Decidable

lemma nothingPending_iff : NothingPending a ↔
      a.pendingJoinNew = false ∧ a.pendingJoin = false ∧ a.pendingLeave = false := by
  unfold NothingPending pendingIndications
  cases a.pendingJoinNew <;> cases a.pendingJoin <;> cases a.pendingLeave <;> simp

/-- **Indications.**  From the begin of an attribute for which nothing is noted, in
every run in which no declaration is received while a Leave is noted, a poll that
leaves nothing noted leaves a Join as the last indication if the registrar is
registered or leaving, and a Leave or none if it is empty. -/
theorem indications_agree_with_registrar (a₀ : MrpAttribute) (hfresh : NothingPending a₀)
    (is : List MrpInput) (hg : Run.Guarded mrpInput NoJoinBeforeLeave (mrpMadBegin a₀) is)
    (now : ℕ) :
    let w := Run.runFrom indicatedStep ⟨mrpMadBegin a₀, []⟩ (is ++ [.poll now])
    NothingPending w.attr →
      (w.attr.registrarState ≠ .empty → JoinLast w.sent) ∧
      (w.attr.registrarState = .empty → LeaveLast w.sent) := by
  intro w hnone
  have hstep : ∀ w i, IndicationsAgree (registrarVars w.attr) w.sent → NoJoinBeforeLeave w.attr i →
      IndicationsAgree (registrarVars (indicatedStep w i).attr) (indicatedStep w i).sent :=
    fun _ _ h hi => indicationsAgree_step h hi
  have hinit : IndicationsAgree (registrarVars (mrpMadBegin a₀)) [] := by
    obtain ⟨hnew, hjoin, -⟩ := (nothingPending_iff a₀).mp hfresh
    refine ⟨timerSound_mrpMadBegin a₀, ?_⟩
    constructor
    · rintro ⟨-, h | h | h⟩
      · exact absurd (hnew.symm.trans h) Bool.false_ne_true
      · exact absurd (hjoin.symm.trans h) Bool.false_ne_true
      · exact absurd h (by decide)
    · intro h
      exact absurd rfl h
  have hguard : Run.Guarded indicatedStep (fun w i => NoJoinBeforeLeave w.attr i)
      ⟨mrpMadBegin a₀, []⟩ (is ++ [.poll now]) := by
    have hattr : ∀ w i, (indicatedStep w i).attr = mrpInput w.attr i := fun _ _ => rfl
    refine Run.guarded_watched hattr ?_
    exact (Run.guarded_append _ _ _ _ _).mpr ⟨hg, trivial, trivial⟩
  have hend := Run.invariant_of_guarded hstep hinit _ hguard
  have hlast : JoinLast (w.sent ++ pendingIndications w.attr) ↔ w.attr.registrarState ≠ .empty :=
    (joinLast_append_pendingIndications w.sent w.attr).trans hend.last
  rw [show pendingIndications w.attr = [] from hnone, List.append_nil] at hlast
  refine ⟨hlast.mpr, fun hempty => ?_⟩
  rw [leaveLast_iff, hlast]
  exact fun h => h hempty

def registeredAndLeft : List MrpInput :=
  [.received .evJoinIn 0 0, .poll 0, .received .evLv 0 0, .poll 80000001]

theorem registeredAndLeft_indicated :
    let w :=
      Run.runFrom indicatedStep ⟨mrpMadBegin .zero, []⟩ (registeredAndLeft ++ [.poll 80005001])
    NothingPending w.attr →
      (w.attr.registrarState ≠ .empty → JoinLast w.sent) ∧
      (w.attr.registrarState = .empty → LeaveLast w.sent) :=
  indications_agree_with_registrar .zero rfl registeredAndLeft (by decide +kernel) 80005001

/-- It is declared again before that poll.  The Join is sent first, and the Leave is
the last the owner hears of an attribute that is registered. -/
theorem registered_attribute_left :
    let w := Run.runFrom indicatedStep ⟨mrpMadBegin .zero, []⟩
      (registeredAndLeft ++ [.received .evJoinIn 0 80003000, .poll 80005001])
    NothingPending w.attr ∧ w.attr.registrarState = .registered ∧ ¬ JoinLast w.sent := by
  decide +kernel

/-! ## The source of a listener -/

def ListenerReady (four : ℕ) : Prop := four = FourPacked.ready ∨ four = FourPacked.readyFailed
  deriving Decidable

lemma not_listenerReady_askingFailed : ¬ ListenerReady FourPacked.askingFailed := by decide

/-- `avb_srp_listener_join_ind` on the state of the source, in the one-port build
with the Talker Advertise of the source declared. -/
def listenerJoinInd (four : ℕ) (source : AvbStreamState) : AvbStreamState :=
  if source = .potential ∧ ListenerReady four then .enabled else source

/-- `avb_srp_listener_leave_ind` on the state of the source, in the one-port build. -/
def listenerLeaveInd (source : AvbStreamState) : AvbStreamState :=
  if source = .enabled then .potential else source

def listenerInd (four : ℕ) (source : AvbStreamState) : MrpIndication → AvbStreamState
  | .joinNew | .join => listenerJoinInd four source
  | .leave => listenerLeaveInd source

structure SourceListener where
  attr : MrpAttribute
  source : AvbStreamState
  declared : Option ℕ

def sourceStep (w : SourceListener) (i : MrpInput) : SourceListener where
  attr := mrpInput w.attr i
  source :=
    match i with
    | .poll _ =>
      (pendingIndications w.attr).foldl (listenerInd w.attr.fourVectorParameter) w.source
    | _ => w.source
  declared :=
    match i with
    | .received e four _ => if e.Declares then some four else w.declared
    | _ => w.declared

lemma foldl_listenerInd (hsource : source ≠ .disabled) (four : ℕ) :
    (pendingIndications a).foldl (listenerInd four) source =
      if a.pendingLeave then .potential
      else if (a.pendingJoinNew || a.pendingJoin) ∧ ListenerReady four then .enabled
      else source := by
  unfold pendingIndications
  cases source with
  | disabled => exact absurd rfl hsource
  | potential | enabled =>
    by_cases hready : ListenerReady four <;> cases a.pendingJoinNew <;> cases a.pendingJoin <;>
      cases a.pendingLeave <;> simp [listenerInd, listenerJoinInd, listenerLeaveInd, hready]

lemma foldl_listenerInd_eq_enabled (hsource : source ≠ .disabled) (four : ℕ) :
    (pendingIndications a).foldl (listenerInd four) source = .enabled ↔
      a.pendingLeave = false ∧
        ((a.pendingJoinNew = true ∨ a.pendingJoin = true) ∧ ListenerReady four ∨
          source = .enabled) := by
  rw [foldl_listenerInd a hsource, ← Bool.or_eq_true]
  split_ifs with hleave hjoin
  · simp [hleave]
  · simp [hleave, hjoin]
  · constructor
    · intro h
      exact ⟨Bool.eq_false_iff.mpr hleave, Or.inr h⟩
    · rintro ⟨-, h | h⟩
      · exact absurd h hjoin
      · exact h

structure SourceAgrees (v : RegistrarVars) (source : AvbStreamState) (declared : Option ℕ) :
    Prop where
  timer : TimerSound v
  on : source ≠ .disabled
  kept : v.registrar ≠ .empty → (v.four = FourPacked.askingFailed ∨ ListenerReady v.four) ∧
    ∃ d, declared = some d ∧ (ListenerReady d ↔ ListenerReady v.four)
  streams : (v.pendingLeave = false ∧
      ((v.pendingJoinNew = true ∨ v.pendingJoin = true) ∧ ListenerReady v.four ∨
        source = .enabled)) ↔
    v.registrar ≠ .empty ∧ ListenerReady v.four

/-- A declaration says Asking Failed, Ready or Ready Failed, does not come while a Leave is pending,
and neither takes the readiness of a registered listener back nor brings it as Ready Failed without
a New. -/
def ReadinessKept : MrpInput → Prop
  | .received e four _ => e.Declares →
    (four = FourPacked.askingFailed ∨ ListenerReady four) ∧ a.pendingLeave = false ∧
      (a.registrarState ≠ .empty →
        (ListenerReady a.fourVectorParameter → ListenerReady four) ∧
        (e ≠ .evNew → four = FourPacked.readyFailed → ListenerReady a.fourVectorParameter))
  | _ => True

instance (a : MrpAttribute) (i : MrpInput) : Decidable (ReadinessKept a i) :=
  match i with
  | .received _ _ _ => inferInstanceAs (Decidable (_ → _))
  | .leaveAll _ => isTrue trivial
  | .transmit _ _ => isTrue trivial
  | .join _ => isTrue trivial
  | .leave => isTrue trivial
  | .periodicTimer => isTrue trivial
  | .poll _ => isTrue trivial

lemma registered_ne_empty : MrpRegistrarState.registered ≠ .empty := by decide

section

variable {a : MrpAttribute} {source : AvbStreamState} {declared : Option ℕ} {four : ℕ}

lemma sourceAgrees_new (h : SourceAgrees (registrarVars a) source declared)
    (htype : four = FourPacked.askingFailed ∨ ListenerReady four) (hleave : a.pendingLeave = false)
    (hkept : a.registrarState ≠ .empty → ListenerReady a.fourVectorParameter → ListenerReady four) :
    SourceAgrees (registrarVars (registrarNew four a)) source (some four) := by
  obtain ⟨honce, hstop⟩ := timerSound_stopLeaveTimer h.timer
  rw [registrarNew, stopLeaveTimer_eq]
  refine ⟨⟨honce, hstop⟩, h.on, fun _ => ⟨htype, four, rfl, Iff.rfl⟩, ?_⟩
  constructor
  · rintro ⟨-, ⟨-, hready⟩ | henabled⟩
    · exact ⟨registered_ne_empty, hready⟩
    · -- a source that streams has a ready listener, which stays ready
      obtain ⟨hin, hready⟩ := h.streams.mp ⟨hleave, Or.inr henabled⟩
      exact ⟨registered_ne_empty, hkept hin hready⟩
  · rintro ⟨-, hready⟩
    exact ⟨hleave, Or.inl ⟨Or.inl rfl, hready⟩⟩

lemma sourceAgrees_join (h : SourceAgrees (registrarVars a) source declared)
    (htype : four = FourPacked.askingFailed ∨ ListenerReady four) (hleave : a.pendingLeave = false)
    (hkept : a.registrarState ≠ .empty →
      (ListenerReady a.fourVectorParameter → ListenerReady four) ∧
      (four = FourPacked.readyFailed → ListenerReady a.fourVectorParameter)) :
    SourceAgrees (registrarVars (registrarJoin four a)) source (some four) := by
  obtain ⟨honce, hstop⟩ := timerSound_stopLeaveTimer h.timer
  unfold registrarJoin
  rw [stopLeaveTimer_eq]
  split_ifs with hnoted
  · refine ⟨⟨honce, hstop⟩, h.on, fun _ => ⟨htype, four, rfl, Iff.rfl⟩, ?_⟩
    constructor
    · rintro ⟨-, ⟨-, hready⟩ | henabled⟩
      · exact ⟨registered_ne_empty, hready⟩
      · -- the source does not stream yet, or its listener would be registered and ready
        exfalso
        obtain ⟨hin, hready⟩ := h.streams.mp ⟨hleave, Or.inr henabled⟩
        rcases hnoted with hempty | ⟨hasking, -⟩
        · exact hin hempty
        · apply not_listenerReady_askingFailed
          rw [← hasking]
          exact hready
    · rintro ⟨-, hready⟩
      exact ⟨hleave, Or.inl ⟨Or.inr rfl, hready⟩⟩
  · obtain ⟨hin, hsame⟩ := not_or.mp hnoted
    obtain ⟨hkeptType, d, hd, hdeclared⟩ := h.kept hin
    have hready : ListenerReady four ↔ ListenerReady a.fourVectorParameter := by
      constructor
      · rintro (hready | hfailed)
        · exact hkeptType.resolve_left fun hasking => hsame ⟨hasking, hready⟩
        · exact (hkept hin).2 hfailed
      · exact (hkept hin).1
    refine ⟨⟨honce, hstop⟩, h.on, fun _ => ⟨hkeptType, four, rfl, hready⟩, ?_⟩
    refine h.streams.trans (and_congr_left fun _ => ?_)
    exact ⟨fun _ => registered_ne_empty, fun _ => hin⟩

lemma sourceAgrees_leave (h : SourceAgrees (registrarVars a) source declared) (now : ℕ) :
    SourceAgrees (registrarVars (registrarLeave now a)) source declared := by
  have hsound := timerSound_registrarLeave h.timer now
  unfold registrarLeave at hsound ⊢
  split_ifs at hsound ⊢ with hregistered
  · have hin : a.registrarState ≠ .empty := by
      rw [hregistered]
      exact registered_ne_empty
    refine ⟨hsound, h.on, fun _ => h.kept hin, ?_⟩
    refine h.streams.trans (and_congr_left fun _ => ?_)
    exact ⟨fun _ h => (nomatch h), fun _ => hin⟩
  · exact h

lemma sourceAgrees_poll (h : SourceAgrees (registrarVars a) source declared) (now : ℕ) :
    SourceAgrees (registrarVars (pollLeaveTimer now (clearPending a)))
      ((pendingIndications a).foldl (listenerInd a.fourVectorParameter) source) declared := by
  have htimer : TimerSound (registrarVars (clearPending a)) :=
    ⟨h.timer.once, h.timer.active⟩
  have hsource := foldl_listenerInd a h.on a.fourVectorParameter
  have hon :
      (pendingIndications a).foldl (listenerInd a.fourVectorParameter) source ≠ .disabled := by
    rw [hsource]
    split_ifs
    · decide
    · decide
    · exact h.on
  have henabled :
      (pendingIndications a).foldl (listenerInd a.fourVectorParameter) source = .enabled ↔
      a.registrarState ≠ .empty ∧ ListenerReady a.fourVectorParameter :=
    (foldl_listenerInd_eq_enabled a h.on _).trans h.streams
  obtain ⟨hsound, timer, hvars | ⟨-, hvars⟩⟩ := pollLeaveTimer_cases htimer now
  · rw [hvars] at hsound ⊢
    refine ⟨hsound, hon, h.kept, ?_⟩
    simpa [registrarVars, clearPending] using henabled
  · rw [hvars] at hsound ⊢
    refine ⟨hsound, hon, fun hin => absurd rfl hin, ?_⟩
    constructor
    · rintro ⟨hnot, -⟩
      cases hnot
    · rintro ⟨hin, -⟩
      exact absurd rfl hin

end

lemma sourceAgrees_step {w : SourceListener}
    (h : SourceAgrees (registrarVars w.attr) w.source w.declared) {i : MrpInput}
    (hi : ReadinessKept w.attr i) :
    SourceAgrees (registrarVars (sourceStep w i).attr) (sourceStep w i).source
      (sourceStep w i).declared := by
  have hvars := registrarVars_mrpInput w.attr i
  show SourceAgrees (registrarVars (mrpInput w.attr i)) (sourceStep w i).source
    (sourceStep w i).declared
  rw [hvars]
  cases i with
  | received e four now =>
    cases e with
    | evNew =>
      obtain ⟨htype, hleave, hkept⟩ := hi (Or.inl rfl)
      exact sourceAgrees_new h htype hleave fun hin => (hkept hin).1
    | evJoinIn =>
      obtain ⟨htype, hleave, hkept⟩ := hi (Or.inr (Or.inl rfl))
      exact sourceAgrees_join h htype hleave fun hin => ⟨(hkept hin).1, (hkept hin).2 (by decide)⟩
    | evJoinMt =>
      obtain ⟨htype, hleave, hkept⟩ := hi (Or.inr (Or.inr rfl))
      exact sourceAgrees_join h htype hleave fun hin => ⟨(hkept hin).1, (hkept hin).2 (by decide)⟩
    | evLv => exact sourceAgrees_leave h now
    | evIn => exact h
    | evMt => exact h
  | leaveAll now => exact sourceAgrees_leave h now
  | transmit leaveAll now =>
    cases leaveAll
    · exact h
    · exact sourceAgrees_leave h now
  | join new => exact h
  | leave => exact h
  | periodicTimer => exact h
  | poll now => exact sourceAgrees_poll h now

/-- **Streaming.**  From the begin of the Listener attribute of a source that does
not stream, in every run in which declarations meet `ReadinessKept`, a poll that
leaves nothing noted leaves the source streaming if and only if a listener is
registered, or leaving, that last declared itself ready. -/
theorem talker_streams_while_ready (a₀ : MrpAttribute) (hfresh : NothingPending a₀)
    (is : List MrpInput) (hg : Run.Guarded mrpInput ReadinessKept (mrpMadBegin a₀) is) (now : ℕ) :
    let w := Run.runFrom sourceStep ⟨mrpMadBegin a₀, .potential, none⟩ (is ++ [.poll now])
    NothingPending w.attr →
      (w.source = .enabled ↔
        w.attr.registrarState ≠ .empty ∧ ∃ d, w.declared = some d ∧ ListenerReady d) ∧
      (w.source ≠ .enabled → w.source = .potential) := by
  intro w hnone
  have hstep : ∀ w i, SourceAgrees (registrarVars w.attr) w.source w.declared →
      ReadinessKept w.attr i →
      SourceAgrees (registrarVars (sourceStep w i).attr) (sourceStep w i).source
        (sourceStep w i).declared := fun _ _ h hi => sourceAgrees_step h hi
  have hinit : SourceAgrees (registrarVars (mrpMadBegin a₀)) .potential none := by
    obtain ⟨hnew, hjoin, -⟩ := (nothingPending_iff a₀).mp hfresh
    refine ⟨timerSound_mrpMadBegin a₀, by decide, fun hin => absurd rfl hin, ?_⟩
    constructor
    · rintro ⟨-, ⟨h | h, -⟩ | h⟩
      · exact absurd (hnew.symm.trans h) Bool.false_ne_true
      · exact absurd (hjoin.symm.trans h) Bool.false_ne_true
      · cases h
    · rintro ⟨hin, -⟩
      exact absurd rfl hin
  have hguard : Run.Guarded sourceStep (fun w i => ReadinessKept w.attr i)
      ⟨mrpMadBegin a₀, .potential, none⟩ (is ++ [.poll now]) := by
    have hattr : ∀ w i, (sourceStep w i).attr = mrpInput w.attr i := fun _ _ => rfl
    refine Run.guarded_watched hattr ?_
    exact (Run.guarded_append _ _ _ _ _).mpr ⟨hg, trivial, trivial⟩
  have hend : SourceAgrees (registrarVars w.attr) w.source w.declared :=
    Run.invariant_of_guarded hstep hinit _ hguard
  obtain ⟨hnew, hjoin, hleave⟩ := (nothingPending_iff w.attr).mp hnone
  have henabled : w.source = .enabled ↔
      w.attr.registrarState ≠ .empty ∧ ListenerReady w.attr.fourVectorParameter := by
    refine Iff.trans ⟨fun h => ⟨hleave, Or.inr h⟩, ?_⟩ hend.streams
    rintro ⟨-, ⟨h | h, -⟩ | h⟩
    · exact absurd (hnew.symm.trans h) Bool.false_ne_true
    · exact absurd (hjoin.symm.trans h) Bool.false_ne_true
    · exact h
  constructor
  · rw [henabled]
    constructor
    · rintro ⟨hin, hready⟩
      obtain ⟨-, d, hd, hdeclared⟩ := hend.kept hin
      exact ⟨hin, d, hd, hdeclared.mpr hready⟩
    · rintro ⟨hin, d, hd, hready⟩
      obtain ⟨-, d', hd', hdeclared⟩ := hend.kept hin
      have hsame : d = d' := Option.some.inj (hd.symm.trans hd')
      rw [hsame] at hready
      exact ⟨hin, hdeclared.mp hready⟩
  · intro hnot
    have hon := hend.on
    cases hsource : w.source with
    | disabled => exact absurd hsource hon
    | potential => rfl
    | enabled => exact absurd hsource hnot

def listenerBecomesReady : List MrpInput := [.received .evJoinIn FourPacked.ready 0]

theorem ready_listener_streams :
    let w := Run.runFrom sourceStep ⟨mrpMadBegin .zero, .potential, none⟩
      (listenerBecomesReady ++ [.poll 5000])
    NothingPending w.attr →
      (w.source = .enabled ↔
        w.attr.registrarState ≠ .empty ∧ ∃ d, w.declared = some d ∧ ListenerReady d) ∧
      (w.source ≠ .enabled → w.source = .potential) :=
  talker_streams_while_ready .zero rfl listenerBecomesReady (by decide +kernel) 5000

/-- The listener then declares Asking Failed.  The registrar keeps the old type, and
the source streams on. -/
theorem asking_failed_listener_streams :
    let w := Run.runFrom sourceStep ⟨mrpMadBegin .zero, .potential, none⟩
      (listenerBecomesReady ++
        [.poll 5000, .received .evJoinIn FourPacked.askingFailed 6000, .poll 10000])
    NothingPending w.attr ∧ w.source = .enabled ∧
      w.declared = some FourPacked.askingFailed ∧ ¬ ListenerReady FourPacked.askingFailed := by
  decide +kernel
