/-
# Silence of two joined participants

Two participants that have joined the same attribute, and are registered with each
other, have nothing left to say.  By a fall-through between two cases, however, a
JoinIn that is delivered to a quiet applicant makes it active again.
-/
import LibTsn.MrpPair

/-! ## Joined participants -/

def HasJoined : MrpApplicantState → Bool
  | .vp | .vn | .an | .aa | .ap | .qa | .qp => true
  | _ => false

structure JoinedRegistered (p : MrpParticipant) : Prop where
  joined : HasJoined p.attr.applicantState = true
  registered : p.attr.isIn = true
  idle : p.leaveAllActive = false
  joinIns : ∀ m ∈ p.inbox, m = ⟨false, some .evJoinIn⟩

instance (p : MrpParticipant) : Decidable (JoinedRegistered p) :=
  decidable_of_iff (HasJoined p.attr.applicantState = true ∧ p.attr.isIn = true ∧
      p.leaveAllActive = false ∧ ∀ m ∈ p.inbox, m = ⟨false, some .evJoinIn⟩)
    ⟨fun ⟨h₁, h₂, h₃, h₄⟩ => ⟨h₁, h₂, h₃, h₄⟩, fun h => ⟨h.joined, h.registered, h.idle, h.joinIns⟩⟩

variable (w : MrpPair)

def MrpPair.at : MrpSide → MrpParticipant
  | .a => w.a
  | .b => w.b

def BothJoined : Prop := JoinedRegistered w.a ∧ JoinedRegistered w.b
  deriving Decidable

def JoinsOnly : MrpSide × MrpAction → Bool
  | (side, .tx _) =>
    match (w.at side).attr.applicantState with
    | .vn | .an => false
    | _ => true
  | (_, .receive _) => true
  | _ => false

def NotWoken : MrpSide × MrpAction → Bool
  | (side, .receive _) =>
    match (w.at side).attr.applicantState with
    | .qa | .qp => (w.at side).inbox.isEmpty
    | _ => true
  | _ => true

def isJoin (m : MrpMessage) : Bool :=
  match m.event with
  | some .evJoinIn | some .evJoinMt => true
  | _ => false

def joinsAt (side : MrpSide) (w : MrpPair) (e : MrpSide × MrpAction) : ℕ :=
  if e.1 = side then (mrpAct (w.at side) e.2).2.countP isJoin else 0

def joinsLeft : MrpApplicantState → ℕ
  | .vp => 2
  | .aa | .ap => 1
  | _ => 0

/-! ## One step -/

section

variable {w : MrpPair} {p : MrpParticipant}

lemma event_of_joinedRegistered (h : JoinedRegistered p) (hvn : p.attr.applicantState ≠ .vn)
    (han : p.attr.applicantState ≠ .an) (now : ℕ) :
    (mrpUpdateState now 0 (txEvent false) p.attr).2 =
      if joinsLeft p.attr.applicantState = 0 then none else some .evJoinIn := by
  have hregistered : p.attr.registrarState = .registered := of_decide_eq_true h.registered
  have hjoined := h.joined
  have hsent : (mrpUpdateState now 0 (txEvent false) p.attr).2 =
      if transmits false p.attr.applicantState then some (makeTxEvent false p.attr) else none :=
    txEvent_eq_some now false p.attr
  rw [hsent, makeTxEvent, hregistered]
  generalize p.attr.applicantState = st at hvn han hjoined ⊢
  cases st with
  | vn => exact absurd rfl hvn
  | an => exact absurd rfl han
  | vp | aa | ap | qa | qp => rfl
  | _ => cases hjoined

lemma joinsLeft_tx (h : JoinedRegistered p) (hvn : p.attr.applicantState ≠ .vn)
    (han : p.attr.applicantState ≠ .an) (now : ℕ) :
    HasJoined (mrpUpdateState now 0 (txEvent false) p.attr).1.applicantState = true ∧
      joinsLeft (mrpUpdateState now 0 (txEvent false) p.attr).1.applicantState =
        joinsLeft p.attr.applicantState - 1 := by
  have hjoined := h.joined
  have hstate : (mrpUpdateState now 0 (txEvent false) p.attr).1.applicantState =
      afterTx p.attr.registrarState p.attr.applicantState := applicantState_tx now false p.attr
  rw [hstate]
  generalize p.attr.applicantState = st at hvn han hjoined ⊢
  cases st with
  | vn => exact absurd rfl hvn
  | an => exact absurd rfl han
  | vp | aa | ap | qa | qp => exact ⟨rfl, rfl⟩
  | _ => cases hjoined

lemma applicantState_joinIn {st : MrpApplicantState} (hjoined : HasJoined st = true)
    (hqa : st ≠ .qa) (hqp : st ≠ .qp) : applicantEvent .receiveJoinIn st = st := by
  cases st with
  | qa => exact absurd rfl hqa
  | qp => exact absurd rfl hqp
  | vp | vn | an | aa | ap => rfl
  | _ => cases hjoined

/-- **One step of one end.**  It stays joined, what it sends are JoinIn events, and they are
taken from the Joins that it has left. -/
theorem joinedRegistered_mrpAct (side : MrpSide) (h : JoinedRegistered (w.at side))
    {act : MrpAction}
    (honly : JoinsOnly w (side, act) = true) (hwoken : NotWoken w (side, act) = true) :
    JoinedRegistered (mrpAct (w.at side) act).1 ∧
      (∀ m ∈ (mrpAct (w.at side) act).2, m = ⟨false, some .evJoinIn⟩) ∧
      (mrpAct (w.at side) act).2.countP isJoin +
          joinsLeft (mrpAct (w.at side) act).1.attr.applicantState =
        joinsLeft (w.at side).attr.applicantState := by
  cases act with
  | tx now =>
    have hvn : (w.at side).attr.applicantState ≠ .vn := by
      intro hvn
      simp only [JoinsOnly, hvn] at honly
      cases honly
    have han : (w.at side).attr.applicantState ≠ .an := by
      intro han
      simp only [JoinsOnly, han] at honly
      cases honly
    obtain ⟨hjoined, hleft⟩ := joinsLeft_tx h hvn han now
    have hin : (mrpUpdateState now 0 (txEvent false) (w.at side).attr).1.isIn = true := by
      have hsame := isIn_mrpInput_of_unpolled (i := .transmit false now) (by intro _ h; cases h)
        (w.at side).attr
      exact hsame.trans h.registered
    have hact : mrpAct (w.at side) (.tx now) =
        (⟨(mrpUpdateState now 0 (txEvent false) (w.at side).attr).1, false, (w.at side).inbox⟩,
          txMessages false (mrpUpdateState now 0 (txEvent false) (w.at side).attr).2) := by
      unfold mrpAct
      rw [h.idle]
    rw [hact, event_of_joinedRegistered h hvn han now]
    refine ⟨⟨hjoined, hin, rfl, h.joinIns⟩, ?_⟩
    show _ ∧
      _ + joinsLeft (mrpUpdateState now 0 (txEvent false) (w.at side).attr).1.applicantState = _
    rw [hleft]
    split_ifs with hzero
    · refine ⟨?_, ?_⟩
      · intro m hm
        cases hm
      · rw [hzero]
        rfl
    · refine ⟨?_, ?_⟩
      · intro m hm
        exact List.mem_singleton.mp hm
      · show 1 + (joinsLeft (w.at side).attr.applicantState - 1) = _
        omega
  | receive now =>
    cases hinbox : (w.at side).inbox with
    | nil =>
      rw [mrpAct_receive_nil hinbox]
      refine ⟨h, ?_, Nat.zero_add _⟩
      intro m hm
      cases hm
    | cons m rest =>
      have hm : m = ⟨false, some .evJoinIn⟩ :=
        h.joinIns m (by rw [hinbox]; exact List.mem_cons_self)
      have hqa : (w.at side).attr.applicantState ≠ .qa := by
        intro hqa
        simp only [NotWoken, hqa, hinbox] at hwoken
        cases hwoken
      have hqp : (w.at side).attr.applicantState ≠ .qp := by
        intro hqp
        simp only [NotWoken, hqp, hinbox] at hwoken
        cases hwoken
      have hstate : (receiveMessage now m (w.at side).attr).applicantState =
          (w.at side).attr.applicantState := by
        rw [hm]
        have hevent := applicantState_mrpInput (i := .received .evJoinIn 0 now)
          (by intro _ _ h; cases h) (w.at side).attr
        exact hevent.trans (applicantState_joinIn h.joined hqa hqp)
      rw [mrpAct_receive_cons hinbox]
      refine ⟨⟨?_, ?_, ?_, ?_⟩, ?_, ?_⟩
      · show HasJoined (receiveMessage now m (w.at side).attr).applicantState = true
        rw [hstate]
        exact h.joined
      · show (receiveMessage now m (w.at side).attr).isIn = true
        rw [isIn_receiveMessage, hm]
        rfl
      · show ((w.at side).leaveAllActive && !m.leaveAll) = false
        rw [h.idle, Bool.false_and]
      · intro m' hm'
        refine h.joinIns m' ?_
        rw [hinbox]
        exact List.mem_cons_of_mem _ hm'
      · intro m' hm'
        cases hm'
      · show 0 + joinsLeft (receiveMessage now m (w.at side).attr).applicantState = _
        rw [hstate, Nat.zero_add]
  | request r => cases honly
  | leaveAllTimer now => cases honly
  | periodicTimer => cases honly
  | poll now => cases honly

lemma JoinedRegistered.send (h : JoinedRegistered p) {ms : List MrpMessage}
    (hms : ∀ m ∈ ms, m = ⟨false, some .evJoinIn⟩) : JoinedRegistered (p.send ms) := by
  refine ⟨h.joined, h.registered, h.idle, fun m hm => ?_⟩
  rcases List.mem_append.mp hm with hm | hm
  · exact h.joinIns m hm
  · exact hms m hm

lemma joinedRegistered_step (h : BothJoined w) {e : MrpSide × MrpAction}
    (honly : JoinsOnly w e = true) (hwoken : NotWoken w e = true) : BothJoined (pairStep w e) ∧
      ∀ side, joinsAt side w e + joinsLeft ((pairStep w e).at side).attr.applicantState ≤
        joinsLeft (w.at side).attr.applicantState := by
  obtain ⟨actor, act⟩ := e
  obtain ⟨ha, hb⟩ := h
  cases actor with
  | a =>
    obtain ⟨hjoined, hsent, hleft⟩ := joinedRegistered_mrpAct .a ha honly hwoken
    refine ⟨⟨hjoined, hb.send hsent⟩, fun side => ?_⟩
    cases side with
    | a => exact hleft.le
    | b => exact (Nat.zero_add _).le
  | b =>
    obtain ⟨hjoined, hsent, hleft⟩ := joinedRegistered_mrpAct .b hb honly hwoken
    refine ⟨⟨ha.send hsent, hjoined⟩, fun side => ?_⟩
    cases side with
    | a => exact (Nat.zero_add _).le
    | b => exact hleft.le

end

/-! ## Whole runs -/

/-- **Silence.**  From every state in which both have joined and are registered, along every
interleaving of transmit opportunities and deliveries that sends no New and delivers to no
quiet applicant, each of the two sends at most two Joins. -/
theorem joins_bounded (w : MrpPair) (hjoined : BothJoined w) (es : List (MrpSide × MrpAction))
    (hg : Run.Guarded pairStep (fun w e => JoinsOnly w e = true ∧ NotWoken w e = true) w es)
    (side : MrpSide) : Run.total pairStep (joinsAt side) w es ≤ 2 := by
  have hstep : ∀ w e, BothJoined w → JoinsOnly w e = true ∧ NotWoken w e = true →
      BothJoined (pairStep w e) ∧
        joinsAt side w e + joinsLeft ((pairStep w e).at side).attr.applicantState ≤
          joinsLeft (w.at side).attr.applicantState := by
    intro w e h he
    obtain ⟨hnext, hleft⟩ := joinedRegistered_step h he.1 he.2
    exact ⟨hnext, hleft side⟩
  have htotal : Run.total pairStep (joinsAt side) w es ≤
      joinsLeft (w.at side).attr.applicantState :=
    Run.total_le_rank (fun w => joinsLeft (w.at side).attr.applicantState) hstep hjoined es hg
  have hleft : joinsLeft (w.at side).attr.applicantState ≤ 2 := by
    generalize (w.at side).attr.applicantState = st
    cases st <;> decide
  exact htotal.trans hleft

def joinedPair : MrpPair :=
  Run.runFrom pairStep (pairBegin .zero .zero)
    [(.a, .request .join), (.b, .request .join), (.a, .tx 0), (.b, .receive 0), (.b, .tx 1),
      (.a, .receive 1), (.b, .tx 2), (.a, .receive 2)]

theorem joinedPair_silent : Run.total pairStep (joinsAt .a) joinedPair
      [(.a, .tx 3), (.a, .tx 4), (.a, .tx 5)] ≤ 2 :=
  joins_bounded joinedPair (by decide +kernel) _ (by decide +kernel) .a

def turn : List (MrpSide × MrpAction) :=
  [(.a, .tx 0), (.b, .receive 0), (.b, .tx 0), (.a, .receive 0)]

def turns : ℕ → List (MrpSide × MrpAction)
  | 0 => []
  | n + 1 => turn ++ turns n

/-- Behind its own transmission each of the two is made active again by that of the other:
the Joins never stop. -/
theorem joins_unbounded : BothJoined joinedPair ∧
      ∀ n, Run.Guarded pairStep (fun w e => JoinsOnly w e = true) joinedPair (turns n) ∧
        Run.total pairStep (joinsAt .a) joinedPair (turns n) = n := by
  -- a turn sends one Join of each and leads back to where it started
  have hsame : Run.runFrom pairStep joinedPair turn = joinedPair := by decide +kernel
  have hguard : Run.Guarded pairStep (fun w e => JoinsOnly w e = true) joinedPair turn := by
    decide +kernel
  have hone : Run.total pairStep (joinsAt .a) joinedPair turn = 1 := by decide +kernel
  refine ⟨by decide +kernel, fun n => ?_⟩
  induction n with
  | zero => exact ⟨trivial, rfl⟩
  | succ n ih =>
    rw [turns, Run.guarded_append, Run.total_append, hsame, hone, ih.2, Nat.add_comm]
    exact ⟨⟨hguard, ih.1⟩, rfl⟩
