/-
# Back to waiting

A machine that has accepted a packet returns to `WAITING` by its own periodic
calls, and accepts packets again.  The one exception is the listener: a response
whose unique id is out of range is accepted, and then never dealt with.
-/
import LibTsn.Acmp
import LibTsn.Slots

/-! ## Machines -/

inductive AcmpMachine where
  | controller
  | talker
  | listener
  deriving DecidableEq, Repr

variable (cfg : AcmpConfig) (pkt : AcmpCmdResp) (s : AcmpState)

/-- The machine is in its `WAITING` state. -/
def AcmpMachine.Waiting : AcmpMachine → Prop
  | .controller => s.controllerState = .waiting
  | .talker => s.talkerState = .waiting
  | .listener => s.listenerState = .waiting

def AcmpMachine.own : AcmpMachine → AcmpEvent → Bool
  | .controller, .controllerPeriodic _ => true
  | .talker, .talkerPeriodic _ => true
  | .listener, .listenerPeriodic _ => true
  | _, _ => false

def AcmpEvent.isPeriodic : AcmpEvent → Bool
  | .controllerPeriodic _ => true
  | .talkerPeriodic _ => true
  | .listenerPeriodic _ => true
  | _ => false

def AcmpMachine.TimesOut : AcmpMachine → AcmpEvent → Prop
  | .controller, .controllerPeriodic env =>
    s.controllerState = .waiting ∧
      (acmpCheckInflightCommandTimeouts (acmpProgressInflightTimer env s.controller)).isSome
  | .listener, .listenerPeriodic env =>
    s.listenerState = .waiting ∧
      (acmpCheckInflightCommandTimeouts (acmpProgressInflightTimer env s.listener)).isSome
  | _, _ => False

/-- **Settling.**  Without further packets, the machine is waiting after each of
its own calls from the second on at which no command newly times out. -/
def AcmpMachine.Settles (M : AcmpMachine) : Prop :=
  ∀ (es : List AcmpEvent) (e : AcmpEvent), (∀ x ∈ es, x.isPeriodic = true) → M.own e = true →
    1 ≤ es.countP M.own → ¬ M.TimesOut (Run.runFrom (acmpStep cfg) s es) e →
    M.Waiting (Run.runFrom (acmpStep cfg) s (es ++ [e]))

lemma processAcmpPacket_cases : processAcmpPacket cfg pkt s = s ∨
    (s.controllerState = .waiting ∧ processAcmpPacket cfg pkt s =
      { s with
        controller := { s.controller with cmdResp := pkt }
        controllerState := acmpControllerNext pkt.messageType }) ∨
    (s.talkerState = .waiting ∧ processAcmpPacket cfg pkt s =
      { s with talkerRcvdCmdResp := pkt, talkerState := acmpTalkerNext pkt.messageType }) ∨
    (s.listenerState = .waiting ∧ pkt.listenerGuid = cfg.myGuid ∧ processAcmpPacket cfg pkt s =
      { s with
        listener := { s.listener with cmdResp := pkt }
        listenerState := acmpListenerNext pkt.messageType }) := by
  have hcontroller : processAcmpControllerPacket cfg pkt s = s ∨
      (s.controllerState = .waiting ∧ processAcmpControllerPacket cfg pkt s =
        { s with
          controller := { s.controller with cmdResp := pkt }
          controllerState := acmpControllerNext pkt.messageType }) := by
    unfold processAcmpControllerPacket
    split_ifs with hstate hguid
    · exact Or.inl rfl
    · exact Or.inl rfl
    · split
      · exact Or.inl rfl
      · split_ifs
        · exact Or.inl rfl
        · exact Or.inr ⟨not_not.mp hstate, rfl⟩
  have htalker : processAcmpTalkerPacket cfg pkt s = s ∨
      (s.talkerState = .waiting ∧ processAcmpTalkerPacket cfg pkt s =
        { s with talkerRcvdCmdResp := pkt, talkerState := acmpTalkerNext pkt.messageType }) := by
    unfold processAcmpTalkerPacket
    split_ifs with hguid hstate
    · exact Or.inl rfl
    · exact Or.inl rfl
    · exact Or.inr ⟨not_not.mp hstate, rfl⟩
  have hlistener : processAcmpListenerPacket cfg pkt s = s ∨
      (s.listenerState = .waiting ∧ pkt.listenerGuid = cfg.myGuid ∧
        processAcmpListenerPacket cfg pkt s =
        { s with
          listener := { s.listener with cmdResp := pkt }
          listenerState := acmpListenerNext pkt.messageType }) := by
    unfold processAcmpListenerPacket
    split_ifs with hguid hstate
    · exact Or.inl rfl
    · exact Or.inl rfl
    · exact Or.inr ⟨not_not.mp hstate, not_not.mp hguid, rfl⟩
  unfold processAcmpPacket
  split <;>
    first
    | exact Or.inl rfl
    | exact htalker.imp_right fun h => Or.inr (Or.inl h)
    | exact hlistener.imp_right fun h => Or.inr (Or.inr h)
    | exact hcontroller.imp_right fun h => Or.inl h

/-! ## The listener and the other machines -/

structure SameListener (s s' : AcmpState) : Prop where
  state : s'.listenerState = s.listenerState
  entity : s'.listener = s.listener
  streams : s'.listenerStreams = s.listenerStreams

lemma SameListener.refl : SameListener s s := ⟨rfl, rfl, rfl⟩

/-- The waiting listener takes a message. -/
structure Takes (p : AcmpCmdResp) (s s' : AcmpState) : Prop where
  waiting : s.listenerState = .waiting
  state : s'.listenerState = acmpListenerNext p.messageType
  entity : s'.listener = { s.listener with cmdResp := p }
  streams : s'.listenerStreams = s.listenerStreams

lemma sameListener_or_takes_processAcmpPacket (p : AcmpCmdResp) (s : AcmpState) :
    SameListener s (processAcmpPacket cfg p s) ∨
      p.listenerGuid = cfg.myGuid ∧ Takes p s (processAcmpPacket cfg p s) := by
  rcases processAcmpPacket_cases cfg p s with hp | ⟨-, hp⟩ | ⟨-, hp⟩ | ⟨hw, hguid, hp⟩
  · rw [hp]
    exact Or.inl (.refl s)
  · rw [hp]
    exact Or.inl ⟨rfl, rfl, rfl⟩
  · rw [hp]
    exact Or.inl ⟨rfl, rfl, rfl⟩
  · rw [hp]
    exact Or.inr ⟨hguid, hw, rfl, rfl, rfl⟩

lemma sameListener_or_takes_sendControllerCommand (messageType : ℕ) (retry : Option ℕ)
    (s : AcmpState) : SameListener s (acmpSendCommand cfg .controller messageType retry s).1 ∨
    ∃ p, p.messageType = messageType ∧
      Takes p s (acmpSendCommand cfg .controller messageType retry s).1 := by
  rcases sameListener_or_takes_processAcmpPacket cfg
    (acmpCommandPacket messageType retry s.controller)
    (s.setEntity (acmpNumberCommand s.controller retry) .controller) with h | ⟨-, h⟩
  · exact Or.inl ⟨h.state, h.entity, h.streams⟩
  · exact Or.inr ⟨_, rfl, h.waiting, h.state, h.entity, h.streams⟩

/-! ## Commands in flight -/

def InFlightAll (P : AcmpInflight → Prop) (fs : List AcmpInflight) : Prop :=
  ∀ f ∈ fs, f.inUse = true → P f

/-- `CONNECT_RX_COMMAND` or `DISCONNECT_RX_COMMAND`. -/
def IsRxCommand (messageType : ℕ) : Prop :=
  messageType = AcmpCmd.connectRxCommand ∨ messageType = AcmpCmd.disconnectRxCommand

def RxCommandsOnly (fs : List AcmpInflight) : Prop :=
  ∀ f ∈ fs, f.inUse = true → IsRxCommand f.command.messageType

def InUseAt (fs : List AcmpInflight) (i : ℕ) : Prop := (fs.getD i .zero).inUse = true

section

variable {P : AcmpInflight → Prop} {fs : List AcmpInflight} {g : AcmpInflight → AcmpInflight}
  {ent : AcmpEntity}

lemma exists_of_mem_modify {i : ℕ} {f : AcmpInflight} (hf : f ∈ fs.modify i g) :
    ∃ f₀ ∈ fs, f = f₀ ∨ f = g f₀ := by
  obtain ⟨j, hj⟩ := List.mem_iff_getElem?.mp hf
  rw [List.getElem?_modify] at hj
  cases hcase : fs[j]? with
  | none =>
    rw [hcase] at hj
    cases hj
  | some f₀ =>
    rw [hcase] at hj
    refine ⟨f₀, List.mem_of_getElem? hcase, ?_⟩
    simp only [Option.map_eq_map, Option.map_some, Option.some.injEq] at hj
    split_ifs at hj with h
    · exact Or.inr hj.symm
    · exact Or.inl hj.symm

lemma inFlightAll_modify (h : InFlightAll P fs) (i : ℕ)
    (hg : ∀ f, (g f).inUse = true → f.inUse = true ∧ (P f → P (g f))) :
    InFlightAll P (fs.modify i g) := by
  intro f hf huse
  obtain ⟨f₀, hf₀, rfl | rfl⟩ := exists_of_mem_modify hf
  · exact h f hf₀ huse
  · obtain ⟨huse₀, hP⟩ := hg f₀ huse
    exact hP (h f₀ hf₀ huse₀)

def AcmpEntity.newEntry (ent : AcmpEntity) (messageType : ℕ) (originalSequenceId : UInt16) :
    AcmpInflight where
  inUse := true
  timeout := acmpInflightTimeout messageType ent
  retried := false
  command := { ent.cmdResp with messageType := messageType }
  originalSequenceId := originalSequenceId

lemma inFlightAll_acmpAddInflight (h : InFlightAll P ent.inflightCommands) (messageType : ℕ)
    (id : UInt16) (hP : P (ent.newEntry messageType id)) :
    InFlightAll P (acmpAddInflight messageType id ent).inflightCommands := by
  unfold acmpAddInflight
  split
  · exact h
  · intro f hf huse
    rcases List.mem_or_eq_of_mem_set hf with hf | rfl
    · exact h f hf huse
    · exact hP

lemma InFlightAll.getD (h : InFlightAll P fs) {i : ℕ} (hi : InUseAt fs i) :
    P (fs.getD i .zero) := by
  unfold InUseAt at hi
  rw [List.getD_eq_getElem?_getD] at hi ⊢
  cases hcase : fs[i]? with
  | none =>
    rw [hcase] at hi
    cases hi
  | some f =>
    rw [hcase] at hi
    exact h f (List.mem_of_getElem? hcase) hi

lemma rxCommandsOnly_modify (h : RxCommandsOnly fs) (i : ℕ)
    (huse : ∀ f, (g f).inUse = true → f.inUse = true)
    (htype : ∀ f, (g f).command.messageType = f.command.messageType) :
    RxCommandsOnly (fs.modify i g) := by
  refine inFlightAll_modify (P := fun f => IsRxCommand f.command.messageType) h i fun f hf =>
    ⟨huse f hf, fun hP => ?_⟩
  rw [htype]
  exact hP

lemma inUseAt_modify {i j : ℕ} (h : InUseAt fs i) (huse : ∀ f, (g f).inUse = f.inUse) :
    InUseAt (fs.modify j g) i := by
  unfold InUseAt at h ⊢
  rw [List.getD_eq_getElem?_getD] at h ⊢
  rw [List.getElem?_modify]
  cases hcase : fs[i]? with
  | none =>
    rw [hcase] at h
    exact h
  | some f =>
    rw [hcase] at h
    simp only [Option.map_eq_map, Option.map_some, Option.getD_some] at h ⊢
    split_ifs
    · rw [huse]
      exact h
    · exact h

lemma rxCommandsOnly_acmpAddInflight (h : RxCommandsOnly ent.inflightCommands)
    {messageType : ℕ} (ht : IsRxCommand messageType) (id : UInt16) :
    RxCommandsOnly (acmpAddInflight messageType id ent).inflightCommands :=
  inFlightAll_acmpAddInflight (P := fun f => IsRxCommand f.command.messageType) h messageType id ht

lemma inUseAt_acmpAddInflight {i : ℕ} (h : InUseAt ent.inflightCommands i) (messageType : ℕ)
    (id : UInt16) : InUseAt (acmpAddInflight messageType id ent).inflightCommands i := by
  unfold acmpAddInflight
  split
  · exact h
  · next j hj =>
    obtain ⟨hlen, hfree, -⟩ := List.findIdx?_eq_some_iff_getElem.mp hj
    unfold InUseAt at h ⊢
    by_cases hij : j = i
    · subst hij
      rw [List.getD_eq_getElem?_getD, List.getElem?_eq_getElem hlen, Option.getD_some] at h
      rw [h] at hfree
      cases hfree
    · rw [Slots.getD_set_ne hij]
      exact h

end

/-! ## What holds in every run -/

structure AcmpRunning (s : AcmpState) : Prop where
  controller : s.controllerState ≠ .idle
  talker : s.talkerState ≠ .idle
  listener : s.listenerState ≠ .idle
  commands : RxCommandsOnly s.controller.inflightCommands
  timedOut : s.controllerState = .timeout → ∀ i, s.controller.inflightTimeoutIdx = some i →
    InUseAt s.controller.inflightCommands i

section

variable {cfg : AcmpConfig} {s s' : AcmpState}

lemma acmpRunning_congr (h : AcmpRunning s) (hc : s'.controllerState = s.controllerState)
    (ht : s'.talkerState ≠ .idle) (hl : s'.listenerState ≠ .idle)
    (hf : s'.controller.inflightCommands = s.controller.inflightCommands)
    (hi : s'.controller.inflightTimeoutIdx = s.controller.inflightTimeoutIdx) : AcmpRunning s' := by
  refine ⟨?_, ht, hl, ?_, ?_⟩
  · rw [hc]
    exact h.controller
  · rw [hf]
    exact h.commands
  · rw [hc, hf, hi]
    exact h.timedOut

lemma acmpRunning_controllerWaiting (ht : s.talkerState ≠ .idle) (hl : s.listenerState ≠ .idle)
    (hf : RxCommandsOnly s.controller.inflightCommands) :
    AcmpRunning { s with controllerState := .waiting } := by
  refine ⟨?_, ht, hl, hf, ?_⟩
  · intro h
    cases h
  · intro h
    cases h

variable {ent : AcmpEntity} (messageType : ℕ)

lemma acmpControllerNext_ne :
    acmpControllerNext messageType ≠ .idle ∧ acmpControllerNext messageType ≠ .timeout := by
  unfold acmpControllerNext
  split <;> exact ⟨by decide, by decide⟩

lemma acmpTalkerNext_ne : acmpTalkerNext messageType ≠ .idle := by
  unfold acmpTalkerNext
  split <;> decide

lemma acmpListenerNext_ne : acmpListenerNext messageType ≠ .idle := by
  unfold acmpListenerNext
  split <;> decide

lemma acmpRunning_processAcmpPacket (cfg : AcmpConfig) (h : AcmpRunning s) (pkt : AcmpCmdResp) :
    AcmpRunning (processAcmpPacket cfg pkt s) := by
  rcases processAcmpPacket_cases cfg pkt s with hp | ⟨-, hp⟩ | ⟨-, hp⟩ | ⟨-, -, hp⟩
  · rw [hp]
    exact h
  · rw [hp]
    obtain ⟨hidle, htimeout⟩ := acmpControllerNext_ne pkt.messageType
    exact ⟨hidle, h.talker, h.listener, h.commands, fun ht => absurd ht htimeout⟩
  · rw [hp]
    exact acmpRunning_congr h rfl (acmpTalkerNext_ne _) h.listener rfl rfl
  · rw [hp]
    exact acmpRunning_congr h rfl h.talker (acmpListenerNext_ne _) rfl rfl

lemma acmpRunning_sendListenerCommand (cfg : AcmpConfig) (h : AcmpRunning s) (messageType : ℕ)
    (retry : Option ℕ) : AcmpRunning (acmpSendCommand cfg .listener messageType retry s).1 := by
  have hnumbered : AcmpRunning (s.setEntity (acmpNumberCommand s.listener retry) .listener) :=
    acmpRunning_congr h rfl h.talker h.listener rfl rfl
  have hlooped := acmpRunning_processAcmpPacket cfg hnumbered
    (acmpCommandPacket messageType retry s.listener)
  exact acmpRunning_congr hlooped rfl hlooped.talker hlooped.listener rfl rfl

lemma rxCommandsOnly_acmpNumberCommand (h : RxCommandsOnly ent.inflightCommands)
    (retry : Option ℕ) : RxCommandsOnly (acmpNumberCommand ent retry).inflightCommands := by
  cases retry with
  | none => exact h
  | some i => exact rxCommandsOnly_modify h i (fun _ hf => hf) (fun _ => rfl)

lemma rxCommandsOnly_acmpNoteCommand (h : RxCommandsOnly ent.inflightCommands) {messageType : ℕ}
    (ht : IsRxCommand messageType) (id : UInt16) (retry : Option ℕ) :
    RxCommandsOnly (acmpNoteCommand messageType id ent retry).inflightCommands := by
  cases retry with
  | none => exact rxCommandsOnly_acmpAddInflight h ht id
  | some i => exact rxCommandsOnly_modify h i (fun _ hf => hf) (fun _ => rfl)

lemma acmpNoteCommand_timeoutIdx (id : UInt16) (ent : AcmpEntity) (retry : Option ℕ) :
    (acmpNoteCommand messageType id ent retry).inflightTimeoutIdx = ent.inflightTimeoutIdx := by
  cases retry with
  | none =>
    show (acmpAddInflight messageType id ent).inflightTimeoutIdx = _
    unfold acmpAddInflight
    split <;> rfl
  | some i => rfl

lemma inUseAt_acmpNoteCommand {i : ℕ} (h : InUseAt ent.inflightCommands i) (messageType : ℕ)
    (id : UInt16) (retry : Option ℕ) :
    InUseAt (acmpNoteCommand messageType id ent retry).inflightCommands i := by
  cases retry with
  | none => exact inUseAt_acmpAddInflight h messageType id
  | some j => exact inUseAt_modify h fun _ => rfl

lemma acmpRunning_sendControllerCommand (h : AcmpRunning s) {messageType : ℕ}
    (ht : IsRxCommand messageType) (retry : Option ℕ) :
    AcmpRunning (acmpSendCommand cfg .controller messageType retry s).1 := by
  have hnumbered :
      AcmpRunning (s.setEntity (acmpNumberCommand s.controller retry) .controller) := by
    refine ⟨h.controller, h.talker, h.listener,
      rxCommandsOnly_acmpNumberCommand h.commands retry, ?_⟩
    intro hstate i hi
    cases retry with
    | none => exact h.timedOut hstate i hi
    | some j => exact inUseAt_modify (h.timedOut hstate i hi) fun _ => rfl
  have hlooped := acmpRunning_processAcmpPacket cfg hnumbered
    (acmpCommandPacket messageType retry s.controller)
  refine ⟨hlooped.controller, hlooped.talker, hlooped.listener,
    rxCommandsOnly_acmpNoteCommand hlooped.commands ht _ retry, ?_⟩
  intro hstate i hi
  refine inUseAt_acmpNoteCommand (hlooped.timedOut hstate i ?_) _ _ retry
  rw [← hi]
  exact (acmpNoteCommand_timeoutIdx _ _ _ retry).symm

end

section

variable {cfg : AcmpConfig} {s : AcmpState}

lemma inUseAt_of_check {ent : AcmpEntity} {i : ℕ}
    (h : acmpCheckInflightCommandTimeouts ent = some i) : InUseAt ent.inflightCommands i := by
  obtain ⟨hlen, hfound, -⟩ := List.findIdx?_eq_some_iff_getElem.mp h
  rw [Bool.and_eq_true] at hfound
  unfold InUseAt
  rw [List.getD_eq_getElem?_getD, List.getElem?_eq_getElem hlen, Option.getD_some]
  exact hfound.1

lemma acmpProgressInflightTimer_inflight (env : AcmpEnv) (ent : AcmpEntity) :
    (acmpProgressInflightTimer env ent).inflightCommands = ent.inflightCommands := by
  unfold acmpProgressInflightTimer
  dsimp only
  split_ifs <;> rfl

lemma rxCommandsOnly_acmpRemoveInflight {ent : AcmpEntity}
    (h : RxCommandsOnly ent.inflightCommands) :
    RxCommandsOnly (acmpRemoveInflight ent).1.inflightCommands := by
  unfold acmpRemoveInflight
  split
  · exact h
  · exact rxCommandsOnly_modify h _ (fun _ hf => absurd hf Bool.false_ne_true) (fun _ => rfl)

lemma isRxCommand_of_inUseAt {fs : List AcmpInflight} (h : RxCommandsOnly fs) {i : ℕ}
    (hi : InUseAt fs i) : IsRxCommand (fs.getD i .zero).command.messageType :=
  InFlightAll.getD (P := fun f => IsRxCommand f.command.messageType) h hi

lemma acmpRunning_acmpControllerTimeout (cfg : AcmpConfig) (h : AcmpRunning s)
    (hstate : s.controllerState = .timeout) : AcmpRunning (acmpControllerTimeout cfg s).1 ∨
      ∃ i, (acmpControllerTimeout cfg s).1 = { s with controller := { s.controller with
        inflightCommands :=
          s.controller.inflightCommands.modify i ({ · with inUse := false }) } } := by
  unfold acmpControllerTimeout
  split
  · exact Or.inl h
  · next i hi =>
    dsimp only
    split_ifs
    · exact Or.inr ⟨i, rfl⟩
    · refine Or.inl (acmpRunning_sendControllerCommand h ?_ (some i))
      exact isRxCommand_of_inUseAt h.commands (h.timedOut hstate i hi)

lemma acmpRunning_controllerPeriodic (h : AcmpRunning s) (env : AcmpEnv) :
    AcmpRunning (acmpControllerPeriodic cfg env s).1 := by
  have hremoved : AcmpRunning { acmpControllerRemoveInflight s with controllerState := .waiting } :=
    acmpRunning_controllerWaiting h.talker h.listener (rxCommandsOnly_acmpRemoveInflight h.commands)
  unfold acmpControllerPeriodic
  split
  · exact h
  · -- the poll finds an entry in use, or the machine goes on waiting
    have hfs := acmpProgressInflightTimer_inflight env s.controller
    refine ⟨?_, h.talker, h.listener, ?_, ?_⟩
    · dsimp only
      split_ifs
      · decide
      · decide
    · show RxCommandsOnly (acmpProgressInflightTimer env s.controller).inflightCommands
      rw [hfs]
      exact h.commands
    · intro _ i hi
      exact inUseAt_of_check hi
  · next hstate =>
    rcases acmpRunning_acmpControllerTimeout cfg h hstate with hrun | ⟨i, hout⟩
    · exact acmpRunning_controllerWaiting hrun.talker hrun.listener hrun.commands
    · dsimp only
      rw [hout]
      refine acmpRunning_controllerWaiting h.talker h.listener ?_
      exact rxCommandsOnly_modify h.commands i (fun _ hf => absurd hf Bool.false_ne_true)
        (fun _ => rfl)
  · exact hremoved
  · exact hremoved
  · exact hremoved
  · exact hremoved
  · exact hremoved

/-! What a call of a machine may change. -/

lemma acmpControllerPeriodic_eq (cfg : AcmpConfig) (env : AcmpEnv) (s : AcmpState) :
    ∃ s₀ state ent, (acmpControllerPeriodic cfg env s).1 =
        { s₀ with controllerState := state, controller := ent } ∧
      (s₀ = s ∨ ∃ messageType retry, (AcmpRunning s → IsRxCommand messageType) ∧
        s₀ = (acmpSendCommand cfg .controller messageType retry s).1) := by
  unfold acmpControllerPeriodic
  split
  case h_3 hstate =>
    unfold acmpControllerTimeout
    split
    · exact ⟨s, _, _, rfl, Or.inl rfl⟩
    · next i hi =>
      dsimp only
      split_ifs
      · exact ⟨s, _, _, rfl, Or.inl rfl⟩
      · refine ⟨_, _, _, rfl, Or.inr ⟨_, some i, fun h => ?_, rfl⟩⟩
        exact isRxCommand_of_inUseAt h.commands (h.timedOut hstate i hi)
  all_goals exact ⟨s, _, _, rfl, Or.inl rfl⟩

lemma acmpTalkerHook_eq (env : AcmpEnv) (s : AcmpState) :
    acmpTalkerHook env s = { s with talkerStreams := (acmpTalkerHook env s).talkerStreams } := by
  unfold acmpTalkerHook
  split <;> rfl

lemma acmpTalkerPeriodic_eq (cfg : AcmpConfig) (env : AcmpEnv) (s : AcmpState) :
    ∃ state resp streams, (acmpTalkerPeriodic cfg env s).1 =
        { s with talkerState := state, talkerRcvdCmdResp := resp, talkerStreams := streams } ∧
      (state = .idle → s.talkerState = .idle) := by
  unfold acmpTalkerPeriodic
  split
  · exact ⟨_, _, _, rfl, id⟩
  · exact ⟨_, _, _, rfl, id⟩
  · unfold acmpTalkerConnect
    rw [acmpTalkerHook_eq]
    split_ifs <;> exact ⟨.waiting, _, _, rfl, nofun⟩
  · unfold acmpTalkerDisconnect
    split_ifs <;> exact ⟨.waiting, _, _, rfl, nofun⟩
  · unfold acmpTalkerGetStateResponse
    split_ifs <;> exact ⟨.waiting, _, _, rfl, nofun⟩
  · unfold acmpTalkerGetConnectionResponse acmpTalkerGetConnection
    dsimp only
    split_ifs <;> exact ⟨.waiting, _, _, rfl, nofun⟩

/-- A call of the listener changes nothing but the listener, but for the command it sends. -/
lemma acmpListenerPeriodic_eq (cfg : AcmpConfig) (env : AcmpEnv) (s : AcmpState) :
    ∃ s₀ ent state streams, (acmpListenerPeriodic cfg env s).1 =
        { s₀ with listener := ent, listenerState := state, listenerStreams := streams } ∧
      (state = .idle → s.listenerState = .idle) ∧
      (s₀ = s ∨ ∃ messageType retry,
        s₀ = (acmpSendCommand cfg .listener messageType retry s).1) := by
  have hremoved : ∃ ent, (acmpListenerRemoveInflight s).1 = { s with listener := ent } := by
    unfold acmpListenerRemoveInflight
    dsimp only
    split <;> exact ⟨_, rfl⟩
  unfold acmpListenerPeriodic
  split
  · exact ⟨s, _, _, _, rfl, id, Or.inl rfl⟩
  · refine ⟨s, _, _, _, rfl, ?_, Or.inl rfl⟩
    split_ifs <;> exact nofun
  · unfold acmpListenerConnectRx
    split_ifs
    · exact ⟨s, _, .waiting, _, rfl, nofun, Or.inl rfl⟩
    · exact ⟨_, _, .waiting, _, rfl, nofun, Or.inr ⟨_, _, rfl⟩⟩
    · exact ⟨s, _, .waiting, _, rfl, nofun, Or.inl rfl⟩
  · unfold acmpListenerDisconnectRx
    dsimp only
    split_ifs
    · exact ⟨(acmpSendCommand cfg .listener _ none s).1, _, .waiting, _, rfl, nofun,
        Or.inr ⟨_, _, rfl⟩⟩
    · exact ⟨s, _, .waiting, _, rfl, nofun, Or.inl rfl⟩
    · exact ⟨s, _, .waiting, _, rfl, nofun, Or.inl rfl⟩
  · obtain ⟨ent, hent⟩ := hremoved
    unfold acmpListenerConnectTx acmpListenerAnswerConnect acmpListenerConnected
      acmpListenerAfterConnect
    dsimp only
    rw [hent]
    split_ifs
    all_goals first
      | exact ⟨s, _, .getState, _, rfl, nofun, Or.inl rfl⟩
      | exact ⟨s, _, .waiting, _, rfl, nofun, Or.inl rfl⟩
      | exact ⟨s, _, _, _, rfl, id, Or.inl rfl⟩
  · obtain ⟨ent, hent⟩ := hremoved
    unfold acmpListenerDisconnectTx acmpListenerAnswerDisconnect
    dsimp only
    rw [hent]
    split_ifs
    all_goals first
      | exact ⟨s, _, .waiting, _, rfl, nofun, Or.inl rfl⟩
      | exact ⟨s, _, _, _, rfl, id, Or.inl rfl⟩
  · unfold acmpListenerGetStateResponse
    split_ifs <;> exact ⟨s, _, .waiting, _, rfl, nofun, Or.inl rfl⟩
  · unfold acmpListenerRxTimeout
    split
    · exact ⟨s, _, .waiting, _, rfl, nofun, Or.inl rfl⟩
    · dsimp only
      split_ifs
      · exact ⟨s, _, .waiting, _, rfl, nofun, Or.inl rfl⟩
      · exact ⟨_, _, .waiting, _, rfl, nofun, Or.inr ⟨_, _, rfl⟩⟩

lemma acmpTalkerPeriodic_waiting (h : s.talkerState ≠ .idle) (env : AcmpEnv) :
    (acmpTalkerPeriodic cfg env s).1.talkerState = .waiting := by
  unfold acmpTalkerPeriodic
  split
  · next hidle => exact absurd hidle h
  · next hwaiting => exact hwaiting
  · rfl
  · rfl
  · rfl
  · rfl

lemma acmpRunning_acmpListenerPeriodic (h : AcmpRunning s) (env : AcmpEnv) :
    AcmpRunning (acmpListenerPeriodic cfg env s).1 := by
  obtain ⟨s₀, ent, state, streams, heq, hidle, hs₀⟩ := acmpListenerPeriodic_eq cfg env s
  have hrun : AcmpRunning s₀ := by
    rcases hs₀ with rfl | ⟨messageType, retry, rfl⟩
    · exact h
    · exact acmpRunning_sendListenerCommand cfg h messageType retry
  rw [heq]
  exact acmpRunning_congr hrun rfl hrun.talker (fun hstate => h.listener (hidle hstate)) rfl rfl

lemma acmpRunning_acmpStep (h : AcmpRunning s) (e : AcmpEvent) :
    AcmpRunning (acmpStep cfg s e) := by
  cases e with
  | packet p => exact acmpRunning_processAcmpPacket cfg h p
  | controllerPeriodic env => exact acmpRunning_controllerPeriodic h env
  | talkerPeriodic env =>
    obtain ⟨state, resp, streams, heq, hidle⟩ := acmpTalkerPeriodic_eq cfg env s
    show AcmpRunning (acmpTalkerPeriodic cfg env s).1
    rw [heq]
    exact acmpRunning_congr h rfl (fun hstate => h.talker (hidle hstate)) h.listener rfl rfl
  | listenerPeriodic env => exact acmpRunning_acmpListenerPeriodic h env
  | controllerConnect talkerGuid listenerGuid talkerId listenerId =>
    refine acmpRunning_sendControllerCommand ?_ (Or.inl rfl) none
    exact acmpRunning_congr h rfl h.talker h.listener rfl rfl
  | controllerDisconnect talkerGuid listenerGuid talkerId listenerId =>
    refine acmpRunning_sendControllerCommand ?_ (Or.inr rfl) none
    exact acmpRunning_congr h rfl h.talker h.listener rfl rfl

lemma sameListener_or_takes_controllerPeriodic (cfg : AcmpConfig) (env : AcmpEnv) (s : AcmpState) :
    SameListener s (acmpControllerPeriodic cfg env s).1 ∨
    ∃ p, (AcmpRunning s → IsRxCommand p.messageType) ∧
      Takes p s (acmpControllerPeriodic cfg env s).1 := by
  obtain ⟨s₀, state, ent, heq, rfl | ⟨messageType, retry, ht, rfl⟩⟩ :=
    acmpControllerPeriodic_eq cfg env s
  · rw [heq]
    exact Or.inl ⟨rfl, rfl, rfl⟩
  · rw [heq]
    rcases sameListener_or_takes_sendControllerCommand cfg messageType retry s
      with h | ⟨p, rfl, h⟩
    · exact Or.inl ⟨h.state, h.entity, h.streams⟩
    · exact Or.inr ⟨p, ht, h.waiting, h.state, h.entity, h.streams⟩

lemma sameListener_talkerPeriodic (cfg : AcmpConfig) (env : AcmpEnv) (s : AcmpState) :
    SameListener s (acmpTalkerPeriodic cfg env s).1 := by
  obtain ⟨state, resp, streams, heq, -⟩ := acmpTalkerPeriodic_eq cfg env s
  rw [heq]
  exact ⟨rfl, rfl, rfl⟩

/-- The listener is left alone, or takes a command of the controller. -/
def Beside (s s' : AcmpState) : Prop :=
  SameListener s s' ∨ ∃ p, IsRxCommand p.messageType ∧ Takes p s s'

lemma beside_controllerPeriodic (h : AcmpRunning s) (env : AcmpEnv) :
    Beside s (acmpControllerPeriodic cfg env s).1 :=
  (sameListener_or_takes_controllerPeriodic cfg env s).imp_right fun ⟨p, hp, htakes⟩ =>
    ⟨p, hp h, htakes⟩

lemma beside_controllerConnectDisconnect {messageType : ℕ} (h : IsRxCommand messageType)
    (talkerGuid listenerGuid : UInt64) (talkerId listenerId : UInt16) :
    Beside s (acmpControllerConnectDisconnect cfg messageType talkerGuid listenerGuid talkerId
      listenerId s).1 := by
  rcases sameListener_or_takes_sendControllerCommand cfg messageType none _
    with hsame | ⟨p, rfl, htakes⟩
  · exact Or.inl ⟨hsame.state, hsame.entity, hsame.streams⟩
  · exact Or.inr ⟨p, h, htakes.waiting, htakes.state, htakes.entity, htakes.streams⟩

end

/-! ## The response the listener holds -/

def HoldsTxResponse : Prop :=
  s.listenerState = .connectTxResponse ∨ s.listenerState = .disconnectTxResponse

def ResponseInRange : Prop :=
  HoldsTxResponse s → acmpListenerValidListenerUnique cfg s = true

def TxResponseInRange : AcmpEvent → Prop
  | .packet p => s.listenerState = .waiting → p.listenerGuid = cfg.myGuid →
      (p.messageType = AcmpCmd.connectTxResponse ∨ p.messageType = AcmpCmd.disconnectTxResponse) →
      p.listenerUniqueId.toNat < cfg.maxListeners
  | _ => True

instance (cfg : AcmpConfig) (s : AcmpState) (e : AcmpEvent) :
    Decidable (TxResponseInRange cfg s e) :=
  match e with
  | .packet _ => inferInstanceAs (Decidable (_ → _))
  | .controllerPeriodic _ => isTrue trivial
  | .talkerPeriodic _ => isTrue trivial
  | .listenerPeriodic _ => isTrue trivial
  | .controllerConnect _ _ _ _ => isTrue trivial
  | .controllerDisconnect _ _ _ _ => isTrue trivial

section

variable {cfg : AcmpConfig} {s : AcmpState}

lemma acmpListenerNext_rxCommand {messageType : ℕ} (h : IsRxCommand messageType) :
    acmpListenerNext messageType ≠ .connectTxResponse ∧
      acmpListenerNext messageType ≠ .disconnectTxResponse := by
  rcases h with rfl | rfl
  · decide
  · decide

lemma acmpListenerPeriodic_next (hidle : s.listenerState ≠ .idle) (h : ResponseInRange cfg s)
    (env : AcmpEnv) : (acmpListenerPeriodic cfg env s).1.listenerState = .waiting ∨
    ((acmpListenerPeriodic cfg env s).1.listenerState = .getState ∧
      s.listenerState = .connectTxResponse) ∨
    ((acmpListenerPeriodic cfg env s).1.listenerState = .rxTimeout ∧
      AcmpMachine.listener.TimesOut s (.listenerPeriodic env)) := by
  unfold acmpListenerPeriodic
  split
  · next hstate => exact absurd hstate hidle
  · next hstate =>
    dsimp only
    split_ifs with hfound
    · exact Or.inr (Or.inr ⟨rfl, hstate, hfound⟩)
    · exact Or.inl rfl
  · exact Or.inl rfl
  · exact Or.inl rfl
  · next hstate =>
    unfold acmpListenerConnectTx acmpListenerAfterConnect
    rw [if_pos (h (Or.inl hstate))]
    dsimp only
    split_ifs
    · exact Or.inr (Or.inl ⟨rfl, hstate⟩)
    · exact Or.inl rfl
  · next hstate =>
    unfold acmpListenerDisconnectTx
    rw [if_pos (h (Or.inr hstate))]
    exact Or.inl rfl
  · exact Or.inl rfl
  · exact Or.inl rfl

end

/-! ## The invariant -/

structure AcmpInv (cfg : AcmpConfig) (s : AcmpState) : Prop where
  running : AcmpRunning s
  inRange : ResponseInRange cfg s

section

variable {cfg : AcmpConfig} {s : AcmpState}

lemma acmpInv_acmpInit (cfg : AcmpConfig) (now : ℕ) (s : AcmpState) :
    AcmpInv cfg (acmpInit cfg now s) := by
  refine ⟨⟨?_, ?_, ?_, ?_, ?_⟩, ?_⟩
  · intro h
    cases h
  · intro h
    cases h
  · intro h
    cases h
  · intro f hf hin
    rw [List.eq_of_mem_replicate hf] at hin
    cases hin
  · intro h
    cases h
  · rintro (h | h)
    · cases h
    · cases h

lemma responseInRange_congr {s' : AcmpState} (h : ResponseInRange cfg s)
    (hsame : SameListener s s') : ResponseInRange cfg s' := by
  unfold ResponseInRange HoldsTxResponse acmpListenerValidListenerUnique at h ⊢
  rw [hsame.state, hsame.entity]
  exact h

lemma responseInRange_of_not_holds (h₁ : s.listenerState ≠ .connectTxResponse)
    (h₂ : s.listenerState ≠ .disconnectTxResponse) : ResponseInRange cfg s := by
  rintro (h | h)
  · exact absurd h h₁
  · exact absurd h h₂

lemma acmpListenerNext_eq_txResponse {messageType : ℕ}
    (h : acmpListenerNext messageType = .connectTxResponse ∨
      acmpListenerNext messageType = .disconnectTxResponse) :
    messageType = AcmpCmd.connectTxResponse ∨ messageType = AcmpCmd.disconnectTxResponse := by
  unfold acmpListenerNext at h
  split at h
  · exact Or.inl rfl
  · exact Or.inr rfl
  all_goals rcases h with h | h <;> cases h

lemma responseInRange_processAcmpPacket (h : ResponseInRange cfg s) {p : AcmpCmdResp}
    (hp : TxResponseInRange cfg s (.packet p)) :
    ResponseInRange cfg (processAcmpPacket cfg p s) := by
  rcases sameListener_or_takes_processAcmpPacket cfg p s with hsame | ⟨hguid, htakes⟩
  · exact responseInRange_congr h hsame
  · intro hholds
    unfold HoldsTxResponse at hholds
    rw [htakes.state] at hholds
    have hrange := hp htakes.waiting hguid (acmpListenerNext_eq_txResponse hholds)
    unfold acmpListenerValidListenerUnique
    rw [htakes.entity]
    exact decide_eq_true hrange

lemma responseInRange_beside {s' : AcmpState} (h : ResponseInRange cfg s) (hb : Beside s s') :
    ResponseInRange cfg s' := by
  rcases hb with hsame | ⟨p, hp, htakes⟩
  · exact responseInRange_congr h hsame
  · obtain ⟨h₁, h₂⟩ := acmpListenerNext_rxCommand hp
    exact responseInRange_of_not_holds (htakes.state ▸ h₁) (htakes.state ▸ h₂)

lemma listenerState_acmpListenerPeriodic (h : AcmpInv cfg s) (env : AcmpEnv) :
    (acmpListenerPeriodic cfg env s).1.listenerState ≠ .connectTxResponse ∧
      (acmpListenerPeriodic cfg env s).1.listenerState ≠ .disconnectTxResponse := by
  rcases acmpListenerPeriodic_next h.running.listener h.inRange env with hn | ⟨hn, -⟩ | ⟨hn, -⟩
  · rw [hn]
    exact ⟨by decide, by decide⟩
  · rw [hn]
    exact ⟨by decide, by decide⟩
  · rw [hn]
    exact ⟨by decide, by decide⟩

lemma acmpInv_acmpStep (h : AcmpInv cfg s) {e : AcmpEvent} (he : TxResponseInRange cfg s e) :
    AcmpInv cfg (acmpStep cfg s e) := by
  refine ⟨acmpRunning_acmpStep h.running e, ?_⟩
  cases e with
  | packet p => exact responseInRange_processAcmpPacket h.inRange he
  | controllerPeriodic env =>
    exact responseInRange_beside h.inRange (beside_controllerPeriodic h.running env)
  | talkerPeriodic env =>
    exact responseInRange_congr h.inRange (sameListener_talkerPeriodic cfg env s)
  | listenerPeriodic env =>
    obtain ⟨h₁, h₂⟩ := listenerState_acmpListenerPeriodic h env
    exact responseInRange_of_not_holds h₁ h₂
  | controllerConnect =>
    exact responseInRange_beside h.inRange (beside_controllerConnectDisconnect (Or.inl rfl) _ _ _ _)
  | controllerDisconnect =>
    exact responseInRange_beside h.inRange (beside_controllerConnectDisconnect (Or.inr rfl) _ _ _ _)

/-! ## Settling -/

lemma txResponseInRange_of_isPeriodic {e : AcmpEvent} (he : e.isPeriodic = true) :
    TxResponseInRange cfg s e := by
  cases e with
  | packet p => cases he
  | controllerPeriodic env => trivial
  | talkerPeriodic env => trivial
  | listenerPeriodic env => trivial
  | controllerConnect => cases he
  | controllerDisconnect => cases he

lemma listenerState_run (h : AcmpInv cfg s) {es : List AcmpEvent}
    (hes : ∀ x ∈ es, x.isPeriodic = true)
    (hown : s.listenerState ≠ .connectTxResponse ∨ 1 ≤ es.countP AcmpMachine.listener.own) :
    AcmpInv cfg (Run.runFrom (acmpStep cfg) s es) ∧
      (Run.runFrom (acmpStep cfg) s es).listenerState ≠ .connectTxResponse := by
  induction es generalizing s with
  | nil =>
    rcases hown with hs | hlen
    · exact ⟨h, hs⟩
    · exact absurd hlen (by simp)
  | cons e es ih =>
    have he := hes e List.mem_cons_self
    have hrest : ∀ x ∈ es, x.isPeriodic = true := fun x hx => hes x (List.mem_cons_of_mem _ hx)
    have hinv := acmpInv_acmpStep h (txResponseInRange_of_isPeriodic he)
    have hkept (hb : Beside s (acmpStep cfg s e)) (hs : s.listenerState ≠ .connectTxResponse) :
        (acmpStep cfg s e).listenerState ≠ .connectTxResponse := by
      rcases hb with hsame | ⟨p, hp, htakes⟩
      · exact hsame.state ▸ hs
      · exact htakes.state ▸ (acmpListenerNext_rxCommand hp).1
    refine ih hinv hrest ?_
    cases e with
    | packet p => cases he
    | controllerPeriodic env =>
      exact hown.imp_left (hkept (beside_controllerPeriodic h.running env))
    | talkerPeriodic env =>
      exact hown.imp_left (hkept (Or.inl (sameListener_talkerPeriodic cfg env s)))
    | listenerPeriodic env => exact Or.inl (listenerState_acmpListenerPeriodic h env).1
    | controllerConnect => cases he
    | controllerDisconnect => cases he

lemma acmpControllerPeriodic_waiting (h : s.controllerState ≠ .idle) {env : AcmpEnv}
    (hquiet : ¬ AcmpMachine.controller.TimesOut s (.controllerPeriodic env)) :
    (acmpControllerPeriodic cfg env s).1.controllerState = .waiting := by
  unfold acmpControllerPeriodic
  split
  case h_1 hidle => exact absurd hidle h
  case h_2 hstate =>
    dsimp only
    split_ifs with hfound
    · exact absurd ⟨hstate, hfound⟩ hquiet
    · rfl
  all_goals rfl

lemma settles_of_acmpInv (h : AcmpInv cfg s) (M : AcmpMachine) : M.Settles cfg s := by
  intro es e hes hown hcount hquiet
  rw [Run.runFrom_append, Run.runFrom_cons, Run.runFrom_nil]
  have hguard : Run.Guarded (acmpStep cfg) (TxResponseInRange cfg) s es := by
    clear hquiet hcount h
    induction es generalizing s with
    | nil => trivial
    | cons x xs ih =>
      refine ⟨txResponseInRange_of_isPeriodic (hes x List.mem_cons_self), ih ?_⟩
      intro y hy
      exact hes y (List.mem_cons_of_mem _ hy)
  have hstep : ∀ s e, AcmpInv cfg s → TxResponseInRange cfg s e → AcmpInv cfg (acmpStep cfg s e) :=
    fun _ _ h he => acmpInv_acmpStep h he
  have hend := Run.invariant_of_guarded hstep h es hguard
  cases M with
  | controller =>
    cases e with
    | controllerPeriodic env => exact acmpControllerPeriodic_waiting hend.running.controller hquiet
    | _ => cases hown
  | talker =>
    cases e with
    | talkerPeriodic env => exact acmpTalkerPeriodic_waiting hend.running.talker env
    | _ => cases hown
  | listener =>
    cases e with
    | listenerPeriodic env =>
      obtain ⟨-, hne⟩ := listenerState_run h hes (Or.inr hcount)
      rcases acmpListenerPeriodic_next hend.running.listener hend.inRange env
        with hn | ⟨-, hs⟩ | ⟨-, hs⟩
      · exact hn
      · exact absurd hs hne
      · exact absurd hs hquiet
    | _ => cases hown

end

/-- **Settling.**  After initialisation and any packets, periodic calls and
requests among which the waiting listener accepts no talker's response with a
unique id out of range, every machine settles. -/
theorem acmp_machines_settle (cfg : AcmpConfig) (now : ℕ) (s₀ : AcmpState) (es : List AcmpEvent)
    (hg : Run.Guarded (acmpStep cfg) (TxResponseInRange cfg) (acmpInit cfg now s₀) es)
    (M : AcmpMachine) : M.Settles cfg (Run.runFrom (acmpStep cfg) (acmpInit cfg now s₀) es) := by
  have hstep : ∀ s e, AcmpInv cfg s → TxResponseInRange cfg s e → AcmpInv cfg (acmpStep cfg s e) :=
    fun _ _ h he => acmpInv_acmpStep h he
  exact settles_of_acmpInv
    (Run.invariant_of_guarded hstep (acmpInv_acmpInit cfg now s₀) es hg) M

/-! ## The wedged listener -/

def Wedged : Prop :=
  HoldsTxResponse s ∧ acmpListenerValidListenerUnique cfg s = false

section

variable {cfg : AcmpConfig} {s : AcmpState}

lemma Wedged.not_waiting (h : Wedged cfg s) : s.listenerState ≠ .waiting := by
  rcases h.1 with hs | hs
  · rw [hs]
    decide
  · rw [hs]
    decide

lemma wedged_congr {s' : AcmpState} (h : Wedged cfg s) (hsame : SameListener s s') :
    Wedged cfg s' := by
  unfold Wedged HoldsTxResponse acmpListenerValidListenerUnique at h ⊢
  rw [hsame.state, hsame.entity]
  exact h

lemma wedged_acmpStep (h : Wedged cfg s) (e : AcmpEvent) : Wedged cfg (acmpStep cfg s e) := by
  have hnot := h.not_waiting
  have hrequest (messageType : ℕ) (s' : AcmpState) (hs' : SameListener s s') :
      Wedged cfg (acmpSendCommand cfg .controller messageType none s').1 := by
    rcases sameListener_or_takes_sendControllerCommand cfg messageType none s' with h' | ⟨_, _, h'⟩
    · exact wedged_congr (wedged_congr h hs') h'
    · exact absurd (hs'.state.symm.trans h'.waiting) hnot
  cases e with
  | packet p =>
    rcases sameListener_or_takes_processAcmpPacket cfg p s with hsame | ⟨-, htakes⟩
    · exact wedged_congr h hsame
    · exact absurd htakes.waiting hnot
  | controllerPeriodic env =>
    rcases sameListener_or_takes_controllerPeriodic cfg env s with hsame | ⟨_, _, htakes⟩
    · exact wedged_congr h hsame
    · exact absurd htakes.waiting hnot
  | talkerPeriodic env => exact wedged_congr h (sameListener_talkerPeriodic cfg env s)
  | listenerPeriodic env =>
    have hsame : acmpListenerPeriodic cfg env s = (s, []) := by
      rcases h.1 with hs | hs
      · simp only [acmpListenerPeriodic, hs, acmpListenerConnectTx, h.2, Bool.false_eq_true,
          if_false]
      · simp only [acmpListenerPeriodic, hs, acmpListenerDisconnectTx, h.2, Bool.false_eq_true,
          if_false]
    show Wedged cfg (acmpListenerPeriodic cfg env s).1
    rw [hsame]
    exact h
  | controllerConnect => exact hrequest _ _ ⟨rfl, rfl, rfl⟩
  | controllerDisconnect => exact hrequest _ _ ⟨rfl, rfl, rfl⟩

/-- **A wedged listener stays wedged**, whatever packets, calls and requests follow. -/
theorem acmp_wedged_forever (h : Wedged cfg s) (es : List AcmpEvent) :
    Wedged cfg (Run.runFrom (acmpStep cfg) s es) := by
  have hstep : ∀ s e, Wedged cfg s → Wedged cfg (acmpStep cfg s e) :=
    fun _ e h => wedged_acmpStep h e
  exact Run.invariant_of_step hstep h es

end

def oneSink : AcmpConfig := ⟨1, 1, 1, 4, 2, 1, 2⟩

def acmpCold : AcmpState :=
  { controllerState := .idle
    talkerState := .idle
    listenerState := .idle
    controller := ⟨[], 0, ⟨0, 0, 0, 0⟩, none, 0, .zero⟩
    listener := ⟨[], 0, ⟨0, 0, 0, 0⟩, none, 0, .zero⟩
    talkerRcvdCmdResp := .zero
    listenerStreams := []
    talkerStreams := [⟨0, 0, Vector.replicate 6 0, List.replicate 4 ⟨0, 0⟩⟩] }

def txResponse (listenerUniqueId : UInt16) : AcmpEvent :=
  .packet { AcmpCmdResp.zero with
    messageType := AcmpCmd.connectTxResponse
    listenerGuid := 1
    listenerUniqueId := listenerUniqueId }

theorem acmp_settles_after_tx_response : AcmpMachine.listener.Settles oneSink
      (Run.runFrom (acmpStep oneSink) (acmpInit oneSink 0 acmpCold) [txResponse 0]) :=
  acmp_machines_settle oneSink 0 acmpCold [txResponse 0] (by decide +kernel) .listener

/-- A response for sink 1, which the device does not have, wedges the listener. -/
theorem tx_response_wedges_listener :
    (∀ es, (Run.runFrom (acmpStep oneSink) (acmpInit oneSink 0 acmpCold)
      (txResponse 1 :: es)).listenerState ≠ .waiting) ∧
    ¬ AcmpMachine.listener.Settles oneSink
      (Run.runFrom (acmpStep oneSink) (acmpInit oneSink 0 acmpCold) [txResponse 1]) := by
  have hwedged : Wedged oneSink
      (Run.runFrom (acmpStep oneSink) (acmpInit oneSink 0 acmpCold) [txResponse 1]) :=
    ⟨Or.inl (by decide +kernel), by decide +kernel⟩
  have hforever : ∀ es, (Run.runFrom (acmpStep oneSink) (acmpInit oneSink 0 acmpCold)
      (txResponse 1 :: es)).listenerState ≠ .waiting := fun es =>
    (acmp_wedged_forever hwedged es).not_waiting
  refine ⟨hforever, ?_⟩
  intro hsettles
  let call := AcmpEvent.listenerPeriodic ⟨0, 0, false, 0, none⟩
  refine hforever [call, call] (hsettles [call] call ?_ rfl ?_ ?_)
  · intro x hx
    rw [List.mem_singleton.mp hx]
    rfl
  · decide
  · rintro ⟨hw, -⟩
    exact hforever [call] hw
