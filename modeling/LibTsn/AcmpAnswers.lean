/-
# Commands and answers

A command of a controller that the listener has taken is answered at once with an
error, or forwarded to the talker and kept in flight under a sequence id of the listener
until the talker answers or a second timeout passes.  Every command is then accounted
for: what was accepted is what was answered and what is pending (`Conserved`), as long as
the table of commands in flight has room and talkers answer to what they were asked.
-/
import LibTsn.AcmpListener

/-! ## What is accounted for -/

structure RxKey where
  connect : Bool
  sequenceId : UInt16
  controllerGuid : UInt64
  listenerUniqueId : UInt16
  deriving DecidableEq

def AcmpCmdResp.rxKey (connect : Bool) (r : AcmpCmdResp) : RxKey :=
  ⟨connect, r.sequenceId, r.controllerGuid, r.listenerUniqueId⟩

def AcmpOut.answerKey : AcmpOut → Option RxKey
  | .packet p =>
    if p.messageType = AcmpCmd.connectRxResponse then some (p.rxKey true)
    else if p.messageType = AcmpCmd.disconnectRxResponse then some (p.rxKey false)
    else none
  | _ => none

def answersIn (outs : List AcmpOut) : List RxKey := outs.filterMap AcmpOut.answerKey

variable (f : AcmpInflight) (cfg : AcmpConfig) (w : AnswerWatch) (s : AcmpState)

def heldKeys : List RxKey :=
  match s.listenerState with
  | .connectRxCommand => [s.listener.cmdResp.rxKey true]
  | .disconnectRxCommand => [s.listener.cmdResp.rxKey false]
  | _ => []

def acceptedBetween (s s' : AcmpState) : List RxKey :=
  if s.listenerState = .waiting then heldKeys s' else []

def AcmpInflight.key : RxKey where
  connect := decide (f.command.messageType = AcmpCmd.connectTxCommand)
  sequenceId := f.originalSequenceId
  controllerGuid := f.command.controllerGuid
  listenerUniqueId := f.command.listenerUniqueId

def inflightKeys (fs : List AcmpInflight) : List RxKey :=
  (Slots.occupied AcmpInflight.inUse fs).map AcmpInflight.key

def pendingKeys : List RxKey :=
  heldKeys s ++ inflightKeys s.listener.inflightCommands

structure AnswerWatch where
  acmp : AcmpState
  accepted : List RxKey
  answered : List RxKey
  issued : ℕ

instance (messageType : ℕ) : Decidable (IsTxCommand messageType) :=
  inferInstanceAs (Decidable (_ ∨ _))

def AcmpOut.isTxCommand : AcmpOut → Bool
  | .packet p => decide (IsTxCommand p.messageType)
  | _ => false

def issuedIn (outs : List AcmpOut) : ℕ := outs.countP AcmpOut.isTxCommand

def answerStep (e : AcmpEvent) : AnswerWatch where
  acmp := acmpStep cfg w.acmp e
  accepted := w.accepted ++ acceptedBetween w.acmp (acmpStep cfg w.acmp e)
  answered := w.answered ++ answersIn (acmpEvent cfg w.acmp e).2
  issued := w.issued + issuedIn (acmpEvent cfg w.acmp e).2

def answerInit (now : ℕ) (s : AcmpState) : AnswerWatch :=
  ⟨acmpInit cfg now s, [], [], 0⟩

/-- **Conservation.**  What was accepted is what was answered and what is pending. -/
def AnswerWatch.Conserved : Prop :=
  w.accepted.Perm (w.answered ++ pendingKeys w.acmp)

/-! ## Conditions -/

def HoldsRxCommand : Prop :=
  s.listenerState = .connectRxCommand ∨ s.listenerState = .disconnectRxCommand
  deriving Decidable

def Forwards (env : AcmpEnv) (s : AcmpState) : Prop :=
  acmpListenerValidListenerUnique cfg s = true ∧
    (s.listenerState = .connectRxCommand ∧ acmpListenerIsConnected false env s = false ∨
      s.listenerState = .disconnectRxCommand ∧ acmpListenerIsConnected true env s = true)
  deriving Decidable

def txCommandType (state : AcmpListenerState) : ℕ :=
  if state = .connectTxResponse then AcmpCmd.connectTxCommand else AcmpCmd.disconnectTxCommand

def ResponseMatches : Prop :=
  acmpListenerValidListenerUnique cfg s = true ∧
    ∀ f ∈ s.listener.inflightCommands, s.listener.Answers f →
      f.command.messageType = txCommandType s.listenerState ∧
      f.command.controllerGuid = s.listener.cmdResp.controllerGuid ∧
      f.command.listenerUniqueId = s.listener.cmdResp.listenerUniqueId
  deriving Decidable

instance (s : AcmpState) : Decidable (HoldsTxResponse s) := inferInstanceAs (Decidable (_ ∨ _))

/-- **In order.**  A call of the listener forwards a command only if there is a free entry, and
without a fast connect; a talker's response that it deals with matches. -/
def CallInOrder : AcmpEvent → Prop
  | .listenerPeriodic env =>
    (Forwards cfg env s → ∃ f ∈ s.listener.inflightCommands, f.inUse = false) ∧
      (HoldsRxCommand s → s.listener.cmdResp.flags &&& acmpFlagsFastConnect = 0) ∧
      (HoldsTxResponse s → ResponseMatches cfg s)
  | _ => True

instance (cfg : AcmpConfig) (s : AcmpState) (e : AcmpEvent) : Decidable (CallInOrder cfg s e) :=
  match e with
  | .listenerPeriodic _ => inferInstanceAs (Decidable (_ ∧ _))
  | .packet _ => isTrue trivial
  | .controllerPeriodic _ => isTrue trivial
  | .talkerPeriodic _ => isTrue trivial
  | .controllerConnect _ _ _ _ => isTrue trivial
  | .controllerDisconnect _ _ _ _ => isTrue trivial

/-- **Time goes on.**  A call finds the listener waiting, and a period of its timer over. -/
def PollsInTime : AcmpEvent → Prop
  | .listenerPeriodic env =>
    s.listenerState = .waiting ∧ timeafter env.pollTime s.listener.inflightTimer.timeout = true
  | _ => False

def AnsweredFor : Prop :=
  HoldsRxCommand s ∨ HoldsTxResponse s ∨
    s.listenerState = .rxTimeout ∧ ∃ i f, s.listener.inflightTimeoutIdx = some i ∧
      s.listener.inflightCommands[i]? = some f ∧ f.inUse = true ∧ f.retried = true

section

variable {fs : List AcmpInflight} {f g : AcmpInflight} {i : ℕ}

lemma inflightKeys_set (hf : fs[i]? = some f) (hfree : f.inUse = false) (hg : g.inUse = true) :
    (inflightKeys (fs.set i g)).Perm (g.key :: inflightKeys fs) :=
  (Slots.occupied_take hf hfree hg).map AcmpInflight.key

variable {change : AcmpInflight → AcmpInflight}

lemma inflightKeys_release (hf : fs[i]? = some f) (huse : f.inUse = true)
    (hfree : (change f).inUse = false) :
    (inflightKeys fs).Perm (f.key :: inflightKeys (fs.modify i change)) := by
  rw [Slots.modify_eq_set hf]
  exact (Slots.occupied_release hf huse hfree).map AcmpInflight.key

lemma inflightKeys_keep (hf : fs[i]? = some f) (huse : f.inUse = true)
    (huse' : (change f).inUse = true) (hkey : (change f).key = f.key) :
    (inflightKeys fs).Perm (inflightKeys (fs.modify i change)) := by
  rw [Slots.modify_eq_set hf]
  obtain ⟨rest, hold, hnew⟩ := Slots.occupied_replace hf huse huse'
  have hkeys := hnew.map AcmpInflight.key
  rw [List.map_cons, hkey] at hkeys
  exact (hold.map AcmpInflight.key).trans hkeys.symm

end

structure Calm (s : AcmpState) (e : AcmpEvent) (s' : AcmpState) : Prop where
  timer : s'.listener.inflightTimer = s.listener.inflightTimer
  counter : s'.listener.centisecondCounter = s.listener.centisecondCounter
  notPoll : ¬ PollsInTime s e

/-- **Every event**, by what it does to the commands of controllers. -/
inductive AnswerEffect (s : AcmpState) (e : AcmpEvent) (s' : AcmpState) (outs : List AcmpOut) : Prop
  | quiet (hcalm : Calm s e s') (hheld : heldKeys s' = heldKeys s)
      (hfs : s'.listener.inflightCommands = s.listener.inflightCommands)
      (hans : answersIn outs = [])
      (htimeout : s.listenerState = .rxTimeout → s'.listenerState = .rxTimeout)
  | accept (hcalm : Calm s e s') (hs : s.listenerState = .waiting)
      (hs' : s'.listenerState ≠ .rxTimeout)
      (hfs : s'.listener.inflightCommands = s.listener.inflightCommands)
      (hans : answersIn outs = [])
  | poll (env : AcmpEnv) (he : e = .listenerPeriodic env) (hs : s.listenerState = .waiting)
      (hentity : s'.listener = acmpPollTimeouts env s.listener)
      (hstate : s'.listenerState =
        if (acmpPollTimeouts env s.listener).inflightTimeoutIdx.isSome then .rxTimeout
        else .waiting)
      (hout : outs = [])
  | refuse (k : RxKey) (hcalm : Calm s e s') (hs : HoldsRxCommand s)
      (hs' : s'.listenerState = .waiting) (hheld : heldKeys s = [k])
      (hfs : s'.listener.inflightCommands = s.listener.inflightCommands)
      (hans : answersIn outs = [k])
  | forward (k : RxKey) (i : ℕ) (f g : AcmpInflight) (hcalm : Calm s e s') (hs : HoldsRxCommand s)
      (hs' : s'.listenerState = .waiting) (hheld : heldKeys s = [k])
      (hf : s.listener.inflightCommands[i]? = some f) (hfree : f.inUse = false)
      (huse : g.inUse = true) (hkey : g.key = k)
      (hfs : s'.listener.inflightCommands = s.listener.inflightCommands.set i g)
      (hans : answersIn outs = []) (hissued : issuedIn outs = 1)
  | finish (i : ℕ) (f : AcmpInflight) (change : AcmpInflight → AcmpInflight)
      (hcalm : Calm s e s') (hs : AnsweredFor s) (hheld : heldKeys s = [])
      (hs' : s'.listenerState = .waiting ∨ s'.listenerState = .getState)
      (hf : s.listener.inflightCommands[i]? = some f) (huse : f.inUse = true)
      (hfree : ∀ f, (change f).inUse = false)
      (hfs : s'.listener.inflightCommands = s.listener.inflightCommands.modify i change)
      (hans : answersIn outs = [f.key])
  | resend (i : ℕ) (f : AcmpInflight) (change : AcmpInflight → AcmpInflight)
      (hcalm : Calm s e s') (hs : s.listenerState = .rxTimeout) (hs' : s'.listenerState = .waiting)
      (hf : s.listener.inflightCommands[i]? = some f) (huse : f.inUse = true)
      (huse' : (change f).inUse = true) (hkey : (change f).key = f.key)
      (hfs : s'.listener.inflightCommands = s.listener.inflightCommands.modify i change)
      (hans : answersIn outs = []) (hissued : issuedIn outs = 1)

/-! ## Invariants -/

structure ClockRuns (ent : AcmpEntity) : Prop where
  multiplier : ent.inflightTimer.timeoutMultiplier = 10
  active_pos : 0 < ent.inflightTimer.active
  active_le : ent.inflightTimer.active ≤ 10

def PlainEntry : Prop :=
  f.timeout < 2 ^ 32 ∧ f.command.flags &&& acmpFlagsFastConnect = 0

structure AnswersRunning (s : AcmpState) : Prop where
  running : AcmpRunning s
  listener : ListenerRunning s
  clock : ClockRuns s.listener
  plain : InFlightAll PlainEntry s.listener.inflightCommands
  indexed : s.listenerState = .rxTimeout → s.listener.inflightTimeoutIdx.isSome = true

section

variable {cfg : AcmpConfig} {env : AcmpEnv} {s s' : AcmpState} {outs : List AcmpOut}

lemma answersIn_of_not_ofListener (h : ∀ o ∈ outs, ¬ o.OfListener) : answersIn outs = [] := by
  refine List.filterMap_eq_nil_iff.mpr fun o ho => ?_
  have hout := h o ho
  cases o with
  | packet p =>
    exact (if_neg fun htype => hout (Or.inl htype)).trans
      (if_neg fun htype => hout (Or.inr htype))
  | _ => rfl

lemma heldKeys_of_ne (h : ¬ HoldsRxCommand s) : heldKeys s = [] := by
  unfold heldKeys
  split
  · next hs => exact absurd (Or.inl hs) h
  · next hs => exact absurd (Or.inr hs) h
  · rfl

lemma heldKeys_of_waiting (h : s.listenerState = .waiting) : heldKeys s = [] :=
  heldKeys_of_ne (by unfold HoldsRxCommand; rw [h]; decide)

lemma heldKeys_of_done (h : s.listenerState = .waiting ∨ s.listenerState = .getState) :
    heldKeys s = [] :=
  heldKeys_of_ne (by unfold HoldsRxCommand; rcases h with h | h <;> rw [h] <;> decide)

lemma heldKeys_of_holdsTxResponse (h : HoldsTxResponse s) : heldKeys s = [] :=
  heldKeys_of_ne (by unfold HoldsRxCommand; rcases h with h | h <;> rw [h] <;> decide)

lemma heldKeys_of_rxTimeout (h : s.listenerState = .rxTimeout) : heldKeys s = [] :=
  heldKeys_of_ne (by unfold HoldsRxCommand; rw [h]; decide)

lemma heldKeys_of_poll {found : Bool}
    (h : s.listenerState = if found then .rxTimeout else .waiting) : heldKeys s = [] := by
  cases found with
  | true => exact heldKeys_of_rxTimeout h
  | false => exact heldKeys_of_waiting h

lemma heldKeys_same (h : SameListener s s') : heldKeys s' = heldKeys s := by
  unfold heldKeys
  rw [h.state, h.entity]

variable (p : AcmpCmdResp) {e : AcmpEvent} (ent : AcmpEntity) (messageType : ℕ)

lemma answersIn_connectRxResponse (h : p.messageType = AcmpCmd.connectRxResponse) :
    answersIn [.packet p] = [p.rxKey true] := by
  have hkey : (AcmpOut.packet p).answerKey = some (p.rxKey true) := if_pos h
  exact List.filterMap_cons_some hkey

lemma answersIn_disconnectRxResponse (h : p.messageType = AcmpCmd.disconnectRxResponse) :
    answersIn [.packet p] = [p.rxKey false] := by
  have hconnect : p.messageType ≠ AcmpCmd.connectRxResponse := by rw [h]; decide
  have hkey : (AcmpOut.packet p).answerKey = some (p.rxKey false) :=
    (if_neg hconnect).trans (if_pos h)
  exact List.filterMap_cons_some hkey

lemma answersIn_other (h : ¬ IsRxResponse p.messageType) : answersIn [.packet p] = [] :=
  answersIn_of_not_ofListener (List.forall_mem_singleton.mpr h)

lemma key_newEntry :
    ((acmpNumberCommand ent none).newEntry messageType ent.cmdResp.sequenceId).key =
      ent.cmdResp.rxKey (decide (messageType = AcmpCmd.connectTxCommand)) := rfl

lemma inflightCommands_acmpForward {ent : AcmpEntity} {messageType : ℕ}
    (h : ∃ f ∈ ent.inflightCommands, f.inUse = false) :
    ∃ i f, ent.inflightCommands[i]? = some f ∧ f.inUse = false ∧
      (acmpForward messageType ent).inflightCommands = ent.inflightCommands.set i
        ((acmpNumberCommand ent none).newEntry messageType ent.cmdResp.sequenceId) := by
  unfold acmpForward acmpAddInflight
  cases hfind : (acmpNumberCommand ent none).inflightCommands.findIdx? fun f => !f.inUse with
  | none =>
    obtain ⟨f, hf, hfree⟩ := h
    have hused := List.findIdx?_eq_none_iff.mp hfind f hf
    rw [hfree] at hused
    cases hused
  | some i =>
    obtain ⟨hi, hfree, -⟩ := List.findIdx?_eq_some_iff_getElem.mp hfind
    exact ⟨i, _, List.getElem?_eq_getElem hi, (Bool.not_eq_true' _).mp hfree, rfl⟩

lemma key_of_responseMatches (h : ResponseMatches cfg s) {i : ℕ} {f : AcmpInflight}
    (hf : s.listener.inflightCommands[i]? = some f) (hans : s.listener.Answers f) :
    f.key = ⟨decide (s.listenerState = .connectTxResponse), f.originalSequenceId,
      s.listener.cmdResp.controllerGuid, s.listener.cmdResp.listenerUniqueId⟩ := by
  obtain ⟨htype, hcontroller, hsink⟩ := h.2 f (List.mem_of_getElem? hf) hans
  have hkind : decide (f.command.messageType = AcmpCmd.connectTxCommand) =
      decide (s.listenerState = .connectTxResponse) := by
    rw [htype]
    unfold txCommandType
    split_ifs with hs
    · rw [decide_eq_true hs]
      rfl
    · rw [decide_eq_false hs]
      rfl
  unfold AcmpInflight.key
  rw [hkind, hcontroller, hsink]

lemma answersIn_timeoutResponse {f : AcmpInflight} (htype : IsTxCommand f.command.messageType)
    (hflags : f.command.flags &&& acmpFlagsFastConnect = 0) :
    answersIn (acmpListenerTimeoutResponse f) = [f.key] := by
  unfold acmpListenerTimeoutResponse
  rw [if_neg (not_not.mpr hflags)]
  unfold acmpSendResponse createAcmpPacket
  rcases htype with htype | htype
  · rw [answersIn_connectRxResponse _ (by rw [htype]; rfl)]
    unfold AcmpInflight.key AcmpCmdResp.rxKey
    rw [htype]
    rfl
  · rw [answersIn_disconnectRxResponse _ (by rw [htype]; rfl)]
    unfold AcmpInflight.key AcmpCmdResp.rxKey
    rw [htype]
    rfl

lemma issuedIn_of_isTxCommand {p : AcmpCmdResp} (h : IsTxCommand p.messageType)
    (outs : List AcmpOut) : issuedIn (.packet p :: outs) = issuedIn outs + 1 :=
  List.countP_cons_of_pos (decide_eq_true h)

lemma exists_of_inUseAt {fs : List AcmpInflight} {i : ℕ} (h : InUseAt fs i) :
    fs[i]? = some (fs.getD i .zero) := by
  unfold InUseAt at h
  rw [List.getD_eq_getElem?_getD] at h ⊢
  cases hcase : fs[i]? with
  | none =>
    rw [hcase] at h
    cases h
  | some f => rfl

def AcmpInflight.resent (id : UInt16) (timeout : ℕ) (f : AcmpInflight) : AcmpInflight :=
  { f with
    command := { f.command with sequenceId := id }
    timeout := timeout
    retried := true }

lemma inflightCommands_acmpResend (messageType i : ℕ) (ent : AcmpEntity) :
    (acmpResend messageType i ent).inflightCommands = ent.inflightCommands.modify i
      (AcmpInflight.resent ent.sequenceId (acmpInflightTimeout messageType ent)) :=
  List.modify_modify_eq ..

lemma calm_of_ne (hs : s.listenerState ≠ .waiting)
    (htimer : s'.listener.inflightTimer = s.listener.inflightTimer)
    (hcounter : s'.listener.centisecondCounter = s.listener.centisecondCounter) : Calm s e s' := by
  refine ⟨htimer, hcounter, fun hpoll => ?_⟩
  cases e with
  | listenerPeriodic env => exact hs hpoll.1
  | _ => exact hpoll

lemma ne_waiting_of_holdsRxCommand (h : HoldsRxCommand s) : s.listenerState ≠ .waiting := by
  rcases h with h | h <;> rw [h] <;> decide

lemma ne_waiting_of_holdsTxResponse (h : HoldsTxResponse s) : s.listenerState ≠ .waiting := by
  rcases h with h | h <;> rw [h] <;> decide

lemma ne_waiting_of_rxTimeout (h : s.listenerState = .rxTimeout) : s.listenerState ≠ .waiting := by
  rw [h]
  decide

lemma clock_acmpForward (ent : AcmpEntity) :
    (acmpForward messageType ent).inflightTimer = ent.inflightTimer ∧
      (acmpForward messageType ent).centisecondCounter = ent.centisecondCounter := by
  unfold acmpForward acmpAddInflight
  split <;> exact ⟨rfl, rfl⟩

lemma calm_acmpForward (hs : HoldsRxCommand s) {messageType : ℕ}
    (hentity : s'.listener = acmpForward messageType s.listener) : Calm s e s' := by
  obtain ⟨htimer, hcounter⟩ := clock_acmpForward messageType s.listener
  refine calm_of_ne (ne_waiting_of_holdsRxCommand hs) ?_ ?_
  · rw [hentity, htimer]
  · rw [hentity, hcounter]

lemma answerEffect_same (hpoll : ¬ PollsInTime s e) (h : SameListener s s')
    (hout : answersIn outs = []) : AnswerEffect s e s' outs :=
  .quiet ⟨by rw [h.entity], by rw [h.entity], hpoll⟩ (heldKeys_same h) (by rw [h.entity]) hout
    fun hs => h.state.trans hs

lemma heldKeys_connectRxCommand (h : s.listenerState = .connectRxCommand) :
    heldKeys s = [s.listener.cmdResp.rxKey true] := by
  unfold heldKeys
  rw [h]

lemma heldKeys_disconnectRxCommand (h : s.listenerState = .disconnectRxCommand) :
    heldKeys s = [s.listener.cmdResp.rxKey false] := by
  unfold heldKeys
  rw [h]

lemma answersIn_refuse (hs : HoldsRxCommand s) (status : ℕ) :
    answersIn [acmpSendResponse (rxResponseType s.listenerState) s.listener.cmdResp status] =
      heldKeys s := by
  rcases hs with hs | hs
  · rw [heldKeys_connectRxCommand hs, hs]
    exact answersIn_connectRxResponse _ rfl
  · rw [heldKeys_disconnectRxCommand hs, hs]
    exact answersIn_disconnectRxResponse _ rfl

lemma exists_heldKeys (hs : HoldsRxCommand s) : ∃ k, heldKeys s = [k] := by
  rcases hs with hs | hs
  · exact ⟨_, heldKeys_connectRxCommand hs⟩
  · exact ⟨_, heldKeys_disconnectRxCommand hs⟩

lemma answerEffect_response (hs : HoldsTxResponse s) (hmatches : ResponseMatches cfg s) {i : ℕ}
    {f : AcmpInflight} {r : AcmpCmdResp} (hf : s.listener.inflightCommands[i]? = some f)
    (hans : s.listener.Answers f)
    (hentity : s'.listener = { s.listener.finish i with cmdResp := r })
    (hstate : s'.listenerState = .waiting ∨ s'.listenerState = .getState)
    (hout : answersIn outs = [⟨decide (s.listenerState = .connectTxResponse), f.originalSequenceId,
      s.listener.cmdResp.controllerGuid, s.listener.cmdResp.listenerUniqueId⟩]) :
    AnswerEffect s e s' outs := by
  refine .finish i f _ (calm_of_ne (ne_waiting_of_holdsTxResponse hs) ?_ ?_) (Or.inr (Or.inl hs))
    (heldKeys_of_holdsTxResponse hs) hstate hf hans.1 (fun _ => rfl)
    (congrArg AcmpEntity.inflightCommands hentity) ?_
  · rw [hentity]
    rfl
  · rw [hentity]
    rfl
  · rw [hout, key_of_responseMatches hmatches hf hans]

lemma answerEffect_call (h : AnswersRunning s) (hok : CallInOrder cfg s (.listenerPeriodic env))
    (hcall : ListenerCall cfg env s s' outs) : AnswerEffect s (.listenerPeriodic env) s' outs := by
  obtain ⟨hroom, -, hresponse⟩ := hok
  cases hcall with
  | idle hs => exact absurd hs h.running.listener
  | poll hs hentity hstate _ hout => exact .poll env rfl hs hentity hstate hout
  | refuse status hs _ _ hentity hstate _ hout =>
    obtain ⟨k, hk⟩ := exists_heldKeys hs
    refine .refuse k (calm_of_ne (ne_waiting_of_holdsRxCommand hs) ?_ ?_) hs hstate hk ?_ ?_
    · rw [hentity]
    · rw [hentity]
    · rw [hentity]
    · rw [hout, answersIn_refuse hs, hk]
  | forwardConnect p hs hvalid hfree hentity hstate _ hp hout =>
    obtain ⟨i, f, hf, hunused, hset⟩ := inflightCommands_acmpForward
      (hroom ⟨hvalid, Or.inl ⟨hs, hfree⟩⟩)
    refine .forward _ i f _ (calm_acmpForward (Or.inl hs) hentity) (Or.inl hs) hstate
      (heldKeys_connectRxCommand hs) hf hunused rfl
      (key_newEntry s.listener AcmpCmd.connectTxCommand) ?_ ?_ ?_
    · rw [hentity, hset]
    · rw [hout]
      exact answersIn_other p (not_isRxResponse_of_isTxCommand (Or.inl hp))
    · rw [hout]
      exact issuedIn_of_isTxCommand (Or.inl hp) []
  | forwardDisconnect p talkerGuid destMac streamId hs hvalid hconnected hentity hstate _ hp hout =>
    obtain ⟨i, f, hf, hunused, hset⟩ := inflightCommands_acmpForward
      (hroom ⟨hvalid, Or.inr ⟨hs, hconnected⟩⟩)
    refine .forward _ i f _ (calm_acmpForward (Or.inr hs) hentity) (Or.inr hs) hstate
      (heldKeys_disconnectRxCommand hs) hf hunused rfl
      (key_newEntry s.listener AcmpCmd.disconnectTxCommand) ?_ ?_ ?_
    · rw [hentity, hset]
    · rw [hout]
      exact answersIn_other p (not_isRxResponse_of_isTxCommand (Or.inr hp))
    · rw [hout]
      exact issuedIn_of_isTxCommand (Or.inr hp) _
  | stuck hs _ hsame hout =>
    rw [hout]
    exact answerEffect_same (fun hpoll => ne_waiting_of_holdsTxResponse hs hpoll.1) hsame rfl
  | ignore r hs _ _ hentity hstate _ hout =>
    refine .quiet (calm_of_ne (ne_waiting_of_holdsTxResponse hs) ?_ ?_) ?_ ?_ ?_ ?_
    · rw [hentity]
    · rw [hentity]
    · rw [heldKeys_of_holdsTxResponse hs, heldKeys_of_done hstate]
    · rw [hentity]
    · rw [hout]
      rfl
    · intro hrx
      rcases hs with hs | hs <;> rw [hrx] at hs <;> cases hs
  | connect i f r destMac streamId vlanId hs _ hf hans _ hentity hstate _ hout =>
    refine answerEffect_response (Or.inl hs) (hresponse (Or.inl hs)) hf hans hentity hstate ?_
    rw [hout, decide_eq_true hs]
    -- the hook is no answer
    exact (List.filterMap_cons_none rfl).trans (answersIn_connectRxResponse _ rfl)
  | incompatible i f r hs _ hf hans hentity hstate _ hout =>
    refine answerEffect_response (Or.inl hs) (hresponse (Or.inl hs)) hf hans hentity hstate ?_
    rw [hout, decide_eq_true hs]
    exact answersIn_connectRxResponse _ rfl
  | disconnect i f r hs _ hf hans hentity hstate _ hout =>
    have hconnect : s.listenerState ≠ .connectTxResponse := by rw [hs]; decide
    refine answerEffect_response (Or.inr hs) (hresponse (Or.inr hs)) hf hans hentity
      (Or.inl hstate) ?_
    rw [hout, decide_eq_false hconnect]
    exact answersIn_disconnectRxResponse _ rfl
  | report p r hs hentity hstate _ hp hout =>
    refine .quiet (calm_of_ne (by rw [hs]; decide) ?_ ?_) ?_ ?_ ?_ ?_
    · rw [hentity]
    · rw [hentity]
    · rw [heldKeys_of_done (Or.inr hs), heldKeys_of_waiting hstate]
    · rw [hentity]
    · rw [hout]
      exact answersIn_other p (by rw [hp]; decide)
    · intro hrx
      rw [hrx] at hs
      cases hs
  | expire i hs hi hretried hentity hstate _ hout =>
    have huse := h.listener.timedOut hs i hi
    have hf := exists_of_inUseAt huse
    refine .finish i _ _ (calm_of_ne (ne_waiting_of_rxTimeout hs) ?_ ?_)
      (Or.inr (Or.inr ⟨hs, i, _, hi, hf, huse, hretried⟩)) (heldKeys_of_rxTimeout hs)
      (Or.inl hstate) hf huse (fun _ => rfl) (congrArg AcmpEntity.inflightCommands hentity) ?_
    · rw [hentity]
      rfl
    · rw [hentity]
      rfl
    · rw [hout]
      exact answersIn_timeoutResponse (h.listener.commands.getD huse) (h.plain.getD huse).2
  | resend i p hs hi _ hentity hstate _ hp hout =>
    have huse := h.listener.timedOut hs i hi
    have htype : IsTxCommand p.messageType := hp ▸ h.listener.commands.getD huse
    refine .resend i _
      (AcmpInflight.resent s.listener.sequenceId (acmpInflightTimeout p.messageType s.listener))
      (calm_of_ne (ne_waiting_of_rxTimeout hs) ?_ ?_) hs hstate (exists_of_inUseAt huse) huse
      huse rfl ?_ ?_ ?_
    · rw [hentity]
      rfl
    · rw [hentity]
      rfl
    · rw [hentity, ← hp]
      exact inflightCommands_acmpResend _ i s.listener
    · rw [hout]
      exact answersIn_other p (not_isRxResponse_of_isTxCommand htype)
    · rw [hout]
      exact issuedIn_of_isTxCommand htype []
  | settled hs hi =>
    have hindexed := h.indexed hs
    rw [hi] at hindexed
    cases hindexed

lemma answerEffect_acmpStep (h : AnswersRunning s) {e : AcmpEvent} (hok : CallInOrder cfg s e) :
    AnswerEffect s e (acmpStep cfg s e) (acmpEvent cfg s e).2 := by
  by_cases hcall : ∃ env, e = .listenerPeriodic env
  · obtain ⟨env, rfl⟩ := hcall
    exact answerEffect_call h hok (listenerCall_acmpListenerPeriodic cfg env s)
  · have hpoll : ¬ PollsInTime s e := by
      intro hpoll
      cases e with
      | listenerPeriodic env => exact hcall ⟨env, rfl⟩
      | _ => exact hpoll
    obtain ⟨hlistener, hout⟩ := (listener_event_cases h.running e).resolve_right hcall
    have hanswers := answersIn_of_not_ofListener hout
    rcases hlistener with hsame | ⟨p, -, htakes⟩
    · exact answerEffect_same hpoll hsame hanswers
    · refine .accept ⟨?_, ?_, hpoll⟩ htakes.waiting ?_ ?_ hanswers
      · rw [htakes.entity]
      · rw [htakes.entity]
      · rw [htakes.state]
        exact acmpListenerNext_ne_rxTimeout _
      · rw [htakes.entity]

end

section

variable {cfg : AcmpConfig} {s s' : AcmpState} {e : AcmpEvent} {outs : List AcmpOut}

lemma acceptedBetween_of_heldKeys (h : heldKeys s' = []) : acceptedBetween s s' = [] := by
  unfold acceptedBetween
  rw [h]
  exact ite_self _

/-- **Balance.**  What was pending and what is accepted is answered, or pending. -/
theorem balance_of_effect (h : AnswerEffect s e s' outs) :
    (pendingKeys s ++ acceptedBetween s s').Perm (answersIn outs ++ pendingKeys s') := by
  unfold pendingKeys
  cases h with
  | quiet _ hheld hfs hans =>
    have haccepted : acceptedBetween s s' = [] := by
      unfold acceptedBetween
      split_ifs with hs
      · rw [hheld, heldKeys_of_waiting hs]
      · rfl
    rw [haccepted, hans, hheld, hfs, List.append_nil, List.nil_append]
  | accept _ hs _ hfs hans =>
    have haccepted : acceptedBetween s s' = heldKeys s' := if_pos hs
    rw [haccepted, hans, hfs, heldKeys_of_waiting hs]
    exact List.perm_append_comm
  | poll env _ hs hentity hstate hout =>
    have hheld := heldKeys_of_poll hstate
    rw [acceptedBetween_of_heldKeys hheld, hout, hheld, heldKeys_of_waiting hs, hentity,
      inflightCommands_acmpPollTimeouts, List.append_nil]
    rfl
  | refuse k _ _ hs' hheld hfs hans =>
    have hheld' := heldKeys_of_waiting hs'
    rw [acceptedBetween_of_heldKeys hheld', hans, hheld, hheld', hfs, List.append_nil]
    rfl
  | forward k i f g _ _ hs' hheld hf hfree huse hkey hfs hans =>
    have hheld' := heldKeys_of_waiting hs'
    rw [acceptedBetween_of_heldKeys hheld', hans, hheld, hheld', hfs, List.append_nil, ← hkey]
    exact (inflightKeys_set hf hfree huse).symm
  | finish i f change _ _ hheld hs' hf huse hfree hfs hans =>
    have hheld' := heldKeys_of_done hs'
    rw [acceptedBetween_of_heldKeys hheld', hans, hheld, hheld', hfs, List.append_nil]
    exact inflightKeys_release hf huse (hfree f)
  | resend i f change _ hs hs' hf huse huse' hkey hfs hans =>
    have hheld' := heldKeys_of_waiting hs'
    rw [acceptedBetween_of_heldKeys hheld', hans, heldKeys_of_rxTimeout hs, hheld', hfs,
      List.append_nil]
    exact inflightKeys_keep hf huse huse' hkey

lemma answeredFor_of_effect (h : AnswerEffect s e s' outs) (hne : answersIn outs ≠ []) :
    AnsweredFor s := by
  cases h with
  | quiet _ _ _ hans => exact absurd hans hne
  | accept _ _ _ _ hans => exact absurd hans hne
  | poll _ _ _ _ _ hout => exact absurd (by rw [hout]; rfl) hne
  | refuse _ _ hs => exact Or.inl hs
  | forward _ _ _ _ _ _ _ _ _ _ _ _ _ hans => exact absurd hans hne
  | finish _ _ _ _ hs => exact hs
  | resend _ _ _ _ _ _ _ _ _ _ _ hans => exact absurd hans hne

/-! ### The clock -/

def AcmpEntity.ticks (ent : AcmpEntity) : ℕ :=
  10 * ent.centisecondCounter + (10 - ent.inflightTimer.active).toNat

section

variable {env : AcmpEnv} {ent : AcmpEntity}

lemma poll_of_not_timeafter (h : timeafter env.pollTime ent.inflightTimer.timeout = false) :
    (acmpPollTimeouts env ent).inflightTimer = ent.inflightTimer ∧
      (acmpPollTimeouts env ent).centisecondCounter = ent.centisecondCounter := by
  have hpolled : avbTimerExpired env.pollTime ent.inflightTimer = (ent.inflightTimer, false) := by
    unfold avbTimerExpired
    rw [h]
    exact ite_self _
  unfold acmpPollTimeouts acmpProgressInflightTimer
  rw [hpolled]
  exact ⟨rfl, rfl⟩

lemma poll_of_timeafter (h : timeafter env.pollTime ent.inflightTimer.timeout = true)
    (hpos : 1 < ent.inflightTimer.active) :
    (acmpPollTimeouts env ent).inflightTimer.active = ent.inflightTimer.active - 1 ∧
      (acmpPollTimeouts env ent).inflightTimer.timeoutMultiplier =
        ent.inflightTimer.timeoutMultiplier ∧
      (acmpPollTimeouts env ent).centisecondCounter = ent.centisecondCounter := by
  have hactive : ent.inflightTimer.active ≠ 0 := by omega
  have hlast : ¬ ent.inflightTimer.active - 1 = 0 := by omega
  have hpolled : avbTimerExpired env.pollTime ent.inflightTimer =
      ({ ent.inflightTimer with
          active := ent.inflightTimer.active - 1
          timeout := (env.pollTime + ent.inflightTimer.period) % 2 ^ 32 }, false) := by
    unfold avbTimerExpired
    rw [if_neg hactive, if_pos h, decide_eq_false hlast]
  unfold acmpPollTimeouts acmpProgressInflightTimer
  rw [hpolled]
  exact ⟨rfl, rfl, rfl⟩

lemma poll_of_expired (h : timeafter env.pollTime ent.inflightTimer.timeout = true)
    (hlast : ent.inflightTimer.active = 1) :
    (acmpPollTimeouts env ent).inflightTimer.active = ent.inflightTimer.timeoutMultiplier ∧
      (acmpPollTimeouts env ent).inflightTimer.timeoutMultiplier =
        ent.inflightTimer.timeoutMultiplier ∧
      (acmpPollTimeouts env ent).centisecondCounter = (ent.centisecondCounter + 1) % 2 ^ 32 := by
  have hpolled : avbTimerExpired env.pollTime ent.inflightTimer =
      ({ ent.inflightTimer with
          active := ent.inflightTimer.active - 1
          timeout := (env.pollTime + ent.inflightTimer.period) % 2 ^ 32 }, true) := by
    unfold avbTimerExpired
    rw [if_neg (by rw [hlast]; decide), if_pos h, decide_eq_true (by rw [hlast]; rfl)]
  unfold acmpPollTimeouts acmpProgressInflightTimer
  rw [hpolled]
  exact ⟨startAvbTimer_active _ _ _, startAvbTimer_timeoutMultiplier _ _ _, rfl⟩

lemma clockRuns_poll (h : ClockRuns ent) (env : AcmpEnv) :
    ClockRuns (acmpPollTimeouts env ent) := by
  obtain ⟨hmult, hpos, hle⟩ := h
  cases hafter : timeafter env.pollTime ent.inflightTimer.timeout with
  | false =>
    obtain ⟨htimer, -⟩ := poll_of_not_timeafter hafter
    exact ⟨by rw [htimer, hmult], by rw [htimer]; exact hpos, by rw [htimer]; exact hle⟩
  | true =>
    by_cases hlast : ent.inflightTimer.active = 1
    · obtain ⟨hactive, hmult', -⟩ := poll_of_expired hafter hlast
      rw [hmult] at hactive
      exact ⟨hmult'.trans hmult, by rw [hactive]; decide, hactive.le⟩
    · obtain ⟨hactive, hmult', -⟩ := poll_of_timeafter hafter (by omega)
      refine ⟨by rw [hmult', hmult], ?_, ?_⟩ <;> rw [hactive] <;> omega

lemma ticks_poll (h : ClockRuns ent) (hcounter : ent.centisecondCounter + 1 < 2 ^ 32) :
    (acmpPollTimeouts env ent).ticks = ent.ticks +
      if timeafter env.pollTime ent.inflightTimer.timeout = true then 1 else 0 := by
  obtain ⟨hmult, hpos, hle⟩ := h
  unfold AcmpEntity.ticks
  cases hafter : timeafter env.pollTime ent.inflightTimer.timeout with
  | false =>
    obtain ⟨htimer, hcount⟩ := poll_of_not_timeafter hafter
    rw [htimer, hcount]
    rfl
  | true =>
    rw [if_pos rfl]
    by_cases hlast : ent.inflightTimer.active = 1
    · obtain ⟨hactive, -, hcount⟩ := poll_of_expired hafter hlast
      rw [hactive, hcount, hmult, hlast, Nat.mod_eq_of_lt hcounter]
      omega
    · obtain ⟨hactive, -, hcount⟩ := poll_of_timeafter hafter (by omega)
      rw [hactive, hcount]
      omega

end

/-! ### Invariants of every run -/

lemma clockRuns_calm (h : ClockRuns s.listener) (hcalm : Calm s e s') : ClockRuns s'.listener :=
  ⟨by rw [hcalm.timer]; exact h.multiplier, by rw [hcalm.timer]; exact h.active_pos,
    by rw [hcalm.timer]; exact h.active_le⟩

lemma clockRuns_of_effect (h : ClockRuns s.listener) (heffect : AnswerEffect s e s' outs) :
    ClockRuns s'.listener := by
  cases heffect with
  | poll env _ _ hentity =>
    rw [hentity]
    exact clockRuns_poll h env
  | quiet hcalm => exact clockRuns_calm h hcalm
  | accept hcalm => exact clockRuns_calm h hcalm
  | refuse _ hcalm => exact clockRuns_calm h hcalm
  | forward _ _ _ _ hcalm => exact clockRuns_calm h hcalm
  | finish _ _ _ hcalm => exact clockRuns_calm h hcalm
  | resend _ _ _ hcalm => exact clockRuns_calm h hcalm

lemma acmpInflightTimeout_lt (messageType : ℕ) (ent : AcmpEntity) :
    acmpInflightTimeout messageType ent < 2 ^ 32 := by
  unfold acmpInflightTimeout
  split_ifs
  · exact Nat.mod_lt _ (by decide)
  · decide

lemma plain_acmpStep (h : AnswersRunning s) (hok : CallInOrder cfg s e) :
    InFlightAll PlainEntry (acmpStep cfg s e).listener.inflightCommands := by
  rcases listener_event_cases h.running e with ⟨hsame | ⟨p, -, htakes⟩, -⟩ | ⟨env, rfl⟩
  · rw [hsame.entity]
    exact h.plain
  · rw [htakes.entity]
    exact h.plain
  · refine inFlightAll_call h.plain ?_ (fun _ _ hf => hf) ?_
      (listenerCall_acmpListenerPeriodic cfg env s)
    · exact fun messageType _ hs => ⟨acmpInflightTimeout_lt _ _, hok.2.1 hs⟩
    · exact fun f messageType ent hf => ⟨acmpInflightTimeout_lt _ _, hf.2⟩

lemma indexed_acmpStep (h : AnswersRunning s) (e : AcmpEvent)
    (hs' : (acmpStep cfg s e).listenerState = .rxTimeout) :
    (acmpStep cfg s e).listener.inflightTimeoutIdx.isSome = true := by
  have hsame : SameListener s (acmpStep cfg s e) →
      (acmpStep cfg s e).listener.inflightTimeoutIdx.isSome = true := by
    intro hsame
    rw [hsame.entity]
    exact h.indexed (hsame.state.symm.trans hs')
  rcases listener_event_cases h.running e with ⟨hleft | ⟨p, -, htakes⟩, -⟩ | ⟨env, rfl⟩
  · exact hsame hleft
  · exact absurd (htakes.state.symm.trans hs') (acmpListenerNext_ne_rxTimeout _)
  · rcases rxTimeout_call (listenerCall_acmpListenerPeriodic cfg env s) hs' with
      hleft | ⟨hentity, hsome⟩
    · exact hsame hleft
    · exact (congrArg (fun ent => ent.inflightTimeoutIdx.isSome) hentity).trans hsome

lemma answersRunning_acmpStep (h : AnswersRunning s) (hok : CallInOrder cfg s e) :
    AnswersRunning (acmpStep cfg s e) where
  running := acmpRunning_acmpStep h.running e
  listener := listenerRunning_acmpStep h.running h.listener e
  clock := clockRuns_of_effect h.clock (answerEffect_acmpStep h hok)
  plain := plain_acmpStep h hok
  indexed := indexed_acmpStep h e

lemma answersRunning_acmpInit (cfg : AcmpConfig) (now : ℕ) (s : AcmpState) :
    AnswersRunning (acmpInit cfg now s) where
  running := (acmpInv_acmpInit cfg now s).running
  listener := listenerRunning_acmpInit cfg now s
  clock := by
    constructor
    · exact startAvbTimer_timeoutMultiplier _ _ _
    · exact (startAvbTimer_active now 1 (initAvbTimer 10 s.listener.inflightTimer)).symm ▸
        (by decide : (0 : ℤ) < 10)
    · exact (startAvbTimer_active now 1 (initAvbTimer 10 s.listener.inflightTimer)).le
  plain := by
    intro f hf huse
    rw [List.eq_of_mem_replicate hf] at huse
    cases huse
  indexed := fun h => absurd h (ne_rxTimeout_of_waiting rfl)

end

structure AnswerWatch.Inv (w : AnswerWatch) : Prop where
  running : AnswersRunning w.acmp
  conserved : w.Conserved

lemma AnswerWatch.inv_init (now : ℕ) (s : AcmpState) : (answerInit cfg now s).Inv := by
  refine ⟨answersRunning_acmpInit cfg now s, ?_⟩
  have hkeys : inflightKeys (List.replicate cfg.maxInflightCommands .zero) = [] := by
    unfold inflightKeys
    rw [Slots.occupied_eq_nil]
    · rfl
    · intro f hf
      rw [List.eq_of_mem_replicate hf]
      exact Bool.false_ne_true
  have hpending : pendingKeys (acmpInit cfg now s) = [] := by
    unfold pendingKeys
    rw [heldKeys_of_waiting rfl]
    exact hkeys
  unfold AnswerWatch.Conserved answerInit
  rw [hpending]
  exact List.Perm.refl _

lemma AnswerWatch.inv_step {cfg : AcmpConfig} {w : AnswerWatch} (h : w.Inv) {e : AcmpEvent}
    (hok : CallInOrder cfg w.acmp e) : (answerStep cfg w e).Inv := by
  refine ⟨answersRunning_acmpStep h.running hok, ?_⟩
  have hbalance := balance_of_effect (answerEffect_acmpStep h.running hok)
  have hconserved : w.accepted.Perm (w.answered ++ pendingKeys w.acmp) := h.conserved
  show (w.accepted ++ acceptedBetween w.acmp (acmpStep cfg w.acmp e)).Perm
    (w.answered ++ answersIn (acmpEvent cfg w.acmp e).2 ++ pendingKeys (acmpStep cfg w.acmp e))
  rw [List.append_assoc]
  refine (hconserved.append_right _).trans ?_
  rw [List.append_assoc]
  exact hbalance.append_left _

/-! ## Answers in time -/

/-- **Rank.**  What can still be issued and answered, and whether a poll has found a timeout. -/
def AnswerWatch.rank : ℕ :=
  2 * (2 * (2 ^ 16 - w.issued) + (inflightKeys w.acmp.listener.inflightCommands).length) +
    if w.acmp.listenerState = .rxTimeout then 0 else 1

structure StableStep (s : AcmpState) (e : AcmpEvent) (s' : AcmpState) : Prop where
  table : s'.listener.inflightCommands = s.listener.inflightCommands
  clock : Calm s e s' ∨ ∃ env, e = .listenerPeriodic env ∧ s.listenerState = .waiting ∧
    s'.listener = acmpPollTimeouts env s.listener ∧
    ∀ f ∈ s.listener.inflightCommands, f.inUse = true →
      s'.listener.centisecondCounter < f.timeout

section

variable {cfg : AcmpConfig} {s s' : AcmpState} {e : AcmpEvent} {outs : List AcmpOut}

lemma lt_timeout_of_poll {env : AcmpEnv} {ent : AcmpEntity}
    (h : (acmpPollTimeouts env ent).inflightTimeoutIdx = none) {f : AcmpInflight}
    (hf : f ∈ ent.inflightCommands) (huse : f.inUse = true) :
    (acmpPollTimeouts env ent).centisecondCounter < f.timeout := by
  have hnone : acmpCheckInflightCommandTimeouts (acmpProgressInflightTimer env ent) = none := h
  have hmem : f ∈ (acmpProgressInflightTimer env ent).inflightCommands := by
    rw [acmpProgressInflightTimer_inflight]
    exact hf
  have htest := List.findIdx?_eq_none_iff.mp hnone f hmem
  rw [huse, Bool.true_and, decide_eq_false_iff_not, not_le] at htest
  exact htest

/-- **Every event** lowers the rank, or keeps the table while the clock goes on. -/
theorem rank_step {w : AnswerWatch} (h : w.Inv) (hok : CallInOrder cfg w.acmp e)
    (hissued : (answerStep cfg w e).issued < 2 ^ 16) : (answerStep cfg w e).rank < w.rank ∨
      (answerStep cfg w e).rank ≤ w.rank ∧
        StableStep w.acmp e (answerStep cfg w e).acmp := by
  have heffect := answerEffect_acmpStep h.running hok
  have hcount : (answerStep cfg w e).issued = w.issued + issuedIn (acmpEvent cfg w.acmp e).2 := rfl
  have hacmp : (answerStep cfg w e).acmp = acmpStep cfg w.acmp e := rfl
  unfold AnswerWatch.rank
  rw [hacmp]
  rw [hcount] at hissued ⊢
  cases heffect with
  | quiet hcalm _ hfs _ htimeout =>
    refine Or.inr ⟨?_, hfs, Or.inl hcalm⟩
    rw [hfs]
    split_ifs with h₁ h₂ h₂
    · omega
    · omega
    · exact absurd (htimeout h₂) h₁
    · omega
  | accept hcalm hs _ hfs =>
    refine Or.inr ⟨?_, hfs, Or.inl hcalm⟩
    rw [hfs, if_neg (ne_rxTimeout_of_waiting hs)]
    split_ifs <;> omega
  | poll env he hs hentity hstate =>
    have hfs : (acmpStep cfg w.acmp e).listener.inflightCommands =
        w.acmp.listener.inflightCommands := by
      rw [hentity, inflightCommands_acmpPollTimeouts]
    rw [hfs, hstate, if_neg (ne_rxTimeout_of_waiting hs)]
    by_cases hsome : (acmpPollTimeouts env w.acmp.listener).inflightTimeoutIdx.isSome = true
    · left
      rw [if_pos hsome, if_pos rfl]
      omega
    · right
      rw [if_neg hsome, if_neg (by decide)]
      refine ⟨by omega, hfs, Or.inr ⟨env, he, hs, hentity, fun f hf huse => ?_⟩⟩
      rw [hentity]
      exact lt_timeout_of_poll (Option.not_isSome_iff_eq_none.mp hsome) hf huse
  | refuse _ hcalm hs hs' _ hfs =>
    refine Or.inr ⟨?_, hfs, Or.inl hcalm⟩
    have hne : w.acmp.listenerState ≠ .rxTimeout := by
      rcases hs with hs | hs <;> rw [hs] <;> decide
    rw [hfs, if_neg hne]
    split_ifs <;> omega
  | forward k i f g _ hs hs' _ hf hfree huse _ hfs _ hissue =>
    -- one command less to issue outweighs the entry
    left
    have hne : w.acmp.listenerState ≠ .rxTimeout := by
      rcases hs with hs | hs <;> rw [hs] <;> decide
    have hlength := (inflightKeys_set hf hfree huse).length_eq
    rw [List.length_cons] at hlength
    rw [hissue] at hissued ⊢
    rw [hfs, if_neg (ne_rxTimeout_of_waiting hs'), if_neg hne]
    omega
  | finish i f change _ hs _ hs' hf huse hfree hfs =>
    left
    have hlength := (inflightKeys_release hf huse (hfree f)).length_eq
    rw [List.length_cons] at hlength
    rw [hfs, if_neg (ne_rxTimeout_of_done hs')]
    split_ifs <;> omega
  | resend i f change _ hs hs' hf huse huse' hkey hfs _ hissue =>
    left
    have hlength := (inflightKeys_keep hf huse huse' hkey).length_eq
    rw [hissue] at hissued ⊢
    rw [hfs, if_neg (ne_rxTimeout_of_waiting hs'), if_pos hs]
    omega

end

/-- **A run that goes on**: its calls are in order, fewer than `2 ^ 16` commands are issued, and
again and again a call finds the listener waiting after a period of its timer. -/
structure GoesOn (cfg : AcmpConfig) (w : AnswerWatch) (es : ℕ → AcmpEvent) : Prop where
  inOrder : ∀ n, CallInOrder cfg (Run.stateAt (answerStep cfg) w es n).acmp (es n)
  issued : ∀ n, (Run.stateAt (answerStep cfg) w es n).issued < 2 ^ 16
  time : ∀ n, ∃ m, n ≤ m ∧ PollsInTime (Run.stateAt (answerStep cfg) w es m).acmp (es m)

section

variable {cfg : AcmpConfig} {w : AnswerWatch} {es : ℕ → AcmpEvent}

lemma GoesOn.inv (h : GoesOn cfg w es) (hw : w.Inv) (n : ℕ) :
    (Run.stateAt (answerStep cfg) w es n).Inv :=
  Run.stateAt_invariant hw (fun n hn => AnswerWatch.inv_step hn (h.inOrder n)) n

lemma GoesOn.eventually_stable (h : GoesOn cfg w es) (hw : w.Inv) :
    ∃ n₀, ∀ m, n₀ ≤ m → StableStep (Run.stateAt (answerStep cfg) w es m).acmp (es m)
      (Run.stateAt (answerStep cfg) w es (m + 1)).acmp := by
  have hstep : ∀ m, _ := fun m => rank_step (h.inv hw m) (h.inOrder m) (h.issued (m + 1))
  have hanti : Antitone fun m => (Run.stateAt (answerStep cfg) w es m).rank := by
    refine antitone_nat_of_succ_le fun m => ?_
    rcases hstep m with hlt | ⟨hle, -⟩
    · exact hlt.le
    · exact hle
  obtain ⟨n₀, hconst⟩ := WellFoundedLT.antitone_chain_condition hanti
  refine ⟨n₀, fun m hm => ?_⟩
  rcases hstep m with hlt | ⟨-, hstable⟩
  · have hrank : (Run.stateAt (answerStep cfg) w es m).rank =
        (Run.stateAt (answerStep cfg) w es (m + 1)).rank :=
      (hconst m hm).symm.trans (hconst (m + 1) (hm.trans (Nat.le_succ m)))
    exact absurd hrank.symm hlt.ne
  · exact hstable

lemma counter_lt_of_stable {f : AcmpInflight} {k : ℕ}
    (hstable : ∀ m, k ≤ m → StableStep (Run.stateAt (answerStep cfg) w es m).acmp (es m)
      (Run.stateAt (answerStep cfg) w es (m + 1)).acmp)
    (hf : f ∈ (Run.stateAt (answerStep cfg) w es k).acmp.listener.inflightCommands)
    (huse : f.inUse = true)
    (hpoll : PollsInTime (Run.stateAt (answerStep cfg) w es k).acmp (es k)) (m : ℕ)
    (hm : k + 1 ≤ m) : f ∈ (Run.stateAt (answerStep cfg) w es m).acmp.listener.inflightCommands ∧
      (Run.stateAt (answerStep cfg) w es m).acmp.listener.centisecondCounter < f.timeout := by
  induction m, hm using Nat.le_induction with
  | base =>
    have hstep := hstable k (le_refl k)
    refine ⟨hstep.table ▸ hf, ?_⟩
    rcases hstep.clock with hcalm | ⟨env, -, -, -, hlate⟩
    · exact absurd hpoll hcalm.notPoll
    · exact hlate f hf huse
  | succ m hm ih =>
    obtain ⟨hmem, hlt⟩ := ih
    have hstep := hstable m ((Nat.le_succ k).trans hm)
    refine ⟨hstep.table ▸ hmem, ?_⟩
    rcases hstep.clock with hcalm | ⟨env, -, -, -, hlate⟩
    · rw [hcalm.counter]
      exact hlt
    · exact hlate f hmem huse

lemma ticks_lt {ent : AcmpEntity} (h : ClockRuns ent) :
    ent.ticks < 10 * (ent.centisecondCounter + 1) := by
  have hpos := h.active_pos
  unfold AcmpEntity.ticks
  omega

lemma ticks_stable {s s' : AcmpState} {e : AcmpEvent} (h : ClockRuns s.listener)
    (hcounter : s.listener.centisecondCounter + 1 < 2 ^ 32) (hstable : StableStep s e s') :
    s.listener.ticks ≤ s'.listener.ticks ∧
      (PollsInTime s e → s.listener.ticks < s'.listener.ticks) := by
  rcases hstable.clock with hcalm | ⟨env, rfl, hs, hentity, -⟩
  · have hsame : s'.listener.ticks = s.listener.ticks := by
      unfold AcmpEntity.ticks
      rw [hcalm.timer, hcalm.counter]
    exact ⟨hsame.ge, fun hpoll => absurd hpoll hcalm.notPoll⟩
  · rw [hentity, ticks_poll h hcounter]
    refine ⟨Nat.le_add_right _ _, fun hpoll => ?_⟩
    rw [if_pos hpoll.2]
    exact Nat.lt_succ_self _

/-- **Progress.**  Again and again nothing is pending. -/
theorem GoesOn.pendingKeys_eq_nil (h : GoesOn cfg w es) (hw : w.Inv) (n : ℕ) :
    ∃ m, n ≤ m ∧ pendingKeys (Run.stateAt (answerStep cfg) w es m).acmp = [] := by
  obtain ⟨n₀, hstable⟩ := h.eventually_stable hw
  obtain ⟨k, hk, hpoll⟩ := h.time (max n n₀)
  refine ⟨k, (le_max_left _ _).trans hk, ?_⟩
  have hwaiting : (Run.stateAt (answerStep cfg) w es k).acmp.listenerState = .waiting := by
    revert hpoll
    cases es k with
    | listenerPeriodic env => exact fun hpoll => hpoll.1
    | _ => exact False.elim
  have hfree : ∀ f ∈ (Run.stateAt (answerStep cfg) w es k).acmp.listener.inflightCommands,
      ¬ f.inUse = true := by
    intro f hf huse
    have hstable' : ∀ m, k ≤ m → _ := fun m hm =>
      hstable m (((le_max_right _ _).trans hk).trans hm)
    have hbehind := counter_lt_of_stable hstable' hf huse hpoll
    have htimeout : f.timeout < 2 ^ 32 := ((h.inv hw k).running.plain f hf huse).1
    have hticks : ∀ m, k + 1 ≤ m → _ := fun m hm =>
      ticks_stable (h.inv hw m).running.clock
        (Nat.lt_of_le_of_lt (Nat.succ_le_of_lt (hbehind m hm).2) htimeout)
        (hstable' m ((Nat.le_succ k).trans hm))
    -- the ticks pass ten times the timeout, and the clock does not
    obtain ⟨m, hm, hle⟩ := Run.exists_le_of_climbs (fun m hm => (hticks m hm).1)
      (fun j => by
        obtain ⟨m, hm, hp⟩ := h.time (max j (k + 1))
        exact ⟨m, (le_max_left _ _).trans hm, (hticks m ((le_max_right _ _).trans hm)).2 hp⟩)
      (10 * f.timeout)
    have hlt := ticks_lt (h.inv hw m).running.clock
    have hcounter := (hbehind m hm).2
    omega
  unfold pendingKeys inflightKeys
  rw [heldKeys_of_waiting hwaiting, Slots.occupied_eq_nil hfree]
  rfl

end

/-! ## One answer for each command -/

def AcmpCmdResp.Asks (p : AcmpCmdResp) (k : RxKey) : Prop :=
  p.messageType = AcmpCmd.connectRxCommand ∧ k = p.rxKey true ∨
    p.messageType = AcmpCmd.disconnectRxCommand ∧ k = p.rxKey false

lemma acmpListenerNext_eq_rxCommand {messageType : ℕ} :
    (acmpListenerNext messageType = .connectRxCommand →
      messageType = AcmpCmd.connectRxCommand) ∧
    (acmpListenerNext messageType = .disconnectRxCommand →
      messageType = AcmpCmd.disconnectRxCommand) := by
  unfold acmpListenerNext
  split <;> constructor <;> intro hnext <;> first | rfl | cases hnext

lemma asks_of_accepted {cfg : AcmpConfig} {s : AcmpState} (h : AcmpRunning s) {e : AcmpEvent}
    {k : RxKey} (hk : k ∈ acceptedBetween s (acmpStep cfg s e)) : ∃ p, Brings e p ∧ p.Asks k := by
  unfold acceptedBetween at hk
  split_ifs at hk with hs
  · rcases listener_event_cases h e with ⟨hsame | ⟨p, hbrings, htakes⟩, -⟩ | ⟨env, rfl⟩
    · rw [heldKeys_same hsame, heldKeys_of_waiting hs] at hk
      cases hk
    · refine ⟨p, hbrings, ?_⟩
      unfold heldKeys at hk
      rw [htakes.entity, htakes.state] at hk
      split at hk
      · next hnext =>
        exact Or.inl ⟨acmpListenerNext_eq_rxCommand.1 hnext, List.mem_singleton.mp hk⟩
      · next hnext =>
        exact Or.inr ⟨acmpListenerNext_eq_rxCommand.2 hnext, List.mem_singleton.mp hk⟩
      · cases hk
    · have hstate : (acmpListenerPeriodic cfg env s).1.listenerState =
          if (acmpPollTimeouts env s.listener).inflightTimeoutIdx.isSome then .rxTimeout
          else .waiting := by
        unfold acmpListenerPeriodic
        rw [hs]
      have hheld : heldKeys (acmpListenerPeriodic cfg env s).1 = [] := heldKeys_of_poll hstate
      exact absurd hk (hheld ▸ List.not_mem_nil)
  · cases hk

lemma AnswerWatch.Inv.subperm {w : AnswerWatch} (h : w.Inv) : w.answered.Subperm w.accepted := by
  have hconserved : w.accepted.Perm (w.answered ++ pendingKeys w.acmp) := h.conserved
  exact (List.sublist_append_left _ _).subperm.trans hconserved.symm.subperm

def callEnv (now : ℕ) : AcmpEnv := ⟨now, now, false, 0, none⟩

def listenerCallAt (now : ℕ) : AcmpEvent := .listenerPeriodic (callEnv now)

def connectMessages : List AcmpEvent :=
  [.packet (sinkMessage AcmpCmd.connectRxCommand 2 7), listenerCallAt 0,
    .packet (talkerAnswer 0 0), listenerCallAt 0]

def connectAndWait (n : ℕ) : AcmpEvent :=
  if n < 4 then connectMessages.getD n (listenerCallAt 0)
  else listenerCallAt (2 * ticksPerCentisecond * (n - 3))

def oneSinkWatch : AnswerWatch := answerInit oneSink 0 acmpCold

structure AnswerWatch.WaitsAt (w : AnswerWatch) (n : ℕ) : Prop where
  waiting : w.acmp.listenerState = .waiting
  free : ∀ f ∈ w.acmp.listener.inflightCommands, f.inUse = false
  issued : w.issued = 1
  clock : ClockRuns w.acmp.listener
  period : w.acmp.listener.inflightTimer.period = ticksPerCentisecond
  timeout : w.acmp.listener.inflightTimer.timeout =
    (2 * ticksPerCentisecond * n + ticksPerCentisecond) % 2 ^ 32

section

variable {w : AnswerWatch} {n : ℕ}

lemma timeafter_next (n : ℕ) : timeafter (2 * ticksPerCentisecond * (n + 1))
    ((2 * ticksPerCentisecond * n + ticksPerCentisecond) % 2 ^ 32) = true := by
  unfold timeafter s32 ticksPerCentisecond
  rw [decide_eq_true_iff]
  omega

lemma timer_poll (env : AcmpEnv) {ent : AcmpEntity} (hrestart : env.restartTime = env.pollTime)
    (hafter : timeafter env.pollTime ent.inflightTimer.timeout = true)
    (hactive : ent.inflightTimer.active ≠ 0)
    (hperiod : ent.inflightTimer.period = ticksPerCentisecond) :
    (acmpPollTimeouts env ent).inflightTimer.period = ticksPerCentisecond ∧
      (acmpPollTimeouts env ent).inflightTimer.timeout =
        (env.pollTime + ticksPerCentisecond) % 2 ^ 32 := by
  have hpolled : avbTimerExpired env.pollTime ent.inflightTimer =
      ({ ent.inflightTimer with
          active := ent.inflightTimer.active - 1
          timeout := (env.pollTime + ent.inflightTimer.period) % 2 ^ 32 },
        decide (ent.inflightTimer.active - 1 = 0)) := by
    unfold avbTimerExpired
    rw [if_neg hactive, if_pos hafter]
  unfold acmpPollTimeouts acmpProgressInflightTimer
  rw [hpolled]
  dsimp only
  split_ifs
  · rw [hrestart]
    exact ⟨rfl, rfl⟩
  · exact ⟨hperiod, by rw [hperiod]⟩

lemma callInOrder_of_waiting {cfg : AcmpConfig} {s : AcmpState}
    (h : s.listenerState = .waiting) (e : AcmpEvent) : CallInOrder cfg s e := by
  cases e with
  | listenerPeriodic env =>
    refine ⟨?_, fun hs => absurd h (ne_waiting_of_holdsRxCommand hs),
      fun hs => absurd h (ne_waiting_of_holdsTxResponse hs)⟩
    rintro ⟨-, ⟨hs, -⟩ | ⟨hs, -⟩⟩ <;> rw [h] at hs <;> cases hs
  | _ => trivial

lemma AnswerWatch.WaitsAt.step (h : w.WaitsAt n) :
    (answerStep oneSink w (listenerCallAt (2 * ticksPerCentisecond * (n + 1)))).WaitsAt
      (n + 1) := by
  have hafter := timeafter_next n
  rw [← h.timeout] at hafter
  set env := callEnv (2 * ticksPerCentisecond * (n + 1))
  have hnone : (acmpPollTimeouts env w.acmp.listener).inflightTimeoutIdx = none := by
    refine List.findIdx?_eq_none_iff.mpr fun f hf => ?_
    rw [acmpProgressInflightTimer_inflight] at hf
    rw [h.free f hf, Bool.false_and]
  obtain ⟨hperiod, htimeout⟩ := timer_poll env rfl hafter h.clock.active_pos.ne' h.period
  have hcall : acmpEvent oneSink w.acmp (.listenerPeriodic env) =
      ({ w.acmp with
          listener := acmpPollTimeouts env w.acmp.listener
          listenerState := .waiting }, []) := by
    show acmpListenerPeriodic oneSink env w.acmp = _
    unfold acmpListenerPeriodic
    rw [h.waiting]
    dsimp only
    rw [hnone]
    rfl
  unfold answerStep acmpStep listenerCallAt
  rw [hcall]
  exact
    { waiting := rfl
      free := fun f hf => h.free f (by rwa [inflightCommands_acmpPollTimeouts] at hf)
      issued := h.issued
      clock := clockRuns_poll h.clock env
      period := hperiod
      timeout := htimeout }

lemma waitsAt_connectAndWait (n : ℕ) :
    (Run.stateAt (answerStep oneSink) oneSinkWatch connectAndWait (n + 4)).WaitsAt n := by
  induction n with
  | zero =>
    constructor
    · decide +kernel
    · decide +kernel
    · decide +kernel
    · constructor <;> decide +kernel
    · decide +kernel
    · decide +kernel
  | succ n ih =>
    have hevent : connectAndWait (n + 4) =
        listenerCallAt (2 * ticksPerCentisecond * (n + 1)) := if_neg (by omega)
    show (answerStep oneSink _ (connectAndWait (n + 4))).WaitsAt (n + 1)
    rw [hevent]
    exact ih.step

lemma goesOn_connectAndWait : GoesOn oneSink oneSinkWatch connectAndWait := by
  constructor
  · intro n
    rcases Nat.lt_or_ge n 4 with hn | hn
    · revert n
      decide +kernel
    · obtain ⟨k, rfl⟩ := Nat.exists_eq_add_of_le' hn
      exact callInOrder_of_waiting (waitsAt_connectAndWait k).waiting _
  · intro n
    rcases Nat.lt_or_ge n 4 with hn | hn
    · revert n
      decide +kernel
    · obtain ⟨k, rfl⟩ := Nat.exists_eq_add_of_le' hn
      rw [(waitsAt_connectAndWait k).issued]
      decide
  · intro n
    have hevent : connectAndWait (n + 4) =
        listenerCallAt (2 * ticksPerCentisecond * (n + 1)) := if_neg (by omega)
    refine ⟨n + 4, Nat.le_add_right n 4, ?_⟩
    rw [hevent]
    refine ⟨(waitsAt_connectAndWait n).waiting, ?_⟩
    rw [(waitsAt_connectAndWait n).timeout]
    exact timeafter_next n

end

def mismatchedMessages : List AcmpEvent :=
  [.packet (sinkMessage AcmpCmd.connectRxCommand 2 7), listenerCallAt 0,
    .packet (sinkMessage AcmpCmd.disconnectTxResponse 2 0), listenerCallAt 0]

def crowdedMessages : List AcmpEvent :=
  [.packet (sinkMessage AcmpCmd.connectRxCommand 2 7), listenerCallAt 0,
    .packet (sinkMessage AcmpCmd.connectRxCommand 2 8), listenerCallAt 0,
    .packet (sinkMessage AcmpCmd.connectRxCommand 2 9), listenerCallAt 0]
