/-
# What the listener does

Every event of the machines either leaves the listener alone, or has its waiting
listener take a message, or is a periodic call of the listener.  This file says once
what each of these does to the listener's state, its commands in flight and its table of
streams, and what it sends; the invariants of the listener are derived from that.
-/
import LibTsn.AcmpDevice

/-! ## Outputs of the listener -/

/-- `CONNECT_RX_RESPONSE` or `DISCONNECT_RX_RESPONSE`. -/
def IsRxResponse (messageType : ℕ) : Prop :=
  messageType = AcmpCmd.connectRxResponse ∨ messageType = AcmpCmd.disconnectRxResponse
  deriving Decidable

def AcmpOut.OfListener : AcmpOut → Prop
  | .packet p => IsRxResponse p.messageType
  | .listenerOnTalkerConnect .. => True
  | .listenerOnTalkerDisconnect .. => True
  | _ => False

lemma not_isRxResponse_of_isRxCommand {messageType : ℕ} (h : IsRxCommand messageType) :
    ¬ IsRxResponse messageType := by
  rcases h with rfl | rfl <;> decide

/-- `CONNECT_TX_COMMAND` or `DISCONNECT_TX_COMMAND`. -/
def IsTxCommand (messageType : ℕ) : Prop :=
  messageType = AcmpCmd.connectTxCommand ∨ messageType = AcmpCmd.disconnectTxCommand

lemma not_isRxResponse_of_isTxCommand {messageType : ℕ} (h : IsTxCommand messageType) :
    ¬ IsRxResponse messageType := by
  rcases h with rfl | rfl <;> decide

/-! ## The other machines -/

def AcmpOut.OfController : AcmpOut → Prop
  | .packet p => IsRxCommand p.messageType
  | .talkerOnListenerConnectFailed .. => True
  | _ => False

variable (s : AcmpState) (cfg : AcmpConfig) (messageType : ℕ) (ent : AcmpEntity)

section

variable {cfg : AcmpConfig} {s : AcmpState}

lemma AcmpOut.OfController.not_ofListener {o : AcmpOut} (h : o.OfController) : ¬ o.OfListener := by
  cases o with
  | packet p => exact not_isRxResponse_of_isRxCommand h
  | talkerOnListenerConnectFailed => exact id
  | _ => exact h.elim

lemma ofController_controllerPeriodic (h : AcmpRunning s) (env : AcmpEnv) :
    ∀ o ∈ (acmpControllerPeriodic cfg env s).2, o.OfController := by
  unfold acmpControllerPeriodic
  split
  case h_3 hstate =>
    unfold acmpControllerTimeout
    split
    · exact List.forall_mem_nil _
    · next i hi =>
      dsimp only
      split_ifs
      · exact List.forall_mem_nil _
      · refine List.forall_mem_singleton.mpr ?_
        exact isRxCommand_of_inUseAt h.commands (h.timedOut hstate i hi)
  case h_4 =>
    unfold acmpControllerConnectFailed
    split_ifs
    · exact List.forall_mem_singleton.mpr trivial
    · exact List.forall_mem_nil _
  all_goals exact List.forall_mem_nil _

lemma ofController_controllerConnectDisconnect {messageType : ℕ} (h : IsRxCommand messageType)
    (talkerGuid listenerGuid : UInt64) (talkerId listenerId : UInt16) :
    ∀ o ∈ (acmpControllerConnectDisconnect cfg messageType talkerGuid listenerGuid talkerId
      listenerId s).2, o.OfController :=
  List.forall_mem_singleton.mpr h

lemma not_ofListener_talkerPeriodic (cfg : AcmpConfig) (env : AcmpEnv) (s : AcmpState) :
    ∀ o ∈ (acmpTalkerPeriodic cfg env s).2, ¬ o.OfListener := by
  have hconnect : ¬ IsRxResponse AcmpCmd.connectTxResponse := by decide
  have hdisconnect : ¬ IsRxResponse AcmpCmd.disconnectTxResponse := by decide
  have hstate : ¬ IsRxResponse AcmpCmd.getTxStateResponse := by decide
  have hconnection : ¬ IsRxResponse AcmpCmd.getTxConnectionResponse := by decide
  unfold acmpTalkerPeriodic
  split
  · exact List.forall_mem_nil _
  · exact List.forall_mem_nil _
  · unfold acmpTalkerConnect
    dsimp only
    split_ifs
    · exact List.forall_mem_cons.mpr ⟨id, List.forall_mem_singleton.mpr hconnect⟩
    · exact List.forall_mem_singleton.mpr hconnect
  · unfold acmpTalkerDisconnect
    dsimp only
    split_ifs
    · exact List.forall_mem_cons.mpr ⟨id, List.forall_mem_singleton.mpr hdisconnect⟩
    · exact List.forall_mem_singleton.mpr hdisconnect
  · unfold acmpTalkerGetStateResponse
    split_ifs
    · exact List.forall_mem_singleton.mpr hstate
    · exact List.forall_mem_singleton.mpr hstate
  · unfold acmpTalkerGetConnectionResponse
    split_ifs
    · exact List.forall_mem_singleton.mpr hconnection
    · exact List.forall_mem_singleton.mpr hconnection

def Brings (e : AcmpEvent) (p : AcmpCmdResp) : Prop := e = .packet p ∨ IsRxCommand p.messageType

/-- **Every event.**  The listener is left alone, takes a message, or is called; in the first
two cases nothing that is put out is of the listener. -/
theorem listener_event_cases (h : AcmpRunning s) (e : AcmpEvent) :
    ((SameListener s (acmpStep cfg s e) ∨ ∃ p, Brings e p ∧ Takes p s (acmpStep cfg s e)) ∧
      ∀ o ∈ (acmpEvent cfg s e).2, ¬ o.OfListener) ∨
    ∃ env, e = .listenerPeriodic env := by
  have hbeside (hb : Beside s (acmpStep cfg s e))
      (hout : ∀ o ∈ (acmpEvent cfg s e).2, o.OfController) :
      (SameListener s (acmpStep cfg s e) ∨ ∃ p, Brings e p ∧ Takes p s (acmpStep cfg s e)) ∧
        ∀ o ∈ (acmpEvent cfg s e).2, ¬ o.OfListener :=
    ⟨hb.imp_right fun ⟨p, hp, htakes⟩ => ⟨p, Or.inr hp, htakes⟩, fun o ho =>
      (hout o ho).not_ofListener⟩
  cases e with
  | packet p =>
    refine Or.inl ⟨?_, List.forall_mem_nil _⟩
    exact (sameListener_or_takes_processAcmpPacket cfg p s).imp_right fun htakes =>
      ⟨p, Or.inl rfl, htakes.2⟩
  | controllerPeriodic env =>
    exact Or.inl (hbeside (beside_controllerPeriodic h env) (ofController_controllerPeriodic h env))
  | talkerPeriodic env =>
    exact Or.inl ⟨Or.inl (sameListener_talkerPeriodic cfg env s),
      not_ofListener_talkerPeriodic cfg env s⟩
  | listenerPeriodic env => exact Or.inr ⟨env, rfl⟩
  | controllerConnect =>
    exact Or.inl (hbeside (beside_controllerConnectDisconnect (Or.inl rfl) _ _ _ _)
      (ofController_controllerConnectDisconnect (Or.inl rfl) _ _ _ _))
  | controllerDisconnect =>
    exact Or.inl (hbeside (beside_controllerConnectDisconnect (Or.inr rfl) _ _ _ _)
      (ofController_controllerConnectDisconnect (Or.inr rfl) _ _ _ _))

end

/-! ## Commands of the listener -/

def acmpForward (messageType : ℕ) (ent : AcmpEntity) : AcmpEntity :=
  acmpAddInflight messageType ent.cmdResp.sequenceId (acmpNumberCommand ent none)

def acmpResend (messageType i : ℕ) (ent : AcmpEntity) : AcmpEntity :=
  acmpSetInflightRetry messageType i (acmpNumberCommand ent (some i))

lemma cmdResp_acmpAddInflight (id : UInt16) (ent : AcmpEntity) :
    (acmpAddInflight messageType id ent).cmdResp = ent.cmdResp := by
  unfold acmpAddInflight
  split <;> rfl

lemma cmdResp_acmpForward :
    (acmpForward messageType ent).cmdResp = { ent.cmdResp with sequenceId := ent.sequenceId } :=
  cmdResp_acmpAddInflight _ _ _

lemma listener_sendListenerCommand (retry : Option ℕ) {s : AcmpState}
    (h : s.listenerState ≠ .waiting) :
    (acmpSendCommand cfg .listener messageType retry s).1.listener =
      acmpNoteCommand messageType (acmpCommand s.listener retry).sequenceId
        (acmpNumberCommand s.listener retry) retry ∧
    (acmpSendCommand cfg .listener messageType retry s).1.listenerStreams = s.listenerStreams := by
  rcases sameListener_or_takes_processAcmpPacket cfg
    (acmpCommandPacket messageType retry s.listener)
    (s.setEntity (acmpNumberCommand s.listener retry) .listener) with hsame | ⟨-, htakes⟩
  · refine ⟨?_, hsame.streams⟩
    exact congrArg (acmpNoteCommand messageType (acmpCommand s.listener retry).sequenceId · retry)
      hsame.entity
  · exact absurd htakes.waiting h

def AcmpEntity.expire (i : ℕ) : AcmpEntity :=
  { ent with
    inflightCommands := ent.inflightCommands.modify i fun f =>
      { f with inUse := false, command := { f.command with sequenceId := f.originalSequenceId } } }

def rxResponseType (state : AcmpListenerState) : ℕ :=
  if state = .connectRxCommand then AcmpCmd.connectRxResponse else AcmpCmd.disconnectRxResponse

def AcmpState.sink : ℕ := s.listener.cmdResp.listenerUniqueId.toNat

/-- The entry that `acmp_add_listener_stream_info` makes of a message. -/
def AcmpListenerStream.of (r : AcmpCmdResp) : AcmpListenerStream where
  talkerGuid := r.talkerGuid
  talkerUniqueId := r.talkerUniqueId
  connected := true
  streamId := r.streamId
  destinationMac := r.streamDestMac

/-- **A call of the listener**, by what it finds. -/
inductive ListenerCall (cfg : AcmpConfig) (env : AcmpEnv) (s s' : AcmpState)
    (outs : List AcmpOut) : Prop
  | idle (hs : s.listenerState = .idle) (hsame : SameListener s s') (hout : outs = [])
  | poll (hs : s.listenerState = .waiting)
      (hentity : s'.listener = acmpPollTimeouts env s.listener)
      (hstate : s'.listenerState =
        if (acmpPollTimeouts env s.listener).inflightTimeoutIdx.isSome then .rxTimeout
        else .waiting)
      (hstreams : s'.listenerStreams = s.listenerStreams) (hout : outs = [])
  | refuse (status : ℕ) (hs : s.listenerState = .connectRxCommand ∨
        s.listenerState = .disconnectRxCommand)
      (hstatus : status ≠ AcmpStatus.success)
      (hexclusive : s.listenerState = .connectRxCommand →
        acmpListenerValidListenerUnique cfg s = true → status = AcmpStatus.listenerExclusive)
      (hentity : s'.listener = s.listener) (hstate : s'.listenerState = .waiting)
      (hstreams : s'.listenerStreams = s.listenerStreams)
      (hout : outs = [acmpSendResponse (rxResponseType s.listenerState) s.listener.cmdResp status])
  | forwardConnect (p : AcmpCmdResp) (hs : s.listenerState = .connectRxCommand)
      (hvalid : acmpListenerValidListenerUnique cfg s = true)
      (hfree : acmpListenerIsConnected false env s = false)
      (hentity : s'.listener = acmpForward AcmpCmd.connectTxCommand s.listener)
      (hstate : s'.listenerState = .waiting)
      (hstreams : s'.listenerStreams = s.listenerStreams)
      (hp : p.messageType = AcmpCmd.connectTxCommand) (hout : outs = [.packet p])
  | forwardDisconnect (p : AcmpCmdResp) (talkerGuid : UInt64) (destMac : Vector UInt8 6)
      (streamId : UInt64) (hs : s.listenerState = .disconnectRxCommand)
      (hvalid : acmpListenerValidListenerUnique cfg s = true)
      (hconnected : acmpListenerIsConnected true env s = true)
      (hentity : s'.listener = acmpForward AcmpCmd.disconnectTxCommand s.listener)
      (hstate : s'.listenerState = .waiting)
      (hstreams : s'.listenerStreams = s.listenerStreams.set s.sink .zero)
      (hp : p.messageType = AcmpCmd.disconnectTxCommand)
      (hout : outs = [.packet p, .listenerOnTalkerDisconnect s.listener.cmdResp.listenerUniqueId
        talkerGuid destMac streamId])
  | stuck (hs : HoldsTxResponse s) (hvalid : ¬ acmpListenerValidListenerUnique cfg s = true)
      (hsame : SameListener s s') (hout : outs = [])
  | ignore (r : AcmpCmdResp) (hs : HoldsTxResponse s)
      (hvalid : acmpListenerValidListenerUnique cfg s = true)
      (hno : ∀ f ∈ s.listener.inflightCommands, ¬ s.listener.Answers f)
      (hentity : s'.listener = { s.listener with cmdResp := r })
      (hstate : s'.listenerState = .waiting ∨ s'.listenerState = .getState)
      (hstreams : s'.listenerStreams = s.listenerStreams) (hout : outs = [])
  | connect (i : ℕ) (f : AcmpInflight) (r : AcmpCmdResp) (destMac : Vector UInt8 6)
      (streamId : UInt64) (vlanId : UInt16) (hs : s.listenerState = .connectTxResponse)
      (hvalid : acmpListenerValidListenerUnique cfg s = true)
      (hf : s.listener.inflightCommands[i]? = some f) (hans : s.listener.Answers f)
      (hclass : s.listener.cmdResp.flags &&& acmpFlagsClassB = 0)
      (hentity : s'.listener = { s.listener.finish i with cmdResp := r })
      (hstate : s'.listenerState = .waiting ∨ s'.listenerState = .getState)
      (hstreams : s'.listenerStreams =
        s.listenerStreams.set s.sink (.of s.listener.cmdResp))
      (hout : outs = [.listenerOnTalkerConnect s.listener.cmdResp.listenerUniqueId
          s.listener.cmdResp.talkerGuid destMac streamId vlanId,
        .packet { s.listener.cmdResp with
          sequenceId := f.originalSequenceId
          messageType := AcmpCmd.connectRxResponse
          status := env.connectStatus }])
  | incompatible (i : ℕ) (f : AcmpInflight) (r : AcmpCmdResp)
      (hs : s.listenerState = .connectTxResponse)
      (hvalid : acmpListenerValidListenerUnique cfg s = true)
      (hf : s.listener.inflightCommands[i]? = some f) (hans : s.listener.Answers f)
      (hentity : s'.listener = { s.listener.finish i with cmdResp := r })
      (hstate : s'.listenerState = .waiting ∨ s'.listenerState = .getState)
      (hstreams : s'.listenerStreams = s.listenerStreams)
      (hout : outs = [.packet { s.listener.cmdResp with
          sequenceId := f.originalSequenceId
          messageType := AcmpCmd.connectRxResponse
          status := AcmpStatus.incompatibleRequest }])
  | disconnect (i : ℕ) (f : AcmpInflight) (r : AcmpCmdResp)
      (hs : s.listenerState = .disconnectTxResponse)
      (hvalid : acmpListenerValidListenerUnique cfg s = true)
      (hf : s.listener.inflightCommands[i]? = some f) (hans : s.listener.Answers f)
      (hentity : s'.listener = { s.listener.finish i with cmdResp := r })
      (hstate : s'.listenerState = .waiting)
      (hstreams : s'.listenerStreams = s.listenerStreams.set s.sink .zero)
      (hout : outs = [.packet { s.listener.cmdResp with
          sequenceId := f.originalSequenceId
          messageType := AcmpCmd.disconnectRxResponse }])
  /-- `GET_RX_STATE_COMMAND` is answered. -/
  | report (p r : AcmpCmdResp) (hs : s.listenerState = .getState)
      (hentity : s'.listener = { s.listener with cmdResp := r })
      (hstate : s'.listenerState = .waiting)
      (hstreams : s'.listenerStreams = s.listenerStreams)
      (hp : p.messageType = AcmpCmd.getRxStateResponse) (hout : outs = [.packet p])
  | expire (i : ℕ) (hs : s.listenerState = .rxTimeout)
      (hi : s.listener.inflightTimeoutIdx = some i)
      (hretried : (s.listener.inflightCommands.getD i .zero).retried = true)
      (hentity : s'.listener = s.listener.expire i) (hstate : s'.listenerState = .waiting)
      (hstreams : s'.listenerStreams = s.listenerStreams)
      (hout : outs = acmpListenerTimeoutResponse (s.listener.inflightCommands.getD i .zero))
  | resend (i : ℕ) (p : AcmpCmdResp) (hs : s.listenerState = .rxTimeout)
      (hi : s.listener.inflightTimeoutIdx = some i)
      (hretried : ¬ (s.listener.inflightCommands.getD i .zero).retried = true)
      (hentity : s'.listener = acmpResend
        (s.listener.inflightCommands.getD i .zero).command.messageType i s.listener)
      (hstate : s'.listenerState = .waiting)
      (hstreams : s'.listenerStreams = s.listenerStreams)
      (hp : p.messageType = (s.listener.inflightCommands.getD i .zero).command.messageType)
      (hout : outs = [.packet p])
  | settled (hs : s.listenerState = .rxTimeout) (hi : s.listener.inflightTimeoutIdx = none)
      (hentity : s'.listener = s.listener) (hstate : s'.listenerState = .waiting)
      (hstreams : s'.listenerStreams = s.listenerStreams) (hout : outs = [])

section

variable {cfg : AcmpConfig} {env : AcmpEnv} {s : AcmpState}

lemma acmpListenerAfterConnect_spec (cfg : AcmpConfig) (s : AcmpState) :
    ∃ r, (acmpListenerAfterConnect cfg s).listener = { s.listener with cmdResp := r } ∧
      ((acmpListenerAfterConnect cfg s).listenerState = .waiting ∨
        (acmpListenerAfterConnect cfg s).listenerState = .getState) ∧
      (acmpListenerAfterConnect cfg s).listenerStreams = s.listenerStreams := by
  unfold acmpListenerAfterConnect
  split_ifs
  · exact ⟨_, rfl, Or.inr rfl, rfl⟩
  · exact ⟨_, rfl, Or.inl rfl, rfl⟩

lemma listenerCall_connectRx (hs : s.listenerState = .connectRxCommand) :
    ListenerCall cfg env s { (acmpListenerConnectRx cfg env s).1 with listenerState := .waiting }
      (acmpListenerConnectRx cfg env s).2 := by
  have htype : rxResponseType s.listenerState = AcmpCmd.connectRxResponse := if_pos hs
  unfold acmpListenerConnectRx
  by_cases hvalid : acmpListenerValidListenerUnique cfg s = true
  swap
  · rw [if_neg hvalid]
    exact .refuse AcmpStatus.listenerUnknownId (Or.inl hs) (by decide)
      (fun _ h => absurd h hvalid) rfl rfl rfl (by rw [htype])
  rw [if_pos hvalid]
  cases hconnected : acmpListenerIsConnected false env s with
  | true =>
    exact .refuse AcmpStatus.listenerExclusive (Or.inl hs) (by decide) (fun _ _ => rfl) rfl rfl
      rfl (by rw [htype]; rfl)
  | false =>
    obtain ⟨hentity, hstreams⟩ := listener_sendListenerCommand cfg AcmpCmd.connectTxCommand none
      (show s.listenerState ≠ .waiting by rw [hs]; decide)
    exact .forwardConnect _ hs hvalid hconnected hentity rfl hstreams rfl rfl

lemma listenerCall_disconnectRx (hs : s.listenerState = .disconnectRxCommand) :
    ListenerCall cfg env s
      { (acmpListenerDisconnectRx cfg env s).1 with listenerState := .waiting }
      (acmpListenerDisconnectRx cfg env s).2 := by
  have hconnect : s.listenerState ≠ .connectRxCommand := by rw [hs]; decide
  have htype : rxResponseType s.listenerState = AcmpCmd.disconnectRxResponse := if_neg hconnect
  unfold acmpListenerDisconnectRx
  by_cases hvalid : acmpListenerValidListenerUnique cfg s = true
  swap
  · rw [if_neg hvalid]
    exact .refuse AcmpStatus.listenerUnknownId (Or.inr hs) (by decide)
      (fun h => absurd h hconnect) rfl rfl rfl (by rw [htype])
  rw [if_pos hvalid]
  cases hconnected : acmpListenerIsConnected true env s with
  | false =>
    exact .refuse AcmpStatus.notConnected (Or.inr hs) (by decide) (fun h => absurd h hconnect)
      rfl rfl rfl (by rw [htype]; rfl)
  | true =>
    obtain ⟨hentity, hstreams⟩ := listener_sendListenerCommand cfg AcmpCmd.disconnectTxCommand
      none (show s.listenerState ≠ .waiting by rw [hs]; decide)
    have hsink : (acmpSendCommand cfg .listener AcmpCmd.disconnectTxCommand none
        s).1.listener.cmdResp.listenerUniqueId = s.listener.cmdResp.listenerUniqueId := by
      rw [hentity]
      exact (congrArg AcmpCmdResp.listenerUniqueId
        (cmdResp_acmpForward AcmpCmd.disconnectTxCommand s.listener) :)
    let r := (acmpSendCommand cfg .listener AcmpCmd.disconnectTxCommand none s).1.listener.cmdResp
    refine .forwardDisconnect (acmpCommandPacket AcmpCmd.disconnectTxCommand none s.listener)
      r.talkerGuid r.streamDestMac r.streamId hs hvalid hconnected hentity rfl ?_ rfl ?_
    · show (List.set _ _ _) = _
      rw [hstreams, hsink]
      rfl
    · rw [← hsink]
      rfl

lemma listenerCall_connectTx (hs : s.listenerState = .connectTxResponse) :
    ListenerCall cfg env s (acmpListenerConnectTx cfg env s).1
      (acmpListenerConnectTx cfg env s).2 := by
  rcases acmpListenerConnectTx_cases cfg env s with
    ⟨hvalid, heq⟩ | ⟨hvalid, ⟨hno, heq⟩ | ⟨i, f, hf, hans, heq⟩⟩
  · rw [heq]
    exact .stuck (Or.inl hs) hvalid (.refl s) rfl
  · rw [heq]
    obtain ⟨r, hentity, hstate, hstreams⟩ := acmpListenerAfterConnect_spec cfg s
    exact .ignore r (Or.inl hs) hvalid hno hentity hstate hstreams rfl
  · rw [heq]
    by_cases hclass : s.listener.cmdResp.flags &&& acmpFlagsClassB = 0
    · have hclass' : (acmpListenerFinish i f s).listener.cmdResp.flags &&& acmpFlagsClassB = 0 :=
        hclass
      rw [acmpListenerConnected_of_classA hclass']
      obtain ⟨r, hentity, hstate, hstreams⟩ := acmpListenerAfterConnect_spec cfg
        (acmpAddListenerStreamInfo (updateListenerCmdResp
          (fun r => { r with status := env.connectStatus }) (acmpListenerFinish i f s)))
      exact .connect i f r _ _ _ hs hvalid hf hans hclass hentity hstate hstreams rfl
    · have hclass' : (acmpListenerFinish i f s).listener.cmdResp.flags &&& acmpFlagsClassB ≠ 0 :=
        hclass
      rw [acmpListenerConnected_of_classB hclass']
      obtain ⟨r, hentity, hstate, hstreams⟩ :=
        acmpListenerAfterConnect_spec cfg (acmpListenerFinish i f s)
      exact .incompatible i f r hs hvalid hf hans hentity hstate hstreams rfl

lemma listenerCall_disconnectTx (hs : s.listenerState = .disconnectTxResponse) :
    ListenerCall cfg env s (acmpListenerDisconnectTx cfg s).1
      (acmpListenerDisconnectTx cfg s).2 := by
  rcases acmpListenerDisconnectTx_cases cfg s with
    ⟨hvalid, heq⟩ | ⟨hvalid, ⟨hno, heq⟩ | ⟨i, f, hf, hans, heq⟩⟩
  · rw [heq]
    exact .stuck (Or.inr hs) hvalid (.refl s) rfl
  · rw [heq]
    exact .ignore _ (Or.inr hs) hvalid hno rfl (Or.inl rfl) rfl rfl
  · rw [heq]
    exact .disconnect i f _ hs hvalid hf hans rfl rfl rfl rfl

lemma listenerCall_getState (hs : s.listenerState = .getState) :
    ListenerCall cfg env s { (acmpListenerGetStateResponse cfg s).1 with listenerState := .waiting }
      (acmpListenerGetStateResponse cfg s).2 := by
  unfold acmpListenerGetStateResponse
  split_ifs
  · exact .report _ _ hs rfl rfl rfl rfl rfl
  · exact .report _ _ hs rfl rfl rfl rfl rfl

lemma listenerCall_rxTimeout (hs : s.listenerState = .rxTimeout) :
    ListenerCall cfg env s { (acmpListenerRxTimeout cfg s).1 with listenerState := .waiting }
      (acmpListenerRxTimeout cfg s).2 := by
  unfold acmpListenerRxTimeout
  cases hi : s.listener.inflightTimeoutIdx with
  | none => exact .settled hs hi rfl rfl rfl rfl
  | some i =>
    dsimp only
    by_cases hretried : (s.listener.inflightCommands.getD i .zero).retried = true
    · rw [if_pos hretried]
      exact .expire i hs hi hretried rfl rfl rfl rfl
    · rw [if_neg hretried]
      obtain ⟨hentity, hstreams⟩ := listener_sendListenerCommand cfg
        (s.listener.inflightCommands.getD i .zero).command.messageType (some i)
        (show s.listenerState ≠ .waiting by rw [hs]; decide)
      exact .resend i (acmpCommandPacket
        (s.listener.inflightCommands.getD i .zero).command.messageType (some i) s.listener)
        hs hi hretried hentity rfl hstreams rfl rfl

lemma listenerCall_acmpListenerPeriodic (cfg : AcmpConfig) (env : AcmpEnv) (s : AcmpState) :
    ListenerCall cfg env s (acmpListenerPeriodic cfg env s).1
      (acmpListenerPeriodic cfg env s).2 := by
  unfold acmpListenerPeriodic
  cases hs : s.listenerState with
  | idle => exact .idle hs (.refl s) rfl
  | waiting => exact .poll hs rfl rfl rfl rfl
  | connectRxCommand => exact listenerCall_connectRx hs
  | disconnectRxCommand => exact listenerCall_disconnectRx hs
  | connectTxResponse => exact listenerCall_connectTx hs
  | disconnectTxResponse => exact listenerCall_disconnectTx hs
  | getState => exact listenerCall_getState hs
  | rxTimeout => exact listenerCall_rxTimeout hs

end

/-! ## What holds of the listener in every run -/

section

variable {P : AcmpInflight → Prop} {ent : AcmpEntity}

lemma inFlightAll_finish (h : InFlightAll P ent.inflightCommands) (i : ℕ) :
    InFlightAll P (ent.finish i).inflightCommands :=
  inFlightAll_modify h i fun _ huse => absurd huse Bool.false_ne_true

lemma inFlightAll_expire (h : InFlightAll P ent.inflightCommands) (i : ℕ) :
    InFlightAll P (ent.expire i).inflightCommands :=
  inFlightAll_modify h i fun _ huse => absurd huse Bool.false_ne_true

end

structure ListenerRunning (s : AcmpState) : Prop where
  commands : InFlightAll (fun f => IsTxCommand f.command.messageType) s.listener.inflightCommands
  timedOut : s.listenerState = .rxTimeout →
    ∀ i, s.listener.inflightTimeoutIdx = some i → InUseAt s.listener.inflightCommands i

lemma acmpListenerNext_ne_rxTimeout : acmpListenerNext messageType ≠ .rxTimeout := by
  unfold acmpListenerNext
  split <;> decide

section

variable {cfg : AcmpConfig} {env : AcmpEnv} {s s' : AcmpState} {outs : List AcmpOut}

lemma ListenerRunning.same (h : ListenerRunning s) (hsame : SameListener s s') :
    ListenerRunning s' := by
  constructor
  · rw [hsame.entity]
    exact h.commands
  · rw [hsame.entity, hsame.state]
    exact h.timedOut

lemma listenerRunning_of_ne (hstate : s'.listenerState ≠ .rxTimeout)
    (hcommands : InFlightAll (fun f => IsTxCommand f.command.messageType)
      s'.listener.inflightCommands) : ListenerRunning s' :=
  ⟨hcommands, fun h => absurd h hstate⟩

lemma ne_rxTimeout_of_waiting (h : s.listenerState = .waiting) : s.listenerState ≠ .rxTimeout := by
  rw [h]
  decide

lemma ne_rxTimeout_of_done (h : s.listenerState = .waiting ∨ s.listenerState = .getState) :
    s.listenerState ≠ .rxTimeout := by
  rcases h with h | h <;> rw [h] <;> decide

lemma inflightCommands_acmpPollTimeouts (env : AcmpEnv) (ent : AcmpEntity) :
    (acmpPollTimeouts env ent).inflightCommands = ent.inflightCommands :=
  acmpProgressInflightTimer_inflight env ent

variable {P : AcmpInflight → Prop} {ent : AcmpEntity}

lemma inFlightAll_acmpForward {messageType : ℕ} (h : InFlightAll P ent.inflightCommands)
    (hP : P ((acmpNumberCommand ent none).newEntry messageType ent.cmdResp.sequenceId)) :
    InFlightAll P (acmpForward messageType ent).inflightCommands := by
  have hnumbered : InFlightAll P (acmpNumberCommand ent none).inflightCommands := h
  exact inFlightAll_acmpAddInflight hnumbered messageType _ hP

lemma inFlightAll_acmpResend {messageType i : ℕ} (h : InFlightAll P ent.inflightCommands)
    (hid : ∀ f id, P f → P { f with command := { f.command with sequenceId := id } })
    (htimeout : ∀ f messageType ent, P f →
      P { f with timeout := acmpInflightTimeout messageType ent, retried := true }) :
    InFlightAll P (acmpResend messageType i ent).inflightCommands := by
  refine inFlightAll_modify (inFlightAll_modify h i ?_) i ?_
  · exact fun f huse => ⟨huse, hid f _⟩
  · exact fun f huse => ⟨huse, htimeout f _ _⟩

/-- **A call keeps** what holds of all commands in flight, if it holds of a command that is
forwarded and does not depend on the sequence id or the timeout of one that is sent again. -/
theorem inFlightAll_call (h : InFlightAll P s.listener.inflightCommands)
    (hnew : ∀ messageType, IsTxCommand messageType →
      s.listenerState = .connectRxCommand ∨ s.listenerState = .disconnectRxCommand →
        P ((acmpNumberCommand s.listener none).newEntry messageType
          s.listener.cmdResp.sequenceId))
    (hid : ∀ f id, P f → P { f with command := { f.command with sequenceId := id } })
    (htimeout : ∀ f messageType ent, P f →
      P { f with timeout := acmpInflightTimeout messageType ent, retried := true })
    (hcall : ListenerCall cfg env s s' outs) : InFlightAll P s'.listener.inflightCommands := by
  cases hcall with
  | idle _ hsame => rw [hsame.entity]; exact h
  | poll _ hentity => rw [hentity, inflightCommands_acmpPollTimeouts]; exact h
  | refuse _ _ _ _ hentity => rw [hentity]; exact h
  | forwardConnect _ hs _ _ hentity =>
    rw [hentity]
    exact inFlightAll_acmpForward h (hnew _ (Or.inl rfl) (Or.inl hs))
  | forwardDisconnect _ _ _ _ hs _ _ hentity =>
    rw [hentity]
    exact inFlightAll_acmpForward h (hnew _ (Or.inr rfl) (Or.inr hs))
  | stuck _ _ hsame => rw [hsame.entity]; exact h
  | ignore _ _ _ _ hentity => rw [hentity]; exact h
  | connect _ _ _ _ _ _ _ _ _ _ _ hentity => rw [hentity]; exact inFlightAll_finish h _
  | incompatible _ _ _ _ _ _ _ hentity => rw [hentity]; exact inFlightAll_finish h _
  | disconnect _ _ _ _ _ _ _ hentity => rw [hentity]; exact inFlightAll_finish h _
  | report _ _ _ hentity => rw [hentity]; exact h
  | expire _ _ _ _ hentity => rw [hentity]; exact inFlightAll_expire h _
  | resend _ _ _ _ _ hentity => rw [hentity]; exact inFlightAll_acmpResend h hid htimeout
  | settled _ _ hentity => rw [hentity]; exact h

lemma rxTimeout_call (hcall : ListenerCall cfg env s s' outs)
    (hs' : s'.listenerState = .rxTimeout) :
    SameListener s s' ∨ s'.listener = acmpPollTimeouts env s.listener ∧
      (acmpPollTimeouts env s.listener).inflightTimeoutIdx.isSome = true := by
  cases hcall with
  | idle _ hsame => exact Or.inl hsame
  | poll _ hentity hstate =>
    rw [hstate] at hs'
    split_ifs at hs' with hsome
    exact Or.inr ⟨hentity, hsome⟩
  | refuse _ _ _ _ _ hstate => exact absurd hs' (ne_rxTimeout_of_waiting hstate)
  | forwardConnect _ _ _ _ _ hstate => exact absurd hs' (ne_rxTimeout_of_waiting hstate)
  | forwardDisconnect _ _ _ _ _ _ _ _ hstate => exact absurd hs' (ne_rxTimeout_of_waiting hstate)
  | stuck _ _ hsame => exact Or.inl hsame
  | ignore _ _ _ _ _ hstate => exact absurd hs' (ne_rxTimeout_of_done hstate)
  | connect _ _ _ _ _ _ _ _ _ _ _ _ hstate => exact absurd hs' (ne_rxTimeout_of_done hstate)
  | incompatible _ _ _ _ _ _ _ _ hstate => exact absurd hs' (ne_rxTimeout_of_done hstate)
  | disconnect _ _ _ _ _ _ _ _ hstate => exact absurd hs' (ne_rxTimeout_of_waiting hstate)
  | report _ _ _ _ hstate => exact absurd hs' (ne_rxTimeout_of_waiting hstate)
  | expire _ _ _ _ _ hstate => exact absurd hs' (ne_rxTimeout_of_waiting hstate)
  | resend _ _ _ _ _ _ hstate => exact absurd hs' (ne_rxTimeout_of_waiting hstate)
  | settled _ _ _ hstate => exact absurd hs' (ne_rxTimeout_of_waiting hstate)

lemma listenerRunning_call (h : ListenerRunning s) (hcall : ListenerCall cfg env s s' outs) :
    ListenerRunning s' := by
  constructor
  · exact inFlightAll_call h.commands (fun _ htype _ => htype) (fun _ _ hf => hf)
      (fun _ _ _ hf => hf) hcall
  · intro hs' i hi
    rcases rxTimeout_call hcall hs' with hsame | ⟨hentity, -⟩
    · exact (h.same hsame).timedOut hs' i hi
    · rw [hentity] at hi ⊢
      exact inUseAt_of_check hi

lemma listenerRunning_takes (h : ListenerRunning s) {p : AcmpCmdResp} (ht : Takes p s s') :
    ListenerRunning s' := by
  refine listenerRunning_of_ne ?_ ?_
  · rw [ht.state]
    exact acmpListenerNext_ne_rxTimeout _
  · rw [ht.entity]
    exact h.commands

lemma listenerRunning_acmpStep (hrun : AcmpRunning s) (h : ListenerRunning s) (e : AcmpEvent) :
    ListenerRunning (acmpStep cfg s e) := by
  rcases listener_event_cases hrun e with ⟨hsame | ⟨p, -, htakes⟩, -⟩ | ⟨env, rfl⟩
  · exact h.same hsame
  · exact listenerRunning_takes h htakes
  · exact listenerRunning_call h (listenerCall_acmpListenerPeriodic cfg env s)

end

lemma listenerRunning_acmpInit (now : ℕ) (s : AcmpState) :
    ListenerRunning (acmpInit cfg now s) := by
  refine listenerRunning_of_ne (ne_rxTimeout_of_waiting rfl) ?_
  intro f hf huse
  rw [List.eq_of_mem_replicate hf] at huse
  cases huse
