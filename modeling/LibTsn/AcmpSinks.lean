/-
# The listener's table and the sinks

With the default hooks, the table of the listener says of a sink that it is connected
while the sink is turned on, and to which talker; and a sink that is connected stays
connected to that talker until it is asked to disconnect.
-/
import LibTsn.AcmpListener

open List (forall_mem_nil length_set)

open Function (update update_of_ne update_self)

/-! ## What an event does to the sinks -/

abbrev TalkerStreamId := UInt64 × UInt16

def AcmpCmdResp.talker (r : AcmpCmdResp) : TalkerStreamId := (r.talkerGuid, r.talkerUniqueId)

def AcmpListenerStream.talker (x : AcmpListenerStream) : TalkerStreamId :=
  (x.talkerGuid, x.talkerUniqueId)

def AcmpOut.established : AcmpOut → Option (ℕ × TalkerStreamId)
  | .packet p =>
    if p.messageType = AcmpCmd.connectRxResponse ∧ p.status = AcmpStatus.success then
      some (p.listenerUniqueId.toNat, p.talker)
    else none
  | _ => none

def AcmpOut.Quiet (o : AcmpOut) : Prop :=
  o.established = none ∧ match o with
    | .listenerOnTalkerConnect .. => False
    | .listenerOnTalkerDisconnect .. => False
    | _ => True

lemma quiet_packet {p : AcmpCmdResp}
    (h : p.messageType ≠ AcmpCmd.connectRxResponse ∨ p.status ≠ AcmpStatus.success) :
    (AcmpOut.packet p).Quiet := by
  refine ⟨if_neg ?_, trivial⟩
  rintro ⟨htype, hstatus⟩
  rcases h with h | h
  · exact h htype
  · exact h hstatus

lemma quiet_of_not_ofListener {o : AcmpOut} (h : ¬ o.OfListener) : o.Quiet := by
  cases o with
  | packet p => exact quiet_packet (Or.inl fun htype => h (Or.inl htype))
  | listenerOnTalkerConnect => exact absurd trivial h
  | listenerOnTalkerDisconnect => exact absurd trivial h
  | _ => exact ⟨rfl, trivial⟩

def establishedBy (outs : List AcmpOut) : List (ℕ × TalkerStreamId) :=
  outs.filterMap AcmpOut.established

lemma establishedBy_of_quiet {outs : List AcmpOut} (h : ∀ o ∈ outs, o.Quiet) :
    establishedBy outs = [] :=
  List.filterMap_eq_nil_iff.mpr fun o ho => (h o ho).1

namespace AcmpDevice

variable {srpVlan : UInt16} {cfg : AcmpConfig} {d : AcmpDevice}

lemma sinks_hook_of_quiet {o : AcmpOut} (h : o.Quiet) : (d.hook srpVlan o).sinks = d.sinks := by
  cases o with
  | listenerOnTalkerConnect => exact h.2.elim
  | listenerOnTalkerDisconnect => exact h.2.elim
  | _ => rfl

lemma sinks_foldl_hook_of_quiet {outs : List AcmpOut} (h : ∀ o ∈ outs, o.Quiet) (d : AcmpDevice) :
    (outs.foldl (hook srpVlan) d).sinks = d.sinks := by
  induction outs generalizing d with
  | nil => rfl
  | cons o outs ih =>
    obtain ⟨ho, houts⟩ := List.forall_mem_cons.mp h
    rw [List.foldl_cons, ih houts, sinks_hook_of_quiet ho]

def held (d : AcmpDevice) : AcmpCmdResp := d.acmp.listener.cmdResp

def heldSinkState (d : AcmpDevice) : AvbStreamState := (d.sinks d.acmp.sink).stream.state

def Ends (cfg : AcmpConfig) (state : AcmpListenerState) (d : AcmpDevice) (e : Event) : Prop :=
  AcmpMachine.listener.own e.1 = true ∧ d.acmp.listenerState = state ∧
    acmpListenerValidListenerUnique cfg d.acmp = true ∧
    ∃ f ∈ d.acmp.listener.inflightCommands, d.acmp.listener.Answers f
  deriving Decidable

/-- **What an event does to the table and the sinks.** -/
inductive SinkEffect (cfg : AcmpConfig) (d : AcmpDevice) (e : Event) (d' : AcmpDevice)
    (outs : List AcmpOut) : Prop
  | quiet (hstreams : d'.acmp.listenerStreams = d.acmp.listenerStreams)
      (hsinks : d'.sinks = d.sinks) (hout : establishedBy outs = [])
  | connect (x : AvbEndpointInfo) (hends : Ends cfg .connectTxResponse d e)
      (hclass : d.held.flags &&& acmpFlagsClassB = 0)
      (hstreams : d'.acmp.listenerStreams =
        d.acmp.listenerStreams.set d.acmp.sink (.of d.held))
      (hsinks : d'.sinks = update d.sinks d.acmp.sink x)
      (hx : x.stream.state ≠ .disabled)
      (hout : establishedBy outs = [(d.acmp.sink, d.held.talker)])
  | disconnect (x : AvbEndpointInfo) (hcall : AcmpMachine.listener.own e.1 = true)
      (hs : d.acmp.listenerState = .disconnectRxCommand)
      (hvalid : acmpListenerValidListenerUnique cfg d.acmp = true)
      (htalker : (acmpListenerStream d.acmp).talker = d.held.talker)
      (hstreams : d'.acmp.listenerStreams = d.acmp.listenerStreams.set d.acmp.sink .zero)
      (hsinks : d'.sinks = update d.sinks d.acmp.sink x)
      (hx : x.stream.state = .disabled) (hout : establishedBy outs = [])
  | clear (hends : Ends cfg .disconnectTxResponse d e)
      (hstreams : d'.acmp.listenerStreams = d.acmp.listenerStreams.set d.acmp.sink .zero)
      (hsinks : d'.sinks = d.sinks) (hout : establishedBy outs = [])

lemma sinkEffect_of_quiet {e : Event} (hout : ∀ o ∈ d.outputs cfg e, o.Quiet)
    (hstreams : (acmpStep cfg d.acmp (d.answered e.1)).listenerStreams = d.acmp.listenerStreams) :
    SinkEffect cfg d e (d.step cfg e) (d.outputs cfg e) := by
  refine .quiet ?_ ?_ (establishedBy_of_quiet hout)
  · rw [acmp_step]
    exact hstreams
  · exact sinks_foldl_hook_of_quiet hout _

lemma talker_of_isConnected {env : AcmpEnv} {s : AcmpState}
    (h : acmpListenerIsConnected true env s = true) :
    (acmpListenerStream s).talker = s.listener.cmdResp.talker := by
  unfold acmpListenerIsConnected at h
  rw [Bool.and_eq_true, beq_iff_eq, decide_eq_true_eq] at h
  obtain ⟨-, hguid, hid⟩ := h
  exact Prod.ext hguid hid

lemma sinkEffect_listenerPeriodic (h : ListenerRunning d.acmp) (env : AcmpEnv) (srpVlan : UInt16) :
    SinkEffect cfg d (.listenerPeriodic env, srpVlan) (d.step cfg (.listenerPeriodic env, srpVlan))
      (d.outputs cfg (.listenerPeriodic env, srpVlan)) := by
  have hcall := listenerCall_acmpListenerPeriodic cfg (d.answer env) d.acmp
  have houtputs : d.outputs cfg (.listenerPeriodic env, srpVlan) =
      (acmpListenerPeriodic cfg (d.answer env) d.acmp).2 := rfl
  have hstep : d.step cfg (.listenerPeriodic env, srpVlan) =
      (acmpListenerPeriodic cfg (d.answer env) d.acmp).2.foldl (hook srpVlan)
        { d with acmp := (acmpListenerPeriodic cfg (d.answer env) d.acmp).1 } := rfl
  have hquiet : ∀ outs, (acmpListenerPeriodic cfg (d.answer env) d.acmp).2 = outs →
      (∀ o ∈ outs, o.Quiet) →
      (acmpListenerPeriodic cfg (d.answer env) d.acmp).1.listenerStreams =
        d.acmp.listenerStreams →
      SinkEffect cfg d (.listenerPeriodic env, srpVlan)
        (d.step cfg (.listenerPeriodic env, srpVlan))
        (d.outputs cfg (.listenerPeriodic env, srpVlan)) := by
    intro outs hout hall hstreams
    refine sinkEffect_of_quiet ?_ hstreams
    rw [houtputs, hout]
    exact hall
  cases hcall with
  | idle _ hsame hout => exact hquiet _ hout (forall_mem_nil _) hsame.streams
  | poll _ _ _ hstreams hout => exact hquiet _ hout (forall_mem_nil _) hstreams
  | refuse status _ hstatus _ _ _ hstreams hout =>
    exact hquiet _ hout (List.forall_mem_singleton.mpr (quiet_packet (Or.inr hstatus))) hstreams
  | forwardConnect p _ _ _ _ _ hstreams hp hout =>
    refine hquiet _ hout (List.forall_mem_singleton.mpr (quiet_packet (Or.inl ?_))) hstreams
    rw [hp]
    decide
  | forwardDisconnect p _ _ _ hs hvalid hconnected _ _ hstreams hp hout =>
    have hpacket : (AcmpOut.packet p).established = none :=
      (quiet_packet (Or.inl (by rw [hp]; decide))).1
    refine .disconnect (avbListenerOnTalkerDisconnectDefault srpVlan (d.sinks d.acmp.sink))
      rfl hs hvalid (talker_of_isConnected hconnected) ?_ ?_
      (AvbEndpointInfo.state_setState _ _ _) ?_
    · rw [acmp_step]
      exact hstreams
    · rw [hstep, hout]
      rfl
    · rw [houtputs, hout]
      exact List.filterMap_cons_none hpacket
  | stuck _ _ hsame hout => exact hquiet _ hout (forall_mem_nil _) hsame.streams
  | ignore _ _ _ _ _ _ hstreams hout => exact hquiet _ hout (forall_mem_nil _) hstreams
  | connect i f _ destMac streamId vlanId hs hvalid hf hans hclass _ _ hstreams hout =>
    refine .connect (avbListenerOnTalkerConnectDefault destMac streamId vlanId srpVlan
        (d.sinks d.acmp.sink)) ⟨rfl, hs, hvalid, f, List.mem_of_getElem? hf, hans⟩
          hclass ?_ ?_ ?_ ?_
    · rw [acmp_step]
      exact hstreams
    · rw [hstep, hout]
      rfl
    · rw [state_avbListenerOnTalkerConnectDefault]
      decide
    · rw [houtputs, hout]
      rfl
  | incompatible _ _ _ _ _ _ _ _ _ hstreams hout =>
    refine hquiet _ hout (List.forall_mem_singleton.mpr (quiet_packet (Or.inr ?_))) hstreams
    show AcmpStatus.incompatibleRequest ≠ AcmpStatus.success
    decide
  | disconnect i f _ hs hvalid hf hans _ _ hstreams hout =>
    have hout' : ∀ o ∈ d.outputs cfg (.listenerPeriodic env, srpVlan), o.Quiet := by
      rw [houtputs, hout]
      have htype : AcmpCmd.disconnectRxResponse ≠ AcmpCmd.connectRxResponse := by decide
      exact List.forall_mem_singleton.mpr (quiet_packet (Or.inl htype))
    refine .clear ⟨rfl, hs, hvalid, f, List.mem_of_getElem? hf, hans⟩ ?_ ?_
      (establishedBy_of_quiet hout')
    · rw [acmp_step]
      exact hstreams
    · exact sinks_foldl_hook_of_quiet hout' _
  | report p _ _ _ _ hstreams hp hout =>
    refine hquiet _ hout (List.forall_mem_singleton.mpr (quiet_packet (Or.inl ?_))) hstreams
    rw [hp]
    decide
  | expire i _ _ _ _ _ hstreams hout =>
    refine hquiet _ hout ?_ hstreams
    have hstatus : AcmpStatus.listenerTalkerTimeout ≠ AcmpStatus.success := by decide
    unfold acmpListenerTimeoutResponse
    split_ifs
    · exact forall_mem_nil _
    · exact List.forall_mem_singleton.mpr (quiet_packet (Or.inr hstatus))
  | resend i p hs hi _ _ _ hstreams hp hout =>
    refine hquiet _ hout (List.forall_mem_singleton.mpr (quiet_packet (Or.inl ?_))) hstreams
    have hcommand := h.commands.getD (h.timedOut hs i hi)
    rw [hp]
    exact fun heq => not_isRxResponse_of_isTxCommand hcommand (Or.inl heq)
  | settled _ _ _ _ hstreams hout => exact hquiet _ hout (forall_mem_nil _) hstreams

lemma sinkEffect_step (hrun : AcmpRunning d.acmp) (h : ListenerRunning d.acmp) (e : Event) :
    SinkEffect cfg d e (d.step cfg e) (d.outputs cfg e) := by
  rcases listener_event_cases hrun (d.answered e.1) with ⟨hlistener, hout⟩ | ⟨env, henv⟩
  · refine sinkEffect_of_quiet (fun o ho => quiet_of_not_ofListener (hout o ho)) ?_
    rcases hlistener with hsame | ⟨p, -, htakes⟩
    · exact hsame.streams
    · exact htakes.streams
  · obtain ⟨event, srpVlan⟩ := e
    cases event with
    | listenerPeriodic env => exact sinkEffect_listenerPeriodic h env srpVlan
    | _ => cases henv

end AcmpDevice

/-! ## The table matches the sinks -/

structure SinkWatch where
  dev : AcmpDevice
  last : ℕ → Option TalkerStreamId

def noteEstablished (last : ℕ → Option TalkerStreamId) (c : ℕ × TalkerStreamId) :
    ℕ → Option TalkerStreamId :=
  update last c.1 (some c.2)

variable (cfg : AcmpConfig) (w : OwnerWatch)

def sinkWatchStep (w : SinkWatch) (e : AcmpDevice.Event) : SinkWatch :=
  ⟨w.dev.step cfg e, (establishedBy (w.dev.outputs cfg e)).foldl noteEstablished w.last⟩

variable (now : ℕ) (d : AcmpDevice) (e : AcmpDevice.Event)

def sinkWatchInit : SinkWatch :=
  ⟨AcmpDevice.init cfg now d, fun _ => none⟩

def SinkWatch.entry (w : SinkWatch) (i : ℕ) : AcmpListenerStream :=
  w.dev.acmp.listenerStreams.getD i .zero

/-- **The entry matches the sink.**  It says connected while the sink is turned on, and then
names the connection that was established last. -/
def SinkWatch.Matches (w : SinkWatch) (i : ℕ) : Prop :=
  ((w.entry i).connected = true ↔ (w.dev.sinks i).stream.state ≠ .disabled) ∧
    ((w.entry i).connected = true → w.last i = some (w.entry i).talker)

def DisconnectsInOrder (w : SinkWatch) (e : AcmpDevice.Event) : Prop :=
  AcmpDevice.Ends cfg .disconnectTxResponse w.dev e → w.dev.heldSinkState = .disabled
  deriving Decidable

structure DeviceRunning (cfg : AcmpConfig) (d : AcmpDevice) : Prop where
  running : AcmpRunning d.acmp
  listener : ListenerRunning d.acmp
  entries : d.acmp.listenerStreams.length = cfg.maxListeners

section

variable {cfg : AcmpConfig} {d : AcmpDevice}

lemma deviceRunning_init (cfg : AcmpConfig) (now : ℕ) (d : AcmpDevice) :
    DeviceRunning cfg (AcmpDevice.init cfg now d) :=
  ⟨(acmpInv_acmpInit cfg now d.acmp).running, listenerRunning_acmpInit cfg now d.acmp,
    List.length_replicate⟩

lemma deviceRunning_step (h : DeviceRunning cfg d) (e : AcmpDevice.Event) :
    DeviceRunning cfg (d.step cfg e) := by
  constructor
  · rw [AcmpDevice.acmp_step]
    exact acmpRunning_acmpStep h.running _
  · rw [AcmpDevice.acmp_step]
    exact listenerRunning_acmpStep h.running h.listener _
  · cases AcmpDevice.sinkEffect_step h.running h.listener e with
    | quiet hstreams =>
      rw [hstreams]
      exact h.entries
    | connect _ _ _ hstreams =>
      rw [hstreams, length_set]
      exact h.entries
    | disconnect _ _ _ _ _ hstreams =>
      rw [hstreams, length_set]
      exact h.entries
    | clear _ hstreams =>
      rw [hstreams, length_set]
      exact h.entries

lemma sink_lt (h : DeviceRunning cfg d)
    (hvalid : acmpListenerValidListenerUnique cfg d.acmp = true) :
    d.acmp.sink < d.acmp.listenerStreams.length := by
  rw [h.entries]
  exact of_decide_eq_true hvalid

/-- **Step.**  An event in order keeps every entry in line with its sink. -/
theorem matches_sinkWatchStep {w : SinkWatch} (hrun : DeviceRunning cfg w.dev)
    (h : ∀ i, w.Matches i) {e : AcmpDevice.Event} (he : DisconnectsInOrder cfg w e) (i : ℕ) :
    (sinkWatchStep cfg w e).Matches i := by
  unfold SinkWatch.Matches SinkWatch.entry sinkWatchStep
  cases AcmpDevice.sinkEffect_step hrun.running hrun.listener e with
  | quiet hstreams hsinks hout =>
    rw [hstreams, hsinks, hout]
    exact h i
  | connect x hends _ hstreams hsinks hx hout =>
    rw [hstreams, hsinks, hout]
    by_cases hi : w.dev.acmp.sink = i
    · subst hi
      rw [Slots.getD_set_self (sink_lt hrun hends.2.2.1), update_self]
      exact ⟨iff_of_true rfl hx, fun _ => update_self _ _ _⟩
    · rw [Slots.getD_set_ne hi, update_of_ne (Ne.symm hi)]
      refine ⟨(h i).1, fun hc => ?_⟩
      exact (update_of_ne (Ne.symm hi) _ _).trans ((h i).2 hc)
  | disconnect x _ _ hvalid _ hstreams hsinks hx hout =>
    rw [hstreams, hsinks, hout]
    by_cases hi : w.dev.acmp.sink = i
    · subst hi
      rw [Slots.getD_set_self (sink_lt hrun hvalid), update_self]
      exact ⟨iff_of_false Bool.false_ne_true (not_not.mpr hx),
        fun hc => absurd hc Bool.false_ne_true⟩
    · rw [Slots.getD_set_ne hi, update_of_ne (Ne.symm hi)]
      exact h i
  | clear hends hstreams hsinks hout =>
    rw [hstreams, hsinks, hout]
    by_cases hi : w.dev.acmp.sink = i
    · subst hi
      rw [Slots.getD_set_self (sink_lt hrun hends.2.2.1)]
      exact ⟨iff_of_false Bool.false_ne_true (not_not.mpr (he hends)),
        fun hc => absurd hc Bool.false_ne_true⟩
    · rw [Slots.getD_set_ne hi]
      exact h i

lemma matches_sinkWatchInit {d : AcmpDevice} (cfg : AcmpConfig) (now : ℕ)
    (hoff : ∀ i, (d.sinks i).stream.state = .disabled) (i : ℕ) :
    (sinkWatchInit cfg now d).Matches i := by
  have hentry : (sinkWatchInit cfg now d).entry i = .zero := by
    show (List.replicate cfg.maxListeners AcmpListenerStream.zero).getD i .zero = .zero
    rw [List.getD_eq_getElem?_getD, List.getElem?_replicate]
    split_ifs <;> rfl
  unfold SinkWatch.Matches
  rw [hentry]
  exact ⟨iff_of_false Bool.false_ne_true (not_not.mpr (hoff i)),
    fun hc => absurd hc Bool.false_ne_true⟩

/-- **The listener's table matches the sinks**, after any packets, calls and requests in which
a response to a disconnect that ends a command finds its sink turned off. -/
theorem listener_table_matches_sinks (cfg : AcmpConfig) (now : ℕ) (d : AcmpDevice)
    (hoff : ∀ i, (d.sinks i).stream.state = .disabled) (es : List AcmpDevice.Event)
    (hg : Run.Guarded (sinkWatchStep cfg) (DisconnectsInOrder cfg) (sinkWatchInit cfg now d) es)
    (i : ℕ) : (Run.runFrom (sinkWatchStep cfg) (sinkWatchInit cfg now d) es).Matches i := by
  have hstep : ∀ w e, (DeviceRunning cfg w.dev ∧ ∀ i, w.Matches i) → DisconnectsInOrder cfg w e →
      DeviceRunning cfg (sinkWatchStep cfg w e).dev ∧ ∀ i, (sinkWatchStep cfg w e).Matches i :=
    fun w e h he => ⟨deviceRunning_step h.1 e, matches_sinkWatchStep h.1 h.2 he⟩
  exact (Run.invariant_of_guarded hstep
    ⟨deviceRunning_init cfg now d, matches_sinkWatchInit cfg now hoff⟩ es hg).2 i

end

def inOrderEvents : List AcmpDevice.Event :=
  [messageArrives (sinkMessage AcmpCmd.connectRxCommand 2 7), listenerCall,
    messageArrives (sinkMessage AcmpCmd.connectTxResponse 2 0), listenerCall,
    messageArrives (sinkMessage AcmpCmd.disconnectRxCommand 2 8), listenerCall,
    messageArrives (sinkMessage AcmpCmd.disconnectTxResponse 2 1), listenerCall]

theorem listener_table_matches_after_disconnect :
    (Run.runFrom (sinkWatchStep oneSink) (sinkWatchInit oneSink 0 ⟨acmpCold, fun _ => idleRecord,
      fun _ => idleRecord⟩) inOrderEvents).Matches 0 :=
  listener_table_matches_sinks oneSink 0 ⟨acmpCold, fun _ => idleRecord, fun _ => idleRecord⟩
    (fun _ => rfl) inOrderEvents (by decide +kernel) 0

def crossingEvents : List AcmpDevice.Event :=
  [messageArrives (sinkMessage AcmpCmd.connectRxCommand 2 7), listenerCall,
    messageArrives (sinkMessage AcmpCmd.connectTxResponse 2 0), listenerCall,
    messageArrives (sinkMessage AcmpCmd.disconnectRxCommand 2 8), listenerCall,
    messageArrives (sinkMessage AcmpCmd.connectRxCommand 2 9), listenerCall,
    messageArrives (sinkMessage AcmpCmd.connectTxResponse 2 2), listenerCall,
    messageArrives (sinkMessage AcmpCmd.disconnectTxResponse 2 1), listenerCall]

/-- The sink is turned on, and its entry is empty. -/
theorem late_disconnect_answer_clears_entry :
    ((Run.runFrom (AcmpDevice.step oneSink) oneSinkDevice crossingEvents).sinks 0).stream.state
        = .potential ∧
      (Run.runFrom (AcmpDevice.step oneSink) oneSinkDevice crossingEvents).acmp.listenerStreams
        = [.zero] ∧
      ¬ (Run.runFrom (sinkWatchStep oneSink) (sinkWatchInit oneSink 0 ⟨acmpCold,
        fun _ => idleRecord, fun _ => idleRecord⟩) crossingEvents).Matches 0 := by
  refine ⟨by decide +kernel, by decide +kernel, fun h => ?_⟩
  exact absurd h.1 (by decide +kernel)

/-! ## A connected sink is exclusive -/

structure OwnerWatch where
  dev : AcmpDevice
  owner : ℕ → Option TalkerStreamId

/-- The event is a call of the listener that deals with a `DISCONNECT_RX_COMMAND`. -/
def HandlesDisconnect : Prop :=
  AcmpMachine.listener.own e.1 = true ∧ d.acmp.listenerState = .disconnectRxCommand
  deriving Decidable

def OwnerWatch.released : ℕ → Option TalkerStreamId :=
  if HandlesDisconnect w.dev e ∧ w.owner w.dev.acmp.sink = some w.dev.held.talker then
    update w.owner w.dev.acmp.sink none
  else w.owner

def ownerStep : OwnerWatch :=
  ⟨w.dev.step cfg e, (establishedBy (w.dev.outputs cfg e)).foldl noteEstablished (w.released e)⟩

def ownerInit : OwnerWatch :=
  ⟨AcmpDevice.init cfg now d, fun _ => none⟩

def AnswersInOrder : Prop :=
  (AcmpDevice.Ends cfg .disconnectTxResponse w.dev e → w.dev.heldSinkState = .disabled) ∧
    (AcmpDevice.Ends cfg .connectTxResponse w.dev e → w.dev.held.flags &&& acmpFlagsClassB = 0 →
      w.dev.heldSinkState = .disabled ∨
        (acmpListenerStream w.dev.acmp).talker = w.dev.held.talker)
  deriving Decidable

def OwnerWatch.Owned : Prop :=
  ∀ i T, w.owner i = some T → i < w.dev.acmp.listenerStreams.length ∧
    (w.dev.sinks i).stream.state ≠ .disabled ∧
      (w.dev.acmp.listenerStreams.getD i .zero).talker = T

section

variable {cfg : AcmpConfig} {w : OwnerWatch} {e : AcmpDevice.Event}

lemma owner_of_released {i : ℕ} {T : TalkerStreamId} (h : w.released e i = some T) :
    w.owner i = some T ∧
      (HandlesDisconnect w.dev e → w.dev.acmp.sink = i → w.dev.held.talker ≠ T) := by
  unfold OwnerWatch.released at h
  split_ifs at h with hrelease
  · by_cases hi : w.dev.acmp.sink = i
    · subst hi
      rw [update_self] at h
      cases h
    · rw [update_of_ne (Ne.symm hi)] at h
      exact ⟨h, fun _ hsink => absurd hsink hi⟩
  · refine ⟨h, fun hhandles hsink htalker => hrelease ⟨hhandles, ?_⟩⟩
    rw [hsink, h, htalker]

lemma talker_of_ends (h : w.Owned) (he : AnswersInOrder cfg w e)
    (hends : AcmpDevice.Ends cfg .connectTxResponse w.dev e)
    (hclass : w.dev.held.flags &&& acmpFlagsClassB = 0) {T : TalkerStreamId}
    (howner : w.owner w.dev.acmp.sink = some T) : w.dev.held.talker = T := by
  obtain ⟨-, hon, htalker⟩ := h _ T howner
  rcases he.2 hends hclass with hoff | hsame
  · exact absurd hoff hon
  · exact hsame.symm.trans htalker

lemma owned_ownerStep (hrun : DeviceRunning cfg w.dev) (h : w.Owned)
    (he : AnswersInOrder cfg w e) : (ownerStep cfg w e).Owned := by
  intro i T
  unfold ownerStep
  cases AcmpDevice.sinkEffect_step hrun.running hrun.listener e with
  | quiet hstreams hsinks hout =>
    rw [hstreams, hsinks, hout]
    intro howner
    exact h i T (owner_of_released howner).1
  | connect x hends _ hstreams hsinks hx hout =>
    rw [hstreams, hsinks, hout, length_set]
    intro howner
    by_cases hi : w.dev.acmp.sink = i
    · subst hi
      have hnew : update (w.released e) w.dev.acmp.sink (some w.dev.held.talker)
          w.dev.acmp.sink = some T := howner
      rw [update_self] at hnew
      rw [Slots.getD_set_self (sink_lt hrun hends.2.2.1), update_self]
      exact ⟨sink_lt hrun hends.2.2.1, hx, Option.some.inj hnew⟩
    · have hold : w.released e i = some T :=
        (update_of_ne (Ne.symm hi) _ _).symm.trans howner
      rw [Slots.getD_set_ne hi, update_of_ne (Ne.symm hi)]
      exact h i T (owner_of_released hold).1
  | disconnect x hcall hs hvalid htalker hstreams hsinks _ hout =>
    rw [hstreams, hsinks, hout, length_set]
    intro howner
    obtain ⟨hold, hother⟩ := owner_of_released howner
    by_cases hi : w.dev.acmp.sink = i
    · -- the request is about the talker's stream of the entry, which is the owner
      subst hi
      exact absurd (htalker.symm.trans (h _ T hold).2.2) (hother ⟨hcall, hs⟩ rfl)
    · rw [Slots.getD_set_ne hi, update_of_ne (Ne.symm hi)]
      exact h i T hold
  | clear hends hstreams hsinks hout =>
    rw [hstreams, hsinks, hout, length_set]
    intro howner
    have hold := (owner_of_released howner).1
    by_cases hi : w.dev.acmp.sink = i
    · subst hi
      exact absurd (he.1 hends) (h _ T hold).2.1
    · rw [Slots.getD_set_ne hi]
      exact h i T hold

/-- **Exclusive.**  The event establishes no connection of a connected sink to another talker's
stream, and a connect to another one that it deals with is answered with
`LISTENER_EXCLUSIVE`. -/
def KeepsOwners (cfg : AcmpConfig) (w : OwnerWatch) (e : AcmpDevice.Event) : Prop :=
  ∀ i T, w.owner i = some T →
    (∀ c ∈ establishedBy (w.dev.outputs cfg e), c.1 = i → c.2 = T) ∧
    (AcmpMachine.listener.own e.1 = true → w.dev.acmp.listenerState = .connectRxCommand →
      w.dev.acmp.sink = i → w.dev.held.talker ≠ T →
      w.dev.outputs cfg e =
        [acmpSendResponse AcmpCmd.connectRxResponse w.dev.held AcmpStatus.listenerExclusive])

lemma isConnected_of_owned (h : w.Owned) {T : TalkerStreamId}
    (howner : w.owner w.dev.acmp.sink = some T) (hother : w.dev.held.talker ≠ T) (env : AcmpEnv) :
    acmpListenerIsConnected false (w.dev.answer env) w.dev.acmp = true := by
  obtain ⟨-, hon, htalker⟩ := h _ T howner
  have hreserved : (w.dev.answer env).sinkReserved = true := decide_eq_true hon
  have hdiffers : ¬ ((acmpListenerStream w.dev.acmp).talkerGuid =
        w.dev.acmp.listener.cmdResp.talkerGuid ∧
      (acmpListenerStream w.dev.acmp).talkerUniqueId =
        w.dev.acmp.listener.cmdResp.talkerUniqueId) := by
    rintro ⟨hguid, hid⟩
    refine hother (Eq.trans ?_ htalker)
    exact (Prod.ext hguid hid).symm
  unfold acmpListenerIsConnected
  rw [hreserved, decide_eq_false hdiffers]
  rfl

lemma keepsOwners_of_owned (hrun : DeviceRunning cfg w.dev) (h : w.Owned)
    (he : AnswersInOrder cfg w e) : KeepsOwners cfg w e := by
  intro i T howner
  constructor
  · intro c hc hi
    cases AcmpDevice.sinkEffect_step hrun.running hrun.listener e with
    | quiet _ _ hout =>
      rw [hout] at hc
      cases hc
    | connect _ hends hclass _ _ _ hout =>
      rw [hout, List.mem_singleton] at hc
      subst hc
      subst hi
      exact talker_of_ends h he hends hclass howner
    | disconnect _ _ _ _ _ _ _ _ hout =>
      rw [hout] at hc
      cases hc
    | clear _ _ _ hout =>
      rw [hout] at hc
      cases hc
  · intro hcall hstate hi hother
    subst hi
    obtain ⟨event, srpVlan⟩ := e
    cases event with
    | listenerPeriodic env =>
      have hvalid : acmpListenerValidListenerUnique cfg w.dev.acmp = true := by
        have hlt := (h _ T howner).1
        rw [hrun.entries] at hlt
        exact decide_eq_true hlt
      have htaken := isConnected_of_owned h howner hother env
      show (acmpListenerPeriodic cfg (w.dev.answer env) w.dev.acmp).2 = _
      have hperiodic : acmpListenerPeriodic cfg (w.dev.answer env) w.dev.acmp =
          ({ (acmpListenerConnectRx cfg (w.dev.answer env) w.dev.acmp).1 with
            listenerState := .waiting },
          (acmpListenerConnectRx cfg (w.dev.answer env) w.dev.acmp).2) := by
        unfold acmpListenerPeriodic
        rw [hstate]
      rw [hperiodic]
      unfold acmpListenerConnectRx
      rw [if_pos hvalid, if_pos htaken]
      rfl
    | _ => exact absurd hcall Bool.false_ne_true

/-- **A connected sink is exclusive**, in every run in which each response that ends a command
finds its sink turned off or, as a response to a connect, connected to the talker's stream it
is from. -/
theorem connected_sink_is_exclusive (cfg : AcmpConfig) (now : ℕ) (d : AcmpDevice)
    (es : List AcmpDevice.Event) (e : AcmpDevice.Event)
    (hg : Run.Guarded (ownerStep cfg) (AnswersInOrder cfg) (ownerInit cfg now d) (es ++ [e])) :
    KeepsOwners cfg (Run.runFrom (ownerStep cfg) (ownerInit cfg now d) es) e := by
  obtain ⟨hes, he, -⟩ := (Run.guarded_append _ _ _ es [e]).mp hg
  have hstep : ∀ w e, (DeviceRunning cfg w.dev ∧ w.Owned) → AnswersInOrder cfg w e →
      DeviceRunning cfg (ownerStep cfg w e).dev ∧ (ownerStep cfg w e).Owned :=
    fun w e h he => ⟨deviceRunning_step h.1 e, owned_ownerStep h.1 h.2 he⟩
  have howned : (ownerInit cfg now d).Owned := by
    intro i T howner
    cases howner
  obtain ⟨hrun, hinv⟩ := Run.invariant_of_guarded hstep ⟨deviceRunning_init cfg now d, howned⟩
    es hes
  exact keepsOwners_of_owned hrun hinv he

end

def competingEvents : List AcmpDevice.Event :=
  [messageArrives (sinkMessage AcmpCmd.connectRxCommand 2 7), listenerCall,
    messageArrives (sinkMessage AcmpCmd.connectTxResponse 2 0), listenerCall,
    messageArrives (sinkMessage AcmpCmd.connectRxCommand 3 8)]

theorem competing_connect_is_refused :
    KeepsOwners oneSink (Run.runFrom (ownerStep oneSink) (ownerInit oneSink 0 ⟨acmpCold,
      fun _ => idleRecord, fun _ => idleRecord⟩) competingEvents) listenerCall :=
  connected_sink_is_exclusive oneSink 0 ⟨acmpCold, fun _ => idleRecord, fun _ => idleRecord⟩
    competingEvents listenerCall (by decide +kernel)

def racingEvents : List AcmpDevice.Event :=
  [messageArrives (sinkMessage AcmpCmd.connectRxCommand 2 7), listenerCall,
    messageArrives (sinkMessage AcmpCmd.connectRxCommand 3 8), listenerCall,
    messageArrives (sinkMessage AcmpCmd.connectTxResponse 2 0), listenerCall,
    messageArrives (sinkMessage AcmpCmd.connectTxResponse 3 1)]

/-- Talker 3 takes over the sink that is connected to talker 2. -/
theorem pending_connect_takes_over :
    (Run.runFrom (ownerStep oneSink) (ownerInit oneSink 0 ⟨acmpCold, fun _ => idleRecord,
        fun _ => idleRecord⟩) racingEvents).owner 0 = some (2, 0) ∧
      establishedBy ((Run.runFrom (AcmpDevice.step oneSink) oneSinkDevice racingEvents).outputs
        oneSink listenerCall) = [(0, (3, 0))] ∧
      ¬ KeepsOwners oneSink (Run.runFrom (ownerStep oneSink) (ownerInit oneSink 0 ⟨acmpCold,
        fun _ => idleRecord, fun _ => idleRecord⟩) racingEvents) listenerCall := by
  have howner : (Run.runFrom (ownerStep oneSink) (ownerInit oneSink 0 ⟨acmpCold,
      fun _ => idleRecord, fun _ => idleRecord⟩) racingEvents).owner 0 = some (2, 0) := by
    decide +kernel
  have hconnects : (0, (3, 0)) ∈ establishedBy ((Run.runFrom (ownerStep oneSink)
      (ownerInit oneSink 0 ⟨acmpCold, fun _ => idleRecord, fun _ => idleRecord⟩)
      racingEvents).dev.outputs oneSink listenerCall) := by
    decide +kernel
  refine ⟨howner, by decide +kernel, fun h => ?_⟩
  exact absurd ((h 0 (2, 0) howner).1 _ hconnects rfl) (by decide)
