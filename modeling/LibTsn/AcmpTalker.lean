/-
# The listeners of a talker

A talker stream keeps the listeners that are connected to it in a table of slots, with a
guid of zero for an empty one, and counts them.  The table is a set of listeners, and a
command that was answered with `SUCCESS` puts a listener in or takes it out: this holds as
long as no listener has guid zero and a new one finds an empty slot (`SlotFor`).
-/
import LibTsn.AcmpSinks

open List (mem_cons forall_mem_nil)

/-! ## The table of a stream -/

variable (info : AcmpTalkerStream) (p : AcmpListenerPair) (cfg : AcmpConfig) (w : TalkerWatch)

def AcmpListenerPair.isUsed : Bool := decide (p.guid ≠ 0)

def AcmpTalkerStream.listeners : List AcmpListenerPair :=
  Slots.occupied AcmpListenerPair.isUsed info.connectedListeners

/-- **The table is the set** `c`: without duplicates, and counted. -/
structure AcmpTalkerStream.IsSet (info : AcmpTalkerStream) (c : Finset AcmpListenerPair) :
    Prop where
  nodup : info.listeners.Nodup
  mem : ∀ p, p ∈ info.listeners ↔ p ∈ c
  count : info.connectionCount = c.card

def AcmpTalkerStream.SlotFor : Prop :=
  p ∈ info.connectedListeners ∨ ∃ q ∈ info.connectedListeners, q.guid = 0
  deriving Decidable

namespace AcmpTalkerStream

variable {info : AcmpTalkerStream} {c : Finset AcmpListenerPair} {p : AcmpListenerPair}

lemma mem_listeners (hp : p.guid ≠ 0) : p ∈ info.listeners ↔ p ∈ info.connectedListeners := by
  unfold listeners
  rw [Slots.mem_occupied]
  exact and_iff_left (decide_eq_true hp)

lemma isSet_empty (hcount : info.connectionCount = 0)
    (hempty : ∀ q ∈ info.connectedListeners, q.guid = 0) : info.IsSet ∅ := by
  have hnil : info.listeners = [] := by
    refine Slots.occupied_eq_nil fun q hq => ?_
    unfold AcmpListenerPair.isUsed
    rw [hempty q hq]
    decide
  refine ⟨?_, fun q => ?_, ?_⟩
  · rw [hnil]
    exact List.nodup_nil
  · rw [hnil]
    exact iff_of_false List.not_mem_nil (Finset.notMem_empty q)
  · rw [hcount, Finset.card_empty]
    rfl

lemma addListener_of_mem (h : p ∈ info.connectedListeners) : info.addListener p = info :=
  if_pos h

lemma addListener_of_notMem (h : p ∉ info.connectedListeners)
    (hroom : ∃ q ∈ info.connectedListeners, q.guid = 0) :
    ∃ i q, info.connectedListeners[i]? = some q ∧ q.guid = 0 ∧
      info.addListener p = { info with
        connectedListeners := info.connectedListeners.set i p
        connectionCount := info.connectionCount + 1 } := by
  unfold addListener
  rw [if_neg h]
  cases hfind : info.connectedListeners.findIdx? fun q => decide (q.guid = 0) with
  | none =>
    obtain ⟨q, hq, hzero⟩ := hroom
    have htest := List.findIdx?_eq_none_iff.mp hfind q hq
    exact absurd hzero (of_decide_eq_false htest)
  | some i =>
    obtain ⟨hi, htest, -⟩ := List.findIdx?_eq_some_iff_getElem.mp hfind
    exact ⟨i, _, List.getElem?_eq_getElem hi, of_decide_eq_true htest, rfl⟩

/-- **`CONNECT_TX`** puts the listener into the set. -/
theorem isSet_addListener (h : info.IsSet c) (hp : p.guid ≠ 0) (hslot : info.SlotFor p) :
    (info.addListener p).IsSet (insert p c) := by
  by_cases hmem : p ∈ info.connectedListeners
  · have hc : p ∈ c := (h.mem p).mp ((mem_listeners hp).mpr hmem)
    rw [addListener_of_mem hmem, Finset.insert_eq_of_mem hc]
    exact h
  · have hc : p ∉ c := fun hc => hmem ((mem_listeners hp).mp ((h.mem p).mpr hc))
    obtain ⟨i, q, hq, hzero, hadd⟩ := addListener_of_notMem hmem (hslot.resolve_left hmem)
    have hperm : (info.addListener p).listeners.Perm (p :: info.listeners) := by
      rw [hadd]
      exact Slots.occupied_take hq (decide_eq_false (not_not.mpr hzero)) (decide_eq_true hp)
    refine ⟨?_, fun r => ?_, ?_⟩
    · rw [hperm.nodup_iff, List.nodup_cons]
      exact ⟨fun hin => hc ((h.mem p).mp hin), h.nodup⟩
    · rw [hperm.mem_iff, mem_cons, Finset.mem_insert, h.mem r]
    · rw [hadd, Finset.card_insert_of_notMem hc]
      rw [h.count]
      rfl

lemma isSet_removeListener (h : info.IsSet c) (hp : p.guid ≠ 0) :
    (info.removeListener p).IsSet (c.erase p) := by
  unfold removeListener
  cases hfind : info.connectedListeners.findIdx? fun q => decide (q = p) with
  | none =>
    have hc : p ∉ c := by
      intro hc
      have hin := (mem_listeners hp).mp ((h.mem p).mpr hc)
      have htest := List.findIdx?_eq_none_iff.mp hfind p hin
      exact absurd rfl (of_decide_eq_false htest)
    rw [Finset.erase_eq_of_notMem hc]
    exact h
  | some i =>
    obtain ⟨hi, htest, -⟩ := List.findIdx?_eq_some_iff_getElem.mp hfind
    have hq : info.connectedListeners[i]? = some p := by
      rw [List.getElem?_eq_getElem hi, of_decide_eq_true htest]
    have hin : p ∈ info.listeners := (mem_listeners hp).mpr (List.mem_of_getElem? hq)
    have hc : p ∈ c := (h.mem p).mp hin
    have hperm : info.listeners.Perm (p :: listeners { info with
        connectedListeners := info.connectedListeners.set i ⟨0, 0⟩
        connectionCount := info.connectionCount - 1 }) :=
      Slots.occupied_release hq (decide_eq_true hp) (by decide)
    have hnodup := hperm.nodup_iff.mp h.nodup
    rw [List.nodup_cons] at hnodup
    refine ⟨hnodup.2, fun r => ?_, ?_⟩
    · rw [Finset.mem_erase, ← h.mem r, hperm.mem_iff, mem_cons]
      constructor
      · intro hr
        exact ⟨fun heq => hnodup.1 (heq ▸ hr), Or.inr hr⟩
      · rintro ⟨hne, hr⟩
        exact hr.resolve_left hne
    · have hpos : 0 < c.card := Finset.card_pos.mpr ⟨p, hc⟩
      rw [Finset.card_erase_of_mem hc]
      dsimp only
      rw [h.count]
      omega

end AcmpTalkerStream

/-! ## What only the talker does -/

def AcmpOut.OfTalker : AcmpOut → Prop
  | .packet p => p.messageType = AcmpCmd.connectTxResponse ∨
      p.messageType = AcmpCmd.disconnectTxResponse
  | .talkerOnListenerConnect .. => True
  | .talkerOnListenerDisconnect .. => True
  | _ => False

structure TalkerAlone (s s' : AcmpState) (outs : List AcmpOut) : Prop where
  streams : s'.talkerStreams = s.talkerStreams
  outs : ∀ o ∈ outs, ¬ o.OfTalker

section

variable {cfg : AcmpConfig} {env : AcmpEnv} {s : AcmpState}

lemma talkerStreams_processAcmpPacket (cfg : AcmpConfig) (p : AcmpCmdResp) (s : AcmpState) :
    (processAcmpPacket cfg p s).talkerStreams = s.talkerStreams := by
  rcases processAcmpPacket_cases cfg p s with hp | ⟨-, hp⟩ | ⟨-, hp⟩ | ⟨-, -, hp⟩
  all_goals
    rw [hp]

lemma talkerStreams_acmpSendCommand (cfg : AcmpConfig) (entityType : AcmpEntityType)
    (messageType : ℕ) (retry : Option ℕ) (s : AcmpState) :
    (acmpSendCommand cfg entityType messageType retry s).1.talkerStreams = s.talkerStreams := by
  cases entityType with
  | controller => exact talkerStreams_processAcmpPacket cfg _ _
  | listener => exact talkerStreams_processAcmpPacket cfg _ _

lemma AcmpOut.OfController.not_ofTalker {o : AcmpOut} (h : o.OfController) : ¬ o.OfTalker := by
  cases o with
  | packet p =>
    show ¬ (p.messageType = AcmpCmd.connectTxResponse ∨
      p.messageType = AcmpCmd.disconnectTxResponse)
    rcases h with h | h <;> rw [h] <;> decide
  | talkerOnListenerConnectFailed => exact id
  | _ => exact h.elim

lemma talkerStreams_acmpControllerPeriodic (cfg : AcmpConfig) (env : AcmpEnv) (s : AcmpState) :
    (acmpControllerPeriodic cfg env s).1.talkerStreams = s.talkerStreams := by
  obtain ⟨s₀, state, ent, heq, rfl | ⟨messageType, retry, -, rfl⟩⟩ :=
    acmpControllerPeriodic_eq cfg env s
  · rw [heq]
  · rw [heq]
    exact talkerStreams_acmpSendCommand cfg .controller messageType retry s

lemma talkerStreams_acmpListenerPeriodic (cfg : AcmpConfig) (env : AcmpEnv) (s : AcmpState) :
    (acmpListenerPeriodic cfg env s).1.talkerStreams = s.talkerStreams := by
  obtain ⟨s₀, ent, state, streams, heq, -, rfl | ⟨messageType, retry, rfl⟩⟩ :=
    acmpListenerPeriodic_eq cfg env s
  · rw [heq]
  · rw [heq]
    exact talkerStreams_acmpSendCommand cfg .listener messageType retry s

lemma not_ofTalker_packet {p : AcmpCmdResp} (h : 3 < p.messageType) :
    ¬ (AcmpOut.packet p).OfTalker := by
  have hne : ∀ t, t ≤ 3 → p.messageType ≠ t := fun t ht heq => by omega
  rintro (htype | htype)
  · exact hne _ (by decide) htype
  · exact hne _ (by decide) htype

lemma not_ofTalker_txCommand {p : AcmpCmdResp} (h : IsTxCommand p.messageType) :
    ¬ (AcmpOut.packet p).OfTalker := by
  show ¬ (p.messageType = AcmpCmd.connectTxResponse ∨ p.messageType = AcmpCmd.disconnectTxResponse)
  rcases h with h | h <;> rw [h] <;> decide

lemma not_ofTalker_call {s' : AcmpState} {outs : List AcmpOut} (h : ListenerRunning s)
    (hcall : ListenerCall cfg env s s' outs) : ∀ o ∈ outs, ¬ o.OfTalker := by
  have hconnect : 3 < AcmpCmd.connectRxResponse := by decide
  have hdisconnect : 3 < AcmpCmd.disconnectRxResponse := by decide
  cases hcall with
  | idle _ _ hout => rw [hout]; exact forall_mem_nil _
  | poll _ _ _ _ hout => rw [hout]; exact forall_mem_nil _
  | refuse _ _ _ _ _ _ _ hout =>
    rw [hout]
    refine List.forall_mem_singleton.mpr (not_ofTalker_packet ?_)
    show 3 < rxResponseType s.listenerState
    unfold rxResponseType
    split_ifs <;> decide
  | forwardConnect _ _ _ _ _ _ _ hp hout =>
    rw [hout]
    exact List.forall_mem_singleton.mpr (not_ofTalker_txCommand (Or.inl hp))
  | forwardDisconnect _ _ _ _ _ _ _ _ _ _ hp hout =>
    rw [hout]
    exact List.forall_mem_cons.mpr
      ⟨not_ofTalker_txCommand (Or.inr hp), List.forall_mem_singleton.mpr id⟩
  | stuck _ _ _ hout => rw [hout]; exact forall_mem_nil _
  | ignore _ _ _ _ _ _ _ hout => rw [hout]; exact forall_mem_nil _
  | connect _ _ _ _ _ _ _ _ _ _ _ _ _ _ hout =>
    rw [hout]
    exact List.forall_mem_cons.mpr
      ⟨id, List.forall_mem_singleton.mpr (not_ofTalker_packet hconnect)⟩
  | incompatible _ _ _ _ _ _ _ _ _ _ hout =>
    rw [hout]
    exact List.forall_mem_singleton.mpr (not_ofTalker_packet hconnect)
  | disconnect _ _ _ _ _ _ _ _ _ _ hout =>
    rw [hout]
    exact List.forall_mem_singleton.mpr (not_ofTalker_packet hdisconnect)
  | report _ _ _ _ _ _ hp hout =>
    rw [hout]
    exact List.forall_mem_singleton.mpr (not_ofTalker_packet (by rw [hp]; decide))
  | expire _ _ _ _ _ _ _ hout =>
    rw [hout]
    unfold acmpListenerTimeoutResponse
    split_ifs
    · exact forall_mem_nil _
    · refine List.forall_mem_singleton.mpr (not_ofTalker_packet ?_)
      exact Nat.lt_of_lt_of_le (by decide) (Nat.le_add_left 7 _)
  | resend i _ hs hi _ _ _ _ hp hout =>
    rw [hout]
    refine List.forall_mem_singleton.mpr (not_ofTalker_txCommand ?_)
    rw [hp]
    exact h.commands.getD (h.timedOut hs i hi)
  | settled _ _ _ _ _ hout => rw [hout]; exact forall_mem_nil _

lemma talker_event_cases (h : AcmpRunning s) (hlistener : ListenerRunning s) (e : AcmpEvent) :
    TalkerAlone s (acmpStep cfg s e) (acmpEvent cfg s e).2 ∨ ∃ env, e = .talkerPeriodic env := by
  cases e with
  | packet p =>
    exact Or.inl ⟨talkerStreams_processAcmpPacket cfg p s, forall_mem_nil _⟩
  | controllerPeriodic env =>
    exact Or.inl ⟨talkerStreams_acmpControllerPeriodic cfg env s,
      fun o ho => (ofController_controllerPeriodic h env o ho).not_ofTalker⟩
  | talkerPeriodic env => exact Or.inr ⟨env, rfl⟩
  | listenerPeriodic env =>
    exact Or.inl ⟨talkerStreams_acmpListenerPeriodic cfg env s,
      not_ofTalker_call hlistener (listenerCall_acmpListenerPeriodic cfg env s)⟩
  | controllerConnect =>
    exact Or.inl ⟨talkerStreams_acmpSendCommand cfg .controller _ none _, fun o ho =>
      (ofController_controllerConnectDisconnect (Or.inl rfl) _ _ _ _ o ho).not_ofTalker⟩
  | controllerDisconnect =>
    exact Or.inl ⟨talkerStreams_acmpSendCommand cfg .controller _ none _, fun o ho =>
      (ofController_controllerConnectDisconnect (Or.inr rfl) _ _ _ _ o ho).not_ofTalker⟩

end

/-! ## Commands that were answered with `SUCCESS` -/

/-- A command of a listener to a talker stream that was answered with `SUCCESS`. -/
structure TalkerCommand where
  connect : Bool
  stream : ℕ
  listener : AcmpListenerPair
  deriving DecidableEq

def AcmpCmdResp.listener (r : AcmpCmdResp) : AcmpListenerPair :=
  ⟨r.listenerGuid, r.listenerUniqueId⟩

/-- The command that is answered with `SUCCESS`. -/
def AcmpOut.succeeded : AcmpOut → Option TalkerCommand
  | .packet p =>
    if p.status ≠ AcmpStatus.success then none
    else if p.messageType = AcmpCmd.connectTxResponse then
      some ⟨true, p.talkerUniqueId.toNat, p.listener⟩
    else if p.messageType = AcmpCmd.disconnectTxResponse then
      some ⟨false, p.talkerUniqueId.toNat, p.listener⟩
    else none
  | _ => none

/-- The listeners of each stream whose last command that succeeded was `CONNECT_TX`. -/
abbrev ConnectedListeners := ℕ → Finset AcmpListenerPair

def ConnectedListeners.note (c : ConnectedListeners) (t : TalkerCommand) : ConnectedListeners :=
  Function.update c t.stream
    (if t.connect then insert t.listener (c t.stream) else (c t.stream).erase t.listener)

structure TalkerWatch where
  dev : AcmpDevice
  connected : ConnectedListeners

def talkerWatchStep (e : AcmpDevice.Event) : TalkerWatch where
  dev := w.dev.step cfg e
  connected := ((w.dev.outputs cfg e).filterMap AcmpOut.succeeded).foldl ConnectedListeners.note
    w.connected

def talkerWatchInit (now : ℕ) (d : AcmpDevice) : TalkerWatch :=
  ⟨d.init cfg now, fun _ => ∅⟩

namespace AcmpDevice

def source (d : AcmpDevice) : ℕ := d.acmp.talkerRcvdCmdResp.talkerUniqueId.toNat

def talkerStream (d : AcmpDevice) (i : ℕ) : AcmpTalkerStream :=
  d.acmp.talkerStreams.getD i ⟨0, 0, Vector.replicate 6 0, []⟩

def Commands (cfg : AcmpConfig) (state : AcmpTalkerState) (d : AcmpDevice) (e : Event) : Prop :=
  AcmpMachine.talker.own e.1 = true ∧ d.acmp.talkerState = state ∧
    acmpTalkerValidTalkerUnique cfg d.acmp = true
  deriving Decidable

/-- **What an event does to the tables and the sources.** -/
inductive TalkerEffect (cfg : AcmpConfig) (d : AcmpDevice) (e : Event) (d' : AcmpDevice)
    (outs : List AcmpOut) : Prop
  | quiet (hstreams : d'.acmp.talkerStreams = d.acmp.talkerStreams)
      (hsources : d'.sources = d.sources) (hout : outs.filterMap AcmpOut.succeeded = [])
  | connect (id : UInt64) (hcommand : Commands cfg .connect d e)
      (hstreams : d'.acmp.talkerStreams = d.acmp.talkerStreams.set d.source
        { (d.talkerStream d.source).addListener (acmpRcvdListener d.acmp) with streamId := id })
      (hsources : d'.sources = Function.update d.sources d.source
        (avbTalkerOnListenerConnectDefault e.2 (d.sources d.source)))
      (hout : outs.filterMap AcmpOut.succeeded = [⟨true, d.source, acmpRcvdListener d.acmp⟩])
  | disconnect (hcommand : Commands cfg .disconnect d e)
      (hstreams : d'.acmp.talkerStreams = d.acmp.talkerStreams.set d.source
        ((d.talkerStream d.source).removeListener (acmpRcvdListener d.acmp)))
      (hsources : d'.sources = Function.update d.sources d.source
        (avbTalkerOnListenerDisconnectDefault ((d.talkerStream d.source).removeListener
          (acmpRcvdListener d.acmp)).connectionCount e.2 (d.sources d.source)))
      (hout : outs.filterMap AcmpOut.succeeded = [⟨false, d.source, acmpRcvdListener d.acmp⟩])

section

variable {cfg : AcmpConfig} {d : AcmpDevice}

lemma succeeded_of_not_ofTalker {o : AcmpOut} (h : ¬ o.OfTalker) : o.succeeded = none := by
  cases o with
  | packet p =>
    unfold AcmpOut.succeeded
    dsimp only
    rw [if_neg fun htype => h (Or.inl htype), if_neg fun htype => h (Or.inr htype)]
    exact ite_self _
  | _ => rfl

variable {env : AcmpEnv} {srpVlan : UInt16} {outs : List AcmpOut}

lemma filterMap_succeeded_of_not_ofTalker (h : ∀ o ∈ outs, ¬ o.OfTalker) :
    outs.filterMap AcmpOut.succeeded = [] :=
  List.filterMap_eq_nil_iff.mpr fun o ho => succeeded_of_not_ofTalker (h o ho)

lemma sources_foldl_hook (h : ∀ o ∈ outs, ¬ o.OfTalker) (d : AcmpDevice) :
    (outs.foldl (hook srpVlan) d).sources = d.sources := by
  induction outs generalizing d with
  | nil => rfl
  | cons o outs ih =>
    obtain ⟨ho, houts⟩ := List.forall_mem_cons.mp h
    rw [List.foldl_cons, ih houts]
    cases o with
    | talkerOnListenerConnect => exact absurd trivial ho
    | talkerOnListenerDisconnect => exact absurd trivial ho
    | _ => rfl

lemma talkerEffect_quiet {e : Event}
    (h : TalkerAlone d.acmp (acmpStep cfg d.acmp (d.answered e.1)) (d.outputs cfg e)) :
    TalkerEffect cfg d e (d.step cfg e) (d.outputs cfg e) := by
  refine .quiet ?_ ?_ (filterMap_succeeded_of_not_ofTalker h.outs)
  · rw [acmp_step]
    exact h.streams
  · exact sources_foldl_hook h.outs _

lemma acmpTalkerHook_spec (env : AcmpEnv) {s : AcmpState} (info : AcmpTalkerStream)
    (hi : s.talkerRcvdCmdResp.talkerUniqueId.toNat < s.talkerStreams.length) :
    ∃ id, (acmpTalkerHook env (setAcmpTalkerStream info s)).talkerStreams =
        s.talkerStreams.set s.talkerRcvdCmdResp.talkerUniqueId.toNat { info with streamId := id } ∧
      (acmpTalkerHook env (setAcmpTalkerStream info s)).talkerRcvdCmdResp =
        s.talkerRcvdCmdResp := by
  unfold acmpTalkerHook
  cases env.sourceStreamId with
  | none => exact ⟨info.streamId, rfl, rfl⟩
  | some id =>
    refine ⟨id, ?_, rfl⟩
    have hself : acmpTalkerStream (setAcmpTalkerStream info s) = info := by
      unfold acmpTalkerStream setAcmpTalkerStream
      rw [Slots.getD_set_self hi]
    rw [hself]
    exact List.set_set _

lemma talkerEffect_refused {e : Event} {s' : AcmpState} {p : AcmpCmdResp}
    (hevent : acmpEvent cfg d.acmp (d.answered e.1) = (s', [.packet p]))
    (hstreams : s'.talkerStreams = d.acmp.talkerStreams) (hp : p.status ≠ AcmpStatus.success) :
    TalkerEffect cfg d e (d.step cfg e) (d.outputs cfg e) := by
  have hout : d.outputs cfg e = [.packet p] := congrArg Prod.snd hevent
  refine .quiet ?_ ?_ ?_
  · rw [acmp_step]
    exact (congrArg (fun x => x.1.talkerStreams) hevent).trans hstreams
  · unfold step
    rw [hout]
    rfl
  · rw [hout]
    exact List.filterMap_cons_none (if_pos hp)

lemma talkerEffect_connect (hi : d.source < d.acmp.talkerStreams.length)
    (hs : d.acmp.talkerState = .connect) (hvalid : acmpTalkerValidTalkerUnique cfg d.acmp = true) :
    TalkerEffect cfg d (.talkerPeriodic env, srpVlan) (d.step cfg (.talkerPeriodic env, srpVlan))
      (d.outputs cfg (.talkerPeriodic env, srpVlan)) := by
  obtain ⟨id, hstreams, hresp⟩ := acmpTalkerHook_spec (d.answer env)
    ((acmpTalkerStream d.acmp).addListener (acmpRcvdListener d.acmp)) hi
  set s' := acmpTalkerHook (d.answer env) (acmpAddTalkerStreamInfo d.acmp) with hs'
  have hevent : acmpTalkerPeriodic cfg (d.answer env) d.acmp =
      ({ acmpSetTalkerResponse s' with talkerState := .waiting },
        [.talkerOnListenerConnect d.acmp.talkerRcvdCmdResp.talkerUniqueId
            d.acmp.talkerRcvdCmdResp.listenerGuid,
          acmpSendResponse AcmpCmd.connectTxResponse (acmpSetTalkerResponse s').talkerRcvdCmdResp
            AcmpStatus.success]) := by
    unfold acmpTalkerPeriodic
    rw [hs]
    unfold acmpTalkerConnect
    rw [if_pos hvalid]
  have hout : d.outputs cfg (.talkerPeriodic env, srpVlan) = _ := congrArg Prod.snd hevent
  refine .connect id ⟨rfl, hs, hvalid⟩ ?_ ?_ ?_
  · rw [acmp_step]
    exact (congrArg (fun x => x.1.talkerStreams) hevent).trans hstreams
  · unfold step
    rw [hout]
    rfl
  · rw [hout]
    refine (List.filterMap_cons_none rfl).trans (List.filterMap_cons_some ?_)
    show some (TalkerCommand.mk true s'.talkerRcvdCmdResp.talkerUniqueId.toNat
      s'.talkerRcvdCmdResp.listener) = _
    rw [hs', acmpAddTalkerStreamInfo, hresp]
    rfl

lemma talkerEffect_disconnect (hi : d.source < d.acmp.talkerStreams.length)
    (hs : d.acmp.talkerState = .disconnect)
    (hvalid : acmpTalkerValidTalkerUnique cfg d.acmp = true) :
    TalkerEffect cfg d (.talkerPeriodic env, srpVlan) (d.step cfg (.talkerPeriodic env, srpVlan))
      (d.outputs cfg (.talkerPeriodic env, srpVlan)) := by
  have hself : acmpTalkerStream (acmpRemoveTalkerStreamInfo d.acmp) =
      (d.talkerStream d.source).removeListener (acmpRcvdListener d.acmp) := by
    exact Slots.getD_set_self hi _ _
  have hevent : acmpTalkerPeriodic cfg (d.answer env) d.acmp =
      ({ acmpSetTalkerResponse (acmpRemoveTalkerStreamInfo d.acmp) with talkerState := .waiting },
        [.talkerOnListenerDisconnect d.acmp.talkerRcvdCmdResp.talkerUniqueId
            d.acmp.talkerRcvdCmdResp.listenerGuid
            ((d.talkerStream d.source).removeListener (acmpRcvdListener d.acmp)).connectionCount,
          acmpSendResponse AcmpCmd.disconnectTxResponse
            (acmpSetTalkerResponse (acmpRemoveTalkerStreamInfo d.acmp)).talkerRcvdCmdResp
            AcmpStatus.success]) := by
    unfold acmpTalkerPeriodic
    rw [hs, ← hself]
    unfold acmpTalkerDisconnect
    rw [if_pos hvalid]
  have hout : d.outputs cfg (.talkerPeriodic env, srpVlan) = _ := congrArg Prod.snd hevent
  refine .disconnect ⟨rfl, hs, hvalid⟩ ?_ ?_ ?_
  · rw [acmp_step]
    exact congrArg (fun x => x.1.talkerStreams) hevent
  · unfold step
    rw [hout]
    rfl
  · rw [hout]
    exact (List.filterMap_cons_none rfl).trans (List.filterMap_cons_some rfl)

lemma talkerEffect_call (hlength : d.acmp.talkerStreams.length = cfg.maxTalkers) :
    TalkerEffect cfg d (.talkerPeriodic env, srpVlan) (d.step cfg (.talkerPeriodic env, srpVlan))
      (d.outputs cfg (.talkerPeriodic env, srpVlan)) := by
  have hrange : acmpTalkerValidTalkerUnique cfg d.acmp = true →
      d.source < d.acmp.talkerStreams.length := by
    intro hvalid
    rw [hlength]
    exact of_decide_eq_true (Bool.and_eq_true_iff.mp hvalid).2
  have hunknown : AcmpStatus.talkerUnknownId ≠ AcmpStatus.success := by decide
  cases hs : d.acmp.talkerState with
  | idle =>
    refine talkerEffect_quiet ?_
    show TalkerAlone _ (acmpTalkerPeriodic cfg _ _).1 (acmpTalkerPeriodic cfg _ _).2
    unfold acmpTalkerPeriodic
    rw [hs]
    exact ⟨rfl, forall_mem_nil _⟩
  | waiting =>
    refine talkerEffect_quiet ?_
    show TalkerAlone _ (acmpTalkerPeriodic cfg _ _).1 (acmpTalkerPeriodic cfg _ _).2
    unfold acmpTalkerPeriodic
    rw [hs]
    exact ⟨rfl, forall_mem_nil _⟩
  | connect =>
    by_cases hvalid : acmpTalkerValidTalkerUnique cfg d.acmp = true
    · exact talkerEffect_connect (hrange hvalid) hs hvalid
    · have hevent : acmpTalkerPeriodic cfg (d.answer env) d.acmp =
          ({ d.acmp with talkerState := .waiting }, [acmpSendResponse AcmpCmd.connectTxResponse
            d.acmp.talkerRcvdCmdResp AcmpStatus.talkerUnknownId]) := by
        unfold acmpTalkerPeriodic acmpTalkerConnect
        rw [hs]
        dsimp only
        rw [if_neg hvalid]
      exact talkerEffect_refused hevent rfl hunknown
  | disconnect =>
    by_cases hvalid : acmpTalkerValidTalkerUnique cfg d.acmp = true
    · exact talkerEffect_disconnect (hrange hvalid) hs hvalid
    · have hevent : acmpTalkerPeriodic cfg (d.answer env) d.acmp =
          ({ d.acmp with talkerState := .waiting }, [acmpSendResponse AcmpCmd.disconnectTxResponse
            d.acmp.talkerRcvdCmdResp AcmpStatus.talkerUnknownId]) := by
        unfold acmpTalkerPeriodic acmpTalkerDisconnect
        rw [hs]
        dsimp only
        rw [if_neg hvalid]
      exact talkerEffect_refused hevent rfl hunknown
  | getState =>
    have htype : 3 < AcmpCmd.getTxStateResponse := by decide
    refine talkerEffect_quiet ?_
    show TalkerAlone _ (acmpTalkerPeriodic cfg _ _).1 (acmpTalkerPeriodic cfg _ _).2
    unfold acmpTalkerPeriodic acmpTalkerGetStateResponse
    rw [hs]
    dsimp only
    split_ifs
    · exact ⟨rfl, List.forall_mem_singleton.mpr (not_ofTalker_packet htype)⟩
    · exact ⟨rfl, List.forall_mem_singleton.mpr (not_ofTalker_packet htype)⟩
  | getConnection =>
    have htype : 3 < AcmpCmd.getTxConnectionResponse := by decide
    refine talkerEffect_quiet ?_
    show TalkerAlone _ (acmpTalkerPeriodic cfg _ _).1 (acmpTalkerPeriodic cfg _ _).2
    unfold acmpTalkerPeriodic acmpTalkerGetConnectionResponse acmpTalkerGetConnection
    rw [hs]
    dsimp only
    split_ifs
    all_goals exact ⟨rfl, List.forall_mem_singleton.mpr (not_ofTalker_packet htype)⟩

lemma talkerEffect_step (hrun : AcmpRunning d.acmp) (hlistener : ListenerRunning d.acmp)
    (hlength : d.acmp.talkerStreams.length = cfg.maxTalkers) (e : Event) :
    TalkerEffect cfg d e (d.step cfg e) (d.outputs cfg e) := by
  obtain ⟨event, srpVlan⟩ := e
  rcases talker_event_cases hrun hlistener (d.answered event) with halone | ⟨env, henv⟩
  · exact talkerEffect_quiet halone
  · cases event with
    | talkerPeriodic env => exact talkerEffect_call hlength
    | _ => cases henv

end

end AcmpDevice

/-! ## The tables are the connected listeners -/

structure TalkerWatch.Matches (w : TalkerWatch) (i : ℕ) : Prop where
  table : (w.dev.talkerStream i).IsSet (w.connected i)
  source : (w.dev.sources i).stream.state ≠ .disabled ↔ 0 < (w.dev.talkerStream i).connectionCount

/-- **In order.**  A listener that connects or disconnects has a guid, and there is a slot for one
that connects. -/
def ListenersInOrder (e : AcmpDevice.Event) : Prop :=
  (AcmpDevice.Commands cfg .connect w.dev e → w.dev.acmp.talkerRcvdCmdResp.listenerGuid ≠ 0 ∧
    (w.dev.talkerStream w.dev.source).SlotFor (acmpRcvdListener w.dev.acmp)) ∧
  (AcmpDevice.Commands cfg .disconnect w.dev e →
    w.dev.acmp.talkerRcvdCmdResp.listenerGuid ≠ 0)
  deriving Decidable

structure AcmpDevice.TalkersCold (cfg : AcmpConfig) (d : AcmpDevice) : Prop where
  length : d.acmp.talkerStreams.length = cfg.maxTalkers
  empty : ∀ info ∈ d.acmp.talkerStreams, info.connectionCount = 0 ∧
    info.connectedListeners = List.replicate cfg.maxListenersPerTalker ⟨0, 0⟩
  disabled : ∀ i < cfg.maxTalkers, (d.sources i).stream.state = .disabled

structure TalkerWatch.Inv (cfg : AcmpConfig) (w : TalkerWatch) : Prop where
  running : DeviceRunning cfg w.dev
  length : w.dev.acmp.talkerStreams.length = cfg.maxTalkers
  matched : ∀ i < cfg.maxTalkers, w.Matches i

section

variable {cfg : AcmpConfig} {w : TalkerWatch} {e : AcmpDevice.Event}

lemma AcmpDevice.talkerStream_of_set {d d' : AcmpDevice} {i : ℕ} {info : AcmpTalkerStream}
    (h : d'.acmp.talkerStreams = d.acmp.talkerStreams.set i info) (j : ℕ) :
    (i < d.acmp.talkerStreams.length → d'.talkerStream i = info) ∧
      (i ≠ j → d'.talkerStream j = d.talkerStream j) := by
  unfold talkerStream
  rw [h]
  constructor
  · intro hi
    rw [Slots.getD_set_self hi]
  · intro hne
    rw [Slots.getD_set_ne hne]

lemma state_connectDefault (srpVlan : UInt16) (x : AvbEndpointInfo) :
    (avbTalkerOnListenerConnectDefault srpVlan x).stream.state ≠ .disabled := by
  unfold avbTalkerOnListenerConnectDefault
  split_ifs with hx
  · rw [AvbEndpointInfo.state_setState]
    decide
  · exact hx

lemma state_disconnectDefault {count : ℤ} {srpVlan : UInt16} {x : AvbEndpointInfo} :
    (avbTalkerOnListenerDisconnectDefault count srpVlan x).stream.state ≠ .disabled ↔
      x.stream.state ≠ .disabled ∧ count ≠ 0 := by
  unfold avbTalkerOnListenerDisconnectDefault
  split_ifs with hx
  · refine iff_of_false (not_not.mpr ?_) fun h => h.2 hx.2
    exact AvbEndpointInfo.state_setState .disabled srpVlan x
  · constructor
    · intro hstate
      exact ⟨hstate, fun hcount => hx ⟨hstate, hcount⟩⟩
    · exact And.left

lemma matches_of_command {w' : TalkerWatch} {t : TalkerCommand} {info : AcmpTalkerStream}
    {x : AvbEndpointInfo}
    (hstreams : w'.dev.acmp.talkerStreams = w.dev.acmp.talkerStreams.set t.stream info)
    (hsources : w'.dev.sources = Function.update w.dev.sources t.stream x)
    (hconnected : w'.connected = w.connected.note t)
    (htable : info.IsSet (w.connected.note t t.stream))
    (hsource : x.stream.state ≠ .disabled ↔ 0 < info.connectionCount) {i : ℕ}
    (hi : i < w.dev.acmp.talkerStreams.length) (hmatched : w.Matches i) : w'.Matches i := by
  obtain ⟨hself, hother⟩ := AcmpDevice.talkerStream_of_set hstreams i
  by_cases hne : t.stream = i
  · subst hne
    constructor
    · rw [hself hi, hconnected]
      exact htable
    · rw [hself hi, hsources, Function.update_self]
      exact hsource
  · constructor
    · rw [hother hne, hconnected, ConnectedListeners.note, Function.update_of_ne (Ne.symm hne)]
      exact hmatched.table
    · rw [hother hne, hsources, Function.update_of_ne (Ne.symm hne)]
      exact hmatched.source

lemma matches_talkerWatchStep (h : w.Inv cfg) (he : ListenersInOrder cfg w e) {i : ℕ}
    (hi : i < cfg.maxTalkers) : (talkerWatchStep cfg w e).Matches i := by
  have hmatched := h.matched i hi
  have hrange : i < w.dev.acmp.talkerStreams.length := h.length ▸ hi
  have hsource : acmpTalkerValidTalkerUnique cfg w.dev.acmp = true → w.Matches w.dev.source :=
    fun hvalid => h.matched _ (of_decide_eq_true (Bool.and_eq_true_iff.mp hvalid).2)
  have hnoted : (talkerWatchStep cfg w e).connected =
      ((w.dev.outputs cfg e).filterMap AcmpOut.succeeded).foldl ConnectedListeners.note
        w.connected := rfl
  cases AcmpDevice.talkerEffect_step h.running.running h.running.listener h.length e with
  | quiet hstreams hsources hout =>
    have hstream : (w.dev.step cfg e).talkerStream i = w.dev.talkerStream i := by
      unfold AcmpDevice.talkerStream
      rw [hstreams]
    rw [hout] at hnoted
    constructor
    · rw [hnoted]
      show ((w.dev.step cfg e).talkerStream i).IsSet _
      rw [hstream]
      exact hmatched.table
    · show ((w.dev.step cfg e).sources i).stream.state ≠ _ ↔
        0 < ((w.dev.step cfg e).talkerStream i).connectionCount
      rw [hstream, hsources]
      exact hmatched.source
  | connect id hcommand hstreams hsources hout =>
    obtain ⟨hguid, hslot⟩ := he.1 hcommand
    rw [hout] at hnoted
    have htable := (hsource hcommand.2.2).table
    have hset := AcmpTalkerStream.isSet_addListener htable hguid hslot
    refine matches_of_command hstreams hsources hnoted ?_ ?_ hrange hmatched
    · -- the stream id is not part of the table
      rw [ConnectedListeners.note, Function.update_self]
      exact ⟨hset.nodup, hset.mem, hset.count⟩
    · refine iff_of_true (state_connectDefault _ _) ?_
      rw [hset.count]
      exact_mod_cast Finset.card_pos.mpr (Finset.insert_nonempty _ _)
  | disconnect hcommand hstreams hsources hout =>
    rw [hout] at hnoted
    have hmatch := hsource hcommand.2.2
    have hguid : (acmpRcvdListener w.dev.acmp).guid ≠ 0 := he.2 hcommand
    have hset := AcmpTalkerStream.isSet_removeListener hmatch.table hguid
    refine matches_of_command hstreams hsources hnoted ?_ ?_ hrange hmatched
    · rw [ConnectedListeners.note, Function.update_self]
      exact hset
    · rw [state_disconnectDefault, hmatch.source, hmatch.table.count, hset.count]
      have hle : ((w.connected w.dev.source).erase (acmpRcvdListener w.dev.acmp)).card ≤
          (w.connected w.dev.source).card := Finset.card_erase_le
      omega

lemma length_talkerWatchStep (h : w.Inv cfg) (e : AcmpDevice.Event) :
    (talkerWatchStep cfg w e).dev.acmp.talkerStreams.length = cfg.maxTalkers := by
  show (w.dev.step cfg e).acmp.talkerStreams.length = cfg.maxTalkers
  cases AcmpDevice.talkerEffect_step h.running.running h.running.listener h.length e with
  | quiet hstreams => rw [hstreams, h.length]
  | connect _ _ hstreams => rw [hstreams, List.length_set, h.length]
  | disconnect _ hstreams => rw [hstreams, List.length_set, h.length]

lemma talkerWatch_inv_step (h : w.Inv cfg) (he : ListenersInOrder cfg w e) :
    (talkerWatchStep cfg w e).Inv cfg where
  running := deviceRunning_step h.running e
  length := length_talkerWatchStep h e
  matched := fun _ hi => matches_talkerWatchStep h he hi

lemma talkerWatch_inv_init (cfg : AcmpConfig) (now : ℕ) {d : AcmpDevice}
    (h : d.TalkersCold cfg) : (talkerWatchInit cfg now d).Inv cfg where
  running := deviceRunning_init cfg now d
  length := h.length
  matched := by
    intro i hi
    have hi' : i < d.acmp.talkerStreams.length := h.length ▸ hi
    have hstream : (d.init cfg now).talkerStream i = d.acmp.talkerStreams[i] := by
      show d.acmp.talkerStreams.getD i _ = _
      rw [List.getD_eq_getElem?_getD, List.getElem?_eq_getElem hi', Option.getD_some]
    obtain ⟨hcount, hempty⟩ := h.empty _ (List.getElem_mem hi')
    constructor
    · show ((d.init cfg now).talkerStream i).IsSet ∅
      rw [hstream]
      refine AcmpTalkerStream.isSet_empty hcount fun q hq => ?_
      rw [hempty] at hq
      rw [List.eq_of_mem_replicate hq]
    · refine iff_of_false (not_not.mpr (h.disabled i hi)) ?_
      show ¬ 0 < ((d.init cfg now).talkerStream i).connectionCount
      rw [hstream, hcount]
      decide

end

/-- **The table is the set of connected listeners**, in every run in which listeners are in
order: its occupied slots are, without duplicates, those whose last command that was answered
with `SUCCESS` was a connect; they are counted; and the source is on while there is one. -/
theorem talker_table_is_connected_listeners (cfg : AcmpConfig) (now : ℕ) (d : AcmpDevice)
    (hcold : d.TalkersCold cfg) (es : List AcmpDevice.Event)
    (hes : Run.Guarded (talkerWatchStep cfg) (ListenersInOrder cfg) (talkerWatchInit cfg now d) es)
    (i : ℕ) (hi : i < cfg.maxTalkers) :
    (Run.runFrom (talkerWatchStep cfg) (talkerWatchInit cfg now d) es).Matches i := by
  have hstep : ∀ w e, w.Inv cfg → ListenersInOrder cfg w e → (talkerWatchStep cfg w e).Inv cfg :=
    fun _ _ h he => talkerWatch_inv_step h he
  have hinv := Run.invariant_of_guarded hstep (talkerWatch_inv_init cfg now hcold) es hes
  exact hinv.matched i hi

/-! ## A device with four slots -/

def listenerCommand (messageType : ℕ) (guid : UInt64) : List AcmpDevice.Event :=
  [messageArrives { AcmpCmdResp.zero with
      messageType := messageType
      talkerGuid := 1
      listenerGuid := guid },
    (.talkerPeriodic ⟨0, 0, false, 0, none⟩, 2)]

def oneSourceDevice : AcmpDevice := ⟨acmpCold, fun _ => idleRecord, fun _ => idleRecord⟩

lemma talkersCold_oneSourceDevice : oneSourceDevice.TalkersCold oneSink where
  length := rfl
  empty := by decide
  disabled := fun _ _ => rfl

def afterCommands (es : List AcmpDevice.Event) : TalkerWatch :=
  Run.runFrom (talkerWatchStep oneSink) (talkerWatchInit oneSink 0 oneSourceDevice) es

theorem table_after_disconnect : (afterCommands (listenerCommand AcmpCmd.connectTxCommand 11 ++
        listenerCommand AcmpCmd.connectTxCommand 12 ++
        listenerCommand AcmpCmd.disconnectTxCommand 11)).Matches 0 ∧
      (afterCommands (listenerCommand AcmpCmd.connectTxCommand 11 ++
        listenerCommand AcmpCmd.connectTxCommand 12 ++
        listenerCommand AcmpCmd.disconnectTxCommand 11)).connected 0 = {⟨12, 0⟩} :=
  ⟨talker_table_is_connected_listeners oneSink 0 oneSourceDevice talkersCold_oneSourceDevice _
    (by decide +kernel) 0 (by decide), by decide +kernel⟩

/-- A fifth listener is answered with `SUCCESS` and is not in the table; and a disconnect of a
listener with guid zero counts below zero. -/
theorem fifth_listener_is_lost : (afterCommands ([11, 12, 13, 14, 15].flatMap
        (listenerCommand AcmpCmd.connectTxCommand))).connected 0 =
          {⟨11, 0⟩, ⟨12, 0⟩, ⟨13, 0⟩, ⟨14, 0⟩, ⟨15, 0⟩} ∧
      ((afterCommands ([11, 12, 13, 14, 15].flatMap
        (listenerCommand AcmpCmd.connectTxCommand))).dev.talkerStream 0).listeners =
          [⟨11, 0⟩, ⟨12, 0⟩, ⟨13, 0⟩, ⟨14, 0⟩] ∧
      ¬ (afterCommands ([11, 12, 13, 14, 15].flatMap
        (listenerCommand AcmpCmd.connectTxCommand))).Matches 0 ∧
      ((afterCommands (listenerCommand AcmpCmd.disconnectTxCommand 0)).dev.talkerStream
        0).connectionCount = -1 := by
  have hconnected : (afterCommands ([11, 12, 13, 14, 15].flatMap
      (listenerCommand AcmpCmd.connectTxCommand))).connected 0 =
        {⟨11, 0⟩, ⟨12, 0⟩, ⟨13, 0⟩, ⟨14, 0⟩, ⟨15, 0⟩} := by decide +kernel
  have htable : ((afterCommands ([11, 12, 13, 14, 15].flatMap
      (listenerCommand AcmpCmd.connectTxCommand))).dev.talkerStream 0).listeners =
        [⟨11, 0⟩, ⟨12, 0⟩, ⟨13, 0⟩, ⟨14, 0⟩] := by decide +kernel
  refine ⟨hconnected, htable, fun h => ?_, by decide +kernel⟩
  have hmem := (h.table.mem ⟨15, 0⟩).mpr (by rw [hconnected]; decide)
  rw [htable] at hmem
  exact absurd hmem (by decide)
