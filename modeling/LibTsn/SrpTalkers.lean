/-
# The talkers of a device that listens

The Talker attributes of a listening device are never declared by it, so that their
applicants only move between VO and LO: a LeaveAll takes them to LO, a received value of
a talker may take them back.
-/
import LibTsn.SrpRequests

/-! ## Applicants of talkers -/

variable {e : MrpEvent} (st : MrpApplicantState)

def Observes : Prop := st = .vo ∨ st = .lo

def LeftObserver : Prop := st = .lo

/-- An event that moves the applicants in `Q` within `Q`. -/
def Keeps (Q : MrpApplicantState → Prop) (e : MrpEvent) : Prop :=
  ∀ st, Q st → Q (applicantEvent e st)

lemma keeps_observes (hnew : e ≠ .new) (hjoin : e ≠ .join) : Keeps Observes e := by
  rintro st (rfl | rfl)
  · revert hnew hjoin
    cases e <;> unfold Observes <;> decide
  · revert hnew hjoin
    cases e <;> unfold Observes <;> decide

lemma keeps_leftObserver (h : e = .receiveLeaveAll ∨ e = .periodic ∨ e = .leaveTimer) :
    Keeps LeftObserver e := by
  rintro st rfl
  rcases h with rfl | rfl | rfl <;> rfl

namespace SrpState

section

variable {a t v : ℕ} {s : SrpState a t v} {p : MrpAttributeType → Prop}
  {Q : MrpApplicantState → Prop} {i : Fin a}

def StatesIn (p : MrpAttributeType → Prop) (Q : MrpApplicantState → Prop) (s : SrpState a t v) :
    Prop :=
  ∀ i, (s.attrs i).applicantState.Begun → p (s.attrs i).attributeType → Q (s.attrs i).applicantState

lemma statesIn_congr {s' : SrpState a t v} (h : StatesIn p Q s) (hattrs : s'.attrs = s.attrs) :
    StatesIn p Q s' := by
  intro i
  rw [hattrs]
  exact h i

lemma statesIn_setAttr (h : StatesIn p Q s) {x : MrpAttribute}
    (hx : x.applicantState.Begun → p x.attributeType → Q x.applicantState) :
    StatesIn p Q (s.setAttr i x) := by
  intro l
  by_cases hl : l = i
  · rw [hl, attrs_setAttr_self]
    exact hx
  · rw [attrs_setAttr_of_ne hl]
    exact h l

lemma statesIn_setEntry (h : StatesIn p Q s) (j : ℕ) (x : AvbStreamEntry) :
    StatesIn p Q (s.setEntry j x) :=
  statesIn_congr h rfl

variable (type : MrpAttributeType) {e : MrpEvent}

lemma attrs_updateState (htx : e ≠ .tx) (htx' : e ≠ .txLeaveAll) (four : ℕ) (i : Fin a)
    (s : SrpState a t v) :
    ((s.updateState e four i).attrs i).attributeType = (s.attrs i).attributeType ∧
      ((s.updateState e four i).attrs i).applicantState =
        applicantEvent e (s.attrs i).applicantState ∧
      ∀ l, l ≠ i → (s.updateState e four i).attrs l = s.attrs l := by
  have hmid : ∀ s' : SrpState a t v, s'.attrs = s.attrs →
      ∀ s'' : SrpState a t v, s'' = s'.tick.setAttr i
        { registrarEvent s'.now four e (s'.attrs i) with
        applicantState :=
          applicantEvent e (registrarEvent s'.now four e (s'.attrs i)).applicantState } →
      (s''.attrs i).attributeType = (s.attrs i).attributeType ∧
      (s''.attrs i).applicantState = applicantEvent e (s.attrs i).applicantState ∧
      ∀ l, l ≠ i → s''.attrs l = s.attrs l := by
    rintro s' hattrs _ rfl
    obtain ⟨htype, hstate, -, -, -⟩ := registrarEvent_frame s'.now four e (s'.attrs i)
    rw [attrs_setAttr_self, ← hattrs]
    rw [hstate]
    refine ⟨htype, rfl, fun l hl => ?_⟩
    exact attrs_setAttr_of_ne hl _ s'.tick
  unfold updateState
  cases e with
  | tx => exact absurd rfl htx
  | txLeaveAll => exact absurd rfl htx'
  | receiveLeaveAll =>
    dsimp only
    rw [if_pos rfl, setAttr_setAttr]
    exact hmid _ (attrs_restartLeaveall _ s) _ rfl
  | _ =>
    dsimp only
    rw [if_neg (by decide), setAttr_setAttr]
    exact hmid s rfl _ rfl

lemma statesIn_updateState (htx : e ≠ .tx) (htx' : e ≠ .txLeaveAll) (four : ℕ)
    (hbegun : (s.attrs i).applicantState.Begun ∨ e = .leaveTimer)
    (hkeeps : p (s.attrs i).attributeType → Keeps Q e) (h : StatesIn p Q s) :
    StatesIn p Q (s.updateState e four i) := by
  obtain ⟨htype, hstate, hothers⟩ := attrs_updateState htx htx' four i s
  intro l hl hp
  by_cases hli : l = i
  · rw [hli] at hl hp ⊢
    rw [htype] at hp
    rw [hstate] at hl ⊢
    have hold : (s.attrs i).applicantState.Begun := by
      rcases hbegun with hbegun | rfl
      · exact hbegun
      · exact hl
    exact hkeeps hp _ (h i hold hp)
  · rw [hothers l hli] at hl hp ⊢
    exact h l hl hp

lemma foldl_keeps {β : Type*} {P : SrpState a t v → Prop} {f : SrpState a t v → β → SrpState a t v}
    (h : ∀ s x, P s → P (f s x)) (xs : List β) (hs : P s) : P (xs.foldl f s) := by
  induction xs generalizing s with
  | nil => exact hs
  | cons x xs ih => exact ih (h s x hs)

lemma statesIn_attributeTypeEvent (htx : e ≠ .tx) (htx' : e ≠ .txLeaveAll)
    (hkeeps : p type → Keeps Q e) (h : StatesIn p Q s) :
    StatesIn p Q (s.attributeTypeEvent type e) := by
  refine foldl_keeps (fun s i h => ?_) s.order h
  split_ifs with hi
  · refine statesIn_updateState htx htx' 0 (Or.inl hi.1) (fun hp => hkeeps ?_) h
    rw [← hi.2]
    exact hp
  · exact h

lemma statesIn_globalEvent (htx : e ≠ .tx) (htx' : e ≠ .txLeaveAll) (hkeeps : Keeps Q e)
    (h : StatesIn p Q s) : StatesIn p Q (s.globalEvent e) := by
  refine foldl_keeps (fun s i h => ?_) s.order h
  split_ifs with hi
  · exact statesIn_updateState htx htx' 0 (Or.inl hi.1) (fun _ => hkeeps) h
  · exact h

/-- One attribute in `attribute_type_event`. -/
def typeEventAt (type : MrpAttributeType) (e : MrpEvent) (s : SrpState a t v) (i : Fin a) :
    SrpState a t v :=
  if (s.attrs i).applicantState.Begun ∧ (s.attrs i).attributeType = type then s.updateState e 0 i
  else s

lemma attributeTypeEvent_eq (e : MrpEvent) (s : SrpState a t v) :
    s.attributeTypeEvent type e = s.order.foldl (typeEventAt type e) s := rfl

variable {type : MrpAttributeType}

lemma attrs_typeEventAt_of_ne {e : MrpEvent} (htx : e ≠ .tx)
    (htx' : e ≠ .txLeaveAll) {l : Fin a} (hl : l ≠ i) (s : SrpState a t v) :
    (s.typeEventAt type e i).attrs l = s.attrs l := by
  unfold typeEventAt
  split_ifs
  · exact (attrs_updateState htx htx' 0 i s).2.2 l hl
  · rfl

lemma leftObserver_typeEventAt (h : StatesIn (· = type) Observes s)
    (hbegun : ((s.typeEventAt type .receiveLeaveAll i).attrs i).applicantState.Begun)
    (htype : ((s.typeEventAt type .receiveLeaveAll i).attrs i).attributeType = type) :
    LeftObserver ((s.typeEventAt type .receiveLeaveAll i).attrs i).applicantState := by
  unfold typeEventAt at hbegun htype ⊢
  split_ifs at hbegun htype ⊢ with hi
  · obtain ⟨-, hstate, -⟩ := attrs_updateState (e := .receiveLeaveAll) (by decide) (by decide) 0 i s
    rw [hstate]
    rcases h i hi.1 hi.2 with h | h <;> rw [h] <;> rfl
  · exact absurd ⟨hbegun, htype⟩ hi

/-- **LeaveAll.**  Behind a LeaveAll for a type, the observers of that type are in LO. -/
theorem statesIn_leaveAll (hlisted : ∀ i, i ∈ s.order)
    (h : StatesIn (· = type) Observes s) :
    StatesIn (· = type) LeftObserver (s.attributeTypeEvent type .receiveLeaveAll) := by
  rw [attributeTypeEvent_eq]
  -- the slots of the part of the list that has been worked off are in LO
  have hfold : ∀ (is : List (Fin a)) (s : SrpState a t v) (done : Fin a → Prop),
      StatesIn (· = type) Observes s →
      (∀ i, done i → (s.attrs i).applicantState.Begun → (s.attrs i).attributeType = type →
        LeftObserver (s.attrs i).applicantState) →
      ∀ s', s' = is.foldl (typeEventAt type .receiveLeaveAll) s →
      ∀ i, done i ∨ i ∈ is → (s'.attrs i).applicantState.Begun → (s'.attrs i).attributeType = type →
        LeftObserver (s'.attrs i).applicantState := by
    intro is
    induction is with
    | nil =>
      rintro s done - hdone _ rfl i hi
      exact hdone i (hi.resolve_right List.not_mem_nil)
    | cons x is ih =>
      rintro s done hs hdone _ rfl i hi
      refine ih (s.typeEventAt type .receiveLeaveAll x) (fun l => done l ∨ l = x) ?_ ?_ _ rfl i ?_
      · unfold typeEventAt
        split_ifs with hx
        · exact statesIn_updateState (by decide) (by decide) 0 (Or.inl hx.1)
            (fun _ => keeps_observes (by decide) (by decide)) hs
        · exact hs
      · intro l hl hbegun htype
        by_cases hlx : l = x
        · rw [hlx] at hbegun htype ⊢
          exact leftObserver_typeEventAt hs hbegun htype
        · rw [attrs_typeEventAt_of_ne (by decide) (by decide) hlx] at hbegun htype ⊢
          exact hdone l (hl.resolve_right hlx) hbegun htype
      · rcases hi with hi | hi
        · exact Or.inl (Or.inl hi)
        · rcases List.mem_cons.mp hi with hi | hi
          · exact Or.inl (Or.inr hi)
          · exact Or.inr hi
  intro i
  exact hfold s.order s (fun _ => False) h (fun _ hf => hf.elim) _ rfl i (Or.inr (hlisted i))

end

/-! ## Transmissions -/

section

variable {a t v : ℕ} {s : SrpState a t v} {p : MrpAttributeType → Prop}
  {Q : MrpApplicantState → Prop} {i : Fin a}

lemma statesIn_updateState_tx (hs : SrpSound s.view) {leaveAll : Bool}
    (hbegun : (s.attrs i).applicantState.Begun) (hkeeps : p (s.attrs i).attributeType →
      ∀ x : MrpAttribute, Q x.applicantState → Q (applicantAfterTx leaveAll x))
    (h : StatesIn p Q s) : StatesIn p Q (s.updateState (txEvent leaveAll) 0 i) := by
  intro l hl hp
  by_cases htx : transmits leaveAll (s.attrs i).applicantState = true ∧
      (s.attrs i).removeAfterNextTx = true
  · obtain ⟨-, hunused, hothers⟩ := updateState_tx_removed hs htx.1 htx.2
    by_cases hli : l = i
    · rw [hli, hunused] at hl
      exact absurd rfl hl.1
    · rw [hothers l hli] at hl hp ⊢
      exact h l hl hp
  · obtain ⟨-, ⟨x, hx, hstate⟩, htype, hothers⟩ := updateState_tx_kept hbegun htx
    by_cases hli : l = i
    · rw [hli] at hl hp ⊢
      rw [htype] at hp
      rw [hstate]
      refine hkeeps hp x ?_
      rw [hx]
      exact h i hbegun hp
    · rw [hothers l hli] at hl hp ⊢
      exact h l hl hp

variable (type : MrpAttributeType) (leaveAll : Bool) (x : MrpAttribute)

lemma statesIn_attributeTypeEvent_tx (hs : SrpSound s.view)
    (hkeeps : p type → ∀ x : MrpAttribute, Q x.applicantState → Q (applicantAfterTx leaveAll x))
    (h : StatesIn p Q s) : StatesIn p Q (s.attributeTypeEvent type (txEvent leaveAll)) := by
  rw [attributeTypeEvent_eq]
  refine (foldl_keeps (P := fun s : SrpState a t v => SrpSound s.view ∧ StatesIn p Q s)
    (fun s i hsi => ?_) s.order ⟨hs, h⟩).2
  obtain ⟨hs, h⟩ := hsi
  unfold typeEventAt
  split_ifs with hi
  · constructor
    · by_cases htx : transmits leaveAll (s.attrs i).applicantState = true ∧
          (s.attrs i).removeAfterNextTx = true
      · exact (updateState_tx_removed hs htx.1 htx.2).1.srpSound hs ((view_flagged s i).trans htx.2)
      · rw [(updateState_tx_kept hi.1 htx).1]
        exact hs
    · refine statesIn_updateState_tx hs hi.1 (fun hp => hkeeps ?_) h
      rw [← hi.2]
      exact hp
  · exact ⟨hs, h⟩

lemma observes_afterTx (h : Observes x.applicantState) :
    Observes (applicantAfterTx leaveAll x) := by
  unfold applicantAfterTx
  cases leaveAll
  · rcases h with h | h <;> rw [h]
    · exact Or.inl rfl
    · exact Or.inl rfl
  · rcases h with h | h <;> rw [h]
    · exact Or.inr rfl
    · exact Or.inr rfl

lemma leftObserver_afterTxLeaveAll (h : LeftObserver x.applicantState) :
    LeftObserver (applicantAfterTx true x) := by
  unfold applicantAfterTx
  rw [show x.applicantState = .lo from h]
  rfl

def WaitsInLo (s : SrpState a t v) : Prop :=
  ∀ i, (s.attrs i).removeAfterNextTx = true → LeftObserver (s.attrs i).applicantState

structure TxPass (type : MrpAttributeType) (is : List (Fin a)) (s s' : SrpState a t v) : Prop where
  sound : SrpSound s'.view
  kept : ∀ l, (s'.attrs l).removeAfterNextTx = true → s'.attrs l = s.attrs l
  other : ∀ l, l ∈ is → (s'.attrs l).removeAfterNextTx = true → (s.attrs l).attributeType ≠ type

lemma WaitsInLo.of_kept {s' : SrpState a t v} (hlo : WaitsInLo s)
    (hkept : ∀ l, (s'.attrs l).removeAfterNextTx = true → s'.attrs l = s.attrs l) :
    WaitsInLo s' := by
  intro l hl
  have hsame := hkept l hl
  rw [hsame] at hl ⊢
  exact hlo l hl

lemma txPass_typeEventAt (hs : SrpSound s.view) (hlo : WaitsInLo s) (i : Fin a) :
    TxPass type [i] s (s.typeEventAt type .tx i) := by
  unfold typeEventAt
  split_ifs with hi
  · by_cases hflag : (s.attrs i).removeAfterNextTx = true
    · have htx : transmits false (s.attrs i).applicantState = true := by
        rw [show (s.attrs i).applicantState = .lo from hlo i hflag]
        rfl
      obtain ⟨hremoved, -, hothers⟩ := updateState_tx_removed hs htx hflag
      have hclear : ((s.updateState (txEvent false) 0 i).attrs i).removeAfterNextTx = false := by
        rw [← view_flagged, hremoved.slots_self]
        rfl
      refine ⟨hremoved.srpSound hs ((view_flagged s i).trans hflag),
        fun l hl => ?_, fun l hli hl => ?_⟩
      · refine hothers l ?_
        rintro rfl
        rw [show ((s.updateState .tx 0 l).attrs l).removeAfterNextTx = false from hclear] at hl
        cases hl
      · rw [List.mem_singleton.mp hli,
          show ((s.updateState .tx 0 i).attrs i).removeAfterNextTx = false from hclear] at hl
        cases hl
    · have hno : ¬ (transmits false (s.attrs i).applicantState = true ∧
          (s.attrs i).removeAfterNextTx = true) := fun h => hflag h.2
      obtain ⟨hview, -, -, hothers⟩ := updateState_tx_kept hi.1 hno
      have hclear : ((s.updateState .tx 0 i).attrs i).removeAfterNextTx ≠ true := by
        rw [← view_flagged, show (s.updateState .tx 0 i).view = s.view from hview, view_flagged]
        exact hflag
      refine ⟨?_, fun l hl => ?_, fun l hli hl => ?_⟩
      · rw [show (s.updateState .tx 0 i).view = s.view from hview]
        exact hs
      · refine hothers l ?_
        rintro rfl
        exact hclear hl
      · rw [List.mem_singleton.mp hli] at hl
        exact absurd hl hclear
  · refine ⟨hs, fun _ _ => rfl, fun l hli hl htype => hi ?_⟩
    rw [List.mem_singleton.mp hli] at hl htype
    have hkind := (flagged_attr hs hl).1
    have hbegun := hs.begun i (Or.inl hkind)
    rw [view_slots, attrView_of_stream (attrKind_of_isStream (Or.inl hkind))] at hbegun
    exact ⟨of_decide_eq_true hbegun, htype⟩

lemma txPass_foldl (is : List (Fin a)) (hs : SrpSound s.view) (hlo : WaitsInLo s) :
    TxPass type is s (is.foldl (typeEventAt type .tx) s) := by
  induction is generalizing s with
  | nil => exact ⟨hs, fun _ _ => rfl, fun l hl => absurd hl List.not_mem_nil⟩
  | cons i is ih =>
    have hfirst := txPass_typeEventAt type hs hlo i
    have hrest := ih hfirst.sound (hlo.of_kept hfirst.kept)
    rw [List.foldl_cons]
    -- a slot that waits at the end waited in between, and was not changed at all
    have hmid : ∀ l, ((is.foldl (typeEventAt type .tx)
        (s.typeEventAt type .tx i)).attrs l).removeAfterNextTx = true →
        ((s.typeEventAt type .tx i).attrs l).removeAfterNextTx = true := by
      intro l hl
      rw [← hrest.kept l hl]
      exact hl
    refine ⟨hrest.sound, fun l hl => ?_, fun l hli hl => ?_⟩
    · exact (hrest.kept l hl).trans (hfirst.kept l (hmid l hl))
    · rcases List.mem_cons.mp hli with hli | hli
      · exact hfirst.other l (List.mem_singleton.mpr hli) (hmid l hl)
      · rw [← hfirst.kept l (hmid l hl)]
        exact hrest.other l hli hl

/-- **The end of the wait.**  At a transmit opportunity of MSRP without LeaveAll, every slot
that waits for it is removed. -/
theorem none_waits_msrpTypesEvent (hs : SrpSound s.view) (hlo : WaitsInLo s) (i : Fin a) :
    ((s.msrpTypesEvent .tx).attrs i).removeAfterNextTx = false := by
  have h₁ := txPass_foldl .talkerAdvertise s.order hs hlo
  rw [← attributeTypeEvent_eq] at h₁
  have hlo₁ := hlo.of_kept h₁.kept
  have h₂ := txPass_foldl .talkerFailed (s.attributeTypeEvent .talkerAdvertise .tx).order
    h₁.sound hlo₁
  rw [← attributeTypeEvent_eq] at h₂
  have hlo₂ := hlo₁.of_kept h₂.kept
  have h₃ := txPass_foldl .listener
    ((s.attributeTypeEvent .talkerAdvertise .tx).attributeTypeEvent .talkerFailed .tx).order
    h₂.sound hlo₂
  rw [← attributeTypeEvent_eq] at h₃
  have h₄ := txPass_foldl .domainVector
    (((s.attributeTypeEvent .talkerAdvertise .tx).attributeTypeEvent
      .talkerFailed .tx).attributeTypeEvent
      .listener .tx).order h₃.sound (hlo₂.of_kept h₃.kept)
  rw [← attributeTypeEvent_eq] at h₄
  cases hflag : ((s.msrpTypesEvent .tx).attrs i).removeAfterNextTx with
  | false => rfl
  | true =>
    exfalso
    unfold msrpTypesEvent at hflag
    have hflag₃ := hflag
    rw [h₄.kept i hflag] at hflag₃
    have hflag₂ := hflag₃
    rw [h₃.kept i hflag₃] at hflag₂
    have hflag₁ := hflag₂
    rw [h₂.kept i hflag₂] at hflag₁
    have hadvertise := h₁.other i (hs.listed i) hflag₁
    have hfailed := h₂.other i (h₁.sound.listed i) hflag₂
    rw [h₁.kept i hflag₁] at hfailed hflag₁
    rcases (flagged_attr hs hflag₁).2.2.1 with htype | htype
    · exact hadvertise htype
    · exact hfailed htype

end

/-! ## Requests, packets and the periodic function -/

section

variable {a t v : ℕ} {s : SrpState a t v} {p : MrpAttributeType → Prop}
  {Q : MrpApplicantState → Prop} {i : Fin a} {id : StreamId}

/-- The begun talkers are in `Q`. -/
abbrev TalkersIn (Q : MrpApplicantState → Prop) (s : SrpState a t v) : Prop :=
  StatesIn MrpAttributeType.IsTalker Q s

lemma talkersIn_request {x : MrpAttribute} {r : Option MadRequest} (h : TalkersIn Q s)
    (htype : ¬ x.attributeType.IsTalker) : TalkersIn Q ((s.setAttr i x).setRequest i r) :=
  statesIn_setAttr h fun _ hx => absurd hx htype

lemma type_mrpMadBegin (x : MrpAttribute) : (mrpMadBegin x).attributeType = x.attributeType :=
  (mrpUpdateState_frame 0 0 (e := .begin) (by decide) (by decide) _).1

lemma type_mrpMadJoin (x : MrpAttribute) : (mrpMadJoin true x).attributeType = x.attributeType :=
  (mrpUpdateState_frame 0 0 (e := .new) (by decide) (by decide) _).1

lemma type_mrpMadLeave (x : MrpAttribute) : (mrpMadLeave x).attributeType = x.attributeType :=
  (mrpUpdateState_frame 0 0 (e := .lv) (by decide) (by decide) _).1

lemma talkersIn_madBegin (h : TalkersIn Q s) (htype : ¬ (s.attrs i).attributeType.IsTalker) :
    TalkersIn Q (s.madBegin i) := by
  refine talkersIn_request h ?_
  rw [type_mrpMadBegin]
  exact htype

lemma talkersIn_madJoin (h : TalkersIn Q s) (htype : ¬ (s.attrs i).attributeType.IsTalker) :
    TalkersIn Q (s.madJoin true i) := by
  refine talkersIn_request h ?_
  rw [type_mrpMadJoin]
  exact htype

lemma talkersIn_madLeave (h : TalkersIn Q s) (htype : ¬ (s.attrs i).attributeType.IsTalker) :
    TalkersIn Q (s.madLeave i) := by
  refine talkersIn_request h ?_
  rw [type_mrpMadLeave]
  exact htype

lemma not_isTalker_of_kind (hkind : (s.view.slots i).kind ≠ .talker)
    (hused : (s.view.slots i).kind ≠ .unused) : ¬ (s.attrs i).attributeType.IsTalker := by
  intro htype
  have hslot : (s.view.slots i).kind = attrKind (s.attrs i) := attrView_kind _ _
  rw [hslot] at hkind hused
  have hstate : (s.attrs i).applicantState ≠ .unused :=
    fun h => hused (attrKind_eq_unused_iff.mpr h)
  rw [attrKind_of_used hstate] at hkind
  exact hkind (typeKind_eq_talker_iff.mpr htype)

variable {x : Reader a t v} {seen : Bool × Bool} {type : MrpAttributeType}

lemma not_isTalker_of_other (h : (s.view.slots i).kind = .other type) :
    ¬ (s.attrs i).attributeType.IsTalker := by
  refine not_isTalker_of_kind ?_ ?_ <;> rw [h] <;> exact SlotKind.noConfusion

lemma not_isTalker_of_listener (h : (s.view.slots i).kind = .listener) :
    ¬ (s.attrs i).attributeType.IsTalker := by
  refine not_isTalker_of_kind ?_ ?_ <;> rw [h] <;> exact SlotKind.noConfusion

lemma talkersIn_declare (h : TalkersIn Q s) (htype : ¬ (s.attrs i).attributeType.IsTalker) :
    TalkersIn Q ((s.madBegin i).madJoin true i) := by
  have hself : (s.madBegin i).attrs i = mrpMadBegin (s.attrs i) := attrs_setAttr_self i _ s
  refine talkersIn_madJoin (talkersIn_madBegin h htype) ?_
  rw [hself, type_mrpMadBegin]
  exact htype

lemma talkersIn_joinVlan (hslots : VlanSlots s.view) (h : TalkersIn Q s) (vlan : ℕ) :
    TalkersIn Q (s.joinVlan vlan) := by
  unfold joinVlan
  split
  · rename_i k hk
    exact talkersIn_declare (statesIn_congr h rfl) (not_isTalker_of_other (hslots k).1)
  · exact h

lemma talkersIn_leaveVlan (hs : SrpSound s.view) (h : TalkersIn Q s) (vlan : ℕ) :
    TalkersIn Q (s.leaveVlan vlan) := by
  unfold leaveVlan
  split
  · rename_i k hk
    exact statesIn_congr (talkersIn_madLeave h (not_isTalker_of_other (hs.vlan k))) rfl
  · exact h

lemma talkersIn_domainJoin (hs : SrpSound s.view) (h : TalkersIn Q s) : TalkersIn Q s.domainJoin :=
  talkersIn_declare h (not_isTalker_of_other hs.domain)

lemma talkersIn_getAttr (h : TalkersIn Q s) (i : Fin a) :
    TalkersIn Q (s.setAttr i { s.attrs i with applicantState := .disabled }) :=
  statesIn_setAttr h fun hbegun => absurd rfl hbegun.2

lemma talkersIn_begin (h : TalkersIn Observes s) (type : MrpAttributeType) (here : Bool)
    (info : AttributeInfo) :
    TalkersIn Observes ((s.attributeInit i type here info).madBegin i) := by
  rw [attributeInit_madBegin]
  refine statesIn_setAttr h fun _ _ => Or.inl ?_
  exact (mrpUpdateState_frame 0 0 (e := .begin) (by decide) (by decide) _).2.1

lemma talkersIn_beginAttr (h : TalkersIn Observes s) (type : MrpAttributeType) (here : Bool)
    (info : AttributeInfo) : TalkersIn Observes (s.beginAttr type here info).2 := by
  unfold beginAttr
  rcases getAttr_cases s with ⟨i, hget, -⟩ | ⟨hget, -⟩
  · rw [hget]
    exact talkersIn_begin (talkersIn_getAttr h i) type here info
  · rw [hget]
    exact statesIn_congr h rfl

lemma talkersIn_joinListener (hs : SrpSound s.view) (h : TalkersIn Observes s) (id : StreamId)
    (entry vid : ℕ) : TalkersIn Observes (s.joinListener id entry vid) := by
  have hvlan := view_joinVlan (vlanSlots_of_sound hs) vid
  have hjoin := talkersIn_joinVlan (vlanSlots_of_sound hs) h vid
  have hs' : SrpSound (s.joinVlan vid).view := by
    rw [hvlan]
    exact hs
  unfold joinListener
  cases hmatch : s.matchTypeNonPropAttribute .listener id with
  | some l =>
    have hl : s.view.IsOf .listener id l := matchTypeNonPropAttribute_some (Or.inr rfl) hmatch
    refine talkersIn_madJoin hjoin (not_isTalker_of_listener ?_)
    rw [hvlan]
    exact hl.1
  | none =>
    have hbegin := talkersIn_beginAttr hjoin .listener true (.stream entry)
    dsimp only
    have htype : IsStreamType .listener := Or.inr rfl
    rcases beginAttr_cases hs' htype true (.stream entry) with
      ⟨i, s', heq, -, hview⟩ | ⟨s', heq, -, -⟩
    · rw [heq] at hbegin ⊢
      refine talkersIn_madJoin hbegin (not_isTalker_of_listener ?_)
      rw [hview, SrpView.slots_setSlot_self]
      rfl
    · rw [heq] at hbegin ⊢
      exact hbegin

lemma talkersIn_joinListenerOfTalker (hs : SrpSound s.view) (h : TalkersIn Observes s)
    (hi : s.view.IsOf .talker id i) (vid : ℕ) :
    TalkersIn Observes (s.joinListenerOfTalker i vid) := by
  unfold joinListenerOfTalker
  cases hmatch : s.matchAttributePairByStreamId (s.attrs i) false with
  | some l =>
    refine talkersIn_madJoin (talkersIn_joinVlan (vlanSlots_of_sound hs) h vid)
      (not_isTalker_of_listener ?_)
    rw [view_joinVlan (vlanSlots_of_sound hs) vid]
    exact (matchPair_some hi hmatch).1
  | none =>
    rcases getAttr_cases s with ⟨f, hget, hfree⟩ | ⟨hget, -⟩
    · rw [hget]
      dsimp only
      have hjoin := talkersIn_joinVlan (vlanSlots_getAttr hs hfree) (talkersIn_getAttr h f) vid
      generalize ((((s.setAttr f { s.attrs f with applicantState := .disabled }).joinVlan vid).attrs
        i).attributeInfo) = info
      have hbegin := talkersIn_begin (i := f) hjoin .listener true info
      have hview := view_listenerInit hs hfree vid info
      generalize (((s.setAttr f { s.attrs f with applicantState := .disabled }).joinVlan
        vid).attributeInit f .listener true info).madBegin f = s₂ at hbegin hview ⊢
      have hslots : VlanSlots s₂.view := by
        rw [hview]
        exact (vlanSlots_of_sound hs).setSlot hfree _
      refine talkersIn_madJoin (talkersIn_joinVlan hslots hbegin vid) (not_isTalker_of_listener ?_)
      rw [view_joinVlan hslots vid, hview, SrpView.slots_setSlot_self]
      rfl
    · rw [hget]
      exact statesIn_congr h rfl

lemma attrs_addReservationEntryStreamIdOnly (id : StreamId) (s : SrpState a t v) :
    (s.addReservationEntryStreamIdOnly id).2.attrs = s.attrs := by
  unfold addReservationEntryStreamIdOnly
  split <;> rfl

lemma talkersIn_joinListenerAttrs (hs : SrpSound s.view) (h : TalkersIn Observes s)
    (hid : id ≠ (0, 0)) (vlan : ℕ) : TalkersIn Observes (s.joinListenerAttrs id vlan) := by
  unfold joinListenerAttrs
  cases hadvertise : s.matchTypeNonPropAttribute .talkerAdvertise id with
  | some i =>
    exact talkersIn_joinListenerOfTalker hs h
      (matchTypeNonPropAttribute_some (Or.inl (Or.inl rfl)) hadvertise) _
  | none =>
    split_ifs
    · unfold joinListenerAlone
      rcases addReservationEntryStreamIdOnly_cases id s with
        ⟨j, s₁, heq, -, hentry, hview⟩ | ⟨s₁, heq, -, -⟩
      · have hattrs := attrs_addReservationEntryStreamIdOnly id s
        rw [heq] at hattrs
        have hs₁ : SrpSound s₁.view := by
          rw [hview]
          exact SrpView.srpSound_setId hs (hentry.imp_right And.left) hid
        rw [heq]
        exact talkersIn_beginAttr
          (talkersIn_joinListener hs₁ (statesIn_congr h hattrs) id j _) _ _ _
      · have hattrs := attrs_addReservationEntryStreamIdOnly id s
        rw [heq] at hattrs
        rw [heq]
        exact statesIn_congr h hattrs
    · exact h

lemma statesIn_removeAfterNextTx (h : StatesIn p Q s) (i : Fin a) :
    StatesIn p Q (s.removeAfterNextTx i) :=
  statesIn_setAttr h (h i)

lemma talkersIn_leaveListener (h : TalkersIn Q s) (id : StreamId) :
    TalkersIn Q (s.leaveListener id) := by
  unfold leaveListener
  split
  · rename_i i hmatch
    have hi : s.view.IsOf .listener id i := matchTypeNonPropAttribute_some (Or.inr rfl) hmatch
    refine talkersIn_madLeave (statesIn_setAttr h (h i)) ?_
    rw [attrs_setAttr_self]
    exact not_isTalker_of_listener hi.1
  · exact h

lemma talkersIn_leaveListenerAttrs (h : TalkersIn Q s) (id : StreamId) :
    TalkersIn Q (s.leaveListenerAttrs id) := by
  have hleave := talkersIn_leaveListener h id
  unfold leaveListenerAttrs
  split
  · exact statesIn_removeAfterNextTx hleave _
  · exact hleave

/-! ### Packets -/

lemma talkersIn_setType (htype : (s.attrs i).attributeType.IsTalker) (h : TalkersIn Q s)
    (type : MrpAttributeType) :
    TalkersIn Q (s.setAttr i { s.attrs i with attributeType := type }) :=
  statesIn_setAttr h fun hbegun _ => h i hbegun htype

lemma exists_type_matchTalkerFailure (i : Fin a) (j fv : ℕ) (failed : Bool) (x : Reader a t v) :
    ∃ type, (matchTalkerFailure i j fv failed x).srp.attrs =
      (x.srp.setAttr i { x.srp.attrs i with attributeType := type }).attrs := by
  unfold matchTalkerFailure
  cases failed
  · by_cases hfailed : (x.srp.table j).reservationFailed = true
    · rw [if_neg Bool.false_ne_true, if_pos hfailed]
      exact ⟨_, rfl⟩
    · rw [if_neg Bool.false_ne_true, if_neg hfailed]
      exact ⟨_, rfl⟩
  · rw [if_pos rfl]
    exact ⟨_, rfl⟩

lemma talkersIn_matchTalkerFailure {j fv : ℕ} {failed : Bool}
    (htype : (x.srp.attrs i).attributeType.IsTalker) (h : TalkersIn Q x.srp) :
    TalkersIn Q (matchTalkerFailure i j fv failed x).srp := by
  obtain ⟨type, hattrs⟩ := exists_type_matchTalkerFailure i j fv failed x
  exact statesIn_congr (talkersIn_setType htype h type) hattrs

lemma talkersIn_matchTalkerAdvertise {fv n : ℕ} {leaveAll failed : Bool}
    (htype : (x.srp.attrs i).attributeType.IsTalker) (h : TalkersIn Q x.srp) :
    TalkersIn Q (matchTalkerAdvertise i fv n leaveAll failed x).2.srp := by
  unfold matchTalkerAdvertise
  cases hinfo : (x.srp.attrs i).attributeInfo with
  | stream j =>
    dsimp only
    split_ifs
    · exact h
    · exact h
    · exact statesIn_setEntry h _ _
    · exact statesIn_congr (talkersIn_matchTalkerFailure htype h) attrs_matchTalkerReservation
  | _ => exact h

def MayMatch (type : MrpAttributeType) (x : MrpAttribute) : Prop :=
  x.attributeType = type ∨ x.attributeType.IsTalker ∧ type.IsTalker

lemma MayMatch.isTalker {x : MrpAttribute} (h : MayMatch type x) (htype : type.IsTalker) :
    x.attributeType.IsTalker := by
  rcases h with h | h
  · rw [h]
    exact htype
  · exact h.1

lemma matchAttribute_cases (type : MrpAttributeType) (i : Fin a) (fv n four : ℕ)
    (leaveAll : Bool) : matchAttributeOfSameType type i fv n four leaveAll x = (false, x) ∨
      (x.srp.attrs i).applicantState.Begun ∧ MayMatch type (x.srp.attrs i) ∧
        (type.IsTalker ∧ (∃ failed, matchAttributeOfSameType type i fv n four leaveAll x =
          matchTalkerAdvertise i fv n leaveAll failed x) ∨
        ¬ type.IsTalker ∧
          (matchAttributeOfSameType type i fv n four leaveAll x).2.srp.attrs = x.srp.attrs) := by
  unfold matchAttributeOfSameType
  by_cases hbegun : (x.srp.attrs i).applicantState.Begun
  swap
  · rw [if_pos hbegun]
    exact Or.inl rfl
  by_cases htype : (x.srp.attrs i).attributeType = type ∨
      (x.srp.attrs i).attributeType.IsTalker ∧ type.IsTalker
  swap
  · rw [if_neg (not_not.mpr hbegun), if_pos htype]
    exact Or.inl rfl
  rw [if_neg (not_not.mpr hbegun), if_neg (not_not.mpr htype)]
  refine Or.inr ⟨hbegun, htype, ?_⟩
  cases type with
  | talkerAdvertise => exact Or.inl ⟨Or.inl rfl, false, rfl⟩
  | talkerFailed => exact Or.inl ⟨Or.inr rfl, true, rfl⟩
  | domainVector =>
    refine Or.inr ⟨by decide, ?_⟩
    unfold matchDomain
    split_ifs <;> rfl
  | listener => exact Or.inr ⟨by decide, rfl⟩
  | macVector => exact Or.inr ⟨by decide, rfl⟩
  | vidVector => exact Or.inr ⟨by decide, rfl⟩

lemma mrpIn_ne_request (e : MrpAttributeEvent) : mrpIn e ≠ .new ∧ mrpIn e ≠ .join := by
  cases e <;> decide

lemma talkersIn_readValue (hs : SrpSound x.srp.view) (h : TalkersIn Observes x.srp)
    (type : MrpAttributeType) (fv n three four : ℕ) (leaveAll : Bool) (i : Fin a) :
    TalkersIn Observes (readValue type fv n three four leaveAll x i).srp := by
  have hframe := (matchAttributeOfSameType_frame hs type i fv n four leaveAll).2
  have hmatch :
      TalkersIn Observes (matchAttributeOfSameType type i fv n four leaveAll x).2.srp := by
    rcases matchAttribute_cases (x := x) type i fv n four leaveAll with
      heq | ⟨-, hmay, ⟨htype, failed, heq⟩ | ⟨-, hattrs⟩⟩
    · rw [heq]
      exact h
    · rw [heq]
      exact talkersIn_matchTalkerAdvertise (hmay.isTalker htype) h
    · exact statesIn_congr h hattrs
  obtain ⟨htx, htx'⟩ := mrpIn_ne_tx (threePackedEvent three)
  obtain ⟨hnew, hjoin⟩ := mrpIn_ne_request (threePackedEvent three)
  unfold readValue
  split
  · rename_i x' heq
    rw [heq] at hmatch hframe
    exact statesIn_updateState htx htx' four (Or.inl (hframe rfl))
      (fun _ => keeps_observes hnew hjoin) hmatch
  · rename_i x' heq
    rw [heq] at hmatch
    exact hmatch

lemma statesIn_readValue (htype : ¬ type.IsTalker) (hp : ∀ type, p type → type.IsTalker)
    (h : StatesIn p Q x.srp) (fv n three four : ℕ) (leaveAll : Bool) (i : Fin a) :
    StatesIn p Q (readValue type fv n three four leaveAll x i).srp := by
  obtain ⟨htx, htx'⟩ := mrpIn_ne_tx (threePackedEvent three)
  unfold readValue
  rcases matchAttribute_cases (x := x) type i fv n four leaveAll with
    heq | ⟨hbegun, hmay, ⟨htalker, -⟩ | ⟨-, hattrs⟩⟩
  · rw [heq]
    exact h
  · exact absurd htalker htype
  · split
    · rename_i x' heq
      rw [heq] at hattrs
      refine statesIn_updateState htx htx' four (Or.inl ?_) (fun hpi => ?_)
        (statesIn_congr h hattrs)
      · rw [hattrs]
        exact hbegun
      · rw [hattrs] at hpi
        rcases hmay with hmay | hmay
        · rw [hmay] at hpi
          exact absurd (hp _ hpi) htype
        · exact absurd hmay.2 htype
    · rename_i x' heq
      rw [heq] at hattrs
      exact statesIn_congr h hattrs

def seenVisit (seen : Bool × Bool) : MrpVisit → Bool × Bool
  | .leaveAll (some .talkerAdvertise) => (true, seen.2)
  | .leaveAll (some .talkerFailed) => (seen.1, true)
  | .value (some .talkerAdvertise) _ _ _ _ _ => (false, false)
  | .value (some .talkerFailed) _ _ _ _ _ => (false, false)
  | _ => seen

def watchVisit (w : Reader a t v × Bool × Bool) (x : MrpVisit) : Reader a t v × Bool × Bool :=
  (readVisit w.1 x, seenVisit w.2 x)

def seenFrame (frame : Mem) (nbytes : ℕ) (seen : Bool × Bool) (s : SrpState a t v) : Bool × Bool :=
  let size := if frame 13 = 0x18 then 18 else 14
  match controlEthertype frame with
  | some etype =>
    (mrpWalk (fun w => w.1.pkt) watchVisit etype (nbytes - size)
      (⟨s, fun k => frame (size + k)⟩, seen)).2
  | none => seen

structure SeenSound (s : SrpState a t v) (seen : Bool × Bool) : Prop where
  sound : SrpSound s.view
  observes : TalkersIn Observes s
  advertise : seen.1 = true → StatesIn (· = .talkerAdvertise) LeftObserver s
  failed : seen.2 = true → StatesIn (· = .talkerFailed) LeftObserver s

lemma statesIn_of_talkersIn (h : TalkersIn Q s) (htype : type.IsTalker) :
    StatesIn (· = type) Q s := by
  rintro i hbegun rfl
  exact h i hbegun htype

lemma talkersIn_of_both (hadvertise : StatesIn (· = .talkerAdvertise) Q s)
    (hfailed : StatesIn (· = .talkerFailed) Q s) : TalkersIn Q s := by
  rintro i hbegun (htype | htype)
  · exact hadvertise i hbegun htype
  · exact hfailed i hbegun htype

lemma seenSound_leaveAll (h : SeenSound s seen) (type : MrpAttributeType) :
    SeenSound (s.attributeTypeEvent type .receiveLeaveAll)
      (seenVisit seen (.leaveAll (some type))) := by
  have hkeeps : ∀ p, StatesIn p LeftObserver s →
      StatesIn p LeftObserver (s.attributeTypeEvent type .receiveLeaveAll) := fun p hp =>
    statesIn_attributeTypeEvent type (by decide) (by decide)
      (fun _ => keeps_leftObserver (Or.inl rfl)) hp
  have hadvertise : seen.1 = true → StatesIn (· = .talkerAdvertise) LeftObserver
      (s.attributeTypeEvent type .receiveLeaveAll) := fun hseen => hkeeps _ (h.advertise hseen)
  have hfailed : seen.2 = true → StatesIn (· = .talkerFailed) LeftObserver
      (s.attributeTypeEvent type .receiveLeaveAll) := fun hseen => hkeeps _ (h.failed hseen)
  have hview := view_attributeTypeEvent type (e := .receiveLeaveAll) (by decide) (by decide) s
  refine ⟨by rw [hview]; exact h.sound, ?_, ?_, ?_⟩
  · exact statesIn_attributeTypeEvent type (by decide) (by decide)
      (fun _ => keeps_observes (by decide) (by decide)) h.observes
  · cases type with
    | talkerAdvertise =>
      intro _
      exact statesIn_leaveAll h.sound.listed (statesIn_of_talkersIn h.observes (Or.inl rfl))
    | _ => exact hadvertise
  · cases type with
    | talkerFailed =>
      intro _
      exact statesIn_leaveAll h.sound.listed (statesIn_of_talkersIn h.observes (Or.inr rfl))
    | _ => exact hfailed

lemma seenSound_value (h : SeenSound x.srp seen) (type : MrpAttributeType) (fv n three four : ℕ)
    (leaveAll : Bool) : SeenSound (readVisit x (.value (some type) fv n three four leaveAll)).srp
      (seenVisit seen (.value (some type) fv n three four leaveAll)) := by
  have hview := view_readVisit h.sound (.value (some type) fv n three four leaveAll)
  have hsound : SrpSound (readVisit x (.value (some type) fv n three four leaveAll)).srp.view := by
    rw [hview]
    exact h.sound
  have hobserves : TalkersIn Observes
      (readVisit x (.value (some type) fv n three four leaveAll)).srp := by
    show TalkersIn Observes ((List.finRange a).foldl _ x).srp
    generalize List.finRange a = is
    have hs := h.sound
    have hobserves := h.observes
    clear hview hsound h
    induction is generalizing x with
    | nil => exact hobserves
    | cons i is ih =>
      refine ih ?_ (talkersIn_readValue hs hobserves type fv n three four leaveAll i)
      rw [view_readValue hs]
      exact hs
  by_cases htype : type.IsTalker
  · have hclear : seenVisit seen (.value (some type) fv n three four leaveAll) =
        (false, false) := by
      rcases htype with rfl | rfl <;> rfl
    rw [hclear]
    exact ⟨hsound, hobserves, fun hseen => absurd hseen Bool.false_ne_true,
      fun hseen => absurd hseen Bool.false_ne_true⟩
  · have hsame : seenVisit seen (.value (some type) fv n three four leaveAll) = seen := by
      cases type with
      | talkerAdvertise => exact absurd (Or.inl rfl) htype
      | talkerFailed => exact absurd (Or.inr rfl) htype
      | _ => rfl
    have hkeeps : ∀ p : MrpAttributeType → Prop, (∀ type, p type → type.IsTalker) →
        StatesIn p LeftObserver x.srp →
        StatesIn p LeftObserver
          (readVisit x (.value (some type) fv n three four leaveAll)).srp := by
      intro p hp hstates
      show StatesIn p LeftObserver ((List.finRange a).foldl _ x).srp
      generalize List.finRange a = is
      clear hsame hobserves hsound hview h
      induction is generalizing x with
      | nil => exact hstates
      | cons i is ih => exact ih (statesIn_readValue htype hp hstates fv n three four leaveAll i)
    rw [hsame]
    refine ⟨hsound, hobserves, fun hseen => hkeeps _ ?_ (h.advertise hseen),
      fun hseen => hkeeps _ ?_ (h.failed hseen)⟩
    · rintro _ rfl
      exact Or.inl rfl
    · rintro _ rfl
      exact Or.inr rfl

lemma seenSound_visit {w : Reader a t v × Bool × Bool} (h : SeenSound w.1.srp w.2) (x : MrpVisit) :
    SeenSound (watchVisit w x).1.srp (watchVisit w x).2 := by
  cases x with
  | leaveAll type =>
    cases type with
    | none => exact h
    | some type => exact seenSound_leaveAll h type
  | value type fv n three four leaveAll =>
    cases type with
    | none => exact h
    | some type => exact seenSound_value h type fv n three four leaveAll

lemma seenSound_processControlPacket (h : SeenSound s seen) (frame : Mem) (nbytes : ℕ) :
    SeenSound (s.processControlPacket frame nbytes) (seenFrame frame nbytes seen s) := by
  unfold processControlPacket seenFrame
  cases controlEthertype frame with
  | none => exact h
  | some etype =>
    dsimp only
    generalize hlen : (nbytes - if frame 13 = 0x18 then 18 else 14) = len
    generalize hpkt : (fun k => frame ((if frame 13 = 0x18 then 18 else 14) + k)) = pkt
    have hwalk : SeenSound
        (mrpWalk (fun w => w.1.pkt) watchVisit etype len ((⟨s, pkt⟩ : Reader a t v), seen)).1.srp
        (mrpWalk (fun w => w.1.pkt) watchVisit etype len ((⟨s, pkt⟩ : Reader a t v), seen)).2 :=
      mrpWalk_invariant (P := fun w : Reader a t v × Bool × Bool => SeenSound w.1.srp w.2)
        (fun w x hw => seenSound_visit hw x) etype len h
    have hproject :
        (mrpWalk (fun w => w.1.pkt) watchVisit etype len ((⟨s, pkt⟩ : Reader a t v), seen)).1 =
          mrpWalk Reader.pkt readVisit etype len (⟨s, pkt⟩ : Reader a t v) :=
      mrpWalk_watched (f := fun w : Reader a t v × Bool × Bool => w.1) (fun _ _ => rfl) etype len _
    unfold processPacket
    rw [← hproject]
    exact hwalk

/-! ### The periodic function -/

lemma statesIn_pollAttr (h : StatesIn p Q s) (hkeeps : Keeps Q .leaveTimer) (i : Fin a) :
    StatesIn p Q (s.pollAttr i) := by
  have hset : StatesIn p Q (s.tick.setAttr i { s.attrs i with
      leaveTimer := (avbTimerExpired s.now (s.attrs i).leaveTimer).1 }) :=
    statesIn_setAttr (s := s.tick) h (h i)
  unfold pollAttr
  dsimp only
  split_ifs
  · exact statesIn_updateState (by decide) (by decide) 0 (Or.inr rfl) (fun _ => hkeeps) hset
  · exact hset

lemma statesIn_sendIndications (h : StatesIn p Q s) (i : Fin a) :
    StatesIn p Q (s.sendIndications i) := by
  obtain ⟨s', hind, heq⟩ := sendIndications_eq i s
  rw [heq]
  exact statesIn_setAttr (statesIn_congr h hind.attrs) (h i)

lemma talkersIn_convertTalker (hs : SrpSound s.view) (h : TalkersIn Q s)
    (hused : (s.attrs i).applicantState ≠ .unused) : TalkersIn Q (s.convertTalker i) := by
  have hhere : (s.attrs i).attributeType.IsTalker → ¬ (s.attrs i).here = true := by
    intro htype
    rw [here_of_talker hused hs htype]
    exact Bool.false_ne_true
  unfold convertTalker
  dsimp only
  split
  · rename_i j hj
    by_cases hadvertise :
        (s.attrs i).attributeType = .talkerAdvertise ∧ s.domain.boundaryPort = true
    · have htype : (s.attrs i).attributeType.IsTalker := Or.inl hadvertise.1
      rw [if_pos hadvertise, if_neg (hhere htype)]
      exact statesIn_setEntry (talkersIn_setType htype h _) _ _
    · rw [if_neg hadvertise]
      by_cases hfailed : (s.attrs i).attributeType = .talkerFailed ∧
        ¬ s.domain.boundaryPort = true ∧
          (s.table j).reservation.failureCode = 8
      · have htype : (s.attrs i).attributeType.IsTalker := Or.inr hfailed.1
        rw [if_pos hfailed, if_neg (hhere htype)]
        exact statesIn_setEntry (talkersIn_setType htype h _) _ _
      · rw [if_neg hfailed]
        exact h
  · exact h

lemma talkersIn_periodicAttrs (hs : SrpSound s.view) (h : TalkersIn Q s)
    (hkeeps : Keeps Q .leaveTimer) (is : List (Fin a)) : TalkersIn Q (is.foldl periodicAttr s) := by
  induction is generalizing s with
  | nil => exact h
  | cons i is ih =>
    have hview := view_periodicAttrs hs [i]
    refine ih (s := s.periodicAttr i) ?_ ?_
    · rw [show (s.periodicAttr i).view = s.view from hview]
      exact hs
    · unfold periodicAttr
      split_ifs with hused
      · exact h
      · refine statesIn_pollAttr (talkersIn_convertTalker ?_ (statesIn_sendIndications h i)
          (used_sendIndications hused)) hkeeps i
        rw [view_sendIndications]
        exact hs

/-- The LeaveAll timer of MSRP runs out in a call of `mrp_periodic`. -/
def LeaveAllExpires (s : SrpState a t v) : Prop :=
  (avbTimerExpired s.pollPeriodicTimer.now s.pollPeriodicTimer.msrpLeaveallTimer).2 = true
  deriving Decidable

/-- The state in which a call of `mrp_periodic` looks at the join timer. -/
def beforeJoin (s : SrpState a t v) : SrpState a t v :=
  s.pollPeriodicTimer.pollMsrpLeaveallTimer.pollMvrpLeaveallTimer

/-- A call of `mrp_periodic` gives a transmit opportunity without LeaveAll to MSRP. -/
def TransmitsMsrp (s : SrpState a t v) : Prop :=
  (avbTimerExpired s.beforeJoin.now s.beforeJoin.joinTimer).2 = true ∧
    s.beforeJoin.msrpLeaveallActive = false
  deriving Decidable

lemma statesIn_pollPeriodicTimer (h : StatesIn p Q s) (hkeeps : Keeps Q .periodic) :
    StatesIn p Q s.pollPeriodicTimer := by
  have hread : StatesIn p Q s.readPeriodicTimer := statesIn_congr h rfl
  unfold pollPeriodicTimer
  split_ifs
  · have hevent := statesIn_globalEvent (by decide) (by decide) hkeeps hread
    unfold startPeriodicTimer
    exact statesIn_congr hevent rfl
  · exact hread

lemma seenSound_msrpTypesEvent (h : SeenSound s seen) :
    SeenSound (s.msrpTypesEvent .receiveLeaveAll) (true, true) := by
  exact seenSound_leaveAll (seenSound_leaveAll (seenSound_leaveAll (seenSound_leaveAll h
    .talkerAdvertise) .talkerFailed) .listener) .domainVector

lemma statesIn_pollMvrpLeaveallTimer (h : StatesIn p Q s) (hkeeps : Keeps Q .receiveLeaveAll) :
    StatesIn p Q s.pollMvrpLeaveallTimer := by
  have hread : StatesIn p Q s.readMvrpLeaveallTimer := statesIn_congr h rfl
  unfold pollMvrpLeaveallTimer
  split_ifs
  · have hevent := statesIn_attributeTypeEvent .vidVector (by decide) (by decide)
      (fun _ => hkeeps) hread
    unfold startMvrpLeaveallTimer
    exact statesIn_congr hevent rfl
  · exact hread

lemma talkersIn_pollMsrpLeaveallTimer (hs : SrpSound s.view) (h : TalkersIn Observes s) :
    TalkersIn Observes s.pollMsrpLeaveallTimer ∧
      (TalkersIn LeftObserver s ∨ (avbTimerExpired s.now s.msrpLeaveallTimer).2 = true →
        TalkersIn LeftObserver s.pollMsrpLeaveallTimer) := by
  have hread : SeenSound s.readMsrpLeaveallTimer (false, false) :=
    ⟨hs, statesIn_congr h rfl, fun h => absurd h Bool.false_ne_true,
      fun h => absurd h Bool.false_ne_true⟩
  unfold pollMsrpLeaveallTimer
  split_ifs with hexpired
  · have hevent := seenSound_msrpTypesEvent hread
    unfold startMsrpLeaveallTimer
    refine ⟨statesIn_congr hevent.observes rfl, fun _ => ?_⟩
    exact statesIn_congr (talkersIn_of_both (hevent.advertise rfl) (hevent.failed rfl)) rfl
  · refine ⟨hread.observes, fun hleft => ?_⟩
    exact statesIn_congr (hleft.resolve_right hexpired) rfl

lemma talkersIn_beforeJoin (hs : SrpSound s.view) (h : TalkersIn Observes s) :
    TalkersIn Observes s.beforeJoin ∧
      (TalkersIn LeftObserver s ∨ s.LeaveAllExpires → TalkersIn LeftObserver s.beforeJoin) := by
  have hperiodic := statesIn_pollPeriodicTimer h (keeps_observes (by decide) (by decide))
  have hs₁ : SrpSound s.pollPeriodicTimer.view := by
    rw [view_pollPeriodicTimer]
    exact hs
  obtain ⟨hobserves, hleft⟩ := talkersIn_pollMsrpLeaveallTimer hs₁ hperiodic
  refine ⟨statesIn_pollMvrpLeaveallTimer hobserves (keeps_observes (by decide) (by decide)), ?_⟩
  intro hcase
  refine statesIn_pollMvrpLeaveallTimer (hleft ?_) (keeps_leftObserver (Or.inl rfl))
  rcases hcase with hcase | hcase
  · exact Or.inl (statesIn_pollPeriodicTimer hcase (keeps_leftObserver (Or.inr (Or.inl rfl))))
  · exact Or.inr hcase

lemma view_beforeJoin (s : SrpState a t v) : s.beforeJoin.view = s.view := by
  unfold beforeJoin
  rw [view_pollMvrpLeaveallTimer, view_pollMsrpLeaveallTimer, view_pollPeriodicTimer]

lemma talkersIn_transmitMvrp (hs : SrpSound s.view) (h : TalkersIn Q s) :
    TalkersIn Q s.transmitMvrp := by
  refine statesIn_congr
    (statesIn_attributeTypeEvent_tx .vidVector s.mvrpLeaveallActive ?_ ?_ ?_) rfl
  · dsimp only
    split_ifs <;> exact hs
  · rintro (htype | htype) <;> cases htype
  · dsimp only
    split_ifs <;> exact h

lemma talkersIn_msrpTypesEvent_tx (hs : SrpSound s.view) {leaveAll : Bool}
    (hkeeps : ∀ x : MrpAttribute, Q x.applicantState → Q (applicantAfterTx leaveAll x))
    (h : TalkersIn Q s) : TalkersIn Q (s.msrpTypesEvent (txEvent leaveAll)) := by
  have hs₁ := closed_srpSound.attributeTypeEvent .talkerAdvertise leaveAll hs
  have hs₂ := closed_srpSound.attributeTypeEvent .talkerFailed leaveAll hs₁
  have hs₃ := closed_srpSound.attributeTypeEvent .listener leaveAll hs₂
  exact statesIn_attributeTypeEvent_tx _ leaveAll hs₃ (fun _ => hkeeps)
    (statesIn_attributeTypeEvent_tx _ leaveAll hs₂ (fun _ => hkeeps)
      (statesIn_attributeTypeEvent_tx _ leaveAll hs₁ (fun _ => hkeeps)
        (statesIn_attributeTypeEvent_tx _ leaveAll hs (fun _ => hkeeps) h)))

lemma msrpLeaveallActive_cleanupReservationEntry (i : Fin a) (s : SrpState a t v) :
    (s.cleanupReservationEntry i).msrpLeaveallActive = s.msrpLeaveallActive := by
  have hremove : ∀ (id : StreamId) (s : SrpState a t v),
      (s.removeReservationEntry id).msrpLeaveallActive = s.msrpLeaveallActive := by
    intro id s
    unfold removeReservationEntry
    split <;> rfl
  unfold cleanupReservationEntry
  extract_lets x s'
  have hmid : s'.msrpLeaveallActive = s.msrpLeaveallActive := by
    unfold s'
    split_ifs <;> rfl
  rw [← hmid]
  clear_value s'
  split_ifs
  · split
    · exact hremove _ s'
    · rfl
  · rfl

lemma msrpLeaveallActive_updateState_tx (leaveAll : Bool) (i : Fin a) (s : SrpState a t v) :
    (s.updateState (txEvent leaveAll) 0 i).msrpLeaveallActive = s.msrpLeaveallActive := by
  have hdoTx : ∀ (event : MrpAttributeEvent) (s : SrpState a t v),
      (s.doTx i event).msrpLeaveallActive = s.msrpLeaveallActive := by
    intro event s
    unfold doTx
    dsimp only
    split_ifs
    · exact msrpLeaveallActive_cleanupReservationEntry i _
    · rfl
  rw [updateState_tx]
  unfold transmitAttr
  dsimp only
  split_ifs
  · exact hdoTx _ _
  · rfl

lemma msrpLeaveallActive_transmitMvrp (s : SrpState a t v) :
    s.transmitMvrp.msrpLeaveallActive = s.msrpLeaveallActive := by
  have hevent : ∀ (leaveAll : Bool) (s : SrpState a t v),
      (s.attributeTypeEvent .vidVector (txEvent leaveAll)).msrpLeaveallActive =
        s.msrpLeaveallActive := by
    intro leaveAll s
    rw [attributeTypeEvent_eq]
    refine foldl_keeps (P := fun s' : SrpState a t v =>
      s'.msrpLeaveallActive = s.msrpLeaveallActive)
      (fun s' i h => ?_) s.order rfl
    unfold typeEventAt
    split_ifs
    · exact (msrpLeaveallActive_updateState_tx leaveAll i s').trans h
    · exact h
  refine (hevent s.mvrpLeaveallActive _).trans ?_
  split_ifs <;> rfl

def beforeMsrp (s : SrpState a t v) : SrpState a t v :=
  s.readJoinTimer.startJoinTimer.sortAttrs.transmitMvrp

lemma view_sorted (s : SrpState a t v) :
    s.readJoinTimer.startJoinTimer.sortAttrs.view = s.view := by
  rw [view_sortAttrs]
  unfold startJoinTimer
  exact view_congr rfl rfl rfl rfl rfl rfl rfl

lemma srpSound_beforeMsrp (hs : SrpSound s.view) : SrpSound s.beforeMsrp.view := by
  refine closed_srpSound.transmitMvrp ?_
  rw [view_sorted]
  exact hs

lemma talkersIn_beforeMsrp (hs : SrpSound s.view) (h : TalkersIn Q s) :
    TalkersIn Q s.beforeMsrp := by
  refine talkersIn_transmitMvrp ?_ ?_
  · rw [view_sorted]
    exact hs
  · unfold startJoinTimer
    exact statesIn_congr h rfl

lemma msrpLeaveallActive_beforeMsrp (s : SrpState a t v) :
    s.beforeMsrp.msrpLeaveallActive = s.msrpLeaveallActive := by
  unfold beforeMsrp
  rw [msrpLeaveallActive_transmitMvrp]
  unfold startJoinTimer
  rfl

lemma transmitMsrp_attrs (s : SrpState a t v) :
    ∃ s' : SrpState a t v, s'.view = s.view ∧ s'.attrs = s.attrs ∧
      s.transmitMsrp = (s'.msrpTypesEvent (txEvent s.msrpLeaveallActive)).flush := by
  unfold transmitMsrp
  dsimp only
  split_ifs
  · refine ⟨_, ?_, ?_, rfl⟩
    · exact view_congr rfl rfl rfl rfl rfl rfl rfl
    · rfl
  · refine ⟨_, ?_, ?_, rfl⟩
    · exact view_congr rfl rfl rfl rfl rfl rfl rfl
    · rfl

lemma talkersIn_pollJoinTimer (hs : SrpSound s.view) (h : TalkersIn Q s)
    (hkeeps : (avbTimerExpired s.now s.joinTimer).2 = true →
      ∀ x : MrpAttribute, Q x.applicantState → Q (applicantAfterTx s.msrpLeaveallActive x)) :
    TalkersIn Q s.pollJoinTimer := by
  unfold pollJoinTimer
  split_ifs with hexpired
  · obtain ⟨s', hview, hattrs, heq⟩ := transmitMsrp_attrs s.beforeMsrp
    rw [msrpLeaveallActive_beforeMsrp] at heq
    show TalkersIn Q s.beforeMsrp.transmitMsrp
    rw [heq]
    refine statesIn_congr (talkersIn_msrpTypesEvent_tx ?_ (hkeeps hexpired)
      (statesIn_congr (talkersIn_beforeMsrp hs h) hattrs)) rfl
    rw [hview]
    exact srpSound_beforeMsrp hs
  · exact statesIn_congr h rfl

lemma waitsInLo_of_talkersIn (hs : SrpSound s.view) (h : TalkersIn LeftObserver s) :
    WaitsInLo s := by
  intro i hflag
  obtain ⟨hkind, -, htype, -⟩ := flagged_attr hs hflag
  have hbegun := hs.begun i (Or.inl hkind)
  rw [view_slots, attrView_of_stream (attrKind_of_isStream (Or.inl hkind))] at hbegun
  exact h i (of_decide_eq_true hbegun) htype

lemma none_waits_pollJoinTimer (hs : SrpSound s.view) (h : TalkersIn LeftObserver s)
    (hexpired : (avbTimerExpired s.now s.joinTimer).2 = true)
    (hactive : s.msrpLeaveallActive = false) (i : Fin a) :
    (s.pollJoinTimer.view.slots i).flagged = false := by
  obtain ⟨s', hview, hattrs, heq⟩ := transmitMsrp_attrs s.beforeMsrp
  rw [msrpLeaveallActive_beforeMsrp, hactive] at heq
  have hs' : SrpSound s'.view := by
    rw [hview]
    exact srpSound_beforeMsrp hs
  have hnone := none_waits_msrpTypesEvent hs'
    (waitsInLo_of_talkersIn hs' (statesIn_congr (talkersIn_beforeMsrp hs h) hattrs)) i
  unfold pollJoinTimer
  rw [if_pos hexpired, view_flagged]
  show (s.beforeMsrp.transmitMsrp.attrs i).removeAfterNextTx = false
  rw [heq]
  exact hnone

lemma talkersIn_periodic (hs : SrpSound s.view) (h : TalkersIn Observes s) :
    TalkersIn Observes s.periodic ∧
      (TalkersIn LeftObserver s ∨ s.LeaveAllExpires →
        if s.TransmitsMsrp then ∀ i, (s.periodic.view.slots i).flagged = false
        else TalkersIn LeftObserver s.periodic) := by
  obtain ⟨hobserves, hleft⟩ := talkersIn_beforeJoin hs h
  have hs' : SrpSound s.beforeJoin.view := by
    rw [view_beforeJoin]
    exact hs
  have hjoin : SrpSound s.beforeJoin.pollJoinTimer.view := closed_srpSound.pollJoinTimer hs'
  have hkeeps : Keeps LeftObserver .leaveTimer := keeps_leftObserver (Or.inr (Or.inr rfl))
  refine ⟨?_, fun hcase => ?_⟩
  · exact talkersIn_periodicAttrs hjoin
      (talkersIn_pollJoinTimer hs' hobserves fun _ => observes_afterTx _)
      (keeps_observes (by decide) (by decide)) _
  · split_ifs with htransmits
    · intro i
      have hview : s.periodic.view = s.beforeJoin.pollJoinTimer.view := view_periodicAttrs hjoin _
      rw [hview]
      exact none_waits_pollJoinTimer hs' (hleft hcase) htransmits.1 htransmits.2 i
    · refine talkersIn_periodicAttrs hjoin (talkersIn_pollJoinTimer hs' (hleft hcase) ?_) hkeeps _
      intro hexpired
      -- the opportunity is one with LeaveAll, which LO does not use
      have hactive : s.beforeJoin.msrpLeaveallActive = true := by
        cases hcase : s.beforeJoin.msrpLeaveallActive with
        | true => rfl
        | false => exact absurd ⟨hexpired, hcase⟩ htransmits
      rw [hactive]
      exact leftObserver_afterTxLeaveAll

end

end SrpState
