/-
# What the requests of a listener do to the pool

A request to attach to a stream joins a Listener attribute, which is found or made, and
makes a Talker attribute if there is none; a request to detach leaves the Listener
attribute and lets the Talker attribute wait for its removal.  Here this is said of the
view of the task, and with it that the pool is sound in every run of a device that only
listens.
-/
import LibTsn.SrpView

open Function (update update_eq_self update_idem update_of_ne update_self)

/-! ## Changes of the view -/

namespace SlotView

def begin (kind : SlotKind) (here : Bool) (info : AttributeInfo) : SlotView :=
  ⟨kind, false, true, here, info, none⟩

def join (x : SlotView) : SlotView :=
  { x with flagged := false, begun := true, request := some .new }

def leave (x : SlotView) : SlotView := { x with here := false, request := some .leave }

def remove (x : SlotView) : SlotView := { x with here := false, flagged := true }

end SlotView

namespace SrpView

variable {a t v : ℕ}

def exhaust (V : SrpView a t v) : SrpView a t v := { V with exhausted := true }

def IsOf (V : SrpView a t v) (kind : SlotKind) (id : StreamId) (i : Fin a) : Prop :=
  (V.slots i).kind = kind ∧ V.streamOf i = some id

inductive Begins (x : SlotView) (V : SrpView a t v) : SrpView a t v → Prop where
  | slot (i : Fin a) (hfree : (V.slots i).kind = .unused) : Begins x V (V.setSlot i x)
  | full (hfull : ∀ i, (V.slots i).kind ≠ .unused) : Begins x V V.exhaust

inductive JoinsListener (id : StreamId) (info : AttributeInfo) (V : SrpView a t v) :
    SrpView a t v → Prop where
  | found (l : Fin a) (hl : V.IsOf .listener id l) :
      JoinsListener id info V (V.setSlot l (V.slots l).join)
  | made (V' : SrpView a t v) (hnone : ∀ l, ¬ V.IsOf .listener id l)
      (h : Begins (SlotView.begin .listener true info).join V V') : JoinsListener id info V V'

/-- **Attach.**  With a talker in the pool its listener is joined, or nothing is done at all;
without one the stream gets an entry, a listener and a talker, as far as there is room. -/
inductive Attaches (id : StreamId) (V : SrpView a t v) : SrpView a t v → Prop where
  | advertised (i : Fin a) (hi : V.IsOf .talker id i) (V' : SrpView a t v)
      (h : JoinsListener id (V.slots i).info V V') : Attaches id V V'
  | failed (i : Fin a) (hi : V.IsOf .talker id i) : Attaches id V V
  | noEntry (hnone : ∀ l, ¬ V.IsOf .talker id l)
      (hfull : ∀ j, j < t → V.ids j ≠ id ∧ V.ids j ≠ (0, 0)) :
      Attaches id V V.exhaust
  | fresh (hnone : ∀ l, ¬ V.IsOf .talker id l) (j : ℕ) (hj : j < t)
      (hid : V.ids j = id ∨ V.ids j = (0, 0) ∧ ∀ l, l < t → V.ids l ≠ id) (V₁ V₂ : SrpView a t v)
      (hlistener : JoinsListener id (.stream j) (V.setId j id) V₁)
      (htalker : Begins (SlotView.begin .talker false (.stream j)) V₁ V₂) : Attaches id V V₂

inductive LeavesListener (id : StreamId) (V : SrpView a t v) : SrpView a t v → Prop where
  | found (l : Fin a) (hl : V.IsOf .listener id l) :
      LeavesListener id V (V.setSlot l (V.slots l).leave)
  | none (hnone : ∀ l, ¬ V.IsOf .listener id l) : LeavesListener id V V

/-- **Detach.** -/
inductive Detaches (id : StreamId) (V : SrpView a t v) : SrpView a t v → Prop where
  | talker (V₁ : SrpView a t v) (h : LeavesListener id V V₁) (i : Fin a)
      (hi : V₁.IsOf .talker id i) :
      Detaches id V (V₁.setSlot i (V₁.slots i).remove)
  | none (V₁ : SrpView a t v) (h : LeavesListener id V V₁) (hnone : ∀ l, ¬ V₁.IsOf .talker id l) :
      Detaches id V V₁

/-! ## Soundness of the changes -/

section

variable {V V' : SrpView a t v} {i l : Fin a} {x : SlotView} {id : StreamId}

lemma slots_setSlot_self (i : Fin a) (x : SlotView) (V : SrpView a t v) :
    (V.setSlot i x).slots i = x := by
  unfold setSlot
  exact update_self i x V.slots

lemma slots_setSlot_of_ne (h : l ≠ i) (x : SlotView) (V : SrpView a t v) :
    (V.setSlot i x).slots l = V.slots l := by
  unfold setSlot
  exact update_of_ne h x V.slots

lemma ids_setId_self (j : ℕ) (id : StreamId) (V : SrpView a t v) : (V.setId j id).ids j = id := by
  unfold setId
  exact update_self j id V.ids

lemma streamOf_setSlot_of_ne (h : l ≠ i) (x : SlotView) (V : SrpView a t v) :
    (V.setSlot i x).streamOf l = V.streamOf l := by
  unfold streamOf
  rw [slots_setSlot_of_ne h]
  rfl

variable {j : ℕ} {info : AttributeInfo}

lemma streamOf_setSlot_self (h : x.info = .stream j) (i : Fin a) (V : SrpView a t v) :
    (V.setSlot i x).streamOf i = some (V.ids j) := by
  unfold streamOf
  rw [slots_setSlot_self, h]
  rfl

lemma streamOf_setSlot (h : x.info = (V.slots i).info) (l : Fin a) :
    (V.setSlot i x).streamOf l = V.streamOf l := by
  by_cases hl : l = i
  · unfold streamOf
    rw [hl, slots_setSlot_self, h]
    rfl
  · exact streamOf_setSlot_of_ne hl x V

lemma IsOf.isStream_talker (h : V.IsOf .talker id i) : V.IsStream i := Or.inl h.1

lemma IsOf.isStream_listener (h : V.IsOf .listener id i) : V.IsStream i := Or.inr h.1

structure SlotSound (V : SrpView a t v) (i : Fin a) (x : SlotView) : Prop where
  old : ∀ type, (V.slots i).kind ≠ .other type
  stream : x.kind = .talker ∨ x.kind = .listener
  flagged : x.flagged = true → x.kind = .talker
  begun : x.begun = true
  here : x.kind = .talker → x.here = false
  entry : ∃ j, j < t ∧ x.info = .stream j ∧ V.ids j ≠ (0, 0) ∧
    (x.kind = .talker → ∀ l, l ≠ i → ¬ V.IsOf .talker (V.ids j) l)

lemma SlotSound.of_same (hs : SrpSound V) (hi : V.IsStream i) (hkind : x.kind = (V.slots i).kind)
    (hinfo : x.info = (V.slots i).info) (hbegun : x.begun = true)
    (hflag : x.flagged = true → x.kind = .talker) (hhere : x.kind = .talker → x.here = false) :
    SlotSound V i x := by
  obtain ⟨j, hj, hstream, hid⟩ := hs.entry i hi
  refine ⟨?_, ?_, hflag, hbegun, hhere, j, hj, hinfo.trans hstream, hid, ?_⟩
  · intro type htype
    rcases hi with h | h <;> rw [h] at htype <;> cases htype
  · rw [hkind]
    exact hi
  · intro htalker l hl hof
    refine hl (hs.unique l i hof.1 (hkind.symm.trans htalker) ?_)
    rw [hof.2]
    unfold streamOf
    rw [hstream]

lemma SlotSound.set (hs : SrpSound V) (hx : SlotSound V i x) : SrpSound (V.setSlot i x) := by
  obtain ⟨j, hj, hinfo, hid, hunique⟩ := hx.entry
  have hself := slots_setSlot_self i x V
  have hother : ∀ l, l ≠ i → (V.setSlot i x).slots l = V.slots l :=
    fun l hl => slots_setSlot_of_ne hl x V
  have hstream : (V.setSlot i x).streamOf i = some (V.ids j) := streamOf_setSlot_self hinfo i V
  -- a slot of the domain or a VLAN is not the one that changes
  have hfixed : ∀ l type, (V.slots l).kind = .other type →
      ((V.setSlot i x).slots l).kind = .other type := by
    intro l type hl
    have hne : l ≠ i := by
      rintro rfl
      exact hx.old type hl
    rw [hother l hne]
    exact hl
  constructor
  · intro l hl
    by_cases h : l = i
    · rw [h, hself] at hl ⊢
      exact hx.flagged hl
    · rw [hother l h] at hl ⊢
      exact hs.flagged l hl
  · intro l hl
    unfold IsStream at hl
    by_cases h : l = i
    · rw [h, hself]
      exact hx.begun
    · rw [hother l h] at hl ⊢
      exact hs.begun l hl
  · intro l hl
    by_cases h : l = i
    · rw [h, hself] at hl ⊢
      exact hx.here hl
    · rw [hother l h] at hl ⊢
      exact hs.here l hl
  · intro l hl
    unfold IsStream at hl
    by_cases h : l = i
    · rw [h, hself]
      exact ⟨j, hj, hinfo, hid⟩
    · rw [hother l h] at hl ⊢
      exact hs.entry l hl
  · -- two talkers of a stream
    intro l m hl hm hsame
    by_cases hli : l = i
    · by_cases hmi : m = i
      · rw [hli, hmi]
      · exfalso
        rw [hli, hstream, streamOf_setSlot_of_ne hmi] at hsame
        rw [hli, hself] at hl
        rw [hother m hmi] at hm
        exact hunique hl m hmi ⟨hm, hsame.symm⟩
    · by_cases hmi : m = i
      · exfalso
        rw [hmi, hstream, streamOf_setSlot_of_ne hli] at hsame
        rw [hmi, hself] at hm
        rw [hother l hli] at hl
        exact hunique hm l hli ⟨hl, hsame⟩
      · rw [streamOf_setSlot_of_ne hli, streamOf_setSlot_of_ne hmi] at hsame
        rw [hother l hli] at hl
        rw [hother m hmi] at hm
        exact hs.unique l m hl hm hsame
  · exact hfixed _ _ hs.domain
  · exact fun k => hfixed _ _ (hs.vlan k)
  · exact hs.listed

lemma streamOf_setId (hs : SrpSound V) {j : ℕ} (hj : V.ids j = id ∨ V.ids j = (0, 0))
    (hl : V.IsStream l) : (V.setId j id).streamOf l = V.streamOf l := by
  obtain ⟨k, -, hinfo, hk⟩ := hs.entry l hl
  have hids : (V.setId j id).ids k = V.ids k := by
    show update V.ids j id k = V.ids k
    by_cases hkj : k = j
    · rw [hkj, update_self]
      rcases hj with h | h
      · exact h.symm
      · rw [hkj] at hk
        exact absurd h hk
    · rw [update_of_ne hkj]
  have hslot : ((V.setId j id).slots l).info = .stream k := hinfo
  unfold streamOf
  rw [hslot, hinfo]
  exact congrArg some hids

lemma isOf_setId_iff (hs : SrpSound V) {j : ℕ} (hj : V.ids j = id ∨ V.ids j = (0, 0))
    {kind : SlotKind} (hkind : kind = .talker ∨ kind = .listener) {id' : StreamId} :
    (V.setId j id).IsOf kind id' l ↔ V.IsOf kind id' l := by
  constructor
  · rintro ⟨h, hstream⟩
    have hl : V.IsStream l := by
      rcases hkind with rfl | rfl
      · exact Or.inl h
      · exact Or.inr h
    rw [streamOf_setId hs hj hl] at hstream
    exact ⟨h, hstream⟩
  · rintro ⟨h, hstream⟩
    have hl : V.IsStream l := by
      rcases hkind with rfl | rfl
      · exact Or.inl h
      · exact Or.inr h
    refine ⟨h, ?_⟩
    rw [streamOf_setId hs hj hl]
    exact hstream

lemma srpSound_setId (hs : SrpSound V) {j : ℕ} (hj : V.ids j = id ∨ V.ids j = (0, 0))
    (hid : id ≠ (0, 0)) : SrpSound (V.setId j id) := by
  refine ⟨hs.flagged, hs.begun, hs.here, ?_, ?_, hs.domain, hs.vlan, hs.listed⟩
  · intro l hl
    obtain ⟨k, hk, hinfo, hne⟩ := hs.entry l hl
    refine ⟨k, hk, hinfo, ?_⟩
    show update V.ids j id k ≠ (0, 0)
    by_cases hkj : k = j
    · rw [hkj, update_self]
      exact hid
    · rw [update_of_ne hkj]
      exact hne
  · intro l m hl hm hsame
    rw [streamOf_setId hs hj (Or.inl hl), streamOf_setId hs hj (Or.inl hm)] at hsame
    exact hs.unique l m hl hm hsame

lemma srpSound_exhausted (hs : SrpSound V) : SrpSound V.exhaust :=
  ⟨hs.flagged, hs.begun, hs.here, hs.entry, hs.unique, hs.domain, hs.vlan, hs.listed⟩

lemma srpSound_begins (hs : SrpSound V) (h : Begins x V V')
    (hx : ∀ i, (V.slots i).kind = .unused → SlotSound V i x) : SrpSound V' := by
  cases h with
  | slot i hfree => exact (hx i hfree).set hs
  | full => exact srpSound_exhausted hs

lemma SlotSound.join (hs : SrpSound V) (hl : V.IsStream l) : SlotSound V l (V.slots l).join :=
  .of_same hs hl rfl rfl rfl (fun h => absurd h Bool.false_ne_true) (hs.here l)

lemma SlotSound.leave (hs : SrpSound V) (hl : V.IsStream l) : SlotSound V l (V.slots l).leave :=
  .of_same hs hl rfl rfl (hs.begun l hl) (hs.flagged l) fun _ => rfl

lemma SlotSound.remove (hs : SrpSound V) (hl : V.IsOf .talker id l) :
    SlotSound V l (V.slots l).remove :=
  .of_same hs hl.isStream_talker rfl rfl (hs.begun l hl.isStream_talker)
    (fun _ => hl.1) fun _ => rfl

lemma SlotSound.newListener (hj : j < t) (hid : V.ids j ≠ (0, 0))
    (hfree : (V.slots i).kind = .unused) :
    SlotSound V i (SlotView.begin .listener true (.stream j)).join := by
  refine ⟨?_, Or.inr rfl, fun h => absurd h Bool.false_ne_true, rfl, ?_, j, hj, rfl, hid, ?_⟩
  rotate_left
  · intro h
    cases h
  · intro h
    cases h
  intro type htype
  rw [hfree] at htype
  cases htype

lemma SlotSound.newTalker (hj : j < t) (hid : V.ids j ≠ (0, 0))
    (hnone : ∀ l, ¬ V.IsOf .talker (V.ids j) l) (hfree : (V.slots i).kind = .unused) :
    SlotSound V i (SlotView.begin .talker false (.stream j)) := by
  refine ⟨?_, Or.inl rfl, fun h => absurd h Bool.false_ne_true, rfl, fun _ => rfl, j, hj, rfl, hid,
    fun _ l _ => hnone l⟩
  intro type htype
  rw [hfree] at htype
  cases htype

lemma srpSound_joinsListener (hs : SrpSound V) {j : ℕ} (hj : j < t) (hid : V.ids j ≠ (0, 0))
    (h : JoinsListener id (.stream j) V V') : SrpSound V' := by
  cases h with
  | found l hl => exact (SlotSound.join hs hl.isStream_listener).set hs
  | made _ hnone h => exact srpSound_begins hs h fun i hfree => .newListener hj hid hfree

lemma JoinsListener.frame (h : JoinsListener id info V V') :
    V'.ids = V.ids ∧ ∀ l, (V'.slots l).kind = .talker → V'.slots l = V.slots l := by
  cases h with
  | found l hl =>
    refine ⟨rfl, fun m hm => ?_⟩
    by_cases hml : m = l
    · rw [hml, slots_setSlot_self] at hm
      exact absurd (hl.1.symm.trans hm) (by intro h; cases h)
    · exact slots_setSlot_of_ne hml _ V
  | made _ hnone h =>
    cases h with
    | slot i hfree =>
      refine ⟨rfl, fun m hm => ?_⟩
      by_cases hmi : m = i
      · rw [hmi, slots_setSlot_self] at hm
        cases hm
      · exact slots_setSlot_of_ne hmi _ V
    | full => exact ⟨rfl, fun _ _ => rfl⟩

lemma JoinsListener.talker_of (h : JoinsListener id info V V') {id' : StreamId}
    (hl : V'.IsOf .talker id' l) : V.IsOf .talker id' l := by
  obtain ⟨hids, hslots⟩ := h.frame
  have hslot := hslots l hl.1
  refine ⟨by rw [← hslot]; exact hl.1, ?_⟩
  rw [← hl.2]
  unfold streamOf
  rw [hslot, hids]

lemma Attaches.srpSound (hs : SrpSound V) (hid : id ≠ (0, 0)) (h : Attaches id V V') :
    SrpSound V' := by
  cases h with
  | advertised i hi _ h =>
    obtain ⟨j, hj, hinfo, hne⟩ := hs.entry i hi.isStream_talker
    rw [hinfo] at h
    exact srpSound_joinsListener hs hj hne h
  | failed => exact hs
  | noEntry => exact srpSound_exhausted hs
  | fresh hnone j hj hentry V₁ _ hlistener htalker =>
    have hentry' : V.ids j = id ∨ V.ids j = (0, 0) := hentry.imp_right And.left
    have hids := ids_setId_self j id V
    have hs₁ : SrpSound V₁ := by
      refine srpSound_joinsListener (srpSound_setId hs hentry' hid) hj ?_ hlistener
      rw [hids]
      exact hid
    have hids₁ : V₁.ids j = id := by
      rw [hlistener.frame.1]
      exact hids
    refine srpSound_begins hs₁ htalker fun i hfree =>
      .newTalker hj (by rw [hids₁]; exact hid) ?_ hfree
    intro l hl
    rw [hids₁] at hl
    exact hnone l ((isOf_setId_iff hs hentry' (Or.inl rfl)).mp (hlistener.talker_of hl))

lemma LeavesListener.isOf_talker_iff {id' : StreamId} (h : LeavesListener id' V V') :
    V'.IsOf .talker id l ↔ V.IsOf .talker id l := by
  cases h with
  | none => exact Iff.rfl
  | found m hm =>
    have hinfo : (V.slots m).leave.info = (V.slots m).info := rfl
    unfold IsOf
    rw [streamOf_setSlot hinfo]
    by_cases hl : l = m
    · rw [hl, slots_setSlot_self]
      exact Iff.rfl
    · rw [slots_setSlot_of_ne hl]

lemma srpSound_leavesListener (hs : SrpSound V) (h : LeavesListener id V V') : SrpSound V' := by
  cases h with
  | found l hl => exact (SlotSound.leave hs hl.isStream_listener).set hs
  | none => exact hs

lemma Detaches.exhausted_eq (h : Detaches id V V') : V'.exhausted = V.exhausted := by
  have hleaves : ∀ V₁, LeavesListener id V V₁ → V₁.exhausted = V.exhausted := by
    intro V₁ h
    cases h <;> rfl
  cases h with
  | talker V₁ h => exact hleaves V₁ h
  | none _ h => exact hleaves V' h

lemma Detaches.srpSound (hs : SrpSound V) (h : Detaches id V V') : SrpSound V' := by
  cases h with
  | talker V₁ h i hi =>
    have hs₁ := srpSound_leavesListener hs h
    exact (SlotSound.remove hs₁ hi).set hs₁
  | none _ h => exact srpSound_leavesListener hs h

end

end SrpView

/-! ## Requests of an attribute, as they are seen -/

lemma mrpUpdateState_frame (now four : ℕ) {e : MrpEvent} (htx : e ≠ .tx) (htx' : e ≠ .txLeaveAll)
    (x : MrpAttribute) :
    (mrpUpdateState now four e x).1.attributeType = x.attributeType ∧
    (mrpUpdateState now four e x).1.applicantState = applicantEvent e x.applicantState ∧
    (mrpUpdateState now four e x).1.removeAfterNextTx = x.removeAfterNextTx ∧
    (mrpUpdateState now four e x).1.here = x.here ∧
    (mrpUpdateState now four e x).1.attributeInfo = x.attributeInfo := by
  obtain ⟨htype, hstate, hflag, hhere, hinfo⟩ := registrarEvent_frame now four e x
  unfold mrpUpdateState
  cases e with
  | tx => exact absurd rfl htx
  | txLeaveAll => exact absurd rfl htx'
  | _ =>
    dsimp only
    exact ⟨htype, by rw [hstate], hflag, hhere, hinfo⟩

namespace SrpState

section

variable {a t v : ℕ} {s : SrpState a t v} {i : Fin a} {type : MrpAttributeType} {id : StreamId}

lemma attrView_of_type {x y : MrpAttribute} {r r' : Option MadRequest}
    (hx : attrKind x = .other type) (hused : y.applicantState ≠ .unused)
    (htype : y.attributeType = x.attributeType)
    (hflag : y.removeAfterNextTx = x.removeAfterNextTx) :
    attrView y r' = attrView x r := by
  have hxused : x.applicantState ≠ .unused := by
    intro h
    rw [attrKind_eq_unused_iff.mpr h] at hx
    cases hx
  have hkind : attrKind y = attrKind x := by
    rw [attrKind_of_used hused, attrKind_of_used hxused, htype]
  have hother : ¬ (attrKind x = .talker ∨ attrKind x = .listener) := by
    rw [hx]
    rintro (h | h) <;> cases h
  rw [attrView_of_other hother, attrView_of_other (by rw [hkind]; exact hother), hkind, hflag]

lemma view_request_other (hkind : (s.view.slots i).kind = .other type) {x : MrpAttribute}
    {r : Option MadRequest} (hused : x.applicantState ≠ .unused)
    (htype : x.attributeType = (s.attrs i).attributeType)
    (hflag : x.removeAfterNextTx = (s.attrs i).removeAfterNextTx) :
    ((s.setAttr i x).setRequest i r).view = s.view := by
  have hslot : attrKind (s.attrs i) = .other type :=
    (attrView_kind _ (s.requests i)).symm.trans hkind
  rw [view_setRequest_setAttr, attrView_of_type (r := s.requests i) hslot hused htype hflag]
  show { s.view with slots := update s.view.slots i (s.view.slots i) } = s.view
  rw [update_eq_self]

lemma view_flagged (s : SrpState a t v) (i : Fin a) :
    (s.view.slots i).flagged = (s.attrs i).removeAfterNextTx :=
  attrView_flagged _ _

lemma used_of_other (hkind : (s.view.slots i).kind = .other type) :
    (s.attrs i).applicantState ≠ .unused := by
  intro h
  have hslot : attrKind (s.attrs i) = .other type :=
    (attrView_kind _ (s.requests i)).symm.trans hkind
  rw [attrKind_eq_unused_iff.mpr h] at hslot
  cases hslot

lemma view_madBegin_other (hkind : (s.view.slots i).kind = .other type) :
    (s.madBegin i).view = s.view := by
  obtain ⟨htype, hstate, hflag, -, -⟩ :=
    mrpUpdateState_frame 0 0 (e := .begin) (by decide) (by decide)
    { s.attrs i with leaveTimer := initAvbTimer 1 (s.attrs i).leaveTimer }
  unfold madBegin
  refine view_request_other hkind ?_ htype hflag
  show (mrpUpdateState 0 0 .begin _).1.applicantState ≠ .unused
  rw [hstate]
  exact MrpApplicantState.noConfusion

lemma view_madJoin_other (hkind : (s.view.slots i).kind = .other type)
    (hflag : (s.view.slots i).flagged = false) : (s.madJoin true i).view = s.view := by
  obtain ⟨htype, hstate, hflag', -, -⟩ :=
    mrpUpdateState_frame 0 0 (e := .new) (by decide) (by decide)
    { s.attrs i with removeAfterNextTx := false }
  unfold madJoin
  refine view_request_other hkind ?_ htype (hflag'.trans ?_)
  · show (mrpUpdateState 0 0 .new _).1.applicantState ≠ .unused
    rw [hstate]
    exact MrpApplicantState.noConfusion
  · exact ((view_flagged s i).symm.trans hflag).symm

lemma used_applicantLv {st : MrpApplicantState} (h : st ≠ .unused) : applicantLv st ≠ .unused := by
  revert h
  cases st <;> decide

lemma view_madLeave_other (hkind : (s.view.slots i).kind = .other type) :
    (s.madLeave i).view = s.view := by
  obtain ⟨htype, hstate, hflag, -, -⟩ :=
    mrpUpdateState_frame 0 0 (e := .lv) (by decide) (by decide) (s.attrs i)
  unfold madLeave
  refine view_request_other hkind ?_ htype hflag
  show (mrpUpdateState 0 0 .lv _).1.applicantState ≠ .unused
  rw [hstate]
  exact used_applicantLv (used_of_other hkind)

def VlanSlots (V : SrpView a t v) : Prop :=
  ∀ k, (V.slots (V.vlanAttrs k)).kind = .other .vidVector ∧
    (V.slots (V.vlanAttrs k)).flagged = false

variable {V : SrpView a t v}

lemma unflagged_of_kind (hs : SrpSound V) {i : Fin a} (h : (V.slots i).kind ≠ .talker) :
    (V.slots i).flagged = false := by
  cases hflag : (V.slots i).flagged with
  | false => rfl
  | true => exact absurd (hs.flagged i hflag) h

lemma vlanSlots_of_sound (hs : SrpSound V) : VlanSlots V := by
  intro k
  refine ⟨hs.vlan k, unflagged_of_kind hs ?_⟩
  rw [hs.vlan k]
  intro h
  cases h

lemma VlanSlots.setSlot (h : VlanSlots V) (hfree : (V.slots i).kind = .unused) (x : SlotView) :
    VlanSlots (V.setSlot i x) := by
  intro k
  have hk : V.vlanAttrs k ≠ i := by
    intro heq
    have hkind := (h k).1
    rw [heq, hfree] at hkind
    cases hkind
  show ((V.setSlot i x).slots (V.vlanAttrs k)).kind = .other .vidVector ∧
    ((V.setSlot i x).slots (V.vlanAttrs k)).flagged = false
  rw [SrpView.slots_setSlot_of_ne hk]
  exact h k

lemma view_setVlan (k : Fin v) {x : SrpVlan a} (s : SrpState a t v)
    (hx : x.attr = (s.vlans k).attr) :
    ({ s with vlans := update s.vlans k x } : SrpState a t v).view = s.view := by
  have hattrs : (fun l => (update s.vlans k x l).attr) = fun l => (s.vlans l).attr := by
    funext l
    by_cases hl : l = k
    · rw [hl, update_self]
      exact hx
    · rw [update_of_ne hl]
  unfold view
  dsimp only
  rw [hattrs]

lemma view_joinVlan (h : VlanSlots s.view) (vlan : ℕ) : (s.joinVlan vlan).view = s.view := by
  unfold joinVlan
  split
  · rename_i k hk
    dsimp only
    have hview := view_setVlan k (x := ⟨true, (s.vlans k).attr, vlan⟩) s rfl
    generalize ({ s with vlans := update s.vlans k ⟨true, (s.vlans k).attr, vlan⟩ } :
      SrpState a t v) = s' at hview ⊢
    have hkind : (s'.view.slots (s.vlans k).attr).kind = .other .vidVector := by
      rw [hview]
      exact (h k).1
    have hflag : (s'.view.slots (s.vlans k).attr).flagged = false := by
      rw [hview]
      exact (h k).2
    have hbegin : (s'.madBegin (s.vlans k).attr).view = s'.view := view_madBegin_other hkind
    rw [← hbegin] at hkind hflag
    rw [view_madJoin_other hkind hflag, hbegin, hview]
  · rfl

lemma view_leaveVlan (hs : SrpSound s.view) (vlan : ℕ) : (s.leaveVlan vlan).view = s.view := by
  unfold leaveVlan
  split
  · rename_i k hk
    dsimp only
    have hleave : (s.madLeave (s.vlans k).attr).view = s.view := view_madLeave_other (hs.vlan k)
    refine Eq.trans (view_setVlan k _ ?_) hleave
    rfl
  · rfl

lemma view_domainJoin (hs : SrpSound s.view) : s.domainJoin.view = s.view := by
  have hflag : (s.view.slots s.domainAttr).flagged = false := by
    refine unflagged_of_kind hs ?_
    rw [show (s.view.slots s.domainAttr).kind = _ from hs.domain]
    intro h
    cases h
  have hbegin : (s.madBegin s.domainAttr).view = s.view := view_madBegin_other hs.domain
  unfold domainJoin
  have hkind := hs.domain
  rw [← hbegin] at hkind hflag
  exact (view_madJoin_other hkind hflag).trans hbegin

end

/-! ## Attributes of streams, as they are seen -/

section

variable {a t v : ℕ} {s : SrpState a t v} {i : Fin a} {type : MrpAttributeType} {id : StreamId}

lemma attrKind_of_isStream (h : s.view.IsStream i) :
    attrKind (s.attrs i) = .talker ∨ attrKind (s.attrs i) = .listener := by
  rw [← attrView_kind (s.attrs i) (s.requests i)]
  exact h

lemma attrView_of_kept {x y : MrpAttribute} {r r' : Option MadRequest}
    (hx : attrKind x = .talker ∨ attrKind x = .listener) (hy : y.applicantState.Begun)
    (htype : y.attributeType = x.attributeType) (hinfo : y.attributeInfo = x.attributeInfo) :
    attrView y r' =
      { attrView x r with
        flagged := y.removeAfterNextTx
        begun := true
        here := y.here
        request := r' } := by
  have hused : x.applicantState ≠ .unused := by
    intro h
    rw [attrKind_eq_unused_iff.mpr h] at hx
    rcases hx with hx | hx <;> cases hx
  have hkind : attrKind y = attrKind x := by
    rw [attrKind_of_used hy.1, attrKind_of_used hused, htype]
  rw [attrView_of_stream hx, attrView_of_stream (by rw [hkind]; exact hx), hkind, hinfo,
    decide_eq_true hy]

lemma view_madJoin (h : s.view.IsStream i) :
    (s.madJoin true i).view = s.view.setSlot i (s.view.slots i).join := by
  obtain ⟨htype, hstate, hflag, hhere, hinfo⟩ :=
    mrpUpdateState_frame 0 0 (e := .new) (by decide) (by decide)
      { s.attrs i with removeAfterNextTx := false }
  have hkind := attrKind_of_isStream h
  have hbegun : (mrpMadJoin true (s.attrs i)).applicantState.Begun := by
    show (mrpUpdateState 0 0 .new _).1.applicantState.Begun
    rw [hstate]
    exact (by decide : MrpApplicantState.vn.Begun)
  unfold madJoin
  rw [view_setRequest_setAttr, attrView_of_kept (r := s.requests i) hkind hbegun htype hinfo,
    view_slots]
  refine congrArg (fun x => s.view.setSlot i x) ?_
  rw [show (mrpMadJoin true (s.attrs i)).removeAfterNextTx = false from hflag,
    show (mrpMadJoin true (s.attrs i)).here = (s.attrs i).here from hhere, attrView_of_stream hkind]
  rfl

lemma view_leave (h : s.view.IsStream i) (hbegun : (s.view.slots i).begun = true) :
    ((s.setAttr i { s.attrs i with here := false }).madLeave i).view =
      s.view.setSlot i (s.view.slots i).leave := by
  have hkind := attrKind_of_isStream h
  have hstate' : (s.attrs i).applicantState.Begun := by
    rw [view_slots, attrView_of_stream hkind] at hbegun
    exact of_decide_eq_true hbegun
  obtain ⟨htype, hstate, hflag, hhere, hinfo⟩ :=
    mrpUpdateState_frame 0 0 (e := .lv) (by decide) (by decide) { s.attrs i with here := false }
  have hbegun' : (mrpMadLeave { s.attrs i with here := false }).applicantState.Begun := by
    show (mrpUpdateState 0 0 .lv _).1.applicantState.Begun
    rw [hstate]
    exact begun_applicantEvent .lv hstate'
  have hsame : (s.setAttr i { s.attrs i with here := false }).madLeave i =
      (s.setAttr i (mrpMadLeave { s.attrs i with here := false })).setRequest i (some .leave) := by
    unfold madLeave
    rw [attrs_setAttr_self, setAttr_setAttr]
  rw [hsame, view_setRequest_setAttr,
    attrView_of_kept (r := s.requests i) hkind hbegun' htype hinfo, view_slots]
  refine congrArg (fun x => s.view.setSlot i x) ?_
  rw [show (mrpMadLeave { s.attrs i with here := false }).removeAfterNextTx = _ from hflag,
    show (mrpMadLeave { s.attrs i with here := false }).here = false from hhere,
    attrView_of_stream hkind, decide_eq_true hstate']
  rfl

lemma view_removeAfterNextTx (h : s.view.IsStream i) :
    (s.removeAfterNextTx i).view = s.view.setSlot i (s.view.slots i).remove := by
  have hkind := attrKind_of_isStream h
  unfold removeAfterNextTx
  rw [view_setAttr_eq, view_slots, attrView_of_stream hkind]
  exact congrArg (fun x => s.view.setSlot i x) (attrView_of_stream hkind)

/-! ### Matching -/

lemma matchTypeNonPropAttribute_some (htype : IsStreamType type)
    (h : s.matchTypeNonPropAttribute type id = some i) : s.view.IsOf (typeKind type) id i := by
  have hfound := List.find?_some h
  rw [decide_eq_true_eq] at hfound
  obtain ⟨hbegun, heq, hstream⟩ := hfound
  have hkind : attrKind (s.attrs i) = typeKind type := by rw [attrKind_of_used hbegun.1, heq]
  have hslot : (s.view.slots i).kind = typeKind type := (attrView_kind _ _).trans hkind
  refine ⟨hslot, ?_⟩
  rw [view_streamOf ?_]
  · exact hstream
  · unfold SrpView.IsStream
    rw [hslot, typeKind_eq_talker_iff, typeKind_eq_listener_iff]
    exact htype

lemma matchTypeNonPropAttribute_none (hs : SrpSound s.view)
    (h : s.matchTypeNonPropAttribute type id = none) (hi : s.view.IsStream i)
    (htype : (s.attrs i).attributeType = type) : s.view.streamOf i ≠ some id := by
  intro hstream
  rw [view_streamOf hi] at hstream
  have hbegun := hs.begun i hi
  rw [view_slots, attrView_of_stream (attrKind_of_isStream hi)] at hbegun
  exact List.find?_eq_none.mp h i (List.mem_finRange i)
    (decide_eq_true ⟨of_decide_eq_true hbegun, htype, hstream⟩)

lemma no_talker (hs : SrpSound s.view)
    (hadvertise : s.matchTypeNonPropAttribute .talkerAdvertise id = none)
    (hfailed : s.matchTypeNonPropAttribute .talkerFailed id = none) (l : Fin a) :
    ¬ s.view.IsOf .talker id l := by
  rintro ⟨hkind, hstream⟩
  have hl : s.view.IsStream l := Or.inl hkind
  have hslot : attrKind (s.attrs l) = .talker := (attrView_kind _ (s.requests l)).symm.trans hkind
  rw [attrKind_of_used (isStream_cases hl).1, typeKind_eq_talker_iff] at hslot
  rcases hslot with htype | htype
  · exact matchTypeNonPropAttribute_none hs hadvertise hl htype hstream
  · exact matchTypeNonPropAttribute_none hs hfailed hl htype hstream

lemma no_listener (hs : SrpSound s.view) (h : s.matchTypeNonPropAttribute .listener id = none)
    (l : Fin a) : ¬ s.view.IsOf .listener id l := by
  rintro ⟨hkind, hstream⟩
  have hl : s.view.IsStream l := Or.inr hkind
  have hslot : attrKind (s.attrs l) = .listener := (attrView_kind _ (s.requests l)).symm.trans hkind
  rw [attrKind_of_used (isStream_cases hl).1, typeKind_eq_listener_iff] at hslot
  exact matchTypeNonPropAttribute_none hs h hl hslot hstream

lemma matchTalker_cases (hs : SrpSound s.view) (id : StreamId) :
    (∃ i, s.matchTalker id = some i ∧ s.view.IsOf .talker id i) ∨
      s.matchTalker id = none ∧ ∀ l, ¬ s.view.IsOf .talker id l := by
  unfold matchTalker
  cases hadvertise : s.matchTypeNonPropAttribute .talkerAdvertise id with
  | some i =>
    exact Or.inl ⟨i, rfl, matchTypeNonPropAttribute_some (Or.inl (Or.inl rfl)) hadvertise⟩
  | none =>
    cases hfailed : s.matchTypeNonPropAttribute .talkerFailed id with
    | some i =>
      exact Or.inl ⟨i, rfl, matchTypeNonPropAttribute_some (Or.inl (Or.inr rfl)) hfailed⟩
    | none => exact Or.inr ⟨rfl, no_talker hs hadvertise hfailed⟩

lemma matchPair_some {l : Fin a} (hi : s.view.IsOf .talker id i)
    (h : s.matchAttributePairByStreamId (s.attrs i) false = some l) :
    s.view.IsOf .listener id l := by
  have hfound := List.find?_some h
  rw [decide_eq_true_eq] at hfound
  obtain ⟨hmatch, htype, -, hsame⟩ := hfound
  have htalker : (s.attrs i).attributeType.IsTalker := by
    have hslot : attrKind (s.attrs i) = .talker := (attrView_kind _ (s.requests i)).symm.trans hi.1
    rw [attrKind_of_used (isStream_cases hi.isStream_talker).1, typeKind_eq_talker_iff] at hslot
    exact hslot
  have hlistener : (s.attrs l).attributeType = .listener := by
    rcases htype with ⟨-, hl⟩ | ⟨hi', -⟩
    · exact hl
    · rw [hi'] at htalker
      rcases htalker with h | h <;> cases h
  have hkind : attrKind (s.attrs l) = .listener := by
    rw [attrKind_of_used hmatch.1, typeKind_eq_listener_iff]
    exact hlistener
  have hslot : (s.view.slots l).kind = .listener := (attrView_kind _ _).trans hkind
  refine ⟨hslot, ?_⟩
  rw [view_streamOf (Or.inr hslot), ← hsame, ← view_streamOf hi.isStream_talker]
  exact hi.2

lemma matchPair_none (hs : SrpSound s.view) (hi : s.view.IsOf .talker id i)
    (h : s.matchAttributePairByStreamId (s.attrs i) false = none) (l : Fin a) :
    ¬ s.view.IsOf .listener id l := by
  rintro ⟨hkind, hstream⟩
  have hl : s.view.IsStream l := Or.inr hkind
  have hbegun := hs.begun l hl
  rw [view_slots, attrView_of_stream (attrKind_of_isStream hl)] at hbegun
  have hbegun : (s.attrs l).applicantState.Begun := of_decide_eq_true hbegun
  have htalker : attrKind (s.attrs i) = .talker := (attrView_kind _ (s.requests i)).symm.trans hi.1
  have hlistener : attrKind (s.attrs l) = .listener :=
    (attrView_kind _ (s.requests l)).symm.trans hkind
  rw [attrKind_of_used (isStream_cases hi.isStream_talker).1, typeKind_eq_talker_iff] at htalker
  rw [attrKind_of_used hbegun.1, typeKind_eq_listener_iff] at hlistener
  have hstream' : s.streamOf (s.attrs i) = some id := by
    rw [← view_streamOf hi.isStream_talker]
    exact hi.2
  refine List.find?_eq_none.mp h l (List.mem_finRange l) (decide_eq_true
    ⟨⟨hbegun.1, Or.inr hbegun.2⟩, Or.inl ⟨htalker, hlistener⟩, ?_, ?_⟩)
  · rw [hstream']
    exact Option.some_ne_none id
  · rw [hstream', ← view_streamOf hl]
    exact hstream.symm

end

/-! ## Attach and detach -/

section

variable {a t v : ℕ} {s : SrpState a t v} {V : SrpView a t v} {i : Fin a}
  {type : MrpAttributeType} {id : StreamId}

lemma getAttr_cases (s : SrpState a t v) :
    (∃ i, s.getAttr = (some i, s.setAttr i { s.attrs i with applicantState := .disabled }) ∧
      (s.view.slots i).kind = .unused) ∨
      s.getAttr = (none, { s with exhausted := true }) ∧ ∀ i, (s.view.slots i).kind ≠ .unused := by
  unfold getAttr
  cases hfind : (List.finRange a).find? fun i => decide ((s.attrs i).applicantState = .unused) with
  | some i =>
    have hunused := List.find?_some hfind
    rw [decide_eq_true_eq] at hunused
    exact Or.inl ⟨i, rfl, (attrView_kind _ _).trans (attrKind_eq_unused_iff.mpr hunused)⟩
  | none =>
    refine Or.inr ⟨rfl, fun i hi => ?_⟩
    have hunused := attrKind_eq_unused_iff.mp ((attrView_kind _ (s.requests i)).symm.trans hi)
    exact List.find?_eq_none.mp hfind i (List.mem_finRange i) (decide_eq_true hunused)

lemma attributeInit_madBegin (i : Fin a) (type : MrpAttributeType) (here : Bool)
    (info : AttributeInfo) (s : SrpState a t v) : (s.attributeInit i type here info).madBegin i =
      (s.setAttr i (mrpMadBegin { s.attrs i with
        attributeType := type, attributeInfo := info, here := here })).setRequest i none := by
  unfold attributeInit madBegin
  rw [attrs_setAttr_self, setAttr_setAttr]

lemma view_begin (htype : IsStreamType type) (hflag : (s.view.slots i).flagged = false)
    (here : Bool) (info : AttributeInfo) : ((s.attributeInit i type here info).madBegin i).view =
      s.view.setSlot i (SlotView.begin (typeKind type) here info) := by
  set x : MrpAttribute :=
    { s.attrs i with attributeType := type, attributeInfo := info, here := here } with hx
  obtain ⟨htype', hstate, hflag', hhere, hinfo⟩ :=
    mrpUpdateState_frame 0 0 (e := .begin) (by decide) (by decide)
      { x with leaveTimer := initAvbTimer 1 x.leaveTimer }
  have hbegun : (mrpMadBegin x).applicantState.Begun := by
    show (mrpUpdateState 0 0 .begin _).1.applicantState.Begun
    rw [hstate]
    exact (by decide : MrpApplicantState.vo.Begun)
  have hkind : attrKind (mrpMadBegin x) = typeKind type := by
    rw [attrKind_of_used hbegun.1, show (mrpMadBegin x).attributeType = type from htype']
  have hstream : attrKind (mrpMadBegin x) = .talker ∨ attrKind (mrpMadBegin x) = .listener := by
    rw [hkind, typeKind_eq_talker_iff, typeKind_eq_listener_iff]
    exact htype
  have hflag : (mrpMadBegin x).removeAfterNextTx = false :=
    hflag'.trans ((view_flagged s i).symm.trans hflag)
  rw [attributeInit_madBegin, view_setRequest_setAttr, attrView_of_stream hstream, hkind, hflag,
    decide_eq_true hbegun, show (mrpMadBegin x).here = here from hhere,
    show (mrpMadBegin x).attributeInfo = info from hinfo]
  rfl

lemma view_getAttr (hs : SrpSound s.view) (hfree : (s.view.slots i).kind = .unused) :
    ∃ x : SlotView, x.flagged = false ∧
      (s.setAttr i { s.attrs i with applicantState := .disabled }).view = s.view.setSlot i x := by
  refine ⟨_, ?_, view_setAttr_eq i _ s⟩
  rw [attrView_flagged]
  have hflag : (s.view.slots i).flagged = false := by
    refine unflagged_of_kind hs ?_
    rw [hfree]
    intro h
    cases h
  exact (view_flagged s i).symm.trans hflag

lemma setSlot_setSlot (i : Fin a) (x y : SlotView) (V : SrpView a t v) :
    (V.setSlot i x).setSlot i y = V.setSlot i y := by
  unfold SrpView.setSlot
  dsimp only
  rw [update_idem]

lemma vlanSlots_getAttr (hs : SrpSound s.view) (hfree : (s.view.slots i).kind = .unused) :
    VlanSlots (s.setAttr i { s.attrs i with applicantState := .disabled }).view := by
  obtain ⟨x, -, hview⟩ := view_getAttr hs hfree
  rw [hview]
  exact (vlanSlots_of_sound hs).setSlot hfree x

lemma view_listenerInit (hs : SrpSound s.view) (hfree : (s.view.slots i).kind = .unused)
    (vid : ℕ) (info : AttributeInfo) :
    ((((s.setAttr i { s.attrs i with applicantState := .disabled }).joinVlan vid).attributeInit i
      .listener true info).madBegin i).view =
      s.view.setSlot i (SlotView.begin .listener true info) := by
  obtain ⟨x, hx, hview⟩ := view_getAttr hs hfree
  have hvlan := view_joinVlan (vlanSlots_getAttr hs hfree) vid
  have hflag : (((s.setAttr i { s.attrs i with applicantState := .disabled }).joinVlan
      vid).view.slots i).flagged = false := by
    rw [hvlan, hview, SrpView.slots_setSlot_self]
    exact hx
  have htype : IsStreamType .listener := Or.inr rfl
  rw [view_begin htype hflag, hvlan, hview, setSlot_setSlot]
  rfl

lemma beginAttr_cases (hs : SrpSound s.view) (htype : IsStreamType type) (here : Bool)
    (info : AttributeInfo) :
    (∃ i s', s.beginAttr type here info = (some i, s') ∧ (s.view.slots i).kind = .unused ∧
      s'.view = s.view.setSlot i (SlotView.begin (typeKind type) here info)) ∨
    ∃ s', s.beginAttr type here info = (none, s') ∧ (∀ i, (s.view.slots i).kind ≠ .unused) ∧
      s'.view = s.view.exhaust := by
  rcases getAttr_cases s with ⟨i, hget, hfree⟩ | ⟨hget, hfull⟩
  · left
    obtain ⟨x, hx, hview⟩ := view_getAttr hs hfree
    unfold beginAttr
    rw [hget]
    refine ⟨i, _, rfl, hfree, ?_⟩
    rw [view_begin htype, hview, setSlot_setSlot]
    rw [hview, SrpView.slots_setSlot_self]
    exact hx
  · right
    unfold beginAttr
    rw [hget]
    exact ⟨_, rfl, hfull, rfl⟩

lemma begins_beginAttr (hs : SrpSound s.view) (htype : IsStreamType type) (here : Bool)
    (info : AttributeInfo) :
    s.view.Begins (SlotView.begin (typeKind type) here info)
      (s.beginAttr type here info).2.view := by
  rcases beginAttr_cases hs htype here info with
    ⟨i, s', heq, hfree, hview⟩ | ⟨s', heq, hfull, hview⟩
  · rw [heq, hview]
    exact .slot i hfree
  · rw [heq, hview]
    exact .full hfull

lemma view_madJoin_setSlot {x : SlotView} (hview : s.view = V.setSlot i x)
    (hx : x.kind = .talker ∨ x.kind = .listener) :
    (s.madJoin true i).view = V.setSlot i x.join := by
  have hslot : s.view.slots i = x := by
    rw [hview]
    exact SrpView.slots_setSlot_self i x V
  have hstream : s.view.IsStream i := by
    unfold SrpView.IsStream
    rw [hslot]
    exact hx
  rw [view_madJoin hstream, hslot, hview, setSlot_setSlot]

lemma joinsListener_joinListener (hs : SrpSound s.view) (id : StreamId) (entry vid : ℕ) :
    s.view.JoinsListener id (.stream entry) (s.joinListener id entry vid).view := by
  have hvlan := view_joinVlan (vlanSlots_of_sound hs) vid
  have hs' : SrpSound (s.joinVlan vid).view := by
    rw [hvlan]
    exact hs
  unfold joinListener
  dsimp only
  cases hmatch : s.matchTypeNonPropAttribute .listener id with
  | some l =>
    have hl : s.view.IsOf .listener id l := matchTypeNonPropAttribute_some (Or.inr rfl) hmatch
    have hstream : (s.joinVlan vid).view.IsStream l := by
      rw [hvlan]
      exact hl.isStream_listener
    dsimp only
    rw [view_madJoin hstream, hvlan]
    exact .found l hl
  | none =>
    refine .made _ (no_listener hs hmatch) ?_
    dsimp only
    rcases beginAttr_cases hs' (Or.inr rfl) true (.stream entry) with
      ⟨i, s', heq, hfree, hview⟩ | ⟨s', heq, hfull, hview⟩
    · rw [heq]
      rw [hvlan] at hfree hview
      dsimp only
      rw [view_madJoin_setSlot hview (Or.inr rfl)]
      exact .slot i hfree
    · rw [heq]
      rw [hvlan] at hfull hview
      dsimp only
      rw [hview]
      exact .full hfull

lemma joinsListener_joinListenerOfTalker (hs : SrpSound s.view) (hi : s.view.IsOf .talker id i)
    (vid : ℕ) :
    s.view.JoinsListener id (s.view.slots i).info (s.joinListenerOfTalker i vid).view := by
  have hvlan := view_joinVlan (vlanSlots_of_sound hs) vid
  unfold joinListenerOfTalker
  cases hmatch : s.matchAttributePairByStreamId (s.attrs i) false with
  | some l =>
    have hl := matchPair_some hi hmatch
    have hstream : (s.joinVlan vid).view.IsStream l := by
      rw [hvlan]
      exact hl.isStream_listener
    dsimp only
    rw [view_madJoin hstream, hvlan]
    exact .found l hl
  | none =>
    refine .made _ (matchPair_none hs hi hmatch) ?_
    dsimp only
    rcases getAttr_cases s with ⟨f, hget, hfree⟩ | ⟨hget, hfull⟩
    · rw [hget]
      dsimp only
      obtain ⟨x, -, hview⟩ := view_getAttr hs hfree
      have hvlan₁ := view_joinVlan (vlanSlots_getAttr hs hfree) vid
      have hbegin := view_listenerInit hs hfree vid (s.view.slots i).info
      generalize s.setAttr f { s.attrs f with applicantState := .disabled } =
        s₁ at hview hvlan₁ hbegin ⊢
      -- the talker has not the slot that was taken
      have htalker : s₁.view.slots i = s.view.slots i := by
        rw [hview]
        refine SrpView.slots_setSlot_of_ne ?_ x s.view
        rintro rfl
        rw [hi.1] at hfree
        cases hfree
      have hinfo : ((s₁.joinVlan vid).attrs i).attributeInfo = (s.view.slots i).info := by
        have hstream : (s₁.joinVlan vid).view.IsStream i := by
          unfold SrpView.IsStream
          rw [hvlan₁, htalker]
          exact hi.isStream_talker
        rw [← htalker, ← hvlan₁, view_slots, attrView_of_stream (attrKind_of_isStream hstream)]
      rw [hinfo]
      generalize ((s₁.joinVlan vid).attributeInit f .listener true (s.view.slots i).info).madBegin f
        = s₂ at hbegin ⊢
      have hslots₂ : VlanSlots s₂.view := by
        rw [hbegin]
        exact (vlanSlots_of_sound hs).setSlot hfree _
      rw [view_madJoin_setSlot ((view_joinVlan hslots₂ vid).trans hbegin) (Or.inr rfl)]
      exact .slot f hfree
    · rw [hget]
      exact .full hfull

lemma addReservationEntryStreamIdOnly_cases (id : StreamId) (s : SrpState a t v) :
    (∃ j s', s.addReservationEntryStreamIdOnly id = (some j, s') ∧ j < t ∧
      (s.view.ids j = id ∨ s.view.ids j = (0, 0) ∧ ∀ l, l < t → s.view.ids l ≠ id) ∧
      s'.view = s.view.setId j id) ∨
    ∃ s', s.addReservationEntryStreamIdOnly id = (none, s') ∧
      (∀ j, j < t → s.view.ids j ≠ id ∧ s.view.ids j ≠ (0, 0)) ∧ s'.view = s.view.exhaust := by
  unfold addReservationEntryStreamIdOnly
  cases hfind : s.matchReservationEntryById id with
  | some j =>
    obtain ⟨hj, hid⟩ := matchReservationEntryById_some hfind
    exact Or.inl ⟨j, _, rfl, hj, hid, view_setEntry_eq _ _ _⟩
  | none =>
    refine Or.inr ⟨_, rfl, fun j hj => ?_, rfl⟩
    unfold matchReservationEntryById at hfind
    rw [Option.or_eq_none_iff] at hfind
    constructor
    · intro hid
      exact List.find?_eq_none.mp hfind.1 j (List.mem_range.mpr hj) (decide_eq_true hid)
    · intro hid
      exact List.find?_eq_none.mp hfind.2 j (List.mem_reverse.mpr (List.mem_range.mpr hj))
        (decide_eq_true hid)

lemma attaches_joinListenerAttrs (hs : SrpSound s.view) (hid : id ≠ (0, 0)) (vlan : ℕ) :
    s.view.Attaches id (s.joinListenerAttrs id vlan).view := by
  unfold joinListenerAttrs
  cases hadvertise : s.matchTypeNonPropAttribute .talkerAdvertise id with
  | some i =>
    have hi : s.view.IsOf .talker id i :=
      matchTypeNonPropAttribute_some (Or.inl (Or.inl rfl)) hadvertise
    exact .advertised i hi _ (joinsListener_joinListenerOfTalker hs hi _)
  | none =>
    dsimp only
    cases hfailed : s.matchTypeNonPropAttribute .talkerFailed id with
    | some i =>
      rw [if_neg (Option.some_ne_none i)]
      exact .failed i (matchTypeNonPropAttribute_some (Or.inl (Or.inr rfl)) hfailed)
    | none =>
      rw [if_pos rfl]
      have hnone := no_talker hs hadvertise hfailed
      unfold joinListenerAlone
      rcases addReservationEntryStreamIdOnly_cases id s with
        ⟨j, s₁, heq, hj, hentry, hview⟩ | ⟨s₁, heq, hfull, hview⟩
      · rw [heq]
        dsimp only
        have hs₁ : SrpSound s₁.view := by
          rw [hview]
          exact SrpView.srpSound_setId hs (hentry.imp_right And.left) hid
        have hlistener := joinsListener_joinListener hs₁ id j (s.vidToJoin vlan)
        have hs₂ : SrpSound (s₁.joinListener id j (s.vidToJoin vlan)).view := by
          refine SrpView.srpSound_joinsListener hs₁ hj ?_ hlistener
          rw [hview, SrpView.ids_setId_self]
          exact hid
        have htype : IsStreamType .talkerAdvertise := Or.inl (Or.inl rfl)
        have htalker := begins_beginAttr hs₂ htype false (.stream j)
        rw [hview] at hlistener
        exact .fresh hnone j hj hentry _ _ hlistener htalker
      · rw [heq]
        dsimp only
        rw [hview]
        exact .noEntry hnone hfull

lemma leavesListener_leaveListener (hs : SrpSound s.view) (id : StreamId) :
    s.view.LeavesListener id (s.leaveListener id).view := by
  unfold leaveListener
  cases hmatch : s.matchTypeNonPropAttribute .listener id with
  | some l =>
    have hl : s.view.IsOf .listener id l := matchTypeNonPropAttribute_some (Or.inr rfl) hmatch
    dsimp only
    rw [view_leave hl.isStream_listener (hs.begun l hl.isStream_listener)]
    exact .found l hl
  | none => exact .none (no_listener hs hmatch)

lemma detaches_leaveListenerAttrs (hs : SrpSound s.view) (id : StreamId) :
    s.view.Detaches id (s.leaveListenerAttrs id).view := by
  have hleave := leavesListener_leaveListener hs id
  have htalkers : ∀ l, (s.leaveListener id).view.IsOf .talker id l ↔ s.view.IsOf .talker id l :=
    fun l => hleave.isOf_talker_iff
  unfold leaveListenerAttrs
  rcases matchTalker_cases hs id with ⟨i, hmatch, hi⟩ | ⟨hmatch, hnone⟩
  · rw [hmatch]
    have hi' := (htalkers i).mpr hi
    dsimp only
    rw [view_removeAfterNextTx hi'.isStream_talker]
    exact .talker _ hleave i hi'
  · rw [hmatch]
    exact .none _ hleave fun l hl => hnone l ((htalkers l).mp hl)

end

end SrpState

/-! ## Runs of a listening device -/

section

variable {a t v : ℕ} {V V' : SrpView a t v} {i l : Fin a}

lemma Removed.slots_self (h : Removed i V V') : V'.slots i = .free := by
  cases h with
  | slot => exact SrpView.slots_setSlot_self i _ V
  | entry => exact SrpView.slots_setSlot_self i _ V

lemma Removed.slots_of_ne (h : Removed i V V') (hl : l ≠ i) : V'.slots l = V.slots l := by
  cases h with
  | slot => exact SrpView.slots_setSlot_of_ne hl _ V
  | entry => exact SrpView.slots_setSlot_of_ne hl _ V

lemma Removed.ids_eq (h : Removed i V V') (hl : l ≠ i) (hstream : V.IsStream l) {j : ℕ}
    (hinfo : (V.slots l).info = .stream j) : V'.ids j = V.ids j := by
  cases h with
  | slot => rfl
  | entry k hid hlast =>
    show update V.ids k (0, 0) j = V.ids j
    refine update_of_ne ?_ _ _
    rintro rfl
    refine hlast l hl hstream ?_
    rw [hid]
    unfold SrpView.streamOf
    rw [hinfo]

lemma Removed.isStream (h : Removed i V V') (hstream : V'.IsStream l) : l ≠ i ∧ V.IsStream l := by
  have hl : l ≠ i := by
    rintro rfl
    unfold SrpView.IsStream at hstream
    rw [h.slots_self] at hstream
    rcases hstream with h | h <;> cases h
  refine ⟨hl, ?_⟩
  unfold SrpView.IsStream at hstream ⊢
  rw [h.slots_of_ne hl] at hstream
  exact hstream

lemma Removed.streamOf_eq (hs : SrpSound V) (h : Removed i V V') (hl : l ≠ i)
    (hstream : V.IsStream l) : V'.streamOf l = V.streamOf l := by
  obtain ⟨j, -, hinfo, -⟩ := hs.entry l hstream
  unfold SrpView.streamOf
  rw [h.slots_of_ne hl, hinfo]
  exact congrArg some (h.ids_eq hl hstream hinfo)

lemma Removed.frame (h : Removed i V V') : V'.domainAttr = V.domainAttr ∧
    V'.vlanAttrs = V.vlanAttrs ∧ V'.listed = V.listed ∧ V'.exhausted = V.exhausted := by
  cases h with
  | slot => exact ⟨rfl, rfl, rfl, rfl⟩
  | entry => exact ⟨rfl, rfl, rfl, rfl⟩

lemma Removed.srpSound (hs : SrpSound V) (hflag : (V.slots i).flagged = true)
    (h : Removed i V V') : SrpSound V' := by
  obtain ⟨hdomain, hvlans, hlisted, -⟩ := h.frame
  -- a slot of the domain or a VLAN is not the one that goes
  have hfixed : ∀ l type, (V.slots l).kind = .other type → (V'.slots l).kind = .other type := by
    intro l type hl
    rw [h.slots_of_ne]
    · exact hl
    · rintro rfl
      rw [hs.flagged l hflag] at hl
      cases hl
  refine ⟨?_, ?_, ?_, ?_, ?_, ?_, ?_, ?_⟩
  · intro l hl
    by_cases hli : l = i
    · rw [hli, h.slots_self] at hl
      cases hl
    · rw [h.slots_of_ne hli] at hl ⊢
      exact hs.flagged l hl
  · intro l hl
    obtain ⟨hli, hstream⟩ := h.isStream hl
    rw [h.slots_of_ne hli]
    exact hs.begun l hstream
  · intro l hl
    obtain ⟨hli, -⟩ := h.isStream (Or.inl hl)
    rw [h.slots_of_ne hli] at hl ⊢
    exact hs.here l hl
  · intro l hl
    obtain ⟨hli, hstream⟩ := h.isStream hl
    obtain ⟨j, hj, hinfo, hid⟩ := hs.entry l hstream
    refine ⟨j, hj, ?_, ?_⟩
    · rw [h.slots_of_ne hli]
      exact hinfo
    · rw [h.ids_eq hli hstream hinfo]
      exact hid
  · intro l m hl hm hsame
    obtain ⟨hli, hstream⟩ := h.isStream (Or.inl hl)
    obtain ⟨hmi, hstream'⟩ := h.isStream (Or.inl hm)
    rw [h.streamOf_eq hs hli hstream, h.streamOf_eq hs hmi hstream'] at hsame
    rw [h.slots_of_ne hli] at hl
    rw [h.slots_of_ne hmi] at hm
    exact hs.unique l m hl hm hsame
  · rw [hdomain]
    exact hfixed _ _ hs.domain
  · intro k
    rw [hvlans]
    exact hfixed _ _ (hs.vlan k)
  · rw [hlisted]
    exact hs.listed

lemma closed_srpSound : SrpState.ClosedUnderRemoval (SrpSound : SrpView a t v → Prop) :=
  ⟨fun _ h => h, fun _ _ _ hs hflag h => h.srpSound hs hflag⟩

end

def SrpEvent.Listening : SrpEvent → Prop
  | .registerAttach id _ => id ≠ (0, 0)
  | .registerStream _ | .deregisterStream _ => False
  | _ => True

instance (e : SrpEvent) : Decidable e.Listening :=
  match e with
  | .registerAttach id _ => inferInstanceAs (Decidable (id ≠ (0, 0)))
  | .registerStream _ | .deregisterStream _ => inferInstanceAs (Decidable False)
  | .deregisterAttach _ | .leaveVlan _ | .packet _ _ _ | .linkUp | .periodic _ | .manager _ _ =>
    inferInstanceAs (Decidable True)

section

variable {a t v : ℕ} {s : SrpState a t v} {e : SrpEvent}

lemma closed_step {P : SrpView a t v → Prop} (h : SrpState.ClosedUnderRemoval P)
    (he : e.Listening) (hattach : ∀ id vlan, e ≠ .registerAttach id vlan)
    (hdetach : ∀ id, e ≠ .deregisterAttach id) (hs : P s.view) : P (srpStep s e).view := by
  have hsound := h.sound _ hs
  cases e with
  | registerAttach id vlan => exact absurd rfl (hattach id vlan)
  | deregisterAttach id => exact absurd rfl (hdetach id)
  | registerStream r => exact absurd he id
  | deregisterStream r => exact absurd he id
  | leaveVlan vlan =>
    show P (s.leaveVlan vlan).view
    rw [SrpState.view_leaveVlan hsound]
    exact hs
  | packet frame nbytes clock =>
    show P (SrpState.processControlPacket frame nbytes { s with clock := clock }).view
    rw [SrpState.view_processControlPacket (s := { s with clock := clock }) hsound]
    exact hs
  | linkUp =>
    show P s.domainJoin.view
    rw [SrpState.view_domainJoin hsound]
    exact hs
  | periodic clock => exact h.periodic (s := { s with clock := clock }) hs
  | manager sources sinks => exact hs

lemma srpSound_step (hs : SrpSound s.view) (he : e.Listening) : SrpSound (srpStep s e).view := by
  cases e with
  | registerAttach id vlan => exact (SrpState.attaches_joinListenerAttrs hs he vlan).srpSound hs he
  | deregisterAttach id => exact (SrpState.detaches_leaveListenerAttrs hs id).srpSound hs
  | _ => exact closed_step closed_srpSound he (fun _ _ h => by cases h) (fun _ h => by cases h) hs

end

lemma srpInit_slots (k t v : ℕ) (srcAddr : Vector UInt8 6) (now : ℕ) (i : Fin (1 + v + k)) :
    (srpInit k t v srcAddr now).view.slots i =
      if i.val = 0 then ⟨.other .domainVector, false, false, false, .null, none⟩
      else if i.val ≤ v then ⟨.other .vidVector, false, false, false, .null, none⟩
      else .free := by
  rw [SrpState.view_slots]
  show attrView (if i.val = 0 then _ else if i.val ≤ v then _ else _) none = _
  split_ifs <;> rfl

lemma srpSound_srpInit (k t v : ℕ) (srcAddr : Vector UInt8 6) (now : ℕ) :
    SrpSound (srpInit k t v srcAddr now).view := by
  have hkind : ∀ i, ((srpInit k t v srcAddr now).view.slots i).kind ≠ .talker ∧
      ((srpInit k t v srcAddr now).view.slots i).kind ≠ .listener ∧
      ((srpInit k t v srcAddr now).view.slots i).flagged = false := by
    intro i
    rw [srpInit_slots]
    split_ifs <;> decide
  have hstream : ∀ i, ¬ (srpInit k t v srcAddr now).view.IsStream i := by
    rintro i (h | h)
    · exact (hkind i).1 h
    · exact (hkind i).2.1 h
  refine ⟨?_, ?_, ?_, ?_, ?_, ?_, ?_, ?_⟩
  · intro i hi
    rw [(hkind i).2.2] at hi
    cases hi
  · exact fun i hi => absurd hi (hstream i)
  · exact fun i hi => absurd (Or.inl hi) (hstream i)
  · exact fun i hi => absurd hi (hstream i)
  · exact fun i l hi => absurd (Or.inl hi) (hstream i)
  · show ((srpInit k t v srcAddr now).view.slots ⟨0, by omega⟩).kind = _
    rw [srpInit_slots]
    rfl
  · intro k'
    show ((srpInit k t v srcAddr now).view.slots ⟨1 + k'.val, by omega⟩).kind = _
    rw [srpInit_slots, if_neg (by simp only; omega), if_pos (by simp only; omega)]
  · exact fun i => List.mem_finRange i
