/-
# Registrations age out

A Leave starts the leave timer of a registered attribute.  A New or a Join that arrives before the
timer runs out returns the registrar to IN; otherwise the first poll later than the period makes it
empty and notes the Leave.  Time is unbounded here and read modulo `2 ^ 32`.
-/
import LibTsn.MrpIndications
import LibTsn.PolledTimer

namespace MrpInput

/-- The input as the code sees it, with a time of the 32-bit counter. -/
def wrapped : MrpInput → MrpInput
  | .received e four now => .received e four (now % 2 ^ 32)
  | .leaveAll now => .leaveAll (now % 2 ^ 32)
  | .transmit all now => .transmit all (now % 2 ^ 32)
  | .poll now => .poll (now % 2 ^ 32)
  | i => i

/-- A New or a Join of the attribute is received. -/
def Refreshes : MrpInput → Prop
  | .received e _ _ => e.Declares
  | _ => False

/-- The time of a Leave or a LeaveAll, received or sent. -/
def leaveTime : MrpInput → Option ℕ
  | .received .evLv _ now | .leaveAll now | .transmit true now => some now
  | _ => none

def pollTime : MrpInput → Option ℕ
  | .poll now => some now
  | _ => none

lemma eq_poll {i : MrpInput} {now : ℕ} (h : i.pollTime = some now) : i = .poll now := by
  unfold pollTime at h
  split at h <;> cases h
  rfl

end MrpInput

/-- One input of an attribute, at a time that is not bounded. -/
def agingStep (a : MrpAttribute) (i : MrpInput) : MrpAttribute := mrpInput a i.wrapped

def pollTimes (is : List MrpInput) : List ℕ := is.filterMap MrpInput.pollTime

/-- `MRP_LEAVETIMER_PERIOD_CENTISECONDS` in ticks. -/
def leavePeriod : ℕ := mrpLeavetimerPeriodCentiseconds * ticksPerCentisecond

/-- The leave timer runs since `start`, and has not run out at `prev`. -/
structure Leaving (start prev : ℕ) (v : RegistrarVars) : Prop where
  registrar : v.registrar = .leaving
  timer : TimerFollows 1 leavePeriod start ⟨0, start⟩ prev v.timer

variable {a : MrpAttribute} {i : MrpInput} {start prev now : ℕ}

lemma timerSound_aging (h : TimerSound (registrarVars a)) (is : List MrpInput) :
    TimerSound (registrarVars (Run.runFrom agingStep a is)) := by
  have hstep : ∀ (a : MrpAttribute) (i : MrpInput), TimerSound (registrarVars a) →
      TimerSound (registrarVars (agingStep a i)) := fun _ i h => timerSound_mrpInput h i.wrapped
  exact Run.invariant_of_step hstep h is

lemma leaving_of_leaveTime (h : TimerSound (registrarVars a)) (hin : a.registrarState = .registered)
    (hleave : i.leaveTime = some start) :
    Leaving start start (registrarVars (agingStep a i)) ∧
      (agingStep a i).pendingLeave = a.pendingLeave := by
  have hvars : registrarVars (agingStep a i) =
      registrarVars (registrarLeave (start % 2 ^ 32) a) := by
    unfold agingStep
    rw [registrarVars_mrpInput]
    unfold MrpInput.leaveTime at hleave
    split at hleave <;> cases hleave <;> rfl
  have honce : startAvbTimer (start % 2 ^ 32) mrpLeavetimerPeriodCentiseconds a.leaveTimer =
      startAvbTimer (start % 2 ^ 32) mrpLeavetimerPeriodCentiseconds
        (initAvbTimer 1 a.leaveTimer) := by
    have hmult : a.leaveTimer.timeoutMultiplier = 1 := h.once
    unfold startAvbTimer initAvbTimer
    rw [hmult]
  have hstarted :=
    timerFollows_start 1 mrpLeavetimerPeriodCentiseconds start a.leaveTimer (by decide)
  have hreg : registrarLeave (start % 2 ^ 32) a = { a with
      leaveTimer := startAvbTimer (start % 2 ^ 32) mrpLeavetimerPeriodCentiseconds a.leaveTimer
      registrarState := .leaving } := if_pos hin
  rw [hreg, honce] at hvars
  refine ⟨?_, congrArg RegistrarVars.pendingLeave hvars⟩
  rw [hvars]
  exact ⟨rfl, hstarted⟩

lemma registrarVars_quiet (hi : ¬ i.Refreshes) (hpoll : i.pollTime = none)
    (hleave : i.leaveTime ≠ none → a.registrarState ≠ .registered) :
    registrarVars (agingStep a i) = registrarVars a := by
  have hkept : i.leaveTime ≠ none → ∀ now, registrarLeave now a = a :=
    fun hsome now => if_neg (hleave hsome)
  unfold agingStep
  rw [registrarVars_mrpInput]
  cases i with
  | received e four now =>
    cases e with
    | evLv => exact congrArg registrarVars (hkept (Option.some_ne_none _) _)
    | evNew => exact absurd (Or.inl rfl) hi
    | evJoinIn => exact absurd (Or.inr (Or.inl rfl)) hi
    | evJoinMt => exact absurd (Or.inr (Or.inr rfl)) hi
    | evIn | evMt => rfl
  | transmit leaveAll now =>
    cases leaveAll
    · rfl
    · exact congrArg registrarVars (hkept (Option.some_ne_none _) _)
  | poll now => exact absurd hpoll (Option.some_ne_none _)
  | leaveAll now => exact congrArg registrarVars (hkept (Option.some_ne_none _) _)
  | _ => rfl

/-- **A poll while the timer runs.**  Up to the end of the period nothing happens, and later the
registrar becomes empty and the Leave is noted. -/
theorem poll_leaving (h : Leaving start prev (registrarVars a)) (hlater : prev ≤ now)
    (hsoon : now < prev + 2 ^ 31) :
    (now ≤ start + leavePeriod → Leaving start now (registrarVars (agingStep a (.poll now))) ∧
      (agingStep a (.poll now)).pendingLeave = false) ∧
    (start + leavePeriod < now → (agingStep a (.poll now)).registrarState = .empty ∧
      (agingStep a (.poll now)).pendingLeave = true) := by
  obtain ⟨hfollows, hfires⟩ := timer_step h.timer (by decide) hlater hsoon
  have hleaving : a.registrarState = .leaving := h.registrar
  have hstep : agingStep a (.poll now) = pollLeaveTimer (now % 2 ^ 32) (clearPending a) := rfl
  rw [hstep]
  unfold pollLeaveTimer
  constructor
  · intro hearly
    have hnot : (avbTimerExpired (now % 2 ^ 32) a.leaveTimer).2 = false :=
      Bool.eq_false_iff.mpr fun hexpired => absurd (hfires.mp hexpired).2 (Nat.not_lt.mpr hearly)
    rw [TimerStages.poll, if_neg (Nat.not_lt.mpr hearly)] at hfollows
    dsimp only [clearPending]
    rw [hnot]
    exact ⟨⟨hleaving, hfollows⟩, rfl⟩
  · intro hlate
    have hexpired : (avbTimerExpired (now % 2 ^ 32) a.leaveTimer).2 = true :=
      hfires.mpr ⟨rfl, hlate⟩
    dsimp only [clearPending]
    rw [if_pos hexpired]
    have hvars := registrarVars_mrpUpdateState (now % 2 ^ 32) 0 .leaveTimer
      { clearPending a with leaveTimer := (avbTimerExpired (now % 2 ^ 32) a.leaveTimer).1 }
    have hexpire : registrarEvent (now % 2 ^ 32) 0 .leaveTimer
        { clearPending a with leaveTimer := (avbTimerExpired (now % 2 ^ 32) a.leaveTimer).1 } =
        { clearPending a with
          leaveTimer := (avbTimerExpired (now % 2 ^ 32) a.leaveTimer).1
          pendingLeave := true, fourVectorParameter := 0, registrarState := .empty } :=
      if_pos hleaving
    rw [hexpire] at hvars
    exact ⟨congrArg RegistrarVars.registrar hvars, congrArg RegistrarVars.pendingLeave hvars⟩

lemma leaving_run {rest : List ℕ} : ∀ (is : List MrpInput) {a : MrpAttribute} {prev : ℕ},
    Leaving start prev (registrarVars a) → (∀ i ∈ is, ¬ i.Refreshes) →
      (∀ now ∈ pollTimes is, now ≤ start + leavePeriod) → Spaced (prev :: (pollTimes is ++ rest)) →
      ((Run.runFrom agingStep a is).pendingLeave = true → a.pendingLeave = true) ∧
        ∃ last, Leaving start last (registrarVars (Run.runFrom agingStep a is)) ∧
          Spaced (last :: rest)
  | [], _, prev, h, _, _, hspaced => ⟨id, prev, h, hspaced⟩
  | i :: is, a, prev, h, hquiet, hearly, hspaced => by
    have hi := hquiet i List.mem_cons_self
    have hrest := fun j hj => hquiet j (List.mem_cons_of_mem i hj)
    rw [Run.runFrom_cons]
    cases hpoll : i.pollTime with
    | none =>
      have hleaving : a.registrarState = .leaving := h.registrar
      have hvars := registrarVars_quiet hi hpoll fun _ => by rw [hleaving]; decide
      have hsame : (agingStep a i).pendingLeave = a.pendingLeave :=
        congrArg RegistrarVars.pendingLeave hvars
      rw [pollTimes, List.filterMap_cons_none hpoll] at hearly hspaced
      rw [← hsame]
      exact leaving_run is (hvars.symm ▸ h) hrest hearly hspaced
    | some now =>
      rw [pollTimes, List.filterMap_cons_some hpoll] at hearly hspaced
      obtain ⟨⟨hlater, hsoon⟩, hspaced⟩ := List.isChain_cons_cons.mp hspaced
      obtain ⟨hleaving, hnot⟩ := (poll_leaving h hlater hsoon).1 (hearly now List.mem_cons_self)
      rw [MrpInput.eq_poll hpoll]
      obtain ⟨hnone, hlast⟩ := leaving_run is hleaving hrest
        (fun t ht => hearly t (List.mem_cons_of_mem now ht)) hspaced
      exact ⟨fun hpending => absurd (hnone hpending) (hnot ▸ Bool.false_ne_true), hlast⟩

lemma refresh_step (hi : i.Refreshes) : (agingStep a i).registrarState = .registered ∧
      (agingStep a i).pendingLeave = a.pendingLeave := by
  have hstop : (stopLeaveTimer a).pendingLeave = a.pendingLeave := by rw [stopLeaveTimer_eq]
  have hjoin : ∀ four, (registrarJoin four a).registrarState = .registered ∧
      (registrarJoin four a).pendingLeave = a.pendingLeave := by
    intro four
    unfold registrarJoin
    split_ifs <;> exact ⟨rfl, hstop⟩
  cases i with
  | received e four now =>
    have hvars := registrarVars_mrpInput a (.received e four (now % 2 ^ 32))
    rcases hi with rfl | rfl | rfl
    · exact ⟨congrArg RegistrarVars.registrar hvars,
        (congrArg RegistrarVars.pendingLeave hvars).trans hstop⟩
    all_goals exact ⟨(congrArg RegistrarVars.registrar hvars).trans (hjoin four).1,
        (congrArg RegistrarVars.pendingLeave hvars).trans (hjoin four).2⟩
  | _ => exact hi.elim

lemma registrar_kept_step (h : TimerSound (registrarVars a))
    (hi : a.registrarState = .registered ∧ i.leaveTime = none ∨
      a.registrarState = .empty ∧ ¬ i.Refreshes) :
    (agingStep a i).registrarState = a.registrarState ∧
      ((agingStep a i).pendingLeave = true → a.pendingLeave = true ∧ i.pollTime = none) := by
  by_cases hrefresh : i.Refreshes
  · obtain ⟨hregistered, -⟩ := hi.resolve_right fun hempty => hempty.2 hrefresh
    obtain ⟨hstate, hpending⟩ := refresh_step (a := a) hrefresh
    refine ⟨hstate.trans hregistered.symm, fun hleave => ⟨hpending.symm.trans hleave, ?_⟩⟩
    cases i with
    | poll now => exact hrefresh.elim
    | _ => rfl
  · cases hpoll : i.pollTime with
    | some now =>
      rw [MrpInput.eq_poll hpoll]
      have hclear : TimerSound (registrarVars (clearPending a)) := ⟨h.once, h.active⟩
      have hstate : a.registrarState ≠ .leaving := by
        rcases hi with ⟨heq, -⟩ | ⟨heq, -⟩ <;> rw [heq] <;> decide
      obtain ⟨-, timer, hvars | ⟨hleaving, -⟩⟩ := pollLeaveTimer_cases hclear (now % 2 ^ 32)
      · refine ⟨congrArg RegistrarVars.registrar hvars, fun hleave => ?_⟩
        cases (congrArg RegistrarVars.pendingLeave hvars).symm.trans hleave
      · exact absurd hleaving hstate
    | none =>
      have hvars := registrarVars_quiet (a := a) hrefresh hpoll fun hleave => by
        rw [(hi.resolve_left fun hin => hleave hin.2).1]
        decide
      exact ⟨congrArg RegistrarVars.registrar hvars,
        fun hleave => ⟨(congrArg RegistrarVars.pendingLeave hvars).symm.trans hleave, rfl⟩⟩

lemma settled_run (r : MrpRegistrarState) : ∀ (is : List MrpInput) {a : MrpAttribute},
    TimerSound (registrarVars a) → a.registrarState = r →
      (∀ i ∈ is, r = .registered ∧ i.leaveTime = none ∨ r = .empty ∧ ¬ i.Refreshes) →
      (Run.runFrom agingStep a is).registrarState = r ∧
        ((Run.runFrom agingStep a is).pendingLeave = true →
          a.pendingLeave = true ∧ pollTimes is = [])
  | [], _, _, hr, _ => ⟨hr, fun hleave => ⟨hleave, rfl⟩⟩
  | i :: is, a, h, hr, his => by
    obtain ⟨hstate, hleave⟩ := registrar_kept_step h (hr ▸ his i List.mem_cons_self)
    obtain ⟨hrun, hlater⟩ := settled_run r is (timerSound_mrpInput h i.wrapped) (hstate.trans hr)
      fun j hj => his j (List.mem_cons_of_mem i hj)
    refine ⟨hrun, fun hpending => ?_⟩
    obtain ⟨hbefore, hnone⟩ := hlater hpending
    obtain ⟨hfirst, hpoll⟩ := hleave hbefore
    exact ⟨hfirst, (List.filterMap_cons_none hpoll).trans hnone⟩

/-- **Registrations age out exactly when they are not refreshed.**  Let a Leave or a LeaveAll occur
at `start` while the registrar is IN, and let no declaration and no poll later than the period
follow.  Then the registrar is leaving, however many Leaves were repeated.  A declaration returns
it to IN and stops the timer, and no Leave is noted until another Leave comes.  A poll within the
period notes nothing, and a later one makes the registrar empty and notes the Leave, which no
further poll does. -/
theorem registration_ages_out (a : MrpAttribute) (history : List MrpInput)
    (hin : (Run.runFrom agingStep (mrpMadBegin a) history).registrarState = .registered)
    (l : MrpInput) (start : ℕ) (hleave : l.leaveTime = some start) (xs : List MrpInput)
    (hquiet : ∀ i ∈ xs, ¬ i.Refreshes) (hearly : ∀ now ∈ pollTimes xs, now ≤ start + leavePeriod)
    (hspaced : Spaced (start :: pollTimes xs)) :
    let before := Run.runFrom agingStep (mrpMadBegin a) history
    let b := Run.runFrom agingStep before (l :: xs)
    b.registrarState = .leaving ∧ (b.pendingLeave = true → before.pendingLeave = true) ∧
      (∀ i ys, i.Refreshes → (∀ j ∈ ys, j.leaveTime = none) →
        (Run.runFrom agingStep b (i :: ys)).registrarState = .registered ∧
          (Run.runFrom agingStep b (i :: ys)).leaveTimer.active = 0 ∧
          ((Run.runFrom agingStep b (i :: ys)).pendingLeave = true → b.pendingLeave = true)) ∧
      ∀ now, Spaced (start :: (pollTimes xs ++ [now])) →
        (now ≤ start + leavePeriod → (agingStep b (.poll now)).registrarState = .leaving ∧
          (agingStep b (.poll now)).pendingLeave = false) ∧
        (start + leavePeriod < now → (agingStep b (.poll now)).registrarState = .empty ∧
          (agingStep b (.poll now)).pendingLeave = true ∧
          ∀ ys, (∀ j ∈ ys, ¬ j.Refreshes) →
            (Run.runFrom agingStep (agingStep b (.poll now)) ys).registrarState = .empty ∧
              (pollTimes ys ≠ [] →
                (Run.runFrom agingStep (agingStep b (.poll now)) ys).pendingLeave = false)) := by
  intro before b
  have hbefore : TimerSound (registrarVars before) :=
    timerSound_aging (timerSound_mrpMadBegin a) history
  have hb : TimerSound (registrarVars b) := timerSound_aging hbefore (l :: xs)
  obtain ⟨hstart, hpending⟩ := leaving_of_leaveTime hbefore hin hleave
  have hpolls : pollTimes xs ++ [] = pollTimes xs := List.append_nil _
  obtain ⟨hkept, _, hleaving, -⟩ := leaving_run xs hstart hquiet hearly (hpolls.symm ▸ hspaced)
  refine ⟨hleaving.registrar, fun hnoted => hpending.symm.trans (hkept hnoted), ?_, ?_⟩
  · intro i ys hi hys
    obtain ⟨hstate, hsame⟩ := refresh_step (a := b) hi
    have hsound : TimerSound (registrarVars (agingStep b i)) := timerSound_mrpInput hb i.wrapped
    obtain ⟨hrun, hnoted⟩ := settled_run .registered ys hsound hstate
      fun j hj => .inl ⟨rfl, hys j hj⟩
    refine ⟨hrun, ?_, fun hleave => hsame.symm.trans (hnoted hleave).1⟩
    refine (timerSound_aging hsound ys).active.trans (if_neg ?_)
    show (Run.runFrom agingStep (agingStep b i) ys).registrarState ≠ .leaving
    rw [hrun]
    decide
  · intro now hnow
    obtain ⟨-, last, hlast, hnext⟩ := leaving_run xs hstart hquiet hearly hnow
    obtain ⟨hlater, hsoon⟩ := (List.isChain_cons_cons.mp hnext).1
    obtain ⟨hwait, hfire⟩ := poll_leaving hlast hlater hsoon
    refine ⟨fun h => ⟨(hwait h).1.registrar, (hwait h).2⟩, fun h => ⟨(hfire h).1, (hfire h).2, ?_⟩⟩
    intro ys hys
    have hsound : TimerSound (registrarVars (agingStep b (.poll now))) :=
      timerSound_mrpInput hb (MrpInput.poll now).wrapped
    obtain ⟨hrun, hnoted⟩ :=
      settled_run .empty ys hsound (hfire h).1 fun j hj => .inr ⟨rfl, hys j hj⟩
    exact ⟨hrun, fun hpolled => Bool.eq_false_iff.mpr fun hleave => hpolled (hnoted hleave).2⟩

theorem registration_ages_out_repeated_leave :
    let b := Run.runFrom agingStep (mrpMadBegin .zero)
      [.received .evJoinIn 0 0, .received .evLv 0 100, .received .evLv 0 50000000, .poll 60000000]
    (agingStep b (.poll 80000101)).registrarState = .empty ∧
      (agingStep b (.poll 80000101)).pendingLeave = true := by
  obtain ⟨-, -, -, hpoll⟩ := registration_ages_out .zero [.received .evJoinIn 0 0] (by decide)
    (.received .evLv 0 100) 100 rfl [.received .evLv 0 50000000, .poll 60000000]
    (by simp [MrpInput.Refreshes, MrpAttributeEvent.Declares]) (by decide) (by decide)
  exact ⟨((hpoll 80000101 (by decide)).2 (by decide)).1,
    ((hpoll 80000101 (by decide)).2 (by decide)).2.1⟩
