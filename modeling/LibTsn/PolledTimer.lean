/-
# A polled timer

The timer of `misc_timer.xc` is started with a period and then polled, at times that are read from
a free-running counter of 32 bits.  A poll *counts* when more than a period has passed since the
poll that counted before it, or since the start.  Time is unbounded here, and every reading of it
is taken modulo `2 ^ 32`.
-/
import LibTsn.MiscTimer

/-- The polls counted since the timer was started, and the time of the last of them (of the start,
if there is none). -/
structure TimerStages where
  count : ℕ
  last : ℕ
  deriving DecidableEq

def TimerStages.poll (p : ℕ) (s : TimerStages) (now : ℕ) : TimerStages :=
  if s.last + p < now then ⟨s.count + 1, now⟩ else s

def stagesAfter (p start : ℕ) (polls : List ℕ) : TimerStages :=
  polls.foldl (TimerStages.poll p) ⟨0, start⟩

/-- The timer after `avb_timer_expired` was called at the given times. -/
def pollTimer (tmr : AvbTimer) (polls : List ℕ) : AvbTimer :=
  polls.foldl (fun tmr now => (avbTimerExpired (now % 2 ^ 32) tmr).1) tmr

/-- What `avb_timer_expired` returns at time `now`, after the polls before. -/
def timerReport (tmr : AvbTimer) (before : List ℕ) (now : ℕ) : Bool :=
  (avbTimerExpired (now % 2 ^ 32) (pollTimer tmr before)).2

def Spaced (times : List ℕ) : Prop :=
  times.IsChain fun now next => now ≤ next ∧ next < now + 2 ^ 31

instance (times : List ℕ) : Decidable (Spaced times) :=
  inferInstanceAs (Decidable (times.IsChain _))

lemma timeafter_mod_iff {now due : ℕ} (hnow : now < due + 2 ^ 31) (hdue : due < now + 2 ^ 31) :
    timeafter (now % 2 ^ 32) (due % 2 ^ 32) = true ↔ due < now := by
  unfold timeafter s32
  rw [decide_eq_true_iff]
  omega

/-- A timer of `m` stages of `p` ticks is where the stages say, at time `prev`. -/
structure TimerFollows (m p start : ℕ) (s : TimerStages) (prev : ℕ) (tmr : AvbTimer) : Prop where
  active : tmr.active = (m - s.count : ℕ)
  period : tmr.period = p
  timeout : s.count < m → tmr.timeout = (s.last + p) % 2 ^ 32
  since : s.last ≤ prev
  until_next : prev ≤ s.last + p
  elapsed : start + s.count * p ≤ s.last

variable {m p start prev now : ℕ} {s : TimerStages} {tmr : AvbTimer}

lemma TimerFollows.timeafter_iff (h : TimerFollows m p start s prev tmr) (hp : p < 2 ^ 31)
    (hlater : prev ≤ now) (hsoon : now < prev + 2 ^ 31) (hleft : s.count < m) :
    timeafter (now % 2 ^ 32) tmr.timeout = true ↔ s.last + p < now := by
  rw [h.timeout hleft]
  have hsince := h.since
  have huntil := h.until_next
  exact timeafter_mod_iff (by omega) (by omega)

/-- **One poll.**  The timer goes on with the stages, and it fires exactly if the poll counts and
ends the last of them. -/
theorem timer_step (h : TimerFollows m p start s prev tmr) (hp : p < 2 ^ 31) (hlater : prev ≤ now)
    (hsoon : now < prev + 2 ^ 31) :
    TimerFollows m p start (s.poll p now) now (avbTimerExpired (now % 2 ^ 32) tmr).1 ∧
      ((avbTimerExpired (now % 2 ^ 32) tmr).2 = true ↔ s.count + 1 = m ∧ s.last + p < now) := by
  have hactive := h.active
  have hsince := h.since
  have helapsed := h.elapsed
  have hcounted : start + (s.count + 1) * p = start + s.count * p + p := by ring
  unfold avbTimerExpired TimerStages.poll
  by_cases hleft : s.count < m
  · have hafter := h.timeafter_iff hp hlater hsoon hleft
    have hrunning : ¬ tmr.active = 0 := by omega
    rw [if_neg hrunning]
    by_cases hcounts : s.last + p < now
    · rw [if_pos (hafter.mpr hcounts), if_pos hcounts, decide_eq_true_iff]
      refine ⟨⟨?_, h.period, fun _ => ?_, le_rfl, Nat.le_add_right _ _, ?_⟩, ?_⟩
      · show tmr.active - 1 = (m - (s.count + 1) : ℕ)
        omega
      · show (now % 2 ^ 32 + tmr.period) % 2 ^ 32 = (now + p) % 2 ^ 32
        rw [h.period, Nat.mod_add_mod]
      · show start + (s.count + 1) * p ≤ now
        omega
      · omega
    · rw [if_neg fun hfalse => hcounts (hafter.mp hfalse), if_neg hcounts]
      refine ⟨⟨hactive, h.period, h.timeout, hsince.trans hlater, by omega, helapsed⟩, ?_⟩
      exact ⟨fun hfalse => absurd hfalse Bool.false_ne_true, fun hfires => absurd hfires.2 hcounts⟩
  · -- the last stage is over; the timeout stays behind, but it is not looked at any more
    have hover : tmr.active = 0 := by omega
    rw [if_pos hover]
    refine ⟨?_, fun hfalse => absurd hfalse Bool.false_ne_true, fun hfires => by omega⟩
    split_ifs with hcounts
    · refine ⟨?_, h.period, fun hmore => ?_, le_rfl, Nat.le_add_right _ _, ?_⟩
      · show tmr.active = (m - (s.count + 1) : ℕ)
        omega
      · exact absurd (Nat.lt_of_succ_lt hmore) hleft
      · show start + (s.count + 1) * p ≤ now
        omega
    · exact ⟨hactive, h.period, h.timeout, hsince.trans hlater, by omega, helapsed⟩

lemma timer_run (hp : p < 2 ^ 31) {after : List ℕ} : ∀ (before : List ℕ) {s : TimerStages}
    {prev : ℕ} {tmr : AvbTimer}, TimerFollows m p start s prev tmr →
      Spaced (prev :: (before ++ after)) →
      ∃ last, Spaced (last :: after) ∧
        TimerFollows m p start (before.foldl (TimerStages.poll p) s) last (pollTimer tmr before)
  | [], _, prev, _, h, hspaced => ⟨prev, hspaced, h⟩
  | now :: before, _, _, _, h, hspaced => by
    obtain ⟨⟨hlater, hsoon⟩, hrest⟩ := List.isChain_cons_cons.mp hspaced
    exact timer_run hp before (timer_step h hp hlater hsoon).1 hrest

lemma timerFollows_start (m p now : ℕ) (tmr : AvbTimer) (hp : p * ticksPerCentisecond < 2 ^ 31) :
    TimerFollows m (p * ticksPerCentisecond) now ⟨0, now⟩ now
      (startAvbTimer (now % 2 ^ 32) p (initAvbTimer m tmr)) where
  active := startAvbTimer_active _ _ _
  period := Nat.mod_eq_of_lt (hp.trans (by decide))
  timeout _ := Nat.mod_add_mod _ _ _
  since := le_rfl
  until_next := Nat.le_add_right _ _
  elapsed := by rw [Nat.zero_mul, Nat.add_zero]

lemma timer_fires_iff (m : ℕ) (tmr : AvbTimer) {p : ℕ} (hp : p * ticksPerCentisecond < 2 ^ 31)
    {before after : List ℕ} (hspaced : Spaced (start :: (before ++ now :: after))) :
    ∃ prev, TimerFollows m (p * ticksPerCentisecond) start
        (stagesAfter (p * ticksPerCentisecond) start before) prev
        (pollTimer (startAvbTimer (start % 2 ^ 32) p (initAvbTimer m tmr)) before) ∧
      (timerReport (startAvbTimer (start % 2 ^ 32) p (initAvbTimer m tmr)) before now = true ↔
        (stagesAfter (p * ticksPerCentisecond) start before).count + 1 = m ∧
          (stagesAfter (p * ticksPerCentisecond) start before).last
            + p * ticksPerCentisecond < now) := by
  have hstarted := timerFollows_start m p start tmr hp
  obtain ⟨prev, hnext, hfollows⟩ := timer_run hp before hstarted hspaced
  obtain ⟨⟨hlater, hsoon⟩, _⟩ := List.isChain_cons_cons.mp hnext
  exact ⟨prev, hfollows, (timer_step hfollows hp hlater hsoon).2⟩

lemma count_le_foldl_poll (p : ℕ) (polls : List ℕ) :
    ∀ s : TimerStages, s.count ≤ (polls.foldl (TimerStages.poll p) s).count := by
  induction polls with
  | nil => exact fun s => le_rfl
  | cons now polls ih =>
    intro s
    refine le_trans ?_ (ih _)
    unfold TimerStages.poll
    split_ifs
    · exact Nat.le_succ _
    · exact le_rfl

lemma count_lt_of_counted {before : List ℕ} (between : List ℕ)
    (hcounts : (stagesAfter p start before).last + p < now) :
    (stagesAfter p start before).count <
      (stagesAfter p start (before ++ now :: between)).count := by
  have hcount := count_le_foldl_poll p between (TimerStages.poll p (stagesAfter p start before) now)
  rw [TimerStages.poll, if_pos hcounts] at hcount
  have hsplit : stagesAfter p start (before ++ now :: between) = between.foldl (TimerStages.poll p)
      (TimerStages.poll p (stagesAfter p start before) now) := List.foldl_append
  rw [hsplit, TimerStages.poll, if_pos hcounts]
  exact hcount

lemma pollTimer_stopped (hstopped : tmr.active = 0) : ∀ polls, pollTimer tmr polls = tmr
  | [] => rfl
  | now :: polls => by
    have hpoll : (avbTimerExpired (now % 2 ^ 32) tmr).1 = tmr := by
      unfold avbTimerExpired
      rw [if_pos hstopped]
    show pollTimer (avbTimerExpired (now % 2 ^ 32) tmr).1 polls = tmr
    rw [hpoll]
    exact pollTimer_stopped hstopped polls

/-- **The timer fires once and never early.**  For a timer of `m` stages of `p` centiseconds each
that was started at `start`: a poll fires exactly if it is the `m`-th that counts, which is more
than `m` periods after the start; no other poll fires until the timer is started again; and none
does after it was stopped. -/
theorem timer_fires_once (m : ℕ) (hm : 1 ≤ m) (p : ℕ) (hp : p * ticksPerCentisecond < 2 ^ 31)
    (start : ℕ) (polls : List ℕ) (hspaced : Spaced (start :: polls)) (tmr : AvbTimer) :
    let started := startAvbTimer (start % 2 ^ 32) p (initAvbTimer m tmr)
    (∀ before now after, polls = before ++ now :: after →
      (timerReport started before now = true ↔
        (stagesAfter (p * ticksPerCentisecond) start before).count = m - 1 ∧
          (stagesAfter (p * ticksPerCentisecond) start before).last
            + p * ticksPerCentisecond < now) ∧
      (timerReport started before now = true → start + m * (p * ticksPerCentisecond) < now)) ∧
    (∀ before now between later after, polls = before ++ now :: (between ++ later :: after) →
      timerReport started before now = true →
        timerReport started (before ++ now :: between) later = false) ∧
    (∀ before more now,
      timerReport (stopAvbTimer (pollTimer started before)) more now = false) := by
  intro started
  refine ⟨?_, ?_, ?_⟩
  · rintro before now after rfl
    obtain ⟨prev, hfollows, hfires⟩ := timer_fires_iff m tmr hp hspaced
    have helapsed := hfollows.elapsed
    refine ⟨hfires.trans (and_congr_left fun _ => by omega), fun hreport => ?_⟩
    obtain ⟨hcount, hlast⟩ := hfires.mp hreport
    rw [← hcount, Nat.succ_mul]
    omega
  · rintro before now between later after rfl hreport
    obtain ⟨_, _, hfires⟩ := timer_fires_iff m tmr hp hspaced
    obtain ⟨hcount, hlast⟩ := hfires.mp hreport
    have hsplit : before ++ now :: (between ++ later :: after)
        = before ++ now :: between ++ later :: after := by
      rw [List.append_assoc, List.cons_append]
    obtain ⟨_, _, hagain⟩ := timer_fires_iff m tmr hp (hsplit ▸ hspaced)
    refine Bool.eq_false_iff.mpr fun hlater => ?_
    have hcounted := count_lt_of_counted between hlast
    have htwice := (hagain.mp hlater).1
    omega
  · intro before more now
    unfold timerReport
    rw [pollTimer_stopped rfl]
    rfl

theorem timer_fires_once_two_stages :
    let started := startAvbTimer (4294967000 % 2 ^ 32) 1 (initAvbTimer 2 ⟨0, 0, 0, 0⟩)
    timerReport started [4295967001] 4296967002 = true ∧
      timerReport started [4295967001, 4296967002] 4300000000 = false := by
  obtain ⟨hfires, honce, _⟩ := timer_fires_once 2 (by decide) 1 (by decide) 4294967000
    [4295967001, 4296967002, 4300000000] (by decide) ⟨0, 0, 0, 0⟩
  have hfired := (hfires [4295967001] 4296967002 [4300000000] rfl).1.mpr (by decide)
  exact ⟨hfired, honce [4295967001] 4296967002 [] 4300000000 [] rfl hfired⟩
