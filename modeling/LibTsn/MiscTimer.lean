/-
# Timers

The timeout periods of `misc_timer.xc`.  A timer runs for `timeoutMultiplier`
periods; every function that reads the local time takes the reading as an
argument.
-/
import LibTsn.MachineInt

def ticksPerCentisecond : ℕ := 1000000

structure AvbTimer where
  timeout : ℕ
  period : ℕ
  active : ℤ
  timeoutMultiplier : ℤ
  deriving DecidableEq, Repr

def initAvbTimer (mult : ℤ) (tmr : AvbTimer) : AvbTimer :=
  { tmr with active := 0, timeoutMultiplier := mult }

/-- `start_avb_timer`, at local time `now`. -/
def startAvbTimer (now periodCs : ℕ) (tmr : AvbTimer) : AvbTimer :=
  { tmr with
    period := periodCs * ticksPerCentisecond % 2 ^ 32
    timeout := (now + periodCs * ticksPerCentisecond) % 2 ^ 32
    active := tmr.timeoutMultiplier }

lemma startAvbTimer_active (now periodCs : ℕ) (tmr : AvbTimer) :
    (startAvbTimer now periodCs tmr).active = tmr.timeoutMultiplier := by
  -- the fields are not compared with those of `tmr`, whose timeout differs
  have hfield : ∀ timeout period active mult,
      (AvbTimer.mk timeout period active mult).active = active := fun _ _ _ _ => rfl
  exact hfield _ _ _ _

lemma startAvbTimer_timeoutMultiplier (now periodCs : ℕ) (tmr : AvbTimer) :
    (startAvbTimer now periodCs tmr).timeoutMultiplier = tmr.timeoutMultiplier := by
  have hfield : ∀ timeout period active mult,
      (AvbTimer.mk timeout period active mult).timeoutMultiplier = mult := fun _ _ _ _ => rfl
  exact hfield _ _ _ _

/-- `avb_timer_expired`, at local time `now`. -/
def avbTimerExpired (now : ℕ) (tmr : AvbTimer) : AvbTimer × Bool :=
  if tmr.active = 0 then (tmr, false)
  else if timeafter now tmr.timeout then
    ({ tmr with active := tmr.active - 1, timeout := (now + tmr.period) % 2 ^ 32 },
      decide (tmr.active - 1 = 0))
  else (tmr, false)

def stopAvbTimer (tmr : AvbTimer) : AvbTimer := { tmr with active := 0 }
