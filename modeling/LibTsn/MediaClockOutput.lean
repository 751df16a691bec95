/-
# The output of a media clock

A media clock toggles its port at times that are `wordLength * 25 / 2` apart, a number with 16
fractional bits.  The whole part is added to the time of the next word and the fraction is gathered
in `lowBits`, from which a tick is taken when it has become one.
-/
import LibTsn.MachineInt

/-- The fields of `media_clock_t` that the output uses. -/
structure MediaClockT where
  wordLength : ℕ
  baseLengthRemainder : ℕ
  wordTime : ℕ
  baseLength : ℕ
  lowBits : ℕ
  count : ℤ
  nextEvent : ℕ
  bit : ℕ
  deriving DecidableEq

namespace MediaClockT

def internalClockDivide : ℕ := 25

def pllToWordMultiplier : ℕ := 100

/-- `divWordLength` in `update_media_clock_divide`. -/
def divWordLength (wordLength : ℕ) : ℕ := wordLength * internalClockDivide / 2

variable (clk : MediaClockT)

def updateDivide : MediaClockT :=
  let div := divWordLength clk.wordLength % 2 ^ 64
  { clk with baseLength := div / 2 ^ 16 % 2 ^ 32, baseLengthRemainder := div % 2 ^ 16 }

/-- The word length that `init_media_clock` sets. -/
def initialWordLength : ℕ := 0x8235556

/-- `init_media_clock`, at time `ptime` of the port and `time` of the timer. -/
def init (ptime time : ℕ) (clk : MediaClockT) : MediaClockT :=
  { updateDivide { clk with count := 0, wordLength := initialWordLength } with
    lowBits := 0
    bit := 0
    wordTime := (ptime + 100000) % 2 ^ 32
    nextEvent := (time + 100000 + 100) % 2 ^ 32 }

/-- `do_media_clock_output`: the clock, and the time and the value of the output. -/
def output : MediaClockT × ℕ × ℕ :=
  let mult := pllToWordMultiplier / (2 * internalClockDivide)
  let toggle := clk.count + 1 = mult
  let lowBits := (clk.lowBits + clk.baseLengthRemainder) % 2 ^ 32
  let carry := if 2 ^ 16 ≤ lowBits then 1 else 0
  let clk := { clk with
    count := if toggle then 0 else clk.count + 1
    bit := if toggle then 2 ^ 32 - 1 - clk.bit else clk.bit
    wordTime := ((clk.wordTime + clk.baseLength) % 2 ^ 32 + carry) % 2 ^ 32
    nextEvent := ((clk.nextEvent + clk.baseLength) % 2 ^ 32 + carry) % 2 ^ 32
    lowBits := lowBits - carry * 2 ^ 16 }
  (clk, clk.wordTime, clk.bit)

/-- What happens to a clock: `update_media_clocks` gives it a word length, or it is put out. -/
inductive Event
  | update (wordLength : UInt32)
  | output

def step : Event → MediaClockT
  | .update wordLength => updateDivide { clk with wordLength := wordLength.toNat }
  | .output => clk.output.1

def lengthsInForce : ℕ → List Event → List ℕ
  | _, [] => []
  | _, .update wordLength :: events => lengthsInForce wordLength.toNat events
  | wordLength, .output :: events => divWordLength wordLength :: lengthsInForce wordLength events

/-- The clock has the parts of its length, and is as far from `from₀` as the total says. -/
structure Exact (from₀ : MediaClockT) (total : ℕ) (clk : MediaClockT) : Prop where
  fits : clk.wordLength < 2 ^ 32
  base : clk.baseLength = divWordLength clk.wordLength / 2 ^ 16
  remainder : clk.baseLengthRemainder = divWordLength clk.wordLength % 2 ^ 16
  wordTime : clk.wordTime = (from₀.wordTime + total / 2 ^ 16) % 2 ^ 32
  nextEvent : clk.nextEvent = (from₀.nextEvent + total / 2 ^ 16) % 2 ^ 32
  lowBits : clk.lowBits = total % 2 ^ 16

variable {from₀ clk : MediaClockT} {total : ℕ}

lemma divWordLength_lt {wordLength : ℕ} (h : wordLength < 2 ^ 32) :
    divWordLength wordLength < 2 ^ 36 := by
  unfold divWordLength internalClockDivide
  omega

lemma updateDivide_parts (h : clk.wordLength < 2 ^ 32) :
    clk.updateDivide.baseLength = divWordLength clk.wordLength / 2 ^ 16 ∧
      clk.updateDivide.baseLengthRemainder = divWordLength clk.wordLength % 2 ^ 16 := by
  have hlt := divWordLength_lt h
  show divWordLength clk.wordLength % 2 ^ 64 / 2 ^ 16 % 2 ^ 32 = _ ∧
    divWordLength clk.wordLength % 2 ^ 64 % 2 ^ 16 = _
  omega

lemma exact_init (ptime time : ℕ) (clk : MediaClockT) :
    Exact (init ptime time clk) 0 (init ptime time clk) := by
  have hfits : ({ clk with count := 0, wordLength := initialWordLength } : MediaClockT).wordLength
      < 2 ^ 32 := show initialWordLength < 2 ^ 32 by decide
  obtain ⟨hbase, hremainder⟩ := updateDivide_parts hfits
  refine ⟨hfits, hbase, hremainder, ?_, ?_, (Nat.zero_mod _).symm⟩
  · show (ptime + 100000) % 2 ^ 32 = ((ptime + 100000) % 2 ^ 32 + 0 / 2 ^ 16) % 2 ^ 32
    omega
  · show (time + 100000 + 100) % 2 ^ 32 = ((time + 100000 + 100) % 2 ^ 32 + 0 / 2 ^ 16) % 2 ^ 32
    omega

lemma exact_update (h : Exact from₀ total clk) (wordLength : UInt32) :
    Exact from₀ total (clk.step (.update wordLength)) := by
  have hfits : ({ clk with wordLength := wordLength.toNat } : MediaClockT).wordLength < 2 ^ 32 :=
    wordLength.toNat_lt
  obtain ⟨hbase, hremainder⟩ := updateDivide_parts hfits
  exact ⟨hfits, hbase, hremainder, h.wordTime, h.nextEvent, h.lowBits⟩

/-- **One output.**  The length in force is added to the total. -/
theorem exact_output (h : Exact from₀ total clk) :
    Exact from₀ (total + divWordLength clk.wordLength) clk.output.1 := by
  obtain ⟨hfits, hbase, hremainder, hword, hevent, hlow⟩ := h
  have hsum : (clk.lowBits + clk.baseLengthRemainder) % 2 ^ 32
      = total % 2 ^ 16 + divWordLength clk.wordLength % 2 ^ 16 := by omega
  refine ⟨hfits, hbase, hremainder, ?_, ?_, ?_⟩ <;> dsimp only [output] <;>
    rw [hsum] <;> split_ifs <;> omega

lemma exact_run : ∀ (events : List Event) {clk : MediaClockT} {total : ℕ}, Exact from₀ total clk →
    Exact from₀ (total + (lengthsInForce clk.wordLength events).sum) (events.foldl step clk)
  | [], _, _, h => h
  | .update wordLength :: events, _, _, h => exact_run events (exact_update h wordLength)
  | .output :: events, clk, total, h => by
    have hrest := exact_run events (exact_output h)
    rw [Nat.add_assoc] at hrest
    exact hrest

/-- **No rounding error.**  Whatever word lengths are set between the outputs, the time of the next
word and the next event have advanced by the whole part of the sum of the lengths that were in
force at the outputs, and the fraction is the rest. -/
theorem output_exact (ptime time : ℕ) (clk : MediaClockT) (events : List Event) :
    let start := init ptime time clk
    let total := (lengthsInForce initialWordLength events).sum
    (events.foldl step start).wordTime = (start.wordTime + total / 2 ^ 16) % 2 ^ 32 ∧
      (events.foldl step start).nextEvent = (start.nextEvent + total / 2 ^ 16) % 2 ^ 32 ∧
      (events.foldl step start).lowBits = total % 2 ^ 16 ∧
      (events.foldl step start).lowBits < 2 ^ 16 := by
  intro start total
  have hexact : Exact start (0 + total) (events.foldl step start) :=
    exact_run events (exact_init ptime time clk)
  rw [Nat.zero_add] at hexact
  refine ⟨hexact.wordTime, hexact.nextEvent, hexact.lowBits, ?_⟩
  rw [hexact.lowBits]
  exact Nat.mod_lt _ (by decide)

end MediaClockT
