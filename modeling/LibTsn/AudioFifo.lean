/-
# The audio output FIFO between two threads

The 1722 thread pushes samples into a ring (`audio_output_fifo_strided_push`) that the audio
thread pulls from (`audio_output_fifo_pull_sample`), without a lock.  A push works on a copy of
the write pointer and publishes it at its end; a pull reads the sample before it moves the read
pointer.

A thread is a program counter with the local variables of the call it is in, and one step of it
is one access to the shared record with the local computation up to the next one.
-/
import LibTsn.Bytes
import LibTsn.MachineInt
import LibTsn.Ring
import LibTsn.Run

/-! ## The shared record -/

inductive OfifoState where
  | disabled
  | zeroing
  | locking
  | locked
  deriving DecidableEq, Repr

/-- `ofifo_t`, as far as the two functions access it.  Pointers are positions in `fifo`. -/
structure Ofifo where
  zeroFlag : ℤ
  dptr : ℕ
  wrptr : ℕ
  /-- `none` is the null pointer. -/
  marker : Option ℕ
  localTs : UInt32
  sampleCount : UInt32
  state : OfifoState
  volume : UInt32
  fifo : ℕ → UInt32

structure FifoConfig where
  wordSize : ℕ
  /-- `AVB_1722_FORMAT_SAF` is defined. -/
  formatSaf : Bool
  /-- `AUDIO_OUTPUT_FIFO_VOLUME_CONTROL` is defined. -/
  volumeControl : Bool

variable (cfg : FifoConfig)

def FifoConfig.convert (volume word : UInt32) : UInt32 :=
  let sample := UInt32.ofNat (byterev word.toNat)
  let sample := if cfg.formatSaf then sample else sample <<< 8
  if cfg.volumeControl then
    UInt32.ofNat (s32 sample.toNat * s32 volume.toNat / 2 ^ 38 % 2 ^ 24).toNat
  else sample * volume

def Ofifo.queued (f : Ofifo) : List UInt32 :=
  Ring.window cfg.wordSize f.fifo f.dptr (Ring.distance cfg.wordSize f.dptr f.wrptr)

inductive FifoOut where
  | act (a : BatchQueue.Act UInt32)
  | returned (v : UInt32)
  | underflow (v : UInt32)
  deriving DecidableEq

/-! ## The pushing thread -/

inductive PushPc where
  | idle
  | readWrptr
  | readState
  | readVolume
  | readDptr
  | storeSample
  | writeWrptr
  | readSampleCount
  | writeSampleCount
  deriving DecidableEq, Repr

/-- The local variables of `audio_output_fifo_strided_push`.  The words that `sample_ptr` points to
are given by their distance to it. -/
structure PushThread where
  pc : PushPc
  words : ℤ → UInt32
  stride : ℤ
  n : ℤ
  samplePtr : ℤ
  wrptr : ℕ
  newWrptr : ℕ
  volume : UInt32
  sample : UInt32
  i : ℤ
  count : ℕ
  sampleCount : UInt32

namespace PushThread

variable (cfg : FifoConfig) (f : Ofifo) (t : PushThread)

def call (words : ℤ → UInt32) (stride n : ℤ) : PushThread :=
  { t with
    pc := .readWrptr
    words := words
    stride := stride
    n := n
    samplePtr := 0
    i := 0
    count := 0 }

def loop : PushThread :=
  if t.i < t.n then
    { t with
      pc := .readDptr
      count := t.count + 1
      sample := cfg.convert t.volume (t.words t.samplePtr)
      samplePtr := t.samplePtr + t.stride
      newWrptr := Ring.next cfg.wordSize t.wrptr }
  else { t with pc := .writeWrptr }

def endBody : PushThread :=
  loop cfg { t with i := s32 (t.i + t.stride) }

def step : PushThread :=
  match t.pc with
  | .idle => t
  | .readWrptr => { t with pc := .readState, wrptr := f.wrptr }
  | .readState =>
    if f.state = .zeroing then loop cfg { t with volume := 0 }
    else if cfg.volumeControl then { t with pc := .readVolume }
    else loop cfg { t with volume := 1 }
  | .readVolume => loop cfg { t with volume := f.volume }
  | .readDptr => if t.newWrptr ≠ f.dptr then { t with pc := .storeSample } else endBody cfg t
  | .storeSample => endBody cfg { t with wrptr := t.newWrptr }
  | .writeWrptr => { t with pc := .readSampleCount }
  | .readSampleCount => { t with pc := .writeSampleCount, sampleCount := f.sampleCount }
  | .writeSampleCount => { t with pc := .idle }

def write (f : Ofifo) : Ofifo :=
  match t.pc with
  | .storeSample => { f with fifo := Function.update f.fifo t.wrptr t.sample }
  | .writeWrptr => { f with wrptr := t.wrptr }
  | .writeSampleCount => { f with sampleCount := t.sampleCount + UInt32.ofNat t.count }
  | _ => f

def out : List FifoOut :=
  match t.pc with
  | .readDptr =>
    if t.newWrptr ≠ f.dptr then [.act (.accept t.sample)] else [.act (.refuse t.sample)]
  | .storeSample => [.act (.store t.sample)]
  | .writeWrptr => [.act .publish]
  | _ => []

end PushThread

/-! ## The pulling thread -/

inductive PullPc where
  | idle
  | readDptr
  | readWrptr
  | readSample
  | readMarker
  | readLocalTs
  | writeLocalTs
  | writeDptr
  | readZeroFlag
  deriving DecidableEq, Repr

/-- The local variables of `audio_output_fifo_pull_sample`. -/
structure PullThread where
  pc : PullPc
  timestamp : UInt32
  dptr : ℕ
  sample : UInt32

namespace PullThread

variable (f : Ofifo) (t : PullThread)

def call (timestamp : UInt32) : PullThread :=
  { t with pc := .readDptr, timestamp := timestamp }

def step : PullThread :=
  match t.pc with
  | .idle => t
  | .readDptr => { t with pc := .readWrptr, dptr := f.dptr }
  | .readWrptr => { t with pc := if t.dptr = f.wrptr then .idle else .readSample }
  | .readSample => { t with pc := .readMarker, sample := f.fifo t.dptr }
  | .readMarker => { t with pc := if f.marker = some t.dptr then .readLocalTs else .writeDptr }
  | .readLocalTs =>
    if f.localTs = 0 then
      { t with pc := .writeLocalTs, timestamp := if t.timestamp = 0 then 1 else t.timestamp }
    else { t with pc := .writeDptr }
  | .writeLocalTs => { t with pc := .writeDptr }
  | .writeDptr => { t with pc := .readZeroFlag }
  | .readZeroFlag => { t with pc := .idle }

def write (cfg : FifoConfig) (t : PullThread) (f : Ofifo) : Ofifo :=
  match t.pc with
  | .writeLocalTs => { f with localTs := t.timestamp }
  | .writeDptr => { f with dptr := Ring.next cfg.wordSize t.dptr }
  | _ => f

def out : List FifoOut :=
  match t.pc with
  | .readWrptr => if t.dptr = f.wrptr then [.act .miss, .underflow 0] else []
  | .writeDptr => [.act (.take t.sample)]
  | .readZeroFlag => [.returned (if f.zeroFlag ≠ 0 then 0 else t.sample)]
  | _ => []

end PullThread

/-! ## Interleavings -/

structure FifoSystem where
  fifo : Ofifo
  push : PushThread
  pull : PullThread

inductive FifoEvent where
  | pushCall (words : ℤ → UInt32) (stride n : ℤ)
  | pullCall (timestamp : UInt32)
  | pushAccess
  | pullAccess

namespace FifoSystem

def step (cfg : FifoConfig) (s : FifoSystem) : FifoEvent → FifoSystem
  | .pushCall words stride n =>
    if s.push.pc = .idle then { s with push := s.push.call words stride n } else s
  | .pullCall timestamp =>
    if s.pull.pc = .idle then { s with pull := s.pull.call timestamp } else s
  | .pushAccess => { s with fifo := s.push.write s.fifo, push := s.push.step cfg s.fifo }
  | .pullAccess => { s with fifo := s.pull.write cfg s.fifo, pull := s.pull.step s.fifo }

def out (s : FifoSystem) : FifoEvent → List FifoOut
  | .pushAccess => s.push.out s.fifo
  | .pullAccess => s.pull.out s.fifo
  | _ => []

end FifoSystem

structure FifoRun where
  sys : FifoSystem
  log : List FifoOut

def fifoRunStep (w : FifoRun) (e : FifoEvent) : FifoRun :=
  ⟨w.sys.step cfg e, w.log ++ w.sys.out e⟩

variable (log : List FifoOut)

def queueActs : List (BatchQueue.Act UInt32) :=
  log.filterMap fun
    | .act a => some a
    | _ => none

def returnedSamples : List UInt32 :=
  log.filterMap fun
    | .returned v => some v
    | _ => none

def acceptedSamples : List UInt32 := BatchQueue.stored (queueActs log)

def takenCount : ℕ := (BatchQueue.taken (queueActs log)).length

/-! ## The queue behind the record -/

structure Ofifo.Holds (cfg : FifoConfig) (f : Ofifo) (q : BatchQueue UInt32) : Prop where
  locked : f.state = .locked
  zero : f.zeroFlag = 0
  dptr_lt : f.dptr < cfg.wordSize
  room : q.content.length < cfg.wordSize
  cells : Ring.window cfg.wordSize f.fifo f.dptr q.content.length = q.content
  visible_le : q.visible ≤ q.content.length
  wrptr : f.wrptr = (f.dptr + q.visible) % cfg.wordSize

def PushPc.hasCopy : PushPc → Bool
  | .readState | .readVolume | .readDptr | .storeSample | .writeWrptr => true
  | _ => false

structure PushThread.Follows (cfg : FifoConfig) (f : Ofifo) (q : BatchQueue UInt32)
    (t : PushThread) : Prop where
  copy : t.pc.hasCopy = true → t.wrptr = (f.dptr + q.content.length) % cfg.wordSize
  published : t.pc.hasCopy = false → q.visible = q.content.length
  next : t.pc = .readDptr ∨ t.pc = .storeSample → t.newWrptr = Ring.next cfg.wordSize t.wrptr
  space : t.pc = .storeSample → q.content.length + 1 < cfg.wordSize

def PullPc.hasCopy : PullPc → Bool
  | .readWrptr | .readSample | .readMarker | .readLocalTs | .writeLocalTs | .writeDptr => true
  | _ => false

def PullPc.hasFound : PullPc → Bool
  | .readSample | .readMarker | .readLocalTs | .writeLocalTs | .writeDptr => true
  | _ => false

def PullPc.hasRead : PullPc → Bool
  | .readMarker | .readLocalTs | .writeLocalTs | .writeDptr => true
  | _ => false

structure PullThread.Follows (f : Ofifo) (q : BatchQueue UInt32) (t : PullThread) : Prop where
  copy : t.pc.hasCopy = true → t.dptr = f.dptr
  found : t.pc.hasFound = true → 0 < q.visible
  value : t.pc.hasRead = true → q.content.head? = some t.sample

/-- **The refinement.** -/
structure FifoSystem.Refines (cfg : FifoConfig) (s : FifoSystem) (q : BatchQueue UInt32) :
    Prop where
  holds : s.fifo.Holds cfg q
  push : s.push.Follows cfg s.fifo q
  pull : s.pull.Follows s.fifo q

lemma foldlM_queueActs_singleton {capacity : ℕ} {q q' : BatchQueue UInt32}
    {a : BatchQueue.Act UInt32} (h : q.step capacity a = some q') :
    (queueActs [.act a]).foldlM (BatchQueue.step capacity) q = some q' := by
  show [a].foldlM (BatchQueue.step capacity) q = some q'
  rw [List.foldlM_cons, h]
  rfl

section

variable {cfg : FifoConfig} {f : Ofifo} {q : BatchQueue UInt32} {t : PushThread}

lemma PushThread.Follows.of_published (hpc : t.pc.hasCopy = false)
    (h : q.visible = q.content.length) : t.Follows cfg f q where
  copy := fun hcopy => by cases hpc.symm.trans hcopy
  published := fun _ => h
  next := by
    rintro (hread | hstore)
    · rw [hread] at hpc
      cases hpc
    · rw [hstore] at hpc
      cases hpc
  space := fun hstore => by
    rw [hstore] at hpc
    cases hpc

lemma PushThread.Follows.of_copy (hpc : t.pc.hasCopy = true) (hread : t.pc ≠ .readDptr)
    (hstore : t.pc ≠ .storeSample) (h : t.wrptr = (f.dptr + q.content.length) % cfg.wordSize) :
    t.Follows cfg f q where
  copy := fun _ => h
  published := fun hcopy => by cases hcopy.symm.trans hpc
  next := fun hor => hor.elim (fun heq => absurd heq hread) (fun heq => absurd heq hstore)
  space := fun heq => absurd heq hstore

lemma follows_loop (h : t.wrptr = (f.dptr + q.content.length) % cfg.wordSize) :
    (t.loop cfg).Follows cfg f q := by
  unfold PushThread.loop
  split_ifs
  · exact ⟨fun _ => h, fun hcopy => (by cases hcopy), fun _ => rfl, fun hpc => (by cases hpc)⟩
  · exact .of_copy rfl (by decide : PushPc.writeWrptr ≠ _) (by decide : PushPc.writeWrptr ≠ _) h

lemma newWrptr_eq_dptr_iff (h : f.Holds cfg q) (ht : t.Follows cfg f q) (hpc : t.pc = .readDptr) :
    t.newWrptr = f.dptr ↔ q.content.length = cfg.wordSize - 1 := by
  have hn : 0 < cfg.wordSize := Nat.zero_lt_of_lt h.dptr_lt
  have hroom := h.room
  rw [ht.next (Or.inl hpc), ht.copy (by rw [hpc]; rfl), Ring.next_mod hn, Nat.add_assoc]
  by_cases hfull : q.content.length + 1 = cfg.wordSize
  · rw [hfull, Nat.add_mod_right, Nat.mod_eq_of_lt h.dptr_lt]
    exact iff_of_true rfl (by omega)
  · refine iff_of_false (fun heq => ?_) (by omega)
    have := (Ring.eq_add_mod_iff h.dptr_lt (by omega)).mp heq.symm
    omega

def PushRefines (cfg : FifoConfig) (f : Ofifo) (t : PushThread) (q : BatchQueue UInt32) : Prop :=
  ∃ q', (queueActs (t.out f)).foldlM (BatchQueue.step (cfg.wordSize - 1)) q = some q' ∧
    (t.write f).Holds cfg q' ∧ (t.step cfg f).Follows cfg (t.write f) q' ∧
    (t.write f).dptr = f.dptr ∧ (0 < q.visible → 0 < q'.visible) ∧
    ∀ v, q.content.head? = some v → q'.content.head? = some v

lemma PushRefines.quiet (hout : t.out f = []) (hwrite : t.write f = f) (h : f.Holds cfg q)
    (hstep : (t.step cfg f).Follows cfg f q) : PushRefines cfg f t q := by
  unfold PushRefines
  rw [hout, hwrite]
  exact ⟨q, rfl, h, hstep, rfl, id, fun _ hv => hv⟩

/-- **Push.**  An access of the pushing thread is an action of the queue. -/
theorem push_refines (h : f.Holds cfg q) (ht : t.Follows cfg f q) : PushRefines cfg f t q := by
  cases hpc : t.pc with
  | idle =>
    refine .quiet (by rw [PushThread.out, hpc]) (by rw [PushThread.write, hpc]) h ?_
    rw [PushThread.step, hpc]
    exact ht
  | readWrptr =>
    refine .quiet (by rw [PushThread.out, hpc]) (by rw [PushThread.write, hpc]) h ?_
    rw [PushThread.step, hpc]
    refine .of_copy rfl (by decide : PushPc.readState ≠ _) (by decide : PushPc.readState ≠ _) ?_
    have hall : q.visible = q.content.length := ht.published (by rw [hpc]; rfl)
    rw [← hall]
    exact h.wrptr
  | readState =>
    have hcopy := ht.copy (by rw [hpc]; rfl)
    refine .quiet (by rw [PushThread.out, hpc]) (by rw [PushThread.write, hpc]) h ?_
    rw [PushThread.step, hpc]
    dsimp only
    split_ifs
    · exact follows_loop hcopy
    · exact .of_copy rfl (by decide : PushPc.readVolume ≠ _) (by decide : PushPc.readVolume ≠ _)
        hcopy
    · exact follows_loop hcopy
  | readVolume =>
    refine .quiet (by rw [PushThread.out, hpc]) (by rw [PushThread.write, hpc]) h ?_
    rw [PushThread.step, hpc]
    exact follows_loop (ht.copy (by rw [hpc]; rfl))
  | readDptr =>
    have hcopy := ht.copy (by rw [hpc]; rfl)
    have hfull := newWrptr_eq_dptr_iff h ht hpc
    have hroom := h.room
    have hwrite : t.write f = f := by rw [PushThread.write, hpc]
    unfold PushRefines
    rw [PushThread.out, PushThread.step, hpc, hwrite]
    by_cases heq : t.newWrptr = f.dptr
    · -- the sample is dropped
      rw [if_neg (not_not.mpr heq), if_neg (not_not.mpr heq)]
      exact ⟨q, foldlM_queueActs_singleton (if_pos (hfull.mp heq)), h, follows_loop hcopy, rfl, id,
        fun _ hv => hv⟩
    · rw [if_pos heq, if_pos heq]
      have hlt : q.content.length < cfg.wordSize - 1 := by
        have := mt hfull.mpr heq
        omega
      refine ⟨q, foldlM_queueActs_singleton (if_pos hlt), h, ?_, rfl, id, fun _ hv => hv⟩
      exact ⟨fun _ => hcopy, fun hcopy' => (by cases hcopy'), fun _ => ht.next (Or.inl hpc),
        fun _ => (by omega)⟩
  | storeSample =>
    have hcopy := ht.copy (by rw [hpc]; rfl)
    have hspace := ht.space hpc
    have hn : 0 < cfg.wordSize := Nat.zero_lt_of_lt h.dptr_lt
    unfold PushRefines
    rw [PushThread.out, PushThread.step, PushThread.write, hpc]
    refine ⟨{ q with content := q.content ++ [t.sample] },
      foldlM_queueActs_singleton (if_pos (by omega)), ?_, ?_, rfl, id, ?_⟩
    · refine ⟨h.locked, h.zero, h.dptr_lt, ?_, ?_, ?_, h.wrptr⟩
      · show (q.content ++ [t.sample]).length < cfg.wordSize
        rw [List.length_append, List.length_singleton]
        exact hspace
      · show Ring.window cfg.wordSize (Function.update f.fifo t.wrptr t.sample) f.dptr
          (q.content ++ [t.sample]).length = q.content ++ [t.sample]
        rw [List.length_append, List.length_singleton, Ring.window_succ, hcopy,
          Ring.window_update _ _ h.room, h.cells, Function.update_self]
      · show q.visible ≤ (q.content ++ [t.sample]).length
        rw [List.length_append]
        exact Nat.le_add_right_of_le h.visible_le
    · refine follows_loop ?_
      show t.newWrptr = (f.dptr + (q.content ++ [t.sample]).length) % cfg.wordSize
      rw [ht.next (Or.inr hpc), hcopy, Ring.next_mod hn, List.length_append,
        List.length_singleton, Nat.add_assoc]
    · intro v hv
      obtain ⟨rest, hrest⟩ := List.head?_eq_some_iff.mp hv
      show (q.content ++ [t.sample]).head? = some v
      rw [hrest]
      rfl
  | writeWrptr =>
    have hcopy := ht.copy (by rw [hpc]; rfl)
    unfold PushRefines
    rw [PushThread.out, PushThread.step, PushThread.write, hpc]
    refine ⟨{ q with visible := q.content.length }, foldlM_queueActs_singleton rfl, ?_,
      .of_published rfl rfl, rfl, ?_, fun _ hv => hv⟩
    · exact ⟨h.locked, h.zero, h.dptr_lt, h.room, h.cells, le_refl _, hcopy⟩
    · exact fun hpos => hpos.trans_le h.visible_le
  | readSampleCount =>
    refine .quiet (by rw [PushThread.out, hpc]) (by rw [PushThread.write, hpc]) h ?_
    rw [PushThread.step, hpc]
    exact .of_published rfl (ht.published (by rw [hpc]; rfl))
  | writeSampleCount =>
    have hall := ht.published (by rw [hpc]; rfl)
    unfold PushRefines
    rw [PushThread.out, PushThread.step, PushThread.write, hpc]
    refine ⟨q, rfl, ?_, .of_published rfl hall, rfl, id, fun _ hv => hv⟩
    exact ⟨h.locked, h.zero, h.dptr_lt, h.room, h.cells, h.visible_le, h.wrptr⟩

end

section

variable {cfg : FifoConfig} {f : Ofifo} {q : BatchQueue UInt32} {t : PullThread}

def PullRefines (cfg : FifoConfig) (f : Ofifo) (t : PullThread) (q : BatchQueue UInt32) : Prop :=
  ∃ q', (queueActs (t.out f)).foldlM (BatchQueue.step (cfg.wordSize - 1)) q = some q' ∧
    (t.write cfg f).Holds cfg q' ∧ (t.step f).Follows (t.write cfg f) q' ∧
    ∀ u : PushThread, u.Follows cfg f q → u.Follows cfg (t.write cfg f) q'

lemma PullRefines.quiet (hout : queueActs (t.out f) = []) (hwrite : t.write cfg f = f)
    (h : f.Holds cfg q)
    (hstep : (t.step f).Follows f q) : PullRefines cfg f t q := by
  unfold PullRefines
  rw [hout, hwrite]
  exact ⟨q, rfl, h, hstep, fun _ hu => hu⟩

lemma PullThread.Follows.of_idle (hpc : t.pc.hasCopy = false) (hfound : t.pc.hasFound = false)
    (hread : t.pc.hasRead = false) : t.Follows f q where
  copy := fun h => by cases hpc.symm.trans h
  found := fun h => by cases hfound.symm.trans h
  value := fun h => by cases hread.symm.trans h

lemma holds_take (h : f.Holds cfg q) {v : UInt32} (hvisible : 0 < q.visible)
    (hhead : q.content.head? = some v) :
    Ofifo.Holds cfg { f with dptr := Ring.next cfg.wordSize f.dptr }
      ⟨q.content.tail, q.visible - 1⟩ := by
  obtain ⟨rest, hrest⟩ := List.head?_eq_some_iff.mp hhead
  have hcells := h.cells
  have hroom := h.room
  have hle := h.visible_le
  rw [hrest, List.length_cons] at hroom hle
  rw [hrest, List.length_cons, Ring.window_cons f.fifo h.dptr_lt, List.cons.injEq] at hcells
  rw [hrest, List.tail_cons]
  refine ⟨h.locked, h.zero, Ring.next_lt h.dptr_lt, ?_, hcells.2, ?_, ?_⟩
  · show rest.length < cfg.wordSize
    omega
  · show q.visible - 1 ≤ rest.length
    omega
  · show f.wrptr = (Ring.next cfg.wordSize f.dptr + (q.visible - 1)) % cfg.wordSize
    rw [Ring.next_add_mod h.dptr_lt, h.wrptr]
    congr 2
    omega

lemma push_follows_take (h : f.Holds cfg q) {v : UInt32} (hhead : q.content.head? = some v)
    {u : PushThread} (hu : u.Follows cfg f q) :
    u.Follows cfg { f with dptr := Ring.next cfg.wordSize f.dptr }
      ⟨q.content.tail, q.visible - 1⟩ := by
  obtain ⟨rest, hrest⟩ := List.head?_eq_some_iff.mp hhead
  constructor
  · intro hcopy
    rw [hu.copy hcopy, Ring.next_add_mod h.dptr_lt, hrest]
    rfl
  · intro hcopy
    rw [hu.published hcopy, List.length_tail]
  · exact hu.next
  · intro hstore
    have := hu.space hstore
    rw [List.length_tail]
    omega

/-- **Pull.**  An access of the pulling thread is an action of the queue. -/
theorem pull_refines (h : f.Holds cfg q) (ht : t.Follows f q) : PullRefines cfg f t q := by
  cases hpc : t.pc with
  | idle =>
    refine .quiet (by rw [PullThread.out, hpc]; rfl) (by rw [PullThread.write, hpc]) h ?_
    rw [PullThread.step, hpc]
    exact ht
  | readDptr =>
    refine .quiet (by rw [PullThread.out, hpc]; rfl) (by rw [PullThread.write, hpc]) h ?_
    rw [PullThread.step, hpc]
    exact ⟨fun _ => rfl, fun hfound => (by cases hfound), fun hread => (by cases hread)⟩
  | readWrptr =>
    have hcopy := ht.copy (by rw [hpc]; rfl)
    have hwrite : t.write cfg f = f := by rw [PullThread.write, hpc]
    have hempty : t.dptr = f.wrptr ↔ q.visible = 0 := by
      rw [hcopy, h.wrptr]
      exact Ring.eq_add_mod_iff h.dptr_lt (h.visible_le.trans_lt h.room)
    unfold PullRefines
    rw [PullThread.out, PullThread.step, hpc, hwrite]
    by_cases heq : t.dptr = f.wrptr
    · rw [if_pos heq, if_pos heq]
      refine ⟨q, ?_, h, .of_idle rfl rfl rfl, fun _ hu => hu⟩
      exact foldlM_queueActs_singleton (if_pos (hempty.mp heq))
    · rw [if_neg heq, if_neg heq]
      refine ⟨q, rfl, h, ⟨fun _ => hcopy, fun _ => ?_, fun hread => (by cases hread)⟩,
        fun _ hu => hu⟩
      exact Nat.pos_of_ne_zero (mt hempty.mpr heq)
  | readSample =>
    have hcopy := ht.copy (by rw [hpc]; rfl)
    have hfound := ht.found (by rw [hpc]; rfl)
    refine .quiet (by rw [PullThread.out, hpc]; rfl) (by rw [PullThread.write, hpc]) h ?_
    rw [PullThread.step, hpc]
    refine ⟨fun _ => hcopy, fun _ => hfound, fun _ => ?_⟩
    -- the cell at the read pointer holds the first element
    have hpos : 0 < q.content.length := hfound.trans_le h.visible_le
    obtain ⟨k, hk⟩ := Nat.exists_eq_add_one_of_ne_zero hpos.ne'
    rw [← h.cells, hk, Ring.window_cons f.fifo h.dptr_lt, List.head?_cons, hcopy]
  | readMarker =>
    refine .quiet (by rw [PullThread.out, hpc]; rfl) (by rw [PullThread.write, hpc]) h ?_
    rw [PullThread.step, hpc]
    exact ⟨fun _ => ht.copy (by rw [hpc]; rfl), fun _ => ht.found (by rw [hpc]; rfl),
      fun _ => ht.value (by rw [hpc]; rfl)⟩
  | readLocalTs =>
    refine .quiet (by rw [PullThread.out, hpc]; rfl) (by rw [PullThread.write, hpc]) h ?_
    rw [PullThread.step, hpc]
    split_ifs
    all_goals exact ⟨fun _ => ht.copy (by rw [hpc]; rfl), fun _ => ht.found (by rw [hpc]; rfl),
      fun _ => ht.value (by rw [hpc]; rfl)⟩
  | writeLocalTs =>
    unfold PullRefines
    rw [PullThread.out, PullThread.step, PullThread.write, hpc]
    refine ⟨q, rfl, ?_, ?_, ?_⟩
    · exact ⟨h.locked, h.zero, h.dptr_lt, h.room, h.cells, h.visible_le, h.wrptr⟩
    · exact ⟨fun _ => ht.copy (by rw [hpc]; rfl), fun _ => ht.found (by rw [hpc]; rfl),
        fun _ => ht.value (by rw [hpc]; rfl)⟩
    · exact fun u hu => ⟨hu.copy, hu.published, hu.next, hu.space⟩
  | writeDptr =>
    have hcopy := ht.copy (by rw [hpc]; rfl)
    have hfound := ht.found (by rw [hpc]; rfl)
    have hvalue := ht.value (by rw [hpc]; rfl)
    unfold PullRefines
    rw [PullThread.out, PullThread.step, PullThread.write, hpc]
    dsimp only
    rw [hcopy]
    exact ⟨_, foldlM_queueActs_singleton (if_pos ⟨hfound, hvalue⟩), holds_take h hfound hvalue,
      .of_idle rfl rfl rfl, fun _ hu => push_follows_take h hvalue hu⟩
  | readZeroFlag =>
    refine .quiet (by rw [PullThread.out, hpc]; rfl) (by rw [PullThread.write, hpc]) h ?_
    rw [PullThread.step, hpc]
    exact .of_idle rfl rfl rfl

def PullThread.inHand (t : PullThread) : List UInt32 :=
  if t.pc = .readZeroFlag then [t.sample] else []

lemma inHand_step (h : f.Holds cfg q) : t.inHand ++ BatchQueue.taken (queueActs (t.out f)) =
      returnedSamples (t.out f) ++ (t.step f).inHand := by
  unfold PullThread.inHand PullThread.out PullThread.step
  cases hpc : t.pc with
  | idle => simp [queueActs, returnedSamples, BatchQueue.taken, hpc]
  | readZeroFlag => simp [queueActs, returnedSamples, BatchQueue.taken, h.zero]
  | readWrptr =>
    by_cases heq : t.dptr = f.wrptr
    all_goals simp [queueActs, returnedSamples, BatchQueue.taken, heq]
  | readMarker =>
    by_cases heq : f.marker = some t.dptr
    all_goals simp [queueActs, returnedSamples, BatchQueue.taken, heq]
  | readLocalTs =>
    by_cases heq : f.localTs = 0
    all_goals simp [queueActs, returnedSamples, BatchQueue.taken, heq]
  | readDptr | readSample | writeLocalTs | writeDptr =>
    simp [queueActs, returnedSamples, BatchQueue.taken]

end

/-! ## Runs -/

section

variable {cfg : FifoConfig} {s : FifoSystem} {q : BatchQueue UInt32}

/-- **Step.**  Every event is a sequence of actions of the queue. -/
theorem refines_step (h : s.Refines cfg q) (e : FifoEvent) :
    ∃ q', (queueActs (s.out e)).foldlM (BatchQueue.step (cfg.wordSize - 1)) q = some q' ∧
      (s.step cfg e).Refines cfg q' := by
  cases e with
  | pushCall words stride n =>
    refine ⟨q, rfl, ?_⟩
    unfold FifoSystem.step
    dsimp only
    split_ifs with hidle
    · refine ⟨h.holds, .of_published rfl (h.push.published ?_), h.pull⟩
      rw [hidle]
      rfl
    · exact h
  | pullCall timestamp =>
    refine ⟨q, rfl, ?_⟩
    unfold FifoSystem.step
    dsimp only
    split_ifs
    · exact ⟨h.holds, h.push, .of_idle rfl rfl rfl⟩
    · exact h
  | pushAccess =>
    obtain ⟨q', hq', hholds, hpush, hdptr, hfound, hvalue⟩ := push_refines h.holds h.push
    refine ⟨q', hq', hholds, hpush, ?_⟩
    exact ⟨fun hpc => (h.pull.copy hpc).trans hdptr.symm, fun hpc => hfound (h.pull.found hpc),
      fun hpc => hvalue _ (h.pull.value hpc)⟩
  | pullAccess =>
    obtain ⟨q', hq', hholds, hpull, hpush⟩ := pull_refines h.holds h.pull
    exact ⟨q', hq', hholds, hpush _ h.push, hpull⟩

lemma taken_push_out (f : Ofifo) (t : PushThread) :
    BatchQueue.taken (queueActs (t.out f)) = [] ∧ returnedSamples (t.out f) = [] := by
  unfold PushThread.out
  cases t.pc with
  | readDptr =>
    by_cases heq : t.newWrptr = f.dptr
    all_goals simp [queueActs, returnedSamples, BatchQueue.taken, heq]
  | storeSample => exact ⟨rfl, rfl⟩
  | writeWrptr => exact ⟨rfl, rfl⟩
  | idle | readWrptr | readState | readVolume | readSampleCount | writeSampleCount =>
    exact ⟨rfl, rfl⟩

lemma inHand_event (h : s.Refines cfg q) (e : FifoEvent) :
    s.pull.inHand ++ BatchQueue.taken (queueActs (s.out e)) =
      returnedSamples (s.out e) ++ (s.step cfg e).pull.inHand := by
  cases e with
  | pushCall words stride n =>
    have hpull : (s.step cfg (.pushCall words stride n)).pull = s.pull := by
      unfold FifoSystem.step
      split_ifs <;> rfl
    rw [hpull]
    exact List.append_nil _
  | pullCall timestamp =>
    have hhand : (s.step cfg (.pullCall timestamp)).pull.inHand = s.pull.inHand := by
      unfold FifoSystem.step
      dsimp only
      split_ifs with hidle
      · unfold PullThread.inHand
        rw [hidle]
        rfl
      · rfl
    rw [hhand]
    exact List.append_nil _
  | pushAccess =>
    obtain ⟨htaken, hreturned⟩ := taken_push_out s.fifo s.push
    show s.pull.inHand ++ BatchQueue.taken (queueActs (s.push.out s.fifo)) =
      returnedSamples (s.push.out s.fifo) ++ s.pull.inHand
    rw [htaken, hreturned]
    exact List.append_nil _
  | pullAccess => exact inHand_step h.holds

/-- **The invariant of a run.**  What was said are legal actions of a queue, the record and the
threads refine the queue they lead to, and what was taken has been returned or is in hand. -/
def FifoRun.Inv (cfg : FifoConfig) (queue : List UInt32) (w : FifoRun) : Prop :=
  ∃ q, (queueActs w.log).foldlM (BatchQueue.step (cfg.wordSize - 1)) ⟨queue, queue.length⟩ =
      some q ∧ w.sys.Refines cfg q ∧
    BatchQueue.taken (queueActs w.log) = returnedSamples w.log ++ w.sys.pull.inHand

lemma fifoRun_inv_step {queue : List UInt32} {w : FifoRun} (h : w.Inv cfg queue)
    (e : FifoEvent) : (fifoRunStep cfg w e).Inv cfg queue := by
  obtain ⟨q, hq, hrefines, htaken⟩ := h
  obtain ⟨q', hq', hrefines'⟩ := refines_step hrefines e
  have hacts : queueActs (w.log ++ w.sys.out e) = queueActs w.log ++ queueActs (w.sys.out e) :=
    List.filterMap_append
  have hreturned : returnedSamples (w.log ++ w.sys.out e) =
      returnedSamples w.log ++ returnedSamples (w.sys.out e) := List.filterMap_append
  refine ⟨q', ?_, hrefines', ?_⟩
  · show (queueActs (w.log ++ w.sys.out e)).foldlM _ _ = some q'
    rw [hacts, List.foldlM_append, hq]
    exact hq'
  · show BatchQueue.taken (queueActs (w.log ++ w.sys.out e)) =
      returnedSamples (w.log ++ w.sys.out e) ++ (w.sys.step cfg e).pull.inHand
    rw [hacts, hreturned, BatchQueue.taken, List.filterMap_append, ← BatchQueue.taken,
      ← BatchQueue.taken, htaken, List.append_assoc, inHand_event hrefines e, List.append_assoc]

end

structure FifoSystem.Quiet (cfg : FifoConfig) (s : FifoSystem) : Prop where
  locked : s.fifo.state = .locked
  zero : s.fifo.zeroFlag = 0
  dptr_lt : s.fifo.dptr < cfg.wordSize
  wrptr_lt : s.fifo.wrptr < cfg.wordSize
  push : s.push.pc = .idle
  pull : s.pull.pc = .idle

def fifoRun (s : FifoSystem) (es : List FifoEvent) : FifoRun :=
  Run.runFrom (fifoRunStep cfg) ⟨s, []⟩ es

section

variable {cfg : FifoConfig} {s : FifoSystem}

lemma refines_of_quiet (hs : s.Quiet cfg) :
    s.Refines cfg ⟨s.fifo.queued cfg, (s.fifo.queued cfg).length⟩ where
  holds := by
    have hlength : (s.fifo.queued cfg).length =
        Ring.distance cfg.wordSize s.fifo.dptr s.fifo.wrptr := Ring.length_window ..
    refine ⟨hs.locked, hs.zero, hs.dptr_lt, ?_, ?_, le_refl _, ?_⟩
    · rw [hlength]
      exact Ring.distance_lt (Nat.zero_lt_of_lt hs.dptr_lt) _ _
    · rw [hlength]
      rfl
    · show s.fifo.wrptr = (s.fifo.dptr + (s.fifo.queued cfg).length) % cfg.wordSize
      rw [hlength, Ring.add_distance hs.dptr_lt hs.wrptr_lt]
  push := .of_published (by rw [hs.push]; rfl) rfl
  pull := .of_idle (by rw [hs.pull]; rfl) (by rw [hs.pull]; rfl) (by rw [hs.pull]; rfl)

/-- **Refinement.**  In every interleaving the accesses of the two threads are legal actions of a
queue for all cells but one, which starts with what is queued. -/
theorem fifo_refines_batchQueue (hs : s.Quiet cfg) (es : List FifoEvent) :
    (fifoRun cfg s es).Inv cfg (s.fifo.queued cfg) := by
  have hstep : ∀ w e, w.Inv cfg (s.fifo.queued cfg) →
      (fifoRunStep cfg w e).Inv cfg (s.fifo.queued cfg) := fun _ e h => fifoRun_inv_step h e
  refine Run.invariant_of_step hstep ⟨_, rfl, refines_of_quiet hs, ?_⟩ es
  unfold PullThread.inHand
  rw [hs.pull]
  rfl

lemma queued_of_holds {f : Ofifo} {q : BatchQueue UInt32} (h : f.Holds cfg q) :
    f.queued cfg = Ring.window cfg.wordSize f.fifo f.dptr q.visible := by
  unfold Ofifo.queued
  rw [h.wrptr, Ring.distance_add h.dptr_lt (h.visible_le.trans_lt h.room)]

end

def FifoRun.held (queue : List UInt32) (w : FifoRun) : ℕ :=
  (queue ++ acceptedSamples w.log).length - takenCount w.log

/-- **A queue.**  What holds in a state of a run from a queue. -/
structure FifoRun.Correct (cfg : FifoConfig) (queue : List UInt32) (w : FifoRun) : Prop where
  order : returnedSamples w.log <+: queue ++ acceptedSamples w.log
  rest : w.sys.push.pc = .idle → w.sys.pull.pc = .idle →
    queue ++ acceptedSamples w.log = returnedSamples w.log ++ w.sys.fifo.queued cfg
  dropped : w.sys.push.pc = .readDptr → w.held queue = cfg.wordSize - 1 →
    w.sys.out .pushAccess = [.act (.refuse w.sys.push.sample)] ∧
      (w.sys.step cfg .pushAccess).push = w.sys.push.endBody cfg
  accepted : w.sys.push.pc = .readDptr → w.held queue ≠ cfg.wordSize - 1 →
    w.sys.out .pushAccess = [.act (.accept w.sys.push.sample)] ∧
      (w.sys.step cfg .pushAccess).push = { w.sys.push with pc := .storeSample }
  empty : w.sys.pull.pc = .readWrptr → w.sys.fifo.queued cfg = [] →
    w.sys.out .pullAccess = [.act .miss, .underflow 0] ∧
      (w.sys.step cfg .pullAccess).fifo = w.sys.fifo ∧
      (w.sys.step cfg .pullAccess).pull.pc = .idle
  found : w.sys.pull.pc = .readWrptr → w.sys.fifo.queued cfg ≠ [] →
    w.sys.out .pullAccess = [] ∧ (w.sys.step cfg .pullAccess).pull.pc = .readSample
  inside : w.sys.fifo.dptr < cfg.wordSize ∧ w.sys.fifo.wrptr < cfg.wordSize

section

variable {cfg : FifoConfig} {queue : List UInt32} {w : FifoRun}

lemma FifoRun.Inv.correct (h : w.Inv cfg queue) : w.Correct cfg queue := by
  obtain ⟨q, hq, hrefines, htaken⟩ := h
  have hholds := hrefines.holds
  have hconserved : queue ++ acceptedSamples w.log =
      (returnedSamples w.log ++ w.sys.pull.inHand) ++ q.content := by
    rw [← htaken]
    exact BatchQueue.conservation hq
  have hheld : w.held queue = q.content.length := by
    unfold FifoRun.held takenCount
    rw [hconserved, htaken, List.length_append]
    omega
  have hempty : w.sys.pull.pc = .readWrptr →
      (w.sys.pull.dptr = w.sys.fifo.wrptr ↔ w.sys.fifo.queued cfg = []) := by
    intro hpc
    have hcopy := hrefines.pull.copy (by rw [hpc]; rfl)
    rw [hcopy, hholds.wrptr, queued_of_holds hholds,
      Ring.eq_add_mod_iff hholds.dptr_lt (hholds.visible_le.trans_lt hholds.room),
      ← List.length_eq_zero_iff, Ring.length_window]
  constructor
  · rw [hconserved, List.append_assoc]
    exact List.prefix_append _ _
  · intro hpush hpull
    have hall : q.visible = q.content.length := hrefines.push.published (by rw [hpush]; rfl)
    have hhand : w.sys.pull.inHand = [] := by
      unfold PullThread.inHand
      rw [hpull]
      rfl
    rw [hconserved, hhand, List.append_nil, queued_of_holds hholds, hall, hholds.cells]
  · intro hpc hfull
    have heq := (newWrptr_eq_dptr_iff hholds hrefines.push hpc).mpr (hheld.symm.trans hfull)
    show w.sys.push.out w.sys.fifo = _ ∧ w.sys.push.step cfg w.sys.fifo = _
    rw [PushThread.out, PushThread.step, hpc]
    exact ⟨if_neg (not_not.mpr heq), if_neg (not_not.mpr heq)⟩
  · intro hpc hfull
    have heq : w.sys.push.newWrptr ≠ w.sys.fifo.dptr := fun heq =>
      hfull (hheld.trans ((newWrptr_eq_dptr_iff hholds hrefines.push hpc).mp heq))
    show w.sys.push.out w.sys.fifo = _ ∧ w.sys.push.step cfg w.sys.fifo = _
    rw [PushThread.out, PushThread.step, hpc]
    exact ⟨if_pos heq, if_pos heq⟩
  · intro hpc hnone
    have heq := (hempty hpc).mpr hnone
    show w.sys.pull.out w.sys.fifo = _ ∧ w.sys.pull.write cfg w.sys.fifo = _ ∧
      (w.sys.pull.step w.sys.fifo).pc = _
    rw [PullThread.out, PullThread.write, PullThread.step, hpc]
    exact ⟨if_pos heq, rfl, if_pos heq⟩
  · intro hpc hsome
    have heq := mt (hempty hpc).mp hsome
    show w.sys.pull.out w.sys.fifo = _ ∧ (w.sys.pull.step w.sys.fifo).pc = _
    rw [PullThread.out, PullThread.step, hpc]
    exact ⟨if_neg heq, if_neg heq⟩
  · refine ⟨hholds.dptr_lt, ?_⟩
    rw [hholds.wrptr]
    exact Nat.mod_lt _ (Nat.zero_lt_of_lt hholds.dptr_lt)

end

/-! ## A FIFO of three words -/

def shortFifo : FifoSystem where
  fifo := ⟨0, 2, 0, none, 0, 0, .locked, 0, fun a => if a = 2 then 7 else 0⟩
  push := ⟨.idle, fun _ => 0, 0, 0, 0, 0, 0, 0, 0, 0, 0, 0⟩
  pull := ⟨.idle, 0, 0, 0⟩

def shortFifoBuild : FifoConfig := ⟨3, true, false⟩

lemma quiet_shortFifo : shortFifo.Quiet shortFifoBuild where
  locked := rfl
  zero := rfl
  dptr_lt := by decide
  wrptr_lt := by decide
  push := rfl
  pull := rfl
