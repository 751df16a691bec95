/-
# The bytes that the listener reads

The size of a frame is compared with the size of its headers, but neither with `Buf[12]`, which is
read first, nor with the number of samples that the frame says it carries.  The pushes walk over
the samples with the stride that was learned from earlier packets, and round up.
-/
import LibTsn.Listener

/-- The ways through `avb_1722_listener_process_packet`, as far as its reads are concerned. -/
inductive Processed (s : ListenerStreamInfo) (f : ReceivedFrame) : ListenerOutcome → Prop where
  | short (h : f.numBytes ≤ f.samplePtr) : Processed s f (.discard [12])
  | discarded (h : f.samplePtr < f.numBytes) (reads : List ℤ)
      (hreads : ∀ r ∈ reads, r = 12 ∨ (f.hdr ≤ r ∧ r < f.samplePtr)) :
      Processed s f (.discard reads)
  | delivered (h : f.samplePtr < f.numBytes) (stamps : List ListenerAct)
      (hstamps : ∀ a ∈ stamps, a.reads f.hdr = wordReads (f.hdr + 12)) :
      Processed s f (s.deliver f stamps)

variable (s : ListenerStreamInfo) (f : ReceivedFrame)

lemma headerReads_bounds : ∀ r ∈ headerReads f.hdr ++ [(f.hdr : ℤ) + 1],
      r = 12 ∨ ((f.hdr : ℤ) ≤ r ∧ r < f.samplePtr) := by
  have hptr := f.samplePtr_eq
  intro r hr
  simp only [headerReads, List.cons_append, List.nil_append, List.mem_cons, List.not_mem_nil,
    or_false] at hr
  omega

lemma processPacket_processed : Processed s f (avb1722ListenerProcessPacket s f).2 := by
  have hbounds := headerReads_bounds f
  -- every exit reads some of these bytes
  have hexit : ∀ reads : List ℤ, f.samplePtr < f.numBytes →
      reads ⊆ headerReads f.hdr ++ [(f.hdr : ℤ) + 1] → Processed s f (.discard reads) :=
    fun reads hlong hsub => .discarded hlong reads fun r hr => hbounds r (hsub hr)
  unfold avb1722ListenerProcessPacket ListenerStreamInfo.receive
  dsimp only
  split_ifs with hshort hversion hcd hsv hlock htv
  · exact .short hshort
  · exact hexit _ (Nat.lt_of_not_le hshort) (by simp [headerReads])
  · exact hexit _ (Nat.lt_of_not_le hshort) (by simp [headerReads])
  · exact hexit _ (Nat.lt_of_not_le hshort) (by simp [headerReads])
  · exact hexit _ (Nat.lt_of_not_le hshort) (List.subset_append_left _ _)
  · split
    · exact hexit _ (Nat.lt_of_not_le hshort) (List.Subset.refl _)
    · refine .delivered (Nat.lt_of_not_le hshort) _ fun a ha => ?_
      obtain ⟨i, -, rfl⟩ := List.mem_map.mp ha
      rfl
  · exact .delivered (Nat.lt_of_not_le hshort) [] fun a ha => nomatch ha

def pushEnd (i : ℕ) : ℤ :=
  f.samplePtr + 4 * i
    + 4 * ((f.numSamplesInPayload - 1) / s.numChannelsInPayload * s.numChannelsInPayload) + 4

lemma push_reads_iff {stride : ℤ} (hstride : 0 < stride) (hdr fifo p n : ℤ) (hp : 0 ≤ p)
    (numBytes : ℤ) :
    (∀ r ∈ (ListenerAct.stridedPush fifo p stride n).reads hdr, 0 ≤ r ∧ r < numBytes) ↔
      (0 < n → p + 4 * ((n - 1) / stride * stride) + 4 ≤ numBytes) := by
  simp only [ListenerAct.reads, List.mem_flatMap, mem_stridedIndices hstride]
  constructor
  · intro h hn
    have hlast : 0 ≤ (n - 1) / stride := Int.ediv_nonneg (by omega) hstride.le
    have hread := h (p + 4 * ((n - 1) / stride * stride) + 3)
      ⟨(n - 1) / stride * stride, ⟨((n - 1) / stride).toNat, by rw [Int.toNat_of_nonneg hlast],
        (Int.toNat_of_nonneg hlast).le⟩, by simp [wordReads]⟩
    omega
  · rintro h r ⟨i, ⟨j, rfl, hj⟩, hr⟩
    have hn : 0 < n := by
      have hle := (Int.le_ediv_iff_mul_le hstride).mp hj
      have hnonneg : 0 ≤ (j : ℤ) * stride := by positivity
      omega
    have hend := h hn
    have hle : (j : ℤ) * stride ≤ (n - 1) / stride * stride :=
      Int.mul_le_mul_of_nonneg_right hj hstride.le
    have hnonneg : 0 ≤ (j : ℤ) * stride := by positivity
    simp only [wordReads, List.mem_cons, List.not_mem_nil, or_false] at hr
    omega

lemma pos_of_mem_mapped {s : ListenerStreamInfo} {i : ℕ}
    (hi : i ∈ s.mapped s.pushedChannels) : 0 < s.numChannelsInPayload := by
  have hlt := (ListenerStreamInfo.mem_mapped.mp hi).1
  unfold ListenerStreamInfo.pushedChannels at hlt
  omega

/-! ## One frame -/

def ReadsReceived (x : ReceivedFrame × ListenerOutcome) : Prop :=
  ∀ r ∈ x.2.reads, 0 ≤ r ∧ r < x.1.numBytes

/-- The frame is passed on: its header is in order, the stream is locked, and the interval of the
timestamps is known if the frame has one. -/
structure ListenerStreamInfo.PassesOn : Prop where
  proper : f.Proper
  locked : 16 ≤ s.chanLock
  stamped : f.tv = 1 → sytInterval s.rate ≠ none

lemma ret_eq_one_iff : (avb1722ListenerProcessPacket s f).2.ret = 1 ↔ s.PassesOn f := by
  unfold avb1722ListenerProcessPacket ListenerStreamInfo.receive
  dsimp only
  split_ifs with hshort hversion hcd hsv hlock htv
  · exact iff_of_false nofun fun h => absurd h.proper.long (Nat.not_lt.mpr hshort)
  · exact iff_of_false nofun fun h => hversion h.proper.version
  · exact iff_of_false nofun fun h => hcd h.proper.cd
  · exact iff_of_false nofun fun h => h.proper.sv hsv
  · exact iff_of_false nofun fun h => absurd hlock (Nat.not_lt.mpr h.locked)
  · have hproper : f.Proper := ⟨Nat.lt_of_not_le hshort, not_not.mp hversion, not_not.mp hcd, hsv⟩
    split
    next hnone => exact iff_of_false nofun fun h => h.stamped htv hnone
    next syt hsome =>
      exact iff_of_true rfl ⟨hproper, Nat.not_lt.mp hlock, fun _ hnone =>
        nomatch hsome.symm.trans hnone⟩
  · exact iff_of_true rfl ⟨⟨Nat.lt_of_not_le hshort, not_not.mp hversion, not_not.mp hcd, hsv⟩,
      Nat.not_lt.mp hlock, fun h => absurd h htv⟩

/-- `Buf[12]` was received, and so was the last word of every push that is made for the frame. -/
def ListenerStreamInfo.ReadsFit : Prop :=
  12 < f.numBytes ∧ (s.PassesOn f →
    ∀ i ∈ s.mapped s.pushedChannels, 0 < f.numSamplesInPayload → pushEnd s f i ≤ f.numBytes)

lemma twelve_lt_hdr : 12 < f.hdr := by
  unfold ReceivedFrame.hdr
  split <;> decide

lemma deliver_reads_iff (hlong : f.samplePtr < f.numBytes) (stamps : List ListenerAct)
    (hstamps : ∀ a ∈ stamps, a.reads f.hdr = wordReads (f.hdr + 12)) :
    ReadsReceived (f, s.deliver f stamps) ↔ ∀ i ∈ s.mapped s.pushedChannels,
      0 < f.numSamplesInPayload → pushEnd s f i ≤ f.numBytes := by
  have hhdr := twelve_lt_hdr f
  have hptr := f.samplePtr_eq
  have hpush : ∀ i ∈ s.mapped s.pushedChannels,
      ((∀ r ∈ (ListenerAct.stridedPush (s.map i) (f.samplePtr + 4 * i) s.numChannelsInPayload
          f.numSamplesInPayload).reads f.hdr, 0 ≤ r ∧ r < (f.numBytes : ℤ)) ↔
        (0 < f.numSamplesInPayload → pushEnd s f i ≤ f.numBytes)) :=
    fun i hi => push_reads_iff (pos_of_mem_mapped hi) _ _ _ _ (by positivity) _
  unfold ReadsReceived ListenerStreamInfo.deliver
  dsimp only
  constructor
  · intro h i hi
    refine (hpush i hi).mp fun r hr => h r ?_
    refine List.mem_append_right _ (List.mem_flatMap.mpr ⟨_, ?_, hr⟩)
    exact List.mem_append_right _ (List.mem_map_of_mem hi)
  · intro h r hr
    rcases List.mem_append.mp hr with hr | hr
    · rcases headerReads_bounds f r hr with hr | hr <;> omega
    · obtain ⟨a, ha, hr⟩ := List.mem_flatMap.mp hr
      rcases List.mem_append.mp ha with ha | ha
      · rcases List.mem_append.mp ha with ha | ha
        · rw [hstamps a ha] at hr
          simp only [wordReads, List.mem_cons, List.not_mem_nil, or_false] at hr
          omega
        · obtain ⟨i, -, rfl⟩ := List.mem_map.mp ha
          exact nomatch hr
      · obtain ⟨i, hi, rfl⟩ := List.mem_map.mp ha
        exact (hpush i hi).mpr (h i hi) r hr

lemma readsReceived_iff :
    ReadsReceived (f, (avb1722ListenerProcessPacket s f).2) ↔ s.ReadsFit f := by
  have hhdr := twelve_lt_hdr f
  have hptr := f.samplePtr_eq
  have hprocessed := processPacket_processed s f
  unfold ListenerStreamInfo.ReadsFit
  rw [← ret_eq_one_iff]
  generalize (avb1722ListenerProcessPacket s f).2 = o at hprocessed ⊢
  cases hprocessed with
  | short h =>
    constructor
    · intro hreads
      exact ⟨by exact_mod_cast (hreads 12 (List.mem_singleton_self _)).2, fun hret => nomatch hret⟩
    · rintro ⟨hlong, -⟩ r hr
      rw [List.mem_singleton.mp hr]
      exact ⟨by decide, by exact_mod_cast hlong⟩
  | discarded h reads hreads =>
    refine iff_of_true (fun r hr => ?_) ⟨by omega, fun hret => nomatch hret⟩
    show 0 ≤ r ∧ r < (f.numBytes : ℤ)
    rcases hreads r hr with hr | hr <;> omega
  | delivered h stamps hstamps =>
    rw [deliver_reads_iff s f h stamps hstamps]
    exact ⟨fun hends => ⟨by omega, fun _ => hends⟩, fun hfit => hfit.2 rfl⟩

/-! ## Every sequence of frames -/

variable {m : ℕ}

def ListenerState.ReadsFit (st : ListenerState m) : ListenerEvent m → Prop
  | .packet filterData isData frame =>
    ∀ i ∈ st.target filterData isData, (st.streams i).ReadsFit frame
  | _ => True

/-- **Only received bytes.**  Whatever the state, the frames and the commands between them: every
byte that is read while a frame is processed is one of its received bytes if and only if every
frame that is processed fits in the state its stream has reached. -/
theorem listener_reads_received_iff (st : ListenerState m) (es : List (ListenerEvent m)) :
    (∀ x ∈ Run.outputs ListenerState.step ListenerState.processed st es, ReadsReceived x) ↔
      Run.Guarded ListenerState.step ListenerState.ReadsFit st es := by
  refine Run.forall_outputs_iff (fun _ _ (h : True) => h) (fun st e _ => ?_) trivial es
  cases e with
  | packet filterData isData frame =>
    unfold ListenerState.processed ListenerState.ReadsFit
    dsimp only
    cases st.target filterData isData with
    | none => simp
    | some i => simpa using readsReceived_iff (st.streams i) frame
  | configure | adjustMap | disable =>
    exact iff_of_true (fun x hx => nomatch hx) trivial

def plainFrame (dbc pktDataLength numBytes : ℕ) : ReceivedFrame where
  buf := Mem.store (fun _ => 0) 12 ([0x81, 0, 0, 0, 0, 0, 0, 0x80] ++ List.replicate 18 0
    ++ beBytes 2 pktDataLength ++ [0, 0, 0, 0, 0, UInt8.ofNat dbc])
  numBytes := numBytes

def monoPackets : List (ListenerEvent 1) :=
  (List.range 17).map fun k => .packet 0 true (plainFrame (6 * k) 32 74)

def freshListener : ListenerState 1 :=
  avb1722ListenerInit fun _ => ⟨false, 0, 0, 0, 0, 0, 0, fun _ => 0⟩

/-- A stream that has locked on one channel gets a frame that is a sample shorter than it says: the
byte right behind it is read. -/
theorem listener_reads_behind_frame :
    ∃ x ∈ Run.outputs ListenerState.step ListenerState.processed freshListener
      (.configure 0 0 48000 1 (fun _ => 0) :: monoPackets ++
        [.packet 0 true (plainFrame 102 36 74)]),
      x.1.numBytes = 74 ∧ (74 : ℤ) ∈ x.2.reads := by
  decide +kernel
