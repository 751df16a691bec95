/-
# What the packets of a talker stream hold

Beside the fields of `PacketLaw` a packet has header bytes that are written once, when the buffer is
initialised, and the samples of its frames.
-/
import LibTsn.TalkerLaw

/-! ## The header bytes that never change -/

/-- The first byte of the VLAN tag, the subtype, and the flags of the AVBTP header but for `TV`. -/
structure TaggedHeader (buf : Mem) : Prop where
  tag : buf (bufStart + 12) = 0x81
  subtype : buf avbtpHdr = 0
  flags : buf (avbtpHdr + 1) &&& 0xfe = 0x80

lemma taggedHeader_bufInit (buf : Mem) {stream : TalkerStreamConfig} (vlanid : ℕ)
    (hdest : stream.destMacAdrs.length = 6) (hsrc : stream.srcMacAdrs.length = 6) :
    TaggedHeader (avb1722TalkerBufInit buf stream vlanid).1 := by
  have hholds : Mem.Holds (avb1722TalkerBufInit buf stream vlanid).1 bufStart
      (talkerHeader stream vlanid) := Mem.load_store_same _ _ _
  simp only [talkerHeader, Mem.holds_append, List.length_append, List.length_take, hdest, hsrc,
    length_beBytes, List.length_cons, List.length_nil] at hholds
  -- the fields in their order; the third is the tag, the sixth the start of the AVBTP header
  obtain ⟨⟨⟨⟨⟨⟨⟨⟨⟨-, htag⟩, -⟩, -⟩, havbtp⟩, -⟩, -⟩, -⟩, -⟩, -⟩ := hholds
  have hflags := havbtp.apply (i := 1) (by decide)
  refine ⟨(htag.apply (i := 0) (by decide)).trans (by decide),
    (havbtp.apply (i := 0) (by decide)).trans (by decide), ?_⟩
  exact (congrArg (· &&& 0xfe) hflags).trans (by decide)

variable (t : UInt32) (c : TalkerStreamConfig) (inputs : List (AudioFrame × PtpTimeInfoMod64))
  {buf : Mem}

lemma TaggedHeader.writeSamples (h : TaggedHeader buf) (t : UInt32) (map : List ℕ)
    (frame : AudioFrame) (k n : ℕ) :
    TaggedHeader (writeSamples t map frame buf (sampleStart + k) n) := by
  have hsame : ∀ x < sampleStart,
      buf.store (sampleStart + k) (frameBytes t map n frame) x = buf x :=
    fun x hx => Mem.store_apply_of_lt _ _ (by omega)
  rw [writeSamples_eq]
  refine ⟨?_, ?_, ?_⟩
  · rw [hsame _ (by decide), h.tag]
  · rw [hsame _ (by decide), h.subtype]
  · rw [hsame _ (by decide), h.flags]

lemma TaggedHeader.cipHeaderGen (h : TaggedHeader buf) (dbc : ℕ) :
    TaggedHeader (avb1722CipHeaderGen buf dbc) := by
  have hsame : ∀ x < cipHdr + 3, avb1722CipHeaderGen buf dbc x = buf x :=
    fun x hx => Mem.store_apply_of_lt _ _ hx
  refine ⟨?_, ?_, ?_⟩
  · rw [hsame _ (by decide), h.tag]
  · rw [hsame _ (by decide), h.subtype]
  · rw [hsame _ (by decide), h.flags]

lemma TaggedHeader.avbtpHeaderGen (h : TaggedHeader buf) (tv : Bool) (ts len sn sid : ℕ) :
    TaggedHeader (avb1722AvbtpHeaderGen buf tv ts len sn sid) := by
  have hsame : ∀ x ≤ avbtpHdr, avb1722AvbtpHeaderGen buf tv ts len sn sid x = buf x := by
    intro x hx
    unfold avb1722AvbtpHeaderGen setAvbtpTv
    repeat rw [Mem.store_apply_of_lt]
    all_goals omega
  have hbits : ∀ b : UInt8, (b &&& 0xfe ||| (if tv then 1 else 0)) &&& 0xfe = b &&& 0xfe := by
    intro b
    rw [← UInt8.toBitVec_inj]
    cases tv <;> simp [BitVec.and_assoc, BitVec.and_or_distrib_right]
  refine ⟨?_, ?_, ?_⟩
  · rw [hsame _ (by decide), h.tag]
  · rw [hsame _ le_rfl, h.subtype]
  · unfold avb1722AvbtpHeaderGen
    rw [Mem.store_apply_of_lt _ _ (by omega), Mem.store_apply_of_lt _ _ (by omega),
      Mem.store_apply_of_lt _ _ (by omega), setAvbtpTv, Mem.store_singleton_same,
      Mem.store_apply_of_lt _ _ (by omega), hbits, h.flags]

lemma TaggedHeader.createPacket (h : TaggedHeader buf) (t : UInt32)
    (stream : TalkerStreamConfig) (ti : PtpTimeInfoMod64) (frame : AudioFrame) :
    TaggedHeader (avb1722CreatePacket t buf stream ti frame).1 := by
  unfold avb1722CreatePacket
  dsimp only
  split
  · exact ((h.writeSamples _ _ _ _ _).cipHeaderGen _).avbtpHeaderGen _ _ _ _ _
  · exact h.writeSamples _ _ _ _ _

/-! ## The packets of a run -/

def payloadBytes : List UInt8 :=
  inputs.flatMap fun x => frameBytes t c.map c.numChannels x.1

lemma length_payloadBytes :
    (payloadBytes t c inputs).length = 4 * (inputs.length * c.numChannels) := by
  simp [payloadBytes, List.length_flatMap]
  ring

structure PacketHolds (t : UInt32) (c : TalkerStreamConfig)
    (inputs : List (AudioFrame × PtpTimeInfoMod64)) (buf : Mem) : Prop where
  header : TaggedHeader buf
  samples : buf.Holds sampleStart (payloadBytes t c inputs)

structure Written (t : UInt32) (c : TalkerStreamConfig) (r : StreamRun) : Prop where
  current : PacketHolds t c r.consumed r.buf
  packets : ∀ p ∈ r.packets, PacketHolds t c p.inputs p.buf

section

variable {t : UInt32} {c : TalkerStreamConfig} {r : StreamRun}

lemma packetHolds_createPacket (hc : Coupled c r) (h : PacketHolds t c r.consumed r.buf)
    (x : AudioFrame × PtpTimeInfoMod64) :
    PacketHolds t c (r.consumed ++ [x]) (avb1722CreatePacket t r.buf r.stream x.2 x.1).1 := by
  have hmap : r.stream.map = c.map := by rw [hc.stream]
  have hnum : r.stream.numChannels = c.numChannels := by rw [hc.stream]
  have hload := avb1722CreatePacket_load t r.buf r.stream x.2 x.1
  have hsamples := h.samples
  unfold Mem.Holds at hsamples
  rw [length_payloadBytes] at hsamples
  rw [hc.current, hmap, hnum, hsamples] at hload
  refine ⟨h.header.createPacket t r.stream x.2 x.1, ?_⟩
  unfold Mem.Holds
  rw [length_payloadBytes, List.length_append, List.length_singleton, hload]
  simp [payloadBytes]

lemma written_step (hc : Coupled c r) (h : Written t c r)
    (x : AudioFrame × PtpTimeInfoMod64) : Written t c (streamStep t r x) := by
  have hnew := packetHolds_createPacket hc h.current x
  unfold streamStep
  dsimp only
  split
  · exact ⟨hnew, h.packets⟩
  · refine ⟨⟨hnew.header, rfl⟩, fun p hp => ?_⟩
    rcases List.mem_append.mp hp with hp | hp
    · exact h.packets p hp
    · rw [List.mem_singleton.mp hp]
      exact hnew

end

/-- **Run.**  From a buffer with the header on, every packet has the header and its frames'
samples. -/
theorem holds_streamRun {c : TalkerStreamConfig} (hc : Configured c) (t : UInt32) {buf : Mem}
    (hbuf : TaggedHeader buf) (xs : List (AudioFrame × PtpTimeInfoMod64)) {p : BuiltPacket}
    (hp : p ∈ (streamRun t buf c xs).packets) : PacketHolds t c p.inputs p.buf := by
  have hstep : ∀ r x, Coupled c r ∧ Written t c r →
      Coupled c (streamStep t r x) ∧ Written t c (streamStep t r x) :=
    fun _ x h => ⟨coupled_step hc h.1 t x, written_step h.1 h.2 x⟩
  have hstart : Written t c ⟨buf, c, [], []⟩ := ⟨⟨hbuf, rfl⟩, fun p hp => nomatch hp⟩
  exact (Run.invariant_of_step hstep ⟨coupled_start hc buf, hstart⟩ xs).2.packets p hp

lemma PacketHolds.word {t : UInt32} {c : TalkerStreamConfig}
    {inputs : List (AudioFrame × PtpTimeInfoMod64)} {buf : Mem} (h : PacketHolds t c inputs buf)
    {j k : ℕ} {x : AudioFrame × PtpTimeInfoMod64} (hx : inputs[j]? = some x)
    (hk : k < c.numChannels) : buf.load (sampleStart + 4 * c.numChannels * j + 4 * k) 4
      = beBytes 4 (sampleWord t c.map x.1 k).toNat := by
  have hframe := Mem.Holds.block
    (g := fun x : AudioFrame × PtpTimeInfoMod64 => frameBytes t c.map c.numChannels x.1)
    (fun x => length_frameBytes t c.map c.numChannels x.1) h.samples hx
  have hword := Mem.Holds.block (g := fun i => beBytes 4 (sampleWord t c.map x.1 i).toNat)
    (fun i => length_beBytes 4 _) hframe (List.getElem?_range hk)
  unfold Mem.Holds at hword
  rw [length_beBytes] at hword
  exact hword
