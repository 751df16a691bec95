/-
# From a talker to a listener

The packets of a talker stream are those of a regular stream, so a listener locks onto it wherever
it begins to listen.  The number of samples of sixteen packets, divided by sixteen, is the number of
samples per packet rounded down, from which the listener looks up the rate; its table has no entry
for 176400 Hz, of which a packet has 22 samples.
-/
import LibTsn.ListenerLock
import LibTsn.TalkerPayload
import LibTsn.TalkerReservation

/-! ## A packet as it is received -/

variable (c : TalkerStreamConfig) (p : BuiltPacket)

/-- The size that `avb1722_create_packet` returned for a packet. -/
def BuiltPacket.size : ℕ :=
  avbEthernetHdrSize + avbTpHdrSize + (avbCipHdrSize + 4 * (p.inputs.length * c.numChannels))

structure ReceivedAs (c : TalkerStreamConfig) (p : BuiltPacket) (f : ReceivedFrame) : Prop where
  size : p.size c ≤ f.numBytes
  bytes : ∀ x < p.size c, f.buf x = p.buf (bufStart + x)

def BuiltPacket.frame : ReceivedFrame where
  buf x := p.buf (bufStart + x)
  numBytes := p.size c

lemma receivedAs_frame (ps : List BuiltPacket) :
    List.Forall₂ (ReceivedAs c) ps (ps.map (·.frame c)) := by
  rw [List.forall₂_map_right_iff]
  exact List.forall₂_same.mpr fun p _ => ⟨le_rfl, fun _ _ => rfl⟩

section

variable {t : UInt32} {c : TalkerStreamConfig} {p : BuiltPacket} {f : ReceivedFrame}

lemma ReceivedAs.load (h : ReceivedAs c p f) {a n : ℕ} (hn : a + n ≤ p.size c) :
    f.buf.load a n = p.buf.load (bufStart + a) n := by
  apply List.map_congr_left
  intro i hi
  rw [h.bytes _ (by have := List.mem_range.mp hi; omega), Nat.add_assoc]

lemma le_size (c : TalkerStreamConfig) (p : BuiltPacket) : 50 ≤ p.size c := by
  unfold BuiltPacket.size avbEthernetHdrSize avbTpHdrSize avbCipHdrSize
  omega

lemma flags_cases {b : UInt8} (h : b &&& 0xfe = 0x80) : b = 0x80 ∨ b = 0x81 := by
  have hbits : ∀ b : BitVec 8, b &&& 0xfe = 0x80 → b = 0x80 ∨ b = 0x81 := by decide
  rw [← UInt8.toBitVec_inj, UInt8.toBitVec_and] at h
  rw [← UInt8.toBitVec_inj, ← UInt8.toBitVec_inj]
  exact hbits _ h

lemma hdr_received (h : ReceivedAs c p f) (hh : TaggedHeader p.buf) : f.hdr = 18 := by
  have hsize := le_size c p
  unfold ReceivedFrame.hdr
  rw [h.bytes 12 (by omega), hh.tag, if_pos rfl]

lemma proper_received (h : ReceivedAs c p f) (hh : TaggedHeader p.buf)
    (hsamples : 0 < p.inputs.length * c.numChannels) : f.Proper := by
  have hsize := le_size c p
  have hhdr := hdr_received h hh
  have hsub : f.buf 18 = 0 := by rw [h.bytes 18 (by omega)]; exact hh.subtype
  have hflags : f.buf 19 = 0x80 ∨ f.buf 19 = 0x81 := by
    rw [h.bytes 19 (by omega)]
    exact flags_cases hh.flags
  refine ⟨?_, ?_, ?_, ?_⟩
  · have hlong := h.size
    unfold BuiltPacket.size avbEthernetHdrSize avbTpHdrSize avbCipHdrSize at hlong
    rw [f.samplePtr_eq]
    omega
  · unfold ReceivedFrame.version
    rw [hhdr]
    rcases hflags with hb | hb <;> rw [hb] <;> decide
  · unfold ReceivedFrame.cd
    rw [hhdr, hsub]
    decide
  · unfold ReceivedFrame.sv
    rw [hhdr]
    rcases hflags with hb | hb <;> rw [hb] <;> decide

lemma fields_received (h : ReceivedAs c p f) (hh : TaggedHeader p.buf) :
    f.dbcValue = packetDbc p.buf ∧ f.pktDataLength = packetDataLength p.buf ∧
      (f.tv = 1 ↔ packetTv p.buf = true) ∧ f.timestamp = packetTimestamp p.buf := by
  have hsize := le_size c p
  have hhdr := hdr_received h hh
  unfold ReceivedFrame.dbcValue ReceivedFrame.pktDataLength ReceivedFrame.tv
    ReceivedFrame.timestamp avbTpHdrSize
  rw [hhdr, h.bytes _ (by omega), h.bytes _ (by omega), h.load (by omega), h.load (by omega)]
  refine ⟨rfl, rfl, ?_, rfl⟩
  unfold packetTv
  rw [beq_iff_eq]
  rfl

lemma numSamples_received (h : ReceivedAs c p f) (hh : TaggedHeader p.buf)
    (hlen : packetDataLength p.buf = 8 + 4 * (p.inputs.length * c.numChannels)) :
    f.numSamplesInPayload = (p.inputs.length * c.numChannels : ℕ) := by
  unfold ReceivedFrame.numSamplesInPayload
  rw [(fields_received h hh).2.1, hlen, Int.shiftRight_eq_div_pow]
  push_cast
  omega

/-! ## The samples -/

def sentSample (c : TalkerStreamConfig) (k : ℕ) (x : AudioFrame × PtpTimeInfoMod64) : UInt32 :=
  (x.1.samples.getD (c.map.getD k 0) 0 >>> 8) <<< 8

lemma byterev_of_load {bs : List UInt8} (hlen : bs.length = 4) :
    byterev (beNat bs.reverse) = beNat bs := by
  have hback := beBytes_beNat bs.reverse
  rw [List.length_reverse, hlen] at hback
  rw [byterev, hback, List.reverse_reverse]

lemma arriving_sampleWord {cfg : FifoConfig} (hcfg : cfg.formatSaf = false) (ht : t <<< 8 = 0)
    {buf : Mem} {a : ℤ} {k : ℕ} {x : AudioFrame × PtpTimeInfoMod64}
    (hload : buf.load a.toNat 4 = beBytes 4 (sampleWord t c.map x.1 k).toNat) :
    cfg.arriving (wordAt buf a) = sentSample c k x := by
  have hlt : beNat (buf.load a.toNat 4).reverse < 2 ^ 32 := by
    have hbound := beNat_lt (buf.load a.toNat 4).reverse
    rw [List.length_reverse, Mem.length_load] at hbound
    exact hbound
  unfold FifoConfig.arriving wordAt
  rw [hcfg, UInt32.toNat_ofNat_of_lt' hlt, byterev_of_load (Mem.length_load _ _ _), hload,
    beNat_beBytes]
  have hword : (sampleWord t c.map x.1 k).toNat % 256 ^ 4 = (sampleWord t c.map x.1 k).toNat :=
    Nat.mod_eq_of_lt (UInt32.toNat_lt _)
  rw [hword, UInt32.ofNat_toNat, if_neg Bool.false_ne_true]
  unfold sampleWord sentSample
  rw [UInt32.shiftLeft_or, ht, UInt32.or_zero]

lemma stridedIndices_mul {stride : ℕ} (hstride : 0 < stride) (len : ℕ) :
    stridedIndices stride (len * stride : ℕ)
      = (List.range len).map fun j : ℕ => (j : ℤ) * stride := by
  have hpos : (0 : ℤ) < stride := by exact_mod_cast hstride
  have hcount : stridedCount stride (len * stride : ℕ) = len := by
    apply eq_of_forall_lt_iff
    intro j
    rw [lt_stridedCount_iff _ hpos]
    norm_cast
    exact Nat.mul_lt_mul_right hstride
  rw [stridedIndices, hcount]

/-- **A push.**  What the listener takes for channel `k` are the talker's samples of this channel,
one of every frame of the packet. -/
theorem pushed_received {cfg : FifoConfig} (hcfg : cfg.formatSaf = false) (ht : t <<< 8 = 0)
    (h : ReceivedAs c p f) (hp : PacketHolds t c p.inputs p.buf) {k : ℕ} (hk : k < c.numChannels)
    (fifo : ℤ) : (ListenerAct.stridedPush fifo (50 + 4 * k) c.numChannels
        (p.inputs.length * c.numChannels : ℕ)).pushed cfg f.buf
      = [(fifo, p.inputs.map (sentSample c k))] := by
  have hsamples : (stridedIndices c.numChannels (p.inputs.length * c.numChannels : ℕ)).map
      (fun i => cfg.arriving (wordAt f.buf (50 + 4 * k + 4 * i)))
      = p.inputs.map (sentSample c k) := by
    rw [stridedIndices_mul (by omega), List.map_map]
    apply List.ext_getElem
    · simp
    · intro j hj hj'
      rw [List.length_map] at hj'
      rw [List.getElem_map, List.getElem_map, List.getElem_range]
      apply arriving_sampleWord hcfg ht
      have hrow : j * c.numChannels + c.numChannels ≤ p.inputs.length * c.numChannels := by
        rw [← Nat.succ_mul]
        exact Nat.mul_le_mul_right _ hj'
      have haddr : (50 + 4 * (k : ℤ) + 4 * (j * c.numChannels)).toNat
          = 50 + 4 * k + 4 * (j * c.numChannels) := by
        exact_mod_cast Int.toNat_natCast (50 + 4 * k + 4 * (j * c.numChannels))
      have hword := hp.word (List.getElem?_eq_getElem hj') hk
      show f.buf.load (50 + 4 * (k : ℤ) + 4 * (j * c.numChannels)).toNat 4 = _
      rw [haddr, h.load, ← hword]
      · congr 1
        unfold sampleStart avbEthernetHdrSize avbTpHdrSize avbCipHdrSize
        ring
      · unfold BuiltPacket.size avbEthernetHdrSize avbTpHdrSize avbCipHdrSize
        omega
  exact congrArg (fun samples => [(fifo, samples)]) hsamples

end

/-! ## The talker's packets are a regular stream -/

section

variable {s c : TalkerStreamConfig} {setup : TalkerSetup} {mac : List UInt8}

lemma frameChunker_size_le (hc : Configured c) (rem : ℕ) : (frameChunker c).size rem ≤ 33 := by
  obtain ⟨k, hk, hts⟩ := hc.interval
  have hbase := hc.base_le
  have hpow : 2 ^ k ≤ 2 ^ 5 := Nat.pow_le_pow_right (by decide) hk
  have hsize : (frameChunker c).size rem ≤ c.samplesPerPacketBase + 1 := samplesPerChannel_le _
  omega

def talkerStream (hc : Configured c) (hpos : 0 < c.numChannels) : RegularStream where
  channels := c.numChannels
  before := (frameChunker c).total 0
  channels_pos := hpos
  grows n := by
    have hsize := frameChunker_size_pos hc ((frameChunker c).next^[n] 0)
    rw [Chunker.total_succ]
    omega
  small n := by
    have hsize := frameChunker_size_le hc ((frameChunker c).next^[n] 0)
    rw [Chunker.total_succ]
    omega

lemma carries_received (h : configureStream s setup mac = some c) (hpos : 0 < c.numChannels)
    (hfits : 8 + 4 * (largestPacket setup.rate * c.numChannels) < 2 ^ 16) (t : UInt32) {buf : Mem}
    (hbuf : TaggedHeader buf) (xs : List (AudioFrame × PtpTimeInfoMod64)) {n : ℕ}
    {p : BuiltPacket} (hp : (streamRun t buf c xs).packets[n]? = some p) {f : ReceivedFrame}
    (hf : ReceivedAs c p f) : (talkerStream (configured_of_configureStream h) hpos).Carries n f ∧
      f.numSamplesInPayload = (p.inputs.length * c.numChannels : ℕ) := by
  have hc := configured_of_configureStream h
  have hmem := List.mem_of_getElem? hp
  have hheader := (holds_streamRun hc t hbuf xs hmem).header
  have hlaw := (coupled_streamRun hc t buf xs).law n p hp
  have hlength := length_inputs_streamRun hc t buf xs n p hp
  have hsize := frameChunker_size_pos hc ((frameChunker c).next^[n] 0)
  have hlen : packetDataLength p.buf = 8 + 4 * (p.inputs.length * c.numChannels) := by
    have hle := Nat.mul_le_mul_right c.numChannels (length_inputs_le_largest h t buf xs hmem)
    rw [hlaw.dataLength, Nat.mod_eq_of_lt (by omega)]
  have hsamples := numSamples_received hf hheader hlen
  have hbefore := samplesIn_take_streamRun hc t buf xs (List.getElem?_eq_some_iff.mp hp).1.le
  refine ⟨⟨proper_received hf hheader (Nat.mul_pos (by omega) hpos), ?_, ?_⟩, hsamples⟩
  · rw [(fields_received hf hheader).1, hlaw.dbc, hbefore]
    rfl
  · show _ = (((frameChunker c).total 0 (n + 1) : ℕ) - ((frameChunker c).total 0 n : ℕ) : ℤ) * _
    rw [hsamples, Chunker.total_succ, ← hlength]
    push_cast
    show (p.inputs.length : ℤ) * c.numChannels = _ * (c.numChannels : ℤ)
    ring

/-- **The mean.**  Sixteen packets have sixteen times the whole number of samples, and fewer than
sixteen more: not every packet has a carry. -/
theorem mean_talkerStream (h : configureStream s setup mac = some c) (hpos : 0 < c.numChannels)
    (j : ℕ) :
    (talkerStream (configured_of_configureStream h) hpos).mean j = c.samplesPerPacketBase := by
  obtain ⟨-, hfrac⟩ := parts_of_configureStream h
  have hfew : CarryAccumulator.carries c.samplesPerPacketFractional 65536 (j + 16)
      ≤ CarryAccumulator.carries c.samplesPerPacketFractional 65536 j + 15 :=
    (CarryAccumulator.carries_add_le _ _ (j + 2) 14).trans
      (Nat.add_le_add_right (CarryAccumulator.carries_add_two_le (by decide) j) 14)
  have hmore : CarryAccumulator.carries c.samplesPerPacketFractional 65536 j
      ≤ CarryAccumulator.carries c.samplesPerPacketFractional 65536 (j + 16) :=
    Finset.sum_le_sum_of_subset (Finset.range_mono (Nat.le_add_right j 16))
  show ((frameChunker c).total 0 (j + 16) - (frameChunker c).total 0 j) / 16 = _
  rw [total_frameChunker hfrac, total_frameChunker hfrac, Nat.add_mul]
  omega

/-- **The rate.**  The table of the listener has every supported rate but one. -/
theorem rateOfSamples_base (h : configureStream s setup mac = some c) :
    rateOfSamples c.samplesPerPacketBase = if setup.rate = 176400 then 0 else setup.rate := by
  have hrates : ∀ rate ∈ supportedRates, rateOfSamples (samplesPerPacket rate >>> 16 : ℕ)
      = (if rate = 176400 then 0 else rate : ℕ) := by decide
  have hset := settings_of_configureStream h
  rw [hset.base]
  exact hrates _ (mem_supportedRates hset.tsInterval)

lemma sytInterval_rate {rate ts : ℕ} (h : tsIntervalOfRate rate = some ts) :
    sytInterval rate = some ts := by
  have hrates : ∀ rate ∈ supportedRates, sytInterval rate = tsIntervalOfRate rate := by decide
  rw [hrates rate (mem_supportedRates h), h]

lemma sampleNum_eq_stampOffset {k : ℕ} (dbc : ℕ) :
    sampleNum (2 ^ k) dbc = stampOffset (2 ^ k) dbc := by
  rw [sampleNum, stampOffset, Nat.and_two_pow_sub_one_eq_mod, Nat.and_two_pow_sub_one_eq_mod]

end

/-! ## One packet of a locked stream -/

def pushedTo (cfg : FifoConfig) (fifo : ℤ) (x : ReceivedFrame × ListenerOutcome) : List UInt32 :=
  (x.2.acts.flatMap (ListenerAct.pushed cfg x.1.buf)).flatMap fun q =>
    if q.1 = fifo then q.2 else []

def heard (s : ListenerStreamInfo) (fs : List ReceivedFrame) :
    List (ReceivedFrame × ListenerOutcome) :=
  Run.outputs hear (fun s f => [(f, (avb1722ListenerProcessPacket s f).2)]) s fs

structure Arrives (t : UInt32) (c : TalkerStreamConfig) (p : BuiltPacket) (f : ReceivedFrame) :
    Prop where
  received : ReceivedAs c p f
  holds : PacketHolds t c p.inputs p.buf
  proper : f.Proper
  samples : f.numSamplesInPayload = (p.inputs.length * c.numChannels : ℕ)

lemma flatMap_ite_of_unique {α : Type*} {l : List ℕ} (hl : l.Nodup) {k : ℕ} (hk : k ∈ l)
    {P : ℕ → Prop} [DecidablePred P] (hP : ∀ i ∈ l, P i ↔ i = k) (g : ℕ → List α) :
    (l.flatMap fun i => if P i then g i else []) = g k := by
  induction l with
  | nil => cases hk
  | cons i l ih =>
    obtain ⟨hnot, hnodup⟩ := List.nodup_cons.mp hl
    have htail : ∀ j ∈ l, P j ↔ j = k := fun j hj => hP j (List.mem_cons_of_mem i hj)
    rw [List.flatMap_cons]
    rcases List.mem_cons.mp hk with rfl | hmem
    · have hrest : (l.flatMap fun j => if P j then g j else []) = [] :=
        List.flatMap_eq_nil_iff.mpr fun j hj =>
          if_neg fun hPj => hnot ((htail j hj).mp hPj ▸ hj)
      rw [if_pos ((hP k List.mem_cons_self).mpr rfl), hrest, List.append_nil]
    · have hne : ¬ P i := fun hPi => hnot ((hP i List.mem_cons_self).mp hPi ▸ hmem)
      rw [if_neg hne, ih hnodup hmem htail, List.nil_append]

section

variable {t : UInt32} {c : TalkerStreamConfig} {p : BuiltPacket} {f : ReceivedFrame}
  {s : ListenerStreamInfo} {rate : ℤ} {syt : ℕ}

lemma outcome_of_locked (hf : Arrives t c p f) (hs : Locked c.numChannels rate s)
    (hsyt : sytInterval rate = some syt) : (avb1722ListenerProcessPacket s f).2 = s.deliver f
      (if f.tv = 1 then s.stampActs f.timestamp (sampleNum syt f.dbcValue) else []) := by
  rw [processPacket_of_proper s hf.proper]
  exact receive_of_rate hs.chanLock f (by rw [hs.rate]; exact hsyt)

lemma pushed_of_locked {cfg : FifoConfig} (hcfg : cfg.formatSaf = false) (ht : t <<< 8 = 0)
    (hf : Arrives t c p f) (hs : Locked c.numChannels rate s) (hsyt : sytInterval rate = some syt) :
    (avb1722ListenerProcessPacket s f).2.acts.flatMap (ListenerAct.pushed cfg f.buf)
      = (s.mapped s.pushedChannels).map fun k => (s.map k, p.inputs.map (sentSample c k)) := by
  have hstamps :
      (if f.tv = 1 then s.stampActs f.timestamp (sampleNum syt f.dbcValue) else []).flatMap
      (ListenerAct.pushed cfg f.buf) = [] := by
    split
    · rw [ListenerStreamInfo.stampActs, List.flatMap_map]
      exact List.flatMap_eq_nil_iff.mpr fun _ _ => rfl
    · rfl
  have hmaintain : s.maintainActs.flatMap (ListenerAct.pushed cfg f.buf) = [] := by
    rw [ListenerStreamInfo.maintainActs, List.flatMap_map]
    exact List.flatMap_eq_nil_iff.mpr fun _ _ => rfl
  have hptr : (f.samplePtr : ℤ) = 50 := by
    rw [f.samplePtr_eq, hdr_received hf.received hf.holds.header]
    rfl
  rw [outcome_of_locked hf hs hsyt]
  unfold ListenerStreamInfo.deliver
  dsimp only
  rw [List.flatMap_append, List.flatMap_append, hstamps, hmaintain, List.nil_append,
    List.nil_append, ListenerStreamInfo.pushActs, List.flatMap_map, List.map_eq_flatMap, hptr,
    hs.payload, hf.samples]
  refine List.flatMap_congr fun k hk => ?_
  have hlt := (ListenerStreamInfo.mem_mapped.mp hk).1
  unfold ListenerStreamInfo.pushedChannels at hlt
  rw [hs.payload] at hlt
  exact pushed_received hcfg ht hf.received hf.holds (by omega) _

lemma pushedTo_of_locked {cfg : FifoConfig} (hcfg : cfg.formatSaf = false) (ht : t <<< 8 = 0)
    (hf : Arrives t c p f) (hs : Locked c.numChannels rate s) (hsyt : sytInterval rate = some syt)
    {k : ℕ} (hk : k < c.numChannels) (hsink : (k : ℤ) < s.numChannels) (hmap : 0 ≤ s.map k)
    (hone : ∀ i : ℕ, (i : ℤ) < s.numChannels → s.map i = s.map k → i = k) :
    pushedTo cfg (s.map k) (f, (avb1722ListenerProcessPacket s f).2)
      = p.inputs.map (sentSample c k) := by
  unfold pushedTo
  dsimp only
  rw [pushed_of_locked hcfg ht hf hs hsyt, List.flatMap_map]
  have hmem : ∀ i, i ∈ s.mapped s.pushedChannels ↔ ((i : ℤ) < s.numChannels ∧ i < c.numChannels) ∧
      0 ≤ s.map i := by
    intro i
    unfold ListenerStreamInfo.pushedChannels
    rw [ListenerStreamInfo.mem_mapped, hs.payload]
    omega
  refine flatMap_ite_of_unique (List.nodup_range.filter _) ((hmem k).mpr ⟨⟨hsink, hk⟩, hmap⟩)
    (P := fun i => s.map i = s.map k)
    (fun i hi => ⟨hone i ((hmem i).mp hi).1.1, fun h => by rw [h]⟩)
    (fun i => p.inputs.map (sentSample c i))

lemma stamps_of_locked (hf : Arrives t c p f) (hs : Locked c.numChannels rate s)
    (hc : Configured c) (hsyt : sytInterval rate = some c.tsInterval) {n before : ℕ}
    (hlaw : PacketLaw c n before p) (htv : packetTv p.buf = true) :
    ∃ x last, p.inputs[stampOffset c.tsInterval (packetDbc p.buf)]? = some x ∧
      p.inputs.getLast? = some last ∧ ∀ fifo timestamp sampleNum,
        .setPtpTimestamp fifo timestamp sampleNum ∈ (avb1722ListenerProcessPacket s f).2.acts ↔
          (∃ k ∈ s.mapped s.numChannels, fifo = s.map k) ∧
          timestamp
            = (localTimestampToPtpMod32 x.1.timestamp last.2 + c.presentationDelay) % 2 ^ 32 ∧
          sampleNum = stampOffset c.tsInterval (packetDbc p.buf) := by
  obtain ⟨hdbc, -, htv', hts⟩ := fields_received hf.received hf.holds.header
  obtain ⟨k, -, hpow⟩ := hc.interval
  have hnum : sampleNum c.tsInterval f.dbcValue = stampOffset c.tsInterval (packetDbc p.buf) := by
    rw [hdbc, hpow, sampleNum_eq_stampOffset]
  have hlt := hlaw.tv.mp htv
  have hx := List.getElem?_eq_getElem hlt
  have hne : p.inputs ≠ [] := List.ne_nil_of_length_pos (by omega)
  have hlast := List.getLast?_eq_getLast_of_ne_nil hne
  refine ⟨_, _, hx, hlast, fun fifo timestamp sampleNum => ?_⟩
  rw [outcome_of_locked hf hs hsyt, if_pos (htv'.mpr htv), hnum, hts, hlaw.timestamp _ _ hx hlast]
  -- the other calls are no timestamps
  simp only [ListenerStreamInfo.deliver, ListenerStreamInfo.stampActs,
    ListenerStreamInfo.maintainActs, ListenerStreamInfo.pushActs, List.mem_append, List.mem_map,
    ListenerAct.setPtpTimestamp.injEq, reduceCtorEq, and_false, exists_false, or_false]
  constructor
  · rintro ⟨k, hk, rfl, rfl, rfl⟩
    exact ⟨⟨k, hk, rfl⟩, rfl, rfl⟩
  · rintro ⟨⟨k, hk, rfl⟩, rfl, rfl⟩
    exact ⟨k, hk, rfl, rfl, rfl⟩

/-- **Run.**  What a locked stream pushes into the FIFO of channel `k`. -/
theorem pushedTo_heard {cfg : FifoConfig} (hcfg : cfg.formatSaf = false) (ht : t <<< 8 = 0)
    (hs : Locked c.numChannels rate s) (hsyt : sytInterval rate = some syt) {k : ℕ}
    (hk : k < c.numChannels) (hsink : (k : ℤ) < s.numChannels) (hmap : 0 ≤ s.map k)
    (hone : ∀ i : ℕ, (i : ℤ) < s.numChannels → s.map i = s.map k → i = k)
    {ps : List BuiltPacket} {fs : List ReceivedFrame} (hfs : List.Forall₂ (Arrives t c) ps fs) :
    (heard s fs).flatMap (pushedTo cfg (s.map k))
      = ps.flatMap fun p => p.inputs.map (sentSample c k) := by
  induction hfs generalizing s with
  | nil => rfl
  | cons hf _ ih =>
    rename_i p f ps fs _
    obtain ⟨hnum, hmaps⟩ := sameMap_hear s f
    have hrest := ih (locked_hear hs f) (by rw [hnum]; exact hsink) (by rw [hmaps]; exact hmap)
      (by rw [hnum, hmaps]; exact hone)
    rw [hmaps] at hrest
    rw [heard, Run.outputs, List.flatMap_append, List.flatMap_singleton, List.flatMap_cons,
      pushedTo_of_locked hcfg ht hf hs hsyt hk hsink hmap hone]
    exact congrArg _ hrest

end

/-! ## The whole way -/

structure EndToEnd (cfg : FifoConfig) (rate : ℕ) (c : TalkerStreamConfig) (s : ListenerStreamInfo)
    (ps : List BuiltPacket) (fs : List ReceivedFrame) (n : ℕ) : Prop where
  locked : n ≤ fs.length → Locked c.numChannels rate (listen s (fs.take n))
  passed : ∀ m f, n ≤ m → fs[m]? = some f →
    (avb1722ListenerProcessPacket (listen s (fs.take m)) f).2.ret = 1
  samples : ∀ k < c.numChannels, (k : ℤ) < s.numChannels → 0 ≤ s.map k →
    (∀ i : ℕ, (i : ℤ) < s.numChannels → s.map i = s.map k → i = k) →
      (heard (listen s (fs.take n)) (fs.drop n)).flatMap (pushedTo cfg (s.map k))
        = (ps.drop n).flatMap fun p => p.inputs.map (sentSample c k)
  stamps : ∀ m f p, n ≤ m → fs[m]? = some f → ps[m]? = some p → packetTv p.buf = true →
    ∃ x last, p.inputs[stampOffset c.tsInterval (packetDbc p.buf)]? = some x ∧
      p.inputs.getLast? = some last ∧ ∀ fifo timestamp sampleNum,
        .setPtpTimestamp fifo timestamp sampleNum
            ∈ (avb1722ListenerProcessPacket (listen s (fs.take m)) f).2.acts ↔
          (∃ k ∈ s.mapped s.numChannels, fifo = s.map k) ∧
          timestamp
            = (localTimestampToPtpMod32 x.1.timestamp last.2 + c.presentationDelay) % 2 ^ 32 ∧
          sampleNum = stampOffset c.tsInterval (packetDbc p.buf)

/-- A listener that hears the stream from any packet on is served after 18 packets at most. -/
def ServesListeners (rate : ℕ) (c : TalkerStreamConfig) : Prop :=
  ∀ (cfg : FifoConfig) (sampleType : UInt32) (buf : Mem) (vlanid : ℕ)
    (xs : List (AudioFrame × PtpTimeInfoMod64)) (j : ℕ) (fs : List ReceivedFrame)
    (s : ListenerStreamInfo) (mediaClock listenerRate numChannels : ℤ) (map : ℕ → ℤ),
    let ps := (streamRun (storedSampleType sampleType) (avb1722TalkerBufInit buf c vlanid).1 c
      xs).packets.drop j
    cfg.formatSaf = false → List.Forall₂ (ReceivedAs c) ps fs →
      ∃ n ≤ 18, EndToEnd cfg rate c
        (s.configureStream mediaClock listenerRate numChannels map).1 ps fs n

lemma storedSampleType_shiftLeft (sampleType : UInt32) : storedSampleType sampleType <<< 8 = 0 := by
  unfold storedSampleType
  split_ifs <;> decide

lemma exists_packet {α β : Type*} {R : α → β → Prop} {ps : List α} {fs : List β}
    (h : List.Forall₂ R ps fs) {i : ℕ} {f : β} (hf : fs[i]? = some f) :
    ∃ p, ps[i]? = some p ∧ R p f := by
  induction h generalizing i with
  | nil => cases hf
  | cons hR _ ih =>
    cases i with
    | zero =>
      cases hf
      exact ⟨_, rfl, hR⟩
    | succ i => exact ih hf

section

variable {s c : TalkerStreamConfig} {setup : TalkerSetup} {mac : List UInt8}
  (h : configureStream s setup mac = some c) (hpos : 0 < c.numChannels)
  (hfits : 8 + 4 * (largestPacket setup.rate * c.numChannels) < 2 ^ 16) (t : UInt32) {buf : Mem}
  (hbuf : TaggedHeader buf) (xs : List (AudioFrame × PtpTimeInfoMod64)) {j : ℕ}
  {fs : List ReceivedFrame}
  (hfs : List.Forall₂ (ReceivedAs c) ((streamRun t buf c xs).packets.drop j) fs)

include hfits hbuf hfs in
lemma follows_received : (talkerStream (configured_of_configureStream h) hpos).Follows j fs := by
  intro i f hf
  obtain ⟨p, hp, hreceived⟩ := exists_packet hfs hf
  rw [List.getElem?_drop] at hp
  exact (carries_received h hpos hfits t hbuf xs hp hreceived).1

include h hpos hfits hbuf hfs in
lemma arrives_received : List.Forall₂ (Arrives t c) ((streamRun t buf c xs).packets.drop j) fs := by
  have hboth := (List.forall₂_and_left _ _).mpr
    ⟨fun p (hp : p ∈ (streamRun t buf c xs).packets.drop j) => List.mem_of_mem_drop hp, hfs⟩
  refine hboth.imp fun p f ⟨hmem, hf⟩ => ?_
  obtain ⟨n, hn⟩ := List.mem_iff_getElem?.mp hmem
  obtain ⟨hcarries, hsamples⟩ := carries_received h hpos hfits t hbuf xs hn hf
  exact ⟨hf, holds_streamRun (configured_of_configureStream h) t hbuf xs hmem, hcarries.proper,
    hsamples⟩

include h hpos hfits hbuf hfs in
lemma locked_received {l : ListenerStreamInfo} (hl : Fresh l) {m : ℕ} (hm : 17 ≤ m)
    (hlen : m ≤ fs.length) :
    Locked c.numChannels (if setup.rate = 176400 then 0 else setup.rate : ℕ)
      (listen l (fs.take m)) := by
  have hlocked := locked_run hl (by rw [List.length_take_of_le hlen]; exact hm)
    ((follows_received h hpos hfits t hbuf xs hfs).take m)
  rw [mean_talkerStream h hpos, rateOfSamples_base h] at hlocked
  exact hlocked

include h hpos hfits hbuf hfs in
/-- **The way.**  At every rate that the table has, a listener is served from the eighteenth packet
on. -/
theorem endToEnd_received (ht : t <<< 8 = 0) {cfg : FifoConfig} (hcfg : cfg.formatSaf = false)
    {l : ListenerStreamInfo} (hl : Fresh l) (hrate : setup.rate ≠ 176400) :
    EndToEnd cfg setup.rate c l ((streamRun t buf c xs).packets.drop j) fs 17 := by
  have harrives := arrives_received h hpos hfits t hbuf xs hfs
  have hsyt := sytInterval_rate (settings_of_configureStream h).tsInterval
  have hlocked : ∀ m, 17 ≤ m → m ≤ fs.length →
      Locked c.numChannels setup.rate (listen l (fs.take m)) := by
    intro m hm hlen
    have hat := locked_received h hpos hfits t hbuf xs hfs hl hm hlen
    rwa [if_neg hrate] at hat
  refine ⟨hlocked 17 le_rfl, ?_, ?_, ?_⟩
  · intro m f hm hf
    obtain ⟨p, -, hp⟩ := exists_packet harrives hf
    rw [outcome_of_locked hp (hlocked m hm (List.getElem?_eq_some_iff.mp hf).1.le) hsyt]
    rfl
  · intro k hk hsink hmap hone
    by_cases hlen : 17 ≤ fs.length
    · obtain ⟨hnum, hmaps⟩ := sameMap_listen l (fs.take 17)
      have hrest := pushedTo_heard hcfg ht (hlocked 17 le_rfl hlen) hsyt hk
        (by rw [hnum]; exact hsink) (by rw [hmaps]; exact hmap) (by rw [hnum, hmaps]; exact hone)
        (List.forall₂_drop 17 harrives)
      rw [hmaps] at hrest
      exact hrest
    · -- nothing has arrived after the lock
      have hlength := harrives.length_eq
      rw [List.drop_eq_nil_of_le (by omega), List.drop_eq_nil_of_le (by omega)]
      rfl
  · intro m f p hm hf hp htv
    obtain ⟨hnum, hmaps⟩ := sameMap_listen l (fs.take m)
    obtain ⟨q, hq, hqf⟩ := exists_packet harrives hf
    obtain rfl : p = q := Option.some.inj (hp.symm.trans hq)
    rw [List.getElem?_drop] at hp
    have hlaw := (coupled_streamRun (configured_of_configureStream h) t buf xs).law _ p hp
    have hstamps := stamps_of_locked hqf (hlocked m hm (List.getElem?_eq_some_iff.mp hf).1.le)
      (configured_of_configureStream h) hsyt hlaw htv
    simp only [ListenerStreamInfo.mem_mapped, hnum, hmaps] at hstamps ⊢
    exact hstamps

include h hpos hfits hbuf hfs in
lemma not_endToEnd_received {cfg : FifoConfig} {l : ListenerStreamInfo} (hlen : 18 ≤ fs.length)
    (hl : Fresh l) (hrate : setup.rate = 176400) :
    ¬ ∃ n ≤ 18, EndToEnd cfg setup.rate c l ((streamRun t buf c xs).packets.drop j) fs n := by
  rintro ⟨n, hn, hend⟩
  have hwanted := locked_listen (hend.locked (hn.trans hlen)) (fs.drop n)
  have hfound := locked_received h hpos hfits t hbuf xs hfs hl (by omega : 17 ≤ fs.length) le_rfl
  rw [listen_take_drop] at hwanted
  rw [List.take_length, if_pos hrate] at hfound
  have hzero := hwanted.rate.symm.trans hfound.rate
  rw [hrate] at hzero
  exact absurd hzero (by decide)

end

/-- **From talker to listener.**  At every supported rate and every number of channels whose packets
the length field can count: all listeners are served if and only if the rate is not 176400 Hz. -/
theorem talker_listener_iff (s c : TalkerStreamConfig) (setup : TalkerSetup) (mac : List UInt8)
    (h : configureStream s setup mac = some c) (hdest : setup.destMacAdrs.length = 6)
    (hmac : mac.length = 6) (hpos : 1 ≤ c.numChannels)
    (hfits : 8 + 4 * (largestPacket setup.rate * c.numChannels) < 2 ^ 16) :
    ServesListeners setup.rate c ↔ setup.rate ≠ 176400 := by
  have hset := settings_of_configureStream h
  have hbuf : ∀ buf vlanid, TaggedHeader (avb1722TalkerBufInit buf c vlanid).1 :=
    fun buf vlanid => taggedHeader_bufInit buf vlanid (by rw [hset.destMacAdrs, hdest])
      (by rw [hset.srcMacAdrs, hmac])
  constructor
  · intro hserves hrate
    -- eighteen packets, received as they were sent
    obtain ⟨xs, hxs⟩ := exists_packets_streamRun (configured_of_configureStream h)
      (storedSampleType 0) (avb1722TalkerBufInit (fun _ => 0) c 0).1 18
    have hfs := receivedAs_frame c ((streamRun (storedSampleType 0)
      (avb1722TalkerBufInit (fun _ => 0) c 0).1 c xs).packets.drop 0)
    exact not_endToEnd_received h hpos hfits _ (hbuf _ 0) xs hfs (by simp [hxs])
      (fresh_configureStream ⟨false, 0, 0, 0, 0, 0, 0, fun _ => 0⟩ 0 0 0 fun _ => 0) hrate
      (hserves ⟨1, false, false⟩ 0 (fun _ => 0) 0 xs 0 _ _ 0 0 0 (fun _ => 0) rfl hfs)
  · intro hrate cfg sampleType buf vlanid xs j fs l mediaClock listenerRate numChannels
      map ps hcfg hfs
    exact ⟨17, by decide, endToEnd_received h hpos hfits (storedSampleType sampleType)
      (hbuf buf vlanid) xs hfs (storedSampleType_shiftLeft sampleType) hcfg
      (fresh_configureStream l mediaClock listenerRate numChannels map) hrate⟩

theorem talker_listener_48000 :
    ∃ c, configureStream {} monoSetup (List.replicate 6 0) = some c ∧ ServesListeners 48000 c :=
  ⟨_, rfl, (talker_listener_iff {} _ monoSetup (List.replicate 6 0) rfl rfl rfl (by decide)
    (by decide)).mpr (by decide)⟩

def monoListener : ListenerStreamInfo :=
  (ListenerStreamInfo.configureStream ⟨false, 0, 0, 0, 0, 0, 0, fun _ => 0⟩ 0 176400 1 fun _ => 0).1

def silentPackets : List BuiltPacket :=
  (streamRun mbla24Bit (avb1722TalkerBufInit (fun _ => 0) c 2).1 c
    (List.replicate 396 (⟨0, [0]⟩, ⟨0, 0, 0, 0, 0⟩))).packets

/-- The mono stream at 176.4 kHz: after seventeen packets a listener has locked with the rate zero,
and the eighteenth, which has a timestamp, is discarded. -/
theorem talker_listener_fails_176400 :
    ∃ c, configureStream {} { monoSetup with rate := 176400 } (List.replicate 6 0) = some c ∧
      ((silentPackets c)[17]?.map fun p =>
        let s := listen monoListener (((silentPackets c).take 17).map (·.frame c))
        (s.chanLock, s.numChannelsInPayload, s.rate, packetTv p.buf,
          (avb1722ListenerProcessPacket s (p.frame c)).2.ret)) = some (16, 1, 0, true, 0) := by
  refine ⟨_, rfl, ?_⟩
  decide +kernel
