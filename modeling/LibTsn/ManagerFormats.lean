/-
# Remote format commands and the talker

A `SET_STREAM_FORMAT` command writes the channel count and the rate of a source as it finds
them in the packet, without looking at either.  What is written is used when the source is
next configured into its talker unit: as the number of map entries to read, as the number of
samples per frame, and as the rate, for which `configure_stream` has a table of nine.
-/
import LibTsn.AecpBounds
import LibTsn.AvbManager
import LibTsn.TalkerLaw

open Function (update update_self update_of_ne)

open List (forall_mem_nil)

/-! ## Formats that fit -/

structure AvbSourceInfo.FormatFits (cfg : ManagerConfig) (src : AvbSourceInfo) : Prop where
  channels_pos : 1 ≤ src.channels
  channels_le : src.channels ≤ cfg.maxChannelsPerTalkerStream
  accepted : (tsIntervalOfRate src.rate).isSome = true
  rate_le : src.rate ≤ cfg.maxAudioSampleRate
  inputs : ∀ k < src.channels, src.mapAt k < cfg.numMediaInputs

variable (cfg : ManagerConfig) (rate : ℤ)

/-- A packet at the rate of the source fits the buffer: `AVB_MAX_AUDIO_SAMPLE_RATE` is rounded down
to whole samples per packet. -/
def AvbSourceInfo.PacketFits (src : AvbSourceInfo) : Prop :=
  src.rate ≤ avb1722PacketRate * cfg.talkerMaxNumSamplesPerChannel
  deriving Decidable

instance (cfg : ManagerConfig) (src : AvbSourceInfo) : Decidable (src.FormatFits cfg) :=
  decidable_of_iff (1 ≤ src.channels ∧ src.channels ≤ cfg.maxChannelsPerTalkerStream ∧
      (tsIntervalOfRate src.rate).isSome = true ∧ src.rate ≤ cfg.maxAudioSampleRate ∧
      ∀ k < src.channels, src.mapAt k < cfg.numMediaInputs)
    ⟨fun h => ⟨h.1, h.2.1, h.2.2.1, h.2.2.2.1, h.2.2.2.2⟩,
      fun h => ⟨h.channels_pos, h.channels_le, h.accepted, h.rate_le, h.inputs⟩⟩

/-- **In order.**  A `SET_STREAM_FORMAT` command for a source that is not running names a format
that fits. -/
def FormatsInOrder : Option AvbSystem → AvbEvent → Prop
  | some s, .request (.setStreamFormat _ pkt) _ =>
    SetsFormat cfg s.manager pkt →
      ((s.source (field16 pkt 26)).change (·.withFormat pkt)).FormatFits cfg ∧
        ((s.source (field16 pkt 26)).change (·.withFormat pkt)).PacketFits cfg
  | _, _ => True

instance (cfg : ManagerConfig) (o : Option AvbSystem) (e : AvbEvent) :
    Decidable (FormatsInOrder cfg o e) :=
  match o, e with
  | some s, .request (.setStreamFormat _ pkt) _ =>
    inferInstanceAs (Decidable (SetsFormat cfg s.manager pkt →
      ((s.source (field16 pkt 26)).change (·.withFormat pkt)).FormatFits cfg ∧
        ((s.source (field16 pkt 26)).change (·.withFormat pkt)).PacketFits cfg))
  | none, _ => isTrue trivial
  | some _, .audio _ _ _ => isTrue trivial
  | some _, .request (.setSourceState _ _) _ => isTrue trivial
  | some _, .request (.listenerJoinInd _ _ _) _ => isTrue trivial
  | some _, .request (.listenerLeaveInd _ _) _ => isTrue trivial
  | some _, .request (.domainJoinInd _) _ => isTrue trivial
  | some _, .request (.onListenerConnect _) _ => isTrue trivial
  | some _, .request (.onListenerDisconnect _ _) _ => isTrue trivial
  | some _, .request (.startStopStreaming _ _ _) _ => isTrue trivial

/-! ## Streams that fit -/

structure TalkerStreamConfig.Fits (cfg : ManagerConfig) (stream : TalkerStreamConfig) : Prop where
  channels : stream.numChannels ≤ cfg.maxChannelsPerTalkerStream
  base_pos : 1 ≤ stream.samplesPerPacketBase
  room : stream.samplesPerPacketBase + 1 ≤ cfg.talkerMaxNumSamplesPerChannel ∨
    stream.samplesPerPacketBase ≤ cfg.talkerMaxNumSamplesPerChannel ∧
      stream.samplesPerPacketFractional = 0 ∧ stream.rem = 0
  current : stream.currentSamplesInPacket < samplesPerChannel stream

section

variable {cfg : ManagerConfig} {stream : TalkerStreamConfig}

lemma TalkerStreamConfig.Fits.samples_le (h : stream.Fits cfg) :
    samplesPerChannel stream ≤ cfg.talkerMaxNumSamplesPerChannel := by
  rcases h.room with hroom | ⟨hroom, -, hrem⟩
  · exact (samplesPerChannel_le stream).trans hroom
  · rw [samplesPerChannel_zero hrem]
    exact hroom

lemma txBuf_fits {offset length : ℕ} (h : offset + length ≤ sampleStart +
      4 * (cfg.talkerMaxNumSamplesPerChannel * cfg.maxChannelsPerTalkerStream)) :
    (ManagerAct.txBuf offset length).Fits cfg := by
  have hstart : sampleStart = 52 := rfl
  show offset + length ≤ 4 * ((50 + cfg.talkerMaxNumSamplesPerChannel *
    cfg.maxChannelsPerTalkerStream * 4 + 4 + 3) / 4)
  omega

lemma txBuf_header_fits {offset length : ℕ} (h : offset + length ≤ sampleStart) :
    (ManagerAct.txBuf offset length).Fits cfg :=
  txBuf_fits (Nat.le_add_right_of_le h)

lemma createPacketActs_fits (h : stream.Fits cfg) : ∀ a ∈ createPacketActs stream, a.Fits cfg := by
  unfold createPacketActs
  refine List.forall_mem_cons.mpr ⟨txBuf_fits ?_, ?_⟩
  · -- the frame is one of those of the packet
    have hframes : (stream.currentSamplesInPacket + 1) * stream.numChannels ≤
        cfg.talkerMaxNumSamplesPerChannel * cfg.maxChannelsPerTalkerStream :=
      Nat.mul_le_mul (h.current.trans_le h.samples_le) h.channels
    rw [Nat.add_mul, Nat.one_mul] at hframes
    unfold sampleDest
    omega
  · split_ifs
    · simp only [List.forall_mem_cons, List.not_mem_nil, false_imp_iff, implies_true, and_true]
      refine ⟨?_, ?_, ?_, ?_, ?_, ?_⟩
      all_goals exact txBuf_header_fits (by decide)
    · exact forall_mem_nil _

/-- **Step.**  A frame leaves a stream that fits. -/
theorem fits_avb1722CreatePacket (h : stream.Fits cfg) (t : UInt32) (buf : Mem)
    (ti : PtpTimeInfoMod64) (frame : AudioFrame) :
    (avb1722CreatePacket t buf stream ti frame).2.1.Fits cfg := by
  by_cases hfull : stream.currentSamplesInPacket + 1 = samplesPerChannel stream
  · rw [avb1722CreatePacket_of_full t buf stream ti frame hfull]
    refine ⟨h.channels, h.base_pos, ?_, ?_⟩
    · exact h.room.imp_right fun ⟨hle, hf, hrem⟩ => ⟨hle, hf, nextRem_zero hf hrem⟩
    · exact Nat.lt_add_right _ h.base_pos
  · rw [avb1722CreatePacket_of_not_full t buf stream ti frame hfull]
    have hlt := h.current
    refine ⟨h.channels, h.base_pos, h.room, ?_⟩
    show stream.currentSamplesInPacket + 1 < samplesPerChannel stream
    omega

lemma room_of_rate {rate ts n : ℕ} (h : tsIntervalOfRate rate = some ts)
    (hle : rate ≤ avb1722PacketRate * n) : samplesPerPacket rate >>> 16 + 1 ≤ n ∨
      samplesPerPacket rate >>> 16 ≤ n ∧ samplesPerPacket rate &&& 0xffff = 0 := by
  have hpackets : avb1722PacketRate = 8000 := rfl
  -- the samples of a packet, rounded up only if there is a fraction
  have hrates : ∀ rate ∈ supportedRates,
      8000 * (samplesPerPacket rate >>> 16) < rate ∨
        8000 * (samplesPerPacket rate >>> 16) = rate ∧ samplesPerPacket rate &&& 0xffff = 0 := by
    decide
  rw [hpackets] at hle
  rcases hrates rate (mem_supportedRates h) with hmore | ⟨hwhole, hzero⟩
  · exact Or.inl (by omega)
  · exact Or.inr ⟨by omega, hzero⟩

variable (stream) in
lemma exists_configureStream {setup : TalkerSetup}
    (hmap : setup.map.length ≤ cfg.maxChannelsPerTalkerStream)
    (haccepted : (tsIntervalOfRate setup.rate).isSome = true)
    (hrate : setup.rate ≤ avb1722PacketRate * cfg.talkerMaxNumSamplesPerChannel)
    (macAddr : List UInt8) :
    ∃ c, configureStream stream setup macAddr = some c ∧ c.active = 1 ∧ c.Fits cfg := by
  obtain ⟨ts, hts⟩ := Option.isSome_iff_exists.mp haccepted
  unfold configureStream
  rw [hts]
  have hpos := (rate_supported hts).1
  refine ⟨_, rfl, rfl, hmap, hpos, ?_, ?_⟩
  · exact (room_of_rate hts hrate).imp_right fun h => ⟨h.1, h.2, rfl⟩
  · exact Nat.lt_add_right _ hpos

end

def TalkerState.Fits (cfg : ManagerConfig) (st : TalkerState) : Prop :=
  ∀ j, (st.slots j).stream.active = 2 → (st.slots j).stream.Fits cfg

section

variable {cfg : ManagerConfig} {st : TalkerState} {j : ℕ}

lemma TalkerState.Fits.setSlot (h : st.Fits cfg) {slot : TalkerSlot}
    (hslot : slot.stream.active = 2 → slot.stream.Fits cfg) : (st.setSlot j slot).Fits cfg := by
  intro k
  show (update st.slots j slot k).stream.active = 2 →
    (update st.slots j slot k).stream.Fits cfg
  by_cases hk : k = j
  · rw [hk, update_self]
    exact hslot
  · rw [update_of_ne hk]
    exact h k

lemma TalkerState.Fits.stop (h : st.Fits cfg) : (st.onStream j stopStream).Fits cfg :=
  h.setSlot fun hactive => absurd hactive (by decide : (1 : ℕ) ≠ 2)

lemma TalkerState.Fits.go (h : st.Fits cfg) (hstream : (st.slots j).stream.Fits cfg) :
    (st.onStream j startStream).Fits cfg :=
  h.setSlot fun _ => ⟨hstream.channels, hstream.base_pos, hstream.room, hstream.current⟩

lemma TalkerState.Fits.configure (h : st.Fits cfg) {setup : TalkerSetup}
    (hmap : setup.map.length ≤ cfg.maxChannelsPerTalkerStream)
    (haccepted : (tsIntervalOfRate setup.rate).isSome = true)
    (hrate : setup.rate ≤ avb1722PacketRate * cfg.talkerMaxNumSamplesPerChannel) :
    ∃ st', avb1722TalkerHandleCmd st (.configure j setup) = some st' ∧ st'.Fits cfg ∧
      (st'.slots j).stream.Fits cfg := by
  obtain ⟨c, hc, -, hfits⟩ := exists_configureStream (st.slots j).stream hmap haccepted hrate
    st.macAddr
  unfold avb1722TalkerHandleCmd
  dsimp only
  rw [hc]
  refine ⟨_, rfl, ?_, ?_⟩
  · exact h.setSlot fun _ => hfits
  · show (update st.slots j _ j).stream.Fits cfg
    rw [update_self]
    exact hfits

lemma TalkerState.Fits.audio (h : st.Fits cfg) (ti : PtpTimeInfoMod64) (sb : AudioDoubleBuffer) :
    (avb1722TalkerSendPackets st ti sb).1.Fits cfg := by
  intro k
  rcases stream_avb1722TalkerSendPackets st ti sb k with heq | ⟨hactive, frame, heq⟩
  · rw [heq]
    exact h k
  · rw [heq]
    exact fun _ => fits_avb1722CreatePacket (h k hactive) _ _ _ _

end

/-! ## The system -/

structure AvbSystem.Fits (cfg : ManagerConfig) (s : AvbSystem) : Prop where
  formats : ∀ i < cfg.numSources, (s.source i).FormatFits cfg ∧ (s.source i).PacketFits cfg
  streams : ∀ unit, (s.talkers unit).Fits cfg

section

variable {cfg : ManagerConfig} {src : AvbSourceInfo} {m : AvbManager} {i : ℕ}

lemma length_usedInputs (src : AvbSourceInfo) : src.usedInputs.length = src.channels := by
  rw [AvbSourceInfo.usedInputs, List.length_map, List.length_range]

lemma mapAccesses_fits (h : src.FormatFits cfg) : ∀ a ∈ src.mapAccesses, a.Fits cfg := by
  intro a ha
  obtain ⟨k, hk, hak⟩ := List.mem_flatMap.mp ha
  have hlt := List.mem_range.mp hk
  rcases List.mem_pair.mp hak with rfl | rfl
  · exact hlt.trans_le h.channels_le
  · exact h.inputs k hlt

lemma mapReads_fits (h : src.FormatFits cfg) :
    ∀ a ∈ (List.range src.channels).map ManagerAct.mapRead, a.Fits cfg := by
  intro a ha
  obtain ⟨k, hk, rfl⟩ := List.mem_map.mp ha
  exact (List.mem_range.mp hk).trans_le h.channels_le

lemma validActs_fits (h : (m.sources i).FormatFits cfg) : ∀ a ∈ m.validActs i, a.Fits cfg := by
  unfold AvbManager.validActs
  refine List.forall_mem_append.mpr ⟨List.forall_mem_cons.mpr ⟨?_, ?_⟩, mapAccesses_fits h⟩
  · exact lt_of_lt_of_le h.channels_pos h.channels_le
  · exact List.forall_mem_singleton.mpr (h.inputs 0 h.channels_pos)

lemma configureTalkerStream_acts_fit (h : (m.sources i).FormatFits cfg) :
    ∀ a ∈ (m.configureTalkerStream i).acts, a.Fits cfg :=
  List.forall_mem_append.mpr ⟨mapAccesses_fits h, mapReads_fits h⟩

lemma configure_acts_fit (h : src.FormatFits cfg) (sourceNum j : ℕ) :
    ∀ a ∈ TalkerCmd.acts (.configure j (src.setup sourceNum)), a.Fits cfg := by
  have hlength : (src.setup sourceNum).map.length = src.channels := length_usedInputs src
  rw [TalkerCmd.acts, hlength]
  refine List.forall_mem_append.mpr ⟨List.forall_mem_cons.mpr ⟨?_, ?_⟩, ?_⟩
  · exact ⟨h.channels_pos, h.channels_le, h.accepted, h.rate_le⟩
  · intro a ha
    obtain ⟨k, hk, rfl⟩ := List.mem_map.mp ha
    exact (List.mem_range.mp hk).trans_le h.channels_le
  · exact List.forall_mem_singleton.mpr (txBuf_header_fits (by decide))

variable {f : AvbEndpointInfo → AvbEndpointInfo}

lemma formatFits_change
    (hf : ∀ x, (f x).stream.numChannels = x.stream.numChannels ∧ (f x).stream.rate = x.stream.rate)
    (h : src.FormatFits cfg) : (src.change f).FormatFits cfg := by
  have hchannels : (src.change f).channels = src.channels := congrArg UInt8.toNat (hf src.info).1
  have hrate : (src.change f).rate = src.rate := congrArg u32 (hf src.info).2
  constructor
  · rw [hchannels]
    exact h.channels_pos
  · rw [hchannels]
    exact h.channels_le
  · rw [hrate]
    exact h.accepted
  · rw [hrate]
    exact h.rate_le
  · rw [hchannels]
    exact h.inputs

lemma packetFits_change
    (hf : ∀ x, (f x).stream.numChannels = x.stream.numChannels ∧ (f x).stream.rate = x.stream.rate)
    (h : src.PacketFits cfg) : (src.change f).PacketFits cfg := by
  have hrate : (src.change f).rate = src.rate := congrArg u32 (hf src.info).2
  unfold AvbSourceInfo.PacketFits
  rw [hrate]
  exact h

structure ManagerUpdate.Fits (cfg : ManagerConfig) (r : ManagerUpdate) : Prop where
  formats : ∀ k < cfg.numSources,
    (r.manager.sources k).FormatFits cfg ∧ (r.manager.sources k).PacketFits cfg
  acts : ∀ a ∈ r.acts, a.Fits cfg
  cmdActs : ∀ c ∈ r.cmds, ∀ a ∈ c.acts, a.Fits cfg
  cmds : ∀ st : TalkerState, st.Fits cfg →
    ∃ st', r.cmds.foldlM avb1722TalkerHandleCmd st = some st' ∧ st'.Fits cfg

/-- **`update_source_state`** for a source with a format that fits. -/
theorem updateSourceState_fits (srpVlan : UInt16) (hi : i < cfg.numSources)
    (hm : ∀ k < cfg.numSources, (m.sources k).FormatFits cfg ∧ (m.sources k).PacketFits cfg)
    (prev state : AvbStreamState) : (m.updateSourceState cfg srpVlan i prev state).Fits cfg := by
  obtain ⟨hfits, hpacket⟩ := hm i hi
  have hsetup : ((m.sources i).setup i).map.length ≤ cfg.maxChannelsPerTalkerStream :=
    (length_usedInputs _).trans_le hfits.channels_le
  have hconfigure : ∀ c ∈ (m.configureTalkerStream i).cmds, ∀ a ∈ c.acts, a.Fits cfg :=
    List.forall_mem_singleton.mpr (configure_acts_fit hfits i _)
  refine AvbManager.updateSourceState_cases ?_ ?_ ?_ ?_ ?_ ?_
  · -- the source is turned on
    intro _ _ _
    refine ⟨?_, ?_, ?_, ?_⟩
    · intro k hk
      show (update m.sources i _ k).FormatFits cfg ∧
        (update m.sources i _ k).PacketFits cfg
      by_cases hki : k = i
      · rw [hki, update_self]
        exact ⟨formatFits_change (fun _ => ⟨rfl, rfl⟩) hfits,
          packetFits_change (fun _ => ⟨rfl, rfl⟩) hpacket⟩
      · rw [update_of_ne hki]
        exact hm k hk
    · exact List.forall_mem_append.mpr
        ⟨validActs_fits hfits, configureTalkerStream_acts_fit hfits⟩
    · refine List.forall_mem_append.mpr ⟨hconfigure, List.forall_mem_singleton.mpr ?_⟩
      exact List.forall_mem_singleton.mpr (txBuf_header_fits (by decide))
    · intro st hst
      obtain ⟨st', hst', hfit', -⟩ := hst.configure (j := (m.sources i).localId.toNat) hsetup
        hfits.accepted hpacket
      exact ⟨_, handleCmd_pair hst' rfl, hfit'.setSlot (hfit' _)⟩
  · -- it is refused
    exact fun _ _ _ => ⟨hm, validActs_fits hfits, forall_mem_nil _, fun st hst => ⟨st, rfl, hst⟩⟩
  · intro _ _
    exact ⟨hm, forall_mem_nil _, List.forall_mem_singleton.mpr (forall_mem_nil _),
      fun st hst => ⟨_, rfl, hst.stop⟩⟩
  · -- it is started
    intro _ _
    refine ⟨hm, configureTalkerStream_acts_fit hfits, ?_, ?_⟩
    · exact List.forall_mem_append.mpr
        ⟨hconfigure, List.forall_mem_singleton.mpr (forall_mem_nil _)⟩
    · intro st hst
      obtain ⟨st', hst', hfit', hstream⟩ := hst.configure (j := (m.sources i).localId.toNat) hsetup
        hfits.accepted hpacket
      exact ⟨_, handleCmd_pair hst' rfl, hfit'.go hstream⟩
  · intro _ _
    exact ⟨hm, mapAccesses_fits hfits, List.forall_mem_singleton.mpr (forall_mem_nil _),
      fun st hst => ⟨_, rfl, hst.stop⟩⟩
  · exact fun _ => ⟨hm, forall_mem_nil _, forall_mem_nil _, fun st hst => ⟨st, rfl, hst⟩⟩

end

section

variable {cfg : ManagerConfig} {s : AvbSystem} {u : SourceUpdate}

/-- **Update.**  An update to a record that fits does not trap and leaves a system that fits. -/
theorem update_fits (hs : s.Fits cfg) (srpVlan : UInt16) (hi : u.source < cfg.numSources)
    (hnew : ((s.source u.source).change u.change).FormatFits cfg ∧
      ((s.source u.source).change u.change).PacketFits cfg) :
    (∃ s', s.update cfg srpVlan u = some s' ∧ s'.Fits cfg) ∧
      ∀ a ∈ s.updateActs cfg srpVlan u, a.Fits cfg := by
  have hstored : ∀ k < cfg.numSources,
      ((s.manager.setSource u.source ((s.source u.source).change u.change)).sources
        k).FormatFits cfg ∧
      ((s.manager.setSource u.source ((s.source u.source).change u.change)).sources
        k).PacketFits cfg := by
    intro k hk
    show (update s.manager.sources u.source _ k).FormatFits cfg ∧
      (update s.manager.sources u.source _ k).PacketFits cfg
    by_cases hki : k = u.source
    · rw [hki, update_self]
      exact hnew
    · rw [update_of_ne hki]
      exact hs.formats k hk
  have hfits : (s.managed cfg srpVlan u).Fits cfg := updateSourceState_fits srpVlan hi hstored _ _
  obtain ⟨st, hst, hunit⟩ := hfits.cmds _ (hs.streams (s.source u.source).talkerCtl)
  refine ⟨⟨_, congrArg (Option.map _) hst, hfits.formats, fun unit => ?_⟩, ?_⟩
  · show (update s.talkers (s.source u.source).talkerCtl st unit).Fits cfg
    by_cases hunit' : unit = (s.source u.source).talkerCtl
    · rw [hunit', update_self]
      exact hunit
    · rw [update_of_ne hunit']
      exact hs.streams unit
  · refine List.forall_mem_append.mpr ⟨hfits.acts, fun a ha => ?_⟩
    obtain ⟨c, hc, hac⟩ := List.mem_flatMap.mp ha
    exact hfits.cmdActs c hc a hac

def Running (cfg : ManagerConfig) (o : Option AvbSystem) : Prop := ∃ s, o = some s ∧ s.Fits cfg

def UpdateFits (cfg : ManagerConfig) (o : Option AvbSystem) (u : SourceUpdate) : Prop :=
  u.source < cfg.numSources ∧ (u.KeepsFormat ∨ ∀ s, o = some s →
    ((s.source u.source).change u.change).FormatFits cfg ∧
      ((s.source u.source).change u.change).PacketFits cfg)

lemma running_updateStep (srpVlan : UInt16) {o : Option AvbSystem} (h : Running cfg o)
    (hu : UpdateFits cfg o u) : Running cfg (AvbSystem.updateStep cfg srpVlan o u) ∧
      ∀ a ∈ AvbSystem.updateStepActs cfg srpVlan o u, a.Fits cfg := by
  obtain ⟨s, rfl, hs⟩ := h
  obtain ⟨hi, hformat⟩ := hu
  have hnew : ((s.source u.source).change u.change).FormatFits cfg ∧
      ((s.source u.source).change u.change).PacketFits cfg := by
    rcases hformat with hkeep | hnew
    · exact ⟨formatFits_change hkeep (hs.formats _ hi).1,
        packetFits_change hkeep (hs.formats _ hi).2⟩
    · exact hnew s rfl
  exact update_fits hs srpVlan hi hnew

lemma guarded_updates {r : SourceRequest} {srpVlan : UInt16}
    (hok : FormatsInOrder cfg (some s) (.request r srpVlan)) :
    Run.Guarded (AvbSystem.updateStep cfg srpVlan) (UpdateFits cfg) (some s)
      (r.updates cfg s.manager) := by
  by_cases hformat : ∃ env pkt, r = .setStreamFormat env pkt
  · obtain ⟨env, pkt, rfl⟩ := hformat
    rw [updates_setStreamFormat]
    split_ifs with hset
    · refine ⟨⟨hset.2.1, Or.inr ?_⟩, trivial⟩
      intro s' hs'
      cases hs'
      exact hok hset
    · trivial
  · refine Run.guarded_of_forall fun u hu o => ?_
    obtain ⟨hi, hkeep | ⟨env, pkt, hr, -⟩⟩ := mem_updates hu
    · exact ⟨hi, Or.inl hkeep⟩
    · exact absurd ⟨env, pkt, hr⟩ hformat

/-- **Step.**  An event in order does not trap, leaves a system that fits, and accesses its arrays
in their bounds. -/
theorem running_step {o : Option AvbSystem} (h : Running cfg o) {e : AvbEvent}
    (hok : FormatsInOrder cfg o e) :
    Running cfg (AvbSystem.step cfg o e) ∧ ∀ a ∈ AvbSystem.acts cfg o e, a.Fits cfg := by
  have hstart := h
  obtain ⟨s, rfl, hs⟩ := h
  cases e with
  | request r srpVlan =>
    have hguard := guarded_updates hok
    have hupdate : ∀ o u, Running cfg o → UpdateFits cfg o u →
        Running cfg (AvbSystem.updateStep cfg srpVlan o u) :=
      fun _ _ hr hu => (running_updateStep srpVlan hr hu).1
    have hacts : ∀ o u, Running cfg o → UpdateFits cfg o u →
        ∀ a ∈ AvbSystem.updateStepActs cfg srpVlan o u, a.Fits cfg :=
      fun _ _ hr hu => (running_updateStep srpVlan hr hu).2
    exact ⟨Run.invariant_of_guarded hupdate hstart _ hguard,
      Run.forall_outputs_of_guarded hupdate hacts hstart _ hguard⟩
  | audio unit ti sb =>
    constructor
    · refine ⟨_, rfl, hs.formats, fun k => ?_⟩
      show (update s.talkers unit _ k).Fits cfg
      by_cases hk : k = unit
      · rw [hk, update_self]
        exact (hs.streams unit).audio ti sb
      · rw [update_of_ne hk]
        exact hs.streams k
    · show ∀ a ∈ s.audioActs unit sb, a.Fits cfg
      unfold AvbSystem.audioActs
      split_ifs
      · exact forall_mem_nil _
      · intro a ha
        obtain ⟨j, -, hj⟩ := List.mem_flatMap.mp ha
        obtain ⟨hactive, hmem⟩ := List.mem_ite_nil_right.mp hj
        exact createPacketActs_fits (hs.streams unit j hactive) a hmem

end

structure AvbSystem.Cold (cfg : ManagerConfig) (s : AvbSystem) : Prop where
  disabled : ∀ i < cfg.numSources, s.state i = .disabled
  unmapped : ∀ c < cfg.numMediaInputs, (s.manager.inputs c).mappedTo = none
  stopped : ∀ unit j, ((s.talkers unit).slots j).stream.active = 0

/-- **Format commands.**  From sources with formats that fit, in every run in which the format
commands are in order, nothing traps, every stream that is configured into a talker unit is one
that the talker can send, and every access is in its array. -/
theorem formats_keep_talker_in_bounds (cfg : ManagerConfig) (s : AvbSystem) (hcold : s.Cold cfg)
    (hformats : ∀ i < cfg.numSources, (s.source i).FormatFits cfg)
    (hpackets : ∀ i < cfg.numSources, (s.source i).PacketFits cfg) (es : List AvbEvent)
    (hes : Run.Guarded (AvbSystem.step cfg) (FormatsInOrder cfg) (some s) es) :
    (Run.runFrom (AvbSystem.step cfg) (some s) es).isSome = true ∧
      ∀ a ∈ Run.outputs (AvbSystem.step cfg) (AvbSystem.acts cfg) (some s) es, a.Fits cfg := by
  have hstart : Running cfg (some s) := by
    refine ⟨s, rfl, fun i hi => ⟨hformats i hi, hpackets i hi⟩, fun unit j hactive => ?_⟩
    cases (hcold.stopped unit j).symm.trans hactive
  have hstep : ∀ o e, Running cfg o → FormatsInOrder cfg o e →
      Running cfg (AvbSystem.step cfg o e) := fun _ _ h hok => (running_step h hok).1
  constructor
  · obtain ⟨s', hs', -⟩ := Run.invariant_of_guarded hstep hstart es hes
    rw [hs']
    rfl
  · exact Run.forall_outputs_of_guarded hstep (fun _ _ h hok => (running_step h hok).2) hstart es
      hes

/-! ## A build for two channels -/

def stereoBuild (maxAudioSampleRate : ℕ) : ManagerConfig :=
  { plainBuild with
    numMediaInputs := 2
    maxChannelsPerTalkerStream := 2
    maxAudioSampleRate := maxAudioSampleRate }

def stereoSource : AvbSourceInfo where
  info := { idleStream with stream := ⟨.disabled, 2, 0, rate⟩ }
  talkerCtl := 0
  localId := 0
  presentation := 0
  map := [0, 1]

def stereoSystem : AvbSystem where
  manager := ⟨fun _ => stereoSource rate, fun _ => ⟨0, none⟩⟩
  talkers := fun _ => avb1722TalkerInit (fun _ _ => 0) (List.replicate 6 0)

/-- A `SET_STREAM_FORMAT` command for the source. -/
def formatPacket (numChannels sfc : UInt8) : Mem := fun a =>
  if a = 25 then 6 else if a = 30 then sfc else if a = 34 then numChannels else 0

/-- A `START_STREAMING` command for the source. -/
def startPacket : Mem := fun a => if a = 25 then 6 else 0

def formatComes (numChannels sfc : UInt8) : AvbEvent :=
  .request (.setStreamFormat quietEnv (formatPacket numChannels sfc)) 2

def listenerConnects : AvbEvent := .request (.onListenerConnect 0) 2

def streamingStarts : AvbEvent := .request (.startStopStreaming quietEnv true startPacket) 2

def frameComes : AvbEvent := .audio 0 ⟨0, 0, 0, 0, 0⟩ ⟨false, true, fun _ => ⟨0, [1, 2]⟩⟩

lemma cold_stereoSystem (n : ℕ) : (stereoSystem rate).Cold (stereoBuild n) where
  disabled := fun _ _ => rfl
  unmapped := fun _ _ => rfl
  stopped := fun _ _ => rfl

def stereoActs (es : List AvbEvent) : List ManagerAct :=
  Run.outputs (AvbSystem.step (stereoBuild 48000)) (AvbSystem.acts (stereoBuild 48000))
    (some (stereoSystem 48000)) es

theorem mono_at_44100_stays_in_bounds :
    (∀ a ∈ stereoActs ([formatComes 1 1, listenerConnects, streamingStarts] ++
      List.replicate 20 frameComes), a.Fits (stereoBuild 48000)) ∧
    .configured 1 44100 ∈ stereoActs ([formatComes 1 1, listenerConnects, streamingStarts] ++
      List.replicate 20 frameComes) :=
  ⟨(formats_keep_talker_in_bounds (stereoBuild 48000) (stereoSystem 48000)
    (cold_stereoSystem 48000 48000) (by decide +kernel) (by decide +kernel) _
    (by decide +kernel)).2, by decide +kernel⟩

/-- A code for the rate that is in no table traps; 255 channels are read from a map of two; no
channels are configured into the talker; and packets at 192 kHz, or at 44.1 kHz in a build for
44.1 kHz, are written behind the buffer. -/
theorem format_commands_break_the_talker :
    Run.runFrom (AvbSystem.step (stereoBuild 48000)) (some (stereoSystem 48000))
      [formatComes 2 7, listenerConnects] = none ∧
    (.mapRead 254 ∈ stereoActs [formatComes 255 2, listenerConnects] ∧
      ¬ (ManagerAct.mapRead 254).Fits (stereoBuild 48000)) ∧
    (.configured 0 48000 ∈ stereoActs [listenerConnects, formatComes 0 2, streamingStarts] ∧
      ¬ (ManagerAct.configured 0 48000).Fits (stereoBuild 48000)) ∧
    (.txBuf 100 8 ∈ stereoActs ([formatComes 2 6, listenerConnects, streamingStarts] ++
        List.replicate 7 frameComes) ∧
      ¬ (ManagerAct.txBuf 100 8).Fits (stereoBuild 48000)) ∧
    ¬ ∀ a ∈ Run.outputs (AvbSystem.step (stereoBuild 44100)) (AvbSystem.acts (stereoBuild 44100))
      (some (stereoSystem 44100)) ([listenerConnects, streamingStarts] ++
        List.replicate 16 frameComes), a.Fits (stereoBuild 44100) := by
  refine ⟨Option.isNone_iff_eq_none.mp ?_, ⟨?_, ?_⟩, ⟨?_, ?_⟩, ⟨?_, ?_⟩, ?_⟩
  all_goals decide +kernel
