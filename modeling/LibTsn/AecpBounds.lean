/-
# Bounds of the response buffer

Responses are built in `avb_1722_1_buf`, and most of their lengths come from the
received packet.  For every packet, state and answer of the application, the
stores and the frames of a call stay within the buffer exactly when the packet's
lengths meet the bound of its command (`FitsBuffer`).
-/
import LibTsn.Aecp

/-! ## Actions within the buffer -/

def AecpAct.extent : AecpAct → ℕ
  | .store offset bytes => offset + bytes.length
  | .send len => len
  | _ => 0

def AecpAct.InBuffer (a : AecpAct) : Prop := a.extent ≤ avb17221BufSize

instance : DecidablePred AecpAct.InBuffer :=
  fun a => inferInstanceAs (Decidable (a.extent ≤ avb17221BufSize))

/-- **In the buffer.** Every action of the list is. -/
def InBuffer (acts : List AecpAct) : Prop := ∀ a ∈ acts, a.InBuffer

@[simp] lemma inBuffer_nil : InBuffer [] := by
  intro a ha
  cases ha

@[simp] lemma inBuffer_cons (a : AecpAct) (acts : List AecpAct) :
    InBuffer (a :: acts) ↔ a.InBuffer ∧ InBuffer acts := List.forall_mem_cons

@[simp] lemma inBuffer_append (as bs : List AecpAct) :
    InBuffer (as ++ bs) ↔ InBuffer as ∧ InBuffer bs := List.forall_mem_append

@[simp] lemma inBuffer_store (offset : ℕ) (bytes : List UInt8) :
    (AecpAct.store offset bytes).InBuffer ↔ offset + bytes.length ≤ 556 := Iff.rfl

@[simp] lemma inBuffer_send (len : ℕ) : (AecpAct.send len).InBuffer ↔ len ≤ 556 := Iff.rfl

lemma inBuffer_txBytes (n : ℕ) : (AecpAct.send (txBytes n)).InBuffer ↔ n ≤ 556 := by
  rw [inBuffer_send, txBytes]
  split_ifs with h
  · exact ⟨fun _ => by omega, fun _ => by omega⟩
  · exact Iff.rfl

/-! ## Headers and responses -/

variable (cfg : AecpConfig) (env : AecpEnv) (srcAddr : Vector UInt8 6) (st : AecpState)
variable (dest : Vector UInt8 6) (descSize : ℕ) (status : UInt8) (cmd : AemCommand) (pkt : Mem)
  (numPktBytes : ℕ)

@[simp] lemma length_header1722 (subtype messageType : ℕ) (status : UInt8) (dataLen : ℕ) :
    (header1722 cfg dest subtype messageType status dataLen).length = 18 := by
  simp [header1722]

lemma inBuffer_responseHeader (messageType dataLen : ℕ) (pkt : Mem) :
    InBuffer (createAecpResponseHeader cfg dest status messageType dataLen pkt) := by
  simp [createAecpResponseHeader]

lemma inBuffer_aemResponse (commandDataLen : ℕ) (pkt : Mem) :
    InBuffer (createAecpAemResponse cfg srcAddr status commandDataLen pkt)
      ↔ commandDataLen ≤ 518 := by
  rw [createAecpAemResponse, inBuffer_append]
  simp only [inBuffer_responseHeader, true_and, inBuffer_cons, inBuffer_nil, and_true,
    inBuffer_store, Mem.length_load]
  show 36 + (commandDataLen + 2) ≤ 556 ↔ _
  omega

lemma inBuffer_controllerAvailablePacket : InBuffer (createControllerAvailablePacket cfg st) := by
  simp [createControllerAvailablePacket, aecpResponsePayload, ethernetHdrSize, aecpPayloadOffset]

lemma inBuffer_acquireResponsePacket : InBuffer (createAcquireResponsePacket cfg st status) := by
  simp [createAcquireResponsePacket, aecpResponsePayload, ethernetHdrSize, aecpPayloadOffset]

lemma inBuffer_adpDepart : InBuffer (adpDepartImmediately cfg env) := by
  simp [adpDepartImmediately, ethernetHdrSize]

lemma inBuffer_finishAemMsg (cdLen : ℤ) (reboot : Bool) :
    InBuffer (finishAemMsg cfg env cdLen reboot) ↔ cdLen ≤ 518 := by
  have hreboot :
      InBuffer (if reboot then adpDepartImmediately cfg env ++ [.deviceReboot] else []) := by
    split_ifs
    · rw [inBuffer_append]
      exact ⟨inBuffer_adpDepart cfg env, by simp [AecpAct.InBuffer, AecpAct.extent]⟩
    · exact inBuffer_nil
  rw [finishAemMsg, inBuffer_append]
  refine (and_iff_left hreboot).trans ?_
  split_ifs with hpos
  · rw [inBuffer_cons, inBuffer_txBytes]
    simp only [inBuffer_nil, and_true, aecpPayloadOffset, ethernetHdrSize]
    omega
  · simp only [inBuffer_nil, true_iff]
    omega

/-- **A response fits** exactly when its command data has at most 518 bytes. -/
theorem inBuffer_respond (o : AemOutcome) :
    InBuffer (o.respond cfg env srcAddr).2 ↔ InBuffer o.acts ∧ o.cdLen ≤ 518 := by
  have hresp : o.cdLen ≤ 518 → InBuffer
      (if 0 < o.cdLen then createAecpAemResponse cfg srcAddr o.status o.cdLen.toNat o.pkt
        else []) := by
    intro hle
    split_ifs
    · exact (inBuffer_aemResponse cfg srcAddr o.status o.cdLen.toNat o.pkt).2 (by omega)
    · exact inBuffer_nil
  rw [AemOutcome.respond, inBuffer_append, inBuffer_append, inBuffer_finishAemMsg]
  constructor
  · rintro ⟨⟨hacts, -⟩, hle⟩
    exact ⟨hacts, hle⟩
  · rintro ⟨hacts, hle⟩
    exact ⟨⟨hacts, hresp hle⟩, hle⟩

/-! ## Commands of fixed length

Their handlers store nothing in the buffer themselves. -/

lemma inBuffer_setStreamOf (descType streamIndex : ℕ) (info : AvbEndpointInfo) :
    (setStreamOf descType streamIndex info).InBuffer := by
  unfold setStreamOf
  split_ifs <;> exact Nat.zero_le _

lemma inBuffer_streamFormat : InBuffer (processAemCmdGetsetStreamFormat cfg env cmd pkt).2.2 := by
  unfold processAemCmdGetsetStreamFormat
  split
  · exact inBuffer_nil
  · dsimp only
    split_ifs
    · exact inBuffer_nil
    · exact inBuffer_nil
    · simp [inBuffer_setStreamOf]

lemma inBuffer_streamInfo : InBuffer (processAemCmdGetsetStreamInfo cfg env cmd pkt).2.2 := by
  unfold processAemCmdGetsetStreamInfo
  split
  · exact inBuffer_nil
  · dsimp only
    split
    · exact inBuffer_nil
    · split
      · exact inBuffer_nil
      · simp [inBuffer_setStreamOf]

lemma inBuffer_samplingRate : InBuffer (processAemCmdGetsetSamplingRate cfg env cmd pkt).2.2 := by
  unfold processAemCmdGetsetSamplingRate
  dsimp only
  split_ifs <;> simp [AecpAct.InBuffer, AecpAct.extent]

lemma inBuffer_clockSource : InBuffer (processAemCmdGetsetClockSource cfg env cmd pkt).2.2 := by
  unfold processAemCmdGetsetClockSource
  dsimp only
  split_ifs <;> simp [AecpAct.InBuffer, AecpAct.extent]

lemma inBuffer_startstopStreaming :
    InBuffer (processAemCmdStartstopStreaming cfg env cmd pkt).2.2 := by
  unfold processAemCmdStartstopStreaming
  dsimp only
  split_ifs <;> simp [AecpAct.InBuffer, AecpAct.extent]

lemma inBuffer_signalSelector : InBuffer (processAemCmdGetsetSignalSelector env cmd pkt).2.2 := by
  unfold processAemCmdGetsetSignalSelector
  split_ifs <;> simp [AecpAct.InBuffer, AecpAct.extent]

lemma inBuffer_getCounters : InBuffer (processAemCmdGetCounters cfg env pkt).2.2 := by
  unfold processAemCmdGetCounters
  split_ifs <;> exact inBuffer_nil

lemma inBuffer_control : InBuffer (processAemCmdGetsetControl env cmd pkt).1.2.2 := by
  unfold processAemCmdGetsetControl
  split_ifs <;> simp [AecpAct.InBuffer, AecpAct.extent]

/-! ## Commands whose length comes from the packet -/

lemma dataLength1722_lt : dataLength1722 pkt < 2048 := by
  have h3 := (pkt 3).toNat_lt
  unfold dataLength1722
  omega

lemma acquireCdLen_le :
    (acquireCdLen pkt : ℤ) ≤ 518 ↔ 12 ≤ dataLength1722 pkt ∧ dataLength1722 pkt ≤ 530 := by
  have hlt := dataLength1722_lt pkt
  unfold acquireCdLen aecpCommandDataOffset
  omega

lemma controlValuesLength_le :
    controlValuesLength pkt ≤ 502 ↔ 16 ≤ dataLength1722 pkt ∧ dataLength1722 pkt ≤ 518 := by
  have hlt := dataLength1722_lt pkt
  unfold controlValuesLength aecpCommandDataOffset
  omega

lemma dataLength1722_setOwnerGuid : dataLength1722 (setOwnerGuid st pkt) = dataLength1722 pkt := by
  unfold dataLength1722 setOwnerGuid
  rw [Mem.store_apply_of_lt _ _ (by omega), Mem.store_apply_of_lt _ _ (by omega)]

lemma acquireCdLen_setOwnerGuid : acquireCdLen (setOwnerGuid st pkt) = acquireCdLen pkt := by
  unfold acquireCdLen
  rw [dataLength1722_setOwnerGuid]

lemma cdLen_releaseEntity : (releaseEntity st pkt).cdLen = acquireCdLen pkt := by
  unfold releaseEntity acquireOutcome
  split_ifs
  · rfl
  · rfl
  · rw [acquireCdLen_setOwnerGuid]

lemma cdLen_acquireEntity : (acquireEntity cfg env st pkt).cdLen = acquireCdLen pkt := by
  unfold acquireEntity acquireOutcome
  cases st.entityAcquiredStatus with
  | notAcquired => exact congrArg Nat.cast (acquireCdLen_setOwnerGuid _ pkt)
  | acquired =>
    dsimp only
    split
    · rw [acquireCdLen_setOwnerGuid]
    · rw [acquireCdLen_setOwnerGuid]
  | acquiredAndPersistent => exact congrArg Nat.cast (acquireCdLen_setOwnerGuid _ pkt)
  | acquiredButPending => rfl

lemma cdLen_acquire : (processAemCmdAcquire cfg env st pkt).cdLen = acquireCdLen pkt := by
  unfold processAemCmdAcquire
  split
  · rfl
  · split
    · exact cdLen_releaseEntity st pkt
    · exact cdLen_acquireEntity cfg env st pkt

lemma inBuffer_releaseEntity : InBuffer (releaseEntity st pkt).acts := by
  unfold releaseEntity acquireOutcome
  split_ifs <;> exact inBuffer_nil

lemma inBuffer_acquireEntity : InBuffer (acquireEntity cfg env st pkt).acts := by
  unfold acquireEntity acquireOutcome
  cases st.entityAcquiredStatus with
  | notAcquired => exact inBuffer_nil
  | acquired =>
    dsimp only
    split
    · exact inBuffer_nil
    · -- the owner is asked with a frame of its own
      rw [startControllerAvailable, inBuffer_append]
      exact ⟨inBuffer_controllerAvailablePacket cfg _, by simp⟩
  | acquiredAndPersistent => exact inBuffer_nil
  | acquiredButPending => exact inBuffer_nil

lemma inBuffer_acquire : InBuffer (processAemCmdAcquire cfg env st pkt).acts := by
  unfold processAemCmdAcquire
  split
  · exact inBuffer_nil
  · split
    · exact inBuffer_releaseEntity st pkt
    · exact inBuffer_acquireEntity cfg env st pkt

lemma inBuffer_operationResponse :
    InBuffer (operationResponse cfg srcAddr status pkt) ↔ dataLength1722 pkt ≤ 518 := by
  rw [operationResponse, inBuffer_append, inBuffer_aemResponse]
  refine and_iff_left ?_
  rw [inBuffer_cons, inBuffer_txBytes]
  exact ⟨by decide, inBuffer_nil⟩

lemma inBuffer_startUpload (srcAddr : Vector UInt8 6) :
    InBuffer (startUpload cfg env st pkt srcAddr).acts
      ↔ (env.factoryImage = true → dataLength1722 pkt ≤ 518) := by
  unfold startUpload
  by_cases hf : env.factoryImage = true
  · rw [if_neg (by simp [hf])]
    rw [inBuffer_append, inBuffer_operationResponse]
    constructor
    · rintro ⟨-, hle⟩ -
      exact hle
    · intro hle
      refine ⟨?_, hle hf⟩
      -- each progress message carries the same data
      intro a ha
      obtain ⟨elapsed, -, ha⟩ := List.mem_flatMap.1 ha
      cases elapsed
      · cases ha
      · exact (inBuffer_operationResponse cfg srcAddr _ pkt).2 (hle hf) a ha
  · rw [if_pos hf]
    exact ⟨fun _ h => absurd h hf, fun _ => inBuffer_nil⟩

lemma inBuffer_startStore (srcAddr : Vector UInt8 6) (reboot : Bool) :
    InBuffer (startStore cfg st pkt srcAddr reboot).acts ↔ dataLength1722 pkt ≤ 518 := by
  -- both edits of the packet leave the length field alone
  have hlen : ∀ (m : Mem) (a : ℕ) (bs : List UInt8), 3 < a →
      dataLength1722 (m.store a bs) = dataLength1722 m := by
    intro m a bs ha
    unfold dataLength1722
    rw [Mem.store_apply_of_lt _ _ (by omega), Mem.store_apply_of_lt _ _ (by omega)]
  show InBuffer (_ ++ _) ↔ _
  rw [inBuffer_append, inBuffer_operationResponse, inBuffer_operationResponse,
    hlen _ 30 _ (by omega), hlen _ 22 _ (by omega), hlen _ 28 _ (by omega)]
  exact and_self_iff

def OperationFits : Prop :=
  if cmd = .startOperation ∧ field16 pkt 24 = AemType.memoryObject ∧ field16 pkt 26 = 0 then
    match MemoryOperation.ofCode (field16 pkt 30) with
    | .upload | .erase => env.factoryImage = true → dataLength1722 pkt ≤ 518
    | .store | .storeAndReboot => dataLength1722 pkt ≤ 518
    | .other => dataLength1722 pkt ≤ 530
  else dataLength1722 pkt ≤ 530

lemma inBuffer_startAbortOperation (srcAddr : Vector UInt8 6) :
    InBuffer (processAemCmdStartAbortOperation cfg env st cmd pkt srcAddr).acts
      ∧ (processAemCmdStartAbortOperation cfg env st cmd pkt srcAddr).cdLen ≤ 518
      ↔ OperationFits env cmd pkt := by
  have hrest : (dataLength1722 pkt : ℤ) - aecpCommandDataOffset ≤ 518
      ↔ dataLength1722 pkt ≤ 530 := by
    unfold aecpCommandDataOffset
    omega
  have hupload : (startUpload cfg env st pkt srcAddr).cdLen = 0 := by
    unfold startUpload
    split_ifs <;> rfl
  have hstore : (0 : ℤ) ≤ 518 := by decide
  unfold processAemCmdStartAbortOperation OperationFits
  split
  · cases MemoryOperation.ofCode (field16 pkt 30) with
    | upload =>
      rw [← inBuffer_startUpload cfg env st pkt srcAddr]
      exact and_iff_left (by rw [hupload]; decide)
    | erase =>
      rw [← inBuffer_startUpload cfg env st pkt srcAddr]
      exact and_iff_left (by rw [hupload]; decide)
    | store =>
      rw [← inBuffer_startStore cfg st pkt srcAddr false]
      exact and_iff_left hstore
    | storeAndReboot =>
      rw [← inBuffer_startStore cfg st pkt srcAddr true]
      exact and_iff_left hstore
    | other => exact (and_iff_right inBuffer_nil).trans hrest
  · split
    · exact (and_iff_right inBuffer_nil).trans hrest
    · exact (and_iff_right inBuffer_nil).trans hrest

lemma inBuffer_notImplemented : InBuffer (notImplementedResponse cfg srcAddr pkt numPktBytes)
      ↔ 22 ≤ numPktBytes ∧ numPktBytes ≤ 542 := by
  rw [notImplementedResponse, inBuffer_append, inBuffer_cons, inBuffer_cons, inBuffer_txBytes]
  simp only [inBuffer_responseHeader, true_and, inBuffer_store, Mem.length_load, inBuffer_nil,
    and_true, aecpResponsePayload, aecpPayloadOffset, ethernetHdrSize, u32]
  omega

/-! ## Descriptors -/

def FieldsFit (buf : Mem) (readType readId : ℕ) : Prop :=
  readType = AemType.control →
    (env.getControlValue (readId % 65536)).valueSize
      = (env.getControlValue (readId % 65536)).valuesLength.toNat →
    linearControl buf = true → (env.getControlValue (readId % 65536)).valueSize ≤ 82

lemma inBuffer_setCurrentFields (buf : Mem) (readType readId : ℕ) :
    InBuffer (setCurrentFieldsInDescriptor env buf readType readId).1
      ↔ FieldsFit env buf readType readId := by
  unfold setCurrentFieldsInDescriptor FieldsFit
  by_cases hcontrol : readType = AemType.control
  · subst hcontrol
    rw [if_neg (by decide), if_neg (by decide), if_neg (by decide), if_neg (by decide), if_pos rfl]
    dsimp only
    split
    · -- the sizes disagree: the device stops
      rename_i hne
      exact ⟨fun _ _ heq => absurd heq hne, fun _ => by simp [AecpAct.InBuffer, AecpAct.extent]⟩
    · rename_i heq
      split
      · rename_i hlin
        simp only [inBuffer_cons, inBuffer_store, inBuffer_nil, and_true, List.length_take,
          List.length_append, List.length_replicate, aecpResponseDescriptor, aecpResponsePayload,
          ethernetHdrSize, aecpPayloadOffset, aemDescControlSize]
        constructor
        · intro hle _ _ _
          omega
        · intro hle
          have := hle trivial (not_not.1 heq) hlin
          omega
      · rename_i hlin
        exact ⟨fun _ _ _ h => absurd h hlin, fun _ => by simp [AecpAct.InBuffer, AecpAct.extent]⟩
  · refine ⟨fun _ h => absurd h hcontrol, fun _ => ?_⟩
    rw [if_neg hcontrol]
    split_ifs <;>
      simp [streamFormatField, aecpResponseDescriptor, aecpResponsePayload, ethernetHdrSize,
        aecpPayloadOffset]

lemma inBuffer_finishDescriptor (buf : Mem) (readType readId descSize : ℕ) (acts : List AecpAct)
    (hsize : InBuffer acts → descSize ≤ 514) :
    InBuffer (finishDescriptor env buf readType readId descSize acts)
      ↔ InBuffer acts ∧ FieldsFit env (playStores buf acts) readType readId := by
  unfold finishDescriptor
  rw [inBuffer_append, inBuffer_append, inBuffer_setCurrentFields]
  refine ⟨And.left, fun h => ⟨h, ?_⟩⟩
  split
  · rw [inBuffer_cons, inBuffer_txBytes]
    have := hsize h.1
    refine ⟨?_, inBuffer_nil⟩
    show 42 + descSize ≤ 556
    omega
  · exact inBuffer_nil

lemma inBuffer_readDescriptorHeader : InBuffer (readDescriptorHeader cfg srcAddr descSize pkt) := by
  rw [readDescriptorHeader, inBuffer_append]
  exact ⟨inBuffer_responseHeader _ _ _ _ _ _, by
    simp [aecpResponsePayload, ethernetHdrSize, aecpPayloadOffset]⟩

lemma inBuffer_copiedDescriptor (pkt desc : Mem) :
    InBuffer (readDescriptorHeader cfg srcAddr descSize pkt
        ++ [.store aecpResponseDescriptor (desc.load 0 (descSize + 40))])
      ↔ descSize ≤ 474 := by
  rw [inBuffer_append, inBuffer_cons, inBuffer_store, Mem.length_load]
  simp only [inBuffer_readDescriptorHeader, inBuffer_nil, true_and, and_true]
  show 42 + (descSize + 40) ≤ 556 ↔ _
  omega

lemma inBuffer_audioMap (readId descSize : ℕ) (pkt : Mem) :
    InBuffer (storeAudioMap cfg readId ++ readDescriptorHeader cfg srcAddr descSize pkt)
      ↔ numMappings cfg readId ≤ 63 := by
  rw [inBuffer_append, storeAudioMap, inBuffer_append, inBuffer_cons, inBuffer_store,
    List.length_replicate]
  refine (and_iff_left (inBuffer_readDescriptorHeader _ _ _ _)).trans ?_
  have hcleared : aecpResponseDescriptor + (8 + 8 * numMappings cfg readId) ≤ 556
      ↔ numMappings cfg readId ≤ 63 := by
    show 42 + (8 + 8 * numMappings cfg readId) ≤ 556 ↔ _
    omega
  rw [hcleared]
  constructor
  · rintro ⟨⟨hle, -⟩, -⟩
    exact hle
  · intro hle
    refine ⟨⟨hle, by simp [aecpResponseDescriptor, aecpResponsePayload, ethernetHdrSize,
      aecpPayloadOffset]⟩, ?_⟩
    intro a ha
    obtain ⟨i, hi, rfl⟩ := List.mem_map.1 ha
    have hlt := List.mem_range.1 hi
    rw [inBuffer_store]
    simp only [List.length_append, length_beBytes, aecpResponseDescriptor, aecpResponsePayload,
      ethernetHdrSize, aecpPayloadOffset]
    omega

lemma inBuffer_notFound :
    InBuffer (createAecpResponseHeader cfg srcAddr AemStatus.noSuchDescriptor 0 40 pkt
      ++ [.store aecpResponsePayload (pkt.load aecpPayloadOffset 28), .send (txBytes 46)]) := by
  rw [inBuffer_append, inBuffer_cons, inBuffer_cons, inBuffer_txBytes]
  exact ⟨inBuffer_responseHeader _ _ _ _ _ _, by
    simp [aecpResponsePayload, ethernetHdrSize, aecpPayloadOffset]⟩

lemma linearControl_copied (buf pkt desc : Mem) (n : ℕ) :
    linearControl (playStores buf (readDescriptorHeader cfg srcAddr descSize pkt
        ++ [.store aecpResponseDescriptor (desc.load 0 n)]))
      = linearControl (buf.store aecpResponseDescriptor (desc.load 0 n)) := by
  have hword : field16 (playStores buf (readDescriptorHeader cfg srcAddr descSize pkt
        ++ [.store aecpResponseDescriptor (desc.load 0 n)])) (aecpResponseDescriptor + 80)
      = field16 (buf.store aecpResponseDescriptor (desc.load 0 n))
        (aecpResponseDescriptor + 80) := by
    refine congrArg beNat (Mem.load_congr fun x hx => ?_)
    have hx : 42 ≤ x := le_trans (by decide) hx
    -- the stores below byte 42 leave every byte from there on
    show Mem.store (((buf.store 0 _).store 18 _).store 36 _) 42 (desc.load 0 n) x
      = Mem.store buf 42 (desc.load 0 n) x
    apply Mem.store_apply_congr
    rw [Mem.store_apply_of_ge _ _ (by simp; omega), Mem.store_apply_of_ge _ _ (by simp; omega),
      Mem.store_apply_of_ge _ _ (by simp; omega)]
  unfold linearControl
  rw [hword]

lemma onFlyDescriptor_control (readId : ℕ) : onFlyDescriptor cfg AemType.control readId = none := by
  unfold onFlyDescriptor
  rw [if_neg (show ¬ AemType.control = AemType.audioCluster by decide),
    if_neg (show ¬ AemType.control = AemType.streamInput by decide),
    if_neg (show ¬ AemType.control = AemType.streamPortInput by decide),
    if_neg (show ¬ AemType.control = AemType.streamOutput by decide),
    if_neg (show ¬ AemType.control = AemType.streamPortOutput by decide)]
  split_ifs <;> rfl

lemma readAnswer_control_ne_audioMap (objects : ℕ → Mem) (readId : ℕ) :
    readAnswer cfg objects AemType.control readId ≠ .audioMap := by
  unfold readAnswer
  rw [onFlyDescriptor_control]
  dsimp only
  rw [if_neg (fun h => absurd h.2 (by decide))]
  split <;> intro h <;> cases h

/-- **The bound of `READ_DESCRIPTOR`.** The size of the descriptor asked for, the
number of mappings of an audio map, and the size of a control's value. -/
def ReadFits : Prop :=
  match readAnswer cfg st.descriptors (signedField16 pkt 28) (signedField16 pkt 30) with
  | .descriptor d =>
    d.size ≤ 474 ∧ FieldsFit env
      (st.buf.store aecpResponseDescriptor ((st.descriptors d.object).load 0 (d.size + 40)))
      (signedField16 pkt 28) (signedField16 pkt 30)
  | .audioMap => numMappings cfg (signedField16 pkt 30) ≤ 63
  | .notFound => True

lemma inBuffer_readDescriptor (srcAddr : Vector UInt8 6) :
    InBuffer (processAemCmdReadDescriptor cfg env st pkt srcAddr).2 ↔ ReadFits cfg env st pkt := by
  unfold processAemCmdReadDescriptor ReadFits
  dsimp only
  generalize signedField16 pkt 28 = readType
  generalize signedField16 pkt 30 = readId
  cases hans : readAnswer cfg st.descriptors readType readId with
  | descriptor d =>
    rw [inBuffer_finishDescriptor _ _ _ _ _ _
      (fun h => le_trans ((inBuffer_copiedDescriptor _ _ _ _ _).1 h) (by omega)),
      inBuffer_copiedDescriptor]
    refine and_congr_right fun _ => ?_
    -- only a control's fields depend on the buffer, and a control is not generated
    refine forall_congr' fun hcontrol => ?_
    subst hcontrol
    rw [linearControl_copied, onFlyDescriptor_control, if_neg (by decide)]
  | audioMap =>
    dsimp only
    have hsize : InBuffer (storeAudioMap cfg readId
        ++ readDescriptorHeader cfg srcAddr (8 + 8 * numMappings cfg readId) pkt) →
        8 + 8 * numMappings cfg readId ≤ 514 := by
      intro h
      have := (inBuffer_audioMap _ _ _ _ _).1 h
      omega
    rw [inBuffer_finishDescriptor _ _ _ _ _ _ hsize, inBuffer_audioMap]
    refine and_iff_left fun hcontrol => ?_
    subst hcontrol
    exact absurd hans (readAnswer_control_ne_audioMap cfg _ readId)
  | notFound =>
    dsimp only
    exact ⟨fun _ => trivial, fun _ => inBuffer_notFound cfg srcAddr pkt⟩

/-! ## Every packet -/

/-- **The bound of a command.** -/
def CommandFits : Prop :=
  match AemCommand.ofCode (aemCommandCode pkt) with
  | .acquireEntity => 12 ≤ dataLength1722 pkt ∧ dataLength1722 pkt ≤ 530
  | .readDescriptor => ReadFits cfg env st pkt
  | .getControl =>
    if field16 pkt 24 = AemType.control then
      (env.getControlValue (field16 pkt 26)).valuesLength.toNat ≤ 502
    else 16 ≤ dataLength1722 pkt ∧ dataLength1722 pkt ≤ 518
  | .setControl => 16 ≤ dataLength1722 pkt ∧ dataLength1722 pkt ≤ 518
  | .startOperation =>
    cfg.firmwareUpgradeEnabled = true → OperationFits env .startOperation pkt
  | .abortOperation =>
    cfg.firmwareUpgradeEnabled = true → OperationFits env .abortOperation pkt
  | .controllerAvailable | .other => 22 ≤ numPktBytes ∧ numPktBytes ≤ 542
  | _ => True

/-- **The packets whose responses fit.** -/
def FitsBuffer : Prop :=
  match AecpMessage.ofCode (messageType1722 pkt) with
  | .aemCommand =>
    cfg.aemEnabled = true → guidField pkt 4 = cfg.myGuid.toNat →
      CommandFits cfg env st pkt numPktBytes
  | .addressAccessCommand =>
    cfg.firmwareUpgradeEnabled = true → guidField pkt 4 = cfg.myGuid.toNat → numPktBytes ≤ 542
  | .aemResponse | .other => True

lemma inBuffer_reply (cdLen : ℕ) (r : Mem × UInt8 × List AecpAct) (hacts : InBuffer r.2.2) :
    InBuffer ((AemOutcome.reply st cdLen r).respond cfg env srcAddr).2 ↔ cdLen ≤ 518 := by
  rw [inBuffer_respond]
  refine (and_iff_right hacts).trans ?_
  show (cdLen : ℤ) ≤ 518 ↔ _
  omega

lemma inBuffer_getsetControl : InBuffer ((AemOutcome.reply st
        ((processAemCmdGetsetControl env cmd pkt).2 + 4 + aecpCommandDataOffset)
        (processAemCmdGetsetControl env cmd pkt).1).respond cfg env srcAddr).2
      ↔ (processAemCmdGetsetControl env cmd pkt).2 ≤ 502 := by
  rw [inBuffer_reply _ _ _ _ _ _ (inBuffer_control env cmd pkt)]
  unfold aecpCommandDataOffset
  omega

lemma inBuffer_operation : InBuffer ((if cfg.firmwareUpgradeEnabled then
          processAemCmdStartAbortOperation cfg env st cmd pkt srcAddr
        else ⟨st, pkt, AemStatus.success, 0, false, []⟩ : AemOutcome).respond cfg env srcAddr).2
      ↔ (cfg.firmwareUpgradeEnabled = true → OperationFits env cmd pkt) := by
  rw [inBuffer_respond]
  split
  · rename_i hfw
    rw [inBuffer_startAbortOperation]
    exact ⟨fun h _ => h, fun h => h hfw⟩
  · rename_i hfw
    refine ⟨fun _ h => absurd h hfw, fun _ => ⟨inBuffer_nil, ?_⟩⟩
    show (0 : ℤ) ≤ 518
    decide

lemma inBuffer_aemCommand (srcAddr : Vector UInt8 6) (numPktBytes : ℕ)
    (hguid : guidField pkt 4 = cfg.myGuid.toNat) :
    InBuffer (processAemCommand cfg env st pkt srcAddr numPktBytes).2
      ↔ CommandFits cfg env st pkt numPktBytes := by
  have hfixed : ∀ (n : ℕ) (r : Mem × UInt8 × List AecpAct), InBuffer r.2.2 → n ≤ 518 →
      (InBuffer ((AemOutcome.reply st n r).respond cfg env srcAddr).2 ↔ True) := by
    intro n r hacts hle
    exact iff_true_intro ((inBuffer_reply cfg env srcAddr st n r hacts).2 hle)
  unfold processAemCommand CommandFits
  rw [if_neg (not_not.2 hguid)]
  cases AemCommand.ofCode (aemCommandCode pkt) with
  | acquireEntity =>
    show InBuffer ((processAemCmdAcquire cfg env st pkt).respond cfg env srcAddr).2 ↔ _
    rw [inBuffer_respond, cdLen_acquire, acquireCdLen_le]
    exact and_iff_right (inBuffer_acquire cfg env st pkt)
  | readDescriptor => exact inBuffer_readDescriptor cfg env st pkt srcAddr
  | controllerAvailable => exact inBuffer_notImplemented cfg srcAddr pkt numPktBytes
  | other => exact inBuffer_notImplemented cfg srcAddr pkt numPktBytes
  | lockEntity =>
    refine iff_true_intro ((inBuffer_respond cfg env srcAddr _).2 ⟨inBuffer_nil, ?_⟩)
    show (0 : ℤ) ≤ 518
    decide
  | reboot =>
    refine iff_true_intro ((inBuffer_respond cfg env srcAddr _).2 ⟨inBuffer_nil, ?_⟩)
    show (22 : ℤ) ≤ 518
    decide
  | entityAvailable => exact hfixed _ _ inBuffer_nil (by decide)
  | getStreamInfo => exact hfixed _ _ (inBuffer_streamInfo cfg env _ pkt) (by decide)
  | setStreamInfo => exact hfixed _ _ (inBuffer_streamInfo cfg env _ pkt) (by decide)
  | getStreamFormat => exact hfixed _ _ (inBuffer_streamFormat cfg env _ pkt) (by decide)
  | setStreamFormat => exact hfixed _ _ (inBuffer_streamFormat cfg env _ pkt) (by decide)
  | getSamplingRate => exact hfixed _ _ (inBuffer_samplingRate cfg env _ pkt) (by decide)
  | setSamplingRate => exact hfixed _ _ (inBuffer_samplingRate cfg env _ pkt) (by decide)
  | getClockSource => exact hfixed _ _ (inBuffer_clockSource cfg env _ pkt) (by decide)
  | setClockSource => exact hfixed _ _ (inBuffer_clockSource cfg env _ pkt) (by decide)
  | startStreaming => exact hfixed _ _ (inBuffer_startstopStreaming cfg env _ pkt) (by decide)
  | stopStreaming => exact hfixed _ _ (inBuffer_startstopStreaming cfg env _ pkt) (by decide)
  | getSignalSelector => exact hfixed _ _ (inBuffer_signalSelector env _ pkt) (by decide)
  | setSignalSelector => exact hfixed _ _ (inBuffer_signalSelector env _ pkt) (by decide)
  | getCounters => exact hfixed _ _ (inBuffer_getCounters cfg env pkt) (by decide)
  | getControl =>
    refine (inBuffer_getsetControl cfg env srcAddr st .getControl pkt).trans ?_
    dsimp only
    unfold processAemCmdGetsetControl
    by_cases htype : field16 pkt 24 = AemType.control
    · rw [if_neg (not_not.2 htype), if_pos rfl, if_pos htype]
    · rw [if_pos htype, if_neg htype]
      exact controlValuesLength_le pkt
  | setControl =>
    refine (inBuffer_getsetControl cfg env srcAddr st .setControl pkt).trans ?_
    rw [← controlValuesLength_le pkt]
    unfold processAemCmdGetsetControl
    split
    · exact Iff.rfl
    · rw [if_neg (by decide)]
  | startOperation => exact inBuffer_operation cfg env srcAddr st .startOperation pkt
  | abortOperation => exact inBuffer_operation cfg env srcAddr st .abortOperation pkt

lemma inBuffer_aemResponseBranch : InBuffer (processAemResponse cfg env st pkt).2 := by
  have hanswer : ∀ (st : AecpState) (status : UInt8),
      InBuffer (createAcquireResponsePacket cfg st status
        ++ finishAemMsg cfg env acquireResponseLength false) := by
    intro st status
    rw [inBuffer_append, inBuffer_finishAemMsg]
    exact ⟨inBuffer_acquireResponsePacket cfg st status, by decide⟩
  unfold processAemResponse
  split_ifs
  · exact hanswer _ _
  · exact hanswer _ _
  · exact inBuffer_nil
  · exact inBuffer_nil

lemma inBuffer_addressAccess (srcAddr : Vector UInt8 6) (numPktBytes : ℕ)
    (hguid : guidField pkt 4 = cfg.myGuid.toNat) :
    InBuffer (processAecpAddressAccessCmd cfg env st pkt srcAddr numPktBytes).2
      ↔ numPktBytes ≤ 542 := by
  have hpages : ∀ (st : AecpState) (length : ℕ),
      InBuffer (writeUpgradeData env st pkt length).2.2 := by
    intro st length a ha
    obtain ⟨page, -, rfl⟩ := List.mem_map.1 ha
    exact Nat.zero_le _
  -- whatever was done before, the response is the same
  have hresp : ∀ (acts : List AecpAct) (status : UInt8), InBuffer acts →
      (InBuffer (acts ++ createAecpResponseHeader cfg srcAddr status 2 (dataLength1722 pkt) pkt
        ++ [.store aecpResponsePayload (pkt.load aecpPayloadOffset 514),
          .send (txBytes (numPktBytes + ethernetHdrSize))]) ↔ numPktBytes ≤ 542) := by
    intro acts status hacts
    rw [inBuffer_append, inBuffer_append, inBuffer_cons, inBuffer_cons, inBuffer_txBytes]
    simp only [hacts, inBuffer_responseHeader, inBuffer_nil, true_and, and_true, inBuffer_store,
      Mem.length_load, aecpResponsePayload, aecpPayloadOffset, ethernetHdrSize]
    omega
  unfold processAecpAddressAccessCmd
  rw [if_neg (not_not.2 hguid)]
  split
  · exact hresp _ _ inBuffer_nil
  · split
    · exact hresp _ _ inBuffer_nil
    · exact hresp _ _ (hpages st _)

/-- **Responses stay in the response buffer** exactly for the packets that fit: for
every build, state, packet, packet length and answer of the outside. -/
theorem aecp_responses_in_buffer_iff (cfg : AecpConfig) (env : AecpEnv) (st : AecpState)
    (pkt : Mem) (srcAddr : Vector UInt8 6) (numPktBytes : ℕ) :
    (∀ a ∈ (processAecpPacket cfg env st pkt srcAddr numPktBytes).2, a.InBuffer)
      ↔ FitsBuffer cfg env st pkt numPktBytes := by
  show InBuffer (dispatchAecpPacket cfg env st pkt srcAddr numPktBytes).2 ↔ _
  unfold dispatchAecpPacket FitsBuffer
  cases AecpMessage.ofCode (messageType1722 pkt) with
  | aemCommand =>
    dsimp only
    split
    · rename_i haem
      by_cases hguid : guidField pkt 4 = cfg.myGuid.toNat
      · rw [inBuffer_aemCommand cfg env st pkt srcAddr numPktBytes hguid]
        exact ⟨fun h _ _ => h, fun h => h haem hguid⟩
      · rw [processAemCommand, if_pos hguid]
        exact ⟨fun _ _ h => absurd h hguid, fun _ => inBuffer_nil⟩
    · rename_i haem
      exact ⟨fun _ h => absurd h haem, fun _ => inBuffer_nil⟩
  | aemResponse =>
    refine iff_true_intro ?_
    dsimp only
    split
    · exact inBuffer_aemResponseBranch cfg env st pkt
    · exact inBuffer_nil
  | addressAccessCommand =>
    dsimp only
    split
    · rename_i hfw
      by_cases hguid : guidField pkt 4 = cfg.myGuid.toNat
      · rw [inBuffer_addressAccess cfg env st pkt srcAddr numPktBytes hguid]
        exact ⟨fun h _ _ => h, fun h => h hfw hguid⟩
      · rw [processAecpAddressAccessCmd, if_pos hguid]
        exact ⟨fun _ _ h => absurd h hguid, fun _ => inBuffer_nil⟩
    · rename_i hfw
      exact ⟨fun _ h => absurd h hfw, fun _ => inBuffer_nil⟩
  | other => exact iff_true_intro inBuffer_nil

/-! ## A packet that does not fit -/

def plainBuild : AecpConfig where
  myGuid := 1
  myMacAddr := Vector.replicate 6 0
  adpDestAddr := Vector.replicate 6 0
  adp := ⟨0, 0, 0, 0, 0, 0, 0, 0, 0, 0⟩
  aemEnabled := true
  firmwareUpgradeEnabled := false
  generateDescriptorsOnFly := true
  numSources := 1
  numSinks := 1
  numMediaInputs := 1
  numMediaOutputs := 1
  numMediaClocks := 1
  descriptorList := []
  audioClusterTemplate := 0
  streamPortInput0 := 0
  streamPortOutput0 := 0
  streamInput0 := ⟨0, 0⟩
  streamOutput0 := ⟨0, 0⟩

def idleStream : AvbEndpointInfo :=
  ⟨⟨0, 0, Vector.replicate 6 0, 0, 0, 0, 0, 0, Vector.replicate 8 0, 0⟩, ⟨.disabled, 0, 0, 0⟩⟩

def quietEnv : AecpEnv where
  srcAddrPointer := Vector.replicate 6 0
  pollTime := 0
  restartTime := 0
  sinkInfo := fun _ => idleStream
  sourceInfo := fun _ => idleStream
  mediaClockInfo := fun _ => ⟨0, 0, 0, 0⟩
  getControlValue := fun _ => ⟨0, 0, 0, []⟩
  setControlStatus := 0
  getSignalSelector := fun _ => (0, 0, 0, 0)
  setSignalSelectorStatus := 0
  factoryImage := false
  imageAttempts := []
  imageFails := true
  pageWriteFails := fun _ => true
  availableIndex := 0
  gptpGrandmasterId := Vector.replicate 8 0

def aecpCold : AecpState where
  entityAcquiredStatus := .notAcquired
  controllerAvailableState := .idle
  controllerAvailableTimer := ⟨0, 0, 0, 5⟩
  pendingControllerGuid := 0
  acquiredControllerGuid := 0
  acquiredControllerMac := Vector.replicate 6 0
  pendingControllerMac := Vector.replicate 6 0
  pendingControllerSequence := 0
  pendingPersistent := 0
  controllerAvailableSequence := 0xffff
  aaBytesCopied := 0
  aaFlashWriteAddr := 0
  aaNextWriteAddress := 0
  flashPageBuf := fun _ => 0
  operationId := 1234
  writeOffset := 2 ^ 32 - 1
  descriptors := fun _ _ => 0
  buf := fun _ => 0

/-- An `ACQUIRE_ENTITY` command for the entity with guid 1, with a
`control_data_length` of 531; all further bytes are zero. -/
def longAcquire : Mem := fun a => [0xfb, 0x00, 0x02, 0x13, 0, 0, 0, 0, 0, 0, 0, 1].getD a 0

/-- The response to an `ACQUIRE_ENTITY` command whose length field says 531 is copied
over the end of the buffer. -/
theorem long_acquire_overruns_buffer :
    ¬ ∀ a ∈ (processAecpPacket plainBuild quietEnv aecpCold longAcquire
      (Vector.replicate 6 0) 60).2, a.InBuffer := by
  decide +kernel

/-! ## The loop over the data of a write -/

lemma body_bytesAvailable (data length : ℕ) (s : AaLoop)
    (hcopied : s.bytesCopied = 0 ∨ s.bytesCopied = flashPageSize) :
    (s.body env pkt data length).bytesAvailable ≤ 0
      ∨ (s.body env pkt data length).bytesCopied = 0
        ∧ (s.body env pkt data length).bytesAvailable = s.bytesAvailable - flashPageSize := by
  unfold AaLoop.body AaLoop.writePage
  rcases hcopied with h | h
  · rw [if_pos h]
    split
    · exact Or.inr ⟨h, rfl⟩
    · exact Or.inl (le_refl 0)
  · rw [if_neg (by rw [h]; decide), if_pos h]
    exact Or.inr ⟨rfl, rfl⟩

lemma rest_of_nonpos (data length fuel : ℕ) (s : AaLoop) (h : s.bytesAvailable ≤ 0) :
    AaLoop.rest env pkt data length fuel s = s := by
  cases fuel with
  | zero => rfl
  | succ fuel => rw [AaLoop.rest, if_neg (by omega)]

lemma rest_bytesAvailable (data length fuel : ℕ) (s : AaLoop)
    (hcopied : s.bytesCopied = 0 ∨ s.bytesCopied = flashPageSize)
    (hfuel : s.bytesAvailable ≤ flashPageSize * fuel) :
    (AaLoop.rest env pkt data length fuel s).bytesAvailable ≤ 0 := by
  induction fuel generalizing s with
  | zero => simpa [AaLoop.rest] using hfuel
  | succ fuel ih =>
    unfold AaLoop.rest
    split
    · rcases body_bytesAvailable env pkt data length s hcopied with h | ⟨hzero, hless⟩
      · rwa [rest_of_nonpos env pkt data length fuel _ h]
      · refine ih _ (Or.inl hzero) ?_
        rw [hless]
        push_cast at hfuel ⊢
        linarith
    · omega

/-- **The loop ends.** For data of at most 4095 bytes, and at most a page already
copied, the rounds allowed are enough to take everything. -/
theorem run_bytesAvailable (data length : ℕ) (s : AaLoop)
    (havailable : s.bytesAvailable ≤ 4095 + flashPageSize) :
    (AaLoop.run env pkt data length s).bytesAvailable ≤ 0 := by
  unfold AaLoop.run
  have hpage : (flashPageSize : ℤ) = 256 := rfl
  by_cases hcopied : s.bytesCopied = 0 ∨ s.bytesCopied = flashPageSize
  · rcases body_bytesAvailable env pkt data length s hcopied with h | ⟨hzero, hless⟩
    · rwa [rest_of_nonpos env pkt data length 20 _ h]
    · refine rest_bytesAvailable env pkt data length 20 _ (Or.inl hzero) ?_
      rw [hless]
      push_cast
      linarith
  · -- a partial page is first filled up from the packet
    obtain ⟨hne, hnp⟩ := not_or.1 hcopied
    have hbody : (s.body env pkt data length).bytesCopied = flashPageSize
        ∧ (s.body env pkt data length).bytesAvailable = s.bytesAvailable := by
      unfold AaLoop.body
      rw [if_neg hne, if_neg hnp]
      exact ⟨rfl, rfl⟩
    refine rest_bytesAvailable env pkt data length 20 _ (Or.inr hbody.1) ?_
    rw [hbody.2]
    push_cast
    linarith

theorem run_bytesAvailable_two_pages : (AaLoop.run quietEnv (fun _ => 0) 34 600
    ⟨100, 0, 0, fun _ => 0, 700, 0, 0, []⟩).bytesAvailable ≤ 0 :=
  run_bytesAvailable quietEnv _ 34 600 _ (by decide)
