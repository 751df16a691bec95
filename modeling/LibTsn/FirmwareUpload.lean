/-
# Sessions of a firmware upload

A session starts with the operation UPLOAD, sends the image in WRITE commands and ends with
STORE.  Four variables belong to it: the bytes in the page buffer, the flash address, the
next address and the offset in the image.  UPLOAD sets the last one only, ABORT_OPERATION the
other three, and STORE none.
-/
import LibTsn.FirmwarePages

/-! ## What leaves an upload alone -/

structure UploadKept (st : AecpState) (r : AecpState × List AecpAct) : Prop where
  pages : imagePages r.2 = []
  bytesCopied : r.1.aaBytesCopied = st.aaBytesCopied
  flashWriteAddr : r.1.aaFlashWriteAddr = st.aaFlashWriteAddr
  nextWriteAddress : r.1.aaNextWriteAddress = st.aaNextWriteAddress
  flashPageBuf : r.1.flashPageBuf = st.flashPageBuf

section

variable (cfg : AecpConfig) (env : AecpEnv) (st : AecpState) (cmd : AemCommand) (pkt : Mem)
  (srcAddr : Vector UInt8 6)

variable {cfg env st} in
lemma UploadKept.of_pages {acts : List AecpAct} (h : imagePages acts = []) :
    UploadKept st (st, acts) :=
  ⟨h, rfl, rfl, rfl, rfl⟩

lemma imagePages_setStreamOf (descType i : ℕ) (info : AvbEndpointInfo) :
    imagePages [setStreamOf descType i info] = [] := by
  unfold setStreamOf
  split <;> rfl

lemma imagePages_streamFormat :
    imagePages (processAemCmdGetsetStreamFormat cfg env cmd pkt).2.2 = [] := by
  unfold processAemCmdGetsetStreamFormat
  split
  · rfl
  · split_ifs
    · rfl
    · rfl
    · exact imagePages_setStreamOf _ _ _

lemma imagePages_streamInfo :
    imagePages (processAemCmdGetsetStreamInfo cfg env cmd pkt).2.2 = [] := by
  unfold processAemCmdGetsetStreamInfo
  split
  · rfl
  · dsimp only
    by_cases hget : cmd = .getStreamInfo
    · rw [if_pos hget]
      rfl
    · rw [if_neg hget]
      split
      · rfl
      · exact imagePages_setStreamOf _ _ _

lemma imagePages_samplingRate :
    imagePages (processAemCmdGetsetSamplingRate cfg env cmd pkt).2.2 = [] := by
  unfold processAemCmdGetsetSamplingRate
  dsimp only
  split_ifs <;> rfl

lemma imagePages_clockSource :
    imagePages (processAemCmdGetsetClockSource cfg env cmd pkt).2.2 = [] := by
  unfold processAemCmdGetsetClockSource
  dsimp only
  split_ifs <;> rfl

lemma imagePages_startstopStreaming :
    imagePages (processAemCmdStartstopStreaming cfg env cmd pkt).2.2 = [] := by
  unfold processAemCmdStartstopStreaming
  dsimp only
  split_ifs <;> rfl

lemma imagePages_signalSelector :
    imagePages (processAemCmdGetsetSignalSelector env cmd pkt).2.2 = [] := by
  unfold processAemCmdGetsetSignalSelector
  split_ifs <;> rfl

lemma imagePages_getCounters : imagePages (processAemCmdGetCounters cfg env pkt).2.2 = [] := by
  unfold processAemCmdGetCounters
  split_ifs <;> rfl

lemma imagePages_control : imagePages (processAemCmdGetsetControl env cmd pkt).1.2.2 = [] := by
  unfold processAemCmdGetsetControl
  split_ifs <;> rfl

lemma uploadKept_acquire : UploadKept st ((processAemCmdAcquire cfg env st pkt).state,
      (processAemCmdAcquire cfg env st pkt).acts) := by
  unfold processAemCmdAcquire releaseEntity acquireEntity
  split
  · exact ⟨rfl, rfl, rfl, rfl, rfl⟩
  · split
    · split_ifs <;> exact ⟨rfl, rfl, rfl, rfl, rfl⟩
    · cases st.entityAcquiredStatus with
      | acquired =>
        dsimp only
        split <;> exact ⟨rfl, rfl, rfl, rfl, rfl⟩
      | _ => exact ⟨rfl, rfl, rfl, rfl, rfl⟩

lemma uploadKept_startOperation :
    UploadKept st ((processAemCmdStartAbortOperation cfg env st .startOperation pkt srcAddr).state,
      (processAemCmdStartAbortOperation cfg env st .startOperation pkt srcAddr).acts) := by
  have hupload : UploadKept st ((startUpload cfg env st pkt srcAddr).state,
      (startUpload cfg env st pkt srcAddr).acts) := by
    have hprogress : imagePages (env.imageAttempts.flatMap fun elapsed =>
        if elapsed then operationResponse cfg srcAddr AemStatus.inProgress pkt else []) = [] := by
      induction env.imageAttempts with
      | nil => rfl
      | cons elapsed attempts ih =>
        rw [List.flatMap_cons, imagePages_append, ih]
        cases elapsed <;> rfl
    unfold startUpload
    split
    · exact ⟨rfl, rfl, rfl, rfl, rfl⟩
    · dsimp only
      refine ⟨?_, ?_, ?_, ?_, ?_⟩
      · rw [imagePages_append, hprogress]
        rfl
      all_goals
        split <;> rfl
  unfold processAemCmdStartAbortOperation
  split
  · split
    · exact hupload
    · exact hupload
    all_goals exact ⟨rfl, rfl, rfl, rfl, rfl⟩
  · rw [if_neg (by decide)]
    exact ⟨rfl, rfl, rfl, rfl, rfl⟩

lemma uploadKept_handleAemCommand (hcmd : cmd ≠ .abortOperation) :
    UploadKept st ((handleAemCommand cfg env st cmd pkt srcAddr).state,
      (handleAemCommand cfg env st cmd pkt srcAddr).acts) := by
  cases cmd with
  | abortOperation => exact absurd rfl hcmd
  | acquireEntity => exact uploadKept_acquire cfg env st pkt
  | startOperation =>
    unfold handleAemCommand
    dsimp only
    split
    · exact uploadKept_startOperation cfg env st pkt srcAddr
    · exact .of_pages rfl
  | getStreamInfo | setStreamInfo => exact .of_pages (imagePages_streamInfo cfg env _ pkt)
  | getStreamFormat | setStreamFormat => exact .of_pages (imagePages_streamFormat cfg env _ pkt)
  | getSamplingRate | setSamplingRate => exact .of_pages (imagePages_samplingRate cfg env _ pkt)
  | getClockSource | setClockSource => exact .of_pages (imagePages_clockSource cfg env _ pkt)
  | startStreaming | stopStreaming =>
    exact .of_pages (imagePages_startstopStreaming cfg env _ pkt)
  | getControl | setControl => exact .of_pages (imagePages_control env _ pkt)
  | getSignalSelector | setSignalSelector =>
    exact .of_pages (imagePages_signalSelector env _ pkt)
  | getCounters => exact .of_pages (imagePages_getCounters cfg env pkt)
  | _ => exact .of_pages rfl

variable {cfg env st srcAddr} in
lemma UploadKept.respond {o : AemOutcome} (h : UploadKept st (o.state, o.acts)) :
    UploadKept st (o.respond cfg env srcAddr) := by
  refine ⟨?_, h.bytesCopied, h.flashWriteAddr, h.nextWriteAddress, h.flashPageBuf⟩
  have hpages : imagePages o.acts = [] := h.pages
  unfold AemOutcome.respond finishAemMsg
  rw [imagePages_append, imagePages_append, hpages, imagePages_append]
  split_ifs <;> rfl

lemma imagePages_finishDescriptor (buf : Mem) (readType readId size : ℕ)
    {acts : List AecpAct} (h : imagePages acts = []) :
    imagePages (finishDescriptor env buf readType readId size acts) = [] := by
  have hfields : imagePages
      (setCurrentFieldsInDescriptor env (playStores buf acts) readType readId).1 = [] := by
    unfold setCurrentFieldsInDescriptor
    dsimp only
    split_ifs <;> rfl
  unfold finishDescriptor
  rw [imagePages_append, imagePages_append, h, hfields]
  split <;> rfl

lemma uploadKept_readDescriptor :
    UploadKept st (processAemCmdReadDescriptor cfg env st pkt srcAddr) := by
  have hstores : ∀ (n : ℕ) (f : ℕ → ℕ × List UInt8),
      imagePages ((List.range n).map fun i => AecpAct.store (f i).1 (f i).2) = [] := by
    intro n f
    induction List.range n with
    | nil => rfl
    | cons i is ih => exact ih
  have hmap : ∀ readId, imagePages (storeAudioMap cfg readId) = [] := by
    intro readId
    unfold storeAudioMap
    rw [imagePages_append]
    exact hstores _ fun i => (_, _)
  unfold processAemCmdReadDescriptor
  dsimp only
  split
  · exact ⟨imagePages_finishDescriptor env _ _ _ _ rfl, rfl, rfl, rfl, rfl⟩
  · refine .of_pages (imagePages_finishDescriptor env _ _ _ _ ?_)
    rw [imagePages_append, hmap]
    rfl
  · exact .of_pages rfl

lemma uploadKept_aemCommand (numPktBytes : ℕ) (habort : guidField pkt 4 = cfg.myGuid.toNat →
      AemCommand.ofCode (aemCommandCode pkt) ≠ .abortOperation) :
    UploadKept st (processAemCommand cfg env st pkt srcAddr numPktBytes) := by
  unfold processAemCommand
  by_cases hguid : guidField pkt 4 = cfg.myGuid.toNat
  · rw [if_neg (not_not_intro hguid)]
    split
    · exact uploadKept_readDescriptor cfg env st pkt srcAddr
    · exact .of_pages rfl
    · exact .of_pages rfl
    · exact (uploadKept_handleAemCommand cfg env st _ pkt srcAddr (habort hguid)).respond
  · rw [if_pos hguid]
    exact .of_pages rfl

lemma uploadKept_aemResponse : UploadKept st (processAemResponse cfg env st pkt) := by
  unfold processAemResponse
  split_ifs <;> exact ⟨rfl, rfl, rfl, rfl, rfl⟩

lemma uploadKept_periodic : UploadKept st (aecpAemPeriodic cfg env st) := by
  have htimeout : ∀ st, UploadKept st (controllerAvailableTimeout cfg env st) := by
    intro st
    unfold controllerAvailableTimeout
    cases st.controllerAvailableState <;> exact ⟨rfl, rfl, rfl, rfl, rfl⟩
  unfold aecpAemPeriodic
  dsimp only
  split
  · obtain ⟨hpages, hcopied, hflash, hnext, hbuf⟩ :=
      htimeout { st with
        controllerAvailableTimer := (avbTimerExpired env.pollTime st.controllerAvailableTimer).1 }
    exact ⟨hpages, hcopied, hflash, hnext, hbuf⟩
  · exact ⟨rfl, rfl, rfl, rfl, rfl⟩

lemma uploadKept_addressAccess (numPktBytes : ℕ)
    (hwrite : ¬ (guidField pkt 4 = cfg.myGuid.toNat ∧ field16 pkt 22 = 1 ∧
      (pkt 24).toNat / 16 = 1)) :
    UploadKept st (processAecpAddressAccessCmd cfg env st pkt srcAddr numPktBytes) := by
  unfold processAecpAddressAccessCmd
  by_cases hguid : guidField pkt 4 = cfg.myGuid.toNat
  · have hinvalid : field16 pkt 22 ≠ 1 ∨ (pkt 24).toNat / 16 ≠ 1 := by
      by_contra h
      rw [not_or, not_not, not_not] at h
      exact hwrite ⟨hguid, h⟩
    rw [if_neg (not_not_intro hguid)]
    dsimp only
    rw [if_pos hinvalid]
    exact .of_pages rfl
  · rw [if_pos hguid]
    exact .of_pages rfl

end

variable (cfg : AecpConfig)

def AecpEvent.IsAbort : AecpEvent → Prop
  | .packet _ pkt _ _ =>
    AecpMessage.ofCode (messageType1722 pkt) = .aemCommand ∧ guidField pkt 4 = cfg.myGuid.toNat ∧
      AemCommand.ofCode (aemCommandCode pkt) = .abortOperation
  | .periodic _ => False

instance (cfg : AecpConfig) : (e : AecpEvent) → Decidable (e.IsAbort cfg)
  | .packet _ _ _ _ => inferInstanceAs (Decidable (_ ∧ _))
  | .periodic _ => inferInstanceAs (Decidable False)

variable (operation : MemoryOperation) (st : AecpState) (e : AecpEvent)

def AecpEvent.Neutral : Prop :=
  ¬ e.IsWrite cfg ∧ ¬ e.IsAbort cfg
  deriving Decidable

lemma UploadKept.leavesUpload {cfg : AecpConfig} {st : AecpState} {e : AecpEvent}
    (hwrite : ¬ e.IsWrite cfg) (h : UploadKept st (aecpEvent cfg st e)) :
    LeavesUpload cfg st e where
  data := by
    cases e with
    | periodic env => rfl
    | packet env pkt srcAddr numPktBytes => exact if_neg hwrite
  pages := h.pages
  reads := by
    cases e with
    | periodic env => rfl
    | packet env pkt srcAddr numPktBytes => exact if_neg fun hread => hwrite hread.2.1
  bytesCopied := h.bytesCopied
  flashWriteAddr := h.flashWriteAddr
  nextWriteAddress := h.nextWriteAddress
  flashPageBuf := h.flashPageBuf

/-- **Every other event leaves the upload alone**: all other commands, responses and
periodic calls, in every state. -/
theorem leavesUpload_of_neutral {cfg : AecpConfig} {e : AecpEvent} (st : AecpState)
    (h : e.Neutral cfg) : LeavesUpload cfg st e := by
  obtain ⟨hwrite, habort⟩ := h
  refine UploadKept.leavesUpload hwrite ?_
  cases e with
  | periodic env => exact uploadKept_periodic cfg env st
  | packet env pkt srcAddr numPktBytes =>
    have hdispatch : UploadKept st (dispatchAecpPacket cfg env st pkt srcAddr numPktBytes) := by
      unfold dispatchAecpPacket
      cases hmessage : AecpMessage.ofCode (messageType1722 pkt) with
      | aemCommand =>
        dsimp only
        split
        · exact uploadKept_aemCommand cfg env st pkt srcAddr numPktBytes fun hguid hcmd =>
            habort ⟨hmessage, hguid, hcmd⟩
        · exact .of_pages rfl
      | aemResponse =>
        dsimp only
        split
        · exact uploadKept_aemResponse cfg env st pkt
        · exact .of_pages rfl
      | addressAccessCommand =>
        dsimp only
        split
        · exact uploadKept_addressAccess cfg env st pkt srcAddr numPktBytes fun h =>
            hwrite ⟨hmessage, h⟩
        · exact .of_pages rfl
      | other => exact .of_pages rfl
    exact ⟨hdispatch.pages, hdispatch.bytesCopied, hdispatch.flashWriteAddr,
      hdispatch.nextWriteAddress, hdispatch.flashPageBuf⟩

/-! ## The start of a session -/

def OperationPacket (pkt : Mem) : Prop :=
  AecpMessage.ofCode (messageType1722 pkt) = .aemCommand ∧ guidField pkt 4 = cfg.myGuid.toNat ∧
    AemCommand.ofCode (aemCommandCode pkt) = .startOperation ∧
    field16 pkt 24 = AemType.memoryObject ∧ field16 pkt 26 = 0 ∧
    MemoryOperation.ofCode (field16 pkt 30) = operation
  deriving Decidable

def AecpEvent.Starts : AecpEvent → Prop
  | .packet _ pkt _ _ => OperationPacket cfg operation pkt
  | .periodic _ => False

instance (cfg : AecpConfig) (operation : MemoryOperation) :
    (e : AecpEvent) → Decidable (e.Starts cfg operation)
  | .packet _ pkt _ _ => inferInstanceAs (Decidable (OperationPacket cfg operation pkt))
  | .periodic _ => inferInstanceAs (Decidable False)

lemma AecpEvent.Starts.neutral {cfg : AecpConfig} {operation : MemoryOperation} {e : AecpEvent}
    (h : e.Starts cfg operation) : e.Neutral cfg := by
  cases e with
  | periodic env => exact h.elim
  | packet env pkt srcAddr numPktBytes =>
    obtain ⟨hmessage, -, hcmd, -⟩ := h
    constructor
    · rintro ⟨hwrite, -⟩
      cases hmessage.symm.trans hwrite
    · rintro ⟨-, -, habort⟩
      cases hcmd.symm.trans habort

lemma status_ne_zero_of_startsWith {m : Mem} {dest : Vector UInt8 6} {messageType dataLen : ℕ}
    {status : UInt8} (h : StartsWith m dest messageType status dataLen)
    (hstatus : status.toNat < 32)
    (hne : status.toNat ≠ 0) : status1722 (sentPacket m) ≠ 0 := by
  intro hzero
  have hbyte : (m 16).toNat / 8 = 0 := hzero
  have hhigh : (UInt8.ofNat (status.toNat * 8)).toNat = status.toNat * 8 := by
    rw [UInt8.toNat_ofNat']
    omega
  have hle : status.toNat * 8 ≤ (m 16).toNat := by
    rw [h.status, UInt8.toNat_or, hhigh]
    exact Nat.left_le_or
  omega

section

variable {cfg : AecpConfig} {env : AecpEnv} {st : AecpState} {pkt : Mem}
  {srcAddr : Vector UInt8 6} {numPktBytes : ℕ}

lemma dispatch_startOperation {operation : MemoryOperation} (env : AecpEnv) (st : AecpState)
    (srcAddr : Vector UInt8 6) (numPktBytes : ℕ) (haem : cfg.aemEnabled = true)
    (hfirmware : cfg.firmwareUpgradeEnabled = true)
    (h : OperationPacket cfg operation pkt) :
    dispatchAecpPacket cfg env st pkt srcAddr numPktBytes =
      (processAemCmdStartAbortOperation cfg env st .startOperation pkt srcAddr).respond cfg env
        srcAddr := by
  obtain ⟨hmessage, hguid, hcmd, -⟩ := h
  unfold dispatchAecpPacket
  rw [hmessage]
  rw [if_pos haem, processAemCommand, if_neg (not_not_intro hguid), hcmd]
  dsimp only
  rw [handleAemCommand, if_pos hfirmware]

lemma no_frames_startOperation {operation : MemoryOperation}
    (hcfg : ¬ (cfg.aemEnabled = true ∧ cfg.firmwareUpgradeEnabled = true))
    (h : OperationPacket cfg operation pkt) :
    (dispatchAecpPacket cfg env st pkt srcAddr numPktBytes).2 = [] := by
  obtain ⟨hmessage, hguid, hcmd, -⟩ := h
  unfold dispatchAecpPacket
  rw [hmessage]
  dsimp only
  split
  · rename_i haem
    rw [processAemCommand, if_neg (not_not_intro hguid), hcmd]
    dsimp only
    rw [handleAemCommand, if_neg fun hfirmware => hcfg ⟨haem, hfirmware⟩]
    rfl
  · rfl

def NoSuccess (acts : List AecpAct) : Prop :=
  ∀ buf, ∀ m ∈ sentFrames buf acts, status1722 (sentPacket m) ≠ 0

lemma NoSuccess.append {as bs : List AecpAct} (ha : NoSuccess as) (hb : NoSuccess bs) :
    NoSuccess (as ++ bs) := by
  intro buf m hm
  rw [sentFrames_append] at hm
  rcases List.mem_append.mp hm with hm | hm
  · exact ha buf m hm
  · exact hb _ m hm

variable (cfg pkt srcAddr) in
lemma noSuccess_operationResponse (status : UInt8) (hstatus : status.toNat < 32)
    (hne : status.toNat ≠ 0) : NoSuccess (operationResponse cfg srcAddr status pkt) := by
  intro buf m hm
  have hframe := (frame_aemResponse cfg buf srcAddr status (dataLength1722 pkt) pkt).1
  rcases List.mem_singleton.mp hm with rfl
  exact status_ne_zero_of_startsWith hframe hstatus hne

variable (cfg pkt srcAddr) in
lemma noSuccess_progress (attempts : List Bool) : NoSuccess (attempts.flatMap fun elapsed =>
      if elapsed then operationResponse cfg srcAddr AemStatus.inProgress pkt else []) := by
  induction attempts with
  | nil => intro buf m hm; cases hm
  | cons elapsed attempts ih =>
    refine NoSuccess.append ?_ ih
    cases elapsed with
    | false => intro buf m hm; cases hm
    | true => exact noSuccess_operationResponse cfg pkt srcAddr _ (by decide) (by decide)

lemma respond_of_sent {o : AemOutcome} (hlen : o.cdLen = 0) (hreboot : o.reboot = false) :
    o.respond cfg env srcAddr = (o.state, o.acts) := by
  unfold AemOutcome.respond finishAemMsg
  rw [hlen, hreboot]
  simp

lemma answered_upload (hupload : OperationPacket cfg .upload pkt)
    (hanswer : Answered cfg AemStatus.success st (.packet env pkt srcAddr numPktBytes)) :
    cfg.firmwareUpgradeEnabled = true ∧
      (st.step cfg (.packet env pkt srcAddr numPktBytes)).writeOffset = 0 := by
  obtain ⟨m, hm, hstatus⟩ := hanswer
  change m ∈ sentFrames st.buf (dispatchAecpPacket cfg env st pkt srcAddr numPktBytes).2 at hm
  by_cases hcfg : cfg.aemEnabled = true ∧ cfg.firmwareUpgradeEnabled = true
  swap
  · rw [no_frames_startOperation hcfg hupload] at hm
    cases hm
  have hdispatch := dispatch_startOperation env st srcAddr numPktBytes hcfg.1 hcfg.2 hupload
  have hstart : processAemCmdStartAbortOperation cfg env st .startOperation pkt srcAddr =
      startUpload cfg env st pkt srcAddr := by
    obtain ⟨-, -, -, htype, hindex, hoperation⟩ := hupload
    unfold processAemCmdStartAbortOperation
    rw [if_pos ⟨rfl, htype, hindex⟩, hoperation]
  rw [hstart] at hdispatch
  refine ⟨hcfg.2, ?_⟩
  show (dispatchAecpPacket cfg env st pkt srcAddr numPktBytes).1.writeOffset = 0
  rw [hdispatch] at hm ⊢
  unfold startUpload at hm ⊢
  by_cases hfactory : env.factoryImage = true
  swap
  · rw [if_pos hfactory, respond_of_sent rfl rfl] at hm
    cases hm
  rw [if_neg (not_not_intro hfactory)] at hm ⊢
  cases hfails : env.imageFails with
  | false => rfl
  | true =>
    -- the last frame says ENTITY_MISBEHAVING, those before it IN_PROGRESS
    rw [hfails, respond_of_sent rfl rfl] at hm
    have hframes := (noSuccess_progress cfg pkt srcAddr env.imageAttempts).append
      (noSuccess_operationResponse cfg pkt srcAddr AemStatus.entityMisbehaving (by decide)
        (by decide))
    exact absurd hstatus (hframes st.buf m hm)

end

/-! ## The first write -/

namespace AaLoop

variable {env : AecpEnv} {pkt : Mem} {data length : ℕ} {s : AaLoop}

lemma writePage_of_inOrder (hworks : ∀ offset, env.pageWriteFails offset = false)
    (horder : s.flashWriteAddr = s.writeOffset) (page : List UInt8) :
    (s.writePage env page).status = s.status ∧
      (s.writePage env page).flashWriteAddr = (s.writePage env page).writeOffset := by
  have hwritten : (decide (s.flashWriteAddr = s.writeOffset) &&
      !env.pageWriteFails s.writeOffset) = true := by
    rw [hworks, decide_eq_true horder]
    rfl
  unfold writePage
  dsimp only
  rw [if_pos hwritten, if_pos hwritten, horder]
  exact ⟨rfl, rfl⟩

lemma body_of_inOrder (hworks : ∀ offset, env.pageWriteFails offset = false)
    (horder : s.flashWriteAddr = s.writeOffset) : (s.body env pkt data length).status = s.status ∧
      (s.body env pkt data length).flashWriteAddr = (s.body env pkt data length).writeOffset := by
  unfold body
  split_ifs
  · exact writePage_of_inOrder hworks horder (pkt.load (data + s.packetIndex) flashPageSize)
  · exact ⟨rfl, horder⟩
  · exact writePage_of_inOrder hworks horder (s.pageBuf.load 0 flashPageSize)
  · exact ⟨rfl, horder⟩

lemma rest_of_inOrder (hworks : ∀ offset, env.pageWriteFails offset = false) (fuel : ℕ)
    (horder : s.flashWriteAddr = s.writeOffset) :
    (rest env pkt data length fuel s).status = s.status := by
  induction fuel generalizing s with
  | zero => rfl
  | succ fuel ih =>
    unfold rest
    split
    · obtain ⟨hstatus, hnext⟩ := body_of_inOrder hworks horder
      exact (ih hnext).trans hstatus
    · rfl

lemma inOrder_of_run (hindex : s.packetIndex = 0)
    (havailable : s.bytesAvailable = (length : ℤ) + s.bytesCopied)
    (h : (run env pkt data length s).status = AaStatus.success) :
    s.flashWriteAddr = s.writeOffset := by
  unfold run at h
  have hfirst := status_of_rest h
  by_cases hzero : s.bytesCopied = 0
  · unfold body at hfirst
    rw [if_pos hzero, if_pos (Or.inl hindex)] at hfirst
    dsimp only at hfirst
    exact (status_of_writePage _ hfirst).2
  by_cases hpage : s.bytesCopied = flashPageSize
  · unfold body at hfirst
    rw [if_neg hzero, if_pos hpage] at hfirst
    dsimp only at hfirst
    exact (status_of_writePage _ hfirst).2
  -- the first round fills the buffer, the second one writes it
  have hbody : s.body env pkt data length =
      { s with
        pageBuf := s.pageBuf.store s.bytesCopied
          (pkt.load (data + s.packetIndex) (flashPageSize - s.bytesCopied))
        bytesCopied := flashPageSize
        packetIndex := s.packetIndex + (flashPageSize - s.bytesCopied) } := by
    unfold body
    rw [if_neg hzero, if_neg hpage]
  rw [rest, hbody, if_pos (by show 0 < s.bytesAvailable; omega)] at h
  have hsecond := status_of_rest h
  unfold body at hsecond
  dsimp only at hsecond
  rw [if_neg (by decide), if_pos rfl] at hsecond
  dsimp only at hsecond
  exact (status_of_writePage _ hsecond).2

lemma run_status_iff (hworks : ∀ offset, env.pageWriteFails offset = false)
    (hindex : s.packetIndex = 0) (havailable : s.bytesAvailable = (length : ℤ) + s.bytesCopied)
    (hstatus : s.status = AaStatus.success) :
    (run env pkt data length s).status = AaStatus.success ↔ s.flashWriteAddr = s.writeOffset := by
  refine ⟨inOrder_of_run hindex havailable, fun horder => ?_⟩
  obtain ⟨hbody, hnext⟩ := body_of_inOrder (s := s) hworks horder
  exact (rest_of_inOrder hworks 20 hnext).trans (hbody.trans hstatus)

end AaLoop

def AecpEvent.WritesAt (address : ℕ) : AecpEvent → Prop
  | .packet env pkt _ _ =>
    WritePacket cfg pkt ∧ tlvAddress pkt = address ∧ ∀ offset, env.pageWriteFails offset = false
  | .periodic _ => False

/-- **The first write of a session.**  It is accepted exactly if the counters say that
nothing has been written. -/
theorem answered_first_write_iff {cfg : AecpConfig} {st : AecpState} {u w : AecpEvent}
    (hu : u.Starts cfg .upload) (hanswer : Answered cfg AemStatus.success st u)
    (hw : w.WritesAt cfg 0) : Answered cfg AaStatus.success (st.step cfg u) w ↔
      st.aaNextWriteAddress = 0 ∧ st.aaFlashWriteAddr = 0 := by
  have hkept := leavesUpload_of_neutral st hu.neutral
  obtain ⟨hfirmware, hoffset⟩ : cfg.firmwareUpgradeEnabled = true ∧
      (st.step cfg u).writeOffset = 0 := by
    cases u with
    | periodic env => exact hu.elim
    | packet env pkt srcAddr numPktBytes => exact answered_upload hu hanswer
  cases w with
  | periodic env => exact hw.elim
  | packet env pkt srcAddr numPktBytes =>
    obtain ⟨hwrite, haddress, hworks⟩ := hw
    have hloop : (AaLoop.run env pkt 34 (tlvLength pkt)
        ((st.step cfg u).loopStart (tlvLength pkt))).status = AaStatus.success ↔
        (st.step cfg u).aaFlashWriteAddr = (st.step cfg u).writeOffset :=
      AaLoop.run_status_iff hworks rfl rfl rfl
    rw [answered_write_iff env _ srcAddr numPktBytes hwrite, hloop, haddress]
    rw [hoffset, hkept.nextWriteAddress, hkept.flashWriteAddr]
    exact ⟨fun h => h.2, fun h => ⟨hfirmware, h⟩⟩

/-! ## A whole session -/

/-- An event of an upload session: a write of at least a page that succeeds, or a command that has
nothing to do with the upload. -/
def SessionEvent : Prop :=
  WriteSucceeds cfg st e ∧ flashPageSize ≤ (e.uploadData cfg).length ∨ e.Neutral cfg
  deriving Decidable

section

variable {cfg : AecpConfig} {st : AecpState}

lemma SessionEvent.takes {e : AecpEvent} (h : SessionEvent cfg st e) :
    WriteSucceeds cfg st e ∧ FillsPage cfg st e ∨ LeavesUpload cfg st e := by
  rcases h with ⟨hwrite, hlength⟩ | hneutral
  · exact Or.inl ⟨hwrite, hlength.trans (Nat.le_add_left _ _)⟩
  · exact Or.inr (leavesUpload_of_neutral st hneutral)

lemma length_flatten_of_pages {pages : List (List UInt8)}
    (h : ∀ p ∈ pages, p.length = flashPageSize) :
    pages.flatten.length = flashPageSize * pages.length := by
  induction pages with
  | nil => rfl
  | cons p ps ih =>
    rw [List.flatten_cons, List.length_append, ih fun q hq => h q (List.mem_cons_of_mem p hq),
      h p List.mem_cons_self, List.length_cons, Nat.mul_succ, Nat.add_comm]

lemma Uploaded.complete_iff {pages : List (List UInt8)} {data : List UInt8}
    (h : Uploaded st pages data) : data <+: pages.flatten ↔ flashPageSize ∣ data.length := by
  have hlength : data.length = flashPageSize * pages.length + st.aaBytesCopied := by
    rw [← h.data, List.length_append, length_flatten_of_pages h.pages, Mem.length_load]
  constructor
  · intro hprefix
    have hle := hprefix.length_le
    rw [length_flatten_of_pages h.pages] at hle
    exact ⟨pages.length, by omega⟩
  · intro hdvd
    have hcopied : st.aaBytesCopied = 0 :=
      Nat.eq_zero_of_dvd_of_lt ((Nat.dvd_add_right ⟨pages.length, rfl⟩).mp (hlength ▸ hdvd)) h.short
    have hdata : pages.flatten ++ [] = data := by
      rw [← h.data, hcopied]
      rfl
    rw [← hdata, List.append_nil]

end

/-- **Sessions.**  In whatever state an upload is started with success, a write at the
start of the image is accepted exactly if the next address and the flash address are zero.
If all counters are zero, a session of writes of at least a page each has handed over its
data when it ends with STORE exactly if the data ends with a page. -/
theorem upload_sessions (cfg : AecpConfig) (st : AecpState) (u : AecpEvent)
    (hu : u.Starts cfg .upload) (hanswer : Answered cfg AemStatus.success st u) :
    (∀ w : AecpEvent, w.WritesAt cfg 0 →
      (Answered cfg AaStatus.success (st.step cfg u) w ↔
        st.aaNextWriteAddress = 0 ∧ st.aaFlashWriteAddr = 0)) ∧
    (st.UploadIdle → ∀ (es : List AecpEvent) (s : AecpEvent),
      Run.Guarded (AecpState.step cfg) (SessionEvent cfg) (st.step cfg u) es →
      s.Starts cfg .store ∨ s.Starts cfg .storeAndReboot →
      (dataAlong cfg es <+: (pagesAlong cfg st (u :: (es ++ [s]))).flatten ↔
        flashPageSize ∣ (dataAlong cfg es).length)) := by
  refine ⟨fun w hw => answered_first_write_iff hu hanswer hw, ?_⟩
  intro hidle es s hes hs
  have hneutral : s.Neutral cfg := hs.elim AecpEvent.Starts.neutral AecpEvent.Starts.neutral
  have hall : Run.Guarded (AecpState.step cfg)
      (fun st e => WriteSucceeds cfg st e ∧ FillsPage cfg st e ∨ LeavesUpload cfg st e) st
      (u :: (es ++ [s])) := by
    refine ⟨SessionEvent.takes (Or.inr hu.neutral), ?_⟩
    rw [Run.guarded_append]
    exact ⟨Run.guarded_mono (fun _ _ => SessionEvent.takes) hes,
      SessionEvent.takes (Or.inr hneutral), trivial⟩
  have hdata : dataAlong cfg (u :: (es ++ [s])) = dataAlong cfg es := by
    unfold dataAlong
    rw [List.flatMap_cons, List.flatMap_append, List.flatMap_singleton,
      (leavesUpload_of_neutral st hu.neutral).data, (leavesUpload_of_neutral st hneutral).data,
      List.nil_append, List.append_nil]
  have huploaded := (uploaded_run hidle.uploaded hall).1
  rw [hdata] at huploaded
  exact huploaded.complete_iff

def operationPacket (operation : UInt8) : Mem := fun a =>
  ([0xfb, 0, 0, 28, 0, 0, 0, 0, 0, 0, 0, 1, 0, 0, 0, 0, 0, 0, 0, 0, 0, 0, 0, 52, 0, 11, 0, 0,
    0, 0, 0, operation] : List UInt8).getD a 0

def operationComes (operation : UInt8) : AecpEvent :=
  .packet flashEnv (operationPacket operation) (Vector.replicate 6 0) 60

theorem upload_session_two_pages :
    Answered upgradeBuild AaStatus.success (aecpCold.step upgradeBuild (operationComes 4))
        (writeComes 0 256 7) ∧
      dataAlong upgradeBuild [writeComes 0 256 7, writeComes 256 256 8] <+:
        (pagesAlong upgradeBuild aecpCold [operationComes 4, writeComes 0 256 7,
          writeComes 256 256 8, operationComes 0]).flatten :=
  ⟨((upload_sessions upgradeBuild aecpCold (operationComes 4) (by decide +kernel)
      (by decide +kernel)).1 (writeComes 0 256 7)
      ⟨by decide +kernel, by decide +kernel, fun _ => rfl⟩).mpr ⟨rfl, rfl⟩,
    ((upload_sessions upgradeBuild aecpCold (operationComes 4) (by decide +kernel)
      (by decide +kernel)).2 ⟨rfl, rfl, rfl⟩ [writeComes 0 256 7, writeComes 256 256 8]
      (operationComes 0) (by decide +kernel) (Or.inl (by decide +kernel))).mpr
      (by decide +kernel)⟩

/-- After a whole session UPLOAD is answered with success again, but the image cannot be
written from its start.  And a session of one write of 300 bytes hands over the first 256
of them only. -/
theorem upload_sessions_depend :
    Run.Guarded (AecpState.step upgradeBuild) (Answered upgradeBuild AemStatus.success) aecpCold
        [operationComes 4, writeComes 0 256 7, operationComes 0, operationComes 4] ∧
      ¬ Answered upgradeBuild AaStatus.success
        (Run.runFrom (AecpState.step upgradeBuild) aecpCold
          [operationComes 4, writeComes 0 256 7, operationComes 0, operationComes 4])
        (writeComes 0 256 7) ∧
      Run.Guarded (AecpState.step upgradeBuild) (Answered upgradeBuild AemStatus.success) aecpCold
        [operationComes 4, writeComes 0 300 7, operationComes 0] ∧
      (dataAlong upgradeBuild [writeComes 0 300 7]).length = 300 ∧
      (pagesAlong upgradeBuild aecpCold
        [operationComes 4, writeComes 0 300 7, operationComes 0]).flatten =
          List.replicate 256 7 :=
  ⟨by decide +kernel, by decide +kernel, by decide +kernel, by decide +kernel,
    by decide +kernel⟩
