/-
# Cutting an uploaded image into flash pages

A WRITE command brings a stretch of the image, and the loop of
`process_avb_1722_1_aecp_address_access_cmd` cuts it into pages of 256 bytes.  What
does not fill a page is kept in a buffer and put in front of the next stretch.
-/
import LibTsn.AecpFrames
import LibTsn.Run

open List (append_nil append_assoc)

/-! ## Rounds -/

namespace AaLoop

def bodyRead (length : ℕ) (s : AaLoop) : ℕ × ℕ :=
  if s.bytesCopied = 0 then
    if s.packetIndex = 0 ∨ s.packetIndex + flashPageSize ≤ length then
      (s.packetIndex, flashPageSize)
    else (s.packetIndex, s.bytesAvailable.toNat)
  else if s.bytesCopied = flashPageSize then (s.packetIndex, 0)
  else (s.packetIndex, flashPageSize - s.bytesCopied)

def restReads (env : AecpEnv) (pkt : Mem) (data length : ℕ) : ℕ → AaLoop → List (ℕ × ℕ)
  | 0, _ => []
  | fuel + 1, s =>
    if 0 < s.bytesAvailable then
      s.bodyRead length :: restReads env pkt data length fuel (s.body env pkt data length)
    else []

def runReads (env : AecpEnv) (pkt : Mem) (data length : ℕ) (s : AaLoop) : List (ℕ × ℕ) :=
  s.bodyRead length :: restReads env pkt data length 20 (s.body env pkt data length)

structure Takes (s r : AaLoop) (bytes : List UInt8) : Prop where
  data : r.pages.flatten ++ r.pageBuf.load 0 r.bytesCopied =
    s.pages.flatten ++ s.pageBuf.load 0 s.bytesCopied ++ bytes
  address : (r.flashWriteAddr + r.bytesCopied) % 2 ^ 32 =
    (s.flashWriteAddr + s.bytesCopied + bytes.length) % 2 ^ 32
  pages : (∀ p ∈ s.pages, p.length = flashPageSize) → ∀ p ∈ r.pages, p.length = flashPageSize

lemma Takes.refl (s : AaLoop) : s.Takes s [] :=
  ⟨(append_nil _).symm, rfl, id⟩

lemma Takes.trans {s r t : AaLoop} {bs cs : List UInt8} (h : s.Takes r bs) (h' : r.Takes t cs) :
    s.Takes t (bs ++ cs) where
  data := by rw [h'.data, h.data, append_assoc]
  address := by
    have hfirst := h.address
    have hsecond := h'.address
    rw [List.length_append]
    omega
  pages := fun hs => h'.pages (h.pages hs)

section

variable {env : AecpEnv} {pkt : Mem} {data length : ℕ} {s : AaLoop}

lemma status_of_writePage (page : List UInt8)
    (h : (s.writePage env page).status = AaStatus.success) :
    s.status = AaStatus.success ∧ s.flashWriteAddr = s.writeOffset := by
  unfold writePage at h
  dsimp only at h
  split at h
  · rename_i hwritten
    exact ⟨h, of_decide_eq_true (Bool.and_eq_true_iff.mp hwritten).1⟩
  · cases h

lemma writePage_takes (page : List UInt8) (h : (s.writePage env page).status = AaStatus.success) :
    (s.writePage env page).pages = s.pages ++ [page] ∧
      (s.writePage env page).flashWriteAddr = (s.flashWriteAddr + flashPageSize) % 2 ^ 32 := by
  have horder := (status_of_writePage page h).2
  refine ⟨?_, rfl⟩
  show (if decide (s.flashWriteAddr = s.writeOffset) = true then s.pages ++ [page] else s.pages) = _
  rw [if_pos (decide_eq_true horder)]

lemma status_of_body (h : (s.body env pkt data length).status = AaStatus.success) :
    s.status = AaStatus.success := by
  unfold body at h
  split_ifs at h
  · -- only the field itself is compared
    dsimp only at h
    exact (status_of_writePage _ h).1
  · exact h
  · exact (status_of_writePage (s.pageBuf.load 0 flashPageSize) h).1
  · exact h

lemma status_of_rest {fuel : ℕ} (h : (rest env pkt data length fuel s).status = AaStatus.success) :
    s.status = AaStatus.success := by
  induction fuel generalizing s with
  | zero => exact h
  | succ fuel ih =>
    unfold rest at h
    split at h
    · exact status_of_body (ih h)
    · exact h

lemma body_of_full (hs : s.bytesCopied = flashPageSize)
    (h : (s.body env pkt data length).status = AaStatus.success) :
    s.Takes (s.body env pkt data length) [] ∧ (s.body env pkt data length).bytesCopied = 0 ∧
      (s.body env pkt data length).packetIndex = s.packetIndex ∧
      (s.body env pkt data length).bytesAvailable = s.bytesAvailable - flashPageSize := by
  have hbody : s.body env pkt data length =
      { s.writePage env (s.pageBuf.load 0 flashPageSize) with bytesCopied := 0 } := by
    unfold body
    rw [if_neg (by rw [hs]; decide), if_pos hs]
  rw [hbody] at h ⊢
  obtain ⟨hpages, haddress⟩ := writePage_takes (s.pageBuf.load 0 flashPageSize) h
  refine ⟨⟨?_, ?_, ?_⟩, rfl, rfl, rfl⟩
  · show (s.writePage env (s.pageBuf.load 0 flashPageSize)).pages.flatten ++ [] = _
    rw [hpages, List.flatten_append, List.flatten_singleton, hs]
  · show ((s.writePage env (s.pageBuf.load 0 flashPageSize)).flashWriteAddr + 0) % 2 ^ 32 = _
    rw [haddress, hs, Nat.add_zero, Nat.mod_mod]
    rfl
  · intro hlengths p hp
    rw [hpages, List.mem_append, List.mem_singleton] at hp
    rcases hp with hp | rfl
    · exact hlengths p hp
    · exact Mem.length_load _ _ _

variable (env pkt data length) in
lemma body_of_part (hpos : 0 < s.bytesCopied) (hlt : s.bytesCopied < flashPageSize) :
    s.Takes (s.body env pkt data length)
        (pkt.load (data + s.packetIndex) (flashPageSize - s.bytesCopied)) ∧
      (s.body env pkt data length).bytesCopied = flashPageSize ∧
      (s.body env pkt data length).packetIndex = s.packetIndex + (flashPageSize - s.bytesCopied) ∧
      (s.body env pkt data length).bytesAvailable = s.bytesAvailable := by
  unfold body
  rw [if_neg (by omega), if_neg (by omega)]
  refine ⟨⟨?_, ?_, fun h => h⟩, rfl, rfl, rfl⟩
  · show s.pages.flatten ++ (s.pageBuf.store s.bytesCopied _).load 0 flashPageSize = _
    have hsplit : flashPageSize = s.bytesCopied +
        (pkt.load (data + s.packetIndex) (flashPageSize - s.bytesCopied)).length := by
      rw [Mem.length_load]
      omega
    conv_lhs => rw [hsplit]
    rw [Mem.load_add, Mem.load_store_disjoint _ _ (by left; omega), Nat.zero_add,
      ← hsplit, Mem.load_store_same, append_assoc]
  · show (s.flashWriteAddr + flashPageSize) % 2 ^ 32 = _
    rw [Mem.length_load]
    congr 1
    omega

lemma body_of_page (hs : s.bytesCopied = 0)
    (hindex : s.packetIndex = 0 ∨ s.packetIndex + flashPageSize ≤ length)
    (h : (s.body env pkt data length).status = AaStatus.success) :
    s.Takes (s.body env pkt data length) (pkt.load (data + s.packetIndex) flashPageSize) ∧
      (s.body env pkt data length).bytesCopied = 0 ∧
      (s.body env pkt data length).packetIndex = s.packetIndex + flashPageSize ∧
      (s.body env pkt data length).bytesAvailable = s.bytesAvailable - flashPageSize := by
  have hbody : s.body env pkt data length =
      { s.writePage env (pkt.load (data + s.packetIndex) flashPageSize) with
        packetIndex := s.packetIndex + flashPageSize } := by
    unfold body
    rw [if_pos hs, if_pos hindex]
  rw [hbody] at h ⊢
  dsimp only at h
  obtain ⟨hpages, haddress⟩ :=
    writePage_takes (pkt.load (data + s.packetIndex) flashPageSize) h
  refine ⟨⟨?_, ?_, ?_⟩, hs, rfl, rfl⟩
  · show (s.writePage env (pkt.load (data + s.packetIndex) flashPageSize)).pages.flatten ++
      s.pageBuf.load 0 s.bytesCopied = _
    rw [hpages, List.flatten_append, List.flatten_singleton, hs]
    show _ ++ [] = _ ++ [] ++ _
    rw [append_nil, append_nil]
  · show ((s.writePage env (pkt.load (data + s.packetIndex) flashPageSize)).flashWriteAddr +
      s.bytesCopied) % 2 ^ 32 = _
    rw [haddress, hs, Mem.length_load, Nat.add_zero, Nat.add_zero, Nat.mod_mod]
  · intro hlengths p hp
    rw [hpages, List.mem_append, List.mem_singleton] at hp
    rcases hp with hp | rfl
    · exact hlengths p hp
    · exact Mem.length_load _ _ _

variable (env pkt data) in
lemma body_of_end (hs : s.bytesCopied = 0)
    (hindex : ¬ (s.packetIndex = 0 ∨ s.packetIndex + flashPageSize ≤ length)) :
    s.Takes (s.body env pkt data length)
        (pkt.load (data + s.packetIndex) s.bytesAvailable.toNat) ∧
      (s.body env pkt data length).bytesCopied = s.bytesAvailable.toNat ∧
      (s.body env pkt data length).bytesAvailable = 0 := by
  unfold body
  rw [if_pos hs, if_neg hindex]
  refine ⟨⟨?_, ?_, fun h => h⟩, rfl, rfl⟩
  · show s.pages.flatten ++ (s.pageBuf.store 0 _).load 0 s.bytesAvailable.toNat = _
    have hload := Mem.load_store_same s.pageBuf 0
      (pkt.load (data + s.packetIndex) s.bytesAvailable.toNat)
    rw [Mem.length_load] at hload
    rw [hload, hs]
    show _ = _ ++ [] ++ _
    rw [append_nil]
  · show (s.flashWriteAddr + s.bytesAvailable.toNat) % 2 ^ 32 = _
    rw [hs, Mem.length_load, Nat.add_zero]

end

section

variable {env : AecpEnv} {pkt : Mem} {data length : ℕ}

/-- **The repetitions.**  With the buffer empty and some of the data used, the
repetitions take the rest of it. -/
theorem rest_takes {fuel : ℕ} {s : AaLoop} (hs : s.bytesCopied = 0) (hindex : 0 < s.packetIndex)
    (havailable : s.bytesAvailable = (length : ℤ) - s.packetIndex)
    (hle : s.packetIndex ≤ length) (hfuel : length ≤ s.packetIndex + 256 * fuel)
    (h : (rest env pkt data length fuel s).status = AaStatus.success) :
    s.Takes (rest env pkt data length fuel s)
        (pkt.load (data + s.packetIndex) (length - s.packetIndex)) ∧
      (rest env pkt data length fuel s).bytesCopied < flashPageSize ∧
      ∀ p ∈ restReads env pkt data length fuel s, p.1 + p.2 ≤ length := by
  have hpage : flashPageSize = 256 := rfl
  induction fuel generalizing s with
  | zero =>
    have hdone : length - s.packetIndex = 0 := by omega
    rw [hdone]
    refine ⟨Takes.refl s, ?_, by intro p hp; cases hp⟩
    show s.bytesCopied < flashPageSize
    omega
  | succ fuel ih =>
    unfold rest at h ⊢
    unfold restReads
    by_cases hmore : 0 < s.bytesAvailable
    · rw [if_pos hmore] at h ⊢
      rw [if_pos hmore]
      by_cases hwhole : s.packetIndex + flashPageSize ≤ length
      · -- one more page of the data
        obtain ⟨htakes, hcopied, hnext, havail⟩ :=
          body_of_page hs (Or.inr hwhole) (status_of_rest h)
        obtain ⟨hrest, hshort, hreads⟩ :=
          ih hcopied (by omega) (by omega) (by omega) (by rw [hnext]; omega) h
        have hcount : length - s.packetIndex =
            flashPageSize + (length - (s.packetIndex + flashPageSize)) := by omega
        have hbytes : pkt.load (data + s.packetIndex) (length - s.packetIndex) =
            pkt.load (data + s.packetIndex) flashPageSize ++
              pkt.load (data + (s.packetIndex + flashPageSize))
                (length - (s.packetIndex + flashPageSize)) := by
          rw [hcount, Mem.load_add, Nat.add_assoc data]
        rw [hbytes, ← hnext]
        refine ⟨htakes.trans hrest, hshort, List.forall_mem_cons.mpr ⟨?_, hreads⟩⟩
        unfold bodyRead
        rw [if_pos hs, if_pos (Or.inr hwhole)]
        exact hwhole
      · -- the last bytes are kept
        have hlast : ¬ (s.packetIndex = 0 ∨ s.packetIndex + flashPageSize ≤ length) := by omega
        obtain ⟨htakes, hcopied, havail⟩ :=
          body_of_end env pkt data hs hlast
        have hcount : s.bytesAvailable.toNat = length - s.packetIndex := by omega
        rw [hcount] at htakes hcopied
        have hstop : ∀ fuel, rest env pkt data length fuel (s.body env pkt data length) =
            s.body env pkt data length :=
          fun fuel => rest_of_nonpos env pkt data length fuel _ havail.le
        have hnoreads : ∀ fuel, restReads env pkt data length fuel (s.body env pkt data length)
            = [] := by
          intro fuel
          cases fuel with
          | zero => rfl
          | succ fuel => rw [restReads, if_neg (by omega)]
        rw [hstop, hnoreads]
        refine ⟨htakes, by omega, List.forall_mem_singleton.mpr ?_⟩
        unfold bodyRead
        rw [if_pos hs, if_neg hlast]
        show s.packetIndex + s.bytesAvailable.toNat ≤ length
        omega
    · rw [if_neg hmore, if_neg hmore]
      have hdone : length - s.packetIndex = 0 := by omega
      rw [hdone]
      exact ⟨Takes.refl s, by omega, by intro p hp; cases hp⟩

/-- **The loop.**  If the buffer and the data fill a page, the loop takes the data and
reads nothing else. -/
theorem run_takes {s : AaLoop} (hindex : s.packetIndex = 0)
    (hcopied : s.bytesCopied < flashPageSize)
    (havailable : s.bytesAvailable = (length : ℤ) + s.bytesCopied)
    (hfull : flashPageSize ≤ s.bytesCopied + length) (hlength : length ≤ 4095)
    (h : (run env pkt data length s).status = AaStatus.success) :
    s.Takes (run env pkt data length s) (pkt.load data length) ∧
      (run env pkt data length s).bytesCopied < flashPageSize ∧
      ∀ p ∈ runReads env pkt data length s, p.1 + p.2 ≤ length := by
  have hpage : flashPageSize = 256 := rfl
  unfold run at h ⊢
  unfold runReads
  rcases Nat.eq_zero_or_pos s.bytesCopied with hzero | hpos
  · -- the first page comes straight from the data
    obtain ⟨htakes, hcopied', hnext, havail⟩ :=
      body_of_page hzero (Or.inl hindex) (status_of_rest h)
    obtain ⟨hrest, hshort, hreads⟩ :=
      rest_takes hcopied' (by omega) (by omega) (by omega) (by omega) h
    have hbytes : pkt.load data length = pkt.load (data + s.packetIndex) flashPageSize ++
        pkt.load (data + (s.packetIndex + flashPageSize))
          (length - (s.packetIndex + flashPageSize)) := by
      rw [hindex, Nat.add_zero, Nat.zero_add, ← Mem.load_add, Nat.add_sub_cancel' (by omega)]
    rw [hbytes, ← hnext]
    refine ⟨htakes.trans hrest, hshort, List.forall_mem_cons.mpr ⟨?_, hreads⟩⟩
    unfold bodyRead
    rw [if_pos hzero, if_pos (Or.inl hindex)]
    omega
  · -- the buffer is filled up, and written in the second round
    obtain ⟨hfill, hcopied₁, hnext₁, havail₁⟩ :=
      body_of_part env pkt data length hpos hcopied
    have hmore : 0 < (s.body env pkt data length).bytesAvailable := by omega
    unfold rest at h ⊢
    unfold restReads
    rw [if_pos hmore] at h ⊢
    rw [if_pos hmore]
    obtain ⟨hwrite, hcopied₂, hnext₂, havail₂⟩ := body_of_full hcopied₁ (status_of_rest h)
    have hfuel : length ≤ (AaLoop.body env pkt data length
        (s.body env pkt data length)).packetIndex + 256 * 19 := by omega
    obtain ⟨hrest, hshort, hreads⟩ :=
      rest_takes hcopied₂ (by omega) (by omega) (by omega) hfuel h
    have hbytes : pkt.load data length =
        pkt.load (data + s.packetIndex) (flashPageSize - s.bytesCopied) ++ [] ++
          pkt.load (data + (s.packetIndex + (flashPageSize - s.bytesCopied)))
            (length - (s.packetIndex + (flashPageSize - s.bytesCopied))) := by
      rw [hindex, append_nil, Nat.add_zero, Nat.zero_add, ← Mem.load_add,
        Nat.add_sub_cancel' (by omega)]
    rw [hbytes, ← hnext₁, ← hnext₂]
    refine ⟨(hfill.trans hwrite).trans hrest, hshort,
      List.forall_mem_cons.mpr ⟨?_, List.forall_mem_cons.mpr ⟨?_, hreads⟩⟩⟩
    · unfold bodyRead
      rw [if_neg (by omega), if_neg (by omega)]
      show s.packetIndex + (flashPageSize - s.bytesCopied) ≤ length
      omega
    · unfold bodyRead
      rw [if_neg (by omega), if_pos hcopied₁]
      show (s.body env pkt data length).packetIndex + 0 ≤ length
      omega

/-- **Reading behind the data.**  The first round reads a page less what is in the
buffer, whatever the data. -/
theorem read_behind {s : AaLoop} (env : AecpEnv) (pkt : Mem) (data : ℕ)
    (hindex : s.packetIndex = 0) (hcopied : s.bytesCopied < flashPageSize)
    (hshort : s.bytesCopied + length < flashPageSize) :
    ¬ ∀ p ∈ runReads env pkt data length s, p.1 + p.2 ≤ length := by
  intro hreads
  have hfirst := hreads (s.bodyRead length) List.mem_cons_self
  unfold bodyRead at hfirst
  split_ifs at hfirst <;> simp only at hfirst <;> omega

end

end AaLoop

/-! ## Events of the entity -/

inductive AecpEvent where
  | packet (env : AecpEnv) (pkt : Mem) (srcAddr : Vector UInt8 6) (numPktBytes : ℕ)
  | periodic (env : AecpEnv)

variable (cfg : AecpConfig) (st : AecpState)

def aecpEvent : AecpEvent → AecpState × List AecpAct
  | .packet env pkt srcAddr numPktBytes => processAecpPacket cfg env st pkt srcAddr numPktBytes
  | .periodic env => aecpAemPeriodic cfg env st

variable (pkt : Mem) (e : AecpEvent)

def AecpState.step : AecpState :=
  (aecpEvent cfg st e).1

/-- The pages handed to `fl_writeImagePage`. -/
def imagePages : List AecpAct → List (List UInt8)
  | [] => []
  | .writeImagePage page :: acts => page :: imagePages acts
  | _ :: acts => imagePages acts

def pagesOf : List (List UInt8) :=
  imagePages (aecpEvent cfg st e).2

def Answered (status : UInt8) (st : AecpState) (e : AecpEvent) : Prop :=
  ∃ m ∈ sentFrames st.buf (aecpEvent cfg st e).2, status1722 (sentPacket m) = status.toNat
  deriving Decidable

def tlvLength : ℕ := (pkt 24).toNat % 16 * 256 + (pkt 25).toNat

def tlvData : List UInt8 := pkt.load 34 (tlvLength pkt)

def tlvAddress : ℕ := beNat (pkt.load 30 4)

def WritePacket : Prop :=
  AecpMessage.ofCode (messageType1722 pkt) = .addressAccessCommand ∧
    guidField pkt 4 = cfg.myGuid.toNat ∧ field16 pkt 22 = 1 ∧ (pkt 24).toNat / 16 = 1
  deriving Decidable

def AecpEvent.IsWrite : AecpEvent → Prop
  | .packet _ pkt _ _ => WritePacket cfg pkt
  | .periodic _ => False

instance (cfg : AecpConfig) : (e : AecpEvent) → Decidable (e.IsWrite cfg)
  | .packet _ pkt _ _ => inferInstanceAs (Decidable (WritePacket cfg pkt))
  | .periodic _ => inferInstanceAs (Decidable False)

def AecpEvent.uploadData : List UInt8 :=
  match e with
  | .packet _ pkt _ _ => if WritePacket cfg pkt then tlvData pkt else []
  | .periodic _ => []

def AecpState.loopStart (length : ℕ) : AaLoop :=
  ⟨st.aaBytesCopied, st.aaFlashWriteAddr, st.writeOffset, st.flashPageBuf,
    (length : ℤ) + st.aaBytesCopied, 0, AaStatus.success, []⟩

def tlvReads : AecpEvent → List ((ℕ × ℕ) × ℕ)
  | .packet env pkt _ _ =>
    if cfg.firmwareUpgradeEnabled = true ∧ WritePacket cfg pkt ∧
        st.aaNextWriteAddress = tlvAddress pkt then
      (AaLoop.runReads env pkt 34 (tlvLength pkt) (st.loopStart (tlvLength pkt))).map
        fun p => (p, tlvLength pkt)
    else []
  | .periodic _ => []

/-! ## One write -/

section

variable {cfg : AecpConfig} {pkt : Mem} (env : AecpEnv) (st : AecpState)
  (srcAddr : Vector UInt8 6) (numPktBytes : ℕ)

lemma tlvLength_le (pkt : Mem) : tlvLength pkt ≤ 4095 := by
  have hlow := (pkt 25).toNat_lt
  unfold tlvLength
  omega

lemma imagePages_append (as bs : List AecpAct) :
    imagePages (as ++ bs) = imagePages as ++ imagePages bs := by
  induction as with
  | nil => rfl
  | cons a as ih =>
    cases a with
    | writeImagePage page => exact congrArg (page :: ·) ih
    | _ => exact ih

lemma imagePages_map (pages : List (List UInt8)) :
    imagePages (pages.map .writeImagePage) = pages := by
  induction pages with
  | nil => rfl
  | cons p ps ih => exact congrArg (p :: ·) ih

lemma playStores_pages (buf : Mem) (pages : List (List UInt8)) :
    playStores buf (pages.map .writeImagePage) = buf ∧
      sentFrames buf (pages.map .writeImagePage) = [] := by
  induction pages with
  | nil => exact ⟨rfl, rfl⟩
  | cons p ps ih => exact ih

lemma writeUpgradeData_eq (length : ℕ) : writeUpgradeData env st pkt length =
      ({ st with
          aaBytesCopied := (AaLoop.run env pkt 34 length (st.loopStart length)).bytesCopied
          aaFlashWriteAddr := (AaLoop.run env pkt 34 length (st.loopStart length)).flashWriteAddr
          aaNextWriteAddress := (st.aaNextWriteAddress + length) % 2 ^ 32
          flashPageBuf := (AaLoop.run env pkt 34 length (st.loopStart length)).pageBuf
          writeOffset := (AaLoop.run env pkt 34 length (st.loopStart length)).writeOffset },
        (AaLoop.run env pkt 34 length (st.loopStart length)).status,
        (AaLoop.run env pkt 34 length (st.loopStart length)).pages.map .writeImagePage) := rfl

def writeOutcome (env : AecpEnv) (st : AecpState) (pkt : Mem) : AecpState × UInt8 × List AecpAct :=
  if st.aaNextWriteAddress ≠ tlvAddress pkt then (st, AaStatus.addressInvalid, [])
  else writeUpgradeData env st pkt (tlvLength pkt)

lemma aecpEvent_write (hwrite : WritePacket cfg pkt) (hcfg : cfg.firmwareUpgradeEnabled = true) :
    ∃ m, aecpEvent cfg st (.packet env pkt srcAddr numPktBytes) =
        ({ (writeOutcome env st pkt).1 with buf := m },
          (writeOutcome env st pkt).2.2 ++
            createAecpResponseHeader cfg srcAddr (writeOutcome env st pkt).2.1 2
              (dataLength1722 pkt) pkt ++
            [.store aecpResponsePayload (pkt.load aecpPayloadOffset 514),
              .send (txBytes (numPktBytes + ethernetHdrSize))]) := by
  obtain ⟨hmessage, hguid, hcount, hmode⟩ := hwrite
  refine ⟨playStores st.buf (dispatchAecpPacket cfg env st pkt srcAddr numPktBytes).2, ?_⟩
  have hdispatch : dispatchAecpPacket cfg env st pkt srcAddr numPktBytes =
      processAecpAddressAccessCmd cfg env st pkt srcAddr numPktBytes := by
    unfold dispatchAecpPacket
    rw [hmessage]
    exact if_pos hcfg
  have hvalid : ¬ (field16 pkt 22 ≠ 1 ∨ (pkt 24).toNat / 16 ≠ 1) := by
    rw [hcount, hmode]
    decide
  have hprocess : processAecpAddressAccessCmd cfg env st pkt srcAddr numPktBytes =
      ((writeOutcome env st pkt).1, (writeOutcome env st pkt).2.2 ++
        createAecpResponseHeader cfg srcAddr (writeOutcome env st pkt).2.1 2
          (dataLength1722 pkt) pkt ++
        [.store aecpResponsePayload (pkt.load aecpPayloadOffset 514),
          .send (txBytes (numPktBytes + ethernetHdrSize))]) := by
    unfold processAecpAddressAccessCmd
    rw [if_neg (not_not_intro hguid)]
    dsimp only
    rw [if_neg hvalid]
    rfl
  show processAecpPacket cfg env st pkt srcAddr numPktBytes = _
  unfold processAecpPacket
  rw [hdispatch, hprocess]

lemma AaLoop.status_run (length : ℕ) (s : AaLoop) (hs : s.status = AaStatus.success) :
    (AaLoop.run env pkt 34 length s).status = AaStatus.success ∨
      (AaLoop.run env pkt 34 length s).status = AaStatus.addressInvalid := by
  have hwrite : ∀ (s : AaLoop) page, (s.writePage env page).status = s.status ∨
      (s.writePage env page).status = AaStatus.addressInvalid := by
    intro s page
    unfold AaLoop.writePage
    dsimp only
    split
    · exact Or.inl rfl
    · exact Or.inr rfl
  have hbody : ∀ s : AaLoop, (s.body env pkt 34 length).status = s.status ∨
      (s.body env pkt 34 length).status = AaStatus.addressInvalid := by
    intro s
    unfold AaLoop.body
    split_ifs
    · dsimp only
      exact hwrite s _
    · exact Or.inl rfl
    · dsimp only
      exact hwrite s _
    · exact Or.inl rfl
  have hrest : ∀ (fuel : ℕ) (s : AaLoop),
      s.status = AaStatus.success ∨ s.status = AaStatus.addressInvalid →
        (AaLoop.rest env pkt 34 length fuel s).status = AaStatus.success ∨
          (AaLoop.rest env pkt 34 length fuel s).status = AaStatus.addressInvalid := by
    intro fuel
    induction fuel with
    | zero => intro s h; exact h
    | succ fuel ih =>
      intro s h
      unfold AaLoop.rest
      split
      · apply ih
        rcases hbody s with hkept | hfailed
        · rwa [hkept]
        · exact Or.inr hfailed
      · exact h
  apply hrest
  rcases hbody s with hkept | hfailed
  · exact Or.inl (hkept.trans hs)
  · exact Or.inr hfailed

variable (pkt) in
lemma writeOutcome_status : (writeOutcome env st pkt).2.1 = AaStatus.success ∨
      (writeOutcome env st pkt).2.1 = AaStatus.addressInvalid := by
  unfold writeOutcome
  split
  · exact Or.inr rfl
  · exact AaLoop.status_run _ _ _ rfl

/-- **The answer to a write.**  It is a success if the write is in order and every page
is written. -/
theorem answered_write_iff (hwrite : WritePacket cfg pkt) :
    Answered cfg AaStatus.success st (.packet env pkt srcAddr numPktBytes) ↔
      cfg.firmwareUpgradeEnabled = true ∧ st.aaNextWriteAddress = tlvAddress pkt ∧
        (AaLoop.run env pkt 34 (tlvLength pkt) (st.loopStart (tlvLength pkt))).status =
          AaStatus.success := by
  by_cases hcfg : cfg.firmwareUpgradeEnabled = true
  swap
  · -- without the option there is no answer
    have hnone : (aecpEvent cfg st (.packet env pkt srcAddr numPktBytes)).2 = [] := by
      show (dispatchAecpPacket cfg env st pkt srcAddr numPktBytes).2 = []
      unfold dispatchAecpPacket
      rw [hwrite.1]
      rw [if_neg hcfg]
    refine iff_of_false ?_ fun h => hcfg h.1
    rintro ⟨m, hm, -⟩
    rw [hnone] at hm
    cases hm
  obtain ⟨m, hevent⟩ := aecpEvent_write env st srcAddr numPktBytes hwrite hcfg
  obtain ⟨pages, hpages⟩ : ∃ pages : List (List UInt8),
      (writeOutcome env st pkt).2.2 = pages.map .writeImagePage := by
    unfold writeOutcome
    split
    · exact ⟨[], rfl⟩
    · exact ⟨_, rfl⟩
  have hlength : dataLength1722 pkt / 256 % 256 < 8 := by
    have hlow := (pkt 3).toNat_lt
    unfold dataLength1722
    omega
  -- the one frame carries the status
  have hanswer : Answered cfg AaStatus.success st (.packet env pkt srcAddr numPktBytes) ↔
      (writeOutcome env st pkt).2.1 = AaStatus.success := by
    unfold Answered
    rw [hevent]
    dsimp only
    rw [hpages, append_assoc, sentFrames_append, (playStores_pages _ _).1,
      (playStores_pages _ _).2, List.nil_append]
    have hframe := ((startsWith_store_header cfg st.buf srcAddr aecpSubtype (2 + 1)
      (writeOutcome env st pkt).2.1 (dataLength1722 pkt)).store (a := 18) (by decide)
      (pkt.load 4 18)).store (a := aecpResponsePayload) (by decide)
      (pkt.load aecpPayloadOffset 514)
    have hstatus := status_of_startsWith hframe (by
      rcases writeOutcome_status pkt env st with h | h <;> rw [h] <;>
        decide) hlength
    constructor
    · rintro ⟨m', hm', hm'status⟩
      rcases List.mem_singleton.mp hm' with rfl
      rw [hstatus] at hm'status
      exact UInt8.toNat_inj.mp hm'status
    · intro h
      exact ⟨_, List.mem_singleton.mpr rfl, by rw [hstatus, h]⟩
  rw [hanswer]
  unfold writeOutcome
  by_cases haddress : st.aaNextWriteAddress = tlvAddress pkt
  · rw [if_neg (not_not_intro haddress)]
    exact ⟨fun h => ⟨hcfg, haddress, h⟩, fun h => h.2.2⟩
  · rw [if_pos haddress]
    have hinvalid : AaStatus.addressInvalid ≠ AaStatus.success := by decide
    exact iff_of_false hinvalid fun h => haddress h.2.1

lemma step_write (hwrite : WritePacket cfg pkt) (hcfg : cfg.firmwareUpgradeEnabled = true)
    (haddress : st.aaNextWriteAddress = tlvAddress pkt) :
    ∃ m, st.step cfg (.packet env pkt srcAddr numPktBytes) =
        { (writeUpgradeData env st pkt (tlvLength pkt)).1 with buf := m } ∧
      pagesOf cfg st (.packet env pkt srcAddr numPktBytes) =
        (AaLoop.run env pkt 34 (tlvLength pkt) (st.loopStart (tlvLength pkt))).pages := by
  obtain ⟨m, hevent⟩ := aecpEvent_write env st srcAddr numPktBytes hwrite hcfg
  have houtcome : writeOutcome env st pkt = writeUpgradeData env st pkt (tlvLength pkt) :=
    if_neg (not_not_intro haddress)
  refine ⟨m, ?_, ?_⟩
  · show (aecpEvent cfg st _).1 = _
    rw [hevent, houtcome]
  · show imagePages (aecpEvent cfg st _).2 = _
    rw [hevent, houtcome]
    rw [append_assoc, imagePages_append, writeUpgradeData_eq, imagePages_map]
    exact append_nil _

end

structure Uploaded (st : AecpState) (pages : List (List UInt8)) (data : List UInt8) : Prop where
  data : pages.flatten ++ st.flashPageBuf.load 0 st.aaBytesCopied = data
  address : (st.aaFlashWriteAddr + st.aaBytesCopied) % 2 ^ 32 = st.aaNextWriteAddress
  short : st.aaBytesCopied < flashPageSize
  pages : ∀ p ∈ pages, p.length = flashPageSize

section

variable {cfg : AecpConfig} {st : AecpState} {pages : List (List UInt8)} {data : List UInt8}
variable {env : AecpEnv} {pkt : Mem} {srcAddr : Vector UInt8 6} {numPktBytes : ℕ}

/-- **Step.**  A write that is answered with success takes its data exactly if it fills a
page. -/
theorem uploaded_write (h : Uploaded st pages data) (hwrite : WritePacket cfg pkt)
    (hanswer : Answered cfg AaStatus.success st (.packet env pkt srcAddr numPktBytes))
    (hfull : flashPageSize ≤ st.aaBytesCopied + tlvLength pkt) :
    Uploaded (st.step cfg (.packet env pkt srcAddr numPktBytes))
        (pages ++ pagesOf cfg st (.packet env pkt srcAddr numPktBytes)) (data ++ tlvData pkt) ∧
      ∀ p ∈ tlvReads cfg st (.packet env pkt srcAddr numPktBytes), p.1.1 + p.1.2 ≤ p.2 := by
  obtain ⟨hcfg, haddress, hstatus⟩ :=
    (answered_write_iff env st srcAddr numPktBytes hwrite).mp hanswer
  obtain ⟨m, hstep, hpages⟩ := step_write env st srcAddr numPktBytes hwrite hcfg haddress
  obtain ⟨htakes, hshort, hreads⟩ := AaLoop.run_takes (s := st.loopStart (tlvLength pkt)) rfl
    h.short rfl hfull (tlvLength_le pkt) hstatus
  rw [hstep, hpages]
  refine ⟨⟨?_, ?_, hshort, ?_⟩, ?_⟩
  · rw [List.flatten_append, append_assoc, ← h.data, append_assoc]
    exact congrArg (pages.flatten ++ ·) htakes.data
  · have hmoved := htakes.address
    rw [Mem.length_load] at hmoved
    refine hmoved.trans ?_
    show (st.aaFlashWriteAddr + st.aaBytesCopied + tlvLength pkt) % 2 ^ 32 =
      (st.aaNextWriteAddress + tlvLength pkt) % 2 ^ 32
    rw [← Nat.mod_add_mod, h.address]
  · intro p hp
    rcases List.mem_append.mp hp with hp | hp
    · exact h.pages p hp
    · exact htakes.pages (by intro q hq; cases hq) p hp
  · intro p hp
    rw [tlvReads, if_pos ⟨hcfg, hwrite, haddress⟩] at hp
    obtain ⟨q, hq, rfl⟩ := List.mem_map.mp hp
    exact hreads q hq

lemma read_behind_write (hshort : st.aaBytesCopied < flashPageSize) (hwrite : WritePacket cfg pkt)
    (hanswer : Answered cfg AaStatus.success st (.packet env pkt srcAddr numPktBytes))
    (hreads : ∀ p ∈ tlvReads cfg st (.packet env pkt srcAddr numPktBytes), p.1.1 + p.1.2 ≤ p.2) :
    flashPageSize ≤ st.aaBytesCopied + tlvLength pkt := by
  obtain ⟨hcfg, haddress, -⟩ := (answered_write_iff env st srcAddr numPktBytes hwrite).mp hanswer
  by_contra hpart
  refine AaLoop.read_behind (s := st.loopStart (tlvLength pkt)) env pkt 34 rfl hshort
    (Nat.lt_of_not_le hpart) ?_
  intro p hp
  refine hreads (p, tlvLength pkt) ?_
  rw [tlvReads, if_pos ⟨hcfg, hwrite, haddress⟩]
  exact List.mem_map_of_mem hp

end

/-! ## Runs of writes -/

def WriteSucceeds : Prop :=
  e.IsWrite cfg ∧ Answered cfg AaStatus.success st e
  deriving Decidable

def FillsPage : Prop :=
  flashPageSize ≤ st.aaBytesCopied + (e.uploadData cfg).length
  deriving Decidable

structure LeavesUpload (cfg : AecpConfig) (st : AecpState) (e : AecpEvent) : Prop where
  data : e.uploadData cfg = []
  pages : pagesOf cfg st e = []
  reads : tlvReads cfg st e = []
  bytesCopied : (st.step cfg e).aaBytesCopied = st.aaBytesCopied
  flashWriteAddr : (st.step cfg e).aaFlashWriteAddr = st.aaFlashWriteAddr
  nextWriteAddress : (st.step cfg e).aaNextWriteAddress = st.aaNextWriteAddress
  flashPageBuf : (st.step cfg e).flashPageBuf = st.flashPageBuf

def pagesAlong : AecpState → List AecpEvent → List (List UInt8) :=
  Run.outputs (AecpState.step cfg) (pagesOf cfg)

def readsAlong : AecpState → List AecpEvent → List ((ℕ × ℕ) × ℕ) :=
  Run.outputs (AecpState.step cfg) (tlvReads cfg)

def dataAlong (es : List AecpEvent) : List UInt8 :=
  es.flatMap (AecpEvent.uploadData cfg)

def ReadsData (reads : List ((ℕ × ℕ) × ℕ)) : Prop := ∀ p ∈ reads, p.1.1 + p.1.2 ≤ p.2

instance (reads : List ((ℕ × ℕ) × ℕ)) : Decidable (ReadsData reads) :=
  inferInstanceAs (Decidable (∀ p ∈ _, _))

section

variable {cfg : AecpConfig} {st : AecpState} {e : AecpEvent} {es : List AecpEvent}
  {pages : List (List UInt8)} {data : List UInt8}

lemma uploadData_write {env : AecpEnv} {pkt : Mem} {srcAddr : Vector UInt8 6} {numPktBytes : ℕ}
    (h : WritePacket cfg pkt) :
    (AecpEvent.packet env pkt srcAddr numPktBytes).uploadData cfg = tlvData pkt :=
  if_pos h

lemma Uploaded.leavesUpload (h : Uploaded st pages data) (he : LeavesUpload cfg st e) :
    Uploaded (st.step cfg e) pages data where
  data := by rw [he.flashPageBuf, he.bytesCopied]; exact h.data
  address := by rw [he.flashWriteAddr, he.bytesCopied, he.nextWriteAddress]; exact h.address
  short := by rw [he.bytesCopied]; exact h.short
  pages := h.pages

lemma uploaded_step (h : Uploaded st pages data)
    (he : WriteSucceeds cfg st e ∧ FillsPage cfg st e ∨ LeavesUpload cfg st e) :
    Uploaded (st.step cfg e) (pages ++ pagesOf cfg st e) (data ++ e.uploadData cfg) ∧
      ReadsData (tlvReads cfg st e) := by
  rcases he with ⟨⟨hwrite, hanswer⟩, hfull⟩ | hleaves
  · cases e with
    | periodic env => exact hwrite.elim
    | packet env pkt srcAddr numPktBytes =>
      unfold FillsPage at hfull
      rw [uploadData_write hwrite, tlvData, Mem.length_load] at hfull
      rw [uploadData_write hwrite]
      exact uploaded_write h hwrite hanswer hfull
  · rw [hleaves.data, hleaves.pages, hleaves.reads, append_nil, append_nil]
    exact ⟨h.leavesUpload hleaves, fun p hp => nomatch hp⟩

/-- **Run.**  Writes that fill pages take their data, whatever else leaves the upload
alone between them. -/
theorem uploaded_run (h : Uploaded st pages data) (hes : Run.Guarded (AecpState.step cfg)
      (fun st e => WriteSucceeds cfg st e ∧ FillsPage cfg st e ∨ LeavesUpload cfg st e) st es) :
    Uploaded (Run.runFrom (AecpState.step cfg) st es) (pages ++ pagesAlong cfg st es)
        (data ++ dataAlong cfg es) ∧ ReadsData (readsAlong cfg st es) := by
  induction es generalizing st pages data with
  | nil =>
    show Uploaded st (pages ++ []) (data ++ []) ∧ ReadsData []
    rw [append_nil, append_nil]
    exact ⟨h, fun p hp => nomatch hp⟩
  | cons e es ih =>
    obtain ⟨he, hes⟩ := hes
    obtain ⟨hstep, hreads⟩ := uploaded_step h he
    obtain ⟨hrun, hrest⟩ := ih hstep hes
    rw [append_assoc, append_assoc] at hrun
    exact ⟨hrun, fun p hp => (List.mem_append.mp hp).elim (hreads p) (hrest p)⟩

lemma fillsPage_of_readsData (hshort : st.aaBytesCopied < flashPageSize)
    (he : WriteSucceeds cfg st e) (hreads : ReadsData (tlvReads cfg st e)) :
    FillsPage cfg st e := by
  obtain ⟨hwrite, hanswer⟩ := he
  cases e with
  | periodic env => exact hwrite.elim
  | packet env pkt srcAddr numPktBytes =>
    unfold FillsPage
    rw [uploadData_write hwrite, tlvData, Mem.length_load]
    exact read_behind_write hshort hwrite hanswer hreads

lemma guarded_fillsPage (h : Uploaded st pages data)
    (hes : Run.Guarded (AecpState.step cfg) (WriteSucceeds cfg) st es)
    (hreads : ReadsData (readsAlong cfg st es)) :
    Run.Guarded (AecpState.step cfg) (FillsPage cfg) st es := by
  induction es generalizing st pages data with
  | nil => trivial
  | cons e es ih =>
    obtain ⟨he, hes⟩ := hes
    have hfull : FillsPage cfg st e := fillsPage_of_readsData h.short he fun p hp =>
      hreads p (List.mem_append_left _ hp)
    exact ⟨hfull, ih (uploaded_step h (Or.inl ⟨he, hfull⟩)).1 hes fun p hp =>
      hreads p (List.mem_append_right _ hp)⟩

end

structure AecpState.UploadIdle (st : AecpState) : Prop where
  bytesCopied : st.aaBytesCopied = 0
  flashWriteAddr : st.aaFlashWriteAddr = 0
  nextWriteAddress : st.aaNextWriteAddress = 0

lemma AecpState.UploadIdle.uploaded {st : AecpState} (h : st.UploadIdle) : Uploaded st [] [] where
  data := by rw [h.bytesCopied]; rfl
  address := by rw [h.bytesCopied, h.flashWriteAddr, h.nextWriteAddress]; rfl
  short := by rw [h.bytesCopied]; decide
  pages := fun p hp => nomatch hp

/-- **Page reassembly.**  From empty counters, the pages and the buffer hold the data of the
writes, the flash address keeps up with the next address and only data is read, exactly if
every write fills a page together with what is in the buffer. -/
theorem pages_reassembled_iff (cfg : AecpConfig) (st : AecpState) (es : List AecpEvent)
    (hst : st.UploadIdle) (hes : Run.Guarded (AecpState.step cfg) (WriteSucceeds cfg) st es) :
    (Uploaded (Run.runFrom (AecpState.step cfg) st es) (pagesAlong cfg st es) (dataAlong cfg es) ∧
        ReadsData (readsAlong cfg st es)) ↔
      Run.Guarded (AecpState.step cfg) (FillsPage cfg) st es := by
  constructor
  · rintro ⟨-, hreads⟩
    exact guarded_fillsPage hst.uploaded hes hreads
  · intro hfull
    exact uploaded_run hst.uploaded
      (Run.guarded_mono (fun _ _ => Or.inl) (Run.guarded_and hes hfull))

def upgradeBuild : AecpConfig := { plainBuild with firmwareUpgradeEnabled := true }

def flashEnv : AecpEnv :=
  { quietEnv with factoryImage := true, imageFails := false, pageWriteFails := fun _ => false }

def uploadStarted : AecpState := { aecpCold with writeOffset := 0 }

def writePacket (address length : ℕ) (value : UInt8) : Mem := fun a =>
  if 34 ≤ a ∧ a < 34 + length then value
  else ([0xfb, 2, 0, 0, 0, 0, 0, 0, 0, 0, 0, 1, 0, 0, 0, 0, 0, 0, 0, 0, 0, 0, 0, 1,
    UInt8.ofNat (16 + length / 256), UInt8.ofNat length] ++ List.replicate 4 0 ++
    beBytes 4 address).getD a 0

def writeComes (address length : ℕ) (value : UInt8) : AecpEvent :=
  .packet flashEnv (writePacket address length value) (Vector.replicate 6 0) (34 + length)

theorem pages_reassembled_300_300 :
    Uploaded (Run.runFrom (AecpState.step upgradeBuild) uploadStarted
          [writeComes 0 300 7, writeComes 300 300 8])
        (pagesAlong upgradeBuild uploadStarted [writeComes 0 300 7, writeComes 300 300 8])
        (dataAlong upgradeBuild [writeComes 0 300 7, writeComes 300 300 8]) ∧
      ReadsData (readsAlong upgradeBuild uploadStarted
        [writeComes 0 300 7, writeComes 300 300 8]) :=
  (pages_reassembled_iff upgradeBuild uploadStarted [writeComes 0 300 7, writeComes 300 300 8]
    ⟨rfl, rfl, rfl⟩ (by decide +kernel)).mpr (by decide +kernel)

/-- A write of 100 bytes into the empty buffer is answered with success, and its page is
filled with bytes behind the data. -/
theorem page_filled_behind_data : uploadStarted.UploadIdle ∧
      Run.Guarded (AecpState.step upgradeBuild) (WriteSucceeds upgradeBuild) uploadStarted
        [writeComes 0 100 7] ∧
      pagesAlong upgradeBuild uploadStarted [writeComes 0 100 7] =
        [List.replicate 100 7 ++ List.replicate 156 0] ∧
      ¬ Uploaded (Run.runFrom (AecpState.step upgradeBuild) uploadStarted [writeComes 0 100 7])
        (pagesAlong upgradeBuild uploadStarted [writeComes 0 100 7])
        (dataAlong upgradeBuild [writeComes 0 100 7]) ∧
      ¬ ReadsData (readsAlong upgradeBuild uploadStarted [writeComes 0 100 7]) :=
  ⟨⟨rfl, rfl, rfl⟩, by decide +kernel, by decide +kernel,
    fun h => absurd (congrArg List.length h.data) (by decide +kernel), by decide +kernel⟩
