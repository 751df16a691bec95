/-
# Frames of the AECP entity

What the device sends is the content of its transmit buffer at each call of
`eth_send_packet`.  Every frame starts with a header that the device makes
(`StartsWith`), from which the message type and the status are read back.
-/
import LibTsn.AecpBounds

/-- The frames handed to the Ethernet: the buffer at each `eth_send_packet`. -/
def sentFrames (buf : Mem) : List AecpAct → List Mem
  | [] => []
  | .store a bs :: acts => sentFrames (buf.store a bs) acts
  | .send _ :: acts => buf :: sentFrames buf acts
  | _ :: acts => sentFrames buf acts

def sentPacket (m : Mem) : Mem := fun x => m (ethernetHdrSize + x)

def status1722 (pkt : Mem) : ℕ := (pkt 2).toNat / 8

section

lemma sentFrames_append (buf : Mem) (as bs : List AecpAct) :
    sentFrames buf (as ++ bs) = sentFrames buf as ++ sentFrames (playStores buf as) bs := by
  induction as generalizing buf with
  | nil => rfl
  | cons a as ih =>
    cases a with
    | store offset bytes => exact ih (buf.store offset bytes)
    | send len => exact congrArg (buf :: ·) (ih buf)
    | _ => exact ih buf

lemma load_framePacket (m : Mem) (a n : ℕ) :
    (sentPacket m).load a n = m.load (ethernetHdrSize + a) n := by
  unfold Mem.load sentPacket
  refine List.map_congr_left fun i _ => ?_
  rw [Nat.add_assoc]

lemma guidField_framePacket (m : Mem) (a : ℕ) :
    guidField (sentPacket m) a = beNat (m.load (ethernetHdrSize + a) 8) := by
  unfold guidField
  rw [load_framePacket]

lemma load_store_part (m : Mem) {a k n : ℕ} {bs : List UInt8} (h : k + n ≤ bs.length) :
    (m.store a bs).load (a + k) n = (bs.drop k).take n :=
  Mem.Holds.load_part (m.load_store_same a bs) h

lemma take_drop_load (m : Mem) (a : ℕ) {k n j : ℕ} :
    ((m.load a (k + (n + j))).drop k).take n = m.load (a + k) n := by
  rw [Mem.drop_load, Mem.load_add, List.take_left' (Mem.length_load m (a + k) n)]

lemma getD_header1722 (cfg : AecpConfig) (dest : Vector UInt8 6) (subtype messageType : ℕ)
    (status : UInt8) (dataLen k : ℕ) :
    (header1722 cfg dest subtype messageType status dataLen).getD (12 + k) 0 =
      ([0x22, 0xf0, UInt8.ofNat (0x80 + subtype), UInt8.ofNat messageType,
        UInt8.ofNat (status.toNat * 8) ||| UInt8.ofNat (dataLen / 256),
        UInt8.ofNat dataLen] : List UInt8).getD k 0 := by
  have hlength : (dest.toList ++ cfg.myMacAddr.toList).length = 12 := by simp
  unfold header1722
  rw [List.getD_append_right _ _ _ _ (by omega), hlength, Nat.add_sub_cancel_left]

lemma status_read_back {status : UInt8} {dataLen : ℕ} (hstatus : status.toNat < 32)
    (hlen : dataLen / 256 % 256 < 8) :
    (UInt8.ofNat (status.toNat * 8) ||| UInt8.ofNat (dataLen / 256)).toNat / 8 = status.toNat := by
  have hhigh : (UInt8.ofNat (status.toNat * 8)).toNat = status.toNat * 8 := by
    rw [UInt8.toNat_ofNat']
    omega
  have hlow : (UInt8.ofNat (dataLen / 256)).toNat = dataLen / 256 % 256 := UInt8.toNat_ofNat'
  rw [UInt8.toNat_or, hhigh, hlow]
  have hdiv := Nat.or_div_two_pow (a := status.toNat * 8) (b := dataLen / 256 % 256) (n := 3)
  rw [show (2 : ℕ) ^ 3 = 8 from rfl] at hdiv
  rw [hdiv, Nat.mul_div_cancel _ (by decide), Nat.div_eq_of_lt hlen, Nat.or_zero]

end

/-- The frame goes to `dest` and starts with a header of that type, status and length. -/
structure StartsWith (m : Mem) (dest : Vector UInt8 6) (messageType : ℕ) (status : UInt8)
    (dataLen : ℕ) : Prop where
  dest : m.load 0 6 = dest.toList
  messageType : m 15 = UInt8.ofNat messageType
  status : m 16 = UInt8.ofNat (status.toNat * 8) ||| UInt8.ofNat (dataLen / 256)

lemma startsWith_store_header (cfg : AecpConfig) (m : Mem) (dest : Vector UInt8 6)
    (subtype messageType : ℕ) (status : UInt8) (dataLen : ℕ) :
    StartsWith (m.store 0 (header1722 cfg dest subtype messageType status dataLen)) dest
      messageType status dataLen := by
  have hbyte : ∀ k, k < 6 → m.store 0 (header1722 cfg dest subtype messageType status dataLen)
      (12 + k) = (header1722 cfg dest subtype messageType status dataLen).getD (12 + k) 0 := by
    intro k hk
    have hlt : 12 + k < (header1722 cfg dest subtype messageType status dataLen).length := by
      rw [length_header1722]
      omega
    have hstore := m.store_apply_add 0 _ hlt
    rwa [Nat.zero_add] at hstore
  constructor
  · refine (load_store_part m (k := 0) ?_).trans ?_
    · rw [length_header1722]
      decide
    · rw [List.drop_zero, header1722, List.append_assoc, List.take_left' (by simp)]
  · exact (hbyte 3 (by decide)).trans (getD_header1722 cfg dest subtype messageType status _ 3)
  · exact (hbyte 4 (by decide)).trans (getD_header1722 cfg dest subtype messageType status _ 4)

section

variable {m : Mem} {dest : Vector UInt8 6} {messageType dataLen : ℕ} {status : UInt8}

lemma StartsWith.store (h : StartsWith m dest messageType status dataLen) {a : ℕ} (ha : 18 ≤ a)
    (bs : List UInt8) : StartsWith (m.store a bs) dest messageType status dataLen := by
  constructor
  · rw [Mem.load_store_disjoint _ _ (by left; omega)]
    exact h.dest
  · rw [m.store_apply_of_lt bs (by omega)]
    exact h.messageType
  · rw [m.store_apply_of_lt bs (by omega)]
    exact h.status

lemma status_of_startsWith (h : StartsWith m dest messageType status dataLen)
    (hstatus : status.toNat < 32)
    (hlen : dataLen / 256 % 256 < 8) : status1722 (sentPacket m) = status.toNat := by
  show (m 16).toNat / 8 = status.toNat
  rw [h.status]
  exact status_read_back hstatus hlen

lemma frame_aemResponse (cfg : AecpConfig) (buf : Mem) (srcAddr : Vector UInt8 6)
    (status : UInt8) (n : ℕ) (pkt : Mem) :
    StartsWith (playStores buf (createAecpAemResponse cfg srcAddr status n pkt)) srcAddr 1 status
        (n + 12) ∧
      guidField (sentPacket (playStores buf (createAecpAemResponse cfg srcAddr status n pkt))) 12 =
        guidField pkt 12 ∧
      ∀ k, k < n + 2 →
        sentPacket (playStores buf (createAecpAemResponse cfg srcAddr status n pkt)) (22 + k) =
          pkt (22 + k) := by
  set hdr := buf.store 0 (header1722 cfg srcAddr aecpSubtype (0 + 1) status (n + 12)) with hhdr
  have hplay : playStores buf (createAecpAemResponse cfg srcAddr status n pkt) =
      (hdr.store 18 (pkt.load 4 18)).store 36 (pkt.load 22 (n + 2)) := rfl
  rw [hplay]
  refine ⟨?_, ?_, ?_⟩
  · exact ((startsWith_store_header cfg buf srcAddr aecpSubtype 1 status (n + 12)).store
      (by decide) _).store (by decide) _
  · rw [guidField_framePacket, Mem.load_store_disjoint _ _ (by left; decide)]
    show beNat ((hdr.store 18 (pkt.load 4 18)).load (18 + 8) 8) = _
    rw [load_store_part hdr (by rw [Mem.length_load]; decide)]
    exact congrArg beNat (take_drop_load pkt 4 (j := 2))
  · intro k hk
    have hlt : k < (pkt.load 22 (n + 2)).length := by rwa [Mem.length_load]
    show (hdr.store 18 (pkt.load 4 18)).store 36 (pkt.load 22 (n + 2)) (14 + (22 + k)) = _
    rw [← Nat.add_assoc, Mem.store_apply_add _ 36 _ hlt, List.getD_eq_getElem _ _ hlt]
    simp [Mem.load]

end
