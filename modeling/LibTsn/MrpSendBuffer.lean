/-
# The send buffer

Every write that `avb_mrp.c` makes into `send_buf` while it builds and sends packets,
with its place in the buffer.  A packet is sent once it is too full for another
message, but the size that is allowed for is that of an empty Talker Advertise
message, and the test is made only after a message has been added:
-/
import LibTsn.MsrpEncode

open List (length_cons length_append length_drop append_assoc cons_append nil_append length_nil)

/-! ## Writes -/

structure BufferWrite where
  start : ℕ
  stop : ℕ
  deriving DecidableEq

def BufferWrite.Within (limit : ℕ) (w : BufferWrite) : Prop := w.start < w.stop → w.stop ≤ limit
  deriving Decidable

/-! In what follows `base` is the offset of a message in the buffer, and `msg` the packet from
there up to `send_ptr`. -/

variable (base : ℕ) (msg : List UInt8) (attr : MrpAttributeType)

def openVectorByteWrites (a : ℕ) : List BufferWrite :=
  [⟨base + a + 1, base + msg.length + 1⟩, ⟨base + a, base + a + 1⟩, ⟨base + 2, base + 4⟩,
    ⟨base + 4 + (attributeListLength msg + 1) - 2, base + 4 + (attributeListLength msg + 1)⟩]

def encodePackedEventWrites (per base : ℕ) (msg : List UInt8) (vector : ℕ) : List BufferWrite :=
  (if numberOfValuesLow msg % per = 0 then openVectorByteWrites base msg vector else [])
    ++ [⟨base + vector, base + vector + 1⟩]

/-- The writes of `mrp_encode_three_packed_event`. -/
def mrpEncodeThreePackedEventWrites : List BufferWrite :=
  encodePackedEventWrites 3 base msg (6 + firstValueLength attr + numberOfValuesLow msg / 3)

/-- The writes of `mrp_encode_four_packed_event`. -/
def mrpEncodeFourPackedEventWrites : List BufferWrite :=
  encodePackedEventWrites 4 base msg
    (6 + firstValueLength attr + (numberOfValuesLow msg + 3) / 3 + numberOfValuesLow msg / 4)

variable (src : Vector UInt8 6) (tx : MrpTx) (type : MrpAttributeType) (dom : SrpDomain)

/-- The writes of `encode_msg`: the first value, the packed events and the number of values. -/
def encodeMsgWrites (base : ℕ) (msg : List UInt8) (d : MrpDeclaration) (event : ℕ) :
    List BufferWrite :=
  if takes msg d then
    let first := withFirstValue dom msg d
    let three := mrpEncodeThreePackedEvent first event d.type
    (if numberOfValuesLow msg = 0 then [⟨base + 6, base + 6 + firstValueLength d.type⟩] else [])
      ++ mrpEncodeThreePackedEventWrites base first d.type
      ++ (if d.type = .listener then mrpEncodeFourPackedEventWrites base three d.type else [])
      ++ [⟨base + 5, base + 6⟩]
  else []

lemma mem_encodeMsgWrites {dom : SrpDomain} {base : ℕ} {msg : List UInt8} {d : MrpDeclaration}
    {event : ℕ} {w : BufferWrite} (h : w ∈ encodeMsgWrites dom base msg d event) :
    numberOfValuesLow msg = 0 ∧ w = ⟨base + 6, base + 6 + firstValueLength d.type⟩ ∨
    w ∈ mrpEncodeThreePackedEventWrites base (withFirstValue dom msg d) d.type ∨
    d.type = .listener ∧ w ∈ mrpEncodeFourPackedEventWrites base
      (mrpEncodeThreePackedEvent (withFirstValue dom msg d) event d.type) d.type ∨
    w = ⟨base + 5, base + 6⟩ := by
  unfold encodeMsgWrites at h
  split_ifs at h <;> simp_all

/-- The write of `create_empty_msg` at `send_ptr`. -/
def createEmptyMsgWrite (sendPtr : ℕ) (attr : MrpAttributeType) : BufferWrite :=
  ⟨sendPtr, sendPtr + (8 + firstValueLength attr)⟩

def txWalkWrites (dom : SrpDomain) (d : MrpDeclaration) (event : ℕ) :
    ℕ → ℕ → List UInt8 → List BufferWrite
  | 0, _, _ => []
  | fuel + 1, base, msg =>
    if msg ≠ [] ∧ (byteAt msg 0 ≠ 0 ∨ byteAt msg 1 ≠ 0) then
      match encodeMsg dom msg d event with
      | some _ => encodeMsgWrites dom base msg d event
      | none =>
        txWalkWrites dom d event fuel (base + (4 + attributeListLength msg))
          (msg.drop (4 + attributeListLength msg))
    else []

def txBuildWrites (buf : List UInt8) (d : MrpDeclaration) (event : ℕ) : List BufferWrite :=
  let w := txWalk dom d event buf.length [] buf
  txWalkWrites dom d event buf.length mrpHeaderSize buf
    ++ if w.2.2 then []
      else createEmptyMsgWrite (mrpHeaderSize + buf.length) d.type ::
        encodeMsgWrites dom (mrpHeaderSize + w.1.length)
          (w.2.1 ++ createEmptyMsg d.type false) d event

/-- The writes of `strip_attribute_list_length_fields`. -/
def stripLengthsWrites : ℕ → ℕ → ℕ → List UInt8 → List BufferWrite
  | 0, _, _, _ => []
  | fuel + 1, msg, stop, buf =>
    if msg < stop ∧ (byteAt buf msg ≠ 0 ∨ byteAt buf (msg + 1) ≠ 0) then
      ⟨mrpHeaderSize + (msg + 2), mrpHeaderSize + (stop - 2)⟩ ::
        stripLengthsWrites fuel (msg + 4 + attributeListLength (buf.drop msg) - 2) (stop - 2)
          (deleteTwo buf (msg + 2) stop)
    else []

/-- The writes of `force_send`: the padding stands behind the packet as it was before the
lengths were taken out. -/
def forceSendWrites : List BufferWrite :=
  if tx.buf = [] then []
  else
    (match tx.etype with
      | .srp => []
      | .mvrp => stripLengthsWrites tx.buf.length 0 tx.buf.length tx.buf)
    ++ [⟨mrpHeaderSize + tx.buf.length, max (mrpHeaderSize + tx.buf.length + 4) 64⟩]

def mrpSendWrites : List BufferWrite :=
  if mrpSendBufferSize < mrpHeaderSize + tx.buf.length + maxMrpMsgSize + 2 then forceSendWrites tx
  else []

/-! ## Calls -/

def MrpAttributeType.OfProtocol (type : MrpAttributeType) : MrpEthertype → Prop
  | .srp => type.IsMsrp
  | .mvrp => type = .vidVector

instance (type : MrpAttributeType) (etype : MrpEthertype) : Decidable (type.OfProtocol etype) :=
  match etype with
  | .srp => inferInstanceAs (Decidable type.IsMsrp)
  | .mvrp => inferInstanceAs (Decidable (type = .vidVector))

/-- What `mrp_periodic` calls to build the packets of a protocol. -/
inductive MrpCall (etype : MrpEthertype) where
  /-- `create_empty_msg` of a LeaveAll, and `send`. -/
  | leaveAll (type : MrpAttributeType) (h : type.OfProtocol etype)
  | declare (dom : SrpDomain) (d : MrpDeclaration) (event : MrpAttributeEvent)
      (h : d.type.OfProtocol etype)
  | forceSend

def txCall (src : Vector UInt8 6) {etype : MrpEthertype} (tx : MrpTx) : MrpCall etype → MrpTx
  | .leaveAll type _ => txLeaveAll src type tx
  | .declare dom d event _ => txDeclaration src dom d event.code tx
  | .forceSend => forceSend src tx

def txCallWrites {etype : MrpEthertype} (tx : MrpTx) : MrpCall etype → List BufferWrite
  | .leaveAll type _ =>
    createEmptyMsgWrite (mrpHeaderSize + tx.buf.length) type ::
      mrpSendWrites { tx with buf := tx.buf ++ createEmptyMsg type true }
  | .declare dom d event _ =>
    txBuildWrites dom tx.buf d event.code
      ++ mrpSendWrites { tx with buf := txBuild dom tx.buf d event.code }
  | .forceSend => forceSendWrites tx

/-! ## Messages of which only the length matters -/

def vectorSize (type : MrpAttributeType) (n : ℕ) : ℕ :=
  firstValueLength type + (n + 2) / 3 + if type = .listener then (n + 3) / 4 else 0

def rawBytes (type : MrpAttributeType) (high count : UInt8) (content rest : List UInt8) :
    List UInt8 :=
  messageBytes (UInt8.ofNat (encodeAttrType type)) (UInt8.ofNat (firstValueLength type))
    (content.length + 4) high count (content ++ 0 :: 0 :: rest)

section

variable (type : MrpAttributeType) (high count : UInt8) (content rest : List UInt8)

lemma length_rawBytes :
    (rawBytes type high count content rest).length = content.length + 8 + rest.length := by
  simp only [rawBytes, messageBytes, length_cons, length_append]
  omega

lemma numberOfValuesLow_rawBytes :
    numberOfValuesLow (rawBytes type high count content rest) = count.toNat := rfl

lemma byteAt_zero_rawBytes :
    byteAt (rawBytes type high count content rest) 0 = encodeAttrType type := by
  cases type <;> rfl

lemma attributeListLength_rawBytes (h : content.length + 4 < 65536) :
    attributeListLength (rawBytes type high count content rest) = content.length + 4 :=
  attributeListLength_message _ _ _ _ _ _ h

/-- **A packed event** takes a byte more, or none, and leaves the rest of the packet alone. -/
theorem encodePackedEvent_rawBytes (b k p e : ℕ)
    (hp : p + (if count.toNat % k = 0 then 0 else 1) ≤ content.length)
    (hshort : content.length + 5 < 65536) : ∃ content' : List UInt8,
      content'.length = content.length + (if count.toNat % k = 0 then 1 else 0) ∧
      encodePackedEvent b k (rawBytes type high count content rest) (6 + p) e
        = rawBytes type high count content' rest := by
  have hsplit := List.take_append_drop p content
  have htake : (content.take p).length = p := List.length_take_of_le (by omega)
  rw [encodePackedEvent, numberOfValuesLow_rawBytes]
  unfold rawBytes
  by_cases hfull : count.toNat % k = 0
  · rw [if_pos hfull] at hp ⊢
    rw [if_pos hfull]
    -- a byte is opened between the two parts of the content
    refine ⟨content.take p ++ UInt8.ofNat (0 + e * b ^ (k - 1 - count.toNat % k)) :: content.drop p,
      ?_, ?_⟩
    · rw [length_append, length_cons, htake, length_drop]
      omega
    · have hopen := openVectorByte_message (UInt8.ofNat (encodeAttrType type))
        (UInt8.ofNat (firstValueLength type)) high count (content.length + 4) (content.take p)
        (content.drop p) rest (by rw [htake, length_drop]; omega) (by omega)
      have hadd := addToByte_message (UInt8.ofNat (encodeAttrType type))
        (UInt8.ofNat (firstValueLength type)) high count (content.length + 4 + 1)
        (e * b ^ (k - 1 - count.toNat % k)) (content.take p) (content.drop p ++ 0 :: 0 :: rest) 0
      rw [hsplit, htake, append_assoc, cons_append] at hopen
      rw [htake] at hadd
      rw [hopen, hadd, length_append, length_cons, htake, length_drop]
      congr 1
      · omega
      · rw [append_assoc, cons_append]
        rfl
  · rw [if_neg hfull] at hp ⊢
    rw [if_neg hfull]
    -- the byte is there
    have hcons : content.drop p = content[p] :: content.drop (p + 1) :=
      List.drop_eq_getElem_cons (by omega)
    refine ⟨content.take p ++ UInt8.ofNat (content[p].toNat + e * b ^ (k - 1 - count.toNat % k)) ::
      content.drop (p + 1), ?_, ?_⟩
    · rw [length_append, length_cons, htake, length_drop]
      omega
    · have hadd := addToByte_message (UInt8.ofNat (encodeAttrType type))
        (UInt8.ofNat (firstValueLength type)) high count (content.length + 4)
        (e * b ^ (k - 1 - count.toNat % k)) (content.take p)
        (content.drop (p + 1) ++ 0 :: 0 :: rest) content[p]
      rw [← cons_append, ← hcons, ← append_assoc, hsplit, htake] at hadd
      rw [hadd, length_append, length_cons, htake, length_drop]
      congr 1
      · omega
      · rw [append_assoc, cons_append]

lemma encodePackedEventWrites_rawBytes (k base p : ℕ)
    (hp : p + (if count.toNat % k = 0 then 0 else 1) ≤ content.length)
    (hshort : content.length + 5 < 65536) :
    ∀ w ∈ encodePackedEventWrites k base (rawBytes type high count content rest) (6 + p),
      w.stop ≤ base + (content.length + (if count.toNat % k = 0 then 1 else 0)) +
        8 + rest.length := by
  intro w hw
  rw [encodePackedEventWrites, numberOfValuesLow_rawBytes] at hw
  rcases List.mem_append.mp hw with hw | hw
  · split_ifs at hw hp ⊢
    · rw [openVectorByteWrites, length_rawBytes,
        attributeListLength_rawBytes _ _ _ _ _ (by omega)] at hw
      simp only [List.mem_cons, List.not_mem_nil, or_false] at hw
      rcases hw with rfl | rfl | rfl | rfl <;> dsimp only <;> omega
    · cases hw
  · obtain rfl := List.mem_singleton.mp hw
    dsimp only
    split_ifs at hp ⊢ <;> omega

lemma withFirstValue_rawBytes (dom : SrpDomain) {d : MrpDeclaration}
    (hroom : firstValueLength d.type ≤ content.length) :
    ∃ content' : List UInt8, content'.length = content.length ∧
      withFirstValue dom (rawBytes type high count content rest) d
        = rawBytes type high count content' rest := by
  have hfirst := length_firstValueBytes dom d
  unfold withFirstValue
  split_ifs
  · refine ⟨firstValueBytes dom d ++ content.drop (firstValueLength d.type), ?_, ?_⟩
    · rw [length_append, hfirst, length_drop]
      omega
    · have hmiddle := overwrite_middle [] (content.take (firstValueLength d.type))
        (content.drop (firstValueLength d.type) ++ 0 :: 0 :: rest) (firstValueBytes dom d)
        (by rw [hfirst, List.length_take_of_le hroom])
      rw [nil_append, nil_append, ← append_assoc, List.take_append_drop,
        length_nil, ← append_assoc] at hmiddle
      rw [rawBytes, show 6 = 6 + 0 from rfl, overwrite_body_message, hmiddle, rawBytes,
        length_append, hfirst, length_drop, Nat.add_sub_cancel' hroom]
  · exact ⟨content, rfl, rfl⟩

lemma mrpEncodeThreePackedEvent_rawBytes (e base : ℕ)
    (hroom : firstValueLength type + (count.toNat + 2) / 3 ≤ content.length)
    (hshort : content.length + 5 < 65536) : ∃ content' : List UInt8,
      content'.length = content.length + (if count.toNat % 3 = 0 then 1 else 0) ∧
      mrpEncodeThreePackedEvent (rawBytes type high count content rest) e type
        = rawBytes type high count content' rest ∧
      ∀ w ∈ mrpEncodeThreePackedEventWrites base (rawBytes type high count content rest) type,
        w.stop ≤ base + content'.length + 8 + rest.length := by
  have hp : firstValueLength type + count.toNat / 3 + (if count.toNat % 3 = 0 then 0 else 1)
      ≤ content.length := by
    split_ifs <;> omega
  obtain ⟨content', hlen, hbytes⟩ :=
    encodePackedEvent_rawBytes type high count content rest 6 3 _ e hp hshort
  have hwrites := encodePackedEventWrites_rawBytes type high count content rest 3 base _ hp hshort
  rw [← Nat.add_assoc] at hbytes hwrites
  refine ⟨content', hlen, hbytes, ?_⟩
  rw [hlen]
  exact hwrites

lemma mrpEncodeFourPackedEvent_rawBytes (e base : ℕ)
    (hroom : firstValueLength type + (count.toNat + 3) / 3 + (count.toNat + 3) / 4 ≤ content.length)
    (hshort : content.length + 5 < 65536) : ∃ content' : List UInt8,
      content'.length = content.length + (if count.toNat % 4 = 0 then 1 else 0) ∧
      mrpEncodeFourPackedEvent (rawBytes type high count content rest) e type
        = rawBytes type high count content' rest ∧
      ∀ w ∈ mrpEncodeFourPackedEventWrites base (rawBytes type high count content rest) type,
        w.stop ≤ base + content'.length + 8 + rest.length := by
  have hp : firstValueLength type + (count.toNat + 3) / 3 + count.toNat / 4
      + (if count.toNat % 4 = 0 then 0 else 1) ≤ content.length := by
    split_ifs <;> omega
  obtain ⟨content', hlen, hbytes⟩ :=
    encodePackedEvent_rawBytes type high count content rest 4 4 _ e hp hshort
  have hwrites := encodePackedEventWrites_rawBytes type high count content rest 4 base _ hp hshort
  rw [← Nat.add_assoc, ← Nat.add_assoc] at hbytes hwrites
  refine ⟨content', hlen, hbytes, ?_⟩
  rw [hlen]
  exact hwrites

end

/-- **A message under construction.**  Between the vector header and the end mark there is room
for the values that it counts.  There may be more: the count is a byte and starts again at
zero. -/
structure RawMessage (etype : MrpEthertype) where
  type : MrpAttributeType
  ofProtocol : type.OfProtocol etype
  high : UInt8
  count : UInt8
  content : List UInt8
  room : vectorSize type count.toNat ≤ content.length

def growth (type : MrpAttributeType) (n : ℕ) : ℕ :=
  (if n % 3 = 0 then 1 else 0) + if type = .listener then (if n % 4 = 0 then 1 else 0) else 0

lemma vectorSize_succ (n : ℕ) : vectorSize type (n + 1) = vectorSize type n + growth type n := by
  have hthree : (n + 1 + 2) / 3 = (n + 2) / 3 + if n % 3 = 0 then 1 else 0 := by
    split_ifs <;> omega
  have hfour : (n + 1 + 3) / 4 = (n + 3) / 4 + if n % 4 = 0 then 1 else 0 := by
    split_ifs <;> omega
  unfold vectorSize growth
  rw [hthree, hfour]
  generalize (if n % 3 = 0 then 1 else 0) = three
  generalize (if n % 4 = 0 then 1 else 0) = four
  split_ifs <;> omega

lemma vectorSize_mono {n n' : ℕ} (h : n ≤ n') : vectorSize type n ≤ vectorSize type n' := by
  unfold vectorSize
  split_ifs <;> omega

namespace RawMessage

variable {etype : MrpEthertype}

def bytes (m : RawMessage etype) (rest : List UInt8) : List UInt8 :=
  rawBytes m.type m.high m.count m.content rest

def empty (type : MrpAttributeType) (h : type.OfProtocol etype) (leaveAll : Bool) :
    RawMessage etype where
  type := type
  ofProtocol := h
  high := if leaveAll then 0x20 else 0
  count := 0
  content := List.replicate (firstValueLength type) 0
  room := by
    rw [List.length_replicate]
    cases type <;> decide

lemma createEmptyMsg_eq_bytes (type : MrpAttributeType) (h : type.OfProtocol etype)
    (leaveAll : Bool) : createEmptyMsg type leaveAll = (empty type h leaveAll).bytes [] := by
  cases type <;> cases leaveAll <;> rfl

variable (m : RawMessage etype) (rest : List UInt8)

lemma length_bytes : (m.bytes rest).length = m.content.length + 8 + rest.length :=
  length_rawBytes _ _ _ _ _

lemma bytes_append : m.bytes rest = m.bytes [] ++ rest := by
  simp only [bytes, rawBytes, messageBytes, cons_append, append_assoc, nil_append]

lemma encodeValue_content (dom : SrpDomain) {d : MrpDeclaration} (htype : d.type = m.type)
    (event base : ℕ) (hshort : m.content.length + 6 < 65536) : ∃ content' : List UInt8,
      content'.length = m.content.length + growth m.type m.count.toNat ∧
      encodeValue dom (m.bytes rest) d event
        = rawBytes m.type m.high (UInt8.ofNat (m.count.toNat + 1)) content' rest ∧
      ∀ w ∈ encodeMsgWrites dom base (m.bytes rest) d event,
        w.stop ≤ base + content'.length + 8 + rest.length := by
  have hroom := m.room
  unfold vectorSize at hroom
  have hfits : firstValueLength d.type ≤ m.content.length := by
    rw [htype]
    omega
  obtain ⟨content₀, hlen₀, hfirst⟩ :=
    withFirstValue_rawBytes m.type m.high m.count m.content rest dom hfits
  obtain ⟨content₁, hlen₁, hthree, hwrites₁⟩ :=
    mrpEncodeThreePackedEvent_rawBytes m.type m.high m.count content₀ rest event base (by omega)
      (by omega)
  have hgrows : m.content.length ≤ content₁.length := by
    rw [hlen₁, hlen₀]
    exact Nat.le_add_right _ _
  -- all writes, when the writes of the last event are known
  have hall : ∀ k, m.content.length ≤ k → content₁.length ≤ k →
      (d.type = .listener → ∀ w ∈ mrpEncodeFourPackedEventWrites base
        (rawBytes m.type m.high m.count content₁ rest) m.type,
        w.stop ≤ base + k + 8 + rest.length) →
      ∀ w ∈ encodeMsgWrites dom base (m.bytes rest) d event,
        w.stop ≤ base + k + 8 + rest.length := by
    intro k hk hk₁ hlast w hw
    rcases mem_encodeMsgWrites hw with ⟨-, rfl⟩ | hw | ⟨hlistener, hw⟩ | rfl
    · dsimp only
      omega
    · rw [bytes, hfirst, htype] at hw
      have hw := hwrites₁ w hw
      omega
    · rw [bytes, hfirst, htype, hthree] at hw
      exact hlast hlistener w hw
    · dsimp only
      omega
  by_cases hlistener : m.type = .listener
  · rw [if_pos hlistener] at hroom
    have hthird : (m.count.toNat + 3) / 3 =
        (m.count.toNat + 2) / 3 + if m.count.toNat % 3 = 0 then 1 else 0 := by
      split_ifs <;> omega
    have hlen₁' : content₁.length ≤ m.content.length + 1 := by
      split_ifs at hlen₁ <;> omega
    obtain ⟨content₂, hlen₂, hfour, hwrites₂⟩ :=
      mrpEncodeFourPackedEvent_rawBytes m.type m.high m.count content₁ rest
        (listenerDeclaration dom d) base (by omega) (by omega)
    refine ⟨content₂, ?_, ?_, ?_⟩
    · rw [growth, if_pos hlistener]
      omega
    · rw [encodeValue, bytes, hfirst, htype, hthree, if_pos hlistener, hfour]
      rfl
    · have hgrows₂ : content₁.length ≤ content₂.length := by
        rw [hlen₂]
        exact Nat.le_add_right _ _
      exact hall content₂.length (by omega) hgrows₂ fun _ => hwrites₂
  · refine ⟨content₁, ?_, ?_, ?_⟩
    · rw [growth, if_neg hlistener]
      omega
    · rw [encodeValue, bytes, hfirst, htype, hthree, if_neg hlistener]
      rfl
    · exact hall content₁.length hgrows le_rfl fun h => absurd (htype.symm.trans h) hlistener

/-- **One more value**, with the writes it takes. -/
theorem encodeValue_bytes (dom : SrpDomain) {d : MrpDeclaration} (htype : d.type = m.type)
    (event base : ℕ) (hshort : m.content.length + 6 < 65536) :
    ∃ m' : RawMessage etype, m'.type = m.type ∧
      m'.content.length = m.content.length + growth m.type m.count.toNat ∧
      encodeValue dom (m.bytes rest) d event = m'.bytes rest ∧
      ∀ w ∈ encodeMsgWrites dom base (m.bytes rest) d event,
        w.stop ≤ base + (m'.bytes rest).length := by
  obtain ⟨content', hlen, hbytes, hwrites⟩ := m.encodeValue_content rest dom htype event base hshort
  -- the count may start again, which only asks for less room
  have hcount : (UInt8.ofNat (m.count.toNat + 1)).toNat ≤ m.count.toNat + 1 := by
    rw [UInt8.toNat_ofNat']
    exact Nat.mod_le _ _
  have hroom : vectorSize m.type (UInt8.ofNat (m.count.toNat + 1)).toNat ≤ content'.length := by
    calc vectorSize m.type (UInt8.ofNat (m.count.toNat + 1)).toNat
        ≤ vectorSize m.type (m.count.toNat + 1) := vectorSize_mono m.type hcount
      _ = vectorSize m.type m.count.toNat + growth m.type m.count.toNat := vectorSize_succ _ _
      _ ≤ m.content.length + growth m.type m.count.toNat := Nat.add_le_add_right m.room _
      _ = content'.length := hlen.symm
  refine ⟨⟨m.type, m.ofProtocol, m.high, UInt8.ofNat (m.count.toNat + 1), content', hroom⟩,
    rfl, hlen, hbytes, fun w hw => ?_⟩
  rw [length_bytes]
  have hw := hwrites w hw
  dsimp only
  omega

end RawMessage

/-! ## Packets of such messages -/

def rawPacket {etype : MrpEthertype} (ms : List (RawMessage etype)) : List UInt8 :=
  ms.foldr RawMessage.bytes []

def joinsMessage (d : MrpDeclaration) : ℕ → List UInt8 → Bool
  | 0, _ => false
  | fuel + 1, msg =>
    if msg = [] then false
    else takes msg d || joinsMessage d fuel (msg.drop (4 + attributeListLength msg))

section

variable {etype : MrpEthertype}

lemma ne_macVector_of_ofProtocol {type : MrpAttributeType} (h : type.OfProtocol etype) :
    type ≠ .macVector := by
  rintro rfl
  revert h
  cases etype <;> decide

lemma encodeAttrType_inj_of_ofProtocol {type type' : MrpAttributeType}
    (h : type.OfProtocol etype) (h' : type'.OfProtocol etype)
    (heq : encodeAttrType type = encodeAttrType type') : type = type' := by
  revert h h' heq
  cases etype <;> cases type <;> cases type' <;> decide

variable (m : RawMessage etype) (ms : List (RawMessage etype))

lemma RawMessage.type_of_takes {rest : List UInt8} {d : MrpDeclaration}
    (hd : d.type.OfProtocol etype) (h : takes (m.bytes rest) d = true) : d.type = m.type := by
  unfold takes at h
  rw [Bool.and_eq_true, decide_eq_true_eq, RawMessage.bytes, byteAt_zero_rawBytes] at h
  exact encodeAttrType_inj_of_ofProtocol hd m.ofProtocol h.1.symm

lemma RawMessage.byteAt_zero_ne (rest : List UInt8) : byteAt (m.bytes rest) 0 ≠ 0 := by
  rw [RawMessage.bytes, byteAt_zero_rawBytes]
  cases m.type <;> decide

lemma rawPacket_cons : rawPacket (m :: ms) = m.bytes (rawPacket ms) := rfl

lemma rawPacket_append (ms ms' : List (RawMessage etype)) :
    rawPacket (ms ++ ms') = rawPacket ms ++ rawPacket ms' := by
  induction ms with
  | nil => rfl
  | cons m ms ih =>
    rw [cons_append, rawPacket_cons, rawPacket_cons, ih, m.bytes_append,
      m.bytes_append (rawPacket ms), append_assoc]

lemma length_le_rawPacket : ms.length ≤ (rawPacket ms).length := by
  induction ms with
  | nil => exact le_rfl
  | cons m ms ih =>
    rw [rawPacket_cons, m.length_bytes, length_cons]
    omega

lemma growth_le (type : MrpAttributeType) (n : ℕ) : growth type n ≤ 2 := by
  unfold growth
  split_ifs <;> omega

/-- **The loop of `doTx`.**  Either no message takes the declaration and nothing is written, or
one does and grows by at most two bytes, with all writes inside the packet. -/
theorem txWalk_rawPacket (dom : SrpDomain) {d : MrpDeclaration} (hd : d.type.OfProtocol etype)
    (event : ℕ) (ms : List (RawMessage etype)) (fuel : ℕ) (hfuel : ms.length ≤ fuel)
    (done : List UInt8) (base : ℕ) (hshort : (rawPacket ms).length < 65530) :
    joinsMessage d fuel (rawPacket ms) = false ∧
        txWalk dom d event fuel done (rawPacket ms) = (done ++ rawPacket ms, [], false) ∧
        txWalkWrites dom d event fuel base (rawPacket ms) = [] ∨
      joinsMessage d fuel (rawPacket ms) = true ∧
        ∃ (ms' : List (RawMessage etype)) (done' msg' : List UInt8),
          txWalk dom d event fuel done (rawPacket ms) = (done', msg', true) ∧
          done' ++ msg' = done ++ rawPacket ms' ∧
          (rawPacket ms').length ≤ (rawPacket ms).length + 2 ∧
          ∀ w ∈ txWalkWrites dom d event fuel base (rawPacket ms),
            w.stop ≤ base + (rawPacket ms').length := by
  induction ms generalizing fuel done base with
  | nil =>
    left
    have hwalk : txWalk dom d event fuel done [] = (done, [], false) := by
      cases fuel <;> simp [txWalk]
    have hwrites : txWalkWrites dom d event fuel base [] = [] := by
      cases fuel <;> simp [txWalkWrites]
    have hjoins : joinsMessage d fuel [] = false := by
      cases fuel <;> simp [joinsMessage]
    refine ⟨hjoins, ?_, hwrites⟩
    show txWalk dom d event fuel done [] = (done ++ [], [], false)
    rw [hwalk, List.append_nil]
  | cons m ms ih =>
    obtain ⟨k, rfl⟩ : ∃ k, fuel = k + 1 := ⟨fuel - 1, by simp at hfuel; omega⟩
    have hlen := m.length_bytes (rawPacket ms)
    have hne : m.bytes (rawPacket ms) ≠ [] := by
      intro hnil
      rw [hnil, length_nil] at hlen
      omega
    have hloop : m.bytes (rawPacket ms) ≠ [] ∧ (byteAt (m.bytes (rawPacket ms)) 0 ≠ 0 ∨
        byteAt (m.bytes (rawPacket ms)) 1 ≠ 0) := ⟨hne, Or.inl (m.byteAt_zero_ne _)⟩
    rw [rawPacket_cons] at hshort ⊢
    rw [txWalk, txWalkWrites, joinsMessage, if_neg hne, if_pos hloop, if_pos hloop,
      encodeMsg_eq dom _ event (ne_macVector_of_ofProtocol hd)]
    by_cases htakes : takes (m.bytes (rawPacket ms)) d = true
    · right
      obtain ⟨m', -, hlen', hbytes, hwrites⟩ := m.encodeValue_bytes (rawPacket ms) dom
        (m.type_of_takes hd htakes) event base (by omega)
      rw [if_pos htakes, htakes, hbytes]
      have hgrowth := growth_le m.type m.count.toNat
      have hlen'' := m'.length_bytes (rawPacket ms)
      refine ⟨rfl, m' :: ms, done, m'.bytes (rawPacket ms), rfl, rfl, ?_, hwrites⟩
      rw [rawPacket_cons]
      omega
    · -- the message is passed
      have hskip : 4 + attributeListLength (m.bytes (rawPacket ms)) = (m.bytes []).length := by
        rw [m.length_bytes, RawMessage.bytes, attributeListLength_rawBytes _ _ _ _ _ (by omega),
          length_nil]
        omega
      rw [if_neg htakes, Bool.eq_false_of_not_eq_true htakes, Bool.false_or]
      dsimp only
      rw [hskip, m.bytes_append (rawPacket ms), List.take_left, List.drop_left]
      have hrest := ih k (by simp at hfuel; omega) (done ++ m.bytes []) (base + (m.bytes []).length)
        (by omega)
      rw [append_assoc] at hrest
      rcases hrest with hnone | ⟨hjoins, ms', done', msg', hwalk, hsame, hgrows, hwrites⟩
      · exact Or.inl hnone
      · refine Or.inr ⟨hjoins, m :: ms', done', msg', hwalk, ?_, ?_, ?_⟩
        · rw [hsame, rawPacket_cons, m.bytes_append (rawPacket ms'), append_assoc]
        · rw [rawPacket_cons, m.bytes_append (rawPacket ms'), length_append,
            length_append]
          omega
        · intro w hw
          have hw := hwrites w hw
          rw [rawPacket_cons, m.bytes_append (rawPacket ms'), length_append]
          omega

end

/-! ## Calls on such packets -/

def messageSize (type : MrpAttributeType) : ℕ := 8 + firstValueLength type + growth type 0

def Fits {etype : MrpEthertype} (tx : MrpTx) : MrpCall etype → Prop
  | .leaveAll type _ =>
    mrpHeaderSize + tx.buf.length + (8 + firstValueLength type) + 4 ≤ mrpSendBufferSize
  | .declare _ d _ _ => joinsMessage d tx.buf.length tx.buf = false →
    mrpHeaderSize + tx.buf.length + messageSize d.type + 4 ≤ mrpSendBufferSize
  | .forceSend => True

instance {etype : MrpEthertype} (tx : MrpTx) (c : MrpCall etype) : Decidable (Fits tx c) :=
  match c with
  | .leaveAll _ _ => inferInstanceAs (Decidable (_ ≤ _))
  | .declare _ _ _ _ => inferInstanceAs (Decidable (_ → _))
  | .forceSend => isTrue trivial

structure Sendable (etype : MrpEthertype) (tx : MrpTx) : Prop where
  messages : ∃ ms : List (RawMessage etype), tx.buf = rawPacket ms
  short : mrpHeaderSize + tx.buf.length + maxMrpMsgSize + 2 ≤ mrpSendBufferSize

section

variable {etype : MrpEthertype} {tx : MrpTx}

lemma txBuild_rawPacket (dom : SrpDomain) {d : MrpDeclaration} (hd : d.type.OfProtocol etype)
    (event : ℕ) (ms : List (RawMessage etype)) (hshort : (rawPacket ms).length < 65530) :
    ∃ ms' : List (RawMessage etype), txBuild dom (rawPacket ms) d event = rawPacket ms' ∧
      (joinsMessage d (rawPacket ms).length (rawPacket ms) = false →
        (rawPacket ms').length = (rawPacket ms).length + messageSize d.type) ∧
      (joinsMessage d (rawPacket ms).length (rawPacket ms) = true →
        (rawPacket ms').length ≤ (rawPacket ms).length + 2) ∧
      ∀ w ∈ txBuildWrites dom (rawPacket ms) d event,
        w.stop ≤ mrpHeaderSize + (rawPacket ms').length := by
  have hwalk := txWalk_rawPacket dom hd event ms _ (length_le_rawPacket ms) [] mrpHeaderSize hshort
  unfold txBuild txBuildWrites
  rcases hwalk with ⟨hjoins, hwalk, hwrites⟩ |
    ⟨hjoins, ms', done', msg', hwalk, hsame, hgrows, hwrites⟩
  · -- a message of its own
    obtain ⟨m', -, hlen', hbytes, hwrites'⟩ :=
      (RawMessage.empty d.type hd false).encodeValue_bytes []
      dom rfl event (mrpHeaderSize + (rawPacket ms).length) (by
        show (List.replicate (firstValueLength d.type) (0 : UInt8)).length + 6 < 65536
        have hle := firstValueLength_le d.type
        rw [List.length_replicate]
        omega)
    have hempty : (RawMessage.empty d.type hd false).content.length = firstValueLength d.type :=
      List.length_replicate
    have htakes : takes (createEmptyMsg d.type false) d = true := by
      rw [RawMessage.createEmptyMsg_eq_bytes d.type hd]
      unfold takes
      rw [RawMessage.bytes, byteAt_zero_rawBytes]
      simp [numberOfValuesLow_rawBytes, RawMessage.empty]
    have hencode : encodeMsg dom (createEmptyMsg d.type false) d event = some (m'.bytes []) := by
      rw [encodeMsg_eq dom _ event (ne_macVector_of_ofProtocol hd), if_pos htakes,
        RawMessage.createEmptyMsg_eq_bytes d.type hd, hbytes]
    have hlast : rawPacket [m'] = m'.bytes [] := rfl
    have hlen : (m'.bytes []).length = messageSize d.type := by
      rw [m'.length_bytes, hlen', hempty, messageSize, length_nil]
      show firstValueLength d.type + growth d.type 0 + 8 + 0 = _
      omega
    rw [hwalk, hwrites, txFinish]
    dsimp only
    rw [if_neg Bool.false_ne_true, if_neg Bool.false_ne_true, nil_append, nil_append,
      nil_append, hencode]
    refine ⟨ms ++ [m'], ?_, ?_, ?_, ?_⟩
    · rw [rawPacket_append, hlast, Option.getD_some]
    · intro _
      rw [rawPacket_append, hlast, length_append, hlen]
    · intro hsome
      exact absurd (hjoins.symm.trans hsome) Bool.false_ne_true
    · intro w hw
      rw [rawPacket_append, hlast, length_append]
      rcases List.mem_cons.mp hw with rfl | hw
      · show mrpHeaderSize + (rawPacket ms).length + (8 + firstValueLength d.type) ≤ _
        rw [hlen, messageSize]
        omega
      · rw [RawMessage.createEmptyMsg_eq_bytes d.type hd] at hw
        have hw := hwrites' w hw
        omega
  · rw [hwalk]
    refine ⟨ms', ?_, ?_, fun _ => hgrows, ?_⟩
    · exact hsame
    · intro hnone
      exact absurd (hnone.symm.trans hjoins) Bool.false_ne_true
    · dsimp only
      rw [if_pos rfl, List.append_nil]
      exact hwrites

lemma stripLengthsWrites_le (fuel msg stop : ℕ) (buf : List UInt8) :
    ∀ w ∈ stripLengthsWrites fuel msg stop buf, w.stop ≤ mrpHeaderSize + stop := by
  induction fuel generalizing msg stop buf with
  | zero =>
    intro w hw
    cases hw
  | succ fuel ih =>
    intro w hw
    rw [stripLengthsWrites] at hw
    split_ifs at hw
    · rcases List.mem_cons.mp hw with rfl | hw
      · dsimp only
        omega
      · have hw := ih _ _ _ w hw
        omega
    · cases hw

lemma forceSendWrites_within_iff (hne : tx.buf ≠ []) :
    (∀ w ∈ forceSendWrites tx, w.Within mrpSendBufferSize) ↔
      mrpHeaderSize + tx.buf.length + 4 ≤ mrpSendBufferSize := by
  have hsize : 64 ≤ mrpSendBufferSize := by decide
  rw [forceSendWrites, if_neg hne, List.forall_mem_append, List.forall_mem_singleton]
  constructor
  · rintro ⟨-, hpad⟩
    have hpad := hpad (by
      show mrpHeaderSize + tx.buf.length < max (mrpHeaderSize + tx.buf.length + 4) 64
      omega)
    exact (le_max_left _ _).trans hpad
  · intro hroom
    refine ⟨fun w hw _ => ?_, fun _ => max_le hroom hsize⟩
    cases hetype : tx.etype with
    | srp =>
      rw [hetype] at hw
      cases hw
    | mvrp =>
      rw [hetype] at hw
      have hw := stripLengthsWrites_le _ _ _ _ w hw
      omega

lemma mrpSendWrites_within_iff (tx : MrpTx) : (∀ w ∈ mrpSendWrites tx, w.Within mrpSendBufferSize) ↔
      mrpHeaderSize + tx.buf.length + 4 ≤ mrpSendBufferSize := by
  have hmargin : 4 ≤ maxMrpMsgSize + 2 := by decide
  unfold mrpSendWrites
  split_ifs with hfull
  · refine forceSendWrites_within_iff ?_
    intro hnil
    rw [hnil] at hfull
    exact absurd hfull (by decide)
  · constructor
    · intro _
      omega
    · intro _ w hw
      cases hw

variable (src : Vector UInt8 6)

lemma forceSend_buf (tx : MrpTx) : (forceSend src tx).buf = [] := by
  unfold forceSend
  split_ifs with hnil
  · exact hnil
  · rfl

lemma sendable_of_nil (etype : MrpEthertype) (h : tx.buf = []) : Sendable etype tx := by
  refine ⟨⟨[], h⟩, ?_⟩
  rw [h]
  decide

lemma sendable_mrpSend (h : ∃ ms : List (RawMessage etype), tx.buf = rawPacket ms) :
    Sendable etype (mrpSend src tx) := by
  unfold mrpSend
  split_ifs with hfull
  · exact sendable_of_nil etype (forceSend_buf src tx)
  · exact ⟨h, by omega⟩

lemma sendable_txCall (h : Sendable etype tx) (c : MrpCall etype) :
    Sendable etype (txCall src tx c) := by
  obtain ⟨ms, hms⟩ := h.messages
  have hshort := h.short
  cases c with
  | leaveAll type htype =>
    refine sendable_mrpSend src ⟨ms ++ [RawMessage.empty type htype true], ?_⟩
    show tx.buf ++ createEmptyMsg type true = _
    rw [rawPacket_append, hms, RawMessage.createEmptyMsg_eq_bytes type htype]
    rfl
  | declare dom d event hd =>
    rw [hms] at hshort
    obtain ⟨ms', hbuild, -⟩ := txBuild_rawPacket dom hd event.code ms (by
      have hsize : mrpSendBufferSize < 65530 := by decide
      omega)
    refine sendable_mrpSend src ⟨ms', ?_⟩
    show txBuild dom tx.buf d event.code = _
    rw [hms, hbuild]
  | forceSend => exact sendable_of_nil etype (forceSend_buf src tx)

/-- **One call** stays inside the buffer exactly if it finds the room it asks for. -/
theorem txCallWrites_within_iff (h : Sendable etype tx) (c : MrpCall etype) :
    (∀ w ∈ txCallWrites tx c, w.Within mrpSendBufferSize) ↔ Fits tx c := by
  obtain ⟨ms, hms⟩ := h.messages
  have hshort := h.short
  cases c with
  | leaveAll type htype =>
    have hlen : (createEmptyMsg type true).length = 8 + firstValueLength type := by
      cases type <;> rfl
    rw [txCallWrites, List.forall_mem_cons, mrpSendWrites_within_iff, length_append, hlen,
      ← Nat.add_assoc]
    constructor
    · rintro ⟨-, hroom⟩
      exact hroom
    · intro hroom
      have hroom : mrpHeaderSize + tx.buf.length + (8 + firstValueLength type) + 4
        ≤ mrpSendBufferSize := hroom
      refine ⟨fun _ => ?_, hroom⟩
      show mrpHeaderSize + tx.buf.length + (8 + firstValueLength type) ≤ mrpSendBufferSize
      omega
  | declare dom d event hd =>
    have hsize : mrpSendBufferSize < 65530 := by decide
    have hmargin : 2 + 4 ≤ maxMrpMsgSize + 2 := by decide
    rw [hms] at hshort
    obtain ⟨ms', hbuild, hnew, hjoined, hwrites⟩ :=
      txBuild_rawPacket dom hd event.code ms (by omega)
    rw [txCallWrites, Fits, List.forall_mem_append, mrpSendWrites_within_iff]
    dsimp only
    rw [hms, hbuild]
    constructor
    · rintro ⟨-, hroom⟩ hjoins
      rw [hnew hjoins] at hroom
      omega
    · intro hroom
      have hroom' : mrpHeaderSize + (rawPacket ms').length + 4 ≤ mrpSendBufferSize := by
        cases hjoins : joinsMessage d (rawPacket ms).length (rawPacket ms) with
        | false =>
          have hroom := hroom hjoins
          rw [hnew hjoins]
          omega
        | true =>
          have hjoined := hjoined hjoins
          omega
      refine ⟨fun w hw _ => ?_, hroom'⟩
      have hw := hwrites w hw
      omega
  | forceSend =>
    refine iff_of_true ?_ trivial
    by_cases hnil : tx.buf = []
    · intro w hw
      rw [txCallWrites, forceSendWrites, if_pos hnil] at hw
      cases hw
    · have hmargin : 4 ≤ maxMrpMsgSize + 2 := by decide
      exact (forceSendWrites_within_iff hnil).mpr (by omega)

end

/-! ## Transmit opportunities -/

/-- What `mrp_periodic` builds between `configure_send_buffer` and the `force_send` that ends
the packets of the protocol. -/
structure MrpPhase where
  etype : MrpEthertype
  calls : List (MrpCall etype)

def configureSendBuffer (etype : MrpEthertype) (tx : MrpTx) : MrpTx := { tx with etype := etype }

def mrpPhase (src : Vector UInt8 6) (tx : MrpTx) (ph : MrpPhase) : MrpTx :=
  Run.runFrom (txCall src) (configureSendBuffer ph.etype tx) (ph.calls ++ [.forceSend])

def mrpPhaseWrites (src : Vector UInt8 6) (tx : MrpTx) (ph : MrpPhase) : List BufferWrite :=
  Run.outputs (txCall src) txCallWrites (configureSendBuffer ph.etype tx)
    (ph.calls ++ [.forceSend])

/-- Every call of the phase fits the send buffer as the calls before leave it. -/
def PhaseFits (src : Vector UInt8 6) (tx : MrpTx) (ph : MrpPhase) : Prop :=
  Run.Guarded (txCall src) Fits (configureSendBuffer ph.etype tx) ph.calls

lemma mrpPhase_buf (ph : MrpPhase) : (mrpPhase src tx ph).buf = [] := by
  rw [mrpPhase, Run.runFrom_append]
  exact forceSend_buf src _

lemma mrpPhaseWrites_within_iff {tx : MrpTx} (h : tx.buf = []) (ph : MrpPhase) :
    (∀ w ∈ mrpPhaseWrites src tx ph, w.Within mrpSendBufferSize) ↔ PhaseFits src tx ph := by
  have hstart : Sendable ph.etype (configureSendBuffer ph.etype tx) := sendable_of_nil _ h
  have hstep : ∀ (tx : MrpTx) (c : MrpCall ph.etype), Sendable ph.etype tx →
      Sendable ph.etype (txCall src tx c) := fun _ c hs => sendable_txCall src hs c
  have hout : ∀ (tx : MrpTx) (c : MrpCall ph.etype), Sendable ph.etype tx →
      ((∀ w ∈ txCallWrites tx c, w.Within mrpSendBufferSize) ↔ Fits tx c) :=
    fun _ c hs => txCallWrites_within_iff hs c
  rw [mrpPhaseWrites, Run.forall_outputs_iff hstep hout hstart, Run.guarded_append]
  exact and_iff_left ⟨trivial, trivial⟩

/-- **The send buffer.**  Over every row of transmit opportunities, with every number and mix of
LeaveAll messages and declarations, all writes stay inside the buffer if and only if every call
finds the room it asks for. -/
theorem send_buffer_in_bounds_iff (src : Vector UInt8 6) (etype : MrpEthertype)
    (frames : List (List UInt8)) (phases : List MrpPhase) :
    (∀ w ∈ Run.outputs (mrpPhase src) (mrpPhaseWrites src) ⟨etype, [], frames⟩ phases,
        w.Within mrpSendBufferSize) ↔
      Run.Guarded (mrpPhase src) (PhaseFits src) ⟨etype, [], frames⟩ phases := by
  have hstep : ∀ (tx : MrpTx) (ph : MrpPhase), tx.buf = [] → (mrpPhase src tx ph).buf = [] :=
    fun tx ph _ => mrpPhase_buf src tx ph
  have hout : ∀ (tx : MrpTx) (ph : MrpPhase), tx.buf = [] →
      ((∀ w ∈ mrpPhaseWrites src tx ph, w.Within mrpSendBufferSize) ↔ PhaseFits src tx ph) :=
    fun _ ph h => mrpPhaseWrites_within_iff src h ph
  exact Run.forall_outputs_iff hstep hout rfl phases

def spacedTalker (type : MrpAttributeType) (n : ℕ) : MrpDeclaration where
  type := type
  reservation :=
    { streamId0 := 0x00229700
      streamId1 := UInt32.ofNat (2 * n)
      destMacAddr := #v[0x91, 0xe0, 0xf0, 0x00, 0x0e, UInt8.ofNat (2 * n)]
      vlanId := 2
      tspecMaxFrameSize := 224
      tspecMaxInterval := 1
      tspec := 0x70
      accumulatedLatency := 150000
      failureBridgeId := Vector.replicate 8 0
      failureCode := 0 }
  talkerPresent := true
  reservationFailed := false
  vlan := 0

def thirteenAdvertisedOneFailed : MrpPhase where
  etype := .srp
  calls := (List.range 13).map (fun n =>
    .declare ⟨false, 2⟩ (spacedTalker .talkerAdvertise n) .evJoinIn
      (Or.inl (Or.inl rfl))) ++
    [.declare ⟨false, 2⟩ (spacedTalker .talkerFailed 13) .evJoinIn (Or.inl (Or.inr rfl))]

/-- The message of the last takes the packet to the end of the buffer, and its padding beyond. -/
theorem failed_talker_overruns_buffer :
    ∃ w ∈ Run.outputs (mrpPhase #v[0x00, 0x22, 0x97, 0x00, 0x01, 0x02])
        (mrpPhaseWrites #v[0x00, 0x22, 0x97, 0x00, 0x01, 0x02]) ⟨.srp, [], []⟩
        [thirteenAdvertisedOneFailed],
      ¬ w.Within mrpSendBufferSize := by
  decide +kernel
