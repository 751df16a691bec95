/-
# What the transmitter writes

A packet under construction is a list of vectors: each has a type, perhaps a
LeaveAll, and the declarations that were merged into it.  `doTx` inserts bytes into
the middle of a buffer; seen on the vectors it appends a declaration to the first
vector that accepts it, or to a new one.
-/
import LibTsn.MrpPdu
import LibTsn.Packing
import LibTsn.Run

open List (append_assoc take_left length_append cons_append nil_append length_cons length_nil
  append_nil mem_cons_self)

/-! ## Messages as header and body -/

def messageBytes (t l : UInt8) (len : ℕ) (hi n : UInt8) (body : List UInt8) : List UInt8 :=
  t :: l :: UInt8.ofNat (len / 256) :: UInt8.ofNat len :: hi :: n :: body

section

variable (t l hi n : UInt8) (len : ℕ) (body : List UInt8)

lemma numberOfValuesLow_message :
    numberOfValuesLow (messageBytes t l len hi n body) = n.toNat := rfl

lemma byteAt_zero_message : byteAt (messageBytes t l len hi n body) 0 = t.toNat := rfl

lemma attributeListLength_message (h : len < 65536) :
    attributeListLength (messageBytes t l len hi n body) = len := by
  show (UInt8.ofNat (len / 256)).toNat * 256 + (UInt8.ofNat len).toNat = len
  rw [UInt8.toNat_ofNat', UInt8.toNat_ofNat']
  omega

lemma overwrite_length_message (len' : ℕ) :
    overwrite (messageBytes t l len hi n body) 2 (beBytes 2 len')
      = messageBytes t l len' hi n body := by
  simp [overwrite, messageBytes, beBytes]

lemma overwrite_body_message (a : ℕ) (bs : List UInt8) :
    overwrite (messageBytes t l len hi n body) (6 + a) bs
      = messageBytes t l len hi n (overwrite body a bs) := by
  simp [overwrite, messageBytes, Nat.add_comm 6, Nat.add_right_comm _ 6]

lemma numberAt_message (a k : ℕ) :
    numberAt (messageBytes t l len hi n body) (6 + a) k = numberAt body a k := by
  simp [numberAt, messageBytes, Nat.add_comm 6]

end

lemma overwrite_middle (as bs cs ds : List UInt8) (h : bs.length = ds.length) :
    overwrite (as ++ bs ++ cs) as.length ds = as ++ ds ++ cs := by
  rw [overwrite, append_assoc as bs, take_left, ← h, ← length_append,
    ← append_assoc, List.drop_left]

/-- **Opening a byte** of a vector moves everything behind it, the end mark included. -/
theorem openVectorByte_message (t l hi n : UInt8) (len : ℕ) (as bs rest : List UInt8)
    (hlen : len = as.length + bs.length + 4) (h : len + 1 < 65536) :
    openVectorByte (messageBytes t l len hi n (as ++ bs ++ 0 :: 0 :: rest)) (6 + as.length)
      = messageBytes t l (len + 1) hi n (as ++ 0 :: bs ++ 0 :: 0 :: rest) := by
  have hinsert : (messageBytes t l len hi n (as ++ bs ++ 0 :: 0 :: rest)).take (6 + as.length)
        ++ 0 :: (messageBytes t l len hi n (as ++ bs ++ 0 :: 0 :: rest)).drop (6 + as.length)
      = messageBytes t l len hi n (as ++ 0 :: bs ++ 0 :: 0 :: rest) := by
    simp [messageBytes, Nat.add_comm 6]
  rw [openVectorByte, hinsert, attributeListLength_message _ _ _ _ _ _ (by omega),
    overwrite_length_message,
    show 4 + (len + 1) - 2 = 6 + (as ++ 0 :: bs).length by simp; omega, overwrite_body_message]
  -- the end mark is written over itself
  have hmark := overwrite_middle (as ++ 0 :: bs) [0, 0] rest [0, 0] rfl
  simp only [append_assoc, cons_append, nil_append] at hmark ⊢
  rw [hmark]

lemma addToByte_message (t l hi n : UInt8) (len v : ℕ) (as bs : List UInt8) (x : UInt8) :
    addToByte (messageBytes t l len hi n (as ++ x :: bs)) (6 + as.length) v
      = messageBytes t l len hi n (as ++ UInt8.ofNat (x.toNat + v) :: bs) := by
  have hbyte : byteAt (messageBytes t l len hi n (as ++ x :: bs)) (6 + as.length) = x.toNat := by
    simp [byteAt, messageBytes, Nat.add_comm 6]
  rw [addToByte, hbyte]
  simp [messageBytes, Nat.add_comm 6]

def packedBytes (b k : ℕ) (ds : List ℕ) : List UInt8 := (Packing.words b k ds).map UInt8.ofNat

@[simp] lemma length_packedBytes (b k : ℕ) (ds : List ℕ) :
    (packedBytes b k ds).length = (ds.length + k - 1) / k := by
  simp [packedBytes]

/-- **One more event.**  The byte it goes to is the last of its kind, or a new one that is
inserted behind them. -/
theorem encodePackedEvent_message (t l hi : UInt8) (b k len e : ℕ) (ds : List ℕ)
    (as bs rest : List UInt8) (hk : 0 < k) (hb : 0 < b) (hbk : b ^ k ≤ 256)
    (hds : ∀ d ∈ ds, d < b) (hn : ds.length < 256)
    (hlen : len = (as ++ packedBytes b k ds ++ bs).length + 4) (h : len + 1 < 65536) :
    encodePackedEvent b k
        (messageBytes t l len hi (UInt8.ofNat ds.length)
          (as ++ packedBytes b k ds ++ bs ++ 0 :: 0 :: rest))
        (6 + as.length + ds.length / k) e
      = messageBytes t l ((as ++ packedBytes b k (ds ++ [e]) ++ bs).length + 4) hi
          (UInt8.ofNat ds.length) (as ++ packedBytes b k (ds ++ [e]) ++ bs ++ 0 :: 0 :: rest) := by
  have hcount : (UInt8.ofNat ds.length).toNat = ds.length := by
    rw [UInt8.toNat_ofNat']
    omega
  rw [encodePackedEvent]
  simp only [numberOfValuesLow_message, hcount]
  by_cases hfull : ds.length % k = 0
  · -- all bytes are full: a new one
    have hpos : (as ++ packedBytes b k ds).length = as.length + ds.length / k := by
      rw [length_append, length_packedBytes]
      obtain ⟨q, hq⟩ := Nat.dvd_of_mod_eq_zero hfull
      rw [hq, show k * q + k - 1 = (k - 1) + k * q by omega, Nat.add_mul_div_left _ _ hk,
        Nat.div_eq_of_lt (by omega), Nat.zero_add, Nat.mul_div_cancel_left _ hk]
    have hwords : packedBytes b k (ds ++ [e])
        = packedBytes b k ds ++ [UInt8.ofNat (e * b ^ (k - 1))] := by
      rw [packedBytes, Packing.words_append_full _ _ _ _ hk hfull, List.map_append]
      rfl
    rw [if_pos hfull, hfull, Nat.add_assoc, ← hpos,
      openVectorByte_message _ _ _ _ _ _ _ _ (by rw [hlen, length_append]) h,
      append_assoc (as ++ packedBytes b k ds), cons_append, addToByte_message, hwords]
    simp only [append_assoc, cons_append, nil_append, UInt8.toNat_zero,
      Nat.zero_add, Nat.sub_zero]
    congr 1
    rw [hlen]
    simp only [length_append, length_cons]
    omega
  · -- the last byte has room
    have hpos : ds.length / k < (Packing.words b k ds).length := by
      have hdiv := Nat.div_add_mod ds.length k
      rw [Packing.length_words, Nat.lt_iff_add_one_le, Nat.le_div_iff_mul_le hk, Nat.add_mul,
        Nat.mul_comm (ds.length / k)]
      omega
    obtain ⟨xs, x, ys, hxs, hsplit⟩ : ∃ xs x ys, xs.length = ds.length / k ∧
        Packing.words b k ds = xs ++ x :: ys :=
      ⟨_, _, _, List.length_take_of_le hpos.le, (List.take_append_drop _ _).symm.trans
        (by rw [List.drop_eq_getElem_cons hpos])⟩
    have hx : x < 256 := by
      have := Packing.words_lt b k ds hds hb x (by rw [hsplit]; simp)
      omega
    have hbytes : packedBytes b k ds =
        xs.map UInt8.ofNat ++ UInt8.ofNat x :: ys.map UInt8.ofNat := by
      simp [packedBytes, hsplit]
    have hwords : packedBytes b k (ds ++ [e]) = xs.map UInt8.ofNat
        ++ UInt8.ofNat (x + e * b ^ (k - 1 - ds.length % k)) :: ys.map UInt8.ofNat := by
      rw [packedBytes, Packing.words_append_partial _ _ _ _ hk hfull, hsplit, ← hxs,
        List.modify_eq_take_drop]
      simp
    rw [if_neg hfull, hwords, hlen, hbytes]
    have hadd := addToByte_message t l hi (UInt8.ofNat ds.length)
      ((as ++ packedBytes b k ds ++ bs).length + 4) (e * b ^ (k - 1 - ds.length % k))
      (as ++ xs.map UInt8.ofNat) (ys.map UInt8.ofNat ++ bs ++ 0 :: 0 :: rest) (UInt8.ofNat x)
    have hplace : (as ++ xs.map UInt8.ofNat).length = as.length + ds.length / k := by
      rw [length_append, List.length_map, hxs]
    rw [UInt8.toNat_ofNat', Nat.mod_eq_of_lt hx, hplace, ← Nat.add_assoc, hbytes] at hadd
    simp only [append_assoc, cons_append, length_append, length_cons] at hadd ⊢
    exact hadd

/-! ## The bytes of a vector -/

def vectorBytes (type : MrpAttributeType) (leaveAll : Bool) (first : List UInt8)
    (threes fours : List ℕ) (n : ℕ) (rest : List UInt8) : List UInt8 :=
  messageBytes (UInt8.ofNat (encodeAttrType type)) (UInt8.ofNat (firstValueLength type))
    ((first ++ packedBytes 6 3 threes ++ packedBytes 4 4 fours).length + 4)
    (if leaveAll then 0x20 else 0) (UInt8.ofNat n)
    (first ++ packedBytes 6 3 threes ++ packedBytes 4 4 fours ++ 0 :: 0 :: rest)

section

variable (type : MrpAttributeType) (leaveAll : Bool) (first : List UInt8)
  (threes fours : List ℕ) (n : ℕ) (rest : List UInt8)

lemma firstValueLength_le (type : MrpAttributeType) : firstValueLength type ≤ 34 := by
  cases type <;> decide

lemma byteAt_zero_vectorBytes :
    byteAt (vectorBytes type leaveAll first threes fours n rest) 0 = encodeAttrType type := by
  rw [vectorBytes, byteAt_zero_message]
  cases type <;> rfl

lemma numberOfValuesLow_vectorBytes (h : n < 256) :
    numberOfValuesLow (vectorBytes type leaveAll first threes fours n rest) = n := by
  rw [vectorBytes, numberOfValuesLow_message, UInt8.toNat_ofNat']
  omega

lemma set_count_vectorBytes (m : ℕ) :
    (vectorBytes type leaveAll first threes fours n rest).set 5 (UInt8.ofNat m)
      = vectorBytes type leaveAll first threes fours m rest := rfl

lemma numberAt_vectorBytes (a k : ℕ) (h : a + k ≤ first.length) :
    numberAt (vectorBytes type leaveAll first threes fours n rest) (6 + a) k
      = numberAt first a k := by
  rw [vectorBytes, numberAt_message, numberAt, numberAt, append_assoc, append_assoc,
    List.drop_append_of_le_length (by omega),
    List.take_append_of_le_length (by rw [List.length_drop]; omega)]

lemma overwrite_first_vectorBytes (first' : List UInt8) (h : first.length = first'.length) :
    overwrite (vectorBytes type leaveAll first threes fours n rest) 6 first'
      = vectorBytes type leaveAll first' threes fours n rest := by
  have hmiddle := overwrite_middle [] first
    (packedBytes 6 3 threes ++ packedBytes 4 4 fours ++ 0 :: 0 :: rest) first' h
  simp only [nil_append, length_nil] at hmiddle
  rw [vectorBytes, show 6 = 6 + 0 from rfl, overwrite_body_message, vectorBytes]
  simp only [append_assoc, length_append] at hmiddle ⊢
  rw [hmiddle, h]

lemma createEmptyMsg_eq : createEmptyMsg type leaveAll
      = vectorBytes type leaveAll (List.replicate (firstValueLength type) 0) [] [] 0 [] := by
  cases type <;> cases leaveAll <;> decide

variable {type leaveAll first threes fours n rest}

lemma mrpEncodeThreePackedEvent_vectorBytes (e : ℕ) (hfirst : first.length = firstValueLength type)
    (hthrees : ∀ d ∈ threes, d < 6) (hn : threes.length < 256) (hfours : fours.length < 256) :
    mrpEncodeThreePackedEvent
        (vectorBytes type leaveAll first threes fours threes.length rest) e type
      = vectorBytes type leaveAll first (threes ++ [e]) fours threes.length rest := by
  have hshort := firstValueLength_le type
  have hpack := encodePackedEvent_message (UInt8.ofNat (encodeAttrType type))
    (UInt8.ofNat (firstValueLength type)) (if leaveAll then 0x20 else 0) 6 3
    ((first ++ packedBytes 6 3 threes ++ packedBytes 4 4 fours).length + 4) e threes
    first (packedBytes 4 4 fours) rest (by norm_num) (by norm_num) (by norm_num) hthrees hn rfl
    (by simp only [length_append, length_packedBytes, hfirst]; omega)
  rw [mrpEncodeThreePackedEvent, numberOfValuesLow_vectorBytes _ _ _ _ _ _ _ hn, ← hfirst]
  exact hpack

/-- **A four-packed event**, when the three-packed one has been written. -/
theorem mrpEncodeFourPackedEvent_vectorBytes (e : ℕ)
    (hfirst : first.length = firstValueLength type) (hthrees : threes.length = fours.length + 1)
    (hfours : ∀ d ∈ fours, d < 4) (hn : fours.length < 256) : mrpEncodeFourPackedEvent
        (vectorBytes type leaveAll first threes fours fours.length rest) e type
      = vectorBytes type leaveAll first threes (fours ++ [e]) fours.length rest := by
  have hshort := firstValueLength_le type
  have hmid : (first ++ packedBytes 6 3 threes).length
      = firstValueLength type + (fours.length + 3) / 3 := by
    rw [length_append, length_packedBytes, hfirst, hthrees]
    omega
  have hpack := encodePackedEvent_message (UInt8.ofNat (encodeAttrType type))
    (UInt8.ofNat (firstValueLength type)) (if leaveAll then 0x20 else 0) 4 4
    ((first ++ packedBytes 6 3 threes ++ packedBytes 4 4 fours).length + 4) e fours
    (first ++ packedBytes 6 3 threes) [] rest (by norm_num) (by norm_num) (by norm_num) hfours hn
    (by rw [append_nil]) (by rw [length_append, hmid, length_packedBytes]; omega)
  rw [hmid, ← Nat.add_assoc, append_nil, append_nil] at hpack
  rw [mrpEncodeFourPackedEvent, numberOfValuesLow_vectorBytes _ _ _ _ _ _ _ hn]
  exact hpack

end

/-! ## First values -/

def MrpAttributeType.IsTalker (t : MrpAttributeType) : Prop :=
  t = .talkerAdvertise ∨ t = .talkerFailed
  deriving Decidable

def MrpAttributeType.IsMsrp (t : MrpAttributeType) : Prop :=
  t.IsTalker ∨ t = .listener ∨ t = .domainVector
  deriving Decidable

structure MsrpValue where
  decl : MrpDeclaration
  event : MrpAttributeEvent
  msrp : decl.type.IsMsrp
  vlan_ne : decl.type.IsTalker → decl.reservation.vlanId ≠ 0
  deriving DecidableEq

variable (dom : SrpDomain) (d : MrpDeclaration) (x : MsrpValue) (vs : List MsrpVector)

def firstValueBytes : List UInt8 :=
  match d.type with
  | .talkerAdvertise | .talkerFailed => talkerFirstValue dom d
  | .listener => listenerFirstValue d
  | .domainVector => domainFirstValue dom
  | .macVector => List.replicate 6 0
  | .vidVector => beBytes 2 d.vlan

lemma length_firstValueBytes : (firstValueBytes dom d).length = firstValueLength d.type := by
  unfold firstValueBytes
  cases h : d.type <;>
    simp [talkerFirstValue, listenerFirstValue, domainFirstValue, firstValueLength, h]

lemma firstValueBytes_talker {d : MrpDeclaration} (h : d.type.IsTalker) :
    firstValueBytes dom d = talkerFirstValue dom d := by
  unfold firstValueBytes
  rcases h with h | h <;> rw [h]

lemma firstValueBytes_listener {d : MrpDeclaration} (h : d.type = .listener) :
    firstValueBytes dom d = listenerFirstValue d := by
  rw [firstValueBytes, h]

lemma firstValueBytes_domain {d : MrpDeclaration} (h : d.type = .domainVector) :
    firstValueBytes dom d = domainFirstValue dom := by
  rw [firstValueBytes, h]

lemma numberAt_skip (as bs : List UInt8) {a k : ℕ} (h : as.length ≤ a) :
    numberAt (as ++ bs) a k = numberAt bs (a - as.length) k := by
  rw [numberAt, List.drop_append, List.drop_eq_nil_of_le h, nil_append, numberAt]

lemma numberAt_front (bs cs : List UInt8) {k : ℕ} (h : k = bs.length) :
    numberAt (bs ++ cs) 0 k = beNat bs := by
  rw [numberAt, h, List.drop_zero, take_left]

lemma beNat_streamId (r : AvbSrpInfo) :
    beNat (beBytes 4 r.streamId0.toNat ++ beBytes 4 r.streamId1.toNat) = r.streamId := by
  rw [beNat_append, beNat_beBytes, beNat_beBytes, length_beBytes, AvbSrpInfo.streamId]
  norm_num

lemma numberAt_listener_streamId :
    numberAt (listenerFirstValue d) 0 8 = d.reservation.streamId := by
  rw [← beNat_streamId]
  rfl

section

variable (dom : SrpDomain) (d : MrpDeclaration)

lemma numberAt_talker_streamId :
    numberAt (talkerFirstValue dom d) 0 8 = d.reservation.streamId := by
  simp only [talkerFirstValue, append_assoc]
  rw [← append_assoc, numberAt_front _ _ (by simp), beNat_streamId]

lemma numberAt_talker_destMac : numberAt (talkerFirstValue dom d) 8 6 = d.reservation.destMac := by
  simp only [talkerFirstValue, append_assoc]
  simp (disch := simp) only [numberAt_skip, length_beBytes, Nat.reduceSub]
  exact numberAt_front _ _ (by simp)

lemma numberAt_talker_vlan (h : d.reservation.vlanId ≠ 0) :
    numberAt (talkerFirstValue dom d) 14 2 = d.reservation.vlanId.toNat := by
  have hlt := d.reservation.vlanId.toNat_lt
  simp only [talkerFirstValue, append_assoc, if_pos h]
  simp (disch := simp) only [numberAt_skip, length_beBytes, Vector.length_toList, Nat.reduceSub]
  rw [numberAt_front _ _ (by simp), beNat_beBytes]
  omega

lemma numberAt_talker_maxFrameSize :
    numberAt (talkerFirstValue dom d) 16 2 = d.reservation.tspecMaxFrameSize.toNat := by
  have hlt := d.reservation.tspecMaxFrameSize.toNat_lt
  simp only [talkerFirstValue, append_assoc]
  simp (disch := simp) only [numberAt_skip, length_beBytes, Vector.length_toList, Nat.reduceSub]
  rw [numberAt_front _ _ (by simp), beNat_beBytes]
  omega

lemma numberAt_talker_maxInterval :
    numberAt (talkerFirstValue dom d) 18 2 = d.reservation.tspecMaxInterval.toNat := by
  have hlt := d.reservation.tspecMaxInterval.toNat_lt
  simp only [talkerFirstValue, append_assoc]
  simp (disch := simp) only [numberAt_skip, length_beBytes, Vector.length_toList, Nat.reduceSub]
  rw [numberAt_front _ _ (by simp), beNat_beBytes]
  omega

lemma numberAt_talker_tspec :
    numberAt (talkerFirstValue dom d) 20 1 = d.reservation.tspec.toNat := by
  simp only [talkerFirstValue, append_assoc]
  simp (disch := simp) only [numberAt_skip, length_beBytes, Vector.length_toList, Nat.reduceSub]
  rw [numberAt_front _ _ (by simp), beNat_cons]
  simp [beNat]

lemma numberAt_talker_latency :
    numberAt (talkerFirstValue dom d) 21 4 = d.reservation.accumulatedLatency.toNat := by
  have hlt := d.reservation.accumulatedLatency.toNat_lt
  simp only [talkerFirstValue, append_assoc]
  simp (disch := simp) only [numberAt_skip, length_beBytes, Vector.length_toList,
    List.length_singleton, Nat.reduceSub]
  rw [numberAt_front _ _ (by simp), beNat_beBytes]
  omega

lemma numberAt_talker_bridgeId (h : d.type = .talkerFailed) :
    numberAt (talkerFirstValue dom d) 25 8 = beNat d.reservation.failureBridgeId.toList := by
  simp only [talkerFirstValue, append_assoc, if_pos h]
  simp (disch := simp) only [numberAt_skip, length_beBytes, Vector.length_toList,
    List.length_singleton, Nat.reduceSub]
  exact numberAt_front _ _ (by simp)

lemma numberAt_talker_failureCode (h : d.type = .talkerFailed) :
    numberAt (talkerFirstValue dom d) 33 1 = d.reservation.failureCode.toNat := by
  simp only [talkerFirstValue, append_assoc, if_pos h]
  simp (disch := simp) only [numberAt_skip, length_beBytes, Vector.length_toList,
    List.length_singleton, Nat.reduceSub]
  simp [numberAt, beNat]

end

/-! ## Encoders -/

section

variable (dom : SrpDomain) (msg : List UInt8) (d : MrpDeclaration)

def continuesFirst : Bool :=
  match d.type with
  | .talkerAdvertise | .talkerFailed => checkTalkerFirstvalueMerge msg d
  | .listener => checkListenerFirstvalueMerge msg d
  | _ => false

def takes : Bool :=
  byteAt msg 0 = encodeAttrType d.type && (numberOfValuesLow msg = 0 || continuesFirst msg d)

def withFirstValue : List UInt8 :=
  if numberOfValuesLow msg = 0 then overwrite msg 6 (firstValueBytes dom d) else msg

def encodeValue (event : ℕ) : List UInt8 :=
  let three := mrpEncodeThreePackedEvent (withFirstValue dom msg d) event d.type
  let four := if d.type = .listener then
      mrpEncodeFourPackedEvent three (listenerDeclaration dom d) d.type
    else three
  four.set 5 (UInt8.ofNat (numberOfValuesLow msg + 1))

lemma encodeMsg_eq {d : MrpDeclaration} (event : ℕ) (h : d.type ≠ .macVector) :
    encodeMsg dom msg d event =
      if takes msg d then some (encodeValue dom msg d event) else none := by
  unfold encodeMsg takes encodeValue withFirstValue firstValueBytes continuesFirst
  cases htype : d.type with
  | talkerAdvertise | talkerFailed =>
    simp only [encodeTalkerMessage, htype]
    split_ifs <;> simp_all
  | listener =>
    simp only [encodeListenerMessage, htype]
    split_ifs <;> simp_all
  | domainVector =>
    simp only [encodeDomainMessage, htype]
    split_ifs <;> simp_all
  | macVector => exact absurd htype h
  | vidVector =>
    simp only [avbMvrpMergeMessage, htype]
    split_ifs <;> simp_all

end

/-! ## Vectors -/

/-- The tests of `check_listener_firstvalue_merge`, `check_domain_firstvalue_merge` and
`check_talker_firstvalue_merge`: `d` can be the value with index `n` of a vector that
starts with `first`. -/
def Continues (first d : MrpDeclaration) (n : ℕ) : Prop :=
  d.type ≠ .domainVector ∧ (first.reservation.streamId + n) % 2 ^ 64 = d.reservation.streamId ∧
    (d.type.IsTalker → first.reservation.destMac + n = d.reservation.destMac ∧
      first.reservation.vlanId = d.reservation.vlanId ∧
      first.reservation.tspecMaxFrameSize = d.reservation.tspecMaxFrameSize)
  deriving Decidable

/-- **A vector under construction.**  All its values are of its type, and each of them but
the first has passed the test of its type against the first. -/
structure MsrpVector where
  type : MrpAttributeType
  leaveAll : Bool
  values : List MsrpValue
  msrp : type.IsMsrp
  sameType : ∀ x ∈ values, x.decl.type = type
  merged : ∀ i x, values[i]? = some x → ∀ first ∈ values.head?, 0 < i →
    Continues first.decl x.decl i

namespace MsrpVector

def empty (type : MrpAttributeType) (leaveAll : Bool) (h : type.IsMsrp) : MsrpVector where
  type := type
  leaveAll := leaveAll
  values := []
  msrp := h
  sameType := by simp
  merged := by simp

variable (dom : SrpDomain) (v : MsrpVector) (x : MsrpValue)

def Accepts : Prop :=
  v.type = x.decl.type ∧ ∀ first ∈ v.values.head?, Continues first.decl x.decl v.values.length
  deriving Decidable

def push (h : v.Accepts x) : MsrpVector where
  type := v.type
  leaveAll := v.leaveAll
  values := v.values ++ [x]
  msrp := v.msrp
  sameType := by
    intro y hy
    rcases List.mem_append.1 hy with hy | hy
    · exact v.sameType y hy
    · rw [List.mem_singleton.1 hy, h.1]
  merged := by
    intro i y hy first hfirst hi
    cases hv : v.values with
    | nil =>
      rw [hv] at hy
      have := (List.getElem?_eq_some_iff.1 hy).1
      simp at this
      omega
    | cons f vs =>
      have hhead : first ∈ v.values.head? := by
        rw [hv] at hfirst ⊢
        exact hfirst
      by_cases hlt : i < v.values.length
      · rw [List.getElem?_append_left hlt] at hy
        exact v.merged i y hy first hhead hi
      · have hle := (List.getElem?_eq_some_iff.1 hy).1
        rw [List.length_append, List.length_singleton] at hle
        have heq : i = v.values.length := by omega
        rw [heq, List.getElem?_append_right le_rfl, Nat.sub_self] at hy
        rw [← Option.some.inj hy, heq]
        exact h.2 first hhead

def threes : List ℕ := v.values.map fun x => x.event.code

def fours : List ℕ :=
  if v.type = .listener then v.values.map fun x => listenerDeclaration dom x.decl else []

def firstValue : List UInt8 :=
  match v.values with
  | [] => List.replicate (firstValueLength v.type) 0
  | x :: _ => firstValueBytes dom x.decl

def bytes : List UInt8 :=
  vectorBytes v.type v.leaveAll (v.firstValue dom) v.threes (v.fours dom) v.values.length []

variable (dom : SrpDomain) (v : MsrpVector)

lemma bytes_append (rest : List UInt8) :
    v.bytes dom ++ rest = vectorBytes v.type v.leaveAll (v.firstValue dom) v.threes (v.fours dom)
      v.values.length rest := by
  simp [bytes, vectorBytes, messageBytes]

lemma numberOfValuesLow_bytes (rest : List UInt8) (h : v.values.length < 256) :
    numberOfValuesLow (v.bytes dom ++ rest) = v.values.length := by
  rw [bytes_append, numberOfValuesLow_vectorBytes _ _ _ _ _ _ _ h]

lemma byteAt_zero_bytes (rest : List UInt8) :
    byteAt (v.bytes dom ++ rest) 0 = encodeAttrType v.type := by
  rw [bytes_append, byteAt_zero_vectorBytes]

lemma numberAt_bytes (rest : List UInt8) (a k : ℕ) (h : a + k ≤ (v.firstValue dom).length) :
    numberAt (v.bytes dom ++ rest) (6 + a) k = numberAt (v.firstValue dom) a k := by
  rw [bytes_append, numberAt_vectorBytes _ _ _ _ _ _ _ a k h]

@[simp] lemma length_threes : v.threes.length = v.values.length := by
  simp [threes]

lemma threes_lt : ∀ d ∈ v.threes, d < 6 := by
  intro d hd
  obtain ⟨x, -, rfl⟩ := List.mem_map.1 hd
  exact x.event.code_lt

lemma listenerDeclaration_lt (dom : SrpDomain) (d : MrpDeclaration) :
    listenerDeclaration dom d < 4 := by
  unfold listenerDeclaration
  split_ifs <;> decide

lemma fours_lt : ∀ d ∈ v.fours dom, d < 4 := by
  unfold fours
  split_ifs
  · intro d hd
    obtain ⟨x, -, rfl⟩ := List.mem_map.1 hd
    exact listenerDeclaration_lt dom x.decl
  · simp

lemma length_fours_of_listener (h : v.type = .listener) :
    (v.fours dom).length = v.values.length := by
  simp [fours, h]

lemma length_fours_le : (v.fours dom).length ≤ v.values.length := by
  unfold fours
  split_ifs <;> simp

lemma length_firstValue : (v.firstValue dom).length = firstValueLength v.type := by
  unfold firstValue
  cases hv : v.values with
  | nil => simp
  | cons x xs =>
    rw [length_firstValueBytes, v.sameType x (by rw [hv]; exact mem_cons_self)]

lemma length_bytes (h : v.values.length < 256) (rest : List UInt8) :
    4 + attributeListLength (v.bytes dom ++ rest) = (v.bytes dom).length := by
  have hfours := v.length_fours_le dom
  have hfirst := firstValueLength_le v.type
  rw [bytes_append, vectorBytes, attributeListLength_message, bytes, vectorBytes, messageBytes]
  · simp only [length_append, length_cons, length_nil]
    omega
  · simp only [length_append, length_packedBytes, length_threes, length_firstValue]
    omega

/-! ## Merging into a message -/

lemma firstValue_push (x : MsrpValue) (h : v.Accepts x) : (v.push x h).firstValue dom
      = if v.values.length = 0 then firstValueBytes dom x.decl else v.firstValue dom := by
  have hvalues : (v.push x h).values = v.values ++ [x] := rfl
  rw [firstValue, hvalues, firstValue]
  cases v.values <;> simp

lemma threes_push (x : MsrpValue) (h : v.Accepts x) :
    (v.push x h).threes = v.threes ++ [x.event.code] := by
  simp [threes, push]

lemma fours_push_listener (x : MsrpValue) (h : v.Accepts x) (hl : v.type = .listener) :
    (v.push x h).fours dom = v.fours dom ++ [listenerDeclaration dom x.decl] := by
  simp [fours, push, hl]

lemma fours_of_ne (h : v.type ≠ .listener) : v.fours dom = [] := if_neg h

end MsrpVector

lemma encodeAttrType_inj {t u : MrpAttributeType} (ht : t.IsMsrp) (hu : u.IsMsrp) :
    encodeAttrType t = encodeAttrType u ↔ t = u := by
  revert ht hu
  cases t <;> cases u <;> decide

section

variable (dom : SrpDomain) (v : MsrpVector) (x : MsrpValue) (rest : List UInt8)

lemma checkTalkerFirstvalueMerge_vector {first : MsrpValue} (hfirst : first ∈ v.values.head?)
    (hn : v.values.length < 256) (htype : v.type = x.decl.type) (ht : x.decl.type.IsTalker) :
    checkTalkerFirstvalueMerge (v.bytes dom ++ rest) x.decl
      ↔ Continues first.decl x.decl v.values.length := by
  obtain ⟨fs, hv⟩ := List.head?_eq_some_iff.1 hfirst
  have hft : first.decl.type.IsTalker := by
    rw [v.sameType first (by rw [hv]; exact mem_cons_self), htype]
    exact ht
  have hbytes : v.firstValue dom = talkerFirstValue dom first.decl := by
    rw [MsrpVector.firstValue, hv]
    exact firstValueBytes_talker dom hft
  have hlen : 25 ≤ (v.firstValue dom).length := by
    rw [v.length_firstValue, htype]
    rcases ht with h | h <;> rw [h] <;> decide
  have hne : x.decl.type ≠ .domainVector := by
    rcases ht with h | h <;> rw [h] <;> decide
  rw [checkTalkerFirstvalueMerge, v.numberOfValuesLow_bytes dom rest hn,
    v.numberAt_bytes dom rest 8 6 (by omega), v.numberAt_bytes dom rest 0 8 (by omega),
    v.numberAt_bytes dom rest 14 2 (by omega), v.numberAt_bytes dom rest 16 2 (by omega),
    hbytes, numberAt_talker_streamId, numberAt_talker_destMac,
    numberAt_talker_vlan _ _ (first.vlan_ne hft), numberAt_talker_maxFrameSize]
  simp only [Bool.and_eq_true, decide_eq_true_eq, Continues, UInt16.toNat_inj]
  constructor
  · rintro ⟨⟨⟨hmac, hid⟩, hvlan⟩, hsize⟩
    exact ⟨hne, hid, fun _ => ⟨hmac, hvlan, hsize⟩⟩
  · rintro ⟨-, hid, htalker⟩
    obtain ⟨hmac, hvlan, hsize⟩ := htalker ht
    exact ⟨⟨⟨hmac, hid⟩, hvlan⟩, hsize⟩

lemma checkListenerFirstvalueMerge_vector {first : MsrpValue} (hfirst : first ∈ v.values.head?)
    (hn : v.values.length < 256) (htype : v.type = x.decl.type) (hl : x.decl.type = .listener) :
    checkListenerFirstvalueMerge (v.bytes dom ++ rest) x.decl
      ↔ Continues first.decl x.decl v.values.length := by
  obtain ⟨fs, hv⟩ := List.head?_eq_some_iff.1 hfirst
  have hfl : first.decl.type = .listener := by
    rw [v.sameType first (by rw [hv]; exact mem_cons_self), htype, hl]
  have hbytes : v.firstValue dom = listenerFirstValue first.decl := by
    rw [MsrpVector.firstValue, hv]
    exact firstValueBytes_listener dom hfl
  have hlen : (v.firstValue dom).length = 8 := by
    rw [v.length_firstValue, htype, hl]
    rfl
  rw [checkListenerFirstvalueMerge, v.numberOfValuesLow_bytes dom rest hn,
    v.numberAt_bytes dom rest 0 8 (by omega), hbytes, numberAt_listener_streamId]
  simp [Continues, MrpAttributeType.IsTalker, hl]

lemma accepts_iff (test : Bool) (htype : v.type = x.decl.type)
    (htest : ∀ first ∈ v.values.head?, test ↔ Continues first.decl x.decl v.values.length) :
    (v.values.length = 0 ∨ test) ↔ v.Accepts x := by
  unfold MsrpVector.Accepts
  cases hv : v.values with
  | nil => simp [htype]
  | cons f fs =>
    have hf := htest f (by rw [hv]; rfl)
    rw [hv] at hf
    simp [htype, hf]

/-- **The three steps of every encoder**: the first value if there is none, the events, the
number of values. -/
theorem encode_three_vector (h : v.Accepts x) (hn : v.values.length < 256) :
    mrpEncodeThreePackedEvent
        (if v.values.length = 0 then overwrite (v.bytes dom ++ rest) 6 (firstValueBytes dom x.decl)
          else v.bytes dom ++ rest) x.event.code x.decl.type
      = vectorBytes v.type v.leaveAll ((v.push x h).firstValue dom) (v.push x h).threes
          (v.fours dom) v.values.length rest := by
  have hlen : ((v.push x h).firstValue dom).length = firstValueLength v.type :=
    (v.push x h).length_firstValue dom
  have hfours := v.length_fours_le dom
  have hwrite : (if v.values.length = 0 then
        overwrite (v.bytes dom ++ rest) 6 (firstValueBytes dom x.decl)
      else v.bytes dom ++ rest)
      = vectorBytes v.type v.leaveAll ((v.push x h).firstValue dom) v.threes (v.fours dom)
          v.values.length rest := by
    rw [v.firstValue_push, v.bytes_append]
    split_ifs
    · rw [overwrite_first_vectorBytes]
      rw [v.length_firstValue, length_firstValueBytes, h.1]
    · rfl
  rw [hwrite, v.threes_push, ← h.1]
  conv_lhs => rw [← v.length_threes]
  rw [mrpEncodeThreePackedEvent_vectorBytes _ hlen v.threes_lt (by simpa using hn) (by omega),
    v.length_threes]

lemma continuesFirst_vector {first : MsrpValue} (hfirst : first ∈ v.values.head?)
    (hn : v.values.length < 256) (htype : v.type = x.decl.type) :
    continuesFirst (v.bytes dom ++ rest) x.decl ↔
      Continues first.decl x.decl v.values.length := by
  unfold continuesFirst
  rcases x.msrp with ht | hl | hd
  · rw [← checkTalkerFirstvalueMerge_vector dom v x rest hfirst hn htype ht]
    rcases ht with ht | ht <;> rw [ht]
  · rw [hl]
    exact checkListenerFirstvalueMerge_vector dom v x rest hfirst hn htype hl
  · simp [hd, Continues]

lemma takes_vector (hn : v.values.length < 256) :
    takes (v.bytes dom ++ rest) x.decl ↔ v.Accepts x := by
  unfold takes
  rw [Bool.and_eq_true, decide_eq_true_iff, Bool.or_eq_true, decide_eq_true_iff,
    v.byteAt_zero_bytes, v.numberOfValuesLow_bytes dom rest hn, encodeAttrType_inj v.msrp x.msrp]
  constructor
  · rintro ⟨htype, htest⟩
    exact (accepts_iff v x _ htype fun first hf =>
      continuesFirst_vector dom v x rest hf hn htype).1 htest
  · intro h
    exact ⟨h.1, (accepts_iff v x _ h.1 fun first hf =>
      continuesFirst_vector dom v x rest hf hn h.1).2 h⟩

lemma encodeValue_vector (h : v.Accepts x) (hn : v.values.length < 256) :
    encodeValue dom (v.bytes dom ++ rest) x.decl x.event.code
      = (v.push x h).bytes dom ++ rest := by
  unfold encodeValue withFirstValue
  dsimp only
  rw [v.numberOfValuesLow_bytes dom rest hn, encode_three_vector dom v x rest h hn, ← h.1]
  by_cases hl : v.type = .listener
  · have hfours := v.length_fours_of_listener dom hl
    have hthrees : (v.push x h).threes.length = (v.fours dom).length + 1 := by
      rw [MsrpVector.length_threes, hfours]
      simp [MsrpVector.push]
    have hfour : mrpEncodeFourPackedEvent (vectorBytes v.type v.leaveAll
          ((v.push x h).firstValue dom) (v.push x h).threes (v.fours dom)
          (v.fours dom).length rest) (listenerDeclaration dom x.decl) v.type
        = vectorBytes v.type v.leaveAll ((v.push x h).firstValue dom) (v.push x h).threes
          (v.fours dom ++ [listenerDeclaration dom x.decl]) (v.fours dom).length rest :=
      mrpEncodeFourPackedEvent_vectorBytes _ ((v.push x h).length_firstValue dom) hthrees
        (v.fours_lt dom) (by omega)
    rw [hfours, ← v.fours_push_listener dom x h hl] at hfour
    rw [if_pos hl, hfour, set_count_vectorBytes, MsrpVector.bytes_append]
    simp [MsrpVector.push]
  · rw [if_neg hl, set_count_vectorBytes, MsrpVector.bytes_append, v.fours_of_ne dom hl,
      (v.push x h).fours_of_ne dom hl]
    simp [MsrpVector.push]

/-- **`encode_msg` on a vector.**  It adds the value exactly if the vector accepts it, and
leaves the rest of the packet as it is. -/
theorem encodeMsg_vector (hn : v.values.length < 256) :
    encodeMsg dom (v.bytes dom ++ rest) x.decl x.event.code
      = if h : v.Accepts x then some ((v.push x h).bytes dom ++ rest) else none := by
  have hmac : x.decl.type ≠ .macVector := by
    intro hmac
    have hmsrp := x.msrp
    rw [hmac] at hmsrp
    revert hmsrp
    decide
  rw [encodeMsg_eq dom _ x.event.code hmac]
  by_cases h : v.Accepts x
  · rw [if_pos ((takes_vector dom v x rest hn).2 h), dif_pos h,
      encodeValue_vector dom v x rest h hn]
  · rw [if_neg (mt (takes_vector dom v x rest hn).1 h), dif_neg h]

end

/-! ## Packets -/

def packetBytes (vs : List MsrpVector) : List UInt8 := vs.flatMap (·.bytes dom)

lemma MsrpVector.accepts_empty (leaveAll : Bool) : (empty x.decl.type leaveAll x.msrp).Accepts x :=
  ⟨rfl, by simp [empty]⟩

/-- **Adding a value**: to the first vector that accepts it, or as a vector of its own. -/
def addValue (x : MsrpValue) : List MsrpVector → List MsrpVector
  | [] => [(MsrpVector.empty x.decl.type false x.msrp).push x (MsrpVector.accepts_empty x false)]
  | v :: vs => if h : v.Accepts x then v.push x h :: vs else v :: addValue x vs

lemma createEmptyMsg_eq_bytes {type : MrpAttributeType} (leaveAll : Bool) (h : type.IsMsrp) :
    createEmptyMsg type leaveAll = (MsrpVector.empty type leaveAll h).bytes dom := by
  rw [createEmptyMsg_eq, MsrpVector.bytes]
  simp [MsrpVector.empty, MsrpVector.firstValue, MsrpVector.threes, MsrpVector.fours]

variable (v : MsrpVector) (src : Vector UInt8 6)

lemma MsrpVector.eight_le_length_bytes : 8 ≤ (v.bytes dom).length := by
  simp only [bytes, vectorBytes, messageBytes, length_cons, length_append]
  omega

lemma MsrpVector.byteAt_zero_ne (rest : List UInt8) : byteAt (v.bytes dom ++ rest) 0 ≠ 0 := by
  rw [v.byteAt_zero_bytes]
  cases v.type <;> decide

/-- **`doTx` on a packet.**  The loop passes the vectors that do not accept the value. -/
theorem txFinish_txWalk (fuel : ℕ) (hfuel : vs.length ≤ fuel)
    (hvs : ∀ v ∈ vs, v.values.length < 256) (done : List UInt8) : txFinish dom x.decl x.event.code
        (txWalk dom x.decl x.event.code fuel done (packetBytes dom vs))
      = done ++ packetBytes dom (addValue x vs) := by
  induction vs generalizing fuel done with
  | nil =>
    have hexit : txWalk dom x.decl x.event.code fuel done (packetBytes dom []) =
        (done, [], false) := by
      cases fuel <;> simp [txWalk, packetBytes]
    have hnew := encodeMsg_vector dom (MsrpVector.empty x.decl.type false x.msrp) x []
      (by simp [MsrpVector.empty])
    rw [dif_pos (MsrpVector.accepts_empty x false), append_nil] at hnew
    rw [hexit, txFinish]
    simp only [Bool.false_eq_true, if_false, nil_append]
    rw [createEmptyMsg_eq_bytes dom false x.msrp, hnew]
    simp [addValue, packetBytes]
  | cons v vs ih =>
    obtain ⟨k, rfl⟩ : ∃ k, fuel = k + 1 := ⟨fuel - 1, by simp at hfuel; omega⟩
    have hn := hvs v mem_cons_self
    have hlong := v.eight_le_length_bytes dom
    have hbytes : packetBytes dom (v :: vs) = v.bytes dom ++ packetBytes dom vs := rfl
    have hne : v.bytes dom ++ packetBytes dom vs ≠ [] := by
      intro h
      rw [(List.append_eq_nil_iff.1 h).1, length_nil] at hlong
      omega
    rw [hbytes, txWalk, if_pos ⟨hne, Or.inl (v.byteAt_zero_ne dom _)⟩,
      encodeMsg_vector dom v x _ hn, addValue]
    by_cases h : v.Accepts x
    · simp [h, txFinish, packetBytes]
    · simp only [dif_neg h]
      rw [v.length_bytes dom hn, take_left, List.drop_left,
        ih k (by simp at hfuel; omega) (fun w hw => hvs w (List.mem_cons_of_mem v hw)),
        append_assoc]
      rfl

lemma length_le_packetBytes : vs.length ≤ (packetBytes dom vs).length := by
  induction vs with
  | nil => simp
  | cons v vs ih =>
    have hlong := v.eight_le_length_bytes dom
    show vs.length + 1 ≤ (v.bytes dom ++ packetBytes dom vs).length
    rw [length_append]
    omega

lemma packetBytes_eq_nil_iff : packetBytes dom vs = [] ↔ vs = [] := by
  constructor
  · intro h
    have hlen := length_le_packetBytes dom vs
    rw [h] at hlen
    exact List.eq_nil_of_length_eq_zero (by simpa using hlen)
  · rintro rfl
    rfl

lemma txBuild_packetBytes (hvs : ∀ v ∈ vs, v.values.length < 256) :
    txBuild dom (packetBytes dom vs) x.decl x.event.code = packetBytes dom (addValue x vs) := by
  rw [txBuild, txFinish_txWalk dom x vs _ (length_le_packetBytes dom vs) hvs, nil_append]

lemma addValue_perm : ((addValue x vs).flatMap (·.values)).Perm (vs.flatMap (·.values) ++ [x]) := by
  induction vs with
  | nil => simp [addValue, MsrpVector.push, MsrpVector.empty]
  | cons v vs ih =>
    rw [addValue]
    split_ifs with h
    · show ((v.values ++ [x]) ++ vs.flatMap (·.values)).Perm
        (v.values ++ vs.flatMap (·.values) ++ [x])
      rw [append_assoc, append_assoc]
      exact List.perm_append_comm.append_left v.values
    · show (v.values ++ (addValue x vs).flatMap (·.values)).Perm
        (v.values ++ vs.flatMap (·.values) ++ [x])
      rw [append_assoc]
      exact ih.append_left v.values

lemma exists_longer_of_mem {x : MsrpValue} {vs : List MsrpVector} {v : MsrpVector}
    (hv : v ∈ vs) : ∃ w ∈ addValue x vs, v.values.length ≤ w.values.length := by
  induction vs with
  | nil => simp at hv
  | cons u us ih =>
    rw [addValue]
    split_ifs with h
    · rcases List.mem_cons.1 hv with rfl | hv
      · exact ⟨_, mem_cons_self, by simp [MsrpVector.push]⟩
      · exact ⟨v, List.mem_cons_of_mem _ hv, le_rfl⟩
    · rcases List.mem_cons.1 hv with rfl | hv
      · exact ⟨v, mem_cons_self, le_rfl⟩
      · obtain ⟨w, hw, hle⟩ := ih hv
        exact ⟨w, List.mem_cons_of_mem _ hw, hle⟩

/-! ## A transmit opportunity -/

/-- What `mrp_periodic` puts into MSRP packets: empty LeaveAll messages and declarations. -/
inductive MsrpRequest where
  | leaveAll (type : MrpAttributeType) (h : type.IsMsrp)
  | declare (x : MsrpValue)

def MsrpRequest.value? : MsrpRequest → Option MsrpValue
  | .leaveAll _ _ => none
  | .declare x => some x

def txRequest (dom : SrpDomain) (tx : MrpTx) : MsrpRequest → MrpTx
  | .leaveAll type _ => txLeaveAll src type tx
  | .declare x => txDeclaration src dom x.decl x.event.code tx

def msrpTransmit (dom : SrpDomain) (rs : List MsrpRequest) : List (List UInt8) :=
  (forceSend src (rs.foldl (txRequest src dom) ⟨.srp, [], []⟩)).frames

structure MsrpTx where
  current : List MsrpVector
  sent : List (List MsrpVector)

namespace MsrpTx

variable (dom : SrpDomain) (a : MsrpTx)

def vectors : List MsrpVector := a.sent.flatten ++ a.current

def flush : MsrpTx :=
  if a.current = [] then a else ⟨[], a.sent ++ [a.current]⟩

def send : MsrpTx :=
  if mrpSendBufferSize < mrpHeaderSize + (packetBytes dom a.current).length + maxMrpMsgSize + 2 then
    a.flush
  else a

def place (vs : List MsrpVector) : MsrpRequest → List MsrpVector
  | .leaveAll type h => vs ++ [MsrpVector.empty type true h]
  | .declare x => addValue x vs

variable (rs : List MsrpRequest) (r : MsrpRequest)

def request : MsrpTx :=
  send dom { a with current := place a.current r }

def requests : MsrpTx :=
  Run.runFrom (request dom) ⟨[], []⟩ rs

lemma requests_snoc : requests dom (rs ++ [r]) = (requests dom rs).request dom r :=
  Run.runFrom_append _ _ _ _

end MsrpTx

def packetFrame (dom : SrpDomain) (vs : List MsrpVector) : List UInt8 :=
  mrpHeader src .srp ++ packetBytes dom vs
    ++ List.replicate (max 4 (64 - (mrpHeaderSize + (packetBytes dom vs).length))) 0

def MsrpTx.toMrpTx (dom : SrpDomain) (a : MsrpTx) : MrpTx where
  etype := .srp
  buf := packetBytes dom a.current
  frames := a.sent.map (packetFrame src dom)

section

variable (src : Vector UInt8 6) (dom : SrpDomain)
variable (a : MsrpTx) (r : MsrpRequest) (rs : List MsrpRequest)

@[simp] lemma MsrpTx.vectors_flush : a.flush.vectors = a.vectors := by
  unfold flush
  split_ifs
  · rfl
  · simp [vectors]

@[simp] lemma MsrpTx.vectors_send : (a.send dom).vectors = a.vectors := by
  unfold send
  split_ifs
  · exact a.vectors_flush
  · rfl

lemma MsrpTx.vectors_request : (a.request dom r).vectors = a.sent.flatten ++ place a.current r := by
  rw [request, vectors_send]
  rfl

lemma forceSend_toMrpTx : forceSend src (a.toMrpTx src dom) = a.flush.toMrpTx src dom := by
  have hbuf : (a.toMrpTx src dom).buf = [] ↔ a.current = [] := packetBytes_eq_nil_iff dom _
  unfold forceSend MsrpTx.flush
  by_cases h : a.current = []
  · rw [if_pos h, if_pos (hbuf.2 h)]
  · rw [if_neg h, if_neg (mt hbuf.1 h)]
    simp [MsrpTx.toMrpTx, packetFrame, packetBytes, stripAttributeListLengthFields]

lemma mrpSend_toMrpTx : mrpSend src (a.toMrpTx src dom) = (a.send dom).toMrpTx src dom := by
  unfold mrpSend MsrpTx.send
  rw [forceSend_toMrpTx]
  split_ifs <;> first | rfl | contradiction

/-- **One request** on bytes is one request on vectors. -/
theorem txRequest_toMrpTx (ha : ∀ v ∈ a.current, v.values.length < 256) :
    txRequest src dom (a.toMrpTx src dom) r = (a.request dom r).toMrpTx src dom := by
  rw [MsrpTx.request, ← mrpSend_toMrpTx]
  cases r with
  | leaveAll type h =>
    show mrpSend src _ = mrpSend src _
    rw [createEmptyMsg_eq_bytes dom true h]
    simp [MsrpTx.toMrpTx, MsrpTx.place, packetBytes]
  | declare x =>
    show mrpSend src
      { a.toMrpTx src dom with buf := txBuild dom (packetBytes dom a.current) _ _ } = _
    rw [txBuild_packetBytes dom x _ ha]
    rfl

lemma MsrpTx.short_of_request {a : MsrpTx} {r : MsrpRequest}
    (h : ∀ v ∈ (a.request dom r).vectors, v.values.length < 256) :
    ∀ v ∈ a.vectors, v.values.length < 256 := by
  rw [vectors_request] at h
  intro v hv
  rcases List.mem_append.1 hv with hv | hv
  · exact h v (List.mem_append_left _ hv)
  · cases r with
    | leaveAll type ht => exact h v (List.mem_append_right _ (List.mem_append_left _ hv))
    | declare x =>
      obtain ⟨w, hw, hle⟩ := exists_longer_of_mem (x := x) hv
      exact lt_of_le_of_lt hle (h w (List.mem_append_right _ hw))

/-- **A row of requests**, as long as no vector gets too long to count its values. -/
theorem foldl_txRequest (h : ∀ v ∈ (MsrpTx.requests dom rs).vectors, v.values.length < 256) :
    rs.foldl (txRequest src dom) ⟨.srp, [], []⟩ = (MsrpTx.requests dom rs).toMrpTx src dom := by
  induction rs using List.reverseRecOn with
  | nil => rfl
  | append_singleton rs r ih =>
    rw [MsrpTx.requests_snoc] at h ⊢
    have hshort := MsrpTx.short_of_request dom h
    rw [List.foldl_append, ih hshort, List.foldl_cons, List.foldl_nil, txRequest_toMrpTx]
    intro v hv
    exact hshort v (List.mem_append_right _ hv)

def msrpPackets (rs : List MsrpRequest) : List (List MsrpVector) :=
  (MsrpTx.requests dom rs).flush.sent

lemma msrpPackets_flatten : (msrpPackets dom rs).flatten = (MsrpTx.requests dom rs).vectors := by
  rw [← MsrpTx.vectors_flush, MsrpTx.vectors, msrpPackets]
  have hempty : (MsrpTx.requests dom rs).flush.current = [] := by
    unfold MsrpTx.flush
    split_ifs with h
    · exact h
    · rfl
  rw [hempty, append_nil]

/-- **Refinement.**  The frames the code sends are those of the packets. -/
theorem msrpTransmit_eq (h : ∀ v ∈ (msrpPackets dom rs).flatten, v.values.length < 256) :
    msrpTransmit src dom rs = (msrpPackets dom rs).map (packetFrame src dom) := by
  rw [msrpPackets_flatten] at h
  rw [msrpTransmit, foldl_txRequest src dom rs h, forceSend_toMrpTx]
  rfl

lemma msrpPackets_perm :
    ((msrpPackets dom rs).flatten.flatMap (·.values)).Perm (rs.filterMap (·.value?)) := by
  rw [msrpPackets_flatten]
  induction rs using List.reverseRecOn with
  | nil => exact List.Perm.refl _
  | append_singleton rs r ih =>
    rw [MsrpTx.vectors, List.flatMap_append] at ih
    rw [MsrpTx.requests_snoc, MsrpTx.vectors_request, List.flatMap_append, List.filterMap_append]
    cases r with
    | leaveAll type h => simpa [MsrpTx.place, MsrpVector.empty, MsrpRequest.value?] using ih
    | declare x =>
      have hadd := (addValue_perm x (MsrpTx.requests dom rs).current).append_left
        ((MsrpTx.requests dom rs).sent.flatten.flatMap (·.values))
      rw [← append_assoc] at hadd
      exact hadd.trans (ih.append_right [x])

end
