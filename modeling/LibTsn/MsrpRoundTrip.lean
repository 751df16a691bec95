/-
# MSRP packets read back

The walk of `avb_mrp_process_packet` over a frame the transmitter has sent finds
the values of its vectors, one by one (`walkMessages_packet`).  A value that is
not the first of its vector is read as "first value plus index", so that what it
says about the fields no merge test looks at is what the first value says: the
declarations come back as they were exactly if, at every merge, these fields
agree (`msrp_round_trip_iff`).
-/
import LibTsn.MsrpEncode

open List (getD_eq_getElem getElem_mem getElem_map length_append mem_cons_self mem_cons_of_mem)

/-! ## What is read -/

inductive MsrpContent where
  | talker (streamId destMac vlan maxFrameSize maxInterval tspec latency : ℕ)
      (failure : Option (ℕ × ℕ))
  | listener (streamId : ℕ)
  | domain (classId priority vid : ℕ)
  deriving DecidableEq

structure MsrpOccurrence where
  type : MrpAttributeType
  event : ℕ
  declaration : ℕ
  content : MsrpContent
  deriving DecidableEq

/-- The talker fields of `avb_srp_match_talker_advertise`: the index counts for the stream
id and for the destination address. -/
def talkerContentAt (pkt : Mem) (fv i : ℕ) (failure : Option (ℕ × ℕ)) : MsrpContent :=
  .talker ((beNat (pkt.load fv 8) + i) % 2 ^ 64) ((beNat (pkt.load (fv + 8) 6) + i) % 2 ^ 48)
    (beNat (pkt.load (fv + 14) 2)) (beNat (pkt.load (fv + 16) 2)) (beNat (pkt.load (fv + 18) 2))
    (beNat (pkt.load (fv + 20) 1)) (beNat (pkt.load (fv + 21) 4)) failure

def contentAt (pkt : Mem) (fv i : ℕ) : MrpAttributeType → Option MsrpContent
  | .talkerAdvertise => some (talkerContentAt pkt fv i none)
  | .talkerFailed => some (talkerContentAt pkt fv i
      (some (beNat (pkt.load (fv + 25) 8), beNat (pkt.load (fv + 33) 1))))
  | .listener => some (.listener ((beNat (pkt.load fv 8) + i) % 2 ^ 64))
  | .domainVector => some (.domain ((beNat (pkt.load fv 1) + i) % 2 ^ 8)
      ((beNat (pkt.load (fv + 1) 1) + i) % 2 ^ 8) (beNat (pkt.load (fv + 2) 2)))
  | .macVector | .vidVector => none

def occurrenceOf (pkt : Mem) : MrpVisit → Option MsrpOccurrence
  | .value (some type) fv i three four _ =>
    (contentAt pkt fv i type).map fun content => ⟨type, three, four, content⟩
  | _ => none

def frameOccurrences (frame : List UInt8) : List MsrpOccurrence :=
  (mrpVisits .srp (framePacket frame) (frame.length - 14)).filterMap
    (occurrenceOf (framePacket frame))

variable (src : Vector UInt8 6) (dom : SrpDomain) {pkt : Mem} (vs : List MsrpVector)
variable (r : AvbSrpInfo) {fv : ℕ} (x : MsrpValue) (d : MrpDeclaration) (rs : List MsrpRequest)

def MrpDeclaration.content : MsrpContent :=
  if d.type = .domainVector then .domain 6 3 (dom.vlanId % 2 ^ 16)
  else if d.type = .listener then .listener d.reservation.streamId
  else
    .talker d.reservation.streamId d.reservation.destMac d.reservation.vlanId.toNat
      d.reservation.tspecMaxFrameSize.toNat d.reservation.tspecMaxInterval.toNat
      d.reservation.tspec.toNat d.reservation.accumulatedLatency.toNat
      (if d.type = .talkerFailed then
        some (beNat d.reservation.failureBridgeId.toList, d.reservation.failureCode.toNat)
      else none)

def MsrpValue.occurrenceAs (content : MsrpContent) : MsrpOccurrence where
  type := x.decl.type
  event := x.event.code
  declaration := if x.decl.type = .listener then listenerDeclaration dom x.decl else 0
  content := content

def MsrpValue.occurrence : MsrpOccurrence :=
  x.occurrenceAs dom (x.decl.content dom)

def AgreeUnchecked (first d : MrpDeclaration) : Prop :=
  d.type.IsTalker →
    first.reservation.tspecMaxInterval = d.reservation.tspecMaxInterval ∧
    first.reservation.tspec = d.reservation.tspec ∧
    first.reservation.accumulatedLatency = d.reservation.accumulatedLatency ∧
    (d.type = .talkerFailed →
      first.reservation.failureBridgeId = d.reservation.failureBridgeId ∧
      first.reservation.failureCode = d.reservation.failureCode)
  deriving Decidable

/-! ## The walk over one message -/

section

variable (pkt : Mem)

def collect (visits : List MrpVisit) (v : MrpVisit) : List MrpVisit := visits ++ [v]

/-- **The values of a vector**, when all its bytes are packed values. -/
theorem walkValues_collect (type : Option MrpAttributeType) (fv fvl threeLen : ℕ) (leaveAll : Bool)
    (three four : ℕ → ℕ) (n i : ℕ) (visits : List MrpVisit)
    (hvalid : ∀ j, i ≤ j → j < i + n → (pkt (fv + fvl + j / 3)).toNat ≤ 0xd7)
    (hthree : ∀ j, i ≤ j → j < i + n →
      decodeThreepacked (pkt (fv + fvl + j / 3)).toNat (j % 3) = three j)
    (hfour : ∀ j, i ≤ j → j < i + n → (if type = some .listener then
      decodeFourpacked (pkt (fv + fvl + threeLen + j / 4)).toNat (j % 4) else 0) = four j) :
    walkValues (fun _ => pkt) collect type fv fvl threeLen leaveAll n i visits
      = visits ++ (List.range' i n).map fun j => .value type fv j (three j) (four j) leaveAll := by
  induction n generalizing i visits with
  | zero => simp [walkValues]
  | succ n ih =>
    have hv := hvalid i le_rfl (by omega)
    rw [walkValues, if_neg (by omega), hthree i le_rfl (by omega), hfour i le_rfl (by omega),
      ih (i + 1) _ (fun j hj hj' => hvalid j (by omega) (by omega))
        (fun j hj hj' => hthree j (by omega) (by omega))
        (fun j hj hj' => hfour j (by omega) (by omega))]
    simp [collect, List.range'_succ]

lemma packed_digit {a b k : ℕ} {ds : List ℕ} (h : pkt.Holds a (packedBytes b k ds))
    (hds : ∀ d ∈ ds, d < b) (hb : 0 < b) (hk : 0 < k) (hbk : b ^ k ≤ 256) {j : ℕ}
    (hj : j < ds.length) : (pkt (a + j / k)).toNat < b ^ k ∧
      (pkt (a + j / k)).toNat / b ^ (k - 1 - j % k) % b = ds.getD j 0 := by
  have hlt : j / k < (Packing.words b k ds).length := by
    have hdiv := Nat.div_add_mod j k
    rw [Packing.length_words, Nat.lt_iff_add_one_le, Nat.le_div_iff_mul_le hk, Nat.add_mul,
      Nat.mul_comm (j / k)]
    omega
  have hword : (Packing.words b k ds).getD (j / k) 0 < b ^ k := by
    rw [getD_eq_getElem _ _ hlt]
    exact Packing.words_lt b k ds hds hb _ (getElem_mem hlt)
  have hbyte : (pkt (a + j / k)).toNat = (Packing.words b k ds).getD (j / k) 0 := by
    rw [h.apply (by simpa [packedBytes] using hlt), packedBytes,
      getD_eq_getElem _ _ (by simpa using hlt), getElem_map, UInt8.toNat_ofNat',
      ← getD_eq_getElem _ 0 hlt]
    exact Nat.mod_eq_of_lt (lt_of_lt_of_le hword hbk)
  rw [hbyte]
  exact ⟨hword, Packing.words_digit b k ds hds hb hk j hj⟩

end

namespace MsrpVector

variable (dom : SrpDomain) (v : MsrpVector)

def visits (a : ℕ) : List MrpVisit :=
  (if v.leaveAll then [.leaveAll (some v.type)] else []) ++
    (List.range v.values.length).map fun i =>
      .value (some v.type) (a + 6) i (v.threes.getD i 0) ((v.fours dom).getD i 0) v.leaveAll

def Sound : Prop := v.leaveAll = true ∨ v.values ≠ []

lemma holds_bytes {pkt : Mem} {a : ℕ} (h : pkt.Holds a (v.bytes dom)) :
    pkt a = UInt8.ofNat (encodeAttrType v.type) ∧
    pkt (a + 1) = UInt8.ofNat (firstValueLength v.type) ∧
    (pkt (a + 2)).toNat * 256 + (pkt (a + 3)).toNat = attributeListLength (v.bytes dom) ∧
    pkt (a + 4) = (if v.leaveAll then 0x20 else 0) ∧
    pkt (a + 5) = UInt8.ofNat v.values.length ∧
    pkt.Holds (a + 6) (v.firstValue dom) ∧
    pkt.Holds (a + 6 + firstValueLength v.type) (packedBytes 6 3 v.threes) ∧
    pkt.Holds (a + 6 + firstValueLength v.type + (v.values.length + 2) / 3)
      (packedBytes 4 4 (v.fours dom)) ∧
    pkt.Holds (a + 6 + firstValueLength v.type + (v.values.length + 2) / 3
      + ((v.fours dom).length + 3) / 4) [0, 0] := by
  have hlong := v.eight_le_length_bytes dom
  have hbody : pkt.Holds (a + 6)
      (v.firstValue dom ++ packedBytes 6 3 v.threes ++
        packedBytes 4 4 (v.fours dom) ++ [0, 0]) := by
    have hcut : pkt.Holds a ((v.bytes dom).take 6) ∧
        pkt.Holds (a + ((v.bytes dom).take 6).length) ((v.bytes dom).drop 6) :=
      Mem.holds_append.1 (by rwa [List.take_append_drop])
    rw [List.length_take, Nat.min_eq_left (by omega)] at hcut
    exact hcut.2
  rw [Mem.holds_append, Mem.holds_append, Mem.holds_append] at hbody
  obtain ⟨⟨⟨hfirst, hthree⟩, hfour⟩, hmark⟩ := hbody
  simp only [length_append, length_firstValue, length_packedBytes, length_threes,
    ← Nat.add_assoc] at hthree hfour hmark
  refine ⟨h.apply (i := 0) (by omega), h.apply (i := 1) (by omega), ?_,
    h.apply (i := 4) (by omega), h.apply (i := 5) (by omega), hfirst, hthree, hfour, hmark⟩
  rw [h.apply (i := 2) (by omega), h.apply (i := 3) (by omega)]
  rfl

lemma length_bytes_eq : (v.bytes dom).length
      = 8 + firstValueLength v.type + (v.values.length + 2) / 3 +
        ((v.fours dom).length + 3) / 4 := by
  simp only [bytes, vectorBytes, messageBytes, List.length_cons, length_append,
    length_packedBytes, length_threes, length_firstValue, List.length_nil]
  omega

lemma fourLen_eq : (if some v.type = some .listener then (v.values.length + 3) / 4 else 0)
      = ((v.fours dom).length + 3) / 4 := by
  unfold fours
  by_cases h : v.type = .listener <;> simp [h]

lemma walkValues_vector {pkt : Mem} {a : ℕ} (h : pkt.Holds a (v.bytes dom))
    (found : List MrpVisit) :
    walkValues (fun _ => pkt) collect (some v.type) (a + 6) (firstValueLength v.type)
        ((v.values.length + 2) / 3) v.leaveAll v.values.length 0 found
      = found ++ (List.range v.values.length).map fun i =>
          .value (some v.type) (a + 6) i (v.threes.getD i 0) ((v.fours dom).getD i 0)
            v.leaveAll := by
  obtain ⟨-, -, -, -, -, -, hthree, hfour, -⟩ := v.holds_bytes dom h
  have hdigit : ∀ j, j < v.values.length → _ := fun j hj =>
    packed_digit pkt hthree v.threes_lt (by norm_num) (by norm_num) (by norm_num)
      (by rwa [length_threes] : j < v.threes.length)
  rw [walkValues_collect pkt (some v.type) (a + 6) (firstValueLength v.type) _ v.leaveAll
    (fun i => v.threes.getD i 0) (fun i => (v.fours dom).getD i 0), List.range_eq_range']
  · intro j _ hj
    have hlt := (hdigit j (by omega)).1
    norm_num at hlt
    omega
  · intro j _ hj
    exact (hdigit j (by omega)).2
  · intro j _ hj
    by_cases hl : v.type = .listener
    · rw [if_pos (by rw [hl])]
      exact (packed_digit pkt hfour (v.fours_lt dom) (by norm_num) (by norm_num) (by norm_num)
        (by rw [v.length_fours_of_listener dom hl]; omega)).2
    · rw [if_neg fun heq => hl (Option.some.inj heq), v.fours_of_ne dom hl]
      rfl

/-- **The list of one message.**  It has one vector, and the walk goes on behind its end
mark. -/
theorem walkVectors_vector {pkt : Mem} {a stop : ℕ} (h : pkt.Holds a (v.bytes dom))
    (hn : v.values.length < 256) (hs : v.Sound) (hstop : a + (v.bytes dom).length ≤ stop)
    (fuel : ℕ) (found : List MrpVisit) :
    walkVectors (fun _ => pkt) collect .srp stop a (some v.type) (firstValueLength v.type)
        (fuel + 2) (a + 4) found
      = (found ++ v.visits dom a, some (a + (v.bytes dom).length - 2)) := by
  obtain ⟨-, -, hlist, hhigh, hlow, -, -, -, hmark⟩ := v.holds_bytes dom h
  have hlen := v.length_bytes_eq dom
  have hlistLen := v.length_bytes dom hn []
  rw [List.append_nil] at hlistLen
  have hcount : (pkt (a + 4 + 1)).toNat = v.values.length := by
    show (pkt (a + 5)).toNat = v.values.length
    rw [hlow, UInt8.toNat_ofNat']
    omega
  have hvalues : (pkt (a + 4)).toNat % 32 * 256 + (pkt (a + 4 + 1)).toNat = v.values.length := by
    rw [hcount, hhigh]
    cases v.leaveAll <;> simp
  have hflag : decide ((pkt (a + 4)).toNat / 32 = 1) = v.leaveAll := by
    rw [hhigh]
    cases v.leaveAll <;> decide
  have hnonzero : pkt (a + 4) ≠ 0 ∨ pkt (a + 4 + 1) ≠ 0 := by
    rcases hs with hleave | hne
    · left
      rw [hhigh, hleave]
      decide
    · right
      intro hzero
      rw [hzero] at hcount
      exact hne (List.eq_nil_of_length_eq_zero hcount.symm)
  -- behind the vector stands the end mark
  have hend : a + 4 + (2 + firstValueLength v.type + (v.values.length + 2) / 3
        + ((v.fours dom).length + 3) / 4) = a + (v.bytes dom).length - 2 := by omega
  have hplace : a + 6 + firstValueLength v.type + (v.values.length + 2) / 3
        + ((v.fours dom).length + 3) / 4 = a + (v.bytes dom).length - 2 := by omega
  rw [hplace] at hmark
  have hzero : ¬ (a + (v.bytes dom).length - 2 < stop ∧
      (pkt (a + (v.bytes dom).length - 2) ≠ 0 ∨ pkt (a + (v.bytes dom).length - 2 + 1) ≠ 0)) := by
    have h0 : pkt (a + (v.bytes dom).length - 2) = 0 := hmark.apply (i := 0) (by simp)
    have h1 : pkt (a + (v.bytes dom).length - 2 + 1) = 0 := hmark.apply (i := 1) (by simp)
    rw [h0, h1]
    simp
  rw [walkVectors, if_pos ⟨by omega, hnonzero⟩]
  simp only [hvalues, hflag, v.fourLen_eq dom, hlist]
  rw [if_neg (by omega), hend, walkVectors, if_neg hzero,
    show a + 4 + 2 = a + 6 from rfl, v.walkValues_vector dom h, visits]
  cases v.leaveAll <;> simp [collect]

end MsrpVector

/-! ## The walk over a packet -/

def packetVisits (dom : SrpDomain) : ℕ → List MsrpVector → List MrpVisit
  | _, [] => []
  | a, v :: vs => v.visits dom a ++ packetVisits dom (a + (v.bytes dom).length) vs

lemma decodeAttrType_encode {t : MrpAttributeType} (h : t.IsMsrp) :
    decodeAttrType .srp (encodeAttrType t) = some t := by
  revert h
  cases t <;> decide

/-- **The messages of a packet**, up to the zero bytes behind them. -/
theorem walkMessages_packet {stop : ℕ} (vs : List MsrpVector)
    (hn : ∀ v ∈ vs, v.values.length < 256) (hs : ∀ v ∈ vs, v.Sound) (fuel a : ℕ)
    (h : pkt.Holds a (packetBytes dom vs ++ [0, 0])) (hfuel : vs.length ≤ fuel)
    (hstop : a + (packetBytes dom vs).length ≤ stop) (found : List MrpVisit) :
    walkMessages (fun _ => pkt) collect .srp stop 0 fuel a found
      = found ++ packetVisits dom a vs := by
  induction vs generalizing fuel a found with
  | nil =>
    have h0 : pkt a = 0 := h.apply (i := 0) (by simp [packetBytes])
    have h1 : pkt (a + 1) = 0 := h.apply (i := 1) (by simp [packetBytes])
    cases fuel with
    | zero => simp [walkMessages, packetVisits]
    | succ fuel => simp [walkMessages, packetVisits, h0, h1]
  | cons v vs ih =>
    obtain ⟨k, rfl⟩ : ∃ k, fuel = k + 1 := ⟨fuel - 1, by simp at hfuel; omega⟩
    have hbytes : packetBytes dom (v :: vs) = v.bytes dom ++ packetBytes dom vs := rfl
    rw [hbytes, List.append_assoc] at h
    rw [hbytes, length_append] at hstop
    obtain ⟨hv, hrest⟩ := Mem.holds_append.1 h
    obtain ⟨htype, hfvl, -⟩ := v.holds_bytes dom hv
    have hlong := v.eight_le_length_bytes dom
    have htypeNat : (pkt a).toNat = encodeAttrType v.type := by
      rw [htype]
      cases v.type <;> rfl
    have hfvlNat : (pkt (a + 1)).toNat = firstValueLength v.type := by
      rw [hfvl]
      cases v.type <;> rfl
    have hnonzero : pkt a ≠ 0 := by
      rw [htype]
      cases v.type <;> decide
    obtain ⟨m, hm⟩ : ∃ m, stop = m + 2 := ⟨stop - 2, by omega⟩
    have hwalk := v.walkVectors_vector dom hv (hn v mem_cons_self)
      (hs v mem_cons_self) (by omega : a + (v.bytes dom).length ≤ stop) m found
    rw [← hm] at hwalk
    rw [walkMessages, if_pos ⟨by omega, Or.inl hnonzero⟩]
    simp only [htypeNat, hfvlNat, decodeAttrType_encode v.msrp, Option.map_some, ne_eq,
      not_true_eq_false, and_false, if_false, if_true]
    rw [hwalk]
    simp only
    rw [show a + (v.bytes dom).length - 2 + 2 = a + (v.bytes dom).length by omega,
      ih (fun w hw => hn w (mem_cons_of_mem v hw))
        (fun w hw => hs w (mem_cons_of_mem v hw)) k _ hrest (by simp at hfuel; omega)
        (by omega), List.append_assoc]
    rfl

lemma holds_framePacket (src : Vector UInt8 6) (etype : MrpEthertype) (bytes : List UInt8) :
    framePacket (mrpHeader src etype ++ bytes) 0 = 0 ∧
      (framePacket (mrpHeader src etype ++ bytes)).Holds 1 bytes := by
  have hheader : (mrpHeader src etype).length = 15 := by cases etype <;> simp [mrpHeader]
  constructor
  · unfold framePacket
    rw [List.getD_append _ _ _ _ (by omega)]
    cases etype <;> simp [mrpHeader]
  · unfold Mem.Holds
    apply List.ext_getElem
    · simp
    · intro i hi _
      rw [Mem.length_load] at hi
      simp only [Mem.load, getElem_map, List.getElem_range, framePacket]
      rw [List.getD_append_right _ _ _ _ (by omega), hheader, getD_eq_getElem _ _ (by omega)]
      congr 1
      omega

lemma holds_packetFrame : framePacket (packetFrame src dom vs) 0 = 0 ∧
      (framePacket (packetFrame src dom vs)).Holds 1 (packetBytes dom vs ++ [0, 0]) := by
  obtain ⟨pad, hpad⟩ : ∃ pad, List.replicate
      (max 4 (64 - (mrpHeaderSize + (packetBytes dom vs).length))) (0 : UInt8) = 0 :: 0 :: pad :=
    ⟨List.replicate (max 4 (64 - (mrpHeaderSize + (packetBytes dom vs).length)) - 2) 0, by
      rw [← List.replicate_succ, ← List.replicate_succ]
      congr 1
      omega⟩
  have hframe : packetFrame src dom vs
      = mrpHeader src .srp ++ ((packetBytes dom vs ++ [0, 0]) ++ pad) := by
    rw [packetFrame, hpad]
    simp
  rw [hframe]
  exact (holds_framePacket src .srp _).imp_right fun h => (Mem.holds_append.1 h).1

/-- **What is found in a frame** of the transmitter. -/
theorem mrpVisits_packetFrame (hn : ∀ v ∈ vs, v.values.length < 256) (hs : ∀ v ∈ vs, v.Sound) :
    mrpVisits .srp (framePacket (packetFrame src dom vs)) ((packetFrame src dom vs).length - 14)
      = packetVisits dom 1 vs := by
  obtain ⟨hversion, hholds⟩ := holds_packetFrame src dom vs
  have hlen : 1 + (packetBytes dom vs).length ≤ (packetFrame src dom vs).length - 14 := by
    simp only [packetFrame, mrpHeader, length_append, List.length_replicate,
      Vector.length_toList, List.length_cons, List.length_nil]
    omega
  have hcount := length_le_packetBytes dom vs
  have hwalk := walkMessages_packet dom vs hn hs ((packetFrame src dom vs).length - 14) 1 hholds
    (by omega) hlen []
  rw [mrpVisits, mrpWalk, hversion]
  exact hwalk

/-! ## First value plus index -/

def MrpDeclaration.contentPlus (i : ℕ) : MsrpContent :=
  if d.type = .domainVector then
    .domain ((6 + i) % 2 ^ 8) ((3 + i) % 2 ^ 8) (dom.vlanId % 2 ^ 16)
  else if d.type = .listener then .listener ((d.reservation.streamId + i) % 2 ^ 64)
  else
    .talker ((d.reservation.streamId + i) % 2 ^ 64) ((d.reservation.destMac + i) % 2 ^ 48)
      d.reservation.vlanId.toNat d.reservation.tspecMaxFrameSize.toNat
      d.reservation.tspecMaxInterval.toNat d.reservation.tspec.toNat
      d.reservation.accumulatedLatency.toNat
      (if d.type = .talkerFailed then
        some (beNat d.reservation.failureBridgeId.toList, d.reservation.failureCode.toNat)
      else none)

lemma AvbSrpInfo.streamId_lt : r.streamId < 2 ^ 64 := by
  have h0 := r.streamId0.toNat_lt
  have h1 := r.streamId1.toNat_lt
  unfold streamId
  omega

lemma AvbSrpInfo.destMac_lt : r.destMac < 2 ^ 48 := by
  have h := beNat_lt r.destMacAddr.toList
  rw [Vector.length_toList] at h
  unfold destMac
  omega

lemma MrpDeclaration.contentPlus_zero : d.contentPlus dom 0 = d.content dom := by
  have hclass : 6 % 2 ^ 8 = 6 := rfl
  have hpriority : 3 % 2 ^ 8 = 3 := rfl
  simp only [contentPlus, content, Nat.add_zero, Nat.mod_eq_of_lt d.reservation.streamId_lt,
    Nat.mod_eq_of_lt d.reservation.destMac_lt, hclass, hpriority]

lemma beNat_load_of_holds {bs : List UInt8} (h : pkt.Holds fv bs) {k n : ℕ}
    (hk : k + n ≤ bs.length) : beNat (pkt.load (fv + k) n) = numberAt bs k n := by
  rw [h.load_part hk, numberAt]

lemma talkerContentAt_first (ht : x.decl.type.IsTalker)
    (h : pkt.Holds fv (talkerFirstValue dom x.decl)) (i : ℕ) (failure : Option (ℕ × ℕ)) :
    talkerContentAt pkt fv i failure
      = .talker ((x.decl.reservation.streamId + i) % 2 ^ 64)
          ((x.decl.reservation.destMac + i) % 2 ^ 48) x.decl.reservation.vlanId.toNat
          x.decl.reservation.tspecMaxFrameSize.toNat x.decl.reservation.tspecMaxInterval.toNat
          x.decl.reservation.tspec.toNat x.decl.reservation.accumulatedLatency.toNat failure := by
  have hlen : 25 ≤ (talkerFirstValue dom x.decl).length := by
    rw [← firstValueBytes_talker dom ht, length_firstValueBytes]
    rcases ht with h | h <;> rw [h] <;> decide
  have hid : beNat (pkt.load fv 8) = numberAt (talkerFirstValue dom x.decl) 0 8 :=
    beNat_load_of_holds (k := 0) h (by omega)
  rw [talkerContentAt, hid, beNat_load_of_holds h (by omega), beNat_load_of_holds h (by omega),
    beNat_load_of_holds h (by omega), beNat_load_of_holds h (by omega),
    beNat_load_of_holds h (by omega), beNat_load_of_holds h (by omega), numberAt_talker_streamId,
    numberAt_talker_destMac, numberAt_talker_vlan _ _ (x.vlan_ne ht),
    numberAt_talker_maxFrameSize, numberAt_talker_maxInterval, numberAt_talker_tspec,
    numberAt_talker_latency]

/-- **Reading a vector's values** off its first value. -/
theorem contentAt_first (h : pkt.Holds fv (firstValueBytes dom x.decl)) (i : ℕ) :
    contentAt pkt fv i x.decl.type = some (x.decl.contentPlus dom i) := by
  rcases x.msrp with ht | hl | hd
  · have hbytes := firstValueBytes_talker dom ht
    rw [hbytes] at h
    rcases ht with hadv | hfail
    · rw [hadv, contentAt, talkerContentAt_first dom x (Or.inl hadv) h]
      simp [MrpDeclaration.contentPlus, hadv]
    · have hlen : (talkerFirstValue dom x.decl).length = 34 := by
        rw [← hbytes, length_firstValueBytes, hfail]
        rfl
      rw [hfail, contentAt, talkerContentAt_first dom x (Or.inr hfail) h,
        beNat_load_of_holds h (by omega), beNat_load_of_holds h (by omega),
        numberAt_talker_bridgeId _ _ hfail, numberAt_talker_failureCode _ _ hfail]
      simp [MrpDeclaration.contentPlus, hfail]
  · rw [firstValueBytes_listener dom hl] at h
    have hid : beNat (pkt.load fv 8) = numberAt (listenerFirstValue x.decl) 0 8 :=
      beNat_load_of_holds (k := 0) h (by simp [listenerFirstValue])
    rw [hl, contentAt, hid, numberAt_listener_streamId]
    simp [MrpDeclaration.contentPlus, hl]
  · rw [firstValueBytes_domain dom hd] at h
    have hclass : beNat (pkt.load fv 1) = numberAt (domainFirstValue dom) 0 1 :=
      beNat_load_of_holds (k := 0) h (by simp [domainFirstValue])
    have hvid : numberAt (domainFirstValue dom) 2 2 = dom.vlanId % 2 ^ 16 :=
      beNat_beBytes 2 dom.vlanId
    rw [hd, contentAt, hclass, beNat_load_of_holds h (by simp [domainFirstValue]),
      beNat_load_of_holds h (by simp [domainFirstValue]), hvid]
    simp [MrpDeclaration.contentPlus, hd, domainFirstValue, numberAt, beNat]

lemma contentPlus_eq_content_iff {first x : MsrpValue} {i : ℕ}
    (htype : first.decl.type = x.decl.type) (hc : Continues first.decl x.decl i) :
    first.decl.contentPlus dom i = x.decl.content dom ↔ AgreeUnchecked first.decl x.decl := by
  obtain ⟨hdomain, hid, htalker⟩ := hc
  rw [MrpDeclaration.contentPlus, MrpDeclaration.content, htype, if_neg hdomain, if_neg hdomain,
    hid]
  by_cases hl : x.decl.type = .listener
  · simp [hl, AgreeUnchecked, MrpAttributeType.IsTalker]
  · have ht : x.decl.type.IsTalker := by
      rcases x.msrp with ht | h | h
      · exact ht
      · exact absurd h hl
      · exact absurd h hdomain
    obtain ⟨hmac, hvlan, hsize⟩ := htalker ht
    rw [if_neg hl, if_neg hl, hmac, Nat.mod_eq_of_lt x.decl.reservation.destMac_lt, hvlan, hsize]
    have hbridge : beNat first.decl.reservation.failureBridgeId.toList
        = beNat x.decl.reservation.failureBridgeId.toList
        ↔ first.decl.reservation.failureBridgeId = x.decl.reservation.failureBridgeId := by
      constructor
      · intro h
        exact Vector.toList_inj.1 (beNat_inj (by simp) h)
      · intro h
        rw [h]
    unfold AgreeUnchecked
    by_cases hfail : x.decl.type = .talkerFailed
    · simp [hfail, hbridge, MrpAttributeType.IsTalker, UInt16.toNat_inj, UInt8.toNat_inj,
        UInt32.toNat_inj]
    · simp [hfail, ht, UInt16.toNat_inj, UInt8.toNat_inj, UInt32.toNat_inj]

namespace MsrpVector

variable (dom : SrpDomain) (v : MsrpVector)

def readBack : List MsrpOccurrence :=
  match v.values with
  | [] => []
  | first :: rest => (first :: rest).mapIdx fun i x =>
    x.occurrenceAs dom (first.decl.contentPlus dom i)

def Uniform : Prop :=
  ∀ first ∈ v.values.head?, ∀ x ∈ v.values, AgreeUnchecked first.decl x.decl

lemma length_readBack : (v.readBack dom).length = v.values.length := by
  unfold readBack
  cases v.values <;> simp

lemma fours_getD {i : ℕ} (hi : i < v.values.length) (content : MsrpContent) :
    (v.fours dom).getD i 0 = (v.values[i].occurrenceAs dom content).declaration := by
  have htype := v.sameType v.values[i] (getElem_mem hi)
  rw [fours, MsrpValue.occurrenceAs, htype]
  split_ifs
  · rw [getD_eq_getElem _ _ (by simpa using hi), getElem_map]
  · rfl

lemma occurrenceOf_visit {pkt : Mem} {a : ℕ} (h : pkt.Holds a (v.bytes dom))
    {first : MsrpValue} (hhead : first ∈ v.values.head?) {i : ℕ} (hi : i < v.values.length) :
    occurrenceOf pkt (.value (some v.type) (a + 6) i (v.threes.getD i 0)
        ((v.fours dom).getD i 0) v.leaveAll)
      = some (v.values[i].occurrenceAs dom (first.decl.contentPlus dom i)) := by
  obtain ⟨-, -, -, -, -, hfirst, -⟩ := v.holds_bytes dom h
  obtain ⟨rest, hv⟩ := List.head?_eq_some_iff.1 hhead
  have htype : first.decl.type = v.type :=
    v.sameType first (by rw [hv]; exact mem_cons_self)
  have hbytes : v.firstValue dom = firstValueBytes dom first.decl := by
    rw [firstValue, hv]
  rw [hbytes] at hfirst
  have hthree : v.threes.getD i 0 = v.values[i].event.code := by
    rw [threes, getD_eq_getElem _ _ (by simpa using hi), getElem_map]
  have hxtype := v.sameType v.values[i] (getElem_mem hi)
  rw [v.fours_getD dom hi (first.decl.contentPlus dom i), hthree, occurrenceOf, ← htype,
    contentAt_first dom first hfirst]
  simp [MsrpValue.occurrenceAs, hxtype, htype]

end MsrpVector

lemma filterMap_range_eq_mapIdx {α β : Type*} (l : List α) (f : ℕ → α → β) (g : ℕ → Option β)
    (h : ∀ i (hi : i < l.length), g i = some (f i l[i])) :
    (List.range l.length).filterMap g = l.mapIdx f := by
  induction l using List.reverseRecOn with
  | nil => rfl
  | append_singleton l x ih =>
    have hlast := h l.length (by simp)
    rw [List.getElem_concat_length rfl] at hlast
    rw [length_append, List.length_singleton, List.range_succ, List.filterMap_append,
      List.mapIdx_concat, ih]
    · simp [hlast]
    · intro i hi
      rw [h i (by simp; omega), List.getElem_append_left hi]

namespace MsrpVector

variable (dom : SrpDomain) (v : MsrpVector)

/-- **The occurrences of a vector** that stands in memory. -/
theorem filterMap_visits {pkt : Mem} {a : ℕ} (h : pkt.Holds a (v.bytes dom)) :
    (v.visits dom a).filterMap (occurrenceOf pkt) = v.readBack dom := by
  have hleave : (if v.leaveAll then [MrpVisit.leaveAll (some v.type)] else []).filterMap
      (occurrenceOf pkt) = [] := by
    cases v.leaveAll <;> rfl
  rw [visits, List.filterMap_append, hleave, List.nil_append, List.filterMap_map, readBack]
  cases hv : v.values with
  | nil => rfl
  | cons first rest =>
    have hread := filterMap_range_eq_mapIdx v.values
      (fun i x => x.occurrenceAs dom (first.decl.contentPlus dom i)) _
      fun i hi => v.occurrenceOf_visit dom h (by rw [hv]; rfl) hi
    rw [hv] at hread
    exact hread

lemma occurrenceAs_eq_iff {first : MsrpValue} (hhead : first ∈ v.values.head?) {i : ℕ}
    (hi : i < v.values.length) :
    v.values[i].occurrenceAs dom (first.decl.contentPlus dom i) = v.values[i].occurrence dom
      ↔ AgreeUnchecked first.decl v.values[i].decl := by
  obtain ⟨rest, hv⟩ := List.head?_eq_some_iff.1 hhead
  have htype : first.decl.type = v.values[i].decl.type := by
    rw [v.sameType first (by rw [hv]; exact mem_cons_self),
      v.sameType _ (getElem_mem hi)]
  have hcontent : v.values[i].occurrenceAs dom (first.decl.contentPlus dom i)
      = v.values[i].occurrence dom
      ↔ first.decl.contentPlus dom i = v.values[i].decl.content dom := by
    simp [MsrpValue.occurrence, MsrpValue.occurrenceAs]
  rw [hcontent]
  rcases Nat.eq_zero_or_pos i with rfl | hpos
  · -- the first value is read as itself
    have hself : v.values[0] = first := by
      simp [hv]
    rw [hself, MrpDeclaration.contentPlus_zero]
    simp [AgreeUnchecked]
  · exact contentPlus_eq_content_iff dom htype
      (v.merged i _ (List.getElem?_eq_getElem hi) first hhead hpos)

/-- **A vector is read back** exactly if it is uniform. -/
theorem readBack_eq_iff : v.readBack dom = v.values.map (·.occurrence dom) ↔ v.Uniform := by
  unfold readBack Uniform
  cases hv : v.values with
  | nil => simp
  | cons first rest =>
    have hhead : first ∈ v.values.head? := by
      rw [hv]
      rfl
    simp only [List.head?_cons, Option.mem_some_iff, forall_eq']
    rw [← hv]
    constructor
    · intro h x hx
      obtain ⟨i, hi, rfl⟩ := List.getElem_of_mem hx
      have hat := congrArg (fun l => l[i]?) h
      simp only [List.getElem?_mapIdx, List.getElem?_map, List.getElem?_eq_getElem hi,
        Option.map_some, Option.some.injEq] at hat
      exact (v.occurrenceAs_eq_iff dom hhead hi).1 hat
    · intro h
      apply List.ext_getElem
      · simp
      · intro i hi _
        have hi' : i < v.values.length := by simpa using hi
        rw [List.getElem_mapIdx, getElem_map]
        exact (v.occurrenceAs_eq_iff dom hhead hi').2 (h _ (getElem_mem hi'))

end MsrpVector

/-! ## The round trip -/

lemma filterMap_packetVisits (a : ℕ) (h : pkt.Holds a (packetBytes dom vs)) :
    (packetVisits dom a vs).filterMap (occurrenceOf pkt) = vs.flatMap (·.readBack dom) := by
  induction vs generalizing a with
  | nil => rfl
  | cons v vs ih =>
    obtain ⟨hv, hrest⟩ := Mem.holds_append.1 h
    rw [packetVisits, List.filterMap_append, v.filterMap_visits dom hv, ih _ hrest]
    rfl

lemma frameOccurrences_packetFrame (hn : ∀ v ∈ vs, v.values.length < 256) (hs : ∀ v ∈ vs, v.Sound) :
    frameOccurrences (packetFrame src dom vs) = vs.flatMap (·.readBack dom) := by
  rw [frameOccurrences, mrpVisits_packetFrame src dom vs hn hs]
  exact filterMap_packetVisits dom vs 1 (Mem.holds_append.1 (holds_packetFrame src dom vs).2).1

lemma addValue_sound {x : MsrpValue} {vs : List MsrpVector} (h : ∀ v ∈ vs, v.Sound) :
    ∀ v ∈ addValue x vs, v.Sound := by
  induction vs with
  | nil =>
    intro v hv
    rw [List.mem_singleton.1 hv]
    exact Or.inr (by simp [MsrpVector.push])
  | cons u us ih =>
    rw [addValue]
    intro v hv
    split_ifs at hv with hacc
    · rcases List.mem_cons.1 hv with rfl | hv
      · exact Or.inr (by simp [MsrpVector.push])
      · exact h v (mem_cons_of_mem u hv)
    · rcases List.mem_cons.1 hv with rfl | hv
      · exact h v mem_cons_self
      · exact ih (fun w hw => h w (mem_cons_of_mem u hw)) v hv

lemma requests_sound : ∀ v ∈ (MsrpTx.requests dom rs).vectors, v.Sound := by
  have hstep : ∀ (a : MsrpTx) (r : MsrpRequest), (∀ v ∈ a.vectors, v.Sound) →
      ∀ v ∈ (a.request dom r).vectors, v.Sound := by
    intro a r ha
    rw [MsrpTx.vectors_request]
    intro v hv
    rcases List.mem_append.1 hv with hv | hv
    · exact ha v (List.mem_append_left _ hv)
    · have hcur : ∀ w ∈ a.current, w.Sound := fun w hw => ha w (List.mem_append_right _ hw)
      cases r with
      | leaveAll type h =>
        rcases List.mem_append.1 hv with hv | hv
        · exact hcur v hv
        · rw [List.mem_singleton.1 hv]
          exact Or.inl rfl
      | declare x => exact addValue_sound hcur v hv
  exact Run.invariant_of_step hstep (by simp [MsrpTx.vectors]) rs

/-- **The condition on a request**, in the state it meets: the vector a declaration is
merged into starts with one that agrees with it in what the merge test does not look at. -/
def MergeAgrees (a : MsrpTx) : MsrpRequest → Prop
  | .leaveAll _ _ => True
  | .declare x => ∀ v ∈ a.current.find? fun v => decide (v.Accepts x),
      ∀ first ∈ v.values.head?, AgreeUnchecked first.decl x.decl

instance (a : MsrpTx) : ∀ r, Decidable (MergeAgrees a r)
  | .leaveAll _ _ => isTrue trivial
  | .declare x => inferInstanceAs (Decidable (∀ v ∈ a.current.find? fun v => decide (v.Accepts x),
      ∀ first ∈ v.values.head?, AgreeUnchecked first.decl x.decl))

lemma uniform_push (v : MsrpVector) (x : MsrpValue) (h : v.Accepts x) : (v.push x h).Uniform
      ↔ v.Uniform ∧ ∀ first ∈ v.values.head?, AgreeUnchecked first.decl x.decl := by
  have hvalues : (v.push x h).values = v.values ++ [x] := rfl
  unfold MsrpVector.Uniform
  rw [hvalues]
  cases v.values with
  | nil => simp [AgreeUnchecked]
  | cons first rest => simp [or_imp, forall_and, and_assoc]

lemma uniform_addValue (vs : List MsrpVector) : (∀ v ∈ addValue x vs, v.Uniform)
      ↔ (∀ v ∈ vs, v.Uniform) ∧ ∀ v ∈ vs.find? fun v => decide (v.Accepts x),
          ∀ first ∈ v.values.head?, AgreeUnchecked first.decl x.decl := by
  induction vs with
  | nil =>
    rw [addValue, List.forall_mem_singleton, uniform_push]
    simp [MsrpVector.Uniform, MsrpVector.empty]
  | cons v vs ih =>
    rw [addValue]
    by_cases h : v.Accepts x
    · simp only [h, dite_true, List.forall_mem_cons, uniform_push, List.find?_cons,
        decide_true, Option.mem_some_iff, forall_eq']
      tauto
    · simp only [h, dite_false, List.forall_mem_cons, ih, List.find?_cons, decide_false]
      tauto

lemma guarded_iff_uniform : Run.Guarded (MsrpTx.request dom) MergeAgrees ⟨[], []⟩ rs
      ↔ ∀ v ∈ (MsrpTx.requests dom rs).vectors, v.Uniform := by
  induction rs using List.reverseRecOn with
  | nil => simp [Run.Guarded, MsrpTx.requests, MsrpTx.vectors]
  | append_singleton rs r ih =>
    rw [Run.guarded_append, ih, MsrpTx.requests_snoc, MsrpTx.vectors_request]
    show _ ∧ (MergeAgrees (MsrpTx.requests dom rs) r ∧ True) ↔ _
    simp only [MsrpTx.vectors, List.forall_mem_append, and_true]
    cases r with
    | leaveAll type h =>
      simp [MergeAgrees, MsrpTx.place, MsrpVector.Uniform, MsrpVector.empty, or_imp, forall_and]
    | declare x =>
      rw [MsrpTx.place, uniform_addValue, MergeAgrees, and_assoc]

lemma flatMap_eq_flatMap_iff {α β : Type*} (l : List α) (f g : α → List β)
    (h : ∀ a, (f a).length = (g a).length) : l.flatMap f = l.flatMap g ↔ ∀ a ∈ l, f a = g a := by
  induction l with
  | nil => simp
  | cons a l ih =>
    rw [List.flatMap_cons, List.flatMap_cons,
      List.append_eq_append_iff_of_size_eq_left (h a), ih, List.forall_mem_cons]

def wireOrder : List MsrpValue :=
  (msrpPackets dom rs).flatten.flatMap (·.values)

def FitsSendBuffer (src : Vector UInt8 6) (dom : SrpDomain) (rs : List MsrpRequest) : Prop :=
  (∀ frame ∈ msrpTransmit src dom rs, frame.length ≤ mrpSendBufferSize) ∧
    ∀ v ∈ (msrpPackets dom rs).flatten, v.values.length < 256

instance (src : Vector UInt8 6) (dom : SrpDomain) (rs : List MsrpRequest) :
    Decidable (FitsSendBuffer src dom rs) :=
  inferInstanceAs (Decidable (_ ∧ _))

lemma flatMap_frameOccurrences (h : ∀ v ∈ (msrpPackets dom rs).flatten, v.values.length < 256) :
    (msrpTransmit src dom rs).flatMap frameOccurrences
      = (msrpPackets dom rs).flatten.flatMap (·.readBack dom) := by
  have hsound : ∀ v ∈ (msrpPackets dom rs).flatten, v.Sound := by
    rw [msrpPackets_flatten]
    exact requests_sound dom rs
  rw [msrpTransmit_eq src dom rs h, List.flatMap_map, ← List.flatMap_id, List.flatMap_assoc]
  apply List.flatMap_congr
  intro vs hvs
  show frameOccurrences (packetFrame src dom vs) = vs.flatMap (·.readBack dom)
  apply frameOccurrences_packetFrame
  · intro v hv
    exact h v (List.mem_flatten.2 ⟨vs, hvs, hv⟩)
  · intro v hv
    exact hsound v (List.mem_flatten.2 ⟨vs, hvs, hv⟩)

/-- **Round trip.**  The frames hold the declarations, each once, in an order of their own,
and the receiver finds them there, with their types, events and values, exactly if every
declaration that was merged agrees with the first one of its vector in the fields the
merge test leaves out. -/
theorem msrp_round_trip_iff (src : Vector UInt8 6) (dom : SrpDomain) (rs : List MsrpRequest)
    (h : FitsSendBuffer src dom rs) : (wireOrder dom rs).Perm (rs.filterMap (·.value?)) ∧
      ((msrpTransmit src dom rs).flatMap frameOccurrences
          = (wireOrder dom rs).map (·.occurrence dom)
        ↔ Run.Guarded (MsrpTx.request dom) MergeAgrees ⟨[], []⟩ rs) := by
  refine ⟨msrpPackets_perm dom rs, ?_⟩
  rw [flatMap_frameOccurrences src dom rs h.2, wireOrder, List.map_flatMap,
    flatMap_eq_flatMap_iff _ _ _ (fun v => by rw [v.length_readBack, List.length_map]),
    guarded_iff_uniform, ← msrpPackets_flatten]
  constructor
  · intro hread v hv
    exact (v.readBack_eq_iff dom).1 (hread v hv)
  · intro huniform v hv
    exact (v.readBack_eq_iff dom).2 (huniform v hv)

/-! Two consecutive streams, whose talkers are merged into one vector. -/

def rowTalker (n : ℕ) (latency : UInt32) : MsrpValue where
  decl :=
    { type := .talkerAdvertise
      reservation :=
        { streamId0 := 0x00229700
          streamId1 := UInt32.ofNat n
          destMacAddr := #v[0x91, 0xe0, 0xf0, 0x00, 0x0e, UInt8.ofNat n]
          vlanId := 2
          tspecMaxFrameSize := 224
          tspecMaxInterval := 1
          tspec := 0x70
          accumulatedLatency := latency
          failureBridgeId := Vector.replicate 8 0
          failureCode := 0 }
      talkerPresent := true
      reservationFailed := false
      vlan := 0 }
  event := .evJoinIn
  msrp := Or.inl (Or.inl rfl)
  vlan_ne := by
    intro _
    show (2 : UInt16) ≠ 0
    decide

def rowAddress : Vector UInt8 6 := #v[0x00, 0x22, 0x97, 0x00, 0x01, 0x02]

def rowDomain : SrpDomain := ⟨false, 2⟩

def equalLatencies : List MsrpRequest :=
  [.leaveAll .talkerAdvertise (Or.inl (Or.inl rfl)), .declare (rowTalker 1 150000),
    .declare (rowTalker 2 150000)]

theorem equalLatencies_round_trip : FitsSendBuffer rowAddress rowDomain equalLatencies ∧
      Run.Guarded (MsrpTx.request rowDomain) MergeAgrees ⟨[], []⟩ equalLatencies ∧
      (msrpTransmit rowAddress rowDomain equalLatencies).flatMap frameOccurrences
        = (wireOrder rowDomain equalLatencies).map (·.occurrence rowDomain) := by
  have hfits : FitsSendBuffer rowAddress rowDomain equalLatencies := by decide +kernel
  have hguard : Run.Guarded (MsrpTx.request rowDomain) MergeAgrees ⟨[], []⟩ equalLatencies := by
    decide +kernel
  exact ⟨hfits, hguard, (msrp_round_trip_iff _ _ _ hfits).2.2 hguard⟩

def unequalLatencies : List MsrpRequest :=
  [.declare (rowTalker 1 150000), .declare (rowTalker 2 300000)]

/-- The second talker is not among the occurrences: it is read with the latency of the
first. -/
theorem unequalLatencies_lost : FitsSendBuffer rowAddress rowDomain unequalLatencies ∧
      (rowTalker 2 300000).occurrence rowDomain
        ∉ (msrpTransmit rowAddress rowDomain unequalLatencies).flatMap frameOccurrences ∧
      (rowTalker 2 150000).occurrence rowDomain
        ∈ (msrpTransmit rowAddress rowDomain unequalLatencies).flatMap frameOccurrences := by
  decide +kernel
