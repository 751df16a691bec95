/-
# MRP packets

How a packet is built and how it is read.  A packet is a list of messages; a
message has a header, one vector and an end mark; a vector is a header, a first
value and the packed events of the values that follow it, one by one, from the
first value on.

The packet under construction is the list of bytes from the first message to
`send_ptr`.  A declaration is merged into the first message that can take it, or opens
one of its own.
-/
import LibTsn.AvbInfo

/-! ## Types -/

inductive MrpAttributeType where
  | talkerAdvertise
  | talkerFailed
  | listener
  | domainVector
  | macVector
  | vidVector
  deriving DecidableEq, Repr

inductive MrpAttributeEvent where
  | evNew
  | evJoinIn
  | evIn
  | evJoinMt
  | evMt
  | evLv
  deriving DecidableEq, Repr

def MrpAttributeEvent.code : MrpAttributeEvent → ℕ
  | .evNew => 0
  | .evJoinIn => 1
  | .evIn => 2
  | .evJoinMt => 3
  | .evMt => 4
  | .evLv => 5

lemma MrpAttributeEvent.code_lt (e : MrpAttributeEvent) : e.code < 6 := by
  cases e <;> decide

/-- `AVB_SRP_ETHERTYPE` and `AVB_MVRP_ETHERTYPE`. -/
inductive MrpEthertype where
  | srp
  | mvrp
  deriving DecidableEq, Repr

def firstValueLength : MrpAttributeType → ℕ
  | .talkerAdvertise => 25
  | .talkerFailed => 34
  | .listener => 8
  | .domainVector => 4
  | .macVector => 6
  | .vidVector => 2

def encodeAttrType : MrpAttributeType → ℕ
  | .talkerAdvertise => 1
  | .talkerFailed => 2
  | .listener => 3
  | .domainVector => 4
  | .macVector => 2
  | .vidVector => 1

def decodeAttrType : MrpEthertype → ℕ → Option MrpAttributeType
  | .srp, 1 => some .talkerAdvertise
  | .srp, 2 => some .talkerFailed
  | .srp, 3 => some .listener
  | .srp, 4 => some .domainVector
  | .mvrp, 1 => some .vidVector
  | _, _ => none

/-! The values of the four-packed events. -/

namespace FourPacked

def ignore : ℕ := 0

def askingFailed : ℕ := 1

def ready : ℕ := 2

def readyFailed : ℕ := 3

end FourPacked

/-- What the SRP code keeps about the domain: `srp_domain_boundary_port` and
`current_vlan_id_from_domain`. -/
structure SrpDomain where
  boundaryPort : Bool
  vlanId : ℕ
  deriving DecidableEq

/-- What an attribute declares: its type and, from its `attribute_info`, the stream
entry of an MSRP attribute or the VLAN of an MVRP one. -/
structure MrpDeclaration where
  type : MrpAttributeType
  reservation : AvbSrpInfo
  talkerPresent : Bool
  reservationFailed : Bool
  vlan : ℕ
  deriving DecidableEq

variable (r : AvbSrpInfo) (dom : SrpDomain) (d : MrpDeclaration)

def AvbSrpInfo.streamId : ℕ := r.streamId0.toNat * 2 ^ 32 + r.streamId1.toNat

def AvbSrpInfo.destMac : ℕ := beNat r.destMacAddr.toList

/-! ## Bytes of a message

In the functions below `msg` is the packet from the message on, up to `send_ptr`. -/

variable (etype : MrpEthertype) (srcAddr : Vector UInt8 6) (msg : List UInt8) (event : ℕ)
  (attr : MrpAttributeType) (tx : MrpTx)

def byteAt (a : ℕ) : ℕ := (msg.getD a 0).toNat

def numberAt (a n : ℕ) : ℕ := beNat ((msg.drop a).take n)

def overwrite (a : ℕ) (bs : List UInt8) : List UInt8 :=
  msg.take a ++ bs ++ msg.drop (a + bs.length)

def attributeListLength : ℕ := byteAt msg 2 * 256 + byteAt msg 3

def numberOfValuesLow : ℕ := byteAt msg 5

def openVectorByte (a : ℕ) : List UInt8 :=
  let len := attributeListLength msg + 1
  overwrite (overwrite (msg.take a ++ 0 :: msg.drop a) 2 (beBytes 2 len)) (4 + len - 2) [0, 0]

def addToByte (a v : ℕ) : List UInt8 :=
  msg.set a (UInt8.ofNat (byteAt msg a + v))

def encodePackedEvent (base per : ℕ) (msg : List UInt8) (vector event : ℕ) : List UInt8 :=
  let numValues := numberOfValuesLow msg
  addToByte (if numValues % per = 0 then openVectorByte msg vector else msg) vector
    (event * base ^ (per - 1 - numValues % per))

def mrpEncodeThreePackedEvent : List UInt8 :=
  encodePackedEvent 6 3 msg (6 + firstValueLength attr + numberOfValuesLow msg / 3) event

def mrpEncodeFourPackedEvent : List UInt8 :=
  encodePackedEvent 4 4 msg
    (6 + firstValueLength attr + (numberOfValuesLow msg + 3) / 3 + numberOfValuesLow msg / 4)
    event

/-- The bytes `create_empty_msg` appends. -/
def createEmptyMsg (leaveAll : Bool) : List UInt8 :=
  [UInt8.ofNat (encodeAttrType attr), UInt8.ofNat (firstValueLength attr)]
    ++ beBytes 2 (firstValueLength attr + 4)
    ++ [if leaveAll then 0x20 else 0, 0] ++ List.replicate (firstValueLength attr) 0 ++ [0, 0]

/-! ## Declarations -/

def talkerFirstValue : List UInt8 :=
  beBytes 4 d.reservation.streamId0.toNat ++ beBytes 4 d.reservation.streamId1.toNat
    ++ d.reservation.destMacAddr.toList
    ++ beBytes 2 (if d.reservation.vlanId ≠ 0 then d.reservation.vlanId.toNat else dom.vlanId)
    ++ beBytes 2 d.reservation.tspecMaxFrameSize.toNat
    ++ beBytes 2 d.reservation.tspecMaxInterval.toNat
    ++ [d.reservation.tspec] ++ beBytes 4 d.reservation.accumulatedLatency.toNat
    ++ if d.type = .talkerFailed then
        d.reservation.failureBridgeId.toList ++ [d.reservation.failureCode]
      else []

def listenerFirstValue : List UInt8 :=
  beBytes 4 d.reservation.streamId0.toNat ++ beBytes 4 d.reservation.streamId1.toNat

/-- The first value of the domain: `AVB_SRP_SRCLASS_DEFAULT`,
`AVB_SRP_TSPEC_PRIORITY_DEFAULT` and the VLAN. -/
def domainFirstValue : List UInt8 := [6, 3] ++ beBytes 2 dom.vlanId

def listenerDeclaration : ℕ :=
  if d.talkerPresent && !dom.boundaryPort && !d.reservationFailed then FourPacked.ready
  else FourPacked.askingFailed

def checkListenerFirstvalueMerge (d : MrpDeclaration) : Bool :=
  (numberAt msg 6 8 + numberOfValuesLow msg) % 2 ^ 64 = d.reservation.streamId

def checkTalkerFirstvalueMerge (d : MrpDeclaration) : Bool :=
  numberAt msg 14 6 + numberOfValuesLow msg = d.reservation.destMac
    && (numberAt msg 6 8 + numberOfValuesLow msg) % 2 ^ 64 = d.reservation.streamId
    && numberAt msg 20 2 = d.reservation.vlanId.toNat
    && numberAt msg 22 2 = d.reservation.tspecMaxFrameSize.toNat

def encodeTalkerMessage (d : MrpDeclaration) (event : ℕ) : Option (List UInt8) :=
  if byteAt msg 0 ≠ encodeAttrType d.type then none
  else
    let numValues := numberOfValuesLow msg
    if numValues = 0 ∨ checkTalkerFirstvalueMerge msg d then
      let msg := if numValues = 0 then overwrite msg 6 (talkerFirstValue dom d) else msg
      some ((mrpEncodeThreePackedEvent msg event d.type).set 5 (UInt8.ofNat (numValues + 1)))
    else none

def encodeListenerMessage (d : MrpDeclaration) (event : ℕ) : Option (List UInt8) :=
  if byteAt msg 0 ≠ encodeAttrType .listener then none
  else
    let numValues := numberOfValuesLow msg
    if numValues = 0 ∨ checkListenerFirstvalueMerge msg d then
      let msg := if numValues = 0 then overwrite msg 6 (listenerFirstValue d) else msg
      let msg := mrpEncodeThreePackedEvent msg event d.type
      let msg := mrpEncodeFourPackedEvent msg (listenerDeclaration dom d) d.type
      some (msg.set 5 (UInt8.ofNat (numValues + 1)))
    else none

def encodeDomainMessage (d : MrpDeclaration) (event : ℕ) : Option (List UInt8) :=
  if byteAt msg 0 ≠ encodeAttrType .domainVector then none
  else
    let numValues := numberOfValuesLow msg
    if numValues = 0 then
      let msg := overwrite msg 6 (domainFirstValue dom)
      some ((mrpEncodeThreePackedEvent msg event d.type).set 5 (UInt8.ofNat (numValues + 1)))
    else none

def avbMvrpMergeMessage (d : MrpDeclaration) (event : ℕ) : Option (List UInt8) :=
  if byteAt msg 0 ≠ encodeAttrType .vidVector then none
  else
    let numValues := numberOfValuesLow msg
    if numValues = 0 then
      let msg := overwrite msg 6 (beBytes 2 d.vlan)
      some ((mrpEncodeThreePackedEvent msg event d.type).set 5 (UInt8.ofNat (numValues + 1)))
    else none

def encodeMsg (d : MrpDeclaration) (event : ℕ) : Option (List UInt8) :=
  match d.type with
  | .talkerAdvertise | .talkerFailed => encodeTalkerMessage dom msg d event
  | .listener => encodeListenerMessage dom msg d event
  | .domainVector => encodeDomainMessage dom msg d event
  | .vidVector => avbMvrpMergeMessage msg d event
  | .macVector => none

/-! ## Transmission -/

def txWalk (dom : SrpDomain) (d : MrpDeclaration) (event : ℕ) :
    ℕ → List UInt8 → List UInt8 → List UInt8 × List UInt8 × Bool
  | 0, done, msg => (done, msg, false)
  | fuel + 1, done, msg =>
    if msg ≠ [] ∧ (byteAt msg 0 ≠ 0 ∨ byteAt msg 1 ≠ 0) then
      match encodeMsg dom msg d event with
      | some msg' => (done, msg', true)
      | none =>
        let n := 4 + attributeListLength msg
        txWalk dom d event fuel (done ++ msg.take n) (msg.drop n)
    else (done, msg, false)

def txFinish (w : List UInt8 × List UInt8 × Bool) : List UInt8 :=
  if w.2.2 then w.1 ++ w.2.1
  else
    let msg := w.2.1 ++ createEmptyMsg d.type false
    w.1 ++ (encodeMsg dom msg d event).getD msg

def txBuild (buf : List UInt8) (d : MrpDeclaration) (event : ℕ) : List UInt8 :=
  txFinish dom d event (txWalk dom d event buf.length [] buf)

structure MrpTx where
  etype : MrpEthertype
  buf : List UInt8
  frames : List (List UInt8)

/-- `sizeof(mrp_ethernet_hdr) + sizeof(mrp_header)`. -/
def mrpHeaderSize : ℕ := 15

def mrpSendBufferSize : ℕ := 500

def maxMrpMsgSize : ℕ := 32

def deleteTwo (buf : List UInt8) (a stop : ℕ) : List UInt8 :=
  buf.take a ++ (buf.drop (a + 2)).take (stop - 2 - a) ++ buf.drop (stop - 2)

/-- The loop of `strip_attribute_list_length_fields`, from the message at `msg`. -/
def stripLengths : ℕ → ℕ → ℕ → List UInt8 → List UInt8
  | 0, _, _, buf => buf
  | fuel + 1, msg, stop, buf =>
    if msg < stop ∧ (byteAt buf msg ≠ 0 ∨ byteAt buf (msg + 1) ≠ 0) then
      stripLengths fuel (msg + 4 + attributeListLength (buf.drop msg) - 2) (stop - 2)
        (deleteTwo buf (msg + 2) stop)
    else buf

def stripAttributeListLengthFields (buf : List UInt8) : List UInt8 :=
  match etype with
  | .srp => buf
  | .mvrp => stripLengths buf.length 0 buf.length buf

def mrpHeader : MrpEthertype → List UInt8
  | .srp => [0x01, 0x80, 0xc2, 0x00, 0x00, 0x0e] ++ srcAddr.toList ++ [0x22, 0xea, 0]
  | .mvrp => [0x01, 0x80, 0xc2, 0x00, 0x00, 0x21] ++ srcAddr.toList ++ [0x88, 0xf5, 0]

def forceSend : MrpTx :=
  if tx.buf = [] then tx
  else
    { tx with
      buf := []
      frames := tx.frames ++
        [mrpHeader srcAddr tx.etype ++ stripAttributeListLengthFields tx.etype tx.buf
          ++ List.replicate (max 4 (64 - (mrpHeaderSize + tx.buf.length))) 0] }

def mrpSend : MrpTx :=
  if mrpSendBufferSize < mrpHeaderSize + tx.buf.length + maxMrpMsgSize + 2 then
    forceSend srcAddr tx
  else tx

def txDeclaration (dom : SrpDomain) (d : MrpDeclaration) (event : ℕ) (tx : MrpTx) : MrpTx :=
  mrpSend srcAddr { tx with buf := txBuild dom tx.buf d event }

/-- An empty LeaveAll message added by `mrp_periodic`. -/
def txLeaveAll : MrpTx :=
  mrpSend srcAddr { tx with buf := tx.buf ++ createEmptyMsg attr true }

/-! ## Reading -/

inductive MrpVisit where
  | leaveAll (type : Option MrpAttributeType)
  | value (type : Option MrpAttributeType) (firstValue i three four : ℕ) (leaveAll : Bool)
  deriving DecidableEq

def decodeThreepacked (vector i : ℕ) : ℕ := vector / 6 ^ (2 - i) % 6

def decodeFourpacked (vector i : ℕ) : ℕ := vector / 4 ^ (3 - i) % 4

section

variable {σ : Type} (mem : σ → Mem) (visit : σ → MrpVisit → σ)

def walkValues (type : Option MrpAttributeType) (firstValue firstValueLen threeLen : ℕ)
    (leaveAll : Bool) : ℕ → ℕ → σ → σ
  | 0, _, s => s
  | n + 1, i, s =>
    let vector := (mem s (firstValue + firstValueLen + i / 3)).toNat
    if 0xd7 < vector then s
    else
      let four := if type = some .listener then
          decodeFourpacked (mem s (firstValue + firstValueLen + threeLen + i / 4)).toNat (i % 4)
        else 0
      walkValues type firstValue firstValueLen threeLen leaveAll n (i + 1)
        (visit s (.value type firstValue i (decodeThreepacked vector (i % 3)) four leaveAll))

def walkVectors (etype : MrpEthertype) (stop hdr : ℕ) (type : Option MrpAttributeType)
    (firstValueLen : ℕ) : ℕ → ℕ → σ → σ × Option ℕ
  | 0, _, s => (s, none)
  | fuel + 1, msg, s =>
    if msg < stop ∧ (mem s msg ≠ 0 ∨ mem s (msg + 1) ≠ 0) then
      let high := (mem s msg).toNat
      let numValues := high % 32 * 256 + (mem s (msg + 1)).toNat
      let leaveAll := decide (high / 32 = 1)
      let threeLen := (numValues + 2) / 3
      let fourLen := if type = some .listener then (numValues + 3) / 4 else 0
      let len := 2 + firstValueLen + threeLen + fourLen
      let listLen := (mem s (hdr + 2)).toNat * 256 + (mem s (hdr + 3)).toNat
      if (etype = .srp ∧ listLen < len + 2) ∨ stop < msg + len then (s, none)
      else
        let s := if leaveAll then visit s (.leaveAll type) else s
        walkVectors etype stop hdr type firstValueLen fuel (msg + len)
          (walkValues mem visit type (msg + 2) firstValueLen threeLen leaveAll numValues 0 s)
    else (s, some msg)

def walkMessages (etype : MrpEthertype) (stop version : ℕ) : ℕ → ℕ → σ → σ
  | 0, _, s => s
  | fuel + 1, msg, s =>
    if msg < stop ∧ (mem s msg ≠ 0 ∨ mem s (msg + 1) ≠ 0) then
      let type := decodeAttrType etype (mem s msg).toNat
      let firstValueLen := (mem s (msg + 1)).toNat
      if version = 0 ∧ type.map firstValueLength ≠ some firstValueLen then s
      else
        let start := if etype = .srp then msg + 4 else msg + 2
        match walkVectors mem visit etype stop msg type firstValueLen stop start s with
        | (s, none) => s
        | (s, some next) => walkMessages etype stop version fuel (next + 2) s
    else s

/-- The walk of `avb_mrp_process_packet` over a packet of `len` bytes. -/
def mrpWalk (etype : MrpEthertype) (len : ℕ) (s : σ) : σ :=
  walkMessages mem visit etype len (mem s 0).toNat len 1 s

variable {mem : σ → Mem} {visit : σ → MrpVisit → σ} {P : σ → Prop}

lemma walkValues_invariant (h : ∀ s x, P s → P (visit s x)) (type : Option MrpAttributeType)
    (firstValue firstValueLen threeLen : ℕ) (leaveAll : Bool) (n i : ℕ) {s : σ} (hs : P s) :
    P (walkValues mem visit type firstValue firstValueLen threeLen leaveAll n i s) := by
  induction n generalizing i s with
  | zero => exact hs
  | succ n ih =>
    unfold walkValues
    exact iteInduction (fun _ => hs) fun _ => ih _ (h _ _ hs)

lemma walkVectors_invariant (h : ∀ s x, P s → P (visit s x)) (etype : MrpEthertype)
    (stop hdr : ℕ) (type : Option MrpAttributeType) (firstValueLen fuel msg : ℕ) {s : σ}
    (hs : P s) : P (walkVectors mem visit etype stop hdr type firstValueLen fuel msg s).1 := by
  induction fuel generalizing msg s with
  | zero => exact hs
  | succ fuel ih =>
    unfold walkVectors
    refine iteInduction (motive := fun r : σ × Option ℕ => P r.1) (fun _ => ?_) fun _ => hs
    refine iteInduction (motive := fun r : σ × Option ℕ => P r.1) (fun _ => hs) fun _ => ?_
    refine ih _ (walkValues_invariant h _ _ _ _ _ _ _ ?_)
    exact iteInduction (fun _ => h _ _ hs) fun _ => hs

lemma walkMessages_invariant (h : ∀ s x, P s → P (visit s x)) (etype : MrpEthertype)
    (stop version fuel msg : ℕ) {s : σ} (hs : P s) :
    P (walkMessages mem visit etype stop version fuel msg s) := by
  induction fuel generalizing msg s with
  | zero => exact hs
  | succ fuel ih =>
    unfold walkMessages
    refine iteInduction (fun _ => ?_) fun _ => hs
    refine iteInduction (fun _ => hs) fun _ => ?_
    have hvectors : P (walkVectors mem visit etype stop msg
        (decodeAttrType etype (mem s msg).toNat) (mem s (msg + 1)).toNat stop
        (if etype = .srp then msg + 4 else msg + 2) s).1 :=
      walkVectors_invariant h etype stop msg _ _ _ _ hs
    dsimp only
    split
    · rename_i heq
      rw [heq] at hvectors
      exact hvectors
    · rename_i heq
      rw [heq] at hvectors
      exact ih _ hvectors

/-- **The walk.**  What every visit preserves, the walk over a packet preserves. -/
theorem mrpWalk_invariant (h : ∀ s x, P s → P (visit s x)) (etype : MrpEthertype) (len : ℕ)
    {s : σ} (hs : P s) : P (mrpWalk mem visit etype len s) :=
  walkMessages_invariant h etype len _ len 1 hs

section

variable {τ : Type} {watched : τ → MrpVisit → τ} {f : τ → σ}

lemma walkValues_watched (hf : ∀ w x, f (watched w x) = visit (f w) x)
    (type : Option MrpAttributeType) (firstValue firstValueLen threeLen : ℕ) (leaveAll : Bool)
    (n i : ℕ) (w : τ) :
    f (walkValues (fun w => mem (f w)) watched type firstValue firstValueLen threeLen
      leaveAll n i w) =
      walkValues mem visit type firstValue firstValueLen threeLen leaveAll n i (f w) := by
  induction n generalizing i w with
  | zero => rfl
  | succ n ih =>
    unfold walkValues
    dsimp only
    rw [apply_ite f, ih, hf]

lemma walkVectors_watched (hf : ∀ w x, f (watched w x) = visit (f w) x) (etype : MrpEthertype)
    (stop hdr : ℕ) (type : Option MrpAttributeType) (firstValueLen fuel msg : ℕ) (w : τ) :
    Prod.map f id (walkVectors (fun w => mem (f w)) watched etype stop hdr type firstValueLen fuel
        msg w) =
      walkVectors mem visit etype stop hdr type firstValueLen fuel msg (f w) := by
  induction fuel generalizing msg w with
  | zero => rfl
  | succ fuel ih =>
    unfold walkVectors
    dsimp only
    rw [apply_ite (Prod.map f id), apply_ite (Prod.map f id), ih, walkValues_watched hf,
      apply_ite f, hf]
    rfl

lemma walkMessages_watched (hf : ∀ w x, f (watched w x) = visit (f w) x) (etype : MrpEthertype)
    (stop version fuel msg : ℕ) (w : τ) :
    f (walkMessages (fun w => mem (f w)) watched etype stop version fuel msg w) =
      walkMessages mem visit etype stop version fuel msg (f w) := by
  induction fuel generalizing msg w with
  | zero => rfl
  | succ fuel ih =>
    unfold walkMessages
    dsimp only
    rw [apply_ite f, apply_ite f, ← walkVectors_watched hf]
    cases walkVectors (fun w => mem (f w)) watched etype stop msg
        (decodeAttrType etype (mem (f w) msg).toNat) (mem (f w) (msg + 1)).toNat stop
        (if etype = .srp then msg + 4 else msg + 2) w with
    | mk w' next =>
      cases next with
      | none => rfl
      | some next =>
        dsimp only [Prod.map, id]
        rw [ih]

lemma mrpWalk_watched (hf : ∀ w x, f (watched w x) = visit (f w) x) (etype : MrpEthertype)
    (len : ℕ) (w : τ) :
    f (mrpWalk (fun w => mem (f w)) watched etype len w) = mrpWalk mem visit etype len (f w) :=
  walkMessages_watched hf etype len _ len 1 w

end

end

def mrpVisits (pkt : Mem) (len : ℕ) : List MrpVisit :=
  mrpWalk (fun _ => pkt) (fun visits v => visits ++ [v]) etype len []

def framePacket (frame : List UInt8) : Mem := fun a => frame.getD (14 + a) 0
