/-
# MVRP frames

MVRP messages have no length of their attribute list.  They are built with one, as those of MSRP,
and `strip_attribute_list_length_fields` takes the lengths out of the finished packet, one message
after the other, each time moving the rest of the packet up.
-/
import LibTsn.MsrpRoundTrip

open List (flatMap_cons mem_cons_self drop_left mem_cons_of_mem append_assoc length_append
  length_cons nil_append flatMap_singleton map_nil append_nil foldl_nil foldl_cons map_cons
  replicate_add)

/-! ## Messages -/

/-- A message: it has at most one VLAN, since VLANs are not merged. -/
structure MvrpMessage where
  leaveAll : Bool
  value : Option (ℕ × MrpAttributeEvent)

namespace MvrpMessage

/-- The vector and the end mark. -/
def body (m : MvrpMessage) : List UInt8 :=
  match m.value with
  | none => [if m.leaveAll then 0x20 else 0, 0, 0, 0, 0, 0]
  | some (vlan, e) =>
    [if m.leaveAll then 0x20 else 0, 1] ++ beBytes 2 vlan ++ [UInt8.ofNat (e.code * 36), 0, 0]

/-- The message as it is built. -/
def built (m : MvrpMessage) : List UInt8 := [1, 2] ++ beBytes 2 m.body.length ++ m.body

/-- The message as it is sent. -/
def sent (m : MvrpMessage) : List UInt8 := [1, 2] ++ m.body

def queued : Bool → List (ℕ × MrpAttributeEvent) → List MvrpMessage
  | false, [] => []
  | true, [] => [⟨true, none⟩]
  | leaveAll, x :: xs => ⟨leaveAll, some x⟩ :: queued false xs

end MvrpMessage

open MvrpMessage

def mvrpQueue (src : Vector UInt8 6) (dom : SrpDomain) (leaveAll : Bool)
    (xs : List (MrpDeclaration × MrpAttributeEvent)) (tx : MrpTx) : MrpTx :=
  xs.foldl (fun tx x => txDeclaration src dom x.1 x.2.code tx)
    (if leaveAll then txLeaveAll src .vidVector tx else tx)

/-! ## Building -/

variable {m : MvrpMessage} {ms : List MvrpMessage} {dom : SrpDomain} {d : MrpDeclaration}

lemma length_body (m : MvrpMessage) : m.body.length = if m.value = none then 6 else 7 := by
  obtain ⟨leaveAll, _ | ⟨vlan, e⟩⟩ := m <;> rfl

lemma length_built (m : MvrpMessage) : m.built.length = m.body.length + 4 := by
  simp [built]
  omega

lemma attributeListLength_built (m : MvrpMessage) (rest : List UInt8) :
    attributeListLength (m.built ++ rest) = m.body.length := by
  obtain ⟨leaveAll, _ | ⟨vlan, e⟩⟩ := m <;> simp [attributeListLength, byteAt, built, body, beBytes]

lemma byteAt_zero_built (m : MvrpMessage) (rest : List UInt8) : byteAt (m.built ++ rest) 0 ≠ 0 := by
  simp [byteAt, built]

lemma encodeMsg_empty (hd : d.type = .vidVector) (leaveAll : Bool) (e : MrpAttributeEvent) :
    encodeMsg dom (built ⟨leaveAll, none⟩) d e.code =
      some (built ⟨leaveAll, some (d.vlan, e)⟩) := by
  simp [encodeMsg, hd, avbMvrpMergeMessage, byteAt, numberOfValuesLow, overwrite,
    mrpEncodeThreePackedEvent, encodePackedEvent, openVectorByte, addToByte, attributeListLength,
    built, body, beBytes, firstValueLength, encodeAttrType]

lemma encodeMsg_full (hd : d.type = .vidVector) (hm : m.value ≠ none) (e : ℕ)
    (rest : List UInt8) : encodeMsg dom (m.built ++ rest) d e = none := by
  obtain ⟨leaveAll, _ | ⟨vlan, e⟩⟩ := m
  · exact absurd rfl hm
  · unfold encodeMsg
    rw [hd]
    rfl

lemma txWalk_full (hd : d.type = .vidVector) (e : ℕ) : ∀ (ms : List MvrpMessage) (fuel : ℕ)
    (done : List UInt8), (∀ m ∈ ms, m.value ≠ none) → ms.length ≤ fuel →
      txWalk dom d e fuel done (ms.flatMap built) = (done ++ ms.flatMap built, [], false)
  | [], fuel, done, _, _ => by cases fuel <;> simp [txWalk]
  | m :: ms, fuel + 1, done, hms, hfuel => by
    have hskip : 4 + attributeListLength (m.built ++ ms.flatMap built) = m.built.length := by
      rw [attributeListLength_built, length_built, Nat.add_comm]
    rw [flatMap_cons, txWalk, if_pos ⟨by simp [built], .inl (byteAt_zero_built m _)⟩,
      encodeMsg_full hd (hms m mem_cons_self)]
    dsimp only
    rw [hskip, List.take_left, drop_left, txWalk_full hd e ms fuel _
      (fun m' hm' => hms m' (mem_cons_of_mem m hm')) (Nat.le_of_succ_le_succ hfuel),
      append_assoc]

lemma length_le_flatMap_built (ms : List MvrpMessage) : ms.length ≤ (ms.flatMap built).length := by
  induction ms with
  | nil => exact Nat.zero_le _
  | cons m ms ih =>
    rw [flatMap_cons, length_append, length_built, length_cons]
    omega

lemma createEmptyMsg_eq_built (leaveAll : Bool) :
    createEmptyMsg .vidVector leaveAll = built ⟨leaveAll, none⟩ := by
  cases leaveAll <;> decide

lemma txBuild_full (hd : d.type = .vidVector) (hms : ∀ m ∈ ms, m.value ≠ none)
    (e : MrpAttributeEvent) : txBuild dom (ms.flatMap built) d e.code
      = (ms ++ [MvrpMessage.mk false (some (d.vlan, e))]).flatMap built := by
  rw [txBuild, txWalk_full hd e.code ms _ [] hms (length_le_flatMap_built ms), txFinish]
  dsimp only
  rw [if_neg Bool.false_ne_true, hd, nil_append, nil_append, createEmptyMsg_eq_built,
    encodeMsg_empty hd, Option.getD_some, List.flatMap_append, flatMap_singleton]

lemma txBuild_leaveAll (hd : d.type = .vidVector) (e : MrpAttributeEvent) :
    txBuild dom (built ⟨true, none⟩) d e.code = built ⟨true, some (d.vlan, e)⟩ := by
  obtain ⟨fuel, hfuel⟩ : ∃ fuel, (built ⟨true, none⟩).length = fuel + 1 := ⟨9, rfl⟩
  have hne : built ⟨true, none⟩ ≠ [] ∧
      (byteAt (built ⟨true, none⟩) 0 ≠ 0 ∨ byteAt (built ⟨true, none⟩) 1 ≠ 0) := by decide
  rw [txBuild, hfuel, txWalk, if_pos hne, encodeMsg_empty hd]
  rfl

/-- The VLAN and the event of a declaration. -/
def vlanEvent (x : MrpDeclaration × MrpAttributeEvent) : ℕ × MrpAttributeEvent := (x.1.vlan, x.2)

lemma full_append (hms : ∀ m ∈ ms, m.value ≠ none) (x : ℕ × MrpAttributeEvent) :
    ∀ m ∈ ms ++ [MvrpMessage.mk false (some x)], m.value ≠ none := by
  intro m hm
  rcases List.mem_append.mp hm with hm | hm
  · exact hms m hm
  · rw [List.mem_singleton.mp hm]
    exact Option.some_ne_none x

lemma foldl_txBuild_full (dom : SrpDomain) : ∀ (xs : List (MrpDeclaration × MrpAttributeEvent))
    (ms : List MvrpMessage), (∀ x ∈ xs, x.1.type = .vidVector) → (∀ m ∈ ms, m.value ≠ none) →
      xs.foldl (fun buf x => txBuild dom buf x.1 x.2.code) (ms.flatMap built)
        = (ms ++ queued false (xs.map vlanEvent)).flatMap built
  | [], ms, _, _ => by rw [map_nil, queued, append_nil, foldl_nil]
  | x :: xs, ms, hxs, hms => by
    rw [foldl_cons, txBuild_full (hxs x mem_cons_self) hms]
    refine (foldl_txBuild_full dom xs _ (fun y hy => hxs y (mem_cons_of_mem x hy))
      (full_append hms (vlanEvent x))).trans ?_
    rw [map_cons, queued, append_assoc, List.singleton_append]

/-- **The packet that is built**, sends left out. -/
theorem foldl_txBuild (dom : SrpDomain) (leaveAll : Bool)
    (xs : List (MrpDeclaration × MrpAttributeEvent)) (hxs : ∀ x ∈ xs, x.1.type = .vidVector) :
    xs.foldl (fun buf x => txBuild dom buf x.1 x.2.code)
        (if leaveAll then createEmptyMsg .vidVector true else [])
      = (queued leaveAll (xs.map vlanEvent)).flatMap built := by
  cases leaveAll with
  | false => exact foldl_txBuild_full dom xs [] hxs (by simp)
  | true =>
    rw [if_pos rfl, createEmptyMsg_eq_built]
    cases xs with
    | nil => rfl
    | cons x xs =>
      rw [foldl_cons, txBuild_leaveAll (hxs x mem_cons_self)]
      exact foldl_txBuild_full dom xs [⟨true, some (vlanEvent x)⟩]
        (fun y hy => hxs y (mem_cons_of_mem x hy)) (by simp)

/-- There is room for one more message behind these. -/
def FitsFrame (ms : List MvrpMessage) : Prop :=
  mrpHeaderSize + (ms.flatMap built).length + maxMrpMsgSize + 2 ≤ mrpSendBufferSize

instance (ms : List MvrpMessage) : Decidable (FitsFrame ms) := inferInstanceAs (Decidable (_ ≤ _))

variable (src : Vector UInt8 6) (frames : List (List UInt8))

lemma mrpSend_messages (h : FitsFrame ms) :
    mrpSend src ⟨.mvrp, ms.flatMap built, frames⟩ = ⟨.mvrp, ms.flatMap built, frames⟩ :=
  if_neg (Nat.not_lt.mpr h)

lemma fitsFrame_left {ms ms' : List MvrpMessage} (h : FitsFrame (ms ++ ms')) : FitsFrame ms := by
  unfold FitsFrame at h ⊢
  rw [List.flatMap_append, length_append] at h
  omega

lemma foldl_txDeclaration (src : Vector UInt8 6) (frames : List (List UInt8)) :
    ∀ (xs : List (MrpDeclaration × MrpAttributeEvent)) (ms : List MvrpMessage),
      (∀ x ∈ xs, x.1.type = .vidVector) → (∀ m ∈ ms, m.value ≠ none) → FitsFrame ms →
      FitsFrame (ms ++ queued false (xs.map vlanEvent)).dropLast →
      xs.foldl (fun tx x => txDeclaration src dom x.1 x.2.code tx) ⟨.mvrp, ms.flatMap built, frames⟩
        = mrpSend src ⟨.mvrp, (ms ++ queued false (xs.map vlanEvent)).flatMap built, frames⟩
  | [], ms, _, _, hroom, _ => by
    rw [map_nil, queued, append_nil, foldl_nil, mrpSend_messages src frames hroom]
  | x :: xs, ms, hxs, hms, _, hfits => by
    have hsplit : ms ++ queued false ((x :: xs).map vlanEvent)
        = (ms ++ [⟨false, some (vlanEvent x)⟩]) ++ queued false (xs.map vlanEvent) := by
      rw [map_cons, queued, append_assoc, List.singleton_append]
    rw [hsplit] at hfits ⊢
    have hbuild : txBuild dom (ms.flatMap built) x.1 x.2.code
        = (ms ++ [MvrpMessage.mk false (some (vlanEvent x))]).flatMap built :=
      txBuild_full (hxs x mem_cons_self) hms x.2
    have hsend : txDeclaration src dom x.1 x.2.code ⟨.mvrp, ms.flatMap built, frames⟩
        = mrpSend src ⟨.mvrp, (ms ++ [MvrpMessage.mk false (some (vlanEvent x))]).flatMap built,
            frames⟩ := by
      rw [txDeclaration, hbuild]
    rw [foldl_cons, hsend]
    cases xs with
    | nil => rw [map_nil, queued, append_nil, foldl_nil]
    | cons y ys =>
      have hroom : FitsFrame (ms ++ [⟨false, some (vlanEvent x)⟩]) := by
        rw [List.dropLast_append_of_ne_nil (by simp [queued])] at hfits
        exact fitsFrame_left hfits
      rw [mrpSend_messages src frames hroom]
      exact foldl_txDeclaration src frames (y :: ys) _
        (fun z hz => hxs z (mem_cons_of_mem x hz)) (full_append hms (vlanEvent x)) hroom hfits

/-- **The packet that is built** has the queued messages. -/
theorem mvrpQueue_eq (dom : SrpDomain) (leaveAll : Bool)
    (xs : List (MrpDeclaration × MrpAttributeEvent)) (hxs : ∀ x ∈ xs, x.1.type = .vidVector)
    (hfits : FitsFrame (queued leaveAll (xs.map vlanEvent)).dropLast) (frames : List (List UInt8)) :
    mvrpQueue src dom leaveAll xs ⟨.mvrp, [], frames⟩
      = mrpSend src ⟨.mvrp, (queued leaveAll (xs.map vlanEvent)).flatMap built, frames⟩ := by
  unfold mvrpQueue
  cases leaveAll with
  | false => exact foldl_txDeclaration src frames xs [] hxs (by simp) (by decide) hfits
  | true =>
    have hleave : txLeaveAll src .vidVector ⟨.mvrp, [], frames⟩
        = mrpSend src ⟨.mvrp, List.flatMap built [⟨true, none⟩], frames⟩ := by
      rw [txLeaveAll, createEmptyMsg_eq_built, flatMap_singleton]
      rfl
    rw [if_pos rfl, hleave]
    cases xs with
    | nil => rfl
    | cons x xs =>
      have hsplit : queued true ((x :: xs).map vlanEvent)
          = [⟨true, some (vlanEvent x)⟩] ++ queued false (xs.map vlanEvent) := rfl
      rw [hsplit] at hfits ⊢
      have hroom : FitsFrame [⟨true, some (vlanEvent x)⟩] := show 15 + 11 + 32 + 2 ≤ 500 by decide
      have hsend : txDeclaration src dom x.1 x.2.code
            ⟨.mvrp, List.flatMap built [⟨true, none⟩], frames⟩
          = mrpSend src ⟨.mvrp, List.flatMap built [⟨true, some (vlanEvent x)⟩], frames⟩ := by
        rw [txDeclaration, flatMap_singleton, flatMap_singleton,
          txBuild_leaveAll (hxs x mem_cons_self)]
        rfl
      rw [mrpSend_messages src frames (by decide), foldl_cons, hsend,
        mrpSend_messages src frames hroom]
      exact foldl_txDeclaration src frames xs _ (fun y hy => hxs y (mem_cons_of_mem x hy))
        (by simp) hroom hfits

lemma forceSend_mrpSend (tx : MrpTx) : forceSend src (mrpSend src tx) = forceSend src tx := by
  rw [mrpSend]
  split_ifs with h
  · unfold forceSend
    split_ifs <;> simp_all
  · rfl

/-! ## Taking out the lengths -/

lemma exists_flatMap_built_eq (m : MvrpMessage) (ms : List MvrpMessage) :
    ∃ front, (m :: ms).flatMap built = front ++ [0, 0] := by
  induction ms generalizing m with
  | nil =>
    obtain ⟨leaveAll, _ | ⟨vlan, e⟩⟩ := m
    · exact ⟨[1, 2] ++ beBytes 2 6 ++ [if leaveAll then 0x20 else 0, 0, 0, 0], rfl⟩
    · exact ⟨[1, 2] ++ beBytes 2 7 ++ [if leaveAll then 0x20 else 0, 1] ++ beBytes 2 vlan ++
        [UInt8.ofNat (e.code * 36)], rfl⟩
  | cons m' ms ih =>
    obtain ⟨front, hfront⟩ := ih m'
    exact ⟨m.built ++ front, by rw [flatMap_cons, hfront, append_assoc]⟩

/-- **One message.**  Its length goes, and the end mark of the last message is left twice. -/
theorem deleteTwo_built (done zeros : List UInt8) (m : MvrpMessage) (ms : List MvrpMessage) :
    deleteTwo (done ++ ((m :: ms).flatMap built ++ zeros)) (done.length + 2)
        (done.length + ((m :: ms).flatMap built).length)
      = done ++ m.sent ++ (ms.flatMap built ++ (0 :: 0 :: zeros)) := by
  obtain ⟨front, hfront⟩ := exists_flatMap_built_eq m ms
  have hbytes : (m :: ms).flatMap built
      = [1, 2] ++ (beBytes 2 m.body.length ++ (m.body ++ ms.flatMap built)) := by
    rw [flatMap_cons, built, append_assoc, append_assoc]
  have hlength : ((m :: ms).flatMap built).length = 4 + (m.body ++ ms.flatMap built).length := by
    rw [hbytes]
    simp
    omega
  have hstop : done.length + ((m :: ms).flatMap built).length - 2 = done.length + front.length := by
    rw [hfront, length_append]
    show done.length + (front.length + 2) - 2 = _
    omega
  have hkept : done.length + ((m :: ms).flatMap built).length - 2 - (done.length + 2)
      = (m.body ++ ms.flatMap built).length := by omega
  have htake : (done ++ ((m :: ms).flatMap built ++ zeros)).take (done.length + 2)
      = done ++ [1, 2] := by
    rw [List.take_length_add_append, hbytes]
    rfl
  have hdrop : (done ++ ((m :: ms).flatMap built ++ zeros)).drop (done.length + 2 + 2)
      = (m.body ++ ms.flatMap built) ++ zeros := by
    rw [Nat.add_assoc, List.drop_length_add_append, hbytes]
    rfl
  have hlast : (done ++ ((m :: ms).flatMap built ++ zeros)).drop (done.length + front.length)
      = 0 :: 0 :: zeros := by
    rw [List.drop_length_add_append, hfront, append_assoc, drop_left]
    rfl
  unfold deleteTwo
  rw [htake, hdrop, hkept, List.take_left, hstop, hlast, sent]
  simp only [append_assoc]

/-- **All messages.**  The loop has taken the lengths out of `done`, and leaves zero bytes behind
the packet. -/
theorem stripLengths_messages : ∀ (ms : List MvrpMessage) (fuel : ℕ) (done zeros : List UInt8),
    ms.length ≤ fuel →
      stripLengths fuel done.length (done.length + (ms.flatMap built).length)
          (done ++ (ms.flatMap built ++ zeros))
        = done ++ ms.flatMap sent ++ (List.replicate (2 * ms.length) 0 ++ zeros)
  | [], fuel, done, zeros, _ => by
    cases fuel <;> simp [stripLengths]
  | m :: ms, fuel + 1, done, zeros, hfuel => by
    have hdropped : (done ++ ((m :: ms).flatMap built ++ zeros)).drop done.length
        = m.built ++ (ms.flatMap built ++ zeros) := by
      rw [drop_left, flatMap_cons, append_assoc]
    have hfirst : byteAt (done ++ ((m :: ms).flatMap built ++ zeros)) done.length ≠ 0 := by
      unfold byteAt
      rw [List.getD_append_right _ _ _ _ le_rfl, Nat.sub_self, flatMap_cons, append_assoc]
      exact byteAt_zero_built m _
    have hlength : ((m :: ms).flatMap built).length =
        m.sent.length + 2 + (ms.flatMap built).length := by
      rw [flatMap_cons, length_append, length_built, sent, length_append]
      show m.body.length + 4 + _ = 2 + m.body.length + 2 + _
      omega
    have hnext : done.length + 4 + m.body.length - 2 = (done ++ m.sent).length := by
      rw [length_append, sent, length_append]
      show _ = done.length + (2 + m.body.length)
      omega
    have hstop : done.length + ((m :: ms).flatMap built).length - 2
        = (done ++ m.sent).length + (ms.flatMap built).length := by
      rw [hlength, length_append]
      omega
    rw [stripLengths, if_pos ⟨by omega, .inl hfirst⟩, hdropped, attributeListLength_built,
      deleteTwo_built, hnext, hstop,
      stripLengths_messages ms fuel (done ++ m.sent) (0 :: 0 :: zeros)
        (Nat.le_of_succ_le_succ hfuel)]
    simp only [flatMap_cons, length_cons, append_assoc, List.append_cancel_left_eq]
    rw [Nat.mul_succ, replicate_add, append_assoc]
    rfl

def messagesFrame (ms : List MvrpMessage) : List UInt8 :=
  mrpHeader src .mvrp ++ ms.flatMap sent ++ List.replicate
    (2 * ms.length + max 4 (64 - (mrpHeaderSize + (ms.flatMap built).length))) 0

lemma forceSend_messages (hms : ms ≠ []) :
    forceSend src ⟨.mvrp, ms.flatMap built, frames⟩ =
      ⟨.mvrp, [], frames ++ [messagesFrame src ms]⟩ := by
  have hne : ms.flatMap built ≠ [] := by
    intro hnil
    have hlength := length_le_flatMap_built ms
    rw [hnil] at hlength
    exact hms (List.eq_nil_of_length_eq_zero (Nat.le_zero.mp hlength))
  have hstrip :=
    stripLengths_messages ms (ms.flatMap built).length [] [] (length_le_flatMap_built ms)
  simp only [nil_append, append_nil, List.length_nil, Nat.zero_add] at hstrip
  unfold forceSend stripAttributeListLengthFields messagesFrame
  dsimp only
  rw [if_neg hne, hstrip, replicate_add]
  simp only [append_assoc]

/-! ## Reading -/

/-- What the receiver reads from an MVRP packet. -/
inductive MvrpOccurrence
  | leaveAll
  | vlan (id event : ℕ)
  deriving DecidableEq

/-- The VLAN of a visited value is that of `avb_mvrp_match_vid_vector`. -/
def mvrpOccurrenceOf (pkt : Mem) : MrpVisit → Option MvrpOccurrence
  | .leaveAll (some .vidVector) => some .leaveAll
  | .value (some .vidVector) fv i three _ _ => some (.vlan (beNat (pkt.load fv 2) + i) three)
  | _ => none

/-- What `avb_mrp_process_packet` finds in a frame with the ethertype of MVRP. -/
def mvrpOccurrences (frame : List UInt8) : List MvrpOccurrence :=
  (mrpVisits .mvrp (framePacket frame) (frame.length - 14)).filterMap
    (mvrpOccurrenceOf (framePacket frame))

namespace MvrpMessage

/-- What is to be read from a message. -/
def occurrences (m : MvrpMessage) : List MvrpOccurrence :=
  (if m.leaveAll then [.leaveAll] else []) ++
    m.value.toList.map fun x => .vlan x.1 x.2.code

def Readable (m : MvrpMessage) : Prop :=
  (m.leaveAll = true ∨ m.value ≠ none) ∧ ∀ x ∈ m.value, x.1 < 2 ^ 16

end MvrpMessage

lemma walkVectors_one {pkt : Mem} {a stop n : ℕ} {leaveAll : Bool} (hn : n ≤ 1)
    (hcount : (pkt (a + 2)).toNat % 32 * 256 + (pkt (a + 2 + 1)).toNat = n)
    (hflag : decide ((pkt (a + 2)).toNat / 32 = 1) = leaveAll)
    (hne : pkt (a + 2) ≠ 0 ∨ pkt (a + 2 + 1) ≠ 0)
    (hmark : pkt (a + 6 + n) = 0 ∧ pkt (a + 6 + n + 1) = 0) (hstop : a + 8 + n ≤ stop)
    (fuel : ℕ) (found : List MrpVisit) :
    walkVectors (fun _ => pkt) collect .mvrp stop a (some .vidVector) 2 (fuel + 2) (a + 2) found
      = (walkValues (fun _ => pkt) collect (some .vidVector) (a + 4) 2 n leaveAll n 0
          (if leaveAll then found ++ [.leaveAll (some .vidVector)] else found),
        some (a + 6 + n)) := by
  have hthree : (n + 2) / 3 = n := by omega
  have hend : a + 2 + (2 + 2 + n + 0) = a + 6 + n := by omega
  have htype : ¬ (some MrpAttributeType.vidVector = some .listener) := by decide
  rw [walkVectors, if_pos ⟨by omega, hne⟩]
  simp only [hcount, hflag, hthree, if_neg htype, hend]
  rw [if_neg (by simp; omega), walkVectors, if_neg (by rw [hmark.1, hmark.2]; simp)]
  rfl

/-- **One message.**  The walk over its list ends at the end mark. -/
theorem walkVectors_message {pkt : Mem} {a stop : ℕ} (h : pkt.Holds a m.sent) (hm : m.Readable)
    (hstop : a + m.sent.length ≤ stop) (fuel : ℕ) (found : List MrpVisit) :
    ∃ visits, walkVectors (fun _ => pkt) collect .mvrp stop a (some .vidVector) 2 (fuel + 2) (a + 2)
        found = (found ++ visits, some (a + m.sent.length - 2)) ∧
      visits.filterMap (mvrpOccurrenceOf pkt) = m.occurrences := by
  have hbyte : ∀ i < m.sent.length, pkt (a + i) = m.sent.getD i 0 := fun i hi => h.apply hi
  obtain ⟨leaveAll, _ | ⟨vlan, e⟩⟩ := m
  · have hleave : leaveAll = true := hm.1.resolve_right fun hne => hne rfl
    subst hleave
    have h2 : pkt (a + 2) = 0x20 := hbyte 2 (by decide)
    have h3 : pkt (a + 2 + 1) = 0 := hbyte 3 (by decide)
    refine ⟨[.leaveAll (some .vidVector)], ?_, rfl⟩
    rw [walkVectors_one (n := 0) (by decide) (by rw [h2, h3]; rfl) rfl (.inl (by rw [h2]; decide))
      ⟨hbyte 6 (by decide), hbyte 7 (by decide)⟩ hstop fuel found, h2]
    rfl
  · have h2 : pkt (a + 2) = if leaveAll then 0x20 else 0 := hbyte 2 (by simp [sent, body])
    have h3 : pkt (a + 2 + 1) = 1 := hbyte 3 (by simp [sent, body])
    have hevent : pkt (a + 4 + 2 + 0 / 3) = UInt8.ofNat (e.code * 36) :=
      hbyte 6 (by simp [sent, body])
    have hvlan : beNat (pkt.load (a + 4) 2) = vlan := by
      have hpart := h.load_part (k := 4) (n := 2) (by simp [sent, body])
      have hbytes : ((sent ⟨leaveAll, some (vlan, e)⟩).drop 4).take 2 = beBytes 2 vlan := rfl
      rw [hpart, hbytes, beNat_beBytes]
      exact Nat.mod_eq_of_lt (hm.2 (vlan, e) rfl)
    have hdecode : ¬ 0xd7 < (UInt8.ofNat (e.code * 36)).toNat ∧
        decodeThreepacked (UInt8.ofNat (e.code * 36)).toNat (0 % 3) = e.code := by
      cases e <;> decide
    refine ⟨(if leaveAll then [.leaveAll (some .vidVector)] else []) ++
      [.value (some .vidVector) (a + 4) 0 e.code 0 leaveAll], ?_, ?_⟩
    · have hflag : decide ((pkt (a + 2)).toNat / 32 = 1) = leaveAll := by
        rw [h2]
        cases leaveAll <;> rfl
      rw [walkVectors_one (n := 1) le_rfl (by rw [h2, h3]; cases leaveAll <;> rfl) hflag
        (.inr (by rw [h3]; decide))
        ⟨hbyte 7 (by simp [sent, body]), hbyte 8 (by simp [sent, body])⟩ hstop fuel found,
        walkValues]
      dsimp only
      rw [hevent, if_neg hdecode.1, hdecode.2, walkValues]
      cases leaveAll <;> simp [collect, sent, body]
    · cases leaveAll <;> simp [mvrpOccurrenceOf, hvlan, occurrences]

/-- **The messages of a packet**, up to the zero bytes behind them. -/
theorem walkMessages_messages {pkt : Mem} {stop : ℕ} : ∀ (ms : List MvrpMessage) (fuel a : ℕ)
    (found : List MrpVisit), (∀ m ∈ ms, m.Readable) → pkt.Holds a (ms.flatMap sent ++ [0, 0]) →
      ms.length ≤ fuel → a + (ms.flatMap sent).length ≤ stop →
      (walkMessages (fun _ => pkt) collect .mvrp stop 0 fuel a found).filterMap
      (mvrpOccurrenceOf pkt)
        = found.filterMap (mvrpOccurrenceOf pkt) ++ ms.flatMap occurrences
  | [], fuel, a, found, _, h, _, _ => by
    have h0 : pkt a = 0 := h.apply (i := 0) (by decide)
    have h1 : pkt (a + 1) = 0 := h.apply (i := 1) (by decide)
    cases fuel <;> simp [walkMessages, h0, h1]
  | m :: ms, fuel + 1, a, found, hms, h, hfuel, hstop => by
    rw [flatMap_cons, append_assoc] at h
    rw [flatMap_cons, length_append] at hstop
    obtain ⟨hm, hrest⟩ := Mem.holds_append.1 h
    have hlong : 8 ≤ m.sent.length := by
      rw [sent, length_append, length_body]
      split_ifs <;> decide
    have h0 : pkt a = 1 := hm.apply (i := 0) (by omega)
    have h1 : pkt (a + 1) = 2 := hm.apply (i := 1) (by omega)
    obtain ⟨spare, hspare⟩ : ∃ spare, stop = spare + 2 := ⟨stop - 2, by omega⟩
    obtain ⟨visits, hwalk, hvisits⟩ := walkVectors_message hm (hms m mem_cons_self)
      (by omega : a + m.sent.length ≤ stop) spare found
    rw [← hspare] at hwalk
    have htype : decodeAttrType .mvrp (1 : UInt8).toNat = some .vidVector := rfl
    have hlen : ¬ (0 = 0 ∧ (some MrpAttributeType.vidVector).map firstValueLength ≠
        some (2 : UInt8).toNat) := by decide
    rw [walkMessages, if_pos ⟨by omega, .inl (by rw [h0]; decide)⟩, h0, h1, htype]
    dsimp only
    rw [if_neg hlen, if_neg (by decide)]
    have htwo : (2 : UInt8).toNat = 2 := rfl
    rw [htwo, hwalk]
    dsimp only
    rw [show a + m.sent.length - 2 + 2 = a + m.sent.length by omega,
      walkMessages_messages ms fuel _ _ (fun m' hm' => hms m' (mem_cons_of_mem m hm')) hrest
        (Nat.le_of_succ_le_succ hfuel) (by omega),
      List.filterMap_append, hvisits, flatMap_cons, append_assoc]

lemma mvrpOccurrences_messagesFrame (hms : ∀ m ∈ ms, m.Readable) :
    mvrpOccurrences (messagesFrame src ms) = ms.flatMap occurrences := by
  obtain ⟨pad, hpad⟩ : ∃ pad, List.replicate (2 * ms.length +
      max 4 (64 - (mrpHeaderSize + (ms.flatMap built).length))) (0 : UInt8) = [0, 0] ++ pad := by
    obtain ⟨n, hn⟩ := Nat.exists_eq_add_of_le
      (by omega : 2 ≤ 2 * ms.length + max 4 (64 - (mrpHeaderSize + (ms.flatMap built).length)))
    exact ⟨List.replicate n 0, by rw [hn, replicate_add]; rfl⟩
  have hframe : messagesFrame src ms = mrpHeader src .mvrp ++
      ((ms.flatMap sent ++ [0, 0]) ++ pad) := by
    rw [messagesFrame, hpad]
    simp only [append_assoc]
  have hheader : (mrpHeader src .mvrp).length = 15 := by simp [mrpHeader]
  have hlength : 3 + (ms.flatMap sent).length ≤ (messagesFrame src ms).length - 14 := by
    rw [hframe, length_append, hheader]
    simp only [length_append, length_cons, List.length_nil]
    omega
  have hcount : ms.length ≤ (ms.flatMap sent).length := by
    rw [List.length_flatMap]
    refine List.length_le_sum_of_one_le _ ?_ |>.trans' (by simp)
    simp [sent]
  obtain ⟨hversion, hholds⟩ := holds_framePacket src .mvrp ((ms.flatMap sent ++ [0, 0]) ++ pad)
  rw [← hframe] at hversion hholds
  rw [mvrpOccurrences, mrpVisits, mrpWalk, hversion]
  exact walkMessages_messages ms _ 1 [] hms (Mem.holds_append.1 hholds).1 (by omega) (by omega)

lemma readable_queued : ∀ (leaveAll : Bool) (ys : List (ℕ × MrpAttributeEvent)),
    (∀ y ∈ ys, y.1 < 2 ^ 16) → ∀ m ∈ queued leaveAll ys, m.Readable
  | false, [], _ => by simp [queued]
  | true, [], _ => by simp [queued, Readable]
  | leaveAll, y :: ys, hys => by
    intro m hm
    rw [queued, List.mem_cons] at hm
    rcases hm with rfl | hm
    · refine ⟨.inr (Option.some_ne_none y), fun x hx => ?_⟩
      rw [← Option.some.inj hx]
      exact hys y mem_cons_self
    · exact readable_queued false ys (fun z hz => hys z (mem_cons_of_mem y hz)) m hm

lemma flatMap_occurrences_queued : ∀ (leaveAll : Bool) (ys : List (ℕ × MrpAttributeEvent)),
    (queued leaveAll ys).flatMap occurrences =
      (if leaveAll then [.leaveAll] else []) ++ ys.map fun y => .vlan y.1 y.2.code
  | false, [] => rfl
  | true, [] => rfl
  | leaveAll, y :: ys => by
    rw [queued, flatMap_cons, flatMap_occurrences_queued false ys]
    cases leaveAll <;> rfl

/-- **MVRP frames can be read back.**  The packet is that of the queued messages, what is sent of a
message is all of it but the two bytes of the length, and the receiver finds the LeaveAll and then
the VLANs and the events as they were queued.  The packet is sent at the latest with the last
message: the room for one more message is needed only before it. -/
theorem mvrp_round_trip (src : Vector UInt8 6) (dom : SrpDomain) (leaveAll : Bool)
    (xs : List (MrpDeclaration × MrpAttributeEvent)) (frames : List (List UInt8))
    (hxs : ∀ x ∈ xs, x.1.type = .vidVector ∧ x.1.vlan < 2 ^ 16)
    (hfits : FitsFrame (queued leaveAll (xs.map vlanEvent)).dropLast) :
    xs.foldl (fun buf x => txBuild dom buf x.1 x.2.code)
        (if leaveAll then createEmptyMsg .vidVector true else [])
      = (queued leaveAll (xs.map vlanEvent)).flatMap built ∧
    (∀ m ∈ queued leaveAll (xs.map vlanEvent), attributeListLength m.built = m.body.length ∧
      m.sent = m.built.take 2 ++ m.built.drop 4) ∧
    forceSend src (mvrpQueue src dom leaveAll xs ⟨.mvrp, [], frames⟩)
      = ⟨.mvrp, [], frames ++ if leaveAll = false ∧ xs = [] then []
          else [messagesFrame src (queued leaveAll (xs.map vlanEvent))]⟩ ∧
    mvrpOccurrences (messagesFrame src (queued leaveAll (xs.map vlanEvent)))
      = (if leaveAll then [.leaveAll] else []) ++ xs.map fun x => .vlan x.1.vlan x.2.code := by
  refine ⟨?_, fun m _ => ?_, ?_, ?_⟩
  · exact foldl_txBuild dom leaveAll xs fun x hx => (hxs x hx).1
  · have hlength := attributeListLength_built m []
    rw [List.append_nil] at hlength
    exact ⟨hlength, rfl⟩
  · rw [mvrpQueue_eq src dom leaveAll xs (fun x hx => (hxs x hx).1) hfits, forceSend_mrpSend]
    split_ifs with hnone
    · rw [hnone.1, hnone.2, List.append_nil]
      rfl
    · refine forceSend_messages src frames ?_
      cases xs <;> cases leaveAll <;> simp_all [queued]
  · rw [mvrpOccurrences_messagesFrame src (readable_queued leaveAll _ _),
      flatMap_occurrences_queued, List.map_map]
    · rfl
    · intro y hy
      obtain ⟨x, hx, rfl⟩ := List.mem_map.mp hy
      exact (hxs x hx).2

/-- The declaration of a VLAN. -/
def vlanDeclaration (vlan : ℕ) : MrpDeclaration :=
  ⟨.vidVector, ⟨0, 0, Vector.replicate 6 0, 0, 0, 0, 0, 0, Vector.replicate 8 0, 0⟩, false,
    false, vlan⟩

theorem mvrp_round_trip_two_vlans : mvrpOccurrences (messagesFrame (Vector.replicate 6 2)
        (queued true
          ([(vlanDeclaration 2, .evJoinIn), (vlanDeclaration 513, .evLv)].map vlanEvent)))
      = [.leaveAll, .vlan 2 1, .vlan 513 5] :=
  (mvrp_round_trip (Vector.replicate 6 2) ⟨false, 2⟩ true
    [(vlanDeclaration 2, .evJoinIn), (vlanDeclaration 513, .evLv)] [] (by decide) (by decide)).2.2.2
