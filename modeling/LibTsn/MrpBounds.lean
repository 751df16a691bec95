/-
# Bounds of the MRP parser

What `avb_mrp_process_packet` and the functions that match a value to an attribute touch
of the packet: the bytes they read, the byte they write and the entries of
`first_value_lengths` they look up.  The walk is recorded step by step beside the walk
itself, each value with the state it is met in.
-/
import LibTsn.SrpState

open List (forall_mem_nil)

/-! ## The steps of a walk -/

inductive WalkStep (σ : Type) where
  | version
  /-- A loop looks at the two bytes at `msg`. -/
  | head (msg : ℕ)
  | length (type : Option MrpAttributeType)
  /-- `attribute_list_length` of the header at `hdr`. -/
  | listLength (hdr : ℕ)
  | packed (a : ℕ)
  | visit (s : σ) (v : MrpVisit)

def WalkStep.visited {σ : Type} : WalkStep σ → Option (σ × MrpVisit)
  | .visit s v => some (s, v)
  | _ => none

section

def vectorNumValues (pkt : Mem) (msg : ℕ) : ℕ :=
  (pkt msg).toNat % 32 * 256 + (pkt (msg + 1)).toNat

def vectorHasLeaveAll (pkt : Mem) (msg : ℕ) : Bool := decide ((pkt msg).toNat / 32 = 1)

def vectorLen (type : Option MrpAttributeType) (firstValueLen : ℕ) (pkt : Mem) (msg : ℕ) : ℕ :=
  2 + firstValueLen + (vectorNumValues pkt msg + 2) / 3
    + if type = some .listener then (vectorNumValues pkt msg + 3) / 4 else 0

def VectorGivenUp (etype : MrpEthertype) (stop hdr : ℕ) (type : Option MrpAttributeType)
    (firstValueLen : ℕ) (pkt : Mem) (msg : ℕ) : Prop :=
  (etype = .srp ∧ (pkt (hdr + 2)).toNat * 256 + (pkt (hdr + 3)).toNat
      < vectorLen type firstValueLen pkt msg + 2)
    ∨ stop < msg + vectorLen type firstValueLen pkt msg
  deriving Decidable

end

section

variable {σ : Type} (mem : σ → Mem) (visit : σ → MrpVisit → σ)
variable (etype : MrpEthertype) (type : Option MrpAttributeType)

def vectorLeaveAll (msg : ℕ) (s : σ) : σ :=
  if vectorHasLeaveAll (mem s) msg then visit s (.leaveAll type) else s

lemma walkVectors_succ (stop hdr : ℕ) (type : Option MrpAttributeType)
    (firstValueLen fuel msg : ℕ) (s : σ) :
    walkVectors mem visit etype stop hdr type firstValueLen (fuel + 1) msg s =
      if msg < stop ∧ (mem s msg ≠ 0 ∨ mem s (msg + 1) ≠ 0) then
        if VectorGivenUp etype stop hdr type firstValueLen (mem s) msg then (s, none)
        else
          walkVectors mem visit etype stop hdr type firstValueLen fuel
            (msg + vectorLen type firstValueLen (mem s) msg)
            (walkValues mem visit type (msg + 2) firstValueLen
              ((vectorNumValues (mem s) msg + 2) / 3) (vectorHasLeaveAll (mem s) msg)
              (vectorNumValues (mem s) msg) 0 (vectorLeaveAll mem visit type msg s))
      else (s, some msg) := rfl

def valueVisit (firstValue firstValueLen threeLen : ℕ) (leaveAll : Bool) (i : ℕ) (s : σ) :
    MrpVisit :=
  let vector := (mem s (firstValue + firstValueLen + i / 3)).toNat
  let four := if type = some .listener then
      decodeFourpacked (mem s (firstValue + firstValueLen + threeLen + i / 4)).toNat (i % 4)
    else 0
  .value type firstValue i (decodeThreepacked vector (i % 3)) four leaveAll

def valuesTrace (type : Option MrpAttributeType) (firstValue firstValueLen threeLen : ℕ)
    (leaveAll : Bool) : ℕ → ℕ → σ → List (WalkStep σ)
  | 0, _, _ => []
  | n + 1, i, s =>
    let found := valueVisit mem type firstValue firstValueLen threeLen leaveAll i s
    .packed (firstValue + firstValueLen + i / 3) ::
      if 0xd7 < (mem s (firstValue + firstValueLen + i / 3)).toNat then []
      else
        (if type = some .listener then [.packed (firstValue + firstValueLen + threeLen + i / 4)]
          else [])
        ++ .visit s found ::
          valuesTrace type firstValue firstValueLen threeLen leaveAll n (i + 1) (visit s found)

def vectorsTrace (etype : MrpEthertype) (stop hdr : ℕ) (type : Option MrpAttributeType)
    (firstValueLen : ℕ) : ℕ → ℕ → σ → List (WalkStep σ)
  | 0, _, _ => []
  | fuel + 1, msg, s =>
    if msg < stop then
      .head msg ::
        if mem s msg ≠ 0 ∨ mem s (msg + 1) ≠ 0 then
          (if etype = .srp then [.listLength hdr] else [])
          ++ if VectorGivenUp etype stop hdr type firstValueLen (mem s) msg then []
            else
              let s' := vectorLeaveAll mem visit type msg s
              (if vectorHasLeaveAll (mem s) msg then [.visit s (.leaveAll type)] else [])
              ++ (valuesTrace mem visit type (msg + 2) firstValueLen
                  ((vectorNumValues (mem s) msg + 2) / 3) (vectorHasLeaveAll (mem s) msg)
                  (vectorNumValues (mem s) msg) 0 s'
              ++ vectorsTrace etype stop hdr type firstValueLen fuel
                  (msg + vectorLen type firstValueLen (mem s) msg)
                  (walkValues mem visit type (msg + 2) firstValueLen
                    ((vectorNumValues (mem s) msg + 2) / 3) (vectorHasLeaveAll (mem s) msg)
                    (vectorNumValues (mem s) msg) 0 s'))
        else []
    else []

def messagesTrace (etype : MrpEthertype) (stop version : ℕ) : ℕ → ℕ → σ → List (WalkStep σ)
  | 0, _, _ => []
  | fuel + 1, msg, s =>
    if msg < stop then
      .head msg ::
        if mem s msg ≠ 0 ∨ mem s (msg + 1) ≠ 0 then
          let type := decodeAttrType etype (mem s msg).toNat
          let firstValueLen := (mem s (msg + 1)).toNat
          (if version = 0 ∧ type ≠ none then [.length type] else [])
          ++ if version = 0 ∧ type.map firstValueLength ≠ some firstValueLen then []
            else
              let start := if etype = .srp then msg + 4 else msg + 2
              vectorsTrace mem visit etype stop msg type firstValueLen stop start s
              ++ match walkVectors mem visit etype stop msg type firstValueLen stop start s with
                | (_, none) => []
                | (s, some next) => messagesTrace etype stop version fuel (next + 2) s
        else []
    else []

def mrpTrace (len : ℕ) (s : σ) : List (WalkStep σ) :=
  .version :: messagesTrace mem visit etype len (mem s 0).toNat len 1 s

def visits (steps : List (WalkStep σ)) : List (σ × MrpVisit) := steps.filterMap WalkStep.visited

variable {mem : σ → Mem} {visit : σ → MrpVisit → σ}

@[simp] lemma visits_append (l l' : List (WalkStep σ)) : visits (l ++ l') = visits l ++ visits l' :=
  List.filterMap_append

@[simp] lemma visits_head (msg : ℕ) (l : List (WalkStep σ)) :
    visits (.head msg :: l) = visits l := rfl

variable (type : Option MrpAttributeType) (etype : MrpEthertype) (len : ℕ) (s : σ)

lemma recorded_valuesTrace (firstValue firstValueLen threeLen : ℕ) (leaveAll : Bool) (n i : ℕ)
    (s : σ) : Run.Recorded visit s
      (visits (valuesTrace mem visit type firstValue firstValueLen threeLen leaveAll n i s))
      (walkValues mem visit type firstValue firstValueLen threeLen leaveAll n i s) := by
  induction n generalizing i s with
  | zero => rfl
  | succ n ih =>
    unfold valuesTrace walkValues
    by_cases hbad : 0xd7 < (mem s (firstValue + firstValueLen + i / 3)).toNat
    · dsimp only
      rw [if_pos hbad, if_pos hbad]
      rfl
    · dsimp only
      rw [if_neg hbad, if_neg hbad]
      have hfour : visits (if type = some .listener then
          [WalkStep.packed (firstValue + firstValueLen + threeLen + i / 4)] else
          ([] : List (WalkStep σ))) = [] := by
        split_ifs <;> rfl
      show Run.Recorded visit s (visits (_ ++ _)) _
      rw [visits_append, hfour]
      exact ⟨rfl, ih _ _⟩

lemma recorded_vectorLeaveAll (msg : ℕ) (s : σ) : Run.Recorded visit s
    (visits (if vectorHasLeaveAll (mem s) msg then [.visit s (.leaveAll type)] else []))
    (vectorLeaveAll mem visit type msg s) := by
  unfold vectorLeaveAll
  cases vectorHasLeaveAll (mem s) msg with
  | false => rfl
  | true => exact ⟨rfl, rfl⟩

lemma recorded_vectorsTrace (stop hdr : ℕ) (type : Option MrpAttributeType)
    (firstValueLen fuel msg : ℕ) (s : σ) : Run.Recorded visit s
      (visits (vectorsTrace mem visit etype stop hdr type firstValueLen fuel msg s))
      (walkVectors mem visit etype stop hdr type firstValueLen fuel msg s).1 := by
  induction fuel generalizing msg s with
  | zero => rfl
  | succ fuel ih =>
    rw [walkVectors_succ, vectorsTrace]
    by_cases hmsg : msg < stop
    swap
    · rw [if_neg hmsg, if_neg fun h => hmsg h.1]
      rfl
    by_cases hend : mem s msg ≠ 0 ∨ mem s (msg + 1) ≠ 0
    swap
    · rw [if_pos hmsg, if_neg hend, if_neg fun h => hend h.2]
      rfl
    rw [if_pos hmsg, if_pos hend, if_pos (And.intro hmsg hend)]
    have hlist : visits (if etype = .srp then [WalkStep.listLength hdr] else
        ([] : List (WalkStep σ))) = [] := by
      split_ifs <;> rfl
    show Run.Recorded visit s (visits (_ ++ _)) _
    rw [visits_append, hlist, List.nil_append]
    by_cases hgive : VectorGivenUp etype stop hdr type firstValueLen (mem s) msg
    · rw [if_pos hgive, if_pos hgive]
      rfl
    · rw [if_neg hgive, if_neg hgive, visits_append, visits_append]
      exact (recorded_vectorLeaveAll type msg s).append
        ((recorded_valuesTrace _ _ _ _ _ _ _ _).append (ih _ _))

lemma recorded_messagesTrace (stop version fuel msg : ℕ) (s : σ) :
    Run.Recorded visit s (visits (messagesTrace mem visit etype stop version fuel msg s))
      (walkMessages mem visit etype stop version fuel msg s) := by
  induction fuel generalizing msg s with
  | zero => rfl
  | succ fuel ih =>
    unfold messagesTrace walkMessages
    by_cases hmsg : msg < stop
    swap
    · rw [if_neg hmsg, if_neg fun h => hmsg h.1]
      rfl
    by_cases hend : mem s msg ≠ 0 ∨ mem s (msg + 1) ≠ 0
    swap
    · rw [if_pos hmsg, if_neg hend, if_neg fun h => hend h.2]
      rfl
    rw [if_pos hmsg, if_pos hend, if_pos (And.intro hmsg hend)]
    dsimp only
    have hlength : visits (if version = 0 ∧ decodeAttrType etype (mem s msg).toNat ≠ none then
        [WalkStep.length (decodeAttrType etype (mem s msg).toNat)] else
        ([] : List (WalkStep σ))) = [] := by
      split_ifs <;> rfl
    show Run.Recorded visit s (visits (_ ++ _)) _
    rw [visits_append, hlength, List.nil_append]
    by_cases hgive : version = 0 ∧ (decodeAttrType etype (mem s msg).toNat).map firstValueLength
        ≠ some (mem s (msg + 1)).toNat
    · rw [if_pos hgive, if_pos hgive]
      rfl
    · rw [if_neg hgive, if_neg hgive, visits_append]
      refine (recorded_vectorsTrace _ _ _ _ _ _ _ _).append ?_
      generalize walkVectors mem visit etype stop msg (decodeAttrType etype (mem s msg).toNat)
        (mem s (msg + 1)).toNat stop (if etype = .srp then msg + 4 else msg + 2) s = r
      obtain ⟨s', next⟩ := r
      cases next with
      | none => rfl
      | some next => exact ih _ _

lemma recorded_mrpTrace :
    Run.Recorded visit s (visits (mrpTrace mem visit etype len s))
      (mrpWalk mem visit etype len s) :=
  recorded_messagesTrace etype len _ len 1 s

/-! ## The turns of the loops -/

lemma two_le_vectorLen (firstValueLen : ℕ) (pkt : Mem) (msg : ℕ) :
    2 ≤ vectorLen type firstValueLen pkt msg := by
  unfold vectorLen
  omega

lemma vectors_fuel (stop hdr : ℕ) (type : Option MrpAttributeType)
    (firstValueLen k fuel msg : ℕ) (s : σ) (hpos : 0 < fuel) (hfuel : stop ≤ msg + fuel) :
    walkVectors mem visit etype stop hdr type firstValueLen (fuel + k) msg s =
        walkVectors mem visit etype stop hdr type firstValueLen fuel msg s ∧
      vectorsTrace mem visit etype stop hdr type firstValueLen (fuel + k) msg s =
        vectorsTrace mem visit etype stop hdr type firstValueLen fuel msg s := by
  induction fuel generalizing msg s with
  | zero => exact absurd hpos (lt_irrefl 0)
  | succ fuel ih =>
    rw [Nat.add_right_comm fuel 1 k, walkVectors_succ, walkVectors_succ, vectorsTrace,
      vectorsTrace]
    by_cases hmsg : msg < stop
    swap
    · rw [if_neg hmsg, if_neg hmsg, if_neg fun h => hmsg h.1, if_neg fun h => hmsg h.1]
      exact ⟨rfl, rfl⟩
    by_cases hgive : VectorGivenUp etype stop hdr type firstValueLen (mem s) msg
    · simp only [if_pos hgive, and_self]
    · have hlen := two_le_vectorLen type firstValueLen (mem s) msg
      have hstop : msg + vectorLen type firstValueLen (mem s) msg ≤ stop :=
        not_lt.mp fun h => hgive (Or.inr h)
      have hnext := fun s' => ih (msg + vectorLen type firstValueLen (mem s) msg) s'
        (by omega) (by omega)
      simp only [if_neg hgive, (hnext _).1, (hnext _).2, and_self]

lemma le_of_walkVectors_eq_some (stop hdr : ℕ) (type : Option MrpAttributeType)
    (firstValueLen fuel msg : ℕ) (s : σ) {next : ℕ}
    (h : (walkVectors mem visit etype stop hdr type firstValueLen fuel msg s).2 = some next) :
    msg ≤ next := by
  induction fuel generalizing msg s with
  | zero => cases h
  | succ fuel ih =>
    rw [walkVectors_succ] at h
    split_ifs at h
    · exact le_trans (Nat.le_add_right _ _) (ih _ _ h)
    · exact (Option.some.inj h).le

lemma messages_fuel (stop version k fuel msg : ℕ) (s : σ) (hfuel : stop ≤ msg + fuel) :
    walkMessages mem visit etype stop version (fuel + k) msg s =
        walkMessages mem visit etype stop version fuel msg s ∧
      messagesTrace mem visit etype stop version (fuel + k) msg s =
        messagesTrace mem visit etype stop version fuel msg s := by
  induction fuel generalizing msg s with
  | zero =>
    have hmsg : ¬ msg < stop := by omega
    cases k with
    | zero => exact ⟨rfl, rfl⟩
    | succ k =>
      show walkMessages mem visit etype stop version (0 + k + 1) msg s = s ∧
        messagesTrace mem visit etype stop version (0 + k + 1) msg s = []
      rw [walkMessages, messagesTrace, if_neg hmsg, if_neg fun h => hmsg h.1]
      exact ⟨rfl, rfl⟩
  | succ fuel ih =>
    rw [Nat.add_right_comm fuel 1 k]
    unfold walkMessages messagesTrace
    have hnext : ∀ next, (walkVectors mem visit etype stop msg
        (decodeAttrType etype (mem s msg).toNat) (mem s (msg + 1)).toNat stop
        (if etype = .srp then msg + 4 else msg + 2) s).2 = some next →
        (if etype = .srp then msg + 4 else msg + 2) ≤ next :=
      fun _ => le_of_walkVectors_eq_some _ _ _ _ _ _ _ _
    dsimp only
    generalize walkVectors mem visit etype stop msg (decodeAttrType etype (mem s msg).toNat)
      (mem s (msg + 1)).toNat stop (if etype = .srp then msg + 4 else msg + 2) s = r at hnext ⊢
    obtain ⟨s', next⟩ := r
    cases next with
    | none => exact ⟨rfl, rfl⟩
    | some next =>
      have hle : msg + 2 ≤ next := by
        refine le_trans ?_ (hnext next rfl)
        split_ifs <;> omega
      have hrest := ih (next + 2) s' (by omega)
      simp only [hrest.1, hrest.2, and_self]

/-- **The parser ends.**  Whatever stands in a packet, and whatever becomes of it while it is read,
the loops over its messages and over the vectors of a message take no more turns than it has bytes:
with more turns allowed they look at the same places in the same order, and return the same. -/
theorem mrp_parser_ends (stop hdr version firstValueLen msg k : ℕ) (hstop : 0 < stop)
    (type : Option MrpAttributeType) (s : σ) :
    (walkVectors mem visit etype stop hdr type firstValueLen (stop + k) msg s =
        walkVectors mem visit etype stop hdr type firstValueLen stop msg s ∧
      vectorsTrace mem visit etype stop hdr type firstValueLen (stop + k) msg s =
        vectorsTrace mem visit etype stop hdr type firstValueLen stop msg s) ∧
    walkMessages mem visit etype stop version (stop + k) msg s =
        walkMessages mem visit etype stop version stop msg s ∧
      messagesTrace mem visit etype stop version (stop + k) msg s =
        messagesTrace mem visit etype stop version stop msg s := by
  have hturns : stop ≤ msg + stop := Nat.le_add_left stop msg
  exact ⟨vectors_fuel etype stop hdr type firstValueLen k stop msg s hstop hturns,
    messages_fuel etype stop version k stop msg s hturns⟩

theorem mrp_parser_ends_ones :
    vectorsTrace id (fun s _ => s) .srp 9 0 none 1 (9 + 5) 5 (fun _ => 1) =
        vectorsTrace id (fun s _ => s) .srp 9 0 none 1 9 5 (fun _ => 1) ∧
      messagesTrace id (fun s _ => s) .srp 9 0 (9 + 5) 5 (fun _ => 1) =
        messagesTrace id (fun s _ => s) .srp 9 0 9 5 (fun _ => 1) :=
  ⟨(mrp_parser_ends .srp 9 0 0 1 5 5 (by decide) none (fun _ => 1)).1.2,
    (mrp_parser_ends .srp 9 0 0 1 5 5 (by decide) none (fun _ => 1)).2.2⟩

/-! ## A packet that stays as it is -/

/-- The positions at which the loops look for the end of their list. -/
def heads (steps : List (WalkStep σ)) : List ℕ :=
  steps.filterMap fun
    | .head msg => some msg
    | _ => none

@[simp] lemma heads_append (l l' : List (WalkStep σ)) : heads (l ++ l') = heads l ++ heads l' :=
  List.filterMap_append

@[simp] lemma heads_head (msg : ℕ) (l : List (WalkStep σ)) :
    heads (.head msg :: l) = msg :: heads l := rfl

@[simp] lemma heads_ite_nil {p : Prop} [Decidable p] {l : List (WalkStep σ)} :
    heads (if p then l else []) = if p then heads l else [] := by
  split_ifs <;> rfl

lemma heads_valuesTrace (firstValue firstValueLen threeLen : ℕ) (leaveAll : Bool)
    (n i : ℕ) (s : σ) :
    heads (valuesTrace mem visit type firstValue firstValueLen threeLen leaveAll n i s) = [] := by
  induction n generalizing i s with
  | zero => rfl
  | succ n ih =>
    unfold valuesTrace
    dsimp only
    split_ifs
    · rfl
    · exact ih _ _
    · exact ih _ _

lemma mem_of_recorded {ε : Type} {step : σ → ε → σ} {s s' : σ} {rs : List (σ × ε)}
    (h : Run.Recorded step s rs s') (hkeep : ∀ r ∈ rs, mem (step r.1 r.2) = mem r.1) :
    mem s' = mem s :=
  h.rel (R := fun p q => mem q = mem p) (fun _ => rfl) (fun h h' => h'.trans h) hkeep

/-- If no visit changes the packet, the loops look where they would without the visits. -/
lemma heads_vectorsTrace (stop hdr : ℕ) (type : Option MrpAttributeType)
    (firstValueLen fuel msg : ℕ) (s : σ)
    (hkeep : ∀ r ∈ visits (vectorsTrace mem visit etype stop hdr type firstValueLen fuel msg s),
      mem (visit r.1 r.2) = mem r.1) :
    heads (vectorsTrace mem visit etype stop hdr type firstValueLen fuel msg s) =
        heads (vectorsTrace (fun _ : Unit => mem s) (fun _ _ => ()) etype stop hdr type
          firstValueLen fuel msg ()) ∧
      (walkVectors mem visit etype stop hdr type firstValueLen fuel msg s).2 =
        (walkVectors (fun _ : Unit => mem s) (fun _ _ => ()) etype stop hdr type firstValueLen fuel
          msg ()).2 := by
  induction fuel generalizing msg s with
  | zero => exact ⟨rfl, rfl⟩
  | succ fuel ih =>
    rw [walkVectors_succ, walkVectors_succ]
    unfold vectorsTrace at hkeep ⊢
    by_cases hmsg : msg < stop
    swap
    · simp only [hmsg, if_false, false_and]
      exact ⟨rfl, trivial⟩
    by_cases hend : mem s msg ≠ 0 ∨ mem s (msg + 1) ≠ 0
    swap
    · simp only [hmsg, hend, if_true, if_false, and_false]
      exact ⟨rfl, trivial⟩
    have hlist : ∀ τ : Type, heads [(.listLength hdr : WalkStep τ)] = [] := fun _ => rfl
    have hvisit : ∀ (τ : Type) (p : τ) x, heads [.visit p x] = [] := fun _ _ _ => rfl
    by_cases hgive : VectorGivenUp etype stop hdr type firstValueLen (mem s) msg
    · simp only [hmsg, hend, hgive, if_true, and_self, heads_head, heads_append,
        heads_ite_nil, hlist, ite_self]
      exact ⟨rfl, trivial⟩
    simp only [hmsg, hend, hgive, if_true, and_self, if_false] at hkeep ⊢
    simp only [visits_head, visits_append, List.forall_mem_append] at hkeep
    obtain ⟨-, hleave, hvalues, hrest⟩ := hkeep
    have hsame := (mem_of_recorded (recorded_valuesTrace _ _ _ _ _ _ _ _) hvalues).trans
      (mem_of_recorded (recorded_vectorLeaveAll type msg s) hleave)
    have hnext := ih _ _ hrest
    rw [hsame] at hnext
    simp only [heads_head, heads_append, heads_ite_nil, hlist, hvisit, ite_self, heads_valuesTrace,
      List.nil_append, hnext, and_self]

lemma heads_messagesTrace (stop version fuel msg : ℕ) (s : σ)
    (hkeep : ∀ r ∈ visits (messagesTrace mem visit etype stop version fuel msg s),
      mem (visit r.1 r.2) = mem r.1) :
    heads (messagesTrace mem visit etype stop version fuel msg s) =
      heads (messagesTrace (fun _ : Unit => mem s) (fun _ _ => ()) etype stop version fuel
        msg ()) := by
  induction fuel generalizing msg s with
  | zero => rfl
  | succ fuel ih =>
    unfold messagesTrace at hkeep ⊢
    have hlength : ∀ (τ : Type) type, heads [(.length type : WalkStep τ)] = [] := fun _ _ => rfl
    by_cases hmsg : msg < stop
    swap
    · simp only [hmsg, if_false]
      rfl
    by_cases hend : mem s msg ≠ 0 ∨ mem s (msg + 1) ≠ 0
    swap
    · simp only [hmsg, hend, if_true, if_false]
      rfl
    simp only [hmsg, hend, if_true, visits_head, visits_append, List.forall_mem_append] at hkeep ⊢
    simp only [heads_head, heads_append, heads_ite_nil, hlength, ite_self, List.nil_append]
    generalize decodeAttrType etype (mem s msg).toNat = type at hkeep ⊢
    generalize (if etype = .srp then msg + 4 else msg + 2) = start at hkeep ⊢
    replace hkeep := hkeep.2
    split_ifs at hkeep ⊢ with hgive
    · rfl
    rw [visits_append, List.forall_mem_append] at hkeep
    obtain ⟨hvectors, hrest⟩ := hkeep
    obtain ⟨hheads, hnext⟩ := heads_vectorsTrace etype stop msg type _ stop start s hvectors
    have hsame := mem_of_recorded (recorded_vectorsTrace _ _ _ _ _ _ _ _) hvectors
    simp only [heads_append, hheads]
    generalize walkVectors mem visit etype stop msg type _ stop start s = r at hnext hsame hrest ⊢
    generalize walkVectors (fun _ : Unit => mem s) _ etype stop msg type _ stop start () = r'
      at hnext ⊢
    obtain ⟨s', next⟩ := r
    obtain ⟨u, next'⟩ := r'
    obtain rfl : next = next' := hnext
    cases next with
    | none => rfl
    | some next =>
      have hlater := ih (next + 2) s' hrest
      rw [show mem s' = mem s from hsame] at hlater
      exact congrArg (fun l => msg :: (_ ++ l)) hlater

lemma heads_mrpTrace (s : σ)
    (hkeep : ∀ r ∈ visits (mrpTrace mem visit etype len s), mem (visit r.1 r.2) = mem r.1) :
    heads (mrpTrace mem visit etype len s) =
      heads (mrpTrace (fun _ : Unit => mem s) (fun _ _ => ()) etype len ()) :=
  heads_messagesTrace etype len _ len 1 s hkeep

/-! ## What every walk keeps to -/

lemma forall_mem_ite {α : Type} {p : Prop} [Decidable p] {P : α → Prop} {l l' : List α}
    (h : p → ∀ x ∈ l, P x) (h' : ¬ p → ∀ x ∈ l', P x) : ∀ x ∈ if p then l else l', P x :=
  iteInduction (motive := fun l => ∀ x ∈ l, P x) h h'

def WalkStep.Sound (stop version : ℕ) : WalkStep σ → Prop
  | .length type => type ≠ none
  | .listLength hdr => hdr + 4 ≤ stop
  | .packed a => a < stop
  | .visit _ (.value (some type) fv _ _ _ _) =>
    fv ≤ stop ∧ (version = 0 → fv + firstValueLength type ≤ stop)
  | _ => True

lemma sound_valuesTrace {stop version : ℕ} {type : Option MrpAttributeType}
    {firstValue firstValueLen threeLen : ℕ} (fourLen : ℕ) (leaveAll : Bool) (n i : ℕ) (s : σ)
    (hthree : (i + n + 2) / 3 ≤ threeLen)
    (hfour : type = some .listener → (i + n + 3) / 4 ≤ fourLen)
    (hstop : firstValue + firstValueLen + threeLen + fourLen ≤ stop)
    (hversion : version = 0 → type.map firstValueLength = some firstValueLen) :
    ∀ x ∈ valuesTrace mem visit type firstValue firstValueLen threeLen leaveAll n i s,
      x.Sound stop version := by
  induction n generalizing i s with
  | zero =>
    intro x hx
    cases hx
  | succ n ih =>
    unfold valuesTrace
    have hfirst : firstValue + firstValueLen + i / 3 < stop := by omega
    refine List.forall_mem_cons.mpr ⟨hfirst, ?_⟩
    refine forall_mem_ite (fun _ => forall_mem_nil _) fun _ => ?_
    refine List.forall_mem_append.mpr ⟨?_, List.forall_mem_cons.mpr ⟨?_, ?_⟩⟩
    · refine forall_mem_ite (fun hl => ?_) fun _ => forall_mem_nil _
      have hi := hfour hl
      exact List.forall_mem_singleton.mpr
        (show firstValue + firstValueLen + threeLen + i / 4 < stop by omega)
    · cases type with
      | none => trivial
      | some type =>
        refine ⟨by omega, fun h0 => ?_⟩
        have hlen : firstValueLength type = firstValueLen := Option.some.inj (hversion h0)
        omega
    · refine ih (i + 1) _ ?_ fun hl => ?_
      · omega
      · have hi := hfour hl
        omega

lemma sound_vectorsTrace {etype : MrpEthertype} {stop version hdr : ℕ}
    {type : Option MrpAttributeType} {firstValueLen : ℕ} (fuel msg : ℕ) (s : σ)
    (hhdr : etype = .srp → hdr + 4 ≤ msg)
    (hversion : version = 0 → type.map firstValueLength = some firstValueLen) :
    ∀ x ∈ vectorsTrace mem visit etype stop hdr type firstValueLen fuel msg s,
      x.Sound stop version := by
  induction fuel generalizing msg s with
  | zero => exact forall_mem_nil _
  | succ fuel ih =>
    unfold vectorsTrace
    refine forall_mem_ite (fun hmsg => ?_) fun _ => forall_mem_nil _
    refine List.forall_mem_cons.mpr ⟨trivial, ?_⟩
    refine forall_mem_ite (fun _ => ?_) fun _ => forall_mem_nil _
    refine List.forall_mem_append.mpr ⟨?_, ?_⟩
    · refine forall_mem_ite (fun hsrp => ?_) fun _ => forall_mem_nil _
      have hlist := hhdr hsrp
      exact List.forall_mem_singleton.mpr (show hdr + 4 ≤ stop by omega)
    · refine forall_mem_ite (fun _ => forall_mem_nil _) fun hgive => ?_
      have hstop : msg + vectorLen type firstValueLen (mem s) msg ≤ stop :=
        not_lt.mp fun h => hgive (Or.inr h)
      refine List.forall_mem_append.mpr ⟨?_, List.forall_mem_append.mpr ⟨?_, ?_⟩⟩
      · refine forall_mem_ite (fun _ => List.forall_mem_singleton.mpr trivial) fun _ =>
          forall_mem_nil _
      · refine sound_valuesTrace (if type = some .listener then
            (vectorNumValues (mem s) msg + 3) / 4 else 0) _ _ _ _ (by rw [Nat.zero_add])
            (fun hl => ?_) ?_ hversion
        · rw [if_pos hl, Nat.zero_add]
        · unfold vectorLen at hstop
          omega
      · refine ih _ _ fun hsrp => ?_
        have hlist := hhdr hsrp
        omega

lemma sound_messagesTrace {etype : MrpEthertype} {stop version : ℕ} (fuel msg : ℕ) (s : σ) :
    ∀ x ∈ messagesTrace mem visit etype stop version fuel msg s, x.Sound stop version := by
  induction fuel generalizing msg s with
  | zero => exact forall_mem_nil _
  | succ fuel ih =>
    unfold messagesTrace
    refine forall_mem_ite (fun _ => ?_) fun _ => forall_mem_nil _
    refine List.forall_mem_cons.mpr ⟨trivial, ?_⟩
    refine forall_mem_ite (fun _ => ?_) fun _ => forall_mem_nil _
    refine List.forall_mem_append.mpr ⟨?_, ?_⟩
    · exact forall_mem_ite (fun hknown => List.forall_mem_singleton.mpr hknown.2) fun _ =>
        forall_mem_nil _
    · refine forall_mem_ite (fun _ => forall_mem_nil _) fun hgive =>
        List.forall_mem_append.mpr ⟨?_, ?_⟩
      · refine sound_vectorsTrace _ _ _ (fun hsrp => ?_) fun h0 => ?_
        · rw [if_pos hsrp]
        · exact not_not.mp fun hne => hgive ⟨h0, hne⟩
      · split
        · exact forall_mem_nil _
        · exact ih _ _

lemma sound_mrpTrace : ∀ x ∈ mrpTrace mem visit etype len s, x.Sound len (mem s 0).toNat :=
  List.forall_mem_cons.mpr ⟨trivial, sound_messagesTrace _ _ _⟩

end

/-! ## Accesses -/

/-- An access of the parser: bytes of the packet read from an address on, a byte of it
written, or a length looked up in `first_value_lengths`. -/
inductive MrpAccess where
  | read (a n : ℕ)
  | write (a : ℕ)
  | length (type : Option MrpAttributeType)
  deriving DecidableEq

def MrpAccess.Inside (len : ℕ) : MrpAccess → Prop
  | .read a n => a + n ≤ len
  | .write a => a < len
  | .length type => type ≠ none

instance (len : ℕ) : DecidablePred (MrpAccess.Inside len)
  | .read a n => inferInstanceAs (Decidable (a + n ≤ len))
  | .write a => inferInstanceAs (Decidable (a < len))
  | .length type => inferInstanceAs (Decidable (type ≠ none))

namespace SrpState

/-- A call of `match_attribute_of_same_type`. -/
structure MatchCall (a t v : ℕ) where
  reader : Reader a t v
  attr : Fin a
  type : MrpAttributeType
  firstValue : ℕ
  index : ℕ
  three : ℕ
  four : ℕ
  leaveAll : Bool

variable {a t v : ℕ}

namespace MatchCall

variable (c : MatchCall a t v)

def SameType : Prop :=
  (c.reader.srp.attrs c.attr).applicantState.Begun ∧
    ((c.reader.srp.attrs c.attr).attributeType = c.type ∨
      (c.reader.srp.attrs c.attr).attributeType.IsTalker ∧ c.type.IsTalker)
  deriving Decidable

def Names (x : AvbStreamEntry) : Prop :=
  x.reservation.streamId = streamIdAt c.reader.pkt c.firstValue c.index ∧
    c.leaveAll = false ∧ (c.reader.pkt (c.firstValue + 20)).toNat / 32 = 3
  deriving Decidable

/-- The accesses of `avb_srp_match_talker_advertise`. -/
def talkerAccesses (failed : Bool) : List MrpAccess :=
  match (c.reader.srp.attrs c.attr).attributeInfo with
  | .stream j =>
    let x := c.reader.srp.table j
    .read c.firstValue 8 :: .read (c.firstValue + 20) 1 ::
      if c.Names x then
        (if failed then [.read (c.firstValue + 25) 9]
          else if x.reservationFailed then [.write (c.firstValue + 33)] else [])
        ++ if x.talkerPresent then [] else [.read (c.firstValue + 8) 17]
      else []
  | _ => []

/-- The accesses of `avb_srp_match_listener`. -/
def listenerAccesses : List MrpAccess :=
  match (c.reader.srp.attrs c.attr).attributeInfo with
  | .stream _ => if c.four ≠ FourPacked.ignore then [.read c.firstValue 8] else []
  | _ => []

/-- The accesses of `match_attribute_of_same_type`. -/
def accesses : List MrpAccess :=
  if c.SameType then
    match c.type with
    | .talkerAdvertise => c.talkerAccesses false
    | .talkerFailed => c.talkerAccesses true
    | .listener => c.listenerAccesses
    | .domainVector => [.read c.firstValue 4]
    | .macVector => []
    | .vidVector => [.read c.firstValue 2]
  else []

def after : Reader a t v :=
  readValue c.type c.firstValue c.index c.three c.four c.leaveAll c.reader c.attr

end MatchCall

def matchCalls : Reader a t v × MrpVisit → List (MatchCall a t v)
  | (p, .value (some type) fv n three four leaveAll) =>
    (Run.record (readValue type fv n three four leaveAll) p (List.finRange a)).map
      fun r => ⟨r.1, r.2, type, fv, n, three, four, leaveAll⟩
  | _ => []

def stepAccesses : WalkStep (Reader a t v) → List MrpAccess
  | .version => [.read 0 1]
  | .head msg => [.read msg 2]
  | .length type => [.length type]
  | .listLength hdr => [.read (hdr + 2) 2]
  | .packed k => [.read k 1]
  | .visit p found => (matchCalls (p, found)).flatMap MatchCall.accesses

variable (etype : MrpEthertype) (pkt : Mem) (len : ℕ) (s : SrpState a t v)

/-- The steps of `avb_mrp_process_packet`. -/
def packetTrace : List (WalkStep (Reader a t v)) :=
  mrpTrace Reader.pkt readVisit etype len ⟨s, pkt⟩

/-- The accesses of `avb_mrp_process_packet`. -/
def packetAccesses : List MrpAccess :=
  (packetTrace etype pkt len s).flatMap stepAccesses

/-- The packet after `avb_mrp_process_packet`. -/
def packetAfter : Mem :=
  (mrpWalk Reader.pkt readVisit etype len ⟨s, pkt⟩).pkt

/-- The positions at which the loops look for the end of their list, in a packet that stays as it
is. -/
def packetHeads : List ℕ :=
  heads (mrpTrace (fun _ : Unit => pkt) (fun _ _ => ()) etype len ())

def packetCalls : List (MatchCall a t v) :=
  (visits (packetTrace etype pkt len s)).flatMap matchCalls

namespace MatchCall

variable (c : MatchCall a t v) (failed : Bool) {len : ℕ}

def FailedBefore : Prop :=
  match (c.reader.srp.attrs c.attr).attributeInfo with
  | .stream j => c.Names (c.reader.srp.table j) ∧ (c.reader.srp.table j).reservationFailed = true
  | _ => False

def ResetsFailureCode : Prop :=
  c.SameType ∧ c.type = .talkerAdvertise ∧ c.FailedBefore

/-- The bytes of the first value that `avb_srp_match_talker_advertise` looks at. -/
def talkerExtent (failed : Bool) : ℕ :=
  match (c.reader.srp.attrs c.attr).attributeInfo with
  | .stream j =>
    if c.Names (c.reader.srp.table j) then
      if failed then 34 else if (c.reader.srp.table j).talkerPresent then 21 else 25
    else 21
  | _ => 0

/-- The bytes of the first value that `avb_srp_match_listener` looks at. -/
def listenerExtent : ℕ :=
  match (c.reader.srp.attrs c.attr).attributeInfo with
  | .stream _ => if c.four ≠ FourPacked.ignore then 8 else 0
  | _ => 0

def extent : ℕ :=
  if c.SameType then
    match c.type with
    | .talkerAdvertise => c.talkerExtent false
    | .talkerFailed => c.talkerExtent true
    | .listener => c.listenerExtent
    | .domainVector => 4
    | .macVector => 0
    | .vidVector => 2
  else 0

/-- **A value that can be matched.**  In a version other than 0 the bytes that are looked
at lie in the packet; and a failure code that is reset lies there as well and is 0. -/
def Fits (len : ℕ) (version : UInt8) (c : MatchCall a t v) : Prop :=
  (version = 0 ∨ c.firstValue + c.extent ≤ len) ∧
    (c.ResetsFailureCode →
      c.firstValue + 33 < len ∧ c.reader.pkt (c.firstValue + 33) = 0)

lemma talkerExtent_le : c.talkerExtent failed ≤ if failed then 34 else 25 := by
  unfold talkerExtent
  cases failed <;> split <;> split_ifs <;> decide

lemma listenerExtent_le : c.listenerExtent ≤ 8 := by
  unfold listenerExtent
  split
  · split_ifs <;> decide
  · exact Nat.zero_le _

lemma extent_le : c.extent ≤ firstValueLength c.type := by
  unfold extent
  refine iteInduction (motive := fun n => n ≤ firstValueLength c.type) (fun _ => ?_)
    fun _ => Nat.zero_le _
  cases c.type with
  | talkerAdvertise => exact c.talkerExtent_le false
  | talkerFailed => exact c.talkerExtent_le true
  | listener => exact c.listenerExtent_le
  | domainVector => exact le_refl 4
  | macVector => exact Nat.zero_le _
  | vidVector => exact le_refl 2

lemma inside_talkerAccesses (hlen : c.firstValue ≤ len) :
    (∀ x ∈ c.talkerAccesses failed, x.Inside len) ↔
      c.firstValue + c.talkerExtent failed ≤ len ∧
        (failed = false → c.FailedBefore → c.firstValue + 33 < len) := by
  unfold talkerAccesses talkerExtent FailedBefore
  cases (c.reader.srp.attrs c.attr).attributeInfo with
  | stream j =>
    dsimp only
    generalize c.reader.srp.table j = x
    by_cases hnames : c.Names x
    · rw [if_pos hnames, if_pos hnames, List.forall_mem_cons, List.forall_mem_cons,
        List.forall_mem_append]
      cases failed with
      | true =>
        cases x.talkerPresent <;> simp [MrpAccess.Inside] <;> omega
      | false =>
        cases x.talkerPresent <;> cases x.reservationFailed <;>
          simp [hnames, MrpAccess.Inside] <;> omega
    · simp [hnames, MrpAccess.Inside]
      omega
  | _ => simpa using hlen

lemma inside_listenerAccesses (hlen : c.firstValue ≤ len) :
    (∀ x ∈ c.listenerAccesses, x.Inside len) ↔ c.firstValue + c.listenerExtent ≤ len := by
  unfold listenerAccesses listenerExtent
  cases (c.reader.srp.attrs c.attr).attributeInfo with
  | stream j => by_cases hfour : c.four = FourPacked.ignore <;> simp [hfour, hlen, MrpAccess.Inside]
  | _ => simpa using hlen

lemma inside_accesses (hlen : c.firstValue ≤ len) : (∀ x ∈ c.accesses, x.Inside len) ↔
      c.firstValue + c.extent ≤ len ∧ (c.ResetsFailureCode → c.firstValue + 33 < len) := by
  unfold accesses extent ResetsFailureCode
  by_cases hsame : c.SameType
  swap
  · simp [hsame, hlen]
  rw [if_pos hsame, if_pos hsame]
  cases htype : c.type with
  | talkerAdvertise =>
    rw [inside_talkerAccesses c false hlen]
    simp [hsame]
  | talkerFailed =>
    rw [inside_talkerAccesses c true hlen]
    simp
  | listener =>
    rw [inside_listenerAccesses c hlen]
    simp
  | macVector => simpa using hlen
  | _ => simp [MrpAccess.Inside]

/-! ## The packet afterwards -/

lemma pkt_after_eq :
    c.after.pkt = (matchAttributeOfSameType c.type c.attr c.firstValue c.index c.four c.leaveAll
      c.reader).2.pkt := by
  unfold after readValue
  split
  · rename_i p heq
    rw [heq]
  · rename_i p heq
    rw [heq]

lemma pkt_matchTalkerReservation (j fv n : ℕ) (p : Reader a t v) :
    (matchTalkerReservation j fv n p).pkt = p.pkt := by
  unfold matchTalkerReservation
  dsimp only
  split_ifs <;> rfl

lemma pkt_matchTalkerFailure (i : Fin a) (j fv : ℕ) (failed : Bool) (p : Reader a t v) :
    (matchTalkerFailure i j fv failed p).pkt =
      if failed = false ∧ (p.srp.table j).reservationFailed = true then p.pkt.store (fv + 33) [0]
      else p.pkt := by
  unfold matchTalkerFailure
  cases failed with
  | true => rfl
  | false => cases h : (p.srp.table j).reservationFailed <;> simp [h]

lemma pkt_matchTalkerAdvertise :
    (failed = false ∧ c.FailedBefore → (matchTalkerAdvertise c.attr c.firstValue c.index c.leaveAll
        failed c.reader).2.pkt = c.reader.pkt.store (c.firstValue + 33) [0]) ∧
      (¬ (failed = false ∧ c.FailedBefore) → (matchTalkerAdvertise c.attr c.firstValue c.index
        c.leaveAll failed c.reader).2.pkt = c.reader.pkt) := by
  unfold matchTalkerAdvertise FailedBefore
  cases (c.reader.srp.attrs c.attr).attributeInfo with
  | stream j =>
    dsimp only
    by_cases hnames : c.Names (c.reader.srp.table j)
    · obtain ⟨hid, hleave, hclass⟩ := hnames
      rw [if_neg (not_not.mpr hid), hleave, if_neg Bool.false_ne_true, if_neg (not_not.mpr hclass)]
      dsimp only
      rw [pkt_matchTalkerReservation, pkt_matchTalkerFailure]
      constructor
      · rintro ⟨hfailed, -, hentry⟩
        rw [if_pos ⟨hfailed, hentry⟩]
      · intro h
        rw [if_neg fun hif => h ⟨hif.1, ⟨hid, hleave, hclass⟩, hif.2⟩]
    · refine ⟨fun h => absurd h.2.1 hnames, fun _ => ?_⟩
      split_ifs with hid hleave hclass
      · rfl
      · rfl
      · rfl
      · exact absurd ⟨not_not.mp hid, Bool.eq_false_iff.mpr hleave, not_not.mp hclass⟩ hnames
  | _ => exact ⟨fun h => h.2.elim, fun _ => rfl⟩

lemma pkt_after_of_resets {c : MatchCall a t v} (h : c.ResetsFailureCode) :
    c.after.pkt = c.reader.pkt.store (c.firstValue + 33) [0] := by
  obtain ⟨⟨hbegun, hsame⟩, htype, hfailed⟩ := h
  rw [pkt_after_eq]
  unfold matchAttributeOfSameType
  dsimp only
  rw [if_neg (not_not.mpr hbegun), if_neg (not_not.mpr hsame), htype]
  exact (c.pkt_matchTalkerAdvertise false).1 ⟨rfl, hfailed⟩

lemma pkt_after_of_not_resets {c : MatchCall a t v} (h : ¬ c.ResetsFailureCode) :
    c.after.pkt = c.reader.pkt := by
  rw [pkt_after_eq]
  unfold matchAttributeOfSameType
  dsimp only
  refine iteInduction (motive := fun r : Bool × Reader a t v => r.2.pkt = c.reader.pkt)
    (fun _ => rfl) fun hbegun => ?_
  refine iteInduction (motive := fun r : Bool × Reader a t v => r.2.pkt = c.reader.pkt)
    (fun _ => rfl) fun hsame => ?_
  have hcalled : c.SameType := ⟨not_not.mp hbegun, not_not.mp hsame⟩
  cases htype : c.type with
  | talkerAdvertise =>
    exact (c.pkt_matchTalkerAdvertise false).2 fun hf => h ⟨hcalled, htype, hf.2⟩
  | talkerFailed =>
    exact (c.pkt_matchTalkerAdvertise true).2 fun hf => Bool.noConfusion hf.1
  | domainVector =>
    dsimp only
    unfold matchDomain
    split_ifs <;> rfl
  | _ => rfl

lemma after_apply (k : ℕ) : c.after.pkt k = c.reader.pkt k ∨ c.after.pkt k = 0 := by
  by_cases h : c.ResetsFailureCode
  · rw [pkt_after_of_resets h]
    by_cases hk : k = c.firstValue + 33
    · subst hk
      exact Or.inr (Mem.store_singleton_same _ _ _)
    · exact Or.inl (Mem.store_singleton_of_ne _ _ hk)
  · rw [pkt_after_of_not_resets h]
    exact Or.inl rfl

lemma after_apply_of_fits {c : MatchCall a t v} {len : ℕ} {version : UInt8}
    (h : c.Fits len version) (k : ℕ) : c.after.pkt k = c.reader.pkt k := by
  by_cases hreset : c.ResetsFailureCode
  · obtain ⟨-, hzero⟩ := h.2 hreset
    rw [pkt_after_of_resets hreset]
    by_cases hk : k = c.firstValue + 33
    · rw [hk, hzero, Mem.store_singleton_same]
    · exact Mem.store_singleton_of_ne _ _ hk
  · rw [pkt_after_of_not_resets hreset]

end MatchCall

/-! ## The whole packet -/

def Zeroes (p q : Reader a t v) : Prop := ∀ k, q.pkt k = p.pkt k ∨ q.pkt k = 0

variable (p : Reader a t v) (type : MrpAttributeType)

lemma zeroes_refl : Zeroes p p := fun _ => Or.inl rfl

lemma Zeroes.trans {p q r : Reader a t v} (h : Zeroes p q) (h' : Zeroes q r) : Zeroes p r := by
  intro k
  rcases h' k with heq | heq
  · rw [heq]
    exact h k
  · exact Or.inr heq

lemma zeroes_readValue (fv n three four : ℕ) (leaveAll : Bool) (p : Reader a t v) (i : Fin a) :
    Zeroes p (readValue type fv n three four leaveAll p i) :=
  MatchCall.after_apply ⟨p, i, type, fv, n, three, four, leaveAll⟩

lemma recorded_readVisit (fv n three four : ℕ) (leaveAll : Bool) :
    Run.Recorded (readValue type fv n three four leaveAll) p
      (Run.record (readValue type fv n three four leaveAll) p (List.finRange a))
      (readVisit p (.value (some type) fv n three four leaveAll)) :=
  Run.recorded_record _ p (List.finRange a)

lemma zeroes_readVisit (found : MrpVisit) : Zeroes p (readVisit p found) := by
  match found with
  | .leaveAll none => exact zeroes_refl p
  | .leaveAll (some _) => exact zeroes_refl p
  | .value none _ _ _ _ _ => exact zeroes_refl p
  | .value (some type) fv n three four leaveAll =>
    exact (recorded_readVisit p type fv n three four leaveAll).rel zeroes_refl Zeroes.trans
      fun r _ => zeroes_readValue type fv n three four leaveAll r.1 r.2

lemma zeroes_matchCalls {p : Reader a t v} {found : MrpVisit} {c : MatchCall a t v}
    (hc : c ∈ matchCalls (p, found)) : Zeroes p c.reader ∧ Zeroes c.after (readVisit p found) := by
  match found with
  | .leaveAll _ => cases hc
  | .value none _ _ _ _ _ => cases hc
  | .value (some type) fv n three four leaveAll =>
    obtain ⟨r, hr, rfl⟩ := List.mem_map.mp hc
    exact (recorded_readVisit p type fv n three four leaveAll).between zeroes_refl Zeroes.trans
      (zeroes_readValue type fv n three four leaveAll) hr

variable {etype : MrpEthertype} {pkt : Mem} {len : ℕ} {s : SrpState a t v}

lemma recorded_packetTrace (etype : MrpEthertype) (pkt : Mem) (len : ℕ) (s : SrpState a t v) :
    Run.Recorded readVisit ⟨s, pkt⟩ (visits (packetTrace etype pkt len s))
      (mrpWalk Reader.pkt readVisit etype len ⟨s, pkt⟩) :=
  recorded_mrpTrace etype len _

lemma sound_packetTrace (etype : MrpEthertype) (pkt : Mem) (len : ℕ) (s : SrpState a t v) :
    ∀ x ∈ packetTrace etype pkt len s, x.Sound len (pkt 0).toNat :=
  sound_mrpTrace etype len _

variable {c : MatchCall a t v}

lemma zeroes_packetCalls (hc : c ∈ packetCalls etype pkt len s) : Zeroes ⟨s, pkt⟩ c.reader ∧
      Zeroes c.after (mrpWalk Reader.pkt readVisit etype len ⟨s, pkt⟩) := by
  obtain ⟨r, hr, hcr⟩ := List.mem_flatMap.mp hc
  obtain ⟨hbefore, hafter⟩ := (recorded_packetTrace etype pkt len s).between zeroes_refl
    Zeroes.trans zeroes_readVisit hr
  obtain ⟨hfirst, hlast⟩ := zeroes_matchCalls hcr
  exact ⟨hbefore.trans hfirst, hlast.trans hafter⟩

lemma mem_heads {σ : Type} {steps : List (WalkStep σ)} {msg : ℕ} :
    msg ∈ heads steps ↔ .head msg ∈ steps := by
  unfold heads
  rw [List.mem_filterMap]
  constructor
  · rintro ⟨x, hx, hmsg⟩
    cases x with
    | head m =>
      cases hmsg
      exact hx
    | _ => cases hmsg
  · exact fun h => ⟨_, h, rfl⟩

lemma mem_visits {σ : Type} {steps : List (WalkStep σ)} {p : σ} {found : MrpVisit} :
    (p, found) ∈ visits steps ↔ .visit p found ∈ steps := by
  unfold visits
  rw [List.mem_filterMap]
  constructor
  · rintro ⟨x, hx, hvisit⟩
    cases x with
    | visit q v =>
      cases hvisit
      exact hx
    | _ => cases hvisit
  · exact fun h => ⟨_, h, rfl⟩

lemma firstValue_le (hc : c ∈ packetCalls etype pkt len s) :
    c.firstValue ≤ len ∧ (pkt 0 = 0 → c.firstValue + firstValueLength c.type ≤ len) := by
  obtain ⟨⟨p, found⟩, hr, hcr⟩ := List.mem_flatMap.mp hc
  have hsound := sound_packetTrace etype pkt len s _ (mem_visits.mp hr)
  match found with
  | .leaveAll _ => cases hcr
  | .value none _ _ _ _ _ => cases hcr
  | .value (some type) fv n three four leaveAll =>
    obtain ⟨q, -, rfl⟩ := List.mem_map.mp hcr
    refine ⟨hsound.1, fun h0 => hsound.2 ?_⟩
    show (pkt 0).toNat = 0
    rw [h0]
    rfl

lemma inside_of_fits (hc : c ∈ packetCalls etype pkt len s) (h : c.Fits len (pkt 0)) :
    ∀ x ∈ c.accesses, x.Inside len := by
  obtain ⟨hlen, hversion⟩ := firstValue_le hc
  rw [c.inside_accesses hlen]
  refine ⟨?_, fun hreset => (h.2 hreset).1⟩
  rcases h.1 with h0 | hextent
  · exact le_trans (Nat.add_le_add_left c.extent_le _) (hversion h0)
  · exact hextent

lemma pkt_readVisit_of_fits (h : ∀ c ∈ packetCalls etype pkt len s, c.Fits len (pkt 0)) :
    ∀ r ∈ visits (packetTrace etype pkt len s), (readVisit r.1 r.2).pkt = r.1.pkt := by
  rintro ⟨p, found⟩ hr
  match found with
  | .leaveAll none => rfl
  | .leaveAll (some _) => rfl
  | .value none _ _ _ _ _ => rfl
  | .value (some type) fv n three four leaveAll =>
    refine mem_of_recorded (recorded_readVisit p type fv n three four leaveAll) ?_
    intro q hq
    have hc : (⟨q.1, q.2, type, fv, n, three, four, leaveAll⟩ : MatchCall a t v) ∈
        packetCalls etype pkt len s :=
      List.mem_flatMap.mpr ⟨_, hr, List.mem_map.mpr ⟨q, hq, rfl⟩⟩
    exact funext (MatchCall.after_apply_of_fits (h _ hc))

lemma packetAfter_of_fits (h : ∀ c ∈ packetCalls etype pkt len s, c.Fits len (pkt 0)) :
    packetAfter etype pkt len s = pkt :=
  mem_of_recorded (recorded_packetTrace etype pkt len s) (pkt_readVisit_of_fits h)

lemma packetHeads_of_fits (h : ∀ c ∈ packetCalls etype pkt len s, c.Fits len (pkt 0)) :
    heads (packetTrace etype pkt len s) = packetHeads etype pkt len := by
  unfold packetTrace packetHeads
  exact heads_mrpTrace etype len _ (pkt_readVisit_of_fits h)

lemma fits_of_unchanged (hc : c ∈ packetCalls etype pkt len s)
    (hinside : ∀ x ∈ c.accesses, x.Inside len)
    (hsame : ∀ k < len, packetAfter etype pkt len s k = pkt k) : c.Fits len (pkt 0) := by
  obtain ⟨hlen, -⟩ := firstValue_le hc
  obtain ⟨hextent, hcode⟩ := (c.inside_accesses hlen).mp hinside
  refine ⟨Or.inr hextent, fun hreset => ⟨hcode hreset, ?_⟩⟩
  -- the byte is 0 after the call, so at the end, so in the packet that came in
  obtain ⟨hbefore, hafter⟩ := zeroes_packetCalls hc
  have hzero : c.after.pkt (c.firstValue + 33) = 0 := by
    rw [MatchCall.pkt_after_of_resets hreset, Mem.store_singleton_same]
  have hend : packetAfter etype pkt len s (c.firstValue + 33) = 0 := by
    rcases hafter (c.firstValue + 33) with heq | heq
    · exact heq.trans hzero
    · exact heq
  have hstart : pkt (c.firstValue + 33) = 0 := (hsame _ (hcode hreset)).symm.trans hend
  rcases hbefore (c.firstValue + 33) with heq | heq
  · exact heq.trans hstart
  · exact heq

/-- **The parser stays inside the packet and does not modify it** exactly when the packet has
a version byte, two bytes are left wherever a loop looks for the end of its list, and every
value fits each attribute it is compared to. -/
theorem parser_stays_inside_iff (etype : MrpEthertype) (pkt : Mem) (len : ℕ) (s : SrpState a t v) :
    ((∀ x ∈ packetAccesses etype pkt len s, x.Inside len) ∧
        ∀ k < len, packetAfter etype pkt len s k = pkt k) ↔
      0 < len ∧ (∀ msg ∈ packetHeads etype pkt len, msg + 1 < len) ∧
        ∀ c ∈ packetCalls etype pkt len s, c.Fits len (pkt 0) := by
  unfold packetAccesses
  rw [List.forall_mem_flatMap]
  constructor
  · rintro ⟨hinside, hsame⟩
    have hfits : ∀ c ∈ packetCalls etype pkt len s, c.Fits len (pkt 0) := by
      intro c hc
      obtain ⟨⟨p, found⟩, hr, hcr⟩ := List.mem_flatMap.mp hc
      refine fits_of_unchanged hc (fun x hx => ?_) hsame
      exact hinside _ (mem_visits.mp hr) x (List.mem_flatMap.mpr ⟨c, hcr, hx⟩)
    refine ⟨?_, fun msg hmsg => ?_, hfits⟩
    · exact hinside .version List.mem_cons_self (.read 0 1) (List.mem_singleton.mpr rfl)
    · rw [← packetHeads_of_fits hfits, mem_heads] at hmsg
      have hhead : msg + 2 ≤ len := hinside _ hmsg (.read msg 2) (List.mem_singleton.mpr rfl)
      omega
  · rintro ⟨hlen, hheads, hfits⟩
    refine ⟨fun step hstep => ?_, fun k _ => congrFun (packetAfter_of_fits hfits) k⟩
    have hsound := sound_packetTrace etype pkt len s _ hstep
    cases step with
    | version => exact List.forall_mem_singleton.mpr hlen
    | head msg =>
      have hhead := hheads msg (packetHeads_of_fits hfits ▸ mem_heads.mpr hstep)
      exact List.forall_mem_singleton.mpr (show msg + 2 ≤ len by omega)
    | length type => exact List.forall_mem_singleton.mpr hsound
    | listLength hdr =>
      have hlist : hdr + 4 ≤ len := hsound
      exact List.forall_mem_singleton.mpr (show hdr + 2 + 2 ≤ len by omega)
    | packed k => exact List.forall_mem_singleton.mpr hsound
    | visit p found =>
      intro x hx
      obtain ⟨c, hc, hxc⟩ := List.mem_flatMap.mp hx
      have hcall : c ∈ packetCalls etype pkt len s :=
        List.mem_flatMap.mpr ⟨(p, found), mem_visits.mpr hstep, hc⟩
      exact inside_of_fits hcall (hfits c hcall) x hxc

end SrpState

def recoveredTalkerPacket : List UInt8 :=
  [0]
    ++ [2, 34, 0, 39, 0, 1] ++ [0, 0, 0, 1, 0, 0, 0, 2] ++ List.replicate 6 0 ++ [0, 2]
    ++ List.replicate 4 0 ++ [0x60] ++ List.replicate 12 0 ++ [7, 36, 0, 0]
    ++ [1, 25, 0, 30, 0, 1] ++ [0, 0, 0, 1, 0, 0, 0, 2] ++ List.replicate 6 0 ++ [0, 2]
    ++ List.replicate 4 0 ++ [0x60] ++ List.replicate 4 0 ++ [36, 0, 0]
    ++ [4, 4, 0, 9, 0, 1, 6, 3, 0, 2, 36, 0, 0] ++ [0, 0]

def askingListener : SrpState (1 + 1 + 3) 2 1 :=
  srpStep (srpInit 3 2 1 (Vector.replicate 6 0) 0) (.registerAttach (1, 2) 0)

/-- A packet of two zero bytes has its byte 2 read; and the number of the values of the domain
is reset to 0. -/
theorem parser_leaves_and_modifies_packet :
    (¬ ∀ x ∈ (SrpState.packetAccesses .srp (fun _ => 0) 2 askingListener), x.Inside 2) ∧
      ∃ k < recoveredTalkerPacket.length,
        SrpState.packetAfter .srp (fun k => recoveredTalkerPacket.getD k 0)
          recoveredTalkerPacket.length askingListener k ≠ recoveredTalkerPacket.getD k 0 := by
  refine ⟨by decide +kernel, 83, by decide +kernel, by decide +kernel⟩
