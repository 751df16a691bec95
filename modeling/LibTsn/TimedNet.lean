/-
# Two parties over a network with bounded delay

Two parties act when they are called, when they are polled and when a message of the other one
arrives, and send messages each time.  Time passes between the actions.  A message arrives within
a delay and a party is polled at least once in a period: time passes only as far as this allows
(`Allowed`).

Messages may overtake each other, and none is lost.
-/
import LibTsn.Run

open Function (update update_self update_of_ne)

namespace TimedNet

universe u v w x

structure Machine (σ : Type u) (ι : Type v) (ω : Type w) (μ : Type x) where
  call : ℕ → ι → σ → σ × List μ
  poll : ℕ → ω → σ → σ × List μ
  receive : ℕ → ω → μ → σ → σ × List μ

structure InFlight (μ : Type x) where
  sender : Bool
  sentAt : ℕ
  body : μ

structure Net (σ : Type u) (μ : Type x) where
  now : ℕ
  party : Bool → σ
  lastPoll : Bool → ℕ
  flight : List (InFlight μ)

inductive Event (ι : Type v) (ω : Type w) where
  | advance (d : ℕ)
  | call (p : Bool) (i : ι)
  | poll (p : Bool) (r : ω)
  | deliver (k : ℕ) (r : ω)

structure Bounds where
  delay : ℕ
  period : ℕ

variable {σ : Type u} {ι : Type v} {ω : Type w} {μ : Type x}

def Net.act (s : Net σ μ) (p : Bool) (r : σ × List μ) : Net σ μ :=
  { s with
    party := Function.update s.party p r.1
    flight := s.flight ++ r.2.map fun body => ⟨p, s.now, body⟩ }

def step (M : Bool → Machine σ ι ω μ) (s : Net σ μ) : Event ι ω → Net σ μ
  | .advance d => { s with now := s.now + d }
  | .call p i => s.act p ((M p).call s.now i (s.party p))
  | .poll p r =>
    { s.act p ((M p).poll s.now r (s.party p)) with
      lastPoll := Function.update s.lastPoll p s.now }
  | .deliver k r =>
    match s.flight[k]? with
    | none => s
    | some m =>
      Net.act { s with flight := s.flight.eraseIdx k } (!m.sender)
        ((M (!m.sender)).receive s.now r m.body (s.party (!m.sender)))

def Allowed (b : Bounds) (ok : ι → Prop) (s : Net σ μ) : Event ι ω → Prop
  | .advance d =>
    (∀ m ∈ s.flight, s.now + d ≤ m.sentAt + b.delay) ∧
      s.now + d ≤ s.lastPoll false + b.period ∧ s.now + d ≤ s.lastPoll true + b.period
  | .call _ i => ok i
  | .poll _ _ => True
  | .deliver _ _ => True

instance (b : Bounds) (ok : ι → Prop) [DecidablePred ok] (s : Net σ μ) :
    (e : Event ι ω) → Decidable (Allowed b ok s e)
  | .advance _ => inferInstanceAs (Decidable ((∀ m ∈ s.flight, _) ∧ _))
  | .call _ i => inferInstanceAs (Decidable (ok i))
  | .poll _ _ => inferInstanceAs (Decidable True)
  | .deliver _ _ => inferInstanceAs (Decidable True)

structure Timely (b : Bounds) (s : Net σ μ) : Prop where
  flight : ∀ m ∈ s.flight, s.now ≤ m.sentAt + b.delay
  polled : ∀ p, s.lastPoll p ≤ s.now ∧ s.now ≤ s.lastPoll p + b.period

lemma forall_party {P : Bool → Prop} (p : Bool) (hself : P p) (hother : P (!p)) : ∀ q, P q := by
  intro q
  by_cases hq : q = p
  · rwa [hq]
  · rwa [Bool.eq_not_of_ne hq]

section

variable (s : Net σ μ) (p : Bool) (r : σ × List μ)

@[simp] lemma party_act : (s.act p r).party p = r.1 := update_self ..

@[simp] lemma party_act_not : (s.act p r).party (!p) = s.party (!p) :=
  update_of_ne (by cases p <;> decide) ..

lemma mem_flight_act {m : InFlight μ} :
    m ∈ (s.act p r).flight ↔ m ∈ s.flight ∨ ∃ body ∈ r.2, m = ⟨p, s.now, body⟩ := by
  show m ∈ s.flight ++ _ ↔ _
  rw [List.mem_append, List.mem_map]
  exact or_congr_right (exists_congr fun body => and_congr_right fun _ => eq_comm)

lemma mem_flight_act_of_mem {m : InFlight μ} (h : m ∈ s.flight) : m ∈ (s.act p r).flight :=
  (mem_flight_act s p r).mpr (Or.inl h)

lemma mem_flight_act_of_sent {body : μ} (h : body ∈ r.2) :
    (⟨p, s.now, body⟩ : InFlight μ) ∈ (s.act p r).flight :=
  (mem_flight_act s p r).mpr (Or.inr ⟨body, h, rfl⟩)

end

lemma mem_eraseIdx_or {α : Type*} {l : List α} {k : ℕ} {a m : α} (hk : l[k]? = some a)
    (hm : m ∈ l) : m = a ∨ m ∈ l.eraseIdx k := by
  obtain ⟨j, hj⟩ := List.mem_iff_getElem?.mp hm
  by_cases hjk : j = k
  · left
    rw [hjk, hk] at hj
    exact (Option.some.inj hj).symm
  · exact Or.inr (List.mem_eraseIdx_iff_getElem?.mpr ⟨j, hjk, hj⟩)

section

variable {M : Bool → Machine σ ι ω μ} {b : Bounds} {ok : ι → Prop} {s : Net σ μ}

lemma Timely.act (h : Timely b s) (p : Bool) (r : σ × List μ) : Timely b (s.act p r) where
  flight := by
    intro m hm
    rcases (mem_flight_act s p r).mp hm with hm | ⟨body, -, rfl⟩
    · exact h.flight m hm
    · exact Nat.le_add_right _ _
  polled := h.polled

lemma Timely.step {e : Event ι ω} (h : Timely b s) (he : Allowed b ok s e) :
    Timely b (TimedNet.step M s e) := by
  cases e with
  | advance d =>
    obtain ⟨hflight, hfalse, htrue⟩ := he
    refine ⟨hflight, fun p => ⟨(h.polled p).1.trans (Nat.le_add_right _ _), ?_⟩⟩
    cases p with
    | false => exact hfalse
    | true => exact htrue
  | call p i => exact h.act p _
  | poll p r =>
    refine ⟨(h.act p _).flight, fun q => ?_⟩
    by_cases hq : q = p
    · subst hq
      show update s.lastPoll q s.now q ≤ s.now ∧
        s.now ≤ update s.lastPoll q s.now q + b.period
      rw [update_self]
      exact ⟨le_refl _, Nat.le_add_right _ _⟩
    · show update s.lastPoll p s.now q ≤ s.now ∧
        s.now ≤ update s.lastPoll p s.now q + b.period
      rw [update_of_ne hq]
      exact h.polled q
  | deliver k r =>
    unfold TimedNet.step
    dsimp only
    split
    · exact h
    · have herased : Timely b { s with flight := s.flight.eraseIdx k } :=
        ⟨fun m hm => h.flight m (List.mem_of_mem_eraseIdx hm), h.polled⟩
      exact herased.act _ _

end

end TimedNet
