/-
# Runs of a step function

A system is given by a step function `step : σ → ε → σ` on states and events.
`runFrom` is the state a list of events leads to; `Guarded` says that every
event of a run meets a condition in the state it is taken in.
-/
import Mathlib.Tactic

namespace Run

variable {σ ε : Type*}
variable (step : σ → ε → σ) (s : σ)

def runFrom (es : List ε) : σ := es.foldl step s

@[simp] lemma runFrom_nil : runFrom step s [] = s := rfl

@[simp] lemma runFrom_cons (e : ε) (es : List ε) :
    runFrom step s (e :: es) = runFrom step (step s e) es := rfl

lemma runFrom_append (es fs : List ε) :
    runFrom step s (es ++ fs) = runFrom step (runFrom step s es) fs :=
  List.foldl_append

def Guarded (step : σ → ε → σ) (ok : σ → ε → Prop) : σ → List ε → Prop
  | _, [] => True
  | s, e :: es => ok s e ∧ Guarded step ok (step s e) es

instance decidableGuarded (step : σ → ε → σ) (ok : σ → ε → Prop) [∀ s e, Decidable (ok s e)] :
    ∀ s es, Decidable (Guarded step ok s es)
  | _, [] => isTrue trivial
  | s, e :: es =>
    have := decidableGuarded step ok (step s e) es
    inferInstanceAs (Decidable (ok s e ∧ Guarded step ok (step s e) es))

lemma guarded_append (ok : σ → ε → Prop) (s : σ) (es fs : List ε) : Guarded step ok s (es ++ fs)
      ↔ Guarded step ok s es ∧ Guarded step ok (runFrom step s es) fs := by
  induction es generalizing s with
  | nil => simp [Guarded]
  | cons e es ih =>
    simp only [List.cons_append, Guarded, runFrom_cons, ih, and_assoc]

variable {step : σ → ε → σ} {ok : σ → ε → Prop} {Inv : σ → Prop}

lemma guarded_of_forall {s : σ} {es : List ε} (h : ∀ e ∈ es, ∀ s, ok s e) :
    Guarded step ok s es := by
  induction es generalizing s with
  | nil => trivial
  | cons e es ih =>
    exact ⟨h e List.mem_cons_self s, ih fun e' he' => h e' (List.mem_cons_of_mem _ he')⟩

lemma guarded_mono {ok ok' : σ → ε → Prop} (h : ∀ s e, ok s e → ok' s e) {s : σ} {es : List ε}
    (hes : Guarded step ok s es) : Guarded step ok' s es := by
  induction es generalizing s with
  | nil => trivial
  | cons e es ih => exact ⟨h s e hes.1, ih hes.2⟩

lemma guarded_and {ok ok' : σ → ε → Prop} {s : σ} {es : List ε} (h : Guarded step ok s es)
    (h' : Guarded step ok' s es) : Guarded step (fun s e => ok s e ∧ ok' s e) s es := by
  induction es generalizing s with
  | nil => trivial
  | cons e es ih => exact ⟨⟨h.1, h'.1⟩, ih h.2 h'.2⟩

lemma guarded_and_forall {P : ε → Prop} {s : σ} {es : List ε} (h : Guarded step ok s es)
    (hP : ∀ e ∈ es, P e) : Guarded step (fun s e => ok s e ∧ P e) s es :=
  guarded_and h (guarded_of_forall fun e he _ => hP e he)

/-- **Invariant rule.**  What one guarded step preserves holds at the end of
every guarded run. -/
theorem invariant_of_guarded (hstep : ∀ s e, Inv s → ok s e → Inv (step s e)) {s : σ} (hs : Inv s) :
    ∀ es, Guarded step ok s es → Inv (runFrom step s es) := by
  intro es
  induction es generalizing s with
  | nil => intro _; exact hs
  | cons e es ih =>
    intro hg
    obtain ⟨he, hrest⟩ := hg
    exact ih (hstep s e hs he) hrest

/-- **Invariant rule, unguarded.**  What every step preserves holds at the end
of every run. -/
theorem invariant_of_step (hstep : ∀ s e, Inv s → Inv (step s e)) {s : σ} (hs : Inv s)
    (es : List ε) : Inv (runFrom step s es) := by
  induction es generalizing s with
  | nil => exact hs
  | cons e es ih => exact ih (hstep s e hs)

section

variable {step : σ → ε → σ}

def total (step : σ → ε → σ) (cost : σ → ε → ℕ) : σ → List ε → ℕ
  | _, [] => 0
  | s, e :: es => cost s e + total step cost (step s e) es

lemma total_append (cost : σ → ε → ℕ) (s : σ) (es fs : List ε) : total step cost s (es ++ fs) =
      total step cost s es + total step cost (runFrom step s es) fs := by
  induction es generalizing s with
  | nil => rw [List.nil_append, total, Nat.zero_add, runFrom_nil]
  | cons e es ih => rw [List.cons_append, total, total, ih, runFrom_cons, Nat.add_assoc]

/-- **Rank rule.**  If every guarded step pays for its cost with a rank, a guarded run costs
no more than the rank it starts with. -/
theorem total_le_rank {cost : σ → ε → ℕ} {ok : σ → ε → Prop} {Inv : σ → Prop} (rank : σ → ℕ)
    (hstep : ∀ s e, Inv s → ok s e → Inv (step s e) ∧ cost s e + rank (step s e) ≤ rank s)
    {s : σ} (hs : Inv s) : ∀ es, Guarded step ok s es → total step cost s es ≤ rank s := by
  intro es
  induction es generalizing s with
  | nil => intro _; exact Nat.zero_le _
  | cons e es ih =>
    intro hg
    obtain ⟨he, hrest⟩ := hg
    obtain ⟨hinv, hrank⟩ := hstep s e hs he
    exact (Nat.add_le_add_left (ih hinv hrest) _).trans hrank

end

/-! ## Outputs along a run -/

section

variable {step : σ → ε → σ} {α : Type*}

def outputs (step : σ → ε → σ) (out : σ → ε → List α) : σ → List ε → List α
  | _, [] => []
  | s, e :: es => out s e ++ outputs step out (step s e) es

variable {out : σ → ε → List α} {ok : σ → ε → Prop} {Inv : σ → Prop} {P : α → Prop}

/-- **Two-run rule.**  Related states have the same outputs along every run, if they have the same
outputs at every event and stay related. -/
theorem outputs_eq_of_rel {R : σ → σ → Prop} (hstep : ∀ s s' e, R s s' → R (step s e) (step s' e))
    (hout : ∀ s s' e, R s s' → out s e = out s' e) {s s' : σ} (h : R s s') (es : List ε) :
    outputs step out s es = outputs step out s' es := by
  induction es generalizing s s' with
  | nil => rfl
  | cons e es ih => rw [outputs, outputs, hout s s' e h, ih (hstep s s' e h)]

/-- **Output rule.**  If in every state that satisfies an invariant the outputs of an event meet
`P` exactly under a condition, and events that meet the condition keep the invariant, then the
outputs of a run meet `P` exactly if every event of the run meets the condition. -/
theorem forall_outputs_iff_of_guarded {D : ε → Prop} {Inv : σ → Prop} {P : α → Prop}
    (hstep : ∀ s e, Inv s → D e → ok s e → Inv (step s e))
    (hout : ∀ s e, Inv s → D e → ((∀ a ∈ out s e, P a) ↔ ok s e)) {s : σ} (hs : Inv s)
    {es : List ε} (hes : ∀ e ∈ es, D e) :
    (∀ a ∈ outputs step out s es, P a) ↔ Guarded step ok s es := by
  induction es generalizing s with
  | nil =>
    constructor
    · intro _
      trivial
    · intro _ a ha
      cases ha
  | cons e es ih =>
    obtain ⟨he, hes⟩ := List.forall_mem_cons.mp hes
    rw [outputs, List.forall_mem_append, hout s e hs he]
    exact and_congr_right fun hok => ih (hstep s e hs he hok) hes

lemma forall_outputs_iff (hstep : ∀ s e, Inv s → Inv (step s e))
    (hout : ∀ s e, Inv s → ((∀ a ∈ out s e, P a) ↔ ok s e)) {s : σ} (hs : Inv s) (es : List ε) :
    (∀ a ∈ outputs step out s es, P a) ↔ Guarded step ok s es :=
  forall_outputs_iff_of_guarded (D := fun _ => True) (fun s e hinv _ _ => hstep s e hinv)
    (fun s e hinv _ => hout s e hinv) hs fun _ _ => trivial

/-- An output of a run is one of an event in it, in the state that the events before it lead to. -/
lemma mem_outputs_iff {a : α} {s : σ} {es : List ε} : a ∈ outputs step out s es ↔
    ∃ before e after, es = before ++ e :: after ∧ a ∈ out (runFrom step s before) e := by
  induction es generalizing s with
  | nil => simp [outputs]
  | cons e es ih =>
    rw [outputs, List.mem_append, ih]
    constructor
    · rintro (ha | ⟨before, e', after, rfl, ha⟩)
      · exact ⟨[], e, es, rfl, ha⟩
      · exact ⟨e :: before, e', after, rfl, ha⟩
    · rintro ⟨_ | ⟨e', before⟩, e'', after, heq, ha⟩
      · cases heq
        exact Or.inl ha
      · cases heq
        exact Or.inr ⟨before, e'', after, rfl, ha⟩

/-- **Remainder rule.**  If every step says the first part of what is left to be said, what a run
says and what it leaves are together what there was to say. -/
theorem outputs_append_rest (rest : σ → List α)
    (hstep : ∀ s e, Inv s → Inv (step s e) ∧ rest s = out s e ++ rest (step s e)) {s : σ}
    (hs : Inv s) (es : List ε) : outputs step out s es ++ rest (runFrom step s es) = rest s := by
  induction es generalizing s with
  | nil => rfl
  | cons e es ih =>
    obtain ⟨hinv, hrest⟩ := hstep s e hs
    rw [outputs, runFrom_cons, List.append_assoc, ih hinv, hrest]

/-- **Output rule, guarded.**  If guarded steps keep an invariant and put out only what meets
`P`, so do guarded runs. -/
theorem forall_outputs_of_guarded (hstep : ∀ s e, Inv s → ok s e → Inv (step s e))
    (hout : ∀ s e, Inv s → ok s e → ∀ a ∈ out s e, P a) {s : σ} (hs : Inv s) :
    ∀ es, Guarded step ok s es → ∀ a ∈ outputs step out s es, P a := by
  intro es
  induction es generalizing s with
  | nil =>
    intro _ a ha
    cases ha
  | cons e es ih =>
    intro hg
    obtain ⟨he, hrest⟩ := hg
    rw [outputs, List.forall_mem_append]
    exact ⟨hout s e hs he, ih (hstep s e hs he) hrest⟩

end

/-! ## Recorded runs -/

section

variable {step : σ → ε → σ} {R : σ → σ → Prop} {s s' s'' : σ} {rs qs : List (σ × ε)}

def Recorded (step : σ → ε → σ) : σ → List (σ × ε) → σ → Prop
  | s, [], s' => s = s'
  | s, (r, e) :: rs, s' => r = s ∧ Recorded step (step s e) rs s'

def record (step : σ → ε → σ) : σ → List ε → List (σ × ε)
  | _, [] => []
  | s, e :: es => (s, e) :: record step (step s e) es

lemma recorded_record (step : σ → ε → σ) (s : σ) (es : List ε) :
    Recorded step s (record step s es) (runFrom step s es) := by
  induction es generalizing s with
  | nil => rfl
  | cons e es ih => exact ⟨rfl, ih (step s e)⟩

lemma Recorded.append (h : Recorded step s rs s') (h' : Recorded step s' qs s'') :
    Recorded step s (rs ++ qs) s'' := by
  induction rs generalizing s with
  | nil =>
    cases h
    exact h'
  | cons r rs ih => exact ⟨h.1, ih h.2⟩

lemma Recorded.rel (hrefl : ∀ s, R s s) (htrans : ∀ {a b c}, R a b → R b c → R a c)
    (h : Recorded step s rs s') (hrs : ∀ r ∈ rs, R r.1 (step r.1 r.2)) : R s s' := by
  induction rs generalizing s with
  | nil =>
    cases h
    exact hrefl _
  | cons r rs ih =>
    obtain ⟨rfl, hrest⟩ := h
    exact htrans (hrs r List.mem_cons_self)
      (ih hrest fun q hq => hrs q (List.mem_cons_of_mem _ hq))

lemma Recorded.between (hrefl : ∀ s, R s s) (htrans : ∀ {a b c}, R a b → R b c → R a c)
    (hstep : ∀ s e, R s (step s e)) (h : Recorded step s rs s') {r : σ × ε} (hr : r ∈ rs) :
    R s r.1 ∧ R (step r.1 r.2) s' := by
  induction rs generalizing s with
  | nil => cases hr
  | cons q rs ih =>
    obtain ⟨rfl, hrest⟩ := h
    rcases List.mem_cons.mp hr with rfl | hr
    · exact ⟨hrefl _, hrest.rel hrefl htrans fun q _ => hstep q.1 q.2⟩
    · obtain ⟨hfirst, hlast⟩ := ih hrest hr
      exact ⟨htrans (hstep _ _) hfirst, hlast⟩

end

/-! ## Infinite runs -/

section

variable {step : σ → ε → σ}

def stateAt (step : σ → ε → σ) (s : σ) (es : ℕ → ε) : ℕ → σ
  | 0 => s
  | n + 1 => step (stateAt step s es n) (es n)

lemma runFrom_range (s : σ) (es : ℕ → ε) (n : ℕ) :
    runFrom step s ((List.range n).map es) = stateAt step s es n := by
  induction n with
  | zero => rfl
  | succ n ih =>
    rw [List.range_succ, List.map_append, runFrom_append, ih]
    rfl

lemma stateAt_invariant {s : σ} {es : ℕ → ε} {Inv : σ → Prop} (hs : Inv s)
    (hstep : ∀ n, Inv (stateAt step s es n) → Inv (stateAt step s es (n + 1))) (n : ℕ) :
    Inv (stateAt step s es n) := by
  induction n with
  | zero => exact hs
  | succ n ih => exact hstep n ih

lemma exists_stateAt_of_rank {es : ℕ → ε} {Inv Goal : σ → Prop} (rank : σ → ℕ)
    (hstep : ∀ s e, Inv s → ¬ Goal s → Inv (step s e) ∧ rank (step s e) < rank s) {s : σ}
    (hs : Inv s) : ∃ n, Goal (stateAt step s es n) := by
  by_contra hnever
  push Not at hnever
  have hrun : ∀ n, Inv (stateAt step s es n) ∧ rank (stateAt step s es n) + n ≤ rank s := by
    intro n
    induction n with
    | zero => exact ⟨hs, le_refl _⟩
    | succ n ih =>
      obtain ⟨hinv, hlt⟩ := hstep _ (es n) ih.1 (hnever n)
      exact ⟨hinv, by rw [stateAt]; omega⟩
  have hlast := (hrun (rank s + 1)).2
  omega

lemma exists_le_of_climbs {f : ℕ → ℕ} {n₀ : ℕ} (hmono : ∀ m, n₀ ≤ m → f m ≤ f (m + 1))
    (hclimb : ∀ n, ∃ m, n ≤ m ∧ f m < f (m + 1)) (b : ℕ) : ∃ m, n₀ ≤ m ∧ b ≤ f m := by
  induction b with
  | zero => exact ⟨n₀, le_refl n₀, Nat.zero_le _⟩
  | succ b ih =>
    obtain ⟨m, hm, hb⟩ := ih
    obtain ⟨k, hk, hrise⟩ := hclimb m
    have hle : f m ≤ f k := by
      refine Nat.le_induction (le_refl _) (fun j hj hle => ?_) k hk
      exact hle.trans (hmono j (hm.trans hj))
    exact ⟨k + 1, (hm.trans hk).trans (Nat.le_succ k), by omega⟩

end

section

variable {τ : Type*} {step : σ → ε → σ} {watched : τ → ε → τ} {f : τ → σ}

lemma runFrom_watched (hf : ∀ w e, f (watched w e) = step (f w) e) (w : τ) (es : List ε) :
    f (runFrom watched w es) = runFrom step (f w) es := by
  induction es generalizing w with
  | nil => rfl
  | cons e es ih =>
    rw [runFrom_cons, runFrom_cons, ← hf]
    exact ih (watched w e)

lemma guarded_watched {ok : σ → ε → Prop} (hf : ∀ w e, f (watched w e) = step (f w) e) {w : τ}
    {es : List ε} (hg : Guarded step ok (f w) es) :
    Guarded watched (fun w e => ok (f w) e) w es := by
  induction es generalizing w with
  | nil => trivial
  | cons e es ih =>
    refine ⟨hg.1, ih ?_⟩
    rw [hf]
    exact hg.2

end

end Run
