/-
# Sorting the attribute list

`sort_attrs` works on the `next` pointers of the attributes.  Its first loop unlinks every attribute
that does not stand before its successor and puts it on a stack; its second loop links them back
in, one after the other.
-/
import LibTsn.SrpState

open Function (update update_of_ne update_self)

/-! ## The pointers -/

/-- The `next` pointers of the attributes, and `first_attr`. -/
structure AttrLinks (ι : Type*) where
  next : ι → Option ι
  first : Option ι

namespace AttrLinks

section

variable {ι : Type*} [DecidableEq ι] (before : ι → ι → Bool)

def setNext (l : AttrLinks ι) (i : ι) (j : Option ι) : AttrLinks ι :=
  { l with next := update l.next i j }

/-- Lets `prev`, or `first_attr` if there is none, point to `j`. -/
def redirect (l : AttrLinks ι) (prev j : Option ι) : AttrLinks ι :=
  match prev with
  | some p => l.setNext p j
  | none => { l with first := j }

/-- The first loop of `sort_attrs`, with at most `fuel` turns: the links and `to_insert`. -/
def unlinkLoop : (fuel : ℕ) → (prev attr toInsert : Option ι) → AttrLinks ι →
    Option (AttrLinks ι × Option ι)
  | _, _, none, toInsert, l => some (l, toInsert)
  | 0, _, some _, _, _ => none
  | fuel + 1, prev, some attr, toInsert, l =>
    match l.next attr with
    | none => unlinkLoop fuel prev none toInsert l
    | some next =>
      if before attr next then unlinkLoop fuel (some attr) (some next) toInsert l
      else unlinkLoop fuel prev (some next) (some attr)
        ((l.redirect prev (some next)).setNext attr toInsert)

def placeLoop (attr : ι) : (fuel : ℕ) → (ins : Option ι) → AttrLinks ι → Option (AttrLinks ι)
  | _, none, l => some l
  | 0, some _, _ => none
  | fuel + 1, some ins, l =>
    match l.next ins with
    | none => placeLoop attr fuel none ((l.setNext attr none).setNext ins (some attr))
    | some next =>
      if before ins attr && before attr next then
        placeLoop attr fuel none ((l.setNext attr (some next)).setNext ins (some attr))
      else placeLoop attr fuel (some next) l

/-- The second loop of `sort_attrs`.  It does not end well if there is no list to insert into. -/
def insertLoop (turns : ℕ) : (fuel : ℕ) → (attr : Option ι) → AttrLinks ι → Option (AttrLinks ι)
  | _, none, l => some l
  | 0, some _, _ => none
  | fuel + 1, some attr, l =>
    match l.first with
    | none => none
    | some ins =>
      if before attr ins then
        insertLoop turns fuel (l.next attr) { l.setNext attr (some ins) with first := some attr }
      else
        (placeLoop before attr turns (some ins) l).bind
          (insertLoop turns fuel (l.next attr))

/-- `sort_attrs`, every loop with at most `fuel` turns. -/
def sortAttrs (fuel : ℕ) (l : AttrLinks ι) : Option (AttrLinks ι) :=
  (unlinkLoop before fuel none l.first none l).bind fun r =>
    insertLoop before fuel fuel r.2 r.1

end

/-! ## Segments -/

section

variable {ι : Type*} {next : ι → Option ι}

def Linked (next : ι → Option ι) : (i : Option ι) → List ι → (j : Option ι) → Prop
  | i, [], j => i = j
  | i, x :: xs, j => i = some x ∧ Linked next (next x) xs j

lemma linked_append {j : Option ι} {ys : List ι} : ∀ {xs : List ι} {i : Option ι},
    Linked next i (xs ++ ys) j ↔ ∃ k, Linked next i xs k ∧ Linked next k ys j
  | [], i => ⟨fun h => ⟨i, rfl, h⟩, fun ⟨_, hk, h⟩ => hk ▸ h⟩
  | x :: xs, i => by
    show i = some x ∧ Linked next (next x) (xs ++ ys) j ↔ _
    have hrest : Linked next (next x) (xs ++ ys) j ↔ _ := linked_append
    rw [hrest]
    exact ⟨fun ⟨hi, k, h, h'⟩ => ⟨k, ⟨hi, h⟩, h'⟩, fun ⟨k, ⟨hi, h⟩, h'⟩ => ⟨hi, k, h, h'⟩⟩

lemma Linked.congr {next' : ι → Option ι} {j : Option ι} : ∀ {xs : List ι} {i : Option ι},
    Linked next i xs j → (∀ x ∈ xs, next' x = next x) → Linked next' i xs j
  | [], _, h, _ => h
  | x :: xs, _, h, hsame => by
    refine ⟨h.1, ?_⟩
    rw [hsame x List.mem_cons_self]
    exact h.2.congr fun y hy => hsame y (List.mem_cons_of_mem x hy)

variable [DecidableEq ι]

lemma Linked.update {i j k : Option ι} {x : ι} {xs : List ι} (h : Linked next i xs j)
    (hx : x ∉ xs) : Linked (update next x k) i xs j :=
  h.congr fun _ hy => update_of_ne (ne_of_mem_of_not_mem hy hx) _ _

lemma linked_redirect {l : AttrLinks ι} {xs : List ι} {j : Option ι} (k : Option ι)
    (h : Linked l.next l.first xs j) (hnodup : xs.Nodup) :
    Linked (l.redirect xs.getLast? k).next (l.redirect xs.getLast? k).first xs k := by
  rcases List.eq_nil_or_concat xs with rfl | ⟨xs, x, rfl⟩
  · rfl
  · rw [List.concat_eq_append] at h hnodup ⊢
    obtain ⟨i, hxs, hi, -⟩ := linked_append.mp h
    have hx : x ∉ xs := (List.nodup_append'.mp hnodup).2.2.symm (List.mem_singleton_self x)
    rw [List.getLast?_concat]
    exact linked_append.mpr ⟨i, hxs.update hx, hi, update_self _ _ _⟩

lemma redirect_next_of_notMem {l : AttrLinks ι} {xs : List ι} {y : ι} (k : Option ι)
    (hy : y ∉ xs) : (l.redirect xs.getLast? k).next y = l.next y := by
  unfold redirect
  split
  · next p hp =>
    exact update_of_ne (ne_of_mem_of_not_mem (List.mem_of_getLast? hp) hy).symm _ _
  · rfl

end

/-! ## The loops follow the lists -/

section

variable {ι : Type*} (before : ι → ι → Bool)

lemma takeOut_ne_nil : ∀ (rest : List ι) (x : ι), (takeOut before (x :: rest)).1 ≠ []
  | [], _ => List.cons_ne_nil _ _
  | y :: rest, x => by
    rw [takeOut]
    split_ifs
    · exact List.cons_ne_nil _ _
    · exact takeOut_ne_nil rest y

variable [DecidableEq ι]

lemma unlinkLoop_linked (fuel : ℕ) : ∀ (rest kept stack : List ι) {x : ι} {toInsert : Option ι}
    {l : AttrLinks ι}, Linked l.next l.first kept (some x) →
      Linked l.next (some x) (x :: rest) none → Linked l.next toInsert stack none →
      (kept ++ (x :: rest ++ stack)).Nodup →
      ∃ l' top, unlinkLoop before (fuel + rest.length + 1) kept.getLast? (some x) toInsert l
          = some (l', top) ∧
        Linked l'.next l'.first (kept ++ (takeOut before (x :: rest)).1) none ∧
        Linked l'.next top ((takeOut before (x :: rest)).2 ++ stack) none
  | [], kept, stack, x, toInsert, l, hkept, hrest, hstack, _ => by
    refine ⟨l, toInsert, ?_, linked_append.mpr ⟨_, hkept, hrest⟩, hstack⟩
    have hend : l.next x = none := hrest.2
    rw [unlinkLoop, hend]
    show unlinkLoop before (fuel + 0) _ none toInsert l = _
    rw [unlinkLoop]
  | y :: rest, kept, stack, x, toInsert, l, hkept, hrest, hstack, hnodup => by
    have hnext : l.next x = some y := hrest.2.1
    rw [unlinkLoop, hnext, takeOut]
    dsimp only
    split_ifs with hbefore
    · obtain ⟨l', top, hloop, hfirst, htop⟩ := unlinkLoop_linked fuel rest (kept ++ [x]) stack
        (linked_append.mpr ⟨_, hkept, rfl, hnext⟩) ⟨rfl, hrest.2.2⟩ hstack
        ((List.append_assoc kept [x] _).symm ▸ hnodup)
      rw [List.getLast?_concat] at hloop
      rw [List.append_assoc] at hfirst
      exact ⟨l', top, hloop, hfirst, htop⟩
    · have hmiddle := List.nodup_middle.mp hnodup
      have hx : x ∉ kept ++ (y :: rest ++ stack) := (List.nodup_cons.mp hmiddle).1
      obtain ⟨hnodupKept, -, hdisjoint⟩ := List.nodup_append'.mp (List.nodup_cons.mp hmiddle).2
      let l₂ := (l.redirect kept.getLast? (some y)).setNext x toInsert
      -- nothing but `x` and the end of the kept list is written
      have hframe : ∀ z ∈ y :: rest ++ stack, l₂.next z = l.next z := by
        intro z hz
        have hne : z ≠ x := ne_of_mem_of_not_mem (List.mem_append_right kept hz) hx
        refine (update_of_ne hne _ _).trans (redirect_next_of_notMem _ ?_)
        exact fun hkeptz => hdisjoint hkeptz hz
      have htop₂ : l₂.next x = toInsert := update_self _ _ _
      have hlist : Linked l.next (some y) (y :: rest) none := ⟨rfl, hrest.2.2⟩
      obtain ⟨l', top, hloop, hfirst, htop⟩ := unlinkLoop_linked fuel rest kept (x :: stack)
        (l := l₂) ((linked_redirect (some y) hkept hnodupKept).update
          fun hkeptx => hx (List.mem_append_left _ hkeptx))
        (hlist.congr fun z hz => hframe z (List.mem_append_left stack hz))
        ⟨rfl, htop₂.symm ▸ hstack.congr fun z hz => hframe z (List.mem_append_right _ hz)⟩
        (((List.perm_middle (a := x)).append_left kept).nodup_iff.mpr
          (List.nodup_middle.mpr hmiddle))
      exact ⟨l', top, hloop, hfirst, (List.append_assoc _ [x] stack).symm ▸ htop⟩

lemma linked_linkIn {x y : ι} {l : AttrLinks ι} {rest : List ι}
    (hlist : Linked l.next (some y) (y :: rest) none) (hnodup : (x :: y :: rest).Nodup) :
    Linked ((l.setNext x (l.next y)).setNext y (some x)).next (some y) (y :: x :: rest) none ∧
      ∀ z ∉ x :: y :: rest, ((l.setNext x (l.next y)).setNext y (some x)).next z = l.next z := by
  obtain ⟨hx, hy, -⟩ := List.nodup_cons.mp hnodup |>.imp_right List.nodup_cons.mp
  have hne : x ≠ y := fun heq => hx (heq ▸ List.mem_cons_self)
  refine ⟨⟨rfl, update_self _ _ _, ?_⟩, ?_⟩
  · have hnext : ((l.setNext x (l.next y)).setNext y (some x)).next x = l.next y :=
      (update_of_ne hne _ _).trans (update_self _ _ _)
    rw [hnext]
    exact (hlist.2.update fun hmem => hx (List.mem_cons_of_mem y hmem)).update hy
  · intro z hz
    have hzy : z ≠ y := List.ne_of_not_mem_cons (List.not_mem_of_not_mem_cons hz)
    exact (update_of_ne hzy _ _).trans
      (update_of_ne (List.ne_of_not_mem_cons hz) _ _)

lemma placeLoop_linked (fuel : ℕ) {x : ι} {l : AttrLinks ι} : ∀ (rest : List ι) {y : ι},
    Linked l.next (some y) (y :: rest) none → (x :: y :: rest).Nodup →
      ∃ l', placeLoop before x (fuel + rest.length + 1) (some y) l = some l' ∧
        l'.first = l.first ∧ Linked l'.next (some y) (insertAfter before x (y :: rest)) none ∧
        ∀ z ∉ x :: y :: rest, l'.next z = l.next z
  | [], y, hlist, hnodup => by
    have hend : l.next y = none := hlist.2
    obtain ⟨hlinked, hframe⟩ := linked_linkIn hlist hnodup
    rw [placeLoop, hend]
    rw [hend] at hlinked hframe
    refine ⟨(l.setNext x none).setNext y (some x), ?_, rfl, hlinked, hframe⟩
    show placeLoop before x (fuel + 0) none _ = _
    rw [placeLoop]
  | w :: rest, y, hlist, hnodup => by
    have hnext : l.next y = some w := hlist.2.1
    rw [placeLoop, hnext, insertAfter]
    dsimp only
    split_ifs with hhere
    · obtain ⟨hlinked, hframe⟩ := linked_linkIn hlist hnodup
      rw [hnext] at hlinked hframe
      rw [placeLoop]
      exact ⟨_, rfl, rfl, hlinked, hframe⟩
    · obtain ⟨hx, hrest⟩ := List.nodup_cons.mp hnodup
      obtain ⟨hy, hrest⟩ := List.nodup_cons.mp hrest
      have hne : y ≠ x := fun heq => hx (heq ▸ List.mem_cons_self)
      obtain ⟨l', hloop, hfirst, hlinked, hframe⟩ := placeLoop_linked fuel rest (y := w)
        ⟨rfl, hlist.2.2⟩ (List.nodup_cons.mpr ⟨fun hmem => hx (List.mem_cons_of_mem y hmem), hrest⟩)
      have hkept : l'.next y = some w :=
        (hframe y (List.not_mem_cons_of_ne_of_not_mem hne hy)).trans hnext
      refine ⟨l', hloop, hfirst, ⟨rfl, hkept.symm ▸ hlinked⟩, fun z hz => hframe z ?_⟩
      exact fun hmem => hz ((List.cons_subset_cons x (List.subset_cons_self y _)) hmem)

lemma insertLoop_linked (turns fuel : ℕ) : ∀ (stack ys : List ι) {attr : Option ι}
    {l : AttrLinks ι}, Linked l.next l.first ys none → Linked l.next attr stack none →
      (stack ++ ys).Nodup → ys ≠ [] → (stack ++ ys).length ≤ turns →
      ∃ l', insertLoop before turns (fuel + stack.length) attr l = some l' ∧
        Linked l'.next l'.first (stack.foldl (fun ys x => insertBack before x ys) ys) none
  | [], ys, attr, l, hlist, hstack, _, _, _ => by
    have hnone : attr = none := hstack
    rw [hnone, insertLoop]
    exact ⟨l, rfl, hlist⟩
  | x :: stack, [], _, _, _, _, _, hne, _ => absurd rfl hne
  | x :: stack, y :: ys, attr, l, hlist, hstack, hnodup, _, hturns => by
    obtain ⟨rfl, hrest⟩ := hstack
    obtain ⟨hx, hnodup⟩ := List.nodup_cons.mp hnodup
    obtain ⟨-, hnodupList, hdisjoint⟩ := List.nodup_append'.mp hnodup
    have hxlist : (x :: y :: ys).Nodup :=
      List.nodup_cons.mpr ⟨fun hmem => hx (List.mem_append_right stack hmem), hnodupList⟩
    have hfirst : l.first = some y := hlist.1
    -- one turn leaves the rest of the stack, and the list with the attribute in it
    have hturn : ∃ l₁, insertLoop before turns (fuel + (x :: stack).length) (some x) l
          = insertLoop before turns (fuel + stack.length) (l.next x) l₁ ∧
        Linked l₁.next l₁.first (insertBack before x (y :: ys)) none ∧
        ∀ z ∉ x :: y :: ys, l₁.next z = l.next z := by
      rw [List.length_cons, ← Nat.add_assoc, insertLoop, hfirst, insertBack]
      dsimp only
      split_ifs with hbefore
      · refine ⟨_, rfl, ⟨rfl, ?_⟩, fun z hz => ?_⟩
        · show Linked _ (update l.next x (some y) x) (y :: ys) none
          rw [update_self]
          exact (hfirst ▸ hlist).update (List.nodup_cons.mp hxlist).1
        · exact update_of_ne (List.ne_of_not_mem_cons hz) _ _
      · obtain ⟨spare, hspare⟩ : ∃ spare, turns = spare + ys.length + 1 :=
          ⟨turns - (ys.length + 1), by
            rw [List.length_append, List.length_cons, List.length_cons] at hturns
            omega⟩
        obtain ⟨l₁, hplace, hsame, hlinked, hframe⟩ :=
          placeLoop_linked before spare ys (hfirst ▸ hlist) hxlist
        refine ⟨l₁, ?_, ?_, hframe⟩
        · rw [hspare, hplace]
          rfl
        · rw [hsame, hfirst]
          exact hlinked
    obtain ⟨l₁, hstep, hlinked, hframe⟩ := hturn
    have hperm : (insertBack before x (y :: ys)).Perm (x :: y :: ys) := perm_insertBack x _
    have hperm' : (stack ++ insertBack before x (y :: ys)).Perm (x :: stack ++ (y :: ys)) :=
      (hperm.append_left stack).trans List.perm_middle
    rw [hstep, List.foldl_cons]
    refine insertLoop_linked turns fuel stack _ hlinked (hrest.congr fun z hz => hframe z ?_)
      (hperm'.nodup_iff.mpr (List.nodup_cons.mpr ⟨hx, hnodup⟩))
      (fun hnil => by rw [hnil] at hperm; exact absurd hperm.length_eq (by simp))
      (hperm'.length_eq ▸ hturns)
    have hzx : z ≠ x := fun heq => hx (heq ▸ List.mem_append_left _ hz)
    exact List.not_mem_cons_of_ne_of_not_mem hzx fun hmem => hdisjoint hz hmem

/-- **The pointers are those of the sorted list.**  Every loop has ended after as many turns as
there are attributes. -/
theorem sort_linked {xs : List ι} {l : AttrLinks ι} (hlist : Linked l.next l.first xs none)
    (hnodup : xs.Nodup) {fuel : ℕ} (hfuel : xs.length ≤ fuel) :
    ∃ l', sortAttrs before fuel l = some l' ∧
      Linked l'.next l'.first (sortList before xs) none := by
  unfold sortAttrs
  cases xs with
  | nil =>
    have hnone : l.first = none := hlist
    rw [hnone, unlinkLoop, Option.bind_some, insertLoop]
    exact ⟨l, rfl, hlist⟩
  | cons x rest =>
    obtain ⟨spare, hspare⟩ := Nat.exists_eq_add_of_le' hfuel
    have hfirst : l.first = some x := hlist.1
    obtain ⟨l₁, top, hunlink, hkept, hstack⟩ := unlinkLoop_linked before spare rest [] []
      hfirst (hfirst ▸ hlist) rfl ((List.append_nil (x :: rest)).symm ▸ hnodup)
    rw [List.append_nil] at hstack
    have hperm : ((takeOut before (x :: rest)).2 ++ (takeOut before (x :: rest)).1).Perm
        (x :: rest) :=
      perm_takeOut _
    have hlength := hperm.length_eq
    rw [List.length_append] at hlength
    obtain ⟨more, hmore⟩ : ∃ more, fuel = more + (takeOut before (x :: rest)).2.length :=
      Nat.exists_eq_add_of_le' (by omega)
    obtain ⟨l', hinsert, hlinked⟩ := insertLoop_linked before fuel more _ _ hkept hstack
      (hperm.nodup_iff.mpr hnodup) (takeOut_ne_nil before rest x) (hperm.length_eq.trans_le hfuel)
    have hunlink' : unlinkLoop before fuel none l.first none l = some (l₁, top) := by
      rw [hspare, hfirst]
      exact hunlink
    refine ⟨l', ?_, hlinked⟩
    rw [hunlink', Option.bind_some]
    rw [← hmore] at hinsert
    exact hinsert

end

/-- **Nothing is lost.**  Whatever the attributes are, `sort_attrs` ends, every loop after at most
as many turns as there are slots, and the list then has every slot once. -/
theorem sort_loses_nothing {a t v : ℕ} (s : SrpState a t v) (l : AttrLinks (Fin a))
    (xs : List (Fin a)) (hlist : Linked l.next l.first xs none) (honce : xs.Nodup)
    (hall : ∀ i, i ∈ xs) (fuel : ℕ) (hfuel : a ≤ fuel) :
    ∃ l', sortAttrs s.compareAttr fuel l = some l' ∧
      Linked l'.next l'.first (sortList s.compareAttr xs) none ∧
      (sortList s.compareAttr xs).Nodup ∧ ∀ i, i ∈ sortList s.compareAttr xs := by
  have hperm : (sortList s.compareAttr xs).Perm xs := perm_sortList xs
  have hlength : xs.length ≤ a := honce.length_le_card.trans_eq (Fintype.card_fin a)
  obtain ⟨l', hsort, hlinked⟩ := sort_linked s.compareAttr hlist honce (hlength.trans hfuel)
  exact ⟨l', hsort, hlinked, hperm.nodup_iff.mpr honce, fun i => hperm.mem_iff.mpr (hall i)⟩

theorem sort_loses_nothing_three_slots :
    let s := srpInit 1 1 1 (Vector.replicate 6 0) 0
    let l : AttrLinks (Fin (1 + 1 + 1)) := ⟨![none, some 0, some 1], some 2⟩
    Linked l.next l.first [2, 1, 0] none ∧
      ∃ l', sortAttrs s.compareAttr 3 l = some l' ∧
        Linked l'.next l'.first (sortList s.compareAttr [2, 1, 0]) none := by
  have hlist : Linked ![none, some 0, some 1] (some 2) [(2 : Fin (1 + 1 + 1)), 1, 0] none :=
    ⟨rfl, rfl, rfl, rfl⟩
  obtain ⟨l', hsort, hlinked, -⟩ := sort_loses_nothing (srpInit 1 1 1 (Vector.replicate 6 0) 0)
    ⟨![none, some 0, some 1], some 2⟩ [2, 1, 0] hlist (by decide) (by decide) 3 (by decide)
  exact ⟨hlist, l', hsort, hlinked⟩

end AttrLinks

/-! ## The order -/

section

variable {α : Type*} {before : α → α → Bool}

/-- The comparison is a strict total order on the elements of the list. -/
structure StrictOn (before : α → α → Bool) (xs : List α) : Prop where
  asymm : ∀ x ∈ xs, ∀ y ∈ xs, before x y = true → before y x = false
  trans : ∀ x ∈ xs, ∀ y ∈ xs, ∀ z ∈ xs, before x y = true → before y z = true → before x z = true
  total : ∀ x ∈ xs, ∀ y ∈ xs, x ≠ y → before x y = true ∨ before y x = true

def SortedBy (before : α → α → Bool) (xs : List α) : Prop :=
  xs.Pairwise fun x y => before x y = true

instance (before : α → α → Bool) (xs : List α) : Decidable (SortedBy before xs) :=
  inferInstanceAs (Decidable (xs.Pairwise _))

lemma StrictOn.subset {xs ys : List α} (h : StrictOn before ys) (hsub : xs ⊆ ys) :
    StrictOn before xs where
  asymm x hx y hy := h.asymm x (hsub hx) y (hsub hy)
  trans x hx y hy z hz := h.trans x (hsub hx) y (hsub hy) z (hsub hz)
  total x hx y hy := h.total x (hsub hx) y (hsub hy)

lemma sortedBy_cons {x y : α} {ys : List α} (hstrict : StrictOn before (x :: y :: ys))
    (hsorted : SortedBy before (y :: ys)) (hxy : before x y = true) :
    SortedBy before (x :: y :: ys) := by
  refine List.pairwise_cons.mpr ⟨fun z hz => ?_, hsorted⟩
  rcases List.mem_cons.mp hz with rfl | hz
  · exact hxy
  · exact hstrict.trans x (by simp) y (by simp) z (by simp [hz]) hxy
      ((List.pairwise_cons.mp hsorted).1 z hz)

lemma sortedBy_insertAfter {x : α} : ∀ (ys : List α) {y : α}, StrictOn before (x :: y :: ys) →
    x ∉ y :: ys → SortedBy before (y :: ys) → before y x = true →
    SortedBy before (insertAfter before x (y :: ys))
  | [], y, _, _, _, hyx => List.pairwise_pair.mpr hyx
  | z :: ys, y, hstrict, hx, hsorted, hyx => by
    obtain ⟨hy, hrest⟩ := List.pairwise_cons.mp hsorted
    have hstrict' : StrictOn before (x :: z :: ys) :=
      hstrict.subset (List.cons_subset_cons x (List.subset_cons_self y _))
    rw [insertAfter]
    split_ifs with hhere
    · have hxz := (Bool.and_eq_true_iff.mp hhere).2
      refine List.pairwise_cons.mpr ⟨fun w hw => ?_, sortedBy_cons hstrict' hrest hxz⟩
      rcases List.mem_cons.mp hw with rfl | hw
      · exact hyx
      · exact hy w hw
    · -- the next element does not stand behind `x` either
      have hxz : before x z = false := by
        rw [hyx, Bool.true_and] at hhere
        exact Bool.eq_false_iff.mpr hhere
      have hzx : before z x = true := by
        have hne : x ≠ z := fun heq => hx (heq ▸ List.mem_cons_of_mem y List.mem_cons_self)
        refine (hstrict'.total x (by simp) z (by simp) hne).resolve_left ?_
        rw [hxz]
        exact Bool.false_ne_true
      have ih := sortedBy_insertAfter ys hstrict' (fun h => hx (List.mem_cons_of_mem y h)) hrest hzx
      refine List.pairwise_cons.mpr ⟨fun w hw => ?_, ih⟩
      rcases List.mem_cons.mp ((perm_insertAfter x _).mem_iff.mp hw) with rfl | hw
      · exact hyx
      · exact hy w hw

lemma sortedBy_insertBack {x : α} : ∀ {ys : List α}, StrictOn before (x :: ys) → x ∉ ys →
    SortedBy before ys → SortedBy before (insertBack before x ys)
  | [], _, _, _ => List.pairwise_singleton _ _
  | y :: ys, hstrict, hx, hsorted => by
    rw [insertBack]
    split_ifs with hxy
    · exact sortedBy_cons hstrict hsorted hxy
    · have hne : x ≠ y := fun heq => hx (heq ▸ List.mem_cons_self)
      exact sortedBy_insertAfter ys hstrict hx hsorted
        ((hstrict.total x (by simp) y (by simp) hne).resolve_left hxy)

lemma sortedBy_foldl_insertBack : ∀ {stack ys : List α}, StrictOn before (stack ++ ys) →
    (stack ++ ys).Nodup → SortedBy before ys →
    SortedBy before (stack.foldl (fun ys x => insertBack before x ys) ys)
  | [], _, _, _, hsorted => hsorted
  | x :: stack, ys, hstrict, hnodup, hsorted => by
    obtain ⟨hx, -⟩ := List.nodup_cons.mp hnodup
    have hperm : (stack ++ insertBack before x ys).Perm (x :: stack ++ ys) :=
      ((perm_insertBack x ys).append_left stack).trans List.perm_middle
    have hsub : x :: ys ⊆ x :: stack ++ ys :=
      List.cons_subset_cons x (List.subset_append_right stack ys)
    rw [List.foldl_cons]
    exact sortedBy_foldl_insertBack (hstrict.subset hperm.subset) (hperm.nodup_iff.mpr hnodup)
      (sortedBy_insertBack (hstrict.subset hsub) (fun h => hx (List.mem_append_right _ h)) hsorted)

lemma sublist_insertAfter (x : α) : ∀ ys : List α, ys.Sublist (insertAfter before x ys)
  | [] => List.nil_sublist _
  | [y] => List.sublist_append_left [y] [x]
  | y :: z :: ys => by
    rw [insertAfter]
    split_ifs
    · exact (List.sublist_cons_self x _).cons_cons y
    · exact (sublist_insertAfter x (z :: ys)).cons_cons y

lemma sublist_insertBack (x : α) (ys : List α) : ys.Sublist (insertBack before x ys) := by
  unfold insertBack
  split
  · exact List.nil_sublist _
  · split_ifs
    · exact List.sublist_cons_self x _
    · exact sublist_insertAfter x _

lemma sublist_foldl_insertBack : ∀ stack ys : List α,
    ys.Sublist (stack.foldl (fun ys x => insertBack before x ys) ys)
  | [], ys => List.Sublist.refl ys
  | x :: stack, ys => (sublist_insertBack x ys).trans (sublist_foldl_insertBack stack _)

/-- The `i`-th element comes before its successor, or has none. -/
def StandsRight (before : α → α → Bool) (xs : List α) (i : ℕ) : Prop :=
  ∀ x ∈ xs[i]?, ∀ y ∈ xs[i + 1]?, before x y = true
  deriving Decidable

/-- Of any two elements that come before their successors, the first comes before the second. -/
def StandingSorted (before : α → α → Bool) (xs : List α) : Prop :=
  ∀ i j : Fin xs.length, i < j → StandsRight before xs i → StandsRight before xs j →
    before xs[i] xs[j] = true
  deriving Decidable

lemma standsRight_succ {x : α} {xs : List α} {i : ℕ} :
    StandsRight before (x :: xs) (i + 1) ↔ StandsRight before xs i := by
  simp [StandsRight]

lemma standsRight_zero {x y : α} {rest : List α} :
    StandsRight before (x :: y :: rest) 0 ↔ before x y = true := by
  simp [StandsRight]

/-- The first loop leaves the elements that come before their successors. -/
lemma mem_takeOut_iff {z : α} {xs : List α} : z ∈ (takeOut before xs).1 ↔
    ∃ i : Fin xs.length, xs[i] = z ∧ StandsRight before xs i := by
  induction xs with
  | nil => simp [takeOut]
  | cons x rest ih =>
    cases rest with
    | nil =>
      rw [takeOut, List.mem_singleton, eq_comm]
      refine ⟨fun h => ⟨0, h, by simp [StandsRight]⟩, ?_⟩
      rintro ⟨i, h, -⟩
      have hi : i = (0 : Fin 1) := Subsingleton.elim (α := Fin 1) _ _
      rwa [hi] at h
    | cons y rest =>
      refine Iff.trans ?_ Fin.exists_fin_succ.symm
      show _ ↔ (x = z ∧ StandsRight before (x :: y :: rest) 0) ∨
        ∃ i : Fin (y :: rest).length, (y :: rest)[i] = z ∧
          StandsRight before (x :: y :: rest) (i + 1)
      simp only [standsRight_succ, standsRight_zero, ← ih]
      rw [takeOut]
      split_ifs with hbefore
      · simp [hbefore, eq_comm]
      · simp [hbefore]

lemma standingSorted_cons {x : α} {xs : List α} : StandingSorted before (x :: xs) ↔
    (StandsRight before (x :: xs) 0 → ∀ y ∈ (takeOut before xs).1, before x y = true) ∧
      StandingSorted before xs := by
  simp only [mem_takeOut_iff]
  constructor
  · intro h
    refine ⟨?_, ?_⟩
    · rintro hx y ⟨j, rfl, hj⟩
      exact h 0 j.succ j.succ_pos hx (standsRight_succ.mpr hj)
    · intro i j hij hi hj
      exact h i.succ j.succ (Fin.succ_lt_succ_iff.mpr hij) (standsRight_succ.mpr hi)
        (standsRight_succ.mpr hj)
  · rintro ⟨hfirst, hrest⟩ i j hij hi hj
    obtain ⟨j, rfl⟩ := Fin.exists_succ_eq.mpr (Fin.ne_zero_of_lt hij)
    cases i using Fin.cases with
    | zero => exact hfirst hi _ ⟨j, rfl, standsRight_succ.mp hj⟩
    | succ i =>
      exact hrest i j (Fin.succ_lt_succ_iff.mp hij) (standsRight_succ.mp hi)
        (standsRight_succ.mp hj)

lemma sortedBy_takeOut_iff : ∀ {xs : List α},
    SortedBy before (takeOut before xs).1 ↔ StandingSorted before xs
  | [] => by simp [takeOut, SortedBy, StandingSorted]
  | [x] => by simp [takeOut, SortedBy, StandingSorted]
  | x :: y :: rest => by
    rw [standingSorted_cons, ← sortedBy_takeOut_iff, standsRight_zero, takeOut]
    split_ifs with hbefore
    · simp only [hbefore, forall_true_left]
      exact List.pairwise_cons
    · simp [hbefore]

end

namespace SrpState

/-- **When the list is sorted.**  Where the comparison is a strict total order, `sort_attrs` leaves
the attributes sorted exactly if, before it, those that come before their successors, and the last
one, are in order among each other. -/
theorem sorted_iff_standing_sorted {a t v : ℕ} (s : SrpState a t v) (hnodup : s.order.Nodup)
    (hstrict : StrictOn s.compareAttr s.order) :
    SortedBy s.compareAttr s.sortAttrs.order ↔ StandingSorted s.compareAttr s.order := by
  have hperm : ((takeOut s.compareAttr s.order).2 ++ (takeOut s.compareAttr s.order).1).Perm
      s.order := perm_takeOut s.order
  rw [← sortedBy_takeOut_iff]
  constructor
  · exact fun hsorted => hsorted.sublist (sublist_foldl_insertBack _ _)
  · exact fun hkept => sortedBy_foldl_insertBack (hstrict.subset hperm.subset)
      (hperm.nodup_iff.mpr hnodup) hkept

/-- Three listener attributes, of the streams 2, 3 and 1, in a list. -/
def threeListeners (order : List (Fin 4)) : SrpState 4 3 0 :=
  { srpInit 3 3 0 (Vector.replicate 6 0) 0 with
    order := order
    attrs := fun i =>
      { MrpAttribute.zero with
        attributeType := .listener, applicantState := .qa, attributeInfo := .stream (i.val - 1) }
    table := fun j =>
      let id := match j with | 0 => 2 | 1 => 3 | _ => 1
      { AvbStreamEntry.zero with reservation := { AvbSrpInfo.zero with streamId1 := id } } }

theorem three_listeners_sorted :
    SortedBy (threeListeners [3, 1, 2]).compareAttr (threeListeners [3, 1, 2]).sortAttrs.order :=
  (sorted_iff_standing_sorted (threeListeners [3, 1, 2]) (by decide)
    ⟨by decide, by decide, by decide⟩).mpr (by decide)

/-- With stream 1 at the end the first loop takes out stream 3 only, and leaves stream 2 before
stream 1. -/
theorem sort_leaves_unsorted :
    StrictOn (threeListeners [1, 2, 3]).compareAttr (threeListeners [1, 2, 3]).order ∧
      (threeListeners [1, 2, 3]).order.Nodup ∧
      (threeListeners [1, 2, 3]).sortAttrs.order = [1, 3, 2] ∧
      ¬ SortedBy (threeListeners [1, 2, 3]).compareAttr
        (threeListeners [1, 2, 3]).sortAttrs.order := by
  refine ⟨⟨?_, ?_, ?_⟩, ?_, ?_, ?_⟩ <;> decide

end SrpState
