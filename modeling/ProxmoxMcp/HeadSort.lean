import Mathlib

/-!
# Sorting by an order the first element picks

A list is sorted stably, by a total preorder that depends on its **head**. Such a sort has two ways
of answering differently for two arrangements of the same elements: another element may come first
and pick another order, and elements an order does not tell apart keep the order they came in.

`Precedes` says that a head leaves no choice about two elements, and `headSort_invariant_iff` that
the sort is invariant under rearrangement exactly when every head leaves no choice and all heads
agree.
-/

namespace HeadSort

variable {α : Type} {le : α → α → α → Bool}

/-- One total preorder for each element that may come first. -/
structure Preorders (le : α → α → α → Bool) : Prop where
  trans : ∀ c x y z, le c x y → le c y z → le c x z
  total : ∀ c x y, le c x y || le c y x

/-- The list sorted, stably, by the order its head picks. -/
def headSort (le : α → α → α → Bool) : List α → List α
  | [] => []
  | c :: rest => (c :: rest).mergeSort (le c)

/-- The element occurs in the list exactly once. -/
def Once (l : List α) (a : α) : Prop := ∃ rest, l.Perm (a :: rest) ∧ a ∉ rest

/-- **No choice**: with the head `c` the element `a` stands before `b`, either strictly or as a tie
that `a` wins by being the head itself. -/
def Precedes (le : α → α → α → Bool) (l : List α) (c a b : α) : Prop :=
  le c b a = false ∨ le c a b ∧ c = a ∧ Once l a

/-- All heads of the list leave no choice about `a` and `b`, and put `a` first. -/
def AlwaysPrecedes (le : α → α → α → Bool) (l : List α) (a b : α) : Prop :=
  ∀ c ∈ l, Precedes le l c a b

/-- Every two different elements have a place fixed by every head. -/
def Settled (le : α → α → α → Bool) (l : List α) : Prop :=
  ∀ a ∈ l, ∀ b ∈ l, a ≠ b → AlwaysPrecedes le l a b ∨ AlwaysPrecedes le l b a

/-- The sort gives one answer for all arrangements of the list. -/
def Invariant (le : α → α → α → Bool) (l : List α) : Prop :=
  ∀ l', l'.Perm l → headSort le l' = headSort le l

/-! ### Lists with two elements in some order -/

theorem pair_sublist_or {a b : α} (hne : a ≠ b) {l : List α} (ha : a ∈ l) (hb : b ∈ l) :
    [a, b].Sublist l ∨ [b, a].Sublist l := by
  induction l with
  | nil => exact absurd ha List.not_mem_nil
  | cons x l ih =>
    rcases List.mem_cons.mp ha with rfl | ha'
    · have hb : b ∈ l := (List.mem_cons.mp hb).resolve_left (Ne.symm hne)
      exact .inl (List.cons_sublist_cons.mpr (List.singleton_sublist.mpr hb))
    rcases List.mem_cons.mp hb with rfl | hb'
    · exact .inr (List.cons_sublist_cons.mpr (List.singleton_sublist.mpr ha'))
    · exact (ih ha' hb').imp (fun h => h.cons x) fun h => h.cons x

/-- In a list where `a` stands between two parts without it, what comes before it is in the first
part. -/
theorem mem_left_of_pair_sublist {a b : α} (hne : a ≠ b) {s t : List α} (ht : a ∉ t)
    (h : [b, a].Sublist (s ++ a :: t)) : b ∈ s := by
  obtain ⟨u, v, huv, hu, hv⟩ := List.sublist_append_iff.mp h
  cases u with
  | nil =>
    -- both would have to stand from `a` on
    have hv : [b, a].Sublist (a :: t) := by simpa [huv] using hv
    have htail : [b, a].Sublist t := by
      cases hv with
      | cons _ h => exact h
      | cons_cons _ h => exact absurd rfl hne
    exact absurd (htail.subset (by simp)) ht
  | cons x u =>
    have hx : b = x := List.head_eq_of_cons_eq huv
    exact hx ▸ hu.subset (by simp)

/-! ### The sort keeps what a head fixes -/

theorem headSort_perm (l : List α) : (headSort le l).Perm l := by
  cases l with
  | nil => exact .nil
  | cons c rest => exact List.mergeSort_perm _ _

theorem mem_headSort {l : List α} {a : α} : a ∈ headSort le l ↔ a ∈ l := (headSort_perm l).mem_iff

theorem Once.notMem {l rest : List α} {a : α} (h : Once l a) (hperm : (a :: rest).Perm l) :
    a ∉ rest := by
  obtain ⟨rest', hrest', hnot⟩ := h
  have hrest : rest.Perm rest' := List.perm_cons a |>.mp (hperm.trans hrest')
  exact fun ha => hnot (hrest.mem_iff.mp ha)

/-- What the head fixes, the sorted list shows. -/
theorem Precedes.not_sublist (hle : Preorders le) {l rest : List α} {a b c : α} (hne : a ≠ b)
    (hperm : (c :: rest).Perm l) (h : Precedes le l c a b) :
    ¬ [b, a].Sublist (headSort le (c :: rest)) := by
  intro hsub
  rcases h with hstrict | ⟨htie, rfl, hOnce⟩
  · have hsorted := List.pairwise_mergeSort (hle.trans c) (hle.total c) (c :: rest)
    have hba : le c b a := List.pairwise_iff_forall_sublist.mp hsorted hsub
    simp [hstrict] at hba
  · -- the head is put before everything it ties with
    obtain ⟨s, t, hsort, hrest, hbefore⟩ :=
      List.mergeSort_cons (hle.trans c) (hle.total c) c rest
    have hnot : c ∉ s ++ t := by
      rw [← hrest, List.mem_mergeSort]
      exact hOnce.notMem hperm
    have hb : b ∈ s := by
      refine mem_left_of_pair_sublist hne (fun ht => hnot (List.mem_append_right s ht)) ?_
      rwa [headSort, hsort] at hsub
    simpa [htie] using hbefore b hb

theorem AlwaysPrecedes.not_sublist (hle : Preorders le) {l l' : List α} {a b : α} (hne : a ≠ b)
    (hperm : l'.Perm l) (h : AlwaysPrecedes le l a b) : ¬ [b, a].Sublist (headSort le l') := by
  cases l' with
  | nil => simp [headSort]
  | cons c rest =>
    have hc : c ∈ l := hperm.mem_iff.mp List.mem_cons_self
    exact (h c hc).not_sublist hle hne hperm

theorem AlwaysPrecedes.sublist (hle : Preorders le) {l : List α} {a b : α} (hne : a ≠ b)
    (ha : a ∈ l) (hb : b ∈ l) (h : AlwaysPrecedes le l a b) :
    [a, b].Sublist (headSort le l) :=
  (pair_sublist_or hne (mem_headSort.mpr ha) (mem_headSort.mpr hb)).resolve_right
    (h.not_sublist hle hne (.refl l))

/-- **One answer**: where every place is fixed, all arrangements are sorted alike. -/
theorem Settled.invariant (hle : Preorders le) {l : List α} (h : Settled le l) :
    Invariant le l := by
  intro l' hperm
  -- both answers are arranged by the relation that every head agrees on
  have harranged (k : List α) (hk : k.Perm l) :
      (headSort le k).Pairwise fun a b => a ≠ b → AlwaysPrecedes le l a b := by
    refine List.pairwise_iff_forall_sublist.mpr fun {a b} hsub hne => ?_
    have hmem (x : α) (hx : x ∈ [a, b]) : x ∈ l :=
      hk.mem_iff.mp (mem_headSort.mp (hsub.subset hx))
    refine (h a (hmem a (by simp)) b (hmem b (by simp)) hne).resolve_right fun hba => ?_
    exact hba.not_sublist hle (Ne.symm hne) hk hsub
  have hsame : (headSort le l').Perm (headSort le l) :=
    (headSort_perm l').trans (hperm.trans (headSort_perm l).symm)
  refine List.Perm.eq_of_pairwise (fun a b ha hb hab hba => ?_) (harranged l' hperm)
    (harranged l (.refl l)) hsame
  by_contra hne
  have hal : a ∈ l := hperm.mem_iff.mp (mem_headSort.mp ha)
  exact (hba (Ne.symm hne)).not_sublist hle (Ne.symm hne) (.refl l)
    ((hab hne).sublist hle hne hal (mem_headSort.mp hb))

/-! ### Where a head leaves a choice -/

/-- **Stability**: elements the order does not tell apart keep the order they came in. -/
theorem filter_mergeSort {r : α → α → Bool} (htrans : ∀ x y z, r x y → r y z → r x z)
    (htotal : ∀ x y, r x y || r y x) {p : α → Bool} (htie : ∀ x y, p x → p y → r x y)
    (l : List α) : (l.mergeSort r).filter p = l.filter p := by
  have hsorted : (l.filter p).Pairwise fun x y => r x y := by
    refine List.pairwise_iff_forall_sublist.mpr fun {x y} hsub => ?_
    have hp (z : α) (hz : z ∈ [x, y]) : p z := (List.mem_filter.mp (hsub.subset hz)).2
    exact htie x y (hp x (by simp)) (hp y (by simp))
  have hsub : (l.filter p).Sublist ((l.mergeSort r).filter p) := by
    have hwhole := List.sublist_mergeSort htrans htotal hsorted List.filter_sublist
    simpa using hwhole.filter p
  have hlength := ((List.mergeSort_perm l r).filter p).length_eq
  exact (hsub.eq_of_length hlength.symm).symm

/-- Two elements that tie behind the head are sorted as they came. -/
theorem Invariant.not_tie (hle : Preorders le) {l r : List α} {a b c : α} (hne : a ≠ b)
    (h : Invariant le l) (hperm : (c :: a :: b :: r).Perm l) (hab : le c a b) :
    le c b a = false := by
  classical
  rw [← Bool.not_eq_true]
  intro hba
  have hself (x : α) : le c x x := by simpa using hle.total c x x
  let p (x : α) : Bool := x = a ∨ x = b
  have htie (x y : α) (hx : p x) (hy : p y) : le c x y := by
    rcases of_decide_eq_true hx with rfl | rfl <;> rcases of_decide_eq_true hy with rfl | rfl
    exacts [hself _, hab, hba, hself _]
  have hswap : (c :: b :: a :: r).Perm l := ((List.Perm.swap a b r).cons c).trans hperm
  have hsame := congrArg (List.filter p) ((h _ hperm).trans (h _ hswap).symm)
  simp only [headSort, filter_mergeSort (hle.trans c) (hle.total c) htie] at hsame
  have hrest : (a :: b :: r).filter p = (b :: a :: r).filter p := by
    cases hc : p c <;> simpa [List.filter_cons, hc] using hsame
  exact hne (by simpa [p, List.filter_cons] using hrest : _ ∧ _).1

/-- Behind a head that is neither of them, or stands twice, both elements can be put next. -/
theorem exists_perm_of_not_once {l : List α} {a b c : α} (hne : a ≠ b) (ha : a ∈ l) (hb : b ∈ l)
    (hc : c ∈ l) (hca : c = a → ¬ Once l a) (hcb : c = b → ¬ Once l b) :
    ∃ r, (c :: a :: b :: r).Perm l := by
  obtain ⟨s, t, rfl⟩ := List.append_of_mem hc
  have hfront : (c :: (s ++ t)).Perm (s ++ c :: t) := List.perm_middle.symm
  have hbehind {x : α} (hx : x ∈ s ++ c :: t) (hcx : c = x → ¬ Once (s ++ c :: t) x) :
      x ∈ s ++ t := by
    rcases List.mem_cons.mp (hfront.mem_iff.mpr hx) with rfl | hx
    · by_contra hnot
      exact hcx rfl ⟨s ++ t, hfront.symm, hnot⟩
    · exact hx
  obtain ⟨u, hu⟩ : ∃ u, (s ++ t).Perm (a :: u) := by
    obtain ⟨x, y, hxy⟩ := List.append_of_mem (hbehind ha hca)
    exact ⟨x ++ y, hxy ▸ List.perm_middle⟩
  have hbu : b ∈ u :=
    (List.mem_cons.mp (hu.mem_iff.mp (hbehind hb hcb))).resolve_left (Ne.symm hne)
  obtain ⟨x, y, rfl⟩ := List.append_of_mem hbu
  exact ⟨x ++ y, (((hu.trans (List.perm_middle.cons a)).cons c).symm.trans hfront)⟩

theorem Invariant.precedes_or (hle : Preorders le) {l : List α} {a b c : α} (h : Invariant le l)
    (hne : a ≠ b) (ha : a ∈ l) (hb : b ∈ l) (hc : c ∈ l) :
    Precedes le l c a b ∨ Precedes le l c b a := by
  by_contra hneither
  obtain ⟨hab, hba⟩ := not_or.mp hneither
  simp only [Precedes, not_or, not_and, Bool.not_eq_false] at hab hba
  obtain ⟨r, hr⟩ := exists_perm_of_not_once hne ha hb hc
    (fun hca => hab.2 hba.1 hca) fun hcb => hba.2 hab.1 hcb
  simp [h.not_tie hle hne hr hba.1] at hab

/-- **When the sort is invariant**: exactly when every head fixes the places of every two different
elements and all heads agree on them. -/
theorem headSort_invariant_iff (hle : Preorders le) (l : List α) :
    Invariant le l ↔ Settled le l := by
  refine ⟨fun h a ha b hb hne => ?_, fun h => h.invariant hle⟩
  have hagree {c d : α} (hc : c ∈ l) (hd : d ∈ l) (hcab : Precedes le l c a b) :
      ¬ Precedes le l d b a := by
    intro hdba
    -- the answers under the two heads are one list, and it holds the two in some order
    have hhead {x : α} (hx : x ∈ l) : ∃ rest, (x :: rest).Perm l := by
      obtain ⟨s, t, rfl⟩ := List.append_of_mem hx
      exact ⟨s ++ t, List.perm_middle.symm⟩
    obtain ⟨s, hs⟩ := hhead hc
    obtain ⟨t, ht⟩ := hhead hd
    have hnba := hcab.not_sublist hle hne hs
    have hnab := hdba.not_sublist hle (Ne.symm hne) ht
    rw [h _ hs] at hnba
    rw [h _ ht] at hnab
    exact (pair_sublist_or hne (mem_headSort.mpr ha) (mem_headSort.mpr hb)).elim hnab hnba
  by_cases hall : AlwaysPrecedes le l a b
  · exact .inl hall
  · right
    obtain ⟨c, hc, hcab⟩ : ∃ c ∈ l, ¬ Precedes le l c a b := by
      simpa [AlwaysPrecedes] using hall
    intro d hd
    have hcba := (h.precedes_or hle hne ha hb hc).resolve_left hcab
    exact (h.precedes_or hle hne ha hb hd).resolve_left fun hdab => hagree hd hc hdab hcba

/-- **Marked elements first**: in a list whose places are fixed, the marked elements come before the
others exactly when every head puts them there. -/
theorem Settled.pairwise_marked_iff (hle : Preorders le) {l : List α} (h : Settled le l)
    (marked : α → Prop) :
    (headSort le l).Pairwise (fun a b => marked b → marked a) ↔
      ∀ a ∈ l, ∀ b ∈ l, marked a → ¬ marked b → AlwaysPrecedes le l a b := by
  constructor
  · intro hpair a ha b hb hma hmb
    have hne : a ≠ b := fun hab => hmb (hab ▸ hma)
    refine (h a ha b hb hne).resolve_right fun hba => hmb ?_
    exact List.pairwise_iff_forall_sublist.mp hpair (hba.sublist hle (Ne.symm hne) hb ha) hma
  · intro hfirst
    refine List.pairwise_iff_forall_sublist.mpr fun {a b} hsub hmb => ?_
    by_contra hma
    have hmem (x : α) (hx : x ∈ [a, b]) : x ∈ l := mem_headSort.mp (hsub.subset hx)
    have hne : b ≠ a := fun hba => hma (hba ▸ hmb)
    exact (hfirst b (hmem b (by simp)) a (hmem a (by simp)) hmb hma).not_sublist hle hne
      (.refl l) hsub

/-- One order for all heads, which tells all elements of the list apart, fixes every place. -/
theorem settled_of_strict {r : α → α → Bool} {l : List α} (hle : ∀ c ∈ l, le c = r)
    (hanti : ∀ a ∈ l, ∀ b ∈ l, r a b → r b a → a = b) : Settled le l := by
  intro a ha b hb hne
  rcases hab : r b a with _ | _
  · exact .inl fun c hc => .inl (by rw [hle c hc, hab])
  · refine .inr fun c hc => .inl ?_
    rw [hle c hc, ← Bool.not_eq_true]
    exact fun hba => hne (hanti a ha b hb hba hab)

end HeadSort
