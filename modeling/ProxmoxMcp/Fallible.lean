import Mathlib

/-!
# Functions that may fail, along a list

A program reads a list entry by entry and stops at the first one it cannot read, or checks every
entry and stops at the first that fails. Either succeeds exactly when it does so at **each** entry,
whatever the order.
-/

namespace Fallible

variable {ε α β : Type} {l : List α}

/-- A sequence succeeds when both of its parts do. -/
theorem bind_eq_ok_iff {x : Except ε α} {f : α → Except ε β} {b : β} :
    x >>= f = .ok b ↔ ∃ a, x = .ok a ∧ f a = .ok b := by
  cases x with
  | error error => simp [bind, Except.bind]
  | ok a => simp [bind, Except.bind]

theorem forM_eq_ok_iff {check : α → Except ε Unit} :
    forM l check = .ok () ↔ ∀ a ∈ l, check a = .ok () := by
  induction l with
  | nil => simp [pure, Except.pure]
  | cons first rest ih =>
    rw [List.forM_cons, List.forall_mem_cons, ← ih]
    cases check first with
    | error error => simp [bind, Except.bind]
    | ok _ => simp [bind, Except.bind]

/-- A list is read entry by entry. -/
theorem mapM_eq_ok_iff {f : α → Except ε β} {l' : List β} :
    l.mapM f = .ok l' ↔ List.Forall₂ (fun a b => f a = .ok b) l l' := by
  induction l generalizing l' with
  | nil =>
    rw [List.mapM_nil, List.forall₂_nil_left_iff, eq_comm]
    exact ⟨fun heq => Except.ok.inj heq, fun heq => congrArg Except.ok heq⟩
  | cons first rest ih =>
    rw [List.mapM_cons, List.forall₂_cons_left_iff]
    constructor
    · intro h
      cases hfirst : f first with
      | error error =>
        rw [hfirst] at h
        cases h
      | ok b =>
        cases hrest : rest.mapM f with
        | error error =>
          rw [hfirst, hrest] at h
          cases h
        | ok others =>
          rw [hfirst, hrest] at h
          exact ⟨b, others, rfl, ih.mp hrest, (Except.ok.inj h).symm⟩
    · rintro ⟨b, others, hfirst, hrest, rfl⟩
      rw [hfirst, ih.mpr hrest]
      rfl

/-- What is read are the values of the entries. -/
theorem mem_iff_of_mapM {f : α → Except ε β} {l' : List β} (h : l.mapM f = .ok l') {b : β} :
    b ∈ l' ↔ ∃ a ∈ l, f a = .ok b := by
  rw [mapM_eq_ok_iff] at h
  induction h with
  | nil => simp
  | @cons first value rest others hfirst hrest ih =>
    rw [List.mem_cons, ih, List.exists_mem_cons_iff, hfirst, Except.ok.injEq, eq_comm]

/-- Every entry of a list that is read has been read. -/
theorem exists_of_mem_of_forall₂ {R : α → β → Prop} {l' : List β} (h : List.Forall₂ R l l') {a : α}
    (ha : a ∈ l) : ∃ b ∈ l', R a b := by
  induction h with
  | nil => cases ha
  | cons hfirst hrest ih =>
    rcases List.mem_cons.mp ha with rfl | ha
    · exact ⟨_, List.mem_cons_self, hfirst⟩
    · obtain ⟨b, hb, hread⟩ := ih ha
      exact ⟨b, List.mem_cons_of_mem _ hb, hread⟩

/-- A list can be read when each of its entries can. -/
theorem exists_mapM_iff {f : α → Except ε β} :
    (∃ l', l.mapM f = .ok l') ↔ ∀ a ∈ l, ∃ b, f a = .ok b := by
  constructor
  · rintro ⟨l', h⟩ a ha
    obtain ⟨b, -, hb⟩ := exists_of_mem_of_forall₂ (mapM_eq_ok_iff.mp h) ha
    exact ⟨b, hb⟩
  · intro h
    induction l with
    | nil => exact ⟨[], rfl⟩
    | cons first rest ih =>
      obtain ⟨⟨b, hb⟩, hrest⟩ := List.forall_mem_cons.mp h
      obtain ⟨others, hothers⟩ := ih hrest
      exact ⟨b :: others, mapM_eq_ok_iff.mpr (.cons hb (mapM_eq_ok_iff.mp hothers))⟩

end Fallible
