import ProxmoxMcp.Interaction.Pool

/-!
# Footprints

The **footprint** of a program is what it has done by the time it stops. `Program.Leaves E p` says
of a program what its footprints are, together with the value: whatever the replies are, the events
of `p` and its value satisfy `E`. The rules follow the way a program is put together: footprints in
sequence are appended, newest first, and a loop leaves one block for each round (`completes_forM`).
In a run it is the whole history of a call that has returned (`Reachable.leaves_finish`).
-/

namespace Interaction

namespace Program

variable {S : Signature} {α β ε : Type}

/-- What the program has done, newest first, and what it stops with. -/
def Leaves (E : History S → α → Prop) : Program S α → Prop
  | done value => E [] value
  | perform op next =>
    ∀ reply, Leaves (fun events value => E (events ++ [⟨op, reply⟩]) value) (next reply)

section Rules

variable {E E' : History S → α → Prop} {p : Program S α}

theorem Leaves.mono (hp : Leaves E p) (hE : ∀ events value, E events value → E' events value) :
    Leaves E' p := by
  induction p generalizing E E' with
  | done value => exact hE [] value hp
  | perform op next ih => exact fun reply => ih reply (hp reply) fun _ value => hE _ value

/-- **Sequencing** appends footprints. -/
theorem Leaves.bind {F : History S → β → Prop} {f : α → Program S β} (hp : Leaves E p)
    (hf : ∀ before value, E before value → Leaves (fun events result => F (events ++ before) result)
      (f value)) : Leaves F (p >>= f) := by
  induction p generalizing E F with
  | done value =>
    have hrest := hf [] value hp
    simp only [List.append_nil] at hrest
    exact hrest
  | perform op next ih =>
    refine fun reply => ih reply (hp reply) fun before value hvalue => ?_
    refine (hf _ value hvalue).mono fun events result hresult => ?_
    rwa [List.append_assoc]

/-- What a program leaves behind comes on top of what was there. -/
theorem Leaves.always (hp : Leaves E p) (h : History S) :
    Always (fun _ _ => True) (fun h' value => ∃ events, h' = events ++ h ∧ E events value) h p := by
  induction p generalizing E h with
  | done value => exact ⟨[], rfl, hp⟩
  | perform op next ih =>
    refine ⟨trivial, fun reply => (ih reply (hp reply) _).mono (fun _ _ h => h) ?_⟩
    rintro h' value ⟨events, rfl, hvalue⟩
    exact ⟨events ++ [⟨op, reply⟩], by simp, hvalue⟩

end Rules

/-- The program succeeds, whatever the replies are, and leaves such a footprint. -/
abbrev Completes (E : History S → α → Prop) (p : ExceptT ε (Program S) α) : Prop :=
  Leaves (fun events outcome => ∃ value, outcome = .ok value ∧ E events value) p.run

section Completes

variable {E : History S → α → Prop} {F : History S → β → Prop}

theorem completes_pure {value : α} (hvalue : E [] value) :
    Completes E (pure value : ExceptT ε (Program S) α) := ⟨value, rfl, hvalue⟩

theorem Completes.bind {p : ExceptT ε (Program S) α} {f : α → ExceptT ε (Program S) β}
    (hp : Completes E p) (hf : ∀ before value, E before value →
      Completes (fun events result => F (events ++ before) result) (f value)) :
    Completes F (p >>= f) := by
  rw [Completes, ExceptT.run_bind]
  refine Leaves.bind hp ?_
  rintro before _ ⟨value, rfl, hvalue⟩
  exact hf before value hvalue

theorem Completes.request {op : S.Op} {f : S.Reply op → ExceptT ε (Program S) β}
    (hf : ∀ reply, Completes (fun events result => F (events ++ [⟨op, reply⟩]) result) (f reply)) :
    Completes F (Program.request op >>= f) := hf

/-- **Loops** leave one block for each round, the last round's first. -/
theorem completes_forM {l : List α} {f : α → ExceptT ε (Program S) PUnit}
    {B : α → History S → Prop} (hf : ∀ a ∈ l, Completes (fun events _ => B a events) (f a)) :
    Completes (fun events _ => ∃ blocks, List.Forall₂ B l blocks ∧
      events = blocks.reverse.flatten) (forM l f) := by
  induction l with
  | nil => exact completes_pure ⟨[], .nil, rfl⟩
  | cons a l ih =>
    rw [List.forM_cons]
    refine (hf a List.mem_cons_self).bind fun block _ hblock => ?_
    refine (ih fun b hb => hf b (List.mem_cons_of_mem a hb)).mono ?_
    rintro events _ ⟨value, rfl, blocks, hblocks, rfl⟩
    exact ⟨value, rfl, block :: blocks, .cons hblock hblocks, by simp⟩

end Completes

end Program

/-- **In every run** a call that has returned has left a footprint of its body. -/
theorem Reachable.leaves_finish {S : Signature} {M : Machine S} {pool : Pool M} {id : ℕ}
    {call : M.Call} {E : History S → M.Result → Prop} (h : Reachable M pool) {result : M.Result}
    {newer older : Trace S M.Call M.Result}
    (htrace : pool.trace = newer ++ .finish id result :: older)
    (hstart : Entry.start id call ∈ pool.trace) (hbody : Program.Leaves E (M.body call)) :
    E (historyOf id older) result := by
  let guarantee : Guarantee M :=
    { op := fun _ _ _ => True
      result := fun call' h result => call' = call → E h result
      keeps := by
        intro call'
        by_cases heq : call' = call
        · subst heq
          refine (hbody.always []).mono (fun _ _ _ => trivial) ?_
          rintro _ value ⟨events, rfl, hvalue⟩ -
          rwa [List.append_nil]
        · exact (Program.always_true _ _).mono (fun _ _ _ => trivial) fun _ _ _ h => absurd h heq }
  obtain ⟨call', hstart', hresult⟩ := h.finished guarantee htrace
  have hmem : Entry.start id call' ∈ pool.trace :=
    htrace ▸ List.mem_append_right _ (List.mem_cons_of_mem _ hstart')
  exact hresult (h.start_unique hmem hstart)

end Interaction
