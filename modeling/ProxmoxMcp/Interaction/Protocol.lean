import Mathlib
import ProxmoxMcp.Interaction.Pool

/-!
# Protocols

A **protocol** says in which order a call may do what: it is a transition relation whose labels
are events, so what comes next may depend on the replies. `Program.Follows P Q s p` says that the
program `p`, begun in the state `s`, keeps to the protocol `P` whatever the replies are, and that
what it stops with satisfies `Q` in the state it has then. It is defined by recursion on the tree
and has a rule for each way a program is put together.

Code that stays in one state needs no walk of its own: what `Program.Always` says of its operations
is enough (`Always.follows`). A call whose body follows a protocol has in every run of every pool
only done what the protocol accepts (`Reachable.accepts`), and an operation that moves the protocol
on happens no more often than the protocol can be moved on (`Protocol.Accepts.countP_le`).
-/

namespace Interaction

/-- What may happen in each state, and to which state it leads. -/
abbrev Protocol (S : Signature) (σ : Type) := σ → Event S → σ → Prop

namespace Protocol

variable {S : Signature} {σ : Type} {P : Protocol S σ} {s s' s'' : σ} {h h' : History S}

/-- The protocol comes from one state to another by a history, newest event first. -/
inductive Accepts (P : Protocol S σ) (s : σ) : History S → σ → Prop
  | nil : Accepts P s [] s
  | cons {h : History S} {s' s'' : σ} {event : Event S} (past : Accepts P s h s')
      (step : P s' event s'') : Accepts P s (event :: h) s''

/-- What a protocol accepts it had accepted at every moment before. -/
theorem Accepts.of_append {newer : History S} (haccepts : P.Accepts s (newer ++ h) s'') :
    ∃ s', P.Accepts s h s' ∧ P.Accepts s' newer s'' := by
  induction newer generalizing s'' with
  | nil => exact ⟨s'', haccepts, .nil⟩
  | cons event newer ih =>
    cases haccepts with
    | cons past step =>
      obtain ⟨s', hpast, hnewer⟩ := ih past
      exact ⟨s', hpast, hnewer.cons step⟩

/-- What every step preserves holds wherever the protocol comes to. -/
theorem Accepts.invariant {I : History S → σ → Prop} (haccepts : P.Accepts s h s')
    (hstep : ∀ {h s event s'}, P s event s' → I h s → I (event :: h) s') (hs : I [] s) :
    I h s' := by
  induction haccepts with
  | nil => exact hs
  | cons _ step ih => exact hstep step ih

/-- **Counting**: events that raise a rank happen at most as often as the rank allows. -/
theorem Accepts.countP_le {rank : σ → ℕ} {counted : Event S → Bool} (haccepts : P.Accepts s h s')
    (hrank : ∀ {s event s'}, P s event s' → rank s + (if counted event then 1 else 0) ≤ rank s') :
    rank s + h.countP counted ≤ rank s' := by
  induction haccepts with
  | nil => simp
  | cons _ step ih =>
    have hstep := hrank step
    rw [List.countP_cons]
    omega

/-- **Crossing**: where no step goes back, events that cross a threshold happen once. -/
theorem Accepts.countP_le_one {progress : σ → ℕ} {counted : Event S → Bool}
    (haccepts : P.Accepts s h s') (threshold : ℕ)
    (hforward : ∀ {s event s'}, P s event s' → progress s ≤ progress s')
    (hcrosses : ∀ {s event s'}, P s event s' → counted event → progress s < threshold ∧
      threshold ≤ progress s') : h.countP counted ≤ 1 := by
  let rank (s : σ) : ℕ := if threshold ≤ progress s then 1 else 0
  have hrank {s event s'} (hstep : P s event s') :
      rank s + (if counted event then 1 else 0) ≤ rank s' := by
    have hprogress := hforward hstep
    by_cases hcounted : counted event
    · have hcross := hcrosses hstep hcounted
      rw [if_pos hcounted]
      simp only [rank]
      split_ifs <;> omega
    · rw [if_neg hcounted]
      simp only [rank]
      split_ifs <;> omega
  have hcount : rank s + h.countP counted ≤ rank s' := haccepts.countP_le fun hstep => hrank hstep
  have hle : rank s' ≤ 1 := by
    simp only [rank]
    split_ifs <;> omega
  omega

/-- The protocol that pays for the counted events from a budget. -/
def budget (counted : Event S → Bool) : Protocol S ℕ :=
  fun left event left' => left = left' + if counted event then 1 else 0

/-- A budget is what has been paid and what is left. -/
theorem Accepts.countP_add {counted : Event S → Bool} {left left' : ℕ}
    (haccepts : (budget counted).Accepts left h left') : h.countP counted + left' = left := by
  induction haccepts with
  | nil => simp
  | cons _ step ih =>
    rw [List.countP_cons]
    simp only [budget] at step
    omega

end Protocol

namespace Program

variable {S : Signature} {σ α β ε ε' : Type} {P : Protocol S σ} {s : σ}

/-- Begun in a state, the program keeps to the protocol, and stops as `Q` says. -/
def Follows (P : Protocol S σ) (Q : σ → α → Prop) : σ → Program S α → Prop
  | s, done value => Q s value
  | s, perform op next => ∀ reply, ∃ s', P s ⟨op, reply⟩ s' ∧ Follows P Q s' (next reply)

section Follows

variable {Q Q' : σ → α → Prop} {p : Program S α}

@[simp] theorem follows_done {value : α} : Follows P Q s (done value) ↔ Q s value := Iff.rfl

@[simp] theorem follows_pure {value : α} :
    Follows P Q s (pure value : Program S α) ↔ Q s value := Iff.rfl

theorem Follows.mono (hp : Follows P Q s p) (hQ : ∀ s' value, Q s' value → Q' s' value) :
    Follows P Q' s p := by
  induction p generalizing s with
  | done value => exact hQ s value hp
  | perform op next ih =>
    intro reply
    obtain ⟨s', hstep, hnext⟩ := hp reply
    exact ⟨s', hstep, ih reply hnext⟩

/-- **Sequencing**: the second part goes on in the state the first one has come to. -/
theorem Follows.bind {R : σ → α → Prop} {Q : σ → β → Prop} {f : α → Program S β}
    (hp : Follows P R s p) (hf : ∀ s' value, R s' value → Follows P Q s' (f value)) :
    Follows P Q s (p >>= f) := by
  induction p generalizing s with
  | done value => exact hf s value hp
  | perform op next ih =>
    intro reply
    obtain ⟨s', hstep, hnext⟩ := hp reply
    exact ⟨s', hstep, ih reply hnext⟩

/-- Code whose every operation leaves the protocol where it is. -/
theorem Always.follows {G : History S → S.Op → Prop} {R : History S → α → Prop} {h : History S}
    (hp : Always G R h p) (hstay : ∀ h op reply, G h op → P s ⟨op, reply⟩ s)
    (hQ : ∀ h value, R h value → Q s value) : Follows P Q s p := by
  induction p generalizing h with
  | done value => exact hQ h value hp
  | perform op next ih =>
    exact fun reply => ⟨s, hstay h op reply hp.1, ih reply (hp.2 reply)⟩

/-- What a program does that follows a protocol, as a guarantee about its histories. -/
theorem Follows.always {s₀ : σ} {h : History S} (hpast : P.Accepts s₀ h s)
    (hp : Follows P Q s p) :
    Always (fun h op => ∃ s, P.Accepts s₀ h s ∧ ∀ reply, ∃ s', P s ⟨op, reply⟩ s')
      (fun h value => ∃ s, P.Accepts s₀ h s ∧ Q s value) h p := by
  induction p generalizing s h with
  | done value => exact ⟨s, hpast, hp⟩
  | perform op next ih =>
    refine ⟨⟨s, hpast, fun reply => ?_⟩, fun reply => ?_⟩
    · obtain ⟨s', hstep, -⟩ := hp reply
      exact ⟨s', hstep⟩
    · obtain ⟨s', hstep, hnext⟩ := hp reply
      exact ih reply (hpast.cons hstep) hnext

/-- The sequencing rule when the first part may fail: its error is the error of the whole. -/
theorem Follows.run_bind {p : ExceptT ε (Program S) α} {f : α → ExceptT ε (Program S) β}
    {R : σ → Except ε α → Prop} {Q : σ → Except ε β → Prop} (hp : Follows P R s p.run)
    (hok : ∀ s' value, R s' (.ok value) → Follows P Q s' (f value).run)
    (herror : ∀ s' error, R s' (.error error) → Q s' (.error error)) :
    Follows P Q s (p >>= f).run := by
  rw [ExceptT.run_bind]
  refine hp.bind fun s' outcome houtcome => ?_
  cases outcome with
  | ok value => exact hok s' value houtcome
  | error error => exact herror s' error houtcome

/-- A check: what it stops is stopped where the protocol is. -/
theorem Follows.ensure {condition : Bool} {error : ε} {f : Unit → ExceptT ε (Program S) β}
    {Q : σ → Except ε β → Prop} (hf : condition = true → Follows P Q s (f ()).run)
    (herror : Q s (.error error)) : Follows P Q s (Program.ensure condition error >>= f).run := by
  cases condition with
  | true => exact hf rfl
  | false => exact herror

end Follows

/-! ### Programs that may fail -/

/-- Begun in a state, a program that may fail keeps to the protocol, and if it succeeds it stops as
`Q` says. -/
def Leads (P : Protocol S σ) (Q : σ → α → Prop) (s : σ) (p : ExceptT ε (Program S) α) : Prop :=
  Follows P (fun s' outcome => ∀ value, outcome = .ok value → Q s' value) s p.run

section Leads

variable {Q : σ → β → Prop} {R : σ → α → Prop} {p : ExceptT ε (Program S) α}
  {f : α → ExceptT ε (Program S) β}

theorem leads_pure {value : β} (hvalue : Q s value) :
    Leads P Q s (pure value : ExceptT ε (Program S) β) := by
  rintro _ ⟨⟩
  exact hvalue

theorem leads_throw {error : ε} : Leads P Q s (throw error : ExceptT ε (Program S) β) := by
  rintro value heq
  cases heq

theorem Leads.mono {Q' : σ → β → Prop} {p : ExceptT ε (Program S) β} (hp : Leads P Q s p)
    (hQ : ∀ s' value, Q s' value → Q' s' value) : Leads P Q' s p :=
  Follows.mono hp fun s' _ hvalue value heq => hQ s' value (hvalue value heq)

theorem Leads.bind (hp : Leads P R s p) (hf : ∀ s' value, R s' value → Leads P Q s' (f value)) :
    Leads P Q s (p >>= f) := by
  refine Follows.run_bind hp (fun s' value hvalue => hf s' value (hvalue value rfl)) ?_
  intro s' error _ value heq
  cases heq

/-- Code that leaves the protocol where it is, and ensures something of its value. -/
theorem Ensures.leads {G : History S → S.Op → Prop} {R : History S → β → Prop} {h : History S}
    {p : ExceptT ε (Program S) β} (hp : Ensures G R h p)
    (hstay : ∀ h op reply, G h op → P s ⟨op, reply⟩ s) (hQ : ∀ h value, R h value → Q s value) :
    Leads P Q s p :=
  Always.follows hp hstay fun h _ hvalue value heq => hQ h value (hvalue value heq)

theorem Leads.liftExcept {outcome : Except ε α}
    (hf : ∀ value, outcome = .ok value → Leads P Q s (f value)) :
    Leads P Q s ((liftM outcome : ExceptT ε (Program S) α) >>= f) := by
  cases outcome with
  | ok value => exact hf value rfl
  | error error => exact leads_throw

theorem Leads.ensure {condition : Bool} {error : ε} {f : Unit → ExceptT ε (Program S) β}
    (hf : condition = true → Leads P Q s (f ())) :
    Leads P Q s (Program.ensure condition error >>= f) := by
  cases condition with
  | true => exact hf rfl
  | false => exact leads_throw

theorem Leads.required {value : Option α} {error : ε}
    (hf : ∀ a, value = some a → Leads P Q s (f a)) :
    Leads P Q s (Program.required value error >>= f) := by
  cases value with
  | some a => exact hf a rfl
  | none => exact leads_throw

/-- An operation moves the protocol on, by its reply. -/
theorem Leads.request {op : S.Op} {f : S.Reply op → ExceptT ε (Program S) β}
    (hf : ∀ reply, ∃ s', P s ⟨op, reply⟩ s' ∧ Leads P Q s' (f reply)) :
    Leads P Q s (Program.request op >>= f) := hf

/-- A part whose failure is inspected. -/
theorem Leads.attempt {p : ExceptT ε' (Program S) α} {R : σ → Except ε' α → Prop}
    {f : Except ε' α → ExceptT ε (Program S) β} (hp : Follows P R s p.run)
    (hf : ∀ s' outcome, R s' outcome → Leads P Q s' (f outcome)) :
    Leads P Q s (Program.attempt p >>= f) := by
  rw [Leads, run_attempt_bind]
  exact hp.bind hf

theorem leads_mapError {g : ε' → ε} {p : ExceptT ε' (Program S) β} (hp : Leads P Q s p) :
    Leads P Q s (mapError g p) := by
  refine Follows.bind hp fun s' outcome houtcome => ?_
  cases outcome with
  | ok value => exact leads_pure (houtcome value rfl)
  | error error => exact leads_throw

/-- An optional part: without it the protocol stays where it is. -/
theorem leads_onlyIf {condition : Bool} {p : ExceptT ε (Program S) Unit} {Q : σ → Unit → Prop}
    (hp : condition = true → Leads P Q s p) (hskip : condition = false → Q s ()) :
    Leads P Q s (onlyIf condition p) := by
  cases condition with
  | true => exact hp rfl
  | false => exact leads_pure (hskip rfl)

end Leads

end Program

/-! ### Runs -/

section Runs

variable {S : Signature} {M : Machine S} {pool : Pool M} {σ : Type} {P : Protocol S σ} {s : σ}
  {id : ℕ} {call : M.Call} {Q : σ → M.Result → Prop}

/-- What is known of one call whose body follows a protocol. -/
def Guarantee.ofFollows (hbody : Program.Follows P Q s (M.body call)) : Guarantee M where
  op call' h op := call' = call → ∃ s', P.Accepts s h s' ∧ ∀ reply, ∃ s'', P s' ⟨op, reply⟩ s''
  result call' h result := call' = call → ∃ s', P.Accepts s h s' ∧ Q s' result
  keeps call' := by
    by_cases heq : call' = call
    · subst heq
      exact (hbody.always .nil).mono (fun _ _ hop _ => hop) fun _ _ hresult _ => hresult
    · exact (Program.always_true _ _).mono (fun _ _ _ h => absurd h heq) fun _ _ _ h => absurd h heq

/-- **In every run** a call has only done what the protocol accepts that its body follows. -/
theorem Reachable.accepts (h : Reachable M pool) (hstart : Entry.start id call ∈ pool.trace)
    (hbody : Program.Follows P Q s (M.body call)) :
    ∃ s', P.Accepts s (historyOf id pool.trace) s' := by
  cases hhistory : historyOf id pool.trace with
  | nil => exact ⟨s, .nil⟩
  | cons event before =>
    obtain ⟨newer, older, htrace, -, rfl⟩ := exists_split_of_historyOf [] hhistory
    obtain ⟨call', hstart', hop⟩ := h.performed (.ofFollows hbody) htrace
    have hmem : Entry.start id call' ∈ pool.trace :=
      htrace ▸ List.mem_append_right _ (List.mem_cons_of_mem _ hstart')
    obtain ⟨s', haccepts, hnext⟩ := hop (h.start_unique hmem hstart)
    obtain ⟨s'', hstep⟩ := hnext event.reply
    exact ⟨s'', haccepts.cons hstep⟩

/-- What a call has returned, it returned in a state in which the protocol lets it. -/
theorem Reachable.accepts_finish (h : Reachable M pool) {result : M.Result}
    {newer older : Trace S M.Call M.Result}
    (htrace : pool.trace = newer ++ .finish id result :: older)
    (hstart : Entry.start id call ∈ pool.trace)
    (hbody : Program.Follows P Q s (M.body call)) :
    ∃ s', P.Accepts s (historyOf id older) s' ∧ Q s' result := by
  obtain ⟨call', hstart', hresult⟩ := h.finished (.ofFollows hbody) htrace
  have hmem : Entry.start id call' ∈ pool.trace :=
    htrace ▸ List.mem_append_right _ (List.mem_cons_of_mem _ hstart')
  exact hresult (h.start_unique hmem hstart)

end Runs

end Interaction
