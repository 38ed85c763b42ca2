import ProxmoxMcp.Interaction.Program

/-!
# Pools of concurrent calls over a shared world

A `Machine` runs any number of calls at once. Each call is a `Program`; its operations act on one
shared world, one operation at a time and in **any interleaving**. Calls may be started, cut off
and finished at every moment, the world may move by itself, and a crash drops every call at once
and leaves what survives of the world.

A run is recorded in its **trace**, newest entry first, and the trace is the clock: the position
of an entry is the number of entries before it. What one call has seen is a projection of the
trace (`historyOf`), so a fact `Program.Always` about the bodies becomes a fact about every trace
(`Reachable.always`), and `Reachable.invariant` is the one induction over runs: a property of the
world and the trace holds in every reachable pool when each kind of entry preserves it, where an
event may be assumed to obey the guarantee of its call.
-/

namespace Interaction

/-- What happened in a run, one entry at a time. -/
inductive Entry (S : Signature) (Call Result : Type) where
  /-- A call begins. -/
  | start (id : ℕ) (call : Call)
  /-- A call performs an operation and gets its reply. -/
  | event (id : ℕ) (event : Event S)
  /-- A call returns. -/
  | finish (id : ℕ) (result : Result)
  /-- A call is cut off and never continued. -/
  | abandon (id : ℕ)
  /-- The world moves by itself. -/
  | move
  /-- Every call is cut off and the world restarts. -/
  | crash

/-- A run, newest entry first. -/
abbrev Trace (S : Signature) (Call Result : Type) := List (Entry S Call Result)

/-- A system of calls over a shared world. -/
structure Machine (S : Signature) where
  /-- What the calls share. -/
  World : Type
  /-- The calls that can be made. -/
  Call : Type
  /-- What a call returns. -/
  Result : Type
  /-- The program a call runs. -/
  body : Call → Program S Result
  /-- The worlds a run may begin in. -/
  Initial : World → Prop
  /-- `Step world time history event world'`: at `time` a call that has seen `history` performs
  the operation of `event` and gets its reply. -/
  Step : World → ℕ → History S → Event S → World → Prop
  /-- What the world may do by itself. -/
  Move : World → World → Prop
  /-- What a crash leaves of the world. -/
  Crash : World → World → Prop

section Traces

variable {S : Signature} {Call Result : Type}

/-- What the call `id` has seen in a run. -/
def historyOf (id : ℕ) : Trace S Call Result → History S
  | [] => []
  | .event id' event :: older =>
    if id' = id then event :: historyOf id older else historyOf id older
  | .start _ _ :: older | .finish _ _ :: older | .abandon _ :: older | .move :: older
  | .crash :: older => historyOf id older

variable {id id' : ℕ} {trace : Trace S Call Result}

@[simp] theorem historyOf_nil : historyOf id ([] : Trace S Call Result) = [] := rfl

@[simp] theorem historyOf_event_self {event : Event S} :
    historyOf id (.event id event :: trace) = event :: historyOf id trace := if_pos rfl

@[simp] theorem historyOf_event_of_ne {event : Event S} (h : id' ≠ id) :
    historyOf id (.event id' event :: trace) = historyOf id trace := if_neg h

@[simp] theorem historyOf_start {call : Call} :
    historyOf id (.start id' call :: trace) = historyOf id trace := rfl

@[simp] theorem historyOf_finish {result : Result} :
    historyOf id (.finish id' result :: trace) = historyOf id trace := rfl

@[simp] theorem historyOf_abandon :
    historyOf id (.abandon id' :: trace) = historyOf id trace := rfl

@[simp] theorem historyOf_move : historyOf id (.move :: trace) = historyOf id trace := rfl

@[simp] theorem historyOf_crash : historyOf id (.crash :: trace) = historyOf id trace := rfl

/-- The call `id` runs: it was started and has neither ended nor been cut off since. -/
def Live (id : ℕ) : Trace S Call Result → Prop
  | [] => False
  | .start id' _ :: older => id' = id ∨ Live id older
  | .finish id' _ :: older | .abandon id' :: older => id' ≠ id ∧ Live id older
  | .event _ _ :: older | .move :: older => Live id older
  | .crash :: _ => False

/-- Every entry of a run satisfies `P`, together with what happened before it. -/
def Throughout (P : Entry S Call Result → Trace S Call Result → Prop) :
    Trace S Call Result → Prop
  | [] => True
  | entry :: older => P entry older ∧ Throughout P older

theorem throughout_iff {P : Entry S Call Result → Trace S Call Result → Prop} :
    Throughout P trace ↔
      ∀ newer entry older, trace = newer ++ entry :: older → P entry older := by
  induction trace with
  | nil => simp [Throughout]
  | cons entry older ih =>
    simp only [Throughout, ih]
    constructor
    · rintro ⟨hentry, holder⟩ newer entry' older' heq
      cases newer with
      | nil =>
        obtain ⟨rfl, rfl⟩ := List.cons.inj heq
        exact hentry
      | cons _ newer => exact holder newer entry' older' (List.cons.inj heq).2
    · exact fun h => ⟨h [] _ _ rfl, fun newer entry' older' heq =>
        h (entry :: newer) entry' older' (by rw [heq, List.cons_append])⟩

/-- What holds throughout a run holds throughout its past. -/
theorem Throughout.of_append {P : Entry S Call Result → Trace S Call Result → Prop}
    {newer : Trace S Call Result} (h : Throughout P (newer ++ trace)) : Throughout P trace := by
  induction newer with
  | nil => exact h
  | cons _ _ ih => exact ih h.2

@[simp] theorem historyOf_append {newer : Trace S Call Result} :
    historyOf id (newer ++ trace) = historyOf id newer ++ historyOf id trace := by
  induction newer with
  | nil => rfl
  | cons entry newer ih =>
    cases entry with
    | event id' event =>
      by_cases h : id' = id
      · subst h; simp [ih]
      · simp [h, ih]
    | _ => simpa using ih

/-- What a call had seen before is the past of what it has seen. -/
theorem historyOf_suffix {older : Trace S Call Result} (h : older <:+ trace) :
    historyOf id older <:+ historyOf id trace := by
  obtain ⟨newer, rfl⟩ := h
  rw [historyOf_append]
  exact List.suffix_append _ _

/-- An event a call has seen stands in the run, with what the call saw after and before it. -/
theorem exists_split_of_historyOf (after : History S) {before : History S} {event : Event S}
    (h : historyOf id trace = after ++ event :: before) :
    ∃ newer older, trace = newer ++ .event id event :: older ∧ historyOf id newer = after ∧
      historyOf id older = before := by
  induction trace generalizing after with
  | nil => simp at h
  | cons entry trace ih =>
    have hskip {entry : Entry S Call Result} (hentry : historyOf id [entry] = [])
        (h : historyOf id trace = after ++ event :: before) :
        ∃ newer older, entry :: trace = newer ++ .event id event :: older ∧
          historyOf id newer = after ∧ historyOf id older = before := by
      obtain ⟨newer, older, rfl, hnewer, holder⟩ := ih after h
      refine ⟨entry :: newer, older, rfl, ?_, holder⟩
      rw [← List.singleton_append, historyOf_append, hentry, hnewer, List.nil_append]
    cases entry with
    | event id' event' =>
      by_cases hid : id' = id
      · subst hid
        rw [historyOf_event_self] at h
        cases after with
        | nil =>
          obtain ⟨rfl, rfl⟩ := List.cons.inj h
          exact ⟨[], trace, rfl, rfl, rfl⟩
        | cons first after =>
          obtain ⟨rfl, hrest⟩ := List.cons.inj h
          obtain ⟨newer, older, rfl, rfl, rfl⟩ := ih after hrest
          exact ⟨.event id' event' :: newer, older, rfl, historyOf_event_self, rfl⟩
      · exact hskip (historyOf_event_of_ne hid) (by rwa [historyOf_event_of_ne hid] at h)
    | _ => exact hskip rfl (by simpa using h)

/-- What a call had not seen when an event of it happened lies before the event. -/
theorem suffix_of_historyOf {newer older newer' older' : Trace S Call Result} {event : Event S}
    (h : newer ++ .event id event :: older = newer' ++ older')
    (hseen : (historyOf id older').length ≤ (historyOf id older).length) : older' <:+ older := by
  have hevent : (.event id event :: older) <:+ newer' ++ older' := h ▸ List.suffix_append _ _
  rcases List.suffix_or_suffix_of_suffix hevent (List.suffix_append newer' older') with hle | hle
  · obtain ⟨between, rfl⟩ := hle
    simp only [historyOf_append, historyOf_event_self, List.length_append, List.length_cons]
      at hseen
    omega
  · rcases List.suffix_cons_iff.mp hle with rfl | hle
    · simp only [historyOf_event_self, List.length_cons] at hseen
      omega
    · exact hle

/-- What a call did lies after its start. -/
theorem start_suffix_of_event {newer older newer' older' : Trace S Call Result} {call : Call}
    {event : Event S} (h : newer ++ .event id event :: older = newer' ++ .start id call :: older')
    (hnil : historyOf id older' = []) : .start id call :: older' <:+ older := by
  have hevent : (.event id event :: older) <:+ newer' ++ .start id call :: older' :=
    h ▸ List.suffix_append _ _
  rcases List.suffix_or_suffix_of_suffix
    (List.suffix_append newer' (.start id call :: older')) hevent with hle | hle
  · rcases List.suffix_cons_iff.mp hle with heq | hle
    · cases (List.cons.inj heq).1
    · exact hle
  · obtain ⟨between, heq⟩ := hle
    have hhistory := congrArg (historyOf id) heq
    rw [historyOf_append, historyOf_event_self, historyOf_start, hnil] at hhistory
    simp at hhistory

/-- A call has seen exactly its own events. -/
theorem mem_historyOf_iff {event : Event S} :
    event ∈ historyOf id trace ↔ Entry.event id event ∈ trace := by
  induction trace with
  | nil => simp
  | cons entry older ih =>
    cases entry with
    | event id' event' =>
      by_cases h : id' = id
      · subst h; simp [ih]
      · simp [h, ih, Ne.symm h]
    | _ => simpa using ih

end Traces

variable {S : Signature}

/-- A pool of running calls. -/
structure Pool (M : Machine S) where
  /-- The shared world. -/
  world : M.World
  /-- What each running call has still to do. -/
  threads : ℕ → Option (Program S M.Result)
  /-- Everything that happened so far. -/
  trace : Trace S M.Call M.Result

variable {M : Machine S}

/-- An identifier that no call of the run has had. -/
def Fresh (id : ℕ) (trace : Trace S M.Call M.Result) : Prop :=
  ∀ call, Entry.start id call ∉ trace

/-- Set one thread of a pool. -/
def Pool.setThread (pool : Pool M) (id : ℕ) (rest : Option (Program S M.Result)) :
    ℕ → Option (Program S M.Result) :=
  fun id' => if id' = id then rest else pool.threads id'

/-- One step of a pool. -/
inductive Pool.Step : Pool M → Pool M → Prop
  | start {pool : Pool M} {id : ℕ} (call : M.Call) (fresh : Fresh id pool.trace) :
      Step pool ⟨pool.world, pool.setThread id (some (M.body call)), .start id call :: pool.trace⟩
  | event {pool : Pool M} {id : ℕ} {op : S.Op} {next : S.Reply op → Program S M.Result}
      {reply : S.Reply op} {world : M.World} (thread : pool.threads id = some (.perform op next))
      (step : M.Step pool.world pool.trace.length (historyOf id pool.trace) ⟨op, reply⟩ world) :
      Step pool ⟨world, pool.setThread id (some (next reply)), .event id ⟨op, reply⟩ :: pool.trace⟩
  | finish {pool : Pool M} {id : ℕ} {result : M.Result}
      (thread : pool.threads id = some (.done result)) :
      Step pool ⟨pool.world, pool.setThread id none, .finish id result :: pool.trace⟩
  | abandon {pool : Pool M} (id : ℕ) :
      Step pool ⟨pool.world, pool.setThread id none, .abandon id :: pool.trace⟩
  | move {pool : Pool M} {world : M.World} (move : M.Move pool.world world) :
      Step pool ⟨world, pool.threads, .move :: pool.trace⟩
  | crash {pool : Pool M} {world : M.World} (crash : M.Crash pool.world world) :
      Step pool ⟨world, fun _ => none, .crash :: pool.trace⟩

/-- The pools a run can reach. -/
inductive Reachable (M : Machine S) : Pool M → Prop
  | initial {world : M.World} (h : M.Initial world) : Reachable M ⟨world, fun _ => none, []⟩
  | step {pool pool' : Pool M} (h : Reachable M pool) (hstep : pool.Step pool') :
      Reachable M pool'

section Steps

variable {M : Machine S} {pool : Pool M}

theorem Reachable.start (h : Reachable M pool) (id : ℕ) (call : M.Call)
    (fresh : Fresh id pool.trace) :
    Reachable M ⟨pool.world, pool.setThread id (some (M.body call)),
      .start id call :: pool.trace⟩ := h.step (.start call fresh)

theorem Reachable.event (h : Reachable M pool) (id : ℕ) (op : S.Op) (reply : S.Reply op)
    {next : S.Reply op → Program S M.Result} {world : M.World}
    (thread : pool.threads id = some (.perform op next))
    (step : M.Step pool.world pool.trace.length (historyOf id pool.trace) ⟨op, reply⟩ world) :
    Reachable M ⟨world, pool.setThread id (some (next reply)),
      .event id ⟨op, reply⟩ :: pool.trace⟩ := h.step (.event thread step)

theorem Reachable.finish (h : Reachable M pool) (id : ℕ) (result : M.Result)
    (thread : pool.threads id = some (.done result)) :
    Reachable M ⟨pool.world, pool.setThread id none, .finish id result :: pool.trace⟩ :=
  h.step (.finish thread)

end Steps

/-- What every call of a machine is known to do: which operations it performs after which history
and what it returns. -/
structure Guarantee (M : Machine S) where
  /-- The operations a call performs. -/
  op : M.Call → History S → S.Op → Prop
  /-- The values a call returns. -/
  result : M.Call → History S → M.Result → Prop
  /-- The bodies keep the guarantee. -/
  keeps : ∀ call, Program.Always (op call) (result call) [] (M.body call)

variable {pool : Pool M}

@[simp] theorem Pool.setThread_self {id : ℕ} {rest : Option (Program S M.Result)} :
    pool.setThread id rest id = rest := if_pos rfl

theorem Pool.setThread_of_ne {id id' : ℕ} {rest : Option (Program S M.Result)} (h : id' ≠ id) :
    pool.setThread id rest id' = pool.threads id' := if_neg h

/-- Setting a thread to nothing only removes threads. -/
theorem Pool.threads_of_setThread_none {id id' : ℕ} {rest : Program S M.Result}
    (h : pool.setThread id none id' = some rest) : pool.threads id' = some rest := by
  by_cases hid : id' = id
  · simp [hid] at h
  · rwa [Pool.setThread_of_ne hid] at h

theorem Pool.ne_of_setThread_none {id id' : ℕ} {rest : Program S M.Result}
    (h : pool.setThread id none id' = some rest) : id ≠ id' := by
  rintro rfl
  simp at h

/-- Every thread of a pool is a running call. -/
theorem Reachable.live (h : Reachable M pool) {id : ℕ} {rest : Program S M.Result}
    (hrest : pool.threads id = some rest) : Live id pool.trace := by
  induction h generalizing id rest with
  | initial h => simp at hrest
  | step h hstep ih =>
    cases hstep with
    | @start id' call fresh =>
      by_cases hid : id = id'
      · exact Or.inl hid.symm
      · exact Or.inr (ih ((Pool.setThread_of_ne hid).symm.trans hrest))
    | @event id' _ _ _ _ thread _ =>
      by_cases hid : id = id'
      · exact ih (hid ▸ thread)
      · exact ih ((Pool.setThread_of_ne hid).symm.trans hrest)
    | finish thread =>
      exact ⟨Pool.ne_of_setThread_none hrest, ih (Pool.threads_of_setThread_none hrest)⟩
    | abandon id' =>
      exact ⟨Pool.ne_of_setThread_none hrest, ih (Pool.threads_of_setThread_none hrest)⟩
    | move h => exact ih hrest
    | crash h => simp at hrest

/-- A running call was started. -/
theorem Live.started {Call Result : Type} {id : ℕ} {trace : Trace S Call Result}
    (h : Live id trace) : ∃ call, Entry.start id call ∈ trace := by
  induction trace with
  | nil => exact h.elim
  | cons entry older ih =>
    cases entry with
    | start id' call =>
      rcases h with rfl | h
      · exact ⟨call, List.mem_cons_self⟩
      · exact (ih h).imp fun _ => List.mem_cons_of_mem _
    | event id' event => exact (ih h).imp fun _ => List.mem_cons_of_mem _
    | finish id' result => exact (ih h.2).imp fun _ => List.mem_cons_of_mem _
    | abandon id' => exact (ih h.2).imp fun _ => List.mem_cons_of_mem _
    | move => exact (ih h).imp fun _ => List.mem_cons_of_mem _
    | crash => exact h.elim

/-- Only started calls have seen anything. -/
theorem Reachable.historyOf_eq_nil (h : Reachable M pool) {id : ℕ} (hfresh : Fresh id pool.trace) :
    historyOf id pool.trace = [] := by
  induction h with
  | initial h => rfl
  | step h hstep ih =>
    have hold {older : Trace S M.Call M.Result} {entry : Entry S M.Call M.Result}
        (hfresh : Fresh id (entry :: older)) : Fresh id older :=
      fun call hmem => hfresh call (List.mem_cons_of_mem _ hmem)
    cases hstep with
    | @event id' _ _ _ _ thread _ =>
      have hid : id' ≠ id := by
        rintro rfl
        obtain ⟨call, hcall⟩ := (h.live thread).started
        exact hold hfresh call hcall
      rw [historyOf_event_of_ne hid]
      exact ih (hold hfresh)
    | _ => simpa using ih (hold hfresh)

/-- **Adequacy**: every running call still keeps the guarantee of its body, from the history it
has in the trace on. -/
theorem Reachable.always (h : Reachable M pool) (G : Guarantee M) {id : ℕ}
    {rest : Program S M.Result} (hrest : pool.threads id = some rest) :
    ∃ call, Entry.start id call ∈ pool.trace ∧
      Program.Always (G.op call) (G.result call) (historyOf id pool.trace) rest := by
  -- a step of another call leaves the history of this one alone
  induction h generalizing id rest with
  | initial h => simp at hrest
  | step h hstep ih =>
    cases hstep with
    | @start id' call fresh =>
      by_cases hid : id = id'
      · subst hid
        obtain rfl := Option.some.inj (Pool.setThread_self.symm.trans hrest)
        refine ⟨call, List.mem_cons_self, ?_⟩
        rw [historyOf_start, h.historyOf_eq_nil fresh]
        exact G.keeps call
      · replace hrest := (Pool.setThread_of_ne hid).symm.trans hrest
        obtain ⟨call', hcall, halways⟩ := ih hrest
        exact ⟨call', List.mem_cons_of_mem _ hcall, halways⟩
    | @event id' op next reply world thread _ =>
      by_cases hid : id = id'
      · subst hid
        obtain rfl := Option.some.inj (Pool.setThread_self.symm.trans hrest)
        obtain ⟨call, hcall, halways⟩ := ih thread
        exact ⟨call, List.mem_cons_of_mem _ hcall, by simpa using halways.2 reply⟩
      · replace hrest := (Pool.setThread_of_ne hid).symm.trans hrest
        obtain ⟨call, hcall, halways⟩ := ih hrest
        exact ⟨call, List.mem_cons_of_mem _ hcall,
          by simpa [historyOf_event_of_ne (Ne.symm hid)] using halways⟩
    | finish thread =>
      obtain ⟨call, hcall, halways⟩ := ih (Pool.threads_of_setThread_none hrest)
      exact ⟨call, List.mem_cons_of_mem _ hcall, halways⟩
    | abandon id' =>
      obtain ⟨call, hcall, halways⟩ := ih (Pool.threads_of_setThread_none hrest)
      exact ⟨call, List.mem_cons_of_mem _ hcall, halways⟩
    | move h =>
      obtain ⟨call, hcall, halways⟩ := ih hrest
      exact ⟨call, List.mem_cons_of_mem _ hcall, halways⟩
    | crash h => simp at hrest

/-- **The invariant rule**: what each kind of entry preserves holds in every reachable pool. An
event may be assumed to obey the guarantee of its call. -/
theorem Reachable.invariant (h : Reachable M pool) (G : Guarantee M)
    {I : M.World → Trace S M.Call M.Result → Prop}
    (initial : ∀ world, M.Initial world → I world [])
    (start : ∀ (pool : Pool M) id call, Reachable M pool → I pool.world pool.trace →
      Fresh id pool.trace → I pool.world (.start id call :: pool.trace))
    (event : ∀ (pool : Pool M) id call op reply world', Reachable M pool →
      I pool.world pool.trace → Entry.start id call ∈ pool.trace → Live id pool.trace →
      G.op call (historyOf id pool.trace) op →
      M.Step pool.world pool.trace.length (historyOf id pool.trace) ⟨op, reply⟩ world' →
      I world' (.event id ⟨op, reply⟩ :: pool.trace))
    (finish : ∀ (pool : Pool M) id call result, Reachable M pool → I pool.world pool.trace →
      Entry.start id call ∈ pool.trace → G.result call (historyOf id pool.trace) result →
      I pool.world (.finish id result :: pool.trace))
    (abandon : ∀ (pool : Pool M) id, Reachable M pool → I pool.world pool.trace →
      I pool.world (.abandon id :: pool.trace))
    (move : ∀ (pool : Pool M) world', Reachable M pool → I pool.world pool.trace →
      M.Move pool.world world' → I world' (.move :: pool.trace))
    (crash : ∀ (pool : Pool M) world', Reachable M pool → I pool.world pool.trace →
      M.Crash pool.world world' → I world' (.crash :: pool.trace)) : I pool.world pool.trace := by
  induction h with
  | initial h => exact initial _ h
  | step h hstep ih =>
    cases hstep with
    | start call fresh => exact start _ _ _ h ih fresh
    | event thread step =>
      -- the guarantee is that of the call whose thread takes the step
      obtain ⟨call, hcall, halways⟩ := h.always G thread
      exact event _ _ _ _ _ _ h ih hcall (h.live thread) halways.1 step
    | finish thread =>
      obtain ⟨call, hcall, halways⟩ := h.always G thread
      exact finish _ _ _ _ h ih hcall halways
    | abandon id => exact abandon _ _ h ih
    | move hmove => exact move _ _ h ih hmove
    | crash hcrash => exact crash _ _ h ih hcrash

/-- Every stage of a run was reachable. -/
theorem Reachable.of_suffix (h : Reachable M pool) {older : Trace S M.Call M.Result}
    (holder : older <:+ pool.trace) : ∃ pool' : Pool M, Reachable M pool' ∧
    pool'.trace = older := by
  induction h with
  | @initial world h => exact ⟨_, .initial h, (List.suffix_nil.mp holder).symm⟩
  | @step pool pool' h hstep ih =>
    by_cases heq : older = pool'.trace
    · exact ⟨pool', h.step hstep, heq.symm⟩
    · refine ih ?_
      cases hstep <;> exact (List.suffix_cons_iff.mp holder).resolve_left heq

/-- What a call returned is what its body guarantees at the history it had then. -/
theorem Reachable.finished (h : Reachable M pool) (G : Guarantee M) {id : ℕ} {result : M.Result}
    {newer older : Trace S M.Call M.Result}
    (htrace : pool.trace = newer ++ .finish id result :: older) :
    ∃ call, Entry.start id call ∈ older ∧ G.result call (historyOf id older) result := by
  induction h generalizing newer with
  | initial h => simp at htrace
  | step h hstep ih =>
    cases newer with
    | nil =>
      cases hstep with
      | finish thread =>
        obtain ⟨hentry, rfl⟩ := List.cons.inj htrace
        obtain ⟨rfl, rfl⟩ := Entry.finish.inj hentry
        exact h.always G thread
      | _ => exact absurd (List.cons.inj htrace).1 (by simp)
    | cons entry newer => cases hstep <;> exact ih (List.cons.inj htrace).2

/-- What a call performed was allowed by the guarantee at the history it had then. -/
theorem Reachable.performed (h : Reachable M pool) (G : Guarantee M) {id : ℕ} {event : Event S}
    {newer older : Trace S M.Call M.Result}
    (htrace : pool.trace = newer ++ .event id event :: older) :
    ∃ call, Entry.start id call ∈ older ∧ G.op call (historyOf id older) event.op := by
  induction h generalizing newer with
  | initial h => simp at htrace
  | step h hstep ih =>
    cases newer with
    | nil =>
      cases hstep with
      | event thread step =>
        obtain ⟨hentry, rfl⟩ := List.cons.inj htrace
        obtain ⟨rfl, rfl⟩ := Entry.event.inj hentry
        obtain ⟨call, hcall, halways⟩ := h.always G thread
        exact ⟨call, hcall, halways.1⟩
      | _ => exact absurd (List.cons.inj htrace).1 (by simp)
    | cons entry newer => cases hstep <;> exact ih (List.cons.inj htrace).2

/-- A call has seen nothing before it starts. -/
theorem Reachable.historyOf_before_start (h : Reachable M pool) {id : ℕ} {call : M.Call}
    {newer older : Trace S M.Call M.Result}
    (htrace : pool.trace = newer ++ .start id call :: older) :
    historyOf id older = [] := by
  induction h generalizing newer with
  | initial h => simp at htrace
  | step h hstep ih =>
    cases newer with
    | nil =>
      cases hstep with
      | start call' fresh =>
        obtain ⟨hentry, rfl⟩ := List.cons.inj htrace
        obtain ⟨rfl, -⟩ := Entry.start.inj hentry
        exact h.historyOf_eq_nil fresh
      | _ => exact absurd (List.cons.inj htrace).1 (by simp)
    | cons entry newer => cases hstep <;> exact ih (List.cons.inj htrace).2

/-- A call that guarantees nothing. -/
theorem Program.always_true {α : Type} (p : Program S α) (h : History S) :
    Program.Always (fun _ _ => True) (fun _ _ => True) h p := by
  induction p generalizing h with
  | done value => trivial
  | perform op next ih => exact ⟨trivial, fun reply => ih reply _⟩

/-- The guarantee every machine keeps. -/
def Guarantee.trivial (M : Machine S) : Guarantee M :=
  ⟨fun _ _ _ => True, fun _ _ _ => True, fun _ => Program.always_true _ _⟩

/-- An identifier belongs to one call. -/
theorem Reachable.start_unique (h : Reachable M pool) {id : ℕ} {call call' : M.Call}
    (hcall : Entry.start id call ∈ pool.trace) (hcall' : Entry.start id call' ∈ pool.trace) :
    call = call' := by
  refine h.invariant (Guarantee.trivial M) (I := fun _ trace => ∀ call call',
    Entry.start id call ∈ trace → Entry.start id call' ∈ trace → call = call')
    (fun _ _ _ _ hmem => absurd hmem List.not_mem_nil) ?_ ?_ ?_ ?_ ?_ ?_ call call' hcall hcall'
  · intro pool id' call _ ih fresh call₁ call₂ h₁ h₂
    rcases List.mem_cons.mp h₁ with h₁ | h₁ <;> rcases List.mem_cons.mp h₂ with h₂ | h₂
    · rw [Entry.start.injEq] at h₁ h₂
      exact h₁.2.trans h₂.2.symm
    · rw [Entry.start.injEq] at h₁
      exact absurd (h₁.1 ▸ h₂) (fresh call₂)
    · rw [Entry.start.injEq] at h₂
      exact absurd (h₂.1 ▸ h₁) (fresh call₁)
    · exact ih _ _ h₁ h₂
  · intro pool id' call op reply world' _ ih _ _ _ _ call₁ call₂ h₁ h₂
    exact ih _ _ (by simpa using h₁) (by simpa using h₂)
  · intro pool id' call result _ ih _ _ call₁ call₂ h₁ h₂
    exact ih _ _ (by simpa using h₁) (by simpa using h₂)
  · intro pool id' _ ih call₁ call₂ h₁ h₂
    exact ih _ _ (by simpa using h₁) (by simpa using h₂)
  · intro pool world' _ ih _ call₁ call₂ h₁ h₂
    exact ih _ _ (by simpa using h₁) (by simpa using h₂)
  · intro pool world' _ ih _ call₁ call₂ h₁ h₂
    exact ih _ _ (by simpa using h₁) (by simpa using h₂)

/-! ### Runs whose steps meet a condition -/

/-- The pools a run can reach by steps that all meet a condition. -/
inductive ReachableBy (M : Machine S) (C : Pool M → Pool M → Prop) : Pool M → Prop
  | initial {world : M.World} (h : M.Initial world) : ReachableBy M C ⟨world, fun _ => none, []⟩
  | step {pool pool' : Pool M} (h : ReachableBy M C pool) (hstep : pool.Step pool')
      (meets : C pool pool') : ReachableBy M C pool'

theorem ReachableBy.reachable {C : Pool M → Pool M → Prop} (h : ReachableBy M C pool) :
    Reachable M pool := by
  induction h with
  | initial h => exact .initial h
  | step h hstep _ ih => exact ih.step hstep

/-- A run whose steps so far all meet the condition. -/
theorem Reachable.by_of {C : Pool M → Pool M → Prop} (h : Reachable M pool)
    (hmeets : ∀ before after, Reachable M before → before.Step after →
      after.trace <:+ pool.trace → C before after) : ReachableBy M C pool := by
  induction h with
  | initial h => exact .initial h
  | @step before after h hstep ih =>
    have hsuffix : before.trace <:+ after.trace := by
      cases hstep <;> exact List.suffix_cons _ _
    refine .step (ih fun before' after' h' hstep' hafter => ?_) hstep ?_
    · exact hmeets before' after' h' hstep' (hafter.trans hsuffix)
    · exact hmeets before after h hstep List.suffix_rfl

/-- The world took the step an event records. -/
theorem Pool.Step.of_event {pool pool' : Pool M} (h : pool.Step pool') {id : ℕ} {event : Event S}
    (htrace : pool'.trace = .event id event :: pool.trace) :
    M.Step pool.world pool.trace.length (historyOf id pool.trace) event pool'.world := by
  cases h with
  | event thread step =>
    obtain ⟨rfl, rfl⟩ := Entry.event.inj (List.cons.inj htrace).1
    exact step
  | _ => cases (List.cons.inj htrace).1

/-- Every entry of such a run was added by a step that met the condition. -/
theorem ReachableBy.stepped {C : Pool M → Pool M → Prop} (h : ReachableBy M C pool)
    {newer older : Trace S M.Call M.Result} {entry : Entry S M.Call M.Result}
    (htrace : pool.trace = newer ++ entry :: older) :
    ∃ before after : Pool M, ReachableBy M C before ∧ before.Step after ∧ C before after ∧
      before.trace = older ∧ after.trace = entry :: older := by
  induction h generalizing newer with
  | initial h => simp at htrace
  | @step before after h hstep meets ih =>
    have hcons : ∃ entry', after.trace = entry' :: before.trace := by
      cases hstep <;> exact ⟨_, rfl⟩
    obtain ⟨entry', hafter⟩ := hcons
    rw [hafter] at htrace
    cases newer with
    | nil =>
      obtain ⟨rfl, rfl⟩ := List.cons.inj htrace
      exact ⟨before, after, h, hstep, meets, rfl, hafter⟩
    | cons _ newer => exact ih (List.cons.inj htrace).2

/-! ### Building a run -/

/-- The operations of one call, performed one after another while no other call acts. -/
inductive Machine.Performs (M : Machine S) :
    M.World → ℕ → History S → List (Event S) → M.World → Prop
  | nil {world : M.World} {time : ℕ} {history : History S} : Performs M world time history [] world
  | cons {world world' world'' : M.World} {time : ℕ} {history : History S} {event : Event S}
      {events : List (Event S)} (step : M.Step world time history event world')
      (rest : Performs M world' (time + 1) (event :: history) events world'') :
      Performs M world time history (event :: events) world''

/-- A run goes on with a call for as long as its program and the world allow. -/
theorem Reachable.run (h : Reachable M pool) {id : ℕ} {p q : Program S M.Result}
    {events : List (Event S)} {world : M.World} (thread : pool.threads id = some p)
    (hreaches : p.Reaches events q)
    (hperforms : M.Performs pool.world pool.trace.length (historyOf id pool.trace) events world) :
    Reachable M ⟨world, pool.setThread id (some q),
      (events.map (Entry.event id)).reverse ++ pool.trace⟩ := by
  induction hreaches generalizing pool with
  | refl p =>
    cases hperforms
    have hthreads : pool.setThread id (some p) = pool.threads := by
      funext id'
      by_cases hid : id' = id
      · rw [hid, Pool.setThread_self, thread]
      · rw [Pool.setThread_of_ne hid]
    rw [hthreads]
    exact h
  | step op next reply _ ih =>
    cases hperforms with
    | cons step rest =>
      have hnext := h.event id op reply thread step
      have hrun := ih hnext Pool.setThread_self (by simpa using rest)
      have hthreads (rest' : Option (Program S M.Result)) (pool' : Pool M)
          (hpool' : pool'.threads = pool.setThread id (some (next reply))) :
          pool'.setThread id rest' = pool.setThread id rest' := by
        funext id'
        by_cases hid : id' = id
        · rw [hid, Pool.setThread_self, Pool.setThread_self]
        · rw [Pool.setThread_of_ne hid, Pool.setThread_of_ne hid, hpool', Pool.setThread_of_ne hid]
      rw [hthreads _ _ rfl] at hrun
      simpa using hrun

/-- A run goes on with a new call, up to and with an operation. -/
theorem Reachable.call (h : Reachable M pool) {id : ℕ} {call : M.Call} {events : List (Event S)}
    {op : S.Op} {reply : S.Reply op} {next : S.Reply op → Program S M.Result} {world : M.World}
    (hfresh : Fresh id pool.trace) (hreaches : (M.body call).Reaches events (.perform op next))
    (hperforms : M.Performs pool.world (pool.trace.length + 1) [] (events ++ [Event.mk op reply])
      world) :
    ∃ pool', Reachable M pool' ∧ pool'.world = world ∧ pool'.trace =
      ((events ++ [Event.mk op reply]).map (Entry.event id)).reverse ++ .start id call ::
      pool.trace := by
  have hhistory : historyOf id (.start id call :: pool.trace) = [] := by
    rw [historyOf_start, h.historyOf_eq_nil hfresh]
  have hnext : (M.body call).Reaches (events ++ [⟨op, reply⟩]) (next reply) :=
    hreaches.trans (.step op next reply (.refl _))
  have hstarted := h.start id call hfresh
  exact ⟨_, hstarted.run Pool.setThread_self hnext (hhistory.symm ▸ hperforms), rfl, rfl⟩

end Interaction
