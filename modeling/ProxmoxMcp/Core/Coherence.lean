import Mathlib
import ProxmoxMcp.Core.GuestIndex
import ProxmoxMcp.Interaction.Pool

/-!
# Coherence of the guest index

The guest index is shared by every call. `IndexState` is its state and `IndexState.Step` what one
atomic operation does to it; `IndexLaws` says that a machine runs the index that way, whatever else
its world holds. `IndexRule` is the discipline the calls keep: a listing is stored only by the call
that fetched it, under the generation read before the fetch, and a snapshot is dropped only by a
call that has just advanced the generation.

The result is about every run of every such machine. A **cached listing is never older than an
invalidation of its cluster**: the generation a fetch began with can be the current one again only
when no invalidation happened in between, or 2^64 of them (`FewInvalidations` excludes the
latter), and an invalidation that happens later drops what was stored.
-/

namespace ProxmoxMcp

open Interaction

/-! ### The shared index -/

/-- One cached listing. -/
structure Snapshot where
  /-- When it was stored. -/
  taken : ℕ
  guests : GuestMap
  /-- The request it was read from. -/
  origin : Origin

/-- The index and the monotonic clock it reads. -/
structure IndexState where
  snapshots : String → Option Snapshot
  generation : UInt64
  now : ℕ

namespace IndexState

variable {state' : IndexState} (state : IndexState)

/-- Read one guest out of a snapshot that has not expired. -/
def lookup (ttl : ℕ) (cluster : String) (vmid : UInt32) : Option (CacheHit vmid) := do
  let snapshot ← state.snapshots cluster
  guard (state.now - snapshot.taken ≤ ttl)
  match hguest : snapshot.guests vmid with
  | some guest => some ⟨guest, snapshot.origin, snapshot.guests.vmid_of_find hguest⟩
  | none => none

/-- Put a snapshot in, or drop one. -/
def set (cluster : String) (snapshot : Option Snapshot) : IndexState :=
  { state with
    snapshots := fun cluster' => if cluster' = cluster then snapshot else state.snapshots cluster' }

/-- The request whose answer a call has just received. -/
def originOf : History Effect → Origin
  | _ :: ⟨.http (.dispatch client _), ticket⟩ :: _ => ⟨client, ticket⟩
  | _ => ⟨"", 0⟩

/-- One atomic operation, performed by a call that has seen the given history. -/
inductive Step (ttl : ℕ) (history : History Effect) :
    (op : IndexOp) → op.Reply → IndexState → IndexState → Prop
  | lookupFresh {state : IndexState} (cluster : String) (vmid : UInt32) :
      Step ttl history (.lookupFresh cluster vmid) (state.lookup ttl cluster vmid) state state
  | loadGeneration {state : IndexState} :
      Step ttl history .loadGeneration state.generation state state
  | stored {state : IndexState} (cluster : String) (guests : GuestMap) :
      Step ttl history (.storeIfCurrent cluster state.generation guests) ()
        state (state.set cluster (some ⟨state.now, guests, originOf history⟩))
  | declined {state : IndexState} (cluster : String) (generation : UInt64) (guests : GuestMap)
      (changed : state.generation ≠ generation) :
      Step ttl history (.storeIfCurrent cluster generation guests) () state state
  | bumpGeneration {state : IndexState} :
      Step ttl history .bumpGeneration () state { state with generation := state.generation + 1 }
  | clearSnapshots {state : IndexState} :
      Step ttl history .clearSnapshots () state { state with snapshots := fun _ => none }
  | removeSnapshot {state : IndexState} (cluster : String) :
      Step ttl history (.removeSnapshot cluster) () state (state.set cluster none)

theorem lookup_eq_some {ttl : ℕ} {cluster : String} {vmid : UInt32} {snapshot : Snapshot}
    {guest : ResolvedGuest} (hsnapshot : state.snapshots cluster = some snapshot)
    (hfresh : state.now - snapshot.taken ≤ ttl) (hguest : snapshot.guests vmid = some guest) :
    state.lookup ttl cluster vmid =
      some ⟨guest, snapshot.origin, snapshot.guests.vmid_of_find hguest⟩ := by
  simp only [lookup, hsnapshot, guard, hfresh, ↓reduceIte, Option.bind_eq_bind, Option.bind_some,
    Option.pure_def]
  split
  · next found hfound =>
    obtain rfl := Option.some.inj (hfound.symm.trans hguest)
    rfl
  · next hnone => simp [hguest] at hnone

/-- A guest found in the index is one of a cached listing. -/
private theorem exists_of_lookup_eq_some {ttl : ℕ} {cluster : String} {vmid : UInt32}
    {hit : CacheHit vmid} (h : state.lookup ttl cluster vmid = some hit) :
    ∃ snapshot, state.snapshots cluster = some snapshot ∧ snapshot.origin = hit.origin ∧
      snapshot.guests vmid = some hit.guest := by
  simp only [lookup, Option.bind_eq_bind, Option.bind_eq_some_iff] at h
  obtain ⟨snapshot, hsnapshot, -, -, hhit⟩ := h
  split at hhit
  · next guest hguest =>
    obtain rfl := Option.some.inj hhit
    exact ⟨snapshot, hsnapshot, rfl, hguest⟩
  · simp at hhit

variable {state}

theorem Step.lookup_eq {ttl : ℕ} {history : History Effect} {cluster : String} {vmid : UInt32}
    {reply : Option (CacheHit vmid)}
    (h : Step ttl history (.lookupFresh cluster vmid) reply state state') :
    reply = state.lookup ttl cluster vmid := by
  cases h
  rfl

end IndexState

/-- The operation drops what the index holds for a cluster. -/
def IndexOp.Drops (cluster : String) : IndexOp → Prop
  | clearSnapshots => True
  | removeSnapshot cluster' => cluster' = cluster
  | _ => False

/-- A machine that runs the guest index. -/
structure IndexLaws (M : Machine Effect) where
  /-- How long a snapshot may be used. -/
  ttl : ℕ
  /-- The index inside the world. -/
  index : M.World → IndexState
  initial : ∀ {world}, M.Initial world → (index world).snapshots = fun _ => none
  stepIndex : ∀ {world time history op reply world'},
    M.Step world time history ⟨.index op, reply⟩ world' →
      (index world).Step ttl history op reply (index world')
  stepOther : ∀ {world time history op reply world'}, (∀ indexOp, op ≠ .index indexOp) →
    M.Step world time history ⟨op, reply⟩ world' → index world' = index world
  /-- A request gets the time at which it was sent as its ticket. -/
  dispatch : ∀ {world time history client request ticket world'},
    M.Step world time history ⟨.http (.dispatch client request), ticket⟩ world' → ticket = time
  /-- Only the clock moves by itself. -/
  move : ∀ {world world'}, M.Move world world' →
    (index world').snapshots = (index world).snapshots ∧
      (index world').generation = (index world).generation
  /-- The index is in memory. -/
  crash : ∀ {world world'}, M.Crash world world' → (index world').snapshots = fun _ => none

/-! ### The generation -/

section Runs

variable {Call Result : Type}

/-- Whether an entry of a run advances the generation. -/
def isBump : Entry Effect Call Result → Bool
  | .event _ ⟨.index .bumpGeneration, _⟩ => true
  | _ => false

/-- How often the generation advances during a stretch of a run. -/
def bumps (trace : Trace Effect Call Result) : ℕ := trace.countP isBump

/-- Fewer than 2^64 invalidations happen between a call's reading the generation and its storing a
listing under it. -/
def FewInvalidations : Trace Effect Call Result → Prop :=
  Throughout fun entry older => ∀ id cluster generation guests mid before,
    entry = .event id ⟨.index (.storeIfCurrent cluster generation guests), ()⟩ →
    older = mid ++ .event id ⟨.index .loadGeneration, generation⟩ :: before →
    (∀ generation', ⟨.index .loadGeneration, generation'⟩ ∉ historyOf id mid) →
    bumps mid < 2 ^ 64

variable {M : Machine Effect} (L : IndexLaws M) {pool : Pool M}

/-- An event advances the generation by one or not at all. -/
theorem IndexLaws.generation_of_step (id : ℕ) {world world' : M.World} {time : ℕ}
    {history : History Effect} {op : Op} {reply : op.Reply}
    (hstep : M.Step world time history ⟨op, reply⟩ world') :
    (L.index world').generation = (L.index world).generation +
      UInt64.ofNat (bumps [(.event id ⟨op, reply⟩ : Entry Effect M.Call M.Result)]) := by
  cases op with
  | index op =>
    have hindex := L.stepIndex hstep
    generalize L.index world = state, L.index world' = state' at hindex ⊢
    cases hindex <;> simp [bumps, isBump, IndexState.set]
  | _ => simp [bumps, isBump, L.stepOther (by simp) hstep]

/-- While a call runs, the generation is the one it read, advanced once for every invalidation
since. -/
theorem IndexLaws.generation_eq (h : Reachable M pool) {id : ℕ} (hlive : Live id pool.trace)
    {mid older : Trace Effect M.Call M.Result} {generation : UInt64}
    (htrace : pool.trace = mid ++ .event id ⟨.index .loadGeneration, generation⟩ :: older) :
    (L.index pool.world).generation = generation + UInt64.ofNat (bumps mid) := by
  let I (world : M.World) (trace : Trace Effect M.Call M.Result) : Prop :=
    ∀ id mid older generation, Live id trace →
      trace = mid ++ .event id ⟨.index .loadGeneration, generation⟩ :: older →
      (L.index world).generation = generation + UInt64.ofNat (bumps mid)
  -- an entry that is not an event leaves the generation alone and does not count
  have hskip {world world' : M.World} {trace : Trace Effect M.Call M.Result}
      {entry : Entry Effect M.Call M.Result} (hI : I world trace)
      (hentry : ∀ id event, entry ≠ .event id event)
      (hlive : ∀ id, historyOf id trace ≠ [] → Live id (entry :: trace) → Live id trace)
      (hindex : ∀ id, Live id (entry :: trace) → historyOf id trace ≠ [] →
        (L.index world').generation = (L.index world).generation) : I world' (entry :: trace) := by
    intro id mid older generation hid heq
    cases mid with
    | nil => exact absurd (List.cons.inj heq).1 (hentry _ _)
    | cons entry' mid =>
      obtain ⟨rfl, htrace⟩ := List.cons.inj heq
      have hseen : historyOf id trace ≠ [] := by simp [htrace]
      rw [hindex id hid hseen, hI id mid older generation (hlive id hseen hid) htrace]
      have : isBump entry = false := by
        cases entry with
        | event id event => exact absurd rfl (hentry id event)
        | _ => rfl
      simp [bumps, this]
  refine h.invariant (Guarantee.trivial M) (I := I) ?_ ?_ ?_ ?_ ?_ ?_ ?_ id mid older generation
    hlive htrace
  · exact fun world _ id mid older generation hlive => hlive.elim
  · intro pool id call hpool hI fresh
    refine hskip hI (by simp) (fun id' hseen hlive => ?_) fun _ _ _ => rfl
    rcases hlive with rfl | hlive
    · exact absurd (hpool.historyOf_eq_nil fresh) hseen
    · exact hlive
  · intro pool id call op reply world' _ hI _ _ _ hstep id' mid older generation hlive heq
    cases mid with
    | nil =>
      obtain ⟨hentry, -⟩ := List.cons.inj heq
      obtain ⟨rfl, hevent⟩ := Entry.event.inj hentry
      obtain ⟨rfl, hreply⟩ := Event.mk.inj hevent
      obtain rfl := eq_of_heq hreply
      have hindex := L.stepIndex hstep
      generalize L.index pool.world = state, L.index world' = state' at hindex ⊢
      cases hindex
      simp [bumps]
    | cons entry mid =>
      obtain ⟨rfl, htrace⟩ := List.cons.inj heq
      rw [L.generation_of_step id hstep, hI id' mid older generation hlive htrace,
        UInt64.add_assoc, ← UInt64.ofNat_add, Nat.add_comm, bumps, bumps, bumps,
        ← List.countP_append, List.singleton_append]
  · exact fun pool id call result _ hI _ _ =>
      hskip hI (by simp) (fun _ _ hlive => hlive.2) fun _ _ _ => rfl
  · exact fun pool id _ hI => hskip hI (by simp) (fun _ _ hlive => hlive.2) fun _ _ _ => rfl
  · exact fun pool world' _ hI hmove =>
      hskip hI (by simp) (fun _ _ hlive => hlive) fun _ _ _ => (L.move hmove).2
  · exact fun pool world' _ hI _ =>
      hskip hI (by simp) (fun _ _ hlive => hlive.elim) fun _ hlive _ => hlive.elim

/-- The ticket of a request is the time at which it was sent. -/
theorem IndexLaws.ticket_eq (L : IndexLaws M) (h : Reachable M pool) {id ticket : ℕ}
    {client : String} {request : ApiRequest} {newer older : Trace Effect M.Call M.Result}
    (htrace : pool.trace = newer ++ .event id ⟨.http (.dispatch client request), ticket⟩ :: older) :
    ticket = older.length := by
  let P (entry : Entry Effect M.Call M.Result) (older : Trace Effect M.Call M.Result) : Prop :=
    ∀ id client request ticket,
      entry = .event id ⟨.http (.dispatch client request), ticket⟩ → ticket = older.length
  have hall : Throughout P pool.trace := by
    refine h.invariant (Guarantee.trivial M) (I := fun _ trace => Throughout P trace)
      (fun _ _ => trivial) ?_ ?_ ?_ ?_ ?_ ?_
    · exact fun _ _ _ _ hI _ => ⟨by simp [P], hI⟩
    · intro pool id call op reply world' _ hI _ _ _ hstep
      refine ⟨fun id' client request ticket hentry => ?_, hI⟩
      obtain ⟨-, hevent⟩ := Entry.event.inj hentry
      obtain ⟨rfl, hreply⟩ := Event.mk.inj hevent
      obtain rfl := eq_of_heq hreply
      exact L.dispatch hstep
    · exact fun _ _ _ _ _ hI _ _ => ⟨by simp [P], hI⟩
    · exact fun _ _ _ hI => ⟨by simp [P], hI⟩
    · exact fun _ _ _ hI _ => ⟨by simp [P], hI⟩
    · exact fun _ _ _ hI _ => ⟨by simp [P], hI⟩
  exact throughout_iff.mp hall _ _ _ htrace _ _ _ _ rfl

/-! ### Coherence -/

/-- An invalidation that drops the listing of a cluster has advanced the generation at `time` and
has dropped the listing since. -/
def Invalidated (cluster : String) (time : ℕ) (trace : Trace Effect Call Result) : Prop :=
  ∃ newer mid older id op reply,
    trace = newer ++ .event id ⟨.index op, reply⟩ ::
      (mid ++ .event id ⟨.index .bumpGeneration, ()⟩ :: older) ∧
    op.Drops cluster ∧ older.length = time

theorem Invalidated.lt_length {cluster : String} {time : ℕ} {trace : Trace Effect Call Result}
    (h : Invalidated cluster time trace) : time < trace.length := by
  obtain ⟨newer, mid, older, id, op, reply, rfl, -, rfl⟩ := h
  simp only [List.length_append, List.length_cons]
  omega

theorem Invalidated.of_suffix {cluster : String} {time : ℕ}
    {trace trace' : Trace Effect Call Result}
    (h : Invalidated cluster time trace) (hsuffix : trace <:+ trace') :
    Invalidated cluster time trace' := by
  obtain ⟨newer, mid, older, id, op, reply, rfl, hdrops, htime⟩ := h
  obtain ⟨newest, rfl⟩ := hsuffix
  exact ⟨newest ++ newer, mid, older, id, op, reply, (List.append_assoc _ _ _).symm, hdrops, htime⟩

/-- An entry that drops nothing adds no invalidation. -/
theorem Invalidated.of_cons {cluster : String} {time : ℕ} {entry : Entry Effect Call Result}
    {trace : Trace Effect Call Result} (h : Invalidated cluster time (entry :: trace))
    (hentry : ∀ id op reply, entry = .event id ⟨.index op, reply⟩ → ¬ op.Drops cluster) :
    Invalidated cluster time trace := by
  obtain ⟨newer, mid, older, id, op, reply, heq, hdrops, htime⟩ := h
  cases newer with
  | nil => exact absurd hdrops (hentry id op reply (List.cons.inj heq).1)
  | cons _ newer => exact ⟨newer, mid, older, id, op, reply, (List.cons.inj heq).2, hdrops, htime⟩

/-- A stretch of a run without a bump leaves every bump before its beginning. -/
private theorem length_lt_of_bumps_eq_zero {newer older mid before : Trace Effect Call Result}
    {bump entry : Entry Effect Call Result} (hbump : isBump bump = true)
    (hentry : isBump entry = false) (hmid : bumps mid = 0)
    (heq : newer ++ bump :: older = mid ++ entry :: before) : older.length < before.length := by
  have hne : bump ≠ entry := by
    rintro rfl
    simp [hbump] at hentry
  rcases List.append_eq_append_iff.mp heq with ⟨c, hc, heq⟩ | ⟨c, hc, heq⟩
  · cases c with
    | nil => exact absurd (List.cons.inj heq).1 hne
    | cons first c =>
      -- the bump would lie inside the stretch
      obtain ⟨rfl, -⟩ := List.cons.inj heq
      have := List.countP_eq_zero.mp hmid bump (by simp [hc])
      simp [hbump] at this
  · cases c with
    | nil => exact absurd (List.cons.inj heq).1.symm hne
    | cons first c =>
      have := congrArg List.length (List.cons.inj heq).2
      simp at this
      omega

/-- A listing that may be stored was asked for after every invalidation so far. -/
theorem IndexLaws.lt_ticket (L : IndexLaws M) (h : Reachable M pool) {id ticket : ℕ}
    (hlive : Live id pool.trace) {cluster : String} {guests : GuestMap} {request : ApiRequest}
    {answer : Event Effect} {rest : History Effect}
    (hhistory : historyOf id pool.trace = answer :: ⟨.http (.dispatch cluster request), ticket⟩ ::
      ⟨.index .loadGeneration, (L.index pool.world).generation⟩ :: rest)
    (hanswer : ∀ generation, answer ≠ ⟨.index .loadGeneration, generation⟩)
    (few : FewInvalidations (.event id ⟨.index (.storeIfCurrent cluster
      (L.index pool.world).generation guests), ()⟩ :: pool.trace))
    {newer older : Trace Effect M.Call M.Result} {entry : Entry Effect M.Call M.Result}
    (hbump : isBump entry = true) (htrace : pool.trace = newer ++ entry :: older) :
    older.length < ticket := by
  obtain ⟨sent, before, hsent, hsentHistory, hbefore⟩ :=
    exists_split_of_historyOf [answer] hhistory
  obtain ⟨loaded, start, rfl, hloadedHistory, -⟩ :=
    exists_split_of_historyOf [] hbefore
  have hticket := L.ticket_eq h hsent
  have hmid : pool.trace = (sent ++ .event id ⟨.http (.dispatch cluster request), ticket⟩ :: loaded)
      ++ .event id ⟨.index .loadGeneration, (L.index pool.world).generation⟩ :: start := by
    simp [hsent]
  -- the guard compares with the generation the call itself has read
  have hfew := few.1 id cluster _ guests _ start rfl hmid fun generation hmem => by
    simp only [historyOf_append, historyOf_event_self, hsentHistory, hloadedHistory,
      List.mem_append, List.mem_singleton] at hmem
    rcases hmem with hmem | hmem
    · exact hanswer generation hmem.symm
    · cases hmem
  have hgeneration := L.generation_eq h hlive hmid
  -- the generation is what it was, and there were too few bumps for it to come round
  have hzero : bumps (sent ++ .event id ⟨.http (.dispatch cluster request), ticket⟩ :: loaded) =
      0 := by
    have hofNat := congrArg UInt64.toNat hgeneration
    rw [UInt64.toNat_add, UInt64.toNat_ofNat'] at hofNat
    have := (L.index pool.world).generation.toNat_lt
    omega
  have := length_lt_of_bumps_eq_zero hbump rfl hzero (htrace.symm.trans hmid)
  simp only [List.length_append, List.length_cons] at hticket
  omega

variable [Externals]

/-- A listing of the run: a cluster's client sent the request for it, and the answer reads as these
guests. -/
def Listing (trace : Trace Effect Call Result) (origin : Origin) (guests : GuestMap) : Prop :=
  ∃ id response data,
    .event id ⟨.http (.dispatch origin.client listingRequest), origin.began⟩ ∈ trace ∧
    .event id ⟨.http (.await origin.began), .ok response⟩ ∈ trace ∧
    ProxmoxClient.readAnswer response = .ok data ∧ readGuests origin.client data = .ok guests

theorem Listing.cons {trace : Trace Effect Call Result} {origin : Origin} {guests : GuestMap}
    (h : Listing trace origin guests) (entry : Entry Effect Call Result) :
    Listing (entry :: trace) origin guests := by
  obtain ⟨id, response, data, hsent, hanswer, hread⟩ := h
  exact ⟨id, response, data, .tail _ hsent, .tail _ hanswer, hread⟩

/-- A snapshot was fetched for the cluster it is cached for, after every invalidation of it. -/
structure UpToDate (cluster : String) (snapshot : Snapshot) (trace : Trace Effect Call Result) :
    Prop where
  client : snapshot.origin.client = cluster
  listing : Listing trace snapshot.origin snapshot.guests
  since : ∀ time, Invalidated cluster time trace → time < snapshot.origin.began

/-- Every cached listing is up to date. -/
def Coherent (state : IndexState) (trace : Trace Effect Call Result) : Prop :=
  ∀ cluster snapshot, state.snapshots cluster = some snapshot → UpToDate cluster snapshot trace

/-- A snapshot stays up to date while nothing of its cluster is dropped. -/
theorem UpToDate.cons {cluster : String} {snapshot : Snapshot}
    {trace : Trace Effect Call Result} (h : UpToDate cluster snapshot trace)
    {entry : Entry Effect Call Result}
    (hentry : ∀ id op reply, entry = .event id ⟨.index op, reply⟩ → ¬ op.Drops cluster) :
    UpToDate cluster snapshot (entry :: trace) :=
  ⟨h.client, h.listing.cons entry, fun time hinv => h.since time (hinv.of_cons hentry)⟩

/-- What is cached stays coherent under an entry that drops nothing. -/
theorem Coherent.cons {state state' : IndexState} {trace : Trace Effect Call Result}
    (h : Coherent state trace) (hsnapshots : state'.snapshots = state.snapshots)
    {entry : Entry Effect Call Result}
    (hentry : ∀ id op reply, entry = .event id ⟨.index op, reply⟩ → ∀ cluster, ¬ op.Drops cluster) :
    Coherent state' (entry :: trace) := fun cluster snapshot hsnapshot =>
  (h cluster snapshot (hsnapshots ▸ hsnapshot)).cons fun id op reply heq => hentry id op reply heq _

/-- One operation on the index keeps it coherent. -/
theorem IndexLaws.coherent_index (L : IndexLaws M) (h : Reachable M pool) {id : ℕ}
    (hlive : Live id pool.trace) {op : IndexOp} {reply : op.Reply} {state' : IndexState}
    (hrule : IndexRule (historyOf id pool.trace) op)
    (hstep : (L.index pool.world).Step L.ttl (historyOf id pool.trace) op reply state')
    (few : FewInvalidations (.event id ⟨.index op, reply⟩ :: pool.trace))
    (hI : Coherent (L.index pool.world) pool.trace) :
    Coherent state' (.event id ⟨.index op, reply⟩ :: pool.trace) := by
  generalize hstate : L.index pool.world = state at hstep hI
  cases hstep with
  | lookupFresh cluster vmid => exact hI.cons rfl (by rintro _ _ _ ⟨⟩ _; exact not_false)
  | loadGeneration => exact hI.cons rfl (by rintro _ _ _ ⟨⟩ _; exact not_false)
  | bumpGeneration => exact hI.cons rfl (by rintro _ _ _ ⟨⟩ _; exact not_false)
  | declined => exact hI.cons rfl (by rintro _ _ _ ⟨⟩ _; exact not_false)
  | clearSnapshots =>
    intro cluster snapshot hsnapshot
    simp at hsnapshot
  | removeSnapshot cluster =>
    intro cluster' snapshot hsnapshot
    by_cases hne : cluster' = cluster
    · simp [IndexState.set, hne] at hsnapshot
    · refine (hI cluster' snapshot (by simpa [IndexState.set, hne] using hsnapshot)).cons ?_
      rintro _ _ _ ⟨⟩
      exact Ne.symm hne
  | stored cluster guests =>
    intro cluster' snapshot hsnapshot
    by_cases hne : cluster' = cluster
    · subst hne
      obtain ⟨ticket, response, data, older, hhistory, hread, hguests⟩ := hrule
      obtain rfl : _ = snapshot := by simpa [IndexState.set] using hsnapshot
      have hlisting : Listing pool.trace ⟨cluster', ticket⟩ guests :=
        ⟨id, response, data, mem_historyOf_iff.mp (by simp [hhistory]),
          mem_historyOf_iff.mp (by simp [hhistory]), hread, hguests⟩
      simp only [hhistory, IndexState.originOf]
      refine ⟨rfl, hlisting.cons _, fun time hinvalidated => ?_⟩
      -- an invalidation that returned before bumped the generation before
      obtain ⟨newer, mid, before, id', op, reply, htrace, -, rfl⟩ :=
        hinvalidated.of_cons (by rintro _ _ _ ⟨⟩; exact not_false)
      subst hstate
      have hbump : pool.trace = (newer ++ .event id' ⟨.index op, reply⟩ :: mid) ++
          .event id' ⟨.index .bumpGeneration, ()⟩ :: before := by simp [htrace]
      -- the generation is unchanged, so the listing was asked for after the bump
      exact L.lt_ticket h hlive hhistory (by rintro _ ⟨⟩) few rfl hbump
    · refine (hI cluster' snapshot (by simpa [IndexState.set, hne] using hsnapshot)).cons ?_
      rintro _ _ _ ⟨⟩
      exact not_false

/-- **The index is coherent** in every run of every machine whose calls keep to `IndexRule`. -/
theorem IndexLaws.coherent (L : IndexLaws M) (G : Guarantee M)
    (hG : ∀ call history op, G.op call history (.index op) → IndexRule history op)
    (h : Reachable M pool) (few : FewInvalidations pool.trace) :
    Coherent (L.index pool.world) pool.trace := by
  refine h.invariant G (I := fun world trace => FewInvalidations trace →
    Coherent (L.index world) trace) ?_ ?_ ?_ ?_ ?_ ?_ ?_ few
  · intro world hinitial _ cluster snapshot hsnapshot
    simp [L.initial hinitial] at hsnapshot
  · exact fun _ _ _ _ hI _ few => (hI few.2).cons rfl (by simp)
  · intro pool id call op reply world' hpool hI hcall hlive hop hstep few
    cases op with
    | index op =>
      exact L.coherent_index hpool hlive (hG call _ op hop) (L.stepIndex hstep) few (hI few.2)
    | _ => exact (hI few.2).cons (congrArg _ (L.stepOther (by simp) hstep)) (by simp)
  · exact fun _ _ _ _ _ hI _ _ few => (hI few.2).cons rfl (by simp)
  · exact fun _ _ _ hI few => (hI few.2).cons rfl (by simp)
  · exact fun _ _ _ hI hmove few => (hI few.2).cons (L.move hmove).1 (by simp)
  · intro pool world' _ _ hcrash _ cluster snapshot hsnapshot
    simp [L.crash hcrash] at hsnapshot

/-- A later view of a listing is a view of the same listing. -/
theorem Listing.of_suffix {trace trace' : Trace Effect Call Result} {origin : Origin}
    {guests : GuestMap} (h : Listing trace origin guests) (hsuffix : trace <:+ trace') :
    Listing trace' origin guests := by
  obtain ⟨id, response, data, hsent, hanswer, hread⟩ := h
  exact ⟨id, response, data, hsuffix.subset hsent, hsuffix.subset hanswer, hread⟩

/-- A guest read from the cache stands in an up-to-date listing. -/
theorem IndexLaws.hit_upToDate (L : IndexLaws M) (G : Guarantee M)
    (hG : ∀ call history op, G.op call history (.index op) → IndexRule history op)
    (h : Reachable M pool) (few : FewInvalidations pool.trace) {id : ℕ} {cluster : String}
    {vmid : UInt32} {hit : CacheHit vmid} {newer older : Trace Effect M.Call M.Result}
    (htrace : pool.trace =
      newer ++ .event id ⟨.index (.lookupFresh cluster vmid), some hit⟩ :: older) :
    ∃ snapshot, UpToDate cluster snapshot older ∧ snapshot.origin = hit.origin ∧
      snapshot.guests vmid = some hit.guest := by
  induction h generalizing newer with
  | initial h => simp at htrace
  | step h hstep ih =>
    cases newer with
    | cons entry newer => cases hstep <;> exact ih few.2 (List.cons.inj htrace).2
    | nil =>
      cases hstep with
      | @event id op next reply world hthread hstep =>
        obtain ⟨hentry, rfl⟩ := List.cons.inj htrace
        obtain ⟨rfl, hevent⟩ := Entry.event.inj hentry
        obtain ⟨rfl, hreply⟩ := Event.mk.inj hevent
        obtain rfl := eq_of_heq hreply
        have hcoherent := L.coherent G hG h few.2
        have hlookup := (L.stepIndex hstep).lookup_eq
        obtain ⟨snapshot, hsnapshot, horigin, hguest⟩ :=
          IndexState.exists_of_lookup_eq_some _ hlookup.symm
        exact ⟨snapshot, hcoherent cluster snapshot hsnapshot, horigin, hguest⟩
      | _ => exact absurd (List.cons.inj htrace).1 (by simp)

/-- **What a lookup is answered from**: a listing of its own cluster, asked for after every
invalidation of that cluster that was over when the lookup began. -/
theorem IndexLaws.answered_upToDate (L : IndexLaws M) (G : Guarantee M)
    (hG : ∀ call history op, G.op call history (.index op) → IndexRule history op)
    (h : Reachable M pool) (few : FewInvalidations pool.trace) {id : ℕ} {cluster : String}
    {vmid : UInt32} {before after later : History Effect} {origin : Origin}
    {guest : Option ResolvedGuest} (hanswered : Answered cluster vmid before after origin guest)
    (hafter : historyOf id pool.trace = later ++ after)
    {newer older : Trace Effect M.Call M.Result} (htrace : pool.trace = newer ++ older)
    (holder : historyOf id older <:+ before) :
    origin.client = cluster ∧
      (∃ guests, Listing pool.trace origin guests ∧ guests vmid = guest) ∧
      ∀ time, Invalidated cluster time older → time < origin.began := by
  cases hanswered with
  | cached hit =>
    obtain ⟨newer', older', htrace', -, hbefore⟩ := exists_split_of_historyOf _ hafter
    obtain ⟨snapshot, hfresh, horigin, hguest⟩ := L.hit_upToDate G hG h few htrace'
    have hsuffix := suffix_of_historyOf (htrace'.symm.trans htrace) (hbefore ▸ holder.length_le)
    have holder' : older' <:+ pool.trace := ⟨_, by rw [htrace', List.append_cons]⟩
    rw [← horigin]
    exact ⟨hfresh.client, ⟨_, hfresh.listing.of_suffix holder', hguest⟩,
      fun time hinvalidated => hfresh.since time (hinvalidated.of_suffix hsuffix)⟩
  | @fetched generation ticket response data guests hread hparsed =>
    have hseen {event : Event Effect} (hmem : event ∈ historyOf id pool.trace) :
        Entry.event id event ∈ pool.trace := mem_historyOf_iff.mp hmem
    refine ⟨rfl, ⟨guests, ⟨id, response, data, hseen (by simp [hafter]), hseen (by simp [hafter]),
      hread, hparsed⟩, rfl⟩, fun time hinvalidated => ?_⟩
    obtain ⟨newer', older', htrace', -, hbefore⟩ :=
      exists_split_of_historyOf (later ++ [_, _]) (by simpa using hafter)
    have hsuffix := suffix_of_historyOf (htrace'.symm.trans htrace)
      (by simpa [hbefore] using holder.length_le.trans (by omega))
    have hticket := L.ticket_eq h htrace'
    exact hticket ▸ hinvalidated.lt_length.trans_le hsuffix.length_le

end Runs

end ProxmoxMcp
