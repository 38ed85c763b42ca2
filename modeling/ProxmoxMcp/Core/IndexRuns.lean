import ProxmoxMcp.Core.Coherence

/-!
# Runs of the guest index

The index on its own: any number of `resolve`, `invalidate` and `invalidateCluster` calls on any
clusters and guests, interleaved in any order, each request answered after any time with any
answer. `resolve_upToDate` says what a resolution that starts after an invalidation of its cluster
has returned is answered from. It asks for `FewInvalidations`, and `resolve_stale_after_wraparound`
shows why: after exactly 2^64 invalidations the 64-bit generation is what it was.
-/

namespace ProxmoxMcp

open Interaction Program

section Calls

variable [Externals]

/-- The calls on the guest index. -/
inductive IndexCall where
  | resolve (client : ProxmoxClient) (vmid : UInt32)
  | invalidate
  | invalidateCluster (cluster : String)

namespace IndexCall

/-- What a call does. -/
def body : IndexCall → Program Effect (Except ProxmoxError (Option ResolvedGuest))
  | resolve client vmid => (some <$> ProxmoxMcp.resolve client client.name vmid).run
  | invalidate => (do ProxmoxMcp.invalidate; return none : ClientM _).run
  | invalidateCluster cluster =>
    (do ProxmoxMcp.invalidateCluster cluster; return none : ClientM _).run

/-- The call drops what the index holds for a cluster. -/
def Invalidates (cluster : String) : IndexCall → Prop
  | resolve _ _ => False
  | invalidate => True
  | invalidateCluster cluster' => cluster' = cluster

/-- What a call has seen when it returns. -/
def Returns : IndexCall → History Effect → Except ProxmoxError (Option ResolvedGuest) → Prop
  | resolve client vmid, history, result => ∃ outcome : Except ProxmoxError ResolvedGuest,
      result = some <$> outcome ∧ Resolved client.name vmid [] history outcome
  | invalidate, history, _ =>
      history = [⟨.index .clearSnapshots, ()⟩, ⟨.index .bumpGeneration, ()⟩]
  | invalidateCluster cluster, history, _ =>
      history = [⟨.index (.removeSnapshot cluster), ()⟩, ⟨.index .bumpGeneration, ()⟩]

/-- Every call keeps to the rule of the index. -/
theorem always_body (call : IndexCall) :
    Always (Quiet fun _ _ _ => True) (Returns call) [] (body call) := by
  cases call with
  | resolve client vmid =>
    refine Always.run_bind (always_resolve client vmid trivial) (fun h' guest hguest => ?_)
      fun h' error herror => ?_
    · exact ⟨.ok guest, rfl, hguest⟩
    · exact ⟨.error error, rfl, herror⟩
  | invalidate => exact ⟨trivial, fun _ => ⟨⟨_, rfl⟩, fun _ => rfl⟩⟩
  | invalidateCluster cluster => exact ⟨trivial, fun _ => ⟨⟨_, rfl⟩, fun _ => rfl⟩⟩

end IndexCall

/-- One operation of a call: on the index it acts, and a request is answered with anything. -/
inductive IndexMachine.Step (ttl : ℕ) (state : IndexState) (time : ℕ) (history : History Effect) :
    Event Effect → IndexState → Prop
  | index {op : IndexOp} {reply : op.Reply} {state' : IndexState}
      (h : state.Step ttl history op reply state') :
      Step ttl state time history ⟨.index op, reply⟩ state'
  | dispatch (client : String) (request : ApiRequest) :
      Step ttl state time history ⟨.http (.dispatch client request), time⟩ state
  | await (ticket : ℕ) (reply : Except HttpError HttpResponse) :
      Step ttl state time history ⟨.http (.await ticket), reply⟩ state

/-- The guest index alone. -/
abbrev indexMachine (ttl : ℕ) : Machine Effect where
  World := IndexState
  Call := IndexCall
  Result := Except ProxmoxError (Option ResolvedGuest)
  body := IndexCall.body
  Initial state := state.snapshots = (fun _ => none) ∧ state.generation = 0
  Step := IndexMachine.Step ttl
  Move state state' := state.now ≤ state'.now ∧ state' = { state with now := state'.now }
  Crash _ state' := state'.snapshots = (fun _ => none) ∧ state'.generation = 0

/-- A run of the index. -/
abbrev IndexTrace := Trace Effect IndexCall (Except ProxmoxError (Option ResolvedGuest))

/-- The calls on the index keep their guarantee. -/
def indexGuarantee (ttl : ℕ) : Guarantee (indexMachine ttl) where
  op _ := Quiet fun _ _ _ => True
  result := IndexCall.Returns
  keeps := IndexCall.always_body

private theorem indexRule_of_indexGuarantee {ttl : ℕ} (call : IndexCall) (history : History Effect)
    (op : IndexOp) (hop : (indexGuarantee ttl).op call history (.index op)) :
    IndexRule history op := by
  change Quiet (fun _ _ _ => True) history (.index op) at hop
  exact hop.indexRule

/-- The index alone is run as an index. -/
def indexLaws (ttl : ℕ) : IndexLaws (indexMachine ttl) where
  ttl := ttl
  index := id
  initial h := h.1
  stepIndex h := by
    cases h with
    | index h => exact h
  stepOther h hstep := by
    cases hstep with
    | index => exact absurd rfl (h _)
    | _ => rfl
  dispatch h := by
    cases h
    rfl
  move h := by
    rw [h.2]
    exact ⟨rfl, rfl⟩
  crash h := h.1

/-- Where the listing came from that answered the resolution with this history. -/
def answeredFrom : History Effect → Option Origin
  | ⟨.index (.lookupFresh _ _), hit⟩ :: _ => hit.map CacheHit.origin
  | ⟨.index (.storeIfCurrent _ _ _), _⟩ :: ⟨.http (.await ticket), _⟩ ::
      ⟨.http (.dispatch client _), _⟩ :: _ => some ⟨client, ticket⟩
  | _ => none

theorem Answered.answeredFrom_eq {cluster : String} {vmid : UInt32} {before after : History Effect}
    {origin : Origin} {guest : Option ResolvedGuest}
    (h : Answered cluster vmid before after origin guest) : answeredFrom after = some origin := by
  cases h <;> rfl

/-- The call `id` advanced the generation at `time`. -/
def BumpedAt {Call Result : Type} (id time : ℕ) (trace : Trace Effect Call Result) : Prop :=
  ∃ newer older, trace = newer ++ .event id ⟨.index .bumpGeneration, ()⟩ :: older ∧
    older.length = time

/-- A finished invalidation has advanced the generation and dropped the listing. -/
private theorem invalidated_of_finish {ttl : ℕ} {pool : Pool (indexMachine ttl)}
    (h : Reachable (indexMachine ttl) pool) {cluster : String} {id : ℕ} {call : IndexCall}
    (hcall : call.Invalidates cluster) (hstart : .start id call ∈ pool.trace)
    {result : Except ProxmoxError (Option ResolvedGuest)}
    (hfinish : .finish id result ∈ pool.trace) :
    ∃ time, BumpedAt id time pool.trace ∧ Invalidated cluster time pool.trace := by
  obtain ⟨newer, older, htrace⟩ := List.append_of_mem hfinish
  obtain ⟨call', hcall', hreturns⟩ := h.finished (indexGuarantee ttl) htrace
  obtain rfl := h.start_unique hstart (htrace ▸ List.mem_append_right _ (.tail _ hcall'))
  obtain ⟨op, reply, hhistory, hdrops⟩ : ∃ (op : IndexOp) (reply : op.Reply),
      historyOf id older = [⟨.index op, reply⟩, ⟨.index .bumpGeneration, ()⟩] ∧
        op.Drops cluster := by
    cases call with
    | resolve => exact hcall.elim
    | invalidate => exact ⟨_, _, hreturns, trivial⟩
    | invalidateCluster cluster' => exact ⟨_, _, hreturns, hcall⟩
  obtain ⟨after, before, rfl, -, hbefore⟩ := exists_split_of_historyOf [] hhistory
  obtain ⟨mid, oldest, rfl, -, -⟩ := exists_split_of_historyOf [] hbefore
  exact ⟨oldest.length,
    ⟨newer ++ .finish id result :: (after ++ .event id ⟨.index op, reply⟩ :: mid), oldest,
      by simp [htrace], rfl⟩,
    newer ++ .finish id result :: after, mid, oldest, id, op, reply, by simp [htrace], hdrops, rfl⟩

/-- What a listing says about a guest, as the answer of a resolution. -/
def Says (guests : GuestMap) (vmid : UInt32) : Except ProxmoxError (Option ResolvedGuest) → Prop
  | .ok (some guest) => guests vmid = some guest
  | .error (.notFound _) => guests vmid = none
  | _ => False

/-- Every resolution of a run that was answered at all was answered from a listing of its own
cluster, and the fetch of that listing began after every invalidation of the cluster that had
returned before the resolution started. -/
def ResolvesUpToDate (trace : IndexTrace) : Prop :=
  ∀ (later newer older : IndexTrace) id client vmid result,
    trace = later ++ .finish id result :: (newer ++ .start id (.resolve client vmid) :: older) →
    (∀ error, result = .error error → ∃ what, error = .notFound what) →
    ∃ origin guests, answeredFrom (historyOf id newer) = some origin ∧
      origin.client = client.name ∧ Listing trace origin guests ∧ Says guests vmid result ∧
      ∀ id' call result', call.Invalidates client.name → .start id' call ∈ older →
        .finish id' result' ∈ older → ∃ time, BumpedAt id' time older ∧ time < origin.began

/-- A resolution that starts after an invalidation of its cluster has returned is never answered
from a listing whose fetch began before that invalidation, nor from another cluster's. -/
theorem resolve_upToDate {ttl : ℕ} {pool : Pool (indexMachine ttl)}
    (h : Reachable (indexMachine ttl) pool) (few : FewInvalidations pool.trace) :
    ResolvesUpToDate pool.trace := by
  intro later newer older id client vmid result htrace hanswer
  have hsuffix : newer ++ .start id (.resolve client vmid) :: older <:+ pool.trace :=
    ⟨later ++ [.finish id result], by simp [htrace]⟩
  -- the run up to the return, and the run up to the start
  obtain ⟨returned, hreturned, hreturnedTrace⟩ := h.of_suffix hsuffix
  have holder : older <:+ newer ++ .start id (.resolve client vmid) :: older :=
    ⟨newer ++ [.start id (.resolve client vmid)], by simp⟩
  obtain ⟨started, hstarted, rfl⟩ := h.of_suffix (holder.trans hsuffix)
  have hnil := hreturned.historyOf_before_start hreturnedTrace
  have hhistory : historyOf id returned.trace = historyOf id newer := by
    simp [hreturnedTrace, hnil]
  obtain ⟨call, hcall, hreturns⟩ := h.finished (indexGuarantee ttl) htrace
  obtain rfl : call = .resolve client vmid :=
    hreturned.start_unique (hreturnedTrace ▸ hcall) (by simp [hreturnedTrace])
  obtain ⟨outcome, rfl, hresolved⟩ := hreturns
  rw [← hreturnedTrace, hhistory] at hresolved
  -- not found is an answer as well
  obtain ⟨origin, guest, hanswered, hsays⟩ : ∃ origin guest,
      Answered client.name vmid [] (historyOf id newer) origin guest ∧
        ∀ guests : GuestMap, guests vmid = guest → Says guests vmid (some <$> outcome) := by
    cases outcome with
    | ok guest =>
      obtain ⟨origin, hanswered⟩ := hresolved
      exact ⟨origin, _, hanswered, fun guests hguest => hguest⟩
    | error error =>
      obtain ⟨what, rfl⟩ := hanswer error rfl
      obtain ⟨-, origin, hanswered⟩ := hresolved
      exact ⟨origin, _, hanswered, fun guests hguest => hguest⟩
  obtain ⟨hclient, ⟨guests, hlisting, hguest⟩, hsince⟩ :=
    (indexLaws ttl).answered_upToDate (indexGuarantee ttl) indexRule_of_indexGuarantee hreturned
      (hreturnedTrace ▸ (htrace ▸ few).of_append.2) hanswered
      (hhistory.trans (List.nil_append _).symm) (hreturnedTrace.trans (List.append_cons _ _ _))
      (by simp [hnil])
  refine ⟨origin, guests, hanswered.answeredFrom_eq, hclient,
    hlisting.of_suffix (hreturnedTrace ▸ hsuffix),
    hsays guests hguest, fun id' call result' hinvalidates hstart hfinish => ?_⟩
  obtain ⟨time, hbumped, hinvalidated⟩ := invalidated_of_finish hstarted hinvalidates hstart hfinish
  exact ⟨time, hbumped, hsince time hinvalidated⟩

end Calls

/-! ### A generation that comes round again -/

section Wraparound

attribute [local instance] Externals.plain

/-- A run of fewer than 2^64 entries has few invalidations. -/
theorem fewInvalidations_of_length {Call Result : Type} {trace : Trace Effect Call Result}
    (h : trace.length < 2 ^ 64) : FewInvalidations trace := by
  refine throughout_iff.mpr ?_
  rintro newer entry older rfl id cluster generation guests mid before rfl rfl -
  refine (List.countP_le_length).trans_lt ?_
  simp only [List.length_append, List.length_cons] at h
  omega

/-- What `n` invalidations, one after another, leave in a run. -/
def invalidations : ℕ → IndexTrace
  | 0 => []
  | n + 1 => .finish (n + 1) (.ok none) :: .event (n + 1) ⟨.index .clearSnapshots, ()⟩ ::
      .event (n + 1) ⟨.index .bumpGeneration, ()⟩ :: .start (n + 1) .invalidate :: invalidations n

private theorem fresh_invalidations {n id : ℕ} (hid : n < id) {call : IndexCall} :
    Entry.start id call ∉ invalidations n := by
  induction n with
  | zero => simp [invalidations]
  | succ n ih => simp [invalidations, ih (by omega), Nat.ne_of_gt hid]

/-- Invalidations run while the call 0 waits. -/
private theorem exists_invalidated {ttl : ℕ} {pool : Pool (indexMachine ttl)}
    (h : Reachable (indexMachine ttl) pool) (hfresh : ∀ id, 0 < id → Fresh id pool.trace) (n : ℕ) :
    ∃ pool' : Pool (indexMachine ttl), Reachable (indexMachine ttl) pool' ∧
      pool'.threads 0 = pool.threads 0 ∧ pool'.trace = invalidations n ++ pool.trace ∧
      pool'.world.generation = pool.world.generation + UInt64.ofNat n ∧
      (pool.world.snapshots = (fun _ => none) → pool'.world.snapshots = fun _ => none) := by
  induction n with
  | zero => exact ⟨pool, h, rfl, rfl, by simp, fun hempty => hempty⟩
  | succ n ih =>
    obtain ⟨pool₀, h₀, hthread, htrace, hgeneration, -⟩ := ih
    have hfresh₀ : Fresh (n + 1) pool₀.trace := by
      intro call hmem
      rw [htrace, List.mem_append] at hmem
      rcases hmem with hmem | hmem
      · exact fresh_invalidations (by omega) hmem
      · exact hfresh (n + 1) (by omega) call hmem
    have h₁ := h₀.start (n + 1) IndexCall.invalidate hfresh₀
    have h₂ := h₁.event (n + 1) (.index .bumpGeneration) () Pool.setThread_self
      (IndexMachine.Step.index .bumpGeneration)
    have h₃ := h₂.event (n + 1) (.index .clearSnapshots) () Pool.setThread_self
      (IndexMachine.Step.index .clearSnapshots)
    have h₄ := h₃.finish (n + 1) (.ok none) Pool.setThread_self
    refine ⟨_, h₄, ?_, by simp [invalidations, htrace], ?_, fun _ => rfl⟩
    · simpa [Pool.setThread] using hthread
    · simp [hgeneration, UInt64.add_assoc]

/-- A cluster with one guest, and the answer to a request for its listing. -/
def onlyClient : ProxmoxClient := ⟨"pve", ⟨"https://pve:8006", [], []⟩⟩

def onlyEntry : Json :=
  .object [("type", .string "qemu"), ("vmid", .unsigned 100), ("node", .string "pve1")]

def onlyAnswer : HttpResponse := ⟨200, "", .ok (.object [("data", .array [onlyEntry])])⟩

def onlyGuests : GuestMap := parseGuests "pve" [onlyEntry]

def onlyGuest : ResolvedGuest := ⟨"pve", 100, "", .qemu, "pve1", "unknown", [], none⟩

/-- What a lookup finds of it in the listing asked for at time 3. -/
def onlyHit : CacheHit 100 := ⟨onlyGuest, ⟨"pve", 3⟩, rfl⟩

/-- What a resolution that has seen an empty cache and sent its request has still to do. -/
private theorem exists_waiting {ttl : ℕ} {pool : Pool (indexMachine ttl)}
    (h : Reachable (indexMachine ttl) pool) (id : ℕ) (hfresh : Fresh id pool.trace)
    (hempty : pool.world.snapshots = fun _ => none) :
    ∃ (pool' : Pool (indexMachine ttl)) (next : Except HttpError HttpResponse → _),
      Reachable (indexMachine ttl) pool' ∧ pool'.world = pool.world ∧
      pool'.threads id = some (.perform (Op.http (.await (pool.trace.length + 3))) next) ∧
      pool'.trace =
        .event id ⟨.http (.dispatch "pve" listingRequest), pool.trace.length + 3⟩ ::
        .event id ⟨.index .loadGeneration, pool.world.generation⟩ ::
        .event id ⟨.index (.lookupFresh "pve" 100), none⟩ ::
        .start id (.resolve onlyClient 100) :: pool.trace ∧
      next (.ok onlyAnswer) =
        .perform (Op.index (.storeIfCurrent "pve" pool.world.generation onlyGuests))
          fun _ => .done (.ok (some onlyGuest)) := by
  have h₁ := h.start id (IndexCall.resolve onlyClient 100) hfresh
  have hmiss (history : History Effect) : IndexState.Step ttl history (.lookupFresh "pve" 100) none
      pool.world pool.world := by
    have hlookup : pool.world.lookup ttl "pve" 100 = none := by simp [IndexState.lookup, hempty]
    exact hlookup ▸ IndexState.Step.lookupFresh "pve" 100
  have h₂ := h₁.event id (.index (.lookupFresh "pve" 100)) none Pool.setThread_self
    (IndexMachine.Step.index (hmiss _))
  have h₃ := h₂.event id (.index .loadGeneration) _ Pool.setThread_self
    (IndexMachine.Step.index .loadGeneration)
  have h₄ := h₃.event id (.http (.dispatch "pve" listingRequest)) _ Pool.setThread_self
    (IndexMachine.Step.dispatch "pve" listingRequest)
  exact ⟨_, _, h₄, rfl, Pool.setThread_self, rfl, rfl⟩

private theorem historyOf_zero_invalidations (n : ℕ) : historyOf 0 (invalidations n) = [] := by
  induction n with
  | zero => rfl
  | succ n ih => simp [invalidations, historyOf_event_of_ne, ih]

/-- Every one of the invalidations started and returned. -/
private theorem mem_invalidations {n : ℕ} (hn : 0 < n) :
    .start 1 .invalidate ∈ invalidations n ∧ .finish 1 (.ok none) ∈ invalidations n := by
  induction n with
  | zero => omega
  | succ n ih =>
    rcases Nat.eq_zero_or_pos n with rfl | hpos
    · simp [invalidations]
    · exact ⟨by simp [invalidations, (ih hpos).1], by simp [invalidations, (ih hpos).2]⟩

/-- The index before anything happened. -/
def emptyPool : Pool (indexMachine 5) := ⟨⟨fun _ => none, 0, 0⟩, fun _ => none, []⟩

/-- The beginning of the run below: the call 0 has sent its request. -/
def waitingTrace : IndexTrace :=
  [.event 0 ⟨.http (.dispatch "pve" listingRequest), (3 : ℕ)⟩,
    .event 0 ⟨.index .loadGeneration, (0 : UInt64)⟩,
    .event 0 ⟨.index (.lookupFresh "pve" 100), none⟩, .start 0 (.resolve onlyClient 100)]

/-- A call that bumps the generation behind that beginning has bumped it after the request. -/
private theorem three_lt_of_bumpedAt {trace : IndexTrace} {id time : ℕ}
    (h : BumpedAt id time (trace ++ waitingTrace)) : 3 < time := by
  obtain ⟨newer, older, heq, rfl⟩ := h
  by_contra hle
  have hbump : (.event id ⟨.index .bumpGeneration, ()⟩ :: older) <:+ waitingTrace :=
    List.suffix_of_suffix_length_le ⟨newer, heq.symm⟩ (List.suffix_append _ _)
      (by simp only [waitingTrace, List.length_cons, List.length_nil]; omega)
  have hmem := hbump.subset List.mem_cons_self
  simp only [waitingTrace, List.mem_cons, Entry.event.injEq, List.not_mem_nil, reduceCtorEq,
    or_false] at hmem
  rcases hmem with ⟨-, h⟩ | ⟨-, h⟩ | ⟨-, h⟩ <;> cases h

/-- If the generation comes round during a fetch, the listing is stored behind invalidations that
have returned, and answers a resolution that starts after them. -/
private theorem exists_stale {n : ℕ} (hpos : 0 < n) (hwrap : UInt64.ofNat n = 0) :
    ∃ pool, Reachable (indexMachine 5) pool ∧ ¬ ResolvesUpToDate pool.trace := by
  -- call 0 reads the generation and waits for the listing
  have h₀ : Reachable (indexMachine 5) emptyPool := .initial ⟨rfl, rfl⟩
  obtain ⟨pool₁, next, h₁, hworld₁, hthread₁, htrace₁, hnext⟩ :=
    exists_waiting h₀ 0 (fun _ => List.not_mem_nil) rfl
  replace htrace₁ : pool₁.trace = waitingTrace := htrace₁
  have hnext : next (.ok onlyAnswer) = .perform (Op.index (.storeIfCurrent "pve" 0 onlyGuests))
      fun _ => .done (.ok (some onlyGuest)) := hnext
  -- meanwhile `n` invalidations return, and the generation is what it was
  obtain ⟨pool₂, h₂, hthread₂, htrace₂, hgeneration₂, -⟩ :=
    exists_invalidated h₁ (fun id hid call => by simp [htrace₁, waitingTrace, hid.ne']) n
  rw [htrace₁] at htrace₂
  have hgeneration : pool₂.world.generation = 0 := by
    rw [hgeneration₂, hworld₁, hwrap]
    rfl
  -- call 0 gets its answer, and stores it
  have h₃ := h₂.event 0 (.http (.await 3)) (.ok onlyAnswer) (hthread₂.trans hthread₁)
    (IndexMachine.Step.await _ _)
  rw [hnext] at h₃
  have hstored := @IndexState.Step.stored 5 [⟨.http (.await 3), .ok onlyAnswer⟩,
      ⟨.http (.dispatch "pve" listingRequest), (3 : ℕ)⟩,
      ⟨.index .loadGeneration, (0 : UInt64)⟩, ⟨.index (.lookupFresh "pve" 100), none⟩]
    pool₂.world "pve" onlyGuests
  rw [hgeneration] at hstored
  simp only [IndexState.originOf] at hstored
  have h₄ := h₃.event 0 (.index (.storeIfCurrent "pve" 0 onlyGuests)) () rfl
    (IndexMachine.Step.index (by
      simpa [htrace₂, historyOf_zero_invalidations, waitingTrace] using hstored))
  -- a resolution that starts only now is answered from it
  have h₅ := h₄.finish 0 (.ok (some onlyGuest)) rfl
  have h₆ := h₅.start (n + 1) (IndexCall.resolve onlyClient 100) (by
    simp [Fresh, htrace₂, waitingTrace, fresh_invalidations])
  have hhit (history : History Effect) : IndexState.Step 5 history (.lookupFresh "pve" 100)
      (some onlyHit)
      (pool₂.world.set "pve" (some ⟨pool₂.world.now, onlyGuests, ⟨"pve", 3⟩⟩))
      (pool₂.world.set "pve" (some ⟨pool₂.world.now, onlyGuests, ⟨"pve", 3⟩⟩)) := by
    let snapshot : Snapshot := ⟨pool₂.world.now, onlyGuests, ⟨"pve", 3⟩⟩
    have hguest : snapshot.guests 100 = some onlyGuest := rfl
    have hlookup : (pool₂.world.set "pve" (some snapshot)).lookup 5 "pve" 100 =
        some onlyHit :=
      IndexState.lookup_eq_some _ (by simp [IndexState.set]) (by simp [IndexState.set, snapshot])
        hguest
    exact hlookup ▸ IndexState.Step.lookupFresh "pve" 100
  have h₇ := h₆.event (n + 1) (.index (.lookupFresh "pve" 100)) (some onlyHit) Pool.setThread_self
    (IndexMachine.Step.index (hhit _))
  have h₈ := h₇.finish (n + 1) (.ok (some onlyGuest)) Pool.setThread_self
  -- but its listing was asked for before the first of them returned
  refine ⟨_, h₈, fun hall => ?_⟩
  obtain ⟨origin, guests, horigin, -, -, -, hsince⟩ := hall []
    [.event (n + 1) ⟨.index (.lookupFresh "pve" 100), some onlyHit⟩]
    _ (n + 1) onlyClient 100 (.ok (some onlyGuest)) rfl (by simp)
  obtain rfl : onlyHit.origin = origin := by simpa [answeredFrom] using horigin
  obtain ⟨time, hbumped, htime⟩ := hsince 1 .invalidate (.ok none) trivial
    (by simp [htrace₂, (mem_invalidations hpos).1]) (by simp [htrace₂, (mem_invalidations hpos).2])
  rw [htrace₂] at hbumped
  exact Nat.lt_asymm htime (@three_lt_of_bumpedAt (_ :: _ :: _ :: invalidations n) _ _ hbumped)

/-- **The generation is a 64-bit counter**: run long enough, it hides invalidations. -/
theorem resolve_stale_after_wraparound :
    ¬ ∀ pool, Reachable (indexMachine 5) pool → ResolvesUpToDate pool.trace := by
  obtain ⟨pool, hpool, hstale⟩ := exists_stale (Nat.two_pow_pos 64) (by decide)
  exact fun hall => hstale (hall pool hpool)

/-- A resolution after one invalidation, answered from a listing fetched since. -/
theorem resolve_upToDate_after_invalidate : ∃ pool : Pool (indexMachine 5),
    .start 1 .invalidate ∈ pool.trace ∧ .finish 2 (.ok (some onlyGuest)) ∈ pool.trace ∧
      ResolvesUpToDate pool.trace := by
  obtain ⟨pool₁, h₁, -, htrace₁, -, hempty⟩ := exists_invalidated
    (.initial ⟨rfl, rfl⟩ : Reachable (indexMachine 5) emptyPool)
    (fun _ _ _ => List.not_mem_nil) 1
  obtain ⟨pool₂, next, h₂, hworld, hthread, htrace₂, hnext⟩ := exists_waiting h₁ 2
    (by simp [Fresh, htrace₁, invalidations]) (hempty rfl)
  have h₃ := h₂.event 2 (.http (.await (pool₁.trace.length + 3))) (.ok onlyAnswer) hthread
      (IndexMachine.Step.await _ _)
  rw [hnext, ← hworld] at h₃
  have h₄ := h₃.event 2 (.index (.storeIfCurrent "pve" pool₂.world.generation onlyGuests)) () rfl
    (IndexMachine.Step.index (.stored "pve" onlyGuests))
  have h₅ := h₄.finish 2 (.ok (some onlyGuest)) rfl
  refine ⟨_, by simp [htrace₂, htrace₁, invalidations], by simp, resolve_upToDate h₅ ?_⟩
  exact fewInvalidations_of_length (by simp [htrace₂, htrace₁, invalidations])

end Wraparound

end ProxmoxMcp
