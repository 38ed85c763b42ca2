import ProxmoxMcp.Core.Coherence
import ProxmoxMcp.Server.Coordinator

/-!
# The server as a machine

A run of the server: any calls by anyone, interleaved in any order, over one guest index and one
coordinator, with whatever the clusters, the clock, the evidence recorder and the inventory file
answer. A **crash** is a restart: the index is lost and the records are kept. The configuration is
part of each call, so it may be another after a restart.

Every call keeps to its policy (`serverGuarantee`), and the index is run as an index (`serverLaws`).
-/

namespace ProxmoxMcp

open Interaction Program

/-- A call, with the configuration the server runs under. -/
structure Served where
  server : ProxmoxServer
  call : Call

variable [Externals]

namespace Served

/-- What a call does. -/
def body (served : Served) : Program Effect CallResult := served.call.body served.server

/-- What a call keeps to. -/
def policy (served : Served) : Policy := served.call.policy served.server

end Served

/-- What the calls share. -/
structure ServerWorld (coordinator : Coordinator) where
  index : IndexState
  records : coordinator.State

/-- One operation of a call. The index and the coordinator answer as they do; everything else may
answer anything. -/
inductive ServerWorld.Step {coordinator : Coordinator} (ttl : ℕ) (world : ServerWorld coordinator)
    (time : ℕ) (history : History Effect) : Event Effect → ServerWorld coordinator → Prop
  | index {op : IndexOp} {reply : op.Reply} {index : IndexState}
      (step : world.index.Step ttl history op reply index) :
      Step ttl world time history ⟨.index op, reply⟩ { world with index }
  | dispatch (client : String) (request : ApiRequest) :
      Step ttl world time history ⟨.http (.dispatch client request), time⟩ world
  | await (ticket : ℕ) (reply : Except HttpError HttpResponse) :
      Step ttl world time history ⟨.http (.await ticket), reply⟩ world
  | coordinator {op : CoordinatorOp} {reply : op.Reply} {records : coordinator.State}
      (step : coordinator.Step world.records op reply records) :
      Step ttl world time history ⟨.coordinator op, reply⟩ { world with records }
  | evidence (op : EvidenceOp) (reply : Except String Unit) :
      Step ttl world time history ⟨.evidence op, reply⟩ world
  | unixNow (now : UInt64) : Step ttl world time history ⟨.unixNow, now⟩ world
  | pollWait (attempts : ℕ) (decision : PollDecision) :
      Step ttl world time history ⟨.pollWait attempts, decision⟩ world
  | reloadInventory (reply : Except String (List (String × Cluster))) :
      Step ttl world time history ⟨.reloadInventory, reply⟩ world

namespace ServerWorld.Step

variable {coordinator : Coordinator} {ttl time : ℕ} {world : ServerWorld coordinator}
  {history : History Effect} {cluster : String} {generation : UInt64}

omit [Externals] in
/-- A lookup answers with what the index has. -/
theorem lookupFresh {vmid : UInt32} {reply : Option (CacheHit vmid)}
    (heq : world.index.lookup ttl cluster vmid = reply) :
    Step ttl world time history ⟨.index (.lookupFresh cluster vmid), reply⟩ world :=
  .index (heq ▸ .lookupFresh cluster vmid)

omit [Externals] in
theorem loadGeneration (heq : world.index.generation = generation) :
    Step ttl world time history ⟨.index .loadGeneration, generation⟩ world :=
  .index (heq ▸ .loadGeneration)

omit [Externals] in
/-- A listing is stored while the generation is what it was. -/
theorem storeIfCurrent {guests : GuestMap} (heq : world.index.generation = generation) :
    Step ttl world time history ⟨.index (.storeIfCurrent cluster generation guests), ()⟩
      ⟨world.index.set cluster (some ⟨world.index.now, guests, IndexState.originOf history⟩),
        world.records⟩ :=
  .index (heq ▸ .stored cluster guests)

end ServerWorld.Step

/-- The server, with a coordinator and the lifetime of a cached listing. -/
abbrev serverMachine (coordinator : Coordinator) (ttl : ℕ) : Machine Effect where
  World := ServerWorld coordinator
  Call := Served
  Result := CallResult
  body := Served.body
  Initial world := world.index.snapshots = (fun _ => none) ∧ coordinator.Initial world.records
  Step := ServerWorld.Step ttl
  Move world world' := ∃ now, world.index.now ≤ now ∧ world' = { world with
    index := { world.index with now } }
  Crash world world' := world'.index.snapshots = (fun _ => none) ∧ world'.records = world.records

/-- A run of the server. -/
abbrev ServerTrace := Trace Effect Served CallResult

variable {coordinator : Coordinator} {ttl : ℕ}

/-- Every call keeps to its policy. -/
def serverGuarantee (coordinator : Coordinator) (ttl : ℕ) :
    Guarantee (serverMachine coordinator ttl) where
  op served := served.policy.Allows
  result _ _ _ := True
  keeps served := served.call.always_body

/-- The server runs the index as an index. -/
def serverLaws (coordinator : Coordinator) (ttl : ℕ) :
    IndexLaws (serverMachine coordinator ttl) where
  ttl := ttl
  index := ServerWorld.index
  initial h := h.1
  stepIndex h := by
    cases h with
    | index step => exact step
  stepOther hop h := by
    cases h with
    | index => exact absurd rfl (hop _)
    | _ => rfl
  dispatch h := by
    cases h
    rfl
  move h := by
    obtain ⟨now, -, rfl⟩ := h
    exact ⟨rfl, rfl⟩
  crash h := h.1

theorem indexRule_of_serverGuarantee (served : Served) (history : History Effect) (op : IndexOp)
    (hop : (serverGuarantee coordinator ttl).op served history (.index op)) :
    IndexRule history op :=
  Policy.Allows.indexRule hop

section Runs

variable {pool : Pool (serverMachine coordinator ttl)}

/-- What a call has performed was allowed by its policy. -/
theorem allows_of_event (h : Reachable (serverMachine coordinator ttl) pool) {id : ℕ}
    {served : Served} {op : Op} {reply : op.Reply} {newer older : ServerTrace}
    (htrace : pool.trace = newer ++ .event id ⟨op, reply⟩ :: older)
    (hstart : .start id served ∈ pool.trace) : served.policy.Allows (historyOf id older) op := by
  obtain ⟨served', hstart', hop⟩ := h.performed (serverGuarantee coordinator ttl) htrace
  have hmem : Entry.start id served' ∈ pool.trace := by
    rw [htrace]
    exact List.mem_append_right _ (.tail _ hstart')
  obtain rfl := h.start_unique hstart hmem
  exact hop

/-- A request that can change a cluster was sent as the policy of its call says. -/
theorem sends_of_event (h : Reachable (serverMachine coordinator ttl) pool) {id ticket : ℕ}
    {served : Served} {client : String} {request : ApiRequest} {newer older : ServerTrace}
    (htrace : pool.trace = newer ++ .event id ⟨.http (.dispatch client request), ticket⟩ :: older)
    (hstart : .start id served ∈ pool.trace) (hmutating : request.Mutating) :
    served.policy.sends (historyOf id older) client request := by
  have hop := allows_of_event h htrace hstart
  exact Policy.Permits.sends hop hmutating

end Runs

end ProxmoxMcp
