import ProxmoxMcp.Server.ApplyProtocol
import ProxmoxMcp.Server.ToolWarrants

/-!
# What the calls of a run have done

In every run an apply has gone by the protocol of applies, so it has left the trail that the
protocol prescribes: an intent before the change, and a receipt with the verdict right before the
record is settled. What holds of an apply holds of every tool in one respect: **no call changes a
cluster twice**.
-/

namespace ProxmoxMcp

open Interaction Text
open Program hiding bind

variable [Externals]

/-! ### Applies -/

section Applies

variable {coordinator : Coordinator} {ttl : ℕ} {pool : Pool (serverMachine coordinator ttl)}
  {id : ℕ} {served : Served} {call : ApplyCall}

/-- **Applies go by the protocol** in every run, and one that succeeded had settled its record as
applied by then. -/
theorem accepts_of_reachable (h : Reachable (serverMachine coordinator ttl) pool)
    (hstart : .start id served ∈ pool.trace) (hcall : served.applyCall = some call) :
    (∃ phase, Protocol.Accepts call.Step .checking (historyOf id pool.trace) phase) ∧
    ∀ newer older value, pool.trace = newer ++ .finish id (.ok value) :: older → ∃ record,
      Protocol.Accepts call.Step .checking (historyOf id older) (.settled record true) := by
  refine ⟨h.accepts hstart (follows_apply hcall), fun newer older value htrace => ?_⟩
  obtain ⟨phase, haccepts, happlied⟩ := h.accepts_finish htrace hstart (follows_apply hcall)
  obtain ⟨record, rfl⟩ := happlied value rfl
  exact ⟨record, haccepts⟩

/-- **Applies leave their trail** in every run. -/
theorem trail_of_reachable (h : Reachable (serverMachine coordinator ttl) pool)
    (hstart : .start id served ∈ pool.trace) (hcall : served.applyCall = some call) :
    call.Trail (historyOf id pool.trace) := by
  obtain ⟨phase, haccepts⟩ := h.accepts hstart (follows_apply hcall)
  exact trail_of_accepts haccepts

end Applies

/-! ### Changes -/

/-- The protocol of a call that may change a cluster so many times. -/
abbrev changeBudget : Protocol Effect ℕ := Protocol.budget fun event => event.op.changes

section Spending

variable {α : Type}

omit [Externals] in
private theorem changes_eq_false {op : Op} (hop : ¬ op.Mutates) : op.changes = false := by
  cases op with
  | http op =>
    cases op with
    | dispatch client request =>
      have hunchanging : ¬ request.Mutating := hop
      simp [Op.changes, hunchanging]
    | await => rfl
  | _ => rfl

omit [Externals] in
private theorem changeBudget_of_not_mutates {op : Op} {reply : Effect.Reply op} {left : ℕ}
    (hop : ¬ op.Mutates) : changeBudget left ⟨op, reply⟩ left := by
  simp [changeBudget, Protocol.budget, changes_eq_false hop]

/-- The program changes a cluster once at most. -/
abbrev ChangesOnce {ε : Type} (p : ExceptT ε (Program Effect) α) : Prop :=
  Leads changeBudget (fun _ _ => True) 1 p

omit [Externals] in
/-- What comes before the change sends none. -/
private theorem changesOnce_bind {β : Type} {cluster : String} {p : ToolM α} {f : α → ToolM β}
    (hp : Warranted ⟨cluster, False, False⟩ p) (hf : ∀ value, ChangesOnce (f value)) :
    ChangesOnce (p >>= f) := by
  have hspare : Leads changeBudget (fun left _ => left = 1) 1 p :=
    (hp []).leads (fun _ _ _ hop => changeBudget_of_not_mutates hop.sends) fun _ _ _ => rfl
  refine hspare.bind ?_
  rintro _ value rfl
  exact hf value

/-- One request. -/
private theorem changesOnce_send (client : ProxmoxClient) (request : ApiRequest) :
    ChangesOnce (client.send request) := by
  by_cases hsendable : client.Sendable request
  · rw [ChangesOnce, Leads, ProxmoxClient.run_send_of_sendable hsendable]
    intro ticket
    let left : ℕ := if (Op.http (.dispatch client.name request)).changes then 0 else 1
    have hpaid : changeBudget 1 ⟨.http (.dispatch client.name request), ticket⟩ left := by
      simp only [changeBudget, Protocol.budget, left]
      split_ifs <;> rfl
    exact ⟨left, hpaid, fun reply => ⟨left, changeBudget_of_not_mutates not_false, fun _ _ =>
      trivial⟩⟩
  · obtain ⟨error, hrun⟩ := ProxmoxClient.run_send_of_not_sendable hsendable
    rw [ChangesOnce, Leads, hrun]
    rintro value ⟨⟩

/-- What comes behind the change sends nothing. -/
private theorem changesOnce_viaClient {p : ClientM α} {answer : α → Json} (hp : ChangesOnce p) :
    ChangesOnce (do let value ← viaClient p; return answer value : ToolM Json) :=
  (leads_mapError hp).bind fun _ _ _ => leads_pure trivial

private theorem changesOnce_runTask (client : ProxmoxClient) (request : ApiRequest) :
    ChangesOnce (Guests.runTask client request) :=
  (changesOnce_send client request).bind fun _ data _ => by
    cases Guests.upidFrom data with
    | ok upid => exact leads_pure trivial
    | error error => exact leads_throw

end Spending

/-! ### Tools that act at once -/

namespace ProxmoxServer

variable {server : ProxmoxServer} {caller : Option CallerCtx}

/-- Authorizing sends no change. -/
private theorem warranted_authorizeLow {tool cluster : String} {vmid : UInt32}
    {interrupts : Option Bool} :
    Warranted ⟨cluster, False, False⟩
      (server.authorizeLowWithInterrupts caller tool ⟨cluster, vmid⟩ interrupts) :=
  (@heeds_authorizeLowWithInterrupts _ server caller ⟨cluster, False, False⟩ tool vmid
    interrupts).mono (fun _ hop => hop.2) fun _ _ => trivial

private theorem changesOnce_serveLifecycle (tool : LifecycleTool) (args : GuestArgs) :
    ChangesOnce (server.serveLifecycle tool caller args) :=
  changesOnce_bind warranted_authorizeLow fun _ => Leads.ensure fun _ =>
    Leads.liftExcept fun _ _ => changesOnce_viaClient (changesOnce_runTask _ _)

private theorem changesOnce_createSnapshot (args : SnapshotArgs) :
    ChangesOnce (server.createSnapshot caller args) :=
  changesOnce_bind warranted_authorizeLow fun _ => Leads.liftExcept fun _ _ =>
    changesOnce_viaClient (changesOnce_runTask _ _)

private theorem changesOnce_createBackup (args : BackupArgs) :
    ChangesOnce (server.createBackup caller args) :=
  Leads.ensure fun _ => changesOnce_bind warranted_authorizeLow fun _ =>
    Leads.liftExcept fun _ _ => Leads.liftExcept fun _ _ =>
    changesOnce_viaClient (changesOnce_runTask _ _)

private theorem changesOnce_cloneVm (args : CloneArgs) : ChangesOnce (server.cloneVm caller args) :=
  changesOnce_bind warranted_authorizeLow fun _ => Leads.liftExcept fun _ _ =>
    Leads.liftExcept fun _ _ => Leads.ensure fun _ => Leads.ensure fun _ =>
    Leads.liftExcept fun _ _ => changesOnce_viaClient (changesOnce_runTask _ _)

private theorem changesOnce_resizeDisk (args : ResizeArgs) :
    ChangesOnce (server.resizeDisk caller args) :=
  Leads.ensure fun _ => changesOnce_bind warranted_authorizeLow fun _ =>
    Leads.liftExcept fun _ _ => Leads.liftExcept fun _ _ => changesOnce_viaClient
    ((changesOnce_send _ _).bind fun _ _ _ => leads_pure trivial)

private theorem changesOnce_updateContainerResources (args : ResourceArgs) :
    ChangesOnce (server.updateContainerResources caller args) :=
  Leads.ensure fun _ => changesOnce_bind warranted_authorizeLow fun _ =>
    Leads.liftExcept fun _ _ => Leads.ensure fun _ => Leads.liftExcept fun _ _ =>
    changesOnce_viaClient (Leads.ensure fun _ => changesOnce_send _ _)

private theorem changesOnce_stopTask (args : StopTaskArgs) :
    ChangesOnce (server.stopTask caller args) := by
  refine Leads.ensure fun _ => Leads.required fun node _ => Leads.liftExcept fun _ _ =>
    Leads.liftExcept fun client _ => Leads.liftExcept fun grant _ => Leads.ensure fun _ => ?_
  have hstop : Warranted ⟨args.cluster, False, False⟩
      (server.authorizeStopTask caller grant args) := by
    rw [authorizeStopTask]
    cases taskGuest args.upid with
    | none => exact Heeds.ensure fun _ => heeds_pure trivial
    | some vmid => exact warranted_bind warranted_authorizeLow fun _ => heeds_pure trivial
  exact changesOnce_bind hstop fun _ => Leads.liftExcept fun _ _ => changesOnce_viaClient
    (Leads.ensure fun _ => Leads.ensure fun _ => Leads.ensure fun _ => Leads.ensure fun _ =>
    Leads.liftExcept fun _ _ => changesOnce_send _ _)

private theorem changesOnce_createGuest (kind : GuestType) (args : CreateGuestArgs) :
    ChangesOnce (server.createGuest kind caller args) := by
  rw [createGuest]
  cases rejectUnsafeConfig args.config with
  | some refusal => exact leads_throw
  | none =>
    have hcreation : Warranted ⟨args.cluster, False, False⟩
        (server.authorizeCreation caller (creationTool kind) args.cluster args.vmid) :=
      (@heeds_authorizeCreation _ server caller ⟨args.cluster, False, False⟩ _ _).mono
        (fun _ hop => hop.2) fun _ _ => trivial
    exact changesOnce_bind hcreation fun _ => Leads.liftExcept fun _ _ =>
      changesOnce_viaClient (changesOnce_runTask _ _)

private theorem changesOnce_downloadIso (args : DownloadIsoArgs) :
    ChangesOnce (server.downloadIso caller args) :=
  Leads.liftExcept fun _ _ => Leads.liftExcept fun _ _ => Leads.liftExcept fun _ _ =>
    Leads.ensure fun _ => Leads.ensure fun _ => Leads.liftExcept fun _ _ =>
    changesOnce_viaClient (changesOnce_runTask _ _)

end ProxmoxServer

/-! ### Every call -/

section Calls

variable {coordinator : Coordinator} {ttl : ℕ} {served : Served}

/-- A call whose policy has it send nothing keeps its budget. -/
private theorem follows_of_policy
    (hsends : ∀ h client request, ¬ served.policy.sends h client request) :
    Follows changeBudget (fun _ _ => True) 1 ((serverMachine coordinator ttl).body served) := by
  have hbody : Always served.policy.Allows (fun _ _ => True) []
      ((serverMachine coordinator ttl).body served) := Call.always_body served.call
  refine hbody.follows (fun h op reply hop => changeBudget_of_not_mutates fun hmutates => ?_)
    fun _ _ _ => trivial
  cases op with
  | http op =>
    cases op with
    | dispatch client request => exact hsends h client request (Policy.Permits.sends hop hmutates)
    | await => exact hmutates
  | _ => exact hmutates

/-- **Every call other than an apply** changes a cluster once at most. -/
theorem follows_changeBudget (hcall : served.applyCall = none) :
    Follows changeBudget (fun _ _ => True) 1 ((serverMachine coordinator ttl).body served) := by
  obtain ⟨server, called⟩ := served
  cases called with
  | recover => exact follows_of_policy fun _ _ _ => not_false
  | reload => exact follows_of_policy fun _ _ _ => not_false
  | serve caller tool =>
    have hwhole {p : ToolM Json} (hp : ChangesOnce p) :
        Follows changeBudget (fun _ _ => True) 1 p.run :=
      Follows.mono hp fun _ _ _ => trivial
    cases tool with
    | lifecycle tool args => exact hwhole (ProxmoxServer.changesOnce_serveLifecycle tool args)
    | createSnapshot args => exact hwhole (ProxmoxServer.changesOnce_createSnapshot args)
    | createBackup args => exact hwhole (ProxmoxServer.changesOnce_createBackup args)
    | cloneVm args => exact hwhole (ProxmoxServer.changesOnce_cloneVm args)
    | resizeDisk args => exact hwhole (ProxmoxServer.changesOnce_resizeDisk args)
    | updateContainerResources args =>
      exact hwhole (ProxmoxServer.changesOnce_updateContainerResources args)
    | stopTask args => exact hwhole (ProxmoxServer.changesOnce_stopTask args)
    | createGuest kind args => exact hwhole (ProxmoxServer.changesOnce_createGuest kind args)
    | downloadIso args => exact hwhole (ProxmoxServer.changesOnce_downloadIso args)
    | applyChangeSet | applyHaRuleChange | applyRestoreNewVmid => cases hcall
    | _ => exact follows_of_policy fun _ _ _ => not_false

/-- **No call changes a cluster twice**, in any run. -/
theorem changes_le_one {pool : Pool (serverMachine coordinator ttl)} {id : ℕ}
    (h : Reachable (serverMachine coordinator ttl) pool) (hstart : .start id served ∈ pool.trace) :
    (historyOf id pool.trace).countP (·.op.changes) ≤ 1 := by
  cases hcall : served.applyCall with
  | some call =>
    obtain ⟨phase, haccepts⟩ := h.accepts hstart (follows_apply hcall)
    exact (trail_of_accepts haccepts).changes
  | none =>
    obtain ⟨left, haccepts⟩ := h.accepts hstart (follows_changeBudget hcall)
    have hpaid := haccepts.countP_add
    omega

end Calls

/-! ### The copy of an archive -/

omit [Externals] in
/-- The copy goes by the protocol, on its way to the cluster. -/
theorem accepts_copyCall : ∃ (pool : Pool keptMachine) (phase : ApplyPhase),
    .event 0 ⟨.http (.dispatch "pve" copyRequest), (18 : ℕ)⟩ ∈ pool.trace ∧
      Protocol.Accepts (@ApplyCall.Step Externals.plain (@ProxmoxServer.restoreCall copyCall.server
        (some destructiveCaller) ⟨"cs-1", "pve", 901⟩)) .checking (historyOf 0 pool.trace)
        phase := by
  obtain ⟨pool, hpool, hstart, hevent⟩ := exists_reachable_copyCall
  obtain ⟨⟨phase, haccepts⟩, -⟩ :=
    @accepts_of_reachable Externals.plain _ _ _ _ _ _ hpool hstart rfl
  exact ⟨pool, phase, hevent, haccepts⟩

omit [Externals] in
theorem changes_copyCall : ∃ pool : Pool keptMachine,
    .event 0 ⟨.http (.dispatch "pve" copyRequest), (18 : ℕ)⟩ ∈ pool.trace ∧
      (historyOf 0 pool.trace).countP (·.op.changes) ≤ 1 := by
  obtain ⟨pool, hpool, hstart, hevent⟩ := exists_reachable_copyCall
  exact ⟨pool, hevent, @changes_le_one Externals.plain _ _ _ _ _ hpool hstart⟩

omit [Externals] in
/-- The copy has been claimed before it is on its way. -/
theorem trail_copyCall : ∃ pool : Pool keptMachine,
    .event 0 ⟨.http (.dispatch "pve" copyRequest), (18 : ℕ)⟩ ∈ pool.trace ∧
      (@ProxmoxServer.restoreCall copyCall.server (some destructiveCaller) ⟨"cs-1", "pve", 901⟩
        ).Trail (historyOf 0 pool.trace) := by
  obtain ⟨pool, hpool, hstart, hevent⟩ := exists_reachable_copyCall
  exact ⟨pool, hevent, @trail_of_reachable Externals.plain _ _ _ _ _ _ hpool hstart rfl⟩

end ProxmoxMcp
