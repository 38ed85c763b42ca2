import Mathlib
import ProxmoxMcp.Server.ToolWarrants

/-!
# Direct calls do what they say

A **direct** call changes a cluster by itself, with no plan before it. `Tool.Acts` says what such a
call may do: the one request its arguments ask for, with the node and the type of the guest as the
listing that authorized the call shows them, and how the cluster's answer becomes its own.

* whatever a direct call sends to change a cluster, it acts so (`acts_of_event`);
* a direct call that succeeds has acted last of all, and its answer is what the cluster's reply to
  that request reads as (`done_of_finish`): it never reports what it has not done.
-/

namespace ProxmoxMcp

open Interaction Text
open Program hiding bind

variable [Externals]

/-- A request for a cluster, and how its answer reads. -/
structure DirectAction where
  client : ProxmoxClient
  request : ApiRequest
  answer : Json → Except ProxmoxError Json

/-- The answer that names the task of a guest. -/
def readTaskAnswer (vmid : UInt32) (node : String) (data : Json) : Except ProxmoxError Json :=
  (Guests.upidFrom data).map fun upid => ProxmoxServer.taskAnswer upid vmid node

section Acts

variable (server : ProxmoxServer) (caller : Option CallerCtx) (h : History Effect)

/-- What a direct call does to a cluster, on what it has seen. That the token of the caller reaches
the tool and the cluster is no part of it: that is what its warrant says. -/
inductive Tool.Acts : Tool → DirectAction → Prop
  | lifecycle {tool args authorization}
      (authorized : server.LowAuthorized (interruptsService tool.name) caller tool.name args
        authorization h)
      (kind : authorization.guest.type = tool.requiredType)
      (gate : interruptsService tool.name → server.gateDirectCommit = .ok ()) :
      Acts (.lifecycle tool args) ⟨authorization.client,
        Guests.lifecycleRequest authorization.guest.node tool.requiredType args.vmid tool.verb,
        readTaskAnswer args.vmid authorization.guest.node⟩
  | createSnapshot {args authorization}
      (authorized : server.LowAuthorized false caller "create_snapshot" ⟨args.cluster, args.vmid⟩
        authorization h) :
      Acts (.createSnapshot args) ⟨authorization.client,
        Guests.createSnapshotRequest authorization.guest.node authorization.guest.type args.vmid
          args.snapname args.description,
        readTaskAnswer args.vmid authorization.guest.node⟩
  | createBackup {args authorization} (mode : validBackupModes.contains args.mode)
      (authorized : server.LowAuthorized (backupInterrupts args.mode) caller "create_backup"
        ⟨args.cluster, args.vmid⟩ authorization h)
      (gate : server.gateDirectCommit = .ok ()) :
      Acts (.createBackup args) ⟨authorization.client,
        Guests.createBackupRequest authorization.guest.node args.vmid args.storage args.mode
          args.compress,
        readTaskAnswer args.vmid authorization.guest.node⟩
  | cloneVm {args authorization}
      (authorized : server.LowAuthorized false caller "clone_vm" ⟨args.cluster, args.vmid⟩
        authorization h)
      (inScope : authorization.grant.allowsNewVmid args.newid)
      (unpinned : creationAllowed authorization.client.cluster args.newid)
      (gate : server.gateDirectCommit = .ok ()) :
      Acts (.cloneVm args) ⟨authorization.client,
        Guests.cloneGuestRequest authorization.guest.node authorization.guest.type args.vmid
          args.newid args.name args.full,
        readTaskAnswer args.newid authorization.guest.node⟩
  | resizeDisk {args authorization} (grows : Guests.resizeShrinks args.size = false)
      (authorized : server.LowAuthorized false caller "resize_disk" ⟨args.cluster, args.vmid⟩
        authorization h)
      (gate : server.gateDirectCommit = .ok ()) :
      Acts (.resizeDisk args) ⟨authorization.client,
        Guests.resizeDiskRequest authorization.guest.node authorization.guest.type args.vmid
          args.disk args.size,
        fun data => .ok (ProxmoxServer.taskAnswer (data.asStr.getD "") args.vmid
          authorization.guest.node)⟩
  | updateContainerResources {args authorization}
      (authorized : server.LowAuthorized true caller "update_container_resources"
        ⟨args.cluster, args.vmid⟩ authorization h)
      (container : authorization.guest.type = .lxc)
      (sets : Guests.resourceForm args.cores args.memoryMb args.swapMb ≠ [])
      (gate : server.gateDirectCommit = .ok ()) :
      Acts (.updateContainerResources args) ⟨authorization.client,
        Guests.updateContainerResourcesRequest authorization.guest.node args.vmid
          (Guests.resourceForm args.cores args.memoryMb args.swapMb),
        fun _ => .ok (.object [vmidMember args.vmid, ("node", .string authorization.guest.node),
          ("cores", ProxmoxServer.optionalNumber args.cores),
          ("memory_mb", ProxmoxServer.optionalNumber args.memoryMb),
          ("swap_mb", ProxmoxServer.optionalNumber args.swapMb), ("note", .string
            "cores apply immediately; memory and swap take effect at the next start")])⟩
  | stopTask {args client grant node expanded}
      (whole : stoppingTaskLeavesPartialState args.upid = false)
      (handle : upidNode args.upid = some node)
      (named : server.clientNamed args.cluster = some client)
      (granted : resolveGrant caller = .ok grant) (tier : grant.allowsAction .low)
      (guest : ∀ vmid, taskGuest args.upid = some vmid → ∃ authorization,
        server.LowAuthorized true caller "stop_task" ⟨args.cluster, vmid⟩ authorization h)
      (nodeLevel : taskGuest args.upid = none → grant.isUnrestrictedGuestScope)
      (gate : server.gateDirectCommit = .ok ())
      (template : Externals.expandPath "/api2/json/nodes/{node}/tasks" [("node", node)] =
        .ok expanded) :
      Acts (.stopTask args) ⟨client, Guests.stopTaskRequest expanded args.upid,
        fun _ => .ok (.object [("upid", .string args.upid), ("node", .string node), ("note", .string
          "a stop was requested; read the task status to learn whether it stopped")])⟩
  | createGuest {kind args client} (safe : rejectUnsafeConfig args.config = none)
      (vacant : server.Vacant caller args.cluster args.vmid client h)
      (gate : server.gateDirectCommit = .ok ()) :
      Acts (.createGuest kind args) ⟨client,
        Guests.createGuestRequest args.node kind args.vmid
          (ProxmoxServer.createConfig kind args.config),
        fun data => (Guests.upidFrom data).map fun upid => .object [("upid", .string upid),
          vmidMember args.vmid, ("node", .string args.node),
          ("kind", .string kind.pathSegment)]⟩
  | downloadIso {args client grant checksum}
      (named : server.clientNamed args.cluster = some client)
      (granted : resolveGrant caller = .ok grant) (tier : grant.allowsAction .low)
      (unrestricted : grant.isUnrestrictedGuestScope)
      (sums : ProxmoxServer.checksumOf args = .ok checksum) :
      Acts (.downloadIso args) ⟨client,
        Guests.downloadUrlRequest args.node args.storage args.content args.filename args.url
          checksum,
        fun data => (Guests.upidFrom data).map fun upid => .object [("upid", .string upid),
          ("node", .string args.node), ("storage", .string args.storage),
          ("filename", .string args.filename),
          ("checksum_verification_requested", .bool checksum.isSome), ("note", .string
            "follow the upid with get_task_status; a checksum mismatch fails the task")]⟩

end Acts

/-- The tools that change a cluster with no plan before them. -/
def Tool.direct : Tool → Bool
  | .lifecycle .. | .createSnapshot _ | .createBackup _ | .cloneVm _ | .resizeDisk _
  | .updateContainerResources _ | .stopTask _ | .createGuest .. | .downloadIso _ => true
  | _ => false

section Performing

variable {server : ProxmoxServer} {caller : Option CallerCtx} {tool : Tool} {h : History Effect}

/-- A request that can change a cluster is one with which the tool acts. -/
def Tool.Performs (tool : Tool) (server : ProxmoxServer) (caller : Option CallerCtx)
    (h : History Effect) (op : Op) : Prop :=
  ∀ client request, op = .http (.dispatch client request) → request.Mutating →
    ∃ action, tool.Acts server caller h action ∧ action.client.name = client ∧
      action.request = request

/-- The tool has acted last of all, and this answer is what the reply reads as. -/
def Tool.Done (tool : Tool) (server : ProxmoxServer) (caller : Option CallerCtx)
    (h : History Effect) (answer : Json) : Prop :=
  ∃ (before : History Effect) (action : DirectAction) (ticket : ℕ)
    (reply : Except HttpError HttpResponse), h = ⟨.http (.await ticket), reply⟩ ::
      ⟨.http (.dispatch action.client.name action.request), ticket⟩ :: before ∧
      tool.Acts server caller before action ∧
      (ProxmoxClient.readReply reply).bind action.answer = .ok answer

private theorem performs_of_quiet {lookups : LookupRule} {op : Op} (hop : Quiet lookups h op) :
    tool.Performs server caller h op := by
  rintro client request rfl hmutating
  exact absurd hmutating hop

/-- **One action**: the request is sent, and its answer read. -/
theorem ensures_act {α : Type} {action : DirectAction} (read : Json → Except ProxmoxError α)
    {answer : α → Json} (hacts : tool.Acts server caller h action)
    (hanswer : action.answer = fun data => (read data).map answer) :
    Ensures (tool.Performs server caller)
      (fun after value => tool.Done server caller after (answer value)) h
      (do liftM (read (← action.client.send action.request)) : ClientM α) := by
  have hsent : tool.Performs server caller h
      (.http (.dispatch action.client.name action.request)) := by
    rintro _ _ ⟨⟩ _
    exact ⟨action, hacts, rfl, rfl⟩
  have hawaited (ticket : ℕ) : tool.Performs server caller
      (⟨.http (.dispatch action.client.name action.request), ticket⟩ :: h)
      (.http (.await ticket)) := by
    rintro _ _ ⟨⟩
  refine (Guests.always_send_read hsent hawaited).ensures fun after value hanswered => ?_
  generalize houtcome : (Except.ok value : Except ProxmoxError α) = outcome at hanswered
  cases hanswered with
  | refused text => cases houtcome
  | unsendable error => cases houtcome
  | answered ticket reply =>
    refine ⟨h, action, ticket, reply, rfl, hacts, ?_⟩
    rw [hanswer]
    cases hreply : ProxmoxClient.readReply reply with
    | error error => simp [hreply, Except.bind] at houtcome
    | ok data =>
      have hvalue : read data = .ok value := by simpa [hreply, Except.bind] using houtcome.symm
      simp [Except.bind, hvalue, Except.map]

/-- An action whose answer is not read. -/
private theorem ensures_act_unread {action : DirectAction} {answer : Json → Json}
    (hacts : tool.Acts server caller h action)
    (hanswer : action.answer = fun data => .ok (answer data)) :
    Ensures (tool.Performs server caller)
      (fun after value => tool.Done server caller after (answer value)) h
      (action.client.send action.request) := by
  have hsent := ensures_act Except.ok hacts hanswer
  rwa [show (do liftM (Except.ok (← action.client.send action.request)) : ClientM Json) =
    action.client.send action.request from bind_pure _] at hsent

/-- A call whose last step is an action is done with it. -/
private theorem ensures_action {α : Type} {answer : α → Json} {program : ClientM α}
    (hprogram : Ensures (tool.Performs server caller)
      (fun after value => tool.Done server caller after (answer value)) h program) :
    Ensures (tool.Performs server caller) (tool.Done server caller) h
      (viaClient program >>= fun value => (pure (answer value) : ToolM Json)) :=
  Ensures.bind (ensures_mapError.mpr hprogram) (fun _ _ hop => hop)
    fun _ _ _ hdone => ensures_pure.mpr hdone

/-! ### The tools -/

/-- The shape of a direct call on a guest: authorize, then act. -/
private theorem ensures_direct {name : String} {args : GuestArgs} {interruptsOverride : Option Bool}
    {interrupts : Bool} {rest : Authorization → ToolM Json}
    (hinterrupts : interruptsOverride.getD (interruptsService name) = interrupts)
    (hrest : ∀ after authorization,
      server.LowAuthorized interrupts caller name args authorization after →
      authorization.guest.vmid = args.vmid →
      Ensures (tool.Performs server caller) (tool.Done server caller) after (rest authorization)) :
    Ensures (tool.Performs server caller) (tool.Done server caller) h
      (server.authorizeLowWithInterrupts caller name args interruptsOverride >>= rest) := by
  subst hinterrupts
  refine Ensures.bind (ProxmoxServer.ensures_authorizeLowWithInterrupts name args
    interruptsOverride) (fun _ _ hop => performs_of_quiet hop) fun after authorization _ hauthorized
    => hrest after authorization hauthorized hauthorized.authorized.admitted.guest_vmid

/-- The client a call asks for is the one its authorization was made with. -/
theorem ProxmoxServer.LowAuthorized.client_eq {interrupts : Bool} {name : String} {args : GuestArgs}
    {authorization : Authorization} {client : ProxmoxClient}
    (hauthorized : server.LowAuthorized interrupts caller name args authorization h)
    (hclient : server.clientFor args.cluster = .ok client) : authorization.client = client :=
  Option.some.inj (hauthorized.client.symm.trans (clientNamed_of_clientFor hclient))

private theorem ensures_serveLifecycle_acts (verbTool : LifecycleTool) (args : GuestArgs) :
    Ensures ((Tool.lifecycle verbTool args).Performs server caller)
      ((Tool.lifecycle verbTool args).Done server caller) h
      (server.serveLifecycle verbTool caller args) := by
  refine ensures_direct rfl fun after authorization hauthorized hvmid => Ensures.ensure fun hkind =>
    Ensures.liftExcept fun _ hgate => ?_
  replace hkind : authorization.guest.type = verbTool.requiredType := beq_iff_eq.mp hkind
  have hacts := Tool.Acts.lifecycle hauthorized hkind fun hinterrupts => by
    rwa [if_pos hinterrupts] at hgate
  rw [hvmid, hkind]
  exact ensures_action (ensures_act Guests.upidFrom hacts rfl)

private theorem ensures_createSnapshot_acts (args : ProxmoxServer.SnapshotArgs) :
    Ensures ((Tool.createSnapshot args).Performs server caller)
      ((Tool.createSnapshot args).Done server caller) h
      (server.createSnapshot caller args) := by
  have hinterrupts : interruptsService "create_snapshot" = false := by decide
  refine ensures_direct hinterrupts fun after authorization hauthorized hvmid =>
    Ensures.liftExcept fun client hclient => ?_
  obtain rfl := hauthorized.client_eq hclient
  have hacts := Tool.Acts.createSnapshot hauthorized
  rw [hvmid]
  exact ensures_action (ensures_act Guests.upidFrom hacts rfl)

private theorem ensures_createBackup_acts (args : ProxmoxServer.BackupArgs) :
    Ensures ((Tool.createBackup args).Performs server caller)
      ((Tool.createBackup args).Done server caller) h
      (server.createBackup caller args) := by
  refine Ensures.ensure fun hmode => ensures_direct rfl fun after authorization hauthorized hvmid =>
    Ensures.liftExcept fun client hclient => Ensures.liftExcept fun _ hgate => ?_
  obtain rfl := hauthorized.client_eq hclient
  have hacts := Tool.Acts.createBackup hmode hauthorized hgate
  rw [hvmid]
  exact ensures_action (ensures_act Guests.upidFrom hacts rfl)

private theorem ensures_cloneVm_acts (args : ProxmoxServer.CloneArgs) :
    Ensures ((Tool.cloneVm args).Performs server caller)
      ((Tool.cloneVm args).Done server caller) h (server.cloneVm caller args) := by
  have hinterrupts : interruptsService "clone_vm" = false := by decide
  refine ensures_direct hinterrupts fun after authorization hauthorized hvmid =>
    Ensures.liftExcept fun client hclient => Ensures.liftExcept fun grant hgrant =>
    Ensures.ensure fun hscope => Ensures.ensure fun hpin => Ensures.liftExcept fun _ hgate => ?_
  obtain rfl := hauthorized.client_eq hclient
  obtain rfl : authorization.grant = grant := Except.ok.inj (hauthorized.grant.symm.trans hgrant)
  have hacts := Tool.Acts.cloneVm hauthorized hscope hpin hgate
  dsimp only
  rw [hvmid]
  exact ensures_action (ensures_act Guests.upidFrom hacts rfl)

private theorem ensures_resizeDisk_acts (args : ProxmoxServer.ResizeArgs) :
    Ensures ((Tool.resizeDisk args).Performs server caller)
      ((Tool.resizeDisk args).Done server caller) h (server.resizeDisk caller args) := by
  have hinterrupts : interruptsService "resize_disk" = false := by decide
  refine Ensures.ensure fun hgrows => ensures_direct hinterrupts
    fun after authorization hauthorized hvmid =>
    Ensures.liftExcept fun client hclient => Ensures.liftExcept fun _ hgate => ?_
  obtain rfl := hauthorized.client_eq hclient
  replace hgrows : Guests.resizeShrinks args.size = false := by simpa using hgrows
  have hacts := Tool.Acts.resizeDisk hgrows hauthorized hgate
  rw [hvmid]
  exact ensures_action (ensures_act (fun data => .ok (data.asStr.getD "")) hacts rfl)

private theorem ensures_updateContainerResources_acts (args : ProxmoxServer.ResourceArgs) :
    Ensures ((Tool.updateContainerResources args).Performs server caller)
      ((Tool.updateContainerResources args).Done server caller) h
      (server.updateContainerResources caller args) := by
  have hinterrupts : interruptsService "update_container_resources" = true := by decide
  refine Ensures.ensure fun _ => ensures_direct hinterrupts
    fun after authorization hauthorized hvmid =>
    Ensures.liftExcept fun client hclient => Ensures.ensure fun hkind =>
    Ensures.liftExcept fun _ hgate => ?_
  obtain rfl := hauthorized.client_eq hclient
  have hcontainer : authorization.guest.type = .lxc := beq_iff_eq.mp hkind
  rw [hvmid]
  refine ensures_action (Ensures.ensure fun hsets => ?_)
  replace hsets : Guests.resourceForm args.cores args.memoryMb args.swapMb ≠ [] := by
    simpa using hsets
  have hacts := Tool.Acts.updateContainerResources hauthorized hcontainer hsets hgate
  exact ensures_act_unread hacts rfl

/-- What a task is stopped with: the authorization for its guest, or a scope that has no bounds. -/
private theorem ensures_authorizeStopTask_acts {args : ProxmoxServer.StopTaskArgs}
    {grant : ProxmoxGrant} :
    Ensures ((Tool.stopTask args).Performs server caller)
      (fun after _ => (∀ vmid, taskGuest args.upid = some vmid → ∃ authorization,
        server.LowAuthorized true caller "stop_task" ⟨args.cluster, vmid⟩ authorization after) ∧
        (taskGuest args.upid = none → grant.isUnrestrictedGuestScope)) h
      (server.authorizeStopTask caller grant args) := by
  have hinterrupts : interruptsService "stop_task" = true := by decide
  rw [ProxmoxServer.authorizeStopTask]
  cases hguest : taskGuest args.upid with
  | none =>
    refine Ensures.ensure fun hunrestricted => ensures_pure.mpr ⟨?_, fun _ => hunrestricted⟩
    rintro _ ⟨⟩
  | some vmid =>
    refine Ensures.bind (ProxmoxServer.ensures_authorizeLowWithInterrupts "stop_task"
      ⟨args.cluster, vmid⟩ none) (fun _ _ hop => performs_of_quiet hop)
      fun after authorization _ hauthorized => ensures_pure.mpr ⟨?_, ?_⟩
    · rintro _ ⟨⟩
      exact ⟨authorization, hinterrupts ▸ hauthorized⟩
    · rintro ⟨⟩

private theorem ensures_stopTask_acts (args : ProxmoxServer.StopTaskArgs) :
    Ensures ((Tool.stopTask args).Performs server caller)
      ((Tool.stopTask args).Done server caller) h (server.stopTask caller args) := by
  refine Ensures.ensure fun hwhole => Ensures.required fun node hnode => Ensures.liftExcept
    fun _ _ => Ensures.liftExcept fun client hclient => Ensures.liftExcept fun grant hgrant =>
    Ensures.ensure fun htier => ?_
  replace hwhole : stoppingTaskLeavesPartialState args.upid = false := by simpa using hwhole
  refine Ensures.bind ensures_authorizeStopTask_acts (fun _ _ hop => hop)
    fun after _ _ hauthorized => Ensures.liftExcept fun _ hgate => ?_
  refine ensures_action (Ensures.ensure fun _ => Ensures.ensure fun _ => Ensures.ensure fun _ =>
    Ensures.ensure fun _ => Ensures.liftExcept fun expanded hexpanded => ?_)
  have hacts := Tool.Acts.stopTask hwhole hnode (clientNamed_of_clientFor hclient) hgrant htier
    hauthorized.1 hauthorized.2 hgate (eq_ok_of_mapError hexpanded)
  exact ensures_act_unread hacts rfl

private theorem ensures_createGuest_acts (kind : GuestType) (args : ProxmoxServer.CreateGuestArgs) :
    Ensures ((Tool.createGuest kind args).Performs server caller)
      ((Tool.createGuest kind args).Done server caller) h
      (server.createGuest kind caller args) := by
  rw [ProxmoxServer.createGuest]
  cases hsafe : rejectUnsafeConfig args.config with
  | some refusal => exact ensures_throw
  | none =>
    refine Ensures.bind (ProxmoxServer.ensures_authorizeCreation _ args.cluster args.vmid)
      (fun _ _ hop => performs_of_quiet hop) fun after client _ hvacant =>
      Ensures.liftExcept fun _ hgate => ?_
    have hacts : (Tool.createGuest kind args).Acts server caller after _ :=
      .createGuest hsafe hvacant hgate
    exact ensures_action (ensures_act Guests.upidFrom hacts rfl)

private theorem ensures_downloadIso_acts (args : ProxmoxServer.DownloadIsoArgs) :
    Ensures ((Tool.downloadIso args).Performs server caller)
      ((Tool.downloadIso args).Done server caller) h (server.downloadIso caller args) := by
  refine Ensures.liftExcept fun _ _ => Ensures.liftExcept fun client hclient =>
    Ensures.liftExcept fun grant hgrant => Ensures.ensure fun htier => Ensures.ensure
    fun hunrestricted => Ensures.liftExcept fun checksum hchecksum => ?_
  have hacts : (Tool.downloadIso args).Acts server caller h _ := .downloadIso
    (clientNamed_of_clientFor hclient) hgrant htier hunrestricted (eq_ok_of_mapError hchecksum)
  exact ensures_action (ensures_act Guests.upidFrom hacts rfl)

/-- **Every direct tool** acts as it should, and does not succeed without having acted. -/
theorem ensures_serve_acts {tool : Tool} (hdirect : tool.direct) :
    Ensures (tool.Performs server caller) (tool.Done server caller) []
      (server.serve caller tool) := by
  cases tool with
  | lifecycle verbTool args => exact ensures_serveLifecycle_acts verbTool args
  | createSnapshot args => exact ensures_createSnapshot_acts args
  | createBackup args => exact ensures_createBackup_acts args
  | cloneVm args => exact ensures_cloneVm_acts args
  | resizeDisk args => exact ensures_resizeDisk_acts args
  | updateContainerResources args => exact ensures_updateContainerResources_acts args
  | stopTask args => exact ensures_stopTask_acts args
  | createGuest kind args => exact ensures_createGuest_acts kind args
  | downloadIso args => exact ensures_downloadIso_acts args
  | _ => exact absurd hdirect Bool.false_ne_true

end Performing

/-! ### Runs -/

section Runs

variable {coordinator : Coordinator} {ttl : ℕ}

/-- Direct calls act as they should. -/
def directGuarantee (coordinator : Coordinator) (ttl : ℕ) :
    Guarantee (serverMachine coordinator ttl) where
  op served h op := ∀ caller tool, served.call = .serve caller tool → tool.direct →
    tool.Performs served.server caller h op
  result served h result := ∀ caller tool, served.call = .serve caller tool → tool.direct →
    ∀ answer, result = .ok answer → tool.Done served.server caller h answer
  keeps served := by
    obtain ⟨server, call⟩ := served
    cases call with
    | serve caller tool =>
      cases hdirect : tool.direct with
      | false =>
        refine (always_true _ _).mono ?_ ?_
        · rintro _ _ - _ _ ⟨⟩ hdirect'
          exact absurd hdirect' (by simp [hdirect])
        · rintro _ _ - _ _ ⟨⟩ hdirect'
          exact absurd hdirect' (by simp [hdirect])
      | true =>
        refine Always.mono (ensures_serve_acts hdirect) ?_ ?_
        · rintro _ _ hop _ _ ⟨⟩ -
          exact hop
        · rintro _ _ hresult _ _ ⟨⟩ -
          exact hresult
    | recover =>
      exact (always_true _ _).mono (by rintro _ _ - _ _ ⟨⟩) (by rintro _ _ - _ _ ⟨⟩)
    | reload => exact (always_true _ _).mono (by rintro _ _ - _ _ ⟨⟩) (by rintro _ _ - _ _ ⟨⟩)

variable {pool : Pool (serverMachine coordinator ttl)} {server : ProxmoxServer}
  {caller : Option CallerCtx} {tool : Tool}

/-- **What a direct call sends**: in every run, a request with which a direct call may change a
cluster is the one its arguments ask for, on what the call has seen before. -/
theorem acts_of_event (h : Reachable (serverMachine coordinator ttl) pool)
    {newer older : ServerTrace} {id ticket : ℕ} {client : String} {request : ApiRequest}
    (htrace : pool.trace = newer ++ .event id ⟨.http (.dispatch client request), ticket⟩ :: older)
    (hmutating : request.Mutating) (hstart : .start id ⟨server, .serve caller tool⟩ ∈ pool.trace)
    (hdirect : tool.direct) :
    ∃ action, tool.Acts server caller (historyOf id older) action ∧ action.client.name = client ∧
      action.request = request := by
  obtain ⟨served, hserved, hop⟩ := h.performed (directGuarantee coordinator ttl) htrace
  have hmem : Entry.start id served ∈ pool.trace := by
    rw [htrace]
    exact List.mem_append_right _ (.tail _ hserved)
  obtain rfl := h.start_unique hstart hmem
  exact hop caller tool rfl hdirect client request rfl hmutating

/-- **Success is earned**: in every run, a direct call that has succeeded had, as the last it did,
sent the request its arguments ask for and awaited the reply; its answer is what that reply reads
as. -/
theorem done_of_finish (h : Reachable (serverMachine coordinator ttl) pool)
    {newer older : ServerTrace} {id : ℕ} {answer : Json}
    (htrace : pool.trace = newer ++ .finish id (.ok answer) :: older)
    (hstart : .start id ⟨server, .serve caller tool⟩ ∈ pool.trace) (hdirect : tool.direct) :
    ∃ (before : History Effect) (action : DirectAction) (ticket : ℕ)
      (reply : Except HttpError HttpResponse),
      historyOf id older = ⟨.http (.await ticket), reply⟩ ::
        ⟨.http (.dispatch action.client.name action.request), ticket⟩ :: before ∧
      tool.Acts server caller before action ∧
      (ProxmoxClient.readReply reply).bind action.answer = .ok answer := by
  obtain ⟨served, hserved, hresult⟩ := h.finished (directGuarantee coordinator ttl) htrace
  have hmem : Entry.start id served ∈ pool.trace := by
    rw [htrace]
    exact List.mem_append_right _ (.tail _ hserved)
  obtain rfl := h.start_unique hstart hmem
  exact hresult caller tool rfl hdirect answer rfl

end Runs

/-! ### The start of a guest -/

section Start

def startRequest : ApiRequest := Guests.lifecycleRequest onlyGuest.node .qemu 100 .start

def startHandle : String := "UPID:pve1:0001:0002:5F:qmstart:100:root@pam:"

def startReply : Except HttpError HttpResponse := answerOf (.string startHandle)

def startAnswer : Json := ProxmoxServer.taskAnswer startHandle 100 onlyGuest.node

/-- The guest is looked up and started. -/
def startEvents : List (Event Effect) :=
  storedOwner 0 3 ++ [⟨.unixNow, (0 : UInt64)⟩,
    ⟨.index (.lookupFresh "pve" 100), some (ownerHit 3)⟩,
    ⟨.http (.dispatch "pve" startRequest), (8 : ℕ)⟩, ⟨.http (.await 8), startReply⟩]

omit [Externals] in
private theorem startCall_reaches_done :
    Reaches (@Served.body Externals.plain startCall) startEvents
      (.done (.ok startAnswer)) := by
  iterate 9 refine Reaches.step _ _ _ ?_
  exact Reaches.refl _

omit [Externals] in
private theorem performs_startEvents : ∃ world, keptMachine.Performs keptPool.world 1 [] startEvents
    world := by
  have hhit : cachedWorld.index.lookup 7 "pve" 100 = some (ownerHit 3) := rfl
  exact ⟨_, .cons (.lookupFresh rfl) <| .cons (.loadGeneration rfl) <| .cons (.dispatch _ _) <|
    .cons (.await _ _) <| .cons (.storeIfCurrent rfl) <| .cons (.unixNow _) <|
    .cons (.lookupFresh hhit) <| .cons (.dispatch _ _) <| .cons (.await _ _) .nil⟩

omit [Externals] in
/-- The call is over, and has started the guest. -/
private theorem exists_reachable_startCall : ∃ (pool : Pool keptMachine) (older : ServerTrace),
    Reachable keptMachine pool ∧ pool.trace = .finish 0 (.ok startAnswer) :: older ∧
    .start 0 startCall ∈ pool.trace ∧
    .event 0 ⟨.http (.dispatch "pve" startRequest), (8 : ℕ)⟩ ∈ pool.trace := by
  have hempty : Reachable keptMachine keptPool := .initial ⟨rfl, trivial⟩
  obtain ⟨world, hperforms⟩ := performs_startEvents
  have hstarted := hempty.start 0 startCall fun _ => List.not_mem_nil
  have hran := hstarted.run Pool.setThread_self startCall_reaches_done hperforms
  have hfinished := hran.finish 0 (.ok _) (by dsimp only; exact Pool.setThread_self)
  exact ⟨_, _, hfinished, rfl, by simp, by simp [startEvents]⟩

omit [Externals] in
/-- What is sent starts guest 100. -/
theorem acts_startCall : ∃ (seen : History Effect) (action : DirectAction),
    @Tool.Acts Externals.plain oneClusterServer
      (some { destructiveCaller with grant := some ⟨["*"], [.low]⟩ }) seen
      (.lifecycle .startVm ⟨"pve", 100⟩) action ∧
    action.client.name = "pve" ∧ action.request = startRequest := by
  let _ : Externals := Externals.plain
  obtain ⟨pool, -, hpool, -, hstart, hsent⟩ := exists_reachable_startCall
  obtain ⟨newer, older, htrace⟩ := List.append_of_mem hsent
  obtain ⟨action, hacts⟩ := acts_of_event hpool htrace (by decide) hstart rfl
  exact ⟨historyOf 0 older, action, hacts⟩

omit [Externals] in
/-- The call that reports the task of the start has sent it. -/
theorem done_startCall : ∃ (older : ServerTrace) (before : History Effect) (action : DirectAction)
    (ticket : ℕ) (reply : Except HttpError HttpResponse),
    historyOf 0 older = ⟨.http (.await ticket), reply⟩ ::
      ⟨.http (.dispatch action.client.name action.request), ticket⟩ :: before ∧
    (@ProxmoxClient.readReply Externals.plain reply).bind action.answer = .ok startAnswer := by
  let _ : Externals := Externals.plain
  obtain ⟨pool, older, hpool, htrace, hstart, -⟩ := exists_reachable_startCall
  have hsplit : pool.trace = [] ++ .finish 0 (.ok startAnswer) :: older := htrace
  obtain ⟨before, action, ticket, reply, hhistory, -, hread⟩ :=
    done_of_finish hpool hsplit hstart rfl
  exact ⟨older, before, action, ticket, reply, hhistory, hread⟩

end Start

end ProxmoxMcp
