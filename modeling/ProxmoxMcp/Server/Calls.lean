import ProxmoxMcp.Server.Approval
import ProxmoxMcp.Server.Read
import ProxmoxMcp.Server.Recover

/-!
# The calls of the server

Everything a running server does is a `Call`: a tool that someone calls, the **recovery** when it
starts, or a **reload** of the inventory on SIGHUP. Each has a policy, and `Call.always_body`
collects what was shown of the handlers: every call keeps to its policy.

A reload reads the inventory file again and drops the cached listings. The clients stay as they were
built, and with them the configuration they decide with.
-/

namespace ProxmoxMcp

open Interaction Program

/-- Arguments of one read of the catalog. -/
structure ReadArgs where
  cluster : String
  params : List (String × String)
  vmid : Option UInt32
  requiresUnrestrictedGuestScope : Bool
  page : Option (UInt32 × UInt32)

/-- The tools, with their arguments. -/
inductive Tool where
  | read (tool : ReadTool) (args : ReadArgs)
  | getContainerIp (tool : ReadTool) (args : GuestArgs)
  | lifecycle (tool : LifecycleTool) (args : GuestArgs)
  | createSnapshot (args : ProxmoxServer.SnapshotArgs)
  | createBackup (args : ProxmoxServer.BackupArgs)
  | cloneVm (args : ProxmoxServer.CloneArgs)
  | resizeDisk (args : ProxmoxServer.ResizeArgs)
  | updateContainerResources (args : ProxmoxServer.ResourceArgs)
  | stopTask (args : ProxmoxServer.StopTaskArgs)
  | createGuest (kind : GuestType) (args : ProxmoxServer.CreateGuestArgs)
  | downloadIso (args : ProxmoxServer.DownloadIsoArgs)
  | planDestroy (args : PlanDestroyArgs)
  | planHaRuleChange (args : PlanHaRuleArgs)
  | planRestoreNewVmid (args : PlanRestoreNewVmidArgs)
  | getChangeSet (args : ChangeSetArgs)
  | getHaRuleChangeSet (args : HaChangeSetArgs)
  | approveChangeSet (args : ChangeSetArgs)
  | approveHaRuleChange (args : HaChangeSetArgs)
  | applyChangeSet (args : ChangeSetArgs)
  | applyHaRuleChange (args : HaChangeSetArgs)
  | applyRestoreNewVmid (args : ChangeSetArgs)

/-- What the server is called to do. -/
inductive Call where
  | serve (caller : Option CallerCtx) (tool : Tool)
  /-- Settle what was in flight, when the server starts. -/
  | recover
  /-- Read the inventory again, on SIGHUP. -/
  | reload

/-- What a call returns. -/
abbrev CallResult := Except ToolResult Json

variable [Externals]

namespace ProxmoxServer

variable (server : ProxmoxServer)

/-- Serve one tool. -/
def serve (caller : Option CallerCtx) : Tool → ToolM Json
  | .read tool args => server.serveRead tool caller args.cluster args.params args.vmid
      args.requiresUnrestrictedGuestScope args.page
  | .getContainerIp tool args => server.getContainerIp tool caller args
  | .lifecycle tool args => server.serveLifecycle tool caller args
  | .createSnapshot args => server.createSnapshot caller args
  | .createBackup args => server.createBackup caller args
  | .cloneVm args => server.cloneVm caller args
  | .resizeDisk args => server.resizeDisk caller args
  | .updateContainerResources args => server.updateContainerResources caller args
  | .stopTask args => server.stopTask caller args
  | .createGuest kind args => server.createGuest kind caller args
  | .downloadIso args => server.downloadIso caller args
  | .planDestroy args => server.planDestroy caller args
  | .planHaRuleChange args => server.planHaRuleChange caller args
  | .planRestoreNewVmid args => server.planRestoreNewVmid caller args
  | .getChangeSet args => server.getChangeSet caller args
  | .getHaRuleChangeSet args => ProxmoxMcp.getHaRuleChangeSet caller args
  | .approveChangeSet args => server.approveChangeSet caller args
  | .approveHaRuleChange args => ProxmoxMcp.approveHaRuleChange caller args
  | .applyChangeSet args => server.applyChangeSet caller args
  | .applyHaRuleChange args => server.applyHaRuleChange caller args
  | .applyRestoreNewVmid args => server.applyRestoreNewVmid caller args

omit [Externals] in
/-- Read the inventory again and, if that succeeds, drop the cached listings. -/
def reloadClusters : ToolM Unit := do
  match ← reloadInventory with
  | .ok _ => invalidate
  | .error _ => return ()

end ProxmoxServer

/-- What a call does. -/
def Call.body (server : ProxmoxServer) : Call → Program Effect CallResult
  | serve caller tool => (server.serve caller tool).run
  | recover => (do server.recoverInFlight; return .null : ToolM Json).run
  | reload => (do ProxmoxServer.reloadClusters; return .null : ToolM Json).run

/-! ### Policies -/

/-- The policy of a reload: it drops what is cached. -/
def reloadPolicy : Policy where
  lookups _ _ _ := False
  sends _ _ _ := False
  records _ _ := False

/-- The policy of a tool. -/
def Tool.policy (server : ProxmoxServer) (caller : Option CallerCtx) : Tool → Policy
  | read _ _ | getContainerIp _ _ => ProxmoxServer.readPolicy
  | lifecycle tool args => server.lowPolicy (interruptsService tool.name) caller tool.name args
      fun authorization request => request = Guests.lifecycleRequest authorization.guest.node
        authorization.guest.type authorization.guest.vmid tool.verb
  | createSnapshot args => server.lowPolicy false caller "create_snapshot" ⟨args.cluster, args.vmid⟩
      fun authorization request => request = Guests.createSnapshotRequest authorization.guest.node
        authorization.guest.type authorization.guest.vmid args.snapname args.description
  | createBackup args => server.lowPolicy (backupInterrupts args.mode) caller "create_backup"
      ⟨args.cluster, args.vmid⟩ fun authorization request => request = Guests.createBackupRequest
        authorization.guest.node authorization.guest.vmid args.storage args.mode args.compress
  | cloneVm args => server.lowPolicy false caller "clone_vm" ⟨args.cluster, args.vmid⟩
      fun authorization request => creationAllowed authorization.client.cluster args.newid ∧
        authorization.grant.allowsNewVmid args.newid ∧
        request = Guests.cloneGuestRequest authorization.guest.node authorization.guest.type
          authorization.guest.vmid args.newid args.name args.full
  | resizeDisk args => server.lowPolicy false caller "resize_disk" ⟨args.cluster, args.vmid⟩
      fun authorization request => request = Guests.resizeDiskRequest authorization.guest.node
        authorization.guest.type authorization.guest.vmid args.disk args.size
  | updateContainerResources args => server.lowPolicy true caller "update_container_resources"
      ⟨args.cluster, args.vmid⟩ fun authorization request =>
        request = Guests.updateContainerResourcesRequest authorization.guest.node
          authorization.guest.vmid (Guests.resourceForm args.cores args.memoryMb args.swapMb)
  | stopTask args => server.stopTaskPolicy caller args
  | createGuest kind args => server.creationPolicy caller args.cluster args.vmid fun request =>
      rejectUnsafeConfig args.config = none ∧ request = Guests.createGuestRequest args.node kind
        args.vmid (ProxmoxServer.createConfig kind args.config)
  | downloadIso args => ProxmoxServer.blindPolicy args.cluster fun request => ∃ checksum,
      ProxmoxServer.checksumOf args = .ok checksum ∧ request = Guests.downloadUrlRequest args.node
        args.storage args.content args.filename args.url checksum
  | planDestroy _ => PlanCall.policy ⟨.destroy, caller⟩ server
  | planHaRuleChange _ => PlanCall.policy ⟨.haRule, caller⟩ server
  | planRestoreNewVmid _ => PlanCall.policy ⟨.restoreNewVmid, caller⟩ server
  | getChangeSet args => getPolicy args.changeSetId args.device
  | getHaRuleChangeSet args => getPolicy args.changeSetId (haRuleDevice args.cluster args.rule)
  | approveChangeSet args => approvePolicy caller args.changeSetId args.device
      (ApproverAuthority server caller args)
  | approveHaRuleChange args => approvePolicy caller args.changeSetId
      (haRuleDevice args.cluster args.rule) fun _ _ => True
  | applyChangeSet args => server.destroyPolicy caller args
  | applyHaRuleChange args => server.haRulePolicy caller args
  | applyRestoreNewVmid args => server.restorePolicy caller args

/-- The policy of a call. -/
def Call.policy (server : ProxmoxServer) : Call → Policy
  | serve caller tool => tool.policy server caller
  | recover => recoverPolicy
  | reload => reloadPolicy

section Rules

variable {server : ProxmoxServer} {caller : Option CallerCtx}

/-- **Every tool keeps to its policy.** -/
theorem ensures_serve (tool : Tool) :
    Ensures (tool.policy server caller).Allows (fun _ _ => True) [] (server.serve caller tool) := by
  have hunsent : Unsent [] := fun _ hmem => absurd hmem List.not_mem_nil
  cases tool with
  | read tool args => exact ProxmoxServer.ensures_serveRead tool caller _ _ _ _ _
  | getContainerIp tool args => exact ProxmoxServer.ensures_getContainerIp tool caller args
  | lifecycle tool args => exact ProxmoxServer.ensures_serveLifecycle tool args
  | createSnapshot args => exact ProxmoxServer.ensures_createSnapshot args
  | createBackup args => exact ProxmoxServer.ensures_createBackup args
  | cloneVm args => exact ProxmoxServer.ensures_cloneVm args
  | resizeDisk args => exact ProxmoxServer.ensures_resizeDisk args
  | updateContainerResources args => exact ProxmoxServer.ensures_updateContainerResources args
  | stopTask args => exact ProxmoxServer.ensures_stopTask args
  | createGuest kind args => exact ProxmoxServer.ensures_createGuest kind args
  | downloadIso args => exact ProxmoxServer.ensures_downloadIso args
  | planDestroy args => exact ProxmoxServer.ensures_planDestroy args
  | planHaRuleChange args => exact ProxmoxServer.ensures_planHaRuleChange args
  | planRestoreNewVmid args => exact ProxmoxServer.ensures_planRestoreNewVmid args
  | getChangeSet args => exact ensures_getChangeSet args
  | getHaRuleChangeSet args => exact ensures_getHaRuleChangeSet args
  | approveChangeSet args =>
    exact (ensures_approveChangeSet args).mono (fun _ _ hop => hop) fun _ _ _ => trivial
  | approveHaRuleChange args => exact ensures_approveHaRuleChange args
  | applyChangeSet args => exact ProxmoxServer.ensures_applyChangeSet args hunsent
  | applyHaRuleChange args => exact ProxmoxServer.ensures_applyHaRuleChange args hunsent
  | applyRestoreNewVmid args => exact ProxmoxServer.ensures_applyRestoreNewVmid args hunsent

/-- A reload only drops listings, and only when it has succeeded. -/
private theorem always_reloadClusters {h : History Effect} :
    Always reloadPolicy.Allows (fun h' _ => ∃ reply, ⟨.reloadInventory, reply⟩ ∈ h' ∧
        ∀ clusters, reply = .ok clusters → ∀ cluster, Dropped cluster h') h
      ProxmoxServer.reloadClusters.run := by
  refine ⟨trivial, fun reply => ?_⟩
  cases reply with
  | error error => exact ⟨_, List.mem_cons_self, fun clusters heq => by cases heq⟩
  | ok clusters =>
    exact ⟨trivial, fun _ =>
      ⟨⟨_, rfl⟩, fun _ => ⟨.ok clusters, .tail _ (.tail _ List.mem_cons_self),
      fun _ _ cluster => ⟨[], _, _, _, rfl, .inl rfl⟩⟩⟩⟩

/-- **Every call keeps to its policy.** -/
theorem Call.always_body (call : Call) :
    Always (call.policy server).Allows (fun _ _ => True) [] (call.body server) := by
  cases call with
  | serve caller tool =>
    exact Always.mono (ensures_serve tool) (fun _ _ hop => hop) fun _ _ _ => trivial
  | recover =>
    exact Always.run_bind (R := fun _ _ => True) (Always.mono ensures_recoverInFlight
      (fun _ _ hop => hop) fun _ _ _ => trivial) (fun _ _ _ => trivial) fun _ _ _ => trivial
  | reload =>
    exact Always.run_bind (R := fun _ _ => True) (always_reloadClusters.mono (fun _ _ hop => hop)
      fun _ _ _ => trivial) (fun _ _ _ => trivial) fun _ _ _ => trivial

end Rules

end ProxmoxMcp
