import ProxmoxMcp.Fallible
import ProxmoxMcp.Server.Catalog
import ProxmoxMcp.Server.Freshness
import ProxmoxMcp.Server.Warrants

/-!
# The warrant of a tool

Each tool has a name, under which its caller is authorized, and a cluster. Its **warrant** follows
from these and from what its caller carries: a tool that acts needs the grant to carry a tier, and
most need the direct-commit policy to let them through. `heeds_serve` says that every handler stays
under the warrant of its tool, and does nothing at all before its caller is authorized for it.

In a run, so does every call: `authorized_of_event` and `carries_of_event`.
-/

namespace ProxmoxMcp

open Interaction Program Text

namespace Tool

/-- The name a tool is authorized under. -/
def name : Tool → String
  | read tool _ => tool.name
  | getContainerIp _ _ => "get_container_ip"
  | lifecycle tool _ => tool.name
  | createSnapshot _ => "create_snapshot"
  | createBackup _ => "create_backup"
  | cloneVm _ => "clone_vm"
  | resizeDisk _ => "resize_disk"
  | updateContainerResources _ => "update_container_resources"
  | stopTask _ => "stop_task"
  | createGuest kind _ => ProxmoxServer.creationTool kind
  | downloadIso _ => "download_iso"
  | planDestroy _ => "plan_proxmox_destroy"
  | planHaRuleChange _ => "plan_ha_rule_change"
  | planRestoreNewVmid _ => "plan_restore_new_vmid"
  | getChangeSet _ => "get_proxmox_change_set"
  | getHaRuleChangeSet _ => "get_ha_rule_change_set"
  | approveChangeSet _ => "approve_proxmox_change_set"
  | approveHaRuleChange _ => "approve_ha_rule_change"
  | applyChangeSet _ => "apply_proxmox_change_set"
  | applyHaRuleChange _ => "apply_ha_rule_change"
  | applyRestoreNewVmid _ => "apply_restore_new_vmid"

/-- The cluster a tool names. -/
def cluster : Tool → String
  | read _ args => args.cluster
  | getContainerIp _ args => args.cluster
  | lifecycle _ args => args.cluster
  | createSnapshot args => args.cluster
  | createBackup args => args.cluster
  | cloneVm args => args.cluster
  | resizeDisk args => args.cluster
  | updateContainerResources args => args.cluster
  | stopTask args => args.cluster
  | createGuest _ args => args.cluster
  | downloadIso args => args.cluster
  | planDestroy args => args.cluster
  | planHaRuleChange args => args.cluster
  | planRestoreNewVmid args => args.cluster
  | getChangeSet args => args.cluster
  | getHaRuleChangeSet args => args.cluster
  | approveChangeSet args => args.cluster
  | approveHaRuleChange args => args.cluster
  | applyChangeSet args => args.cluster
  | applyHaRuleChange args => args.cluster
  | applyRestoreNewVmid args => args.cluster

/-- Whether the direct-commit policy has to let a tool through. -/
def gated : Tool → Bool
  | lifecycle tool _ => interruptsService tool.name
  | createBackup _ | cloneVm _ | resizeDisk _ | updateContainerResources _ | stopTask _
  | createGuest _ _ => true
  | _ => false

end Tool

variable [Externals]

/-- The caller's grant carries a tier. -/
def Carries (caller : Option CallerCtx) (tier : Tier) : Prop :=
  ∃ grant, resolveGrant caller = .ok grant ∧ grant.allowsAction tier.action

/-- What a tool may do for a caller. -/
def Tool.warrant (server : ProxmoxServer) (caller : Option CallerCtx) (tool : Tool) : Warrant where
  cluster := tool.cluster
  sends := match tool with
    | .lifecycle _ _ | .createSnapshot _ | .createBackup _ | .cloneVm _ | .resizeDisk _
    | .updateContainerResources _ | .stopTask _ | .createGuest _ _ | .downloadIso _ =>
      Carries caller .low ∧ (tool.gated → server.directCommit = .ok ())
    | .applyChangeSet _ | .applyHaRuleChange _ | .applyRestoreNewVmid _ =>
      Carries caller .destructive
    | _ => False
  records := match tool with
    | .planDestroy _ | .planHaRuleChange _ | .planRestoreNewVmid _ | .applyChangeSet _
    | .applyHaRuleChange _ | .applyRestoreNewVmid _ => Carries caller .destructive
    | _ => False

/-- What a tool does for a caller: it keeps to its warrant, once the caller is authorized. -/
structure Tool.Does (server : ProxmoxServer) (caller : Option CallerCtx) (tool : Tool) (op : Op) :
    Prop where
  authorized : authorizeCall caller tool.name tool.cluster = .ok ()
  under : op.Under (tool.warrant server caller)

variable {server : ProxmoxServer} {caller : Option CallerCtx}

/-- A handler under the warrant of a tool, once the caller is authorized. -/
theorem Warranted.does (tool : Tool) {α : Type} {p : ToolM α}
    (hp : Warranted (tool.warrant server caller) p)
    (hauthorized : authorizeCall caller tool.name tool.cluster = .ok ()) :
    Heeds (tool.Does server caller) (fun _ => True) p :=
  hp.mono (fun _ hop => ⟨hauthorized, hop⟩) fun _ _ => trivial

namespace ProxmoxServer

/-! ### Authorizing -/

/-- The outcome of the direct-commit gate is that of the policy. -/
private theorem directCommit_of_gate (h : server.gateDirectCommit = .ok ()) :
    server.directCommit = .ok () :=
  eq_ok_of_mapError h

/-- **Authorizing a low-tier call**: the caller is authorized for the tool and carries the tier. -/
theorem heeds_authorizeLowWithInterrupts {warrant : Warrant} (tool : String) (vmid : UInt32)
    (interrupts : Option Bool) :
    Heeds (fun (op : Op) => authorizeCall caller tool warrant.cluster = .ok () ∧ op.Under warrant)
      (fun authorization => authorizeCall caller tool warrant.cluster = .ok () ∧
        authorization.client.name = warrant.cluster ∧ Carries caller .low)
      (server.authorizeLowWithInterrupts caller tool ⟨warrant.cluster, vmid⟩ interrupts) := by
  refine Heeds.liftExcept fun _ hauthorized => Heeds.liftExcept fun client hclient =>
    Heeds.liftExcept fun grant hgrant => ?_
  have hname : client.name = warrant.cluster := name_of_clientFor hclient
  refine Heeds.mono (G := Op.Under warrant) (R := fun authorization =>
    authorization.client.name = warrant.cluster ∧ Carries caller .low) ?_
    (fun _ hop => ⟨hauthorized, hop⟩) fun _ hvalue => ⟨hauthorized, hvalue⟩
  refine Heeds.bind (R := fun _ => True) (heeds_onlyIf fun _ => warranted_invalidateCluster warrant)
    fun _ _ => ?_
  refine (heeds_authorizeWithOverride .low hname fun _ => tier_lowIntent).bind
    fun verdict hverdict => heeds_pure ⟨?_, grant, hgrant, hverdict.2⟩
  rw [hverdict.1]
  exact hname

/-- **Authorizing a creation**: the caller is authorized for the tool and carries the tier. -/
theorem heeds_authorizeCreation {warrant : Warrant} (tool : String) (vmid : UInt32) :
    Heeds (fun (op : Op) => authorizeCall caller tool warrant.cluster = .ok () ∧ op.Under warrant)
      (fun client => authorizeCall caller tool warrant.cluster = .ok () ∧
        client.name = warrant.cluster ∧ Carries caller .low)
      (server.authorizeCreation caller tool warrant.cluster vmid) := by
  refine Heeds.liftExcept fun _ hauthorized => Heeds.liftExcept fun client hclient =>
    Heeds.liftExcept fun grant hgrant => Heeds.ensure fun hcarries => Heeds.ensure fun _ =>
    Heeds.ensure fun _ => ?_
  have hname : client.name = warrant.cluster := name_of_clientFor hclient
  refine Heeds.mono (G := Op.Under warrant) (R := fun value => value = client) ?_
    (fun _ hop => ⟨hauthorized, hop⟩)
    (by rintro _ rfl; exact ⟨hauthorized, hname, grant, hgrant, hcarries⟩)
  refine Heeds.bind (R := fun _ => True) (warranted_invalidateCluster warrant) fun _ _ => ?_
  refine Heeds.attempt (warranted_resolve hname) fun outcome => ?_
  cases outcome with
  | ok existing => exact heeds_throw
  | error error =>
    cases error with
    | notFound what => exact heeds_pure rfl
    | _ => exact heeds_throw

/-- The shape of a low-tier tool: authorize, then act under the warrant. -/
private theorem heeds_low (tool : Tool) {vmid : UInt32} {interrupts : Option Bool}
    {rest : Authorization → ToolM Json}
    (hrest : ∀ authorization, authorization.client.name = tool.cluster → Carries caller .low →
      Warranted (tool.warrant server caller) (rest authorization)) :
    Heeds (tool.Does server caller) (fun _ => True)
      (server.authorizeLowWithInterrupts caller tool.name ⟨tool.cluster, vmid⟩ interrupts >>=
        rest) := by
  have hlow := @heeds_authorizeLowWithInterrupts _ server caller (tool.warrant server caller)
    tool.name vmid interrupts
  refine (hlow.mono (fun _ hop => ⟨hop.1, hop.2⟩) fun _ hvalue => hvalue).bind
    fun authorization hvalue => ?_
  exact (hrest authorization hvalue.2.1 hvalue.2.2).does tool hvalue.1

/-! ### Low-tier handlers -/

section LowTier

private theorem heeds_serveLifecycle (tool : LifecycleTool) (args : GuestArgs) :
    Heeds ((Tool.lifecycle tool args).Does server caller) (fun _ => True)
      (server.serveLifecycle tool caller args) := by
  refine heeds_low (.lifecycle tool args) fun authorization hclient hcarries =>
    Heeds.ensure fun _ => Heeds.liftExcept fun _ hgate => ?_
  refine warranted_bind (warranted_runTask hclient ⟨hcarries, fun hgated => ?_⟩) fun _ =>
    heeds_pure trivial
  have hinterrupts : interruptsService tool.name = true := hgated
  rw [if_pos hinterrupts] at hgate
  exact directCommit_of_gate hgate

private theorem heeds_createSnapshot (args : SnapshotArgs) :
    Heeds ((Tool.createSnapshot args).Does server caller) (fun _ => True)
      (server.createSnapshot caller args) := by
  refine heeds_low (.createSnapshot args) fun authorization _ hcarries =>
    Heeds.liftExcept fun client hclient => ?_
  exact warranted_bind (warranted_runTask (name_of_clientFor hclient) ⟨hcarries, nofun⟩) fun _ =>
    heeds_pure trivial

private theorem heeds_createBackup (args : BackupArgs) :
    Heeds ((Tool.createBackup args).Does server caller) (fun _ => True)
      (server.createBackup caller args) := by
  refine Heeds.ensure fun _ => heeds_low (.createBackup args) fun authorization _ hcarries =>
    Heeds.liftExcept fun client hclient => Heeds.liftExcept fun _ hgate => ?_
  exact warranted_bind (warranted_runTask (name_of_clientFor hclient) ⟨hcarries, fun _ =>
    directCommit_of_gate hgate⟩) fun _ => heeds_pure trivial

private theorem heeds_cloneVm (args : CloneArgs) :
    Heeds ((Tool.cloneVm args).Does server caller) (fun _ => True)
    (server.cloneVm caller args) := by
  refine heeds_low (.cloneVm args) fun authorization _ hcarries =>
    Heeds.liftExcept fun client hclient => Heeds.liftExcept fun _ _ => Heeds.ensure fun _ =>
    Heeds.ensure fun _ => Heeds.liftExcept fun _ hgate => ?_
  exact warranted_bind (warranted_runTask (name_of_clientFor hclient) ⟨hcarries, fun _ =>
    directCommit_of_gate hgate⟩) fun _ => heeds_pure trivial

private theorem heeds_resizeDisk (args : ResizeArgs) :
    Heeds ((Tool.resizeDisk args).Does server caller) (fun _ => True)
      (server.resizeDisk caller args) := by
  refine Heeds.ensure fun _ => heeds_low (.resizeDisk args) fun authorization _ hcarries =>
    Heeds.liftExcept fun client hclient => Heeds.liftExcept fun _ hgate => ?_
  refine warranted_bind (heeds_mapError ?_) fun _ => heeds_pure trivial
  exact warranted_bind (warranted_send (name_of_clientFor hclient) fun _ => ⟨hcarries, fun _ =>
    directCommit_of_gate hgate⟩) fun _ => heeds_pure trivial

private theorem heeds_updateContainerResources (args : ResourceArgs) :
    Heeds ((Tool.updateContainerResources args).Does server caller) (fun _ => True)
      (server.updateContainerResources caller args) := by
  refine Heeds.ensure fun _ => heeds_low (.updateContainerResources args)
    fun authorization _ hcarries => Heeds.liftExcept fun client hclient => Heeds.ensure fun _ =>
    Heeds.liftExcept fun _ hgate => ?_
  refine warranted_bind (heeds_mapError ?_) fun _ => heeds_pure trivial
  exact Heeds.ensure fun _ => warranted_send (name_of_clientFor hclient) fun _ =>
    ⟨hcarries, fun _ => directCommit_of_gate hgate⟩

private theorem heeds_stopTask (args : StopTaskArgs) :
    Heeds ((Tool.stopTask args).Does server caller) (fun _ => True)
      (server.stopTask caller args) := by
  refine Heeds.ensure fun _ => Heeds.required fun node _ => Heeds.liftExcept fun _ hauthorized =>
    Heeds.liftExcept fun client hclient => Heeds.liftExcept fun grant hgrant =>
    Heeds.ensure fun hcarries => Warranted.does (.stopTask args) ?_ hauthorized
  have hstop : Warranted ((Tool.stopTask args).warrant server caller)
      (server.authorizeStopTask caller grant args) := by
    rw [authorizeStopTask]
    cases taskGuest args.upid with
    | none => exact Heeds.ensure fun _ => heeds_pure trivial
    | some vmid =>
      refine Heeds.bind (R := fun _ => True) ((@heeds_authorizeLowWithInterrupts _ server caller
        ((Tool.stopTask args).warrant server caller) "stop_task" vmid none).mono
        (fun _ hop => hop.2) fun _ _ => trivial) fun _ _ => heeds_pure trivial
  refine hstop.bind fun _ _ => Heeds.liftExcept fun _ hgate => ?_
  refine warranted_bind (heeds_mapError ?_) fun _ => heeds_pure trivial
  exact Heeds.ensure fun _ => Heeds.ensure fun _ => Heeds.ensure fun _ => Heeds.ensure fun _ =>
    Heeds.liftExcept fun _ _ => warranted_send (name_of_clientFor hclient) fun _ =>
    ⟨⟨grant, hgrant, hcarries⟩, fun _ => directCommit_of_gate hgate⟩

private theorem heeds_createGuest (kind : GuestType) (args : CreateGuestArgs) :
    Heeds ((Tool.createGuest kind args).Does server caller) (fun _ => True)
      (server.createGuest kind caller args) := by
  rw [createGuest]
  cases rejectUnsafeConfig args.config with
  | some refusal => exact heeds_throw
  | none =>
    have hcreation := @heeds_authorizeCreation _ server caller
      ((Tool.createGuest kind args).warrant server caller) (creationTool kind) args.vmid
    refine (hcreation.mono (fun _ hop => ⟨hop.1, hop.2⟩) fun _ hvalue => hvalue).bind
      fun client hvalue => ?_
    refine Warranted.does (.createGuest kind args) ?_ hvalue.1
    refine Heeds.liftExcept fun _ hgate => ?_
    exact warranted_bind (warranted_runTask hvalue.2.1 ⟨hvalue.2.2, fun _ =>
      directCommit_of_gate hgate⟩) fun _ => heeds_pure trivial

private theorem heeds_downloadIso (args : DownloadIsoArgs) :
    Heeds ((Tool.downloadIso args).Does server caller) (fun _ => True)
      (server.downloadIso caller args) := by
  refine Heeds.liftExcept fun _ hauthorized => Heeds.liftExcept fun client hclient =>
    Heeds.liftExcept fun grant hgrant => Heeds.ensure fun hcarries => Heeds.ensure fun _ =>
    Heeds.liftExcept fun _ _ => Warranted.does (.downloadIso args) ?_ hauthorized
  exact warranted_bind (warranted_runTask (name_of_clientFor hclient)
    ⟨⟨grant, hgrant, hcarries⟩, nofun⟩) fun _ => heeds_pure trivial

end LowTier

/-! ### Reads -/

section Reads

private theorem heeds_serveRead (tool : ReadTool) (args : ReadArgs) :
    Heeds ((Tool.read tool args).Does server caller) (fun _ => True)
      (server.serve caller (.read tool args)) := by
  refine Heeds.liftExcept fun _ hauthorized => Heeds.liftExcept fun _ _ =>
    Heeds.liftExcept fun client hclient => Warranted.does (.read tool args) ?_ hauthorized
  have hname : client.name = ((Tool.read tool args).warrant server caller).cluster :=
    name_of_clientFor hclient
  refine warranted_bind ?_ fun params => warranted_bind (heeds_mapError
    (warranted_send hname (sends_of_get rfl))) fun value => Heeds.liftExcept fun value _ => ?_
  · cases args.vmid with
    | none => exact heeds_pure trivial
    | some vmid =>
      exact Heeds.liftExcept fun grant _ => warranted_bind
        (heeds_mapError (warranted_authorize hname)) fun _ =>
        heeds_liftExcept fun _ _ => trivial
  · cases args.page with
    | none => exact heeds_pure trivial
    | some page => exact heeds_liftExcept fun _ _ => trivial

private theorem heeds_getContainerIp (tool : ReadTool) (args : GuestArgs) :
    Heeds ((Tool.getContainerIp tool args).Does server caller) (fun _ => True)
      (server.getContainerIp tool caller args) := by
  refine Heeds.liftExcept fun _ hauthorized => Heeds.liftExcept fun client hclient =>
    Heeds.liftExcept fun grant _ => Warranted.does (.getContainerIp tool args) ?_ hauthorized
  have hname : client.name = ((Tool.getContainerIp tool args).warrant server caller).cluster :=
    name_of_clientFor hclient
  refine warranted_bind (heeds_mapError (warranted_authorize hname)) fun _ => ?_
  exact Heeds.ensure fun _ => heeds_mapError (warranted_send hname (sends_of_get rfl))

end Reads

/-! ### Change sets -/

section ChangeSets

private theorem heeds_planDestroy (args : PlanDestroyArgs) :
    Heeds ((Tool.planDestroy args).Does server caller) (fun _ => True)
      (server.planDestroy caller args) := by
  refine Heeds.liftExcept fun _ hauthorized => Heeds.liftExcept fun client hclient =>
    Heeds.liftExcept fun grant hgrant => Warranted.does (.planDestroy args) ?_ hauthorized
  have hname : client.name = ((Tool.planDestroy args).warrant server caller).cluster :=
    name_of_clientFor hclient
  refine warranted_bind (warranted_invalidateCluster
    ((Tool.planDestroy args).warrant server caller)) fun _ => ?_
  refine Heeds.bind (heeds_authorizeWithOverride .destructive hname fun _ => rfl)
    fun verdict hverdict => Heeds.liftExcept fun action _ => ?_
  refine warranted_bind (warranted_checkPlannedOwner hname) fun _ =>
    warranted_bind (warranted_checkPlannable hname) fun _ => Heeds.required fun tool _ =>
    Heeds.liftExcept fun _ _ => Heeds.liftExcept fun _ _ => ?_
  refine warranted_bind (warranted_readGuestState hname) fun state => ?_
  exact warranted_bind (warranted_recordPlan ⟨grant, hgrant, hverdict.2⟩) fun output =>
    warranted_bind warranted_waiveInLabMode fun _ => heeds_pure trivial

/-- A caller that has passed the check of the HA tier carries it. -/
private theorem carries_of_haTier (h : requireHaRuleDestructiveTier caller = .ok ()) :
    Carries caller .destructive := by
  rw [requireHaRuleDestructiveTier] at h
  obtain ⟨grant, hgrant, htier⟩ := Fallible.bind_eq_ok_iff.mp h
  refine ⟨grant, hgrant, ?_⟩
  split_ifs at htier with hcarries
  exact hcarries

private theorem heeds_planHaRuleChange (args : PlanHaRuleArgs) :
    Heeds ((Tool.planHaRuleChange args).Does server caller) (fun _ => True)
      (server.planHaRuleChange caller args) := by
  refine Heeds.liftExcept fun _ hauthorized => Heeds.liftExcept fun client hclient =>
    Heeds.liftExcept fun action _ => Heeds.required fun _ _ => Heeds.liftExcept fun _ _ =>
    Heeds.liftExcept fun _ htier => Warranted.does (.planHaRuleChange args) ?_ hauthorized
  have hname : client.name = ((Tool.planHaRuleChange args).warrant server caller).cluster :=
    name_of_clientFor hclient
  refine warranted_bind (warranted_readCurrentRule hname) fun existing => Heeds.liftExcept
    fun _ _ => ?_
  refine warranted_bind (warranted_authorizeHaRuleGuests hname) fun _ => ?_
  exact warranted_bind (warranted_recordPlan (carries_of_haTier htier)) fun _ => heeds_pure trivial

private theorem heeds_planRestoreNewVmid (args : PlanRestoreNewVmidArgs) :
    Heeds ((Tool.planRestoreNewVmid args).Does server caller) (fun _ => True)
      (server.planRestoreNewVmid caller args) := by
  refine Heeds.liftExcept fun _ hauthorized => Heeds.liftExcept fun _ _ =>
    Heeds.liftExcept fun client hclient => Heeds.liftExcept fun grant hgrant =>
    Heeds.ensure fun hcarries => Heeds.liftExcept fun _ _ =>
    Warranted.does (.planRestoreNewVmid args) ?_ hauthorized
  have hname : client.name = ((Tool.planRestoreNewVmid args).warrant server caller).cluster :=
    name_of_clientFor hclient
  refine warranted_bind (heeds_mapError (warranted_resolveBackupOwner hname)) fun owner => ?_
  refine warranted_bind (warranted_authorizeBackupOwner hname) fun _ =>
    Heeds.liftExcept fun action _ => ?_
  refine warranted_bind (Heeds.ensure fun _ => heeds_ensure) fun _ => ?_
  refine warranted_bind (warranted_requireFree hname) fun _ => ?_
  exact warranted_bind (warranted_recordPlan ⟨grant, hgrant, hcarries⟩) fun _ => heeds_pure trivial

private theorem heeds_getChangeSet (args : ChangeSetArgs) :
    Heeds ((Tool.getChangeSet args).Does server caller) (fun _ => True)
      (server.getChangeSet caller args) := by
  refine Heeds.liftExcept fun _ hauthorized => Heeds.liftExcept fun client hclient =>
    Heeds.liftExcept fun grant _ => Warranted.does (.getChangeSet args) ?_ hauthorized
  have hname : client.name = ((Tool.getChangeSet args).warrant server caller).cluster :=
    name_of_clientFor hclient
  refine warranted_bind warranted_recordOf fun record => warranted_bind ?_ fun _ =>
    heeds_pure trivial
  rw [authorizeReading]
  split
  · exact heeds_pure trivial
  · split
    · exact warranted_bind (heeds_mapError (warranted_authorize hname)) fun _ =>
        heeds_pure trivial
    · exact Heeds.ensure fun _ => warranted_authorizeBackupOwner hname
    · exact heeds_throw

private theorem heeds_getHaRuleChangeSet (args : HaChangeSetArgs) :
    Heeds ((Tool.getHaRuleChangeSet args).Does server caller) (fun _ => True)
      (ProxmoxMcp.getHaRuleChangeSet caller args) := by
  refine Heeds.liftExcept fun _ hauthorized => Heeds.liftExcept fun grant _ => Heeds.ensure fun _ =>
    Warranted.does (.getHaRuleChangeSet args) ?_ hauthorized
  exact warranted_bind warranted_recordOf fun _ => heeds_pure trivial

private theorem heeds_approveChangeSet (args : ChangeSetArgs) :
    Heeds ((Tool.approveChangeSet args).Does server caller) (fun _ => True)
      (server.approveChangeSet caller args) := by
  refine Heeds.liftExcept fun _ hauthorized => Heeds.liftExcept fun client hclient =>
    Heeds.liftExcept fun grant _ => Warranted.does (.approveChangeSet args) ?_ hauthorized
  have hname : client.name = ((Tool.approveChangeSet args).warrant server caller).cluster :=
    name_of_clientFor hclient
  refine warranted_bind warranted_recordOf fun record => Heeds.required fun preview _ =>
    warranted_bind (Heeds.required fun raw _ => ?_) fun _ => warranted_approveRecord
  split
  · refine Heeds.bind (heeds_authorizeWithOverride .destructive hname fun _ => rfl)
      fun verdict _ => ?_
    exact Heeds.required fun _ _ => Heeds.liftExcept fun _ _ => heeds_liftExcept fun _ _ => trivial
  · refine Heeds.liftExcept fun _ _ => Heeds.ensure fun _ => ?_
    exact warranted_bind (Heeds.ensure fun _ => heeds_ensure) fun _ =>
      warranted_authorizeBackupOwner hname
  · exact heeds_throw

private theorem heeds_approveHaRuleChange (args : HaChangeSetArgs) :
    Heeds ((Tool.approveHaRuleChange args).Does server caller) (fun _ => True)
      (ProxmoxMcp.approveHaRuleChange caller args) := by
  refine Heeds.liftExcept fun _ hauthorized =>
    Warranted.does (.approveHaRuleChange args) ?_ hauthorized
  exact warranted_bind warranted_recordOf fun _ => Heeds.required fun _ _ => warranted_approveRecord

private theorem heeds_applyChangeSet (args : ChangeSetArgs) :
    Heeds ((Tool.applyChangeSet args).Does server caller) (fun _ => True)
      (server.applyChangeSet caller args) := by
  refine Heeds.liftExcept fun _ hauthorized => Heeds.liftExcept fun client hclient =>
    Warranted.does (.applyChangeSet args) ?_ hauthorized
  have hname : client.name = ((Tool.applyChangeSet args).warrant server caller).cluster :=
    name_of_clientFor hclient
  refine warranted_bind warranted_recordOf fun record => Heeds.ensure fun _ =>
    Heeds.liftExcept fun grant hgrant => ?_
  refine warranted_bind (warranted_invalidateCluster
    ((Tool.applyChangeSet args).warrant server caller)) fun _ => ?_
  refine Heeds.bind (heeds_authorizeWithOverride .destructive hname fun _ => rfl)
    fun verdict hverdict => ?_
  have hcarries : Carries caller .destructive := ⟨grant, hgrant, hverdict.2⟩
  refine warranted_bind (warranted_readGuestState hname) fun state =>
    Heeds.ensure fun _ => Heeds.ensure fun _ => Heeds.liftExcept fun action _ =>
    Heeds.required fun _ _ => Heeds.liftExcept fun _ _ => Heeds.liftExcept fun _ _ =>
    Heeds.liftExcept fun _ _ => ?_
  exact ApplyCall.warranted_run_follow hname hcarries (warranted_executeDestructive hname hcarries)

private theorem heeds_applyHaRuleChange (args : HaChangeSetArgs) :
    Heeds ((Tool.applyHaRuleChange args).Does server caller) (fun _ => True)
      (server.applyHaRuleChange caller args) := by
  refine Heeds.liftExcept fun _ hauthorized => Heeds.liftExcept fun client hclient =>
    Warranted.does (.applyHaRuleChange args) ?_ hauthorized
  have hname : client.name = ((Tool.applyHaRuleChange args).warrant server caller).cluster :=
    name_of_clientFor hclient
  refine warranted_bind warranted_recordOf fun record => Heeds.ensure fun _ =>
    Heeds.liftExcept fun _ htier => ?_
  have hcarries : Carries caller .destructive := carries_of_haTier htier
  refine warranted_bind (warranted_readCurrentRule hname) fun existing => Heeds.ensure fun _ =>
    Heeds.ensure fun _ => Heeds.liftExcept fun action _ => Heeds.required fun _ _ =>
    Heeds.liftExcept fun _ _ => Heeds.ensure fun _ => ?_
  refine warranted_bind (warranted_authorizeHaRuleGuests hname) fun _ => ?_
  exact warranted_bind (ApplyCall.warranted_run hcarries (warranted_writeHaRule hname hcarries))
    fun _ => warranted_bind ApplyCall.warranted_finish fun _ => heeds_pure trivial

private theorem heeds_applyRestoreNewVmid (args : ChangeSetArgs) :
    Heeds ((Tool.applyRestoreNewVmid args).Does server caller) (fun _ => True)
      (server.applyRestoreNewVmid caller args) := by
  refine Heeds.liftExcept fun _ hauthorized => Heeds.liftExcept fun client hclient =>
    Warranted.does (.applyRestoreNewVmid args) ?_ hauthorized
  have hname : client.name = ((Tool.applyRestoreNewVmid args).warrant server caller).cluster :=
    name_of_clientFor hclient
  refine warranted_bind warranted_recordOf fun record => Heeds.ensure fun _ =>
    Heeds.liftExcept fun action _ => Heeds.ensure fun _ => Heeds.liftExcept fun _ _ =>
    Heeds.liftExcept fun grant hgrant => Heeds.ensure fun htier => ?_
  have hcarries : Carries caller .destructive := ⟨grant, hgrant, htier⟩
  refine warranted_bind (Heeds.ensure fun _ => heeds_ensure) fun _ =>
    warranted_bind (warranted_requireRecordedOwner hname) fun _ => ?_
  refine warranted_bind (warranted_authorizeBackupOwner hname) fun _ =>
    Heeds.required fun kind _ => ?_
  refine warranted_bind (warranted_requireFree hname) fun _ =>
    Heeds.ensure fun _ => Heeds.ensure fun _ => ?_
  exact ApplyCall.warranted_run_follow hname hcarries (warranted_send_read hname fun _ => hcarries)

end ChangeSets

/-- **Every tool keeps to its warrant**, and does nothing before its caller is authorized. -/
theorem heeds_serve (tool : Tool) :
    Heeds (tool.Does server caller) (fun _ => True) (server.serve caller tool) := by
  cases tool with
  | read tool args => exact heeds_serveRead tool args
  | getContainerIp tool args => exact heeds_getContainerIp tool args
  | lifecycle tool args => exact heeds_serveLifecycle tool args
  | createSnapshot args => exact heeds_createSnapshot args
  | createBackup args => exact heeds_createBackup args
  | cloneVm args => exact heeds_cloneVm args
  | resizeDisk args => exact heeds_resizeDisk args
  | updateContainerResources args => exact heeds_updateContainerResources args
  | stopTask args => exact heeds_stopTask args
  | createGuest kind args => exact heeds_createGuest kind args
  | downloadIso args => exact heeds_downloadIso args
  | planDestroy args => exact heeds_planDestroy args
  | planHaRuleChange args => exact heeds_planHaRuleChange args
  | planRestoreNewVmid args => exact heeds_planRestoreNewVmid args
  | getChangeSet args => exact heeds_getChangeSet args
  | getHaRuleChangeSet args => exact heeds_getHaRuleChangeSet args
  | approveChangeSet args => exact heeds_approveChangeSet args
  | approveHaRuleChange args => exact heeds_approveHaRuleChange args
  | applyChangeSet args => exact heeds_applyChangeSet args
  | applyHaRuleChange args => exact heeds_applyHaRuleChange args
  | applyRestoreNewVmid args => exact heeds_applyRestoreNewVmid args

end ProxmoxServer

/-! ### The tier of a tool -/

omit [Externals] in
private theorem tierOf_lifecycle (tool : LifecycleTool) : tierOf tool.name = some .low := by
  cases tool <;> decide

omit [Externals] in
private theorem tierOf_creationTool (kind : GuestType) :
    tierOf (ProxmoxServer.creationTool kind) = some .low := by
  cases kind <;> decide

/-- The tier an acting tool demands of its caller is the one its name has in the registry. -/
theorem Tool.carries_of_sends {tool : Tool} (hsends : (tool.warrant server caller).sends) :
    ∃ tier, tierOf tool.name = some tier ∧ tier ≠ .read ∧ Carries caller tier ∧
      (tool.gated → server.directCommit = .ok ()) := by
  have hlow (name : String) (hname : tool.name = name) (htier : tierOf name = some .low)
      (hsends : Carries caller .low ∧ (tool.gated → server.directCommit = .ok ())) :
      ∃ tier, tierOf tool.name = some tier ∧ tier ≠ .read ∧ Carries caller tier ∧
        (tool.gated → server.directCommit = .ok ()) :=
    ⟨.low, hname ▸ htier, by decide, hsends⟩
  have happly (name : String) (hname : tool.name = name) (htier : tierOf name = some .destructive)
      (hungated : tool.gated = false) (hsends : Carries caller .destructive) :
      ∃ tier, tierOf tool.name = some tier ∧ tier ≠ .read ∧ Carries caller tier ∧
        (tool.gated → server.directCommit = .ok ()) :=
    ⟨.destructive, hname ▸ htier, by decide, hsends, by simp [hungated]⟩
  cases tool with
  | lifecycle tool _ => exact hlow tool.name rfl (tierOf_lifecycle tool) hsends
  | createSnapshot _ => exact hlow "create_snapshot" rfl (by decide) hsends
  | createBackup _ => exact hlow "create_backup" rfl (by decide) hsends
  | cloneVm _ => exact hlow "clone_vm" rfl (by decide) hsends
  | resizeDisk _ => exact hlow "resize_disk" rfl (by decide) hsends
  | updateContainerResources _ => exact hlow "update_container_resources" rfl (by decide) hsends
  | stopTask _ => exact hlow "stop_task" rfl (by decide) hsends
  | createGuest kind _ => exact hlow _ rfl (tierOf_creationTool kind) hsends
  | downloadIso _ => exact hlow "download_iso" rfl (by decide) hsends
  | applyChangeSet _ => exact happly "apply_proxmox_change_set" rfl (by decide) rfl hsends
  | applyHaRuleChange _ => exact happly "apply_ha_rule_change" rfl (by decide) rfl hsends
  | applyRestoreNewVmid _ => exact happly "apply_restore_new_vmid" rfl (by decide) rfl hsends
  | _ => exact hsends.elim

theorem Tool.carries_of_records {tool : Tool} (hrecords : (tool.warrant server caller).records) :
    Carries caller .destructive := by
  cases tool <;> first | exact hrecords | exact hrecords.elim

/-- A caller without a token carries no tier that acts. -/
private theorem not_carries_none {tier : Tier} (htier : tier ≠ .read) : ¬ Carries none tier := by
  rintro ⟨grant, hgrant, hcarries⟩
  obtain rfl := Except.ok.inj hgrant
  cases tier with
  | read => exact htier rfl
  | low => exact absurd hcarries (by decide)
  | destructive => exact absurd hcarries (by decide)

/-! ### Runs -/

section Runs

variable {coordinator : Coordinator} {ttl : ℕ}

/-- Every tool call keeps to its warrant. -/
def warrantGuarantee (coordinator : Coordinator) (ttl : ℕ) :
    Guarantee (serverMachine coordinator ttl) where
  op served _ op := ∀ caller tool, served.call = .serve caller tool →
    tool.Does served.server caller op
  result _ _ _ := True
  keeps served := by
    obtain ⟨server, call⟩ := served
    cases call with
    | serve caller tool =>
      refine Always.mono (ProxmoxServer.heeds_serve tool []) ?_ fun _ _ _ => trivial
      rintro _ _ hop _ _ ⟨⟩
      exact hop
    | recover => exact (always_true _ _).mono (by rintro _ _ - _ _ ⟨⟩) fun _ _ _ => trivial
    | reload => exact (always_true _ _).mono (by rintro _ _ - _ _ ⟨⟩) fun _ _ _ => trivial

variable {pool : Pool (serverMachine coordinator ttl)}

private theorem keeps_of_event (h : Reachable (serverMachine coordinator ttl) pool) {id : ℕ}
    {tool : Tool}
    {event : Event Effect} (hstart : .start id ⟨server, .serve caller tool⟩ ∈ pool.trace)
    (hevent : .event id event ∈ pool.trace) : tool.Does server caller event.op := by
  obtain ⟨newer, older, htrace⟩ := List.append_of_mem hevent
  obtain ⟨served, hserved, hop⟩ := h.performed (warrantGuarantee coordinator ttl) htrace
  have hmem : Entry.start id served ∈ pool.trace := by
    rw [htrace]
    exact List.mem_append_right _ (.tail _ hserved)
  obtain rfl := h.start_unique hstart hmem
  exact hop caller tool rfl

/-- **Scope and confinement**: whatever a tool call has done in a run, its caller was authorized for
that tool on that cluster, and what it has done concerns no other cluster. -/
theorem authorized_of_event (h : Reachable (serverMachine coordinator ttl) pool) {id : ℕ}
    {tool : Tool} {event : Event Effect}
    (hstart : .start id ⟨server, .serve caller tool⟩ ∈ pool.trace)
    (hevent : .event id event ∈ pool.trace) :
    authorizeCall caller tool.name tool.cluster = .ok () ∧
      ∀ cluster, event.op.Concerns cluster → cluster = tool.cluster := by
  have hdoes := keeps_of_event h hstart hevent
  have hcluster : (tool.warrant server caller).cluster = tool.cluster := by cases tool <;> rfl
  exact ⟨hdoes.authorized, fun cluster hconcerns => (hdoes.under.concerns cluster hconcerns).trans
    hcluster⟩

/-- **Tiers hold in every run**: a request that can change a cluster was sent for a caller who
carries the tier that the registry gives the tool, past the direct-commit gate where the tool has
one; a plan was recorded, or claimed, for a caller who carries the destructive tier. A caller
without a token does neither. -/
theorem carries_of_event (h : Reachable (serverMachine coordinator ttl) pool) {id : ℕ} {tool : Tool}
    {event : Event Effect} (hstart : .start id ⟨server, .serve caller tool⟩ ∈ pool.trace)
    (hevent : .event id event ∈ pool.trace) :
    (event.op.Mutates → ∃ tier, tierOf tool.name = some tier ∧ tier ≠ .read ∧ Carries caller tier ∧
      (tool.gated → server.directCommit = .ok ())) ∧
    (event.op.Records → Carries caller .destructive) ∧
    (caller = none → ¬ event.op.Mutates ∧ ¬ event.op.Records) := by
  have hunder := (keeps_of_event h hstart hevent).under
  have hsends (hmutates : event.op.Mutates) := Tool.carries_of_sends (hunder.sends hmutates)
  have hrecords (hrecords : event.op.Records) := Tool.carries_of_records (hunder.records hrecords)
  refine ⟨hsends, hrecords, ?_⟩
  rintro rfl
  refine ⟨fun hmutates => ?_, fun hrecorded => ?_⟩
  · obtain ⟨tier, -, htier, hcarries, -⟩ := hsends hmutates
    exact not_carries_none htier hcarries
  · exact not_carries_none (by decide) (hrecords hrecorded)

end Runs

/-! ### The copy of an archive -/

omit [Externals] in
/-- A copy is sent in a run of its own. -/
theorem exists_reachable_copyCall : ∃ pool : Pool keptMachine, Reachable keptMachine pool ∧
    .start 0 copyCall ∈ pool.trace ∧
    .event 0 ⟨.http (.dispatch "pve" copyRequest), (18 : ℕ)⟩ ∈ pool.trace := by
  let _ : Externals := Externals.plain
  have hempty : Reachable keptMachine keptPool := .initial ⟨rfl, trivial⟩
  obtain ⟨world, hcopy⟩ := performs_copyCall_of_fetched
  obtain ⟨next, hreaches⟩ := copyCall_reaches_of_fetched 0 1 2 6 14
  obtain ⟨pool, hpool, -, htrace⟩ := @Reachable.call _ _ _ hempty 0 copyCall _ _ _ _ _
    (fun _ => List.not_mem_nil) hreaches hcopy
  exact ⟨pool, hpool, by simp [htrace], by simp [htrace]⟩

omit [Externals] in
theorem authorized_copyCall :
    @authorizeCall Externals.plain (some destructiveCaller) "apply_restore_new_vmid" "pve" =
      .ok () ∧
    ∀ cluster, (Op.http (.dispatch "pve" copyRequest)).Concerns cluster → cluster = "pve" := by
  obtain ⟨pool, hpool, hstart, hevent⟩ := exists_reachable_copyCall
  exact @authorized_of_event Externals.plain _ _ _ _ _ hpool _ _ _ hstart hevent

omit [Externals] in
theorem carries_copyCall : ∃ tier, tierOf "apply_restore_new_vmid" = some tier ∧ tier ≠ .read ∧
    @Carries Externals.plain (some destructiveCaller) tier := by
  obtain ⟨pool, hpool, hstart, hevent⟩ := exists_reachable_copyCall
  obtain ⟨tier, htier, hacts, hcarries, -⟩ :=
    (@carries_of_event Externals.plain _ _ _ _ _ hpool _ _ _ hstart hevent).1 (by decide)
  exact ⟨tier, htier, hacts, hcarries⟩

end ProxmoxMcp
