import ProxmoxMcp.Server.Records

/-!
# Destructive change sets

Planning and applying the operations that destroy or overwrite a guest or a volume. Both authorize
against the guest on a fresh listing; an apply then compares the guest's fingerprint with the
planned one, reads the **stored** action and checks it again, and runs it.

`DestructiveRequest` says which request an action allows. Those on a backup archive carry the
listing that named the archive's owner.
-/

namespace ProxmoxMcp

open Interaction Program Text ProxmoxError

variable [Externals]

/-! ### Executing -/

/-- Refuse an operation on an archive that does not belong to `vmid`. -/
def requireBackupOwner (client : ProxmoxClient) (node volid : String) (vmid : UInt32) :
    ClientM Unit := do
  let owner ← mapError (fun error => denied
      (s!"could not establish which guest owns backup archive '{volid}': {error.toText}. " ++
        "Refusing rather than trusting the archive's filename."))
    (Guests.resolveBackupOwner client node volid)
  ensure (owner == vmid) (denied (s!"backup archive '{volid}' belongs to guest {owner}, not " ++
    s!"{vmid}; refusing an operation on an archive that does not belong to the named guest"))

/-- A parameter of an action, or why it cannot be run. -/
def requireParameter {α : Type} (action : DestroyAction) (value : Option α) (name : String) :
    ClientM α := required value (malformed s!"{action.op} action is missing {name}")

/-- Run one recorded destructive action and return its task handle, or nothing if the change was
made at once. -/
def executeDestructive (client : ProxmoxClient) (action : DestroyAction) (kind : GuestType)
    (node : String) (vmid : UInt32) : ClientM String :=
  match action.op with
  | "destroy_guest" | "destroy" => match kind with
    | .lxc => Guests.destroyContainer client node vmid true
    | .qemu => Guests.destroyVm client node vmid true
  | "delete_snapshot" => do
    Guests.deleteSnapshot client node kind vmid
      (← requireParameter action action.snapname "snapname")
  | "rollback_snapshot" => do
    Guests.rollbackSnapshot client node kind vmid
      (← requireParameter action action.snapname "snapname")
  | "delete_backup" | "delete_iso" => do
    let storage ← requireParameter action action.storage "storage"
    let volid ← requireParameter action action.volid "volid"
    let storageNode ← requireParameter action action.storageNode "storage_node"
    onlyIf (action.op == "delete_backup") (requireBackupOwner client storageNode volid vmid)
    let data ← Guests.deleteVolume client storageNode storage volid
    return data.asStr.getD ""
  | "restore_backup" => do
    let volid ← requireParameter action action.volid "volid"
    requireBackupOwner client node volid vmid
    Guests.restoreBackup client node kind vmid volid true
  | "migrate" => do
    Guests.migrateGuest client node kind vmid
      (← requireParameter action action.targetNode "target_node") action.online
      action.withLocalDisks
  | "update_vm_config" => do
    Guests.updateVmConfig client node vmid
      (← requireParameter action action.config "config").entries
  | other => throw (malformed s!"unknown destructive operation '{other}'")

/-- A listing the call has fetched says that an archive is of a guest. -/
def OwnerListed (client node volid : String) (vmid : UInt32) (h : History Effect) : Prop :=
  ∃ storage path response data, splitOnce volid ':' = some (storage, path) ∧
    Replied client (Guests.backupListingRequest node storage) response h ∧
    ProxmoxClient.readAnswer response = .ok data ∧
    Guests.readBackupOwner node storage volid data = .ok vmid

theorem OwnerListed.mono {client node volid : String} {vmid : UInt32} {h h' : History Effect}
    (ho : OwnerListed client node volid vmid h) (hh : h <:+ h') :
    OwnerListed client node volid vmid h' := by
  obtain ⟨storage, path, response, data, hsplit, hreplied, hread⟩ := ho
  exact ⟨storage, path, response, data, hsplit, hreplied.mono hh, hread⟩

/-- The check of an archive's owner has failed: no listing was fetched that says it is this
guest. -/
def OwnerUnproved (client : ProxmoxClient) (node volid : String) (vmid : UInt32)
    (h : History Effect) : Prop :=
  ∀ storage path, splitOnce volid ':' = some (storage, path) → ∃ before after outcome,
    Sent client (Guests.backupListingRequest node storage) before
      (Guests.readBackupOwner node storage volid) after outcome ∧ after <:+ h ∧ outcome ≠ .ok vmid

theorem OwnerUnproved.mono {client : ProxmoxClient} {node volid : String} {vmid : UInt32}
    {h h' : History Effect} (ho : OwnerUnproved client node volid vmid h) (hh : h <:+ h') :
    OwnerUnproved client node volid vmid h' := by
  intro storage path hsplit
  obtain ⟨before, after, outcome, hsent, hafter, hne⟩ := ho storage path hsplit
  exact ⟨before, after, outcome, hsent, hafter.trans hh, hne⟩

/-- Resolving an owner reads one listing, of the storage the archive's id names. -/
theorem always_resolveBackupOwner {client : ProxmoxClient} {node volid : String}
    {h : History Effect} :
    Always (fun _ (op : Op) => op.Reads) (fun h' outcome =>
        (splitOnce volid ':' = none ∧ ∃ error, outcome = .error error) ∨
        ∃ storage path, splitOnce volid ':' = some (storage, path) ∧ Sent client
          (Guests.backupListingRequest node storage) h (Guests.readBackupOwner node storage volid)
          h' outcome) h (Guests.resolveBackupOwner client node volid).run := by
  rw [Guests.resolveBackupOwner]
  refine always_run_bind.mpr (always_run_required.mpr ⟨fun parts hparts => ?_, fun hnone => ?_⟩)
  · exact (Guests.always_send_read (not_not.mpr rfl) fun _ => trivial).mono (fun _ _ hop => hop)
      fun h' outcome hsent => .inr ⟨parts.1, parts.2, hparts, hsent⟩
  · exact .inl ⟨hnone, _, rfl⟩

/-- **The owner of an archive** is established by a listing or not at all. -/
theorem always_requireBackupOwner {client : ProxmoxClient} {node volid : String} {vmid : UInt32}
    {h : History Effect} :
    Always (fun _ (op : Op) => op.Reads) (fun h' outcome => match outcome with
      | .ok _ => OwnerListed client.name node volid vmid h'
      | .error error => error.isDefinitive → OwnerUnproved client node volid vmid h') h
      (requireBackupOwner client node volid vmid).run := by
  rw [requireBackupOwner]
  refine always_run_bind.mpr (always_run_mapError.mpr (always_resolveBackupOwner.mono
    (fun _ _ hop => hop) fun h' outcome houtcome => ?_))
  rcases houtcome with ⟨hnone, error, rfl⟩ | ⟨storage, path, hsplit, hsent⟩
  · intro _ storage path hsplit
    simp [hnone] at hsplit
  have hunproved (hne : outcome ≠ .ok vmid) : OwnerUnproved client node volid vmid h' := by
    intro storage' path' hsplit'
    obtain ⟨rfl, rfl⟩ := Prod.mk.inj (Option.some.inj (hsplit.symm.trans hsplit'))
    exact ⟨h, h', outcome, hsent, List.suffix_rfl, hne⟩
  cases outcome with
  | error error => exact fun _ => hunproved (by simp)
  | ok owner =>
    refine always_run_ensure.mpr ⟨fun heq => ?_, fun hne _ => ?_⟩
    · obtain rfl := beq_iff_eq.mp heq
      obtain ⟨response, data, hreplied, hanswer, hread⟩ := hsent.replied
      exact ⟨storage, path, response, data, hsplit, hreplied, hanswer, hread⟩
    · exact hunproved fun heq => by simp [Except.ok.inj heq] at hne

/-! ### Which request an action allows -/

/-- The requests a destructive action allows, for the guest as the call sees it. -/
inductive DestructiveRequest (client : String) (action : DestroyAction) (kind : GuestType)
    (node : String) (vmid : UInt32) (h : History Effect) : ApiRequest → Prop
  | destroyContainer (op : isGuestDestroy action.op) (type : kind = .lxc) :
      DestructiveRequest client action kind node vmid h
        (Guests.destroyContainerRequest node vmid true)
  | destroyVm (op : isGuestDestroy action.op) (type : kind = .qemu) :
      DestructiveRequest client action kind node vmid h (Guests.destroyVmRequest node vmid true)
  | deleteSnapshot {snapname : String} (op : action.op = "delete_snapshot")
      (name : action.snapname = some snapname) :
      DestructiveRequest client action kind node vmid h
        (Guests.deleteSnapshotRequest node kind vmid snapname)
  | rollbackSnapshot {snapname : String} (op : action.op = "rollback_snapshot")
      (name : action.snapname = some snapname) :
      DestructiveRequest client action kind node vmid h
        (Guests.rollbackSnapshotRequest node kind vmid snapname)
  | deleteVolume {storage volid storageNode expanded : String}
      (op : action.op = "delete_backup" ∨ action.op = "delete_iso")
      (storage_eq : action.storage = some storage) (volid_eq : action.volid = some volid)
      (node_eq : action.storageNode = some storageNode)
      (expanded_eq : Externals.expandPath Guests.contentTemplate
        [("node", storageNode), ("storage", storage)] = .ok expanded)
      (owner : action.op = "delete_backup" → OwnerListed client storageNode volid vmid h) :
      DestructiveRequest client action kind node vmid h (Guests.deleteVolumeRequest expanded volid)
  | restoreBackup {volid : String} (op : action.op = "restore_backup")
      (volid_eq : action.volid = some volid) (owner : OwnerListed client node volid vmid h) :
      DestructiveRequest client action kind node vmid h
        (Guests.restoreBackupRequest node kind vmid volid true)
  | migrate {targetNode : String} (op : action.op = "migrate")
      (target : action.targetNode = some targetNode) :
      DestructiveRequest client action kind node vmid h (Guests.migrateGuestRequest node kind vmid
        targetNode action.online action.withLocalDisks)
  | updateVmConfig {config : ConfigMap} (op : action.op = "update_vm_config")
      (config_eq : action.config = some config) :
      DestructiveRequest client action kind node vmid h
        (Guests.updateVmConfigRequest node vmid config.entries)

theorem DestructiveRequest.mutating {client : String} {action : DestroyAction} {kind : GuestType}
    {node : String} {vmid : UInt32} {h : History Effect} {request : ApiRequest}
    (hr : DestructiveRequest client action kind node vmid h request) : request.Mutating := by
  cases hr <;> exact fun hget => by cases hget

/-- The check that may fail after the claim is that of an archive's owner. -/
def OwnershipFailed (client : ProxmoxClient) (action : DestroyAction) (node : String)
    (vmid : UInt32) (h : History Effect) : Prop :=
  ∃ volid, action.volid = some volid ∧
    (action.op = "delete_backup" ∧ (∃ storageNode, action.storageNode = some storageNode ∧
        OwnerUnproved client storageNode volid vmid h) ∨
      action.op = "restore_backup" ∧ OwnerUnproved client node volid vmid h)

theorem OwnershipFailed.mono {client : ProxmoxClient} {action : DestroyAction} {node : String}
    {vmid : UInt32} {h h' : History Effect} (ho : OwnershipFailed client action node vmid h)
    (hh : h <:+ h') : OwnershipFailed client action node vmid h' := by
  obtain ⟨volid, hvolid, ⟨hop, storageNode, hnode, hunproved⟩ | ⟨hop, hunproved⟩⟩ := ho
  · exact ⟨volid, hvolid, .inl ⟨hop, storageNode, hnode, hunproved.mono hh⟩⟩
  · exact ⟨volid, hvolid, .inr ⟨hop, hunproved.mono hh⟩⟩

section Executing

variable {policy : Policy} {client : ProxmoxClient} {action : DestroyAction} {kind : GuestType}
  {node : String} {vmid : UInt32} {h : History Effect}

/-- A parameter that is missing leaves the outcome open. -/
private theorem always_requireParameter {α β : Type} {value : Option α} {name : String}
    {names : Json → β → Prop} {checks : History Effect → Prop} {f : α → ClientM β}
    (hf : ∀ a, value = some a →
      Always policy.Allows (Outcome client.name names checks) h (f a).run) :
    Always policy.Allows (Outcome client.name names checks) h
      (requireParameter action value name >>= f).run :=
  always_run_bind.mpr (always_run_required.mpr ⟨hf, fun _ => by simp [Outcome, isDefinitive]⟩)

/-- The check of an owner, before the rest. -/
private theorem always_requireBackupOwner_bind {owned volid : String} {f : Unit → ClientM String}
    (hunsent : Unsent h) (hreads : ∀ h, Unsent h → policy.reads h)
    (hfailed : ∀ h', OwnerUnproved client owned volid vmid h' →
      OwnershipFailed client action node vmid h')
    (hf : ∀ h', Aside h h' → OwnerListed client.name owned volid vmid h' →
      Always policy.Allows (Outcome client.name NamesTask (OwnershipFailed client action node vmid))
        h' (f ()).run) :
    Always policy.Allows (Outcome client.name NamesTask (OwnershipFailed client action node vmid)) h
      (requireBackupOwner client owned volid vmid >>= f).run :=
  Always.run_bind (always_reads always_requireBackupOwner hunsent hreads)
    (fun h' _ houtcome => hf h' houtcome.2 houtcome.1)
    fun h' _ houtcome hdefinitive =>
      .inr ⟨houtcome.2.unsent hunsent, hfailed h' (houtcome.1 hdefinitive)⟩

/-- Deleting a volume sends one request, and its answer may name no task. -/
private theorem always_deleteVolume {storage volid storageNode : String}
    {checks : History Effect → Prop}
    (hsend : ∀ expanded, Externals.expandPath Guests.contentTemplate
        [("node", storageNode), ("storage", storage)] = .ok expanded →
      policy.Permits h client.name (Guests.deleteVolumeRequest expanded volid)) :
    Always policy.Allows (Outcome client.name NamesTask checks) h (do
      let data ← Guests.deleteVolume client storageNode storage volid
      return data.asStr.getD "" : ClientM String).run := by
  refine always_run_bind.mpr ?_
  have hdeleted : Always policy.Allows (Outcome client.name (fun data value => value = data) checks)
      h (Guests.deleteVolume client storageNode storage volid).run := by
    have hlocal (text : String) : Outcome client.name (fun data value => value = data) checks h
        (.error (malformed text) : Except ProxmoxError Json) := by simp [Outcome, isDefinitive]
    rw [Guests.deleteVolume]
    refine always_run_bind.mpr ((always_run_liftExcept _).mpr ?_)
    cases hvolid : rejectUnusableVolid volid with
    | error error =>
      obtain ⟨text, rfl⟩ := malformed_of_rejectUnusableVolid hvolid
      exact hlocal text
    | ok _ =>
      refine always_run_bind.mpr (always_run_ensure.mpr ⟨fun _ => ?_, fun _ => hlocal _⟩)
      refine always_run_bind.mpr ((always_run_liftExcept _).mpr ?_)
      cases hexpand : Externals.expandPath Guests.contentTemplate
        [("node", storageNode), ("storage", storage)] with
      | error error => exact hlocal error
      | ok expanded =>
        exact (Guests.always_send (hsend expanded hexpand) fun _ => trivial).mono
          (fun _ _ hop => hop) fun h' outcome hsent => outcome_of_sent hsent
            (by simp [ApiRequest.Mutating, Guests.deleteVolumeRequest])
            (fun data value hvalue => (Except.ok.inj hvalue).symm) (by simp)
  refine hdeleted.mono (fun _ _ hop => hop) fun h' outcome houtcome => ?_
  cases outcome with
  | error error => exact houtcome
  | ok value =>
    obtain ⟨data, haccepted, rfl⟩ := houtcome
    exact ⟨value, haccepted, rfl⟩

/-- **Deleting a stored volume** sends at most the deletion, after the check of its owner. -/
theorem always_deleteStored (hunsent : Unsent h) (hreads : ∀ h, Unsent h → policy.reads h)
    (hsend : ∀ h' request, Aside h h' → DestructiveRequest client.name action kind node vmid h'
      request → policy.Permits h' client.name request)
    (hop : action.op = "delete_backup" ∨ action.op = "delete_iso") :
    Always policy.Allows (Outcome client.name NamesTask (OwnershipFailed client action node vmid)) h
      (do
        let storage ← requireParameter action action.storage "storage"
        let volid ← requireParameter action action.volid "volid"
        let storageNode ← requireParameter action action.storageNode "storage_node"
        onlyIf (action.op == "delete_backup") (requireBackupOwner client storageNode volid vmid)
        let data ← Guests.deleteVolume client storageNode storage volid
        return data.asStr.getD "" : ClientM String).run := by
  refine always_requireParameter fun storage hstorage => always_requireParameter fun volid hvolid =>
    always_requireParameter fun storageNode hnode => ?_
  have hdelete (h' : History Effect) (haside : Aside h h') (howner : action.op = "delete_backup" →
      OwnerListed client.name storageNode volid vmid h') : Always policy.Allows
        (Outcome client.name NamesTask (OwnershipFailed client action node vmid)) h' (do
          let data ← Guests.deleteVolume client storageNode storage volid
          return data.asStr.getD "" : ClientM String).run :=
    always_deleteVolume fun expanded hexpand => hsend h' _ haside
      (.deleteVolume hop hstorage hvolid hnode hexpand howner)
  by_cases hbackup : action.op = "delete_backup"
  · simp only [hbackup, beq_self_eq_true, onlyIf, ↓reduceIte]
    exact always_requireBackupOwner_bind hunsent hreads (fun h' hfailed => ⟨volid, hvolid,
      .inl ⟨hbackup, storageNode, hnode, hfailed⟩⟩) fun h' haside howner =>
        hdelete h' haside fun _ => howner
  · -- an image has no owner to check
    simp only [beq_false_of_ne hbackup, onlyIf]
    exact hdelete h (.refl h) fun heq => absurd heq hbackup

/-- **Executing an action** sends at most the one request it allows. -/
theorem always_executeDestructive (hunsent : Unsent h) (hreads : ∀ h, Unsent h → policy.reads h)
    (hsend : ∀ h' request, Aside h h' → DestructiveRequest client.name action kind node vmid h'
      request → policy.Permits h' client.name request) :
    Always policy.Allows (Outcome client.name NamesTask (OwnershipFailed client action node vmid)) h
      (executeDestructive client action kind node vmid).run := by
  have htask {request : ApiRequest}
      (hallowed : DestructiveRequest client.name action kind node vmid h request) :
      Always policy.Allows (Outcome client.name NamesTask
        (OwnershipFailed client action node vmid)) h (Guests.runTask client request).run :=
    always_runTask hallowed.mutating (hsend h request (.refl h) hallowed)
  have hdestroy (hop : isGuestDestroy action.op) : Always policy.Allows
      (Outcome client.name NamesTask (OwnershipFailed client action node vmid)) h (match kind with
        | .lxc => Guests.destroyContainer client node vmid true
        | .qemu => Guests.destroyVm client node vmid true).run := by
    cases kind with
    | lxc => exact htask (.destroyContainer hop rfl)
    | qemu => exact htask (.destroyVm hop rfl)
  unfold executeDestructive
  split
  · next hop => exact hdestroy (by simp [isGuestDestroy, hop])
  · next hop => exact hdestroy (by simp [isGuestDestroy, hop])
  · next hop =>
    exact always_requireParameter fun snapname hname => htask (.deleteSnapshot hop hname)
  · next hop =>
    exact always_requireParameter fun snapname hname => htask (.rollbackSnapshot hop hname)
  · next hop => exact always_deleteStored hunsent hreads hsend (.inl hop)
  · next hop => exact always_deleteStored hunsent hreads hsend (.inr hop)
  · next hop =>
    refine always_requireParameter fun volid hvolid => always_requireBackupOwner_bind hunsent hreads
      (fun h' hfailed => ⟨volid, hvolid, .inr ⟨hop, hfailed⟩⟩) fun h' haside howner => ?_
    have hallowed : DestructiveRequest client.name action kind node vmid h'
        (Guests.restoreBackupRequest node kind vmid volid true) := .restoreBackup hop hvolid howner
    exact always_runTask hallowed.mutating (hsend h' _ haside hallowed)
  · next hop =>
    exact always_requireParameter fun targetNode htarget => htask (.migrate hop htarget)
  · next hop =>
    refine always_requireParameter fun config hconfig => ?_
    refine always_run_bind.mpr (always_run_ensure.mpr ⟨fun _ => htask (.updateVmConfig hop hconfig),
      fun _ => by simp [Outcome, isDefinitive]⟩)
  · simp [Outcome, isDefinitive]

end Executing

/-! ### Planning -/

/-- A guest's state, as a plan records it and an apply finds it again. -/
def guestState (cluster : String) (guest : ResolvedGuest) (config : Guests.GuestConfigState) :
    GuestState where
  cluster := cluster
  vmid := guest.vmid
  name := guest.name
  kind := guest.type.pathSegment
  node := guest.node
  status := guest.status
  tags := guest.tags
  configDigest := config.configDigest
  disks := config.disks

/-- Read a guest's own configuration, or refuse. -/
def readGuestState (client : ProxmoxClient) (cluster : String) (guest : ResolvedGuest) :
    ToolM GuestState := do
  let config ← mapError (fun error => toolError s!"reading guest config: {error.toText}")
    (Guests.fetchGuestConfigState client guest.node guest.type guest.vmid)
  return guestState cluster guest config

/-- Refuse to plan an operation on an archive of another guest. A built action has the fields this
reads. -/
def checkPlannedOwner (client : ProxmoxClient) (action : DestroyAction) (guest : ResolvedGuest)
    (vmid : UInt32) : ToolM Unit :=
  onlyIf (action.op == "delete_backup" || action.op == "restore_backup") <|
    let ownerNode := if action.op = "delete_backup" then action.storageNode.getD "" else guest.node
    viaClient (requireBackupOwner client ownerNode (action.volid.getD "") vmid)

/-- Refuse to plan a migration that cannot succeed. -/
def checkMigration (client : ProxmoxClient) (action : DestroyAction) (guest : ResolvedGuest)
    (cluster : String) : ToolM Unit :=
  onlyIf (action.op == "migrate") do
    let targetNode := action.targetNode.getD ""
    refuseUnless (targetNode != guest.node)
      s!"guest {guest.vmid} is already on node '{guest.node}'; nothing to migrate"
    orRefuse (migratePrecondition action.online guest.status)
    let nodes ← mapError (fun error => toolError s!"listing cluster nodes: {error.toText}")
      (Guests.listNodeNames client)
    let known := ", ".intercalate nodes
    refuseUnless (nodes.contains targetNode)
      (s!"target node '{targetNode}' is not a member of cluster '{cluster}'; " ++
        s!"known nodes: {known}")

/-- Refuse to plan what Proxmox would refuse, before an approval is spent on it. -/
def checkPlannable (client : ProxmoxClient) (action : DestroyAction) (guest : ResolvedGuest)
    (cluster : String) : ToolM Unit := do
  refuseUnless (!destroyRequiresAStoppedGuest action.op || guest.status == "stopped")
    (s!"guest {guest.vmid} reports status '{guest.status}', and Proxmox destroys only a stopped " ++
      "guest. Stop it with stop_vm or stop_container and confirm it reads 'stopped', then plan " ++
      "again. Refused here rather than at apply so no approval is spent on an operation that " ++
      "cannot succeed.")
  checkMigration client action guest cluster
  refuseUnless (action.op != "update_vm_config" || guest.type == .qemu)
    (s!"guest {guest.vmid} is a {guest.type.pathSegment} guest; update_vm_config only updates " ++
      "QEMU (VM) config. There is no LXC path here.")

/-- What the approver of a destructive plan reads. -/
def previewOf (action : DestroyAction) (state : GuestState) (verdict : Verdict) : String :=
  if isGuestDestroy action.op then renderPreview {
    state, isProtected := verdict.protection.isProtected, override := verdict.override
    snapshots := 0, latestSnapshot := none, lastBackup := none, purgeDisks := true }
  else renderDestructivePreview action state.name state.node verdict.protection verdict.override

/-- The operation a record names, to which a waiver is bound. -/
def recordedOp (record : ChangeSet) : Except ToolResult String :=
  match record.actions.head?.bind fun action => action.getStr "op" with
  | some op => .ok op
  | none => .error (toolError ("change set refused: its first action has no readable 'op' " ++
      "field, so no waiver can be bound to the operation it actually names. Plan the operation " ++
      "again."))

/-- Under lab mode, record that the approval is waived. A waiver lifts protection only. -/
def waiveInLabMode (override : Override) (device owner : String) (output : ChangeSetOutput) :
    ToolM ChangeSetOutput :=
  match override with
  | .labMode => do
    liftM ((← waiveApproval output.changeSetId device owner output.digest).mapError fun error =>
      toolError s!"lab-mode: {error}")
  | .waiver _ _ _ | .none => pure output

namespace ProxmoxServer

variable (server : ProxmoxServer)

/-- Plan a destructive operation: the preview its approver reads, and a change set for it. -/
def planDestroy (caller : Option CallerCtx) (args : PlanDestroyArgs) : ToolM Json := do
  liftM (authorizeCall caller "plan_proxmox_destroy" args.cluster)
  let client ← liftM (server.clientFor args.cluster)
  let grant ← liftM (resolveGrant caller)
  invalidateCluster args.cluster
  let verdict ← authorizeWithOverride server client args.cluster args.vmid grant (.ok args.op)
    (principalOf caller) .destructive
  let guest := verdict.authorization.guest
  let action ← orRefuse (buildDestroyAction args)
  checkPlannedOwner client action guest args.vmid
  checkPlannable client action guest args.cluster
  let tool ← required (toolForOp action.op guest.type)
    (toolError s!"unknown destructive operation '{action.op}'")
  liftM (authorizeCall caller tool args.cluster)
  orRefuse (requireUnrestrictedScopeForDeleteIso action.op grant)
  let state ← readGuestState client args.cluster guest
  let preview := previewOf action state verdict
  let device := s!"{args.cluster}/{args.vmid}"
  let output ← recordPlan device action.toJson (callerName caller) (fingerprint state) preview
  let output ← waiveInLabMode verdict.override device (callerName caller) output
  return changeSetResponse output.changeSetId output.state (fingerprint state) preview output.digest

/-! ### Applying -/

/-- Apply an approved destructive change set. -/
def applyChangeSet (caller : Option CallerCtx) (args : ChangeSetArgs) : ToolM Json := do
  liftM (authorizeCall caller "apply_proxmox_change_set" args.cluster)
  let client ← liftM (server.clientFor args.cluster)
  let call : ApplyCall :=
    ⟨server, .destroy, caller, args.changeSetId, args.cluster, args.device⟩
  let record ← recordOf args.changeSetId args.device
  requirePreview record
  let grant ← liftM (resolveGrant caller)
  invalidateCluster args.cluster
  let verdict ← authorizeWithOverride server client args.cluster args.vmid grant
    (recordedOp record) (principalOf caller) .destructive
  let guest := verdict.authorization.guest
  let state ← readGuestState client args.cluster guest
  requireFingerprint record (fingerprint state)
  requireApproved record
  let action ← liftM (storedAction "DestroyAction" DestroyAction.fromJson record)
  let tool ← required (toolForOp action.op guest.type)
    (toolError s!"the change set names an unknown operation '{action.op}'")
  liftM (authorizeCall caller tool args.cluster)
  orRefuse (requireUnrestrictedScopeForDeleteIso action.op grant)
  orRefuse (recheckAction action)
  let (claimed, upid) ← call.run record
    (executeDestructive client action guest.type state.node args.vmid)
  call.follow client claimed upid []

/-! ### What the handlers keep to -/

end ProxmoxServer

/-- The call has read a guest's own configuration, and this is its state. -/
def StateRead (client cluster : String) (guest : ResolvedGuest) (state : GuestState)
    (h : History Effect) : Prop :=
  ∃ response data config,
    Replied client (Guests.configRequest guest.node guest.type guest.vmid) response h ∧
    ProxmoxClient.readAnswer response = .ok data ∧
    Guests.readGuestConfigState guest.vmid data = .ok config ∧
    state = guestState cluster guest config

theorem StateRead.mono {client cluster : String} {guest : ResolvedGuest} {state : GuestState}
    {h h' : History Effect} (hs : StateRead client cluster guest state h) (hh : h <:+ h') :
    StateRead client cluster guest state h' := by
  obtain ⟨response, data, config, hreplied, hread⟩ := hs
  exact ⟨response, data, config, hreplied.mono hh, hread⟩

theorem ensures_readGuestState {client : ProxmoxClient} {cluster : String} {guest : ResolvedGuest}
    {h : History Effect} :
    Ensures (fun _ (op : Op) => op.Reads)
      (fun h' state => StateRead client.name cluster guest state h') h
      (readGuestState client cluster guest) := by
  refine Ensures.bind (R := fun h' config => ∃ response data,
      Replied client.name (Guests.configRequest guest.node guest.type guest.vmid) response h' ∧
      ProxmoxClient.readAnswer response = .ok data ∧
      Guests.readGuestConfigState guest.vmid data = .ok config) (ensures_mapError.mpr ?_)
    (fun _ _ hop => hop) fun h' config _ hconfig => ensures_pure.mpr ?_
  · exact (Guests.always_send_read (not_not.mpr rfl) fun _ => trivial).ensures
      fun _ _ hsent => hsent.replied
  · obtain ⟨response, data, hreplied, hread, hconfig⟩ := hconfig
    exact ⟨response, data, config, hreplied, hread, hconfig, rfl⟩

namespace ProxmoxServer

/-- What lets an apply run a recorded action: the guest as the call sees it, and the action read
from the record, checked and within the caller's authority. -/
structure DestroyAuthorized (server : ProxmoxServer) (caller : Option CallerCtx)
    (args : ChangeSetArgs) (record : ChangeSet) (action : DestroyAction)
    (authorization : Authorization) (h : History Effect) : Prop where
  client : server.clientNamed args.cluster = some authorization.client
  grant : resolveGrant caller = .ok authorization.grant
  intent : authorization.intent.tier = .destructive
  authorized : ∃ op, recordedOp record = .ok op ∧
    Authorized True True server op (principalOf caller) args.vmid authorization h
  planned : ∃ state, StateRead args.cluster args.cluster authorization.guest state h ∧
    fingerprint state = record.expectedCandidateFingerprint
  stored : record.actions.head?.bind DestroyAction.fromJson = some action
  tool : ∃ tool, toolForOp action.op authorization.guest.type = some tool ∧
    authorizeCall caller tool args.cluster = .ok ()
  iso : requireUnrestrictedScopeForDeleteIso action.op authorization.grant = .ok ()
  rechecked : recheckAction action = .ok ()

theorem DestroyAuthorized.aside {server : ProxmoxServer} {caller : Option CallerCtx}
    {args : ChangeSetArgs} {record : ChangeSet} {action : DestroyAction}
    {authorization : Authorization} {h h' : History Effect}
    (hd : server.DestroyAuthorized caller args record action authorization h) (hh : Aside h h') :
    server.DestroyAuthorized caller args record action authorization h' where
  client := hd.client
  grant := hd.grant
  intent := hd.intent
  authorized := hd.authorized.imp fun _ => And.imp_right (Authorized.aside · hh)
  planned := hd.planned.imp fun _ => And.imp_left (StateRead.mono · hh.suffix)
  stored := hd.stored
  tool := hd.tool
  iso := hd.iso
  rechecked := hd.rechecked

/-- What an apply of a destructive change set is about. -/
def destroyCall (server : ProxmoxServer) (caller : Option CallerCtx) (args : ChangeSetArgs) :
    ApplyCall := ⟨server, .destroy, caller, args.changeSetId, args.cluster, args.device⟩

/-- The check of the owner of the archive that the recorded action names has failed. -/
def OwnershipRefused (server : ProxmoxServer) (caller : Option CallerCtx) (args : ChangeSetArgs)
    (h : History Effect) : Prop :=
  ∃ record action client node, (server.destroyCall caller args).Reviewed record h ∧
    record.actions.head?.bind DestroyAction.fromJson = some action ∧
    server.clientNamed args.cluster = some client ∧
    OwnershipFailed client action node args.vmid h

/-- The policy of an apply of a destructive change set. -/
def destroyPolicy (server : ProxmoxServer) (caller : Option CallerCtx) (args : ChangeSetArgs) :
    Policy :=
  (server.destroyCall caller args).policy (fun h cluster _ => Dropped cluster h)
    (server.OwnershipRefused caller args)
    fun record h request => ∃ action authorization,
      server.DestroyAuthorized caller args record action authorization h ∧
      DestructiveRequest args.cluster action authorization.guest.type authorization.guest.node
        args.vmid h request

section Rules

variable {server : ProxmoxServer} {caller : Option CallerCtx} {h : History Effect}

/-- The checks of a plan read the cluster at most. -/
theorem ensures_checkPlannedOwner (client : ProxmoxClient) (action : DestroyAction)
    (guest : ResolvedGuest) (vmid : UInt32) :
    Ensures (fun _ (op : Op) => op.Reads) (fun _ _ => True) h
      (checkPlannedOwner client action guest vmid) :=
  ensures_onlyIf.mpr ⟨fun _ => ensures_mapError.mpr <|
    always_requireBackupOwner.ensures fun _ _ _ => trivial, fun _ => trivial⟩

private theorem ensures_checkMigration (client : ProxmoxClient) (action : DestroyAction)
    (guest : ResolvedGuest) (cluster : String) :
    Ensures (fun _ (op : Op) => op.Reads) (fun _ _ => True) h
      (checkMigration client action guest cluster) := by
  refine ensures_onlyIf.mpr ⟨fun _ => Ensures.ensure fun _ => Ensures.liftExcept fun _ _ => ?_,
    fun _ => trivial⟩
  have hnodes : Ensures (fun _ (op : Op) => op.Reads) (fun _ _ => True) h
      (Guests.listNodeNames client) :=
    (Guests.always_send_read (not_not.mpr rfl) fun _ => trivial).ensures fun _ _ _ => trivial
  exact Ensures.bind (ensures_mapError.mpr hnodes) (fun _ _ hop => hop) fun _ _ _ _ =>
    ensures_ensure.mpr fun _ => trivial

theorem ensures_checkPlannable (client : ProxmoxClient) (action : DestroyAction)
    (guest : ResolvedGuest) (cluster : String) :
    Ensures (fun _ (op : Op) => op.Reads) (fun _ _ => True) h
      (checkPlannable client action guest cluster) :=
  Ensures.ensure fun _ => Ensures.bind (ensures_checkMigration client action guest cluster)
    (fun _ _ hop => hop) fun _ _ _ _ => ensures_ensure.mpr fun _ => trivial

/-- **Planning a destructive operation** reads the cluster and records the plan. -/
theorem ensures_planDestroy (args : PlanDestroyArgs) :
    Ensures (PlanCall.policy ⟨.destroy, caller⟩ server).Allows (fun _ _ => True) h
      (server.planDestroy caller args) := by
  refine Ensures.liftExcept fun _ _ => Ensures.liftExcept fun client hclient =>
    Ensures.liftExcept fun grant _ => ?_
  rw [← name_of_clientFor hclient]
  refine Ensures.bind (ensures_invalidateCluster client.name h)
    (fun _ _ hop => PlanCall.allows_of_quiet hop) fun h₁ _ _ _ => ?_
  refine Ensures.bind (ensures_authorizeWithOverride False False
    (fun _ _ => trivial) False.elim False.elim fun _ => rfl)
    (fun _ _ hop => PlanCall.allows_of_quiet hop) fun h₂ verdict _ hverdict =>
    Ensures.liftExcept fun action _ => ?_
  refine Ensures.bind (ensures_checkPlannedOwner _ _ _ _)
    (fun _ _ hop => PlanCall.allows_of_reads hop) fun h₃ _ _ _ => ?_
  refine Ensures.bind (ensures_checkPlannable _ _ _ _) (fun _ _ hop => PlanCall.allows_of_reads hop)
    fun h₄ _ _ _ => Ensures.required fun tool _ => Ensures.liftExcept fun _ _ =>
    Ensures.liftExcept fun _ _ => ?_
  refine Ensures.bind ensures_readGuestState (fun _ _ hop => PlanCall.allows_of_reads hop)
    fun h₅ state _ _ => ?_
  refine Ensures.bind (PlanCall.ensures_recordPlan rfl (.destroy action)) (fun _ _ hop => hop)
    fun h₆ output _ hrecorded => ?_
  obtain ⟨updated, records, hid, rfl⟩ := hrecorded
  refine Ensures.bind (R := fun _ _ => True) ?_ (fun _ _ hop => hop)
    fun _ _ _ _ => ensures_pure.mpr trivial
  obtain ⟨-, -, -, hlabMode, -⟩ := hverdict
  cases hoverride : verdict.override with
  | labMode =>
    exact Ensures.request (.intro (hlabMode hoverride) rfl hid rfl) fun _ =>
      ensures_liftExcept.mpr fun _ _ => trivial
  | _ => exact ensures_pure.mpr trivial

/-- **Applying a destructive change set** sends a request of its approved action, on what the call
has just seen of the guest. -/
theorem ensures_applyChangeSet (args : ChangeSetArgs) (hunsent : Unsent h) :
    Ensures (server.destroyPolicy caller args).Allows (fun _ _ => True) h
      (server.applyChangeSet caller args) := by
  obtain ⟨id, cluster, vmid⟩ := args
  have hreads (h' : History Effect) (hunsent : Unsent h') :
      (server.destroyPolicy caller ⟨id, cluster, vmid⟩).reads h' := .inl hunsent
  refine Ensures.liftExcept fun _ _ => Ensures.liftExcept fun client hclient => ?_
  obtain rfl : client.name = cluster := name_of_clientFor hclient
  have hrecord : (server.destroyPolicy caller ⟨id, client.name, vmid⟩).records h
      (.changeSet id (ChangeSetArgs.mk id client.name vmid).device) := ⟨rfl, rfl⟩
  -- the checks, in the order of the source
  refine Ensures.bind (ensures_recordOf hrecord) (fun _ _ hop => hop) fun h₁ record _ hh₁ =>
    Ensures.ensure fun hpreview => Ensures.liftExcept fun grant hgrant => ?_
  have hunsent₁ : Unsent h₁ := hh₁ ▸ hunsent.cons not_false
  refine Ensures.bind (ensures_quiet (ensures_invalidateCluster client.name h₁) hunsent₁ hreads
    fun _ _ _ hlookup => hlookup) (fun _ _ hop => hop) fun h₂ _ hh₂ hdropped => ?_
  obtain ⟨hdropped, hunsent₂⟩ := hdropped
  refine Ensures.bind (ensures_quiet (ensures_authorizeWithOverride True True
    (fun h' hh' => hdropped.mono hh') (fun _ => hdropped) (fun _ _ => rfl) fun _ => rfl) hunsent₂
    hreads fun _ _ _ hlookup => hlookup) (fun _ _ hop => hop) fun h₃ verdict hh₃ hverdict => ?_
  obtain ⟨⟨hclient', hgrant', hintent, -, op, hop, hauthorized⟩, hunsent₃⟩ := hverdict
  refine Ensures.bind (ensures_reads ensures_readGuestState hunsent₃ hreads) (fun _ _ hop => hop)
    fun h₄ state hh₄ hstate => Ensures.ensure fun hfingerprint => Ensures.ensure fun happroved =>
    Ensures.liftExcept fun action haction => Ensures.required fun tool htool =>
    Ensures.liftExcept fun _ hscope => Ensures.liftExcept fun _ hiso =>
    Ensures.liftExcept fun _ hrecheck => ?_
  -- what they have shown stands when the record is claimed
  have hreviewed : (server.destroyCall caller ⟨id, client.name, vmid⟩).Reviewed record h₄ :=
    ⟨(hh₂.trans (hh₃.trans hh₄)).subset (hh₁ ▸ List.mem_cons_self), hpreview,
      beq_iff_eq.mp happroved⟩
  have hdestroy (h' : History Effect) (hh' : Aside h₄ h') :
      server.DestroyAuthorized caller ⟨id, client.name, vmid⟩ record action verdict.authorization
        h' := by
    refine DestroyAuthorized.aside (h := h₄) ?_ hh'
    exact {
      client := hclient'.symm ▸ clientNamed_of_clientFor hclient
      grant := hgrant'.symm ▸ hgrant
      intent := hintent ▸ rfl
      authorized := ⟨op, hop, hauthorized.aside hstate.2⟩
      planned := ⟨state, hstate.1, beq_iff_eq.mp hfingerprint⟩
      stored := storedAction_eq_ok.mp haction
      tool := ⟨tool, htool, hscope⟩
      iso := hgrant'.symm ▸ eq_ok_of_mapError hiso
      rechecked := eq_ok_of_mapError hrecheck }
  obtain ⟨⟨_, _, _, -, -, -, rfl⟩, haside⟩ := hstate
  refine ApplyCall.ensures_run_follow rfl hreviewed (haside.unsent hunsent₃)
    (fun ⟨record, action, client, node, hread, hstored, hclient, hfailed⟩ hh => ⟨record, action,
      client, node, hread.mono hh, hstored, hclient, hfailed.mono hh⟩)
    fun h' claimed hh' hready => ?_
  have hexecuted := always_executeDestructive hready.unsent hreads fun h'' request hh'' hrequest =>
    Policy.permits_of_sends ⟨rfl, record, claimed, hready.aside hh'', action,
      verdict.authorization, hdestroy h'' (hh'.trans hh''), hrequest⟩
      (hreads h'' (hh''.unsent hready.unsent))
  refine (Always.frame hexecuted).mono (fun _ _ hop => hop.1) fun h'' outcome houtcome => ?_
  refine houtcome.1.mono fun hfailed =>
    ⟨record, action, client, _, ?_, storedAction_eq_ok.mp haction,
    clientNamed_of_clientFor hclient, hfailed⟩
  exact hreviewed.mono (hh'.suffix.trans houtcome.2)

end Rules

end ProxmoxServer

end ProxmoxMcp
