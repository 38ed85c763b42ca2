import ProxmoxMcp.ChangeSet.Stored
import ProxmoxMcp.Core.Fingerprint
import ProxmoxMcp.Core.Guests

/-!
# Destructive actions

The action of a change set that destroys or overwrites a guest or a volume: how a plan builds it,
what an apply checks about it again, and what the approver reads about it. The operation is a text,
because a stored record may name one that this server does not know.
-/

namespace ProxmoxMcp

open Text

/-- Arguments for planning a destructive operation. -/
structure PlanDestroyArgs where
  cluster : String
  vmid : UInt32
  op : String := "destroy_guest"
  snapname : Option String := none
  storage : Option String := none
  volid : Option String := none
  storageNode : Option String := none
  targetNode : Option String := none
  online : Bool := false
  withLocalDisks : Bool := false
  config : ConfigMap := .empty

/-- Arguments for retrieving or manipulating a change set. -/
structure ChangeSetArgs where
  changeSetId : String
  cluster : String
  vmid : UInt32
  deriving DecidableEq

/-- The device of a change set about one vmid. -/
def ChangeSetArgs.device (args : ChangeSetArgs) : String := s!"{args.cluster}/{args.vmid}"

/-- Action for a destructive operation: the operation and its parameters, absent when it does not
take them. -/
structure DestroyAction where
  op : String
  cluster : String
  vmid : UInt32
  snapname : Option String
  storage : Option String
  volid : Option String
  storageNode : Option String
  targetNode : Option String
  online : Bool
  withLocalDisks : Bool
  config : Option ConfigMap
  deriving DecidableEq

namespace DestroyAction

/-- The action as a change set stores it. -/
def toJson (action : DestroyAction) : Json :=
  .object <| presentMembers [("op", some (.string action.op)),
    ("cluster", some (.string action.cluster)), ("vmid", some (.unsigned action.vmid.toUInt64)),
    ("snapname", action.snapname.map .string), ("storage", action.storage.map .string),
    ("volid", action.volid.map .string), ("storage_node", action.storageNode.map .string),
    ("target_node", action.targetNode.map .string), ("online", some (.bool action.online)),
    ("with_local_disks", some (.bool action.withLocalDisks)),
    ("config", action.config.map ConfigMap.toJson)]

/-- Read a stored action. -/
def fromJson (value : Json) : Option DestroyAction := do
  let field ← structFields ["op", "cluster", "vmid", "snapname", "storage", "volid",
    "storage_node", "target_node", "online", "with_local_disks", "config"] value
  return {
    op := ← (field "op").bind Json.asStr
    cluster := ← (field "cluster").bind Json.asStr
    vmid := ← (field "vmid").bind Json.asU32
    snapname := ← optionalMember Json.asStr (field "snapname")
    storage := ← optionalMember Json.asStr (field "storage")
    volid := ← optionalMember Json.asStr (field "volid")
    storageNode := ← optionalMember Json.asStr (field "storage_node")
    targetNode := ← optionalMember Json.asStr (field "target_node")
    online := ← flagMember (field "online")
    withLocalDisks := ← flagMember (field "with_local_disks")
    config := ← optionalMember ConfigMap.fromJson (field "config") }

/-- **What is applied is what was planned**: a stored action is read back unchanged. -/
@[simp] theorem fromJson_toJson {action : DestroyAction} :
    fromJson action.toJson = some action := by
  simp [fromJson, toJson, structFields, lookup_presentMembers, List.lookup_cons]

/-- The operation a value names is that of the action it reads as. -/
theorem op_of_fromJson {value : Json} {action : DestroyAction} {op : String}
    (h : fromJson value = some action) (hop : value.getStr "op" = some op) : op = action.op := by
  cases value with
  | object members =>
    simp only [fromJson, structFields, Option.bind_eq_bind, Option.bind_some,
      Option.bind_eq_some_iff] at h
    obtain ⟨op', hop', _, -, _, -, _, -, _, -, _, -, _, -, _, -, _, -, _, -, _, -, haction⟩ := h
    obtain rfl := Option.some.inj haction
    exact Option.some.inj (hop.symm.trans (Option.bind_eq_some_iff.mpr hop'))
  | _ => simp [Json.getStr, Json.get] at hop

/-- A value without a vmid is no destructive action. -/
theorem fromJson_eq_none {members : List (String × Json)} (h : members.lookup "vmid" = none) :
    fromJson (.object members) = none := by
  simp [fromJson, structFields, h]

end DestroyAction

/-! ### Planning -/

section Planning

variable [Externals]

/-- A parameter an operation cannot do without; an empty text does not count. -/
def requireField (op : String) (value : Option String) (name : String) : Except String String :=
  match value.filter fun value => !value.isEmpty with
  | some value => .ok value
  | none => .error s!"{op} requires {name}"

/-- A required parameter that becomes one segment of a path. -/
def requireSegment (op : String) (value : Option String) (name : String) :
    Except String String := do
  let value ← requireField op value name
  (Guests.validatePathSegment value name).mapError fun error =>
    s!"{op} refuses {name}: {error.toText}"
  return value

/-- The content kind of the volumes an operation deletes. -/
def deletedKind : String → String
  | "delete_backup" => "backup"
  | _ => "iso"

/-- Build and validate the action a destructive plan will record. -/
def buildDestroyAction (args : PlanDestroyArgs) : Except String DestroyAction :=
  let action : DestroyAction := {
    op := args.op, cluster := args.cluster, vmid := args.vmid, snapname := none, storage := none
    volid := none, storageNode := none, targetNode := none, online := args.online
    withLocalDisks := args.withLocalDisks, config := none }
  match args.op with
  | "destroy_guest" => .ok action
  | "migrate" => do
    return { action with
      targetNode := some (← requireSegment args.op args.targetNode "target_node") }
  | "update_vm_config" =>
    if args.config.entries.isEmpty then .error "update_vm_config requires config"
    else match rejectUnsafeVmConfig args.config with
      | some message => .error message
      | none => .ok { action with config := some args.config }
  | "delete_snapshot" | "rollback_snapshot" => do
    return { action with snapname := some (← requireSegment args.op args.snapname "snapname") }
  | "delete_backup" | "delete_iso" => do
    let storageNode ← requireSegment args.op args.storageNode "storage_node"
    let storage ← requireSegment args.op args.storage "storage"
    let volid ← requireField args.op args.volid "volid"
    (validateVolidForOperation volid storage (deletedKind args.op)).mapError ProxmoxError.toText
    return { action with
      storage := some storage, volid := some volid, storageNode := some storageNode }
  | "restore_backup" => do
    let volid ← requireField args.op args.volid "volid"
    (validateVolidKind volid "backup").mapError ProxmoxError.toText
    return { action with volid := some volid }
  | other => .error (s!"unknown destructive operation '{other}'; expected one of destroy_guest, " ++
      "delete_snapshot, rollback_snapshot, delete_backup, delete_iso, restore_backup, migrate, " ++
      "update_vm_config")

end Planning

/-- The tool name a destructive operation authorizes against. -/
def toolForOp (op : String) (kind : GuestType) : Option String :=
  match op with
  | "destroy_guest" | "destroy" => some <| match kind with
    | .lxc => "delete_container"
    | .qemu => "delete_vm"
  | "delete_snapshot" => some "delete_snapshot"
  | "rollback_snapshot" => some "rollback_snapshot"
  | "delete_backup" => some "delete_backup"
  | "delete_iso" => some "delete_iso"
  | "restore_backup" => some "restore_backup"
  | "migrate" => some <| match kind with
    | .lxc => "migrate_container"
    | .qemu => "migrate_vm"
  | "update_vm_config" => some "update_vm_config"
  | _ => none

/-- Whether an operation destroys a guest; the second spelling is that of older records. -/
def isGuestDestroy (op : String) : Bool := op == "destroy_guest" || op == "destroy"

/-- Whether an operation needs the guest stopped before Proxmox will do it. -/
def destroyRequiresAStoppedGuest (op : String) : Bool := isGuestDestroy op

/-- Refuse `delete_iso` for a token whose guest scope is narrowed. -/
def requireUnrestrictedScopeForDeleteIso (op : String) (grant : ProxmoxGrant) :
    Except String Unit :=
  if op = "delete_iso" ∧ ¬ grant.isUnrestrictedGuestScope then
    .error ("delete_iso deletes from storage that is not scoped to any guest, so it requires a " ++
      "caller whose guest scope is '*'. This caller is narrowed to specific guests and cannot " ++
      "be checked against a storage.")
  else .ok ()

/-- Refuse a migration that Proxmox would refuse anyway. -/
def migratePrecondition (online : Bool) (status : String) : Except String Unit :=
  if online ∧ status ≠ "running" then
    .error (s!"guest reports status '{status}'; a live migration (online) requires a running " ++
      "guest. Start it first, or plan an offline migration instead.")
  else if ¬ online ∧ status ≠ "stopped" then
    .error (s!"guest reports status '{status}'; an offline migration requires a stopped guest. " ++
      "Stop it first, or plan with online: true for a live migration.")
  else .ok ()

/-! ### Checking again at apply -/

/-- A field is present when it is not empty. -/
def isPresent (value : Option String) : Bool := value.any fun value => !value.isEmpty

/-- The operation-required fields an action does not carry. -/
def missingRequiredFields (action : DestroyAction) : List String :=
  let required : List (String × Bool) := match action.op with
    | "delete_snapshot" | "rollback_snapshot" => [("snapname", isPresent action.snapname)]
    | "delete_backup" | "delete_iso" => [("storage", isPresent action.storage),
        ("volid", isPresent action.volid), ("storage_node", isPresent action.storageNode)]
    | "restore_backup" => [("volid", isPresent action.volid)]
    | "migrate" => [("target_node", isPresent action.targetNode)]
    | "update_vm_config" =>
      [("config", action.config.any fun config => !config.entries.isEmpty)]
    | _ => []
  (required.filter fun field => !field.2).map Prod.fst

/-- The values of a stored action, checked again as a plan checks them. -/
def recheckValues (action : DestroyAction) : Except String Unit :=
  match action.op with
  | "delete_backup" | "delete_iso" =>
    match action.volid, action.storage with
    | some volid, some storage =>
      (validateVolidForOperation volid storage (deletedKind action.op)).mapError fun error =>
        s!"volid validation failed at apply: {error.toText}"
    | _, _ => .error
        s!"'{action.op}' passed the required-field check without volid and storage"
  | "restore_backup" =>
    match action.volid with
    | some volid => (validateVolidKind volid "backup").mapError fun error =>
        s!"volid validation failed at apply: {error.toText}"
    | none => .error s!"'{action.op}' passed the required-field check without volid"
  | "update_vm_config" =>
    match action.config.bind rejectUnsafeVmConfig with
    | some message => .error s!"config validation failed at apply: {message}"
    | none => .ok ()
  | _ => .ok ()

section Rechecking

variable [Externals]

/-- The fields of a stored action that become segments of a path. -/
def recheckSegments : List (String × Option String) → Except String Unit
  | [] => .ok ()
  | (_, none) :: rest => recheckSegments rest
  | (field, some value) :: rest =>
    match Guests.validatePathSegment value field with
    | .ok _ => recheckSegments rest
    | .error error => .error (s!"apply refused: {error.toText}. This change set was planned " ++
        "before that check existed; plan the operation again.")

/-- Refuse a stored action that planning would not have recorded. -/
def recheckAction (action : DestroyAction) : Except String Unit := do
  let absent := missingRequiredFields action
  let names := ", ".intercalate absent
  if !absent.isEmpty then
    throw (s!"the change set records a '{action.op}' action without {names}; it cannot be applied. "
      ++ "This action predates the field being required, or was imported. Plan the operation again "
      ++ "with plan_proxmox_destroy and have the new change set approved -- the incomplete record "
      ++ "stays approved but unapplied, and nothing was sent to the cluster.")
  recheckValues action
  recheckSegments [("snapname", action.snapname), ("storage", action.storage),
    ("storage_node", action.storageNode)]

/-- An action that passes the checks of an apply has values of the right shape. -/
theorem recheckValues_of_recheckAction {action : DestroyAction}
    (h : recheckAction action = .ok ()) : recheckValues action = .ok () := by
  simp only [recheckAction, bind, Except.bind] at h
  split at h
  · simp at h
  · split at h
    · simp at h
    · next hvalues => exact hvalues

end Rechecking

/-! ### Previews -/

/-- What the preview of a guest's destruction describes. -/
structure PreviewInput where
  state : GuestState
  isProtected : Bool
  override : Override
  snapshots : ℕ
  latestSnapshot : Option String
  lastBackup : Option String
  purgeDisks : Bool

/-- A byte count in whole units. -/
def formatSize (bytes : UInt64) : String :=
  if bytes ≥ 1024 * 1024 * 1024 then s!"{bytes / (1024 * 1024 * 1024)}G"
  else if bytes ≥ 1024 * 1024 then s!"{bytes / (1024 * 1024)}M"
  else s!"{bytes}B"

/-- The line that names what overrides the protection, always present. -/
def waiverLine : Override → String
  | .none => "  waiver     none"
  | .waiver reason (some ticket) _ => s!"  waiver     {ticket} — {reason}"
  | .waiver reason none _ => s!"  waiver     {reason}"
  | .labMode => "  waiver     lab-mode"

/-- Render the preview of a guest's destruction. -/
def renderPreview (input : PreviewInput) : String :=
  let state := input.state
  let tags := ", ".intercalate state.tags
  let tagsLine := if state.tags.isEmpty then "  tags       (none)"
    else if input.isProtected then s!"  tags       {tags}          ← PROTECTED"
    else s!"  tags       {tags}"
  let disks := if state.disks.isEmpty then "(none)"
    else ", ".intercalate (state.disks.map fun disk => s!"{disk.1} {formatSize disk.2}")
  let purge := if input.purgeDisks then "yes" else "no"
  let snapshotsLine := match input.latestSnapshot with
    | some latest => s!"  snapshots  {input.snapshots}   latest: {latest}"
    | none => s!"  snapshots  {input.snapshots}"
  let backupsLine := match input.lastBackup with
    | some backup => s!"  backups    last: {backup}"
    | none => "  backups    none"
  "\n".intercalate <|
    [s!"DESTROY  {state.cluster} / {state.vmid} {state.name}  ({state.kind}, {state.status})",
      tagsLine, s!"  node       {state.node}", s!"  disks      {disks}    (purge: {purge})",
      snapshotsLine, backupsLine, waiverLine input.override] ++
    if input.isProtected && input.override == .none then
      ["  verdict    REFUSED — protected, no waiver"] else []

/-- One entry of a config, without a cloud-init password. -/
def renderEntry (entry : String × String) : String :=
  if eqIgnoreAsciiCase entry.1 "cipassword" then s!"{entry.1}=<redacted>"
  else s!"{entry.1}={entry.2}"

/-- Render the preview an approver reviews for one destructive action. -/
def renderDestructivePreview (action : DestroyAction) (guestName node : String)
    (protection : Protection) (override : Override) : String :=
  let target := s!"{guestName} (vmid {action.vmid}, {action.cluster}, node {node})"
  let snapname := action.snapname.getD "?"
  let volid := action.volid.getD "?"
  let storage := action.storage.getD "?"
  let storageNode := action.storageNode.getD "?"
  let targetNode := action.targetNode.getD "?"
  let body := match action.op with
    | "destroy_guest" | "destroy" =>
      s!"DESTROY {target}\n  The guest and its disks are removed. This cannot be undone."
    | "delete_snapshot" => s!"DELETE SNAPSHOT '{snapname}' of {target}\n  The snapshot is " ++
        "removed. The guest is untouched."
    | "rollback_snapshot" => s!"ROLLBACK {target} to snapshot '{snapname}'\n  OVERWRITES the " ++
        "guest's current state. Everything written since that snapshot is lost. This is not a " ++
        "deletion — it is a replacement."
    | "delete_backup" => s!"DELETE BACKUP '{volid}' on storage '{storage}' at node " ++
        s!"'{storageNode}'\n  The archive is removed. A backup cannot be re-created from the " ++
        "guest as it was when the backup was taken."
    | "delete_iso" => s!"DELETE ISO '{volid}' on storage '{storage}' at node '{storageNode}'\n  " ++
        "The image is removed. It can be downloaded again."
    | "restore_backup" => s!"RESTORE {target} from '{volid}'\n  OVERWRITES the guest with the " ++
        "archive's contents. Unlike a rollback there is no snapshot of the pre-restore state " ++
        "unless one was taken."
    | "migrate" =>
      let mode := if action.online then "LIVE (guest stays running throughout)"
        else "OFFLINE (guest must be stopped)"
      let disks := if action.withLocalDisks then
        " Node-local disks are copied along with the guest." else ""
      s!"MIGRATE {target} to node '{targetNode}'\n  {mode} migration.{disks}"
    | "update_vm_config" =>
      let rendered := ", ".intercalate <|
        ((action.config.map ConfigMap.entries).getD []).map renderEntry
      s!"UPDATE CONFIG {target}\n  Sets: {rendered}\n  Proxmox merges these into the guest's " ++
        "existing config; keys not listed here are unchanged."
    | other => s!"UNKNOWN OPERATION '{other}' on {target}"
  let protectedLine := if protection.isProtected then
    s!"  protected  yes — {protection.summary}" else "  protected  no"
  s!"{body}\n{protectedLine}\n{waiverLine override}"

/-- The fixed policy signature of a plan: this server has no policy engine. -/
def policySignature : String := "proxmox-no-policy-engine"

end ProxmoxMcp
