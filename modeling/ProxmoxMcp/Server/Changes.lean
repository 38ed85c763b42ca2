import ProxmoxMcp.Core.Encoding
import ProxmoxMcp.Core.PathExpansion
import ProxmoxMcp.Server.Destroy

/-!
# What a destructive action asks of the cluster

`DestroyAction.change` reads off an action **which requests** `executeDestructive` sends for it: the
archive whose owner is looked up first, and the one request that makes the change.
`executeDestructive_eq_run` says that executing the action is sending exactly these.

`Accepted` lists the actions `buildDestroyAction` records, one constructor for each kind of
operation.
-/

namespace ProxmoxMcp

open Interaction Text ProxmoxError

variable [Externals]

/-! ### The requests of an action -/

/-- What an operation asks of the cluster. -/
structure Change where
  /-- The node and the volume id of the archive whose owner is looked up first. -/
  archive : Option (String × String)
  /-- The request that makes the change, or why it is not sent. -/
  request : Except ProxmoxError ApiRequest
  /-- Whether the answer has to name a task. -/
  namesTask : Bool

/-- A request that answers with a task. -/
def Change.task (request : ApiRequest) : Change := ⟨none, .ok request, true⟩

/-- The deletion of a volume, once its id is usable and its path expanded. -/
def volumeRequest (node storage volid : String) : Except ProxmoxError ApiRequest := do
  rejectUnusableVolid volid
  if contains volid ":" then
    let expanded ← (Externals.expandPath Guests.contentTemplate
      [("node", node), ("storage", storage)]).mapError malformed
    return Guests.deleteVolumeRequest expanded volid
  else throw (malformed "volid is not in storage:path form")

/-- The requests of an action on a guest. -/
def DestroyAction.change (action : DestroyAction) (kind : GuestType) (node : String)
    (vmid : UInt32) : Change :=
  let missing (name : String) : Change :=
    ⟨none, .error (malformed s!"{action.op} action is missing {name}"), true⟩
  match action.op with
  | "destroy_guest" | "destroy" => match kind with
    | .lxc => .task (Guests.destroyContainerRequest node vmid true)
    | .qemu => .task (Guests.destroyVmRequest node vmid true)
  | "delete_snapshot" => match action.snapname with
    | some snapname => .task (Guests.deleteSnapshotRequest node kind vmid snapname)
    | none => missing "snapname"
  | "rollback_snapshot" => match action.snapname with
    | some snapname => .task (Guests.rollbackSnapshotRequest node kind vmid snapname)
    | none => missing "snapname"
  | "delete_backup" | "delete_iso" => match action.storage, action.volid, action.storageNode with
    | none, _, _ => missing "storage"
    | _, none, _ => missing "volid"
    | _, _, none => missing "storage_node"
    | some storage, some volid, some storageNode =>
      ⟨if action.op == "delete_backup" then some (storageNode, volid) else none,
        volumeRequest storageNode storage volid, false⟩
  | "restore_backup" => match action.volid with
    | some volid =>
      ⟨some (node, volid), .ok (Guests.restoreBackupRequest node kind vmid volid true), true⟩
    | none => missing "volid"
  | "migrate" => match action.targetNode with
    | some targetNode => .task (Guests.migrateGuestRequest node kind vmid targetNode action.online
        action.withLocalDisks)
    | none => missing "target_node"
  | "update_vm_config" => match action.config with
    | some config =>
      if config.entries.isEmpty then
        ⟨none, .error (malformed "no config fields given: set at least one key"), true⟩
      else .task (Guests.updateVmConfigRequest node vmid config.entries)
    | none => missing "config"
  | other => ⟨none, .error (malformed s!"unknown destructive operation '{other}'"), true⟩

/-- Send the requests of a change. -/
def Change.run (client : ProxmoxClient) (vmid : UInt32) (change : Change) : ClientM String := do
  match change.archive with
  | some (node, volid) => requireBackupOwner client node volid vmid
  | none => pure ()
  let request ← liftM change.request
  let data ← client.send request
  if change.namesTask then liftM (Guests.upidFrom data) else return data.asStr.getD ""

private theorem deleteVolume_eq (client : ProxmoxClient) (node storage volid : String) :
    Guests.deleteVolume client node storage volid =
      (liftM (volumeRequest node storage volid) : ClientM ApiRequest) >>= client.send := by
  rw [Guests.deleteVolume, volumeRequest]
  cases rejectUnusableVolid volid with
  | error error => rfl
  | ok _ =>
    cases contains volid ":" with
    | false => rfl
    | true =>
      cases Externals.expandPath Guests.contentTemplate [("node", node), ("storage", storage)] with
      | error error => rfl
      | ok expanded => rfl

/-- The deletion of a checked volume has a request, behind an expanded path. -/
theorem exists_volumeRequest (hlaws : ExpanderLaws) {node storage volid kind : String}
    (hnode : IsSegment node) (hstorage : IsSegment storage)
    (hvolid : validateVolidForOperation volid storage kind = .ok ()) :
    ∃ expanded, Externals.expandPath Guests.contentTemplate
        [("node", node), ("storage", storage)] = .ok expanded ∧
      volumeRequest node storage volid = .ok (Guests.deleteVolumeRequest expanded volid) := by
  obtain ⟨husable, hcolon⟩ := deletable_of_validateVolidForOperation hvolid
  have htakes : Takes Guests.contentTemplate ["node", "storage"] := by decide
  obtain ⟨expanded, hexpand⟩ := (@ExpanderLaws.each _ hlaws _ [("node", node),
    ("storage", storage)] htakes).mpr (by simp [hnode, hstorage])
  refine ⟨expanded, hexpand, ?_⟩
  rw [volumeRequest, husable, hcolon, hexpand]
  rfl

/-- Deleting a volume, perhaps once its owner is known, sends the requests of that change. -/
private theorem run_volume (client : ProxmoxClient) (vmid : UInt32) (node storage volid : String)
    (archive : Option (String × String)) :
    (do
      match archive with
      | some (node, volid) => requireBackupOwner client node volid vmid
      | none => pure ()
      let data ← Guests.deleteVolume client node storage volid
      return data.asStr.getD "" : ClientM String) =
      Change.run client vmid ⟨archive, volumeRequest node storage volid, false⟩ := by
  have hdelete : (do
      let data ← Guests.deleteVolume client node storage volid
      return data.asStr.getD "" : ClientM String) = (do
      let request ← liftM (volumeRequest node storage volid)
      let data ← client.send request
      return data.asStr.getD "" : ClientM String) := by
    rw [deleteVolume_eq, bind_assoc]
  cases archive with
  | none => exact hdelete
  | some archive =>
    exact congrArg (requireBackupOwner client archive.1 archive.2 vmid >>= ·)
      (funext fun _ => hdelete)

/-- **Executing is sending**: an action is executed by sending its requests. -/
theorem executeDestructive_eq_run (client : ProxmoxClient) (action : DestroyAction)
    (kind : GuestType) (node : String) (vmid : UInt32) :
    executeDestructive client action kind node vmid =
      (action.change kind node vmid).run client vmid := by
  obtain ⟨op, cluster, vmid', snapname, storage, volid, storageNode, targetNode, online, disks,
    config⟩ := action
  unfold executeDestructive
  dsimp only
  split
  · cases kind <;> rfl
  · cases kind <;> rfl
  · cases snapname <;> rfl
  · cases snapname <;> rfl
  · cases storage with
    | none => rfl
    | some storage => cases volid with
      | none => rfl
      | some volid => cases storageNode with
        | none => rfl
        | some storageNode =>
          exact run_volume client vmid storageNode storage volid (some (storageNode, volid))
  · cases storage with
    | none => rfl
    | some storage => cases volid with
      | none => rfl
      | some volid => cases storageNode with
        | none => rfl
        | some storageNode =>
          exact run_volume client vmid storageNode storage volid none
  · cases volid <;> rfl
  · cases targetNode <;> rfl
  · cases config with
    | none => rfl
    | some config =>
      obtain ⟨entries, hsorted⟩ := config
      cases entries <;> rfl
  · -- an operation that is none of these is refused on both sides
    unfold DestroyAction.change
    dsimp only
    split
    case h_10 => rfl
    all_goals contradiction

end ProxmoxMcp
