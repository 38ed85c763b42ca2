import ProxmoxMcp.Core.Client
import ProxmoxMcp.Core.Task
import ProxmoxMcp.Core.Volid

/-!
# Guest operations

The requests the server sends about guests, their volumes and their tasks. Each is written down as
an `ApiRequest` and sent by one of two functions: `runTask` wants the answer to name a task,
`ProxmoxClient.send` takes it as it is.

`Sent` says what a request can come to: either it was **not dispatched**, for a local reason, or
it was dispatched once and its outcome is read off the reply.
-/

namespace ProxmoxMcp

open Interaction Program Text ProxmoxError

/-! ### Outcomes of one request -/

/-- What sending one request has come to. -/
inductive Sent {α : Type} (client : ProxmoxClient) (request : ApiRequest) (before : History Effect)
    (read : Json → Except ProxmoxError α) [Externals] :
    (after : History Effect) → Except ProxmoxError α → Prop
  /-- A template, a URL or an argument was refused before anything was sent. -/
  | refused (text : String) : Sent client request before read before (.error (malformed text))
  | unsendable (error : HttpError) : Sent client request before read before (.error (http error))
  | answered (ticket : ℕ) (reply : Except HttpError HttpResponse) :
      Sent client request before read
        (⟨.http (.await ticket), reply⟩ ::
          ⟨.http (.dispatch client.name request), ticket⟩ :: before)
        ((ProxmoxClient.readReply reply).bind read)

namespace Guests

variable [Externals]

/-- The task handle an answer names. -/
def upidFrom (data : Json) : Except ProxmoxError String :=
  match data.asStr with
  | none => .error (malformed "data is not a string")
  | some upid => match Upid.parse upid with
    | .error error => .error (malformed error.toText)
    | .ok _ => .ok upid

/-- Send a request whose answer names a task. -/
def runTask (client : ProxmoxClient) (request : ApiRequest) : ClientM String := do
  liftM (upidFrom (← client.send request))

/-- Sending alone: the answer is what is read. -/
theorem always_send {client : ProxmoxClient} {request : ApiRequest}
    {G : History Effect → Op → Prop} {h : History Effect}
    (sent : G h (.http (.dispatch client.name request)))
    (awaited : ∀ ticket, G (⟨.http (.dispatch client.name request), ticket⟩ :: h)
      (.http (.await ticket))) :
    Always G (Sent client request h .ok) h (client.send request).run := by
  refine ProxmoxClient.always_send ?_ sent awaited ?_
  · rintro error (⟨text, rfl⟩ | ⟨text, rfl⟩)
    · exact .refused text
    · exact .unsendable text
  · intro ticket reply
    have hbind : (ProxmoxClient.readReply reply).bind .ok = ProxmoxClient.readReply reply := by
      cases ProxmoxClient.readReply reply <;> rfl
    exact hbind ▸ .answered ticket reply

/-- Sending and reading, as one outcome. -/
theorem always_send_read {α : Type} {client : ProxmoxClient} {request : ApiRequest}
    {read : Json → Except ProxmoxError α} {G : History Effect → Op → Prop} {h : History Effect}
    (sent : G h (.http (.dispatch client.name request)))
    (awaited : ∀ ticket, G (⟨.http (.dispatch client.name request), ticket⟩ :: h)
      (.http (.await ticket))) :
    Always G (Sent client request h read) h (do liftM (read (← client.send request)) :
      ClientM α).run := by
  refine Always.run_bind (R := Sent client request h .ok) (always_send sent awaited) ?_ ?_
  · rintro after data hsent
    -- the reading is part of the outcome, as if the answer had been read at once
    rw [always_run_liftExcept]
    generalize houtcome : (Except.ok data : Except ProxmoxError Json) = outcome at hsent
    cases hsent with
    | answered ticket reply =>
      have hread : (ProxmoxClient.readReply reply).bind read = read data := by
        cases hreply : ProxmoxClient.readReply reply with
        | error error => simp [hreply, Except.bind] at houtcome
        | ok data' => simp_all [Except.bind]
      exact hread ▸ .answered ticket reply
    | _ => simp at houtcome
  · rintro after error hsent
    generalize houtcome : (Except.error error : Except ProxmoxError Json) = outcome at hsent
    cases hsent with
    | refused text =>
      obtain rfl : error = _ := by simpa using houtcome
      exact .refused text
    | unsendable text =>
      obtain rfl : error = _ := by simpa using houtcome
      exact .unsendable text
    | answered ticket reply =>
      have hread : (ProxmoxClient.readReply reply).bind read = .error error := by
        cases hreply : ProxmoxClient.readReply reply with
        | error error => simp_all [Except.bind]
        | ok data => simp [hreply, Except.bind] at houtcome
      exact hread ▸ .answered ticket reply

/-! ### The configuration a fingerprint covers -/

/-- The configuration state of a guest. -/
structure GuestConfigState where
  configDigest : String
  disks : List (String × UInt64)

/-- Whether a configuration key names a disk. -/
def isDiskKey (key : String) : Bool :=
  key == "rootfs" ||
    ["ide", "sata", "scsi", "virtio", "efidisk", "tpmstate", "mp"].any fun kind =>
      match stripPrefix key kind with
      | some rest => !rest.isEmpty && rest.toList.all Char.isDigit
      | none => false

/-- What the size of a disk value reads as. -/
inductive DiskSize where
  | sized (bytes : UInt64)
  | unmanaged
  | unparseable
  deriving DecidableEq

/-- A size with an optional binary unit, in bytes. -/
def parseSizeBytes (value : String) : Option UInt64 := do
  let last ← value.toList.getLast?
  let (digits, multiplier) : String × UInt64 := match last with
    | 'K' | 'k' => (String.ofList value.toList.dropLast, 1024)
    | 'M' | 'm' => (String.ofList value.toList.dropLast, 1024 * 1024)
    | 'G' | 'g' => (String.ofList value.toList.dropLast, 1024 * 1024 * 1024)
    | 'T' | 't' => (String.ofList value.toList.dropLast, 1024 * 1024 * 1024 * 1024)
    | _ => (value, 1)
  guard !digits.isEmpty
  Externals.decimalBytes digits multiplier

/-- Read the size of a disk value; a cdrom and a value without one have no managed size. -/
def classifyDiskSize (raw : String) : DiskSize :=
  if (fields raw ',').contains "media=cdrom" then .unmanaged
  else match (fields raw ',').findSome? (stripPrefix · "size=") with
    | none => .unmanaged
    | some size => match parseSizeBytes size with
      | some bytes => .sized bytes
      | none => .unparseable

/-- The disks among the members of a configuration. -/
def disksOf (vmid : UInt32) : List (String × Json) → Except ProxmoxError (List (String × UInt64))
  | [] => .ok []
  | (key, value) :: rest => do
    let disk ← match isDiskKey key, value.asStr with
      | true, some raw => match classifyDiskSize raw with
        | .sized bytes => .ok [(key, bytes)]
        | .unmanaged => .ok []
        | .unparseable => .error (malformed s!"guest {vmid} disk '{key}' has an unparseable size")
      | _, _ => .ok []
    return disk ++ (← disksOf vmid rest)

/-- Read the answer to a request for a guest's configuration. -/
def readGuestConfigState (vmid : UInt32) (data : Json) : Except ProxmoxError GuestConfigState :=
  match data with
  | .object members => do
    let some configDigest := data.getStr "digest"
      | throw (malformed s!"guest {vmid} config has no digest")
    return ⟨configDigest, ← disksOf vmid members⟩
  | _ => .error (malformed s!"guest {vmid} config response is not an object")

/-- The request for a guest's configuration. -/
def configRequest (node : String) (kind : GuestType) (vmid : UInt32) : ApiRequest :=
  ⟨.get, "/api2/json/nodes/{node}/{kind}/{vmid}/config",
    [("node", node), ("kind", kind.pathSegment), ("vmid", toString vmid)], [], []⟩

def fetchGuestConfigState (client : ProxmoxClient) (node : String) (kind : GuestType)
    (vmid : UInt32) : ClientM GuestConfigState := do
  liftM (readGuestConfigState vmid (← client.send (configRequest node kind vmid)))

/-! ### Destroying and restoring -/

/-- A flag as the API takes it. -/
def flag (value : Bool) : String := if value then "1" else "0"

def destroyContainerRequest (node : String) (vmid : UInt32) (purge : Bool) : ApiRequest :=
  ⟨.delete, "/api2/json/nodes/{node}/lxc/{vmid}", [("node", node), ("vmid", toString vmid)],
    [("purge", flag purge)], []⟩

def destroyContainer (client : ProxmoxClient) (node : String) (vmid : UInt32) (purge : Bool) :
    ClientM String := runTask client (destroyContainerRequest node vmid purge)

def destroyVmRequest (node : String) (vmid : UInt32) (purge : Bool) : ApiRequest :=
  ⟨.delete, "/api2/json/nodes/{node}/qemu/{vmid}", [("node", node), ("vmid", toString vmid)],
    [("purge", flag purge), ("destroy-unreferenced-disks", flag purge)], []⟩

def destroyVm (client : ProxmoxClient) (node : String) (vmid : UInt32) (purge : Bool) :
    ClientM String := runTask client (destroyVmRequest node vmid purge)

def deleteSnapshotRequest (node : String) (kind : GuestType) (vmid : UInt32) (snapname : String) :
    ApiRequest :=
  ⟨.delete, "/api2/json/nodes/{node}/{kind}/{vmid}/snapshot/{snapname}",
    [("node", node), ("kind", kind.pathSegment), ("vmid", toString vmid), ("snapname", snapname)],
    [], []⟩

def deleteSnapshot (client : ProxmoxClient) (node : String) (kind : GuestType) (vmid : UInt32)
    (snapname : String) : ClientM String :=
  runTask client (deleteSnapshotRequest node kind vmid snapname)

def rollbackSnapshotRequest (node : String) (kind : GuestType) (vmid : UInt32)
    (snapname : String) : ApiRequest :=
  ⟨.post, "/api2/json/nodes/{node}/{kind}/{vmid}/snapshot/{snapname}/rollback",
    [("node", node), ("kind", kind.pathSegment), ("vmid", toString vmid), ("snapname", snapname)],
    [], []⟩

def rollbackSnapshot (client : ProxmoxClient) (node : String) (kind : GuestType) (vmid : UInt32)
    (snapname : String) : ClientM String :=
  runTask client (rollbackSnapshotRequest node kind vmid snapname)

/-- Check that a value is usable as one segment of a path. -/
def validatePathSegment (value field : String) : Except ProxmoxError Unit :=
  match Externals.expandPath "{segment}" [("segment", value)] with
  | .ok _ => .ok ()
  | .error error => .error (malformed s!"{field} is not a usable path segment: {error}")

/-- The deletion of a volume: its id is one encoded segment behind the expanded prefix. -/
def deleteVolumeRequest (expanded volid : String) : ApiRequest :=
  ⟨.delete, expanded ++ "/" ++ percentEncode volid, [], [], []⟩

/-- Where the volumes of a storage are. -/
def contentTemplate : String := "/api2/json/nodes/{node}/storage/{storage}/content"

/-- Delete a volume of a storage, on the node the storage is asked on. -/
def deleteVolume (client : ProxmoxClient) (node storage volid : String) : ClientM Json := do
  liftM (rejectUnusableVolid volid)
  ensure (contains volid ":") (malformed "volid is not in storage:path form")
  let expanded ← liftM ((Externals.expandPath contentTemplate
    [("node", node), ("storage", storage)]).mapError malformed)
  client.send (deleteVolumeRequest expanded volid)

/-- The request for the backups of a storage. -/
def backupListingRequest (node storage : String) : ApiRequest :=
  ⟨.get, contentTemplate, [("node", node), ("storage", storage)], [("content", "backup")], []⟩

/-- The vmid of a listing entry, given as a number or as a text. -/
def ownerOf (entry : Json) : Option UInt64 :=
  (entry.get "vmid").bind fun value => value.asU64.or (value.asStr.bind parseU64)

/-- The owner a storage listing gives for an archive: that of the first entry with its id. -/
def readBackupOwner (node storage volid : String) (data : Json) : Except ProxmoxError UInt32 := do
  let some entries := data.asArray
    | throw (malformed "storage content listing was not a JSON array")
  let some entry := entries.find? fun entry => entry.getStr "volid" == some volid
    | throw (notFound s!"backup archive '{volid}' on node {node}, storage {storage}")
  let some vmid := ownerOf entry
    | throw (malformed
        s!"backup archive '{volid}' has no readable vmid in Proxmox's content listing")
  if vmid.toNat < UInt32.size then return vmid.toUInt32
  throw (malformed s!"backup archive '{volid}' reports vmid {vmid}, which does not fit a u32")

/-- Ask a storage which guest an archive is of. -/
def resolveBackupOwner (client : ProxmoxClient) (node volid : String) : ClientM UInt32 := do
  let (storage, _) ← required (splitOnce volid ':')
    (malformed "volid is not in storage:path form")
  liftM (readBackupOwner node storage volid (← client.send (backupListingRequest node storage)))

def restoreBackupRequest (node : String) (kind : GuestType) (vmid : UInt32) (archive : String)
    (force : Bool) : ApiRequest :=
  ⟨.post, "/api2/json/nodes/{node}/{kind}", [("node", node), ("kind", kind.pathSegment)], [],
    [("vmid", toString vmid), ("archive", archive), ("force", flag force), ("restore", "1")]⟩

def restoreBackup (client : ProxmoxClient) (node : String) (kind : GuestType) (vmid : UInt32)
    (archive : String) (force : Bool) : ClientM String :=
  runTask client (restoreBackupRequest node kind vmid archive force)

def migrateGuestRequest (node : String) (kind : GuestType) (vmid : UInt32) (targetNode : String)
    (online withLocalDisks : Bool) : ApiRequest :=
  ⟨.post, "/api2/json/nodes/{node}/{kind}/{vmid}/migrate",
    [("node", node), ("kind", kind.pathSegment), ("vmid", toString vmid)], [],
    ("target", targetNode) :: match kind with
      | .qemu => (if online then [("online", "1")] else []) ++
          if withLocalDisks then [("with-local-disks", "1")] else []
      | .lxc => if online then [("restart", "1")] else []⟩

def migrateGuest (client : ProxmoxClient) (node : String) (kind : GuestType) (vmid : UInt32)
    (targetNode : String) (online withLocalDisks : Bool) : ClientM String :=
  runTask client (migrateGuestRequest node kind vmid targetNode online withLocalDisks)

def updateVmConfigRequest (node : String) (vmid : UInt32) (config : List (String × String)) :
    ApiRequest :=
  ⟨.post, "/api2/json/nodes/{node}/qemu/{vmid}/config",
    [("node", node), ("vmid", toString vmid)], [], config⟩

def updateVmConfig (client : ProxmoxClient) (node : String) (vmid : UInt32)
    (config : List (String × String)) : ClientM String := do
  ensure (!config.isEmpty) (malformed "no config fields given: set at least one key")
  runTask client (updateVmConfigRequest node vmid config)

/-! ### Low-tier operations -/

/-- A lifecycle transition. -/
inductive LifecycleVerb where
  | start
  | stop
  | shutdown
  | reset
  | reboot
  deriving DecidableEq

def LifecycleVerb.pathSegment : LifecycleVerb → String
  | start => "start"
  | stop => "stop"
  | shutdown => "shutdown"
  | reset => "reset"
  | reboot => "reboot"

def lifecycleRequest (node : String) (kind : GuestType) (vmid : UInt32) (verb : LifecycleVerb) :
    ApiRequest :=
  ⟨.post, "/api2/json/nodes/{node}/{kind}/{vmid}/status/{verb}",
    [("node", node), ("kind", kind.pathSegment), ("vmid", toString vmid),
      ("verb", verb.pathSegment)], [], []⟩

def lifecycle (client : ProxmoxClient) (node : String) (kind : GuestType) (vmid : UInt32)
    (verb : LifecycleVerb) : ClientM String :=
  runTask client (lifecycleRequest node kind vmid verb)

/-- An optional form field, left out when it is empty. -/
def optionalField (key : String) (value : Option String) : List (String × String) :=
  match value with
  | some value => if value.isEmpty then [] else [(key, value)]
  | none => []

def createSnapshotRequest (node : String) (kind : GuestType) (vmid : UInt32) (snapname : String)
    (description : Option String) : ApiRequest :=
  ⟨.post, "/api2/json/nodes/{node}/{kind}/{vmid}/snapshot",
    [("node", node), ("kind", kind.pathSegment), ("vmid", toString vmid)], [],
    ("snapname", snapname) :: optionalField "description" description⟩

def createSnapshot (client : ProxmoxClient) (node : String) (kind : GuestType) (vmid : UInt32)
    (snapname : String) (description : Option String) : ClientM String :=
  runTask client (createSnapshotRequest node kind vmid snapname description)

def createBackupRequest (node : String) (vmid : UInt32) (storage mode : String)
    (compress : Option String) : ApiRequest :=
  ⟨.post, "/api2/json/nodes/{node}/vzdump", [("node", node)], [],
    [("vmid", toString vmid), ("storage", storage), ("mode", mode)] ++
      optionalField "compress" compress⟩

def createBackup (client : ProxmoxClient) (node : String) (vmid : UInt32) (storage mode : String)
    (compress : Option String) : ClientM String :=
  runTask client (createBackupRequest node vmid storage mode compress)

def cloneGuestRequest (node : String) (kind : GuestType) (sourceVmid newVmid : UInt32)
    (name : Option String) (full : Bool) : ApiRequest :=
  ⟨.post, "/api2/json/nodes/{node}/{kind}/{vmid}/clone",
    [("node", node), ("kind", kind.pathSegment), ("vmid", toString sourceVmid)], [],
    [("newid", toString newVmid), ("full", flag full)] ++
      optionalField (match kind with | .lxc => "hostname" | .qemu => "name") name⟩

def cloneGuest (client : ProxmoxClient) (node : String) (kind : GuestType)
    (sourceVmid newVmid : UInt32) (name : Option String) (full : Bool) : ClientM String :=
  runTask client (cloneGuestRequest node kind sourceVmid newVmid name full)

/-- Read the node names out of the answer to a request for the nodes. -/
def readNodeNames (data : Json) : Except ProxmoxError (List String) := do
  let some entries := data.asArray | throw (malformed "nodes response is not an array")
  entries.mapM fun entry => match entry.getStr "node" with
    | some node => .ok node
    | none => .error (malformed "node entry has no 'node' string")

def nodesRequest : ApiRequest := ⟨.get, "/api2/json/nodes", [], [], []⟩

def listNodeNames (client : ProxmoxClient) : ClientM (List String) := do
  liftM (readNodeNames (← client.send nodesRequest))

def resizeDiskRequest (node : String) (kind : GuestType) (vmid : UInt32) (disk size : String) :
    ApiRequest :=
  ⟨.post, "/api2/json/nodes/{node}/{kind}/{vmid}/resize",
    [("node", node), ("kind", kind.pathSegment), ("vmid", toString vmid)], [],
    [("disk", disk), ("size", size)]⟩

/-- Grow a disk; the answer may name a task or nothing. -/
def resizeDisk (client : ProxmoxClient) (node : String) (kind : GuestType) (vmid : UInt32)
    (disk size : String) : ClientM String := do
  let data ← client.send (resizeDiskRequest node kind vmid disk size)
  return data.asStr.getD ""

/-- Whether an amount is positive: digits, at most one fraction, at most one unit, not all zero. -/
def namesAPositiveAmount (value : String) : Bool :=
  let digits := match value.toList.getLast? with
    | some unit => if "KMGTkmgt".toList.contains unit then value.toList.dropLast else value.toList
    | none => []
  let (whole, fraction) := match splitListOnce '.' digits with
    | some (whole, fraction) => (whole, some fraction)
    | none => (digits, none)
  !whole.isEmpty && whole.all Char.isDigit &&
    (match fraction with
      | some fraction => !fraction.isEmpty && fraction.all Char.isDigit
      | none => true) &&
    digits.any fun c => c.isDigit && c != '0'

/-- Whether a size is anything but a positive growth. It is irreducible so that no program that
starts with this check is unfolded through it. -/
@[irreducible] def resizeShrinks (size : String) : Bool :=
  match stripPrefix (trim size) "+" with
  | none => true
  | some delta => !namesAPositiveAmount delta

def createGuestRequest (node : String) (kind : GuestType) (vmid : UInt32)
    (config : List (String × String)) : ApiRequest :=
  ⟨.post, "/api2/json/nodes/{node}/{kind}", [("node", node), ("kind", kind.pathSegment)], [],
    ("vmid", toString vmid) :: config⟩

def createGuest (client : ProxmoxClient) (node : String) (kind : GuestType) (vmid : UInt32)
    (config : List (String × String)) : ClientM String :=
  runTask client (createGuestRequest node kind vmid config)

def updateContainerResourcesRequest (node : String) (vmid : UInt32)
    (form : List (String × String)) : ApiRequest :=
  ⟨.put, "/api2/json/nodes/{node}/lxc/{vmid}/config",
    [("node", node), ("vmid", toString vmid)], [], form⟩

/-- The resources a container update sets. -/
def resourceForm (cores memoryMb swapMb : Option UInt32) : List (String × String) :=
  [("cores", cores), ("memory", memoryMb), ("swap", swapMb)].filterMap fun (key, value) =>
    value.map fun value => (key, toString value)

def updateContainerResources (client : ProxmoxClient) (node : String) (vmid : UInt32)
    (cores memoryMb swapMb : Option UInt32) : ClientM Json := do
  ensure (!(resourceForm cores memoryMb swapMb).isEmpty)
    (malformed "no resource fields given: set at least one of cores, memory or swap")
  client.send (updateContainerResourcesRequest node vmid (resourceForm cores memoryMb swapMb))

def downloadUrlRequest (node storage content filename url : String)
    (checksum : Option (String × String)) : ApiRequest :=
  ⟨.post, "/api2/json/nodes/{node}/storage/{storage}/download-url",
    [("node", node), ("storage", storage)], [],
    [("content", content), ("filename", filename), ("url", url)] ++ match checksum with
      | some (algorithm, value) => [("checksum-algorithm", algorithm), ("checksum", value)]
      | none => []⟩

def downloadUrl (client : ProxmoxClient) (node storage content filename url : String)
    (checksum : Option (String × String)) : ClientM String :=
  runTask client (downloadUrlRequest node storage content filename url checksum)

/-- The stop of a task: its handle is one encoded segment behind the expanded prefix. -/
def stopTaskRequest (expanded upid : String) : ApiRequest :=
  ⟨.delete, expanded ++ "/" ++ percentEncode upid, [], [], []⟩

def stopTask (client : ProxmoxClient) (node upid : String) : ClientM Json := do
  ensure (!upid.isEmpty) (malformed "upid is empty")
  ensure (startsWith upid "UPID:")
    (malformed s!"'{upid}' is not a task handle: a UPID begins with 'UPID:'")
  ensure (!contains upid "..") (malformed "upid contains '..', which cannot name a task")
  ensure (!upid.toList.any isControl) (malformed "upid contains a control character")
  let expanded ← liftM ((Externals.expandPath "/api2/json/nodes/{node}/tasks"
    [("node", node)]).mapError malformed)
  client.send (stopTaskRequest expanded upid)

end Guests

end ProxmoxMcp
