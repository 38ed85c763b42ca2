import ProxmoxMcp.Server.Authorization
import ProxmoxMcp.Server.GuestConfig

/-!
# Low-tier tools

The tools that act on a cluster without a change set. Those that name an existing guest go through
`authorizeLowWithInterrupts`: it drops the cached listing if the call **interrupts** its guest and
then authorizes with an override. A creation names a vmid no guest has, so `authorizeCreation` asks
the grant and the pins about the bare number and makes sure that it is free.

Each family of tools has one `Policy`: `lowPolicy` for the calls on a guest, `creationPolicy` for
the creations. A policy says under which evidence the one request of the call is sent.
-/

namespace ProxmoxMcp

open Interaction Program Text

/-- The two arguments of a guest-addressed tool. -/
structure GuestArgs where
  cluster : String
  vmid : UInt32

/-- The intent of a low-tier call whose interruption the caller may state. -/
def lowIntent (tool : String) (interruptsOverride : Option Bool) (overrideApplies : Bool) :
    Intent :=
  let intent := Intent.lowWithOverride tool overrideApplies
  match interruptsOverride with
  | some interrupts => { intent with interrupts }
  | none => intent

@[simp] theorem disrupts_lowIntent {tool : String} {interruptsOverride : Option Bool}
    {overrideApplies : Bool} : (lowIntent tool interruptsOverride overrideApplies).disrupts =
      interruptsOverride.getD (interruptsService tool) := by
  cases interruptsOverride <;> rfl

@[simp] theorem overrideApplies_lowIntent {tool : String} {interruptsOverride : Option Bool}
    {overrideApplies : Bool} :
    (lowIntent tool interruptsOverride overrideApplies).overrideApplies = some overrideApplies := by
  cases interruptsOverride <;> rfl

@[simp] theorem tier_lowIntent {tool : String} {interruptsOverride : Option Bool}
    {overrideApplies : Bool} : (lowIntent tool interruptsOverride overrideApplies).tier = .low := by
  cases interruptsOverride <;> rfl

/-! ### Lifecycle -/

/-- The lifecycle tools. -/
inductive LifecycleTool where
  | startVm
  | stopVm
  | shutdownVm
  | resetVm
  | startContainer
  | stopContainer
  | restartContainer
  deriving DecidableEq

namespace LifecycleTool

/-- The name under which a tool is authorized. -/
def name : LifecycleTool → String
  | startVm => "start_vm"
  | stopVm => "stop_vm"
  | shutdownVm => "shutdown_vm"
  | resetVm => "reset_vm"
  | startContainer => "start_container"
  | stopContainer => "stop_container"
  | restartContainer => "restart_container"

def verb : LifecycleTool → Guests.LifecycleVerb
  | startVm | startContainer => .start
  | stopVm | stopContainer => .stop
  | shutdownVm => .shutdown
  | resetVm => .reset
  | restartContainer => .reboot

def requiredType : LifecycleTool → GuestType
  | startVm | stopVm | shutdownVm | resetVm => .qemu
  | startContainer | stopContainer | restartContainer => .lxc

/-- The tools that interrupt a guest are those that do not start one. -/
theorem interruptsService_name (tool : LifecycleTool) :
    interruptsService tool.name ↔ tool.verb ≠ .start := by
  cases tool <;> decide

end LifecycleTool

variable [Externals]

/-- The member of an answer for a vmid. -/
def vmidMember (vmid : UInt32) : String × Json := ("vmid", .unsigned vmid.toUInt64)

namespace ProxmoxServer

/-! ### Authorization -/

section Authorization

variable (server : ProxmoxServer)

/-- Authorize a low-tier call; the caller may say whether this very call interrupts its guest. -/
def authorizeLowWithInterrupts (caller : Option CallerCtx) (tool : String) (args : GuestArgs)
    (interruptsOverride : Option Bool) : ToolM Authorization := do
  liftM (authorizeCall caller tool args.cluster)
  let client ← liftM (server.clientFor args.cluster)
  let grant ← liftM (resolveGrant caller)
  onlyIf (interruptsOverride.getD (interruptsService tool)) (invalidateCluster args.cluster)
  let verdict ← authorizeWithOverride server client args.cluster args.vmid grant (.ok tool)
    (principalOf caller) (lowIntent tool interruptsOverride)
  return verdict.authorization

/-- Authorize a low-tier call that interrupts its guest if its name says so. -/
def authorizeLow (caller : Option CallerCtx) (tool : String) (args : GuestArgs) :
    ToolM Authorization := server.authorizeLowWithInterrupts caller tool args none

/-- Authorize a call that names a vmid no guest has yet. -/
def authorizeCreation (caller : Option CallerCtx) (tool cluster : String) (vmid : UInt32) :
    ToolM ProxmoxClient := do
  liftM (authorizeCall caller tool cluster)
  let client ← liftM (server.clientFor cluster)
  let grant ← liftM (resolveGrant caller)
  refuseUnless (grant.allowsAction .low)
    "creation requires the 'low' action tier, which this caller does not carry"
  refuseUnless (grant.allowsNewVmid vmid)
    s!"vmid {vmid} is outside this caller's guest scope, so it may not be created"
  refuseUnless (creationAllowed client.cluster vmid)
    s!"vmid {vmid} is a protected pin on cluster {cluster} and must not be created"
  invalidateCluster cluster
  match ← attempt (resolve client cluster vmid) with
  | .ok existing => throw (toolError (s!"vmid {vmid} already exists on cluster {cluster} as " ++
      s!"'{existing.name}' -- creating cannot overwrite it. Destroy it through " ++
      "plan_proxmox_destroy first, or choose a free vmid."))
  | .error (.notFound _) => return client
  | .error error => throw (toolError
      s!"could not establish whether vmid {vmid} is free on cluster {cluster}: {error.toText}")

end Authorization

/-! ### Tools on a guest -/

section Tools

variable (server : ProxmoxServer)

/-- The answer that names a task on a guest. -/
def taskAnswer (upid : String) (vmid : UInt32) (node : String) : Json :=
  .object [("upid", .string upid), vmidMember vmid, ("node", .string node)]

/-- Serve one lifecycle tool. -/
def serveLifecycle (tool : LifecycleTool) (caller : Option CallerCtx) (args : GuestArgs) :
    ToolM Json := do
  let authorization ← server.authorizeLow caller tool.name args
  let guest := authorization.guest
  refuseUnless (guest.type == tool.requiredType)
    (s!"{tool.name} requires {tool.requiredType.pathSegment} guest {args.vmid}, but it is " ++
      guest.type.pathSegment)
  liftM (if interruptsService tool.name then server.gateDirectCommit else .ok ())
  let upid ← viaClient (Guests.lifecycle authorization.client guest.node guest.type guest.vmid
    tool.verb)
  return taskAnswer upid guest.vmid guest.node

/-! ### Additive tools -/

structure SnapshotArgs where
  cluster : String
  vmid : UInt32
  snapname : String
  description : Option String

def createSnapshot (caller : Option CallerCtx) (args : SnapshotArgs) : ToolM Json := do
  let authorization ← server.authorizeLow caller "create_snapshot" ⟨args.cluster, args.vmid⟩
  let guest := authorization.guest
  let client ← liftM (server.clientFor args.cluster)
  let upid ← viaClient (Guests.createSnapshot client guest.node guest.type guest.vmid args.snapname
    args.description)
  return taskAnswer upid guest.vmid guest.node

structure BackupArgs where
  cluster : String
  vmid : UInt32
  storage : String
  mode : String
  compress : Option String

/-- Back a guest up; the mode decides whether that interrupts it. -/
def createBackup (caller : Option CallerCtx) (args : BackupArgs) : ToolM Json := do
  refuseUnless (validBackupModes.contains args.mode)
    s!"mode '{args.mode}' is not one of snapshot, suspend, or stop"
  let authorization ← server.authorizeLowWithInterrupts caller "create_backup"
    ⟨args.cluster, args.vmid⟩ (some (backupInterrupts args.mode))
  let guest := authorization.guest
  let client ← liftM (server.clientFor args.cluster)
  liftM server.gateDirectCommit
  let upid ← viaClient (Guests.createBackup client guest.node guest.vmid args.storage args.mode
    args.compress)
  return taskAnswer upid guest.vmid guest.node

structure CloneArgs where
  cluster : String
  vmid : UInt32
  newid : UInt32
  name : Option String
  full : Bool

/-- Clone a guest; the new vmid is asked of the grant and the pins as a bare number. -/
def cloneVm (caller : Option CallerCtx) (args : CloneArgs) : ToolM Json := do
  let authorization ← server.authorizeLow caller "clone_vm" ⟨args.cluster, args.vmid⟩
  let client ← liftM (server.clientFor args.cluster)
  let grant ← liftM (resolveGrant caller)
  refuseUnless (grant.allowsNewVmid args.newid)
    s!"caller scope does not admit vmid {args.newid} as a clone destination"
  refuseUnless (creationAllowed client.cluster args.newid)
    s!"vmid {args.newid} is a protected pin in cluster {args.cluster}; a clone may not claim it"
  liftM server.gateDirectCommit
  let guest := authorization.guest
  let upid ← viaClient
    (Guests.cloneGuest client guest.node guest.type guest.vmid args.newid args.name args.full)
  return taskAnswer upid args.newid guest.node

structure ResizeArgs where
  cluster : String
  vmid : UInt32
  disk : String
  size : String

def resizeDisk (caller : Option CallerCtx) (args : ResizeArgs) : ToolM Json := do
  refuseUnless (!Guests.resizeShrinks args.size)
    (s!"size '{args.size}' is not an unambiguous grow, so this server will not perform it. Only "
      ++ "the '+N' form adds capacity; an absolute size may be smaller than the current disk, "
      ++ "which destroys data. Shrinking is not supported here, and Proxmox does not support it "
      ++ "either: `qm resize` and `pct resize` reject a reduction. Re-issue this call with a '+N' "
      ++ "size to grow the disk.")
  let authorization ← server.authorizeLow caller "resize_disk" ⟨args.cluster, args.vmid⟩
  let client ← liftM (server.clientFor args.cluster)
  let guest := authorization.guest
  liftM server.gateDirectCommit
  let upid ← viaClient
    (Guests.resizeDisk client guest.node guest.type guest.vmid args.disk args.size)
  return taskAnswer upid guest.vmid guest.node

/-! ### Interrupting tools -/

structure ResourceArgs where
  cluster : String
  vmid : UInt32
  cores : Option UInt32
  memoryMb : Option UInt32
  swapMb : Option UInt32

/-- An optional number in an answer. -/
def optionalNumber (value : Option UInt32) : Json :=
  match value with
  | some value => .unsigned value.toUInt64
  | none => .null

def updateContainerResources (caller : Option CallerCtx) (args : ResourceArgs) : ToolM Json := do
  refuseUnless (args.cores.isSome || args.memoryMb.isSome || args.swapMb.isSome)
    ("give at least one of cores, memory_mb or swap_mb: a call with none would report a change " ++
      "that never happened.")
  let authorization ← server.authorizeLow caller "update_container_resources"
    ⟨args.cluster, args.vmid⟩
  let client ← liftM (server.clientFor args.cluster)
  let guest := authorization.guest
  refuseUnless (guest.type == .lxc)
    (s!"vmid {guest.vmid} is a QEMU guest; this tool changes LXC allocations only. Resize a VM " ++
      "from the Proxmox UI or CLI.")
  liftM server.gateDirectCommit
  let _ ← viaClient (Guests.updateContainerResources client guest.node guest.vmid args.cores
    args.memoryMb args.swapMb)
  return .object [vmidMember guest.vmid, ("node", .string guest.node),
    ("cores", optionalNumber args.cores), ("memory_mb", optionalNumber args.memoryMb),
    ("swap_mb", optionalNumber args.swapMb), ("note", .string
      "cores apply immediately; memory and swap take effect at the next start")]

structure StopTaskArgs where
  cluster : String
  upid : String

/-- What lets a call stop a task: the guest the task works on, or for a task of the node a guest
scope without restriction. -/
def authorizeStopTask (caller : Option CallerCtx) (grant : ProxmoxGrant) (args : StopTaskArgs) :
    ToolM (Option Authorization) :=
  match taskGuest args.upid with
  | some vmid => some <$> server.authorizeLow caller "stop_task" ⟨args.cluster, vmid⟩
  | none => do
    refuseUnless grant.isUnrestrictedGuestScope
      (s!"task '{args.upid}' is node-level rather than guest-addressed, so it requires a caller " ++
        "whose guest scope is '*'. This caller is narrowed to specific guests and cannot be " ++
        "checked against it.")
    return none

def stopTask (caller : Option CallerCtx) (args : StopTaskArgs) : ToolM Json := do
  refuseUnless (!stoppingTaskLeavesPartialState args.upid)
    (s!"task '{args.upid}' rewrites a guest in place, so stopping it half-way would leave " ++
      "something that is neither the old guest nor the new one. Let it finish and repair the " ++
      "result afterwards. Backups, migrations and downloads can be stopped.")
  let node ← required (upidNode args.upid)
    (toolError (s!"'{args.upid}' is not a task handle: a UPID is " ++
      "'UPID:node:...:worker:id:user:'"))
  liftM (authorizeCall caller "stop_task" args.cluster)
  let client ← liftM (server.clientFor args.cluster)
  let grant ← liftM (resolveGrant caller)
  refuseUnless (grant.allowsAction .low) "stop_task requires the 'low' action tier"
  let _ ← server.authorizeStopTask caller grant args
  liftM server.gateDirectCommit
  let _ ← viaClient (Guests.stopTask client node args.upid)
  return .object [("upid", .string args.upid), ("node", .string node), ("note", .string
    "a stop was requested; read the task status to learn whether it stopped")]

/-! ### Creations and downloads -/

structure CreateGuestArgs where
  cluster : String
  node : String
  vmid : UInt32
  config : ConfigMap

/-- The entries of a config, with a default for one key. -/
def entriesWithDefault (config : ConfigMap) (key value : String) : List (String × String) :=
  if (config.get key).isSome then config.entries
  else config.entries.takeWhile (·.1 < key) ++
    (key, value) :: config.entries.dropWhile (·.1 < key)

/-- The form a creation sends: a container is unprivileged unless the caller says so itself. -/
def createConfig (kind : GuestType) (config : ConfigMap) : List (String × String) :=
  match kind with
  | .lxc => entriesWithDefault config "unprivileged" "1"
  | .qemu => config.entries

/-- The creation tool of a guest type. -/
def creationTool : GuestType → String
  | .qemu => "create_vm"
  | .lxc => "create_container"

def createGuest (kind : GuestType) (caller : Option CallerCtx) (args : CreateGuestArgs) :
    ToolM Json := do
  if let some refusal := rejectUnsafeConfig args.config then
    throw (toolError refusal)
  else
    let client ← server.authorizeCreation caller (creationTool kind) args.cluster args.vmid
    liftM server.gateDirectCommit
    let upid ← viaClient (Guests.createGuest client args.node kind args.vmid
      (createConfig kind args.config))
    return .object [("upid", .string upid), vmidMember args.vmid, ("node", .string args.node),
      ("kind", .string kind.pathSegment)]

structure DownloadIsoArgs where
  cluster : String
  node : String
  storage : String
  content : String
  filename : String
  url : String
  checksum : Option String
  checksumAlgorithm : Option String

/-- The checksum of a download travels with its algorithm or not at all. -/
def checksumOf (args : DownloadIsoArgs) : Except String (Option (String × String)) :=
  match args.checksumAlgorithm, args.checksum with
  | some algorithm, some value => .ok (some (algorithm, value))
  | none, none => .ok none
  | _, _ => .error ("checksum and checksum_algorithm travel together: Proxmox ignores one " ++
      "without the other, so supplying a single half would report a verified download that was " ++
      "never verified. Give both, or neither.")

def downloadIso (caller : Option CallerCtx) (args : DownloadIsoArgs) : ToolM Json := do
  liftM (authorizeCall caller "download_iso" args.cluster)
  let client ← liftM (server.clientFor args.cluster)
  let grant ← liftM (resolveGrant caller)
  refuseUnless (grant.allowsAction .low) "download_iso requires the 'low' action tier"
  refuseUnless grant.isUnrestrictedGuestScope
    ("download_iso writes to storage that is not scoped to any guest, so it requires a caller " ++
      "whose guest scope is '*'. This caller is narrowed to specific guests and cannot be " ++
      "checked against a storage.")
  let checksum ← orRefuse (checksumOf args)
  let upid ← viaClient (Guests.downloadUrl client args.node args.storage args.content args.filename
    args.url checksum)
  return .object [("upid", .string upid), ("node", .string args.node),
    ("storage", .string args.storage), ("filename", .string args.filename),
    ("checksum_verification_requested", .bool checksum.isSome), ("note", .string
      "follow the upid with get_task_status; a checksum mismatch fails the task")]

end Tools

/-! ### What the tools keep to -/

/-- A call that interrupts its guest looks nothing up before it has dropped the cached listing. -/
def lowLookups (interrupts : Bool) : LookupRule :=
  fun h cluster _ => interrupts = true → Dropped cluster h

/-- What a low-tier authorization rests on; protection holds a call back if it interrupts. -/
structure LowAuthorized (server : ProxmoxServer) (interrupts : Bool) (caller : Option CallerCtx)
    (tool : String) (args : GuestArgs) (authorization : Authorization) (h : History Effect) :
    Prop where
  client : server.clientNamed args.cluster = some authorization.client
  grant : resolveGrant caller = .ok authorization.grant
  tier : authorization.intent.tier = .low
  authorized : Authorized (interrupts = true) (interrupts = true) server tool (principalOf caller)
    args.vmid authorization h

/-- The policy of a low-tier call on a guest: the one request it sends is about the guest it was
authorized for, on that guest's cluster. -/
def lowPolicy (server : ProxmoxServer) (interrupts : Bool) (caller : Option CallerCtx)
    (tool : String) (args : GuestArgs) (about : Authorization → ApiRequest → Prop) : Policy where
  lookups := lowLookups interrupts
  sends h client request := client = args.cluster ∧ ∃ authorization,
    server.LowAuthorized interrupts caller tool args authorization h ∧ about authorization request
  records _ _ := False

/-- What lets a call create a guest: the grant and the pins admit the number, and no guest has
it. -/
structure Vacant (server : ProxmoxServer) (caller : Option CallerCtx) (cluster : String)
    (vmid : UInt32) (client : ProxmoxClient) (h : History Effect) : Prop where
  named : server.clientNamed cluster = some client
  inScope : ∃ grant, resolveGrant caller = .ok grant ∧ grant.allowsAction .low ∧
    grant.allowsNewVmid vmid
  unpinned : creationAllowed client.cluster vmid
  observed : Observed True cluster vmid none h

/-- The policy of a creation. -/
def creationPolicy (server : ProxmoxServer) (caller : Option CallerCtx) (cluster : String)
    (vmid : UInt32) (about : ApiRequest → Prop) : Policy where
  lookups h cluster' _ := Dropped cluster' h
  sends h client request := client = cluster ∧
    (∃ client, server.Vacant caller cluster vmid client h) ∧ about request
  records _ _ := False

/-- What lets a call stop a task: the guest the task works on, if it works on one. -/
def stopTaskPolicy (server : ProxmoxServer) (caller : Option CallerCtx) (args : StopTaskArgs) :
    Policy where
  lookups := lowLookups true
  sends h client _ := client = args.cluster ∧ ∀ vmid, taskGuest args.upid = some vmid →
    ∃ authorization, server.LowAuthorized true caller "stop_task" ⟨args.cluster, vmid⟩
      authorization h
  records _ _ := False

/-- The policy of a call that names no guest: it looks nothing up. -/
def blindPolicy (cluster : String) (about : ApiRequest → Prop) : Policy where
  lookups _ _ _ := False
  sends _ client request := client = cluster ∧ about request
  records _ _ := False

section Rules

variable {server : ProxmoxServer} {caller : Option CallerCtx} {h : History Effect}

/-- **Low-tier authorization** looks nothing up too early, and says what it rests on. -/
theorem ensures_authorizeLowWithInterrupts (tool : String) (args : GuestArgs)
    (interruptsOverride : Option Bool) :
    Ensures (Quiet (lowLookups (interruptsOverride.getD (interruptsService tool))))
      (fun after authorization => server.LowAuthorized
        (interruptsOverride.getD (interruptsService tool)) caller tool args authorization after) h
      (server.authorizeLowWithInterrupts caller tool args interruptsOverride) := by
  refine Ensures.liftExcept fun _ _ => Ensures.liftExcept fun client hclient =>
    Ensures.liftExcept fun grant hgrant => ?_
  obtain ⟨cluster, vmid⟩ := args
  obtain rfl : client.name = cluster := name_of_clientFor hclient
  refine Ensures.onlyIf (fun _ => ensures_invalidateCluster _ _) (fun _ _ hop => hop)
    fun h₁ _ hdropped => ?_
  refine Ensures.bind (ensures_authorizeWithOverride _ _ (fun h' hh' hinterrupts =>
    (hdropped hinterrupts).mono hh') hdropped (fun hheld _ => by simpa using hheld) (by simp))
    (fun _ _ hop => hop) fun h₂ verdict _ hverdict => ensures_pure.mpr ?_
  obtain ⟨hclient', hgrant', hintent, -, tool', htool, hauthorized⟩ := hverdict
  obtain rfl := Except.ok.inj htool
  exact ⟨hclient'.symm ▸ clientNamed_of_clientFor hclient, hgrant'.symm ▸ hgrant,
    by simp [hintent], hauthorized⟩

/-- The shape of a low-tier tool: authorize, then act for the guest. -/
private theorem ensures_low {tool : String} {args : GuestArgs} {interruptsOverride : Option Bool}
    {interrupts : Bool} {policy : Policy} {rest : Authorization → ToolM Json}
    (hinterrupts : interruptsOverride.getD (interruptsService tool) = interrupts)
    (hlookups : policy.lookups = lowLookups interrupts) (hreads : ∀ h, policy.reads h)
    (hrest : ∀ after authorization,
      server.LowAuthorized interrupts caller tool args authorization after →
      Ensures policy.Allows (fun _ _ => True) after (rest authorization)) :
    Ensures policy.Allows (fun _ _ => True) h
      (server.authorizeLowWithInterrupts caller tool args interruptsOverride >>= rest) := by
  subst hinterrupts
  refine Ensures.bind (ensures_authorizeLowWithInterrupts tool args interruptsOverride)
    (fun _ _ hop => Policy.allows_of_quiet hop (hreads _) fun _ _ hlookup => hlookups ▸ hlookup)
    fun after authorization _ hauthorized => hrest after authorization hauthorized

/-- The request of a low-tier tool is allowed on the authorization it was made with. -/
private theorem lowPolicy_sends {tool : String} {args : GuestArgs} {interrupts : Bool}
    {about : Authorization → ApiRequest → Prop} {authorization : Authorization}
    {client : ProxmoxClient} {request : ApiRequest}
    (hauthorized : server.LowAuthorized interrupts caller tool args authorization h)
    (hclient : server.clientNamed args.cluster = some client)
    (habout : about authorization request) :
    (server.lowPolicy interrupts caller tool args about).Permits h client.name request :=
  Policy.permits_of_sends ⟨name_of_clientNamed hclient, authorization, hauthorized, habout⟩ trivial

private theorem creationPolicy_sends {cluster : String} {vmid : UInt32} {about : ApiRequest → Prop}
    {client : ProxmoxClient} {request : ApiRequest}
    (hvacant : server.Vacant caller cluster vmid client h) (habout : about request) :
    (server.creationPolicy caller cluster vmid about).Permits h client.name request :=
  Policy.permits_of_sends ⟨name_of_clientNamed hvacant.named, ⟨client, hvacant⟩, habout⟩ trivial

omit [Externals] in
theorem blindPolicy_sends {cluster : String} {about : ApiRequest → Prop} {client : ProxmoxClient}
    {request : ApiRequest} (hclient : client.name = cluster) (habout : about request) :
    (blindPolicy cluster about).Permits h client.name request :=
  Policy.permits_of_sends ⟨hclient, habout⟩ trivial

theorem ensures_serveLifecycle (tool : LifecycleTool) (args : GuestArgs) :
    Ensures (server.lowPolicy (interruptsService tool.name) caller tool.name args
        fun authorization request => request = Guests.lifecycleRequest authorization.guest.node
          authorization.guest.type authorization.guest.vmid tool.verb).Allows
      (fun _ _ => True) h (server.serveLifecycle tool caller args) := by
  refine ensures_low rfl rfl (fun _ => trivial) fun after authorization hauthorized =>
    Ensures.ensure fun _ =>
    Ensures.liftExcept fun _ _ => ?_
  refine Ensures.bind (ensures_runTask (lowPolicy_sends hauthorized hauthorized.client rfl))
    (fun _ _ hop => hop) fun _ _ _ _ => ensures_pure.mpr trivial

theorem ensures_createSnapshot (args : SnapshotArgs) :
    Ensures (server.lowPolicy false caller "create_snapshot" ⟨args.cluster, args.vmid⟩
        fun authorization request => request = Guests.createSnapshotRequest authorization.guest.node
          authorization.guest.type authorization.guest.vmid args.snapname args.description).Allows
      (fun _ _ => True) h (server.createSnapshot caller args) := by
  refine ensures_low (by decide) rfl (fun _ => trivial) fun after authorization hauthorized =>
    Ensures.liftExcept fun client hclient => ?_
  refine Ensures.bind (ensures_runTask (lowPolicy_sends hauthorized
    (clientNamed_of_clientFor hclient) rfl)) (fun _ _ hop => hop)
    fun _ _ _ _ => ensures_pure.mpr trivial

theorem ensures_createBackup (args : BackupArgs) :
    Ensures (server.lowPolicy (backupInterrupts args.mode) caller "create_backup"
        ⟨args.cluster, args.vmid⟩ fun authorization request => request = Guests.createBackupRequest
          authorization.guest.node authorization.guest.vmid args.storage args.mode
          args.compress).Allows
      (fun _ _ => True) h (server.createBackup caller args) := by
  refine Ensures.ensure fun _ => ensures_low Option.getD_some rfl (fun _ => trivial)
    fun after authorization hauthorized =>
    Ensures.liftExcept fun client hclient => Ensures.liftExcept fun _ _ => ?_
  refine Ensures.bind (ensures_runTask (lowPolicy_sends hauthorized
    (clientNamed_of_clientFor hclient) rfl)) (fun _ _ hop => hop)
    fun _ _ _ _ => ensures_pure.mpr trivial

/-- A clone is made only into a number the grant and the pins admit. -/
theorem ensures_cloneVm (args : CloneArgs) :
    Ensures (server.lowPolicy false caller "clone_vm" ⟨args.cluster, args.vmid⟩
        fun authorization request => creationAllowed authorization.client.cluster args.newid ∧
          authorization.grant.allowsNewVmid args.newid ∧
          request = Guests.cloneGuestRequest authorization.guest.node authorization.guest.type
            authorization.guest.vmid args.newid args.name args.full).Allows
      (fun _ _ => True) h (server.cloneVm caller args) := by
  refine ensures_low (by decide) rfl (fun _ => trivial) fun after authorization hauthorized =>
    Ensures.liftExcept fun client hclient => Ensures.liftExcept fun grant hgrant =>
    Ensures.ensure fun hscope => Ensures.ensure fun hpin => Ensures.liftExcept fun _ _ => ?_
  obtain rfl : authorization.client = client :=
    Option.some.inj (hauthorized.client.symm.trans (clientNamed_of_clientFor hclient))
  obtain rfl : authorization.grant = grant := Except.ok.inj (hauthorized.grant.symm.trans hgrant)
  refine Ensures.bind (ensures_runTask (lowPolicy_sends hauthorized hauthorized.client
    ⟨hpin, hscope, rfl⟩)) (fun _ _ hop => hop) fun _ _ _ _ => ensures_pure.mpr trivial

theorem ensures_resizeDisk (args : ResizeArgs) :
    Ensures (server.lowPolicy false caller "resize_disk" ⟨args.cluster, args.vmid⟩
        fun authorization request => request = Guests.resizeDiskRequest authorization.guest.node
          authorization.guest.type authorization.guest.vmid args.disk args.size).Allows
      (fun _ _ => True) h (server.resizeDisk caller args) := by
  refine Ensures.ensure fun _ => ensures_low (by decide) rfl (fun _ => trivial)
    fun after authorization hauthorized =>
    Ensures.liftExcept fun client hclient => Ensures.liftExcept fun _ _ => ?_
  refine Ensures.bind (R := fun _ _ => True) (ensures_mapError.mpr (Ensures.bind (ensures_send
    (lowPolicy_sends hauthorized (clientNamed_of_clientFor hclient) rfl)) (fun _ _ hop => hop)
    fun _ _ _ _ => ensures_pure.mpr trivial)) (fun _ _ hop => hop)
    fun _ _ _ _ => ensures_pure.mpr trivial

theorem ensures_updateContainerResources (args : ResourceArgs) :
    Ensures (server.lowPolicy true caller "update_container_resources" ⟨args.cluster, args.vmid⟩
        fun authorization request => request = Guests.updateContainerResourcesRequest
          authorization.guest.node authorization.guest.vmid
          (Guests.resourceForm args.cores args.memoryMb args.swapMb)).Allows
      (fun _ _ => True) h (server.updateContainerResources caller args) := by
  refine Ensures.ensure fun _ => ensures_low (by decide) rfl (fun _ => trivial)
    fun after authorization hauthorized =>
    Ensures.liftExcept fun client hclient => Ensures.ensure fun _ =>
    Ensures.liftExcept fun _ _ => ?_
  refine Ensures.bind (ensures_mapError.mpr (Ensures.ensure fun _ => ensures_send
    (lowPolicy_sends hauthorized (clientNamed_of_clientFor hclient) rfl))) (fun _ _ hop => hop)
    fun _ _ _ _ => ensures_pure.mpr trivial

/-- Stopping a task: what is authorized is the guest of the task. -/
private theorem ensures_authorizeStopTask (grant : ProxmoxGrant) (args : StopTaskArgs) :
    Ensures (server.stopTaskPolicy caller args).Allows (fun after _ => ∀ vmid,
        taskGuest args.upid = some vmid → ∃ authorization, server.LowAuthorized true caller
          "stop_task" ⟨args.cluster, vmid⟩ authorization after) h
      (server.authorizeStopTask caller grant args) := by
  rw [authorizeStopTask]
  cases hguest : taskGuest args.upid with
  | none => exact Ensures.ensure fun _ => ensures_pure.mpr (by simp)
  | some vmid =>
    refine Ensures.bind (ensures_authorizeLowWithInterrupts "stop_task" ⟨args.cluster, vmid⟩ none)
      (fun _ _ hop => Policy.allows_of_quiet hop trivial fun _ _ hlookup => hlookup)
      fun after authorization _ hauthorized =>
      ensures_pure.mpr ?_
    rintro _ ⟨⟩
    exact ⟨authorization, hauthorized⟩

theorem ensures_stopTask (args : StopTaskArgs) :
    Ensures (server.stopTaskPolicy caller args).Allows (fun _ _ => True) h
      (server.stopTask caller args) := by
  refine Ensures.ensure fun _ => Ensures.required fun node _ => Ensures.liftExcept fun _ _ =>
    Ensures.liftExcept fun client hclient => Ensures.liftExcept fun grant _ =>
    Ensures.ensure fun _ => ?_
  refine Ensures.bind (ensures_authorizeStopTask grant args) (fun _ _ hop => hop)
    fun after _ _ hauthorized => Ensures.liftExcept fun _ _ => ?_
  refine Ensures.bind (R := fun _ _ => True) (ensures_mapError.mpr ?_) (fun _ _ hop => hop)
    fun _ _ _ _ => ensures_pure.mpr trivial
  exact Ensures.ensure fun _ => Ensures.ensure fun _ => Ensures.ensure fun _ => Ensures.ensure
    fun _ =>
    Ensures.liftExcept fun expanded _ => ensures_send <|
      Policy.permits_of_sends ⟨name_of_clientFor hclient, hauthorized⟩ trivial

/-! ### Creations -/

/-- Authorizing a creation ends with the lookup that has found the number absent. -/
theorem ensures_authorizeCreation_answered (tool cluster : String) (vmid : UInt32) :
    Ensures (Quiet fun h cluster _ => Dropped cluster h)
      (fun after client => server.Vacant caller cluster vmid client after ∧
        ∃ origin, Answered cluster vmid (afterDrop cluster h) after origin none) h
      (server.authorizeCreation caller tool cluster vmid) := by
  refine Ensures.liftExcept fun _ _ => Ensures.liftExcept fun client hclient =>
    Ensures.liftExcept fun grant hgrant => Ensures.ensure fun htier => Ensures.ensure fun hscope =>
    Ensures.ensure fun hpin => ?_
  obtain rfl := name_of_clientFor hclient
  refine Ensures.bind (ensures_invalidateCluster_afterDrop client.name h) (fun _ _ hop => hop)
    fun h₁ _ _ hh₁ => ?_
  have hdropped : Dropped client.name h₁ := hh₁ ▸ dropped_afterDrop client.name h
  refine Ensures.attempt (always_resolve client vmid hdropped) (fun _ _ hop => hop)
    fun after outcome _ hresolved => ?_
  cases outcome with
  | ok existing => exact ensures_throw
  | error error =>
    cases error with
    | notFound what =>
      obtain ⟨-, origin, hanswered⟩ := hresolved
      exact ensures_pure.mpr ⟨⟨clientNamed_of_clientFor hclient, ⟨grant, hgrant, htier, hscope⟩,
        hpin, ⟨_, _, origin, hanswered, List.suffix_rfl, fun _ => hdropped⟩⟩, origin,
        hh₁ ▸ hanswered⟩
    | _ => exact ensures_throw

/-- **Authorizing a creation** makes sure on a fresh listing that no guest has the number. -/
theorem ensures_authorizeCreation (tool cluster : String) (vmid : UInt32) :
    Ensures (Quiet fun h cluster _ => Dropped cluster h)
      (fun after client => server.Vacant caller cluster vmid client after) h
      (server.authorizeCreation caller tool cluster vmid) :=
  (ensures_authorizeCreation_answered tool cluster vmid).mono (fun _ _ hop => hop)
    fun _ _ hvacant => hvacant.1

theorem ensures_createGuest (kind : GuestType) (args : CreateGuestArgs) :
    Ensures (server.creationPolicy caller args.cluster args.vmid fun request =>
        rejectUnsafeConfig args.config = none ∧ request = Guests.createGuestRequest args.node kind
          args.vmid (createConfig kind args.config)).Allows
      (fun _ _ => True) h (server.createGuest kind caller args) := by
  rw [createGuest]
  cases hconfig : rejectUnsafeConfig args.config with
  | some refusal => exact ensures_throw
  | none =>
    refine Ensures.bind (ensures_authorizeCreation _ args.cluster args.vmid)
      (fun _ _ hop => Policy.allows_of_quiet hop trivial fun _ _ hlookup => hlookup)
      fun after client _ hvacant =>
      Ensures.liftExcept fun _ _ => ?_
    exact Ensures.bind (ensures_runTask (creationPolicy_sends hvacant ⟨rfl, rfl⟩))
      (fun _ _ hop => hop) fun _ _ _ _ => ensures_pure.mpr trivial

theorem ensures_downloadIso (args : DownloadIsoArgs) :
    Ensures (blindPolicy args.cluster fun request => ∃ checksum,
        checksumOf args = .ok checksum ∧ request = Guests.downloadUrlRequest args.node args.storage
          args.content args.filename args.url checksum).Allows
      (fun _ _ => True) h (server.downloadIso caller args) := by
  refine Ensures.liftExcept fun _ _ => Ensures.liftExcept fun client hclient =>
    Ensures.liftExcept fun grant _ => Ensures.ensure fun _ => Ensures.ensure fun _ =>
    Ensures.liftExcept fun checksum hchecksum => ?_
  exact Ensures.bind (ensures_runTask (blindPolicy_sends (name_of_clientFor hclient)
    ⟨checksum, eq_ok_of_mapError hchecksum, rfl⟩)) (fun _ _ hop => hop) fun _ _ _ _ =>
    ensures_pure.mpr trivial

end Rules

end ProxmoxServer

end ProxmoxMcp
