import ProxmoxMcp.Server.Destroy

/-!
# Restores into a new vmid

Planning and applying a restore into a vmid no guest has. The guest whose disks are copied is the
archive's **owner**, as the storage lists it; a plan records it and an apply looks it up again and
authorizes against it. The target has to be within the caller's scope by number, not pinned, and
free on a fresh listing.

The owner is looked up before the cached listing is dropped, the target after.
-/

namespace ProxmoxMcp

open Interaction Program Text ProxmoxError

variable [Externals]

/-! ### Checks -/

/-- The tool name a restore into a new vmid authorizes against, and the operation of its waivers. -/
def restoreNewVmidTool : String := "restore_backup_new_vmid"

def restoreNewVmidOp : String := "restore_new_vmid"

/-- Refuse a caller without the destructive tier. -/
def requireRestoreTier (grant : ProxmoxGrant) : ToolM Unit :=
  refuseUnless (grant.allowsAction .destructive)
    ("restoring into a new vmid requires the 'destructive' action tier, which this caller does " ++
      "not carry")

/-- Refuse a target outside the caller's scope, and a pin. -/
def requireRestoreTarget (client : ProxmoxClient) (cluster : String) (grant : ProxmoxGrant)
    (vmid : UInt32) : ToolM Unit := do
  refuseUnless (grant.allowsNewVmid vmid)
    s!"vmid {vmid} is outside this caller's guest scope, so a backup may not be restored into it"
  refuseUnless (creationAllowed client.cluster vmid)
    s!"vmid {vmid} is a protected pin on cluster {cluster} and must not receive a restore"

/-- Refuse a target that is not free, on a fresh listing. -/
def requireFree (client : ProxmoxClient) (cluster : String) (vmid : UInt32)
    (taken unknown : String → String) : ToolM Unit := do
  invalidateCluster cluster
  match ← attempt (resolve client cluster vmid) with
  | .ok existing => throw (toolError (taken existing.name))
  | .error (.notFound _) => return ()
  | .error error => throw (toolError (unknown error.toText))

/-- Refuse unless the archive still belongs to the guest the plan recorded. -/
def requireRecordedOwner (client : ProxmoxClient) (action : RestoreNewVmidAction) :
    ToolM Unit := do
  let owner ← mapError (fun error => toolError
      (s!"could not re-establish which guest owns backup archive '{action.volid}': " ++
        s!"{error.toText}. Refusing rather than trusting the previously recorded owner."))
    (Guests.resolveBackupOwner client action.node action.volid)
  refuseUnless (owner == action.ownerVmid)
    (s!"backup archive '{action.volid}' now belongs to guest {owner}, not the " ++
      s!"{action.ownerVmid} it was planned against; the archive's ownership changed since this " ++
      "was planned. Plan the operation again.")

namespace ProxmoxServer

variable (server : ProxmoxServer)

/-- Authorize a restore against the guest its archive belongs to. An owner that is gone is held to
the rule for numbers. -/
def authorizeBackupOwner (client : ProxmoxClient) (cluster : String) (ownerVmid : UInt32)
    (grant : ProxmoxGrant) (volid : String) (principal : Option String) : ToolM Unit := do
  match ← attempt (resolve client cluster ownerVmid) with
  | .ok owner =>
    refuseUnless (grant.allowsGuest owner.facts)
      (s!"backup archive '{volid}' belongs to guest {ownerVmid}, which is outside this caller's " ++
        "guest scope; a restore may not read from it")
    let now ← unixNow
    let protection := protectionOf client.cluster (some owner) false
    let override := server.overrideFor protection cluster ownerVmid now restoreNewVmidOp principal
    refuseUnless (!protection.isProtected || override.applies)
      (s!"backup archive '{volid}' belongs to guest {ownerVmid}, which is protected " ++
        s!"({protection.summary}); restoring from it needs a waiver")
  | .error (.notFound _) =>
    refuseUnless (grant.allowsNewVmid ownerVmid)
      (s!"backup archive '{volid}' belongs to guest {ownerVmid}, which no longer exists and is " ++
        "outside this caller's guest scope; a restore may not read from it")
  | .error error =>
    throw (toolError (s!"could not establish whether guest {ownerVmid} (owner of backup archive " ++
      s!"'{volid}') is in scope: {error.toText}"))

/-! ### Planning and applying -/

/-- Plan restoring an archive into a new vmid. -/
def planRestoreNewVmid (caller : Option CallerCtx) (args : PlanRestoreNewVmidArgs) :
    ToolM Json := do
  liftM (authorizeCall caller "plan_restore_new_vmid" args.cluster)
  liftM (authorizeCall caller restoreNewVmidTool args.cluster)
  let client ← liftM (server.clientFor args.cluster)
  let grant ← liftM (resolveGrant caller)
  requireRestoreTier grant
  orRefuse ((validateVolidKind args.volid "backup").mapError ProxmoxError.toText)
  let ownerVmid ← mapError (fun error => toolError
      (s!"could not establish which guest owns backup archive '{args.volid}': {error.toText}. " ++
        "Refusing rather than trusting the archive's filename."))
    (Guests.resolveBackupOwner client args.node args.volid)
  server.authorizeBackupOwner client args.cluster ownerVmid grant args.volid (principalOf caller)
  let action ← orRefuse (buildRestoreNewVmidAction args ownerVmid)
  requireRestoreTarget client args.cluster grant action.targetVmid
  requireFree client args.cluster action.targetVmid
    (fun name => s!"vmid {action.targetVmid} already exists on cluster {args.cluster} as " ++
      s!"'{name}' -- restoring into it would overwrite an existing guest. Use restore_backup " ++
      "for a same-vmid restore, or choose a free vmid.")
    fun error => s!"could not establish whether vmid {action.targetVmid} is free on cluster " ++
      s!"{args.cluster}: {error}"
  let expected := restoreTargetFingerprint args.cluster action.targetVmid
  let preview := renderRestoreNewVmidPreview action
  let output ← recordPlan s!"{args.cluster}/{action.targetVmid}" action.toJson (callerName caller)
    expected preview
  return changeSetResponse output.changeSetId output.state expected preview output.digest

/-- Apply an approved restore into a new vmid. -/
def applyRestoreNewVmid (caller : Option CallerCtx) (args : ChangeSetArgs) : ToolM Json := do
  liftM (authorizeCall caller "apply_restore_new_vmid" args.cluster)
  let client ← liftM (server.clientFor args.cluster)
  let call : ApplyCall :=
    ⟨server, .restoreNewVmid, caller, args.changeSetId, args.cluster, args.device⟩
  let record ← recordOf args.changeSetId args.device
  requirePreview record
  let action ← liftM (storedAction "RestoreNewVmidAction" RestoreNewVmidAction.fromJson record)
  refuseUnless (action.targetVmid == args.vmid)
    ("the change set's recorded target vmid does not match the vmid given here; it cannot be " ++
      "applied")
  liftM (authorizeCall caller restoreNewVmidTool args.cluster)
  let grant ← liftM (resolveGrant caller)
  requireRestoreTier grant
  requireRestoreTarget client args.cluster grant action.targetVmid
  requireRecordedOwner client action
  server.authorizeBackupOwner client args.cluster action.ownerVmid grant action.volid
    (principalOf caller)
  let kind ← required action.guestType (toolError
    s!"the change set records an unknown guest kind '{action.kind}'; it cannot be applied")
  requireFree client args.cluster action.targetVmid
    (fun name => s!"vmid {action.targetVmid} now exists on cluster {args.cluster} as '{name}' " ++
      "-- it was free when this was planned and is no longer. Plan the operation again against " ++
      "a free vmid.")
    fun error => s!"could not confirm vmid {action.targetVmid} is still free on cluster " ++
      s!"{args.cluster}: {error}"
  requireFingerprint record (restoreTargetFingerprint args.cluster action.targetVmid)
  requireApproved record
  let (claimed, upid) ← call.run record
    (Guests.restoreBackup client action.node kind action.targetVmid action.volid false)
  call.follow client claimed upid [("vmid", .unsigned action.targetVmid.toUInt64),
    ("node", .string action.node)]

end ProxmoxServer

/-! ### What the handlers keep to -/

/-- What lets a call read an archive of a guest: the guest is admitted, on whatever listing the
index has, or it is gone and the grant admits its number. -/
inductive OwnerAllowed (server : ProxmoxServer) (client : ProxmoxClient) (grant : ProxmoxGrant)
    (principal : Option String) (owner : UInt32) (h : History Effect) : Prop
  | admitted {guest : ResolvedGuest}
      (admitted : Admitted False True server client grant restoreNewVmidOp principal owner guest h)
  | gone (observed : Observed False client.name owner none h) (inScope : grant.allowsNewVmid owner)

theorem OwnerAllowed.mono {server : ProxmoxServer} {client : ProxmoxClient} {grant : ProxmoxGrant}
    {principal : Option String} {owner : UInt32} {h h' : History Effect}
    (ho : OwnerAllowed server client grant principal owner h) (hh : h <:+ h') :
    OwnerAllowed server client grant principal owner h' := by
  cases ho with
  | admitted hadmitted => exact .admitted (hadmitted.mono hh)
  | gone hobserved hscope => exact .gone (hobserved.mono hh id) hscope

/-- What lets an apply restore a recorded archive into a new vmid. -/
structure RestoreAuthorized (server : ProxmoxServer) (caller : Option CallerCtx)
    (args : ChangeSetArgs) (record : ChangeSet) (action : RestoreNewVmidAction)
    (client : ProxmoxClient) (grant : ProxmoxGrant) (h : History Effect) : Prop where
  named : server.clientNamed args.cluster = some client
  granted : resolveGrant caller = .ok grant
  carriesTier : grant.allowsAction .destructive
  stored : record.actions.head?.bind RestoreNewVmidAction.fromJson = some action
  target : action.targetVmid = args.vmid
  tool : authorizeCall caller restoreNewVmidTool args.cluster = .ok ()
  inScope : grant.allowsNewVmid action.targetVmid
  unpinned : creationAllowed client.cluster action.targetVmid
  listed : OwnerListed args.cluster action.node action.volid action.ownerVmid h
  owner : OwnerAllowed server client grant (principalOf caller) action.ownerVmid h
  vacant : Observed True args.cluster action.targetVmid none h
  planned : restoreTargetFingerprint args.cluster action.targetVmid =
    record.expectedCandidateFingerprint

theorem RestoreAuthorized.mono {server : ProxmoxServer} {caller : Option CallerCtx}
    {args : ChangeSetArgs} {record : ChangeSet} {action : RestoreNewVmidAction}
    {client : ProxmoxClient} {grant : ProxmoxGrant} {h h' : History Effect}
    (ha : RestoreAuthorized server caller args record action client grant h) (hh : h <:+ h') :
    RestoreAuthorized server caller args record action client grant h' :=
  { ha with
    listed := ha.listed.mono hh
    owner := ha.owner.mono hh
    vacant := ha.vacant.mono hh id }

section Rules

variable {server : ProxmoxServer} {client : ProxmoxClient} {grant : ProxmoxGrant}
  {h : History Effect}

theorem ensures_resolveBackupOwner {node volid : String} :
    Ensures (fun _ (op : Op) => op.Reads)
      (fun h' owner => OwnerListed client.name node volid owner h') h
      (Guests.resolveBackupOwner client node volid) := by
  refine always_resolveBackupOwner.mono (fun _ _ hop => hop) fun h' outcome houtcome owner heq => ?_
  subst heq
  rcases houtcome with ⟨-, error, hne⟩ | ⟨storage, path, hsplit, hsent⟩
  · cases hne
  · obtain ⟨response, data, hreplied, hanswer, hread⟩ := hsent.replied
    exact ⟨storage, path, response, data, hsplit, hreplied, hanswer, hread⟩

/-- **The owner's guest** is looked up once, and admitted or gone. -/
theorem ensures_authorizeBackupOwner {owner : UInt32} {volid : String}
    {principal : Option String} :
    Ensures (Quiet fun _ _ _ => True)
      (fun h' _ => OwnerAllowed server client grant principal owner h') h
      (server.authorizeBackupOwner client client.name owner grant volid principal) := by
  refine Ensures.attempt (always_resolve client owner trivial) (fun _ _ hop => hop)
    fun h₁ outcome _ hresolved => ?_
  cases outcome with
  | ok guest =>
    obtain ⟨origin, hanswered⟩ := hresolved
    refine Ensures.ensure fun hscope => Ensures.request trivial fun now =>
      ensures_ensure.mpr fun hallowed => .admitted ⟨⟨_, _, origin, hanswered,
        List.suffix_cons _ _, False.elim⟩, hscope, fun _ hprotected => ?_⟩
    simp only [hprotected, Bool.not_true, Bool.false_or] at hallowed
    exact overridden_of_overrideFor hallowed List.mem_cons_self
  | error error =>
    cases error with
    | notFound what =>
      obtain ⟨-, origin, hanswered⟩ := hresolved
      exact ensures_ensure.mpr fun hscope =>
        .gone ⟨_, _, origin, hanswered, List.suffix_rfl, False.elim⟩ hscope
    | _ => exact ensures_throw

/-- The check for a free target ends with the lookup that has found it absent. -/
theorem ensures_requireFree_answered {vmid : UInt32} {taken unknown : String → String} :
    Ensures (Quiet fun _ _ _ => True)
      (fun h' _ => ∃ origin, Answered client.name vmid (afterDrop client.name h) h' origin none) h
      (requireFree client client.name vmid taken unknown) := by
  refine Ensures.bind (ensures_invalidateCluster_afterDrop client.name h) (fun _ _ hop => hop)
    fun h₁ _ _ hh₁ => ?_
  refine Ensures.attempt (always_resolve client vmid trivial) (fun _ _ hop => hop)
    fun h₂ outcome _ hresolved => ?_
  cases outcome with
  | ok existing => exact ensures_throw
  | error error =>
    cases error with
    | notFound what =>
      obtain ⟨-, origin, hanswered⟩ := hresolved
      exact ensures_pure.mpr ⟨origin, hh₁ ▸ hanswered⟩
    | _ => exact ensures_throw

/-- **A free target** is established on a fresh listing. -/
theorem ensures_requireFree {vmid : UInt32} {taken unknown : String → String} :
    Ensures (Quiet fun _ _ _ => True) (fun h' _ => Observed True client.name vmid none h') h
      (requireFree client client.name vmid taken unknown) := by
  refine ensures_requireFree_answered.mono (fun _ _ hop => hop) fun h' _ hanswered => ?_
  obtain ⟨origin, hanswered⟩ := hanswered
  exact ⟨_, _, origin, hanswered, List.suffix_rfl, fun _ => dropped_afterDrop client.name h⟩

theorem ensures_requireRestoreTarget {G : History Effect → Op → Prop} {cluster : String}
    {vmid : UInt32} : Ensures G (fun h' _ => h = h' ∧ grant.allowsNewVmid vmid ∧
        creationAllowed client.cluster vmid) h
      (requireRestoreTarget client cluster grant vmid) :=
  Ensures.ensure fun hscope => ensures_ensure.mpr fun hpin => ⟨rfl, hscope, hpin⟩

theorem ensures_requireRecordedOwner {action : RestoreNewVmidAction} :
    Ensures (fun _ (op : Op) => op.Reads)
      (fun h' _ => OwnerListed client.name action.node action.volid action.ownerVmid h') h
      (requireRecordedOwner client action) :=
  Ensures.bind (ensures_mapError.mpr ensures_resolveBackupOwner) (fun _ _ hop => hop)
    fun _ _ _ hlisted => ensures_ensure.mpr fun heq => beq_iff_eq.mp heq ▸ hlisted

end Rules

namespace ProxmoxServer

/-- What an apply of a restore into a new vmid is about. -/
def restoreCall (server : ProxmoxServer) (caller : Option CallerCtx) (args : ChangeSetArgs) :
    ApplyCall := ⟨server, .restoreNewVmid, caller, args.changeSetId, args.cluster, args.device⟩

/-- The policy of an apply of a restore into a new vmid. -/
def restorePolicy (server : ProxmoxServer) (caller : Option CallerCtx) (args : ChangeSetArgs) :
    Policy :=
  (server.restoreCall caller args).policy (fun _ _ _ => True) (fun _ => False)
    fun record h request => ∃ action client grant kind,
      RestoreAuthorized server caller args record action client grant h ∧
      action.guestType = some kind ∧ request = Guests.restoreBackupRequest action.node kind
        action.targetVmid action.volid false

variable {server : ProxmoxServer} {caller : Option CallerCtx} {h : History Effect}

/-- **Planning a restore** reads the cluster and records the plan. -/
theorem ensures_planRestoreNewVmid (args : PlanRestoreNewVmidArgs) :
    Ensures (PlanCall.policy ⟨.restoreNewVmid, caller⟩ server).Allows (fun _ _ => True) h
      (server.planRestoreNewVmid caller args) := by
  refine Ensures.liftExcept fun _ _ => Ensures.liftExcept fun _ _ =>
    Ensures.liftExcept fun client hclient => Ensures.liftExcept fun grant _ =>
    Ensures.ensure fun _ => Ensures.liftExcept fun _ _ => ?_
  rw [← name_of_clientFor hclient]
  refine Ensures.bind (ensures_mapError.mpr ensures_resolveBackupOwner)
    (fun _ _ hop => PlanCall.allows_of_reads hop) fun h₁ owner _ _ => ?_
  refine Ensures.bind ensures_authorizeBackupOwner (fun _ _ hop => PlanCall.allows_of_quiet hop)
    fun h₂ _ _ _ => Ensures.liftExcept fun action _ => ?_
  refine Ensures.bind ensures_requireRestoreTarget (fun _ _ hop => hop) fun h₃ _ _ _ => ?_
  refine Ensures.bind ensures_requireFree (fun _ _ hop => PlanCall.allows_of_quiet hop)
    fun h₄ _ _ _ => ?_
  exact Ensures.bind (PlanCall.ensures_recordPlan rfl (.restoreNewVmid action))
    (fun _ _ hop => hop) fun _ _ _ _ => ensures_pure.mpr trivial

/-- **Applying a restore** sends the restore of its approved action, for the owner the call has just
read. -/
theorem ensures_applyRestoreNewVmid (args : ChangeSetArgs) (hunsent : Unsent h) :
    Ensures (server.restorePolicy caller args).Allows (fun _ _ => True) h
      (server.applyRestoreNewVmid caller args) := by
  obtain ⟨id, cluster, vmid⟩ := args
  have hreads (h' : History Effect) (hunsent : Unsent h') :
      (server.restorePolicy caller ⟨id, cluster, vmid⟩).reads h' := .inl hunsent
  refine Ensures.liftExcept fun _ _ => Ensures.liftExcept fun client hclient => ?_
  obtain rfl : client.name = cluster := name_of_clientFor hclient
  have hrecord : (server.restorePolicy caller ⟨id, client.name, vmid⟩).records h
      (.changeSet id (ChangeSetArgs.mk id client.name vmid).device) := ⟨rfl, rfl⟩
  -- the checks, in the order of the source
  refine Ensures.bind (ensures_recordOf hrecord) (fun _ _ hop => hop) fun h₁ record _ hh₁ =>
    Ensures.ensure fun hpreview => Ensures.liftExcept fun action haction =>
    Ensures.ensure fun htarget => Ensures.liftExcept fun _ htool =>
    Ensures.liftExcept fun grant hgrant => Ensures.ensure fun hcarries => ?_
  have hunsent₁ : Unsent h₁ := hh₁ ▸ hunsent.cons not_false
  refine Ensures.bind ensures_requireRestoreTarget (fun _ _ hop => hop) fun _ _ _ hscope => ?_
  obtain ⟨rfl, hscope, hpin⟩ := hscope
  refine Ensures.bind (ensures_reads ensures_requireRecordedOwner hunsent₁ hreads)
    (fun _ _ hop => hop) fun h₂ _ hh₂ hlisted => ?_
  refine Ensures.bind (ensures_quiet ensures_authorizeBackupOwner (hlisted.2.unsent hunsent₁) hreads
    fun _ _ _ _ => trivial) (fun _ _ hop => hop) fun h₃ _ hh₃ howner =>
    Ensures.required fun kind hkind => ?_
  refine Ensures.bind (ensures_quiet ensures_requireFree howner.2 hreads fun _ _ _ _ => trivial)
    (fun _ _ hop => hop) fun h₄ _ hh₄ hvacant => Ensures.ensure fun hfingerprint =>
    Ensures.ensure fun happroved => ?_
  obtain ⟨hvacant, hunsent₄⟩ := hvacant
  -- what they have shown stands when the record is claimed
  have hreviewed : (server.restoreCall caller ⟨id, client.name, vmid⟩).Reviewed record h₄ :=
    ⟨(hh₂.trans (hh₃.trans hh₄)).subset (hh₁ ▸ List.mem_cons_self), hpreview,
      beq_iff_eq.mp happroved⟩
  have hauthorized : RestoreAuthorized server caller ⟨id, client.name, vmid⟩ record action client
      grant h₄ := {
    named := clientNamed_of_clientFor hclient
    granted := hgrant
    carriesTier := hcarries
    stored := storedAction_eq_ok.mp haction
    target := beq_iff_eq.mp htarget
    tool := htool
    inScope := hscope
    unpinned := hpin
    listed := hlisted.1.mono (hh₃.trans hh₄)
    owner := howner.1.mono hh₄
    vacant := hvacant
    planned := beq_iff_eq.mp hfingerprint }
  refine ApplyCall.ensures_run_follow rfl hreviewed hunsent₄ (fun hfalse _ => hfalse)
    fun h' claimed hh' hready => always_runTask (by simp [ApiRequest.Mutating,
      Guests.restoreBackupRequest]) ?_
  exact Policy.permits_of_sends ⟨rfl, record, claimed, hready, action, client, grant, kind,
    hauthorized.mono hh'.suffix, hkind, rfl⟩ (hreads h' hready.unsent)

end ProxmoxServer

end ProxmoxMcp
