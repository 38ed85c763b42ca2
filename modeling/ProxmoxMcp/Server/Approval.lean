import ProxmoxMcp.Server.HaRule
import ProxmoxMcp.Server.RestoreNewVmid

/-!
# Reviewing change sets

The get and approve handlers. Destructive change sets and restores into a new vmid share theirs,
which tell the two apart by the shape of the action; HA rule change sets have their own.

`DestroyAuthority`, `RestoreAuthority` and `HaRuleAuthority` are what the apply handlers demand of
their caller. `approveChangeSet` demands the same of the approver, with waivers looked up for the
**planner**, but for one thing: the apply of a destructive change set drops the cached listing
before it looks at the guest, and the approval takes what the index holds. `approveHaRuleChange`
demands nothing but its own tool, so an HA rule change can be reviewed and approved without any
authority over it.
-/

namespace ProxmoxMcp

open Interaction Program Text ProxmoxError

variable [Externals]

/-! ### Approving a record -/

/-- The preview of a record that is to be approved. -/
def requireReviewable (record : ChangeSet) : ToolM PreviewRecord :=
  required record.preview (toolError
    ("approval refused: this change set has no stored preview, so there is nothing to review. " ++
      "Plan the operation again."))

/-- Why the coordinator refused an approval. -/
def approvalRefusal (error : String) : ToolResult :=
  toolError (if contains error "owner cannot approve their own"
    then "self-approval refused: the planner cannot approve their own change set"
    else s!"approve: {error}")

/-- Record an approval of a record as it was read, and return the preview. -/
def approveRecord (caller : Option CallerCtx) (id device : String) (record : ChangeSet)
    (preview : PreviewRecord) : ToolM Json := do
  let output ← liftM ((← approveChangeSetWith id device (callerName caller) record.digest
    (actorType caller)).mapError approvalRefusal)
  return changeSetResponse output.changeSetId output.state record.expectedCandidateFingerprint
    preview.artifact output.digest

/-- Whether a caller's token may use a tool on a cluster, with the full text if it may not. -/
def authorizeOperation (caller : Option CallerCtx) (tool cluster : String) :
    Except ToolResult Unit :=
  (Externals.authorizeCall caller tool (some cluster) writeTools).mapError fun error =>
    toolError (Externals.authorizationText error)

/-- Approve an HA rule change set. -/
def approveHaRuleChange (caller : Option CallerCtx) (args : HaChangeSetArgs) : ToolM Json := do
  liftM (authorizeCall caller "approve_ha_rule_change" args.cluster)
  let device := haRuleDevice args.cluster args.rule
  let record ← recordOf args.changeSetId device
  let preview ← requireReviewable record
  approveRecord caller args.changeSetId device record preview

namespace ProxmoxServer

variable (server : ProxmoxServer)

/-- Authorize an approver against the guest of a destructive action. A waiver binds to the
planner. -/
def authorizeDestroyApproval (client : ProxmoxClient) (caller : Option CallerCtx)
    (args : ChangeSetArgs) (grant : ProxmoxGrant) (record : ChangeSet) (action : DestroyAction) :
    ToolM Unit := do
  let verdict ← authorizeWithOverride server client args.cluster args.vmid grant (.ok action.op)
    (some record.owner) .destructive
  let tool ← required (toolForOp action.op verdict.authorization.guest.type)
    (toolError s!"the change set names an unknown operation '{action.op}'")
  liftM (authorizeOperation caller tool args.cluster)
  orRefuse (requireUnrestrictedScopeForDeleteIso action.op grant)

/-- Authorize an approver against the target and the owner of a restore into a new vmid. -/
def authorizeRestoreApproval (client : ProxmoxClient) (caller : Option CallerCtx)
    (args : ChangeSetArgs) (grant : ProxmoxGrant) (record : ChangeSet)
    (action : RestoreNewVmidAction) : ToolM Unit := do
  liftM (authorizeOperation caller restoreNewVmidTool args.cluster)
  requireRestoreTier grant
  requireRestoreTarget client args.cluster grant action.targetVmid
  server.authorizeBackupOwner client args.cluster action.ownerVmid grant action.volid
    (some record.owner)

/-- Authorize an approver against what a record would do. -/
def authorizeApproval (client : ProxmoxClient) (caller : Option CallerCtx) (args : ChangeSetArgs)
    (grant : ProxmoxGrant) (record : ChangeSet) : ToolM Unit := do
  let raw ← required record.actions.head? (toolError "the change set records no action")
  match DestroyAction.fromJson raw, RestoreNewVmidAction.fromJson raw with
  | some action, _ => server.authorizeDestroyApproval client caller args grant record action
  | none, some action => server.authorizeRestoreApproval client caller args grant record action
  | none, none =>
    let error := Externals.deserializeError "RestoreNewVmidAction" raw
    throw (toolError
      s!"the change set's action could not be read ({error}); it cannot be approved")

/-- Approve a destructive change set or a restore into a new vmid. -/
def approveChangeSet (caller : Option CallerCtx) (args : ChangeSetArgs) : ToolM Json := do
  liftM (authorizeCall caller "approve_proxmox_change_set" args.cluster)
  let client ← liftM (server.clientFor args.cluster)
  let grant ← liftM (resolveGrant caller)
  let record ← recordOf args.changeSetId args.device
  let preview ← requireReviewable record
  server.authorizeApproval client caller args grant record
  approveRecord caller args.changeSetId args.device record preview

/-! ### Reading a record -/

/-- Authorize a reader against the guest a record is about, if it records an action. -/
def authorizeReading (client : ProxmoxClient) (args : ChangeSetArgs) (grant : ProxmoxGrant)
    (record : ChangeSet) : ToolM Unit :=
  match record.actions.head? with
  | none => return ()
  | some raw => match DestroyAction.fromJson raw, RestoreNewVmidAction.fromJson raw with
    | some _, _ => do
      let _ ← viaClient (authorize client args.cluster args.vmid grant .read)
    | none, some action => do
      refuseUnless (grant.allowsNewVmid action.targetVmid)
        s!"vmid {action.targetVmid} is outside this caller's guest scope"
      server.authorizeBackupOwner client args.cluster action.ownerVmid grant action.volid
        (some record.owner)
    | none, none =>
      let error := Externals.deserializeError "RestoreNewVmidAction" raw
      throw (toolError
        s!"the change set's action could not be read ({error}); it cannot be read back")

/-- Read a destructive change set or a restore into a new vmid. -/
def getChangeSet (caller : Option CallerCtx) (args : ChangeSetArgs) : ToolM Json := do
  liftM (authorizeCall caller "get_proxmox_change_set" args.cluster)
  let client ← liftM (server.clientFor args.cluster)
  let grant ← liftM (resolveGrant caller)
  let record ← recordOf args.changeSetId args.device
  server.authorizeReading client args grant record
  return getResponse record

end ProxmoxServer

/-- Read an HA rule change set. -/
def getHaRuleChangeSet (caller : Option CallerCtx) (args : HaChangeSetArgs) : ToolM Json := do
  liftM (authorizeCall caller "get_ha_rule_change_set" args.cluster)
  let grant ← liftM (resolveGrant caller)
  refuseUnless grant.isUnrestrictedGuestScope
    ("get_ha_rule_change_set is not scoped to any single guest -- its preview names the rule's " ++
      "guests -- so it requires a caller whose guest scope is '*'. This caller is narrowed to " ++
      "specific guests and cannot be checked against it.")
  return getResponse (← recordOf args.changeSetId (haRuleDevice args.cluster args.rule))

/-! ### The authority an apply demands -/

/-- A **current** listing has shown the call a guest: one that the call has asked for itself, or one
that was asked for since the call dropped what the index held. -/
def CurrentlyListed (cluster : String) (vmid : UInt32) (guest : ResolvedGuest)
    (h : History Effect) : Prop :=
  ∃ before after origin, Answered cluster vmid before after origin (some guest) ∧ after <:+ h ∧
    (Dropped cluster before ∨ ⟨.http (.dispatch cluster listingRequest), origin.began⟩ ∈ after)

/-- Every lookup of the call was answered from a listing it has asked for itself: the index held no
other of the cluster. -/
def FetchedItself (cluster : String) (h : History Effect) : Prop :=
  ∀ vmid before after origin found, Answered cluster vmid before after origin found → after <:+ h →
    ⟨.http (.dispatch cluster listingRequest), origin.began⟩ ∈ after

/-- What the apply of a destructive change set demands: the guest is within the grant and
unprotected or covered, the token may use the operation's tool, and all that by a `current` listing.
Waivers are looked up for `principal`. -/
structure DestroyAuthority (current : Prop) (server : ProxmoxServer) (caller : Option CallerCtx)
    (principal : Option String) (args : ChangeSetArgs) (action : DestroyAction)
    (h : History Effect) : Prop where
  guest : ∃ client grant guest, server.clientNamed args.cluster = some client ∧
    resolveGrant caller = .ok grant ∧ grant.allowsAction .destructive ∧
    Admitted False True server client grant action.op principal args.vmid guest h ∧
    (current → CurrentlyListed args.cluster args.vmid guest h) ∧
    (∃ tool, toolForOp action.op guest.type = some tool ∧
      (Externals.authorizeCall caller tool (some args.cluster) writeTools).isOk) ∧
    requireUnrestrictedScopeForDeleteIso action.op grant = .ok ()

/-- What the apply of a restore into a new vmid demands. -/
structure RestoreAuthority (server : ProxmoxServer) (caller : Option CallerCtx)
    (principal : Option String) (args : ChangeSetArgs) (action : RestoreNewVmidAction)
    (h : History Effect) : Prop where
  tool : (Externals.authorizeCall caller restoreNewVmidTool (some args.cluster) writeTools).isOk
  owner : ∃ client grant, server.clientNamed args.cluster = some client ∧
    resolveGrant caller = .ok grant ∧ grant.allowsAction .destructive ∧
    grant.allowsNewVmid action.targetVmid ∧ creationAllowed client.cluster action.targetVmid ∧
    OwnerAllowed server client grant principal action.ownerVmid h

/-- What the apply of an HA rule change set demands. -/
structure HaRuleAuthority (server : ProxmoxServer) (caller : Option CallerCtx)
    (principal : Option String) (args : HaChangeSetArgs) (action : HaRuleAction)
    (h : History Effect) : Prop where
  tool : ∃ tool, toolForHaOp action.op = some tool ∧
    (Externals.authorizeCall caller tool (some args.cluster) writeTools).isOk
  members : ∃ client grant existing vmids, server.clientNamed args.cluster = some client ∧
    resolveGrant caller = .ok grant ∧ grant.allowsAction .destructive ∧
    requireUnrestrictedScopeForExistingRule action.op grant = .ok () ∧
    RuleRead args.cluster args.rule existing h ∧
    guestsTouched action existing = .ok vmids ∧ ∀ vmid ∈ vmids,
      MemberAllowed server client grant (haWaiverOp action.op) principal vmid h

theorem CurrentlyListed.mono {cluster : String} {vmid : UInt32} {guest : ResolvedGuest}
    {h h' : History Effect} (hl : CurrentlyListed cluster vmid guest h) (hh : h <:+ h') :
    CurrentlyListed cluster vmid guest h' := by
  obtain ⟨before, after, origin, hanswered, hafter, hasked⟩ := hl
  exact ⟨before, after, origin, hanswered, hafter.trans hh, hasked⟩

theorem FetchedItself.of_suffix {cluster : String} {h h' : History Effect}
    (hf : FetchedItself cluster h') (hh : h <:+ h') : FetchedItself cluster h :=
  fun vmid before after origin found hanswered hafter =>
    hf vmid before after origin found hanswered (hafter.trans hh)

/-- A guest that was looked up is currently listed when the call has fetched the listing itself. -/
theorem Observed.currentlyListed {fresh : Prop} {cluster : String} {vmid : UInt32}
    {guest : ResolvedGuest} {h : History Effect} (ho : Observed fresh cluster vmid (some guest) h)
    (hcurrent : fresh ∨ FetchedItself cluster h) : CurrentlyListed cluster vmid guest h := by
  obtain ⟨before, after, origin, hanswered, hafter, hdropped⟩ := ho
  exact ⟨before, after, origin, hanswered, hafter,
    hcurrent.imp hdropped fun hfetched => hfetched _ _ _ _ _ hanswered hafter⟩

theorem DestroyAuthority.mono {current current' : Prop} {server : ProxmoxServer}
    {caller : Option CallerCtx} {principal : Option String} {args : ChangeSetArgs}
    {action : DestroyAction} {h h' : History Effect}
    (ha : DestroyAuthority current server caller principal args action h) (hh : h <:+ h')
    (hcurrent : current' → current) :
    DestroyAuthority current' server caller principal args action h' := by
  obtain ⟨client, grant, guest, hclient, hgrant, hcarries, hadmitted, hlisted, hrest⟩ := ha
  exact ⟨client, grant, guest, hclient, hgrant, hcarries, hadmitted.mono hh,
    fun hc => (hlisted (hcurrent hc)).mono hh, hrest⟩

theorem RestoreAuthority.mono {server : ProxmoxServer} {caller : Option CallerCtx}
    {principal : Option String} {args : ChangeSetArgs} {action : RestoreNewVmidAction}
    {h h' : History Effect} (ha : RestoreAuthority server caller principal args action h)
    (hh : h <:+ h') : RestoreAuthority server caller principal args action h' := by
  obtain ⟨htool, client, grant, hclient, hgrant, hcarries, htarget, hpin, howner⟩ := ha
  exact ⟨htool, client, grant, hclient, hgrant, hcarries, htarget, hpin, howner.mono hh⟩

section Demands

variable {server : ProxmoxServer} {caller : Option CallerCtx} {record : ChangeSet}
  {h : History Effect}

private theorem isOk_of_authorizeCall {tool cluster : String}
    (hok : authorizeCall caller tool cluster = .ok ()) :
    (Externals.authorizeCall caller tool (some cluster) writeTools).isOk := by
  rw [eq_ok_of_mapError hok]
  rfl

/-- The operation a record names is that of its action. -/
theorem op_of_recordedOp {action : DestroyAction} {op : String}
    (haction : record.actions.head?.bind DestroyAction.fromJson = some action)
    (hop : recordedOp record = .ok op) : op = action.op := by
  obtain ⟨raw, hraw, hread⟩ := Option.bind_eq_some_iff.mp haction
  simp only [recordedOp, hraw, Option.bind_some] at hop
  split at hop
  · next hget =>
    obtain rfl := Except.ok.inj hop
    exact DestroyAction.op_of_fromJson hread hget
  · cases hop

/-- **The apply handlers demand the authority** of their own caller. -/
theorem DestroyAuthorized.authority {args : ChangeSetArgs} {action : DestroyAction}
    {authorization : Authorization}
    (ha : server.DestroyAuthorized caller args record action authorization h) :
    DestroyAuthority True server caller (principalOf caller) args action h := by
  obtain ⟨op, hop, hauthorized⟩ := ha.authorized
  obtain ⟨tool, htool, hscope⟩ := ha.tool
  obtain rfl := op_of_recordedOp ha.stored hop
  have hadmitted := hauthorized.admitted
  have hcarries := hauthorized.carriesTier
  rw [ha.intent] at hcarries
  exact ⟨authorization.client, authorization.grant, authorization.guest, ha.client, ha.grant,
    hcarries,
    ⟨hadmitted.observed.mono List.suffix_rfl False.elim, hadmitted.inScope, hadmitted.overridden⟩,
    fun _ => ProxmoxServer.name_of_clientNamed ha.client ▸
      hadmitted.observed.currentlyListed (.inl trivial),
      ⟨tool, htool, isOk_of_authorizeCall hscope⟩, ha.iso⟩

theorem RestoreAuthorized.authority {args : ChangeSetArgs} {action : RestoreNewVmidAction}
    {client : ProxmoxClient} {grant : ProxmoxGrant}
    (ha : RestoreAuthorized server caller args record action client grant h) :
    RestoreAuthority server caller (principalOf caller) args action h :=
  ⟨isOk_of_authorizeCall ha.tool, client, grant, ha.named, ha.granted, ha.carriesTier, ha.inScope,
    ha.unpinned, ha.owner⟩

theorem HaRuleAuthorized.authority {args : HaChangeSetArgs} {action : HaRuleAction}
    {existing : Option Json} {client : ProxmoxClient} {grant : ProxmoxGrant}
    (ha : HaRuleAuthorized server caller args record action existing client grant h) :
    HaRuleAuthority server caller (principalOf caller) args action h := by
  obtain ⟨tool, htool, hscope⟩ := ha.tool
  obtain ⟨vmids, hvmids, hmembers⟩ := ha.members
  exact ⟨⟨tool, htool, isOk_of_authorizeCall hscope⟩, client, grant, existing, vmids, ha.named,
    ha.granted, ha.carriesTier, ha.scope, ha.planned.1, hvmids, hmembers⟩

end Demands

/-! ### What the handlers keep to -/

/-- The call has read this record. -/
def RecordRead (id device : String) (record : ChangeSet) (h : History Effect) : Prop :=
  ⟨.coordinator (.changeSet id device), .ok record⟩ ∈ h

/-- The policy of an approval: it records one over a record it has read, with a preview, and over
which the approver has the authority. -/
def approvePolicy (caller : Option CallerCtx) (id device : String)
    (authority : ChangeSet → History Effect → Prop) : Policy where
  lookups _ _ _ := True
  sends _ _ _ := False
  records h
    | .changeSet id' device' => id' = id ∧ device' = device
    | .approveChangeSet id' device' approver digest actor => id' = id ∧ device' = device ∧
      approver = callerName caller ∧ actor = actorType caller ∧ ∃ record,
        RecordRead id device record h ∧ record.preview.isSome ∧ digest = record.digest ∧
        authority record h
    | _ => False

/-- An answer shows the stored preview of a record. -/
def Shows (record : ChangeSet) (answer : Json) : Prop :=
  ∃ preview output, record.preview = some preview ∧ answer = changeSetResponse
    (ChangeSetOutput.changeSetId output) output.state record.expectedCandidateFingerprint
    preview.artifact output.digest

/-- The policy of a reading. -/
def getPolicy (id device : String) : Policy where
  lookups _ _ _ := True
  sends _ _ _ := False
  records _
    | .changeSet id' device' => id' = id ∧ device' = device
    | _ => False

/-- What the approver of a record needs, when it is one of the families the handler is for: for a
destructive one by a current listing, if the call has fetched its listings itself. -/
def ApproverAuthority (server : ProxmoxServer) (caller : Option CallerCtx) (args : ChangeSetArgs)
    (record : ChangeSet) (h : History Effect) : Prop :=
  (∀ action, record.actions.head? = some (DestroyAction.toJson action) →
    DestroyAuthority (FetchedItself args.cluster h) server caller (some record.owner) args action
      h) ∧
  ∀ action, record.actions.head? = some (RestoreNewVmidAction.toJson action) →
    RestoreAuthority server caller (some record.owner) args action h

section Rules

variable {server : ProxmoxServer} {caller : Option CallerCtx} {h : History Effect}

private theorem ensures_approveRecord {id device : String} {record : ChangeSet}
    {preview : PreviewRecord}
    {authority : ChangeSet → History Effect → Prop} (hread : RecordRead id device record h)
    (hpreview : record.preview = some preview) (hauthority : authority record h) :
    Ensures (approvePolicy caller id device authority).Allows
      (fun h' answer => h <:+ h' ∧ Shows record answer) h
      (approveRecord caller id device record preview) :=
  Ensures.request ⟨rfl, rfl, rfl, rfl, record, hread, by simp [hpreview], rfl, hauthority⟩ fun _ =>
    Ensures.liftExcept fun output _ => ensures_pure.mpr
      ⟨List.suffix_cons _ _, preview, output, hpreview, rfl⟩

private theorem ensures_authorizeDestroyApproval {client : ProxmoxClient} {args : ChangeSetArgs}
    {grant : ProxmoxGrant} {record : ChangeSet} {action : DestroyAction}
    (hclient : server.clientFor args.cluster = .ok client)
    (hgrant : resolveGrant caller = .ok grant) :
    Ensures (Quiet fun _ _ _ => True) (fun h' _ =>
        DestroyAuthority (FetchedItself args.cluster h') server caller (some record.owner) args
          action h') h
      (server.authorizeDestroyApproval client caller args grant record action) := by
  obtain ⟨id, cluster, vmid⟩ := args
  obtain rfl : client.name = cluster := name_of_clientFor hclient
  refine Ensures.bind (ensures_authorizeWithOverride False True
    (fun _ _ => trivial) False.elim (fun _ _ => rfl) fun _ => rfl) (fun _ _ hop => hop)
    fun h₁ verdict _ hverdict => Ensures.required fun tool htool =>
    Ensures.liftExcept fun _ hscope =>
    ensures_liftExcept.mpr fun _ hiso => ?_
  obtain ⟨hclient', rfl, hintent, -, op, hop, hauthorized⟩ := hverdict
  obtain rfl := Except.ok.inj hop
  have hcarries := hauthorized.carriesTier
  rw [hintent] at hcarries
  have hobserved := hauthorized.admitted.observed
  rw [hclient'] at hobserved
  refine ⟨client, verdict.authorization.grant, verdict.authorization.guest,
    clientNamed_of_clientFor hclient, hgrant, hcarries, hclient' ▸ hauthorized.admitted,
    fun hfetched => hobserved.currentlyListed (.inr hfetched), ⟨tool, htool, ?_⟩,
    eq_ok_of_mapError hiso⟩
  rw [eq_ok_of_mapError hscope]
  rfl

private theorem ensures_authorizeRestoreApproval {client : ProxmoxClient} {args : ChangeSetArgs}
    {grant : ProxmoxGrant} {record : ChangeSet} {action : RestoreNewVmidAction}
    (hclient : server.clientFor args.cluster = .ok client)
    (hgrant : resolveGrant caller = .ok grant) :
    Ensures (Quiet fun _ _ _ => True) (fun h' _ =>
        RestoreAuthority server caller (some record.owner) args action h') h
      (server.authorizeRestoreApproval client caller args grant record action) := by
  refine Ensures.liftExcept fun _ hscope => Ensures.ensure fun hcarries => ?_
  rw [← name_of_clientFor hclient]
  refine Ensures.bind ensures_requireRestoreTarget (fun _ _ hop => hop) fun _ _ _ htarget => ?_
  obtain ⟨-, htarget, hpin⟩ := htarget
  refine ensures_authorizeBackupOwner.mono (fun _ _ hop => hop) fun h' _ howner =>
    ⟨?_, client, grant, clientNamed_of_clientFor hclient, hgrant, hcarries, htarget, hpin, howner⟩
  rw [eq_ok_of_mapError hscope]
  rfl

/-- **Approving demands the authority**: whichever of its families the record is of. -/
theorem ensures_authorizeApproval {client : ProxmoxClient} {args : ChangeSetArgs}
    {grant : ProxmoxGrant} {record : ChangeSet}
    (hclient : server.clientFor args.cluster = .ok client)
    (hgrant : resolveGrant caller = .ok grant) :
    Ensures (Quiet fun _ _ _ => True)
      (fun h' _ => ApproverAuthority server caller args record h') h
      (server.authorizeApproval client caller args grant record) := by
  refine Ensures.required fun raw hraw => ?_
  simp only [ApproverAuthority, hraw, Option.some.injEq]
  split
  · next action _ hread =>
    refine (ensures_authorizeDestroyApproval hclient hgrant).mono (fun _ _ hop => hop)
      fun h' _ hauthority => ⟨?_, ?_⟩
    · rintro action' rfl
      obtain rfl := Option.some.inj (hread.symm.trans DestroyAction.fromJson_toJson)
      exact hauthority
    · rintro action' rfl
      have hfamily : Family.restoreNewVmid = Family.destroy :=
        Family.eq_of_reads (.restoreNewVmid action') (by simp [Family.Reads, hread])
      cases hfamily
  · next action hnone hread =>
    refine (ensures_authorizeRestoreApproval hclient hgrant).mono (fun _ _ hop => hop)
      fun h' _ hauthority => ⟨?_, ?_⟩
    · rintro action' rfl
      simp at hnone
    · rintro action' rfl
      obtain rfl := Option.some.inj (hread.symm.trans RestoreNewVmidAction.fromJson_toJson)
      exact hauthority
  · exact ensures_throw

/-- **Approving** records an approval only with the authority over the record. -/
theorem ensures_approveChangeSet (args : ChangeSetArgs) :
    Ensures (approvePolicy caller args.changeSetId args.device
        (ApproverAuthority server caller args)).Allows (fun h' answer => ∃ record,
          RecordRead args.changeSetId args.device record h' ∧ Shows record answer ∧
          ApproverAuthority server caller args record h') h
      (server.approveChangeSet caller args) := by
  refine Ensures.liftExcept fun _ _ => Ensures.liftExcept fun client hclient =>
    Ensures.liftExcept fun grant hgrant => ?_
  have hrecord : (approvePolicy caller args.changeSetId args.device
      (ApproverAuthority server caller args)).records h
      (.changeSet args.changeSetId args.device) := ⟨rfl, rfl⟩
  refine Ensures.bind (ensures_recordOf hrecord) (fun _ _ hop => hop) fun h₁ record _ hh₁ =>
    Ensures.required fun preview hpreview => ?_
  refine Ensures.bind (ensures_authorizeApproval hclient hgrant) (fun _ _ hop =>
    Policy.allows_of_quiet hop trivial fun _ _ _ => trivial) fun h₂ _ hh₂ hauthority => ?_
  have hread : RecordRead args.changeSetId args.device record h₂ :=
    hh₂.subset (hh₁ ▸ List.mem_cons_self)
  refine (ensures_approveRecord hread hpreview hauthority).mono (fun _ _ hop => hop)
    fun h' answer hanswer => ⟨record, hanswer.1.subset hread, hanswer.2,
      fun action haction => (hauthority.1 action haction).mono hanswer.1 fun hf =>
        hf.of_suffix hanswer.1,
      fun action haction => (hauthority.2 action haction).mono hanswer.1⟩

/-- Approving an HA rule change asks for no authority. -/
theorem ensures_approveHaRuleChange (args : HaChangeSetArgs) :
    Ensures (approvePolicy caller args.changeSetId (haRuleDevice args.cluster args.rule)
        fun _ _ => True).Allows (fun _ _ => True) h (approveHaRuleChange caller args) := by
  refine Ensures.liftExcept fun _ _ => ?_
  have hrecord : (approvePolicy caller args.changeSetId (haRuleDevice args.cluster args.rule)
      fun _ _ => True).records h
      (.changeSet args.changeSetId (haRuleDevice args.cluster args.rule)) := ⟨rfl, rfl⟩
  refine Ensures.bind (ensures_recordOf hrecord) (fun _ _ hop => hop) fun h₁ record _ hh₁ =>
    Ensures.required fun preview hpreview => ?_
  exact (ensures_approveRecord (hh₁ ▸ List.mem_cons_self) hpreview trivial).mono
    (fun _ _ hop => hop) fun _ _ _ => trivial

theorem ensures_getChangeSet (args : ChangeSetArgs) :
    Ensures (getPolicy args.changeSetId args.device).Allows (fun _ _ => True) h
      (server.getChangeSet caller args) := by
  have hquiet (h : History Effect) (op : Op) (hop : Quiet (fun _ _ _ => True) h op) :
      (getPolicy args.changeSetId args.device).Allows h op :=
    Policy.allows_of_quiet hop trivial fun _ _ _ => trivial
  refine Ensures.liftExcept fun _ _ => Ensures.liftExcept fun client hclient =>
    Ensures.liftExcept fun grant hgrant => ?_
  have hrecord : (getPolicy args.changeSetId args.device).records h
      (.changeSet args.changeSetId args.device) := ⟨rfl, rfl⟩
  refine Ensures.bind (ensures_recordOf hrecord) (fun _ _ hop => hop) fun h₁ record _ _ => ?_
  refine Ensures.bind (R := fun _ _ => True) ?_ hquiet fun _ _ _ _ => ensures_pure.mpr trivial
  rw [ProxmoxServer.authorizeReading, ← name_of_clientFor hclient]
  split
  · exact ensures_pure.mpr trivial
  · split
    · exact Ensures.bind (ensures_mapError.mpr (ensures_authorize client _ grant .read trivial))
        (fun _ _ hop => hop) fun _ _ _ _ => ensures_pure.mpr trivial
    · exact Ensures.ensure fun _ => ensures_authorizeBackupOwner.mono (fun _ _ hop => hop)
        fun _ _ _ => trivial
    · exact ensures_throw

theorem ensures_getHaRuleChangeSet (args : HaChangeSetArgs) :
    Ensures (getPolicy args.changeSetId (haRuleDevice args.cluster args.rule)).Allows
      (fun _ _ => True) h (getHaRuleChangeSet caller args) := by
  refine Ensures.liftExcept fun _ _ => Ensures.liftExcept fun grant _ => Ensures.ensure fun _ => ?_
  have hrecord : (getPolicy args.changeSetId (haRuleDevice args.cluster args.rule)).records h
      (.changeSet args.changeSetId (haRuleDevice args.cluster args.rule)) := ⟨rfl, rfl⟩
  exact Ensures.bind (ensures_recordOf hrecord) (fun _ _ hop => hop) fun _ _ _ _ =>
    ensures_pure.mpr trivial

end Rules

/-! ### Who may approve -/

/-- A handler reviews a record soundly: it records an approval of it, and shows its preview, only if
`authority` holds of it at that moment. Unless `cached` listings are considered too, this is about
the calls that find none in the index. -/
def SoundReview (cached : Prop) (cluster id device : String)
    (authority : ChangeSet → History Effect → Prop) (review : ToolM Json) : Prop :=
  Always (fun h (op : Op) => ∀ id' device' approver digest actor,
      op = .coordinator (.approveChangeSet id' device' approver digest actor) →
      cached ∨ FetchedItself cluster h → ∃ record,
        RecordRead id device record h ∧ digest = record.digest ∧ authority record h)
    (fun h outcome => ∀ answer, outcome = .ok answer → cached ∨ FetchedItself cluster h → ∃ record,
      RecordRead id device record h ∧ Shows record answer ∧ authority record h) [] review.run

/-- A handler that keeps to the policy of an approval reviews soundly. -/
private theorem soundReview_of_ensures {cached : Prop} {caller : Option CallerCtx}
    {cluster id device : String} {authority authority' : ChangeSet → History Effect → Prop}
    {review : ToolM Json}
    (hreview : Ensures (approvePolicy caller id device authority).Allows (fun h answer => ∃ record,
      RecordRead id device record h ∧ Shows record answer ∧ authority record h) [] review)
    (hauthority : ∀ record h, cached ∨ FetchedItself cluster h → authority record h →
      authority' record h) :
    SoundReview cached cluster id device authority' review := by
  refine Always.mono hreview (fun h op hop => ?_)
    fun h outcome houtcome answer hanswer hlisted => ?_
  · rintro id' device' approver digest actor rfl hlisted
    obtain ⟨-, -, -, -, record, hread, -, hdigest, hheld⟩ := hop
    exact ⟨record, hread, hdigest, hauthority record h hlisted hheld⟩
  · obtain ⟨record, hread, hshows, hheld⟩ := houtcome answer hanswer
    exact ⟨record, hread, hshows, hauthority record h hlisted hheld⟩

/-- A call that has looked nothing up has fetched all its listings itself. -/
private theorem fetchedItself_of_forall {cluster : String} {h : History Effect}
    (hnone : ∀ event ∈ h, ∀ op, event.op ≠ .index op) : FetchedItself cluster h := by
  intro vmid before after origin found hanswered hafter
  cases hanswered with
  | cached hit => exact absurd rfl (hnone _ (hafter.subset List.mem_cons_self) _)
  | fetched => exact absurd rfl (hnone _ (hafter.subset List.mem_cons_self) _)

/-- An approver without the destructive tier is let through to every HA rule change set. -/
private theorem not_soundReview_approveHaRuleChange {cached : Prop} {server : ProxmoxServer}
    {caller : Option CallerCtx} {args : HaChangeSetArgs} {record : ChangeSet}
    {action : HaRuleAction}
    (htool : authorizeCall caller "approve_ha_rule_change" args.cluster = .ok ())
    (hgrant : ∀ grant, resolveGrant caller = .ok grant → ¬ grant.allowsAction .destructive)
    (haction : record.actions.head? = some action.toJson) (hpreview : record.preview.isSome) :
    ¬ SoundReview cached args.cluster args.changeSetId (haRuleDevice args.cluster args.rule)
      (fun record h => ∀ action, record.actions.head? = some (HaRuleAction.toJson action) →
        HaRuleAuthority server caller (some record.owner) args action h)
      (approveHaRuleChange caller args) := by
  intro hsound
  obtain ⟨preview, hpreview⟩ := Option.isSome_iff_exists.mp hpreview
  rw [SoundReview, approveHaRuleChange, htool] at hsound
  -- once the record is read, the approval is the next operation
  have hreview := hsound.2 (.ok record)
  change Always _ _ _ (do
    let preview ← requireReviewable record
    approveRecord caller args.changeSetId (haRuleDevice args.cluster args.rule) record preview :
      ToolM Json).run at hreview
  rw [requireReviewable, hpreview] at hreview
  have hfetched : FetchedItself args.cluster [⟨.coordinator (.changeSet args.changeSetId
      (haRuleDevice args.cluster args.rule)), .ok record⟩] :=
    fetchedItself_of_forall (by simp)
  obtain ⟨record', hread, -, hauthority⟩ := hreview.1 _ _ _ _ _ rfl (.inr hfetched)
  obtain rfl : record' = record := by
    obtain hread := List.mem_singleton.mp hread
    injection hread with _ hreply
    exact Except.ok.inj hreply
  obtain ⟨-, client, grant, existing, vmids, -, hcaller, hcarries, -⟩ := hauthority action haction
  exact hgrant grant hcaller hcarries

/-- The approve handler of a family reviews every change set of the family soundly: with the
authority its apply handler demands, waivers looked up for the planner. -/
def SoundApproval (cached : Prop) : Family → Prop
  | .destroy => ∀ (server : ProxmoxServer) caller args,
      SoundReview cached args.cluster args.changeSetId args.device (fun record h => ∀ action,
        record.actions.head? = some (DestroyAction.toJson action) →
          DestroyAuthority True server caller (some record.owner) args action h)
        (server.approveChangeSet caller args)
  | .restoreNewVmid => ∀ (server : ProxmoxServer) caller args,
      SoundReview cached args.cluster args.changeSetId args.device (fun record h => ∀ action,
        record.actions.head? = some (RestoreNewVmidAction.toJson action) →
          RestoreAuthority server caller (some record.owner) args action h)
        (server.approveChangeSet caller args)
  | .haRule => ∀ (server : ProxmoxServer) caller args,
      SoundReview cached args.cluster args.changeSetId (haRuleDevice args.cluster args.rule)
        (fun record h => ∀ action, record.actions.head? = some (HaRuleAction.toJson action) →
          HaRuleAuthority server caller (some record.owner) args action h)
        (approveHaRuleChange caller args)

/-- A caller with every tool in its scope that may only read. -/
def readOnlyReviewer : CallerCtx where
  tokenName := "reviewer"
  requestId := "req-2"
  actorType := .human
  tools := .wildcard
  devices := .wildcard
  grant := some .readOnly

/-- A server of one cluster, and the planned deletion of a rule there. -/
def oneClusterServer : ProxmoxServer :=
  ⟨[⟨"pve", ⟨"https://pve:8006", [], []⟩⟩], [], false, false, .ok ()⟩

def plannedDeletion : HaRuleAction :=
  ⟨"delete", "pve", "keep-apart", none, none, none, none, none, none, none⟩

def plannedDeletionRecord : ChangeSet where
  id := "cs-1"
  device := haRuleDevice "pve" "keep-apart"
  actions := [plannedDeletion.toJson]
  owner := "planner"
  expectedCandidateFingerprint := ""
  policySignature := policySignature
  digest := ""
  state := .planned
  preview := some ⟨"", "DELETE"⟩
  taskId := none

/-- A caller with every tool and every guest in its scope that may destroy. -/
def destructiveReviewer : CallerCtx :=
  { readOnlyReviewer with grant := some ⟨["*"], [.destructive]⟩ }

/-- The planned destruction of a machine. -/
def plannedDestruction : DestroyAction where
  op := "destroy_guest"
  cluster := "pve"
  vmid := 100
  snapname := none
  storage := none
  volid := none
  storageNode := none
  targetNode := none
  online := false
  withLocalDisks := false
  config := none

def plannedDestructionRecord : ChangeSet :=
  { plannedDeletionRecord with device := "pve/100", actions := [plannedDestruction.toJson] }

/-- The machine as a listing shows it that another call has asked for. -/
def cachedMachine : CacheHit 100 := ⟨⟨"pve", 100, "web", .qemu, "pve1", "running", [], none⟩,
  ⟨"pve", 7⟩, rfl⟩

/-- What an approval of it sees while the index holds that listing. -/
def cachedReviewEvents : List (Event Effect) :=
  [⟨.coordinator (.changeSet "cs-1" "pve/100"), .ok plannedDestructionRecord⟩,
    ⟨.index (.lookupFresh "pve" 100), some cachedMachine⟩, ⟨.unixNow, (0 : UInt64)⟩,
    ⟨.index (.lookupFresh "pve" 100), some cachedMachine⟩]

omit [Externals] in
private theorem approveDestruction_reaches : ∃ next, Reaches
    (@ProxmoxServer.approveChangeSet Externals.plain oneClusterServer (some destructiveReviewer)
      ⟨"cs-1", "pve", 100⟩).run cachedReviewEvents
      (.perform (.coordinator (.approveChangeSet "cs-1" "pve/100" "reviewer" "" .human)) next) := by
  apply Exists.intro
  iterate 4 refine Reaches.step _ _ _ ?_
  exact Reaches.refl _

omit [Externals] in
/-- An approval takes a listing that may be older than what the cluster lists now. -/
private theorem not_soundApproval_destroy : ¬ @SoundApproval Externals.plain True .destroy := by
  intro hsound
  let _ : Externals := Externals.plain
  obtain ⟨next, hreaches⟩ := approveDestruction_reaches
  obtain ⟨record, hread, -, hauthority⟩ := (hsound oneClusterServer (some destructiveReviewer)
    ⟨"cs-1", "pve", 100⟩).allows_of_reaches hreaches _ _ _ _ _ rfl (.inl trivial)
  obtain rfl : record = plannedDestructionRecord := by
    rcases hread with _ | ⟨_, _ | ⟨_, _ | ⟨_, _ | ⟨_, ⟨⟩⟩⟩⟩⟩
    rfl
  obtain ⟨_, _, _, -, -, -, -, hlisted, -⟩ := hauthority plannedDestruction rfl
  -- the call has neither dropped the listing nor asked for one
  obtain ⟨before, after, origin, hanswered, hafter, hcurrent⟩ := hlisted trivial
  have hops : ∀ event ∈ cachedReviewEvents.reverse ++ [], event.op ≠ .index .bumpGeneration ∧
      event.op ≠ .http (.dispatch "pve" listingRequest) := by
    simp [cachedReviewEvents]
  rcases hcurrent with ⟨later, op, reply, older, rfl, -⟩ | hasked
  · have hbump : (⟨.index .bumpGeneration, ()⟩ : Event Effect) ∈
        later ++ ⟨.index op, reply⟩ :: ⟨.index .bumpGeneration, ()⟩ :: older := by simp
    exact (hops _ ((hanswered.suffix.trans hafter).subset hbump)).1 rfl
  · exact (hops _ (hafter.subset hasked)).2 rfl

omit [Externals] in
/-- **The second pair of eyes needs authority**, for restores into a new vmid in every call, and for
destructive change sets in the calls that find no cached listing; for HA rules in none. -/
theorem soundApproval_iff (family : Family) (cached : Prop) :
    (∀ externals : Externals, @SoundApproval externals cached family) ↔
      family = .restoreNewVmid ∨ family = .destroy ∧ ¬ cached := by
  constructor
  · intro hsound
    cases family with
    | restoreNewVmid => exact .inl rfl
    | destroy =>
      refine .inr ⟨rfl, fun hcached => not_soundApproval_destroy ?_⟩
      rw [← eq_true hcached]
      exact hsound Externals.plain
    | haRule =>
      exact absurd (hsound Externals.plain _ _ _)
        (@not_soundReview_approveHaRuleChange Externals.plain cached oneClusterServer
          (some readOnlyReviewer) ⟨"cs-1", "pve", "keep-apart"⟩ plannedDeletionRecord
          plannedDeletion rfl (by rintro _ ⟨⟩; decide) rfl rfl)
  · rintro (rfl | ⟨rfl, hfetched⟩) externals server caller args
    · exact soundReview_of_ensures (ensures_approveChangeSet args) fun _ _ _ hheld => hheld.2
    · exact soundReview_of_ensures (ensures_approveChangeSet args) fun _ _ hlisted hheld action
        haction => (hheld.1 action haction).mono List.suffix_rfl
          fun _ => hlisted.resolve_left hfetched

omit [Externals] in
/-- A read-only token approves the deletion of an HA rule. -/
theorem not_soundReview_readOnlyReviewer : ¬ @SoundReview Externals.plain True "pve" "cs-1"
    (haRuleDevice "pve" "keep-apart") (fun record h => ∀ action,
      record.actions.head? = some (HaRuleAction.toJson action) →
        @HaRuleAuthority Externals.plain oneClusterServer (some readOnlyReviewer)
          (some record.owner) ⟨"cs-1", "pve", "keep-apart"⟩ action h)
    (@approveHaRuleChange Externals.plain (some readOnlyReviewer) ⟨"cs-1", "pve", "keep-apart"⟩) :=
  @not_soundReview_approveHaRuleChange Externals.plain True oneClusterServer
    (some readOnlyReviewer) ⟨"cs-1", "pve", "keep-apart"⟩ plannedDeletionRecord plannedDeletion rfl
    (by rintro _ ⟨⟩; decide) rfl rfl

end ProxmoxMcp
