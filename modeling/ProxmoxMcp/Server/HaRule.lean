import ProxmoxMcp.ChangeSet.HaRule
import ProxmoxMcp.Server.Records

/-!
# HA rule change sets

Planning and applying a change to an HA rule. The rule moves every guest it names, so each of them
is authorized as for a **destructive** call, on a fresh listing: an existing guest by scope and
protection, a number no guest has by the rule for creations. A write is answered at once; nothing is
polled.
-/

namespace ProxmoxMcp

open Interaction Program Text ProxmoxError

variable [Externals]

/-- Refuse a caller without the destructive tier. -/
def requireHaRuleDestructiveTier (caller : Option CallerCtx) : Except ToolResult Unit := do
  let grant ← resolveGrant caller
  if grant.allowsAction .destructive then return ()
  else throw (toolError
    "changing an HA rule requires the 'destructive' action tier, which this caller does not carry")

/-- The operation a waiver for an HA rule change names. -/
def haWaiverOp (op : String) : String := s!"ha_rule_{op}"

/-- A change to an existing rule reaches guests the caller did not name. -/
def requireUnrestrictedScopeForExistingRule (op : String) (grant : ProxmoxGrant) :
    Except String Unit :=
  if (op = "update" ∨ op = "delete") ∧ ¬ grant.isUnrestrictedGuestScope then
    .error (s!"changing an HA rule with op '{op}' requires a caller whose guest scope is '*' -- " ++
      "its existing membership is not filtered by guest scope, same as list_ha_rules and " ++
      "get_ha_rule. This caller is narrowed to specific guests and cannot be checked against it.")
  else .ok ()

/-- The plan must fit what is there. -/
def checkExisting (op rule : String) (found : Bool) : Except String Unit :=
  if op = "create" ∧ found then
    .error s!"rule '{rule}' already exists; plan an update instead"
  else if (op = "update" ∨ op = "delete") ∧ ¬ found then
    .error s!"rule '{rule}' does not exist; nothing to {op}"
  else .ok ()

/-- Read a rule's current body, or refuse. -/
def readCurrentRule (client : ProxmoxClient) (rule : String) : ToolM (Option Json) :=
  mapError (fun error => toolError s!"reading current rule: {error.toText}")
    (fetchRule client rule)

namespace ProxmoxServer

variable (server : ProxmoxServer)

/-- Decide on one guest a rule names. -/
def authorizeHaRuleGuest (client : ProxmoxClient) (cluster : String) (caller : Option CallerCtx)
    (grant : ProxmoxGrant) (op : String) (now : UInt64) (vmid : UInt32) : ToolM Unit := do
  match ← attempt (resolve client cluster vmid) with
  | .ok guest =>
    let protection := protectionOf client.cluster (some guest) false
    let override := server.overrideFor protection cluster vmid now (haWaiverOp op)
      (principalOf caller)
    let _ ← mapError (fun error => toolError s!"HA rule names guest {vmid}: {error.toText}")
      (authorize client cluster vmid grant (.destructive override.applies))
  | .error (.notFound _) =>
    -- The same text as for a guest outside the scope.
    refuseUnless (grant.allowsNewVmid vmid)
      s!"HA rule names guest {vmid}: {(guestOutOfScope cluster).toText}"
    refuseUnless (creationAllowed client.cluster vmid)
      s!"HA rule names vmid {vmid}, a protected pin on cluster {cluster}"
  | .error error =>
    throw (toolError
      s!"could not resolve guest {vmid} named by the HA rule: {error.toText}")

/-- Authorize every guest an HA rule change touches. -/
def authorizeHaRuleGuests (client : ProxmoxClient) (cluster : String) (caller : Option CallerCtx)
    (action : HaRuleAction) (existing : Option Json) : ToolM Unit := do
  liftM (requireHaRuleDestructiveTier caller)
  let grant ← liftM (resolveGrant caller)
  orRefuse (requireUnrestrictedScopeForExistingRule action.op grant)
  let vmids ← orRefuse (guestsTouched action existing)
  invalidateCluster cluster
  let now ← unixNow
  forM vmids (server.authorizeHaRuleGuest client cluster caller grant action.op now)

/-- Plan a change to an HA rule. -/
def planHaRuleChange (caller : Option CallerCtx) (args : PlanHaRuleArgs) : ToolM Json := do
  liftM (authorizeCall caller "plan_ha_rule_change" args.cluster)
  let client ← liftM (server.clientFor args.cluster)
  let action ← orRefuse (buildHaRuleAction args)
  let tool ← required (toolForHaOp action.op)
    (toolError s!"unknown HA rule operation '{action.op}'")
  liftM (authorizeCall caller tool args.cluster)
  liftM (requireHaRuleDestructiveTier caller)
  let existing ← readCurrentRule client args.rule
  orRefuse (checkExisting action.op args.rule existing.isSome)
  server.authorizeHaRuleGuests client args.cluster caller action existing
  let expected := haRuleFingerprint args.cluster args.rule existing
  let preview := renderHaRulePreview action (existing.map redactFreeTextFields)
  let output ← recordPlan (haRuleDevice args.cluster args.rule) action.toJson (callerName caller)
    expected preview
  return changeSetResponse output.changeSetId output.state expected preview output.digest

/-- Apply an approved HA rule change set. -/
def applyHaRuleChange (caller : Option CallerCtx) (args : HaChangeSetArgs) : ToolM Json := do
  liftM (authorizeCall caller "apply_ha_rule_change" args.cluster)
  let client ← liftM (server.clientFor args.cluster)
  let device := haRuleDevice args.cluster args.rule
  let call : ApplyCall := ⟨server, .haRule, caller, args.changeSetId, args.cluster, device⟩
  let record ← recordOf args.changeSetId device
  requirePreview record
  liftM (requireHaRuleDestructiveTier caller)
  let existing ← readCurrentRule client args.rule
  requireFingerprint record (haRuleFingerprint args.cluster args.rule existing)
  requireApproved record
  let action ← liftM (storedAction "HaRuleAction" HaRuleAction.fromJson record)
  let tool ← required (toolForHaOp action.op)
    (toolError s!"the change set names an unknown operation '{action.op}'")
  liftM (authorizeCall caller tool args.cluster)
  let absent := ", ".intercalate (missingRequiredHaFields action)
  refuseUnless (missingRequiredHaFields action).isEmpty
    (s!"the change set records a '{action.op}' action without {absent}; it cannot be applied. " ++
      "Plan the operation again with plan_ha_rule_change and have the new change set approved " ++
      "-- nothing was sent to the cluster.")
  server.authorizeHaRuleGuests client args.cluster caller action existing
  let (claimed, ()) ← call.run record (writeHaRule client action existing)
  call.finish claimed true ""
  return .object [("outcome", .string "ok")]

end ProxmoxServer

/-! ### What the handlers keep to -/

/-- What lets a call name a number in a rule: the guest that has it is admitted, or no guest has it
and the grant and the pins admit the number. -/
inductive MemberAllowed (server : ProxmoxServer) (client : ProxmoxClient) (grant : ProxmoxGrant)
    (op : String) (principal : Option String) (vmid : UInt32) (h : History Effect) : Prop
  | admitted {guest : ResolvedGuest}
      (admitted : Admitted True True server client grant op principal vmid guest h)
  | vacant (observed : Observed True client.name vmid none h) (inScope : grant.allowsNewVmid vmid)
      (unpinned : creationAllowed client.cluster vmid)

theorem MemberAllowed.mono {server : ProxmoxServer} {client : ProxmoxClient} {grant : ProxmoxGrant}
    {op : String} {principal : Option String} {vmid : UInt32} {h h' : History Effect}
    (hm : MemberAllowed server client grant op principal vmid h) (hh : h <:+ h') :
    MemberAllowed server client grant op principal vmid h' := by
  cases hm with
  | admitted hadmitted => exact .admitted (hadmitted.mono hh)
  | vacant hobserved hscope hpin => exact .vacant (hobserved.mono hh id) hscope hpin

/-- The call has read a rule, and this is its body. -/
def RuleRead (client rule : String) (existing : Option Json) (h : History Effect) : Prop :=
  ∃ response, Replied client (fetchRuleRequest rule) response h ∧
    readRule rule (ProxmoxClient.readAnswer response) = .ok existing

theorem RuleRead.mono {client rule : String} {existing : Option Json} {h h' : History Effect}
    (hr : RuleRead client rule existing h) (hh : h <:+ h') : RuleRead client rule existing h' := by
  obtain ⟨response, hreplied, hread⟩ := hr
  exact ⟨response, hreplied.mono hh, hread⟩

/-- The requests an HA rule action allows. -/
inductive HaRuleRequest (action : HaRuleAction) (existing : Option Json) : ApiRequest → Prop
  | create (op : action.op = "create") : HaRuleRequest action existing
      (createRuleRequest action.rule (action.fields (action.ruleType.getD "")))
  | update (op : action.op = "update") : HaRuleRequest action existing
      (updateRuleRequest action.rule (action.fields "")
        (existing.bind fun rule => rule.getStr "digest"))
  | delete (op : action.op = "delete") : HaRuleRequest action existing
      (deleteRuleRequest action.rule)

omit [Externals] in
theorem HaRuleRequest.mutating {action : HaRuleAction} {existing : Option Json}
    {request : ApiRequest} (hr : HaRuleRequest action existing request) : request.Mutating := by
  cases hr <;> exact fun hget => by cases hget

/-- What lets an apply write a recorded rule: the rule and its guests as the call sees them, and the
action read from the record, within the caller's authority. -/
structure HaRuleAuthorized (server : ProxmoxServer) (caller : Option CallerCtx)
    (args : HaChangeSetArgs) (record : ChangeSet) (action : HaRuleAction) (existing : Option Json)
    (client : ProxmoxClient) (grant : ProxmoxGrant) (h : History Effect) : Prop where
  named : server.clientNamed args.cluster = some client
  granted : resolveGrant caller = .ok grant
  carriesTier : grant.allowsAction .destructive
  planned : RuleRead args.cluster args.rule existing h ∧
    haRuleFingerprint args.cluster args.rule existing = record.expectedCandidateFingerprint
  stored : record.actions.head?.bind HaRuleAction.fromJson = some action
  tool : ∃ tool, toolForHaOp action.op = some tool ∧ authorizeCall caller tool args.cluster = .ok ()
  scope : requireUnrestrictedScopeForExistingRule action.op grant = .ok ()
  members : ∃ vmids, guestsTouched action existing = .ok vmids ∧ ∀ vmid ∈ vmids,
    MemberAllowed server client grant (haWaiverOp action.op) (principalOf caller) vmid h

theorem HaRuleAuthorized.mono {server : ProxmoxServer} {caller : Option CallerCtx}
    {args : HaChangeSetArgs} {record : ChangeSet} {action : HaRuleAction} {existing : Option Json}
    {client : ProxmoxClient} {grant : ProxmoxGrant} {h h' : History Effect}
    (ha : HaRuleAuthorized server caller args record action existing client grant h)
    (hh : h <:+ h') : HaRuleAuthorized server caller args record action existing client grant h' :=
  { ha with
    planned := ⟨ha.planned.1.mono hh, ha.planned.2⟩
    members := ha.members.imp fun _ => And.imp_right fun hmembers vmid hvmid =>
      (hmembers vmid hvmid).mono hh }

section Rules

variable {policy : Policy} {client : ProxmoxClient} {h : History Effect}

/-- Reading a rule is one request. -/
theorem ensures_readCurrentRule {rule : String} :
    Ensures (fun _ (op : Op) => op.Reads)
      (fun h' existing => RuleRead client.name rule existing h') h
      (readCurrentRule client rule) := by
  refine ensures_mapError.mpr ?_
  have hsent : Always (fun _ (op : Op) => op.Reads) (Sent client (fetchRuleRequest rule) h .ok) h
      (client.send (fetchRuleRequest rule)).run :=
    Guests.always_send (not_not.mpr rfl) fun _ => trivial
  refine Ensures.attempt hsent (fun _ _ hop => hop) fun h' outcome _ hsent =>
    ensures_liftExcept.mpr fun existing hread => ?_
  cases hsent with
  | answered ticket reply =>
    cases reply with
    | error text => simp [ProxmoxClient.readReply, Except.mapError, Except.bind, readRule] at hread
    | ok response =>
      refine ⟨response, ⟨ticket, by simp, by simp⟩, ?_⟩
      cases hanswer : ProxmoxClient.readAnswer response <;>
        simpa [ProxmoxClient.readReply, Except.mapError, Except.bind, hanswer] using hread
  | _ => simp [readRule] at hread

/-- Writing a rule sends at most the one request its action allows. -/
private theorem always_writeHaRule {action : HaRuleAction} {existing : Option Json}
    {checks : History Effect → Prop}
    (hsend : ∀ request, HaRuleRequest action existing request →
      policy.Permits h client.name request) :
    Always policy.Allows (Outcome client.name NamesNothing checks) h
      (writeHaRule client action existing).run := by
  have hwrite {request : ApiRequest} (hallowed : HaRuleRequest action existing request) :
      Always policy.Allows (Outcome client.name NamesNothing checks) h
        (do let _ ← client.send request : ClientM Unit).run := by
    refine always_run_bind.mpr ((Guests.always_send (hsend request hallowed) fun _ => trivial).mono
      (fun _ _ hop => hop) fun h' outcome hsent => ?_)
    have houtcome : Outcome client.name (fun _ _ => True) checks h' outcome :=
      outcome_of_sent hsent hallowed.mutating (fun _ _ _ => trivial) (by simp)
    cases outcome with
    | error error => exact houtcome
    | ok value => exact houtcome
  unfold writeHaRule
  split
  · next hop => exact hwrite (.create hop)
  · next hop =>
    exact always_run_bind.mpr (always_run_ensure.mpr ⟨fun _ => hwrite (.update hop),
      fun _ => by simp [Outcome, isDefinitive]⟩)
  · next hop => exact hwrite (.delete hop)
  · simp [Outcome, isDefinitive]

/-- **One guest of a rule** is looked up on a fresh listing and nothing else is done. -/
theorem ensures_authorizeHaRuleGuest {server : ProxmoxServer} {caller : Option CallerCtx}
    {grant : ProxmoxGrant} {op : String} {now : UInt64} {vmid : UInt32}
    (hdropped : Dropped client.name h) (hnow : ⟨.unixNow, now⟩ ∈ h) :
    Ensures (Quiet fun h cluster _ => Dropped cluster h) (fun h' _ =>
        MemberAllowed server client grant (haWaiverOp op) (principalOf caller) vmid h') h
      (server.authorizeHaRuleGuest client client.name caller grant op now vmid) := by
  refine Ensures.attempt (always_resolve client vmid hdropped) (fun _ _ hop => hop)
    fun h₁ outcome hh₁ hresolved => ?_
  cases outcome with
  | ok guest =>
    refine Ensures.bind (ensures_mapError.mpr (ensures_authorize client vmid grant _
      (hdropped.mono hh₁))) (fun _ _ hop => hop) fun h₂ certificate hh₂ hanswered =>
      ensures_pure.mpr ?_
    obtain ⟨origin, hanswered⟩ := hanswered
    refine .admitted ⟨⟨_, _, origin, hanswered, List.suffix_rfl,
      fun _ => hdropped.mono hh₁⟩, certificate.inScope, fun _ hprotected => ?_⟩
    have happlies := certificate.admitted rfl hprotected
    exact overridden_of_overrideFor (Option.some.inj happlies) ((hh₁.trans hh₂).subset hnow)
  | error error =>
    cases error with
    | notFound what =>
      obtain ⟨-, origin, hanswered⟩ := hresolved
      exact Ensures.ensure fun hscope => ensures_ensure.mpr fun hpin =>
        .vacant ⟨_, _, origin, hanswered, List.suffix_rfl, fun _ => hdropped⟩ hscope hpin
    | _ => exact ensures_throw

/-- What an HA rule change may touch is authorized guest by guest. -/
theorem ensures_authorizeHaRuleGuests {server : ProxmoxServer} {caller : Option CallerCtx}
    {action : HaRuleAction} {existing : Option Json} :
    Ensures (Quiet fun h cluster _ => Dropped cluster h) (fun h' _ => ∃ grant vmids,
        resolveGrant caller = .ok grant ∧ grant.allowsAction .destructive ∧
        requireUnrestrictedScopeForExistingRule action.op grant = .ok () ∧
        guestsTouched action existing = .ok vmids ∧ ∀ vmid ∈ vmids, MemberAllowed server client
          grant (haWaiverOp action.op) (principalOf caller) vmid h') h
      (server.authorizeHaRuleGuests client client.name caller action existing) := by
  refine Ensures.liftExcept fun _ htier => Ensures.liftExcept fun grant hgrant =>
    Ensures.liftExcept fun _ hscope => Ensures.liftExcept fun vmids hvmids => ?_
  have hcarries : grant.allowsAction .destructive := by
    rw [requireHaRuleDestructiveTier, hgrant] at htier
    change (if grant.allowsAction .destructive then pure () else throw _ : Except ToolResult Unit) =
      _ at htier
    split_ifs at htier with hcarries
    exact hcarries
  refine Ensures.bind (ensures_invalidateCluster client.name h) (fun _ _ hop => hop)
    fun h₁ _ _ hdropped => Ensures.request trivial fun now => ?_
  have hloop := ensures_forM (h := ⟨.unixNow, now⟩ :: h₁) (l := vmids)
    (f := server.authorizeHaRuleGuest client client.name caller grant action.op now)
    (G := Quiet fun h cluster _ => Dropped cluster h)
    (I := fun h => Dropped client.name h ∧ ⟨.unixNow, now⟩ ∈ h)
    (R := fun vmid h => MemberAllowed server client grant (haWaiverOp action.op)
      (principalOf caller) vmid h)
    ⟨hdropped.mono (List.suffix_cons _ _), List.mem_cons_self⟩ (fun vmid _ h hI => ?_)
    fun hmember hh => hmember.mono hh
  · exact hloop.mono (fun _ _ hop => hop) fun h' _ hmembers =>
      ⟨grant, vmids, hgrant, hcarries, eq_ok_of_mapError hscope, eq_ok_of_mapError hvmids,
        hmembers.2⟩
  · refine (Always.frame (ensures_authorizeHaRuleGuest hI.1 hI.2)).mono (fun _ _ hop => hop.1)
      fun h' outcome hmember value heq => ?_
    exact ⟨⟨hI.1.mono hmember.2, hmember.2.subset hI.2⟩, hmember.1 value heq⟩

end Rules

namespace ProxmoxServer

/-- What an apply of an HA rule change set is about. -/
def haRuleCall (server : ProxmoxServer) (caller : Option CallerCtx) (args : HaChangeSetArgs) :
    ApplyCall :=
  ⟨server, .haRule, caller, args.changeSetId, args.cluster, haRuleDevice args.cluster args.rule⟩

/-- The policy of an apply of an HA rule change set. -/
def haRulePolicy (server : ProxmoxServer) (caller : Option CallerCtx) (args : HaChangeSetArgs) :
    Policy :=
  (server.haRuleCall caller args).policy (fun h cluster _ => Dropped cluster h) (fun _ => False)
    fun record h request => ∃ action existing client grant,
      HaRuleAuthorized server caller args record action existing client grant h ∧
      HaRuleRequest action existing request

variable {server : ProxmoxServer} {caller : Option CallerCtx} {h : History Effect}

/-- **Planning an HA rule change** reads the cluster and records the plan. -/
theorem ensures_planHaRuleChange (args : PlanHaRuleArgs) :
    Ensures (PlanCall.policy ⟨.haRule, caller⟩ server).Allows (fun _ _ => True) h
      (server.planHaRuleChange caller args) := by
  refine Ensures.liftExcept fun _ _ => Ensures.liftExcept fun client hclient =>
    Ensures.liftExcept fun action _ => Ensures.required fun tool _ =>
    Ensures.liftExcept fun _ _ => Ensures.liftExcept fun _ _ => ?_
  rw [← name_of_clientFor hclient]
  refine Ensures.bind ensures_readCurrentRule (fun _ _ hop => PlanCall.allows_of_reads hop)
    fun h₁ existing _ _ => Ensures.liftExcept fun _ _ => ?_
  refine Ensures.bind ensures_authorizeHaRuleGuests (fun _ _ hop => Policy.allows_of_quiet hop
    trivial fun _ _ _ => trivial) fun h₂ _ _ _ => ?_
  exact Ensures.bind (PlanCall.ensures_recordPlan rfl (.haRule action)) (fun _ _ hop => hop)
    fun _ _ _ _ => ensures_pure.mpr trivial

/-- **Applying an HA rule change** sends the write of its approved action, on what the call has just
seen of the rule and its guests. -/
theorem ensures_applyHaRuleChange (args : HaChangeSetArgs) (hunsent : Unsent h) :
    Ensures (server.haRulePolicy caller args).Allows (fun _ _ => True) h
      (server.applyHaRuleChange caller args) := by
  obtain ⟨id, cluster, rule⟩ := args
  have hreads (h' : History Effect) (hunsent : Unsent h') :
      (server.haRulePolicy caller ⟨id, cluster, rule⟩).reads h' := .inl hunsent
  refine Ensures.liftExcept fun _ _ => Ensures.liftExcept fun client hclient => ?_
  obtain rfl : client.name = cluster := name_of_clientFor hclient
  have hrecord : (server.haRulePolicy caller ⟨id, client.name, rule⟩).records h
      (.changeSet id (haRuleDevice client.name rule)) := ⟨rfl, rfl⟩
  -- the checks, in the order of the source
  refine Ensures.bind (ensures_recordOf hrecord) (fun _ _ hop => hop) fun h₁ record _ hh₁ =>
    Ensures.ensure fun hpreview => Ensures.liftExcept fun _ _ => ?_
  have hunsent₁ : Unsent h₁ := hh₁ ▸ hunsent.cons not_false
  refine Ensures.bind (ensures_reads ensures_readCurrentRule hunsent₁ hreads) (fun _ _ hop => hop)
    fun h₂ existing hh₂ hexisting => Ensures.ensure fun hfingerprint =>
    Ensures.ensure fun happroved => Ensures.liftExcept fun action haction =>
    Ensures.required fun tool htool => Ensures.liftExcept fun _ htoolScope =>
    Ensures.ensure fun _ => ?_
  have hunsent₂ := hexisting.2.unsent hunsent₁
  refine Ensures.bind (ensures_quiet ensures_authorizeHaRuleGuests hunsent₂ hreads
    fun _ _ _ hlookup => hlookup) (fun _ _ hop => hop) fun h₃ _ hh₃ hguests => ?_
  obtain ⟨⟨grant, vmids, hgrant, hcarries, hscope, hvmids, hmembers⟩, hunsent₃⟩ := hguests
  -- what they have shown stands when the record is claimed
  have hreviewed : (server.haRuleCall caller ⟨id, client.name, rule⟩).Reviewed record h₃ :=
    ⟨(hh₂.trans hh₃).subset (hh₁ ▸ List.mem_cons_self), hpreview, beq_iff_eq.mp happroved⟩
  have hauthorized : HaRuleAuthorized server caller ⟨id, client.name, rule⟩ record action existing
      client grant h₃ := {
    named := clientNamed_of_clientFor hclient
    granted := hgrant
    carriesTier := hcarries
    planned := ⟨hexisting.1.mono hh₃, beq_iff_eq.mp hfingerprint⟩
    stored := storedAction_eq_ok.mp haction
    tool := ⟨tool, htool, htoolScope⟩
    scope := hscope
    members := ⟨vmids, hvmids, hmembers⟩ }
  -- the write names no task, so the record is settled at once
  refine Ensures.bind (R := fun h' (result : ChangeSet × Unit) =>
      (server.haRuleCall caller ⟨id, client.name, rule⟩).Claimed result.1 h' ∧
        ∃ data, Accepted client.name data h' ∧ NamesNothing data result.2)
    (ApplyCall.ensures_run hreviewed hunsent₃ (fun hfalse _ => hfalse)
      fun h' claimed hh' hready => ?_) (fun _ _ hop => hop) fun h₄ result _ hresult => ?_
  · exact always_writeHaRule fun request hrequest => Policy.permits_of_sends ⟨rfl, record, claimed,
      hready, action, existing, client, grant, hauthorized.mono hh'.suffix, hrequest⟩
      (hreads h' hready.unsent)
  · obtain ⟨hclaimed, data, haccepted, -⟩ := hresult
    exact Ensures.bind (ApplyCall.ensures_finish hclaimed fun h' hh' =>
      .immediate (haccepted.mono hh') (.inl rfl)) (fun _ _ hop => hop)
      fun _ _ _ _ => ensures_pure.mpr trivial

end ProxmoxServer

end ProxmoxMcp
