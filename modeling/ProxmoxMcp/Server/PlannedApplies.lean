import Mathlib
import ProxmoxMcp.Server.Devices
import ProxmoxMcp.Server.LifeCycleRuns

/-!
# What is applied is what was planned

A plan records an action built from its arguments, with a fingerprint of what it has read; between
it and the apply stand other calls, a store and its text format, and perhaps a crash. `Enacts` says
what survives of the plan: an apply sends a request of the **planned action**, read back as it was
built, for the guest or the rule that was planned, and only while the fingerprint of what it reads
itself is the planned one.
-/

namespace ProxmoxMcp

open Interaction Text
open Program hiding bind

variable [Externals]

/-- What is sent **enacts** a plan: `planned` is what the plan had seen when it recorded its action,
and `applied` what the apply has seen when it sends. -/
inductive Enacts (planned applied : History Effect) : Tool → Tool → String → ApiRequest → Prop
  | destroy {args : PlanDestroyArgs} {args' : ChangeSetArgs} {action : DestroyAction}
      {guest guest' : ResolvedGuest} {state state' : GuestState} {request : ApiRequest}
      (cluster : args'.cluster = args.cluster) (vmid : args'.vmid = args.vmid)
      (built : buildDestroyAction args = .ok action)
      (observed : Observed True args.cluster args.vmid (some guest) planned)
      (observed' : Observed True args.cluster args.vmid (some guest') applied)
      (read : StateRead args.cluster args.cluster guest state planned)
      (read' : StateRead args.cluster args.cluster guest' state' applied)
      (unchanged : fingerprint state' = fingerprint state)
      (sent : DestructiveRequest args.cluster action guest'.type guest'.node args.vmid applied
        request) :
      Enacts planned applied (.planDestroy args) (.applyChangeSet args') args.cluster request
  | haRule {args : PlanHaRuleArgs} {args' : HaChangeSetArgs} {action : HaRuleAction}
      {existing existing' : Option Json} {request : ApiRequest}
      (device : haRuleDevice args'.cluster args'.rule = haRuleDevice args.cluster args.rule)
      (built : buildHaRuleAction args = .ok action)
      (read : RuleRead args.cluster args.rule existing planned)
      (read' : RuleRead args'.cluster args'.rule existing' applied)
      (unchanged : haRuleFingerprint args'.cluster args'.rule existing' =
        haRuleFingerprint args.cluster args.rule existing)
      (sent : HaRuleRequest action existing' request) :
      Enacts planned applied (.planHaRuleChange args) (.applyHaRuleChange args') args'.cluster
        request
  | restoreNewVmid {args : PlanRestoreNewVmidArgs} {args' : ChangeSetArgs} {owner : UInt32}
      {action : RestoreNewVmidAction} {kind : GuestType}
      (cluster : args'.cluster = args.cluster) (vmid : args'.vmid = args.targetVmid)
      (built : buildRestoreNewVmidAction args owner = .ok action)
      (kind_eq : action.guestType = some kind)
      (listed : OwnerListed args.cluster args.node args.volid owner planned)
      (listed' : OwnerListed args.cluster args.node args.volid owner applied)
      (vacant : Observed True args.cluster args.targetVmid none planned)
      (vacant' : Observed True args.cluster args.targetVmid none applied) :
      Enacts planned applied (.planRestoreNewVmid args) (.applyRestoreNewVmid args') args.cluster
        (Guests.restoreBackupRequest args.node kind args.targetVmid args.volid false)

/-! ### What a plan records -/

/-- The terms a planning tool records, on what it has read. -/
inductive Tool.Plans (h : History Effect) : Tool → Terms → Prop
  | destroy {args : PlanDestroyArgs} {action : DestroyAction} {guest : ResolvedGuest}
      {state : GuestState} {owner : String} (built : buildDestroyAction args = .ok action)
      (observed : Observed True args.cluster args.vmid (some guest) h)
      (read : StateRead args.cluster args.cluster guest state h) :
      Plans h (.planDestroy args)
        ⟨s!"{args.cluster}/{args.vmid}", [action.toJson], owner, fingerprint state⟩
  | haRule {args : PlanHaRuleArgs} {action : HaRuleAction} {existing : Option Json}
      {owner : String} (built : buildHaRuleAction args = .ok action)
      (read : RuleRead args.cluster args.rule existing h) :
      Plans h (.planHaRuleChange args) ⟨haRuleDevice args.cluster args.rule, [action.toJson], owner,
        haRuleFingerprint args.cluster args.rule existing⟩
  | restoreNewVmid {args : PlanRestoreNewVmidArgs} {vmid : UInt32} {action : RestoreNewVmidAction}
      {owner : String} (built : buildRestoreNewVmidAction args vmid = .ok action)
      (listed : OwnerListed args.cluster args.node args.volid vmid h)
      (vacant : Observed True args.cluster args.targetVmid none h) :
      Plans h (.planRestoreNewVmid args) ⟨s!"{args.cluster}/{args.targetVmid}", [action.toJson],
        owner, restoreTargetFingerprint args.cluster args.targetVmid⟩

/-- A change set that an operation creates has terms the tool plans. -/
def Tool.Records (tool : Tool) (h : History Effect) (op : Op) : Prop :=
  ∀ device actions owner fingerprint policy,
    op = .coordinator (.createChangeSet device actions owner fingerprint policy) →
      tool.Plans h ⟨device, actions, owner, fingerprint⟩

section Recording

variable {tool : Tool} {server : ProxmoxServer} {caller : Option CallerCtx} {h : History Effect}

private theorem records_of_quiet {lookups : LookupRule} {op : Op} (hop : Quiet lookups h op) :
    tool.Records h op := by
  rintro device actions owner fingerprint policy rfl
  exact hop.elim

private theorem records_of_reads {op : Op} (hop : op.Reads) : tool.Records h op := by
  rintro device actions owner fingerprint policy rfl
  exact hop.elim

/-- Recording a plan creates one change set, with its terms. -/
private theorem ensures_recordPlan_records {device owner fingerprint preview : String}
    {action : Json} (hplans : tool.Plans h ⟨device, [action], owner, fingerprint⟩) :
    Ensures tool.Records (fun _ _ => True) h
      (recordPlan device action owner fingerprint preview) := by
  refine Ensures.request ?_ fun _ => Ensures.liftExcept fun _ _ => Ensures.request ?_ fun _ =>
    Ensures.required fun _ _ => Ensures.request ?_ fun _ => Ensures.liftExcept fun _ _ =>
    ensures_pure.mpr trivial
  · rintro _ _ _ _ _ ⟨⟩
    exact hplans
  · rintro _ _ _ _ _ ⟨⟩
  · rintro _ _ _ _ _ ⟨⟩

namespace ProxmoxServer

private theorem ensures_planDestroy_records (args : PlanDestroyArgs) :
    Ensures (Tool.planDestroy args).Records (fun _ _ => True) h
      (server.planDestroy caller args) := by
  refine Ensures.liftExcept fun _ _ => Ensures.liftExcept fun client hclient =>
    Ensures.liftExcept fun grant _ => ?_
  have hname : client.name = args.cluster := name_of_clientFor hclient
  refine Ensures.bind (@ensures_invalidateCluster _ _ (fun _ _ _ => True) args.cluster h)
    (fun _ _ hop => records_of_quiet hop) fun h₁ _ _ hdropped => ?_
  have hverdict := @ensures_authorizeWithOverride server _ (fun _ _ _ => True) client args.vmid
    grant (.ok args.op) (principalOf caller) .destructive h₁ True False (fun _ _ => trivial)
    (fun _ => by rwa [hname]) False.elim fun _ => rfl
  rw [hname] at hverdict
  refine Ensures.bind hverdict (fun _ _ hop => records_of_quiet hop) fun h₂ verdict _ hanswer =>
    Ensures.liftExcept fun action haction => ?_
  refine Ensures.bind (ensures_checkPlannedOwner _ _ _ _) (fun _ _ hop => records_of_reads hop)
    fun h₃ _ hh₃ _ => ?_
  refine Ensures.bind (ensures_checkPlannable _ _ _ _) (fun _ _ hop => records_of_reads hop)
    fun h₄ _ hh₄ _ => Ensures.required fun tool _ => Ensures.liftExcept fun _ _ =>
    Ensures.liftExcept fun _ _ => ?_
  refine Ensures.bind ensures_readGuestState (fun _ _ hop => records_of_reads hop)
    fun h₅ state hh₅ hstate => ?_
  obtain ⟨hclient', -, -, -, _, -, hauthorized⟩ := hanswer
  -- the guest was listed after the listing was dropped
  have hobserved := hauthorized.admitted.observed.mono (hh₃.trans (hh₄.trans hh₅)) id
  rw [hclient', hname] at hobserved
  have hplans : (Tool.planDestroy args).Plans h₅ ⟨s!"{args.cluster}/{args.vmid}",
      [action.toJson], callerName caller, fingerprint state⟩ :=
    .destroy (eq_ok_of_mapError haction) hobserved (hname ▸ hstate)
  refine Ensures.bind (ensures_recordPlan_records hplans) (fun _ _ hop => hop)
    fun h₆ output _ _ => ?_
  -- a waiver is no creation
  refine Ensures.bind (R := fun _ _ => True) ?_ (fun _ _ hop => hop)
    fun _ _ _ _ => ensures_pure.mpr trivial
  cases verdict.override with
  | labMode =>
    refine Ensures.request ?_ fun _ => ensures_liftExcept.mpr fun _ _ => trivial
    rintro _ _ _ _ _ ⟨⟩
  | _ => exact ensures_pure.mpr trivial

private theorem ensures_planHaRuleChange_records (args : PlanHaRuleArgs) :
    Ensures (Tool.planHaRuleChange args).Records (fun _ _ => True) h
      (server.planHaRuleChange caller args) := by
  refine Ensures.liftExcept fun _ _ => Ensures.liftExcept fun client hclient =>
    Ensures.liftExcept fun action haction => Ensures.required fun tool _ =>
    Ensures.liftExcept fun _ _ => Ensures.liftExcept fun _ _ => ?_
  have hname : client.name = args.cluster := name_of_clientFor hclient
  refine Ensures.bind ensures_readCurrentRule (fun _ _ hop => records_of_reads hop)
    fun h₁ existing _ hexisting => Ensures.liftExcept fun _ _ => ?_
  rw [hname] at hexisting
  rw [← hname]
  refine Ensures.bind ensures_authorizeHaRuleGuests (fun _ _ hop => records_of_quiet hop)
    fun h₂ _ hh₂ _ => ?_
  rw [hname]
  have hplans : (Tool.planHaRuleChange args).Plans h₂ ⟨haRuleDevice args.cluster args.rule,
      [action.toJson], callerName caller, haRuleFingerprint args.cluster args.rule existing⟩ :=
    .haRule (eq_ok_of_mapError haction) (hexisting.mono hh₂)
  exact Ensures.bind (ensures_recordPlan_records hplans) (fun _ _ hop => hop)
    fun _ _ _ _ => ensures_pure.mpr trivial

private theorem ensures_planRestoreNewVmid_records (args : PlanRestoreNewVmidArgs) :
    Ensures (Tool.planRestoreNewVmid args).Records (fun _ _ => True) h
      (server.planRestoreNewVmid caller args) := by
  refine Ensures.liftExcept fun _ _ => Ensures.liftExcept fun _ _ =>
    Ensures.liftExcept fun client hclient => Ensures.liftExcept fun grant _ =>
    Ensures.ensure fun _ => Ensures.liftExcept fun _ _ => ?_
  have hname : client.name = args.cluster := name_of_clientFor hclient
  refine Ensures.bind (ensures_mapError.mpr ensures_resolveBackupOwner)
    (fun _ _ hop => records_of_reads hop) fun h₁ owner _ hlisted => ?_
  have howner := @ensures_authorizeBackupOwner _ server client grant h₁ owner args.volid
    (principalOf caller)
  rw [hname] at hlisted howner
  refine Ensures.bind howner (fun _ _ hop => records_of_quiet hop) fun h₂ _ hh₂ _ =>
    Ensures.liftExcept fun action haction => ?_
  replace haction := eq_ok_of_mapError haction
  have htarget : action.targetVmid = args.targetVmid :=
    congrArg _ (eq_of_buildRestoreNewVmidAction haction)
  refine Ensures.bind ensures_requireRestoreTarget (fun _ _ hop => hop) fun h₃ _ _ hh₃ => ?_
  obtain ⟨rfl, -, -⟩ := hh₃
  have hfree {taken unknown : String → String} := @ensures_requireFree _ client h₂ args.targetVmid
    taken unknown
  rw [hname] at hfree
  rw [htarget]
  refine Ensures.bind hfree (fun _ _ hop => records_of_quiet hop) fun h₄ _ hh₄ hvacant => ?_
  have hplans : (Tool.planRestoreNewVmid args).Plans h₄ ⟨s!"{args.cluster}/{args.targetVmid}",
      [action.toJson], callerName caller, restoreTargetFingerprint args.cluster args.targetVmid⟩ :=
    .restoreNewVmid haction (hlisted.mono (hh₂.trans hh₄)) hvacant
  exact Ensures.bind (ensures_recordPlan_records hplans) (fun _ _ hop => hop)
    fun _ _ _ _ => ensures_pure.mpr trivial

end ProxmoxServer

/-- **Every tool records what it plans.** -/
theorem ensures_serve_records (tool : Tool) :
    Ensures tool.Records (fun _ _ => True) [] (server.serve caller tool) := by
  have hnone {policy : Policy} (hpolicy : tool.policy server caller = policy)
      (hrecords : ∀ h device actions owner fingerprint signature, ¬ policy.records h
        (.createChangeSet device actions owner fingerprint signature)) :
      Ensures tool.Records (fun _ _ => True) [] (server.serve caller tool) := by
    refine (ensures_serve tool).mono (fun h op hop => ?_) fun _ _ _ => trivial
    rintro device actions owner fingerprint signature rfl
    exact absurd (hpolicy ▸ hop) (hrecords h device actions owner fingerprint signature)
  cases tool with
  | planDestroy args => exact ProxmoxServer.ensures_planDestroy_records args
  | planHaRuleChange args => exact ProxmoxServer.ensures_planHaRuleChange_records args
  | planRestoreNewVmid args => exact ProxmoxServer.ensures_planRestoreNewVmid_records args
  | _ => exact hnone rfl fun _ _ _ _ _ _ => id

end Recording

/-! ### What an apply sends -/

omit [Externals] in
/-- The device of a guest names it. -/
private theorem guestDevice_inj {cluster other : String} {vmid number : UInt32}
    (h : s!"{cluster}/{vmid}" = s!"{other}/{number}") : cluster = other ∧ vmid = number := by
  rw [← Target.device_guest, ← Target.device_guest] at h
  have htext : cluster.toList ++ '/' :: (Target.guest vmid).key.toList =
      other.toList ++ '/' :: (Target.guest number).key.toList := by
    simpa [Target.device] using congrArg String.toList h
  have hfree (vmid : UInt32) : '/' ∉ (Target.guest vmid).key.toList :=
    fun hmem => absurd (Target.isDigit_of_mem_key hmem) (by decide)
  obtain ⟨hcluster, hkey⟩ := append_cons_inj_of_notMem (hfree vmid) (hfree number) htext
  exact ⟨String.toList_inj.mp hcluster,
    Target.guest.inj (Target.key_injective (String.toList_inj.mp hkey))⟩

section Sending

variable {server : ProxmoxServer} {caller : Option CallerCtx} {plan tool : Tool} {call : ApplyCall}
  {planned applied : History Effect} {client : String} {request : ApiRequest} {terms : Terms}

omit [Externals] in
/-- A stored action that reads as one of a family was stored by that family. -/
private theorem family_eq_of_stored {family family' : Family} {action : Json} {α : Type}
    {read : Json → Option α} {value : α} (hstores : family.Stores action)
    (hactions : terms.actions = [action])
    (hread : terms.actions.head?.bind read = some value)
    (hreads : ∀ raw, (read raw).isSome → family'.Reads raw) : family = family' := by
  rw [hactions] at hread
  exact Family.eq_of_reads hstores (hreads action (Option.isSome_iff_exists.mpr ⟨value, hread⟩))

private theorem enacts_destroy {args : ChangeSetArgs} {action : DestroyAction}
    {guest : ResolvedGuest}
    {state : GuestState} (hplans : plan.Plans planned terms) (hdevice : terms.device = args.device)
    (hstored : terms.actions.head?.bind DestroyAction.fromJson = some action)
    (hobserved : Observed True args.cluster args.vmid (some guest) applied)
    (hread : StateRead args.cluster args.cluster guest state applied)
    (hfingerprint : fingerprint state = terms.fingerprint)
    (hsent : DestructiveRequest args.cluster action guest.type guest.node args.vmid applied
      request) :
    Enacts planned applied plan (.applyChangeSet args) args.cluster request := by
  have hfamily {family : Family} {raw : Json} (hstores : family.Stores raw)
      (hactions : terms.actions = [raw]) : family = .destroy :=
    family_eq_of_stored hstores hactions hstored fun _ hreads => hreads
  cases hplans with
  | destroy hbuilt hobserved' hread' =>
    obtain ⟨hcluster, hvmid⟩ := guestDevice_inj hdevice
    obtain rfl := Option.some.inj (DestroyAction.fromJson_toJson.symm.trans hstored)
    rw [← hcluster] at hobserved hread hsent ⊢
    rw [← hvmid] at hobserved hsent
    exact .destroy hcluster.symm hvmid.symm hbuilt hobserved' hobserved hread' hread hfingerprint
      hsent
  | haRule => exact nomatch hfamily (.haRule _) rfl
  | restoreNewVmid => exact nomatch hfamily (.restoreNewVmid _) rfl

private theorem enacts_haRule {args : HaChangeSetArgs} {action : HaRuleAction}
    {existing : Option Json} (hplans : plan.Plans planned terms)
    (hdevice : terms.device = haRuleDevice args.cluster args.rule)
    (hstored : terms.actions.head?.bind HaRuleAction.fromJson = some action)
    (hread : RuleRead args.cluster args.rule existing applied)
    (hfingerprint : haRuleFingerprint args.cluster args.rule existing = terms.fingerprint)
    (hsent : HaRuleRequest action existing request) :
    Enacts planned applied plan (.applyHaRuleChange args) args.cluster request := by
  have hfamily {family : Family} {raw : Json} (hstores : family.Stores raw)
      (hactions : terms.actions = [raw]) : family = .haRule :=
    family_eq_of_stored hstores hactions hstored fun _ hreads => hreads
  cases hplans with
  | destroy => exact nomatch hfamily (.destroy _) rfl
  | haRule hbuilt hread' =>
    obtain rfl := Option.some.inj (HaRuleAction.fromJson_toJson.symm.trans hstored)
    exact .haRule hdevice.symm hbuilt hread' hread hfingerprint hsent
  | restoreNewVmid => exact nomatch hfamily (.restoreNewVmid _) rfl

private theorem enacts_restoreNewVmid {args : ChangeSetArgs} {action : RestoreNewVmidAction}
    {kind : GuestType} (hplans : plan.Plans planned terms) (hdevice : terms.device = args.device)
    (hstored : terms.actions.head?.bind RestoreNewVmidAction.fromJson = some action)
    (hkind : action.guestType = some kind)
    (hlisted : OwnerListed args.cluster action.node action.volid action.ownerVmid applied)
    (hvacant : Observed True args.cluster action.targetVmid none applied) :
    Enacts planned applied plan (.applyRestoreNewVmid args) args.cluster
      (Guests.restoreBackupRequest action.node kind action.targetVmid action.volid false) := by
  have hfamily {family : Family} {raw : Json} (hstores : family.Stores raw)
      (hactions : terms.actions = [raw]) : family = .restoreNewVmid :=
    family_eq_of_stored hstores hactions hstored fun _ hreads => hreads
  cases hplans with
  | destroy => exact nomatch hfamily (.destroy _) rfl
  | haRule => exact nomatch hfamily (.haRule _) rfl
  | restoreNewVmid hbuilt hlisted' hvacant' =>
    obtain ⟨hcluster, hvmid⟩ := guestDevice_inj hdevice
    obtain rfl := Option.some.inj (RestoreNewVmidAction.fromJson_toJson.symm.trans hstored)
    obtain rfl := eq_of_buildRestoreNewVmidAction hbuilt
    rw [← hcluster] at hlisted hvacant ⊢
    exact .restoreNewVmid hcluster.symm hvmid.symm hbuilt hkind hlisted' hlisted hvacant' hvacant

/-- **What an apply sends enacts the plan** whose record it has read. -/
theorem enacts_of_sends {served : Served}
    (hserved : served = ⟨server, .serve caller tool⟩) (hcall : served.applyCall = some call)
    (hsends : served.policy.sends applied client request) :
    ∃ record claimed, call.Ready record claimed applied ∧ ∀ planned plan,
      Tool.Plans planned plan record.terms → record.device = call.device →
        Enacts planned applied plan tool client request := by
  subst hserved
  cases tool with
  | applyChangeSet args =>
    obtain rfl := Option.some.inj hcall
    obtain ⟨rfl, record, claimed, hready, action, authorization, hauthorized, hsent⟩ := hsends
    obtain ⟨op, -, hadmitted⟩ := hauthorized.authorized
    obtain ⟨state, hstate, hfingerprint⟩ := hauthorized.planned
    have hobserved := hadmitted.admitted.observed
    rw [ProxmoxServer.name_of_clientNamed hauthorized.client] at hobserved
    exact ⟨record, claimed, hready, fun planned plan hplans hdevice => enacts_destroy hplans hdevice
      hauthorized.stored hobserved hstate hfingerprint hsent⟩
  | applyHaRuleChange args =>
    obtain rfl := Option.some.inj hcall
    obtain ⟨rfl, record, claimed, hready, action, existing, _, _, hauthorized, hsent⟩ := hsends
    exact ⟨record, claimed, hready, fun planned plan hplans hdevice => enacts_haRule hplans hdevice
      hauthorized.stored hauthorized.planned.1 hauthorized.planned.2 hsent⟩
  | applyRestoreNewVmid args =>
    obtain rfl := Option.some.inj hcall
    obtain ⟨rfl, record, claimed, hready, action, _, _, kind, hauthorized, hkind, rfl⟩ := hsends
    exact ⟨record, claimed, hready, fun planned plan hplans hdevice => enacts_restoreNewVmid hplans
      hdevice hauthorized.stored hkind hauthorized.listed hauthorized.vacant⟩
  | _ => cases hcall

end Sending

/-! ### Runs -/

section Runs

variable {coordinator : Coordinator} {ttl : ℕ}

/-- Every tool call records what it plans. -/
def recordGuarantee (coordinator : Coordinator) (ttl : ℕ) :
    Guarantee (serverMachine coordinator ttl) where
  op served h op := ∀ caller tool, served.call = .serve caller tool → tool.Records h op
  result _ _ _ := True
  keeps served := by
    obtain ⟨server, call⟩ := served
    cases call with
    | serve caller tool =>
      refine Always.mono (@ensures_serve_records _ server caller tool) ?_ fun _ _ _ => trivial
      rintro _ _ hop _ _ ⟨⟩
      exact hop
    | recover => exact (always_true _ _).mono (by rintro _ _ - _ _ ⟨⟩) fun _ _ _ => trivial
    | reload => exact (always_true _ _).mono (by rintro _ _ - _ _ ⟨⟩) fun _ _ _ => trivial

variable {pool : Pool (serverMachine coordinator ttl)} {server : ProxmoxServer}
  {caller : Option CallerCtx} {tool : Tool} {call : ApplyCall}

/-- A call for `caller` has recorded the change set `key` with the tool `plan`, when it had seen
`planned`. -/
inductive RecordedBy (trace : ServerTrace) (key : String) :
    Option CallerCtx → Tool → History Effect → Prop
  | intro {id : ℕ} {server : ProxmoxServer} {caller : Option CallerCtx} {plan : Tool}
      {newer older : ServerTrace} {device fingerprint policy : String} {actions : List Json}
      {output : ChangeSetOutput} (start : .start id ⟨server, .serve caller plan⟩ ∈ trace)
      (created : trace = newer ++ .event id ⟨.coordinator (.createChangeSet device actions
        (callerName caller) fingerprint policy), .ok output⟩ :: older)
      (named : output.changeSetId = key) : RecordedBy trace key caller plan (historyOf id older)

omit [Externals] in
/-- A call that plans is a tool call. -/
theorem Served.exists_serve_of_planCall {served : Served} {plan : PlanCall}
    (h : served.planCall = some plan) :
    ∃ server tool, served = ⟨server, .serve plan.caller tool⟩ := by
  obtain ⟨server, call⟩ := served
  cases call with
  | recover => cases h
  | reload => cases h
  | serve caller tool =>
    cases tool with
    | planDestroy | planHaRuleChange | planRestoreNewVmid =>
      obtain rfl := Option.some.inj h
      exact ⟨_, _, rfl⟩
    | _ => cases h

/-- A record that was planned was recorded by a call whose tool plans its terms. -/
private theorem exists_recordedBy (h : Reachable (serverMachine coordinator ttl) pool)
    {family : Family} {record : ChangeSet} (hplanned : PlannedBy pool.trace family record) :
    ∃ planner plan planned, RecordedBy pool.trace record.id planner plan planned ∧
      plan.Plans planned record.terms := by
  obtain @⟨id, _, caller, _, policy, output, hstart, hplan, -, -, howner, hnamed, hevent⟩ :=
    hplanned
  obtain ⟨server, plan, rfl⟩ := Served.exists_serve_of_planCall hplan
  obtain ⟨newer, older, hcreated⟩ := List.append_of_mem hevent
  obtain ⟨planner, hplanner, hrecords⟩ := h.performed (recordGuarantee coordinator ttl) hcreated
  have hmem : Entry.start id planner ∈ pool.trace := by
    rw [hcreated]
    exact List.mem_append_right _ (.tail _ hplanner)
  obtain rfl := h.start_unique hstart hmem
  have hplans := hrecords caller plan rfl _ _ _ _ policy rfl
  rw [howner] at hcreated
  exact ⟨caller, plan, historyOf id older, .intro hstart hcreated hnamed, hplans⟩

/-- **What is applied is what was planned**: in every run over a lawful coordinator, whatever runs
in between, a request with which an apply may change a cluster enacts a plan that was recorded
before, under the id that the apply was given. -/
theorem enacts_of_event (laws : coordinator.Lawful)
    (h : Reachable (serverMachine coordinator ttl) pool) {newer older : ServerTrace}
    {id ticket : ℕ} {client : String} {request : ApiRequest}
    (htrace : pool.trace = newer ++ .event id ⟨.http (.dispatch client request), ticket⟩ :: older)
    (hmutating : request.Mutating)
    (hstart : .start id ⟨server, .serve caller tool⟩ ∈ pool.trace)
    (hcall : Served.applyCall ⟨server, .serve caller tool⟩ = some call) :
    ∃ planner plan planned, RecordedBy older call.changeSetId planner plan planned ∧
      Enacts planned (historyOf id older) plan tool client request := by
  obtain ⟨record, claimed, hready, henacts⟩ :=
    enacts_of_sends rfl hcall (sends_of_event h htrace hstart hmutating)
  have hsuffix : older <:+ pool.trace :=
    ⟨newer ++ [.event id ⟨.http (.dispatch client request), ticket⟩], by simp [htrace]⟩
  obtain ⟨before, hbefore, rfl⟩ := h.of_suffix hsuffix
  -- the record that was read is one that was planned
  have hread := mem_historyOf_iff.mp hready.reviewed.1
  obtain ⟨hid, hdevice, htracked⟩ := (kept_of_reachable laws hbefore).answered hread .read
  obtain ⟨family, hplanned⟩ := htracked.planned
  obtain ⟨planner, plan, planned, hrecorded, hplans⟩ := exists_recordedBy hbefore hplanned
  exact ⟨planner, plan, planned, hid ▸ hrecorded, henacts planned plan hplans hdevice⟩

end Runs

/-! ### The plan of a copy -/

omit [Externals] in
/-- The copy that is planned, approved and applied enacts its plan. -/
theorem enacts_copyCall : ∃ planned applied plan, @Enacts Externals.plain planned applied plan
    (.applyRestoreNewVmid ⟨"cs-1", "pve", 901⟩) "pve" copyRequest := by
  let _ : Externals := Externals.plain
  obtain ⟨pool, hpool, -, -, hstart, hsent⟩ := exists_reachable_copy
  obtain ⟨newer, older, htrace⟩ := List.append_of_mem hsent
  obtain ⟨planner, plan, planned, -, henacts⟩ :=
    enacts_of_event Coordinator.lawful_inMemory hpool htrace (by decide) hstart rfl
  exact ⟨planned, historyOf 2 older, plan, henacts⟩

end ProxmoxMcp
