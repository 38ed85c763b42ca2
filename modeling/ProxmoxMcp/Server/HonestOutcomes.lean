import ProxmoxMcp.Server.AppliesOnce
import ProxmoxMcp.Server.ApplySteps
import ProxmoxMcp.Server.Devices
import ProxmoxMcp.Server.TaskPaths

/-!
# Outcomes are honest

A claimed record is applying until something is known of its change. `HonestOutcomes` says that it
is settled by nothing else: as **applied** by an acceptance that named no task or whose task ended
well, as **failed** by a refusal, by a task that ended otherwise, or with nothing sent at all. A
task that an answer names is written to the record before anything else is done, and stays there
while the record is applying.

Two things can go wrong, and `ClearRun` excludes them. A recovery asks the cluster that the device
names **before its first slash**, which may be another one than the change was made on. And a handle
that is not plain makes another address of the status of its task.
-/

namespace ProxmoxMcp

open Interaction Text
open Program hiding bind

variable [Externals]

/-! ### Outcomes -/

/-- An apply has claimed a record. -/
structure ClaimedIn (trace : ServerTrace) (key : String) (id : ℕ) (served : Served)
    (call : ApplyCall) (claimed : ChangeSet) : Prop where
  start : .start id served ∈ trace
  apply : served.applyCall = some call
  claim : ∃ device,
    .event id ⟨.coordinator (.claimChangeSetForApply key device), .ok claimed⟩ ∈ trace

/-- The check of the owner of an archive has stopped the call. -/
def Served.Refuses : Served → History Effect → Prop
  | ⟨server, .serve caller (.applyChangeSet args)⟩, h => server.OwnershipRefused caller args h
  | _, _ => False

/-- A task has ended: the cluster was asked for it by its address, and a status reply that does not
report it as running has carried this exit status. -/
def TaskEnded (trace : ServerTrace) (cluster upid exitstatus : String) : Prop :=
  ∃ id task, Upid.parse upid = .ok task ∧
    Addresses (statusRequest task.node upid).pathTemplate (tasksOf task.node ++ [upid, "status"]) ∧
    Exited cluster upid exitstatus (historyOf id trace)

/-- What makes a change applied. -/
inductive AppliedFor (trace : ServerTrace) (id : ℕ) (call : ApplyCall) : Prop
  | haRule {data : Json} (family : call.family = .haRule)
      (accepted : Accepted call.cluster data (historyOf id trace))
  | unnamed {data : Json} (unnamed : data.asStr.getD "" = "")
      (accepted : Accepted call.cluster data (historyOf id trace))
  | ended {upid : String} (accepted : Accepted call.cluster (.string upid) (historyOf id trace))
      (ended : TaskEnded trace call.cluster upid "OK")

/-- What makes a change failed. -/
inductive FailedFor (trace : ServerTrace) (id : ℕ) (served : Served) (call : ApplyCall)
    (claimed : ChangeSet) : Prop
  | refused (refused : Refused call.cluster (historyOf id trace))
  | unowned (unsent : Unsent (historyOf id trace)) (written : ¬ Unwritten (historyOf id trace))
      (refuses : served.Refuses (historyOf id trace))
  | unrecorded {error : String} (unsent : Unsent (historyOf id trace))
      (written : ¬ Unwritten (historyOf id trace))
      (intent : ⟨.evidence (.applyIntent call.requestId claimed.id claimed.device call.principal),
        .error error⟩ ∈ historyOf id trace)
  | ended {upid exitstatus : String} (other : exitstatus ≠ "OK")
      (accepted : Accepted call.cluster (.string upid) (historyOf id trace))
      (ended : TaskEnded trace call.cluster upid exitstatus)

/-- **Honest outcomes** of a run that has left these records. -/
structure HonestOutcomes (find : String → Option ChangeSet) (trace : ServerTrace) : Prop where
  /-- A claimed record is applying until something settles it. -/
  settled : ∀ {key id served call claimed record}, ClaimedIn trace key id served call claimed →
    find key = some record → record.state = .applying ∨
      record.state = .applied ∧ AppliedFor trace id call ∨
      record.state = .failed ∧ FailedFor trace id served call claimed
  /-- When the cluster has named a task, the next thing is to write the handle. -/
  named : ∀ {newer older id served call event upid task},
    trace = newer ++ .event id event :: older → .start id served ∈ trace →
    served.applyCall = some call → call.family ≠ .haRule →
    JustAnswered call.cluster (.string upid) (historyOf id older) → Upid.parse upid = .ok task →
      ∃ key claimed reply, ClaimedIn older key id served call claimed ∧
        event = ⟨.coordinator (.updateChangeSet { claimed with taskId := some upid }), reply⟩
  /-- A handle that was written stays while the record is applying. -/
  kept : ∀ {key id served call claimed upid record}, ClaimedIn trace key id served call claimed →
    .event id ⟨.coordinator (.updateChangeSet { claimed with taskId := some upid }), .ok ()⟩ ∈
      trace → find key = some record → record.state = .applying → record.taskId = some upid

/-! ### Clear runs -/

/-- What keeps the outcomes of a run clear. -/
structure ClearRun (trace : ServerTrace) : Prop where
  /-- No recovery knows a cluster by the part before the first slash of the name of a cluster that
  an apply was called for. -/
  clusters : ∀ {id id' served recovery call cluster rest}, .start id served ∈ trace →
    served.applyCall = some call → .start id' recovery ∈ trace → recovery.call = .recover →
    splitOnce call.cluster '/' = some (cluster, rest) → recovery.server.clientNamed cluster = none
  /-- The handles that the answers to an apply name are plain. -/
  handles : ∀ {id served call ticket response upid task}, .start id served ∈ trace →
    served.applyCall = some call → .event id ⟨.http (.await ticket), .ok response⟩ ∈ trace →
    ProxmoxClient.readAnswer response = .ok (.string upid) → Upid.parse upid = .ok task →
    PlainHandle upid task

section Traces

variable {trace : ServerTrace} {entry : Entry Effect Served CallResult} {key : String} {id : ℕ}
  {served : Served} {call : ApplyCall} {claimed : ChangeSet}

omit [Externals] in
theorem ClaimedIn.cons (hc : ClaimedIn trace key id served call claimed) :
    ClaimedIn (entry :: trace) key id served call claimed :=
  ⟨List.mem_cons_of_mem _ hc.start, hc.apply, hc.claim.imp fun _ => List.mem_cons_of_mem _⟩

theorem ClearRun.of_cons (hc : ClearRun (entry :: trace)) : ClearRun trace where
  clusters hstart hcall hstart' hrecover hsplit := hc.clusters (List.mem_cons_of_mem _ hstart) hcall
    (List.mem_cons_of_mem _ hstart') hrecover hsplit
  handles hstart hcall hevent hread hparse := hc.handles (List.mem_cons_of_mem _ hstart) hcall
    (List.mem_cons_of_mem _ hevent) hread hparse

omit [Externals] in
theorem historyOf_suffix_cons : historyOf id trace <:+ historyOf id (entry :: trace) :=
  historyOf_suffix (List.suffix_cons _ _)

theorem TaskEnded.cons {cluster upid exitstatus : String}
    (he : TaskEnded trace cluster upid exitstatus) :
    TaskEnded (entry :: trace) cluster upid exitstatus := by
  obtain ⟨id, task, hparse, haddress, hexited⟩ := he
  exact ⟨id, task, hparse, haddress, hexited.mono historyOf_suffix_cons⟩

theorem AppliedFor.cons (ha : AppliedFor trace id call) : AppliedFor (entry :: trace) id call := by
  cases ha with
  | haRule hfamily haccepted => exact .haRule hfamily (haccepted.mono historyOf_suffix_cons)
  | unnamed hunnamed haccepted => exact .unnamed hunnamed (haccepted.mono historyOf_suffix_cons)
  | ended haccepted hended => exact .ended (haccepted.mono historyOf_suffix_cons) hended.cons

/-- An apply that has written a record sends nothing any more. -/
def Orderly (trace : ServerTrace) (entry : Entry Effect Served CallResult) : Prop :=
  ∀ id served call op reply, .start id served ∈ trace → served.applyCall = some call →
    entry = .event id ⟨op, reply⟩ → op.Mutates → Unwritten (historyOf id trace)

omit [Externals] in
theorem ClaimedIn.unsent_cons (hc : ClaimedIn trace key id served call claimed)
    (horderly : Orderly trace entry) (hunsent : Unsent (historyOf id trace))
    (hwritten : ¬ Unwritten (historyOf id trace)) : Unsent (historyOf id (entry :: trace)) := by
  cases entry with
  | event id' event =>
    by_cases hid : id' = id
    · subst hid
      rw [historyOf_event_self]
      exact hunsent.cons fun hmutates =>
        hwritten (horderly _ _ _ _ _ hc.start hc.apply rfl hmutates)
    · rwa [historyOf_event_of_ne hid]
  | _ => exact hunsent

theorem Served.Refuses.mono {h h' : History Effect} (hr : served.Refuses h) (hh : h <:+ h') :
    served.Refuses h' := by
  obtain ⟨server, call⟩ := served
  cases call with
  | serve caller tool =>
    cases tool with
    | applyChangeSet args =>
      obtain ⟨record, action, client, node, hread, hstored, hclient, hfailed⟩ := hr
      exact ⟨record, action, client, node, hread.mono hh, hstored, hclient, hfailed.mono hh⟩
    | _ => exact hr.elim
  | _ => exact hr.elim

omit [Externals] in
private theorem not_unwritten_cons (hwritten : ¬ Unwritten (historyOf id trace)) :
    ¬ Unwritten (historyOf id (entry :: trace)) :=
  fun hunwritten => hwritten fun updated reply hmem =>
    hunwritten updated reply (historyOf_suffix_cons.subset hmem)

theorem FailedFor.cons (hf : FailedFor trace id served call claimed)
    (hc : ClaimedIn trace key id served call claimed) (horderly : Orderly trace entry) :
    FailedFor (entry :: trace) id served call claimed := by
  cases hf with
  | refused hrefused => exact .refused (hrefused.mono historyOf_suffix_cons)
  | unowned hunsent hwritten hrefuses =>
    exact .unowned (hc.unsent_cons horderly hunsent hwritten) (not_unwritten_cons hwritten)
      (hrefuses.mono historyOf_suffix_cons)
  | unrecorded hunsent hwritten hintent =>
    exact .unrecorded (hc.unsent_cons horderly hunsent hwritten) (not_unwritten_cons hwritten)
      (historyOf_suffix_cons.subset hintent)
  | ended hother haccepted hended =>
    exact .ended hother (haccepted.mono historyOf_suffix_cons) hended.cons

end Traces

/-! ### Records whose state is honest -/

/-- The state and the handle of a record rest on what has happened. -/
structure Honest (trace : ServerTrace) (record : ChangeSet) : Prop where
  applied : record.state = .applied → ∃ id served call claimed,
    ClaimedIn trace record.id id served call claimed ∧ AppliedFor trace id call
  failed : record.state = .failed → ∃ id served call claimed,
    ClaimedIn trace record.id id served call claimed ∧ FailedFor trace id served call claimed
  handled : ∀ upid, record.taskId = some upid → ∃ id served call claimed,
    ClaimedIn trace record.id id served call claimed ∧ record.device = call.device ∧
      Accepted call.cluster (.string upid) (historyOf id trace)

section Records

variable {trace : ServerTrace} {entry : Entry Effect Served CallResult} {record updated : ChangeSet}

theorem Honest.cons (hh : Honest trace record) (horderly : Orderly trace entry) :
    Honest (entry :: trace) record where
  applied hstate := by
    obtain ⟨id, served, call, claimed, hclaimed, happlied⟩ := hh.applied hstate
    exact ⟨id, served, call, claimed, hclaimed.cons, happlied.cons⟩
  failed hstate := by
    obtain ⟨id, served, call, claimed, hclaimed, hfailed⟩ := hh.failed hstate
    exact ⟨id, served, call, claimed, hclaimed.cons, hfailed.cons hclaimed horderly⟩
  handled upid hupid := by
    obtain ⟨id, served, call, claimed, hclaimed, hdevice, haccepted⟩ := hh.handled upid hupid
    exact ⟨id, served, call, claimed, hclaimed.cons, hdevice, haccepted.mono historyOf_suffix_cons⟩

/-- A record that is neither applied nor failed keeps the honesty of its handle. -/
theorem Honest.restated (hh : Honest trace record) (hid : updated.id = record.id)
    (hdevice : updated.device = record.device) (htask : updated.taskId = record.taskId)
    (happlied : updated.state ≠ .applied) (hfailed : updated.state ≠ .failed) :
    Honest trace updated where
  applied hstate := absurd hstate happlied
  failed hstate := absurd hstate hfailed
  handled upid hupid := by
    rw [hid, hdevice]
    exact hh.handled upid (htask ▸ hupid)

end Records

/-! ### What calls write -/

/-- What a call may write to a record. -/
inductive Served.Updates (served : Served) (h : History Effect) (updated : ChangeSet) : Prop
  | settles {call : ApplyCall} {claimed : ChangeSet} (apply : served.applyCall = some call)
      (claim : call.Claimed claimed h) (settles : call.Settles served.Refuses claimed h updated)
  | previews {plan : PlanCall} (plan : served.planCall = some plan)
      (previews : PlanCall.Previews h updated)
  | recovers (recover : served.call = .recover) (recovers : Recovers h updated)

section Calls

variable {served : Served} {h : History Effect}

theorem Served.updates {updated : ChangeSet}
    (hrecords : served.policy.records h (.updateChangeSet updated)) :
    served.Updates h updated := by
  obtain ⟨server, call⟩ := served
  cases call with
  | recover => exact .recovers rfl hrecords
  | reload => exact hrecords.elim
  | serve caller tool =>
    cases tool with
    | planDestroy args => exact .previews rfl hrecords
    | planHaRuleChange args => exact .previews rfl hrecords
    | planRestoreNewVmid args => exact .previews rfl hrecords
    | applyChangeSet args =>
      obtain ⟨claimed, hclaimed, hsettles⟩ := hrecords
      exact .settles rfl hclaimed hsettles
    | applyHaRuleChange args =>
      obtain ⟨claimed, hclaimed, hsettles⟩ := hrecords
      exact .settles rfl hclaimed hsettles
    | applyRestoreNewVmid args =>
      obtain ⟨claimed, hclaimed, hsettles⟩ := hrecords
      exact .settles rfl hclaimed hsettles
    | _ => exact hrecords.elim

/-- Only an apply claims, and only a record that it has read with a preview. -/
theorem Served.claims {key device : String}
    (hrecords : served.policy.records h (.claimChangeSetForApply key device)) :
    ∃ call record, served.applyCall = some call ∧ call.Reviewed record h ∧ key = record.id ∧
      device = record.device := by
  obtain ⟨server, call⟩ := served
  cases call with
  | recover => exact hrecords.elim
  | reload => exact hrecords.elim
  | serve caller tool =>
    cases tool with
    | applyChangeSet args =>
      obtain ⟨record, hrecord⟩ := hrecords
      exact ⟨_, record, rfl, hrecord⟩
    | applyHaRuleChange args =>
      obtain ⟨record, hrecord⟩ := hrecords
      exact ⟨_, record, rfl, hrecord⟩
    | applyRestoreNewVmid args =>
      obtain ⟨record, hrecord⟩ := hrecords
      exact ⟨_, record, rfl, hrecord⟩
    | _ => exact hrecords.elim

/-- Every apply keeps the order. -/
theorem Served.always_steps {call : ApplyCall} (hcall : served.applyCall = some call) :
    Always call.Steps (fun _ _ => True) [] served.body := by
  have hempty : Untouched [] := ⟨fun _ => nofun, fun _ _ => List.not_mem_nil⟩
  obtain ⟨server, call'⟩ := served
  cases call' with
  | recover => cases hcall
  | reload => cases hcall
  | serve caller tool =>
    cases tool with
    | applyChangeSet args =>
      obtain rfl := Option.some.inj hcall
      exact Always.mono (ensures_applyChangeSet_steps args hempty) (fun _ _ hop => hop)
        fun _ _ _ => trivial
    | applyHaRuleChange args =>
      obtain rfl := Option.some.inj hcall
      exact Always.mono (ensures_applyHaRuleChange_steps args hempty) (fun _ _ hop => hop)
        fun _ _ _ => trivial
    | applyRestoreNewVmid args =>
      obtain rfl := Option.some.inj hcall
      exact Always.mono (ensures_applyRestoreNewVmid_steps args hempty) (fun _ _ hop => hop)
        fun _ _ _ => trivial
    | _ => cases hcall

end Calls

/-! ### What calls are known to do -/

/-- A request goes to a cluster that is configured. -/
def AsksConfigured (server : ProxmoxServer) (op : Op) : Prop :=
  ∀ name request, op = .http (.dispatch name request) → server.clientNamed name ≠ none

/-- What a call is known to do. -/
structure Served.Does (served : Served) (h : History Effect) (op : Op) : Prop where
  allowed : served.policy.Allows h op
  steps : ∀ call, served.applyCall = some call → call.Steps h op
  asks : served.call = .recover → AsksConfigured served.server op

section Calls

variable {server : ProxmoxServer} {served : Served} {h : History Effect}

omit [Externals] in
private theorem clientNamed_of_inFlight {record : ChangeSet} {client : ProxmoxClient} {upid : Upid}
    {taskId : String} (hflight : server.inFlight record = some (client, upid, taskId)) :
    server.clientNamed client.name = some client := by
  simp only [ProxmoxServer.inFlight, Option.bind_eq_bind, Option.bind_eq_some_iff,
    Option.pure_def, Option.some.injEq, Prod.mk.injEq] at hflight
  obtain ⟨-, -, -, -, -, -, ⟨cluster, rest⟩, -, client', hclient, rfl, -⟩ := hflight
  rwa [ProxmoxServer.name_of_clientNamed hclient]

private theorem ensures_recoverInFlight_asksConfigured :
    Ensures (fun _ => AsksConfigured server) (fun _ _ => True) h server.recoverInFlight := by
  refine Ensures.request nofun fun records => ?_
  refine (ensures_forM (I := fun _ => True) (R := fun _ _ => True) trivial
    (fun record _ h _ => ?_) fun _ _ => trivial).mono (fun _ _ hop => hop) fun _ _ _ => trivial
  refine (ensures_recoverRecord_of_sends (fun client upid taskId hflight _ => ?_)
    fun _ op hop => ?_).mono (fun _ _ hop => hop) fun _ _ _ => ⟨trivial, trivial⟩
  · rintro _ _ ⟨⟩
    rw [clientNamed_of_inFlight hflight]
    exact Option.some_ne_none _
  · exact fun name request heq => absurd heq (hop name request)

/-- **What every call does.** -/
theorem Served.always_does (served : Served) :
    Always served.Does (fun _ _ => True) [] served.body := by
  have hsteps : Always (fun h op => ∀ call, served.applyCall = some call → call.Steps h op)
      (fun _ _ => True) [] served.body := by
    cases hcall : served.applyCall with
    | none =>
      exact (Program.always_true _ _).mono (fun _ _ _ _ heq => by cases heq) fun _ _ _ => trivial
    | some call =>
      refine (Served.always_steps hcall).mono (fun _ _ hop => ?_) fun _ _ _ => trivial
      rintro _ ⟨⟩
      exact hop
  have hasks : Always (fun _ op => served.call = .recover → AsksConfigured served.server op)
      (fun _ _ => True) [] served.body := by
    obtain ⟨server, call⟩ := served
    cases call with
    | recover =>
      refine Always.run_bind (R := fun _ _ => True) ?_ (fun _ _ _ => trivial) fun _ _ _ => trivial
      exact Always.mono ensures_recoverInFlight_asksConfigured (fun _ _ hop _ => hop)
        fun _ _ _ => trivial
    | _ => exact (Program.always_true _ _).mono (fun _ _ _ => nofun) fun _ _ _ => trivial
  have hallowed : Always served.policy.Allows (fun _ _ => True) [] served.body :=
    served.call.always_body
  exact ((hallowed.and hsteps).and hasks).mono (fun _ _ hop => ⟨hop.1.1, hop.1.2, hop.2⟩)
    fun _ _ _ => trivial

omit [Externals] in
/-- An apply plans nothing. -/
theorem Served.planCall_eq_none {call : ApplyCall} (hcall : served.applyCall = some call) :
    served.planCall = none := by
  obtain ⟨server, call'⟩ := served
  cases call' with
  | serve caller tool => cases tool <;> first | rfl | cases hcall
  | _ => cases hcall

/-- A plan writes previews. -/
theorem Served.Updates.previews_of_plan {plan : PlanCall} {updated : ChangeSet}
    (hupdates : served.Updates h updated) (hplan : served.planCall = some plan) :
    PlanCall.Previews h updated := by
  cases hupdates with
  | settles hcall _ _ =>
    rw [Served.planCall_eq_none hcall] at hplan
    cases hplan
  | previews _ hpreviews => exact hpreviews
  | recovers hrecover _ =>
    obtain ⟨server, call⟩ := served
    obtain rfl : call = .recover := hrecover
    cases hplan

/-- An apply settles what it has claimed. -/
theorem Served.Updates.settles_of_apply {call : ApplyCall} {updated : ChangeSet}
    (hupdates : served.Updates h updated) (hcall : served.applyCall = some call) :
    ∃ claimed, call.Claimed claimed h ∧ call.Settles served.Refuses claimed h updated := by
  cases hupdates with
  | settles hcall' hclaimed hsettles =>
    obtain rfl := Option.some.inj (hcall.symm.trans hcall')
    exact ⟨_, hclaimed, hsettles⟩
  | previews hplan _ =>
    rw [Served.planCall_eq_none hcall] at hplan
    cases hplan
  | recovers hrecover _ =>
    obtain ⟨server, call'⟩ := served
    obtain rfl : call' = .recover := hrecover
    cases hcall

end Calls

variable {coordinator : Coordinator} {ttl : ℕ}

/-- What the calls of a run are known to do. -/
def outcomeGuarantee (coordinator : Coordinator) (ttl : ℕ) :
    Guarantee (serverMachine coordinator ttl) where
  op served := served.Does
  result _ _ _ := True
  keeps served := served.always_does

/-- What a call has performed it is known to do. -/
theorem does_of_event {pool : Pool (serverMachine coordinator ttl)}
    (h : Reachable (serverMachine coordinator ttl) pool) {id : ℕ} {served : Served} {op : Op}
    {reply : op.Reply} {newer older : ServerTrace}
    (htrace : pool.trace = newer ++ .event id ⟨op, reply⟩ :: older)
    (hstart : .start id served ∈ pool.trace) :
    .start id served ∈ older ∧ served.Does (historyOf id older) op := by
  obtain ⟨served', hstart', hdoes⟩ := h.performed (outcomeGuarantee coordinator ttl) htrace
  have hmem : Entry.start id served' ∈ pool.trace := by
    rw [htrace]
    exact List.mem_append_right _ (.tail _ hstart')
  obtain rfl := h.start_unique hstart hmem
  exact ⟨hstart', hdoes⟩

/-- A call that can change a cluster keeps a run orderly. -/
theorem orderly_of_does {pool : Pool (serverMachine coordinator ttl)}
    (h : Reachable (serverMachine coordinator ttl) pool) {id : ℕ} {served : Served} {op : Op}
    {reply : op.Reply} (hstart : .start id served ∈ pool.trace)
    (hdoes : served.Does (historyOf id pool.trace) op) :
    Orderly pool.trace (.event id ⟨op, reply⟩) := by
  rintro id' served' call op' reply' hstart' hcall heq hmutates
  obtain ⟨rfl, heq⟩ := Entry.event.inj heq
  cases heq
  obtain rfl := h.start_unique hstart hstart'
  exact (hdoes.steps call hcall).sends hmutates

end ProxmoxMcp
