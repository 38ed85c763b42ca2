import ProxmoxMcp.Interaction.Protocol
import ProxmoxMcp.Server.AppliesOnce
import ProxmoxMcp.Server.ApplySteps

/-!
# The protocol of an apply

An apply goes through phases. It reads its record and **reviews** it until it has claimed it; then
it records the intent, **sends** one change, writes the handle of its task and **follows** it,
records a receipt and **settles** the record with the verdict of the receipt. `ApplyCall.Step` is
that protocol, with what may happen in each phase and nothing else; without a recorder the intent
and the receipt are left out.

The three handlers follow it (`follows_apply`), whatever the replies are, and one that succeeds has
settled its record as applied.
-/

namespace ProxmoxMcp

open Interaction Text
open Program hiding bind

/-- How far an apply has come. -/
inductive ApplyPhase where
  | checking
  /-- The record has been read. -/
  | reviewing (record : ChangeSet)
  /-- There is no such record, or another apply holds it. -/
  | refused
  | claimed (record : ChangeSet)
  /-- The intent could not be recorded. -/
  | unrecorded (record : ChangeSet)
  | ready (record : ChangeSet)
  | sent (record : ChangeSet)
  | following (record : ChangeSet)
  | receipted (record : ChangeSet) (succeeded : Bool)
  | settled (record : ChangeSet) (succeeded : Bool)

namespace ApplyPhase

/-- The phases in which an apply reads the cluster. -/
def Reading : ApplyPhase → Prop
  | checking | reviewing _ | ready _ | sent _ | following _ => True
  | _ => False

/-- The phases in which the outcome of a change may be known. Before it is sent it can only have
failed. -/
inductive Known (record : ChangeSet) : ApplyPhase → Bool → Prop
  | ready : Known record (ready record) false
  | sent (succeeded : Bool) : Known record (sent record) succeeded
  | following (succeeded : Bool) : Known record (following record) succeeded

end ApplyPhase

/-- The operation reads a cluster, the cached listings or the clock. -/
def Op.Consults : Op → Prop
  | .index _ | .http (.await _) | .unixNow | .pollWait _ => True
  | .http (.dispatch _ request) => ¬ request.Mutating
  | _ => False

/-- A record as it is written when its outcome is known. -/
def ChangeSet.settle (record : ChangeSet) (succeeded : Bool) (taskId : Option String) :
    ChangeSet :=
  { record with state := if succeeded then .applied else .failed, taskId }

/-- **The protocol of an apply.** -/
inductive ApplyCall.Step [Externals] (call : ApplyCall) :
    ApplyPhase → Event Effect → ApplyPhase → Prop
  | consult {phase op reply} (reading : phase.Reading) (consults : op.Consults) :
      Step call phase ⟨op, reply⟩ phase
  | missed {error} : Step call .checking
      ⟨.coordinator (.changeSet call.changeSetId call.device), .error error⟩ .refused
  | read {record} : Step call .checking
      ⟨.coordinator (.changeSet call.changeSetId call.device), .ok record⟩ (.reviewing record)
  | refused {reviewed error} (previewed : reviewed.preview.isSome)
      (approved : reviewed.state = .approved) : Step call (.reviewing reviewed)
      ⟨.coordinator (.claimChangeSetForApply reviewed.id reviewed.device), .error error⟩ .refused
  | claim {reviewed record} (previewed : reviewed.preview.isSome)
      (approved : reviewed.state = .approved) : Step call (.reviewing reviewed)
      ⟨.coordinator (.claimChangeSetForApply reviewed.id reviewed.device), .ok record⟩
      (if call.server.evidence then .claimed record else .ready record)
  | unrecorded {record error} : Step call (.claimed record) ⟨.evidence (.applyIntent call.requestId
      record.id record.device call.principal), .error error⟩ (.unrecorded record)
  | recorded {record} : Step call (.claimed record) ⟨.evidence (.applyIntent call.requestId
      record.id record.device call.principal), .ok ()⟩ (.ready record)
  | abandon {record reply} : Step call (.unrecorded record)
      ⟨.coordinator (.updateChangeSet (record.settle false record.taskId)), reply⟩
      (.settled record false)
  | send {record request} {ticket : ℕ} (mutating : request.Mutating) : Step call (.ready record)
      ⟨.http (.dispatch call.cluster request), ticket⟩ (.sent record)
  | follow {record upid reply} : Step call (.sent record)
      ⟨.coordinator (.updateChangeSet { record with taskId := some upid }), reply⟩
      (.following record)
  | receipt {phase record succeeded error reply} (recorder : call.server.evidence = true)
      (known : phase.Known record succeeded) : Step call phase ⟨.evidence (.resultReceipt
        call.requestId record.id record.device call.principal succeeded error), reply⟩
      (.receipted record succeeded)
  | settle {record succeeded taskId reply} : Step call (.receipted record succeeded)
      ⟨.coordinator (.updateChangeSet (record.settle succeeded taskId)), reply⟩
      (.settled record succeeded)
  | settleUnreceipted {phase record succeeded taskId reply}
      (recorder : call.server.evidence = false)
      (known : phase.Known record succeeded) : Step call phase
      ⟨.coordinator (.updateChangeSet (record.settle succeeded taskId)), reply⟩
      (.settled record succeeded)

variable [Externals]

/-! ### What leaves the phase as it is -/

section Consulting

variable {call : ApplyCall} {phase : ApplyPhase} {op : Op}

omit [Externals] in
theorem Op.Reads.consults (hop : op.Reads) : op.Consults := by
  cases op with
  | http op => cases op <;> exact hop
  | unixNow | pollWait => trivial
  | _ => exact hop.elim

theorem Quiet.consults {lookups : LookupRule} {h : History Effect} (hop : Quiet lookups h op) :
    op.Consults := by
  cases op with
  | http op => cases op <;> exact hop
  | index | unixNow | pollWait => trivial
  | _ => exact hop.elim

/-- **Code that only consults** leaves the apply in its phase, and hands on what it ensures. -/
theorem leads_of_consults {α β : Type} {G : History Effect → Op → Prop}
    {R : History Effect → α → Prop} {Q : ApplyPhase → β → Prop} {p : ToolM α} {f : α → ToolM β}
    (hreading : phase.Reading) (hp : Ensures G R [] p) (hG : ∀ h op, G h op → op.Consults)
    (hf : ∀ h value, R h value → Leads call.Step Q phase (f value)) :
    Leads call.Step Q phase (p >>= f) := by
  have hstay : Leads call.Step (fun phase' value => phase' = phase ∧ ∃ h, R h value) phase p :=
    hp.leads (fun h op reply hop => .consult hreading (hG h op hop)) fun h value hvalue =>
      ⟨rfl, h, hvalue⟩
  refine hstay.bind fun phase' value hvalue => ?_
  obtain ⟨rfl, h, hvalue⟩ := hvalue
  exact hf h value hvalue

end Consulting

/-! ### Sending -/

/-- What is known of an apply that has tried to send its change: it was sent, unless that failed. -/
inductive ApplyPhase.Tried {α : Type} (record : ChangeSet) :
    ApplyPhase → Except ProxmoxError α → Prop
  | sent {outcome : Except ProxmoxError α} : Tried record (sent record) outcome
  | unsent {error : ProxmoxError} : Tried record (ready record) (.error error)

section Sends

variable {α : Type} {call : ApplyCall} {client : ProxmoxClient} {request : ApiRequest}
  {record : ChangeSet}

/-- The code sends its change once, unless it fails before. -/
abbrev Tries (call : ApplyCall) (record : ChangeSet) (send : ClientM α) : Prop :=
  Follows call.Step (fun phase outcome => phase.Tried record outcome) (.ready record) send.run

/-- One change, sent and read. -/
private theorem tries_send (read : Json → Except ProxmoxError α)
    (hclient : client.name = call.cluster) (hrequest : request.Mutating) :
    Tries call record (do liftM (read (← client.send request))) := by
  have hsend : Tries call record (client.send request) := by
    by_cases hsendable : client.Sendable request
    · rw [Tries, ProxmoxClient.run_send_of_sendable hsendable, hclient]
      exact fun ticket => ⟨_, .send hrequest, fun reply =>
        ⟨_, .consult trivial trivial, .sent⟩⟩
    · obtain ⟨error, hrun⟩ := ProxmoxClient.run_send_of_not_sendable hsendable
      rw [Tries, hrun]
      exact .unsent
  refine hsend.run_bind (fun phase data htried => ?_) fun phase error htried => ?_
  · cases htried
    cases read data <;> exact .sent
  · cases htried with
    | sent => exact .sent
    | unsent => exact .unsent

/-- **Executing an action** sends its change, after the check of an owner at most. -/
theorem tries_executeDestructive {action : DestroyAction} {kind : GuestType} {node : String}
    {vmid : UInt32} (hclient : client.name = call.cluster) :
    Tries call record (executeDestructive client action kind node vmid) := by
  rw [executeDestructive_eq_run, Change.run]
  have hsend : Tries call record (do
      let request ← liftM (action.change kind node vmid).request
      let data ← client.send request
      if (action.change kind node vmid).namesTask then liftM (Guests.upidFrom data)
      else return data.asStr.getD "" : ClientM String) := by
    cases hrequest : (action.change kind node vmid).request with
    | error error => exact .unsent
    | ok request =>
      have hmutating := mutating_of_change hrequest
      cases (action.change kind node vmid).namesTask with
      | true => exact tries_send Guests.upidFrom hclient hmutating
      | false => exact tries_send (fun data => .ok (data.asStr.getD "")) hclient hmutating
  cases (action.change kind node vmid).archive with
  | none => exact hsend
  | some archive =>
    have howner : Follows call.Step (fun phase _ => phase = .ready record) (.ready record)
        (requireBackupOwner client archive.1 archive.2 vmid).run :=
      Always.follows (@always_requireBackupOwner _ client archive.1 archive.2 vmid [])
        (fun _ _ _ hop => .consult trivial hop.consults) fun _ _ _ => rfl
    refine howner.run_bind ?_ ?_
    · rintro _ _ rfl
      exact hsend
    · rintro _ _ rfl
      exact .unsent

/-- Writing a rule sends the write. -/
private theorem tries_writeHaRule {action : HaRuleAction} {existing : Option Json}
    (hclient : client.name = call.cluster) :
    Tries call record (writeHaRule client action existing) := by
  have hwrite {request : ApiRequest} (hallowed : HaRuleRequest action existing request) :
      Tries call record (do let _ ← client.send request : ClientM Unit) :=
    tries_send (fun _ => .ok ()) hclient hallowed.mutating
  unfold writeHaRule
  split
  · next hop => exact hwrite (.create hop)
  · next hop => exact Follows.ensure (fun _ => hwrite (.update hop)) .unsent
  · next hop => exact hwrite (.delete hop)
  · exact .unsent

end Sends

/-! ### Claiming, following and settling -/

namespace ApplyCall

variable {call : ApplyCall} {record : ChangeSet}

/-- An apply that succeeds has settled its record as applied. -/
def Applied {α : Type} (phase : ApplyPhase) (_ : α) : Prop := ∃ record, phase = .settled record true

/-- Settling a record whose outcome is known, with the receipt before it. -/
private theorem leads_receipt_settle {phase : ApplyPhase} {succeeded : Bool} {error : String}
    {taskId : Option String} (hknown : phase.Known record succeeded) :
    Leads call.Step (fun phase' _ => phase' = .settled record succeeded) phase (do
      call.receipt record succeeded error
      settle (record.settle succeeded taskId)) := by
  rw [receipt]
  cases hevidence : call.server.evidence with
  | true =>
    exact Leads.request fun reply => ⟨_, .receipt hevidence hknown, Leads.request fun reply =>
      ⟨_, .settle, leads_pure rfl⟩⟩
  | false =>
    exact Leads.request fun reply => ⟨_, .settleUnreceipted hevidence hknown, leads_pure rfl⟩

/-- Settling an outcome. -/
private theorem leads_finish {α : Type} {phase : ApplyPhase} {succeeded : Bool} {error : String}
    {Q : ApplyPhase → α → Prop} {rest : ToolM α} (hknown : phase.Known record succeeded)
    (hrest : Leads call.Step Q (.settled record succeeded) rest) :
    Leads call.Step Q phase (do call.finish record succeeded error; rest) := by
  refine (leads_receipt_settle hknown).bind ?_
  rintro _ _ rfl
  exact hrest

/-- Recording the intent takes a claimed record to a ready one. -/
private theorem leads_recordIntent : Leads call.Step (fun phase _ => phase = .ready record)
    (if call.server.evidence then .claimed record else .ready record)
    (call.recordIntent record) := by
  rw [recordIntent]
  cases call.server.evidence with
  | false => exact leads_pure rfl
  | true =>
    refine Leads.request fun reply => ?_
    cases reply with
    | ok value => exact ⟨_, .recorded, leads_pure rfl⟩
    | error error =>
      refine ⟨_, .unrecorded, Leads.request fun settled => ⟨_, .abandon, ?_⟩⟩
      cases settled <;> exact leads_throw

/-- **Running an apply**: what it goes on with has been claimed and sent. -/
theorem leads_run {α : Type} {reviewed : ChangeSet} {send : ClientM α}
    (hpreviewed : reviewed.preview.isSome) (happroved : reviewed.state = .approved)
    (hsend : ∀ claimed, Tries call claimed send) :
    Leads call.Step (fun phase result => phase = .sent result.1) (.reviewing reviewed)
      (call.run reviewed send) := by
  have hclaim : Leads call.Step (fun phase claimed => phase =
      if call.server.evidence then .claimed claimed else .ready claimed) (.reviewing reviewed)
      (call.claim reviewed) := by
    refine Leads.request fun reply => ?_
    cases reply with
    | ok claimed => exact ⟨_, .claim hpreviewed happroved, leads_pure rfl⟩
    | error error => exact ⟨_, .refused hpreviewed happroved, leads_throw⟩
  refine hclaim.bind ?_
  rintro _ claimed rfl
  refine leads_recordIntent.bind ?_
  rintro _ _ rfl
  refine Leads.attempt (hsend claimed) fun phase outcome htried => ?_
  cases outcome with
  | ok value =>
    cases htried
    exact leads_pure rfl
  | error error =>
    have hknown : phase.Known claimed false := by
      cases htried with
      | sent => exact .sent false
      | unsent => exact .ready
    refine Leads.bind (R := fun _ _ => True) (leads_onlyIf (fun _ => ?_) fun _ => trivial)
      fun _ _ _ => leads_throw
    exact (leads_receipt_settle hknown).mono fun _ _ _ => trivial

/-- **Following an accepted change** to its end. -/
theorem leads_follow {client : ProxmoxClient} {upid : String} {extra : List (String × Json)} :
    Leads call.Step Applied (.sent record) (call.follow client record upid extra) := by
  rw [follow]
  split
  · exact leads_finish (.sent true) (leads_pure ⟨record, rfl⟩)
  · refine Leads.liftExcept fun task htask => Leads.request fun reply => ⟨_, .follow, ?_⟩
    have hpoll : Ensures (fun _ (op : Op) => op.Reads)
        (fun after exitstatus => Exited client.name upid exitstatus after) []
        (pollProxmoxTask client task.node upid) :=
      ensures_pollTask 300 0 (eq_ok_of_mapError htask) fun _ _ _ hop => hop
    refine leads_of_consults trivial hpoll (fun _ _ hop => hop.consults) fun _ exitstatus _ => ?_
    cases classifyExitStatus exitstatus with
    | ok => exact leads_finish (.following true) (leads_pure ⟨record, rfl⟩)
    | failed message => exact leads_finish (.following false) leads_throw

/-- Running a change whose answer may name a task, to its end. -/
private theorem leads_run_follow {client : ProxmoxClient} {reviewed : ChangeSet}
    {send : ClientM String} {extra : List (String × Json)} (hpreviewed : reviewed.preview.isSome)
    (happroved : reviewed.state = .approved) (hsend : ∀ claimed, Tries call claimed send) :
    Leads call.Step Applied (.reviewing reviewed) (do
      let (claimed, upid) ← call.run reviewed send
      call.follow client claimed upid extra) := by
  refine (leads_run hpreviewed happroved hsend).bind ?_
  rintro _ ⟨claimed, upid⟩ rfl
  exact leads_follow

end ApplyCall

/-! ### Whole applies -/

section Handlers

variable {call : ApplyCall} {server : ProxmoxServer} {caller : Option CallerCtx}

/-- The record is read first, and reviewed from then on. -/
private theorem leads_of_recordOf {β : Type} {Q : ApplyPhase → β → Prop} {f : ChangeSet → ToolM β}
    (hf : ∀ record, Leads call.Step Q (.reviewing record) (f record)) :
    Leads call.Step Q .checking (recordOf call.changeSetId call.device >>= f) := by
  have hread : Leads call.Step (fun phase record => phase = .reviewing record) .checking
      (recordOf call.changeSetId call.device) := by
    refine Leads.request fun reply => ?_
    cases reply with
    | ok record => exact ⟨_, .read, leads_pure rfl⟩
    | error error => exact ⟨_, .missed, leads_throw⟩
  refine hread.bind ?_
  rintro _ record rfl
  exact hf record

private theorem leads_applyChangeSet (args : ChangeSetArgs) :
    Leads (server.destroyCall caller args).Step ApplyCall.Applied .checking
      (server.applyChangeSet caller args) := by
  obtain ⟨id, cluster, vmid⟩ := args
  refine Leads.liftExcept fun _ _ => Leads.liftExcept fun client hclient => ?_
  obtain rfl : client.name = cluster := name_of_clientFor hclient
  refine leads_of_recordOf fun record => Leads.ensure fun hpreviewed =>
    Leads.liftExcept fun grant _ => ?_
  have hquiet (h : History Effect) (op : Op) (hop : Quiet (fun _ _ _ => True) h op) :
      op.Consults := hop.consults
  refine leads_of_consults trivial (ensures_invalidateCluster client.name []) hquiet
    fun _ _ _ => ?_
  refine leads_of_consults trivial (ensures_authorizeWithOverride False True (fun _ _ => trivial)
    False.elim (fun _ _ => rfl) fun _ => rfl) hquiet fun _ verdict _ => ?_
  refine leads_of_consults trivial ensures_readGuestState (fun _ _ hop => hop.consults)
    fun _ state _ => Leads.ensure fun _ => Leads.ensure fun happroved =>
    Leads.liftExcept fun action _ => Leads.required fun tool _ => Leads.liftExcept fun _ _ =>
    Leads.liftExcept fun _ _ => Leads.liftExcept fun _ _ => ?_
  exact ApplyCall.leads_run_follow hpreviewed (by simpa using happroved) fun claimed =>
    tries_executeDestructive rfl

private theorem leads_applyHaRuleChange (args : HaChangeSetArgs) :
    Leads (server.haRuleCall caller args).Step ApplyCall.Applied .checking
      (server.applyHaRuleChange caller args) := by
  obtain ⟨id, cluster, rule⟩ := args
  refine Leads.liftExcept fun _ _ => Leads.liftExcept fun client hclient => ?_
  obtain rfl : client.name = cluster := name_of_clientFor hclient
  refine leads_of_recordOf fun record => Leads.ensure fun hpreviewed =>
    Leads.liftExcept fun _ _ => ?_
  refine leads_of_consults trivial ensures_readCurrentRule (fun _ _ hop => hop.consults)
    fun _ existing _ => Leads.ensure fun _ => Leads.ensure fun happroved =>
    Leads.liftExcept fun action _ =>
    Leads.required fun tool _ => Leads.liftExcept fun _ _ => Leads.ensure fun _ => ?_
  refine leads_of_consults trivial ensures_authorizeHaRuleGuests (fun _ _ hop => hop.consults)
    fun _ _ _ => ?_
  refine (ApplyCall.leads_run hpreviewed (by simpa using happroved) fun claimed =>
    tries_writeHaRule rfl).bind ?_
  rintro _ ⟨claimed, _⟩ rfl
  -- a rule write has no task, so it is settled at once
  exact ApplyCall.leads_finish (.sent true) (leads_pure ⟨claimed, rfl⟩)

private theorem leads_applyRestoreNewVmid (args : ChangeSetArgs) :
    Leads (server.restoreCall caller args).Step ApplyCall.Applied .checking
      (server.applyRestoreNewVmid caller args) := by
  obtain ⟨id, cluster, vmid⟩ := args
  refine Leads.liftExcept fun _ _ => Leads.liftExcept fun client hclient => ?_
  obtain rfl : client.name = cluster := name_of_clientFor hclient
  refine leads_of_recordOf fun record => Leads.ensure fun hpreviewed =>
    Leads.liftExcept fun action _ => Leads.ensure fun _ => Leads.liftExcept fun _ _ =>
    Leads.liftExcept fun grant _ =>
    Leads.ensure fun _ => ?_
  refine leads_of_consults (G := fun _ op => op.Reads) trivial ensures_requireRestoreTarget
    (fun _ _ hop => hop.consults) fun _ _ _ => ?_
  refine leads_of_consults trivial ensures_requireRecordedOwner (fun _ _ hop => hop.consults)
    fun _ _ _ => ?_
  refine leads_of_consults trivial ensures_authorizeBackupOwner (fun _ _ hop => hop.consults)
    fun _ _ _ => Leads.required fun kind _ => ?_
  refine leads_of_consults trivial ensures_requireFree (fun _ _ hop => hop.consults) fun _ _ _ =>
    Leads.ensure fun _ => Leads.ensure fun happroved => ?_
  exact ApplyCall.leads_run_follow hpreviewed (by simpa using happroved) fun claimed =>
    tries_send Guests.upidFrom rfl nofun

end Handlers

variable {coordinator : Coordinator} {ttl : ℕ} {served : Served} {call : ApplyCall}

/-- **Every apply follows the protocol**, whatever the replies are. -/
theorem follows_apply (hcall : served.applyCall = some call) :
    Follows call.Step (fun phase result => ∀ value, result = .ok value →
      ApplyCall.Applied phase value) .checking ((serverMachine coordinator ttl).body served) := by
  obtain ⟨server, called⟩ := served
  cases called with
  | recover => cases hcall
  | reload => cases hcall
  | serve caller tool =>
    cases tool with
    | applyChangeSet args =>
      obtain rfl := Option.some.inj hcall
      exact leads_applyChangeSet args
    | applyHaRuleChange args =>
      obtain rfl := Option.some.inj hcall
      exact leads_applyHaRuleChange args
    | applyRestoreNewVmid args =>
      obtain rfl := Option.some.inj hcall
      exact leads_applyRestoreNewVmid args
    | _ => cases hcall

/-! ### The trail an apply leaves -/

/-- How many of the steps of an apply are behind it. -/
def ApplyPhase.progress : ApplyPhase → ℕ
  | checking | reviewing _ => 0
  | refused | claimed _ => 1
  | unrecorded _ | ready _ => 2
  | sent _ => 3
  | following _ => 4
  | receipted _ _ => 5
  | settled _ _ => 6

/-- The record an apply has claimed. -/
def ApplyPhase.record : ApplyPhase → Option ChangeSet
  | checking | reviewing _ | refused => none
  | claimed record | unrecorded record | ready record | sent record | following record
  | receipted record _ | settled record _ => some record

def Op.claims : Op → Bool
  | .coordinator (.claimChangeSetForApply _ _) => true
  | _ => false

def Op.intends : Op → Bool
  | .evidence (.applyIntent _ _ _ _) => true
  | _ => false

def Op.receipts : Op → Bool
  | .evidence (.resultReceipt _ _ _ _ _ _) => true
  | _ => false

def Op.changes : Op → Bool
  | .http (.dispatch _ request) => request.Mutating
  | _ => false

/-- What an apply may have done, and in which order, when it goes by the protocol. -/
structure ApplyCall.Trail (call : ApplyCall) (h : History Effect) : Prop where
  claims : h.countP (·.op.claims) ≤ 1
  intents : h.countP (·.op.intends) ≤ 1
  changes : h.countP (·.op.changes) ≤ 1
  receipts : h.countP (·.op.receipts) ≤ 1
  /-- A change is sent for a claimed record, with its intent recorded. -/
  intended : ∀ {newer client request before} {ticket : ℕ},
    h = newer ++ ⟨.http (.dispatch client request), ticket⟩ :: before → request.Mutating →
      ∃ record, call.Claimed record before ∧ (call.server.evidence = true →
        ⟨.evidence (.applyIntent call.requestId record.id record.device call.principal),
          .ok ()⟩ ∈ before)
  /-- With a recorder a record is settled right behind the receipt with the same verdict, or the
  intent that could not be recorded. -/
  receipted : ∀ {newer updated reply before},
    h = newer ++ ⟨.coordinator (.updateChangeSet updated), reply⟩ :: before →
      call.server.evidence = true → ∃ record, call.Claimed record before ∧
        ((∃ upid, updated = { record with taskId := some upid }) ∨
        (∃ error rest, before = ⟨.evidence (.applyIntent call.requestId record.id record.device
          call.principal), .error error⟩ :: rest ∧ updated = record.settle false record.taskId) ∨
        ∃ succeeded error noted rest taskId, before = ⟨.evidence (.resultReceipt call.requestId
          record.id record.device call.principal succeeded error), noted⟩ :: rest ∧
          updated = record.settle succeeded taskId)

section Trail

variable {phase phase' : ApplyPhase} {event : Event Effect} {h : History Effect}

/-- No step of an apply goes back. -/
private theorem progress_le_of_step (hstep : call.Step phase event phase') :
    phase.progress ≤ phase'.progress := by
  cases hstep with
  | claim => split_ifs <;> simp [ApplyPhase.progress]
  | receipt _ hknown | settleUnreceipted _ hknown => cases hknown <;> simp [ApplyPhase.progress]
  | _ => simp [ApplyPhase.progress]

/-- A claim, an intent, a change and a receipt each take the apply past a phase. -/
private theorem crosses_of_step (hstep : call.Step phase event phase') :
    (event.op.claims → phase.progress < 1 ∧ 1 ≤ phase'.progress) ∧
    (event.op.intends → phase.progress < 2 ∧ 2 ≤ phase'.progress) ∧
    (event.op.changes → phase.progress < 3 ∧ 3 ≤ phase'.progress) ∧
    (event.op.receipts → phase.progress < 5 ∧ 5 ≤ phase'.progress) := by
  cases hstep with
  | @consult phase op reply hreading hconsults =>
    cases op with
    | http op =>
      cases op with
      | dispatch client request =>
        have hunchanging : ¬ request.Mutating := hconsults
        simp [Op.claims, Op.intends, Op.changes, Op.receipts, hunchanging]
      | await => simp [Op.claims, Op.intends, Op.changes, Op.receipts]
    | coordinator | evidence | reloadInventory => exact hconsults.elim
    | _ => simp [Op.claims, Op.intends, Op.changes, Op.receipts]
  | claim =>
    split_ifs <;> simp [Op.claims, Op.intends, Op.changes, Op.receipts, ApplyPhase.progress]
  | receipt _ hknown =>
    cases hknown <;>
      simp [Op.claims, Op.intends, Op.changes, Op.receipts, ApplyPhase.progress]
  | _ => simp [Op.claims, Op.intends, Op.changes, Op.receipts, ApplyPhase.progress]

/-- What an apply has behind it in a phase. -/
structure ApplyCall.Behind (call : ApplyCall) (h : History Effect) (phase : ApplyPhase) : Prop where
  reviewed : ∀ record, phase = .reviewing record →
    ⟨.coordinator (.changeSet call.changeSetId call.device), .ok record⟩ ∈ h
  claimed : ∀ record, phase.record = some record → call.Claimed record h
  intended : ∀ record, phase = .ready record → call.server.evidence = true →
    ⟨.evidence (.applyIntent call.requestId record.id record.device call.principal), .ok ()⟩ ∈ h
  unrecorded : ∀ record, phase = .unrecorded record → ∃ error rest,
    h = ⟨.evidence (.applyIntent call.requestId record.id record.device call.principal),
      .error error⟩ :: rest
  receipted : ∀ record succeeded, phase = .receipted record succeeded → ∃ error noted rest,
    h = ⟨.evidence (.resultReceipt call.requestId record.id record.device call.principal succeeded
      error), noted⟩ :: rest

omit [Externals] in
theorem ApplyPhase.Known.record {record : ChangeSet} {succeeded : Bool}
    (hknown : phase.Known record succeeded) : phase.record = some record := by
  cases hknown <;> rfl

/-- A step other than the claim is about the record that was claimed. -/
private theorem record_of_step (hstep : call.Step phase event phase') :
    phase'.record = none ∨ phase'.record = phase.record ∨ ∃ reviewed record,
      phase = .reviewing reviewed ∧ (reviewed.preview.isSome ∧ reviewed.state = .approved) ∧
        phase'.record = some record ∧ event =
          ⟨.coordinator (.claimChangeSetForApply reviewed.id reviewed.device), .ok record⟩ := by
  cases hstep with
  | claim hpreviewed happroved =>
    exact .inr (.inr ⟨_, _, rfl, ⟨hpreviewed, happroved⟩, by split_ifs <;> rfl, rfl⟩)
  | missed | read | refused => exact .inl rfl
  | receipt _ hknown | settleUnreceipted _ hknown => exact .inr (.inl hknown.record.symm)
  | _ => exact .inr (.inl rfl)

theorem ApplyCall.Behind.cons (hbehind : call.Behind h phase)
    (hstep : call.Step phase event phase') : call.Behind (event :: h) phase' where
  reviewed := by
    rintro record rfl
    generalize hphase : ApplyPhase.reviewing record = phase' at hstep
    cases hstep with
    | consult =>
      subst hphase
      exact List.mem_cons_of_mem _ (hbehind.reviewed record rfl)
    | read =>
      cases hphase
      exact List.mem_cons_self
    | claim => split_ifs at hphase
    | _ => cases hphase
  claimed := by
    intro record hrecord
    rcases record_of_step hstep with hnone | hsame | ⟨reviewed, claimed, rfl, hready, hclaimed, rfl⟩
    · simp [hnone] at hrecord
    · exact (hbehind.claimed record (hsame ▸ hrecord)).mono (List.suffix_cons _ _)
    · obtain rfl := Option.some.inj (hclaimed.symm.trans hrecord)
      exact ⟨reviewed, ⟨List.mem_cons_of_mem _ (hbehind.reviewed reviewed rfl), hready⟩,
        List.mem_cons_self⟩
  intended := by
    rintro record rfl hevidence
    generalize hready : ApplyPhase.ready record = phase' at hstep
    cases hstep with
    | consult =>
      subst hready
      exact List.mem_cons_of_mem _ (hbehind.intended record rfl hevidence)
    | recorded =>
      cases hready
      exact List.mem_cons_self
    | claim => simp [hevidence] at hready
    | _ => cases hready
  unrecorded := by
    rintro record rfl
    generalize hphase : ApplyPhase.unrecorded record = phase' at hstep
    cases hstep with
    | consult hreading =>
      subst hphase
      exact hreading.elim
    | unrecorded =>
      cases hphase
      exact ⟨_, _, rfl⟩
    | claim => split_ifs at hphase
    | _ => cases hphase
  receipted := by
    rintro record succeeded rfl
    generalize hphase : ApplyPhase.receipted record succeeded = phase' at hstep
    cases hstep with
    | consult hreading =>
      subst hphase
      exact hreading.elim
    | receipt =>
      cases hphase
      exact ⟨_, _, _, rfl⟩
    | claim => split_ifs at hphase
    | _ => cases hphase

private theorem behind_of_accepts (haccepts : Protocol.Accepts call.Step .checking h phase) :
    call.Behind h phase := by
  refine haccepts.invariant (fun hstep hbehind => hbehind.cons hstep) ⟨?_, ?_, ?_, ?_, ?_⟩
  · rintro _ ⟨⟩
  · rintro _ ⟨⟩
  · rintro _ ⟨⟩
  · rintro _ ⟨⟩
  · rintro _ _ ⟨⟩

/-- **What goes by the protocol leaves the trail.** -/
theorem trail_of_accepts (haccepts : Protocol.Accepts call.Step .checking h phase) :
    call.Trail h where
  claims := haccepts.countP_le_one 1 progress_le_of_step fun hstep => (crosses_of_step hstep).1
  intents := haccepts.countP_le_one 2 progress_le_of_step fun hstep => (crosses_of_step hstep).2.1
  changes := haccepts.countP_le_one 3 progress_le_of_step fun hstep =>
    (crosses_of_step hstep).2.2.1
  receipts := haccepts.countP_le_one 5 progress_le_of_step fun hstep =>
    (crosses_of_step hstep).2.2.2
  intended := by
    rintro newer client request before ticket rfl hmutating
    obtain ⟨after, hpast, -⟩ := haccepts.of_append
    cases hpast with
    | cons past hstep =>
      have hbehind := behind_of_accepts past
      cases hstep with
      | consult _ hconsults => exact absurd hmutating hconsults
      | send => exact ⟨_, hbehind.claimed _ rfl, hbehind.intended _ rfl⟩
  receipted := by
    rintro newer updated reply before rfl hevidence
    obtain ⟨after, hpast, -⟩ := haccepts.of_append
    cases hpast with
    | cons past hstep =>
      have hbehind := behind_of_accepts past
      cases hstep with
      | consult _ hconsults => exact hconsults.elim
      | abandon =>
        obtain ⟨error, rest, hlast⟩ := hbehind.unrecorded _ rfl
        exact ⟨_, hbehind.claimed _ rfl, .inr (.inl ⟨error, rest, hlast, rfl⟩)⟩
      | follow => exact ⟨_, hbehind.claimed _ rfl, .inl ⟨_, rfl⟩⟩
      | settle =>
        obtain ⟨error, noted, rest, hlast⟩ := hbehind.receipted _ _ rfl
        exact ⟨_, hbehind.claimed _ rfl, .inr (.inr ⟨_, error, noted, rest, _, hlast, rfl⟩)⟩
      | settleUnreceipted hnone =>
        rw [hevidence] at hnone
        cases hnone

end Trail

end ProxmoxMcp
