import Mathlib
import ProxmoxMcp.Server.Freshness

/-!
# Change sets are applied once

A change set goes through several calls: one plans it, others approve it, one applies it, and after
a crash one recovers it. `AppliesOnce` says what holds of the requests sent for it, in every run
over a lawful coordinator: **one** request at most, sent by an apply of the family that planned it,
behind an approval that another principal gave or that the plan waived in lab mode, a stored
preview, the planned fingerprint and the recorded intent.

The argument has two parts. `Tracked` says of a record what its fields rest on, and is kept by every
operation. A claim **spends** the approval, and a record that is spent cannot be claimed.
-/

namespace ProxmoxMcp

open Interaction
open Program hiding bind

/-! ### The calls about change sets -/

namespace Served

/-- What a call applies. -/
def applyCall : Served → Option ApplyCall
  | ⟨server, .serve caller (.applyChangeSet args)⟩ => some (server.destroyCall caller args)
  | ⟨server, .serve caller (.applyHaRuleChange args)⟩ => some (server.haRuleCall caller args)
  | ⟨server, .serve caller (.applyRestoreNewVmid args)⟩ => some (server.restoreCall caller args)
  | _ => none

/-- What a call plans. -/
def planCall : Served → Option PlanCall
  | ⟨_, .serve caller (.planDestroy _)⟩ => some ⟨.destroy, caller⟩
  | ⟨_, .serve caller (.planHaRuleChange _)⟩ => some ⟨.haRule, caller⟩
  | ⟨_, .serve caller (.planRestoreNewVmid _)⟩ => some ⟨.restoreNewVmid, caller⟩
  | _ => none

/-- The calls that work on change sets without applying them. -/
def Prepares : Served → Prop
  | ⟨_, .recover⟩ => True
  | ⟨_, .serve _ tool⟩ => match tool with
    | .planDestroy _ | .planHaRuleChange _ | .planRestoreNewVmid _ | .getChangeSet _
    | .getHaRuleChangeSet _ | .approveChangeSet _ | .approveHaRuleChange _ => True
    | _ => False
  | _ => False

end Served

/-- The fingerprint of what a change set is about, as an apply has seen it. -/
inductive ApplyCall.Recomputed [Externals] (call : ApplyCall) (h : History Effect) : String → Prop
  | destroy {guest : ResolvedGuest} {state : GuestState} (family : call.family = .destroy)
      (device : call.device = s!"{call.cluster}/{guest.vmid}")
      (observed : Observed True call.cluster guest.vmid (some guest) h)
      (read : StateRead call.cluster call.cluster guest state h) :
      Recomputed call h (fingerprint state)
  | haRule {rule : String} {existing : Option Json} (family : call.family = .haRule)
      (device : call.device = haRuleDevice call.cluster rule)
      (read : RuleRead call.cluster rule existing h) :
      Recomputed call h (haRuleFingerprint call.cluster rule existing)
  | restoreNewVmid {vmid : UInt32} (family : call.family = .restoreNewVmid)
      (device : call.device = s!"{call.cluster}/{vmid}")
      (vacant : Observed True call.cluster vmid none h) :
      Recomputed call h (restoreTargetFingerprint call.cluster vmid)

/-- A record that an event answers with, and the id and device it was asked for by. -/
inductive Answers : Event Effect → String → String → ChangeSet → Prop
  | read {id device : String} {record : ChangeSet} :
      Answers ⟨.coordinator (.changeSet id device), .ok record⟩ id device record
  | listed {records : List ChangeSet} {record : ChangeSet} (mem : record ∈ records) :
      Answers ⟨.coordinator .changeSets, records⟩ record.id record.device record
  | claimed {id device : String} {record : ChangeSet} :
      Answers ⟨.coordinator (.claimChangeSetForApply id device), .ok record⟩ id device record

/-- A record as it was, but for its state and handle, and not newly approved. -/
structure Revises (old updated : ChangeSet) : Prop where
  id : updated.id = old.id
  device : updated.device = old.device
  actions : updated.actions = old.actions
  owner : updated.owner = old.owner
  fingerprint : updated.expectedCandidateFingerprint = old.expectedCandidateFingerprint
  preview : updated.preview = old.preview
  state : updated.state = .approved → old.state = .approved

variable [Externals]

/-- What a call does with the records. -/
inductive Served.Handles (served : Served) (h : History Effect) : CoordinatorOp → Prop
  | creates {plan : PlanCall} {device fingerprint policy : String} {action : Json}
      (planned : served.planCall = some plan) (stores : plan.family.Stores action) :
      Handles served h
        (.createChangeSet device [action] (callerName plan.caller) fingerprint policy)
  | previews {plan : PlanCall} {updated : ChangeSet} (planned : served.planCall = some plan)
      (previews : PlanCall.Previews h updated) : Handles served h (.updateChangeSet updated)
  | revises {event : Event Effect} {id device : String} {old updated : ChangeSet} (mem : event ∈ h)
      (answers : Answers event id device old) (revises : Revises old updated) :
      Handles served h (.updateChangeSet updated)
  | approves {caller : Option CallerCtx} {tool : Tool} {id device digest : String}
      {actor : ActorType} (call : served.call = .serve caller tool)
      (actor_eq : actor = actorType caller) :
      Handles served h (.approveChangeSet id device (callerName caller) digest actor)
  | waives {plan : PlanCall} {id device owner digest : String}
      (planned : served.planCall = some plan) (waives : PlanCall.Waives served.server h id) :
      Handles served h (.waiveApproval id device owner digest)
  | claims {id device : String} : Handles served h (.claimChangeSetForApply id device)
  | reads {id device : String} : Handles served h (.changeSet id device)
  | lists : Handles served h .changeSets

section Calls

variable {served : Served} {h : History Effect}

/-- Settling keeps everything but the state and the handle. -/
theorem ApplyCall.Settles.revises {call : ApplyCall} {checks : History Effect → Prop}
    {claimed updated : ChangeSet} (hsettles : call.Settles checks claimed h updated) :
    Revises claimed updated := by
  cases hsettles with
  | inFlight => exact ⟨rfl, rfl, rfl, rfl, rfl, rfl, id⟩
  | exited =>
    refine ⟨rfl, rfl, rfl, rfl, rfl, rfl, fun hstate => ?_⟩
    dsimp only at hstate
    split_ifs at hstate
  | _ => exact ⟨rfl, rfl, rfl, rfl, rfl, rfl, fun hstate => nomatch hstate⟩

omit [Externals] in
theorem ApplyCall.Claimed.answers {call : ApplyCall} {claimed : ChangeSet}
    (hclaimed : call.Claimed claimed h) :
    ∃ event ∈ h, ∃ id device, Answers event id device claimed := by
  obtain ⟨record, -, hmem⟩ := hclaimed
  exact ⟨_, hmem, _, _, .claimed⟩

/-- An apply claims and settles. -/
private theorem handles_of_applyPolicy {call : ApplyCall} {lookups : LookupRule}
    {checks : History Effect → Prop} {about : ChangeSet → History Effect → ApiRequest → Prop}
    {op : CoordinatorOp} (hrecords : (call.policy lookups checks about).records h op) :
    served.Handles h op := by
  cases op with
  | changeSet id device => exact .reads
  | claimChangeSetForApply id device => exact .claims
  | updateChangeSet updated =>
    obtain ⟨claimed, hclaimed, hsettles⟩ := hrecords
    obtain ⟨event, hmem, id, device, hanswers⟩ := hclaimed.answers
    exact .revises hmem hanswers hsettles.revises
  | _ => exact hrecords.elim

omit [Externals] in
/-- A plan creates, stores the preview and may waive. -/
private theorem handles_of_planPolicy {plan : PlanCall} {op : CoordinatorOp}
    (hplan : served.planCall = some plan) (hrecords : (plan.policy served.server).records h op) :
    served.Handles h op := by
  cases op with
  | createChangeSet device actions owner fingerprint policy =>
    obtain ⟨rfl, action, rfl, hstores⟩ := hrecords
    exact .creates hplan hstores
  | changeSets => exact .lists
  | updateChangeSet updated => exact .previews hplan hrecords
  | waiveApproval id device owner digest => exact .waives hplan hrecords
  | _ => exact hrecords.elim

/-- A recovery settles what it has read. -/
private theorem handles_of_recoverPolicy {op : CoordinatorOp}
    (hrecords : recoverPolicy.records h op) :
    served.Handles h op := by
  cases op with
  | changeSets => exact .lists
  | updateChangeSet updated =>
    obtain ⟨hread, hmem, happlying, -, -, -, rfl⟩ := hrecords
    refine .revises hread (.listed hmem) ⟨rfl, rfl, rfl, rfl, rfl, rfl, fun hstate => ?_⟩
    dsimp only at hstate
    split_ifs at hstate
  | _ => exact hrecords.elim

omit [Externals] in
/-- An approval reads and approves. -/
private theorem handles_of_approvePolicy {caller : Option CallerCtx} {tool : Tool}
    {id device : String} {authority : ChangeSet → History Effect → Prop} {op : CoordinatorOp}
    (hcall : served.call = .serve caller tool)
    (hrecords : (approvePolicy caller id device authority).records h op) : served.Handles h op := by
  cases op with
  | changeSet id device => exact .reads
  | approveChangeSet id device approver digest actor =>
    obtain ⟨-, -, rfl, rfl, -⟩ := hrecords
    exact .approves hcall rfl
  | _ => exact hrecords.elim

omit [Externals] in
/-- A reading reads. -/
private theorem handles_of_getPolicy {id device : String} {op : CoordinatorOp}
    (hrecords : (getPolicy id device).records h op) : served.Handles h op := by
  cases op with
  | changeSet id device => exact .reads
  | _ => exact hrecords.elim

/-- **What calls do with the records.** -/
theorem Served.handles (served : Served) {op : CoordinatorOp}
    (hrecords : served.policy.records h op) : served.Handles h op := by
  obtain ⟨server, call⟩ := served
  cases call with
  | recover => exact handles_of_recoverPolicy hrecords
  | reload => exact hrecords.elim
  | serve caller tool =>
    cases tool with
    | planDestroy args => exact handles_of_planPolicy rfl hrecords
    | planHaRuleChange args => exact handles_of_planPolicy rfl hrecords
    | planRestoreNewVmid args => exact handles_of_planPolicy rfl hrecords
    | getChangeSet args => exact handles_of_getPolicy hrecords
    | getHaRuleChangeSet args => exact handles_of_getPolicy hrecords
    | approveChangeSet args => exact handles_of_approvePolicy rfl hrecords
    | approveHaRuleChange args => exact handles_of_approvePolicy rfl hrecords
    | applyChangeSet args => exact handles_of_applyPolicy hrecords
    | applyHaRuleChange args => exact handles_of_applyPolicy hrecords
    | applyRestoreNewVmid args => exact handles_of_applyPolicy hrecords
    | _ => exact hrecords.elim

/-- **What an apply sends**: the call is ready, the record holds an action of its family, and the
fingerprint is the recorded one. -/
theorem Served.ready_of_sends {call : ApplyCall} {client : String} {request : ApiRequest}
    (hcall : served.applyCall = some call) (hsends : served.policy.sends h client request) :
    client = call.cluster ∧ ∃ record claimed, call.Ready record claimed h ∧
      (∃ action, record.actions.head? = some action ∧ call.family.Reads action) ∧
      call.Recomputed h record.expectedCandidateFingerprint := by
  obtain ⟨server, call'⟩ := served
  cases call' with
  | recover => cases hcall
  | reload => cases hcall
  | serve caller tool =>
    cases tool with
    | applyChangeSet args =>
      obtain rfl := Option.some.inj hcall
      obtain ⟨hclient, record, claimed, hready, action, authorization, hauthorized, -⟩ := hsends
      obtain ⟨raw, hraw, hread⟩ := Option.bind_eq_some_iff.mp hauthorized.stored
      obtain ⟨op, -, hadmitted⟩ := hauthorized.authorized
      obtain ⟨state, hstate, hfingerprint⟩ := hauthorized.planned
      have hdevice : args.device = s!"{args.cluster}/{authorization.guest.vmid}" := by
        rw [hadmitted.admitted.guest_vmid, ChangeSetArgs.device]
      refine ⟨hclient, record, claimed, hready,
        ⟨raw, hraw, Option.isSome_iff_exists.mpr ⟨action, hread⟩⟩, ?_⟩
      have hobserved := hadmitted.admitted.observed
      rw [ProxmoxServer.name_of_clientNamed hauthorized.client, ← hadmitted.admitted.guest_vmid]
        at hobserved
      exact hfingerprint ▸ .destroy rfl hdevice hobserved hstate
    | applyHaRuleChange args =>
      obtain rfl := Option.some.inj hcall
      obtain ⟨hclient, record, claimed, hready, action, existing, _, _, hauthorized, -⟩ := hsends
      obtain ⟨raw, hraw, hread⟩ := Option.bind_eq_some_iff.mp hauthorized.stored
      refine ⟨hclient, record, claimed, hready,
        ⟨raw, hraw, Option.isSome_iff_exists.mpr ⟨action, hread⟩⟩, ?_⟩
      exact hauthorized.planned.2 ▸ .haRule rfl rfl hauthorized.planned.1
    | applyRestoreNewVmid args =>
      obtain rfl := Option.some.inj hcall
      obtain ⟨hclient, record, claimed, hready, action, _, _, _, hauthorized, -⟩ := hsends
      obtain ⟨raw, hraw, hread⟩ := Option.bind_eq_some_iff.mp hauthorized.stored
      have hdevice : args.device = s!"{args.cluster}/{action.targetVmid}" := by
        rw [hauthorized.target, ChangeSetArgs.device]
      refine ⟨hclient, record, claimed, hready,
        ⟨raw, hraw, Option.isSome_iff_exists.mpr ⟨action, hread⟩⟩, ?_⟩
      exact hauthorized.planned ▸ .restoreNewVmid rfl hdevice hauthorized.vacant
    | _ => cases hcall

/-- The other calls about change sets send nothing that changes a cluster. -/
theorem Served.Prepares.not_sends {client : String} {request : ApiRequest}
    (hprepares : served.Prepares) : ¬ served.policy.sends h client request := by
  obtain ⟨server, call⟩ := served
  cases call with
  | recover => exact id
  | reload => exact hprepares.elim
  | serve caller tool =>
    cases tool with
    | planDestroy | planHaRuleChange | planRestoreNewVmid | getChangeSet | getHaRuleChangeSet
    | approveChangeSet | approveHaRuleChange => exact id
    | _ => exact hprepares.elim

end Calls

/-! ### What a record rests on -/

/-- A plan of the family has created this record. -/
inductive PlannedBy (trace : ServerTrace) (family : Family) (record : ChangeSet) : Prop
  | intro {id : ℕ} {served : Served} {caller : Option CallerCtx} {action : Json} {policy : String}
      {output : ChangeSetOutput} (start : .start id served ∈ trace)
      (plan : served.planCall = some ⟨family, caller⟩) (stores : family.Stores action)
      (actions : record.actions = [action]) (owner : record.owner = callerName caller)
      (named : output.changeSetId = record.id)
      (event : .event id ⟨.coordinator (.createChangeSet record.device record.actions record.owner
        record.expectedCandidateFingerprint policy), .ok output⟩ ∈ trace)

/-- Another principal has approved this record, or the call that planned it has waived the approval
in lab mode. -/
inductive ApprovalGiven (trace : ServerTrace) (record : ChangeSet) : Prop
  | approved {id : ℕ} {served : Served} {caller : Option CallerCtx} {tool : Tool} {digest : String}
      {output : ChangeSetOutput} (start : .start id served ∈ trace)
      (call : served.call = .serve caller tool) (human : actorType caller = .human)
      (other : callerName caller ≠ record.owner)
      (event : .event id ⟨.coordinator (.approveChangeSet record.id record.device
        (callerName caller) digest .human), .ok output⟩ ∈ trace)
  | waived {id : ℕ} {served : Served} {plan : PlanCall} {created waived : ChangeSetOutput}
      {device device' owner owner' fingerprint policy digest : String} {actions : List Json}
      (start : .start id served ∈ trace) (plan : served.planCall = some plan)
      (labMode : served.server.labMode) (named : created.changeSetId = record.id)
      (event : .event id ⟨.coordinator (.createChangeSet device actions owner fingerprint policy),
        .ok created⟩ ∈ trace)
      (waiver : .event id ⟨.coordinator (.waiveApproval record.id device' owner' digest),
        .ok waived⟩ ∈ trace)

/-- A plan has stored the preview of this record. -/
inductive PreviewStored (trace : ServerTrace) (record : ChangeSet) : Prop
  | intro {id : ℕ} {served : Served} {plan : PlanCall} {updated : ChangeSet}
      (start : .start id served ∈ trace) (plan : served.planCall = some plan)
      (named : updated.id = record.id) (preview : updated.preview = record.preview)
      (event : .event id ⟨.coordinator (.updateChangeSet updated), .ok ()⟩ ∈ trace)

/-- What the fields of a record rest on. -/
structure Tracked (trace : ServerTrace) (record : ChangeSet) : Prop where
  planned : ∃ family, PlannedBy trace family record
  approved : record.state = .approved → ApprovalGiven trace record
  previewed : record.preview.isSome → PreviewStored trace record

section Tracking

variable {trace trace' : ServerTrace} {record updated : ChangeSet}

omit [Externals] in
theorem PlannedBy.mono {family : Family} (hp : PlannedBy trace family record)
    (hh : trace ⊆ trace') : PlannedBy trace' family record := by
  obtain ⟨hstart, hplan, hstores, hactions, howner, hnamed, hevent⟩ := hp
  exact ⟨hh hstart, hplan, hstores, hactions, howner, hnamed, hh hevent⟩

omit [Externals] in
theorem ApprovalGiven.mono (ha : ApprovalGiven trace record) (hh : trace ⊆ trace') :
    ApprovalGiven trace' record := by
  cases ha with
  | approved hstart hcall hhuman hother hevent =>
    exact .approved (hh hstart) hcall hhuman hother (hh hevent)
  | waived hstart hplan hlab hnamed hevent hwaiver =>
    exact .waived (hh hstart) hplan hlab hnamed (hh hevent) (hh hwaiver)

omit [Externals] in
theorem PreviewStored.mono (hp : PreviewStored trace record) (hh : trace ⊆ trace') :
    PreviewStored trace' record := by
  obtain ⟨hstart, hplan, hnamed, hpreview, hevent⟩ := hp
  exact ⟨hh hstart, hplan, hnamed, hpreview, hh hevent⟩

omit [Externals] in
theorem Tracked.mono (ht : Tracked trace record) (hh : trace ⊆ trace') : Tracked trace' record :=
  ⟨ht.planned.imp fun _ hp => hp.mono hh, fun hstate => (ht.approved hstate).mono hh,
    fun hpreview => (ht.previewed hpreview).mono hh⟩

omit [Externals] in
theorem PlannedBy.of_eq {family : Family} (hp : PlannedBy trace family record)
    (hid : updated.id = record.id) (hdevice : updated.device = record.device)
    (hactions : updated.actions = record.actions) (howner : updated.owner = record.owner)
    (hfingerprint : updated.expectedCandidateFingerprint = record.expectedCandidateFingerprint) :
    PlannedBy trace family updated := by
  obtain ⟨hstart, hplan, hstores, hactions', howner', hnamed, hevent⟩ := hp
  rw [← hdevice, ← hactions, ← howner, ← hfingerprint] at hevent
  exact ⟨hstart, hplan, hstores, hactions.trans hactions', howner.trans howner',
    hnamed.trans hid.symm, hevent⟩

omit [Externals] in
theorem ApprovalGiven.of_eq (ha : ApprovalGiven trace record) (hid : updated.id = record.id)
    (hdevice : updated.device = record.device) (howner : updated.owner = record.owner) :
    ApprovalGiven trace updated := by
  cases ha with
  | approved hstart hcall hhuman hother hevent =>
    exact .approved hstart hcall hhuman (howner ▸ hother) (hid ▸ hdevice ▸ hevent)
  | waived hstart hplan hlab hnamed hevent hwaiver =>
    exact .waived hstart hplan hlab (hnamed.trans hid.symm) hevent (hid ▸ hwaiver)

omit [Externals] in
theorem PreviewStored.of_eq (hp : PreviewStored trace record) (hid : updated.id = record.id)
    (hpreview : updated.preview = record.preview) : PreviewStored trace updated := by
  obtain ⟨hstart, hplan, hnamed, hpreview', hevent⟩ := hp
  exact ⟨hstart, hplan, hnamed.trans hid.symm, hpreview'.trans hpreview.symm, hevent⟩

omit [Externals] in
/-- A revised record rests on what it rested on. -/
theorem Tracked.revises (ht : Tracked trace record) (hr : Revises record updated) :
    Tracked trace updated where
  planned := ht.planned.imp fun _ hp =>
    hp.of_eq hr.id hr.device hr.actions hr.owner hr.fingerprint
  approved hstate := (ht.approved (hr.state hstate)).of_eq hr.id hr.device hr.owner
  previewed hpreview := (ht.previewed (hr.preview ▸ hpreview)).of_eq hr.id hr.preview

omit [Externals] in
/-- A record that was approved rests on what it rested on, and on the approval. -/
theorem Tracked.move_approved (ht : Tracked trace record)
    (hgiven : ApprovalGiven trace { record with state := .approved }) :
    Tracked trace { record with state := .approved } where
  planned := ht.planned.imp fun _ hp => hp.of_eq rfl rfl rfl rfl rfl
  approved _ := hgiven
  previewed hpreview := (ht.previewed hpreview).of_eq rfl rfl

end Tracking

/-! ### The records of a run -/

/-- An entry that spends the approval of a record. -/
def Spends (key : String) (entry : Entry Effect Served CallResult) : Prop :=
  ∃ id device claimed,
    entry = .event id ⟨.coordinator (.claimChangeSetForApply key device), .ok claimed⟩

/-- What holds of the records of a run: every record stored or answered is tracked, an answer is the
record asked for, and no approval is spent twice. -/
structure Kept (coordinator : Coordinator) (records : coordinator.State) (trace : ServerTrace) :
    Prop where
  stored : ∀ {key record}, coordinator.find records key = some record → Tracked trace record
  answered : ∀ {id event key device record}, .event id event ∈ trace →
    Answers event key device record →
      record.id = key ∧ record.device = device ∧ Tracked trace record
  spent : ∀ {entry key}, entry ∈ trace → Spends key entry → coordinator.Spent records key
  once : trace.Pairwise fun entry entry' => ∀ key, Spends key entry → ¬ Spends key entry'

section Keeping

variable {coordinator : Coordinator} {records records' : coordinator.State} {trace : ServerTrace}

omit [Externals] in
/-- Entries that are not about the records keep what holds of them. -/
theorem Kept.cons (hkept : Kept coordinator records trace) {entry : Entry Effect Served CallResult}
    (hentry : ∀ id op reply, entry ≠ .event id ⟨.coordinator op, reply⟩) :
    Kept coordinator records (entry :: trace) where
  stored hfind := (hkept.stored hfind).mono (List.subset_cons_self _ _)
  answered hmem hanswers := by
    rcases List.mem_cons.mp hmem with rfl | hmem
    · cases hanswers <;> exact absurd rfl (hentry _ _ _)
    · obtain ⟨hid, hdevice, htracked⟩ := hkept.answered hmem hanswers
      exact ⟨hid, hdevice, htracked.mono (List.subset_cons_self _ _)⟩
  spent hmem hspends := by
    rcases List.mem_cons.mp hmem with rfl | hmem
    · obtain ⟨id, device, claimed, heq⟩ := hspends
      exact absurd heq (hentry _ _ _)
    · exact hkept.spent hmem hspends
  once := by
    refine List.pairwise_cons.mpr ⟨fun entry' _ key hspends => ?_, hkept.once⟩
    obtain ⟨id, device, claimed, heq⟩ := hspends
    exact absurd heq (hentry _ _ _)

omit [Externals] in
/-- One entry spends the approval of a record. -/
theorem Kept.eq_of_spends (hkept : Kept coordinator records trace) {key : String}
    {entry entry' : Entry Effect Served CallResult} (hmem : entry ∈ trace) (hmem' : entry' ∈ trace)
    (hspends : Spends key entry) (hspends' : Spends key entry') : entry = entry' := by
  by_contra hne
  have hsymm : Std.Symm fun entry entry' : Entry Effect Served CallResult =>
      ∀ key, Spends key entry → ¬ Spends key entry' :=
    ⟨fun _ _ h key hspends hspends' => h key hspends' hspends⟩
  exact hkept.once.forall hmem hmem' hne key hspends hspends'

variable {served : Served} {id : ℕ} {op : CoordinatorOp} {reply : op.Reply}

omit [Externals] in
/-- **A record written is tracked.** -/
theorem Kept.tracked_of_writes (hkept : Kept coordinator records trace)
    (hstart : .start id served ∈ trace) (hhandles : served.Handles (historyOf id trace) op)
    {key : String} {record : ChangeSet}
    (hwrites : op.Writes (coordinator.find records key) reply record) :
    Tracked (.event id ⟨.coordinator op, reply⟩ :: trace) record := by
  have hcons : trace ⊆ .event id ⟨.coordinator op, reply⟩ :: trace := List.subset_cons_self _ _
  cases hwrites with
  | @created _ _ _ policy _ _ _ absent hid hdevice hactions howner hfingerprint hplanned hbare =>
    cases hhandles with
    | creates hplan hstores =>
      obtain rfl := hdevice
      obtain rfl := hfingerprint
      -- the plan is the entry itself; a record just created is neither approved nor previewed
      refine ⟨⟨_, @PlannedBy.intro _ _ _ _ _ _ _ policy _ (hcons hstart) hplan hstores hactions
        howner hid.symm ?_⟩, fun hstate => ?_, fun hpreview => ?_⟩
      · rw [hactions, howner]
        exact List.mem_cons_self
      · rw [hplanned] at hstate
        cases hstate
      · rw [hbare.1] at hpreview
        cases hpreview
  | updated =>
    cases hhandles with
    | previews hplan hpreviews =>
      obtain ⟨hhistory, hread, -, rfl⟩ := hpreviews
      have hlisted := mem_historyOf_iff.mp (hhistory ▸ List.mem_cons_self)
      obtain ⟨-, -, htracked⟩ := hkept.answered hlisted (.listed hread)
      obtain ⟨hplanned, happroved, -⟩ := htracked.mono hcons
      refine ⟨hplanned.imp fun _ hp => hp.of_eq rfl rfl rfl rfl rfl,
        fun hstate => (happroved hstate).of_eq rfl rfl rfl, fun _ => ?_⟩
      exact .intro (hcons hstart) hplan rfl rfl List.mem_cons_self
    | revises hmem hanswers hrevises =>
      obtain ⟨-, -, htracked⟩ := hkept.answered (mem_historyOf_iff.mp hmem) hanswers
      exact (htracked.revises hrevises).mono hcons
  | approved hstored hid hdevice hother hsame =>
    cases hhandles with
    | approves hcall hactor =>
      subst hid hdevice
      exact ((hkept.stored hstored).mono hcons).move_approved
        (.approved (hcons hstart) hcall hactor.symm hother List.mem_cons_self)
  | waived hstored hid hdevice hsame =>
    cases hhandles with
    | waives hplan hwaives =>
      obtain @⟨_, device', actions, owner', fingerprint, policy, output, _, _, hlab, hhistory, -,
        hnamed⟩ := hwaives
      subst hid hdevice
      have hcreated : ⟨.coordinator (.createChangeSet device' actions owner' fingerprint policy),
          .ok output⟩ ∈ historyOf id trace := by
        rw [hhistory]
        exact .tail _ (.tail _ List.mem_cons_self)
      exact ((hkept.stored hstored).mono hcons).move_approved
        (.waived (hcons hstart) hplan hlab hnamed.symm
          (hcons (mem_historyOf_iff.mp hcreated)) List.mem_cons_self)
  | claimed hstored hid hdevice happroved =>
    -- a claim revises the record, which is no longer approved
    refine ((hkept.stored hstored).mono hcons).revises
      ⟨rfl, rfl, rfl, rfl, rfl, rfl, fun hstate => ?_⟩
    cases hstate

omit [Externals] in
/-- **An operation on the records keeps what holds of them.** -/
theorem Kept.operation (hkept : Kept coordinator records trace) (laws : coordinator.Lawful)
    (hstart : .start id served ∈ trace) (hhandles : served.Handles (historyOf id trace) op)
    (hstep : coordinator.Step records op reply records') :
    Kept coordinator records' (.event id ⟨.coordinator op, reply⟩ :: trace) := by
  have hcons : trace ⊆ .event id ⟨.coordinator op, reply⟩ :: trace := List.subset_cons_self _ _
  have hstored {key : String} {record : ChangeSet}
      (hfind : coordinator.find records' key = some record) :
      Tracked (.event id ⟨.coordinator op, reply⟩ :: trace) record := by
    rcases laws.writes hstep hfind with hold | hwrites
    · exact (hkept.stored hold).mono hcons
    · exact hkept.tracked_of_writes hstart hhandles hwrites
  refine ⟨hstored, fun hmem hanswers => ?_, fun hmem hspends => ?_, ?_⟩
  · rcases List.mem_cons.mp hmem with heq | hmem
    · obtain ⟨rfl, rfl⟩ := Entry.event.inj heq
      cases hanswers with
      | read =>
        obtain ⟨hfind, hdevice⟩ := laws.read hstep
        exact ⟨laws.id_of_find hfind, hdevice, (hkept.stored hfind).mono hcons⟩
      | listed hrecord =>
        exact ⟨rfl, rfl, (hkept.stored (laws.listed hstep hrecord)).mono hcons⟩
      | claimed =>
        obtain ⟨old, hold, hdevice, -, rfl, hnew⟩ := laws.claims hstep
        exact ⟨laws.id_of_find hnew, hdevice, hstored hnew⟩
    · obtain ⟨hid, hdevice, htracked⟩ := hkept.answered hmem hanswers
      exact ⟨hid, hdevice, htracked.mono hcons⟩
  · rcases List.mem_cons.mp hmem with rfl | hmem
    · obtain ⟨id', device, claimed, heq⟩ := hspends
      obtain ⟨rfl, heq⟩ := Entry.event.inj heq
      cases heq
      obtain ⟨old, -, -, -, rfl, hnew⟩ := laws.claims hstep
      exact laws.settled hnew rfl
    · exact laws.spent hstep (hkept.spent hmem hspends)
  · -- a second claim would find the record spent
    refine List.pairwise_cons.mpr ⟨fun entry hmem key hspends hspends' => ?_, hkept.once⟩
    obtain ⟨id', device, claimed, heq⟩ := hspends
    obtain ⟨rfl, heq⟩ := Entry.event.inj heq
    cases heq
    obtain ⟨old, hold, -, happroved, -⟩ := laws.claims hstep
    exact laws.unapproved (hkept.spent hmem hspends') hold happroved

end Keeping

/-! ### Runs -/

variable {coordinator : Coordinator} {ttl : ℕ}

/-- What a request rests on that an apply sends after this trace. -/
def ApplyCall.Justified (call : ApplyCall) (trace : ServerTrace) (id : ℕ) : Prop :=
  ∃ record : ChangeSet, record.id = call.changeSetId ∧ record.device = call.device ∧
    .event id ⟨.coordinator (.changeSet call.changeSetId call.device), .ok record⟩ ∈ trace ∧
    PlannedBy trace call.family record ∧ ApprovalGiven trace record ∧ PreviewStored trace record ∧
    call.Recomputed (historyOf id trace) record.expectedCandidateFingerprint ∧
    (call.server.evidence → .event id ⟨.evidence (.applyIntent call.requestId call.changeSetId
      call.device call.principal), .ok ()⟩ ∈ trace)

/-- **Change sets are applied once.** -/
structure AppliesOnce (trace : ServerTrace) : Prop where
  /-- No two requests that can change a cluster are sent for one change set. -/
  once : ∀ {newer mid older id id' served served' call call' client client' request request' ticket
    ticket'}, trace = newer ++ .event id' ⟨.http (.dispatch client' request'), ticket'⟩ ::
      (mid ++ .event id ⟨.http (.dispatch client request), ticket⟩ :: older) →
    request.Mutating → request'.Mutating → .start id served ∈ trace → .start id' served' ∈ trace →
    served.applyCall = some call → served'.applyCall = some call' →
    call.changeSetId ≠ call'.changeSetId
  /-- Every one is justified when it is sent. -/
  justified : ∀ {newer older id served call client request ticket},
    trace = newer ++ .event id ⟨.http (.dispatch client request), ticket⟩ :: older →
    request.Mutating → .start id served ∈ trace → served.applyCall = some call →
    client = call.cluster ∧ call.Justified older id
  /-- The other calls about change sets send none. -/
  prepares : ∀ {newer older id served client request ticket},
    trace = newer ++ .event id ⟨.http (.dispatch client request), ticket⟩ :: older →
    .start id served ∈ trace → served.Prepares → ¬ request.Mutating

section Runs

variable {pool : Pool (serverMachine coordinator ttl)}

/-- **The records of a run are kept.** -/
theorem kept_of_reachable (laws : coordinator.Lawful)
    (h : Reachable (serverMachine coordinator ttl) pool) :
    Kept coordinator pool.world.records pool.trace := by
  refine h.invariant (serverGuarantee coordinator ttl)
    (I := fun world trace => Kept coordinator world.records trace) ?_ ?_ ?_ ?_ ?_ ?_ ?_
  · rintro world ⟨-, hinitial⟩
    exact ⟨fun hfind => by simp [laws.empty hinitial] at hfind,
      fun hmem => absurd hmem List.not_mem_nil, fun hmem => absurd hmem List.not_mem_nil, .nil⟩
  · exact fun pool id call _ hkept _ => hkept.cons fun _ _ _ heq => by cases heq
  · intro pool id served op reply world' _ hkept hstart _ hallowed hstep
    cases hstep with
    | coordinator hstep => exact hkept.operation laws hstart (served.handles hallowed) hstep
    | _ => exact hkept.cons fun _ _ _ heq => by cases heq
  · exact fun pool id _ _ _ hkept _ _ => hkept.cons fun _ _ _ heq => by cases heq
  · exact fun pool id _ hkept => hkept.cons fun _ _ _ heq => by cases heq
  · rintro pool world' - hkept ⟨now, -, rfl⟩
    exact hkept.cons fun _ _ _ heq => by cases heq
  · rintro pool world' - hkept ⟨-, hrecords⟩
    rw [hrecords]
    exact hkept.cons fun _ _ _ heq => by cases heq

/-- What holds of the records held at every moment of the run. -/
theorem exists_kept (laws : coordinator.Lawful) (h : Reachable (serverMachine coordinator ttl) pool)
    {newer older : ServerTrace} {entry : Entry Effect Served CallResult}
    (htrace : pool.trace = newer ++ entry :: older) :
    ∃ records, Kept coordinator records older := by
  have hsuffix : older <:+ pool.trace := ⟨newer ++ [entry], by simp [htrace]⟩
  obtain ⟨before, hbefore, rfl⟩ := h.of_suffix hsuffix
  exact ⟨before.world.records, kept_of_reachable laws hbefore⟩

/-- What an apply has done before it sends. -/
private theorem ready_of_event (h : Reachable (serverMachine coordinator ttl) pool)
    {newer older : ServerTrace}
    {id ticket : ℕ} {served : Served} {call : ApplyCall} {client : String} {request : ApiRequest}
    (htrace : pool.trace = newer ++ .event id ⟨.http (.dispatch client request), ticket⟩ :: older)
    (hmutating : request.Mutating) (hstart : .start id served ∈ pool.trace)
    (hcall : served.applyCall = some call) : client = call.cluster ∧ ∃ record claimed,
      call.Ready record claimed (historyOf id older) ∧
      (∃ action, record.actions.head? = some action ∧ call.family.Reads action) ∧
      call.Recomputed (historyOf id older) record.expectedCandidateFingerprint :=
  Served.ready_of_sends hcall (sends_of_event h htrace hstart hmutating)

omit [Externals] in
/-- A ready call has spent the approval of its change set. -/
theorem Kept.spends_of_ready {records : coordinator.State} {trace : ServerTrace} {id : ℕ}
    {call : ApplyCall} {record claimed : ChangeSet} (hkept : Kept coordinator records trace)
    (hready : call.Ready record claimed (historyOf id trace)) :
    .event id ⟨.coordinator (.claimChangeSetForApply call.changeSetId call.device), .ok claimed⟩ ∈
      trace := by
  have hread := mem_historyOf_iff.mp hready.reviewed.1
  obtain ⟨hid, hdevice, -⟩ := hkept.answered hread .read
  have hclaim := mem_historyOf_iff.mp hready.spent
  rwa [hid, hdevice] at hclaim

/-- **A ready call is justified.** -/
theorem Kept.justified {records : coordinator.State} {trace : ServerTrace} {id : ℕ}
    {call : ApplyCall} {record claimed : ChangeSet} (hkept : Kept coordinator records trace)
    (hready : call.Ready record claimed (historyOf id trace))
    (hreads : ∃ action, record.actions.head? = some action ∧ call.family.Reads action)
    (hrecomputed : call.Recomputed (historyOf id trace) record.expectedCandidateFingerprint) :
    call.Justified trace id := by
  obtain ⟨hread, hpreview, happroved⟩ := hready.reviewed
  replace hread := mem_historyOf_iff.mp hread
  obtain ⟨hid, hdevice, htracked⟩ := hkept.answered hread .read
  obtain ⟨family, hplanned⟩ := htracked.planned
  obtain ⟨action, haction, hreads⟩ := hreads
  have hfamily : family = call.family := by
    obtain ⟨-, -, hstores, hactions, -⟩ := hplanned
    rw [hactions, List.head?_cons] at haction
    exact Family.eq_of_reads hstores (Option.some.inj haction ▸ hreads)
  obtain ⟨hclaimedId, hclaimedDevice, -⟩ :=
    hkept.answered (hkept.spends_of_ready hready) .claimed
  refine ⟨record, hid, hdevice, hread, hfamily ▸ hplanned, htracked.approved happroved,
    htracked.previewed hpreview, hrecomputed, fun hevidence => ?_⟩
  have hintent := mem_historyOf_iff.mp (hready.intent hevidence)
  rwa [hclaimedId, hclaimedDevice] at hintent

end Runs

/-- **Change sets are applied once**, in every run over a lawful coordinator. -/
theorem appliesOnce_of_reachable (laws : coordinator.Lawful)
    {pool : Pool (serverMachine coordinator ttl)}
    (h : Reachable (serverMachine coordinator ttl) pool) : AppliesOnce pool.trace where
  once := by
    intro newer mid older id id' served served' call call' client client' request request' ticket
      ticket' htrace hmutating hmutating' hstart hstart' hcall hcall' hsame
    have hfirst : pool.trace = (newer ++ .event id' ⟨.http (.dispatch client' request'), ticket'⟩ ::
        mid) ++ .event id ⟨.http (.dispatch client request), ticket⟩ :: older := by
      simp [htrace]
    obtain ⟨-, record, claimed, hready, -⟩ := ready_of_event h hfirst hmutating hstart hcall
    obtain ⟨-, record', claimed', hready', -⟩ := ready_of_event h htrace hmutating' hstart' hcall'
    by_cases hid : id = id'
    · -- a call that has sent a request sends no other
      subst hid
      refine hready'.unsent ⟨.http (.dispatch client request), ticket⟩ ?_ hmutating
      exact mem_historyOf_iff.mpr (List.mem_append_right _ List.mem_cons_self)
    · -- two calls would both have spent the approval
      obtain ⟨records, hkept⟩ := exists_kept laws h hfirst
      obtain ⟨records', hkept'⟩ := exists_kept laws h htrace
      have hclaim := hkept.spends_of_ready hready
      have hclaim' := hkept'.spends_of_ready hready'
      have hearlier := List.mem_append_right mid (List.mem_cons_of_mem
        (.event id ⟨.http (.dispatch client request), ticket⟩) hclaim)
      have hentry := hkept'.eq_of_spends hearlier hclaim' ⟨_, _, _, rfl⟩ ⟨_, _, _, by rw [hsame]⟩
      exact hid (Entry.event.inj hentry).1
  justified := by
    intro newer older id served call client request ticket htrace hmutating hstart hcall
    obtain ⟨hclient, record, claimed, hready, hreads, hrecomputed⟩ :=
      ready_of_event h htrace hmutating hstart hcall
    obtain ⟨records, hkept⟩ := exists_kept laws h htrace
    exact ⟨hclient, hkept.justified hready hreads hrecomputed⟩
  prepares := by
    intro newer older id served client request ticket htrace hstart hprepares hmutating
    exact hprepares.not_sends (sends_of_event h htrace hstart hmutating)

/-! ### A copy that is planned, approved and applied -/

section Copied

/-- The server over a coordinator in memory. -/
abbrev memoryMachine : Machine Effect := @serverMachine Externals.plain Coordinator.inMemory 30

/-- Plan the copy. -/
def planCopyCall : Served := ⟨oneClusterServer, .serve (some destructiveCaller)
  (.planRestoreNewVmid ⟨"pve", "pve1", 901, "qemu", ownedAction.volid⟩)⟩

/-- Another principal approves it. -/
def approveCopyCall : Served := ⟨oneClusterServer, .serve
  (some { destructiveCaller with tokenName := "reviewer", actorType := .human })
  (.approveChangeSet ⟨"cs-1", "pve", 901⟩)⟩

/-- The record of the plan, before its preview is stored and after. -/
def createdCopy : ChangeSet := { approvedCopy with state := .planned, preview := none }

def plannedCopy : ChangeSet := { approvedCopy with state := .planned }

def planCopyEvents : List (Event Effect) :=
  archiveEvents (storedOwner 0 5) 1 1 13 ++
    [⟨.coordinator (.createChangeSet "pve/901" [ownedAction.toJson] "planner"
        createdCopy.expectedCandidateFingerprint policySignature),
        .ok (RecordList.output createdCopy)⟩,
      ⟨.coordinator .changeSets, [createdCopy]⟩]

def approveCopyEvents : List (Event Effect) :=
  ⟨.coordinator (.changeSet "cs-1" "pve/901"), .ok plannedCopy⟩ ::
    (storedOwner 1 23 ++ [⟨.unixNow, (0 : UInt64)⟩])

omit [Externals] in
theorem planCopyCall_reaches : ∃ next,
    Reaches (@Served.body Externals.plain planCopyCall) planCopyEvents
      (.perform (.coordinator (.updateChangeSet plannedCopy)) next) := by
  apply Exists.intro
  iterate 17 refine Reaches.step _ _ _ ?_
  exact Reaches.refl _

omit [Externals] in
theorem approveCopyCall_reaches : ∃ next,
    Reaches (@Served.body Externals.plain approveCopyCall) approveCopyEvents
      (.perform (.coordinator (.approveChangeSet "cs-1" "pve/901" "reviewer" plannedCopy.digest
        .human)) next) := by
  apply Exists.intro
  iterate 7 refine Reaches.step _ _ _ ?_
  exact Reaches.refl _

omit [Externals] in
/-- The three calls run one after the other; the apply finds the owner in the listing that the
approval has asked for. -/
theorem performs_copy : ∃ planned approved applied,
    memoryMachine.Performs ⟨⟨fun _ => none, 0, 0⟩, .empty⟩ 1 []
      (planCopyEvents ++ [⟨.coordinator (.updateChangeSet plannedCopy), .ok ()⟩]) planned ∧
    memoryMachine.Performs planned 20 [] (approveCopyEvents ++ [⟨.coordinator
      (.approveChangeSet "cs-1" "pve/901" "reviewer" plannedCopy.digest .human),
      .ok (RecordList.output approvedCopy)⟩]) approved ∧
    memoryMachine.Performs approved 29 []
      (copyOwnedEvents [⟨.index (.lookupFresh "pve" 100), some (ownerHit 23)⟩] 2 30 38 ++
        [⟨.http (.dispatch "pve" copyRequest), (42 : ℕ)⟩]) applied := by
  exact ⟨_, _, _,
    .cons (.dispatch _ _) <| .cons (.await _ _) <| .cons (.lookupFresh rfl) <|
      .cons (.loadGeneration rfl) <| .cons (.dispatch _ _) <| .cons (.await _ _) <|
      .cons (.storeIfCurrent rfl) <| .cons (.unixNow _) <| .cons (.index .bumpGeneration) <|
      .cons (.index (.removeSnapshot "pve")) <| .cons (.lookupFresh rfl) <|
      .cons (.loadGeneration rfl) <| .cons (.dispatch _ _) <| .cons (.await _ _) <|
      .cons (.storeIfCurrent rfl) <| .cons (.coordinator ⟨"cs-1", rfl, rfl⟩) <|
      .cons (.coordinator ⟨"cs-2", rfl, rfl⟩) <| .cons (.coordinator ⟨"cs-2", rfl, rfl⟩) .nil,
    .cons (.coordinator ⟨"cs-2", rfl, rfl⟩) <| .cons (.lookupFresh rfl) <|
      .cons (.loadGeneration rfl) <| .cons (.dispatch _ _) <| .cons (.await _ _) <|
      .cons (.storeIfCurrent rfl) <| .cons (.unixNow _) <|
      .cons (.coordinator ⟨"cs-2", rfl, rfl⟩) .nil,
    .cons (.coordinator ⟨"cs-2", rfl, rfl⟩) <| .cons (.dispatch _ _) <|
      .cons (.await _ _) <| .cons (.lookupFresh rfl) <| .cons (.unixNow _) <|
      .cons (.index .bumpGeneration) <| .cons (.index (.removeSnapshot "pve")) <|
      .cons (.lookupFresh rfl) <| .cons (.loadGeneration rfl) <| .cons (.dispatch _ _) <|
      .cons (.await _ _) <| .cons (.storeIfCurrent rfl) <|
      .cons (.coordinator ⟨"cs-2", rfl, rfl⟩) <| .cons (.dispatch _ _) .nil⟩

omit [Externals] in
/-- The copy is sent, and it is applied once. -/
theorem appliesOnce_of_copy : ∃ pool : Pool memoryMachine,
    .event 2 ⟨.http (.dispatch "pve" copyRequest), (42 : ℕ)⟩ ∈ pool.trace ∧
      @AppliesOnce Externals.plain pool.trace := by
  let _ : Externals := Externals.plain
  have hempty : Reachable memoryMachine ⟨⟨⟨fun _ => none, 0, 0⟩, .empty⟩, fun _ => none, []⟩ :=
    .initial ⟨rfl, rfl⟩
  obtain ⟨planned, approved, applied, hplan, happrove, happly⟩ := performs_copy
  obtain ⟨_, hplanned⟩ := planCopyCall_reaches
  obtain ⟨pool, hpool, hworld, htrace⟩ := @Reachable.call _ _ _ hempty 0 planCopyCall _ _ _ _ _
    (fun _ => List.not_mem_nil) hplanned hplan
  have hlength : pool.trace.length = 19 := by
    simp [htrace, planCopyEvents, archiveEvents, storedOwner, fetchedOwner]
  have hunused : Fresh 1 pool.trace := by simp [Fresh, htrace]
  rw [← hworld, show 20 = pool.trace.length + 1 by rw [hlength]] at happrove
  obtain ⟨_, happroved⟩ := approveCopyCall_reaches
  obtain ⟨pool', hpool', hworld', htrace'⟩ :=
    @Reachable.call _ _ _ hpool 1 approveCopyCall _ _ _ _ _
    hunused happroved happrove
  have hlength' : pool'.trace.length = 28 := by
    simp [htrace', hlength, approveCopyEvents, storedOwner, fetchedOwner]
  have hunused' : Fresh 2 pool'.trace := by simp [Fresh, htrace', htrace]
  rw [← hworld', show 29 = pool'.trace.length + 1 by rw [hlength']] at happly
  obtain ⟨_, happlied⟩ := copyCall_reaches_of_cached 2 30 23 38
  obtain ⟨final, hfinal, -, htrace₂⟩ := @Reachable.call _ _ _ hpool' 2 copyCall _ _ _ _ _
    hunused' happlied happly
  exact ⟨final, by simp [htrace₂], appliesOnce_of_reachable Coordinator.lawful_inMemory hfinal⟩

end Copied

end ProxmoxMcp
