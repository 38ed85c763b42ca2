import ProxmoxMcp.Interaction.Heeds
import ProxmoxMcp.Server.Approval
import ProxmoxMcp.Server.Changes

/-!
# Warrants

A **warrant** says what a tool call may do at all, whatever it has seen: on which cluster, and
whether it may change that cluster, and whether it may plan or claim a change. `Op.Under` are the
operations under a warrant.

Everything a handler is put together from stays under the warrant of the call, given a client of its
cluster. Code that changes a cluster needs a warrant that lets it; code that plans or claims, one
that lets it do that.
-/

namespace ProxmoxMcp

open Interaction Program Text

/-- What a tool call may do. -/
structure Warrant where
  cluster : String
  /-- The call may send a request that can change the cluster. -/
  sends : Prop
  /-- The call may record a plan, or claim one. -/
  records : Prop

/-- The clusters an operation is about. Clearing the guest index and reading the inventory again
concern every cluster. -/
def Op.Concerns : Op → String → Prop
  | index (.lookupFresh name _), cluster => cluster = name
  | index (.storeIfCurrent name _ _), cluster => cluster = name
  | index (.removeSnapshot name), cluster => cluster = name
  | http (.dispatch client _), cluster => cluster = client
  | index .clearSnapshots, _ | reloadInventory, _ => True
  | index .loadGeneration, _ | index .bumpGeneration, _ | http (.await _), _ | coordinator _, _
  | evidence _, _ | unixNow, _ | pollWait _, _ => False

/-- The operation records a plan or claims one. -/
def Op.Records : Op → Prop
  | coordinator (.createChangeSet _ _ _ _ _) | coordinator (.claimChangeSetForApply _ _) => True
  | _ => False

/-- The operation is under a warrant. -/
structure Op.Under (warrant : Warrant) (op : Op) : Prop where
  concerns : ∀ cluster, op.Concerns cluster → cluster = warrant.cluster
  sends : op.Mutates → warrant.sends
  records : op.Records → warrant.records

/-- Code under a warrant, whatever it comes to. -/
abbrev Warranted {ε α : Type} (warrant : Warrant) (p : ExceptT ε (Program Effect) α) : Prop :=
  Heeds (Op.Under warrant) (fun _ => True) p

/-- One part behind another. -/
theorem warranted_bind {ε α β : Type} {warrant : Warrant} {p : ExceptT ε (Program Effect) α}
    {f : α → ExceptT ε (Program Effect) β} (hp : Warranted warrant p)
    (hf : ∀ value, Warranted warrant (f value)) : Warranted warrant (p >>= f) :=
  Heeds.bind hp fun value _ => hf value

section Operations

variable {warrant : Warrant}

/-- An operation that names no cluster and neither changes nor records anything. -/
theorem Op.under_of_aside {op : Op} (hcluster : ∀ cluster, ¬ op.Concerns cluster)
    (hmutates : ¬ op.Mutates) (hrecords : ¬ op.Records) : op.Under warrant :=
  ⟨fun cluster h => absurd h (hcluster cluster), fun h => absurd h hmutates,
    fun h => absurd h hrecords⟩

/-- A request goes to the cluster of the warrant, and needs its leave if it can change it. -/
theorem Op.under_dispatch {request : ApiRequest} (hsends : request.Mutating → warrant.sends) :
    (Op.http (.dispatch warrant.cluster request)).Under warrant :=
  ⟨fun _ h => h, hsends, False.elim⟩

theorem Op.under_await {ticket : ℕ} : (Op.http (.await ticket)).Under warrant :=
  under_of_aside (fun _ => not_false) not_false not_false

theorem Op.under_unixNow : Op.unixNow.Under warrant :=
  under_of_aside (fun _ => not_false) not_false not_false

/-- An operation on records needs leave if it plans or claims. -/
theorem Op.under_coordinator {op : CoordinatorOp}
    (hrecords : (Op.coordinator op).Records → warrant.records) :
    (Op.coordinator op).Under warrant :=
  ⟨fun _ h => h.elim, False.elim, hrecords⟩

theorem Op.under_evidence {op : EvidenceOp} : (Op.evidence op).Under warrant :=
  under_of_aside (fun _ => not_false) not_false not_false

end Operations

variable [Externals] {warrant : Warrant} {client : ProxmoxClient}

/-! ### Requests -/

section Requests

variable {request : ApiRequest}

/-- A client of the cluster sends under the warrant. -/
theorem warranted_send (hclient : client.name = warrant.cluster)
    (hsends : request.Mutating → warrant.sends) : Warranted warrant (client.send request) := by
  refine Heeds.liftExcept fun _ _ => Heeds.liftExcept fun _ _ => ?_
  rw [hclient]
  refine Heeds.request (Op.under_dispatch hsends) fun ticket => ?_
  exact Heeds.request Op.under_await fun _ => Heeds.liftExcept fun _ _ =>
    heeds_liftExcept fun _ _ => trivial

/-- Sending a request and reading the answer. -/
theorem warranted_send_read {α : Type} {read : Json → Except ProxmoxError α}
    (hclient : client.name = warrant.cluster) (hsends : request.Mutating → warrant.sends) :
    Warranted warrant (do liftM (read (← client.send request)) : ClientM α) :=
  (warranted_send hclient hsends).bind fun _ _ => heeds_liftExcept fun _ _ => trivial

omit [Externals] in
/-- A read changes nothing. -/
theorem sends_of_get (hget : request.method = .get) : request.Mutating → warrant.sends :=
  fun hmutating => absurd hget hmutating

/-- A request that starts a task needs the leave to send. -/
theorem warranted_runTask (hclient : client.name = warrant.cluster) (hsends : warrant.sends) :
    Warranted warrant (viaClient (Guests.runTask client request)) :=
  heeds_mapError (warranted_send_read hclient fun _ => hsends)

/-- Looking up whose archive a volume is only reads. -/
theorem warranted_resolveBackupOwner {node volid : String}
    (hclient : client.name = warrant.cluster) :
    Warranted warrant (Guests.resolveBackupOwner client node volid) :=
  Heeds.required fun _ _ => warranted_send_read hclient (sends_of_get rfl)

private theorem warranted_requireBackupOwner {node volid : String} {vmid : UInt32}
    (hclient : client.name = warrant.cluster) :
    Warranted warrant (requireBackupOwner client node volid vmid) :=
  (heeds_mapError (warranted_resolveBackupOwner hclient)).bind fun _ _ => heeds_ensure

/-- Executing an action needs the leave to send. -/
theorem warranted_executeDestructive {action : DestroyAction} {kind : GuestType} {node : String}
    {vmid : UInt32} (hclient : client.name = warrant.cluster) (hsends : warrant.sends) :
    Warranted warrant (executeDestructive client action kind node vmid) := by
  rw [executeDestructive_eq_run, Change.run]
  have hsend {change : Change} : Warranted warrant (do
      let request ← liftM change.request
      let data ← client.send request
      if change.namesTask then liftM (Guests.upidFrom data) else return data.asStr.getD "" :
        ClientM String) := by
    refine Heeds.liftExcept fun request _ => (warranted_send hclient fun _ => hsends).bind
      fun data _ => ?_
    split_ifs
    · exact heeds_liftExcept fun _ _ => trivial
    · exact heeds_pure trivial
  cases (action.change kind node vmid).archive with
  | none => exact hsend
  | some archive => exact (warranted_requireBackupOwner hclient).bind fun _ _ => hsend

/-- Writing a rule needs the leave to send. -/
theorem warranted_writeHaRule {action : HaRuleAction} {existing : Option Json}
    (hclient : client.name = warrant.cluster) (hsends : warrant.sends) :
    Warranted warrant (writeHaRule client action existing) := by
  have hwrite {request : ApiRequest} :
      Warranted warrant (do let _ ← client.send request : ClientM Unit) :=
    (warranted_send hclient fun _ => hsends).bind fun _ _ => heeds_pure trivial
  unfold writeHaRule
  split
  · exact hwrite
  · exact Heeds.ensure fun _ => hwrite
  · exact hwrite
  · exact heeds_throw

/-- Polling a task reads its status. -/
private theorem warranted_pollTask {node upid : String} (hclient : client.name = warrant.cluster)
    (fuel attempts : ℕ) : Warranted warrant (pollTask client node upid fuel attempts) := by
  induction fuel generalizing attempts with
  | zero => exact heeds_throw
  | succ fuel ih =>
    have hprobe : Warranted warrant (probeTask client node upid) :=
      (heeds_mapError (warranted_send hclient (sends_of_get rfl))).bind fun _ _ =>
        heeds_liftExcept fun _ _ => trivial
    refine (heeds_mapError hprobe).bind fun exitstatus _ => ?_
    cases exitstatus with
    | some exitstatus => exact heeds_pure trivial
    | none =>
      refine Heeds.request (Op.under_of_aside (fun _ => not_false) not_false not_false)
        fun decision => ?_
      cases decision with
      | again => exact ih (attempts + 1)
      | _ => exact heeds_throw

end Requests

/-! ### Guests -/

section Guests

omit [Externals] in
/-- Dropping the listing of the cluster. -/
theorem warranted_invalidateCluster (warrant : Warrant) {ε : Type} :
    Warranted warrant (invalidateCluster warrant.cluster : ExceptT ε (Program Effect) Unit) := by
  refine Heeds.request (Op.under_of_aside (fun _ => not_false) not_false not_false) fun _ => ?_
  exact heeds_request ⟨fun _ h => h, False.elim, False.elim⟩

/-- Looking a guest up asks for the listing of the cluster at most. -/
theorem warranted_resolve {vmid : UInt32} (hclient : client.name = warrant.cluster) :
    Warranted warrant (resolve client warrant.cluster vmid) := by
  refine Heeds.request ⟨fun _ h => h, False.elim, False.elim⟩ fun hit => ?_
  cases hit with
  | some hit => exact heeds_pure trivial
  | none =>
    refine Heeds.request (Op.under_of_aside (fun _ => not_false) not_false not_false)
      fun generation => ?_
    have hfetch : Warranted warrant (fetchGuests client warrant.cluster) :=
      warranted_send_read hclient (sends_of_get rfl)
    refine hfetch.bind fun guests _ => ?_
    refine Heeds.request ⟨fun _ h => h, False.elim, False.elim⟩ fun _ => ?_
    cases guests vmid with
    | some guest => exact heeds_pure trivial
    | none => exact heeds_throw

/-- Authorizing a call on a guest looks the guest up. -/
theorem warranted_authorize {vmid : UInt32} {grant : ProxmoxGrant} {intent : Intent}
    (hclient : client.name = warrant.cluster) :
    Warranted warrant (authorize client warrant.cluster vmid grant intent) := by
  refine Heeds.attempt (warranted_resolve hclient) fun outcome => ?_
  cases outcome with
  | ok guest => exact heeds_liftExcept fun _ _ => trivial
  | error error => cases error <;> exact heeds_throw

/-- Authorizing with an override; what succeeds carries the tier of its intent. -/
theorem heeds_authorizeWithOverride {server : ProxmoxServer} {vmid : UInt32} {grant : ProxmoxGrant}
    {op : Except ToolResult String} {principal : Option String} {intent : Bool → Intent}
    (tier : Tier) (hclient : client.name = warrant.cluster)
    (htier : ∀ applies, (intent applies).tier = tier) :
    Heeds (Op.Under warrant) (fun verdict => verdict.authorization.client = client ∧
        grant.allowsAction tier.action)
      (authorizeWithOverride server client warrant.cluster vmid grant op principal intent) := by
  have hprotection : Warranted warrant (lookedUpProtection client warrant.cluster vmid) :=
    Heeds.attempt (warranted_resolve hclient) fun outcome => by
      cases outcome <;> exact heeds_pure trivial
  refine hprotection.bind fun protection _ => Heeds.request Op.under_unixNow fun now =>
    Heeds.liftExcept fun op _ => ?_
  refine (heeds_mapError (warranted_authorize hclient)).bind fun certificate _ =>
    heeds_pure ⟨rfl, ?_⟩
  have hcarries := certificate.carriesTier
  rwa [htier] at hcarries

/-- Reading the state of a guest reads its configuration. -/
theorem warranted_readGuestState {guest : ResolvedGuest} (hclient : client.name = warrant.cluster) :
    Warranted warrant (readGuestState client warrant.cluster guest) :=
  (heeds_mapError (warranted_send_read hclient (sends_of_get rfl))).bind fun _ _ =>
    heeds_pure trivial

theorem warranted_checkPlannedOwner {action : DestroyAction} {guest : ResolvedGuest} {vmid : UInt32}
    (hclient : client.name = warrant.cluster) :
    Warranted warrant (checkPlannedOwner client action guest vmid) :=
  heeds_onlyIf fun _ => heeds_mapError (warranted_requireBackupOwner hclient)

/-- The checks of a plan read the cluster at most. -/
theorem warranted_checkPlannable {action : DestroyAction} {guest : ResolvedGuest} {cluster : String}
    (hclient : client.name = warrant.cluster) :
    Warranted warrant (checkPlannable client action guest cluster) := by
  refine Heeds.ensure fun _ => Heeds.bind (R := fun _ => True) (heeds_onlyIf fun _ => ?_)
    fun _ _ => heeds_ensure
  refine Heeds.ensure fun _ => Heeds.liftExcept fun _ _ => ?_
  have hnodes : Warranted warrant (Guests.listNodeNames client) :=
    warranted_send_read hclient (sends_of_get rfl)
  exact (heeds_mapError hnodes).bind fun _ _ => heeds_ensure

/-- Making sure that a number is free looks it up on a new listing. -/
theorem warranted_requireFree {vmid : UInt32} {taken unknown : String → String}
    (hclient : client.name = warrant.cluster) :
    Warranted warrant (requireFree client warrant.cluster vmid taken unknown) := by
  refine (warranted_invalidateCluster warrant).bind fun _ _ =>
    Heeds.attempt (warranted_resolve hclient) fun outcome => ?_
  cases outcome with
  | ok existing => exact heeds_throw
  | error error =>
    cases error with
    | notFound what => exact heeds_pure trivial
    | _ => exact heeds_throw

/-- The owner of an archive is looked up in the same cluster. -/
theorem warranted_authorizeBackupOwner {server : ProxmoxServer} {vmid : UInt32}
    {grant : ProxmoxGrant} {volid : String} {principal : Option String}
    (hclient : client.name = warrant.cluster) : Warranted warrant
      (server.authorizeBackupOwner client warrant.cluster vmid grant volid principal) := by
  refine Heeds.attempt (warranted_resolve hclient) fun outcome => ?_
  cases outcome with
  | ok owner =>
    exact Heeds.ensure fun _ => Heeds.request Op.under_unixNow fun _ => heeds_ensure
  | error error =>
    cases error with
    | notFound what => exact heeds_ensure
    | _ => exact heeds_throw

theorem warranted_requireRecordedOwner {action : RestoreNewVmidAction}
    (hclient : client.name = warrant.cluster) :
    Warranted warrant (requireRecordedOwner client action) :=
  (heeds_mapError (warranted_resolveBackupOwner hclient)).bind fun _ _ => heeds_ensure

theorem warranted_readCurrentRule {rule : String} (hclient : client.name = warrant.cluster) :
    Warranted warrant (readCurrentRule client rule) :=
  heeds_mapError (Heeds.attempt (warranted_send hclient (sends_of_get rfl)) fun _ =>
    heeds_liftExcept fun _ _ => trivial)

private theorem warranted_authorizeHaRuleGuest {server : ProxmoxServer} {caller : Option CallerCtx}
    {grant : ProxmoxGrant} {op : String} {now : UInt64} {vmid : UInt32}
    (hclient : client.name = warrant.cluster) : Warranted warrant
      (server.authorizeHaRuleGuest client warrant.cluster caller grant op now vmid) := by
  refine Heeds.attempt (warranted_resolve hclient) fun outcome => ?_
  cases outcome with
  | ok guest =>
    exact (heeds_mapError (warranted_authorize hclient)).bind fun _ _ => heeds_pure trivial
  | error error =>
    cases error with
    | notFound what => exact Heeds.ensure fun _ => heeds_ensure
    | _ => exact heeds_throw

/-- The guests of a rule are looked up in the same cluster. -/
theorem warranted_authorizeHaRuleGuests {server : ProxmoxServer} {caller : Option CallerCtx}
    {action : HaRuleAction} {existing : Option Json} (hclient : client.name = warrant.cluster) :
    Warranted warrant
      (server.authorizeHaRuleGuests client warrant.cluster caller action existing) := by
  refine Heeds.liftExcept fun _ _ => Heeds.liftExcept fun _ _ => Heeds.liftExcept fun _ _ =>
    Heeds.liftExcept fun _ _ => (warranted_invalidateCluster warrant).bind fun _ _ => ?_
  exact Heeds.request Op.under_unixNow fun _ => heeds_forM fun _ _ =>
    warranted_authorizeHaRuleGuest hclient

end Guests

/-! ### Records -/

section Records

theorem warranted_recordOf {id device : String} : Warranted warrant (recordOf id device) :=
  Heeds.request (Op.under_coordinator False.elim) fun _ => heeds_liftExcept fun _ _ => trivial

/-- Recording a plan needs the leave to record. -/
theorem warranted_recordPlan {device owner fingerprint preview : String} {action : Json}
    (hrecords : warrant.records) :
    Warranted warrant (recordPlan device action owner fingerprint preview) := by
  refine Heeds.request (Op.under_coordinator fun _ => hrecords) fun _ => Heeds.liftExcept
    fun output _ => ?_
  refine Heeds.request (Op.under_coordinator False.elim) fun records => Heeds.required
    fun record _ => ?_
  exact Heeds.request (Op.under_coordinator False.elim) fun _ => Heeds.liftExcept fun _ _ =>
    heeds_pure trivial

/-- Waiving an approval neither plans nor claims. -/
theorem warranted_waiveInLabMode {override : Override} {device owner : String}
    {output : ChangeSetOutput} :
    Warranted warrant (waiveInLabMode override device owner output) := by
  cases override with
  | labMode =>
    exact Heeds.request (Op.under_coordinator False.elim) fun _ => heeds_liftExcept
      fun _ _ => trivial
  | _ => exact heeds_pure trivial

/-- Approving a record neither plans nor claims. -/
theorem warranted_approveRecord {caller : Option CallerCtx} {id device : String}
    {record : ChangeSet} {preview : PreviewRecord} :
    Warranted warrant (approveRecord caller id device record preview) :=
  Heeds.request (Op.under_coordinator False.elim) fun _ => Heeds.liftExcept fun _ _ =>
    heeds_pure trivial

/-! ### Applying -/

namespace ApplyCall

variable {call : ApplyCall} {claimed : ChangeSet}

omit [Externals] in
private theorem warranted_settle {updated : ChangeSet} : Warranted warrant (settle updated) :=
  Heeds.request (Op.under_coordinator False.elim) fun _ => heeds_pure trivial

omit [Externals] in
private theorem warranted_receipt {succeeded : Bool} {error : String} :
    Warranted warrant (call.receipt claimed succeeded error) :=
  heeds_onlyIf fun _ => Heeds.request Op.under_evidence fun _ => heeds_pure trivial

omit [Externals] in
theorem warranted_finish {succeeded : Bool} {error : String} :
    Warranted warrant (call.finish claimed succeeded error) :=
  warranted_receipt.bind fun _ _ => warranted_settle

/-- The intent goes to the recorder. -/
private theorem warranted_recordIntent : Warranted warrant (call.recordIntent claimed) := by
  refine heeds_onlyIf fun _ => Heeds.request Op.under_evidence fun reply => ?_
  cases reply with
  | ok _ => exact heeds_pure trivial
  | error error =>
    exact Heeds.request (Op.under_coordinator False.elim) fun settled => by
      cases settled <;> exact heeds_throw

/-- Running an apply claims its record and sends its change. -/
theorem warranted_run {α : Type} {record : ChangeSet} {send : ClientM α}
    (hrecords : warrant.records) (hsend : Warranted warrant send) :
    Warranted warrant (call.run record send) := by
  refine Heeds.bind (R := fun _ => True) (Heeds.request (Op.under_coordinator fun _ => hrecords)
    fun _ => heeds_liftExcept fun _ _ => trivial) fun claimed _ => ?_
  refine warranted_recordIntent.bind fun _ _ => Heeds.attempt hsend fun outcome => ?_
  cases outcome with
  | ok value => exact heeds_pure trivial
  | error error =>
    exact Heeds.bind (R := fun _ => True) (heeds_onlyIf fun _ => warranted_receipt.bind fun _ _ =>
      warranted_settle) fun _ _ => heeds_throw

/-- Following a change reads the task and writes its record. -/
private theorem warranted_follow {upid : String} {extra : List (String × Json)}
    (hclient : client.name = warrant.cluster) :
    Warranted warrant (call.follow client claimed upid extra) := by
  rw [follow]
  split
  · exact warranted_finish.bind fun _ _ => heeds_pure trivial
  · refine Heeds.liftExcept fun task _ => warranted_settle.bind fun _ _ =>
      (warranted_pollTask hclient 300 0).bind fun exitstatus _ => ?_
    cases classifyExitStatus exitstatus with
    | ok => exact warranted_finish.bind fun _ _ => heeds_pure trivial
    | failed message => exact warranted_finish.bind fun _ _ => heeds_throw

theorem warranted_run_follow {record : ChangeSet} {send : ClientM String}
    {extra : List (String × Json)} (hclient : client.name = warrant.cluster)
    (hrecords : warrant.records) (hsend : Warranted warrant send) : Warranted warrant (do
      let (claimed, upid) ← call.run record send
      call.follow client claimed upid extra) :=
  (warranted_run hrecords hsend).bind fun _ _ => warranted_follow hclient

end ApplyCall

end Records

end ProxmoxMcp
