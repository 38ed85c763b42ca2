import ProxmoxMcp.Core.ClusterStates
import ProxmoxMcp.Core.PathExpansion
import ProxmoxMcp.Server.Calls

/-!
# No existence oracle

A caller whose grant does not admit a guest is not to learn whether that guest exists. So a call
that reaches it by its number has to be answered alike in two states of the clusters that differ in
this guest alone (`Twins`, `AnsweredAlike`).

Authorizing a call gives one text for a guest that is absent and for one outside the scope, and the
tools that authorize first end with it. A change to an HA rule does so for each member of the rule.
A plan to restore an archive into a new vmid does not: an owner outside the scope and an owner that
is gone are refused in two different texts. `answeredAlike_iff` says that this is the only
exception.

The two runs need not perform the same operations, since a guest that is not cached is fetched. What
they come to is compared through `Determined`.
-/

namespace ProxmoxMcp

open Interaction ProxmoxError Text
open Program hiding bind

variable [Externals]

/-! ### Two states -/

/-- Two states of the clusters that differ in one guest at most, which the caller's grant admits in
neither: not as the guest that is listed, and not as a bare number. -/
structure Twins (caller : Option CallerCtx) (cluster : String) (vmid : UInt32)
    (s s' : ClusterState) : Prop where
  agree : ∀ {c u}, c ≠ cluster ∨ u ≠ vmid → s.guests c u = s'.guests c u
  number : ∀ {grant}, resolveGrant caller = .ok grant → ¬ grant.allowsNewVmid vmid
  guest : ∀ {grant guest}, resolveGrant caller = .ok grant →
    s.guests cluster vmid = some guest ∨ s'.guests cluster vmid = some guest →
      ¬ grant.allowsGuest guest.facts

/-- The runs in one of two states. -/
def runsInEither (backdrop : Backdrop) (s s' : ClusterState) : Setting Effect :=
  (runsIn backdrop s).either (runsIn backdrop s')

section Rules

variable {server : ProxmoxServer} {caller : Option CallerCtx} {backdrop : Backdrop}
  {s s' : ClusterState} {client : ProxmoxClient} {grant : ProxmoxGrant} {vmid : UInt32}

private theorem determined_unixNow {ε : Type} :
    Determined (runsInEither backdrop s s') (unixNow : ExceptT ε (Program Effect) UInt64).run :=
  determined_request backdrop.now fun _ _ htook => htook.elim (·.1) (·.1)

private theorem determined_coordinator {ε : Type} (op : CoordinatorOp) :
    Determined (runsInEither backdrop s s')
      (Program.request (S := Effect) (.coordinator op) : ExceptT ε (Program Effect) op.Reply).run :=
  determined_request (backdrop.records op) fun _ _ htook => htook.elim (·.1) (·.1)

private theorem determined_invalidateCluster {ε : Type} (cluster : String) :
    Determined (runsInEither backdrop s s')
      (invalidateCluster cluster : ExceptT ε (Program Effect) Unit).run :=
  (determined_request () fun _ _ _ => rfl).run_bind fun _ =>
    determined_request () fun _ _ _ => rfl

/-- A request for anything but the guests is answered alike. -/
private theorem confined_send_of_ne {request : ApiRequest} (hrequest : request ≠ listingRequest)
    (hsendable : client.Sendable request) : Confined (runsInEither backdrop s s')
      (· = ProxmoxClient.readReply (backdrop.respond client.name request))
      (client.send request).run := by
  have hanswered (state : ClusterState) : Confined (runsIn backdrop state)
      (· = ProxmoxClient.readReply (backdrop.respond client.name request))
      (client.send request).run := by
    refine (confined_send hsendable).mono ?_
    rintro outcome ⟨reply, hreply, rfl⟩
    rw [RepliesFrom, if_neg hrequest] at hreply
    rw [hreply]
  exact (hanswered s).either (hanswered s')

private theorem determined_send {request : ApiRequest} (hrequest : request ≠ listingRequest) :
    Determined (runsInEither backdrop s s') (client.send request).run := by
  by_cases hsendable : client.Sendable request
  · exact ⟨_, confined_send_of_ne hrequest hsendable⟩
  · obtain ⟨error, herror⟩ := ProxmoxClient.run_send_of_not_sendable hsendable
    rw [herror]
    exact determined_done _

/-- Another guest is found alike. -/
private theorem determined_resolve {cluster : String} (htwins : Twins caller cluster vmid s s')
    (hlists : client.Sendable listingRequest) {other : UInt32}
    (hother : client.name ≠ cluster ∨ other ≠ vmid) :
    Determined (runsInEither backdrop s s') (resolve client client.name other).run := by
  have hfound : s.found client.name other = s'.found client.name other := by
    rw [ClusterState.found, ClusterState.found, htwins.agree hother]
  have hs' := @confined_resolve _ backdrop s' client hlists other
  rw [← hfound] at hs'
  exact ⟨_, (confined_resolve hlists other).either hs'⟩

/-- The guest itself is not there, or is one the grant does not admit. -/
def Hidden (grant : ProxmoxGrant) (cluster : String) (vmid : UInt32)
    (outcome : Except ProxmoxError ResolvedGuest) : Prop :=
  (∃ guest, outcome = .ok guest ∧ ¬ grant.allowsGuest guest.facts) ∨
    outcome = .error (notFound s!"guest {vmid} in cluster {cluster}")

private theorem confined_resolve_hidden (htwins : Twins caller client.name vmid s s')
    (hgrant : resolveGrant caller = .ok grant) (hlists : client.Sendable listingRequest) :
    Confined (runsInEither backdrop s s') (Hidden grant client.name vmid)
      (resolve client client.name vmid).run := by
  have hhidden (state : ClusterState) (hstate : ∀ guest,
      state.guests client.name vmid = some guest → ¬ grant.allowsGuest guest.facts) :
      Confined (runsIn backdrop state) (Hidden grant client.name vmid)
        (resolve client client.name vmid).run := by
    refine (confined_resolve hlists vmid).mono ?_
    rintro outcome rfl
    rw [ClusterState.found]
    cases hguest : state.guests client.name vmid with
    | none => exact .inr rfl
    | some guest => exact .inl ⟨guest, rfl, hstate guest hguest⟩
  exact (hhidden s fun guest h => htwins.guest hgrant (.inl h)).either
    (hhidden s' fun guest h => htwins.guest hgrant (.inr h))

/-- **Authorizing** gives one answer: the guest does not exist or is outside the scope. -/
theorem confined_authorize (htwins : Twins caller client.name vmid s s')
    (hgrant : resolveGrant caller = .ok grant) (hlists : client.Sendable listingRequest)
    (intent : Intent) :
    Confined (runsInEither backdrop s s') (· = .error (guestOutOfScope client.name))
      (authorize client client.name vmid grant intent).run := by
  rw [authorize, run_attempt_bind]
  refine (confined_resolve_hidden htwins hgrant hlists).bind ?_
  rintro outcome (⟨guest, rfl, hguest⟩ | rfl)
  · have hrefused : authorizeResolved client.cluster client.name vmid grant intent guest =
        .error (guestOutOfScope client.name) := dif_neg hguest
    change Confined _ _ (liftM
      (authorizeResolved client.cluster client.name vmid grant intent guest) :
      ClientM _).run
    rw [hrefused]
    exact confined_done rfl
  · exact confined_done rfl

/-- Authorizing for another guest is answered alike. -/
private theorem determined_authorize {cluster : String} (htwins : Twins caller cluster vmid s s')
    (hlists : client.Sendable listingRequest) {other : UInt32}
    (hother : client.name ≠ cluster ∨ other ≠ vmid) (intent : Intent) :
    Determined (runsInEither backdrop s s')
      (authorize client client.name other grant intent).run := by
  rw [authorize, run_attempt_bind]
  refine (determined_resolve htwins hlists hother).bind fun outcome => ?_
  cases outcome with
  | ok guest => exact determined_liftExcept _
  | error error => cases error <;> exact determined_throw _

/-- The answer to a call on a guest that the caller may not know of. -/
def hiddenAnswer (cluster : String) : ToolResult := toolError (guestOutOfScope cluster).toText

private theorem confined_viaClient_authorize (htwins : Twins caller client.name vmid s s')
    (hgrant : resolveGrant caller = .ok grant) (hlists : client.Sendable listingRequest)
    (intent : Intent) :
    Confined (runsInEither backdrop s s') (· = .error (hiddenAnswer client.name))
      (viaClient (authorize client client.name vmid grant intent)).run := by
  refine (confined_authorize htwins hgrant hlists intent).bind ?_
  rintro outcome rfl
  exact confined_done rfl

/-- Authorizing with an override gives the same answer: what the first lookup decides does not show
in it. -/
private theorem confined_authorizeWithOverride (htwins : Twins caller client.name vmid s s')
    (hgrant : resolveGrant caller = .ok grant) (hlists : client.Sendable listingRequest)
    (op : String) (principal : Option String) (intent : Bool → Intent) :
    Confined (runsInEither backdrop s s') (· = .error (hiddenAnswer client.name))
      (authorizeWithOverride server client client.name vmid grant (.ok op) principal
        intent).run := by
  have hlooked : Confined (runsInEither backdrop s s') (fun outcome => ∃ value, outcome = .ok value)
      (lookedUpProtection client client.name vmid).run := by
    rw [lookedUpProtection, run_attempt_bind]
    refine (confined_true _).bind fun outcome _ => ?_
    cases outcome with
    | ok guest => exact confined_done ⟨_, rfl⟩
    | error error => exact confined_done ⟨_, rfl⟩
  refine hlooked.run_bind (fun protection _ => ?_) (by rintro error ⟨value, hvalue⟩; cases hvalue)
  refine Confined.perform (fun _ _ _ => trivial) fun now (_ : True) => ?_
  exact (confined_viaClient_authorize htwins hgrant hlists _).error_bind

/-! ### Tools on a guest -/

/-- The clients of a cluster can ask it for its guests. -/
def ProxmoxServer.Lists (server : ProxmoxServer) (cluster : String) : Prop :=
  ∀ {client}, server.clientFor cluster = .ok client → client.Sendable listingRequest

variable {cluster : String}

private theorem rejected_authorizeLowWithInterrupts (htwins : Twins caller cluster vmid s s')
    (hlists : server.Lists cluster) (tool : String) (interrupts : Option Bool) :
    Rejected (runsInEither backdrop s s')
      (server.authorizeLowWithInterrupts caller tool ⟨cluster, vmid⟩ interrupts) := by
  refine Rejected.liftExcept fun _ _ => Rejected.liftExcept fun client hclient =>
    Rejected.liftExcept fun grant hgrant => ?_
  obtain rfl : client.name = cluster := name_of_clientFor hclient
  refine Rejected.of_bind (determined_onlyIf (determined_invalidateCluster _)) fun _ => ?_
  exact Rejected.bind
    ⟨_, confined_authorizeWithOverride htwins hgrant (hlists hclient) tool _ _⟩

private theorem rejected_authorizeLow (htwins : Twins caller cluster vmid s s')
    (hlists : server.Lists cluster) (tool : String) :
    Rejected (runsInEither backdrop s s') (server.authorizeLow caller tool ⟨cluster, vmid⟩) :=
  rejected_authorizeLowWithInterrupts htwins hlists tool none

private theorem rejected_serveRead (htwins : Twins caller cluster vmid s s')
    (hlists : server.Lists cluster) (tool : ReadTool) (params : List (String × String))
    (restricted : Bool) (page : Option (UInt32 × UInt32)) : Rejected (runsInEither backdrop s s')
      (server.serveRead tool caller cluster params (some vmid) restricted page) := by
  refine Rejected.liftExcept fun _ _ => Rejected.liftExcept fun _ _ =>
    Rejected.liftExcept fun client hclient => Rejected.bind ?_
  obtain rfl : client.name = cluster := name_of_clientFor hclient
  refine Rejected.liftExcept fun grant hgrant => Rejected.bind ?_
  exact ⟨_, confined_viaClient_authorize htwins hgrant (hlists hclient) .read⟩

private theorem rejected_getContainerIp (htwins : Twins caller cluster vmid s s')
    (hlists : server.Lists cluster) (tool : ReadTool) : Rejected (runsInEither backdrop s s')
      (server.getContainerIp tool caller ⟨cluster, vmid⟩) := by
  refine Rejected.liftExcept fun _ _ => Rejected.liftExcept fun client hclient =>
    Rejected.liftExcept fun grant hgrant => Rejected.bind ?_
  obtain rfl : client.name = cluster := name_of_clientFor hclient
  exact ⟨_, confined_viaClient_authorize htwins hgrant (hlists hclient) .read⟩

private theorem rejected_stopTask {args : ProxmoxServer.StopTaskArgs}
    (htwins : Twins caller args.cluster vmid s s') (hlists : server.Lists args.cluster)
    (hguest : taskGuest args.upid = some vmid) :
    Rejected (runsInEither backdrop s s') (server.stopTask caller args) := by
  refine Rejected.of_bind (determined_ensure _ _) fun _ =>
    Rejected.of_bind (determined_required _ _) fun node => Rejected.liftExcept fun _ _ =>
    Rejected.liftExcept fun client _ => Rejected.liftExcept fun grant _ =>
    Rejected.of_bind (determined_ensure _ _) fun _ => Rejected.bind ?_
  rw [ProxmoxServer.authorizeStopTask, hguest]
  dsimp only
  rw [map_eq_pure_bind]
  exact Rejected.bind (rejected_authorizeLow htwins hlists "stop_task")

private theorem rejected_planDestroy {args : PlanDestroyArgs}
    (htwins : Twins caller args.cluster args.vmid s s') (hlists : server.Lists args.cluster) :
    Rejected (runsInEither backdrop s s') (server.planDestroy caller args) := by
  refine Rejected.liftExcept fun _ _ => Rejected.liftExcept fun client hclient =>
    Rejected.liftExcept fun grant hgrant =>
    Rejected.of_bind (determined_invalidateCluster _) fun _ => Rejected.bind ?_
  have hname : client.name = args.cluster := name_of_clientFor hclient
  rw [← hname] at htwins ⊢
  exact ⟨_, confined_authorizeWithOverride htwins hgrant (hlists hclient) args.op _ _⟩

/-- A tool reaches a guest by its number: the tools that name it, and the plans whose rule or whose
archive may lead to it. -/
def Tool.ReachesGuest (cluster : String) (vmid : UInt32) : Tool → Prop
  | .read _ args => args.cluster = cluster ∧ args.vmid = some vmid
  | .getContainerIp _ args | .lifecycle _ args => args = ⟨cluster, vmid⟩
  | .createSnapshot args => args.cluster = cluster ∧ args.vmid = vmid
  | .createBackup args => args.cluster = cluster ∧ args.vmid = vmid
  | .cloneVm args => args.cluster = cluster ∧ args.vmid = vmid
  | .resizeDisk args => args.cluster = cluster ∧ args.vmid = vmid
  | .updateContainerResources args => args.cluster = cluster ∧ args.vmid = vmid
  | .stopTask args => args.cluster = cluster ∧ taskGuest args.upid = some vmid
  | .planDestroy args => args.cluster = cluster ∧ args.vmid = vmid
  | .planHaRuleChange args => args.cluster = cluster
  | .planRestoreNewVmid args => args.cluster = cluster
  | _ => False

/-! ### HA rules -/

private theorem determined_readCurrentRule (rule : String) :
    Determined (runsInEither backdrop s s') (readCurrentRule client rule).run := by
  have hrequest : fetchRuleRequest rule ≠ listingRequest := by
    simp [fetchRuleRequest, listingRequest]
  refine Determined.mapError ?_
  exact ((determined_send hrequest).attempt).run_bind fun _ => determined_liftExcept _

/-- Deciding on a guest that a rule names: for the hidden guest the answer is the same whether it is
there or not, and for another one the states do not differ. -/
private theorem determined_authorizeHaRuleGuest (htwins : Twins caller cluster vmid s s')
    (hlists : client.Sendable listingRequest) (hname : client.name = cluster)
    (hgrant : resolveGrant caller = .ok grant) (op : String) (now : UInt64) (member : UInt32) :
    Determined (runsInEither backdrop s s')
      (server.authorizeHaRuleGuest client cluster caller grant op now member).run := by
  subst hname
  rw [ProxmoxServer.authorizeHaRuleGuest, run_attempt_bind]
  by_cases hmember : member = vmid
  · subst hmember
    refine ⟨.error (toolError
      s!"HA rule names guest {member}: {(guestOutOfScope client.name).toText}"), ?_⟩
    refine (confined_resolve_hidden htwins hgrant hlists).bind ?_
    rintro outcome (⟨guest, rfl, -⟩ | rfl)
    · refine Confined.error_bind ((confined_authorize htwins hgrant hlists _).bind ?_)
      rintro outcome rfl
      exact confined_done rfl
    · have hnumber : grant.allowsNewVmid member = false := by
        simpa using htwins.number hgrant
      refine Confined.error_bind ?_
      rw [refuseUnless, hnumber]
      exact confined_done rfl
  · refine (determined_resolve htwins hlists (.inr hmember)).bind fun outcome => ?_
    cases outcome with
    | ok guest =>
      exact ((determined_authorize htwins hlists (.inr hmember) _).mapError).run_bind
        fun _ => determined_pure _
    | error error =>
      cases error with
      | notFound what =>
        exact (determined_ensure _ _).run_bind fun _ => determined_ensure _ _
      | _ => exact determined_throw _

private theorem determined_recordPlan (device : String) (action : Json)
    (owner fingerprint preview : String) :
    Determined (runsInEither backdrop s s')
      (recordPlan device action owner fingerprint preview).run := by
  refine (determined_coordinator _).run_bind fun _ => (determined_liftExcept _).run_bind fun _ => ?_
  refine (determined_coordinator _).run_bind fun _ => (determined_required _ _).run_bind fun _ => ?_
  exact (determined_coordinator _).run_bind fun _ => (determined_liftExcept _).run_bind
    fun _ => determined_pure _

private theorem determined_authorizeHaRuleGuests (htwins : Twins caller cluster vmid s s')
    (hlists : client.Sendable listingRequest) (hname : client.name = cluster)
    (action : HaRuleAction) (existing : Option Json) : Determined (runsInEither backdrop s s')
      (server.authorizeHaRuleGuests client cluster caller action existing).run := by
  refine Determined.liftExcept fun _ _ => Determined.liftExcept fun grant hgrant =>
    Determined.liftExcept fun _ _ => Determined.liftExcept fun vmids _ => ?_
  refine (determined_invalidateCluster _).run_bind fun _ =>
    determined_unixNow.run_bind fun now => ?_
  exact determined_forM fun member _ =>
    determined_authorizeHaRuleGuest htwins hlists hname hgrant action.op now member

private theorem determined_planHaRuleChange {args : PlanHaRuleArgs}
    (htwins : Twins caller args.cluster vmid s s') (hlists : server.Lists args.cluster) :
    Determined (runsInEither backdrop s s') (server.planHaRuleChange caller args).run := by
  refine Determined.liftExcept fun _ _ => Determined.liftExcept fun client hclient =>
    Determined.liftExcept fun action _ => (determined_required _ _).run_bind fun tool =>
    Determined.liftExcept fun _ _ => Determined.liftExcept fun _ _ => ?_
  refine (determined_readCurrentRule _).run_bind fun existing => Determined.liftExcept fun _ _ => ?_
  refine (determined_authorizeHaRuleGuests htwins (hlists hclient) (name_of_clientFor hclient) _
    _).run_bind fun _ => ?_
  exact (determined_recordPlan _ _ _ _ _).run_bind fun _ => determined_pure _

/-! ### Owners of archives -/

/-- What a caller is told whose scope does not admit the owner of an archive. -/
def ownerOutsideText (volid : String) (owner : UInt32) : String :=
  s!"backup archive '{volid}' belongs to guest {owner}, which is outside this caller's " ++
    "guest scope; a restore may not read from it"

/-- What a caller is told whose scope does not admit the owner of an archive, when it is gone. -/
def ownerGoneText (volid : String) (owner : UInt32) : String :=
  s!"backup archive '{volid}' belongs to guest {owner}, which no longer exists and is " ++
    "outside this caller's guest scope; a restore may not read from it"

/-- The storage lists an archive as a guest's. -/
def OwnedBy (backdrop : Backdrop) (client : ProxmoxClient) (node volid : String) (owner : UInt32) :
    Prop :=
  ∃ storage path data, splitOnce volid ':' = some (storage, path) ∧
    client.Sendable (Guests.backupListingRequest node storage) ∧
    ProxmoxClient.readReply (backdrop.respond client.name
      (Guests.backupListingRequest node storage)) = .ok data ∧
    Guests.readBackupOwner node storage volid data = .ok owner

private theorem ownedBy_iff {node volid storage path : String} {owner : UInt32}
    (hsplit : splitOnce volid ':' = some (storage, path)) :
    OwnedBy backdrop client node volid owner ↔
      client.Sendable (Guests.backupListingRequest node storage) ∧ ∃ data,
        ProxmoxClient.readReply (backdrop.respond client.name
          (Guests.backupListingRequest node storage)) = .ok data ∧
        Guests.readBackupOwner node storage volid data = .ok owner := by
  constructor
  · rintro ⟨storage', path', data, hparts, hsendable, hrest⟩
    rw [hsplit] at hparts
    obtain ⟨rfl, rfl⟩ := Prod.mk.inj (Option.some.inj hparts)
    exact ⟨hsendable, data, hrest⟩
  · rintro ⟨hsendable, data, hrest⟩
    exact ⟨storage, path, data, hsplit, hsendable, hrest⟩

/-- **The owner of an archive** is the one its storage lists, in either state. -/
theorem confined_resolveBackupOwner (node volid : String) : ∃ outcome,
    Confined (runsInEither backdrop s s') (· = outcome)
      (Guests.resolveBackupOwner client node volid).run ∧
    ∀ owner, outcome = .ok owner ↔ OwnedBy backdrop client node volid owner := by
  rw [Guests.resolveBackupOwner]
  cases hsplit : splitOnce volid ':' with
  | none =>
    refine ⟨.error (malformed "volid is not in storage:path form"), confined_done rfl,
      fun owner => iff_of_false (by simp) ?_⟩
    rintro ⟨storage, path, data, hparts, -⟩
    rw [hsplit] at hparts
    cases hparts
  | some parts =>
    obtain ⟨storage, path⟩ := parts
    have hrequest : Guests.backupListingRequest node storage ≠ listingRequest := by
      simp [Guests.backupListingRequest, Guests.contentTemplate, listingRequest]
    simp only [ownedBy_iff hsplit]
    change ∃ outcome, Confined _ _ (client.send (Guests.backupListingRequest node storage) >>=
      fun data => liftM (Guests.readBackupOwner node storage volid data) : ClientM UInt32).run ∧ _
    by_cases hsendable : client.Sendable (Guests.backupListingRequest node storage)
    · have hsent := @confined_send_of_ne _ backdrop s s' client _ hrequest hsendable
      cases hreply : ProxmoxClient.readReply (backdrop.respond client.name
        (Guests.backupListingRequest node storage)) with
      | error error =>
        rw [hreply] at hsent
        exact ⟨_, hsent.error_bind, fun owner => by simp⟩
      | ok data =>
        rw [hreply] at hsent
        refine ⟨Guests.readBackupOwner node storage volid data,
          hsent.run_bind (fun data' hdata => ?_) (fun _ herror => by cases herror),
          fun owner => ?_⟩
        · rw [Except.ok.inj hdata]
          cases Guests.readBackupOwner node storage volid data <;> exact confined_done rfl
        · simp [hsendable]
    · obtain ⟨error, herror⟩ := ProxmoxClient.run_send_of_not_sendable hsendable
      refine ⟨.error error, ?_, fun owner => by simp [hsendable]⟩
      refine Confined.error_bind ?_
      rw [herror]
      exact confined_done rfl

/-- What a caller is told about an archive whose owner is hidden from it: whether that guest is
there. -/
def ownerAnswer (state : ClusterState) (cluster volid : String) (owner : UInt32) : ToolResult :=
  if (state.guests cluster owner).isSome then toolError (ownerOutsideText volid owner)
  else toolError (ownerGoneText volid owner)

private theorem ownerAnswer_eq_iff {cluster volid : String} {owner : UInt32} :
    ownerAnswer s cluster volid owner = ownerAnswer s' cluster volid owner ↔
      ¬ ((s.guests cluster owner).isSome ≠ (s'.guests cluster owner).isSome ∧
        toolError (ownerOutsideText volid owner) ≠ toolError (ownerGoneText volid owner)) := by
  rw [ownerAnswer, ownerAnswer]
  cases (s.guests cluster owner).isSome <;> cases (s'.guests cluster owner).isSome <;>
    simp [eq_comm]

private theorem confined_authorizeBackupOwner {state : ClusterState}
    (hstate : ∀ guest, state.guests client.name vmid = some guest → ¬ grant.allowsGuest guest.facts)
    (hnumber : ¬ grant.allowsNewVmid vmid) (hlists : client.Sendable listingRequest)
    (volid : String) (principal : Option String) :
    Confined (runsIn backdrop state) (· = .error (ownerAnswer state client.name volid vmid))
      (server.authorizeBackupOwner client client.name vmid grant volid principal).run := by
  rw [ProxmoxServer.authorizeBackupOwner, run_attempt_bind]
  refine (confined_resolve hlists vmid).bind ?_
  rintro outcome rfl
  rw [ClusterState.found, ownerAnswer]
  cases hguest : state.guests client.name vmid with
  | some guest =>
    have hscope : grant.allowsGuest guest.facts = false := by simpa using hstate guest hguest
    refine Confined.error_bind ?_
    rw [refuseUnless, hscope]
    exact confined_done rfl
  | none =>
    have hscope : grant.allowsNewVmid vmid = false := by simpa using hnumber
    change Confined _ _ (refuseUnless (grant.allowsNewVmid vmid) _).run
    rw [refuseUnless, hscope]
    exact confined_done rfl

private theorem determined_authorizeBackupOwner (htwins : Twins caller cluster vmid s s')
    (hlists : client.Sendable listingRequest) (hname : client.name = cluster) {owner : UInt32}
    (howner : owner ≠ vmid) (volid : String) (principal : Option String) :
    Determined (runsInEither backdrop s s')
      (server.authorizeBackupOwner client cluster owner grant volid principal).run := by
  subst hname
  rw [ProxmoxServer.authorizeBackupOwner, run_attempt_bind]
  refine (determined_resolve htwins hlists (.inr howner)).bind fun outcome => ?_
  cases outcome with
  | ok guest =>
    exact (determined_ensure _ _).run_bind fun _ => determined_unixNow.run_bind fun _ =>
      determined_ensure _ _
  | error error =>
    cases error with
    | notFound what => exact determined_ensure _ _
    | _ => exact determined_throw _

/-- Whether a target is free is answered alike when the grant admits its number. -/
private theorem determined_requireFree (htwins : Twins caller cluster vmid s s')
    (hlists : client.Sendable listingRequest) (hname : client.name = cluster) {target : UInt32}
    (htarget : target ≠ vmid) (taken unknown : String → String) :
    Determined (runsInEither backdrop s s')
      (requireFree client cluster target taken unknown).run := by
  subst hname
  refine (determined_invalidateCluster _).run_bind fun _ => ?_
  rw [run_attempt_bind]
  refine (determined_resolve htwins hlists (.inr htarget)).bind fun outcome => ?_
  cases outcome with
  | ok guest => exact determined_throw _
  | error error => cases error <;> first | exact determined_pure _ | exact determined_throw _

/-- A restore is planned from an archive that belongs to a guest: the checks before its owner is
decided on have passed. -/
structure RestoresFrom (server : ProxmoxServer) (caller : Option CallerCtx) (backdrop : Backdrop)
    (args : PlanRestoreNewVmidArgs) (owner : UInt32) (client : ProxmoxClient)
    (grant : ProxmoxGrant) : Prop where
  planTool : authorizeCall caller "plan_restore_new_vmid" args.cluster = .ok ()
  restoreTool : authorizeCall caller restoreNewVmidTool args.cluster = .ok ()
  configured : server.clientFor args.cluster = .ok client
  granted : resolveGrant caller = .ok grant
  carriesTier : grant.allowsAction .destructive
  archive : validateVolidKind args.volid "backup" = .ok ()
  owned : OwnedBy backdrop client args.node args.volid owner

/-- A plan that does not come to the hidden guest as the owner of its archive is answered alike. -/
private theorem determined_planRestoreNewVmid {args : PlanRestoreNewVmidArgs}
    (htwins : Twins caller args.cluster vmid s s') (hlists : server.Lists args.cluster)
    (hother : ∀ client grant, ¬ RestoresFrom server caller backdrop args vmid client grant) :
    Determined (runsInEither backdrop s s') (server.planRestoreNewVmid caller args).run := by
  refine Determined.liftExcept fun _ hplanTool => Determined.liftExcept fun _ hrestoreTool =>
    Determined.liftExcept fun client hclient => Determined.liftExcept fun grant hgrant => ?_
  have hname : client.name = args.cluster := name_of_clientFor hclient
  refine Determined.ensure fun htier => Determined.liftExcept fun _ harchive => ?_
  have harchive := eq_ok_of_mapError (eq_ok_of_mapError harchive)
  obtain ⟨outcome, hresolved, howned⟩ :=
    @confined_resolveBackupOwner _ backdrop s s' client args.node args.volid
  cases outcome with
  | error error => exact ⟨_, hresolved.mapError.error_bind⟩
  | ok owner =>
    refine Determined.of_ok hresolved.mapError ?_
    have howner : owner ≠ vmid := by
      rintro rfl
      exact hother client grant ⟨hplanTool, hrestoreTool, hclient, hgrant, htier, harchive,
        (howned owner).mp rfl⟩
    refine (determined_authorizeBackupOwner htwins (hlists hclient) hname howner _ _).run_bind
      fun _ => Determined.liftExcept fun action _ => ?_
    by_cases htarget : grant.allowsNewVmid action.targetVmid
    · have hne : action.targetVmid ≠ vmid := fun heq => htwins.number hgrant (heq ▸ htarget)
      refine Determined.run_bind ?_ fun _ => ?_
      · exact (determined_ensure _ _).run_bind fun _ => determined_ensure _ _
      · refine (determined_requireFree htwins (hlists hclient) hname hne _ _).run_bind fun _ => ?_
        exact (determined_recordPlan _ _ _ _ _).run_bind fun _ => determined_pure _
    · -- A target outside the scope is refused by its number, before anything is looked up.
      have hscope : grant.allowsNewVmid action.targetVmid = false := by simpa using htarget
      refine Rejected.determined (Rejected.bind ?_)
      rw [requireRestoreTarget, refuseUnless, hscope]
      exact Rejected.bind ⟨_, confined_done rfl⟩

/-- A plan that comes to the hidden guest as the owner of its archive says whether it is there. -/
private theorem confined_planRestoreNewVmid {args : PlanRestoreNewVmidArgs} {state : ClusterState}
    (hstate : ∀ guest, state.guests args.cluster vmid = some guest →
      ¬ grant.allowsGuest guest.facts)
    (hnumber : ¬ grant.allowsNewVmid vmid) (hlists : server.Lists args.cluster)
    (hfrom : RestoresFrom server caller backdrop args vmid client grant) :
    Confined (runsIn backdrop state) (· = .error (ownerAnswer state args.cluster args.volid vmid))
      (server.planRestoreNewVmid caller args).run := by
  have hname : client.name = args.cluster := name_of_clientFor hfrom.configured
  have harchive : ((validateVolidKind args.volid "backup").mapError ProxmoxError.toText).mapError
      toolError = .ok () := by
    rw [hfrom.archive]
    rfl
  refine Confined.of_ok (confined_liftExcept hfrom.planTool) ?_
  refine Confined.of_ok (confined_liftExcept hfrom.restoreTool) ?_
  refine Confined.of_ok (confined_liftExcept hfrom.configured) ?_
  refine Confined.of_ok (confined_liftExcept hfrom.granted) ?_
  have htier : Confined (runsIn backdrop state) (· = .ok ()) (requireRestoreTier grant).run := by
    rw [requireRestoreTier, refuseUnless, hfrom.carriesTier]
    exact confined_done rfl
  refine Confined.of_ok htier (Confined.of_ok (confined_liftExcept harchive) ?_)
  obtain ⟨outcome, hresolved, howned⟩ :=
    @confined_resolveBackupOwner _ backdrop state state client args.node args.volid
  obtain rfl : outcome = .ok vmid := (howned vmid).mpr hfrom.owned
  refine Confined.of_ok hresolved.left.mapError (Confined.error_bind ?_)
  rw [← hname] at hstate ⊢
  exact confined_authorizeBackupOwner hstate hnumber (hlists hfrom.configured) args.volid _

/-! ### All tools -/

/-- **The tools that reach a guest** are answered alike in the two states, but for a plan that comes
to the guest as the owner of its archive. -/
theorem determined_serve {tool : Tool} (hreaches : tool.ReachesGuest cluster vmid)
    (htwins : Twins caller cluster vmid s s') (hlists : server.Lists cluster)
    (hother : ∀ args client grant, tool = .planRestoreNewVmid args →
      ¬ RestoresFrom server caller backdrop args vmid client grant) :
    Determined (runsInEither backdrop s s') (server.serve caller tool).run := by
  have hlow (name : String) := @rejected_authorizeLow _ server caller backdrop s s' vmid cluster
    htwins hlists name
  -- each tool authorizes before it does anything that tells the states apart
  cases tool with
  | read tool args =>
    obtain ⟨cluster, params, vmid, restricted, page⟩ := args
    obtain ⟨rfl, rfl⟩ := hreaches
    exact (rejected_serveRead htwins hlists tool params restricted page).determined
  | getContainerIp tool args =>
    obtain rfl := hreaches
    exact (rejected_getContainerIp htwins hlists tool).determined
  | lifecycle tool args =>
    obtain rfl := hreaches
    exact (hlow tool.name).bind.determined
  | createSnapshot args =>
    obtain ⟨rfl, rfl⟩ := hreaches
    exact (hlow _).bind.determined
  | createBackup args =>
    obtain ⟨rfl, rfl⟩ := hreaches
    refine (Rejected.of_bind (determined_ensure _ _) fun _ => Rejected.bind ?_).determined
    exact rejected_authorizeLowWithInterrupts htwins hlists _ _
  | cloneVm args =>
    obtain ⟨rfl, rfl⟩ := hreaches
    exact (hlow _).bind.determined
  | resizeDisk args =>
    obtain ⟨rfl, rfl⟩ := hreaches
    exact (Rejected.of_bind (determined_ensure _ _) fun _ => (hlow _).bind).determined
  | updateContainerResources args =>
    obtain ⟨rfl, rfl⟩ := hreaches
    exact (Rejected.of_bind (determined_ensure _ _) fun _ => (hlow _).bind).determined
  | stopTask args =>
    obtain ⟨rfl, hguest⟩ := hreaches
    exact (rejected_stopTask htwins hlists hguest).determined
  | planDestroy args =>
    obtain ⟨rfl, rfl⟩ := hreaches
    exact (rejected_planDestroy htwins hlists).determined
  | planHaRuleChange args =>
    obtain rfl := hreaches
    exact determined_planHaRuleChange htwins hlists
  | planRestoreNewVmid args =>
    obtain rfl := hreaches
    exact determined_planRestoreNewVmid htwins hlists fun client grant =>
      hother args client grant rfl
  | _ => exact hreaches.elim

/-- A call in a state of the clusters is answered with a result. -/
def AnsweredIn (server : ProxmoxServer) (caller : Option CallerCtx) (backdrop : Backdrop)
    (state : ClusterState) (tool : Tool) (result : CallResult) : Prop :=
  ∃ events, Reaches (server.serve caller tool).run events (.done result) ∧
    TookPlaceIn backdrop state events.reverse

private theorem exists_answeredIn (server : ProxmoxServer) (caller : Option CallerCtx)
    (backdrop : Backdrop) (state : ClusterState) (tool : Tool) :
    ∃ result, AnsweredIn server caller backdrop state tool result := by
  have hstart : TookPlaceIn backdrop state [] := trivial
  obtain ⟨events, result, hrun, htook⟩ :=
    exists_run backdrop state (server.serve caller tool).run hstart
  rw [List.append_nil] at htook
  exact ⟨result, events, hrun, htook⟩

/-- **No existence oracle**: whatever the runs of a call in one state and in the other, the reply
the caller gets is the same. -/
def AnsweredAlike (server : ProxmoxServer) (caller : Option CallerCtx) (backdrop : Backdrop)
    (s s' : ClusterState) (tool : Tool) : Prop :=
  ∀ result result', AnsweredIn server caller backdrop s tool result →
    AnsweredIn server caller backdrop s' tool result' → result = result'

/-- A plan tells whether the guest is there: it comes to it as the owner of its archive, the guest
is there in one of the states only, and redaction leaves the two texts apart. -/
structure OwnerTold (server : ProxmoxServer) (caller : Option CallerCtx) (backdrop : Backdrop)
    (s s' : ClusterState) (vmid : UInt32) (args : PlanRestoreNewVmidArgs) (client : ProxmoxClient)
    (grant : ProxmoxGrant) : Prop where
  owner : RestoresFrom server caller backdrop args vmid client grant
  onlyOnce : (s.guests args.cluster vmid).isSome ≠ (s'.guests args.cluster vmid).isSome
  apart : toolError (ownerOutsideText args.volid vmid) ≠ toolError (ownerGoneText args.volid vmid)

/-- A plan that comes to the hidden guest as the owner of its archive is answered alike when the two
answers about the owner are the same. -/
private theorem answeredAlike_restore_iff {args : PlanRestoreNewVmidArgs}
    (htwins : Twins caller args.cluster vmid s s') (hlists : server.Lists args.cluster)
    (hfrom : RestoresFrom server caller backdrop args vmid client grant) :
    AnsweredAlike server caller backdrop s s' (.planRestoreNewVmid args) ↔
      ownerAnswer s args.cluster args.volid vmid = ownerAnswer s' args.cluster args.volid vmid := by
  have hanswer (state : ClusterState) (hstate : ∀ guest,
      state.guests args.cluster vmid = some guest → ¬ grant.allowsGuest guest.facts) {result}
      (hrun : AnsweredIn server caller backdrop state (.planRestoreNewVmid args) result) :
      result = .error (ownerAnswer state args.cluster args.volid vmid) := by
    obtain ⟨events, hreach, htook⟩ := hrun
    exact (confined_planRestoreNewVmid hstate (htwins.number hfrom.granted) hlists
      hfrom).of_reaches hreach htook
  have hs := @hanswer s fun guest h => htwins.guest hfrom.granted (.inl h)
  have hs' := @hanswer s' fun guest h => htwins.guest hfrom.granted (.inr h)
  constructor
  · intro halike
    obtain ⟨result, hrun⟩ := exists_answeredIn server caller backdrop s (.planRestoreNewVmid args)
    obtain ⟨result', hrun'⟩ :=
      exists_answeredIn server caller backdrop s' (.planRestoreNewVmid args)
    have hsame := halike result result' hrun hrun'
    rw [hs hrun, hs' hrun'] at hsame
    exact Except.error.inj hsame
  · intro hsame result result' hrun hrun'
    rw [hs hrun, hs' hrun', hsame]

/-- **When there is no existence oracle.** A call of a tool that reaches a guest by its number is
answered alike in two states that differ in a guest the caller's grant does not admit, exactly when
it is no plan of a restore that tells whether the owner of the archive is there. -/
theorem answeredAlike_iff {tool : Tool} (hreaches : tool.ReachesGuest cluster vmid)
    (hlists : server.Lists cluster) (htwins : Twins caller cluster vmid s s') :
    AnsweredAlike server caller backdrop s s' tool ↔
      ¬ ∃ args client grant, tool = .planRestoreNewVmid args ∧
        OwnerTold server caller backdrop s s' vmid args client grant := by
  by_cases hfrom : ∃ args client grant, tool = .planRestoreNewVmid args ∧
      RestoresFrom server caller backdrop args vmid client grant
  · obtain ⟨args, client, grant, rfl, hfrom⟩ := hfrom
    obtain rfl : args.cluster = cluster := hreaches
    rw [answeredAlike_restore_iff htwins hlists hfrom, ownerAnswer_eq_iff]
    refine not_congr ⟨fun h => ⟨args, client, grant, rfl, hfrom, h.1, h.2⟩, ?_⟩
    rintro ⟨args', client', grant', htool, htold⟩
    obtain rfl := Tool.planRestoreNewVmid.inj htool
    exact ⟨htold.onlyOnce, htold.apart⟩
  · have hdetermined := @determined_serve _ server caller backdrop s s' vmid cluster tool hreaches
      htwins hlists fun args client grant htool howner =>
        hfrom ⟨args, client, grant, htool, howner⟩
    refine iff_of_true ?_ ?_
    · rintro result result' ⟨events, hreach, htook⟩ ⟨events', hreach', htook'⟩
      exact hdetermined.unique hreach (.inl htook) hreach' (.inr htook')
    · rintro ⟨args, client, grant, htool, htold⟩
      exact hfrom ⟨args, client, grant, htool, htold.owner⟩

end Rules

/-! ### An oracle -/

/-- A server with one cluster. -/
def ownerServer : ProxmoxServer :=
  ⟨[⟨"pve", ⟨"https://pve:8006", [], []⟩⟩], [], false, false, .ok ()⟩

/-- A caller with a narrow scope. -/
def narrowCaller : CallerCtx where
  tokenName := "planner"
  requestId := "req-1"
  actorType := .agent
  tools := .wildcard
  devices := .wildcard
  grant := some ⟨["vmid:600-699"], [.low, .destructive]⟩

/-- A plan to restore an archive into a number of the caller's. -/
def probeArchive : PlanRestoreNewVmidArgs :=
  ⟨"pve", "pve1", 601, "qemu", "local:backup/vzdump-qemu-105.vma.zst"⟩

/-- The storage lists the archive as guest 105's. -/
def archiveBackdrop : Backdrop where
  respond _ _ := .ok ⟨200, "", .ok (.object [("data", .array [.object
    [("volid", .string probeArchive.volid), ("vmid", .unsigned 105)]])])⟩
  now := 0
  records
    | .changeSet _ _ | .claimChangeSetForApply _ _ => .error "no such change set"
    | .changeSets => []
    | .updateChangeSet _ => .error "no such change set"
    | .createChangeSet _ _ _ _ _ | .approveChangeSet _ _ _ _ _ | .waiveApproval _ _ _ _ =>
      .error "no store"

/-- No cluster has a guest. -/
def vacantState : ClusterState := fun _ => []

/-- Guest 105 as its cluster lists it, outside the caller's scope. -/
def payrollEntry : Json :=
  .object [("type", .string "qemu"), ("vmid", .unsigned 105), ("node", .string "pve1"),
    ("name", .string "payroll")]

def payroll : ResolvedGuest := ⟨"pve", 105, "payroll", .qemu, "pve1", "unknown", [], none⟩

/-- Guest 105 is there. -/
def occupiedState : ClusterState := fun cluster => if cluster = "pve" then [payrollEntry] else []

omit [Externals] in
private theorem guests_vacantState (cluster : String) (vmid : UInt32) :
    vacantState.guests cluster vmid = none := rfl

omit [Externals] in
private theorem guests_occupiedState (cluster : String) (vmid : UInt32) :
    occupiedState.guests cluster vmid =
      if cluster = "pve" ∧ vmid = 105 then some payroll else none := by
  by_cases hcluster : cluster = "pve"
  · subst hcluster
    have hparsed : parseGuest "pve" payrollEntry = some payroll := by decide
    rw [ClusterState.guests, occupiedState, if_pos rfl, parseGuests, List.foldl_cons, hparsed,
      List.foldl_nil]
    by_cases hvmid : vmid = 105
    · rw [if_pos ⟨rfl, hvmid⟩]
      exact if_pos hvmid
    · rw [if_neg fun h => hvmid h.2]
      exact if_neg hvmid
  · rw [ClusterState.guests, occupiedState, if_neg hcluster, if_neg fun h => hcluster h.1]
    rfl

omit [Externals] in
private theorem twins_occupiedState :
    @Twins Externals.guarded (some narrowCaller) "pve" 105 vacantState occupiedState := by
  let _ : Externals := Externals.guarded
  refine ⟨fun {c u} hother => ?_, fun {grant} hgrant => ?_, fun {grant guest} hgrant hguest => ?_⟩
  · rw [guests_vacantState, guests_occupiedState, if_neg]
    rintro ⟨rfl, rfl⟩
    exact hother.elim (fun h => h rfl) fun h => h rfl
  · obtain rfl := Except.ok.inj hgrant
    decide
  · obtain rfl := Except.ok.inj hgrant
    rw [guests_vacantState, guests_occupiedState, if_pos ⟨rfl, rfl⟩] at hguest
    obtain rfl : payroll = guest := by simpa using hguest
    decide

omit [Externals] in
private theorem lists_ownerServer : @ProxmoxServer.Lists Externals.guarded ownerServer "pve" := by
  let _ : Externals := Externals.guarded
  intro client hclient
  obtain rfl := Except.ok.inj hclient
  exact ⟨_, rfl, rfl⟩

omit [Externals] in
/-- Stopping the guest is answered alike. -/
theorem answeredAlike_iff_stop :
    @AnsweredAlike Externals.guarded ownerServer (some narrowCaller) archiveBackdrop vacantState
      occupiedState (.lifecycle .stopVm ⟨"pve", 105⟩) := by
  let _ : Externals := Externals.guarded
  have hreaches : (Tool.lifecycle .stopVm ⟨"pve", 105⟩).ReachesGuest "pve" 105 := rfl
  refine (answeredAlike_iff hreaches lists_ownerServer twins_occupiedState).mpr ?_
  rintro ⟨args, client, grant, htool, -⟩
  cases htool

omit [Externals] in
/-- Restoring from the archive tells whether the guest it belongs to is there. -/
theorem not_answeredAlike_probeArchive :
    let _ : Externals := Externals.guarded
    ownerServer.Lists "pve" ∧ Twins (some narrowCaller) "pve" 105 vacantState occupiedState ∧
      (Tool.planRestoreNewVmid probeArchive).ReachesGuest "pve" 105 ∧
      ¬ AnsweredAlike ownerServer (some narrowCaller) archiveBackdrop vacantState occupiedState
        (.planRestoreNewVmid probeArchive) := by
  let _ : Externals := Externals.guarded
  have hfrom : RestoresFrom ownerServer (some narrowCaller) archiveBackdrop probeArchive 105
      ⟨"pve", ⟨"https://pve:8006", [], []⟩⟩ ⟨["vmid:600-699"], [.low, .destructive]⟩ := {
    planTool := rfl
    restoreTool := rfl
    configured := rfl
    granted := rfl
    carriesTier := by decide
    archive := by decide
    owned := ⟨"local", "backup/vzdump-qemu-105.vma.zst", _, by decide, ⟨_, rfl, rfl⟩, rfl, rfl⟩ }
  refine ⟨lists_ownerServer, twins_occupiedState, rfl, fun halike => ?_⟩
  have hsame := (answeredAlike_restore_iff twins_occupiedState lists_ownerServer hfrom).mp halike
  rw [ownerAnswer_eq_iff] at hsame
  refine hsame ⟨by decide, fun htexts => ?_⟩
  exact absurd (ToolResult.error.inj htexts) (by decide)

end ProxmoxMcp
