import ProxmoxMcp.Core.GuestIndex
import ProxmoxMcp.Core.HaRules
import ProxmoxMcp.Core.Fingerprint

/-!
# The server and its callers

A tool call is a `ToolM` program: it answers with a `ToolResult`, and stops early with one when it
refuses. `ProxmoxServer` is what is fixed when the server starts; in particular every client holds
the configuration its cluster had **then**.

`Admitted` records what the authorization of one guest rests on, as facts about the history of the
call: the lookup it was made on, and for a protected guest the waiver or lab mode.
-/

namespace ProxmoxMcp

open Interaction Program Text ProxmoxError

/-- What a tool call answers. -/
inductive ToolResult where
  | error (text : String)
  | ok (value : Json)

/-- Code of a tool call: it may stop early with its answer. -/
abbrev ToolM := ExceptT ToolResult (Program Effect)

/-- The part of the server that is fixed at startup. -/
structure ProxmoxServer where
  /-- One client for each configured cluster, by the name it was built for. -/
  clients : List ProxmoxClient
  waivers : List WaiverEntry
  labMode : Bool
  /-- Whether an evidence recorder is configured. -/
  evidence : Bool
  /-- What the direct-commit policy decides. -/
  directCommit : Except String Unit

section Answers

variable [Externals]

/-- A refusal with this text, redacted. -/
def toolError (text : String) : ToolResult := .error (Externals.redactText text)

/-- Run client code in a tool call: its error is the answer. -/
def viaClient {α : Type} (p : ClientM α) : ToolM α :=
  mapError (fun error => toolError error.toText) p

/-- Refuse with a text unless a condition holds. -/
def refuseUnless (condition : Bool) (text : String) : ToolM Unit :=
  ensure condition (toolError text)

/-- Refuse with the text of a failed check. -/
def orRefuse {α : Type} (outcome : Except String α) : ToolM α :=
  liftM (outcome.mapError toolError)

/-- A caller is refused a tool without its token's name. -/
def authzToolError : AuthorizationError → ToolResult
  | .toolNotInScope tool => toolError s!"not authorized for tool '{tool}'"
  | .targetNotInScope tool => toolError s!"not authorized for the requested target (tool '{tool}')"

/-- Whether a caller's token may use a tool on a cluster. -/
def authorizeCall (caller : Option CallerCtx) (tool cluster : String) : Except ToolResult Unit :=
  (Externals.authorizeCall caller tool (some cluster) writeTools).mapError authzToolError

/-- The grant a call acts under: read-only without a token, none for a token that declares none. -/
def resolveGrant (caller : Option CallerCtx) : Except ToolResult ProxmoxGrant :=
  match caller with
  | none => .ok .readOnly
  | some ctx => match ctx.grant with
    | some grant => .ok grant
    | none => .error
        (toolError "the caller for this request has no 'guests' selector configured")

end Answers

/-- The token that calls. -/
def principalOf (caller : Option CallerCtx) : Option String := caller.map CallerCtx.tokenName

/-- What kind of principal calls. -/
def actorType (caller : Option CallerCtx) : ActorType :=
  match caller with
  | some ctx => ctx.actorType
  | none => .unknown

namespace ProxmoxServer

variable (server : ProxmoxServer)

/-- The client built for a cluster. -/
def clientNamed (cluster : String) : Option ProxmoxClient :=
  server.clients.find? fun client => client.name == cluster

theorem name_of_clientNamed {server : ProxmoxServer} {cluster : String} {client : ProxmoxClient}
    (h : server.clientNamed cluster = some client) : client.name = cluster := by
  simpa using List.find?_some h

variable [Externals]

/-- The client of a cluster, or a refusal. -/
def clientFor (cluster : String) : Except ToolResult ProxmoxClient :=
  match server.clientNamed cluster with
  | some client => .ok client
  | none => .error (toolError s!"unknown cluster: {cluster}")

/-- Enforce the direct-commit gate. -/
def gateDirectCommit : Except ToolResult Unit := server.directCommit.mapError toolError

/-- The override that applies to an attempt on a guest, by the waivers and lab mode. -/
def overrideFor (protection : Protection) (cluster : String) (vmid : UInt32) (now : UInt64)
    (op : String) (principal : Option String) : Override :=
  destructiveAllowed protection server.waivers cluster vmid now server.labMode ⟨op, principal⟩

end ProxmoxServer

/-- A guest a caller may act on, with the client, the grant and the intent it was admitted under. -/
structure Authorization where
  client : ProxmoxClient
  grant : ProxmoxGrant
  intent : Intent
  certificate : AuthorizedGuest client.cluster grant intent

/-- The guest as the listing that authorized the call shows it. -/
def Authorization.guest (authorization : Authorization) : ResolvedGuest :=
  authorization.certificate.guest

/-! ### Policies -/

/-- What a call keeps to, beyond the rule of the index: when it looks guests up, which requests it
sends, and how it uses the coordinator. -/
structure Policy where
  lookups : LookupRule
  /-- The requests that can change a cluster. -/
  sends : History Effect → String → ApiRequest → Prop
  /-- When other requests may be sent. -/
  reads : History Effect → Prop := fun _ => True
  records : History Effect → CoordinatorOp → Prop

namespace Policy

/-- The requests a policy permits. -/
def Permits (policy : Policy) (h : History Effect) (client : String)
    (request : ApiRequest) : Prop :=
  if request.Mutating then policy.sends h client request else policy.reads h

/-- A read is permitted when the policy lets the call read. -/
theorem permits_of_reads {policy : Policy} {h : History Effect} {client : String}
    {request : ApiRequest} (hrequest : ¬ request.Mutating) (hreads : policy.reads h) :
    policy.Permits h client request := by
  rwa [Permits, if_neg hrequest]

theorem permits_of_sends {policy : Policy} {h : History Effect} {client : String}
    {request : ApiRequest} (hsends : policy.sends h client request) (hreads : policy.reads h) :
    policy.Permits h client request := by
  rw [Permits]
  split_ifs
  · exact hsends
  · exact hreads

theorem Permits.sends {policy : Policy} {h : History Effect} {client : String}
    {request : ApiRequest} (hpermits : policy.Permits h client request)
    (hrequest : request.Mutating) : policy.sends h client request := by
  rwa [Permits, if_pos hrequest] at hpermits

variable [Externals]

/-- The operations a policy allows. -/
def Allows (policy : Policy) (h : History Effect) : Op → Prop
  | .index (.lookupFresh cluster vmid) => policy.lookups h cluster vmid
  | .index op => IndexRule h op
  | .http (.dispatch client request) => policy.Permits h client request
  | .coordinator op => policy.records h op
  | .http (.await _) | .evidence _ | .unixNow | .pollWait _ | .reloadInventory => True

/-- Quiet code is allowed by every policy with its lookups, while the policy lets the call read. -/
theorem allows_of_quiet {policy : Policy} {lookups : LookupRule} {h : History Effect} {op : Op}
    (hop : Quiet lookups h op) (hreads : policy.reads h)
    (hlookups : ∀ cluster vmid, lookups h cluster vmid → policy.lookups h cluster vmid) :
    policy.Allows h op := by
  cases op with
  | index op =>
    cases op with
    | lookupFresh cluster vmid => exact hlookups _ _ hop
    | _ => exact hop
  | http op =>
    cases op with
    | dispatch client request => exact permits_of_reads hop hreads
    | await ticket => trivial
  | coordinator op => exact hop.elim
  | _ => trivial

theorem Allows.indexRule {policy : Policy} {h : History Effect} {op : IndexOp}
    (hop : policy.Allows h (.index op)) : IndexRule h op := by
  cases op with
  | lookupFresh => trivial
  | _ => exact hop

end Policy

/-! ### What an admission rests on -/

/-- The call has dropped what the index holds for a cluster. -/
def Dropped (cluster : String) (h : History Effect) : Prop :=
  ∃ later op reply older, h = later ++ ⟨.index op, reply⟩ :: ⟨.index .bumpGeneration, ()⟩ :: older ∧
    (op = .clearSnapshots ∨ op = .removeSnapshot cluster)

theorem Dropped.mono {cluster : String} {h h' : History Effect} (hd : Dropped cluster h)
    (hh : h <:+ h') : Dropped cluster h' := by
  obtain ⟨later, op, reply, older, rfl, hop⟩ := hd
  obtain ⟨latest, rfl⟩ := hh
  exact ⟨latest ++ later, op, reply, older, (List.append_assoc _ _ _).symm, hop⟩

/-- What a call has seen once it has dropped the listing of one cluster. -/
def afterDrop (cluster : String) (h : History Effect) : History Effect :=
  ⟨.index (.removeSnapshot cluster), ()⟩ :: ⟨.index .bumpGeneration, ()⟩ :: h

theorem dropped_afterDrop (cluster : String) (h : History Effect) :
    Dropped cluster (afterDrop cluster h) := ⟨[], _, _, h, rfl, .inr rfl⟩

/-- At the clock reading of the call a waiver covers the attempt, or lab mode is on. -/
def Overridden (server : ProxmoxServer) (cluster : String) (vmid : UInt32) (op : String)
    (principal : Option String) (h : History Effect) : Prop :=
  ∃ now : UInt64, ⟨.unixNow, now⟩ ∈ h ∧
    ((∃ entry ∈ server.waivers, entry.covers cluster vmid now ⟨op, principal⟩) ∨ server.labMode)

theorem Overridden.mono {server : ProxmoxServer} {cluster : String} {vmid : UInt32} {op : String}
    {principal : Option String} {h h' : History Effect}
    (ho : Overridden server cluster vmid op principal h) (hh : h <:+ h') :
    Overridden server cluster vmid op principal h' := by
  obtain ⟨now, hnow, hcover⟩ := ho
  exact ⟨now, hh.subset hnow, hcover⟩

section Observed

variable [Externals]

/-- The call has looked a guest up and was answered with this; `fresh` says that it had dropped the
cached listing before. -/
def Observed (fresh : Prop) (cluster : String) (vmid : UInt32) (guest : Option ResolvedGuest)
    (h : History Effect) : Prop :=
  ∃ before after origin, Answered cluster vmid before after origin guest ∧ after <:+ h ∧
    (fresh → Dropped cluster before)

theorem Observed.mono {fresh fresh' : Prop} {cluster : String} {vmid : UInt32}
    {guest : Option ResolvedGuest} {h h' : History Effect}
    (ho : Observed fresh cluster vmid guest h)
    (hh : h <:+ h') (hfresh : fresh' → fresh) : Observed fresh' cluster vmid guest h' := by
  obtain ⟨before, after, origin, hanswered, hafter, hdropped⟩ := ho
  exact ⟨before, after, origin, hanswered, hafter.trans hh, fun h => hdropped (hfresh h)⟩

/-- What lets a call act on a guest: a lookup of it, the grant's scope, and, if protection holds the
call back and the guest is protected, an override for this operation and this principal. -/
structure Admitted (fresh held : Prop) (server : ProxmoxServer) (client : ProxmoxClient)
    (grant : ProxmoxGrant) (op : String) (principal : Option String) (vmid : UInt32)
    (guest : ResolvedGuest) (h : History Effect) : Prop where
  observed : Observed fresh client.name vmid (some guest) h
  inScope : grant.allowsGuest guest.facts
  overridden : held → (protectionOf client.cluster (some guest) false).isProtected →
    Overridden server client.name vmid op principal h

theorem Admitted.mono {fresh held : Prop} {server : ProxmoxServer} {client : ProxmoxClient}
    {grant : ProxmoxGrant} {op : String} {principal : Option String} {vmid : UInt32}
    {guest : ResolvedGuest} {h h' : History Effect}
    (ha : Admitted fresh held server client grant op principal vmid guest h) (hh : h <:+ h') :
    Admitted fresh held server client grant op principal vmid guest h' :=
  ⟨ha.observed.mono hh id, ha.inScope, fun hheld hp => (ha.overridden hheld hp).mono hh⟩

theorem Admitted.guest_vmid {fresh held : Prop} {server : ProxmoxServer} {client : ProxmoxClient}
    {grant : ProxmoxGrant} {op : String} {principal : Option String} {vmid : UInt32}
    {guest : ResolvedGuest} {h : History Effect}
    (ha : Admitted fresh held server client grant op principal vmid guest h) :
    guest.vmid = vmid := by
  obtain ⟨_, _, _, hanswered, -⟩ := ha.observed
  exact hanswered.guest_vmid

end Observed

end ProxmoxMcp
