import ProxmoxMcp.Core.Guests
import ProxmoxMcp.Server.Context

/-!
# Authorizing a call against a guest

Every tool that acts on a guest decides in the same order: a first lookup settles what **override**
applies, and a second one authorizes the call with it. `authorizeWithOverride` is that order, and
`ensures_authorizeWithOverride` says what its success rests on.

The section on requests says what a handler needs in order to send one: its policy must allow it, if
it can change the cluster.
-/

namespace ProxmoxMcp

open Interaction Program Text

variable {server : ProxmoxServer}

/-- An override that applies was allowed by a waiver or by lab mode. -/
theorem overridden_of_overrideFor {protection : Protection} {cluster : String} {vmid : UInt32}
    {now : UInt64} {op : String} {principal : Option String} {h : History Effect}
    (happlies : (server.overrideFor protection cluster vmid now op principal).applies)
    (hnow : ⟨.unixNow, now⟩ ∈ h) : Overridden server cluster vmid op principal h :=
  ⟨now, hnow, exists_waiver_or_labMode_of_applies happlies⟩

variable [Externals]

theorem clientNamed_of_clientFor {cluster : String} {client : ProxmoxClient}
    (h : server.clientFor cluster = .ok client) : server.clientNamed cluster = some client := by
  cases hnamed : server.clientNamed cluster with
  | none => simp [ProxmoxServer.clientFor, hnamed] at h
  | some client' => simpa [ProxmoxServer.clientFor, hnamed] using h

theorem name_of_clientFor {cluster : String} {client : ProxmoxClient}
    (h : server.clientFor cluster = .ok client) : client.name = cluster :=
  ProxmoxServer.name_of_clientNamed (clientNamed_of_clientFor h)

/-! ### Requests -/

section Requests

variable {policy : Policy} {client : ProxmoxClient} {request : ApiRequest} {h : History Effect}

/-- A request is sent if the policy permits it. -/
theorem always_send_read {α : Type} {read : Json → Except ProxmoxError α}
    (hsend : policy.Permits h client.name request) :
    Always policy.Allows (Sent client request h read) h
      (do liftM (read (← client.send request)) : ClientM α).run :=
  Guests.always_send_read hsend fun _ => trivial

theorem ensures_send (hsend : policy.Permits h client.name request) :
    Ensures policy.Allows (fun _ _ => True) h (client.send request) :=
  Always.ensures (ProxmoxClient.always_send (Q := fun _ _ => True) (fun _ _ => trivial) hsend
    (fun _ => trivial) fun _ _ => trivial) fun _ _ _ => trivial

theorem ensures_runTask (hsend : policy.Permits h client.name request) :
    Ensures policy.Allows (fun _ _ => True) h (viaClient (Guests.runTask client request)) :=
  ensures_mapError.mpr ((always_send_read hsend).ensures fun _ _ _ => trivial)

end Requests

/-! ### The two lookups -/

/-- The protection of a guest as a first lookup sees it: a lookup that fails counts as protected. -/
def lookedUpProtection (client : ProxmoxClient) (cluster : String) (vmid : UInt32) :
    ToolM Protection := do
  match ← attempt (resolve client cluster vmid) with
  | .ok guest => return protectionOf client.cluster (some guest) false
  | .error _ => return protectionOf client.cluster none true

/-- What the two lookups decide: the protection and the override by the first, and the authorization
by the second. -/
structure Verdict where
  protection : Protection
  override : Override
  authorization : Authorization

/-- Look a guest up to decide on an override, and authorize a call on a second lookup. The operation
an override has to be for is read in between. -/
def authorizeWithOverride (server : ProxmoxServer) (client : ProxmoxClient) (cluster : String)
    (vmid : UInt32) (grant : ProxmoxGrant) (op : Except ToolResult String)
    (principal : Option String) (intent : Bool → Intent) : ToolM Verdict := do
  let protection ← lookedUpProtection client cluster vmid
  let now ← unixNow
  let op ← liftM op
  let override := server.overrideFor protection cluster vmid now op principal
  let certificate ← viaClient (authorize client cluster vmid grant (intent override.applies))
  return ⟨protection, override, ⟨client, grant, intent override.applies, certificate⟩⟩

theorem ensures_invalidateCluster_afterDrop {ε : Type} {lookups : LookupRule} (cluster : String)
    (h : History Effect) : Ensures (Quiet lookups) (fun h' _ => h' = afterDrop cluster h) h
      (invalidateCluster cluster : ExceptT ε (Program Effect) Unit) :=
  ⟨trivial, fun _ => ⟨⟨_, rfl⟩, fun _ _ _ => rfl⟩⟩

theorem ensures_invalidateCluster {ε : Type} {lookups : LookupRule} (cluster : String)
    (h : History Effect) : Ensures (Quiet lookups) (fun h' _ => Dropped cluster h') h
      (invalidateCluster cluster : ExceptT ε (Program Effect) Unit) :=
  (ensures_invalidateCluster_afterDrop cluster h).mono (fun _ _ hop => hop)
    fun _ _ hh' => hh' ▸ dropped_afterDrop cluster h

private theorem ensures_lookedUpProtection {lookups : LookupRule} {client : ProxmoxClient}
    {vmid : UInt32} {h : History Effect} (hlookup : lookups h client.name vmid) :
    Ensures (Quiet lookups) (fun _ _ => True) h (lookedUpProtection client client.name vmid) := by
  refine Ensures.attempt (always_resolve client vmid hlookup) (fun _ _ hop => hop) ?_
  intro after outcome _ _
  cases outcome <;> exact ensures_pure.mpr trivial

/-- What a guest authorization rests on: the guest is the one the index showed last, the grant
carries the tier, and the guest is admitted. -/
structure Authorized (fresh held : Prop) (server : ProxmoxServer) (op : String)
    (principal : Option String) (vmid : UInt32) (authorization : Authorization)
    (h : History Effect) : Prop where
  seen : lastSeen authorization.client.name vmid h = some authorization.guest
  carriesTier : authorization.grant.allowsAction authorization.intent.tier.action
  admitted : Admitted fresh held server authorization.client authorization.grant op principal vmid
    authorization.guest h

/-- **Authorizing with an override** looks the guest up twice and nothing else; what the success
rests on holds of the second lookup. -/
theorem ensures_authorizeWithOverride {lookups : LookupRule} {client : ProxmoxClient}
    {vmid : UInt32} {grant : ProxmoxGrant} {op : Except ToolResult String}
    {principal : Option String} {intent : Bool → Intent} {h : History Effect} (fresh held : Prop)
    (hlookup : ∀ h', h <:+ h' → lookups h' client.name vmid)
    (hfresh : fresh → Dropped client.name h) (hheld : held → ∀ applies, (intent applies).disrupts)
    (hintent : ∀ applies, (intent applies).overrideApplies = some applies) :
    Ensures (Quiet lookups) (fun after verdict => verdict.authorization.client = client ∧
        verdict.authorization.grant = grant ∧
        verdict.authorization.intent = intent verdict.override.applies ∧
        (verdict.override = .labMode → server.labMode) ∧
        ∃ operation, op = .ok operation ∧
          Authorized fresh held server operation principal vmid verdict.authorization after) h
      (authorizeWithOverride server client client.name vmid grant op principal intent) := by
  refine Ensures.bind (ensures_lookedUpProtection (hlookup h List.suffix_rfl)) (fun _ _ hop => hop)
    fun h₁ protection hh₁ _ => ?_
  refine Ensures.request trivial fun now => Ensures.liftExcept fun operation hop => ?_
  have hh₂ : h <:+ ⟨.unixNow, now⟩ :: h₁ := hh₁.trans (List.suffix_cons _ _)
  refine Ensures.bind (ensures_mapError.mpr (ensures_authorize client vmid grant _
    (hlookup _ hh₂))) (fun _ _ hop => hop) fun h₂ certificate hh₃ hanswered =>
    ensures_pure.mpr ⟨rfl, rfl, rfl, labMode_of_destructiveAllowed, operation, hop, ?_⟩
  obtain ⟨origin, hanswered⟩ := hanswered
  refine ⟨hanswered.lastSeen_eq, certificate.carriesTier, ⟨⟨_, _, origin, hanswered,
    List.suffix_rfl, fun hf => (hfresh hf).mono hh₂⟩, certificate.inScope, fun hh hprotected => ?_⟩⟩
  have happlies := certificate.admitted (hheld hh _) hprotected
  rw [hintent] at happlies
  exact (overridden_of_overrideFor (Option.some.inj happlies) List.mem_cons_self).mono hh₃

end ProxmoxMcp
