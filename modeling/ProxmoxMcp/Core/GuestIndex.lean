import ProxmoxMcp.Core.Client

/-!
# The guest index

`resolve` answers where a guest is and what it carries, from a cached listing of its cluster while
that is fresh and otherwise from a new one. It takes its steps on the shared cache one at a time:
look up, read the generation, send the request, wait for the answer, and store the listing if the
generation is **still the same**. `invalidate` and `invalidateCluster` advance the generation
before they drop anything, so a listing that was on its way is not stored behind them.

`authorize` resolves a guest and decides whether a caller may act on it. Its result is a
certificate: an `AuthorizedGuest` cannot be built without the scope, the action tier and, for a
protected guest, the override.
-/

namespace ProxmoxMcp

open Interaction Program Text ProxmoxError

/-! ### Listings -/

/-- Split Proxmox's semicolon-separated tag string. -/
def parseTags (raw : Option String) : List String :=
  ((fields (raw.getD "") ';').map trim).filter fun tag => !tag.isEmpty

/-- Read the guest type of a listing entry. -/
def guestTypeOf (entry : Json) : Option GuestType :=
  match entry.getStr "type" with
  | some "qemu" => some .qemu
  | some "lxc" => some .lxc
  | _ => none

/-- Read one entry of a listing; an entry that is no guest, or lacks a vmid that fits or a node,
is dropped. -/
def parseGuest (cluster : String) (entry : Json) : Option ResolvedGuest := do
  let type ← guestTypeOf entry
  let vmid ← entry.getU64 "vmid"
  guard (vmid.toNat < UInt32.size)
  let node ← entry.getStr "node"
  return {
    cluster, vmid := vmid.toUInt32, type, node
    name := (entry.getStr "name").getD ""
    status := (entry.getStr "status").getD "unknown"
    tags := parseTags (entry.getStr "tags")
    pool := (entry.getStr "pool").filter fun pool => !pool.isEmpty }

/-- Read a whole listing; of two entries with one vmid the later one counts. -/
def parseGuests (cluster : String) (entries : List Json) : GuestMap :=
  entries.foldl (fun guests entry => match parseGuest cluster entry with
    | some guest => guests.insert guest
    | none => guests) .empty

/-- What a guest listing says in the answer to the request for it. -/
def readGuests (cluster : String) (data : Json) : Except ProxmoxError GuestMap :=
  match data.asArray with
  | some entries => .ok (parseGuests cluster entries)
  | none => .error (malformed "cluster/resources is not an array")

/-! ### Resolving and invalidating -/

section Steps

variable [Externals]

/-- Read and parse the guest listing of one cluster. -/
def fetchGuests (client : ProxmoxClient) (cluster : String) : ClientM GuestMap := do
  let data ← client.getJson "/api2/json/cluster/resources" [] []
  liftM (readGuests cluster data)

/-- Resolve one guest, refreshing the cluster's snapshot when it has expired. -/
def resolve (client : ProxmoxClient) (cluster : String) (vmid : UInt32) :
    ClientM ResolvedGuest := do
  match ← lookupFresh cluster vmid with
  | some hit => return hit.guest
  | none =>
    let generation ← loadGeneration
    let guests ← fetchGuests client cluster
    storeIfCurrent cluster generation guests
    required (guests vmid) (notFound s!"guest {vmid} in cluster {cluster}")

end Steps

/-- Drop every cached snapshot. -/
def invalidate {ε : Type} : ExceptT ε (Program Effect) Unit := do
  bumpGeneration
  clearSnapshots

/-- Drop one cluster's cached snapshot. -/
def invalidateCluster {ε : Type} (cluster : String) : ExceptT ε (Program Effect) Unit := do
  bumpGeneration
  removeSnapshot cluster

/-! ### What a resolved guest rests on -/

/-- What the index said last about a guest. -/
def lastSeen (cluster : String) (vmid : UInt32) : History Effect → Option ResolvedGuest
  | ⟨.index (.lookupFresh cluster' vmid'), some hit⟩ :: older =>
    if cluster' = cluster ∧ vmid' = vmid then some hit.guest else lastSeen cluster vmid older
  | ⟨.index (.storeIfCurrent cluster' _ guests), _⟩ :: older =>
    if cluster' = cluster then guests vmid else lastSeen cluster vmid older
  | _ :: older => lastSeen cluster vmid older
  | [] => none

/-- Only an operation on the index changes what it said last. -/
theorem lastSeen_cons_of_ne {cluster : String} {vmid : UInt32} {event : Event Effect}
    {h : History Effect} (hop : ∀ op, event.op ≠ .index op) :
    lastSeen cluster vmid (event :: h) = lastSeen cluster vmid h := by
  obtain ⟨op, reply⟩ := event
  cases op with
  | index op => exact absurd rfl (hop op)
  | _ => rfl

section Rules

variable [Externals]

/-- The request for a listing. -/
def listingRequest : ApiRequest := ⟨.get, "/api2/json/cluster/resources", [], [], []⟩

/-- What the calls keep to when they use the index: a listing is stored by the call that fetched it
under the generation read before, and a snapshot is dropped right after a bump. -/
def IndexRule (h : History Effect) : IndexOp → Prop
  | .storeIfCurrent cluster generation guests => ∃ ticket response data older,
      h = ⟨.http (.await ticket), .ok response⟩ ::
        ⟨.http (.dispatch cluster listingRequest), ticket⟩ ::
        ⟨.index .loadGeneration, generation⟩ :: older ∧
      ProxmoxClient.readAnswer response = .ok data ∧ readGuests cluster data = .ok guests
  | .clearSnapshots | .removeSnapshot _ => ∃ older, h = ⟨.index .bumpGeneration, ()⟩ :: older
  | _ => True

/-- When a call may look a guest of a cluster up. -/
abbrev LookupRule := History Effect → String → UInt32 → Prop

/-- The operations that change neither a cluster nor a record; lookups keep to a rule. -/
def Quiet (lookups : LookupRule) (h : History Effect) : Op → Prop
  | .index (.lookupFresh cluster vmid) => lookups h cluster vmid
  | .index op => IndexRule h op
  | .http (.dispatch _ request) => ¬ request.Mutating
  | .http (.await _) | .unixNow | .pollWait _ => True
  | .coordinator _ | .evidence _ | .reloadInventory => False

/-- Quiet code keeps to the rule of the index. -/
theorem Quiet.indexRule {lookups : LookupRule} {h : History Effect} {op : IndexOp}
    (hop : Quiet lookups h (.index op)) : IndexRule h op := by
  cases op with
  | lookupFresh => trivial
  | _ => exact hop

theorem Quiet.not_mutates {lookups : LookupRule} {h : History Effect} {op : Op}
    (hop : Quiet lookups h op) : ¬ op.Mutates := by
  intro hmutates
  cases op with
  | http op =>
    cases op with
    | dispatch client request => exact hop hmutates
    | await ticket => exact hmutates
  | _ => exact hmutates

/-- What a lookup of a guest has seen: from the history `before` to `after` it was answered, out of
the listing with this origin, with this guest or its absence. -/
inductive Answered (cluster : String) (vmid : UInt32) (before : History Effect) :
    (after : History Effect) → Origin → Option ResolvedGuest → Prop
  | cached (hit : CacheHit vmid) : Answered cluster vmid before
      (⟨.index (.lookupFresh cluster vmid), some hit⟩ :: before) hit.origin (some hit.guest)
  | fetched {generation : UInt64} {ticket : ℕ} {response : HttpResponse} {data : Json}
      {guests : GuestMap} (read : ProxmoxClient.readAnswer response = .ok data)
      (parsed : readGuests cluster data = .ok guests) : Answered cluster vmid before
      (⟨.index (.storeIfCurrent cluster generation guests), ()⟩ ::
        ⟨.http (.await ticket), .ok response⟩ ::
        ⟨.http (.dispatch cluster listingRequest), ticket⟩ ::
        ⟨.index .loadGeneration, generation⟩ ::
        ⟨.index (.lookupFresh cluster vmid), none⟩ :: before) ⟨cluster, ticket⟩ (guests vmid)

/-- A guest found is the one looked up. -/
theorem Answered.guest_vmid {cluster : String} {vmid : UInt32} {before after : History Effect}
    {origin : Origin} {guest : ResolvedGuest}
    (h : Answered cluster vmid before after origin (some guest)) : guest.vmid = vmid := by
  generalize hfound : some guest = found at h
  cases h with
  | cached hit => exact (Option.some.inj hfound) ▸ hit.guest_vmid
  | @fetched _ _ _ _ guests => exact guests.vmid_of_find hfound.symm

/-- A lookup only extends the history. -/
theorem Answered.suffix {cluster : String} {vmid : UInt32} {before after : History Effect}
    {origin : Origin} {guest : Option ResolvedGuest}
    (h : Answered cluster vmid before after origin guest) : before <:+ after := by
  cases h with
  | cached hit => exact List.suffix_cons _ _
  | fetched => exact ⟨[_, _, _, _, _], rfl⟩

theorem Answered.lastSeen_eq {cluster : String} {vmid : UInt32} {before after : History Effect}
    {origin : Origin} {guest : Option ResolvedGuest}
    (h : Answered cluster vmid before after origin guest) :
    lastSeen cluster vmid after = guest := by
  cases h <;> simp [lastSeen]

/-- A lookup is answered once: two answers to it that one history shows are the same answer. -/
theorem Answered.eq_of_suffix {cluster : String} {vmid : UInt32}
    {before after after' h : History Effect} {origin origin' : Origin}
    {guest guest' : Option ResolvedGuest} (ha : Answered cluster vmid before after origin guest)
    (ha' : Answered cluster vmid before after' origin' guest') (hh : after <:+ h)
    (hh' : after' <:+ h) : guest = guest' ∧ after = after' := by
  have hfirst {hit : CacheHit vmid} {later : History Effect}
      (hcached : ⟨.index (.lookupFresh cluster vmid), some hit⟩ :: before <:+ h)
      (hfetched : later ++ ⟨.index (.lookupFresh cluster vmid), none⟩ :: before <:+ h) : False := by
    have hnone := (List.suffix_append later _).trans hfetched
    have heq := (List.suffix_of_suffix_length_le hcached hnone (by simp)).eq_of_length (by simp)
    cases heq
  cases ha with
  | cached hit => cases ha' with
    | cached hit' =>
      have heq := (List.suffix_of_suffix_length_le hh hh' (by simp)).eq_of_length (by simp)
      cases heq
      exact ⟨rfl, rfl⟩
    | fetched => exact (@hfirst _ [_, _, _, _] hh hh').elim
  | fetched => cases ha' with
    | cached hit' => exact (@hfirst _ [_, _, _, _] hh' hh).elim
    | fetched =>
      have heq := (List.suffix_of_suffix_length_le hh hh' (by simp)).eq_of_length (by simp)
      cases heq
      exact ⟨rfl, rfl⟩

/-- The outcome of a resolution and what it rests on; an error other than `notFound` rests on
nothing. -/
def Resolved (cluster : String) (vmid : UInt32) (before after : History Effect) :
    Except ProxmoxError ResolvedGuest → Prop
  | .ok guest => ∃ origin, Answered cluster vmid before after origin (some guest)
  | .error (.notFound what) => what = s!"guest {vmid} in cluster {cluster}" ∧
      ∃ origin, Answered cluster vmid before after origin none
  | .error _ => True

/-- Reading an answer never fails with `notFound`. -/
private theorem ne_notFound_of_readReply {reply : Except HttpError HttpResponse}
    {error : ProxmoxError} (h : ProxmoxClient.readReply reply = .error error) (what : String) :
    error ≠ .notFound what := by
  rintro rfl
  cases reply with
  | error text => simp [ProxmoxClient.readReply, Except.mapError, Except.bind] at h
  | ok response =>
    simp only [ProxmoxClient.readReply, Except.mapError, Except.bind, ProxmoxClient.readAnswer,
      ProxmoxError.fromResponse] at h
    split at h
    · split_ifs at h <;> simp at h
    · split at h
      · simp at h
      · split at h <;> simp at h

variable {lookups : LookupRule}

/-- Fetching a listing is one request. -/
private theorem always_fetchGuests (client : ProxmoxClient) (h : History Effect) :
    Program.Always (Quiet lookups) (fun after outcome => match outcome with
      | .ok guests => ∃ ticket response data, after = ⟨.http (.await ticket), .ok response⟩ ::
          ⟨.http (.dispatch client.name listingRequest), ticket⟩ :: h ∧
          ProxmoxClient.readAnswer response = .ok data ∧
          readGuests client.name data = .ok guests
      | .error error => ∀ what, error ≠ .notFound what) h (fetchGuests client client.name).run := by
  refine Always.run_bind (R := fun after outcome => match outcome with
      | .ok data => ∃ ticket response, after = ⟨.http (.await ticket), .ok response⟩ ::
          ⟨.http (.dispatch client.name listingRequest), ticket⟩ :: h ∧
          ProxmoxClient.readAnswer response = .ok data
      | .error error => ∀ what, error ≠ .notFound what) ?_ ?_ fun _ _ => id
  · refine ProxmoxClient.always_send (fun error herror what => ?_) (fun mutating => mutating rfl)
      (fun _ => trivial) ?_
    · rcases herror with ⟨text, rfl⟩ | ⟨text, rfl⟩ <;> simp
    · intro ticket reply
      cases reply with
      | error text => simp [ProxmoxClient.readReply, Except.mapError, Except.bind]
      | ok response =>
        cases hread : ProxmoxClient.readReply (.ok response) with
        | error error => exact ne_notFound_of_readReply hread
        | ok data => exact ⟨ticket, response, rfl, hread⟩
  · rintro after data ⟨ticket, response, rfl, hread⟩
    rw [always_run_liftExcept]
    cases hparsed : readGuests client.name data with
    | ok guests => exact ⟨ticket, response, data, rfl, hread, hparsed⟩
    | error error =>
      simp only [readGuests] at hparsed
      split at hparsed
      · simp at hparsed
      · rintro what rfl
        simp at hparsed

/-- A listing that is not read takes two operations at most. -/
theorem always_fetchGuests_length (client : ProxmoxClient) (h : History Effect) :
    Program.Always (fun _ _ => True) (fun after outcome => ∀ error, outcome = .error error →
      after.length ≤ h.length + 2) h (fetchGuests client client.name).run := by
  refine Always.run_bind (R := fun after _ => after.length ≤ h.length + 2) ?_
    (fun after data hafter => ?_) fun _ _ hafter _ _ => hafter
  · refine ProxmoxClient.always_send (fun _ _ => by simp) trivial (fun _ => trivial) ?_
    intro ticket reply
    simp
  · exact (always_run_liftExcept _).mpr fun _ _ => hafter

/-- **Resolving** uses the index as the rule says, sends at most the request for a listing, and its
outcome is what the listing says about the guest. -/
theorem always_resolve (client : ProxmoxClient) (vmid : UInt32) {h : History Effect}
    (hlookup : lookups h client.name vmid) :
    Program.Always (Quiet lookups) (Resolved client.name vmid h) h
      (resolve client client.name vmid).run := by
  refine ⟨hlookup, fun hit => ?_⟩
  cases hit with
  | some hit => exact ⟨hit.origin, .cached hit⟩
  | none =>
    refine ⟨trivial, fun generation => ?_⟩
    refine Always.run_bind (always_fetchGuests client _) (fun h' guests hguests => ?_)
      fun h' error herror => ?_
    · obtain ⟨ticket, response, data, rfl, hread, hparsed⟩ := hguests
      refine ⟨⟨ticket, response, data, _, rfl, hread, hparsed⟩, fun _ => ?_⟩
      refine always_run_required.mpr ⟨fun guest hguest => ⟨⟨client.name, ticket⟩, ?_⟩,
        fun hnone => ⟨rfl, ⟨client.name, ticket⟩, ?_⟩⟩
      · exact hguest ▸ Answered.fetched hread hparsed
      · exact hnone ▸ Answered.fetched hread hparsed
    · cases error with
      | notFound what => exact absurd rfl (herror what)
      | _ => trivial

end Rules

/-! ### Authorizing -/

/-- What a caller intends to do to a guest. -/
structure Intent where
  tier : Tier
  /-- Whether the call takes a running guest out of service. -/
  interrupts : Bool
  /-- Whether a waiver or lab mode already permits a protected guest. -/
  overrideApplies : Option Bool
  deriving DecidableEq

namespace Intent

/-- Observation. -/
def read : Intent := ⟨.read, false, none⟩

/-- A low-tier call, with interruption derived from the tool name. -/
def low (tool : String) : Intent := ⟨.low, interruptsService tool, none⟩

/-- A low-tier call against a guest an override may permit. -/
def lowWithOverride (tool : String) (overrideApplies : Bool) : Intent :=
  { low tool with overrideApplies := some overrideApplies }

/-- A destructive call. -/
def destructive (overrideApplies : Bool) : Intent := ⟨.destructive, false, some overrideApplies⟩

/-- Whether protection holds the call back. -/
def disrupts (intent : Intent) : Bool := intent.tier == .destructive || intent.interrupts

end Intent

/-- A guest on which a caller may act: the grant admits it and carries the tier, and if it is
protected and the call disrupts it, an override applies. -/
structure AuthorizedGuest (cluster : Cluster) (grant : ProxmoxGrant) (intent : Intent) where
  /-- The guest as the listing that authorized the call shows it. -/
  guest : ResolvedGuest
  inScope : grant.allowsGuest guest.facts
  carriesTier : grant.allowsAction intent.tier.action
  admitted : intent.disrupts → (protectionOf cluster (some guest) false).isProtected →
    intent.overrideApplies = some true

/-- The protection verdict observed at authorization time. -/
def AuthorizedGuest.protection {cluster : Cluster} {grant : ProxmoxGrant} {intent : Intent}
    (authorized : AuthorizedGuest cluster grant intent) : Protection :=
  protectionOf cluster (some authorized.guest) false

/-- Decide on a resolved guest: scope first, then the tier, then protection. -/
def authorizeResolved (config : Cluster) (cluster : String) (vmid : UInt32) (grant : ProxmoxGrant)
    (intent : Intent) (guest : ResolvedGuest) :
    Except ProxmoxError (AuthorizedGuest config grant intent) :=
  let protection := protectionOf config (some guest) false
  if inScope : grant.allowsGuest guest.facts then
    if carriesTier : grant.allowsAction intent.tier.action then
      if held : intent.disrupts ∧ protection.isProtected ∧ intent.overrideApplies ≠ some true then
        let kind := if intent.tier = .destructive then "a destructive call"
          else "interrupting a protected guest"
        .error (denied s!"guest {vmid} is protected ({protection.summary}); {kind} needs a waiver")
      else
        .ok ⟨guest, inScope, carriesTier, fun disrupts isProtected =>
          not_not.mp fun none => held ⟨disrupts, isProtected, none⟩⟩
    else
      .error (denied s!"caller grant does not carry the {intent.tier.name} action tier")
  else .error (guestOutOfScope cluster)

/-- A certificate is about the guest it was issued for. -/
private theorem guest_of_authorizeResolved {config : Cluster} {cluster : String} {vmid : UInt32}
    {grant : ProxmoxGrant} {intent : Intent} {guest : ResolvedGuest}
    {authorized : AuthorizedGuest config grant intent}
    (h : authorizeResolved config cluster vmid grant intent guest = .ok authorized) :
    authorized.guest = guest := by
  simp only [authorizeResolved] at h
  split_ifs at h
  exact (Except.ok.inj h) ▸ rfl

/-- Resolve a guest and authorize a caller for it. An absent guest and a guest outside the scope
get the same answer. -/
def authorize [Externals] (client : ProxmoxClient) (cluster : String) (vmid : UInt32)
    (grant : ProxmoxGrant) (intent : Intent) :
    ClientM (AuthorizedGuest client.cluster grant intent) := do
  match ← attempt (resolve client cluster vmid) with
  | .ok guest => liftM (authorizeResolved client.cluster cluster vmid grant intent guest)
  | .error (.notFound _) => throw (guestOutOfScope cluster)
  | .error error => throw error

/-- **Authorizing** rests on one lookup of the guest. -/
theorem ensures_authorize [Externals] {lookups : LookupRule} (client : ProxmoxClient)
    (vmid : UInt32) (grant : ProxmoxGrant) (intent : Intent) {h : History Effect}
    (hlookup : lookups h client.name vmid) :
    Ensures (Quiet lookups) (fun after authorized => ∃ origin,
        Answered client.name vmid h after origin (some authorized.guest)) h
      (authorize client client.name vmid grant intent) := by
  refine Ensures.attempt (always_resolve client vmid hlookup) (fun _ _ hop => hop) ?_
  intro after outcome _ hresolved
  cases outcome with
  | ok guest =>
    intro authorized hauthorized
    obtain ⟨origin, hanswered⟩ := hresolved
    rw [guest_of_authorizeResolved hauthorized]
    exact ⟨origin, hanswered⟩
  | error error => cases error <;> exact ensures_throw

end ProxmoxMcp
