import ProxmoxMcp.Server.Machine
import ProxmoxMcp.Server.ToolWarrants

/-!
# What a read asks of a cluster

A handler hands its entry to the executor with some of the parameters of the entry's path; a read
that names a guest gets the others from the guest it was admitted to. The two have to fit: what
fills a template refuses a placeholder without a parameter, and a parameter without a placeholder.
`ReadCall.Addressed` says that they do, for every entry and every guest, and that a request which
names a guest names the one its caller was admitted to, under the type that the guest has.
-/

namespace ProxmoxMcp

open Interaction Text
open Program hiding bind

/-! ### Templates -/

/-- The names between the braces of a template; `some` holds a name that has begun, backwards. -/
def placeholdersFrom : Option (List Char) → List Char → List String
  | _, [] => []
  | none, c :: rest => placeholdersFrom (if c = '\x7b' then some [] else none) rest
  | some name, c :: rest =>
    if c = '\x7d' then String.ofList name.reverse :: placeholdersFrom none rest
    else placeholdersFrom (some (c :: name)) rest

/-- The placeholders of a template, in order. -/
def placeholders (template : String) : List String := placeholdersFrom none template.toList

/-- The parameters a guest adds to the path of an entry. -/
def guestNames (tool : ReadTool) : List String :=
  ["node", "vmid"] ++ if contains tool.path "{kind}" then ["kind"] else []

/-- An entry and the parameters a handler gives for it fit together: with those of a guest, they are
the placeholders of the path, and the path says what type of guest it is for. -/
def ReadTool.fits (tool : ReadTool) (names : List String) (guest : Bool) : Bool :=
  (names ++ if guest then guestNames tool else []).isPerm (placeholders tool.path) &&
    (placeholders tool.path).Nodup &&
    (!guest || contains tool.path "{kind}" || (kindNamedIn tool.path).isSome)

private theorem names_of_guestParams {tool : ReadTool} {guest : ResolvedGuest}
    {params : List (String × String)} (h : guestParams tool guest = .ok params) :
    params.map Prod.fst = guestNames tool := by
  unfold guestParams at h
  unfold guestNames
  split at h
  · next hkind =>
    obtain rfl := Except.ok.inj h
    simp [hkind]
  · next hkind =>
    have hparams : params = [("node", guest.node), ("vmid", toString guest.vmid)] := by
      split at h
      · split_ifs at h
        exact (Except.ok.inj h).symm
      · exact (Except.ok.inj h).symm
    simp [hparams, hkind]

/-- The parameters of a guest name its type, unless the path does. -/
private theorem kind_of_guestParams {tool : ReadTool} {guest : ResolvedGuest}
    {params : List (String × String)} (h : guestParams tool guest = .ok params)
    (htyped : contains tool.path "{kind}" = true ∨ (kindNamedIn tool.path).isSome) :
    ("kind", guest.type.pathSegment) ∈ params ∨
      kindNamedIn tool.path = some guest.type.pathSegment := by
  unfold guestParams at h
  split at h
  · obtain rfl := Except.ok.inj h
    exact .inl (List.mem_append_right _ List.mem_cons_self)
  · next hkind =>
    split at h
    · next kind hnamed =>
      split_ifs at h with hsame
      exact .inr (hsame ▸ hnamed)
    · next hunnamed =>
      rw [hunnamed] at htyped
      exact absurd htyped (by simpa using hkind)

private theorem mem_of_guestParams {tool : ReadTool} {guest : ResolvedGuest}
    {params : List (String × String)} (h : guestParams tool guest = .ok params) :
    ("node", guest.node) ∈ params ∧ ("vmid", toString guest.vmid) ∈ params := by
  unfold guestParams at h
  split at h
  · obtain rfl := Except.ok.inj h
    simp
  · split at h
    · split_ifs at h
      obtain rfl := Except.ok.inj h
      simp
    · obtain rfl := Except.ok.inj h
      simp

/-! ### Handlers -/

namespace ReadCall

/-- **Every handler fits its entry.** -/
theorem exists_fits (call : ReadCall) : ∃ tool, readTool call.handed.name = some tool ∧
    tool.fits (call.handed.params.map Prod.fst) call.handed.vmid.isSome := by
  cases call <;> refine ⟨_, rfl, ?_⟩ <;>
    simp only [handed, List.map_cons, List.map_nil, Option.isSome_none, Option.isSome_some] <;>
    decide

/-- The arguments of the read a handler makes. -/
def args (call : ReadCall) (page : Option (UInt32 × UInt32)) : ReadArgs :=
  ⟨call.handed.cluster, call.handed.params, call.handed.vmid,
    call.handed.requiresUnrestrictedGuestScope, page⟩

/-- The tool that a handler serves, once its page is settled. -/
def Serves (call : ReadCall) (tool : Tool) : Prop :=
  ∃ entry page, readTool call.handed.name = some entry ∧ call.page = .ok page ∧
    tool = .read entry (call.args page)

variable [Externals] {server : ProxmoxServer} {caller : Option CallerCtx}

/-- Serving a handler is serving its tool. -/
theorem Serves.serveReadCall_eq {call : ReadCall} {tool : Tool} (h : call.Serves tool) :
    server.serveReadCall caller call = server.serve caller tool := by
  obtain ⟨entry, page, hentry, hpage, rfl⟩ := h
  rw [ProxmoxServer.serveReadCall, hpage, hentry]
  rfl

/-- The reads for no single guest that are open to every caller of their tool: what they list is
about the cluster and its nodes, or is cut down to the guests of one type. -/
def openReads : List String := ["get_cluster_status", "get_nodes", "get_vms", "get_containers"]

omit [Externals] in
/-- The open reads are the only ones for no single guest that do not ask for an unrestricted scope.
-/
private theorem requiresUnrestrictedGuestScope_iff (call : ReadCall) :
    call.handed.requiresUnrestrictedGuestScope ↔
      call.handed.vmid = none ∧ call.handed.name ∉ openReads := by
  cases call <;> simp [handed, openReads]

/-- A read that is for no single guest, and not open, has a caller who may see all guests. -/
def Admits (call : ReadCall) (caller : Option CallerCtx) : Prop :=
  call.handed.vmid = none → call.handed.name ∉ openReads →
    ∃ grant, resolveGrant caller = .ok grant ∧ grant.isUnrestrictedGuestScope

/-- A request **addresses** what a handler was asked for. -/
structure Addressed (call : ReadCall) (caller : Option CallerCtx) (request : ApiRequest) :
    Prop where
  /-- It asks for an entry of the catalog, and changes nothing. -/
  entry : ∃ entry, readTool call.handed.name = some entry ∧
    request.pathTemplate = entry.path ∧ request.query = entry.query
  isGet : request.method = .get ∧ request.form = []
  /-- Each placeholder of its path has one parameter, and each parameter has its placeholder. -/
  filled : (request.params.map Prod.fst).Perm (placeholders request.pathTemplate)
  distinct : (request.params.map Prod.fst).Nodup
  /-- What the handler gives is sent as it is, and alone if it names no guest. -/
  given : call.handed.params <+: request.params
  alone : call.handed.vmid = none → request.params = call.handed.params
  everyGuest : call.Admits caller
  /-- A guest that it names is one the caller may see, where it is and under the type it has. -/
  guest : ∀ vmid, call.handed.vmid = some vmid → ∃ (grant : ProxmoxGrant) (guest : ResolvedGuest),
    resolveGrant caller = .ok grant ∧ grant.allowsGuest guest.facts ∧
    ("vmid", toString vmid) ∈ request.params ∧ guest.vmid = vmid ∧
    ("node", guest.node) ∈ request.params ∧
    (("kind", guest.type.pathSegment) ∈ request.params ∨
      kindNamedIn request.pathTemplate = some guest.type.pathSegment)

/-- What a handler may send: what addresses its entry, and the listing a guest is looked up in. -/
def Sends (call : ReadCall) (caller : Option CallerCtx) (op : Op) : Prop :=
  ∀ cluster request, op = .http (.dispatch cluster request) → cluster = call.handed.cluster ∧
    (call.Addressed caller request ∨ call.handed.vmid.isSome ∧ request = listingRequest)

theorem Sends.of_aside {call : ReadCall} {op : Op}
    (hop : ∀ cluster request, op ≠ .http (.dispatch cluster request)) : call.Sends caller op :=
  fun cluster request h => absurd h (hop cluster request)

variable {call : ReadCall} {client : ProxmoxClient}

private theorem heeds_send {request : ApiRequest} (hclient : client.name = call.handed.cluster)
    (hrequest : call.Addressed caller request ∨
      call.handed.vmid.isSome ∧ request = listingRequest) :
    Heeds (call.Sends caller) (fun _ => True) (client.send request) := by
  refine Heeds.liftExcept fun _ _ => Heeds.liftExcept fun _ _ => Heeds.request ?_ fun ticket => ?_
  · rintro _ _ ⟨⟩
    exact ⟨hclient, hrequest⟩
  · exact Heeds.request (Sends.of_aside nofun) fun _ => Heeds.liftExcept fun _ _ =>
      heeds_liftExcept fun _ _ => trivial

/-- Looking a guest up asks for nothing but the listing. -/
private theorem heeds_resolve {vmid : UInt32} (hclient : client.name = call.handed.cluster)
    (hvmid : call.handed.vmid.isSome) :
    Heeds (call.Sends caller) (fun _ => True) (resolve client call.handed.cluster vmid) := by
  refine Heeds.request (Sends.of_aside nofun) fun hit => ?_
  cases hit with
  | some hit => exact heeds_pure trivial
  | none =>
    refine Heeds.request (Sends.of_aside nofun) fun generation => ?_
    have hfetch : Heeds (call.Sends caller) (fun _ => True)
        (fetchGuests client call.handed.cluster) :=
      (heeds_send hclient (.inr ⟨hvmid, rfl⟩)).bind fun _ _ => heeds_liftExcept fun _ _ => trivial
    refine hfetch.bind fun guests _ => Heeds.request (Sends.of_aside nofun) fun _ => ?_
    cases guests vmid with
    | some guest => exact heeds_pure trivial
    | none => exact heeds_throw

/-- The guest a read is authorized for is the one it names. -/
private theorem heeds_authorize {vmid : UInt32} {grant : ProxmoxGrant}
    (hclient : client.name = call.handed.cluster) (hvmid : call.handed.vmid.isSome) :
    Heeds (call.Sends caller) (fun certificate => certificate.guest.vmid = vmid)
      (authorize client call.handed.cluster vmid grant .read) := by
  have hsends : Heeds (call.Sends caller) (fun _ => True)
      (authorize client call.handed.cluster vmid grant .read) := by
    refine Heeds.attempt (heeds_resolve hclient hvmid) fun outcome => ?_
    cases outcome with
    | ok guest => exact heeds_liftExcept fun _ _ => trivial
    | error error => cases error <;> exact heeds_throw
  rw [← hclient] at hsends ⊢
  have hauthorize (h : History Effect) := @ensures_authorize _ (fun _ _ _ => True) client vmid
    grant .read h trivial
  refine hsends.and_ensures hauthorize fun _ _ certificate _ hanswered => ?_
  obtain ⟨origin, hanswered⟩ := hanswered
  exact hanswered.guest_vmid

/-- What a guest adds to the parameters of a read. -/
def Adds (call : ReadCall) (caller : Option CallerCtx) (entry : ReadTool)
    (added : List (String × String)) : Prop :=
  match call.handed.vmid with
  | none => added = []
  | some vmid => ∃ (grant : ProxmoxGrant) (guest : ResolvedGuest),
    resolveGrant caller = .ok grant ∧ grant.allowsGuest guest.facts ∧ guest.vmid = vmid ∧
    guestParams entry guest = .ok added

/-- **A read addresses what its handler was asked for**, once its guest has been added. -/
theorem addressed_of_adds {entry : ReadTool} {added : List (String × String)}
    (hentry : readTool call.handed.name = some entry) (hadmits : call.Admits caller)
    (hadded : call.Adds caller entry added) :
    call.Addressed caller ⟨.get, entry.path, call.handed.params ++ added, entry.query, []⟩ := by
  obtain ⟨found, hfound, hfits⟩ := call.exists_fits
  obtain rfl : entry = found := Option.some.inj (hentry.symm.trans hfound)
  simp only [ReadTool.fits, Bool.and_eq_true, Bool.or_eq_true, decide_eq_true_eq] at hfits
  obtain ⟨⟨hperm, hnodup⟩, htyped⟩ := hfits
  have hnames : added.map Prod.fst =
      if call.handed.vmid.isSome then guestNames entry else [] := by
    unfold Adds at hadded
    split at hadded
    · next hvmid => simp [hvmid, hadded]
    · next vmid hvmid =>
      obtain ⟨_, guest, -, -, -, hparams⟩ := hadded
      simp [hvmid, names_of_guestParams hparams]
  have hfilled : ((call.handed.params ++ added).map Prod.fst).Perm (placeholders entry.path) := by
    rw [List.map_append, hnames]
    exact List.isPerm_iff.mp hperm
  refine ⟨⟨entry, hentry, rfl, rfl⟩, ⟨rfl, rfl⟩, hfilled, hfilled.nodup_iff.mpr hnodup,
    List.prefix_append _ _, fun hvmid => ?_, hadmits, fun vmid hvmid => ?_⟩
  · simp only [Adds, hvmid] at hadded
    simp [hadded]
  · simp only [Adds, hvmid] at hadded
    obtain ⟨grant, guest, hgrant, hscope, hnamed, hparams⟩ := hadded
    obtain ⟨hnode, hguest⟩ := mem_of_guestParams hparams
    have htyped : contains entry.path "{kind}" = true ∨ (kindNamedIn entry.path).isSome := by
      simpa [hvmid] using htyped
    refine ⟨grant, guest, hgrant, hscope, List.mem_append_right _ (hnamed ▸ hguest), hnamed,
      List.mem_append_right _ hnode, ?_⟩
    exact (kind_of_guestParams hparams htyped).imp (List.mem_append_right _) id

private theorem heeds_authorizeRead {entry : ReadTool}
    (hclient : client.name = call.handed.cluster) :
    Heeds (call.Sends caller) (call.Adds caller entry)
      (ProxmoxServer.authorizeRead entry client caller call.handed.cluster call.handed.vmid) := by
  unfold Adds
  cases hvmid : call.handed.vmid with
  | none => exact heeds_pure rfl
  | some vmid =>
    refine Heeds.liftExcept fun grant hgrant => ?_
    refine (heeds_mapError (heeds_authorize hclient (by simp [hvmid]))).bind
      fun certificate hcertificate => ?_
    refine heeds_liftExcept fun params hparams => ?_
    exact ⟨grant, certificate.guest, hgrant, certificate.inScope, hcertificate,
      eq_ok_of_mapError hparams⟩

/-- **What a handler sends.** -/
theorem heeds_serveReadCall :
    Heeds (call.Sends caller) (fun _ => True) (server.serveReadCall caller call) := by
  refine Heeds.liftExcept fun page _ => ?_
  obtain ⟨entry, hentry, -⟩ := call.exists_fits
  rw [hentry]
  refine Heeds.liftExcept fun _ _ => Heeds.liftExcept fun _ hadmits =>
    Heeds.liftExcept fun client hclient => ?_
  have hadmits : call.Admits caller := by
    intro hvmid hopen
    rw [if_pos (call.requiresUnrestrictedGuestScope_iff.mpr ⟨hvmid, hopen⟩)] at hadmits
    obtain ⟨grant, hgrant, hunrestricted⟩ := Fallible.bind_eq_ok_iff.mp hadmits
    refine ⟨grant, hgrant, ?_⟩
    split_ifs at hunrestricted with h
    exact h
  have hname : client.name = call.handed.cluster := name_of_clientFor hclient
  refine (heeds_authorizeRead hname).bind fun added hadded => ?_
  refine (heeds_mapError (heeds_send hname (.inl (addressed_of_adds hentry hadmits hadded)))).bind
    fun value _ => Heeds.liftExcept fun value _ => ?_
  cases page with
  | none => exact heeds_pure trivial
  | some page => exact heeds_liftExcept fun _ _ => trivial

private theorem heeds_serves {tool : Tool} (htool : call.Serves tool) :
    Heeds (call.Sends caller) (fun _ => True) (server.serve caller tool) := by
  rw [← htool.serveReadCall_eq]
  exact heeds_serveReadCall

/-! ### Runs -/

section Runs

variable {coordinator : Coordinator} {ttl : ℕ}

/-- A handler of a read sends what addresses its entry. -/
def readGuarantee (coordinator : Coordinator) (ttl : ℕ) (call : ReadCall)
    (caller : Option CallerCtx) : Guarantee (serverMachine coordinator ttl) where
  op served _ op := ∀ tool, call.Serves tool → served.call = .serve caller tool →
    call.Sends caller op
  result _ _ _ := True
  keeps served := by
    by_cases h : ∃ tool, call.Serves tool ∧ served.call = .serve caller tool
    · obtain ⟨server, _⟩ := served
      obtain ⟨tool, htool, rfl⟩ := h
      exact Always.mono (heeds_serves htool []) (fun _ _ hop _ _ _ => hop) fun _ _ _ => trivial
    · exact (always_true _ _).mono (fun _ _ _ tool htool hcall => absurd ⟨tool, htool, hcall⟩ h)
        fun _ _ _ => trivial

variable {pool : Pool (serverMachine coordinator ttl)}

/-- **Reads are addressed**: in any run, what a handler of the catalog sends is a request for its
entry, with a parameter for each placeholder of the path and no others, or the listing in which the
guest it names is looked up. A request for a guest names one that the caller may see, at its node
and under its own type; one that is for no single guest is sent for callers who may see all, the
open reads apart. -/
theorem addressed_of_event (h : Reachable (serverMachine coordinator ttl) pool) {id ticket : ℕ}
    {tool : Tool} {cluster : String} {request : ApiRequest} (htool : call.Serves tool)
    (hstart : .start id ⟨server, .serve caller tool⟩ ∈ pool.trace)
    (hevent : .event id ⟨.http (.dispatch cluster request), ticket⟩ ∈ pool.trace) :
    cluster = call.handed.cluster ∧
      (call.Addressed caller request ∨ call.handed.vmid.isSome ∧ request = listingRequest) := by
  obtain ⟨newer, older, htrace⟩ := List.append_of_mem hevent
  obtain ⟨served, hserved, hop⟩ :=
    h.performed (readGuarantee coordinator ttl call caller) htrace
  have hmem : Entry.start id served ∈ pool.trace := by
    rw [htrace]
    exact List.mem_append_right _ (.tail _ hserved)
  obtain rfl := h.start_unique hstart hmem
  exact hop tool htool rfl cluster request rfl

/-! ### The status of a guest -/

/-- The status of guest 100 is read. -/
def statusCall : ReadCall := .getGuestStatus "pve" 100

def statusTool : Tool := .read ⟨"get_guest_status",
  "/api2/json/nodes/{node}/{kind}/{vmid}/status/current", [], none, false⟩ (statusCall.args none)

/-- A caller who may read. -/
def readingCaller : CallerCtx := { destructiveCaller with grant := some ⟨["*"], [.read]⟩ }

def currentRequest : ApiRequest where
  method := .get
  pathTemplate := "/api2/json/nodes/{node}/{kind}/{vmid}/status/current"
  params := [("node", onlyGuest.node), ("vmid", "100"), ("kind", "qemu")]
  query := []
  form := []

omit [Externals] in
private theorem serves_statusTool : statusCall.Serves statusTool := ⟨_, none, rfl, rfl, rfl⟩

omit [Externals] in
/-- The guest is looked up, and its status is asked for. -/
private theorem statusTool_reaches (time : ℕ) : ∃ next, Reaches
    (@Served.body Externals.plain ⟨oneClusterServer, .serve (some readingCaller) statusTool⟩)
    (storedOwner 0 time) (.perform (.http (.dispatch "pve" currentRequest)) next) := by
  apply Exists.intro
  iterate 5 refine Reaches.step _ _ _ ?_
  exact Reaches.refl _

omit [Externals] in
/-- The request for the status of guest 100, in a run of its own, is for that guest. -/
theorem addressed_currentRequest :
    @Addressed Externals.plain statusCall (some readingCaller) currentRequest := by
  let _ : Externals := Externals.plain
  have hempty : Reachable keptMachine keptPool := .initial ⟨rfl, trivial⟩
  obtain ⟨next, hreaches⟩ := statusTool_reaches 3
  have hperforms : keptMachine.Performs keptPool.world 1 [] (storedOwner 0 3 ++
      [⟨.http (.dispatch "pve" currentRequest), (6 : ℕ)⟩]) cachedWorld :=
    .cons (.lookupFresh rfl) <| .cons (.loadGeneration rfl) <| .cons (.dispatch _ _) <|
      .cons (.await _ _) <| .cons (.storeIfCurrent rfl) <| .cons (.dispatch _ _) .nil
  obtain ⟨pool, hpool, -, htrace⟩ := @Reachable.call _ _ _ hempty 0
    ⟨oneClusterServer, .serve (some readingCaller) statusTool⟩ _ _ _ _ _
    (fun _ => List.not_mem_nil) hreaches hperforms
  have hstart : .start 0 ⟨oneClusterServer, .serve (some readingCaller) statusTool⟩ ∈
      pool.trace := by
    simp [htrace]
  have hevent : .event 0 ⟨.http (.dispatch "pve" currentRequest), (6 : ℕ)⟩ ∈ pool.trace := by
    simp [htrace]
  have hsent := addressed_of_event hpool serves_statusTool hstart hevent
  exact hsent.2.resolve_right fun hlisting => absurd hlisting.2 (by decide)

end Runs

end ReadCall

end ProxmoxMcp
