import ProxmoxMcp.Server.LowTier

/-!
# Reads

Every read is one GET whose path, query and filters come from a catalog. A read that names a guest
is authorized for it first; a listing is filtered by the caller's guest scope; free text that an
operator may have put a credential into is redacted on the way out, and a long listing is cut into
**pages**.
-/

namespace ProxmoxMcp

open Interaction Program Text

variable [Externals]

/-! ### What leaves the server -/

/-- Keys whose value is free text. -/
def freeTextKeys : List String :=
  ["description", "comment", "comments", "notes", "cicustom", "args"]

mutual

/-- Redact the free text anywhere in a value. -/
def redactFreeTextFields : Json → Json
  | .object members => .object (redactMembers members)
  | .array items => .array (redactItems items)
  | value => value

def redactMembers : List (String × Json) → List (String × Json)
  | [] => []
  | (key, .string text) :: rest =>
    (key, .string (if freeTextKeys.contains key then Externals.redactText text else text)) ::
      redactMembers rest
  | (key, value) :: rest => (key, redactFreeTextFields value) :: redactMembers rest

def redactItems : List Json → List Json
  | [] => []
  | item :: rest => redactFreeTextFields item :: redactItems rest

end

/-- Keep the entries of a listing that satisfy a condition; anything but a listing stays. -/
def retain (keep : Json → Bool) : Json → Json
  | .array items => .array (items.filter keep)
  | value => value

/-- The facts about the guest of a listing entry. -/
def parseResourceGuest (entry : Json) : Option GuestFacts :=
  (parseGuest "" entry).map ResolvedGuest.facts

/-! ### Pages -/

def defaultPageLimit : UInt32 := 500

def maxPageLimit : UInt32 := 700

/-- The page a caller asks for, as an offset and a limit. -/
def resolvePage (offset limit : Option UInt32) : Except String (UInt32 × UInt32) := do
  let limit := limit.getD defaultPageLimit
  if limit = 0 then
    throw "limit must be at least 1"
  if limit > maxPageLimit then
    throw s!"limit {limit} exceeds the maximum of {maxPageLimit}; request a smaller page"
  return (offset.getD 0, limit)

/-- Sort a listing by the key that makes its pages stable. -/
def sortForPaging (items : List Json) : List Json :=
  match items with
  | [] => []
  | first :: _ =>
    if (first.get "vmid").isSome then
      let key (item : Json) : UInt64 := (item.getU64 "vmid").getD (UInt64.ofNat (2 ^ 64 - 1))
      items.mergeSort fun a b => key a ≤ key b
    else if (first.get "volid").isSome then
      let key (item : Json) : String := (item.getStr "volid").getD ""
      items.mergeSort fun a b => key a ≤ key b
    else items

/-- One page of a listing. -/
def paginate (value : Json) (offset limit : UInt32) : Except String Json :=
  match value.asArray with
  | none => .error "upstream response is not a list; cannot paginate"
  | some items =>
    let sorted := sortForPaging items
    let total := sorted.length
    let start := min offset.toNat total
    let last := min (start + limit.toNat) total
    .ok <| .object [("items", .array ((sorted.take last).drop start)),
      ("total", .unsigned (UInt64.ofNat total)), ("offset", .unsigned offset.toUInt64),
      ("limit", .unsigned limit.toUInt64), ("has_more", .bool (last < total))]

/-! ### Serving a read -/

/-- One entry of the catalog of reads. -/
structure ReadTool where
  name : String
  path : String
  query : List (String × String)
  /-- Only guests of this type are listed. -/
  typeFilter : Option GuestType
  /-- Whether the answer lists guests, to be filtered by the caller's scope. -/
  guestListing : Bool

/-- The guest type a path names, when it names one. -/
def kindNamedIn (path : String) : Option String :=
  if contains path "/qemu/" then some "qemu" else if contains path "/lxc/" then some "lxc" else none

/-- The parameters a guest adds to a path: its node, its vmid, and its type if the path asks. -/
def guestParams (tool : ReadTool) (guest : ResolvedGuest) :
    Except String (List (String × String)) :=
  let params := [("node", guest.node), ("vmid", toString guest.vmid)]
  if contains tool.path "{kind}" then .ok (params ++ [("kind", guest.type.pathSegment)])
  else match kindNamedIn tool.path with
    | some kind =>
      if kind = guest.type.pathSegment then .ok params
      else .error (s!"vmid {guest.vmid} is a {guest.type.pathSegment} guest; {tool.name} reads " ++
        s!"{kind} guests only")
    | none => .ok params

/-- What a read lets out of an answer. -/
def filterAnswer (tool : ReadTool) (caller : Option CallerCtx) (value : Json) :
    Except ToolResult Json := do
  let value := match tool.typeFilter with
    | some kind => retain (fun item => item.getStr "type" == some kind.pathSegment) value
    | none => value
  if tool.guestListing then
    let grant ← resolveGrant caller
    if grant.isUnrestrictedGuestScope then return redactFreeTextFields value
    else return redactFreeTextFields (retain (fun item => match parseResourceGuest item with
      | some facts => grant.allowsGuest facts
      | none => false) value)
  else return redactFreeTextFields value

namespace ProxmoxServer

variable (server : ProxmoxServer)

/-- The parameters of the guest a read names, once the caller is authorized for it. -/
def authorizeRead (tool : ReadTool) (client : ProxmoxClient) (caller : Option CallerCtx)
    (cluster : String) (vmid : Option UInt32) : ToolM (List (String × String)) :=
  match vmid with
  | none => return []
  | some vmid => do
    let grant ← liftM (resolveGrant caller)
    let certificate ← viaClient (authorize client cluster vmid grant .read)
    orRefuse (guestParams tool certificate.guest)

/-- Execute one read of the catalog. -/
def serveRead (tool : ReadTool) (caller : Option CallerCtx) (cluster : String)
    (extraParams : List (String × String)) (vmid : Option UInt32)
    (requiresUnrestrictedGuestScope : Bool) (page : Option (UInt32 × UInt32)) : ToolM Json := do
  liftM (authorizeCall caller tool.name cluster)
  liftM (if requiresUnrestrictedGuestScope then do
      let grant ← resolveGrant caller
      if grant.isUnrestrictedGuestScope then .ok ()
      else .error (toolError (s!"{tool.name} is not scoped to any single guest -- it lists data " ++
        "shared across every guest on a storage or a node -- so it requires a caller whose " ++
        "guest scope is '*'. This caller is narrowed to specific guests and cannot be checked " ++
        "against it."))
    else .ok () : Except ToolResult Unit)
  let client ← liftM (server.clientFor cluster)
  let guestParams ← authorizeRead tool client caller cluster vmid
  let value ← viaClient (client.getJson tool.path (extraParams ++ guestParams) tool.query)
  let value ← liftM (filterAnswer tool caller value)
  match page with
  | none => return value
  | some (offset, limit) => orRefuse (paginate value offset limit)

/-- The interfaces and addresses of one container. -/
def getContainerIp (tool : ReadTool) (caller : Option CallerCtx) (args : GuestArgs) :
    ToolM Json := do
  liftM (authorizeCall caller "get_container_ip" args.cluster)
  let client ← liftM (server.clientFor args.cluster)
  let grant ← liftM (resolveGrant caller)
  let certificate ← viaClient (authorize client args.cluster args.vmid grant .read)
  let guest := certificate.guest
  refuseUnless (guest.type == .lxc)
    s!"get_container_ip requires an LXC guest, but {args.vmid} is a QEMU VM"
  viaClient (client.getJson tool.path [("node", guest.node), ("vmid", toString guest.vmid)]
    tool.query)

/-! ### What reads keep to -/

/-- The policy of a read: it may look guests up, and it changes nothing. -/
def readPolicy : Policy where
  lookups _ _ _ := True
  sends _ _ _ := False
  records _ _ := False

private theorem readPolicy_allows (h : History Effect) (op : Op)
    (hop : Quiet (fun _ _ _ => True) h op) :
    readPolicy.Allows h op :=
  Policy.allows_of_quiet hop trivial fun _ _ _ => trivial

variable {server} {h : History Effect}

private theorem ensures_getJson {policy : Policy} (client : ProxmoxClient) (path : String)
    (params query : List (String × String)) (hreads : policy.reads h) :
    Ensures policy.Allows (fun _ _ => True) h (viaClient (client.getJson path params query)) :=
  ensures_mapError.mpr (ensures_send (Policy.permits_of_reads (not_not.mpr rfl) hreads))

private theorem ensures_authorizeRead (tool : ReadTool) (client : ProxmoxClient)
    (caller : Option CallerCtx) (vmid : Option UInt32) :
    Ensures readPolicy.Allows (fun _ _ => True) h
      (authorizeRead tool client caller client.name vmid) := by
  cases vmid with
  | none => exact ensures_pure.mpr trivial
  | some vmid =>
    refine Ensures.liftExcept fun grant _ => ?_
    refine Ensures.bind (ensures_mapError.mpr (ensures_authorize client vmid grant .read trivial))
      readPolicy_allows fun h' certificate _ _ => ensures_liftExcept.mpr fun _ _ => trivial

/-- A read changes nothing. -/
theorem ensures_serveRead (tool : ReadTool) (caller : Option CallerCtx) (cluster : String)
    (extraParams : List (String × String)) (vmid : Option UInt32) (restricted : Bool)
    (page : Option (UInt32 × UInt32)) :
    Ensures readPolicy.Allows (fun _ _ => True) h
      (server.serveRead tool caller cluster extraParams vmid restricted page) := by
  refine Ensures.liftExcept fun _ _ => Ensures.liftExcept fun _ _ =>
    Ensures.liftExcept fun client hclient => ?_
  obtain rfl := name_of_clientFor hclient
  refine Ensures.bind (ensures_authorizeRead tool client caller vmid) (fun _ _ hop => hop)
    fun h₁ _ _ _ => ?_
  refine Ensures.bind (ensures_getJson client _ _ _ trivial) (fun _ _ hop => hop) fun h₂ _ _ _ =>
    Ensures.liftExcept fun value _ => ?_
  cases page with
  | none => exact ensures_pure.mpr trivial
  | some page => exact ensures_liftExcept.mpr fun _ _ => trivial

theorem ensures_getContainerIp (tool : ReadTool) (caller : Option CallerCtx) (args : GuestArgs) :
    Ensures readPolicy.Allows (fun _ _ => True) h (server.getContainerIp tool caller args) := by
  refine Ensures.liftExcept fun _ _ => Ensures.liftExcept fun client hclient =>
    Ensures.liftExcept fun grant _ => ?_
  obtain ⟨cluster, vmid⟩ := args
  obtain rfl : client.name = cluster := name_of_clientFor hclient
  refine Ensures.bind (ensures_mapError.mpr (ensures_authorize client vmid grant .read trivial))
    readPolicy_allows fun h₁ certificate _ _ => Ensures.ensure fun _ =>
    ensures_getJson client _ _ _ trivial

end ProxmoxServer

end ProxmoxMcp
