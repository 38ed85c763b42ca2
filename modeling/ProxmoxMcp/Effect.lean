import ProxmoxMcp.Core.Error
import ProxmoxMcp.Core.Json
import ProxmoxMcp.Core.Protect
import ProxmoxMcp.Interaction.Program

/-!
# The operations of the server

The signature `Effect` lists everything the server's code does that is not computation: the atomic
steps it takes on the **guest index** its calls share, the **HTTP** requests it sends to a cluster,
the calls to the **change-set coordinator** and the **evidence** recorder, and the clock.

A request is two operations. `dispatch` puts it on the wire and answers with a ticket, the time at
which it was sent; `await` answers with what came back. Between the two, other calls run.

What belongs to third-party packages and is a function of its arguments (path expansion, hashing,
redaction, token scopes) is collected in `Externals`.
-/

namespace ProxmoxMcp

open Interaction

/-! ### Requests -/

/-- The HTTP methods the client uses. -/
inductive Method where
  | get
  | post
  | put
  | delete
  deriving DecidableEq, Repr

/-- A request to a cluster: a path template with its parameters, a query and a form. -/
structure ApiRequest where
  method : Method
  pathTemplate : String
  params : List (String × String)
  query : List (String × String)
  form : List (String × String)
  deriving DecidableEq

/-- Whether a request can change the cluster. -/
def ApiRequest.Mutating (request : ApiRequest) : Prop := request.method ≠ .get

instance (request : ApiRequest) : Decidable request.Mutating :=
  inferInstanceAs (Decidable (_ ≠ _))

/-- An answer of a cluster: its status, its body, and the body read as JSON. -/
structure HttpResponse where
  status : UInt16
  text : String
  json : Except String Json

/-! ### Change sets -/

/-- The states of a change set; `other` stands for those the server never names. -/
inductive ChangeSetState where
  | planned
  | approved
  | applying
  | applied
  | failed
  | other (name : String)
  deriving DecidableEq, Repr

/-- The text an approver reviews, with its digest. -/
structure PreviewRecord where
  digest : String
  artifact : String
  deriving DecidableEq

/-- A change set as the coordinator stores it. -/
structure ChangeSet where
  id : String
  device : String
  actions : List Json
  owner : String
  expectedCandidateFingerprint : String
  policySignature : String
  digest : String
  state : ChangeSetState
  preview : Option PreviewRecord
  taskId : Option String

/-- What the coordinator answers to a plan, an approval or a waiver. -/
structure ChangeSetOutput where
  changeSetId : String
  state : ChangeSetState
  digest : String

/-- Who a principal is. -/
inductive ActorType where
  | human
  | agent
  | unknown
  deriving DecidableEq, Repr

/-! ### Callers -/

/-- A set of names a token may use. -/
inductive ScopeSet where
  | wildcard
  | allowlist (names : List String)
  deriving DecidableEq

/-- The authenticated caller of a request. -/
structure CallerCtx where
  tokenName : String
  requestId : String
  actorType : ActorType
  tools : ScopeSet
  devices : ScopeSet
  grant : Option ProxmoxGrant
  deriving DecidableEq

/-- Why a caller may not use a tool on a cluster. -/
inductive AuthorizationError where
  | toolNotInScope (tool : String)
  | targetNotInScope (tool : String)
  deriving DecidableEq

/-! ### Third-party functions -/

/-- The functions of third-party packages that the server calls. -/
class Externals where
  /-- `mecmcp_openapi::expand_path`: fill a template's parameters, or say why they cannot be. -/
  expandPath : String → List (String × String) → Except String String
  /-- `HttpRequest::from_absolute_url` and the headers put on the request. -/
  absoluteUrl : Method → String → Except HttpError Unit
  /-- `mecmcp_redact::redact_text`. -/
  redactText : String → String
  /-- `mecmcp_redact::redact_json_value`. -/
  redactJson : Json → Json
  /-- `serde_json::to_string`. -/
  encodeJson : Json → String
  /-- The text of the error with which a JSON value cannot be read as the named type. -/
  deserializeError : String → Json → String
  /-- SHA-256, in lowercase hexadecimal. -/
  sha256Hex : String → String
  /-- `mecmcp_changeset::preview_digest`. -/
  previewDigest : String → String
  /-- A decimal number of units, in bytes: the floating-point part of reading a disk size. -/
  decimalBytes : String → UInt64 → Option UInt64
  /-- `mecmcp_auth::authorize_call`: whether the token's scopes admit a tool on a cluster. -/
  authorizeCall : Option CallerCtx → String → Option String → List String →
    Except AuthorizationError Unit
  /-- The full text of an authorization error. -/
  authorizationText : AuthorizationError → String

/-- Stand-ins that answer as the packages do on plain input: nothing to redact, no structural byte
in a path. -/
@[reducible] def Externals.plain : Externals where
  expandPath template params := .ok <| params.foldl
    (fun path param => path.replace s!"\x7b{param.1}\x7d" param.2) template
  absoluteUrl _ _ := .ok ()
  redactText := id
  redactJson := id
  encodeJson _ := ""
  deserializeError _ _ := "invalid value"
  sha256Hex := id
  previewDigest := id
  decimalBytes _ _ := none
  authorizeCall _ _ _ _ := .ok ()
  authorizationText _ := ""

/-! ### The signature -/

/-- The guests of one cluster, each under its own vmid. -/
structure GuestMap where
  find : UInt32 → Option ResolvedGuest
  vmid_of_find : ∀ {vmid guest}, find vmid = some guest → guest.vmid = vmid

instance : CoeFun GuestMap fun _ => UInt32 → Option ResolvedGuest := ⟨GuestMap.find⟩

namespace GuestMap

/-- No guests. -/
def empty : GuestMap := ⟨fun _ => none, by simp⟩

/-- Put a guest in, in place of one with its vmid. -/
def insert (guests : GuestMap) (guest : ResolvedGuest) : GuestMap where
  find vmid := if vmid = guest.vmid then some guest else guests vmid
  vmid_of_find {vmid found} h := by
    split at h
    · next hvmid => exact (Option.some.inj h) ▸ hvmid.symm
    · exact guests.vmid_of_find h

end GuestMap

/-- Where a cached listing comes from: which client fetched it, and when the request was sent. -/
structure Origin where
  client : String
  began : ℕ
  deriving DecidableEq

/-- A guest read from the cache. The program uses only the guest; the origin records which
listing answered. -/
structure CacheHit (vmid : UInt32) where
  guest : ResolvedGuest
  origin : Origin
  guest_vmid : guest.vmid = vmid

/-- The atomic steps on the guest index. -/
inductive IndexOp where
  /-- Read one guest out of a snapshot that has not expired. -/
  | lookupFresh (cluster : String) (vmid : UInt32)
  /-- Read the generation. -/
  | loadGeneration
  /-- Store a snapshot if the generation is still the given one, under the write lock. -/
  | storeIfCurrent (cluster : String) (generation : UInt64) (guests : GuestMap)
  /-- Advance the generation. -/
  | bumpGeneration
  /-- Drop every snapshot. -/
  | clearSnapshots
  /-- Drop the snapshot of one cluster. -/
  | removeSnapshot (cluster : String)

/-- What the index answers. -/
def IndexOp.Reply : IndexOp → Type
  | lookupFresh _ vmid => Option (CacheHit vmid)
  | loadGeneration => UInt64
  | storeIfCurrent _ _ _ | bumpGeneration | clearSnapshots | removeSnapshot _ => Unit

/-- The two halves of a request. -/
inductive HttpOp where
  /-- Send a request with one cluster's client. -/
  | dispatch (client : String) (request : ApiRequest)
  /-- Wait for the answer to the request with this ticket. -/
  | await (ticket : ℕ)

/-- What the HTTP layer answers. -/
def HttpOp.Reply : HttpOp → Type
  | dispatch _ _ => ℕ
  | await _ => Except HttpError HttpResponse

/-- The calls to the change-set coordinator. -/
inductive CoordinatorOp where
  | changeSet (id device : String)
  | changeSets
  | createChangeSet (device : String) (actions : List Json) (owner fingerprint policy : String)
  | updateChangeSet (record : ChangeSet)
  | approveChangeSet (id device approver digest : String) (actor : ActorType)
  | waiveApproval (id device owner digest : String)
  /-- Claim an approved record for apply, without a task handle. -/
  | claimChangeSetForApply (id device : String)

/-- What the coordinator answers. -/
def CoordinatorOp.Reply : CoordinatorOp → Type
  | changeSet _ _ | claimChangeSetForApply _ _ => Except String ChangeSet
  | changeSets => List ChangeSet
  | updateChangeSet _ => Except String Unit
  | createChangeSet _ _ _ _ _ | approveChangeSet _ _ _ _ _ | waiveApproval _ _ _ _ =>
    Except String ChangeSetOutput

/-- The records written to the evidence chain. -/
inductive EvidenceOp where
  | applyIntent (requestId changeSet device principal : String)
  | resultReceipt (requestId changeSet device principal : String) (succeeded : Bool)
    (error : String)

/-- What the polling library decides after an attempt that found the task running. -/
inductive PollDecision where
  | again
  | deadlineExceeded
  | cancelled
  deriving DecidableEq, Repr

/-- Everything the server does that is not computation. -/
inductive Op where
  | index (op : IndexOp)
  | http (op : HttpOp)
  | coordinator (op : CoordinatorOp)
  | evidence (op : EvidenceOp)
  /-- The wall clock, in seconds since 1970. -/
  | unixNow
  /-- Wait before the next status request. -/
  | pollWait (attempts : ℕ)
  /-- Read the cluster inventory from its file again. -/
  | reloadInventory

/-- What the environment answers. -/
def Op.Reply : Op → Type
  | index op => op.Reply
  | http op => op.Reply
  | coordinator op => op.Reply
  | evidence _ => Except String Unit
  | unixNow => UInt64
  | pollWait _ => PollDecision
  | reloadInventory => Except String (List (String × Cluster))

/-- The signature of the server's programs. -/
@[reducible] def Effect : Signature := ⟨Op, Op.Reply⟩

/-- There is an answer to every operation. -/
theorem Effect.nonempty_reply (op : Op) : Nonempty (Effect.Reply op) := by
  have failed {α : Type} : Nonempty (Except String α) := ⟨.error "unavailable"⟩
  cases op with
  | index op =>
    cases op with
    | lookupFresh cluster vmid => exact ⟨(none : Option (CacheHit vmid))⟩
    | loadGeneration => exact ⟨(0 : UInt64)⟩
    | _ => exact ⟨()⟩
  | http op =>
    cases op with
    | dispatch client request => exact ⟨(0 : ℕ)⟩
    | await ticket => exact ⟨(.error ⟨"unavailable"⟩ : Except HttpError HttpResponse)⟩
  | coordinator op =>
    cases op with
    | changeSets => exact ⟨([] : List ChangeSet)⟩
    | _ => exact failed
  | evidence op => exact failed
  | unixNow => exact ⟨(0 : UInt64)⟩
  | pollWait attempts => exact ⟨PollDecision.again⟩
  | reloadInventory => exact failed

/-! ### Performing an operation -/

section Perform

variable {ε : Type}

def lookupFresh (cluster : String) (vmid : UInt32) :
    ExceptT ε (Program Effect) (Option (CacheHit vmid)) :=
  Program.request (S := Effect) (.index (.lookupFresh cluster vmid))

def loadGeneration : ExceptT ε (Program Effect) UInt64 :=
  Program.request (S := Effect) (.index .loadGeneration)

def storeIfCurrent (cluster : String) (generation : UInt64) (guests : GuestMap) :
    ExceptT ε (Program Effect) Unit :=
  Program.request (S := Effect) (.index (.storeIfCurrent cluster generation guests))

def bumpGeneration : ExceptT ε (Program Effect) Unit :=
  Program.request (S := Effect) (.index .bumpGeneration)

def clearSnapshots : ExceptT ε (Program Effect) Unit :=
  Program.request (S := Effect) (.index .clearSnapshots)

def removeSnapshot (cluster : String) : ExceptT ε (Program Effect) Unit :=
  Program.request (S := Effect) (.index (.removeSnapshot cluster))

def dispatch (client : String) (request : ApiRequest) : ExceptT ε (Program Effect) ℕ :=
  Program.request (S := Effect) (.http (.dispatch client request))

def await (ticket : ℕ) : ExceptT ε (Program Effect) (Except HttpError HttpResponse) :=
  Program.request (S := Effect) (.http (.await ticket))

def changeSet (id device : String) : ExceptT ε (Program Effect) (Except String ChangeSet) :=
  Program.request (S := Effect) (.coordinator (.changeSet id device))

def changeSets : ExceptT ε (Program Effect) (List ChangeSet) :=
  Program.request (S := Effect) (.coordinator .changeSets)

def createChangeSet (device : String) (actions : List Json) (owner fingerprint policy : String) :
    ExceptT ε (Program Effect) (Except String ChangeSetOutput) :=
  Program.request (S := Effect)
    (.coordinator (.createChangeSet device actions owner fingerprint policy))

def updateChangeSet (record : ChangeSet) : ExceptT ε (Program Effect) (Except String Unit) :=
  Program.request (S := Effect) (.coordinator (.updateChangeSet record))

def approveChangeSetWith (id device approver digest : String) (actor : ActorType) :
    ExceptT ε (Program Effect) (Except String ChangeSetOutput) :=
  Program.request (S := Effect) (.coordinator (.approveChangeSet id device approver digest actor))

def waiveApproval (id device owner digest : String) :
    ExceptT ε (Program Effect) (Except String ChangeSetOutput) :=
  Program.request (S := Effect) (.coordinator (.waiveApproval id device owner digest))

def claimChangeSetForApply (id device : String) :
    ExceptT ε (Program Effect) (Except String ChangeSet) :=
  Program.request (S := Effect) (.coordinator (.claimChangeSetForApply id device))

def applyIntent (requestId id device principal : String) :
    ExceptT ε (Program Effect) (Except String Unit) :=
  Program.request (S := Effect) (.evidence (.applyIntent requestId id device principal))

def resultReceipt (requestId id device principal : String) (succeeded : Bool) (error : String) :
    ExceptT ε (Program Effect) (Except String Unit) :=
  Program.request (S := Effect)
    (.evidence (.resultReceipt requestId id device principal succeeded error))

def unixNow : ExceptT ε (Program Effect) UInt64 := Program.request (S := Effect) .unixNow

def pollWait (attempts : ℕ) : ExceptT ε (Program Effect) PollDecision :=
  Program.request (S := Effect) (.pollWait attempts)

def reloadInventory : ExceptT ε (Program Effect) (Except String (List (String × Cluster))) :=
  Program.request (S := Effect) .reloadInventory

end Perform

/-- Code that may fail with a client error. -/
abbrev ClientM := ExceptT ProxmoxError (Program Effect)

/-- A request that can change a cluster is put on the wire. -/
def Op.Mutates : Op → Prop
  | http (.dispatch _ request) => request.Mutating
  | _ => False

instance (op : Op) : Decidable op.Mutates :=
  match op with
  | .http (.dispatch _ request) => inferInstanceAs (Decidable request.Mutating)
  | .http (.await _) | .index _ | .coordinator _ | .evidence _ | .unixNow | .pollWait _
  | .reloadInventory => inferInstanceAs (Decidable False)

end ProxmoxMcp
