import ProxmoxMcp.Server.Calls

/-!
# The protection gate

A request that destroys a guest or its data, or takes a guest out of service, passes a **gate**:
when the listing that authorized the call shows the guest as protected, a waiver covers this
operation for this caller, or lab mode is on. Which tools these are, and which operation a waiver
has to name, is said here once (`Tool.Disrupts`); `gated` is about all of them.
-/

namespace ProxmoxMcp

open Interaction Program

/-- The guest a call destroys or takes out of service, if it does. -/
def Tool.disruptedGuest : Tool → Option GuestArgs
  | .lifecycle tool args => if tool.verb = .start then none else some args
  | .createBackup args =>
    if args.mode = "suspend" ∨ args.mode = "stop" then some ⟨args.cluster, args.vmid⟩ else none
  | .updateContainerResources args => some ⟨args.cluster, args.vmid⟩
  | .stopTask args => (taskGuest args.upid).map fun vmid => ⟨args.cluster, vmid⟩
  | .applyChangeSet args => some ⟨args.cluster, args.vmid⟩
  | _ => none

variable [Externals]

/-- The request of a disrupting tool, for the guest as the call sees it, and the operation a waiver
for it has to name. -/
inductive Tool.Disrupts (guest : ResolvedGuest) (request : ApiRequest) (h : History Effect) :
    Tool → String → Prop
  | lifecycle {tool : LifecycleTool} {args : GuestArgs} (request_eq : request =
      Guests.lifecycleRequest guest.node guest.type guest.vmid tool.verb) :
      Disrupts guest request h (.lifecycle tool args) tool.name
  | createBackup {args : ProxmoxServer.BackupArgs} (request_eq : request =
      Guests.createBackupRequest guest.node guest.vmid args.storage args.mode args.compress) :
      Disrupts guest request h (.createBackup args) "create_backup"
  | updateContainerResources {args : ProxmoxServer.ResourceArgs} (request_eq : request =
      Guests.updateContainerResourcesRequest guest.node guest.vmid
        (Guests.resourceForm args.cores args.memoryMb args.swapMb)) :
      Disrupts guest request h (.updateContainerResources args) "update_container_resources"
  | stopTask {args : ProxmoxServer.StopTaskArgs} :
      Disrupts guest request h (.stopTask args) "stop_task"
  | applyChangeSet {args : ChangeSetArgs} {record : ChangeSet} {action : DestroyAction}
      (read : RecordRead args.changeSetId args.device record h)
      (stored : record.actions.head?.bind DestroyAction.fromJson = some action)
      (request_eq : DestructiveRequest args.cluster action guest.type guest.node guest.vmid h
        request) :
      Disrupts guest request h (.applyChangeSet args) action.op

/-- A request was let through the gate: the guest is the one the listing that authorized the call
shows, and if that one is protected, an unexpired waiver covers the operation for the caller, or lab
mode is on. -/
def LetThrough (server : ProxmoxServer) (caller : Option CallerCtx) (tool : Tool) (args : GuestArgs)
    (request : ApiRequest) (h : History Effect) : Prop :=
  ∃ client guest operation, server.clientNamed args.cluster = some client ∧
    lastSeen args.cluster args.vmid h = some guest ∧ guest.vmid = args.vmid ∧
    tool.Disrupts guest request h operation ∧
    ((protectionOf client.cluster (some guest) false).isProtected →
      Overridden server args.cluster args.vmid operation (principalOf caller) h)

/-- Every request of a call that destroys or interrupts a guest is let through the gate, in every
run of the call. -/
def Gated (server : ProxmoxServer) (caller : Option CallerCtx) (tool : Tool) : Prop :=
  Always (fun h (op : Op) => ∀ client request args, op = .http (.dispatch client request) →
      request.Mutating → tool.disruptedGuest = some args →
      client = args.cluster ∧ LetThrough server caller tool args request h)
    (fun _ _ => True) [] (server.serve caller tool).run

section Rules

variable {server : ProxmoxServer} {caller : Option CallerCtx} {tool : Tool} {args : GuestArgs}
  {request : ApiRequest} {h : History Effect}

/-- What a guest authorization lets through. -/
private theorem letThrough_of_authorized {fresh held : Prop} {authorization : Authorization}
    {operation : String} (hclient : server.clientNamed args.cluster = some authorization.client)
    (hauthorized : Authorized fresh held server operation (principalOf caller) args.vmid
      authorization h) (hheld : held)
    (hdisrupts : authorization.guest.vmid = args.vmid →
      tool.Disrupts authorization.guest request h operation) :
    LetThrough server caller tool args request h := by
  have hname := ProxmoxServer.name_of_clientNamed hclient
  have hvmid := hauthorized.admitted.guest_vmid
  refine ⟨authorization.client, authorization.guest, operation, hclient, ?_, hvmid, hdisrupts hvmid,
    fun hprotected => ?_⟩
  · rw [← hname]
    exact hauthorized.seen
  · rw [← hname]
    exact hauthorized.admitted.overridden hheld hprotected

private theorem letThrough_of_lowAuthorized {interrupts : Bool} {authorization : Authorization}
    {operation : String}
    (hlow : server.LowAuthorized interrupts caller operation args authorization h)
    (hinterrupts : interrupts = true)
    (hdisrupts : tool.Disrupts authorization.guest request h operation) :
    LetThrough server caller tool args request h :=
  letThrough_of_authorized hlow.client hlow.authorized hinterrupts fun _ => hdisrupts

/-- The policy of a disrupting tool is the gate. -/
private theorem letThrough_of_sends {client : String} (htarget : tool.disruptedGuest = some args)
    (hsends : (tool.policy server caller).sends h client request) :
    client = args.cluster ∧ LetThrough server caller tool args request h := by
  -- the guest a tool disrupts is the one its policy was asked about
  cases tool with
  | lifecycle tool args' =>
    simp only [Tool.disruptedGuest, Option.ite_none_left_eq_some, Option.some.injEq] at htarget
    obtain ⟨hverb, rfl⟩ := htarget
    obtain ⟨rfl, authorization, hlow, hrequest⟩ := hsends
    exact ⟨rfl, letThrough_of_lowAuthorized hlow (tool.interruptsService_name.mpr hverb)
      (.lifecycle hrequest)⟩
  | createBackup args' =>
    simp only [Tool.disruptedGuest, Option.ite_none_right_eq_some, Option.some.injEq] at htarget
    obtain ⟨hmode, rfl⟩ := htarget
    obtain ⟨rfl, authorization, hlow, hrequest⟩ := hsends
    refine ⟨rfl, letThrough_of_lowAuthorized hlow ?_ (.createBackup hrequest)⟩
    rcases hmode with hmode | hmode <;> rw [hmode] <;> decide
  | updateContainerResources args' =>
    obtain rfl := Option.some.inj htarget
    obtain ⟨rfl, authorization, hlow, hrequest⟩ := hsends
    exact ⟨rfl, letThrough_of_lowAuthorized hlow rfl (.updateContainerResources hrequest)⟩
  | stopTask args' =>
    obtain ⟨vmid, hvmid, rfl⟩ := Option.map_eq_some_iff.mp htarget
    obtain ⟨rfl, hguest⟩ := hsends
    obtain ⟨authorization, hlow⟩ := hguest vmid hvmid
    exact ⟨rfl, letThrough_of_lowAuthorized hlow rfl .stopTask⟩
  | applyChangeSet args' =>
    obtain rfl := Option.some.inj htarget
    obtain ⟨rfl, record, claimed, hready, action, authorization, hdestroy, hrequest⟩ := hsends
    obtain ⟨operation, hoperation, hauthorized⟩ := hdestroy.authorized
    obtain rfl := op_of_recordedOp hdestroy.stored hoperation
    exact ⟨rfl, letThrough_of_authorized hdestroy.client hauthorized trivial fun hvmid =>
      .applyChangeSet hready.reviewed.1 hdestroy.stored (hvmid ▸ hrequest)⟩
  | _ => simp [Tool.disruptedGuest] at htarget

/-- **The protection gate**: no tool call destroys or interrupts a protected guest without an
override. -/
theorem gated (server : ProxmoxServer) (caller : Option CallerCtx) (tool : Tool) :
    Gated server caller tool := by
  refine Always.mono (ensures_serve tool) (fun h op hop => ?_) fun _ _ _ => trivial
  rintro client request args rfl hmutating htarget
  exact letThrough_of_sends htarget (Policy.Permits.sends hop hmutating)

end Rules

end ProxmoxMcp
