import ProxmoxMcp.Server.CreateKeys
import ProxmoxMcp.Server.Freshness
import ProxmoxMcp.Server.Listings

/-!
# The number of a new guest

A creation, a restore into a new vmid and a clone each give a number to a guest that is not there
yet. The grant and the pins are asked about the bare number (`NumberAdmitted`), and the first two
make sure that nobody has it: they drop the cached listing, look the number up, and go on only when
the lookup says that it is **absent**. An absent number is never found in the cache, so there is
then a listing that the call has asked for after the drop, and no guest in it has the number
(`NumberFree`).

`creationsGated` states this for every run, for what is sent and for what is answered.
-/

namespace ProxmoxMcp

open Interaction Text
open Program hiding bind

/-- The number of a new guest: on which cluster, and what a form calls it. -/
structure NewNumber where
  cluster : String
  field : String
  vmid : UInt32

/-- The number a tool gives away. -/
def Tool.newNumber : Tool → Option NewNumber
  | .createGuest _ args => some ⟨args.cluster, "vmid", args.vmid⟩
  | .applyRestoreNewVmid args => some ⟨args.cluster, "vmid", args.vmid⟩
  | .cloneVm args => some ⟨args.cluster, "newid", args.newid⟩
  | _ => none

/-- The tools that make sure that a number is free; a clone leaves that to the cluster. -/
def Tool.ChecksAbsence : Tool → Prop
  | .createGuest _ _ | .applyRestoreNewVmid _ => True
  | _ => False

/-- A form has the number once, in whatever spelling. -/
def ApiRequest.CarriesOnce (request : ApiRequest) (number : NewNumber) : Prop :=
  (request.form.filter fun field => toAsciiLowercase field.1 == number.field) =
    [(number.field, toString number.vmid)]

/-- A listing has a guest with this number: a machine or a container, on a node. -/
def Lists (data : Json) (vmid : UInt32) : Prop :=
  ∃ entries entry, data.asArray = some entries ∧ entry ∈ entries ∧ (guestTypeOf entry).isSome ∧
    entry.getU64 "vmid" = some vmid.toUInt64 ∧ (entry.getStr "node").isSome

variable [Externals]

/-- The caller's grant admits the number as such, and no pin of the cluster is on it. -/
structure NumberAdmitted (server : ProxmoxServer) (caller : Option CallerCtx)
    (number : NewNumber) : Prop where
  inScope : ∃ grant, resolveGrant caller = .ok grant ∧ grant.allowsNewVmid number.vmid
  unpinned : ∃ client, server.clientNamed number.cluster = some client ∧
    number.vmid ∉ client.cluster.protectedVmids

/-- After it dropped what was cached of the cluster the call has asked for a listing, and no guest
in it has the number. -/
def FreshlyAbsent (cluster : String) (vmid : UInt32) (h : History Effect) : Prop :=
  ∃ later ticket response before data, h = later ++ ⟨.http (.await ticket), .ok response⟩ ::
      ⟨.http (.dispatch cluster listingRequest), ticket⟩ :: before ∧ Dropped cluster before ∧
    ProxmoxClient.readAnswer response = .ok data ∧ data.asArray.isSome ∧ ¬ Lists data vmid

/-- **A number is free**: it is absent from a fresh listing, and since the drop no lookup of it has
come to anything else. -/
structure NumberFree (cluster : String) (vmid : UInt32) (h : History Effect) : Prop where
  absent : FreshlyAbsent cluster vmid h
  only : ∀ later reply before, h = later ++ ⟨.index (.lookupFresh cluster vmid), reply⟩ :: before →
    Dropped cluster before → ∃ after origin, Answered cluster vmid before after origin none ∧
      after <:+ h

/-- What a call has to have established before it gives a number away. -/
structure NumberGate (server : ProxmoxServer) (caller : Option CallerCtx) (tool : Tool)
    (number : NewNumber) (h : History Effect) : Prop where
  admitted : NumberAdmitted server caller number
  free : tool.ChecksAbsence → NumberFree number.cluster number.vmid h

/-- **Creations are gated**: a request that can change a cluster is sent to the cluster of the
number, with the number in it once and behind the gate; and no call succeeds but behind the gate. -/
def CreationsGated (trace : ServerTrace) : Prop :=
  ∀ id server caller tool number, .start id ⟨server, .serve caller tool⟩ ∈ trace →
    tool.newNumber = some number →
    (∀ (newer older : ServerTrace) client request ticket,
      trace = newer ++ .event id ⟨.http (.dispatch client request), ticket⟩ :: older →
      request.Mutating → client = number.cluster ∧ request.CarriesOnce number ∧
        NumberGate server caller tool number (historyOf id older)) ∧
    ∀ (newer older : ServerTrace) value, trace = newer ++ .finish id (.ok value) :: older →
      NumberGate server caller tool number (historyOf id older)

/-! ### Absence -/

section Absence

variable {cluster : String} {vmid : UInt32}

omit [Externals] in
/-- What is stored is found, whatever is stored later. -/
private theorem isSome_foldl_insert {guests : List ResolvedGuest} (acc : GuestMap)
    (h : (acc vmid).isSome ∨ ∃ guest ∈ guests, guest.vmid = vmid) :
    ((guests.foldl GuestMap.insert acc) vmid).isSome := by
  induction guests generalizing acc with
  | nil => simpa using h
  | cons first guests ih =>
    rw [List.foldl_cons]
    refine ih _ ?_
    by_cases hfirst : vmid = first.vmid
    · exact .inl (by simp [GuestMap.insert, hfirst])
    · have hkept : (acc.insert first) vmid = acc vmid := if_neg hfirst
      rw [hkept]
      refine h.imp_right ?_
      rintro ⟨guest, hmem, rfl⟩
      rcases List.mem_cons.mp hmem with rfl | hmem
      · exact absurd rfl hfirst
      · exact ⟨guest, hmem, rfl⟩

omit [Externals] in
/-- A guest that is not found is not listed. -/
private theorem not_lists_of_readGuests {data : Json} {guests : GuestMap}
    (hread : readGuests cluster data = .ok guests) (habsent : guests vmid = none) :
    data.asArray.isSome ∧ ¬ Lists data vmid := by
  cases harray : data.asArray with
  | none =>
    rw [readGuests, harray] at hread
    cases hread
  | some entries =>
    rw [readGuests, harray] at hread
    obtain rfl := Except.ok.inj hread
    refine ⟨rfl, ?_⟩
    rintro ⟨entries', entry, harray', hentry, htype, hvmid, hnode⟩
    obtain rfl := Option.some.inj (harray.symm.trans harray')
    obtain ⟨type, htype⟩ := Option.isSome_iff_exists.mp htype
    obtain ⟨node, hnode⟩ := Option.isSome_iff_exists.mp hnode
    have hsize : vmid.toNat < UInt32.size := vmid.toNat_lt
    obtain ⟨guest, hguest, hnumber⟩ : ∃ guest, parseGuest cluster entry = some guest ∧
        guest.vmid = vmid := by
      simp [parseGuest, htype, hvmid, hnode, guard, hsize]
    have hfound : ((parseGuests cluster entries) vmid).isSome := by
      rw [parseGuests_eq_foldl]
      exact isSome_foldl_insert _ (.inr ⟨guest, List.mem_filterMap.mpr ⟨entry, hentry, hguest⟩,
        hnumber⟩)
    rw [habsent] at hfound
    cases hfound

/-- An absence is never answered from the cache. -/
private theorem freshlyAbsent_of_answered {before after : History Effect} {origin : Origin}
    (hanswered : Answered cluster vmid before after origin none)
    (hdropped : Dropped cluster before) : FreshlyAbsent cluster vmid after := by
  generalize hnone : none = guest at hanswered
  cases hanswered with
  | cached hit => cases hnone
  | @fetched generation ticket response data guests hread hparsed =>
    obtain ⟨harray, hlists⟩ := not_lists_of_readGuests hparsed hnone.symm
    exact ⟨[_], ticket, response, _, data, rfl, hdropped.mono ⟨[_, _], rfl⟩, hread, harray, hlists⟩

/-- A number that the first lookup after the drop finds absent is free. -/
private theorem numberFree_of_answered {h after : History Effect} {origin : Origin}
    (hundropped : ¬ Dropped cluster h)
    (hanswered : Answered cluster vmid (afterDrop cluster h) after origin none) :
    NumberFree cluster vmid after := by
  refine ⟨freshlyAbsent_of_answered hanswered (dropped_afterDrop cluster h), ?_⟩
  intro later reply before heq hdropped
  have hlookup : (⟨.index (.lookupFresh cluster vmid), reply⟩ :: before) <:+ after :=
    ⟨later, heq.symm⟩
  suffices hbefore : before = afterDrop cluster h from
    ⟨after, origin, hbefore ▸ hanswered, List.suffix_rfl⟩
  generalize hnone : none = guest at hanswered
  cases hanswered with
  | cached hit => cases hnone
  | fetched =>
    simp only [afterDrop, List.suffix_cons_iff, List.cons.injEq] at hlookup
    rcases hlookup with ⟨hop, -⟩ | ⟨hop, -⟩ | ⟨hop, -⟩ | ⟨hop, -⟩ | ⟨-, hbefore⟩ | ⟨hop, -⟩ |
      ⟨hop, -⟩ | hearlier
    iterate 4 cases hop
    · exact hbefore
    iterate 2 cases hop
    · -- a lookup before the drop had nothing dropped before it
      exact absurd (hdropped.mono ((List.suffix_cons _ _).trans hearlier)) hundropped

/-- The operation looks a guest up. -/
def Op.Looks : Op → Prop
  | .index (.lookupFresh _ _) => True
  | _ => False

/-- A free number stays free while nothing is looked up. -/
theorem NumberFree.cons {h : History Effect} (hfree : NumberFree cluster vmid h) {op : Op}
    {reply : Effect.Reply op} (hop : ¬ op.Looks) : NumberFree cluster vmid (⟨op, reply⟩ :: h) := by
  obtain ⟨⟨later, ticket, response, before, data, rfl, habsent⟩, honly⟩ := hfree
  refine ⟨⟨⟨op, reply⟩ :: later, ticket, response, before, data, rfl, habsent⟩, ?_⟩
  intro later' reply' before' heq hdropped
  cases later' with
  | nil =>
    obtain ⟨hevent, -⟩ := List.cons.inj heq
    cases hevent
    exact absurd trivial hop
  | cons event later' =>
    obtain ⟨after, origin, hanswered, hafter⟩ :=
      honly later' reply' before' (List.cons.inj heq).2 hdropped
    exact ⟨after, origin, hanswered, hafter.trans (List.suffix_cons _ _)⟩

end Absence

/-! ### The handlers -/

/-- What a call that gives a number away keeps to. -/
def SendsGated (server : ProxmoxServer) (caller : Option CallerCtx) (tool : Tool)
    (number : NewNumber) (h : History Effect) (op : Op) : Prop :=
  ∀ client request, op = .http (.dispatch client request) → request.Mutating →
    client = number.cluster ∧ request.CarriesOnce number ∧ NumberGate server caller tool number h

/-- The operation neither drops anything of the index nor can change a cluster. -/
def Op.Prepares (op : Op) : Prop := op ≠ .index .bumpGeneration ∧ ¬ op.Mutates

/-- The call has only prepared what it is about to do. -/
def Prepared (h : History Effect) : Prop := ∀ event ∈ h, event.op.Prepares

section Handlers

variable {server : ProxmoxServer} {caller : Option CallerCtx} {tool : Tool} {number : NewNumber}
  {h : History Effect}

omit [Externals] in
theorem Prepared.cons {op : Op} {reply : Effect.Reply op} (hprepared : Prepared h)
    (hop : op.Prepares) : Prepared (⟨op, reply⟩ :: h) :=
  List.forall_mem_cons.mpr ⟨hop, hprepared⟩

omit [Externals] in
theorem Prepared.not_dropped (hprepared : Prepared h) (cluster : String) : ¬ Dropped cluster h := by
  rintro ⟨later, op, reply, older, rfl, -⟩
  have hbump := hprepared ⟨.index .bumpGeneration, ()⟩ (by simp)
  exact hbump.1 rfl

omit [Externals] in
theorem Op.Reads.prepares {op : Op} (hop : op.Reads) : op.Prepares := by
  refine ⟨?_, hop.not_mutates⟩
  rintro rfl
  exact hop

/-- What cannot change a cluster needs no gate. -/
private theorem sendsGated_of_not_mutates {op : Op} (hop : ¬ op.Mutates) :
    SendsGated server caller tool number h op := by
  rintro client request rfl hmutating
  exact absurd hmutating hop

theorem NumberGate.cons (hgate : NumberGate server caller tool number h) {op : Op}
    {reply : Effect.Reply op} (hop : ¬ op.Looks) :
    NumberGate server caller tool number (⟨op, reply⟩ :: h) :=
  ⟨hgate.admitted, fun hchecks => (hgate.free hchecks).cons hop⟩

/-- **Behind the gate**: what then looks nothing up and sends only the request with the number keeps
to it. -/
theorem ensures_gated {α : Type} {policy : Policy} {p : ToolM α}
    (hp : Ensures policy.Allows (fun _ _ => True) h p)
    (hlookups : ∀ h cluster vmid, ¬ policy.lookups h cluster vmid)
    (hsends : ∀ h client request, policy.sends h client request →
      client = number.cluster ∧ request.CarriesOnce number)
    (hgate : NumberGate server caller tool number h) :
    Ensures (SendsGated server caller tool number)
      (fun h' _ => NumberGate server caller tool number h') h p := by
  have hkept : ∀ h op reply, policy.Allows h op → NumberGate server caller tool number h →
      NumberGate server caller tool number (⟨op, reply⟩ :: h) := by
    intro h op reply hop hgate
    refine hgate.cons fun hlooks => ?_
    cases op with
    | index op =>
      cases op with
      | lookupFresh cluster vmid => exact hlookups h cluster vmid hop
      | _ => exact hlooks
    | _ => exact hlooks
  refine (hp.keeps hkept hgate).mono (fun h op hop => ?_) fun _ _ hkept => hkept.2
  rintro client request rfl hmutating
  obtain ⟨hclient, honce⟩ := hsends h client request (Policy.Permits.sends hop.1 hmutating)
  exact ⟨hclient, honce, hop.2⟩

/-- Sending the one request with the number, behind the gate. -/
private theorem ensures_runTask_gated {client : ProxmoxClient} {request : ApiRequest}
    (hclient : client.name = number.cluster) (honce : request.CarriesOnce number)
    (hgate : NumberGate server caller tool number h) :
    Ensures (SendsGated server caller tool number)
      (fun h' _ => NumberGate server caller tool number h') h
      (viaClient (Guests.runTask client request)) := by
  have hsend : Ensures (ProxmoxServer.blindPolicy number.cluster fun request =>
      request.CarriesOnce number).Allows (fun _ _ => True) h
      (viaClient (Guests.runTask client request)) :=
    ensures_runTask (ProxmoxServer.blindPolicy_sends hclient honce)
  exact ensures_gated hsend (fun _ _ _ hlookup => hlookup) (fun _ _ _ hsends => hsends) hgate

/-! ### Creations and clones -/

omit [Externals] in
private theorem not_mem_protectedVmids {cluster : Cluster} {vmid : UInt32}
    (h : creationAllowed cluster vmid) : vmid ∉ cluster.protectedVmids := by
  simpa [creationAllowed] using h

omit [Externals] in
/-- The entries of an accepted config are about anything but the number. -/
private theorem carriesOnce_createGuestRequest {kind : GuestType}
    {args : ProxmoxServer.CreateGuestArgs} (haccepted : rejectUnsafeConfig args.config = none) :
    (Guests.createGuestRequest args.node kind args.vmid
      (ProxmoxServer.createConfig kind args.config)).CarriesOnce
        ⟨args.cluster, "vmid", args.vmid⟩ := by
  have hvmid : toAsciiLowercase "vmid" = "vmid" := by decide
  have hother : ∀ entry ∈ ProxmoxServer.createConfig kind args.config,
      toAsciiLowercase entry.1 ≠ "vmid" := by
    intro entry hentry
    rcases mem_createConfig_iff.mp hentry with hentry | ⟨-, -, rfl⟩
    · exact ne_vmid_of_allowed ((rejectUnsafeConfig_eq_none_iff.mp haccepted).1 entry hentry)
    · decide
  have hnone : (ProxmoxServer.createConfig kind args.config).filter
      (fun field => toAsciiLowercase field.1 == "vmid") = [] := by
    refine List.filter_eq_nil_iff.mpr fun entry hentry => ?_
    simpa using hother entry hentry
  simp [ApiRequest.CarriesOnce, Guests.createGuestRequest, hvmid, hnone]

omit [Externals] in
private theorem carriesOnce_cloneGuestRequest {node : String} {kind : GuestType}
    {vmid newid : UInt32} {name : Option String} {full : Bool} {cluster : String} :
    (Guests.cloneGuestRequest node kind vmid newid name full).CarriesOnce
      ⟨cluster, "newid", newid⟩ := by
  have hname {key : String} (hkey : toAsciiLowercase key ≠ "newid") :
      (Guests.optionalField key name).filter
        (fun field => toAsciiLowercase field.1 == "newid") = [] := by
    refine List.filter_eq_nil_iff.mpr fun entry hentry => ?_
    have hentry : entry.1 = key := by
      rw [Guests.optionalField.eq_def] at hentry
      split at hentry
      · split_ifs at hentry <;> simp_all
      · cases hentry
    simpa [hentry] using hkey
  have hnewid : toAsciiLowercase "newid" = "newid" := by decide
  have hfull : toAsciiLowercase "full" ≠ "newid" := by decide
  cases kind with
  | lxc =>
    have hhostname : toAsciiLowercase "hostname" ≠ "newid" := by decide
    simp [ApiRequest.CarriesOnce, Guests.cloneGuestRequest, hname hhostname, hnewid, hfull]
  | qemu =>
    have hmachine : toAsciiLowercase "name" ≠ "newid" := by decide
    simp [ApiRequest.CarriesOnce, Guests.cloneGuestRequest, hname hmachine, hnewid, hfull]

omit [Externals] in
private theorem carriesOnce_restoreBackupRequest {node archive cluster : String} {kind : GuestType}
    {vmid : UInt32} {force : Bool} :
    (Guests.restoreBackupRequest node kind vmid archive force).CarriesOnce
      ⟨cluster, "vmid", vmid⟩ := by
  have hvmid : toAsciiLowercase "vmid" = "vmid" := by decide
  have harchive : toAsciiLowercase "archive" ≠ "vmid" := by decide
  have hforce : toAsciiLowercase "force" ≠ "vmid" := by decide
  have hrestore : toAsciiLowercase "restore" ≠ "vmid" := by decide
  simp [ApiRequest.CarriesOnce, Guests.restoreBackupRequest, hvmid, harchive, hforce, hrestore]

/-- **A creation** passes the gate on its way to its request. -/
theorem ensures_createGuest_gated (kind : GuestType) (args : ProxmoxServer.CreateGuestArgs) :
    Ensures (SendsGated server caller (.createGuest kind args) ⟨args.cluster, "vmid", args.vmid⟩)
      (fun h' _ => NumberGate server caller (.createGuest kind args)
        ⟨args.cluster, "vmid", args.vmid⟩ h') [] (server.createGuest kind caller args) := by
  rw [ProxmoxServer.createGuest]
  cases hconfig : rejectUnsafeConfig args.config with
  | some refusal => exact ensures_throw
  | none =>
    refine Ensures.bind (ProxmoxServer.ensures_authorizeCreation_answered _ args.cluster args.vmid)
      (fun _ _ hop => sendsGated_of_not_mutates (Quiet.not_mutates hop))
      fun after client _ hvacant => ?_
    obtain ⟨⟨hnamed, ⟨grant, hgrant, -, hscope⟩, hpin, -⟩, origin, hanswered⟩ := hvacant
    have hundropped : ¬ Dropped args.cluster [] := by
      rintro ⟨later, op, reply, older, heq, -⟩
      simp at heq
    have hgate : NumberGate server caller (.createGuest kind args)
        ⟨args.cluster, "vmid", args.vmid⟩ after :=
      ⟨⟨⟨grant, hgrant, hscope⟩, client, hnamed, not_mem_protectedVmids hpin⟩,
        fun _ => numberFree_of_answered hundropped hanswered⟩
    refine Ensures.liftExcept fun _ _ => ?_
    exact Ensures.bind (ensures_runTask_gated (ProxmoxServer.name_of_clientNamed hnamed)
      (carriesOnce_createGuestRequest hconfig) hgate) (fun _ _ hop => hop)
      fun _ _ _ hgate => ensures_pure.mpr hgate

/-- **A clone** asks the grant and the pins, and leaves the rest to the cluster. -/
theorem ensures_cloneVm_gated (args : ProxmoxServer.CloneArgs) :
    Ensures (SendsGated server caller (.cloneVm args) ⟨args.cluster, "newid", args.newid⟩)
      (fun h' _ => NumberGate server caller (.cloneVm args)
        ⟨args.cluster, "newid", args.newid⟩ h') [] (server.cloneVm caller args) := by
  refine Ensures.bind (ProxmoxServer.ensures_authorizeLowWithInterrupts "clone_vm"
    ⟨args.cluster, args.vmid⟩ none) (fun _ _ hop => sendsGated_of_not_mutates hop.not_mutates)
    fun after authorization _ hauthorized => ?_
  refine Ensures.liftExcept fun client hclient => Ensures.liftExcept fun grant hgrant =>
    Ensures.ensure fun hscope => Ensures.ensure fun hpin => Ensures.liftExcept fun _ _ => ?_
  have hgate : NumberGate server caller (.cloneVm args) ⟨args.cluster, "newid", args.newid⟩ after :=
    ⟨⟨⟨grant, hgrant, hscope⟩, client, clientNamed_of_clientFor hclient,
      not_mem_protectedVmids hpin⟩, False.elim⟩
  exact Ensures.bind (ensures_runTask_gated (name_of_clientFor hclient)
    carriesOnce_cloneGuestRequest hgate) (fun _ _ hop => hop)
    fun _ _ _ hgate => ensures_pure.mpr hgate

/-! ### Restores -/

/-- Resolving a guest only prepares. -/
private theorem always_resolve_prepares (client : ProxmoxClient) (vmid : UInt32)
    (h : History Effect) :
    Always (fun _ (op : Op) => op.Prepares) (fun _ _ => True) h
      (resolve client client.name vmid).run := by
  refine ⟨⟨nofun, id⟩, fun hit => ?_⟩
  cases hit with
  | some hit => trivial
  | none =>
    refine ⟨⟨nofun, id⟩, fun generation => ?_⟩
    have hfetch {h : History Effect} : Always (fun _ (op : Op) => op.Prepares) (fun _ _ => True) h
        (fetchGuests client client.name).run :=
      Always.run_bind (R := fun _ _ => True) (ProxmoxClient.always_send (fun _ _ => trivial)
        ⟨nofun, fun hmutating => hmutating rfl⟩ (fun _ => ⟨nofun, id⟩) fun _ _ => trivial)
        (fun _ _ _ => (always_run_liftExcept _).mpr trivial) fun _ _ _ => trivial
    refine Always.run_bind hfetch (fun _ guests _ => ⟨⟨nofun, id⟩, fun _ => ?_⟩)
      fun _ _ _ => trivial
    exact always_run_required.mpr ⟨fun _ _ => trivial, fun _ => trivial⟩

/-- Authorizing against the owner of an archive only prepares. -/
private theorem ensures_authorizeBackupOwner_prepares {client : ProxmoxClient}
    {grant : ProxmoxGrant} {owner : UInt32} {volid : String} {principal : Option String} :
    Ensures (fun _ (op : Op) => op.Prepares) (fun _ _ => True) h
      (server.authorizeBackupOwner client client.name owner grant volid principal) := by
  refine Ensures.attempt (always_resolve_prepares client owner h) (fun _ _ hop => hop)
    fun _ outcome _ _ => ?_
  cases outcome with
  | ok guest =>
    exact Ensures.ensure fun _ => Ensures.request ⟨nofun, id⟩ fun _ =>
      ensures_ensure.mpr fun _ => trivial
  | error error =>
    cases error with
    | notFound what => exact ensures_ensure.mpr fun _ => trivial
    | _ => exact ensures_throw

/-- Running and following an apply looks nothing up, so the gate stays passed. -/
private theorem ensures_run_follow_gated {call : ApplyCall} {record : ChangeSet}
    {client : ProxmoxClient}
    {request : ApiRequest} {extra : List (String × Json)} (hclient : client.name = call.cluster)
    (hnumber : call.cluster = number.cluster) (hreviewed : call.Reviewed record h)
    (hunsent : Unsent h) (hmutating : request.Mutating) (honce : request.CarriesOnce number)
    (hgate : NumberGate server caller tool number h) :
    Ensures (SendsGated server caller tool number)
      (fun h' _ => NumberGate server caller tool number h') h (do
        let (claimed, upid) ← call.run record (Guests.runTask client request)
        call.follow client claimed upid extra) := by
  have hrun : Ensures (call.policy (fun _ _ _ => False) (fun _ => False)
      fun _ _ request => request.CarriesOnce number).Allows (fun _ _ => True) h (do
        let (claimed, upid) ← call.run record (Guests.runTask client request)
        call.follow client claimed upid extra) := by
    refine ApplyCall.ensures_run_follow hclient hreviewed hunsent (fun hfalse _ => hfalse)
      fun h' claimed _ hready => ?_
    rw [← hclient]
    exact always_runTask hmutating (Policy.permits_of_sends
      ⟨hclient, record, claimed, hready, honce⟩ (.inl hready.unsent))
  refine ensures_gated hrun (fun _ _ _ hlookup => hlookup) (fun _ _ _ hsends => ?_) hgate
  obtain ⟨hsent, -, -, -, honce⟩ := hsends
  exact ⟨hsent.trans hnumber, honce⟩

/-- **Applying a restore** passes the gate before it claims its record. -/
theorem ensures_applyRestoreNewVmid_gated (args : ChangeSetArgs) :
    Ensures (SendsGated server caller (.applyRestoreNewVmid args) ⟨args.cluster, "vmid", args.vmid⟩)
      (fun h' _ => NumberGate server caller (.applyRestoreNewVmid args)
        ⟨args.cluster, "vmid", args.vmid⟩ h') [] (server.applyRestoreNewVmid caller args) := by
  obtain ⟨id, cluster, vmid⟩ := args
  have hprepares {number : NewNumber} {tool : Tool} (h : History Effect) (op : Op)
      (hop : op.Prepares ∧ Prepared h) : SendsGated server caller tool number h op :=
    sendsGated_of_not_mutates hop.1.2
  have hkept (h : History Effect) (op : Op) (reply : Effect.Reply op) (hop : op.Prepares)
      (hprepared : Prepared h) : Prepared (⟨op, reply⟩ :: h) := hprepared.cons hop
  refine Ensures.liftExcept fun _ _ => Ensures.liftExcept fun client hclient => ?_
  obtain rfl : client.name = cluster := name_of_clientFor hclient
  -- up to the drop the call only prepares
  have hread : Ensures (fun _ (op : Op) => op.Prepares) (fun (h' : History Effect) record =>
        h' = ⟨.coordinator (.changeSet id (ChangeSetArgs.mk id client.name vmid).device),
          .ok record⟩ :: []) []
      (recordOf id (ChangeSetArgs.mk id client.name vmid).device) := by
    refine Ensures.request ⟨nofun, not_false⟩ fun reply =>
      ensures_liftExcept.mpr fun record hrecord => ?_
    rw [eq_ok_of_mapError hrecord]
  have hprepared : Prepared [] := fun _ hmem => absurd hmem List.not_mem_nil
  refine Ensures.bind (hread.keeps hkept hprepared) hprepares fun h₁ record _ hh₁ =>
    Ensures.ensure fun hpreview => Ensures.liftExcept fun action _ =>
    Ensures.ensure fun htarget => Ensures.liftExcept fun _ _ =>
    Ensures.liftExcept fun grant hgrant => Ensures.ensure fun _ => ?_
  obtain ⟨rfl, hprepared₁⟩ := hh₁
  replace htarget : action.targetVmid = vmid := beq_iff_eq.mp htarget
  refine Ensures.bind ensures_requireRestoreTarget (fun _ _ hop => hop) fun _ _ _ hscope => ?_
  obtain ⟨rfl, hscope, hpin⟩ := hscope
  have howner {h : History Effect} : Ensures (fun _ (op : Op) => op.Prepares) (fun _ _ => True) h
      (requireRecordedOwner client action) :=
    ensures_requireRecordedOwner.mono (fun _ _ hop => Op.Reads.prepares hop) fun _ _ _ => trivial
  refine Ensures.bind (howner.keeps hkept hprepared₁) hprepares fun h₂ _ hh₂ hprepared₂ => ?_
  refine Ensures.bind (Ensures.keeps ensures_authorizeBackupOwner_prepares hkept hprepared₂.2)
    hprepares fun h₃ _ hh₃ hprepared₃ => Ensures.required fun kind _ => ?_
  have hunsent₃ : Unsent h₃ := fun event hmem => (hprepared₃.2 event hmem).2
  refine Ensures.bind (ensures_requireFree_answered.keeps
    (fun _ _ _ hop hunsent => hunsent.cons (Quiet.not_mutates hop)) hunsent₃)
    (fun _ _ hop => sendsGated_of_not_mutates hop.1.not_mutates) fun h₄ _ hh₄ hfree =>
    Ensures.ensure fun _ => Ensures.ensure fun happroved => ?_
  obtain ⟨⟨origin, hanswered⟩, hunsent₄⟩ := hfree
  rw [htarget] at hscope hpin hanswered
  have hgate : NumberGate server caller (.applyRestoreNewVmid ⟨id, client.name, vmid⟩)
      ⟨client.name, "vmid", vmid⟩ h₄ :=
    ⟨⟨⟨grant, hgrant, hscope⟩, client, clientNamed_of_clientFor hclient,
      not_mem_protectedVmids hpin⟩,
      fun _ => numberFree_of_answered (hprepared₃.2.not_dropped client.name) hanswered⟩
  have hreviewed : (server.restoreCall caller ⟨id, client.name, vmid⟩).Reviewed record h₄ :=
    ⟨(hh₂.trans (hh₃.trans hh₄)).subset List.mem_cons_self, hpreview, beq_iff_eq.mp happroved⟩
  exact ensures_run_follow_gated rfl rfl hreviewed hunsent₄ nofun
    (htarget ▸ carriesOnce_restoreBackupRequest) hgate

/-- **Every call that gives a number away** keeps to the gate. -/
theorem ensures_serve_gated (hnumber : tool.newNumber = some number) :
    Ensures (SendsGated server caller tool number)
      (fun h' _ => NumberGate server caller tool number h') [] (server.serve caller tool) := by
  cases tool with
  | createGuest kind args =>
    obtain rfl := Option.some.inj hnumber
    exact ensures_createGuest_gated kind args
  | cloneVm args =>
    obtain rfl := Option.some.inj hnumber
    exact ensures_cloneVm_gated args
  | applyRestoreNewVmid args =>
    obtain rfl := Option.some.inj hnumber
    exact ensures_applyRestoreNewVmid_gated args
  | _ => cases hnumber

end Handlers

/-! ### Runs -/

section Runs

variable {coordinator : Coordinator} {ttl : ℕ}

/-- What the calls that give numbers away are known to do. -/
def creationGuarantee (coordinator : Coordinator) (ttl : ℕ) :
    Guarantee (serverMachine coordinator ttl) where
  op served h op := ∀ caller tool number, served.call = .serve caller tool →
    tool.newNumber = some number → SendsGated served.server caller tool number h op
  result served h outcome := ∀ caller tool number value, served.call = .serve caller tool →
    tool.newNumber = some number → outcome = .ok value →
      NumberGate served.server caller tool number h
  keeps served := by
    obtain ⟨server, call⟩ := served
    cases call with
    | serve caller tool =>
      cases hnumber : tool.newNumber with
      | none =>
        refine (Program.always_true _ _).mono (fun h op _ => ?_) fun h outcome _ => ?_
        · rintro _ _ number ⟨⟩ hsome
          cases hnumber.symm.trans hsome
        · rintro _ _ number value ⟨⟩ hsome
          cases hnumber.symm.trans hsome
      | some number =>
        refine Always.mono (ensures_serve_gated hnumber) (fun h op hop => ?_)
          fun h outcome hgate => ?_
        · rintro _ _ number' ⟨⟩ hsome
          obtain rfl := Option.some.inj (hnumber.symm.trans hsome)
          exact hop
        · rintro _ _ number' value ⟨⟩ hsome hok
          obtain rfl := Option.some.inj (hnumber.symm.trans hsome)
          exact hgate value hok
    | _ =>
      -- neither a recovery nor a reload gives a number away
      refine (Program.always_true _ _).mono (fun h op _ => ?_) fun h outcome _ => ?_
      · rintro _ _ _ ⟨⟩
      · rintro _ _ _ _ ⟨⟩

/-- **Creations are gated** in every run. -/
theorem creationsGated {pool : Pool (serverMachine coordinator ttl)}
    (h : Reachable (serverMachine coordinator ttl) pool) : CreationsGated pool.trace := by
  intro id server caller tool number hstart hnumber
  have hunique {served : Served} {newer older : ServerTrace}
      {entry : Entry Effect Served CallResult} (htrace : pool.trace = newer ++ entry :: older)
      (hserved : .start id served ∈ older) : served = ⟨server, .serve caller tool⟩ := by
    refine h.start_unique ?_ hstart
    rw [htrace]
    exact List.mem_append_right _ (.tail _ hserved)
  constructor
  · intro newer older client request ticket htrace hmutating
    obtain ⟨served, hserved, hop⟩ := h.performed (creationGuarantee coordinator ttl) htrace
    obtain rfl := hunique htrace hserved
    exact hop caller tool number rfl hnumber client request rfl hmutating
  · intro newer older value htrace
    obtain ⟨served, hserved, hresult⟩ := h.finished (creationGuarantee coordinator ttl) htrace
    obtain rfl := hunique htrace hserved
    exact hresult caller tool number value rfl hnumber rfl

omit [Externals] in
/-- The run in which an archive is copied into the free number 901. -/
theorem creationsGated_copy : ∃ pool : Pool keptMachine,
    .event 0 ⟨.http (.dispatch "pve" copyRequest), (18 : ℕ)⟩ ∈ pool.trace ∧
      @CreationsGated Externals.plain pool.trace := by
  let _ : Externals := Externals.plain
  have hempty : Reachable keptMachine keptPool := .initial ⟨rfl, trivial⟩
  obtain ⟨world, hcopy⟩ := performs_copyCall_of_fetched
  obtain ⟨next, hreaches⟩ := copyCall_reaches_of_fetched 0 1 2 6 14
  obtain ⟨pool, hpool, -, htrace⟩ := @Reachable.call _ _ _ hempty 0 copyCall _ _ _ _ _
    (fun _ => List.not_mem_nil) hreaches hcopy
  exact ⟨pool, by simp [htrace], creationsGated hpool⟩

end Runs

end ProxmoxMcp
