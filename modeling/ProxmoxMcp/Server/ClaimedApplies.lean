import ProxmoxMcp.ChangeSet.Planned
import ProxmoxMcp.Server.Changes

/-!
# A claim is not stranded

An apply claims its record before it sends anything, and from then on the record is applying until
the call settles it. A failure after the claim is settled only when it is definitive, so a **local
refusal** with nothing sent would leave the record applying for good.

The checks before the claim rule this out. Each action they accept asks for **one request**, whose
path can be expanded (`formed_change`), so executing it sends that request or fails
definitively (`always_executeDestructive_decided`). A whole apply therefore leaves every record it
claimed either settled or with its request **departed**, unless the HTTP layer refuses the URL of
just this request (`applyChangeSet_decided`).
-/

namespace ProxmoxMcp

open Interaction Text ProxmoxError
open Program hiding bind

variable [Externals]

/-! ### Requests that can be sent -/

/-- The expander accepts the path of a request. -/
def ApiRequest.Expandable (request : ApiRequest) : Prop :=
  ∃ path, Externals.expandPath request.pathTemplate request.params = .ok path

/-- The HTTP layer refuses the URL a client forms for a request. -/
def ProxmoxClient.RefusesUrl (client : ProxmoxClient) (request : ApiRequest) : Prop :=
  ∃ url error, client.url request = .ok url ∧
    Externals.absoluteUrl request.method url = .error error

/-- The HTTP layer refuses the URL of the request that an action on a guest asks for. -/
def ProxmoxClient.RefusesChange (client : ProxmoxClient) (action : DestroyAction)
    (kind : GuestType) (node : String) (vmid : UInt32) : Prop :=
  ∃ request, (action.change kind node vmid).request = .ok request ∧ client.RefusesUrl request

theorem ApiRequest.Expandable.url {request : ApiRequest} (h : request.Expandable)
    (client : ProxmoxClient) : ∃ url, client.url request = .ok url := by
  obtain ⟨path, hpath⟩ := h
  exact ⟨_, by rw [ProxmoxClient.url, hpath]; rfl⟩

theorem ApiRequest.expandable_of_url {request : ApiRequest} {client : ProxmoxClient} {url : String}
    (h : client.url request = .ok url) : request.Expandable := by
  obtain ⟨path, -, hpath, -⟩ := carriesQuery_of_url h
  exact ⟨path, hpath⟩

/-! ### What the checks before a claim accept -/

/-- An action that passes the checks before a claim lacks no field of its operation, and its fields
that become segments are accepted by the expander. -/
structure Complete (action : DestroyAction) : Prop where
  present : missingRequiredFields action = []
  values : recheckValues action = .ok ()
  snapname : ∀ value, action.snapname = some value → IsSegment value
  storage : ∀ value, action.storage = some value → IsSegment value
  storageNode : ∀ value, action.storageNode = some value → IsSegment value

private theorem complete_of_recheckAction {action : DestroyAction}
    (h : recheckAction action = .ok ()) :
    Complete action := by
  obtain ⟨hpresent, hvalues, hsegments⟩ := recheckAction_eq_ok_iff.mp h
  rw [recheckSegments_eq_ok_iff] at hsegments
  refine ⟨hpresent, hvalues, ?_, ?_, ?_⟩
  · exact fun value heq => hsegments "snapname" value (by simp [heq])
  · exact fun value heq => hsegments "storage" value (by simp [heq])
  · exact fun value heq => hsegments "storage_node" value (by simp [heq])

omit [Externals] in
private theorem exists_of_isPresent {value : Option String} (h : isPresent value = true) :
    ∃ text, value = some text := by
  cases value with
  | some text => exact ⟨text, rfl⟩
  | none => simp [isPresent] at h

omit [Externals] in
/-- The checked volume id of a deletion is one of the kind and the storage it names. -/
theorem validateVolid_of_recheckValues {action : DestroyAction} {volid storage : String}
    (hop : action.op = "delete_backup" ∨ action.op = "delete_iso")
    (hvolid : action.volid = some volid) (hstorage : action.storage = some storage)
    (h : recheckValues action = .ok ()) :
    validateVolidForOperation volid storage (deletedKind action.op) = .ok () := by
  rcases hop with hop | hop <;>
  · simp only [recheckValues, hop, hvolid, hstorage] at h ⊢
    exact eq_ok_of_mapError h

/-! ### What a call may do without claiming -/

/-- The operation claims no record. -/
def Op.Unclaiming (op : Op) : Prop :=
  ∀ id device, op ≠ .coordinator (.claimChangeSetForApply id device)

omit [Externals] in
theorem Op.Reads.unclaiming {op : Op} (h : op.Reads) : op.Unclaiming := by
  rintro id device rfl
  exact h

theorem Quiet.unclaiming {lookups : LookupRule} {h : History Effect} {op : Op}
    (hop : Quiet lookups h op) : op.Unclaiming := by
  rintro id device rfl
  exact hop

omit [Externals] in
theorem Op.unclaiming_http {op : HttpOp} : Op.Unclaiming (.http op) := by
  intro id device heq
  cases heq

omit [Externals] in
theorem Op.unclaiming_evidence {op : EvidenceOp} : Op.Unclaiming (.evidence op) := by
  intro id device heq
  cases heq

/-- What was sent could be expanded. -/
private theorem ensures_send_expandable {client : ProxmoxClient} {request : ApiRequest}
    {h : History Effect} :
    Ensures (fun _ (op : Op) => op.Unclaiming) (fun _ _ => request.Expandable) h
      (client.send request) := by
  refine Ensures.liftExcept fun url hurl => Ensures.liftExcept fun _ _ => ?_
  refine Ensures.request Op.unclaiming_http fun ticket => Ensures.request Op.unclaiming_http
    fun reply => Ensures.liftExcept fun response _ => ensures_liftExcept.mpr fun data _ => ?_
  exact ApiRequest.expandable_of_url hurl

/-- A guest whose state was read is one whose path can be expanded. -/
private theorem ensures_readGuestState_expandable {client : ProxmoxClient} {cluster : String}
    {guest : ResolvedGuest} {h : History Effect} :
    Ensures (fun _ (op : Op) => op.Unclaiming) (fun _ state => state.node = guest.node ∧
        (Guests.configRequest guest.node guest.type guest.vmid).Expandable) h
      (readGuestState client cluster guest) := by
  refine Ensures.bind (ensures_mapError.mpr (Ensures.bind ensures_send_expandable
    (fun _ _ hop => hop) fun _ _ _ hsent => ensures_liftExcept.mpr fun _ _ => hsent))
    (fun _ _ hop => hop) fun _ _ _ hexpand => ensures_pure.mpr ?_
  exact ⟨rfl, hexpand⟩

/-! ### The request of a checked action -/

/-- A change is **formed**: it has a request, which changes the cluster and whose path can be
expanded. -/
def Change.Formed (change : Change) : Prop :=
  ∃ request, change.request = .ok request ∧ request.Mutating ∧ request.Expandable

/-- The expander accepts the parts of a guest's path. -/
structure Placed (node : String) (kind : GuestType) (vmid : UInt32) : Prop where
  node : IsSegment node
  kind : IsSegment kind.pathSegment
  vmid : IsSegment (toString vmid)

section Formed

variable {action : DestroyAction} {kind : GuestType} {node : String} {vmid : UInt32}

/-- What the request for a guest's configuration shows about the parts of its path. -/
private theorem placed_of_expandable (hlaws : ExpanderLaws)
    (h : (Guests.configRequest node kind vmid).Expandable) : Placed node kind vmid := by
  have htakes : Takes "/api2/json/nodes/{node}/{kind}/{vmid}/config" ["node", "kind", "vmid"] := by
    decide
  have hparams := (@ExpanderLaws.each _ hlaws _ (Guests.configRequest node kind vmid).params
    htakes).mp h
  obtain ⟨hnode, hkind, hvmid⟩ : IsSegment node ∧ IsSegment kind.pathSegment ∧
      IsSegment (toString vmid) := by simpa [Guests.configRequest] using hparams
  exact ⟨hnode, hkind, hvmid⟩

/-- A change whose request has accepted parameters is formed. -/
private theorem formed_task (hlaws : ExpanderLaws) {request : ApiRequest}
    (hmutates : request.Mutating)
    (htakes : Takes request.pathTemplate (request.params.map Prod.fst))
    (hparams : ∀ param ∈ request.params, IsSegment param.2) : (Change.task request).Formed :=
  ⟨request, rfl, hmutates, (hlaws.each htakes).mpr hparams⟩

private theorem formed_destroy (hlaws : ExpanderLaws) (hplaced : Placed node kind vmid)
    (hop : action.op = "destroy_guest" ∨ action.op = "destroy") :
    (action.change kind node vmid).Formed := by
  obtain ⟨hnode, -, hvmid⟩ := hplaced
  cases kind with
  | lxc =>
    have hchange : action.change .lxc node vmid =
        .task (Guests.destroyContainerRequest node vmid true) := by
      rcases hop with hop | hop <;> simp only [DestroyAction.change, hop]
    have htakes : Takes "/api2/json/nodes/{node}/lxc/{vmid}" ["node", "vmid"] := by decide
    rw [hchange]
    exact formed_task hlaws (by rintro ⟨⟩) htakes
      (by simp [Guests.destroyContainerRequest, hnode, hvmid])
  | qemu =>
    have hchange : action.change .qemu node vmid =
        .task (Guests.destroyVmRequest node vmid true) := by
      rcases hop with hop | hop <;> simp only [DestroyAction.change, hop]
    have htakes : Takes "/api2/json/nodes/{node}/qemu/{vmid}" ["node", "vmid"] := by decide
    rw [hchange]
    exact formed_task hlaws (by rintro ⟨⟩) htakes (by simp [Guests.destroyVmRequest, hnode, hvmid])

private theorem formed_snapshot (hlaws : ExpanderLaws) (hplaced : Placed node kind vmid)
    (hcomplete : Complete action)
    (hop : action.op = "delete_snapshot" ∨ action.op = "rollback_snapshot") :
    (action.change kind node vmid).Formed := by
  have hpresent : isPresent action.snapname = true := by
    have hmissing := hcomplete.present
    rcases hop with hop | hop <;> simpa [missingRequiredFields, hop] using hmissing
  obtain ⟨snapname, hname⟩ := exists_of_isPresent hpresent
  have hsegment : IsSegment snapname := hcomplete.snapname _ hname
  obtain ⟨hnode, hkind, hvmid⟩ := hplaced
  rcases hop with hop | hop
  · have hchange : action.change kind node vmid =
        .task (Guests.deleteSnapshotRequest node kind vmid snapname) := by
      simp only [DestroyAction.change, hop, hname]
    have htakes : Takes "/api2/json/nodes/{node}/{kind}/{vmid}/snapshot/{snapname}"
        ["node", "kind", "vmid", "snapname"] := by decide
    rw [hchange]
    exact formed_task hlaws (by rintro ⟨⟩) htakes
      (by simp [Guests.deleteSnapshotRequest, hnode, hkind, hvmid, hsegment])
  · have hchange : action.change kind node vmid =
        .task (Guests.rollbackSnapshotRequest node kind vmid snapname) := by
      simp only [DestroyAction.change, hop, hname]
    have htakes : Takes "/api2/json/nodes/{node}/{kind}/{vmid}/snapshot/{snapname}/rollback"
        ["node", "kind", "vmid", "snapname"] := by decide
    rw [hchange]
    exact formed_task hlaws (by rintro ⟨⟩) htakes
      (by simp [Guests.rollbackSnapshotRequest, hnode, hkind, hvmid, hsegment])

/-- A checked deletion of a stored volume is formed. -/
private theorem formed_volume (hlaws : ExpanderLaws) (hcomplete : Complete action)
    (hop : action.op = "delete_backup" ∨ action.op = "delete_iso") :
    (action.change kind node vmid).Formed := by
  obtain ⟨hmissing, hvalues, -, hstorage, hstorageNode⟩ := hcomplete
  have hpresent : isPresent action.storage = true ∧ isPresent action.volid = true ∧
      isPresent action.storageNode = true := by
    rcases hop with hop | hop <;> simpa [missingRequiredFields, hop] using hmissing
  obtain ⟨storage, hstorage'⟩ := exists_of_isPresent hpresent.1
  obtain ⟨volid, hvolid⟩ := exists_of_isPresent hpresent.2.1
  obtain ⟨storageNode, hnode'⟩ := exists_of_isPresent hpresent.2.2
  have hvalid := validateVolid_of_recheckValues hop hvolid hstorage' hvalues
  obtain ⟨path, hpath, hrequest⟩ := exists_volumeRequest hlaws (hstorageNode _ hnode')
    (hstorage _ hstorage') hvalid
  -- an id with a colon is no navigation
  have hid : volid ∉ ["", ".", ".."] := by
    obtain ⟨-, hcolon⟩ := deletable_of_validateVolidForOperation hvalid
    intro hmem
    simp only [List.mem_cons, List.not_mem_nil, or_false] at hmem
    rcases hmem with rfl | rfl | rfl <;> exact absurd hcolon (by decide)
  refine ⟨Guests.deleteVolumeRequest path volid, ?_, by rintro ⟨⟩, hlaws.expanded hpath hid⟩
  rcases hop with hop | hop <;> simpa [DestroyAction.change, hop, hstorage', hvolid, hnode']

private theorem formed_restore (hlaws : ExpanderLaws) (hplaced : Placed node kind vmid)
    (hcomplete : Complete action) (hop : action.op = "restore_backup") :
    (action.change kind node vmid).Formed := by
  have hpresent : isPresent action.volid = true := by
    simpa [missingRequiredFields, hop] using hcomplete.present
  obtain ⟨volid, hvolid⟩ := exists_of_isPresent hpresent
  have hchange : action.change kind node vmid = ⟨some (node, volid),
      .ok (Guests.restoreBackupRequest node kind vmid volid true), true⟩ := by
    simp only [DestroyAction.change, hop, hvolid]
  have htakes : Takes "/api2/json/nodes/{node}/{kind}" ["node", "kind"] := by decide
  rw [hchange]
  refine ⟨_, rfl, by rintro ⟨⟩, (hlaws.each htakes).mpr ?_⟩
  simp [Guests.restoreBackupRequest, hplaced.node, hplaced.kind]

private theorem formed_migrate (hlaws : ExpanderLaws) (hplaced : Placed node kind vmid)
    (hcomplete : Complete action) (hop : action.op = "migrate") :
    (action.change kind node vmid).Formed := by
  have hpresent : isPresent action.targetNode = true := by
    simpa [missingRequiredFields, hop] using hcomplete.present
  obtain ⟨targetNode, htarget⟩ := exists_of_isPresent hpresent
  have hchange : action.change kind node vmid = .task (Guests.migrateGuestRequest node kind vmid
      targetNode action.online action.withLocalDisks) := by
    simp only [DestroyAction.change, hop, htarget]
  have htakes : Takes "/api2/json/nodes/{node}/{kind}/{vmid}/migrate" ["node", "kind", "vmid"] := by
    decide
  obtain ⟨hnode, hkind, hvmid⟩ := hplaced
  rw [hchange]
  exact formed_task hlaws (by rintro ⟨⟩) htakes
    (by simp [Guests.migrateGuestRequest, hnode, hkind, hvmid])

private theorem formed_config (hlaws : ExpanderLaws) (hplaced : Placed node kind vmid)
    (hcomplete : Complete action) (hop : action.op = "update_vm_config") :
    (action.change kind node vmid).Formed := by
  have hpresent : action.config.any (fun config => !config.entries.isEmpty) = true := by
    simpa [missingRequiredFields, hop] using hcomplete.present
  obtain ⟨config, hconfig⟩ : ∃ config, action.config = some config := by
    cases hconfig : action.config with
    | none => simp [hconfig] at hpresent
    | some config => exact ⟨config, rfl⟩
  have hne : config.entries.isEmpty = false := by simpa [hconfig] using hpresent
  have hchange : action.change kind node vmid =
      .task (Guests.updateVmConfigRequest node vmid config.entries) := by
    simp only [DestroyAction.change, hop, hconfig, hne, Bool.false_eq_true, if_false]
  have htakes : Takes "/api2/json/nodes/{node}/qemu/{vmid}/config" ["node", "vmid"] := by decide
  rw [hchange]
  exact formed_task hlaws (by rintro ⟨⟩) htakes
    (by simp [Guests.updateVmConfigRequest, hplaced.node, hplaced.vmid])

/-- **A checked action has a request**: whatever the executor could refuse on its own, the checks
before the claim have refused. -/
theorem formed_change (hlaws : ExpanderLaws) {tool : String}
    (hconfig : (Guests.configRequest node kind vmid).Expandable)
    (htool : toolForOp action.op kind = some tool) (hrecheck : recheckAction action = .ok ()) :
    (action.change kind node vmid).Formed := by
  have hcomplete := complete_of_recheckAction hrecheck
  have hplaced := placed_of_expandable hlaws hconfig
  -- each operation that has a tool
  unfold toolForOp at htool
  split at htool
  · next hop => exact formed_destroy hlaws hplaced (.inl hop)
  · next hop => exact formed_destroy hlaws hplaced (.inr hop)
  · next hop => exact formed_snapshot hlaws hplaced hcomplete (.inl hop)
  · next hop => exact formed_snapshot hlaws hplaced hcomplete (.inr hop)
  · next hop => exact formed_volume hlaws hcomplete (.inl hop)
  · next hop => exact formed_volume hlaws hcomplete (.inr hop)
  · next hop => exact formed_restore hlaws hplaced hcomplete hop
  · next hop => exact formed_migrate hlaws hplaced hcomplete hop
  · next hop => exact formed_config hlaws hplaced hcomplete hop
  · cases htool

end Formed

/-! ### What becomes of a change -/

section Decided

variable {refused : Prop} {client : ProxmoxClient} {h : History Effect}

/-- The request of a change has **departed**, or it is the HTTP layer that refused it. -/
def Departed (refused : Prop) (h : History Effect) : Prop := ¬ Unsent h ∨ refused

/-- A change is **decided**: its request has departed, or it failed definitively. -/
def Decided {α : Type} (refused : Prop) (h : History Effect) (outcome : Except ProxmoxError α) :
    Prop :=
  Departed refused h ∨ ∃ error, outcome = .error error ∧ error.isDefinitive

omit [Externals] in
private theorem departed_of_mutating {name : String} {request : ApiRequest} {ticket : ℕ}
    (hrequest : request.Mutating) (hmem : ⟨.http (.dispatch name request), ticket⟩ ∈ h) :
    Departed refused h :=
  .inl fun hunsent => hunsent _ hmem hrequest

/-- A request that can be expanded departs. -/
theorem always_send_departed {request : ApiRequest} (hrequest : request.Mutating)
    (hexpand : request.Expandable) :
    Always (fun _ (op : Op) => op.Unclaiming)
      (fun after _ => Departed (client.RefusesUrl request) after) h (client.send request).run := by
  obtain ⟨url, hurl⟩ := hexpand.url client
  rw [ProxmoxClient.send, hurl]
  refine always_run_bind.mpr ((always_run_liftExcept _).mpr (always_run_bind.mpr
    ((always_run_liftExcept _).mpr ?_)))
  cases habsolute : Externals.absoluteUrl request.method url with
  | error error => exact .inr ⟨url, error, hurl, habsolute⟩
  | ok _ =>
    refine ⟨Op.unclaiming_http, fun ticket => ⟨Op.unclaiming_http, fun reply => ?_⟩⟩
    have hdeparted : Departed (client.RefusesUrl request) (⟨.http (.await ticket), reply⟩ ::
        ⟨.http (.dispatch client.name request), ticket⟩ :: h) :=
      departed_of_mutating hrequest (List.mem_cons_of_mem _ List.mem_cons_self)
    cases reply with
    | error error => exact hdeparted
    | ok response => exact (always_run_liftExcept _).mpr hdeparted

/-- The check of an archive's owner fails definitively. -/
private theorem always_requireBackupOwner_definitive {node volid : String} {vmid : UInt32} :
    Always (fun _ (op : Op) => op.Unclaiming)
      (fun _ outcome => ∀ error, outcome = .error error → error.isDefinitive) h
      (requireBackupOwner client node volid vmid).run := by
  rw [requireBackupOwner]
  refine always_run_bind.mpr (always_run_mapError.mpr (always_resolveBackupOwner.mono
    (fun _ _ hop => hop.unclaiming) fun h' outcome _ => ?_))
  cases outcome with
  | error error =>
    rintro _ ⟨⟩
    rfl
  | ok owner =>
    refine always_run_ensure.mpr ⟨fun _ error herror => ?_, fun _ error herror => ?_⟩
    · cases herror
    · obtain rfl := Except.error.inj herror
      rfl

/-- **Sending the requests of a change** decides it, once its request is formed and can be
expanded. -/
theorem always_changeRun_decided {change : Change} {request : ApiRequest} {vmid : UInt32}
    (hrequest : change.request = .ok request) (hmutates : request.Mutating)
    (hexpand : request.Expandable) :
    Always (fun _ (op : Op) => op.Unclaiming) (Decided (client.RefusesUrl request)) h
      (change.run client vmid).run := by
  obtain ⟨archive, outcome, namesTask⟩ := change
  obtain rfl : outcome = .ok request := hrequest
  have hsend (h' : History Effect) : Always (fun _ (op : Op) => op.Unclaiming)
      (Decided (client.RefusesUrl request)) h' (do
        let data ← client.send request
        if namesTask then liftM (Guests.upidFrom data)
        else return data.asStr.getD "" : ClientM String).run := by
    refine Always.run_bind (always_send_departed hmutates hexpand) (fun after data hdeparted => ?_)
      fun _ _ hdeparted => .inl hdeparted
    cases namesTask with
    | true => exact (always_run_liftExcept _).mpr (.inl hdeparted)
    | false => exact .inl hdeparted
  cases archive with
  | none => exact hsend h
  | some archive =>
    -- an owner that cannot be established fails definitively
    exact Always.run_bind always_requireBackupOwner_definitive (fun h' _ _ => hsend h')
      fun _ error hdefinitive => .inr ⟨error, rfl, hdefinitive error rfl⟩

/-- **Executing a checked action** decides the change, unless the HTTP layer refuses the URL of its
request. -/
theorem always_executeDestructive_decided (hlaws : ExpanderLaws) {action : DestroyAction}
    {kind : GuestType} {node tool : String} {vmid : UInt32}
    (hconfig : (Guests.configRequest node kind vmid).Expandable)
    (htool : toolForOp action.op kind = some tool) (hrecheck : recheckAction action = .ok ()) :
    Always (fun _ (op : Op) => op.Unclaiming)
      (Decided (client.RefusesChange action kind node vmid)) h
      (executeDestructive client action kind node vmid).run := by
  obtain ⟨request, hrequest, hmutates, hexpand⟩ := formed_change hlaws hconfig htool hrecheck
  rw [executeDestructive_eq_run]
  refine (always_changeRun_decided hrequest hmutates hexpand).mono (fun _ _ hop => hop)
    fun _ _ hdecided => hdecided.imp_left fun hdeparted => hdeparted.imp_right fun hrefuses => ?_
  exact ⟨request, hrequest, hrefuses⟩

end Decided

/-! ### What becomes of a claim -/

section Claims

/-- The call has written a claimed record as failed. -/
def SettledFailed (claimed : ChangeSet) (h : History Effect) : Prop :=
  ∃ reply, ⟨.coordinator (.updateChangeSet { claimed with state := .failed }), reply⟩ ∈ h

/-- No claimed record is **stranded**: its request has departed, or the record is settled. -/
def Unstranded (refused : Prop) (h : History Effect) : Prop :=
  ∀ id device claimed, ⟨.coordinator (.claimChangeSetForApply id device), .ok claimed⟩ ∈ h →
    Departed refused h ∨ SettledFailed claimed h

omit [Externals] in
theorem Unstranded.imp {refused refused' : Prop} {h : History Effect} (hu : Unstranded refused h)
    (himp : refused → refused') : Unstranded refused' h :=
  fun id device claimed hmem => (hu id device claimed hmem).imp_left (Or.imp_right himp)

/-- Whatever the call has claimed is this record. -/
def OnlyClaimed (claimed : ChangeSet) (h : History Effect) : Prop :=
  ∀ id device claimed', ⟨.coordinator (.claimChangeSetForApply id device), .ok claimed'⟩ ∈ h →
    claimed' = claimed

/-- The call has claimed nothing. -/
def Unclaimed (h : History Effect) : Prop :=
  ∀ id device claimed, ⟨.coordinator (.claimChangeSetForApply id device), .ok claimed⟩ ∉ h

variable {h h' : History Effect} {claimed : ChangeSet}

omit [Externals] in
theorem Unclaimed.cons (hu : Unclaimed h) {op : Op} {reply : Effect.Reply op}
    (hop : op.Unclaiming) : Unclaimed (⟨op, reply⟩ :: h) := by
  rintro id device claimed hmem
  rcases List.mem_cons.mp hmem with heq | hmem
  · exact hop id device (congrArg Event.op heq).symm
  · exact hu id device claimed hmem

omit [Externals] in
theorem OnlyClaimed.cons (ho : OnlyClaimed claimed h) {op : Op} {reply : Effect.Reply op}
    (hop : op.Unclaiming) : OnlyClaimed claimed (⟨op, reply⟩ :: h) := by
  rintro id device claimed' hmem
  rcases List.mem_cons.mp hmem with heq | hmem
  · exact absurd (congrArg Event.op heq).symm (hop id device)
  · exact ho id device claimed' hmem

omit [Externals] in
theorem Unclaimed.unstranded {refused : Prop} (hu : Unclaimed h) : Unstranded refused h :=
  fun id device claimed hmem => absurd hmem (hu id device claimed)

omit [Externals] in
theorem Departed.mono {refused : Prop} (hd : Departed refused h) (hh : h <:+ h') :
    Departed refused h' :=
  hd.imp_left fun hsent hunsent => hsent fun event hevent => hunsent event (hh.subset hevent)

omit [Externals] in
theorem Departed.unstranded {refused : Prop} (hd : Departed refused h) : Unstranded refused h :=
  fun _ _ _ _ => .inl hd

omit [Externals] in
theorem OnlyClaimed.unstranded {refused : Prop} (ho : OnlyClaimed claimed h)
    (hsettled : SettledFailed claimed h) : Unstranded refused h := by
  intro id device claimed' hmem
  rw [ho id device claimed' hmem]
  exact .inr hsettled

omit [Externals] in
/-- Once a request has departed, nothing strands. -/
private theorem always_unstranded_of_departed {refused : Prop} {α : Type} (hd : Departed refused h)
    (p : ToolM α) : Always (fun _ _ => True) (fun after _ => Unstranded refused after) h p.run :=
  (always_suffix p.run h).mono (fun _ _ _ => trivial) fun _ _ hh => (hd.mono hh).unstranded

variable {call : ApplyCall}

/-- Recording the intent settles the claimed record when it fails. -/
private theorem always_recordIntent_settled (ho : OnlyClaimed claimed h) :
    Always (fun _ _ => True) (fun after outcome => OnlyClaimed claimed after ∧
      ∀ error, outcome = .error error → SettledFailed claimed after) h
      (call.recordIntent claimed).run := by
  rw [ApplyCall.recordIntent]
  cases call.server.evidence with
  | false => exact ⟨ho, by rintro _ ⟨⟩⟩
  | true =>
    refine ⟨trivial, fun reply => ?_⟩
    have ho₁ : OnlyClaimed claimed (⟨.evidence (.applyIntent call.requestId claimed.id
        claimed.device call.principal), reply⟩ :: h) := ho.cons Op.unclaiming_evidence
    cases reply with
    | ok value => exact ⟨ho₁, by rintro _ ⟨⟩⟩
    | error error =>
      refine ⟨trivial, fun settled => ?_⟩
      cases settled <;>
        exact ⟨ho₁.cons (by rintro _ _ ⟨⟩), fun _ _ => ⟨_, List.mem_cons_self⟩⟩

/-- A definitive failure settles the claimed record. -/
private theorem always_settleFailure {refused : Prop} (ho : OnlyClaimed claimed h)
    {error : ProxmoxError}
    {α : Type} (hdecided : Decided refused h (.error error : Except ProxmoxError α)) :
    Always (fun _ _ => True) (fun after outcome => Unstranded refused after ∧
        ∀ value, outcome = .ok value → Departed refused after) h (do
      onlyIf error.isDefinitive do
        call.receipt claimed false error.toText
        ApplyCall.settle { claimed with state := .failed }
      throw (toolError error.toText) : ToolM (ChangeSet × α)).run := by
  have hsettle {h : History Effect} (ho : OnlyClaimed claimed h) :
      Always (fun _ _ => True) (fun after _ => Unstranded refused after) h
        (ApplyCall.settle { claimed with state := .failed }).run :=
    ⟨trivial, fun reply => (ho.cons (by nofun)).unstranded ⟨reply, List.mem_cons_self⟩⟩
  cases hdefinitive : error.isDefinitive with
  | false =>
    refine ⟨Departed.unstranded ?_, nofun⟩
    rcases hdecided with hdeparted | ⟨error', heq, hdefinitive'⟩
    · exact hdeparted
    · obtain rfl := Except.error.inj heq
      simp [hdefinitive] at hdefinitive'
  | true =>
    refine Always.run_bind (R := fun after _ => Unstranded refused after) ?_
      (fun _ _ hafter => ⟨hafter, nofun⟩) fun _ _ hafter => ⟨hafter, nofun⟩
    rw [onlyIf, if_pos rfl, ApplyCall.receipt]
    cases call.server.evidence with
    | false => exact hsettle ho
    | true => exact ⟨trivial, fun reply => hsettle (ho.cons Op.unclaiming_evidence)⟩

/-- **Running an apply** strands no claim when its change is decided. -/
theorem always_run_unstranded {refused : Prop} {record : ChangeSet} {client : ProxmoxClient}
    {send : ClientM String} {extra : List (String × Json)} (hu : Unclaimed h)
    (hsend : ∀ h', Always (fun _ (op : Op) => op.Unclaiming) (Decided refused) h' send.run) :
    Always (fun _ _ => True) (fun after _ => Unstranded refused after) h (do
      let (claimed, upid) ← call.run record send
      call.follow client claimed upid extra : ToolM Json).run := by
  -- a run that goes on has sent its change
  refine Always.run_bind (R := fun after outcome => Unstranded refused after ∧
      ∀ value, outcome = .ok value → Departed refused after) ?_
    (fun h' result hR => always_unstranded_of_departed (hR.2 result rfl) _) fun _ _ hR => hR.1
  refine ⟨trivial, fun reply => ?_⟩
  cases reply with
  | error error =>
    refine ⟨fun id device claimed hmem => ?_, nofun⟩
    rcases List.mem_cons.mp hmem with heq | hmem
    · cases heq
    · exact absurd hmem (hu id device claimed)
  | ok claimed =>
    have ho : OnlyClaimed claimed (⟨.coordinator (.claimChangeSetForApply record.id record.device),
        .ok claimed⟩ :: h) := by
      intro id device claimed' hmem
      rcases List.mem_cons.mp hmem with heq | hmem
      · cases heq
        rfl
      · exact absurd hmem (hu id device claimed')
    -- an intent that cannot be recorded settles the record
    refine Always.run_bind (always_recordIntent_settled ho) (fun h₁ _ hintent => ?_)
      fun h₁ error hintent => ⟨hintent.1.unstranded (hintent.2 error rfl), nofun⟩
    -- the change itself claims nothing
    have hkept := (hsend h₁).keeps (P := OnlyClaimed claimed)
      (fun _ _ _ hop ho => ho.cons hop) hintent.1
    refine Always.run_bind (R := fun after outcome => ∃ sent, outcome = .ok sent ∧
        Decided refused after sent ∧ OnlyClaimed claimed after) (always_run_attempt.mpr
      (hkept.mono (fun _ _ _ => trivial) fun _ outcome hdecided => ⟨outcome, rfl, hdecided⟩))
      (fun h₂ outcome hR => ?_) fun _ _ hR => nomatch hR.choose_spec.1
    obtain ⟨_, ⟨⟩, hdecided, ho₂⟩ := hR
    cases outcome with
    | ok upid =>
      have hdeparted : Departed refused h₂ := by
        rcases hdecided with hdeparted | ⟨error, heq, -⟩
        · exact hdeparted
        · cases heq
      exact ⟨hdeparted.unstranded, fun _ _ => hdeparted⟩
    | error error => exact always_settleFailure ho₂ hdecided

end Claims

/-! ### Whole applies -/

section Checks

variable {refused : History Effect → Prop} {α β : Type} {h : History Effect}

omit [Externals] in
/-- Code before the claim is passed by what it ensures; its failure leaves nothing claimed. -/
private theorem unstranded_bind {G : History Effect → Op → Prop}
    {R : History Effect → α → Prop} {p : ToolM α} {f : α → ToolM β} (hp : Ensures G R h p)
    (hG : ∀ h op, G h op → op.Unclaiming)
    (hu : Unclaimed h) (hf : ∀ h' value, h <:+ h' → R h' value → Unclaimed h' →
      Always (fun _ _ => True) (fun after _ => Unstranded (refused after) after) h'
        (f value).run) :
    Always (fun _ _ => True) (fun after _ => Unstranded (refused after) after) h
      (p >>= f).run := by
  have hkept := Always.keeps (P := Unclaimed) hp (fun h op _ hop hu => hu.cons (hG h op hop)) hu
  refine Always.run_bind ((Always.frame hkept).mono (fun _ _ _ => trivial) fun _ _ hR => hR)
    (fun h' value hR => ?_) fun h' error hR => hR.1.2.unstranded
  exact hf h' value hR.2 (hR.1.1 value rfl) hR.1.2

omit [Externals] in
/-- A check before the claim fails without an effect. -/
private theorem unstranded_liftExcept {outcome : Except ToolResult α} {f : α → ToolM β}
    (hu : Unclaimed h) (hf : ∀ value, outcome = .ok value →
      Always (fun _ _ => True) (fun after _ => Unstranded (refused after) after) h
        (f value).run) :
    Always (fun _ _ => True) (fun after _ => Unstranded (refused after) after) h
      (liftM outcome >>= f).run := by
  cases outcome with
  | ok value => exact hf value rfl
  | error error => exact hu.unstranded

omit [Externals] in
private theorem unstranded_ensure {condition : Bool} {error : ToolResult} {f : Unit → ToolM β}
    (hu : Unclaimed h)
    (hf : Always (fun _ _ => True) (fun after _ => Unstranded (refused after) after) h
      (f ()).run) :
    Always (fun _ _ => True) (fun after _ => Unstranded (refused after) after) h
      (ensure condition error >>= f).run := by
  cases condition with
  | true => exact hf
  | false => exact hu.unstranded

omit [Externals] in
private theorem unstranded_required {value : Option α} {error : ToolResult} {f : α → ToolM β}
    (hu : Unclaimed h) (hf : ∀ a, value = some a →
      Always (fun _ _ => True) (fun after _ => Unstranded (refused after) after) h (f a).run) :
    Always (fun _ _ => True) (fun after _ => Unstranded (refused after) after) h
      (required value error >>= f).run := by
  cases value with
  | some a => exact hf a rfl
  | none => exact hu.unstranded

end Checks

namespace ProxmoxServer

/-- The HTTP layer **refuses the change** of an apply: the URL of the one request that the action
stored in the record asks for, on the guest as the call has listed it since it dropped the
listing. -/
def RefusesChange (server : ProxmoxServer) (args : ChangeSetArgs) (h : History Effect) : Prop :=
  ∃ record action guest client,
    ⟨.coordinator (.changeSet args.changeSetId args.device), .ok record⟩ ∈ h ∧
    record.actions.head?.bind DestroyAction.fromJson = some action ∧
    Observed True args.cluster args.vmid (some guest) h ∧
    server.clientNamed args.cluster = some client ∧
    client.RefusesChange action guest.type guest.node args.vmid

/-- **No apply strands a claim.** -/
theorem always_applyChangeSet_unstranded (hlaws : ExpanderLaws) (server : ProxmoxServer)
    (caller : Option CallerCtx) (args : ChangeSetArgs) :
    Always (fun _ _ => True) (fun after _ => Unstranded (server.RefusesChange args after) after) []
      (server.applyChangeSet caller args).run := by
  have hu : Unclaimed [] := fun _ _ _ => List.not_mem_nil
  refine unstranded_liftExcept hu fun _ _ => unstranded_liftExcept hu fun client hclient => ?_
  obtain ⟨id, cluster, vmid⟩ := args
  obtain rfl : client.name = cluster := name_of_clientFor hclient
  have hrecord : Ensures (fun _ (op : Op) => op.Unclaiming) (fun h' record =>
      ⟨.coordinator (.changeSet id (ChangeSetArgs.mk id client.name vmid).device), .ok record⟩ ∈ h')
      [] (recordOf id (ChangeSetArgs.mk id client.name vmid).device) := by
    refine Ensures.request (by nofun) fun reply => ensures_liftExcept.mpr fun record hread => ?_
    rw [eq_ok_of_mapError hread]
    exact List.mem_cons_self
  refine unstranded_bind hrecord (fun _ _ hop => hop) hu fun h₁ record _ hread hu₁ =>
    unstranded_ensure hu₁ (unstranded_liftExcept hu₁ fun grant _ => ?_)
  have hquiet (h : History Effect) (op : Op) (hop : Quiet (fun _ _ _ => True) h op) :
      op.Unclaiming := hop.unclaiming
  refine unstranded_bind (ensures_invalidateCluster client.name h₁) hquiet hu₁
    fun h₂ _ hh₂ hdropped hu₂ => ?_
  refine unstranded_bind (ensures_authorizeWithOverride True True (fun _ _ => trivial)
    (fun _ => hdropped) (fun _ _ => rfl) fun _ => rfl) hquiet hu₂
    fun h₃ verdict hh₃ hverdict hu₃ => ?_
  obtain ⟨hclient', -, -, -, _, -, hauthorized⟩ := hverdict
  refine unstranded_bind ensures_readGuestState_expandable (fun _ _ hop => hop) hu₃
    fun h₄ state hh₄ hstate hu₄ => ?_
  obtain ⟨hnode, hexpand⟩ := hstate
  refine unstranded_ensure hu₄ (unstranded_ensure hu₄ (unstranded_liftExcept hu₄
    fun action haction => unstranded_required hu₄ fun tool htool => unstranded_liftExcept hu₄
    fun _ _ => unstranded_liftExcept hu₄ fun _ _ => unstranded_liftExcept hu₄
    fun _ hrecheck => ?_))
  have hguest := hauthorized.admitted.guest_vmid
  rw [hguest] at hexpand
  have hdecided (h' : History Effect) := @always_executeDestructive_decided _ client h' hlaws _ _ _
    _ _ hexpand htool (eq_ok_of_mapError hrecheck)
  -- what the HTTP layer may still refuse is the change of the stored action
  rw [← hnode] at hdecided
  refine (Always.frame (always_run_unstranded hu₄ hdecided)).mono (fun _ _ _ => trivial)
    fun after outcome hafter => hafter.1.imp fun hrefuses => ?_
  have hsuffix : h₃ <:+ after := hh₄.trans hafter.2
  refine ⟨record, action, verdict.authorization.guest, client, ?_, storedAction_eq_ok.mp haction,
    ?_, clientNamed_of_clientFor hclient, hnode ▸ hrefuses⟩
  · exact (hh₂.trans (hh₃.trans hsuffix)).subset hread
  · exact hclient' ▸ hauthorized.admitted.observed.mono hsuffix (fun h => h)

end ProxmoxServer

/-- **A claim is never stranded by a local refusal.** The executor decides every action that passed
the checks before the claim, and an apply leaves no claimed record with nothing sent and nothing
settled, unless the HTTP layer refuses the URL of the request that just this action asks for. -/
theorem applyChangeSet_decided (hlaws : ExpanderLaws) :
    (∀ (client : ProxmoxClient) (action : DestroyAction) (kind : GuestType) (node tool : String)
        (vmid : UInt32) (h : History Effect), (Guests.configRequest node kind vmid).Expandable →
      toolForOp action.op kind = some tool → recheckAction action = .ok () →
      Always (fun _ (op : Op) => op.Unclaiming)
        (Decided (client.RefusesChange action kind node vmid)) h
        (executeDestructive client action kind node vmid).run) ∧
    (∀ (server : ProxmoxServer) (caller : Option CallerCtx) (args : ChangeSetArgs),
      Always (fun _ _ => True) (fun after _ => Unstranded (server.RefusesChange args after) after)
        [] (server.applyChangeSet caller args).run) :=
  ⟨fun _ _ _ _ _ _ _ hconfig htool hrecheck =>
      always_executeDestructive_decided hlaws hconfig htool hrecheck,
    ProxmoxServer.always_applyChangeSet_unstranded hlaws⟩

/-- Remove a snapshot of guest 100. -/
def snapshotRemoval : DestroyAction where
  op := "delete_snapshot"
  cluster := "pve"
  vmid := 100
  snapname := some "before-upgrade"
  storage := none
  volid := none
  storageNode := none
  targetNode := none
  online := false
  withLocalDisks := false
  config := none

/-- The client of a cluster. -/
def snapshotClient : ProxmoxClient := ⟨"pve", ⟨"https://pve:8006", [], []⟩⟩

omit [Externals] in
theorem applyChangeSet_decided_snapshotRemoval :
    Always (fun _ (op : Op) => op.Unclaiming)
      (Decided (@ProxmoxClient.RefusesChange Externals.guarded snapshotClient snapshotRemoval .lxc
        "pve1" 100)) []
      (@executeDestructive Externals.guarded snapshotClient snapshotRemoval .lxc "pve1" 100).run ∧
    Always (fun _ _ => True) (fun after _ => Unstranded (@ProxmoxServer.RefusesChange
        Externals.guarded ⟨[snapshotClient], [], false, true, .ok ()⟩ ⟨"cs-1", "pve", 100⟩ after)
        after) []
      (@ProxmoxServer.applyChangeSet Externals.guarded
        ⟨[snapshotClient], [], false, true, .ok ()⟩ none ⟨"cs-1", "pve", 100⟩).run := by
  let _ : Externals := Externals.guarded
  have hplain : ∀ param ∈ (Guests.configRequest "pve1" .lxc 100).params,
      isPlainSegment param.2 = true := by decide
  have hexpand : (Guests.configRequest "pve1" .lxc 100).Expandable :=
    (@ExpanderLaws.each _ expanderLaws_guarded _ (Guests.configRequest "pve1" .lxc 100).params
      (by decide)).mpr fun param hmem => isSegment_guarded.mpr (hplain param hmem)
  have hsegments : recheckSegments [("snapname", snapshotRemoval.snapname),
      ("storage", snapshotRemoval.storage), ("storage_node", snapshotRemoval.storageNode)] =
      .ok () := by
    refine recheckSegments_eq_ok_iff.mpr fun field value hmem => isSegment_guarded.mpr ?_
    obtain ⟨-, rfl⟩ : field = "snapname" ∧ value = "before-upgrade" := by
      simpa [snapshotRemoval] using hmem
    decide
  have hrecheck : recheckAction snapshotRemoval = .ok () :=
    recheckAction_eq_ok_iff.mpr ⟨rfl, rfl, hsegments⟩
  exact ⟨(applyChangeSet_decided expanderLaws_guarded).1 snapshotClient snapshotRemoval .lxc "pve1"
    "delete_snapshot" 100 [] hexpand rfl hrecheck,
    (applyChangeSet_decided expanderLaws_guarded).2 _ _ _⟩

end ProxmoxMcp
