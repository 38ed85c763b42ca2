import ProxmoxMcp.Server.Read

/-!
# What a guest listing shows

`get_vms` and `get_containers` filter a listing by the caller's grant, and a read of one guest
authorizes the caller for it. The two read the same entries the same way (`parseGuest_redacted`),
but they ask the grant different questions: the filter asks for the **scope** only, and not even for
that when the scope looks unrestricted, whereas `authorize` asks for the scope and the read
**action**. `listing_agrees_iff` says for which grants and guests the answers are the same.
-/

namespace ProxmoxMcp

open Interaction Text
open Program hiding bind

variable [Externals]

/-! ### Redaction leaves what a guest is read from -/

private theorem redactItems_eq_map (items : List Json) :
    redactItems items = items.map redactFreeTextFields := by
  induction items with
  | nil => rfl
  | cons item rest ih => rw [redactItems, ih, List.map_cons]

private theorem lookup_redactMembers {key : String} (hkey : key ∉ freeTextKeys)
    (members : List (String × Json)) :
    (redactMembers members).lookup key = (members.lookup key).map redactFreeTextFields := by
  induction members with
  | nil => rfl
  | cons member rest ih =>
    obtain ⟨name, value⟩ := member
    by_cases hname : key = name
    · subst hname
      cases value <;> simp [redactMembers, redactFreeTextFields, hkey]
    · have hne : (key == name) = false := beq_false_of_ne hname
      cases value <;> simp [redactMembers, List.lookup_cons, hne, ih]

/-- Outside the free text keys, redaction changes no text and no number. -/
private theorem getStr_redactFreeTextFields {key : String} (hkey : key ∉ freeTextKeys)
    (entry : Json) :
    (redactFreeTextFields entry).getStr key = entry.getStr key := by
  cases entry with
  | object members =>
    simp only [redactFreeTextFields, Json.getStr, Json.get_object, lookup_redactMembers hkey]
    cases members.lookup key with
    | none => rfl
    | some value => cases value <;> rfl
  | _ => rfl

private theorem getU64_redactFreeTextFields {key : String} (hkey : key ∉ freeTextKeys)
    (entry : Json) :
    (redactFreeTextFields entry).getU64 key = entry.getU64 key := by
  cases entry with
  | object members =>
    simp only [redactFreeTextFields, Json.getU64, Json.get_object, lookup_redactMembers hkey]
    cases members.lookup key with
    | none => rfl
    | some value => cases value <;> rfl
  | _ => rfl

/-- The guest of an entry is the guest of the redacted entry. -/
theorem parseGuest_redacted (cluster : String) (entry : Json) :
    parseGuest cluster (redactFreeTextFields entry) = parseGuest cluster entry := by
  have hstr (key : String) (hkey : key ∉ freeTextKeys) := getStr_redactFreeTextFields hkey entry
  have hu64 (key : String) (hkey : key ∉ freeTextKeys) := getU64_redactFreeTextFields hkey entry
  simp only [parseGuest, guestTypeOf, hstr "type" (by decide), hu64 "vmid" (by decide),
    hstr "node" (by decide), hstr "name" (by decide), hstr "status" (by decide),
    hstr "tags" (by decide), hstr "pool" (by decide)]

/-! ### The two listings -/

/-- The read behind `get_vms`. -/
def getVms : ReadTool where
  name := "get_vms"
  path := "/api2/json/cluster/resources"
  query := []
  typeFilter := some .qemu
  guestListing := true

/-- The read behind `get_containers`. -/
def getContainers : ReadTool where
  name := "get_containers"
  path := "/api2/json/cluster/resources"
  query := []
  typeFilter := some .lxc
  guestListing := true

/-- The read that lists guests of a type. -/
def listingTool : GuestType → ReadTool
  | .qemu => getVms
  | .lxc => getContainers

/-- A guest **appears** in the listing of its type that the caller gets for these entries. -/
def Appears (caller : Option CallerCtx) (entries : List Json) (cluster : String)
    (guest : ResolvedGuest) : Prop :=
  ∃ items, filterAnswer (listingTool guest.type) caller (.array entries) = .ok (.array items) ∧
    ∃ item ∈ items, (parseGuest cluster item).map ResolvedGuest.vmid = some guest.vmid

omit [Externals] in
/-- The type of a guest is the one its entry names. -/
private theorem getStr_type_of_parseGuest {cluster : String} {entry : Json} {guest : ResolvedGuest}
    (h : parseGuest cluster entry = some guest) :
    entry.getStr "type" = some guest.type.pathSegment := by
  simp only [parseGuest, Option.bind_eq_bind, Option.bind_eq_some_iff] at h
  obtain ⟨type, htype, vmid, -, -, -, node, -, hguest⟩ := h
  obtain rfl := Option.some.inj hguest
  simp only [guestTypeOf] at htype
  split at htype
  · next hname => exact hname.trans (congrArg _ (Option.some.inj htype ▸ rfl))
  · next hname => exact hname.trans (congrArg _ (Option.some.inj htype ▸ rfl))
  · cases htype

omit [Externals] in
/-- The facts the filter reads are those of the guest. -/
private theorem parseResourceGuest_eq (cluster : String) (entry : Json) :
    parseResourceGuest entry = (parseGuest cluster entry).map ResolvedGuest.facts := by
  simp only [parseResourceGuest, parseGuest, Option.bind_eq_bind, Option.map_bind,
    Function.comp_def]
  rfl

omit [Externals] in
/-- A listing is read by storing its guests one after the other. -/
theorem parseGuests_eq_foldl (cluster : String) (entries : List Json) :
    parseGuests cluster entries =
      (entries.filterMap (parseGuest cluster)).foldl GuestMap.insert .empty := by
  rw [parseGuests, List.foldl_filterMap]
  congr 1
  funext guests entry
  cases parseGuest cluster entry <;> rfl

omit [Externals] in
/-- Storing guests with other vmids leaves what is found under a vmid. -/
private theorem find_foldl_insert_of_ne {vmid : UInt32} {guests : List ResolvedGuest}
    (acc : GuestMap) (h : ∀ guest ∈ guests, guest.vmid ≠ vmid) :
    (guests.foldl GuestMap.insert acc) vmid = acc vmid := by
  induction guests generalizing acc with
  | nil => rfl
  | cons guest guests ih =>
    obtain ⟨hguest, hguests⟩ := List.forall_mem_cons.mp h
    rw [List.foldl_cons, ih _ hguests]
    exact if_neg hguest.symm

omit [Externals] in
/-- Among guests with distinct vmids each is found under its own. -/
private theorem find_foldl_insert {guests : List ResolvedGuest} {guest : ResolvedGuest}
    (acc : GuestMap)
    (hmem : guest ∈ guests) (hdistinct : guests.Pairwise fun a b => a.vmid ≠ b.vmid) :
    (guests.foldl GuestMap.insert acc) guest.vmid = some guest := by
  induction guests generalizing acc with
  | nil => cases hmem
  | cons first guests ih =>
    obtain ⟨hfirst, hrest⟩ := List.pairwise_cons.mp hdistinct
    rw [List.foldl_cons]
    rcases List.mem_cons.mp hmem with rfl | hmem
    · rw [find_foldl_insert_of_ne _ fun other hother => (hfirst other hother).symm]
      exact if_pos rfl
    · exact ih _ hmem hrest

/-! ### Appearing -/

/-- The two questions the filter asks of the grant. -/
def ProxmoxGrant.lists (grant : ProxmoxGrant) (guest : ResolvedGuest) : Prop :=
  grant.isUnrestrictedGuestScope ∨ grant.allowsGuest guest.facts

/-- What the caller gets of the entries: those of the type that the filter lets through. -/
private theorem filterAnswer_listing {caller : Option CallerCtx} {grant : ProxmoxGrant}
    (kind : GuestType) (hgrant : resolveGrant caller = .ok grant) (entries : List Json) :
    filterAnswer (listingTool kind) caller (.array entries) = .ok (.array
      (((entries.filter fun entry => entry.getStr "type" == some kind.pathSegment).filter
        fun entry => grant.isUnrestrictedGuestScope ||
          ((parseResourceGuest entry).any grant.allowsGuest)).map redactFreeTextFields)) := by
  cases hunrestricted : grant.isUnrestrictedGuestScope with
  | true =>
    cases kind <;> simp [filterAnswer, listingTool, getVms, getContainers, retain, hgrant,
      hunrestricted, redactFreeTextFields, redactItems_eq_map, bind, Except.bind, pure, Except.pure]
  | false =>
    cases kind <;> simp [filterAnswer, listingTool, getVms, getContainers, retain, hgrant,
      hunrestricted, redactFreeTextFields, redactItems_eq_map, bind, Except.bind, pure, Except.pure]
    all_goals
      refine congrArg _ (List.filter_congr fun entry _ => ?_)
      cases parseResourceGuest entry <;> rfl

/-- **Appearing**: a guest of the entries appears exactly when the grant lists it. -/
theorem appears_iff {caller : Option CallerCtx} {grant : ProxmoxGrant} {entries : List Json}
    {cluster : String} {guest : ResolvedGuest} (hgrant : resolveGrant caller = .ok grant)
    (hmem : guest ∈ entries.filterMap (parseGuest cluster))
    (hdistinct : (entries.filterMap (parseGuest cluster)).Pairwise fun a b => a.vmid ≠ b.vmid) :
    Appears caller entries cluster guest ↔ grant.lists guest := by
  constructor
  · rintro ⟨items, hitems, item, hitem, hvmid⟩
    rw [filterAnswer_listing guest.type hgrant] at hitems
    obtain rfl := Json.array.inj (Except.ok.inj hitems)
    obtain ⟨entry, hentry, rfl⟩ := List.mem_map.mp hitem
    obtain ⟨hentry, hscope⟩ := List.mem_filter.mp hentry
    rw [parseGuest_redacted] at hvmid
    obtain ⟨found, hfound, hvmid⟩ := Option.map_eq_some_iff.mp hvmid
    -- an item is shown under its number, and the numbers are distinct
    obtain rfl : found = guest := by
      have hfound' := find_foldl_insert .empty (List.mem_filterMap.mpr ⟨entry,
        (List.mem_filter.mp hentry).1, hfound⟩) hdistinct
      have hguest := find_foldl_insert .empty hmem hdistinct
      rw [hvmid, hguest] at hfound'
      exact (Option.some.inj hfound').symm
    rw [parseResourceGuest_eq cluster, hfound] at hscope
    exact (Bool.or_eq_true _ _).mp hscope
  · intro hlists
    obtain ⟨entry, hentry, hguest⟩ := List.mem_filterMap.mp hmem
    refine ⟨_, filterAnswer_listing guest.type hgrant entries, redactFreeTextFields entry,
      List.mem_map.mpr ⟨entry, List.mem_filter.mpr ⟨List.mem_filter.mpr ⟨hentry, ?_⟩, ?_⟩, rfl⟩, ?_⟩
    · exact beq_iff_eq.mpr (getStr_type_of_parseGuest hguest)
    · rw [parseResourceGuest_eq cluster, hguest]
      exact (Bool.or_eq_true _ _).mpr hlists
    · rw [parseGuest_redacted, hguest]
      rfl

/-! ### Reading -/

/-- Whether a read of the guest is authorized. -/
def ProxmoxGrant.reads (grant : ProxmoxGrant) (guest : ResolvedGuest) : Prop :=
  grant.allowsGuest guest.facts ∧ grant.allowsAction .read

omit [Externals] in
/-- Protection holds no read back. -/
private theorem isOk_authorizeResolved_read {config : Cluster} {cluster : String} {vmid : UInt32}
    {grant : ProxmoxGrant} {guest : ResolvedGuest} :
    (authorizeResolved config cluster vmid grant .read guest).isOk ↔ grant.reads guest := by
  simp only [authorizeResolved]
  by_cases hscope : grant.allowsGuest guest.facts
  · by_cases htier : grant.allowsAction Intent.read.tier.action
    · rw [dif_pos hscope, dif_pos htier, dif_neg fun hheld => absurd hheld.1 (by decide)]
      exact iff_of_true rfl ⟨hscope, htier⟩
    · rw [dif_pos hscope, dif_neg htier]
      exact iff_of_false Bool.false_ne_true fun hreads => htier hreads.2
  · rw [dif_neg hscope]
    exact iff_of_false Bool.false_ne_true fun hreads => hscope hreads.1

/-- What happened last was no answer of the index. -/
def Unanswered (h : History Effect) : Prop :=
  ∃ event older, h = event :: older ∧
    (event.op = .index .loadGeneration ∨ ∃ sent, event.op = .http sent)

theorem Unanswered.not_answered {cluster : String} {vmid : UInt32} {before after : History Effect}
    {origin : Origin} {guest : Option ResolvedGuest} (hu : Unanswered after) :
    ¬ Answered cluster vmid before after origin guest := by
  intro hanswered
  obtain ⟨event, older, rfl, hevent⟩ := hu
  cases hanswered <;> simp at hevent

/-- A resolution that was answered came to what the answer says. -/
private theorem always_resolve_answered (client : ProxmoxClient) (vmid : UInt32)
    (h : History Effect) :
    Always (fun _ _ => True) (fun after outcome => ∀ origin guest,
        Answered client.name vmid h after origin guest → outcome.toOption = guest) h
      (resolve client client.name vmid).run := by
  refine ⟨trivial, fun hit => ?_⟩
  cases hit with
  | some hit =>
    intro origin guest hanswered
    have hseen := hanswered.lastSeen_eq
    simpa [lastSeen, Except.toOption] using hseen
  | none =>
    refine ⟨trivial, fun generation => ?_⟩
    have hhttp {h : History Effect} : Always (fun _ (op : Op) => ∃ sent, op = .http sent)
        (fun _ _ => True) h (fetchGuests client client.name).run :=
      Always.run_bind (R := fun _ _ => True) (ProxmoxClient.always_send (fun _ _ => trivial)
        ⟨_, rfl⟩ (fun _ => ⟨_, rfl⟩) fun _ _ => trivial)
        (fun _ _ _ => (always_run_liftExcept _).mpr trivial) fun _ _ _ => trivial
    have hfetch {h : History Effect} (hu : Unanswered h) : Always (fun _ _ => True)
        (fun after _ => Unanswered after) h (fetchGuests client client.name).run :=
      (hhttp.keeps (P := Unanswered) (fun h op _ hop _ => ⟨_, h, rfl, .inr hop⟩) hu).mono
        (fun _ _ _ => trivial) fun _ _ hkept => hkept.2
    refine Always.run_bind (hfetch ⟨_, _, rfl, .inl rfl⟩)
      (fun after guests _ => ⟨trivial, fun _ => ?_⟩)
      fun after error hu origin guest hanswered => absurd hanswered hu.not_answered
    refine always_run_required.mpr ⟨fun found hfound origin guest hanswered => ?_,
      fun hnone origin guest hanswered => ?_⟩
    all_goals
      have hseen := hanswered.lastSeen_eq
      simp_all [lastSeen, Except.toOption]

/-- **Reading**: an authorization that is answered with a guest succeeds exactly when the grant
reads it. -/
theorem always_authorize_read (client : ProxmoxClient) (vmid : UInt32) (grant : ProxmoxGrant)
    (guest : ResolvedGuest) (h : History Effect) :
    Always (fun _ _ => True) (fun after outcome =>
        (∃ origin, Answered client.name vmid h after origin (some guest)) →
          (outcome.isOk ↔ grant.reads guest)) h
      (authorize client client.name vmid grant .read).run := by
  refine Always.run_bind (R := fun after outcome => ∃ resolved, outcome = .ok resolved ∧
      ∀ origin guest, Answered client.name vmid h after origin guest → resolved.toOption = guest)
    (always_run_attempt.mpr ((always_resolve_answered client vmid h).mono (fun _ _ hop => hop)
      fun _ outcome hanswered => ⟨outcome, rfl, hanswered⟩))
    (fun after resolved hR => ?_) fun _ _ hR => nomatch hR.choose_spec.1
  obtain ⟨_, ⟨⟩, hresolved⟩ := hR
  cases resolved with
  | ok found =>
    refine (always_run_liftExcept _).mpr ?_
    rintro ⟨origin, hanswered⟩
    obtain rfl : found = guest := Option.some.inj (hresolved origin _ hanswered)
    exact isOk_authorizeResolved_read
  | error error =>
    have hunanswered : ¬ ∃ origin, Answered client.name vmid h after origin (some guest) := by
      rintro ⟨origin, hanswered⟩
      cases hresolved origin _ hanswered
    cases error <;> exact fun hanswered => absurd hanswered hunanswered

/-! ### Agreement -/

/-- The listing and the reads of a guest **agree**: in every run of the authorization that is
answered from the entries, the guest appears exactly when the authorization succeeds. -/
def ListingAgrees (client : ProxmoxClient) (caller : Option CallerCtx) (grant : ProxmoxGrant)
    (entries : List Json) (guest : ResolvedGuest) : Prop :=
  ∀ h, Always (fun _ _ => True) (fun after outcome =>
      (∃ origin, Answered client.name guest.vmid h after origin
        ((parseGuests client.name entries) guest.vmid)) →
      (Appears caller entries client.name guest ↔ outcome.isOk)) h
    (authorize client client.name guest.vmid grant .read).run

section Agreement

variable {client : ProxmoxClient} {caller : Option CallerCtx} {grant : ProxmoxGrant}
  {entries : List Json} {guest : ResolvedGuest}

omit [Externals] in
private theorem find_parseGuests {cluster : String}
    (hmem : guest ∈ entries.filterMap (parseGuest cluster))
    (hdistinct : (entries.filterMap (parseGuest cluster)).Pairwise fun a b => a.vmid ≠ b.vmid) :
    (parseGuests cluster entries) guest.vmid = some guest := by
  rw [parseGuests_eq_foldl]
  exact find_foldl_insert .empty hmem hdistinct

/-- A run in which the guest is found in the cache shows whether the grant reads it. -/
theorem ListingAgrees.reads (hagrees : ListingAgrees client caller grant entries guest)
    (hgrant : resolveGrant caller = .ok grant)
    (hmem : guest ∈ entries.filterMap (parseGuest client.name))
    (hdistinct : (entries.filterMap (parseGuest client.name)).Pairwise fun a b => a.vmid ≠ b.vmid)
    (hlists : grant.lists guest) : grant.reads guest := by
  let hit : CacheHit guest.vmid := ⟨guest, ⟨client.name, 0⟩, rfl⟩
  have hrun : Always (fun _ _ => True) (fun after outcome =>
      (∃ origin, Answered client.name guest.vmid [] after origin
        ((parseGuests client.name entries) guest.vmid)) →
      (Appears caller entries client.name guest ↔ outcome.isOk))
      [⟨.index (.lookupFresh client.name guest.vmid), some hit⟩]
      (liftM (authorizeResolved client.cluster client.name guest.vmid grant .read guest) :
        ClientM (AuthorizedGuest client.cluster grant .read)).run := (hagrees []).2 (some hit)
  rw [always_run_liftExcept, find_parseGuests hmem hdistinct, appears_iff hgrant hmem hdistinct,
    isOk_authorizeResolved_read] at hrun
  exact (hrun ⟨_, .cached hit⟩).mp hlists

/-- **Where the listing agrees with the reads**: exactly for the guests that the grant, if it lists
them, also reads. -/
theorem listing_agrees_iff (hgrant : resolveGrant caller = .ok grant)
    (hmem : guest ∈ entries.filterMap (parseGuest client.name))
    (hdistinct : (entries.filterMap (parseGuest client.name)).Pairwise fun a b => a.vmid ≠ b.vmid) :
    ListingAgrees client caller grant entries guest ↔ (grant.lists guest → grant.reads guest) := by
  refine ⟨fun hagrees => hagrees.reads hgrant hmem hdistinct, fun hreads h => ?_⟩
  refine (always_authorize_read client guest.vmid grant guest h).mono (fun _ _ hop => hop) ?_
  rintro after outcome houtcome ⟨origin, hanswered⟩
  rw [find_parseGuests hmem hdistinct] at hanswered
  rw [appears_iff hgrant hmem hdistinct, houtcome ⟨origin, hanswered⟩]
  exact ⟨hreads, fun hr => .inr hr.1⟩

end Agreement

/-- A client without pins. -/
def listingClient : ProxmoxClient := ⟨"pve", ⟨"https://pve:8006", [], []⟩⟩

/-- The entry of container 100. -/
def listingEntry : Json :=
  .object [("type", .string "lxc"), ("vmid", .unsigned 100), ("node", .string "pve1"),
    ("name", .string "web"), ("status", .string "running")]

/-- Container 100. -/
def listingGuest : ResolvedGuest := ⟨"pve", 100, "web", .lxc, "pve1", "running", [], none⟩

/-- A caller that may start and stop every guest, but is not granted reads. -/
def lowOnlyCaller : CallerCtx where
  tokenName := "operator"
  requestId := "req-1"
  actorType := .agent
  tools := .wildcard
  devices := .wildcard
  grant := some ⟨["*"], [.low]⟩

omit [Externals] in
private theorem filterMap_listingEntry :
    [listingEntry].filterMap (parseGuest listingClient.name) = [listingGuest] := rfl

omit [Externals] in
theorem listing_agrees_readOnly :
    @ListingAgrees Externals.plain listingClient none .readOnly [listingEntry] listingGuest := by
  let _ : Externals := Externals.plain
  refine (listing_agrees_iff rfl ?_ ?_).mpr fun _ => ⟨by decide, by decide⟩
  · rw [filterMap_listingEntry]
    exact List.mem_singleton_self _
  · rw [filterMap_listingEntry]
    exact List.pairwise_singleton _ _

omit [Externals] in
/-- A grant without reads lists what it may not read. -/
theorem not_listing_agrees_lowOnly : ¬ @ListingAgrees Externals.plain listingClient
    (some lowOnlyCaller) ⟨["*"], [.low]⟩ [listingEntry] listingGuest := by
  let _ : Externals := Externals.plain
  intro hagrees
  have hreads : ProxmoxGrant.reads ⟨["*"], [.low]⟩ listingGuest := by
    refine hagrees.reads rfl ?_ ?_ (.inl (by decide))
    · rw [filterMap_listingEntry]
      exact List.mem_singleton_self _
    · rw [filterMap_listingEntry]
      exact List.pairwise_singleton _ _
  exact absurd hreads.2 (by decide)

end ProxmoxMcp
