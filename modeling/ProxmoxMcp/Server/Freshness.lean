import ProxmoxMcp.Core.IndexRuns
import ProxmoxMcp.Server.Machine
import ProxmoxMcp.Server.PinnedArchives

/-!
# What a call decides on

A call that changes a cluster decides about guests by what the index says, and the index may have a
listing from before the call. Most handlers therefore drop the cached listing before they look
anything up, and every lookup of theirs is answered from a listing **asked for after the call
began** (`DecidesFreshly`).

The apply of a restore into a new vmid looks the owner of the archive up before it drops anything.
There the answer is as old as what the index has, and `OwnersTimely` says when that does no harm.
-/

namespace ProxmoxMcp

open Interaction
open Program hiding bind

/-- The tools that have to decide on what the cluster says now: those that create, destroy or take
out of service. Cloning is not one of them: it looks the guest it copies up in what the cache holds,
by design, and leaves it to the cluster to refuse a number that is taken. -/
def Tool.ActsOnGuests : Tool → Prop
  | .lifecycle tool _ => interruptsService tool.name
  | .createBackup args => backupInterrupts args.mode
  | .updateContainerResources _ | .stopTask _ | .createGuest _ _ | .applyChangeSet _
  | .applyHaRuleChange _ | .applyRestoreNewVmid _ => True
  | _ => False

variable [Externals] {coordinator : Coordinator} {ttl : ℕ}

/-- **Decisions are fresh**: a request that can change a cluster is sent as its call's policy says,
and every lookup of the call was answered from a listing of that cluster that was asked for after
the call began. -/
def DecidesFreshly (trace : ServerTrace) : Prop :=
  ∀ (newer later older : ServerTrace) id server caller tool client request ticket,
    trace = newer ++ .event id ⟨.http (.dispatch client request), ticket⟩ ::
      (later ++ .start id ⟨server, .serve caller tool⟩ :: older) →
    request.Mutating → tool.ActsOnGuests →
    (tool.policy server caller).sends (historyOf id later) client request ∧
    ∀ cluster vmid before after origin guest, Answered cluster vmid before after origin guest →
      after <:+ historyOf id later → older.length < origin.began ∧ origin.client = cluster ∧
        ∃ guests, Listing trace origin guests ∧ guests vmid = guest

/-- When the apply of a restore looks a guest up, the index does not have it in a listing from
before the call. -/
def OwnersTimely (coordinator : Coordinator) (ttl : ℕ)
    (pool pool' : Pool (serverMachine coordinator ttl)) : Prop :=
  ∀ id cluster vmid reply (later older : ServerTrace) server caller args,
    pool'.trace = .event id ⟨.index (.lookupFresh cluster vmid), reply⟩ :: pool.trace →
    pool.trace = later ++ .start id ⟨server, .serve caller (.applyRestoreNewVmid args)⟩ :: older →
    ∀ hit, pool.world.index.lookup ttl cluster vmid = some hit → older.length < hit.origin.began

section Rules

variable {pool : Pool (serverMachine coordinator ttl)}

/-- The tools that drop the cached listing before any lookup. -/
theorem Tool.dropped_of_lookups {server : ProxmoxServer} {caller : Option CallerCtx} {tool : Tool}
    {h : History Effect} {cluster : String} {vmid : UInt32} (hacts : tool.ActsOnGuests)
    (hlookup : (tool.policy server caller).lookups h cluster vmid) :
    (∃ args, tool = .applyRestoreNewVmid args) ∨ Dropped cluster h := by
  cases tool with
  | lifecycle tool args => exact .inr (hlookup hacts)
  | createBackup args => exact .inr (hlookup hacts)
  | updateContainerResources args => exact .inr (hlookup rfl)
  | stopTask args => exact .inr (hlookup rfl)
  | createGuest kind args => exact .inr hlookup
  | applyChangeSet args => exact .inr hlookup
  | applyHaRuleChange args => exact .inr hlookup
  | applyRestoreNewVmid args => exact .inl ⟨args, rfl⟩
  | _ => exact hacts.elim

/-- A lookup begins with a look into the cache. -/
theorem Answered.lookup {cluster : String} {vmid : UInt32} {before after : History Effect}
    {origin : Origin} {guest : Option ResolvedGuest}
    (h : Answered cluster vmid before after origin guest) :
    ∃ between reply, after = between ++ ⟨.index (.lookupFresh cluster vmid), reply⟩ :: before := by
  cases h with
  | cached hit => exact ⟨[], some hit, rfl⟩
  | fetched => exact ⟨[_, _, _, _], none, rfl⟩

omit [Externals] in
/-- A call that has dropped the listing of a cluster has invalidated it since it began. -/
private theorem invalidated_of_dropped {trace later older : ServerTrace} {id : ℕ} {served : Served}
    {cluster : String} (htrace : trace = later ++ .start id served :: older)
    (hnil : historyOf id older = []) (hdropped : Dropped cluster (historyOf id trace)) :
    ∃ time, older.length < time ∧ Invalidated cluster time trace := by
  obtain ⟨latest, op, reply, oldest, hhistory, hop⟩ := hdropped
  obtain ⟨newer, before, htrace', -, hbefore⟩ := exists_split_of_historyOf latest hhistory
  obtain ⟨mid, first, rfl, -, -⟩ := exists_split_of_historyOf [] hbefore
  have hbump : trace = (newer ++ .event id ⟨.index op, reply⟩ :: mid) ++
      .event id ⟨.index .bumpGeneration, ()⟩ :: first := by
    simp [htrace']
  have hsuffix := start_suffix_of_event (hbump.symm.trans htrace) hnil
  refine ⟨first.length, hsuffix.length_le, newer, mid, first, id, op, reply, htrace', ?_, rfl⟩
  rcases hop with rfl | rfl
  · trivial
  · rfl

/-- Where in a run a call looked a guest up. -/
private theorem exists_lookup_event {later : ServerTrace} {id : ℕ} {cluster : String}
    {vmid : UInt32} {before after : History Effect} {origin : Origin} {guest : Option ResolvedGuest}
    (hanswered : Answered cluster vmid before after origin guest)
    (hafter : after <:+ historyOf id later) : ∃ newer mid reply,
      later = newer ++ .event id ⟨.index (.lookupFresh cluster vmid), reply⟩ :: mid ∧
        historyOf id mid = before := by
  obtain ⟨between, reply, rfl⟩ := hanswered.lookup
  obtain ⟨latest, hhistory⟩ := hafter
  rw [← List.append_assoc] at hhistory
  obtain ⟨newer, mid, hlater, -, hmid⟩ := exists_split_of_historyOf _ hhistory.symm
  exact ⟨newer, mid, reply, hlater, hmid⟩

/-- A lookup is answered from a listing of its cluster; once the call has dropped the cached one,
from one asked for since the call began. -/
private theorem answered_since_start (h : Reachable (serverMachine coordinator ttl) pool)
    (few : FewInvalidations pool.trace) {newer later older : ServerTrace} {id : ℕ} {served : Served}
    (htrace : pool.trace = newer ++ (later ++ .start id served :: older)) {cluster : String}
    {vmid : UInt32} {before after : History Effect} {origin : Origin} {guest : Option ResolvedGuest}
    (hanswered : Answered cluster vmid before after origin guest)
    (hafter : after <:+ historyOf id later) :
    origin.client = cluster ∧ (∃ guests, Listing pool.trace origin guests ∧ guests vmid = guest) ∧
      (Dropped cluster before → older.length < origin.began) := by
  have hstart : pool.trace = (newer ++ later) ++ .start id served :: older := by
    rw [htrace, List.append_assoc]
  have hnil : historyOf id older = [] := h.historyOf_before_start hstart
  obtain ⟨newer', mid, reply, rfl, rfl⟩ := exists_lookup_event hanswered hafter
  have hseen : historyOf id (mid ++ .start id served :: older) = historyOf id mid := by
    rw [historyOf_append, historyOf_start, hnil, List.append_nil]
  have hlookup : pool.trace = (newer ++ (newer' ++
      [.event id ⟨.index (.lookupFresh cluster vmid), reply⟩])) ++
        (mid ++ .start id served :: older) := by
    simp [htrace]
  obtain ⟨latest, hlatest⟩ := hafter
  have hwhole : historyOf id pool.trace = (historyOf id newer ++ latest) ++ after := by
    rw [htrace, historyOf_append, historyOf_append, historyOf_start, hnil, List.append_nil,
      ← hlatest, List.append_assoc]
  obtain ⟨hclient, hlisting, hsince⟩ := (serverLaws coordinator ttl).answered_upToDate
    (serverGuarantee coordinator ttl) indexRule_of_serverGuarantee h few hanswered hwhole hlookup
    (by rw [hseen])
  refine ⟨hclient, hlisting, fun hdropped => ?_⟩
  obtain ⟨time, hlt, hinvalidated⟩ := invalidated_of_dropped rfl hnil (hseen.symm ▸ hdropped)
  have hbegan := hsince time hinvalidated
  omega

/-- In a timely run the apply of a restore decides on listings asked for since it began. -/
private theorem began_of_timely
    (h : ReachableBy (serverMachine coordinator ttl) (OwnersTimely coordinator ttl) pool)
    {newer later older : ServerTrace} {id : ℕ} {server : ProxmoxServer} {caller : Option CallerCtx}
    {args : ChangeSetArgs} (htrace : pool.trace = newer ++
      (later ++ .start id ⟨server, .serve caller (.applyRestoreNewVmid args)⟩ :: older))
    {cluster : String} {vmid : UInt32} {before after : History Effect} {origin : Origin}
    {guest : Option ResolvedGuest} (hanswered : Answered cluster vmid before after origin guest)
    (hafter : after <:+ historyOf id later) : older.length < origin.began := by
  obtain ⟨latest, hlatest⟩ := hafter
  cases hanswered with
  | cached hit =>
    obtain ⟨newer', mid, rfl, -, -⟩ := exists_split_of_historyOf latest hlatest.symm
    have hlookup : pool.trace = (newer ++ newer') ++
        .event id ⟨.index (.lookupFresh cluster vmid), some hit⟩ ::
          (mid ++ .start id ⟨server, .serve caller (.applyRestoreNewVmid args)⟩ :: older) := by
      simp [htrace]
    obtain ⟨first, second, -, hstep, htimely, hfirst, hsecond⟩ := h.stepped hlookup
    have hworld := hstep.of_event (hfirst ▸ hsecond)
    -- a listing in the cache was asked for in time
    have hhit := ((serverLaws coordinator ttl).stepIndex hworld).lookup_eq
    exact htimely id cluster vmid _ mid older server caller args (hfirst ▸ hsecond) hfirst hit
      hhit.symm
  | @fetched generation ticket response data guests hread hparsed =>
    obtain ⟨newer', mid, rfl, -, -⟩ :=
      @exists_split_of_historyOf _ _ _ _ later (latest ++ [_, _]) _ _
      (by simpa using hlatest.symm)
    have hsent : pool.trace = (newer ++ newer') ++
        .event id ⟨.http (.dispatch cluster listingRequest), ticket⟩ ::
          (mid ++ .start id ⟨server, .serve caller (.applyRestoreNewVmid args)⟩ :: older) := by
      simp [htrace]
    -- a listing the call fetches is asked for after the call began
    have hticket := (serverLaws coordinator ttl).ticket_eq h.reachable hsent
    simp only [List.length_append, List.length_cons] at hticket
    simp only
    omega

end Rules

/-- **Fresh decisions**: in every run in which the index is timely when an apply of a restore looks
its owner up, the tools that act on guests decide on listings asked for since they were called. -/
theorem decidesFreshly_of_ownersTimely {pool : Pool (serverMachine coordinator ttl)}
    (h : ReachableBy (serverMachine coordinator ttl) (OwnersTimely coordinator ttl) pool)
    (few : FewInvalidations pool.trace) : DecidesFreshly pool.trace := by
  intro newer later older id server caller tool client request ticket htrace hmutating hacts
  have hstart : pool.trace = (newer ++ .event id ⟨.http (.dispatch client request), ticket⟩ ::
      later) ++ .start id ⟨server, .serve caller tool⟩ :: older := by
    simp [htrace]
  have hnil : historyOf id older = [] := h.reachable.historyOf_before_start hstart
  have hmem : Entry.start id ⟨server, .serve caller tool⟩ ∈ pool.trace := by simp [htrace]
  have hhistory : historyOf id (later ++ .start id ⟨server, .serve caller tool⟩ :: older) =
      historyOf id later := by
    rw [historyOf_append, historyOf_start, hnil, List.append_nil]
  have hsends := sends_of_event h.reachable htrace hmem hmutating
  rw [hhistory] at hsends
  refine ⟨hsends, fun cluster vmid before after origin guest hanswered hafter => ?_⟩
  have hwhole : pool.trace = (newer ++ [.event id ⟨.http (.dispatch client request), ticket⟩]) ++
      (later ++ .start id ⟨server, .serve caller tool⟩ :: older) := by
    simp [htrace]
  obtain ⟨hclient, hlisting, hbegan⟩ :=
    answered_since_start h.reachable few hwhole hanswered hafter
  refine ⟨?_, hclient, hlisting⟩
  obtain ⟨newer', mid, reply, rfl, rfl⟩ := exists_lookup_event hanswered hafter
  have hevent : pool.trace = (newer ++ .event id ⟨.http (.dispatch client request), ticket⟩ ::
      newer') ++ .event id ⟨.index (.lookupFresh cluster vmid), reply⟩ ::
        (mid ++ .start id ⟨server, .serve caller tool⟩ :: older) := by
    simp [htrace]
  have hallowed := allows_of_event h.reachable hevent hmem
  rw [historyOf_append, historyOf_start, hnil, List.append_nil] at hallowed
  rcases Tool.dropped_of_lookups hacts hallowed with ⟨args, rfl⟩ | hdropped
  · exact began_of_timely h hwhole hanswered hafter
  · exact hbegan hdropped

/-- A run in which the index has had nothing to answer with is timely. -/
private theorem ownersTimely_of_misses {pool : Pool (serverMachine coordinator ttl)}
    (h : Reachable (serverMachine coordinator ttl) pool)
    (hmiss : ∀ id cluster vmid hit,
      .event id ⟨.index (.lookupFresh cluster vmid), some hit⟩ ∉ pool.trace) :
    ReachableBy (serverMachine coordinator ttl) (OwnersTimely coordinator ttl) pool := by
  refine h.by_of fun before after _ hstep hafter => ?_
  intro id cluster vmid reply later older server caller args htrace _ hit hhit
  have hreply : reply = before.world.index.lookup ttl cluster vmid :=
    ((serverLaws coordinator ttl).stepIndex (hstep.of_event htrace)).lookup_eq
  rw [hreply, hhit] at htrace
  refine absurd (hafter.subset ?_) (hmiss id cluster vmid hit)
  rw [htrace]
  exact List.mem_cons_self

/-! ### An owner that is in the cache -/

section Cached

/-- A coordinator that may have records when the server starts. -/
def keptCoordinator : Coordinator := { Coordinator.inMemory with Initial := fun _ => True }

/-- The server over it. -/
abbrev keptMachine : Machine Effect := @serverMachine Externals.plain keptCoordinator 30

/-- Copy an archive of guest 100 into the free number 901. -/
def ownedAction : RestoreNewVmidAction :=
  ⟨"pve", "pve1", 901, "qemu", "local:backup/vzdump-qemu-100.vma", 100⟩

/-- The copy, planned and approved. -/
def approvedCopy : ChangeSet where
  id := "cs-1"
  device := "pve/901"
  actions := [ownedAction.toJson]
  owner := "planner"
  expectedCandidateFingerprint := @restoreTargetFingerprint Externals.plain "pve" 901
  policySignature := policySignature
  digest := @restoreTargetFingerprint Externals.plain "pve" 901
  state := .approved
  preview :=
    some ⟨renderRestoreNewVmidPreview ownedAction, renderRestoreNewVmidPreview ownedAction⟩
  taskId := none

def keptRecords : RecordList := ⟨[approvedCopy], List.nodup_singleton _⟩

/-- The server as it starts. -/
def keptPool : Pool keptMachine :=
  ⟨⟨⟨fun _ => none, 0, 0⟩, keptRecords⟩, fun _ => none, []⟩

/-- The listing of the archive. -/
def ownedListing : Json :=
  .array [.object [("volid", .string ownedAction.volid), ("vmid", .unsigned 100)]]

/-- Start guest 100. -/
def startCall : Served :=
  ⟨oneClusterServer, .serve (some { destructiveCaller with grant := some ⟨["*"], [.low]⟩ })
    (.lifecycle .startVm ⟨"pve", 100⟩)⟩

/-- Copy the archive. -/
def copyCall : Served :=
  ⟨oneClusterServer, .serve (some destructiveCaller) (.applyRestoreNewVmid ⟨"cs-1", "pve", 901⟩)⟩

def copyRequest : ApiRequest := Guests.restoreBackupRequest "pve1" .qemu 901 ownedAction.volid false

omit [Externals] in
private theorem vmid_onlyGuest : onlyGuest.vmid = 100 := rfl

/-- What a lookup finds of guest 100 in a listing asked for at the given time. -/
def ownerHit (began : ℕ) : CacheHit 100 := ⟨onlyGuest, ⟨"pve", began⟩, vmid_onlyGuest⟩

/-- A lookup of guest 100 that fetches the listing, asking at the given time. -/
def fetchedOwner (generation : UInt64) (time : ℕ) : List (Event Effect) :=
  [⟨.index (.lookupFresh "pve" 100), none⟩, ⟨.index .loadGeneration, generation⟩,
    ⟨.http (.dispatch "pve" listingRequest), time⟩, ⟨.http (.await time), .ok onlyAnswer⟩]

/-- The same, to the end. -/
def storedOwner (generation : UInt64) (time : ℕ) : List (Event Effect) :=
  fetchedOwner generation time ++ [⟨.index (.storeIfCurrent "pve" generation onlyGuests), ()⟩]

/-- What a copy sees of the cluster, around its lookup of the owner: the listing of the archive, and
that number 901 is free. -/
def archiveEvents (owner : List (Event Effect)) (generation : UInt64) (archive free : ℕ) :
    List (Event Effect) :=
  [⟨.http (.dispatch "pve" (Guests.backupListingRequest "pve1" "local")), archive⟩,
    ⟨.http (.await archive), answerOf ownedListing⟩] ++ owner ++
    [⟨.unixNow, (0 : UInt64)⟩, ⟨.index .bumpGeneration, ()⟩, ⟨.index (.removeSnapshot "pve"), ()⟩,
    ⟨.index (.lookupFresh "pve" 901), none⟩, ⟨.index .loadGeneration, generation⟩,
    ⟨.http (.dispatch "pve" listingRequest), free⟩, ⟨.http (.await free), answerOf (.array [])⟩,
    ⟨.index (.storeIfCurrent "pve" generation .empty), ()⟩]

/-- What the apply sees: the record, the cluster, and that it has claimed the record. -/
def copyOwnedEvents (owner : List (Event Effect)) (generation : UInt64) (archive free : ℕ) :
    List (Event Effect) :=
  ⟨.coordinator (.changeSet "cs-1" "pve/901"), .ok approvedCopy⟩ ::
    (archiveEvents owner generation archive free ++
      [⟨.coordinator (.claimChangeSetForApply "cs-1" "pve/901"),
        .ok { approvedCopy with state := .applying }⟩])

omit [Externals] in
/-- The start of the guest looks it up. -/
private theorem startCall_reaches (time : ℕ) : ∃ next,
    Reaches (@Served.body Externals.plain startCall) (fetchedOwner 0 time)
      (.perform (.index (.storeIfCurrent "pve" 0 onlyGuests)) next) := by
  apply Exists.intro
  iterate 4 refine Reaches.step _ _ _ ?_
  exact Reaches.refl _

omit [Externals] in
/-- The copy is sent when the owner is found in the cache. -/
theorem copyCall_reaches_of_cached (generation : UInt64) (archive began free : ℕ) : ∃ next,
    Reaches (@Served.body Externals.plain copyCall)
      (copyOwnedEvents [⟨.index (.lookupFresh "pve" 100), some (ownerHit began)⟩] generation archive
        free)
      (.perform (.http (.dispatch "pve" copyRequest)) next) := by
  apply Exists.intro
  iterate 13 refine Reaches.step _ _ _ ?_
  exact Reaches.refl _

omit [Externals] in
/-- The copy is sent when the owner is fetched. -/
theorem copyCall_reaches_of_fetched (generation generation' : UInt64) (archive time free : ℕ) :
    ∃ next, Reaches (@Served.body Externals.plain copyCall)
      (copyOwnedEvents (storedOwner generation time) generation' archive free)
      (.perform (.http (.dispatch "pve" copyRequest)) next) := by
  apply Exists.intro
  iterate 17 refine Reaches.step _ _ _ ?_
  exact Reaches.refl _

/-- The server once the start has stored the listing that it asked for at time 3. -/
def cachedWorld : ServerWorld keptCoordinator :=
  ⟨IndexState.set ⟨fun _ => none, 0, 0⟩ "pve" (some ⟨0, onlyGuests, ⟨"pve", 3⟩⟩), keptRecords⟩

omit [Externals] in
/-- The start runs over an empty cache. -/
private theorem performs_startCall : keptMachine.Performs keptPool.world 1 []
    (fetchedOwner 0 3 ++ [⟨.index (.storeIfCurrent "pve" 0 onlyGuests), ()⟩]) cachedWorld :=
  .cons (.lookupFresh rfl) <| .cons (.loadGeneration rfl) <| .cons (.dispatch _ _) <|
    .cons (.await _ _) <| .cons (.storeIfCurrent rfl) .nil

omit [Externals] in
/-- The copy runs after it. -/
private theorem performs_copyCall_of_cached : ∃ world, keptMachine.Performs cachedWorld 7 []
    (copyOwnedEvents [⟨.index (.lookupFresh "pve" 100), some (ownerHit 3)⟩] 1 8 16 ++
      [⟨.http (.dispatch "pve" copyRequest), (20 : ℕ)⟩]) world := by
  have hhit : cachedWorld.index.lookup 30 "pve" 100 = some (ownerHit 3) := rfl
  exact ⟨_, .cons (.coordinator ⟨"cs-2", rfl, rfl⟩) <| .cons (.dispatch _ _) <|
    .cons (.await _ _) <| .cons (.lookupFresh hhit) <| .cons (.unixNow _) <|
    .cons (.index .bumpGeneration) <| .cons (.index (.removeSnapshot "pve")) <|
    .cons (.lookupFresh rfl) <| .cons (.loadGeneration rfl) <| .cons (.dispatch _ _) <|
    .cons (.await _ _) <| .cons (.storeIfCurrent rfl) <|
    .cons (.coordinator ⟨"cs-2", rfl, rfl⟩) <| .cons (.dispatch _ _) .nil⟩

omit [Externals] in
/-- The copy runs over an empty cache. -/
theorem performs_copyCall_of_fetched : ∃ world, keptMachine.Performs keptPool.world 1 []
    (copyOwnedEvents (storedOwner 0 6) 1 2 14 ++
      [⟨.http (.dispatch "pve" copyRequest), (18 : ℕ)⟩]) world :=
  ⟨_, .cons (.coordinator ⟨"cs-2", rfl, rfl⟩) <| .cons (.dispatch _ _) <| .cons (.await _ _) <|
    .cons (.lookupFresh rfl) <| .cons (.loadGeneration rfl) <| .cons (.dispatch _ _) <|
    .cons (.await _ _) <| .cons (.storeIfCurrent rfl) <| .cons (.unixNow _) <|
    .cons (.index .bumpGeneration) <| .cons (.index (.removeSnapshot "pve")) <|
    .cons (.lookupFresh rfl) <| .cons (.loadGeneration rfl) <| .cons (.dispatch _ _) <|
    .cons (.await _ _) <| .cons (.storeIfCurrent rfl) <|
    .cons (.coordinator ⟨"cs-2", rfl, rfl⟩) <| .cons (.dispatch _ _) .nil⟩

omit [Externals] in
/-- **Decisions are not always fresh**: the copy of an archive is sent although its owner was looked
up in a listing that an earlier call had asked for. -/
theorem exists_not_decidesFreshly : ∃ pool : Pool keptMachine, Reachable keptMachine pool ∧
    FewInvalidations pool.trace ∧ ¬ @DecidesFreshly Externals.plain pool.trace := by
  let _ : Externals := Externals.plain
  have hempty : Reachable keptMachine keptPool := .initial ⟨rfl, trivial⟩
  obtain ⟨next, hreaches⟩ := startCall_reaches 3
  obtain ⟨pool, hpool, hworld, htrace⟩ := @Reachable.call _ _ _ hempty 0 startCall _ _ _ _ _
    (fun _ => List.not_mem_nil) hreaches performs_startCall
  have hlength : pool.trace.length = 6 := by simp [htrace, keptPool, fetchedOwner]
  have hunused : Fresh 1 pool.trace := by simp [Fresh, htrace, keptPool, fetchedOwner]
  obtain ⟨world, hcopy⟩ := performs_copyCall_of_cached
  rw [← hworld, show 7 = pool.trace.length + 1 by rw [hlength]] at hcopy
  obtain ⟨next', hreaches'⟩ := copyCall_reaches_of_cached 1 8 3 16
  obtain ⟨pool', hpool', -, htrace'⟩ := @Reachable.call _ _ _ hpool 1 copyCall _ _ _ _ _
    hunused hreaches' hcopy
  refine ⟨pool', hpool', fewInvalidations_of_length ?_, fun hfresh => ?_⟩
  · simp [htrace', hlength, copyOwnedEvents, archiveEvents]
  · let seen := copyOwnedEvents [⟨.index (.lookupFresh "pve" 100), some (ownerHit 3)⟩] 1 8 16
    have hsplit : pool'.trace = [] ++ .event 1 ⟨.http (.dispatch "pve" copyRequest), (20 : ℕ)⟩ ::
        ((seen.map (Entry.event 1)).reverse ++ .start 1 copyCall :: pool.trace) := by
      rw [htrace', List.map_append, List.reverse_append]
      rfl
    have hcall := hfresh _ _ _ _ _ _ _ _ _ _ hsplit (by decide) trivial
    -- the lookup that the copy begins its check of the owner with is answered from the cache
    obtain ⟨hbegan, -⟩ := hcall.2 "pve" 100 (seen.take 3).reverse _ _ _ (.cached (ownerHit 3))
      ⟨(seen.drop 4).reverse, rfl⟩
    rw [hlength] at hbegan
    exact absurd hbegan (by decide)

omit [Externals] in
/-- The same copy over an empty cache. -/
theorem decidesFreshly_of_emptyCache : ∃ pool : Pool keptMachine,
    .event 0 ⟨.http (.dispatch "pve" copyRequest), (18 : ℕ)⟩ ∈ pool.trace ∧
      @DecidesFreshly Externals.plain pool.trace := by
  let _ : Externals := Externals.plain
  have hempty : Reachable keptMachine keptPool := .initial ⟨rfl, trivial⟩
  obtain ⟨world, hcopy⟩ := performs_copyCall_of_fetched
  obtain ⟨next, hreaches⟩ := copyCall_reaches_of_fetched 0 1 2 6 14
  obtain ⟨pool, hpool, -, htrace⟩ := @Reachable.call _ _ _ hempty 0 copyCall _ _ _ _ _
    (fun _ => List.not_mem_nil) hreaches hcopy
  refine ⟨pool, by simp [htrace], decidesFreshly_of_ownersTimely ?_ (fewInvalidations_of_length ?_)⟩
  · refine ownersTimely_of_misses hpool fun id cluster vmid hit hmem => ?_
    simp only [htrace, copyOwnedEvents, archiveEvents, storedOwner, fetchedOwner, keptPool] at hmem
    simp only [List.map_cons, List.map_nil, List.reverse_cons, List.reverse_nil, List.nil_append,
      List.cons_append, List.mem_cons, List.not_mem_nil, or_false, reduceCtorEq,
      Entry.event.injEq] at hmem
    -- no lookup among the events was answered from the cache
    repeat
      rcases hmem with ⟨-, hmem⟩ | hmem
      · cases hmem
    cases hmem.2
  · simp [htrace, copyOwnedEvents, archiveEvents, storedOwner, fetchedOwner, keptPool]

end Cached

end ProxmoxMcp
