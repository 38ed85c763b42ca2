import ProxmoxMcp.Server.Freshness

/-!
# Reloading the inventory

A reload reads the inventory file again, and with it the vmids and tags that protect guests. The
clients are built once, when the server starts, and every protection decision reads the lists of the
**client**. `DecidesReloaded` asks that a request be one that the lists in force let through: those
of the last reload that has succeeded since the server started.

It holds as long as the reloads leave the lists of the clusters in use as they were (`ListsKept`),
and no longer: a reload drops the cached listings, and that is all of it a decision sees.
-/

namespace ProxmoxMcp

open Interaction
open Program hiding bind

/-- The configuration of a cluster, as the last reload since the server started has read it. -/
def reloaded (name : String) : ServerTrace → Option Cluster
  | .event _ ⟨.reloadInventory, .ok clusters⟩ :: _ => clusters.lookup name
  | .crash :: _ => none
  | _ :: older => reloaded name older
  | [] => none

/-- A client with the protection lists of another configuration of its cluster. -/
def ProxmoxClient.withLists (client : ProxmoxClient) (cluster : Cluster) : ProxmoxClient :=
  { client with cluster := { client.cluster with
      protectedVmids := cluster.protectedVmids, protectedTags := cluster.protectedTags } }

/-- The server that decides about one cluster with the lists of another configuration of it. -/
def ProxmoxServer.withLists (server : ProxmoxServer) (name : String) (cluster : Cluster) :
    ProxmoxServer :=
  { server with clients := server.clients.map fun client =>
      if client.name = name then client.withLists cluster else client }

/-- The clients of a cluster have the protection lists of this configuration. -/
def ProxmoxServer.HasLists (server : ProxmoxServer) (name : String) (cluster : Cluster) : Prop :=
  ∀ client ∈ server.clients, client.name = name →
    client.cluster.protectedVmids = cluster.protectedVmids ∧
      client.cluster.protectedTags = cluster.protectedTags

theorem ProxmoxServer.HasLists.withLists_eq {server : ProxmoxServer} {name : String}
    {cluster : Cluster} (hlists : server.HasLists name cluster) :
    server.withLists name cluster = server := by
  have hclients : server.clients.map (fun client =>
      if client.name = name then client.withLists cluster else client) = server.clients.map id := by
    refine List.map_congr_left fun client hclient => ?_
    split_ifs with hname
    · obtain ⟨hvmids, htags⟩ := hlists client hclient hname
      rw [ProxmoxClient.withLists, ← hvmids, ← htags, id]
    · rfl
  rw [withLists, hclients, List.map_id]

/-- What is in force was read by a reload. -/
private theorem exists_reload_of_reloaded {name : String} {cluster : Cluster} {trace : ServerTrace}
    (h : reloaded name trace = some cluster) : ∃ id clusters,
      .event id ⟨.reloadInventory, .ok clusters⟩ ∈ trace ∧ clusters.lookup name = some cluster := by
  induction trace using reloaded.induct with
  | case1 id clusters older => exact ⟨id, clusters, List.mem_cons_self, h⟩
  | case2 older => cases h
  | case3 entry older hreload hcrash ih =>
    rw [reloaded] at h
    · obtain ⟨id, clusters, hmem, hlookup⟩ := ih h
      exact ⟨id, clusters, List.mem_cons_of_mem _ hmem, hlookup⟩
    · exact hreload
    · exact hcrash
  | case4 => cases h

variable [Externals]

/-- **Decisions follow the reload**: a request that can change a cluster is sent as the policy of
its call says with the lists in force, at every moment since the call began. -/
def DecidesReloaded (trace : ServerTrace) : Prop :=
  ∀ (newer later older : ServerTrace) id server caller tool client request ticket,
    trace = newer ++ .event id ⟨.http (.dispatch client request), ticket⟩ ::
      (later ++ .start id ⟨server, .serve caller tool⟩ :: older) →
    request.Mutating → ∀ recent cluster, recent <:+ later →
      reloaded client (recent ++ .start id ⟨server, .serve caller tool⟩ :: older) = some cluster →
      (tool.policy (server.withLists client cluster) caller).sends (historyOf id later) client
        request

/-- When a request that can change a cluster is sent, the lists in force since the call began are
those its server was started with. -/
def ListsKept (coordinator : Coordinator) (ttl : ℕ)
    (pool pool' : Pool (serverMachine coordinator ttl)) : Prop :=
  ∀ (later older : ServerTrace) id server caller tool client request ticket,
    pool'.trace = .event id ⟨.http (.dispatch client request), ticket⟩ :: pool.trace →
    pool.trace = later ++ .start id ⟨server, .serve caller tool⟩ :: older →
    request.Mutating → ∀ recent cluster, recent <:+ later →
      reloaded client (recent ++ .start id ⟨server, .serve caller tool⟩ :: older) = some cluster →
      server.HasLists client cluster

variable {coordinator : Coordinator} {ttl : ℕ}

/-- **Reloads that keep the lists are followed.** -/
theorem decidesReloaded_of_listsKept {pool : Pool (serverMachine coordinator ttl)}
    (h : ReachableBy (serverMachine coordinator ttl) (ListsKept coordinator ttl) pool) :
    DecidesReloaded pool.trace := by
  intro newer later older id server caller tool client request ticket htrace hmutating
    recent cluster hrecent hreloaded
  obtain ⟨before, after, -, -, hkept, hbefore, hafter⟩ := h.stepped htrace
  have hlists : server.HasLists client cluster :=
    hkept later older id server caller tool client request ticket (by rw [hafter, hbefore]) hbefore
      hmutating recent cluster hrecent hreloaded
  have hstart : pool.trace = (newer ++ .event id ⟨.http (.dispatch client request), ticket⟩ ::
      later) ++ .start id ⟨server, .serve caller tool⟩ :: older := by
    simp [htrace]
  have hmem : Entry.start id ⟨server, .serve caller tool⟩ ∈ pool.trace := by simp [htrace]
  have hsends := sends_of_event h.reachable htrace hmem hmutating
  rw [historyOf_append, historyOf_start, h.reachable.historyOf_before_start hstart,
    List.append_nil] at hsends
  rw [hlists.withLists_eq]
  exact hsends

/-! ### A guest that a reload pins -/

section Pinned

/-- The inventory of one cluster that pins these guests. -/
def pinning (vmids : List UInt32) : List (String × Cluster) :=
  [("pve", ⟨"https://pve:8006", vmids, []⟩)]

/-- Reload the inventory. -/
def reloadCall : Served := ⟨oneClusterServer, .reload⟩

/-- Stop guest 100. -/
def stopCall : Served :=
  ⟨oneClusterServer, .serve (some { destructiveCaller with grant := some ⟨["*"], [.low]⟩ })
    (.lifecycle .stopVm ⟨"pve", 100⟩)⟩

def stopRequest : ApiRequest := Guests.lifecycleRequest "pve1" .qemu 100 LifecycleTool.stopVm.verb

def reloadEvents (vmids : List UInt32) : List (Event Effect) :=
  [⟨.reloadInventory, .ok (pinning vmids)⟩, ⟨.index .bumpGeneration, ()⟩]

/-- What the stop sees: it drops the listing and fetches it, and finds the guest in it twice. -/
def stopEvents : List (Event Effect) :=
  [⟨.index .bumpGeneration, ()⟩, ⟨.index (.removeSnapshot "pve"), ()⟩] ++ storedOwner 2 9 ++
    [⟨.unixNow, (0 : UInt64)⟩, ⟨.index (.lookupFresh "pve" 100), some (ownerHit 9)⟩]

omit [Externals] in
private theorem reloadCall_reaches (vmids : List UInt32) : ∃ next,
    Reaches (@Served.body Externals.plain reloadCall) (reloadEvents vmids)
      (.perform (.index .clearSnapshots) next) := by
  apply Exists.intro
  iterate 2 refine Reaches.step _ _ _ ?_
  exact Reaches.refl _

omit [Externals] in
private theorem stopCall_reaches : ∃ next, Reaches
    (@Served.body Externals.plain stopCall) stopEvents
    (.perform (.http (.dispatch "pve" stopRequest)) next) := by
  apply Exists.intro
  iterate 9 refine Reaches.step _ _ _ ?_
  exact Reaches.refl _

omit [Externals] in
private theorem performs_reload_stop (vmids : List UInt32) : ∃ dropped stopped,
    keptMachine.Performs keptPool.world 1 []
      (reloadEvents vmids ++ [⟨.index .clearSnapshots, ()⟩]) dropped ∧
    keptMachine.Performs dropped 5 [] (stopEvents ++
      [⟨.http (.dispatch "pve" stopRequest), (14 : ℕ)⟩]) stopped := by
  exact ⟨_, _,
    .cons (.reloadInventory _) <| .cons (.index .bumpGeneration) <|
      .cons (.index .clearSnapshots) .nil,
    .cons (.index .bumpGeneration) <| .cons (.index (.removeSnapshot "pve")) <|
      .cons (.lookupFresh rfl) <| .cons (.loadGeneration rfl) <| .cons (.dispatch _ _) <|
      .cons (.await _ _) <| .cons (.storeIfCurrent rfl) <| .cons (.unixNow _) <|
      .cons (.lookupFresh rfl) <| .cons (.dispatch _ _) .nil⟩

/-- The trace of a reload, and of a stop after it. -/
def reloadTrace (vmids : List UInt32) : ServerTrace :=
  ((reloadEvents vmids ++ [(⟨.index .clearSnapshots, ()⟩ : Event Effect)]).map
    (Entry.event 0)).reverse ++ [.start 0 reloadCall]

def stopAfterReload (vmids : List UInt32) : ServerTrace :=
  .event 1 ⟨.http (.dispatch "pve" stopRequest), (14 : ℕ)⟩ ::
    ((stopEvents.map (Entry.event 1)).reverse ++ .start 1 stopCall :: reloadTrace vmids)

/-- The configurations that reloads have read. -/
def readBy : Entry Effect Served CallResult → Option (List (String × Cluster))
  | .event _ ⟨.reloadInventory, .ok clusters⟩ => some clusters
  | _ => none

/-- The servers that have served. -/
def servedBy : Entry Effect Served CallResult → Option ProxmoxServer
  | .start _ ⟨server, .serve _ _⟩ => some server
  | _ => none

omit [Externals] in
/-- The stop is sent, whatever the reload has read. -/
private theorem reachable_stopAfterReload (vmids : List UInt32) : ∃ pool : Pool keptMachine,
    Reachable keptMachine pool ∧ pool.trace = stopAfterReload vmids := by
  let _ : Externals := Externals.plain
  have hempty : Reachable keptMachine keptPool := .initial ⟨rfl, trivial⟩
  obtain ⟨dropped, stopped, hreload, hstop⟩ := performs_reload_stop vmids
  obtain ⟨_, hreloaded⟩ := reloadCall_reaches vmids
  obtain ⟨pool, hpool, hworld, htrace⟩ := @Reachable.call _ _ _ hempty 0 reloadCall _ _ _ _ _
    (fun _ => List.not_mem_nil) hreloaded hreload
  have hlength : pool.trace.length = 4 := by simp [htrace, keptPool, reloadEvents]
  have hunused : Fresh 1 pool.trace := by simp [Fresh, htrace, keptPool]
  rw [← hworld, show 5 = pool.trace.length + 1 by rw [hlength]] at hstop
  obtain ⟨_, hstopped⟩ := stopCall_reaches
  obtain ⟨pool', hpool', -, htrace'⟩ := @Reachable.call _ _ _ hpool 1 stopCall _ _ _ _ _
    hunused hstopped hstop
  refine ⟨pool', hpool', ?_⟩
  rw [htrace', htrace, List.map_append, List.reverse_append, stopAfterReload]
  rfl

omit [Externals] in
/-- **A reload is not followed**: a guest that it pins is stopped without a waiver. -/
theorem exists_not_decidesReloaded : ∃ pool : Pool keptMachine, Reachable keptMachine pool ∧
    ¬ @DecidesReloaded Externals.plain pool.trace := by
  let _ : Externals := Externals.plain
  obtain ⟨pool, hpool, htrace⟩ := reachable_stopAfterReload [100]
  refine ⟨pool, hpool, fun hdecides => ?_⟩
  have hsends := hdecides [] ((stopEvents.map (Entry.event 1)).reverse) (reloadTrace [100]) 1
    oneClusterServer _ _ "pve" stopRequest (14 : ℕ) htrace (by decide) []
    ⟨"https://pve:8006", [100], []⟩ List.nil_suffix rfl
  obtain ⟨-, authorization, hlow, -⟩ := hsends
  have hclient : some (ProxmoxClient.mk "pve" ⟨"https://pve:8006", [100], []⟩) =
      some authorization.client := hlow.client
  have hadmitted := hlow.authorized.admitted
  have hpinned : authorization.guest.vmid ∈ authorization.client.cluster.protectedVmids := by
    rw [hadmitted.guest_vmid, ← Option.some.inj hclient]
    exact List.mem_cons_self
  obtain ⟨now, -, ⟨entry, hentry, -⟩ | hlab⟩ :=
    hadmitted.overridden rfl (isProtected_protectionOf_some.mpr (.inl hpinned))
  · exact absurd hentry List.not_mem_nil
  · exact absurd hlab (by decide)

omit [Externals] in
/-- A stop after a reload that reads what the server was started with. -/
theorem decidesReloaded_of_sameLists : ∃ pool : Pool keptMachine,
    pool.trace = stopAfterReload [] ∧ @DecidesReloaded Externals.plain pool.trace := by
  let _ : Externals := Externals.plain
  obtain ⟨pool, hpool, htrace⟩ := reachable_stopAfterReload []
  refine ⟨pool, htrace, decidesReloaded_of_listsKept (hpool.by_of ?_)⟩
  intro before after _ _ hafter later older id server caller tool client request ticket hevent
    hstart _ recent cluster hrecent hreloaded built hbuilt hname
  obtain ⟨id', clusters, hmem, hlookup⟩ := exists_reload_of_reloaded hreloaded
  have hsuffix : (recent ++ .start id ⟨server, .serve caller tool⟩ :: older) ⊆
      stopAfterReload [] := by
    rw [← htrace]
    refine fun entry hentry => hafter.subset ?_
    rw [hevent, hstart]
    refine List.mem_cons_of_mem _ ?_
    rcases List.mem_append.mp hentry with hentry | hentry
    · exact List.mem_append_left _ (hrecent.subset hentry)
    · exact List.mem_append_right _ hentry
  have hserver : Entry.start id ⟨server, .serve caller tool⟩ ∈ stopAfterReload [] :=
    hsuffix (List.mem_append_right _ List.mem_cons_self)
  -- the only reload has read the lists of the only server
  have hread : clusters ∈ (stopAfterReload []).filterMap readBy :=
    List.mem_filterMap.mpr ⟨_, hsuffix hmem, rfl⟩
  have hserved : server ∈ (stopAfterReload []).filterMap servedBy :=
    List.mem_filterMap.mpr ⟨_, hserver, rfl⟩
  rw [show (stopAfterReload []).filterMap readBy = [pinning []] from rfl,
    List.mem_singleton] at hread
  rw [show (stopAfterReload []).filterMap servedBy = [oneClusterServer] from rfl,
    List.mem_singleton] at hserved
  subst hread hserved
  obtain rfl := List.mem_singleton.mp hbuilt
  obtain rfl : "pve" = client := hname
  obtain rfl := Option.some.inj hlookup
  exact ⟨rfl, rfl⟩

end Pinned

end ProxmoxMcp
