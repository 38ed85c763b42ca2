import ProxmoxMcp.Server.SettledRecords

/-!
# Runs with honest outcomes

Outcomes are honest in every clear run (`honestOutcomes_of_clearRun`). They are not in a run over
two clusters of which one is named like the part of the other before its first slash: a copy is made
on the second, and a recovery asks the first how its task ended.
-/

namespace ProxmoxMcp

open Interaction Text
open Program hiding bind

variable [Externals] {coordinator : Coordinator} {ttl : ℕ}

/-- A record is claimed once, by one apply. -/
theorem ClaimedIn.unique (laws : coordinator.Lawful) {pool : Pool (serverMachine coordinator ttl)}
    (h : Reachable (serverMachine coordinator ttl) pool) {key : String} {id id' : ℕ}
    {served served' : Served} {call call' : ApplyCall} {claimed claimed' : ChangeSet}
    (hclaimed : ClaimedIn pool.trace key id served call claimed)
    (hclaimed' : ClaimedIn pool.trace key id' served' call' claimed') :
    id = id' ∧ served = served' ∧ call = call' ∧ claimed = claimed' := by
  obtain ⟨device, hevent⟩ := hclaimed.claim
  obtain ⟨device', hevent'⟩ := hclaimed'.claim
  have hkept := kept_of_reachable laws h
  have hentry := hkept.eq_of_spends hevent hevent' ⟨_, _, _, rfl⟩ ⟨_, _, _, rfl⟩
  obtain ⟨rfl, heq⟩ := Entry.event.inj hentry
  cases heq
  obtain rfl := h.start_unique hclaimed.start hclaimed'.start
  exact ⟨rfl, rfl, Option.some.inj (hclaimed.apply.symm.trans hclaimed'.apply), rfl⟩

/-- **Outcomes are honest** in every clear run. -/
theorem honestOutcomes_of_clearRun (laws : coordinator.Lawful) (ids : coordinator.Ids)
    {pool : Pool (serverMachine coordinator ttl)}
    (h : Reachable (serverMachine coordinator ttl) pool) (hclear : ClearRun pool.trace) :
    HonestOutcomes (coordinator.find pool.world.records) pool.trace := by
  have hsettled := settled_of_reachable laws ids h hclear
  have hkept := kept_of_reachable laws h
  constructor
  · intro key id served call claimed record hclaimed hfind
    obtain rfl := laws.id_of_find hfind
    obtain ⟨device, hclaim⟩ := hclaimed.claim
    have hspent := hsettled.spent hclaim ⟨_, _, _, rfl⟩ hfind
    have hhonest := hsettled.stored hfind
    -- a claimed record is spent, which leaves three states
    cases hstate : record.state with
    | applying => exact .inl rfl
    | applied =>
      obtain ⟨id', served', call', claimed', hclaimed', happlied⟩ := hhonest.applied hstate
      obtain ⟨rfl, rfl, rfl, rfl⟩ := hclaimed.unique laws h hclaimed'
      exact .inr (.inl ⟨rfl, happlied⟩)
    | failed =>
      obtain ⟨id', served', call', claimed', hclaimed', hfailed⟩ := hhonest.failed hstate
      obtain ⟨rfl, rfl, rfl, rfl⟩ := hclaimed.unique laws h hclaimed'
      exact .inr (.inr ⟨rfl, hfailed⟩)
    | _ =>
      rw [hstate] at hspent
      cases hspent
  · rintro newer older id served call ⟨op, reply⟩ upid task htrace hstart hcall hfamily hanswered
      hparse
    obtain ⟨hstarted, hdoes⟩ := does_of_event h htrace hstart
    obtain ⟨key, device, claimed, hclaim, rfl⟩ :=
      (hdoes.steps call hcall).handle hfamily upid task hanswered hparse
    exact ⟨key, claimed, reply, ⟨hstarted, hcall, device, mem_historyOf_iff.mp hclaim⟩, rfl⟩
  · intro key id served call claimed upid record hclaimed hmem hfind hstate
    obtain ⟨device, hclaim⟩ := hclaimed.claim
    obtain ⟨rfl, -, -⟩ := hkept.answered hclaim .claimed
    exact hsettled.handle hclaimed.start hclaimed.apply hmem hfind hstate

/-! ### A copy on a cluster that shares the first part of its name -/

section Misread

/-- The two clusters of `twoClusterServer`. -/
def clusterOf : Bool → String
  | false => "prod"
  | true => "prod/eu"

def movedAction (second : Bool) : RestoreNewVmidAction :=
  ⟨clusterOf second, "pve1", 901, "qemu", "local:backup/vzdump-qemu-100.vma", 100⟩

/-- The record of a copy on one of them. -/
def movedCopy (second : Bool) : ChangeSet where
  id := "cs-1"
  device := clusterOf second ++ "/901"
  actions := [(movedAction second).toJson]
  owner := "planner"
  expectedCandidateFingerprint := @restoreTargetFingerprint Externals.plain (clusterOf second) 901
  policySignature := policySignature
  digest := @restoreTargetFingerprint Externals.plain (clusterOf second) 901
  state := .planned
  preview := some ⟨renderRestoreNewVmidPreview (movedAction second),
    renderRestoreNewVmidPreview (movedAction second)⟩
  taskId := none

/-- The handle of the copy. -/
def movedHandle : String := "UPID:pve1:0001:0002:5F:qmrestore:901:root@pam:"

def moveArgs (second : Bool) : ChangeSetArgs := ⟨"cs-1", clusterOf second, 901⟩

/-- Plan the copy, approve it, apply it, and recover. -/
def planMove (second : Bool) : Served := ⟨twoClusterServer, .serve (some destructiveCaller)
  (.planRestoreNewVmid ⟨clusterOf second, "pve1", 901, "qemu", (movedAction second).volid⟩)⟩

def approveMove (second : Bool) : Served := ⟨twoClusterServer, .serve
  (some { destructiveCaller with tokenName := "reviewer", actorType := .human })
  (.approveChangeSet (moveArgs second))⟩

def applyMove (second : Bool) : Served :=
  ⟨twoClusterServer, .serve (some destructiveCaller) (.applyRestoreNewVmid (moveArgs second))⟩

def recoverMove : Served := ⟨twoClusterServer, .recover⟩

/-- The listing of the archive. -/
def movedListing : Json :=
  .array [.object [("volid", .string (movedAction false).volid), ("vmid", .unsigned 100)]]

/-- A call sees the archive. -/
def archiveRead (second : Bool) (time : ℕ) : List (Event Effect) :=
  [⟨.http (.dispatch (clusterOf second) (Guests.backupListingRequest "pve1" "local")), time⟩,
    ⟨.http (.await time), answerOf movedListing⟩]

/-- A call looks a guest up, and there are none. -/
def guestAbsent (second : Bool) (vmid : UInt32) (generation : UInt64) (time : ℕ) :
    List (Event Effect) :=
  [⟨.index (.lookupFresh (clusterOf second) vmid), none⟩, ⟨.index .loadGeneration, generation⟩,
    ⟨.http (.dispatch (clusterOf second) listingRequest), time⟩,
    ⟨.http (.await time), answerOf (.array [])⟩,
    ⟨.index (.storeIfCurrent (clusterOf second) generation .empty), ()⟩]

/-- A call sees that the owner of the archive is gone and the target is free. -/
def targetFree (second : Bool) (generation : UInt64) (time : ℕ) : List (Event Effect) :=
  archiveRead second time ++ guestAbsent second 100 generation (time + 4) ++
    [⟨.index .bumpGeneration, ()⟩, ⟨.index (.removeSnapshot (clusterOf second)), ()⟩] ++
    guestAbsent second 901 (generation + 1) (time + 11)

def planMoveEvents (second : Bool) : List (Event Effect) :=
  targetFree second 0 1 ++
    [⟨.coordinator (.createChangeSet (movedCopy second).device (movedCopy second).actions "planner"
        (movedCopy second).expectedCandidateFingerprint policySignature),
        .ok (RecordList.output (movedCopy second))⟩,
      ⟨.coordinator .changeSets, [{ movedCopy second with preview := none }]⟩]

def approveMoveEvents (second : Bool) : List (Event Effect) :=
  ⟨.coordinator (.changeSet "cs-1" (movedCopy second).device), .ok (movedCopy second)⟩ ::
    guestAbsent second 100 1 22

def applyMoveEvents (second : Bool) : List (Event Effect) :=
  ⟨.coordinator (.changeSet "cs-1" (movedCopy second).device),
      .ok { movedCopy second with state := .approved }⟩ ::
    targetFree second 1 28 ++
      [⟨.coordinator (.claimChangeSetForApply "cs-1" (movedCopy second).device),
          .ok { movedCopy second with state := .applying }⟩,
        ⟨.http (.dispatch (clusterOf second) (Guests.restoreBackupRequest "pve1" .qemu 901
          (movedAction second).volid false)), (43 : ℕ)⟩,
        ⟨.http (.await 43), answerOf (.string movedHandle)⟩]

/-- The recovery asks the first cluster, and is told that a task of this name has ended well. -/
def recoverMoveEvents (second : Bool) : List (Event Effect) :=
  [⟨.coordinator .changeSets,
      [{ movedCopy second with state := .applying, taskId := some movedHandle }]⟩,
    ⟨.http (.dispatch "prod" (statusRequest "pve1" movedHandle)), (49 : ℕ)⟩,
    ⟨.http (.await 49), answerOf (.object [("status", .string "stopped"),
      ("exitstatus", .string "OK")])⟩]

omit [Externals] in
private theorem planMove_reaches (second : Bool) : ∃ next,
    Reaches (@Served.body Externals.plain (planMove second)) (planMoveEvents second)
      (.perform (.coordinator (.updateChangeSet (movedCopy second))) next) := by
  cases second <;>
  · apply Exists.intro
    iterate 16 refine Reaches.step _ _ _ ?_
    exact Reaches.refl _

omit [Externals] in
private theorem approveMove_reaches (second : Bool) : ∃ next,
    Reaches (@Served.body Externals.plain (approveMove second)) (approveMoveEvents second)
      (.perform (.coordinator (.approveChangeSet "cs-1" (movedCopy second).device "reviewer"
        (movedCopy second).digest .human)) next) := by
  cases second <;>
  · apply Exists.intro
    iterate 6 refine Reaches.step _ _ _ ?_
    exact Reaches.refl _

omit [Externals] in
private theorem applyMove_reaches (second : Bool) : ∃ next,
    Reaches (@Served.body Externals.plain (applyMove second)) (applyMoveEvents second)
      (.perform (.coordinator (.updateChangeSet { movedCopy second with
        state := .applying, taskId := some movedHandle })) next) := by
  cases second <;>
  · apply Exists.intro
    iterate 18 refine Reaches.step _ _ _ ?_
    exact Reaches.refl _

omit [Externals] in
private theorem recoverMove_reaches (second : Bool) : ∃ next,
    Reaches (@Served.body Externals.plain recoverMove) (recoverMoveEvents second)
      (.perform (.coordinator (.updateChangeSet { movedCopy second with
        state := .applied, taskId := none })) next) := by
  cases second <;>
  · apply Exists.intro
    iterate 3 refine Reaches.step _ _ _ ?_
    exact Reaches.refl _

/-- The world before the run. -/
def emptyWorld : ServerWorld Coordinator.inMemory := ⟨⟨fun _ => none, 0, 0⟩, .empty⟩

omit [Externals] in
/-- The plan, the approval and the apply run one after the other. -/
private theorem performs_move (second : Bool) : ∃ planned approved applied,
    memoryMachine.Performs emptyWorld 1 []
      (planMoveEvents second ++ [⟨.coordinator (.updateChangeSet (movedCopy second)), .ok ()⟩])
      planned ∧
    memoryMachine.Performs planned 19 [] (approveMoveEvents second ++ [⟨.coordinator
      (.approveChangeSet "cs-1" (movedCopy second).device "reviewer" (movedCopy second).digest
        .human), .ok (RecordList.output { movedCopy second with state := .approved })⟩]) approved ∧
    memoryMachine.Performs approved 27 [] (applyMoveEvents second ++ [⟨.coordinator
      (.updateChangeSet { movedCopy second with
        state := .applying, taskId := some movedHandle }), .ok ()⟩]) applied ∧
    applied.records.records =
      [{ movedCopy second with state := .applying, taskId := some movedHandle }] := by
  cases second <;>
    exact ⟨_, _, _,
      .cons (.dispatch _ _) <| .cons (.await _ _) <| .cons (.lookupFresh rfl) <|
        .cons (.loadGeneration rfl) <| .cons (.dispatch _ _) <| .cons (.await _ _) <|
        .cons (.storeIfCurrent rfl) <| .cons (.index .bumpGeneration) <|
        .cons (.index (.removeSnapshot _)) <| .cons (.lookupFresh rfl) <|
        .cons (.loadGeneration rfl) <| .cons (.dispatch _ _) <| .cons (.await _ _) <|
        .cons (.storeIfCurrent rfl) <| .cons (.coordinator ⟨"cs-1", rfl, rfl⟩) <|
        .cons (.coordinator ⟨"cs-2", rfl, rfl⟩) <| .cons (.coordinator ⟨"cs-2", rfl, rfl⟩) .nil,
      .cons (.coordinator ⟨"cs-2", rfl, rfl⟩) <| .cons (.lookupFresh rfl) <|
        .cons (.loadGeneration rfl) <| .cons (.dispatch _ _) <| .cons (.await _ _) <|
        .cons (.storeIfCurrent rfl) <| .cons (.coordinator ⟨"cs-2", rfl, rfl⟩) .nil,
      .cons (.coordinator ⟨"cs-2", rfl, rfl⟩) <| .cons (.dispatch _ _) <|
        .cons (.await _ _) <| .cons (.lookupFresh rfl) <| .cons (.loadGeneration rfl) <|
        .cons (.dispatch _ _) <| .cons (.await _ _) <| .cons (.storeIfCurrent rfl) <|
        .cons (.index .bumpGeneration) <| .cons (.index (.removeSnapshot _)) <|
        .cons (.lookupFresh rfl) <| .cons (.loadGeneration rfl) <| .cons (.dispatch _ _) <|
        .cons (.await _ _) <| .cons (.storeIfCurrent rfl) <|
        .cons (.coordinator ⟨"cs-2", rfl, rfl⟩) <| .cons (.dispatch _ _) <| .cons (.await _ _) <|
        .cons (.coordinator ⟨"cs-2", rfl, rfl⟩) .nil, rfl⟩

omit [Externals] in
/-- The recovery runs over the records that the apply has left. -/
private theorem performs_recoverMove (second : Bool) {world : ServerWorld Coordinator.inMemory}
    (hrecords : world.records.records =
      [{ movedCopy second with state := .applying, taskId := some movedHandle }]) :
    ∃ recovered, memoryMachine.Performs world 48 [] (recoverMoveEvents second ++ [⟨.coordinator
        (.updateChangeSet { movedCopy second with state := .applied, taskId := none }), .ok ()⟩])
      recovered ∧ RecordList.find recovered.records "cs-1" =
        some { movedCopy second with state := .applied, taskId := none } := by
  obtain ⟨index, ⟨records, hnodup⟩⟩ := world
  obtain rfl := hrecords
  exact ⟨_, .cons (.coordinator ⟨"cs-2", rfl, rfl⟩) <| .cons (.dispatch _ _) <|
    .cons (.await _ _) <| .cons (.coordinator ⟨"cs-2", rfl, rfl⟩) .nil, rfl⟩

/-- What each of the calls does, to its last write. -/
def planMoveRun (second : Bool) : List (Event Effect) :=
  planMoveEvents second ++ [⟨.coordinator (.updateChangeSet (movedCopy second)), .ok ()⟩]

def approveMoveRun (second : Bool) : List (Event Effect) :=
  approveMoveEvents second ++ [⟨.coordinator (.approveChangeSet "cs-1" (movedCopy second).device
    "reviewer" (movedCopy second).digest .human),
    .ok (RecordList.output { movedCopy second with state := .approved })⟩]

def applyMoveRun (second : Bool) : List (Event Effect) :=
  applyMoveEvents second ++ [⟨.coordinator (.updateChangeSet { movedCopy second with
    state := .applying, taskId := some movedHandle }), .ok ()⟩]

def recoverMoveRun (second : Bool) : List (Event Effect) :=
  recoverMoveEvents second ++ [⟨.coordinator (.updateChangeSet { movedCopy second with
    state := .applied, taskId := none }), .ok ()⟩]

/-- The run: the server goes down between the apply and the recovery. -/
def moveTrace (second : Bool) : ServerTrace :=
  ((recoverMoveRun second).map (Entry.event 3)).reverse ++ .start 3 recoverMove :: .crash ::
    (((applyMoveRun second).map (Entry.event 2)).reverse ++ .start 2 (applyMove second) ::
    (((approveMoveRun second).map (Entry.event 1)).reverse ++ .start 1 (approveMove second) ::
    (((planMoveRun second).map (Entry.event 0)).reverse ++ [.start 0 (planMove second)])))

omit [Externals] in
private theorem exists_move (second : Bool) : ∃ pool : Pool memoryMachine,
    Reachable memoryMachine pool ∧ pool.trace = moveTrace second ∧
      RecordList.find pool.world.records "cs-1" =
        some { movedCopy second with state := .applied, taskId := none } := by
  let _ : Externals := Externals.plain
  have hempty : Reachable memoryMachine ⟨emptyWorld, fun _ => none, []⟩ := .initial ⟨rfl, rfl⟩
  obtain ⟨planned, approved, applied, hplan, happrove, happly, hrecords⟩ := performs_move second
  obtain ⟨_, hplanned⟩ := planMove_reaches second
  obtain ⟨pool, hpool, hworld, htrace⟩ := @Reachable.call _ _ _ hempty 0 (planMove second) _ _ _ _ _
    (fun _ => List.not_mem_nil) hplanned hplan
  have hlength : pool.trace.length = 18 := by
    simp [htrace, planMoveEvents, targetFree, archiveRead, guestAbsent]
  have hunused : Fresh 1 pool.trace := by simp [Fresh, htrace]
  rw [← hworld, show 19 = pool.trace.length + 1 by rw [hlength]] at happrove
  obtain ⟨_, happroved⟩ := approveMove_reaches second
  obtain ⟨pool₁, hpool₁, hworld₁, htrace₁⟩ := @Reachable.call _ _ _ hpool 1 (approveMove second)
    _ _ _ _ _ hunused happroved happrove
  have hlength₁ : pool₁.trace.length = 26 := by
    simp [htrace₁, hlength, approveMoveEvents, guestAbsent]
  have hunused₁ : Fresh 2 pool₁.trace := by simp [Fresh, htrace₁, htrace]
  rw [← hworld₁, show 27 = pool₁.trace.length + 1 by rw [hlength₁]] at happly
  obtain ⟨_, happlied⟩ := applyMove_reaches second
  obtain ⟨pool₂, hpool₂, hworld₂, htrace₂⟩ := @Reachable.call _ _ _ hpool₁ 2 (applyMove second)
    _ _ _ _ _ hunused₁ happlied happly
  have hlength₂ : pool₂.trace.length = 46 := by
    simp [htrace₂, hlength₁, applyMoveEvents, targetFree, archiveRead, guestAbsent]
  -- the server goes down, and keeps the records
  have hcrash : Reachable memoryMachine ⟨⟨⟨fun _ => none, 0, 0⟩, pool₂.world.records⟩,
      fun _ => none, .crash :: pool₂.trace⟩ := hpool₂.step (.crash ⟨rfl, rfl⟩)
  have hunused₂ : Fresh 3 (.crash :: pool₂.trace) := by simp [Fresh, htrace₂, htrace₁, htrace]
  obtain ⟨recovered, hrecover, hfind⟩ := @performs_recoverMove second
    ⟨⟨fun _ => none, 0, 0⟩, pool₂.world.records⟩ (by rw [hworld₂, hrecords])
  have htime : 48 = (Entry.crash :: pool₂.trace).length + 1 := by rw [List.length_cons, hlength₂]
  rw [htime] at hrecover
  obtain ⟨_, hrecovered⟩ := recoverMove_reaches second
  obtain ⟨pool₃, hpool₃, hworld₃, htrace₃⟩ := @Reachable.call _ _ _ hcrash 3 recoverMove
    _ _ _ _ _ hunused₂ hrecovered hrecover
  refine ⟨pool₃, hpool₃, ?_, by rw [hworld₃, hfind]⟩
  rw [htrace₃, htrace₂, htrace₁, htrace]
  rfl

/-- What all the calls do. -/
def moveRuns (second : Bool) : List (List (Event Effect)) :=
  [planMoveRun second, approveMoveRun second, applyMoveRun second, recoverMoveRun second]

omit [Externals] in
private theorem exists_run_of_moveTrace {second : Bool} {id : ℕ} {event : Event Effect}
    (h : .event id event ∈ moveTrace second) : ∃ run ∈ moveRuns second, event ∈ run := by
  have hruns : event ∈ recoverMoveRun second ∨ event ∈ applyMoveRun second ∨
      event ∈ approveMoveRun second ∨ event ∈ planMoveRun second := by
    simp only [moveTrace, List.mem_append, List.mem_reverse, List.mem_map, Entry.event.injEq,
      List.mem_cons, reduceCtorEq, false_or, List.not_mem_nil, or_false] at h
    rcases h with ⟨_, hmem, -, rfl⟩ | ⟨_, hmem, -, rfl⟩ | ⟨_, hmem, -, rfl⟩ | ⟨_, hmem, -, rfl⟩ <;>
      simp [hmem]
  rcases hruns with hmem | hmem | hmem | hmem <;> exact ⟨_, by simp [moveRuns], hmem⟩

/-- The request that an event sends, and its ticket. -/
def sentBy : Event Effect → Option (String × ApiRequest × ℕ)
  | ⟨.http (.dispatch client request), ticket⟩ => some (client, request, ticket)
  | _ => none

/-- The answer that an event brings, and the ticket of its request. -/
def answeredBy : Event Effect → Option (ℕ × Except HttpError HttpResponse)
  | ⟨.http (.await ticket), reply⟩ => some (ticket, reply)
  | _ => none

/-- A write that has failed. -/
def failedWrite : Event Effect → Bool
  | ⟨.coordinator (.updateChangeSet _), .error _⟩ => true
  | _ => false

/-- The only request of the apply that changes the cluster is answered with the handle. -/
private theorem eq_movedHandle {second : Bool} {client : String} {data : Json}
    (h : Accepted client data (historyOf 2 (moveTrace second))) : data = .string movedHandle := by
  obtain ⟨request, response, hmutating, ⟨ticket, hdispatch, hawait⟩, hread⟩ := h
  have hevent {event : Event Effect} (h : event ∈ historyOf 2 (moveTrace second)) :
      event ∈ applyMoveRun second := by
    simpa [moveTrace] using mem_historyOf_iff.mp h
  have hsent : ∀ sent ∈ (applyMoveRun second).filterMap sentBy,
      sent.2.1.Mutating → sent.2.2 = 43 := by
    cases second <;> decide
  have hanswers : (applyMoveRun second).filterMap answeredBy =
      [(28, answerOf movedListing), (32, answerOf (.array [])), (39, answerOf (.array [])),
        (43, answerOf (.string movedHandle))] := rfl
  obtain rfl : ticket = 43 :=
    hsent (client, request, ticket) (List.mem_filterMap.mpr ⟨_, hevent hdispatch, rfl⟩) hmutating
  have hanswer : (43, .ok response) ∈ (applyMoveRun second).filterMap answeredBy :=
    List.mem_filterMap.mpr ⟨_, hevent hawait, rfl⟩
  simp only [hanswers, List.mem_cons, List.not_mem_nil, or_false, Prod.mk.injEq, Nat.reduceEqDiff,
    false_and, false_or, true_and] at hanswer
  obtain rfl := Except.ok.inj hanswer
  exact (Except.ok.inj hread).symm

omit [Externals] in
/-- Nobody asks the second cluster how the task ended. -/
private theorem not_asked_second {id ticket : ℕ} : .event id ⟨.http (.dispatch "prod/eu"
    (statusRequest "pve1" movedHandle)), ticket⟩ ∉ moveTrace true := by
  intro hmem
  have hsent : ∀ run ∈ moveRuns true, ∀ sent ∈ run.filterMap sentBy,
      sent.1 = "prod/eu" → sent.2.1 ≠ statusRequest "pve1" movedHandle := by decide
  obtain ⟨run, hrun, hevent⟩ := exists_run_of_moveTrace hmem
  exact hsent run hrun (_, _, ticket) (List.mem_filterMap.mpr ⟨_, hevent, rfl⟩) rfl rfl

omit [Externals] in
/-- **Outcomes are not always honest**: the copy on the second cluster is recorded as applied,
though that cluster was never asked how its task ended. -/
theorem exists_not_honestOutcomes : ∃ pool : Pool memoryMachine, Reachable memoryMachine pool ∧
    (∀ id updated error, .event id ⟨.coordinator (.updateChangeSet updated), .error error⟩ ∉
      pool.trace) ∧
    ¬ @HonestOutcomes Externals.plain (RecordList.find pool.world.records) pool.trace := by
  let _ : Externals := Externals.plain
  obtain ⟨pool, hpool, htrace, hfind⟩ := exists_move true
  refine ⟨pool, hpool, fun id updated error hmem => ?_, fun hhonest => ?_⟩
  · have hwrites : ∀ run ∈ moveRuns true, ∀ event ∈ run, failedWrite event = false := by decide
    obtain ⟨run, hrun, hevent⟩ := exists_run_of_moveTrace (htrace ▸ hmem)
    cases hwrites run hrun _ hevent
  · have hclaimed : ClaimedIn pool.trace "cs-1" 2 (applyMove true)
        (twoClusterServer.restoreCall (some destructiveCaller) (moveArgs true))
        { movedCopy true with state := .applying } := by
      refine ⟨by simp [htrace, moveTrace], rfl, (movedCopy true).device, ?_⟩
      simp [htrace, moveTrace, applyMoveRun, applyMoveEvents]
    rcases hhonest.settled hclaimed hfind with hstate | ⟨-, happlied⟩ | ⟨hstate, -⟩
    · cases hstate
    · rw [htrace] at happlied
      cases happlied with
      | haRule hfamily => cases hfamily
      | unnamed hunnamed haccepted =>
        rw [eq_movedHandle haccepted] at hunnamed
        exact absurd hunnamed (by decide)
      | ended haccepted hended =>
        obtain rfl := Json.string.inj (eq_movedHandle haccepted)
        obtain ⟨id, _, -, -, task, _, _, hparse, ⟨ticket, hdispatch, -⟩, -⟩ := hended
        obtain rfl : (⟨"pve1", "qmrestore", "901"⟩ : Upid) = task := Except.ok.inj hparse
        exact not_asked_second (mem_historyOf_iff.mp hdispatch)
    · cases hstate

/-- The text that an answer names. -/
def namedBy (reply : Except HttpError HttpResponse) : Option String := do
  let response ← reply.toOption
  let data ← (@ProxmoxClient.readAnswer Externals.plain response).toOption
  data.asStr

omit [Externals] in
/-- The same run on the first cluster is clear. -/
private theorem clearRun_moveTrace : @ClearRun Externals.plain (moveTrace false) := by
  let _ : Externals := Externals.plain
  constructor
  · intro id id' served recovery call cluster rest hstart hcall _ _ hsplit
    have hserved : id = 3 ∧ served = recoverMove ∨ id = 2 ∧ served = applyMove false ∨
        id = 1 ∧ served = approveMove false ∨ id = 0 ∧ served = planMove false := by
      simpa [moveTrace] using hstart
    rcases hserved with ⟨-, rfl⟩ | ⟨-, rfl⟩ | ⟨-, rfl⟩ | ⟨-, rfl⟩
    · cases hcall
    · obtain rfl := Option.some.inj hcall
      cases hsplit
    · cases hcall
    · cases hcall
  · intro id served call ticket response upid task _ _ hevent hread hparse
    have hnamed : ∀ run ∈ moveRuns false, ∀ answer ∈ run.filterMap answeredBy,
        namedBy answer.2 = none ∨ namedBy answer.2 = some movedHandle := by decide
    obtain ⟨run, hrun, hmem⟩ := exists_run_of_moveTrace hevent
    have hanswer := hnamed run hrun (ticket, .ok response) (List.mem_filterMap.mpr ⟨_, hmem, rfl⟩)
    have hnames : namedBy (.ok response) = some upid := by
      simp [namedBy, hread, Except.toOption, Json.asStr]
    obtain rfl : upid = movedHandle := by
      rw [hnames] at hanswer
      simpa using hanswer
    obtain rfl : (⟨"pve1", "qmrestore", "901"⟩ : Upid) = task := Except.ok.inj hparse
    decide

omit [Externals] in
theorem honestOutcomes_of_firstCluster : ∃ pool : Pool memoryMachine,
    (∃ record, RecordList.find pool.world.records "cs-1" = some record ∧ record.state = .applied) ∧
      @HonestOutcomes Externals.plain (RecordList.find pool.world.records) pool.trace := by
  let _ : Externals := Externals.plain
  obtain ⟨pool, hpool, htrace, hfind⟩ := exists_move false
  exact ⟨pool, ⟨_, hfind, rfl⟩, honestOutcomes_of_clearRun Coordinator.lawful_inMemory
    Coordinator.inMemoryIds hpool (htrace ▸ clearRun_moveTrace)⟩

end Misread

end ProxmoxMcp
