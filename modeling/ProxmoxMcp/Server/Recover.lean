import ProxmoxMcp.Server.Outcome

/-!
# Recovering applies

When the server starts, some records may still be applying: the process that applied them has died.
`recoverInFlight` asks for each of them, by the task handle on the record, how its task ended, and
settles those that have. The cluster to ask is the part of the record's device **before its first
slash**.
-/

namespace ProxmoxMcp

open Interaction Program Text

/-- Who executed a recovered apply is not known. -/
def recoveredExecutor : String := "unknown:recovered-at-startup"

/-- What a task's status says about its end: nothing while it runs. -/
def recoveredExit (data : Json) : Option String :=
  if data.getStr "status" = some "running" then none else data.getStr "exitstatus"

namespace ProxmoxServer

variable (server : ProxmoxServer)

/-- The task of a record that was left applying, and the client to ask about it. -/
def inFlight (record : ChangeSet) : Option (ProxmoxClient × Upid × String) := do
  guard (record.state = .applying)
  let taskId ← record.taskId
  let upid ← (Upid.parse taskId).toOption
  let (cluster, _) ← splitOnce record.device '/'
  let client ← server.clientNamed cluster
  return (client, upid, taskId)

variable [Externals]

/-- Settle a record by the exit status of its task. -/
def settleRecovered (record : ChangeSet) (exitstatus : String) : ToolM Unit := do
  let succeeded : Bool := classifyExitStatus exitstatus == .ok
  onlyIf server.evidence do
    let _ ← resultReceipt record.id record.id record.device recoveredExecutor succeeded
      (if succeeded then "" else exitstatus)
  let _ ← updateChangeSet { record with
    state := if succeeded then .applied else .failed
    taskId := none }

/-- Settle one record, if it was left applying and its task has ended. -/
def recoverRecord (record : ChangeSet) : ToolM Unit :=
  match server.inFlight record with
  | none => return ()
  | some (client, upid, taskId) => do
    match ← attempt (client.send (statusRequest upid.node taskId)) with
    | .error _ => return ()
    | .ok data => match recoveredExit data with
      | none => return ()
      | some exitstatus => server.settleRecovered record exitstatus

/-- Settle every record whose task has ended since. -/
def recoverInFlight : ToolM Unit := do
  forM (← changeSets) server.recoverRecord

end ProxmoxServer

variable [Externals]

/-- What recovering may write to a record: the end of the task it names, as the cluster its device
names reports it. -/
inductive Recovers (h : History Effect) (updated : ChangeSet) : Prop
  | intro {records : List ChangeSet} {record : ChangeSet} {taskId cluster rest exitstatus : String}
      (read : ⟨.coordinator .changeSets, records⟩ ∈ h) (mem : record ∈ records)
      (applying : record.state = .applying) (handle : record.taskId = some taskId)
      (device : splitOnce record.device '/' = some (cluster, rest))
      (exited : Exited cluster taskId exitstatus h) (updated : updated = { record with
        state := if exitstatus = "OK" then .applied else .failed
        taskId := none })

/-- The policy of a recovery: it reads, and writes what it has read. -/
def recoverPolicy : Policy where
  lookups _ _ _ := False
  sends _ _ _ := False
  records h
    | .changeSets => True
    | .updateChangeSet updated => Recovers h updated
    | _ => False

variable {server : ProxmoxServer} {h : History Effect}

omit [Externals] in
theorem inFlight_eq_some {record : ChangeSet} {client : ProxmoxClient} {upid : Upid}
    {taskId : String} (hflight : server.inFlight record = some (client, upid, taskId)) :
    record.state = .applying ∧ record.taskId = some taskId ∧ Upid.parse taskId = .ok upid ∧
      ∃ rest, splitOnce record.device '/' = some (client.name, rest) := by
  simp only [ProxmoxServer.inFlight, Option.bind_eq_bind, Option.bind_eq_some_iff,
    Option.guard_eq_some', Option.pure_def, Option.some.injEq, Prod.mk.injEq] at hflight
  obtain ⟨-, happlying, taskId', htaskId, upid', hupid, ⟨cluster, rest⟩, hsplit, client',
    hclient, rfl, rfl, rfl⟩ := hflight
  rw [ProxmoxServer.name_of_clientNamed hclient]
  refine ⟨happlying, htaskId, ?_, rest, hsplit⟩
  cases hparse : Upid.parse taskId' with
  | error error => simp [hparse, Except.toOption] at hupid
  | ok task => simpa [hparse, Except.toOption] using hupid

omit [Externals] in
/-- An answer that names an exit status does not report the task as running. -/
theorem recoveredExit_eq_some {data : Json} {exitstatus : String}
    (hexit : recoveredExit data = some exitstatus) :
    data.getStr "status" ≠ some "running" ∧ data.getStr "exitstatus" = some exitstatus := by
  rw [recoveredExit] at hexit
  split_ifs at hexit with hrunning
  exact ⟨hrunning, hexit⟩

/-- All that is sent for a record is the status request of its task. -/
theorem ensures_recoverRecord_of_sends {G : History Effect → Op → Prop} {record : ChangeSet}
    (hsend : ∀ client upid taskId, server.inFlight record = some (client, upid, taskId) →
      ∀ h, G h (.http (.dispatch client.name (statusRequest upid.node taskId))))
    (hother : ∀ h op, (∀ name request, op ≠ .http (.dispatch name request)) → G h op) :
    Ensures G (fun _ _ => True) h (server.recoverRecord record) := by
  rw [ProxmoxServer.recoverRecord]
  split
  · exact ensures_pure.mpr trivial
  · next client upid taskId hflight =>
    refine Ensures.attempt (Guests.always_send (hsend client upid taskId hflight h)
      fun ticket => hother _ _ nofun) (fun _ _ hop => hop) fun h₁ outcome _ _ => ?_
    cases outcome with
    | error error => exact ensures_pure.mpr trivial
    | ok data =>
      dsimp only
      cases recoveredExit data with
      | none => exact ensures_pure.mpr trivial
      | some exitstatus =>
        refine Ensures.bind (R := fun _ _ => True)
          (ensures_onlyIf.mpr ⟨fun _ => ?_, fun _ => trivial⟩)
          (fun _ _ hop => hop) fun _ _ _ _ => ?_
        · exact Ensures.request (hother _ _ nofun) fun _ => ensures_pure.mpr trivial
        · exact Ensures.request (hother _ _ nofun) fun _ => ensures_pure.mpr trivial

private theorem ensures_settleRecovered {record : ChangeSet} {exitstatus : String}
    (hrecovers : ∀ h', h <:+ h' → Recovers h' { record with
      state := if exitstatus = "OK" then .applied else .failed, taskId := none }) :
    Ensures recoverPolicy.Allows (fun _ _ => True) h
      (server.settleRecovered record exitstatus) := by
  refine Ensures.bind (R := fun _ _ => True) (ensures_onlyIf.mpr ⟨fun _ => Ensures.request trivial
    fun _ => ensures_pure.mpr trivial, fun _ => trivial⟩) (fun _ _ hop => hop) fun h' _ hh' _ => ?_
  have hsettled := hrecovers h' hh'
  refine Ensures.request (show Recovers h' _ from ?_) fun _ => ensures_pure.mpr trivial
  by_cases hok : exitstatus = "OK" <;> simpa [hok, classifyExitStatus] using hsettled

private theorem ensures_recoverRecord {records : List ChangeSet} {record : ChangeSet}
    (hread : ⟨.coordinator .changeSets, records⟩ ∈ h) (hmem : record ∈ records) :
    Ensures recoverPolicy.Allows (fun _ _ => True) h (server.recoverRecord record) := by
  rw [ProxmoxServer.recoverRecord]
  split
  · exact ensures_pure.mpr trivial
  · next client upid taskId hflight =>
    obtain ⟨happlying, hhandle, hparse, rest, hdevice⟩ := inFlight_eq_some hflight
    refine Ensures.attempt (Guests.always_send (Policy.permits_of_reads (not_not.mpr rfl) trivial)
      fun _ => trivial) (fun _ _ hop => hop) fun h₁ outcome hh₁ hsent => ?_
    cases outcome with
    | error error => exact ensures_pure.mpr trivial
    | ok data =>
      obtain ⟨response, data', hreplied, hanswer, hdata⟩ := hsent.replied
      obtain rfl := Except.ok.inj hdata
      dsimp only
      cases hexit : recoveredExit data' with
      | none => exact ensures_pure.mpr trivial
      | some exitstatus =>
        obtain ⟨hrunning, hstatus⟩ := recoveredExit_eq_some hexit
        have hexited : Exited client.name taskId exitstatus h₁ :=
          ⟨upid, response, data', hparse, hreplied, hanswer, hrunning, hstatus⟩
        exact ensures_settleRecovered fun h' hh' => .intro ((hh₁.trans hh').subset hread) hmem
          happlying hhandle hdevice (hexited.mono hh') rfl

/-- **Recovering** writes only what a status reply says. -/
theorem ensures_recoverInFlight :
    Ensures recoverPolicy.Allows (fun _ _ => True) h server.recoverInFlight := by
  refine Ensures.request trivial fun records => ?_
  have hloop := ensures_forM (h := ⟨.coordinator .changeSets, records⟩ :: h) (l := records)
    (f := server.recoverRecord) (G := recoverPolicy.Allows)
    (I := fun h => ⟨.coordinator .changeSets, records⟩ ∈ h) (R := fun _ _ => True)
    List.mem_cons_self (fun record hrecord h hread => ?_) fun _ _ => trivial
  · exact hloop.mono (fun _ _ hop => hop) fun _ _ _ => trivial
  · refine (Always.frame (ensures_recoverRecord hread hrecord)).mono (fun _ _ hop => hop.1)
      fun h' outcome hframe value heq => ⟨hframe.2.subset hread, trivial⟩

end ProxmoxMcp
