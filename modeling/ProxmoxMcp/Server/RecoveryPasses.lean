import ProxmoxMcp.Interaction.Footprint
import ProxmoxMcp.Server.ApplyTrails

/-!
# Passes of a recovery

A recovery reads the records once and goes through them in order. `ProxmoxServer.Visits` says what
it does about one of them: nothing unless the record was left applying with a handle that parses, on
a device whose cluster the server knows; otherwise it asks once for the task, and if the task has
ended it notes the receipt and settles the record, in this order and with one verdict.

What happens about one record does not depend on the others: a pass that is over has visited
**every** record it has read (`visits_of_finish`), whatever the clusters have answered.
-/

namespace ProxmoxMcp

open Interaction Text
open Program hiding bind

variable [Externals]

/-- The exit status that a reply to a status request names, if its task has ended. -/
def exitNamed (reply : Except HttpError HttpResponse) : Option String :=
  (ProxmoxClient.readReply reply).toOption.bind recoveredExit

/-- What a recovery notes about a record whose task has ended: a receipt, if there is a recorder. -/
def ProxmoxServer.Notes (server : ProxmoxServer) (record : ChangeSet) (exitstatus : String)
    (noted : History Effect) : Prop :=
  if server.evidence then ∃ reply, noted = [⟨.evidence (.resultReceipt record.id record.id
    record.device recoveredExecutor (exitstatus == "OK")
    (if exitstatus == "OK" then "" else exitstatus)), reply⟩]
  else noted = []

/-- What a recovery does about one record. -/
inductive ProxmoxServer.Visits (server : ProxmoxServer) (record : ChangeSet) :
    History Effect → Prop
  | passedOver (grounded : server.inFlight record = none) : Visits server record []
  | unsendable {client upid taskId} (flies : server.inFlight record = some (client, upid, taskId))
      (refused : ¬ client.Sendable (statusRequest upid.node taskId)) : Visits server record []
  | unended {client upid taskId reply} {ticket : ℕ}
      (flies : server.inFlight record = some (client, upid, taskId))
      (unended : exitNamed reply = none) : Visits server record
        [⟨.http (.await ticket), reply⟩,
          ⟨.http (.dispatch client.name (statusRequest upid.node taskId)), ticket⟩]
  | ended {client upid taskId reply exitstatus noted written} {ticket : ℕ}
      (flies : server.inFlight record = some (client, upid, taskId))
      (exit : exitNamed reply = some exitstatus) (notes : server.Notes record exitstatus noted) :
      Visits server record (⟨.coordinator (.updateChangeSet
        (record.settle (exitstatus == "OK") none)), written⟩ :: noted ++
        [⟨.http (.await ticket), reply⟩,
          ⟨.http (.dispatch client.name (statusRequest upid.node taskId)), ticket⟩])

section Visits

/-- The footprint of a request that can be sent. -/
private theorem leaves_send {client : ProxmoxClient} {request : ApiRequest}
    (hsendable : client.Sendable request) :
    Leaves (fun (events : History Effect) outcome =>
        ∃ (ticket : ℕ) (reply : Except HttpError HttpResponse),
          outcome = ProxmoxClient.readReply reply ∧ events = [⟨.http (.await ticket), reply⟩,
            ⟨.http (.dispatch client.name request), ticket⟩])
      (client.send request).run := by
  rw [ProxmoxClient.run_send_of_sendable hsendable]
  exact fun ticket reply => ⟨ticket, reply, rfl, rfl⟩

variable {server : ProxmoxServer} {record : ChangeSet}

omit [Externals] in
/-- Settling notes the receipt first, if there is a recorder. -/
private theorem completes_settleRecovered {exitstatus : String} :
    Completes (fun (events : History Effect) _ => ∃ noted written,
      server.Notes record exitstatus noted ∧ events = ⟨.coordinator (.updateChangeSet
        (record.settle (exitstatus == "OK") none)), written⟩ :: noted)
      (server.settleRecovered record exitstatus) := by
  have hverdict : (classifyExitStatus exitstatus == .ok) = (exitstatus == "OK") := by
    rw [Bool.eq_iff_iff]
    simp
  rw [ProxmoxServer.settleRecovered, hverdict]
  unfold ProxmoxServer.Notes
  cases server.evidence with
  | true =>
    refine Completes.request fun reply => Completes.request fun written => completes_pure ?_
    exact ⟨_, written, ⟨reply, rfl⟩, rfl⟩
  | false => exact Completes.request fun written => completes_pure ⟨[], written, rfl, rfl⟩

/-- **One record** is visited, whatever the cluster answers. -/
theorem completes_recoverRecord : Completes (fun events _ => server.Visits record events)
    (server.recoverRecord record) := by
  rw [ProxmoxServer.recoverRecord]
  cases hflight : server.inFlight record with
  | none => exact completes_pure (.passedOver hflight)
  | some flight =>
    obtain ⟨client, upid, taskId⟩ := flight
    dsimp only
    rw [Completes, run_attempt_bind]
    by_cases hsendable : client.Sendable (statusRequest upid.node taskId)
    · refine (leaves_send hsendable).bind ?_
      rintro _ outcome ⟨ticket, reply, rfl, rfl⟩
      have hexit : exitNamed reply = (ProxmoxClient.readReply reply).toOption.bind recoveredExit :=
        rfl
      cases hreply : ProxmoxClient.readReply reply with
      | error error =>
        rw [hreply] at hexit
        exact completes_pure (.unended hflight hexit)
      | ok data =>
        rw [hreply] at hexit
        replace hexit : exitNamed reply = recoveredExit data := hexit
        dsimp only
        cases hrecovered : recoveredExit data with
        | none => exact completes_pure (.unended hflight (hexit.trans hrecovered))
        | some exitstatus =>
          refine completes_settleRecovered.mono ?_
          rintro events _ ⟨value, rfl, noted, written, hnotes, rfl⟩
          exact ⟨value, rfl, .ended hflight (hexit.trans hrecovered) hnotes⟩
    · obtain ⟨error, hrun⟩ := ProxmoxClient.run_send_of_not_sendable hsendable
      rw [hrun]
      exact completes_pure (.unsendable hflight hsendable)

/-- A pass visits every record it has read, in order. -/
private theorem completes_recoverInFlight : Completes (fun events _ => ∃ records blocks,
    List.Forall₂ server.Visits records blocks ∧
      events = blocks.reverse.flatten ++ [⟨.coordinator .changeSets, records⟩])
    server.recoverInFlight := by
  refine Completes.request fun records => ?_
  refine (completes_forM fun record _ => completes_recoverRecord).mono ?_
  rintro events _ ⟨value, rfl, blocks, hblocks, rfl⟩
  exact ⟨value, rfl, records, blocks, hblocks, rfl⟩

end Visits

/-! ### Runs -/

section Runs

variable {coordinator : Coordinator} {ttl : ℕ} {pool : Pool (serverMachine coordinator ttl)}
  {id : ℕ} {server : ProxmoxServer}

/-- **Recoveries are complete**: one that is over has succeeded, and has visited every record it
read at its start, in order. -/
theorem visits_of_finish (h : Reachable (serverMachine coordinator ttl) pool)
    (hstart : .start id ⟨server, .recover⟩ ∈ pool.trace) {result : CallResult}
    {newer older : ServerTrace} (htrace : pool.trace = newer ++ .finish id result :: older) :
    result = .ok .null ∧ ∃ records blocks, List.Forall₂ server.Visits records blocks ∧
      historyOf id older = blocks.reverse.flatten ++ [⟨.coordinator .changeSets, records⟩] := by
  have hbody : Leaves (fun events result => result = .ok .null ∧ ∃ records blocks,
      List.Forall₂ server.Visits records blocks ∧
        events = blocks.reverse.flatten ++ [⟨.coordinator .changeSets, records⟩])
      ((serverMachine coordinator ttl).body ⟨server, .recover⟩) := by
    have hpass : Completes (fun events value => value = Json.null ∧ ∃ records blocks,
        List.Forall₂ server.Visits records blocks ∧
          events = blocks.reverse.flatten ++ [⟨.coordinator .changeSets, records⟩])
        (do server.recoverInFlight; return .null : ToolM Json) :=
      completes_recoverInFlight.bind fun _ _ hvisits => completes_pure ⟨rfl, hvisits⟩
    refine hpass.mono ?_
    rintro events _ ⟨value, rfl, rfl, hvisits⟩
    exact ⟨rfl, hvisits⟩
  exact h.leaves_finish htrace hstart hbody

end Runs

/-! ### A copy that was left applying -/

section Left

omit [Externals]

/-- The handle of the copy. -/
def leftHandle : String := "UPID:pve1:0001:0002:5F:qmrestore:901:root@pam:"

/-- The copy, whose server has died. -/
def leftCopy : ChangeSet := { approvedCopy with state := .applying, taskId := some leftHandle }

def leftPool : Pool keptMachine :=
  ⟨⟨⟨fun _ => none, 0, 0⟩, ⟨[leftCopy], List.nodup_singleton _⟩⟩, fun _ => none, []⟩

def recoverCopy : Served := ⟨oneClusterServer, .recover⟩

/-- Its task has ended well. -/
def recoverCopyEvents : List (Event Effect) :=
  [⟨.coordinator .changeSets, [leftCopy]⟩,
    ⟨.http (.dispatch "pve" (statusRequest "pve1" leftHandle)), (2 : ℕ)⟩,
    ⟨.http (.await 2), answerOf (.object [("status", .string "stopped"),
      ("exitstatus", .string "OK")])⟩,
    ⟨.coordinator (.updateChangeSet (leftCopy.settle true none)), .ok ()⟩]

private theorem recoverCopy_reaches :
    Reaches (@Served.body Externals.plain recoverCopy) recoverCopyEvents (.done (.ok .null)) := by
  iterate 4 refine Reaches.step _ _ _ ?_
  exact Reaches.refl _

private theorem performs_recoverCopy : ∃ world, keptMachine.Performs leftPool.world 1 []
    recoverCopyEvents world :=
  ⟨_, .cons (.coordinator ⟨"cs-2", rfl, rfl⟩) <| .cons (.dispatch _ _) <| .cons (.await _ _) <|
    .cons (.coordinator ⟨"cs-2", rfl, rfl⟩) .nil⟩

/-- The recovery of the copy is over, and has visited it. -/
theorem visits_leftCopy : ∃ older : ServerTrace,
    .event 0 ⟨.coordinator (.updateChangeSet (leftCopy.settle true none)), .ok ()⟩ ∈ older ∧
      ∃ records blocks, List.Forall₂ (@ProxmoxServer.Visits Externals.plain oneClusterServer)
        records blocks ∧
        historyOf 0 older = blocks.reverse.flatten ++ [⟨.coordinator .changeSets, records⟩] := by
  have hempty : Reachable keptMachine leftPool := .initial ⟨rfl, trivial⟩
  obtain ⟨world, hperforms⟩ := performs_recoverCopy
  have hstarted := hempty.start 0 recoverCopy fun _ => List.not_mem_nil
  have hran := hstarted.run Pool.setThread_self recoverCopy_reaches hperforms
  have hfinished := hran.finish 0 (.ok .null) (by dsimp only; exact Pool.setThread_self)
  refine ⟨_, ?_, (@visits_of_finish Externals.plain _ _ _ _ _ hfinished ?_ _ [] _ rfl).2⟩
  · simp [recoverCopyEvents]
  · simp [recoverCopy]

end Left

end ProxmoxMcp
