import ProxmoxMcp.Server.Recover

/-!
# Two readers of one status reply

The poll that follows an apply and the recovery after a restart read the same reply, each in its own
way. `RecoveryAgrees` compares whole runs of the two that were answered alike: what the recovery
writes to the record is what the probe of the poll would report.

The probe wants the status to be `running` or `stopped` before it looks at the exit status. The
recovery takes every status but `running` for the end of the task, also one that is missing or
unknown. The two agree exactly on the replies that leave no such status beside an exit status
(`recoveryAgrees_iff`).
-/

namespace ProxmoxMcp

open Interaction Text
open Program hiding bind

variable [Externals]

/-- A reply of the HTTP layer. -/
abbrev HttpReply := Except HttpError HttpResponse

/-- A run has been answered with a reply. -/
def RepliedWith (reply : HttpReply) (h : History Effect) : Prop :=
  ∃ ticket, ⟨.http (.await ticket), reply⟩ ∈ h

/-- A run has written a record. -/
def Wrote (updated : ChangeSet) (h : History Effect) : Prop :=
  ∃ reply, ⟨.coordinator (.updateChangeSet updated), reply⟩ ∈ h

/-- A run has settled a record in a state. -/
def SettledAs (record : ChangeSet) (state : ChangeSetState) (h : History Effect) : Prop :=
  Wrote { record with state := state, taskId := none } h

/-- What a recovery has done to a record, against what the probe reported. -/
structure SettledAlike (record : ChangeSet) (h : History Effect)
    (probed : Except String (Option String)) : Prop where
  applied : SettledAs record .applied h ↔
    ∃ exitstatus, probed = .ok (some exitstatus) ∧ classifyExitStatus exitstatus = .ok
  failed : SettledAs record .failed h ↔ ∃ exitstatus status, probed = .ok (some exitstatus) ∧
    classifyExitStatus exitstatus = .failed status
  applying : (∀ updated, ¬ Wrote updated h) ↔ probed = .ok none ∨ ∃ error, probed = .error error

/-- **Recovery agrees with the poll** on a reply: whenever a recovery of the record and a probe of
its task are both answered with it, the record is left as the probe says. -/
def RecoveryAgrees (server : ProxmoxServer) (record : ChangeSet) (client : ProxmoxClient)
    (task : Upid) (taskId : String) (reply : HttpReply) : Prop :=
  ∀ events outcome polled probed,
    Reaches (server.recoverRecord record).run events (.done outcome) → RepliedWith reply events →
    Reaches (probeTask client task.node taskId).run polled (.done probed) →
    RepliedWith reply polled → SettledAlike record events probed

/-- A status reply with an exit status says that the task runs or that it has stopped. -/
def Conclusive (reply : HttpReply) : Prop :=
  ∀ data, ProxmoxClient.readReply reply = .ok data → data.getStr "status" = some "running" ∨
    data.getStr "status" = some "stopped" ∨ data.getStr "exitstatus" = none

/-! ### What the two make of a reply -/

/-- The exit status a recovery takes from a reply. -/
def recoveredExitOf (reply : HttpReply) : Option String :=
  (ProxmoxClient.readReply reply).toOption.bind recoveredExit

/-- What a probe reports of a reply. -/
def probedStatus (reply : HttpReply) : Except String (Option String) :=
  ((ProxmoxClient.readReply reply).mapError fun error =>
    s!"task status request failed: {error.toText}").bind readTaskStatus

/-- An exit status the probe reports, the recovery takes. -/
private theorem recoveredExitOf_of_probedStatus {reply : HttpReply} {exitstatus : String}
    (h : probedStatus reply = .ok (some exitstatus)) : recoveredExitOf reply = some exitstatus := by
  cases hread : ProxmoxClient.readReply reply with
  | error error =>
    rw [probedStatus, hread] at h
    cases h
  | ok data =>
    rw [probedStatus, hread] at h
    obtain ⟨hrunning, hexit⟩ := exitstatus_of_readTaskStatus h
    rw [recoveredExitOf, hread, Except.toOption, Option.bind_some, recoveredExit, if_neg hrunning,
      hexit]

/-- On a conclusive reply the probe reports the exit status the recovery takes. -/
private theorem probedStatus_of_recoveredExitOf {reply : HttpReply} (hconclusive : Conclusive reply)
    {exitstatus : String} (h : recoveredExitOf reply = some exitstatus) :
    probedStatus reply = .ok (some exitstatus) := by
  cases hread : ProxmoxClient.readReply reply with
  | error error =>
    rw [recoveredExitOf, hread] at h
    cases h
  | ok data =>
    rw [recoveredExitOf, hread, Except.toOption, Option.bind_some] at h
    obtain ⟨hrunning, hexit⟩ := recoveredExit_eq_some h
    rcases hconclusive data hread with hstatus | hstatus | hnone
    · exact absurd hstatus hrunning
    · simp [probedStatus, hread, Except.mapError, Except.bind, readTaskStatus, hstatus, hexit]
    · rw [hnone] at hexit
      cases hexit

/-- On an inconclusive reply the probe fails where the recovery takes an exit status. -/
private theorem exists_of_not_conclusive {reply : HttpReply} (h : ¬ Conclusive reply) :
    (∃ error, probedStatus reply = .error error) ∧
      ∃ exitstatus, recoveredExitOf reply = some exitstatus := by
  simp only [Conclusive, not_forall, not_or] at h
  obtain ⟨data, hread, hrunning, hstopped, hexit⟩ := h
  obtain ⟨exitstatus, hexit⟩ := Option.ne_none_iff_exists'.mp hexit
  constructor
  · rw [probedStatus, hread]
    cases hstatus : data.getStr "status" with
    | none =>
      refine ⟨"status field missing or not a string", ?_⟩
      simp only [Except.mapError, Except.bind, readTaskStatus, hstatus]
    | some status =>
      refine ⟨s!"unexpected task status: {status}", ?_⟩
      simp only [Except.mapError, Except.bind, readTaskStatus, hstatus]
      split
      · simp_all
      · simp_all
      · simp_all
      · simp_all
  · exact ⟨exitstatus, by
      rw [recoveredExitOf, hread, Except.toOption, Option.bind_some, recoveredExit, if_neg hrunning,
        hexit]⟩

/-! ### What a recovery does -/

section Runs

variable {server : ProxmoxServer} {record : ChangeSet} {client : ProxmoxClient} {task : Upid}
  {taskId : String} {request : ApiRequest} {h : History Effect}

/-- The state an exit status settles a record in. -/
def settledState (exitstatus : String) : ChangeSetState :=
  if exitstatus = "OK" then .applied else .failed

/-- What a run has written is the record, settled by an exit status, or nothing. -/
def WroteOutcome (record : ChangeSet) (exitstatus : Option String) (h : History Effect) : Prop :=
  ∀ updated, Wrote updated h ↔ ∃ exit, exitstatus = some exit ∧
    updated = { record with state := settledState exit, taskId := none }

omit [Externals] in
private theorem wroteOutcome_none (hnone : ∀ updated, ¬ Wrote updated h) :
    WroteOutcome record none h :=
  fun updated => iff_of_false (hnone updated) (by simp)

omit [Externals] in
/-- The update that settles a record is the one write of it. -/
private theorem wroteOutcome_update {exitstatus : String} (hnone : ∀ updated, ¬ Wrote updated h)
    (reply : Except String Unit) : WroteOutcome record (some exitstatus)
      (⟨.coordinator (.updateChangeSet { record with
        state := settledState exitstatus, taskId := none }), reply⟩ :: h) := by
  intro updated
  constructor
  · rintro ⟨reply', hmem⟩
    rcases List.mem_cons.mp hmem with heq | hmem
    · cases heq
      exact ⟨exitstatus, rfl, rfl⟩
    · exact absurd ⟨reply', hmem⟩ (hnone updated)
  · rintro ⟨exit, hexit, rfl⟩
    obtain rfl := Option.some.inj hexit
    exact ⟨reply, List.mem_cons_self⟩

omit [Externals] in
/-- An operation that is no wait leaves what a run was answered with. -/
private theorem repliedWith_cons {op : Op} {answer : Effect.Reply op} {reply : HttpReply}
    (hop : ∀ ticket, op ≠ .http (.await ticket)) (hr : RepliedWith reply (⟨op, answer⟩ :: h)) :
    RepliedWith reply h := by
  obtain ⟨ticket, hmem⟩ := hr
  rcases List.mem_cons.mp hmem with heq | hmem
  · exact absurd (congrArg Event.op heq).symm (hop ticket)
  · exact ⟨ticket, hmem⟩

omit [Externals] in
/-- Settling a record writes it once. -/
private theorem always_settleRecovered {exitstatus : String}
    (hnone : ∀ updated, ¬ Wrote updated h) :
    Always (fun _ _ => True) (fun after _ => WroteOutcome record (some exitstatus) after ∧
      ∀ reply, RepliedWith reply after → RepliedWith reply h) h
      (server.settleRecovered record exitstatus).run := by
  have hstate : (if (classifyExitStatus exitstatus == .ok) = true then ChangeSetState.applied
      else .failed) = settledState exitstatus := by
    rw [settledState]
    by_cases hok : exitstatus = "OK"
    · simp [hok, classifyExitStatus]
    · simp [hok, classifyExitStatus]
  rw [ProxmoxServer.settleRecovered]
  simp only [hstate]
  cases server.evidence with
  | false =>
    refine ⟨trivial, fun reply => ⟨wroteOutcome_update hnone reply, fun reply' hr => ?_⟩⟩
    exact repliedWith_cons (by rintro _ ⟨⟩) hr
  | true =>
    refine ⟨trivial, fun receipt => ⟨trivial, fun reply => ?_⟩⟩
    refine ⟨wroteOutcome_update (fun updated => ?_) reply, fun reply' hr => ?_⟩
    · rintro ⟨reply', hmem⟩
      rcases List.mem_cons.mp hmem with heq | hmem
      · cases heq
      · exact hnone updated ⟨reply', hmem⟩
    · exact repliedWith_cons (by rintro _ ⟨⟩) (repliedWith_cons (by rintro _ ⟨⟩) hr)

omit [Externals] in
/-- A request with its answer writes nothing, and its answer is the one reply. -/
private theorem answered_history {name : String} {ticket : ℕ} {answer : HttpReply} :
    (∀ updated, ¬ Wrote updated [⟨.http (.await ticket), answer⟩,
      ⟨.http (.dispatch name request), ticket⟩]) ∧
    ∀ reply, RepliedWith reply [⟨.http (.await ticket), answer⟩,
      ⟨.http (.dispatch name request), ticket⟩] → reply = answer := by
  constructor
  · rintro updated ⟨reply, hmem⟩
    rcases List.mem_pair.mp hmem with heq | heq
    · cases heq
    · cases heq
  · rintro reply ⟨ticket', hmem⟩
    rcases List.mem_pair.mp hmem with heq | heq
    · cases heq
      rfl
    · cases heq

/-- **A recovery** that was answered with a reply writes what it takes from it. -/
theorem always_recoverRecord (hflight : server.inFlight record = some (client, task, taskId)) :
    Always (fun _ _ => True) (fun after _ => ∀ reply, RepliedWith reply after →
      WroteOutcome record (recoveredExitOf reply) after) [] (server.recoverRecord record).run := by
  rw [ProxmoxServer.recoverRecord, hflight]
  refine always_run_bind.mpr (always_run_attempt.mpr (ProxmoxClient.always_send
    (fun error _ => ?_) trivial (fun _ => trivial) fun ticket answer => ?_))
  · -- nothing was sent, so there is no reply
    rintro reply ⟨ticket, hmem⟩
    cases hmem
  · obtain ⟨hnone, honly⟩ :=
      @answered_history (statusRequest task.node taskId) client.name ticket answer
    dsimp only
    cases hread : ProxmoxClient.readReply answer with
    | error error =>
      intro reply hreply
      obtain rfl := honly reply hreply
      have hexit : recoveredExitOf reply = none := by
        rw [recoveredExitOf, hread]
        rfl
      exact hexit ▸ wroteOutcome_none hnone
    | ok data =>
      have hexit : @recoveredExitOf _ answer = recoveredExit data := by
        simp only [recoveredExitOf, hread]
        rfl
      dsimp only
      cases hrecovered : recoveredExit data with
      | none =>
        intro reply hreply
        rw [honly reply hreply, hexit, hrecovered]
        exact wroteOutcome_none hnone
      | some exitstatus =>
        refine (always_settleRecovered hnone).mono (fun _ _ _ => trivial) ?_
        intro after outcome hafter reply hreply
        rw [honly reply (hafter.2 reply hreply), hexit, hrecovered]
        exact hafter.1

/-- **A probe** that was answered with a reply reports what it says. -/
theorem always_probeTask : Always (fun _ _ => True) (fun after outcome => ∀ reply,
    RepliedWith reply after → outcome = probedStatus reply) []
    (probeTask client task.node taskId).run := by
  refine always_run_bind.mpr (always_run_mapError.mpr (ProxmoxClient.always_send
    (fun error _ => ?_) trivial (fun _ => trivial) fun ticket answer => ?_))
  · rintro reply ⟨ticket, hmem⟩
    cases hmem
  · obtain ⟨-, honly⟩ :=
      @answered_history (statusRequest task.node taskId) client.name ticket answer
    cases hread : ProxmoxClient.readReply answer with
    | error error =>
      intro reply hreply
      obtain rfl := honly reply hreply
      simp only [probedStatus, hread]
      rfl
    | ok data =>
      refine (always_run_liftExcept _).mpr ?_
      intro reply hreply
      obtain rfl := honly reply hreply
      simp only [probedStatus, hread]
      rfl

/-- A request that can be sent can be answered with any reply. -/
private theorem exists_reaches_send {α : Type} (hsendable : client.Sendable request)
    (reply : HttpReply) {next : Except ProxmoxError Json → Program Effect α} : ∃ events outcome,
      Reaches ((client.send request).run >>= next) events (.done outcome) ∧
        RepliedWith reply events := by
  obtain ⟨events, outcome, hdone⟩ :=
    exists_reaches_done Effect.nonempty_reply (next (ProxmoxClient.readReply reply))
  rw [ProxmoxClient.run_send_of_sendable hsendable]
  have hread : Reaches (.done (ProxmoxClient.readReply reply) >>= next) events (.done outcome) :=
    hdone
  refine ⟨_, outcome, .step _ _ (0 : ℕ) (.step _ _ reply hread), 0, ?_⟩
  exact List.mem_cons_of_mem _ List.mem_cons_self

omit [Externals] in
private theorem settledAs_iff {exitstatus : Option String} {state : ChangeSetState}
    (hwrote : WroteOutcome record exitstatus h) :
    SettledAs record state h ↔ ∃ exit, exitstatus = some exit ∧ state = settledState exit := by
  refine (hwrote _).trans (exists_congr fun exit => and_congr_right fun _ => ?_)
  constructor
  · exact fun heq => congrArg ChangeSet.state heq
  · rintro rfl
    rfl

omit [Externals] in
/-- A record is settled as the probe says when the two find the same exit status. -/
private theorem settledAlike_of_same {exitstatus : Option String}
    {probed : Except String (Option String)} (hwrote : WroteOutcome record exitstatus h)
    (hsame : ∀ exit, probed = .ok (some exit) ↔ exitstatus = some exit) :
    SettledAlike record h probed where
  applied := by
    refine (settledAs_iff hwrote).trans (exists_congr fun exit => ?_)
    rw [hsame, classifyExitStatus_eq_ok, settledState]
    by_cases hok : exit = "OK"
    · simp [hok]
    · simp [hok]
  failed := by
    refine (settledAs_iff hwrote).trans (exists_congr fun exit => ?_)
    rw [exists_and_left, hsame, classifyExitStatus, settledState]
    by_cases hok : exit = "OK"
    · simp [hok]
    · simp [hok]
  applying := by
    constructor
    · intro hnone
      cases probed with
      | error error => exact .inr ⟨error, rfl⟩
      | ok status =>
        cases status with
        | none => exact .inl rfl
        | some exit => exact absurd ((hwrote _).mpr ⟨exit, (hsame exit).mp rfl, rfl⟩) (hnone _)
    · rintro hpending updated hupdated
      obtain ⟨exit, hexit, -⟩ := (hwrote updated).mp hupdated
      have hready := (hsame exit).mpr hexit
      rcases hpending with hnone | ⟨error, herror⟩
      · rw [hnone] at hready
        cases hready
      · rw [herror] at hready
        cases hready

private theorem wroteOutcome_of_reaches {reply : HttpReply} {events : List (Event Effect)}
    {outcome : Except ToolResult Unit}
    (hflight : server.inFlight record = some (client, task, taskId))
    (hrun : Reaches (server.recoverRecord record).run events (.done outcome))
    (hreply : RepliedWith reply events) : WroteOutcome record (recoveredExitOf reply) events := by
  have hdone := (always_recoverRecord hflight).of_reaches hrun
  simp only [List.append_nil, always_done, RepliedWith, WroteOutcome, Wrote, List.mem_reverse]
    at hdone
  exact hdone reply hreply

private theorem probed_of_reaches {reply : HttpReply} {polled : List (Event Effect)}
    {probed : Except String (Option String)}
    (hrun : Reaches (probeTask client task.node taskId).run polled (.done probed))
    (hreply : RepliedWith reply polled) : probed = probedStatus reply := by
  have hdone := always_probeTask.of_reaches hrun
  simp only [List.append_nil, always_done, RepliedWith, List.mem_reverse] at hdone
  exact hdone reply hreply

/-- Where the two readers agree, the reply is conclusive: they can both be answered with it. -/
theorem RecoveryAgrees.conclusive {reply : HttpReply}
    (hagrees : RecoveryAgrees server record client task taskId reply)
    (hflight : server.inFlight record = some (client, task, taskId))
    (hsendable : client.Sendable (statusRequest task.node taskId)) : Conclusive reply := by
  by_contra hconclusive
  obtain ⟨⟨error, herror⟩, exitstatus, hexit⟩ := exists_of_not_conclusive hconclusive
  obtain ⟨events, outcome, hrun, hreply⟩ : ∃ events outcome,
      Reaches (server.recoverRecord record).run events (.done outcome) ∧
        RepliedWith reply events := by
    rw [ProxmoxServer.recoverRecord, hflight]
    dsimp only
    rw [run_attempt_bind]
    exact exists_reaches_send hsendable reply
  obtain ⟨polled, probed, hpoll, hpolled⟩ : ∃ polled probed,
      Reaches (probeTask client task.node taskId).run polled (.done probed) ∧
        RepliedWith reply polled := by
    rw [probeTask, run_mapError_bind]
    exact exists_reaches_send hsendable reply
  have halike := hagrees events outcome polled probed hrun hreply hpoll hpolled
  have hleft := halike.applying.mpr (.inr ⟨error, (probed_of_reaches hpoll hpolled).trans herror⟩)
  exact hleft _ ((wroteOutcome_of_reaches hflight hrun hreply _).mpr ⟨exitstatus, hexit, rfl⟩)

/-- **When recovery agrees with the poll**: for a record in flight whose task can be asked for,
exactly on the conclusive replies. -/
theorem recoveryAgrees_iff {reply : HttpReply}
    (hflight : server.inFlight record = some (client, task, taskId))
    (hsendable : client.Sendable (statusRequest task.node taskId)) :
    RecoveryAgrees server record client task taskId reply ↔ Conclusive reply := by
  refine ⟨fun hagrees => hagrees.conclusive hflight hsendable, ?_⟩
  intro hconclusive events outcome polled probed hrun hreply hpoll hpolled
  obtain rfl := probed_of_reaches hpoll hpolled
  exact settledAlike_of_same (wroteOutcome_of_reaches hflight hrun hreply) fun exit =>
    ⟨recoveredExitOf_of_probedStatus, probedStatus_of_recoveredExitOf hconclusive⟩

end Runs

/-! ### A reply without a status -/

omit [Externals]

/-- The handle of a destroy. -/
def destroyHandle : String := "UPID:pve1:0001:0002:0003:qmdestroy:100:root@pam:"

/-- The task of the destroy. -/
def destroyTask : Upid := ⟨"pve1", "qmdestroy", "100"⟩

def recoveringClient : ProxmoxClient := ⟨"pve", ⟨"https://pve:8006", [], []⟩⟩

def recoveringServer : ProxmoxServer := ⟨[recoveringClient], [], false, false, .ok ()⟩

/-- A destroy of guest 100 that a restart left applying. -/
def interruptedDestroy : ChangeSet where
  id := "cs-1"
  device := "pve/100"
  actions := []
  owner := "planner"
  expectedCandidateFingerprint := ""
  policySignature := ""
  digest := ""
  state := .applying
  preview := none
  taskId := some destroyHandle

/-- A reply that carries these members as its data. -/
def replyWith (data : List (String × Json)) : HttpReply :=
  .ok ⟨200, "", .ok (.object [("data", .object data)])⟩

private theorem inFlight_interruptedDestroy : recoveringServer.inFlight interruptedDestroy =
    some (recoveringClient, destroyTask, destroyHandle) := by decide

theorem recoveryAgrees_iff_stopped : @RecoveryAgrees Externals.plain recoveringServer
    interruptedDestroy recoveringClient destroyTask destroyHandle
    (replyWith [("status", .string "stopped"), ("exitstatus", .string "OK")]) := by
  let _ : Externals := Externals.plain
  refine (recoveryAgrees_iff inFlight_interruptedDestroy ⟨_, rfl, rfl⟩).mpr ?_
  rintro data ⟨rfl⟩
  exact .inr (.inl rfl)

/-- A reply with an exit status and no status settles the record, and fails the poll. -/
theorem not_recoveryAgrees_statusless : ¬ @RecoveryAgrees Externals.plain recoveringServer
    interruptedDestroy recoveringClient destroyTask destroyHandle
    (replyWith [("exitstatus", .string "OK")]) := by
  let _ : Externals := Externals.plain
  intro hagrees
  have hconclusive := hagrees.conclusive inFlight_interruptedDestroy ⟨_, rfl, rfl⟩
  rcases hconclusive _ rfl with hstatus | hstatus | hexit
  · cases hstatus
  · cases hstatus
  · cases hexit

end ProxmoxMcp
