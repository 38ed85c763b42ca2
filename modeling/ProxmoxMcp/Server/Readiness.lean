import ProxmoxMcp.Core.Error
import ProxmoxMcp.Core.Json
import ProxmoxMcp.Interaction.Protocol

/-!
# Readiness

One poller for each configured cluster asks its API on an interval and records in a flag whether it
answered. The probe behind `/readyz` only reads the flags, while the pollers go on. A flag is
atomic: reading it gives what was recorded last. The loop of a poller is cut off after any number
of `rounds`, so what is said of all numbers is said of the loop.

* a poller writes to the log exactly when the cluster's reachability changed: its lines are its
  answers **destuttered** (`linesOf_eq_of_reachable`);
* a verdict of the probe is grounded in polls: a ready fleet had, for each cluster, a moment while
  the probe ran at which its last poll had succeeded, and an unready one has a cluster for which
  the last poll had failed or none was over (`verdict_of_finish`).
-/

namespace ProxmoxMcp

open Interaction

/-! ### Pollers and the probe -/

inductive LogLevel where
  | warn
  | info
  deriving DecidableEq, Repr

/-- A line of the server log, with its fields. -/
structure LogLine where
  level : LogLevel
  cluster : String
  error : Option String
  message : String
  deriving DecidableEq, Repr

/-- What pollers and probes do. -/
inductive ReadinessOp where
  /-- Wait for the next tick of the interval. -/
  | tick
  /-- Ask the API of a cluster. -/
  | getJson (cluster path : String)
  | log (line : LogLine)
  /-- Record in a tracker whether its cluster answered. -/
  | record (tracker : ℕ) (reachable : Bool)
  | isReachable (tracker : ℕ)

/-- What a cluster answers to a poll. -/
abbrev PollAnswer := Except ProxmoxError Json

abbrev ReadinessOp.Reply : ReadinessOp → Type
  | .getJson _ _ => PollAnswer
  | .isReachable _ => Bool
  | .tick | .log _ | .record _ _ => Unit

abbrev Readiness : Signature := ⟨ReadinessOp, ReadinessOp.Reply⟩

def probePath : String := "/api2/json/nodes"

def unreachableReason : String := "one or more configured clusters are unreachable"

/-- What a poller logs when the reachability of its cluster has changed. -/
def transitionLine (cluster : String) : PollAnswer → LogLine
  | .error error => ⟨.warn, cluster, some error.toText,
      s!"readiness poll: cluster did not answer {probePath}"⟩
  | .ok _ => ⟨.info, cluster, none, "readiness poll: cluster is reachable again"⟩

/-- Perform one of these operations. -/
abbrev readiness (op : ReadinessOp) : Program Readiness op.Reply := Program.ask (S := Readiness) op

/-- The loop of a poller, for so many rounds. -/
def pollCluster (clients : List String) (name : String) (tracker : ℕ) :
    ℕ → Option Bool → Program Readiness Unit
  | 0, _ => pure ()
  | rounds + 1, wasReachable => do
    readiness .tick
    -- a client set without the cluster leaves nothing to poll
    if name ∈ clients then
      let result ← readiness (.getJson name probePath)
      let reachable := Except.isOk result
      if wasReachable ≠ some reachable then
        readiness (.log (transitionLine name result))
      readiness (.record tracker reachable)
      pollCluster clients name tracker rounds (some reachable)
    else pure ()

/-- Are all these trackers reachable? The first that is not ends the search. -/
def allReachable : List ℕ → Program Readiness Bool
  | [] => pure true
  | tracker :: trackers => do
    if ← readiness (.isReachable tracker) then allReachable trackers else pure false

/-- The check `proxmox_cluster_reachability` of `/readyz`. -/
def fleetProbe (trackers : List ℕ) : Program Readiness (Except String Unit) := do
  if ← allReachable trackers then pure (.ok ()) else pure (.error unreachableReason)

/-- The clusters in key order, each with the tracker it was given. -/
def tracked (clients : List String) : List (String × ℕ) :=
  clients.zip (List.range clients.length)

private theorem eq_of_tracked {clients : List String} {name name' : String} {tracker : ℕ}
    (h : (name, tracker) ∈ tracked clients) (h' : (name', tracker) ∈ tracked clients) :
    name = name' := by
  obtain ⟨i, hi, hget⟩ := List.mem_iff_getElem.mp h
  obtain ⟨j, hj, hget'⟩ := List.mem_iff_getElem.mp h'
  simp only [tracked, List.getElem_zip, List.getElem_range, Prod.mk.injEq] at hget hget'
  obtain ⟨hname, rfl⟩ := hget
  obtain ⟨hname', rfl⟩ := hget'
  exact hname.symm.trans hname'

private theorem exists_tracked {clients : List String} {tracker : ℕ}
    (h : tracker ∈ List.range clients.length) : ∃ name, (name, tracker) ∈ tracked clients := by
  have hlt : tracker < clients.length := List.mem_range.mp h
  refine ⟨clients[tracker], List.mem_iff_getElem.mpr ⟨tracker, ?_, ?_⟩⟩
  · simpa [tracked] using hlt
  · simp [tracked]

section Machine

variable {clients : List String}

/-- What is spawned at startup, and what a request to `/readyz` does. -/
inductive ReadinessCall (clients : List String) where
  | poll (cluster : String × ℕ) (spawned : cluster ∈ tracked clients) (rounds : ℕ)
  | probe

inductive ReadinessResult where
  | stopped
  | verdict (outcome : Except String Unit)

def ReadinessCall.body : ReadinessCall clients → Program Readiness ReadinessResult
  | .poll cluster _ rounds => do
    pollCluster clients cluster.1 cluster.2 rounds none
    return .stopped
  | .probe => return .verdict (← fleetProbe (List.range clients.length))

/-- What an operation does to the flags. -/
inductive ReadinessStep : (ℕ → Bool) → Event Readiness → (ℕ → Bool) → Prop
  | tick {flags} : ReadinessStep flags ⟨.tick, ()⟩ flags
  | answer {flags cluster path} (answer : PollAnswer) :
      ReadinessStep flags ⟨.getJson cluster path, answer⟩ flags
  | log {flags line} : ReadinessStep flags ⟨.log line, ()⟩ flags
  | record {flags tracker reachable} : ReadinessStep flags ⟨.record tracker reachable, ()⟩
      (Function.update flags tracker reachable)
  | read {flags tracker} : ReadinessStep flags ⟨.isReachable tracker, flags tracker⟩ flags

/-- Every tracker starts unreachable, also after a restart of the server. -/
def readinessMachine (clients : List String) : Machine Readiness where
  World := ℕ → Bool
  Call := ReadinessCall clients
  Result := ReadinessResult
  body := ReadinessCall.body
  Initial flags := flags = fun _ => false
  Step flags _ _ event flags' := ReadinessStep flags event flags'
  Move _ _ := False
  Crash _ flags' := flags' = fun _ => false

end Machine

/-! ### The rounds of a poller -/

section Changes

variable {α β : Type} [DecidableEq β] {f : α → β}

/-- Destuttering goes on from the last element, whether or not that was kept. -/
private theorem destutter'_concat (a b : α) (l : List α) :
    (l ++ [b]).destutter' (fun x y => f x ≠ f y) a = l.destutter' (fun x y => f x ≠ f y) a ++
      if f ((a :: l).getLast (List.cons_ne_nil a l)) = f b then [] else [b] := by
  induction l generalizing a with
  | nil => by_cases h : f a = f b <;> simp [h]
  | cons c l ih =>
    rw [List.cons_append, List.getLast_cons (List.cons_ne_nil c l)]
    by_cases h : f a ≠ f c
    · rw [List.destutter'_cons_pos (R := fun x y => f x ≠ f y) _ h,
        List.destutter'_cons_pos (R := fun x y => f x ≠ f y) _ h, ih c, List.cons_append]
    · rw [List.destutter'_cons_neg (R := fun x y => f x ≠ f y) _ h,
        List.destutter'_cons_neg (R := fun x y => f x ≠ f y) _ h, ih a]
      -- an element that was left out agrees with the one before it
      have hlast : f ((a :: l).getLast (List.cons_ne_nil a l)) =
          f ((c :: l).getLast (List.cons_ne_nil c l)) := by
        cases l with
        | nil => exact not_not.mp h
        | cons d l => rw [List.getLast_cons_cons, List.getLast_cons_cons]
      rw [hlast]

/-- What is appended to a list changes it if its last value was another one, or none. -/
private theorem destutter_concat (l : List α) (b : α) :
    (l ++ [b]).destutter (fun x y => f x ≠ f y) = l.destutter (fun x y => f x ≠ f y) ++
      if l.getLast?.map f = some (f b) then [] else [b] := by
  cases l with
  | nil => simp
  | cons a l =>
    rw [List.cons_append, List.destutter_cons', List.destutter_cons', destutter'_concat,
      List.getLast?_eq_some_getLast (List.cons_ne_nil a l), Option.map_some]
    simp only [Option.some.injEq]

end Changes

/-- The answer of a cluster to a poll. -/
def answerIn (name : String) : Event Readiness → Option PollAnswer
  | ⟨.getJson cluster path, answer⟩ =>
    if cluster = name ∧ path = probePath then some answer else none
  | _ => none

def lineIn : Event Readiness → Option LogLine
  | ⟨.log line, _⟩ => some line
  | _ => none

/-- The answers of a cluster, oldest first. -/
def answersOf (name : String) (h : History Readiness) : List PollAnswer :=
  h.reverse.filterMap (answerIn name)

/-- The lines that were logged, oldest first. -/
def linesOf (h : History Readiness) : List LogLine := h.reverse.filterMap lineIn

/-- The answers that say another thing than the one before. -/
def changesOf (name : String) (h : History Readiness) : List PollAnswer :=
  (answersOf name h).destutter fun answer answer' => answer.isOk ≠ answer'.isOk

section Rounds

variable {name : String} {tracker : ℕ} {h : History Readiness} {event : Event Readiness}

@[simp] theorem answersOf_cons :
    answersOf name (event :: h) = answersOf name h ++ (answerIn name event).toList := by
  simp only [answersOf, List.reverse_cons, List.filterMap_append]
  cases hanswer : answerIn name event <;> simp [hanswer]

@[simp] theorem linesOf_cons : linesOf (event :: h) = linesOf h ++ (lineIn event).toList := by
  simp only [linesOf, List.reverse_cons, List.filterMap_append]
  cases hline : lineIn event <;> simp [hline]

private theorem changesOf_cons_none (hanswer : answerIn name event = none) :
    changesOf name (event :: h) = changesOf name h := by
  simp [changesOf, hanswer]

private theorem changesOf_cons_some {answer : PollAnswer}
    (hanswer : answerIn name event = some answer) :
    changesOf name (event :: h) = changesOf name h ++
      if (answersOf name h).getLast?.map Except.isOk = some answer.isOk then [] else [answer] := by
  rw [changesOf, answersOf_cons, hanswer]
  exact destutter_concat _ _

/-- Where a poller is in its round. -/
inductive PollPhase where
  | waiting (wasReachable : Option Bool)
  | asking (wasReachable : Option Bool)
  /-- The answer is a change that is still to be logged. -/
  | noting (answer : PollAnswer)
  | recording (answer : PollAnswer)

/-- The rounds of a poller. -/
inductive PollStep (name : String) (tracker : ℕ) : Protocol Readiness PollPhase
  | tick {was} : PollStep name tracker (.waiting was) ⟨.tick, ()⟩ (.asking was)
  | change {was} {answer : PollAnswer} (changed : was ≠ some answer.isOk) :
      PollStep name tracker (.asking was) ⟨.getJson name probePath, answer⟩ (.noting answer)
  | same {answer : PollAnswer} : PollStep name tracker (.asking (some answer.isOk))
      ⟨.getJson name probePath, answer⟩ (.recording answer)
  | log {answer : PollAnswer} : PollStep name tracker (.noting answer)
      ⟨.log (transitionLine name answer), ()⟩ (.recording answer)
  | record {answer : PollAnswer} : PollStep name tracker (.recording answer)
      ⟨.record tracker answer.isOk, ()⟩ (.waiting (some answer.isOk))

/-- The loop keeps to the rounds, whatever the cluster answers. -/
private theorem follows_pollCluster {clients : List String} {rounds : ℕ} {was : Option Bool} :
    Program.Follows (PollStep name tracker) (fun _ _ => True) (.waiting was)
      (pollCluster clients name tracker rounds was) := by
  induction rounds generalizing was with
  | zero => trivial
  | succ rounds ih =>
    rw [pollCluster]
    refine fun _ => ⟨_, .tick, ?_⟩
    by_cases hname : name ∈ clients
    · simp only [hname, if_true]
      intro answer
      by_cases hsame : was = some (Except.isOk answer)
      · subst hsame
        refine ⟨_, .same, ?_⟩
        simp only [Program.bind, ne_eq, not_true_eq_false, if_false]
        exact fun _ => ⟨_, .record, ih⟩
      · refine ⟨_, .change hsame, ?_⟩
        simp only [Program.bind, ne_eq, hsame, not_false_eq_true, if_true]
        exact fun _ => ⟨_, .log, fun _ => ⟨_, .record, ih⟩⟩
    · simp only [hname, if_false]
      trivial

/-- The change that is still to be logged. -/
def PollPhase.unlogged (name : String) : PollPhase → List LogLine
  | .noting answer => [transitionLine name answer]
  | _ => []

/-- Whether the cluster answered the last time, as far as the poller knows. -/
def PollPhase.known : PollPhase → Option Bool
  | .waiting wasReachable | .asking wasReachable => wasReachable
  | .noting answer | .recording answer => some answer.isOk

/-- What a poller has logged and what it knows. -/
structure PollPhase.Kept (name : String) (h : History Readiness) (phase : PollPhase) : Prop where
  logged : linesOf h ++ phase.unlogged name = (changesOf name h).map (transitionLine name)
  known : (answersOf name h).getLast?.map Except.isOk = phase.known

/-- What is no answer can only log what was to be logged. -/
theorem PollPhase.Kept.of_silent {phase phase' : PollPhase} (hkept : phase.Kept name h)
    (hanswer : answerIn name event = none)
    (hlines : phase.unlogged name = (lineIn event).toList ++ phase'.unlogged name)
    (hknown : phase.known = phase'.known) : phase'.Kept name (event :: h) := by
  refine ⟨?_, ?_⟩
  · rw [linesOf_cons, List.append_assoc, ← hlines, changesOf_cons_none hanswer]
    exact hkept.logged
  · rw [answersOf_cons, hanswer, Option.toList_none, List.append_nil, ← hknown]
    exact hkept.known

/-- **One step** of a round logs a change or leaves one to be logged next. -/
theorem PollStep.kept {phase phase' : PollPhase} (hstep : PollStep name tracker phase event phase')
    (hkept : phase.Kept name h) : phase'.Kept name (event :: h) := by
  cases hstep with
  | tick => exact hkept.of_silent rfl rfl rfl
  | @change was answer changed =>
    have hanswer : answerIn name ⟨.getJson name probePath, answer⟩ = some answer := by
      simp [answerIn]
    refine ⟨?_, by simp [hanswer, PollPhase.known]⟩
    rw [changesOf_cons_some hanswer, hkept.known, PollPhase.known, if_neg changed]
    simpa [lineIn, PollPhase.unlogged] using hkept.logged
  | @same answer =>
    have hanswer : answerIn name ⟨.getJson name probePath, answer⟩ = some answer := by
      simp [answerIn]
    refine ⟨?_, by simp [hanswer, PollPhase.known]⟩
    rw [changesOf_cons_some hanswer, hkept.known, PollPhase.known, if_pos rfl]
    simpa [lineIn, PollPhase.unlogged] using hkept.logged
  | log => exact hkept.of_silent rfl rfl rfl
  | record => exact hkept.of_silent rfl rfl rfl

/-- **All rounds**: what is not yet logged is at most the newest answer. -/
theorem kept_of_accepts {phase : PollPhase}
    (haccepts : (PollStep name tracker).Accepts (.waiting none) h phase) : phase.Kept name h :=
  haccepts.invariant (I := fun h phase => phase.Kept name h)
    (fun hstep hkept => hstep.kept hkept) ⟨rfl, rfl⟩

end Rounds

/-! ### The log in every run -/

section Runs

variable {clients : List String} {pool : Pool (readinessMachine clients)} {id : ℕ}

private theorem follows_poll {cluster : String × ℕ} {spawned : cluster ∈ tracked clients}
    {rounds : ℕ} :
    Program.Follows (PollStep cluster.1 cluster.2) (fun _ _ => True) (.waiting none)
      ((readinessMachine clients).body (.poll cluster spawned rounds)) :=
  follows_pollCluster.bind fun _ _ _ => trivial

/-- **The log says what changed**: in every run, unless the newest thing a poller has done is to get
an answer, its lines are its answers destuttered, in order. -/
theorem linesOf_eq_of_reachable (h : Reachable (readinessMachine clients) pool)
    {cluster : String × ℕ} {spawned : cluster ∈ tracked clients} {rounds : ℕ}
    (hstart : Entry.start id (.poll cluster spawned rounds) ∈ pool.trace)
    (hsettled : ((historyOf id pool.trace).head?.bind (answerIn cluster.1)) = none) :
    linesOf (historyOf id pool.trace) =
      (changesOf cluster.1 (historyOf id pool.trace)).map (transitionLine cluster.1) := by
  obtain ⟨phase, haccepts⟩ := h.accepts hstart follows_poll
  have hlogged := (kept_of_accepts haccepts).logged
  have hnothing : phase.unlogged cluster.1 = [] := by
    generalize historyOf id pool.trace = history at haccepts hsettled
    cases haccepts with
    | nil => rfl
    | cons _ step =>
      cases step with
      | change => simp [answerIn] at hsettled
      | _ => rfl
  rwa [hnothing, List.append_nil] at hlogged

end Runs

/-! ### The verdict of the probe -/

section Verdict

variable {clients : List String} {pool : Pool (readinessMachine clients)} {id : ℕ}

abbrev ReadinessTrace (clients : List String) :=
  Trace Readiness (ReadinessCall clients) ReadinessResult

/-- The answer to the last poll of a cluster that was recorded in its tracker, if there was one
since the server started. -/
def lastPoll (cluster : String × ℕ) : ReadinessTrace clients → Option PollAnswer
  | [] => none
  | .event id ⟨.record tracker _, _⟩ :: older =>
    if tracker = cluster.2 then (answersOf cluster.1 (historyOf id older)).getLast?
    else lastPoll cluster older
  | .crash :: _ => none
  | _ :: older => lastPoll cluster older

/-- The last poll of a cluster has succeeded. -/
def Verified (cluster : String × ℕ) (trace : ReadinessTrace clients) : Prop :=
  (lastPoll cluster trace).map Except.isOk = some true

instance (cluster : String × ℕ) (trace : ReadinessTrace clients) :
    Decidable (Verified cluster trace) := inferInstanceAs (Decidable (_ = _))

private theorem verified_record_self {cluster : String × ℕ} {reachable : Bool}
    {older : ReadinessTrace clients} :
    Verified cluster (.event id ⟨.record cluster.2 reachable, ()⟩ :: older) ↔
      (answersOf cluster.1 (historyOf id older)).getLast?.map Except.isOk = some true := by
  rw [Verified, lastPoll, if_pos rfl]

private theorem verified_record_of_ne {cluster : String × ℕ} {tracker : ℕ} {reachable : Bool}
    {older : ReadinessTrace clients} (h : tracker ≠ cluster.2) :
    Verified cluster (.event id ⟨.record tracker reachable, ()⟩ :: older) ↔
      Verified cluster older := by
  rw [Verified, lastPoll, if_neg h, Verified]

/-- What a search of the trackers has seen. -/
def Searched (trackers : List ℕ) (h : History Readiness) (reachable : Bool) : Prop :=
  (reachable = true → ∀ tracker ∈ trackers, ⟨.isReachable tracker, true⟩ ∈ h) ∧
    (reachable = false → ∃ tracker ∈ trackers, ⟨.isReachable tracker, false⟩ ∈ h)

private theorem always_allReachable {trackers : List ℕ} {h : History Readiness} :
    Program.Always (fun _ (op : ReadinessOp) => ∃ tracker, op = .isReachable tracker)
      (Searched trackers) h (allReachable trackers) := by
  induction trackers generalizing h with
  | nil => exact ⟨fun _ _ => List.not_mem_nil.elim, fun heq => Bool.noConfusion heq⟩
  | cons tracker trackers ih =>
    refine ⟨⟨tracker, rfl⟩, fun reachable => ?_⟩
    cases reachable with
    | false =>
      refine ⟨fun heq => Bool.noConfusion heq, fun _ => ⟨tracker, ?_, ?_⟩⟩
      · exact List.mem_cons_self
      · exact List.mem_cons_self
    | true =>
      refine (Program.Always.frame ih).mono (fun _ _ hop => hop.1) ?_
      rintro h' reachable ⟨⟨hall, hnone⟩, hsuffix⟩
      refine ⟨fun heq tracker' hmem => ?_, fun heq => ?_⟩
      · rcases List.mem_cons.mp hmem with rfl | hmem
        · exact hsuffix.mem List.mem_cons_self
        · exact hall heq tracker' hmem
      · obtain ⟨tracker', hmem, hread⟩ := hnone heq
        exact ⟨tracker', List.mem_cons_of_mem _ hmem, hread⟩

/-- The operations of a call. -/
def ReadinessCall.Allows : ReadinessCall clients → History Readiness → ReadinessOp → Prop
  | .poll cluster _ _, h, op => ∃ phase, (PollStep cluster.1 cluster.2).Accepts (.waiting none) h
      phase ∧ ∀ reply, ∃ phase', PollStep cluster.1 cluster.2 phase ⟨op, reply⟩ phase'
  | .probe, _, op => ∃ tracker, op = .isReachable tracker

/-- What a call has seen when it returns. -/
def ReadinessCall.Returns : ReadinessCall clients → History Readiness → ReadinessResult → Prop
  | .poll _ _ _, _, result => result = .stopped
  | .probe, h, result => ∃ reachable, Searched (List.range clients.length) h reachable ∧
      result = .verdict (if reachable then .ok () else .error unreachableReason)

theorem ReadinessCall.always_body (call : ReadinessCall clients) :
    Program.Always call.Allows call.Returns [] call.body := by
  cases call with
  | poll cluster spawned rounds =>
    have hfollows : Program.Follows (PollStep cluster.1 cluster.2)
        (fun _ result => result = ReadinessResult.stopped) (.waiting none)
        (ReadinessCall.body (.poll cluster spawned rounds)) :=
      follows_pollCluster.bind fun _ _ _ => rfl
    exact (hfollows.always .nil).mono (fun _ _ hop => hop) fun _ _ ⟨_, _, hresult⟩ => hresult
  | probe =>
    rw [ReadinessCall.body, fleetProbe, Program.always_bind, Program.always_bind]
    refine always_allReachable.mono (fun _ _ hop => hop) fun h reachable hsearched => ?_
    cases reachable with
    | true => exact ⟨true, hsearched, rfl⟩
    | false => exact ⟨false, hsearched, rfl⟩

def readinessGuarantee (clients : List String) : Guarantee (readinessMachine clients) where
  op := ReadinessCall.Allows
  result := ReadinessCall.Returns
  keeps := ReadinessCall.always_body

/-- What a call records is whether its cluster has answered. -/
theorem ReadinessCall.answered_of_allows {call : ReadinessCall clients} {h : History Readiness}
    {tracker : ℕ} {reachable : Bool} (hallows : call.Allows h (.record tracker reachable)) :
    ∃ name, (name, tracker) ∈ tracked clients ∧
      (answersOf name h).getLast?.map Except.isOk = some reachable := by
  cases call with
  | poll cluster spawned rounds =>
    obtain ⟨phase, haccepts, hnext⟩ := hallows
    have hknown := (kept_of_accepts haccepts).known
    obtain ⟨phase', hstep⟩ := hnext ()
    cases hstep with
    | record => exact ⟨cluster.1, spawned, hknown⟩
  | probe => obtain ⟨_, heq⟩ := hallows; cases heq

/-- The flags show which clusters' last poll has succeeded. -/
def ShowPolls (flags : ℕ → Bool) (trace : ReadinessTrace clients) : Prop :=
  ∀ cluster ∈ tracked clients, flags cluster.2 = true ↔ Verified cluster trace

/-- **One record** of what a cluster has answered keeps the flags in step with the polls. -/
theorem ShowPolls.record {flags : ℕ → Bool} {trace : ReadinessTrace clients} {name : String}
    {tracker : ℕ} {reachable : Bool} (hshow : ShowPolls flags trace)
    (hname : (name, tracker) ∈ tracked clients)
    (hanswer : (answersOf name (historyOf id trace)).getLast?.map Except.isOk = some reachable) :
    ShowPolls (Function.update flags tracker reachable)
      (.event id ⟨.record tracker reachable, ()⟩ :: trace) := by
  intro cluster hcluster
  by_cases htracker : tracker = cluster.2
  · subst htracker
    obtain rfl := eq_of_tracked hname hcluster
    rw [verified_record_self, hanswer, Function.update_self, Option.some.injEq]
  · rw [verified_record_of_ne htracker, Function.update_of_ne (Ne.symm htracker)]
    exact hshow cluster hcluster

/-- A tracker that is read shows whether the last poll of its cluster has succeeded. -/
def ShowsLastPoll (entry : Entry Readiness (ReadinessCall clients) ReadinessResult)
    (older : ReadinessTrace clients) : Prop :=
  ∀ id tracker reachable, entry = .event id ⟨.isReachable tracker, reachable⟩ →
    ∀ name, (name, tracker) ∈ tracked clients →
      (reachable = true ↔ Verified (name, tracker) older)

/-- **The trackers follow the polls**, in every run. -/
theorem tracked_of_reachable (h : Reachable (readinessMachine clients) pool) :
    ShowPolls pool.world pool.trace ∧ Throughout ShowsLastPoll pool.trace := by
  have hother {entry : Entry Readiness (ReadinessCall clients) ReadinessResult}
      {older : ReadinessTrace clients} (hentry : ∀ id event, entry ≠ .event id event) :
      ShowsLastPoll entry older := fun id _ _ heq => absurd heq (hentry id _)
  refine h.invariant (readinessGuarantee clients) (I := fun flags trace =>
    ShowPolls flags trace ∧ Throughout ShowsLastPoll trace) ?_ ?_ ?_ ?_ ?_ ?_ ?_
  · rintro _ rfl
    exact ⟨fun cluster _ => by simp [Verified, lastPoll], trivial⟩
  · intro pool id call _ ih _
    exact ⟨ih.1, hother (fun _ _ heq => nomatch heq), ih.2⟩
  · intro pool id call op reply flags' _ ih _ _ hallows step
    cases step with
    | @record tracker reachable =>
      obtain ⟨name, hname, hanswer⟩ := ReadinessCall.answered_of_allows hallows
      refine ⟨ih.1.record hname hanswer, fun _ _ _ heq => ?_, ih.2⟩
      cases heq
    | read =>
      refine ⟨ih.1, ?_, ih.2⟩
      rintro _ _ _ ⟨⟩ name hname
      exact ih.1 _ hname
    | _ =>
      refine ⟨ih.1, fun _ _ _ heq => ?_, ih.2⟩
      cases heq
  · intro pool id call result _ ih _ _
    exact ⟨ih.1, hother (fun _ _ heq => nomatch heq), ih.2⟩
  · intro pool id _ ih
    exact ⟨ih.1, hother (fun _ _ heq => nomatch heq), ih.2⟩
  · intro pool flags' _ _ hmove
    exact hmove.elim
  · rintro pool _ _ ih rfl
    exact ⟨fun cluster _ => by simp [Verified, lastPoll], hother (fun _ _ heq => nomatch heq), ih.2⟩

/-- A moment of a run at which a probe had begun and was not over. -/
def During (id : ℕ) (older moment : ReadinessTrace clients) : Prop :=
  moment <:+ older ∧ Entry.start id .probe ∈ moment

/-- What a probe has read was shown by a moment of it. -/
private theorem exists_during (h : Reachable (readinessMachine clients) pool)
    {newer older : ReadinessTrace clients} {result : ReadinessResult}
    (htrace : pool.trace = newer ++ .finish id result :: older)
    (hstart : Entry.start id .probe ∈ older) {cluster : String × ℕ}
    (hcluster : cluster ∈ tracked clients) {reachable : Bool}
    (hread : ⟨.isReachable cluster.2, reachable⟩ ∈ historyOf id older) :
    ∃ moment, During id older moment ∧ (reachable = true ↔ Verified cluster moment) := by
  obtain ⟨after, moment, rfl⟩ := List.append_of_mem (mem_historyOf_iff.mp hread)
  have hsplit : pool.trace = (newer ++ .finish id result :: after) ++
      .event id ⟨.isReachable cluster.2, reachable⟩ :: moment :=
    htrace.trans (List.append_assoc newer (_ :: after) _).symm
  obtain ⟨call, hcall, -⟩ := h.performed (.trivial _) hsplit
  have hmem {entry} (hentry : entry ∈ moment) : entry ∈ pool.trace := by
    rw [hsplit]
    exact List.mem_append_right _ (.tail _ hentry)
  have hprobe : Entry.start id .probe ∈ pool.trace := by
    rw [htrace]
    exact List.mem_append_right _ (.tail _ hstart)
  obtain rfl := h.start_unique (hmem hcall) hprobe
  have hshows := throughout_iff.mp (tracked_of_reachable h).2 _ _ _ hsplit
  have hsuffix : moment <:+ after ++ .event id ⟨.isReachable cluster.2, reachable⟩ :: moment :=
    ⟨after ++ [_], List.append_assoc after [_] moment⟩
  exact ⟨moment, ⟨hsuffix, hcall⟩, hshows _ _ _ rfl _ hcluster⟩

/-- **A verdict is grounded in polls**: in every run, when the probe finds the fleet ready, then
for each cluster there was a moment while it ran at which the last poll of the cluster had
succeeded; otherwise it gives the one fixed reason, and there was a moment while it ran at which
the last poll of some cluster had failed or none was recorded. -/
theorem verdict_of_finish (h : Reachable (readinessMachine clients) pool)
    {newer older : ReadinessTrace clients} {outcome : Except String Unit}
    (htrace : pool.trace = newer ++ .finish id (.verdict outcome) :: older) :
    (outcome = .ok () → ∀ cluster ∈ tracked clients,
      ∃ moment, During id older moment ∧ Verified cluster moment) ∧
    (∀ reason, outcome = .error reason → reason = unreachableReason ∧
      ∃ cluster ∈ tracked clients, ∃ moment, During id older moment ∧
        ¬ Verified cluster moment) := by
  obtain ⟨call, hstart, hreturns⟩ := h.finished (readinessGuarantee clients) htrace
  cases call with
  | poll cluster spawned rounds => cases hreturns
  | probe =>
    obtain ⟨reachable, ⟨hall, hnone⟩, hverdict⟩ := hreturns
    have houtcome := ReadinessResult.verdict.inj hverdict
    cases reachable with
    | true =>
      rw [if_pos rfl] at houtcome
      subst houtcome
      refine ⟨fun _ cluster hcluster => ?_, fun reason heq => nomatch heq⟩
      have htracker : cluster.2 ∈ List.range clients.length := (List.of_mem_zip hcluster).2
      obtain ⟨moment, hduring, hverified⟩ :=
        exists_during h htrace hstart hcluster (hall rfl _ htracker)
      exact ⟨moment, hduring, hverified.mp rfl⟩
    | false =>
      rw [if_neg Bool.false_ne_true] at houtcome
      subst houtcome
      refine ⟨(nomatch ·), ?_⟩
      rintro _ ⟨⟩
      obtain ⟨tracker, htracker, hread⟩ := hnone rfl
      obtain ⟨name, hname⟩ := exists_tracked htracker
      obtain ⟨moment, hduring, hverified⟩ := exists_during h htrace hstart hname hread
      refine ⟨rfl, _, hname, moment, hduring, fun hverify => ?_⟩
      exact Bool.noConfusion (hverified.mpr hverify)

end Verdict

/-! ### A cluster that comes back -/

section Restored

def pollPve : ReadinessCall ["pve"] := .poll ("pve", 0) (by decide) 2

def timedOut : PollAnswer := .error (.http ⟨"timed out"⟩)

/-- The cluster does not answer at first, and then does. -/
def polledEvents : List (Event Readiness) :=
  [⟨.tick, ()⟩, ⟨.getJson "pve" probePath, timedOut⟩, ⟨.log (transitionLine "pve" timedOut), ()⟩,
    ⟨.record 0 false, ()⟩, ⟨.tick, ()⟩, ⟨.getJson "pve" probePath, .ok .null⟩,
    ⟨.log (transitionLine "pve" (.ok .null)), ()⟩, ⟨.record 0 true, ()⟩]

private theorem pollPve_reaches :
    Program.Reaches ((readinessMachine ["pve"]).body pollPve) polledEvents (.done .stopped) := by
  iterate 8 refine Program.Reaches.step _ _ _ ?_
  exact Program.Reaches.refl _

private theorem performs_pollPve (flags : ℕ → Bool) {time : ℕ} {h : History Readiness} :
    (readinessMachine ["pve"]).Performs flags time h polledEvents
      (Function.update (Function.update flags 0 false) 0 true) :=
  .cons .tick <| .cons (.answer _) <| .cons .log <| .cons .record <| .cons .tick <|
    .cons (.answer _) <| .cons .log <| .cons .record .nil

/-- The poller has gone two rounds. -/
private theorem exists_reachable_polled : ∃ pool : Pool (readinessMachine ["pve"]),
    Reachable (readinessMachine ["pve"]) pool ∧ pool.world 0 = true ∧
      pool.trace = (polledEvents.map (Entry.event 0)).reverse ++ [.start 0 pollPve] := by
  have hempty : Reachable (readinessMachine ["pve"]) ⟨fun _ => false, fun _ => none, []⟩ :=
    .initial rfl
  have hstarted := hempty.start 0 pollPve fun _ => List.not_mem_nil
  exact ⟨_, hstarted.run Pool.setThread_self pollPve_reaches (performs_pollPve _), rfl, rfl⟩

/-- Both changes are in the log, and nothing else. -/
theorem linesOf_polled : ∃ pool : Pool (readinessMachine ["pve"]),
    Reachable (readinessMachine ["pve"]) pool ∧ linesOf (historyOf 0 pool.trace) =
      [transitionLine "pve" timedOut, transitionLine "pve" (.ok .null)] := by
  obtain ⟨pool, hpool, -, htrace⟩ := exists_reachable_polled
  refine ⟨pool, hpool, ?_⟩
  have hstart : Entry.start 0 pollPve ∈ pool.trace := by
    rw [htrace]
    exact List.mem_append_right _ List.mem_cons_self
  have hlines := linesOf_eq_of_reachable hpool hstart (by simp [htrace, polledEvents, answerIn])
  rw [hlines, htrace]
  rfl

private theorem probe_reaches : Program.Reaches ((readinessMachine ["pve"]).body .probe)
    [⟨.isReachable 0, true⟩] (.done (.verdict (.ok ()))) :=
  .step _ _ _ (.refl _)

theorem ReadinessStep.read_true {flags : ℕ → Bool} (hflag : flags 0 = true) :
    ReadinessStep flags ⟨.isReachable 0, true⟩ flags := by
  have hread := @ReadinessStep.read flags 0
  rwa [hflag] at hread

/-- The probe then finds the fleet ready, and the cluster had answered. -/
theorem verdict_polled : ∃ older moment : ReadinessTrace ["pve"],
    During 1 older moment ∧ Verified ("pve", 0) moment := by
  obtain ⟨pool, hpool, hflag, htrace⟩ := exists_reachable_polled
  have hfresh : Fresh 1 pool.trace := by
    simp only [Fresh, htrace, polledEvents]
    intro call hmem
    simp at hmem
    cases hmem
  have hperforms : (readinessMachine ["pve"]).Performs pool.world
      (pool.trace.length + 1) (historyOf 1 (.start 1 .probe :: pool.trace))
      [⟨.isReachable 0, true⟩] pool.world := .cons (.read_true hflag) .nil
  have hran := (hpool.start 1 .probe hfresh).run Pool.setThread_self probe_reaches hperforms
  have hfinished := hran.finish 1 (.verdict (.ok ())) (by dsimp only; exact Pool.setThread_self)
  obtain ⟨moment, hmoment⟩ := (@verdict_of_finish _ _ _ hfinished [] _ _ rfl).1 rfl ("pve", 0)
    (by decide)
  exact ⟨_, moment, hmoment⟩

end Restored

end ProxmoxMcp
