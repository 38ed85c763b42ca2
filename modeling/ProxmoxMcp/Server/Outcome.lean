import ProxmoxMcp.ChangeSet.RestoreNewVmid
import ProxmoxMcp.Server.Authorization

/-!
# What a request has come to

A call that changes a cluster sends one request and has to say afterwards what came of it. `Outcome`
tells the answers apart: the cluster **accepted**, or it **refused**, or nobody knows. A task named
in an answer is polled until a status reply says how it ended (`Exited`).

`Aside` relates the histories before and after code that neither uses the index nor can change a
cluster: what the index said last still stands, and nothing has been sent.
-/

namespace ProxmoxMcp

open Interaction Program Text

/-! ### Aside -/

/-- The operation neither uses the index nor can change a cluster. -/
def Op.Aside : Op → Prop
  | .index _ => False
  | .http (.dispatch _ request) => ¬ request.Mutating
  | _ => True

/-- The operation only reads a cluster or the clock. -/
def Op.Reads : Op → Prop
  | .http (.dispatch _ request) => ¬ request.Mutating
  | .http (.await _) | .unixNow | .pollWait _ => True
  | _ => False

theorem Op.Reads.aside {op : Op} (h : op.Reads) : op.Aside := by
  cases op with
  | index => exact h.elim
  | http op => cases op <;> exact h
  | _ => trivial

theorem Op.Reads.not_mutates {op : Op} (h : op.Reads) : ¬ op.Mutates := by
  intro hmutates
  cases op with
  | http op =>
    cases op with
    | dispatch client request => exact h hmutates
    | await ticket => exact hmutates
  | _ => exact hmutates

/-- The call has sent no request that can change a cluster. -/
def Unsent (h : History Effect) : Prop := ∀ event ∈ h, ¬ event.op.Mutates

theorem Unsent.cons {h : History Effect} {event : Event Effect} (hunsent : Unsent h)
    (hevent : ¬ event.op.Mutates) : Unsent (event :: h) :=
  List.forall_mem_cons.mpr ⟨hevent, hunsent⟩

/-- From `h` to `h'` the call has only done things aside. -/
def Aside (h h' : History Effect) : Prop :=
  ∃ newer, h' = newer ++ h ∧ ∀ event ∈ newer, event.op.Aside

namespace Aside

variable {h h' h'' : History Effect}

theorem refl (h : History Effect) : Aside h h := ⟨[], rfl, by simp⟩

theorem trans (hh : Aside h h') (hh' : Aside h' h'') : Aside h h'' := by
  obtain ⟨newer, rfl, hnewer⟩ := hh
  obtain ⟨newest, rfl, hnewest⟩ := hh'
  refine ⟨newest ++ newer, (List.append_assoc _ _ _).symm, fun event hevent => ?_⟩
  exact (List.mem_append.mp hevent).elim (hnewest event) (hnewer event)

theorem cons (hh : Aside h h') {event : Event Effect} (hevent : event.op.Aside) :
    Aside h (event :: h') :=
  hh.trans ⟨[event], rfl, by simpa using hevent⟩

theorem suffix (hh : Aside h h') : h <:+ h' := by
  obtain ⟨newer, rfl, -⟩ := hh
  exact List.suffix_append _ _

theorem lastSeen_eq (hh : Aside h h') (cluster : String) (vmid : UInt32) :
    lastSeen cluster vmid h' = lastSeen cluster vmid h := by
  obtain ⟨newer, rfl, hnewer⟩ := hh
  induction newer with
  | nil => rfl
  | cons event newer ih =>
    obtain ⟨hevent, hrest⟩ := List.forall_mem_cons.mp hnewer
    rw [List.cons_append, lastSeen_cons_of_ne, ih hrest]
    intro op hop
    simp [hop, Op.Aside] at hevent

theorem unsent (hh : Aside h h') (hunsent : Unsent h) : Unsent h' := by
  obtain ⟨newer, rfl, hnewer⟩ := hh
  intro event hevent
  rcases List.mem_append.mp hevent with hevent | hevent
  · have haside := hnewer event hevent
    obtain ⟨op, reply⟩ := event
    cases op with
    | http op => cases op <;> simp_all [Op.Aside, Op.Mutates]
    | _ => exact id
  · exact hunsent event hevent

end Aside

theorem Authorized.aside [Externals] {fresh held : Prop} {server : ProxmoxServer} {op : String}
    {principal : Option String} {vmid : UInt32} {authorization : Authorization}
    {h h' : History Effect} (ha : Authorized fresh held server op principal vmid authorization h)
    (hh : Aside h h') : Authorized fresh held server op principal vmid authorization h' :=
  ⟨(hh.lastSeen_eq _ _).trans ha.seen, ha.carriesTier, ha.admitted.mono hh.suffix⟩

section Rules

variable {ε α : Type} {G : History Effect → Op → Prop} {R : History Effect → α → Prop}
  {h : History Effect} {p : ExceptT ε (Program Effect) α}

variable [Externals] {policy : Policy}

/-- Reading is quiet, and looks nothing up. -/
theorem Op.Reads.quiet {op : Op} (hop : op.Reads) : Quiet (fun _ _ _ => False) h op := by
  cases op with
  | http op => cases op <;> exact hop
  | unixNow => trivial
  | pollWait => trivial
  | _ => exact hop.elim

theorem Policy.allows_of_reads {op : Op} (hop : op.Reads) (hreads : policy.reads h) :
    policy.Allows h op :=
  Policy.allows_of_quiet hop.quiet hreads fun _ _ hlookup => hlookup.elim

/-- Reads are allowed while nothing has been sent. -/
theorem always_reads {Q : History Effect → Except ε α → Prop}
    (hp : Always (fun _ (op : Op) => op.Reads) Q h p.run) (hunsent : Unsent h)
    (hreads : ∀ h, Unsent h → policy.reads h) :
    Always policy.Allows (fun h' outcome => Q h' outcome ∧ Aside h h') h p.run := by
  refine (hp.keeps (P := Aside h) (fun _ _ _ hop hh => hh.cons hop.aside) (.refl h)).mono
    (fun h' op hop => ?_) fun _ _ hQ => hQ
  exact Policy.allows_of_reads hop.1 (hreads _ (hop.2.unsent hunsent))

theorem ensures_reads (hp : Ensures (fun _ (op : Op) => op.Reads) R h p) (hunsent : Unsent h)
    (hreads : ∀ h, Unsent h → policy.reads h) :
    Ensures policy.Allows (fun h' value => R h' value ∧ Aside h h') h p :=
  (always_reads hp hunsent hreads).mono (fun _ _ hop => hop)
    fun _ _ hQ value heq => ⟨hQ.1 value heq, hQ.2⟩

/-- Quiet code is allowed while nothing has been sent, and sends nothing. -/
private theorem always_quiet {Q : History Effect → Except ε α → Prop} {lookups : LookupRule}
    (hp : Always (Quiet lookups) Q h p.run) (hunsent : Unsent h)
    (hreads : ∀ h, Unsent h → policy.reads h)
    (hlookups : ∀ h cluster vmid, lookups h cluster vmid → policy.lookups h cluster vmid) :
    Always policy.Allows (fun h' outcome => Q h' outcome ∧ Unsent h') h p.run := by
  refine (hp.keeps (P := Unsent) (fun h op reply hop hunsent => ?_) hunsent).mono
    (fun h' op hop => Policy.allows_of_quiet hop.1 (hreads _ hop.2) (hlookups _)) fun _ _ hQ => hQ
  refine List.forall_mem_cons.mpr ⟨?_, hunsent⟩
  cases op with
  | http op => cases op <;> simp_all [Quiet, Op.Mutates]
  | _ => exact id

theorem ensures_quiet {lookups : LookupRule} (hp : Ensures (Quiet lookups) R h p)
    (hunsent : Unsent h) (hreads : ∀ h, Unsent h → policy.reads h)
    (hlookups : ∀ h cluster vmid, lookups h cluster vmid → policy.lookups h cluster vmid) :
    Ensures policy.Allows (fun h' value => R h' value ∧ Unsent h') h p :=
  (always_quiet hp hunsent hreads hlookups).mono (fun _ _ hop => hop)
    fun _ _ hQ value heq => ⟨hQ.1 value heq, hQ.2⟩

end Rules

variable [Externals]

/-! ### The answer to a request -/

/-- A request has been answered. -/
def Replied (client : String) (request : ApiRequest) (response : HttpResponse)
    (h : History Effect) : Prop :=
  ∃ ticket : ℕ, ⟨.http (.dispatch client request), ticket⟩ ∈ h ∧
    ⟨.http (.await ticket), .ok response⟩ ∈ h

omit [Externals] in
theorem Replied.mono {client : String} {request : ApiRequest} {response : HttpResponse}
    {h h' : History Effect} (hr : Replied client request response h) (hh : h <:+ h') :
    Replied client request response h' := by
  obtain ⟨ticket, hdispatch, hawait⟩ := hr
  exact ⟨ticket, hh.subset hdispatch, hh.subset hawait⟩

/-- The cluster has accepted a change, and answered with this. -/
def Accepted (client : String) (data : Json) (h : History Effect) : Prop :=
  ∃ request response, request.Mutating ∧ Replied client request response h ∧
    ProxmoxClient.readAnswer response = .ok data

theorem Accepted.mono {client : String} {data : Json} {h h' : History Effect}
    (ha : Accepted client data h) (hh : h <:+ h') : Accepted client data h' := by
  obtain ⟨request, response, hrequest, hreplied, hread⟩ := ha
  exact ⟨request, response, hrequest, hreplied.mono hh, hread⟩

/-- The cluster has answered a change with an error status. -/
def Refused (client : String) (h : History Effect) : Prop :=
  ∃ request response, request.Mutating ∧ Replied client request response h ∧
    400 ≤ response.status

omit [Externals] in
theorem Refused.mono {client : String} {h h' : History Effect} (hr : Refused client h)
    (hh : h <:+ h') : Refused client h' := by
  obtain ⟨request, response, hrequest, hreplied, hstatus⟩ := hr
  exact ⟨request, response, hrequest, hreplied.mono hh, hstatus⟩

/-- An answer that settles that nothing happened. -/
def ProxmoxError.isDefinitive : ProxmoxError → Bool
  | api _ _ | unauthorized | denied _ | notFound _ => true
  | _ => false

/-- What sending the request of a change has come to: it was accepted, or if it failed definitively
then the cluster refused it, or nothing was sent and a check failed. -/
def Outcome {α : Type} (client : String) (names : Json → α → Prop) (checks : History Effect → Prop)
    (h : History Effect) : Except ProxmoxError α → Prop
  | .ok value => ∃ data, Accepted client data h ∧ names data value
  | .error error => error.isDefinitive → Refused client h ∨ Unsent h ∧ checks h

theorem Outcome.mono {α : Type} {client : String} {names : Json → α → Prop}
    {checks checks' : History Effect → Prop} {h : History Effect}
    {outcome : Except ProxmoxError α} (ho : Outcome client names checks h outcome)
    (hchecks : checks h → checks' h) : Outcome client names checks' h outcome := by
  cases outcome with
  | ok value => exact ho
  | error error => exact fun hdefinitive => (ho hdefinitive).imp_right (And.imp_right hchecks)

/-- The one request of a change, sent and read. -/
theorem outcome_of_sent {α : Type} {client : ProxmoxClient} {request : ApiRequest}
    {read : Json → Except ProxmoxError α} {names : Json → α → Prop}
    {checks : History Effect → Prop} {h h' : History Effect} {outcome : Except ProxmoxError α}
    (hsent : Sent client request h read h' outcome) (hrequest : request.Mutating)
    (hnames : ∀ data value, read data = .ok value → names data value)
    (hread : ∀ data error, read data = .error error → error.isDefinitive = false) :
    Outcome client.name names checks h' outcome := by
  -- only an answer with a status that is no success is definitive
  cases hsent with
  | refused text => simp [Outcome, ProxmoxError.isDefinitive]
  | unsendable error => simp [Outcome, ProxmoxError.isDefinitive]
  | answered ticket reply =>
    cases reply with
    | error text => simp [Outcome, ProxmoxClient.readReply, Except.mapError, Except.bind,
        ProxmoxError.isDefinitive]
    | ok response =>
      have hreplied : Replied client.name request response (⟨.http (.await ticket), .ok response⟩ ::
          ⟨.http (.dispatch client.name request), ticket⟩ :: h) := ⟨ticket, by simp, by simp⟩
      cases hanswer : ProxmoxClient.readAnswer response with
      | ok data =>
        simp only [ProxmoxClient.readReply, Except.mapError, Except.bind, hanswer]
        cases hvalue : read data with
        | ok value => exact ⟨data, ⟨request, response, hrequest, hreplied, hanswer⟩,
            hnames data value hvalue⟩
        | error error => simp [Outcome, hread data error hvalue]
      | error error =>
        simp only [ProxmoxClient.readReply, Except.mapError, Except.bind, hanswer]
        intro hdefinitive
        refine .inl ⟨request, response, hrequest, hreplied, ?_⟩
        by_contra hstatus
        simp only [ProxmoxClient.readAnswer, if_neg hstatus] at hanswer
        split at hanswer
        · obtain rfl := Except.error.inj hanswer
          simp [ProxmoxError.isDefinitive] at hdefinitive
        · split at hanswer
          · simp at hanswer
          · obtain rfl := Except.error.inj hanswer
            simp [ProxmoxError.isDefinitive] at hdefinitive

/-- A request that came to a value was answered, and the answer reads as the value. -/
theorem Sent.replied {α : Type} {client : ProxmoxClient} {request : ApiRequest}
    {read : Json → Except ProxmoxError α} {h h' : History Effect} {value : α}
    (hsent : Sent client request h read h' (.ok value)) : ∃ response data,
      Replied client.name request response h' ∧ ProxmoxClient.readAnswer response = .ok data ∧
        read data = .ok value := by
  generalize houtcome : (Except.ok value : Except ProxmoxError α) = outcome at hsent
  cases hsent with
  | answered ticket reply =>
    cases reply with
    | error text => simp [ProxmoxClient.readReply, Except.mapError, Except.bind] at houtcome
    | ok response =>
      cases hanswer : ProxmoxClient.readAnswer response with
      | error error => simp [ProxmoxClient.readReply, Except.mapError, Except.bind, hanswer]
        at houtcome
      | ok data =>
        refine ⟨response, data, ⟨ticket, by simp, by simp⟩, hanswer, ?_⟩
        simp [ProxmoxClient.readReply, Except.mapError, Except.bind, hanswer]
  | _ => simp at houtcome

/-- The handle an answer names, or nothing. -/
def NamesTask (data : Json) (upid : String) : Prop := upid = data.asStr.getD ""

/-- What an answer names when nothing is read from it. -/
def NamesNothing (_ : Json) (_ : Unit) : Prop := True

omit [Externals] in
theorem namesTask_of_upidFrom {data : Json} {upid : String}
    (h : Guests.upidFrom data = .ok upid) : NamesTask data upid := by
  rw [Guests.upidFrom] at h
  split at h
  · cases h
  · next text htext =>
    split at h
    · cases h
    · rw [NamesTask, htext, Option.getD_some, Except.ok.inj h]

omit [Externals] in
/-- An answer that names no task leaves open what came of the request. -/
theorem isDefinitive_of_upidFrom {data : Json} {error : ProxmoxError}
    (h : Guests.upidFrom data = .error error) : error.isDefinitive = false := by
  rw [Guests.upidFrom] at h
  split at h
  · obtain rfl := Except.error.inj h
    rfl
  · split at h
    · obtain rfl := Except.error.inj h
      rfl
    · cases h

/-- A request whose answer has to name a task. -/
theorem always_runTask {policy : Policy} {client : ProxmoxClient} {request : ApiRequest}
    {checks : History Effect → Prop} {h : History Effect} (hrequest : request.Mutating)
    (hsend : policy.Permits h client.name request) :
    Always policy.Allows (Outcome client.name NamesTask checks) h
      (Guests.runTask client request).run := by
  refine (always_send_read hsend).mono (fun _ _ hop => hop) fun h' outcome hsent => ?_
  exact outcome_of_sent hsent hrequest (fun _ _ hupid => namesTask_of_upidFrom hupid)
    fun _ _ herror => isDefinitive_of_upidFrom herror

/-! ### Polling a task -/

/-- The request for the status of a task. -/
def statusRequest (node upid : String) : ApiRequest :=
  let encoded := "%3A".intercalate (fields upid ':')
  ⟨.get, s!"/api2/json/nodes/{node}/tasks/{encoded}/status", [], [], []⟩

/-- What a status says: nothing yet while the task runs, or its exit status. -/
def readTaskStatus (data : Json) : Except String (Option String) :=
  match data.getStr "status" with
  | none => .error "status field missing or not a string"
  | some "running" => .ok none
  | some "stopped" => match data.getStr "exitstatus" with
    | some exitstatus => .ok (some exitstatus)
    | none => .error "exitstatus field missing or not a string"
  | some status => .error s!"unexpected task status: {status}"

/-- Ask once how a task is doing. -/
def probeTask (client : ProxmoxClient) (node upid : String) :
    ExceptT String (Program Effect) (Option String) := do
  let data ← mapError (fun error => s!"task status request failed: {error.toText}")
    (client.send (statusRequest node upid))
  liftM (readTaskStatus data)

/-- The answer when polling has taken too long. -/
def deadlineExceeded (attempts : ℕ) : ToolResult :=
  toolError s!"polling exceeded its 300s deadline after {attempts} attempt(s)"

/-- Poll after so many attempts, at most `fuel` times more. -/
def pollTask (client : ProxmoxClient) (node upid : String) : ℕ → ℕ → ToolM String
  | 0, attempts => throw (deadlineExceeded attempts)
  | fuel + 1, attempts => do
    let exitstatus ← mapError (fun source =>
      toolError s!"probe failed on attempt {attempts + 1}: {source}") (probeTask client node upid)
    match exitstatus with
    | some exitstatus => return exitstatus
    | none => match ← pollWait (attempts + 1) with
      | .again => pollTask client node upid fuel (attempts + 1)
      | .deadlineExceeded => throw (deadlineExceeded (attempts + 1))
      | .cancelled => throw (toolError s!"polling cancelled after {attempts + 1} attempt(s)")

/-- Poll a task to completion and return its exit status. Every wait takes a second or more, so 300
attempts reach the deadline. -/
def pollProxmoxTask (client : ProxmoxClient) (node upid : String) : ToolM String :=
  pollTask client node upid 300 0

/-- A status reply for a task, not reporting it as running, has carried this exit status. -/
def Exited (client upid exitstatus : String) (h : History Effect) : Prop :=
  ∃ task response data, Upid.parse upid = .ok task ∧
    Replied client (statusRequest task.node upid) response h ∧
    ProxmoxClient.readAnswer response = .ok data ∧ data.getStr "status" ≠ some "running" ∧
    data.getStr "exitstatus" = some exitstatus

theorem Exited.mono {client upid exitstatus : String} {h h' : History Effect}
    (he : Exited client upid exitstatus h) (hh : h <:+ h') : Exited client upid exitstatus h' := by
  obtain ⟨task, response, data, htask, hreplied, hread⟩ := he
  exact ⟨task, response, data, htask, hreplied.mono hh, hread⟩

omit [Externals] in
/-- A status that yields an exit status does not report the task as running. -/
theorem exitstatus_of_readTaskStatus {data : Json} {exitstatus : String}
    (h : readTaskStatus data = .ok (some exitstatus)) :
    data.getStr "status" ≠ some "running" ∧ data.getStr "exitstatus" = some exitstatus := by
  simp only [readTaskStatus] at h
  split at h
  · simp at h
  · simp at h
  · next hstatus =>
    split at h
    · next hexit =>
      obtain rfl := Option.some.inj (Except.ok.inj h)
      exact ⟨by simp [hstatus], hexit⟩
    · simp at h
  · simp at h

private theorem ensures_probeTask {G : History Effect → Op → Prop} {client : ProxmoxClient}
    {task : Upid} {upid : String} {h : History Effect} (htask : Upid.parse upid = .ok task)
    (hreads : ∀ h' op, h <:+ h' → op.Reads → G h' op) :
    Ensures G (fun h' exitstatus => ∀ exit, exitstatus = some exit →
      Exited client.name upid exit h') h (probeTask client task.node upid) := by
  refine Ensures.bind (R := fun h' data => ∃ response,
      Replied client.name (statusRequest task.node upid) response h' ∧
        ProxmoxClient.readAnswer response = .ok data) (ensures_mapError.mpr ?_)
    (fun _ _ hop => hop) fun h' data _ hanswer => ?_
  · refine ProxmoxClient.always_send (fun _ _ _ heq => by simp at heq)
      (hreads _ _ List.suffix_rfl (not_not.mpr rfl))
      (fun ticket => hreads _ _ (List.suffix_cons _ _) trivial) fun ticket reply data heq => ?_
    cases reply with
    | error text => simp [ProxmoxClient.readReply, Except.mapError, Except.bind] at heq
    | ok response => exact ⟨response, ⟨ticket, by simp, by simp⟩, heq⟩
  · obtain ⟨response, hreplied, hread⟩ := hanswer
    refine ensures_liftExcept.mpr ?_
    rintro _ hstatus exit rfl
    obtain ⟨hrunning, hexit⟩ := exitstatus_of_readTaskStatus hstatus
    exact ⟨task, response, data, htask, hreplied, hread, hrunning, hexit⟩

/-- **Polling** sends status requests only, and what it returns was reported. -/
theorem ensures_pollTask {G : History Effect → Op → Prop} {client : ProxmoxClient} {task : Upid}
    {upid : String} (fuel attempts : ℕ) {h : History Effect} (htask : Upid.parse upid = .ok task)
    (hreads : ∀ h' op, h <:+ h' → op.Reads → G h' op) :
    Ensures G (fun h' exitstatus => Exited client.name upid exitstatus h') h
      (pollTask client task.node upid fuel attempts) := by
  induction fuel generalizing attempts h with
  | zero => exact ensures_throw
  | succ fuel ih =>
    refine Ensures.bind (ensures_mapError.mpr (ensures_probeTask htask hreads))
      (fun _ _ hop => hop) fun h' exitstatus hh hexited => ?_
    cases exitstatus with
    | some exitstatus => exact ensures_pure.mpr (hexited _ rfl)
    | none =>
      refine Ensures.request (hreads _ _ hh trivial) fun decision => ?_
      cases decision with
      | again =>
        have hsuffix := hh.trans (List.suffix_cons ⟨.pollWait (attempts + 1), .again⟩ h')
        exact ih _ fun h'' op hh' => hreads h'' op (hsuffix.trans hh')
      | deadlineExceeded => exact ensures_throw
      | cancelled => exact ensures_throw

end ProxmoxMcp
