import ProxmoxMcp.Fallible
import ProxmoxMcp.Server.Calls
import ProxmoxMcp.Server.Changes

/-!
# The order of an apply

`ApplyCall.policy` says what the writes of an apply rest on. `ApplyCall.Steps` says in which
**order** the apply goes: it sends before it writes, the answer that names a task is followed by the
write of its handle and by nothing else, and once something is written the record can only be
settled.

The code before the claim keeps to it because it neither sends nor writes (`Untouched.bind`).
-/

namespace ProxmoxMcp

open Interaction Text ProxmoxError
open Program hiding bind

variable [Externals]

/-! ### What has just happened -/

/-- The last thing the call has seen is the answer to a change, which the cluster has accepted. -/
def JustAnswered (client : String) (data : Json) (h : History Effect) : Prop :=
  ∃ (ticket : ℕ) (request : ApiRequest) (response : HttpResponse) (before : History Effect),
    h = ⟨.http (.await ticket), .ok response⟩ :: ⟨.http (.dispatch client request), ticket⟩ ::
        before ∧
      request.Mutating ∧ ProxmoxClient.readAnswer response = .ok data

/-- The call has written no record. -/
def Unwritten (h : History Effect) : Prop :=
  ∀ updated reply, (⟨.coordinator (.updateChangeSet updated), reply⟩ : Event Effect) ∉ h

/-- The call neither waits for the answer to a change nor has just got it. -/
structure Calm (h : History Effect) : Prop where
  unsent : ∀ client request before, ∀ ticket : ℕ,
    h = ⟨.http (.dispatch client request), ticket⟩ :: before → ¬ request.Mutating
  unanswered : ∀ client data, ¬ JustAnswered client data h

/-- The operation neither changes a cluster nor writes a record. -/
def Op.Harmless (op : Op) : Prop :=
  ¬ op.Mutates ∧ ∀ updated, op ≠ .coordinator (.updateChangeSet updated)

omit [Externals] in
theorem Op.harmless_evidence (op : EvidenceOp) : (Op.evidence op).Harmless :=
  ⟨not_false, nofun⟩

omit [Externals] in
theorem Op.harmless_claim (id device : String) :
    (Op.coordinator (.claimChangeSetForApply id device)).Harmless :=
  ⟨not_false, nofun⟩

/-- The call has sent no change and written no record. -/
structure Untouched (h : History Effect) : Prop where
  unsent : Unsent h
  unwritten : Unwritten h

/-- What an apply may do next. -/
structure ApplyCall.Steps (call : ApplyCall) (h : History Effect) (op : Op) : Prop where
  /-- It sends before it writes. -/
  sends : op.Mutates → Unwritten h
  /-- Once it has written, it only settles. -/
  writes : ∀ updated, op = .coordinator (.updateChangeSet updated) →
    Unwritten h ∨ updated.state ≠ .applying
  /-- When the cluster has named the task of a change, it writes the handle. -/
  handle : call.family ≠ .haRule → ∀ upid task, JustAnswered call.cluster (.string upid) h →
    Upid.parse upid = .ok task → ∃ key device claimed,
      ⟨.coordinator (.claimChangeSetForApply key device), .ok claimed⟩ ∈ h ∧
        op = .coordinator (.updateChangeSet { claimed with taskId := some upid })

section Histories

variable {h : History Effect} {op : Op} {call : ApplyCall}

private theorem not_justAnswered_of_op {event : Event Effect} {client : String} {data : Json}
    (hop : ∀ ticket, event.op ≠ .http (.await ticket)) :
    ¬ JustAnswered client data (event :: h) := by
  rintro ⟨ticket, request, response, before, heq, -⟩
  obtain ⟨rfl, -⟩ := List.cons.inj heq
  exact hop ticket rfl

/-- Right after the coordinator answered, no answer to a change is awaited. -/
private theorem calm_coordinator {op : CoordinatorOp} {reply : Effect.Reply (.coordinator op)} :
    Calm (⟨.coordinator op, reply⟩ :: h) :=
  ⟨nofun, fun _ _ => not_justAnswered_of_op nofun⟩

theorem Calm.cons (hcalm : Calm h) {reply : Effect.Reply op} (hop : ¬ op.Mutates) :
    Calm (⟨op, reply⟩ :: h) where
  unsent := by
    intro client request before ticket heq hmutating
    obtain ⟨heq, -⟩ := List.cons.inj heq
    cases heq
    exact hop hmutating
  unanswered := by
    rintro client data ⟨ticket, request, response, before, heq, hmutating, -⟩
    obtain ⟨-, rfl⟩ := List.cons.inj heq
    exact hcalm.unsent _ _ _ _ rfl hmutating

omit [Externals] in
theorem Unwritten.cons (hu : Unwritten h) {reply : Effect.Reply op}
    (hop : ∀ updated, op ≠ .coordinator (.updateChangeSet updated)) :
    Unwritten (⟨op, reply⟩ :: h) := by
  intro updated reply' hmem
  rcases List.mem_cons.mp hmem with heq | hmem
  · exact hop updated (congrArg Event.op heq).symm
  · exact hu updated reply' hmem

theorem Untouched.calm (hu : Untouched h) : Calm h where
  unsent := by
    rintro client request before ticket rfl
    exact hu.unsent _ List.mem_cons_self
  unanswered := by
    rintro client data ⟨ticket, request, response, before, rfl, hmutating, -⟩
    exact hu.unsent _ (List.mem_cons_of_mem _ List.mem_cons_self) hmutating

omit [Externals] in
theorem Untouched.cons (hu : Untouched h) {reply : Effect.Reply op} (hop : op.Harmless) :
    Untouched (⟨op, reply⟩ :: h) :=
  ⟨hu.unsent.cons hop.1, hu.unwritten.cons hop.2⟩

/-- While it is calm, an apply may do anything that is harmless. -/
theorem Calm.steps (hcalm : Calm h) (hop : op.Harmless) : call.Steps h op where
  sends hmutates := absurd hmutates hop.1
  writes updated heq := absurd heq (hop.2 updated)
  handle _ _ _ hanswered := absurd hanswered (hcalm.unanswered _ _)

/-- A calm apply may write once, and may settle. -/
theorem Calm.steps_update (hcalm : Calm h) {updated : ChangeSet}
    (hwrites : Unwritten h ∨ updated.state ≠ .applying) :
    call.Steps h (.coordinator (.updateChangeSet updated)) where
  sends hmutates := absurd hmutates not_false
  writes := by
    rintro _ ⟨⟩
    exact hwrites
  handle _ _ _ hanswered := absurd hanswered (hcalm.unanswered _ _)

omit [Externals] in
theorem Op.Reads.harmless (hop : op.Reads) : op.Harmless := by
  refine ⟨hop.not_mutates, ?_⟩
  rintro updated rfl
  exact hop

theorem Quiet.harmless {lookups : LookupRule} (hop : Quiet lookups h op) : op.Harmless := by
  refine ⟨hop.not_mutates, ?_⟩
  rintro updated rfl
  exact hop

end Histories

/-! ### Sending -/

/-- What the call has been told when it has sent a change: the answer was just accepted, and it
names this, or if it failed definitively no answer was. -/
def Told {α : Type} (client : String) (names : Json → α → Prop) (h : History Effect) :
    Except ProxmoxError α → Prop
  | .ok value => ∃ data, JustAnswered client data h ∧ names data value
  | .error error => error.isDefinitive → ∀ data, ¬ JustAnswered client data h

/-- The code that sends a change sends it before anything is written, writes nothing itself, and
ends with the answer. -/
def Sending (client : String) (h : History Effect) (op : Op) : Prop :=
  (op.Mutates → Unwritten h) ∧ (∀ updated, op ≠ .coordinator (.updateChangeSet updated)) ∧
    ∀ data, ¬ JustAnswered client data h

section Sends

variable {α : Type} {client : ProxmoxClient} {request : ApiRequest} {h h' : History Effect}
  {names : Json → α → Prop}

private theorem told_of_sent {read : Json → Except ProxmoxError α} {outcome : Except ProxmoxError α}
    (hsent : Sent client request h read h' outcome) (hrequest : request.Mutating)
    (hnames : ∀ data value, read data = .ok value → names data value)
    (hread : ∀ data error, read data = .error error → error.isDefinitive = false) :
    Told client.name names h' outcome := by
  cases hsent with
  | refused text => exact nofun
  | unsendable error => exact nofun
  | answered ticket reply =>
    cases reply with
    | error text => exact nofun
    | ok response =>
      cases hanswer : ProxmoxClient.readAnswer response with
      | ok data =>
        simp only [ProxmoxClient.readReply, Except.mapError, Except.bind, hanswer]
        cases hvalue : read data with
        | ok value =>
          exact ⟨data, ⟨ticket, request, response, h, rfl, hrequest, hanswer⟩, hnames _ _ hvalue⟩
        | error error => simp [Told, hread data error hvalue]
      | error error =>
        simp only [ProxmoxClient.readReply, Except.mapError, Except.bind, hanswer]
        rintro - data ⟨_, _, response', _, heq, -, hanswer'⟩
        obtain ⟨heq, -⟩ := List.cons.inj heq
        cases heq
        rw [hanswer] at hanswer'
        cases hanswer'

/-- One request, sent and read. -/
private theorem always_sending {read : Json → Except ProxmoxError α} (hu : Untouched h)
    (hrequest : request.Mutating) (hnames : ∀ data value, read data = .ok value → names data value)
    (hread : ∀ data error, read data = .error error → error.isDefinitive = false) :
    Always (Sending client.name) (fun h' outcome => Told client.name names h' outcome ∧
      Unwritten h') h (do liftM (read (← client.send request)) : ClientM α).run := by
  have hsend : Always (Sending client.name) (Sent client request h read) h
      (do liftM (read (← client.send request)) : ClientM α).run := by
    refine Guests.always_send_read ?_ fun ticket => ?_
    · exact ⟨fun _ => hu.unwritten, nofun, hu.calm.unanswered client.name⟩
    · exact ⟨not_false.elim, nofun, fun data => not_justAnswered_of_op nofun⟩
  refine (hsend.keeps (P := Unwritten) (fun _ _ _ hop hunwritten => hunwritten.cons hop.2.1)
    hu.unwritten).mono (fun _ _ hop => hop.1) fun h' outcome hsent => ?_
  exact ⟨told_of_sent hsent.1 hrequest hnames hread, hsent.2⟩

/-- What only reads the cluster keeps the order of a send. -/
private theorem sending_of_reads {name : String} {op : Op} (hu : Untouched h) (hop : op.Reads) :
    Sending name h op :=
  ⟨fun hmutates => absurd hmutates hop.not_mutates, hop.harmless.2, hu.calm.unanswered name⟩

private theorem told_of_untouched {name : String} {error : ProxmoxError} (hu : Untouched h) :
    Told name names h (.error error : Except ProxmoxError α) ∧ Unwritten h :=
  ⟨fun _ => hu.calm.unanswered name, hu.unwritten⟩

/-- The requests of a change change the cluster. -/
theorem mutating_of_change {action : DestroyAction} {kind : GuestType} {node : String}
    {vmid : UInt32} (h : (action.change kind node vmid).request = .ok request) :
    request.Mutating := by
  have hvolume {node storage volid : String} (h : volumeRequest node storage volid = .ok request) :
      request.Mutating := by
    obtain ⟨_, -, h⟩ := Fallible.bind_eq_ok_iff.mp h
    split at h
    · obtain ⟨path, -, h⟩ := Fallible.bind_eq_ok_iff.mp h
      obtain rfl := Except.ok.inj h
      nofun
    · cases h
  -- an operation that lacks a field has no request
  unfold DestroyAction.change at h
  dsimp only at h
  split at h
  · cases kind <;> (obtain rfl := Except.ok.inj h; nofun)
  · cases kind <;> (obtain rfl := Except.ok.inj h; nofun)
  · split at h
    · obtain rfl := Except.ok.inj h
      nofun
    · cases h
  · split at h
    · obtain rfl := Except.ok.inj h
      nofun
    · cases h
  · split at h
    · cases h
    · cases h
    · cases h
    · exact hvolume h
  · split at h
    · cases h
    · cases h
    · cases h
    · exact hvolume h
  · split at h
    · obtain rfl := Except.ok.inj h
      nofun
    · cases h
  · split at h
    · obtain rfl := Except.ok.inj h
      nofun
    · cases h
  · split at h
    · split_ifs at h
      obtain rfl := Except.ok.inj h
      nofun
    · cases h
  · cases h

/-- **Executing an action** sends its change, after the check of an owner at most. -/
theorem always_executeDestructive_sending {action : DestroyAction} {kind : GuestType}
    {node : String} {vmid : UInt32} (hu : Untouched h) :
    Always (Sending client.name) (fun h' outcome => Told client.name NamesTask h' outcome ∧
      Unwritten h') h (executeDestructive client action kind node vmid).run := by
  rw [executeDestructive_eq_run, Change.run]
  have hsend {h : History Effect} (hu : Untouched h) : Always (Sending client.name)
      (fun h' outcome => Told client.name NamesTask h' outcome ∧ Unwritten h') h (do
        let request ← liftM (action.change kind node vmid).request
        let data ← client.send request
        if (action.change kind node vmid).namesTask then liftM (Guests.upidFrom data)
        else return data.asStr.getD "" : ClientM String).run := by
    refine always_run_bind.mpr ((always_run_liftExcept _).mpr ?_)
    cases hrequest : (action.change kind node vmid).request with
    | error error => exact told_of_untouched hu
    | ok request =>
      cases (action.change kind node vmid).namesTask with
      | true =>
        exact always_sending hu (mutating_of_change hrequest)
          (fun _ _ hupid => namesTask_of_upidFrom hupid)
          fun _ _ herror => isDefinitive_of_upidFrom herror
      | false =>
        refine @always_sending _ _ _ _ _ _ (fun data => .ok (data.asStr.getD "")) hu
          (mutating_of_change hrequest) (fun data upid hupid => ?_) nofun
        exact (Except.ok.inj hupid).symm
  cases (action.change kind node vmid).archive with
  | none => exact hsend hu
  | some archive =>
    have howner := (@always_requireBackupOwner _ client archive.1 archive.2 vmid h).keeps
      (P := Untouched) (fun _ _ _ hop hu => hu.cons hop.harmless) hu
    exact Always.run_bind (howner.mono (fun _ _ hop => sending_of_reads hop.2 hop.1)
      fun _ _ hR => hR) (fun _ _ hR => hsend hR.2) fun _ _ hR => told_of_untouched hR.2

/-- A request whose answer has to name a task. -/
private theorem always_runTask_sending (hu : Untouched h) (hrequest : request.Mutating) :
    Always (Sending client.name) (fun h' outcome => Told client.name NamesTask h' outcome ∧
      Unwritten h') h (Guests.runTask client request).run :=
  always_sending hu hrequest (fun _ _ hupid => namesTask_of_upidFrom hupid)
    fun _ _ herror => isDefinitive_of_upidFrom herror

/-- Writing a rule sends the write, and its answer is not read. -/
private theorem always_writeHaRule_sending {action : HaRuleAction} {existing : Option Json}
    (hu : Untouched h) :
    Always (Sending client.name) (fun h' outcome => Told client.name NamesNothing h' outcome ∧
      Unwritten h') h (writeHaRule client action existing).run := by
  have hwrite {request : ApiRequest} (hallowed : HaRuleRequest action existing request) :
      Always (Sending client.name) (fun h' outcome => Told client.name NamesNothing h' outcome ∧
        Unwritten h') h (do let _ ← client.send request : ClientM Unit).run :=
    @always_sending _ _ _ _ _ NamesNothing (fun _ => .ok ()) hu hallowed.mutating
      (fun _ _ _ => trivial) nofun
  unfold writeHaRule
  split
  · next hop => exact hwrite (.create hop)
  · next hop =>
    exact always_run_bind.mpr (always_run_ensure.mpr ⟨fun _ => hwrite (.update hop),
      fun _ => told_of_untouched hu⟩)
  · next hop => exact hwrite (.delete hop)
  · exact told_of_untouched hu

end Sends

/-! ### Running and following -/

namespace ApplyCall

variable {call : ApplyCall} {h : History Effect} {claimed : ChangeSet}

/-- There is no handle to write: a rule write has none, and the last answer, if any, names no
task. -/
def Unnamed (call : ApplyCall) (h : History Effect) : Prop :=
  call.family ≠ .haRule → ∀ upid task, JustAnswered call.cluster (.string upid) h →
    Upid.parse upid ≠ .ok task

private theorem unnamed_of_op {event : Event Effect}
    (hop : ∀ ticket, event.op ≠ .http (.await ticket)) :
    call.Unnamed (event :: h) :=
  fun _ _ _ hanswered => absurd hanswered (not_justAnswered_of_op hop)

/-- Settling a record, with its receipt. -/
private theorem ensures_receipt_settle_steps (hunnamed : call.Unnamed h) {succeeded : Bool}
    {error : String} {updated : ChangeSet} (hstate : updated.state ≠ .applying) :
    Ensures call.Steps (fun _ _ => True) h (do
      call.receipt claimed succeeded error
      settle updated) := by
  have hsettle {h : History Effect} (hunnamed : call.Unnamed h) :
      Ensures call.Steps (fun _ _ => True) h (settle updated) := by
    refine Ensures.request ⟨not_false.elim, ?_, fun hfamily upid task hanswered hparse => ?_⟩
      fun _ => ensures_pure.mpr trivial
    · rintro _ ⟨⟩
      exact .inr hstate
    · exact absurd hparse (hunnamed hfamily upid task hanswered)
  rw [receipt]
  cases call.server.evidence with
  | false => exact hsettle hunnamed
  | true =>
    refine Ensures.request ⟨not_false.elim, ?_, fun hfamily upid task hanswered hparse => ?_⟩
      fun _ => hsettle (unnamed_of_op (by rintro _ ⟨⟩))
    · rintro _ ⟨⟩
    · exact absurd hparse (hunnamed hfamily upid task hanswered)

/-- **Running an apply** keeps the order: it claims, records the intent and sends. -/
theorem ensures_run_steps {α : Type} {names : Json → α → Prop} {record : ChangeSet}
    {send : ClientM α} (hu : Untouched h) (hsend : ∀ h', Untouched h' →
      Always (Sending call.cluster) (fun after outcome => Told call.cluster names after outcome ∧
        Unwritten after) h' send.run) :
    Ensures call.Steps (fun after result => Unwritten after ∧
        (∃ data, JustAnswered call.cluster data after ∧ names data result.2) ∧
        ∃ key device, ⟨.coordinator (.claimChangeSetForApply key device), .ok result.1⟩ ∈ after) h
      (call.run record send) := by
  refine Ensures.request (hu.calm.steps (Op.harmless_claim _ _)) fun reply =>
    Ensures.liftExcept fun claimed hclaimed => ?_
  obtain rfl := eq_ok_of_mapError hclaimed
  have hu₁ : Untouched (⟨.coordinator (.claimChangeSetForApply record.id record.device),
      .ok claimed⟩ :: h) := hu.cons (Op.harmless_claim _ _)
  have hintent : Ensures call.Steps (fun after _ => Untouched after)
      (⟨.coordinator (.claimChangeSetForApply record.id record.device), .ok claimed⟩ :: h)
      (call.recordIntent claimed) := by
    rw [recordIntent]
    cases call.server.evidence with
    | false => exact ensures_pure.mpr hu₁
    | true =>
      refine Ensures.request (hu₁.calm.steps (Op.harmless_evidence _)) fun reply => ?_
      have hu₂ := @Untouched.cons _ (.evidence (.applyIntent call.requestId claimed.id
        claimed.device call.principal)) hu₁ reply (Op.harmless_evidence _)
      cases reply with
      | ok value => exact ensures_pure.mpr hu₂
      | error error =>
        refine Ensures.request (hu₂.calm.steps_update (.inl hu₂.unwritten)) fun settled => ?_
        cases settled <;> exact ensures_throw
  refine Ensures.bind hintent (fun _ _ hop => hop) fun h₂ _ hh₂ hu₂ => ?_
  refine Ensures.attempt (hsend h₂ hu₂) (fun h op hop => ?_) fun h₃ outcome hh₃ htold => ?_
  · exact ⟨hop.1, fun updated heq => absurd heq (hop.2.1 updated),
      fun _ upid _ hanswered => absurd hanswered (hop.2.2 _)⟩
  · cases outcome with
    | ok value =>
      exact ensures_pure.mpr ⟨htold.2, htold.1, _, _, (hh₂.trans hh₃).subset List.mem_cons_self⟩
    | error error =>
      refine Ensures.onlyIf (R := fun _ => True) (fun hdefinitive => ?_) (fun _ _ hop => hop)
        fun _ _ _ => ensures_throw
      exact ensures_receipt_settle_steps (fun _ _ _ hanswered => absurd hanswered
        (htold.1 hdefinitive _)) (by rintro ⟨⟩)

/-- **Following a change** writes the handle first, and then only settles. -/
theorem ensures_follow_steps {client : ProxmoxClient} {data : Json} {upid : String}
    {extra : List (String × Json)} (hunwritten : Unwritten h)
    (hanswered : JustAnswered call.cluster data h) (hnamed : NamesTask data upid)
    (hclaim : ∃ key device, ⟨.coordinator (.claimChangeSetForApply key device), .ok claimed⟩ ∈ h) :
    Ensures call.Steps (fun _ _ => True) h (call.follow client claimed upid extra) := by
  -- the answer is the one that was read
  have hread {named : String} (hnow : JustAnswered call.cluster (.string named) h) :
      named = upid := by
    obtain ⟨_, _, response, _, rfl, -, hanswer⟩ := hanswered
    obtain ⟨_, _, response', _, heq, -, hanswer'⟩ := hnow
    obtain ⟨heq, -⟩ := List.cons.inj heq
    cases heq
    rw [hanswer'] at hanswer
    obtain rfl := Except.ok.inj hanswer
    exact hnamed.symm
  rw [follow]
  split
  · next hempty =>
    refine Ensures.bind (ensures_receipt_settle_steps ?_ ?_) (fun _ _ hop => hop)
      fun _ _ _ _ => ensures_pure.mpr trivial
    · rintro - named task hnow hparse
      rw [hread hnow, String.isEmpty_iff.mp hempty] at hparse
      cases hparse
    · rintro ⟨⟩
  · refine Ensures.liftExcept fun task htask => ?_
    obtain ⟨key, device, hclaim⟩ := hclaim
    refine Ensures.request ⟨not_false.elim, fun _ _ => .inl hunwritten, fun _ named _ hnow _ => ?_⟩
      fun reply => ?_
    · exact ⟨key, device, claimed, hclaim, by rw [hread hnow]⟩
    · have hpoll {h : History Effect} : Ensures (fun _ (op : Op) => op.Reads)
          (fun after exitstatus => Exited client.name upid exitstatus after) h
          (pollProxmoxTask client task.node upid) :=
        ensures_pollTask 300 0 (eq_ok_of_mapError htask) fun _ _ _ hop => hop
      refine Ensures.bind
        (hpoll.keeps (fun _ _ _ hop hcalm => hcalm.cons hop.not_mutates) calm_coordinator)
        (fun _ _ hop => hop.2.steps hop.1.harmless) fun h₂ exitstatus _ hpolled => ?_
      have hsettled {succeeded : Bool} {error : String} : Ensures call.Steps (fun _ _ => True) h₂
          (call.finish claimed succeeded error) := by
        refine ensures_receipt_settle_steps (fun _ _ _ hnow =>
          absurd hnow (hpolled.2.unanswered _ _)) ?_
        cases succeeded <;> rintro ⟨⟩
      cases classifyExitStatus exitstatus with
      | ok =>
        exact Ensures.bind hsettled (fun _ _ hop => hop) fun _ _ _ _ => ensures_pure.mpr trivial
      | failed message =>
        exact Ensures.bind hsettled (fun _ _ hop => hop) fun _ _ _ _ => ensures_throw

/-- Running a change whose answer may name a task, to its end. -/
private theorem ensures_run_follow_steps {client : ProxmoxClient} {record : ChangeSet}
    {send : ClientM String} {extra : List (String × Json)} (hu : Untouched h)
    (hsend : ∀ h', Untouched h' → Always (Sending call.cluster) (fun after outcome =>
      Told call.cluster NamesTask after outcome ∧ Unwritten after) h' send.run) :
    Ensures call.Steps (fun _ _ => True) h (do
      let (claimed, upid) ← call.run record send
      call.follow client claimed upid extra) := by
  refine Ensures.bind (ensures_run_steps hu hsend) (fun _ _ hop => hop)
    fun h' result _ hresult => ?_
  obtain ⟨hunwritten, ⟨data, hanswered, hnamed⟩, hclaim⟩ := hresult
  exact ensures_follow_steps hunwritten hanswered hnamed hclaim

end ApplyCall

/-! ### Whole applies -/

/-- **Code before the claim** keeps the order when it neither sends nor writes. -/
theorem Untouched.bind {α β : Type} {call : ApplyCall} {h : History Effect}
    {G : History Effect → Op → Prop} {R : History Effect → α → Prop} {p : ToolM α} {f : α → ToolM β}
    (hu : Untouched h) (hp : Ensures G R h p) (hG : ∀ h op, G h op → op.Harmless)
    (hf : ∀ h' value, R h' value → Untouched h' →
      Ensures call.Steps (fun _ _ => True) h' (f value)) :
    Ensures call.Steps (fun _ _ => True) h (p >>= f) :=
  Ensures.bind (hp.keeps (fun h op _ hop hu => hu.cons (hG h op hop)) hu)
    (fun h op hop => hop.2.calm.steps (hG h op hop.1)) fun h' value _ hR => hf h' value hR.1 hR.2

section Handlers

variable {server : ProxmoxServer} {caller : Option CallerCtx} {h : History Effect}

private theorem ensures_recordOf_harmless {id device : String} :
    Ensures (fun _ (op : Op) => op.Harmless) (fun _ _ => True) h (recordOf id device) :=
  Ensures.request ⟨not_false, nofun⟩ fun _ => ensures_liftExcept.mpr fun _ _ => trivial

theorem ensures_applyChangeSet_steps (args : ChangeSetArgs) (hu : Untouched h) :
    Ensures (server.destroyCall caller args).Steps (fun _ _ => True) h
      (server.applyChangeSet caller args) := by
  obtain ⟨id, cluster, vmid⟩ := args
  refine Ensures.liftExcept fun _ _ => Ensures.liftExcept fun client hclient => ?_
  obtain rfl : client.name = cluster := name_of_clientFor hclient
  refine hu.bind ensures_recordOf_harmless (fun _ _ hop => hop) fun h₁ record _ hu₁ =>
    Ensures.ensure fun _ => Ensures.liftExcept fun grant _ => ?_
  have hquiet (h : History Effect) (op : Op) (hop : Quiet (fun _ _ _ => True) h op) :
      op.Harmless := hop.harmless
  refine hu₁.bind (ensures_invalidateCluster client.name h₁) hquiet fun h₂ _ _ hu₂ => ?_
  refine hu₂.bind (ensures_authorizeWithOverride False True (fun _ _ => trivial) False.elim
    (fun _ _ => rfl) fun _ => rfl) hquiet fun h₃ verdict _ hu₃ => ?_
  refine hu₃.bind ensures_readGuestState (fun _ _ hop => hop.harmless) fun h₄ state _ hu₄ =>
    Ensures.ensure fun _ => Ensures.ensure fun _ => Ensures.liftExcept fun action _ =>
    Ensures.required fun tool _ => Ensures.liftExcept fun _ _ => Ensures.liftExcept fun _ _ =>
    Ensures.liftExcept fun _ _ => ?_
  exact ApplyCall.ensures_run_follow_steps hu₄ fun h' hu' => always_executeDestructive_sending hu'

theorem ensures_applyHaRuleChange_steps (args : HaChangeSetArgs) (hu : Untouched h) :
    Ensures (server.haRuleCall caller args).Steps (fun _ _ => True) h
      (server.applyHaRuleChange caller args) := by
  obtain ⟨id, cluster, rule⟩ := args
  refine Ensures.liftExcept fun _ _ => Ensures.liftExcept fun client hclient => ?_
  obtain rfl : client.name = cluster := name_of_clientFor hclient
  refine hu.bind ensures_recordOf_harmless (fun _ _ hop => hop) fun h₁ record _ hu₁ =>
    Ensures.ensure fun _ => Ensures.liftExcept fun _ _ => ?_
  refine hu₁.bind ensures_readCurrentRule (fun _ _ hop => hop.harmless) fun h₂ existing _ hu₂ =>
    Ensures.ensure fun _ => Ensures.ensure fun _ => Ensures.liftExcept fun action _ =>
    Ensures.required fun tool _ => Ensures.liftExcept fun _ _ => Ensures.ensure fun _ => ?_
  refine hu₂.bind ensures_authorizeHaRuleGuests (fun _ _ hop => hop.harmless) fun h₃ _ _ hu₃ => ?_
  refine Ensures.bind (ApplyCall.ensures_run_steps hu₃ fun h' hu' => always_writeHaRule_sending hu')
    (fun _ _ hop => hop) fun h₄ result _ _ => ?_
  -- a rule write has no task, so its answer is not followed
  refine Ensures.bind (ApplyCall.ensures_receipt_settle_steps ?_ ?_) (fun _ _ hop => hop)
    fun _ _ _ _ => ensures_pure.mpr trivial
  · exact fun hfamily => absurd rfl hfamily
  · nofun

theorem ensures_applyRestoreNewVmid_steps (args : ChangeSetArgs) (hu : Untouched h) :
    Ensures (server.restoreCall caller args).Steps (fun _ _ => True) h
      (server.applyRestoreNewVmid caller args) := by
  obtain ⟨id, cluster, vmid⟩ := args
  refine Ensures.liftExcept fun _ _ => Ensures.liftExcept fun client hclient => ?_
  obtain rfl : client.name = cluster := name_of_clientFor hclient
  refine hu.bind ensures_recordOf_harmless (fun _ _ hop => hop) fun h₁ record _ hu₁ =>
    Ensures.ensure fun _ => Ensures.liftExcept fun action _ => Ensures.ensure fun _ =>
    Ensures.liftExcept fun _ _ => Ensures.liftExcept fun grant _ => Ensures.ensure fun _ =>
    Ensures.bind ensures_requireRestoreTarget (fun _ _ hop => hop) fun h₁ _ _ hsame => ?_
  obtain ⟨rfl, -⟩ := hsame
  refine hu₁.bind ensures_requireRecordedOwner (fun _ _ hop => hop.harmless) fun h₂ _ _ hu₂ => ?_
  refine hu₂.bind ensures_authorizeBackupOwner (fun _ _ hop => hop.harmless) fun h₃ _ _ hu₃ =>
    Ensures.required fun kind _ => ?_
  refine hu₃.bind ensures_requireFree (fun _ _ hop => hop.harmless) fun h₄ _ _ hu₄ =>
    Ensures.ensure fun _ => Ensures.ensure fun _ => ?_
  exact ApplyCall.ensures_run_follow_steps hu₄ fun h' hu' => always_runTask_sending hu' nofun

end Handlers

end ProxmoxMcp
