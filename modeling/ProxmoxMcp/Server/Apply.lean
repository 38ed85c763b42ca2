import ProxmoxMcp.ChangeSet.RestoreNewVmid
import ProxmoxMcp.Server.Outcome

/-!
# Applying a change set

What the three apply handlers have in common: spend the approval, record the intent, send the one
request, and follow what came of it. `ApplyCall` is what such a call is about, and its functions are
the steps in that order.

`ApplyCall.policy` is what an apply keeps to. Its request is sent only when the call is `Ready`: it
has read an approved record with a preview, claimed it, recorded the intent, and sent nothing
before. A claimed record is written only as `Settles` says.
-/

namespace ProxmoxMcp

open Interaction Program Text

/-- The name a caller goes by in a record. -/
def callerName (caller : Option CallerCtx) : String := (principalOf caller).getD "stdio"

/-- What one apply is about. -/
structure ApplyCall where
  server : ProxmoxServer
  family : Family
  caller : Option CallerCtx
  changeSetId : String
  cluster : String
  device : String

/-- The word a refusal to apply starts with. -/
def Family.refusal : Family → String
  | destroy => "destroy"
  | haRule | restoreNewVmid => "apply"

/-- What a change set is about. -/
def Family.subject : Family → String
  | destroy => "guest"
  | haRule => "rule"
  | restoreNewVmid => "vmid"

/-- What stands between two sentences of one refusal. -/
def Family.gap : Family → String
  | destroy => String.ofList (List.replicate 22 ' ')
  | haRule | restoreNewVmid => " "

namespace ApplyCall

variable [Externals] (call : ApplyCall)

/-! ### The steps -/

def requestId : String := (call.caller.map CallerCtx.requestId).getD "stdio"

def principal : String := callerName call.caller

/-- Write a result receipt, if there is a recorder. -/
def receipt (claimed : ChangeSet) (succeeded : Bool) (error : String) : ToolM Unit :=
  onlyIf call.server.evidence do
    let _ ← resultReceipt call.requestId claimed.id claimed.device call.principal succeeded error

/-- Write a claimed record; a write that fails is only logged. -/
def settle (updated : ChangeSet) : ToolM Unit := do
  let _ ← updateChangeSet updated

/-- Spend the approval of a record before anything reaches the cluster. -/
def claim (record : ChangeSet) : ToolM ChangeSet := do
  liftM ((← claimChangeSetForApply record.id record.device).mapError fun error => toolError
    (s!"apply refused: the change set could not be claimed for apply ({error})." ++
      call.family.gap ++
      "Another apply may already hold it. Nothing was sent to the cluster."))

/-- Record the intent, if there is a recorder. When that fails the claimed record is settled. -/
def recordIntent (claimed : ChangeSet) : ToolM Unit :=
  onlyIf call.server.evidence do
    match ← applyIntent call.requestId claimed.id claimed.device call.principal with
    | .ok () => return ()
    | .error error =>
      let refused := s!"{call.family.refusal} refused: the apply-intent evidence record could " ++
        s!"not be persisted ({error})"
      match ← updateChangeSet { claimed with state := .failed } with
      | .ok () => throw (toolError
          (refused ++ "; nothing was sent to the cluster and the change " ++
          "set is now failed -- plan the operation again"))
      | .error settleError =>
          throw (toolError (refused ++ ", and the change set could not then be " ++
          s!"settled ({settleError}). Nothing was sent to the cluster, but the record is still " ++
          "claimed and reads as applying -- it needs an operator before this " ++
          s!"{call.family.subject} can be planned again"))

/-- Claim a record, record the intent and send. A definitive failure settles the record; any other
leaves it as it is. -/
def run {α : Type} (record : ChangeSet) (send : ClientM α) : ToolM (ChangeSet × α) := do
  let claimed ← call.claim record
  call.recordIntent claimed
  match ← attempt send with
  | .ok value => return (claimed, value)
  | .error error =>
    onlyIf error.isDefinitive do
      call.receipt claimed false error.toText
      settle { claimed with state := .failed }
    throw (toolError error.toText)

/-- Settle a record whose outcome is known. -/
def finish (claimed : ChangeSet) (succeeded : Bool) (error : String) : ToolM Unit := do
  call.receipt claimed succeeded error
  settle { claimed with
    state := if succeeded then .applied else .failed
    taskId := none }

/-- Follow an accepted change to its end: an empty handle is a change already made; any other is
stored before the task is polled. -/
def follow (client : ProxmoxClient) (claimed : ChangeSet) (upid : String)
    (extra : List (String × Json)) : ToolM Json :=
  if upid.isEmpty then do
    call.finish claimed true ""
    return toolAnswer [("outcome", .string "ok"), ("synchronous", .bool true), ("upid", .null)]
  else do
    let task ← liftM ((Upid.parse upid).mapError fun error => toolError error.toText)
    settle { claimed with taskId := some upid }
    let exitstatus ← pollProxmoxTask client task.node upid
    match classifyExitStatus exitstatus with
    | .ok =>
      call.finish claimed true ""
      return toolAnswer ([("outcome", .string "ok"), ("upid", .string upid),
        ("exitstatus", .string exitstatus)] ++ extra)
    | .failed message =>
      call.finish claimed false exitstatus
      throw (toolError s!"task failed: {message}")
where
  /-- An answer with these members. -/
  toolAnswer (members : List (String × Json)) : Json := .object members

/-! ### What an apply keeps to -/

/-- The call has read an approved record with a preview. -/
def Reviewed (record : ChangeSet) (h : History Effect) : Prop :=
  ⟨.coordinator (.changeSet call.changeSetId call.device), .ok record⟩ ∈ h ∧
    record.preview.isSome ∧ record.state = .approved

/-- The call has claimed the record it read. -/
def Claimed (claimed : ChangeSet) (h : History Effect) : Prop :=
  ∃ record, call.Reviewed record h ∧
    ⟨.coordinator (.claimChangeSetForApply record.id record.device), .ok claimed⟩ ∈ h

/-- The call may send its request. -/
structure Ready (record claimed : ChangeSet) (h : History Effect) : Prop where
  reviewed : call.Reviewed record h
  spent : ⟨.coordinator (.claimChangeSetForApply record.id record.device), .ok claimed⟩ ∈ h
  intent : call.server.evidence → ⟨.evidence (.applyIntent call.requestId claimed.id claimed.device
    call.principal), .ok ()⟩ ∈ h
  unsent : Unsent h

/-- What a claimed record may be written to, and what the write rests on. `checks` says which check
of the handler may fail after the claim. -/
inductive Settles (checks : History Effect → Prop) (claimed : ChangeSet) (h : History Effect) :
    ChangeSet → Prop
  | intentFailed {error : String} (intent : ⟨.evidence (.applyIntent call.requestId claimed.id
      claimed.device call.principal), .error error⟩ ∈ h) (unsent : Unsent h) :
      Settles checks claimed h { claimed with state := .failed }
  | checkFailed (unsent : Unsent h) (failed : checks h) :
      Settles checks claimed h { claimed with state := .failed }
  | refused (refused : Refused call.cluster h) :
      Settles checks claimed h { claimed with state := .failed }
  | inFlight {upid : String} {task : Upid} (accepted : Accepted call.cluster (.string upid) h)
      (parsed : Upid.parse upid = .ok task) :
      Settles checks claimed h { claimed with taskId := some upid }
  | immediate {data : Json} (accepted : Accepted call.cluster data h)
      (unnamed : call.family = .haRule ∨ data.asStr.getD "" = "") :
      Settles checks claimed h { claimed with state := .applied, taskId := none }
  | exited {upid exitstatus : String} (accepted : Accepted call.cluster (.string upid) h)
      (exited : Exited call.cluster upid exitstatus h) :
      Settles checks claimed h { claimed with
        state := if exitstatus = "OK" then .applied else .failed
        taskId := none }

/-- The handle of an accepted change has been written to the claimed record. -/
def HandleWritten (h : History Effect) : Prop :=
  ∃ claimed upid reply, call.Claimed claimed h ∧ Accepted call.cluster (.string upid) h ∧
    ⟨.coordinator (.updateChangeSet { claimed with taskId := some upid }), reply⟩ ∈ h

/-- The policy of an apply: `about` says which request a record allows. -/
def policy (lookups : LookupRule) (checks : History Effect → Prop)
    (about : ChangeSet → History Effect → ApiRequest → Prop) : Policy where
  lookups := lookups
  sends h client request := client = call.cluster ∧
    ∃ record claimed, call.Ready record claimed h ∧ about record h request
  reads h := Unsent h ∨ call.HandleWritten h
  records h
    | .changeSet id device => id = call.changeSetId ∧ device = call.device
    | .claimChangeSetForApply id device =>
      ∃ record, call.Reviewed record h ∧ id = record.id ∧ device = record.device
    | .updateChangeSet updated =>
      ∃ claimed, call.Claimed claimed h ∧ call.Settles checks claimed h updated
    | _ => False

section Rules

variable {call} {h h' : History Effect} {record claimed : ChangeSet}

omit [Externals] in
theorem Reviewed.mono (hr : call.Reviewed record h) (hh : h <:+ h') : call.Reviewed record h' :=
  ⟨hh.subset hr.1, hr.2⟩

omit [Externals] in
theorem Claimed.mono (hc : call.Claimed claimed h) (hh : h <:+ h') : call.Claimed claimed h' := by
  obtain ⟨record, hreviewed, hclaim⟩ := hc
  exact ⟨record, hreviewed.mono hh, hh.subset hclaim⟩

omit [Externals] in
theorem Ready.aside [Externals] (hr : call.Ready record claimed h) (hh : Aside h h') :
    call.Ready record claimed h' :=
  ⟨hr.reviewed.mono hh.suffix, hh.suffix.subset hr.spent, fun he => hh.suffix.subset (hr.intent he),
    hh.unsent hr.unsent⟩

theorem HandleWritten.mono (hw : call.HandleWritten h) (hh : h <:+ h') : call.HandleWritten h' := by
  obtain ⟨claimed, upid, reply, hclaimed, haccepted, hupdate⟩ := hw
  exact ⟨claimed, upid, reply, hclaimed.mono hh, haccepted.mono hh, hh.subset hupdate⟩

variable {lookups : LookupRule} {checks : History Effect → Prop}
  {about : ChangeSet → History Effect → ApiRequest → Prop}

private theorem ensures_settle {updated : ChangeSet} (hclaimed : call.Claimed claimed h)
    (hsettles : call.Settles checks claimed h updated) :
    Ensures (call.policy lookups checks about).Allows (fun h' _ => ∃ reply,
        h' = ⟨.coordinator (.updateChangeSet updated), reply⟩ :: h) h (settle updated) :=
  Ensures.request ⟨claimed, hclaimed, hsettles⟩ fun reply => ensures_pure.mpr ⟨reply, rfl⟩

private theorem ensures_receipt (succeeded : Bool) (error : String) :
    Ensures (call.policy lookups checks about).Allows (fun h' _ => Aside h h') h
      (call.receipt claimed succeeded error) := by
  rw [receipt]
  cases call.server.evidence with
  | true => exact Ensures.request trivial fun _ => ensures_pure.mpr ((Aside.refl h).cons trivial)
  | false => exact ensures_pure.mpr (.refl h)

/-- Settling a record writes what its outcome justifies. -/
theorem ensures_finish {succeeded : Bool} {error : String} (hclaimed : call.Claimed claimed h)
    (hsettles : ∀ h', h <:+ h' → call.Settles checks claimed h' { claimed with
      state := if succeeded then .applied else .failed, taskId := none }) :
    Ensures (call.policy lookups checks about).Allows (fun _ _ => True) h
      (call.finish claimed succeeded error) :=
  Ensures.bind (ensures_receipt succeeded error) (fun _ _ hop => hop) fun _ _ hh _ =>
    (ensures_settle (hclaimed.mono hh) (hsettles _ hh)).mono (fun _ _ hop => hop)
      fun _ _ _ => trivial

private theorem ensures_recordIntent (hclaimed : call.Claimed claimed h) (hunsent : Unsent h) :
    Ensures (call.policy lookups checks about).Allows (fun h' _ => Aside h h' ∧
        (call.server.evidence → ⟨.evidence (.applyIntent call.requestId claimed.id claimed.device
          call.principal), .ok ()⟩ ∈ h')) h (call.recordIntent claimed) := by
  rw [recordIntent]
  cases call.server.evidence with
  | false => exact ensures_pure.mpr ⟨.refl h, by simp⟩
  | true =>
    refine Ensures.request trivial fun reply => ?_
    cases reply with
    | ok value => exact ensures_pure.mpr ⟨(Aside.refl h).cons trivial, fun _ => by simp⟩
    | error error =>
      have haside : Aside h (⟨.evidence (.applyIntent call.requestId claimed.id claimed.device
          call.principal), .error error⟩ :: h) := (Aside.refl h).cons trivial
      refine Ensures.request ⟨claimed, hclaimed.mono haside.suffix,
        .intentFailed List.mem_cons_self (haside.unsent hunsent)⟩ fun settled => ?_
      cases settled <;> exact ensures_throw

/-- **Running an apply**: the request is sent ready, and if the call goes on the cluster has
accepted it. -/
theorem ensures_run {α : Type} {send : ClientM α} {names : Json → α → Prop}
    (hreviewed : call.Reviewed record h) (hunsent : Unsent h)
    (hchecks : ∀ {h h'}, checks h → h <:+ h' → checks h')
    (hsend : ∀ h' claimed, Aside h h' → call.Ready record claimed h' →
      Always (call.policy lookups checks about).Allows (Outcome call.cluster names checks) h'
        send.run) :
    Ensures (call.policy lookups checks about).Allows (fun h' result => call.Claimed result.1 h' ∧
        ∃ data, Accepted call.cluster data h' ∧ names data result.2) h (call.run record send) := by
  refine Ensures.bind (R := fun h' claimed => h' = ⟨.coordinator
      (.claimChangeSetForApply record.id record.device), .ok claimed⟩ :: h)
    (Ensures.request ⟨record, hreviewed, rfl, rfl⟩ fun reply => ensures_liftExcept.mpr ?_)
    (fun _ _ hop => hop) fun h₁ claimed _ hh₁ => ?_
  · intro claimed hclaimed
    cases reply with
    | ok value => exact (Except.ok.inj hclaimed) ▸ rfl
    | error error => simp [Except.mapError] at hclaimed
  have haside₁ : Aside h h₁ := hh₁ ▸ (Aside.refl h).cons trivial
  have hclaim :
      ⟨.coordinator (.claimChangeSetForApply record.id record.device), .ok claimed⟩ ∈ h₁ :=
    hh₁ ▸ List.mem_cons_self
  have hclaimed : call.Claimed claimed h₁ := ⟨record, hreviewed.mono haside₁.suffix, hclaim⟩
  refine Ensures.bind (ensures_recordIntent hclaimed (haside₁.unsent hunsent))
    (fun _ _ hop => hop) fun h₂ _ hh₂ hintent => ?_
  have haside₂ := haside₁.trans hintent.1
  -- the change is sent with its outcome in hand
  refine Ensures.attempt (hsend h₂ claimed haside₂ ⟨hreviewed.mono haside₂.suffix,
    hh₂.subset hclaim, hintent.2, haside₂.unsent hunsent⟩) (fun _ _ hop => hop)
    fun h₃ outcome hh₃ houtcome => ?_
  replace hclaimed := hclaimed.mono (hh₂.trans hh₃)
  cases outcome with
  | ok value => exact ensures_pure.mpr ⟨hclaimed, houtcome⟩
  | error error =>
    refine Ensures.onlyIf (R := fun _ => True) (fun hdefinitive => ?_) (fun _ _ hop => hop)
      fun _ _ _ => ensures_throw
    refine Ensures.bind (ensures_receipt false error.toText) (fun _ _ hop => hop)
      fun h₄ _ hh₄ haside => (ensures_settle (hclaimed.mono hh₄) ?_).mono (fun _ _ hop => hop)
        fun _ _ _ => trivial
    -- a definitive failure was the cluster, or a check that sent nothing
    rcases houtcome hdefinitive with hrefused | ⟨hunsent', hfailed⟩
    · exact .refused (hrefused.mono hh₄)
    · exact .checkFailed (haside.unsent hunsent') (hchecks hfailed hh₄)

/-- **Following an accepted change**: an empty handle or an exit status settles the record, and the
handle is written before any request for a status. -/
theorem ensures_follow {client : ProxmoxClient} {data : Json} {upid : String}
    {extra : List (String × Json)} (hclient : client.name = call.cluster)
    (hclaimed : call.Claimed claimed h) (haccepted : Accepted call.cluster data h)
    (hnamed : upid = data.asStr.getD "") :
    Ensures (call.policy lookups checks about).Allows (fun _ _ => True) h
      (call.follow client claimed upid extra) := by
  rw [follow]
  split
  · next hempty =>
    refine Ensures.bind (ensures_finish hclaimed fun h' hh => .immediate (haccepted.mono hh)
      (.inr ?_)) (fun _ _ hop => hop) fun _ _ _ _ => ensures_pure.mpr trivial
    rw [← hnamed, String.isEmpty_iff.mp hempty]
  · next hempty =>
    obtain rfl : data = .string upid := by
      cases hdata : data.asStr with
      | none => simp [hnamed, hdata] at hempty
      | some text => exact (Json.asStr_eq_some.mp hdata).trans (by simp [hnamed, hdata])
    refine Ensures.liftExcept fun task htask => ?_
    replace htask := eq_ok_of_mapError htask
    refine Ensures.bind (ensures_settle hclaimed (.inFlight haccepted htask)) (fun _ _ hop => hop)
      fun h₁ _ hh₁ hwritten => ?_
    obtain ⟨reply, rfl⟩ := hwritten
    have hhandle : call.HandleWritten (⟨.coordinator (.updateChangeSet
        { claimed with taskId := some upid }), reply⟩ :: h) :=
      ⟨claimed, upid, reply, hclaimed.mono hh₁, haccepted.mono hh₁, List.mem_cons_self⟩
    refine Ensures.bind (ensures_pollTask 300 0 htask fun h' op hh' hop => ?_) (fun _ _ hop => hop)
      fun h₂ exitstatus hh₂ hexited => ?_
    · exact Policy.allows_of_reads hop (.inr (hhandle.mono hh'))
    · have hh := hh₁.trans hh₂
      have hsettles : ∀ h', h₂ <:+ h' → call.Settles checks claimed h' { claimed with
          state := if exitstatus = "OK" then .applied else .failed, taskId := none } :=
        fun h' hh' => .exited (haccepted.mono (hh.trans hh')) (hclient ▸ hexited.mono hh')
      by_cases hok : exitstatus = "OK"
      · simp only [classifyExitStatus, hok, ↓reduceIte] at hsettles ⊢
        exact Ensures.bind (ensures_finish (hclaimed.mono hh) (by simpa using hsettles))
          (fun _ _ hop => hop) fun _ _ _ _ => ensures_pure.mpr trivial
      · simp only [classifyExitStatus, hok, ↓reduceIte] at hsettles ⊢
        exact Ensures.bind (ensures_finish (hclaimed.mono hh) (by simpa using hsettles))
          (fun _ _ hop => hop) fun _ _ _ _ => ensures_throw

/-- Running a change whose answer may name a task, to its end. -/
theorem ensures_run_follow {client : ProxmoxClient} {send : ClientM String}
    {extra : List (String × Json)} (hclient : client.name = call.cluster)
    (hreviewed : call.Reviewed record h) (hunsent : Unsent h)
    (hchecks : ∀ {h h'}, checks h → h <:+ h' → checks h')
    (hsend : ∀ h' claimed, Aside h h' → call.Ready record claimed h' →
      Always (call.policy lookups checks about).Allows (Outcome call.cluster NamesTask checks) h'
        send.run) :
    Ensures (call.policy lookups checks about).Allows (fun _ _ => True) h (do
      let (claimed, upid) ← call.run record send
      call.follow client claimed upid extra) := by
  refine Ensures.bind (ensures_run hreviewed hunsent hchecks hsend) (fun _ _ hop => hop)
    fun h' result _ hresult => ?_
  obtain ⟨hclaimed, data, haccepted, hnamed⟩ := hresult
  exact ensures_follow hclient hclaimed haccepted hnamed

end Rules

end ApplyCall

end ProxmoxMcp
