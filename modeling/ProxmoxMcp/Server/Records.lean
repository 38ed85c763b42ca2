import ProxmoxMcp.Server.Apply

/-!
# Reading and planning records

What the plan, get and approve handlers share: reading one record and its action back, the answer
that describes a record, and the two writes that record a plan. A plan is **created without a
preview** and gets one in a second write, from the record as it is read back in between; a lab-mode
waiver comes after that.
-/

namespace ProxmoxMcp

open Interaction Program Text

/-- A state as an answer names it. -/
def ChangeSetState.name : ChangeSetState → String
  | planned => "Planned"
  | approved => "Approved"
  | applying => "Applying"
  | applied => "Applied"
  | failed => "Failed"
  | other name => name

variable [Externals]

/-- Read one record. -/
def recordOf (id device : String) : ToolM ChangeSet := do
  liftM ((← changeSet id device).mapError fun error => toolError s!"get: {error}")

/-- The action of a record, or why it cannot be applied. -/
def storedAction {α : Type} (type : String) (read : Json → Option α) (record : ChangeSet) :
    Except ToolResult α :=
  match record.actions.head? with
  | none => .error (toolError "the change set records no action")
  | some raw => match read raw with
    | some action => .ok action
    | none =>
      let error := Externals.deserializeError type raw
      .error (toolError
        s!"the change set's action could not be read ({error}); it cannot be applied")

theorem ensures_recordOf {policy : Policy} {id device : String} {h : History Effect}
    (hread : policy.records h (.changeSet id device)) :
    Ensures policy.Allows
      (fun h' record => h' = ⟨.coordinator (.changeSet id device), .ok record⟩ :: h) h
      (recordOf id device) := by
  refine Ensures.request hread fun reply => ensures_liftExcept.mpr fun record hrecord => ?_
  rw [eq_ok_of_mapError hrecord]

theorem storedAction_eq_ok {α : Type} {type : String} {read : Json → Option α}
    {record : ChangeSet} {action : α} :
    storedAction type read record = .ok action ↔ record.actions.head?.bind read = some action := by
  rw [storedAction]
  cases record.actions.head? with
  | none => simp
  | some raw => cases hread : read raw <;> simp [hread]

/-- Refuse to apply a record that was never given a preview. -/
def requirePreview (record : ChangeSet) : ToolM Unit :=
  refuseUnless record.preview.isSome ("apply refused: this change set has no stored preview, so " ++
    "the action it would take was never recorded for review. Plan the operation again.")

/-- Refuse to apply when what a record was planned against has changed. -/
def requireFingerprint (record : ChangeSet) (current : String) : ToolM Unit :=
  refuseUnless (current == record.expectedCandidateFingerprint)
    s!"fingerprint changed (expected {record.expectedCandidateFingerprint}, got {current})"

/-- Refuse to apply a record that is not approved. -/
def requireApproved (record : ChangeSet) : ToolM Unit :=
  refuseUnless (record.state == .approved) s!"change set not approved (state: {record.state.name})"

/-- The answer that describes a change set. -/
def changeSetResponse (id : String) (state : ChangeSetState) (fingerprint preview digest : String) :
    Json :=
  .object [("change_set_id", .string id), ("state", .string state.name),
    ("expected_fingerprint", .string fingerprint), ("preview", .string preview),
    ("expected_digest", .string digest)]

/-- The answer to reading a record. -/
def getResponse (record : ChangeSet) : Json :=
  changeSetResponse record.id record.state record.expectedCandidateFingerprint
    ((record.preview.map PreviewRecord.artifact).getD "(no preview)") record.digest

/-! ### Planning -/

/-- Record a plan: create it, read it back, and store the preview its approver will read. -/
def recordPlan (device : String) (action : Json) (owner fingerprint preview : String) :
    ToolM ChangeSetOutput := do
  let output ← liftM ((← createChangeSet device [action] owner fingerprint policySignature).mapError
    fun error => toolError s!"create: {error}")
  let record ← required ((← changeSets).find? fun record => record.id == output.changeSetId)
    (toolError ("plan refused: the change set could not be read back to store its preview. It " ++
      "has no preview, so approve and apply will refuse it. Plan the operation again."))
  liftM ((← updateChangeSet { record with
    preview := some ⟨Externals.previewDigest preview, preview⟩ }).mapError fun error => toolError
      (s!"plan refused: the preview could not be persisted ({error}). The change set has no " ++
        "stored preview, so approve and apply will refuse it. Plan the operation again."))
  return output

/-- What a plan call is about. -/
structure PlanCall where
  family : Family
  caller : Option CallerCtx

namespace PlanCall

variable (call : PlanCall)

/-- What a plan may write to the record it has just created. -/
inductive Previews (h : History Effect) (updated : ChangeSet) : Prop
  | intro {device : String} {actions : List Json} {owner fingerprint policy : String}
      {output : ChangeSetOutput} {records : List ChangeSet} {record : ChangeSet}
      {preview : PreviewRecord} {older : History Effect}
      (history : h = ⟨.coordinator .changeSets, records⟩ :: ⟨.coordinator (.createChangeSet device
        actions owner fingerprint policy), .ok output⟩ :: older)
      (read : record ∈ records) (id : record.id = output.changeSetId)
      (updated : updated = { record with preview := some preview })

/-- A plan may waive the approval of the record whose preview it has just stored, in lab mode. -/
inductive Waives (server : ProxmoxServer) (h : History Effect) (id : String) : Prop
  | intro {updated : ChangeSet} {device : String} {actions : List Json}
      {owner fingerprint policy : String} {output : ChangeSetOutput} {records : List ChangeSet}
      {older : History Effect}
      (labMode : server.labMode)
      (history : h = ⟨.coordinator (.updateChangeSet updated), .ok ()⟩ ::
        ⟨.coordinator .changeSets, records⟩ :: ⟨.coordinator (.createChangeSet device actions owner
          fingerprint policy), .ok output⟩ :: older)
      (updatedId : updated.id = id) (id : id = output.changeSetId)

/-- The policy of a plan: it changes no cluster. -/
def policy (server : ProxmoxServer) : Policy where
  lookups _ _ _ := True
  sends _ _ _ := False
  records h
    | .createChangeSet _ actions owner _ _ =>
      owner = callerName call.caller ∧ ∃ action, actions = [action] ∧ call.family.Stores action
    | .changeSets => True
    | .updateChangeSet updated => Previews h updated
    | .waiveApproval id _ _ _ => Waives server h id
    | _ => False

variable {call} {server : ProxmoxServer} {h : History Effect}

theorem allows_of_quiet {op : Op} (hop : Quiet (fun _ _ _ => True) h op) :
    (call.policy server).Allows h op := Policy.allows_of_quiet hop trivial fun _ _ _ => trivial

theorem allows_of_reads {op : Op} (hop : op.Reads) : (call.policy server).Allows h op :=
  Policy.allows_of_reads hop trivial

/-- **Recording a plan** stores the preview right after the creation. -/
theorem ensures_recordPlan {device owner fingerprint preview : String} {action : Json}
    (howner : owner = callerName call.caller) (haction : call.family.Stores action) :
    Ensures (call.policy server).Allows (fun h' output => ∃ updated records,
        updated.id = output.changeSetId ∧
        h' = ⟨.coordinator (.updateChangeSet updated), .ok ()⟩ ::
          ⟨.coordinator .changeSets, records⟩ :: ⟨.coordinator (.createChangeSet device [action]
            owner fingerprint policySignature), .ok output⟩ :: h) h
      (recordPlan device action owner fingerprint preview) := by
  refine Ensures.request ⟨howner, action, rfl, haction⟩ fun created =>
    Ensures.liftExcept fun output houtput => ?_
  obtain rfl := eq_ok_of_mapError houtput
  refine Ensures.request trivial fun records => Ensures.required fun record hrecord => ?_
  have hid : record.id = output.changeSetId := by
    have hfound := List.find?_some hrecord
    exact beq_iff_eq.mp hfound
  refine Ensures.request (.intro rfl (List.mem_of_find?_eq_some hrecord) hid rfl) fun written =>
    Ensures.liftExcept fun ok hok => ensures_pure.mpr ?_
  obtain rfl := eq_ok_of_mapError hok
  exact ⟨{ record with preview := some ⟨Externals.previewDigest preview, preview⟩ }, records, hid,
    rfl⟩

end PlanCall

end ProxmoxMcp
