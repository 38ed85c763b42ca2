import ProxmoxMcp.Fallible
import ProxmoxMcp.Server.ClaimedApplies
import ProxmoxMcp.Server.HaRule

/-!
# An approved rule is what is written

A plan builds an action, the record stores it, an apply reads it back and checks it again, and only
then is it written as a form. `CarriedOut` says that nothing is lost on this way: the form carries
the fields the action sets, each with its value, and after the claim nothing but the cluster
refuses.

Every step keeps to that except the last: a form drops a comment that is **empty**. So an action
that sets the comment to nothing is accepted and approved, but not carried out (`carriedOut_iff`).
-/

namespace ProxmoxMcp

open Interaction Text ProxmoxError
open Program hiding bind

/-- The fields an action sets, as a form names and writes them. -/
def HaRuleAction.setFields (action : HaRuleAction) : List (String × String) :=
  (action.resources.map fun resources => ("resources", ",".intercalate resources)).toList ++
    (action.nodes.map fun nodes => ("nodes", nodes)).toList ++
    (action.affinity.map fun affinity => ("affinity", affinity)).toList ++
    (action.strict.map fun strict => ("strict", Guests.flag strict)).toList ++
    (action.comment.map fun comment => ("comment", comment)).toList ++
    (action.disable.map fun disable => ("disable", Guests.flag disable)).toList

/-- What a form carries besides the fields: the id and the type of a new rule, or the digest of the
rule that is updated. -/
def HaRuleAction.ownFields (action : HaRuleAction) (existing : Option Json) :
    List (String × String) :=
  if action.op = "create" then
    ("rule", action.rule) :: (action.ruleType.map fun ruleType => ("type", ruleType)).toList
  else
    ((existing.bind fun rule => rule.getStr "digest").map fun digest => ("digest", digest)).toList

variable [Externals]

/-- The HTTP layer refuses the URL of the request that writes an action on a rule. -/
def ProxmoxClient.RefusesRuleWrite (client : ProxmoxClient) (action : HaRuleAction)
    (existing : Option Json) : Prop :=
  ∃ request, HaRuleRequest action existing request ∧ client.RefusesUrl request

/-- **An action is carried out** on a rule in this condition. -/
structure CarriedOut (client : ProxmoxClient) (action : HaRuleAction) (existing : Option Json) :
    Prop where
  /-- It is read back from the record as it was stored. -/
  stored : HaRuleAction.fromJson action.toJson = some action
  /-- It passes the check before the claim. -/
  complete : missingRequiredHaFields action = []
  /-- Its form carries the fields it sets, and nothing else but the form's own fields. -/
  form : ∀ request, HaRuleRequest action existing request →
    request.form.Perm (action.ownFields existing ++ action.setFields)
  /-- Writing it is not refused before the request has departed, unless the HTTP layer refuses the
  URL of just that request. -/
  departs : ∀ h, Always (fun _ (op : Op) => op.Unclaiming)
    (fun after _ => Departed (client.RefusesRuleWrite action existing) after) h
    (writeHaRule client action existing).run

/-! ### What is built -/

/-- What the builder ensures of a creation or an update. -/
structure BuiltChange (action : HaRuleAction) : Prop where
  segment : IsSegment action.rule
  resources : action.resources ≠ some []
  create : action.op = "create" → missingRequiredHaFields action = []
  update : action.op = "update" → action.setFields ≠ []

omit [Externals] in
/-- Resources that are named name somebody, and a creation names some. -/
private theorem named_of_plannedResources {args : PlanHaRuleArgs} {isCreate : Bool}
    {resources : Option (List String)} (h : plannedResources args isCreate = .ok resources) :
    resources ≠ some [] ∧ (isCreate = true → resources ≠ none) := by
  rw [plannedResources, Fallible.bind_eq_ok_iff] at h
  obtain ⟨merged, -, h⟩ := h
  cases merged with
  | none =>
    cases isCreate with
    | true => cases h
    | false =>
      obtain rfl := Except.ok.inj h
      exact ⟨nofun, nofun⟩
  | some named =>
    cases named with
    | nil => cases h
    | cons first rest =>
      obtain ⟨_, -, h⟩ := Fallible.bind_eq_ok_iff.mp h
      obtain rfl := Except.ok.inj h
      exact ⟨nofun, fun _ => nofun⟩

omit [Externals] in
/-- A creation declares one of the two types. -/
private theorem type_of_declaredRuleType {args : PlanHaRuleArgs} {ruleType : Option String}
    (h : declaredRuleType args true = .ok ruleType) :
    ruleType = some "node-affinity" ∨ ruleType = some "resource-affinity" := by
  cases hdeclared : args.ruleType with
  | none =>
    rw [declaredRuleType.eq_def, hdeclared] at h
    cases h
  | some declared =>
    rw [declaredRuleType.eq_def, hdeclared] at h
    dsimp only at h
    split_ifs at h with hother
    obtain rfl := Except.ok.inj h
    rw [Option.some.injEq, Option.some.injEq]
    tauto

private theorem builtChange_of_buildCreateOrUpdate {args : PlanHaRuleArgs} {isCreate : Bool}
    {action : HaRuleAction} (hsegment : IsSegment args.rule)
    (hbuilt : buildCreateOrUpdate args isCreate = .ok action) : BuiltChange action := by
  rw [buildCreateOrUpdate, Fallible.bind_eq_ok_iff] at hbuilt
  obtain ⟨ruleType, htype, hbuilt⟩ := hbuilt
  rw [Fallible.bind_eq_ok_iff] at hbuilt
  obtain ⟨resources, hresources, hbuilt⟩ := hbuilt
  rw [Fallible.bind_eq_ok_iff] at hbuilt
  obtain ⟨_, htyped, hbuilt⟩ := hbuilt
  obtain ⟨hne, hsome⟩ := named_of_plannedResources hresources
  cases isCreate with
  | true =>
    obtain rfl := Except.ok.inj hbuilt
    refine ⟨hsegment, hne, fun _ => ?_, fun hop => absurd hop (by simp)⟩
    obtain ⟨named, rfl⟩ := Option.ne_none_iff_exists'.mp (hsome rfl)
    have hnamed : named.isEmpty = false := by
      cases named with
      | nil => exact absurd rfl hne
      | cons first rest => rfl
    -- the checked fields of a type are the ones the apply wants
    rcases type_of_declaredRuleType htype with rfl | rfl
    · cases hnodes : args.nodes with
      | none =>
        rw [validateTypedFields, hnodes] at htyped
        split_ifs at htyped
      | some nodes => simp [missingRequiredHaFields, hnamed]
    · cases haffinity : args.affinity with
      | none =>
        rw [validateTypedFields.eq_def, haffinity] at htyped
        cases hnodes : args.nodes with
        | none =>
          rw [hnodes] at htyped
          cases htyped
        | some nodes =>
          rw [hnodes] at htyped
          cases htyped
      | some affinity => simp [missingRequiredHaFields, hnamed]
  | false =>
    cases hnames : updateNamesAField args resources with
    | false =>
      rw [hnames] at hbuilt
      cases hbuilt
    | true =>
      rw [hnames] at hbuilt
      obtain rfl := Except.ok.inj hbuilt
      refine ⟨hsegment, hne, fun hop => absurd hop (by simp), fun _ hnone => ?_⟩
      simp [HaRuleAction.setFields] at hnone
      simp [updateNamesAField, hnone] at hnames

/-- What is built as a creation or an update. -/
private theorem builtChange_of_buildHaRuleAction {args : PlanHaRuleArgs} {action : HaRuleAction}
    (hbuilt : buildHaRuleAction args = .ok action)
    (hop : action.op = "create" ∨ action.op = "update") : BuiltChange action := by
  rw [buildHaRuleAction, Fallible.bind_eq_ok_iff] at hbuilt
  obtain ⟨_, hsegment, hbuilt⟩ := hbuilt
  have hsegment : IsSegment args.rule :=
    validatePathSegment_eq_ok_iff.mp (eq_ok_of_mapError hsegment)
  split at hbuilt
  · exact builtChange_of_buildCreateOrUpdate hsegment hbuilt
  · exact builtChange_of_buildCreateOrUpdate hsegment hbuilt
  · -- a deletion is neither
    rw [buildDelete, Fallible.bind_eq_ok_iff] at hbuilt
    obtain ⟨_, -, hbuilt⟩ := hbuilt
    split_ifs at hbuilt
    · cases hbuilt
    · obtain rfl := Except.ok.inj hbuilt
      simp at hop
  · cases hbuilt

/-! ### What is written -/

section Writing

variable {client : ProxmoxClient} {action : HaRuleAction} {existing : Option Json}

omit [Externals] in
/-- The optional fields of a form are the fields set, but for an empty comment. -/
private theorem optionalFields_fields (ruleType : String) (hcomment : action.comment ≠ some "") :
    action.setFields = (action.resources.map fun resources =>
      ("resources", ",".intercalate resources)).toList ++
        (action.fields ruleType).optionalFields := by
  have hkept : Guests.optionalField "comment" action.comment =
      (action.comment.map fun comment => ("comment", comment)).toList := by
    cases hset : action.comment with
    | none => rfl
    | some comment =>
      have hne : comment ≠ "" := fun heq => hcomment (by rw [hset, heq])
      simp [Guests.optionalField, hne]
  simp only [HaRuleAction.setFields, HaRuleFields.optionalFields, HaRuleAction.fields, hkept,
    List.append_assoc]

/-- An update carries the fields it sets, and the digest. -/
private theorem updateForm_fields (hchange : BuiltChange action)
    (hcomment : action.comment ≠ some "")
    (digest : Option String) : updateForm (action.fields "") digest =
      action.setFields ++ (digest.map fun digest => ("digest", digest)).toList := by
  have hresources : (if (action.fields "").resources.isEmpty then []
      else [("resources", ",".intercalate (action.fields "").resources)]) =
      (action.resources.map fun resources => ("resources", ",".intercalate resources)).toList := by
    cases hset : action.resources with
    | none => simp [HaRuleAction.fields, hset]
    | some resources =>
      have hne : resources ≠ [] := fun heq => hchange.resources (by rw [hset, heq])
      simp [HaRuleAction.fields, hset, hne]
  rw [optionalFields_fields "" hcomment, updateForm, hresources]

/-- **The form carries the fields** of an action that was built, unless it sets an empty comment. -/
theorem form_perm (hchange : BuiltChange action)
    (hop : action.op = "create" ∨ action.op = "update") (hcomment : action.comment ≠ some "")
    {request : ApiRequest} (hrequest : HaRuleRequest action existing request) :
    request.form.Perm (action.ownFields existing ++ action.setFields) := by
  cases hrequest with
  | create hcreate =>
    have hcomplete := hchange.create hcreate
    obtain ⟨ruleType, htype⟩ : ∃ ruleType, action.ruleType = some ruleType := by
      cases htype : action.ruleType with
      | none => simp [missingRequiredHaFields, hcreate, htype] at hcomplete
      | some ruleType => exact ⟨ruleType, rfl⟩
    obtain ⟨resources, hresources⟩ : ∃ resources, action.resources = some resources := by
      cases hresources : action.resources with
      | none => simp [missingRequiredHaFields, hcreate, hresources] at hcomplete
      | some resources => exact ⟨resources, rfl⟩
    rw [optionalFields_fields ruleType hcomment, HaRuleAction.ownFields, if_pos hcreate, htype,
      hresources]
    refine List.Perm.of_eq ?_
    simp [createRuleRequest, HaRuleAction.fields, hresources]
  | update hupdate =>
    rw [HaRuleAction.ownFields, if_neg (by rw [hupdate]; decide), updateRuleRequest,
      updateForm_fields hchange hcomment]
    exact List.perm_append_comm
  | delete hdelete =>
    rw [hdelete] at hop
    exact absurd hop (by decide)

/-- **The write departs**: what was built names something to change, and its rule id is a
segment. -/
theorem always_writeHaRule_departs (hlaws : ExpanderLaws) (hchange : BuiltChange action)
    (hop : action.op = "create" ∨ action.op = "update") (hcomment : action.comment ≠ some "")
    (h : History Effect) :
    Always (fun _ (op : Op) => op.Unclaiming)
      (fun after _ => Departed (client.RefusesRuleWrite action existing) after) h
      (writeHaRule client action existing).run := by
  have hwrite {request : ApiRequest} (hrequest : HaRuleRequest action existing request)
      (hmutating : request.Mutating) (hexpand : request.Expandable) :
      Always (fun _ (op : Op) => op.Unclaiming)
        (fun after _ => Departed (client.RefusesRuleWrite action existing) after) h
        (do let _ ← client.send request : ClientM Unit).run := by
    refine Always.run_bind ((always_send_departed hmutating hexpand).mono (fun _ _ hop => hop)
      fun _ _ hdeparted => hdeparted.imp_right fun hrefuses => ⟨request, hrequest, hrefuses⟩)
      (fun _ _ hdeparted => hdeparted) fun _ _ hdeparted => hdeparted
  unfold writeHaRule
  split
  · next hcreate =>
    have htakes : Takes "/api2/json/cluster/ha/rules" [] := by decide
    exact hwrite (.create hcreate) nofun ((@ExpanderLaws.each _ hlaws _ [] htakes).mpr (by simp))
  · next hupdate =>
    -- an update is refused when it names nothing to change
    have hnamed : (updateForm (action.fields "") (existing.bind fun rule =>
        rule.getStr "digest")).isEmpty = false := by
      rw [updateForm_fields hchange hcomment, List.isEmpty_eq_false_iff, ne_eq,
        List.append_eq_nil_iff, not_and]
      exact fun hempty => absurd hempty (hchange.update hupdate)
    have htakes : Takes "/api2/json/cluster/ha/rules/{rule}" ["rule"] := by decide
    rw [updateRule, hnamed]
    refine hwrite (.update hupdate) nofun
      ((@ExpanderLaws.each _ hlaws _ [("rule", action.rule)] htakes).mpr ?_)
    simpa using hchange.segment
  · next hdelete =>
    rw [hdelete] at hop
    exact absurd hop (by decide)
  · next hcreate hupdate _ =>
    rcases hop with hop | hop
    · exact absurd hop hcreate
    · exact absurd hop hupdate

omit [Externals] in
/-- An empty comment is in no form. -/
private theorem not_form_perm (hop : action.op = "create" ∨ action.op = "update")
    (hcomment : action.comment = some "") : ∃ request, HaRuleRequest action existing request ∧
      ¬ request.form.Perm (action.ownFields existing ++ action.setFields) := by
  have hset : ("comment", "") ∈ action.ownFields existing ++ action.setFields := by
    simp [HaRuleAction.setFields, hcomment]
  have hdropped (ruleType : String) :
      ("comment", "") ∉ (action.fields ruleType).optionalFields := by
    simp [HaRuleFields.optionalFields, HaRuleAction.fields, Guests.optionalField, hcomment]
  rcases hop with hop | hop
  · refine ⟨_, .create hop, fun hperm => ?_⟩
    have hmem := hperm.mem_iff.mpr hset
    simp [createRuleRequest, hdropped] at hmem
  · refine ⟨_, .update hop, fun hperm => ?_⟩
    have hmem := hperm.mem_iff.mpr hset
    have hdigest (digest : Option String) :
        ("comment", "") ∉ (digest.map fun digest => ("digest", digest)).toList := by
      cases digest <;> simp
    rw [updateRuleRequest, updateForm, List.mem_append, List.mem_append] at hmem
    rcases hmem with (hmem | hmem) | hmem
    · split_ifs at hmem <;> simp at hmem
    · exact hdropped "" hmem
    · exact hdigest _ hmem

end Writing

/-- **Which actions are carried out**: of those the builder accepts as a creation or an update,
exactly those that do not set the comment to nothing. -/
theorem carriedOut_iff (hlaws : ExpanderLaws) {client : ProxmoxClient} {args : PlanHaRuleArgs}
    {action : HaRuleAction} (hbuilt : buildHaRuleAction args = .ok action)
    (hop : action.op = "create" ∨ action.op = "update") (existing : Option Json) :
    CarriedOut client action existing ↔ action.comment ≠ some "" := by
  have hchange := builtChange_of_buildHaRuleAction hbuilt hop
  constructor
  · intro hcarried hcomment
    obtain ⟨request, hrequest, hform⟩ := @not_form_perm action existing hop hcomment
    exact hform (hcarried.form request hrequest)
  · intro hcomment
    refine ⟨HaRuleAction.fromJson_toJson, ?_, fun request => form_perm hchange hop hcomment,
      always_writeHaRule_departs hlaws hchange hop hcomment⟩
    rcases hop with hcreate | hupdate
    · exact hchange.create hcreate
    · rw [missingRequiredHaFields, hupdate, if_neg (by decide)]

/-- Keep two guests apart. -/
def creationArgs : PlanHaRuleArgs where
  cluster := "pve"
  rule := "keep-apart"
  op := "create"
  ruleType := some "resource-affinity"
  resources := some ["vm:100", "vm:101"]
  affinity := some "negative"
  comment := some "two replicas"

/-- What is planned for them. -/
def creationAction : HaRuleAction :=
  ⟨"create", "pve", "keep-apart", some "resource-affinity", some ["vm:100", "vm:101"], none,
    some "negative", none, some "two replicas", none⟩

omit [Externals] in
theorem carriedOut_iff_creation :
    @CarriedOut Externals.guarded snapshotClient creationAction none ↔
      creationAction.comment ≠ some "" := by
  let _ : Externals := Externals.guarded
  have hbuilt : buildHaRuleAction creationArgs = .ok creationAction := rfl
  exact carriedOut_iff expanderLaws_guarded hbuilt (.inl rfl) none

/-- Clear the comment of a rule. -/
def clearComment : PlanHaRuleArgs where
  cluster := "pve"
  rule := "keep-apart"
  op := "update"
  comment := some ""

def clearCommentAction : HaRuleAction :=
  ⟨"update", "pve", "keep-apart", none, none, none, none, none, some "", none⟩

omit [Externals] in
/-- The update that clears a comment is accepted, and the executor finds nothing to change in it. -/
theorem not_carriedOut_clearComment :
    @buildHaRuleAction Externals.guarded clearComment = .ok clearCommentAction ∧
    (∀ existing, ¬ @CarriedOut Externals.guarded snapshotClient clearCommentAction existing) ∧
    (@writeHaRule Externals.guarded snapshotClient clearCommentAction
        (some (.object [("resources", .string "vm:100")]))).run =
      .done (.error (malformed "update names no field to change")) := by
  let _ : Externals := Externals.guarded
  refine ⟨rfl, fun existing hcarried => ?_, rfl⟩
  obtain ⟨request, hrequest, hform⟩ :=
    @not_form_perm clearCommentAction existing (.inr rfl) rfl
  exact hform (hcarried.form request hrequest)

end ProxmoxMcp
