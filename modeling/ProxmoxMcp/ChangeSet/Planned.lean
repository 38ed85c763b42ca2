import ProxmoxMcp.ChangeSet.Destroy
import ProxmoxMcp.Core.PathExpansion

/-!
# What a plan records can be applied

`buildDestroyAction` decides at plan time what `recheckAction` asks again at apply time, after the
action was **stored and read back**. Between the two lie eight operations with different fields,
and a form that leaves absent fields out.

An operation says which action a plan records for it, with what was checked about each value in it
(`eq_of_buildDestroyAction_volume` and its siblings). From that the check of an apply is computed
once for each operation.
-/

namespace ProxmoxMcp

open Text ProxmoxError

/-! ### The actions a plan records -/

/-- An action with the parameters no operation leaves out. -/
def PlanDestroyArgs.bare (args : PlanDestroyArgs) : DestroyAction where
  op := args.op
  cluster := args.cluster
  vmid := args.vmid
  snapname := none
  storage := none
  volid := none
  storageNode := none
  targetNode := none
  online := args.online
  withLocalDisks := args.withLocalDisks
  config := none

/-- The action that deletes a volume. -/
def PlanDestroyArgs.volumeAction (args : PlanDestroyArgs) (storageNode storage volid : String) :
    DestroyAction :=
  { args.bare with
    storage := some storage, volid := some volid, storageNode := some storageNode }

/-- The operations a plan accepts. -/
def plannedOps : List String :=
  ["destroy_guest", "delete_snapshot", "rollback_snapshot", "delete_backup", "delete_iso",
    "restore_backup", "migrate", "update_vm_config"]

variable [Externals]

/-- A value that was given for a segment of a path, and that the expander accepts as one. -/
def IsGivenSegment (value : String) : Prop := value ≠ "" ∧ IsSegment value

section Accepted

variable {args : PlanDestroyArgs} {action : DestroyAction}

theorem mem_plannedOps (h : buildDestroyAction args = .ok action) : args.op ∈ plannedOps := by
  unfold buildDestroyAction at h
  split at h
  case h_9 => simp at h
  all_goals simp_all [plannedOps]

omit [Externals] in
private theorem ne_empty_of_requireField {op name value : String} {given : Option String}
    (h : requireField op given name = .ok value) : value ≠ "" := by
  rw [requireField] at h
  split at h
  · next hgiven =>
    obtain rfl := Except.ok.inj h
    have hpresent := (Option.filter_eq_some_iff.mp hgiven).2
    simpa using hpresent
  · cases h

private theorem isGivenSegment_of_requireSegment {op name value : String} {given : Option String}
    (h : requireSegment op given name = .ok value) : IsGivenSegment value := by
  simp only [requireSegment, bind, Except.bind, pure, Except.pure] at h
  split at h
  · simp at h
  next hgiven =>
    split at h
    · simp at h
    next hvalid =>
      obtain rfl := Except.ok.inj h
      exact ⟨ne_empty_of_requireField hgiven,
        validatePathSegment_eq_ok_iff.mp (eq_ok_of_mapError hvalid)⟩

theorem eq_of_buildDestroyAction_destroy (hop : args.op = "destroy_guest")
    (h : buildDestroyAction args = .ok action) : action = args.bare := by
  simp only [buildDestroyAction, hop, Except.ok.injEq] at h
  rw [← h, PlanDestroyArgs.bare, hop]

theorem eq_of_buildDestroyAction_snapshot
    (hop : args.op = "delete_snapshot" ∨ args.op = "rollback_snapshot")
    (h : buildDestroyAction args = .ok action) :
    ∃ snapname, IsGivenSegment snapname ∧
      action = { args.bare with snapname := some snapname } := by
  rcases hop with hop | hop
  all_goals
    simp only [buildDestroyAction, hop, bind, Except.bind, pure, Except.pure] at h
    split at h
    · simp at h
    · next snapname hsegment =>
      refine ⟨snapname, isGivenSegment_of_requireSegment hsegment, ?_⟩
      rw [← Except.ok.inj h, PlanDestroyArgs.bare, hop]

theorem eq_of_buildDestroyAction_volume
    (hop : args.op = "delete_backup" ∨ args.op = "delete_iso")
    (h : buildDestroyAction args = .ok action) :
    ∃ storageNode storage volid, IsGivenSegment storageNode ∧ IsGivenSegment storage ∧
      validateVolidForOperation volid storage (deletedKind args.op) = .ok () ∧
      action = args.volumeAction storageNode storage volid := by
  rcases hop with hop | hop
  all_goals
    simp only [buildDestroyAction, hop, bind, Except.bind, pure, Except.pure] at h
    split at h
    · simp at h
    split at h
    · simp at h
    split at h
    · simp at h
    split at h
    · simp at h
    next storageNode hnode _ storage hstorage _ volid _ _ _ hvalid =>
      refine ⟨storageNode, storage, volid, isGivenSegment_of_requireSegment hnode,
        isGivenSegment_of_requireSegment hstorage, ?_, ?_⟩
      · rw [hop]
        exact eq_ok_of_mapError hvalid
      · rw [← Except.ok.inj h, PlanDestroyArgs.volumeAction, PlanDestroyArgs.bare, hop]

theorem eq_of_buildDestroyAction_restore (hop : args.op = "restore_backup")
    (h : buildDestroyAction args = .ok action) :
    ∃ volid, validateVolidKind volid "backup" = .ok () ∧
      action = { args.bare with volid := some volid } := by
  simp only [buildDestroyAction, hop, bind, Except.bind, pure, Except.pure] at h
  split at h
  · simp at h
  split at h
  · simp at h
  next volid _ _ _ hvalid =>
    refine ⟨volid, eq_ok_of_mapError hvalid, ?_⟩
    rw [← Except.ok.inj h, PlanDestroyArgs.bare, hop]

theorem eq_of_buildDestroyAction_migrate (hop : args.op = "migrate")
    (h : buildDestroyAction args = .ok action) :
    ∃ targetNode, IsGivenSegment targetNode ∧
      action = { args.bare with targetNode := some targetNode } := by
  simp only [buildDestroyAction, hop, bind, Except.bind, pure, Except.pure] at h
  split at h
  · simp at h
  next targetNode hsegment =>
    refine ⟨targetNode, isGivenSegment_of_requireSegment hsegment, ?_⟩
    rw [← Except.ok.inj h, PlanDestroyArgs.bare, hop]

theorem eq_of_buildDestroyAction_config (hop : args.op = "update_vm_config")
    (h : buildDestroyAction args = .ok action) :
    args.config.entries ≠ [] ∧ rejectUnsafeVmConfig args.config = none ∧
      action = { args.bare with config := some args.config } := by
  simp only [buildDestroyAction, hop] at h
  split at h
  · simp at h
  next hempty =>
    split at h
    · simp at h
    next hsafe =>
      refine ⟨by simpa using hempty, hsafe, ?_⟩
      rw [← Except.ok.inj h, PlanDestroyArgs.bare, hop]

theorem op_of_buildDestroyAction (h : buildDestroyAction args = .ok action) :
    action.op = args.op := by
  have hop := mem_plannedOps h
  simp only [plannedOps, List.mem_cons, List.not_mem_nil, or_false] at hop
  rcases hop with hop | hop | hop | hop | hop | hop | hop | hop
  · rw [eq_of_buildDestroyAction_destroy hop h, PlanDestroyArgs.bare]
  · obtain ⟨_, -, rfl⟩ := eq_of_buildDestroyAction_snapshot (.inl hop) h
    rfl
  · obtain ⟨_, -, rfl⟩ := eq_of_buildDestroyAction_snapshot (.inr hop) h
    rfl
  · obtain ⟨_, _, _, -, -, -, rfl⟩ := eq_of_buildDestroyAction_volume (.inl hop) h
    rfl
  · obtain ⟨_, _, _, -, -, -, rfl⟩ := eq_of_buildDestroyAction_volume (.inr hop) h
    rfl
  · obtain ⟨_, -, rfl⟩ := eq_of_buildDestroyAction_restore hop h
    rfl
  · obtain ⟨_, -, rfl⟩ := eq_of_buildDestroyAction_migrate hop h
    rfl
  · obtain ⟨-, -, rfl⟩ := eq_of_buildDestroyAction_config hop h
    rfl

end Accepted

/-! ### The checks of an apply -/

/-- The fields that are there are checked one by one. -/
theorem recheckSegments_eq_ok_iff {fields : List (String × Option String)} :
    recheckSegments fields = .ok () ↔
      ∀ field value, (field, some value) ∈ fields → IsSegment value := by
  induction fields with
  | nil => simp [recheckSegments]
  | cons entry rest ih =>
    obtain ⟨field, value⟩ := entry
    cases value with
    | none => simp [recheckSegments, ih]
    | some value =>
      rw [recheckSegments]
      cases hvalid : Guests.validatePathSegment value field with
      | error error =>
        refine iff_of_false (by simp) fun hall => ?_
        have hok := (@validatePathSegment_eq_ok_iff _ value field).mpr
          (hall field value List.mem_cons_self)
        rw [hvalid] at hok
        cases hok
      | ok _ =>
        have hsegment : IsSegment value := validatePathSegment_eq_ok_iff.mp hvalid
        simp only [ih, List.mem_cons, Prod.mk.injEq, Option.some.injEq]
        constructor
        · rintro hrest field' value' (⟨-, rfl⟩ | hmem)
          · exact hsegment
          · exact hrest field' value' hmem
        · exact fun hall field' value' hmem => hall field' value' (.inr hmem)

/-- An apply makes three checks of a stored action: nothing is missing, the values are of the
right shape, and what becomes a segment is one. -/
theorem recheckAction_eq_ok_iff {action : DestroyAction} :
    recheckAction action = .ok () ↔ missingRequiredFields action = [] ∧
      recheckValues action = .ok () ∧ recheckSegments [("snapname", action.snapname),
        ("storage", action.storage), ("storage_node", action.storageNode)] = .ok () := by
  simp only [recheckAction, bind, Except.bind]
  cases hmissing : missingRequiredFields action with
  | cons name names => simp [throw, throwThe, MonadExceptOf.throw]
  | nil =>
    cases hvalues : recheckValues action <;> simp

/-- What an apply asks of a stored action before it claims the record. -/
structure Applicable (action : DestroyAction) : Prop where
  /-- The operation is one there is a tool for. -/
  known : ∀ kind, ∃ tool, toolForOp action.op kind = some tool
  /-- No field the operation needs is missing. -/
  present : missingRequiredFields action = []
  /-- What is deleted is a volume of the storage and of the kind the operation deletes. -/
  deletion : action.op = "delete_backup" ∨ action.op = "delete_iso" →
    ∃ volid storage, action.volid = some volid ∧ action.storage = some storage ∧
      validateVolidForOperation volid storage (deletedKind action.op) = .ok ()
  /-- What is restored is a backup. -/
  restore : action.op = "restore_backup" →
    ∃ volid, action.volid = some volid ∧ validateVolidKind volid "backup" = .ok ()
  /-- What is set is a config that may be set. -/
  config : action.op = "update_vm_config" →
    ∃ config, action.config = some config ∧ rejectUnsafeVmConfig config = none
  snapname : ∀ value, action.snapname = some value →
    Guests.validatePathSegment value "snapname" = .ok ()
  storage : ∀ value, action.storage = some value →
    Guests.validatePathSegment value "storage" = .ok ()
  storageNode : ∀ value, action.storageNode = some value →
    Guests.validatePathSegment value "storage_node" = .ok ()
  /-- The checks as the apply makes them, one after the other. -/
  accepted : recheckAction action = .ok ()

omit [Externals] in
/-- Every operation a plan accepts has its tool. -/
private theorem exists_toolForOp {op : String} (h : op ∈ plannedOps) (kind : GuestType) :
    ∃ tool, toolForOp op kind = some tool := by
  simp only [plannedOps, List.mem_cons, List.not_mem_nil, or_false] at h
  rcases h with rfl | rfl | rfl | rfl | rfl | rfl | rfl | rfl
  all_goals exact ⟨_, rfl⟩

omit [Externals] in
private theorem volid_of_recheckValues {action : DestroyAction}
    (hop : action.op = "delete_backup" ∨ action.op = "delete_iso")
    (h : recheckValues action = .ok ()) :
    ∃ volid storage, action.volid = some volid ∧ action.storage = some storage ∧
      validateVolidForOperation volid storage (deletedKind action.op) = .ok () := by
  rcases hop with hop | hop
  all_goals
    simp only [recheckValues, hop] at h ⊢
    split at h
    · next volid storage hvolid hstorage =>
      exact ⟨volid, storage, hvolid, hstorage, eq_ok_of_mapError h⟩
    · cases h

omit [Externals] in
private theorem archive_of_recheckValues {action : DestroyAction}
    (hop : action.op = "restore_backup") (h : recheckValues action = .ok ()) :
    ∃ volid, action.volid = some volid ∧ validateVolidKind volid "backup" = .ok () := by
  simp only [recheckValues, hop] at h
  split at h
  · next volid hvolid => exact ⟨volid, hvolid, eq_ok_of_mapError h⟩
  · cases h

omit [Externals] in
private theorem config_of_recheckValues {action : DestroyAction}
    (hop : action.op = "update_vm_config")
    (hpresent : missingRequiredFields action = []) (h : recheckValues action = .ok ()) :
    ∃ config, action.config = some config ∧ rejectUnsafeVmConfig config = none := by
  cases hconfig : action.config with
  | none => simp [missingRequiredFields, hop, hconfig] at hpresent
  | some config =>
    refine ⟨config, rfl, ?_⟩
    simp only [recheckValues, hop, hconfig, Option.bind_some] at h
    split at h
    · cases h
    · next hsafe => exact hsafe

/-- An action that passes the checks is one to apply, when its operation is one that is planned. -/
private theorem applicable_of_recheckAction {action : DestroyAction} (hop : action.op ∈ plannedOps)
    (h : recheckAction action = .ok ()) : Applicable action := by
  obtain ⟨hpresent, hvalues, hsegments⟩ := recheckAction_eq_ok_iff.mp h
  rw [recheckSegments_eq_ok_iff] at hsegments
  refine ⟨exists_toolForOp hop, hpresent, fun hdeletes => volid_of_recheckValues hdeletes hvalues,
    fun hrestores => archive_of_recheckValues hrestores hvalues,
    fun hsets => config_of_recheckValues hsets hpresent hvalues, ?_, ?_, ?_, h⟩
  · exact fun value hsome => validatePathSegment_eq_ok_iff.mpr
      (hsegments "snapname" value (by simp [hsome]))
  · exact fun value hsome => validatePathSegment_eq_ok_iff.mpr
      (hsegments "storage" value (by simp [hsome]))
  · exact fun value hsome => validatePathSegment_eq_ok_iff.mpr
      (hsegments "storage_node" value (by simp [hsome]))

/-! ### One computation for each operation -/

section Recorded

variable {args : PlanDestroyArgs}

omit [Externals] in
private theorem isPresent_of_ne_empty {value : String} (h : value ≠ "") :
    isPresent (some value) = true := by
  simpa [isPresent] using h

private theorem recheckAction_destroy (hop : args.op = "destroy_guest") :
    recheckAction args.bare = .ok () := by
  rw [recheckAction_eq_ok_iff]
  refine ⟨?_, ?_, rfl⟩
  · simp [missingRequiredFields, PlanDestroyArgs.bare, hop]
  · simp [recheckValues, PlanDestroyArgs.bare, hop]

private theorem recheckAction_snapshot
    (hop : args.op = "delete_snapshot" ∨ args.op = "rollback_snapshot")
    {snapname : String} (hsegment : IsGivenSegment snapname) :
    recheckAction { args.bare with snapname := some snapname } = .ok () := by
  rw [recheckAction_eq_ok_iff, recheckSegments_eq_ok_iff]
  have hpresent := isPresent_of_ne_empty hsegment.1
  refine ⟨?_, ?_, ?_⟩
  · rcases hop with hop | hop <;>
      simp [missingRequiredFields, PlanDestroyArgs.bare, hop, hpresent]
  · rcases hop with hop | hop <;> simp [recheckValues, PlanDestroyArgs.bare, hop]
  · intro field value hmem
    obtain ⟨-, rfl⟩ : field = "snapname" ∧ value = snapname := by
      simpa [PlanDestroyArgs.bare] using hmem
    exact hsegment.2

private theorem recheckAction_volume (hop : args.op = "delete_backup" ∨ args.op = "delete_iso")
    {storageNode storage volid : String} (hnode : IsGivenSegment storageNode)
    (hstorage : IsGivenSegment storage)
    (hvolid : validateVolidForOperation volid storage (deletedKind args.op) = .ok ()) :
    recheckAction (args.volumeAction storageNode storage volid) = .ok () := by
  rw [recheckAction_eq_ok_iff, recheckSegments_eq_ok_iff]
  have hnamed : isPresent (some volid) = true := by
    obtain ⟨husable, -⟩ := deletable_of_validateVolidForOperation hvolid
    exact isPresent_of_ne_empty (ne_empty_of_rejectUnusableVolid husable)
  have hnode' := isPresent_of_ne_empty hnode.1
  have hstorage' := isPresent_of_ne_empty hstorage.1
  refine ⟨?_, ?_, ?_⟩
  · rcases hop with hop | hop <;>
      simp [missingRequiredFields, PlanDestroyArgs.volumeAction, PlanDestroyArgs.bare, hop, hnamed,
        hnode', hstorage']
  · rcases hop with hop | hop <;>
    · rw [hop] at hvolid
      simp [recheckValues, PlanDestroyArgs.volumeAction, PlanDestroyArgs.bare, hop, hvolid,
        Except.mapError]
  · intro field value hmem
    have hcases : value = storage ∨ value = storageNode := by
      have hmem' : field = "storage" ∧ value = storage ∨
          field = "storage_node" ∧ value = storageNode := by
        simpa [PlanDestroyArgs.volumeAction, PlanDestroyArgs.bare] using hmem
      exact hmem'.imp And.right And.right
    rcases hcases with rfl | rfl
    · exact hstorage.2
    · exact hnode.2

private theorem recheckAction_restore (hop : args.op = "restore_backup") {volid : String}
    (hvolid : validateVolidKind volid "backup" = .ok ()) :
    recheckAction { args.bare with volid := some volid } = .ok () := by
  rw [recheckAction_eq_ok_iff]
  have hnamed : isPresent (some volid) = true :=
    isPresent_of_ne_empty
      (ne_empty_of_rejectUnusableVolid (validateVolidKind_eq_ok_iff.mp hvolid).1)
  refine ⟨?_, ?_, rfl⟩
  · simp [missingRequiredFields, PlanDestroyArgs.bare, hop, hnamed]
  · simp [recheckValues, PlanDestroyArgs.bare, hop, hvolid, Except.mapError]

private theorem recheckAction_migrate (hop : args.op = "migrate") {targetNode : String}
    (hsegment : IsGivenSegment targetNode) :
    recheckAction { args.bare with targetNode := some targetNode } = .ok () := by
  rw [recheckAction_eq_ok_iff]
  have hpresent := isPresent_of_ne_empty hsegment.1
  refine ⟨?_, ?_, rfl⟩
  · simp [missingRequiredFields, PlanDestroyArgs.bare, hop, hpresent]
  · simp [recheckValues, PlanDestroyArgs.bare, hop]

private theorem recheckAction_config (hop : args.op = "update_vm_config")
    (hentries : args.config.entries ≠ []) (hsafe : rejectUnsafeVmConfig args.config = none) :
    recheckAction { args.bare with config := some args.config } = .ok () := by
  rw [recheckAction_eq_ok_iff]
  refine ⟨?_, ?_, rfl⟩
  · simp [missingRequiredFields, PlanDestroyArgs.bare, hop, hentries]
  · simp [recheckValues, PlanDestroyArgs.bare, hop, hsafe]

/-- What a plan decides, the check of an apply decides the same way. -/
private theorem recheckAction_of_buildDestroyAction {action : DestroyAction}
    (h : buildDestroyAction args = .ok action) : recheckAction action = .ok () := by
  have hop := mem_plannedOps h
  simp only [plannedOps, List.mem_cons, List.not_mem_nil, or_false] at hop
  rcases hop with hop | hop | hop | hop | hop | hop | hop | hop
  · obtain rfl := eq_of_buildDestroyAction_destroy hop h
    exact recheckAction_destroy hop
  · obtain ⟨_, hsegment, rfl⟩ := eq_of_buildDestroyAction_snapshot (.inl hop) h
    exact recheckAction_snapshot (.inl hop) hsegment
  · obtain ⟨_, hsegment, rfl⟩ := eq_of_buildDestroyAction_snapshot (.inr hop) h
    exact recheckAction_snapshot (.inr hop) hsegment
  · obtain ⟨_, _, _, hnode, hstorage, hvolid, rfl⟩ :=
      eq_of_buildDestroyAction_volume (.inl hop) h
    exact recheckAction_volume (.inl hop) hnode hstorage hvolid
  · obtain ⟨_, _, _, hnode, hstorage, hvolid, rfl⟩ :=
      eq_of_buildDestroyAction_volume (.inr hop) h
    exact recheckAction_volume (.inr hop) hnode hstorage hvolid
  · obtain ⟨_, hvolid, rfl⟩ := eq_of_buildDestroyAction_restore hop h
    exact recheckAction_restore hop hvolid
  · obtain ⟨_, hsegment, rfl⟩ := eq_of_buildDestroyAction_migrate hop h
    exact recheckAction_migrate hop hsegment
  · obtain ⟨hentries, hsafe, rfl⟩ := eq_of_buildDestroyAction_config hop h
    exact recheckAction_config hop hentries hsafe

/-- **What is planned can be applied.** An action that a plan records is read back as it was stored,
and passes every check that an apply makes of it before it claims the record. -/
theorem applicable_of_buildDestroyAction {action : DestroyAction}
    (h : buildDestroyAction args = .ok action) :
    DestroyAction.fromJson action.toJson = some action ∧ Applicable action := by
  refine ⟨DestroyAction.fromJson_toJson, applicable_of_recheckAction ?_
    (recheckAction_of_buildDestroyAction h)⟩
  rw [op_of_buildDestroyAction h]
  exact mem_plannedOps h

end Recorded

omit [Externals] in
/-- The deletion of an image, planned with all its fields. -/
theorem applicable_of_buildDestroyAction_iso :
    let _ : Externals := Externals.guarded
    ∃ action, action.op = "delete_iso" ∧
      DestroyAction.fromJson action.toJson = some action ∧ Applicable action := by
  let _ : Externals := Externals.guarded
  let args : PlanDestroyArgs := {
    cluster := "pve", vmid := 100, op := "delete_iso", storage := some "local"
    volid := some "local:iso/debian.iso", storageNode := some "pve2" }
  have hbuild : buildDestroyAction args =
      .ok (args.volumeAction "pve2" "local" "local:iso/debian.iso") := by
    decide
  exact ⟨_, rfl, applicable_of_buildDestroyAction hbuild⟩

end ProxmoxMcp
