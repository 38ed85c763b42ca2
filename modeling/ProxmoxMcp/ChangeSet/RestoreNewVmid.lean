import ProxmoxMcp.ChangeSet.Destroy
import ProxmoxMcp.ChangeSet.HaRule

/-!
# Restoring into a new vmid

The action of a change set that restores an archive into a vmid no guest has. It records the
**owner** of the archive, as the storage reported it at plan time.

The last section separates the three families of actions: no stored action of one reads as an action
of another, so an apply handler that reads an action at all reads one of its own family.
-/

namespace ProxmoxMcp

open Text

/-- Arguments for planning a restore into a new vmid. -/
structure PlanRestoreNewVmidArgs where
  cluster : String
  node : String
  targetVmid : UInt32
  kind : String
  volid : String

/-- Action for a restore into a new vmid. -/
structure RestoreNewVmidAction where
  cluster : String
  node : String
  targetVmid : UInt32
  kind : String
  volid : String
  /-- The guest the storage listing reported as the archive's source. -/
  ownerVmid : UInt32
  deriving DecidableEq

namespace RestoreNewVmidAction

/-- The action as a change set stores it. -/
def toJson (action : RestoreNewVmidAction) : Json :=
  .object <| presentMembers [("cluster", some (.string action.cluster)),
    ("node", some (.string action.node)),
    ("target_vmid", some (.unsigned action.targetVmid.toUInt64)),
    ("kind", some (.string action.kind)), ("volid", some (.string action.volid)),
    ("owner_vmid", some (.unsigned action.ownerVmid.toUInt64))]

/-- Read a stored action. -/
def fromJson (value : Json) : Option RestoreNewVmidAction := do
  let field ← structFields ["cluster", "node", "target_vmid", "kind", "volid", "owner_vmid"] value
  return {
    cluster := ← (field "cluster").bind Json.asStr
    node := ← (field "node").bind Json.asStr
    targetVmid := ← (field "target_vmid").bind Json.asU32
    kind := ← (field "kind").bind Json.asStr
    volid := ← (field "volid").bind Json.asStr
    ownerVmid := ← (field "owner_vmid").bind Json.asU32 }

/-- A stored action is read back unchanged. -/
@[simp] theorem fromJson_toJson {action : RestoreNewVmidAction} :
    fromJson action.toJson = some action := by
  simp [fromJson, toJson, structFields, lookup_presentMembers, List.lookup_cons]

/-- A value without an owner is no restore into a new vmid. -/
theorem fromJson_eq_none {members : List (String × Json)}
    (h : members.lookup "owner_vmid" = none) : fromJson (.object members) = none := by
  simp [fromJson, structFields, h]

/-- The guest type an action restores as, when it is one. -/
def guestType (action : RestoreNewVmidAction) : Option GuestType :=
  match action.kind with
  | "qemu" => some .qemu
  | "lxc" => some .lxc
  | _ => none

end RestoreNewVmidAction

section Planning

variable [Externals]

/-- Build and validate the action a plan will record, for the owner its archive has. -/
def buildRestoreNewVmidAction (args : PlanRestoreNewVmidArgs) (ownerVmid : UInt32) :
    Except String RestoreNewVmidAction := do
  if args.kind ≠ "qemu" ∧ args.kind ≠ "lxc" then
    throw s!"kind must be 'qemu' or 'lxc', got '{args.kind}'"
  (Guests.validatePathSegment args.node "node").mapError fun error =>
    s!"node refused: {error.toText}"
  (validateVolidKind args.volid "backup").mapError ProxmoxError.toText
  return ⟨args.cluster, args.node, args.targetVmid, args.kind, args.volid, ownerVmid⟩

/-- A built action restates the arguments and the owner. -/
theorem eq_of_buildRestoreNewVmidAction {args : PlanRestoreNewVmidArgs} {owner : UInt32}
    {action : RestoreNewVmidAction} (hbuilt : buildRestoreNewVmidAction args owner = .ok action) :
    action = ⟨args.cluster, args.node, args.targetVmid, args.kind, args.volid, owner⟩ := by
  simp only [buildRestoreNewVmidAction, throw, throwThe, MonadExceptOf.throw, bind, Except.bind,
    pure, Except.pure] at hbuilt
  repeat' split at hbuilt
  all_goals first | exact (Except.ok.inj hbuilt).symm | simp_all

/-- Render the preview an approver reviews for a restore into a new vmid. -/
def renderRestoreNewVmidPreview (action : RestoreNewVmidAction) : String :=
  s!"RESTORE INTO NEW VMID {action.targetVmid} on cluster '{action.cluster}', node " ++
    s!"'{action.node}'\n  Creates a {action.kind} guest from the archive '{action.volid}'. The " ++
    "VMID must still be free when this is applied -- if something now occupies it, the apply is " ++
    "refused rather than overwriting it."

end Planning

/-! ### The three families -/

/-- The families of change sets. -/
inductive Family where
  | destroy
  | haRule
  | restoreNewVmid
  deriving DecidableEq

/-- A stored value is an action of a family. -/
inductive Family.Stores : Family → Json → Prop
  | destroy (action : DestroyAction) : Stores .destroy action.toJson
  | haRule (action : HaRuleAction) : Stores .haRule action.toJson
  | restoreNewVmid (action : RestoreNewVmidAction) : Stores .restoreNewVmid action.toJson

/-- A value reads as an action of a family. -/
def Family.Reads (family : Family) (value : Json) : Prop :=
  match family with
  | .destroy => (DestroyAction.fromJson value).isSome
  | .haRule => (HaRuleAction.fromJson value).isSome
  | .restoreNewVmid => (RestoreNewVmidAction.fromJson value).isSome

/-- A field that the actions of a family cannot do without, and no other action has. -/
def Family.key : Family → String
  | destroy => "vmid"
  | haRule => "rule"
  | restoreNewVmid => "owner_vmid"

theorem Family.lookup_key_of_reads {family : Family} {members : List (String × Json)}
    (h : family.Reads (.object members)) : (members.lookup family.key).isSome := by
  by_contra hnone
  replace hnone := Option.not_isSome_iff_eq_none.mp hnone
  cases family with
  | destroy => simp [Family.Reads, DestroyAction.fromJson_eq_none hnone] at h
  | haRule => simp [Family.Reads, HaRuleAction.fromJson_eq_none hnone] at h
  | restoreNewVmid => simp [Family.Reads, RestoreNewVmidAction.fromJson_eq_none hnone] at h

theorem Family.Stores.eq_of_lookup_key {family family' : Family} {value : Json}
    (h : family.Stores value) : ∃ members, value = .object members ∧
      ((members.lookup family'.key).isSome → family = family') := by
  cases h <;> refine ⟨_, rfl, ?_⟩ <;> cases family' <;>
    simp [lookup_presentMembers, List.lookup_cons, Family.key]

/-- **The families are separate**: a stored action reads as one of its own family only. -/
theorem Family.eq_of_reads {family family' : Family} {value : Json} (hstored : family.Stores value)
    (hreads : family'.Reads value) : family = family' := by
  obtain ⟨members, rfl, heq⟩ := hstored.eq_of_lookup_key
  exact heq (Family.lookup_key_of_reads hreads)

end ProxmoxMcp
