import ProxmoxMcp.ChangeSet.Stored
import ProxmoxMcp.Core.HaRules
import ProxmoxMcp.Server.Read

/-!
# HA rule actions

The action of a change set about an HA rule. The rule belongs to no one guest but moves the guests
it names, so `guestsTouched` collects the vmids of the change **and** of the rule as it stands, and
an id it cannot read is refused rather than skipped.
-/

namespace ProxmoxMcp

open Text

/-- Arguments for planning an HA rule change. -/
structure PlanHaRuleArgs where
  cluster : String
  rule : String
  op : String := "create"
  ruleType : Option String := none
  resources : Option (List String) := none
  services : Option (List String) := none
  nodes : Option String := none
  affinity : Option String := none
  strict : Option Bool := none
  comment : Option String := none
  disable : Option Bool := none

/-- Arguments identifying an HA rule change set. -/
structure HaChangeSetArgs where
  changeSetId : String
  cluster : String
  rule : String
  deriving DecidableEq

/-- The device of the change sets about one rule. -/
def haRuleDevice (cluster rule : String) : String := s!"{cluster}/ha-rule:{rule}"

/-- Action for an HA rule change. -/
structure HaRuleAction where
  op : String
  cluster : String
  rule : String
  ruleType : Option String
  resources : Option (List String)
  nodes : Option String
  affinity : Option String
  strict : Option Bool
  comment : Option String
  disable : Option Bool
  deriving DecidableEq

namespace HaRuleAction

/-- The action as a change set stores it. -/
def toJson (action : HaRuleAction) : Json :=
  .object <| presentMembers [("op", some (.string action.op)),
    ("cluster", some (.string action.cluster)), ("rule", some (.string action.rule)),
    ("rule_type", action.ruleType.map .string),
    ("resources", action.resources.map fun resources => .array (resources.map .string)),
    ("nodes", action.nodes.map .string), ("affinity", action.affinity.map .string),
    ("strict", action.strict.map .bool), ("comment", action.comment.map .string),
    ("disable", action.disable.map .bool)]

/-- Read a stored action. -/
def fromJson (value : Json) : Option HaRuleAction := do
  let field ← structFields ["op", "cluster", "rule", "rule_type", "resources", "nodes", "affinity",
    "strict", "comment", "disable"] value
  return {
    op := ← (field "op").bind Json.asStr
    cluster := ← (field "cluster").bind Json.asStr
    rule := ← (field "rule").bind Json.asStr
    ruleType := ← optionalMember Json.asStr (field "rule_type")
    resources := ← optionalMember Json.asStrings (field "resources")
    nodes := ← optionalMember Json.asStr (field "nodes")
    affinity := ← optionalMember Json.asStr (field "affinity")
    strict := ← optionalMember Json.asBool (field "strict")
    comment := ← optionalMember Json.asStr (field "comment")
    disable := ← optionalMember Json.asBool (field "disable") }

/-- A stored action is read back unchanged. -/
@[simp] theorem fromJson_toJson {action : HaRuleAction} : fromJson action.toJson = some action := by
  simp [fromJson, toJson, structFields, lookup_presentMembers, List.lookup_cons]

/-- A value without a rule is no HA rule action. -/
theorem fromJson_eq_none {members : List (String × Json)} (h : members.lookup "rule" = none) :
    fromJson (.object members) = none := by
  simp [fromJson, structFields, h]

end HaRuleAction

/-- The tool name an HA rule operation authorizes against. -/
def toolForHaOp : String → Option String
  | "create" => some "create_ha_rule"
  | "update" => some "update_ha_rule"
  | "delete" => some "delete_ha_rule"
  | _ => none

/-! ### Planning -/

section Planning

variable [Externals]

/-- `services` is an older name of `resources`; only one of them may be given. -/
def mergeResourcesAlias (args : PlanHaRuleArgs) : Except String (Option (List String)) :=
  match args.resources, args.services with
  | some _, some _ =>
    .error "give only one of 'resources' or the deprecated 'services' alias, not both"
  | some resources, none => .ok (some resources)
  | none, services => .ok services

/-- The current name of a rule type. -/
def normaliseRuleType : String → String
  | "location" => "node-affinity"
  | "colocation" => "resource-affinity"
  | other => other

/-- Validate a comma list of `node[:priority]` entries. -/
def validateNodesList (nodes : String) : Except String Unit :=
  if nodes.isEmpty then .error "nodes must name at least one node"
  else (fields nodes ',').forM fun entry => do
    let (name, priority) := match splitOnce entry ':' with
      | some (name, priority) => (name, some priority)
      | none => (entry, none)
    if name.isEmpty then
      throw s!"nodes entry '{entry}' names no node"
    (Guests.validatePathSegment name "nodes").mapError fun error =>
      s!"nodes entry '{entry}' refused: {error.toText}"
    if let some priority := priority then
      if !priority.toList.all Char.isDigit then
        throw s!"nodes entry '{entry}' has a non-numeric priority '{priority}'"

/-- Guests are kept together or apart. -/
def validateAffinity (affinity : String) : Except String Unit :=
  if affinity ≠ "positive" ∧ affinity ≠ "negative" then
    .error s!"affinity must be 'positive' or 'negative', got '{affinity}'"
  else .ok ()

/-- The type a plan declares: on creation one of the two there are, on an update none. -/
def declaredRuleType (args : PlanHaRuleArgs) (isCreate : Bool) : Except String (Option String) :=
  match isCreate, args.ruleType with
  | true, none => .error "create requires rule_type"
  | true, some ruleType =>
    let normalised := normaliseRuleType ruleType
    if normalised ≠ "node-affinity" ∧ normalised ≠ "resource-affinity" then
      .error s!"rule_type must be 'node-affinity' or 'resource-affinity', got '{ruleType}'"
    else .ok (some normalised)
  | false, some _ => .error ("update does not take rule_type; Proxmox cannot change a rule's " ++
      "type, delete and recreate it instead")
  | false, none => .ok none

/-- The resources a plan names. -/
def plannedResources (args : PlanHaRuleArgs) (isCreate : Bool) :
    Except String (Option (List String)) := do
  match ← mergeResourcesAlias args with
  | some resources =>
    if resources.isEmpty then
      throw "resources, if given, must name at least one guest"
    resources.forM fun resource => (validateServiceId resource).mapError ProxmoxError.toText
    return some resources
  | none => if isCreate then throw "create requires resources" else return none

/-- Check the fields that belong to one type of rule, when the type is known. -/
def validateTypedFields (args : PlanHaRuleArgs) : Option String → Except String Unit
  | some "node-affinity" =>
    if args.affinity.isSome then .error "a node-affinity rule does not take affinity"
    else match args.nodes with
      | none => .error "a node-affinity rule requires nodes"
      | some nodes => validateNodesList nodes
  | some _ =>
    if args.nodes.isSome then .error "a resource-affinity rule does not take nodes"
    else match args.affinity with
      | none => .error "a resource-affinity rule requires affinity"
      | some affinity => validateAffinity affinity
  | none => do
    args.nodes.forM validateNodesList
    args.affinity.forM validateAffinity

/-- An update has to name something to change. -/
def updateNamesAField (args : PlanHaRuleArgs) (resources : Option (List String)) : Bool :=
  resources.isSome || args.nodes.isSome || args.affinity.isSome || args.strict.isSome ||
    args.comment.isSome || args.disable.isSome

def buildCreateOrUpdate (args : PlanHaRuleArgs) (isCreate : Bool) : Except String HaRuleAction := do
  let ruleType ← declaredRuleType args isCreate
  let resources ← plannedResources args isCreate
  validateTypedFields args ruleType
  if !isCreate && !updateNamesAField args resources then
    throw ("update names no field to change; give at least one of resources, nodes, affinity, " ++
      "strict, comment or disable")
  return {
    op := if isCreate then "create" else "update", cluster := args.cluster, rule := args.rule
    ruleType, resources, nodes := args.nodes, affinity := args.affinity, strict := args.strict
    comment := args.comment, disable := args.disable }

def buildDelete (args : PlanHaRuleArgs) : Except String HaRuleAction := do
  [(args.ruleType, "rule_type"), (args.nodes, "nodes"), (args.affinity, "affinity")].forM
    fun (value, name) => if value.isSome then throw s!"delete does not take {name}" else return ()
  if args.resources.isSome || args.services.isSome then
    throw "delete does not take resources"
  return {
    op := "delete", cluster := args.cluster, rule := args.rule, ruleType := none
    resources := none, nodes := none, affinity := none, strict := none, comment := none
    disable := none }

/-- Build and validate the action an HA rule plan will record. -/
def buildHaRuleAction (args : PlanHaRuleArgs) : Except String HaRuleAction := do
  (Guests.validatePathSegment args.rule "rule").mapError fun error =>
    s!"rule id refused: {error.toText}"
  match args.op with
  | "create" => buildCreateOrUpdate args true
  | "update" => buildCreateOrUpdate args false
  | "delete" => buildDelete args
  | other => throw s!"unknown HA rule operation '{other}'; expected one of create, update, delete"

end Planning

/-! ### The guests of a rule -/

section GuestsTouched

variable [Externals]

/-- The service ids a rule lists, under the current or the older field name. -/
def listedServices (rule : String) (existing : Json) : Except String (List String) :=
  match (existing.get "resources").or (existing.get "services") with
  | some (.string list) => .ok (((fields list ',').map trim).filter fun entry => !entry.isEmpty)
  | some (.array entries) => entries.mapM fun entry => match entry.asStr with
      | some entry => .ok (trim entry)
      | none =>
        .error s!"HA rule '{rule}' lists a non-string resource {Externals.encodeJson entry}"
  | some .null | none => .ok []
  | some other =>
    .error s!"HA rule '{rule}' has an unreadable resource list {Externals.encodeJson other}"

/-- The vmid of a service id. -/
def serviceVmid (service : String) : Except String UInt32 := do
  (validateServiceId service).mapError ProxmoxError.toText
  match (splitOnce service ':').bind fun parts => parseU32 parts.2 with
  | some vmid => return vmid
  | none => throw s!"service '{service}' names a vmid out of range"

/-- The vmids an HA rule change touches, each once and in order: those the action names and those
the rule currently names. -/
def guestsTouched (action : HaRuleAction) (existing : Option Json) :
    Except String (List UInt32) := do
  let listed ← match existing with
    | some rule => listedServices action.rule rule
    | none => .ok []
  let vmids ← (action.resources.getD [] ++ listed).mapM serviceVmid
  return (vmids.mergeSort (· ≤ ·)).dedup

end GuestsTouched

/-- The operation-required fields an action does not carry. -/
def missingRequiredHaFields (action : HaRuleAction) : List String :=
  if action.op = "create" then
    (if action.ruleType.isNone then ["rule_type"] else []) ++
      (if (action.resources.getD []).isEmpty then ["resources"] else []) ++
      match action.ruleType with
      | some "node-affinity" => if action.nodes.isNone then ["nodes"] else []
      | some "resource-affinity" => if action.affinity.isNone then ["affinity"] else []
      | _ => []
  else []

/-! ### Previews -/

section Previews

variable [Externals]

/-- Every field an action sets, one line for each; a comment is redacted. -/
def renderProposedFields (action : HaRuleAction) : String :=
  let line (name : String) (value : Option String) : List String :=
    (value.map fun value => s!"  {name}: {value}").toList
  "\n".intercalate <| line "type" action.ruleType ++
    line "resources" (action.resources.map fun resources => ", ".intercalate resources) ++
    line "nodes" action.nodes ++ line "affinity" action.affinity ++
    line "strict" (action.strict.map toString) ++ line "disable" (action.disable.map toString) ++
    line "comment" (action.comment.map Externals.redactText)

/-- Render the preview an approver reviews for one HA rule action. -/
def renderHaRulePreview (action : HaRuleAction) (existing : Option Json) : String :=
  let target := s!"HA rule '{action.rule}' on cluster '{action.cluster}'"
  let proposed := renderProposedFields action
  let current := (existing.map Externals.encodeJson).getD "(unknown)"
  match action.op with
  | "create" => s!"CREATE {target}\n{proposed}"
  | "update" => s!"UPDATE {target}\n  This changes cluster-wide guest placement policy.\n" ++
      s!"Proposed change:\n{proposed}\n  Current definition: {current}"
  | "delete" => s!"DELETE {target}\n  Removes the placement/affinity policy for the guests it " ++
      s!"names. Current definition: {current}"
  | other => s!"UNKNOWN OPERATION '{other}' on {target}"

end Previews

/-! ### Writing a rule -/

section Writing

variable [Externals]

open Interaction Program ProxmoxError

/-- The fields an action writes, under a rule type. -/
def HaRuleAction.fields (action : HaRuleAction) (ruleType : String) : HaRuleFields :=
  ⟨ruleType, action.resources.getD [], action.nodes, action.affinity, action.strict, action.comment,
    action.disable⟩

/-- Send the write of a rule; an update carries the digest of the rule as it was read. -/
def writeHaRule (client : ProxmoxClient) (action : HaRuleAction) (existing : Option Json) :
    ClientM Unit :=
  match action.op with
  | "create" => createRule client action.rule (action.fields (action.ruleType.getD ""))
  | "update" => updateRule client action.rule (action.fields "")
      (existing.bind fun rule => rule.getStr "digest")
  | "delete" => deleteRule client action.rule
  | other => throw (malformed s!"unknown HA rule operation '{other}'")

end Writing

end ProxmoxMcp
