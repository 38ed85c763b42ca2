import ProxmoxMcp.Core.Guests

/-!
# HA rules

An HA rule is cluster configuration: it is read and written in one request each, without a task. A
rule is **absent** when the cluster answers 404, or 500 with a message that names this very rule as
missing.
-/

namespace ProxmoxMcp

open Interaction Program Text ProxmoxError Guests

variable [Externals]

/-- Whether an error message names the rule as missing. -/
def isNoSuchRule (message rule : String) : Bool :=
  contains (toAsciiLowercase message) s!"no such ha rule '{toAsciiLowercase rule}'"

def fetchRuleRequest (rule : String) : ApiRequest :=
  ⟨.get, "/api2/json/cluster/ha/rules/{rule}", [("rule", rule)], [], []⟩

/-- What the answer to a request for a rule says about it. -/
def readRule (rule : String) : Except ProxmoxError Json → Except ProxmoxError (Option Json)
  | .ok value => .ok (some value)
  | .error (.api status message) =>
    if status = 404 ∨ status = 500 ∧ isNoSuchRule message rule then .ok none
    else .error (.api status message)
  | .error error => .error error

/-- Fetch one rule's current body, if it exists. -/
def fetchRule (client : ProxmoxClient) (rule : String) : ClientM (Option Json) := do
  liftM (readRule rule (← attempt (client.send (fetchRuleRequest rule))))

/-- Fields shared by the creation and the update of a rule. -/
structure HaRuleFields where
  ruleType : String
  resources : List String
  nodes : Option String
  affinity : Option String
  strict : Option Bool
  comment : Option String
  disable : Option Bool
  deriving DecidableEq

/-- The optional fields of a rule, as the form carries them. -/
def HaRuleFields.optionalFields (fields : HaRuleFields) : List (String × String) :=
  (fields.nodes.map fun nodes => ("nodes", nodes)).toList ++
    (fields.affinity.map fun affinity => ("affinity", affinity)).toList ++
    (fields.strict.map fun strict => ("strict", flag strict)).toList ++
    optionalField "comment" fields.comment ++
    (fields.disable.map fun disable => ("disable", flag disable)).toList

def createRuleRequest (rule : String) (fields : HaRuleFields) : ApiRequest :=
  ⟨.post, "/api2/json/cluster/ha/rules", [], [],
    [("rule", rule), ("type", fields.ruleType), ("resources", ",".intercalate fields.resources)] ++
      fields.optionalFields⟩

def createRule (client : ProxmoxClient) (rule : String) (fields : HaRuleFields) :
    ClientM Unit := do
  let _ ← client.send (createRuleRequest rule fields)

/-- The fields an update sends: those it names, and the digest of the rule as it was read. -/
def updateForm (fields : HaRuleFields) (digest : Option String) : List (String × String) :=
  (if fields.resources.isEmpty then [] else [("resources", ",".intercalate fields.resources)]) ++
    fields.optionalFields ++ (digest.map fun digest => ("digest", digest)).toList

def updateRuleRequest (rule : String) (fields : HaRuleFields) (digest : Option String) :
    ApiRequest :=
  ⟨.put, "/api2/json/cluster/ha/rules/{rule}", [("rule", rule)], [], updateForm fields digest⟩

def updateRule (client : ProxmoxClient) (rule : String) (fields : HaRuleFields)
    (digest : Option String) : ClientM Unit := do
  ensure (!(updateForm fields digest).isEmpty) (malformed "update names no field to change")
  let _ ← client.send (updateRuleRequest rule fields digest)

def deleteRuleRequest (rule : String) : ApiRequest :=
  ⟨.delete, "/api2/json/cluster/ha/rules/{rule}", [("rule", rule)], [], []⟩

def deleteRule (client : ProxmoxClient) (rule : String) : ClientM Unit := do
  let _ ← client.send (deleteRuleRequest rule)

/-- Check that a service id is `vm:<digits>` or `ct:<digits>`. -/
def validateServiceId (service : String) : Except ProxmoxError Unit := do
  let some (kind, id) := splitOnce service ':'
    | throw (malformed s!"service '{service}' is not in vm:<vmid> or ct:<vmid> form")
  if kind ≠ "vm" ∧ kind ≠ "ct" then
    throw (malformed s!"service '{service}' has prefix '{kind}', expected 'vm' or 'ct'")
  if id.isEmpty ∨ ¬ id.toList.all Char.isDigit then
    throw (malformed s!"service '{service}' does not name a numeric vmid")

end ProxmoxMcp
