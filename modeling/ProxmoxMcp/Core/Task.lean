import ProxmoxMcp.Text

/-!
# Task handles

Most changes of a cluster run as a task, named by a UPID
`UPID:<node>:<pid>:<pstart>:<starttime>:<type>:<id>:<user>:`. The **node** in it is the one that is
polled, and only the exit status `OK` is a success.
-/

namespace ProxmoxMcp

open Text

/-- A parsed UPID. -/
structure Upid where
  node : String
  kind : String
  id : String
  deriving DecidableEq

/-- Errors from task handles. -/
inductive TaskError where
  | malformedUpid (upid : String)
  deriving DecidableEq

def TaskError.toText : TaskError → String
  | malformedUpid upid => s!"malformed UPID: {upid}"

/-- Parse a UPID: nine or more fields, the first of them `UPID`, with a node, a type and an id. -/
def Upid.parse (upid : String) : Except TaskError Upid :=
  match fields upid ':' with
  | tag :: node :: _ :: _ :: _ :: kind :: id :: _ :: _ :: _ =>
    if tag ≠ "UPID" ∨ node.isEmpty ∨ kind.isEmpty ∨ id.isEmpty then .error (.malformedUpid upid)
    else .ok ⟨node, kind, id⟩
  | _ => .error (.malformedUpid upid)

/-- The outcome of a completed task. -/
inductive TaskOutcome where
  | ok
  | failed (status : String)
  deriving DecidableEq

/-- Only the exact text `OK` is a success. -/
def classifyExitStatus (status : String) : TaskOutcome :=
  if status = "OK" then .ok else .failed status

@[simp] theorem classifyExitStatus_eq_ok {status : String} :
    classifyExitStatus status = .ok ↔ status = "OK" := by
  simp [classifyExitStatus]

/-- Whether stopping a task would leave a guest half written; unreadable handles count as such. -/
def stoppingTaskLeavesPartialState (upid : String) : Bool :=
  match (fields upid ':')[5]? with
  | none => true
  | some workerType => workerType.isEmpty || ["qmrestore", "vzrestore", "qmdestroy", "vzdestroy",
      "qmrollback", "vzrollback"].contains workerType

/-- The node of a handle, when it is usable as a path segment. -/
def upidNode (upid : String) : Option String :=
  match fields upid ':' with
  | "UPID" :: node :: _ =>
    if node.isEmpty || node.toList.any fun c => isControl c || c == '/' then none else some node
  | _ => none

/-- The guest a task works on, when its type is a guest's. -/
def taskGuest (upid : String) : Option UInt32 := do
  let kind ← (fields upid ':')[5]?
  guard (startsWith kind "qm" || startsWith kind "vz")
  parseU32 (← (fields upid ':')[6]?)

end ProxmoxMcp
