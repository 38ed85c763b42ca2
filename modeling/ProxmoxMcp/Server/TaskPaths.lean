import ProxmoxMcp.Core.VolumePaths
import ProxmoxMcp.Server.Recover

/-!
# The paths of a task

A task is addressed in two ways. The poll that follows an apply, and the recovery after a restart,
ask for its status by a path in which only the colons of the handle are escaped. Stopping it goes by
a path in which every character of the handle is encoded. `AddressesTask` says that both are read
back as the resource of the task on the node in its handle.

`Upid.parse` looks at nothing but the fields of a handle. So the status path is that resource for
the handles which are **plain**, and for no others (`addressesTask_iff`): a slash, a question mark,
a number sign or a triplet in the handle makes another resource of it, and so does a node that
navigates.
-/

namespace ProxmoxMcp

open Interaction Program Text Percent

/-- The tasks of a node. -/
def tasksOf (node : String) : List String := ["", "api2", "json", "nodes", node, "tasks"]

/-- The operation sends no request, or one to the resource. -/
def SendsOnlyTo (resource : List String) (op : Op) : Prop :=
  ∀ name request, op = .http (.dispatch name request) → Addresses request.pathTemplate resource

/-- The operation sends no request, or the given one. -/
def SendsOnly (request : ApiRequest) (op : Op) : Prop :=
  ∀ name request', op = .http (.dispatch name request') → request' = request

section Property

variable [Externals]

/-- **A handle addresses its task**: the status of it is asked for at the task, and wherever it can
be stopped the stop goes to the same task. -/
structure AddressesTask (upid : String) (task : Upid) : Prop where
  status : Addresses (statusRequest task.node upid).pathTemplate
    (tasksOf task.node ++ [upid, "status"])
  stop : ∀ client node h, upidNode upid = some node → Ensures
    (fun _ => SendsOnlyTo (tasksOf task.node ++ [upid])) (fun _ _ => True) h
    (Guests.stopTask client node upid)

/-- The expander **fills in a node** that is one segment as it stands: the path it makes of the
template has no query and no fragment, and addresses the tasks of the node. -/
def FillsNode : Prop :=
  ∀ node path, Clean node →
    Externals.expandPath "/api2/json/nodes/{node}/tasks" [("node", node)] = .ok path →
      '?' ∉ path.toList ∧ '#' ∉ path.toList ∧ Addresses path (tasksOf node)

end Property

/-- A handle that is one segment as it stands, but for its colons, on a node that does not
navigate. -/
structure PlainHandle (upid : String) (task : Upid) : Prop where
  clean : Clean upid
  node : task.node ≠ "." ∧ task.node ≠ ".."

private theorem plainHandle_iff {upid : String} {task : Upid} :
    PlainHandle upid task ↔ Clean upid ∧ task.node ≠ "." ∧ task.node ≠ ".." :=
  ⟨fun h => ⟨h.clean, h.node⟩, fun h => ⟨h.1, h.2⟩⟩

instance (upid : String) (task : Upid) : Decidable (PlainHandle upid task) :=
  decidable_of_iff _ plainHandle_iff.symm

/-! ### The node of a handle -/

private theorem node_of_parse {upid : String} {task : Upid} (h : Upid.parse upid = .ok task) :
    ∃ others, fields upid ':' = "UPID" :: task.node :: others := by
  rw [Upid.parse] at h
  split at h
  · next hfields =>
    split_ifs at h with hbad
    obtain rfl := Except.ok.inj h
    rw [not_or, not_not] at hbad
    exact ⟨_, hbad.1 ▸ hfields⟩
  · cases h

/-- The node of a task is a part of its handle without colons. -/
private theorem node_mem_fields {upid : String} {task : Upid} (h : Upid.parse upid = .ok task) :
    task.node ∈ fields upid ':' := by
  obtain ⟨others, hfields⟩ := node_of_parse h
  rw [hfields]
  simp

/-- The node a stop is sent to is the one that is polled. -/
private theorem eq_node_of_upidNode {upid node : String} {task : Upid}
    (h : Upid.parse upid = .ok task) (hnode : upidNode upid = some node) : node = task.node := by
  obtain ⟨others, hfields⟩ := node_of_parse h
  simp only [upidNode, hfields] at hnode
  split_ifs at hnode
  exact (Option.some.inj hnode).symm

/-- A handle is no navigation. -/
private theorem ne_navigation_of_parse {upid : String} {task : Upid}
    (h : Upid.parse upid = .ok task) :
    "." ≠ upid ∧ ".." ≠ upid := by
  have hbad : ∀ text ∈ [".", ".."], Upid.parse text = .error (.malformedUpid text) := by decide
  constructor
  · rintro rfl
    rw [hbad "." (by simp)] at h
    cases h
  · rintro rfl
    rw [hbad ".." (by simp)] at h
    cases h

/-! ### The status path -/

/-- A colon is escaped as `%3A`. -/
def colonEscape : Escape where
  char := ':'
  high := '3'
  low := 'A'
  ne_percent := by decide
  hexValue_char := by decide
  isSegmentChar_char := by decide
  isSome_high := by decide
  isSome_low := by decide
  decode_written := by decide

private theorem statusRequest_path (node upid : String) :
    (statusRequest node upid).pathTemplate.toList =
      "".toList ++ '/' :: ("api2".toList ++ '/' :: ("json".toList ++ '/' :: ("nodes".toList ++
        '/' :: (node.toList ++ '/' :: ("tasks".toList ++ '/' :: (colonEscape.write upid.toList ++
          '/' :: "status".toList)))))) := by
  have hescaped : ("%3A".intercalate (fields upid ':')).toList = colonEscape.write upid.toList := by
    have hlists : (fields upid ':').map String.toList = upid.toList.splitOn ':' := by
      rw [fields, List.map_map]
      exact List.map_id'' (fun chars => String.toList_ofList) _
    rw [String.toList_intercalate, hlists]
    exact colonEscape.intercalate_splitOn upid.toList
  have hpath : (statusRequest node upid).pathTemplate = "/api2/json/nodes/" ++ node ++ "/tasks/" ++
      "%3A".intercalate (fields upid ':') ++ "/status" := rfl
  rw [hpath]
  simp only [String.toList_append, hescaped]
  simp

/-- Where a status path leads. -/
private theorem readPath_statusRequest_iff {node upid : String} (hnode : ':' ∉ node.toList) :
    readPath (statusRequest node upid).pathTemplate = some (tasksOf node ++ [upid, "status"]) ↔
      Clean node ∧ Clean upid := by
  -- a text without colons is written as it stands
  have hplain {text : String} {others : List String} {y : List Char} (h : ':' ∉ text.toList) :
      readSegments (text.toList ++ '/' :: y) = some (text :: others) ↔
        Clean text ∧ readSegments y = some others := by
    have hiff := @Escape.readSegments_write_iff colonEscape text others y
    rwa [Escape.write_of_notMem (show colonEscape.char ∉ text.toList from h)] at hiff
  have hstatus : readSegments "status".toList = some ["status"] := by decide
  rw [readPath, statusRequest_path]
  simp only [tasksOf, List.cons_append, List.nil_append]
  rw [hplain (by decide), hplain (by decide), hplain (by decide), hplain (by decide), hplain hnode,
    hplain (by decide), Escape.readSegments_write_iff, hstatus]
  have hfixed : Clean "" ∧ Clean "api2" ∧ Clean "json" ∧ Clean "nodes" ∧ Clean "tasks" := by decide
  simp [hfixed]

/-- A handle in a status path is read back there exactly when it is plain. -/
theorem addresses_statusRequest_iff {upid : String} {task : Upid}
    (hparse : Upid.parse upid = .ok task) :
    Addresses (statusRequest task.node upid).pathTemplate (tasksOf task.node ++ [upid, "status"]) ↔
      PlainHandle upid task := by
  have hmem := node_mem_fields hparse
  have hpath := @readPath_statusRequest_iff task.node upid (notMem_of_mem_fields hmem)
  have hnavigation := ne_navigation_of_parse hparse
  constructor
  · rintro ⟨hreads, hstays⟩
    refine ⟨(hpath.mp hreads).2, ?_⟩
    constructor
    · rintro heq
      simp [tasksOf, heq] at hstays
    · rintro heq
      simp [tasksOf, heq] at hstays
  · rintro ⟨hclean, hdot, hdots⟩
    refine ⟨hpath.mpr ⟨hclean.of_isInfix (isInfix_of_mem_fields hmem), hclean⟩, ?_⟩
    simp [tasksOf, hdot.symm, hdots.symm, hnavigation]

section Requests

variable [Externals] {h : History Effect}

/-- A task can be stopped only by the path of it, when the node is filled in. -/
private theorem ensures_stopTask_sendsOnlyTo (hfill : FillsNode) {client : ProxmoxClient}
    {node upid : String} (hnode : Clean node) (hupid : upid ≠ "." ∧ upid ≠ "..") :
    Ensures (fun _ => SendsOnlyTo (tasksOf node ++ [upid])) (fun _ _ => True) h
      (Guests.stopTask client node upid) := by
  refine Ensures.ensure fun _ => Ensures.ensure fun _ => Ensures.ensure fun _ =>
    Ensures.ensure fun _ => Ensures.liftExcept fun expanded hexpand => ?_
  obtain ⟨hquery, hfragment, haddresses⟩ := hfill _ _ hnode (eq_ok_of_mapError hexpand)
  refine (Guests.always_send ?_ fun ticket => ?_).ensures fun _ _ _ => trivial
  · rintro name request ⟨⟩
    exact haddresses.append_percentEncode hquery hfragment hupid
  · rintro name request ⟨⟩

private theorem always_send_sendsOnly {client : ProxmoxClient} {request : ApiRequest} :
    Always (fun _ => SendsOnly request) (fun _ _ => True) h (client.send request).run := by
  refine (Guests.always_send ?_ fun ticket => ?_).mono (fun _ _ hop => hop) fun _ _ _ => trivial
  · rintro name request' ⟨⟩
    rfl
  · rintro name request' ⟨⟩

/-- A poll sends the status request, and nothing else. -/
private theorem ensures_pollTask_sendsOnly {client : ProxmoxClient} {node upid : String}
    (fuel attempts : ℕ) :
    Ensures (fun _ => SendsOnly (statusRequest node upid)) (fun _ _ => True) h
      (pollTask client node upid fuel attempts) := by
  induction fuel generalizing attempts h with
  | zero => exact ensures_throw
  | succ fuel ih =>
    have hprobe : Ensures (fun _ => SendsOnly (statusRequest node upid)) (fun _ _ => True) h
        (probeTask client node upid) := by
      refine Ensures.bind (R := fun _ _ => True) (ensures_mapError.mpr
        (always_send_sendsOnly.ensures fun _ _ _ => trivial)) (fun _ _ hop => hop)
        fun _ data _ _ => ?_
      exact ensures_liftExcept.mpr fun _ _ => trivial
    refine Ensures.bind (ensures_mapError.mpr hprobe) (fun _ _ hop => hop)
      fun h' exitstatus _ _ => ?_
    cases exitstatus with
    | some exitstatus => exact ensures_pure.mpr trivial
    | none =>
      refine Ensures.request (fun _ _ heq => by cases heq) fun decision => ?_
      cases decision with
      | again => exact ih _
      | deadlineExceeded => exact ensures_throw
      | cancelled => exact ensures_throw

/-- A recovery sends for a record the status request of its task, and nothing else. -/
private theorem ensures_recoverRecord_sendsOnly {server : ProxmoxServer} {record : ChangeSet}
    {upid : String}
    {task : Upid} (hhandle : record.taskId = some upid) (hparse : Upid.parse upid = .ok task) :
    Ensures (fun _ => SendsOnly (statusRequest task.node upid)) (fun _ _ => True) h
      (server.recoverRecord record) := by
  refine ensures_recoverRecord_of_sends (fun client task' upid' hflight _ => ?_) fun _ op hop => ?_
  · obtain ⟨-, hhandle', hparse', -⟩ := inFlight_eq_some hflight
    obtain rfl := Option.some.inj (hhandle.symm.trans hhandle')
    obtain rfl := Except.ok.inj (hparse.symm.trans hparse')
    rintro _ _ ⟨⟩
    rfl
  · exact fun name request heq => absurd heq (hop name request)

/-- A plain handle addresses its task, and no other does. -/
private theorem addressesTask_of_plainHandle (hfill : FillsNode) {upid : String} {task : Upid}
    (hparse : Upid.parse upid = .ok task) (hplain : PlainHandle upid task) :
    AddressesTask upid task := by
  refine ⟨(addresses_statusRequest_iff hparse).mpr hplain, fun client node h hnode => ?_⟩
  obtain rfl := eq_node_of_upidNode hparse hnode
  have hnavigation := ne_navigation_of_parse hparse
  have hclean : Clean task.node :=
    hplain.clean.of_isInfix (isInfix_of_mem_fields (node_mem_fields hparse))
  exact ensures_stopTask_sendsOnlyTo hfill hclean ⟨hnavigation.1.symm, hnavigation.2.symm⟩

/-- **The paths of a task.** Polling a task and recovering a record send nothing but the status
request of the handle. That request, and the stop of the task, address the task of the handle
exactly when the handle is plain. -/
theorem addressesTask_iff (hfill : FillsNode) {upid : String} {task : Upid}
    (hparse : Upid.parse upid = .ok task) :
    (∀ client h, Ensures (fun _ => SendsOnly (statusRequest task.node upid)) (fun _ _ => True) h
      (pollProxmoxTask client task.node upid)) ∧
    (∀ (server : ProxmoxServer) record h, record.taskId = some upid →
      Ensures (fun _ => SendsOnly (statusRequest task.node upid)) (fun _ _ => True) h
        (server.recoverRecord record)) ∧
    (AddressesTask upid task ↔ PlainHandle upid task) :=
  ⟨fun _ _ => ensures_pollTask_sendsOnly 300 0,
    fun _ _ _ hhandle => ensures_recoverRecord_sendsOnly hhandle hparse,
    fun haddresses => (addresses_statusRequest_iff hparse).mp haddresses.status,
    addressesTask_of_plainHandle hfill hparse⟩

end Requests

/-! ### A handle with a slash -/

/-- An expander that fills in templates fills in a node. -/
theorem FillsIn.fillsNode [Externals] (h : FillsIn) : FillsNode := by
  intro node path _ hpath
  have hplain : ∀ segment ∈ fields "/api2/json/nodes/{node}/tasks" '/',
      Clean segment ∧ segment ∉ [".", ".."] := by decide
  have hfilled : filledSegments "/api2/json/nodes/{node}/tasks" [("node", node)] =
      tasksOf node := by
    have hfields : fields "/api2/json/nodes/{node}/tasks" '/' =
        ["", "api2", "json", "nodes", "{node}", "tasks"] := by decide
    rw [filledSegments, hfields]
    simp [tasksOf]
  exact hfilled ▸ h.filled hplain hpath

/-- The handle of a download names a volume, slash and all. -/
def slashHandle : String := "UPID:pve1:0001:0002:5F:download:local/iso:root@pam:"

theorem addressesTask_iff_started :
    @AddressesTask Externals.filling "UPID:pve1:0001:0002:5F:qmstart:100:root@pam:"
      ⟨"pve1", "qmstart", "100"⟩ :=
  let _ : Externals := Externals.filling
  (addressesTask_iff (@FillsIn.fillsNode Externals.filling fillsIn_filling) (by decide)).2.2.mpr
    (by decide)

/-- A handle with a slash in it is accepted, and does not address its task. -/
theorem not_addressesTask_slash :
    Upid.parse slashHandle = .ok ⟨"pve1", "download", "local/iso"⟩ ∧
      ¬ @AddressesTask Externals.filling slashHandle ⟨"pve1", "download", "local/iso"⟩ := by
  have hparse : Upid.parse slashHandle = .ok ⟨"pve1", "download", "local/iso"⟩ := by decide
  refine ⟨hparse, fun haddresses => ?_⟩
  have hplain := (addresses_statusRequest_iff hparse).mp
    (@AddressesTask.status Externals.filling _ _ haddresses)
  revert hplain
  decide

end ProxmoxMcp
