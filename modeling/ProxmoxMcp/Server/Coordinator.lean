import ProxmoxMcp.Server.Calls

/-!
# The change-set coordinator

The coordinator is a package of its own: it keeps the change-set records, and keeps them across a
restart. `Coordinator` is one with any store, `Coordinator.Lawful` what the server counts on: a read
answers with what is stored, a record changes by the operations made for that and by no other, and
**claiming** takes an approved record to applying in one step, for good.

`Coordinator.inMemory` is a coordinator that keeps its records in a list.
-/

namespace ProxmoxMcp

/-- A store of change-set records. -/
structure Coordinator where
  State : Type
  /-- The stores a run may begin with. -/
  Initial : State → Prop
  /-- The record stored under an id. -/
  find : State → String → Option ChangeSet
  /-- The record's approval has been spent, or the record is settled. -/
  Spent : State → String → Prop
  Step : State → (op : CoordinatorOp) → op.Reply → State → Prop

/-- Whether a record has been claimed or settled. -/
def ChangeSetState.isSpent : ChangeSetState → Bool
  | applying | applied | failed => true
  | planned | approved | other _ => false

/-- The record an operation leaves under an id that had `old`, when it writes there. -/
inductive CoordinatorOp.Writes (old : Option ChangeSet) :
    (op : CoordinatorOp) → op.Reply → ChangeSet → Prop
  | created {device owner fingerprint policy : String} {actions : List Json}
      {output : ChangeSetOutput} {record : ChangeSet} (absent : old = none)
      (id : record.id = output.changeSetId) (device_eq : record.device = device)
      (actions_eq : record.actions = actions) (owner_eq : record.owner = owner)
      (fingerprint_eq : record.expectedCandidateFingerprint = fingerprint)
      (planned : record.state = .planned) (bare : record.preview = none ∧ record.taskId = none) :
      Writes old (.createChangeSet device actions owner fingerprint policy) (.ok output) record
  | updated {record : ChangeSet} : Writes old (.updateChangeSet record) (.ok ()) record
  | approved {id device approver digest : String} {output : ChangeSetOutput} {record : ChangeSet}
      (stored : old = some record) (id_eq : record.id = id) (device_eq : record.device = device)
      (other : approver ≠ record.owner) (same : digest = record.digest) :
      Writes old (.approveChangeSet id device approver digest .human) (.ok output)
        { record with state := .approved }
  | waived {id device owner digest : String} {output : ChangeSetOutput} {record : ChangeSet}
      (stored : old = some record) (id_eq : record.id = id) (device_eq : record.device = device)
      (same : digest = record.digest) :
      Writes old (.waiveApproval id device owner digest) (.ok output)
        { record with state := .approved }
  | claimed {id device : String} {record : ChangeSet} (stored : old = some record)
      (id_eq : record.id = id) (device_eq : record.device = device)
      (approved : record.state = .approved) :
      Writes old (.claimChangeSetForApply id device) (.ok { record with state := .applying })
        { record with state := .applying }

namespace Coordinator

/-- What the server counts on. -/
structure Lawful (coordinator : Coordinator) : Prop where
  empty : ∀ {state id}, coordinator.Initial state → coordinator.find state id = none
  id_of_find : ∀ {state id record}, coordinator.find state id = some record → record.id = id
  read : ∀ {state id device record state'},
    coordinator.Step state (.changeSet id device) (.ok record) state' →
      coordinator.find state id = some record ∧ record.device = device
  listed : ∀ {state state' record} {records : List ChangeSet},
    coordinator.Step state .changeSets records state' → record ∈ records →
      coordinator.find state record.id = some record
  writes : ∀ {state op reply state' id record}, coordinator.Step state op reply state' →
    coordinator.find state' id = some record →
      coordinator.find state id = some record ∨ op.Writes (coordinator.find state id) reply record
  /-- Claiming takes an approved record to applying, and fails in every other state. -/
  claims : ∀ {state id device claimed state'},
    coordinator.Step state (.claimChangeSetForApply id device) (.ok claimed) state' →
      ∃ record, coordinator.find state id = some record ∧ record.device = device ∧
        record.state = .approved ∧ claimed = { record with state := .applying } ∧
        coordinator.find state' id = some claimed
  /-- A write that succeeds is kept. -/
  stores : ∀ {state record state'},
    coordinator.Step state (.updateChangeSet record) (.ok ()) state' →
      coordinator.find state' record.id = some record
  settled : ∀ {state id record}, coordinator.find state id = some record → record.state.isSpent →
    coordinator.Spent state id
  spent : ∀ {state op reply state' id}, coordinator.Step state op reply state' →
    coordinator.Spent state id → coordinator.Spent state' id
  /-- A claimed or settled record never returns to approved. -/
  unapproved : ∀ {state id record}, coordinator.Spent state id →
    coordinator.find state id = some record → record.state ≠ .approved

/-- The ids a coordinator has given out: it gives none twice. -/
structure Ids (coordinator : Coordinator) where
  Used : coordinator.State → String → Prop
  found : ∀ {state id record}, coordinator.find state id = some record → Used state id
  created : ∀ {state device actions owner fingerprint policy output state'},
    coordinator.Step state (.createChangeSet device actions owner fingerprint policy) (.ok output)
      state' → ¬ Used state output.changeSetId ∧ Used state' output.changeSetId
  kept : ∀ {state op reply state' id}, coordinator.Step state op reply state' → Used state id →
    Used state' id

end Coordinator

/-! ### A coordinator in memory -/

/-- Records, no two with one id. -/
structure RecordList where
  records : List ChangeSet
  nodup : (records.map ChangeSet.id).Nodup

namespace RecordList

def empty : RecordList := ⟨[], List.nodup_nil⟩

def find (list : RecordList) (id : String) : Option ChangeSet :=
  list.records.find? fun record => record.id == id

/-- Put a record in the place of the one with its id. -/
def put (list : RecordList) (record : ChangeSet) : RecordList where
  records := list.records.map fun old => if old.id = record.id then record else old
  nodup := by
    have hids : (list.records.map fun old => if old.id = record.id then record else old).map
        ChangeSet.id = list.records.map ChangeSet.id := by
      rw [List.map_map]
      refine List.map_congr_left fun old _ => ?_
      by_cases hid : old.id = record.id <;> simp [hid]
    rw [hids]
    exact list.nodup

theorem id_of_find {list : RecordList} {id : String} {record : ChangeSet}
    (h : list.find id = some record) : record.id = id := by
  have hfound := List.find?_some h
  exact beq_iff_eq.mp hfound

private theorem find_eq_some_iff {list : RecordList} {record : ChangeSet} :
    list.find record.id = some record ↔ record ∈ list.records := by
  constructor
  · exact List.mem_of_find?_eq_some
  · intro hmem
    cases hfind : list.find record.id with
    | none => simpa using List.find?_eq_none.mp hfind record hmem
    | some other =>
      have hother : other ∈ list.records := List.mem_of_find?_eq_some hfind
      rw [List.inj_on_of_nodup_map list.nodup hother hmem (id_of_find hfind)]

private theorem find_put {list : RecordList} {record old : ChangeSet} {id : String}
    (hold : list.find record.id = some old) :
    (list.put record).find id = if id = record.id then some record else list.find id := by
  have hsame : (fun old : ChangeSet => (if old.id = record.id then record else old).id == id) =
      fun old => old.id == id := by
    funext old
    by_cases hid : old.id = record.id <;> simp [hid]
  have hfind : (list.put record).find id =
      (list.find id).map fun old => if old.id = record.id then record else old := by
    simp only [find, put, List.find?_map, Function.comp_def, hsame]
  rw [hfind]
  split_ifs with hid
  · rw [hid, hold, Option.map_some, if_pos (id_of_find hold)]
  · cases hother : list.find id with
    | none => rfl
    | some other => rw [Option.map_some, if_neg (id_of_find hother ▸ hid)]

/-- Put a record in that has an id of its own. -/
def add (list : RecordList) (record : ChangeSet) (habsent : list.find record.id = none) :
    RecordList where
  records := record :: list.records
  nodup := by
    refine List.nodup_cons.mpr ⟨fun hmem => ?_, list.nodup⟩
    obtain ⟨other, hother, hid⟩ := List.mem_map.mp hmem
    simpa [hid] using List.find?_eq_none.mp habsent other hother

private theorem find_add {list : RecordList} {record : ChangeSet} {id : String}
    {habsent : list.find record.id = none} :
    (list.add record habsent).find id = if id = record.id then some record else list.find id := by
  rw [find, add, List.find?_cons]
  by_cases hid : id = record.id
  · simp [hid]
  · rw [beq_false_of_ne (Ne.symm hid), if_neg hid, find]

private theorem find_add_self {list : RecordList} {record : ChangeSet}
    {habsent : list.find record.id = none} :
    (list.add record habsent).find record.id = some record :=
  find_add.trans (if_pos rfl)

/-- A record of a device, in the state an operation starts from. -/
def demand (list : RecordList) (id device : String) (allowed : ChangeSet → Bool) :
    Except String ChangeSet :=
  match list.find id with
  | some record => if record.device = device ∧ allowed record then .ok record else .error "refused"
  | none => .error "unknown change set"

private theorem demand_eq_ok {list : RecordList} {id device : String} {allowed : ChangeSet → Bool}
    {record : ChangeSet} (h : list.demand id device allowed = .ok record) :
    list.find id = some record ∧ record.device = device ∧ allowed record := by
  rw [demand] at h
  split at h
  · next found hfound =>
    split_ifs at h with hallowed
    obtain rfl := Except.ok.inj h
    exact ⟨hfound, hallowed⟩
  · cases h

/-- Move a record on to another state, and answer with it. -/
def move (list : RecordList) (record : Except String ChangeSet) (state : ChangeSetState) :
    Except String ChangeSet × RecordList :=
  match record with
  | .ok record => (.ok { record with state }, list.put { record with state })
  | .error error => (.error error, list)

/-- What an approval or a waiver answers. -/
def output (record : ChangeSet) : ChangeSetOutput := ⟨record.id, record.state, record.digest⟩

/-- The answer to an operation and what it leaves; a new record gets the id `fresh`. -/
def perform (list : RecordList) (fresh : String) (hfresh : list.find fresh = none) :
    (op : CoordinatorOp) → op.Reply × RecordList
  | .changeSet id device => (list.demand id device fun _ => true, list)
  | .changeSets => (list.records, list)
  | .createChangeSet device actions owner fingerprint policy =>
    let record : ChangeSet := {
      id := fresh, device, actions, owner, expectedCandidateFingerprint := fingerprint
      policySignature := policy, digest := fingerprint, state := .planned, preview := none
      taskId := none }
    (.ok (output record), list.add record hfresh)
  | .updateChangeSet record =>
    match list.find record.id with
    | some old =>
      if old.state.isSpent && !record.state.isSpent then (.error "refused", list)
      else (.ok (), list.put record)
    | none => (.error "unknown change set", list)
  | .approveChangeSet id device approver digest actor =>
    let (answer, list) := list.move (list.demand id device fun record =>
      !record.state.isSpent && approver != record.owner && digest == record.digest &&
        actor == .human) .approved
    (answer.map output, list)
  | .waiveApproval id device _ digest =>
    let (answer, list) := list.move (list.demand id device fun record =>
      !record.state.isSpent && digest == record.digest) .approved
    (answer.map output, list)
  | .claimChangeSetForApply id device =>
    list.move (list.demand id device fun record => record.state == .approved) .applying

/-- Moving a record on leaves the list, or puts the record back in its new state. -/
private theorem move_cases {list list' : RecordList} {id device : String}
    {allowed : ChangeSet → Bool} {state : ChangeSetState} {answer : Except String ChangeSet}
    (h : list.move (list.demand id device allowed) state = (answer, list')) :
    (∃ error, answer = .error error ∧ list' = list) ∨ ∃ record, list.find id = some record ∧
      record.device = device ∧ allowed record ∧ answer = .ok { record with state } ∧
      list' = list.put { record with state } := by
  cases hdemand : list.demand id device allowed with
  | error error =>
    rw [hdemand, move, Prod.mk.injEq] at h
    exact .inl ⟨error, h.1.symm, h.2.symm⟩
  | ok record =>
    rw [hdemand, move, Prod.mk.injEq] at h
    obtain ⟨hfind, hdevice, hallowed⟩ := demand_eq_ok hdemand
    exact .inr ⟨record, hfind, hdevice, hallowed, h.1.symm, h.2.symm⟩

/-- What one operation does to the list. -/
inductive Moves (list : RecordList) (op : CoordinatorOp) (reply : op.Reply) : RecordList → Prop
  | stays : Moves list op reply list
  | adds {record : ChangeSet} (absent : list.find record.id = none)
      (writes : op.Writes none reply record) : Moves list op reply (list.add record absent)
  | puts {old record : ChangeSet} (stored : list.find record.id = some old)
      (spent : old.state.isSpent → record.state.isSpent)
      (writes : op.Writes (some old) reply record) : Moves list op reply (list.put record)

private theorem moves_of_perform {list list' : RecordList} {fresh : String}
    {hfresh : list.find fresh = none}
    {op : CoordinatorOp} {reply : op.Reply} (h : list.perform fresh hfresh op = (reply, list')) :
    Moves list op reply list' := by
  cases op with
  | changeSet id device =>
    obtain rfl := (Prod.mk.inj h).2
    exact .stays
  | changeSets =>
    obtain rfl := (Prod.mk.inj h).2
    exact .stays
  | createChangeSet device actions owner fingerprint policy =>
    obtain ⟨rfl, rfl⟩ := Prod.mk.inj h
    exact .adds _ (.created rfl rfl rfl rfl rfl rfl rfl ⟨rfl, rfl⟩)
  | updateChangeSet record =>
    rw [perform] at h
    split at h
    · next old hold =>
      split_ifs at h with hspent
      · obtain ⟨rfl, rfl⟩ := Prod.mk.inj h
        exact .stays
      · obtain ⟨rfl, rfl⟩ := Prod.mk.inj h
        refine .puts hold (fun hspentOld => ?_) .updated
        simpa [hspentOld] using hspent
    · obtain ⟨rfl, rfl⟩ := Prod.mk.inj h
      exact .stays
  | approveChangeSet id device approver digest actor =>
    generalize hmove : list.move (list.demand id device fun record => !record.state.isSpent &&
      approver != record.owner && digest == record.digest && actor == .human) .approved = moved
    obtain ⟨answer, moved⟩ := moved
    rw [perform, hmove] at h
    obtain ⟨rfl, rfl⟩ := Prod.mk.inj h
    rcases move_cases hmove with ⟨error, rfl, rfl⟩ | ⟨record, hfind, rfl, hallowed, rfl, rfl⟩
    · exact .stays
    · simp only [Bool.and_eq_true, Bool.not_eq_true', bne_iff_ne, beq_iff_eq] at hallowed
      obtain ⟨⟨⟨hspent, hother⟩, hdigest⟩, rfl⟩ := hallowed
      obtain rfl := id_of_find hfind
      exact .puts hfind (fun h => absurd h (by simp [hspent]))
        (.approved rfl rfl rfl hother hdigest)
  | waiveApproval id device owner digest =>
    generalize hmove : list.move (list.demand id device fun record => !record.state.isSpent &&
      digest == record.digest) .approved = moved
    obtain ⟨answer, moved⟩ := moved
    rw [perform, hmove] at h
    obtain ⟨rfl, rfl⟩ := Prod.mk.inj h
    rcases move_cases hmove with ⟨error, rfl, rfl⟩ | ⟨record, hfind, rfl, hallowed, rfl, rfl⟩
    · exact .stays
    · simp only [Bool.and_eq_true, Bool.not_eq_true', beq_iff_eq] at hallowed
      obtain ⟨hspent, hdigest⟩ := hallowed
      obtain rfl := id_of_find hfind
      exact .puts hfind (fun h => absurd h (by simp [hspent])) (.waived rfl rfl rfl hdigest)
  | claimChangeSetForApply id device =>
    rcases move_cases h with ⟨error, rfl, rfl⟩ | ⟨record, hfind, rfl, hallowed, rfl, rfl⟩
    · exact .stays
    · obtain rfl := id_of_find hfind
      exact .puts hfind (fun _ => rfl) (.claimed rfl rfl rfl (beq_iff_eq.mp hallowed))

/-- A record that is spent stays so. -/
theorem Moves.spent {list list' : RecordList} {op : CoordinatorOp} {reply : op.Reply}
    (h : Moves list op reply list') {id : String}
    (hspent : ∃ record, list.find id = some record ∧ record.state.isSpent) :
    ∃ record, list'.find id = some record ∧ record.state.isSpent := by
  obtain ⟨record, hfind, hspent⟩ := hspent
  cases h with
  | stays => exact ⟨record, hfind, hspent⟩
  | @adds added habsent _ =>
    refine ⟨record, ?_, hspent⟩
    rw [find_add, if_neg, hfind]
    rintro rfl
    rw [hfind] at habsent
    cases habsent
  | @puts old new hstored hkept _ =>
    rw [find_put hstored]
    split_ifs with hid
    · rw [hid, hstored, Option.some.injEq] at hfind
      exact ⟨new, rfl, hkept (hfind ▸ hspent)⟩
    · exact ⟨record, hfind, hspent⟩

/-- No record goes away. -/
theorem Moves.found {list list' : RecordList} {op : CoordinatorOp} {reply : op.Reply}
    (h : Moves list op reply list') {id : String} (hfound : list.find id ≠ none) :
    list'.find id ≠ none := by
  cases h with
  | stays => exact hfound
  | adds habsent _ =>
    rw [find_add]
    split_ifs
    · exact Option.some_ne_none _
    · exact hfound
  | puts hstored _ _ =>
    rw [find_put hstored]
    split_ifs
    · exact Option.some_ne_none _
    · exact hfound

theorem Moves.writes {list list' : RecordList} {op : CoordinatorOp} {reply : op.Reply}
    (h : Moves list op reply list') {id : String} {record : ChangeSet}
    (hfind : list'.find id = some record) :
    list.find id = some record ∨ op.Writes (list.find id) reply record := by
  cases h with
  | stays => exact .inl hfind
  | @adds added habsent hwrites =>
    rw [find_add] at hfind
    split_ifs at hfind with hid
    · obtain rfl := Option.some.inj hfind
      rw [hid, habsent]
      exact .inr hwrites
    · exact .inl hfind
  | @puts old new hstored _ hwrites =>
    rw [find_put hstored] at hfind
    split_ifs at hfind with hid
    · obtain rfl := Option.some.inj hfind
      rw [hid, hstored]
      exact .inr hwrites
    · exact .inl hfind

end RecordList

namespace Coordinator

/-- A coordinator that keeps its records in a list; a new record gets any id that is free. -/
def inMemory : Coordinator where
  State := RecordList
  Initial list := list = .empty
  find := RecordList.find
  Spent list id := ∃ record, list.find id = some record ∧ record.state.isSpent
  Step list op reply list' := ∃ fresh hfresh, list.perform fresh hfresh op = (reply, list')

/-- **The laws can be met.** -/
theorem lawful_inMemory : inMemory.Lawful where
  empty := by
    rintro state id rfl
    rfl
  id_of_find := RecordList.id_of_find
  read := by
    rintro state id device record state' ⟨fresh, hfresh, h⟩
    obtain ⟨hfind, hdevice, -⟩ := RecordList.demand_eq_ok (Prod.mk.inj h).1
    exact ⟨hfind, hdevice⟩
  listed := by
    rintro state state' record records ⟨fresh, hfresh, h⟩ hmem
    obtain rfl := (Prod.mk.inj h).1
    exact RecordList.find_eq_some_iff.mpr hmem
  writes := by
    rintro state op reply state' id record ⟨fresh, hfresh, h⟩ hfind
    exact (RecordList.moves_of_perform h).writes hfind
  claims := by
    rintro state id device claimed state' ⟨fresh, hfresh, h⟩
    rcases RecordList.move_cases h with
      ⟨error, herror, -⟩ | ⟨record, hfind, hdevice, hallowed, hanswer, rfl⟩
    · cases herror
    · obtain rfl := Except.ok.inj hanswer
      refine ⟨record, hfind, hdevice, beq_iff_eq.mp hallowed, rfl, ?_⟩
      have hid := RecordList.id_of_find hfind
      have hstored : state.find { record with state := .applying : ChangeSet }.id = some record :=
        hid.symm ▸ hfind
      exact (RecordList.find_put hstored).trans (if_pos hid.symm)
  stores := by
    rintro state record state' ⟨fresh, hfresh, h⟩
    simp only [RecordList.perform] at h
    split at h
    · next old hold =>
      split_ifs at h with hspent
      · cases (Prod.mk.inj h).1
      · obtain rfl := (Prod.mk.inj h).2
        exact (RecordList.find_put hold).trans (if_pos rfl)
    · cases (Prod.mk.inj h).1
  settled hfind hspent := ⟨_, hfind, hspent⟩
  spent := by
    rintro state op reply state' id ⟨fresh, hfresh, h⟩ hspent
    exact (RecordList.moves_of_perform h).spent hspent
  unapproved := by
    rintro state id record ⟨other, hother, hspent⟩ hfind happroved
    obtain rfl : record = other := Option.some.inj (hfind.symm.trans hother)
    rw [happroved] at hspent
    cases hspent

/-- The ids in memory are those of the records. -/
def inMemoryIds : inMemory.Ids where
  Used list id := RecordList.find list id ≠ none
  found hfind hnone := by
    rw [show RecordList.find _ _ = _ from hfind] at hnone
    cases hnone
  created := by
    rintro state device actions owner fingerprint policy output state' ⟨fresh, hfresh, h⟩
    obtain ⟨hreply, rfl⟩ := Prod.mk.inj h
    obtain rfl := Except.ok.inj hreply
    refine ⟨not_not.mpr hfresh, fun hnone => ?_⟩
    have hfound := RecordList.find_add_self.symm.trans hnone
    cases hfound
  kept := by
    rintro state op reply state' id ⟨fresh, hfresh, h⟩ hused
    exact (RecordList.moves_of_perform h).found hused

end Coordinator

end ProxmoxMcp
