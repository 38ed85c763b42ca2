import Mathlib
import ProxmoxMcp.Server.SettledRecords

/-!
# The life of a change set

A change set is drafted, shown in a preview, approved, claimed by the apply that carries it out,
followed by the handle of its task, and settled. `Stage.Next` is one step of this life; what a
change set is about, its `Terms`, never changes.

`ledger` replays a run: it reads off the operations that the coordinator has confirmed which `Line`
stands under an id. It knows nothing of the coordinator's store, so that a theorem about it is one
about what the calls of the server have done. `Line.Advances` is what one entry of a run may do to a
line, and `LifeCycle` says that every entry does so, and that the coordinator answers every question
about a change set by its line.
-/

namespace ProxmoxMcp

open Interaction Relation

/-! ### Stages -/

/-- What a change set is about. -/
structure Terms where
  device : String
  actions : List Json
  owner : String
  fingerprint : String

/-- How far a change set has come. From the second stage on it has the text its approver reads. -/
inductive Stage where
  | drafted
  | previewed (preview : PreviewRecord)
  | approved (preview : PreviewRecord)
  | claimed (preview : PreviewRecord)
  | following (preview : PreviewRecord) (upid : String)
  | settled (preview : PreviewRecord) (succeeded : Bool)
  deriving DecidableEq

namespace Stage

/-- One step in the life of a change set. A settled one may only be settled again, by a recovery and
an apply that follow the same task. -/
inductive Next : Stage → Stage → Prop
  | preview (preview : PreviewRecord) : Next drafted (previewed preview)
  | approve (preview : PreviewRecord) : Next (previewed preview) (approved preview)
  | claim (preview : PreviewRecord) : Next (approved preview) (claimed preview)
  | follow (preview : PreviewRecord) (upid : String) :
      Next (claimed preview) (following preview upid)
  | settle (preview : PreviewRecord) (succeeded : Bool) :
      Next (claimed preview) (settled preview succeeded)
  | finish (preview : PreviewRecord) (upid : String) (succeeded : Bool) :
      Next (following preview upid) (settled preview succeeded)
  | resettle (preview : PreviewRecord) (before after : Bool) :
      Next (settled preview before) (settled preview after)

/-- What a stage may come to. -/
abbrev Reaches : Stage → Stage → Prop := ReflTransGen Next

/-- The text the approver of this stage reads. -/
def preview : Stage → Option PreviewRecord
  | drafted => none
  | previewed preview | approved preview | claimed preview | following preview _
  | settled preview _ => some preview

/-- The state, the preview and the handle of a record at a stage. -/
def fields : Stage → ChangeSetState × Option PreviewRecord × Option String
  | drafted => (.planned, none, none)
  | previewed preview => (.planned, some preview, none)
  | approved preview => (.approved, some preview, none)
  | claimed preview => (.applying, some preview, none)
  | following preview upid => (.applying, some preview, some upid)
  | settled preview true => (.applied, some preview, none)
  | settled preview false => (.failed, some preview, none)

section Reaches

variable {s s' : Stage} {text : PreviewRecord} {upid : String}

private theorem preview_of_next (h : s.Next s') (hs : s.preview = some text) :
    s'.preview = some text := by
  cases h with
  | preview => cases hs
  | _ => exact hs

/-- **The text stays** once there is one. -/
theorem preview_of_reaches (h : s.Reaches s') (hs : s.preview = some text) :
    s'.preview = some text := by
  induction h with
  | refl => exact hs
  | tail _ hnext ih => exact preview_of_next hnext ih

theorem ne_drafted_of_next (h : s.Next s') : s' ≠ drafted := by
  rintro rfl
  cases h

private theorem exists_preview (hs : s ≠ drafted) : ∃ text, s.preview = some text := by
  cases s with
  | drafted => exact absurd rfl hs
  | _ => exact ⟨_, rfl⟩

theorem ne_drafted_of_reaches (h : s.Reaches s') (hs : s ≠ drafted) : s' ≠ drafted := by
  rintro rfl
  obtain ⟨text, htext⟩ := exists_preview hs
  have hdrafted := preview_of_reaches h htext
  cases hdrafted

/-- A change set with a handle keeps it until it is settled. -/
theorem eq_following_of_reaches (h : (following text upid).Reaches s) :
    s = following text upid ∨ ∃ succeeded, s = settled text succeeded := by
  induction h with
  | refl => exact .inl rfl
  | tail _ hnext ih =>
    rcases ih with rfl | ⟨_, rfl⟩
    · cases hnext
      exact .inr ⟨_, rfl⟩
    · cases hnext
      exact .inr ⟨_, rfl⟩

/-- A claimed change set never becomes claimable again. -/
private theorem eq_claimed_of_reaches (h : (claimed text).Reaches s) : s = claimed text ∨
    (∃ upid, s = following text upid) ∨ ∃ succeeded, s = settled text succeeded := by
  induction h with
  | refl => exact .inl rfl
  | tail _ hnext ih =>
    rcases ih with rfl | ⟨_, rfl⟩ | ⟨_, rfl⟩
    · cases hnext with
      | follow => exact .inr (.inl ⟨_, rfl⟩)
      | settle => exact .inr (.inr ⟨_, rfl⟩)
    · cases hnext
      exact .inr (.inr ⟨_, rfl⟩)
    · cases hnext
      exact .inr (.inr ⟨_, rfl⟩)

/-- What a claimed change set has come to may be settled. -/
theorem next_settled_of_claimed (h : (claimed text).Reaches s) (succeeded : Bool) :
    s.Next (settled text succeeded) := by
  rcases eq_claimed_of_reaches h with rfl | ⟨_, rfl⟩ | ⟨_, rfl⟩
  · exact .settle _ _
  · exact .finish _ _ _
  · exact .resettle _ _ _

theorem next_settled_of_following (h : (following text upid).Reaches s) (succeeded : Bool) :
    s.Next (settled text succeeded) := by
  rcases eq_following_of_reaches h with rfl | ⟨_, rfl⟩
  · exact .finish _ _ _
  · exact .resettle _ _ _

end Reaches

end Stage

/-! ### The ledger -/

/-- What stands in the ledger under an id. -/
structure Line where
  terms : Terms
  stage : Stage

namespace ChangeSet

variable (record : ChangeSet)

/-- What a stored record is about. -/
def terms : Terms :=
  ⟨record.device, record.actions, record.owner, record.expectedCandidateFingerprint⟩

/-- The stage of a stored record. Only a record that is applying has a handle, and only one that is
planned may lack a preview; any other is of no stage. -/
def stage : Option Stage :=
  match record.state, record.preview, record.taskId with
  | .planned, none, none => some .drafted
  | .planned, some preview, none => some (.previewed preview)
  | .approved, some preview, none => some (.approved preview)
  | .applying, some preview, none => some (.claimed preview)
  | .applying, some preview, some upid => some (.following preview upid)
  | .applied, some preview, none => some (.settled preview true)
  | .failed, some preview, none => some (.settled preview false)
  | _, _, _ => none

/-- The line of a stored record. -/
def line : Option Line := record.stage.map fun stage => ⟨record.terms, stage⟩

end ChangeSet

/-- An approval takes a line with a preview on; on any other it has no effect. -/
def Line.approve (line : Line) : Line :=
  match line.stage with
  | .previewed preview => { line with stage := .approved preview }
  | _ => line

/-- The line under a key after an operation on the records that was answered. -/
def CoordinatorOp.lineAfter (key : String) (line : Option Line) :
    (op : CoordinatorOp) → op.Reply → Option Line
  | .createChangeSet device actions owner fingerprint _, .ok output =>
    if output.changeSetId =
      key then some ⟨⟨device, actions, owner, fingerprint⟩, .drafted⟩ else line
  | .updateChangeSet record, .ok () => if record.id = key then record.line else line
  | .approveChangeSet id _ _ _ _, .ok _ => if id = key then line.map Line.approve else line
  | .waiveApproval id _ _ _, .ok _ => if id = key then line.map Line.approve else line
  | .claimChangeSetForApply id _, .ok record => if id = key then record.line else line
  | _, _ => line

/-- The line under a key, by what the coordinator has confirmed. -/
def ledger [Externals] (key : String) : ServerTrace → Option Line
  | [] => none
  | .event _ ⟨.coordinator op, reply⟩ :: older => op.lineAfter key (ledger key older) reply
  | _ :: older => ledger key older

/-- What one entry of a run may do to a line: nothing, open it, or take it one stage on. -/
inductive Line.Advances : Option Line → Option Line → Prop
  | stays (line : Option Line) : Advances line line
  | opened (terms : Terms) : Advances none (some ⟨terms, .drafted⟩)
  | moved {terms : Terms} {stage stage' : Stage} (next : stage.Next stage') :
      Advances (some ⟨terms, stage⟩) (some ⟨terms, stage'⟩)

/-- What an operation does to the line under a key, and which operation it takes. -/
inductive CoordinatorOp.Moves (key : String) :
    (op : CoordinatorOp) → op.Reply → Option Line → Option Line → Prop
  | stays {op : CoordinatorOp} {reply : op.Reply} {line : Option Line} :
      Moves key op reply line line
  | opens {device owner fingerprint policy : String} {actions : List Json}
      {output : ChangeSetOutput} (id : output.changeSetId = key) :
      Moves key (.createChangeSet device actions owner fingerprint policy) (.ok output) none
        (some ⟨⟨device, actions, owner, fingerprint⟩, .drafted⟩)
  | writes {updated : ChangeSet} {stage stage' : Stage} (id : updated.id = key)
      (next : stage.Next stage') : Moves key (.updateChangeSet updated) (.ok ())
        (some ⟨updated.terms, stage⟩) (some ⟨updated.terms, stage'⟩)
  | approves {op : CoordinatorOp} {reply : op.Reply} {terms : Terms} {preview : PreviewRecord} :
      Moves key op reply (some ⟨terms, .previewed preview⟩) (some ⟨terms, .approved preview⟩)
  | claims {device : String} {claimed : ChangeSet} {preview : PreviewRecord} :
      Moves key (.claimChangeSetForApply key device) (.ok claimed)
        (some ⟨claimed.terms, .approved preview⟩) (some ⟨claimed.terms, .claimed preview⟩)

/-- The line shows a record as it is stored; a confirmed approval may not be stored yet. -/
structure Line.Shows (line : Line) (record : ChangeSet) : Prop where
  terms : line.terms = record.terms
  stage : ∃ stage, record.stage = some stage ∧
    (line.stage = stage ∨ ∃ preview, stage = .previewed preview ∧ line.stage = .approved preview)

/-- **The life of the change sets of a run.** -/
structure LifeCycle [Externals] (trace : ServerTrace) : Prop where
  /-- Every entry leaves every line as it is or takes it one stage on. -/
  advances : ∀ {newer older entry} (key : String), trace = newer ++ entry :: older →
    Line.Advances (ledger key older) (ledger key (entry :: older))
  /-- Whatever the coordinator answers about a change set is what its line says then. -/
  answers : ∀ {newer older id event key device record},
    trace = newer ++ .event id event :: older → Answers event key device record →
      ∃ line, ledger key (.event id event :: older) = some line ∧ line.Shows record

/-! ### Reading the ledger -/

section Ledger

variable [Externals] {key : String} {line : Option Line} {record : ChangeSet}

theorem ledger_coordinator {id : ℕ} {op : CoordinatorOp} {reply : op.Reply} {older : ServerTrace} :
    ledger key (.event id ⟨.coordinator op, reply⟩ :: older) =
      op.lineAfter key (ledger key older) reply := rfl

theorem ledger_update {id : ℕ} {older : ServerTrace} : ledger record.id
    (.event id ⟨.coordinator (.updateChangeSet record), .ok ()⟩ :: older) = record.line :=
  if_pos rfl

theorem ledger_claim {id : ℕ} {device : String} {older : ServerTrace} : ledger key
    (.event id ⟨.coordinator (.claimChangeSetForApply key device), .ok record⟩ :: older) =
      record.line :=
  if_pos rfl

/-- An entry that is not about the records leaves every line. -/
theorem ledger_cons {entry : Entry Effect Served CallResult} {older : ServerTrace}
    (hentry : ∀ id op reply, entry ≠ .event id ⟨.coordinator op, reply⟩) :
    ledger key (entry :: older) = ledger key older := by
  cases entry with
  | event id event =>
    obtain ⟨op, reply⟩ := event
    cases op with
    | coordinator op => exact absurd rfl (hentry id op reply)
    | _ => rfl
  | _ => rfl

omit [Externals]

theorem lineAfter_update : (CoordinatorOp.updateChangeSet record).lineAfter key line (.ok ()) =
    if record.id = key then record.line else line := rfl

theorem lineAfter_claim {id device : String} :
    (CoordinatorOp.claimChangeSetForApply id device).lineAfter key line (.ok record) =
      if id = key then record.line else line := rfl

theorem lineAfter_create {device owner fingerprint policy : String} {actions : List Json}
    {output : ChangeSetOutput} :
    (CoordinatorOp.createChangeSet device actions owner fingerprint policy).lineAfter key line
      (.ok output) = if output.changeSetId = key then
        some ⟨⟨device, actions, owner, fingerprint⟩, .drafted⟩ else line := rfl

theorem lineAfter_approve {id device approver digest : String} {actor : ActorType}
    {output : ChangeSetOutput} :
    (CoordinatorOp.approveChangeSet id device approver digest actor).lineAfter key line
      (.ok output) = if id = key then line.map Line.approve else line := rfl

theorem lineAfter_waive {id device owner digest : String} {output : ChangeSetOutput} :
    (CoordinatorOp.waiveApproval id device owner digest).lineAfter key line (.ok output) =
      if id = key then line.map Line.approve else line := rfl

end Ledger

namespace ChangeSet

variable {record : ChangeSet} {stage : Stage} {preview : PreviewRecord} {upid : String}

/-- The stage of a record is read off its state, its preview and its handle. -/
theorem stage_eq_some_iff :
    record.stage = some stage ↔ (record.state, record.preview, record.taskId) = stage.fields := by
  rw [ChangeSet.stage]
  constructor
  · intro h
    split at h <;> cases h
    all_goals simp_all [Stage.fields]
  · intro h
    have hstate := congrArg Prod.fst h
    have hrest := congrArg Prod.snd h
    cases stage with
    | settled preview succeeded => cases succeeded <;> simp_all [Stage.fields]
    | _ => simp_all [Stage.fields]

/-- A record at a stage has a preview as soon as the stage has one. -/
theorem preview_of_stage (h : record.stage = some stage) : stage.preview = record.preview := by
  have hpreview := congrArg (fun fields => fields.2.1) (stage_eq_some_iff.mp h)
  cases stage with
  | settled text succeeded => cases succeeded <;> exact hpreview.symm
  | _ => exact hpreview.symm

theorem line_of_stage (h : record.stage = some stage) :
    record.line = some ⟨record.terms, stage⟩ := by
  rw [ChangeSet.line, h, Option.map_some]

end ChangeSet

namespace Line

variable {line : Line} {record : ChangeSet} {preview : PreviewRecord}

theorem Shows.of_stage {stage : Stage} (h : record.stage = some stage) :
    Shows ⟨record.terms, stage⟩ record := ⟨rfl, stage, h, .inl rfl⟩

/-- What a record shows is what its line has come from. -/
theorem Shows.reaches (h : line.Shows record) :
    ∃ stage, record.stage = some stage ∧ stage.Reaches line.stage := by
  obtain ⟨-, stage, hstage, rfl | ⟨preview, rfl, hline⟩⟩ := h
  · exact ⟨_, hstage, .refl⟩
  · exact ⟨_, hstage, hline ▸ .single (.approve preview)⟩

/-- A line that advances is about what it was about, and has come further. -/
theorem Advances.exists_reaches {after : Option Line} (h : Advances (some line) after) :
    ∃ line', after = some line' ∧ line'.terms = line.terms ∧ line.stage.Reaches line'.stage := by
  cases h with
  | stays => exact ⟨line, rfl, rfl, .refl⟩
  | moved next => exact ⟨_, rfl, rfl, .single next⟩

theorem terms_approve (line : Line) : line.approve.terms = line.terms := by
  rw [approve]
  split <;> rfl

/-- A confirmed approval takes a line with a preview on. -/
theorem moves_approve {key : String} {op : CoordinatorOp} {reply : op.Reply} (line : Line) :
    op.Moves key reply (some line) (some line.approve) := by
  obtain ⟨terms, stage⟩ := line
  cases stage with
  | previewed preview => exact .approves
  | _ => exact .stays

end Line

theorem CoordinatorOp.Moves.advances {key : String} {op : CoordinatorOp} {reply : op.Reply}
    {line line' : Option Line} (h : op.Moves key reply line line') : Line.Advances line line' := by
  cases h with
  | stays => exact .stays _
  | opens => exact .opened _
  | writes _ next => exact .moved next
  | approves => exact .moved (.approve _)
  | claims => exact .moved (.claim _)

end ProxmoxMcp
