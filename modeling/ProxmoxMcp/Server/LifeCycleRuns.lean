import Mathlib
import ProxmoxMcp.Server.LifeCycle

/-!
# Every run keeps the life of its change sets

`Lived` is the invariant: what is stored and what was answered agrees with the ledger, and a line is
where the calls that have written to it have left it. Each operation on the records keeps it
(`Lived.operation`), whoever performs it and whatever else runs: that an apply goes on from the
claim it made itself is what it has claimed **and** written, never what it has read.
-/

namespace ProxmoxMcp

open Interaction Relation

variable [Externals] {coordinator : Coordinator} {ttl : ℕ}

/-! ### The calls that move a line -/

section Calls

variable {served : Served} {h : History Effect}

/-- An approval is of a record that the call has read with a preview. -/
theorem Served.approves {id device approver digest : String} {actor : ActorType}
    (hrecords : served.policy.records h (.approveChangeSet id device approver digest actor)) :
    ∃ record, ⟨.coordinator (.changeSet id device), .ok record⟩ ∈ h ∧ record.preview.isSome := by
  obtain ⟨server, call⟩ := served
  cases call with
  | recover => exact hrecords.elim
  | reload => exact hrecords.elim
  | serve caller tool =>
    cases tool with
    | approveChangeSet args =>
      obtain ⟨rfl, rfl, -, -, record, hread, hpreview, -⟩ := hrecords
      exact ⟨record, hread, hpreview⟩
    | approveHaRuleChange args =>
      obtain ⟨rfl, rfl, -, -, record, hread, hpreview, -⟩ := hrecords
      exact ⟨record, hread, hpreview⟩
    | planDestroy args => exact hrecords.elim
    | planHaRuleChange args => exact hrecords.elim
    | planRestoreNewVmid args => exact hrecords.elim
    | applyChangeSet args => exact hrecords.elim
    | applyHaRuleChange args => exact hrecords.elim
    | applyRestoreNewVmid args => exact hrecords.elim
    | _ => exact hrecords.elim

/-- A waiver is of the record whose preview the call has just stored. -/
theorem Served.waives {id device owner digest : String}
    (hrecords : served.policy.records h (.waiveApproval id device owner digest)) :
    ∃ updated, ⟨.coordinator (.updateChangeSet updated), .ok ()⟩ ∈ h ∧ updated.id = id := by
  cases served.handles hrecords with
  | waives _ hwaives =>
    obtain ⟨-, rfl, hid, -⟩ := hwaives
    exact ⟨_, List.mem_cons_self, hid⟩

end Calls

/-! ### The invariant -/

/-- What holds of the lines of a run. -/
structure Lived (ids : coordinator.Ids) (records : coordinator.State) (trace : ServerTrace) :
    Prop where
  stored : ∀ {key record}, coordinator.find records key = some record →
    ∃ line, ledger key trace = some line ∧ line.Shows record
  /-- What was answered is what the line has come from. -/
  answered : ∀ {id event key device record}, .event id event ∈ trace →
    Answers event key device record → ∃ line stage, ledger key trace = some line ∧
      line.terms = record.terms ∧ record.stage = some stage ∧ stage.Reaches line.stage
  used : ∀ {key line}, ledger key trace = some line → ids.Used records key
  written : ∀ {id updated}, .event id ⟨.coordinator (.updateChangeSet updated), .ok ()⟩ ∈ trace →
    ∃ line, ledger updated.id trace = some line ∧ line.stage ≠ .drafted
  /-- Only a plan takes a line from its first stage. -/
  previewed : ∀ {key line}, ledger key trace = some line → line.stage ≠ .drafted →
    ∃ id served plan updated, .start id served ∈ trace ∧ served.planCall = some plan ∧
      updated.id = key ∧ .event id ⟨.coordinator (.updateChangeSet updated), .ok ()⟩ ∈ trace
  claimed : ∀ {id key device claimed},
    .event id ⟨.coordinator (.claimChangeSetForApply key device), .ok claimed⟩ ∈ trace →
      ∃ preview, claimed.stage = some (.claimed preview)
  /-- Until the apply that has claimed a line writes to it, nothing happens to it. -/
  unwritten : ∀ {id key device claimed},
    .event id ⟨.coordinator (.claimChangeSetForApply key device), .ok claimed⟩ ∈ trace →
      (∀ updated, updated.id = key →
        .event id ⟨.coordinator (.updateChangeSet updated), .ok ()⟩ ∉ trace) →
      ∃ line preview, ledger key trace = some line ∧ line.stage = .claimed preview

section Operations

variable {pool : Pool (serverMachine coordinator ttl)} {ids : coordinator.Ids} {id : ℕ}
  {served : Served} {op : CoordinatorOp} {reply : op.Reply} {records' : coordinator.State}

/-- A record listed while it was being applied is followed, or settled since. -/
theorem Lived.following_of_recovers (hlived : Lived ids pool.world.records pool.trace)
    {updated : ChangeSet} (hrecovers : Recovers (historyOf id pool.trace) updated) :
    ∃ line preview upid succeeded, ledger updated.id pool.trace = some line ∧
      line.terms = updated.terms ∧ (Stage.following preview upid).Reaches line.stage ∧
      updated.stage = some (.settled preview succeeded) := by
  obtain @⟨records, record, upid, cluster, rest, exitstatus, hread, hmem, happlying, hhandle, -, -,
    rfl⟩ := hrecovers
  obtain ⟨line, stage, hline, hterms, hstage, hreaches⟩ :=
    hlived.answered (mem_historyOf_iff.mp hread) (.listed hmem)
  have hfields := ChangeSet.stage_eq_some_iff.mp hstage
  rw [happlying, hhandle] at hfields
  -- of the stages only one is applying with a handle
  obtain ⟨preview, rfl⟩ : ∃ preview, stage = .following preview upid := by
    cases stage with
    | following preview upid' =>
      simp only [Stage.fields, Prod.mk.injEq, Option.some.injEq] at hfields
      exact ⟨preview, hfields.2.2 ▸ rfl⟩
    | settled preview succeeded => cases succeeded <;> simp [Stage.fields] at hfields
    | _ => simp [Stage.fields] at hfields
  have hpreview : record.preview = some preview := (ChangeSet.preview_of_stage hstage).symm
  refine ⟨line, preview, upid, decide (exitstatus = "OK"), hline, hterms, hreaches, ?_⟩
  refine ChangeSet.stage_eq_some_iff.mpr ?_
  by_cases hok : exitstatus = "OK" <;> simp [hok, hpreview, Stage.fields]

/-- What a call has claimed has gone on from there, and only once the call has written to it. -/
theorem Lived.reaches_of_claimed (laws : coordinator.Lawful)
    (h : Reachable (serverMachine coordinator ttl) pool)
    (hlived : Lived ids pool.world.records pool.trace) {call : ApplyCall} {claimed : ChangeSet}
    (hclaimed : call.Claimed claimed (historyOf id pool.trace)) :
    ∃ line preview, ledger claimed.id pool.trace = some line ∧ line.terms = claimed.terms ∧
      claimed.stage = some (.claimed preview) ∧ (Stage.claimed preview).Reaches line.stage ∧
      (Unwritten (historyOf id pool.trace) → line.stage = .claimed preview) := by
  obtain ⟨record, -, hclaim⟩ := hclaimed
  replace hclaim := mem_historyOf_iff.mp hclaim
  obtain ⟨hid, -, -⟩ := (kept_of_reachable laws h).answered hclaim .claimed
  obtain ⟨line, stage, hline, hterms, hstage, hreaches⟩ := hlived.answered hclaim .claimed
  obtain ⟨preview, hstage'⟩ := hlived.claimed hclaim
  obtain rfl := Option.some.inj (hstage'.symm.trans hstage)
  refine ⟨line, preview, hid ▸ hline, hterms, hstage, hreaches, fun hunwritten => ?_⟩
  obtain ⟨line', preview', hline', hclaimed'⟩ := hlived.unwritten hclaim
    fun updated _ hmem => hunwritten _ _ (mem_historyOf_iff.mpr hmem)
  obtain rfl := Option.some.inj (hline.symm.trans hline')
  have htext := Stage.preview_of_reaches hreaches rfl
  rw [hclaimed'] at htext ⊢
  rw [Option.some.inj htext]

/-- What an apply writes goes on from the claim it has made. -/
theorem Lived.next_of_settles (laws : coordinator.Lawful)
    (h : Reachable (serverMachine coordinator ttl) pool)
    (hlived : Lived ids pool.world.records pool.trace) {call : ApplyCall}
    {claimed updated : ChangeSet} (hclaimed : call.Claimed claimed (historyOf id pool.trace))
    (hsettles : call.Settles served.Refuses claimed (historyOf id pool.trace) updated)
    (hwrites : Unwritten (historyOf id pool.trace) ∨ updated.state ≠ .applying) :
    ∃ line stage, ledger updated.id pool.trace = some line ∧ line.terms = updated.terms ∧
      updated.stage = some stage ∧ line.stage.Next stage := by
  obtain ⟨line, preview, hline, hterms, hstage, hreaches, hfirst⟩ :=
    hlived.reaches_of_claimed laws h hclaimed
  have hrevises := hsettles.revises
  rw [← hrevises.id] at hline
  have hterms' : line.terms = updated.terms := by
    rw [hterms, ChangeSet.terms, ChangeSet.terms, hrevises.device, hrevises.actions,
      hrevises.owner, hrevises.fingerprint]
  have hfields := ChangeSet.stage_eq_some_iff.mp hstage
  simp only [Stage.fields, Prod.mk.injEq] at hfields
  obtain ⟨hstate, hpreview, htask⟩ := hfields
  have hmoves (stage : Stage) (hnext : line.stage.Next stage) (record : ChangeSet)
      (hfields : (record.state, record.preview, record.taskId) = stage.fields)
      (heq : updated = record) : ∃ line stage, ledger updated.id pool.trace = some line ∧
        line.terms = updated.terms ∧ updated.stage = some stage ∧ line.stage.Next stage := by
    subst heq
    exact ⟨line, stage, hline, hterms', ChangeSet.stage_eq_some_iff.mpr hfields, hnext⟩
  have hsettled := Stage.next_settled_of_claimed hreaches
  cases hsettles with
  | intentFailed => exact hmoves _ (hsettled false) _ (by simp [Stage.fields, hpreview, htask]) rfl
  | checkFailed => exact hmoves _ (hsettled false) _ (by simp [Stage.fields, hpreview, htask]) rfl
  | refused => exact hmoves _ (hsettled false) _ (by simp [Stage.fields, hpreview, htask]) rfl
  | immediate => exact hmoves _ (hsettled true) _ (by simp [Stage.fields, hpreview]) rfl
  | @exited upid exitstatus =>
    refine hmoves _ (hsettled (decide (exitstatus = "OK"))) _ ?_ rfl
    by_cases hok : exitstatus = "OK" <;> simp [Stage.fields, hpreview, hok]
  | @inFlight upid =>
    -- the handle is written first
    have hclaimed' := hfirst (hwrites.resolve_right (not_not.mpr hstate))
    have hnext : line.stage.Next (.following preview upid) := hclaimed' ▸ .follow preview upid
    exact hmoves _ hnext _ (by simp [Stage.fields, hstate, hpreview]) rfl

/-- A plan shows a line that nobody has shown before. -/
theorem Lived.next_of_previews (h : Reachable (serverMachine coordinator ttl) pool)
    (hlived : Lived ids pool.world.records pool.trace) {updated : ChangeSet}
    (hpreviews : PlanCall.Previews (historyOf id pool.trace) updated) :
    ∃ line stage, ledger updated.id pool.trace = some line ∧ line.terms = updated.terms ∧
      updated.stage = some stage ∧ line.stage.Next stage := by
  have hfirst := fun id' served' plan stored =>
    @not_previewed_of_previews _ _ _ _ _ ids h updated stored hpreviews id' served' plan
  obtain @⟨device, actions, owner, fingerprint, policy, output, records, record, preview, older,
    hhistory, hread, -, rfl⟩ := hpreviews
  have hlisted : .event id ⟨.coordinator .changeSets, records⟩ ∈ pool.trace :=
    mem_historyOf_iff.mp (hhistory ▸ List.mem_cons_self)
  obtain ⟨line, stage, hline, hterms, hstage, hreaches⟩ := hlived.answered hlisted (.listed hread)
  have hdrafted : line.stage = .drafted := by
    by_contra hstage'
    obtain ⟨id', served', plan, stored, hstart, hplan, hnamed, hevent⟩ :=
      hlived.previewed hline hstage'
    exact hfirst _ _ _ _ hstart hplan hnamed hevent
  obtain rfl : stage = .drafted := by
    by_contra hne
    exact Stage.ne_drafted_of_reaches hreaches hne hdrafted
  have hfields := ChangeSet.stage_eq_some_iff.mp hstage
  simp only [Stage.fields, Prod.mk.injEq] at hfields
  refine ⟨line, .previewed preview, hline, hterms, ChangeSet.stage_eq_some_iff.mpr ?_,
    hdrafted ▸ .preview preview⟩
  simp [Stage.fields, hfields]

/-- **A confirmed write takes its line one stage on.** -/
theorem Lived.next_of_update (laws : coordinator.Lawful)
    (h : Reachable (serverMachine coordinator ttl) pool)
    (hlived : Lived ids pool.world.records pool.trace) {updated : ChangeSet}
    (hdoes : served.Does (historyOf id pool.trace) (.coordinator (.updateChangeSet updated))) :
    ∃ line stage, ledger updated.id pool.trace = some line ∧ line.terms = updated.terms ∧
      updated.stage = some stage ∧ line.stage.Next stage := by
  cases Served.updates hdoes.allowed with
  | settles hcall hclaimed hsettles =>
    exact hlived.next_of_settles laws h hclaimed hsettles ((hdoes.steps _ hcall).writes _ rfl)
  | previews _ hpreviews => exact hlived.next_of_previews h hpreviews
  | recovers _ hrecovers =>
    obtain ⟨line, preview, upid, succeeded, hline, hterms, hreaches, hstage⟩ :=
      hlived.following_of_recovers hrecovers
    exact ⟨line, _, hline, hterms, hstage, Stage.next_settled_of_following hreaches succeeded⟩

/-- A claim takes an approved line. -/
theorem Lived.next_of_claim (laws : coordinator.Lawful)
    (hlived : Lived ids pool.world.records pool.trace) {key device : String} {claimed : ChangeSet}
    (hstep : coordinator.Step pool.world.records (.claimChangeSetForApply key device) (.ok claimed)
      records') : ∃ line preview, ledger key pool.trace = some line ∧
        line.terms = claimed.terms ∧ line.stage = .approved preview ∧
        claimed.stage = some (.claimed preview) := by
  obtain ⟨record, hfind, -, happroved, rfl, -⟩ := laws.claims hstep
  obtain ⟨line, hline, hterms, stage, hstage, hshown⟩ := hlived.stored hfind
  have hfields := ChangeSet.stage_eq_some_iff.mp hstage
  rw [happroved] at hfields
  obtain ⟨preview, rfl⟩ : ∃ preview, stage = .approved preview := by
    cases stage with
    | approved preview => exact ⟨preview, rfl⟩
    | settled preview succeeded => cases succeeded <;> simp [Stage.fields] at hfields
    | _ => simp [Stage.fields] at hfields
  simp only [Stage.fields, Prod.mk.injEq, true_and] at hfields
  refine ⟨line, preview, hline, hterms, ?_, ChangeSet.stage_eq_some_iff.mpr ?_⟩
  · rcases hshown with hshown | ⟨_, heq, -⟩
    · exact hshown
    · cases heq
  · simp [Stage.fields, hfields]

/-- What is approved or waived has been shown. -/
theorem Lived.shown_of_approves (hlived : Lived ids pool.world.records pool.trace)
    {key device approver digest : String} {actor : ActorType}
    (hdoes : served.Does (historyOf id pool.trace)
      (.coordinator (.approveChangeSet key device approver digest actor))) :
    ∃ line, ledger key pool.trace = some line ∧ line.stage ≠ .drafted := by
  obtain ⟨record, hread, hpreview⟩ := Served.approves hdoes.allowed
  obtain ⟨line, stage, hline, -, hstage, hreaches⟩ :=
    hlived.answered (mem_historyOf_iff.mp hread) .read
  refine ⟨line, hline, Stage.ne_drafted_of_reaches hreaches ?_⟩
  rintro rfl
  rw [← ChangeSet.preview_of_stage hstage] at hpreview
  cases hpreview

theorem Lived.shown_of_waives (hlived : Lived ids pool.world.records pool.trace)
    {key device owner digest : String} (hdoes : served.Does (historyOf id pool.trace)
      (.coordinator (.waiveApproval key device owner digest))) :
    ∃ line, ledger key pool.trace = some line ∧ line.stage ≠ .drafted := by
  obtain ⟨updated, hupdate, rfl⟩ := Served.waives hdoes.allowed
  exact hlived.written (mem_historyOf_iff.mp hupdate)

/-- **What an operation on the records does to a line.** -/
theorem Lived.moves (laws : coordinator.Lawful)
    (h : Reachable (serverMachine coordinator ttl) pool)
    (hlived : Lived ids pool.world.records pool.trace)
    (hdoes : served.Does (historyOf id pool.trace) (.coordinator op))
    (hstep : coordinator.Step pool.world.records op reply records') (key : String) :
    op.Moves key reply (ledger key pool.trace)
      (op.lineAfter key (ledger key pool.trace) reply) := by
  cases op with
  | changeSet id device => exact .stays
  | changeSets => exact .stays
  | createChangeSet device actions owner fingerprint policy =>
    cases reply with
    | error error => exact .stays
    | ok output =>
      rw [lineAfter_create]
      split_ifs with hkey
      · -- the id of a new record is not in use
        cases hline : ledger key pool.trace with
        | none => exact .opens hkey
        | some line => exact absurd (hkey ▸ hlived.used hline) (ids.created hstep).1
      · exact .stays
  | updateChangeSet updated =>
    cases reply with
    | error error => exact .stays
    | ok _ =>
      rw [lineAfter_update]
      split_ifs with hkey
      · subst hkey
        obtain ⟨⟨terms, stage⟩, stage', hline, rfl, hstage, hnext⟩ :=
          hlived.next_of_update laws h hdoes
        rw [hline, ChangeSet.line_of_stage hstage]
        exact .writes rfl hnext
      · exact .stays
  | approveChangeSet id' device approver digest actor =>
    cases reply with
    | error error => exact .stays
    | ok output =>
      rw [lineAfter_approve]
      split_ifs with hkey
      · subst hkey
        obtain ⟨line, hline, -⟩ := hlived.shown_of_approves hdoes
        rw [hline]
        exact line.moves_approve
      · exact .stays
  | waiveApproval id' device owner digest =>
    cases reply with
    | error error => exact .stays
    | ok output =>
      rw [lineAfter_waive]
      split_ifs with hkey
      · subst hkey
        obtain ⟨line, hline, -⟩ := hlived.shown_of_waives hdoes
        rw [hline]
        exact line.moves_approve
      · exact .stays
  | claimChangeSetForApply id' device =>
    cases reply with
    | error error => exact .stays
    | ok claimed =>
      rw [lineAfter_claim]
      split_ifs with hkey
      · subst hkey
        obtain ⟨⟨terms, stage⟩, preview, hline, rfl, rfl, hstage⟩ :=
          hlived.next_of_claim laws hstep
        rw [hline, ChangeSet.line_of_stage hstage]
        exact .claims
      · exact .stays

/-- A record that is approved has been shown, and is not spent. -/
theorem Lived.shows_of_approval (laws : coordinator.Lawful)
    (hlived : Lived ids pool.world.records pool.trace)
    (hstep : coordinator.Step pool.world.records op reply records') {key : String}
    {old : ChangeSet} (hold : coordinator.find pool.world.records key = some old)
    (hfind : coordinator.find records' key = some { old with state := .approved })
    (hshown : ∃ line, ledger key pool.trace = some line ∧ line.stage ≠ .drafted) :
    ∃ line, (ledger key pool.trace).map Line.approve = some line ∧
      line.Shows { old with state := .approved } := by
  obtain ⟨line, hline, hne⟩ := hshown
  obtain ⟨line', hline', hterms, stage, hstage, hshown⟩ := hlived.stored hold
  obtain rfl := Option.some.inj (hline.symm.trans hline')
  have hfields := ChangeSet.stage_eq_some_iff.mp hstage
  have hunspent : ¬ old.state.isSpent := fun hspent =>
    laws.unapproved (laws.spent hstep (laws.settled hold hspent)) hfind rfl
  have happroved (preview : PreviewRecord) (hpreview : old.preview = some preview)
      (htask : old.taskId = none)
      (hstage : line.stage = .previewed preview ∨ line.stage = .approved preview) :
      ∃ line', (ledger key pool.trace).map Line.approve = some line' ∧
        line'.Shows { old with state := .approved } := by
    refine ⟨line.approve, by rw [hline', Option.map_some], line.terms_approve.trans hterms,
      .approved preview, ChangeSet.stage_eq_some_iff.mpr (by simp [Stage.fields, hpreview, htask]),
      .inl ?_⟩
    rcases hstage with hstage | hstage <;> simp [Line.approve, hstage]
  cases stage with
  | drafted =>
    rcases hshown with hshown | ⟨_, heq, -⟩
    · exact absurd hshown hne
    · cases heq
  | previewed preview =>
    simp only [Stage.fields, Prod.mk.injEq] at hfields
    refine happroved preview hfields.2.1 hfields.2.2 (hshown.imp id ?_)
    rintro ⟨_, ⟨⟩, hshown⟩
    exact hshown
  | approved preview =>
    simp only [Stage.fields, Prod.mk.injEq] at hfields
    refine happroved preview hfields.2.1 hfields.2.2 (.inr ?_)
    rcases hshown with hshown | ⟨_, heq, -⟩
    · exact hshown
    · cases heq
  | settled preview succeeded =>
    cases succeeded <;>
      exact absurd (by rw [(Prod.mk.inj hfields).1]; rfl) hunspent
  | _ => exact absurd (by rw [(Prod.mk.inj hfields).1]; rfl) hunspent

/-- What an operation has written is what the line shows then. -/
theorem Lived.shows_of_writes (laws : coordinator.Lawful)
    (h : Reachable (serverMachine coordinator ttl) pool)
    (hlived : Lived ids pool.world.records pool.trace)
    (hdoes : served.Does (historyOf id pool.trace) (.coordinator op))
    (hstep : coordinator.Step pool.world.records op reply records') {record : ChangeSet}
    (hfind : coordinator.find records' record.id = some record)
    (hwrites : op.Writes (coordinator.find pool.world.records record.id) reply record) :
    ∃ line, op.lineAfter record.id (ledger record.id pool.trace) reply = some line ∧
      line.Shows record := by
  generalize hbefore : coordinator.find pool.world.records record.id = before at hwrites
  cases hwrites with
  | created _ hid hdevice hactions howner hfingerprint hplanned hbare =>
    rw [lineAfter_create, if_pos hid.symm]
    refine ⟨_, rfl, ?_, .drafted, ChangeSet.stage_eq_some_iff.mpr ?_, .inl rfl⟩
    · rw [ChangeSet.terms, hdevice, hactions, howner, hfingerprint]
    · simp [Stage.fields, hplanned, hbare]
  | updated =>
    obtain ⟨-, stage, -, -, hstage, -⟩ := hlived.next_of_update laws h hdoes
    rw [lineAfter_update, if_pos rfl]
    exact ⟨_, ChangeSet.line_of_stage hstage, .of_stage hstage⟩
  | approved hstored hid =>
    subst hstored
    rw [lineAfter_approve, if_pos hid.symm]
    exact hlived.shows_of_approval laws hstep hbefore hfind
      (hid ▸ hlived.shown_of_approves hdoes)
  | waived hstored hid =>
    subst hstored
    rw [lineAfter_waive, if_pos hid.symm]
    exact hlived.shows_of_approval laws hstep hbefore hfind (hid ▸ hlived.shown_of_waives hdoes)
  | claimed hstored hid =>
    obtain ⟨-, preview, -, -, -, hstage⟩ := hlived.next_of_claim laws hstep
    rw [lineAfter_claim, if_pos hid.symm]
    exact ⟨_, ChangeSet.line_of_stage hstage, .of_stage hstage⟩

/-- What an operation leaves as it was is what the line still shows. -/
theorem Lived.shows_of_kept (laws : coordinator.Lawful)
    (h : Reachable (serverMachine coordinator ttl) pool)
    (hlived : Lived ids pool.world.records pool.trace)
    (hdoes : served.Does (historyOf id pool.trace) (.coordinator op))
    (hstep : coordinator.Step pool.world.records op reply records') {record : ChangeSet}
    (hfind : coordinator.find records' record.id = some record)
    (hold : coordinator.find pool.world.records record.id = some record) :
    ∃ line, op.lineAfter record.id (ledger record.id pool.trace) reply = some line ∧
      line.Shows record := by
  have hmoves := hlived.moves laws h hdoes hstep record.id
  obtain ⟨line, hline, hshows⟩ := hlived.stored hold
  generalize ledger record.id pool.trace = before at hline hmoves ⊢
  generalize hafter : op.lineAfter record.id before reply = after at hmoves ⊢
  cases hmoves with
  | stays => exact ⟨line, hline, hshows⟩
  | opens => cases hline
  | writes hid =>
    -- the record stored is the one written
    obtain ⟨-, stage, -, -, hstage, -⟩ := hlived.next_of_update laws h hdoes
    have hnew := laws.stores hstep
    rw [hid] at hnew
    obtain rfl := Option.some.inj (hnew.symm.trans hfind)
    rw [lineAfter_update, if_pos rfl, ChangeSet.line_of_stage hstage] at hafter
    exact ⟨_, hafter.symm, .of_stage hstage⟩
  | approves =>
    obtain rfl := Option.some.inj hline
    obtain ⟨hterms, stage, hstage, hshown⟩ := hshows
    refine ⟨_, rfl, hterms, stage, hstage, .inr ?_⟩
    rcases hshown with rfl | ⟨_, -, heq⟩
    · exact ⟨_, rfl, rfl⟩
    · cases heq
  | claims =>
    obtain ⟨-, preview, -, -, -, hstage⟩ := hlived.next_of_claim laws hstep
    obtain ⟨-, -, -, -, -, hnew⟩ := laws.claims hstep
    obtain rfl := Option.some.inj (hnew.symm.trans hfind)
    rw [lineAfter_claim, if_pos rfl, ChangeSet.line_of_stage hstage] at hafter
    exact ⟨_, hafter.symm, .of_stage hstage⟩

/-- **What is stored after an operation** is what the line shows then. -/
theorem Lived.shows_of_operation (laws : coordinator.Lawful)
    (h : Reachable (serverMachine coordinator ttl) pool)
    (hlived : Lived ids pool.world.records pool.trace)
    (hdoes : served.Does (historyOf id pool.trace) (.coordinator op))
    (hstep : coordinator.Step pool.world.records op reply records') {key : String}
    {record : ChangeSet} (hfind : coordinator.find records' key = some record) :
    ∃ line, ledger key (.event id ⟨.coordinator op, reply⟩ :: pool.trace) = some line ∧
      line.Shows record := by
  obtain rfl := laws.id_of_find hfind
  rw [ledger_coordinator]
  rcases laws.writes hstep hfind with hold | hwrites
  · exact hlived.shows_of_kept laws h hdoes hstep hfind hold
  · exact hlived.shows_of_writes laws h hdoes hstep hfind hwrites

/-- Whatever an operation answers about a change set is what its line says then. -/
theorem Lived.shows_of_answers (laws : coordinator.Lawful)
    (h : Reachable (serverMachine coordinator ttl) pool)
    (hlived : Lived ids pool.world.records pool.trace)
    (hdoes : served.Does (historyOf id pool.trace) (.coordinator op))
    (hstep : coordinator.Step pool.world.records op reply records') {key device : String}
    {record : ChangeSet} (hanswers : Answers ⟨.coordinator op, reply⟩ key device record) :
    ∃ line, ledger key (.event id ⟨.coordinator op, reply⟩ :: pool.trace) = some line ∧
      line.Shows record := by
  cases hanswers with
  | read => exact hlived.stored (laws.read hstep).1
  | listed hrecord => exact hlived.stored (laws.listed hstep hrecord)
  | claimed =>
    obtain ⟨-, -, -, -, -, hnew⟩ := laws.claims hstep
    exact hlived.shows_of_operation laws h hdoes hstep hnew

/-- A line that is claimed is moved on by its apply alone. -/
theorem Lived.unwritten_of_operation (laws : coordinator.Lawful)
    (h : Reachable (serverMachine coordinator ttl) pool)
    (hlived : Lived ids pool.world.records pool.trace)
    (hdoes : served.Does (historyOf id pool.trace) (.coordinator op))
    (hstep : coordinator.Step pool.world.records op reply records') {id' : ℕ} {key device : String}
    {claimed : ChangeSet} (hclaim : .event id'
      ⟨.coordinator (.claimChangeSetForApply key device), .ok claimed⟩ ∈ pool.trace)
    (hwrites : ∀ updated, updated.id = key → .event id'
      ⟨.coordinator (.updateChangeSet updated), .ok ()⟩ ∉
        (.event id ⟨.coordinator op, reply⟩ :: pool.trace : ServerTrace)) :
    ∃ line preview, ledger key (.event id ⟨.coordinator op, reply⟩ :: pool.trace) = some line ∧
      line.stage = .claimed preview := by
  obtain ⟨line, preview, hline, hstage⟩ := hlived.unwritten hclaim
    fun updated hid hmem => hwrites updated hid (List.mem_cons_of_mem _ hmem)
  have hmoves := hlived.moves laws h hdoes hstep key
  rw [ledger_coordinator]
  have hledger := hline
  generalize ledger key pool.trace = before at hledger hmoves ⊢
  generalize op.lineAfter key before reply = after at hmoves ⊢
  cases hmoves with
  | stays => exact ⟨line, preview, hledger, hstage⟩
  | opens => cases hledger
  | approves =>
    obtain rfl := Option.some.inj hledger
    cases hstage
  | claims =>
    obtain rfl := Option.some.inj hledger
    cases hstage
  | @writes updated _ _ hid =>
    subst hid
    exfalso
    -- whoever writes is the apply that has claimed the line
    cases Served.updates hdoes.allowed with
    | settles hcall _ _ =>
      obtain ⟨device', claimed', hclaim'⟩ :=
        claimed_of_update laws h hcall (Served.updates hdoes.allowed)
      have hentry := (kept_of_reachable laws h).eq_of_spends hclaim hclaim' ⟨_, _, _, rfl⟩
        ⟨_, _, _, rfl⟩
      obtain ⟨rfl, -⟩ := Entry.event.inj hentry
      exact hwrites updated rfl List.mem_cons_self
    | previews _ hpreviews =>
      exact not_spends_of_previews laws ids h hpreviews hclaim ⟨_, _, _, rfl⟩
    | recovers _ hrecovers =>
      obtain ⟨line', _, _, _, hline', -, hreaches, -⟩ := hlived.following_of_recovers hrecovers
      obtain rfl := Option.some.inj (hline.symm.trans hline')
      rw [hstage] at hreaches
      rcases Stage.eq_following_of_reaches hreaches with heq | ⟨_, heq⟩ <;> cases heq

/-- A line that has been shown has been shown by a plan. -/
theorem Lived.previewed_of_operation (laws : coordinator.Lawful)
    (h : Reachable (serverMachine coordinator ttl) pool)
    (hlived : Lived ids pool.world.records pool.trace) (hstart : .start id served ∈ pool.trace)
    (hdoes : served.Does (historyOf id pool.trace) (.coordinator op))
    (hstep : coordinator.Step pool.world.records op reply records') {key : String} {line : Line}
    (hline : ledger key (.event id ⟨.coordinator op, reply⟩ :: pool.trace) = some line)
    (hstage : line.stage ≠ .drafted) :
    ∃ id' served' plan updated, .start id' served' ∈
        (.event id ⟨.coordinator op, reply⟩ :: pool.trace : ServerTrace) ∧
      served'.planCall = some plan ∧ updated.id = key ∧
      .event id' ⟨.coordinator (.updateChangeSet updated), .ok ()⟩ ∈
        (.event id ⟨.coordinator op, reply⟩ :: pool.trace : ServerTrace) := by
  have hmoves := hlived.moves laws h hdoes hstep key
  have hbefore {line' : Line} (hline' : ledger key pool.trace = some line')
      (hstage' : line'.stage ≠ .drafted) : ∃ id' served' plan updated, .start id' served' ∈
        (.event id ⟨.coordinator op, reply⟩ :: pool.trace : ServerTrace) ∧
      served'.planCall = some plan ∧ updated.id = key ∧
      .event id' ⟨.coordinator (.updateChangeSet updated), .ok ()⟩ ∈
        (.event id ⟨.coordinator op, reply⟩ :: pool.trace : ServerTrace) := by
    obtain ⟨id', served', plan, updated, hmem, hplan, hid, hevent⟩ :=
      hlived.previewed hline' hstage'
    exact ⟨id', served', plan, updated, .tail _ hmem, hplan, hid, .tail _ hevent⟩
  rw [ledger_coordinator] at hline
  generalize hledger : ledger key pool.trace = before at hline hmoves
  generalize op.lineAfter key before reply = after at hline hmoves
  cases hmoves with
  | stays => exact hbefore (hledger.trans hline) hstage
  | opens =>
    obtain rfl := Option.some.inj hline
    exact absurd rfl hstage
  | approves => exact hbefore hledger (by simp)
  | claims => exact hbefore hledger (by simp)
  | @writes updated stage _ hid =>
    by_cases hdrafted : stage = .drafted
    · -- an apply writes to what is claimed, and a recovery to what is followed
      subst hid hdrafted
      cases Served.updates hdoes.allowed with
      | previews hplan _ => exact ⟨id, served, _, updated, .tail _ hstart, hplan, rfl, .head _⟩
      | settles _ hclaimed hsettles =>
        obtain ⟨line', _, hline', -, -, hreaches, -⟩ := hlived.reaches_of_claimed laws h hclaimed
        rw [← hsettles.revises.id] at hline'
        obtain rfl := Option.some.inj (hledger.symm.trans hline')
        exact absurd rfl (Stage.ne_drafted_of_reaches hreaches (by simp))
      | recovers _ hrecovers =>
        obtain ⟨line', _, _, _, hline', -, hreaches, -⟩ := hlived.following_of_recovers hrecovers
        obtain rfl := Option.some.inj (hledger.symm.trans hline')
        exact absurd rfl (Stage.ne_drafted_of_reaches hreaches (by simp))
    · exact hbefore hledger hdrafted

/-- An id under which a line has been opened is in use. -/
theorem Lived.used_of_operation (laws : coordinator.Lawful)
    (h : Reachable (serverMachine coordinator ttl) pool)
    (hlived : Lived ids pool.world.records pool.trace)
    (hdoes : served.Does (historyOf id pool.trace) (.coordinator op))
    (hstep : coordinator.Step pool.world.records op reply records') {key : String} {line : Line}
    (hline : ledger key (.event id ⟨.coordinator op, reply⟩ :: pool.trace) = some line) :
    ids.Used records' key := by
  have hmoves := hlived.moves laws h hdoes hstep key
  have hbefore {line' : Line} (hline' : ledger key pool.trace = some line') :
      ids.Used records' key := ids.kept hstep (hlived.used hline')
  rw [ledger_coordinator] at hline
  generalize hledger : ledger key pool.trace = before at hline hmoves
  generalize op.lineAfter key before reply = after at hline hmoves
  cases hmoves with
  | stays => exact hbefore (hledger.trans hline)
  | opens hkey => exact hkey ▸ (ids.created hstep).2
  | writes => exact hbefore hledger
  | approves => exact hbefore hledger
  | claims => exact hbefore hledger

/-- **An operation on the records keeps the life of the lines.** -/
theorem Lived.operation (laws : coordinator.Lawful)
    (h : Reachable (serverMachine coordinator ttl) pool)
    (hlived : Lived ids pool.world.records pool.trace) (hstart : .start id served ∈ pool.trace)
    (hdoes : served.Does (historyOf id pool.trace) (.coordinator op))
    (hstep : coordinator.Step pool.world.records op reply records') :
    Lived ids records' (.event id ⟨.coordinator op, reply⟩ :: pool.trace) := by
  have hgoes {key : String} {line : Line} (hline : ledger key pool.trace = some line) :
      ∃ line', ledger key (.event id ⟨.coordinator op, reply⟩ :: pool.trace) = some line' ∧
        line'.terms = line.terms ∧ line.stage.Reaches line'.stage :=
    Line.Advances.exists_reaches (hline ▸ (hlived.moves laws h hdoes hstep key).advances)
  refine ⟨hlived.shows_of_operation laws h hdoes hstep, fun hmem hanswers => ?_,
    hlived.used_of_operation laws h hdoes hstep, fun hmem => ?_,
    hlived.previewed_of_operation laws h hstart hdoes hstep, fun hmem => ?_,
    fun hmem hwrites => ?_⟩
  · rcases List.mem_cons.mp hmem with heq | hmem
    · obtain ⟨rfl, rfl⟩ := Entry.event.inj heq
      obtain ⟨line, hline, hshows⟩ := hlived.shows_of_answers laws h hdoes hstep hanswers
      obtain ⟨stage, hstage, hreaches⟩ := hshows.reaches
      exact ⟨line, stage, hline, hshows.terms, hstage, hreaches⟩
    · obtain ⟨line, stage, hline, hterms, hstage, hreaches⟩ := hlived.answered hmem hanswers
      obtain ⟨line', hline', hterms', hreaches'⟩ := hgoes hline
      exact ⟨line', stage, hline', hterms'.trans hterms, hstage, hreaches.trans hreaches'⟩
  · rcases List.mem_cons.mp hmem with heq | hmem
    · obtain ⟨rfl, heq⟩ := Entry.event.inj heq
      cases heq
      obtain ⟨_, _, -, -, hstage, hnext⟩ := hlived.next_of_update laws h hdoes
      exact ⟨_, ledger_update.trans (ChangeSet.line_of_stage hstage),
        Stage.ne_drafted_of_next hnext⟩
    · obtain ⟨line, hline, hne⟩ := hlived.written hmem
      obtain ⟨line', hline', -, hreaches⟩ := hgoes hline
      exact ⟨line', hline', Stage.ne_drafted_of_reaches hreaches hne⟩
  · rcases List.mem_cons.mp hmem with heq | hmem
    · obtain ⟨rfl, heq⟩ := Entry.event.inj heq
      cases heq
      obtain ⟨-, preview, -, -, -, hstage⟩ := hlived.next_of_claim laws hstep
      exact ⟨preview, hstage⟩
    · exact hlived.claimed hmem
  · rcases List.mem_cons.mp hmem with heq | hmem
    · obtain ⟨rfl, heq⟩ := Entry.event.inj heq
      cases heq
      obtain ⟨-, preview, -, -, -, hstage⟩ := hlived.next_of_claim laws hstep
      exact ⟨_, preview, ledger_claim.trans (ChangeSet.line_of_stage hstage), rfl⟩
    · exact hlived.unwritten_of_operation laws h hdoes hstep hmem hwrites

end Operations

/-! ### Runs -/

section Runs

variable {pool : Pool (serverMachine coordinator ttl)} {ids : coordinator.Ids}

/-- An entry that is not about the records keeps the life of the lines. -/
theorem Lived.cons {records : coordinator.State} {trace : ServerTrace}
    (hlived : Lived ids records trace) {entry : Entry Effect Served CallResult}
    (hentry : ∀ id op reply, entry ≠ .event id ⟨.coordinator op, reply⟩) :
    Lived ids records (entry :: trace) := by
  have hledger (key : String) : ledger key (entry :: trace) = ledger key trace :=
    ledger_cons hentry
  have hmem {id : ℕ} {op : CoordinatorOp} {reply : op.Reply}
      (hmem : .event id ⟨.coordinator op, reply⟩ ∈ entry :: trace) :
      .event id ⟨.coordinator op, reply⟩ ∈ trace :=
    (List.mem_cons.mp hmem).resolve_left (hentry _ _ _).symm
  refine ⟨fun hfind => ?_, fun hevent hanswers => ?_, fun hline => ?_, fun hevent => ?_,
    fun hline hstage => ?_, fun hevent => hlived.claimed (hmem hevent), fun hevent hwrites => ?_⟩
  · rw [hledger]
    exact hlived.stored hfind
  · rw [hledger]
    cases hanswers with
    | read => exact hlived.answered (hmem hevent) .read
    | listed hrecord => exact hlived.answered (hmem hevent) (.listed hrecord)
    | claimed => exact hlived.answered (hmem hevent) .claimed
  · rw [hledger] at hline
    exact hlived.used hline
  · rw [hledger]
    exact hlived.written (hmem hevent)
  · rw [hledger] at hline
    obtain ⟨id, served, plan, updated, hstart, hplan, hid, hevent⟩ :=
      hlived.previewed hline hstage
    exact ⟨id, served, plan, updated, .tail _ hstart, hplan, hid, .tail _ hevent⟩
  · rw [hledger]
    exact hlived.unwritten (hmem hevent) fun updated hid h => hwrites updated hid (.tail _ h)

/-- **The lines of every run live.** -/
theorem lived_of_reachable (laws : coordinator.Lawful)
    (h : Reachable (serverMachine coordinator ttl) pool) :
    Lived ids pool.world.records pool.trace := by
  refine h.invariant (outcomeGuarantee coordinator ttl)
    (I := fun world trace => Lived ids world.records trace) ?_ ?_ ?_ ?_ ?_ ?_ ?_
  · rintro world ⟨-, hinitial⟩
    exact ⟨fun hfind => by simp [laws.empty hinitial] at hfind,
      fun hmem => absurd hmem List.not_mem_nil, fun hline => by simp [ledger] at hline,
      fun hmem => absurd hmem List.not_mem_nil, fun hline => by simp [ledger] at hline,
      fun hmem => absurd hmem List.not_mem_nil, fun hmem => absurd hmem List.not_mem_nil⟩
  · exact fun pool id call _ hlived _ => hlived.cons fun _ _ _ heq => by cases heq
  · intro pool id served op reply world' h hlived hstart _ hdoes hstep
    cases hstep with
    | coordinator hstep => exact hlived.operation laws h hstart hdoes hstep
    | _ => exact hlived.cons fun _ _ _ heq => by cases heq
  · exact fun pool id _ _ _ hlived _ _ => hlived.cons fun _ _ _ heq => by cases heq
  · exact fun pool id _ hlived => hlived.cons fun _ _ _ heq => by cases heq
  · rintro pool world' - hlived ⟨now, -, rfl⟩
    exact hlived.cons fun _ _ _ heq => by cases heq
  · rintro pool world' - hlived ⟨-, hrecords⟩
    rw [hrecords]
    exact hlived.cons fun _ _ _ heq => by cases heq

theorem LifeCycle.cons {trace : ServerTrace} (hcycle : LifeCycle trace)
    {entry : Entry Effect Served CallResult}
    (hadvances : ∀ key, Line.Advances (ledger key trace) (ledger key (entry :: trace)))
    (hanswers : ∀ {id event key device record}, entry = .event id event →
      Answers event key device record →
        ∃ line, ledger key (entry :: trace) = some line ∧ line.Shows record) :
    LifeCycle (entry :: trace) where
  advances {newer older entry'} key htrace := by
    cases newer with
    | nil =>
      obtain ⟨rfl, rfl⟩ := List.cons.inj htrace
      exact hadvances key
    | cons _ newer => exact hcycle.advances key (List.cons.inj htrace).2
  answers {newer older id event key device record} htrace hrecord := by
    cases newer with
    | nil =>
      obtain ⟨rfl, rfl⟩ := List.cons.inj htrace
      exact hanswers rfl hrecord
    | cons _ newer => exact hcycle.answers (List.cons.inj htrace).2 hrecord

/-- An entry that is not about the records leaves the lines as they are. -/
theorem LifeCycle.cons_aside {trace : ServerTrace} (hcycle : LifeCycle trace)
    {entry : Entry Effect Served CallResult}
    (hentry : ∀ id op reply, entry ≠ .event id ⟨.coordinator op, reply⟩) :
    LifeCycle (entry :: trace) := by
  refine hcycle.cons (fun key => ledger_cons hentry ▸ .stays _) ?_
  rintro id event key device record rfl hanswers
  cases hanswers <;> exact absurd rfl (hentry _ _ _)

/-- **Change sets live as `Stage.Next` says**, in every run over a lawful coordinator. -/
theorem lifeCycle_of_reachable (laws : coordinator.Lawful) (ids : coordinator.Ids)
    (h : Reachable (serverMachine coordinator ttl) pool) : LifeCycle pool.trace := by
  refine h.invariant (outcomeGuarantee coordinator ttl) (I := fun _ trace => LifeCycle trace)
    ?_ ?_ ?_ ?_ ?_ ?_ ?_
  · exact fun world _ => ⟨fun key htrace => by simp at htrace, fun htrace => by simp at htrace⟩
  · exact fun pool id call _ hcycle _ => hcycle.cons_aside fun _ _ _ heq => by cases heq
  · intro pool id served op reply world' h hcycle hstart _ hdoes hstep
    cases hstep with
    | coordinator hstep =>
      have hlived : Lived ids pool.world.records pool.trace := lived_of_reachable laws h
      refine hcycle.cons (fun key => (hlived.moves laws h hdoes hstep key).advances) ?_
      rintro _ _ key device record ⟨⟩ hanswers
      exact hlived.shows_of_answers laws h hdoes hstep hanswers
    | _ => exact hcycle.cons_aside fun _ _ _ heq => by cases heq
  · exact fun pool id _ _ _ hcycle _ _ => hcycle.cons_aside fun _ _ _ heq => by cases heq
  · exact fun pool id _ hcycle => hcycle.cons_aside fun _ _ _ heq => by cases heq
  · exact fun pool world' _ hcycle _ => hcycle.cons_aside fun _ _ _ heq => by cases heq
  · exact fun pool world' _ hcycle _ => hcycle.cons_aside fun _ _ _ heq => by cases heq

/-- **What is reviewed is what is applied**: two answers about one change set, to any calls at any
times, are about the same, and if both hold a preview it is the same text. -/
theorem same_of_answers (laws : coordinator.Lawful) (ids : coordinator.Ids)
    (h : Reachable (serverMachine coordinator ttl) pool) {id id' : ℕ} {event event' : Event Effect}
    {key device device' : String} {record record' : ChangeSet}
    (hmem : .event id event ∈ pool.trace) (hmem' : .event id' event' ∈ pool.trace)
    (hanswers : Answers event key device record)
    (hanswers' : Answers event' key device' record') :
    record.terms = record'.terms ∧ ∀ preview preview', record.preview = some preview →
      record'.preview = some preview' → preview = preview' := by
  have hlived : Lived ids pool.world.records pool.trace := lived_of_reachable laws h
  obtain ⟨line, stage, hline, hterms, hstage, hreaches⟩ := hlived.answered hmem hanswers
  obtain ⟨line', stage', hline', hterms', hstage', hreaches'⟩ := hlived.answered hmem' hanswers'
  obtain rfl := Option.some.inj (hline.symm.trans hline')
  refine ⟨hterms.symm.trans hterms', fun preview preview' hpreview hpreview' => ?_⟩
  -- both texts are that of the line
  have htext := Stage.preview_of_reaches hreaches
    ((ChangeSet.preview_of_stage hstage).trans hpreview)
  have htext' := Stage.preview_of_reaches hreaches'
    ((ChangeSet.preview_of_stage hstage').trans hpreview')
  exact Option.some.inj (htext.symm.trans htext')

end Runs

/-! ### The life of a copy -/

section Copied

omit [Externals]

/-- A copy is planned, approved and applied, up to its request. -/
theorem exists_reachable_copy : ∃ pool : Pool memoryMachine, Reachable memoryMachine pool ∧
    .event 0 ⟨.coordinator .changeSets, [createdCopy]⟩ ∈ pool.trace ∧
    .event 1 ⟨.coordinator (.changeSet "cs-1" "pve/901"), .ok plannedCopy⟩ ∈ pool.trace ∧
    .start 2 copyCall ∈ pool.trace ∧
    .event 2 ⟨.http (.dispatch "pve" copyRequest), (42 : ℕ)⟩ ∈ pool.trace := by
  let _ : Externals := Externals.plain
  have hempty : Reachable memoryMachine ⟨⟨⟨fun _ => none, 0, 0⟩, .empty⟩, fun _ => none, []⟩ :=
    .initial ⟨rfl, rfl⟩
  obtain ⟨planned, approved, applied, hplan, happrove, happly⟩ := performs_copy
  obtain ⟨_, hplanned⟩ := planCopyCall_reaches
  obtain ⟨pool, hpool, hworld, htrace⟩ := @Reachable.call _ _ _ hempty 0 planCopyCall _ _ _ _ _
    (fun _ => List.not_mem_nil) hplanned hplan
  have hlength : pool.trace.length = 19 := by
    simp [htrace, planCopyEvents, archiveEvents, storedOwner, fetchedOwner]
  rw [← hworld, show 20 = pool.trace.length + 1 by rw [hlength]] at happrove
  obtain ⟨_, happroved⟩ := approveCopyCall_reaches
  obtain ⟨pool', hpool', hworld', htrace'⟩ := @Reachable.call _ _ _ hpool 1 approveCopyCall _ _ _ _
    _ (by simp [Fresh, htrace]) happroved happrove
  have hlength' : pool'.trace.length = 28 := by
    simp [htrace', hlength, approveCopyEvents, storedOwner, fetchedOwner]
  rw [← hworld', show 29 = pool'.trace.length + 1 by rw [hlength']] at happly
  obtain ⟨_, happlied⟩ := copyCall_reaches_of_cached 2 30 23 38
  obtain ⟨final, hfinal, -, htrace₂⟩ := @Reachable.call _ _ _ hpool' 2 copyCall _ _ _ _ _
    (by simp [Fresh, htrace', htrace]) happlied happly
  refine ⟨final, hfinal, ?_, ?_, by simp [htrace₂], by simp [htrace₂]⟩
  · simp [htrace₂, htrace', htrace, planCopyEvents]
  · simp [htrace₂, htrace', approveCopyEvents]

/-- The line of the copy goes through its stages. -/
theorem lifeCycle_copy : ∃ pool : Pool memoryMachine,
    .event 2 ⟨.http (.dispatch "pve" copyRequest), (42 : ℕ)⟩ ∈ pool.trace ∧
      @LifeCycle Externals.plain pool.trace := by
  obtain ⟨pool, hpool, -, -, -, hsent⟩ := exists_reachable_copy
  exact ⟨pool, hsent, @lifeCycle_of_reachable Externals.plain _ _ _ Coordinator.lawful_inMemory
    Coordinator.inMemoryIds hpool⟩

/-- The approver of the copy reads of the actions that were planned. -/
theorem terms_copy : createdCopy.terms = plannedCopy.terms := by
  obtain ⟨pool, hpool, hcreated, hplanned, -⟩ := exists_reachable_copy
  exact (@same_of_answers Externals.plain _ _ _ Coordinator.lawful_inMemory Coordinator.inMemoryIds
    hpool _ _ _ _ _ _ _ _ _ hcreated hplanned (.listed (List.mem_singleton_self _)) .read).1

end Copied

end ProxmoxMcp
