import ProxmoxMcp.Server.HonestOutcomes

/-!
# The records of clear runs

`Settled` is what holds of the records of a clear run, at every moment: every record stored or
answered is honest, a claimed record is spent, and the handle that an apply has written stays.

Two facts about whole runs carry it. A record is claimed once, and so settled by one apply. And an
id is given out once, so a plan stores its preview before anyone can have claimed the record.
-/

namespace ProxmoxMcp

open Interaction Text
open Program hiding bind

variable [Externals] {coordinator : Coordinator} {ttl : ℕ}

/-! ### Ids are given out once -/

/-- An entry gives out an id. -/
def Creates (key : String) (entry : Entry Effect Served CallResult) : Prop :=
  ∃ id device actions owner fingerprint policy output,
    entry = .event id ⟨.coordinator (.createChangeSet device actions owner fingerprint policy),
      .ok output⟩ ∧ output.changeSetId = key

/-- No id of a run is given out twice. -/
structure CreatedOnce (ids : coordinator.Ids) (records : coordinator.State) (trace : ServerTrace) :
    Prop where
  used : ∀ {entry key}, entry ∈ trace → Creates key entry → ids.Used records key
  once : trace.Pairwise fun entry entry' => ∀ key, Creates key entry → ¬ Creates key entry'

section Created

variable {ids : coordinator.Ids} {records : coordinator.State} {trace : ServerTrace}
  {entry entry' : Entry Effect Served CallResult} {key : String}

omit [Externals] in
theorem CreatedOnce.cons (hcreated : CreatedOnce ids records trace)
    (hentry : ∀ id op reply, entry ≠ .event id ⟨.coordinator op, reply⟩) :
    CreatedOnce ids records (entry :: trace) := by
  have hnot (key : String) : ¬ Creates key entry := by
    rintro ⟨id, device, actions, owner, fingerprint, policy, output, heq, -⟩
    exact hentry _ _ _ heq
  refine ⟨fun hmem hcreates => ?_,
    List.pairwise_cons.mpr ⟨fun _ _ key hcreates => ?_, hcreated.once⟩⟩
  · rcases List.mem_cons.mp hmem with rfl | hmem
    · exact absurd hcreates (hnot _)
    · exact hcreated.used hmem hcreates
  · exact absurd hcreates (hnot key)

omit [Externals] in
theorem CreatedOnce.operation (hcreated : CreatedOnce ids records trace) {id : ℕ}
    {op : CoordinatorOp} {reply : op.Reply} {records' : coordinator.State}
    (hstep : coordinator.Step records op reply records') :
    CreatedOnce ids records' (.event id ⟨.coordinator op, reply⟩ :: trace) := by
  refine ⟨fun hmem hcreates => ?_, List.pairwise_cons.mpr
    ⟨fun entry hmem key hcreates hcreates' => ?_, hcreated.once⟩⟩
  · rcases List.mem_cons.mp hmem with rfl | hmem
    · obtain ⟨id', device, actions, owner, fingerprint, policy, output, heq, rfl⟩ := hcreates
      obtain ⟨-, heq⟩ := Entry.event.inj heq
      cases heq
      exact (ids.created hstep).2
    · exact ids.kept hstep (hcreated.used hmem hcreates)
  · obtain ⟨id', device, actions, owner, fingerprint, policy, output, heq, rfl⟩ := hcreates
    obtain ⟨-, heq⟩ := Entry.event.inj heq
    cases heq
    exact (ids.created hstep).1 (hcreated.used hmem hcreates')

omit [Externals] in
/-- One entry gives out an id. -/
theorem CreatedOnce.eq_of_creates (hcreated : CreatedOnce ids records trace) (hmem : entry ∈ trace)
    (hmem' : entry' ∈ trace) (hcreates : Creates key entry) (hcreates' : Creates key entry') :
    entry = entry' := by
  by_contra hne
  have hsymm : Std.Symm fun entry entry' : Entry Effect Served CallResult =>
      ∀ key, Creates key entry → ¬ Creates key entry' :=
    ⟨fun _ _ h key hcreates hcreates' => h key hcreates' hcreates⟩
  exact hcreated.once.forall hmem hmem' hne key hcreates hcreates'

private theorem createdOnce_of_reachable {pool : Pool (serverMachine coordinator ttl)}
    (h : Reachable (serverMachine coordinator ttl) pool) :
    CreatedOnce ids pool.world.records pool.trace := by
  refine h.invariant (Guarantee.trivial _)
    (I := fun world trace => CreatedOnce ids world.records trace) ?_ ?_ ?_ ?_ ?_ ?_ ?_
  · exact fun world _ => ⟨fun hmem => absurd hmem List.not_mem_nil, .nil⟩
  · exact fun pool id call _ hcreated _ => hcreated.cons fun _ _ _ heq => by cases heq
  · intro pool id served op reply world' _ hcreated _ _ _ hstep
    cases hstep with
    | coordinator hstep => exact hcreated.operation hstep
    | _ => exact hcreated.cons fun _ _ _ heq => by cases heq
  · exact fun pool id _ _ _ hcreated _ _ => hcreated.cons fun _ _ _ heq => by cases heq
  · exact fun pool id _ hcreated => hcreated.cons fun _ _ _ heq => by cases heq
  · rintro pool world' - hcreated ⟨now, -, rfl⟩
    exact hcreated.cons fun _ _ _ heq => by cases heq
  · rintro pool world' - hcreated ⟨-, hrecords⟩
    rw [hrecords]
    exact hcreated.cons fun _ _ _ heq => by cases heq

end Created

section Claimed

variable {pool : Pool (serverMachine coordinator ttl)} {id : ℕ} {served : Served}

/-- A record that is claimed has been given its id. -/
private theorem used_of_spends (laws : coordinator.Lawful) (ids : coordinator.Ids)
    (h : Reachable (serverMachine coordinator ttl) pool) {key : String}
    {entry : Entry Effect Served CallResult} (hmem : entry ∈ pool.trace)
    (hspends : Spends key entry) : ids.Used pool.world.records key := by
  obtain ⟨id, device, claimed, rfl⟩ := hspends
  obtain ⟨rfl, -, htracked⟩ := (kept_of_reachable laws h).answered hmem .claimed
  obtain ⟨family, -, -, -, -, -, hnamed, hevent⟩ := htracked.planned
  exact (createdOnce_of_reachable h).used hevent ⟨_, _, _, _, _, _, _, rfl, hnamed⟩

/-- What an apply writes it has claimed. -/
theorem claimed_of_update (laws : coordinator.Lawful)
    (h : Reachable (serverMachine coordinator ttl) pool) {call : ApplyCall} {updated : ChangeSet}
    (hcall : served.applyCall = some call)
    (hupdates : served.Updates (historyOf id pool.trace) updated) :
    ∃ device claimed, .event id ⟨.coordinator (.claimChangeSetForApply updated.id device),
      .ok claimed⟩ ∈ pool.trace := by
  obtain ⟨claimed, ⟨record, -, hclaim⟩, hsettles⟩ := hupdates.settles_of_apply hcall
  have hmem := mem_historyOf_iff.mp hclaim
  obtain ⟨hid, -, -⟩ := (kept_of_reachable laws h).answered hmem .claimed
  exact ⟨record.device, claimed, by rwa [hsettles.revises.id, hid]⟩

/-- **A plan stores one preview of a record**, and no other plan stores one. -/
theorem not_previewed_of_previews (ids : coordinator.Ids)
    (h : Reachable (serverMachine coordinator ttl) pool) {updated stored : ChangeSet}
    (hpreviews : PlanCall.Previews (historyOf id pool.trace) updated) {id' : ℕ} {served' : Served}
    {plan : PlanCall} (hstart : .start id' served' ∈ pool.trace)
    (hplan : served'.planCall = some plan) (hnamed : stored.id = updated.id) :
    .event id' ⟨.coordinator (.updateChangeSet stored), .ok ()⟩ ∉ pool.trace := by
  intro hevent
  have hcreated := @createdOnce_of_reachable _ _ _ ids _ h
  obtain ⟨newer₂, older₂, htrace₂⟩ := List.append_of_mem hevent
  obtain ⟨-, hdoes₂⟩ := does_of_event h htrace₂ hstart
  obtain @⟨_, _, _, _, _, output₂, _, _, _, _, hhistory₂, -, hid₂, hstored⟩ :=
    (Served.updates hdoes₂.allowed).previews_of_plan hplan
  obtain @⟨_, _, _, _, _, output, _, _, _, _, hhistory, -, hid, hupdated⟩ := hpreviews
  have hsame : output₂.changeSetId = output.changeSetId := by
    rw [← hid₂, ← hid, ← congrArg ChangeSet.id hupdated, ← congrArg ChangeSet.id hstored, hnamed]
  -- it is this plan, since the id was given out once
  obtain ⟨newer₁, older₁, htrace₁, -, rfl⟩ := exists_split_of_historyOf [_] hhistory
  have hmem₂ := mem_historyOf_iff.mp (hhistory₂ ▸ List.mem_cons_of_mem _ List.mem_cons_self)
  have hentry := hcreated.eq_of_creates (htrace₁ ▸ List.mem_append_right _ List.mem_cons_self)
    (htrace₂ ▸ List.mem_append_right _ (List.mem_cons_of_mem _ hmem₂))
    ⟨_, _, _, _, _, _, _, rfl, rfl⟩ ⟨_, _, _, _, _, _, _, rfl, hsame⟩
  obtain ⟨rfl, -⟩ := Entry.event.inj hentry
  -- so the id was given out before the stored preview, and again before this one
  have hsuffix : ⟨.coordinator (.updateChangeSet stored), .ok ()⟩ :: historyOf id older₂ <:+
      historyOf id pool.trace := by
    rw [htrace₂, historyOf_append, historyOf_event_self]
    exact List.suffix_append _ _
  rw [hhistory] at hsuffix
  rcases List.suffix_cons_iff.mp hsuffix with heq | hsuffix
  · cases (List.cons.inj heq).1
  rcases List.suffix_cons_iff.mp hsuffix with heq | hsuffix
  · cases (List.cons.inj heq).1
  have hagain := mem_historyOf_iff.mp ((List.suffix_cons _ _).trans hsuffix |>.subset
    (hhistory₂ ▸ List.mem_cons_of_mem _ List.mem_cons_self))
  have honce := hcreated.once
  rw [htrace₁] at honce
  exact (List.pairwise_cons.mp (List.pairwise_append.mp honce).2.1).1 _ hagain _
    ⟨_, _, _, _, _, _, _, rfl, rfl⟩ ⟨_, _, _, _, _, _, _, rfl, hsame⟩

/-- **A plan stores its preview before anyone has claimed the record**: a claim rests on a stored
preview, and the only plan that stores one is this one, which does it once. -/
theorem not_spends_of_previews (laws : coordinator.Lawful) (ids : coordinator.Ids)
    (h : Reachable (serverMachine coordinator ttl) pool) {updated : ChangeSet}
    (hpreviews : PlanCall.Previews (historyOf id pool.trace) updated)
    {entry : Entry Effect Served CallResult} (hmem : entry ∈ pool.trace) :
    ¬ Spends updated.id entry := by
  rintro ⟨id', device, claimed, rfl⟩
  obtain ⟨newer, older, htrace⟩ := List.append_of_mem hmem
  -- the claim rests on a preview that a plan has stored
  obtain ⟨served', -, hdoes⟩ := h.performed (outcomeGuarantee coordinator ttl) htrace
  obtain ⟨call, record, -, ⟨hread, hpreview, -⟩, hkey, -⟩ := Served.claims hdoes.allowed
  have hread := mem_historyOf_iff.mp hread
  rw [← List.singleton_append, ← List.append_assoc] at htrace
  obtain ⟨-, -, htracked⟩ := (kept_of_reachable laws h).answered
    (htrace ▸ List.mem_append_right _ hread) .read
  obtain ⟨hstart, hplan, hnamed, -, hevent⟩ := htracked.previewed hpreview
  exact not_previewed_of_previews ids h hpreviews hstart hplan (hnamed.trans hkey.symm) hevent

end Claimed

/-! ### The records of a clear run -/

/-- What holds of the records of a clear run. -/
structure Settled (coordinator : Coordinator) (records : coordinator.State) (trace : ServerTrace) :
    Prop where
  stored : ∀ {key record}, coordinator.find records key = some record → Honest trace record
  answered : ∀ {id event key device record}, .event id event ∈ trace →
    Answers event key device record → Honest trace record
  claimed : ∀ {id key device claimed},
    .event id ⟨.coordinator (.claimChangeSetForApply key device), .ok claimed⟩ ∈ trace →
      claimed.state = .applying
  spent : ∀ {entry key record}, entry ∈ trace → Spends key entry →
    coordinator.find records key = some record → record.state.isSpent
  /-- What an apply has written to a record that is applying stays. -/
  handle : ∀ {id served call updated record}, .start id served ∈ trace →
    served.applyCall = some call →
    .event id ⟨.coordinator (.updateChangeSet updated), .ok ()⟩ ∈ trace →
    coordinator.find records updated.id = some record → record.state = .applying →
      record.taskId = updated.taskId

section Honesty

variable {trace : ServerTrace} {id : ℕ} {served : Served} {call : ApplyCall}
  {updated claimed : ChangeSet} {reply : Except String Unit}

/-- In a clear run the end of an accepted task was asked for by its address. -/
private theorem taskEnded_of_exited (hclear : ClearRun trace) (hstart : .start id served ∈ trace)
    (hcall : served.applyCall = some call) {upid exitstatus : String} {id' : ℕ}
    (haccepted : Accepted call.cluster (.string upid) (historyOf id trace))
    (hexited : Exited call.cluster upid exitstatus (historyOf id' trace)) :
    TaskEnded trace call.cluster upid exitstatus := by
  have hended := hexited
  obtain ⟨task, _, _, hparse, -⟩ := hexited
  obtain ⟨_, _, _, ⟨_, -, hawait⟩, hread⟩ := haccepted
  have hplain := hclear.handles hstart hcall (mem_historyOf_iff.mp hawait) hread hparse
  exact ⟨id', task, hparse, (addresses_statusRequest_iff hparse).mpr hplain, hended⟩

omit [Externals] in
/-- The device of an apply is that of a target on its cluster. -/
theorem Served.device_of_apply (hcall : served.applyCall = some call) :
    ∃ target : Target, call.device = target.device call.cluster := by
  obtain ⟨server, call'⟩ := served
  cases call' with
  | recover => cases hcall
  | reload => cases hcall
  | serve caller tool =>
    cases tool with
    | applyChangeSet args =>
      obtain rfl := Option.some.inj hcall
      exact ⟨.guest args.vmid, (Target.device_guest _ _).symm⟩
    | applyHaRuleChange args =>
      obtain rfl := Option.some.inj hcall
      exact ⟨.haRule args.rule, (Target.device_haRule _ _).symm⟩
    | applyRestoreNewVmid args =>
      obtain rfl := Option.some.inj hcall
      exact ⟨.guest args.vmid, (Target.device_guest _ _).symm⟩
    | _ => cases hcall

/-- **What an apply settles is honest.** -/
theorem honest_of_settles (hclear : ClearRun trace)
    (horderly : Orderly trace (.event id ⟨.coordinator (.updateChangeSet updated), reply⟩))
    (hclaimed : ClaimedIn trace updated.id id served call claimed) (hold : Honest trace claimed)
    (hdevice : claimed.device = call.device) (hstate : claimed.state = .applying)
    (hsettles : call.Settles served.Refuses claimed (historyOf id trace) updated) :
    Honest (.event id ⟨.coordinator (.updateChangeSet updated), reply⟩ :: trace) updated := by
  -- the apply has written now, and has sent nothing by it
  have hwritten : ¬ Unwritten (historyOf id
      (.event id ⟨.coordinator (.updateChangeSet updated), reply⟩ :: trace)) := by
    rw [historyOf_event_self]
    exact fun hunwritten => hunwritten updated reply List.mem_cons_self
  have hunsent : Unsent (historyOf id trace) → Unsent (historyOf id
      (.event id ⟨.coordinator (.updateChangeSet updated), reply⟩ :: trace)) := by
    rw [historyOf_event_self]
    exact fun hunsent => hunsent.cons not_false
  have hkept := hold.cons horderly
  cases hsettles with
  | intentFailed hintent hnothing =>
    exact ⟨nofun, fun _ => ⟨id, served, call, claimed, hclaimed.cons, .unrecorded (hunsent hnothing)
      hwritten (historyOf_suffix_cons.subset hintent)⟩, hkept.handled⟩
  | checkFailed hnothing hrefuses =>
    exact ⟨nofun, fun _ => ⟨id, served, call, claimed, hclaimed.cons, .unowned (hunsent hnothing)
      hwritten (hrefuses.mono historyOf_suffix_cons)⟩, hkept.handled⟩
  | refused hrefused =>
    exact ⟨nofun, fun _ => ⟨id, served, call, claimed, hclaimed.cons,
      .refused (hrefused.mono historyOf_suffix_cons)⟩, hkept.handled⟩
  | inFlight haccepted hparsed =>
    refine ⟨fun happlied => ?_, fun hfailed => ?_, fun upid hupid => ?_⟩
    · rw [hstate] at happlied
      cases happlied
    · rw [hstate] at hfailed
      cases hfailed
    · obtain rfl := Option.some.inj hupid
      exact ⟨id, served, call, claimed, hclaimed.cons, hdevice,
        haccepted.mono historyOf_suffix_cons⟩
  | immediate haccepted hunnamed =>
    refine ⟨fun _ => ⟨id, served, call, claimed, hclaimed.cons, ?_⟩, nofun, nofun⟩
    rcases hunnamed with hfamily | hunnamed
    · exact .haRule hfamily (haccepted.mono historyOf_suffix_cons)
    · exact .unnamed hunnamed (haccepted.mono historyOf_suffix_cons)
  | @exited upid exitstatus haccepted hexited =>
    have hended := taskEnded_of_exited hclear hclaimed.start hclaimed.apply haccepted hexited
    by_cases hok : exitstatus = "OK"
    · subst hok
      exact ⟨fun _ => ⟨id, served, call, claimed, hclaimed.cons,
        .ended (haccepted.mono historyOf_suffix_cons) hended.cons⟩, nofun, nofun⟩
    · rw [if_neg hok]
      exact ⟨nofun, fun _ => ⟨id, served, call, claimed, hclaimed.cons,
        .ended hok (haccepted.mono historyOf_suffix_cons) hended.cons⟩, nofun⟩

/-- **What a recovery settles is honest**: it has asked the cluster of the apply. -/
theorem honest_of_recovers (hclear : ClearRun trace) (hstart : .start id served ∈ trace)
    (hrecover : served.call = .recover)
    (hasks : ∀ name request, ∀ ticket : ℕ,
      .event id ⟨.http (.dispatch name request), ticket⟩ ∈ trace →
        served.server.clientNamed name ≠ none)
    (hread : ∀ {records : List ChangeSet} {record},
      .event id ⟨.coordinator .changeSets, records⟩ ∈ trace → record ∈ records →
        Honest trace record)
    (hrecovers : Recovers (historyOf id trace) updated) :
    Honest (.event id ⟨.coordinator (.updateChangeSet updated), reply⟩ :: trace) updated := by
  obtain @⟨_, record, upid, cluster, _, exitstatus, hlisted, hmem, -, hhandle, hcut, hexited,
    hupdated⟩ := hrecovers
  have hrecord := (hread (mem_historyOf_iff.mp hlisted) hmem).handled _ hhandle
  obtain ⟨id', served', call, claimed, hclaimed, hdevice, haccepted⟩ := hrecord
  -- the handle of a record is of the cluster its device names
  obtain rfl : cluster = call.cluster := by
    obtain ⟨target, htarget⟩ := Served.device_of_apply hclaimed.apply
    rw [hdevice, htarget] at hcut
    rcases eq_or_splitOnce_of_device hcut with heq | ⟨rest, hsplit⟩
    · exact heq
    · obtain ⟨_, _, _, -, ⟨ticket, hdispatch, -⟩, -⟩ := hexited
      have hknown := hasks _ _ ticket (mem_historyOf_iff.mp hdispatch)
      exact absurd (hclear.clusters hclaimed.start hclaimed.apply hstart hrecover hsplit) hknown
  have hended := taskEnded_of_exited hclear hclaimed.start hclaimed.apply haccepted hexited
  have hin : ClaimedIn trace updated.id id' served' call claimed := by
    rw [hupdated]
    exact hclaimed
  -- what a recovery writes: the state of the task, and no handle
  have hstate := congrArg ChangeSet.state hupdated
  have htask := congrArg ChangeSet.taskId hupdated
  dsimp only at hstate htask
  refine ⟨fun happlied => ⟨id', served', call, claimed, hin.cons, ?_⟩,
    fun hfailed => ⟨id', served', call, claimed, hin.cons, ?_⟩, fun upid' hupid' => ?_⟩
  · rw [hstate] at happlied
    split_ifs at happlied with hok
    subst hok
    exact .ended (haccepted.mono historyOf_suffix_cons) hended.cons
  · rw [hstate] at hfailed
    split_ifs at hfailed with hok
    exact .ended hok (haccepted.mono historyOf_suffix_cons) hended.cons
  · rw [htask] at hupid'
    cases hupid'

end Honesty

section Keeping

variable {pool : Pool (serverMachine coordinator ttl)}

/-- Entries that are not about the records leave them settled. -/
theorem Settled.cons {records : coordinator.State} {trace : ServerTrace}
    {entry : Entry Effect Served CallResult} (hsettled : Settled coordinator records trace)
    (hentry : ∀ id op reply, entry ≠ .event id ⟨.coordinator op, reply⟩)
    (hstart : ∀ id served, entry = .start id served → ∀ event, .event id event ∉ trace)
    (horderly : Orderly trace entry) : Settled coordinator records (entry :: trace) where
  stored hfind := (hsettled.stored hfind).cons horderly
  answered hmem hanswers := by
    rcases List.mem_cons.mp hmem with rfl | hmem
    · cases hanswers <;> exact absurd rfl (hentry _ _ _)
    · exact (hsettled.answered hmem hanswers).cons horderly
  claimed hmem := by
    rcases List.mem_cons.mp hmem with rfl | hmem
    · exact absurd rfl (hentry _ _ _)
    · exact hsettled.claimed hmem
  spent hmem hspends := by
    rcases List.mem_cons.mp hmem with rfl | hmem
    · obtain ⟨id, device, claimed, heq⟩ := hspends
      exact absurd heq (hentry _ _ _)
    · exact hsettled.spent hmem hspends
  handle hserved hcall hmem := by
    rcases List.mem_cons.mp hmem with rfl | hevent
    · exact absurd rfl (hentry _ _ _)
    · rcases List.mem_cons.mp hserved with rfl | hserved
      · exact absurd hevent (hstart _ _ rfl _)
      · exact hsettled.handle hserved hcall hevent

variable {id : ℕ} {served : Served} {op : CoordinatorOp} {reply : op.Reply}
  {records' : coordinator.State}

/-- **A record written is honest.** -/
theorem Settled.honest_of_writes (laws : coordinator.Lawful)
    (h : Reachable (serverMachine coordinator ttl) pool)
    (hsettled : Settled coordinator pool.world.records pool.trace) (hclear : ClearRun pool.trace)
    (hstart : .start id served ∈ pool.trace)
    (hdoes : served.Does (historyOf id pool.trace) (.coordinator op)) {key : String}
    {record : ChangeSet}
    (hwrites : op.Writes (coordinator.find pool.world.records key) reply record) :
    Honest (.event id ⟨.coordinator op, reply⟩ :: pool.trace) record := by
  have horderly : Orderly pool.trace (.event id ⟨.coordinator op, reply⟩) :=
    orderly_of_does h hstart hdoes
  cases hwrites with
  | created _ _ _ _ _ _ hplanned hbare =>
    refine ⟨fun happlied => ?_, fun hfailed => ?_, fun upid hupid => ?_⟩
    · rw [hplanned] at happlied
      cases happlied
    · rw [hplanned] at hfailed
      cases hfailed
    · rw [hbare.2] at hupid
      cases hupid
  | updated =>
    cases Served.updates hdoes.allowed with
    | settles hcall hclaimed hsettles =>
      obtain ⟨reviewed, ⟨hread, -⟩, hclaim⟩ := hclaimed
      have hmem := mem_historyOf_iff.mp hclaim
      have hkept := kept_of_reachable laws h
      obtain ⟨hid, hdevice, -⟩ := hkept.answered hmem .claimed
      obtain ⟨-, hreviewed, -⟩ := hkept.answered (mem_historyOf_iff.mp hread) .read
      refine honest_of_settles hclear horderly ⟨hstart, hcall, reviewed.device, ?_⟩
        (hsettled.answered hmem .claimed) (hdevice.trans hreviewed) (hsettled.claimed hmem) hsettles
      rwa [hsettles.revises.id, hid]
    | previews hplan hpreviews =>
      obtain ⟨hhistory, hmem, -, rfl⟩ := hpreviews
      have hlisted := mem_historyOf_iff.mp (hhistory ▸ List.mem_cons_self)
      obtain ⟨happlied, hfailed, hhandled⟩ :=
        (hsettled.answered hlisted (.listed hmem)).cons horderly
      exact ⟨happlied, hfailed, hhandled⟩
    | recovers hrecover hrecovers =>
      refine honest_of_recovers hclear hstart hrecover (fun name request ticket hmem => ?_)
        (fun hlisted hmem => hsettled.answered hlisted (.listed hmem)) hrecovers
      obtain ⟨newer, older, htrace⟩ := List.append_of_mem hmem
      obtain ⟨-, hasked⟩ := does_of_event h htrace hstart
      exact hasked.asks hrecover _ _ rfl
  | approved hstored =>
    exact ((hsettled.stored hstored).cons horderly).restated rfl rfl rfl nofun nofun
  | waived hstored =>
    exact ((hsettled.stored hstored).cons horderly).restated rfl rfl rfl nofun nofun
  | claimed hstored =>
    exact ((hsettled.stored hstored).cons horderly).restated rfl rfl rfl nofun nofun

/-- **A claimed record stays spent.** -/
theorem Settled.spent_of_operation (laws : coordinator.Lawful) (ids : coordinator.Ids)
    (h : Reachable (serverMachine coordinator ttl) pool)
    (hsettled : Settled coordinator pool.world.records pool.trace)
    (hdoes : served.Does (historyOf id pool.trace) (.coordinator op))
    (hstep : coordinator.Step pool.world.records op reply records') {key : String}
    {entry : Entry Effect Served CallResult} (hmem : entry ∈ pool.trace)
    (hspends : Spends key entry) {record : ChangeSet}
    (hfind : coordinator.find records' key = some record) :
    record.state.isSpent := by
  rcases laws.writes hstep hfind with hold | hwrites
  · exact hsettled.spent hmem hspends hold
  have hkept := (kept_of_reachable laws h).spent hmem hspends
  have hunapproved := laws.unapproved (laws.spent hstep hkept) hfind
  -- a write that would not leave the record spent needs it unclaimed
  cases hwrites with
  | created _ hid =>
    obtain rfl := laws.id_of_find hfind
    exact absurd (used_of_spends laws ids h hmem hspends) (hid ▸ (ids.created hstep).1)
  | updated =>
    obtain rfl := laws.id_of_find hfind
    cases Served.updates hdoes.allowed with
    | settles hcall hclaimed hsettles =>
      obtain ⟨reviewed, -, hclaim⟩ := hclaimed
      have hstate := hsettled.claimed (mem_historyOf_iff.mp hclaim)
      cases hsettles with
      | inFlight => rw [hstate]; rfl
      | exited => dsimp only; split_ifs <;> rfl
      | _ => rfl
    | previews hplan hpreviews =>
      exact absurd hspends (not_spends_of_previews laws ids h hpreviews hmem)
    | recovers hrecover hrecovers =>
      obtain ⟨-, -, -, -, -, -, rfl⟩ := hrecovers
      dsimp only
      split_ifs <;> rfl
  | approved => exact absurd rfl hunapproved
  | waived => exact absurd rfl hunapproved
  | claimed => rfl

/-- **What an apply has written stays** while the record is applying: nobody but this apply could
write to it, and an apply that has written only settles. -/
theorem Settled.handle_of_operation (laws : coordinator.Lawful) (ids : coordinator.Ids)
    (h : Reachable (serverMachine coordinator ttl) pool)
    (hsettled : Settled coordinator pool.world.records pool.trace)
    (hdoes : served.Does (historyOf id pool.trace) (.coordinator op))
    (hstep : coordinator.Step pool.world.records op reply records') {id' : ℕ} {served' : Served}
    {call : ApplyCall} {updated record : ChangeSet} (hstart : .start id' served' ∈ pool.trace)
    (hcall : served'.applyCall = some call)
    (hmem : .event id' ⟨.coordinator (.updateChangeSet updated), .ok ()⟩ ∈ pool.trace)
    (hfind : coordinator.find records' updated.id = some record)
    (hstate : record.state = .applying) : record.taskId = updated.taskId := by
  -- the record stood already, or this operation has written it
  rcases laws.writes hstep hfind with hold | hwrites
  · exact hsettled.handle hstart hcall hmem hold hstate
  have hkept := kept_of_reachable laws h
  -- an apply that wrote to a record had claimed it
  have hclaim : ∃ device claimed, .event id' ⟨.coordinator
      (.claimChangeSetForApply updated.id device), .ok claimed⟩ ∈ pool.trace := by
    obtain ⟨newer, older, htrace⟩ := List.append_of_mem hmem
    have hsuffix : older <:+ pool.trace := by
      rw [htrace]
      exact (List.suffix_cons _ _).trans (List.suffix_append _ _)
    obtain ⟨before, hbefore, rfl⟩ := h.of_suffix hsuffix
    obtain ⟨-, hwrote⟩ := does_of_event h htrace hstart
    obtain ⟨device, claimed, hclaimed⟩ :=
      claimed_of_update laws hbefore hcall (Served.updates hwrote.allowed)
    exact ⟨device, claimed, hsuffix.subset hclaimed⟩
  obtain ⟨device, claimed, hclaimed⟩ := hclaim
  cases hwrites with
  | created _ hid =>
    -- a claimed id is in use, and the id of a new record is not
    obtain hsame := laws.id_of_find hfind
    have hused := used_of_spends laws ids h hclaimed ⟨_, _, _, rfl⟩
    rw [← hsame, hid] at hused
    exact absurd hused (ids.created hstep).1
  | updated =>
    have hsame := laws.id_of_find hfind
    cases Served.updates hdoes.allowed with
    | settles hcall' _ hsettles =>
      obtain ⟨device', claimed', hclaimed'⟩ :=
        claimed_of_update laws h hcall' (Served.updates hdoes.allowed)
      -- one entry spends the approval, so both writers are one apply
      have hentry := hkept.eq_of_spends hclaimed hclaimed' ⟨_, _, _, rfl⟩ ⟨_, _, _, by rw [hsame]⟩
      obtain ⟨rfl, -⟩ := Entry.event.inj hentry
      rcases (hdoes.steps _ hcall').writes _ rfl with hunwritten | hdone
      · exact absurd (mem_historyOf_iff.mpr hmem) (hunwritten _ _)
      · exact absurd hstate hdone
    | previews _ hpreviews =>
      exact absurd ⟨_, _, _, by rw [hsame]⟩ (not_spends_of_previews laws ids h hpreviews hclaimed)
    | recovers _ hrecovers =>
      obtain ⟨-, -, -, -, -, -, rfl⟩ := hrecovers
      dsimp only at hstate
      split_ifs at hstate
  | approved => cases hstate
  | waived => cases hstate
  | claimed hstored _ _ happroved =>
    exact absurd happroved (laws.unapproved (hkept.spent hclaimed ⟨_, _, _, rfl⟩) hstored)

/-- **An operation on the records keeps them settled.** -/
theorem Settled.operation (laws : coordinator.Lawful) (ids : coordinator.Ids)
    (h : Reachable (serverMachine coordinator ttl) pool)
    (hsettled : Settled coordinator pool.world.records pool.trace) (hclear : ClearRun pool.trace)
    (hstart : .start id served ∈ pool.trace)
    (hdoes : served.Does (historyOf id pool.trace) (.coordinator op))
    (hstep : coordinator.Step pool.world.records op reply records') :
    Settled coordinator records' (.event id ⟨.coordinator op, reply⟩ :: pool.trace) := by
  have horderly : Orderly pool.trace (.event id ⟨.coordinator op, reply⟩) :=
    orderly_of_does h hstart hdoes
  have hstored {key : String} {record : ChangeSet}
      (hfind : coordinator.find records' key = some record) :
      Honest (.event id ⟨.coordinator op, reply⟩ :: pool.trace) record := by
    rcases laws.writes hstep hfind with hold | hwrites
    · exact (hsettled.stored hold).cons horderly
    · exact hsettled.honest_of_writes laws h hclear hstart hdoes hwrites
  refine ⟨hstored, fun hmem hanswers => ?_, fun hmem => ?_, fun hmem hspends hfind => ?_,
    fun hserved hcall hmem hfind hstate => ?_⟩
  · -- what is answered is stored, or just claimed
    rcases List.mem_cons.mp hmem with heq | hmem
    · obtain ⟨rfl, rfl⟩ := Entry.event.inj heq
      cases hanswers with
      | read => exact (hsettled.stored (laws.read hstep).1).cons horderly
      | listed hrecord => exact (hsettled.stored (laws.listed hstep hrecord)).cons horderly
      | claimed =>
        obtain ⟨old, -, -, -, -, hnew⟩ := laws.claims hstep
        exact hstored hnew
    · exact (hsettled.answered hmem hanswers).cons horderly
  · rcases List.mem_cons.mp hmem with heq | hmem
    · obtain ⟨rfl, heq⟩ := Entry.event.inj heq
      cases heq
      obtain ⟨old, -, -, -, rfl, -⟩ := laws.claims hstep
      rfl
    · exact hsettled.claimed hmem
  · rcases List.mem_cons.mp hmem with rfl | hmem
    · obtain ⟨id', device, claimed, heq⟩ := hspends
      obtain ⟨rfl, heq⟩ := Entry.event.inj heq
      cases heq
      obtain ⟨old, -, -, -, rfl, hnew⟩ := laws.claims hstep
      obtain rfl := Option.some.inj (hnew.symm.trans hfind)
      rfl
    · exact hsettled.spent_of_operation laws ids h hdoes hstep hmem hspends hfind
  · rcases List.mem_cons.mp hmem with heq | hmem
    · obtain ⟨rfl, heq⟩ := Entry.event.inj heq
      cases heq
      obtain rfl := Option.some.inj ((laws.stores hstep).symm.trans hfind)
      rfl
    · rcases List.mem_cons.mp hserved with heq | hserved
      · cases heq
      · exact hsettled.handle_of_operation laws ids h hdoes hstep hserved hcall hmem hfind hstate

/-- An entry that is neither a start nor an event leaves the records settled. -/
theorem Settled.cons_aside {records : coordinator.State} {trace : ServerTrace}
    {entry : Entry Effect Served CallResult} (hsettled : Settled coordinator records trace)
    (hstart : ∀ id served, entry ≠ .start id served)
    (hevent : ∀ id event, entry ≠ .event id event) :
    Settled coordinator records (entry :: trace) :=
  hsettled.cons (fun _ _ _ => hevent _ _) (fun _ _ heq => absurd heq (hstart _ _))
    fun _ _ _ _ _ _ _ heq => absurd heq (hevent _ _)

/-- **The records of a clear run are settled.** -/
theorem settled_of_reachable (laws : coordinator.Lawful) (ids : coordinator.Ids)
    (h : Reachable (serverMachine coordinator ttl) pool) (hclear : ClearRun pool.trace) :
    Settled coordinator pool.world.records pool.trace := by
  refine h.invariant (outcomeGuarantee coordinator ttl)
    (I := fun world trace => ClearRun trace → Settled coordinator world.records trace)
    ?_ ?_ ?_ ?_ ?_ ?_ ?_ hclear
  · rintro world ⟨-, hinitial⟩ -
    exact ⟨fun hfind => by simp [laws.empty hinitial] at hfind,
      fun hmem => absurd hmem List.not_mem_nil, fun hmem => absurd hmem List.not_mem_nil,
      fun hmem => absurd hmem List.not_mem_nil, fun hmem => absurd hmem List.not_mem_nil⟩
  · intro pool id call h hsettled hfresh hclear
    refine (hsettled hclear.of_cons).cons (fun _ _ _ heq => by cases heq) ?_
      fun _ _ _ _ _ _ _ heq => by cases heq
    rintro _ _ ⟨⟩ event hmem
    have hseen := mem_historyOf_iff.mpr hmem
    rw [h.historyOf_eq_nil hfresh] at hseen
    exact List.not_mem_nil hseen
  · intro pool id served op reply world' h hsettled hstart _ hdoes hstep hclear
    have hbefore := hsettled hclear.of_cons
    cases hstep with
    | coordinator hstep => exact hbefore.operation laws ids h hclear.of_cons hstart hdoes hstep
    | _ =>
      exact hbefore.cons (fun _ _ _ heq => by cases heq) (fun _ _ heq => by cases heq)
        (orderly_of_does h hstart hdoes)
  · exact fun pool id _ _ _ hsettled _ _ hclear =>
      (hsettled hclear.of_cons).cons_aside (by simp) (by simp)
  · exact fun pool id _ hsettled hclear =>
      (hsettled hclear.of_cons).cons_aside (by simp) (by simp)
  · rintro pool world' - hsettled ⟨now, -, rfl⟩ hclear
    exact (hsettled hclear.of_cons).cons_aside (by simp) (by simp)
  · -- a crash loses no record
    rintro pool world' - hsettled ⟨-, hrecords⟩ hclear
    rw [hrecords]
    exact (hsettled hclear.of_cons).cons_aside (by simp) (by simp)

end Keeping

end ProxmoxMcp
