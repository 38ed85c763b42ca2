import ProxmoxMcp.Core.JsonCode
import ProxmoxMcp.Core.Separation
import ProxmoxMcp.Server.AppliesOnce

/-!
# Drift of HA rules

An approved change to an HA rule is applied only when the rule is as it was planned against. The
rule has no version, so what is compared is the fingerprint of its body or of its absence.
`DetectsDrift` says of a run what that comparison is for: an apply that claims its record, or sends
a request that can change the cluster, has read the very rule its plan has read.

The compact text keeps any two bodies apart. But an **absent** rule and a rule whose body is
**null** are hashed as one text, so the comparison misses exactly these
(`haRuleFingerprint_eq_iff`).
-/

namespace ProxmoxMcp

open Interaction
open Program hiding bind

/-- One reading finds no rule and the other finds one whose body is null. -/
def Conflated (planned current : Option Json) : Prop :=
  (planned = none ∧ current = some .null) ∨ (planned = some .null ∧ current = none)

/-- The operation claims a record or can change a cluster. -/
def Op.Commits (op : Op) : Prop :=
  (∃ id device, op = .coordinator (.claimChangeSetForApply id device)) ∨ op.Mutates

variable [Externals]

/-! ### What the fingerprint tells apart -/

/-- **Fingerprints of rules** are equal for one rule found in one condition, and for nothing else
but an absent rule and a null body. -/
theorem haRuleFingerprint_eq_iff (hdigests : FaithfulDigests) {cluster cluster' rule rule' : String}
    {planned current : Option Json} :
    haRuleFingerprint cluster rule planned = haRuleFingerprint cluster' rule' current ↔
      cluster = cluster' ∧ rule = rule' ∧ (current = planned ∨ Conflated planned current) := by
  have hbody : planned.getD .null = current.getD .null ↔
      current = planned ∨ Conflated planned current := by
    cases planned with
    | none => cases current <;> simp [Conflated, eq_comm]
    | some planned =>
      cases current with
      | none => simp [Conflated]
      | some current => simp [Conflated, eq_comm]
  rw [haRuleFingerprint, haRuleFingerprint, hdigests.fingerprintOf_inj,
    Json.compactChars_injective.eq_iff, ← hbody]
  simp

/-! ### What the two calls do -/

/-- A record is created with the fingerprint of the rule as the call has read it. -/
def RecordsRule (args : PlanHaRuleArgs) (h : History Effect) (op : Op) : Prop :=
  ∀ device actions owner fingerprint policy,
    op = .coordinator (.createChangeSet device actions owner fingerprint policy) →
      ∃ planned, RuleRead args.cluster args.rule planned h ∧
        fingerprint = haRuleFingerprint args.cluster args.rule planned

/-- The call has read its record and the rule, and the fingerprint of the rule is the recorded
one. -/
structure RuleCompared (args : HaChangeSetArgs) (record : ChangeSet) (current : Option Json)
    (h : History Effect) : Prop where
  stored : ⟨.coordinator (.changeSet args.changeSetId (haRuleDevice args.cluster args.rule)),
    .ok record⟩ ∈ h
  reads : ∃ action, record.actions.head? = some action ∧ Family.haRule.Reads action
  read : RuleRead args.cluster args.rule current h
  compared : haRuleFingerprint args.cluster args.rule current = record.expectedCandidateFingerprint

theorem RuleCompared.mono {args : HaChangeSetArgs} {record : ChangeSet} {current : Option Json}
    {h h' : History Effect} (hc : RuleCompared args record current h) (hh : h <:+ h') :
    RuleCompared args record current h' :=
  ⟨hh.subset hc.stored, hc.reads, hc.read.mono hh, hc.compared⟩

/-- Before it commits, the call has compared the rule. -/
def CommitsCompared (args : HaChangeSetArgs) (h : History Effect) (op : Op) : Prop :=
  op.Commits → ∃ record current, RuleCompared args record current h

section Calls

variable {server : ProxmoxServer} {caller : Option CallerCtx} {h : History Effect} {op : Op}

omit [Externals] in
/-- Reading commits to nothing. -/
theorem Op.Reads.not_commits (hop : op.Reads) : ¬ op.Commits := by
  rintro (⟨id, device, rfl⟩ | hmutates)
  · exact hop
  · exact hop.not_mutates hmutates

private theorem recordsRule_of_quiet {args : PlanHaRuleArgs} {lookups : LookupRule}
    (hop : Quiet lookups h op) : RecordsRule args h op := by
  rintro device actions owner fingerprint policy rfl
  exact hop.elim

/-- **A plan** records the fingerprint of the rule it has read. -/
theorem ensures_planHaRuleChange_recordsRule (args : PlanHaRuleArgs) :
    Ensures (RecordsRule args) (fun _ _ => True) h (server.planHaRuleChange caller args) := by
  have hother {h : History Effect} {op : Op} (hop : ∀ device actions owner fingerprint policy,
      op ≠ .coordinator (.createChangeSet device actions owner fingerprint policy)) :
      RecordsRule args h op := fun _ _ _ _ _ heq => absurd heq (hop _ _ _ _ _)
  refine Ensures.liftExcept fun _ _ => Ensures.liftExcept fun client hclient =>
    Ensures.liftExcept fun action _ => Ensures.required fun tool _ =>
    Ensures.liftExcept fun _ _ => Ensures.liftExcept fun _ _ => ?_
  refine Ensures.bind ensures_readCurrentRule (fun h op hop => ?_) fun h₁ existing _ hread =>
    Ensures.liftExcept fun _ _ => ?_
  · rintro device actions owner fingerprint policy rfl
    exact hop.elim
  rw [name_of_clientFor hclient] at hread
  rw [← name_of_clientFor hclient]
  refine Ensures.bind ensures_authorizeHaRuleGuests (fun _ _ hop => recordsRule_of_quiet hop)
    fun h₂ _ hh₂ _ => ?_
  have hcreates : ∀ device actions owner policy, RecordsRule args h₂ (.coordinator (.createChangeSet
      device actions owner (haRuleFingerprint client.name args.rule existing) policy)) := by
    rintro device actions owner policy _ _ _ _ _ ⟨⟩
    exact ⟨existing, hread.mono hh₂, by rw [name_of_clientFor hclient]⟩
  refine Ensures.bind (R := fun _ _ => True) ?_ (fun _ _ hop => hop)
    fun _ _ _ _ => ensures_pure.mpr trivial
  refine Ensures.request (hcreates _ _ _ _) fun created => Ensures.liftExcept fun output _ => ?_
  refine Ensures.request (hother (by simp)) fun records => Ensures.required fun record _ => ?_
  exact Ensures.request (hother (by simp)) fun written =>
    Ensures.liftExcept fun _ _ => ensures_pure.mpr trivial

/-- **An apply** commits to nothing before it has compared the rule. -/
theorem ensures_applyHaRuleChange_compared (args : HaChangeSetArgs) :
    Ensures (CommitsCompared args) (fun _ _ => True) h (server.applyHaRuleChange caller args) := by
  refine Ensures.liftExcept fun _ _ => Ensures.liftExcept fun client hclient => ?_
  refine Ensures.request ?_ fun reply => Ensures.liftExcept fun record hrecord => ?_
  · rintro (⟨id, device, ⟨⟩⟩ | hmutates)
    exact hmutates.elim
  obtain rfl := eq_ok_of_mapError hrecord
  refine Ensures.ensure fun _ => Ensures.liftExcept fun _ _ => ?_
  refine Ensures.bind ensures_readCurrentRule (fun _ _ hop hcommits => absurd hcommits
    hop.not_commits) fun h₁ existing hh₁ hread => Ensures.ensure fun hfingerprint =>
    Ensures.ensure fun _ => Ensures.liftExcept fun action haction => ?_
  rw [name_of_clientFor hclient] at hread
  obtain ⟨raw, hraw, hfrom⟩ := Option.bind_eq_some_iff.mp (storedAction_eq_ok.mp haction)
  have hcompared : RuleCompared args record existing h₁ :=
    ⟨hh₁.subset List.mem_cons_self, ⟨raw, hraw, Option.isSome_iff_exists.mpr ⟨action, hfrom⟩⟩,
      hread, beq_iff_eq.mp hfingerprint⟩
  -- whatever the call does from here on, it has compared the rule
  exact (always_suffix _ h₁).mono (fun h' op hh _ => ⟨record, existing, hcompared.mono hh⟩)
    fun _ _ _ _ _ => trivial

end Calls

/-! ### Runs -/

/-- A plan about the rule has created this record, after it has read the rule in this condition. -/
inductive RulePlanned (trace : ServerTrace) (cluster rule : String) (planned : Option Json)
    (record : ChangeSet) : Prop
  | intro {id : ℕ} {server : ProxmoxServer} {caller : Option CallerCtx} {args : PlanHaRuleArgs}
      {policy : String} {output : ChangeSetOutput}
      (start : .start id ⟨server, .serve caller (.planHaRuleChange args)⟩ ∈ trace)
      (cluster_eq : args.cluster = cluster) (rule_eq : args.rule = rule)
      (read : RuleRead cluster rule planned (historyOf id trace))
      (named : output.changeSetId = record.id)
      (event : .event id ⟨.coordinator (.createChangeSet record.device record.actions record.owner
        record.expectedCandidateFingerprint policy), .ok output⟩ ∈ trace)

/-- **Drift is detected**: an apply that commits has read its record and the rule, and the plan that
made the record has read the rule in the same condition. -/
def DetectsDrift (trace : ServerTrace) : Prop :=
  ∀ {newer older : ServerTrace} {id : ℕ} {server : ProxmoxServer} {caller : Option CallerCtx}
    {args : HaChangeSetArgs} {event : Event Effect},
    trace = newer ++ .event id event :: older →
    .start id ⟨server, .serve caller (.applyHaRuleChange args)⟩ ∈ trace → event.op.Commits →
    ∃ record current, RuleCompared args record current (historyOf id older) ∧
      RulePlanned older args.cluster args.rule current record

/-- **No condition is conflated**: where a plan has made a change set on a rule it found absent, no
apply of it finds the rule with the body null, nor the other way round. -/
def Unconflated (trace : ServerTrace) : Prop :=
  ∀ {id : ℕ} {server : ProxmoxServer} {caller : Option CallerCtx} {args : HaChangeSetArgs}
    {record : ChangeSet} {planned current : Option Json},
    .start id ⟨server, .serve caller (.applyHaRuleChange args)⟩ ∈ trace →
    record.id = args.changeSetId → RulePlanned trace args.cluster args.rule planned record →
    RuleRead args.cluster args.rule current (historyOf id trace) → ¬ Conflated planned current

section Runs

variable {coordinator : Coordinator} {ttl : ℕ} {pool : Pool (serverMachine coordinator ttl)}

/-- What the two calls do about the rule, among all calls. -/
def ruleGuarantee (coordinator : Coordinator) (ttl : ℕ) :
    Guarantee (serverMachine coordinator ttl) where
  op served history op := match served with
    | ⟨_, .serve _ (.planHaRuleChange args)⟩ => RecordsRule args history op
    | ⟨_, .serve _ (.applyHaRuleChange args)⟩ => CommitsCompared args history op
    | _ => True
  result _ _ _ := True
  keeps := by
    have htrivial (p : Program Effect CallResult) :
        Always (fun _ _ => True) (fun _ _ => True) [] p :=
      (always_suffix p []).mono (fun _ _ _ => trivial) fun _ _ _ => trivial
    rintro ⟨server, call⟩
    cases call with
    | recover => exact htrivial _
    | reload => exact htrivial _
    | serve caller tool =>
      cases tool with
      | planHaRuleChange args =>
        have hplan : Ensures (RecordsRule args) (fun _ _ => True) []
            (server.planHaRuleChange caller args) := ensures_planHaRuleChange_recordsRule args
        exact Always.mono hplan (fun _ _ hop => hop) fun _ _ _ => trivial
      | applyHaRuleChange args =>
        have happly : Ensures (CommitsCompared args) (fun _ _ => True) []
            (server.applyHaRuleChange caller args) := ensures_applyHaRuleChange_compared args
        exact Always.mono happly (fun _ _ hop => hop) fun _ _ _ => trivial
      | _ => exact htrivial _

omit [Externals] in
private theorem eq_of_planCall_haRule {served : Served} {caller : Option CallerCtx}
    (hplan : served.planCall = some ⟨.haRule, caller⟩) :
    ∃ server args, served = ⟨server, .serve caller (.planHaRuleChange args)⟩ := by
  obtain ⟨server, call⟩ := served
  cases call with
  | recover => cases hplan
  | reload => cases hplan
  | serve caller tool =>
    cases tool with
    | planHaRuleChange args =>
      cases hplan
      exact ⟨server, args, rfl⟩
    | planDestroy args => cases hplan
    | planRestoreNewVmid args => cases hplan
    | _ => cases hplan

/-- **What an apply commits to was planned**, on the rule in a condition with the same
fingerprint. -/
theorem exists_rulePlanned (laws : coordinator.Lawful)
    (h : Reachable (serverMachine coordinator ttl) pool) {newer older : ServerTrace} {id : ℕ}
    {server : ProxmoxServer} {caller : Option CallerCtx} {args : HaChangeSetArgs}
    {event : Event Effect} (htrace : pool.trace = newer ++ .event id event :: older)
    (hstart : .start id ⟨server, .serve caller (.applyHaRuleChange args)⟩ ∈ pool.trace)
    (hcommits : event.op.Commits) :
    ∃ record current, RuleCompared args record current (historyOf id older) ∧
      record.id = args.changeSetId ∧ ∃ cluster rule planned,
        RulePlanned older cluster rule planned record ∧
        haRuleFingerprint cluster rule planned =
          haRuleFingerprint args.cluster args.rule current := by
  obtain ⟨served, hstarted, hop⟩ := h.performed (ruleGuarantee coordinator ttl) htrace
  have hmem : Entry.start id served ∈ pool.trace := by
    rw [htrace]
    exact List.mem_append_right _ (.tail _ hstarted)
  obtain rfl := h.start_unique hstart hmem
  obtain ⟨record, current, hcompared⟩ := hop hcommits
  obtain ⟨records, hkept⟩ := exists_kept laws h htrace
  obtain ⟨hid, -, htracked⟩ := hkept.answered (mem_historyOf_iff.mp hcompared.stored) .read
  obtain ⟨family, hplanned⟩ := htracked.planned
  obtain @⟨planId, planner, planCaller, action, policy, output, hplanStart, hplan, hstores,
    hactions, howner, hnamed, hcreated⟩ := hplanned
  obtain ⟨raw, hraw, hreads⟩ := hcompared.reads
  rw [hactions, List.head?_cons] at hraw
  obtain rfl := Option.some.inj hraw
  obtain rfl := Family.eq_of_reads hstores hreads
  refine ⟨record, current, hcompared, hid, ?_⟩
  -- only a plan of an HA rule change plans for its family
  obtain ⟨planServer, planArgs, rfl⟩ : ∃ planServer planArgs,
      planner = ⟨planServer, .serve planCaller (.planHaRuleChange planArgs)⟩ :=
    eq_of_planCall_haRule hplan
  obtain ⟨after, before, holder⟩ := List.append_of_mem hcreated
  have hfull : pool.trace = (newer ++ .event id event :: after) ++ .event planId
      ⟨.coordinator (.createChangeSet record.device record.actions record.owner
        record.expectedCandidateFingerprint policy), .ok output⟩ :: before := by
    rw [htrace, holder, List.append_assoc, List.cons_append]
  obtain ⟨planner, hplanner, hrecords⟩ := h.performed (ruleGuarantee coordinator ttl) hfull
  have hplannerMem : Entry.start planId planner ∈ pool.trace := by
    rw [hfull]
    exact List.mem_append_right _ (.tail _ hplanner)
  have hplanMem : Entry.start planId ⟨planServer, .serve planCaller (.planHaRuleChange planArgs)⟩ ∈
      pool.trace := by
    rw [htrace]
    exact List.mem_append_right _ (.tail _ hplanStart)
  obtain rfl := h.start_unique hplanMem hplannerMem
  obtain ⟨planned, hread, hfingerprint⟩ := hrecords _ _ _ _ _ rfl
  have hsuffix : before <:+ older := by
    rw [holder]
    exact (List.suffix_cons _ _).trans (List.suffix_append _ _)
  exact ⟨planArgs.cluster, planArgs.rule, planned,
    .intro hplanStart rfl rfl (hread.mono (historyOf_suffix hsuffix)) hnamed hcreated,
    hfingerprint.symm.trans hcompared.compared.symm⟩

theorem RulePlanned.mono {trace trace' : ServerTrace} {cluster rule : String}
    {planned : Option Json} {record : ChangeSet}
    (hp : RulePlanned trace cluster rule planned record) (hh : trace <:+ trace') :
    RulePlanned trace' cluster rule planned record := by
  obtain @⟨id, _, _, _, _, _, hstart, hcluster, hrule, hread, hnamed, hevent⟩ := hp
  exact ⟨hh.subset hstart, hcluster, hrule, hread.mono (historyOf_suffix hh), hnamed,
    hh.subset hevent⟩

/-- **Drift is detected** in every run in which no condition of a rule is conflated. -/
theorem detectsDrift_of_unconflated (laws : coordinator.Lawful) (hdigests : FaithfulDigests)
    (h : Reachable (serverMachine coordinator ttl) pool) (hunconflated : Unconflated pool.trace) :
    DetectsDrift pool.trace := by
  intro newer older id server caller args event htrace hstart hcommits
  obtain ⟨record, current, hcompared, hid, cluster, rule, planned, hplanned, hfingerprint⟩ :=
    exists_rulePlanned laws h htrace hstart hcommits
  obtain ⟨rfl, rfl, hsame⟩ := (haRuleFingerprint_eq_iff hdigests).mp hfingerprint
  have hsuffix : older <:+ pool.trace := ⟨newer ++ [.event id event], by simp [htrace]⟩
  have hread := hcompared.read.mono (historyOf_suffix hsuffix)
  rcases hsame with rfl | hconflated
  · exact ⟨record, current, hcompared, hplanned⟩
  · exact absurd hconflated (hunconflated hstart hid (hplanned.mono hsuffix) hread)

end Runs

/-! ### The deletion of a rule with a null body -/

section NullBody

/-- The server over a coordinator in memory, with faithful digests. -/
abbrev sampledMachine : Machine Effect := @serverMachine Externals.sampled Coordinator.inMemory 30

def pve3Server : ProxmoxServer :=
  ⟨[⟨"pve3", ⟨"https://pve3:8006", [], []⟩⟩], [], false, false, .ok ()⟩

/-- Plan the deletion of the rule. -/
def planDeletionCall : Served := ⟨pve3Server, .serve (some destructiveCaller)
  (.planHaRuleChange { cluster := "pve3", rule := "keep-apart", op := "delete" })⟩

/-- Another principal approves it. -/
def approveDeletionCall : Served := ⟨pve3Server, .serve
  (some { destructiveCaller with tokenName := "reviewer", actorType := .human })
  (.approveHaRuleChange ⟨"cs-1", "pve3", "keep-apart"⟩)⟩

/-- The planner applies it. -/
def applyDeletionCall : Served :=
  ⟨pve3Server, .serve (some destructiveCaller) (.applyHaRuleChange ⟨"cs-1", "pve3", "keep-apart"⟩)⟩

def deletionAction : HaRuleAction :=
  ⟨"delete", "pve3", "keep-apart", none, none, none, none, none, none, none⟩

def deletionPreview : String :=
  @renderHaRulePreview Externals.sampled deletionAction (some .null)

/-- The record of the plan, as it is created. -/
def createdDeletion : ChangeSet where
  id := "cs-1"
  device := "pve3/ha-rule:keep-apart"
  actions := [deletionAction.toJson]
  owner := "planner"
  expectedCandidateFingerprint :=
    @haRuleFingerprint Externals.sampled "pve3" "keep-apart" (some .null)
  policySignature := policySignature
  digest := @haRuleFingerprint Externals.sampled "pve3" "keep-apart" (some .null)
  state := .planned
  preview := none
  taskId := none

/-- The same, with its preview. -/
def plannedDeletionOf : ChangeSet :=
  { createdDeletion with preview := some ⟨deletionPreview, deletionPreview⟩ }

def approvedDeletion : ChangeSet := { plannedDeletionOf with state := .approved }

/-- A call asks for the rule and is answered. -/
def fetchEvents (ticket : ℕ) (reply : Except HttpError HttpResponse) : List (Event Effect) :=
  [⟨.http (.dispatch "pve3" (fetchRuleRequest "keep-apart")), ticket⟩,
    ⟨.http (.await ticket), reply⟩]

/-- No guest is named; the listing is dropped all the same. -/
def noGuestsEvents : List (Event Effect) :=
  [⟨.index .bumpGeneration, ()⟩, ⟨.index (.removeSnapshot "pve3"), ()⟩, ⟨.unixNow, (0 : UInt64)⟩]

def planDeletionEvents : List (Event Effect) :=
  fetchEvents 1 (answerOf .null) ++ noGuestsEvents ++
    [⟨.coordinator (.createChangeSet "pve3/ha-rule:keep-apart" [deletionAction.toJson] "planner"
        createdDeletion.expectedCandidateFingerprint policySignature),
        .ok (RecordList.output createdDeletion)⟩,
      ⟨.coordinator .changeSets, [createdDeletion]⟩]

def applyDeletionEvents (reply : Except HttpError HttpResponse) : List (Event Effect) :=
  ⟨.coordinator (.changeSet "cs-1" "pve3/ha-rule:keep-apart"), .ok approvedDeletion⟩ ::
    (fetchEvents 14 reply ++ noGuestsEvents)

omit [Externals] in
private theorem planDeletionCall_reaches : ∃ next,
    Reaches (@Served.body Externals.sampled planDeletionCall) planDeletionEvents
      (.perform (.coordinator (.updateChangeSet plannedDeletionOf)) next) := by
  apply Exists.intro
  iterate 5 refine Reaches.step _ _ _ ?_
  simp only [List.reverse_nil, List.mergeSort_nil]
  iterate 2 refine Reaches.step _ _ _ ?_
  exact Reaches.refl _

omit [Externals] in
private theorem approveDeletionCall_reaches : ∃ next,
    Reaches (@Served.body Externals.sampled approveDeletionCall)
      [⟨.coordinator (.changeSet "cs-1" "pve3/ha-rule:keep-apart"), .ok plannedDeletionOf⟩]
      (.perform (.coordinator (.approveChangeSet "cs-1" "pve3/ha-rule:keep-apart" "reviewer"
        plannedDeletionOf.digest .human)) next) := by
  apply Exists.intro
  refine Reaches.step _ _ _ ?_
  exact Reaches.refl _

/-- The answer for a rule that is not there. -/
def missingAnswer : Except HttpError HttpResponse := .ok ⟨404, "", .error "empty body"⟩

/-- The two readings that are conflated. -/
inductive NullReading : Except HttpError HttpResponse → Option Json → Prop
  | null : NullReading (answerOf .null) (some .null)
  | missing : NullReading missingAnswer none

omit [Externals] in
/-- The apply claims its record whichever of the two it reads. -/
private theorem applyDeletionCall_reaches {reply : Except HttpError HttpResponse}
    {existing : Option Json} (hreading : NullReading reply existing) : ∃ next,
    Reaches (@Served.body Externals.sampled applyDeletionCall) (applyDeletionEvents reply) (.perform
      (.coordinator (.claimChangeSetForApply "cs-1" "pve3/ha-rule:keep-apart")) next) := by
  let _ : Externals := Externals.sampled
  have hrecord : Reaches (recordOf "cs-1" "pve3/ha-rule:keep-apart").run
      [⟨.coordinator (.changeSet "cs-1" "pve3/ha-rule:keep-apart"), .ok approvedDeletion⟩]
      (.done (.ok approvedDeletion)) := .step _ _ _ (.refl _)
  have hread : Reaches (readCurrentRule ⟨"pve3", ⟨"https://pve3:8006", [], []⟩⟩ "keep-apart").run
      (fetchEvents 14 reply) (.done (.ok existing)) := by
    cases hreading <;> exact .step _ _ _ (.step _ _ _ (.refl _))
  have hfingerprint : Reaches (requireFingerprint approvedDeletion
      (haRuleFingerprint "pve3" "keep-apart" existing)).run [] (.done (.ok ())) := by
    have hsame : haRuleFingerprint "pve3" "keep-apart" existing =
        approvedDeletion.expectedCandidateFingerprint := by
      cases hreading <;> rfl
    rw [requireFingerprint, hsame, beq_self_eq_true]
    exact .refl _
  have hguests : Reaches (pve3Server.authorizeHaRuleGuests ⟨"pve3", ⟨"https://pve3:8006", [], []⟩⟩
      "pve3" (some destructiveCaller) deletionAction existing).run noGuestsEvents
      (.done (.ok ())) := by
    have hvmids : guestsTouched deletionAction existing = .ok [] := by
      cases hreading <;> simp [guestsTouched, deletionAction, listedServices, Json.get, bind,
        Except.bind, pure, Except.pure]
    rw [ProxmoxServer.authorizeHaRuleGuests, hvmids]
    exact .step _ _ _ (.step _ _ _ (.step _ _ _ (.refl _)))
  have hbody : Reaches (pve3Server.applyHaRuleChange (some destructiveCaller)
      ⟨"cs-1", "pve3", "keep-apart"⟩).run _ _ :=
    .run_bind (.refl _) <| .run_bind (.refl _) <| .run_bind hrecord <|
      .run_bind (.refl _) <| .run_bind (.refl _) <| .run_bind hread <|
      .run_bind hfingerprint <| .run_bind (.refl _) <| .run_bind (.refl _) <|
      .run_bind (.refl _) <| .run_bind (.refl _) <| .run_bind (.refl _) <|
      .run_bind hguests (.refl _)
  exact ⟨_, hbody⟩

/-- The plan stores its preview. -/
def previewEvent : Event Effect := ⟨.coordinator (.updateChangeSet plannedDeletionOf), .ok ()⟩

/-- The apply claims the record. -/
def claimEvent : Event Effect :=
  ⟨.coordinator (.claimChangeSetForApply "cs-1" "pve3/ha-rule:keep-apart"),
    .ok { approvedDeletion with state := .applying }⟩

/-- The approval is recorded. -/
def approveEvent : Event Effect :=
  ⟨.coordinator (.approveChangeSet "cs-1" "pve3/ha-rule:keep-apart" "reviewer"
    plannedDeletionOf.digest .human), .ok (RecordList.output approvedDeletion)⟩

/-- What the approval does. -/
def approveEvents : List (Event Effect) :=
  [⟨.coordinator (.changeSet "cs-1" "pve3/ha-rule:keep-apart"), .ok plannedDeletionOf⟩,
    approveEvent]

def plannedRecords : RecordList := ⟨[plannedDeletionOf], List.nodup_singleton _⟩

def approvedRecords : RecordList := ⟨[approvedDeletion], List.nodup_singleton _⟩

omit [Externals] in
private theorem step_approveDeletion : Coordinator.inMemory.Step plannedRecords
    (.approveChangeSet "cs-1" "pve3/ha-rule:keep-apart" "reviewer" plannedDeletionOf.digest .human)
    (.ok (RecordList.output approvedDeletion)) approvedRecords := by
  refine ⟨"cs-2", rfl, ?_⟩
  have hdemand : plannedRecords.demand "cs-1" "pve3/ha-rule:keep-apart" (fun record =>
      !record.state.isSpent && "reviewer" != record.owner &&
        plannedDeletionOf.digest == record.digest && ActorType.human == .human) =
      .ok plannedDeletionOf := by
    have hfind : plannedRecords.find "cs-1" = some plannedDeletionOf := rfl
    rw [RecordList.demand, hfind]
    exact if_pos ⟨rfl, by rw [beq_self_eq_true]; rfl⟩
  simp only [RecordList.perform, hdemand]
  rfl

/-- The run of the three calls, with what the apply reads of the rule. -/
def deletionTrace (reply : Except HttpError HttpResponse) : ServerTrace :=
  ((applyDeletionEvents reply ++ [claimEvent]).map (Entry.event 2)).reverse ++
    .start 2 applyDeletionCall ::
    ((approveEvents.map (Entry.event 1)).reverse ++ .start 1 approveDeletionCall ::
    (((planDeletionEvents ++ [previewEvent]).map
      (Entry.event 0)).reverse ++ [.start 0 planDeletionCall]))

omit [Externals] in
/-- The three calls run one after the other. -/
private theorem performs_deletion (reply : Except HttpError HttpResponse) :
    ∃ planned approved applied, sampledMachine.Performs ⟨⟨fun _ => none, 0, 0⟩, .empty⟩ 1 []
      (planDeletionEvents ++ [previewEvent])
      ⟨planned, plannedRecords⟩ ∧
    sampledMachine.Performs ⟨planned, plannedRecords⟩ 10 [] approveEvents
      ⟨approved, approvedRecords⟩ ∧
    sampledMachine.Performs ⟨approved, approvedRecords⟩ 13 []
      (applyDeletionEvents reply ++ [claimEvent]) applied := by
  exact ⟨_, _, _,
    .cons (.dispatch _ _) <| .cons (.await _ _) <| .cons (.index .bumpGeneration) <|
      .cons (.index (.removeSnapshot "pve3")) <| .cons (.unixNow _) <|
      .cons (.coordinator ⟨"cs-1", rfl, rfl⟩) <| .cons (.coordinator ⟨"cs-2", rfl, rfl⟩) <|
      .cons (.coordinator ⟨"cs-2", rfl, rfl⟩) .nil,
    .cons (.coordinator ⟨"cs-2", rfl, rfl⟩) <| .cons (.coordinator step_approveDeletion) .nil,
    .cons (.coordinator ⟨"cs-2", rfl, rfl⟩) <| .cons (.dispatch _ _) <| .cons (.await _ _) <|
      .cons (.index .bumpGeneration) <| .cons (.index (.removeSnapshot "pve3")) <|
      .cons (.unixNow _) <| .cons (.coordinator ⟨"cs-2", rfl, rfl⟩) .nil⟩

omit [Externals] in
private theorem reachable_deletion {reply : Except HttpError HttpResponse} {existing : Option Json}
    (hreading : NullReading reply existing) :
    ∃ pool : Pool sampledMachine, Reachable sampledMachine pool ∧
      pool.trace = deletionTrace reply := by
  let _ : Externals := Externals.sampled
  have hempty : Reachable sampledMachine ⟨⟨⟨fun _ => none, 0, 0⟩, .empty⟩, fun _ => none, []⟩ :=
    .initial ⟨rfl, rfl⟩
  obtain ⟨planned, approved, applied, hplan, happrove, happly⟩ := performs_deletion reply
  obtain ⟨_, hplanned⟩ := planDeletionCall_reaches
  obtain ⟨pool, hpool, hworld, htrace⟩ := @Reachable.call _ _ _ hempty 0 planDeletionCall _ _ _ _ _
    (fun _ => List.not_mem_nil) hplanned hplan
  have hlength : pool.trace.length = 9 := by rw [htrace]; rfl
  have hunused : Fresh 1 pool.trace := by
    simp [Fresh, htrace]
  rw [← hworld, show 10 = pool.trace.length + 1 by rw [hlength]] at happrove
  obtain ⟨_, happroved⟩ := approveDeletionCall_reaches
  obtain ⟨pool', hpool', hworld', htrace'⟩ := @Reachable.call _ _ _ hpool 1 approveDeletionCall _ _
    _ _ _ hunused happroved happrove
  have hlength' : pool'.trace.length = 12 := by
    rw [htrace', htrace]
    rfl
  have hunused' : Fresh 2 pool'.trace := by
    simp [Fresh, htrace', htrace]
  rw [← hworld', show 13 = pool'.trace.length + 1 by rw [hlength']] at happly
  obtain ⟨_, happlied⟩ := applyDeletionCall_reaches hreading
  obtain ⟨final, hfinal, -, htrace₂⟩ := @Reachable.call _ _ _ hpool' 2 applyDeletionCall _ _ _ _ _
    hunused' happlied happly
  refine ⟨final, hfinal, ?_⟩
  rw [htrace₂, htrace', htrace]
  rfl

omit [Externals] in
/-- The plan has found a null body. -/
private theorem planned_of_deletionTrace {reply : Except HttpError HttpResponse}
    {planned : Option Json} (h : @RuleRead Externals.sampled "pve3" "keep-apart" planned
      (historyOf 0 (deletionTrace reply))) :
    planned = some .null := by
  have hhistory : historyOf 0 (deletionTrace reply) =
      (planDeletionEvents ++ [previewEvent]).reverse := rfl
  obtain ⟨response, ⟨ticket, -, hawait⟩, hread⟩ := h
  rw [hhistory, List.mem_reverse] at hawait
  simp only [planDeletionEvents, fetchEvents, noGuestsEvents, previewEvent, List.cons_append,
    List.nil_append, List.mem_cons, List.not_mem_nil, or_false] at hawait
  rcases hawait with h | h | h | h | h | h | h | h <;> cases h
  cases hread
  rfl

omit [Externals] in
/-- The apply has found what it was answered. -/
private theorem current_of_deletionTrace {reply : Except HttpError HttpResponse}
    {existing current : Option Json} (hreading : NullReading reply existing)
    (h : @RuleRead Externals.sampled "pve3" "keep-apart" current
      (historyOf 2 (deletionTrace reply))) :
    current = existing := by
  have hhistory : historyOf 2 (deletionTrace reply) =
      (applyDeletionEvents reply ++ [claimEvent]).reverse := rfl
  obtain ⟨response, ⟨ticket, -, hawait⟩, hread⟩ := h
  rw [hhistory, List.mem_reverse] at hawait
  simp only [applyDeletionEvents, fetchEvents, noGuestsEvents, claimEvent, List.cons_append,
    List.nil_append, List.mem_cons, List.not_mem_nil, or_false] at hawait
  rcases hawait with h | h | h | h | h | h | h <;> cases h
  cases hreading <;> cases hread <;> rfl

omit [Externals] in
private theorem start_of_deletionTrace {reply : Except HttpError HttpResponse} {id : ℕ}
    {served : Served} (h : .start id served ∈ deletionTrace reply) :
    id = 2 ∧ served = applyDeletionCall ∨ id = 1 ∧ served = approveDeletionCall ∨
      id = 0 ∧ served = planDeletionCall := by
  simpa [deletionTrace] using h

omit [Externals] in
/-- The plan of the run is on a null body. -/
private theorem eq_null_of_rulePlanned {reply : Except HttpError HttpResponse}
    {cluster rule : String} {planned : Option Json} {record : ChangeSet}
    (h : @RulePlanned Externals.sampled (deletionTrace reply) cluster rule planned record) :
    planned = some .null := by
  obtain ⟨hstart, hcluster, hrule, hread, -, -⟩ := h
  rcases start_of_deletionTrace hstart with ⟨-, hserved⟩ | ⟨-, hserved⟩ | ⟨rfl, hserved⟩ <;>
    cases hserved
  subst hcluster hrule
  exact planned_of_deletionTrace hread

omit [Externals] in
/-- **The comparison passes a deletion of a rule that is gone**, though it was planned on one with a
null body. -/
theorem not_detectsDrift_missingRule : ∃ pool : Pool sampledMachine,
    Reachable sampledMachine pool ∧ @FaithfulDigests Externals.sampled ∧
      ¬ @DetectsDrift Externals.sampled pool.trace := by
  let _ : Externals := Externals.sampled
  obtain ⟨pool, hpool, htrace⟩ := reachable_deletion .missing
  refine ⟨pool, hpool, faithfulDigests_sampled, fun hdetects => ?_⟩
  rw [htrace] at hdetects
  obtain ⟨record, current, hcompared, hplanned⟩ := @hdetects [] (deletionTrace missingAnswer).tail 2
    pve3Server (some destructiveCaller) ⟨"cs-1", "pve3", "keep-apart"⟩ claimEvent rfl
    (by simp [deletionTrace, applyDeletionCall]) (.inl ⟨_, _, rfl⟩)
  have hsuffix : (deletionTrace missingAnswer).tail <:+ deletionTrace missingAnswer :=
    List.tail_suffix _
  have hcurrent : current = none := 
    current_of_deletionTrace .missing (hcompared.read.mono (historyOf_suffix hsuffix))
  have hnull : current = some .null := eq_null_of_rulePlanned (hplanned.mono hsuffix)
  cases hcurrent.symm.trans hnull

omit [Externals] in
/-- The deletion of a rule that still has its null body is claimed, and its drift is detected. -/
theorem detectsDrift_nullRule : ∃ pool : Pool sampledMachine, .event 2 claimEvent ∈ pool.trace ∧
    @DetectsDrift Externals.sampled pool.trace := by
  let _ : Externals := Externals.sampled
  obtain ⟨pool, hpool, htrace⟩ := reachable_deletion .null
  refine ⟨pool, ?_, detectsDrift_of_unconflated Coordinator.lawful_inMemory faithfulDigests_sampled
    hpool ?_⟩
  · rw [htrace]
    exact List.mem_cons_self
  · intro id server caller args record planned current hstart _ hplanned hread hconflated
    rw [htrace] at hstart hplanned hread
    rcases start_of_deletionTrace hstart with ⟨rfl, hserved⟩ | ⟨-, hserved⟩ | ⟨-, hserved⟩ <;>
      cases hserved
    obtain rfl := eq_null_of_rulePlanned hplanned
    obtain rfl := current_of_deletionTrace .null hread
    rcases hconflated with ⟨heq, -⟩ | ⟨-, heq⟩ <;> cases heq

end NullBody

end ProxmoxMcp
