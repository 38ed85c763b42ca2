import ProxmoxMcp.ChangeSet.Planned
import ProxmoxMcp.Server.Destroy

/-!
# Plans under lab mode

A destructive plan looks its guest up twice. The **first** lookup settles the override and the
protection the preview states, and a lookup that fails counts as a protected guest. The **second**
authorizes the plan. Under lab mode the approval of the plan is waived when the first lookup shows a
protected guest, so the waiver and the preview are about the guest that was authorized only as far
as the two lookups **agree** on its protection.

The text of a preview has a line for the protection, except that of a guest's destruction: it marks
the line of the tags, and only if there are any (`statesProtection_previewOf_iff`). A guest that is
pinned and carries no tag is shown like an unprotected one.
-/

namespace ProxmoxMcp

open Interaction Program Text ProxmoxServer

variable [Externals]

/-! ### What a preview says of the protection -/

/-- The heading of the text of a guest's destruction. -/
def destructionHeading (state : GuestState) : String :=
  s!"DESTROY  {state.cluster} / {state.vmid} {state.name}  ({state.kind}, {state.status})"

/-- The line an approver reads the protection of the guest from: one of its own, or, if the guest is
to be destroyed, the line of its tags, with a mark when the guest is protected. -/
def protectionLine (op : String) (tags : List String) (protection : Protection) : String :=
  if isGuestDestroy op then
    if protection.isProtected then
      "  tags       " ++ ", ".intercalate tags ++ "          ← PROTECTED"
    else "  tags       " ++ if tags.isEmpty then "(none)" else ", ".intercalate tags
  else if protection.isProtected then "  protected  yes — " ++ protection.summary
  else "  protected  no"

/-- A text **states** the protection of a guest: the line it is read from follows the heading, if
the guest is to be destroyed, and is the last line but the one of the override otherwise. -/
def StatesProtection (op : String) (state : GuestState) (protection : Protection) (text : String) :
    Prop :=
  let line := protectionLine op state.tags protection
  if isGuestDestroy op then
    ∃ rest, text = destructionHeading state ++ ("\n" ++ (line ++ ("\n" ++ rest)))
  else ∃ body override, text = body ++ ("\n" ++ (line ++ ("\n" ++ waiverLine override)))

/-- A protected guest that is to be destroyed carries a tag that can be marked. -/
def Marked (op : String) (tags : List String) (protection : Protection) : Prop :=
  isGuestDestroy op → protection.isProtected → tags ≠ []

section Stated

omit [Externals]

variable {action : DestroyAction} {state : GuestState} {verdict : Verdict}

/-- The line of the tags. -/
private def taggedLine (tags : List String) (isProtected : Bool) : String :=
  if tags.isEmpty then "  tags       (none)"
  else if isProtected then "  tags       " ++ ", ".intercalate tags ++ "          ← PROTECTED"
  else "  tags       " ++ ", ".intercalate tags

/-- The first two of three lines or more. -/
private theorem lines_cons_cons (first second third : String) (lines : List String) :
    "\n".intercalate (first :: second :: third :: lines) =
      first ++ ("\n" ++ (second ++ ("\n" ++ "\n".intercalate (third :: lines)))) := by
  rw [String.intercalate_cons_cons, String.intercalate_cons_cons]
  simp only [String.append_assoc]

/-- The text of a guest's destruction shows its tags behind the heading. -/
private theorem exists_previewOf_destruction (hop : isGuestDestroy action.op) : ∃ rest,
    previewOf action state verdict = destructionHeading state ++
      ("\n" ++ (taggedLine state.tags verdict.protection.isProtected ++ ("\n" ++ rest))) := by
  rw [previewOf, if_pos hop]
  unfold renderPreview destructionHeading taggedLine
  simp only [List.cons_append, lines_cons_cons]
  exact ⟨_, rfl⟩

/-- The text of any other operation has the line of the protection before that of the override. -/
private theorem exists_previewOf_operation (hop : ¬ isGuestDestroy action.op) : ∃ body,
    previewOf action state verdict =
      body ++ ("\n" ++ (protectionLine action.op state.tags verdict.protection ++
        ("\n" ++ waiverLine verdict.override))) := by
  rw [previewOf, if_neg hop, renderDestructivePreview, protectionLine, if_neg hop]
  simp only [toString, String.append_assoc]
  exact ⟨_, rfl⟩

/-- Tags that can be marked are shown as the protection asks. -/
private theorem taggedLine_eq {op : String} (hop : isGuestDestroy op) {tags : List String}
    {protection : Protection} (hmarked : Marked op tags protection) :
    taggedLine tags protection.isProtected = protectionLine op tags protection := by
  rw [taggedLine, protectionLine, if_pos hop]
  cases hprotected : protection.isProtected with
  | true =>
    have htags : tags.isEmpty = false := by simpa using hmarked hop hprotected
    rw [htags]
    rfl
  | false =>
    cases tags with
    | nil => rfl
    | cons tag tags => rfl

/-- **The protection is stated** unless the guest is to be destroyed, protected and untagged. -/
theorem statesProtection_previewOf_iff :
    StatesProtection action.op state verdict.protection (previewOf action state verdict) ↔
      Marked action.op state.tags verdict.protection := by
  unfold StatesProtection
  split_ifs with hop
  · obtain ⟨rest, hrest⟩ := @exists_previewOf_destruction action state verdict hop
    constructor
    · rintro ⟨rest', hrest'⟩ - hprotected htags
      have htexts := congrArg String.toList (hrest.symm.trans hrest')
      simp [taggedLine, protectionLine, hop, hprotected, htags] at htexts
    · intro hmarked
      exact ⟨rest, taggedLine_eq hop hmarked ▸ hrest⟩
  · obtain ⟨body, hbody⟩ := @exists_previewOf_operation action state verdict hop
    exact iff_of_true ⟨body, verdict.override, hbody⟩ fun hdestroy => absurd hdestroy hop

end Stated

/-! ### The two lookups of a plan -/

omit [Externals] in
/-- The protection by what a lookup has shown; nothing counts as a protected guest. -/
def protectionShown (cluster : Cluster) : Option ResolvedGuest → Protection
  | some guest => protectionOf cluster (some guest) false
  | none => protectionOf cluster none true

/-- A guest was looked up **twice**: when the clock was read the index had shown this of it
(nothing, if the first lookup failed), and the lookup right after that authorized the call, with
this guest. -/
def LookedUpTwice (client : ProxmoxClient) (vmid : UInt32) (first : Option ResolvedGuest)
    (guest : ResolvedGuest) (h : History Effect) : Prop :=
  ∃ seen after origin now, lastSeen client.name vmid seen = first ∧
    Answered client.name vmid (⟨.unixNow, now⟩ :: seen) after origin (some guest) ∧ after <:+ h

omit [Externals] in
/-- Reading does not change what the index said last. -/
private theorem ensures_reads_lastSeen {α : Type} {p : ToolM α} {R : History Effect → α → Prop}
    {cluster : String} {vmid : UInt32} {guest : ResolvedGuest} {h : History Effect}
    (hp : Ensures (fun _ (op : Op) => op.Reads) R h p)
    (hlast : lastSeen cluster vmid h = some guest) :
    Ensures (fun _ (op : Op) => op.Reads)
      (fun h' a => R h' a ∧ lastSeen cluster vmid h' = some guest) h p := by
  refine (Always.keeps (P := fun h => lastSeen cluster vmid h = some guest) hp ?_ hlast).mono
    (fun _ _ hop => hop.1) fun _ _ hkept a ha => ⟨hkept.1 a ha, hkept.2⟩
  rintro h op reply hop hkept
  rw [lastSeen_cons_of_ne]
  · exact hkept
  · rintro index rfl
    exact hop.elim

theorem LookedUpTwice.mono {client : ProxmoxClient} {vmid : UInt32} {first : Option ResolvedGuest}
    {guest : ResolvedGuest} {h h' : History Effect}
    (htwice : LookedUpTwice client vmid first guest h) (hh : h <:+ h') :
    LookedUpTwice client vmid first guest h' := by
  obtain ⟨seen, after, origin, now, hfirst, hsecond, hafter⟩ := htwice
  exact ⟨seen, after, origin, now, hfirst, hsecond, hafter.trans hh⟩

section Verdict

variable {server : ProxmoxServer} {client : ProxmoxClient} {vmid : UInt32} {h : History Effect}

/-- Sending a request does not use the index. -/
private theorem always_send_lastSeen (request : ApiRequest) {known : Option ResolvedGuest}
    (hknown : lastSeen client.name vmid h = known) :
    Always (fun _ _ => True) (fun after _ => lastSeen client.name vmid after = known) h
      (client.send request).run := by
  have hhttp : Always (fun _ (op : Op) => ∃ sent, op = .http sent) (fun _ _ => True) h
      (client.send request).run :=
    ProxmoxClient.always_send (fun _ _ => trivial) ⟨_, rfl⟩ (fun _ => ⟨_, rfl⟩) fun _ _ => trivial
  refine (hhttp.keeps (P := fun h => lastSeen client.name vmid h = known) ?_ hknown).mono
    (fun _ _ _ => trivial) fun _ _ hkept => hkept.2
  rintro h op reply ⟨sent, rfl⟩ hlast
  rw [lastSeen_cons_of_ne (by simp)]
  exact hlast

/-- What the index has said of a guest once it was resolved for the first time: the guest, or
nothing if that failed. -/
private theorem always_resolve_lastSeen (hfresh : lastSeen client.name vmid h = none) :
    Always (fun _ _ => True)
      (fun after outcome => lastSeen client.name vmid after = outcome.toOption)
      h (resolve client client.name vmid).run := by
  refine ⟨trivial, fun hit => ?_⟩
  cases hit with
  | some hit =>
    have hhit : lastSeen client.name vmid
        (⟨.index (.lookupFresh client.name vmid), some hit⟩ :: h) = some hit.guest := by
      simp [lastSeen]
    exact hhit
  | none =>
    have hasked : lastSeen client.name vmid
        (⟨.index (.lookupFresh client.name vmid), none⟩ :: h) = none := hfresh
    refine ⟨trivial, fun generation => ?_⟩
    refine Always.run_bind (R := fun after _ => lastSeen client.name vmid after = none)
      (Always.run_bind (always_send_lastSeen _ hasked) (fun after data hlast => ?_)
        fun _ _ hlast => hlast)
        (fun after guests _ => ⟨trivial, fun _ => ?_⟩) fun _ _ hlast => hlast
    · exact (always_run_liftExcept _).mpr hlast
    · refine always_run_required.mpr ⟨fun guest hguest => ?_, fun hnone => ?_⟩
      · simp [Except.toOption, lastSeen, hguest]
      · simp [Except.toOption, lastSeen, hnone]

private theorem ensures_lookedUpProtection_lastSeen (hfresh : lastSeen client.name vmid h = none) :
    Ensures (Quiet fun _ _ _ => True) (fun after protection =>
        protection = protectionShown client.cluster (lastSeen client.name vmid after)) h
      (lookedUpProtection client client.name vmid) := by
  have hresolve := (@always_resolve _ (fun _ _ _ => True) client vmid h trivial).and
    (always_resolve_lastSeen hfresh)
  refine Ensures.attempt hresolve (fun _ _ hop => hop.1) ?_
  rintro after outcome _ ⟨-, hlast⟩
  cases outcome with
  | ok guest =>
    refine ensures_pure.mpr ?_
    rw [hlast]
    rfl
  | error error =>
    refine ensures_pure.mpr ?_
    rw [hlast]
    rfl

omit [Externals] in
/-- Lab mode is the override only of a protected guest. -/
private theorem isProtected_of_overrideFor {protection : Protection} {cluster : String}
    {now : UInt64} {op : String} {principal : Option String}
    (hlab : server.overrideFor protection cluster vmid now op principal = .labMode) :
    protection.isProtected := by
  rw [overrideFor, destructiveAllowed] at hlab
  cases hprotected : protection.isProtected with
  | true => rfl
  | false => simp [hprotected] at hlab

/-- **The verdict** of a plan: its protection and its override come from the first lookup. -/
theorem ensures_authorizeWithOverride_twice {grant : ProxmoxGrant} {op : String}
    {principal : Option String} (hfresh : lastSeen client.name vmid h = none) :
    Ensures (Quiet fun _ _ _ => True) (fun after verdict => ∃ first,
        LookedUpTwice client vmid first verdict.authorization.guest after ∧
        lastSeen client.name vmid after = some verdict.authorization.guest ∧
        verdict.protection = protectionShown client.cluster first ∧
        (verdict.override = .labMode → server.labMode ∧ verdict.protection.isProtected)) h
      (authorizeWithOverride server client client.name vmid grant (.ok op) principal
        .destructive) := by
  refine Ensures.bind (ensures_lookedUpProtection_lastSeen hfresh) (fun _ _ hop => hop)
    fun seen protection _ hshown => ?_
  refine Ensures.request trivial fun now => Ensures.liftExcept fun op _ => ?_
  refine Ensures.bind (ensures_mapError.mpr (ensures_authorize client vmid grant _ trivial))
    (fun _ _ hop => hop) fun after certificate _ hsecond => ensures_pure.mpr ?_
  obtain ⟨origin, hsecond⟩ := hsecond
  exact ⟨lastSeen client.name vmid seen, ⟨seen, after, origin, now, rfl, hsecond, List.suffix_rfl⟩,
    hsecond.lastSeen_eq, hshown, fun hlab =>
      ⟨labMode_of_destructiveAllowed hlab, isProtected_of_overrideFor hlab⟩⟩

end Verdict

/-! ### Sound plans -/

/-- When the waiver and the preview of a plan have to be about the guest that was authorized. -/
abbrev Agreement := Protection → Protection → Prop

/-- When the preview of an operation has to state the protection of a guest with these tags. -/
abbrev Statement := String → List String → Protection → Prop

/-- The steps of a plan are **sound**: it approves nothing itself; and if the protection the first
lookup showed agrees with that of the guest that was authorized, then it waives an approval only
under lab mode and with this guest protected, and the preview it adds to a record states the
protection of this guest. -/
structure PlanStep (agreement : Agreement) (stated : Statement) (server : ProxmoxServer)
    (args : PlanDestroyArgs) (h : History Effect) (op : Op) : Prop where
  unapproved : ∀ id device approver digest actor,
    op ≠ .coordinator (.approveChangeSet id device approver digest actor)
  waived : ∀ id device owner digest,
    op = .coordinator (.waiveApproval id device owner digest) → ∃ client first guest,
      server.clientNamed args.cluster = some client ∧
      LookedUpTwice client args.vmid first guest h ∧
      lastSeen args.cluster args.vmid h = some guest ∧
      (agreement (protectionShown client.cluster first)
          (protectionOf client.cluster (some guest) false) →
        server.labMode ∧ (protectionOf client.cluster (some guest) false).isProtected)
  stored : ∀ updated, op = .coordinator (.updateChangeSet updated) → ∃ client first guest,
    server.clientNamed args.cluster = some client ∧
    LookedUpTwice client args.vmid first guest h ∧
    lastSeen args.cluster args.vmid h = some guest ∧
    (agreement (protectionShown client.cluster first)
        (protectionOf client.cluster (some guest) false) →
      stated args.op guest.tags (protectionOf client.cluster (some guest) false) →
      ∃ (records : List ChangeSet) (record : ChangeSet) (state : GuestState) (digest text : String),
        ⟨.coordinator .changeSets, records⟩ ∈ h ∧ record ∈ records ∧
        updated = { record with preview := some ⟨digest, text⟩ } ∧
        StateRead args.cluster args.cluster guest state h ∧
        StatesProtection args.op state (protectionOf client.cluster (some guest) false) text)

section Rules

variable {agreement : Agreement} {stated : Statement} {server : ProxmoxServer}
  {caller : Option CallerCtx} {args : PlanDestroyArgs} {h : History Effect}

/-- Only three operations of a plan have to be looked at. -/
private theorem planStep_of_ne {op : Op}
    (happroval : ∀ id device approver digest actor,
      op ≠ .coordinator (.approveChangeSet id device approver digest actor))
    (hwaiver : ∀ id device owner digest, op ≠ .coordinator (.waiveApproval id device owner digest))
    (hstore : ∀ updated, op ≠ .coordinator (.updateChangeSet updated)) :
    PlanStep agreement stated server args h op :=
  ⟨happroval, fun _ _ _ _ heq => absurd heq (hwaiver _ _ _ _), fun _ heq => absurd heq (hstore _)⟩

private theorem planStep_of_quiet {lookups : LookupRule} {op : Op} (hop : Quiet lookups h op) :
    PlanStep agreement stated server args h op := by
  refine planStep_of_ne ?_ ?_ ?_
  · rintro _ _ _ _ _ rfl
    exact hop.elim
  · rintro _ _ _ _ rfl
    exact hop.elim
  · rintro _ rfl
    exact hop.elim

private theorem planStep_of_reads {op : Op} (hop : op.Reads) :
    PlanStep agreement stated server args h op :=
  planStep_of_quiet hop.quiet

/-- What a plan has settled once the state of its guest is read. -/
structure PlanSettled (client : ProxmoxClient) (args : PlanDestroyArgs)
    (first : Option ResolvedGuest) (verdict : Verdict) (h : History Effect) : Prop where
  twice : LookedUpTwice client args.vmid first verdict.authorization.guest h
  last : lastSeen args.cluster args.vmid h = some verdict.authorization.guest
  protection : verdict.protection = protectionShown client.cluster first

/-- Storing the preview of a plan is sound. -/
private theorem planStep_updateChangeSet {client : ProxmoxClient} {first : Option ResolvedGuest}
    {records : List ChangeSet} {record : ChangeSet} {action : DestroyAction} {state : GuestState}
    {verdict : Verdict} {digest : String}
    (hclient : server.clientNamed args.cluster = some client)
    (hsettled : PlanSettled client args first verdict h)
    (hstate : StateRead args.cluster args.cluster verdict.authorization.guest state h)
    (hop : action.op = args.op) (hread : ⟨.coordinator .changeSets, records⟩ ∈ h)
    (hmem : record ∈ records) :
    PlanStep Eq Marked server args h (.coordinator (.updateChangeSet
      { record with preview := some ⟨digest, previewOf action state verdict⟩ })) := by
  refine ⟨by simp, by simp, ?_⟩
  rintro _ ⟨⟩
  refine ⟨client, first, _, hclient, hsettled.twice, hsettled.last, fun hagree hmarked =>
    ⟨records, record, state, digest, _, hread, hmem, rfl, hstate, ?_⟩⟩
  have hprotection : verdict.protection =
      protectionOf client.cluster (some verdict.authorization.guest) false :=
    hsettled.protection.trans hagree
  have htags : state.tags = verdict.authorization.guest.tags := by
    obtain ⟨response, data, config, -, -, -, rfl⟩ := hstate
    rfl
  rw [← hop, ← hprotection]
  refine statesProtection_previewOf_iff.mpr ?_
  rw [hop, htags, hprotection]
  exact hmarked

/-- Waiving the approval of a plan is sound. -/
private theorem planStep_waiveApproval {client : ProxmoxClient} {first : Option ResolvedGuest}
    {verdict : Verdict} {id device owner digest : String}
    (hclient : server.clientNamed args.cluster = some client)
    (hsettled : PlanSettled client args first verdict h)
    (hlab : server.labMode ∧ verdict.protection.isProtected) :
    PlanStep Eq Marked server args h (.coordinator (.waiveApproval id device owner digest)) := by
  refine ⟨by simp, ?_, by simp⟩
  rintro _ _ _ _ ⟨⟩
  refine ⟨client, first, _, hclient, hsettled.twice, hsettled.last, fun hagree => ⟨hlab.1, ?_⟩⟩
  rw [← hagree, ← hsettled.protection]
  exact hlab.2

/-- Recording a plan is sound. -/
private theorem ensures_recordPlan_planStep {client : ProxmoxClient}
    {first : Option ResolvedGuest} {action : DestroyAction} {state : GuestState}
    {verdict : Verdict} {device owner fingerprint : String}
    (hclient : server.clientNamed args.cluster = some client)
    (hsettled : PlanSettled client args first verdict h)
    (hstate : StateRead args.cluster args.cluster verdict.authorization.guest state h)
    (hop : action.op = args.op) :
    Ensures (PlanStep Eq Marked server args)
      (fun h' _ => PlanSettled client args first verdict h') h
      (recordPlan device action.toJson owner fingerprint (previewOf action state verdict)) := by
  have hcreated {h : History Effect} {actions : List Json} {policy : String} :
      PlanStep Eq Marked server args h
        (.coordinator (.createChangeSet device actions owner fingerprint policy)) :=
    planStep_of_ne (by simp) (by simp) (by simp)
  have hread {h : History Effect} :
      PlanStep Eq Marked server args h (.coordinator .changeSets) :=
    planStep_of_ne (by simp) (by simp) (by simp)
  refine Ensures.request hcreated fun created => Ensures.liftExcept fun output _ =>
    Ensures.request hread fun records => Ensures.required fun record hrecord => ?_
  have hlater : h <:+ ⟨.coordinator .changeSets, records⟩ :: ⟨.coordinator (.createChangeSet device
      [action.toJson] owner fingerprint policySignature), created⟩ :: h := ⟨[_, _], rfl⟩
  have hsettled' := hsettled.twice.mono hlater
  refine Ensures.request (planStep_updateChangeSet hclient ⟨hsettled', hsettled.last,
    hsettled.protection⟩ (hstate.mono hlater) hop List.mem_cons_self
    (List.mem_of_find?_eq_some hrecord)) fun _ => Ensures.liftExcept fun _ _ =>
    ensures_pure.mpr ⟨hsettled'.mono (List.suffix_cons _ _), hsettled.last, hsettled.protection⟩

/-- **Every plan is sound** as far as its lookups agree and its preview can state the protection. -/
theorem planDestroy_sound (args : PlanDestroyArgs) :
    Ensures (PlanStep Eq Marked server args) (fun _ _ => True) []
      (server.planDestroy caller args) := by
  refine Ensures.liftExcept fun _ _ => Ensures.liftExcept fun client hclient =>
    Ensures.liftExcept fun grant _ => ?_
  have hnamed : server.clientNamed args.cluster = some client := clientNamed_of_clientFor hclient
  have hname : args.cluster = client.name := (name_of_clientFor hclient).symm
  refine Ensures.request (planStep_of_ne (by simp) (by simp) (by simp)) fun _ =>
    Ensures.request (planStep_of_ne (by simp) (by simp) (by simp)) fun _ => ?_
  -- two lookups: the protection is of the first, the guest of the second
  rw [hname]
  refine Ensures.bind (ensures_authorizeWithOverride_twice rfl)
    (fun _ _ hop => planStep_of_quiet hop)
    fun h₂ verdict _ hverdict => Ensures.liftExcept fun action haction => ?_
  rw [← hname]
  obtain ⟨first, htwice, hlast, hprotection, hlab⟩ := hverdict
  have hop : action.op = args.op := op_of_buildDestroyAction (eq_ok_of_mapError haction)
  refine Ensures.bind (ensures_reads_lastSeen (ensures_checkPlannedOwner _ _ _ _) hlast)
    (fun _ _ hop => planStep_of_reads hop) fun h₃ _ hh₃ hchecked => ?_
  refine Ensures.bind (ensures_reads_lastSeen (ensures_checkPlannable _ _ _ _) hchecked.2)
    (fun _ _ hop => planStep_of_reads hop) fun h₄ _ hh₄ hplannable =>
    Ensures.required fun tool _ => Ensures.liftExcept fun _ _ => Ensures.liftExcept fun _ _ => ?_
  refine Ensures.bind (ensures_reads_lastSeen ensures_readGuestState hplannable.2)
    (fun _ _ hop => planStep_of_reads hop) fun h₅ state hh₅ hread => ?_
  -- what follows reads, and does not look the guest up again
  have hsettled : PlanSettled client args first verdict h₅ :=
    ⟨htwice.mono (hh₃.trans (hh₄.trans hh₅)), hname ▸ hread.2, hprotection⟩
  refine Ensures.bind (ensures_recordPlan_planStep hnamed hsettled (hname ▸ hread.1) hop)
    (fun _ _ hop => hop) fun h₆ output hh₆ hsettled => ?_
  refine Ensures.bind (R := fun _ _ => True) ?_ (fun _ _ hop => hop)
    fun _ _ _ _ => ensures_pure.mpr trivial
  cases hoverride : verdict.override with
  | labMode =>
    exact Ensures.request (planStep_waiveApproval hnamed hsettled (hlab hoverride)) fun _ =>
      ensures_liftExcept.mpr fun _ _ => trivial
  | _ => exact ensures_pure.mpr trivial

end Rules

/-! ### A plan whose first lookup failed -/

section Failed

/-- A server of one cluster under lab mode, without pins or waivers. -/
def labServer : ProxmoxServer :=
  ⟨[⟨"pve", ⟨"https://pve:8006", [], ["protected"]⟩⟩], [], true, false, .ok ()⟩

/-- A caller with every tool and guest in its scope that may destroy. -/
def labCaller : CallerCtx where
  tokenName := "planner"
  requestId := "req-1"
  actorType := .agent
  tools := .wildcard
  devices := .wildcard
  grant := some ⟨["*"], [.destructive]⟩

/-- Destroy guest 100. -/
def labDestroy : PlanDestroyArgs := { cluster := "pve", vmid := 100 }

/-- The entry of guest 100, which carries no tag. -/
def labEntry : Json :=
  .object [("type", .string "lxc"), ("vmid", .unsigned 100), ("node", .string "pve1"),
    ("name", .string "scratch"), ("status", .string "stopped")]

def labGuest : ResolvedGuest := ⟨"pve", 100, "scratch", .lxc, "pve1", "stopped", [], none⟩

/-- The record of the plan. -/
def labRecord : ChangeSet where
  id := "cs-1"
  device := "pve/100"
  actions := []
  owner := "planner"
  expectedCandidateFingerprint := ""
  policySignature := policySignature
  digest := "digest"
  state := .planned
  preview := none
  taskId := none

/-- An answer with a `data` member. -/
def labAnswer (data : Json) : Except HttpError HttpResponse :=
  .ok ⟨200, "", .ok (.object [("data", data)])⟩

omit [Externals] in
/-- The first lookup fails, the second shows an unprotected guest, and the approval is waived. -/
private theorem planDestroy_reaches_waiver : ∃ events next,
    Reaches (@planDestroy Externals.plain labServer (some labCaller) labDestroy).run events
      (.perform (.coordinator (.waiveApproval "cs-1" "pve/100" "planner" "digest")) next) ∧
    lastSeen "pve" 100 events.reverse = some labGuest := by
  apply Exists.intro
  apply Exists.intro
  apply And.intro
  · apply Reaches.step _ _ ()
    apply Reaches.step _ _ ()
    -- the first lookup
    apply Reaches.step _ _ none
    apply Reaches.step _ _ (0 : UInt64)
    apply Reaches.step _ _ (0 : ℕ)
    apply Reaches.step _ _ (Except.error ⟨"timeout"⟩ : Except HttpError HttpResponse)
    apply Reaches.step _ _ (0 : UInt64)
    -- the second lookup
    apply Reaches.step _ _ none
    apply Reaches.step _ _ (0 : UInt64)
    apply Reaches.step _ _ (1 : ℕ)
    apply Reaches.step _ _ (labAnswer (.array [labEntry]))
    apply Reaches.step _ _ ()
    -- the configuration of the guest
    apply Reaches.step _ _ (2 : ℕ)
    apply Reaches.step _ _ (labAnswer (.object [("digest", .string "d")]))
    -- the plan and its preview
    apply Reaches.step _ _ (Except.ok ⟨"cs-1", .planned, "digest"⟩ : Except String ChangeSetOutput)
    apply Reaches.step _ _ [labRecord]
    apply Reaches.step _ _ (Except.ok () : Except String Unit)
    exact Reaches.refl _
  · rfl

omit [Externals] in
/-- The plan of an unprotected guest is approved without a human. -/
theorem not_planStep_labServer : ¬ @Ensures Effect _ _ (@PlanStep Externals.plain
      (fun _ _ => True) (fun _ _ _ => True) labServer labDestroy) (fun _ _ => True) []
    (@planDestroy Externals.plain labServer (some labCaller) labDestroy) := by
  let _ : Externals := Externals.plain
  intro hsound
  obtain ⟨events, next, hreaches, hlast⟩ := planDestroy_reaches_waiver
  have hstep := Always.allows_of_reaches hsound hreaches
  rw [List.append_nil] at hstep
  obtain ⟨client, first, guest, hclient, -, hseen, hwaived⟩ := hstep.waived _ _ _ _ rfl
  obtain rfl : labGuest = guest := Option.some.inj (hlast.symm.trans hseen)
  obtain rfl : _ = client := Option.some.inj hclient
  exact absurd (hwaived trivial).2 (by decide)

end Failed

end ProxmoxMcp
