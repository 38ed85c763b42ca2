import ProxmoxMcp.Server.Approval

/-!
# Archives of pinned guests

A pin protects a **number**, whether or not a guest has it. A restore into a new vmid copies an
archive of some guest, and `authorizeBackupOwner` decides for the plan, the approval and the apply
whether it may. While the owner is there, a pin holds the call back unless an override applies. An
owner that is **gone** is held to the scope of the grant alone, so a pin on its number is not asked
for.
-/

namespace ProxmoxMcp

open Interaction Text ProxmoxServer
open Program hiding bind

variable [Externals]

/-! ### Keeping pins -/

/-- When a step that serves to copy an archive may be taken for a caller although nothing covers
its owner. -/
abbrev Excuse := Option CallerCtx → ProxmoxClient → UInt32 → History Effect → Prop

/-- The owner of an archive was looked up and is gone, and the caller's grant admits its number. -/
def goneInScope : Excuse := fun caller client owner h => Observed False client.name owner none h ∧
  ∃ grant, resolveGrant caller = .ok grant ∧ grant.allowsNewVmid owner

/-- **The pin is kept**: if the owner is pinned, a waiver or lab mode covers it, or there is an
excuse. -/
def PinKept (excuse : Excuse) (server : ProxmoxServer) (caller : Option CallerCtx)
    (client : ProxmoxClient) (principal : Option String) (owner : UInt32) (h : History Effect) :
    Prop :=
  owner ∈ client.cluster.protectedVmids →
    Overridden server client.name owner restoreNewVmidOp principal h ∨
      excuse caller client owner h

/-- An owner whose archive may be read is unpinned, covered, or gone with its number in scope. -/
theorem OwnerAllowed.pinKept {server : ProxmoxServer} {caller : Option CallerCtx}
    {client : ProxmoxClient} {grant : ProxmoxGrant} {principal : Option String} {owner : UInt32}
    {h : History Effect} (hgrant : resolveGrant caller = .ok grant)
    (hallowed : OwnerAllowed server client grant principal owner h) :
    PinKept goneInScope server caller client principal owner h := by
  intro hpinned
  cases hallowed with
  | admitted hadmitted =>
    have hprotected := isProtected_protectionOf_some.mpr
      (Or.inl (hadmitted.guest_vmid.symm ▸ hpinned))
    exact .inl (hadmitted.overridden trivial hprotected)
  | gone hobserved hscope => exact .inr ⟨hobserved, grant, hgrant, hscope⟩

/-- What a plan creates is for an archive whose listed owner is recorded and whose pin is kept. -/
def PlanKeepsPin (excuse : Excuse) (server : ProxmoxServer) (caller : Option CallerCtx)
    (args : PlanRestoreNewVmidArgs) (h : History Effect) (op : Op) : Prop :=
  ∀ device actions planner fingerprint policy,
    op = .coordinator (.createChangeSet device actions planner fingerprint policy) →
      ∃ client action, server.clientNamed args.cluster = some client ∧
        actions = [RestoreNewVmidAction.toJson action] ∧
        OwnerListed args.cluster args.node args.volid action.ownerVmid h ∧
        PinKept excuse server caller client (principalOf caller) action.ownerVmid h

/-- What an approval signs is for an archive whose recorded owner's pin is kept. -/
def ApprovalKeepsPin (excuse : Excuse) (server : ProxmoxServer) (caller : Option CallerCtx)
    (args : ChangeSetArgs) (h : History Effect) (op : Op) : Prop :=
  ∀ id device approver digest actor,
    op = .coordinator (.approveChangeSet id device approver digest actor) → ∃ record,
      RecordRead args.changeSetId args.device record h ∧ ∀ action,
        record.actions.head? = some (RestoreNewVmidAction.toJson action) → ∃ client,
          server.clientNamed args.cluster = some client ∧
          PinKept excuse server caller client (some record.owner) action.ownerVmid h

/-- What an apply sends is for an archive whose listed owner's pin is kept. -/
def ApplyKeepsPin (excuse : Excuse) (server : ProxmoxServer) (caller : Option CallerCtx)
    (args : ChangeSetArgs) (h : History Effect) (op : Op) : Prop :=
  ∀ name request, op = .http (.dispatch name request) → request.Mutating → ∃ client action kind,
    server.clientNamed args.cluster = some client ∧
    request = Guests.restoreBackupRequest action.node kind (RestoreNewVmidAction.targetVmid action)
      action.volid false ∧
    OwnerListed args.cluster action.node action.volid action.ownerVmid h ∧
    PinKept excuse server caller client (principalOf caller) action.ownerVmid h

/-- The three calls a restore into a new vmid takes keep the pins. -/
structure KeepsPins (excuse : Excuse) (server : ProxmoxServer) : Prop where
  plan : ∀ caller (args : PlanRestoreNewVmidArgs),
    Ensures (PlanKeepsPin excuse server caller args) (fun _ _ => True) []
      (server.planRestoreNewVmid caller args)
  approval : ∀ caller (args : ChangeSetArgs),
    Ensures (ApprovalKeepsPin excuse server caller args) (fun _ _ => True) []
      (server.approveChangeSet caller args)
  apply : ∀ caller (args : ChangeSetArgs),
    Ensures (ApplyKeepsPin excuse server caller args) (fun _ _ => True) []
      (server.applyRestoreNewVmid caller args)

/-! ### Runs that find the owner -/

section Rules

variable {server : ProxmoxServer} {caller : Option CallerCtx} {h : History Effect}

private theorem planKeepsPin_of_quiet {excuse : Excuse} {args : PlanRestoreNewVmidArgs}
    {lookups : LookupRule} {op : Op} (hop : Quiet lookups h op) :
    PlanKeepsPin excuse server caller args h op := by
  rintro device actions planner fingerprint policy rfl
  exact hop.elim

private theorem planKeepsPin_of_reads {excuse : Excuse} {args : PlanRestoreNewVmidArgs} {op : Op}
    (hop : op.Reads) : PlanKeepsPin excuse server caller args h op :=
  planKeepsPin_of_quiet hop.quiet

/-- A plan is created after the owner of its archive was allowed. -/
theorem ensures_planRestoreNewVmid_keepsPin (args : PlanRestoreNewVmidArgs) :
    Ensures (PlanKeepsPin goneInScope server caller args) (fun _ _ => True) h
      (server.planRestoreNewVmid caller args) := by
  obtain ⟨cluster, node, target, kind, volid⟩ := args
  refine Ensures.liftExcept fun _ _ => Ensures.liftExcept fun _ _ =>
    Ensures.liftExcept fun client hclient => Ensures.liftExcept fun grant hgrant =>
    Ensures.ensure fun _ => Ensures.liftExcept fun _ _ => ?_
  obtain rfl : client.name = cluster := name_of_clientFor hclient
  refine Ensures.bind (ensures_mapError.mpr ensures_resolveBackupOwner)
    (fun _ _ hop => planKeepsPin_of_reads hop) fun h₁ owner _ hlisted => ?_
  refine Ensures.bind ensures_authorizeBackupOwner (fun _ _ hop => planKeepsPin_of_quiet hop)
    fun h₂ _ hh₂ hallowed => Ensures.liftExcept fun action haction => ?_
  have howner : action.ownerVmid = owner :=
    congrArg _ (eq_of_buildRestoreNewVmidAction (eq_ok_of_mapError haction))
  subst howner
  refine Ensures.bind ensures_requireRestoreTarget (fun _ _ hop => hop) fun h₃ _ hh₃ _ => ?_
  refine Ensures.bind ensures_requireFree (fun _ _ hop => planKeepsPin_of_quiet hop)
    fun h₄ _ hh₄ _ => ?_
  have hh : h₂ <:+ h₄ := hh₃.trans hh₄
  have hkept : PinKept goneInScope server caller client (principalOf caller) action.ownerVmid h₄ :=
    (hallowed.mono hh).pinKept hgrant
  refine Ensures.bind (R := fun _ _ => True) (Ensures.request ?_ fun _ => Ensures.liftExcept
    fun _ _ => Ensures.request ?_ fun _ => Ensures.required fun _ _ => Ensures.request ?_ fun _ =>
    Ensures.liftExcept fun _ _ => ensures_pure.mpr trivial) (fun _ _ hop => hop)
    fun _ _ _ _ => ensures_pure.mpr trivial
  · rintro _ _ _ _ _ ⟨⟩
    exact ⟨client, action, clientNamed_of_clientFor hclient, rfl,
      hlisted.mono (hh₂.trans hh), hkept⟩
  · rintro _ _ _ _ _ ⟨⟩
  · rintro _ _ _ _ _ ⟨⟩

/-- An approval is recorded after the owner of the archive was allowed. -/
private theorem ensures_approveChangeSet_keepsPin (args : ChangeSetArgs) :
    Ensures (ApprovalKeepsPin goneInScope server caller args) (fun _ _ => True) h
      (server.approveChangeSet caller args) := by
  refine (ensures_approveChangeSet args).mono ?_ fun _ _ _ => trivial
  rintro h' op hop id device approver digest actor rfl
  obtain ⟨-, -, -, -, record, hread, -, -, hauthority⟩ := hop
  refine ⟨record, hread, fun action haction => ?_⟩
  obtain ⟨client, grant, hclient, hgrant, -, -, -, howner⟩ := (hauthority.2 action haction).owner
  exact ⟨client, hclient, howner.pinKept hgrant⟩

/-- An apply sends the restore after the owner of the archive was allowed. -/
private theorem ensures_applyRestoreNewVmid_keepsPin (args : ChangeSetArgs) (hunsent : Unsent h) :
    Ensures (ApplyKeepsPin goneInScope server caller args) (fun _ _ => True) h
      (server.applyRestoreNewVmid caller args) := by
  refine (ensures_applyRestoreNewVmid args hunsent).mono ?_ fun _ _ _ => trivial
  rintro h' op hop name request rfl hmutating
  obtain ⟨-, record, claimed, -, action, client, grant, kind, hauthorized, -, hrequest⟩ :=
    Policy.Permits.sends hop hmutating
  exact ⟨client, action, kind, hauthorized.named, hrequest, hauthorized.listed,
    hauthorized.owner.pinKept hauthorized.granted⟩

/-- No waiver covers an archive of the owner at any time, and lab mode is off. -/
def Uncovered (server : ProxmoxServer) (cluster : String) (owner : UInt32)
    (principal : Option String) : Prop :=
  server.labMode = false ∧ ∀ entry ∈ server.waivers, ∀ now,
    entry.covers cluster owner now ⟨restoreNewVmidOp, principal⟩ = false

omit [Externals] in
theorem Uncovered.not_applies {cluster : String} {owner : UInt32} {principal : Option String}
    (huncovered : Uncovered server cluster owner principal) (protection : Protection)
    (now : UInt64) :
    (server.overrideFor protection cluster owner now restoreNewVmidOp principal).applies =
      false := by
  rw [← Bool.not_eq_true]
  intro happlies
  rcases exists_waiver_or_labMode_of_applies happlies with ⟨entry, hmem, hcovers⟩ | hlab
  · exact absurd hcovers (by simp [huncovered.2 entry hmem now])
  · exact absurd hlab (by simp [huncovered.1])

/-- The lookup a call has made from `h` on was answered, by what it had seen in `after`, with a
listing that does not have the guest. -/
def FoundGone (cluster : String) (vmid : UInt32) (h after : History Effect) : Prop :=
  ∃ seen origin, Answered cluster vmid h seen origin none ∧ seen <:+ after

/-- A lookup is answered once. -/
private theorem not_foundGone_of_answered {cluster : String} {vmid : UInt32}
    {seen after : History Effect} {origin : Origin} {guest : ResolvedGuest}
    (hanswered : Answered cluster vmid h seen origin (some guest)) (hseen : seen <:+ after) :
    ¬ FoundGone cluster vmid h after := by
  rintro ⟨seen', origin', hgone, hseen'⟩
  obtain ⟨hfound, -⟩ := hanswered.eq_of_suffix hgone hseen hseen'
  cases hfound

/-- A listing that was not read answers no lookup. -/
private theorem not_foundGone_of_length {cluster : String} {vmid : UInt32} {generation : UInt64}
    {later : History Effect} (hlength : later.length ≤ 2) :
    ¬ FoundGone cluster vmid h (later ++ ⟨.index .loadGeneration, generation⟩ ::
      ⟨.index (.lookupFresh cluster vmid), none⟩ :: h) := by
  rintro ⟨seen, origin, hgone, hseen⟩
  have hshort := hseen.length_le
  generalize hfound : none = found at hgone
  cases hgone with
  | cached hit => cases hfound
  | fetched =>
    simp at hshort
    omega

/-- A resolution that fails otherwise has no answer to its lookup. -/
private theorem always_resolve_unanswered {client : ProxmoxClient} {owner : UInt32} :
    Always (fun _ _ => True) (fun after found => ∀ error, found = .error error →
        (∀ what, error ≠ .notFound what) → ¬ FoundGone client.name owner h after) h
      (resolve client client.name owner).run := by
  refine ⟨trivial, fun hit => ?_⟩
  cases hit with
  | some hit => rintro error ⟨⟩
  | none =>
    refine ⟨trivial, fun generation => ?_⟩
    have hfetch := (Always.frame (always_fetchGuests_length client (⟨.index .loadGeneration,
      generation⟩ :: ⟨.index (.lookupFresh client.name owner), none⟩ :: h))).mono
      (fun _ _ _ => trivial) fun _ _ hfailed => hfailed
    refine Always.run_bind hfetch (fun after guests _ => ⟨trivial, fun _ => ?_⟩)
      fun after error hfailed => ?_
    · refine always_run_required.mpr ⟨fun _ _ => by rintro error ⟨⟩, fun _ => ?_⟩
      rintro error ⟨⟩ hother
      exact absurd rfl (hother _)
    · rintro _ ⟨⟩ -
      obtain ⟨hlength, later, rfl⟩ := hfailed
      have hshort := hlength error rfl
      rw [List.length_append] at hshort
      exact not_foundGone_of_length (by omega)

/-- **Resolving** fails with `notFound` exactly when its lookup was answered without the guest. -/
theorem always_resolve_foundGone {client : ProxmoxClient} {owner : UInt32} :
    Always (fun _ _ => True) (fun after found => Resolved client.name owner h after found ∧
        ((∃ what, found = .error (.notFound what)) ↔ FoundGone client.name owner h after)) h
      (resolve client client.name owner).run := by
  have hresolve := (@always_resolve _ (fun _ _ _ => True) client owner h trivial).mono
    (fun _ _ _ => trivial) fun _ _ hresolved => hresolved
  refine (hresolve.and always_resolve_unanswered).mono (fun _ _ _ => trivial)
    fun after found hfound => ⟨hfound.1, ?_⟩
  obtain ⟨hresolved, hunanswered⟩ := hfound
  cases found with
  | ok guest =>
    obtain ⟨origin, hanswered⟩ := hresolved
    exact iff_of_false (by simp) (not_foundGone_of_answered hanswered List.suffix_rfl)
  | error error => cases error with
    | notFound what =>
      obtain ⟨-, origin, hanswered⟩ := hresolved
      exact iff_of_true ⟨what, rfl⟩ ⟨after, origin, hanswered, List.suffix_rfl⟩
    | _ => exact iff_of_false (by simp) (hunanswered _ rfl (by simp))

/-- **Exactly the owner that is gone is let through**: for a pinned owner nothing covers, the check
passes if and only if its lookup was answered without the owner and the grant admits its number. -/
theorem always_authorizeBackupOwner_iff {client : ProxmoxClient} {grant : ProxmoxGrant}
    {owner : UInt32} {volid : String} {principal : Option String}
    (hpinned : owner ∈ client.cluster.protectedVmids)
    (huncovered : Uncovered server client.name owner principal) :
    Always (fun _ _ => True) (fun after outcome => outcome = .ok () ↔
        FoundGone client.name owner h after ∧ grant.allowsNewVmid owner) h
      (server.authorizeBackupOwner client client.name owner grant volid principal).run := by
  refine Always.run_bind (R := fun after outcome => ∃ found, outcome = .ok found ∧
      Resolved client.name owner h after found ∧
      ((∃ what, found = .error (.notFound what)) ↔ FoundGone client.name owner h after))
    (always_run_attempt.mpr (always_resolve_foundGone.mono (fun _ _ _ => trivial)
      fun after found hresolved => ⟨found, rfl, hresolved⟩)) ?_ ?_
  · rintro seen found ⟨_, heq, hresolved, hgone⟩
    obtain rfl := Except.ok.inj heq
    cases found with
    | ok guest =>
      -- a pinned guest is protected, and nothing overrides that
      obtain ⟨origin, hanswered⟩ := hresolved
      have hprotected : (protectionOf client.cluster (some guest) false).isProtected :=
        isProtected_protectionOf_some.mpr (Or.inl (hanswered.guest_vmid.symm ▸ hpinned))
      have hrefused (now : UInt64) :
          (!(protectionOf client.cluster (some guest) false).isProtected ||
          (server.overrideFor (protectionOf client.cluster (some guest) false) client.name owner now
            restoreNewVmidOp principal).applies) = false := by
        rw [hprotected, huncovered.not_applies]
        rfl
      have hanswer {after : History Effect} {error : ToolResult} (hsuffix : seen <:+ after) :
          (.error error : Except ToolResult Unit) = .ok () ↔
            FoundGone client.name owner h after ∧ grant.allowsNewVmid owner :=
        iff_of_false (by simp) fun hpasses => not_foundGone_of_answered hanswered hsuffix hpasses.1
      refine always_run_bind.mpr (always_run_ensure.mpr ⟨fun _ => ⟨trivial, fun now => ?_⟩,
        fun _ => hanswer List.suffix_rfl⟩)
      refine always_run_ensure.mpr ⟨fun hallowed => ?_, fun _ => hanswer (List.suffix_cons _ _)⟩
      rw [hrefused now] at hallowed
      cases hallowed
    | error error =>
      cases error with
      | notFound what =>
        have hfound : FoundGone client.name owner h seen := hgone.mp ⟨what, rfl⟩
        refine always_run_ensure.mpr ⟨fun hscope => ?_, fun hscope => ?_⟩
        · exact iff_of_true rfl ⟨hfound, hscope⟩
        · exact iff_of_false (by simp) fun hpasses => by simp [hpasses.2] at hscope
      | _ => exact iff_of_false (by simp) fun hpasses => by simpa using hgone.mpr hpasses.1
  · rintro after error ⟨_, heq, -⟩
    cases heq

end Rules

/-- **Pinned archives.** A plan, an approval and an apply of a restore keep the pin on the owner of
the archive unless they have found the owner gone and the caller's grant admits its number; and for
a pinned owner that nothing covers, the check passes in a run exactly when its lookup was answered
without the owner and the grant admits the number. -/
theorem keepsPins_unless_gone (server : ProxmoxServer) :
    KeepsPins goneInScope server ∧
    ∀ (client : ProxmoxClient) (grant : ProxmoxGrant) owner volid principal h,
      owner ∈ client.cluster.protectedVmids → Uncovered server client.name owner principal →
        Always (fun _ _ => True) (fun after outcome => outcome = .ok () ↔
          FoundGone client.name owner h after ∧ grant.allowsNewVmid owner) h
          (server.authorizeBackupOwner client client.name owner grant volid principal).run := by
  have hempty : Unsent [] := by simp [Unsent]
  exact ⟨⟨fun _ => ensures_planRestoreNewVmid_keepsPin,
      fun _ => ensures_approveChangeSet_keepsPin,
      fun _ args => ensures_applyRestoreNewVmid_keepsPin args hempty⟩,
    fun _ _ _ _ _ _ hpinned huncovered => always_authorizeBackupOwner_iff hpinned huncovered⟩

/-! ### A restore from the archive of a destroyed pinned guest -/

section Gone

/-- A server of one cluster that pins guest 900, without waivers or lab mode. -/
def pinningServer : ProxmoxServer :=
  ⟨[⟨"pve", ⟨"https://pve:8006", [900], []⟩⟩], [], false, false, .ok ()⟩

/-- A caller with every tool and guest in its scope that may destroy. -/
def destructiveCaller : CallerCtx where
  tokenName := "planner"
  requestId := "req-1"
  actorType := .agent
  tools := .wildcard
  devices := .wildcard
  grant := some ⟨["*"], [.destructive]⟩

/-- Copy the archive of guest 900 into the free number 901. -/
def copyArchive : PlanRestoreNewVmidArgs :=
  ⟨"pve", "pve1", 901, "lxc", "local:backup/vzdump-lxc-900.tar.zst"⟩

/-- An answer with a `data` member. -/
def answerOf (data : Json) : Except HttpError HttpResponse :=
  .ok ⟨200, "", .ok (.object [("data", data)])⟩

/-- The listing of the archive, which is guest 900's. -/
def archiveListing : Json :=
  .array [.object [("volid", .string copyArchive.volid), ("vmid", .unsigned 900)]]

/-- A lookup that is answered by a listing without guests. -/
def absentLookup (vmid : UInt32) (ticket : ℕ) : List (Event Effect) :=
  [⟨.index (.lookupFresh "pve" vmid), none⟩, ⟨.index .loadGeneration, (0 : UInt64)⟩,
    ⟨.http (.dispatch "pve" listingRequest), ticket⟩,
    ⟨.http (.await ticket), answerOf (.array [])⟩,
    ⟨.index (.storeIfCurrent "pve" 0 .empty), ()⟩]

/-- What the plan sees: the archive is guest 900's, and there are no guests. -/
def copyEvents : List (Event Effect) :=
  [⟨.http (.dispatch "pve" (Guests.backupListingRequest "pve1" "local")), (0 : ℕ)⟩,
    ⟨.http (.await 0), answerOf archiveListing⟩] ++ absentLookup 900 1 ++
    [⟨.index .bumpGeneration, ()⟩, ⟨.index (.removeSnapshot "pve"), ()⟩] ++ absentLookup 901 2

/-- The action the plan records. -/
def copyAction : RestoreNewVmidAction := ⟨"pve", "pve1", 901, "lxc", copyArchive.volid, 900⟩

omit [Externals] in
/-- The plan is created. -/
private theorem planRestoreNewVmid_reaches_create : ∃ next,
    Reaches (@planRestoreNewVmid Externals.plain pinningServer (some destructiveCaller)
        copyArchive).run copyEvents
      (.perform (.coordinator (.createChangeSet "pve/901" [copyAction.toJson] "planner"
        (@restoreTargetFingerprint Externals.plain "pve" 901) policySignature)) next) := by
  apply Exists.intro
  iterate 14 refine Reaches.step _ _ _ ?_
  exact Reaches.refl _

omit [Externals] in
/-- The plan copies the archive of a pinned guest that nothing covers. -/
theorem not_keepsPins_pinningServer :
    ¬ @KeepsPins Externals.plain (fun _ _ _ _ => False) pinningServer := by
  let _ : Externals := Externals.plain
  intro hkept
  obtain ⟨next, hreaches⟩ := planRestoreNewVmid_reaches_create
  have hplan := hkept.plan (some destructiveCaller) copyArchive
  obtain ⟨client, action, hclient, hactions, -, hpin⟩ :=
    Always.allows_of_reaches hplan hreaches _ _ _ _ _ rfl
  obtain rfl : copyAction = action := by
    have hread := congrArg RestoreNewVmidAction.fromJson (List.cons.inj hactions).1
    simpa [RestoreNewVmidAction.fromJson_toJson] using hread
  obtain rfl : _ = client := Option.some.inj hclient
  rcases hpin (by decide) with ⟨now, -, ⟨entry, hentry, -⟩ | hlab⟩ | hfalse
  · exact absurd hentry (by simp [pinningServer])
  · exact absurd hlab (by decide)
  · exact hfalse

end Gone

end ProxmoxMcp
