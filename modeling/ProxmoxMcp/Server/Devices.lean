import ProxmoxMcp.Core.PathExpansion
import ProxmoxMcp.Server.HaRule
import ProxmoxMcp.Server.Recover
import ProxmoxMcp.Server.RestoreNewVmid

/-!
# The devices of change sets

A change set is recorded under a **device**: the cluster, a slash, and the vmid or the HA rule it is
about. What stands behind the last slash is a number or an accepted rule id, so it holds no slash
and the device determines both parts.

Recovery reads the cluster off a device by cutting it at the **first** slash. That is the cluster
the change was planned on exactly when the cluster's name holds no slash.
-/

namespace ProxmoxMcp

open Interaction Text ProxmoxServer
open Program hiding bind

/-- What a change set is about. -/
inductive Target where
  | guest (vmid : UInt32)
  | haRule (rule : String)
  deriving DecidableEq

namespace Target

/-- What stands behind the cluster in the device of a target. -/
def key : Target → String
  | guest vmid => toString vmid
  | haRule rule => "ha-rule:" ++ rule

/-- The device of a target on a cluster. -/
def device (cluster : String) (target : Target) : String := cluster ++ "/" ++ target.key

theorem device_guest (cluster : String) (vmid : UInt32) :
    (guest vmid).device cluster = s!"{cluster}/{vmid}" := rfl

theorem device_haRule (cluster rule : String) :
    (haRule rule).device cluster = haRuleDevice cluster rule := by
  rw [← String.toList_inj]
  simp [device, key, haRuleDevice, toString]

/-- A rule is accepted when its id is one segment of a path. -/
def Accepted [Externals] : Target → Prop
  | guest _ => True
  | haRule rule => Guests.validatePathSegment rule "rule" = .ok ()

/-! ### Devices determine their parts -/

/-- The digits of a vmid. -/
private theorem key_guest_toList (vmid : UInt32) :
    (guest vmid).key.toList = Nat.toDigits 10 vmid.toNat := by
  simp [key, toString, Nat.repr]

theorem isDigit_of_mem_key {vmid : UInt32} {c : Char} (hc : c ∈ (guest vmid).key.toList) :
    c.isDigit := by
  rw [key_guest_toList] at hc
  exact Nat.isDigit_of_mem_toDigits (by omega) (by omega) hc

/-- The key of an accepted target holds no slash. -/
private theorem notMem_key [Externals] (apart : KeepsSegmentsApart) {target : Target}
    (h : target.Accepted) :
    '/' ∉ target.key.toList := by
  intro hmem
  cases target with
  | guest vmid => exact absurd (isDigit_of_mem_key hmem) (by decide)
  | haRule rule =>
    have hrule : '/' ∉ rule.toList := apart rule (validatePathSegment_eq_ok_iff.mp h)
    simp [key, hrule] at hmem

/-- Keys of different targets are different. -/
theorem key_injective {target other : Target} (h : target.key = other.key) : target = other := by
  have hclash (vmid : UInt32) (rule : String) : (guest vmid).key ≠ (haRule rule).key := by
    intro heq
    have hfirst : 'h' ∈ (guest vmid).key.toList := by
      rw [heq]
      simp [key]
    exact absurd (isDigit_of_mem_key hfirst) (by decide)
  cases target with
  | guest vmid =>
    cases other with
    | guest vmid' =>
      have hdigits : Nat.toDigits 10 vmid.toNat = Nat.toDigits 10 vmid'.toNat := by
        rw [← key_guest_toList, ← key_guest_toList, h]
      have hnat : vmid.toNat = vmid'.toNat := by
        rw [← Nat.ofDigitChars_ten_toDigits (n := vmid.toNat), hdigits,
          Nat.ofDigitChars_ten_toDigits]
      rw [UInt32.toNat_inj.mp hnat]
    | haRule rule => exact absurd h (hclash vmid rule)
  | haRule rule =>
    cases other with
    | guest vmid => exact absurd h.symm (hclash vmid rule)
    | haRule rule' =>
      have hrule : rule = rule' := by simpa [key] using h
      rw [hrule]

/-- **Devices are injective**: the cluster and the target can be read off behind the last slash. -/
theorem device_injective [Externals] (apart : KeepsSegmentsApart) {cluster other : String}
    {target target' : Target} (h : target.Accepted) (h' : target'.Accepted)
    (hdevice : target.device cluster = target'.device other) :
    cluster = other ∧ target = target' := by
  have htext : cluster.toList ++ '/' :: target.key.toList
      = other.toList ++ '/' :: target'.key.toList := by
    simpa [device] using congrArg String.toList hdevice
  obtain ⟨hcluster, hkey⟩ :=
    append_cons_inj_of_notMem (notMem_key apart h) (notMem_key apart h') htext
  exact ⟨String.toList_inj.mp hcluster, key_injective (String.toList_inj.mp hkey)⟩

end Target

/-! ### The devices plans record under -/

section Plans

variable [Externals] {server : ProxmoxServer} {caller : Option CallerCtx} {h : History Effect}

/-- The change sets an operation creates are about the target on the cluster, which is
configured. -/
def PlansUnder (server : ProxmoxServer) (cluster : String) (target : Target) (op : Op) : Prop :=
  ∀ device actions owner fingerprint policy,
    op = .coordinator (.createChangeSet device actions owner fingerprint policy) →
      device = target.device cluster ∧ target.Accepted ∧
        ∃ client, server.clientNamed cluster = some client

private theorem plansUnder_of_quiet {lookups : LookupRule} {cluster : String} {target : Target}
    {op : Op} (hop : Quiet lookups h op) : PlansUnder server cluster target op := by
  rintro device actions owner fingerprint policy rfl
  exact hop.elim

private theorem plansUnder_of_reads {cluster : String} {target : Target} {op : Op}
    (hop : op.Reads) :
    PlansUnder server cluster target op := by
  rintro device actions owner fingerprint policy rfl
  exact hop.elim

/-- A plan of a handler is for a configured cluster. -/
private theorem clientNamed_name_of_clientFor {cluster : String} {client : ProxmoxClient}
    (hclient : server.clientFor cluster = .ok client) :
    server.clientNamed client.name = some client := by
  rw [name_of_clientFor hclient]
  exact clientNamed_of_clientFor hclient

/-- Recording a plan creates one change set, under the device it is given. -/
private theorem ensures_recordPlan_plansUnder {device owner fingerprint preview : String}
    {target : Target} {action : Json} {client : ProxmoxClient}
    (hclient : server.clientNamed client.name = some client)
    (hdevice : device = target.device client.name) (haccepted : target.Accepted) :
    Ensures (fun _ => PlansUnder server client.name target) (fun _ _ => True) h
      (recordPlan device action owner fingerprint preview) := by
  refine Ensures.request ?_ fun _ => Ensures.liftExcept fun _ _ => Ensures.request ?_ fun _ =>
    Ensures.required fun _ _ => Ensures.request ?_ fun _ => Ensures.liftExcept fun _ _ =>
    ensures_pure.mpr trivial
  · rintro _ _ _ _ _ ⟨⟩
    exact ⟨hdevice, haccepted, client, hclient⟩
  · rintro _ _ _ _ _ ⟨⟩
  · rintro _ _ _ _ _ ⟨⟩

private theorem ensures_planDestroy_plansUnder (args : PlanDestroyArgs) :
    Ensures (fun _ => PlansUnder server args.cluster (.guest args.vmid)) (fun _ _ => True) h
      (server.planDestroy caller args) := by
  refine Ensures.liftExcept fun _ _ => Ensures.liftExcept fun client hclient =>
    Ensures.liftExcept fun grant _ => ?_
  rw [← name_of_clientFor hclient]
  refine Ensures.bind (@ensures_invalidateCluster _ _ (fun _ _ _ => True) client.name h)
    (fun _ _ hop => plansUnder_of_quiet hop) fun h₁ _ _ _ => ?_
  have hverdict {h : History Effect} := @ensures_authorizeWithOverride server _ (fun _ _ _ => True)
    client args.vmid grant (.ok args.op) (principalOf caller) .destructive h False False
    (fun _ _ => trivial) False.elim False.elim fun _ => rfl
  refine Ensures.bind hverdict (fun _ _ hop => plansUnder_of_quiet hop) fun h₂ verdict _ _ =>
    Ensures.liftExcept fun action _ => ?_
  refine Ensures.bind (ensures_checkPlannedOwner _ _ _ _) (fun _ _ hop => plansUnder_of_reads hop)
    fun h₃ _ _ _ => ?_
  refine Ensures.bind (ensures_checkPlannable _ _ _ _) (fun _ _ hop => plansUnder_of_reads hop)
    fun h₄ _ _ _ => Ensures.required fun tool _ => Ensures.liftExcept fun _ _ =>
    Ensures.liftExcept fun _ _ => ?_
  refine Ensures.bind ensures_readGuestState (fun _ _ hop => plansUnder_of_reads hop)
    fun h₅ state _ _ => ?_
  refine Ensures.bind (ensures_recordPlan_plansUnder (clientNamed_name_of_clientFor hclient)
    (Target.device_guest client.name args.vmid).symm trivial) (fun _ _ hop => hop)
    fun h₆ output _ _ => ?_
  -- a waiver is no creation
  refine Ensures.bind (R := fun _ _ => True) ?_ (fun _ _ hop => hop)
    fun _ _ _ _ => ensures_pure.mpr trivial
  cases verdict.override with
  | labMode =>
    refine Ensures.request ?_ fun _ => ensures_liftExcept.mpr fun _ _ => trivial
    rintro _ _ _ _ _ ⟨⟩
  | _ => exact ensures_pure.mpr trivial

/-- A built HA rule action is about an accepted rule. -/
private theorem accepted_of_buildHaRuleAction {args : PlanHaRuleArgs} {action : HaRuleAction}
    (hbuilt : buildHaRuleAction args = .ok action) : (Target.haRule args.rule).Accepted := by
  rw [Target.Accepted]
  rw [buildHaRuleAction] at hbuilt
  cases hsegment : Guests.validatePathSegment args.rule "rule" with
  | ok _ => rfl
  | error error => simp [hsegment, Except.mapError, bind, Except.bind] at hbuilt

private theorem ensures_planHaRuleChange_plansUnder (args : PlanHaRuleArgs) :
    Ensures (fun _ => PlansUnder server args.cluster (.haRule args.rule)) (fun _ _ => True) h
      (server.planHaRuleChange caller args) := by
  refine Ensures.liftExcept fun _ _ => Ensures.liftExcept fun client hclient =>
    Ensures.liftExcept fun action haction => Ensures.required fun tool _ =>
    Ensures.liftExcept fun _ _ => Ensures.liftExcept fun _ _ => ?_
  rw [← name_of_clientFor hclient]
  refine Ensures.bind ensures_readCurrentRule (fun _ _ hop => plansUnder_of_reads hop)
    fun h₁ existing _ _ => Ensures.liftExcept fun _ _ => ?_
  refine Ensures.bind ensures_authorizeHaRuleGuests (fun _ _ hop => plansUnder_of_quiet hop)
    fun h₂ _ _ _ => ?_
  exact Ensures.bind (ensures_recordPlan_plansUnder (clientNamed_name_of_clientFor hclient)
    (Target.device_haRule client.name args.rule).symm
    (accepted_of_buildHaRuleAction (eq_ok_of_mapError haction))) (fun _ _ hop => hop)
    fun _ _ _ _ => ensures_pure.mpr trivial

private theorem ensures_planRestoreNewVmid_plansUnder (args : PlanRestoreNewVmidArgs) :
    Ensures (fun _ => PlansUnder server args.cluster (.guest args.targetVmid)) (fun _ _ => True) h
      (server.planRestoreNewVmid caller args) := by
  refine Ensures.liftExcept fun _ _ => Ensures.liftExcept fun _ _ =>
    Ensures.liftExcept fun client hclient => Ensures.liftExcept fun grant _ =>
    Ensures.ensure fun _ => Ensures.liftExcept fun _ _ => ?_
  rw [← name_of_clientFor hclient]
  refine Ensures.bind (ensures_mapError.mpr ensures_resolveBackupOwner)
    (fun _ _ hop => plansUnder_of_reads hop) fun h₁ owner _ _ => ?_
  refine Ensures.bind ensures_authorizeBackupOwner (fun _ _ hop => plansUnder_of_quiet hop)
    fun h₂ _ _ _ => Ensures.liftExcept fun action haction => ?_
  have htarget : action.targetVmid = args.targetVmid :=
    congrArg _ (eq_of_buildRestoreNewVmidAction (eq_ok_of_mapError haction))
  refine Ensures.bind ensures_requireRestoreTarget (fun _ _ hop => hop) fun h₃ _ _ _ => ?_
  refine Ensures.bind ensures_requireFree (fun _ _ hop => plansUnder_of_quiet hop)
    fun h₄ _ _ _ => ?_
  rw [← htarget]
  exact Ensures.bind (ensures_recordPlan_plansUnder (clientNamed_name_of_clientFor hclient)
    (Target.device_guest client.name action.targetVmid).symm trivial)
    (fun _ _ hop => hop) fun _ _ _ _ => ensures_pure.mpr trivial

end Plans

/-! ### The cluster recovery asks -/

section Recovery

variable [Externals] {server : ProxmoxServer} {cluster : String} {h : History Effect}

/-- Requests go to one cluster only. -/
def AsksOnly (cluster : String) (op : Op) : Prop :=
  ∀ name request, op = .http (.dispatch name request) → name = cluster

/-- Recovery asks the cluster before the first slash of the device, if it asks at all. -/
private theorem ensures_recoverRecord_asksOnly {record : ChangeSet} {rest : String}
    (hcut : splitOnce record.device '/' = some (cluster, rest)) :
    Ensures (fun _ => AsksOnly cluster) (fun _ _ => True) h (server.recoverRecord record) := by
  refine ensures_recoverRecord_of_sends (fun client upid taskId hflight _ => ?_) fun _ op hop => ?_
  · obtain ⟨-, -, -, rest', hdevice⟩ := inFlight_eq_some hflight
    obtain ⟨hname, -⟩ : cluster = client.name ∧ rest = rest' := by simpa [hcut] using hdevice
    rintro _ _ ⟨⟩
    exact hname.symm
  · exact fun name request heq => absurd heq (hop name request)

omit [Externals] in
/-- The device of a target is cut behind the cluster exactly when the cluster holds no slash. -/
private theorem splitOnce_device {target : Target} :
    (splitOnce (target.device cluster) '/').map Prod.fst = some cluster ↔
      '/' ∉ cluster.toList := by
  constructor
  · intro hcut
    obtain ⟨⟨first, rest⟩, hsplit, rfl⟩ := Option.map_eq_some_iff.mp hcut
    exact (splitOnce_eq_some_iff.mp hsplit).1
  · intro hslash
    have hsplit : splitOnce (target.device cluster) '/' = some (cluster, target.key) := by
      rw [splitOnce_eq_some_iff]
      exact ⟨hslash, by simp [Target.device]⟩
    rw [hsplit, Option.map_some]

omit [Externals] in
/-- A device is cut behind the cluster, or behind the part of its name before the first slash. -/
theorem eq_or_splitOnce_of_device {target : Target} {first rest : String}
    (hcut : splitOnce (target.device cluster) '/' = some (first, rest)) :
    first = cluster ∨ ∃ rest', splitOnce cluster '/' = some (first, rest') := by
  cases hcluster : splitOnce cluster '/' with
  | none =>
    have hwhole : (splitOnce (target.device cluster) '/').map Prod.fst = some cluster :=
      splitOnce_device.mpr (splitOnce_eq_none_iff.mp hcluster)
    rw [hcut, Option.map_some] at hwhole
    exact .inl (Option.some.inj hwhole)
  | some parts =>
    obtain ⟨first', rest'⟩ := parts
    obtain ⟨hslash, hparts⟩ := splitOnce_eq_some_iff.mp hcluster
    have hsplit : splitOnce (target.device cluster) '/' =
        some (first', rest' ++ "/" ++ target.key) := by
      rw [splitOnce_eq_some_iff]
      exact ⟨hslash, by simp [Target.device, hparts]⟩
    obtain ⟨rfl, -⟩ := Prod.mk.inj (Option.some.inj (hcut.symm.trans hsplit))
    exact .inr ⟨rest', rfl⟩

end Recovery

/-! ### Faithful keys -/

/-- What the keys of change sets are for: every plan records under the device of its target, the
device determines the cluster and the target, and recovery reads the cluster off it. -/
structure FaithfulKeys [Externals] (server : ProxmoxServer) : Prop where
  destroy : ∀ caller (args : PlanDestroyArgs) h,
    Ensures (fun _ => PlansUnder server args.cluster (.guest args.vmid)) (fun _ _ => True) h
      (server.planDestroy caller args)
  haRule : ∀ caller (args : PlanHaRuleArgs) h,
    Ensures (fun _ => PlansUnder server args.cluster (.haRule args.rule)) (fun _ _ => True) h
      (server.planHaRuleChange caller args)
  restoreNewVmid : ∀ caller (args : PlanRestoreNewVmidArgs) h,
    Ensures (fun _ => PlansUnder server args.cluster (.guest args.targetVmid)) (fun _ _ => True) h
      (server.planRestoreNewVmid caller args)
  injective : ∀ (cluster other : String) (target target' : Target), target.Accepted →
    target'.Accepted → target.device cluster = target'.device other →
      cluster = other ∧ target = target'
  recovered : ∀ (client : ProxmoxClient) (target : Target) (record : ChangeSet),
    client ∈ server.clients → target.Accepted → record.device = target.device client.name →
      (splitOnce record.device '/').map Prod.fst = some client.name ∧
        ∀ h, Ensures (fun _ => AsksOnly client.name) (fun _ _ => True) h
          (server.recoverRecord record)

/-- **The keys are faithful** exactly on the inventories none of whose cluster names holds a
slash. -/
theorem faithfulKeys_iff [Externals] (apart : KeepsSegmentsApart) (server : ProxmoxServer) :
    FaithfulKeys server ↔ ∀ client ∈ server.clients, '/' ∉ client.name.toList := by
  constructor
  · intro hfaithful client hclient
    have hcut := (hfaithful.recovered client (.guest 0)
      ⟨"", (Target.guest 0).device client.name, [], "", "", "", "", .planned, none, none⟩
      hclient trivial rfl).1
    exact splitOnce_device.mp hcut
  · intro hslash
    refine ⟨fun _ args _ => ensures_planDestroy_plansUnder args,
      fun _ args _ => ensures_planHaRuleChange_plansUnder args,
      fun _ args _ => ensures_planRestoreNewVmid_plansUnder args,
      fun _ _ _ _ => Target.device_injective apart,
      fun client target record hclient _ hdevice => ?_⟩
    have hcut : (splitOnce record.device '/').map Prod.fst = some client.name := by
      rw [hdevice]
      exact splitOnce_device.mpr (hslash client hclient)
    obtain ⟨⟨first, rest⟩, hsplit, rfl⟩ := Option.map_eq_some_iff.mp hcut
    exact ⟨hcut, fun h => ensures_recoverRecord_asksOnly hsplit⟩

/-- A server of two clusters, the name of one of which begins with that of the other. -/
def twoClusterServer : ProxmoxServer :=
  ⟨[⟨"prod", ⟨"https://pve1:8006", [], []⟩⟩, ⟨"prod/eu", ⟨"https://pve2:8006", [], []⟩⟩], [],
    false, false, .ok ()⟩

/-- A record of the second cluster that was left applying. -/
def applyingRecord : ChangeSet where
  id := "cs-1"
  device := (Target.guest 100).device "prod/eu"
  actions := []
  owner := "planner"
  expectedCandidateFingerprint := ""
  policySignature := policySignature
  digest := ""
  state := .applying
  preview := none
  taskId := some "UPID:pve1:0001:0002:0003:qmdestroy:100:root@pam:"

/-- Recovery asks the first cluster about the task of a record of the second. -/
private theorem recoverRecord_asks_prod : ∃ next,
    (@recoverRecord twoClusterServer Externals.guarded applyingRecord).run =
      .perform (.http (.dispatch "prod" (statusRequest "pve1"
        "UPID:pve1:0001:0002:0003:qmdestroy:100:root@pam:"))) next := ⟨_, rfl⟩

/-- The keys of these two clusters are not faithful. -/
theorem not_faithfulKeys_twoClusterServer :
    ¬ @FaithfulKeys Externals.guarded twoClusterServer := by
  let _ : Externals := Externals.guarded
  intro hfaithful
  have hsafe := (hfaithful.recovered ⟨"prod/eu", ⟨"https://pve2:8006", [], []⟩⟩ (.guest 100)
    applyingRecord (by simp [twoClusterServer]) trivial rfl).2 []
  obtain ⟨next, hrun⟩ := recoverRecord_asks_prod
  rw [Ensures, hrun] at hsafe
  exact absurd (hsafe.1 _ _ rfl) (by decide)

/-- The keys of a server of one cluster with a plain name are. -/
theorem faithfulKeys_oneCluster :
    @FaithfulKeys Externals.guarded ⟨[⟨"pve", ⟨"https://pve:8006", [], []⟩⟩], [], false, false,
      .ok ()⟩ :=
  (@faithfulKeys_iff Externals.guarded keepsSegmentsApart_guarded _).mpr (by simp)

end ProxmoxMcp
