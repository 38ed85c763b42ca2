import ProxmoxMcp.Core.Tier

/-!
# Protection, waivers and overrides

A guest is **protected** when it carries a protective tag or its vmid is pinned in the cluster's
configuration, and also when the cluster could not be read or does not report it. A destructive
operation on a protected guest needs an **override**: an unexpired waiver that names the cluster,
the guest, the operation and (if it names one) the calling principal, or lab mode.
-/

namespace ProxmoxMcp

/-- What the program reads of a cluster's configuration. -/
structure Cluster where
  /-- Base URL of the API. -/
  endpoint : String
  /-- Vmids that are protected whatever their tags say. -/
  protectedVmids : List UInt32
  /-- Tags that mark a guest as protected. -/
  protectedTags : List String
  deriving DecidableEq

/-- A guest as the cluster currently reports it. -/
structure ResolvedGuest where
  /-- Inventory name of the cluster this guest lives in. -/
  cluster : String
  vmid : UInt32
  name : String
  type : GuestType
  /-- Node the guest is on right now. -/
  node : String
  /-- Runtime status, such as `running` or `stopped`. -/
  status : String
  tags : List String
  pool : Option String
  deriving DecidableEq

/-- The facts a selector needs. -/
def ResolvedGuest.facts (guest : ResolvedGuest) : GuestFacts :=
  ⟨guest.vmid, guest.type, guest.node, guest.pool, guest.tags⟩

/-! ### Protection -/

/-- Why a guest is protected. -/
inductive ProtectionReason where
  | liveTag (tag : String)
  | inventoryPin
  | resolutionFailed
  | unknownGuest
  deriving DecidableEq

/-- The protection verdict for one guest: every applicable reason, in a stable order. The guest
is unprotected when there is none. -/
structure Protection where
  reasons : List ProtectionReason
  deriving DecidableEq

namespace Protection

/-- Whether any protective signal applies. -/
def isProtected (protection : Protection) : Bool := !protection.reasons.isEmpty

/-- One reason as a refusal names it. -/
def reasonText : ProtectionReason → String
  | .liveTag tag => s!"tag:{tag}"
  | .inventoryPin => "inventory-pin"
  | .resolutionFailed => "resolution-failed"
  | .unknownGuest => "unknown-guest"

/-- A one-line rendering for refusals and previews. -/
def summary (protection : Protection) : String :=
  if protection.isProtected then ",".intercalate (protection.reasons.map reasonText)
  else "unprotected"

end Protection

/-- Resolve protection for one guest; `none` when the cluster does not report it. -/
def protectionOf (cluster : Cluster) (guest : Option ResolvedGuest) (resolutionFailed : Bool) :
    Protection :=
  ⟨(if resolutionFailed then [.resolutionFailed] else []) ++
    match guest with
    | none => if resolutionFailed then [] else [.unknownGuest]
    | some guest =>
      (guest.tags.filter cluster.protectedTags.contains).map .liveTag ++
        if cluster.protectedVmids.contains guest.vmid then [.inventoryPin] else []⟩

/-- A reported guest is protected by pin or by tag. -/
theorem isProtected_protectionOf_some {cluster : Cluster} {guest : ResolvedGuest} :
    (protectionOf cluster (some guest) false).isProtected ↔
      guest.vmid ∈ cluster.protectedVmids ∨ ∃ tag ∈ guest.tags, tag ∈ cluster.protectedTags := by
  by_cases hpin : guest.vmid ∈ cluster.protectedVmids
  · simp [Protection.isProtected, protectionOf, hpin]
  · simp [Protection.isProtected, protectionOf, hpin]

/-- Whether a pin allows a new guest with this vmid. -/
def creationAllowed (cluster : Cluster) (vmid : UInt32) : Bool :=
  !cluster.protectedVmids.contains vmid

/-! ### Waivers -/

/-- One entry of the waiver file. -/
structure WaiverEntry where
  cluster : String
  vmid : UInt32
  /-- The unix time at which the waiver expires. -/
  untilUnix : UInt64
  reason : String
  ticket : Option String
  /-- The operations the waiver covers. -/
  ops : List String
  /-- The single token name the waiver is restricted to, if any. -/
  principal : Option String
  deriving DecidableEq

/-- The operation being attempted and, when known, the calling token. -/
structure DestructiveAttempt where
  op : String
  principal : Option String

/-- Whether an unexpired entry covers an attempt. -/
def WaiverEntry.covers (entry : WaiverEntry) (cluster : String) (vmid : UInt32) (nowUnix : UInt64)
    (attempt : DestructiveAttempt) : Bool :=
  entry.cluster == cluster && entry.vmid == vmid && nowUnix < entry.untilUnix &&
    entry.ops.contains attempt.op &&
    match entry.principal with
    | none => true
    | some bound => attempt.principal == some bound

/-- The first entry that covers an attempt. -/
def matchingWaiver (waivers : List WaiverEntry) (cluster : String) (vmid : UInt32)
    (nowUnix : UInt64) (attempt : DestructiveAttempt) : Option WaiverEntry :=
  waivers.find? fun entry => entry.covers cluster vmid nowUnix attempt

/-- Override allowing a destructive operation to proceed on a protected guest. -/
inductive Override where
  | none
  | waiver (reason : String) (ticket : Option String) (untilUnix : UInt64)
  | labMode
  deriving DecidableEq

/-- Whether there is an override. -/
def Override.applies : Override → Bool
  | none => false
  | _ => true

/-- What override, if any, allows a destructive operation: a matching waiver before lab mode. -/
def destructiveAllowed (protection : Protection) (waivers : List WaiverEntry) (cluster : String)
    (vmid : UInt32) (nowUnix : UInt64) (labMode : Bool) (attempt : DestructiveAttempt) : Override :=
  if !protection.isProtected then .none
  else match matchingWaiver waivers cluster vmid nowUnix attempt with
    | some entry => .waiver entry.reason entry.ticket entry.untilUnix
    | none => if labMode then .labMode else .none

/-- **What an override rests on**: a waiver that covers the attempt, or lab mode. -/
theorem exists_waiver_or_labMode_of_applies {protection : Protection} {waivers : List WaiverEntry}
    {cluster : String} {vmid : UInt32} {nowUnix : UInt64} {labMode : Bool}
    {attempt : DestructiveAttempt}
    (h : (destructiveAllowed protection waivers cluster vmid nowUnix labMode attempt).applies) :
    (∃ entry ∈ waivers, entry.covers cluster vmid nowUnix attempt) ∨ labMode := by
  rw [destructiveAllowed] at h
  split at h
  · simp [Override.applies] at h
  · split at h
    next entry hentry =>
      rw [matchingWaiver] at hentry
      have hcovers := @List.find?_some _ _ entry waivers hentry
      exact Or.inl ⟨entry, List.mem_of_find?_eq_some hentry, hcovers⟩
    next =>
      by_cases hlab : labMode
      · exact Or.inr hlab
      · simp [hlab, Override.applies] at h

/-- Lab mode overrides only where it is on. -/
theorem labMode_of_destructiveAllowed {protection : Protection} {waivers : List WaiverEntry}
    {cluster : String} {vmid : UInt32} {nowUnix : UInt64} {labMode : Bool}
    {attempt : DestructiveAttempt}
    (h : destructiveAllowed protection waivers cluster vmid nowUnix labMode attempt = .labMode) :
    labMode := by
  rw [destructiveAllowed] at h
  split at h
  · cases h
  · split at h
    · cases h
    · split_ifs at h with hlab
      exact hlab

end ProxmoxMcp
