import Mathlib
import ProxmoxMcp.Effect

/-!
# Fingerprints

A change set records the fingerprint of what it was planned against, and an apply recomputes it.
Each kind is the SHA-256 of a JSON array of what it covers.
-/

namespace ProxmoxMcp

variable [Externals]

/-- A guest's state as its fingerprint covers it. -/
structure GuestState where
  cluster : String
  vmid : UInt32
  name : String
  kind : String
  node : String
  status : String
  tags : List String
  configDigest : String
  disks : List (String × UInt64)
  deriving DecidableEq

/-- Disks in the order of their names, and of their sizes under one name. -/
def diskLe (a b : String × UInt64) : Prop := a.1 < b.1 ∨ a.1 = b.1 ∧ a.2 ≤ b.2

instance : DecidableRel diskLe := fun _ _ => inferInstanceAs (Decidable (_ ∨ _ ∧ _))

/-- The digest of a JSON value. -/
def fingerprintOf (value : Json) : String :=
  s!"sha256:{Externals.sha256Hex (Externals.encodeJson value)}"

/-- The fingerprint of a guest; the order of its tags and disks does not count. -/
def fingerprint (state : GuestState) : String :=
  fingerprintOf <| .array [.string state.cluster, .unsigned state.vmid.toUInt64,
    .string state.name, .string state.kind, .string state.node, .string state.status,
    .array ((state.tags.insertionSort (· ≤ ·)).map .string), .string state.configDigest,
    .array ((state.disks.insertionSort diskLe).map fun disk =>
      .array [.string disk.1, .unsigned disk.2])]

/-- The fingerprint of an HA rule, or of its absence. -/
def haRuleFingerprint (cluster rule : String) (existing : Option Json) : String :=
  fingerprintOf (.array [.string cluster, .string rule, existing.getD .null])

/-- The fingerprint of a vmid that a restore will fill. -/
def restoreTargetFingerprint (cluster : String) (vmid : UInt32) : String :=
  fingerprintOf
    (.array [.string cluster, .unsigned vmid.toUInt64, .string "vacant-restore-target"])

end ProxmoxMcp
