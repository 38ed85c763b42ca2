import Mathlib
import ProxmoxMcp.Server.LowTier

/-!
# The spelling of creation keys

The create guard compares keys without regard to case, but two of its value rules look their key up
as it is written in lower case, and so does the default a container gets. `CaseSafe` says what
should hold of an accepted config however its keys are spelled, down to the form that is sent.

It holds exactly when the spelling does not matter (`SpellingBlind`): the config with all keys in
lower case is a config, and the guard accepts it too.
-/

namespace ProxmoxMcp

open Text

/-! ### Configs in lower case -/

/-- No key has two values, whatever its spelling. -/
def OneValue (pairs : List (String × String)) : Prop :=
  ∀ pair ∈ pairs, ∀ pair' ∈ pairs, toAsciiLowercase pair.1 = toAsciiLowercase pair'.1 →
    pair.2 = pair'.2

/-- The config with its keys in lower case. -/
def Lowers (config lowered : ConfigMap) : Prop :=
  ∀ entry, entry ∈ lowered.entries ↔
    ∃ entry' ∈ config.entries, entry = (toAsciiLowercase entry'.1, entry'.2)

/-- Pairs in which no key has two values are the entries of a config. -/
private theorem exists_configMap {pairs : List (String × String)}
    (hfun : ∀ pair ∈ pairs, ∀ pair' ∈ pairs, pair.1 = pair'.1 → pair.2 = pair'.2) :
    ∃ config : ConfigMap, ∀ entry, entry ∈ config.entries ↔ entry ∈ pairs := by
  let byKey (pair pair' : String × String) : Prop := pair.1 ≤ pair'.1
  have htotal : Std.Total byKey := ⟨fun pair pair' => String.le_total pair.1 pair'.1⟩
  have htrans : IsTrans _ byKey := ⟨fun _ _ _ h h' => String.le_trans h h'⟩
  have hmem (entry : String × String) :
      entry ∈ pairs.dedup.insertionSort byKey ↔ entry ∈ pairs := by
    rw [List.mem_insertionSort, List.mem_dedup]
  have hnodup : (pairs.dedup.insertionSort byKey).Nodup :=
    (List.perm_insertionSort byKey _).nodup_iff.mpr (List.nodup_dedup _)
  refine ⟨⟨pairs.dedup.insertionSort byKey, List.pairwise_map.mpr ?_⟩, hmem⟩
  refine ((List.pairwise_insertionSort byKey _).and hnodup).imp_of_mem ?_
  rintro pair pair' hpair hpair' ⟨hle, hne⟩
  refine String.not_le.mp fun hge => hne ?_
  have hkey : pair.1 = pair'.1 := String.le_antisymm hle hge
  exact Prod.ext hkey (hfun pair ((hmem pair).mp hpair) pair' ((hmem pair').mp hpair') hkey)

/-- A config can be written in lower case exactly when no key has two values. -/
private theorem exists_lowers_iff {config : ConfigMap} :
    (∃ lowered, Lowers config lowered) ↔ OneValue config.entries := by
  constructor
  · rintro ⟨lowered, hlowers⟩ pair hpair pair' hpair' hkey
    have hget := ConfigMap.get_eq_some_iff.mpr ((hlowers _).mpr ⟨pair, hpair, rfl⟩)
    have hget' := ConfigMap.get_eq_some_iff.mpr ((hlowers _).mpr ⟨pair', hpair', rfl⟩)
    rw [hkey, hget'] at hget
    exact (Option.some.inj hget).symm
  · intro hone
    have hfun : ∀ pair ∈ config.entries.map (fun entry => (toAsciiLowercase entry.1, entry.2)),
        ∀ pair' ∈ config.entries.map (fun entry => (toAsciiLowercase entry.1, entry.2)),
          pair.1 = pair'.1 → pair.2 = pair'.2 := by
      intro pair hpair pair' hpair' hkey
      obtain ⟨entry, hentry, rfl⟩ := List.mem_map.mp hpair
      obtain ⟨entry', hentry', rfl⟩ := List.mem_map.mp hpair'
      exact hone entry hentry entry' hentry' hkey
    obtain ⟨lowered, hlowered⟩ := exists_configMap hfun
    refine ⟨lowered, fun entry => ?_⟩
    rw [hlowered, List.mem_map]
    simp only [eq_comm]

/-! ### Keys that are used as they are spelled -/

section Spelling

variable {kind : GuestType} {config : ConfigMap}

/-- What the guard and the form ensure of a config, however its keys are spelled. -/
structure CaseSafe (kind : GuestType) (config : ConfigMap) : Prop where
  /-- No container is privileged. -/
  unprivileged : ∀ entry ∈ config.entries, toAsciiLowercase entry.1 = "unprivileged" →
    trim entry.2 = "1"
  /-- Every template is a template image. -/
  template : ∀ entry ∈ config.entries, toAsciiLowercase entry.1 = "ostemplate" →
    (validateVolidKind entry.2 "vztmpl").isOk
  /-- Every disk is new, or permitted media. -/
  disks : ∀ entry ∈ config.entries, isCreateDiskKey (toAsciiLowercase entry.1) →
    diskValueIsNewAllocation entry.2 ∨ diskValueIsAllowedMedia entry.2
  /-- The form that is sent (`ProxmoxServer.ensures_createGuest`) gives no key two values. -/
  form : ∀ node vmid, OneValue
    (Guests.createGuestRequest node kind vmid (ProxmoxServer.createConfig kind config)).form

/-- The spelling of the keys does not matter: the config is accepted in lower case too, and where a
container's default is added, no other spelling of its key has another value. -/
structure SpellingBlind (kind : GuestType) (config : ConfigMap) : Prop where
  lowered : ∃ lowered, Lowers config lowered ∧ rejectUnsafeConfig lowered = none
  default : kind = .lxc → config.get "unprivileged" = none → ∀ entry ∈ config.entries,
    toAsciiLowercase entry.1 = "unprivileged" → entry.2 = "1"

/-- The default is added where its key is missing. -/
theorem mem_createConfig_iff {entry : String × String} :
    entry ∈ ProxmoxServer.createConfig kind config ↔ entry ∈ config.entries ∨
      kind = .lxc ∧ config.get "unprivileged" = none ∧ entry = ("unprivileged", "1") := by
  cases kind with
  | qemu => simp [ProxmoxServer.createConfig]
  | lxc =>
    rw [ProxmoxServer.createConfig, ProxmoxServer.entriesWithDefault]
    cases hget : config.get "unprivileged" with
    | some value => simp
    | none =>
      have hsplit : entry ∈ config.entries ↔
          entry ∈ config.entries.takeWhile (·.1 < "unprivileged") ∨
            entry ∈ config.entries.dropWhile (·.1 < "unprivileged") := by
        rw [← List.mem_append, List.takeWhile_append_dropWhile]
      simp [hsplit, or_assoc, or_comm]

/-- No creation key is the number of the guest. -/
theorem ne_vmid_of_allowed {key : String} (hallowed : isAllowedCreateConfigKey key) :
    toAsciiLowercase key ≠ "vmid" := by
  intro hkey
  rw [isAllowedCreateConfigKey, hkey] at hallowed
  exact absurd hallowed (by decide)

/-- A config that is accepted in lower case passes the value rules in every spelling. -/
private theorem accepted_of_lowers {lowered : ConfigMap} (hlowers : Lowers config lowered)
    (haccepted : rejectUnsafeConfig lowered = none) :
    (∀ entry ∈ config.entries, toAsciiLowercase entry.1 = "unprivileged" → trim entry.2 = "1") ∧
    ∀ entry ∈ config.entries, toAsciiLowercase entry.1 = "ostemplate" →
      (validateVolidKind entry.2 "vztmpl").isOk := by
  obtain ⟨-, hprivileged, htemplate, -, -⟩ := rejectUnsafeConfig_eq_none_iff.mp haccepted
  have hget : ∀ entry ∈ config.entries, ∀ key, toAsciiLowercase entry.1 = key →
      lowered.get key = some entry.2 := by
    rintro entry hentry key rfl
    exact ConfigMap.get_eq_some_iff.mpr ((hlowers _).mpr ⟨entry, hentry, rfl⟩)
  exact ⟨fun entry hentry hkey => hprivileged _ (hget entry hentry _ hkey),
    fun entry hentry hkey => htemplate _ (hget entry hentry _ hkey)⟩

/-- A config that passes the value rules in every spelling is accepted in lower case. -/
private theorem rejectUnsafeConfig_lowered {lowered : ConfigMap} (hlowers : Lowers config lowered)
    (haccepted : rejectUnsafeConfig config = none)
    (hprivileged : ∀ entry ∈ config.entries, toAsciiLowercase entry.1 = "unprivileged" →
      trim entry.2 = "1")
    (htemplate : ∀ entry ∈ config.entries, toAsciiLowercase entry.1 = "ostemplate" →
      (validateVolidKind entry.2 "vztmpl").isOk) : rejectUnsafeConfig lowered = none := by
  obtain ⟨hkeys, -, -, hpaths, hdisks⟩ := rejectUnsafeConfig_eq_none_iff.mp haccepted
  have horigin : ∀ entry ∈ lowered.entries, ∃ entry' ∈ config.entries,
      entry = (toAsciiLowercase entry'.1, entry'.2) := fun entry => (hlowers entry).mp
  refine rejectUnsafeConfig_eq_none_iff.mpr ⟨fun entry hentry => ?_, fun value hvalue => ?_,
    fun value hvalue => ?_, configHostPaths_eq_nil_iff.mpr fun entry hentry => ?_,
    foreignVolumeKeys_eq_nil_iff.mpr fun entry hentry => ?_⟩
  · obtain ⟨entry', hentry', rfl⟩ := horigin entry hentry
    have hallowed := hkeys entry' hentry'
    rwa [isAllowedCreateConfigKey, ← toAsciiLowercase_toAsciiLowercase] at hallowed
  · obtain ⟨entry', hentry', heq⟩ := horigin _ (ConfigMap.get_eq_some_iff.mp hvalue)
    obtain ⟨hkey, rfl⟩ := Prod.mk.inj heq
    exact hprivileged entry' hentry' hkey.symm
  · obtain ⟨entry', hentry', heq⟩ := horigin _ (ConfigMap.get_eq_some_iff.mp hvalue)
    obtain ⟨hkey, rfl⟩ := Prod.mk.inj heq
    exact htemplate entry' hentry' hkey.symm
  · obtain ⟨entry', hentry', rfl⟩ := horigin entry hentry
    exact configHostPaths_eq_nil_iff.mp hpaths entry' hentry'
  · obtain ⟨entry', hentry', rfl⟩ := horigin entry hentry
    rw [toAsciiLowercase_toAsciiLowercase]
    exact foreignVolumeKeys_eq_nil_iff.mp hdisks entry' hentry'

/-- The form gives no key two values when the config does not, and the default contradicts
nothing. -/
private theorem oneValue_form
    (hallowed : ∀ entry ∈ config.entries, isAllowedCreateConfigKey entry.1)
    (hone : OneValue config.entries)
    (hdefault : kind = .lxc → config.get "unprivileged" = none → ∀ entry ∈ config.entries,
      toAsciiLowercase entry.1 = "unprivileged" → entry.2 = "1") (node : String) (vmid : UInt32) :
    OneValue (Guests.createGuestRequest node kind vmid
      (ProxmoxServer.createConfig kind config)).form := by
  have hlower : toAsciiLowercase "unprivileged" = "unprivileged" := by decide
  have hvmid : toAsciiLowercase "vmid" = "vmid" := by decide
  have hnumber : ∀ entry ∈ ProxmoxServer.createConfig kind config,
      toAsciiLowercase entry.1 ≠ "vmid" := by
    intro entry hentry
    rcases mem_createConfig_iff.mp hentry with hentry | ⟨-, -, rfl⟩
    · exact ne_vmid_of_allowed (hallowed entry hentry)
    · rw [hlower]
      decide
  intro pair hpair pair' hpair' hkey
  change pair ∈ ("vmid", toString vmid) :: _ at hpair
  change pair' ∈ ("vmid", toString vmid) :: _ at hpair'
  -- the number of the guest is a key of its own
  rcases List.mem_cons.mp hpair with rfl | hpair <;>
    rcases List.mem_cons.mp hpair' with rfl | hpair'
  · rfl
  · exact absurd (hkey.symm.trans hvmid) (hnumber pair' hpair')
  · exact absurd (hkey.trans hvmid) (hnumber pair hpair)
  · rcases mem_createConfig_iff.mp hpair with hpair | ⟨hkind, hget, rfl⟩ <;>
      rcases mem_createConfig_iff.mp hpair' with hpair' | ⟨hkind', hget', rfl⟩
    · exact hone pair hpair pair' hpair' hkey
    · exact hdefault hkind' hget' pair hpair (hkey.trans hlower)
    · exact (hdefault hkind hget pair' hpair' (hkey.symm.trans hlower)).symm
    · rfl

/-- **Which accepted configs are safe in every spelling**: exactly those whose spelling does not
matter to the guard. -/
theorem rejectUnsafeConfig_caseSafe_iff (haccepted : rejectUnsafeConfig config = none) :
    CaseSafe kind config ↔ SpellingBlind kind config := by
  obtain ⟨hkeys, -, -, -, hdisks⟩ := rejectUnsafeConfig_eq_none_iff.mp haccepted
  constructor
  · rintro ⟨hprivileged, htemplate, -, hform⟩
    have hsent : ∀ pair ∈ ProxmoxServer.createConfig kind config, ∀ pair' ∈
        ProxmoxServer.createConfig kind config,
        toAsciiLowercase pair.1 = toAsciiLowercase pair'.1 → pair.2 = pair'.2 :=
      fun pair hpair pair' hpair' => hform "" 0 pair (.tail _ hpair) pair' (.tail _ hpair')
    have hone : OneValue config.entries := fun pair hpair pair' hpair' =>
      hsent pair (mem_createConfig_iff.mpr (.inl hpair)) pair'
        (mem_createConfig_iff.mpr (.inl hpair'))
    obtain ⟨lowered, hlowers⟩ := exists_lowers_iff.mpr hone
    refine ⟨⟨lowered, hlowers, rejectUnsafeConfig_lowered hlowers haccepted hprivileged htemplate⟩,
      fun hkind hget entry hentry hkey => ?_⟩
    have hadded := mem_createConfig_iff.mpr (.inr ⟨hkind, hget, rfl⟩)
    exact hsent entry (mem_createConfig_iff.mpr (.inl hentry)) _ hadded hkey
  · rintro ⟨⟨lowered, hlowers, hlowered⟩, hdefault⟩
    obtain ⟨hprivileged, htemplate⟩ := accepted_of_lowers hlowers hlowered
    exact ⟨hprivileged, htemplate, foreignVolumeKeys_eq_nil_iff.mp hdisks,
      oneValue_form hkeys (exists_lowers_iff.mp ⟨lowered, hlowers⟩) hdefault⟩

end Spelling

/-- A container config of one key. -/
def oneCreateKey (key value : String) : ConfigMap := ⟨[(key, value)], by simp⟩

theorem rejectUnsafeConfig_caseSafe_iff_hostname :
    rejectUnsafeConfig (oneCreateKey "Hostname" "web") = none ∧
      (CaseSafe .lxc (oneCreateKey "Hostname" "web") ↔
        SpellingBlind .lxc (oneCreateKey "Hostname" "web")) := by
  have haccepted : rejectUnsafeConfig (oneCreateKey "Hostname" "web") = none := by decide
  exact ⟨haccepted, rejectUnsafeConfig_caseSafe_iff haccepted⟩

/-- A capital letter creates a privileged container. -/
theorem rejectUnsafeConfig_accepts_privileged :
    rejectUnsafeConfig (oneCreateKey "Unprivileged" "0") = none ∧
      ¬ CaseSafe .lxc (oneCreateKey "Unprivileged" "0") := by
  refine ⟨by decide, fun hsafe => ?_⟩
  have hvalue := hsafe.unprivileged ("Unprivileged", "0") (.head _) (by decide)
  exact absurd hvalue (by decide)

end ProxmoxMcp
