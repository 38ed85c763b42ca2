import ProxmoxMcp.Server.GuestConfig

/-!
# What a config update can write

The update guard is an allowlist of keys, with interface keys let through when their value keeps the
firewall on. `SafeUpdate` says what that is meant to ensure, of keys in any spelling and of values
read as property strings: fields cut at commas, each with a key that is trimmed and compared without
regard to case.

The guard is weaker in two places. It takes **any** key that starts with `net` for an interface, and
of an interface it wants one field that turns the firewall on, whatever the **other** firewall
fields say. `rejectUnsafeVmConfig_safeUpdate_iff` says that there is nothing else.
-/

namespace ProxmoxMcp

open Text

/-! ### Safe updates -/

/-- A key of the allowlist, or a numbered one, in any case. -/
inductive UpdateKey (key : String) : Prop
  | named (mem : toAsciiLowercase key ∈ allowedVmConfigKeys)
  | numbered {pre digits : String} (mem : pre ∈ ["ipconfig", "net"]) (number : IsDigits digits)
      (eq : toAsciiLowercase key = pre ++ digits)

/-- The key of a network interface, in any case. -/
def InterfaceKey (key : String) : Prop :=
  ∃ digits, IsDigits digits ∧ toAsciiLowercase key = "net" ++ digits

/-- A property string keeps the firewall on: it has a firewall field, and every one of them is 1. -/
structure KeepsFirewall (value : String) : Prop where
  present : ∃ field ∈ fields value ',', fieldKey field = some "firewall"
  on : ∀ field ∈ fields value ',', fieldKey field = some "firewall" → trim (fieldValue field) = "1"

/-- A config update that stays inside what the tool is for. -/
structure SafeUpdate (config : ConfigMap) : Prop where
  /-- Every key is allowed. -/
  keys : ∀ entry ∈ config.entries, UpdateKey entry.1
  /-- Every interface keeps its firewall on. -/
  firewall : ∀ entry ∈ config.entries, InterfaceKey entry.1 → KeepsFirewall entry.2
  /-- No key is the cloud-init password. -/
  not_password : ∀ entry ∈ config.entries, toAsciiLowercase entry.1 ≠ "cipassword"
  /-- No field has an absolute path as its value. -/
  not_path : ∀ entry ∈ config.entries, ∀ field ∈ fields entry.2 ',',
    ¬ ['/'] <+: (fieldValue field).toList

/-- What the guard takes for granted: a key that starts with `net` is the key of an interface, and
the firewall fields of an interface do not contradict each other. -/
structure PlainInterfaces (config : ConfigMap) : Prop where
  numbered : ∀ entry ∈ config.entries, ['n', 'e', 't'] <+: (toAsciiLowercase entry.1).toList →
    InterfaceKey entry.1
  agree : ∀ entry ∈ config.entries, InterfaceKey entry.1 → ∀ field ∈ fields entry.2 ',',
    ∀ field' ∈ fields entry.2 ',', fieldKey field = some "firewall" →
      fieldKey field' = some "firewall" → trim (fieldValue field) = trim (fieldValue field')

/-! ### What the guard checks -/

/-- The field the guard looks for is a firewall field with the value 1. -/
private theorem firewall_of_eqIgnoreAsciiCase {field : String}
    (h : eqIgnoreAsciiCase (trim field) "firewall=1") :
    fieldKey field = some "firewall" ∧ trim (fieldValue field) = "1" := by
  obtain ⟨front, back, hfield, hfront, hback⟩ := exists_eq_append_trim field
  have hlower : (trim field).toList.map Char.toLower = "firewall".toList ++ '=' :: ['1'] := by
    simpa [eqIgnoreAsciiCase, toAsciiLowercase, ← String.toList_inj] using h
  obtain ⟨key, rest, htrim, hkey, hrest⟩ := List.map_eq_append_iff.mp hlower
  obtain ⟨sep, one, rfl, hsep, hone⟩ := List.map_eq_cons_iff.mp hrest
  obtain ⟨digit, nothing, rfl, hdigit, hnothing⟩ := List.map_eq_cons_iff.mp hone
  obtain rfl := List.map_eq_nil_iff.mp hnothing
  obtain rfl := eq_of_toLower_eq hsep (by decide)
  obtain rfl := eq_of_toLower_eq hdigit (by decide)
  -- a character of the key that is lowered to itself is one of these letters
  have hletter : ∀ c ∈ key, c.toLower = c → c ∈ "firewall".toList := by
    intro c hc heq
    rw [← hkey, ← heq]
    exact List.mem_map_of_mem hc
  have hspace : ∀ c ∈ key, isWhitespace c = false := by
    intro c hc
    refine Bool.eq_false_iff.mpr fun hspace => ?_
    have hmem := hletter c hc (toLower_of_isWhitespace hspace)
    have hletters : "firewall".toList.all (!isWhitespace ·) = true := by decide
    simpa [hspace] using List.all_eq_true.mp hletters c hmem
  have hequals : '=' ∉ front ++ key := by
    rw [List.mem_append, not_or]
    exact ⟨fun hc => absurd (hfront _ hc) (by decide),
      fun hc => absurd (hletter _ hc rfl) (by decide)⟩
  have hcut : splitOnce field '=' =
      some (String.ofList (front ++ key), String.ofList ('1' :: back)) := by
    rw [splitOnce_eq_some_iff, String.toList_ofList, String.toList_ofList, hfield, htrim]
    exact ⟨hequals, by simp⟩
  have htrimKey : (trim (String.ofList (front ++ key))).toList = key :=
    toList_trim (by simp) hfront (fun _ hc => absurd hc List.not_mem_nil) hspace
  have htrimValue : (trim (String.ofList ('1' :: back))).toList = ['1'] :=
    toList_trim (by simp) (fun _ hc => absurd hc List.not_mem_nil) hback
      (List.forall_mem_singleton.mpr (by decide))
  rw [fieldKey, fieldValue, hcut]
  refine ⟨?_, String.toList_inj.mp htrimValue⟩
  rw [Option.map_some, toAsciiLowercase, htrimKey, hkey]
  rfl

/-- What the allowlist of an update lets through. -/
private theorem isAllowedVmConfigKey_iff {key : String} : isAllowedVmConfigKey key ↔
    toAsciiLowercase key ∈ allowedVmConfigKeys ∨
      ∃ digits, IsDigits digits ∧ toAsciiLowercase key = "ipconfig" ++ digits := by
  rw [isAllowedVmConfigKey, allowedVmConfigPrefixes, List.any_cons, List.any_nil, Bool.or_false,
    Bool.or_eq_true, isNumberedKey_iff, List.contains_iff_mem]

/-- No key of the allowlist starts as an interface does. -/
private theorem interfaceKey_of_updateKey {key : String} (hkey : UpdateKey key)
    (hnet : ['n', 'e', 't'] <+: (toAsciiLowercase key).toList) : InterfaceKey key := by
  cases hkey with
  | named hmem =>
    generalize toAsciiLowercase key = lower at hmem hnet
    have hnone : ∀ lower ∈ allowedVmConfigKeys, ¬ ['n', 'e', 't'] <+: lower.toList := by decide
    exact absurd hnet (hnone lower hmem)
  | @numbered pre digits hpre hdigits heq =>
    rw [List.mem_cons, List.mem_singleton] at hpre
    rcases hpre with rfl | rfl
    · rw [heq, String.toList_append] at hnet
      simp at hnet
    · exact ⟨digits, hdigits, heq⟩

theorem InterfaceKey.starts {key : String} (hkey : InterfaceKey key) :
    ['n', 'e', 't'] <+: (toAsciiLowercase key).toList := by
  obtain ⟨digits, -, heq⟩ := hkey
  rw [heq, String.toList_append]
  exact List.prefix_append _ _

/-- **Which accepted updates are safe**: exactly those in which every key that starts with `net` is
an interface, and no interface contradicts itself about its firewall. -/
theorem rejectUnsafeVmConfig_safeUpdate_iff {config : ConfigMap}
    (haccepted : rejectUnsafeVmConfig config = none) :
    SafeUpdate config ↔ PlainInterfaces config := by
  obtain ⟨hpassword, hkeys, hfirewall, hpaths⟩ := rejectUnsafeVmConfig_eq_none_iff.mp haccepted
  constructor
  · rintro ⟨hupdate, hsafe, -, -⟩
    refine ⟨fun entry hentry hnet => interfaceKey_of_updateKey (hupdate entry hentry) hnet, ?_⟩
    intro entry hentry hinterface field hfield field' hfield' hkey hkey'
    obtain ⟨-, hon⟩ := hsafe entry hentry hinterface
    rw [hon field hfield hkey, hon field' hfield' hkey']
  · rintro ⟨hnumbered, hagree⟩
    refine ⟨fun entry hentry => ?_, fun entry hentry hinterface => ?_, fun entry hentry heq => ?_,
      fun entry hentry field hfield hpath => ?_⟩
    · rcases hkeys entry hentry with hnet | hallowed
      · obtain ⟨digits, hdigits, heq⟩ := hnumbered entry hentry (startsWith_iff.mp hnet)
        exact .numbered (.tail _ List.mem_cons_self) hdigits heq
      · rcases isAllowedVmConfigKey_iff.mp hallowed with hmem | ⟨digits, hdigits, heq⟩
        · exact .named hmem
        · exact .numbered List.mem_cons_self hdigits heq
    · have hnet : startsWith (toAsciiLowercase entry.1) "net" :=
        startsWith_iff.mpr hinterface.starts
      obtain ⟨found, hfound, hcheck⟩ := hfirewall entry hentry hnet
      obtain ⟨hkey, hvalue⟩ := firewall_of_eqIgnoreAsciiCase hcheck
      refine ⟨⟨found, hfound, hkey⟩, fun field hfield hfield' => ?_⟩
      rw [hagree entry hentry hinterface field hfield found hfound hfield' hkey, hvalue]
    · refine hpassword entry hentry ?_
      rw [eqIgnoreAsciiCase, heq]
      decide
    · have hslash : startsWith (fieldValue field) "/" := startsWith_iff.mpr hpath
      exact configHostPaths_eq_nil_iff.mp hpaths entry hentry field hfield hslash

private theorem sorted_singleton (key value : String) :
    ([(key, value)].map Prod.fst).Pairwise (· < ·) :=
  List.pairwise_singleton _ _

/-- An update of one key. -/
def oneUpdate (key value : String) : ConfigMap := ⟨[(key, value)], sorted_singleton key value⟩

theorem rejectUnsafeVmConfig_safeUpdate_iff_firewalled :
    rejectUnsafeVmConfig (oneUpdate "net0" "virtio,bridge=vmbr0,firewall=1") = none ∧
      (SafeUpdate (oneUpdate "net0" "virtio,bridge=vmbr0,firewall=1") ↔
        PlainInterfaces (oneUpdate "net0" "virtio,bridge=vmbr0,firewall=1")) := by
  have haccepted : rejectUnsafeVmConfig
      (oneUpdate "net0" "virtio,bridge=vmbr0,firewall=1") = none := by decide
  exact ⟨haccepted, rejectUnsafeVmConfig_safeUpdate_iff haccepted⟩

/-- The guard accepts a firewall that is turned on and then off, and a key that no interface has. -/
theorem rejectUnsafeVmConfig_accepts_contradiction :
    (rejectUnsafeVmConfig (oneUpdate "net0" "virtio,firewall=1,firewall=0") = none ∧
      ¬ SafeUpdate (oneUpdate "net0" "virtio,firewall=1,firewall=0")) ∧
    rejectUnsafeVmConfig (oneUpdate "network" "firewall=1") = none ∧
      ¬ SafeUpdate (oneUpdate "network" "firewall=1") := by
  refine ⟨⟨by decide, fun hsafe => ?_⟩, by decide, fun hsafe => ?_⟩
  · have hnet : InterfaceKey "net0" :=
      ⟨"0", ⟨by decide, List.all_eq_true.mp (by decide)⟩, by decide⟩
    obtain ⟨-, hon⟩ := hsafe.firewall ("net0", "virtio,firewall=1,firewall=0") (.head _) hnet
    exact absurd (hon "firewall=0" (by decide) (by decide)) (by decide)
  · have hkey := hsafe.keys ("network", "firewall=1") (.head _)
    obtain ⟨digits, hdigits, heq⟩ := interfaceKey_of_updateKey hkey (by decide)
    have hwork : "net".toList ++ "work".toList = "net".toList ++ digits.toList := by
      rw [← String.toList_append, ← String.toList_append, ← heq]
      decide
    have hmem : 'w' ∈ digits.toList := by
      rw [← List.append_cancel_left hwork]
      decide
    exact absurd (hdigits.2 'w' hmem) (by decide)

end ProxmoxMcp
