import ProxmoxMcp.Core.Volid

/-!
# What a guest's config may carry

The two guards a caller's config map passes through: `rejectUnsafeConfig` before a guest is
created, and `rejectUnsafeVmConfig` before an existing one is reconfigured. Both are an
**allowlist** of keys followed by checks of single values, and both answer with the refusal text
or with nothing.

`SafeDisk` says what a disk value ought to be when it is read as Proxmox reads it: fields cut at
commas, each a key and a value or a bare value. The create guard reads the value differently: it
cuts at the **first colon** and looks at the options after it, so what stands before that colon
is never examined. `rejectUnsafeConfig_safeDisk_iff` says which accepted values are safe all the
same.
-/

namespace ProxmoxMcp

open Text

/-- A `BTreeMap` from keys to values: entries in strictly increasing order of their keys. -/
structure ConfigMap where
  /-- The entries, in key order. -/
  entries : List (String × String)
  /-- Each key occurs once, in order. -/
  sorted : (entries.map Prod.fst).Pairwise (· < ·)
  deriving DecidableEq

/-- The value under a key. -/
def ConfigMap.get (config : ConfigMap) (key : String) : Option String :=
  config.entries.lookup key

/-! ### Keys -/

/-- Keys a create accepts by exact match, without regard to case. -/
def allowedCreateConfigKeys : List String :=
  ["ciuser", "sshkeys", "nameserver", "searchdomain", "citype", "ciupgrade",
    "cores", "sockets", "memory", "balloon", "cpu", "numa", "swap",
    "name", "hostname", "description", "tags", "onboot", "startup", "agent",
    "ostype", "arch", "bios", "scsihw", "boot", "machine", "vga", "features",
    "unprivileged", "ostemplate", "storage", "ssh-public-keys"]

/-- Key prefixes a create accepts whatever follows them. -/
def allowedCreateConfigPrefixes : List String := ["ipconfig", "net"]

/-- Numbered keys under which a create may allocate a disk. -/
def createDiskKeyPrefixes : List String := ["scsi", "ide", "sata", "virtio"]

/-- Keys under which a create may allocate a disk, by exact match. -/
def createDiskKeyExact : List String := ["rootfs", "efidisk0", "tpmstate0"]

/-- A prefix followed by a number. -/
def isNumberedKey (lower pre : String) : Bool :=
  match stripPrefix lower pre with
  | some rest => !rest.isEmpty && rest.toList.all Char.isDigit
  | none => false

/-- Whether a key names a disk a create may allocate a new volume under. -/
def isCreateDiskKey (lower : String) : Bool :=
  createDiskKeyExact.contains lower || createDiskKeyPrefixes.any (isNumberedKey lower)

/-- Whether a key is inside the allowlist of a create. -/
def isAllowedCreateConfigKey (key : String) : Bool :=
  let lower := toAsciiLowercase key
  allowedCreateConfigKeys.contains lower ||
    allowedCreateConfigPrefixes.any (startsWith lower) || isCreateDiskKey lower

/-- Keys a config update accepts by exact match, without regard to case. -/
def allowedVmConfigKeys : List String :=
  ["ciuser", "sshkeys", "nameserver", "searchdomain", "citype", "ciupgrade",
    "cores", "sockets", "memory", "balloon", "cpu", "numa",
    "name", "description", "tags", "onboot", "startup", "agent"]

/-- Key prefixes a config update accepts when a number follows. -/
def allowedVmConfigPrefixes : List String := ["ipconfig"]

/-- Whether a key is inside the allowlist of a config update. -/
def isAllowedVmConfigKey (key : String) : Bool :=
  let lower := toAsciiLowercase key
  allowedVmConfigKeys.contains lower || allowedVmConfigPrefixes.any (isNumberedKey lower)

/-! ### Values -/

/-- Look for a volume name that starts with `pat`: the search resumes behind each occurrence of
`pat` that no digits and dash follow. -/
def volumeReferenceFrom (pat : List Char) (hpat : pat ≠ []) (rest : List Char) : Bool :=
  match _h : dropThrough pat rest with
  | none => false
  | some after =>
    let digits := after.takeWhile Char.isDigit
    if digits ≠ [] ∧ ['-'] <+: after.drop digits.length then true
    else volumeReferenceFrom pat hpat after
termination_by rest.length
decreasing_by
  obtain ⟨before, rfl, -⟩ := dropThrough_eq_some _h
  have := List.length_pos_iff.mpr hpat
  simp only [List.length_append]
  omega

/-- Whether a value contains a Proxmox volume name (`vm-<n>-...` or `base-<n>-...`). -/
def containsVolumeReference (value : String) : Bool :=
  volumeReferenceFrom "vm-".toList (by decide) value.toList ||
    volumeReferenceFrom "base-".toList (by decide) value.toList

/-- The option name of a field: what stands before its first equals sign, or all of it. -/
def optionKey (field : String) : String :=
  toAsciiLowercase (trim (match splitOnce field '=' with | some (key, _) => key | none => field))

/-- Digits and dots only, and at least one of them. -/
def isBareSize (size : String) : Bool :=
  !size.isEmpty && size.toList.all fun c => c.isDigit || c == '.'

/-- Whether a disk value allocates a new volume rather than referencing an existing one. -/
def diskValueIsNewAllocation (value : String) : Bool :=
  match splitOnce value ':' with
  | none => false
  | some (_, rest) =>
    match fields rest ',' with
    | [] => false
    | size :: options =>
      isBareSize size &&
        options.all (fun field => optionKey field != "import-from" && optionKey field != "file") &&
        !containsVolumeReference value

/-- Whether a disk value is an empty cdrom, a cloud-init drive, or an ISO attached as cdrom. -/
def diskValueIsAllowedMedia (value : String) : Bool :=
  value == "none,media=cdrom" ||
    (match splitOnce value ':' with
      | some (storage, rest) => !storage.isEmpty && rest == "cloudinit"
      | none => false) ||
    match splitOnce value ',' with
    | some (volid, rest) => rest == "media=cdrom" && (validateVolidKind volid "iso").isOk
    | none => false

/-- The keys whose value carries an absolute host path in some field. -/
def configHostPaths (config : ConfigMap) : List String :=
  (config.entries.filter fun entry =>
    (fields entry.2 ',').any fun field =>
      startsWith (match splitOnce field '=' with | some (_, v) => v | none => field) "/").map
      Prod.fst

/-! ### Reading a disk value as Proxmox does -/

/-- The key of a field, trimmed and without regard to case; a bare value has none. -/
def fieldKey (field : String) : Option String :=
  (splitOnce field '=').map fun entry => toAsciiLowercase (trim entry.1)

/-- The value of a field: what stands behind its first equals sign, or all of it. -/
def fieldValue (field : String) : String :=
  match splitOnce field '=' with
  | some (_, v) => v
  | none => field

/-- A storage name: not empty, and free of the characters that end a name. -/
def StorageName (storage : String) : Prop :=
  storage ≠ "" ∧ ':' ∉ storage.toList ∧ ',' ∉ storage.toList ∧ '=' ∉ storage.toList

/-- A run of ASCII digits. -/
def IsDigits (text : String) : Prop := text ≠ "" ∧ ∀ c ∈ text.toList, c.isDigit

/-- A size in GB: a whole number, or one with a fraction. -/
def IsSize (size : String) : Prop :=
  match splitOnce size '.' with
  | none => IsDigits size
  | some (whole, fraction) => IsDigits whole ∧ IsDigits fraction

/-- The volume field allocates a new volume: a storage name, a colon and a number. -/
def FreshAllocation (value : String) : Prop :=
  ∃ storage size options, fields value ',' = (storage ++ ":" ++ size) :: options ∧
    StorageName storage ∧ IsSize size

/-- A cloud-init drive. -/
def CloudInitDrive (value : String) : Prop :=
  ∃ storage, StorageName storage ∧ value = storage ++ ":cloudinit"

/-- An ISO image attached as cdrom. -/
def IsoAsCdrom (value : String) : Prop :=
  ∃ storage name, StorageName storage ∧ name ≠ "" ∧ ',' ∉ name.toList ∧
    value = storage ++ ":iso/" ++ name ++ ",media=cdrom"

/-- The text holds the name of a guest's volume: `vm-` or `base-`, digits, a dash. -/
def NamesGuestVolume (text : String) : Prop :=
  ∃ pat ∈ ["vm-", "base-"], ∃ digits, IsDigits digits ∧
    (pat ++ digits ++ "-").toList <:+: text.toList

/-- A disk value that cannot reach another guest's disk. -/
structure SafeDisk (value : String) : Prop where
  /-- No field is an import or names a file. -/
  not_import : ∀ field ∈ fields value ',',
    fieldKey field ≠ some "import-from" ∧ fieldKey field ≠ some "file"
  /-- The value has one of the four permitted shapes. -/
  shape : FreshAllocation value ∨ value = "none,media=cdrom" ∨ CloudInitDrive value ∨
    IsoAsCdrom value
  /-- A fresh allocation mentions no existing volume. -/
  not_volume : FreshAllocation value → ∀ field ∈ fields value ',', ¬ NamesGuestVolume field

/-- What the guard leaves unchecked: the value is the empty cdrom, or its first field holds a
colon, with a storage name before it and no misspelt number behind it. -/
def PlainVolume (value : String) : Prop :=
  value = "none,media=cdrom" ∨ ∃ first options storage size,
    fields value ',' = first :: options ∧ splitOnce first ':' = some (storage, size) ∧
      StorageName storage ∧ (isBareSize size → IsSize size)

/-! ### The two guards -/

/-- Keys as a refusal lists them. -/
def joinKeys (keys : List String) : String := ", ".intercalate keys

/-- The disk keys whose value neither allocates a volume nor is permitted media. -/
def foreignVolumeKeys (config : ConfigMap) : List String :=
  (config.entries.filter fun entry =>
    isCreateDiskKey (toAsciiLowercase entry.1) && !diskValueIsNewAllocation entry.2 &&
      !diskValueIsAllowedMedia entry.2).map Prod.fst

/-- Refuse config a create must not be able to express; `none` when nothing is refused. -/
def rejectUnsafeConfig (config : ConfigMap) : Option String :=
  let offending := (config.entries.map Prod.fst).filter fun key => !isAllowedCreateConfigKey key
  let hostPathed := configHostPaths config
  let foreignVolume := foreignVolumeKeys config
  if offending ≠ [] then
    some (s!"config field(s) {joinKeys offending} are refused: a 'low' create accepts only " ++
      "cloud-init, sizing, metadata, network and new-volume disk keys. A restore, host code " ++
      "execution, a host mount, device passthrough, or an existing-volume reference, none of " ++
      "which a 'low' create may do. Create the guest without them and set them from the Proxmox " ++
      "UI if you genuinely need them.")
  else if (config.get "unprivileged").any fun value => trim value != "1" then
    some ("unprivileged=0 creates a privileged container, whose root maps to host root. Pass " ++
      "unprivileged=1, or omit nothing and let this server pass it for you.")
  else if let some value := (config.get "ostemplate").filter fun value =>
      !(validateVolidKind value "vztmpl").isOk then
    some (s!"ostemplate '{value}' is not a usable template volid ('<storage>:vztmpl/<name>'). A " ++
      "'low' create_container may only reference a template image.")
  else if hostPathed ≠ [] then
    some (s!"config field(s) {joinKeys hostPathed} carry an absolute host path. A guest " ++
      "disk is named 'storage:spec'; a path names the hypervisor's own filesystem, which a " ++
      "'low' create must not reach.")
  else if foreignVolume ≠ [] then
    some (s!"config field(s) {joinKeys foreignVolume} must allocate a new volume " ++
      "('<storage>:<size-in-gb>'), not reference an existing one: 'import-from', 'file', and a " ++
      "value naming another guest's volume ('vm-<id>-...'/'base-<id>-...') are refused. A 'low' " ++
      "create must not be able to attach or import a volume outside the guest it is creating.")
  else none

/-- Refuse config an update must not be able to express; `none` when nothing is refused. -/
def rejectUnsafeVmConfig (config : ConfigMap) : Option String :=
  let keys := config.entries.map Prod.fst
  let disallowed := keys.filter fun key =>
    !startsWith (toAsciiLowercase key) "net" && !isAllowedVmConfigKey key
  let unfirewalled := config.entries.find? fun entry =>
    startsWith (toAsciiLowercase entry.1) "net" &&
      !(fields entry.2 ',').any fun field => eqIgnoreAsciiCase (trim field) "firewall=1"
  let hostPathed := configHostPaths config
  if let some key := keys.find? fun key => eqIgnoreAsciiCase key "cipassword" then
    some (s!"config field '{key}' is refused: a cloud-init password would be stored in " ++
      "plaintext in the change-set record until it is pruned. Use 'sshkeys' for cloud-init " ++
      "authentication instead.")
  else if disallowed ≠ [] then
    some (s!"config field(s) {joinKeys disallowed} are refused: a config update accepts " ++
      "only cloud-init, sizing and metadata keys, plus 'netN' with its firewall left on. Disk, " ++
      "media, device passthrough, 'delete'/'revert', host-run scripts, boot-media and " ++
      "protection changes are outside this tool's mandate. Set them from the Proxmox UI if you " ++
      "genuinely need them.")
  else if let some (key, _) := unfirewalled then
    some (s!"config field '{key}' must explicitly set 'firewall=1'. A config update must not " ++
      "leave the guest's per-interface firewall unset or disabled -- Proxmox defaults an " ++
      "interface with no 'firewall=' field to off. Change it from the Proxmox UI if a disabled " ++
      "firewall is intended.")
  else if hostPathed ≠ [] then
    some (s!"config field(s) {joinKeys hostPathed} carry an absolute host path. A guest " ++
      "disk is named 'storage:spec'; a path names the hypervisor's own filesystem, which a " ++
      "config update must not reach.")
  else none

/-! ### The search for volume names is complete -/

/-- Behind the first occurrence of `c :: tail`, an occurrence cannot overlap it when `c` does not
recur in `tail`: it is the same one, or it lies behind. -/
private theorem eq_nil_or_exists_append_of_occurrence {c : Char} {tail after m y : List Char}
    (hc : c ∉ tail) (h : (c :: tail) ++ after = m ++ ((c :: tail) ++ y)) :
    m = [] ∨ ∃ m', after = m' ++ ((c :: tail) ++ y) := by
  rcases List.append_eq_append_iff.mp h with ⟨m', -, hafter⟩ | ⟨d, hpat, hd⟩
  · exact Or.inr ⟨m', hafter⟩
  · cases m with
    | nil => exact Or.inl rfl
    | cons b m =>
      cases d with
      | nil => exact Or.inr ⟨[], by simpa using hd.symm⟩
      | cons e d =>
        obtain ⟨rfl, -⟩ := List.cons.inj (List.cons_append .. ▸ hd)
        exact absurd (by simp [(List.cons.inj hpat).2]) hc

/-- The text behind an occurrence of the prefix continues a volume name. -/
private theorem digits_dash_iff {after : List Char} :
    (after.takeWhile Char.isDigit ≠ [] ∧
        ['-'] <+: after.drop (after.takeWhile Char.isDigit).length) ↔
      ∃ digits, digits ≠ [] ∧ (∀ c ∈ digits, c.isDigit) ∧ digits ++ ['-'] <+: after := by
  constructor
  · rintro ⟨hne, y, hy⟩
    refine ⟨_, hne, fun c hc => List.mem_takeWhile_imp hc, y, ?_⟩
    rw [List.append_assoc, hy]
    exact List.prefix_iff_eq_append.mp (List.takeWhile_prefix _)
  · rintro ⟨digits, hne, hdigit, y, rfl⟩
    have htake : (digits ++ ['-'] ++ y).takeWhile Char.isDigit = digits := by
      rw [List.append_assoc, List.takeWhile_append_of_pos hdigit]
      simp
    rw [htake]
    exact ⟨hne, y, by simp⟩

private theorem volumeReferenceFrom_iff {c : Char} {tail rest : List Char} (hc : c ∉ tail)
    (hpat : c :: tail ≠ []) :
    volumeReferenceFrom (c :: tail) hpat rest ↔
      ∃ digits, digits ≠ [] ∧ (∀ c ∈ digits, c.isDigit) ∧
        (c :: tail) ++ (digits ++ ['-']) <:+: rest := by
  fun_induction volumeReferenceFrom (c :: tail) hpat rest with
  | case1 rest hnone =>
    rw [dropThrough_eq_none_iff] at hnone
    refine iff_of_false (by simp) ?_
    rintro ⟨digits, -, -, hin⟩
    exact hnone ((List.prefix_append _ _).isInfix.trans hin)
  | case2 rest after hsome digits hhit =>
    obtain ⟨before, rfl, -⟩ := dropThrough_eq_some hsome
    obtain ⟨run, hne, hdigit, y, rfl⟩ := digits_dash_iff.mp hhit
    exact iff_of_true rfl ⟨run, hne, hdigit, before, y, by simp⟩
  | case3 rest after hsome digits hmiss ih =>
    obtain ⟨before, rfl, hfirst⟩ := dropThrough_eq_some hsome
    rw [ih]
    refine exists_congr fun digits => and_congr_right fun hne => and_congr_right fun hdigit => ?_
    constructor
    · exact fun hin => hin.trans ⟨before ++ (c :: tail), [], by simp⟩
    · rintro ⟨x, y, hxy⟩
      -- an occurrence behind the first one is found in the rest
      have hle := hfirst x (digits ++ ['-'] ++ y) (by simp [← hxy])
      obtain ⟨m, rfl⟩ : ∃ m, x = before ++ m := by
        have hpre : before <+: before ++ (c :: tail) ++ after :=
          ⟨_, (List.append_assoc ..).symm⟩
        have hx : x <+: before ++ (c :: tail) ++ after := ⟨_, by rw [← List.append_assoc, hxy]⟩
        obtain ⟨m, hm⟩ := List.prefix_of_prefix_length_le hpre hx hle
        exact ⟨m, hm.symm⟩
      have heq : (c :: tail) ++ after = m ++ ((c :: tail) ++ (digits ++ ['-'] ++ y)) := by
        simpa using hxy.symm
      rcases eq_nil_or_exists_append_of_occurrence hc heq with rfl | ⟨m', rfl⟩
      · exact absurd (digits_dash_iff.mpr ⟨digits, hne, hdigit, y, by simpa using heq.symm⟩) hmiss
      · exact ⟨m', y, by simp⟩

/-- **The search is complete**: it answers yes exactly when a volume name occurs. -/
theorem containsVolumeReference_iff {value : String} :
    containsVolumeReference value ↔ NamesGuestVolume value := by
  have hlist (pat : String) {rest : List Char} :
      (∃ digits, digits ≠ [] ∧ (∀ c ∈ digits, c.isDigit) ∧
        pat.toList ++ (digits ++ ['-']) <:+: rest) ↔
      ∃ digits, IsDigits digits ∧ (pat ++ digits ++ "-").toList <:+: rest := by
    constructor
    · rintro ⟨digits, hne, hdigit, hin⟩
      exact ⟨String.ofList digits, ⟨by simpa using hne, by simpa using hdigit⟩, by simpa using hin⟩
    · rintro ⟨digits, ⟨hne, hdigit⟩, hin⟩
      exact ⟨digits.toList, by simpa using hne, hdigit, by simpa using hin⟩
  have hvm := @volumeReferenceFrom_iff 'v' ['m', '-'] value.toList (by decide) (by simp)
  have hbase := @volumeReferenceFrom_iff 'b' ['a', 's', 'e', '-'] value.toList (by decide) (by simp)
  rw [containsVolumeReference, Bool.or_eq_true, NamesGuestVolume]
  simp only [List.mem_cons, List.not_mem_nil, or_false, exists_eq_or_imp, exists_eq_left]
  exact or_congr (hvm.trans (hlist "vm-")) (hbase.trans (hlist "base-"))

/-! ### The first field of a disk value -/

/-- A colon in the first field is the first colon of the value, and what stands behind it in that
field is the first field behind it. -/
private theorem splitOnce_of_first_field {value first storage size : String}
    {options : List String} (hfields : fields value ',' = first :: options)
    (hcut : splitOnce first ':' = some (storage, size)) :
    ∃ rest, splitOnce value ':' = some (storage, rest) ∧ fields rest ',' = size :: options := by
  obtain ⟨hstorage, hfirst⟩ := splitOnce_eq_some_iff.mp hcut
  have hsplit : value.toList.splitOn ',' = first.toList :: options.map String.toList := by
    have := congrArg (List.map String.toList) hfields
    simpa [fields, List.map_map, Function.comp_def] using this
  obtain ⟨tail, hvalue⟩ : ∃ tail, value.toList = first.toList ++ tail := by
    have : [','].intercalate (value.toList.splitOn ',') = value.toList :=
      List.intercalate_splitOn ','
    rw [hsplit] at this
    cases hoptions : options.map String.toList with
    | nil => exact ⟨[], by simp_all⟩
    | cons second others => 
      exact ⟨_, by rw [← this, hoptions, List.intercalate_cons_cons, List.append_assoc]⟩
  have hcomma : ',' ∉ first.toList := notMem_of_mem_fields (hfields ▸ List.mem_cons_self)
  rw [hvalue, splitOn_append_of_notMem hcomma] at hsplit
  refine ⟨String.ofList (size.toList ++ tail), splitOnce_eq_some_iff.mpr ⟨hstorage, ?_⟩, ?_⟩
  · simp [hvalue, hfirst]
  · have hsize : ',' ∉ size.toList := fun h => hcomma (by simp [hfirst, h])
    rw [fields, String.toList_ofList, splitOn_append_of_notMem hsize]
    cases hparts : tail.splitOn ',' with
    | nil => simp [hparts] at hsplit
    | cons part others =>
      obtain ⟨hpart, hothers⟩ := List.cons.inj (hparts ▸ hsplit)
      have : part = [] := by simpa using hpart
      simp [this, hothers, List.map_map, Function.comp_def]

/-- A digit is none of the characters that end a name. -/
private theorem notMem_of_isBareSize {size : String} (h : isBareSize size) {c : Char}
    (hdigit : c.isDigit = false) (hdot : c ≠ '.') : c ∉ size.toList := by
  intro hc
  have hall := List.all_eq_true.mp (Bool.and_eq_true_iff.mp h).2 c hc
  simp [hdigit, hdot] at hall

private theorem isBareSize_of_isSize {size : String} (h : IsSize size) : isBareSize size := by
  have hrun {text : String} (htext : IsDigits text) :
      ∀ c ∈ text.toList, (c.isDigit || c == '.') = true := fun c hc => by simp [htext.2 c hc]
  have hbare (hne : size ≠ "") (hall : ∀ c ∈ size.toList, (c.isDigit || c == '.') = true) :
      isBareSize size := by simpa [isBareSize, hne] using hall
  rw [IsSize] at h
  rcases hsplit : splitOnce size '.' with _ | ⟨whole, fraction⟩
  · rw [hsplit] at h
    exact hbare h.1 (hrun h)
  · rw [hsplit] at h
    obtain ⟨-, hsize⟩ := splitOnce_eq_some_iff.mp hsplit
    refine hbare (fun hempty => by simp [hempty] at hsize) fun c hc => ?_
    rw [hsize, List.mem_append, List.mem_cons] at hc
    rcases hc with hc | rfl | hc
    · exact hrun h.1 c hc
    · rfl
    · exact hrun h.2 c hc

/-! ### Which accepted values are safe -/

/-- A field without an equals sign has no key. -/
private theorem fieldKey_eq_none {field : String} (h : '=' ∉ field.toList) :
    fieldKey field = none := by
  rw [fieldKey, splitOnce_eq_none_iff.mpr h, Option.map_none]

/-- A field with a colon before any equals sign has none of the forbidden keys. -/
private theorem fieldKey_ne_of_colon {field storage rest forbidden : String}
    (hcut : splitOnce field ':' = some (storage, rest)) (hstorage : '=' ∉ storage.toList)
    (hforbidden : ':' ∉ forbidden.toList) : fieldKey field ≠ some forbidden := by
  intro hkey
  obtain ⟨⟨key, v⟩, hsplit, rfl⟩ := Option.map_eq_some_iff.mp hkey
  obtain ⟨hkey, hfield⟩ := splitOnce_eq_some_iff.mp hsplit
  obtain ⟨-, hfield'⟩ := splitOnce_eq_some_iff.mp hcut
  have hmem : ':' ∈ key.toList := by
    rcases List.append_eq_append_iff.mp (hfield'.symm.trans hfield) with
      ⟨m, hkeym, hm⟩ | ⟨m, hstoragem, hm⟩
    · cases m with
      | nil => simp at hm
      | cons c m => simp [hkeym, ← (List.cons.inj hm).1]
    · cases m with
      | nil => simp at hm
      | cons c m => exact absurd (by simp [hstoragem, ← (List.cons.inj hm).1]) hstorage
  exact hforbidden (mem_toAsciiLowercase (mem_trim hmem (by decide)) (by decide))

/-- A forbidden option and a forbidden key are the same thing. -/
private theorem fieldKey_ne_of_optionKey {field forbidden : String}
    (h : optionKey field ≠ forbidden) : fieldKey field ≠ some forbidden := by
  intro hkey
  obtain ⟨⟨key, v⟩, hsplit, rfl⟩ := Option.map_eq_some_iff.mp hkey
  exact h (by rw [optionKey, hsplit])

/-- The condition holds of every safe value: a safe value's first field is a storage name, a
colon, and a number, the word `cloudinit` or an image. -/
theorem SafeDisk.plainVolume {value : String} (h : SafeDisk value) : PlainVolume value := by
  rcases h.shape with ⟨storage, size, options, hfields, hstorage, hsize⟩ | hnone |
    ⟨storage, hstorage, rfl⟩ | ⟨storage, name, hstorage, -, hcomma, rfl⟩
  · exact Or.inr ⟨_, options, storage, size, hfields,
      splitOnce_eq_some_iff.mpr ⟨hstorage.2.1, by simp⟩, hstorage, fun _ => hsize⟩
  · exact Or.inl hnone
  · refine Or.inr ⟨_, [], storage, "cloudinit", fields_eq_singleton ?_,
      splitOnce_eq_some_iff.mpr ⟨hstorage.2.1, by simp⟩, hstorage, fun hbare => ?_⟩
    · simpa using hstorage.2.2.1
    · exact absurd hbare (by decide)
  · have hfirst : ',' ∉ (storage ++ ":iso/" ++ name).toList := by
      simpa using ⟨hstorage.2.2.1, hcomma⟩
    have hsplit : splitOnce (storage ++ ":iso/" ++ name ++ ",media=cdrom") ',' =
        some (storage ++ ":iso/" ++ name, "media=cdrom") :=
      splitOnce_eq_some_iff.mpr ⟨hfirst, by simp⟩
    refine Or.inr ⟨_, _, storage, "iso/" ++ name, fields_eq_cons_of_splitOnce hsplit,
      splitOnce_eq_some_iff.mpr ⟨hstorage.2.1, by simp⟩, hstorage, fun hbare => ?_⟩
    exact absurd (by simp) (notMem_of_isBareSize hbare (c := 'i') (by decide) (by decide))

/-- A cut text is its two halves around the separator. -/
private theorem eq_of_splitOnce {field storage size : String}
    (hcut : splitOnce field ':' = some (storage, size)) : field = storage ++ ":" ++ size :=
  String.toList_inj.mp (by simpa using (splitOnce_eq_some_iff.mp hcut).2)

/-- A value whose first field has no size behind its colon allocates nothing. -/
private theorem not_freshAllocation {value first storage size : String} {options : List String}
    (hfields : fields value ',' = first :: options)
    (hcut : splitOnce first ':' = some (storage, size)) (hsize : ¬ isBareSize size) :
    ¬ FreshAllocation value := by
  rintro ⟨storage', size', options', hfields', hstorage', hsize'⟩
  obtain ⟨rfl, -⟩ := List.cons.inj (hfields.symm.trans hfields')
  have hcut' : splitOnce (storage' ++ ":" ++ size') ':' = some (storage', size') :=
    splitOnce_eq_some_iff.mpr ⟨hstorage'.2.1, by simp⟩
  obtain ⟨-, rfl⟩ := Prod.mk.inj (Option.some.inj (hcut.symm.trans hcut'))
  exact hsize (isBareSize_of_isSize hsize')

/-- The empty cdrom is safe. -/
private theorem safeDisk_none : SafeDisk "none,media=cdrom" where
  not_import := by decide
  shape := Or.inr (Or.inl rfl)
  not_volume := by
    rintro ⟨storage, size, options, hfields, -⟩
    have hfirst := (List.cons.inj ((show ["none", "media=cdrom"] = _ by decide).trans hfields)).1
    have := congrArg (fun text => ':' ∈ text.toList) hfirst
    simp at this

/-- An accepted new allocation of the plain form is safe. -/
private theorem SafeDisk.of_newAllocation {value first storage size : String}
    {options : List String} (hnew : diskValueIsNewAllocation value)
    (hfields : fields value ',' = first :: options)
    (hcut : splitOnce first ':' = some (storage, size)) (hstorage : StorageName storage)
    (hsize : isBareSize size → IsSize size) : SafeDisk value := by
  obtain ⟨rest, hvalue, hrest⟩ := splitOnce_of_first_field hfields hcut
  obtain ⟨-, hfirst⟩ := splitOnce_eq_some_iff.mp hcut
  simp only [diskValueIsNewAllocation, hvalue, hrest, Bool.and_eq_true, List.all_eq_true,
    bne_iff_ne, Bool.not_eq_true', Bool.and_eq_true] at hnew
  obtain ⟨⟨hbare, hoptions⟩, hvolume⟩ := hnew
  have hnone : fieldKey first = none := fieldKey_eq_none (by
    simpa [hfirst, hstorage.2.2.2] using notMem_of_isBareSize hbare (by decide) (by decide))
  refine ⟨fun field hfield => ?_, Or.inl ⟨storage, size, options, ?_, hstorage, hsize hbare⟩,
    fun _ field hfield hnames => ?_⟩
  · rcases List.mem_cons.mp (hfields ▸ hfield) with rfl | hfield
    · simp [hnone]
    · exact ⟨fieldKey_ne_of_optionKey (hoptions field hfield).1,
        fieldKey_ne_of_optionKey (hoptions field hfield).2⟩
  · rw [hfields, eq_of_splitOnce hcut]
  · obtain ⟨pat, hpat, digits, hdigits, hin⟩ := hnames
    have : NamesGuestVolume value :=
      ⟨pat, hpat, digits, hdigits, hin.trans (isInfix_of_mem_fields hfield)⟩
    simp [containsVolumeReference_iff.mpr this] at hvolume

/-- Accepted media of the plain form are safe. -/
private theorem SafeDisk.of_allowedMedia {value first storage size : String}
    {options : List String} (hmedia : diskValueIsAllowedMedia value)
    (hfields : fields value ',' = first :: options)
    (hcut : splitOnce first ':' = some (storage, size)) (hstorage : StorageName storage) :
    SafeDisk value := by
  have hkeys : fieldKey first ≠ some "import-from" ∧ fieldKey first ≠ some "file" :=
    ⟨fieldKey_ne_of_colon hcut hstorage.2.2.2 (by decide),
      fieldKey_ne_of_colon hcut hstorage.2.2.2 (by decide)⟩
  obtain ⟨rest, hvalue, hrest⟩ := splitOnce_of_first_field hfields hcut
  simp only [diskValueIsAllowedMedia, hvalue, Bool.or_eq_true, beq_iff_eq, Bool.and_eq_true]
    at hmedia
  rcases hmedia with (rfl | ⟨-, rfl⟩) | hiso
  · exact safeDisk_none
  · -- a cloud-init drive is one field
    obtain ⟨rfl, rfl⟩ := List.cons.inj ((show ["cloudinit"] = _ by decide).trans hrest)
    refine ⟨fun field hfield => ?_, Or.inr (Or.inr (Or.inl ⟨storage, hstorage, ?_⟩)),
      fun hfresh => absurd hfresh (not_freshAllocation hfields hcut (by decide))⟩
    · rw [hfields, List.mem_singleton] at hfield
      exact hfield ▸ hkeys
    · rw [eq_of_splitOnce hvalue, String.append_assoc]
      rfl
  · -- an image is the volume id and the one option behind it
    cases hsplit : splitOnce value ',' with
    | none => simp [hsplit] at hiso
    | some halves =>
      obtain ⟨volid, media⟩ := halves
      simp only [hsplit, Bool.and_eq_true, beq_iff_eq] at hiso
      obtain ⟨rfl, hkind⟩ := hiso
      have hparts := fields_eq_cons_of_splitOnce hsplit
      obtain ⟨rfl, rfl⟩ := List.cons.inj (hfields.symm.trans hparts)
      obtain ⟨-, storage', kindAndName, name, hvolid, -, hname, hne⟩ :=
        validateVolidKind_eq_ok_iff.mp (isOk_unit_iff.mp hkind)
      obtain ⟨rfl, rfl⟩ := Prod.mk.inj (Option.some.inj (hcut.symm.trans hvolid))
      obtain ⟨-, hsize⟩ := splitOnce_eq_some_iff.mp hname
      refine ⟨fun field hfield => ?_,
        Or.inr (Or.inr (Or.inr ⟨storage, name, hstorage, hne, ?_, ?_⟩)),
        fun hfresh => absurd hfresh (not_freshAllocation hfields hcut fun hbare => ?_)⟩
      · rcases List.mem_cons.mp (hfields ▸ hfield) with rfl | hfield
        · exact hkeys
        · have hmedia : fields "media=cdrom" ',' = ["media=cdrom"] := by decide
          rw [hmedia, List.mem_singleton] at hfield
          exact hfield ▸ by decide
      · intro hcomma
        refine (splitOnce_eq_some_iff.mp hsplit).1 ?_
        simp [eq_of_splitOnce hcut, hsize, hcomma]
      · refine String.toList_inj.mp ?_
        simp [(splitOnce_eq_some_iff.mp hsplit).2, eq_of_splitOnce hcut, hsize]
      · exact absurd (by simp [hsize])
          (notMem_of_isBareSize hbare (c := '/') (by decide) (by decide))

/-! ### The create guard -/

/-- A key holds one value. -/
theorem ConfigMap.get_eq_some_iff {config : ConfigMap} {key value : String} :
    config.get key = some value ↔ (key, value) ∈ config.entries := by
  rw [ConfigMap.get, List.lookup_eq_some_iff]
  constructor
  · rintro ⟨before, after, heq, -⟩
    rw [heq]
    exact List.mem_append_right _ List.mem_cons_self
  · intro hmem
    obtain ⟨before, after, heq⟩ := List.append_of_mem hmem
    refine ⟨before, after, heq, fun entry hentry => ?_⟩
    have hsorted := config.sorted
    rw [heq, List.map_append, List.pairwise_append] at hsorted
    have hlt := hsorted.2.2 entry.1 (List.mem_map_of_mem hentry) key (by simp)
    exact bne_iff_ne.mpr fun heq => String.lt_irrefl entry.1 (heq ▸ hlt)

/-- Every disk value allocates a volume or is permitted media. -/
theorem foreignVolumeKeys_eq_nil_iff {config : ConfigMap} : foreignVolumeKeys config = [] ↔
    ∀ entry ∈ config.entries, isCreateDiskKey (toAsciiLowercase entry.1) →
      diskValueIsNewAllocation entry.2 ∨ diskValueIsAllowedMedia entry.2 := by
  rw [foreignVolumeKeys, List.map_eq_nil_iff, List.filter_eq_nil_iff]
  refine forall₂_congr fun entry _ => ?_
  simp only [Bool.and_eq_true, Bool.not_eq_true', and_assoc, not_and, Bool.not_eq_false]
  refine forall_congr' fun _ => ?_
  cases diskValueIsNewAllocation entry.2 <;> simp

/-- **What the create guard accepts.** -/
theorem rejectUnsafeConfig_eq_none_iff {config : ConfigMap} : rejectUnsafeConfig config = none ↔
    (∀ entry ∈ config.entries, isAllowedCreateConfigKey entry.1) ∧
    (∀ value, config.get "unprivileged" = some value → trim value = "1") ∧
    (∀ value, config.get "ostemplate" = some value → (validateVolidKind value "vztmpl").isOk) ∧
    configHostPaths config = [] ∧ foreignVolumeKeys config = [] := by
  have hcut : rejectUnsafeConfig config = none ↔
      (config.entries.map Prod.fst).filter (fun key => !isAllowedCreateConfigKey key) = [] ∧
      ((config.get "unprivileged").any fun value => trim value != "1") = false ∧
      (config.get "ostemplate").filter (fun value => !(validateVolidKind value "vztmpl").isOk) =
        none ∧
      configHostPaths config = [] ∧ foreignVolumeKeys config = [] := by
    rw [rejectUnsafeConfig]
    split
    · next hkeys => simp [hkeys]
    · next hkeys =>
      split
      · next hprivileged => simp [hprivileged]
      · next hprivileged =>
        split
        · next value htemplate => simp [htemplate]
        · next htemplate =>
          split
          · next hpath => simp [hpath]
          · next hpath =>
            split
            · next hdisk => simp [hdisk]
            · next hdisk =>
              exact iff_of_true rfl ⟨not_not.mp hkeys, Bool.eq_false_iff.mpr hprivileged,
                Option.eq_none_iff_forall_ne_some.mpr htemplate, not_not.mp hpath, not_not.mp hdisk⟩
  rw [hcut, List.filter_eq_nil_iff, List.forall_mem_map]
  have hprivileged : ((config.get "unprivileged").any fun value => trim value != "1") = false ↔
      ∀ value, config.get "unprivileged" = some value → trim value = "1" := by
    cases config.get "unprivileged" <;> simp
  rw [hprivileged]
  simp [Option.filter_eq_none_iff]

/-- Every disk value of an accepted config passed one of the two value checks. -/
private theorem disk_accepted_of_rejectUnsafeConfig {config : ConfigMap} {key value : String}
    (haccepted : rejectUnsafeConfig config = none) (hmem : (key, value) ∈ config.entries)
    (hdisk : isCreateDiskKey (toAsciiLowercase key)) :
    diskValueIsNewAllocation value ∨ diskValueIsAllowedMedia value := by
  obtain ⟨-, -, -, -, hdisks⟩ := rejectUnsafeConfig_eq_none_iff.mp haccepted
  exact foreignVolumeKeys_eq_nil_iff.mp hdisks (key, value) hmem hdisk

/-- **Which disk values of an accepted config are safe**: exactly those whose first field is a
storage name, a colon and, for a size, a number. What the guard cuts off before the first colon
decides, since it is never looked at. -/
theorem rejectUnsafeConfig_safeDisk_iff {config : ConfigMap} {key value : String}
    (haccepted : rejectUnsafeConfig config = none) (hmem : (key, value) ∈ config.entries)
    (hdisk : isCreateDiskKey (toAsciiLowercase key)) : SafeDisk value ↔ PlainVolume value := by
  refine ⟨SafeDisk.plainVolume, ?_⟩
  rintro (rfl | ⟨first, options, storage, size, hfields, hcut, hstorage, hsize⟩)
  · exact safeDisk_none
  · rcases disk_accepted_of_rejectUnsafeConfig haccepted hmem hdisk with hnew | hmedia
    · exact SafeDisk.of_newAllocation hnew hfields hcut hstorage hsize
    · exact SafeDisk.of_allowedMedia hmedia hfields hcut hstorage

/-! ### The update guard -/

theorem isNumberedKey_iff {lower pre : String} :
    isNumberedKey lower pre ↔ ∃ digits, IsDigits digits ∧ lower = pre ++ digits := by
  rw [isNumberedKey]
  cases hrest : stripPrefix lower pre with
  | none =>
    refine iff_of_false (by simp) ?_
    rintro ⟨digits, -, hlower⟩
    rw [stripPrefix_eq_some_iff.mpr hlower] at hrest
    cases hrest
  | some rest =>
    have hlower := stripPrefix_eq_some_iff.mp hrest
    simp only [Bool.and_eq_true, Bool.not_eq_true', String.isEmpty_eq_false_iff, List.all_eq_true]
    constructor
    · exact fun hdigits => ⟨rest, hdigits, hlower⟩
    · rintro ⟨digits, hdigits, heq⟩
      obtain rfl : digits = rest := by
        rw [heq, ← String.toList_inj, String.toList_append, String.toList_append] at hlower
        exact String.toList_inj.mp (List.append_cancel_left hlower)
      exact hdigits

theorem configHostPaths_eq_nil_iff {config : ConfigMap} : configHostPaths config = [] ↔
    ∀ entry ∈ config.entries, ∀ field ∈ fields entry.2 ',',
    ¬ startsWith (fieldValue field) "/" := by
  rw [configHostPaths, List.map_eq_nil_iff, List.filter_eq_nil_iff]
  refine forall₂_congr fun entry _ => ?_
  rw [List.any_eq_true]
  push Not
  rfl

/-- **What the update guard accepts.** -/
theorem rejectUnsafeVmConfig_eq_none_iff {config : ConfigMap} : rejectUnsafeVmConfig config = none ↔
    (∀ entry ∈ config.entries, ¬ eqIgnoreAsciiCase entry.1 "cipassword") ∧
    (∀ entry ∈ config.entries,
      startsWith (toAsciiLowercase entry.1) "net" ∨ isAllowedVmConfigKey entry.1) ∧
    (∀ entry ∈ config.entries, startsWith (toAsciiLowercase entry.1) "net" →
      ∃ field ∈ fields entry.2 ',', eqIgnoreAsciiCase (trim field) "firewall=1") ∧
    configHostPaths config = [] := by
  have hcut : rejectUnsafeVmConfig config = none ↔
      (config.entries.map Prod.fst).find? (fun key => eqIgnoreAsciiCase key "cipassword") = none ∧
      (config.entries.map Prod.fst).filter (fun key =>
        !startsWith (toAsciiLowercase key) "net" && !isAllowedVmConfigKey key) = [] ∧
      config.entries.find? (fun entry => startsWith (toAsciiLowercase entry.1) "net" &&
        !(fields entry.2 ',').any fun field => eqIgnoreAsciiCase (trim field) "firewall=1") = none ∧
      configHostPaths config = [] := by
    rw [rejectUnsafeVmConfig]
    split
    · next key hkey => simp [hkey]
    · next hkey =>
      split
      · next hkeys => simp [hkeys]
      · next hkeys =>
        split
        · next key value hnet => simp [hnet]
        · next hnet =>
          split
          · next hpath => simp [hpath]
          · next hpath =>
            exact iff_of_true rfl ⟨Option.eq_none_iff_forall_ne_some.mpr hkey, not_not.mp hkeys,
              Option.eq_none_iff_forall_ne_some.mpr fun entry => hnet entry.1 entry.2,
              not_not.mp hpath⟩
  rw [hcut, List.find?_eq_none, List.filter_eq_nil_iff, List.find?_eq_none, List.forall_mem_map,
    List.forall_mem_map]
  simp [or_iff_not_imp_left]

/-- A config with one disk. -/
def oneDisk (value : String) : ConfigMap := ⟨[("scsi0", value)], by simp⟩

private theorem volumeReferenceFrom_eq_false {pat rest : List Char} {hpat : pat ≠ []}
    (h : dropThrough pat rest = none) : volumeReferenceFrom pat hpat rest = false := by
  rw [volumeReferenceFrom]
  split <;> simp_all

/-- A bare size under a text that names no volume passes the guard. -/
private theorem rejectUnsafeConfig_oneDisk {value : String} (pre size : String)
    (hcut : splitOnce value ':' = some (pre, size)) (hsize : fields size ',' = [size])
    (hbare : isBareSize size) (hpath : configHostPaths (oneDisk value) = [])
    (hvm : dropThrough "vm-".toList value.toList = none)
    (hbase : dropThrough "base-".toList value.toList = none) :
    rejectUnsafeConfig (oneDisk value) = none := by
  have hvolume : containsVolumeReference value = false := by
    rw [containsVolumeReference, volumeReferenceFrom_eq_false hvm,
      volumeReferenceFrom_eq_false hbase, Bool.or_false]
  have hnew : diskValueIsNewAllocation value := by
    simp [diskValueIsNewAllocation, hcut, hsize, hbare, hvolume]
  have hforeign : foreignVolumeKeys (oneDisk value) = [] := by
    simp [foreignVolumeKeys, oneDisk, hnew]
  have hkeys : ((oneDisk value).entries.map Prod.fst).filter
      (fun key => !isAllowedCreateConfigKey key) = [] := by
    change ["scsi0"].filter _ = []
    decide
  have hvalues : (oneDisk value).get "unprivileged" = none ∧
      (oneDisk value).get "ostemplate" = none := ⟨rfl, rfl⟩
  simp only [rejectUnsafeConfig, hkeys, hpath, hforeign, hvalues]
  rfl

theorem rejectUnsafeConfig_safeDisk_iff_fresh :
    rejectUnsafeConfig (oneDisk "local-lvm:32") = none ∧
      (SafeDisk "local-lvm:32" ↔ PlainVolume "local-lvm:32") := by
  have haccepted : rejectUnsafeConfig (oneDisk "local-lvm:32") = none :=
    rejectUnsafeConfig_oneDisk "local-lvm" "32" (by decide) (by decide)
      (by decide) (by decide) (by decide) (by decide)
  exact ⟨haccepted, rejectUnsafeConfig_safeDisk_iff haccepted (List.mem_singleton.mpr rfl)
    (by decide)⟩

/-- The guard accepts an import whose option stands in front of the first colon. -/
theorem rejectUnsafeConfig_accepts_import :
    rejectUnsafeConfig (oneDisk "import-from=local-lvm:32") = none ∧
      ("scsi0", "import-from=local-lvm:32") ∈ (oneDisk "import-from=local-lvm:32").entries ∧
      isCreateDiskKey (toAsciiLowercase "scsi0") ∧ ¬ SafeDisk "import-from=local-lvm:32" := by
  have haccepted : rejectUnsafeConfig (oneDisk "import-from=local-lvm:32") = none :=
    rejectUnsafeConfig_oneDisk "import-from=local-lvm" "32" (by decide)
      (by decide) (by decide) (by decide) (by decide) (by decide)
  refine ⟨haccepted, List.mem_singleton.mpr rfl, by decide, fun hsafe => ?_⟩
  exact (hsafe.not_import "import-from=local-lvm:32" (by decide)).1 (by decide)

end ProxmoxMcp
