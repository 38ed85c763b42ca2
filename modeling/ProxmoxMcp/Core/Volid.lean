import ProxmoxMcp.Core.Error
import ProxmoxMcp.Text

/-!
# Volume ids

A Proxmox volume id is `storage:kind/name`. Both validators read the storage up to the **first**
colon and the content kind up to the first slash after it; `validateVolidForOperation`
additionally binds the storage to the one the request addresses.
-/

namespace ProxmoxMcp

open Text ProxmoxError

/-- The checks both validators and the deletion itself make before reading any part. -/
def rejectUnusableVolid (volid : String) : Except ProxmoxError Unit := do
  if volid.isEmpty then
    throw (malformed "volid is empty")
  if contains volid ".." then
    throw (malformed "volid contains '..', which cannot name a Proxmox volume")
  if volid.toList.any isControl then
    throw (malformed "volid contains a control character")

theorem malformed_of_rejectUnusableVolid {volid : String} {error : ProxmoxError}
    (h : rejectUnusableVolid volid = .error error) : ∃ text, error = malformed text := by
  simp only [rejectUnusableVolid, throw, throwThe, MonadExceptOf.throw, bind, Except.bind, pure,
    Except.pure] at h
  repeat' split at h
  all_goals first | exact ⟨_, (Except.error.inj h).symm⟩ | simp_all

theorem ne_empty_of_rejectUnusableVolid {volid : String} (h : rejectUnusableVolid volid = .ok ()) :
    volid ≠ "" := by
  rintro rfl
  cases h

/-- The content kind between the storage prefix and the name has to be the expected one. -/
def validateKindAndName (kindAndName expectedKind : String) : Except ProxmoxError Unit := do
  let some (kind, name) := splitOnce kindAndName '/'
    | throw (malformed "volid does not contain '/' separating kind from name")
  if name.isEmpty then
    throw (malformed "volid names no volume after its content kind")
  if kind ≠ expectedKind then
    throw (malformed s!"volid has content kind '{kind}' but operation expects '{expectedKind}'")

/-- Validate only a volid's content kind, without storage binding. -/
def validateVolidKind (volid expectedKind : String) : Except ProxmoxError Unit := do
  rejectUnusableVolid volid
  let some (storage, kindAndName) := splitOnce volid ':'
    | throw (malformed "volid is not in storage:kind/name form")
  if storage.isEmpty then
    throw (malformed "volid has an empty storage prefix")
  validateKindAndName kindAndName expectedKind

/-- Validate a volid's content kind and storage prefix. -/
def validateVolidForOperation (volid storage expectedKind : String) :
    Except ProxmoxError Unit := do
  rejectUnusableVolid volid
  let some (volidStorage, kindAndName) := splitOnce volid ':'
    | throw (malformed "volid is not in storage:kind/name form")
  if volidStorage.isEmpty then
    throw (malformed "volid has an empty storage prefix")
  if volidStorage ≠ storage then
    throw (malformed
      s!"volid storage prefix '{volidStorage}' does not match storage parameter '{storage}'")
  validateKindAndName kindAndName expectedKind

theorem isOk_unit_iff {ε : Type} {outcome : Except ε Unit} :
    outcome.isOk ↔ outcome = .ok () := by
  cases outcome <;> simp [Except.isOk, Except.toBool]

private theorem validateKindAndName_eq_ok_iff {kindAndName kind : String} :
    validateKindAndName kindAndName kind = .ok () ↔
      ∃ name, splitOnce kindAndName '/' = some (kind, name) ∧ name ≠ "" := by
  rw [validateKindAndName]
  rcases splitOnce kindAndName '/' with _ | ⟨kind', name'⟩
  · simp [throw, throwThe, MonadExceptOf.throw]
  · by_cases hname : name' = "" <;> by_cases hkind : kind' = kind <;>
      simp [hname, hkind, throw, throwThe, MonadExceptOf.throw, pure, Except.pure, bind,
        Except.bind]

/-- What the kind check accepts: a storage, the expected kind, and a name. -/
theorem validateVolidKind_eq_ok_iff {volid kind : String} :
    validateVolidKind volid kind = .ok () ↔
      rejectUnusableVolid volid = .ok () ∧ ∃ storage kindAndName name,
        splitOnce volid ':' = some (storage, kindAndName) ∧ storage ≠ "" ∧
        splitOnce kindAndName '/' = some (kind, name) ∧ name ≠ "" := by
  rw [validateVolidKind]
  rcases rejectUnusableVolid volid with error | ⟨⟩
  · simp [bind, Except.bind]
  · rcases splitOnce volid ':' with _ | ⟨storage, kindAndName⟩
    · simp [bind, Except.bind, throw, throwThe, MonadExceptOf.throw]
    · by_cases hstorage : storage = ""
      · simp [bind, Except.bind, throw, throwThe, MonadExceptOf.throw, hstorage]
      · simp [bind, Except.bind, hstorage, validateKindAndName_eq_ok_iff]

/-- The operation check is the kind check with the storage bound to the request's. -/
theorem validateVolidForOperation_eq_ok_iff {volid storage kind : String} :
    validateVolidForOperation volid storage kind = .ok () ↔
      validateVolidKind volid kind = .ok () ∧ (splitOnce volid ':').map Prod.fst =
      some storage := by
  rw [validateVolidForOperation, validateVolidKind]
  rcases rejectUnusableVolid volid with error | ⟨⟩
  · simp [bind, Except.bind]
  · rcases splitOnce volid ':' with _ | ⟨volidStorage, kindAndName⟩
    · simp [bind, Except.bind, throw, throwThe, MonadExceptOf.throw]
    · by_cases hempty : volidStorage = ""
      · simp [bind, Except.bind, throw, throwThe, MonadExceptOf.throw, hempty]
      · by_cases hstorage : volidStorage = storage <;>
          simp [bind, Except.bind, throw, throwThe, MonadExceptOf.throw, hempty, hstorage]

/-- A volume id that was checked for an operation is one that its deletion takes. -/
theorem deletable_of_validateVolidForOperation {volid storage kind : String}
    (h : validateVolidForOperation volid storage kind = .ok ()) :
    rejectUnusableVolid volid = .ok () ∧ contains volid ":" = true := by
  obtain ⟨hkind, -⟩ := validateVolidForOperation_eq_ok_iff.mp h
  obtain ⟨husable, storage', rest, -, hsplit, -⟩ := validateVolidKind_eq_ok_iff.mp hkind
  obtain ⟨-, htext⟩ := splitOnce_eq_some_iff.mp hsplit
  refine ⟨husable, contains_iff.mpr ⟨storage'.toList, rest.toList, ?_⟩⟩
  rw [htext]
  simp

example : validateVolidKind "local:iso/debian.iso" "iso" = .ok () := by decide

end ProxmoxMcp
