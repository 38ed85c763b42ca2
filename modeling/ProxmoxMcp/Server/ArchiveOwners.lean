import ProxmoxMcp.Server.ClaimedApplies
import ProxmoxMcp.Server.PinnedArchives

/-!
# Archives and their owners

The name of an archive says nothing about whose it is. What counts is the listing of the storage it
lies on: `ListsOwner` reads off a listing which guest an archive belongs to, by the **first** entry
with the archive's id. A listing that is unreadable, does not have the archive, or gives no owner or
one that is no vmid names nobody (`noOwner_iff`).

A request that deletes an archive, restores it over a guest or copies it into a new one is sent only
after a listing fetched by the same call has named the owner the record demands (`bindsOwners`).
-/

namespace ProxmoxMcp

open Interaction Text ProxmoxServer
open Program hiding bind

/-! ### What a listing says -/

/-- The first entry of a listing with the archive's id gives this owner, as a number or as the text
of one. -/
def ListsOwner (volid : String) (vmid : UInt32) (data : Json) : Prop :=
  ∃ before entry after, data = .array (before ++ entry :: after) ∧
    (∀ other ∈ before, other.getStr "volid" ≠ some volid) ∧
    entry.getStr "volid" = some volid ∧ Guests.ownerOf entry = some vmid.toUInt64

/-- A listing names no owner of the archive. -/
inductive NoOwner (volid : String) : Json → Prop
  | unreadable {data : Json} (notArray : data.asArray = none) : NoOwner volid data
  | absent {entries : List Json} (absent : ∀ entry ∈ entries, entry.getStr "volid" ≠ some volid) :
      NoOwner volid (.array entries)
  | ownerless {before after : List Json} {entry : Json}
      (first : ∀ other ∈ before, other.getStr "volid" ≠ some volid)
      (found : entry.getStr "volid" = some volid) (owner : Guests.ownerOf entry = none) :
      NoOwner volid (.array (before ++ entry :: after))
  | outside {before after : List Json} {entry : Json} {owner : UInt64}
      (first : ∀ other ∈ before, other.getStr "volid" ≠ some volid)
      (found : entry.getStr "volid" = some volid) (gives : Guests.ownerOf entry = some owner)
      (large : UInt32.size ≤ owner.toNat) : NoOwner volid (.array (before ++ entry :: after))

/-- An entry is the first with an id when it is the one that is found. -/
private theorem find?_volid_eq_some_iff {volid : String} {entries : List Json} {entry : Json} :
    (entries.find? fun entry => entry.getStr "volid" == some volid) = some entry ↔
      entry.getStr "volid" = some volid ∧ ∃ before after, entries = before ++ entry :: after ∧
        ∀ other ∈ before, other.getStr "volid" ≠ some volid := by
  rw [List.find?_eq_some_iff_append]
  simp

private theorem find?_volid_of_first {volid : String} {before after : List Json} {entry : Json}
    (hfirst : ∀ other ∈ before, other.getStr "volid" ≠ some volid)
    (hfound : entry.getStr "volid" = some volid) :
    ((before ++ entry :: after).find? fun entry => entry.getStr "volid" == some volid) =
      some entry :=
  find?_volid_eq_some_iff.mpr ⟨hfound, before, after, rfl, hfirst⟩

private theorem listsOwner_iff {volid : String} {vmid : UInt32} {data : Json} :
    ListsOwner volid vmid data ↔ ∃ entries entry, data = .array entries ∧
      (entries.find? fun entry => entry.getStr "volid" == some volid) = some entry ∧
      Guests.ownerOf entry = some vmid.toUInt64 := by
  constructor
  · rintro ⟨before, entry, after, rfl, hfirst, hvolid, howner⟩
    exact ⟨_, entry, rfl, find?_volid_of_first hfirst hvolid, howner⟩
  · rintro ⟨entries, entry, rfl, hfind, howner⟩
    obtain ⟨hvolid, before, after, rfl, hfirst⟩ := find?_volid_eq_some_iff.mp hfind
    exact ⟨before, entry, after, rfl, hfirst, hvolid, howner⟩

/-- A 64-bit number that fits 32 bits is the one it is cut to. -/
private theorem toUInt64_toUInt32 {number : UInt64} (h : number.toNat < UInt32.size) :
    number.toUInt32.toUInt64 = number := by
  have hmod : number.toNat % UInt32.size = number.toNat := Nat.mod_eq_of_lt h
  apply UInt64.toNat_inj.mp
  rw [UInt32.toNat_toUInt64, UInt64.toNat_toUInt32]
  exact hmod

/-- **Reading an owner** succeeds exactly with the owner the listing names. -/
theorem readBackupOwner_eq_ok_iff {node storage volid : String} {data : Json} {vmid : UInt32} :
    Guests.readBackupOwner node storage volid data = .ok vmid ↔ ListsOwner volid vmid data := by
  rw [listsOwner_iff, Guests.readBackupOwner]
  constructor
  · intro hread
    cases data with
    | array entries =>
      cases hfind : entries.find? fun entry => entry.getStr "volid" == some volid with
      | none => simp [Json.asArray, hfind, throw, throwThe, MonadExceptOf.throw] at hread
      | some entry =>
        cases howner : Guests.ownerOf entry with
        | none => simp [Json.asArray, hfind, howner, throw, throwThe, MonadExceptOf.throw] at hread
        | some owner =>
          simp only [Json.asArray, hfind, howner] at hread
          split_ifs at hread with hfits
          · have hvmid : owner.toUInt32 = vmid := Except.ok.inj hread
            rw [← toUInt64_toUInt32 hfits, hvmid] at howner
            exact ⟨entries, entry, rfl, hfind, howner⟩
    | _ => simp [Json.asArray, throw, throwThe, MonadExceptOf.throw] at hread
  · rintro ⟨entries, entry, rfl, hfind, howner⟩
    have hfits : vmid.toUInt64.toNat < UInt32.size := by
      rw [UInt32.toNat_toUInt64]
      exact vmid.toNat_lt
    simp only [Json.asArray, hfind, howner, hfits, if_true, UInt32.toUInt32_toUInt64]
    rfl

/-- A listing names some owner or none. -/
theorem noOwner_iff {volid : String} {data : Json} :
    NoOwner volid data ↔ ∀ vmid, ¬ ListsOwner volid vmid data := by
  constructor
  · intro hnone vmid hlists
    obtain ⟨entries, entry, rfl, hfind, howner⟩ := listsOwner_iff.mp hlists
    cases hnone with
    | unreadable hnotArray => cases hnotArray
    | absent habsent =>
      obtain ⟨hvolid, -⟩ := find?_volid_eq_some_iff.mp hfind
      exact habsent entry (List.mem_of_find?_eq_some hfind) hvolid
    | ownerless hfirst hfound hownerless =>
      rw [find?_volid_of_first hfirst hfound, Option.some.injEq] at hfind
      rw [← hfind, hownerless] at howner
      cases howner
    | outside hfirst hfound hgives hlarge =>
      rw [find?_volid_of_first hfirst hfound, Option.some.injEq] at hfind
      rw [← hfind, hgives, Option.some.injEq] at howner
      have hlt : vmid.toUInt64.toNat < UInt32.size := by
        rw [UInt32.toNat_toUInt64]
        exact vmid.toNat_lt
      rw [howner] at hlarge
      omega
  · intro hnone
    -- the first entry of the archive decides, as the source reads only that one
    cases data with
    | array entries =>
      cases hfind : entries.find? fun entry => entry.getStr "volid" == some volid with
      | none =>
        refine .absent fun entry hentry => ?_
        simpa using List.find?_eq_none.mp hfind entry hentry
      | some entry =>
        obtain ⟨hvolid, before, after, rfl, hfirst⟩ := find?_volid_eq_some_iff.mp hfind
        cases howner : Guests.ownerOf entry with
        | none => exact .ownerless hfirst hvolid howner
        | some owner =>
          by_cases hfits : owner.toNat < UInt32.size
          · rw [← toUInt64_toUInt32 hfits] at howner
            exact absurd ⟨before, entry, after, rfl, hfirst, hvolid, howner⟩ (hnone _)
          · exact .outside hfirst hvolid howner (not_lt.mp hfits)
    | _ => exact .unreadable rfl

/-- A volume id of the content kind `backup` on a storage. -/
def IsBackupOn (storage volid : String) : Prop :=
  ∃ kindAndName name, splitOnce volid ':' = some (storage, kindAndName) ∧
    splitOnce kindAndName '/' = some ("backup", name)

/-! ### What a call has to have seen -/

variable [Externals]

/-- A listing of the storage that the call has fetched names the owner of the archive. -/
def Vouched (client node storage volid : String) (vmid : UInt32) (h : History Effect) : Prop :=
  ∃ response data, Replied client (Guests.backupListingRequest node storage) response h ∧
    ProxmoxClient.readAnswer response = .ok data ∧ ListsOwner volid vmid data

theorem OwnerListed.vouched {client node volid : String} {vmid : UInt32} {h : History Effect}
    (hlisted : OwnerListed client node volid vmid h) : ∃ storage path,
      splitOnce volid ':' = some (storage, path) ∧ Vouched client node storage volid vmid h := by
  obtain ⟨storage, path, response, data, hsplit, hreplied, hanswer, hread⟩ := hlisted
  exact ⟨storage, path, hsplit, response, data, hreplied, hanswer,
    readBackupOwner_eq_ok_iff.mp hread⟩

/-- A request that restores an archive. -/
def RestoresArchive (request : ApiRequest) : Prop :=
  ∃ node kind vmid archive force, request = Guests.restoreBackupRequest node kind vmid archive force

/-- What an apply of a destructive change set sends: it deletes a backup, and restores an archive
over the guest, only when the storage names that guest. -/
def DestroyBindsOwner (args : ChangeSetArgs) (h : History Effect) (op : Op) : Prop :=
  ∀ client request, op = .http (.dispatch client request) → request.Mutating →
    ∃ record action, RecordRead args.changeSetId args.device record h ∧
      record.actions.head?.bind DestroyAction.fromJson = some action ∧
      (action.op = "delete_backup" → ∃ node storage volid path,
        action.storageNode = some node ∧ action.storage = some storage ∧
        action.volid = some volid ∧ Externals.expandPath Guests.contentTemplate
          [("node", node), ("storage", storage)] = .ok path ∧
        request = Guests.deleteVolumeRequest path volid ∧ IsBackupOn storage volid ∧
        Vouched client node storage volid args.vmid h) ∧
      (action.op = "restore_backup" ∨ RestoresArchive request → ∃ node kind storage volid,
        action.volid = some volid ∧
        request = Guests.restoreBackupRequest node kind args.vmid volid true ∧
        IsBackupOn storage volid ∧ Vouched client node storage volid args.vmid h)

/-- What an apply of a restore into a new vmid sends: the restore of the recorded archive, when the
storage names the recorded owner. -/
def RestoreBindsOwner (args : ChangeSetArgs) (h : History Effect) (op : Op) : Prop :=
  ∀ client request, op = .http (.dispatch client request) → request.Mutating →
    ∃ record action kind storage path, RecordRead args.changeSetId args.device record h ∧
      record.actions.head?.bind RestoreNewVmidAction.fromJson = some action ∧
      request = Guests.restoreBackupRequest action.node kind args.vmid action.volid false ∧
      splitOnce action.volid ':' = some (storage, path) ∧
      Vouched client action.node storage action.volid action.ownerVmid h

/-- What a plan of such a restore records: the owner the storage names at that time. -/
def PlanRecordsOwner (args : PlanRestoreNewVmidArgs) (h : History Effect) (op : Op) : Prop :=
  ∀ device actions planner fingerprint policy,
    op = .coordinator (.createChangeSet device actions planner fingerprint policy) →
      ∃ action storage path, actions = [RestoreNewVmidAction.toJson action] ∧
        splitOnce args.volid ':' = some (storage, path) ∧
        Vouched args.cluster args.node storage args.volid action.ownerVmid h

/-- **Archives are bound to their owners** by the handlers of a server. -/
structure BindsOwners (server : ProxmoxServer) : Prop where
  destroy : ∀ caller (args : ChangeSetArgs),
    Ensures (DestroyBindsOwner args) (fun _ _ => True) [] (server.applyChangeSet caller args)
  restore : ∀ caller (args : ChangeSetArgs),
    Ensures (RestoreBindsOwner args) (fun _ _ => True) []
      (server.applyRestoreNewVmid caller args)
  plan : ∀ caller (args : PlanRestoreNewVmidArgs),
    Ensures (PlanRecordsOwner args) (fun _ _ => True) [] (server.planRestoreNewVmid caller args)

section Rules

variable {server : ProxmoxServer} {caller : Option CallerCtx} {h : History Effect}

omit [Externals] in
/-- The checked volume id of a deleted backup. -/
private theorem isBackupOn_of_recheckValues_delete {action : DestroyAction} {volid storage : String}
    (hop : action.op = "delete_backup") (hvolid : action.volid = some volid)
    (hstorage : action.storage = some storage) (hvalues : recheckValues action = .ok ()) :
    IsBackupOn storage volid := by
  have hchecked := validateVolid_of_recheckValues (.inl hop) hvolid hstorage hvalues
  rw [hop] at hchecked
  obtain ⟨hkind, hprefix⟩ := validateVolidForOperation_eq_ok_iff.mp hchecked
  obtain ⟨-, storage', rest, name, hsplit, -, hrest, -⟩ := validateVolidKind_eq_ok_iff.mp hkind
  rw [hsplit, Option.map_some, Option.some.injEq] at hprefix
  obtain rfl : storage' = storage := hprefix
  exact ⟨rest, name, hsplit, hrest⟩

omit [Externals] in
/-- The checked volume id of a restored archive. -/
private theorem isBackupOn_of_recheckValues_restore {action : DestroyAction}
    {volid storage path : String}
    (hop : action.op = "restore_backup") (hvolid : action.volid = some volid)
    (hsplit : splitOnce volid ':' = some (storage, path))
    (hvalues : recheckValues action = .ok ()) : IsBackupOn storage volid := by
  simp only [recheckValues, hop, hvolid] at hvalues
  have hkind := eq_ok_of_mapError hvalues
  obtain ⟨-, storage', rest, name, hsplit', -, hrest, -⟩ := validateVolidKind_eq_ok_iff.mp hkind
  rw [hsplit, Option.some.injEq, Prod.mk.injEq] at hsplit'
  obtain ⟨rfl, rfl⟩ := hsplit'
  exact ⟨path, name, hsplit, hrest⟩

omit [Externals] in
/-- Only a restore of an archive is sent to the path of one. -/
private theorem op_of_restoresArchive {client : String} {action : DestroyAction} {kind : GuestType}
    {node : String} {vmid : UInt32} {request : ApiRequest} [Externals]
    (hrequest : DestructiveRequest client action kind node vmid h request)
    (hrestores : RestoresArchive request) : action.op = "restore_backup" := by
  obtain ⟨node', kind', vmid', archive, force, rfl⟩ := hrestores
  generalize hsame : Guests.restoreBackupRequest node' kind' vmid' archive force =
    request at hrequest
  have hmethod := congrArg ApiRequest.method hsame
  have htemplate := congrArg ApiRequest.pathTemplate hsame
  cases hrequest with
  | restoreBackup op _ _ => exact op
  | destroyContainer => cases hmethod
  | destroyVm => cases hmethod
  | deleteSnapshot => cases hmethod
  | deleteVolume => cases hmethod
  | rollbackSnapshot =>
    simp [Guests.restoreBackupRequest, Guests.rollbackSnapshotRequest] at htemplate
  | migrate => simp [Guests.restoreBackupRequest, Guests.migrateGuestRequest] at htemplate
  | updateVmConfig => simp [Guests.restoreBackupRequest, Guests.updateVmConfigRequest] at htemplate

/-- **Deleting and overwriting.** A backup is deleted, and an archive restored over the guest, after
a listing of the storage has named that guest. -/
theorem ensures_applyChangeSet_bindsOwner (args : ChangeSetArgs) (hunsent : Unsent h) :
    Ensures (DestroyBindsOwner args) (fun _ _ => True) h (server.applyChangeSet caller args) := by
  refine (ensures_applyChangeSet args hunsent).mono ?_ fun _ _ hdone => hdone
  rintro h' op hop client request rfl hmutating
  obtain ⟨rfl, record, claimed, hready, action, authorization, hauthorized, hrequest⟩ :=
    Policy.Permits.sends hop hmutating
  have hvalues := recheckValues_of_recheckAction hauthorized.rechecked
  refine ⟨record, action, hready.reviewed.1, hauthorized.stored, fun hdelete => ?_,
    fun hrestore => ?_⟩
  · cases hrequest with
    | deleteVolume _ hstorage hvolid hnode hpath howner =>
      have hbackup := isBackupOn_of_recheckValues_delete hdelete hvolid hstorage hvalues
      obtain ⟨storage', path', hsplit, hvouched⟩ := (howner hdelete).vouched
      obtain ⟨kindAndName, name, hsplit', -⟩ := id hbackup
      rw [hsplit, Option.some.injEq, Prod.mk.injEq] at hsplit'
      obtain ⟨rfl, -⟩ := hsplit'
      exact ⟨_, _, _, _, hnode, hstorage, hvolid, hpath, rfl, hbackup, hvouched⟩
    | _ => simp_all [isGuestDestroy]
  · have hname : action.op = "restore_backup" :=
      hrestore.elim id fun hrestores => op_of_restoresArchive hrequest hrestores
    cases hrequest with
    | restoreBackup _ hvolid howner =>
      obtain ⟨storage, path, hsplit, hvouched⟩ := howner.vouched
      have hbackup := isBackupOn_of_recheckValues_restore hname hvolid hsplit hvalues
      exact ⟨_, _, storage, _, hvolid, rfl, hbackup, hvouched⟩
    | _ => simp_all [isGuestDestroy]

/-- **Copying.** An archive is restored into a new vmid after a listing of the storage has named the
owner on record. -/
theorem ensures_applyRestoreNewVmid_bindsOwner (args : ChangeSetArgs) (hunsent : Unsent h) :
    Ensures (RestoreBindsOwner args) (fun _ _ => True) h
      (server.applyRestoreNewVmid caller args) := by
  refine (ensures_applyRestoreNewVmid args hunsent).mono ?_ fun _ _ hdone => hdone
  rintro h' op hop name request rfl hmutating
  obtain ⟨rfl, record, claimed, hready, action, client, grant, kind, hauthorized, -, hrequest⟩ :=
    Policy.Permits.sends hop hmutating
  obtain ⟨storage, path, hsplit, hvouched⟩ := hauthorized.listed.vouched
  rw [hauthorized.target] at hrequest
  exact ⟨record, action, kind, storage, path, hready.reviewed.1, hauthorized.stored, hrequest,
    hsplit, hvouched⟩

/-- The owner on record is the one the storage named when the restore was planned. -/
private theorem ensures_planRestoreNewVmid_recordsOwner (args : PlanRestoreNewVmidArgs) :
    Ensures (PlanRecordsOwner args) (fun _ _ => True) h
      (server.planRestoreNewVmid caller args) := by
  refine (ensures_planRestoreNewVmid_keepsPin args).mono ?_ fun _ _ hdone => hdone
  intro h' op hop device actions planner fingerprint policy hcreate
  obtain ⟨client, action, -, hactions, hlisted, -⟩ := hop device actions planner fingerprint policy
    hcreate
  obtain ⟨storage, path, hsplit, hvouched⟩ := hlisted.vouched
  exact ⟨action, storage, path, hactions, hsplit, hvouched⟩

end Rules

/-- **Archive ownership**: what deletes an archive, overwrites a guest with it or copies it rests on
a listing that names the owner; and a listing names one exactly when it is readable, has the
archive, and gives an owner that is a vmid. -/
theorem bindsOwners (server : ProxmoxServer) :
    BindsOwners server ∧
      ∀ volid data, NoOwner volid data ↔ ∀ vmid, ¬ ListsOwner volid vmid data := by
  have hempty : Unsent [] := by simp [Unsent]
  refine ⟨⟨?destroy, ?restore, ?plan⟩, fun volid data => noOwner_iff⟩
  · exact fun caller args => ensures_applyChangeSet_bindsOwner args hempty
  · exact fun caller args => ensures_applyRestoreNewVmid_bindsOwner args hempty
  · exact fun caller args => ensures_planRestoreNewVmid_recordsOwner args

end ProxmoxMcp
