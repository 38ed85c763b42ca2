import ProxmoxMcp.Server.Previews

/-!
# Which change an approver's preview determines

Two actions on one guest that are shown by the same text send the same requests, unless they are
`Ambiguous`: **recut configs**, whose keys and values hold the characters that join the pairs, or a
**moved volume**, whose id goes on with the text that stands between an id and its node.
`previewDetermines_iff` puts this together with the lines the shown values forge.
-/

namespace ProxmoxMcp

open Interaction Text ProxmoxError PairText

variable [Externals]

/-! ### Texts that show the same -/

/-- The pairs an action sets. -/
def DestroyAction.pairs (action : DestroyAction) : List (List Char × List Char) :=
  (action.config.map ConfigMap.pairs).getD []

/-- **A moved volume**: the second id is the first one and more, and the more is what the text shows
behind the first id. -/
def MovedVolume (a b : DestroyAction) : Prop :=
  ∃ storage volid node node' extra : String, extra ≠ "" ∧
    a.storage = some storage ∧ a.volid = some volid ∧ a.storageNode = some node ∧
    b.storage = some storage ∧ b.volid = some (volid ++ extra) ∧ b.storageNode = some node' ∧
    betweenText storage ++ node = extra ++ (betweenText storage ++ node')

/-- Two actions of one operation that differ only in where the text cuts their values. -/
def Ambiguous (a b : DestroyAction) : Prop :=
  a.op = b.op ∧
    ((a.op = "update_vm_config" ∧ a.config ≠ b.config ∧ Recut '=' [',', ' '] a.pairs b.pairs) ∨
      ((a.op = "delete_backup" ∨ a.op = "delete_iso") ∧ (MovedVolume a b ∨ MovedVolume b a)))

/-- The text **determines** the change: two actions it shows send the same requests. -/
def Determines (a b : DestroyAction) (state : GuestState) (verdict : Verdict) : Prop :=
  previewOf a state verdict = previewOf b state verdict →
    ∀ kind node vmid, a.change kind node vmid = b.change kind node vmid

/-! ### What the flags of a migration do not change -/

section Flags

variable {action : DestroyAction}

omit [Externals] in
private theorem previewOf_flags (hop : action.op ≠ "migrate") (online disks : Bool)
    (state : GuestState) (verdict : Verdict) :
    previewOf { action with online := online, withLocalDisks := disks } state verdict =
      previewOf action state verdict := by
  unfold previewOf renderDestructivePreview
  dsimp only
  split
  · rfl
  · split
    case h_8 => contradiction
    all_goals rfl

private theorem change_flags (hop : action.op ≠ "migrate") (online disks : Bool) (kind : GuestType)
    (node : String) (vmid : UInt32) :
    DestroyAction.change { action with online := online, withLocalDisks := disks } kind node vmid =
      action.change kind node vmid := by
  unfold DestroyAction.change
  dsimp only
  split
  case h_8 => contradiction
  all_goals rfl

end Flags

theorem Determines.symm {a b : DestroyAction} {state : GuestState} {verdict : Verdict}
    (h : Determines a b state verdict) : Determines b a state verdict :=
  fun htext kind node vmid => (h htext.symm kind node vmid).symm

/-- Two plans about one guest with one operation. -/
structure SamePlan (args args' : PlanDestroyArgs) : Prop where
  op : args'.op = args.op
  cluster : args'.cluster = args.cluster
  vmid : args'.vmid = args.vmid

omit [Externals] in
theorem SamePlan.symm {args args' : PlanDestroyArgs} (h : SamePlan args args') :
    SamePlan args' args := ⟨h.op.symm, h.cluster.symm, h.vmid.symm⟩

omit [Externals] in
theorem SamePlan.bare_eq {args args' : PlanDestroyArgs} (h : SamePlan args args') :
    args'.bare = { args.bare with
      online := args'.online, withLocalDisks := args'.withLocalDisks } := by
  simp only [PlanDestroyArgs.bare, h.op, h.cluster, h.vmid]

/-! ### Texts and changes, operation by operation -/

section Operations

variable {args args' : PlanDestroyArgs} {a b : DestroyAction} {state : GuestState}
  {verdict : Verdict}

/-- Actions that are equal but for the flags send the same requests. -/
private theorem determines_of_flags (hop : a.op ≠ "migrate")
    (h : previewOf a state verdict = previewOf b state verdict →
      b = { a with online := b.online, withLocalDisks := b.withLocalDisks }) :
    Determines a b state verdict := by
  intro htext kind node vmid
  rw [h htext]
  exact (change_flags hop _ _ kind node vmid).symm

private theorem determines_destroy (hplan : SamePlan args args') (hop : args.op = "destroy_guest")
    (ha : buildDestroyAction args = .ok a) (hb : buildDestroyAction args' = .ok b) :
    Determines a b state verdict := by
  obtain rfl := eq_of_buildDestroyAction_destroy hop ha
  obtain rfl := eq_of_buildDestroyAction_destroy (hplan.op.trans hop) hb
  refine determines_of_flags (by simp [PlanDestroyArgs.bare, hop]) fun _ => ?_
  exact hplan.bare_eq

/-- An operation that shows one value quoted. -/
private theorem determines_of_framed {shows : String → String} (hframed : Framed '\'' '\'' shows)
    {with' : String → DestroyAction} (hop : ∀ value, (with' value).op ≠ "migrate")
    (hshows : ∀ value, previewOf (with' value) state verdict = shows value)
    {value value' : String} (online disks : Bool) :
    Determines (with' value)
      { with' value' with online := online, withLocalDisks := disks } state verdict := by
  refine determines_of_flags (hop value) fun htext => ?_
  rw [previewOf_flags (hop value'), hshows, hshows] at htext
  rw [hframed.injective htext]

private theorem determines_snapshot (hplan : SamePlan args args')
    (hop : args.op = "delete_snapshot" ∨ args.op = "rollback_snapshot")
    (ha : buildDestroyAction args = .ok a) (hb : buildDestroyAction args' = .ok b) :
    Determines a b state verdict := by
  have hop' := hop.imp (hplan.op.trans ·) (hplan.op.trans ·)
  obtain ⟨snapname, -, rfl⟩ := eq_of_buildDestroyAction_snapshot hop ha
  obtain ⟨snapname', -, rfl⟩ := eq_of_buildDestroyAction_snapshot hop' hb
  rw [hplan.bare_eq]
  rcases hop with hop | hop
  · exact determines_of_framed (framed_deleteSnapshot args state verdict hop)
      (fun _ => by simp [PlanDestroyArgs.bare, hop]) (fun _ => rfl) _ _
  · exact determines_of_framed (framed_rollbackSnapshot args state verdict hop)
      (fun _ => by simp [PlanDestroyArgs.bare, hop]) (fun _ => rfl) _ _

private theorem determines_restore (hplan : SamePlan args args') (hop : args.op = "restore_backup")
    (ha : buildDestroyAction args = .ok a) (hb : buildDestroyAction args' = .ok b) :
    Determines a b state verdict := by
  obtain ⟨volid, -, rfl⟩ := eq_of_buildDestroyAction_restore hop ha
  obtain ⟨volid', -, rfl⟩ := eq_of_buildDestroyAction_restore (hplan.op.trans hop) hb
  rw [hplan.bare_eq]
  exact determines_of_framed (framed_restore args state verdict hop)
    (fun _ => by simp [PlanDestroyArgs.bare, hop]) (fun _ => rfl) _ _

/-- What stands between the node a guest moves to and the lines of its protection. -/
def migrateText (online disks : Bool) : String :=
  "'\n  " ++ ((if online then "LIVE (guest stays running throughout)"
    else "OFFLINE (guest must be stopped)") ++ (" migration." ++
    if disks then " Node-local disks are copied along with the guest." else ""))

omit [Externals] in
private theorem exists_migrate_text (hop : args.op = "migrate") (state : GuestState)
    (verdict : Verdict) :
    ∃ front back : String, ∀ targetNode online disks, previewOf { args.bare with
        targetNode := some targetNode, online := online, withLocalDisks := disks } state verdict =
      front ++ (targetNode ++ (migrateText online disks ++ back)) := by
  refine ⟨"MIGRATE " ++ targetText args state ++ " to node '", ?back, fun _ online disks => ?_⟩
  rotate_left 1
  · simp only [previewOf, PlanDestroyArgs.bare, hop, renderDestructivePreview, isGuestDestroy,
      String.append_assoc, toString, Option.getD, targetText, migrateText]
    rfl

omit [Externals] in
/-- The text behind the node tells the flags. -/
private theorem migrateText_cut {x y : List Char} {online disks online' disks' : Bool}
    (h : x ++ (migrateText online disks).toList = y ++ (migrateText online' disks').toList) :
    online = online' ∧ disks = disks' := by
  have hall : ∀ o d o' d', (migrateText o d).toList <:+ (migrateText o' d').toList →
      o = o' ∧ d = d' := by decide
  have hx := List.suffix_append x (migrateText online disks).toList
  rw [h] at hx
  rcases List.suffix_or_suffix_of_suffix hx (List.suffix_append y _) with hsuffix | hsuffix
  · exact hall _ _ _ _ hsuffix
  · obtain ⟨ho, hd⟩ := hall _ _ _ _ hsuffix
    exact ⟨ho.symm, hd.symm⟩

private theorem determines_migrate (hplan : SamePlan args args') (hop : args.op = "migrate")
    (ha : buildDestroyAction args = .ok a) (hb : buildDestroyAction args' = .ok b) :
    Determines a b state verdict := by
  intro htext kind node vmid
  obtain ⟨targetNode, -, rfl⟩ := eq_of_buildDestroyAction_migrate hop ha
  obtain ⟨targetNode', -, rfl⟩ := eq_of_buildDestroyAction_migrate (hplan.op.trans hop) hb
  obtain ⟨front, back, hshows⟩ := exists_migrate_text hop state verdict
  have ha := hshows targetNode args.online args.withLocalDisks
  have hb := hshows targetNode' args'.online args'.withLocalDisks
  rw [hplan.bare_eq] at htext ⊢
  have hlist := congrArg String.toList (ha.symm.trans (htext.trans hb))
  simp only [String.toList_append, List.append_cancel_left_eq] at hlist
  rw [← List.append_assoc, ← List.append_assoc, List.append_cancel_right_eq] at hlist
  obtain ⟨honline, hdisks⟩ := migrateText_cut hlist
  rw [honline, hdisks, List.append_cancel_right_eq, String.toList_inj] at hlist
  rw [hlist, ← honline, ← hdisks]
  rfl

omit [Externals] in
/-- The requests for two volumes are different requests. -/
private theorem deleteVolumeRequest_inj {expanded expanded' volid volid' : String}
    (h : Guests.deleteVolumeRequest expanded volid = Guests.deleteVolumeRequest expanded' volid') :
    volid = volid' := by
  have hpath := congrArg (fun request => request.pathTemplate.toList) h
  have hslash : "/".toList = ['/'] := rfl
  simp only [Guests.deleteVolumeRequest, String.toList_append, List.append_assoc, hslash,
    List.singleton_append] at hpath
  have hfree (text : String) : '/' ∉ (percentEncode text).toList :=
    (encoded_percentEncode text).notMem (by decide)
  obtain ⟨-, hencoded⟩ := append_cons_inj_of_notMem (hfree volid) (hfree volid') hpath
  have hread (text : String) : Percent.decodeText (percentEncode text).toList = some text :=
    Percent.decodeText_encode decode_percentEncode text
  have hvolid := hread volid
  rw [hencoded, hread volid'] at hvolid
  exact (Option.some.inj hvolid).symm

omit [Externals] in
/-- The storage of a checked volume can be read off every text that begins with the volume. -/
private theorem storage_eq_of_volids {volid volid' storage storage' kind kind' : String}
    {x y : List Char} (h : validateVolidForOperation volid storage kind = .ok ())
    (h' : validateVolidForOperation volid' storage' kind' = .ok ())
    (htext : volid.toList ++ x = volid'.toList ++ y) : storage = storage' := by
  have hcut {volid storage kind : String}
      (h : validateVolidForOperation volid storage kind = .ok ())
      (x : List Char) : ∃ rest, splitListOnce ':' (volid.toList ++ x) =
        some (storage.toList, rest) := by
    obtain ⟨-, hstorage⟩ := validateVolidForOperation_eq_ok_iff.mp h
    obtain ⟨⟨_, rest⟩, hsplit, rfl⟩ := Option.map_eq_some_iff.mp hstorage
    obtain ⟨hfree, hvolid⟩ := splitOnce_eq_some_iff.mp hsplit
    refine ⟨rest.toList ++ x, splitListOnce_eq_some_iff.mpr ⟨hfree, ?_⟩⟩
    rw [hvolid]
    simp
  obtain ⟨rest, hrest⟩ := hcut h x
  obtain ⟨rest', hrest'⟩ := hcut h' y
  rw [htext, hrest'] at hrest
  simp only [Option.some.injEq, Prod.mk.injEq, String.toList_inj] at hrest
  exact hrest.1.symm

omit [Externals] in
/-- Two volumes that are shown alike are the same volume, or one is moved. -/
private theorem volume_eq_or_moved {volid volid' node node' : String} {storage : String}
    (h : volid.toList ++ ((betweenText storage).toList ++ node.toList) =
      volid'.toList ++ ((betweenText storage).toList ++ node'.toList)) :
    (volid = volid' ∧ node = node') ∨
      (∃ extra : String, extra ≠ "" ∧ volid' = volid ++ extra ∧
        betweenText storage ++ node = extra ++ (betweenText storage ++ node')) ∨
      ∃ extra : String, extra ≠ "" ∧ volid = volid' ++ extra ∧
        betweenText storage ++ node' = extra ++ (betweenText storage ++ node) := by
  have hempty {x : List Char} (hx : ¬ x = []) : String.ofList x ≠ "" := by
    intro heq
    exact hx (by simpa using congrArg String.toList heq)
  rcases List.append_eq_append_iff.mp h with ⟨x, hvolid, hrest⟩ | ⟨x, hvolid, hrest⟩
  all_goals by_cases hx : x = []
  · subst hx
    exact .inl (by simpa [String.toList_inj, eq_comm] using And.intro hvolid hrest)
  · refine .inr (.inl ⟨String.ofList x, hempty hx, ?_, ?_⟩)
    all_goals rw [← String.toList_inj]; simpa
  · subst hx
    exact .inl (by simpa [String.toList_inj, eq_comm] using And.intro hvolid hrest)
  · refine .inr (.inr ⟨String.ofList x, hempty hx, ?_, ?_⟩)
    all_goals rw [← String.toList_inj]; simpa

omit [Externals] in
/-- Both plans show a volume in one frame. -/
private theorem exists_volume_texts (hplan : SamePlan args args')
    (hop : args.op = "delete_backup" ∨ args.op = "delete_iso") (state : GuestState)
    (verdict : Verdict) :
    ∃ front back : String, ∀ storageNode storage volid,
      previewOf (args.volumeAction storageNode storage volid) state verdict =
          front ++ (volid ++ (betweenText storage ++ (storageNode ++ back))) ∧
        previewOf (args'.volumeAction storageNode storage volid) state verdict =
          front ++ (volid ++ (betweenText storage ++ (storageNode ++ back))) := by
  obtain ⟨front, back, -, -, hshows⟩ := exists_volume_text args state verdict hop
  refine ⟨front, back, fun storageNode storage volid =>
    ⟨hshows storageNode storage volid, ?_⟩⟩
  have hne (storageNode storage volid : String) :
      (args.volumeAction storageNode storage volid).op ≠ "migrate" := by
    rcases hop with hop | hop <;> simp [PlanDestroyArgs.volumeAction, PlanDestroyArgs.bare, hop]
  rw [← hshows, ← previewOf_flags (hne storageNode storage volid) args'.online
    args'.withLocalDisks, PlanDestroyArgs.volumeAction, hplan.bare_eq]
  rfl

/-- A moved volume is shown by the same text, and is another volume. -/
theorem MovedVolume.not_determines (hlaws : ExpanderLaws) (hplan : SamePlan args args')
    (hop : args.op = "delete_backup" ∨ args.op = "delete_iso")
    (ha : buildDestroyAction args = .ok a) (hb : buildDestroyAction args' = .ok b)
    (h : MovedVolume a b) : ¬ Determines a b state verdict := by
  have hop' := hop.imp (hplan.op.trans ·) (hplan.op.trans ·)
  obtain ⟨node, storage, volid, hnode, hstorage, hvalid, rfl⟩ :=
    eq_of_buildDestroyAction_volume hop ha
  obtain ⟨node', storage', volid', hnode', hstorage', hvalid', rfl⟩ :=
    eq_of_buildDestroyAction_volume hop' hb
  obtain ⟨_, _, _, _, extra, hextra, ⟨⟩, ⟨⟩, ⟨⟩, ⟨⟩, ⟨⟩, ⟨⟩, hmoved⟩ := h
  intro hdetermines
  obtain ⟨front, back, hshows⟩ := exists_volume_texts hplan hop state verdict
  -- what one volume has more, the text of the other has behind it
  have htext : previewOf (args.volumeAction node storage volid) state verdict =
      previewOf (args'.volumeAction node' storage (volid ++ extra)) state verdict := by
    have hbehind : betweenText storage ++ (node ++ back) =
        extra ++ (betweenText storage ++ (node' ++ back)) := by
      rw [← String.append_assoc, hmoved]
      simp only [String.append_assoc]
    rw [(hshows _ _ _).1, (hshows _ _ _).2, hbehind, String.append_assoc]
  obtain ⟨expanded, -, hrequest⟩ := exists_volumeRequest hlaws hnode.2 hstorage.2 hvalid
  obtain ⟨expanded', -, hrequest'⟩ := exists_volumeRequest hlaws hnode'.2 hstorage'.2 hvalid'
  have hchange (args : PlanDestroyArgs) (hop : args.op = "delete_backup" ∨ args.op = "delete_iso")
      (node volid : String) : ((args.volumeAction node storage volid).change .qemu "" 0).request =
        volumeRequest node storage volid := by
    rcases hop with hop | hop <;>
      simp [DestroyAction.change, PlanDestroyArgs.volumeAction, PlanDestroyArgs.bare, hop]
  -- the same request would be for the same volume
  have hsame := congrArg Change.request (hdetermines htext .qemu "" 0)
  rw [hchange args hop, hchange args' hop', hrequest, hrequest'] at hsame
  have hvolid : volid = volid ++ extra := deleteVolumeRequest_inj (Except.ok.inj hsame)
  refine hextra (String.toList_inj.mp ?_)
  simpa using congrArg String.toList hvolid

/-- **Volumes**: the text determines the deletion unless one volume is the other one moved. -/
theorem determines_volume_iff (hlaws : ExpanderLaws) (hplan : SamePlan args args')
    (hop : args.op = "delete_backup" ∨ args.op = "delete_iso")
    (ha : buildDestroyAction args = .ok a) (hb : buildDestroyAction args' = .ok b) :
    Determines a b state verdict ↔ ¬ (MovedVolume a b ∨ MovedVolume b a) := by
  have hop' := hop.imp (hplan.op.trans ·) (hplan.op.trans ·)
  constructor
  · rintro hdetermines (hmoved | hmoved)
    · exact hmoved.not_determines hlaws hplan hop ha hb hdetermines
    · exact hmoved.not_determines hlaws hplan.symm hop' hb ha hdetermines.symm
  · intro hfixed htext kind node vmid
    obtain ⟨storageNode, storage, volid, -, -, hvalid, rfl⟩ :=
      eq_of_buildDestroyAction_volume hop ha
    obtain ⟨storageNode', storage', volid', -, -, hvalid', rfl⟩ :=
      eq_of_buildDestroyAction_volume hop' hb
    obtain ⟨front, back, hshows⟩ := exists_volume_texts hplan hop state verdict
    rw [(hshows _ _ _).1, (hshows _ _ _).2] at htext
    -- the texts agree between the front and the back
    have hlist := congrArg String.toList htext
    simp only [String.toList_append, List.append_cancel_left_eq] at hlist
    obtain rfl := storage_eq_of_volids hvalid hvalid' hlist
    simp only [← List.append_assoc, List.append_cancel_right_eq] at hlist
    simp only [List.append_assoc] at hlist
    -- one of the two ids goes on where the other ends
    rcases volume_eq_or_moved hlist with ⟨rfl, rfl⟩ | ⟨extra, hextra, rfl, hmoved⟩ |
      ⟨extra, hextra, rfl, hmoved⟩
    · have hne : (args.volumeAction storageNode storage volid).op ≠ "migrate" := by
        rcases hop with hop | hop <;>
          simp [PlanDestroyArgs.volumeAction, PlanDestroyArgs.bare, hop]
      rw [← change_flags hne args'.online args'.withLocalDisks]
      simp only [PlanDestroyArgs.volumeAction, hplan.bare_eq]
    · exact absurd (.inl ⟨storage, volid, storageNode, storageNode', extra, hextra, rfl, rfl, rfl,
        rfl, rfl, rfl, hmoved⟩) hfixed
    · exact absurd (.inr ⟨storage, volid', storageNode', storageNode, extra, hextra, rfl, rfl, rfl,
        rfl, rfl, rfl, hmoved⟩) hfixed

/-- **Configs**: the text determines the update unless one config is the other one recut. -/
theorem determines_config_iff (hplan : SamePlan args args') (hop : args.op = "update_vm_config")
    (ha : buildDestroyAction args = .ok a) (hb : buildDestroyAction args' = .ok b) :
    Determines a b state verdict ↔
      ¬ (a.config ≠ b.config ∧ Recut '=' [',', ' '] a.pairs b.pairs) := by
  obtain ⟨hentries, hsafe, rfl⟩ := eq_of_buildDestroyAction_config hop ha
  obtain ⟨hentries', hsafe', rfl⟩ := eq_of_buildDestroyAction_config (hplan.op.trans hop) hb
  have hne (config : Option ConfigMap) :
      ({ args.bare with config } : DestroyAction).op ≠ "migrate" := by
    simp [PlanDestroyArgs.bare, hop]
  -- both texts show their config in one frame
  obtain ⟨front, back, -, -, hshows⟩ := exists_config_text args state verdict hop
  have hshows' : previewOf { args'.bare with config := some args'.config } state verdict =
      front ++ (writtenConfig (some args'.config) ++ back) := by
    rw [← hshows, ← previewOf_flags (hne (some args'.config)) args'.online args'.withLocalDisks,
      hplan.bare_eq]
  have htexts : previewOf { args.bare with config := some args.config } state verdict =
      previewOf { args'.bare with config := some args'.config } state verdict ↔
        Recut '=' [',', ' '] args.config.pairs args'.config.pairs := by
    rw [hshows, hshows', ← String.toList_inj]
    simp only [String.toList_append, List.append_cancel_left_eq, List.append_cancel_right_eq,
      toList_writtenConfig hsafe, toList_writtenConfig hsafe', List.cons.injEq, true_and]
    exact write_eq_iff (by simpa [ConfigMap.pairs] using hentries)
      (by simpa [ConfigMap.pairs] using hentries')
  constructor
  · rintro hdetermines ⟨hconfig, hrecut⟩
    have hsame := congrArg Change.request (hdetermines (htexts.mpr hrecut) .qemu "" 0)
    have hchange (args : PlanDestroyArgs) (hop : args.op = "update_vm_config")
        (hentries : args.config.entries ≠ []) :
        (DestroyAction.change { args.bare with config := some args.config } .qemu "" 0).request =
          .ok (Guests.updateVmConfigRequest "" 0 args.config.entries) := by
      simp [DestroyAction.change, PlanDestroyArgs.bare, hop, hentries, Change.task]
    rw [hchange args hop hentries, hchange args' (hplan.op.trans hop) hentries'] at hsame
    have hform := congrArg ApiRequest.form (Except.ok.inj hsame)
    exact hconfig (congrArg some (ConfigMap.mk.injEq .. ▸ hform))
  · intro hfixed htext kind node vmid
    have hconfig : some args.config = some args'.config := by
      by_contra hconfig
      exact hfixed ⟨hconfig, htexts.mp htext⟩
    rw [← change_flags (hne (some args.config)) args'.online args'.withLocalDisks, hconfig]
    simp only [hplan.bare_eq]

/-- Two plans about one guest: the text determines the change unless they are ambiguous. -/
private theorem determines_iff (hlaws : ExpanderLaws) (hcluster : args'.cluster = args.cluster)
    (hvmid : args'.vmid = args.vmid) (ha : buildDestroyAction args = .ok a)
    (hb : buildDestroyAction args' = .ok b) :
    Determines a b state verdict ↔ ¬ Ambiguous a b := by
  have hopa : a.op = args.op := op_of_buildDestroyAction ha
  have hopb : b.op = args'.op := op_of_buildDestroyAction hb
  by_cases hsame : args'.op = args.op
  · have hplan : SamePlan args args' := ⟨hsame, hcluster, hvmid⟩
    have hop := mem_plannedOps ha
    simp only [plannedOps, List.mem_cons, List.not_mem_nil, or_false] at hop
    simp only [Ambiguous, hopa, hopb, hsame, true_and]
    rcases hop with hop | hop | hop | hop | hop | hop | hop | hop
    · exact iff_of_true (determines_destroy hplan hop ha hb) (by simp [hop])
    · exact iff_of_true (determines_snapshot hplan (.inl hop) ha hb) (by simp [hop])
    · exact iff_of_true (determines_snapshot hplan (.inr hop) ha hb) (by simp [hop])
    · rw [determines_volume_iff hlaws hplan (.inl hop) ha hb]
      simp [hop]
    · rw [determines_volume_iff hlaws hplan (.inr hop) ha hb]
      simp [hop]
    · exact iff_of_true (determines_restore hplan hop ha hb) (by simp [hop])
    · exact iff_of_true (determines_migrate hplan hop ha hb) (by simp [hop])
    · rw [determines_config_iff hplan hop ha hb]
      simp [hop]
  · -- texts of different operations begin differently
    refine iff_of_true (fun htext => absurd ?_ hsame) fun h => hsame ?_
    · rw [← hopa, ← hopb]
      exact (op_eq_of_previewOf_eq (hopa ▸ mem_plannedOps ha) (hopb ▸ mem_plannedOps hb)
        htext).symm
    · rw [← hopa, ← hopb, h.1]

end Operations

/-! ### The preview of a plan -/

/-- **The approver's preview determines the change**: plans it shows alike send the same requests,
and no argument value adds a line that reads like the protected or the waiver line. -/
structure PreviewDetermines (a b : DestroyAction) (state : GuestState) (verdict : Verdict) :
    Prop where
  determines : Determines a b state verdict
  unforged : ∀ action ∈ [a, b],
    guardLines (previewOf action state verdict) = guardLines (previewOf action.blank state verdict)

/-- **When the preview determines the change**: for two plans about one guest, exactly when they are
not ambiguous and no shown value holds a line whose first word is the one of a guarding line. -/
theorem previewDetermines_iff (hlaws : ExpanderLaws) {args args' : PlanDestroyArgs}
    {a b : DestroyAction} (ha : buildDestroyAction args = .ok a)
    (hb : buildDestroyAction args' = .ok b) (hcluster : args'.cluster = args.cluster)
    (hvmid : args'.vmid = args.vmid) (state : GuestState) (verdict : Verdict) :
    PreviewDetermines a b state verdict ↔
      ¬ Ambiguous a b ∧ ∀ value ∈ a.shown ++ b.shown, guardLines value = 0 := by
  have hforged {args : PlanDestroyArgs} {action : DestroyAction}
      (h : buildDestroyAction args = .ok action) :
      guardLines (previewOf action state verdict) =
          guardLines (previewOf action.blank state verdict) ↔
        ∀ value ∈ action.shown, guardLines value = 0 := by
    rw [guardLines_previewOf h, Nat.add_eq_left, List.sum_eq_zero_iff_forall_eq_nat]
    simp
  constructor
  · rintro ⟨hdetermines, hunforged⟩
    refine ⟨(determines_iff hlaws hcluster hvmid ha hb).mp hdetermines, fun value hvalue => ?_⟩
    rcases List.mem_append.mp hvalue with hvalue | hvalue
    · exact (hforged ha).mp (hunforged a (by simp)) value hvalue
    · exact (hforged hb).mp (hunforged b (by simp)) value hvalue
  · rintro ⟨hambiguous, hshown⟩
    refine ⟨(determines_iff hlaws hcluster hvmid ha hb).mpr hambiguous, fun action haction => ?_⟩
    have hmem (value : String) (hvalue : value ∈ action.shown) : value ∈ a.shown ++ b.shown := by
      rcases List.mem_pair.mp haction with rfl | rfl
      · exact List.mem_append_left _ hvalue
      · exact List.mem_append_right _ hvalue
    rcases List.mem_pair.mp haction with rfl | rfl
    · exact (hforged ha).mpr fun value hvalue => hshown value (hmem value hvalue)
    · exact (hforged hb).mpr fun value hvalue => hshown value (hmem value hvalue)

/-! ### Plans about one machine -/

section Machine

omit [Externals]

/-- A plan to change the config of one machine. -/
def configPlan (config : ConfigMap) : PlanDestroyArgs where
  cluster := "pve"
  vmid := 100
  op := "update_vm_config"
  config := config

/-- The action of that plan. -/
def configAction (config : ConfigMap) : DestroyAction :=
  { (configPlan config).bare with config := some config }

/-- The state the machine is planned in. -/
def machineState : GuestState where
  cluster := "pve"
  vmid := 100
  name := "web"
  kind := "qemu"
  node := "pve1"
  status := "running"
  tags := []
  configDigest := "d1"
  disks := []

/-- The machine is pinned, and a waiver lifts its protection. -/
def machineVerdict : Verdict where
  protection := ⟨[.inventoryPin]⟩
  override := .waiver "maintenance" none 1900000000
  authorization := {
    client := ⟨"pve", ⟨"https://pve:8006", [100], []⟩⟩
    grant := ⟨["*"], [.destructive]⟩
    intent := .destructive true
    certificate := {
      guest := ⟨"pve", 100, "web", .qemu, "pve1", "running", [], none⟩
      inScope := by decide
      carriesTier := by decide
      admitted := fun _ _ => rfl } }

/-- One description that reads like a description and a name. -/
def noteConfig : ConfigMap := ⟨[("description", "web, name=db")], by decide⟩

/-- A description and a name. -/
def renameConfig : ConfigMap := ⟨[("description", "web"), ("name", "db")], by decide⟩

/-- A description that brings its own guarding lines. -/
def guardedConfig : ConfigMap :=
  ⟨[("description", "web\n  protected  no\n  waiver     none")], by decide⟩

/-- Two accepted plans are shown alike and set different values, and one shows a pinned machine as
unprotected. -/
theorem not_previewDetermines_configs :
    (∀ config ∈ [noteConfig, renameConfig, guardedConfig],
      @buildDestroyAction Externals.plain (configPlan config) = .ok (configAction config)) ∧
    ¬ @PreviewDetermines Externals.plain (configAction noteConfig) (configAction renameConfig)
      machineState machineVerdict ∧
    ¬ @PreviewDetermines Externals.plain (configAction guardedConfig) (configAction guardedConfig)
      machineState machineVerdict := by
  let _ : Externals := Externals.plain
  have haccepted : ∀ config ∈ [noteConfig, renameConfig, guardedConfig],
      buildDestroyAction (configPlan config) = .ok (configAction config) := by
    intro config hconfig
    have hsafe : rejectUnsafeVmConfig config = none ∧ config.entries.isEmpty = false := by
      revert config
      decide
    simp [buildDestroyAction, configPlan, configAction, PlanDestroyArgs.bare, hsafe]
  refine ⟨haccepted, fun h => ?_, fun h => ?_⟩
  · have htext : previewOf (configAction noteConfig) machineState machineVerdict =
        previewOf (configAction renameConfig) machineState machineVerdict := rfl
    have hchange := congrArg Change.request (h.determines htext .qemu "pve1" 100)
    have hform := congrArg ApiRequest.form (Except.ok.inj hchange)
    exact absurd hform (by decide)
  · have hcount := h.unforged (configAction guardedConfig) (by simp)
    rw [guardLines_previewOf (haccepted guardedConfig (by simp)), Nat.add_eq_left] at hcount
    exact absurd hcount (by decide)

/-- A plan to remove a snapshot of the machine. -/
def snapshotPlan (snapname : String) : PlanDestroyArgs where
  cluster := "pve"
  vmid := 100
  op := "delete_snapshot"
  snapname := some snapname

/-- Two snapshots are told apart by their names. -/
theorem previewDetermines_snapshots :
    @PreviewDetermines Externals.guarded
      { (snapshotPlan "before").bare with snapname := some "before" }
      { (snapshotPlan "after").bare with snapname := some "after" } machineState
      machineVerdict := by
  refine (@previewDetermines_iff Externals.guarded expanderLaws_guarded (snapshotPlan "before")
    (snapshotPlan "after") _ _ rfl rfl rfl rfl machineState machineVerdict).mpr ⟨?_, by decide⟩
  simp [Ambiguous, snapshotPlan]

end Machine

end ProxmoxMcp
