import ProxmoxMcp.ChangeSet.Planned
import ProxmoxMcp.PairText
import ProxmoxMcp.Server.Changes

/-!
# What an approver's preview determines

A plan stores a text for the approver. It **determines** the change when two actions on one guest
that are shown by the same text send the same requests, and it is **unforged** when no argument
value adds a line that reads like the protected or the waiver line.

Each value stands in the text between two characters that frame it (`Framed`), so the text
determines a value that stands alone. A config does not stand alone: its pairs are joined by
characters that its keys and values may hold, and neither does a volume id, behind which a storage
and a node stand. `previewDetermines_iff` says which pairs of actions this confuses.
-/

namespace ProxmoxMcp

open Interaction Text ProxmoxError PairText

variable [Externals]

/-! ### Values in a frame -/

/-- Whether a character ends a line. -/
def isLineBreak (c : Char) : Bool :=
  ['\n', '\r', '\x0b', '\x0c', '\u0085', '\u2028', '\u2029'].contains c

/-- Whether a character leaves a line blank. -/
def isBlank (c : Char) : Bool := isWhitespace c && !isLineBreak c

/-- Whether a line begins here that an approver reads the guest's protection or its override from:
one whose first word is `protected` or `waiver`. -/
def opensGuardLine : List Char → Bool
  | [] => false
  | c :: line => isLineBreak c && ["protected".toList, "waiver".toList].contains
      ((firstWord isBlank Char.isAlphanum line).map Char.toLower)

/-- The number of lines behind the first that read like the protected or the waiver line. -/
def guardLines (text : String) : ℕ := occurrences opensGuardLine text.toList

/-- **Framed**: a text shows a value between two characters, and is the same otherwise. -/
def Framed (opening closing : Char) (shows : String → String) : Prop :=
  ∃ front back : String, (∀ value, shows value = front ++ (value ++ back)) ∧
    front.toList.getLast? = some opening ∧ back.toList.head? = some closing

omit [Externals]

section Frames

variable {opening closing : Char} {shows : String → String}

theorem Framed.injective (h : Framed opening closing shows) {value value' : String}
    (heq : shows value = shows value') : value = value' := by
  obtain ⟨front, back, hshows, -, -⟩ := h
  rw [hshows, hshows] at heq
  have hlist := congrArg String.toList heq
  simpa [String.toList_inj] using hlist

private theorem opensGuardLine_cons {c : Char} (h : isLineBreak c = false) (line : List Char) :
    opensGuardLine (c :: line) = false := by
  rw [opensGuardLine, h, Bool.false_and]

/-- The first word of a line ends at every character that is neither blank nor a letter. -/
private theorem stopsAt_opensGuardLine {c : Char} (hblank : isBlank c = false)
    (hletter : c.isAlphanum = false) : StopsAt opensGuardLine c := by
  intro b x y
  rw [opensGuardLine, opensGuardLine, firstWord_append hblank hletter]

/-- What a framed value adds to the count is what it holds itself. -/
theorem Framed.guardLines_eq (h : Framed opening closing shows)
    (hbreak : isLineBreak opening = false) (hopening : StopsAt opensGuardLine opening)
    (hclosing : StopsAt opensGuardLine closing) (value : String) :
    guardLines (shows value) = guardLines (shows "") + guardLines value := by
  obtain ⟨front, back, hshows, hfront, hback⟩ := h
  obtain ⟨x, hx⟩ : ∃ x, front.toList = x ++ [opening] := by
    obtain ⟨x, hx⟩ := List.getLast?_eq_some_iff.mp hfront
    exact ⟨x, hx⟩
  obtain ⟨y, hy⟩ : ∃ y, back.toList = closing :: y := List.head?_eq_some_iff.mp hback
  have hcount (value : String) : guardLines (shows value) =
      occurrences opensGuardLine x +
        (guardLines value + occurrences opensGuardLine (closing :: y)) := by
    have htext : (shows value).toList = x ++ opening :: (value.toList ++ closing :: y) := by
      rw [hshows, String.toList_append, String.toList_append, hx, hy]
      simp
    rw [guardLines, htext, hopening.occurrences_append,
      occurrences_cons (opensGuardLine_cons hbreak), hclosing.occurrences_append, guardLines]
  rw [hcount, hcount]
  have hempty : guardLines "" = 0 := rfl
  omega

/-- What a quoted value adds to the count. -/
theorem Framed.guardLines_quoted (h : Framed '\'' '\'' shows) (value : String) :
    guardLines (shows value) = guardLines (shows "") + guardLines value :=
  have hquote : StopsAt opensGuardLine '\'' := stopsAt_opensGuardLine (by decide) (by decide)
  h.guardLines_eq (by decide) hquote hquote value

end Frames

section Shown

variable (args : PlanDestroyArgs) (state : GuestState) (verdict : Verdict)

/-- How the text names the guest. -/
def targetText : String :=
  s!"{state.name} (vmid {args.vmid}, {args.cluster}, node {state.node})"

theorem framed_deleteSnapshot (hop : args.op = "delete_snapshot") : Framed '\'' '\''
    fun snapname => previewOf { args.bare with snapname := some snapname } state verdict := by
  refine ⟨"DELETE SNAPSHOT '", ?back, fun snapname => ?_, rfl, ?_⟩
  rotate_left 1
  · simp only [previewOf, PlanDestroyArgs.bare, hop, renderDestructivePreview, isGuestDestroy,
      String.append_assoc, toString, Option.getD]
    rfl
  · rw [String.toList_append]
    rfl

theorem framed_rollbackSnapshot (hop : args.op = "rollback_snapshot") : Framed '\'' '\''
    fun snapname => previewOf { args.bare with snapname := some snapname } state verdict := by
  refine ⟨"ROLLBACK " ++ targetText args state ++ " to snapshot '", ?back,
    fun snapname => ?_, ?_, ?_⟩
  rotate_left 1
  · simp only [previewOf, PlanDestroyArgs.bare, hop, renderDestructivePreview, isGuestDestroy,
      String.append_assoc, toString, Option.getD, targetText]
    rfl
  · rw [String.toList_append, List.getLast?_append]
    rfl
  · rw [String.toList_append]
    rfl

theorem framed_restore (hop : args.op = "restore_backup") : Framed '\'' '\''
    fun volid => previewOf { args.bare with volid := some volid } state verdict := by
  refine ⟨"RESTORE " ++ targetText args state ++ " from '", ?back, fun snapname => ?_, ?_, ?_⟩
  rotate_left 1
  · simp only [previewOf, PlanDestroyArgs.bare, hop, renderDestructivePreview, isGuestDestroy,
      String.append_assoc, toString, Option.getD, targetText]
    rfl
  · rw [String.toList_append, List.getLast?_append]
    rfl
  · rw [String.toList_append]
    rfl

private theorem framed_migrate (hop : args.op = "migrate") : Framed '\'' '\''
    fun targetNode => previewOf { args.bare with targetNode := some targetNode } state verdict := by
  refine ⟨"MIGRATE " ++ targetText args state ++ " to node '", ?back, fun snapname => ?_, ?_, ?_⟩
  rotate_left 1
  · simp only [previewOf, PlanDestroyArgs.bare, hop, renderDestructivePreview, isGuestDestroy,
      String.append_assoc, toString, Option.getD, targetText]
    rfl
  · rw [String.toList_append, List.getLast?_append]
    rfl
  · rw [String.toList_append]
    rfl

/-- What stands between the volume id and the node. -/
def betweenText (storage : String) : String := "' on storage '" ++ storage ++ "' at node '"

/-- A text that shows a volume shows its id, its storage and its node one behind another. -/
theorem exists_volume_text (hop : args.op = "delete_backup" ∨ args.op = "delete_iso") :
    ∃ front back : String, front.toList.getLast? = some '\'' ∧ back.toList.head? = some '\'' ∧
      ∀ storageNode storage volid,
        previewOf (args.volumeAction storageNode storage volid) state verdict =
          front ++ (volid ++ (betweenText storage ++ (storageNode ++ back))) := by
  rcases hop with hop | hop
  · refine ⟨"DELETE BACKUP '", ?back, rfl, ?_, fun storageNode storage volid => ?_⟩
    rotate_left 2
    · simp only [previewOf, PlanDestroyArgs.volumeAction, PlanDestroyArgs.bare, hop,
        renderDestructivePreview, isGuestDestroy, String.append_assoc, toString, Option.getD,
        betweenText]
      rfl
    · rw [String.toList_append]
      rfl
  · refine ⟨"DELETE ISO '", ?image, rfl, ?_, fun storageNode storage volid => ?_⟩
    rotate_left 2
    · simp only [previewOf, PlanDestroyArgs.volumeAction, PlanDestroyArgs.bare, hop,
        renderDestructivePreview, isGuestDestroy, String.append_assoc, toString, Option.getD,
        betweenText]
      rfl
    · rw [String.toList_append]
      rfl

/-- The pairs of a config as an approver reads them. -/
def writtenConfig (config : Option ConfigMap) : String :=
  " " ++ ", ".intercalate (((config.map ConfigMap.entries).getD []).map renderEntry)

theorem exists_config_text (hop : args.op = "update_vm_config") :
    ∃ front back : String, front.toList.getLast? = some ':' ∧ back.toList.head? = some '\n' ∧
      ∀ config, previewOf { args.bare with config } state verdict =
        front ++ (writtenConfig config ++ back) := by
  refine ⟨"UPDATE CONFIG " ++ targetText args state ++ "\n  Sets:", ?back, ?_, ?_,
    fun config => ?_⟩
  rotate_left 3
  · simp only [previewOf, PlanDestroyArgs.bare, hop, renderDestructivePreview, isGuestDestroy,
      String.append_assoc, toString, targetText, writtenConfig]
    rfl
  · rw [String.toList_append, List.getLast?_append]
    rfl
  · rw [String.toList_append]
    rfl

/-- The destruction of a guest is shown by its state alone. -/
private theorem previewOf_destroy {a b : DestroyAction} (ha : a.op = "destroy_guest")
    (hb : b.op = "destroy_guest") : previewOf a state verdict = previewOf b state verdict := by
  rw [previewOf, previewOf, ha, hb]
  rfl

end Shown

/-- How the text of an operation begins. -/
def heading : String → String
  | "destroy_guest" => "DESTROY  "
  | "delete_snapshot" => "DELETE SNAPSHOT '"
  | "rollback_snapshot" => "ROLLBACK "
  | "delete_backup" => "DELETE BACKUP '"
  | "delete_iso" => "DELETE ISO '"
  | "restore_backup" => "RESTORE "
  | "migrate" => "MIGRATE "
  | _ => "UPDATE CONFIG "

private theorem heading_prefix {action : DestroyAction} (hop : action.op ∈ plannedOps)
    (state : GuestState) (verdict : Verdict) :
    (heading action.op).toList <+: (previewOf action state verdict).toList := by
  simp only [plannedOps, List.mem_cons, List.not_mem_nil, or_false] at hop
  rcases hop with hop | hop
  · have hdestroy : isGuestDestroy "destroy_guest" = true := rfl
    rw [previewOf, hop, if_pos hdestroy]
    simp only [renderPreview, String.toList_intercalate, List.map_append, List.map_cons,
      List.cons_append, List.intercalate_cons_cons, String.toList_append, List.append_assoc]
    exact ⟨_, rfl⟩
  rcases hop with hop | hop | hop | hop | hop | hop | hop
  all_goals
    simp only [previewOf, hop, renderDestructivePreview, isGuestDestroy, String.append_assoc,
      toString, Option.getD]
    exact ⟨_, (String.toList_append).symm⟩

/-- The first eight characters of a text tell the operations apart. -/
private theorem eq_of_heading {op op' : String} (hop : op ∈ plannedOps) (hop' : op' ∈ plannedOps)
    (h : (heading op).toList.take 8 = (heading op').toList.take 8) : op = op' := by
  have hall : ∀ x ∈ plannedOps, ∀ y ∈ plannedOps,
      (heading x).toList.take 8 = (heading y).toList.take 8 → x = y := by decide
  exact hall op hop op' hop' h

theorem op_eq_of_previewOf_eq {a b : DestroyAction} (ha : a.op ∈ plannedOps)
    (hb : b.op ∈ plannedOps) {state : GuestState} {verdict : Verdict}
    (h : previewOf a state verdict = previewOf b state verdict) : a.op = b.op := by
  have hlong : ∀ op ∈ plannedOps, 8 ≤ (heading op).toList.length := by decide
  obtain ⟨x, hx⟩ := heading_prefix ha state verdict
  obtain ⟨y, hy⟩ := heading_prefix hb state verdict
  refine eq_of_heading ha hb ?_
  rw [← List.take_append_of_le_length (hlong a.op ha), hx, h, ← hy,
    List.take_append_of_le_length (hlong b.op hb)]

/-! ### Forged lines -/

/-- The characters of a config's pairs. -/
def ConfigMap.pairs (config : ConfigMap) : List (List Char × List Char) :=
  config.entries.map fun entry => (entry.1.toList, entry.2.toList)

/-- An accepted config holds no password, so all of it is written. -/
theorem toList_writtenConfig {config : ConfigMap} (h : rejectUnsafeVmConfig config = none) :
    (writtenConfig (some config)).toList = ' ' :: write '=' [',', ' '] config.pairs := by
  have hfree := (rejectUnsafeVmConfig_eq_none_iff.mp h).1
  have hentries : config.entries.map (String.toList ∘ renderEntry) =
      config.pairs.map (writePair '=') := by
    rw [ConfigMap.pairs, List.map_map]
    refine List.map_congr_left fun entry hentry => ?_
    have hentry : renderEntry entry = entry.1 ++ "=" ++ entry.2 := by
      rw [renderEntry, if_neg (by simp [hfree entry hentry])]
      rfl
    simp [hentry, writePair]
  have hsep : ", ".toList = [',', ' '] := rfl
  rw [writtenConfig, String.toList_append, String.toList_intercalate, List.map_map, hsep, write]
  exact congrArg (fun parts => ' ' :: [',', ' '].intercalate parts) hentries

private theorem occurrences_write (pairs : List (List Char × List Char)) :
    occurrences opensGuardLine (write '=' [',', ' '] pairs) =
      (pairs.map fun pair =>
        occurrences opensGuardLine pair.1 + occurrences opensGuardLine pair.2).sum := by
  have hsign : StopsAt opensGuardLine '=' := stopsAt_opensGuardLine (by decide) (by decide)
  have hcomma : StopsAt opensGuardLine ',' := stopsAt_opensGuardLine (by decide) (by decide)
  have hpair (pair : List Char × List Char) : occurrences opensGuardLine (writePair '=' pair) =
      occurrences opensGuardLine pair.1 + occurrences opensGuardLine pair.2 := by
    rw [writePair, hsign.occurrences_append, occurrences_cons (opensGuardLine_cons (by decide))]
  induction pairs with
  | nil => rfl
  | cons pair rest ih =>
    cases rest with
    | nil => simp [write_singleton, hpair]
    | cons next rest =>
      rw [write_cons pair (List.cons_ne_nil next rest), List.append_assoc, List.cons_append,
        List.cons_append, List.nil_append, hcomma.occurrences_append,
        occurrences_cons (opensGuardLine_cons (by decide)),
        occurrences_cons (opensGuardLine_cons (by decide)), hpair, ih]
      simp only [List.map_cons, List.sum_cons]

/-- The values an operation shows. -/
def DestroyAction.shown (action : DestroyAction) : List String :=
  match action.op with
  | "delete_snapshot" | "rollback_snapshot" => action.snapname.toList
  | "delete_backup" | "delete_iso" =>
    action.volid.toList ++ action.storage.toList ++ action.storageNode.toList
  | "restore_backup" => action.volid.toList
  | "migrate" => action.targetNode.toList
  | "update_vm_config" => ((action.config.map ConfigMap.entries).getD []).flatMap fun entry =>
      [entry.1, entry.2]
  | _ => []

/-- The action with every argument value left empty. -/
def DestroyAction.blank (action : DestroyAction) : DestroyAction :=
  { action with
    snapname := action.snapname.map fun _ => ""
    storage := action.storage.map fun _ => ""
    volid := action.volid.map fun _ => ""
    storageNode := action.storageNode.map fun _ => ""
    targetNode := action.targetNode.map fun _ => ""
    config := none }

section Counted

variable {args : PlanDestroyArgs} {action : DestroyAction} {state : GuestState} {verdict : Verdict}

/-- An action that shows one value, and shows it quoted. -/
private theorem guardLines_of_framed {shows : String → String} (hframed : Framed '\'' '\'' shows)
    {value : String} (htext : previewOf action state verdict = shows value)
    (hblank : previewOf action.blank state verdict = shows "") (hshown : action.shown = [value]) :
    guardLines (previewOf action state verdict) =
      guardLines (previewOf action.blank state verdict) + (action.shown.map guardLines).sum := by
  rw [htext, hblank, hshown, hframed.guardLines_quoted value]
  simp

private theorem guardLines_volume (hop : args.op = "delete_backup" ∨ args.op = "delete_iso")
    (storageNode storage volid : String)
    (haction : action = args.volumeAction storageNode storage volid) :
    guardLines (previewOf action state verdict) =
      guardLines (previewOf action.blank state verdict) + (action.shown.map guardLines).sum := by
  obtain ⟨front, back, hfront, hback, htext⟩ := exists_volume_text args state verdict hop
  have hlast : (betweenText storage).toList.getLast? = some '\'' := by
    rw [betweenText, String.toList_append, List.getLast?_append]
    rfl
  have hvolid : Framed '\'' '\'' fun volid =>
      front ++ (volid ++ (betweenText storage ++ (storageNode ++ back))) :=
    ⟨front, _, fun _ => rfl, hfront, by rw [betweenText]; simp⟩
  have hstorage : Framed '\'' '\'' fun storage =>
      front ++ ("" ++ (betweenText storage ++ (storageNode ++ back))) :=
    ⟨front ++ "' on storage '", "' at node '" ++ (storageNode ++ back), fun storage => by
      simp [betweenText, String.append_assoc], by simp, by simp⟩
  have hnode : Framed '\'' '\'' fun storageNode =>
      front ++ ("" ++ (betweenText "" ++ (storageNode ++ back))) :=
    ⟨front ++ betweenText "", back, fun _ => by simp [String.append_assoc], by simp [betweenText],
      hback⟩
  have hblank : action.blank = args.volumeAction "" "" "" := by
    rw [haction]
    rfl
  have hshown : action.shown = [volid, storage, storageNode] := by
    rw [haction, DestroyAction.shown]
    rcases hop with hop | hop <;> simp [PlanDestroyArgs.volumeAction, PlanDestroyArgs.bare, hop]
  rw [hblank, hshown, haction, htext, htext, hvolid.guardLines_quoted volid,
    hstorage.guardLines_quoted storage, hnode.guardLines_quoted storageNode]
  simp only [List.map_cons, List.map_nil, List.sum_cons, List.sum_nil]
  omega

private theorem guardLines_config (hop : args.op = "update_vm_config") {config : ConfigMap}
    (hsafe : rejectUnsafeVmConfig config = none)
    (haction : action = { args.bare with config := some config }) :
    guardLines (previewOf action state verdict) =
      guardLines (previewOf action.blank state verdict) + (action.shown.map guardLines).sum := by
  obtain ⟨front, back, hfront, hback, htext⟩ := exists_config_text args state verdict hop
  have hframed : Framed ':' '\n' fun written => front ++ (written ++ back) :=
    ⟨front, back, fun _ => rfl, hfront, hback⟩
  have hcount := hframed.guardLines_eq (by decide)
    (stopsAt_opensGuardLine (by decide) (by decide))
    (stopsAt_opensGuardLine (by decide) (by decide))
  have hwritten : guardLines (writtenConfig (some config)) =
      (config.entries.map fun entry => guardLines entry.1 + guardLines entry.2).sum := by
    rw [guardLines, toList_writtenConfig hsafe,
      occurrences_cons (opensGuardLine_cons (by decide)), occurrences_write,
      ConfigMap.pairs, List.map_map]
    rfl
  have hblank : action.blank = { args.bare with config := none } := by rw [haction]; rfl
  have hshown : action.shown = config.entries.flatMap fun entry => [entry.1, entry.2] := by
    rw [haction, DestroyAction.shown]
    simp [PlanDestroyArgs.bare, hop]
  have hsum : ((config.entries.flatMap fun entry => [entry.1, entry.2]).map guardLines).sum =
      (config.entries.map fun entry => guardLines entry.1 + guardLines entry.2).sum := by
    induction config.entries with
    | nil => rfl
    | cons entry rest ih =>
      simp only [List.flatMap_cons, List.map_append, List.sum_append, ih, List.map_cons,
        List.sum_cons, List.map_nil, List.sum_nil]
      omega
  have hnothing : guardLines (writtenConfig none) = 0 := by decide
  rw [hblank, hshown, haction, htext, htext, hcount (writtenConfig (some config)),
    hcount (writtenConfig none), hwritten, hsum, hnothing]
  omega

/-- **Forged lines** are those the shown values hold themselves. -/
theorem guardLines_previewOf [Externals] (h : buildDestroyAction args = .ok action) :
    guardLines (previewOf action state verdict) =
      guardLines (previewOf action.blank state verdict) + (action.shown.map guardLines).sum := by
  have hop := mem_plannedOps h
  simp only [plannedOps, List.mem_cons, List.not_mem_nil, or_false] at hop
  rcases hop with hop | hop | hop | hop | hop | hop | hop | hop
  · -- the text of a destruction shows no argument
    obtain rfl := eq_of_buildDestroyAction_destroy hop h
    have hshown : args.bare.shown = [] := by
      simp only [DestroyAction.shown, PlanDestroyArgs.bare, hop]
      rfl
    rw [@previewOf_destroy state verdict args.bare args.bare.blank hop hop, hshown]
    rfl
  · obtain ⟨snapname, -, rfl⟩ := eq_of_buildDestroyAction_snapshot (.inl hop) h
    refine guardLines_of_framed (framed_deleteSnapshot args state verdict hop) rfl rfl ?_
    simp only [DestroyAction.shown, PlanDestroyArgs.bare, hop]
    rfl
  · obtain ⟨snapname, -, rfl⟩ := eq_of_buildDestroyAction_snapshot (.inr hop) h
    refine guardLines_of_framed (framed_rollbackSnapshot args state verdict hop) rfl rfl ?_
    simp only [DestroyAction.shown, PlanDestroyArgs.bare, hop]
    rfl
  · obtain ⟨storageNode, storage, volid, -, -, -, haction⟩ :=
      eq_of_buildDestroyAction_volume (.inl hop) h
    exact guardLines_volume (.inl hop) storageNode storage volid haction
  · obtain ⟨storageNode, storage, volid, -, -, -, haction⟩ :=
      eq_of_buildDestroyAction_volume (.inr hop) h
    exact guardLines_volume (.inr hop) storageNode storage volid haction
  · obtain ⟨volid, -, rfl⟩ := eq_of_buildDestroyAction_restore hop h
    refine guardLines_of_framed (framed_restore args state verdict hop) rfl rfl ?_
    simp only [DestroyAction.shown, PlanDestroyArgs.bare, hop]
    rfl
  · obtain ⟨targetNode, -, rfl⟩ := eq_of_buildDestroyAction_migrate hop h
    refine guardLines_of_framed (framed_migrate args state verdict hop) rfl rfl ?_
    simp only [DestroyAction.shown, PlanDestroyArgs.bare, hop]
    rfl
  · obtain ⟨-, hsafe, haction⟩ := eq_of_buildDestroyAction_config hop h
    exact guardLines_config hop hsafe haction

end Counted

end ProxmoxMcp
