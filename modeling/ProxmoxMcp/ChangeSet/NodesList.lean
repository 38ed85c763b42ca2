import ProxmoxMcp.ChangeSet.HaRule
import ProxmoxMcp.Core.PathExpansion
import ProxmoxMcp.Fallible

/-!
# The node list of a rule

A node-affinity rule names its nodes in one text: entries joined by commas, each a node and perhaps
a colon with a **priority**. `NodesList` is that grammar.

`validateNodesList` asks that every character of a priority is a digit. Of an empty priority every
character is, so an entry may also end in its colon. Such a **dangling** list is accepted, and apart
from these the check is the grammar (`validateNodesList_correct_iff`).
-/

namespace ProxmoxMcp

open Text ProxmoxError Fallible

variable [Externals]

/-! ### The grammar -/

/-- The name of a node: not empty, free of the separators, and usable in a path. -/
structure NodeName (node : String) : Prop where
  ne_empty : node ≠ ""
  free : ',' ∉ node.toList ∧ ':' ∉ node.toList
  segment : IsSegment node

/-- An entry of the list: a node, and perhaps a colon and the digits of its priority. -/
def NodesEntry (entry : String) : Prop :=
  ∃ node, NodeName node ∧ (entry = node ∨ ∃ priority, IsDigits priority ∧
    entry = node ++ ":" ++ priority)

/-- An entry that **dangles**: a node and a colon. -/
def DanglingEntry (entry : String) : Prop := ∃ node, NodeName node ∧ entry = node ++ ":"

/-- A list of nodes: entries joined by commas, and at least one. -/
def NodesList (nodes : String) : Prop :=
  ∃ entries, entries ≠ [] ∧ nodes = ",".intercalate entries ∧ ∀ entry ∈ entries, NodesEntry entry

/-- A list that dangles: it would be one of nodes, but for entries that dangle. -/
def DanglingList (nodes : String) : Prop :=
  ∃ entries, nodes = ",".intercalate entries ∧
    (∀ entry ∈ entries, NodesEntry entry ∨ DanglingEntry entry) ∧
    ∃ entry ∈ entries, DanglingEntry entry

/-! ### Entries -/

/-- The check of one entry. -/
def validateNodesEntry (entry : String) : Except String Unit := do
  let (name, priority) := match splitOnce entry ':' with
    | some (name, priority) => (name, some priority)
    | none => (entry, none)
  if name.isEmpty then
    throw s!"nodes entry '{entry}' names no node"
  (Guests.validatePathSegment name "nodes").mapError fun error =>
    s!"nodes entry '{entry}' refused: {error.toText}"
  if let some priority := priority then
    if !priority.toList.all Char.isDigit then
      throw s!"nodes entry '{entry}' has a non-numeric priority '{priority}'"

private theorem validateNodesList_eq (nodes : String) :
    validateNodesList nodes =
      if nodes.isEmpty then .error "nodes must name at least one node"
      else (fields nodes ',').forM validateNodesEntry := rfl

private theorem validateNodesEntry_of_split {entry name priority : String}
    (hsplit : splitOnce entry ':' = some (name, priority)) :
    validateNodesEntry entry = .ok () ↔
      name ≠ "" ∧ IsSegment name ∧ ∀ c ∈ priority.toList, c.isDigit := by
  rw [validateNodesEntry, hsplit, ← @validatePathSegment_eq_ok_iff _ name "nodes"]
  by_cases hname : name = ""
  · simp [hname, throw, throwThe, MonadExceptOf.throw, bind, Except.bind]
  · cases hvalid : Guests.validatePathSegment name "nodes" with
    | error error => simp [hname, hvalid, Except.mapError, bind, Except.bind]
    | ok _ =>
      by_cases hdigits : ∀ c ∈ priority.toList, c.isDigit
      · have hall : priority.toList.all Char.isDigit = true := List.all_eq_true.mpr hdigits
        simpa [hname, hvalid, hall, Except.mapError, bind, Except.bind, pure, Except.pure]
          using hdigits
      · have hall : priority.toList.all Char.isDigit = false := by
          rw [Bool.eq_false_iff, ne_eq, List.all_eq_true]
          exact hdigits
        simp [hname, hvalid, hall, hdigits, Except.mapError, bind, Except.bind, throw, throwThe,
          MonadExceptOf.throw]

private theorem validateNodesEntry_of_not_split {entry : String}
    (hsplit : splitOnce entry ':' = none) :
    validateNodesEntry entry = .ok () ↔ entry ≠ "" ∧ IsSegment entry := by
  rw [validateNodesEntry, hsplit, ← @validatePathSegment_eq_ok_iff _ entry "nodes"]
  by_cases hentry : entry = ""
  · simp [hentry, throw, throwThe, MonadExceptOf.throw, bind, Except.bind]
  · cases hvalid : Guests.validatePathSegment entry "nodes" with
    | error error => simp [hentry, hvalid, Except.mapError, bind, Except.bind]
    | ok _ => simp [hentry, hvalid, Except.mapError, bind, Except.bind, pure, Except.pure]

omit [Externals] in
/-- The first colon of an entry is the one behind its node. -/
private theorem splitOnce_entry {node : String} (hfree : ':' ∉ node.toList) (priority : String) :
    splitOnce (node ++ ":" ++ priority) ':' = some (node, priority) :=
  splitOnce_append hfree priority

/-- An entry that dangles is outside the grammar. -/
theorem DanglingEntry.not_nodesEntry {entry : String} (h : DanglingEntry entry) :
    ¬ NodesEntry entry := by
  obtain ⟨node, hnode, rfl⟩ := h
  rintro ⟨node', hnode', heq | ⟨priority, hpriority, heq⟩⟩
  · exact hnode'.free.2 (by simp [← heq])
  · have hsplit := splitOnce_entry hnode.free.2 ""
    rw [String.append_empty, heq, splitOnce_entry hnode'.free.2] at hsplit
    exact hpriority.1 (Prod.mk.inj (Option.some.inj hsplit)).2

/-- **The check of an entry** accepts the grammar and, besides, the entries that dangle. -/
theorem validateNodesEntry_iff {entry : String} (hcomma : ',' ∉ entry.toList) :
    validateNodesEntry entry = .ok () ↔ NodesEntry entry ∨ DanglingEntry entry := by
  cases hsplit : splitOnce entry ':' with
  | none =>
    have hcolon := splitOnce_eq_none_iff.mp hsplit
    rw [validateNodesEntry_of_not_split hsplit]
    constructor
    · rintro ⟨hne, hsegment⟩
      exact .inl ⟨entry, ⟨hne, ⟨hcomma, hcolon⟩, hsegment⟩, .inl rfl⟩
    · rintro (⟨node, hnode, rfl | ⟨priority, -, rfl⟩⟩ | ⟨node, -, rfl⟩)
      · exact ⟨hnode.ne_empty, hnode.segment⟩
      · exact absurd (by simp) hcolon
      · exact absurd (by simp) hcolon
  | some halves =>
    obtain ⟨name, priority⟩ := halves
    obtain ⟨hcolon, hentry⟩ := splitOnce_eq_some_iff.mp hsplit
    have hentry' : entry = name ++ ":" ++ priority := by
      rw [← String.toList_inj, hentry]
      simp
    rw [validateNodesEntry_of_split hsplit]
    constructor
    · rintro ⟨hne, hsegment, hdigits⟩
      have hname : NodeName name :=
        ⟨hne, ⟨fun hmem => hcomma (by simp [hentry, hmem]), hcolon⟩, hsegment⟩
      by_cases hpriority : priority = ""
      · exact .inr ⟨name, hname, by rw [hentry', hpriority, String.append_empty]⟩
      · exact .inl ⟨name, hname, .inr ⟨priority, ⟨hpriority, hdigits⟩, hentry'⟩⟩
    · -- an entry is cut at the one colon behind its node
      have hparts {node rest : String} (hnode : NodeName node) (heq : entry = node ++ ":" ++ rest) :
          name = node ∧ priority = rest := by
        rw [heq, splitOnce_entry hnode.free.2] at hsplit
        obtain ⟨rfl, rfl⟩ := Prod.mk.inj (Option.some.inj hsplit)
        exact ⟨rfl, rfl⟩
      rintro (⟨node, hnode, heq | ⟨digits, hdigits, heq⟩⟩ | ⟨node, hnode, heq⟩)
      · exact absurd (by simp [← heq, hentry]) hnode.free.2
      · obtain ⟨rfl, rfl⟩ := hparts hnode heq
        exact ⟨hnode.ne_empty, hnode.segment, hdigits.2⟩
      · obtain ⟨rfl, rfl⟩ := hparts hnode (heq.trans (String.append_empty).symm)
        exact ⟨hnode.ne_empty, hnode.segment, by simp⟩

/-! ### Lists -/

/-- An entry of the grammar, dangling or not, holds no comma. -/
private theorem comma_notMem_entry {entry : String} (h : NodesEntry entry ∨ DanglingEntry entry) :
    ',' ∉ entry.toList := by
  rcases h with ⟨node, hnode, rfl | ⟨priority, hpriority, rfl⟩⟩ | ⟨node, hnode, rfl⟩
  · exact hnode.free.1
  · have hdigits : ',' ∉ priority.toList := fun hmem => absurd (hpriority.2 _ hmem) (by decide)
    simp [hnode.free.1, hdigits]
  · simp [hnode.free.1]

/-- A text that joins entries has them as its fields. -/
private theorem fields_of_entries {nodes : String} {entries : List String} (hne : entries ≠ [])
    (hnodes : nodes = ",".intercalate entries)
    (hentries : ∀ entry ∈ entries, NodesEntry entry ∨ DanglingEntry entry) :
    fields nodes ',' = entries := by
  rw [hnodes]
  exact fields_intercalate hne fun entry hentry => comma_notMem_entry (hentries entry hentry)

/-- The check accepts the texts whose fields are entries of the grammar or dangle. -/
private theorem validateNodesList_eq_ok_iff {nodes : String} :
    validateNodesList nodes = .ok () ↔
      ∀ entry ∈ fields nodes ',', NodesEntry entry ∨ DanglingEntry entry := by
  rw [validateNodesList_eq]
  have hfields : (fields nodes ',').forM validateNodesEntry = .ok () ↔
      ∀ entry ∈ fields nodes ',', NodesEntry entry ∨ DanglingEntry entry := by
    rw [show (fields nodes ',').forM validateNodesEntry =
      forM (fields nodes ',') validateNodesEntry from rfl, forM_eq_ok_iff]
    exact forall₂_congr fun entry hentry => validateNodesEntry_iff (notMem_of_mem_fields hentry)
  by_cases hempty : nodes = ""
  · subst hempty
    refine iff_of_false (by simp) fun hall => ?_
    -- the one field of the empty text is empty, and names no node
    rcases hall "" (by decide) with ⟨node, hnode, heq | ⟨priority, -, heq⟩⟩ | ⟨node, -, heq⟩
    · exact hnode.ne_empty heq.symm
    · exact absurd (congrArg String.toList heq) (by simp)
    · exact absurd (congrArg String.toList heq) (by simp)
  · rw [if_neg (by simpa using hempty)]
    exact hfields

private theorem nodesList_iff {nodes : String} :
    NodesList nodes ↔ ∀ entry ∈ fields nodes ',', NodesEntry entry := by
  constructor
  · rintro ⟨entries, hne, hnodes, hentries⟩
    rwa [fields_of_entries hne hnodes fun entry hentry => .inl (hentries entry hentry)]
  · exact fun h => ⟨fields nodes ',', fields_ne_nil, (intercalate_fields nodes ',').symm, h⟩

private theorem danglingList_iff {nodes : String} :
    DanglingList nodes ↔ (∀ entry ∈ fields nodes ',', NodesEntry entry ∨ DanglingEntry entry) ∧
      ∃ entry ∈ fields nodes ',', DanglingEntry entry := by
  constructor
  · rintro ⟨entries, hnodes, hentries, entry, hentry, hdangling⟩
    rw [fields_of_entries (List.ne_nil_of_mem hentry) hnodes hentries]
    exact ⟨hentries, entry, hentry, hdangling⟩
  · exact fun h => ⟨fields nodes ',', (intercalate_fields nodes ',').symm, h.1, h.2⟩

/-- **What is accepted.** The check accepts exactly the lists of the grammar, except that it accepts
the lists that dangle as well. -/
theorem validateNodesList_correct_iff {nodes : String} :
    (validateNodesList nodes = .ok () ↔ NodesList nodes) ↔ ¬ DanglingList nodes := by
  rw [validateNodesList_eq_ok_iff, nodesList_iff, danglingList_iff]
  constructor
  · rintro hcorrect ⟨hall, entry, hentry, hdangling⟩
    exact hdangling.not_nodesEntry (hcorrect.mp hall entry hentry)
  · intro hdangling
    refine ⟨fun hall entry hentry => (hall entry hentry).resolve_right fun hentry' =>
      hdangling ⟨hall, entry, hentry, hentry'⟩, fun hall entry hentry => .inl (hall entry hentry)⟩

omit [Externals] in
/-- A node with a colon behind it and no priority is accepted, and is no entry of the grammar. -/
theorem validateNodesList_dangling :
    @validateNodesList Externals.guarded "pve1:" = .ok () ∧
    ¬ @NodesList Externals.guarded "pve1:" := by
  let _ : Externals := Externals.guarded
  refine ⟨by decide, fun hlist => ?_⟩
  have hentry : DanglingEntry "pve1:" :=
    ⟨"pve1", ⟨by decide, by decide, isSegment_guarded.mpr (by decide)⟩, rfl⟩
  exact hentry.not_nodesEntry (nodesList_iff.mp hlist "pve1:" (by decide))

end ProxmoxMcp
