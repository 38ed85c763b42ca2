import Mathlib
import ProxmoxMcp.Effect
import ProxmoxMcp.Server.GuestConfig

/-!
# Stored actions

A change set carries its action as a JSON value, and an apply reads the action back from there and
from nowhere else. Absent optional fields are left out when an action is written
(`presentMembers`); reading takes the fields **by name** out of an object, or by position out of an
array that has no more items than the action has fields.
-/

namespace ProxmoxMcp

/-! ### Writing -/

/-- The members that are present. -/
def presentMembers (members : List (String × Option Json)) : List (String × Json) :=
  members.filterMap fun member => member.2.map (member.1, ·)

/-- A member is found where it was written, if it was. -/
theorem lookup_presentMembers {members : List (String × Option Json)}
    (hnodup : (members.map Prod.fst).Nodup) (name : String) :
    (presentMembers members).lookup name = (members.lookup name).join := by
  induction members with
  | nil => rfl
  | cons member members ih =>
    obtain ⟨key, value⟩ := member
    obtain ⟨hkey, hrest⟩ := List.nodup_cons.mp hnodup
    replace ih := ih hrest
    by_cases hname : name = key
    · subst hname
      cases value with
      | some value => simp [presentMembers]
      | none =>
        have habsent : members.lookup name = none :=
          List.lookup_eq_none_iff.mpr fun member hmem => bne_iff_ne.mpr fun heq =>
            hkey (List.mem_map.mpr ⟨member, hmem, heq.symm⟩)
        simpa [presentMembers, habsent] using ih
    · have hbeq : (name == key) = false := beq_false_of_ne hname
      cases value <;> simpa [presentMembers, List.lookup_cons, hbeq] using ih

/-! ### Reading -/

/-- The fields of a value read as a struct with fields of these names. -/
def structFields (names : List String) : Json → Option (String → Option Json)
  | .object members => some fun name => members.lookup name
  | .array items =>
    if items.length ≤ names.length then some fun name => (names.zip items).lookup name else none
  | _ => none

/-- A number that fits 32 bits. -/
def Json.asU32 (value : Json) : Option UInt32 :=
  value.asU64.bind fun number =>
    if number.toNat < UInt32.size then some number.toUInt32 else none

@[simp] theorem Json.asU32_unsigned {value : UInt32} :
    (unsigned value.toUInt64).asU32 = some value := by
  have hsize : value.toNat < UInt32.size := value.toNat_lt
  simp [asU32, hsize]

/-- A list of texts. -/
def Json.asStrings (value : Json) : Option (List String) :=
  value.asArray.bind fun items => items.mapM asStr

@[simp] theorem Json.asStrings_strings {values : List String} :
    (array (values.map string)).asStrings = some values := by
  induction values with
  | nil => rfl
  | cons value values ih =>
    simp only [asStrings, asArray, Option.bind_some, List.map_cons, List.mapM_cons, asStr_string,
      Option.bind_eq_bind] at ih ⊢
    simp [ih]

/-- An optional field may be absent or null. -/
def optionalMember {α : Type} (read : Json → Option α) : Option Json → Option (Option α)
  | none | some .null => some none
  | some value => (read value).map some

@[simp] theorem optionalMember_none {α : Type} {read : Json → Option α} :
    optionalMember read none = some none := rfl

private theorem optionalMember_some {α : Type} {read : Json → Option α} {value : Json} {a : α}
    (hnull : value ≠ .null) (hread : read value = some a) :
    optionalMember read (some value) = some (some a) := by
  cases value with
  | null => exact absurd rfl hnull
  | _ => simp [optionalMember, hread]

/-- An optional text is read as it was written. -/
@[simp] theorem optionalMember_asStr {value : Option String} :
    optionalMember Json.asStr (value.map .string) = some value := by
  cases value <;> rfl

@[simp] theorem optionalMember_asBool {value : Option Bool} :
    optionalMember Json.asBool (value.map .bool) = some value := by
  cases value <;> rfl

@[simp] theorem optionalMember_asStrings {value : Option (List String)} :
    optionalMember Json.asStrings (value.map fun values => .array (values.map .string)) =
      some value := by
  cases value with
  | none => rfl
  | some values => exact optionalMember_some (by simp) Json.asStrings_strings

/-- A flag that is off when it is absent. -/
def flagMember : Option Json → Option Bool
  | none => some false
  | some value => value.asBool

@[simp] theorem flagMember_bool {value : Bool} : flagMember (some (.bool value)) = some value := rfl

/-! ### Configs -/

/-- Put an entry into a list that is sorted by its keys. -/
def insertEntry (key value : String) : List (String × String) → List (String × String)
  | [] => [(key, value)]
  | entry :: rest =>
    if key < entry.1 then (key, value) :: entry :: rest
    else if key = entry.1 then (key, value) :: rest
    else entry :: insertEntry key value rest

private theorem mem_insertEntry {key value : String} {entries : List (String × String)}
    {entry : String × String} (h : entry ∈ insertEntry key value entries) :
    entry = (key, value) ∨ entry ∈ entries := by
  induction entries with
  | nil => simpa [insertEntry] using h
  | cons first rest ih =>
    simp only [insertEntry] at h
    split_ifs at h
    · simpa using h
    · exact (List.mem_cons.mp h).imp_right (List.mem_cons_of_mem _)
    · rcases List.mem_cons.mp h with rfl | h
      · exact Or.inr List.mem_cons_self
      · exact (ih h).imp_right (List.mem_cons_of_mem _)

private theorem sorted_insertEntry {key value : String} {entries : List (String × String)}
    (h : (entries.map Prod.fst).Pairwise (· < ·)) :
    ((insertEntry key value entries).map Prod.fst).Pairwise (· < ·) := by
  rw [List.pairwise_map] at h ⊢
  induction entries with
  | nil => simp [insertEntry]
  | cons first rest ih =>
    obtain ⟨hfirst, hrest⟩ := List.pairwise_cons.mp h
    simp only [insertEntry]
    split_ifs with hlt heq
    · refine List.pairwise_cons.mpr ⟨fun entry hentry => ?_, h⟩
      rcases List.mem_cons.mp hentry with rfl | hentry
      · exact hlt
      · exact hlt.trans (hfirst entry hentry)
    · exact List.pairwise_cons.mpr ⟨fun entry hentry => heq ▸ hfirst entry hentry, hrest⟩
    · refine List.pairwise_cons.mpr ⟨fun entry hentry => ?_, ih hrest⟩
      rcases mem_insertEntry hentry with rfl | hentry
      · exact lt_of_le_of_ne (not_lt.mp hlt) (Ne.symm heq)
      · exact hfirst entry hentry

/-- Behind every key of a list, an entry goes to its end. -/
private theorem insertEntry_eq_append {key value : String} {entries : List (String × String)}
    (h : ∀ entry ∈ entries, entry.1 < key) :
    insertEntry key value entries = entries ++ [(key, value)] := by
  induction entries with
  | nil => rfl
  | cons first rest ih =>
    have hfirst := h first List.mem_cons_self
    rw [insertEntry, if_neg hfirst.not_gt, if_neg hfirst.ne', ih fun entry hentry =>
      h entry (List.mem_cons_of_mem _ hentry), List.cons_append]

namespace ConfigMap

/-- No entries. -/
def empty : ConfigMap := ⟨[], List.Pairwise.nil⟩

/-- Put an entry in, in place of one with its key. -/
def insert (config : ConfigMap) (entry : String × String) : ConfigMap :=
  ⟨insertEntry entry.1 entry.2 config.entries, sorted_insertEntry config.sorted⟩

/-- Collect entries; of two with one key the later one counts. -/
def ofEntries (entries : List (String × String)) : ConfigMap := entries.foldl insert empty

@[ext] theorem ext {config config' : ConfigMap} (h : config.entries = config'.entries) :
    config = config' := by
  obtain ⟨entries, _⟩ := config
  obtain rfl : entries = config'.entries := h
  rfl

private theorem foldl_insert_entries {entries : List (String × String)} {config : ConfigMap}
    (h : ((config.entries ++ entries).map Prod.fst).Pairwise (· < ·)) :
    (entries.foldl insert config).entries = config.entries ++ entries := by
  induction entries generalizing config with
  | nil => simp
  | cons entry rest ih =>
    have hbelow : ∀ other ∈ config.entries, other.1 < entry.1 := by
      rw [List.map_append, List.pairwise_append] at h
      exact fun other hother => h.2.2 _ (List.mem_map_of_mem hother) _ List.mem_cons_self
    have hinsert : (config.insert entry).entries = config.entries ++ [entry] :=
      insertEntry_eq_append hbelow
    rw [List.foldl_cons, ih (by simpa [hinsert] using h), hinsert, List.append_assoc,
      List.singleton_append]

/-- A config is collected back from its entries. -/
@[simp] theorem ofEntries_entries {config : ConfigMap} : ofEntries config.entries = config :=
  ext (@foldl_insert_entries _ empty config.sorted)

/-- A config as a JSON object. -/
def toJson (config : ConfigMap) : Json :=
  .object (config.entries.map fun entry => (entry.1, .string entry.2))

/-- Read one entry, which has to be a text. -/
def readEntry (member : String × Json) : Option (String × String) :=
  member.2.asStr.map (member.1, ·)

/-- Read an object of texts. -/
def fromJson : Json → Option ConfigMap
  | .object members => (members.mapM readEntry).map ofEntries
  | _ => none

@[simp] theorem fromJson_toJson {config : ConfigMap} : fromJson config.toJson = some config := by
  have hentries (entries : List (String × String)) :
      (entries.map fun entry => (entry.1, Json.string entry.2)).mapM readEntry =
        some entries := by
    induction entries with
    | nil => rfl
    | cons entry entries ih => simp [List.mapM_cons, ih, readEntry]
  simp [toJson, fromJson, hentries]

@[simp] theorem optionalMember_fromJson {value : Option ConfigMap} :
    optionalMember fromJson (value.map toJson) = some value := by
  cases value with
  | none => rfl
  | some config => exact optionalMember_some (by simp [toJson]) fromJson_toJson

end ConfigMap

end ProxmoxMcp
