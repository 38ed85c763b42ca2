import ProxmoxMcp.Core.Protect
import ProxmoxMcp.Fallible

/-!
# The waiver file

An operator lifts the protection of a guest for a time by an entry of the waiver file. The file
gives the end of that time as a timestamp; `WaiverFile.load` keeps it as an **unsigned** number of
seconds, with which `matchingWaiver` compares the clock.

`MatchesInTime` says what matching ought to do in terms of the file: the first entry about the
attempt whose timestamp is a later instant than now. It holds of a file exactly when no timestamp in
it is before 1970 (`matchesInTime_iff`). A negative instant, taken as unsigned, is one that never
comes.
-/

namespace ProxmoxMcp

/-- Why a waiver file is not loaded. -/
inductive WaiverError where
  /-- The hardened file loader refused the file. -/
  | securityCheck (reason : String)
  | invalidJson (reason : String)
  | unsupportedVersion (version : UInt32)
  | invalidTimestamp (reason : String)
  | emptyOps (cluster : String) (vmid : UInt32)
  deriving DecidableEq

def WaiverError.toText : WaiverError → String
  | securityCheck reason => s!"waiver file security check failed: {reason}"
  | invalidJson reason => s!"waiver file is not valid json: {reason}"
  | unsupportedVersion version => s!"unsupported waiver file version: {version}"
  | invalidTimestamp reason => s!"invalid timestamp in waiver entry: {reason}"
  | emptyOps cluster vmid => s!"waiver for cluster '{cluster}' vmid {vmid} has an empty 'ops' " ++
      "list; a waiver that covers no operation is not a waiver, name the operation(s) it covers " ++
      "explicitly"

/-- One entry as the file has it. -/
structure WaiverEntryRaw where
  cluster : String
  vmid : UInt32
  /-- The timestamp at which the waiver ends. -/
  untilText : String
  reason : String
  ticket : Option String
  ops : List String
  principal : Option String
  deriving DecidableEq

/-- The file as it is read. -/
structure WaiverFileRaw where
  version : UInt32
  waivers : List WaiverEntryRaw
  deriving DecidableEq

/-- Reads an RFC 3339 timestamp as an instant: whole seconds since 1970, negative before. -/
abbrev TimestampReader := String → Except String Int64

/-- What there is at the path of the waiver file: nothing, or what the loader and the JSON reader
make of it. -/
abbrev WaiverSource := Option (Except WaiverError WaiverFileRaw)

/-- The entries of a file that is there and readable. -/
def WaiverSource.rawEntries : WaiverSource → List WaiverEntryRaw
  | some (.ok file) => file.waivers
  | _ => []

namespace WaiverFile

/-- Load one entry. -/
def loadEntry (parseFromRfc3339 : TimestampReader) (raw : WaiverEntryRaw) :
    Except WaiverError WaiverEntry :=
  if raw.ops.isEmpty then .error (.emptyOps raw.cluster raw.vmid)
  else match parseFromRfc3339 raw.untilText with
    | .error reason => .error (.invalidTimestamp reason)
    | .ok timestamp => .ok
        ⟨raw.cluster, raw.vmid, timestamp.toUInt64, raw.reason, raw.ticket, raw.ops, raw.principal⟩

/-- Load the waiver file; one that is not there has no entries. -/
def load (parseFromRfc3339 : TimestampReader) (source : WaiverSource) :
    Except WaiverError (List WaiverEntry) :=
  match source with
  | none => .ok []
  | some file => do
    let raw ← file
    if raw.version ≠ 1 then
      throw (.unsupportedVersion raw.version)
    raw.waivers.mapM (loadEntry parseFromRfc3339)

end WaiverFile

/-! ### What the file says -/

variable {parseFromRfc3339 : TimestampReader}

/-- An entry of the file waives protection for an attempt at an instant. -/
structure WaiverEntryRaw.Waives (parseFromRfc3339 : TimestampReader) (raw : WaiverEntryRaw)
    (cluster : String) (vmid : UInt32) (nowUnix : UInt64) (attempt : DestructiveAttempt) :
    Prop where
  cluster : raw.cluster = cluster
  vmid : raw.vmid = vmid
  op : attempt.op ∈ raw.ops
  principal : ∀ bound, raw.principal = some bound → attempt.principal = some bound
  inTime : ∃ timestamp, parseFromRfc3339 raw.untilText = .ok timestamp ∧
    (nowUnix.toNat : ℤ) < timestamp.toInt

/-- An entry was loaded from the first of the entries that waives. -/
def FirstWaives (parseFromRfc3339 : TimestampReader) (raws : List WaiverEntryRaw) (cluster : String)
    (vmid : UInt32) (nowUnix : UInt64) (attempt : DestructiveAttempt)
    (entry : WaiverEntry) : Prop :=
  ∃ before raw after, raws = before ++ raw :: after ∧
    (∀ other ∈ before, ¬ other.Waives parseFromRfc3339 cluster vmid nowUnix attempt) ∧
    raw.Waives parseFromRfc3339 cluster vmid nowUnix attempt ∧
    WaiverFile.loadEntry parseFromRfc3339 raw = .ok entry

/-- **Waivers match in time**: an attempt finds the first entry of the file that waives it, and
finds none exactly when no entry does. -/
def MatchesInTime (parseFromRfc3339 : TimestampReader) (raws : List WaiverEntryRaw)
    (waivers : List WaiverEntry) : Prop :=
  ∀ cluster vmid nowUnix attempt,
    (∀ entry, matchingWaiver waivers cluster vmid nowUnix attempt = some entry ↔
      FirstWaives parseFromRfc3339 raws cluster vmid nowUnix attempt entry) ∧
    (matchingWaiver waivers cluster vmid nowUnix attempt = none ↔
      ∀ raw ∈ raws, ¬ raw.Waives parseFromRfc3339 cluster vmid nowUnix attempt)

/-! ### Loading -/

theorem WaiverFile.forall₂_of_load {source : WaiverSource} {waivers : List WaiverEntry}
    (h : load parseFromRfc3339 source = .ok waivers) :
    List.Forall₂ (fun raw entry => loadEntry parseFromRfc3339 raw = .ok entry) source.rawEntries
      waivers := by
  match source with
  | none =>
    obtain rfl := Except.ok.inj h
    exact .nil
  | some (.error error) => cases h
  | some (.ok raw) =>
    simp only [load, bind, Except.bind] at h
    split at h
    · cases h
    · exact Fallible.mapM_eq_ok_iff.mp h

theorem WaiverFile.loadEntry_eq_ok {raw : WaiverEntryRaw} {entry : WaiverEntry}
    (h : loadEntry parseFromRfc3339 raw = .ok entry) : raw.ops ≠ [] ∧
      ∃ timestamp, parseFromRfc3339 raw.untilText = .ok timestamp ∧ entry =
        ⟨raw.cluster, raw.vmid, timestamp.toUInt64, raw.reason, raw.ticket, raw.ops,
          raw.principal⟩ := by
  rw [loadEntry] at h
  split_ifs at h with hops
  have hne : raw.ops ≠ [] := by simpa using hops
  cases htime : parseFromRfc3339 raw.untilText with
  | error reason =>
    rw [htime] at h
    cases h
  | ok timestamp =>
    rw [htime] at h
    exact ⟨hne, timestamp, rfl, (Except.ok.inj h).symm⟩

/-! ### Instants as unsigned numbers -/

/-- An instant since 1970 keeps its value. -/
private theorem toNat_toUInt64_of_nonneg {timestamp : Int64} (h : 0 ≤ timestamp.toInt) :
    (timestamp.toUInt64.toNat : ℤ) = timestamp.toInt := by
  have hcond : timestamp.toInt = if 2 * timestamp.toUInt64.toNat < 2 ^ 64
      then (timestamp.toUInt64.toNat : ℤ) else timestamp.toUInt64.toNat - 2 ^ 64 :=
    BitVec.toInt_eq_toNat_cond timestamp.toBitVec
  have hlt := timestamp.toUInt64.toNat_lt
  split_ifs at hcond with hsmall
  · exact hcond.symm
  · omega

/-- An instant before 1970 is taken for one that never comes. -/
private theorem le_toNat_toUInt64_of_neg {timestamp : Int64} (h : timestamp.toInt < 0) :
    2 ^ 63 ≤ timestamp.toUInt64.toNat := by
  have hcond : timestamp.toInt = if 2 * timestamp.toUInt64.toNat < 2 ^ 64
      then (timestamp.toUInt64.toNat : ℤ) else timestamp.toUInt64.toNat - 2 ^ 64 :=
    BitVec.toInt_eq_toNat_cond timestamp.toBitVec
  split_ifs at hcond with hsmall
  · omega
  · omega

/-! ### Matching -/

section Matching

variable {raw : WaiverEntryRaw} {entry : WaiverEntry} {cluster : String} {vmid : UInt32}
  {nowUnix : UInt64} {attempt : DestructiveAttempt}

theorem WaiverEntry.covers_iff : entry.covers cluster vmid nowUnix attempt ↔
    entry.cluster = cluster ∧ entry.vmid = vmid ∧ nowUnix < entry.untilUnix ∧
      attempt.op ∈ entry.ops ∧
      ∀ bound, entry.principal = some bound → attempt.principal = some bound := by
  rw [covers]
  cases entry.principal with
  | none => simp [and_assoc]
  | some bound => simp [and_assoc]

/-- A loaded entry covers what the file waives, when its timestamp is not before 1970. -/
theorem WaiverEntry.covers_iff_waives
    (hload : WaiverFile.loadEntry parseFromRfc3339 raw = .ok entry)
    (hsince : ∀ timestamp, parseFromRfc3339 raw.untilText = .ok timestamp → 0 ≤ timestamp.toInt) :
    entry.covers cluster vmid nowUnix attempt ↔
      raw.Waives parseFromRfc3339 cluster vmid nowUnix attempt := by
  obtain ⟨-, timestamp, htime, rfl⟩ := WaiverFile.loadEntry_eq_ok hload
  have hvalue := toNat_toUInt64_of_nonneg (hsince timestamp htime)
  rw [covers_iff]
  constructor
  · rintro ⟨hcluster, hvmid, hlt, hop, hprincipal⟩
    have hnow : nowUnix.toNat < timestamp.toUInt64.toNat := UInt64.lt_iff_toNat_lt.mp hlt
    exact ⟨hcluster, hvmid, hop, hprincipal, timestamp, htime, by omega⟩
  · rintro ⟨hcluster, hvmid, hop, hprincipal, timestamp', htime', hlt⟩
    obtain rfl := Except.ok.inj (htime.symm.trans htime')
    have hnow : nowUnix.toNat < timestamp.toUInt64.toNat := by omega
    exact ⟨hcluster, hvmid, UInt64.lt_iff_toNat_lt.mpr hnow, hop, hprincipal⟩

/-- What an entry that does not waive leaves to the entries behind it. -/
private theorem firstWaives_cons_iff {raws : List WaiverEntryRaw}
    (hnot : ¬ raw.Waives parseFromRfc3339 cluster vmid nowUnix attempt) :
    FirstWaives parseFromRfc3339 (raw :: raws) cluster vmid nowUnix attempt entry ↔
      FirstWaives parseFromRfc3339 raws cluster vmid nowUnix attempt entry := by
  constructor
  · rintro ⟨before, found, after, hsplit, hbefore, hwaives, hload⟩
    cases before with
    | nil =>
      obtain ⟨rfl, -⟩ := List.cons.inj hsplit
      exact absurd hwaives hnot
    | cons first before =>
      obtain ⟨-, hsplit⟩ := List.cons.inj hsplit
      exact ⟨before, found, after, hsplit, (List.forall_mem_cons.mp hbefore).2, hwaives, hload⟩
  · rintro ⟨before, found, after, rfl, hbefore, hwaives, hload⟩
    exact ⟨raw :: before, found, after, rfl, List.forall_mem_cons.mpr ⟨hnot, hbefore⟩, hwaives,
      hload⟩

/-- The first entry that covers is loaded from the first that waives. -/
private theorem matchingWaiver_iff {raws : List WaiverEntryRaw} {waivers : List WaiverEntry}
    (hload : List.Forall₂ (fun raw entry => WaiverFile.loadEntry parseFromRfc3339 raw = .ok entry)
      raws waivers)
    (hsince : ∀ raw ∈ raws, ∀ timestamp, parseFromRfc3339 raw.untilText = .ok timestamp →
      0 ≤ timestamp.toInt) :
    (∀ entry, matchingWaiver waivers cluster vmid nowUnix attempt = some entry ↔
      FirstWaives parseFromRfc3339 raws cluster vmid nowUnix attempt entry) ∧
    (matchingWaiver waivers cluster vmid nowUnix attempt = none ↔
      ∀ raw ∈ raws, ¬ raw.Waives parseFromRfc3339 cluster vmid nowUnix attempt) := by
  induction hload with
  | nil => simp [matchingWaiver, FirstWaives]
  | @cons raw entry raws waivers hfirst hrest ih =>
    obtain ⟨hsinceFirst, hsinceRest⟩ := List.forall_mem_cons.mp hsince
    have hcovers := @WaiverEntry.covers_iff_waives _ _ _ cluster vmid nowUnix attempt hfirst
      hsinceFirst
    -- the entry covers what its raw form waives, so both lists are cut at one place
    rw [matchingWaiver, List.find?_cons]
    cases hfound : entry.covers cluster vmid nowUnix attempt with
    | true =>
      have hwaives := hcovers.mp hfound
      refine ⟨fun found => ⟨?_, ?_⟩, by simp [hwaives]⟩
      · rintro ⟨rfl⟩
        exact ⟨[], raw, raws, rfl, by simp, hwaives, hfirst⟩
      · rintro ⟨before, raw', after, hsplit, hbefore, -, hload'⟩
        cases before with
        | nil =>
          obtain ⟨rfl, -⟩ := List.cons.inj hsplit
          rw [Except.ok.inj (hfirst.symm.trans hload')]
        | cons first before =>
          obtain ⟨rfl, -⟩ := List.cons.inj hsplit
          exact absurd hwaives (hbefore raw List.mem_cons_self)
    | false =>
      have hnot : ¬ raw.Waives parseFromRfc3339 cluster vmid nowUnix attempt := by
        rw [← hcovers, hfound]
        exact Bool.false_ne_true
      obtain ⟨hsome, hnone⟩ := ih hsinceRest
      refine ⟨fun found => (hsome found).trans (firstWaives_cons_iff hnot).symm, hnone.trans ?_⟩
      rw [List.forall_mem_cons]
      exact (and_iff_right hnot).symm

/-- An entry that ends before 1970 is found at a time when no entry waives anything any more. -/
private theorem exists_attempt_of_neg {raws : List WaiverEntryRaw} {waivers : List WaiverEntry}
    (hload : List.Forall₂ (fun raw entry => WaiverFile.loadEntry parseFromRfc3339 raw = .ok entry)
      raws waivers) {raw : WaiverEntryRaw} (hmem : raw ∈ raws) {timestamp : Int64}
    (htime : parseFromRfc3339 raw.untilText = .ok timestamp) (hneg : timestamp.toInt < 0) :
    ¬ MatchesInTime parseFromRfc3339 raws waivers := by
  intro hmatches
  obtain ⟨entry, hentry, hentryLoad⟩ := Fallible.exists_of_mem_of_forall₂ hload hmem
  obtain ⟨hops, timestamp', htime', rfl⟩ := WaiverFile.loadEntry_eq_ok hentryLoad
  obtain rfl := Except.ok.inj (htime.symm.trans htime')
  obtain ⟨op, hop⟩ := List.exists_mem_of_ne_nil _ hops
  -- the last second that an instant can name
  let last : UInt64 := UInt64.ofNat (2 ^ 63 - 1)
  obtain ⟨-, hnone⟩ := hmatches raw.cluster raw.vmid last ⟨op, raw.principal⟩
  have hspent : ∀ raw' ∈ raws, ¬ raw'.Waives parseFromRfc3339 raw.cluster raw.vmid last
      ⟨op, raw.principal⟩ := by
    rintro raw' - ⟨-, -, -, -, instant, -, hlt⟩
    have hlast : last.toNat = 2 ^ 63 - 1 := rfl
    have hbound := instant.toInt_lt
    omega
  have hnever := le_toNat_toUInt64_of_neg hneg
  have hlt : last < timestamp.toUInt64 := UInt64.lt_iff_toNat_lt.mpr (by
    have hlast : last.toNat = 2 ^ 63 - 1 := rfl
    omega)
  refine absurd (List.find?_eq_none.mp (hnone.mpr hspent) _ hentry) ?_
  rw [not_not]
  exact WaiverEntry.covers_iff.mpr ⟨rfl, rfl, hlt, hop, fun _ hbound => hbound⟩

/-- **When waivers match in time**: exactly for the files in which no timestamp is before 1970. -/
theorem matchesInTime_iff {source : WaiverSource} {waivers : List WaiverEntry}
    (hload : WaiverFile.load parseFromRfc3339 source = .ok waivers) :
    MatchesInTime parseFromRfc3339 source.rawEntries waivers ↔
      ∀ raw ∈ source.rawEntries, ∀ timestamp, parseFromRfc3339 raw.untilText = .ok timestamp →
        0 ≤ timestamp.toInt := by
  have hloaded := WaiverFile.forall₂_of_load hload
  constructor
  · intro hmatches raw hmem timestamp htime
    by_contra hneg
    exact exists_attempt_of_neg hloaded hmem htime (by omega) hmatches
  · exact fun hsince cluster vmid nowUnix attempt => matchingWaiver_iff hloaded hsince

end Matching

/-! ### A waiver that has always been over -/

/-- A reader that knows the last second before 1970 and the first of 2030. -/
def readTwoTimestamps : TimestampReader
  | "1969-12-31T23:59:59Z" => .ok (-1)
  | "2030-01-01T00:00:00Z" => .ok 1893456000
  | _ => .error "input contains invalid characters"

/-- A waiver for destroying guest 100. -/
def destroyWaiver (untilText : String) : WaiverEntryRaw :=
  ⟨"pve", 100, untilText, "decommission", none, ["destroy_guest"], none⟩

/-- A file with one entry. -/
def oneWaiver (untilText : String) : WaiverSource := some (.ok ⟨1, [destroyWaiver untilText]⟩)

theorem matchesInTime_iff_oneWaiver :
    MatchesInTime readTwoTimestamps (oneWaiver "2030-01-01T00:00:00Z").rawEntries
      [⟨"pve", 100, 1893456000, "decommission", none, ["destroy_guest"], none⟩] := by
  refine (@matchesInTime_iff readTwoTimestamps (oneWaiver "2030-01-01T00:00:00Z") _ rfl).mpr ?_
  intro raw hmem timestamp htime
  obtain rfl := List.mem_singleton.mp hmem
  obtain rfl := Except.ok.inj htime
  decide

/-- A waiver that ended in 1969 waives the protection of its guest at every time. -/
theorem not_matchesInTime_oneWaiver : ∃ waivers,
    WaiverFile.load readTwoTimestamps (oneWaiver "1969-12-31T23:59:59Z") = .ok waivers ∧
      ¬ MatchesInTime readTwoTimestamps (oneWaiver "1969-12-31T23:59:59Z").rawEntries waivers := by
  refine ⟨_, rfl, fun hmatches => ?_⟩
  obtain ⟨-, hnone⟩ := hmatches "pve" 100 1893456000 ⟨"destroy_guest", none⟩
  have hnot : ∀ raw ∈ (oneWaiver "1969-12-31T23:59:59Z").rawEntries,
      ¬ raw.Waives readTwoTimestamps "pve" 100 1893456000 ⟨"destroy_guest", none⟩ := by
    rintro raw hmem ⟨-, -, -, -, timestamp, htime, hlt⟩
    obtain rfl := List.mem_singleton.mp hmem
    obtain rfl := Except.ok.inj htime
    revert hlt
    decide
  exact absurd (hnone.mpr hnot) (by decide)

end ProxmoxMcp
