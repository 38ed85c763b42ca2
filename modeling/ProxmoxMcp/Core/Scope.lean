import ProxmoxMcp.Core.Grant
import ProxmoxMcp.Fallible

/-!
# The lattice of scopes

A grant is asked four things, by four functions: whether its scope is **unrestricted**, whether it
admits a **number** no guest has yet, a **guest** with all that is known about it, or a **subject**
`cluster/vmid`. `ScopeLattice` says how the answers hang together: unrestricted is more than every
number, a number is more than every guest that has it, a longer list of terms admits more, and a
term that does not parse admits nothing.

The first question is the only one that trims a term before it looks at it. A star with white space
around it parses as nothing and still counts as unrestricted, so the lattice stands exactly for the
grants in which such a term is accompanied by a plain star (`scopeLattice_iff`).
-/

namespace ProxmoxMcp

open Text

/-- What a grant can be asked to admit. -/
inductive ScopeQuestion where
  /-- Everything, also what is no guest at all. -/
  | everything
  /-- A number no guest has yet. -/
  | number (vmid : UInt32)
  /-- A guest, by all that is known about it. -/
  | guest (facts : GuestFacts)
  /-- A subject of the shared token store. -/
  | subject (address : String)

namespace ProxmoxGrant

/-- The answer of a grant. -/
def admits (grant : ProxmoxGrant) : ScopeQuestion → Bool
  | .everything => grant.isUnrestrictedGuestScope
  | .number vmid => grant.allowsNewVmid vmid
  | .guest facts => grant.allowsGuest facts
  | .subject address => grant.allowsSubject address

/-- The grant without the terms that do not parse. -/
def readable (grant : ProxmoxGrant) : ProxmoxGrant :=
  { grant with guests := grant.guests.filter fun term => (Selector.parse term).isOk }

/-- The four questions are asked of one order of scopes. -/
structure ScopeLattice (grant : ProxmoxGrant) : Prop where
  /-- What is unrestricted admits every number. -/
  everything_le : grant.admits .everything → ∀ vmid, grant.admits (.number vmid)
  /-- Who may have a number may have any guest with it. -/
  number_le : ∀ facts, grant.admits (.number facts.vmid) → grant.admits (.guest facts)
  /-- A subject is its number, on every cluster. -/
  subject_eq : ∀ (cluster : String) (vmid : UInt32), '/' ∉ cluster.toList →
    grant.admits (.subject s!"{cluster}/{vmid}") = grant.admits (.number vmid)
  /-- More terms admit more. -/
  mono : ∀ wider : ProxmoxGrant, grant.guests ⊆ wider.guests → ∀ question,
    grant.admits question → wider.admits question
  /-- What does not parse adds nothing. -/
  rejected : ∀ question, grant.admits question = grant.readable.admits question

variable {grant wider : ProxmoxGrant}

/-! ### Terms -/

theorem anyTerm_iff {admits : Selector → Bool} : grant.anyTerm admits ↔
    ∃ term ∈ grant.guests, ∃ selector, Selector.parse term = .ok selector ∧ admits selector := by
  rw [anyTerm, List.any_eq_true]
  refine exists_congr fun term => and_congr_right fun _ => ?_
  cases Selector.parse term with
  | error error => simp
  | ok selector => simp

private theorem anyTerm_mono {admits : Selector → Bool} (hsub : grant.guests ⊆ wider.guests)
    (h : grant.anyTerm admits) : wider.anyTerm admits := by
  obtain ⟨term, hmem, hterm⟩ := anyTerm_iff.mp h
  exact anyTerm_iff.mpr ⟨term, hsub hmem, hterm⟩

/-- Asking term by term passes over what does not parse. -/
private theorem anyTerm_readable {admits : Selector → Bool} :
    grant.anyTerm admits = grant.readable.anyTerm admits := by
  rw [Bool.eq_iff_iff, anyTerm_iff, anyTerm_iff]
  constructor
  · rintro ⟨term, hmem, selector, hparse, hselector⟩
    have hok : (Selector.parse term).isOk := by rw [hparse]; rfl
    exact ⟨term, List.mem_filter.mpr ⟨hmem, hok⟩, selector, hparse, hselector⟩
  · rintro ⟨term, hmem, hterm⟩
    exact ⟨term, List.mem_of_mem_filter hmem, hterm⟩

theorem isUnrestrictedGuestScope_iff :
    grant.isUnrestrictedGuestScope ↔ ∃ term ∈ grant.guests, trim term = "*" := by
  simp [isUnrestrictedGuestScope]

/-- A star that parses has nothing around it. -/
theorem eq_star_of_trim {term : String} (htrim : trim term = "*")
    (hparse : (Selector.parse term).isOk) : term = "*" := by
  by_contra hne
  have hcolon : ':' ∉ term.toList := by
    intro hmem
    have := mem_trim hmem (by decide)
    rw [htrim] at this
    simp at this
  rw [Selector.parse, if_neg hne, splitOnce_eq_none_iff.mpr hcolon] at hparse
  cases hparse

/-! ### The four questions -/

/-- A plain star admits every number. -/
private theorem allowsNewVmid_of_star (hstar : "*" ∈ grant.guests) (vmid : UInt32) :
    grant.allowsNewVmid vmid :=
  anyTerm_iff.mpr ⟨"*", hstar, .any, by decide, rfl⟩

/-- A subject in the usual form asks for its number. -/
private theorem allowsSubject_eq {cluster : String} (vmid : UInt32)
    (hcluster : '/' ∉ cluster.toList) :
    grant.allowsSubject s!"{cluster}/{vmid}" = grant.allowsNewVmid vmid := by
  have hsplit : splitOnce s!"{cluster}/{vmid}" '/' = some (cluster, toString vmid) :=
    splitOnce_eq_some_iff.mpr ⟨hcluster, by simp; rfl⟩
  rw [allowsSubject, hsplit, Option.bind_some, parseU32_toString]
  rfl

private theorem admits_mono (hsub : grant.guests ⊆ wider.guests) {question : ScopeQuestion}
    (h : grant.admits question) : wider.admits question := by
  cases question with
  | everything =>
    obtain ⟨term, hmem, htrim⟩ := isUnrestrictedGuestScope_iff.mp h
    exact isUnrestrictedGuestScope_iff.mpr ⟨term, hsub hmem, htrim⟩
  | number vmid => exact anyTerm_mono hsub h
  | guest facts => exact anyTerm_mono hsub h
  | subject address =>
    simp only [admits, allowsSubject] at h ⊢
    split at h
    · exact anyTerm_mono hsub h
    · cases h

/-- Only the question for everything can see a term that does not parse. -/
private theorem admits_readable {question : ScopeQuestion} (hne : question ≠ .everything) :
    grant.admits question = grant.readable.admits question := by
  cases question with
  | everything => exact absurd rfl hne
  | number vmid => exact anyTerm_readable
  | guest facts => exact anyTerm_readable
  | subject address =>
    simp only [admits, allowsSubject]
    split
    · exact anyTerm_readable
    · rfl

/-- In a lattice a star with white space around it stands beside a plain one. -/
theorem ScopeLattice.star (h : grant.ScopeLattice)
    (hstar : ∃ term ∈ grant.guests, trim term = "*") : "*" ∈ grant.guests := by
  have heverything := h.rejected .everything
  rw [admits, isUnrestrictedGuestScope_iff.mpr hstar] at heverything
  obtain ⟨term, hmem, htrim⟩ := isUnrestrictedGuestScope_iff.mp heverything.symm
  obtain ⟨hmem, hparse⟩ := List.mem_filter.mp hmem
  exact eq_star_of_trim htrim hparse ▸ hmem

private theorem scopeLattice_of_star
    (h : (∃ term ∈ grant.guests, trim term = "*") → "*" ∈ grant.guests) : grant.ScopeLattice := by
  refine ⟨fun heverything vmid => ?_, fun facts => allowsGuest_of_allowsNewVmid,
    fun cluster vmid => allowsSubject_eq vmid, fun wider hsub question => admits_mono hsub, ?_⟩
  · exact allowsNewVmid_of_star (h (isUnrestrictedGuestScope_iff.mp heverything)) vmid
  · intro question
    cases question with
    | everything =>
      rw [Bool.eq_iff_iff]
      constructor
      · intro heverything
        have hstar := h (isUnrestrictedGuestScope_iff.mp heverything)
        exact isUnrestrictedGuestScope_iff.mpr ⟨"*", List.mem_filter.mpr ⟨hstar, by decide⟩, by
          decide⟩
      · exact admits_mono List.filter_sublist.subset
    | _ => exact admits_readable nofun

/-- **The scopes form a lattice** exactly when a star with white space around it is accompanied by a
plain one. -/
theorem scopeLattice_iff (grant : ProxmoxGrant) :
    grant.ScopeLattice ↔ ((∃ term ∈ grant.guests, trim term = "*") → "*" ∈ grant.guests) :=
  ⟨fun h hstar => h.star hstar, scopeLattice_of_star⟩

/-- A padded star is unrestricted and admits nothing. -/
theorem not_scopeLattice_paddedStar : ¬ (ProxmoxGrant.mk [" *"] [.read]).ScopeLattice := by
  intro h
  have hstar := h.star ⟨" *", List.mem_singleton_self _, by decide⟩
  revert hstar
  decide

end ProxmoxGrant

end ProxmoxMcp
