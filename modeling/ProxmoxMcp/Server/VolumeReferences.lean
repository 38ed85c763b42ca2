import ProxmoxMcp.Server.GuestConfig
import ProxmoxMcp.Utf8

/-!
# The search for volume names

`contains_volume_reference` looks for a prefix, cuts the text behind it, and looks on in the rest,
with all positions counted in **bytes**. The loop below is written as it is there: a cut inside a
character is a fault, and so is running out of the iterations it is given.

Neither comes to pass (`findReference_eq`): every cut is made where a part of the text ends that was
found, and every iteration leaves a shorter text. What the loop answers is whether the text holds
the name of a guest's volume.
-/

namespace ProxmoxMcp

open Text Utf8
open String (utf8Len)

/-- Why a loop over the bytes of a text does not return. -/
inductive LoopFault where
  /-- A cut inside a character, or behind the end. -/
  | slice
  /-- More iterations than were allowed. -/
  | running
  deriving DecidableEq

/-- The byte offset of the first occurrence of `pat`. -/
def findBytes (pat l : List Char) : Option ℕ :=
  (splitListAround pat l).map fun halves => utf8Len halves.1

/-- The text from a byte offset on. -/
def sliceFrom (offset : ℕ) (l : List Char) : Except LoopFault (List Char) :=
  match splitAtByte offset l with
  | some (_, rest) => .ok rest
  | none => .error .slice

/-- The search for `pat`, digits and a dash, for at most `fuel` iterations. -/
def findReference (pat : List Char) : ℕ → List Char → Except LoopFault Bool
  | 0, _ => .error .running
  | fuel + 1, rest => match findBytes pat rest with
    | none => .ok false
    | some idx => do
      let after ← sliceFrom (idx + utf8Len pat) rest
      let digits := utf8Len after - utf8Len (after.dropWhile Char.isDigit)
      -- the text behind the digits is cut off only when there are digits
      let named ← if digits > 0 then
          (sliceFrom digits after).map fun behind => ['-'].isPrefixOf behind
        else .ok false
      if named then return true
      findReference pat fuel (← sliceFrom (idx + utf8Len pat) rest)

/-- Look for both prefixes, one after the other. -/
def findVolumeReference (fuel : ℕ) (value : String) : Except LoopFault Bool := do
  if ← findReference "vm-".toList fuel value.toList then return true
  findReference "base-".toList fuel value.toList

/-! ### Cuts and iterations -/

private theorem sliceFrom_append (x y : List Char) : sliceFrom (utf8Len x) (x ++ y) = .ok y := by
  rw [sliceFrom, splitAtByte_append]

/-- The digits at the front of a text, in bytes. -/
private theorem utf8Len_sub_dropWhile (after : List Char) :
    utf8Len after - utf8Len (after.dropWhile Char.isDigit) =
      utf8Len (after.takeWhile Char.isDigit) := by
  have hlen : utf8Len after = utf8Len (after.takeWhile Char.isDigit) +
      utf8Len (after.dropWhile Char.isDigit) := by
    rw [← String.utf8Len_append, List.takeWhile_append_dropWhile]
  omega

/-- The text behind the digits is cut off where they end. -/
private theorem sliceFrom_digits (after : List Char) :
    sliceFrom (utf8Len (after.takeWhile Char.isDigit)) after =
      .ok (after.dropWhile Char.isDigit) := by
  have hcut := sliceFrom_append (after.takeWhile Char.isDigit) (after.dropWhile Char.isDigit)
  rwa [List.takeWhile_append_dropWhile] at hcut

section Iteration

variable {pat rest after x : List Char} {hpat : pat ≠ []}

private theorem volumeReferenceFrom_of_none (h : dropThrough pat rest = none) :
    volumeReferenceFrom pat hpat rest = false := by
  rw [volumeReferenceFrom]
  split
  · rfl
  · next hsome => rw [h] at hsome; cases hsome

private theorem volumeReferenceFrom_of_some (h : dropThrough pat rest = some after) :
    volumeReferenceFrom pat hpat rest =
      if after.takeWhile Char.isDigit ≠ [] ∧
        ['-'] <+: after.drop (after.takeWhile Char.isDigit).length then true
      else volumeReferenceFrom pat hpat after := by
  conv_lhs => rw [volumeReferenceFrom]
  split
  · next hnone => rw [h] at hnone; cases hnone
  · next after' hsome =>
    obtain rfl := Option.some.inj (h.symm.trans hsome)
    rfl

/-- One iteration behind an occurrence: the name is complete, or the search goes on. -/
private theorem findReference_succ (hcut : splitListAround pat rest = some (x, after)) (fuel : ℕ) :
    findReference pat (fuel + 1) rest =
      if after.takeWhile Char.isDigit ≠ [] ∧
        ['-'] <+: after.drop (after.takeWhile Char.isDigit).length then .ok true
      else findReference pat fuel after := by
  have hslice : sliceFrom (utf8Len x + utf8Len pat) rest = .ok after := by
    have hbehind := sliceFrom_append (x ++ pat) after
    rwa [List.append_assoc, ← splitListAround_eq_some hcut, String.utf8Len_append] at hbehind
  have hdrop : after.drop (after.takeWhile Char.isDigit).length = after.dropWhile Char.isDigit := by
    have hleft := @List.drop_left _ (after.takeWhile Char.isDigit) (after.dropWhile Char.isDigit)
    rwa [List.takeWhile_append_dropWhile] at hleft
  rw [findReference, findBytes, hcut]
  simp only [Option.map_some, hslice, utf8Len_sub_dropWhile, sliceFrom_digits, hdrop, bind,
    Except.bind]
  by_cases hdigits : after.takeWhile Char.isDigit = []
  · simp [hdigits]
  · have hpos : utf8Len (after.takeWhile Char.isDigit) > 0 :=
      Nat.pos_of_ne_zero (mt String.utf8Len_eq_zero.mp hdigits)
    by_cases hdash : ['-'] <+: after.dropWhile Char.isDigit
    · have hdash' := List.isPrefixOf_iff_prefix.mpr hdash
      simp [hpos, hdigits, hdash, hdash', Except.map, pure, Except.pure]
    · have hdash' : ['-'].isPrefixOf (after.dropWhile Char.isDigit) = false :=
        Bool.eq_false_iff.mpr (mt List.isPrefixOf_iff_prefix.mp hdash)
      simp [hpos, hdigits, hdash, hdash', Except.map]

end Iteration

/-- **The loop ends without a fault**, and answers as the search without offsets does: each
iteration takes the pattern off the text. -/
theorem findReference_eq {pat : List Char} (hpat : pat ≠ []) {fuel : ℕ} {rest : List Char}
    (hfuel : rest.length < fuel) :
    findReference pat fuel rest = .ok (volumeReferenceFrom pat hpat rest) := by
  induction fuel generalizing rest with
  | zero => omega
  | succ fuel ih =>
    cases hcut : splitListAround pat rest with
    | none =>
      have hnone : dropThrough pat rest = none := by rw [dropThrough_eq_map, hcut]; rfl
      rw [findReference, findBytes, hcut, volumeReferenceFrom_of_none hnone]
      rfl
    | some halves =>
      obtain ⟨x, after⟩ := halves
      have hsome : dropThrough pat rest = some after := by rw [dropThrough_eq_map, hcut]; rfl
      have hshorter : after.length < rest.length := by
        have hpos := List.length_pos_iff.mpr hpat
        rw [splitListAround_eq_some hcut, List.length_append, List.length_append]
        omega
      rw [findReference_succ hcut, volumeReferenceFrom_of_some hsome, ih (by omega)]
      split_ifs <;> rfl

/-- **Searching for volume names.** Given more iterations than the text has characters, the search
ends without a fault, and it answers yes exactly when the text holds `vm-` or `base-`, one or more
digits and a dash. -/
theorem findVolumeReference_iff (value : String) {fuel : ℕ} (hfuel : value.toList.length < fuel) :
    findVolumeReference fuel value = .ok (containsVolumeReference value) ∧
      (containsVolumeReference value ↔ NamesGuestVolume value) := by
  refine ⟨?_, containsVolumeReference_iff⟩
  rw [findVolumeReference, findReference_eq (by decide) hfuel, findReference_eq (by decide) hfuel,
    containsVolumeReference]
  cases volumeReferenceFrom "vm-".toList (by decide) value.toList <;> rfl

/-- A prefix that is no name stands in front of one that is, behind a character of two bytes. -/
theorem findVolumeReference_iff_partial :
    findVolumeReference 20 "évm-vm-905-disk" = .ok (containsVolumeReference "évm-vm-905-disk") ∧
      (containsVolumeReference "évm-vm-905-disk" ↔ NamesGuestVolume "évm-vm-905-disk") :=
  findVolumeReference_iff "évm-vm-905-disk" (by decide)

end ProxmoxMcp
