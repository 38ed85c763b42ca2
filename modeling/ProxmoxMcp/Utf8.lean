import Mathlib

/-!
# Offsets in bytes

A program that keeps its texts in UTF-8 cuts them at **byte offsets**, and fails when an offset lies
inside a character. `splitAtByte` is that cut on a list of characters: it is there exactly at the
offsets where a character begins or the text ends (`isCharBoundary_iff`).

`floorBoundary` looks for the last such offset up to a limit, one byte at a time.
-/

namespace Utf8

open String (utf8Len)

variable {l x y : List Char} {n m : ℕ}

/-! ### Cutting -/

/-- Cut a text behind its first `n` bytes, if a character ends there. -/
def splitAtByte : ℕ → List Char → Option (List Char × List Char)
  | 0, l => some ([], l)
  | _ + 1, [] => none
  | n + 1, c :: rest =>
    if c.utf8Size ≤ n + 1 then
      (splitAtByte (n + 1 - c.utf8Size) rest).map fun halves => (c :: halves.1, halves.2)
    else none

/-- The cut at an offset is the one whose first half has that many bytes. -/
theorem splitAtByte_eq_some_iff : splitAtByte n l = some (x, y) ↔ l = x ++ y ∧ utf8Len x = n := by
  induction l generalizing n x with
  | nil =>
    cases n with
    | zero =>
      have hnil : x = [] → y = [] → 0 = utf8Len x := by
        rintro rfl -
        rfl
      simpa [splitAtByte, eq_comm] using hnil
    | succ n =>
      refine iff_of_false (by simp [splitAtByte]) ?_
      rintro ⟨hnil, hlen⟩
      obtain ⟨rfl, -⟩ := List.append_eq_nil_iff.mp hnil.symm
      simp at hlen
  | cons c rest ih =>
    have hpos := c.utf8Size_pos
    cases n with
    | zero =>
      cases x with
      | nil => simp [splitAtByte, eq_comm]
      | cons d x =>
        have hd := d.utf8Size_pos
        refine iff_of_false (by simp [splitAtByte]) ?_
        rintro ⟨-, hlen⟩
        rw [String.utf8Len_cons] at hlen
        omega
    | succ n =>
      cases x with
      | nil =>
        refine iff_of_false ?_ (by simp)
        simp [splitAtByte]
      | cons d x =>
        rw [splitAtByte, List.cons_append, List.cons.injEq, String.utf8Len_cons]
        split_ifs with hfits
        · have hinner := @ih x (n + 1 - c.utf8Size)
          simp only [Option.map_eq_some_iff, Prod.mk.injEq, List.cons.injEq, Prod.exists]
          constructor
          · rintro ⟨x', y', hcut, ⟨rfl, rfl⟩, rfl⟩
            obtain ⟨hrest, hlen⟩ := ih.mp hcut
            exact ⟨⟨rfl, hrest⟩, by omega⟩
          · rintro ⟨⟨rfl, hrest⟩, hlen⟩
            exact ⟨x, y, hinner.mpr ⟨hrest, by omega⟩, ⟨rfl, rfl⟩, rfl⟩
        · refine iff_of_false (by simp) ?_
          rintro ⟨⟨rfl, -⟩, hlen⟩
          omega

theorem splitAtByte_append (x y : List Char) : splitAtByte (utf8Len x) (x ++ y) = some (x, y) :=
  splitAtByte_eq_some_iff.mpr ⟨rfl, rfl⟩

/-! ### Boundaries -/

/-- Whether a character begins at an offset, or the text ends there. -/
def isCharBoundary (n : ℕ) (l : List Char) : Bool := (splitAtByte n l).isSome

theorem isCharBoundary_iff : isCharBoundary n l ↔ ∃ x y, l = x ++ y ∧ utf8Len x = n := by
  rw [isCharBoundary, Option.isSome_iff_exists]
  constructor
  · rintro ⟨⟨x, y⟩, hcut⟩
    exact ⟨x, y, splitAtByte_eq_some_iff.mp hcut⟩
  · rintro ⟨x, y, hcut⟩
    exact ⟨(x, y), splitAtByte_eq_some_iff.mpr hcut⟩

/-- A part at the front with as many bytes as the text is all of it. -/
theorem eq_of_prefix_of_utf8Len_le (h : x <+: l) (hlen : utf8Len l ≤ utf8Len x) : x = l := by
  obtain ⟨y, rfl⟩ := h
  rw [String.utf8Len_append] at hlen
  have hy : utf8Len y = 0 := by omega
  rw [String.utf8Len_eq_zero.mp hy, List.append_nil]

/-! ### The last boundary up to a limit -/

/-- Step back from an offset to a boundary. -/
def floorBoundary (l : List Char) : ℕ → ℕ
  | 0 => 0
  | n + 1 => if isCharBoundary (n + 1) l then n + 1 else floorBoundary l n

theorem isCharBoundary_floorBoundary : isCharBoundary (floorBoundary l n) l := by
  induction n with
  | zero => exact isCharBoundary_iff.mpr ⟨[], l, rfl, rfl⟩
  | succ n ih =>
    rw [floorBoundary]
    split_ifs with hboundary
    · exact hboundary
    · exact ih

theorem floorBoundary_le : floorBoundary l n ≤ n := by
  induction n with
  | zero => exact le_rfl
  | succ n ih =>
    rw [floorBoundary]
    split_ifs
    · exact le_rfl
    · omega

/-- No boundary is stepped over. -/
theorem le_floorBoundary (hm : isCharBoundary m l) (hle : m ≤ n) : m ≤ floorBoundary l n := by
  induction n with
  | zero => omega
  | succ n ih =>
    rw [floorBoundary]
    split_ifs with hboundary
    · exact hle
    · refine ih (Nat.le_of_lt_succ (lt_of_le_of_ne hle ?_))
      rintro rfl
      exact hboundary hm

end Utf8
