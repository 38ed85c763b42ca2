import Mathlib
import ProxmoxMcp.Text

/-!
# Pairs written on one line, and places in a text

**Writing pairs.** Pairs of a key and a value are written one after another, each with a sign
between its halves and all with a separator between them. Nothing is escaped, so a line can be the
writing of several lists of pairs. A **move** takes the separator and a whole pair into the value
before it, or moves the sign from one place of a pair to another: `write_eq_iff` says that two lists
are written alike exactly when moves lead from one to the other.

**Counting places.** `occurrences` counts the places of a text at which a test holds of what begins
there. A character the test does not look past (`StopsAt`) cuts a text in two parts that are counted
separately.
-/

namespace PairText

variable {α : Type}

/-! ### Writing pairs -/

section Writing

/-- One pair with the sign between its halves. -/
def writePair (sign : α) (pair : List α × List α) : List α := pair.1 ++ sign :: pair.2

/-- Pairs with a separator between them. -/
def write (sign : α) (sep : List α) (pairs : List (List α × List α)) : List α :=
  sep.intercalate (pairs.map (writePair sign))

variable {sign : α} {sep : List α}

theorem write_singleton (pair : List α × List α) :
    write sign sep [pair] = writePair sign pair := by
  rw [write, List.map_singleton, List.intercalate_singleton]

theorem write_cons (pair : List α × List α) {pairs : List (List α × List α)} (h : pairs ≠ []) :
    write sign sep (pair :: pairs) = writePair sign pair ++ sep ++ write sign sep pairs := by
  rw [write, List.map_cons, List.intercalate_cons_of_ne_nil (by simpa using h), write]

/-- **Moves** of a cut, which leave the writing as it is. -/
inductive Move (sign : α) (sep : List α) :
    List (List α × List α) → List (List α × List α) → Prop
  /-- A pair becomes part of the value before it. -/
  | merge (key value : List α) (next : List α × List α) (rest : List (List α × List α)) :
    Move sign sep ((key, value) :: next :: rest)
      ((key, value ++ sep ++ writePair sign next) :: rest)
  /-- The beginning of a value becomes part of its key. -/
  | shift (key front back : List α) (rest : List (List α × List α)) :
    Move sign sep ((key, front ++ sign :: back) :: rest) ((key ++ sign :: front, back) :: rest)
  | cons (pair : List α × List α) {pairs pairs' : List (List α × List α)}
    (h : Move sign sep pairs pairs') : Move sign sep (pair :: pairs) (pair :: pairs')

/-- Lists that moves lead from one to the other. -/
abbrev Recut (sign : α) (sep : List α) := Relation.EqvGen (Move sign sep)

theorem Move.ne_nil {pairs pairs' : List (List α × List α)} (h : Move sign sep pairs pairs') :
    pairs ≠ [] ∧ pairs' ≠ [] := by
  cases h <;> simp

/-- A move leaves the writing as it is. -/
theorem Move.write_eq {pairs pairs' : List (List α × List α)} (h : Move sign sep pairs pairs') :
    write sign sep pairs = write sign sep pairs' := by
  induction h with
  | merge key value next rest =>
    cases rest with
    | nil =>
      rw [write_cons _ (by simp), write_singleton, write_singleton]
      simp [writePair]
    | cons pair rest =>
      have hrest := List.cons_ne_nil pair rest
      rw [write_cons _ (by simp), write_cons next hrest, write_cons _ hrest]
      simp [writePair]
  | shift key front back rest =>
    cases rest with
    | nil =>
      rw [write_singleton, write_singleton]
      simp [writePair]
    | cons pair rest =>
      have hrest := List.cons_ne_nil pair rest
      rw [write_cons _ hrest, write_cons _ hrest]
      simp [writePair]
  | cons pair h ih => rw [write_cons _ h.ne_nil.1, write_cons _ h.ne_nil.2, ih]

theorem Recut.write_eq {pairs pairs' : List (List α × List α)} (h : Recut sign sep pairs pairs') :
    write sign sep pairs = write sign sep pairs' := by
  induction h with
  | rel _ _ hmove => exact hmove.write_eq
  | refl _ => rfl
  | symm _ _ _ ih => exact ih.symm
  | trans _ _ _ _ _ ih ih' => exact ih.trans ih'

theorem Recut.cons (pair : List α × List α) {pairs pairs' : List (List α × List α)}
    (h : Recut sign sep pairs pairs') : Recut sign sep (pair :: pairs) (pair :: pairs') := by
  induction h with
  | rel _ _ hmove => exact .rel _ _ (hmove.cons pair)
  | refl _ => exact .refl _
  | symm _ _ _ ih => exact .symm _ _ ih
  | trans _ _ _ _ _ ih ih' => exact .trans _ _ _ ih ih'

/-- Moves put all pairs into one. -/
theorem exists_recut_singleton {pairs : List (List α × List α)} (h : pairs ≠ []) :
    ∃ pair, Recut sign sep pairs [pair] := by
  induction pairs with
  | nil => exact absurd rfl h
  | cons pair rest ih =>
    by_cases hrest : rest = []
    · exact ⟨pair, hrest ▸ .refl _⟩
    · obtain ⟨next, hnext⟩ := ih hrest
      exact ⟨_, .trans _ _ _ (hnext.cons pair) (.rel _ _ (.merge pair.1 pair.2 next []))⟩

variable [DecidableEq α]

/-- Moves take everything behind the first sign into the value. -/
theorem exists_recut_notMem {pairs : List (List α × List α)} (h : pairs ≠ []) :
    ∃ key value, sign ∉ key ∧ Recut sign sep pairs [(key, value)] := by
  obtain ⟨⟨key, value⟩, hpair⟩ := exists_recut_singleton h
  cases hcut : Text.splitListOnce sign key with
  | none => exact ⟨key, value, Text.splitListOnce_eq_none_iff.mp hcut, hpair⟩
  | some halves =>
    obtain ⟨front, back⟩ := halves
    obtain ⟨hfront, rfl⟩ := Text.splitListOnce_eq_some_iff.mp hcut
    exact ⟨front, back ++ sign :: value, hfront,
      .trans _ _ _ hpair (.symm _ _ (.rel _ _ (.shift front back value [])))⟩

/-- **What is written alike**: exactly the lists that moves lead from one to the other. -/
theorem write_eq_iff {pairs pairs' : List (List α × List α)} (h : pairs ≠ []) (h' : pairs' ≠ []) :
    write sign sep pairs = write sign sep pairs' ↔ Recut sign sep pairs pairs' := by
  refine ⟨fun heq => ?_, Recut.write_eq⟩
  obtain ⟨key, value, hkey, hrecut⟩ := exists_recut_notMem h
  obtain ⟨key', value', hkey', hrecut'⟩ := exists_recut_notMem h'
  -- both lead to one pair, which the first sign of the line cuts
  have hline : key ++ sign :: value = key' ++ sign :: value' := by
    have := hrecut.write_eq.symm.trans (heq.trans hrecut'.write_eq)
    rwa [write_singleton, write_singleton] at this
  have hcut : Text.splitListOnce sign (key ++ sign :: value) = some (key, value) :=
    Text.splitListOnce_eq_some_iff.mpr ⟨hkey, rfl⟩
  rw [hline, Text.splitListOnce_eq_some_iff.mpr ⟨hkey', rfl⟩] at hcut
  obtain ⟨rfl, rfl⟩ : key' = key ∧ value' = value := by simpa using hcut
  exact .trans _ _ _ hrecut (.symm _ _ hrecut')

end Writing

/-! ### Counting places -/

section Counting

/-- At how many places a test holds of what begins there. -/
def occurrences (test : List α → Bool) : List α → ℕ
  | [] => 0
  | a :: rest => (if test (a :: rest) then 1 else 0) + occurrences test rest

/-- A test **stops** at a character: it does not look past it. -/
def StopsAt (test : List α → Bool) (a : α) : Prop :=
  ∀ b x y, test (b :: (x ++ a :: y)) = test (b :: x)

variable {test : List α → Bool} {a : α}

/-- A character at which the test never holds adds nothing. -/
theorem occurrences_cons (h : ∀ text, test (a :: text) = false) (text : List α) :
    occurrences test (a :: text) = occurrences test text := by
  rw [occurrences, h]
  simp

/-- A character the test stops at cuts the counting in two. -/
theorem StopsAt.occurrences_append (h : StopsAt test a) (x y : List α) :
    occurrences test (x ++ a :: y) = occurrences test x + occurrences test (a :: y) := by
  induction x with
  | nil => simp [occurrences]
  | cons b x ih =>
    rw [List.cons_append, occurrences, occurrences, h b x y, ih]
    omega

/-- The first word of a line: the letters behind its blanks. -/
def firstWord (blank letter : α → Bool) (line : List α) : List α :=
  (line.dropWhile blank).takeWhile letter

variable {blank letter : α → Bool}

/-- The first word ends at a character that is neither a blank nor a letter. -/
theorem firstWord_append (hblank : blank a = false) (hletter : letter a = false) (x y : List α) :
    firstWord blank letter (x ++ a :: y) = firstWord blank letter x := by
  have hstop (x : List α) : (x ++ a :: y).takeWhile letter = x.takeWhile letter := by
    induction x with
    | nil => simp [hletter]
    | cons b x ih => simp only [List.cons_append, List.takeWhile_cons, ih]
  rw [firstWord, firstWord]
  induction x with
  | nil => simp [hblank, hletter]
  | cons b x ih =>
    rw [List.cons_append, List.dropWhile_cons, List.dropWhile_cons]
    split_ifs with hb
    · exact ih
    · exact hstop (b :: x)

end Counting

end PairText
