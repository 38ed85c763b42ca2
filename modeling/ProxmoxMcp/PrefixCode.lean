import Mathlib

/-!
# Codes whose words can be cut off

A **code** writes each value of a type as a word of characters. It is **separable** before a set of
characters when its word can be cut off every text that goes on with one of them or ends: two texts
that begin with words of the code and are equal begin with the same word.

Numbers are separable before whatever is no digit, delimited lists before everything, and a code
read back by a function before everything that function leaves alone. `Separable.flatMap`,
`Separable.list` and `Separable.pair` build codes of lists and pairs out of codes of their parts.
-/

namespace PrefixCode

variable {α β : Type}

/-- The text is empty or goes on with one of the characters. -/
def GoesOn (stops : Char → Prop) (text : List Char) : Prop := ∀ c ∈ text.head?, stops c

theorem goesOn_cons {stops : Char → Prop} {c : Char} {text : List Char} (h : stops c) :
    GoesOn stops (c :: text) := by
  simpa [GoesOn] using h

theorem goesOn_nil {stops : Char → Prop} : GoesOn stops [] := by simp [GoesOn]

/-- **Separable**: before the characters `stops` a word of the code can be cut off a text. -/
def Separable (stops : Char → Prop) (code : α → List Char) : Prop :=
  ∀ ⦃a b : α⦄ ⦃s t : List Char⦄, GoesOn stops s → GoesOn stops t → code a ++ s = code b ++ t →
    a = b ∧ s = t

/-- Any text goes on with some character or ends. -/
abbrev Anything (_ : Char) : Prop := True

theorem goesOn_anything (text : List Char) : GoesOn Anything text := fun _ _ => trivial

namespace Separable

variable {stops stops' : Char → Prop} {code : α → List Char} {code' : β → List Char}

/-- A separable code tells all values apart. -/
theorem injective (h : Separable stops code) : Function.Injective code :=
  fun a b heq => (@h a b [] [] goesOn_nil goesOn_nil (by rw [heq])).1

theorem comp (h : Separable stops code) {f : β → α} (hf : Function.Injective f) :
    Separable stops fun b => code (f b) := by
  intro a b s t hs ht heq
  exact (h hs ht heq).imp_left fun hab => hf hab

/-- A word behind which a separator stands. -/
theorem cut (h : Separable stops code) {a b : α} {c : Char} {s t : List Char} (hc : stops c)
    (heq : code a ++ c :: s = code b ++ c :: t) : a = b ∧ s = t := by
  obtain ⟨hab, hst⟩ := h (goesOn_cons hc) (goesOn_cons hc) heq
  exact ⟨hab, List.tail_eq_of_cons_eq hst⟩

/-- Words behind which different characters stand are never equal. -/
theorem cut_ne (h : Separable stops code) {a b : α} {c d : Char} {s t : List Char} (hc : stops c)
    (hd : stops d) (hne : c ≠ d) : code a ++ c :: s ≠ code b ++ d :: t := by
  intro heq
  exact hne (List.head_eq_of_cons_eq (h (goesOn_cons hc) (goesOn_cons hd) heq).2)

end Separable

/-- A code that a function reads back is separable. -/
theorem separable_of_read {stops : Char → Prop} {code : α → List Char}
    (read : List Char → Option (α × List Char))
    (h : ∀ a s, GoesOn stops s → read (code a ++ s) = some (a, s)) : Separable stops code := by
  intro a b s t hs ht heq
  have hread : some (a, s) = some (b, t) := by rw [← h a s hs, ← h b t ht, heq]
  simpa using hread

/-- Decimal numbers are separable before whatever is no digit. -/
theorem separable_toDigits : Separable (fun c => ¬ c.isDigit) (Nat.toDigits 10) := by
  refine separable_of_read (fun text => some (Nat.ofDigitChars 10 (text.takeWhile Char.isDigit) 0,
    text.dropWhile Char.isDigit)) fun n s hs => ?_
  have hdigits : ∀ c ∈ Nat.toDigits 10 n, c.isDigit := fun c hc =>
    Nat.isDigit_of_mem_toDigits (by omega) (by omega) hc
  have htake : s.takeWhile Char.isDigit = [] := by
    cases s with
    | nil => rfl
    | cons c s => exact List.takeWhile_cons_of_neg (by simpa [GoesOn] using hs)
  have hdrop : s.dropWhile Char.isDigit = s := by
    cases s with
    | nil => rfl
    | cons c s => exact List.dropWhile_cons_of_neg (by simpa [GoesOn] using hs)
  rw [List.takeWhile_append_of_pos hdigits, List.dropWhile_append_of_pos hdigits, htake, hdrop]
  simp

/-- The word of a value begins with one of the characters `firsts`. -/
def Begins (firsts : Char → Prop) (code : α → List Char) : Prop :=
  ∀ a, ∃ c rest, code a = c :: rest ∧ firsts c

/-- Words one after another, up to a closing character. -/
theorem Separable.flatMap {stops : Char → Prop} {code : α → List Char} {close : Char}
    (h : Separable stops code) (hbegins : Begins (fun c => stops c ∧ c ≠ close) code)
    (hclose : stops close) :
    Separable Anything fun l : List α => l.flatMap code ++ [close] := by
  have hgoes (l : List α) (s : List Char) : GoesOn stops (l.flatMap code ++ close :: s) := by
    cases l with
    | nil => exact goesOn_cons hclose
    | cons a l =>
      obtain ⟨c, rest, hword, hc, -⟩ := hbegins a
      rw [List.flatMap_cons, hword]
      exact goesOn_cons hc
  -- a word never begins as the closing character does
  have hopen (a : α) (l : List α) (s t : List Char) :
      (a :: l).flatMap code ++ close :: s ≠ close :: t := by
    obtain ⟨c, rest, hword, -, hne⟩ := hbegins a
    rw [List.flatMap_cons, hword]
    exact fun heq => hne (List.head_eq_of_cons_eq heq)
  intro l l' s t _ _ heq
  simp only [List.append_assoc, List.singleton_append] at heq
  induction l generalizing l' with
  | nil =>
    cases l' with
    | nil => exact ⟨rfl, List.tail_eq_of_cons_eq heq⟩
    | cons b l' => exact absurd heq.symm (hopen b l' t s)
  | cons a l ih =>
    cases l' with
    | nil => exact absurd heq (hopen a l s t)
    | cons b l' =>
      simp only [List.flatMap_cons, List.append_assoc] at heq
      obtain ⟨rfl, hrest⟩ := h (hgoes l s) (hgoes l' t) heq
      obtain ⟨rfl, hst⟩ := ih hrest
      exact ⟨rfl, hst⟩

/-- The words of a list with separators between them, in brackets. -/
def listCode (opening sep close : Char) (code : α → List Char) : List α → List Char
  | [] => [opening, close]
  | a :: l => opening :: (code a ++ (l.flatMap (fun b => sep :: code b) ++ [close]))

/-- **Lists** of separable words are separable before everything. -/
theorem Separable.list {stops : Char → Prop} {code : α → List Char} {opening sep close : Char}
    (h : Separable stops code) (hbegins : Begins (· ≠ close) code) (hsep : stops sep)
    (hclose : stops close) (hne : sep ≠ close) :
    Separable Anything (listCode opening sep close code) := by
  have htail : Separable stops fun b => sep :: code b := fun a b s t hs ht heq =>
    h hs ht (List.tail_eq_of_cons_eq heq)
  have hrest := htail.flatMap (fun b => ⟨sep, code b, rfl, hsep, hne⟩) hclose
  have hgoes (l : List α) (s : List Char) :
      GoesOn stops (l.flatMap (fun b => sep :: code b) ++ [close] ++ s) := by
    -- the first character of the rest tells whether an item follows
    cases l with
    | nil => exact goesOn_cons hclose
    | cons b l => exact goesOn_cons hsep
  have hopen (a : α) (s t : List Char) : code a ++ s ≠ close :: t := by
    obtain ⟨c, rest, hword, hc⟩ := hbegins a
    rw [hword]
    exact fun heq => hc (List.head_eq_of_cons_eq heq)
  intro l l' s t _ _ heq
  cases l with
  | nil =>
    cases l' with
    | nil => exact ⟨rfl, List.append_cancel_left heq⟩
    | cons b l' =>
      simp only [listCode, List.cons_append, List.append_assoc] at heq
      exact absurd (List.tail_eq_of_cons_eq heq).symm (hopen b _ _)
  | cons a l =>
    cases l' with
    | nil =>
      simp only [listCode, List.cons_append, List.append_assoc] at heq
      exact absurd (List.tail_eq_of_cons_eq heq) (hopen a _ _)
    | cons b l' =>
      simp only [listCode, List.cons_append, List.append_assoc] at heq
      obtain ⟨rfl, heq⟩ := h (by simpa using hgoes l s) (by simpa using hgoes l' t)
        (List.tail_eq_of_cons_eq heq)
      obtain ⟨rfl, hst⟩ := hrest (goesOn_anything s) (goesOn_anything t) (by simpa using heq)
      exact ⟨rfl, hst⟩

/-- A pair of words with a separator between them, in brackets. -/
def pairCode (opening sep close : Char) (code : α → List Char) (code' : β → List Char) (p : α × β) :
    List Char := opening :: (code p.1 ++ sep :: (code' p.2 ++ [close]))

/-- **Pairs** of separable words are separable before everything. -/
theorem Separable.pair {stops stops' : Char → Prop} {code : α → List Char} {code' : β → List Char}
    {opening sep close : Char} (h : Separable stops code) (h' : Separable stops' code')
    (hsep : stops sep) (hclose : stops' close) :
    Separable Anything (pairCode opening sep close code code') := by
  rintro ⟨a, b⟩ ⟨a', b'⟩ s t - - heq
  simp only [pairCode, List.cons_append, List.append_assoc] at heq
  obtain ⟨rfl, heq⟩ := h.cut hsep (List.tail_eq_of_cons_eq heq)
  obtain ⟨rfl, hst⟩ := h'.cut hclose (by simpa using heq)
  exact ⟨rfl, hst⟩

end PrefixCode
