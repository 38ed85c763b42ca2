import Mathlib

/-!
# Cutting texts

The string operations a program uses to take a text apart, as total functions with one
characterisation each: **cutting once** at the first separator (`splitOnce`), cutting at
**every** separator (`fields`), looking for a **substring** (`dropThrough`), and the two
normalisations applied before keys are compared (`trim`, `toAsciiLowercase`).

The list versions carry the arguments; the string versions are the same functions through
`String.toList`, so that a concrete text still evaluates.
-/

namespace Text

/-! ### Lists -/

section Lists

variable {α : Type} [DecidableEq α]

/-- Cut a list at the first occurrence of `sep`, which belongs to neither half. -/
def splitListOnce (sep : α) : List α → Option (List α × List α)
  | [] => none
  | a :: rest =>
    if a = sep then some ([], rest)
    else (splitListOnce sep rest).map fun halves => (a :: halves.1, halves.2)

/-- The cut is the only one whose first half is free of the separator. -/
theorem splitListOnce_eq_some_iff {sep : α} {l x y : List α} :
    splitListOnce sep l = some (x, y) ↔ sep ∉ x ∧ l = x ++ sep :: y := by
  induction l generalizing x with
  | nil => simp [splitListOnce]
  | cons a rest ih =>
    by_cases ha : a = sep
    · subst ha
      cases x with
      | nil => simp [splitListOnce, eq_comm]
      | cons b x => simp [splitListOnce]; rintro h - rfl; exact absurd rfl h
    · cases x with
      | nil => simp [splitListOnce, ha]
      | cons b x =>
        simp only [splitListOnce, if_neg ha, Option.map_eq_some_iff, Prod.mk.injEq,
          List.cons.injEq, List.mem_cons, not_or, List.cons_append]
        constructor
        · rintro ⟨⟨x', y'⟩, hcut, ⟨rfl, rfl⟩, rfl⟩
          obtain ⟨hx, rfl⟩ := ih.mp hcut
          exact ⟨⟨fun h => ha h.symm, hx⟩, rfl, rfl⟩
        · rintro ⟨⟨-, hx⟩, rfl, rfl⟩
          exact ⟨(x, y), ih.mpr ⟨hx, rfl⟩, ⟨rfl, rfl⟩, rfl⟩

/-- There is no cut exactly when the separator does not occur. -/
theorem splitListOnce_eq_none_iff {sep : α} {l : List α} :
    splitListOnce sep l = none ↔ sep ∉ l := by
  induction l with
  | nil => simp [splitListOnce]
  | cons a rest ih =>
    by_cases ha : a = sep
    · simp [splitListOnce, ha]
    · simp [splitListOnce, ha, ih, Ne.symm ha]

/-- The **last** separator is the only one with nothing but other elements behind it. -/
theorem append_cons_inj_of_notMem {sep : α} {x x' y y' : List α} (hy : sep ∉ y) (hy' : sep ∉ y')
    (h : x ++ sep :: y = x' ++ sep :: y') : x = x' ∧ y = y' := by
  have hcut : ∀ {x y : List α}, sep ∉ y →
      splitListOnce sep (x ++ sep :: y).reverse = some (y.reverse, x.reverse) := by
    intro x y hy
    rw [splitListOnce_eq_some_iff]
    exact ⟨by simpa using hy, by simp⟩
  have heq := (hcut hy).symm.trans (h ▸ hcut hy')
  simp only [Option.some.injEq, Prod.mk.injEq, List.reverse_inj] at heq
  exact ⟨heq.2, heq.1⟩

/-- What follows the first occurrence of `pat`, if it occurs. -/
def dropThrough (pat : List α) : List α → Option (List α)
  | [] => if pat = [] then some [] else none
  | a :: rest =>
    if pat <+: a :: rest then some ((a :: rest).drop pat.length) else dropThrough pat rest

/-- A hit splits the list around an occurrence that no other occurrence starts before. -/
theorem dropThrough_eq_some {pat l after : List α} (h : dropThrough pat l = some after) :
    ∃ before, l = before ++ pat ++ after ∧
      ∀ x y, l = x ++ pat ++ y → before.length ≤ x.length := by
  induction l with
  | nil =>
    by_cases hp : pat = []
    · simp only [dropThrough, if_pos hp, Option.some.injEq] at h
      exact ⟨[], by simp [hp, ← h], by simp⟩
    · simp [dropThrough, hp] at h
  | cons a rest ih =>
    by_cases hpre : pat <+: a :: rest
    · simp only [dropThrough, if_pos hpre, Option.some.injEq] at h
      exact ⟨[], by rw [← h]; exact List.prefix_iff_eq_append.mp hpre |>.symm, by simp⟩
    · simp only [dropThrough, if_neg hpre] at h
      obtain ⟨before, rfl, hfirst⟩ := ih h
      refine ⟨a :: before, by simp, fun x y hxy => ?_⟩
      cases x with
      | nil => exact absurd ⟨y, by simpa using hxy.symm⟩ hpre
      | cons b x =>
        have hle := hfirst x y (by simpa using (List.cons.inj hxy).2)
        simpa using hle

/-- A miss means that the pattern does not occur. -/
theorem dropThrough_eq_none_iff {pat l : List α} :
    dropThrough pat l = none ↔ ¬ pat <:+: l := by
  induction l with
  | nil => simp [dropThrough]
  | cons a rest ih =>
    by_cases hpre : pat <+: a :: rest
    · simp [dropThrough, hpre, hpre.isInfix]
    · simp [dropThrough, hpre, ih, List.infix_cons_iff]

omit [DecidableEq α] in
/-- An occurrence does not start where its first element does not stand. -/
theorem cons_isInfix_append_iff {a : α} {x front l : List α} (ha : a ∉ front) :
    a :: x <:+: front ++ l ↔ a :: x <:+: l := by
  induction front with
  | nil => rfl
  | cons b front ih =>
    have hhead : a ≠ b := fun heq => ha (heq ▸ List.mem_cons_self)
    have htail : a ∉ front := fun hmem => ha (List.mem_cons_of_mem _ hmem)
    have hnot : ¬ a :: x <+: b :: (front ++ l) := fun h => hhead (List.cons_prefix_cons.mp h).1
    rw [List.cons_append, List.infix_cons_iff, ih htail, or_iff_right hnot]

omit [DecidableEq α] in
/-- A pattern with the same lead as the list occurs **behind the lead** or within what follows it:
its first element stands nowhere else in the lead. -/
theorem append_isInfix_append_iff {a : α} {tail x l : List α} (ha : a ∉ tail) :
    a :: (tail ++ x) <:+: a :: (tail ++ l) ↔ x <+: l ∨ a :: (tail ++ x) <:+: l := by
  rw [List.infix_cons_iff, cons_isInfix_append_iff ha, List.cons_prefix_cons,
    List.prefix_append_right_inj]
  exact or_congr_left (and_iff_right rfl)

/-- A pattern is not found at a **lead** that lacks an element which pattern and list have behind
the same front. -/
theorem append_cons_isInfix_append_iff {a : α} {front lead x l : List α} (hlead : a ∉ lead)
    (hfront : a ∉ front) :
    front ++ a :: x <:+: lead ++ (front ++ a :: l) ↔ front ++ a :: x <:+: front ++ a :: l := by
  refine ⟨?_, fun hfound => hfound.trans (List.suffix_append _ _).isInfix⟩
  rintro ⟨before, behind, heq⟩
  rw [List.append_assoc, List.append_eq_append_iff] at heq
  rcases heq with ⟨between, rfl, hrest⟩ | ⟨between, rfl, hrest⟩
  · -- it would start in the lead, and have its `a` before that of the list
    have hbetween : a ∉ between := fun hmem => hlead (List.mem_append_right _ hmem)
    have hcut : splitListOnce a (front ++ a :: (x ++ behind)) = some (front, x ++ behind) :=
      splitListOnce_eq_some_iff.mpr ⟨hfront, rfl⟩
    have hcut' : splitListOnce a (front ++ a :: (x ++ behind)) = some (between ++ front, l) := by
      refine splitListOnce_eq_some_iff.mpr ⟨by simp [hbetween, hfront], ?_⟩
      simpa using hrest
    rw [hcut] at hcut'
    have hnil : between = [] := by
      have hsame : front = between ++ front := (Prod.mk.inj (Option.some.inj hcut')).1
      exact List.self_eq_append_left.mp hsame
    subst hnil
    exact ⟨[], behind, by simpa using hrest⟩
  · exact ⟨between, behind, by simpa using hrest.symm⟩

/-- Cut a list around the first occurrence of `pat`, which belongs to neither half. -/
def splitListAround (pat : List α) : List α → Option (List α × List α)
  | [] => if pat = [] then some ([], []) else none
  | a :: rest =>
    if pat <+: a :: rest then some ([], (a :: rest).drop pat.length)
    else (splitListAround pat rest).map fun halves => (a :: halves.1, halves.2)

/-- The halves stand around an occurrence of the pattern. -/
theorem splitListAround_eq_some {pat l x y : List α} (h : splitListAround pat l = some (x, y)) :
    l = x ++ (pat ++ y) := by
  induction l generalizing x with
  | nil =>
    by_cases hp : pat = []
    · simp only [splitListAround, if_pos hp, Option.some.injEq, Prod.mk.injEq] at h
      simp [hp, ← h.1, ← h.2]
    · simp [splitListAround, hp] at h
  | cons a rest ih =>
    rw [splitListAround] at h
    split_ifs at h with hpre
    · obtain ⟨rfl, rfl⟩ := Prod.mk.inj (Option.some.inj h)
      exact List.prefix_iff_eq_append.mp hpre |>.symm
    · obtain ⟨⟨x', y'⟩, hcut, heq⟩ := Option.map_eq_some_iff.mp h
      obtain ⟨rfl, rfl⟩ := Prod.mk.inj heq
      rw [List.cons_append, ← ih hcut]

/-- The second half is what stands behind the first occurrence. -/
theorem dropThrough_eq_map (pat l : List α) :
    dropThrough pat l = (splitListAround pat l).map Prod.snd := by
  induction l with
  | nil =>
    rw [dropThrough, splitListAround]
    split_ifs <;> rfl
  | cons a rest ih =>
    rw [dropThrough, splitListAround, ih]
    split_ifs
    · rfl
    · rw [Option.map_map]
      rfl

/-- Behind a text without its first element the pattern is found at once. -/
theorem splitListAround_append {a : α} {tail x : List α} (hx : a ∉ x) (y : List α) :
    splitListAround (a :: tail) (x ++ (a :: tail ++ y)) = some (x, y) := by
  induction x with
  | nil =>
    rw [List.nil_append, List.cons_append, splitListAround, if_pos (by simp)]
    simp
  | cons b x ih =>
    obtain ⟨hb, hx⟩ := not_or.mp (mt List.mem_cons.mpr hx)
    have hpre : ¬ a :: tail <+: b :: (x ++ (a :: tail ++ y)) := fun hpre =>
      hb (List.cons_prefix_cons.mp hpre).1
    rw [List.cons_append, splitListAround, if_neg hpre, ih hx]
    rfl

/-- A prefix free of the separator stays with the first field. -/
theorem splitOn_append_of_notMem {sep : α} {x l : List α} (h : sep ∉ x) :
    (x ++ l).splitOn sep = (l.splitOn sep).modifyHead (x ++ ·) := by
  induction x with
  | nil => cases hl : l.splitOn sep <;> simp [hl]
  | cons a x ih =>
    simp only [List.mem_cons, not_or] at h
    rw [List.cons_append, List.splitOn_cons_eq_if_modifyHead,
      if_neg (by simpa using Ne.symm h.1), ih h.2]
    cases l.splitOn sep <;> simp

/-- No field holds the separator. -/
theorem notMem_of_mem_splitOn {sep : α} {l field : List α} (h : field ∈ l.splitOn sep) :
    sep ∉ field := by
  induction l generalizing field with
  | nil => simp_all
  | cons a rest ih =>
    rw [List.splitOn_cons_eq_if_modifyHead] at h
    by_cases ha : a = sep
    · simp only [ha, beq_self_eq_true, if_true, List.mem_cons] at h
      rcases h with rfl | h
      · simp
      · exact ih h
    · rw [if_neg (by simpa using ha)] at h
      obtain ⟨first, others, hsplit⟩ := List.exists_cons_of_ne_nil (List.splitOn_ne_nil sep rest)
      simp only [hsplit, List.modifyHead_cons, List.mem_cons] at h ih
      rcases h with rfl | h
      · simpa [Ne.symm ha] using ih (Or.inl rfl)
      · exact ih (Or.inr h)

/-- Every field is a contiguous part of the list. -/
theorem isInfix_of_mem_splitOn {sep : α} {l field : List α} (h : field ∈ l.splitOn sep) :
    field <:+: l := by
  rw [← (List.intercalate_splitOn sep : [sep].intercalate (l.splitOn sep) = l)]
  generalize l.splitOn sep = parts at h
  induction parts with
  | nil => simp at h
  | cons first others ih =>
    rcases List.mem_cons.mp h with rfl | h
    · cases others with
      | nil => simp
      | cons second others => simpa using (List.prefix_append field _).isInfix
    · cases others with
      | nil => simp at h
      | cons second others =>
        exact (ih h).trans ⟨first ++ [sep], [], by simp⟩

end Lists

/-! ### Strings -/

/-- Cut a text at the first `sep`. -/
def splitOnce (text : String) (sep : Char) : Option (String × String) :=
  (splitListOnce sep text.toList).map fun halves =>
    (String.ofList halves.1, String.ofList halves.2)

/-- Cut a text around the first occurrence of `pat`. -/
def splitAround (text pat : String) : Option (String × String) :=
  (splitListAround pat.toList text.toList).map fun halves =>
    (String.ofList halves.1, String.ofList halves.2)

/-- Cut a text at every `sep`; there is always at least one field. -/
def fields (text : String) (sep : Char) : List String :=
  (text.toList.splitOn sep).map String.ofList

/-- Whether `pat` occurs anywhere in the text. -/
def contains (text pat : String) : Bool := (dropThrough pat.toList text.toList).isSome

/-- Whether the text begins with `pat`. -/
def startsWith (text pat : String) : Bool := pat.toList.isPrefixOf text.toList

/-- What follows `pat`, when the text begins with it. -/
def stripPrefix (text pat : String) : Option String :=
  (pat.toList.isPrefixOf? text.toList).map String.ofList

/-- The characters with the Unicode property `White_Space`. -/
def isWhitespace (c : Char) : Bool :=
  let n := c.toNat
  (9 ≤ n && n ≤ 13) || n == 0x20 || n == 0x85 || n == 0xA0 || n == 0x1680 ||
    (0x2000 ≤ n && n ≤ 0x200A) || n == 0x2028 || n == 0x2029 || n == 0x202F || n == 0x205F ||
    n == 0x3000

/-- The characters of the Unicode category `Cc`. -/
def isControl (c : Char) : Bool := c.toNat < 0x20 || (0x7F ≤ c.toNat && c.toNat < 0xA0)

/-- Drop white space from both ends. -/
def trim (text : String) : String :=
  String.ofList (text.toList.dropWhile isWhitespace |>.rdropWhile isWhitespace)

/-- Map `A`–`Z` to `a`–`z` and leave every other character alone. -/
def toAsciiLowercase (text : String) : String := String.ofList (text.toList.map Char.toLower)

/-- Comparison without regard to ASCII case. -/
def eqIgnoreAsciiCase (a b : String) : Bool := toAsciiLowercase a == toAsciiLowercase b

/-- The value of a run of decimal digits. -/
def digitsValue (digits : List Char) : ℕ :=
  digits.foldl (fun value c => 10 * value + (c.toNat - '0'.toNat)) 0

/-- Read an unsigned number of at most `bound`: digits, optionally behind a plus sign. -/
def parseUnsigned (bound : ℕ) (text : String) : Option ℕ :=
  let digits := match text.toList with
    | '+' :: rest => rest
    | chars => chars
  if digits ≠ [] ∧ digits.all Char.isDigit ∧ digitsValue digits ≤ bound then
    some (digitsValue digits)
  else none

/-- Read a 32-bit number. -/
def parseU32 (text : String) : Option UInt32 :=
  (parseUnsigned (UInt32.size - 1) text).map UInt32.ofNat

/-- Read a 64-bit number. -/
def parseU64 (text : String) : Option UInt64 :=
  (parseUnsigned (UInt64.size - 1) text).map UInt64.ofNat

/-- Digits are read as the number they are the digits of. -/
theorem parseU32_eq_some_iff {text : String} {number : UInt32}
    (hdigits : ∀ c ∈ text.toList, c.isDigit) (hne : text.toList ≠ []) :
    parseU32 text = some number ↔ digitsValue text.toList = number.toNat := by
  have hsign : (match text.toList with
      | '+' :: rest => rest
      | chars => chars) = text.toList := by
    split
    · next rest hplus =>
      rw [hplus] at hdigits
      exact absurd (hdigits '+' List.mem_cons_self) (by decide)
    · rfl
  have hlt := number.toNat_lt
  rw [parseU32, parseUnsigned, hsign]
  constructor
  · intro h
    split_ifs at h with hbound
    · obtain rfl := Option.some.inj h
      have hsmall : digitsValue text.toList < UInt32.size := by
        have hle := hbound.2.2
        have hpos : 0 < UInt32.size := by decide
        omega
      exact (UInt32.toNat_ofNat_of_lt hsmall).symm
    · cases h
  · intro h
    have hbound : digitsValue text.toList ≤ UInt32.size - 1 := by
      rw [h]
      exact Nat.le_sub_one_of_lt hlt
    rw [if_pos ⟨hne, List.all_eq_true.mpr hdigits, hbound⟩, h, Option.map_some,
      UInt32.ofNat_toNat]

/-- A 32-bit number is read back from its decimal text. -/
theorem parseU32_toString (number : UInt32) : parseU32 (toString number) = some number := by
  have hdigits : (toString number).toList = Nat.toDigits 10 number.toNat := Nat.toList_repr
  have hvalue : digitsValue (Nat.toDigits 10 number.toNat) = number.toNat := by
    rw [digitsValue, ← Nat.ofDigitChars_eq_foldl, Nat.ofDigitChars_ten_toDigits]
  refine (parseU32_eq_some_iff (fun c hc => ?_) ?_).mpr (hdigits ▸ hvalue)
  · rw [hdigits] at hc
    exact Nat.isDigit_of_mem_toDigits (by omega) (by omega) hc
  · rw [hdigits]
    exact Nat.toDigits_ne_nil

theorem splitOnce_eq_some_iff {text x y : String} {sep : Char} :
    splitOnce text sep = some (x, y) ↔
      sep ∉ x.toList ∧ text.toList = x.toList ++ sep :: y.toList := by
  rw [← splitListOnce_eq_some_iff, splitOnce, Option.map_eq_some_iff]
  constructor
  · rintro ⟨⟨a, b⟩, hcut, heq⟩
    obtain ⟨rfl, rfl⟩ := Prod.mk.inj heq
    simpa using hcut
  · exact fun hcut => ⟨_, hcut, by simp⟩

theorem splitOnce_eq_none_iff {text : String} {sep : Char} :
    splitOnce text sep = none ↔ sep ∉ text.toList := by
  rw [splitOnce, Option.map_eq_none_iff, splitListOnce_eq_none_iff]

/-- Cutting at the first separator undoes joining with it. -/
theorem splitOnce_append {x : String} {sep : Char} (hx : sep ∉ x.toList) (y : String) :
    splitOnce (x ++ String.singleton sep ++ y) sep = some (x, y) := by
  rw [splitOnce_eq_some_iff]
  exact ⟨hx, by simp⟩

theorem mem_fields {text field : String} {sep : Char} :
    field ∈ fields text sep ↔ field.toList ∈ text.toList.splitOn sep := by
  rw [fields, List.mem_map]
  constructor
  · rintro ⟨chars, hmem, rfl⟩
    simpa using hmem
  · exact fun hmem => ⟨_, hmem, String.ofList_toList⟩

theorem fields_ne_nil {text : String} {sep : Char} : fields text sep ≠ [] := by
  simp [fields]

/-- A text without the separator is its own only field. -/
theorem fields_eq_singleton {text : String} {sep : Char} (h : sep ∉ text.toList) :
    fields text sep = [text] := by
  simp [fields, List.splitOn_eq_singleton h]

/-- Cutting once gives the first field and the text of the others. -/
theorem fields_eq_cons_of_splitOnce {text x y : String} {sep : Char}
    (h : splitOnce text sep = some (x, y)) : fields text sep = x :: fields y sep := by
  obtain ⟨hx, htext⟩ := splitOnce_eq_some_iff.mp h
  simp [fields, htext, List.splitOn_append_cons_self_of_not_mem hx]

/-- Joining the fields of a text gives the text. -/
theorem intercalate_fields (text : String) (sep : Char) :
    (String.singleton sep).intercalate (fields text sep) = text := by
  rw [← String.toList_inj, String.toList_intercalate, fields, List.map_map]
  simp [Function.comp_def, List.intercalate_splitOn]

/-- Parts without the separator are the fields of what they are joined to. -/
theorem fields_intercalate {parts : List String} {sep : Char} (hne : parts ≠ [])
    (hfree : ∀ part ∈ parts, sep ∉ part.toList) :
    fields ((String.singleton sep).intercalate parts) sep = parts := by
  have hfree' : ∀ l ∈ parts.map String.toList, sep ∉ l := by
    intro l hl
    obtain ⟨part, hpart, rfl⟩ := List.mem_map.mp hl
    exact hfree part hpart
  rw [fields, String.toList_intercalate, String.toList_singleton,
    List.splitOn_intercalate sep hfree' (by simpa using hne), List.map_map]
  simp [Function.comp_def]

/-- The first field ends at the first separator. -/
theorem head?_fields_append {x : String} {sep : Char} (hx : sep ∉ x.toList) (y : String) :
    (fields (x ++ String.singleton sep ++ y) sep).head? = some x := by
  rw [fields_eq_cons_of_splitOnce (splitOnce_append hx y), List.head?_cons]

/-- What neither the separator nor a part has is not in the joined text. -/
theorem notMem_intercalate {parts : List String} {sep : String} {c : Char}
    (hparts : ∀ part ∈ parts, c ∉ part.toList) (hsep : c ∉ sep.toList) :
    c ∉ (sep.intercalate parts).toList := by
  rw [String.toList_intercalate]
  induction parts with
  | nil => simp
  | cons part parts ih =>
    obtain ⟨hpart, hrest⟩ := List.forall_mem_cons.mp hparts
    cases parts with
    | nil => simpa using hpart
    | cons next others =>
      replace ih := ih hrest
      rw [List.map_cons, List.map_cons, List.intercalate_cons_cons, ← List.map_cons,
        List.mem_append, List.mem_append]
      simp only [hpart, hsep, ih, or_self, not_false_iff]

/-- The last field begins behind the last separator. -/
theorem getLast?_fields_append {y : String} {sep : Char} (hy : sep ∉ y.toList) (x : String) :
    (fields (x ++ String.singleton sep ++ y) sep).getLast? = some y := by
  have htext : (x ++ String.singleton sep ++ y).toList = x.toList ++ sep :: y.toList := by simp
  rw [fields, htext, List.splitOn_append_cons_self, List.splitOn_eq_singleton hy, List.map_append,
    List.map_singleton, List.getLast?_append]
  simp

theorem notMem_of_mem_fields {text field : String} {sep : Char} (h : field ∈ fields text sep) :
    sep ∉ field.toList :=
  notMem_of_mem_splitOn (mem_fields.mp h)

theorem isInfix_of_mem_fields {text field : String} {sep : Char} (h : field ∈ fields text sep) :
    field.toList <:+: text.toList :=
  isInfix_of_mem_splitOn (mem_fields.mp h)

theorem startsWith_iff {text pat : String} : startsWith text pat ↔ pat.toList <+: text.toList :=
  List.isPrefixOf_iff_prefix

/-- A prefix is stripped exactly when the text is the prefix and what is left. -/
theorem stripPrefix_eq_some_iff {text pat rest : String} :
    stripPrefix text pat = some rest ↔ text = pat ++ rest := by
  rw [stripPrefix, Option.map_eq_some_iff, ← String.toList_inj, String.toList_append]
  constructor
  · rintro ⟨chars, hchars, rfl⟩
    rw [List.isPrefixOf?_eq_some_iff_append_eq] at hchars
    rw [String.toList_ofList, hchars]
  · intro htext
    exact ⟨rest.toList, List.isPrefixOf?_eq_some_iff_append_eq.mpr htext.symm, String.ofList_toList⟩

theorem contains_iff {text pat : String} : contains text pat ↔ pat.toList <:+: text.toList := by
  rw [contains, ← Option.ne_none_iff_isSome, ne_eq, dropThrough_eq_none_iff, not_not]

/-- Trimming removes only white space at the ends. -/
theorem exists_eq_append_trim (text : String) :
    ∃ front back, text.toList = front ++ (trim text).toList ++ back ∧
      (∀ c ∈ front, isWhitespace c) ∧ ∀ c ∈ back, isWhitespace c := by
  refine ⟨text.toList.takeWhile isWhitespace,
    (text.toList.dropWhile isWhitespace).rtakeWhile isWhitespace, ?_,
    fun c hc => List.mem_takeWhile_imp hc, fun c hc => List.mem_rtakeWhile_imp hc⟩
  simp [trim, List.append_assoc, List.rdropWhile_append_rtakeWhile]

/-- A character that is no white space survives trimming. -/
theorem mem_trim {text : String} {c : Char} (hc : c ∈ text.toList)
    (hspace : isWhitespace c = false) : c ∈ (trim text).toList := by
  obtain ⟨front, back, htext, hfront, hback⟩ := exists_eq_append_trim text
  rw [htext, List.mem_append, List.mem_append] at hc
  rcases hc with (hc | hc) | hc
  · exact absurd (hfront c hc) (by simp [hspace])
  · exact hc
  · exact absurd (hback c hc) (by simp [hspace])

/-- A character that is no capital letter survives lowering. -/
theorem toList_toAsciiLowercase (text : String) :
    (toAsciiLowercase text).toList = text.toList.map Char.toLower :=
  String.toList_ofList

theorem mem_toAsciiLowercase {text : String} {c : Char} (hc : c ∈ text.toList)
    (hlower : c.toLower = c) : c ∈ (toAsciiLowercase text).toList := by
  rw [toAsciiLowercase, String.toList_ofList]
  exact List.mem_map.mpr ⟨c, hc, hlower⟩

/-! ### Letters and white space -/

/-- Lowering leaves everything but capital letters alone. -/
theorem toLower_of_not_isUpper {c : Char} (hc : c.isUpper = false) : c.toLower = c := by
  rw [Char.toLower, dif_neg]
  simpa [Char.isUpper] using hc

/-- A lowered capital letter is a small letter. -/
theorem isLower_toLower {c : Char} (hc : c.isUpper) : c.toLower.isLower := by
  have hrange : c.val ≥ 'A'.val ∧ c.val ≤ 'Z'.val := by simpa [Char.isUpper] using hc
  rw [Char.toLower, dif_pos hrange]
  simp only [ge_iff_le, UInt32.le_iff_toNat_le] at hrange
  simp [Char.isLower, UInt32.le_iff_toNat_le]
  simp at hrange
  omega

/-- Lowering twice is lowering once. -/
theorem toLower_toLower (c : Char) : c.toLower.toLower = c.toLower := by
  cases hc : c.isUpper with
  | true =>
    have hlower := isLower_toLower hc
    refine toLower_of_not_isUpper (Bool.eq_false_iff.mpr fun hupper => ?_)
    simp only [Char.isLower, Char.isUpper, Bool.and_eq_true, decide_eq_true_eq, ge_iff_le,
      UInt32.le_iff_toNat_le] at hlower hupper
    simp at hlower hupper
    omega
  | false => rw [toLower_of_not_isUpper hc, toLower_of_not_isUpper hc]

theorem toAsciiLowercase_toAsciiLowercase (text : String) :
    toAsciiLowercase (toAsciiLowercase text) = toAsciiLowercase text := by
  rw [← String.toList_inj, toAsciiLowercase, String.toList_ofList, toAsciiLowercase,
    String.toList_ofList, List.map_map]
  exact List.map_congr_left fun c _ => toLower_toLower c

/-- What is lowered to no small letter was that character. -/
theorem eq_of_toLower_eq {c d : Char} (h : c.toLower = d) (hd : d.isLower = false) : c = d := by
  cases hc : c.isUpper with
  | true =>
    rw [← h, isLower_toLower hc] at hd
    cases hd
  | false => rw [← h, toLower_of_not_isUpper hc]

/-- White space is lowered to itself. -/
theorem toLower_of_isWhitespace {c : Char} (hc : isWhitespace c) : c.toLower = c := by
  refine toLower_of_not_isUpper (Bool.eq_false_iff.mpr fun hupper => ?_)
  simp only [isWhitespace, Bool.or_eq_true, Bool.and_eq_true, decide_eq_true_eq, beq_iff_eq] at hc
  simp [Char.isUpper, UInt32.le_iff_toNat_le] at hupper
  omega

/-- Trimming takes off exactly the white space around a text that holds none. -/
theorem toList_trim {text : String} {front core back : List Char}
    (htext : text.toList = front ++ (core ++ back)) (hfront : ∀ c ∈ front, isWhitespace c)
    (hback : ∀ c ∈ back, isWhitespace c) (hcore : ∀ c ∈ core, isWhitespace c = false) :
    (trim text).toList = core := by
  rw [trim, String.toList_ofList, htext, List.dropWhile_append_of_pos hfront]
  cases core with
  | nil => rw [List.nil_append, List.dropWhile_eq_nil_iff.mpr hback, List.rdropWhile_nil]
  | cons c core =>
    have hlast : ((c :: core).reverse).dropWhile isWhitespace = (c :: core).reverse := by
      refine List.dropWhile_eq_self_iff.mpr fun hpos => ?_
      rw [hcore _ (List.mem_reverse.mp (List.getElem_mem _))]
      decide
    have hback' : ∀ c ∈ back.reverse, isWhitespace c := fun c hc => hback c (List.mem_reverse.mp hc)
    rw [List.cons_append, List.dropWhile_cons_of_neg (by rw [hcore c List.mem_cons_self]; decide),
      ← List.cons_append, List.rdropWhile, List.reverse_append, List.dropWhile_append_of_pos hback',
      hlast, List.reverse_reverse]

end Text
