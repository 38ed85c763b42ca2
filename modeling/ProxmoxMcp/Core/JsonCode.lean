import ProxmoxMcp.Core.JsonText

/-!
# Compact texts determine values

The compact text of a value can be cut off every text that goes on with **no character of a
number**, as a comma or a closing bracket does. The first character tells the kind of the value; a
number goes on for as long as it has characters of numbers, a text up to its quotation mark, and an
array or an object is cut item by item. So two values with one compact text are equal
(`Json.compactChars_injective`).
-/

namespace ProxmoxMcp

open PrefixCode

/-- A number ends before the character. -/
abbrev EndsNumber (c : Char) : Prop := ¬ isNumberChar c

namespace Json

/-! ### Numbers -/

/-- The value is a number. -/
def IsNumber : Json → Prop
  | unsigned _ | negative _ | float _ => True
  | _ => False

variable {a b : Json} {s t : List Char}

private theorem isNumberChar_of_isDigit {c : Char} (h : c.isDigit) : isNumberChar c := by
  simp [isNumberChar, h]

theorem isDigit_of_mem_toDigits {n : ℕ} {c : Char} (h : c ∈ Nat.toDigits 10 n) : c.isDigit :=
  Nat.isDigit_of_mem_toDigits (by omega) (by omega) h

/-- A number is written with characters of numbers. -/
private theorem isNumberChar_of_mem (ha : a.IsNumber) : ∀ c ∈ a.compactChars, isNumberChar c := by
  intro c hc
  cases a with
  | unsigned value =>
    rw [compactChars] at hc
    exact isNumberChar_of_isDigit (isDigit_of_mem_toDigits hc)
  | negative pred =>
    rw [compactChars, List.mem_cons] at hc
    rcases hc with rfl | hc
    · decide
    · exact isNumberChar_of_isDigit (isDigit_of_mem_toDigits hc)
  | float value =>
    rw [compactChars] at hc
    exact value.chars c hc
  | _ => exact ha.elim

/-- A text with a fraction or an exponent is that of no integer. -/
private theorem float_ne_digits (value : FloatText) (n : ℕ) :
    value.text.toList ≠ Nat.toDigits 10 n ∧ value.text.toList ≠ '-' :: Nat.toDigits 10 n := by
  obtain ⟨c, hc, hfloat⟩ := value.isFloat
  have hdigit : ¬ c.isDigit := by rcases hfloat with rfl | rfl <;> decide
  have hminus : c ≠ '-' := by rcases hfloat with rfl | rfl <;> decide
  constructor
  · intro heq
    rw [heq] at hc
    exact hdigit (isDigit_of_mem_toDigits hc)
  · intro heq
    rw [heq, List.mem_cons] at hc
    exact hc.elim hminus fun hc => hdigit (isDigit_of_mem_toDigits hc)

/-- Digits do not begin with a sign. -/
private theorem toDigits_ne_minus (n : ℕ) (l : List Char) : Nat.toDigits 10 n ≠ '-' :: l := by
  intro heq
  have hminus : '-' ∈ Nat.toDigits 10 n := by
    rw [heq]
    exact List.mem_cons_self
  exact absurd (isDigit_of_mem_toDigits hminus) (by decide)

private theorem toDigits_injective : Function.Injective (Nat.toDigits 10) :=
  separable_toDigits.injective

/-- **Numbers** with one text are equal. -/
theorem eq_of_isNumber (ha : a.IsNumber) (hb : b.IsNumber)
    (h : a.compactChars = b.compactChars) : a = b := by
  -- the first character, or a point or exponent, tells the three kinds apart
  cases a with
  | unsigned value =>
    cases b with
    | unsigned value' =>
      simp only [compactChars] at h
      rw [UInt64.toNat_inj.mp (toDigits_injective h)]
    | negative pred =>
      simp only [compactChars] at h
      exact absurd h (toDigits_ne_minus _ _)
    | float value' =>
      simp only [compactChars] at h
      exact absurd h.symm (float_ne_digits value' _).1
    | _ => exact hb.elim
  | negative pred =>
    cases b with
    | unsigned value' =>
      simp only [compactChars] at h
      exact absurd h.symm (toDigits_ne_minus _ _)
    | negative pred' =>
      simp only [compactChars, List.cons.injEq, true_and] at h
      rw [Nat.succ_injective (toDigits_injective h)]
    | float value' =>
      simp only [compactChars] at h
      exact absurd h.symm (float_ne_digits value' _).2
    | _ => exact hb.elim
  | float value =>
    cases b with
    | unsigned value' =>
      simp only [compactChars] at h
      exact absurd h (float_ne_digits value _).1
    | negative pred =>
      simp only [compactChars] at h
      exact absurd h (float_ne_digits value _).2
    | float value' =>
      simp only [compactChars] at h
      rw [FloatText.ext (String.toList_inj.mp h)]
    | _ => exact hb.elim
  | _ => exact ha.elim

/-- Two numbers are cut off at the same place. -/
private theorem cut_number (ha : a.IsNumber) (hb : b.IsNumber) (hs : GoesOn EndsNumber s)
    (ht : GoesOn EndsNumber t) (h : a.compactChars ++ s = b.compactChars ++ t) : a = b ∧ s = t := by
  have htake {l : List Char} (hl : GoesOn EndsNumber l) : l.takeWhile isNumberChar = [] := by
    cases l with
    | nil => rfl
    | cons c l => exact List.takeWhile_cons_of_neg (by simpa [GoesOn] using hl)
  have htext := congrArg (List.takeWhile isNumberChar) h
  rw [List.takeWhile_append_of_pos (isNumberChar_of_mem ha),
    List.takeWhile_append_of_pos (isNumberChar_of_mem hb), htake hs, htake ht, List.append_nil,
    List.append_nil] at htext
  rw [htext] at h
  exact ⟨eq_of_isNumber ha hb htext, List.append_cancel_left h⟩

/-! ### Kinds -/

/-- The character that tells the kind of a value; all numbers have that of zero. -/
def lead : Json → Char
  | null => 'n'
  | bool value => if value then 't' else 'f'
  | unsigned _ | negative _ | float _ => '0'
  | string _ => '"'
  | array _ => '['
  | object _ => '{'

/-- The kind that the first character of a text tells. -/
def kindOf (c : Char) : Char := if isNumberChar c then '0' else c

private theorem exists_lead (a : Json) : ∃ c rest, a.compactChars = c :: rest ∧
    kindOf c = a.lead := by
  have hnumber (ha : a.IsNumber) (hne : a.compactChars ≠ []) :
      ∃ c rest, a.compactChars = c :: rest ∧ kindOf c = '0' := by
    obtain ⟨c, rest, heq⟩ := List.exists_cons_of_ne_nil hne
    have hc := isNumberChar_of_mem ha c (by simp [heq])
    exact ⟨c, rest, heq, if_pos hc⟩
  cases a with
  | null => exact ⟨'n', _, by rw [compactChars]; rfl, by decide⟩
  | bool value => cases value <;> exact ⟨_, _, by rw [compactChars]; rfl, by decide⟩
  | unsigned value => exact hnumber trivial (by rw [compactChars]; exact Nat.toDigits_ne_nil)
  | negative pred => exact hnumber trivial (by rw [compactChars]; simp)
  | float value =>
    refine hnumber trivial ?_
    rw [compactChars]
    obtain ⟨c, hc, -⟩ := value.isFloat
    exact List.ne_nil_of_mem hc
  | string value => exact ⟨'"', _, by rw [compactChars, quote], rfl⟩
  | array items => cases items <;> exact ⟨'[', _, by rw [compactChars], rfl⟩
  | object members => cases members <;> exact ⟨'{', _, by rw [compactChars], rfl⟩

/-- Texts that begin alike begin with values of one kind. -/
private theorem lead_eq (h : a.compactChars ++ s = b.compactChars ++ t) : a.lead = b.lead := by
  obtain ⟨c, rest, ha, hc⟩ := a.exists_lead
  obtain ⟨d, rest', hb, hd⟩ := b.exists_lead
  rw [ha, hb] at h
  rw [← hc, ← hd, List.head_eq_of_cons_eq h]

/-- No value begins as a list closes. -/
private theorem compactChars_append_ne_close (a : Json) (s t : List Char) :
    a.compactChars ++ s ≠ ']' :: t := by
  obtain ⟨c, rest, ha, hc⟩ := a.exists_lead
  rw [ha]
  intro h
  obtain rfl := List.head_eq_of_cons_eq h
  have hlead : a.lead ≠ ']' := by
    cases a with
    | bool value => cases value <;> decide
    | _ => simp [lead]
  exact hlead (hc.symm.trans rfl)

private theorem eq_null_of_lead (h : a.lead = 'n') : a = null := by
  cases a with
  | null => rfl
  | bool value => cases value <;> exact absurd h (by decide)
  | _ => exact absurd h (by simp [lead])

private theorem eq_bool_of_lead {value : Bool} (h : a.lead = (bool value).lead) :
    a = bool value := by
  cases a with
  | bool value' => cases value <;> cases value' <;> first | rfl | exact absurd h (by decide)
  | _ => cases value <;> exact absurd h (by simp [lead])

private theorem isNumber_of_lead (h : a.lead = '0') : a.IsNumber := by
  cases a with
  | unsigned | negative | float => trivial
  | bool value => cases value <;> exact absurd h (by decide)
  | _ => exact absurd h (by simp [lead])

private theorem eq_string_of_lead (h : a.lead = '"') : ∃ value, a = string value := by
  cases a with
  | string value => exact ⟨value, rfl⟩
  | bool value => cases value <;> exact absurd h (by decide)
  | _ => exact absurd h (by simp [lead])

private theorem eq_array_of_lead (h : a.lead = '[') : ∃ items, a = array items := by
  cases a with
  | array items => exact ⟨items, rfl⟩
  | bool value => cases value <;> exact absurd h (by decide)
  | _ => exact absurd h (by simp [lead])

private theorem eq_object_of_lead (h : a.lead = '{') : ∃ members, a = object members := by
  cases a with
  | object members => exact ⟨members, rfl⟩
  | bool value => cases value <;> exact absurd h (by decide)
  | _ => exact absurd h (by simp [lead])

/-! ### Cutting -/

/-- Between the items of a list and behind the last one no number goes on. -/
private theorem goesOn_compactItems (items : List Json) (l : List Char) :
    GoesOn EndsNumber (compactItems items ++ ']' :: l) := by
  cases items with
  | nil =>
    rw [compactItems]
    exact goesOn_cons (by decide)
  | cons item items =>
    rw [compactItems]
    exact goesOn_cons (by decide)

private theorem goesOn_compactMembers (members : List (String × Json)) (l : List Char) :
    GoesOn EndsNumber (compactMembers members ++ '}' :: l) := by
  cases members with
  | nil =>
    rw [compactMembers]
    exact goesOn_cons (by decide)
  | cons member members =>
    rw [compactMembers]
    exact goesOn_cons (by decide)

mutual

/-- **Values** can be cut off every text in which no number goes on. -/
theorem cut_compactChars : ∀ (a b : Json) (s t : List Char), GoesOn EndsNumber s →
    GoesOn EndsNumber t → a.compactChars ++ s = b.compactChars ++ t → a = b ∧ s = t
  | .null, b, s, t, _, _, h => by
    obtain rfl := eq_null_of_lead (lead_eq h).symm
    exact ⟨rfl, List.append_cancel_left h⟩
  | .bool value, b, s, t, _, _, h => by
    obtain rfl := eq_bool_of_lead (lead_eq h).symm
    exact ⟨rfl, List.append_cancel_left h⟩
  | .unsigned _, b, s, t, hs, ht, h =>
    cut_number trivial (isNumber_of_lead (lead_eq h).symm) hs ht h
  | .negative _, b, s, t, hs, ht, h =>
    cut_number trivial (isNumber_of_lead (lead_eq h).symm) hs ht h
  | .float _, b, s, t, hs, ht, h =>
    cut_number trivial (isNumber_of_lead (lead_eq h).symm) hs ht h
  | .string value, b, s, t, _, _, h => by
    obtain ⟨value', rfl⟩ := eq_string_of_lead (lead_eq h).symm
    rw [compactChars, compactChars] at h
    obtain ⟨rfl, hst⟩ := separable_quote (goesOn_anything s) (goesOn_anything t) h
    exact ⟨rfl, hst⟩
  | .array [], b, s, t, _, _, h => by
    obtain ⟨items', rfl⟩ := eq_array_of_lead (lead_eq h).symm
    cases items' with
    | nil => exact ⟨rfl, List.append_cancel_left h⟩
    | cons item' items' =>
      simp only [compactChars, List.cons_append, List.append_assoc] at h
      exact absurd (List.tail_eq_of_cons_eq h).symm (compactChars_append_ne_close _ _ _)
  | .array (item :: items), b, s, t, _, _, h => by
    obtain ⟨items', rfl⟩ := eq_array_of_lead (lead_eq h).symm
    cases items' with
    | nil =>
      simp only [compactChars, List.cons_append, List.append_assoc] at h
      exact absurd (List.tail_eq_of_cons_eq h) (compactChars_append_ne_close _ _ _)
    | cons item' items' =>
      simp only [compactChars, List.cons_append, List.append_assoc, List.nil_append] at h
      obtain ⟨rfl, hrest⟩ := cut_compactChars item item' _ _ (goesOn_compactItems items s)
        (goesOn_compactItems items' t) (List.tail_eq_of_cons_eq h)
      obtain ⟨rfl, hst⟩ := cut_compactItems items items' s t hrest
      exact ⟨rfl, hst⟩
  | .object [], b, s, t, _, _, h => by
    obtain ⟨members', rfl⟩ := eq_object_of_lead (lead_eq h).symm
    cases members' with
    | nil => exact ⟨rfl, List.append_cancel_left h⟩
    | cons member' members' =>
      obtain ⟨key', value'⟩ := member'
      simp only [compactChars, compactMember, quote, List.cons_append, List.append_assoc] at h
      exact absurd (List.head_eq_of_cons_eq (List.tail_eq_of_cons_eq h)) (by decide)
  | .object (member :: members), b, s, t, _, _, h => by
    obtain ⟨members', rfl⟩ := eq_object_of_lead (lead_eq h).symm
    cases members' with
    | nil =>
      obtain ⟨key, value⟩ := member
      simp only [compactChars, compactMember, quote, List.cons_append, List.append_assoc] at h
      exact absurd (List.head_eq_of_cons_eq (List.tail_eq_of_cons_eq h)) (by decide)
    | cons member' members' =>
      simp only [compactChars, List.cons_append, List.append_assoc, List.nil_append] at h
      obtain ⟨rfl, hrest⟩ := cut_compactMember member member' _ _ (goesOn_compactMembers members s)
        (goesOn_compactMembers members' t) (List.tail_eq_of_cons_eq h)
      obtain ⟨rfl, hst⟩ := cut_compactMembers members members' s t hrest
      exact ⟨rfl, hst⟩

private theorem cut_compactItems : ∀ (items items' : List Json) (s t : List Char),
    compactItems items ++ ']' :: s = compactItems items' ++ ']' :: t → items = items' ∧ s = t
  | [], [], s, t, h => by
    rw [compactItems] at h
    exact ⟨rfl, List.tail_eq_of_cons_eq h⟩
  | [], item' :: items', s, t, h => by
    rw [compactItems, compactItems] at h
    exact absurd (List.head_eq_of_cons_eq h) (by decide)
  | item :: items, [], s, t, h => by
    rw [compactItems, compactItems] at h
    exact absurd (List.head_eq_of_cons_eq h) (by decide)
  | item :: items, item' :: items', s, t, h => by
    simp only [compactItems, List.cons_append, List.append_assoc] at h
    obtain ⟨rfl, hrest⟩ := cut_compactChars item item' _ _ (goesOn_compactItems items s)
      (goesOn_compactItems items' t) (List.tail_eq_of_cons_eq h)
    obtain ⟨rfl, hst⟩ := cut_compactItems items items' s t hrest
    exact ⟨rfl, hst⟩

/-- A member is cut at its colon, and its value as values are. -/
private theorem cut_compactMember : ∀ (member member' : String × Json) (s t : List Char),
    GoesOn EndsNumber s → GoesOn EndsNumber t →
    compactMember member ++ s = compactMember member' ++ t → member = member' ∧ s = t
  | (key, value), (key', value'), s, t, hs, ht, h => by
    simp only [compactMember, List.cons_append, List.append_assoc] at h
    obtain ⟨rfl, hvalue⟩ := separable_quote.cut trivial h
    obtain ⟨rfl, hst⟩ := cut_compactChars value value' s t hs ht hvalue
    exact ⟨rfl, hst⟩

private theorem cut_compactMembers : ∀ (members members' : List (String × Json)) (s t : List Char),
    compactMembers members ++ '}' :: s = compactMembers members' ++ '}' :: t →
      members = members' ∧ s = t
  | [], [], s, t, h => by
    rw [compactMembers] at h
    exact ⟨rfl, List.tail_eq_of_cons_eq h⟩
  | [], member' :: members', s, t, h => by
    rw [compactMembers, compactMembers] at h
    exact absurd (List.head_eq_of_cons_eq h) (by decide)
  | member :: members, [], s, t, h => by
    rw [compactMembers, compactMembers] at h
    exact absurd (List.head_eq_of_cons_eq h) (by decide)
  | member :: members, member' :: members', s, t, h => by
    simp only [compactMembers, List.cons_append, List.append_assoc] at h
    obtain ⟨rfl, hrest⟩ := cut_compactMember member member' _ _ (goesOn_compactMembers members s)
      (goesOn_compactMembers members' t) (List.tail_eq_of_cons_eq h)
    obtain ⟨rfl, hst⟩ := cut_compactMembers members members' s t hrest
    exact ⟨rfl, hst⟩

end

private theorem separable_compactChars : Separable EndsNumber compactChars :=
  fun a b s t hs ht h => cut_compactChars a b s t hs ht h

/-- **The compact text determines the value.** -/
theorem compactChars_injective : Function.Injective compactChars :=
  separable_compactChars.injective

end Json

end ProxmoxMcp
