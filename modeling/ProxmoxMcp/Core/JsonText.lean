import ProxmoxMcp.Core.Json
import ProxmoxMcp.Percent
import ProxmoxMcp.PrefixCode

/-!
# The compact text of a JSON value

`Json.compact` writes a value without any white space. A text is put in quotation marks with its
quotation marks, backslashes and control characters **escaped**, so quoted texts can be cut off
whatever follows them, and an array of numbers and texts is told from every other.
-/

namespace ProxmoxMcp

open PrefixCode

/-! ### Writing -/

/-- A lowercase hexadecimal digit. -/
def hexDigit (n : ℕ) : Char := if n < 10 then Char.ofNat (48 + n) else Char.ofNat (87 + n)

/-- What stands for a character inside quotation marks. -/
def escapeChar (c : Char) : List Char :=
  if c = '"' then ['\\', '"']
  else if c = '\\' then ['\\', '\\']
  else if c = Char.ofNat 8 then ['\\', 'b']
  else if c = Char.ofNat 9 then ['\\', 't']
  else if c = Char.ofNat 10 then ['\\', 'n']
  else if c = Char.ofNat 12 then ['\\', 'f']
  else if c = Char.ofNat 13 then ['\\', 'r']
  else if c.toNat < 32 then ['\\', 'u', '0', '0', hexDigit (c.toNat / 16), hexDigit (c.toNat % 16)]
  else [c]

/-- A text in quotation marks. -/
def quote (text : String) : List Char := '"' :: (text.toList.flatMap escapeChar ++ ['"'])

namespace Json

mutual

/-- The characters of the compact text of a value. -/
def compactChars : Json → List Char
  | null => "null".toList
  | bool value => (if value then "true" else "false").toList
  | unsigned value => Nat.toDigits 10 value.toNat
  | negative pred => '-' :: Nat.toDigits 10 (pred + 1)
  | float value => value.text.toList
  | string value => quote value
  | array [] => ['[', ']']
  | array (item :: items) => '[' :: (compactChars item ++ (compactItems items ++ [']']))
  | object [] => ['{', '}']
  | object (member :: members) =>
    '{' :: (compactMember member ++ (compactMembers members ++ ['}']))

/-- The further items of an array, each behind a comma. -/
def compactItems : List Json → List Char
  | [] => []
  | item :: items => ',' :: compactChars item ++ compactItems items

/-- One member of an object. -/
def compactMember : String × Json → List Char
  | (key, value) => quote key ++ ':' :: compactChars value

/-- The further members of an object, each behind a comma. -/
def compactMembers : List (String × Json) → List Char
  | [] => []
  | member :: members => ',' :: compactMember member ++ compactMembers members

end

/-- The compact text of a value. -/
def compact (value : Json) : String := String.ofList value.compactChars

end Json

/-! ### Cutting off quoted texts -/

/-- The character that a short escape stands for. -/
def shortEscaped (c : Char) : Char :=
  if c = 'b' then Char.ofNat 8
  else if c = 't' then Char.ofNat 9
  else if c = 'n' then Char.ofNat 10
  else if c = 'f' then Char.ofNat 12
  else if c = 'r' then Char.ofNat 13
  else c

/-- Read one character out of a quoted text. -/
def readEscaped : List Char → Option (Char × List Char)
  | '\\' :: 'u' :: '0' :: '0' :: a :: b :: rest => do
    return (Char.ofNat (16 * (← Percent.hexValue a) + (← Percent.hexValue b)), rest)
  | '\\' :: c :: rest => some (shortEscaped c, rest)
  | c :: rest => some (c, rest)
  | [] => none

/-- A control character is read back from its two digits. -/
private theorem readEscaped_control (rest : List Char) : ∀ n < 32, readEscaped
    ('\\' :: 'u' :: '0' :: '0' :: hexDigit (n / 16) :: hexDigit (n % 16) :: rest) =
      some (Char.ofNat n, rest) := by
  intro n hn
  have hvalue : ∀ n < 32, Percent.hexValue (hexDigit (n / 16)) = some (n / 16) ∧
      Percent.hexValue (hexDigit (n % 16)) = some (n % 16) := by decide
  obtain ⟨hhigh, hlow⟩ := hvalue n hn
  rw [readEscaped, hhigh, hlow]
  simp [Nat.div_add_mod]

private theorem readEscaped_of_ne {c : Char} (hc : c ≠ '\\') (rest : List Char) :
    readEscaped (c :: rest) = some (c, rest) := by
  rw [readEscaped]
  · rintro a b rest' rfl
    exact fun _ => hc rfl
  · rintro c' rest' rfl
    exact fun _ => hc rfl

/-- **Escaping** is undone by reading. -/
theorem readEscaped_escapeChar (c : Char) (rest : List Char) :
    readEscaped (escapeChar c ++ rest) = some (c, rest) := by
  rw [escapeChar]
  split_ifs with h₁ h₂ h₃ h₄ h₅ h₆ h₇ h₈
  · subst h₁; rfl
  · subst h₂; rfl
  · subst h₃; rfl
  · subst h₄; rfl
  · subst h₅; rfl
  · subst h₆; rfl
  · subst h₇; rfl
  · refine (readEscaped_control rest c.toNat h₈).trans ?_
    rw [Char.ofNat_toNat]
  · exact readEscaped_of_ne h₂ rest

private theorem separable_escapeChar : Separable Anything escapeChar :=
  separable_of_read readEscaped fun c rest _ => readEscaped_escapeChar c rest

/-- What stands for a character does not begin with a quotation mark. -/
private theorem begins_escapeChar : Begins (fun c => Anything c ∧ c ≠ '"') escapeChar := by
  intro c
  rw [escapeChar]
  split_ifs with hquote
  all_goals first
    | exact ⟨'\\', _, rfl, trivial, by decide⟩
    | exact ⟨c, [], rfl, trivial, hquote⟩

/-- **Quoted texts** can be cut off whatever follows them. -/
theorem separable_quote : Separable Anything quote := by
  intro a b s t hs ht heq
  have htexts := (separable_escapeChar.flatMap begins_escapeChar trivial).comp
    fun _ _ h => String.toList_injective h
  exact htexts hs ht (List.tail_eq_of_cons_eq heq)

/-- The decimal digits of a number, as it is written. -/
def digits (value : UInt64) : List Char := Nat.toDigits 10 value.toNat

theorem separable_digits : Separable (fun c => ¬ c.isDigit) digits :=
  separable_toDigits.comp fun _ _ h => UInt64.toNat_inj.mp h

/-- An array of like items is a list of their words. -/
theorem Json.compactChars_array_map {α : Type} {item : α → Json} {code : α → List Char}
    (h : ∀ a, (item a).compactChars = code a) (l : List α) :
    (Json.array (l.map item)).compactChars = listCode '[' ',' ']' code l := by
  have hitems : ∀ l : List α,
      Json.compactItems (l.map item) = l.flatMap fun b => ',' :: code b := by
    intro l
    induction l with
    | nil => rfl
    | cons a l ih => rw [List.map_cons, Json.compactItems, ih, h, List.flatMap_cons]
  cases l with
  | nil => rfl
  | cons a l => rw [List.map_cons, Json.compactChars, hitems, h, listCode]

end ProxmoxMcp
