import ProxmoxMcp.Core.Scope

/-!
# The language of guest selectors

`Selector.Spelled` is the grammar: which texts spell which selector. `Selector.parse` accepts
exactly this language (`Selector.parse_eq_ok_iff`), so a text spells at most one selector.
`Selector.denotes` is what a selector means, a set of guests, and a grant admits a guest exactly if
one of its terms spells a selector that means it (`ProxmoxGrant.allowsGuest_iff`).
-/

namespace ProxmoxMcp

open Text

/-! ### Numbers -/

/-- Decimal digits, leading zeros and all. -/
def Decimal (number : UInt32) (digits : List Char) : Prop :=
  digits ≠ [] ∧ (∀ c ∈ digits, c.isDigit) ∧ digitsValue digits = number.toNat

/-- What is read as a number: digits, optionally behind a plus sign. -/
inductive Numeral (number : UInt32) : String → Prop
  | unsigned {text} (digits : Decimal number text.toList) : Numeral number text
  | plus {text} (digits : Decimal number text.toList) : Numeral number ("+" ++ text)

private theorem parseDigits_eq_some_iff {digits : List Char} {number : UInt32} :
    ((if digits ≠ [] ∧ digits.all Char.isDigit ∧ digitsValue digits ≤ UInt32.size - 1 then
      some (digitsValue digits) else none).map UInt32.ofNat) = some number ↔
      Decimal number digits := by
  have hlt := number.toNat_lt
  have hsize : UInt32.size = 2 ^ 32 := rfl
  constructor
  · intro h
    split_ifs at h with hdigits
    · obtain rfl := Option.some.inj h
      obtain ⟨hne, hall, hle⟩ := hdigits
      refine ⟨hne, List.all_eq_true.mp hall, ?_⟩
      have hsmall : digitsValue digits < UInt32.size := by omega
      exact (UInt32.toNat_ofNat_of_lt hsmall).symm
    · cases h
  · rintro ⟨hne, hall, hvalue⟩
    have hle : digitsValue digits ≤ UInt32.size - 1 := by omega
    rw [if_pos ⟨hne, List.all_eq_true.mpr hall, hle⟩, hvalue, Option.map_some, UInt32.ofNat_toNat]

/-- A plus sign is no digit. -/
private theorem not_decimal_plus {number : UInt32} {rest : List Char} :
    ¬ Decimal number ('+' :: rest) :=
  fun h => absurd (h.2.1 '+' List.mem_cons_self) (by decide)

/-- **Numbers are read** from their numerals, and from nothing else. -/
theorem parseU32_eq_some_iff_numeral {text : String} {number : UInt32} :
    parseU32 text = some number ↔ Numeral number text := by
  rw [parseU32, parseUnsigned]
  constructor
  · intro h
    split at h
    · next rest hplus =>
      have htext : text = "+" ++ String.ofList rest := by
        rw [← String.toList_inj, hplus]
        simp
      rw [htext]
      exact .plus (by simpa using parseDigits_eq_some_iff.mp h)
    · exact .unsigned (parseDigits_eq_some_iff.mp h)
  · intro h
    cases h with
    | unsigned digits =>
      split
      · next rest hplus => exact absurd (hplus ▸ digits) not_decimal_plus
      · exact parseDigits_eq_some_iff.mpr digits
    | @plus text digits =>
      have hplus : ("+" ++ text).toList = '+' :: text.toList := by simp
      rw [hplus]
      exact parseDigits_eq_some_iff.mpr digits

/-- A numeral has no sign but a plus. -/
theorem Numeral.notMem_minus {number : UInt32} {text : String} (h : Numeral number text) :
    '-' ∉ text.toList := by
  have hdigits {digits : List Char} (hdecimal : Decimal number digits) : '-' ∉ digits :=
    fun hmem => absurd (hdecimal.2.1 '-' hmem) (by decide)
  cases h with
  | unsigned digits => exact hdigits digits
  | plus digits => simpa using hdigits digits

namespace Selector

/-! ### The grammar -/

/-- The texts that spell a selector. -/
inductive Spelled : Selector → String → Prop
  | any : Spelled any "*"
  | vmid {number text} (numeral : Numeral number text) : Spelled (vmid number) ("vmid:" ++ text)
  | vmidRange {low high first last} (lowest : Numeral low first) (highest : Numeral high last)
      (ordered : low ≤ high) : Spelled (vmidRange low high) ("vmid:" ++ (first ++ "-" ++ last))
  | tag (name : String) : Spelled (tag name) ("tag:" ++ name)
  | pool (name : String) : Spelled (pool name) ("pool:" ++ name)
  | node (name : String) : Spelled (node name) ("node:" ++ name)
  | type (kind : GuestType) : Spelled (type kind) ("type:" ++ kind.pathSegment)

private theorem parseVmidTerm_eq_ok_iff {value : String} {selector : Selector} :
    parseVmidTerm value = .ok selector ↔
      (∃ number, selector = .vmid number ∧ Numeral number value) ∨
      ∃ low high first last, selector = .vmidRange low high ∧ Numeral low first ∧
        Numeral high last ∧ low ≤ high ∧ value = first ++ "-" ++ last := by
  rw [parseVmidTerm]
  cases hsplit : splitOnce value '-' with
  | none =>
    have hminus : '-' ∉ value.toList := splitOnce_eq_none_iff.mp hsplit
    dsimp only
    constructor
    · intro h
      split at h
      · next number hnumber =>
        exact .inl ⟨number, (Except.ok.inj h).symm, parseU32_eq_some_iff_numeral.mp hnumber⟩
      · cases h
    · rintro (⟨number, rfl, hnumeral⟩ | ⟨low, high, first, last, -, -, -, -, rfl⟩)
      · rw [parseU32_eq_some_iff_numeral.mpr hnumeral]
      · exact absurd hminus (by simp)
  | some halves =>
    obtain ⟨first, last⟩ := halves
    obtain ⟨hfirst, hvalue⟩ := splitOnce_eq_some_iff.mp hsplit
    dsimp only
    constructor
    · intro h
      split at h
      · next low high hlow hhigh =>
        split_ifs at h with hgt
        obtain rfl := Except.ok.inj h
        refine .inr ⟨low, high, first, last, rfl, parseU32_eq_some_iff_numeral.mp hlow,
          parseU32_eq_some_iff_numeral.mp hhigh, UInt32.not_lt.mp hgt, ?_⟩
        rw [← String.toList_inj, hvalue]
        simp
      · cases h
    · rintro (⟨number, rfl, hnumeral⟩ | ⟨low, high, first', last', rfl, hlow, hhigh, hle, rfl⟩)
      · exact absurd (hvalue ▸ hnumeral.notMem_minus) (by simp)
      · have hhalves : splitOnce (first' ++ "-" ++ last') '-' = some (first', last') :=
          splitOnce_append hlow.notMem_minus last'
        obtain ⟨rfl, rfl⟩ := Prod.mk.inj (Option.some.inj (hhalves.symm.trans hsplit))
        rw [parseU32_eq_some_iff_numeral.mpr hlow, parseU32_eq_some_iff_numeral.mpr hhigh]
        exact if_neg (UInt32.not_lt.mpr hle)

/-- A text with a prefix is no star. -/
private theorem ne_star_of_splitOnce {input : String} {halves : String × String}
    (hsplit : splitOnce input ':' = some halves) : input ≠ "*" := by
  rintro rfl
  have hnone : splitOnce "*" ':' = none := by decide
  rw [hnone] at hsplit
  cases hsplit

theorem eq_of_splitOnce {input head value : String}
    (hsplit : splitOnce input ':' = some (head, value)) : input = head ++ ":" ++ value := by
  rw [← String.toList_inj, (splitOnce_eq_some_iff.mp hsplit).2]
  simp

theorem spelled_of_parse {input : String} {selector : Selector}
    (h : parse input = .ok selector) : selector.Spelled input := by
  rw [parse] at h
  split_ifs at h with hstar
  · obtain rfl := Except.ok.inj h
    exact hstar ▸ .any
  · split at h
    · cases h
    · next value hsplit =>
      obtain rfl := eq_of_splitOnce hsplit
      rcases parseVmidTerm_eq_ok_iff.mp h with ⟨number, rfl, hnumeral⟩ |
        ⟨low, high, first, last, rfl, hlow, hhigh, hle, rfl⟩
      · exact .vmid hnumeral
      · exact .vmidRange hlow hhigh hle
    · next name hsplit =>
      obtain rfl := Except.ok.inj h
      exact eq_of_splitOnce hsplit ▸ .tag name
    · next name hsplit =>
      obtain rfl := Except.ok.inj h
      exact eq_of_splitOnce hsplit ▸ .pool name
    · next name hsplit =>
      obtain rfl := Except.ok.inj h
      exact eq_of_splitOnce hsplit ▸ .node name
    · next hsplit =>
      obtain rfl := Except.ok.inj h
      exact eq_of_splitOnce hsplit ▸ .type .qemu
    · next hsplit =>
      obtain rfl := Except.ok.inj h
      exact eq_of_splitOnce hsplit ▸ .type .lxc
    · cases h
    · cases h

theorem parse_of_spelled {input : String} {selector : Selector} (h : selector.Spelled input) :
    parse input = .ok selector := by
  cases h with
  | any => exact if_pos rfl
  | @vmid number text numeral =>
    have hsplit : splitOnce ("vmid:" ++ text) ':' = some ("vmid", text) :=
      splitOnce_eq_some_iff.mpr ⟨by decide, by simp⟩
    rw [parse, if_neg (ne_star_of_splitOnce hsplit), hsplit]
    exact parseVmidTerm_eq_ok_iff.mpr (.inl ⟨_, rfl, numeral⟩)
  | @vmidRange low high first last lowest highest ordered =>
    have hsplit : splitOnce ("vmid:" ++ (first ++ "-" ++ last)) ':' =
        some ("vmid", first ++ "-" ++ last) :=
      splitOnce_eq_some_iff.mpr ⟨by decide, by simp⟩
    rw [parse, if_neg (ne_star_of_splitOnce hsplit), hsplit]
    exact parseVmidTerm_eq_ok_iff.mpr (.inr ⟨_, _, _, _, rfl, lowest, highest, ordered, rfl⟩)
  | tag name =>
    have hsplit : splitOnce ("tag:" ++ name) ':' = some ("tag", name) :=
      splitOnce_eq_some_iff.mpr ⟨by decide, by simp⟩
    rw [parse, if_neg (ne_star_of_splitOnce hsplit), hsplit]
    rfl
  | pool name =>
    have hsplit : splitOnce ("pool:" ++ name) ':' = some ("pool", name) :=
      splitOnce_eq_some_iff.mpr ⟨by decide, by simp⟩
    rw [parse, if_neg (ne_star_of_splitOnce hsplit), hsplit]
    rfl
  | node name =>
    have hsplit : splitOnce ("node:" ++ name) ':' = some ("node", name) :=
      splitOnce_eq_some_iff.mpr ⟨by decide, by simp⟩
    rw [parse, if_neg (ne_star_of_splitOnce hsplit), hsplit]
    rfl
  | type kind =>
    have hsplit : splitOnce ("type:" ++ kind.pathSegment) ':' = some ("type", kind.pathSegment) :=
      splitOnce_eq_some_iff.mpr ⟨by decide, by simp⟩
    rw [parse, if_neg (ne_star_of_splitOnce hsplit), hsplit]
    cases kind with
    | qemu => rfl
    | lxc => rfl

/-- **The parser accepts the language**: a text is read as a selector exactly if it spells it. -/
theorem parse_eq_ok_iff {input : String} {selector : Selector} :
    parse input = .ok selector ↔ selector.Spelled input :=
  ⟨spelled_of_parse, parse_of_spelled⟩

/-! ### Meaning -/

/-- The guests a selector means. -/
def denotes : Selector → Set GuestFacts
  | any => Set.univ
  | vmid number => {facts | facts.vmid = number}
  | vmidRange low high => {facts | low ≤ facts.vmid ∧ facts.vmid ≤ high}
  | tag name => {facts | name ∈ facts.tags}
  | pool name => {facts | facts.pool = some name}
  | node name => {facts | facts.node = name}
  | type kind => {facts | facts.type = kind}

private theorem matchesGuest_iff {selector : Selector} {facts : GuestFacts} :
    selector.matchesGuest facts ↔ facts ∈ selector.denotes := by
  cases selector <;> simp [matchesGuest, denotes]

/-- What does not admit a number leaves out a guest that could have it. -/
private theorem exists_not_mem_denotes {selector : Selector} {number : UInt32}
    (h : selector.matchesNumber number = false) :
    ∃ facts : GuestFacts, facts.vmid = number ∧ facts ∉ selector.denotes := by
  cases selector with
  | any => cases h
  | vmid other =>
    refine ⟨⟨number, .qemu, "", none, []⟩, rfl, fun hmem => ?_⟩
    have hother : number = other := hmem
    rw [matchesNumber, hother, beq_self_eq_true] at h
    cases h
  | vmidRange low high =>
    refine ⟨⟨number, .qemu, "", none, []⟩, rfl, fun hmem => ?_⟩
    have hrange : low ≤ number ∧ number ≤ high := hmem
    simp [matchesNumber, hrange] at h
  | tag name => exact ⟨⟨number, .qemu, "", none, []⟩, rfl, List.not_mem_nil⟩
  | pool name =>
    refine ⟨⟨number, .qemu, "", none, []⟩, rfl, fun hmem => ?_⟩
    have hnone : (none : Option String) = some name := hmem
    cases hnone
  | node name =>
    refine ⟨⟨number, .qemu, name ++ "0", none, []⟩, rfl, fun hmem => ?_⟩
    have hlength := congrArg String.length (show name ++ "0" = name from hmem)
    simp at hlength
  | type kind =>
    cases kind with
    | qemu =>
      refine ⟨⟨number, .lxc, "", none, []⟩, rfl, fun hmem => ?_⟩
      have hkind : GuestType.lxc = .qemu := hmem
      cases hkind
    | lxc =>
      refine ⟨⟨number, .qemu, "", none, []⟩, rfl, fun hmem => ?_⟩
      have hkind : GuestType.qemu = .lxc := hmem
      cases hkind

/-- **A bare number** is admitted by the selectors that mean every guest that could have it. -/
theorem matchesNumber_iff {selector : Selector} {number : UInt32} :
    selector.matchesNumber number ↔
      ∀ facts : GuestFacts, facts.vmid = number → facts ∈ selector.denotes := by
  constructor
  · rintro h facts rfl
    exact matchesGuest_iff.mp (matchesGuest_of_matchesNumber h)
  · intro h
    by_contra hnumber
    obtain ⟨facts, hvmid, hfacts⟩ := exists_not_mem_denotes (Bool.eq_false_of_not_eq_true hnumber)
    exact hfacts (h facts hvmid)

end Selector

namespace ProxmoxGrant

variable {grant : ProxmoxGrant}

/-- The guests that a list of terms means. -/
def scopeOf (terms : List String) : Set GuestFacts :=
  {facts | ∃ term ∈ terms, ∃ selector : Selector, selector.Spelled term ∧ facts ∈ selector.denotes}

/-- **The scope of a grant** is the union of what its terms mean. -/
theorem allowsGuest_iff {facts : GuestFacts} :
    grant.allowsGuest facts ↔ facts ∈ scopeOf grant.guests := by
  rw [allowsGuest, anyTerm_iff]
  simp only [Selector.parse_eq_ok_iff, Selector.matchesGuest_iff]
  rfl

theorem allowsNewVmid_iff {number : UInt32} : grant.allowsNewVmid number ↔
    ∃ term ∈ grant.guests, ∃ selector : Selector, selector.Spelled term ∧
      ∀ facts : GuestFacts, facts.vmid = number → facts ∈ selector.denotes := by
  rw [allowsNewVmid, anyTerm_iff]
  simp only [Selector.parse_eq_ok_iff, Selector.matchesNumber_iff]

/-- A grant is valid when every term spells a selector. -/
theorem validate_eq_ok_iff : grant.validate = .ok () ↔
    ∀ term ∈ grant.guests, ∃ selector : Selector, selector.Spelled term := by
  refine Fallible.forM_eq_ok_iff.trans (forall₂_congr fun term _ => ?_)
  simp only [← Selector.parse_eq_ok_iff]
  cases hparse : Selector.parse term with
  | error error => simp [Except.mapError, bind, Except.bind]
  | ok selector => simp [Except.mapError, bind, Except.bind, pure, Except.pure]

end ProxmoxGrant

end ProxmoxMcp
