import ProxmoxMcp.Core.Encoding
import ProxmoxMcp.Core.Guests
import ProxmoxMcp.UrlPath

/-!
# The path expander

Paths are filled in by a third-party function, of which the server relies on little: it refuses a
value that would **span a segment**, it accepts a template with the parameters it names when every
value substituted into it is acceptable **on its own**, and it accepts what it has expanded once
more, with an encoded id behind it.

Nothing is assumed of parameters that a template does not name, nor of placeholders without a
parameter: the expander refuses both.
-/

namespace ProxmoxMcp

open Text Percent

/-! ### Templates -/

/-- The segment of a template that stands for a parameter. -/
def placeholder (name : String) : String := "\x7b" ++ name ++ "\x7d"

/-- The segments of a template, with each value in the place of the placeholder named after it. -/
def filledSegments (template : String) (params : List (String × String)) : List String :=
  (fields template '/').map fun segment =>
    ((params.find? fun param => "\x7b" ++ param.1 ++ "\x7d" == segment).map Prod.snd).getD segment

/-- A template **takes** parameters of these names: they are its placeholders, each a segment of its
own, and the other segments are plain text. -/
structure Takes (template : String) (names : List String) : Prop where
  plain : ∀ segment ∈ fields template '/', Clean segment ∧ segment ∉ [".", ".."]
  nonempty : ∀ segment ∈ (fields template '/').tail, segment ≠ ""
  named : ∀ name ∈ names, placeholder name ∈ fields template '/'
  covered : ∀ segment ∈ fields template '/', '{' ∈ segment.toList ∨ '}' ∈ segment.toList →
    segment ∈ names.map placeholder
  distinct : names.Nodup

private theorem takes_iff {template : String} {names : List String} : Takes template names ↔
    (∀ segment ∈ fields template '/', Clean segment ∧ segment ∉ [".", ".."]) ∧
    (∀ segment ∈ (fields template '/').tail, segment ≠ "") ∧
    (∀ name ∈ names, placeholder name ∈ fields template '/') ∧
    (∀ segment ∈ fields template '/', '{' ∈ segment.toList ∨ '}' ∈ segment.toList →
      segment ∈ names.map placeholder) ∧ names.Nodup :=
  ⟨fun h => ⟨h.plain, h.nonempty, h.named, h.covered, h.distinct⟩,
    fun h => ⟨h.1, h.2.1, h.2.2.1, h.2.2.2.1, h.2.2.2.2⟩⟩

instance (template : String) (names : List String) : Decidable (Takes template names) :=
  decidable_of_iff _ takes_iff.symm

/-- A filled segment is one of the template, or a value. -/
theorem mem_filledSegments {template segment : String} {params : List (String × String)}
    (h : segment ∈ filledSegments template params) :
    segment ∈ fields template '/' ∨ ∃ param ∈ params, param.2 = segment := by
  obtain ⟨literal, hliteral, rfl⟩ := List.mem_map.mp h
  cases hfind : params.find? fun param => "\x7b" ++ param.1 ++ "\x7d" == literal with
  | none => exact .inl hliteral
  | some param => exact .inr ⟨param, List.mem_of_find?_eq_some hfind, rfl⟩

/-! ### What the server relies on -/

section Laws

variable [Externals]

/-- Whether the expander accepts a value as a segment. -/
def IsSegment (value : String) : Prop :=
  ∃ path, Externals.expandPath "{segment}" [("segment", value)] = .ok path

/-- The expander **keeps segments apart**: it accepts no value with a slash in it. -/
def KeepsSegmentsApart : Prop := ∀ value, IsSegment value → '/' ∉ value.toList

/-- What the server relies on when it checks values before it expands them. -/
structure ExpanderLaws : Prop where
  /-- A template is accepted, with the parameters it names, exactly when each of its values is. -/
  each : ∀ {template : String} {params : List (String × String)},
    Takes template (params.map Prod.fst) →
    ((∃ path, Externals.expandPath template params = .ok path) ↔
      ∀ param ∈ params, IsSegment param.2)
  /-- What was expanded is accepted again, with an encoded id behind it. -/
  expanded : ∀ {template path id : String} {params : List (String × String)},
    Externals.expandPath template params = .ok path → id ∉ ["", ".", ".."] →
      ∃ path', Externals.expandPath (path ++ "/" ++ percentEncode id) [] = .ok path'

/-- The checked value is what the expander accepts. -/
theorem validatePathSegment_eq_ok_iff {value field : String} :
    Guests.validatePathSegment value field = .ok () ↔ IsSegment value := by
  rw [Guests.validatePathSegment, IsSegment]
  cases Externals.expandPath "{segment}" [("segment", value)] <;> simp

end Laws

/-! ### An expander that keeps the laws -/

/-- A value with no slash and no brace that is no navigation. -/
def isPlainSegment (value : String) : Bool :=
  !value.toList.contains '/' && !value.toList.contains '{' && !value.toList.contains '}' &&
    value != "" && value != "." && value != ".."

/-- Each parameter has its placeholder, and each brace is one of a placeholder. -/
def namesMatch (template : String) (names : List String) : Bool :=
  names.all (fun name => (fields template '/').contains (placeholder name)) &&
    (fields template '/').all fun segment => (names.map placeholder).contains segment ||
      !segment.toList.contains '{' && !segment.toList.contains '}'

/-- Fill in a template, if it names just the parameters and every value is a plain segment. -/
def expandPlainSegments (template : String) (params : List (String × String)) :
    Except String String :=
  if namesMatch template (params.map Prod.fst) && params.all fun param => isPlainSegment param.2
  then .ok ("/".intercalate (filledSegments template params))
  else .error "the parameters do not fit the template"

private theorem namesMatch_of_takes {template : String} {names : List String}
    (h : Takes template names) : namesMatch template names = true := by
  rw [namesMatch, Bool.and_eq_true, List.all_eq_true, List.all_eq_true]
  refine ⟨fun name hname => List.contains_iff_mem.mpr (h.named name hname), fun segment hmem => ?_⟩
  rw [Bool.or_eq_true, List.contains_iff_mem]
  by_cases hbrace : '{' ∈ segment.toList ∨ '}' ∈ segment.toList
  · exact .inl (h.covered segment hmem hbrace)
  · rw [not_or] at hbrace
    exact .inr (by simp [hbrace])

private theorem exists_expandPlainSegments {template : String} {params : List (String × String)} :
    (∃ path, expandPlainSegments template params = .ok path) ↔
      namesMatch template (params.map Prod.fst) ∧ ∀ param ∈ params, isPlainSegment param.2 := by
  rw [expandPlainSegments, ← List.all_eq_true, ← Bool.and_eq_true]
  split_ifs with h
  · exact iff_of_true ⟨_, rfl⟩ h
  · exact iff_of_false (by simp) h

/-- What is filled in has no braces. -/
private theorem notMem_expandPlainSegments {template path : String} {c : Char}
    {params : List (String × String)} (hpath : expandPlainSegments template params = .ok path)
    (hc : c = '{' ∨ c = '}') : c ∉ path.toList := by
  obtain ⟨hnames, hplain⟩ := exists_expandPlainSegments.mp ⟨path, hpath⟩
  rw [expandPlainSegments] at hpath
  split_ifs at hpath
  obtain rfl := Except.ok.inj hpath
  have hvalue : ∀ param ∈ params, c ∉ param.2.toList := by
    intro param hparam
    have hfree := hplain param hparam
    simp only [isPlainSegment, Bool.and_eq_true, Bool.not_eq_true', List.contains_eq_mem,
      decide_eq_false_iff_not] at hfree
    rcases hc with rfl | rfl
    · exact hfree.1.1.1.1.2
    · exact hfree.1.1.1.2
  have hsegment : ∀ segment ∈ filledSegments template params, c ∉ segment.toList := by
    intro segment hmem
    obtain ⟨literal, hliteral, rfl⟩ := List.mem_map.mp hmem
    cases hfind : params.find? fun param => "\x7b" ++ param.1 ++ "\x7d" == literal with
    | some param => exact hvalue param (List.mem_of_find?_eq_some hfind)
    | none =>
      -- a segment that stays as it is stands for no parameter
      rw [namesMatch, Bool.and_eq_true, List.all_eq_true, List.all_eq_true] at hnames
      have hmatch := hnames.2 literal hliteral
      rw [Bool.or_eq_true, List.contains_iff_mem] at hmatch
      rcases hmatch with hnamed | hfree
      · obtain ⟨name, hname, rfl⟩ := List.mem_map.mp hnamed
        obtain ⟨param, hparam, rfl⟩ := List.mem_map.mp hname
        exact absurd (List.find?_eq_none.mp hfind param hparam) (by simp [placeholder])
      · simp only [Bool.and_eq_true, Bool.not_eq_true', List.contains_eq_mem,
          decide_eq_false_iff_not] at hfree
        rcases hc with rfl | rfl
        · exact hfree.1
        · exact hfree.2
  refine notMem_intercalate hsegment ?_
  rcases hc with rfl | rfl <;> decide

/-- Stand-ins with this expander. -/
@[reducible] def Externals.guarded : Externals :=
  { Externals.plain with expandPath := expandPlainSegments }

theorem isSegment_guarded {value : String} :
    @IsSegment Externals.guarded value ↔ isPlainSegment value := by
  refine Iff.trans exists_expandPlainSegments ?_
  have hnames : namesMatch "{segment}" ["segment"] = true := by decide
  simp [hnames]

theorem keepsSegmentsApart_guarded : @KeepsSegmentsApart Externals.guarded := by
  intro value hsegment
  have hplain := isSegment_guarded.mp hsegment
  simp only [isPlainSegment, Bool.and_eq_true, Bool.not_eq_true', List.contains_eq_mem,
    decide_eq_false_iff_not] at hplain
  exact hplain.1.1.1.1.1

theorem expanderLaws_guarded : @ExpanderLaws Externals.guarded := by
  refine @ExpanderLaws.mk Externals.guarded (fun {template params} htakes => ?_)
    fun {template path id params} hpath _ => ?_
  · simp only [isSegment_guarded]
    exact exists_expandPlainSegments.trans (and_iff_right (namesMatch_of_takes htakes))
  · refine exists_expandPlainSegments.mpr ⟨?_, by simp⟩
    rw [namesMatch, Bool.and_eq_true]
    refine ⟨rfl, List.all_eq_true.mpr fun segment hmem => ?_⟩
    have hfree {c : Char} (hc : c = '{' ∨ c = '}') : c ∉ segment.toList := by
      intro hc'
      have hmem' := (isInfix_of_mem_fields hmem).subset hc'
      have hencoded : c ∉ (percentEncode id).toList := by
        rcases hc with rfl | rfl
        · exact (encoded_percentEncode id).notMem (by decide)
        · exact (encoded_percentEncode id).notMem (by decide)
      have hslash : c ≠ '/' := by rcases hc with rfl | rfl <;> decide
      simp [notMem_expandPlainSegments hpath hc, hencoded, hslash] at hmem'
    simp [hfree (.inl rfl), hfree (.inr rfl)]

end ProxmoxMcp
