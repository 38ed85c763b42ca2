import ProxmoxMcp.Core.Client
import ProxmoxMcp.Utf8

/-!
# Bounding an error detail

An error text comes from a peer, so it is stripped of control characters and cut to
`maxDetailBytes` before anyone reads it. The server cuts it by a byte offset, which it moves back
until a character ends there (`sanitiseSliced`); a cut anywhere else would be a fault.

`sanitise` takes characters while they fit. The two are the same function (`sanitiseSliced_eq`), and
what they return is the **longest** front of the text that fits (`sanitise_longest`).
-/

namespace ProxmoxMcp

open Text Utf8
open String (utf8Len)

/-! ### Taking characters while they fit -/

section Taking

variable {limit : ℕ} {l x : List Char}

theorem takeBytes_isPrefix : takeBytes limit l <+: l := by
  induction l generalizing limit with
  | nil => exact List.nil_prefix
  | cons c rest ih =>
    rw [takeBytes]
    split_ifs
    · exact List.cons_prefix_cons.mpr ⟨rfl, ih⟩
    · exact List.nil_prefix

theorem utf8Len_takeBytes_le : utf8Len (takeBytes limit l) ≤ limit := by
  induction l generalizing limit with
  | nil => exact Nat.zero_le _
  | cons c rest ih =>
    rw [takeBytes]
    split_ifs with hfits
    · have hrest := @ih (limit - c.utf8Size)
      rw [String.utf8Len_cons]
      omega
    · exact Nat.zero_le _

/-- Every front of the text that fits is taken. -/
private theorem prefix_takeBytes (hx : x <+: l) (hlen : utf8Len x ≤ limit) :
    x <+: takeBytes limit l := by
  induction l generalizing limit x with
  | nil => exact List.prefix_nil.mp hx ▸ List.nil_prefix
  | cons c rest ih =>
    cases x with
    | nil => exact List.nil_prefix
    | cons d x =>
      obtain ⟨rfl, htail⟩ := List.cons_prefix_cons.mp hx
      rw [String.utf8Len_cons] at hlen
      rw [takeBytes, if_pos (by omega)]
      exact List.cons_prefix_cons.mpr ⟨rfl, ih htail (by omega)⟩

/-- A text that fits is taken as a whole. -/
theorem takeBytes_eq_self (hlen : utf8Len l ≤ limit) : takeBytes limit l = l := by
  have hall : l <+: takeBytes limit l := prefix_takeBytes List.prefix_rfl hlen
  exact takeBytes_isPrefix.eq_of_length_le hall.length_le

/-- What comes first is taken first. -/
theorem takeBytes_append {y : List Char} (hlen : utf8Len x ≤ limit) :
    takeBytes limit (x ++ y) = x ++ takeBytes (limit - utf8Len x) y := by
  induction x generalizing limit with
  | nil => rw [List.nil_append, String.utf8Len_nil, Nat.sub_zero, List.nil_append]
  | cons c x ih =>
    rw [String.utf8Len_cons] at hlen
    rw [List.cons_append, takeBytes, if_pos (by omega), ih (by omega), String.utf8Len_cons,
      List.cons_append, Nat.sub_sub, Nat.add_comm c.utf8Size]

/-- Nothing is taken away from a text that is taken at its full length. -/
theorem utf8Len_le_of_length_takeBytes (hlen : l.length ≤ (takeBytes limit l).length) :
    takeBytes limit l = l ∧ utf8Len l ≤ limit := by
  have hall : takeBytes limit l = l := takeBytes_isPrefix.eq_of_length_le hlen
  have hbound := @utf8Len_takeBytes_le limit l
  rw [hall] at hbound
  exact ⟨hall, hbound⟩

/-- The cut at the last boundary up to the limit takes the same characters. -/
private theorem splitAtByte_floorBoundary :
    ∃ rest, splitAtByte (floorBoundary l (min limit (utf8Len l))) l =
      some (takeBytes limit l, rest) := by
  obtain ⟨x, y, hl, hlen⟩ := isCharBoundary_iff.mp
    (@isCharBoundary_floorBoundary l (min limit (utf8Len l)))
  have hx : x <+: takeBytes limit l := by
    refine prefix_takeBytes ⟨y, hl.symm⟩ ?_
    have hfloor := @floorBoundary_le l (min limit (utf8Len l))
    omega
  have hmax : utf8Len (takeBytes limit l) ≤ utf8Len x := by
    obtain ⟨rest, hrest⟩ := @takeBytes_isPrefix limit l
    have hboundary : isCharBoundary (utf8Len (takeBytes limit l)) l :=
      isCharBoundary_iff.mpr ⟨_, rest, hrest.symm, rfl⟩
    have hlimit := @utf8Len_takeBytes_le limit l
    have hwhole := String.utf8Len_le_of_prefix (@takeBytes_isPrefix limit l)
    rw [hlen]
    exact le_floorBoundary hboundary (by omega)
  obtain rfl := eq_of_prefix_of_utf8Len_le hx hmax
  exact ⟨y, splitAtByte_eq_some_iff.mpr ⟨hl, hlen⟩⟩

end Taking

/-! ### Cutting by an offset -/

/-- Drop control characters, step back from the limit to where a character ends, and cut there;
nothing is returned when the cut is inside a character. -/
def sanitiseSliced (text : String) : Option String :=
  let cleaned := text.toList.filter fun c => !isControl c || c == ' '
  let stop := floorBoundary cleaned (min maxDetailBytes (utf8Len cleaned))
  (splitAtByte stop cleaned).map fun halves => String.ofList halves.1

/-- The cut never fails, and takes the characters that fit. -/
theorem sanitiseSliced_eq (text : String) : sanitiseSliced text = some (sanitise text) := by
  obtain ⟨rest, hcut⟩ := @splitAtByte_floorBoundary maxDetailBytes
    (text.toList.filter fun c => !isControl c || c == ' ')
  simp only [sanitiseSliced, hcut, Option.map_some]
  rfl

/-- The text without its control characters. -/
def withoutControls (text : String) : String :=
  String.ofList (text.toList.filter fun c => !isControl c)

/-- A space is no control character. -/
private theorem toList_withoutControls (text : String) : (withoutControls text).toList =
    text.toList.filter fun c => !isControl c || c == ' ' := by
  rw [withoutControls, String.toList_ofList]
  refine List.filter_congr fun c _ => ?_
  by_cases hspace : c = ' '
  · subst hspace
    decide
  · simp [hspace]

theorem toList_sanitise (text : String) :
    (sanitise text).toList = takeBytes maxDetailBytes (withoutControls text).toList := by
  rw [toList_withoutControls, sanitise, String.toList_ofList]

/-- No control character is left. -/
private theorem isControl_of_mem_sanitise {text : String} {c : Char}
    (hc : c ∈ (sanitise text).toList) :
    isControl c = false := by
  rw [toList_sanitise] at hc
  have hmem := takeBytes_isPrefix.subset hc
  rw [withoutControls, String.toList_ofList, List.mem_filter] at hmem
  simpa using hmem.2

theorem withoutControls_eq_self {text : String}
    (hcontrol : ∀ c ∈ text.toList, isControl c = false) : withoutControls text = text := by
  rw [withoutControls, List.filter_eq_self.mpr fun c hc => by simp [hcontrol c hc],
    String.ofList_toList]

/-- A text without control characters that fits is left as it is. -/
private theorem sanitise_eq_self {text : String} (hcontrol : ∀ c ∈ text.toList, isControl c = false)
    (hlen : text.utf8ByteSize ≤ maxDetailBytes) : sanitise text = text := by
  rw [← String.toList_inj, toList_sanitise, withoutControls_eq_self hcontrol]
  exact takeBytes_eq_self (by rwa [String.utf8Len_toList])

/-- **The longest front that fits.** For every text the cut is made where a character ends. What is
returned is a front of the text without its control characters, of at most `maxDetailBytes` bytes,
and every other such front is a front of it. No control character is left in it, and doing the same
again changes nothing. -/
theorem sanitise_longest (text : String) :
    sanitiseSliced text = some (sanitise text) ∧
    (sanitise text).toList <+: (withoutControls text).toList ∧
    (sanitise text).utf8ByteSize ≤ maxDetailBytes ∧
    (∀ front : String, front.toList <+: (withoutControls text).toList →
      front.utf8ByteSize ≤ maxDetailBytes → front.toList <+: (sanitise text).toList) ∧
    (∀ c ∈ (sanitise text).toList, isControl c = false) ∧
    sanitiseSliced (sanitise text) = some (sanitise text) := by
  have hlen : (sanitise text).utf8ByteSize ≤ maxDetailBytes := by
    rw [← String.utf8Len_toList, toList_sanitise]
    exact utf8Len_takeBytes_le
  refine ⟨sanitiseSliced_eq text, ?_, hlen, fun front hfront hfits => ?_,
    fun c => isControl_of_mem_sanitise, ?_⟩
  · rw [toList_sanitise]
    exact takeBytes_isPrefix
  · rw [toList_sanitise]
    exact prefix_takeBytes hfront (by rwa [String.utf8Len_toList])
  · rw [sanitiseSliced_eq, sanitise_eq_self (fun c => isControl_of_mem_sanitise) hlen]

end ProxmoxMcp
