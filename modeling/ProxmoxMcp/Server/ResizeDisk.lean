import ProxmoxMcp.Server.LowTier

/-!
# Growing a disk

The size of a resize is classified before anything else is looked at. `namesAPositiveAmount` takes
the amount apart from its **end**: a unit, then a fraction behind the first dot, then the digits in
front of it. `GrowingDelta` writes the same amounts down from the front.

The two agree on every text (`growingDelta_iff`). So a size that is no growing delta is refused with
nothing asked and nothing authorized, and no other size is sent (`resizeDisk_grows`).
-/

namespace ProxmoxMcp

open Interaction Program Text

/-! ### Amounts -/

/-- One or more ASCII digits. -/
def DigitRun (l : List Char) : Prop := l ≠ [] ∧ ∀ c ∈ l, c.isDigit

/-- Nothing, or a dot and digits. -/
def OptionalFraction (l : List Char) : Prop :=
  l = [] ∨ ∃ digits, DigitRun digits ∧ l = '.' :: digits

/-- The units of a size, in either case. -/
def sizeUnits : List Char := "KMGTkmgt".toList

/-- Nothing, or one unit. -/
def OptionalUnit (l : List Char) : Prop := l = [] ∨ ∃ unit ∈ sizeUnits, l = [unit]

/-- The digits are not all zero. -/
def NonZero (l : List Char) : Prop := ∃ c ∈ l, c.isDigit ∧ c ≠ '0'

/-- A **positive amount**: digits, a fraction perhaps, a unit perhaps, and not zero. -/
def PositiveAmount (l : List Char) : Prop :=
  ∃ whole fraction unit, l = whole ++ fraction ++ unit ∧ DigitRun whole ∧
    OptionalFraction fraction ∧ OptionalUnit unit ∧ NonZero (whole ++ fraction)

/-- A **growing delta**: a plus sign and a positive amount. -/
def GrowingDelta (size : String) : Prop :=
  ∃ amount, size.toList = '+' :: amount ∧ PositiveAmount amount

/-! ### The recogniser -/

namespace Guests

/-- The text without its unit. -/
def cutUnit (l : List Char) : List Char :=
  match l.getLast? with
  | some unit => if sizeUnits.contains unit then l.dropLast else l
  | none => []

/-- Whether digits, with a fraction perhaps, are a positive number. -/
def isPositiveNumber (digits : List Char) : Bool :=
  let (whole, fraction) := match splitListOnce '.' digits with
    | some (whole, fraction) => (whole, some fraction)
    | none => (digits, none)
  !whole.isEmpty && whole.all Char.isDigit &&
    (match fraction with
      | some fraction => !fraction.isEmpty && fraction.all Char.isDigit
      | none => true) &&
    digits.any fun c => c.isDigit && c != '0'

private theorem namesAPositiveAmount_eq (value : String) :
    namesAPositiveAmount value = isPositiveNumber (cutUnit value.toList) := rfl

/-- What is cut off is at most one unit. -/
private theorem exists_eq_cutUnit_append (l : List Char) :
    ∃ unit, l = cutUnit l ++ unit ∧ OptionalUnit unit := by
  rw [cutUnit]
  cases hlast : l.getLast? with
  | none => exact ⟨[], by simpa using hlast, .inl rfl⟩
  | some unit =>
    dsimp only
    split_ifs with hunit
    · refine ⟨[unit], ?_, .inr ⟨unit, List.contains_iff_mem.mp hunit, rfl⟩⟩
      exact (List.dropLast_append_getLast? unit hlast).symm
    · exact ⟨[], by simp, .inl rfl⟩

/-- A unit behind a text that does not end in one is cut off. -/
private theorem cutUnit_append {l unit : List Char} (hunit : OptionalUnit unit) {c : Char}
    (hlast : l.getLast? = some c) (hc : c ∉ sizeUnits) : cutUnit (l ++ unit) = l := by
  rcases hunit with rfl | ⟨u, hu, rfl⟩
  · rw [List.append_nil, cutUnit, hlast]
    simp [hc]
  · rw [cutUnit, List.getLast?_append]
    simp [hu]

private theorem splitListOnce_fraction {whole digits : List Char} (hwhole : DigitRun whole) :
    splitListOnce '.' (whole ++ '.' :: digits) = some (whole, digits) := by
  rw [splitListOnce_eq_some_iff]
  exact ⟨fun hmem => absurd (hwhole.2 _ hmem) (by decide), rfl⟩

private theorem splitListOnce_whole {whole : List Char} (hwhole : DigitRun whole) :
    splitListOnce '.' whole = none := by
  rw [splitListOnce_eq_none_iff]
  exact fun hmem => absurd (hwhole.2 _ hmem) (by decide)

private theorem nonZero_iff {l : List Char} :
    (l.any fun c => c.isDigit && c != '0') = true ↔ NonZero l := by
  simp [NonZero, List.any_eq_true]

private theorem digitRun_iff {l : List Char} :
    (!l.isEmpty && l.all Char.isDigit) = true ↔ DigitRun l := by
  simp [DigitRun]

private theorem isPositiveNumber_iff {digits : List Char} :
    isPositiveNumber digits ↔ ∃ whole fraction, digits = whole ++ fraction ∧ DigitRun whole ∧
      OptionalFraction fraction ∧ NonZero digits := by
  constructor
  · intro h
    rw [isPositiveNumber] at h
    cases hcut : splitListOnce '.' digits with
    | none =>
      simp only [hcut, Bool.and_true, Bool.and_eq_true, nonZero_iff] at h
      exact ⟨digits, [], by simp, digitRun_iff.mp (Bool.and_eq_true_iff.mpr h.1), .inl rfl, h.2⟩
    | some halves =>
      obtain ⟨whole, fraction⟩ := halves
      obtain ⟨-, hdigits⟩ := splitListOnce_eq_some_iff.mp hcut
      simp only [hcut, Bool.and_eq_true, nonZero_iff] at h
      exact ⟨whole, '.' :: fraction, hdigits, digitRun_iff.mp (Bool.and_eq_true_iff.mpr h.1.1),
        .inr ⟨fraction, digitRun_iff.mp (Bool.and_eq_true_iff.mpr h.1.2), rfl⟩, h.2⟩
  · rintro ⟨whole, fraction, rfl, hwhole, hfraction, hnonZero⟩
    have hwhole' := digitRun_iff.mpr hwhole
    rw [isPositiveNumber]
    rcases hfraction with rfl | ⟨digits, hdigits, rfl⟩
    · rw [List.append_nil] at hnonZero ⊢
      simp only [splitListOnce_whole hwhole, hwhole', nonZero_iff.mpr hnonZero, Bool.and_self]
    · simp only [splitListOnce_fraction hwhole, hwhole', digitRun_iff.mpr hdigits,
        nonZero_iff.mpr hnonZero, Bool.and_self]

/-- A run of digits ends in a digit, which is no unit. -/
private theorem exists_getLast?_of_digitRun {l : List Char} (h : DigitRun l) :
    ∃ c, l.getLast? = some c ∧ c ∉ sizeUnits := by
  obtain ⟨c, hc⟩ := Option.ne_none_iff_exists'.mp (mt List.getLast?_eq_none_iff.mp h.1)
  refine ⟨c, hc, fun hunit => ?_⟩
  have hdigit := h.2 c (List.mem_of_getLast? hc)
  have hall : sizeUnits.all (fun unit => !unit.isDigit) = true := by decide
  have hnot := List.all_eq_true.mp hall c hunit
  simp [hdigit] at hnot

/-- The recogniser and the grammar agree on **every amount**. -/
theorem namesAPositiveAmount_iff {value : String} :
    namesAPositiveAmount value ↔ PositiveAmount value.toList := by
  rw [namesAPositiveAmount_eq, isPositiveNumber_iff]
  constructor
  · rintro ⟨whole, fraction, hdigits, hwhole, hfraction, hnonZero⟩
    obtain ⟨unit, hvalue, hunit⟩ := exists_eq_cutUnit_append value.toList
    rw [hdigits] at hvalue hnonZero
    exact ⟨whole, fraction, unit, hvalue, hwhole, hfraction, hunit, hnonZero⟩
  · rintro ⟨whole, fraction, unit, hvalue, hwhole, hfraction, hunit, hnonZero⟩
    have hlast : ∃ c, (whole ++ fraction).getLast? = some c ∧ c ∉ sizeUnits := by
      rcases hfraction with rfl | ⟨digits, hdigits, rfl⟩
      · simpa using exists_getLast?_of_digitRun hwhole
      · obtain ⟨c, hc, hunit⟩ := exists_getLast?_of_digitRun hdigits
        refine ⟨c, ?_, hunit⟩
        rw [List.getLast?_append, List.getLast?_cons, hc]
        rfl
    obtain ⟨c, hc, hunit'⟩ := hlast
    have hcut : cutUnit value.toList = whole ++ fraction := by
      rw [hvalue]
      exact cutUnit_append hunit hc hunit'
    exact ⟨whole, fraction, hcut, hwhole, hfraction, hcut ▸ hnonZero⟩

end Guests

/-- **Classification**: a size is taken for growing exactly when it is a growing delta. -/
theorem growingDelta_iff {size : String} :
    Guests.resizeShrinks size = false ↔ GrowingDelta (trim size) := by
  unfold Guests.resizeShrinks
  cases hplus : stripPrefix (trim size) "+" with
  | none =>
    refine iff_of_false (by simp) ?_
    rintro ⟨amount, hsize, -⟩
    have hsome : stripPrefix (trim size) "+" = some (String.ofList amount) := by
      rw [stripPrefix_eq_some_iff, ← String.toList_inj, hsize]
      simp
    rw [hplus] at hsome
    cases hsome
  | some delta =>
    have hsize : (trim size).toList = '+' :: delta.toList := by
      rw [stripPrefix_eq_some_iff.mp hplus]
      simp
    rw [Bool.not_eq_false', Guests.namesAPositiveAmount_iff, GrowingDelta, hsize]
    constructor
    · exact fun hamount => ⟨_, rfl, hamount⟩
    · rintro ⟨amount, heq, hamount⟩
      rwa [(List.cons.inj heq).2]

/-! ### The tool -/

namespace ProxmoxServer

variable [Externals] {server : ProxmoxServer} {caller : Option CallerCtx}

/-- Any other size is refused with nothing asked of anyone. -/
private theorem resizeDisk_refused {args : ResizeArgs} (h : ¬ GrowingDelta (trim args.size)) :
    ∃ text, server.resizeDisk caller args = throw (toolError text) := by
  have hshrinks : Guests.resizeShrinks args.size = true := by
    rwa [← Bool.not_eq_false, growingDelta_iff]
  rw [resizeDisk, hshrinks]
  exact ⟨_, rfl⟩

/-- **Only growth is sent.** A size is classified as the grammar says; any size but a growing delta
is refused before anything is asked or authorized; and whatever a call changes, it is the size of
the disk it names, by a growing delta. White space around the size is left out only where it is
classified: the text that is sent is the argument as it was given. -/
theorem resizeDisk_grows (args : ResizeArgs) (h : History Effect) :
    (Guests.resizeShrinks args.size = false ↔ GrowingDelta (trim args.size)) ∧
    (¬ GrowingDelta (trim args.size) →
      ∃ text, server.resizeDisk caller args = throw (toolError text)) ∧
    Ensures (fun _ (op : Op) => op.Mutates → GrowingDelta (trim args.size) ∧
        ∃ node kind vmid, op = .http (.dispatch args.cluster
          (Guests.resizeDiskRequest node kind vmid args.disk args.size)))
      (fun _ _ => True) h (server.resizeDisk caller args) := by
  refine ⟨growingDelta_iff, resizeDisk_refused, ?_⟩
  by_cases hgrows : GrowingDelta (trim args.size)
  · refine (ensures_resizeDisk args).mono (fun _ op hallows hmutates => ⟨hgrows, ?_⟩)
      fun _ _ _ => trivial
    cases op with
    | http op =>
      cases op with
      | dispatch client request =>
        obtain ⟨rfl, authorization, -, rfl⟩ := Policy.Permits.sends hallows hmutates
        exact ⟨_, _, _, rfl⟩
      | await _ => cases hmutates
    | _ => cases hmutates
  · obtain ⟨text, htext⟩ := resizeDisk_refused hgrows
    rw [htext]
    exact ensures_throw

end ProxmoxServer

end ProxmoxMcp
