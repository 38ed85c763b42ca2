import ProxmoxMcp.Core.JsonStrings
import ProxmoxMcp.Server.Read

/-!
# How far the redaction reaches

Under some keys an operator writes free text, and a credential may be in it. `redactFreeTextFields`
rewrites a text that stands **directly** at such a key, at any depth of the value, and goes on into
whatever else stands there. So a text in a list or in an object under such a key is left alone,
unless a key of its own has it rewritten.

`redactBeneath` rewrites everything at such a key or anywhere beneath it. The two agree exactly on
the values in which no text that the redactor would change stands beneath such a key without
standing directly at one (`redactFreeTextFields_complete_iff`).
-/

namespace ProxmoxMcp

open Json

variable [Externals]

/-- The step goes down to a key whose value is free text. -/
def isFreeTextStep : JsonStep → Bool
  | .key name => freeTextKeys.contains name
  | .item => false

/-- Rewrite a text when the last step to it is one to a free-text key. -/
def redactAt (above : List JsonStep) (text : String) : String :=
  if above.head?.any isFreeTextStep then Externals.redactText text else text

/-- Rewrite a text when any step to it is one to a free-text key. -/
def redactUnder (above : List JsonStep) (text : String) : String :=
  if above.any isFreeTextStep then Externals.redactText text else text

/-- **Complete redaction**: every text at a free-text key or beneath one is rewritten, and nothing
else is. -/
def redactBeneath (value : Json) : Json := value.mapStrings redactUnder []

/-! ### What the code rewrites -/

private theorem redactMembers_string (key text : String) (rest : List (String × Json)) :
    redactMembers ((key, .string text) :: rest) =
      (key, mapStrings redactAt [.key key] (.string text)) :: redactMembers rest := by
  rw [redactMembers, mapStrings, redactAt]
  simp [isFreeTextStep]

private theorem redactMembers_of_ne {key : String} {value : Json} {rest : List (String × Json)}
    (hvalue : ∀ text, value ≠ .string text) :
    redactMembers ((key, value) :: rest) =
      (key, redactFreeTextFields value) :: redactMembers rest := by
  cases value with
  | string text => exact absurd rfl (hvalue text)
  | _ => rw [redactMembers]; exact hvalue

mutual

/-- But for a text itself, a value is rewritten at its free-text keys wherever it stands. -/
private theorem redactFreeTextFields_eq_mapStrings : ∀ (above : List JsonStep) (value : Json),
    (∀ text, value ≠ .string text) ∨ above.head?.any isFreeTextStep = false →
      redactFreeTextFields value = mapStrings redactAt above value
  | above, .string text, h => by
    have hplace : above.head?.any isFreeTextStep = false := h.resolve_left fun hne => hne text rfl
    simp [redactFreeTextFields, mapStrings, redactAt, hplace]
  | above, .array items, _ => by
    rw [redactFreeTextFields, mapStrings, redactItems_eq_mapItems above items]
  | above, .object members, _ => by
    rw [redactFreeTextFields, mapStrings, redactMembers_eq_mapMembers above members]
  | _, .null, _ => by simp [redactFreeTextFields, mapStrings]
  | _, .bool _, _ => by simp [redactFreeTextFields, mapStrings]
  | _, .unsigned _, _ => by simp [redactFreeTextFields, mapStrings]
  | _, .negative _, _ => by simp [redactFreeTextFields, mapStrings]
  | _, .float _, _ => by simp [redactFreeTextFields, mapStrings]

private theorem redactItems_eq_mapItems : ∀ (above : List JsonStep) (items : List Json),
    redactItems items = mapItems redactAt above items
  | _, [] => by simp [redactItems, mapItems]
  | above, item :: rest => by
    rw [redactItems, mapItems, redactItems_eq_mapItems above rest,
      redactFreeTextFields_eq_mapStrings (.item :: above) item (.inr rfl)]

private theorem redactMembers_eq_mapMembers :
    ∀ (above : List JsonStep) (members : List (String × Json)),
    redactMembers members = mapMembers redactAt above members
  | _, [] => by simp [redactMembers, mapMembers]
  | above, (key, value) :: rest => by
    by_cases htext : ∃ text, value = .string text
    · obtain ⟨text, rfl⟩ := htext
      rw [redactMembers_string, mapMembers, redactMembers_eq_mapMembers above rest]
      rfl
    · have hvalue : ∀ text, value ≠ .string text := fun text heq => htext ⟨text, heq⟩
      rw [redactMembers_of_ne hvalue, mapMembers, redactMembers_eq_mapMembers above rest,
        redactFreeTextFields_eq_mapStrings (.key key :: above) value (.inl hvalue)]

end

/-- A text **escapes** when it stands beneath a free-text key but not directly at one. -/
def Escapes (above : List JsonStep) : Prop :=
  above.any isFreeTextStep = true ∧ above.head?.any isFreeTextStep = false

private theorem redactAt_eq_redactUnder_iff {above : List JsonStep} {text : String} :
    redactAt above text = redactUnder above text ↔
      (Escapes above → Externals.redactText text = text) := by
  rw [redactAt, redactUnder, Escapes]
  cases hat : above.head?.any isFreeTextStep with
  | true =>
    have hunder : above.any isFreeTextStep = true := by
      cases above with
      | nil => cases hat
      | cons step above => exact List.any_eq_true.mpr ⟨step, List.mem_cons_self, hat⟩
    simp [hunder]
  | false =>
    cases hunder : above.any isFreeTextStep with
    | true => simp [eq_comm]
    | false => simp

/-- Whatever the redactor does, the rest of the value stays as it is. -/
private theorem shape_redactFreeTextFields (value : Json) :
    shape (redactFreeTextFields value) = shape value := by
  rw [redactFreeTextFields_eq_mapStrings [] value (.inr rfl)]
  exact shape_mapStrings redactAt value

/-- **When the redaction is complete and local**: exactly when the redactor leaves alone every text
that escapes. -/
theorem redactFreeTextFields_complete_iff (value : Json) :
    redactFreeTextFields value = redactBeneath value ∧
        shape (redactFreeTextFields value) = shape value ↔
      ∀ place ∈ strings [] value, Escapes place.1 → Externals.redactText place.2 = place.2 := by
  rw [and_iff_left (shape_redactFreeTextFields value),
    redactFreeTextFields_eq_mapStrings [] value (.inr rfl), redactBeneath, mapStrings_eq_iff]
  exact forall₂_congr fun place _ => redactAt_eq_redactUnder_iff

/-! ### A list under a free-text key -/

omit [Externals]

/-- Stand-ins whose redactor takes a password out of a text. -/
@[reducible] def Externals.scrubbing : Externals :=
  { Externals.plain with
    redactText := fun text =>
      if text = "password: hunter2" then "password: <redacted>" else text }

/-- The arguments of a guest, given as a list. -/
def listedArgs : Json := .object [("args", .array [.string "password: hunter2"])]

/-- A password in a list under a free-text key is left as it is. -/
theorem redactFreeTextFields_listedArgs :
    @redactFreeTextFields Externals.scrubbing listedArgs = listedArgs ∧
      @redactBeneath Externals.scrubbing listedArgs =
        .object [("args", .array [.string "password: <redacted>"])] ∧
      @redactFreeTextFields Externals.scrubbing listedArgs ≠
        @redactBeneath Externals.scrubbing listedArgs := by
  let _ : Externals := Externals.scrubbing
  have hkept : redactFreeTextFields listedArgs = listedArgs := by
    simp [listedArgs, redactFreeTextFields, redactMembers, redactItems]
  have hcomplete : redactBeneath listedArgs =
      .object [("args", .array [.string "password: <redacted>"])] := by
    simp [listedArgs, redactBeneath, mapStrings, mapMembers, mapItems, redactUnder, isFreeTextStep,
      freeTextKeys]
    rfl
  refine ⟨hkept, hcomplete, ?_⟩
  rw [hkept, hcomplete]
  simp [listedArgs]

end ProxmoxMcp
