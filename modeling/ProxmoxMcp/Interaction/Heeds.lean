import ProxmoxMcp.Interaction.Program

/-!
# Code that keeps to a set of operations

`Program.Ensures` speaks of the operations of a program at the history each is performed at. Much of
what is said of a program does not look at its history: which operations it performs at all, and
what is known of its value. `Program.Heeds G R p` is that: **whatever has happened before**, `p`
performs operations of `G` only, and a value it succeeds with satisfies `R`.

What was learned on the way to an operation is no part of the statement either. It is in the context
of the proof, as the hypotheses that the rules for checks hand on.
-/

namespace Interaction.Program

variable {S : Signature} {α β ε ε' : Type} {G G' : S.Op → Prop}

/-- The program performs operations of `G` only, and succeeds with values that satisfy `R`. -/
def Heeds (G : S.Op → Prop) (R : α → Prop) (p : ExceptT ε (Program S) α) : Prop :=
  ∀ h, Ensures (fun _ op => G op) (fun _ value => R value) h p

section Rules

variable {R : α → Prop} {Q : β → Prop} {p : ExceptT ε (Program S) α}
  {f : α → ExceptT ε (Program S) β}

/-- More operations, and less known of the value. -/
theorem Heeds.mono {R' : α → Prop} (hp : Heeds G R p) (hG : ∀ op, G op → G' op)
    (hR : ∀ value, R value → R' value) : Heeds G' R' p :=
  fun h => (hp h).mono (fun _ op => hG op) fun _ value => hR value

/-- What a program ensures of its value at every history, it succeeds with. -/
theorem Heeds.and_ensures {G₀ : History S → S.Op → Prop} {R₀ : History S → History S → α → Prop}
    {R' : α → Prop} (hp : Heeds G R p) (hens : ∀ h, Ensures G₀ (R₀ h) h p)
    (hR : ∀ h h' value, R value → R₀ h h' value → R' value) : Heeds G R' p := by
  intro h
  refine Always.mono ((hp h).and (hens h)) (fun _ _ hop => hop.1) fun h' _ hvalue value heq => ?_
  exact hR h h' value (hvalue.1 value heq) (hvalue.2 value heq)

/-- A value is all there is. -/
theorem heeds_pure {value : α} (hvalue : R value) :
    Heeds G R (pure value : ExceptT ε (Program S) α) := fun _ => ensures_pure.mpr hvalue

/-- A failure has no value to satisfy anything. -/
theorem heeds_throw {error : ε} : Heeds G R (throw error : ExceptT ε (Program S) α) :=
  fun _ => ensures_throw

/-- The outcome of a pure check. -/
theorem heeds_liftExcept {outcome : Except ε α} (hvalue : ∀ value, outcome = .ok value → R value) :
    Heeds G R (liftM outcome : ExceptT ε (Program S) α) := fun _ => ensures_liftExcept.mpr hvalue

theorem heeds_ensure {condition : Bool} {error : ε} :
    Heeds G (fun _ => True) (ensure condition error : ExceptT ε (Program S) Unit) :=
  fun _ => ensures_ensure.mpr fun _ => trivial

/-- One operation. -/
theorem heeds_request {op : S.Op} (hop : G op) :
    Heeds G (fun _ => True) (request op : ExceptT ε (Program S) (S.Reply op)) :=
  fun _ => ⟨hop, fun _ _ _ => trivial⟩

/-- **Sequencing**: the second part is only run on the values of the first. -/
theorem Heeds.bind (hp : Heeds G R p) (hf : ∀ value, R value → Heeds G Q (f value)) :
    Heeds G Q (p >>= f) :=
  fun h => Ensures.bind (hp h) (fun _ _ hop => hop) fun h' value _ hvalue => hf value hvalue h'

/-- What comes behind a pure check that has succeeded. -/
theorem Heeds.liftExcept {outcome : Except ε α}
    (hf : ∀ value, outcome = .ok value → Heeds G Q (f value)) :
    Heeds G Q ((liftM outcome : ExceptT ε (Program S) α) >>= f) :=
  fun h => Ensures.liftExcept fun value heq => hf value heq h

/-- What comes behind a condition that holds. -/
theorem Heeds.ensure {condition : Bool} {error : ε} {f : Unit → ExceptT ε (Program S) β}
    (hf : condition = true → Heeds G Q (f ())) :
    Heeds G Q (Program.ensure condition error >>= f) :=
  fun h => Ensures.ensure fun heq => hf heq h

/-- What comes behind a value that is there. -/
theorem Heeds.required {value : Option α} {error : ε} (hf : ∀ a, value = some a → Heeds G Q (f a)) :
    Heeds G Q (Program.required value error >>= f) :=
  fun h => Ensures.required fun a heq => hf a heq h

/-- An operation, and what its reply leads to. -/
theorem Heeds.request {op : S.Op} {f : S.Reply op → ExceptT ε (Program S) β} (hop : G op)
    (hf : ∀ reply, Heeds G Q (f reply)) : Heeds G Q (Program.request op >>= f) :=
  fun _ => Ensures.request hop fun reply => hf reply _

/-- A part whose failure is inspected. -/
theorem Heeds.attempt {p : ExceptT ε' (Program S) α} {f : Except ε' α → ExceptT ε (Program S) β}
    (hp : Heeds G (fun _ => True) p) (hf : ∀ outcome, Heeds G Q (f outcome)) :
    Heeds G Q (Program.attempt p >>= f) :=
  fun h => Ensures.attempt (hp h) (fun _ _ hop => hop) fun h' outcome _ _ => hf outcome h'

/-- The text of a failure does not matter. -/
theorem heeds_mapError {p : ExceptT ε' (Program S) α} {g : ε' → ε} (hp : Heeds G R p) :
    Heeds G R (mapError g p) := fun h => ensures_mapError.mpr (hp h)

/-- A part that is left out without its condition. -/
theorem heeds_onlyIf {condition : Bool} {p : ExceptT ε (Program S) Unit}
    (hp : condition = true → Heeds G (fun _ => True) p) :
    Heeds G (fun _ => True) (onlyIf condition p) :=
  fun h => ensures_onlyIf.mpr ⟨fun heq => hp heq h, fun _ => trivial⟩

/-- A loop heeds what each of its rounds heeds. -/
theorem heeds_forM {l : List α} {f : α → ExceptT ε (Program S) PUnit}
    (hf : ∀ a ∈ l, Heeds G (fun _ => True) (f a)) : Heeds G (fun _ => True) (forM l f) := by
  induction l with
  | nil => exact heeds_pure trivial
  | cons a l ih =>
    rw [List.forM_cons]
    exact (hf a List.mem_cons_self).bind fun _ _ => ih fun b hb => hf b (List.mem_cons_of_mem a hb)

end Rules

end Interaction.Program
