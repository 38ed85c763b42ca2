import Mathlib

/-!
# Interactive programs and what they do in every environment

A `Program S α` is a finite-path tree over a signature `S`: it either stops with a value or
performs one operation and continues with whatever the environment replies. Nothing is said
about the environment, so a statement about all branches of the tree is a statement about
every reply the environment could give.

`Program.Always G Q h p` is the one predicate the library reasons with: starting after the
events `h` (newest first), `p` performs only operations the **guarantee** `G` allows at the
history it has then, and every value it stops with satisfies the **postcondition** `Q` at its
final history. It is defined by recursion on the tree, so it is a weakest precondition, and
its rules are equivalences: `always_bind` cuts a program in two, `Always.mono` weakens both
predicates, `Always.and` collects two facts about one program.

The `Except` rules (`always_run_bind` and its companions) are the same rules for programs
that may stop early with an error.
-/

namespace Interaction

/-- A signature: the operations a program may perform, each with the type of its reply. -/
structure Signature where
  /-- The operations. -/
  Op : Type
  /-- What the environment answers to an operation. -/
  Reply : Op → Type

/-- A program over the signature `S` that stops with a value of type `α`. -/
inductive Program (S : Signature) (α : Type) : Type where
  /-- Stop with a value. -/
  | done (value : α)
  /-- Perform an operation and continue with its reply. -/
  | perform (op : S.Op) (next : S.Reply op → Program S α)

/-- One operation together with the reply it got. -/
structure Event (S : Signature) where
  /-- The operation performed. -/
  op : S.Op
  /-- The reply of the environment. -/
  reply : S.Reply op

/-- What one program has seen so far, newest event first. -/
abbrev History (S : Signature) := List (Event S)

namespace Program

variable {S : Signature} {α β γ ε ε' : Type}

/-- Sequencing: graft a program onto every value the first one stops with. -/
def bind : Program S α → (α → Program S β) → Program S β
  | done value, f => f value
  | perform op next, f => perform op fun reply => (next reply).bind f

instance : Monad (Program S) where
  pure := done
  bind := bind

@[simp] theorem pure_eq (value : α) : (pure value : Program S α) = done value := rfl

@[simp] theorem done_bind (value : α) (f : α → Program S β) : done value >>= f = f value := rfl

@[simp] theorem perform_bind (op : S.Op) (next : S.Reply op → Program S α)
    (f : α → Program S β) :
    perform op next >>= f = perform op fun reply => next reply >>= f := rfl

instance : LawfulMonad (Program S) := by
  refine LawfulMonad.mk' _ (fun p => ?_) (fun _ _ => rfl) fun p f g => ?_
  · induction p with
    | done value => rfl
    | perform op next ih => exact congrArg (perform op) (funext ih)
  · induction p with
    | done value => rfl
    | perform op next ih => exact congrArg (perform op) (funext ih)

/-- Perform one operation and return its reply. -/
def ask (op : S.Op) : Program S (S.Reply op) := perform op done

/-- `p.Reaches h q`: after the events `h` (oldest first) the program `p` has become `q`. -/
inductive Reaches : Program S α → List (Event S) → Program S α → Prop
  | refl (p : Program S α) : Reaches p [] p
  | step (op : S.Op) (next : S.Reply op → Program S α) (reply : S.Reply op)
      {events : List (Event S)} {q : Program S α} (h : Reaches (next reply) events q) :
      Reaches (perform op next) (⟨op, reply⟩ :: events) q

theorem Reaches.trans {p q r : Program S α} {events events' : List (Event S)}
    (h : Reaches p events q) (h' : Reaches q events' r) : Reaches p (events ++ events') r := by
  induction h with
  | refl p => exact h'
  | step op next reply _ ih => exact .step op next reply (ih h')

/-- A sequence goes on from the value its first part has come to. -/
theorem Reaches.bind {p : Program S α} {f : α → Program S β} {value : α}
    {events events' : List (Event S)} {q : Program S β} (hp : Reaches p events (done value))
    (hf : Reaches (f value) events' q) : Reaches (p >>= f) (events ++ events') q := by
  generalize hend : done value = r at hp
  induction hp with
  | refl p =>
    obtain rfl := hend
    exact hf
  | step op next reply _ ih => exact .step op _ reply (ih hend)

/-- Where every operation can be answered, every program can be run to its end. -/
theorem exists_reaches_done (hreply : ∀ op, Nonempty (S.Reply op)) (p : Program S α) :
    ∃ events value, Reaches p events (done value) := by
  induction p with
  | done value => exact ⟨[], value, .refl _⟩
  | perform op next ih =>
    obtain ⟨reply⟩ := hreply op
    obtain ⟨events, value, h⟩ := ih reply
    exact ⟨⟨op, reply⟩ :: events, value, .step op next reply h⟩

/-! ### The weakest precondition -/

/-- After the history `h`, every operation of the program is allowed by the guarantee `G`, and
every value it stops with satisfies `Q`. -/
def Always (G : History S → S.Op → Prop) (Q : History S → α → Prop) :
    History S → Program S α → Prop
  | h, done value => Q h value
  | h, perform op next => G h op ∧ ∀ reply, Always G Q (⟨op, reply⟩ :: h) (next reply)

variable {G G' : History S → S.Op → Prop} {h : History S}

@[simp] theorem always_done {Q : History S → α → Prop} (value : α) :
    Always G Q h (done value) ↔ Q h value := Iff.rfl

@[simp] theorem always_pure {Q : History S → α → Prop} (value : α) :
    Always G Q h (pure value : Program S α) ↔ Q h value := Iff.rfl

@[simp] theorem always_perform {Q : History S → α → Prop} (op : S.Op)
    (next : S.Reply op → Program S α) :
    Always G Q h (perform op next) ↔
      G h op ∧ ∀ reply, Always G Q (⟨op, reply⟩ :: h) (next reply) := Iff.rfl

@[simp] theorem always_ask {op : S.Op} {Q : History S → S.Reply op → Prop} :
    Always G Q h (ask op) ↔ G h op ∧ ∀ reply, Q (⟨op, reply⟩ :: h) reply := Iff.rfl

/-- A sequence is analysed by analysing its first part against the second. -/
theorem always_bind {Q : History S → β → Prop} {p : Program S α} {f : α → Program S β} :
    Always G Q h (p >>= f) ↔ Always G (fun h' value => Always G Q h' (f value)) h p := by
  induction p generalizing h with
  | done value => exact Iff.rfl
  | perform op next ih => exact and_congr_right fun _ => forall_congr' fun reply => ih reply

/-- **Consequence**: the guarantee and the postcondition may both be weakened. -/
theorem Always.mono {Q Q' : History S → α → Prop} {p : Program S α} (hp : Always G Q h p)
    (hG : ∀ h op, G h op → G' h op) (hQ : ∀ h value, Q h value → Q' h value) :
    Always G' Q' h p := by
  induction p generalizing h with
  | done value => exact hQ _ _ hp
  | perform op next ih => exact ⟨hG _ _ hp.1, fun reply => ih reply (hp.2 reply)⟩

/-- **Conjunction**: two analyses of one program combine. -/
theorem Always.and {Q Q' : History S → α → Prop} {p : Program S α} (hp : Always G Q h p)
    (hp' : Always G' Q' h p) :
    Always (fun h op => G h op ∧ G' h op) (fun h value => Q h value ∧ Q' h value) h p := by
  induction p generalizing h with
  | done value => exact ⟨hp, hp'⟩
  | perform op next ih =>
    exact ⟨⟨hp.1, hp'.1⟩, fun reply => ih reply (hp.2 reply) (hp'.2 reply)⟩

/-- A program only ever extends its history. -/
theorem always_suffix (p : Program S α) (h : History S) :
    Always (fun h' _ => h <:+ h') (fun h' _ => h <:+ h') h p := by
  suffices ∀ h', h <:+ h' →
      Always (fun h' _ => h <:+ h') (fun h' _ => h <:+ h') h' p from this h List.suffix_rfl
  intro h' hh
  induction p generalizing h' with
  | done value => exact hh
  | perform op next ih =>
    exact ⟨hh, fun reply => ih reply _ (hh.trans (List.suffix_cons _ _))⟩

/-- **Framing**: an analysis may also use that the history only grew. -/
theorem Always.frame {Q : History S → α → Prop} {p : Program S α} (hp : Always G Q h p) :
    Always (fun h' op => G h' op ∧ h <:+ h') (fun h' value => Q h' value ∧ h <:+ h') h p :=
  hp.and (always_suffix p h)

/-- **Invariance**: what every allowed operation preserves of the history holds throughout. -/
theorem Always.keeps {Q : History S → α → Prop} {p : Program S α} {P : History S → Prop}
    (hp : Always G Q h p) (hP : ∀ h op reply, G h op → P h → P (⟨op, reply⟩ :: h)) (hh : P h) :
    Always (fun h op => G h op ∧ P h) (fun h value => Q h value ∧ P h) h p := by
  induction p generalizing h with
  | done value => exact ⟨hp, hh⟩
  | perform op next ih =>
    exact ⟨⟨hp.1, hh⟩, fun reply => ih reply (hp.2 reply) (hP _ _ _ hp.1 hh)⟩

/-- What holds along all branches holds along the branch the environment takes. -/
theorem Always.of_reaches {Q : History S → α → Prop} {p q : Program S α}
    {events : List (Event S)} (hp : Always G Q h p) (hr : Reaches p events q) :
    Always G Q (events.reverse ++ h) q := by
  induction hr generalizing h with
  | refl => simpa using hp
  | step op next reply _ ih => simpa using ih (hp.2 reply)

/-- The operation a program has come to is allowed at the history it has then. -/
theorem Always.allows_of_reaches {Q : History S → α → Prop} {p : Program S α} {op : S.Op}
    {next : S.Reply op → Program S α} {events : List (Event S)} (hp : Always G Q h p)
    (hr : Reaches p events (perform op next)) : G (events.reverse ++ h) op :=
  (hp.of_reaches hr).1

/-! ### Programs that may stop with an error -/

/-- Perform one operation in a program that may fail; the operation itself does not. -/
def request (op : S.Op) : ExceptT ε (Program S) (S.Reply op) := ExceptT.lift (ask op)

/-- Run a program that may fail and keep its outcome as a value, to be inspected. -/
def attempt (p : ExceptT ε (Program S) α) : ExceptT ε' (Program S) (Except ε α) :=
  ExceptT.lift p.run

/-- Translate the error of a program that may fail. -/
def mapError (f : ε → ε') (p : ExceptT ε (Program S) α) : ExceptT ε' (Program S) α :=
  ExceptT.mk do
    match ← p.run with
    | .ok value => pure (.ok value)
    | .error error => pure (.error (f error))

/-- Stop with an error unless a condition holds. -/
def ensure (condition : Bool) (error : ε) : ExceptT ε (Program S) Unit :=
  if condition then pure () else throw error

/-- Stop with an error unless a value is there. -/
def required (value : Option α) (error : ε) : ExceptT ε (Program S) α :=
  match value with
  | some value => pure value
  | none => throw error

/-- Run a program only if a condition holds. -/
def onlyIf (condition : Bool) (p : ExceptT ε (Program S) Unit) : ExceptT ε (Program S) Unit :=
  if condition then p else pure ()

/-- What follows an inspected part is run on its outcome. -/
theorem run_attempt_bind {p : ExceptT ε' (Program S) α}
    {f : Except ε' α → ExceptT ε (Program S) β} :
    (attempt p >>= f).run = p.run >>= fun outcome => (f outcome).run := by
  have hrun : (attempt p : ExceptT ε (Program S) (Except ε' α)).run =
      p.run >>= fun outcome => pure (Except.ok outcome) := rfl
  rw [ExceptT.run_bind, hrun, bind_assoc]
  rfl

/-- What follows a part with a translated error is run on its value. -/
theorem run_mapError_bind {g : ε' → ε} {p : ExceptT ε' (Program S) α}
    {f : α → ExceptT ε (Program S) β} :
    (mapError g p >>= f).run = p.run >>= fun outcome => match outcome with
      | .ok value => (f value).run
      | .error error => pure (.error (g error)) := by
  rw [ExceptT.run_bind, mapError, ExceptT.run_mk, bind_assoc]
  refine congrArg (p.run >>= ·) (funext fun outcome => ?_)
  cases outcome <;> rfl

/-- What follows a part that has succeeded is run on its value. -/
theorem Reaches.run_bind {p : ExceptT ε (Program S) α} {f : α → ExceptT ε (Program S) β}
    {value : α} {events events' : List (Event S)} {q : Program S (Except ε β)}
    (hp : Reaches p.run events (done (.ok value))) (hf : Reaches (f value).run events' q) :
    Reaches (p >>= f).run (events ++ events') q := by
  rw [ExceptT.run_bind]
  exact hp.bind hf

variable {Q : History S → Except ε β → Prop}

@[simp] theorem always_run_pure (value : β) :
    Always G Q h (pure value : ExceptT ε (Program S) β).run ↔ Q h (.ok value) := Iff.rfl

@[simp] theorem always_run_throw (error : ε) :
    Always G Q h (throw error : ExceptT ε (Program S) β).run ↔ Q h (.error error) := Iff.rfl

/-- The sequencing rule when the first part may fail: its error is the error of the whole. -/
theorem always_run_bind {p : ExceptT ε (Program S) α} {f : α → ExceptT ε (Program S) β} :
    Always G Q h (p >>= f).run ↔
      Always G (fun h' (outcome : Except ε α) => match outcome with
        | .ok value => Always G Q h' (f value).run
        | .error error => Q h' (.error error)) h p.run := by
  have hrun : (p >>= f).run = p.run >>= fun outcome => match outcome with
      | .ok value => (f value).run
      | .error error => pure (.error error) := by
    refine congrArg (p.run >>= ·) (funext fun outcome => ?_)
    cases outcome <;> rfl
  rw [hrun, always_bind]
  refine iff_of_eq (congrArg (Always G · h p.run) (funext₂ fun h' outcome => ?_))
  cases outcome <;> rfl

/-- Sequencing, as a proof rule with a named intermediate assertion. -/
theorem Always.run_bind {p : ExceptT ε (Program S) α} {f : α → ExceptT ε (Program S) β}
    {R : History S → Except ε α → Prop} (hp : Always G R h p.run)
    (hok : ∀ h' value, R h' (.ok value) → Always G Q h' (f value).run)
    (herr : ∀ h' error, R h' (.error error) → Q h' (.error error)) :
    Always G Q h (p >>= f).run := by
  rw [always_run_bind]
  refine hp.mono (fun _ _ hG => hG) fun h' outcome hR => ?_
  cases outcome with
  | ok value => exact hok h' value hR
  | error error => exact herr h' error hR

@[simp] theorem always_run_request {op : S.Op} {Q : History S → Except ε (S.Reply op) → Prop} :
    Always G Q h (request op : ExceptT ε (Program S) (S.Reply op)).run ↔
      G h op ∧ ∀ reply, Q (⟨op, reply⟩ :: h) (.ok reply) := Iff.rfl

@[simp] theorem always_run_liftExcept (outcome : Except ε β) :
    Always G Q h (liftM outcome : ExceptT ε (Program S) β).run ↔ Q h outcome := by
  cases outcome <;> exact Iff.rfl

@[simp] theorem always_run_ensure {condition : Bool} {error : ε}
    {Q : History S → Except ε Unit → Prop} :
    Always G Q h (ensure condition error).run ↔
      (condition = true → Q h (.ok ())) ∧ (condition = false → Q h (.error error)) := by
  cases condition <;> simp [ensure]

@[simp] theorem always_run_required {value : Option α} {error : ε}
    {Q : History S → Except ε α → Prop} :
    Always G Q h (required value error).run ↔
      (∀ a, value = some a → Q h (.ok a)) ∧ (value = none → Q h (.error error)) := by
  cases value <;> simp [required]

theorem always_run_attempt {p : ExceptT ε' (Program S) α}
    {Q : History S → Except ε (Except ε' α) → Prop} :
    Always G Q h (attempt p : ExceptT ε (Program S) (Except ε' α)).run ↔
      Always G (fun h' outcome => Q h' (.ok outcome)) h p.run := by
  change Always G Q h (p.run >>= fun outcome => pure (.ok outcome)) ↔ _
  rw [always_bind]
  rfl

theorem always_run_mapError {f : ε' → ε} {p : ExceptT ε' (Program S) β} :
    Always G Q h (mapError f p).run ↔
      Always G (fun h' outcome => Q h' (outcome.mapError f)) h p.run := by
  rw [mapError, ExceptT.run_mk, always_bind]
  refine iff_of_eq (congrArg (Always G · h p.run) (funext₂ fun h' outcome => ?_))
  cases outcome <;> rfl

/-! ### What a program ensures when it succeeds -/

/-- The operations of a program that may fail are allowed by `G`, and if it succeeds its value
satisfies `P`. -/
def Ensures (G : History S → S.Op → Prop) (P : History S → α → Prop) (h : History S)
    (p : ExceptT ε (Program S) α) : Prop :=
  Always G (fun h' outcome => ∀ value, outcome = .ok value → P h' value) h p.run

section Ensures

variable {P : History S → β → Prop} {R : History S → α → Prop} {f : α → ExceptT ε (Program S) β}

@[simp] theorem ensures_pure {value : β} :
    Ensures G P h (pure value : ExceptT ε (Program S) β) ↔ P h value := by
  simp [Ensures]

@[simp] theorem ensures_throw {error : ε} :
    Ensures G P h (throw error : ExceptT ε (Program S) β) := by
  simp [Ensures]

@[simp] theorem ensures_liftExcept {outcome : Except ε β} :
    Ensures G P h (liftM outcome : ExceptT ε (Program S) β) ↔
      ∀ value, outcome = .ok value → P h value := by
  simp [Ensures]

@[simp] theorem ensures_ensure {condition : Bool} {error : ε} {P : History S → Unit → Prop} :
    Ensures G P h (ensure condition error : ExceptT ε (Program S) Unit) ↔
      (condition = true → P h ()) := by
  cases condition <;> simp [ensure]

/-- An optional part ensures what holds both when it runs and when it does not. -/
theorem ensures_onlyIf {condition : Bool} {p : ExceptT ε (Program S) Unit}
    {P : History S → Unit → Prop} :
    Ensures G P h (onlyIf condition p) ↔
      (condition = true → Ensures G P h p) ∧ (condition = false → P h ()) := by
  cases condition <;> simp [onlyIf]

/-- What is known of a whole outcome is in particular known of a success. -/
theorem Always.ensures {p : ExceptT ε (Program S) β} (hp : Always G Q h p.run)
    (hQ : ∀ h' value, Q h' (.ok value) → P h' value) : Ensures G P h p :=
  hp.mono (fun _ _ hG => hG) fun h' _ hQ' value heq => hQ h' value (heq ▸ hQ')

theorem Ensures.mono {P' : History S → β → Prop} {p : ExceptT ε (Program S) β}
    (hp : Ensures G P h p) (hG : ∀ h op, G h op → G' h op)
    (hP : ∀ h value, P h value → P' h value) :
    Ensures G' P' h p :=
  Always.mono hp hG fun h' _ hP' value heq => hP h' value (hP' value heq)

/-- **Invariance**, for what a program ensures. -/
theorem Ensures.keeps {P' : History S → Prop} {p : ExceptT ε (Program S) β} (hp : Ensures G P h p)
    (hP : ∀ h op reply, G h op → P' h → P' (⟨op, reply⟩ :: h)) (hh : P' h) :
    Ensures (fun h op => G h op ∧ P' h) (fun h' value => P h' value ∧ P' h') h p :=
  (Always.keeps hp hP hh).mono (fun _ _ hop => hop) fun _ _ hkept value heq =>
    ⟨hkept.1 value heq, hkept.2⟩

/-- **Sequencing**: a part with a specification of its own is passed by its postcondition. -/
theorem Ensures.bind {p : ExceptT ε (Program S) α} (hp : Ensures G' R h p)
    (hG : ∀ h op, G' h op → G h op)
    (hf : ∀ h' value, h <:+ h' → R h' value → Ensures G P h' (f value)) :
    Ensures G P h (p >>= f) := by
  refine Always.run_bind ((Always.frame hp).mono (fun h op hop => hG h op hop.1)
    fun _ _ hR => hR) (fun h' value hR => hf h' value hR.2 (hR.1 value rfl)) ?_
  intro h' error _ value heq
  cases heq

theorem Ensures.liftExcept {outcome : Except ε α}
    (hf : ∀ value, outcome = .ok value → Ensures G P h (f value)) :
    Ensures G P h ((liftM outcome : ExceptT ε (Program S) α) >>= f) := by
  cases outcome with
  | ok value => exact hf value rfl
  | error error => exact fun value heq => by cases heq

theorem Ensures.ensure {condition : Bool} {error : ε} {f : Unit → ExceptT ε (Program S) β}
    (hf : condition = true → Ensures G P h (f ())) :
    Ensures G P h (ensure condition error >>= f) := by
  cases condition with
  | true => exact hf rfl
  | false => exact fun value heq => by cases heq

theorem Ensures.required {value : Option α} {error : ε}
    (hf : ∀ a, value = some a → Ensures G P h (f a)) :
    Ensures G P h (required value error >>= f) := by
  cases value with
  | some a => exact hf a rfl
  | none => exact fun value heq => by cases heq

theorem Ensures.request {op : S.Op} {f : S.Reply op → ExceptT ε (Program S) β} (hop : G h op)
    (hf : ∀ reply, Ensures G P (⟨op, reply⟩ :: h) (f reply)) :
    Ensures G P h (request op >>= f) := ⟨hop, hf⟩

/-- An optional part: what it ensures when it runs is known when its condition holds. -/
theorem Ensures.onlyIf {condition : Bool} {p : ExceptT ε (Program S) Unit}
    {f : Unit → ExceptT ε (Program S) β} {R : History S → Prop}
    (hp : condition = true → Ensures G' (fun h' _ => R h') h p) (hG : ∀ h op, G' h op → G h op)
    (hf : ∀ h', h <:+ h' → (condition = true → R h') → Ensures G P h' (f ())) :
    Ensures G P h (onlyIf condition p >>= f) := by
  cases condition with
  | true => exact Ensures.bind (hp rfl) hG fun h' _ hh hR => hf h' hh fun _ => hR
  | false => exact hf h List.suffix_rfl (by simp)

/-- **Loops**: what every round keeps holds at the end, together with what each round ensured of its
own element, provided that outlasts the later rounds. -/
theorem ensures_forM {l : List α} {f : α → ExceptT ε (Program S) PUnit} {I : History S → Prop}
    {R : α → History S → Prop} (hh : I h)
    (hf : ∀ a ∈ l, ∀ h, I h → Ensures G (fun h' _ => I h' ∧ R a h') h (f a))
    (hR : ∀ {a h h'}, R a h → h <:+ h' → R a h') :
    Ensures G (fun h' _ => I h' ∧ ∀ a ∈ l, R a h') h (forM l f) := by
  induction l generalizing h with
  | nil => exact ensures_pure.mpr ⟨hh, by simp⟩
  | cons a l ih =>
    rw [List.forM_cons]
    refine Ensures.bind (hf a List.mem_cons_self h hh) (fun _ _ hop => hop) fun h' _ _ hround => ?_
    refine (Always.frame (ih hround.1 fun b hb => hf b (List.mem_cons_of_mem a hb))).mono
      (fun _ _ hop => hop.1) fun h'' outcome hrest value heq => ?_
    obtain ⟨hI, hl⟩ := hrest.1 value heq
    exact ⟨hI, List.forall_mem_cons.mpr ⟨hR hround.2 hrest.2, hl⟩⟩

/-- A part whose failure is inspected is passed by what is known of its outcome. -/
theorem Ensures.attempt {p : ExceptT ε' (Program S) α} {R : History S → Except ε' α → Prop}
    {f : Except ε' α → ExceptT ε (Program S) β} (hp : Always G' R h p.run)
    (hG : ∀ h op, G' h op → G h op)
    (hf : ∀ h' outcome, h <:+ h' → R h' outcome → Ensures G P h' (f outcome)) :
    Ensures G P h (attempt p >>= f) := by
  have hkept : Ensures G' R h (Program.attempt p : ExceptT ε (Program S) (Except ε' α)) :=
    always_run_attempt.mpr (hp.mono (fun _ _ hG => hG) fun h' outcome hR value heq =>
      (Except.ok.inj heq) ▸ hR)
  exact hkept.bind hG hf

@[simp] theorem ensures_mapError {g : ε' → ε} {p : ExceptT ε' (Program S) β} :
    Ensures G P h (mapError g p) ↔ Ensures G P h p := by
  refine always_run_mapError.trans (iff_of_eq (congrArg (Always G · h p.run) ?_))
  funext h' outcome
  cases outcome <;> simp [Except.mapError]

end Ensures

end Program

end Interaction
