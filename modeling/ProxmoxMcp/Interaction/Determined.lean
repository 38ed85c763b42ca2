import ProxmoxMcp.Interaction.Program

/-!
# What a program comes to in a setting

A `Setting` says which histories the environment allows; what it leaves open, the environment may
choose. `Confined E R p` says that in every run of `p` that the setting allows the value it ends
with satisfies `R`, and `Determined E p` that this value is always the same. Two runs of a
determined program end alike, whatever the setting left open in either (`Determined.unique`): this
is how a property of two runs is shown one run at a time.

A program that may fail is `Rejected` when every allowed run ends with one and the same error. What
follows a rejected part does not matter.
-/

namespace Interaction

/-- The histories an environment allows; with a history it allows all that led to it. -/
structure Setting (S : Signature) where
  Admits : History S → Prop
  of_suffix : ∀ {h h'}, h <:+ h' → Admits h' → Admits h

namespace Setting

variable {S : Signature}

/-- What one of two settings allows. -/
def either (E E' : Setting S) : Setting S where
  Admits h := E.Admits h ∨ E'.Admits h
  of_suffix hh := Or.imp (E.of_suffix hh) (E'.of_suffix hh)

end Setting

namespace Program

variable {S : Signature} {E E' : Setting S} {α β ε ε' : Type}

/-- In every run the setting allows, the program ends with a value that satisfies `R`. -/
def Confined (E : Setting S) (R : α → Prop) (p : Program S α) : Prop :=
  ∀ h, Always (fun _ _ => True) (fun h' value => E.Admits h' → R value) h p

/-- In every run the setting allows, the program ends with the same value. -/
def Determined (E : Setting S) (p : Program S α) : Prop := ∃ value, Confined E (· = value) p

/-- In every run the setting allows, the program ends with the same error. -/
def Rejected (E : Setting S) (p : ExceptT ε (Program S) α) : Prop :=
  ∃ error, Confined E (· = .error error) p.run

/-! ### Confinement -/

theorem confined_done {R : α → Prop} {value : α} (hvalue : R value) :
    Confined E R (done value) := fun _ _ => hvalue

theorem confined_true (p : Program S α) : Confined E (fun _ => True) p :=
  fun h => (always_suffix p h).mono (fun _ _ _ => trivial) fun _ _ _ _ => trivial

theorem Confined.mono {R R' : α → Prop} {p : Program S α} (hp : Confined E R p)
    (hR : ∀ value, R value → R' value) : Confined E R' p :=
  fun h => (hp h).mono (fun _ _ hop => hop) fun _ value hvalue hE => hR value (hvalue hE)

/-- What holds in each of two settings holds in both together. -/
theorem Confined.either {R : α → Prop} {p : Program S α} (hp : Confined E R p)
    (hp' : Confined E' R p) : Confined (E.either E') R p :=
  fun h => ((hp h).and (hp' h)).mono (fun _ _ _ => trivial)
    fun _ _ hvalue hE => hE.elim hvalue.1 hvalue.2

/-- What holds in two settings together holds in the first. -/
theorem Confined.left {R : α → Prop} {p : Program S α} (hp : Confined (E.either E') R p) :
    Confined E R p :=
  fun h => (hp h).mono (fun _ _ hop => hop) fun _ _ hvalue hE => hvalue (.inl hE)

/-- **Sequencing**: the second part is run on the values the first one may end with. -/
theorem Confined.bind {R : α → Prop} {R' : β → Prop} {p : Program S α} {f : α → Program S β}
    (hp : Confined E R p) (hf : ∀ value, R value → Confined E R' (f value)) :
    Confined E R' (p >>= f) := by
  intro h
  rw [always_bind]
  refine (hp h).mono (fun _ _ hop => hop) fun h' value hvalue => ?_
  by_cases hE : E.Admits h'
  · exact hf value (hvalue hE) h'
  · -- A run that has left the setting does not come back to it.
    refine (always_suffix (f value) h').mono (fun _ _ _ => trivial) fun h'' _ hh hE'' => ?_
    exact absurd (E.of_suffix hh hE'') hE

/-- An operation goes on with the replies the setting allows. -/
theorem Confined.perform {op : S.Op} {R : S.Reply op → Prop} {R' : α → Prop}
    {next : S.Reply op → Program S α} (hreply : ∀ h reply, E.Admits (⟨op, reply⟩ :: h) → R reply)
    (hnext : ∀ reply, R reply → Confined E R' (next reply)) : Confined E R' (perform op next) := by
  have hop : Confined E R (ask op) := fun h => ⟨trivial, fun reply => hreply h reply⟩
  exact hop.bind hnext

/-- A run that the setting allows ends as the program is confined to. -/
theorem Confined.of_reaches {R : α → Prop} {p : Program S α} {events : List (Event S)} {value : α}
    (hp : Confined E R p) (hrun : Reaches p events (done value)) (hE : E.Admits events.reverse) :
    R value := by
  have hend := (hp []).of_reaches hrun
  rw [List.append_nil] at hend
  exact hend hE

/-! ### Determined programs -/

theorem determined_done (value : α) : Determined E (done value) := ⟨value, confined_done rfl⟩

theorem Determined.bind {p : Program S α} {f : α → Program S β} (hp : Determined E p)
    (hf : ∀ value, Determined E (f value)) : Determined E (p >>= f) := by
  obtain ⟨value, hvalue⟩ := hp
  obtain ⟨result, hresult⟩ := hf value
  refine ⟨result, hvalue.bind ?_⟩
  rintro _ rfl
  exact hresult

/-- **Two runs of a determined program end alike.** -/
theorem Determined.unique {p : Program S α} {events events' : List (Event S)} {value value' : α}
    (hp : Determined E p) (hrun : Reaches p events (done value)) (hE : E.Admits events.reverse)
    (hrun' : Reaches p events' (done value')) (hE' : E.Admits events'.reverse) :
    value = value' := by
  obtain ⟨result, hresult⟩ := hp
  rw [hresult.of_reaches hrun hE, hresult.of_reaches hrun' hE']

theorem Rejected.determined {p : ExceptT ε (Program S) α} (hp : Rejected E p) :
    Determined E p.run := by
  obtain ⟨error, herror⟩ := hp
  exact ⟨_, herror⟩

/-! ### Programs that may stop with an error -/

/-- Sequencing when the first part may fail: its error is the error of the whole. -/
theorem Confined.run_bind {R : Except ε α → Prop} {R' : Except ε β → Prop}
    {p : ExceptT ε (Program S) α} {f : α → ExceptT ε (Program S) β} (hp : Confined E R p.run)
    (hok : ∀ value, R (.ok value) → Confined E R' (f value).run)
    (herror : ∀ error, R (.error error) → R' (.error error)) : Confined E R' (p >>= f).run := by
  rw [ExceptT.run_bind]
  refine hp.bind fun outcome houtcome => ?_
  cases outcome with
  | ok value => exact hok value houtcome
  | error error => exact confined_done (herror error houtcome)

theorem Determined.run_bind {p : ExceptT ε (Program S) α} {f : α → ExceptT ε (Program S) β}
    (hp : Determined E p.run) (hf : ∀ value, Determined E (f value).run) :
    Determined E (p >>= f).run := by
  rw [ExceptT.run_bind]
  refine hp.bind fun outcome => ?_
  cases outcome with
  | ok value => exact hf value
  | error error => exact determined_done _

/-- A part that succeeds with one value only is followed by what is run on it. -/
theorem Confined.of_ok {value : α} {R : Except ε β → Prop} {p : ExceptT ε (Program S) α}
    {f : α → ExceptT ε (Program S) β} (hp : Confined E (· = .ok value) p.run)
    (hf : Confined E R (f value).run) : Confined E R (p >>= f).run := by
  refine hp.run_bind (fun value' hvalue => ?_) fun _ herror => by cases herror
  rw [Except.ok.inj hvalue]
  exact hf

theorem Determined.of_ok {value : α} {p : ExceptT ε (Program S) α}
    {f : α → ExceptT ε (Program S) β} (hp : Confined E (· = .ok value) p.run)
    (hf : Determined E (f value).run) : Determined E (p >>= f).run := by
  obtain ⟨outcome, houtcome⟩ := hf
  exact ⟨outcome, hp.of_ok houtcome⟩

theorem confined_liftExcept {outcome : Except ε α} {value : α} (houtcome : outcome = .ok value) :
    Confined E (· = .ok value) (liftM outcome : ExceptT ε (Program S) α).run := by
  rw [houtcome]
  exact confined_done rfl

theorem Confined.mapError {outcome : Except ε' α} {g : ε' → ε} {p : ExceptT ε' (Program S) α}
    (hp : Confined E (· = outcome) p.run) :
    Confined E (· = outcome.mapError g) (mapError g p).run := by
  refine hp.bind ?_
  rintro outcome rfl
  cases outcome <;> exact confined_done rfl

theorem determined_pure (value : α) :
    Determined E (pure value : ExceptT ε (Program S) α).run := determined_done _

theorem determined_throw (error : ε) :
    Determined E (throw error : ExceptT ε (Program S) α).run := determined_done _

theorem determined_liftExcept (outcome : Except ε α) :
    Determined E (liftM outcome : ExceptT ε (Program S) α).run := by
  cases outcome <;> exact determined_done _

theorem Determined.liftExcept {outcome : Except ε α} {f : α → ExceptT ε (Program S) β}
    (hf : ∀ value, outcome = .ok value → Determined E (f value).run) :
    Determined E ((liftM outcome : ExceptT ε (Program S) α) >>= f).run := by
  cases outcome with
  | ok value => exact hf value rfl
  | error error => exact determined_done _

theorem determined_ensure (condition : Bool) (error : ε) :
    Determined E (ensure condition error : ExceptT ε (Program S) Unit).run := by
  cases condition <;> exact determined_done _

theorem Determined.ensure {condition : Bool} {error : ε} {f : Unit → ExceptT ε (Program S) β}
    (hf : condition = true → Determined E (f ()).run) :
    Determined E (ensure condition error >>= f).run := by
  cases condition with
  | true => exact hf rfl
  | false => exact determined_done _

theorem determined_required (value : Option α) (error : ε) :
    Determined E (required value error : ExceptT ε (Program S) α).run := by
  cases value <;> exact determined_done _

theorem determined_onlyIf {condition : Bool} {p : ExceptT ε (Program S) Unit}
    (hp : Determined E p.run) : Determined E (onlyIf condition p).run := by
  cases condition with
  | true => exact hp
  | false => exact determined_done _

/-- An operation to which the setting allows one reply only. -/
theorem determined_request {op : S.Op} (reply : S.Reply op)
    (hreply : ∀ h reply', E.Admits (⟨op, reply'⟩ :: h) → reply' = reply) :
    Determined E (request op : ExceptT ε (Program S) (S.Reply op)).run := by
  refine ⟨.ok reply, Confined.perform hreply ?_⟩
  rintro _ rfl
  exact confined_done rfl

theorem Determined.attempt {p : ExceptT ε' (Program S) α} (hp : Determined E p.run) :
    Determined E (attempt p : ExceptT ε (Program S) (Except ε' α)).run :=
  hp.bind fun _ => determined_done _

theorem Determined.mapError {p : ExceptT ε' (Program S) α} {g : ε' → ε} (hp : Determined E p.run) :
    Determined E (mapError g p).run := by
  refine hp.bind fun outcome => ?_
  cases outcome <;> exact determined_done _

/-- A loop is determined when its rounds are. -/
theorem determined_forM {l : List α} {f : α → ExceptT ε (Program S) PUnit}
    (hf : ∀ a ∈ l, Determined E (f a).run) : Determined E (forM l f).run := by
  induction l with
  | nil => exact determined_done _
  | cons a l ih =>
    rw [List.forM_cons]
    exact (hf a List.mem_cons_self).run_bind fun _ =>
      ih fun b hb => hf b (List.mem_cons_of_mem a hb)

/-! ### Refusals -/

/-- What follows a part that ends with an error does not matter. -/
theorem Confined.error_bind {error : ε} {p : ExceptT ε (Program S) α}
    {f : α → ExceptT ε (Program S) β} (hp : Confined E (· = .error error) p.run) :
    Confined E (· = .error error) (p >>= f).run := by
  refine hp.run_bind (fun value hvalue => by cases hvalue) fun error' herror' => ?_
  rw [Except.error.inj herror']

theorem Rejected.bind {p : ExceptT ε (Program S) α} {f : α → ExceptT ε (Program S) β}
    (hp : Rejected E p) : Rejected E (p >>= f) := by
  obtain ⟨error, herror⟩ := hp
  exact ⟨error, herror.error_bind⟩

/-- A determined part that is followed by a refusal, unless it fails itself. -/
theorem Rejected.of_bind {p : ExceptT ε (Program S) α} {f : α → ExceptT ε (Program S) β}
    (hp : Determined E p.run) (hf : ∀ value, Rejected E (f value)) : Rejected E (p >>= f) := by
  obtain ⟨outcome, houtcome⟩ := hp
  cases outcome with
  | error error => exact Rejected.bind ⟨error, houtcome⟩
  | ok value =>
    obtain ⟨error, herror⟩ := hf value
    refine ⟨error, houtcome.run_bind (fun value' hvalue => ?_) fun error' herror' => ?_⟩
    · rw [Except.ok.inj hvalue]
      exact herror
    · cases herror'

theorem Rejected.liftExcept {outcome : Except ε α} {f : α → ExceptT ε (Program S) β}
    (hf : ∀ value, outcome = .ok value → Rejected E (f value)) :
    Rejected E ((liftM outcome : ExceptT ε (Program S) α) >>= f) := by
  cases outcome with
  | ok value => exact hf value rfl
  | error error => exact ⟨error, confined_done rfl⟩

end Program

end Interaction
