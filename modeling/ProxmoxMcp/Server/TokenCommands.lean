import ProxmoxMcp.Core.SelectorLanguage

/-!
# Token commands

The `token` subcommands mint a grant from the texts an operator gives: `add` always, `set-scopes`
when it replaces one, the others never. Every term is parsed when the grant is minted, although the
grant keeps the texts and parses them again at each question. So a minted grant is valid, and what
it admits is what its terms mean (`minted_of_tokenCommand`): none is dropped, none added.
-/

namespace ProxmoxMcp

/-- The name an operator gives an action by. -/
def ProxmoxAction.name : ProxmoxAction → String
  | read => "read"
  | low => "low"
  | destructive => "destructive"

/-- Token subcommands. -/
inductive TokenCommand where
  | add (tokensFile name : String) (devices tools guests actions : List String)
      (provider providerTier onBehalfOf actorType : Option String) (serverPid : Option Int)
  | revoke (tokensFile name : String) (serverPid : Option Int)
  | list (tokensFile : String)
  | rotate (tokensFile name : String) (serverPid : Option Int)
  | setScopes (tokensFile name : String) (devices tools guests actions : Option (List String))
      (yes : Bool) (serverPid : Option Int)
  deriving DecidableEq

/-- What the shared runtime does with the token store. -/
inductive TokenAction where
  | add (tokensFile name : String) (devices tools : List String)
      (provider providerTier onBehalfOf actorType : Option String) (serverPid : Option Int)
  | revoke (tokensFile name : String) (serverPid : Option Int)
  | list (tokensFile : String)
  | rotate (tokensFile name : String) (serverPid : Option Int)
  | setScopes (tokensFile name : String) (devices tools : Option (List String)) (yes : Bool)
      (serverPid : Option Int)
  deriving DecidableEq

def parseAction : String → Except String ProxmoxAction
  | "read" => .ok .read
  | "low" => .ok .low
  | "destructive" => .ok .destructive
  | other => .error s!"invalid --actions value '{other}': must be read, low, or destructive"

/-- Parse a term for its errors only. -/
def checkGuestTerm (term : String) : Except String Unit := do
  let _ ← (Selector.parse term).mapError fun error =>
    s!"invalid --guests selector '{term}': {error.toText}"

/-- Build a grant from the fields of `add`: none without guests, which leaves the token to the tools
that address no guest. -/
def buildTokenGrantFromAdd (guests actions : List String) :
    Except String (Option ProxmoxGrant) := do
  if guests.isEmpty then return none
  forM guests checkGuestTerm
  let parsedActions ← actions.mapM parseAction
  return some ⟨guests, parsedActions⟩

/-- Build the grant that `set-scopes` puts in place of the old one: none leaves that untouched. -/
def buildTokenGrantFromSetScopes (guests actions : Option (List String)) :
    Except String (Option ProxmoxGrant) :=
  match guests, actions with
  | none, none => .ok none
  | none, some _ => .error
      ("--actions requires --guests: a grant carries both, and this command " ++
        "replaces it wholesale rather than merging")
  | some guests, actions => buildTokenGrantFromAdd guests (actions.getD ["read"])

/-- Split a command into what the runtime does and the grant it mints. -/
def tokenCommandToAction : TokenCommand → Except String (TokenAction × Option ProxmoxGrant)
  | .add tokensFile name devices tools guests actions provider providerTier onBehalfOf actorType
      serverPid => do
    let grant ← buildTokenGrantFromAdd guests actions
    return (.add tokensFile name devices tools provider providerTier onBehalfOf actorType serverPid,
      grant)
  | .revoke tokensFile name serverPid => .ok (.revoke tokensFile name serverPid, none)
  | .list tokensFile => .ok (.list tokensFile, none)
  | .setScopes tokensFile name devices tools guests actions yes serverPid => do
    let grant ← buildTokenGrantFromSetScopes guests actions
    return (.setScopes tokensFile name devices tools yes serverPid, grant)
  | .rotate tokensFile name serverPid => .ok (.rotate tokensFile name serverPid, none)

section Mint

variable {guests actions : List String} {grant : ProxmoxGrant}

private theorem parseAction_eq_ok_iff {text : String} {action : ProxmoxAction} :
    parseAction text = .ok action ↔ text = action.name := by
  constructor
  · intro h
    unfold parseAction at h
    split at h
    · obtain rfl := Except.ok.inj h
      rfl
    · obtain rfl := Except.ok.inj h
      rfl
    · obtain rfl := Except.ok.inj h
      rfl
    · cases h
  · rintro rfl
    cases action <;> rfl

private theorem checkGuestTerm_eq_ok_iff {term : String} :
    checkGuestTerm term = .ok () ↔ ∃ selector : Selector, selector.Spelled term := by
  simp only [checkGuestTerm, ← Selector.parse_eq_ok_iff]
  cases hparse : Selector.parse term with
  | error error => simp [Except.mapError, bind, Except.bind]
  | ok selector => simp [Except.mapError, bind, Except.bind, pure, Except.pure]

private theorem forM_checkGuestTerm_eq_ok_iff : forM guests checkGuestTerm = .ok () ↔
    ∀ term ∈ guests, ∃ selector : Selector, selector.Spelled term :=
  Fallible.forM_eq_ok_iff.trans (forall₂_congr fun _ _ => checkGuestTerm_eq_ok_iff)

private theorem mapM_parseAction_eq_ok_iff {parsed : List ProxmoxAction} :
    actions.mapM parseAction = .ok parsed ↔ actions = parsed.map ProxmoxAction.name := by
  rw [Fallible.mapM_eq_ok_iff]
  simp only [parseAction_eq_ok_iff]
  rw [← List.forall₂_eq_eq_eq, List.forall₂_map_right_iff]

/-- **A grant is minted** exactly when there are guests, every term spells a selector and every
action is named, and it carries them all. -/
theorem buildTokenGrantFromAdd_eq_some_iff :
    buildTokenGrantFromAdd guests actions = .ok (some grant) ↔
      guests ≠ [] ∧ (∀ term ∈ guests, ∃ selector : Selector, selector.Spelled term) ∧
        grant.guests = guests ∧ actions = grant.actions.map ProxmoxAction.name := by
  rw [buildTokenGrantFromAdd]
  cases guests with
  | nil => simp [pure, Except.pure]
  | cons first rest =>
    simp only [List.isEmpty_cons, Bool.false_eq_true, if_false, Fallible.bind_eq_ok_iff,
      mapM_parseAction_eq_ok_iff]
    constructor
    · rintro ⟨_, hterms, parsed, hparsed, hgrant⟩
      obtain rfl := Option.some.inj (Except.ok.inj hgrant)
      exact ⟨List.cons_ne_nil _ _, forM_checkGuestTerm_eq_ok_iff.mp hterms, rfl, hparsed⟩
    · rintro ⟨-, hterms, hguests, hactions⟩
      refine ⟨(), forM_checkGuestTerm_eq_ok_iff.mpr hterms, grant.actions, hactions, ?_⟩
      rw [← hguests]
      rfl

end Mint

/-- The guests and actions a command names for a grant. Without actions `set-scopes` names the
reading one. -/
inductive TokenCommand.Names : TokenCommand → List String → List String → Prop
  | add {tokensFile name devices tools guests actions provider providerTier onBehalfOf actorType
      serverPid} : Names (.add tokensFile name devices tools guests actions provider providerTier
        onBehalfOf actorType serverPid) guests actions
  | setScopes {tokensFile name devices tools guests actions yes serverPid} :
      Names (.setScopes tokensFile name devices tools (some guests) actions yes serverPid) guests
        (actions.getD ["read"])

section Commands

variable {command : TokenCommand} {action : TokenAction} {grant : ProxmoxGrant}

/-- The grant of a command is one it names the parts of. -/
private theorem exists_names_of_tokenCommand
    (h : tokenCommandToAction command = .ok (action, some grant)) :
    ∃ guests actions, command.Names guests actions ∧
      buildTokenGrantFromAdd guests actions = .ok (some grant) := by
  cases command with
  | add tokensFile name devices tools guests actions =>
    obtain ⟨minted, hminted, heq⟩ := Fallible.bind_eq_ok_iff.mp h
    obtain ⟨-, rfl⟩ := Prod.mk.inj (Except.ok.inj heq)
    exact ⟨guests, actions, .add, hminted⟩
  | setScopes tokensFile name devices tools guests actions yes serverPid =>
    obtain ⟨minted, hminted, heq⟩ := Fallible.bind_eq_ok_iff.mp h
    obtain ⟨-, rfl⟩ := Prod.mk.inj (Except.ok.inj heq)
    cases guests with
    | some guests => exact ⟨guests, _, .setScopes, hminted⟩
    | none =>
      cases actions with
      | none => cases hminted
      | some actions => cases hminted
  | revoke tokensFile name serverPid => cases h
  | list tokensFile => cases h
  | rotate tokensFile name serverPid => cases h

/-- **A minted grant means what was typed**: it is valid, its scope is the union of what the terms
of the command mean, a number no guest has yet is admitted by a term that means every guest which
could get it, everything is admitted by a star among the terms alone, and its actions are those
the command names. -/
theorem minted_of_tokenCommand (h : tokenCommandToAction command = .ok (action, some grant)) :
    ∃ guests actions, command.Names guests actions ∧ guests ≠ [] ∧ grant.validate = .ok () ∧
      (∀ facts, grant.allowsGuest facts ↔ facts ∈ ProxmoxGrant.scopeOf guests) ∧
      (∀ number, grant.allowsNewVmid number ↔ ∃ term ∈ guests, ∃ selector : Selector,
        selector.Spelled term ∧ ∀ facts : GuestFacts, facts.vmid = number →
          facts ∈ selector.denotes) ∧
      (grant.isUnrestrictedGuestScope ↔ "*" ∈ guests) ∧
      ∀ action, grant.allowsAction action ↔ action.name ∈ actions := by
  obtain ⟨guests, actions, hnames, hminted⟩ := exists_names_of_tokenCommand h
  obtain ⟨hne, hterms, rfl, rfl⟩ := buildTokenGrantFromAdd_eq_some_iff.mp hminted
  refine ⟨grant.guests, _, hnames, hne, ProxmoxGrant.validate_eq_ok_iff.mpr hterms,
    fun _ => ProxmoxGrant.allowsGuest_iff, fun _ => ProxmoxGrant.allowsNewVmid_iff, ?_, ?_⟩
  · rw [ProxmoxGrant.isUnrestrictedGuestScope_iff]
    constructor
    · rintro ⟨term, hmem, htrim⟩
      obtain ⟨selector, hspelled⟩ := hterms term hmem
      have hparse : (Selector.parse term).isOk := by
        rw [Selector.parse_of_spelled hspelled]
        rfl
      exact ProxmoxGrant.eq_star_of_trim htrim hparse ▸ hmem
    · intro hstar
      exact ⟨"*", hstar, by decide⟩
  · intro action
    have hinjective : Function.Injective ProxmoxAction.name := by
      intro a b hab
      have hparse := parseAction_eq_ok_iff.mpr hab
      rw [parseAction_eq_ok_iff.mpr rfl] at hparse
      exact Except.ok.inj hparse
    rw [List.mem_map_of_injective hinjective, ProxmoxGrant.allowsAction, List.contains_iff_mem]

end Commands

/-! ### A token for one band -/

/-- A token that may stop and start the machines of a band. -/
def addBand : TokenCommand :=
  .add "/var/lib/proxmoxmcp/tokens.json" "band" ["pve"] ["start_vm", "stop_vm"] ["vmid:600-699"]
    ["read", "low"] none none none none none

def addBandAction : TokenAction :=
  .add "/var/lib/proxmoxmcp/tokens.json" "band" ["pve"] ["start_vm", "stop_vm"] none none none none
    none

private theorem tokenCommandToAction_addBand : tokenCommandToAction addBand =
    .ok (addBandAction, some ⟨["vmid:600-699"], [.read, .low]⟩) := by
  have hterm : (Selector.vmidRange 600 699).Spelled "vmid:600-699" :=
    Selector.spelled_of_parse (by decide)
  have hminted : buildTokenGrantFromAdd ["vmid:600-699"] ["read", "low"] =
      .ok (some ⟨["vmid:600-699"], [.read, .low]⟩) := by
    refine buildTokenGrantFromAdd_eq_some_iff.mpr ⟨List.cons_ne_nil _ _, ?_, rfl, rfl⟩
    intro term hmem
    obtain rfl := List.mem_singleton.mp hmem
    exact ⟨_, hterm⟩
  exact Fallible.bind_eq_ok_iff.mpr ⟨_, hminted, rfl⟩

theorem minted_addBand : ∃ guests actions, addBand.Names guests actions ∧ guests ≠ [] ∧
    ProxmoxAction.low.name ∈ actions := by
  obtain ⟨guests, actions, hnames, hne, -, -, -, -, hactions⟩ :=
    minted_of_tokenCommand tokenCommandToAction_addBand
  exact ⟨guests, actions, hnames, hne, (hactions .low).mp (by decide)⟩

end ProxmoxMcp
