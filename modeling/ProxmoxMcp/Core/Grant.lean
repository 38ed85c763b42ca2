import ProxmoxMcp.Text

/-!
# Guest selectors and grants

A selector names a set of guests within a cluster; a token's grant carries a list of them, and a
guest is in scope when **any** of them matches. A term that does not parse matches nothing, so a
restriction the server cannot read never becomes an absence of restriction.

`allowsGuest` reads everything the cluster reports about a guest. `allowsNewVmid` speaks for a
number no guest has yet, so only the terms a bare number can answer take part in it.
-/

namespace ProxmoxMcp

open Text

/-- Whether a guest is a virtual machine or a container. -/
inductive GuestType where
  | qemu
  | lxc
  deriving DecidableEq, Repr

/-- The path segment Proxmox uses for a guest type. -/
def GuestType.pathSegment : GuestType → String
  | qemu => "qemu"
  | lxc => "lxc"

/-- The facts a selector needs about a guest. -/
structure GuestFacts where
  vmid : UInt32
  type : GuestType
  node : String
  pool : Option String
  tags : List String
  deriving DecidableEq

/-- One term of a guest selector. -/
inductive Selector where
  /-- Every guest in the cluster. -/
  | any
  /-- Exactly this vmid. -/
  | vmid (vmid : UInt32)
  /-- An inclusive vmid range. -/
  | vmidRange (low high : UInt32)
  /-- Any guest carrying this exact tag. -/
  | tag (tag : String)
  /-- Any guest in this pool. -/
  | pool (pool : String)
  /-- Any guest currently on this node. -/
  | node (node : String)
  /-- Any guest of this type. -/
  | type (kind : GuestType)
  deriving DecidableEq

/-- A malformed selector. -/
inductive SelectorError where
  | unknown (term : String)
  | badRange (range : String)
  | badVmid (vmid : String)
  deriving DecidableEq

def SelectorError.toText : SelectorError → String
  | unknown term => s!"unknown selector term '{term}'"
  | badRange range => s!"invalid vmid range: {range}"
  | badVmid vmid => s!"invalid vmid: {vmid}"

namespace Selector

/-- Parse the value half of a `vmid:` term. -/
def parseVmidTerm (value : String) : Except SelectorError Selector :=
  match splitOnce value '-' with
  | some (low, high) =>
    match parseU32 low, parseU32 high with
    | some low, some high =>
      if low > high then .error (.badRange value) else .ok (vmidRange low high)
    | _, _ => .error (.badRange value)
  | none =>
    match parseU32 value with
    | some number => .ok (vmid number)
    | none => .error (.badVmid value)

/-- Parse one selector term. -/
def parse (input : String) : Except SelectorError Selector :=
  if input = "*" then .ok any
  else match splitOnce input ':' with
    | none => .error (.unknown input)
    | some ("vmid", value) => parseVmidTerm value
    | some ("tag", value) => .ok (tag value)
    | some ("pool", value) => .ok (pool value)
    | some ("node", value) => .ok (node value)
    | some ("type", "qemu") => .ok (type .qemu)
    | some ("type", "lxc") => .ok (type .lxc)
    | some ("type", other) => .error (.unknown s!"type:{other}")
    | some (other, _) => .error (.unknown other)

/-- Whether a selector admits the described guest. -/
def matchesGuest (facts : GuestFacts) : Selector → Bool
  | any => true
  | vmid number => facts.vmid == number
  | vmidRange low high => low ≤ facts.vmid && facts.vmid ≤ high
  | tag name => facts.tags.contains name
  | pool name => facts.pool == some name
  | node name => facts.node == name
  | type kind => facts.type == kind

/-- Whether a selector admits a bare number, of which nothing else is known. -/
def matchesNumber (number : UInt32) : Selector → Bool
  | any => true
  | vmid other => other == number
  | vmidRange low high => low ≤ number && number ≤ high
  | _ => false

end Selector

/-- The mutating action tiers the server distinguishes. -/
inductive ProxmoxAction where
  | read
  | low
  | destructive
  deriving DecidableEq, Repr

/-- A token's guest scope and action authority. -/
structure ProxmoxGrant where
  /-- Selector terms; a guest is in scope when any term matches. -/
  guests : List String
  /-- Action tiers the token may invoke. -/
  actions : List ProxmoxAction
  deriving DecidableEq

namespace ProxmoxGrant

/-- A grant that sees everything and may change nothing. -/
def readOnly : ProxmoxGrant := ⟨["*"], [.read]⟩

/-- Some term parses to a selector with a property. -/
def anyTerm (grant : ProxmoxGrant) (admits : Selector → Bool) : Bool :=
  grant.guests.any fun term => match Selector.parse term with
    | .ok selector => admits selector
    | .error _ => false

/-- Whether the grant admits the described guest. -/
def allowsGuest (grant : ProxmoxGrant) (facts : GuestFacts) : Bool :=
  grant.anyTerm (Selector.matchesGuest facts)

/-- Whether the grant carries an action tier. -/
def allowsAction (grant : ProxmoxGrant) (action : ProxmoxAction) : Bool :=
  grant.actions.contains action

/-- Whether the guest scope is unrestricted. -/
def isUnrestrictedGuestScope (grant : ProxmoxGrant) : Bool :=
  grant.guests.any fun term => trim term == "*"

/-- Whether the grant admits a vmid that does not exist yet. -/
def allowsNewVmid (grant : ProxmoxGrant) (vmid : UInt32) : Bool :=
  grant.anyTerm (Selector.matchesNumber vmid)

/-- Whether the grant admits a subject `cluster/vmid`. -/
def allowsSubject (grant : ProxmoxGrant) (subject : String) : Bool :=
  match (splitOnce subject '/').bind fun parts => parseU32 parts.2 with
  | some vmid => grant.anyTerm (Selector.matchesNumber vmid)
  | none => false

/-- Whether every term of the grant parses. -/
def validate (grant : ProxmoxGrant) : Except String Unit :=
  grant.guests.forM fun term => do
    let _ ← (Selector.parse term).mapError SelectorError.toText

end ProxmoxGrant

/-- A selector that admits a number admits every guest with it. -/
theorem Selector.matchesGuest_of_matchesNumber {selector : Selector} {facts : GuestFacts}
    (h : selector.matchesNumber facts.vmid) : selector.matchesGuest facts := by
  cases selector with
  | vmid number => exact beq_iff_eq.mpr (beq_iff_eq.mp h).symm
  | vmidRange low high => exact h
  | any => rfl
  | _ => simp [matchesNumber] at h

/-- **A bare number is the weaker question**: a grant that admits a number admits every guest
that has it. -/
theorem ProxmoxGrant.allowsGuest_of_allowsNewVmid {grant : ProxmoxGrant} {facts : GuestFacts}
    (h : grant.allowsNewVmid facts.vmid) : grant.allowsGuest facts := by
  obtain ⟨term, hmem, hterm⟩ := List.any_eq_true.mp h
  refine List.any_eq_true.mpr ⟨term, hmem, ?_⟩
  cases hparse : Selector.parse term with
  | error error => simp [hparse] at hterm
  | ok selector =>
    simp only [hparse] at hterm ⊢
    exact Selector.matchesGuest_of_matchesNumber hterm

end ProxmoxMcp
