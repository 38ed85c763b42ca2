import Mathlib
import ProxmoxMcp.ChangeSet.HaRule
import ProxmoxMcp.Fallible

/-!
# The guests of an HA change

An HA change is authorized guest by guest, for the guests that `guestsTouched` collects. So the set
has to hold every guest that the change or the rule names: `TouchesExactly`.

A rule names its guests under `resources` or under the older `services`. Only a rule **without** the
first member is read by the second: where `resources` is null, or both members are there, the guests
under `services` are left out without an error. `guestsExact_iff` says for which rules that does no
harm.
-/

namespace ProxmoxMcp

open Text ProxmoxError Fallible

/-! ### Names of guests -/

/-- A service id **names** a guest: its kind, a colon, and the digits of its vmid. -/
def NamesGuest (service : String) (vmid : UInt32) : Prop :=
  ∃ kind digits, service = kind ++ ":" ++ digits ∧ (kind = "vm" ∨ kind = "ct") ∧
    digits.toList ≠ [] ∧ (∀ c ∈ digits.toList, c.isDigit) ∧
    digitsValue digits.toList = vmid.toNat

/-- The ids a value lists, in list form or in comma-separated form. -/
def Json.services : Json → List String
  | .string list => ((fields list ',').map trim).filter fun entry => !entry.isEmpty
  | .array entries => (entries.filterMap Json.asStr).map trim
  | _ => []

/-- A member of a rule **names** a guest. -/
def ListsGuest (member : Option Json) (vmid : UInt32) : Prop :=
  ∃ value, member = some value ∧ ∃ service ∈ value.services, NamesGuest service vmid

/-- An action names a guest. -/
def HaRuleAction.NamesGuest (action : HaRuleAction) (vmid : UInt32) : Prop :=
  ∃ service ∈ action.resources.getD [], ProxmoxMcp.NamesGuest service vmid

/-- Every id in a list names a guest. -/
def AllNameGuests (services : List String) : Prop :=
  ∀ service ∈ services, ∃ vmid, NamesGuest service vmid

/-- The value has the shape of a list of ids: null, a text, or a list of texts. -/
def Json.IsServiceList : Json → Prop
  | .null | .string _ => True
  | .array entries => ∀ entry ∈ entries, ∃ text, entry = .string text
  | _ => False

/-- The value is a list of ids that name guests. -/
structure Json.ListsGuests (value : Json) : Prop where
  shape : value.IsServiceList
  names : AllNameGuests value.services

/-- The member a rule names its guests under: `resources`, and `services` where that is absent or
null. -/
def guestMember (rule : Json) : Option Json :=
  match rule.get "resources" with
  | none | some .null => rule.get "services"
  | some resources => some resources

/-- The guests a change **touches** are those the action and the rule name, and none that either
names under any member is left out. -/
structure TouchesExactly (action : HaRuleAction) (existing : Option Json) (vmids : List UInt32) :
    Prop where
  mem_iff : ∀ vmid, vmid ∈ vmids ↔
    action.NamesGuest vmid ∨ ∃ rule, existing = some rule ∧ ListsGuest (guestMember rule) vmid
  omits_none : ∀ rule vmid, existing = some rule → ListsGuest (rule.get "resources") vmid ∨
    ListsGuest (rule.get "services") vmid → vmid ∈ vmids

/-- Whenever the guests of a change can be told, they are told exactly. -/
def GuestsExact [Externals] (action : HaRuleAction) (existing : Option Json) : Prop :=
  ∀ vmids, guestsTouched action existing = .ok vmids → TouchesExactly action existing vmids

/-- **Nothing is hidden** behind a `resources` member: unless an id of the action or of the member
cannot be read, `services` names only guests that the two name as well. -/
def NothingHidden (action : HaRuleAction) (existing : Option Json) : Prop :=
  ∀ rule resources, existing = some rule → rule.get "resources" = some resources →
    AllNameGuests (action.resources.getD []) → resources.ListsGuests →
    ∀ vmid, ListsGuest (rule.get "services") vmid →
      action.NamesGuest vmid ∨ ListsGuest (some resources) vmid

/-! ### Reading an id -/

private theorem validateServiceId_eq_ok_iff {service : String} :
    validateServiceId service = .ok () ↔ ∃ kind digits,
    splitOnce service ':' = some (kind, digits) ∧
      (kind = "vm" ∨ kind = "ct") ∧ digits.toList ≠ [] ∧ ∀ c ∈ digits.toList, c.isDigit := by
  rw [validateServiceId]
  cases hcut : splitOnce service ':' with
  | none => simp [throw, throwThe, MonadExceptOf.throw]
  | some parts =>
    obtain ⟨kind, digits⟩ := parts
    have hempty : digits.isEmpty = true ↔ digits.toList = [] := by simp
    simp only [bind, Except.bind, pure, Except.pure, throw, throwThe, MonadExceptOf.throw]
    split_ifs with hkind hdigits
    · refine iff_of_false (by simp) ?_
      rintro ⟨kind', digits', ⟨rfl, rfl⟩, hkind', -⟩
      exact hkind'.elim hkind.1 hkind.2
    · refine iff_of_false (by simp) ?_
      rintro ⟨kind', digits', ⟨rfl, rfl⟩, -, hne, hall⟩
      rw [hempty, List.all_eq_true] at hdigits
      exact hdigits.elim hne fun hnot => hnot hall
    · refine iff_of_true rfl ⟨kind, digits, rfl, ?_⟩
      rw [hempty, List.all_eq_true, not_or, not_not] at hdigits
      exact ⟨by tauto, hdigits⟩

/-- What is read from an id is the guest it names. -/
private theorem serviceVmid_eq_ok_iff [Externals] {service : String} {vmid : UInt32} :
    serviceVmid service = .ok vmid ↔ NamesGuest service vmid := by
  have hcut {kind digits : String} (hkind : kind = "vm" ∨ kind = "ct") :
      splitOnce service ':' = some (kind, digits) ↔ service = kind ++ ":" ++ digits := by
    rw [splitOnce_eq_some_iff, ← String.toList_inj, String.toList_append, String.toList_append]
    have hcolon : ':' ∉ kind.toList := by rcases hkind with rfl | rfl <;> decide
    simp [hcolon]
  constructor
  · intro h
    cases hvalid : validateServiceId service with
    | error error => simp [serviceVmid, hvalid, Except.mapError, bind, Except.bind] at h
    | ok _ =>
      obtain ⟨kind, digits, hsplit, hkind, hne, hall⟩ := validateServiceId_eq_ok_iff.mp hvalid
      simp only [serviceVmid, hvalid, Except.mapError, bind, Except.bind, hsplit,
        Option.bind_some] at h
      cases hread : parseU32 digits with
      | none => simp [hread, throw, throwThe, MonadExceptOf.throw] at h
      | some number =>
        rw [hread] at h
        obtain rfl := Except.ok.inj h
        exact ⟨kind, digits, (hcut hkind).mp hsplit, hkind, hne, hall,
          (parseU32_eq_some_iff hall hne).mp hread⟩
  · rintro ⟨kind, digits, hservice, hkind, hne, hall, hvalue⟩
    have hsplit := (hcut hkind).mpr hservice
    have hvalid := validateServiceId_eq_ok_iff.mpr ⟨kind, digits, hsplit, hkind, hne, hall⟩
    have hread := (parseU32_eq_some_iff hall hne).mpr hvalue
    simp [serviceVmid, hvalid, Except.mapError, bind, Except.bind, hsplit, hread, pure, Except.pure]

/-! ### Reading a rule -/

section Reading

variable [Externals] {action : HaRuleAction} {existing : Option Json} {vmids : List UInt32}

omit [Externals] in
private theorem allNameGuests_append {l l' : List String} :
    AllNameGuests (l ++ l') ↔ AllNameGuests l ∧ AllNameGuests l' := by
  simp only [AllNameGuests, List.forall_mem_append]

/-- The member the code reads the guests of a rule from. -/
def usedMember (rule : Json) : Option Json := (rule.get "resources").or (rule.get "services")

/-- The ids the code reads from a rule, if there is one. -/
def listedServicesOf (action : HaRuleAction) : Option Json → Except String (List String)
  | some rule => listedServices action.rule rule
  | none => .ok []

private theorem listedServices_of_none {name : String} {rule : Json} (h : usedMember rule = none) :
    listedServices name rule = .ok [] := by
  rw [usedMember] at h
  rw [listedServices, h]

/-- The ids of a list of texts are read one by one. -/
private theorem listedServices_of_some {name : String} {rule value : Json} {listed : List String}
    (h : usedMember rule = some value) :
    listedServices name rule = .ok listed ↔ value.IsServiceList ∧ listed = value.services := by
  rw [usedMember] at h
  rw [listedServices, h]
  cases value with
  | null => simp [Json.IsServiceList, Json.services, eq_comm]
  | string list => simp [Json.IsServiceList, Json.services, eq_comm]
  | array entries =>
    simp only [Json.IsServiceList, Json.services]
    rw [mapM_eq_ok_iff]
    clear h
    induction entries generalizing listed with
    | nil => simp
    | cons entry entries ih =>
      rw [List.forall₂_cons_left_iff, List.forall_mem_cons]
      cases entry with
      | string text =>
        rw [List.filterMap_cons_some (Json.asStr_string), List.map_cons]
        constructor
        · rintro ⟨first, others, hfirst, hothers, rfl⟩
          obtain rfl := Except.ok.inj hfirst
          obtain ⟨hshape, rfl⟩ := ih.mp hothers
          exact ⟨⟨⟨text, rfl⟩, hshape⟩, rfl⟩
        · rintro ⟨⟨-, hshape⟩, rfl⟩
          exact ⟨trim text, _, rfl, ih.mpr ⟨hshape, rfl⟩, rfl⟩
      | _ => simp [Json.asStr]
  | _ => simp [Json.IsServiceList]

/-- The ids of a member, if it is there. -/
def servicesOf (member : Option Json) : List String := (member.map Json.services).getD []

omit [Externals] in
private theorem listsGuest_iff {member : Option Json} {vmid : UInt32} :
    ListsGuest member vmid ↔ ∃ service ∈ servicesOf member, NamesGuest service vmid := by
  cases member <;> simp [ListsGuest, servicesOf]

/-- The guests of a change are read from its own ids and from those of the member. -/
private theorem guestsTouched_eq_ok_iff : guestsTouched action existing = .ok vmids ↔
    (∀ value, existing.bind usedMember = some value → value.IsServiceList) ∧
      ∃ read, (action.resources.getD [] ++ servicesOf (existing.bind usedMember)).mapM serviceVmid =
        .ok read ∧ vmids = (read.mergeSort (· ≤ ·)).dedup := by
  have hlisted {listed : List String} : listedServicesOf action existing = .ok listed ↔
      (∀ value, existing.bind usedMember = some value → value.IsServiceList) ∧
        listed = servicesOf (existing.bind usedMember) := by
    cases existing with
    | none => simp [listedServicesOf, servicesOf, eq_comm]
    | some rule =>
      rw [Option.bind_some, listedServicesOf]
      cases hmember : usedMember rule with
      | none => simp [listedServices_of_none hmember, servicesOf, eq_comm]
      | some value => simp [listedServices_of_some hmember, servicesOf]
  have htouched : guestsTouched action existing = listedServicesOf action existing >>= fun listed =>
      (action.resources.getD [] ++ listed).mapM serviceVmid >>= fun read =>
        return (read.mergeSort (· ≤ ·)).dedup := by
    cases existing <;> rfl
  rw [htouched, bind_eq_ok_iff]
  constructor
  · rintro ⟨listed, hread, h⟩
    obtain ⟨hshape, rfl⟩ := hlisted.mp hread
    obtain ⟨read, hmap, heq⟩ := bind_eq_ok_iff.mp h
    exact ⟨hshape, read, hmap, (Except.ok.inj heq).symm⟩
  · rintro ⟨hshape, read, hmap, rfl⟩
    exact ⟨_, hlisted.mpr ⟨hshape, rfl⟩, bind_eq_ok_iff.mpr ⟨read, hmap, rfl⟩⟩

/-- The guests of a change are those its own ids and the ids of the member name. -/
private theorem mem_guestsTouched (h : guestsTouched action existing = .ok vmids) (vmid : UInt32) :
    vmid ∈ vmids ↔ action.NamesGuest vmid ∨ ListsGuest (existing.bind usedMember) vmid := by
  obtain ⟨-, read, hread, rfl⟩ := guestsTouched_eq_ok_iff.mp h
  rw [List.mem_dedup, List.mem_mergeSort, mem_iff_of_mapM hread, listsGuest_iff,
    HaRuleAction.NamesGuest]
  simp only [serviceVmid_eq_ok_iff, List.mem_append, or_and_right, exists_or]

/-- They can be told when every id can be read. -/
private theorem exists_guestsTouched_iff : (∃ vmids, guestsTouched action existing = .ok vmids) ↔
    AllNameGuests (action.resources.getD []) ∧
      ∀ value, existing.bind usedMember = some value → value.ListsGuests := by
  have hread : (∃ read, (action.resources.getD [] ++ servicesOf (existing.bind usedMember)).mapM
      serviceVmid = .ok read) ↔ AllNameGuests (action.resources.getD []) ∧
        AllNameGuests (servicesOf (existing.bind usedMember)) := by
    rw [exists_mapM_iff, ← allNameGuests_append]
    simp only [serviceVmid_eq_ok_iff, AllNameGuests]
  have hservices {value : Json} (hvalue : existing.bind usedMember = some value) :
      servicesOf (existing.bind usedMember) = value.services := by
    rw [hvalue]
    rfl
  constructor
  · rintro ⟨vmids, h⟩
    obtain ⟨hshape, read, hmap, -⟩ := guestsTouched_eq_ok_iff.mp h
    obtain ⟨haction, hmember⟩ := hread.mp ⟨read, hmap⟩
    exact ⟨haction, fun value hvalue => ⟨hshape value hvalue, hservices hvalue ▸ hmember⟩⟩
  · rintro ⟨haction, hlists⟩
    have hmember : AllNameGuests (servicesOf (existing.bind usedMember)) := by
      cases hvalue : existing.bind usedMember with
      | none => simp [servicesOf, AllNameGuests]
      | some value => exact (hlists value hvalue).names
    obtain ⟨read, hmap⟩ := hread.mpr ⟨haction, hmember⟩
    exact ⟨_, guestsTouched_eq_ok_iff.mpr
      ⟨fun value hvalue => (hlists value hvalue).shape, read, hmap, rfl⟩⟩

end Reading

/-! ### When the guests are told exactly -/

section Exact

variable [Externals] {action : HaRuleAction} {existing : Option Json}

private theorem guestsExact_of_nothingHidden (h : NothingHidden action existing) :
    GuestsExact action existing := by
  intro vmids hvmids
  obtain ⟨haction, hlists⟩ := exists_guestsTouched_iff.mp ⟨vmids, hvmids⟩
  have hmem := mem_guestsTouched hvmids
  cases existing with
  | none => exact ⟨fun vmid => by simp [hmem, ListsGuest], by simp⟩
  | some rule =>
    simp only [Option.bind_some] at hlists hmem
    cases hresources : rule.get "resources" with
    | none =>
      -- a rule without `resources` is read by its `services`, here and by the cluster
      have hused : usedMember rule = rule.get "services" := by rw [usedMember, hresources]; rfl
      have hguest : guestMember rule = rule.get "services" := by rw [guestMember, hresources]
      refine ⟨fun vmid => by simp [hmem, hused, hguest], ?_⟩
      rintro rule' vmid ⟨rfl⟩ (hlisted | hlisted)
      · rw [hresources] at hlisted
        simp [ListsGuest] at hlisted
      · exact (hmem vmid).mpr (.inr (hused ▸ hlisted))
    | some resources =>
      have hused : usedMember rule = some resources := by rw [usedMember, hresources]; rfl
      have hhidden := h rule resources rfl hresources haction (hlists resources hused)
      have hservices {vmid : UInt32} (hlisted : ListsGuest (rule.get "services") vmid) :
          vmid ∈ vmids := (hmem vmid).mpr (hused ▸ hhidden vmid hlisted)
      refine ⟨fun vmid => ?_, ?_⟩
      · rw [hmem, hused]
        by_cases hnull : resources = .null
        · -- what `services` names is named by the action already
          subst hnull
          have hguest : guestMember rule = rule.get "services" := by rw [guestMember, hresources]
          have hnone : ¬ ListsGuest (some Json.null) vmid := by simp [ListsGuest, Json.services]
          constructor
          · rintro (hnamed | hlisted)
            · exact .inl hnamed
            · exact absurd hlisted hnone
          · rintro (hnamed | ⟨rule', ⟨rfl⟩, hlisted⟩)
            · exact .inl hnamed
            · exact hhidden vmid (hguest ▸ hlisted)
        · have hguest : guestMember rule = some resources := by
            rw [guestMember, hresources]
            split
            · simp_all
            · simp_all
            · simp_all
          simp [hguest]
      · rintro rule' vmid ⟨rfl⟩ (hlisted | hlisted)
        · exact (hmem vmid).mpr (.inr (hused ▸ hresources ▸ hlisted))
        · exact hservices hlisted

private theorem nothingHidden_of_guestsExact (h : GuestsExact action existing) :
    NothingHidden action existing := by
  rintro rule resources rfl hresources haction hlists vmid hlisted
  have hused : usedMember rule = some resources := by rw [usedMember, hresources]; rfl
  have hmember : ∀ value, (some rule).bind usedMember = some value → value.ListsGuests := by
    intro value hvalue
    obtain rfl := Option.some.inj (hused.symm.trans hvalue)
    exact hlists
  obtain ⟨vmids, hvmids⟩ := exists_guestsTouched_iff.mpr ⟨haction, hmember⟩
  have hmem := (h vmids hvmids).omits_none rule vmid rfl (.inr hlisted)
  rw [mem_guestsTouched hvmids, Option.bind_some, hused] at hmem
  exact hmem

/-- **The guests of an HA change**: they are told exactly when nothing is hidden. -/
theorem guestsExact_iff (action : HaRuleAction) (existing : Option Json) :
    GuestsExact action existing ↔ NothingHidden action existing :=
  ⟨nothingHidden_of_guestsExact, guestsExact_of_nothingHidden⟩

end Exact

/-- The removal of a rule. -/
def removeRule : HaRuleAction :=
  ⟨"delete", "pve", "keep-apart", none, none, none, none, none, none, none⟩

/-- A rule whose current member is null, and that still names a guest under the older one. -/
def nullResourcesRule : Json := .object [("resources", .null), ("services", .string "vm:100")]

/-- Its guest is left out, so nobody is asked about it. -/
theorem not_guestsExact_nullResources :
    ¬ @GuestsExact Externals.plain removeRule (some nullResourcesRule) := by
  let _ : Externals := Externals.plain
  intro hexact
  have htouched : guestsTouched removeRule (some nullResourcesRule) = .ok [] := by
    refine guestsTouched_eq_ok_iff.mpr ⟨?_, [], rfl, by simp⟩
    rintro value ⟨rfl⟩
    trivial
  have hnames : NamesGuest "vm:100" 100 :=
    ⟨"vm", "100", rfl, .inl rfl, by decide, List.all_eq_true.mp (by decide), by decide⟩
  have hmem := (hexact [] htouched).omits_none nullResourcesRule 100 rfl
    (.inr ⟨.string "vm:100", rfl, "vm:100", by decide, hnames⟩)
  cases hmem

end ProxmoxMcp
