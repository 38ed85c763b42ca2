import ProxmoxMcp.Server.Pages

/-!
# Paging through a listing

A client pages through a listing by a **chain** of calls: from offset 0 on, each call asks for the
page that begins where the one before ended, as long as `has_more` is set. Every call reads the
listing anew, so every call may see another arrangement of it.

Where the records carry distinct keys, every arrangement is sorted alike (`Keyed.sortForPaging_eq`),
and the chain serves the sorted list piece by piece: `pageChain_complete`. Offsets are 32-bit
numbers, and no list that a response can hold leads out of them.
-/

namespace ProxmoxMcp

open HeadSort

/-! ### One page -/

/-- A page as a client reads it. -/
structure Page where
  items : List Json
  total : UInt64
  offset : UInt64
  limit : UInt64
  hasMore : Bool

def readPage (answer : Json) : Option Page := do
  let items ← (← answer.get "items").asArray
  let total ← answer.getU64 "total"
  let offset ← answer.getU64 "offset"
  let limit ← answer.getU64 "limit"
  let hasMore ← (← answer.get "has_more").asBool
  return ⟨items, total, offset, limit, hasMore⟩

/-- Where a page begins. -/
def pageStart (offset : UInt32) (total : Nat) : Nat := min offset.toNat total

/-- Where a page ends. -/
def pageEnd (offset limit : UInt32) (total : Nat) : Nat :=
  min (pageStart offset total + limit.toNat) total

/-- The page of the sorted list at an offset. -/
def pageAt (sorted : List Json) (offset limit : UInt32) : Page where
  items := (sorted.take (pageEnd offset limit sorted.length)).drop (pageStart offset sorted.length)
  total := UInt64.ofNat sorted.length
  offset := offset.toUInt64
  limit := limit.toUInt64
  hasMore := pageEnd offset limit sorted.length < sorted.length

/-- What a client reads off one page call. -/
def fetchPage (items : List Json) (offset limit : UInt32) : Option Page :=
  (paginate (.array items) offset limit).toOption.bind readPage

private theorem fetchPage_eq (items : List Json) (offset limit : UInt32) :
    fetchPage items offset limit = some (pageAt (sortForPaging items) offset limit) := rfl

/-- One page call: the arguments a client sends are checked, and the page they ask for is read. -/
def pageCall (items : List Json) (offset limit : Option UInt32) : Option Page := do
  let (offset, limit) ← (resolvePage offset limit).toOption
  fetchPage items offset limit

/-- A page size that is accepted is accepted at every offset, and is not zero. -/
private theorem resolvePage_some {requested : Option UInt32} {limit : UInt32}
    (h : resolvePage none requested = .ok (0, limit)) :
    0 < limit.toNat ∧ ∀ offset, resolvePage (some offset) requested = .ok (offset, limit) := by
  simp only [resolvePage] at h ⊢
  by_cases hzero : requested.getD defaultPageLimit = 0
  · simp [hzero, throw, throwThe, MonadExceptOf.throw, bind, Except.bind] at h
  by_cases hmax : requested.getD defaultPageLimit > maxPageLimit
  · simp [hzero, hmax, throw, throwThe, MonadExceptOf.throw, bind, Except.bind] at h
  simp only [hzero, hmax, if_false] at h ⊢
  obtain rfl : requested.getD defaultPageLimit = limit := by
    simpa [pure, Except.pure, bind, Except.bind] using h
  refine ⟨?_, fun offset => rfl⟩
  rw [Nat.pos_iff_ne_zero]
  exact fun h => hzero (UInt32.toNat_inj.mp h)

private theorem pageCall_eq {requested : Option UInt32} {limit : UInt32}
    (h : resolvePage none requested = .ok (0, limit)) (items : List Json) (offset : UInt32) :
    pageCall items (some offset) requested =
      some (pageAt (sortForPaging items) offset limit) := by
  rw [pageCall, (resolvePage_some h).2 offset]
  rfl

/-- **In range**: a page is cut out between two positions of the list, and adding the limit to the
first of them stays within 64 bits. -/
structure InRange (items : List Json) (offset limit : UInt32) : Prop where
  served : ∃ page, fetchPage items offset limit = some page ∧
    page.items.length = pageEnd offset limit items.length - pageStart offset items.length
  start_le_end : pageStart offset items.length ≤ pageEnd offset limit items.length
  end_le_total : pageEnd offset limit items.length ≤ items.length
  no_overflow : pageStart offset items.length + limit.toNat < 2 ^ 64

private theorem length_pageAt_items (sorted : List Json) (offset limit : UInt32) :
    (pageAt sorted offset limit).items.length =
      pageEnd offset limit sorted.length - pageStart offset sorted.length := by
  have hend : pageEnd offset limit sorted.length ≤ sorted.length := Nat.min_le_right _ _
  rw [pageAt, List.length_drop, List.length_take, Nat.min_eq_left hend]

/-- No offset and no limit a client can send leads out of a list. -/
private theorem inRange (items : List Json) (offset limit : UInt32) :
    InRange items offset limit where
  served := by
    have hlength : (sortForPaging items).length = items.length :=
      (sortForPaging_perm items).length_eq
    refine ⟨_, fetchPage_eq items offset limit, ?_⟩
    rw [length_pageAt_items, hlength]
  start_le_end := by
    have hstart : pageStart offset items.length ≤ items.length := Nat.min_le_right _ _
    exact Nat.le_min.mpr ⟨Nat.le_add_right _ _, hstart⟩
  end_le_total := Nat.min_le_right _ _
  no_overflow := by
    have hstart : pageStart offset items.length ≤ offset.toNat := Nat.min_le_left _ _
    have hoffset := offset.toNat_lt
    have hlimit := limit.toNat_lt
    omega

/-! ### Lists with distinct keys -/

/-- The order of a listing's keys. -/
def PageKey.le : PageKey → Json → Json → Bool
  | vmid, a, b => vmidKey a ≤ vmidKey b
  | volid, a, b => volidKey a ≤ volidKey b

/-- Every record carries the key of the listing, and no two carry the same. -/
def Keyed : PageKey → List Json → Prop
  | .vmid, items => (∀ item ∈ items, PageKey.vmid.carriedBy item) ∧ (items.map vmidKey).Nodup
  | .volid, items => (∀ item ∈ items, item.get "vmid" = none ∧ PageKey.volid.carriedBy item) ∧
      (items.map volidKey).Nodup

private theorem isSome_get_of_bind {key : String} {item : Json} {α : Type} {read : Json → Option α}
    (h : ((item.get key).bind read).isSome) : (item.get key).isSome := by
  cases hget : item.get key with
  | none => simp [hget] at h
  | some value => rfl

/-- All records of the list pick the order of its key. -/
theorem Keyed.pageOrder_eq {key : PageKey} {items : List Json} (h : Keyed key items)
    {first : Json} (hfirst : first ∈ items) : pageOrder first = key.le := by
  cases key with
  | vmid =>
    rw [pageOrder_of_vmid (isSome_get_of_bind (h.1 first hfirst))]
    rfl
  | volid =>
    obtain ⟨hvmid, hvolid⟩ := h.1 first hfirst
    rw [pageOrder_of_volid hvmid (isSome_get_of_bind hvolid)]
    rfl

theorem Keyed.le_antisymm {key : PageKey} {items : List Json} (h : Keyed key items) {a b : Json}
    (ha : a ∈ items) (hb : b ∈ items) (hab : key.le a b) (hba : key.le b a) : a = b := by
  cases key with
  | vmid =>
    refine List.inj_on_of_nodup_map h.2 ha hb ?_
    exact UInt64.le_antisymm (of_decide_eq_true hab) (of_decide_eq_true hba)
  | volid =>
    refine List.inj_on_of_nodup_map h.2 ha hb ?_
    exact String.le_antisymm (of_decide_eq_true hab) (of_decide_eq_true hba)

theorem Keyed.settled {key : PageKey} {items : List Json} (h : Keyed key items) :
    Settled pageOrder items :=
  settled_of_strict (fun _ hc => h.pageOrder_eq hc) fun _ ha _ hb => h.le_antisymm ha hb

/-- Every arrangement of a list with distinct keys is sorted alike. -/
theorem Keyed.sortForPaging_eq {key : PageKey} {items arranged : List Json} (h : Keyed key items)
    (hperm : arranged.Perm items) : sortForPaging arranged = sortForPaging items := by
  simp only [sortForPaging_eq_headSort]
  exact h.settled.invariant preorders_pageOrder arranged hperm

theorem Keyed.pairwise_sortForPaging {key : PageKey} {items : List Json} (h : Keyed key items) :
    (sortForPaging items).Pairwise fun a b => key.le a b := by
  cases items with
  | nil => exact .nil
  | cons first rest =>
    rw [sortForPaging_eq_headSort, headSort, h.pageOrder_eq List.mem_cons_self]
    rw [← h.pageOrder_eq List.mem_cons_self]
    exact List.pairwise_mergeSort (preorders_pageOrder.trans first)
      (preorders_pageOrder.total first) _

/-! ### The chain -/

/-- The pages of a chain of calls from an offset on: the call numbered `call` sees the arrangement
`upstream call`. An offset outside 32 bits cannot be sent, and ends the chain without an answer. -/
def pageChain (upstream : Nat → List Json) (requested : Option UInt32) :
    Nat → Nat → Nat → Option (List Page)
  | 0, _, _ => none
  | fuel + 1, call, offset =>
    if offset < 2 ^ 32 then do
      let page ← pageCall (upstream call) (some (UInt32.ofNat offset)) requested
      if page.hasMore then
        return page :: (← pageChain upstream requested fuel (call + 1) (offset + page.items.length))
      else
        return [page]
    else none

/-- The records served by pages. -/
def served (pages : List Page) : List Json := pages.flatMap Page.items

/-- **Complete**: the pages serve the whole list in key order. -/
structure ChainComplete (key : PageKey) (items : List Json) (limit : UInt32)
    (pages : List Page) : Prop where
  /-- Nothing is lost and nothing served twice. -/
  served_perm : (served pages).Perm items
  inKeyOrder : (served pages).Pairwise fun a b => key.le a b
  nonempty : items ≠ [] → ∀ page ∈ pages, page.items ≠ []
  bounded : ∀ page ∈ pages, page.items.length ≤ limit.toNat
  total_eq : ∀ page ∈ pages, page.total.toNat = items.length
  /-- A page says there is no more exactly when it reaches the end. -/
  hasMore_iff : ∀ before page after, pages = before ++ page :: after →
    (page.hasMore = false ↔ (served (before ++ [page])).length = items.length)

/-- What pages from an offset on say of the sorted list. -/
structure ServesFrom (sorted : List Json) (limit : UInt32) (offset : Nat)
    (pages : List Page) : Prop where
  served_eq : served pages = sorted.drop offset
  nonempty : sorted ≠ [] → ∀ page ∈ pages, page.items ≠ []
  bounded : ∀ page ∈ pages, page.items.length ≤ limit.toNat
  total_eq : ∀ page ∈ pages, page.total = UInt64.ofNat sorted.length
  hasMore_iff : ∀ before page after, pages = before ++ page :: after →
    (page.hasMore = false ↔ offset + (served (before ++ [page])).length = sorted.length)

private theorem ofNat_toNat_of_lt {offset : Nat} (h : offset < 2 ^ 32) :
    (UInt32.ofNat offset).toNat = offset := by
  rw [UInt32.toNat_ofNat']
  exact Nat.mod_eq_of_lt h

/-- A page in the list: it holds the next records, and is the last exactly when it holds them
all. -/
private theorem pageAt_spec (sorted : List Json) {offset : Nat} (limit : UInt32)
    (h32 : offset < 2 ^ 32) (hoffset : offset ≤ sorted.length) :
    let page := pageAt sorted (UInt32.ofNat offset) limit
    page.items = (sorted.drop offset).take limit.toNat ∧
      (page.hasMore ↔ offset + limit.toNat < sorted.length) := by
  have hstart : pageStart (UInt32.ofNat offset) sorted.length = offset := by
    rw [pageStart, ofNat_toNat_of_lt h32, Nat.min_eq_left hoffset]
  refine ⟨?_, ?_⟩
  · have htake : sorted.take (pageEnd (UInt32.ofNat offset) limit sorted.length) =
        sorted.take (offset + limit.toNat) := by
      rw [pageEnd, hstart, List.take_eq_take_iff]
      omega
    rw [pageAt, htake, hstart, List.take_drop]
  · simp only [pageAt, pageEnd, hstart, decide_eq_true_eq]
    omega

private theorem served_cons (page : Page) (pages : List Page) :
    served (page :: pages) = page.items ++ served pages := List.flatMap_cons

/-- The first page and what follows it serve the list from the first offset on. -/
theorem ServesFrom.cons {sorted : List Json} {limit : UInt32} {offset : Nat} {page : Page}
    {pages : List Page} (hitems : page.items = (sorted.drop offset).take limit.toNat)
    (hlimit : 0 < limit.toNat) (htotal : page.total = UInt64.ofNat sorted.length)
    (hmore : page.hasMore) (hrest : offset + limit.toNat < sorted.length)
    (h : ServesFrom sorted limit (offset + page.items.length) pages) :
    ServesFrom sorted limit offset (page :: pages) := by
  have hlength : page.items.length = limit.toNat := by
    rw [hitems, List.length_take, List.length_drop]
    omega
  constructor
  · rw [served_cons, h.served_eq, hlength, hitems, ← List.drop_drop, List.take_append_drop]
  · intro hne p hp
    rcases List.mem_cons.mp hp with rfl | hp
    · exact List.ne_nil_of_length_pos (hlength ▸ hlimit)
    · exact h.nonempty hne p hp
  · intro p hp
    rcases List.mem_cons.mp hp with rfl | hp
    · exact Nat.le_of_eq hlength
    · exact h.bounded p hp
  · intro p hp
    rcases List.mem_cons.mp hp with rfl | hp
    · exact htotal
    · exact h.total_eq p hp
  · -- which page says that more follow: the first does, and then the last does not
    intro before p after hsplit
    cases before with
    | nil =>
      obtain ⟨rfl, -⟩ := List.cons.inj hsplit
      have hserved : (served ([] ++ [page])).length = limit.toNat := by simp [served, hlength]
      rw [hserved, hmore]
      simp only [Bool.true_eq_false, false_iff]
      omega
    | cons first before =>
      obtain ⟨rfl, hpages⟩ := List.cons.inj hsplit
      rw [h.hasMore_iff before p after hpages, List.cons_append, served_cons, List.length_append]
      omega

/-- A last page serves what is left. -/
theorem ServesFrom.last {sorted : List Json} {limit : UInt32} {offset : Nat} {page : Page}
    (hitems : page.items = (sorted.drop offset).take limit.toNat)
    (htotal : page.total = UInt64.ofNat sorted.length) (hmore : page.hasMore = false)
    (hwithin : sorted ≠ [] → offset < sorted.length) (hoffset : offset ≤ sorted.length)
    (hrest : sorted.length ≤ offset + limit.toNat) : ServesFrom sorted limit offset [page] := by
  have hall : page.items = sorted.drop offset := by
    rw [hitems, List.take_of_length_le]
    rw [List.length_drop]
    omega
  have honly (p : Page) (hp : p ∈ [page]) : p = page := List.mem_singleton.mp hp
  constructor
  · rw [served_cons, hall, served, List.flatMap_nil, List.append_nil]
  · intro hne p hp
    rw [honly p hp, hall]
    exact List.ne_nil_of_length_pos (by rw [List.length_drop]; have := hwithin hne; omega)
  · intro p hp
    rw [honly p hp, hall, List.length_drop]
    omega
  · intro p hp
    rw [honly p hp, htotal]
  · intro before p after hsplit
    obtain ⟨rfl, rfl, -⟩ : before = [] ∧ p = page ∧ after = [] := by
      cases before with
      | nil => simpa [eq_comm] using hsplit
      | cons first before => simp at hsplit
    have hserved : (served ([] ++ [p])).length = sorted.length - offset := by simp [served, hall]
    rw [hserved, hmore]
    simp only [true_iff]
    omega

section Chain

variable {upstream : Nat → List Json} {sorted : List Json} {requested : Option UInt32}
  {limit : UInt32}

/-- **The chain serves the sorted list**: from an offset within the list on, in as many calls as
there are records left. -/
theorem pageChain_serves (hlimit : resolvePage none requested = .ok (0, limit))
    (hsorted : ∀ call, sortForPaging (upstream call) = sorted) (h32 : sorted.length ≤ 2 ^ 32) :
    ∀ fuel call offset, (sorted ≠ [] → offset < sorted.length) → offset ≤ sorted.length →
      sorted.length < offset + fuel →
      ∃ pages, pageChain upstream requested fuel call offset = some pages ∧
        ServesFrom sorted limit offset pages := by
  have hpos := (resolvePage_some hlimit).1
  intro fuel
  induction fuel with
  | zero =>
    intro call offset _ hoffset hfuel
    omega
  | succ fuel ih =>
    intro call offset hwithin hoffset hfuel
    have hsend : offset < 2 ^ 32 := by
      rcases List.eq_nil_or_concat sorted with rfl | ⟨_, _, rfl⟩
      · simp only [List.length_nil] at hoffset
        omega
      · exact Nat.lt_of_lt_of_le (hwithin (by simp)) h32
    obtain ⟨hitems, hmore⟩ := pageAt_spec sorted limit hsend hoffset
    rw [pageChain, if_pos hsend, pageCall_eq hlimit, hsorted]
    rw [Option.bind_eq_bind, Option.bind_some]
    -- the page ends the list, or the next call starts behind it
    by_cases hrest : offset + limit.toNat < sorted.length
    · have hlength : (pageAt sorted (UInt32.ofNat offset) limit).items.length = limit.toNat := by
        rw [hitems, List.length_take, List.length_drop]
        omega
      obtain ⟨pages, hpages, hserves⟩ :=
        ih (call + 1) (offset + (pageAt sorted (UInt32.ofNat offset) limit).items.length)
          (by omega) (by omega) (by omega)
      refine ⟨pageAt sorted (UInt32.ofNat offset) limit :: pages, ?_,
        hserves.cons hitems hpos rfl (hmore.mpr hrest) hrest⟩
      rw [if_pos (hmore.mpr hrest), hpages]
      rfl
    · have hlast := mt hmore.mp hrest
      refine ⟨[pageAt sorted (UInt32.ofNat offset) limit], ?_,
        .last hitems rfl (by simpa using hlast) hwithin hoffset (by omega)⟩
      rw [if_neg hlast]
      rfl

end Chain

/-- The list comes from a response the client accepts: each of its records takes a byte of the body
at least. -/
abbrev FitsResponse (items : List Json) : Prop := items.length ≤ maxResponseBytes

theorem FitsResponse.length_le {items : List Json} (h : FitsResponse items) :
    items.length ≤ 2 ^ 32 := by
  have hcap : maxResponseBytes ≤ 2 ^ 32 := by decide
  exact Nat.le_trans h hcap

/-- **Page chain**: over a list with distinct keys that a response can hold, whatever arrangement
each call sees, a chain of any accepted page size ends and serves the whole list in key order; and
no offset or limit leads out of any list. -/
theorem pageChain_complete {key : PageKey} {items : List Json} (h : Keyed key items)
    (hfits : FitsResponse items) {requested : Option UInt32} {limit : UInt32}
    (hlimit : resolvePage none requested = .ok (0, limit)) {upstream : Nat → List Json}
    (hupstream : ∀ call, (upstream call).Perm items) :
    (∃ pages, pageChain upstream requested (items.length + 1) 0 0 = some pages ∧
      ChainComplete key items limit pages) ∧
    ∀ listing offset limit, InRange listing offset limit := by
  have hlength := hfits.length_le
  refine ⟨?_, inRange⟩
  have hperm := sortForPaging_perm items
  have hsorted := fun call => h.sortForPaging_eq (hupstream call)
  have hwithin : sortForPaging items ≠ [] → 0 < (sortForPaging items).length :=
    List.length_pos_iff.mpr
  obtain ⟨pages, hpages, hserves⟩ := pageChain_serves hlimit hsorted
    (hperm.length_eq ▸ hlength) (items.length + 1) 0 0 hwithin (Nat.zero_le _)
    (by rw [hperm.length_eq]; omega)
  have hserved : served pages = sortForPaging items := by simpa using hserves.served_eq
  refine ⟨pages, hpages, ?_⟩
  constructor
  · exact hserved ▸ hperm
  · exact hserved ▸ h.pairwise_sortForPaging
  · intro hne
    refine hserves.nonempty fun hnil => hne ?_
    exact List.nil_perm.mp (hnil ▸ hperm)
  · exact hserves.bounded
  · intro page hpage
    rw [hserves.total_eq page hpage, UInt64.toNat_ofNat', hperm.length_eq]
    exact Nat.mod_eq_of_lt (by omega)
  · intro before page after hsplit
    rw [hserves.hasMore_iff before page after hsplit, hperm.length_eq, Nat.zero_add]

/-- A guest of a listing. -/
def guestRecord (vmid : Nat) : Json := .object [("vmid", .unsigned (UInt64.ofNat vmid))]

/-- Three guests, which every other call sees in reverse. -/
theorem pageChain_complete_threeGuests :
    ∃ pages, pageChain
        (fun call => if call % 2 = 0 then [guestRecord 3, guestRecord 5, guestRecord 4]
          else [guestRecord 4, guestRecord 5, guestRecord 3]) (some 2) 4 0 0 = some pages ∧
      ChainComplete .vmid [guestRecord 3, guestRecord 5, guestRecord 4] 2 pages := by
  have hkeyed : Keyed .vmid [guestRecord 3, guestRecord 5, guestRecord 4] :=
    ⟨by decide, by decide⟩
  have hlimit : resolvePage none (some 2) = .ok (0, 2) := rfl
  refine (pageChain_complete hkeyed (by decide) hlimit fun call => ?_).1
  split
  · exact .refl _
  · exact List.reverse_perm [guestRecord 3, guestRecord 5, guestRecord 4]

end ProxmoxMcp
