import ProxmoxMcp.HeadSort
import ProxmoxMcp.Server.Read

/-!
# The pages of a listing

A listing is served in pages, each cut out of the upstream list after `sortForPaging`, so that a
record's place does not depend on the order the cluster happened to send.

The order sorted by is picked by the **first record** of the upstream list: by `vmid` when that
record has one, by `volid` otherwise. `sortForPaging_eq_headSort` makes it an instance of a sort
its head picks, and `orderIndependent_iff` says for which lists the pages are independent of the
upstream order and end with the records that lack the key.
-/

namespace ProxmoxMcp

open HeadSort

/-! ### The order a record picks -/

/-- The number guests are sorted by. -/
def vmidKey (item : Json) : UInt64 := (item.getU64 "vmid").getD (UInt64.ofNat (2 ^ 64 - 1))

/-- The text archives are sorted by. -/
def volidKey (item : Json) : String := (item.getStr "volid").getD ""

/-- The order of a listing that begins with the record `first`. -/
def pageOrder (first a b : Json) : Bool :=
  if (first.get "vmid").isSome then vmidKey a ≤ vmidKey b
  else if (first.get "volid").isSome then volidKey a ≤ volidKey b
  else true

theorem pageOrder_of_vmid {first : Json} (h : (first.get "vmid").isSome) :
    pageOrder first = fun a b => decide (vmidKey a ≤ vmidKey b) := by
  funext a b
  rw [pageOrder, if_pos h]

theorem pageOrder_of_volid {first : Json} (hvmid : first.get "vmid" = none)
    (hvolid : (first.get "volid").isSome) :
    pageOrder first = fun a b => decide (volidKey a ≤ volidKey b) := by
  funext a b
  rw [pageOrder, hvmid, if_neg (by simp), if_pos hvolid]

private theorem pageOrder_of_neither {first : Json} (hvmid : first.get "vmid" = none)
    (hvolid : first.get "volid" = none) : pageOrder first = fun _ _ => true := by
  funext a b
  rw [pageOrder, hvmid, hvolid, if_neg (by simp), if_neg (by simp)]

/-- A record picks one of three orders. -/
private theorem pageOrder_cases (first : Json) :
    (pageOrder first = fun a b => decide (vmidKey a ≤ vmidKey b)) ∨
      (pageOrder first = fun a b => decide (volidKey a ≤ volidKey b)) ∨
      pageOrder first = fun _ _ => true := by
  by_cases hvmid : (first.get "vmid").isSome
  · exact .inl (pageOrder_of_vmid hvmid)
  have hvmid : first.get "vmid" = none := by simpa using hvmid
  by_cases hvolid : (first.get "volid").isSome
  · exact .inr (.inl (pageOrder_of_volid hvmid hvolid))
  · exact .inr (.inr (pageOrder_of_neither hvmid (by simpa using hvolid)))

theorem preorders_pageOrder : Preorders pageOrder where
  trans first a b c := by
    rcases pageOrder_cases first with h | h | h
    · simpa [h] using UInt64.le_trans
    · simpa [h] using String.le_trans
    · simp [h]
  total first a b := by
    rcases pageOrder_cases first with h | h | h
    · simpa [h] using UInt64.le_total (vmidKey a) (vmidKey b)
    · simpa [h] using String.le_total (volidKey a) (volidKey b)
    · simp [h]

/-- The sort is a sort its first record picks; a record with neither key leaves the list alone. -/
theorem sortForPaging_eq_headSort (items : List Json) :
    sortForPaging items = headSort pageOrder items := by
  cases items with
  | nil => rfl
  | cons first rest =>
    rw [headSort, sortForPaging]
    by_cases hvmid : (first.get "vmid").isSome
    · rw [if_pos hvmid, pageOrder_of_vmid hvmid]
      rfl
    rw [if_neg hvmid]
    have hvmid : first.get "vmid" = none := by simpa using hvmid
    by_cases hvolid : (first.get "volid").isSome
    · rw [if_pos hvolid, pageOrder_of_volid hvmid hvolid]
      rfl
    · have hvolid' : first.get "volid" = none := by simpa using hvolid
      rw [if_neg hvolid, pageOrder_of_neither hvmid hvolid', List.mergeSort_of_pairwise]
      exact List.pairwise_of_forall fun _ _ => rfl

theorem sortForPaging_perm (items : List Json) : (sortForPaging items).Perm items :=
  sortForPaging_eq_headSort items ▸ headSort_perm items

/-! ### Pages that do not depend on the upstream order -/

/-- The field a listing is paged by. -/
inductive PageKey where
  /-- Of guests. -/
  | vmid
  /-- Of archives. -/
  | volid
  deriving DecidableEq, Repr

/-- Whether a record carries the key: a number for a guest, a text for an archive. -/
def PageKey.carriedBy : PageKey → Json → Bool
  | vmid, item => (item.getU64 "vmid").isSome
  | volid, item => (item.getStr "volid").isSome

/-- **Order independence** of a listing's pages. -/
structure OrderIndependent (key : PageKey) (items : List Json) : Prop where
  /-- Every arrangement of the list is sorted alike. -/
  order : ∀ arranged : List Json, arranged.Perm items →
    sortForPaging arranged = sortForPaging items
  /-- Every page of every arrangement is the same. -/
  pages : ∀ arranged : List Json, arranged.Perm items → ∀ offset limit,
    paginate (.array arranged) offset limit = paginate (.array items) offset limit
  /-- The records that carry the key come before those that lack it. -/
  carriersFirst : ∀ arranged : List Json, arranged.Perm items →
    (sortForPaging arranged).Pairwise fun a b => key.carriedBy b → key.carriedBy a

/-- Pages depend on a list through its sorted form only. -/
private theorem paginate_congr {items items' : List Json}
    (h : sortForPaging items = sortForPaging items') (offset limit : UInt32) :
    paginate (.array items) offset limit = paginate (.array items') offset limit := by
  simp only [paginate, Json.asArray, h]

private theorem invariant_iff_sortForPaging (items : List Json) :
    Invariant pageOrder items ↔
      ∀ arranged : List Json, arranged.Perm items →
        sortForPaging arranged = sortForPaging items := by
  simp only [Invariant, sortForPaging_eq_headSort]

/-- **When pages do not depend on the upstream order**: exactly when every two different records are
put in one and the same order by every record that could come first, and a record that carries
the key is put before each record that lacks it. -/
theorem orderIndependent_iff (key : PageKey) (items : List Json) :
    OrderIndependent key items ↔
      Settled pageOrder items ∧
        ∀ a ∈ items, ∀ b ∈ items, key.carriedBy a → ¬ key.carriedBy b →
          AlwaysPrecedes pageOrder items a b := by
  constructor
  · intro h
    have hsettled : Settled pageOrder items := by
      rw [← headSort_invariant_iff preorders_pageOrder, invariant_iff_sortForPaging]
      exact h.order
    have hfirst := h.carriersFirst items (.refl items)
    rw [sortForPaging_eq_headSort, hsettled.pairwise_marked_iff preorders_pageOrder] at hfirst
    exact ⟨hsettled, hfirst⟩
  · rintro ⟨hsettled, hfirst⟩
    have hinvariant := hsettled.invariant preorders_pageOrder
    rw [invariant_iff_sortForPaging] at hinvariant
    refine ⟨hinvariant, fun arranged hperm => paginate_congr (hinvariant arranged hperm), ?_⟩
    intro arranged hperm
    rw [hinvariant arranged hperm, sortForPaging_eq_headSort,
      hsettled.pairwise_marked_iff preorders_pageOrder]
    exact hfirst

/-- Two archives of one guest. -/
def ownedBackups : List Json :=
  [.object [("volid", .string "local:backup/a.vma"), ("vmid", .unsigned 100)],
    .object [("volid", .string "local:backup/b.vma"), ("vmid", .unsigned 100)]]

/-- The listing of a storage names the owner of each archive: archives of one guest tie, and stay
as the cluster sent them. -/
theorem not_orderIndependent_ownedBackups :
    (ownedBackups.map fun item => item.getStr "volid").Nodup ∧
      (∀ item ∈ ownedBackups, PageKey.volid.carriedBy item) ∧
      ¬ OrderIndependent .volid ownedBackups := by
  refine ⟨by decide, by decide, fun h => ?_⟩
  have hsame := h.order ownedBackups.reverse (List.reverse_perm _)
  have hties (items : List Json) (hitems : ∀ item ∈ items, vmidKey item = 100 ∧
      (item.get "vmid").isSome) : sortForPaging items = items := by
    cases items with
    | nil => rfl
    | cons first rest =>
      rw [sortForPaging_eq_headSort, headSort, pageOrder_of_vmid (hitems first (by simp)).2]
      refine List.mergeSort_of_pairwise (List.pairwise_of_forall_mem_list fun a ha b hb => ?_)
      rw [(hitems a ha).1, (hitems b hb).1]
      rfl
  rw [hties ownedBackups (by decide), hties ownedBackups.reverse (by decide)] at hsame
  simp [ownedBackups] at hsame

end ProxmoxMcp
