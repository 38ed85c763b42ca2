import Mathlib
import ProxmoxMcp.Core.Fingerprint
import ProxmoxMcp.Core.JsonText

/-!
# What fingerprints tell apart

Under the compact JSON encoder, and with SHA-256 taken to be injective, a guest's fingerprint tells
its state from every other **up to the order** of its tags and of its disks, and the three kinds of
fingerprints are never equal: their texts part at the second or the third element of the array.
-/

namespace ProxmoxMcp

open PrefixCode

/-! ### Sorting -/

/-- Sorting by a total order forgets the order of a list, and nothing else. -/
private theorem insertionSort_eq_insertionSort_iff {α : Type} {r : α → α → Prop} [DecidableRel r]
    [Std.Total r] [IsTrans α r] [Std.Antisymm r] {l l' : List α} :
    l.insertionSort r = l'.insertionSort r ↔ l.Perm l' := by
  constructor
  · intro heq
    exact (List.perm_insertionSort r l).symm.trans (heq ▸ List.perm_insertionSort r l')
  · intro hperm
    refine List.Perm.eq_of_pairwise' (List.pairwise_insertionSort r l)
      (List.pairwise_insertionSort r l') ?_
    exact (List.perm_insertionSort r l).trans (hperm.trans (List.perm_insertionSort r l').symm)

instance : Std.Total diskLe where
  total a b := by
    rcases lt_trichotomy a.1 b.1 with hlt | heq | hlt
    · exact .inl (.inl hlt)
    · exact (UInt64.le_total a.2 b.2).imp (fun hle => .inr ⟨heq, hle⟩)
        fun hle => .inr ⟨heq.symm, hle⟩
    · exact .inr (.inl hlt)

instance : IsTrans (String × UInt64) diskLe where
  trans a b c hab hbc := by
    rcases hab with hab | ⟨hab, hle⟩
    · exact .inl (hbc.elim (lt_trans hab) fun hbc => hbc.1 ▸ hab)
    · rcases hbc with hbc | ⟨hbc, hle'⟩
      · exact .inl (hab ▸ hbc)
      · exact .inr ⟨hab.trans hbc, UInt64.le_trans hle hle'⟩

instance : Std.Antisymm diskLe where
  antisymm a b hab hba := by
    rcases hab with hab | ⟨hab, hle⟩
    · rcases hba with hba | ⟨hba, -⟩
      · exact absurd hab (lt_asymm hba)
      · exact absurd hba.symm hab.ne
    · rcases hba with hba | ⟨-, hle'⟩
      · exact absurd hab.symm hba.ne
      · exact Prod.ext hab (UInt64.le_antisymm hle hle')

/-! ### The documents that are hashed -/

/-- The array whose text is hashed for a guest. -/
def GuestState.document (state : GuestState) : Json :=
  .array [.string state.cluster, .unsigned state.vmid.toUInt64, .string state.name,
    .string state.kind, .string state.node, .string state.status,
    .array ((state.tags.insertionSort (· ≤ ·)).map .string), .string state.configDigest,
    .array ((state.disks.insertionSort diskLe).map fun disk =>
      .array [.string disk.1, .unsigned disk.2])]

/-- The array whose text is hashed for an HA rule. -/
def haRuleDocument (cluster rule : String) (existing : Option Json) : Json :=
  .array [.string cluster, .string rule, existing.getD .null]

/-- The array whose text is hashed for a vmid that a restore will fill. -/
def restoreTargetDocument (cluster : String) (vmid : UInt32) : Json :=
  .array [.string cluster, .unsigned vmid.toUInt64, .string "vacant-restore-target"]

/-- The names and sizes of disks, as they are written. -/
abbrev disksCode : List (String × UInt64) → List Char :=
  listCode '[' ',' ']' (pairCode '[' ',' ']' quote digits)

/-- The tags of a guest, as they are written. -/
abbrev tagsCode : List String → List Char := listCode '[' ',' ']' quote

theorem GuestState.compactChars_document (state : GuestState) :
    state.document.compactChars = '[' :: (quote state.cluster ++
      ',' :: (digits state.vmid.toUInt64 ++ ',' :: (quote state.name ++
      ',' :: (quote state.kind ++ ',' :: (quote state.node ++ ',' :: (quote state.status ++
      ',' :: (tagsCode (state.tags.insertionSort (· ≤ ·)) ++
      ',' :: (quote state.configDigest ++
      ',' :: (disksCode (state.disks.insertionSort diskLe) ++ [']']))))))))) := by
  have htags : ∀ tag, (Json.string tag).compactChars = quote tag := fun tag => by
    rw [Json.compactChars]
  have hdisks : ∀ disk : String × UInt64,
      (Json.array [.string disk.1, .unsigned disk.2]).compactChars =
        pairCode '[' ',' ']' quote digits disk := fun disk => by
    simp [Json.compactChars, Json.compactItems, pairCode, digits]
  simp only [document, Json.compactChars, Json.compactItems, ← Json.compactChars_array_map htags,
    ← Json.compactChars_array_map hdisks, List.append_assoc, List.cons_append, List.nil_append,
    digits]

private theorem compactChars_haRuleDocument (cluster rule : String) (existing : Option Json) :
    (haRuleDocument cluster rule existing).compactChars = '[' :: (quote cluster ++
      ',' :: (quote rule ++ ',' :: ((existing.getD .null).compactChars ++ [']']))) := by
  simp [haRuleDocument, Json.compactChars, Json.compactItems]

private theorem compactChars_restoreTargetDocument (cluster : String) (vmid : UInt32) :
    (restoreTargetDocument cluster vmid).compactChars = '[' :: (quote cluster ++
      ',' :: (digits vmid.toUInt64 ++ ',' :: (quote "vacant-restore-target" ++ [']']))) := by
  simp [restoreTargetDocument, Json.compactChars, Json.compactItems, digits]

private theorem separable_tagsCode : Separable Anything tagsCode :=
  separable_quote.list (fun tag => ⟨'"', _, rfl, by decide⟩) trivial trivial (by decide)

private theorem separable_disksCode : Separable Anything disksCode :=
  (separable_quote.pair separable_digits trivial (by decide)).list
    (fun disk => ⟨'[', _, rfl, by decide⟩) trivial trivial (by decide)

/-! ### Separation -/

/-- Two states are **the same up to order**: they differ at most in the order of their tags and of
their disks. -/
structure GuestState.SameUpToOrder (a b : GuestState) : Prop where
  cluster : a.cluster = b.cluster
  vmid : a.vmid = b.vmid
  name : a.name = b.name
  kind : a.kind = b.kind
  node : a.node = b.node
  status : a.status = b.status
  tags : a.tags.Perm b.tags
  configDigest : a.configDigest = b.configDigest
  disks : a.disks.Perm b.disks

/-- **Guests**: the text of a document determines the state up to order. -/
theorem GuestState.sameUpToOrder_of_document {a b : GuestState}
    (h : a.document.compactChars = b.document.compactChars) : a.SameUpToOrder b := by
  rw [compactChars_document, compactChars_document] at h
  obtain ⟨hcluster, h⟩ := separable_quote.cut trivial (List.tail_eq_of_cons_eq h)
  obtain ⟨hvmid, h⟩ := separable_digits.cut (by decide) h
  obtain ⟨hname, h⟩ := separable_quote.cut trivial h
  obtain ⟨hkind, h⟩ := separable_quote.cut trivial h
  obtain ⟨hnode, h⟩ := separable_quote.cut trivial h
  obtain ⟨hstatus, h⟩ := separable_quote.cut trivial h
  obtain ⟨htags, h⟩ := separable_tagsCode.cut trivial h
  obtain ⟨hdigest, h⟩ := separable_quote.cut trivial h
  obtain ⟨hdisks, -⟩ := separable_disksCode.cut trivial h
  exact {
    cluster := hcluster
    vmid := UInt32.toUInt64_inj.mp hvmid
    name := hname
    kind := hkind
    node := hnode
    status := hstatus
    tags := insertionSort_eq_insertionSort_iff.mp htags
    configDigest := hdigest
    disks := insertionSort_eq_insertionSort_iff.mp hdisks }

/-- States that are the same up to order have one document. -/
theorem GuestState.SameUpToOrder.document {a b : GuestState} (h : a.SameUpToOrder b) :
    a.document = b.document := by
  have htags : a.tags.insertionSort (· ≤ ·) = b.tags.insertionSort (· ≤ ·) :=
    insertionSort_eq_insertionSort_iff.mpr h.tags
  have hdisks : a.disks.insertionSort diskLe = b.disks.insertionSort diskLe :=
    insertionSort_eq_insertionSort_iff.mpr h.disks
  rw [GuestState.document, GuestState.document, h.cluster, h.vmid, h.name, h.kind, h.node, h.status,
    htags, h.configDigest, hdisks]

/-- A number in its digits never begins as a quoted text does. -/
private theorem digits_append_ne_quote (n : UInt64) (text : String) (s t : List Char) :
    digits n ++ s ≠ quote text ++ t := by
  rw [digits]
  cases hdigits : Nat.toDigits 10 n.toNat with
  | nil => exact absurd hdigits Nat.toDigits_ne_nil
  | cons c rest =>
    have hdigit : c.isDigit :=
      Nat.isDigit_of_mem_toDigits (by omega) (by omega) (hdigits ▸ List.mem_cons_self)
    intro h
    obtain rfl : c = '"' := List.head_eq_of_cons_eq h
    exact absurd hdigit (by decide)

/-- The second element of an HA rule's document is a text, that of a guest's a number. -/
private theorem haRuleDocument_ne_guest (cluster rule : String) (existing : Option Json)
    (state : GuestState) :
    (haRuleDocument cluster rule existing).compactChars ≠ state.document.compactChars := by
  rw [compactChars_haRuleDocument, GuestState.compactChars_document]
  intro h
  obtain ⟨-, h⟩ := separable_quote.cut trivial (List.tail_eq_of_cons_eq h)
  exact digits_append_ne_quote _ _ _ _ h.symm

private theorem haRuleDocument_ne_restoreTarget (cluster cluster' rule : String)
    (existing : Option Json) (vmid : UInt32) : (haRuleDocument cluster rule existing).compactChars ≠
      (restoreTargetDocument cluster' vmid).compactChars := by
  rw [compactChars_haRuleDocument, compactChars_restoreTargetDocument]
  intro h
  obtain ⟨-, h⟩ := separable_quote.cut trivial (List.tail_eq_of_cons_eq h)
  exact digits_append_ne_quote _ _ _ _ h.symm

/-- A restore's document ends behind its third element, that of a guest goes on. -/
private theorem guest_ne_restoreTargetDocument (state : GuestState) (cluster : String)
    (vmid : UInt32) :
    state.document.compactChars ≠ (restoreTargetDocument cluster vmid).compactChars := by
  rw [GuestState.compactChars_document, compactChars_restoreTargetDocument]
  intro h
  obtain ⟨-, h⟩ := separable_quote.cut trivial (List.tail_eq_of_cons_eq h)
  obtain ⟨-, h⟩ := separable_digits.cut (by decide) h
  exact separable_quote.cut_ne trivial trivial (by decide) h

/-! ### Digests -/

/-- JSON is written **compactly**, and SHA-256 tells what is written **apart**. -/
structure FaithfulDigests [Externals] : Prop where
  compact : Externals.encodeJson = Json.compact
  injective : Set.InjOn Externals.sha256Hex (Set.range Externals.encodeJson)

theorem FaithfulDigests.fingerprintOf_inj [Externals] (h : FaithfulDigests) {value value' : Json} :
    fingerprintOf value = fingerprintOf value' ↔ value.compactChars = value'.compactChars := by
  constructor
  · intro heq
    have hdigest : Externals.sha256Hex (Externals.encodeJson value) =
        Externals.sha256Hex (Externals.encodeJson value') := by
      simpa [fingerprintOf, toString] using heq
    have htext := h.injective ⟨value, rfl⟩ ⟨value', rfl⟩ hdigest
    rw [h.compact] at htext
    exact String.ofList_injective htext
  · intro heq
    rw [fingerprintOf, fingerprintOf, h.compact, Json.compact, Json.compact, heq]

/-- **Fingerprints separate states, and only states.** -/
theorem fingerprint_separates [Externals] (hdigests : FaithfulDigests) :
    (∀ a b : GuestState, fingerprint a = fingerprint b ↔ a.SameUpToOrder b) ∧
    (∀ state cluster rule existing,
      fingerprint state ≠ haRuleFingerprint cluster rule existing) ∧
    (∀ state cluster vmid, fingerprint state ≠ restoreTargetFingerprint cluster vmid) ∧
    ∀ cluster rule existing cluster' vmid,
      haRuleFingerprint cluster rule existing ≠ restoreTargetFingerprint cluster' vmid := by
  refine ⟨fun a b => ⟨fun h => ?_, fun h => ?_⟩, fun state cluster rule existing h => ?_,
    fun state cluster vmid h => ?_, fun cluster rule existing cluster' vmid h => ?_⟩
  · exact GuestState.sameUpToOrder_of_document (hdigests.fingerprintOf_inj.mp h)
  · exact congrArg fingerprintOf h.document
  · exact haRuleDocument_ne_guest cluster rule existing state (hdigests.fingerprintOf_inj.mp h.symm)
  · exact guest_ne_restoreTargetDocument state cluster vmid (hdigests.fingerprintOf_inj.mp h)
  · exact haRuleDocument_ne_restoreTarget cluster cluster' rule existing vmid
      (hdigests.fingerprintOf_inj.mp h)

section Sampled

/-- A guest with its tags in this order. -/
def taggedGuest (tags : List String) : GuestState where
  cluster := "pve3"
  vmid := 617
  name := "test-guest"
  kind := "lxc"
  node := "pve2"
  status := "running"
  tags := tags
  configDigest := "abc123"
  disks := [("rootfs", 8589934592)]

/-- SHA-256 of three documents; the two texts of each pair are exchanged, and any other text is its
own digest. -/
def sampledSha256 : String ≃ String :=
  (Equiv.swap (taggedGuest ["prod", "web"]).document.compact
    "156212e783626a5f0ef3285e29d2477b82016bdc10d1a15a732e681e858ef2b3").trans <|
  (Equiv.swap (haRuleDocument "pve3" "keep-apart" none).compact
    "308caeb2b8ab8aea00f5aa1c7ca17febc6100c31888c1f80ce4157b2f047c7d4").trans <|
  Equiv.swap (restoreTargetDocument "pve3" 617).compact
    "6ee859068f6d6ec4815e4dc12123bb5379f7175cf7c8a8d4d888d99e9941f247"

/-- Stand-ins with the compact encoder and these digests. -/
@[reducible] def Externals.sampled : Externals :=
  { Externals.plain with encodeJson := Json.compact, sha256Hex := sampledSha256 }

theorem faithfulDigests_sampled : @FaithfulDigests Externals.sampled :=
  @FaithfulDigests.mk Externals.sampled rfl sampledSha256.injective.injOn

/-- Reordered tags keep a fingerprint, and the three kinds of fingerprints differ. -/
theorem fingerprint_separates_sampled :
    @fingerprint Externals.sampled (taggedGuest ["web", "prod"]) =
      @fingerprint Externals.sampled (taggedGuest ["prod", "web"]) ∧
    @fingerprint Externals.sampled (taggedGuest ["prod", "web"]) ≠
      @haRuleFingerprint Externals.sampled "pve3" "keep-apart" none ∧
    @fingerprint Externals.sampled (taggedGuest ["prod", "web"]) ≠
      @restoreTargetFingerprint Externals.sampled "pve3" 617 ∧
    @haRuleFingerprint Externals.sampled "pve3" "keep-apart" none ≠
      @restoreTargetFingerprint Externals.sampled "pve3" 617 := by
  obtain ⟨hguest, hrule, htarget, hkinds⟩ :=
    @fingerprint_separates Externals.sampled faithfulDigests_sampled
  exact ⟨(hguest _ _).mpr ⟨rfl, rfl, rfl, rfl, rfl, rfl, List.Perm.swap _ _ _, rfl, .refl _⟩,
    hrule _ _ _ _, htarget _ _ _, hkinds _ _ _ _ _⟩

end Sampled

end ProxmoxMcp
