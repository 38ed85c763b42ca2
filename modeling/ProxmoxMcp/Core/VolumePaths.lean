import ProxmoxMcp.Core.Encoding
import ProxmoxMcp.Core.PathExpansion
import ProxmoxMcp.UrlPath

/-!
# The paths of a volume

The form of a volume id is written out three times: by the validator of its kind, by the validator
that binds its storage too, and by the checks `deleteVolume` makes itself. A volume id that the
second one accepts is encoded behind a path that the expander makes of the node and the storage.

`Addresses` says what a path is read as. The three agree (`volid_addresses`): the second validator
accepts what the first one accepts on the storage it is given, `deleteVolume` refuses nothing of
that, and the path of its request is read back as the **volume of that storage**.
-/

namespace ProxmoxMcp

open Text Percent

/-- A path **addresses** a resource: its segments are read back as those of the resource, and none
of them is a navigation, by which a URL would leave it. -/
structure Addresses (path : String) (resource : List String) : Prop where
  reads : readPath path = some resource
  stays : "." ∉ resource ∧ ".." ∉ resource

/-- An encoded id behind a path addresses the resource of that name in the one of the path. -/
theorem Addresses.append_percentEncode {path id : String} {resource : List String}
    (h : Addresses path resource) (hquery : '?' ∉ path.toList) (hfragment : '#' ∉ path.toList)
    (hid : id ≠ "." ∧ id ≠ "..") :
    Addresses (path ++ "/" ++ percentEncode id) (resource ++ [id]) := by
  refine ⟨?_, by simp [h.stays, hid.1.symm, hid.2.symm]⟩
  have hsegment : readSegments (percentEncode id).toList = some [id] :=
    (encoded_percentEncode id).readSegments (decodeText_encode decode_percentEncode id)
  have hpath : (path ++ "/" ++ percentEncode id).toList =
      path.toList ++ '/' :: (percentEncode id).toList := by simp
  rw [readPath, hpath]
  exact readSegments_append_slash hquery hfragment h.reads hsegment

/-! ### Filling in a template -/

/-- The expander **fills in** templates of plain segments: it percent-encodes a value into the
segment it stands for, as the client's tests have it, so the path it makes has no query and no
fragment, and addresses the segments of the template with the values in their places. With nothing
to fill in, a path is left as it is. -/
structure FillsIn [Externals] : Prop where
  filled : ∀ {template path : String} {params : List (String × String)},
    (∀ segment ∈ fields template '/', Clean segment ∧ segment ∉ [".", ".."]) →
    Externals.expandPath template params = .ok path →
      '?' ∉ path.toList ∧ '#' ∉ path.toList ∧ Addresses path (filledSegments template params)
  untouched : ∀ {template path : String}, Externals.expandPath template [] = .ok path →
    path = template

/-- The volumes of a storage on a node. -/
def volumesOf (node storage : String) : List String :=
  ["", "api2", "json", "nodes", node, "storage", storage, "content"]

private theorem filledSegments_contentTemplate (node storage : String) :
    filledSegments Guests.contentTemplate [("node", node), ("storage", storage)] =
      volumesOf node storage := by
  have hfields : fields Guests.contentTemplate '/' = ["", "api2", "json", "nodes",
      "\x7bnode\x7d", "storage", "\x7bstorage\x7d", "content"] := by decide
  rw [filledSegments, hfields]
  simp [volumesOf]

/-! ### An expander that fills in -/

/-- A value that stands in a path as it is. -/
def StandsInPath (value : String) : Prop := Clean value ∧ value ∉ ["", ".", ".."]

instance : DecidablePred StandsInPath := fun _ => inferInstanceAs (Decidable (_ ∧ _))

/-- Put the values in the place of the segments of a template that are named after them. -/
def fillSegments (template : String) (params : List (String × String)) : Except String String :=
  if params.all fun param => decide (StandsInPath param.2) then
    .ok <| "/".intercalate <| (fields template '/').map fun segment =>
      ((params.find? fun param => "\x7b" ++ param.1 ++ "\x7d" == segment).map Prod.snd).getD segment
  else .error "the value is no segment"

/-- Stand-ins with this expander. -/
@[reducible] def Externals.filling : Externals :=
  { Externals.plain with expandPath := fillSegments }

theorem fillsIn_filling : @FillsIn Externals.filling := by
  refine @FillsIn.mk Externals.filling
    (fun {template path params} hplain hpath => ?_) fun hpath => ?_
  · replace hpath : fillSegments template params = .ok path := hpath
    rw [fillSegments] at hpath
    split_ifs at hpath with hstand
    replace hpath : "/".intercalate (filledSegments template params) = path :=
      Except.ok.inj hpath
    subst hpath
    have hsegment : ∀ segment ∈ filledSegments template params,
        Clean segment ∧ segment ∉ [".", ".."] := by
      intro segment hmem
      rcases mem_filledSegments hmem with hliteral | ⟨param, hparam, rfl⟩
      · exact hplain _ hliteral
      · obtain ⟨hclean, hnavigation⟩ :=
          of_decide_eq_true (List.all_eq_true.mp hstand param hparam)
        exact ⟨hclean, fun hmem => hnavigation (List.mem_cons_of_mem _ hmem)⟩
    have hne : filledSegments template params ≠ [] := by simp [filledSegments, fields_ne_nil]
    have hclean := fun segment hmem => (hsegment segment hmem).1
    refine ⟨notMem_intercalate_of_clean hclean (by decide) (by decide),
      notMem_intercalate_of_clean hclean (by decide) (by decide),
      readPath_intercalate hne hclean, fun hmem => ?_, fun hmem => ?_⟩
    · exact absurd (hsegment _ hmem).2 (by decide)
    · exact absurd (hsegment _ hmem).2 (by decide)
  · replace hpath : fillSegments _ [] = .ok _ := hpath
    simp only [fillSegments, List.all_nil, if_true, List.find?_nil, Option.map_none,
      Option.getD_none, List.map_id'] at hpath
    rw [← Except.ok.inj hpath]
    exact intercalate_fields _ '/'

/-! ### Deleting a volume -/

section Deletion

variable [Externals]

/-- The path a request is sent by, on the endpoint of the client. -/
def SendsPath (client : ProxmoxClient) (request : ApiRequest) (resource : List String) : Prop :=
  ∀ url, client.url request = .ok url → ∃ path,
    url = String.ofList (client.cluster.endpoint.toList.rdropWhile (· == '/')) ++ path ∧
      Addresses path resource

/-- A deletion whose checks pass is the sending of one request. -/
private theorem deleteVolume_eq_send {client : ProxmoxClient}
    {node storage volid prefixPath : String}
    (husable : rejectUnusableVolid volid = .ok ()) (hcolon : contains volid ":" = true)
    (hexpand : Externals.expandPath Guests.contentTemplate
      [("node", node), ("storage", storage)] = .ok prefixPath) :
    Guests.deleteVolume client node storage volid =
      client.send (Guests.deleteVolumeRequest prefixPath volid) := by
  rw [Guests.deleteVolume, husable, hcolon, hexpand]
  rfl

omit [Externals] in
/-- A volume id with a colon is no navigation. -/
private theorem ne_navigation_of_colon {volid : String} (hcolon : contains volid ":" = true) :
    volid ≠ "." ∧ volid ≠ ".." := by
  constructor
  · rintro rfl
    exact absurd hcolon (by decide)
  · rintro rfl
    exact absurd hcolon (by decide)

/-- The request of a deletion goes to the volume of the storage. -/
private theorem sendsPath_deleteVolumeRequest (hfill : FillsIn) {client : ProxmoxClient}
    {node storage volid prefixPath : String} (hcolon : contains volid ":" = true)
    (hexpand : Externals.expandPath Guests.contentTemplate
      [("node", node), ("storage", storage)] = .ok prefixPath) :
    SendsPath client (Guests.deleteVolumeRequest prefixPath volid)
      (volumesOf node storage ++ [volid]) := by
  intro url hurl
  have hplain : ∀ segment ∈ fields Guests.contentTemplate '/',
      Clean segment ∧ segment ∉ [".", ".."] := by decide
  obtain ⟨hquery, hfragment, hprefix⟩ := hfill.filled hplain hexpand
  rw [filledSegments_contentTemplate] at hprefix
  rw [ProxmoxClient.url] at hurl
  cases hagain : Externals.expandPath (Guests.deleteVolumeRequest prefixPath volid).pathTemplate
      (Guests.deleteVolumeRequest prefixPath volid).params with
  | error error => simp [hagain, Except.mapError, bind, Except.bind] at hurl
  | ok path =>
    -- the path is expanded a second time, with nothing left to fill in
    obtain rfl := hfill.untouched hagain
    simp only [hagain, Except.mapError, bind, Except.bind, pure, Except.pure,
      Except.ok.injEq] at hurl
    refine ⟨_, ?_, hprefix.append_percentEncode hquery hfragment (ne_navigation_of_colon hcolon)⟩
    rw [← hurl]
    simp [Guests.deleteVolumeRequest]

end Deletion

/-- The text of a volume id up to its first colon. -/
def storageOf (volid : String) : Option String := (splitOnce volid ':').map Prod.fst

/-- A volume id has **one** kind. -/
theorem kind_unique {volid kind kind' : String} (h : validateVolidKind volid kind = .ok ())
    (h' : validateVolidKind volid kind' = .ok ()) : kind = kind' := by
  obtain ⟨-, _, _, _, hsplit, -, hkind, -⟩ := validateVolidKind_eq_ok_iff.mp h
  obtain ⟨-, _, _, _, hsplit', -, hkind', -⟩ := validateVolidKind_eq_ok_iff.mp h'
  obtain ⟨-, rfl⟩ := Prod.mk.inj (Option.some.inj (hsplit.symm.trans hsplit'))
  exact (Prod.mk.inj (Option.some.inj (hkind.symm.trans hkind'))).1

/-- **The three forms of a volume id agree.** What is accepted for an operation is what is accepted
for its kind on the storage in front of the first colon, and no id has two kinds. What is accepted
is deleted by one request, which is read back as the volume of that storage. -/
theorem volid_addresses [Externals] (hfill : FillsIn) (volid storage kind : String) :
    (validateVolidForOperation volid storage kind = .ok () ↔
      validateVolidKind volid kind = .ok () ∧ storageOf volid = some storage) ∧
    (∀ kind', validateVolidKind volid kind = .ok () → validateVolidKind volid kind' = .ok () →
      kind = kind') ∧
    (∀ storage', validateVolidForOperation volid storage "iso" = .ok () →
      validateVolidKind volid "backup" ≠ .ok () ∧
        validateVolidForOperation volid storage' "backup" ≠ .ok ()) ∧
    (validateVolidForOperation volid storage kind = .ok () →
      rejectUnusableVolid volid = .ok () ∧ contains volid ":" = true ∧
      ∀ (client : ProxmoxClient) node prefixPath, Externals.expandPath Guests.contentTemplate
          [("node", node), ("storage", storage)] = .ok prefixPath →
        Guests.deleteVolume client node storage volid =
          client.send (Guests.deleteVolumeRequest prefixPath volid) ∧
        SendsPath client (Guests.deleteVolumeRequest prefixPath volid)
          (volumesOf node storage ++ [volid])) := by
  refine ⟨validateVolidForOperation_eq_ok_iff, fun _ => kind_unique, fun storage' hiso => ?_,
    fun haccepted => ?_⟩
  · have hkind : validateVolidKind volid "iso" = .ok () :=
      (validateVolidForOperation_eq_ok_iff.mp hiso).1
    have hbackup : validateVolidKind volid "backup" ≠ .ok () := fun hbackup =>
      absurd (kind_unique hkind hbackup) (by decide)
    exact ⟨hbackup, fun hoperation =>
      hbackup (validateVolidForOperation_eq_ok_iff.mp hoperation).1⟩
  · obtain ⟨husable, hcolon⟩ := deletable_of_validateVolidForOperation haccepted
    exact ⟨husable, hcolon, fun client node prefixPath hexpand =>
      ⟨deleteVolume_eq_send husable hcolon hexpand,
        sendsPath_deleteVolumeRequest hfill hcolon hexpand⟩⟩

/-- The deletion of an image on a node. -/
theorem volid_addresses_iso :
    let _ : Externals := Externals.filling
    let client : ProxmoxClient := ⟨"pve", ⟨"https://pve:8006", [], []⟩⟩
    SendsPath client (Guests.deleteVolumeRequest "/api2/json/nodes/pve1/storage/local/content"
      "local:iso/debian.iso") (volumesOf "pve1" "local" ++ ["local:iso/debian.iso"]) := by
  let _ : Externals := Externals.filling
  have haccepted : validateVolidForOperation "local:iso/debian.iso" "local" "iso" = .ok () := by
    decide
  have hexpand : fillSegments Guests.contentTemplate [("node", "pve1"), ("storage", "local")] =
      .ok "/api2/json/nodes/pve1/storage/local/content" := by decide
  exact (((volid_addresses fillsIn_filling "local:iso/debian.iso" "local" "iso").2.2.2
    haccepted).2.2 _ "pve1" _ hexpand).2

end ProxmoxMcp
