import ProxmoxMcp.Core.Guests
import ProxmoxMcp.Percent

/-!
# What a server reads out of a request

The client writes every query, every form and every volume or task id through `percentEncode`.
That function is an **encoder** in the sense of `Percent`: what it writes is encoded and decodes to
the UTF-8 bytes of the text. A query and a form are therefore read back as the list of pairs they
were made of, and an id behind a path is one **segment** of it, whatever characters it has.
-/

namespace ProxmoxMcp

open Interaction Text Percent ProxmoxError

/-! ### The bytes of a text -/

/-- What stands in an encoded text for a byte. -/
def encodeByte (byte : UInt8) : List Char :=
  if isUnreserved byte then [Char.ofNat byte.toNat] else '%' :: hexByte byte

private theorem percentEncode_toList (text : String) :
    (percentEncode text).toList = (utf8 text).flatMap encodeByte := by
  rw [percentEncode, String.toList_ofList, utf8_eq]
  rfl

/-- The digits of a byte are hexadecimal and have the value of the byte. -/
private theorem hexValue_hexByte (byte : UInt8) :
    ∃ a b, hexByte byte = [a, b] ∧ hexValue a = some (byte.toNat / 16) ∧
      hexValue b = some (byte.toNat % 16) := by
  have hdigit : ∀ n < 16,
      hexValue (if n < 10 then Char.ofNat (48 + n) else Char.ofNat (55 + n)) = some n := by decide
  have hlt : byte.toNat < 256 := byte.toNat_lt_size
  have hhigh : byte.toNat / 16 < 16 := by omega
  have hlow : byte.toNat % 16 < 16 := by omega
  exact ⟨_, _, rfl, hdigit _ hhigh, hdigit _ hlow⟩

/-- A byte below 128 is the encoding of the character with its number. -/
private theorem utf8EncodeChar_ofNat {byte : UInt8} (h : byte < 128) :
    String.utf8EncodeChar (Char.ofNat byte.toNat) = [byte] := by
  have hlt : byte.toNat < 128 := by simpa [UInt8.lt_iff_toNat_lt] using h
  have hvalid : byte.toNat.isValidChar := Or.inl (by omega)
  have hval : (Char.ofNat byte.toNat).val.toNat = byte.toNat := by
    rw [Char.ofNat, dif_pos hvalid]
    rfl
  rw [String.utf8EncodeChar]
  simp only [hval]
  rw [if_pos (by omega), UInt8.ofNat_toNat]

private theorem isUnreserved_iff {byte : UInt8} :
    isUnreserved byte ↔ byte < 128 ∧ isUnreservedChar (Char.ofNat byte.toNat) := by
  simp [isUnreserved, isUnreservedChar]

/-- What stands for a byte is encoded. -/
private theorem encoded_encodeByte (byte : UInt8) : Encoded (encodeByte byte) := by
  rw [encodeByte]
  split_ifs with hplain
  · exact .plain (isUnreserved_iff.mp hplain).2 .nil
  · obtain ⟨a, b, hdigits, ha, hb⟩ := hexValue_hexByte byte
    rw [hdigits]
    exact .triplet (by simp [ha]) (by simp [hb]) .nil

/-- What stands for a byte decodes to it. -/
private theorem decode_encodeByte (byte : UInt8) : decode (encodeByte byte) = [byte] := by
  rw [encodeByte]
  split_ifs with hplain
  · obtain ⟨hlt, hchar⟩ := isUnreserved_iff.mp hplain
    rw [decode_cons_of_ne (ne_percent_of_isUnreservedChar hchar), utf8EncodeChar_ofNat hlt]
    rfl
  · obtain ⟨a, b, hdigits, ha, hb⟩ := hexValue_hexByte byte
    have hvalue : 16 * (byte.toNat / 16) + byte.toNat % 16 = byte.toNat := Nat.div_add_mod _ _
    rw [hdigits, decode_triplet ha hb, hvalue, UInt8.ofNat_toNat]
    rfl

/-- `percentEncode` writes **encoded** texts. -/
theorem encoded_percentEncode (text : String) : Encoded (percentEncode text).toList := by
  rw [percentEncode_toList]
  exact Encoded.flatMap fun byte _ => encoded_encodeByte byte

/-- What `percentEncode` writes decodes to the **UTF-8 bytes** of the text. -/
theorem decode_percentEncode (text : String) :
    decode (percentEncode text).toList = utf8 text := by
  have hbytes : (fun byte => decode (encodeByte byte)) = fun byte => [byte] := by
    funext byte
    exact decode_encodeByte byte
  rw [percentEncode_toList, decode_flatMap fun byte _ => encoded_encodeByte byte, hbytes,
    List.flatMap_singleton']

/-! ### Queries and forms -/

private theorem decodeForm_encodePairs (pairs : List (String × String)) :
    decodeForm (encodePairs pairs) = some pairs :=
  decodeForm_intercalate encoded_percentEncode decode_percentEncode pairs

/-- The body a form request carries. -/
def ApiRequest.formBody (request : ApiRequest) : String := encodePairs request.form

/-- What stands in a URL behind its path **carries** a query: nothing for the empty one, and
otherwise a question mark and a text that is read back as the query. -/
def CarriesQuery (tail : String) (query : List (String × String)) : Prop :=
  (tail = "" ∧ query = []) ∨ ∃ text, tail = "?" ++ text ∧ decodeForm text = some query

/-- The URL of a request is its path on the endpoint with the query of the request behind it. -/
theorem carriesQuery_of_url [Externals] {client : ProxmoxClient} {request : ApiRequest}
    {url : String} (h : client.url request = .ok url) :
    ∃ path tail, Externals.expandPath request.pathTemplate request.params = .ok path ∧
      url = String.ofList (client.cluster.endpoint.toList.rdropWhile (· == '/')) ++ path ++ tail ∧
      CarriesQuery tail request.query := by
  rw [ProxmoxClient.url] at h
  cases hexpand : Externals.expandPath request.pathTemplate request.params with
  | error error => simp [hexpand, Except.mapError, bind, Except.bind] at h
  | ok path =>
    simp only [hexpand, Except.mapError, bind, Except.bind, pure, Except.pure,
      Except.ok.injEq] at h
    refine ⟨path, _, rfl, h.symm, ?_⟩
    split_ifs with hquery
    · exact .inl ⟨rfl, hquery⟩
    · exact .inr ⟨_, rfl, decodeForm_encodePairs request.query⟩

/-! ### Segments -/

/-- A path **ends in a segment** that names `id`: the segments of the path are those of what
stands before it and one more, which is no navigation and is read back as `id`. -/
structure EndsInSegment (front path id : String) : Prop where
  segments : ∃ segment, fields path '/' = fields front '/' ++ [segment] ∧
    segment ∉ ["", ".", ".."] ∧ '?' ∉ segment.toList ∧ '#' ∉ segment.toList ∧
    decodeText segment.toList = some id

/-- Behind a slash a text without one is a segment of its own. -/
private theorem fields_append_segment (front : String) {segment : String}
    (h : '/' ∉ segment.toList) :
    fields (front ++ "/" ++ segment) '/' = fields front '/' ++ [segment] := by
  have htext : (front ++ "/" ++ segment).toList = front.toList ++ '/' :: segment.toList := by simp
  rw [fields, htext, List.splitOn_append_cons_self, List.map_append,
    List.splitOn_eq_singleton h, List.map_singleton, String.ofList_toList]
  rfl

/-- An encoded id is one segment unless it is empty or one of the two navigations. -/
private theorem endsInSegment_percentEncode (front : String) {id : String}
    (h : id ∉ ["", ".", ".."]) :
    EndsInSegment front (front ++ "/" ++ percentEncode id) id := by
  have hread : decodeText (percentEncode id).toList = some id :=
    decodeText_encode decode_percentEncode id
  have hencoded : Encoded (percentEncode id).toList := encoded_percentEncode id
  refine ⟨percentEncode id, fields_append_segment front (hencoded.notMem (by decide)), ?_,
    hencoded.notMem (by decide), hencoded.notMem (by decide), hread⟩
  -- the three texts decode to themselves, so only they are encoded as them
  intro hmem
  have hself : ∀ text ∈ ["", ".", ".."], decodeText text.toList = some text := by
    intro text htext
    simp only [List.mem_cons, List.not_mem_nil, or_false] at htext
    rcases htext with rfl | rfl | rfl <;> rfl
  have hid : percentEncode id = id :=
    Option.some.inj ((hself _ hmem).symm.trans hread)
  exact h (hid ▸ hmem)

namespace Guests

open Program

variable [Externals]

/-- The requests whose path ends, behind what the expander makes of a template, in the segment of
an id. -/
def EndsInIdSegment (template : String) (params : List (String × String)) (id : String) (op : Op) :
    Prop :=
  ∀ name request, op = .http (.dispatch name request) → ∃ expanded,
    Externals.expandPath template params = .ok expanded ∧
      EndsInSegment expanded request.pathTemplate id

/-- The one request of `send` is the one it is given. -/
private theorem ensures_send_endsInIdSegment {client : ProxmoxClient} {request : ApiRequest}
    {template id expanded : String} {params : List (String × String)} {h : History Effect}
    (hexpand : Externals.expandPath template params = .ok expanded)
    (hsegment : EndsInSegment expanded request.pathTemplate id) :
    Ensures (fun _ => EndsInIdSegment template params id) (fun _ _ => True) h
      (client.send request) := by
  refine (always_send ?_ fun ticket => ?_).ensures fun _ _ _ => trivial
  · rintro name request' ⟨⟩
    exact ⟨expanded, hexpand, hsegment⟩
  · rintro name request' ⟨⟩

/-- Deleting a volume addresses it by **one segment**. -/
theorem ensures_deleteVolume_endsInIdSegment (client : ProxmoxClient) (node storage volid : String)
    (h : History Effect) :
    Ensures (fun _ => EndsInIdSegment contentTemplate [("node", node), ("storage", storage)] volid)
      (fun _ _ => True) h (deleteVolume client node storage volid) := by
  refine Ensures.liftExcept fun _ _ => Ensures.ensure fun hcolon => Ensures.liftExcept
    fun expanded hexpand => ?_
  have hid : volid ∉ ["", ".", ".."] := by
    intro hmem
    have hfree : ∀ text ∈ ["", ".", ".."], contains text ":" = false := by decide
    simp [hfree volid hmem] at hcolon
  exact ensures_send_endsInIdSegment (eq_ok_of_mapError hexpand)
    (endsInSegment_percentEncode expanded hid)

/-- Stopping a task addresses it by **one segment**. -/
theorem ensures_stopTask_endsInIdSegment (client : ProxmoxClient) (node upid : String)
    (h : History Effect) :
    Ensures (fun _ => EndsInIdSegment "/api2/json/nodes/{node}/tasks" [("node", node)] upid)
      (fun _ _ => True) h (stopTask client node upid) := by
  refine Ensures.ensure fun _ => Ensures.ensure fun hprefix => Ensures.ensure fun _ =>
    Ensures.ensure fun _ => Ensures.liftExcept fun expanded hexpand => ?_
  have hid : upid ∉ ["", ".", ".."] := by
    intro hmem
    have hfree : ∀ text ∈ ["", ".", ".."], startsWith text "UPID:" = false := by decide
    simp [hfree upid hmem] at hprefix
  exact ensures_send_endsInIdSegment (eq_ok_of_mapError hexpand)
    (endsInSegment_percentEncode expanded hid)

end Guests

/-- **The round trip.** A text is read back from what is written for it; the query of a URL and
the form of a body are read back as the lists of pairs they carry, in order; and the id of a volume
or of a task is one segment of the path it is sent in. -/
theorem encoding_readBack [Externals] :
    (∀ text, Encoded (percentEncode text).toList ∧
      decode (percentEncode text).toList = utf8 text) ∧
    (∀ (client : ProxmoxClient) request url, client.url request = .ok url → ∃ path tail,
      Externals.expandPath request.pathTemplate request.params = .ok path ∧
      url = String.ofList (client.cluster.endpoint.toList.rdropWhile (· == '/')) ++ path ++ tail ∧
      CarriesQuery tail request.query) ∧
    (∀ request : ApiRequest, decodeForm request.formBody = some request.form) ∧
    (∀ client node storage volid h, Program.Ensures
      (fun _ => Guests.EndsInIdSegment Guests.contentTemplate
        [("node", node), ("storage", storage)] volid)
      (fun _ _ => True) h (Guests.deleteVolume client node storage volid)) ∧
    ∀ client node upid h, Program.Ensures
      (fun _ => Guests.EndsInIdSegment "/api2/json/nodes/{node}/tasks" [("node", node)] upid)
      (fun _ _ => True) h (Guests.stopTask client node upid) :=
  ⟨fun text => ⟨encoded_percentEncode text, decode_percentEncode text⟩,
    fun _ _ _ => carriesQuery_of_url,
    fun request => decodeForm_encodePairs request.form,
    Guests.ensures_deleteVolume_endsInIdSegment,
    Guests.ensures_stopTask_endsInIdSegment⟩

example : decodeForm (encodePairs [("a&b", "c=d é"), ("", "")]) =
    some [("a&b", "c=d é"), ("", "")] := by rfl

end ProxmoxMcp
