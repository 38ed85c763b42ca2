import ProxmoxMcp.Text

/-!
# Percent-encoded texts

A text is **encoded** when it consists of unreserved characters and of triplets `%XX`. Decoding
puts a byte in place of every triplet and the UTF-8 bytes of any other character in place of the
character, so it distributes over encoded texts.

An encoded text holds none of the characters that separate the parts of a URL or of a form. A form
is therefore read back from its joined text: cut at every `&`, each piece cut at its first `=`,
and each half decoded.
-/

namespace Percent

open Text

/-! ### Encoded texts -/

/-- The value of a hexadecimal digit, in either case. -/
def hexValue (c : Char) : Option ℕ :=
  if c.isDigit then some (c.toNat - 48)
  else if 'A' ≤ c ∧ c ≤ 'F' then some (c.toNat - 55)
  else if 'a' ≤ c ∧ c ≤ 'f' then some (c.toNat - 87)
  else none

/-- The characters an encoding leaves alone. -/
def isUnreservedChar (c : Char) : Bool :=
  c.isAlphanum || c == '-' || c == '.' || c == '_' || c == '~'

/-- Texts of **unreserved characters and triplets**. -/
inductive Encoded : List Char → Prop
  | nil : Encoded []
  | plain {c : Char} {rest : List Char} (hc : isUnreservedChar c) (tail : Encoded rest) :
      Encoded (c :: rest)
  | triplet {a b : Char} {rest : List Char} (ha : (hexValue a).isSome) (hb : (hexValue b).isSome)
      (tail : Encoded rest) : Encoded ('%' :: a :: b :: rest)

theorem Encoded.append {l m : List Char} (hl : Encoded l) (hm : Encoded m) : Encoded (l ++ m) := by
  induction hl with
  | nil => exact hm
  | plain hc _ ih => exact .plain hc ih
  | triplet ha hb _ ih => exact .triplet ha hb ih

/-- Joining encoded texts gives an encoded text. -/
theorem Encoded.flatMap {α : Type} {l : List α} {f : α → List Char} (hf : ∀ a ∈ l, Encoded (f a)) :
    Encoded (l.flatMap f) := by
  induction l with
  | nil => exact .nil
  | cons a rest ih =>
    rw [List.flatMap_cons]
    exact (hf a (by simp)).append (ih fun b hb => hf b (by simp [hb]))

/-- The characters encoded texts consist of. -/
def isEncodedChar (c : Char) : Bool := c == '%' || isUnreservedChar c || (hexValue c).isSome

theorem Encoded.isEncodedChar_of_mem {l : List Char} {c : Char} (hl : Encoded l) (hc : c ∈ l) :
    isEncodedChar c := by
  induction hl with
  | nil => simp at hc
  | plain hplain _ ih =>
    rcases List.mem_cons.mp hc with rfl | hc
    · simp [isEncodedChar, hplain]
    · exact ih hc
  | triplet ha hb _ ih =>
    simp only [List.mem_cons] at hc
    rcases hc with rfl | rfl | rfl | hc
    · simp [isEncodedChar]
    · simp [isEncodedChar, ha]
    · simp [isEncodedChar, hb]
    · exact ih hc

/-- No other character occurs in an encoded text, such as one that separates the parts of a URL or
of a form. -/
theorem Encoded.notMem {l : List Char} {c : Char} (hl : Encoded l)
    (hc : isEncodedChar c = false) : c ∉ l := by
  intro hmem
  rw [hl.isEncodedChar_of_mem hmem] at hc
  cases hc

/-! ### Decoding -/

/-- Put a byte in place of every triplet and its UTF-8 bytes in place of any other character. -/
def decode : List Char → List UInt8
  | [] => []
  | '%' :: a :: b :: rest => match hexValue a, hexValue b with
    | some high, some low => UInt8.ofNat (16 * high + low) :: decode rest
    | _, _ => String.utf8EncodeChar '%' ++ decode (a :: b :: rest)
  | c :: rest => String.utf8EncodeChar c ++ decode rest

theorem decode_triplet {a b : Char} {high low : ℕ} {rest : List Char} (ha : hexValue a = some high)
    (hb : hexValue b = some low) :
    decode ('%' :: a :: b :: rest) = UInt8.ofNat (16 * high + low) :: decode rest := by
  simp [decode, ha, hb]

theorem decode_cons_of_ne {c : Char} {rest : List Char} (hc : c ≠ '%') :
    decode (c :: rest) = String.utf8EncodeChar c ++ decode rest := by
  rw [decode]
  intro a b rest' heq
  exact absurd heq hc

theorem ne_percent_of_isUnreservedChar {c : Char} (hc : isUnreservedChar c) : c ≠ '%' := by
  rintro rfl
  exact absurd hc (by decide)

/-- Decoding an encoded text does not look at what follows it. -/
theorem Encoded.decode_append {l m : List Char} (hl : Encoded l) :
    decode (l ++ m) = decode l ++ decode m := by
  induction hl with
  | nil => rfl
  | plain hc _ ih =>
    have hne := ne_percent_of_isUnreservedChar hc
    rw [List.cons_append, decode_cons_of_ne hne, decode_cons_of_ne hne, ih, List.append_assoc]
  | triplet ha hb _ ih =>
    obtain ⟨high, ha⟩ := Option.isSome_iff_exists.mp ha
    obtain ⟨low, hb⟩ := Option.isSome_iff_exists.mp hb
    rw [List.cons_append, List.cons_append, List.cons_append, decode_triplet ha hb,
      decode_triplet ha hb, ih, List.cons_append]

/-- Decoding a joined text is joining what its encoded parts decode to. -/
theorem decode_flatMap {α : Type} {l : List α} {f : α → List Char} (hf : ∀ a ∈ l, Encoded (f a)) :
    decode (l.flatMap f) = l.flatMap fun a => decode (f a) := by
  induction l with
  | nil => rfl
  | cons a rest ih =>
    have hhead : Encoded (f a) := hf a (by simp)
    rw [List.flatMap_cons, hhead.decode_append, ih fun b hb => hf b (by simp [hb]),
      List.flatMap_cons]

/-! ### Texts and forms -/

/-- The UTF-8 bytes of a text. -/
def utf8 (text : String) : List UInt8 := text.toByteArray.data.toList

theorem utf8_eq (text : String) : utf8 text = text.toList.flatMap String.utf8EncodeChar := by
  rw [utf8, ← String.utf8Encode_toList, List.utf8Encode]
  simp

/-- The text with the given UTF-8 bytes, if there is one. -/
def ofUtf8 (bytes : List UInt8) : Option String := String.fromUTF8? ⟨bytes.toArray⟩

theorem ofUtf8_utf8 (text : String) : ofUtf8 (utf8 text) = some text := by
  have hbytes : (⟨(utf8 text).toArray⟩ : ByteArray) = text.toByteArray := by simp [utf8]
  rw [ofUtf8, hbytes, String.fromUTF8?, dif_pos text.isValidUTF8]
  rfl

/-- Read an encoded text back. -/
def decodeText (chars : List Char) : Option String := ofUtf8 (decode chars)

theorem decodeText_eq_some_iff {chars : List Char} {text : String} :
    decodeText chars = some text ↔ decode chars = utf8 text := by
  constructor
  · intro h
    rw [decodeText, ofUtf8, String.fromUTF8?] at h
    split_ifs at h with hvalid
    obtain rfl := Option.some.inj h
    rfl
  · intro h
    rw [decodeText, h, ofUtf8_utf8]

/-- Read one `key=value` piece of a form back; a piece without `=` has an empty value. -/
def decodePair (piece : List Char) : Option (String × String) := do
  let (key, value) := (splitListOnce '=' piece).getD (piece, [])
  return (← decodeText key, ← decodeText value)

/-- Read a form back: the pieces between `&`, none for the empty text. -/
def decodeForm (text : String) : Option (List (String × String)) :=
  if text.toList = [] then some [] else (text.toList.splitOn '&').mapM decodePair

/-- The piece of a form that an encoder makes of a pair. -/
def encodePair (encode : String → String) (pair : String × String) : String :=
  encode pair.1 ++ "=" ++ encode pair.2

section Encoder

/-! An **encoder** makes of a text an encoded one that decodes to the bytes of the text. -/

variable {encode : String → String} (encoded : ∀ text, Encoded (encode text).toList)
  (decoded : ∀ text, decode (encode text).toList = utf8 text)

include decoded in
theorem decodeText_encode (text : String) : decodeText (encode text).toList = some text := by
  rw [decodeText, decoded, ofUtf8_utf8]

include encoded decoded in
/-- A piece of a form is read back as its pair. -/
theorem decodePair_encodePair (pair : String × String) :
    decodePair (encodePair encode pair).toList = some pair := by
  have hcut : splitListOnce '=' (encodePair encode pair).toList
      = some ((encode pair.1).toList, (encode pair.2).toList) := by
    rw [splitListOnce_eq_some_iff]
    exact ⟨(encoded pair.1).notMem (by decide), by simp [encodePair]⟩
  simp [decodePair, hcut, decodeText_encode decoded]

include encoded in
/-- No piece of a form holds the separator of pieces. -/
theorem notMem_encodePair (pair : String × String) : '&' ∉ (encodePair encode pair).toList := by
  have hkey : '&' ∉ (encode pair.1).toList := (encoded pair.1).notMem (by decide)
  have hvalue : '&' ∉ (encode pair.2).toList := (encoded pair.2).notMem (by decide)
  simp [encodePair, hkey, hvalue]

include encoded decoded in
/-- **Forms**: the joined pieces of a list of pairs are read back as exactly that list. -/
theorem decodeForm_intercalate (pairs : List (String × String)) :
    decodeForm ("&".intercalate (pairs.map (encodePair encode))) = some pairs := by
  rw [decodeForm, String.toList_intercalate, List.map_map]
  cases pairs with
  | nil => simp
  | cons first others =>
    have hsplit : ("&".toList.intercalate ((first :: others).map
          (String.toList ∘ encodePair encode))).splitOn '&'
        = (first :: others).map (String.toList ∘ encodePair encode) := by
      refine List.splitOn_intercalate '&' ?_ (by simp)
      intro piece hpiece
      obtain ⟨pair, -, rfl⟩ := List.mem_map.mp hpiece
      exact notMem_encodePair encoded pair
    have hne : "&".toList.intercalate ((first :: others).map
        (String.toList ∘ encodePair encode)) ≠ [] := by
      intro hnil
      rw [hnil, List.splitOn_nil] at hsplit
      have hhead := (List.cons.inj hsplit).1
      simp [encodePair] at hhead
    have hread : decodePair ∘ String.toList ∘ encodePair encode = pure := by
      funext pair
      exact decodePair_encodePair encoded decoded pair
    rw [if_neg hne, hsplit, List.mapM_map, hread, List.mapM_pure, List.map_id']
    rfl

end Encoder

end Percent
