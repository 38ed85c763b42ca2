import ProxmoxMcp.Percent

/-!
# The segments of a URL path

The path of a URL ends where its query or its fragment begins. It is cut at every slash, and each
**segment** is decoded (`readPath`).

A program that puts a text into a path without encoding it, or with only one character of it
**escaped**, relies on the text being **clean**: it holds none of the three characters that cut a
URL, and nothing that is already a triplet. Such a text is one segment that is read back as the
text, and no other text is (`readSegments_write_iff`).
-/

namespace Percent

open Text

/-! ### Triplets -/

/-- The UTF-8 bytes of a list of characters. -/
def bytes (l : List Char) : List UInt8 := l.flatMap String.utf8EncodeChar

@[simp] theorem bytes_nil : bytes [] = [] := rfl

theorem bytes_cons (c : Char) (l : List Char) :
    bytes (c :: l) = String.utf8EncodeChar c ++ bytes l := rfl

/-- The text **begins with a triplet**. -/
def TripletAt (l : List Char) : Prop :=
  ∃ a b rest, l = '%' :: a :: b :: rest ∧ (hexValue a).isSome ∧ (hexValue b).isSome

/-- There is a **triplet** in the text. -/
def HasTriplet (l : List Char) : Prop := ∃ x y, l = x ++ y ∧ TripletAt y

theorem hasTriplet_nil : ¬ HasTriplet [] := by
  rintro ⟨x, y, hl, a, b, rest, rfl, -⟩
  simp at hl

theorem hasTriplet_cons {c : Char} {l : List Char} :
    HasTriplet (c :: l) ↔ TripletAt (c :: l) ∨ HasTriplet l := by
  constructor
  · rintro ⟨x, y, hl, hy⟩
    cases x with
    | nil => exact .inl (by simpa [hl] using hy)
    | cons d x => exact .inr ⟨x, y, (List.cons.inj hl).2, hy⟩
  · rintro (hat | ⟨x, y, rfl, hy⟩)
    · exact ⟨[], c :: l, rfl, hat⟩
    · exact ⟨c :: x, y, rfl, hy⟩

/-- A part of a text without triplets has none. -/
theorem HasTriplet.of_isInfix {l m : List Char} (hl : HasTriplet l) (h : l <:+: m) :
    HasTriplet m := by
  obtain ⟨front, back, rfl⟩ := h
  obtain ⟨x, y, rfl, a, b, rest, rfl, ha, hb⟩ := hl
  exact ⟨front ++ x, '%' :: a :: b :: (rest ++ back), by simp, a, b, _, rfl, ha, hb⟩

/-- A character that begins no triplet decodes to its bytes. -/
theorem decode_cons {c : Char} {l : List Char} (h : ¬ TripletAt (c :: l)) :
    decode (c :: l) = String.utf8EncodeChar c ++ decode l := by
  by_cases hc : c = '%'
  · subst hc
    match l with
    | [] => rfl
    | [a] => rfl
    | a :: b :: rest =>
      rw [decode]
      split
      · next high low ha hb => exact absurd ⟨a, b, rest, rfl, by simp [ha], by simp [hb]⟩ h
      · rfl
  · exact decode_cons_of_ne hc

/-- Every text is empty, begins with a triplet, or begins with a character that begins none. -/
theorem tripletInduction {motive : List Char → Prop} (nil : motive [])
    (triplet : ∀ a b rest high low, hexValue a = some high → hexValue b = some low →
      motive rest → motive ('%' :: a :: b :: rest))
    (char : ∀ c rest, ¬ TripletAt (c :: rest) → motive rest → motive (c :: rest))
    (l : List Char) : motive l := by
  induction l using decode.induct with
  | case1 => exact nil
  | case2 a b rest high low hb ha ih => exact triplet a b rest high low ha hb ih
  | case3 a b rest hdigits ih =>
    refine char _ _ ?_ ih
    rintro ⟨a', b', rest', heq, ha, hb⟩
    obtain ⟨rfl, rfl, rfl⟩ : a = a' ∧ b = b' ∧ rest = rest' := by simpa using heq
    obtain ⟨high, ha⟩ := Option.isSome_iff_exists.mp ha
    obtain ⟨low, hb⟩ := Option.isSome_iff_exists.mp hb
    exact hdigits high low ha hb
  | case4 c rest hshort ih =>
    refine char _ _ ?_ ih
    rintro ⟨a, b, rest', heq, -⟩
    obtain ⟨rfl, rfl⟩ := List.cons.inj heq
    exact hshort a b rest' rfl rfl

/-- A text without triplets decodes to its bytes. -/
theorem decode_eq_bytes {l : List Char} (h : ¬ HasTriplet l) : decode l = bytes l := by
  induction l using tripletInduction with
  | nil => rfl
  | triplet a b rest high low ha hb ih =>
    exact absurd (hasTriplet_cons.mpr (.inl ⟨a, b, rest, rfl, by simp [ha], by simp [hb]⟩)) h
  | char c rest hc ih =>
    rw [hasTriplet_cons, not_or] at h
    rw [decode_cons hc, bytes_cons, ih h.2]

/-- Three characters of a triplet have three bytes, and decode to one. -/
theorem length_bytes_triplet {a b : Char} {rest : List Char} :
    (bytes rest).length + 3 ≤ (bytes ('%' :: a :: b :: rest)).length := by
  have ha := a.utf8Size_pos
  have hb := b.utf8Size_pos
  have hpercent := Char.utf8Size_pos '%'
  simp only [bytes_cons, List.length_append, String.length_utf8EncodeChar]
  omega

theorem length_decode_le (l : List Char) : (decode l).length ≤ (bytes l).length := by
  induction l using tripletInduction with
  | nil => rfl
  | triplet a b rest high low ha hb ih =>
    have hthree := @length_bytes_triplet a b rest
    rw [decode_triplet ha hb, List.length_cons]
    omega
  | char c rest hc ih =>
    rw [decode_cons hc, bytes_cons, List.length_append, List.length_append]
    omega

/-- A triplet makes the decoded text **shorter**. -/
theorem length_decode_lt {l : List Char} (h : HasTriplet l) :
    (decode l).length < (bytes l).length := by
  induction l using tripletInduction with
  | nil => exact absurd h hasTriplet_nil
  | triplet a b rest high low ha hb ih =>
    have hthree := @length_bytes_triplet a b rest
    have hrest := length_decode_le rest
    rw [decode_triplet ha hb, List.length_cons]
    omega
  | char c rest hc ih =>
    have hrest := ih ((hasTriplet_cons.mp h).resolve_left hc)
    rw [decode_cons hc, bytes_cons, List.length_append, List.length_append]
    omega

theorem decode_eq_bytes_iff {l : List Char} : decode l = bytes l ↔ ¬ HasTriplet l := by
  refine ⟨fun heq h => ?_, decode_eq_bytes⟩
  have hlt := length_decode_lt h
  rw [heq] at hlt
  exact lt_irrefl _ hlt

instance : DecidablePred HasTriplet := fun l =>
  decidable_of_iff (¬ decode l = bytes l) (by rw [decode_eq_bytes_iff, not_not])

/-! ### Segments -/

/-- The characters that may stand in a segment; the others cut a URL. -/
def isSegmentChar (c : Char) : Bool := c != '/' && c != '?' && c != '#'

/-- The segments of a path: what stands before the query and the fragment, cut at every slash. -/
def segments (l : List Char) : List (List Char) :=
  (l.takeWhile fun c => c != '?' && c != '#').splitOn '/'

/-- The first segment ends at the first character that is none of a segment. -/
theorem segments_eq (l : List Char) :
    ∃ others, segments l = l.takeWhile isSegmentChar :: others := by
  induction l with
  | nil => exact ⟨[], rfl⟩
  | cons c l ih =>
    obtain ⟨others, hothers⟩ := ih
    by_cases hend : (c != '?' && c != '#') = true
    · rw [segments, List.takeWhile_cons, if_pos hend, List.splitOn_cons_eq_if_modifyHead]
      by_cases hslash : c = '/'
      · subst hslash
        exact ⟨_, rfl⟩
      · rw [if_neg (by simpa using hslash), show (List.takeWhile _ l).splitOn '/' = _ from hothers]
        have hchar : isSegmentChar c = true := by simp_all [isSegmentChar]
        rw [List.takeWhile_cons, if_pos hchar]
        exact ⟨others, rfl⟩
    · have hchar : ¬ isSegmentChar c = true := by
        simp only [isSegmentChar, Bool.and_assoc, Bool.and_eq_true] at hend ⊢
        exact fun h => hend h.2
      rw [segments, List.takeWhile_cons, if_neg hend, List.takeWhile_cons, if_neg hchar]
      exact ⟨[], rfl⟩

/-- Characters of a segment do not end the path. -/
theorem ne_end_of_isSegmentChar {c : Char} (h : isSegmentChar c) :
    (c != '?' && c != '#') = true := by
  simp only [isSegmentChar, Bool.and_assoc, Bool.and_eq_true] at h ⊢
  exact h.2

/-- Characters of a segment are a segment. -/
theorem segments_eq_singleton {l : List Char} (h : ∀ c ∈ l, isSegmentChar c) :
    segments l = [l] := by
  rw [segments, List.takeWhile_eq_self_iff.mpr fun c hc => ne_end_of_isSegmentChar (h c hc)]
  exact List.splitOn_eq_singleton fun hmem => absurd (h _ hmem) (by decide)

/-- Characters of a segment in front of a slash are a segment. -/
theorem segments_append_slash {x y : List Char} (h : ∀ c ∈ x, isSegmentChar c) :
    segments (x ++ '/' :: y) = x :: segments y := by
  have hpath : ∀ c ∈ x, (c != '?' && c != '#') = true :=
    fun c hc => ne_end_of_isSegmentChar (h c hc)
  have hslash : '/' ∉ x := fun hmem => absurd (h _ hmem) (by decide)
  rw [segments, List.takeWhile_append_of_pos hpath, List.takeWhile_cons, if_pos (by decide),
    List.splitOn_append_cons_self_of_not_mem hslash]
  rfl

/-- The segments of a path, decoded. -/
def readSegments (l : List Char) : Option (List String) := (segments l).mapM decodeText

/-- The segments of the path of a URL, decoded. -/
def readPath (path : String) : Option (List String) := readSegments path.toList

/-- A text that is **one segment as it stands**. -/
structure Clean (text : String) : Prop where
  chars : ∀ c ∈ text.toList, isSegmentChar c
  noTriplet : ¬ HasTriplet text.toList

theorem clean_iff {text : String} :
    Clean text ↔ (∀ c ∈ text.toList, isSegmentChar c) ∧ ¬ HasTriplet text.toList :=
  ⟨fun h => ⟨h.chars, h.noTriplet⟩, fun h => ⟨h.1, h.2⟩⟩

instance : DecidablePred Clean := fun text =>
  decidable_of_iff (text.toList.all isSegmentChar = true ∧ ¬ HasTriplet text.toList)
    (by rw [clean_iff, List.all_eq_true])

/-- A part of a clean text is clean. -/
theorem Clean.of_isInfix {text part : String} (h : Clean text)
    (hpart : part.toList <:+: text.toList) : Clean part :=
  ⟨fun c hc => h.chars c (hpart.subset hc), fun htriplet => h.noTriplet (htriplet.of_isInfix hpart)⟩

/-- A path without query and fragment is read in front of what is put behind it. -/
theorem readSegments_append_slash {x y : List Char} {front back : List String} (hquery : '?' ∉ x)
    (hfragment : '#' ∉ x) (hx : readSegments x = some front) (hy : readSegments y = some back) :
    readSegments (x ++ '/' :: y) = some (front ++ back) := by
  have hpath : ∀ c ∈ x, (c != '?' && c != '#') = true := by
    intro c hc
    rw [Bool.and_eq_true, bne_iff_ne, bne_iff_ne]
    exact ⟨fun heq => hquery (heq ▸ hc), fun heq => hfragment (heq ▸ hc)⟩
  have hsegments : segments (x ++ '/' :: y) = segments x ++ segments y := by
    rw [segments, List.takeWhile_append_of_pos hpath, List.takeWhile_cons, if_pos (by decide),
      List.splitOn_append_cons_self, segments, List.takeWhile_eq_self_iff.mpr hpath]
    rfl
  rw [readSegments] at hx hy
  rw [readSegments, hsegments, List.mapM_append, hx, hy]
  rfl

/-- A clean text is read as itself. -/
theorem Clean.readSegments {text : String} (h : Clean text) :
    readSegments text.toList = some [text] := by
  have htext : decodeText text.toList = some text :=
    decodeText_eq_some_iff.mpr ((decode_eq_bytes h.noTriplet).trans (utf8_eq text).symm)
  rw [Percent.readSegments, segments_eq_singleton h.chars, List.mapM_cons, htext]
  rfl

/-- An encoded text is one segment. -/
theorem Encoded.readSegments {l : List Char} {text : String} (h : Encoded l)
    (htext : decodeText l = some text) : readSegments l = some [text] := by
  have hchars : ∀ c ∈ l, isSegmentChar c := by
    intro c hc
    by_contra hchar
    simp only [isSegmentChar, Bool.and_eq_true, bne_iff_ne, not_and_or, not_not] at hchar
    rcases hchar with (rfl | rfl) | rfl
    all_goals exact h.notMem (by decide) hc
  rw [Percent.readSegments, segments_eq_singleton hchars, List.mapM_cons, htext]
  rfl

theorem Clean.notMem {text : String} (h : Clean text) {c : Char} (hc : isSegmentChar c = false) :
    c ∉ text.toList := by
  intro hmem
  rw [h.chars c hmem] at hc
  cases hc

/-- Joining by slashes brings no other character that cuts a URL. -/
theorem notMem_intercalate_of_clean {texts : List String} {c : Char}
    (hclean : ∀ text ∈ texts, Clean text) (hc : isSegmentChar c = false) (hslash : c ≠ '/') :
    c ∉ ("/".intercalate texts).toList :=
  notMem_intercalate (fun text htext => (hclean text htext).notMem hc) (by simpa using hslash)

/-- Clean texts joined by slashes are read back as their list. -/
theorem readPath_intercalate {texts : List String} (hne : texts ≠ [])
    (hclean : ∀ text ∈ texts, Clean text) : readPath ("/".intercalate texts) = some texts := by
  rw [readPath, String.toList_intercalate]
  induction texts with
  | nil => exact absurd rfl hne
  | cons text texts ih =>
    obtain ⟨htext, hrest⟩ := List.forall_mem_cons.mp hclean
    cases texts with
    | nil => simpa using htext.readSegments
    | cons next others =>
      replace ih := ih (List.cons_ne_nil _ _) hrest
      rw [List.map_cons, List.map_cons, List.intercalate_cons_cons, ← List.map_cons,
        List.append_assoc]
      exact readSegments_append_slash (htext.notMem (by decide)) (htext.notMem (by decide))
        htext.readSegments ih

/-- The first segment of a path with a slash in it is cut from what stands in front. -/
theorem takeWhile_append_slash (x y : List Char) :
    (x ++ '/' :: y).takeWhile isSegmentChar = x.takeWhile isSegmentChar := by
  have hslash : ('/' :: y).takeWhile isSegmentChar = [] := by
    rw [List.takeWhile_cons, if_neg (by decide)]
  rw [List.takeWhile_append, hslash, List.append_nil]
  split_ifs with hlength
  · exact ((List.takeWhile_prefix _).eq_of_length hlength).symm
  · rfl

/-- Only all of a text has as many bytes as the text. -/
theorem all_of_length_bytes_takeWhile {p : Char → Bool} {l : List Char}
    (h : (bytes l).length ≤ (bytes (l.takeWhile p)).length) : ∀ c ∈ l, p c := by
  induction l with
  | nil => simp
  | cons c l ih =>
    have hpos := c.utf8Size_pos
    rw [List.takeWhile_cons] at h
    split_ifs at h with hc
    · simp only [bytes_cons, List.length_append] at h
      exact List.forall_mem_cons.mpr ⟨hc, ih (by omega)⟩
    · simp only [bytes_nil, bytes_cons, List.length_append, String.length_utf8EncodeChar,
        List.length_nil] at h
      omega

/-! ### Escapes -/

/-- A character of segments with the **triplet** that is written in its place. -/
structure Escape where
  char : Char
  high : Char
  low : Char
  ne_percent : char ≠ '%'
  hexValue_char : hexValue char = none
  isSegmentChar_char : isSegmentChar char
  isSome_high : (hexValue high).isSome
  isSome_low : (hexValue low).isSome
  decode_written : decode ['%', high, low] = String.utf8EncodeChar char

theorem isSegmentChar_of_isSome {c : Char} (h : (hexValue c).isSome) : isSegmentChar c := by
  have hcut : ∀ d ∈ ['/', '?', '#'], hexValue d = none := by
    rw [List.forall_mem_cons, List.forall_mem_cons, List.forall_mem_singleton]
    decide
  by_contra hc
  have hmem : c ∈ ['/', '?', '#'] := by
    simp only [isSegmentChar, Bool.and_eq_true, bne_iff_ne, not_and_or, not_not] at hc
    simpa [or_assoc] using hc
  rw [hcut c hmem] at h
  cases h

namespace Escape

variable {escape : Escape}

/-- What is written for a character. -/
def writeChar (escape : Escape) (c : Char) : List Char :=
  if c = escape.char then ['%', escape.high, escape.low] else [c]

/-- The text with the character **escaped**, and nothing else. -/
def write (escape : Escape) (l : List Char) : List Char := l.flatMap escape.writeChar

@[simp] theorem write_nil : escape.write [] = [] := rfl

theorem write_cons (c : Char) (l : List Char) :
    escape.write (c :: l) = escape.writeChar c ++ escape.write l := rfl

theorem write_cons_of_ne {c : Char} (h : c ≠ escape.char) (l : List Char) :
    escape.write (c :: l) = c :: escape.write l := by
  rw [write_cons, writeChar, if_neg h]
  rfl

theorem write_cons_self (l : List Char) :
    escape.write (escape.char :: l) = ['%', escape.high, escape.low] ++ escape.write l := by
  rw [write_cons, writeChar, if_pos rfl]

/-- A text without the character is written as it stands. -/
theorem write_of_notMem {l : List Char} (h : escape.char ∉ l) : escape.write l = l := by
  induction l with
  | nil => rfl
  | cons c l ih =>
    rw [List.mem_cons, not_or] at h
    rw [write_cons_of_ne (Ne.symm h.1), ih h.2]

theorem ne_char_of_isSome {c : Char} (h : (hexValue c).isSome) : c ≠ escape.char := by
  rintro rfl
  rw [escape.hexValue_char] at h
  cases h

/-- A digit that is written first stood first. -/
theorem exists_cons_of_write {a : Char} {l rest : List Char} (ha : (hexValue a).isSome)
    (h : escape.write l = a :: rest) : ∃ l', l = a :: l' ∧ escape.write l' = rest := by
  cases l with
  | nil => simp at h
  | cons c l =>
    by_cases hc : c = escape.char
    · subst hc
      rw [write_cons_self] at h
      obtain rfl := (List.cons.inj h).1
      exact absurd ha (by decide)
    · rw [write_cons_of_ne hc] at h
      obtain ⟨rfl, hrest⟩ := List.cons.inj h
      exact ⟨l, rfl, hrest⟩

/-- Escaping behind a character makes no triplet with it. -/
theorem tripletAt_of_write {c : Char} {l : List Char} (h : TripletAt (c :: escape.write l)) :
    TripletAt (c :: l) := by
  obtain ⟨a, b, rest, heq, ha, hb⟩ := h
  obtain ⟨rfl, hwrite⟩ := List.cons.inj heq
  obtain ⟨l', rfl, hwrite'⟩ := exists_cons_of_write ha hwrite
  obtain ⟨l, rfl, -⟩ := exists_cons_of_write hb hwrite'
  exact ⟨a, b, l, rfl, ha, hb⟩

/-- Escaping does **not change what a text decodes to**. -/
theorem decode_write (l : List Char) : decode (escape.write l) = decode l := by
  induction l using tripletInduction with
  | nil => rfl
  | triplet a b rest high low ha hb ih =>
    have hne {c : Char} {value : ℕ} (hc : hexValue c = some value) : c ≠ escape.char :=
      ne_char_of_isSome (by simp [hc])
    rw [write_cons_of_ne escape.ne_percent.symm, write_cons_of_ne (hne ha),
      write_cons_of_ne (hne hb), decode_triplet ha hb, decode_triplet ha hb, ih]
  | char c rest hc ih =>
    rw [decode_cons hc]
    by_cases hchar : c = escape.char
    · subst hchar
      have htriplet : Encoded ['%', escape.high, escape.low] :=
        .triplet escape.isSome_high escape.isSome_low .nil
      rw [write_cons_self, htriplet.decode_append, escape.decode_written, ih]
    · rw [write_cons_of_ne hchar, decode_cons fun hat => hc (tripletAt_of_write hat), ih]

theorem isSegmentChar_of_mem_writeChar {c d : Char} (hc : isSegmentChar c)
    (hd : d ∈ escape.writeChar c) : isSegmentChar d := by
  rw [writeChar] at hd
  split_ifs at hd
  · simp only [List.mem_cons, List.not_mem_nil, or_false] at hd
    rcases hd with rfl | rfl | rfl
    · decide
    · exact isSegmentChar_of_isSome escape.isSome_high
    · exact isSegmentChar_of_isSome escape.isSome_low
  · rwa [List.mem_singleton.mp hd]

/-- Escaping keeps the end of the first segment. -/
theorem takeWhile_write (l : List Char) :
    (escape.write l).takeWhile isSegmentChar = escape.write (l.takeWhile isSegmentChar) := by
  induction l with
  | nil => rfl
  | cons c l ih =>
    by_cases hc : isSegmentChar c = true
    · rw [write_cons, List.takeWhile_append_of_pos fun d => isSegmentChar_of_mem_writeChar hc, ih,
        List.takeWhile_cons, if_pos hc, write_cons]
    · have hne : c ≠ escape.char := by
        rintro rfl
        exact hc escape.isSegmentChar_char
      rw [write_cons_of_ne hne, List.takeWhile_cons, if_neg hc, List.takeWhile_cons, if_neg hc,
        write_nil]

/-- Escaping is cutting at the character and joining with the triplet. -/
theorem intercalate_splitOn (l : List Char) :
    ['%', escape.high, escape.low].intercalate (l.splitOn escape.char) = escape.write l := by
  induction l with
  | nil => simp
  | cons c l ih =>
    obtain ⟨first, others, hcut⟩ :=
      List.exists_cons_of_ne_nil (List.splitOn_ne_nil escape.char l)
    rw [List.splitOn_cons_eq_if_modifyHead]
    by_cases hc : c = escape.char
    · subst hc
      rw [if_pos (beq_self_eq_true _), write_cons_self, ← ih, hcut]
      simp
    · rw [if_neg (by simpa using hc), write_cons_of_ne hc, ← ih, hcut, List.modifyHead_cons]
      cases others <;> simp

/-- **The clean texts** are the ones that are one segment of a path and read back as themselves. -/
theorem readSegments_write_iff {text : String} {others : List String} {y : List Char} :
    readSegments (escape.write text.toList ++ '/' :: y) = some (text :: others) ↔
      Clean text ∧ readSegments y = some others := by
  have hclean (h : ∀ c ∈ text.toList, isSegmentChar c) :
      readSegments (escape.write text.toList ++ '/' :: y) = some (text :: others) ↔
        decodeText (escape.write text.toList) = some text ∧ readSegments y = some others := by
    have hwritten : ∀ c ∈ escape.write text.toList, isSegmentChar c := by
      intro c hc
      obtain ⟨d, hd, hcd⟩ := List.mem_flatMap.mp hc
      exact isSegmentChar_of_mem_writeChar (h d hd) hcd
    rw [readSegments, segments_append_slash hwritten, List.mapM_cons]
    simp [Option.bind_eq_some_iff, readSegments]
  have hread : decodeText (escape.write text.toList) = some text ↔ ¬ HasTriplet text.toList := by
    rw [decodeText_eq_some_iff, decode_write, utf8_eq]
    exact decode_eq_bytes_iff
  constructor
  · intro hpath
    -- the first segment of the path is no longer than the text, and decoding makes nothing longer
    have hchars : ∀ c ∈ text.toList, isSegmentChar c := by
      obtain ⟨others', hfirst⟩ := segments_eq (escape.write text.toList ++ '/' :: y)
      rw [takeWhile_append_slash, takeWhile_write] at hfirst
      rw [readSegments, hfirst, List.mapM_cons] at hpath
      simp only [Option.bind_eq_bind, Option.bind_eq_some_iff, Option.pure_def, Option.some.injEq,
        List.cons.injEq] at hpath
      obtain ⟨text', htext, others'', -, rfl, -⟩ := hpath
      rw [decodeText_eq_some_iff, decode_write, utf8_eq] at htext
      refine all_of_length_bytes_takeWhile (le_trans ?_ (length_decode_le _))
      rw [htext]
      rfl
    obtain ⟨htext, hothers⟩ := (hclean hchars).mp hpath
    exact ⟨⟨hchars, hread.mp htext⟩, hothers⟩
  · rintro ⟨hclean', hothers⟩
    exact (hclean hclean'.chars).mpr ⟨hread.mpr hclean'.noTriplet, hothers⟩

end Escape

end Percent
