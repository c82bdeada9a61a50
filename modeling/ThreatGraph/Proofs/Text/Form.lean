import ThreatGraph.Proofs.Text.Split
import ThreatGraph.Proofs.Text.Utf8
import ThreatGraph.Text.Form

/-!
# Reading back escapes and forms

A percent sign and two digits are read as the byte they stand for, so an escaped text has the bytes
of the text (`percentDecode_percentBytes`).  Characters that stand for themselves are left as they
are (`percentEncode_of_plain`).

`Form.decode_encode` says that a form holds its pairs: every key and every value in order, whatever
characters are in them.
-/

set_option autoImplicit false

namespace ThreatGraph

/-! ## Escapes

What is escaped is the bytes of a text, so it is bytes that are read from escapes.  That they are
those of some text again is left to `Proofs.Text.Utf8`. -/

/-- A digit of base sixteen in upper case. -/
def isUpperHex (c : Char) : Bool := ('0' ≤ c && c ≤ '9') || ('A' ≤ c && c ≤ 'F')

theorem isUpperHex_hexDigitUpper {n : Nat} (h : n < 16) : isUpperHex (hexDigitUpper n) = true := by
  revert n
  decide

theorem hexValue?_hexDigitUpper {n : Nat} (h : n < 16) : hexValue? (hexDigitUpper n) = some n := by
  revert n
  decide

/-- A character of an escape is a percent sign or a digit. -/
theorem mem_percentByte {b : UInt8} {c : Char} (h : c ∈ percentByte b) :
    c = '%' ∨ isUpperHex c = true := by
  have hb := b.toNat_lt
  simp only [percentByte, List.mem_cons, List.not_mem_nil, or_false] at h
  rcases h with rfl | rfl | rfl
  · exact .inl rfl
  · exact .inr (isUpperHex_hexDigitUpper (by omega))
  · exact .inr (isUpperHex_hexDigitUpper (by omega))

/-- An escape is read as its byte, and reading goes on after it. -/
theorem percentDecode_percentByte (b : UInt8) (rest : List Char) :
    percentDecode (percentByte b ++ rest) = b :: percentDecode rest := by
  have hb := b.toNat_lt
  have hvalue : b.toNat / 16 * 16 + b.toNat % 16 = b.toNat := by omega
  change percentDecode
    ('%' :: hexDigitUpper (b.toNat / 16) :: hexDigitUpper (b.toNat % 16) :: rest) = _
  rw [percentDecode, hexValue?_hexDigitUpper (by omega), hexValue?_hexDigitUpper (by omega)]
  simp only [hvalue, UInt8.ofNat_toNat]

/-- Escaped bytes are read as the bytes. -/
theorem percentDecode_percentBytes (bytes : List UInt8) (rest : List Char) :
    percentDecode (bytes.flatMap percentByte ++ rest) = bytes ++ percentDecode rest := by
  induction bytes with
  | nil => rfl
  | cons b bytes ih =>
    rw [List.flatMap_cons, List.append_assoc, percentDecode_percentByte, ih, List.cons_append]

/-- A character other than a percent sign stands for its own bytes. -/
theorem percentDecode_cons {c : Char} (h : c ≠ '%') (rest : List Char) :
    percentDecode (c :: rest) = String.utf8EncodeChar c ++ percentDecode rest := by
  rw [percentDecode]
  intro _ _ _ hc
  exact absurd hc h

/-- A text without percent signs stands for its own bytes. -/
theorem percentDecode_of_not_mem {cs : List Char} (h : '%' ∉ cs) :
    percentDecode cs = utf8Bytes cs := by
  induction cs with
  | nil => simp [percentDecode, utf8Bytes]
  | cons c cs ih =>
    rw [List.mem_cons, not_or] at h
    rw [percentDecode_cons (Ne.symm h.1), ih h.2, utf8Bytes_cons]

/-- A character that stands as it is where some characters are escaped. -/
def isPlain (escapes : Char → Bool) (c : Char) : Bool := c.toNat < 0x80 && !escapes c

theorem percentEncode_cons (escapes : Char → Bool) (c : Char) (cs : List Char) :
    percentEncode escapes (c :: cs) =
      (if isPlain escapes c then [c] else (String.utf8EncodeChar c).flatMap percentByte)
        ++ percentEncode escapes cs := rfl

/-- A text of plain characters is left as it is. -/
theorem percentEncode_of_plain {escapes : Char → Bool} {cs : List Char}
    (h : ∀ c ∈ cs, isPlain escapes c = true) : percentEncode escapes cs = cs := by
  induction cs with
  | nil => rfl
  | cons c cs ih =>
    rw [percentEncode_cons, if_pos (h c List.mem_cons_self),
      ih fun d hd => h d (List.mem_cons_of_mem _ hd)]
    rfl

/-- A character of an escaped text is a plain one of the text or one of an escape. -/
theorem mem_percentEncode {escapes : Char → Bool} {cs : List Char} {c : Char}
    (h : c ∈ percentEncode escapes cs) :
    (c ∈ cs ∧ isPlain escapes c = true) ∨ c = '%' ∨ isUpperHex c = true := by
  obtain ⟨d, hd, hc⟩ := List.mem_flatMap.1 h
  split at hc
  · next hplain =>
    rw [List.mem_singleton] at hc
    subst hc
    exact .inl ⟨hd, hplain⟩
  · obtain ⟨b, _, hb⟩ := List.mem_flatMap.1 hc
    exact .inr (mem_percentByte hb)

/-- Escapes are read as what was escaped, if percent signs are escaped too. -/
theorem percentDecode_percentEncode {escapes : Char → Bool} (hpercent : isPlain escapes '%' = false)
    (cs : List Char) : percentDecode (percentEncode escapes cs) = utf8Bytes cs := by
  induction cs with
  | nil => simp [percentEncode, percentDecode, utf8Bytes]
  | cons c cs ih =>
    rw [percentEncode_cons, utf8Bytes_cons]
    split
    · next hplain =>
      have hne : c ≠ '%' := by
        rintro rfl
        exact absurd hplain (by simp [hpercent])
      rw [List.singleton_append, percentDecode_cons hne, ih]
    · rw [percentDecode_percentBytes, ih]

/-- Whether the characters of escapes are plain. -/
def KeepsEscapes (escapes : Char → Bool) : Prop :=
  ∀ c, c = '%' ∨ isUpperHex c = true → isPlain escapes c = true

/-- An escaped text has only plain characters. -/
theorem isPlain_of_mem_percentEncode {escapes : Char → Bool} (hkeeps : KeepsEscapes escapes)
    {cs : List Char} {c : Char} (h : c ∈ percentEncode escapes cs) : isPlain escapes c = true := by
  rcases mem_percentEncode h with ⟨_, hplain⟩ | hescape
  · exact hplain
  · exact hkeeps c hescape

namespace Form

/-! ## Forms

A form is written with a plus sign for a blank, and reading turns plus signs into blanks before it
reads the escapes.  The two steps do not get in each other's way, since a plus sign in a text is
escaped and no escape has a plus sign in it.

Ampersands and equals signs are escaped in keys and values, so a form can be cut at them. -/

/-- The characters of a form. -/
def isFormChar (c : Char) : Bool := isUnreserved c || c == '+' || c == '%'

theorem toNat_lt_of_isFormChar {c : Char} (h : isFormChar c = true) : c.toNat < 0x80 := by
  have hle : ∀ d : Char, d.toNat < 0x80 → c ≤ d → c.toNat < 0x80 := fun d hd hcd =>
    Nat.lt_of_le_of_lt (UInt32.le_iff_toNat_le.1 (Char.le_def.1 hcd)) hd
  simp only [isFormChar, isUnreserved, Bool.or_eq_true, Bool.and_eq_true, decide_eq_true_eq,
    beq_iff_eq] at h
  rcases h with (((((((h | h) | h) | rfl) | rfl) | rfl) | rfl) | rfl) | rfl
  · exact hle 'z' (by decide) h.2
  · exact hle 'Z' (by decide) h.2
  · exact hle '9' (by decide) h.2
  all_goals decide

theorem isUnreserved_of_isUpperHex {c : Char} (h : isUpperHex c = true) :
    isUnreserved c = true := by
  simp only [isUpperHex, isUnreserved, Bool.or_eq_true, Bool.and_eq_true, decide_eq_true_eq] at *
  have : ∀ {a b d : Char}, a ≤ b → b ≤ d → a ≤ d := fun h h' => Char.le_trans h h'
  rcases h with h | h
  · simp [h]
  · have := Char.le_trans h.2 (show 'F' ≤ 'Z' by decide)
    simp [h, this]

/-- A key or a value is written in the characters of a form. -/
theorem isFormChar_of_mem_encodeText {s : String} {c : Char} (h : c ∈ encodeText s) :
    isFormChar c = true := by
  obtain ⟨d, _, hc⟩ := List.mem_flatMap.1 h
  rw [encodeChar] at hc
  split at hc
  · simp [isFormChar, List.mem_singleton.1 hc]
  split at hc
  · next hd =>
    rw [List.mem_singleton] at hc
    simp [isFormChar, hc, hd]
  · obtain ⟨b, _, hb⟩ := List.mem_flatMap.1 hc
    rcases mem_percentByte hb with rfl | hhex
    · rfl
    · simp [isFormChar, isUnreserved_of_isUpperHex hhex]

/-- The characters that separate the parts of a form are in no key and no value. -/
theorem not_mem_encodeText (s : String) : '&' ∉ encodeText s ∧ '=' ∉ encodeText s :=
  ⟨fun h => absurd (isFormChar_of_mem_encodeText h) (by decide),
    fun h => absurd (isFormChar_of_mem_encodeText h) (by decide)⟩

/-- The character that a character of a form is read as before its escapes are. -/
def spaced (c : Char) : Char := if c = '+' then ' ' else c

theorem spaced_of_ne {c : Char} (h : c ≠ '+') : spaced c = c := if_neg h

/-- Escapes hold no plus sign. -/
theorem map_spaced_percentBytes (bytes : List UInt8) :
    (bytes.flatMap percentByte).map spaced = bytes.flatMap percentByte := by
  conv => rhs; rw [← List.map_id (bytes.flatMap percentByte)]
  refine List.map_congr_left fun c hc => ?_
  obtain ⟨b, _, hb⟩ := List.mem_flatMap.1 hc
  refine spaced_of_ne ?_
  rintro rfl
  rcases mem_percentByte hb with h | h <;> exact absurd h (by decide)

/-- A character of a key or a value is read as its bytes. -/
theorem percentDecode_encodeChar (c : Char) (rest : List Char) :
    percentDecode ((encodeChar c).map spaced ++ rest) =
      String.utf8EncodeChar c ++ percentDecode rest := by
  rw [encodeChar]
  split
  · next hspace =>
    subst hspace
    exact percentDecode_cons (by decide) rest
  split
  · next hplain =>
    have hplus : c ≠ '+' := by
      rintro rfl
      exact absurd hplain (by decide)
    have hpercent : c ≠ '%' := by
      rintro rfl
      exact absurd hplain (by decide)
    rw [List.map_singleton, spaced_of_ne hplus]
    exact percentDecode_cons hpercent rest
  · rw [map_spaced_percentBytes, percentDecode_percentBytes]

/-- A text is read as its bytes, character by character. -/
theorem percentDecode_encodeChars (cs : List Char) :
    percentDecode ((cs.flatMap encodeChar).map spaced) = utf8Bytes cs := by
  induction cs with
  | nil => simp [percentDecode, utf8Bytes]
  | cons c cs ih =>
    rw [List.flatMap_cons, List.map_append, percentDecode_encodeChar, ih, utf8Bytes_cons]

/-- A key or a value of a form is read as the text it was. -/
theorem decodeText_encodeText (s : String) : decodeText (encodeText s) = s := by
  change String.ofList (decodeLossy (percentDecode ((s.toList.flatMap encodeChar).map spaced))) = s
  rw [percentDecode_encodeChars, decodeLossy_utf8Bytes, String.ofList_toList]

/-- A pair is read again, since there is no equals sign in its key. -/
theorem decodePair_encodePair (pair : String × String) : decodePair (encodePair pair) = pair := by
  rw [decodePair, encodePair, splitFirst_append (not_mem_encodeText pair.1).2]
  simp only [Option.getD_some, decodeText_encodeText]

theorem not_mem_encodePair (pair : String × String) : '&' ∉ encodePair pair := by
  simp [encodePair, (not_mem_encodeText pair.1).1, (not_mem_encodeText pair.2).1]

/-- A form falls into the pieces that its pairs are written as. -/
theorem splitOn_encode {pairs : List (String × String)} (h : pairs ≠ []) :
    splitOn '&' (encode pairs) = pairs.map encodePair := by
  refine splitOn_joinSep (by simpa using h) fun piece hpiece => ?_
  obtain ⟨pair, _, rfl⟩ := List.mem_map.1 hpiece
  exact not_mem_encodePair pair

/-- **Reading a form.**  The pairs that a form was made of are read from it, in their order. -/
theorem decode_encode (pairs : List (String × String)) : decode (encode pairs) = pairs := by
  cases hpairs : pairs with
  | nil => rfl
  | cons pair rest =>
    rw [← hpairs]
    rw [decode, splitOn_encode (by simp [hpairs]), List.filter_eq_self.2, List.map_map]
    · conv => rhs; rw [← List.map_id pairs]
      exact List.map_congr_left fun pair _ => decodePair_encodePair pair
    · intro piece hpiece
      obtain ⟨pair, _, rfl⟩ := List.mem_map.1 hpiece
      simp [encodePair]

/-- Two forms with an ampersand between them are read one after the other. -/
theorem decode_append (xs ys : List Char) : decode (xs ++ '&' :: ys) = decode xs ++ decode ys := by
  rw [decode, splitOn_append_cons, List.filter_append, List.map_append]
  rfl

/-- A form is written in characters that stand for themselves in a query. -/
theorem mem_encode {pairs : List (String × String)} {c : Char} (h : c ∈ encode pairs) :
    isFormChar c = true ∨ c = '&' ∨ c = '=' := by
  rcases mem_joinSep h with rfl | ⟨piece, hpiece, hc⟩
  · exact .inr (.inl rfl)
  · obtain ⟨pair, _, rfl⟩ := List.mem_map.1 hpiece
    rw [encodePair, List.mem_append, List.mem_cons] at hc
    rcases hc with hc | hc | hc
    · exact .inl (isFormChar_of_mem_encodeText hc)
    · exact .inr (.inr hc)
    · exact .inl (isFormChar_of_mem_encodeText hc)

/-- Only a form of no pairs is empty. -/
theorem encode_eq_nil_iff {pairs : List (String × String)} : encode pairs = [] ↔ pairs = [] := by
  constructor
  · intro h
    rw [← decode_encode pairs, h]
    rfl
  · rintro rfl
    rfl

end Form

end ThreatGraph
