import ThreatGraph.Text.Utf8

/-!
# Reading back the bytes of a text

A character has one to four bytes, and reading takes the same character from them, whatever bytes
follow (`decodeStep_utf8EncodeChar`).  So the bytes of a text are read as that text, both leniently
and strictly (`decodeLossy_utf8Bytes`, `decodeStrict?_utf8Bytes`).
-/

set_option autoImplicit false

namespace ThreatGraph

/-- The bytes of a text are those of its characters, one after the other. -/
theorem utf8Bytes_cons (c : Char) (cs : List Char) :
    utf8Bytes (c :: cs) = String.utf8EncodeChar c ++ utf8Bytes cs := rfl

/-- The value of a byte. -/
theorem toNat_byte {n : Nat} (h : n < 0x100) : (UInt8.ofNat n).toNat = n :=
  UInt8.toNat_ofNat_of_lt' h

/-! ## The bytes after the first

Every byte after the first carries six bits.  Which second bytes there may be depends on the first:
some would make a character that has a shorter form, a surrogate, or one beyond the last. -/

/-- A byte that continues a character carries six bits. -/
theorem continuationBits_tail (n : Nat) :
    continuationBits (UInt8.ofNat (n % 0x40 + 0x80)) = n % 0x40 := by
  rw [continuationBits, toNat_byte (by omega)]
  omega

/-- A byte with six bits and the mark of a continuation is one. -/
theorem isContinuation_tail (n : Nat) : isContinuation (UInt8.ofNat (n % 0x40 + 0x80)) = true := by
  have hn : (UInt8.ofNat (n % 0x40 + 0x80)).toNat = n % 0x40 + 0x80 := toNat_byte (by omega)
  simp only [isContinuation, Bool.and_eq_true, decide_eq_true_eq, UInt8.le_iff_toNat_le, hn,
    UInt8.reduceToNat]
  omega

/-- A second byte, where it does not make a character that takes fewer bytes, that is a surrogate or
that does not exist. -/
theorem isSecondByte_tail {b : UInt8} (n : Nat) (hshort3 : b.toNat = 0xe0 → 0x20 ≤ n % 0x40)
    (hsurrogate : b.toNat = 0xed → n % 0x40 < 0x20) (hshort4 : b.toNat = 0xf0 → 0x10 ≤ n % 0x40)
    (hgreat : b.toNat = 0xf4 → n % 0x40 < 0x10) :
    isSecondByte b (UInt8.ofNat (n % 0x40 + 0x80)) = true := by
  have hn : (UInt8.ofNat (n % 0x40 + 0x80)).toNat = n % 0x40 + 0x80 := toNat_byte (by omega)
  have htail := isContinuation_tail n
  rw [isContinuation] at htail
  rw [isSecondByte, isContinuation]
  simp only [Bool.and_eq_true, decide_eq_true_eq, UInt8.le_iff_toNat_le, ← UInt8.toNat_inj, hn,
    UInt8.reduceToNat] at htail ⊢
  repeat' split
  all_goals simp only [Bool.and_eq_true, decide_eq_true_eq]
  all_goals omega

/-! ## Characters

There is one equation for each number of bytes.  The character is then put together from its bits
again, and the bounds of its number say that its second byte is one that may be. -/

theorem decodeStep_of_one {b : UInt8} (h : b.toNat < 0x80) (rest : List UInt8) :
    decodeStep b rest = (some (Char.ofNat b.toNat), rest) :=
  if_pos (UInt8.lt_iff_toNat_lt.2 h)

theorem decodeStep_of_two {b b1 : UInt8} (h : 0xc2 ≤ b.toNat ∧ b.toNat ≤ 0xdf)
    (h1 : isContinuation b1 = true) (rest : List UInt8) :
    decodeStep b (b1 :: rest) =
      (some (Char.ofNat (b.toNat % 0x20 * 0x40 + continuationBits b1)), rest) := by
  unfold decodeStep
  simp only [UInt8.lt_iff_toNat_lt, UInt8.le_iff_toNat_le, UInt8.reduceToNat]
  rw [if_neg (by omega), if_pos (by simp [h]), if_pos h1]

theorem decodeStep_of_three {b b1 b2 : UInt8} (h : 0xe0 ≤ b.toNat ∧ b.toNat ≤ 0xef)
    (h1 : isSecondByte b b1 = true) (h2 : isContinuation b2 = true) (rest : List UInt8) :
    decodeStep b (b1 :: b2 :: rest) =
      (some (Char.ofNat ((b.toNat % 0x10 * 0x40 + continuationBits b1) * 0x40
        + continuationBits b2)), rest) := by
  unfold decodeStep
  simp only [UInt8.lt_iff_toNat_lt, UInt8.le_iff_toNat_le, UInt8.reduceToNat]
  rw [if_neg (by omega), if_neg (by simp; omega), if_pos (by simp [h]), if_pos h1, if_pos h2]

theorem decodeStep_of_four {b b1 b2 b3 : UInt8} (h : 0xf0 ≤ b.toNat ∧ b.toNat ≤ 0xf4)
    (h1 : isSecondByte b b1 = true) (h2 : isContinuation b2 = true) (h3 : isContinuation b3 = true)
    (rest : List UInt8) :
    decodeStep b (b1 :: b2 :: b3 :: rest) =
      (some (Char.ofNat (((b.toNat % 0x8 * 0x40 + continuationBits b1) * 0x40
        + continuationBits b2) * 0x40 + continuationBits b3)), rest) := by
  rw [decodeStep]
  simp only [UInt8.lt_iff_toNat_lt, UInt8.le_iff_toNat_le, UInt8.reduceToNat]
  rw [if_neg (by omega), if_neg (by simp; omega), if_neg (by simp; omega), if_pos (by simp [h]),
    if_pos h1, if_pos h2, if_pos h3]

/-- The code points that there are. -/
theorem toNat_valid (c : Char) : c.toNat < 0xd800 ∨ 0xdfff < c.toNat ∧ c.toNat < 0x110000 := c.valid

/-- The bytes of a character are read as that character. -/
theorem decodeStep_utf8EncodeChar (c : Char) (rest : List UInt8) :
    ∃ b bytes, String.utf8EncodeChar c ++ rest = b :: bytes ∧
      decodeStep b bytes = (some c, rest) := by
  have hvalid := toNat_valid c
  unfold String.utf8EncodeChar
  rw [show c.val.toNat = c.toNat from rfl]
  dsimp only
  split
  · next h1 =>
    have hb : (UInt8.ofNat c.toNat).toNat = c.toNat := toNat_byte (by omega)
    refine ⟨_, _, rfl, (decodeStep_of_one (by omega) rest).trans ?_⟩
    rw [hb, Char.ofNat_toNat]
  split
  · next h1 h2 =>
    have hb : (UInt8.ofNat (c.toNat / 64 % 32 + 192)).toNat = c.toNat / 64 % 32 + 192 :=
      toNat_byte (by omega)
    have hcode : (c.toNat / 64 % 32 + 192) % 32 * 64 + c.toNat % 64 = c.toNat := by omega
    refine ⟨_, _, rfl, (decodeStep_of_two (by omega) (isContinuation_tail _) rest).trans ?_⟩
    rw [hb, continuationBits_tail, hcode, Char.ofNat_toNat]
  split
  · next h1 h2 h3 =>
    have hb : (UInt8.ofNat (c.toNat / 4096 % 16 + 224)).toNat = c.toNat / 4096 % 16 + 224 :=
      toNat_byte (by omega)
    have hcode : ((c.toNat / 4096 % 16 + 224) % 16 * 64 + c.toNat / 64 % 64) * 64 + c.toNat % 64
        = c.toNat := by omega
    refine ⟨_, _, rfl, (decodeStep_of_three (by omega)
      (isSecondByte_tail _ (by omega) (by omega) (by omega) (by omega))
      (isContinuation_tail _) rest).trans ?_⟩
    rw [hb, continuationBits_tail, continuationBits_tail, hcode, Char.ofNat_toNat]
  · next h1 h2 h3 =>
    have hb : (UInt8.ofNat (c.toNat / 262144 % 8 + 240)).toNat = c.toNat / 262144 % 8 + 240 :=
      toNat_byte (by omega)
    have hcode : (((c.toNat / 262144 % 8 + 240) % 8 * 64 + c.toNat / 4096 % 64) * 64
        + c.toNat / 64 % 64) * 64 + c.toNat % 64 = c.toNat := by omega
    refine ⟨_, _, rfl, (decodeStep_of_four (by omega)
      (isSecondByte_tail _ (by omega) (by omega) (by omega) (by omega))
      (isContinuation_tail _) (isContinuation_tail _) rest).trans ?_⟩
    rw [hb, continuationBits_tail, continuationBits_tail, continuationBits_tail, hcode,
      Char.ofNat_toNat]

/-! ## Texts

Both inductions are on the text.  What is read of one character leaves the bytes of the others, so
nothing has to be known about the bytes as a whole. -/

/-- **Lenient reading.**  The bytes of a text are read as that text. -/
theorem decodeLossy_utf8Bytes (cs : List Char) : decodeLossy (utf8Bytes cs) = cs := by
  induction cs with
  | nil => simp [utf8Bytes, decodeLossy]
  | cons c cs ih =>
    obtain ⟨b, bytes, hbytes, hstep⟩ := decodeStep_utf8EncodeChar c (utf8Bytes cs)
    rw [utf8Bytes_cons, hbytes, decodeLossy, hstep, ih]
    rfl

/-- **Strict reading.**  The bytes of a text are read as that text. -/
theorem decodeStrict?_utf8Bytes (cs : List Char) : decodeStrict? (utf8Bytes cs) = some cs := by
  induction cs with
  | nil => simp [utf8Bytes, decodeStrict?]
  | cons c cs ih =>
    obtain ⟨b, bytes, hbytes, hstep⟩ := decodeStep_utf8EncodeChar c (utf8Bytes cs)
    rw [utf8Bytes_cons, hbytes, decodeStrict?, hstep, ih]
    rfl

end ThreatGraph
