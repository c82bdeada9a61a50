/-!
# Bytes of a text

Texts are sent and received as UTF-8. Every text has its bytes (`utf8Bytes`); bytes that are no
text are still read as one (`decodeLossy`), with a replacement character for each maximal piece
that begins a character and does not complete it, or for a byte that begins none.

`decodeStrict?` reads bytes that are exactly the bytes of a text.
-/

set_option autoImplicit false

namespace ThreatGraph

/-- The bytes of a list of characters. -/
def utf8Bytes (cs : List Char) : List UInt8 :=
  cs.flatMap String.utf8EncodeChar

/-- The character that stands for bytes that are not text. -/
def replacementChar : Char := Char.ofNat 0xfffd

/-- Whether a byte continues a character. -/
def isContinuation (b : UInt8) : Bool := 0x80 ≤ b && b ≤ 0xbf

/-- The value bits of a continuation byte. -/
def continuationBits (b : UInt8) : Nat := b.toNat % 0x40

/-- Whether `b1` can be the second byte of a character whose first byte is `b0`. -/
def isSecondByte (b0 b1 : UInt8) : Bool :=
  if b0 = 0xe0 then 0xa0 ≤ b1 && b1 ≤ 0xbf
  else if b0 = 0xed then 0x80 ≤ b1 && b1 ≤ 0x9f
  else if b0 = 0xf0 then 0x90 ≤ b1 && b1 ≤ 0xbf
  else if b0 = 0xf4 then 0x80 ≤ b1 && b1 ≤ 0x8f
  else isContinuation b1

/-- The first character of a list of bytes, or `none` where the bytes begin no whole character,
with the bytes after it. -/
def decodeStep (b0 : UInt8) (rest : List UInt8) : Option Char × List UInt8 :=
  if b0 < 0x80 then (some (Char.ofNat b0.toNat), rest)
  else if 0xc2 ≤ b0 && b0 ≤ 0xdf then
    match rest with
    | b1 :: r1 =>
      if isContinuation b1 then
        (some (Char.ofNat (b0.toNat % 0x20 * 0x40 + continuationBits b1)), r1)
      else (none, rest)
    | [] => (none, rest)
  else if 0xe0 ≤ b0 && b0 ≤ 0xef then
    match rest with
    | b1 :: r1 =>
      if isSecondByte b0 b1 then
        match r1 with
        | b2 :: r2 =>
          if isContinuation b2 then
            (some (Char.ofNat ((b0.toNat % 0x10 * 0x40 + continuationBits b1) * 0x40
              + continuationBits b2)), r2)
          else (none, r1)
        | [] => (none, r1)
      else (none, rest)
    | [] => (none, rest)
  else if 0xf0 ≤ b0 && b0 ≤ 0xf4 then
    match rest with
    | b1 :: r1 =>
      if isSecondByte b0 b1 then
        match r1 with
        | b2 :: r2 =>
          if isContinuation b2 then
            match r2 with
            | b3 :: r3 =>
              if isContinuation b3 then
                (some (Char.ofNat (((b0.toNat % 0x8 * 0x40 + continuationBits b1) * 0x40
                  + continuationBits b2) * 0x40 + continuationBits b3)), r3)
              else (none, r2)
            | [] => (none, r2)
          else (none, r1)
        | [] => (none, r1)
      else (none, rest)
    | [] => (none, rest)
  else (none, rest)

/-- What remains after one character is no longer than what came after its first byte. -/
theorem decodeStep_length (b0 : UInt8) (rest : List UInt8) :
    (decodeStep b0 rest).2.length ≤ rest.length := by
  unfold decodeStep
  repeat' split
  all_goals simp only [List.length_cons]
  all_goals omega

/-- The text of any bytes, each piece that is no text read as the replacement character. -/
def decodeLossy : List UInt8 → List Char
  | [] => []
  | b :: rest =>
    (decodeStep b rest).1.getD replacementChar :: decodeLossy (decodeStep b rest).2
termination_by bytes => bytes.length
decreasing_by exact Nat.lt_succ_of_le (decodeStep_length b rest)

/-- The text of bytes that are a text throughout. -/
def decodeStrict? : List UInt8 → Option (List Char)
  | [] => some []
  | b :: rest => do
    let c ← (decodeStep b rest).1
    let cs ← decodeStrict? (decodeStep b rest).2
    pure (c :: cs)
termination_by bytes => bytes.length
decreasing_by exact Nat.lt_succ_of_le (decodeStep_length b rest)

end ThreatGraph
