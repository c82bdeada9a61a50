import ThreatGraph.Text.Numeral
import ThreatGraph.Text.Utf8

/-!
# Percent encoding

A byte written as a percent sign and two upper-case digits of base sixteen. Which ASCII characters
are written that way depends on the place in a URL and is a parameter; other characters always are,
byte by byte. Decoding accepts digits of either case and leaves a percent sign alone that no two
digits follow.
-/

set_option autoImplicit false

namespace ThreatGraph

/-- A byte as a percent sign and two digits. -/
def percentByte (b : UInt8) : List Char :=
  ['%', hexDigitUpper (b.toNat / 16), hexDigitUpper (b.toNat % 16)]

/-- A text with the bytes of all non-ASCII characters, and of those that `escapes` picks, written
as percent signs and digits. -/
def percentEncode (escapes : Char → Bool) (cs : List Char) : List Char :=
  cs.flatMap fun c =>
    if c.toNat < 0x80 && !escapes c then [c] else (String.utf8EncodeChar c).flatMap percentByte

/-- The bytes that a percent-encoded text stands for. -/
def percentDecode : List Char → List UInt8
  | [] => []
  | '%' :: h :: l :: rest =>
    match hexValue? h, hexValue? l with
    | some a, some b => UInt8.ofNat (a * 16 + b) :: percentDecode rest
    | _, _ => 0x25 :: percentDecode (h :: l :: rest)
  | c :: rest => String.utf8EncodeChar c ++ percentDecode rest

end ThreatGraph
