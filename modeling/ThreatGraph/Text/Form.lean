import ThreatGraph.Text.Percent
import ThreatGraph.Text.Split

/-!
# Form encoding

Pairs of texts written as `application/x-www-form-urlencoded`: `key=value` joined by ampersands,
with a plus sign for a space, ASCII letters, digits and `*-._` as they are, and every other byte
percent-encoded. The same form serves for URL queries and for request bodies.

* `Form.encode` writes pairs, `Form.decode` reads any text as pairs.
* Reading takes a piece without an equals sign as a key with an empty value, skips empty pieces
  and reads bytes that are no text with replacement characters.
-/

set_option autoImplicit false

namespace ThreatGraph.Form

/-- The characters that a form writes as they are. -/
def isUnreserved (c : Char) : Bool :=
  ('a' ≤ c && c ≤ 'z') || ('A' ≤ c && c ≤ 'Z') || ('0' ≤ c && c ≤ '9')
    || c == '*' || c == '-' || c == '.' || c == '_'

/-- One character of a key or value in a form. -/
def encodeChar (c : Char) : List Char :=
  if c = ' ' then ['+']
  else if isUnreserved c then [c]
  else (String.utf8EncodeChar c).flatMap percentByte

/-- A key or a value in a form. -/
def encodeText (s : String) : List Char :=
  s.toList.flatMap encodeChar

/-- One pair of a form. -/
def encodePair (pair : String × String) : List Char :=
  encodeText pair.1 ++ '=' :: encodeText pair.2

/-- Pairs as a form. -/
def encode (pairs : List (String × String)) : List Char :=
  joinSep '&' (pairs.map encodePair)

/-- The text that a key or a value of a form stands for. -/
def decodeText (cs : List Char) : String :=
  String.ofList (decodeLossy (percentDecode (cs.map fun c => if c = '+' then ' ' else c)))

/-- One pair of a form, from the text between two ampersands. -/
def decodePair (piece : List Char) : String × String :=
  let (key, value) := splitFirst '=' piece
  (decodeText key, decodeText (value.getD []))

/-- The pairs of a form. -/
def decode (cs : List Char) : List (String × String) :=
  ((splitOn '&' cs).filter (· ≠ [])).map decodePair

end ThreatGraph.Form
