import ThreatGraph.Url.HostName.Direction
import ThreatGraph.Url.HostName.Joining
import ThreatGraph.Url.HostName.Mapping
import ThreatGraph.Url.Punycode

/-!
# Host names

The name of a host: labels with dots between them. A name of any characters is written in ASCII, and
all spellings of a name are written the same. Each character is read as what it counts as, the name
is composed, and a label with characters outside ASCII is written in punycode behind `xn--`. A label
that comes in punycode has to stand for characters that a name may hold.

* `Label.read?` reads a label, `read?` a name.
-/

set_option autoImplicit false

namespace ThreatGraph.HostName

/-- The ASCII characters that no name holds: its letters count as small ones. -/
def isForbidden (c : Char) : Bool :=
  c.toNat ≤ 0x20 || c.toNat = 0x7f || c.isUpper || "%#/:<>?@[\\]^|".toList.contains c

/-- Whether a text is ASCII throughout. -/
def isAscii (cs : List Char) : Bool := cs.all (·.toNat < 0x80)

/-- A label: what is written for it, and its characters. -/
structure Label where
  written : List Char
  chars : List Char
  deriving DecidableEq, Repr, Inhabited

namespace Label

/-- What stands in front of punycode. -/
def mark : List Char := ['x', 'n', '-', '-']

/-- The greatest number of characters of a label with characters outside ASCII. -/
def greatestLength : Nat := 1000

/-- The greatest number of characters of punycode that is read. -/
def greatestCodeLength : Nat := 2000

/-- Whether a label with characters outside ASCII may stand in a name. -/
def isValid (chars : List Char) : Bool :=
  chars.length ≤ greatestLength && !isAscii chars && chars.all isKept && compose chars == chars
    && !beginsWithMark chars && joinersFit chars

/-- A label of ASCII characters, which may come in punycode. -/
def ofAscii? (cs : List Char) : Option Label := do
  match afterStart? mark cs with
  | none => some ⟨cs, cs⟩
  | some code =>
    if greatestCodeLength < code.length then none
    else
      let chars ← Punycode.decode? code
      if isValid chars then some ⟨cs, chars⟩ else none

/-- A label with other characters, which is written in punycode. It may not seem to be punycode
already, and what is written for it stands for it. -/
def ofOther? (cs : List Char) : Option Label :=
  if (afterStart? mark cs).isSome || !isValid cs then none
  else
    let code := Punycode.encode cs
    if Punycode.decode? code = some cs then some ⟨mark ++ code, cs⟩ else none

/-- A label of characters that each count as themselves. -/
def read? (cs : List Char) : Option Label := if isAscii cs then ofAscii? cs else ofOther? cs

end Label

/-- Whether the labels of a name are each written one way, if a character of one asks for it. -/
def areOneWay (labels : List Label) : Bool :=
  !labels.any (Direction.needsOneWay ·.chars) || labels.all (Direction.isOneWay ·.chars)

/-- The labels of a name. -/
def labels? (cs : List Char) : Option (List Label) := do
  let labels ← (splitOn '.' cs).mapM Label.read?
  if areOneWay labels then some labels else none

/-- What is written for a name. -/
def read? (cs : List Char) : Option (List Char) := do
  let name := compose (← mapText? cs)
  if name.any isForbidden then none
  else some (joinSep '.' ((← labels? name).map (·.written)))

end ThreatGraph.HostName
