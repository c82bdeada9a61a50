/-!
# Characters in place

The text of a YAML stream as a list of characters that each know their place: how many characters
come before it, and its line and column. Line breaks are one character each, whatever they are in
the text: carriage return, line feed, both, or a next-line character all become a line feed.

* `place` puts the characters of a text in their places.
* `isAllowed` holds of the characters that a stream may contain.
-/

set_option autoImplicit false

namespace ThreatGraph.Yaml

/-- A character in its place. -/
structure Placed where
  char : Char
  index : Nat
  line : Nat
  column : Nat
  deriving DecidableEq, Repr, Inhabited

/-- Whether a character may stand in a stream. -/
def isAllowed (c : Char) : Bool :=
  c == '\t' || c == '\n' || c == '\r' || (' ' ≤ c && c ≤ '~') || c.toNat == 0x85
    || (0xa0 ≤ c.toNat && c.toNat ≤ 0xfffd) || 0x10000 ≤ c.toNat

/-- Whether a character in place is a line break. -/
def isBreak (c : Char) : Bool := c == '\n' || c.toNat == 0x2028 || c.toNat == 0x2029

/-- Whether a character is a space or a tab. -/
def isSpaceOrTab (c : Char) : Bool := c == ' ' || c == '\t'

/-- Whether a character is a space, a tab or a line break. -/
def isGap (c : Char) : Bool := isSpaceOrTab c || isBreak c

/-- The characters of a text in their places, the first of which is given. -/
def place (index line column : Nat) : List Char → List Placed
  | [] => []
  | '\r' :: '\n' :: rest => ⟨'\n', index, line, column⟩ :: place (index + 2) (line + 1) 0 rest
  | c :: rest =>
    if c = '\r' ∨ c.toNat = 0x85 then
      ⟨'\n', index, line, column⟩ :: place (index + 1) (line + 1) 0 rest
    else if isBreak c then ⟨c, index, line, column⟩ :: place (index + 1) (line + 1) 0 rest
    else ⟨c, index, line, column⟩ :: place (index + 1) line (column + 1) rest

/-- Whether a text is at its end or at a space, a tab or a line break. -/
def atGapOrEnd : List Placed → Bool
  | [] => true
  | p :: _ => isGap p.char

/-- Whether a text is at its end or at a line break. -/
def atBreakOrEnd : List Placed → Bool
  | [] => true
  | p :: _ => isBreak p.char

/-- Whether a text is at one of some characters. -/
def atOneOf (choices : List Char) : List Placed → Bool
  | [] => false
  | p :: _ => choices.contains p.char

/-- Whether a text is at three of a character at the start of a line and a gap after them. -/
def atThree (c : Char) : List Placed → Bool
  | p :: q :: r :: rest =>
    p.column == 0 && p.char == c && q.char == c && r.char == c && atGapOrEnd rest
  | _ => false

/-- Whether a text is at a line that begins or ends a document. -/
def atDocumentMark (cells : List Placed) : Bool := atThree '-' cells || atThree '.' cells

/-- The text after spaces and tabs. -/
def skipSpaces (cells : List Placed) : List Placed :=
  cells.dropWhile fun p => isSpaceOrTab p.char

/-- The text after the rest of a line. -/
def skipToBreak (cells : List Placed) : List Placed :=
  cells.dropWhile fun p => !isBreak p.char

/-- The text after a comment, if one stands here. -/
def skipComment (cells : List Placed) : List Placed :=
  if atOneOf ['#'] cells then skipToBreak cells else cells

/-- The text after blanks, a comment and a line break, where nothing else is on the line. -/
def endLine? (cells : List Placed) : Option (List Placed) :=
  match skipComment (skipSpaces cells) with
  | [] => some []
  | p :: rest => if isBreak p.char then some rest else none

end ThreatGraph.Yaml
