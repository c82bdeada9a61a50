import ThreatGraph.Text.Numeral
import ThreatGraph.Text.Utf8
import ThreatGraph.Yaml.Placed
import ThreatGraph.Yaml.Token

/-!
# Reading tags, anchors and directives

The lexemes that name things: anchors and aliases, tags in their three forms, and the two
directives. A tag is a sequence of bytes, since a percent sign and two digits may stand for any.

Each reader takes a lexeme from the front of a text and gives the text that follows.
-/

set_option autoImplicit false

namespace ThreatGraph.Yaml

/-- Whether a character may stand in a name. -/
def isNameChar (c : Char) : Bool := c.isAlphanum || c == '_' || c == '-'

/-- Reads a name, which may be empty. -/
def readName (cells : List Placed) : String × List Placed :=
  (String.ofList ((cells.takeWhile fun p => isNameChar p.char).map Placed.char),
    cells.dropWhile fun p => isNameChar p.char)

/-- Reads the name of an anchor or alias. -/
def readAnchor (cells : List Placed) : Option (String × List Placed) :=
  let (name, rest) := readName cells
  if name ≠ "" ∧ (atGapOrEnd rest ∨ atOneOf "?:,]\x7d%@\x60".toList rest) then some (name, rest)
  else none

/-! ## Tags -/

/-- The characters of a tag besides letters and digits. -/
def isTagChar (wide : Bool) (c : Char) : Bool :=
  isNameChar c || ";/?:@&=+$.!~*'()".toList.contains c || (wide && ",[]".toList.contains c)

/-- The number of bytes of a character that begins with a byte. -/
def characterWidth? (b : Nat) : Option Nat :=
  if b < 0x80 then some 1
  else if 0xc0 ≤ b ∧ b < 0xe0 then some 2
  else if 0xe0 ≤ b ∧ b < 0xf0 then some 3
  else if 0xf0 ≤ b ∧ b < 0xf8 then some 4
  else none

/-- Reads the text of a tag. In `pending` bytes of the present character have yet to follow. -/
def readTagText (wide : Bool) (pending : Nat) : List Placed → Option (List UInt8 × List Placed)
  | p :: h :: l :: rest =>
    if p.char = '%' then
      match hexValue? h.char, hexValue? l.char with
      | some a, some b =>
        let byte := a * 16 + b
        let pending? :=
          if pending = 0 then (characterWidth? byte).map (· - 1)
          else if 0x80 ≤ byte ∧ byte < 0xc0 then some (pending - 1) else none
        match pending? with
        | some pending =>
          (readTagText wide pending rest).map fun r => (UInt8.ofNat byte :: r.1, r.2)
        | none => none
      | _, _ => none
    else if pending ≠ 0 then none
    else if isTagChar wide p.char then
      (readTagText wide 0 (h :: l :: rest)).map fun r => (utf8Bytes [p.char] ++ r.1, r.2)
    else some ([], p :: h :: l :: rest)
  | p :: rest =>
    if p.char = '%' ∨ pending ≠ 0 then none
    else if isTagChar wide p.char then
      (readTagText wide 0 rest).map fun r => (utf8Bytes [p.char] ++ r.1, r.2)
    else some ([], p :: rest)
  | [] => if pending = 0 then some ([], []) else none

/-- Reads a handle: an exclamation mark, and a name and another mark if there are any. -/
def readHandle (cells : List Placed) : Option (String × List Placed) :=
  match cells with
  | p :: rest =>
    if p.char = '!' then
      let (name, rest) := readName rest
      match rest with
      | q :: after =>
        if q.char = '!' then some ("!" ++ name ++ "!", after) else some ("!" ++ name, q :: after)
      | [] => some ("!" ++ name, [])
    else none
  | [] => none

/-- Whether what is read as a handle has a mark at both ends. -/
def isFullHandle (handle : String) : Bool :=
  handle.length ≥ 2 && handle.toList.getLast? == some '!'

/-- Reads a tag between angle brackets, after the mark and the bracket. -/
def readVerbatimTag (cells : List Placed) : Option (String × List UInt8 × List Placed) := do
  let (text, rest) ← readTagText true 0 cells
  match rest with
  | p :: rest => if text ≠ [] ∧ p.char = '>' then some ("", text, rest) else none
  | [] => none

/-- Reads a tag of a handle and a text. -/
def readShortTag (cells : List Placed) : Option (String × List UInt8 × List Placed) := do
  let (handle, rest) ← readHandle cells
  let (text, rest) ← readTagText false 0 rest
  if isFullHandle handle then
    if text ≠ [] then some (handle, text, rest) else none
  else
    let text := utf8Bytes (handle.toList.drop 1) ++ text
    if text = [] then some ("", utf8Bytes ['!'], rest) else some ("!", text, rest)

/-- Reads a tag: its handle and its text. A gap has to follow, or a comma in a flow collection. -/
def readTag (flow : Bool) (cells : List Placed) : Option (String × List UInt8 × List Placed) := do
  let (handle, text, rest) ← match cells with
    | _ :: q :: inner => if q.char = '<' then readVerbatimTag inner else readShortTag cells
    | _ => readShortTag cells
  if (flow && atOneOf [','] rest) || atGapOrEnd rest then some (handle, text, rest) else none

/-! ## Directives -/

/-- Reads a number of one to nine digits. -/
def readVersionNumber (cells : List Placed) : Option (Nat × List Placed) := do
  let digits := (cells.takeWhile fun p => isDigit p.char).map Placed.char
  let n ← digitsValue? digits
  if digits.length ≤ 9 then some (n, cells.drop digits.length) else none

/-- Reads the value of a version directive. -/
def readVersion (cells : List Placed) : Option (Token × List Placed) := do
  let (major, rest) ← readVersionNumber (skipSpaces cells)
  match rest with
  | p :: rest =>
    if p.char = '.' then
      let (minor, rest) ← readVersionNumber rest
      some (.version major minor, rest)
    else none
  | [] => none

/-- Reads the value of a directive for a handle. -/
def readHandleDirective (cells : List Placed) : Option (Token × List Placed) := do
  let (handle, rest) ← readHandle (skipSpaces cells)
  if (handle = "!" ∨ isFullHandle handle) ∧ !rest.isEmpty ∧ atGapOrEnd rest ∧ !atBreakOrEnd rest
  then
    let (text, rest) ← readTagText true 0 (skipSpaces rest)
    if text ≠ [] ∧ atGapOrEnd rest then some (.handle handle text, rest) else none
  else none

/-- Reads a directive after its percent sign. -/
def readDirective (cells : List Placed) : Option (Token × List Placed) := do
  let (name, rest) := readName cells
  if !atGapOrEnd rest then none
  else
    let (token, rest) ←
      if name = "YAML" then readVersion rest
      else if name = "TAG" then readHandleDirective rest
      else none
    pure (token, ← endLine? rest)

end ThreatGraph.Yaml
