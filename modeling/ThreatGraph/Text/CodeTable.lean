import ThreatGraph.Text.Numeral
import ThreatGraph.Text.Split

/-!
# Tables of code points

A property of characters is given by a table, written as lines of words with a space between each
two, where code points are in base sixteen.

* A table of spans, such as `41-5a 5f`, is a set of characters (`spans`, `isIn`). It may be read as
  one that holds every second character of a span only (`isEverySecondOf`).
* A table of shifts, such as `41-5a-61`, sends each character of a span to the one as far behind
  another (`shifts`, `shifted?`).
* A table of texts, such as `132: 69.6a`, sends single characters to one or more others. A word with
  a colon tells which character comes next, and without one it is the next code point
  (`texts`, `text?`).
-/

set_option autoImplicit false

namespace ThreatGraph.CodeTable

/-- The words of a table. -/
def words (table : List String) : List (List Char) :=
  table.flatMap fun line => splitOn ' ' line.toList

/-- The code point that a numeral in base sixteen names. -/
def code (digits : List Char) : Nat := (digitsValueIn? 16 digits).getD 0

/-! ## Spans -/

/-- The code points from one to another. -/
structure Span where
  first : Nat
  last : Nat
  deriving DecidableEq, Repr, Inhabited

/-- Whether a character is in a span. -/
def Span.has (s : Span) (c : Char) : Bool := s.first ≤ c.toNat && c.toNat ≤ s.last

/-- The span of a word: one code point, or two with a hyphen between them. -/
def span (word : List Char) : Span :=
  match splitFirst '-' word with
  | (first, some last) => ⟨code first, code last⟩
  | (only, none) => ⟨code only, code only⟩

/-- The spans of a table. -/
def spans (table : List String) : List Span := (words table).map span

/-- Whether a character is in one of some spans. -/
def isIn (c : Char) (spans : List Span) : Bool := spans.any (·.has c)

/-- Whether a character is the first of one of some spans, or an even number of places behind. -/
def isEverySecondOf (c : Char) (spans : List Span) : Bool :=
  spans.any fun s => s.has c && (c.toNat - s.first) % 2 == 0

/-! ## Shifts -/

/-- A span and the code point that its first one is sent to. -/
structure Shift where
  span : Span
  target : Nat
  deriving DecidableEq, Repr, Inhabited

/-- The shift of a word: three code points with hyphens between them. -/
def shift (word : List Char) : Shift :=
  match splitFirst '-' word with
  | (first, some rest) =>
    let (last, target) := splitFirst '-' rest
    ⟨⟨code first, code last⟩, code (target.getD [])⟩
  | (only, none) => ⟨⟨code only, code only⟩, code only⟩

/-- The shifts of a table. -/
def shifts (table : List String) : List Shift := (words table).map shift

/-- The character that shifts send another to. -/
def shifted? (c : Char) (shifts : List Shift) : Option Char :=
  (shifts.find? (·.span.has c)).map fun s => Char.ofNat (s.target + (c.toNat - s.span.first))

/-! ## Texts -/

/-- The texts of some words, where the next code point is known. -/
def readTexts : Nat → List (List Char) → List (Nat × List Char)
  | _, [] => []
  | next, word :: rest =>
    match splitFirst ':' word with
    | (place, some _) => readTexts (code place) rest
    | (text, none) =>
      (next, (splitOn '.' text).map fun c => Char.ofNat (code c)) :: readTexts (next + 1) rest

/-- The texts of a table. -/
def texts (table : List String) : List (Nat × List Char) := readTexts 0 (words table)

/-- The text that a character is sent to. -/
def text? (c : Char) (texts : List (Nat × List Char)) : Option (List Char) :=
  (texts.find? (·.1 == c.toNat)).map (·.2)

end ThreatGraph.CodeTable
