import ThreatGraph.Text.Numeral
import ThreatGraph.Yaml.Placed

/-!
# Reading scalars

Plain, quoted and block scalars. Inside plain and quoted scalars the blanks around line breaks go,
a single line break becomes a space, and of several the first goes. Block scalars keep the line
breaks (`literal`), or fold them in the same way between lines that do not begin with a blank
(`folded`).

Each reader takes a scalar from the front of a text and gives the text that follows.
-/

set_option autoImplicit false

namespace ThreatGraph.Yaml

/-! ## Gaps -/

/-- The blanks between two pieces of a scalar: on one line, or with line breaks among them. A gap
that begins with an escaped line break has no first break. -/
inductive Gap where
  | blanks (chars : List Char)
  | breaks (first : Option Char) (more : List Char)
  deriving DecidableEq, Repr, Inhabited

namespace Gap

/-- No gap. -/
def none : Gap := .blanks []

/-- A gap with one more character. -/
def extend (c : Char) : Gap → Gap
  | .blanks chars => if isBreak c then .breaks (some c) [] else .blanks (chars ++ [c])
  | .breaks first more => if isBreak c then .breaks first (more ++ [c]) else .breaks first more

/-- What a gap leaves in the text of a scalar. -/
def text : Gap → List Char
  | .blanks chars => chars
  | .breaks (some '\n') [] => [' ']
  | .breaks (some '\n') more => more
  | .breaks (some c) more => c :: more
  | .breaks Option.none more => more

/-- Whether a gap holds a line break. -/
def hasBreak : Gap → Bool
  | .blanks _ => false
  | .breaks _ _ => true

/-- Whether there is no gap. -/
def isNone : Gap → Bool
  | .blanks chars => chars.isEmpty
  | .breaks _ _ => false

end Gap

/-! ## Plain scalars -/

/-- Whether a plain scalar ends at this character. -/
def endsPlain (flow : Bool) (c : Char) (rest : List Placed) : Bool :=
  (c == ':' && atGapOrEnd rest) || (flow && ",[]\x7b\x7d".toList.contains c)

/-- Whether a colon stands where a flow collection does not allow it. -/
def isStrayColon (flow : Bool) (c : Char) (rest : List Placed) : Bool :=
  flow && c == ':' && atOneOf ",?[]\x7b\x7d".toList rest

/-- The plain scalar that ends in front of `cells`. -/
def closePlain (done : List Char) (gap : Gap) (cells : List Placed) :
    Option (String × Bool × List Placed) :=
  some (String.ofList done.reverse, gap.hasBreak, cells)

/-- Reads a plain scalar, of which the pieces in `done` are read already, in reverse, and `gap`
follows them. Lines have to begin at column `indent` at least. The second part of the answer tells
whether line breaks follow the scalar. -/
def readPlain (flow : Bool) (indent : Nat) (done : List Char) (gap : Gap) :
    List Placed → Option (String × Bool × List Placed)
  | [] => closePlain done gap []
  | p :: rest =>
    if isGap p.char then
      if gap.hasBreak && p.char == '\t' && p.column < indent then none
      else readPlain flow indent done (gap.extend p.char) rest
    else if !gap.isNone
        && ((!flow && p.column < indent) || p.char == '#' || atDocumentMark (p :: rest)) then
      closePlain done gap (p :: rest)
    else if isStrayColon flow p.char rest then none
    else if endsPlain flow p.char rest then closePlain done gap (p :: rest)
    else readPlain flow indent (p.char :: (gap.text.reverse ++ done)) Gap.none rest

/-! ## Quoted scalars -/

/-- Reads the rest of a scalar between single quotes. A quote is written twice. -/
def readSingleQuoted (done : List Char) (gap : Gap) :
    List Placed → Option (String × List Placed)
  | [] => none
  | p :: rest =>
    if isGap p.char then readSingleQuoted done (gap.extend p.char) rest
    else if atDocumentMark (p :: rest) then none
    else
      let done := gap.text.reverse ++ done
      if p.char = '\'' then
        match rest with
        | q :: rest =>
          if q.char = '\'' then readSingleQuoted ('\'' :: done) Gap.none rest
          else some (String.ofList done.reverse, q :: rest)
        | [] => some (String.ofList done.reverse, [])
      else readSingleQuoted (p.char :: done) Gap.none rest

/-- The character of an escape of one letter. -/
def escapedChar? (c : Char) : Option Char :=
  match c with
  | '0' => some '\x00'
  | 'a' => some '\x07'
  | 'b' => some '\x08'
  | 't' | '\t' => some '\t'
  | 'n' => some '\n'
  | 'v' => some '\x0b'
  | 'f' => some '\x0c'
  | 'r' => some '\r'
  | 'e' => some '\x1b'
  | ' ' | '"' | '/' | '\\' => some c
  | 'N' => some '\x85'
  | '_' => some '\xa0'
  | 'L' => some '\u2028'
  | 'P' => some '\u2029'
  | _ => none

/-- The number of digits after the letter of a numeric escape. -/
def escapeDigits (c : Char) : Nat :=
  if c = 'x' then 2 else if c = 'u' then 4 else if c = 'U' then 8 else 0

/-- The character of a code point. -/
def charOf? (n : Nat) : Option Char :=
  if n.isValidChar then some (Char.ofNat n) else none

/-- Reads what follows a backslash: the character that the escape stands for and the number of
characters it takes. -/
def readEscaped (cells : List Placed) : Option (Char × Nat) :=
  match cells with
  | [] => none
  | p :: rest =>
    match escapeDigits p.char with
    | 0 => (escapedChar? p.char).map (·, 1)
    | n => do
      let digits := (rest.take n).map Placed.char
      if digits.length = n then
        let c ← charOf? (← digitsValueIn? 16 digits)
        pure (c, n + 1)
      else none

/-- Reads the rest of a scalar between double quotes. -/
def readDoubleQuoted (done : List Char) (gap : Gap) (cells : List Placed) :
    Option (String × List Placed) :=
  match cells with
  | [] => none
  | p :: rest =>
    if isGap p.char then readDoubleQuoted done (gap.extend p.char) rest
    else if atDocumentMark (p :: rest) then none
    else
      let done := gap.text.reverse ++ done
      if p.char = '"' then some (String.ofList done.reverse, rest)
      else if p.char = '\\' then
        if !rest.isEmpty && atBreakOrEnd rest then
          readDoubleQuoted done (.breaks none []) (rest.drop 1)
        else
          match readEscaped rest with
          | none => none
          | some (c, width) => readDoubleQuoted (c :: done) Gap.none (rest.drop width)
      else readDoubleQuoted (p.char :: done) Gap.none rest
termination_by cells.length
decreasing_by
  all_goals simp only [List.length_cons, List.length_drop]
  all_goals omega

/-! ## Block scalars -/

/-- What becomes of the line breaks at the end of a block scalar. -/
inductive Chomping where
  | strip
  | clip
  | keep
  deriving DecidableEq, Repr, Inhabited

/-- What is read of the sign for the last line breaks. -/
def readChomping (cells : List Placed) : Option Chomping × List Placed :=
  match cells with
  | p :: rest =>
    if p.char = '+' then (some .keep, rest)
    else if p.char = '-' then (some .strip, rest)
    else (none, cells)
  | [] => (none, cells)

/-- What is read of the digit for the indentation, which is not zero. -/
def readIndentation (cells : List Placed) : Option (Option Nat × List Placed) :=
  match cells with
  | p :: rest =>
    match digitValue? p.char with
    | some 0 => none
    | some n => some (some n, rest)
    | none => some (none, cells)
  | [] => some (none, cells)

/-- Reads the signs after the indicator of a block scalar, in any order. -/
def readBlockHeader (cells : List Placed) : Option (Chomping × Option Nat × List Placed) := do
  match readChomping cells with
  | (some chomping, cells) =>
    let (indentation, cells) ← readIndentation cells
    pure (chomping, indentation, ← endLine? cells)
  | (none, cells) =>
    let (indentation, cells) ← readIndentation cells
    let (chomping, cells) :=
      if indentation.isSome then readChomping cells else (none, cells)
    pure (chomping.getD .clip, indentation, ← endLine? cells)

/-- Skips the indentation of a line and the empty lines before it: their line breaks, the greatest
column reached, and the text that follows. Indentation of `indent` columns is skipped, or of any
number if `indent` is zero. -/
def readEmptyLines (indent greatest : Nat) (breaks : List Char) :
    List Placed → Option (List Char × Nat × List Placed)
  | [] => some (breaks, greatest, [])
  | p :: rest =>
    let inside := indent = 0 ∨ p.column < indent
    if inside ∧ p.char = ' ' then readEmptyLines indent (max greatest (p.column + 1)) breaks rest
    else if inside ∧ p.char = '\t' then none
    else if isBreak p.char then
      readEmptyLines indent (max greatest p.column) (breaks ++ [p.char]) rest
    else some (breaks, max greatest p.column, p :: rest)

/-- The line breaks between two lines of a block scalar: the first of them, and the others. -/
def joinLines (folded afterBlank atBlank : Bool) (first : Option Char) (more : List Char) :
    List Char :=
  if folded && first == some '\n' && !afterBlank && !atBlank then
    (if more.isEmpty then [' '] else []) ++ more
  else first.toList ++ more

/-- The line breaks that remain at the end of a block scalar. -/
def chompedBreaks (chomping : Chomping) (first : Option Char) (more : List Char) : List Char :=
  match chomping with
  | .strip => []
  | .clip => first.toList
  | .keep => first.toList ++ more

/-- Reads the lines of a block scalar after those in `done`, which is in reverse. `first` and `more`
are the line breaks after these, and `afterBlank` tells whether the last of them begins with a
blank. -/
def readBlockLines (folded : Bool) (chomping : Chomping) (indent : Nat) :
    Nat → List Char → Option Char → List Char → Bool → List Placed → Option (String × List Placed)
  | 0, _, _, _, _, _ => none
  | fuel + 1, done, first, more, afterBlank, cells =>
    match cells with
    | p :: _ =>
      if p.column = indent then
        let atBlank := isSpaceOrTab p.char
        let line := (cells.takeWhile fun q => !isBreak q.char).map Placed.char
        let done := line.reverse ++ (joinLines folded afterBlank atBlank first more).reverse ++ done
        let rest := skipToBreak cells
        match readEmptyLines indent 0 [] (rest.drop 1) with
        | none => none
        | some (more, _, cells) =>
          readBlockLines folded chomping indent fuel done (rest.head?.map Placed.char) more atBlank
            cells
      else some (String.ofList (done.reverse ++ chompedBreaks chomping first more), cells)
    | [] => some (String.ofList (done.reverse ++ chompedBreaks chomping first more), [])

/-- Reads a block scalar after its indicator, inside a block whose items begin at column `outer - 1`
(so `outer` is zero outside of all blocks). -/
def readBlock (folded : Bool) (outer : Nat) (cells : List Placed) :
    Option (String × List Placed) := do
  let (chomping, indentation, cells) ← readBlockHeader cells
  let given := match indentation with
    | some n => (outer - 1) + n
    | none => 0
  let (breaks, greatest, cells) ← readEmptyLines given 0 [] cells
  let indent := if given = 0 then max (max greatest outer) 1 else given
  readBlockLines folded chomping indent (cells.length + 1) [] none breaks false cells

end ThreatGraph.Yaml
