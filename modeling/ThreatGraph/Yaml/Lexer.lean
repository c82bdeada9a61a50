import ThreatGraph.Yaml.Scalar
import ThreatGraph.Yaml.Tag

/-!
# Tokens of a text

Cutting a text into tokens. Two things make this more than reading one token after the other.

* Indentation: the columns of the open blocks are kept in a stack. A token at a smaller column ends
  blocks, a dash or key at a greater one begins a block.
* Keys without a mark: what stands before a colon is a key only once the colon is seen. The place of
  the token that may turn out to begin a key is kept, one for each open flow collection, and the
  mark of the key is put in front of it later. Such a key stands on one line and is no longer than
  `keyLimit` characters.
-/

set_option autoImplicit false

namespace ThreatGraph.Yaml

/-- A token that a key may begin with: the number of tokens before it, its place, and whether
nothing but a key can stand there. -/
structure KeyCandidate where
  position : Nat
  start : Placed
  isRequired : Bool
  deriving Repr, Inhabited

/-- What is known after some tokens. `columns` are those of the open blocks, the innermost first,
and `candidates` belong to the open flow collections, the innermost first, and last to the block. -/
structure Lexing where
  tokens : List Token
  columns : List Nat
  candidates : List (Option KeyCandidate)
  allowsKey : Bool
  deriving Repr, Inhabited

namespace Lexing

/-- What is known before all tokens. -/
def initial : Lexing := ⟨[], [], [none], true⟩

/-- The greatest number of characters of a key without a mark. -/
def keyLimit : Nat := 1024

/-- Whether a flow collection is open. -/
def inFlow (l : Lexing) : Bool := 1 < l.candidates.length

/-- One more than the column of the innermost block. -/
def outer (l : Lexing) : Nat :=
  match l.columns with
  | [] => 0
  | c :: _ => c + 1

/-- Adds a token at the end. -/
def push (t : Token) (l : Lexing) : Lexing := { l with tokens := l.tokens ++ [t] }

/-- Adds a token in front of the one at a position. -/
def insert (position : Nat) (t : Token) (l : Lexing) : Lexing :=
  { l with tokens := l.tokens.take position ++ t :: l.tokens.drop position }

/-- Sets whether a key may come next. -/
def allow (b : Bool) (l : Lexing) : Lexing := { l with allowsKey := b }

/-- Ends the blocks at columns greater than the given one, or all of them. -/
def closeBlocks (column : Option Nat) (l : Lexing) : Lexing :=
  if l.inFlow then l
  else
    let isClosed := fun c => match column with
      | some k => decide (k < c)
      | none => true
    let closed := l.columns.takeWhile isClosed
    { l with
      tokens := l.tokens ++ closed.map fun _ => .blockEnd
      columns := l.columns.drop closed.length }

/-- Begins a block at a column if it is greater than that of the innermost block. The token goes in
front of the one at `position`. -/
def openBlock (kind : Collection) (column position : Nat) (l : Lexing) : Lexing :=
  if !l.inFlow && l.outer ≤ column then
    { l.insert position (.blockStart kind) with columns := column :: l.columns }
  else l

/-! ## Candidates for keys -/

/-- Gives up a candidate that can no longer become a key at a place. -/
def staleCandidate (here : Placed) : Option KeyCandidate → Option (Option KeyCandidate)
  | none => some none
  | some k =>
    if k.start.line < here.line ∨ k.start.index + keyLimit < here.index then
      if k.isRequired then none else some none
    else some (some k)

/-- Gives up all candidates that can no longer become keys at a place. -/
def dropStale (here : Placed) (l : Lexing) : Option Lexing := do
  pure { l with candidates := ← l.candidates.mapM (staleCandidate here) }

/-- Gives up the innermost candidate. -/
def dropCandidate (l : Lexing) : Option Lexing :=
  match l.candidates with
  | some k :: rest => if k.isRequired then none else some { l with candidates := none :: rest }
  | _ => some l

/-- Takes the token that begins at a place as the innermost candidate, where a key may stand. -/
def addCandidate (start : Placed) (l : Lexing) : Option Lexing :=
  if l.allowsKey then do
    let l ← l.dropCandidate
    let isRequired := !l.inFlow && l.outer == start.column + 1
    pure { l with candidates := some ⟨l.tokens.length, start, isRequired⟩ :: l.candidates.drop 1 }
  else some l

/-! ## Tokens -/

/-- The rest of a text once a token is read. -/
abbrev Step := Option (Lexing × List Placed)

/-- A mark between documents. -/
def documentMark (t : Token) (rest : List Placed) (l : Lexing) : Step := do
  let l ← (l.closeBlocks none).dropCandidate
  pure ((l.allow false).push t, rest.drop 2)

/-- A directive. -/
def directive (rest : List Placed) (l : Lexing) : Step := do
  let l ← (l.closeBlocks none).dropCandidate
  let (t, rest) ← readDirective rest
  pure ((l.allow false).push t, rest)

/-- The start of a flow collection. -/
def openFlow (kind : Collection) (start : Placed) (rest : List Placed) (l : Lexing) : Step := do
  let l ← l.addCandidate start
  pure ({ (l.allow true).push (.flowStart kind) with candidates := none :: l.candidates }, rest)

/-- The end of a flow collection. -/
def closeFlow (kind : Collection) (rest : List Placed) (l : Lexing) : Step := do
  let l ← l.dropCandidate
  let candidates := if l.inFlow then l.candidates.drop 1 else l.candidates
  pure ({ (l.allow false).push (.flowEnd kind) with candidates := candidates }, rest)

/-- The comma between the entries of a flow collection. -/
def flowEntry (rest : List Placed) (l : Lexing) : Step := do
  let l ← l.dropCandidate
  pure ((l.allow true).push .flowEntry, rest)

/-- Begins a block at a place, where one may begin. -/
def startBlock (kind : Collection) (start : Placed) (l : Lexing) : Option Lexing :=
  if l.inFlow then some l
  else if l.allowsKey then some (l.openBlock kind start.column l.tokens.length)
  else none

/-- The dash in front of an item. -/
def blockEntry (start : Placed) (rest : List Placed) (l : Lexing) : Step := do
  let l ← (← l.startBlock .sequence start).dropCandidate
  pure ((l.allow true).push .blockEntry, rest)

/-- The mark of a key. -/
def key (start : Placed) (rest : List Placed) (l : Lexing) : Step := do
  let l ← (← l.startBlock .mapping start).dropCandidate
  pure ((l.allow (!l.inFlow)).push .key, rest)

/-- The colon in front of a value, which makes a key of the innermost candidate if there is one. -/
def value (start : Placed) (rest : List Placed) (l : Lexing) : Step :=
  match l.candidates with
  | some k :: candidates =>
    let l := (l.insert k.position .key).openBlock .mapping k.start.column k.position
    some (({ l with candidates := none :: candidates }.allow false).push .value, rest)
  | _ => do
    let l ← l.startBlock .mapping start
    pure ((l.allow (!l.inFlow)).push .value, rest)

/-- A token of a node that may begin a key. -/
def nodeToken (start : Placed) (read : Option (Token × List Placed)) (l : Lexing) : Step := do
  let l ← l.addCandidate start
  let (t, rest) ← read
  pure ((l.allow false).push t, rest)

/-- A plain scalar. A key may follow it if it ends with its line. -/
def plain (start : Placed) (cells : List Placed) (l : Lexing) : Step := do
  let l ← l.addCandidate start
  let (text, lineEnds, rest) ← readPlain l.inFlow l.outer [] Gap.none cells
  pure ((l.allow lineEnds).push (.scalar .plain text), rest)

/-- A block scalar. -/
def block (style : Style) (rest : List Placed) (l : Lexing) : Step := do
  let l ← l.dropCandidate
  let (text, rest) ← readBlock (style = .folded) l.outer rest
  pure ((l.allow true).push (.scalar style text), rest)

/-- Whether a plain scalar can begin with a character. -/
def beginsPlain (flow : Bool) (c : Char) (rest : List Placed) : Bool :=
  if c = '-' then !atOneOf [' ', '\t'] rest
  else if c = '?' ∨ c = ':' then !flow && !atGapOrEnd rest
  else !",[]\x7b\x7d#&*!|>'\"%@\x60".toList.contains c && !isGap c

/-- Reads the token at the front of a text that does not begin with a blank. -/
def readToken (p : Placed) (rest : List Placed) (l : Lexing) : Step :=
  if p.column = 0 ∧ p.char = '%' then l.directive rest
  else if atThree '-' (p :: rest) then l.documentMark .documentStart rest
  else if atThree '.' (p :: rest) then l.documentMark .documentEnd rest
  else if p.char = '[' then l.openFlow .sequence p rest
  else if p.char = '\x7b' then l.openFlow .mapping p rest
  else if p.char = ']' then l.closeFlow .sequence rest
  else if p.char = '\x7d' then l.closeFlow .mapping rest
  else if p.char = ',' then l.flowEntry rest
  else if p.char = '-' ∧ atGapOrEnd rest then l.blockEntry p rest
  else if p.char = '?' ∧ (l.inFlow ∨ atGapOrEnd rest) then l.key p rest
  else if p.char = ':' ∧ (l.inFlow ∨ atGapOrEnd rest) then l.value p rest
  else if p.char = '*' then
    l.nodeToken p ((readAnchor rest).map fun r => (.alias r.1, r.2))
  else if p.char = '&' then
    l.nodeToken p ((readAnchor rest).map fun r => (.anchor r.1, r.2))
  else if p.char = '!' then
    l.nodeToken p ((readTag l.inFlow (p :: rest)).map fun r => (.tag r.1 r.2.1, r.2.2))
  else if p.char = '|' ∧ !l.inFlow then l.block .literal rest
  else if p.char = '>' ∧ !l.inFlow then l.block .folded rest
  else if p.char = '\'' then
    l.nodeToken p ((readSingleQuoted [] Gap.none rest).map fun r => (.scalar .quoted r.1, r.2))
  else if p.char = '"' then
    l.nodeToken p ((readDoubleQuoted [] Gap.none rest).map fun r => (.scalar .quoted r.1, r.2))
  else if beginsPlain l.inFlow p.char rest then l.plain p (p :: rest)
  else none

/-! ## The whole text -/

/-- Skips blanks, line breaks and byte order marks in front of a token. In a block a key may stand
at the start of a line, which a tab may not then begin. A byte order mark counts for nothing where
a line begins, but it takes up a column. -/
def skipToToken (l : Lexing) : List Placed → Lexing × List Placed
  | [] => (l, [])
  | p :: rest =>
    if p.char = ' ' ∨ (p.char = '\t' ∧ (l.inFlow ∨ !l.allowsKey)) then skipToToken l rest
    else if p.column = 0 ∧ p.char.toNat = 0xfeff then skipToToken l rest
    else if isBreak p.char then skipToToken (if l.inFlow then l else l.allow true) rest
    else (l, p :: rest)

/-- Skips everything in front of a token, comments too. Each comment takes one unit of fuel. -/
def skipFiller : Nat → Lexing → List Placed → Lexing × List Placed
  | 0, l, cells => (l, cells)
  | fuel + 1, l, cells =>
    match skipToToken l cells with
    | (l, p :: rest) =>
      if p.char = '#' then skipFiller fuel l (skipToBreak rest) else (l, p :: rest)
    | (l, []) => (l, [])

/-- Closes what is open at the end of a text. -/
def finish (l : Lexing) : Option (List Token) := do
  pure (← (l.closeBlocks none).dropCandidate).tokens

/-- The tokens of a text after those that are known. Each token takes one unit of fuel. -/
def run : Nat → Lexing → List Placed → Option (List Token)
  | 0, _, _ => none
  | fuel + 1, l, cells =>
    match skipFiller (cells.length + 1) l cells with
    | (l, []) => l.finish
    | (l, p :: rest) => do
      let l ← l.dropStale p
      let (l, rest) ← (l.closeBlocks (some p.column)).readToken p rest
      run fuel l rest

end Lexing

/-- The tokens of a text. -/
def tokens? (text : String) : Option (List Token) :=
  let chars := text.toList
  if chars.all isAllowed then
    let cells := place 0 0 0 chars
    Lexing.run (cells.length + 1) .initial cells
  else none

end ThreatGraph.Yaml
