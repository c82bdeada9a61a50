import ThreatGraph.Text.Split

/-!
# Punycode

A text of any characters written in letters, digits and hyphens. Its ASCII characters come first,
with a hyphen after them if there are any. The other characters follow as numbers, one for each:
how many steps it is from the character inserted before it, counted through all places of the text
for one code point after the other. The digits of a number have the value of their weights, and how
large a digit ends a number depends on the numbers before it.

* `decode?` reads a text, `encode` writes one.
-/

set_option autoImplicit false

namespace ThreatGraph.Punycode

/-- The value of a letter or a digit in base thirty-six. -/
def digit? (c : Char) : Option Nat :=
  if 'a' ≤ c ∧ c ≤ 'z' then some (c.toNat - 'a'.toNat)
  else if '0' ≤ c ∧ c ≤ '9' then some (c.toNat - '0'.toNat + 26)
  else none

/-- The letter or digit of a value below thirty-six. -/
def digitOf (n : Nat) : Char :=
  if n < 26 then Char.ofNat ('a'.toNat + n) else Char.ofNat ('0'.toNat + (n - 26))

/-- The threshold of the digit at weight `k`. -/
def threshold (k bias : Nat) : Nat :=
  if k ≤ bias then 1 else if bias + 26 ≤ k then 26 else k - bias

/-- A difference divided by thirty-five until it is at most 455, and thirty-six for each time. -/
def adaptLoop (delta k : Nat) : Nat × Nat :=
  if 455 < delta then adaptLoop (delta / 35) (k + 36) else (delta, k)
termination_by delta
decreasing_by exact Nat.div_lt_self (by omega) (by omega)

/-- The bias after a difference. -/
def adapt (delta count : Nat) (first : Bool) : Nat :=
  let scaled := if first then delta / 700 else delta / 2
  let (rest, k) := adaptLoop (scaled + scaled / count) 0
  k + 36 * rest / (rest + 38)

/-- The first code point after ASCII. -/
def firstCode : Nat := 0x80

/-- The bias of the first number. -/
def firstBias : Nat := 72

/-! ## Reading -/

/-- One number added to another, read up to the first digit below its threshold. -/
def readNumber (bias : Nat) (i weight k : Nat) : List Char → Option (Nat × List Char)
  | [] => none
  | c :: rest => do
    let d ← digit? c
    let i := i + d * weight
    let t := threshold k bias
    if 0xffffffff < i then none
    else if d < t then some (i, rest)
    else
      let weight := weight * (36 - t)
      if 0xffffffff < weight then none else readNumber bias i weight (k + 36) rest

/-- The characters of a text after those read so far; `fuel` bounds the number of characters. -/
def readText : Nat → Nat → Nat → Nat → List Char → List Char → Option (List Char)
  | 0, _, _, _, _, _ => none
  | _ + 1, _, _, _, out, [] => some out
  | fuel + 1, n, i, bias, out, cs => do
    let (j, rest) ← readNumber bias i 1 36 cs
    let count := out.length + 1
    let n := n + j / count
    let place := j % count
    let bias := adapt (j - i) count (i = 0)
    let out := out.take place ++ Char.ofNat n :: out.drop place
    if 0x110000 ≤ n ∨ 0xd800 ≤ n ∧ n ≤ 0xdfff then none
    else readText fuel n (place + 1) bias out rest

/-- The text that another stands for. The hyphen after the ASCII characters is missing if there are
none. -/
def decode? (cs : List Char) : Option (List Char) :=
  let pieces := splitOn '-' cs
  let start := joinSep '-' pieces.dropLast
  let numbers := pieces.getLast?.getD []
  if start.isEmpty ∧ 1 < pieces.length then none
  else readText (numbers.length + 1) firstCode 0 firstBias start numbers

/-! ## Writing -/

theorem threshold_pos (k bias : Nat) : 0 < threshold k bias := by
  unfold threshold
  repeat' split
  all_goals omega

/-- A number from the digit at weight `k` on. -/
def writeNumber (bias k n : Nat) : List Char :=
  let t := threshold k bias
  if n < t then [digitOf n]
  else digitOf (t + (n - t) % (36 - t)) :: writeNumber bias (k + 36) ((n - t) / (36 - t))
termination_by n
decreasing_by
  have h := threshold_pos k bias
  exact Nat.lt_of_le_of_lt (Nat.div_le_self _ _) (by omega)

/-- A text as far as it is written: its characters and numbers, the steps since the last number, the
bias of the next one and the characters written. -/
structure Progress where
  written : List Char
  steps : Nat
  bias : Nat
  count : Nat
  deriving DecidableEq, Repr, Inhabited

/-- A text written further by one of its characters, when the characters of a code point are
written: characters of those before are passed in one step, and `start` of them are ASCII. -/
def Progress.pass (start code : Nat) (p : Progress) (c : Char) : Progress :=
  if c.toNat < code then { p with steps := p.steps + 1 }
  else if c.toNat = code then
    { written := p.written ++ writeNumber p.bias 36 p.steps
      steps := 0
      bias := adapt p.steps (p.count + 1) (p.count = start)
      count := p.count + 1 }
  else p

/-- A text written further by the characters of some code points in increasing order, of which the
first may be `next`. -/
def Progress.writeCodes (start : Nat) (cs : List Char) (next : Nat) (p : Progress) :
    List Nat → Progress
  | [] => p
  | code :: codes =>
    let p := { p with steps := p.steps + (code - next) * (p.count + 1) }
    let p := cs.foldl (·.pass start code ·) p
    Progress.writeCodes start cs (code + 1) { p with steps := p.steps + 1 } codes

/-- A number put into increasing numbers, if it is not one of them. -/
def insertCode (n : Nat) : List Nat → List Nat
  | [] => [n]
  | m :: ms =>
    if n < m then n :: m :: ms else if n = m then m :: ms else m :: insertCode n ms

/-- The code points of the characters outside ASCII of a text, in increasing order. -/
def codes (cs : List Char) : List Nat :=
  (cs.filter (firstCode ≤ ·.toNat)).foldr (fun c ns => insertCode c.toNat ns) []

/-- A text in letters, digits and hyphens. -/
def encode (cs : List Char) : List Char :=
  let start := cs.filter (·.toNat < firstCode)
  let written := if start.isEmpty then [] else start ++ ['-']
  (Progress.writeCodes start.length cs firstCode ⟨written, 0, firstBias, start.length⟩
    (codes cs)).written

end ThreatGraph.Punycode
