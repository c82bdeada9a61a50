import ThreatGraph.Text.Percent
import ThreatGraph.Text.Split
import ThreatGraph.Url.HostName

/-!
# Hosts

The host of a URL: a name, or an address of version 4 or 6. The name of a web host is kept as it is
written in ASCII and in lower case; one whose last label is a number has to be an address of version
4. In any other URL a name is any text without the characters that separate the parts of a URL.

* `Host.parse` reads a host of a web URL, `Host.parseOther` one of any other URL.
* `Host.text` writes it; an address of version 6 has its longest run of zeros left out.
-/

set_option autoImplicit false

namespace ThreatGraph

/-- What can be wrong with the text of a URL. -/
inductive UrlFault where
  | noScheme
  | emptyHost
  | badPort
  | badName
  | badAddress4
  | badAddress6
  | badHostCharacter
  deriving DecidableEq, Repr, Inhabited

/-- The wording of a fault. -/
def UrlFault.message : UrlFault → String
  | .noScheme => "relative URL without a base"
  | .emptyHost => "empty host"
  | .badPort => "invalid port number"
  | .badName => "invalid international domain name"
  | .badAddress4 => "invalid IPv4 address"
  | .badAddress6 => "invalid IPv6 address"
  | .badHostCharacter => "invalid domain character"

/-- The host of a URL. -/
inductive Host where
  | name (text : String)
  | address4 (value : Nat)
  | address6 (groups : List Nat)
  deriving DecidableEq, Repr, Inhabited

namespace Host

/-! ## Addresses of version 4 -/

/-- The digits of a part of an address and the base they are in. -/
def numberBase : List Char → Nat × List Char
  | '0' :: 'x' :: rest | '0' :: 'X' :: rest => (16, rest)
  | '0' :: c :: rest => (8, c :: rest)
  | cs => (10, cs)

/-- A part of an address, in base eight, ten or sixteen; the value of no digits after a marker of
the base is zero. -/
def part? (cs : List Char) : Option Nat :=
  if cs.isEmpty then none
  else
    let (base, digits) := numberBase cs
    if digits.isEmpty then some 0 else digitsValueIn? base digits

/-- The labels of a name without an empty one at its end. -/
def labels (cs : List Char) : List (List Char) :=
  let parts := splitOn '.' cs
  if 1 < parts.length ∧ parts.getLast? = some [] then parts.dropLast else parts

/-- Whether the last label of a name is a number. -/
def endsInNumber (cs : List Char) : Bool :=
  match (labels cs).getLast? with
  | none => false
  | some last => !last.isEmpty && (last.all isDigit || (part? last).isSome)

/-- The value of an address from its parts: each but the last is one byte, and the last fills the
bytes that remain. -/
def combineParts? (parts : List Nat) : Option Nat :=
  match parts.getLast? with
  | none => none
  | some last =>
    let front := parts.dropLast
    let room := Nat.pow 256 (5 - parts.length)
    if 4 < parts.length ∨ front.any (255 < ·) ∨ room ≤ last then none
    else some (front.foldl (fun acc n => acc * 256 + n) 0 * room + last)

/-- An address of version 4. -/
def parse4? (cs : List Char) : Option Nat := do
  combineParts? (← (labels cs).mapM part?)

/-- The text of an address of version 4. -/
def text4 (n : Nat) : String :=
  String.intercalate "."
    ([0x1000000, 0x10000, 0x100, 1].map fun unit => toString (n / unit % 0x100))

/-! ## Addresses of version 6 -/

/-- A group of one to four digits in base sixteen. -/
def group? (cs : List Char) : Option Nat :=
  if cs.length ≤ 4 then digitsValueIn? 16 cs else none

/-- One byte of an address in decimal, without leading zeros. -/
def byte? (cs : List Char) : Option Nat :=
  match cs with
  | '0' :: _ :: _ => none
  | _ => (digitsValue? cs).bind fun n => if n ≤ 255 then some n else none

/-- The two groups of an address of version 4 at the end of one of version 6. -/
def tailGroups? (cs : List Char) : Option (List Nat) :=
  match (splitOn '.' cs).mapM byte? with
  | some [a, b, c, d] => some [a * 256 + b, c * 256 + d]
  | _ => none

/-- The groups of a part of an address; `last` tells that it may end in an address of version 4. -/
def groups? (last : Bool) : List (List Char) → Option (List Nat)
  | [] => some []
  | [piece] => if last && piece.contains '.' then tailGroups? piece else (group? piece).map ([·])
  | piece :: pieces => do
    let g ← group? piece
    let gs ← groups? last pieces
    pure (g :: gs)

/-- The two sides of the first double colon of a text, if it has one. -/
def splitDoubleColon : List Char → List Char × Option (List Char)
  | ':' :: ':' :: rest => ([], some rest)
  | c :: rest => (c :: (splitDoubleColon rest).1, (splitDoubleColon rest).2)
  | [] => ([], none)

/-- The groups on one side of a double colon. -/
def sideGroups? (last : Bool) (cs : List Char) : Option (List Nat) :=
  if cs.isEmpty then some [] else groups? last (splitOn ':' cs)

/-- The eight groups of an address of version 6. -/
def parse6? (cs : List Char) : Option (List Nat) :=
  match splitDoubleColon cs with
  | (all, none) => do
    let gs ← groups? true (splitOn ':' all)
    if gs.length = 8 then some gs else none
  | (left, some right) => do
    let ls ← sideGroups? false left
    let rs ← sideGroups? true right
    if ls.length + rs.length < 8 then
      some (ls ++ List.replicate (8 - ls.length - rs.length) 0 ++ rs)
    else none

/-- The number of zeros at the front of a list. -/
def leadingZeros (gs : List Nat) : Nat := (gs.takeWhile (· = 0)).length

/-- The position and length of the first longest run of zeros, where positions count from `at`. -/
def longestZeros (start : Nat) : List Nat → Nat × Nat
  | [] => (start, 0)
  | g :: gs =>
    let here := leadingZeros (g :: gs)
    let later := longestZeros (start + 1) gs
    if later.2 ≤ here then (start, here) else later

/-- Groups with colons between them. -/
def joinGroups (gs : List Nat) : String :=
  String.intercalate ":" (gs.map fun g => String.ofList (Nat.toDigits 16 g))

/-- The text of an address of version 6. -/
def text6 (gs : List Nat) : String :=
  let (start, count) := longestZeros 0 gs
  if count < 2 then joinGroups gs
  else joinGroups (gs.take start) ++ "::" ++ joinGroups (gs.drop (start + count))

/-! ## Hosts of both kinds -/

/-- The characters that no host of a URL that is not a web URL holds. -/
def isForbiddenInHost (c : Char) : Bool :=
  c.toNat = 0 || "\t\n\r #/:<>?@[\\]^|".toList.contains c

/-- Whether a character is a control character, which every part of a URL escapes. -/
def isControl (c : Char) : Bool := c.toNat < 0x20 || c.toNat = 0x7f

/-- The text inside square brackets, or `none` if the closing one is missing. -/
def unbracket? (cs : List Char) : Option (List Char) :=
  if cs.getLast? = some ']' then some cs.dropLast else none

/-- A host in square brackets, after the first of them. -/
def parseBracketed (cs : List Char) : Except UrlFault Host :=
  match (unbracket? cs).bind parse6? with
  | some gs => .ok (.address6 gs)
  | none => .error .badAddress6

/-- The name of a web host, with its escapes decoded. -/
def parseName (cs : List Char) : Except UrlFault (List Char) :=
  match (decodeStrict? (percentDecode cs)).bind HostName.read? with
  | some written => .ok written
  | none => .error .badName

/-- The host of a web URL. -/
def parse : List Char → Except UrlFault Host
  | '[' :: rest => parseBracketed rest
  | cs => do
    let name ← parseName cs
    if name.isEmpty then .error .emptyHost
    else if endsInNumber name then
      match parse4? name with
      | some n => .ok (.address4 n)
      | none => .error .badAddress4
    else .ok (.name (String.ofList name))

/-- The host of a URL of any other scheme. -/
def parseOther : List Char → Except UrlFault Host
  | '[' :: rest => parseBracketed rest
  | cs =>
    if cs.any isForbiddenInHost then .error .badHostCharacter
    else .ok (.name (String.ofList (percentEncode isControl cs)))

/-- The text of a host. -/
def text : Host → String
  | .name s => s
  | .address4 n => text4 n
  | .address6 gs => "[" ++ text6 gs ++ "]"

end Host

end ThreatGraph
