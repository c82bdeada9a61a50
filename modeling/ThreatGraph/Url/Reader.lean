import ThreatGraph.Text.Blank
import ThreatGraph.Url

/-!
# Reading URLs

An absolute URL read the way browsers read it: controls and spaces at the ends and tabs and line
breaks anywhere are dropped, the scheme and the host are put into lower case, a port that the scheme
implies is left out, `.` and `..` are taken out of the path, and what has to be escaped is. In the
web schemes a backslash is a slash and the host must not be empty. In any other scheme a backslash
ends a port and begins the path, and it is an ordinary character elsewhere.

A segment that is the letter of a drive, such as `c:`, is never left by `..`. In front of the path
of a file it stands for a drive, and the file has no host.

* `Url.parse` reads a URL, or tells what is wrong with it.
-/

set_option autoImplicit false

namespace ThreatGraph.Url

/-! ## What is escaped where -/

/-- The characters escaped in a fragment. -/
def escapesInFragment (c : Char) : Bool := Host.isControl c || " \"<>\x60".toList.contains c

/-- The characters escaped in a path. -/
def escapesInPath (c : Char) : Bool := escapesInFragment c || "#?\x7b\x7d".toList.contains c

/-- The characters escaped in user information. -/
def escapesInUser (c : Char) : Bool := escapesInPath c || "/:;=@[\\]^|".toList.contains c

/-- The characters escaped in a query, with the apostrophe in web schemes only. -/
def escapesInQuery (web : Bool) (c : Char) : Bool :=
  Host.isControl c || " \"#<>".toList.contains c || (web && c == '\'')

/-! ## Schemes -/

/-- Whether a scheme has a host and treats backslashes as slashes. -/
def isWebScheme (scheme : String) : Bool :=
  ["http", "https", "ws", "wss", "ftp", "file"].contains scheme

/-- Whether a character may stand in a scheme after the first. -/
def isSchemeChar (c : Char) : Bool := c.isAlphanum || c == '+' || c == '-' || c == '.'

/-- The scheme of a URL and what follows its colon. -/
def readScheme? (cs : List Char) : Option (String × List Char) :=
  match cs with
  | c :: _ =>
    if c.isAlpha then
      match cs.dropWhile isSchemeChar with
      | ':' :: rest => some (String.ofList ((cs.takeWhile isSchemeChar).map Char.toLower), rest)
      | _ => none
    else none
  | [] => none

/-- Whether a character ends the host part of a URL. -/
def endsAuthority (web : Bool) (c : Char) : Bool :=
  c == '/' || c == '?' || c == '#' || (web && c == '\\')

/-- Whether a character separates the segments of a path. -/
def isSlash (web : Bool) (c : Char) : Bool := c == '/' || (web && c == '\\')

/-! ## User information, host and port -/

/-- A text cut at its last at sign, if it has one. -/
def splitLastAt (cs : List Char) : Option (List Char × List Char) :=
  match splitFirst '@' cs.reverse with
  | (after, some before) => some (before.reverse, after.reverse)
  | _ => none

/-- The user name and the password of a URL and the text of its host and port. -/
def readUser (cs : List Char) : String × String × List Char :=
  match splitLastAt cs with
  | none => ("", "", cs)
  | some (user, rest) =>
    let (name, password) := splitFirst ':' user
    (String.ofList (percentEncode escapesInUser name),
      String.ofList (percentEncode escapesInUser (password.getD [])), rest)

/-- A text cut before the first colon outside square brackets. -/
def splitHost : Bool → List Char → List Char × List Char
  | _, [] => ([], [])
  | inside, c :: rest =>
    if c = ':' ∧ !inside then ([], c :: rest)
    else
      let r := splitHost (if c = '[' then true else if c = ']' then false else inside) rest
      (c :: r.1, r.2)

/-- The value of a port and what follows it, which is nothing or begins with a backslash; digits
count up to the greatest port before anything else is looked at. -/
def readPort : Nat → List Char → Except UrlFault (Nat × List Char)
  | acc, [] => .ok (acc, [])
  | acc, c :: rest =>
    match digitValue? c with
    | none => if c = '\\' then .ok (acc, c :: rest) else .error .badPort
    | some d => if 65535 < acc * 10 + d then .error .badPort else readPort (acc * 10 + d) rest

/-- The port after a host, unless the scheme implies it or it has no digits, and what follows it. -/
def parsePort (scheme : String) : List Char → Except UrlFault (Option Nat × List Char)
  | ':' :: digits => do
    let (port, rest) ← readPort 0 digits
    let isPlain := rest.length = digits.length ∨ some port = defaultPort? scheme
    pure (if isPlain then none else some port, rest)
  | _ => .ok (none, [])

/-- A host together with the port after it, and the part of the path that follows the port. -/
def parseHostPort (scheme : String) (cs : List Char) :
    Except UrlFault (Host × Option Nat × List Char) := do
  let web := isWebScheme scheme
  let (hostText, portText) := splitHost false cs
  if hostText.isEmpty ∧ (web ∨ !portText.isEmpty) then throw .emptyHost
  let host ← if web then Host.parse hostText else Host.parseOther hostText
  let (port, rest) ← parsePort scheme portText
  pure (host, port, rest)

/-! ## Paths -/

/-- Whether a segment stands for the directory itself. -/
def isSingleDot (segment : List Char) : Bool :=
  [".", "%2e"].contains (String.ofList (segment.map Char.toLower))

/-- Whether a segment stands for the directory above. -/
def isDoubleDot (segment : List Char) : Bool :=
  ["..", ".%2e", "%2e.", "%2e%2e"].contains (String.ofList (segment.map Char.toLower))

/-- Whether a segment is the letter of a drive, with a colon or a bar. -/
def isDriveLetter : List Char → Bool
  | [c, d] => c.isAlpha && (d == ':' || d == '|')
  | _ => false

/-- Whether a character counts for nothing anywhere in a URL. -/
def isSkipped (c : Char) : Bool := c == '\t' || c == '\n' || c == '\r'

/-- The characters that count. -/
def dropSkipped (cs : List Char) : List Char := cs.filter (!isSkipped ·)

/-- The drive and the name after it, of a piece that has a tab or a line break right after the colon
of the drive. -/
def splitDrive? (piece : List Char) : Option (List Char × List Char) :=
  match dropSkipped piece, piece.dropWhile (· != ':') with
  | c :: ':' :: d :: name, ':' :: gap :: _ =>
    if c.isAlpha && isSkipped gap then some ([c, ':'], d :: name) else none
  | _, _ => none

/-- A path as far as it is read: its segments, the last one first, and whether the first of them is
the drive of a file. -/
structure Trail where
  names : List String
  drive : Bool
  deriving DecidableEq, Repr, Inhabited

namespace Trail

/-- The path before its first segment. -/
def start : Trail := ⟨[], false⟩

/-- A path with a segment added. -/
def push (t : Trail) (segment : List Char) : Trail :=
  { t with names := String.ofList (percentEncode escapesInPath segment) :: t.names }

/-- A path one step up, which never leaves the letter of a drive. -/
def up (t : Trail) : Trail :=
  match t.names with
  | [] => t
  | name :: names => if isDriveLetter name.toList then t else { t with names }

/-- A path after a dot segment, which leaves an empty one behind if no piece follows it. -/
def settle (isLast : Bool) (t : Trail) : Trail := if isLast then t.push [] else t

/-- A path after one more piece of its text. Only in front of the path of a file does the letter of
a drive have its bar turned into a colon. -/
def step (file isLast : Bool) (t : Trail) (piece : List Char) : Trail :=
  let segment := dropSkipped piece
  let first := file && t.names.isEmpty
  match if first then splitDrive? piece else none with
  | some (letter, name) => (t.push letter).push name
  | none =>
    if isDoubleDot segment then t.up.settle isLast
    else if isSingleDot segment then t.settle isLast
    else if first && isDriveLetter segment then
      { t.push (segment.take 1 ++ [':']) with drive := true }
    else t.push segment

/-- A path after all pieces of its text. -/
def walk (file : Bool) : Trail → List (List Char) → Trail
  | t, [] => t
  | t, piece :: rest => walk file (t.step file rest.isEmpty piece) rest

/-- The segments of a path in order. -/
def segments (t : Trail) : List String := t.names.reverse

end Trail

/-- The pieces of a path text between its slashes. -/
def pathPieces (web : Bool) (cs : List Char) : List (List Char) :=
  splitOn '/' (cs.map fun c => if isSlash web c then '/' else c)

/-- A path text without the slash in front of it. -/
def dropSlash (web : Bool) : List Char → List Char
  | [] => []
  | c :: rest => if isSlash web c then rest else c :: rest

/-- The segments of a path text whose first slash, if it has one, is the one before the first
segment. -/
def readSegments (web : Bool) (cs : List Char) : List String :=
  (Trail.walk false .start (pathPieces web (dropSlash web cs))).segments

/-- The segments of the path of a file, which has no empty ones in front. -/
def dropEmptyNames : List String → List String
  | "" :: name :: rest => dropEmptyNames (name :: rest)
  | names => names

/-! ## Whole URLs -/

/-- A text cut into what stands before the query and the fragment, the query and the fragment. -/
def splitTail (cs : List Char) : List Char × Option (List Char) × Option (List Char) :=
  let (front, fragment) := splitFirst '#' cs
  let (front, query) := splitFirst '?' front
  (front, query, fragment)

/-- The path, query and fragment of a URL whose host part is read. -/
def finish (url : Url) (path : UrlPath) (query fragment : Option (List Char)) : Url :=
  { url with
    path
    query := query.map fun q =>
      String.ofList (percentEncode (escapesInQuery (isWebScheme url.scheme)) q)
    fragment := fragment.map fun f => String.ofList (percentEncode escapesInFragment f) }

/-- A URL of which only the scheme is known. -/
def ofScheme (scheme : String) : Url :=
  ⟨scheme, "", "", none, none, .segments [], none, none⟩

/-- A URL with a host, after the slashes in front of it. -/
def parseAuthority (scheme : String) (cs : List Char) : Except UrlFault Url := do
  let web := isWebScheme scheme
  let (front, query, fragment) := splitTail cs
  let authority := front.takeWhile (!endsAuthority web ·)
  let path := front.dropWhile (!endsAuthority web ·)
  let (username, password, hostPort) := readUser authority
  let ends := path.isEmpty && query.isNone && fragment.isNone
  if hostPort.isEmpty ∧ (username ≠ "" ∨ password ≠ "" ∨ authority = ['@'] ∧ !ends) then
    throw .emptyHost
  let (host, port, before) ← parseHostPort scheme hostPort
  let path := before ++ path
  let segments := if path.isEmpty ∧ !web then [] else readSegments web path
  pure (finish { ofScheme scheme with username, password, host := some host, port }
    (.segments segments) query fragment)

/-- The text after the slash in front of a text, if there is one. -/
def afterSlash? (cs : List Char) : Option (List Char) :=
  match cs.dropWhile isSkipped with
  | c :: rest => if isSlash true c then some rest else none
  | [] => none

/-- A URL of a file, from its host and the text of its path after the slash in front of it. A drive
is on no host. -/
def ofFile (host : Option Host) (cs : List Char) (query fragment : Option (List Char)) : Url :=
  let trail := Trail.walk true .start (pathPieces true cs)
  finish { ofScheme "file" with host := if trail.drive then none else host }
    (.segments (dropEmptyNames trail.segments)) query fragment

/-- A URL of a file, after its scheme. What counts for nothing is still in the text, for a gap after
the colon of a drive separates the drive from what follows. Where no host stands between two slashes
and a path, the slash of the path is one more empty segment in front. -/
def parseFile (cs : List Char) : Except UrlFault Url := do
  let (front, query, fragment) := splitTail cs
  let query := query.map dropSkipped
  let fragment := fragment.map dropSkipped
  match afterSlash? front with
  | none => pure (ofFile none front query fragment)
  | some path =>
    match afterSlash? path with
    | none => pure (ofFile none path query fragment)
    | some rest =>
      let hostText := dropSkipped (rest.takeWhile (!isSlash true ·))
      let path := rest.dropWhile (!isSlash true ·)
      if hostText.isEmpty || isDriveLetter hostText then pure (ofFile none rest query fragment)
      else
        match ← Host.parse hostText with
        | .name "localhost" => pure (ofFile none path query fragment)
        | host => pure (ofFile (some host) (dropSlash true path) query fragment)

/-- A URL without a host, after its scheme. -/
def parseHostless (scheme : String) (cs : List Char) : Url :=
  let (front, query, fragment) := splitTail cs
  let path := match front with
    | '/' :: _ => .segments (readSegments false front)
    | _ => .plain (String.ofList (percentEncode Host.isControl front))
  finish (ofScheme scheme) path query fragment

/-- Whether a character is dropped at the ends of a URL. -/
def isOuterBlank (c : Char) : Bool := c.toNat ≤ 0x20

/-- The text of a URL without what is dropped at its ends. -/
def trim (text : String) : List Char :=
  dropEndWhile isOuterBlank (text.toList.dropWhile isOuterBlank)

/-- An absolute URL. -/
def parse (text : String) : Except UrlFault Url :=
  let trimmed := trim text
  match readScheme? (dropSkipped trimmed) with
  | none => .error .noScheme
  | some (scheme, rest) =>
    if scheme = "file" then parseFile ((splitFirst ':' trimmed).2.getD [])
    else if isWebScheme scheme then parseAuthority scheme (rest.dropWhile (isSlash true))
    else match rest with
      | '/' :: '/' :: rest => parseAuthority scheme rest
      | _ => .ok (parseHostless scheme rest)

end ThreatGraph.Url
