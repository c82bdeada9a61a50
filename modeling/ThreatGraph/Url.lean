import ThreatGraph.Text.Form
import ThreatGraph.Url.Host

/-!
# URLs

A URL in its parts. All parts are kept as they are written, with what has to be escaped escaped.

* `Url.base` writes it up to the end of its path, `Url.text` with its query; a fragment is never
  sent and neither writes it.
* `Url.queryPairs` and `Url.appendPairs` treat the query as a form.
-/

set_option autoImplicit false

namespace ThreatGraph

/-- The path of a URL: segments that each follow a slash, or a text of no structure. -/
inductive UrlPath where
  | segments (names : List String)
  | plain (text : String)
  deriving DecidableEq, Repr, Inhabited

/-- A URL. -/
structure Url where
  scheme : String
  username : String
  password : String
  host : Option Host
  port : Option Nat
  path : UrlPath
  query : Option String
  fragment : Option String
  deriving DecidableEq, Repr, Inhabited

namespace Url

/-- The port that a scheme implies. -/
def defaultPort? (scheme : String) : Option Nat :=
  if scheme = "http" ∨ scheme = "ws" then some 80
  else if scheme = "https" ∨ scheme = "wss" then some 443
  else if scheme = "ftp" then some 21
  else none

/-- The user information in front of a host. -/
def userText (u : Url) : String :=
  if u.username = "" ∧ u.password = "" then ""
  else u.username ++ (if u.password = "" then "" else ":" ++ u.password) ++ "@"

/-- The host and the port. -/
def hostText (u : Url) : String :=
  (match u.host with
    | some h => h.text
    | none => "")
  ++ (match u.port with
    | some p => ":" ++ toString p
    | none => "")

/-- The text of a path. -/
def pathText : UrlPath → String
  | .plain text => text
  | .segments names => String.join (names.map ("/" ++ ·))

/-- What stands between the scheme and the path. A path that begins with two slashes is kept apart
from a host that is not there. -/
def authorityText (u : Url) : String :=
  match u.host with
  | some _ => "//" ++ u.userText ++ u.hostText
  | none =>
    if u.scheme = "file" then "//"
    else match u.path with
      | .segments ("" :: _ :: _) => "/."
      | _ => ""

/-- The URL up to the end of its path. -/
def base (u : Url) : String :=
  u.scheme ++ ":" ++ u.authorityText ++ pathText u.path

/-- The query with its question mark. -/
def queryText (u : Url) : String :=
  match u.query with
  | some q => "?" ++ q
  | none => ""

/-- The URL without its fragment. -/
def text (u : Url) : String := u.base ++ u.queryText

/-- The pairs of the query. -/
def queryPairs (u : Url) : List (String × String) :=
  Form.decode (u.query.getD "").toList

/-- The URL with pairs added to the end of its query. -/
def appendPairs (u : Url) (pairs : List (String × String)) : Url :=
  let form := String.ofList (Form.encode pairs)
  let before := u.query.getD ""
  { u with query :=
      if before = "" then (if form = "" then none else some form)
      else if form = "" then some before else some (before ++ "&" ++ form) }

/-- The URL without user information. -/
def withoutUser (u : Url) : Url := { u with username := "", password := "" }

/-- Whether a URL names a host. -/
def hasHost (u : Url) : Bool :=
  match u.host with
  | some (.name s) => s ≠ ""
  | some _ => true
  | none => false

/-- The characters of a host name that a URL may hold and a request may not. -/
def isUnsendable (c : Char) : Bool := "\"\x60\x7b\x7d".toList.contains c

/-- The greatest number of bytes of a URL that is sent. -/
def greatestLength : Nat := 65534

/-- The URL as it is before its fragment is dropped. -/
def fullText (u : Url) : String :=
  u.text ++ (match u.fragment with
    | some f => "#" ++ f
    | none => "")

/-- Whether a request can be made for a URL. -/
def isSendable (u : Url) : Bool :=
  u.hasHost && !u.hostText.toList.any isUnsendable
    && u.withoutUser.fullText.utf8ByteSize ≤ greatestLength

end Url

end ThreatGraph
