import ThreatGraph.Json
import ThreatGraph.Url

/-!
# Failures

What can go wrong in a call: the service refuses it, the network fails, or something on this side
is unusable. `Failure.kind` sorts failures into six kinds by what a caller may do about them, and
`Failure.message` is the text that a user reads.

An error of the transport may name the URL that the request was for, and the URL of a request holds
the token. `Failure.ofTransport` drops the URL before the error becomes a failure.

Of all failures only a reached rate limit is worth trying again, after the time that the service
asks for (`Failure.retryAfter?`).
-/

set_option autoImplicit false

namespace ThreatGraph

/-- What a caller may do about a failure. -/
inductive FailureKind where
  | generic
  | authentication
  | rateLimit
  | notFound
  | permission
  | validation
  deriving DecidableEq, Repr, Inhabited

/-- How the exchange of a request and its answer fails. -/
inductive TransportFault where
  /-- No answer: the connection cannot be made or ends early, or the time is up. -/
  | connection (timedOut : Bool)
  /-- The body of the answer ends early. -/
  | body
  /-- The request cannot be made up: its URL or one of its headers is unusable. -/
  | request
  deriving DecidableEq, Repr, Inhabited

/-- The text of a transport fault. -/
def TransportFault.message : TransportFault → String
  | .connection _ => "error sending request"
  | .body => "error decoding response body"
  | .request => "builder error"

/-- Whether the time was up. -/
def TransportFault.timedOut : TransportFault → Bool
  | .connection b => b
  | _ => false

/-- An error of the transport: what went wrong, and the URL that it went wrong with. -/
structure TransportError where
  fault : TransportFault
  url : Option Url
  deriving DecidableEq, Repr, Inhabited

namespace TransportError

/-- The text of a transport error, which shows the URL. -/
def message (e : TransportError) : String :=
  e.fault.message ++ (match e.url with
    | some url => " for url (" ++ url.fullText ++ ")"
    | none => "")

/-- Whether the time was up. -/
def timedOut (e : TransportError) : Bool := e.fault.timedOut

/-- The error without the URL. -/
def withoutUrl (e : TransportError) : TransportError := { e with url := none }

end TransportError

/-- A failure. Those that the service reports carry its message and its code. -/
inductive Failure where
  | generic (message : String) (code : Option Int) (details : Option Json)
  | authentication (message : String) (code : Option Int)
  /-- The service asks to wait some seconds. -/
  | rateLimit (message : String) (code : Option Int) (retryAfter : Nat)
  | notFound (message : String) (code : Option Int)
  | permission (message : String) (code : Option Int)
  | validation (message : String) (code : Option Int)
  | transport (error : TransportError)
  | invalidUrl (fault : UrlFault)
  | unreadableJson
  | unreadableYaml
  | io (reason : String)
  | config (message : String)
  deriving Repr, Inhabited, BEq

namespace Failure

/-- The kind of a failure. -/
def kind : Failure → FailureKind
  | .authentication _ _ => .authentication
  | .rateLimit _ _ _ => .rateLimit
  | .notFound _ _ => .notFound
  | .permission _ _ => .permission
  | .validation _ _ => .validation
  | _ => .generic

/-- The code that the service gave. -/
def code? : Failure → Option Int
  | .generic _ code _ | .authentication _ code | .rateLimit _ code _ | .notFound _ code
  | .permission _ code | .validation _ code => code
  | _ => none

/-- The seconds to wait before the call is worth trying again. -/
def retryAfter? : Failure → Option Nat
  | .rateLimit _ _ seconds => some seconds
  | _ => none

/-- Whether the call is worth trying again. -/
def isRetryable (f : Failure) : Bool := f.retryAfter?.isSome

/-- A message with its code in front, unless that is absent or zero. -/
def coded (code : Option Int) (message : String) : String :=
  match code with
  | none | some 0 => message
  | some code => "[" ++ toString code ++ "] " ++ message

/-- The text of a failure. -/
def message : Failure → String
  | .generic message code _ | .authentication message code | .rateLimit message code _
  | .notFound message code | .permission message code | .validation message code =>
    coded code message
  | .transport error => "Request failed: " ++ error.message
  | .invalidUrl fault => "Invalid URL: " ++ fault.message
  | .unreadableJson => "Failed to parse JSON"
  | .unreadableYaml => "Failed to parse YAML"
  | .io reason => "IO error: " ++ reason
  | .config message => "Configuration error: " ++ message

/-- The failure of a transport error. The URL is dropped since it carries the token. -/
def ofTransport (e : TransportError) : Failure := .transport e.withoutUrl

/-- A failure that no code of the service describes. -/
def ofMessage (message : String) : Failure := .generic message none none

/-- A failure found before anything is sent. -/
def invalidRequest (message : String) : Failure := .validation message none

end Failure

end ThreatGraph
