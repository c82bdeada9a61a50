import ThreatGraph.Failure
import ThreatGraph.Json.Reader
import ThreatGraph.Retry
import ThreatGraph.Text.Lowercase

/-!
# What an answer says

The service reports a failure as an object with a member `error`, whatever the status of the answer.
`Envelope.ofBody?` finds the report, `Envelope.toFailure` names the failure, and `interpret` takes
an answer apart: a body that reports nothing is the result, as it stands.

A report names exactly one failure: the first of the rules of `Envelope.toFailure` that applies.
-/

set_option autoImplicit false

namespace ThreatGraph

/-- A report of a failure: its code, which is zero if it has none, its message, the whole of it, and
the status of the answer that carried it. -/
structure Envelope where
  code : Int
  message : String
  details : Json
  status : Nat
  deriving Repr, Inhabited

namespace Envelope

/-- The codes of a limit on the number of requests. -/
def rateLimitCodes : List Int := [4, 17, 613]

/-- The codes of a token that does not hold. -/
def authenticationCodes : List Int := [190, 102, 463, 467]

/-- The code of an object that does not exist. -/
def notFoundCode : Int := 803

/-- The codes of a missing grant. -/
def permissionCodes : List Int := [10, 200, 294]

/-- The code of a malformed parameter. -/
def validationCode : Int := 100

/-- The report in a body, if there is one. -/
def ofBody? (body : Json) (status : Nat) : Option Envelope :=
  match body.get? "error" with
  | none => none
  | some report =>
    some
      { code := ((report.get? "code").bind Json.asSigned64?).getD 0
        message := ((report.get? "message").bind Json.asString?).getD "Unknown error"
        details := report
        status := status }

/-- Whether a message speaks of a rate limit, in letters of either case. -/
def speaksOfRateLimit (message : String) : Bool :=
  occursIn "rate limit".toList (lowercase message.toList)

/-- The failure that a report names, where `retryAfter` is the time to wait at a rate limit. -/
def toFailure (retryAfter : Nat) (e : Envelope) : Failure :=
  if rateLimitCodes.contains e.code || speaksOfRateLimit e.message then
    .rateLimit e.message (some e.code) retryAfter
  else if authenticationCodes.contains e.code then .authentication e.message (some e.code)
  else if e.code = notFoundCode ∨ e.status = 404 then .notFound e.message (some e.code)
  else if permissionCodes.contains e.code then .permission e.message (some e.code)
  else if e.code = validationCode then .validation e.message (some e.code)
  else .generic e.message (some e.code) (some e.details)

end Envelope

/-- The result of an answer: its body, or the failure that the answer reports. `retryAfter` is the
text of the header that tells how long to wait. -/
def interpret (status : Nat) (retryAfter : Option String) (text : String) : Except Failure Json :=
  match Json.parse? text with
  | none =>
    if 400 ≤ status then
      .error (.generic ("API error: " ++ toString status ++ " - " ++ text) (some status) none)
    else .error (.ofMessage "Invalid JSON response from API")
  | some body =>
    match Envelope.ofBody? body status with
    | some envelope => .error (envelope.toFailure (readRetryAfter retryAfter))
    | none => .ok body

end ThreatGraph
