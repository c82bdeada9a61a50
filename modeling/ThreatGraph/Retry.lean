import ThreatGraph.Failure
import ThreatGraph.Text.Blank

/-!
# Trying again

After a rate limit is reached a call is tried again, a limited number of times, each after the time
that the service asks for. No other failure is tried again.
-/

set_option autoImplicit false

namespace ThreatGraph

/-- The seconds to wait where the service does not say. -/
def defaultRetryAfter : Nat := 60

/-- The seconds to wait that a header asks for: a whole number of 64 bits, with any blanks around
it. A header that is absent or holds anything else asks for the default. -/
def readRetryAfter (header : Option String) : Nat :=
  match header with
  | some text => (readUnsigned? maxUnsigned64 (trim text.toList)).getD defaultRetryAfter
  | none => defaultRetryAfter

/-- Whether and how often to try again. -/
structure RetryPolicy where
  enabled : Bool := true
  maxRetries : Nat := 3
  deriving DecidableEq, Repr, Inhabited

namespace RetryPolicy

/-- The seconds to wait before trying again after a failure, or none if it is final. `retries` is
the number of times that the call was tried again already. -/
def backoff? (policy : RetryPolicy) (retries : Nat) (failure : Failure) : Option Nat :=
  if policy.enabled ∧ retries < policy.maxRetries then failure.retryAfter? else none

/-- How often a call may be tried again. -/
def budget (policy : RetryPolicy) : Nat := if policy.enabled then policy.maxRetries else 0

/-- A call is tried again exactly if it may be once more and the failure asks for it. -/
theorem backoff?_eq (policy : RetryPolicy) (retries : Nat) (failure : Failure) :
    policy.backoff? retries failure =
      if retries < policy.budget then failure.retryAfter? else none := by
  cases h : policy.enabled <;> simp [backoff?, budget, h]

end RetryPolicy

end ThreatGraph
