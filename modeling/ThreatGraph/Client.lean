import ThreatGraph.Config
import ThreatGraph.Credentials
import ThreatGraph.Envelope
import ThreatGraph.Network
import ThreatGraph.Request
import ThreatGraph.Url.Reader

/-!
# Clients

A client sends requests in the name of its credentials and interprets the answers.

* `Client.create` makes a client of credentials and settings that can work.
* `Client.resolve` is the address of an endpoint.
* `Client.prepare` puts a request in the form in which it is sent, with the token of the client.
* `Client.attempt` sends a request once, and `Client.execute` sends it again after a rate limit.

A client with a throttle waits for it before each request that it sends, and a retry is one more
request. This wait is not the one that a rate limit asks for.

A call that succeeds uses up an answer of the script at the least (`Client.execute_script_lt`).
-/

set_option autoImplicit false

namespace ThreatGraph

/-- A client of the service. -/
structure Client where
  credentials : Credentials
  config : Config
  deriving DecidableEq, Repr, Inhabited

namespace Client

/-- The parameter that carries the token. -/
def tokenParam : String := "access_token"

/-- Whether a character may stand in a header that is sent. -/
def isHeaderChar (c : Char) : Bool := c == '\t' || (0x20 ≤ c.toNat && c.toNat ≠ 0x7f)

/-- A client with the given credentials and settings. -/
def create (credentials : Credentials) (config : Config) : Except Failure Client := do
  credentials.validate
  config.validate
  if config.userAgent.toList.all isHeaderChar then pure ⟨credentials, config⟩
  else throw (.ofTransport ⟨.request, none⟩)

/-- When a client tries again. -/
def retryPolicy (c : Client) : RetryPolicy := ⟨c.config.retryOnRateLimit, c.config.maxRetries⟩

/-- Whether a client holds back requests. -/
def hasThrottle (c : Client) : Bool := c.config.throttle.isSome

/-- The description of a client. -/
def description (c : Client) : String :=
  describeSomeFields "ThreatExchangeClient"
    [("credentials", c.credentials.description), ("config", c.config.description),
     ("has_throttle", Config.describeBool c.hasThrottle)]

/-! ## Addresses -/

/-- Whether an endpoint is a URL of its own. -/
def isAbsolute (endpoint : String) : Bool :=
  (afterStart? "http://".toList endpoint.toList).isSome
    || (afterStart? "https://".toList endpoint.toList).isSome

/-- The address of a version of the service. -/
def versionAddress (baseUrl apiVersion : String) : String :=
  String.ofList (dropTrailing '/' baseUrl.toList) ++ "/"
    ++ String.ofList (dropTrailing '/' (dropLeading '/' apiVersion.toList))

/-- The address of an endpoint below that of the service. -/
def address (baseUrl apiVersion endpoint : String) : String :=
  if isAbsolute endpoint then endpoint
  else
    versionAddress baseUrl apiVersion ++ "/" ++ String.ofList (dropLeading '/' endpoint.toList)

/-- The address below which a client finds the service. -/
def root (c : Client) : String := versionAddress c.config.baseUrl c.config.apiVersion

/-- The address of an endpoint. -/
def resolve (c : Client) (endpoint : String) : String :=
  address c.config.baseUrl c.config.apiVersion endpoint

/-! ## Requests -/

/-- The parameters of a request with the token among them. -/
def signed (c : Client) (p : Params) : Params := p.insertText tokenParam c.credentials.accessToken

/-- The pairs that a request puts into its URL. A posted request puts only the token there. -/
def queryPairs (c : Client) (r : Request) : List (String × String) :=
  match r.method with
  | .get => (c.signed r.query).pairs
  | .post => [(tokenParam, c.credentials.accessToken)]
  | .delete => (c.signed ((c.signed r.query).merge r.body)).pairs

/-- The body of a request. Only a posted request has one: the form of all its parameters. -/
def payload (c : Client) (r : Request) : Payload :=
  match r.method with
  | .post => .form (String.ofList (Form.encode ((c.signed r.query).merge r.body).pairs))
  | _ => .empty

/-- The URL of an address with pairs added to its query, if a request can be made for it. -/
def locate? (address : String) (pairs : List (String × String)) : Option Url :=
  match Url.parse address with
  | .error _ => none
  | .ok url =>
    let url := url.appendPairs pairs
    if (url.scheme = "http" ∨ url.scheme = "https") ∧ url.isSendable then
      some { url.withoutUser with fragment := none }
    else none

/-- The error for an address that no request can be made for. It names the URL, where the address is
one. -/
def locateError (address : String) (pairs : List (String × String)) : TransportError :=
  ⟨.request, (Url.parse address).toOption.map (·.appendPairs pairs)⟩

/-- A request in the form in which it is sent. -/
def prepare (c : Client) (r : Request) : Except Failure Message :=
  match locate? (c.resolve r.endpoint) (c.queryPairs r) with
  | some url => .ok ⟨r.method.text, url, c.config.userAgent, c.payload r⟩
  | none => .error (.ofTransport (locateError (c.resolve r.endpoint) (c.queryPairs r)))

/-! ## Calls -/

/-- Sends a message and interprets the answer. -/
def deliver (message : Message) : Call Json := fun w =>
  match w.exchange message with
  | (.ok answer, w) => (interpret answer.status (answer.header? "Retry-After") answer.text, w)
  | (.error error, w) => (.error (.ofTransport error), w)

/-- Waits for the throttle of a client, if it has one. -/
def acquire (c : Client) (w : World) : World := if c.hasThrottle then w.hold else w

/-- Sends a request once. -/
def attempt (c : Client) (r : Request) : Call Json := fun w =>
  let w := (c.acquire w).note .debug .client (r.method.text ++ " " ++ c.resolve r.endpoint)
  match c.prepare r with
  | .ok message => deliver message w
  | .error failure => (.error failure, w)

/-- The entry of the log when a request is to be sent again. -/
def retryNote (failure : Failure) (retries maxRetries seconds : Nat) : String :=
  "Rate limited (" ++ failure.message ++ "), retry " ++ toString (retries + 1) ++ "/"
    ++ toString maxRetries ++ ", waiting " ++ toString seconds ++ "s"

/-- What follows an attempt: the client waits and goes on with `again` if the failure and the number
of retries so far allow it. -/
def resume (c : Client) (retries : Nat) (again : Call Json) :
    Except Failure Json × World → Except Failure Json × World
  | (.ok body, w) => (.ok body, w)
  | (.error failure, w) =>
    match c.retryPolicy.backoff? retries failure with
    | some seconds =>
      again ((w.note .warn .client
        (retryNote failure retries c.retryPolicy.maxRetries seconds)).sleep seconds)
    | none => (.error failure, w)

/-- Sends a request that was sent again `retries` times already, and at most `left` times more. -/
def executeFrom (c : Client) (r : Request) (retries : Nat) : Nat → Call Json
  | 0, w => c.attempt r w
  | left + 1, w => c.resume retries (executeFrom c r (retries + 1) left) (c.attempt r w)

/-- Sends a request, and again after a rate limit as often as the client may. -/
def execute (c : Client) (r : Request) : Call Json :=
  c.executeFrom r 0 c.retryPolicy.budget

/-- Gets what is at an endpoint. -/
def get (c : Client) (endpoint : String) (params : Params) : Call Json :=
  c.execute { method := .get, endpoint := endpoint, query := params }

/-- Posts parameters to an endpoint. -/
def post (c : Client) (endpoint : String) (params : Params) : Call Json :=
  c.execute { method := .post, endpoint := endpoint, body := params }

/-- Deletes what is at an endpoint. -/
def delete (c : Client) (endpoint : String) (params : Params) : Call Json :=
  c.execute { method := .delete, endpoint := endpoint, query := params }

/-! ## What a call leaves of the script -/

/-- The answer to a request that the script does not foresee is a failure. -/
theorem interpret_unforeseen (header : Option String) :
    ∀ a, World.receive .unforeseen = .ok a → ∀ body,
      interpret a.status header a.text ≠ .ok body := by
  intro a ha body
  have hstatus : a.status = 500 := by
    simp only [World.receive, Outcome.unforeseen, Bool.false_eq_true, if_false] at ha
    injection ha with ha
    rw [← ha]
  have htext : a.text = "script exhausted" := by
    simp only [World.receive, Outcome.unforeseen, Bool.false_eq_true, if_false] at ha
    injection ha with ha
    rw [← ha]
    decide +kernel
  have hparse : Json.parse? "script exhausted" = none := by decide +kernel
  rw [hstatus, htext]
  simp [interpret, hparse]

/-- An exchange takes at most one answer from the script. -/
theorem exchange_script_le (message : Message) (w : World) :
    (w.exchange message).2.script.length ≤ w.script.length := by
  unfold World.exchange World.record
  repeat' split
  all_goals simp_all

theorem deliver_script_le (message : Message) (w : World) :
    (deliver message w).2.script.length ≤ w.script.length := by
  have h := exchange_script_le message w
  unfold deliver
  split <;> simp_all

/-- A delivery that gives a result takes an answer from the script. -/
theorem deliver_script_lt {message : Message} {w : World} {body : Json}
    (h : (deliver message w).1 = .ok body) :
    (deliver message w).2.script.length < w.script.length := by
  revert h
  unfold deliver World.exchange
  split
  · next answer w' heq =>
    split at heq
    · cases hs : w.script with
      | nil =>
        simp only [hs, World.record, Prod.mk.injEq] at heq
        intro h
        exact absurd h (interpret_unforeseen _ answer (World.receiveFrom_eq_ok_iff.1 heq.1) body)
      | cons outcome script =>
        simp only [hs, Prod.mk.injEq] at heq
        intro _
        rw [← heq.2]
        simp
    · exact absurd (congrArg Prod.fst heq) (by simp [World.receiveFrom_eq_ok_iff, World.receive])
  · intro h
    simp at h

/-- Waiting for the throttle leaves the script as it is. -/
theorem acquire_script (c : Client) (w : World) : (c.acquire w).script = w.script := by
  unfold acquire
  split <;> rfl

theorem attempt_script_le (c : Client) (r : Request) (w : World) :
    (c.attempt r w).2.script.length ≤ w.script.length := by
  have hready := congrArg List.length (acquire_script c w)
  unfold attempt
  split
  · exact Nat.le_trans (deliver_script_le _ _) (Nat.le_of_eq hready)
  · exact Nat.le_of_eq hready

theorem attempt_script_lt {c : Client} {r : Request} {w : World} {body : Json}
    (h : (c.attempt r w).1 = .ok body) :
    (c.attempt r w).2.script.length < w.script.length := by
  have hready := congrArg List.length (acquire_script c w)
  revert h
  unfold attempt
  split
  · intro h
    exact Nat.lt_of_lt_of_eq (deliver_script_lt h) hready
  · intro h
    simp at h

theorem executeFrom_script_lt {c : Client} {r : Request} {left retries : Nat} {w : World}
    {body : Json} (h : (c.executeFrom r retries left w).1 = .ok body) :
    (c.executeFrom r retries left w).2.script.length < w.script.length := by
  induction left generalizing retries w with
  | zero =>
    rw [executeFrom] at h ⊢
    exact attempt_script_lt h
  | succ left ih =>
    rw [executeFrom] at h ⊢
    have hle := attempt_script_le c r w
    have hlt := @attempt_script_lt c r w
    generalize c.attempt r w = result at h hle hlt ⊢
    obtain ⟨failure | body', w'⟩ := result
    · rw [resume] at h ⊢
      split at h
      · exact Nat.lt_of_lt_of_le (ih h) hle
      · cases h
    · exact hlt rfl

/-- A call that gives a result takes an answer from the script. -/
theorem execute_script_lt {c : Client} {r : Request} {w : World} {body : Json}
    (h : (c.execute r w).1 = .ok body) :
    (c.execute r w).2.script.length < w.script.length :=
  executeFrom_script_lt h

end Client

end ThreatGraph
