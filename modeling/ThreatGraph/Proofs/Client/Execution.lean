import Mathlib.Data.List.Forall2
import ThreatGraph.Client
import ThreatGraph.Proofs.Network.Journal

/-!
# Executing a request

`Client.execute` sends a request, and sends it again after each rate limit until the answer is
something else or the budget is used up.  This file says exactly what it sends, how long it waits
and what it gives, for every script.

* `Outcome.reading` is what a client makes of one outcome, and `Outcome.isLimit` holds of the
  outcomes that are a reached rate limit.
* `Client.attempt_of_prepared` is one attempt: the wait for the throttle, if the client has one, an
  entry in the log, the message, and one outcome of the script.
* `Client.executeFrom_of_prepared` is the loop.  Its `retries` and `left` always add up to the
  budget, which is what makes the policy and the bound of the recursion stop at the same attempt.
* `Client.RetryWarns` says what a warning in front of a retry tells, apart from the function that
  writes it.
* `Client.execute_of_sendable` puts it together, in terms of the least index of an outcome that is
  no rate limit.  There are waits of two kinds, and they are counted apart: the client sleeps for a
  rate limit, and is held by its throttle.
* `Client.execute_oblivious` says for every request, sendable or not, that what happened before the
  call changes nothing about it.
-/

set_option autoImplicit false

namespace ThreatGraph

/-! ## Reading an outcome

The network is a script of outcomes, and what a client makes of one is a matter of that outcome
alone: not of the request, the URL or how often it was tried.  What the script does not foresee is
an outcome as well, and no rate limit, so there always is a first one that is none. -/

namespace Outcome

/-- What a client makes of an outcome: the result of the answer, or the fault of the transport. -/
def reading (o : Outcome) : Except Failure Json :=
  match World.receive o with
  | .ok answer => interpret answer.status (answer.header? "Retry-After") answer.text
  | .error fault => .error (.transport ⟨fault, none⟩)

/-- The seconds that an outcome asks to wait, sixty where it does not say. -/
def retryAfter (o : Outcome) : Nat :=
  match World.receive o with
  | .ok answer => readRetryAfter (answer.header? "Retry-After")
  | .error _ => defaultRetryAfter

/-- Whether an outcome is a reached rate limit. -/
def isLimit (o : Outcome) : Bool :=
  match o.reading with
  | .error (.rateLimit _ _ _) => true
  | _ => false

/-- The failure that a client reads in an outcome, where there is one. -/
def failure (o : Outcome) : Failure :=
  match o.reading with
  | .error failure => failure
  | .ok _ => default

theorem isLimit_iff {o : Outcome} :
    o.isLimit = true ↔
      ∃ message code seconds, o.reading = .error (.rateLimit message code seconds) := by
  rw [isLimit]
  split
  · next message code seconds h => simp [h]
  · next h =>
    simp only [Bool.false_eq_true, false_iff, not_exists]
    exact fun message code seconds hr => h message code seconds hr

end Outcome

/-- A report asks to wait as long as the header says, if it asks to wait at all. -/
theorem Envelope.seconds_of_toFailure {e : Envelope} {header seconds : Nat} {message : String}
    {code : Option Int} (h : e.toFailure header = .rateLimit message code seconds) :
    seconds = header := by
  rw [Envelope.toFailure] at h
  split at h
  · injection h with _ _ h
    exact h.symm
  · repeat' (split at h)
    all_goals simp at h

/-- The wait in a rate limit is the one that the header asks for. -/
theorem seconds_of_interpret {status : Nat} {header : Option String} {text message : String}
    {code : Option Int} {seconds : Nat}
    (h : interpret status header text = .error (.rateLimit message code seconds)) :
    seconds = readRetryAfter header := by
  rw [interpret] at h
  split at h
  · split at h <;> simp [Failure.ofMessage] at h
  · split at h
    · injection h with h
      exact Envelope.seconds_of_toFailure h
    · simp at h

/-- So is the wait that is read in an outcome. -/
theorem Outcome.seconds_of_reading {o : Outcome} {message : String} {code : Option Int}
    {seconds : Nat} (h : o.reading = .error (.rateLimit message code seconds)) :
    seconds = o.retryAfter := by
  rw [reading] at h
  rw [retryAfter]
  split at h
  · exact seconds_of_interpret h
  · simp at h

namespace World

/-- What comes of the request that is sent after `i` others. -/
def outcome (w : World) (i : Nat) : Outcome := w.script[i]?.getD .unforeseen

/-- The least index of an outcome that is no rate limit.  There always is one: what the script does
not foresee is none. -/
def settledAt (w : World) : Nat := w.script.findIdx fun o => !o.isLimit

theorem outcome_of_lt {w : World} {i : Nat} (h : i < w.script.length) :
    w.outcome i = w.script[i] := by
  rw [outcome, List.getElem?_eq_getElem h, Option.getD_some]

theorem outcome_of_le {w : World} {i : Nat} (h : w.script.length ≤ i) :
    w.outcome i = .unforeseen := by
  rw [outcome, List.getElem?_eq_none h, Option.getD_none]

/-- What the script does not foresee is read as an error of the service. -/
theorem reading_unforeseen : Outcome.unforeseen.reading =
    .error (.generic "API error: 500 - script exhausted" (some 500) none) := by
  have hreceive : World.receive .unforeseen =
      .ok ⟨500, [], utf8Bytes "script exhausted".toList, false⟩ := rfl
  have htext : Answer.text ⟨500, [], utf8Bytes "script exhausted".toList, false⟩
      = "script exhausted" := by decide +kernel
  have hparse : Json.parse? "script exhausted" = none := by decide +kernel
  have hmessage : "API error: " ++ toString 500 ++ " - " ++ "script exhausted"
      = "API error: 500 - script exhausted" := by decide +kernel
  rw [Outcome.reading, hreceive]
  simp only [htext, interpret, hparse, Nat.reduceLeDiff, if_true, hmessage]
  rfl

/-- What the script does not foresee is no rate limit. -/
theorem isLimit_unforeseen : Outcome.unforeseen.isLimit = false := by
  rw [Outcome.isLimit, reading_unforeseen]

/-- What comes before the first outcome that is no rate limit is a rate limit, and it is none. -/
theorem settledAt_spec (w : World) :
    (∀ i < w.settledAt, (w.outcome i).isLimit = true) ∧
      (w.outcome w.settledAt).isLimit = false := by
  constructor
  · intro i hi
    have hlt : i < w.script.length := Nat.lt_of_lt_of_le hi List.findIdx_le_length
    have h := List.not_of_lt_findIdx hi
    rw [outcome_of_lt hlt]
    simpa using h
  · rcases Nat.lt_or_ge w.settledAt w.script.length with hlt | hge
    · have h := List.findIdx_getElem (w := hlt)
      rw [outcome_of_lt hlt]
      exact (Bool.not_eq_eq_eq_not).1 h
    · rw [outcome_of_le hge]
      exact isLimit_unforeseen

@[simp] theorem outcome_advance (events : List Event) (w : World) (i : Nat) :
    (w.advance events w.script).outcome i = w.outcome i := rfl

/-- What comes of a request after some outcomes are used up. -/
theorem outcome_advance_drop (events : List Event) (n : Nat) (w : World) (i : Nat) :
    (w.advance events (w.script.drop n)).outcome i = w.outcome (n + i) := by
  rw [outcome, advance_script, List.getElem?_drop, outcome]

/-- A request that the network carries is sent, and the next outcome comes of it. -/
theorem exchange_of_carried {w : World} {message : Message}
    (h : w.carries.contains message.url.scheme = true) :
    w.exchange message =
      (receiveFrom message.url (w.outcome 0), w.advance [.sent message] (w.script.drop 1)) := by
  rw [exchange, if_pos h]
  cases hs : w.script with
  | nil =>
    rw [outcome_of_le (by simp [hs])]
    simp only [record, advance, hs, List.drop_nil]
  | cons o os =>
    rw [outcome_of_lt (by simp [hs])]
    simp only [record, advance, hs, List.getElem_cons_zero, List.drop_succ_cons, List.drop_zero]

end World

/-! ## One attempt

An attempt either fails before anything is sent or sends one message, which is the same each time:
the message is made from the request and the settings.  In front of either comes the wait for the
throttle, if there is one, and an entry in the log. -/

namespace Client

/-- The message that a request is sent as goes to the URL that is found for it. -/
theorem prepare_eq_ok_iff {c : Client} {r : Request} {message : Message} :
    c.prepare r = .ok message ↔ ∃ url, locate? (c.resolve r.endpoint) (c.queryPairs r) = some url ∧
      message = ⟨r.method.text, url, c.config.userAgent, c.payload r⟩ := by
  delta prepare
  cases locate? (c.resolve r.endpoint) (c.queryPairs r) with
  | none => simp
  | some url => simp [eq_comm]

/-- The entry of the log at the beginning of an attempt. -/
def attemptNote (c : Client) (r : Request) : Event :=
  .noted ⟨.debug, .client, r.method.text ++ " " ++ c.resolve r.endpoint⟩

/-- The wait for the throttle, if the client has one. -/
def holdEvents (c : Client) : List Event := if c.config.throttle.isSome then [.held] else []

theorem acquire_eq_advance (c : Client) (w : World) :
    c.acquire w = w.advance c.holdEvents w.script := by
  rw [acquire, holdEvents, hasThrottle]
  split
  · rfl
  · exact w.advance_nil.symm

/-- What an attempt begins with: the wait for the throttle and the entry of the log. -/
def openingEvents (c : Client) (r : Request) : List Event := c.holdEvents ++ [c.attemptNote r]

/-- What an attempt adds to the journal: what it begins with, and the request. -/
def attemptEvents (c : Client) (r : Request) (message : Message) : List Event :=
  c.openingEvents r ++ [.sent message]

/-- An attempt waits for the throttle, makes its entry in the log and goes on if a request can be
made. -/
theorem attempt_eq (c : Client) (r : Request) (w : World) : c.attempt r w =
    match c.prepare r with
    | .ok message => deliver message (w.advance (c.openingEvents r) w.script)
    | .error failure => (.error failure, w.advance (c.openingEvents r) w.script) := by
  have hopening : (c.acquire w).note .debug .client (r.method.text ++ " " ++ c.resolve r.endpoint) =
      w.advance (c.openingEvents r) w.script := by
    rw [acquire_eq_advance, World.note_eq_advance, World.advance_advance]
    rfl
  rw [← hopening]
  unfold attempt
  cases c.prepare r <;> rfl

/-- What a client makes of the result of an exchange. -/
def readResult : Except TransportError Answer → Except Failure Json
  | .ok answer => interpret answer.status (answer.header? "Retry-After") answer.text
  | .error error => .error (.ofTransport error)

/-- Nothing that a client makes of an outcome depends on the URL that it comes from. -/
theorem readResult_receiveFrom (url : Url) (o : Outcome) :
    readResult (World.receiveFrom url o) = o.reading := by
  rw [World.receiveFrom, Outcome.reading]
  cases World.receive o <;> rfl

/-- A message is delivered by exchanging it and reading the result. -/
theorem deliver_eq (message : Message) (w : World) :
    deliver message w = (readResult (w.exchange message).1, (w.exchange message).2) := by
  rw [deliver]
  cases w.exchange message with
  | mk result v => cases result <;> rfl

theorem deliver_of_carried {w : World} {message : Message}
    (h : w.carries.contains message.url.scheme = true) :
    deliver message w = ((w.outcome 0).reading, w.advance [.sent message] (w.script.drop 1)) := by
  rw [deliver_eq, World.exchange_of_carried h, readResult_receiveFrom]

/-- An attempt of a request that the network carries sends it and reads the next outcome. -/
theorem attempt_of_prepared {c : Client} {r : Request} {message : Message}
    (hmessage : c.prepare r = .ok message) {w : World}
    (hcarries : w.carries.contains message.url.scheme = true) :
    c.attempt r w = ((w.outcome 0).reading,
      w.advance (c.attemptEvents r message) (w.script.drop 1)) := by
  rw [attempt_eq]
  simp only [hmessage]
  rw [deliver_of_carried (by simpa using hcarries), World.advance_advance, World.outcome_advance,
    World.advance_script]
  rfl

/-! ## The loop

The loop is followed by induction on the retries that are left, with the script as it then lies
ahead. A rate limit in front of the script takes one step, and anything else ends the loop.  What it
adds to the journal is a list that follows the rate limits in the same way. -/

/-- The entry of the log before a request is sent again: which retry it is, of how many, and how
long the client waits. -/
def retryWarning (c : Client) (retries : Nat) (o : Outcome) : Note :=
  ⟨.warn, .client, retryNote o.failure retries c.retryPolicy.maxRetries o.retryAfter⟩

/-- What the client adds to the journal between two attempts, the first of which met a rate
limit. -/
def waitEvents (c : Client) (retries : Nat) (o : Outcome) : List Event :=
  [.noted (c.retryWarning retries o), .slept o.retryAfter]

/-- What attempts add to the journal, the last of which comes after the given rate limits. -/
def transcript (c : Client) (r : Request) (message : Message) (retries : Nat) :
    List Outcome → List Event
  | [] => c.attemptEvents r message
  | o :: os =>
    c.attemptEvents r message ++ c.waitEvents retries o
      ++ transcript c r message (retries + 1) os

/-- After anything but a rate limit the client does not go on. -/
theorem resume_of_settled {c : Client} {retries : Nat} {again : Call Json} {o : Outcome} {w : World}
    (h : o.isLimit = false) : c.resume retries again (o.reading, w) = (o.reading, w) := by
  cases hr : o.reading with
  | ok body => rfl
  | error failure =>
    have hnone : failure.retryAfter? = none := by
      cases failure with
      | rateLimit message code seconds => simp [Outcome.isLimit, hr] at h
      | _ => rfl
    rw [resume, RetryPolicy.backoff?_eq, hnone]
    simp

/-- After a rate limit the client waits and goes on, while there is budget left. -/
theorem resume_of_limit {c : Client} {retries : Nat} {again : Call Json} {o : Outcome} {w : World}
    (h : o.isLimit = true) (hbudget : retries < c.retryPolicy.budget) :
    c.resume retries again (o.reading, w)
      = again (w.advance (c.waitEvents retries o) w.script) := by
  obtain ⟨message, code, seconds, hr⟩ := Outcome.isLimit_iff.1 h
  have hseconds := Outcome.seconds_of_reading hr
  subst hseconds
  rw [hr, resume, RetryPolicy.backoff?_eq, if_pos hbudget]
  simp only [Failure.retryAfter?, World.note_eq_advance, World.sleep_eq_advance,
    World.advance_advance, World.advance_script, waitEvents, retryWarning, Outcome.failure, hr,
    List.cons_append, List.nil_append]

/-- A rate limit is an outcome of the script, for what the script does not foresee is none. -/
theorem script_of_limit {w : World} (h : (w.outcome 0).isLimit = true) :
    w.script = w.outcome 0 :: w.script.drop 1 := by
  cases hs : w.script with
  | nil =>
    rw [World.outcome_of_le (by simp [hs]), World.isLimit_unforeseen] at h
    exact absurd h Bool.false_ne_true
  | cons o os =>
    rw [World.outcome_of_lt (by simp [hs])]
    simp [hs]

/-- A rate limit in front of the script stands for one step to the first outcome that is none. -/
theorem settledAt_of_limit {w : World} (h : (w.outcome 0).isLimit = true) (events : List Event) :
    w.settledAt = (w.advance events (w.script.drop 1)).settledAt + 1 := by
  rw [World.settledAt, script_of_limit h, List.findIdx_cons]
  simp [h, World.settledAt]

/-- **The loop.**  A request that may be sent again `left` times is sent again once for each rate
limit in front of the script, as far as that goes, and the last outcome is what it gives. -/
theorem executeFrom_of_prepared {c : Client} {r : Request} {message : Message}
    (hmessage : c.prepare r = .ok message) {left retries : Nat}
    (hbudget : retries + left = c.retryPolicy.budget) {w : World}
    (hcarries : w.carries.contains message.url.scheme = true) :
    c.executeFrom r retries left w =
      ((w.outcome (min w.settledAt left)).reading,
        w.advance (c.transcript r message retries (w.script.take (min w.settledAt left)))
          (w.script.drop (min w.settledAt left + 1))) := by
  induction left generalizing retries w with
  | zero =>
    rw [executeFrom, attempt_of_prepared hmessage hcarries]
    simp [transcript]
  | succ left ih =>
    rw [executeFrom, attempt_of_prepared hmessage hcarries]
    -- The first outcome decides: it settles the request, or it is a rate limit and the rest is the
    -- loop with one retry less in the script without it.
    cases hlimit : (w.outcome 0).isLimit with
    | false =>
      have hzero : w.settledAt = 0 := by
        rcases Nat.eq_zero_or_pos w.settledAt with h | h
        · exact h
        · exact absurd (w.settledAt_spec.1 0 h) (by simp [hlimit])
      rw [resume_of_settled hlimit, hzero]
      simp [transcript]
    | true =>
      have hsettled := settledAt_of_limit hlimit
        (c.attemptEvents r message ++ c.waitEvents retries (w.outcome 0))
      have htake (n : Nat) : w.script.take (n + 1) = w.outcome 0 :: (w.script.drop 1).take n :=
        congrArg (List.take (n + 1)) (script_of_limit hlimit)
      rw [resume_of_limit hlimit (by omega), World.advance_advance, World.advance_script,
        ih (by omega) (by simpa using hcarries), World.advance_advance, World.outcome_advance_drop,
        World.advance_script, List.drop_drop, hsettled, Nat.add_min_add_right, htake, transcript,
        Nat.add_comm 1, Nat.add_comm 1, Nat.add_right_comm]

/-- Requests that make the same entry in the log and are sent as the same message are the same to a
client. -/
theorem execute_congr {c : Client} {r r' : Request} (hnote : c.attemptNote r = c.attemptNote r')
    (hprepare : c.prepare r = c.prepare r') : c.execute r = c.execute r' := by
  have hattempt : c.attempt r = c.attempt r' := by
    funext w
    rw [attempt_eq, attempt_eq, openingEvents, openingEvents, hnote, hprepare]
  have hloop : ∀ left retries, c.executeFrom r retries left = c.executeFrom r' retries left := by
    intro left
    induction left with
    | zero =>
      intro retries
      funext w
      rw [executeFrom, executeFrom, hattempt]
    | succ left ih =>
      intro retries
      funext w
      rw [executeFrom, executeFrom, hattempt, ih]
  exact hloop _ _

/-! ## What the loop sends, sleeps and notes

The transcript is made of pieces of two kinds, what an attempt adds and what comes between two
attempts.  Each of the four questions about it (what is sent, how long the client sleeps, what it
notes, how often it is held) is answered for the pieces first, and then by induction on the rate
limits. -/

@[simp] theorem sentIn_openingEvents (c : Client) (r : Request) :
    Event.sentIn (c.openingEvents r) = [] := by
  rw [openingEvents, holdEvents]
  split <;> rfl

@[simp] theorem sleptIn_openingEvents (c : Client) (r : Request) :
    Event.sleptIn (c.openingEvents r) = [] := by
  rw [openingEvents, holdEvents]
  split <;> rfl

theorem notedIn_openingEvents (c : Client) (r : Request) :
    Event.notedIn (c.openingEvents r)
      = [⟨.debug, .client, r.method.text ++ " " ++ c.resolve r.endpoint⟩] := by
  rw [openingEvents, holdEvents]
  split <;> rfl

theorem holdsIn_openingEvents (c : Client) (r : Request) :
    Event.holdsIn (c.openingEvents r) = if c.config.throttle.isSome then 1 else 0 := by
  rw [openingEvents, holdEvents]
  split <;> rfl

theorem sentIn_attemptEvents (c : Client) (r : Request) (message : Message) :
    Event.sentIn (c.attemptEvents r message) = [message] := by
  rw [attemptEvents, Event.sentIn_append, sentIn_openingEvents]
  rfl

theorem sleptIn_attemptEvents (c : Client) (r : Request) (message : Message) :
    Event.sleptIn (c.attemptEvents r message) = [] := by
  rw [attemptEvents, Event.sleptIn_append, sleptIn_openingEvents]
  rfl

/-- An attempt makes no warning. -/
theorem warned_attemptEvents (c : Client) (r : Request) (message : Message) :
    (Event.notedIn (c.attemptEvents r message)).filter (·.level = .warn) = [] := by
  rw [attemptEvents, Event.notedIn_append, notedIn_openingEvents]
  rfl

theorem holdsIn_attemptEvents (c : Client) (r : Request) (message : Message) :
    Event.holdsIn (c.attemptEvents r message) = if c.config.throttle.isSome then 1 else 0 := by
  rw [attemptEvents, Event.holdsIn_append, holdsIn_openingEvents]
  rfl

/-- What is sent is one message, once for each attempt. -/
theorem sentIn_transcript (c : Client) (r : Request) (message : Message) (os : List Outcome) :
    ∀ retries, Event.sentIn (c.transcript r message retries os)
      = List.replicate (os.length + 1) message := by
  induction os with
  | nil =>
    intro retries
    exact sentIn_attemptEvents c r message
  | cons o os ih =>
    intro retries
    rw [transcript, Event.sentIn_append, Event.sentIn_append, ih, sentIn_attemptEvents,
      List.length_cons, List.replicate_succ]
    rfl

/-- What is slept are the waits that the rate limits ask for, one after the other. -/
theorem sleptIn_transcript (c : Client) (r : Request) (message : Message) (os : List Outcome) :
    ∀ retries, Event.sleptIn (c.transcript r message retries os) = os.map Outcome.retryAfter := by
  induction os with
  | nil =>
    intro retries
    exact sleptIn_attemptEvents c r message
  | cons o os ih =>
    intro retries
    rw [transcript, Event.sleptIn_append, Event.sleptIn_append, ih, sleptIn_attemptEvents]
    rfl

/-- Of the entries of the log only those about retries are warnings, and they count up. -/
theorem notedIn_transcript (c : Client) (r : Request) (message : Message) (os : List Outcome) :
    ∀ retries, (Event.notedIn (c.transcript r message retries os)).filter (·.level = .warn)
      = os.mapIdx fun i o => c.retryWarning (retries + i) o := by
  induction os with
  | nil =>
    intro retries
    exact warned_attemptEvents c r message
  | cons o os ih =>
    intro retries
    rw [transcript, Event.notedIn_append, Event.notedIn_append, List.filter_append,
      List.filter_append, ih, warned_attemptEvents, List.mapIdx_cons]
    simp only [Nat.add_assoc, Nat.add_comm 1]
    rfl

/-- A client with a throttle is held once for each attempt, and not for the waits in between. -/
theorem holdsIn_transcript (c : Client) (r : Request) (message : Message) (os : List Outcome) :
    ∀ retries, Event.holdsIn (c.transcript r message retries os)
      = if c.config.throttle.isSome then os.length + 1 else 0 := by
  induction os with
  | nil =>
    intro retries
    exact holdsIn_attemptEvents c r message
  | cons o os ih =>
    intro retries
    have hwait : Event.holdsIn (c.waitEvents retries o) = 0 := rfl
    rw [transcript, Event.holdsIn_append, Event.holdsIn_append, ih, holdsIn_attemptEvents, hwait,
      List.length_cons]
    split <;> omega

/-! ## What a warning says

A user reads the warnings, so their text is part of what an execution does.  It is stated here piece
by piece, apart from the function that writes it. -/

end Client

/-- How a failure with a message and perhaps a code is told: the code stands in brackets in front of
the message, unless it is zero. -/
inductive Failure.Tells (message : String) : Option Int → String → Prop where
  | plain : Tells message none message
  | zero : Tells message (some 0) message
  | coded {code : Int} (h : code ≠ 0) :
      Tells message (some code) ("[" ++ toString code ++ "] " ++ message)

/-- This is how the message of a failure is made. -/
theorem Failure.tells_iff {message : String} {code : Option Int} {told : String} :
    Tells message code told ↔ told = coded code message := by
  constructor
  · intro h
    cases h with
    | plain => rfl
    | zero => rfl
    | coded h =>
      unfold Failure.coded
      split
      · next hnone => cases hnone
      · next hzero => exact absurd (Option.some.inj hzero) h
      · next hsome => cases hsome; rfl
  · rintro rfl
    unfold Failure.coded
    split
    · exact .plain
    · exact .zero
    · next z hz => exact .coded hz

/-- The warning in front of a retry, after an outcome that is a rate limit: it tells the rate limit,
which retry this is and how many there may be, and how many seconds the client waits. -/
structure Client.RetryWarns (number most : Nat) (o : Outcome) (note : Note) : Prop where
  level_eq : note.level = .warn
  origin_eq : note.origin = .client
  text_eq : ∃ message code told, o.reading = .error (.rateLimit message code o.retryAfter) ∧
    Failure.Tells message code told ∧
    note.text = "Rate limited (" ++ told ++ "), retry " ++ toString number ++ "/" ++ toString most
      ++ ", waiting " ++ toString o.retryAfter ++ "s"

namespace Client

theorem retryWarns_retryWarning (c : Client) (retries : Nat) {o : Outcome}
    (h : o.isLimit = true) :
    RetryWarns (retries + 1) c.config.maxRetries o (c.retryWarning retries o) where
  level_eq := rfl
  origin_eq := rfl
  text_eq := by
    obtain ⟨message, code, seconds, hreading⟩ := Outcome.isLimit_iff.1 h
    have hseconds := Outcome.seconds_of_reading hreading
    subst hseconds
    have hfailure : o.failure = .rateLimit message code o.retryAfter := by
      rw [Outcome.failure, hreading]
    have hmost : c.retryPolicy.maxRetries = c.config.maxRetries := rfl
    have htold : (Failure.rateLimit message code o.retryAfter).message =
        Failure.coded code message := rfl
    refine ⟨message, code, _, hreading, Failure.tells_iff.2 rfl, ?_⟩
    rw [← htold, ← hmost, ← hfailure]
    rfl

end Client

namespace World

/-- The warnings in the log. -/
def warnings (w : World) : List Note := w.log.filter (·.level = .warn)

theorem warnings_advance (events : List Event) (script : List Outcome) (w : World) :
    (w.advance events script).warnings
      = w.warnings ++ (Event.notedIn events).filter (·.level = .warn) := by
  rw [warnings, log_advance, List.filter_append, warnings]

/-- The outcomes in front of the script, as far as it goes. -/
theorem take_script {w : World} {n : Nat} (h : n ≤ w.settledAt) :
    w.script.take n = (List.range n).map w.outcome := by
  have hle : n ≤ w.script.length := Nat.le_trans h List.findIdx_le_length
  refine List.ext_getElem (by simp [hle]) fun i hi _ => ?_
  have hlt : i < w.script.length := by
    rw [List.length_take] at hi
    omega
  rw [List.getElem_take, List.getElem_map, List.getElem_range, outcome_of_lt hlt]

theorem SameAhead.outcome {w v : World} (h : SameAhead w v) : w.outcome = v.outcome := by
  funext i
  rw [World.outcome, World.outcome, h.script]

theorem SameAhead.settledAt {w v : World} (h : SameAhead w v) : w.settledAt = v.settledAt := by
  rw [World.settledAt, World.settledAt, h.script]

end World

namespace Client

/-- How often a client sends a request again. -/
def retriesIn (c : Client) (w : World) : Nat := min w.settledAt c.retryPolicy.budget

theorem retriesIn_le (c : Client) (w : World) : c.retriesIn w ≤ c.config.maxRetries := by
  refine Nat.le_trans (Nat.min_le_right _ _) ?_
  rw [RetryPolicy.budget, retryPolicy]
  split <;> simp

/-- If a rate limit is what remains, the budget is used up. -/
theorem retriesIn_of_limit {c : Client} {w : World}
    (h : (w.outcome (c.retriesIn w)).isLimit = true) : c.retriesIn w = c.retryPolicy.budget := by
  rcases Nat.le_total w.settledAt c.retryPolicy.budget with hle | hle
  · rw [retriesIn, Nat.min_eq_left hle, w.settledAt_spec.2] at h
    exact absurd h Bool.false_ne_true
  · exact Nat.min_eq_right hle

/-- A request that can be sent, executed. -/
theorem execute_of_prepared {c : Client} {r : Request} {message : Message}
    (hmessage : c.prepare r = .ok message) {w : World}
    (hcarries : w.carries.contains message.url.scheme = true) :
    c.execute r w = ((w.outcome (c.retriesIn w)).reading,
      w.advance (c.transcript r message 0 ((List.range (c.retriesIn w)).map w.outcome))
        (w.script.drop (c.retriesIn w + 1))) := by
  rw [execute, executeFrom_of_prepared hmessage (Nat.zero_add _) hcarries,
    World.take_script (Nat.min_le_left _ _)]
  rfl

/-- **A request that can be sent is sent until something other than a rate limit comes of it.**
Let `k` be the least index of an outcome that is no rate limit, and `n` the lesser of `k` and the
number of retries that the client may make.  The client sends the same message `n + 1` times.  In
front of each retry it warns which one it is and of how many, and sleeps as long as the outcome
before asks for.  It gives what it reads in outcome `n`.

These are the waits for a rate limit, and the client sleeps for nothing else.  A wait for the
throttle is another one: a client that has a throttle is held once for each attempt, a client
without one never.  What happened before the call cannot change what it gives or what it adds to the
journal.  Only how long the throttle holds it is up to what the throttle has let through before. -/
theorem execute_of_sendable (c : Client) (r : Request) (message : Message) (w : World)
    (hmessage : c.prepare r = .ok message)
    (hcarries : w.carries.contains message.url.scheme = true) :
    let budget := if c.config.retryOnRateLimit then c.config.maxRetries else 0
    let k := w.settledAt
    let n := min k budget
    ((∀ i < k, (w.outcome i).isLimit = true) ∧ (w.outcome k).isLimit = false) ∧
      (c.execute r w).1 = (w.outcome n).reading ∧
      (∀ text code seconds, (c.execute r w).1 = .error (.rateLimit text code seconds) →
        n = budget ∧ seconds = (w.outcome n).retryAfter) ∧
      (c.execute r w).2.script = w.script.drop (n + 1) ∧
      (c.execute r w).2.journal
        = w.journal ++ c.transcript r message 0 ((List.range n).map w.outcome) ∧
      (c.execute r w).2.sent = w.sent ++ List.replicate (n + 1) message ∧
      (c.execute r w).2.slept
        = w.slept ++ (List.range n).map (fun i => (w.outcome i).retryAfter) ∧
      (∃ notes, (c.execute r w).2.warnings = w.warnings ++ notes ∧
        List.Forall₂ (fun i note => RetryWarns (i + 1) c.config.maxRetries (w.outcome i) note)
          (List.range n) notes) ∧
      (c.execute r w).2.holds = w.holds + (if c.config.throttle.isSome then n + 1 else 0) ∧
      (∀ i < n, i + 1 ≤ c.config.maxRetries ∧
        (c.config.maxRetries < UInt32.size → (UInt32.ofNat i + 1).toNat = i + 1)) ∧
      ∀ v, World.SameAhead w v → (c.execute r v).1 = (c.execute r w).1 ∧
        ∃ events, (c.execute r w).2.journal = w.journal ++ events ∧
          (c.execute r v).2.journal = v.journal ++ events := by
  intro budget k n
  have hexecute := execute_of_prepared hmessage hcarries
  have hn : c.retriesIn w = n := rfl
  rw [hn] at hexecute
  have hlimit : ∀ i < n, (w.outcome i).isLimit = true := fun i hi =>
    w.settledAt_spec.1 i (Nat.lt_of_lt_of_le hi (Nat.min_le_left _ _))
  have hwarnings : ((List.range n).map w.outcome).mapIdx (fun i o => c.retryWarning (0 + i) o)
      = (List.range n).map fun i => c.retryWarning i (w.outcome i) := by
    refine List.ext_getElem (by simp) fun i hi _ => ?_
    simp
  refine ⟨w.settledAt_spec, by rw [hexecute], ?_, by rw [hexecute]; rfl, by rw [hexecute]; rfl,
    ?_, ?_, ?_, ?_, ?_, ?_⟩
  · intro text code seconds hr
    rw [hexecute] at hr
    exact ⟨retriesIn_of_limit (Outcome.isLimit_iff.2 ⟨text, code, seconds, hr⟩),
      Outcome.seconds_of_reading hr⟩
  · rw [hexecute, World.sent_advance, sentIn_transcript, List.length_map, List.length_range]
  · rw [hexecute, World.slept_advance, sleptIn_transcript, List.map_map]
    rfl
  · refine ⟨_, by rw [hexecute, World.warnings_advance, notedIn_transcript, hwarnings], ?_⟩
    refine List.forall₂_map_right_iff.2 (List.forall₂_same.2 fun i hi => ?_)
    exact c.retryWarns_retryWarning i (hlimit i (List.mem_range.1 hi))
  · rw [hexecute, World.holds_advance, holdsIn_transcript, List.length_map, List.length_range]
  · intro i hi
    have hle : i + 1 ≤ c.config.maxRetries := Nat.le_trans hi (retriesIn_le c w)
    refine ⟨hle, fun hsize => ?_⟩
    have hlt : i + 1 < UInt32.size := Nat.lt_of_le_of_lt hle hsize
    rw [UInt32.toNat_add, UInt32.toNat_ofNat_of_lt' (by omega)]
    exact Nat.mod_eq_of_lt hlt
  · intro v hv
    have hexecute' := execute_of_prepared (w := v) hmessage (hv.carries ▸ hcarries)
    rw [retriesIn, ← hv.settledAt, ← hv.outcome] at hexecute'
    rw [hexecute, hexecute']
    exact ⟨rfl, _, rfl, rfl⟩

/-- A client of the service below `http://h/v1` that tries again once. -/
def patient : Client :=
  ⟨⟨"t", none, none⟩, { baseUrl := "http://h", apiVersion := "v1", maxRetries := 1 }⟩

/-- A rate limit that asks to wait two seconds. -/
def busy : Outcome :=
  .answered ⟨400, [("Retry-After", "2")],
    utf8Bytes "\x7b\"error\":\x7b\"code\":4\x7d\x7d".toList, false⟩

/-- A patient client whose throttle lets one request a second through. -/
def steady : Client := ⟨patient.credentials, { patient.config with throttle := some ⟨1, 1⟩ }⟩

/-- A network in which the service is busy once. -/
def busyOnce : World := ⟨["http"], [busy], fun _ => .ok [], []⟩

/-- If the service is busy, a steady client sends a request twice.  It warns and sleeps in between,
and its throttle holds it twice. -/
theorem execute_steady_of_busy : ∃ message note,
    steady.prepare { endpoint := "p" } = .ok message ∧
      (steady.execute { endpoint := "p" } busyOnce).2.sent = [message, message] ∧
      (steady.execute { endpoint := "p" } busyOnce).2.slept = [2] ∧
      (steady.execute { endpoint := "p" } busyOnce).2.warnings = [note] ∧
      note.text = "Rate limited ([4] Unknown error), retry 1/1, waiting 2s" ∧
      (steady.execute { endpoint := "p" } busyOnce).2.holds = 2 := by
  have hlocate : (locate? (steady.resolve "p") (steady.queryPairs { endpoint := "p" })).map
      Url.scheme = some "http" := by decide +kernel
  obtain ⟨url, hurl, hscheme⟩ := Option.map_eq_some_iff.1 hlocate
  have hmessage : steady.prepare { endpoint := "p" }
      = .ok ⟨"GET", url, steady.config.userAgent, .empty⟩ :=
    prepare_eq_ok_iff.2 ⟨url, hurl, rfl⟩
  have hsettled : busyOnce.settledAt = 1 := by decide +kernel
  have hafter : (busyOnce.outcome 0).retryAfter = 2 := by decide +kernel
  have htold : (busyOnce.outcome 0).failure.message = "[4] Unknown error" := by decide +kernel
  obtain ⟨-, -, -, -, -, hsent, hslept, ⟨notes, hwarnings, hnotes⟩, hholds, -⟩ :=
    execute_of_sendable steady { endpoint := "p" } _ busyOnce hmessage (by simp [busyOnce, hscheme])
  rw [hsettled] at hsent hslept hnotes hholds
  -- There is one retry, so there is one note.
  obtain ⟨note, rest, hnote, hrest, rfl⟩ := List.forall₂_cons_left_iff.1 hnotes
  cases hrest
  refine ⟨_, note, hmessage, hsent, hslept.trans ?_, hwarnings, ?_, hholds⟩
  · exact congrArg (fun seconds => [seconds]) hafter
  · obtain ⟨message, code, told, hreading, htells, htext⟩ := hnote.text_eq
    have hfailure : (busyOnce.outcome 0).failure =
        .rateLimit message code (busyOnce.outcome 0).retryAfter := by
      rw [Outcome.failure, hreading]
    have heq : told = "[4] Unknown error" := by
      rw [← htold, hfailure]
      exact Failure.tells_iff.1 htells
    rw [htext, heq, hafter]
    decide +kernel

/-! ## What happened before plays no part

Two worlds in which the same lies ahead may have different journals.  `Call.Oblivious` says of a
call that it gives the same in both and adds the same to their journals.  It is proved along the
parts of an execution, for every request, also for one that cannot be sent. -/

/-- What an exchange gives, and what it takes from the script, depends on what lies ahead only. -/
theorem exchange_runAlike (message : Message) {w v : World} (h : World.SameAhead w v) :
    World.RunAlike w v (w.exchange message) (v.exchange message) := by
  by_cases hc : w.carries.contains message.url.scheme = true
  · rw [World.exchange_of_carried hc, World.exchange_of_carried (h.carries ▸ hc), h.outcome,
      h.script]
    exact ⟨rfl, _, _, rfl, rfl⟩
  · rw [World.exchange, World.exchange, if_neg hc, if_neg (h.carries ▸ hc)]
    refine ⟨rfl, [], w.script, w.advance_nil.symm, ?_⟩
    rw [h.script, v.advance_nil]

/-- So does the delivery of a message. -/
theorem deliver_oblivious (message : Message) : Call.Oblivious (deliver message) := by
  intro w v h
  rw [deliver_eq, deliver_eq]
  obtain ⟨hresult, hafter⟩ := exchange_runAlike message h
  exact ⟨congrArg readResult hresult, hafter⟩

/-- An attempt waits and writes its entry in either world, and then delivers the same message. -/
theorem attempt_oblivious (c : Client) (r : Request) : Call.Oblivious (c.attempt r) := by
  intro w v h
  rw [attempt_eq, attempt_eq]
  cases c.prepare r with
  | ok message => exact (deliver_oblivious message).after _ h
  | error failure =>
    have hstop : Call.Oblivious (α := Json) fun w => (.error failure, w) := fun _ _ h => .stop h _
    exact hstop.after _ h

/-- What is done after a result is decided by the result, so it is done in both worlds or in
none. -/
theorem resume_oblivious (c : Client) (retries : Nat) {again : Call Json}
    (hagain : Call.Oblivious again) (result : Except Failure Json) :
    Call.Oblivious fun w => c.resume retries again (result, w) := by
  cases result with
  | ok body => exact fun w v h => .stop h _
  | error failure =>
    simp only [resume]
    cases c.retryPolicy.backoff? retries failure with
    | none => exact fun w v h => .stop h _
    | some seconds =>
      simp only [World.note_eq_advance, World.sleep_eq_advance, World.advance_advance,
        World.advance_script]
      exact hagain.after _

/-- The loop, by induction on the retries that are left. -/
theorem executeFrom_oblivious (c : Client) (r : Request) :
    ∀ left retries, Call.Oblivious (c.executeFrom r retries left) := by
  intro left
  induction left with
  | zero =>
    intro retries w v h
    rw [executeFrom, executeFrom]
    exact attempt_oblivious c r h
  | succ left ih =>
    intro retries w v h
    rw [executeFrom, executeFrom]
    exact (attempt_oblivious c r h).bind h fun result w' v' hahead =>
      resume_oblivious c retries (ih (retries + 1)) result hahead

/-- **Calls do not remember.**  What a client did before an execution changes nothing about it. -/
theorem execute_oblivious (c : Client) (r : Request) : Call.Oblivious (c.execute r) :=
  executeFrom_oblivious c r _ _

end Client

end ThreatGraph
