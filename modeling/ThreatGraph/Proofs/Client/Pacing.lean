import ThreatGraph.Proofs.Client.Sending
import ThreatGraph.Proofs.Upload.Sending
import ThreatGraph.Throttle

/-!
# How a throttle paces a client

The journal says when a client waits for its throttle, and not for how long.  How long it is follows
from what stands before in the journal, and from the time that passes in between.  That time is not
under the control of the client, so it is given here beside each event, and what is proved holds for
any of it.

* `Pace` is a throttle at a time, and `Pace.run` leads it along a journal.  `Pace.wait` is how long
  a request is held that comes now.
* `Pace.tryAcquire_ready` and `Pace.tryAcquire_of_lt_ready` say that this is exactly as long as the
  throttle refuses it.
* `Pace.rate_bound` is the steady rate: a number of requests takes the time for as many, but for
  those of a burst.  `Pace.wait_of_burst` is the burst: the first requests do not wait at all.
* `Client.execute_keeps_rate` and `Client.upload_keeps_rate` draw the conclusion for what a client
  sends, since each message that it sends has been let through.
-/

set_option autoImplicit false

namespace ThreatGraph

/-- A throttle at a time, in nanoseconds. -/
structure Pace where
  now : Nat
  throttle : Throttle

namespace Pace

/-- A throttle that has let nothing through, at the beginning. -/
def start (rate : ThrottleRate) : Pace := ⟨0, .ofRate rate⟩

/-- Some time passes. -/
def pass (nanos : Nat) (p : Pace) : Pace := { p with now := p.now + nanos }

/-- The time at which a request is let through that comes now. -/
def ready (p : Pace) : Nat := p.throttle.readyAt p.now

/-- How long it is held. -/
def wait (p : Pace) : Nat := p.ready - p.now

/-- A request is held, and let through. -/
def grant (p : Pace) : Pace := ⟨p.ready, (p.throttle.tryAcquire p.ready).2⟩

/-- What happens to a throttle in an event. -/
def after (p : Pace) : Event → Pace
  | .held => p.grant
  | .slept seconds => p.pass (seconds * 1000000000)
  | _ => p

/-- What happens to a throttle in some events, each with the time that passes before it. -/
def run : List (Nat × Event) → Pace → Pace
  | [], p => p
  | (lapse, event) :: rest, p => run rest ((p.pass lapse).after event)

/-! ## One request

A request is held until the throttle does not refuse it any more, and no longer. -/

theorem now_le_ready (p : Pace) : p.now ≤ p.ready := Nat.le_max_left _ _

theorem paid_le_ready (p : Pace) : p.throttle.paid ≤ p.ready + p.throttle.tolerance :=
  Nat.le_add_of_sub_le (Nat.le_max_right _ _)

/-- When the wait is over the request is let through. -/
theorem tryAcquire_ready (p : Pace) : p.throttle.tryAcquire p.ready =
    (true, { p.throttle with paid := max p.throttle.paid p.ready + p.throttle.interval }) := by
  rw [Throttle.tryAcquire, if_pos p.paid_le_ready]

/-- Until then it is refused. -/
theorem tryAcquire_of_lt_ready (p : Pace) {time : Nat} (hnow : p.now ≤ time)
    (htime : time < p.ready) : p.throttle.tryAcquire time = (false, p.throttle) := by
  have hrefused : ¬ p.throttle.paid ≤ time + p.throttle.tolerance := by
    intro hpaid
    rw [ready, Throttle.readyAt] at htime
    omega
  rw [Throttle.tryAcquire, if_neg hrefused]

/-- A request that is let through is paid for by one interval more. -/
theorem throttle_grant (p : Pace) : p.grant.throttle =
    { p.throttle with paid := max p.throttle.paid p.ready + p.throttle.interval } := by
  rw [grant, tryAcquire_ready]

/-! ## Many requests

What one event does to a throttle is kept small: time passes, or a request is let through.  The
relation below says what is left of this after any number of events, and the bounds are read off it
at the end. -/

/-- The time that is paid for does not run ahead of the present by more than the tolerance and one
interval: a request is let through only where that leaves room for it. -/
def Sound (p : Pace) : Prop :=
  p.throttle.paid ≤ p.now + p.throttle.tolerance + p.throttle.interval

/-- From one pace to another a number of requests were let through. -/
structure Follows (count : Nat) (p q : Pace) : Prop where
  interval_eq : q.throttle.interval = p.throttle.interval
  tolerance_eq : q.throttle.tolerance = p.throttle.tolerance
  now_le : p.now ≤ q.now
  /-- Each request is paid for by an interval. -/
  paid_le : p.throttle.paid + count * p.throttle.interval ≤ q.throttle.paid
  sound : p.Sound → q.Sound
  /-- No request is paid for by more, unless time has passed unused. -/
  ahead_le : ∀ n, p.throttle.paid ≤ p.now + n * p.throttle.interval →
    q.throttle.paid ≤ q.now + (n + count) * p.throttle.interval

theorem Follows.trans {m n : Nat} {p q r : Pace} (h : Follows m p q) (h' : Follows n q r) :
    Follows (m + n) p r where
  interval_eq := h'.interval_eq.trans h.interval_eq
  tolerance_eq := h'.tolerance_eq.trans h.tolerance_eq
  now_le := Nat.le_trans h.now_le h'.now_le
  paid_le := by
    have hfirst := h.paid_le
    have hnext := h'.paid_le
    rw [h.interval_eq] at hnext
    rw [Nat.add_mul]
    omega
  sound := h'.sound ∘ h.sound
  ahead_le := fun k hk => by
    have hnext := h'.ahead_le (k + m)
    rw [h.interval_eq] at hnext
    rw [← Nat.add_assoc]
    exact hnext (h.ahead_le k hk)

/-- Time that passes is not paid for. -/
theorem follows_pass (nanos : Nat) (p : Pace) : Follows 0 p (p.pass nanos) where
  interval_eq := rfl
  tolerance_eq := rfl
  now_le := Nat.le_add_right _ _
  paid_le := by rw [Nat.zero_mul]; exact Nat.le_refl _
  sound := fun h => by
    rw [Sound] at h ⊢
    exact Nat.le_trans h (by simp only [pass]; omega)
  ahead_le := fun n hn => by
    rw [Nat.add_zero]
    exact Nat.le_trans hn (Nat.add_le_add_right (Nat.le_add_right _ _) _)

/-- A request that is let through is paid for once. -/
theorem follows_grant (p : Pace) : Follows 1 p p.grant where
  interval_eq := by rw [throttle_grant]
  tolerance_eq := by rw [throttle_grant]
  now_le := p.now_le_ready
  paid_le := by
    rw [throttle_grant, Nat.one_mul]
    exact Nat.add_le_add_right (Nat.le_max_left _ _) _
  sound := fun _ => by
    have hpaid := p.paid_le_ready
    rw [Sound, throttle_grant]
    exact Nat.add_le_add_right (Nat.max_le.2 ⟨hpaid, Nat.le_add_right _ _⟩) _
  ahead_le := fun n hn => by
    have hready := p.now_le_ready
    rw [throttle_grant, Nat.add_mul, Nat.one_mul, ← Nat.add_assoc]
    refine Nat.add_le_add_right (Nat.max_le.2 ⟨?_, Nat.le_add_right _ _⟩) _
    exact Nat.le_trans hn (Nat.add_le_add_right hready _)

theorem follows_after (p : Pace) (event : Event) :
    Follows (Event.holdsIn [event]) p (p.after event) := by
  cases event with
  | held => exact p.follows_grant
  | slept seconds => exact p.follows_pass _
  | sent message => exact p.follows_pass 0
  | noted note => exact p.follows_pass 0

/-- **A run.**  The requests that were let through are the waits among the events. -/
theorem follows_run (events : List (Nat × Event)) (p : Pace) :
    Follows (Event.holdsIn (events.map Prod.snd)) p (run events p) := by
  induction events generalizing p with
  | nil => exact p.follows_pass 0
  | cons head rest ih =>
    obtain ⟨lapse, event⟩ := head
    have hhead := (p.follows_pass lapse).trans ((p.pass lapse).follows_after event)
    have hboth := hhead.trans (ih ((p.pass lapse).after event))
    rw [Nat.zero_add, ← Event.holdsIn_append] at hboth
    exact hboth

/-- **The steady rate.**  From the beginning on, requests take an interval each, but for those of a
burst. -/
theorem rate_bound (rate : ThrottleRate) (events : List (Nat × Event)) :
    Event.holdsIn (events.map Prod.snd) * (Throttle.ofRate rate).interval
      ≤ (run events (start rate)).now + (Throttle.ofRate rate).tolerance := by
  have h := follows_run events (start rate)
  have hsound := h.sound (Nat.le_add_left _ _)
  have hpaid := h.paid_le
  rw [Sound] at hsound
  rw [h.tolerance_eq, h.interval_eq] at hsound
  have hstart : (start rate).throttle = Throttle.ofRate rate := rfl
  have hfirst : (Throttle.ofRate rate).paid = (Throttle.ofRate rate).interval := rfl
  rw [hstart, hfirst] at hpaid
  rw [hstart] at hsound
  omega

/-- **The burst.**  As long as fewer requests were let through than a burst has, the next one does
not wait. -/
theorem wait_of_burst (rate : ThrottleRate) (events : List (Nat × Event))
    (hburst : Event.holdsIn (events.map Prod.snd) < max rate.burst 1) :
    (run events (start rate)).wait = 0 := by
  have h := follows_run events (start rate)
  have hahead := h.ahead_le 1 (by
    rw [Nat.one_mul]
    exact Nat.le_add_left _ _)
  have hroom : (1 + Event.holdsIn (events.map Prod.snd)) * (Throttle.ofRate rate).interval
      ≤ (Throttle.ofRate rate).tolerance := by
    have htolerance : (Throttle.ofRate rate).tolerance
        = max rate.burst 1 * (Throttle.ofRate rate).interval := Nat.mul_comm _ _
    rw [htolerance]
    exact Nat.mul_le_mul_right _ (by omega)
  have htolerance : (run events (start rate)).throttle.tolerance
      = (Throttle.ofRate rate).tolerance := h.tolerance_eq
  have hready : (run events (start rate)).ready ≤ (run events (start rate)).now := by
    refine Nat.max_le.2 ⟨Nat.le_refl _, ?_⟩
    rw [htolerance, Nat.sub_le_iff_le_add]
    exact Nat.le_trans hahead (Nat.add_le_add_left hroom _)
  exact Nat.sub_eq_zero_of_le hready

end Pace

/-! ## What a client sends

A message is sent after a wait for the throttle and not otherwise, so a client with a throttle has
been let through as often as it has sent something. -/

/-- From one world to another no more messages were sent than the client was let through. -/
def World.Paced (w v : World) : Prop := v.sent.length + w.holds ≤ w.sent.length + v.holds

namespace World

variable {w v u : World}

theorem Paced.refl (w : World) : Paced w w := Nat.le_refl _

theorem Paced.trans (h : Paced w v) (h' : Paced v u) : Paced w u := by
  rw [Paced] at h h' ⊢
  omega

theorem paced_advance {events : List Event}
    (h : (Event.sentIn events).length ≤ Event.holdsIn events) (script : List Outcome) (w : World) :
    Paced w (w.advance events script) := by
  rw [Paced, sent_advance, holds_advance, List.length_append]
  omega

end World

namespace Client

variable {c : Client}

/-- A delivery sends one message at the most, and is not held. -/
theorem deliver_sent_le (message : Message) (w : World) :
    (deliver message w).2.sent.length ≤ w.sent.length + 1 ∧
      (deliver message w).2.holds = w.holds := by
  by_cases hcarries : w.carries.contains message.url.scheme = true
  · rw [deliver_of_carried hcarries, World.sent_advance, World.holds_advance, List.length_append]
    exact ⟨Nat.le_refl _, rfl⟩
  · rw [deliver_of_not_carried hcarries]
    exact ⟨Nat.le_add_right _ _, rfl⟩

/-- What is delivered after a wait for the throttle keeps the pace. -/
theorem paced_deliver {before : List Event} (hsent : Event.sentIn before = [])
    (hholds : Event.holdsIn before = 1) (message : Message) (w : World) :
    World.Paced w (deliver message (w.advance before w.script)).2 := by
  obtain ⟨hle, heq⟩ := deliver_sent_le message (w.advance before w.script)
  rw [World.sent_advance, hsent, List.append_nil] at hle
  rw [World.holds_advance, hholds] at heq
  rw [World.Paced]
  omega

theorem attempt_paced (hthrottle : c.config.throttle.isSome) (r : Request) (w : World) :
    World.Paced w (c.attempt r w).2 := by
  have hholds := holdsIn_openingEvents c r
  rw [if_pos hthrottle] at hholds
  rw [attempt_eq]
  cases c.prepare r with
  | ok message => exact paced_deliver (sentIn_openingEvents c r) hholds message w
  | error failure =>
    refine World.paced_advance ?_ w.script w
    rw [sentIn_openingEvents]
    exact Nat.zero_le _

theorem resume_paced (retries : Nat) {again : Call Json}
    (hagain : ∀ w, World.Paced w (again w).2) (result : Except Failure Json × World) :
    World.Paced result.2 (c.resume retries again result).2 := by
  obtain ⟨failure | body, w⟩ := result
  · rw [resume]
    split
    · refine World.Paced.trans ?_ (hagain _)
      rw [World.note_eq_advance, World.sleep_eq_advance, World.advance_advance]
      exact World.paced_advance (Nat.zero_le _) _ _
    · exact .refl w
  · exact .refl w

/-- An execution sends as many messages as it is let through, or fewer. -/
theorem execute_paced (hthrottle : c.config.throttle.isSome) (r : Request) (w : World) :
    World.Paced w (c.execute r w).2 := by
  rw [execute]
  generalize 0 = retries
  induction c.retryPolicy.budget generalizing retries w with
  | zero =>
    rw [executeFrom]
    exact attempt_paced hthrottle r w
  | succ left ih =>
    rw [executeFrom]
    exact (attempt_paced hthrottle r w).trans
      (resume_paced retries (fun v => ih v (retries + 1)) _)

/-- So does an upload. -/
theorem upload_paced (hthrottle : c.config.throttle.isSome) (endpoint : String) (u : Upload)
    (w : World) : World.Paced w (c.upload endpoint u w).2 := by
  have hopening :
      (c.acquire w).note .debug .upload ("POST " ++ c.resolve endpoint ++ " (multipart)") =
        w.advance [.held, c.uploadNote endpoint] w.script := by
    rw [acquire_eq_advance, holdEvents, if_pos hthrottle]
    exact World.advance_advance _ _ _ _ _
  rw [upload]
  cases u.load w with
  | error failure => exact .refl w
  | ok content =>
    dsimp only
    rw [hopening]
    cases locate? (c.resolve endpoint) [] with
    | none => exact World.paced_advance (Nat.zero_le _) _ _
    | some url => exact paced_deliver rfl rfl _ w

/-- A world in which a client has kept its pace has seen no more messages than the rate allows. -/
theorem rate_bound_of_paced {rate : ThrottleRate} {w : World} (h : w.sent.length ≤ w.holds)
    {events : List (Nat × Event)} (hevents : events.map Prod.snd = w.journal) :
    w.sent.length * (Throttle.ofRate rate).interval
      ≤ (Pace.run events (.start rate)).now + (Throttle.ofRate rate).tolerance := by
  have hbound := Pace.rate_bound rate events
  rw [hevents] at hbound
  exact Nat.le_trans (Nat.mul_le_mul_right _ h) hbound

/-- **An execution keeps to the rate.**  If a client with a throttle has kept its pace so far, then
it has not sent more after the execution than a burst and one message for each interval that went
by, whatever time passes between the events. -/
theorem execute_keeps_rate {rate : ThrottleRate} (hthrottle : c.config.throttle = some rate)
    (r : Request) {w : World} (hpaced : w.sent.length ≤ w.holds) {events : List (Nat × Event)}
    (hevents : events.map Prod.snd = (c.execute r w).2.journal) :
    (c.execute r w).2.sent.length * (Throttle.ofRate rate).interval
      ≤ (Pace.run events (.start rate)).now + (Throttle.ofRate rate).tolerance := by
  have hstep := execute_paced (by rw [hthrottle]; rfl) r w
  rw [World.Paced] at hstep
  exact rate_bound_of_paced (by omega) hevents

/-- **An upload keeps to the rate.** -/
theorem upload_keeps_rate {rate : ThrottleRate} (hthrottle : c.config.throttle = some rate)
    (endpoint : String) (u : Upload) {w : World} (hpaced : w.sent.length ≤ w.holds)
    {events : List (Nat × Event)}
    (hevents : events.map Prod.snd = (c.upload endpoint u w).2.journal) :
    (c.upload endpoint u w).2.sent.length * (Throttle.ofRate rate).interval
      ≤ (Pace.run events (.start rate)).now + (Throttle.ofRate rate).tolerance := by
  have hstep := upload_paced (by rw [hthrottle]; rfl) endpoint u w
  rw [World.Paced] at hstep
  exact rate_bound_of_paced (by omega) hevents

end Client

end ThreatGraph
