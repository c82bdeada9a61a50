import ThreatGraph.Json

/-!
# Throttles

A throttle lets requests through at a steady rate, and a burst of them at once after a pause. It
keeps the time at which all it has let through are paid for: letting one through moves that time on
by the interval between requests, and it may lie ahead of the present by what a burst takes up.

* `Throttle.ofRate` makes a throttle; a rate or burst of zero counts as one.
* `Throttle.tryAcquire` lets a request through at a time, or refuses it.
-/

set_option autoImplicit false

namespace ThreatGraph

/-- The settings of a throttle. -/
structure ThrottleRate where
  perSecond : Nat
  burst : Nat
  deriving DecidableEq, Repr, Inhabited

/-- The settings of a throttle as JSON. -/
def ThrottleRate.toJson (r : ThrottleRate) : Json :=
  .record [("requests_per_second", .nat r.perSecond), ("burst_size", .nat r.burst)]

/-- A throttle. Times are in nanoseconds. -/
structure Throttle where
  /-- The time between two requests at the steady rate. -/
  interval : Nat
  /-- How far ahead of the present `paid` may lie when a request is let through. -/
  tolerance : Nat
  /-- The time at which the requests so far, and one more, are paid for. -/
  paid : Nat
  deriving DecidableEq, Repr, Inhabited

namespace Throttle

/-- A throttle that has let nothing through yet. -/
def ofRate (rate : ThrottleRate) : Throttle :=
  let interval := 1000000000 / max rate.perSecond 1
  ⟨interval, interval * max rate.burst 1, interval⟩

/-- Lets a request through at a time if it can, and tells whether it did. -/
def tryAcquire (now : Nat) (t : Throttle) : Bool × Throttle :=
  if t.paid ≤ now + t.tolerance then (true, { t with paid := max t.paid now + t.interval })
  else (false, t)

/-- The answers to a number of requests made at one time, and the throttle after them. -/
def tryMany (now : Nat) : Nat → Throttle → List Bool × Throttle
  | 0, t => ([], t)
  | n + 1, t =>
    let (answer, t) := t.tryAcquire now
    let (answers, t) := tryMany now n t
    (answer :: answers, t)

/-- The earliest time from a given one on at which a request is let through. -/
def readyAt (now : Nat) (t : Throttle) : Nat := max now (t.paid - t.tolerance)

/-- A throttle in a description, which keeps its state back. -/
def description : String := "Throttle \x7b .. \x7d"

end Throttle

end ThreatGraph
