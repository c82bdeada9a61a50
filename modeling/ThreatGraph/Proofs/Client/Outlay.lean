import ThreatGraph.Proofs.Network.Service

/-!
# What an execution may cost

An execution sends one request more than the client may send again, at the most, whatever the
service answers (`Client.execute_costs`).  A service that reports a rate limit for ever cannot make
it send more.  All that is noted meanwhile is noted by the client.

The bound is stated of events and not of worlds, so that it can be added up: what two steps cost
together is the sum of what each costs.  A call that costs no more than a number of requests is also
determined by as many outcomes, which is what is needed of services that never end.
-/

set_option autoImplicit false

namespace ThreatGraph.Client

open World (RunsTo)

/-- Some events send no more than a number of requests, and it is the client that makes the entries
of the log among them. -/
structure Outlay (most : Nat) (events : List Event) : Prop where
  sends : (Event.sentIn events).length ≤ most
  notes : ∀ note ∈ Event.notedIn events, note.origin = .client

namespace Outlay

variable {most most' : Nat} {events events' : List Event}

theorem nil (most : Nat) : Outlay most [] := ⟨Nat.zero_le _, by simp [Event.notedIn]⟩

/-- Costs add up. -/
theorem append (h : Outlay most events) (h' : Outlay most' events') :
    Outlay (most + most') (events ++ events') where
  sends := by
    rw [Event.sentIn_append, List.length_append]
    exact Nat.add_le_add h.sends h'.sends
  notes := fun note hmem => by
    rw [Event.notedIn_append] at hmem
    exact (List.mem_append.1 hmem).elim (h.notes note) (h'.notes note)

/-- What costs no more than a number costs no more than a greater one. -/
theorem mono (h : Outlay most events) (hle : most ≤ most') : Outlay most' events :=
  ⟨Nat.le_trans h.sends hle, h.notes⟩

/-- An entry of the client costs no request. -/
theorem note (level : Level) (text : String) : Outlay 0 [.noted ⟨level, .client, text⟩] :=
  ⟨Nat.le_refl 0, by simp [Event.notedIn]⟩

/-- A wait costs no request. -/
theorem sleep (seconds : Nat) : Outlay 0 [.slept seconds] :=
  ⟨Nat.le_refl 0, by simp [Event.notedIn]⟩

end Outlay

/-- A call is determined by what it sends, and does not cost more than a number of requests. -/
def Costs (most : Nat) (call : Call Json) : Prop :=
  ∀ w, ∃ result events, RunsTo call w result events ∧ Outlay most events

theorem Costs.congr {most : Nat} {call call' : Call Json} (h : Costs most call)
    (heq : ∀ w, call' w = call w) : Costs most call' := by
  intro w
  obtain ⟨result, events, hrun, houtlay⟩ := h w
  exact ⟨result, events, hrun.congr heq, houtlay⟩

/-- To fail costs nothing. -/
theorem costs_fail (failure : Failure) (most : Nat) : Costs most fun w => (.error failure, w) :=
  fun w => ⟨.error failure, [], .stop w _, .nil most⟩

/-- What sends nothing and leaves the log to the client costs nothing in front of a call. -/
theorem Costs.after {most : Nat} {call : Call Json} (h : Costs most call) {before : List Event}
    (hbefore : Outlay 0 before) : Costs most fun w => call (w.advance before w.script) := by
  intro w
  obtain ⟨result, events, hrun, houtlay⟩ := h (w.advance before w.script)
  have hsent : Event.sentIn before = [] := List.length_eq_zero_iff.1 (Nat.le_zero.1 hbefore.sends)
  have hboth := hbefore.append houtlay
  rw [Nat.zero_add] at hboth
  exact ⟨result, before ++ events, hrun.after hsent, hboth⟩

/-- To deliver a message costs one request. -/
theorem deliver_costs (message : Message) : Costs 1 (deliver message) := by
  intro w
  obtain ⟨x, events, hrun, hevents⟩ := World.exchange_runsTo message w
  have houtlay : Outlay 1 events := by
    rcases hevents with rfl | rfl
    · exact .nil 1
    · exact ⟨Nat.le_refl 1, by simp [Event.notedIn]⟩
  exact ⟨readResult x, events, (hrun.map readResult).congr (deliver_eq message), houtlay⟩

/-- An attempt sends one request at the most. -/
theorem attempt_costs (c : Client) (r : Request) : Costs 1 (c.attempt r) := by
  have hopening : Outlay 0 (c.openingEvents r) := by
    refine ⟨by rw [sentIn_openingEvents]; exact Nat.le_refl 0, fun note hmem => ?_⟩
    rw [notedIn_openingEvents, List.mem_singleton] at hmem
    rw [hmem]
  cases hprepare : c.prepare r with
  | ok message =>
    refine ((deliver_costs message).after hopening).congr fun w => ?_
    rw [attempt_eq, hprepare]
  | error failure =>
    refine ((costs_fail failure 1).after hopening).congr fun w => ?_
    rw [attempt_eq, hprepare]

/-- What follows an attempt costs as much as the call that the client goes on with. -/
theorem resume_costs (c : Client) (retries : Nat) {again : Call Json} {most : Nat}
    (hagain : Costs most again) (result : Except Failure Json) :
    Costs most fun w => c.resume retries again (result, w) := by
  cases result with
  | ok body => exact fun w => ⟨.ok body, [], .stop w _, .nil most⟩
  | error failure =>
    simp only [resume]
    cases c.retryPolicy.backoff? retries failure with
    | none => exact costs_fail failure most
    | some seconds =>
      simp only [World.note_eq_advance, World.sleep_eq_advance, World.advance_script]
      exact (hagain.after (.sleep seconds)).after (.note _ _)

/-- The budget goes down by one with each request, and the induction is on it. -/
theorem executeFrom_costs (c : Client) (r : Request) (left retries : Nat) :
    Costs (left + 1) (c.executeFrom r retries left) := by
  induction left generalizing retries with
  | zero => exact (c.attempt_costs r).congr fun w => by rw [executeFrom]
  | succ left ih =>
    intro w
    obtain ⟨result, events, hrun, houtlay⟩ := c.attempt_costs r w
    obtain ⟨result', events', hrun', houtlay'⟩ := c.resume_costs retries (ih (retries + 1)) result
      (w.advance events (w.script.drop (Event.sentIn events).length))
    have hboth := hrun.bind
      (g := fun x v => c.resume retries (c.executeFrom r (retries + 1) left) (x, v)) hrun'
    exact ⟨result', events ++ events', hboth.congr fun v => by rw [executeFrom],
      (houtlay.append houtlay').mono (by omega)⟩

/-- **An execution is bounded.**  It sends one request more than the client may send again, at the
most, and what comes of these determines it. -/
theorem execute_costs (c : Client) (r : Request) :
    Costs (c.retryPolicy.budget + 1) (c.execute r) :=
  c.executeFrom_costs r _ _

end ThreatGraph.Client
