import ThreatGraph.Proofs.Client.Execution

/-!
# What a client may send

`World.SendsOnly` says of two worlds that from the first to the second nothing was sent but messages
of a kind.  It is kept from step to step, so what holds of the message that a request is sent as
holds of all that its execution sends, whatever the service answers and however often the request is
sent again (`Client.execute_sendsOnly`).  An execution that sends nothing fails
(`Client.error_of_sent_eq`).
-/

set_option autoImplicit false

namespace ThreatGraph

namespace World

/-- From one world to another only messages of a kind were sent. -/
def SendsOnly (kind : Message → Prop) (w v : World) : Prop :=
  ∃ messages, v.sent = w.sent ++ messages ∧ ∀ message ∈ messages, kind message

variable {kind kind' : Message → Prop} {w v u : World}

/-- Where nothing happened nothing was sent. -/
theorem SendsOnly.refl (w : World) : SendsOnly kind w w := ⟨[], by simp, by simp⟩

/-- What was sent in two steps was sent in one or the other. -/
theorem SendsOnly.trans (h : SendsOnly kind w v) (h' : SendsOnly kind v u) :
    SendsOnly kind w u := by
  obtain ⟨messages, hsent, hkind⟩ := h
  obtain ⟨messages', hsent', hkind'⟩ := h'
  refine ⟨messages ++ messages', by rw [hsent', hsent, List.append_assoc], fun message hmem => ?_⟩
  exact (List.mem_append.1 hmem).elim (hkind message) (hkind' message)

theorem SendsOnly.imp (h : SendsOnly kind w v) (himp : ∀ message, kind message → kind' message) :
    SendsOnly kind' w v := by
  obtain ⟨messages, hsent, hkind⟩ := h
  exact ⟨messages, hsent, fun message hmem => himp message (hkind message hmem)⟩

/-- Events send the messages among them. -/
theorem sendsOnly_advance {events : List Event}
    (h : ∀ message ∈ Event.sentIn events, kind message) (script : List Outcome) (w : World) :
    SendsOnly kind w (w.advance events script) :=
  ⟨_, sent_advance events script w, h⟩

/-- An exchange sends its message, or nothing if the network does not carry it. -/
theorem exchange_sendsOnly (message : Message) (w : World) :
    SendsOnly (· = message) w (w.exchange message).2 := by
  by_cases h : w.carries.contains message.url.scheme = true
  · rw [exchange_of_carried h]
    exact sendsOnly_advance (fun _ hmem => List.mem_singleton.1 hmem) _ _
  · rw [exchange, if_neg h]
    exact .refl w

end World

namespace Client

theorem deliver_sendsOnly (message : Message) (w : World) :
    World.SendsOnly (· = message) w (deliver message w).2 := by
  have hexchange := World.exchange_sendsOnly message w
  rw [deliver]
  split <;> next heq => rwa [heq] at hexchange

/-- An attempt sends the message that its request is sent as, if there is one. -/
theorem attempt_sendsOnly (c : Client) (r : Request) (w : World) :
    World.SendsOnly (c.prepare r = .ok ·) w (c.attempt r w).2 := by
  have hopening : World.SendsOnly (c.prepare r = .ok ·) w
      (w.advance (c.openingEvents r) w.script) := by
    refine World.sendsOnly_advance (fun message hmem => ?_) _ _
    rw [sentIn_openingEvents] at hmem
    exact absurd hmem List.not_mem_nil
  rw [attempt_eq]
  split
  · next message hmessage =>
    refine hopening.trans ((deliver_sendsOnly message _).imp ?_)
    rintro _ rfl
    exact hmessage
  · exact hopening

/-- What follows an attempt sends what the next attempts send. -/
theorem resume_sendsOnly {kind : Message → Prop} (c : Client) (retries : Nat) {again : Call Json}
    (hagain : ∀ w, World.SendsOnly kind w (again w).2)
    (result : Except Failure Json × World) :
    World.SendsOnly kind result.2 (c.resume retries again result).2 := by
  obtain ⟨failure | body, w⟩ := result
  · rw [resume]
    split
    · next seconds _ =>
      refine World.SendsOnly.trans ?_ (hagain _)
      rw [World.note_eq_advance, World.sleep_eq_advance, World.advance_advance]
      exact World.sendsOnly_advance (fun _ hmem => absurd hmem List.not_mem_nil) _ _
    · exact .refl w
  · exact .refl w

/-- The message does not depend on how often it was sent before. -/
theorem executeFrom_sendsOnly (c : Client) (r : Request) (left retries : Nat) (w : World) :
    World.SendsOnly (c.prepare r = .ok ·) w (c.executeFrom r retries left w).2 := by
  induction left generalizing retries w with
  | zero =>
    rw [executeFrom]
    exact c.attempt_sendsOnly r w
  | succ left ih =>
    rw [executeFrom]
    exact (c.attempt_sendsOnly r w).trans (c.resume_sendsOnly retries (ih (retries + 1)) _)

/-- **All that an execution sends.**  Every attempt sends the same message, the one that the request
is sent as. -/
theorem execute_sendsOnly (c : Client) (r : Request) (w : World) :
    World.SendsOnly (c.prepare r = .ok ·) w (c.execute r w).2 :=
  c.executeFrom_sendsOnly r _ _ w

/-! ## Nothing sent

A result that is no failure can only come from an answer, and there is an answer only to what was
sent. This is used for requests that cannot be made and for networks that do not carry a message. -/

/-- A failure that does not ask to wait ends an execution at the first attempt. -/
theorem execute_of_final {c : Client} {r : Request} {failure : Failure} {w w' : World}
    (h : c.attempt r w = (.error failure, w')) (hfinal : failure.retryAfter? = none) :
    c.execute r w = (.error failure, w') := by
  rw [execute]
  cases c.retryPolicy.budget with
  | zero => exact h
  | succ left =>
    have hstop : c.retryPolicy.backoff? 0 failure = none := by
      rw [RetryPolicy.backoff?_eq, hfinal, ite_self]
    rw [executeFrom, h, resume, hstop]

/-- A request that cannot be made fails at once. -/
theorem execute_of_refused {c : Client} {r : Request} {failure : Failure}
    (h : c.prepare r = .error failure) (hfinal : failure.retryAfter? = none) (w : World) :
    c.execute r w = (.error failure, w.advance (c.openingEvents r) w.script) :=
  execute_of_final (by rw [attempt_eq, h]) hfinal

/-- A message that the network does not carry is not sent. -/
theorem deliver_of_not_carried {w : World} {message : Message}
    (h : ¬ w.carries.contains message.url.scheme = true) :
    deliver message w = (.error (.transport ⟨.connection false, none⟩), w) := by
  rw [deliver_eq, World.exchange, if_neg h]
  rfl

/-- **Nothing sent, nothing got.**  An execution that sends no message fails. -/
theorem error_of_sent_eq {c : Client} {r : Request} {w : World}
    (h : (c.execute r w).2.sent = w.sent) : ∃ failure, (c.execute r w).1 = .error failure := by
  cases hmessage : c.prepare r with
  | error failure =>
    have hrefused : failure = .transport ⟨.request, none⟩ := by
      delta prepare at hmessage
      split at hmessage
      · cases hmessage
      · cases hmessage
        rfl
    rw [execute_of_refused hmessage (by rw [hrefused]; rfl)]
    exact ⟨failure, rfl⟩
  | ok message =>
    by_cases hcarries : w.carries.contains message.url.scheme = true
    · rw [execute_of_prepared hmessage hcarries, World.sent_advance, sentIn_transcript,
        List.append_right_eq_self, List.replicate_succ] at h
      cases h
    · have hattempt : c.attempt r w =
          (.error (.transport ⟨.connection false, none⟩),
            w.advance (c.openingEvents r) w.script) := by
        rw [attempt_eq, hmessage]
        exact deliver_of_not_carried hcarries
      rw [execute_of_final hattempt rfl]
      exact ⟨_, rfl⟩

end Client

end ThreatGraph
