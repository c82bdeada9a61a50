import ThreatGraph.Proofs.Client.Execution

/-!
# Services that answer for ever

The script of a world is finite, and a service need not be: it may answer every request that it is
ever sent.  A run that comes to its end has sent a number of requests, and what would have come of
further ones is nothing to it.  So the run is the same in every world whose script goes at least as
far as that.

* `World.RunsTo` says that a run is determined by what comes of the requests that it sends.  It is
  kept from step to step (`World.RunsTo.bind`).
* `Service` is what comes of the requests for ever, and `World.EndsWithin` says that a run comes to
  its end against every service, with a bound on the number of requests.
* `World.EndsWithin.of_runsTo` leads from the one to the other.
-/

set_option autoImplicit false

namespace ThreatGraph

variable {β γ : Type}

/-- What comes of the requests that a service is sent, one after the other. -/
abbrev Service := Nat → Outcome

namespace World

/-- A run gives a result and adds some events, in this world and in each in which the network
carries the same and the same comes of the requests among these events. -/
def RunsTo (run : World → β × World) (w : World) (x : β) (events : List Event) : Prop :=
  ∀ v : World, v.carries = w.carries →
    (∀ i < (Event.sentIn events).length, v.outcome i = w.outcome i) →
      run v = (x, v.advance events (v.script.drop (Event.sentIn events).length))

namespace RunsTo

variable {run : World → β × World} {w : World} {x : β} {events : List Event}

theorem eq (h : RunsTo run w x events) :
    run w = (x, w.advance events (w.script.drop (Event.sentIn events).length)) :=
  h w rfl fun _ _ => rfl

theorem congr (h : RunsTo run w x events) {run' : World → β × World}
    (heq : ∀ v, run' v = run v) : RunsTo run' w x events :=
  fun v hcarries houtcome => (heq v).trans (h v hcarries houtcome)

theorem stop (w : World) (x : β) : RunsTo (fun v => (x, v)) w x [] := by
  intro v _ _
  rw [show Event.sentIn [] = [] from rfl, List.length_nil, List.drop_zero, advance_nil]

theorem map (h : RunsTo run w x events) (f : β → γ) :
    RunsTo (fun v => (f (run v).1, (run v).2)) w (f x) events := by
  intro v hcarries houtcome
  simp only [h v hcarries houtcome]

/-- A run after some events that send nothing, which leave the script as it is. -/
theorem after {before : List Event} (hsent : Event.sentIn before = [])
    (h : RunsTo run (w.advance before w.script) x events) :
    RunsTo (fun v => run (v.advance before v.script)) w x (before ++ events) := by
  intro v hcarries houtcome
  rw [Event.sentIn_append, hsent, List.nil_append] at houtcome ⊢
  have hrun := h (v.advance before v.script) hcarries houtcome
  dsimp only
  rw [hrun, advance_advance, advance_script]

/-- A run goes on in the world that it has led to. -/
theorem bind {g : β → World → γ × World} {y : γ} {events' : List Event}
    (h : RunsTo run w x events)
    (h' : RunsTo (g x) (w.advance events (w.script.drop (Event.sentIn events).length)) y
      events') :
    RunsTo (fun v => g (run v).1 (run v).2) w y (events ++ events') := by
  intro v hcarries houtcome
  rw [Event.sentIn_append, List.length_append] at houtcome ⊢
  have hrun := h v hcarries fun i hi => houtcome i (Nat.lt_add_right _ hi)
  have hnext := h' (v.advance events (v.script.drop (Event.sentIn events).length)) hcarries
    fun i hi => by
      rw [outcome_advance_drop, outcome_advance_drop]
      exact houtcome _ (Nat.add_lt_add_left hi _)
  simp only [hrun]
  rw [hnext, advance_advance, advance_script, List.drop_drop]

end RunsTo

/-- The world in which the first `n` outcomes of a service are ahead. -/
def facing (service : Service) (n : Nat) (w : World) : World :=
  { w with script := (List.range n).map service }

theorem outcome_facing {service : Service} {n i : Nat} (w : World) (h : i < n) :
    (w.facing service n).outcome i = service i := by
  rw [outcome_of_lt (by simpa [facing] using h)]
  simp [facing]

/-- A run comes to its end against every service.  It sends no more requests than `most`, and it is
the same run however many outcomes beyond those are ahead. -/
def EndsWithin (most : Nat) (run : World → β × World) : Prop :=
  ∀ (service : Service) (w : World), ∃ x events, (Event.sentIn events).length ≤ most ∧
    ∀ n ≥ (Event.sentIn events).length,
      run (w.facing service n) = (x, (w.facing service n).advance events
        ((w.facing service n).script.drop (Event.sentIn events).length))

/-- A run that is determined by what it sends, and sends no more than a number of requests wherever
it begins, comes to its end. -/
theorem EndsWithin.of_runsTo {most : Nat} {run : World → β × World}
    (h : ∀ w, ∃ x events, RunsTo run w x events ∧ (Event.sentIn events).length ≤ most) :
    EndsWithin most run := by
  intro service w
  obtain ⟨x, events, hrun, hmost⟩ := h (w.facing service most)
  refine ⟨x, events, hmost, fun n hn => hrun _ rfl fun i hi => ?_⟩
  rw [outcome_facing w (Nat.lt_of_lt_of_le hi hn), outcome_facing w (Nat.lt_of_lt_of_le hi hmost)]

theorem exchange_runsTo (message : Message) (w : World) :
    ∃ x events, RunsTo (exchange message) w x events ∧
      (events = [] ∨ events = [.sent message]) := by
  by_cases hc : w.carries.contains message.url.scheme = true
  · refine ⟨receiveFrom message.url (w.outcome 0), [.sent message], fun v hcarries houtcome => ?_,
      .inr rfl⟩
    rw [exchange_of_carried (hcarries ▸ hc), houtcome 0 (Nat.zero_lt_one)]
    rfl
  · refine ⟨receiveFrom message.url .dropped, [], fun v hcarries _ => ?_, .inl rfl⟩
    rw [exchange, if_neg (hcarries ▸ hc)]
    exact Prod.ext rfl v.advance_nil.symm

end World

end ThreatGraph
