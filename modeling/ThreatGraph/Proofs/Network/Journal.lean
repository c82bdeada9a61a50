import ThreatGraph.Network

/-!
# The journal as it grows

A call never takes anything out of the journal.  It adds events at the end and leaves a part of the
script, so the world after it is `w.advance events script`, and what was sent, slept and noted
before stands in front of what the call adds (`World.sent_advance`, `World.slept_advance`,
`World.log_advance`).

`Call.Oblivious` says that a call looks at what lies ahead of it only: at the network and the
script, and not at the journal.  What happened before then cannot change what it gives or adds.
-/

set_option autoImplicit false

namespace ThreatGraph

namespace Event

/-- The requests among some events. -/
def sentIn (events : List Event) : List Message :=
  events.filterMap fun
    | .sent message => some message
    | _ => none

/-- The times slept among some events. -/
def sleptIn (events : List Event) : List Nat :=
  events.filterMap fun
    | .slept seconds => some seconds
    | _ => none

/-- The entries of the log among some events. -/
def notedIn (events : List Event) : List Note :=
  events.filterMap fun
    | .noted note => some note
    | _ => none

/-- How many of some events are waits for the throttle. -/
def holdsIn (events : List Event) : Nat := events.count .held

@[simp] theorem sentIn_append (es es' : List Event) :
    sentIn (es ++ es') = sentIn es ++ sentIn es' :=
  List.filterMap_append

@[simp] theorem sleptIn_append (es es' : List Event) :
    sleptIn (es ++ es') = sleptIn es ++ sleptIn es' :=
  List.filterMap_append

@[simp] theorem notedIn_append (es es' : List Event) :
    notedIn (es ++ es') = notedIn es ++ notedIn es' :=
  List.filterMap_append

@[simp] theorem holdsIn_append (es es' : List Event) :
    holdsIn (es ++ es') = holdsIn es + holdsIn es' :=
  List.count_append

end Event

namespace World

/-- The world after some events, with what they leave of the script. -/
def advance (events : List Event) (script : List Outcome) (w : World) : World :=
  { w with script := script, journal := w.journal ++ events }

@[simp] theorem advance_carries (events : List Event) (script : List Outcome) (w : World) :
    (w.advance events script).carries = w.carries := rfl

@[simp] theorem advance_script (events : List Event) (script : List Outcome) (w : World) :
    (w.advance events script).script = script := rfl

theorem advance_advance (es es' : List Event) (s s' : List Outcome) (w : World) :
    (w.advance es s).advance es' s' = w.advance (es ++ es') s' := by
  simp [advance, List.append_assoc]

theorem advance_nil (w : World) : w.advance [] w.script = w := by
  simp [advance]

theorem note_eq_advance (level : Level) (origin : Origin) (text : String) (w : World) :
    w.note level origin text = w.advance [.noted ⟨level, origin, text⟩] w.script := rfl

theorem sleep_eq_advance (seconds : Nat) (w : World) :
    w.sleep seconds = w.advance [.slept seconds] w.script := rfl

theorem sent_advance (events : List Event) (script : List Outcome) (w : World) :
    (w.advance events script).sent = w.sent ++ Event.sentIn events :=
  List.filterMap_append

theorem slept_advance (events : List Event) (script : List Outcome) (w : World) :
    (w.advance events script).slept = w.slept ++ Event.sleptIn events :=
  List.filterMap_append

theorem log_advance (events : List Event) (script : List Outcome) (w : World) :
    (w.advance events script).log = w.log ++ Event.notedIn events :=
  List.filterMap_append

theorem holds_advance (events : List Event) (script : List Outcome) (w : World) :
    (w.advance events script).holds = w.holds + Event.holdsIn events :=
  List.count_append

/-- The same lies ahead: the network and the script are the same, whatever happened before. -/
structure SameAhead (w v : World) : Prop where
  carries : w.carries = v.carries
  script : w.script = v.script

theorem SameAhead.refl (w : World) : SameAhead w w := ⟨rfl, rfl⟩

/-- The same lies ahead after the same was done. -/
theorem SameAhead.advance {w v : World} (h : SameAhead w v) (es es' : List Event)
    (s : List Outcome) : SameAhead (w.advance es s) (v.advance es' s) :=
  ⟨h.carries, rfl⟩

end World

/-- Two runs, begun in the worlds `w` and `v`, have the same result, add the same events and leave
the same script. -/
def World.RunAlike {β : Type} (w v : World) (a b : β × World) : Prop :=
  a.1 = b.1 ∧ ∃ events script, a.2 = w.advance events script ∧ b.2 = v.advance events script

/-- Runs that do nothing more are alike. -/
theorem World.RunAlike.stop {β : Type} {w v : World} (h : SameAhead w v) (x : β) :
    RunAlike w v (x, w) (x, v) :=
  ⟨rfl, [], w.script, w.advance_nil.symm, by rw [h.script, v.advance_nil]⟩

/-- A run goes on alike if it does from any two worlds in which the same lies ahead. -/
theorem World.RunAlike.bind {β γ : Type} {w v : World} {a b : β × World}
    (hab : RunAlike w v a b) (hwv : SameAhead w v) {f : β × World → γ × World}
    (hf : ∀ (x : β) (w' v' : World), SameAhead w' v' → RunAlike w' v' (f (x, w')) (f (x, v'))) :
    RunAlike w v (f a) (f b) := by
  obtain ⟨x, w'⟩ := a
  obtain ⟨y, v'⟩ := b
  obtain ⟨rfl, es, s, hw, hv⟩ := hab
  dsimp only at hw hv
  subst hw hv
  obtain ⟨hresult, es', s', hw, hv⟩ := hf x _ _ (hwv.advance es es s)
  refine ⟨hresult, es ++ es', s', ?_, ?_⟩
  · rw [hw, advance_advance]
  · rw [hv, advance_advance]

/-- A call that looks at what lies ahead only: where that is the same it runs alike. -/
def Call.Oblivious {α : Type} (call : Call α) : Prop :=
  ∀ ⦃w v : World⦄, World.SameAhead w v → World.RunAlike w v (call w) (call v)

/-- A call that begins with some events. -/
theorem Call.Oblivious.after {α : Type} {call : Call α} (hcall : Call.Oblivious call)
    (es : List Event) : Call.Oblivious fun w => call (w.advance es w.script) := by
  intro w v h
  have hstart : World.RunAlike w v ((), w.advance es w.script) ((), v.advance es v.script) :=
    ⟨rfl, es, w.script, rfl, by rw [h.script]⟩
  exact hstart.bind (f := fun a => call a.2) h fun _ _ _ hahead => hcall hahead

end ThreatGraph
