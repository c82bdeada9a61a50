import ThreatGraph.Proofs.Pager.Truncation

/-!
# Three ways to consume a pager

The items of a pager can be collected, taken from a stream, or asked for one by one.  All of these
go round the same loop, and they agree on the items, on the failure after them and on what is done
for them.

* `Pager.Consumes` says what each way makes of a pager that gives some items and then ends or fails.
  It holds of a pager if it holds after an item that the pager gives (`Pager.Consumes.item`), and of
  one that gives no item (`Pager.Consumes.last`).
* `Pager.consumed_alike` says that the three ways agree on every pager in every world.
-/

set_option autoImplicit false

namespace ThreatGraph

variable {α : Type}

namespace Pager

/-! ## After the last item

The ways to consume a pager differ in what they do after the last item: collecting stops there, and
the caller of `next` may go on asking.  They agree only because a pager that has ended stays as it
is. -/

/-- A call that gives no item leaves a pager that has ended. -/
theorem ended_of_next (p : Pager α) (w : World) (h : EndsItems (p.next w).1) :
    (p.next w).2.1.progress.isFinished = true ∧ (p.next w).2.1.buffer = [] := by
  induction p, w using turns_induction with
  | answer p w result p' w' hturn =>
    rw [next_eq_turn, hturn] at h ⊢
    cases turn_eq_answer hturn with
    | limit => exact ⟨rfl, rfl⟩
    | item => simp [EndsItems] at h
    | finished hbuffer hfinished => exact ⟨hfinished, hbuffer⟩
    | failed hwants =>
      simp only [wantsPage, Bool.and_eq_true, List.isEmpty_iff] at hwants
      exact ⟨rfl, hwants.1.2⟩
  | fetch p w page p' w' hturn ih =>
    rw [next_eq_turn, hturn] at h ⊢
    exact ih h

/-- After a call that gives no item all further calls give none, and the world stays as it is. -/
theorem calls_of_endsItems {p p' : Pager α} {w w' : World} {result : Except Failure (Option α)}
    (hnext : p.next w = (result, p', w')) (h : EndsItems result) (k : Nat) :
    p.calls w (k + 1) = ⟨result :: List.replicate k (.ok none), p', w'⟩ := by
  have hended := ended_of_next p w (by rwa [hnext])
  rw [hnext] at hended
  rw [calls_eq_cons, hnext]
  dsimp only
  rw [calls_of_next_self (next_of_ended hended.1 hended.2 w')]

/-! ## The three ways

What the three ways give comes in three shapes: a list or a failure, a list of elements, and a list
of results.  `Pager.Consumes` puts them side by side, for a pager that gives some items and then
ends or fails.  It is proved along the items, and each way of consuming takes the same step
there. -/

/-- The elements of a stream: some items, and a failure after them. -/
def elements (items : List α) (fault : Option Failure) : List (Except Failure α) :=
  items.map .ok ++ fault.toList.map .error

@[simp] theorem elements_cons (item : α) (items : List α) (fault : Option Failure) :
    elements (item :: items) fault = .ok item :: elements items fault := rfl

@[simp] theorem elements_ended : elements ([] : List α) none = [] := rfl

@[simp] theorem elements_failed (failure : Failure) :
    elements ([] : List α) (some failure) = [.error failure] := rfl

/-- An element of a stream as the result of a call. -/
def asResult (element : Except Failure α) : Except Failure (Option α) := element.map some

/-- What the three ways to consume a pager make of it, if it gives some items and then ends or
fails in a world `v`. -/
structure Consumes (p : Pager α) (w : World) (items : List α) (fault : Option Failure)
    (v : World) : Prop where
  /-- Collecting gives all items, or the failure alone. -/
  collect : p.collect w = (fault.elim (.ok items) .error, v)
  /-- The first elements of the stream are items and then the failure.  It ends after them, and it
  has done what as many calls do. -/
  stream : ∀ k, p.stream k w =
    ((elements items fault).take k, decide ((elements items fault).length < k), (p.calls w k).world)
  /-- The calls give the same, and nothing after it. -/
  results : ∀ k, (p.calls w k).results = ((elements items fault).map asResult).take k ++
    List.replicate (k - (elements items fault).length) (.ok none)
  /-- The call after the last item is the last one that does anything. -/
  world : ∀ k, items.length < k → (p.calls w k).world = v

namespace Consumes

variable {p p' : Pager α} {w w' v : World} {items : List α} {fault : Option Failure}

/-- An item in front is collected, streamed and given before the others. -/
theorem item {a : α} (hnext : p.next w = (.ok (some a), p', w'))
    (h : Consumes p' w' items fault v) : Consumes p w (a :: items) fault v where
  collect := by
    have hrest := h.collect
    rw [collect_eq] at hrest ⊢
    rw [drain_eq, hnext]
    obtain ⟨hresult, hworld⟩ := Prod.mk.inj hrest
    refine Prod.ext ?_ hworld
    -- A failure is the same; without one, the items are those in the result.
    cases hfault : (p'.drain w').2.1 <;> cases fault <;> simp_all
  stream := fun k => by
    cases k with
    | zero => rfl
    | succ k =>
      rw [Pager.stream, hnext, calls_eq_cons, hnext]
      simp [h.stream k]
  results := fun k => by
    cases k with
    | zero => simp [Pager.calls]
    | succ k =>
      rw [calls_eq_cons, hnext]
      simp [h.results k, asResult, Except.map]
  world := fun k hk => by
    cases k with
    | zero => exact absurd hk (Nat.not_lt_zero _)
    | succ k =>
      rw [calls_eq_cons, hnext]
      exact h.world k (Nat.lt_of_succ_lt_succ hk)

/-- A pager that gives no item has nothing in front of its end or its failure, however it is
consumed. -/
theorem last (hnext : p.next w = (fault.elim (.ok none) .error, p', w')) :
    Consumes p w [] fault w' := by
  have hends : EndsItems (fault.elim (.ok none : Except Failure (Option α)) .error) := by
    cases fault with
    | none => exact .inl rfl
    | some failure => exact .inr ⟨failure, rfl⟩
  have hcalls := calls_of_endsItems hnext hends
  exact {
    collect := by
      rw [collect_eq, drain_eq, hnext]
      cases fault <;> rfl
    stream := fun k => by
      cases k with
      | zero => rfl
      | succ k =>
        rw [Pager.stream, hnext, hcalls]
        cases fault <;> simp [Nat.pos_iff_ne_zero]
    results := fun k => by
      cases k with
      | zero => simp [Pager.calls]
      | succ k =>
        rw [hcalls]
        cases fault <;> simp [asResult, Except.map, List.replicate_succ]
    world := fun k hk => by
      cases k with
      | zero => exact absurd hk (Nat.not_lt_zero _)
      | succ k => rw [hcalls] }

end Consumes

/-- Every pager gives some items, and then it ends or fails. -/
theorem exists_consumes (p : Pager α) (w : World) :
    ∃ items fault v, Consumes p w items fault v := by
  induction p, w using items_induction with
  | item p w a p' w' hnext ih =>
    obtain ⟨items, fault, v, hrest⟩ := ih
    exact ⟨a :: items, fault, v, hrest.item hnext⟩
  | ended p w p' w' hnext => exact ⟨[], none, w', .last hnext⟩
  | failed p w failure p' w' hnext => exact ⟨[], some failure, w', .last hnext⟩

/-- **The three ways agree.**  For every pager and every world: if collecting gives items, the
stream and the calls give exactly these and then end; if it fails, they give the items before the
failure, then the failure, and then end.  At its end each has left the same world, and a stream that
is given up before has done what as many calls do. -/
theorem consumed_alike (p : Pager α) (w : World) :
    match p.collect w with
    | (.ok items, v) => Consumes p w items none v
    | (.error failure, v) => ∃ items, Consumes p w items (some failure) v := by
  obtain ⟨items, fault, v, h⟩ := exists_consumes p w
  rw [h.collect]
  cases fault with
  | none => exact h
  | some failure => exact ⟨items, h⟩

end Pager

end ThreatGraph
