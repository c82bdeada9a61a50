import ThreatGraph.Proofs.Pager.Truncation

/-!
# A pager whose items are put in another form

`Pager.map` puts the items of a pager in another form: those at hand at once, and those to come when
their page is taken in.  So it makes no difference whether the form is changed before the items are
given or after.

* `Pager.turn_map`, `Pager.next_map` and `Pager.calls_map` say so of a turn, of a call and of a
  number of calls.
* `Pager.drain_map` says so of all items, and `Pager.stream_map` of a stream.
* `Client.paginateWith_commutes` draws the conclusion for the pagers of an endpoint, over the items
  as they are and over the items in another form.
-/

set_option autoImplicit false

namespace ThreatGraph

variable {α β : Type}

/-- A page with its items put in another form. -/
def Page.map (f : α → β) (page : Page α) : Page β := ⟨page.items.map f, page.next⟩

theorem Page.ofBody_comp (f : α → β) (transform : Json → α) (body : Json) :
    Page.ofBody (f ∘ transform) body = (Page.ofBody transform body).map f := by
  rw [ofBody, ofBody, map, List.map_map]

namespace Pager

@[simp] theorem progress_map (f : α → β) (p : Pager α) : (p.map f).progress = p.progress := rfl

@[simp] theorem buffer_map (f : α → β) (p : Pager α) : (p.map f).buffer = p.buffer.map f := rfl

@[simp] theorem transform_map (f : α → β) (p : Pager α) :
    (p.map f).transform = f ∘ p.transform := rfl

/-- The form of the items plays no part in a request. -/
@[simp] theorem pull_map (f : α → β) (p : Pager α) : (p.map f).pull = p.pull := rfl

@[simp] theorem wantsPage_map (f : α → β) (p : Pager α) : (p.map f).wantsPage = p.wantsPage := by
  rw [wantsPage, wantsPage, progress_map, buffer_map, List.isEmpty_map]

theorem withPage_map (f : α → β) (p : Pager α) (page : Page α) :
    (p.map f).withPage (page.map f) = (p.withPage page).map f := by
  simp only [withPage, map, Page.map, List.map_append]
  rfl

theorem pageEvents_map (f : α → β) (p : Pager α) (page : Page α) :
    (p.map f).pageEvents (page.map f) = p.pageEvents page := by
  have hnote : (p.map f).pageNote (page.map f) = p.pageNote page := by
    unfold pageNote
    rw [Page.map, List.length_map]
    rfl
  rw [pageEvents, pageEvents, hnote]
  rfl

/-- A result with its item put in another form. -/
def mapResult (f : α → β) (result : Except Failure (Option α)) : Except Failure (Option β) :=
  result.map (Option.map f)

theorem settle_map (f : α → β) (p : Pager α) :
    (p.map f).settle = (mapResult f p.settle.1, p.settle.2.map f) := by
  rw [settle, settle, progress_map, buffer_map]
  split
  · rfl
  · cases p.buffer <;> rfl

/-- A turn with its items put in another form. -/
def Turn.map (f : α → β) : Turn α → Turn β
  | .answer result p w => .answer (mapResult f result) (p.map f) w
  | .fetch page p w => .fetch (page.map f) (p.map f) w

/-- A turn does the same, whatever the form of the items is. -/
theorem turn_map (f : α → β) (p : Pager α) (w : World) : (p.map f).turn w = (p.turn w).map f := by
  rw [turn, turn, wantsPage_map, pull_map, transform_map]
  split
  · cases p.pull w with
    | mk pulled v =>
      cases pulled with
      | error failure => rfl
      | ok body =>
        dsimp only
        rw [Page.ofBody_comp, withPage_map, pageEvents_map]
        rfl
  · rw [settle_map]
    rfl

/-- **A call does the same**, and gives the item that it would give, in the other form. -/
theorem next_map (f : α → β) (p : Pager α) (w : World) :
    (p.map f).next w = (mapResult f (p.next w).1, (p.next w).2.1.map f, (p.next w).2.2) := by
  induction p, w using turns_induction with
  | answer p w result p' w' hturn =>
    rw [next_eq_turn, turn_map, next_eq_turn p, hturn]
    rfl
  | fetch p w page p' w' hturn ih =>
    rw [next_eq_turn, turn_map, next_eq_turn p, hturn]
    exact ih

/-- A number of calls does the same. -/
theorem calls_map (f : α → β) (p : Pager α) (w : World) (n : Nat) :
    (p.map f).calls w n = ⟨(p.calls w n).results.map (mapResult f), (p.calls w n).pager.map f,
      (p.calls w n).world⟩ := by
  induction n with
  | zero => rfl
  | succ n ih =>
    rw [calls, calls, ih]
    simp only [next_map, List.map_append, List.map_cons, List.map_nil]

/-- All items are the same items, in the other form. -/
theorem drain_map (f : α → β) (p : Pager α) (w : World) :
    (p.map f).drain w = ((p.drain w).1.map f, (p.drain w).2.1, (p.drain w).2.2.1.map f,
      (p.drain w).2.2.2) := by
  induction p, w using items_induction with
  | item p w item p' w' hnext ih =>
    rw [drain_eq, drain_eq p, next_map, hnext]
    simp only [mapResult, Except.map, Option.map, ih, List.map_cons]
  | ended p w p' w' hnext =>
    rw [drain_eq, drain_eq p, next_map, hnext]
    rfl
  | failed p w failure p' w' hnext =>
    rw [drain_eq, drain_eq p, next_map, hnext]
    rfl

/-- What is collected are the same items, in the other form. -/
theorem collect_map (f : α → β) (p : Pager α) (w : World) :
    (p.map f).collect w = Call.map (List.map f) p.collect w := by
  rw [Call.map, collect_eq, collect_eq, drain_map]
  cases (p.drain w).2.1 <;> rfl

/-- A stream has the same elements, in the other form, and ends at the same place. -/
theorem stream_map (f : α → β) (p : Pager α) (k : Nat) (w : World) :
    (p.map f).stream k w = ((p.stream k w).1.map (Except.map f), (p.stream k w).2) := by
  induction k generalizing p w with
  | zero => rfl
  | succ k ih =>
    rw [stream, stream, next_map]
    match hnext : p.next w with
    | (.ok (some item), p', w') => simp only [mapResult, Except.map, Option.map, ih, List.map_cons]
    | (.ok none, p', w') => rfl
    | (.error failure, p', w') => rfl

end Pager

namespace Client

/-- The pager over the items in another form is the pager over the items as they are, mapped. -/
theorem paginateWith_eq_map (c : Client) (endpoint : String) (params : Params)
    (limit : Option Nat) (f : Json → α) :
    c.paginateWith endpoint params limit f = (c.paginate endpoint params limit).map f := rfl

/-- **Mapping commutes with traversing.**  For every client, endpoint, limit and script, and for
every form of the items: each call gives what it gives for the items as they are, with the item in
its form.  The pagers stay the same but for the form, so they have given and fetched as much, and
the worlds stay the same, with everything that was sent, slept and noted.  The same holds where the
items are collected or streamed. -/
theorem paginateWith_commutes (c : Client) (endpoint : String) (params : Params)
    (limit : Option Nat) (f : Json → α) (w : World) :
    let raw := c.paginate endpoint params limit
    let mapped := c.paginateWith endpoint params limit f
    (∀ n, (mapped.calls w n).results = (raw.calls w n).results.map (Pager.mapResult f) ∧
      (mapped.calls w n).pager = (raw.calls w n).pager.map f ∧
      (mapped.calls w n).pager.progress.yielded = (raw.calls w n).pager.progress.yielded ∧
      (mapped.calls w n).pager.progress.pages = (raw.calls w n).pager.progress.pages ∧
      (mapped.calls w n).world = (raw.calls w n).world) ∧
    mapped.collect w = Call.map (List.map f) raw.collect w ∧
    ∀ k, mapped.stream k w = ((raw.stream k w).1.map (Except.map f), (raw.stream k w).2) := by
  intro raw mapped
  rw [show mapped = raw.map f from paginateWith_eq_map c endpoint params limit f]
  refine ⟨fun n => ?_, Pager.collect_map f raw w, fun k => Pager.stream_map f raw k w⟩
  rw [Pager.calls_map]
  exact ⟨rfl, rfl, rfl, rfl, rfl⟩

end Client

end ThreatGraph
