import ThreatGraph.Client
import ThreatGraph.Page

/-!
# Pagers

A pager hands out the items of a collection one by one. It fetches a page only when an item is asked
for and none is left of the pages before.

* `Pager.next` is the next item, or none at the end.
* `Pager.drain` is all items up to the end or the first failure, and `Pager.collect` is all items if
  there is no failure.
* `Pager.stream` is a number of items as a stream has them, which ends with the first failure.

A pager ends because each page takes an answer from the script (`Pager.fetch_script_lt`).
-/

set_option autoImplicit false

namespace ThreatGraph

/-- A pager over a collection whose items are put in another form. -/
structure Pager (α : Type) where
  client : Client
  endpoint : String
  params : Params
  transform : Json → α
  progress : Progress
  buffer : List α

namespace Pager

variable {α : Type}

/-- The parameter that sets the number of items of a page. -/
def pageSizeParam : String := "limit"

/-- The parameters of a first request, which set the number of items of a page. -/
def sized (client : Client) (params : Params) : Params :=
  if params.contains pageSizeParam then params
  else params.insert pageSizeParam (.nat client.config.defaultPageSize)

/-- A pager that has fetched nothing yet and stops after `limit` items. -/
def start (client : Client) (endpoint : String) (params : Params) (limit : Option Nat)
    (transform : Json → α) : Pager α :=
  ⟨client, endpoint, sized client params, transform, .start limit, []⟩

/-- The pager with its items put in yet another form. -/
def map {β : Type} (f : α → β) (p : Pager α) : Pager β :=
  ⟨p.client, p.endpoint, p.params, f ∘ p.transform, p.progress, p.buffer.map f⟩

/-- The pager, stopped. -/
def finish (p : Pager α) : Pager α := { p with progress := p.progress.finish }

/-! ## Fetching a page -/

/-- The request for the next page. -/
def nextRequest (p : Pager α) : Except Failure Request :=
  match p.progress.cursor with
  | .next link => Continuation.request link
  | _ => .ok { method := .get, endpoint := p.endpoint, query := p.params }

/-- The entry of the log when a page is fetched. -/
def pageNote (p : Pager α) (page : Page α) : String :=
  "Fetched page " ++ toString (p.progress.pages + 1) ++ " of " ++ p.endpoint ++ " ("
    ++ toString page.items.length ++ " items, more: "
    ++ Config.describeBool page.hasNext ++ ")"

/-- The entry of the log when the greatest number of pages is fetched. -/
def guardNote (p : Pager α) (maxPages : Nat) : String :=
  "Stopping pagination of " ++ p.endpoint ++ " after " ++ toString maxPages
    ++ " pages (max_pages)"

/-- Takes in a page. -/
def addPage (page : Page α) (p : Pager α) : Pager α :=
  { p with
    buffer := p.buffer ++ page.items
    progress := p.progress.countPage page.next }

/-- Stops if the greatest number of pages is fetched and there are more. -/
def applyGuard (p : Pager α) (w : World) : Pager α × World :=
  match p.client.config.maxPages with
  | some maxPages =>
    if maxPages ≤ p.progress.pages ∧ !p.progress.isFinished then
      (p.finish, w.note .warn .pager (p.guardNote maxPages))
    else (p, w)
  | none => (p, w)

/-- Fetches the next page. -/
def fetch (p : Pager α) (w : World) : Except Failure (Pager α) × World :=
  match p.nextRequest with
  | .error failure => (.error failure, w)
  | .ok request =>
    match p.client.execute request w with
    | (.error failure, w) => (.error failure, w)
    | (.ok body, w) =>
      let page := Page.ofBody p.transform body
      let (p, w) := (p.addPage page).applyGuard (w.note .debug .pager (p.pageNote page))
      (.ok p, w)

theorem applyGuard_script (p : Pager α) (w : World) : (p.applyGuard w).2.script = w.script := by
  unfold applyGuard
  repeat' split
  all_goals rfl

/-- A page takes an answer from the script. -/
theorem fetch_script_lt {p p' : Pager α} {w w' : World} (h : p.fetch w = (.ok p', w')) :
    w'.script.length < w.script.length := by
  unfold fetch at h
  split at h
  · simp at h
  · next request _ =>
    split at h
    · simp at h
    · next body w'' heq =>
      have hlt := @Client.execute_script_lt p.client request w body (by rw [heq])
      simp only [Prod.mk.injEq] at h
      rw [← h.2, applyGuard_script]
      simpa [heq, World.note, World.record] using hlt

/-! ## Items -/

/-- The next item, or none at the end. A failure ends the pager. -/
def next (p : Pager α) (w : World) : Except Failure (Option α) × Pager α × World :=
  if p.progress.limitReached then (.ok none, { p.finish with buffer := [] }, w)
  else
    match p.buffer with
    | item :: buffer =>
      (.ok (some item), { p with buffer := buffer, progress := p.progress.countItem }, w)
    | [] =>
      if p.progress.isFinished then (.ok none, p, w)
      else
        match _h : p.fetch w with
        | (.error failure, w') => (.error failure, p.finish, w')
        | (.ok p', w') => next p' w'
termination_by w.script.length
decreasing_by exact fetch_script_lt _h

/-- An item is taken from the items at hand, or from a page, which takes an answer. -/
theorem next_decreases (p : Pager α) (w : World) :
    ∀ {item : α} {p' : Pager α} {w' : World}, p.next w = (.ok (some item), p', w') →
      w'.script.length < w.script.length ∨
        w'.script.length = w.script.length ∧ p'.buffer.length < p.buffer.length := by
  fun_induction Pager.next p w with
  | case1 => simp
  | case2 p w _ item buffer hb =>
    intro item' p' w' h
    simp only [Prod.mk.injEq] at h
    refine .inr ⟨by rw [← h.2.2], ?_⟩
    rw [← h.2.1]
    simp [hb]
  | case3 => simp
  | case4 => simp
  | case5 p w _ _ _ p1 w1 hf ih =>
    intro item' p' w' h
    have hlt := fetch_script_lt hf
    rcases ih h with h | h <;> omega

/-- All items up to the end or the first failure, with the pager as it is then. -/
def drain (p : Pager α) (w : World) : List α × Option Failure × Pager α × World :=
  match _h : p.next w with
  | (.ok (some item), p', w') =>
    let (items, rest) := drain p' w'
    (item :: items, rest)
  | (.ok none, p', w') => ([], none, p', w')
  | (.error failure, p', w') => ([], some failure, p', w')
termination_by (w.script.length, p.buffer.length)
decreasing_by
  rcases next_decreases p w _h with h | h
  · exact Prod.Lex.left _ _ h
  · rw [h.1]; exact Prod.Lex.right _ h.2

/-- All items, if there is no failure. -/
def collect (p : Pager α) : Call (List α) := fun w =>
  match p.drain w with
  | (items, none, _, w) => (.ok items, w)
  | (_, some failure, _, w) => (.error failure, w)

/-- The first `count` elements of the stream of a pager, and whether the stream ended before. It
ends after a failure, and where there are no more items. -/
def stream (p : Pager α) : Nat → World → List (Except Failure α) × Bool × World
  | 0, w => ([], false, w)
  | count + 1, w =>
    match p.next w with
    | (.ok (some item), p, w) =>
      let (results, rest) := stream p count w
      (.ok item :: results, rest)
    | (.ok none, _, w) => ([], true, w)
    | (.error failure, _, w) => ([.error failure], count ≠ 0, w)

/-! ## Descriptions -/

/-- A cursor in a description. -/
def describeCursor : Cursor → String
  | .start => "Start"
  | .next link => "Next(" ++ quoted link ++ ")"
  | .finished => "End"

/-- The progress of a traversal in a description. -/
def describeProgress (p : Progress) : String :=
  describeFields "CursorState"
    [("cursor", describeCursor p.cursor), ("yielded", toString p.yielded),
     ("pages", toString p.pages), ("limit", describeOption toString p.limit)]

/-- The description of a pager. -/
def description (p : Pager α) : String :=
  describeSomeFields "Paginator"
    [("endpoint", quoted p.endpoint), ("state", describeProgress p.progress),
     ("buffered", toString p.buffer.length)]

end Pager

namespace Client

/-- A pager over the items of an endpoint as they are. -/
def paginate (c : Client) (endpoint : String) (params : Params) (limit : Option Nat) : Pager Json :=
  Pager.start c endpoint params limit id

/-- A pager over the items of an endpoint, put in another form. -/
def paginateWith {α : Type} (c : Client) (endpoint : String) (params : Params)
    (limit : Option Nat) (transform : Json → α) : Pager α :=
  Pager.start c endpoint params limit transform

end Client

end ThreatGraph
