import ThreatGraph.Pager
import ThreatGraph.Proofs.Network.Journal

/-!
# A pager, turn by turn

`Pager.next` goes round a loop.  In each turn it looks at the limit, at the items at hand and at the
cursor, in this order, and fetches a page only if none of them settles the call.  This file takes
the loop apart into its turns and says what each of them can do.

* `Pager.turn` is one turn, and `Pager.next_eq_turn` says that `next` is turns until one answers.
* `Moment` relates the state between two turns to everything that led there: the pages that were
  fetched and the results that were given.
* `Faithful` is the invariant of all moments (`Moment.faithful`).  What was given and what is at
  hand are together the items of all fetched pages, as long as the limit is not reached; and after a
  result that is no item nothing is left to give or to fetch.
* `Pager.demand_and_quiescence` draws the conclusions: pages are fetched on demand only, and a pager
  that has ended stays as it is.
-/

set_option autoImplicit false

namespace ThreatGraph

variable {α : Type}

/-- Sends a request, if there is one to be sent. -/
def Client.ask (c : Client) (request : Except Failure Request) : Call Json := fun w =>
  match request with
  | .error failure => (.error failure, w)
  | .ok request => c.execute request w

theorem Client.ask_ok (c : Client) (r : Request) : c.ask (.ok r) = c.execute r := by
  unfold ask
  rfl

/-- A request that succeeds takes an answer from the script. -/
theorem Client.ask_script_lt {c : Client} {request : Except Failure Request} {w w' : World}
    {body : Json} (h : c.ask request w = (.ok body, w')) : w'.script.length < w.script.length := by
  unfold ask at h
  split at h
  · simp at h
  · next request =>
    have hlt := @execute_script_lt c request w body (by rw [h])
    rwa [h] at hlt

namespace Pager

/-! ## Fetching a page

A fetch pulls an answer, counts its page, and asks the guard.  The program does this in steps that
pass a pager along; here they are put together into what comes of them, `Pager.withPage` and the
entries of the log. -/

/-- The answer to the request for the next page. -/
def pull (p : Pager α) : Call Json := p.client.ask p.nextRequest

/-- Whether the page that is fetched next is the last one that may be. -/
def isLastPage (p : Pager α) : Bool :=
  p.client.config.maxPages.any (· ≤ p.progress.pages + 1)

/-- Where the traversal goes after a page with a link to the next one, or none. -/
def cursorAfter (p : Pager α) (next : Option String) : Cursor :=
  match next with
  | some link => if p.isLastPage then .finished else .next link
  | none => .finished

/-- The pager with a page taken in. -/
def withPage (p : Pager α) (page : Page α) : Pager α :=
  { p with
    buffer := p.buffer ++ page.items
    progress := ⟨p.cursorAfter page.next, p.progress.yielded, p.progress.pages + 1,
      p.progress.limit⟩ }

/-- The warning that the greatest number of pages is fetched, if there are more. -/
def guardEvents (p : Pager α) (page : Page α) : List Event :=
  match p.client.config.maxPages with
  | some maxPages =>
    if maxPages ≤ p.progress.pages + 1 ∧ page.hasNext = true then
      [.noted ⟨.warn, .pager, p.guardNote maxPages⟩]
    else []
  | none => []

/-- The entries of the log that taking in a page makes. -/
def pageEvents (p : Pager α) (page : Page α) : List Event :=
  .noted ⟨.debug, .pager, p.pageNote page⟩ :: p.guardEvents page

@[simp] theorem client_addPage (p : Pager α) (page : Page α) :
    (p.addPage page).client = p.client := rfl

@[simp] theorem pages_addPage (p : Pager α) (page : Page α) :
    (p.addPage page).progress.pages = p.progress.pages + 1 := rfl

@[simp] theorem guardNote_addPage (p : Pager α) (page : Page α) (maxPages : Nat) :
    (p.addPage page).guardNote maxPages = p.guardNote maxPages := rfl

@[simp] theorem isFinished_addPage (p : Pager α) (page : Page α) :
    (p.addPage page).progress.isFinished = !page.hasNext := by
  cases h : page.next <;> simp [addPage, Progress.countPage, Progress.isFinished, Page.hasNext, h]

/-- The guard leaves the pager with the page taken in, and adds its warning. -/
theorem applyGuard_addPage (p : Pager α) (page : Page α) (w : World) :
    (p.addPage page).applyGuard w = (p.withPage page, w.advance (p.guardEvents page) w.script) := by
  rw [applyGuard, guardEvents]
  -- After the page is counted the guard sees the same client, and one page more.
  simp only [client_addPage, pages_addPage, guardNote_addPage, isFinished_addPage, Bool.not_not]
  cases hmax : p.client.config.maxPages with
  | none =>
    have hpage : p.addPage page = p.withPage page := by
      cases hnext : page.next <;>
        simp [addPage, withPage, cursorAfter, isLastPage, Progress.countPage, hmax, hnext]
    rw [hpage, World.advance_nil]
  | some maxPages =>
    dsimp only
    split
    · next h =>
      have hpage : (p.addPage page).finish = p.withPage page := by
        cases hnext : page.next <;>
          simp [addPage, withPage, finish, cursorAfter, isLastPage, Progress.countPage,
            Progress.finish, hmax, hnext, h.1]
      rw [hpage, World.note_eq_advance]
    · next h =>
      have hpage : p.addPage page = p.withPage page := by
        cases hnext : page.next with
        | none => simp [addPage, withPage, cursorAfter, Progress.countPage, hnext]
        | some link =>
          have hle : ¬ maxPages ≤ p.progress.pages + 1 := fun hle =>
            h ⟨hle, by simp [Page.hasNext, hnext]⟩
          simp [addPage, withPage, cursorAfter, isLastPage, Progress.countPage, hmax, hnext, hle]
      rw [hpage, World.advance_nil]

/-- A fetch pulls an answer and takes in the page that is in it. -/
theorem fetch_eq (p : Pager α) (w : World) : p.fetch w =
    match p.pull w with
    | (.error failure, w) => (.error failure, w)
    | (.ok body, w) =>
      (.ok (p.withPage (.ofBody p.transform body)),
        w.advance (p.pageEvents (.ofBody p.transform body)) w.script) := by
  unfold fetch pull Client.ask
  cases p.nextRequest with
  | error failure => rfl
  | ok request =>
    dsimp only
    cases p.client.execute request w with
    | mk result w' =>
      cases result with
      | error failure => rfl
      | ok body =>
        dsimp only
        rw [applyGuard_addPage, World.note_eq_advance, World.advance_advance, World.advance_script]
        rfl

/-! ## One turn of the loop

A turn either answers the call or fetches a page and goes on.  Everything that is proved of calls
rests on the two inversions below, `turn_eq_fetch` and `turn_eq_answer`: they say all that a turn
can do, and when it does it.  The loop ends because each fetch takes an answer from the script,
which is also the measure of `turns_induction`. -/

/-- What a turn of the loop comes to: the call is answered, or a page is fetched. -/
inductive Turn (α : Type) where
  | answer (result : Except Failure (Option α)) (pager : Pager α) (world : World)
  | fetch (page : Page α) (pager : Pager α) (world : World)

/-- The world after a turn. -/
def Turn.world : Turn α → World
  | .answer _ _ w => w
  | .fetch _ _ w => w

/-- Whether only a page can settle a call: the limit is not reached, no item is at hand, and the
traversal has not come to its end. -/
def wantsPage (p : Pager α) : Bool :=
  !p.progress.limitReached && p.buffer.isEmpty && !p.progress.isFinished

/-- A turn in which the call is answered without a page. -/
def settle (p : Pager α) : Except Failure (Option α) × Pager α :=
  if p.progress.limitReached then (.ok none, { p.finish with buffer := [] })
  else match p.buffer with
    | item :: buffer => (.ok (some item), { p with buffer, progress := p.progress.countItem })
    | [] => (.ok none, p)

/-- A turn of the loop of `next`. -/
def turn (p : Pager α) (w : World) : Turn α :=
  if p.wantsPage then
    match p.pull w with
    | (.error failure, w) => .answer (.error failure) p.finish w
    | (.ok body, w) =>
      .fetch (.ofBody p.transform body) (p.withPage (.ofBody p.transform body))
        (w.advance (p.pageEvents (.ofBody p.transform body)) w.script)
  else .answer p.settle.1 p.settle.2 w

/-- **The loop.**  A call of `next` is turns until one answers it. -/
theorem next_eq_turn (p : Pager α) (w : World) : p.next w =
    match p.turn w with
    | .answer result p w => (result, p, w)
    | .fetch _ p w => p.next w := by
  rw [next]
  by_cases hlimit : p.progress.limitReached = true
  · simp [turn, wantsPage, settle, hlimit]
  · cases hbuffer : p.buffer with
    | cons item buffer => simp [turn, wantsPage, settle, hlimit, hbuffer]
    | nil =>
      by_cases hfinished : p.progress.isFinished = true
      · simp [turn, wantsPage, settle, hlimit, hbuffer, hfinished]
      · have hwants : p.wantsPage = true := by simp [wantsPage, hlimit, hbuffer, hfinished]
        rw [turn, if_pos hwants, if_neg hlimit, if_neg hfinished]
        dsimp only
        split
        · next failure w' hfetch =>
          rw [fetch_eq] at hfetch
          split at hfetch
          · next hpull =>
            cases hfetch
            rfl
          · simp at hfetch
        · next p' w' hfetch =>
          rw [fetch_eq] at hfetch
          split at hfetch
          · simp at hfetch
          · next hpull =>
            cases hfetch
            rfl

/-- A page is fetched only if it is wanted, and it is in an answer that is pulled. -/
theorem turn_eq_fetch {p p' : Pager α} {w w' : World} {page : Page α}
    (h : p.turn w = .fetch page p' w') :
    p.wantsPage = true ∧ ∃ body v, p.pull w = (.ok body, v) ∧
      page = .ofBody p.transform body ∧ p' = p.withPage page ∧
      w' = v.advance (p.pageEvents page) v.script := by
  rw [turn] at h
  split at h
  · next hwants =>
    split at h
    · simp at h
    · next body v hpull =>
      cases h
      exact ⟨hwants, body, v, hpull, rfl, rfl, rfl⟩
  · simp at h

/-- A fetched page takes an answer from the script. -/
theorem turn_script_lt {p p' : Pager α} {w w' : World} {page : Page α}
    (h : p.turn w = .fetch page p' w') : w'.script.length < w.script.length := by
  obtain ⟨_, body, v, hpull, _, _, rfl⟩ := turn_eq_fetch h
  rw [World.advance_script]
  exact Client.ask_script_lt hpull

/-- How a turn answers a call, with the pager and the world after it. -/
inductive Answered (p : Pager α) (w : World) :
    Except Failure (Option α) → Pager α → World → Prop where
  | limit (h : p.progress.limitReached = true) :
      Answered p w (.ok none) { p.finish with buffer := [] } w
  | item {item : α} {buffer : List α} (hlimit : p.progress.limitReached = false)
      (h : p.buffer = item :: buffer) :
      Answered p w (.ok (some item)) { p with buffer, progress := p.progress.countItem } w
  | finished (hbuffer : p.buffer = []) (h : p.progress.isFinished = true) :
      Answered p w (.ok none) p w
  | failed {failure : Failure} {w' : World} (hwants : p.wantsPage = true)
      (h : p.pull w = (.error failure, w')) : Answered p w (.error failure) p.finish w'

/-- The answers of a turn. -/
theorem turn_eq_answer {p p' : Pager α} {w w' : World} {result : Except Failure (Option α)}
    (h : p.turn w = .answer result p' w') : Answered p w result p' w' := by
  rw [turn] at h
  split at h
  · next hwants =>
    split at h
    · next hpull =>
      cases h
      exact .failed hwants hpull
    · simp at h
  · next hwants =>
    cases h
    rw [settle]
    split
    · next hlimit => exact .limit hlimit
    · next hlimit =>
      split
      · next hbuffer => exact .item (by simpa using hlimit) hbuffer
      · next hbuffer => exact .finished hbuffer (by simpa [wantsPage, hlimit, hbuffer] using hwants)

/-- Induction along the turns of a call. -/
theorem turns_induction {motive : Pager α → World → Prop}
    (answer : ∀ p w result p' w', p.turn w = .answer result p' w' → motive p w)
    (fetch : ∀ p w page p' w', p.turn w = .fetch page p' w' → motive p' w' → motive p w)
    (p : Pager α) (w : World) : motive p w := by
  match hturn : p.turn w with
  | .answer result p' w' => exact answer p w result p' w' hturn
  | .fetch page p' w' =>
    have := turn_script_lt hturn
    exact fetch p w page p' w' hturn (turns_induction answer fetch p' w')
termination_by w.script.length

/-- A call that wants no page is answered at once, and the world stays as it is. -/
theorem next_of_not_wantsPage {p : Pager α} (h : p.wantsPage = false) (w : World) :
    p.next w = (p.settle.1, p.settle.2, w) := by
  rw [next_eq_turn, turn, if_neg (by simp [h])]

/-- **A pager that has ended stays as it is.** -/
theorem next_of_ended {p : Pager α} (hfinished : p.progress.isFinished = true)
    (hbuffer : p.buffer = []) (w : World) : p.next w = (.ok none, p, w) := by
  have hsettle : p.settle = (.ok none, p) := by
    rw [settle]
    split
    · obtain ⟨client, endpoint, params, transform, ⟨cursor, yielded, pages, limit⟩, buffer⟩ := p
      have hcursor : cursor = .finished := by simpa [Progress.isFinished] using hfinished
      have hempty : buffer = [] := hbuffer
      subst hcursor hempty
      rfl
    · rw [hbuffer]
  rw [next_of_not_wantsPage (by simp [wantsPage, hfinished]) w, hsettle]

/-! ## Calls

`Moment` goes turn by turn, and not call by call, and it takes up whatever world a turn is in.  So
what holds at every moment holds in the middle of a call too, and does not depend on how the network
behaves between two turns. -/

/-- A number of calls: what they gave, and the pager and the world after them. -/
structure Run (α : Type) where
  results : List (Except Failure (Option α))
  pager : Pager α
  world : World

/-- The first `n` calls of `next`. -/
def calls (p : Pager α) (w : World) : Nat → Run α
  | 0 => ⟨[], p, w⟩
  | n + 1 =>
    let run := calls p w n
    let (result, pager, world) := run.pager.next run.world
    ⟨run.results ++ [result], pager, world⟩

/-- One call more, taken in front of the others. -/
theorem calls_eq_cons (p : Pager α) (w : World) (n : Nat) : p.calls w (n + 1) =
    let run := (p.next w).2.1.calls (p.next w).2.2 n
    ⟨(p.next w).1 :: run.results, run.pager, run.world⟩ := by
  induction n with
  | zero => rfl
  | succ n ih =>
    rw [calls, ih]
    rfl

/-- The items among some results. -/
def given (results : List (Except Failure (Option α))) : List α :=
  results.filterMap fun
    | .ok (some item) => some item
    | _ => none

@[simp] theorem given_append (rs rs' : List (Except Failure (Option α))) :
    given (rs ++ rs') = given rs ++ given rs' :=
  List.filterMap_append

/-- Whether a result says that there is nothing more: it is no item, or a failure. -/
def EndsItems (result : Except Failure (Option α)) : Prop :=
  result = .ok none ∨ ∃ failure, result = .error failure

/-- What led to a state between two turns: the pages that were fetched and the results that were
given.  The network and the script may change from turn to turn. -/
inductive Moment (p₀ : Pager α) :
    List (Page α) → List (Except Failure (Option α)) → Pager α → Prop where
  | start : Moment p₀ [] [] p₀
  | fetch {pages results p w page p' w'} (earlier : Moment p₀ pages results p)
      (hturn : p.turn w = .fetch page p' w') : Moment p₀ (pages ++ [page]) results p'
  | answer {pages results p w result p' w'} (earlier : Moment p₀ pages results p)
      (hturn : p.turn w = .answer result p' w') : Moment p₀ pages (results ++ [result]) p'

/-- After a call there is a moment again. -/
theorem Moment.next {p₀ : Pager α} {results : List (Except Failure (Option α))} (p : Pager α)
    (w : World) {pages : List (Page α)} (h : Moment p₀ pages results p) :
    ∃ pages, Moment p₀ pages (results ++ [(p.next w).1]) (p.next w).2.1 := by
  induction p, w using turns_induction generalizing pages with
  | answer p w result p' w' hturn =>
    rw [next_eq_turn, hturn]
    exact ⟨pages, h.answer hturn⟩
  | fetch p w page p' w' hturn ih =>
    rw [next_eq_turn, hturn]
    exact ih (h.fetch hturn)

/-- After any number of calls there is a moment. -/
theorem moment_calls (p : Pager α) (w : World) (n : Nat) :
    ∃ pages, Moment p pages (p.calls w n).results (p.calls w n).pager := by
  induction n with
  | zero => exact ⟨[], .start⟩
  | succ n ih =>
    obtain ⟨pages, h⟩ := ih
    exact h.next _ _

/-- A pager that answers no item, and stays as it is, does so for ever. -/
theorem calls_of_next_self {p : Pager α} {w : World} (h : p.next w = (.ok none, p, w)) (n : Nat) :
    p.calls w n = ⟨List.replicate n (.ok none), p, w⟩ := by
  induction n with
  | zero => rfl
  | succ n ih =>
    rw [calls, ih]
    simp only [h, List.replicate_succ']

/-! ## The invariant

Items wait in the buffer between being fetched and being given, and the invariant says that none is
lost or doubled there.  The one exception is the limit: when it is reached the buffer is thrown
away, and so is the cursor. -/

/-- What a pager holds agrees with the pages that it fetched and the results that it gave. -/
structure Faithful (limit : Option Nat) (pages : List (Page α))
    (results : List (Except Failure (Option α))) (p : Pager α) : Prop where
  limit_eq : p.progress.limit = limit
  pages_eq : p.progress.pages = pages.length
  yielded_eq : p.progress.yielded = (given results).length
  /-- Each item of a fetched page is given or at hand, in order.  Items are dropped only at the
  limit. -/
  order : given results ++ p.buffer = pages.flatMap Page.items ∨
    p.progress.isFinished = true ∧ p.buffer = [] ∧ p.progress.limitReached = true
  quiet : (∃ result ∈ results, EndsItems result) → p.progress.isFinished = true ∧ p.buffer = []

/-- A new pager has fetched nothing and given nothing. -/
theorem faithful_start (c : Client) (endpoint : String) (params : Params) (limit : Option Nat)
    (transform : Json → α) : Faithful limit [] [] (start c endpoint params limit transform) where
  limit_eq := rfl
  pages_eq := rfl
  yielded_eq := rfl
  order := .inl rfl
  quiet := by simp

/-- Nothing that ends the items was given before a page is wanted. -/
theorem Faithful.all_items {limit : Option Nat} {pages : List (Page α)}
    {results : List (Except Failure (Option α))} {p : Pager α} (h : Faithful limit pages results p)
    (hwants : p.wantsPage = true) : ¬ ∃ result ∈ results, EndsItems result := by
  intro hends
  simp [wantsPage, (h.quiet hends).1] at hwants

/-- Where a page is wanted, each item of the pages before is given. -/
theorem Faithful.given_eq {limit : Option Nat} {pages : List (Page α)}
    {results : List (Except Failure (Option α))} {p : Pager α} (h : Faithful limit pages results p)
    (hwants : p.wantsPage = true) : given results = pages.flatMap Page.items := by
  simp only [wantsPage, Bool.and_eq_true, Bool.not_eq_true', List.isEmpty_iff] at hwants
  rcases h.order with horder | ⟨_, _, hlimit⟩
  · rwa [hwants.1.2, List.append_nil] at horder
  · rw [hwants.1.1] at hlimit
    cases hlimit

/-- A fetched page keeps the invariant. -/
theorem Faithful.fetch {limit : Option Nat} {pages : List (Page α)}
    {results : List (Except Failure (Option α))} {p p' : Pager α} {w w' : World} {page : Page α}
    (h : Faithful limit pages results p) (hturn : p.turn w = .fetch page p' w') :
    Faithful limit (pages ++ [page]) results p' := by
  obtain ⟨hwants, _, _, _, _, rfl, _⟩ := turn_eq_fetch hturn
  have hempty : p.buffer = [] := by simp_all [wantsPage]
  exact {
    limit_eq := h.limit_eq
    pages_eq := by simp [withPage, h.pages_eq]
    yielded_eq := h.yielded_eq
    order := .inl (by simp [withPage, hempty, h.given_eq hwants])
    quiet := fun hends => absurd hends (h.all_items hwants) }

/-- An answer keeps the invariant. -/
theorem Faithful.answer {limit : Option Nat} {pages : List (Page α)}
    {results : List (Except Failure (Option α))} {p p' : Pager α} {w w' : World}
    {result : Except Failure (Option α)} (h : Faithful limit pages results p)
    (hanswer : Answered p w result p' w') : Faithful limit pages (results ++ [result]) p' := by
  cases hanswer with
  | limit hlimit =>
    exact {
      limit_eq := h.limit_eq
      pages_eq := h.pages_eq
      yielded_eq := by simpa [finish, Progress.finish, given] using h.yielded_eq
      order := .inr ⟨rfl, rfl, hlimit⟩
      quiet := fun _ => ⟨rfl, rfl⟩ }
  | @item item buffer hlimit hbuffer =>
    have hgiven : given (results ++ [.ok (some item)]) = given results ++ [item] := by simp [given]
    -- The item at hand was given by no result before, so no result before ended the items.
    have hall : ¬ ∃ result ∈ results, EndsItems result := fun hends => by
      simp [(h.quiet hends).2] at hbuffer
    exact {
      limit_eq := h.limit_eq
      pages_eq := h.pages_eq
      yielded_eq := by simp [hgiven, Progress.countItem, h.yielded_eq]
      order := by
        rcases h.order with horder | ⟨_, _, hreached⟩
        · exact .inl (by simpa [hgiven, hbuffer] using horder)
        · simp [hreached] at hlimit
      quiet := by
        rintro ⟨result, hmem, hends⟩
        rcases List.mem_append.1 hmem with hmem | hmem
        · exact absurd ⟨result, hmem, hends⟩ hall
        · simp [List.mem_singleton.1 hmem, EndsItems] at hends }
  | finished hbuffer hfinished =>
    exact {
      limit_eq := h.limit_eq
      pages_eq := h.pages_eq
      yielded_eq := by simpa [given] using h.yielded_eq
      order := by simpa [given] using h.order
      quiet := fun _ => ⟨hfinished, hbuffer⟩ }
  -- A page was wanted, so nothing was at hand that the failure could have thrown away.
  | failed hwants =>
    have hempty : p.buffer = [] := by simp_all [wantsPage]
    exact {
      limit_eq := h.limit_eq
      pages_eq := h.pages_eq
      yielded_eq := by simpa [given, finish, Progress.finish] using h.yielded_eq
      order := .inl (by simp [given, finish, hempty, ← h.given_eq hwants])
      quiet := fun _ => ⟨rfl, hempty⟩ }

/-- The invariant holds at all moments. -/
theorem Moment.faithful {c : Client} {endpoint : String} {params : Params} {limit : Option Nat}
    {transform : Json → α} {pages : List (Page α)} {results : List (Except Failure (Option α))}
    {p : Pager α} (h : Moment (Pager.start c endpoint params limit transform) pages results p) :
    Faithful limit pages results p := by
  induction h with
  | start => exact faithful_start c endpoint params limit transform
  | fetch _ hturn ih => exact ih.fetch hturn
  | answer _ hturn ih => exact ih.answer (turn_eq_answer hturn)

/-- A pager that has reached its limit does nothing. -/
theorem next_of_limitReached {p : Pager α} (h : p.progress.limitReached = true) (w : World) :
    p.next w = (.ok none, { p.finish with buffer := [] }, w) := by
  rw [next, if_pos h]

/-- However often a pager that may give no items is called, the world stays as it is. -/
theorem calls_of_limit_zero {p : Pager α} (h : p.progress.limit = some 0) (w : World) (n : Nat) :
    (p.calls w n).pager.progress.limit = some 0 ∧ (p.calls w n).world = w := by
  induction n with
  | zero => exact ⟨h, rfl⟩
  | succ n ih =>
    have hreached : (p.calls w n).pager.progress.limitReached = true := by
      rw [Progress.limitReached, ih.1]
      exact decide_eq_true (Nat.zero_le _)
    rw [calls]
    simp only [next_of_limitReached hreached]
    exact ih

/-- **Pages on demand, and rest at the end.**  At every moment of a pager, whatever the network does
from turn to turn:
* a turn that touches the world, and likewise a call that does, finds the limit not reached, the
  traversal not at its end, and each item of all fetched pages given;
* after a result that is no item, all calls give none, and the pager and the world stay as they are;
* with a limit of no items the world stays as it is from the start. -/
theorem demand_and_quiescence (c : Client) (endpoint : String) (params : Params)
    (limit : Option Nat) (transform : Json → α) :
    let p₀ := start c endpoint params limit transform
    (∀ w, p₀.calls w 0 = ⟨[], p₀, w⟩) ∧
    (∀ w n, ∃ pages, Moment p₀ pages (p₀.calls w n).results (p₀.calls w n).pager) ∧
    (∀ pages results p, Moment p₀ pages results p → ∀ w,
      ((p.turn w).world ≠ w ∨ (p.next w).2.2 ≠ w →
        p.progress.limitReached = false ∧ p.progress.isFinished = false ∧
        given results = pages.flatMap Page.items ∧ ¬ ∃ result ∈ results, EndsItems result) ∧
      ((∃ result ∈ results, EndsItems result) →
        p.next w = (.ok none, p, w) ∧
        ∀ n, p.calls w n = ⟨List.replicate n (.ok none), p, w⟩)) ∧
    (limit = some 0 → ∀ w n, (p₀.calls w n).world = w) := by
  refine ⟨fun _ => rfl, moment_calls _, fun pages results p h w => ⟨?_, ?_⟩,
    fun hlimit w n => (calls_of_limit_zero (by rw [← hlimit]; rfl) w n).2⟩
  · intro htouch
    have hwants : p.wantsPage = true := by
      cases hwants : p.wantsPage with
      | true => rfl
      | false =>
        rcases htouch with hturn | hnext
        · rw [turn, if_neg (by simp [hwants])] at hturn
          exact absurd rfl hturn
        · rw [next_of_not_wantsPage hwants] at hnext
          exact absurd rfl hnext
    refine ⟨?_, ?_, h.faithful.given_eq hwants, h.faithful.all_items hwants⟩
    all_goals simp_all [wantsPage]
  · intro hends
    obtain ⟨hfinished, hbuffer⟩ := h.faithful.quiet hends
    have hnext := next_of_ended hfinished hbuffer w
    exact ⟨hnext, calls_of_next_self hnext⟩

end Pager

end ThreatGraph
