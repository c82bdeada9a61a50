import ThreatGraph.Proofs.Client.Execution
import ThreatGraph.Proofs.Pager.Turns

/-!
# What a pager gives

The pages of a collection form a course: the first answers the request for the collection, and each
further one the request that follows the link of the page before.  The course is walked without any
regard to items and limits, one request after the other, up to the last page or the first failure.

* `Client.course` is the course from a request on, and `listing` is what is to be given of it: its
  items up to the limit, and its failure if the limit is not reached before.
* `Pager.OnCourse` says how far on a course a pager is, and `Pager.ahead` is what it has still to
  give.  A turn either fetches the next page, which leaves `ahead` as it is, or gives its first
  result (`Pager.OnCourse.fetch`, `Pager.OnCourse.answer`).
* `Pager.calls_follow_course` says that the calls of `next` give the listing of the course and
  nothing ever after, and have the traffic of the fetches that were needed.
-/

set_option autoImplicit false

namespace ThreatGraph

variable {α : Type}

/-! ## Pages in answers

What an answer holds besides its `data` and its `paging` does not matter, and neither does what is
not of the kind that is looked for: `data` that is no array is no items, and a link that is no text,
or an empty one, is none. -/

namespace Page

/-- The items are what stands under `data`, if that is an array. -/
theorem itemsOf_eq_iff {body : Json} {items : List Json} : itemsOf body = items ↔
    body.get? "data" = some (.array items) ∨
      (∀ items', body.get? "data" ≠ some (.array items')) ∧ items = [] := by
  rw [itemsOf]
  cases hdata : body.get? "data" with
  | none => simp [eq_comm]
  | some data =>
    cases data with
    | array items' => simp [Json.asArray?]
    | _ => simp [Json.asArray?, eq_comm]

/-- The link is the text that stands under `paging` and there under `next`, unless it is empty. -/
theorem link?_eq_some_iff {body : Json} {link : String} : link? body = some link ↔
    link ≠ "" ∧ ∃ paging, body.get? "paging" = some paging ∧
      paging.get? "next" = some (.string link) := by
  have htext : ∀ v : Json, v.asString? = some link ↔ v = .string link := by
    intro v
    cases v <;> simp [Json.asString?]
  have hlink : ((body.get? "paging").bind (·.get? "next")).bind Json.asString? = some link ↔
      ∃ paging, body.get? "paging" = some paging ∧ paging.get? "next" = some (.string link) := by
    simp only [Option.bind_eq_some_iff, htext, exists_eq_right]
  rw [← hlink, link?]
  split
  · next text hfound =>
    rw [hfound, Option.some_inj]
    refine ⟨fun h => ?_, fun ⟨hne, heq⟩ => heq ▸ if_neg (heq ▸ hne)⟩
    split at h
    · cases h
    · next hne =>
      cases h
      exact ⟨hne, rfl⟩
  · next hfound => simp [hfound]

end Page

/-! ## Traffic

A pager writes to the log what the course knows nothing of.  So the worlds of the two are not the
same, but they have the same traffic, and nothing that a client does depends on the log. -/

/-- Two worlds in which the same was sent and slept and the same lies ahead.  The logs may
differ. -/
structure World.SameTraffic (w v : World) : Prop extends World.SameAhead w v where
  sent : w.sent = v.sent
  slept : w.slept = v.slept

/-- Runs that are alike keep the traffic the same. -/
theorem World.RunAlike.sameTraffic {β : Type} {w v : World} {a b : β × World}
    (h : RunAlike w v a b) (hwv : SameTraffic w v) : SameTraffic a.2 b.2 := by
  obtain ⟨_, events, script, hw, hv⟩ := h
  rw [hw, hv]
  exact {
    toSameAhead := hwv.toSameAhead.advance events events script
    sent := by rw [sent_advance, sent_advance, hwv.sent]
    slept := by rw [slept_advance, slept_advance, hwv.slept] }

/-- Entries of the log are no traffic. -/
theorem World.SameTraffic.log {w v : World} (h : SameTraffic w v) {events : List Event}
    (hsent : Event.sentIn events = []) (hslept : Event.sleptIn events = []) :
    SameTraffic (w.advance events w.script) v where
  carries := h.carries
  script := h.script
  sent := by rw [sent_advance, hsent, List.append_nil, h.sent]
  slept := by rw [slept_advance, hslept, List.append_nil, h.slept]

/-- What comes of asking depends only on what lies ahead. -/
theorem Client.ask_oblivious (c : Client) (request : Except Failure Request) :
    Call.Oblivious (c.ask request) := by
  intro w v h
  unfold ask
  cases request with
  | error failure => exact .stop h _
  | ok request => exact execute_oblivious c request h

/-! ## The course of a collection

The course is a list of fetches, walked without a buffer and without a limit.  It is what the pager
should follow, so it has only what a reader would say: ask, take the link of the answer, ask for
that, and stop at the first failure, at a page without a link, or where the guard wants no further
page. -/

/-- A fetch of a page: the answer, if there is one, and the world after it. -/
structure Fetch where
  result : Except Failure Json
  world : World

namespace Fetch

/-- The items of the page that was fetched. -/
def items (f : Fetch) : List Json :=
  match f.result with
  | .ok body => Page.itemsOf body
  | .error _ => []

/-- The failure of a fetch. -/
def fault? (f : Fetch) : Option Failure :=
  match f.result with
  | .ok _ => none
  | .error failure => some failure

end Fetch

/-- The world after some fetches. -/
def World.afterAll (w : World) (fetches : List Fetch) : World :=
  (fetches.getLast?.map Fetch.world).getD w

@[simp] theorem World.afterAll_concat (w : World) (fetches : List Fetch) (f : Fetch) :
    w.afterAll (fetches ++ [f]) = f.world := by
  simp [afterAll]

/-- The fetches from a request on, where `count` pages were fetched before.  Each sends its request
as `Client.execute` does.  They end with a failure, with a page without a link, and with the
greatest number of pages. -/
def Client.course (c : Client) (request : Except Failure Request) (count : Nat) (w : World) :
    List Fetch :=
  match _h : c.ask request w with
  | (.error failure, w') => [⟨.error failure, w'⟩]
  | (.ok body, w') =>
    ⟨.ok body, w'⟩ ::
      match Page.link? body with
      | some link =>
        if c.config.maxPages.all (count + 1 < ·) then
          course c (Continuation.request link) (count + 1) w'
        else []
      | none => []
termination_by w.script.length
decreasing_by exact ask_script_lt _h

/-- What is to be given of some items and a failure after them.  The failure is given only if the
limit is not reached before. -/
def listing (limit : Option Nat) (items : List α) (fault : Option Failure) :
    List (Except Failure (Option α)) :=
  match limit with
  | some n =>
    (items.take n).map (fun item => .ok (some item))
      ++ if items.length < n then fault.toList.map .error else []
  | none => items.map (fun item => .ok (some item)) ++ fault.toList.map .error

@[simp] theorem listing_zero (items : List α) (fault : Option Failure) :
    listing (some 0) items fault = [] := by
  simp [listing]

/-- Without items the failure is what is left to give, unless the limit allows nothing. -/
theorem listing_nil {limit : Option Nat} (h : limit ≠ some 0) (fault : Option Failure) :
    listing limit ([] : List α) fault = fault.toList.map .error := by
  cases limit with
  | none => rfl
  | some n =>
    have hpos : 0 < n := Nat.pos_of_ne_zero fun hn => h (by rw [hn])
    simp [listing, hpos]

@[simp] theorem listing_empty (limit : Option Nat) : listing limit ([] : List α) none = [] := by
  cases limit <;> simp [listing]

/-- The first item is given first, and takes one of the limit. -/
theorem listing_cons {limit : Option Nat} (h : limit ≠ some 0) (item : α) (items : List α)
    (fault : Option Failure) :
    listing limit (item :: items) fault =
      .ok (some item) :: listing (limit.map (· - 1)) items fault := by
  cases limit with
  | none => rfl
  | some n =>
    cases n with
    | zero => exact absurd rfl h
    | succ n => simp [listing]

/-- The end of a list that begins with an element, and the part in front of it. -/
theorem of_drop_eq_cons {β : Type} {l rest : List β} {m : Nat} {a : β}
    (h : l.drop m = a :: rest) :
    m < l.length ∧ l.take (m + 1) = l.take m ++ [a] ∧ l.drop (m + 1) = rest := by
  have hlt : m < l.length := by
    apply Nat.lt_of_not_le
    intro hle
    rw [List.drop_eq_nil_of_le hle] at h
    cases h
  rw [List.drop_eq_getElem_cons hlt] at h
  injection h with ha hrest
  exact ⟨hlt, by rw [← List.take_append_getElem hlt, ha], hrest⟩

namespace Pager

/-! ## A pager on a course

The pager and the course are related by how many fetches the pager has made.  The invariant leaves
the items at hand aside, and says that what the pager would do next is the rest of the course; what
it has still to give is computed from that rest, its buffer and its limit.  So a fetch moves items
from the rest into the buffer and leaves what is ahead as it is, and an answer takes one result
away. -/

/-- How far on a course, which began in `w₀`, a pager is: it has made the first `m` fetches, and
unless it has ended it is about to make the others. -/
structure OnCourse (w₀ : World) (fetches : List Fetch) (m : Nat) (p : Pager α) (w : World) :
    Prop where
  bound : m ≤ fetches.length
  traffic : w.SameTraffic (w₀.afterAll (fetches.take m))
  pages : p.progress.pages = (fetches.take m).countP (·.fault?.isNone)
  rest : p.progress.isFinished = false →
    p.client.course p.nextRequest p.progress.pages (w₀.afterAll (fetches.take m)) = fetches.drop m

/-- The fetches that a pager has still to make after the first `m`. -/
def pending (fetches : List Fetch) (m : Nat) (p : Pager α) : List Fetch :=
  if p.progress.isFinished then [] else fetches.drop m

/-- The number of items that a pager may still give. -/
def remaining (p : Pager α) : Option Nat := p.progress.limit.map (· - p.progress.yielded)

/-- What a pager has still to give after the first `m` fetches. -/
def ahead (fetches : List Fetch) (m : Nat) (p : Pager α) : List (Except Failure (Option α)) :=
  listing p.remaining
    (p.buffer ++ ((p.pending fetches m).flatMap Fetch.items).map p.transform)
    ((p.pending fetches m).findSome? Fetch.fault?)

/-- A pager that has ended has nothing to give. -/
theorem ahead_of_ended {p : Pager α} (hfinished : p.progress.isFinished = true)
    (hbuffer : p.buffer = []) (fetches : List Fetch) (m : Nat) : ahead fetches m p = [] := by
  rw [ahead, pending, hbuffer, if_pos hfinished]
  exact listing_empty p.remaining

/-- The limit is reached if no items remain. -/
theorem limitReached_iff (p : Pager α) : p.progress.limitReached = true ↔ p.remaining = some 0 := by
  rw [Progress.limitReached, remaining]
  cases p.progress.limit with
  | none => simp
  | some n => simp [Nat.sub_eq_zero_iff_le]

/-- Before the limit is reached some items remain. -/
theorem remaining_ne {p : Pager α} (h : p.progress.limitReached = false) : p.remaining ≠ some 0 :=
  fun hr => by simp [(limitReached_iff p).2 hr] at h

/-- A page is the last one where the course does not go on. -/
theorem isLastPage_eq (p : Pager α) :
    p.isLastPage = !p.client.config.maxPages.all (p.progress.pages + 1 < ·) := by
  rw [isLastPage]
  cases p.client.config.maxPages with
  | none => rfl
  | some n =>
    rw [Option.any_some, Option.all_some, ← decide_not]
    exact decide_eq_decide.2 Nat.not_lt.symm

/-- The course from a page that can be fetched: it goes on from the pager with the page taken in. -/
theorem course_of_page {p p' : Pager α} {w v : World} {body : Json} (h : p.pull w = (.ok body, v))
    (hp : p' = p.withPage (.ofBody p.transform body)) :
    p.client.course p.nextRequest p.progress.pages w = ⟨.ok body, v⟩ ::
      if p'.progress.isFinished then []
      else p'.client.course p'.nextRequest p'.progress.pages v := by
  rw [Client.course, show p.client.ask p.nextRequest w = (.ok body, v) from h]
  subst hp
  cases hlink : Page.link? body with
  | none => simp [withPage, Page.ofBody, cursorAfter, hlink, Progress.isFinished]
  | some link =>
    by_cases hmore : p.client.config.maxPages.all (p.progress.pages + 1 < ·) = true
    · simp [withPage, Page.ofBody, cursorAfter, isLastPage_eq, nextRequest, hlink, hmore,
        Progress.isFinished]
    · simp [withPage, Page.ofBody, cursorAfter, isLastPage_eq, hlink, hmore, Progress.isFinished]

/-- The course from a page that cannot be fetched ends there. -/
theorem course_of_failure {p : Pager α} {w v : World} {failure : Failure}
    (h : p.pull w = (.error failure, v)) :
    p.client.course p.nextRequest p.progress.pages w = [⟨.error failure, v⟩] := by
  rw [Client.course, show p.client.ask p.nextRequest w = (.error failure, v) from h]

/-- The log of a page that is taken in holds no traffic. -/
theorem traffic_pageEvents (p : Pager α) (page : Page α) :
    Event.sentIn (p.pageEvents page) = [] ∧ Event.sleptIn (p.pageEvents page) = [] := by
  rw [pageEvents, guardEvents]
  split
  · split <;> exact ⟨rfl, rfl⟩
  · exact ⟨rfl, rfl⟩

/-- What is pulled is the same with the world of the course, and so is the traffic after it. -/
theorem OnCourse.pull {w₀ : World} {fetches : List Fetch} {m : Nat} {p : Pager α} {w v : World}
    {result : Except Failure Json} (h : OnCourse w₀ fetches m p w)
    (hpull : p.pull w = (result, v)) :
    ∃ v', p.pull (w₀.afterAll (fetches.take m)) = (result, v') ∧ v.SameTraffic v' := by
  have halike := Client.ask_oblivious p.client p.nextRequest h.traffic.toSameAhead
  rw [show p.client.ask p.nextRequest w = (result, v) from hpull] at halike
  exact ⟨(p.pull (w₀.afterAll (fetches.take m))).2, Prod.ext_iff.2 ⟨halike.1.symm, rfl⟩,
    halike.sameTraffic h.traffic⟩

/-- A page that is fetched is the next one of the course. -/
theorem OnCourse.fetch {w₀ : World} {fetches : List Fetch} {m : Nat} {p p' : Pager α}
    {w w' : World} {page : Page α} (h : OnCourse w₀ fetches m p w)
    (hturn : p.turn w = .fetch page p' w') :
    OnCourse w₀ fetches (m + 1) p' w' ∧ ahead fetches (m + 1) p' = ahead fetches m p := by
  obtain ⟨hwants, body, v, hpull, rfl, hp', rfl⟩ := turn_eq_fetch hturn
  simp only [wantsPage, Bool.and_eq_true, Bool.not_eq_true', List.isEmpty_iff] at hwants
  obtain ⟨⟨_, hbuffer⟩, hfinished⟩ := hwants
  obtain ⟨v', hpull', htraffic⟩ := h.pull hpull
  have hcourse := h.rest hfinished
  rw [course_of_page hpull' hp'] at hcourse
  obtain ⟨hlt, htake, hdrop⟩ := of_drop_eq_cons hcourse.symm
  constructor
  -- The traffic is that of the course with one fetch more, and the rest is what the page leads to.
  · exact {
      bound := hlt
      traffic := by
        rw [htake, World.afterAll_concat]
        have hlog := traffic_pageEvents p (.ofBody p.transform body)
        exact htraffic.log hlog.1 hlog.2
      pages := by
        rw [htake, List.countP_append, ← h.pages, hp']
        rfl
      rest := fun hmore => by
        rw [htake, World.afterAll_concat, hdrop, if_neg (by simp [hmore])] }
  -- The items of the page were ahead as part of the rest, and are ahead now at the end of the
  -- buffer.
  · have hpending : p'.pending fetches (m + 1) = fetches.drop (m + 1) := by
      rw [pending, hdrop]
      split <;> rfl
    have hbefore : p.pending fetches m = ⟨.ok body, v'⟩ :: fetches.drop (m + 1) := by
      rw [pending, hdrop, if_neg (by simp [hfinished]), hcourse]
    unfold ahead
    rw [hpending, hbefore, List.findSome?_cons, List.flatMap_cons, hp']
    simp [withPage, remaining, hbuffer, Page.ofBody, Fetch.items, Fetch.fault?]

/-- An answer is the first of what is ahead, or nothing is ahead. -/
theorem OnCourse.answer {w₀ : World} {fetches : List Fetch} {m : Nat} {p p' : Pager α}
    {w w' : World} {result : Except Failure (Option α)} (h : OnCourse w₀ fetches m p w)
    (hanswer : Answered p w result p' w') :
    ∃ m', OnCourse w₀ fetches m' p' w' ∧
      (ahead fetches m p = result :: ahead fetches m' p' ∨
        ahead fetches m p = [] ∧ result = .ok none ∧ ahead fetches m' p' = []) := by
  cases hanswer with
  | limit hlimit =>
    have hremaining := (limitReached_iff p).1 hlimit
    refine ⟨m, ⟨h.bound, h.traffic, h.pages, fun hgoes => by cases hgoes⟩, .inr ⟨?_, rfl, ?_⟩⟩
    · rw [ahead, hremaining, listing_zero]
    · rw [ahead, show remaining { p.finish with buffer := [] } = some 0 from hremaining,
        listing_zero]
  | @item item buffer hlimit hbuffer =>
    refine ⟨m, ⟨h.bound, h.traffic, h.pages, h.rest⟩, .inl ?_⟩
    rw [ahead, hbuffer, List.cons_append, listing_cons (remaining_ne hlimit)]
    have hremaining : p.remaining.map (· - 1) =
        remaining { p with buffer, progress := p.progress.countItem } := by
      simp [remaining, Progress.countItem, Function.comp_def, Nat.sub_sub]
    rw [hremaining]
    rfl
  | finished hbuffer hfinished =>
    have hnone := ahead_of_ended hfinished hbuffer fetches m
    exact ⟨m, h, .inr ⟨hnone, rfl, hnone⟩⟩
  | @failed failure w' hwants hpull =>
    simp only [wantsPage, Bool.and_eq_true, Bool.not_eq_true', List.isEmpty_iff] at hwants
    obtain ⟨⟨hlimit, hbuffer⟩, hfinished⟩ := hwants
    obtain ⟨v', hpull', htraffic⟩ := h.pull hpull
    have hcourse := h.rest hfinished
    rw [course_of_failure hpull'] at hcourse
    obtain ⟨hlt, htake, hdrop⟩ := of_drop_eq_cons hcourse.symm
    refine ⟨m + 1, {
      bound := hlt
      traffic := by rwa [htake, World.afterAll_concat]
      pages := by
        rw [htake, List.countP_append, ← h.pages]
        rfl
      rest := fun hmore => by cases hmore }, .inl ?_⟩
    rw [ahead_of_ended (show p.finish.progress.isFinished = true from rfl) hbuffer]
    rw [ahead, pending, if_neg (by simp [hfinished]), ← hcourse, hbuffer]
    exact listing_nil (remaining_ne hlimit) (some failure)

/-- A call gives the first of what is ahead, or nothing where nothing is ahead. -/
theorem OnCourse.next {w₀ : World} {fetches : List Fetch} (p : Pager α) (w : World) {m : Nat}
    (h : OnCourse w₀ fetches m p w) :
    ∃ m', OnCourse w₀ fetches m' (p.next w).2.1 (p.next w).2.2 ∧
      (ahead fetches m p = (p.next w).1 :: ahead fetches m' (p.next w).2.1 ∨
        ahead fetches m p = [] ∧ (p.next w).1 = .ok none ∧
          ahead fetches m' (p.next w).2.1 = []) := by
  induction p, w using turns_induction generalizing m with
  | answer p w result p' w' hturn =>
    rw [next_eq_turn, hturn]
    exact h.answer (turn_eq_answer hturn)
  | fetch p w page p' w' hturn ih =>
    obtain ⟨hnext, hahead⟩ := h.fetch hturn
    rw [next_eq_turn, hturn, ← hahead]
    exact ih hnext

/-- After `n` calls the first `n` results of what was ahead are given, and the others are ahead. -/
theorem OnCourse.calls {w₀ : World} {fetches : List Fetch} {m : Nat} {p : Pager α} {w : World}
    (h : OnCourse w₀ fetches m p w) (n : Nat) :
    ∃ m', OnCourse w₀ fetches m' (p.calls w n).pager (p.calls w n).world ∧
      ahead fetches m' (p.calls w n).pager = (ahead fetches m p).drop n ∧
      (p.calls w n).results = (ahead fetches m p).take n
        ++ List.replicate (n - (ahead fetches m p).length) (.ok none) := by
  induction n with
  | zero => exact ⟨m, h, rfl, by simp [Pager.calls]⟩
  | succ n ih =>
    obtain ⟨k, hk, hahead, hresults⟩ := ih
    obtain ⟨k', hk', hnext⟩ := hk.next
    refine ⟨k', hk', ?_⟩
    rw [hahead] at hnext
    simp only [Pager.calls, hresults]
    rcases hnext with hcons | ⟨hnil, hnone, hahead'⟩
    · obtain ⟨hlt, htake, hdrop⟩ := of_drop_eq_cons hcons
      rw [hdrop, htake, Nat.sub_eq_zero_of_le (Nat.le_of_lt hlt), Nat.sub_eq_zero_of_le hlt]
      simp
    · have hle : (ahead fetches m p).length ≤ n := List.drop_eq_nil_iff.1 hnil
      rw [hnone, hahead', List.drop_eq_nil_of_le (Nat.le_succ_of_le hle),
        List.take_of_length_le hle, List.take_of_length_le (Nat.le_succ_of_le hle),
        Nat.succ_sub hle, List.replicate_succ', List.append_assoc]
      exact ⟨rfl, rfl⟩

/-- The request for the first page of a collection. -/
def firstRequest (c : Client) (endpoint : String) (params : Params) : Request :=
  { method := .get, endpoint, query := sized c params }

/-- A new pager is at the beginning of its course. -/
theorem onCourse_start (c : Client) (endpoint : String) (params : Params) (limit : Option Nat)
    (transform : Json → α) (w : World) :
    OnCourse w (c.course (.ok (firstRequest c endpoint params)) 0 w) 0
      (start c endpoint params limit transform) w where
  bound := Nat.zero_le _
  traffic := ⟨.refl w, rfl, rfl⟩
  pages := rfl
  rest := fun _ => rfl

/-- **What the calls of a pager give.**  For every client, endpoint, limit and script, `n` calls
give the first `n` results of the listing of the course, and no item after its end.  The pager
counts the items that it gave, and it has made the first `m` fetches of the course and no others:
the requests and the waits are theirs, and the pages that it counts are those among them that
succeeded. -/
theorem calls_follow_course (c : Client) (endpoint : String) (params : Params)
    (limit : Option Nat) (transform : Json → α) (w : World) (n : Nat) :
    let fetches := c.course (.ok (firstRequest c endpoint params)) 0 w
    let results := listing limit ((fetches.flatMap Fetch.items).map transform)
      (fetches.findSome? Fetch.fault?)
    let run := (start c endpoint params limit transform).calls w n
    run.results = results.take n ++ List.replicate (n - results.length) (.ok none) ∧
    run.pager.progress.yielded = (given run.results).length ∧
    ∃ m ≤ fetches.length,
      run.world.SameTraffic (w.afterAll (fetches.take m)) ∧
      run.pager.progress.pages = (fetches.take m).countP (·.fault?.isNone) := by
  intro fetches results run
  have hstart := onCourse_start c endpoint params limit transform w
  have hahead : ahead fetches 0 (start c endpoint params limit transform) = results := by
    cases limit <;> rfl
  obtain ⟨m, hm, _, hresults⟩ := hstart.calls n
  obtain ⟨pages, hmoment⟩ := moment_calls (start c endpoint params limit transform) w n
  refine ⟨?_, hmoment.faithful.yielded_eq, m, hm.bound, hm.traffic, hm.pages⟩
  rw [← hahead]
  exact hresults

end Pager

end ThreatGraph
