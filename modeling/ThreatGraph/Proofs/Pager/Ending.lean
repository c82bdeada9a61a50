import ThreatGraph.Proofs.Client.Outlay
import ThreatGraph.Proofs.Pager.Truncation

/-!
# A guard on the number of pages ends a traversal

The limit on items does not bound a traversal: pages may be empty, and each may link to itself.  The
guard on pages does.  Each page that is asked for, whether it comes or not, leaves fewer to be asked
for (`Pager.pagesLeft`), and costs no more requests than one execution.

* `Pager.Outlay` says what a part of a traversal may cost.  It adds up along the turns of a call
  (`Pager.next_runsTo`), along calls (`Pager.calls_runsTo`) and along all items
  (`Pager.drain_runsTo`).
* `Pager.guard_ends_traversal` draws the conclusion for services that answer for ever.
-/

set_option autoImplicit false

namespace ThreatGraph

open World (RunsTo EndsWithin)

variable {α : Type}

theorem Client.ask_costs (c : Client) (request : Except Failure Request) :
    Client.Costs (c.retryPolicy.budget + 1) (c.ask request) := by
  cases request with
  | error failure => exact Client.costs_fail failure _
  | ok r =>
    rw [c.ask_ok r]
    exact c.execute_costs r

namespace Pager

/-! ## What is left

The measure of a traversal is the number of pages that may still be asked for.  It never is zero
before the end, also with a greatest number of zero: the guard is asked only after a page was
fetched. -/

/-- The number of pages that may still be asked for, where `m` is the greatest number of pages.  A
first page is always asked for. -/
def pagesLeft (m : Nat) (p : Pager α) : Nat :=
  if p.progress.isFinished then 0 else max (m - p.progress.pages) 1

/-- The greatest number of requests for a page. -/
def fee (p : Pager α) : Nat := p.client.retryPolicy.budget + 1

/-- A page can be wanted only if one is left. -/
theorem pagesLeft_of_wantsPage {p : Pager α} (h : p.wantsPage = true) (m : Nat) :
    1 ≤ p.pagesLeft m := by
  have hfinished : p.progress.isFinished = false := by simp_all [wantsPage]
  rw [pagesLeft, hfinished]
  exact Nat.le_max_right _ _

/-- A page that is taken in leaves fewer. -/
theorem pagesLeft_withPage {p : Pager α} {m : Nat} (hguard : p.client.config.maxPages = some m)
    (hwants : p.wantsPage = true) (page : Page α) :
    (p.withPage page).pagesLeft m + 1 ≤ p.pagesLeft m := by
  have hleft := pagesLeft_of_wantsPage hwants m
  have hfinished : p.progress.isFinished = false := by simp_all [wantsPage]
  -- Either this page ends the traversal, and nothing is left after it, or at least one page is left
  -- besides it.
  by_cases hmore : m ≤ p.progress.pages + 1 ∨ page.next = none
  · have hend : (p.withPage page).progress.isFinished = true := by
      rcases hmore with hmore | hmore <;> cases hnext : page.next <;>
        simp_all [withPage, cursorAfter, isLastPage, Progress.isFinished]
    rw [pagesLeft, if_pos hend]
    exact hleft
  · have hpages : (p.withPage page).progress.pages = p.progress.pages + 1 := rfl
    rw [pagesLeft, pagesLeft, hpages, hfinished]
    split <;> simp only [Bool.false_eq_true, if_false] <;> omega

/-! ## What a part of a traversal costs

The requests for one page are those of an execution, which are bounded already.  So each page has a
fee, and the account of a part of a traversal says that what it sent and the fees of what is left
after it are covered by the fees of what was left before.  Accounts in this form add up. -/

/-- What a part of a traversal, from one pager to another, may cost: each page that was asked for
takes its fee from what is left.  All that is noted is noted by the client or the pager. -/
structure Outlay (p p' : Pager α) (events : List Event) : Prop where
  client_eq : p'.client = p.client
  sends : ∀ m, p.client.config.maxPages = some m →
    (Event.sentIn events).length + p'.pagesLeft m * p.fee ≤ p.pagesLeft m * p.fee
  notes : ∀ note ∈ Event.notedIn events, note.origin = .client ∨ note.origin = .pager

namespace Outlay

variable {p p' p'' : Pager α} {events events' : List Event}

/-- What leaves the pages as they are, or stops, costs nothing. -/
theorem free (hclient : p'.client = p.client) (hleft : ∀ m, p'.pagesLeft m ≤ p.pagesLeft m) :
    Outlay p p' [] where
  client_eq := hclient
  sends := fun m _ => by
    rw [show Event.sentIn [] = [] from rfl, List.length_nil, Nat.zero_add]
    exact Nat.mul_le_mul_right _ (hleft m)
  notes := by simp [Event.notedIn]

theorem trans (h : Outlay p p' events) (h' : Outlay p' p'' events') :
    Outlay p p'' (events ++ events') where
  client_eq := h'.client_eq.trans h.client_eq
  sends := fun m hguard => by
    have hfirst := h.sends m hguard
    have hrest := h'.sends m (by rw [h.client_eq, hguard])
    have hfee : p'.fee = p.fee := by rw [fee, fee, h.client_eq]
    rw [hfee] at hrest
    rw [Event.sentIn_append, List.length_append]
    omega
  notes := fun note hmem => by
    rw [Event.notedIn_append] at hmem
    exact (List.mem_append.1 hmem).elim (h.notes note) (h'.notes note)

/-- A page that was asked for takes its fee. -/
theorem asked (h : Client.Outlay p.fee events) (hclient : p'.client = p.client)
    (hleft : ∀ m, p.client.config.maxPages = some m → p'.pagesLeft m + 1 ≤ p.pagesLeft m) :
    Outlay p p' events where
  client_eq := hclient
  sends := fun m hguard => by
    have hmul := Nat.mul_le_mul_right p.fee (hleft m hguard)
    rw [Nat.add_mul, Nat.one_mul] at hmul
    have hsends := h.sends
    omega
  notes := fun note hmem => .inl (h.notes note hmem)

/-- Entries of the pager in the log cost nothing. -/
theorem noted (h : Outlay p p' events) {notes : List Event} (hsent : Event.sentIn notes = [])
    (hnotes : ∀ note ∈ Event.notedIn notes, note.origin = .pager) :
    Outlay p p' (events ++ notes) where
  client_eq := h.client_eq
  sends := by
    rw [Event.sentIn_append, hsent, List.append_nil]
    exact h.sends
  notes := fun note hmem => by
    rw [Event.notedIn_append] at hmem
    exact (List.mem_append.1 hmem).elim (h.notes note) fun hmem => .inr (hnotes note hmem)

end Outlay

/-- The log of a page that is taken in is written by the pager. -/
theorem origin_pageEvents (p : Pager α) (page : Page α) :
    ∀ note ∈ Event.notedIn (p.pageEvents page), note.origin = .pager := by
  rw [pageEvents, guardEvents]
  split
  · split <;> simp [Event.notedIn]
  · simp [Event.notedIn]

/-! ## Calls

What a call does is determined by the answers that it takes, and it takes only finitely many.  So it
would do the same in every script that begins with these, and it is no matter how much longer the
script is.  `World.RunsTo` says this of a run, and a call, some calls and collecting are put
together from the runs of which they consist. -/

/-- A call of `next` as a run: what it gives and the pager that it leaves. -/
def nextRun (p : Pager α) : World → (Except Failure (Option α) × Pager α) × World := fun w =>
  (((p.next w).1, (p.next w).2.1), (p.next w).2.2)

/-- What a call of `next` makes of the answer for a page: it fails, or goes on with the page. -/
def afterPull (p : Pager α) :
    Except Failure Json → World → (Except Failure (Option α) × Pager α) × World
  | .error failure, w => ((.error failure, p.finish), w)
  | .ok body, w => (p.withPage (.ofBody p.transform body)).nextRun
      (w.advance (p.pageEvents (.ofBody p.transform body)) w.script)

/-- A call that wants a page pulls an answer first. -/
theorem nextRun_of_wantsPage {p : Pager α} (h : p.wantsPage = true) (w : World) :
    p.nextRun w = p.afterPull (p.pull w).1 (p.pull w).2 := by
  rw [nextRun, next_eq_turn, turn, if_pos h]
  cases p.pull w with
  | mk result v => cases result <;> rfl

/-- **A call of `next`.**  What it gives is determined by what it sends, and it costs no more than
the pages that it asks for. -/
theorem next_runsTo (p : Pager α) (w : World) : ∃ result p' events,
    RunsTo p.nextRun w (result, p') events ∧ Outlay p p' events := by
  by_cases hwants : p.wantsPage = true
  · obtain ⟨pulled, events, hpull, houtlay⟩ := p.client.ask_costs p.nextRequest w
    cases pulled with
    | error failure =>
      refine ⟨.error failure, p.finish, events ++ [],
        (hpull.bind (g := p.afterPull) (.stop _ _)).congr (nextRun_of_wantsPage hwants), ?_⟩
      rw [List.append_nil]
      exact .asked houtlay rfl fun m _ => pagesLeft_of_wantsPage hwants m
    | ok body =>
      -- The page takes an answer from the script, so the call that goes on with it has less ahead.
      have hlt := @Client.ask_script_lt p.client p.nextRequest w _ body hpull.eq
      obtain ⟨result, p', events', hrest, houtlay'⟩ := next_runsTo
        (p.withPage (.ofBody p.transform body))
        ((w.advance events (w.script.drop (Event.sentIn events).length)).advance
          (p.pageEvents (.ofBody p.transform body)) (w.script.drop (Event.sentIn events).length))
      have hpage := hrest.after (traffic_pageEvents p (.ofBody p.transform body)).1
      refine ⟨result, p', events ++ (p.pageEvents (.ofBody p.transform body) ++ events'),
        (hpull.bind (g := p.afterPull) hpage).congr (nextRun_of_wantsPage hwants), ?_⟩
      rw [← List.append_assoc]
      refine Outlay.trans (Outlay.noted ?_ (traffic_pageEvents p _).1 (origin_pageEvents p _))
        houtlay'
      exact .asked houtlay rfl fun m hguard => pagesLeft_withPage hguard hwants _
  · have hsettle := next_of_not_wantsPage (Bool.not_eq_true _ ▸ hwants)
    refine ⟨p.settle.1, p.settle.2, [], (RunsTo.stop w _).congr fun v => ?_, ?_⟩
    · rw [nextRun, hsettle]
    · rw [settle]
      split
      · exact .free rfl fun m => Nat.zero_le _
      · split <;> exact .free rfl fun m => Nat.le_refl _
termination_by w.script.length
decreasing_by simpa using hlt

/-- A number of calls as a run. -/
def callsRun (p : Pager α) (n : Nat) :
    World → (List (Except Failure (Option α)) × Pager α) × World := fun w =>
  (((p.calls w n).results, (p.calls w n).pager), (p.calls w n).world)

/-- Calls are determined by what they send, and cost no more than the pages that they ask for. -/
theorem calls_runsTo (p : Pager α) (w : World) (n : Nat) : ∃ results p' events,
    RunsTo (p.callsRun n) w (results, p') events ∧ Outlay p p' events := by
  induction n with
  | zero => exact ⟨[], p, [], (RunsTo.stop w ([], p)).congr fun v => rfl,
      .free rfl fun m => Nat.le_refl _⟩
  | succ n ih =>
    obtain ⟨results, p', events, hrun, houtlay⟩ := ih
    obtain ⟨result, p'', events', hnext, houtlay'⟩ :=
      p'.next_runsTo (w.advance events (w.script.drop (Event.sentIn events).length))
    exact ⟨results ++ [result], p'', events ++ events', (hrun.bind
      (g := fun x v => ((x.1 ++ [(x.2.nextRun v).1.1], (x.2.nextRun v).1.2), (x.2.nextRun v).2))
      (hnext.map fun x => (results ++ [x.1], x.2))).congr fun v => rfl, houtlay.trans houtlay'⟩

/-- All items as a run. -/
def drainRun (p : Pager α) : World → (List α × Option Failure × Pager α) × World := fun w =>
  (((p.drain w).1, (p.drain w).2.1, (p.drain w).2.2.1), (p.drain w).2.2.2)

/-- What draining a pager makes of a result of `next`. -/
def afterNext :
    Except Failure (Option α) × Pager α → World → (List α × Option Failure × Pager α) × World
  | (.ok (some item), p), w => ((item :: (p.drainRun w).1.1, (p.drainRun w).1.2), (p.drainRun w).2)
  | (.ok none, p), w => (([], none, p), w)
  | (.error failure, p), w => (([], some failure, p), w)

/-- All items are the next one and all after it, as runs. -/
theorem drainRun_eq (p : Pager α) (w : World) :
    p.drainRun w = afterNext (p.nextRun w).1 (p.nextRun w).2 := by
  rw [drainRun, drain_eq, nextRun]
  match p.next w with
  | (.ok (some item), p', w') => rfl
  | (.ok none, p', w') => rfl
  | (.error failure, p', w') => rfl

/-- Two accounts of a call give the same, in the same world. -/
theorem eq_of_nextRun {p q : Pager α} {w w' : World} {given : Except Failure (Option α) × Pager α}
    {events : List Event} {result : Except Failure (Option α)}
    (hrun : RunsTo p.nextRun w given events) (hnext : p.next w = (result, q, w')) :
    given = (result, q) ∧ w' = w.advance events (w.script.drop (Event.sentIn events).length) := by
  have heq := hrun.eq
  rw [nextRun, hnext, Prod.mk.injEq] at heq
  exact ⟨heq.1.symm, heq.2⟩

/-- Draining a pager is determined by what it sends, and costs no more than the pages that it asks
for. -/
theorem drain_runsTo (p : Pager α) (w : World) : ∃ items fault p' events,
    RunsTo p.drainRun w (items, fault, p') events ∧ Outlay p p' events := by
  obtain ⟨result, p', events, hrun, houtlay⟩ := p.next_runsTo w
  induction p, w using items_induction generalizing result p' events with
  | item p w item q w' hnext ih =>
    obtain ⟨hgiven, rfl⟩ := eq_of_nextRun hrun hnext
    cases hgiven
    obtain ⟨result', p'', events', hrun', houtlay'⟩ := q.next_runsTo _
    obtain ⟨items, fault, q', events'', hrest, houtlay''⟩ := ih _ _ _ hrun' houtlay'
    exact ⟨item :: items, fault, q', events ++ events'',
      (hrun.bind (g := afterNext) (hrest.map fun x => (item :: x.1, x.2))).congr p.drainRun_eq,
      houtlay.trans houtlay''⟩
  | ended p w q w' hnext =>
    obtain ⟨hgiven, rfl⟩ := eq_of_nextRun hrun hnext
    cases hgiven
    refine ⟨[], none, q, events ++ [],
      (hrun.bind (g := afterNext) (.stop _ _)).congr p.drainRun_eq, ?_⟩
    rwa [List.append_nil]
  | failed p w failure q w' hnext =>
    obtain ⟨hgiven, rfl⟩ := eq_of_nextRun hrun hnext
    cases hgiven
    refine ⟨[], some failure, q, events ++ [],
      (hrun.bind (g := afterNext) (.stop _ _)).congr p.drainRun_eq, ?_⟩
    rwa [List.append_nil]

/-- Collecting all items is determined by what it sends, as draining the pager is. -/
theorem collect_runsTo (p : Pager α) (w : World) : ∃ result p' events,
    RunsTo p.collect w result events ∧ Outlay p p' events := by
  obtain ⟨items, fault, p', events, hrun, houtlay⟩ := p.drain_runsTo w
  refine ⟨fault.elim (.ok items) .error, p', events, (hrun.map
    fun x => x.2.1.elim (Except.ok x.1) Except.error).congr fun v => ?_, houtlay⟩
  rw [collect_eq, drainRun]

/-! ## The end of a traversal

A service that answers for ever is a function from numbers to outcomes.  A run comes to its end with
such a service if a finite beginning of it is enough, which an account gives. -/

/-- Under a guard a run comes to its end, whatever part of a traversal it is. -/
theorem endsWithin_of_outlay {β : Type} {m : Nat} {p : Pager α}
    (hguard : p.client.config.maxPages = some m) {most : Nat} (hmost : p.pagesLeft m * p.fee ≤ most)
    {run : World → β × World}
    (h : ∀ w, ∃ x p' events, RunsTo run w x events ∧ Outlay p p' events) :
    EndsWithin most run := by
  refine .of_runsTo fun w => ?_
  obtain ⟨x, p', events, hrun, houtlay⟩ := h w
  have hsends := houtlay.sends m hguard
  exact ⟨x, events, hrun, by omega⟩

/-- What led to a moment leaves the client as it is, and took the pages that were fetched from
those that were left. -/
theorem Moment.pagesLeft {p₀ p : Pager α} {pages : List (Page α)}
    {results : List (Except Failure (Option α))} (h : Moment p₀ pages results p) {m : Nat}
    (hguard : p₀.client.config.maxPages = some m) :
    p.client = p₀.client ∧ p.pagesLeft m + pages.length ≤ p₀.pagesLeft m := by
  induction h with
  | start => exact ⟨rfl, Nat.le_refl _⟩
  | @fetch pages results p w page p' w' _ hturn ih =>
    obtain ⟨hclient, hleft⟩ := ih
    obtain ⟨hwants, _, _, _, _, rfl, _⟩ := turn_eq_fetch hturn
    have hless := pagesLeft_withPage (by rw [hclient, hguard]) hwants page
    rw [List.length_append, List.length_singleton]
    exact ⟨hclient, by omega⟩
  | answer _ hturn ih =>
    obtain ⟨hclient, hleft⟩ := ih
    cases turn_eq_answer hturn with
    | limit _ => exact ⟨hclient, Nat.le_trans (Nat.add_le_add_right (Nat.zero_le _) _) hleft⟩
    | item _ _ => exact ⟨hclient, hleft⟩
    | finished _ _ => exact ⟨hclient, hleft⟩
    | failed _ _ => exact ⟨hclient, Nat.le_trans (Nat.add_le_add_right (Nat.zero_le _) _) hleft⟩

/-- **A guard ends a traversal.**  Let the greatest number of pages be `m`, and let a service answer
for ever as it likes, with empty pages that link to themselves or with nothing but rate limits.  Any
number of calls of `next`, and collecting all items, come to their end.  They send `max m 1` times
as many requests as one execution may, at the most.  That holds of a call of `next`, and of
collecting what is left, at every moment, whatever happened before; and no history of a pager has
more than `max m 1` pages. -/
theorem guard_ends_traversal (c : Client) (m : Nat) (hguard : c.config.maxPages = some m)
    (endpoint : String) (params : Params) (limit : Option Nat) (transform : Json → α) :
    let p₀ := start c endpoint params limit transform
    let most := max m 1 * ((if c.config.retryOnRateLimit then c.config.maxRetries else 0) + 1)
    (∀ n, EndsWithin most (p₀.callsRun n)) ∧
    EndsWithin most p₀.collect ∧
    (∀ w, ∃ messages, (p₀.collect w).2.sent = w.sent ++ messages ∧ messages.length ≤ most) ∧
    ∀ pages results p, Moment p₀ pages results p →
      pages.length ≤ max m 1 ∧ EndsWithin most p.nextRun ∧ EndsWithin most p.collect := by
  intro p₀ most
  have hmost : p₀.pagesLeft m * p₀.fee = most := rfl
  have hp₀ : p₀.client.config.maxPages = some m := hguard
  refine ⟨fun n => ?_, ?_, fun w => ?_, fun pages results p h => ?_⟩
  · refine endsWithin_of_outlay hp₀ (Nat.le_of_eq hmost) fun w => ?_
    obtain ⟨results, p', events, hrun, houtlay⟩ := p₀.calls_runsTo w n
    exact ⟨(results, p'), p', events, hrun, houtlay⟩
  · exact endsWithin_of_outlay hp₀ (Nat.le_of_eq hmost) p₀.collect_runsTo
  · obtain ⟨result, p', events, hrun, houtlay⟩ := p₀.collect_runsTo w
    have hsends := houtlay.sends m hp₀
    exact ⟨Event.sentIn events, by rw [hrun.eq, World.sent_advance], by omega⟩
  · obtain ⟨hclient, hleft⟩ := h.pagesLeft hp₀
    have hstart : p₀.pagesLeft m = max m 1 := rfl
    have hfee : p.fee = p₀.fee := by rw [fee, fee, hclient]
    have hp : p.client.config.maxPages = some m := by rw [hclient, hp₀]
    have hrest : p.pagesLeft m * p.fee ≤ most := by
      rw [hfee, ← hmost]
      exact Nat.mul_le_mul_right _ (by omega)
    refine ⟨by omega, endsWithin_of_outlay hp hrest fun w => ?_,
      endsWithin_of_outlay hp hrest p.collect_runsTo⟩
    obtain ⟨result, p', events, hrun, houtlay⟩ := p.next_runsTo w
    exact ⟨(result, p'), p', events, hrun, houtlay⟩

/-- A client that fetches two pages at the most, and sends a request again once. -/
def cautious : Client :=
  ⟨⟨"t", none, none⟩,
    { baseUrl := "http://h", apiVersion := "v1", maxRetries := 1, maxPages := some 2 }⟩

/-- An empty page that links to itself. -/
def emptyLoop : Outcome :=
  .answered ⟨200, [],
    utf8Bytes "\x7b\"data\":[],\"paging\":\x7b\"next\":\"http://h/v1/p\"\x7d\x7d".toList, false⟩

/-- A cautious client comes to the end of empty pages that link to themselves.  Of nine that are
ready it asks for two. -/
theorem empty_loop_ends : cautious.config.maxPages = some 2 ∧
    (∃ messages, ((start cautious "p" .empty none id).collect
        ⟨["http"], List.replicate 9 emptyLoop, fun _ => .ok [], []⟩).2.sent = messages ∧
      messages.length ≤ 4) ∧
    ((start cautious "p" .empty none id).next
      ⟨["http"], List.replicate 9 emptyLoop, fun _ => .ok [], []⟩).2.2.sent.length = 2 :=
  ⟨rfl, (guard_ends_traversal cautious 2 rfl "p" .empty none id).2.2.1
    ⟨["http"], List.replicate 9 emptyLoop, fun _ => .ok [], []⟩, by decide +kernel⟩

end Pager

end ThreatGraph
