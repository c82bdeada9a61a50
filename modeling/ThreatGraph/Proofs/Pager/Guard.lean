import ThreatGraph.Proofs.Pager.Ending

/-!
# The guard on the number of pages

A pager looks at the guard after it has taken in a page.  So the guard holds from the first page on:
no traversal takes in more pages than it allows, unless it allows none, in which case there is one.

* `Annals` relates a pager to the pages that it fetched and to all that its turns noted in the log,
  whatever came between one turn and the next.
* `Capped` is the invariant: the pages are not more than allowed, and the log holds the warning of
  the guard exactly if the last page that is allowed has a link (`Annals.capped`).
* `Pager.guard_caps_pages` puts it together, and `Pager.page_beyond_zero` is the page that comes
  although none is allowed.
-/

set_option autoImplicit false

namespace ThreatGraph

variable {α : Type}

/-- The entries in which a pager warns that it stops. -/
def stopNotes (notes : List Note) : List Note :=
  notes.filter fun note => note.origin = .pager ∧ note.level = .warn

@[simp] theorem stopNotes_append (notes notes' : List Note) :
    stopNotes (notes ++ notes') = stopNotes notes ++ stopNotes notes' :=
  List.filter_append ..

/-- A client does not warn in the name of a pager. -/
theorem stopNotes_of_client {most : Nat} {events : List Event} (h : Client.Outlay most events) :
    stopNotes (Event.notedIn events) = [] := by
  refine List.filter_eq_nil_iff.2 fun note hmem => ?_
  simp [h.notes note hmem]

/-- Events that two accounts of one world have in common. -/
theorem World.advance_inj {w : World} {events events' : List Event} {script script' : List Outcome}
    (h : w.advance events script = w.advance events' script') : events = events' :=
  List.append_cancel_left (congrArg World.journal h)

namespace Pager

/-- What led to a state between two turns: the pages that were fetched and all that the turns noted
in the log.  The world may change in any way from turn to turn. -/
inductive Annals (p₀ : Pager α) : List (Page α) → List Note → Pager α → Prop where
  | start : Annals p₀ [] [] p₀
  | fetch {pages notes p w page p' events script} (earlier : Annals p₀ pages notes p)
      (hturn : p.turn w = .fetch page p' (w.advance events script)) :
      Annals p₀ (pages ++ [page]) (notes ++ Event.notedIn events) p'
  | answer {pages notes p w result p' events script} (earlier : Annals p₀ pages notes p)
      (hturn : p.turn w = .answer result p' (w.advance events script)) :
      Annals p₀ pages (notes ++ Event.notedIn events) p'

/-- A turn leads to a later world. -/
theorem turn_leadsTo (p : Pager α) (w : World) : w.LeadsTo (p.turn w).world := by
  have hpull := (Client.ask_oblivious p.client p.nextRequest).leadsTo w
  rw [turn]
  split
  · split
    · next h => rwa [show p.client.ask p.nextRequest w = _ from h] at hpull
    · next h =>
      rw [show p.client.ask p.nextRequest w = _ from h] at hpull
      exact hpull.trans ⟨_, _, rfl⟩
  · exact .refl w

/-- A call adds to the annals what it notes. -/
theorem Annals.next {p₀ : Pager α} (p : Pager α) (w : World) {pages : List (Page α)}
    {notes : List Note} (h : Annals p₀ pages notes p) :
    ∃ pages added, Annals p₀ pages (notes ++ added) (p.next w).2.1 ∧
      (p.next w).2.2.log = w.log ++ added := by
  induction p, w using turns_induction generalizing pages notes with
  | answer p w result p' w' hturn =>
    obtain ⟨events, script, hworld⟩ := p.turn_leadsTo w
    rw [hturn] at hworld
    subst hworld
    rw [next_eq_turn, hturn]
    exact ⟨pages, _, h.answer hturn, World.log_advance _ _ _⟩
  | fetch p w page p' w' hturn ih =>
    obtain ⟨events, script, hworld⟩ := p.turn_leadsTo w
    rw [hturn] at hworld
    subst hworld
    obtain ⟨pages', added, hannals, hlog⟩ := ih (h.fetch hturn)
    rw [next_eq_turn, hturn]
    refine ⟨pages', Event.notedIn events ++ added, by rwa [← List.append_assoc], ?_⟩
    rw [hlog, World.log_advance, List.append_assoc]

/-- Any number of calls leaves a state with annals, which are in the log. -/
theorem annals_calls (p : Pager α) (w : World) (n : Nat) :
    ∃ pages notes, Annals p pages notes (p.calls w n).pager ∧
      (p.calls w n).world.log = w.log ++ notes := by
  induction n with
  | zero => exact ⟨[], [], .start, (List.append_nil _).symm⟩
  | succ n ih =>
    obtain ⟨pages, notes, hannals, hlog⟩ := ih
    obtain ⟨pages', added, hannals', hlog'⟩ := hannals.next _ (p.calls w n).world
    refine ⟨pages', notes ++ added, hannals', ?_⟩
    rw [calls, hlog', hlog, List.append_assoc]

/-- Whether the last of some pages is the last one that the guard allows, and has a link. -/
def StopsAt (m : Nat) (pages : List (Page α)) : Prop :=
  pages.length = max m 1 ∧ ∃ page ∈ pages.getLast?, page.hasNext = true

/-- The pages of a pager with a guard, and its warnings, are as they should be. -/
structure Capped (p₀ : Pager α) (m : Nat) (pages : List (Page α)) (notes : List Note)
    (p : Pager α) : Prop where
  client_eq : p.client = p₀.client
  endpoint_eq : p.endpoint = p₀.endpoint
  pages_eq : p.progress.pages = pages.length
  le : pages.length ≤ max m 1
  /-- Where the traversal goes on, the last page is still to come. -/
  lt : p.progress.isFinished = false → pages.length < max m 1
  stops : StopsAt m pages → stopNotes notes = [⟨.warn, .pager, p₀.guardNote m⟩]
  silent : ¬ StopsAt m pages → stopNotes notes = []

/-- The warning about a page is made exactly if it is the last one that the guard allows and has a
link. -/
theorem stopNotes_pageEvents {p : Pager α} {m : Nat} (hguard : p.client.config.maxPages = some m)
    (page : Page α) : stopNotes (Event.notedIn (p.pageEvents page)) =
      if m ≤ p.progress.pages + 1 ∧ page.hasNext = true then [⟨.warn, .pager, p.guardNote m⟩]
      else [] := by
  rw [pageEvents, guardEvents, hguard]
  dsimp only
  split <;> simp [Event.notedIn, stopNotes]

/-- Nothing that is noted while an answer is pulled is a warning of the pager. -/
theorem stopNotes_pull {p : Pager α} {w v : World} {result : Except Failure Json}
    (h : p.pull w = (result, v)) : ∃ events script, v = w.advance events script ∧
      stopNotes (Event.notedIn events) = [] := by
  obtain ⟨pulled, events, hrun, houtlay⟩ := p.client.ask_costs p.nextRequest w
  have heq := hrun.eq
  rw [show p.client.ask p.nextRequest w = (result, v) from h] at heq
  cases heq
  exact ⟨events, _, rfl, stopNotes_of_client houtlay⟩

/-- Nothing that is noted in a turn without a page is a warning of the pager. -/
theorem stopNotes_answer {p p' : Pager α} {w : World} {result : Except Failure (Option α)}
    {events : List Event} {script : List Outcome}
    (hturn : p.turn w = .answer result p' (w.advance events script)) :
    stopNotes (Event.notedIn events) = [] := by
  have hanswer := turn_eq_answer hturn
  have hsame (h : w.advance events script = w) : stopNotes (Event.notedIn events) = [] := by
    rw [World.advance_inj (h.trans w.advance_nil.symm)]
    rfl
  generalize hworld : w.advance events script = w' at hanswer
  cases hanswer with
  | limit _ => exact hsame hworld
  | item _ _ => exact hsame hworld
  | finished _ _ => exact hsame hworld
  | failed _ hpull =>
    obtain ⟨events', script', hv, hclient⟩ := stopNotes_pull hpull
    rwa [World.advance_inj (hworld.trans hv)]

/-- Of what is noted in a turn with a page, only the warning about this page is one of the pager. -/
theorem stopNotes_fetch {p p' : Pager α} {m : Nat} (hguard : p.client.config.maxPages = some m)
    {w : World} {page : Page α} {events : List Event} {script : List Outcome}
    (hturn : p.turn w = .fetch page p' (w.advance events script)) :
    stopNotes (Event.notedIn events) =
      if m ≤ p.progress.pages + 1 ∧ page.hasNext = true then [⟨.warn, .pager, p.guardNote m⟩]
      else [] := by
  obtain ⟨_, body, v, hpull, -, -, hworld⟩ := turn_eq_fetch hturn
  obtain ⟨events', script', hv, hclient⟩ := stopNotes_pull hpull
  rw [hv, World.advance_advance] at hworld
  rw [World.advance_inj hworld, Event.notedIn_append, stopNotes_append, hclient, List.nil_append,
    stopNotes_pageEvents hguard]

/-- The last of some pages is the last one that the guard allows, and has a link. -/
theorem stopsAt_concat {m : Nat} {pages : List (Page α)} {page : Page α} :
    StopsAt m (pages ++ [page]) ↔ pages.length + 1 = max m 1 ∧ page.hasNext = true := by
  rw [StopsAt, List.length_append, List.length_singleton, List.getLast?_concat]
  simp

/-- A page that is taken in keeps the invariant. -/
theorem Capped.fetch {p₀ p p' : Pager α} {m : Nat} (hguard : p₀.client.config.maxPages = some m)
    {pages : List (Page α)} {notes : List Note} (h : Capped p₀ m pages notes p) {w : World}
    {page : Page α} {events : List Event} {script : List Outcome}
    (hturn : p.turn w = .fetch page p' (w.advance events script)) :
    Capped p₀ m (pages ++ [page]) (notes ++ Event.notedIn events) p' := by
  have hmax : p.client.config.maxPages = some m := by rw [h.client_eq, hguard]
  have hnotes := stopNotes_fetch hmax hturn
  obtain ⟨hwants, _, _, _, -, rfl, _⟩ := turn_eq_fetch hturn
  have hfinished : p.progress.isFinished = false := by simp_all [wantsPage]
  have hlt := h.lt hfinished
  -- No warning was made before: the last page is still to come.
  have hbefore : stopNotes notes = [] := h.silent fun hstops => by
    rw [hstops.1] at hlt
    exact absurd hlt (Nat.lt_irrefl _)
  have hstops : StopsAt m (pages ++ [page]) ↔ m ≤ p.progress.pages + 1 ∧ page.hasNext = true := by
    rw [stopsAt_concat, h.pages_eq]
    exact and_congr_left fun _ => by omega
  have hguardNote : p.guardNote m = p₀.guardNote m := by
    unfold guardNote
    rw [h.endpoint_eq]
  exact {
    client_eq := h.client_eq
    endpoint_eq := h.endpoint_eq
    pages_eq := by simp [withPage, h.pages_eq]
    le := by
      rw [List.length_append, List.length_singleton]
      exact hlt
    lt := fun hmore => by
      have hleft := pagesLeft_withPage hmax hwants page
      rw [pagesLeft, pagesLeft, hmore, hfinished] at hleft
      simp only [withPage, h.pages_eq, Bool.false_eq_true, if_false] at hleft
      rw [List.length_append, List.length_singleton]
      omega
    stops := fun hst => by
      rw [stopNotes_append, hbefore, hnotes, if_pos (hstops.1 hst), hguardNote, List.nil_append]
    silent := fun hst => by
      rw [stopNotes_append, hbefore, hnotes, if_neg (mt hstops.2 hst), List.nil_append] }

/-- An answer keeps the invariant: it warns of nothing. -/
theorem Capped.answer {p₀ p p' : Pager α} {m : Nat} {pages : List (Page α)} {notes : List Note}
    (h : Capped p₀ m pages notes p) {w : World} {result : Except Failure (Option α)}
    {events : List Event} {script : List Outcome}
    (hturn : p.turn w = .answer result p' (w.advance events script)) :
    Capped p₀ m pages (notes ++ Event.notedIn events) p' := by
  have hnotes : stopNotes (notes ++ Event.notedIn events) = stopNotes notes := by
    rw [stopNotes_append, stopNotes_answer hturn, List.append_nil]
  have hkeeps (hclient : p'.client = p.client) (hendpoint : p'.endpoint = p.endpoint)
      (hpages : p'.progress.pages = p.progress.pages)
      (hfinished : p'.progress.isFinished = false → p.progress.isFinished = false) :
      Capped p₀ m pages (notes ++ Event.notedIn events) p' :=
    ⟨hclient.trans h.client_eq, hendpoint.trans h.endpoint_eq, hpages.trans h.pages_eq, h.le,
      fun hmore => h.lt (hfinished hmore), hnotes ▸ h.stops, hnotes ▸ h.silent⟩
  have hanswer := turn_eq_answer hturn
  generalize w.advance events script = w' at hanswer
  cases hanswer with
  | limit _ => exact hkeeps rfl rfl rfl fun hmore => nomatch hmore
  | item _ _ => exact hkeeps rfl rfl rfl id
  | finished _ _ => exact hkeeps rfl rfl rfl id
  | failed _ _ => exact hkeeps rfl rfl rfl fun hmore => nomatch hmore

/-- The invariant holds at all times. -/
theorem Annals.capped {c : Client} {m : Nat} (hguard : c.config.maxPages = some m)
    {endpoint : String} {params : Params} {limit : Option Nat} {transform : Json → α}
    {pages : List (Page α)} {notes : List Note} {p : Pager α}
    (h : Annals (Pager.start c endpoint params limit transform) pages notes p) :
    Capped (Pager.start c endpoint params limit transform) m pages notes p := by
  induction h with
  | start =>
    have hpos : 0 < max m 1 := Nat.lt_of_lt_of_le Nat.zero_lt_one (Nat.le_max_right m 1)
    exact {
      client_eq := rfl
      endpoint_eq := rfl
      pages_eq := rfl
      le := Nat.zero_le _
      lt := fun _ => hpos
      stops := fun hstops => absurd hstops.1 (Nat.ne_of_lt hpos)
      silent := fun _ => rfl }
  | fetch _ hturn ih => exact ih.fetch hguard hturn
  | answer _ hturn ih => exact ih.answer hturn

/-- **What the guard caps.**  Let the greatest number of pages be `m`.  At every moment of a pager,
whatever comes between its turns, it has fetched `max m 1` pages at the most.  It has warned once if
it has fetched as many and the last of them has a link, and else it has not warned.  What it has
warned of is in the log. -/
theorem guard_caps_pages (c : Client) (m : Nat) (hguard : c.config.maxPages = some m)
    (endpoint : String) (params : Params) (limit : Option Nat) (transform : Json → α) :
    let p₀ := start c endpoint params limit transform
    (∀ pages notes p, Annals p₀ pages notes p →
      p.progress.pages = pages.length ∧ p.progress.pages ≤ max m 1 ∧
      (StopsAt m pages → stopNotes notes = [⟨.warn, .pager, p₀.guardNote m⟩]) ∧
      (¬ StopsAt m pages → stopNotes notes = [])) ∧
    ∀ w n, ∃ pages notes, Annals p₀ pages notes (p₀.calls w n).pager ∧
      (p₀.calls w n).world.log = w.log ++ notes := by
  intro p₀
  refine ⟨fun pages notes p h => ?_, annals_calls p₀⟩
  have hcapped := h.capped hguard
  exact ⟨hcapped.pages_eq, hcapped.pages_eq ▸ hcapped.le, hcapped.stops, hcapped.silent⟩

/-- A cautious client that fetches empty pages which link to themselves stops after two. -/
theorem cautious_stops : cautious.config.maxPages = some 2 ∧
    (∃ pages notes, Annals (start cautious "p" .empty none id) pages notes
        ((start cautious "p" .empty none id).calls
          ⟨["http"], List.replicate 9 emptyLoop, fun _ => .ok [], []⟩ 1).pager ∧
      (¬ StopsAt 2 pages → stopNotes notes = []) ∧
      (StopsAt 2 pages → stopNotes notes
        = [⟨.warn, .pager, "Stopping pagination of p after 2 pages (max_pages)"⟩])) ∧
    stopNotes ((start cautious "p" .empty none id).calls
        ⟨["http"], List.replicate 9 emptyLoop, fun _ => .ok [], []⟩ 1).world.log
      = [⟨.warn, .pager, "Stopping pagination of p after 2 pages (max_pages)"⟩] := by
  obtain ⟨hstates, hcalls⟩ := guard_caps_pages cautious 2 rfl "p" .empty none id
  obtain ⟨pages, notes, hannals, _⟩ :=
    hcalls ⟨["http"], List.replicate 9 emptyLoop, fun _ => .ok [], []⟩ 1
  obtain ⟨_, _, hstops, hsilent⟩ := hstates pages notes _ hannals
  have hnote : (start cautious "p" .empty none (id : Json → Json)).guardNote 2
      = "Stopping pagination of p after 2 pages (max_pages)" := by decide +kernel
  exact ⟨rfl, ⟨pages, notes, hannals, hsilent, hnote ▸ hstops⟩, by decide +kernel⟩

/-- A client that is to fetch no page at all. -/
def abstinent : Client :=
  ⟨⟨"t", none, none⟩, { baseUrl := "http://h", apiVersion := "v1", maxPages := some 0 }⟩

/-- A client that is to fetch no page is made without complaint.  It fetches one, and warns that it
stops after none. -/
theorem page_beyond_zero :
    Client.create abstinent.credentials abstinent.config = .ok abstinent ∧
      abstinent.config.maxPages = some 0 ∧
      ((start abstinent "p" .empty none id).calls
        ⟨["http"], [emptyLoop], fun _ => .ok [], []⟩ 1).pager.progress.pages = 1 ∧
      ((start abstinent "p" .empty none id).calls
        ⟨["http"], [emptyLoop], fun _ => .ok [], []⟩ 1).world.warnings
        = [⟨.warn, .pager, "Stopping pagination of p after 0 pages (max_pages)"⟩] := by
  refine ⟨rfl, rfl, ?_, ?_⟩ <;> decide +kernel

end Pager

end ThreatGraph
