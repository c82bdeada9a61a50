import ThreatGraph.Proofs.Pager.Truncation
import ThreatGraph.Proofs.Secrecy.Twins

/-!
# Two pagers that differ in the secrets of their clients

Pagers of twin clients go on side by side: as long as each request for a page can be sent with both
secrets or with neither, they fetch the same pages and give the same items.

* `Pager.Asks` says which requests the next calls of a pager make.
* `Pager.Together` is the relation between two pagers and their worlds.  A turn keeps it
  (`Pager.turn_together`), and so does a call (`Pager.next_together`).
* `Pager.stream_together` and `Pager.collect_together` follow for whole traversals.

Whether a request can be sent is asked of the requests that are made only, and these depend on the
pages that were fetched before.  So the condition is carried along with the calls, and each call
gives up the part of it that is about itself.
-/

set_option autoImplicit false

namespace ThreatGraph.Pager

variable {α : Type} {c c' : Client}

/-- The pager with another client. -/
def withClient (c : Client) (p : Pager α) : Pager α := { p with client := c }

/-- A request for a page is made in the next calls of a pager, of which there are no more than a
number, and each but the first follows an item. -/
inductive Asks : Nat → Pager α → World → Request → Prop where
  | now {calls : Nat} {p : Pager α} {w : World} {r : Request} (hwants : p.wantsPage = true)
      (h : p.nextRequest = .ok r) : Asks (calls + 1) p w r
  | fetched {calls : Nat} {p p' : Pager α} {w w' : World} {page : Page α} {r : Request}
      (hturn : p.turn w = .fetch page p' w') (h : Asks (calls + 1) p' w' r) :
      Asks (calls + 1) p w r
  | given {calls : Nat} {p p' : Pager α} {w w' : World} {item : α} {r : Request}
      (hturn : p.turn w = .answer (.ok (some item)) p' w') (h : Asks calls p' w' r) :
      Asks (calls + 1) p w r

/-- What the calls after an item ask for is asked for. -/
theorem Asks.after_next {calls : Nat} {r : Request} (p : Pager α) (w : World) {p' : Pager α}
    {w' : World} {item : α} (hnext : p.next w = (.ok (some item), p', w'))
    (h : Asks calls p' w' r) : Asks (calls + 1) p w r := by
  induction p, w using turns_induction with
  | answer p w result p₁ w₁ hturn =>
    rw [next_eq_turn, hturn] at hnext
    cases hnext
    exact .given hturn h
  | fetch p w page p₁ w₁ hturn ih =>
    rw [next_eq_turn, hturn] at hnext
    exact .fetched hturn (ih hnext)

/-- Two pagers that differ in their clients only, in twin worlds. -/
structure Together (c c' : Client) (p : Pager α) (w : World) (p' : Pager α) (w' : World) :
    Prop where
  client_eq : p.client = c
  pager_eq : p' = p.withClient c'
  worlds : World.Twins c c' w w'

/-- Turns of two pagers that come to the same. -/
inductive Turn.Together (c c' : Client) : Turn α → Turn α → Prop where
  | answer {result : Except Failure (Option α)} {p p' : Pager α} {w w' : World}
      (h : Pager.Together c c' p w p' w') :
      Together c c' (.answer result p w) (.answer result p' w')
  | fetch {page : Page α} {p p' : Pager α} {w w' : World} (h : Pager.Together c c' p w p' w') :
      Together c c' (.fetch page p w) (.fetch page p' w')

/-- Taking in a page is the same for clients with the same settings. -/
theorem withPage_withClient (hconfig : c.config = c'.config) {p : Pager α} (hclient : p.client = c)
    (page : Page α) : (p.withClient c').withPage page = (p.withPage page).withClient c' := by
  have hlast : (p.withClient c').isLastPage = p.isLastPage := by
    rw [isLastPage, isLastPage, hclient, hconfig]
    rfl
  have hcursor : (p.withClient c').cursorAfter page.next = p.cursorAfter page.next := by
    unfold cursorAfter
    rw [hlast]
  rw [withPage, hcursor]
  rfl

/-- What is logged about a page does not show the client. -/
theorem pageEvents_withClient (hconfig : c.config = c'.config) {p : Pager α}
    (hclient : p.client = c) (page : Page α) :
    (p.withClient c').pageEvents page = p.pageEvents page := by
  have hguard : (p.withClient c').guardEvents page = p.guardEvents page := by
    rw [guardEvents, guardEvents, hclient, hconfig]
    rfl
  rw [pageEvents, hguard]
  rfl

/-- Settling a call looks at no client. -/
theorem settle_withClient (p : Pager α) :
    (p.withClient c').settle = (p.settle.1, p.settle.2.withClient c') := by
  have hbuffer : (p.withClient c').buffer = p.buffer := rfl
  have hprogress : (p.withClient c').progress = p.progress := rfl
  rw [settle, settle, hbuffer, hprogress]
  split
  · rfl
  · split <;> rfl

/-- Settling a call keeps the client. -/
theorem client_settle (p : Pager α) : p.settle.2.client = p.client := by
  rw [settle]
  split
  · rfl
  · split <;> rfl

/-- The answers to the requests for the next page. -/
theorem pull_twins (h : c.Twins c') {p : Pager α} (hclient : p.client = c)
    (hfits : ∀ r, p.nextRequest = .ok r → c.fits r = c'.fits r) :
    World.RunTwins c c' p.pull (p.withClient c').pull := by
  intro w w' hworld
  change (p.client.ask p.nextRequest w).1 = (c'.ask p.nextRequest w').1 ∧
    World.Twins c c' (p.client.ask p.nextRequest w).2 (c'.ask p.nextRequest w').2
  rw [hclient]
  cases hrequest : p.nextRequest with
  | error failure => exact ⟨rfl, hworld⟩
  | ok r =>
    rw [Client.ask_ok, Client.ask_ok]
    exact Client.execute_same_twins h (hfits r hrequest) w w' hworld

/-- **Twin turns.**  They come to the same if the request for a page, should one be wanted, can be
sent with both secrets or with neither. -/
theorem turn_together (h : c.Twins c') {p p' : Pager α} {w w' : World}
    (ht : Together c c' p w p' w')
    (hfits : p.wantsPage = true → ∀ r, p.nextRequest = .ok r → c.fits r = c'.fits r) :
    Turn.Together c c' (p.turn w) (p'.turn w') := by
  obtain ⟨hclient, rfl, hworld⟩ := ht
  have hwants : (p.withClient c').wantsPage = p.wantsPage := rfl
  rw [turn, turn, hwants]
  split
  · next hpage =>
    obtain ⟨hresult, hafter⟩ := pull_twins h hclient (hfits hpage) w w' hworld
    generalize p.pull w = pulled at hresult hafter ⊢
    generalize (p.withClient c').pull w' = pulled' at hresult hafter ⊢
    obtain ⟨result, v⟩ := pulled
    obtain ⟨result', v'⟩ := pulled'
    obtain rfl : result = result' := hresult
    cases result with
    | error failure => exact .answer ⟨hclient, rfl, hafter⟩
    | ok body =>
      have htransform : (p.withClient c').transform = p.transform := rfl
      dsimp only at hafter ⊢
      rw [htransform, withPage_withClient h.config_eq hclient,
        pageEvents_withClient h.config_eq hclient, ← hafter.script_eq]
      exact .fetch ⟨hclient, rfl, hafter.advance _ _⟩
  · rw [settle_withClient]
    exact .answer ⟨p.client_settle.trans hclient, rfl, hworld⟩

/-- **Twin calls.**  They give the same, and leave pagers that differ in their clients only. -/
theorem next_together (h : c.Twins c') (p : Pager α) (w : World) {p' : Pager α} {w' : World}
    (ht : Together c c' p w p' w') {calls : Nat}
    (hfits : ∀ r, p.Asks (calls + 1) w r → c.fits r = c'.fits r) :
    ∃ v', p'.next w' = ((p.next w).1, (p.next w).2.1.withClient c', v') ∧
      Together c c' (p.next w).2.1 (p.next w).2.2 ((p.next w).2.1.withClient c') v' := by
  induction p, w using turns_induction generalizing p' w' with
  | answer p w result p₁ w₁ hturn =>
    have hboth := turn_together h ht fun hwants r hr => hfits r (.now hwants hr)
    rw [next_eq_turn p, next_eq_turn p', hturn]
    rw [hturn] at hboth
    generalize p'.turn w' = turned at hboth ⊢
    cases hboth with
    | answer hafter =>
      obtain ⟨hclient, rfl, hworld⟩ := hafter
      exact ⟨_, rfl, hclient, rfl, hworld⟩
  | fetch p w page p₁ w₁ hturn ih =>
    have hboth := turn_together h ht fun hwants r hr => hfits r (.now hwants hr)
    rw [next_eq_turn p, next_eq_turn p', hturn]
    rw [hturn] at hboth
    generalize p'.turn w' = turned at hboth ⊢
    cases hboth with
    | fetch hafter => exact ih hafter fun r hr => hfits r (.fetched hturn hr)

/-- **Twin streams.**  They have the same elements, and end alike. -/
theorem stream_together (h : c.Twins c') (count : Nat) {p p' : Pager α} {w w' : World}
    (ht : Together c c' p w p' w') (hfits : ∀ r, p.Asks count w r → c.fits r = c'.fits r) :
    (p.stream count w).1 = (p'.stream count w').1 ∧
      (p.stream count w).2.1 = (p'.stream count w').2.1 ∧
      World.Twins c c' (p.stream count w).2.2 (p'.stream count w').2.2 := by
  induction count generalizing p p' w w' with
  | zero => exact ⟨rfl, rfl, ht.worlds⟩
  | succ count ih =>
    obtain ⟨v', hnext', hafter⟩ := next_together h p w ht hfits
    rw [stream, stream, hnext']
    match hnext : p.next w with
    | (.ok (some item), q, v) =>
      rw [hnext] at hafter
      obtain ⟨hitems, hends, hworlds⟩ := ih hafter fun r hr => hfits r (.after_next p w hnext hr)
      exact ⟨congrArg (_ :: ·) hitems, hends, hworlds⟩
    | (.ok none, q, v) =>
      rw [hnext] at hafter
      exact ⟨rfl, rfl, hafter.worlds⟩
    | (.error failure, q, v) =>
      rw [hnext] at hafter
      exact ⟨rfl, rfl, hafter.worlds⟩

/-- **Twin traversals.**  All items are the same, and so is what ends them. -/
theorem drain_together (h : c.Twins c') (p : Pager α) (w : World) {p' : Pager α} {w' : World}
    (ht : Together c c' p w p' w')
    (hfits : ∀ calls r, p.Asks calls w r → c.fits r = c'.fits r) :
    (p.drain w).1 = (p'.drain w').1 ∧ (p.drain w).2.1 = (p'.drain w').2.1 ∧
      World.Twins c c' (p.drain w).2.2.2 (p'.drain w').2.2.2 := by
  induction p, w using items_induction generalizing p' w' with
  | item p w item q v hnext ih =>
    obtain ⟨v', hnext', hafter⟩ := next_together h p w ht (hfits 1)
    rw [hnext] at hnext' hafter
    rw [drain_eq, drain_eq p', hnext, hnext']
    obtain ⟨hitems, hfault, hworlds⟩ := ih hafter fun calls r hr =>
      hfits (calls + 1) r (.after_next p w hnext hr)
    exact ⟨congrArg (item :: ·) hitems, hfault, hworlds⟩
  | ended p w q v hnext =>
    obtain ⟨v', hnext', hafter⟩ := next_together h p w ht (hfits 1)
    rw [hnext] at hnext' hafter
    rw [drain_eq, drain_eq p', hnext, hnext']
    exact ⟨rfl, rfl, hafter.worlds⟩
  | failed p w failure q v hnext =>
    obtain ⟨v', hnext', hafter⟩ := next_together h p w ht (hfits 1)
    rw [hnext] at hnext' hafter
    rw [drain_eq, drain_eq p', hnext, hnext']
    exact ⟨rfl, rfl, hafter.worlds⟩

/-- **Twin collections.**  They are the same, or fail with the same failure. -/
theorem collect_together (h : c.Twins c') (p : Pager α) (w : World) {p' : Pager α} {w' : World}
    (ht : Together c c' p w p' w')
    (hfits : ∀ calls r, p.Asks calls w r → c.fits r = c'.fits r) :
    (p.collect w).1 = (p'.collect w').1 ∧ World.Twins c c' (p.collect w).2 (p'.collect w').2 := by
  obtain ⟨hitems, hfault, hworlds⟩ := drain_together h p w ht hfits
  rw [collect_eq, collect_eq, hitems, hfault]
  exact ⟨rfl, hworlds⟩

end ThreatGraph.Pager
