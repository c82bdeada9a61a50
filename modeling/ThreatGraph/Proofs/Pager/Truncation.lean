import ThreatGraph.Catalog
import ThreatGraph.Proofs.Pager.Course

/-!
# What a limit does

A limit on the number of items is kept by the pager and never sent.  A pager with a limit and one
without it, in the same world, do the same call by call until the limit is reached, and from then on
the one with a limit does nothing.

* `Pager.turn_withLimit`, `Pager.next_withLimit` and `Pager.calls_withLimit` say that a limit that
  is not reached changes nothing but itself: in a turn, in a call and in a number of calls.
* `Pager.calls_of_limitReached` says that a reached limit is the end.
* `Pager.drain_cuts` says what a limit leaves of all items.  `Pager.Truncates` puts it together, and
  `Pager.truncates_start` proves it of a new pager.
* `Collection` lists the kinds of pagers there are.  Each is a new pager whose request does not
  depend on the limit (`Collection.pager_eq`), which gives `Pager.limit_truncates`.
-/

set_option autoImplicit false

namespace ThreatGraph

variable {α : Type}

/-! ## Later worlds

A pager with a limit stops where the one without goes on, so the worlds that they leave are not the
same.  The first comes to be the second if more is done: its journal is a beginning of the other. -/

/-- One world comes after another: the journal is longer by some events. -/
def World.LeadsTo (w v : World) : Prop := ∃ events script, v = w.advance events script

namespace World.LeadsTo

variable {w v u : World}

theorem refl (w : World) : LeadsTo w w := ⟨[], w.script, w.advance_nil.symm⟩

theorem trans (h : LeadsTo w v) (h' : LeadsTo v u) : LeadsTo w u := by
  obtain ⟨events, script, rfl⟩ := h
  obtain ⟨events', script', rfl⟩ := h'
  exact ⟨_, _, World.advance_advance _ _ _ _ _⟩

theorem sent (h : LeadsTo w v) : w.sent <+: v.sent := by
  obtain ⟨events, script, rfl⟩ := h
  exact ⟨_, (World.sent_advance events script w).symm⟩

end World.LeadsTo

/-- A call that looks at what lies ahead only leads to a later world. -/
theorem Call.Oblivious.leadsTo {call : Call α} (h : Call.Oblivious call) (w : World) :
    w.LeadsTo (call w).2 := by
  obtain ⟨_, events, script, hw, _⟩ := h (.refl w)
  exact ⟨events, script, hw⟩

namespace Pager

/-- The pager with another limit. -/
def withLimit (limit : Option Nat) (p : Pager α) : Pager α :=
  { p with progress := { p.progress with limit := limit } }

theorem limitReached_withLimit (n : Nat) (p : Pager α) :
    (p.withLimit (some n)).progress.limitReached = decide (n ≤ p.progress.yielded) := rfl

/-! ## A limit that is not reached

A turn looks at the limit only to find out whether it is reached.  So as long as it is not, the
pager with the limit and the one without take the same turns, and what they leave differs in the
limit and in nothing else. -/

/-- A turn with another limit in the pager that it leaves. -/
def Turn.withLimit (limit : Option Nat) : Turn α → Turn α
  | .answer result p w => .answer result (p.withLimit limit) w
  | .fetch page p w => .fetch page (p.withLimit limit) w

/-- A limit that is not reached changes nothing about a turn. -/
theorem turn_withLimit {n : Nat} {p : Pager α} (hnone : p.progress.limit = none)
    (hlt : p.progress.yielded < n) (w : World) :
    (p.withLimit (some n)).turn w = (p.turn w).withLimit (some n) := by
  have hreached : p.progress.limitReached = false := by rw [Progress.limitReached, hnone]
  have hreached' : (p.withLimit (some n)).progress.limitReached = false := by
    rw [limitReached_withLimit, decide_eq_false (Nat.not_le.2 hlt)]
  have hwants : (p.withLimit (some n)).wantsPage = p.wantsPage := by
    rw [wantsPage, wantsPage, hreached, hreached']
    rfl
  have hsettle : (p.withLimit (some n)).settle =
      (p.settle.1, p.settle.2.withLimit (some n)) := by
    have hbuffer : (p.withLimit (some n)).buffer = p.buffer := rfl
    rw [settle, settle, hreached, hreached', if_neg Bool.false_ne_true, if_neg Bool.false_ne_true,
      hbuffer]
    cases p.buffer <;> rfl
  have hpull : (p.withLimit (some n)).pull w = p.pull w := rfl
  rw [turn, turn, hwants, hpull]
  split
  · cases p.pull w with
    | mk result v => cases result <;> rfl
  · rw [hsettle]
    rfl

/-- A call keeps the limit, and counts an item if it gives one. -/
theorem progress_next (p : Pager α) (w : World) :
    (p.next w).2.1.progress.limit = p.progress.limit ∧
      ∀ item, (p.next w).1 = .ok (some item) →
        (p.next w).2.1.progress.yielded = p.progress.yielded + 1 := by
  induction p, w using turns_induction with
  | answer p w result p' w' hturn =>
    rw [next_eq_turn, hturn]
    cases turn_eq_answer hturn <;> exact ⟨rfl, by simp [Progress.countItem]⟩
  | fetch p w page p' w' hturn ih =>
    rw [next_eq_turn, hturn]
    obtain ⟨_, _, _, _, rfl, rfl, _⟩ := turn_eq_fetch hturn
    exact ih

/-- A limit that is not reached changes nothing about a call. -/
theorem next_withLimit {n : Nat} (p : Pager α) (w : World) (hnone : p.progress.limit = none)
    (hlt : p.progress.yielded < n) :
    (p.withLimit (some n)).next w =
      ((p.next w).1, (p.next w).2.1.withLimit (some n), (p.next w).2.2) := by
  induction p, w using turns_induction with
  | answer p w result p' w' hturn =>
    rw [next_eq_turn, turn_withLimit hnone hlt, next_eq_turn p, hturn]
    rfl
  | fetch p w page p' w' hturn ih =>
    obtain ⟨_, _, _, _, _, rfl, _⟩ := turn_eq_fetch hturn
    rw [next_eq_turn, turn_withLimit hnone hlt, next_eq_turn p, hturn]
    exact ih hnone hlt

/-- A number of calls with another limit in the pager that they leave. -/
def Run.withLimit (limit : Option Nat) (run : Run α) : Run α :=
  { run with pager := run.pager.withLimit limit }

/-- A limit that is not reached before the last of some calls changes nothing about them. -/
theorem calls_withLimit {p : Pager α} (hnone : p.progress.limit = none) {n : Nat} {w : World}
    {m : Nat} (h : ∀ j < m, (p.calls w j).pager.progress.yielded < n) :
    (p.withLimit (some n)).calls w m = (p.calls w m).withLimit (some n) ∧
      (p.calls w m).pager.progress.limit = none := by
  induction m with
  | zero => exact ⟨rfl, hnone⟩
  | succ m ih =>
    obtain ⟨hcalls, hlimit⟩ := ih fun j hj => h j (Nat.lt_succ_of_lt hj)
    have hnext := next_withLimit _ (p.calls w m).world hlimit (h m (Nat.lt_succ_self m))
    rw [calls, calls, hcalls]
    refine ⟨?_, (progress_next _ _).1.trans hlimit⟩
    simp only [Run.withLimit, hnext]

/-! ## A limit that is reached

The check of the limit comes first in a turn, before the items at hand and before the cursor.  So
from then on nothing else about the pager matters. -/

/-- **A reached limit is the end.**  From then on no call gives an item, and the world stays as it
is. -/
theorem calls_of_limitReached {p : Pager α} {w : World} {m : Nat}
    (h : (p.calls w m).pager.progress.limitReached = true) (k : Nat) :
    (p.calls w (m + k)).results = (p.calls w m).results ++ List.replicate k (.ok none) ∧
      (p.calls w (m + k)).world = (p.calls w m).world ∧
      (p.calls w (m + k)).pager.progress.limitReached = true := by
  induction k with
  | zero => exact ⟨by simp, rfl, h⟩
  | succ k ih =>
    obtain ⟨hresults, hworld, hreached⟩ := ih
    rw [← Nat.add_assoc, calls]
    simp only [next_of_limitReached hreached]
    refine ⟨?_, hworld, hreached⟩
    rw [hresults, List.append_assoc, ← List.replicate_succ']

/-! ## All items

Collecting drains a pager, and does not give a number of calls to compare.  So the comparison is
made once more along the items, where each item takes one of the limit from both sides.  There are
two recursions here, of the calls that give an item and of the turns in a call, and both come to an
end because each turn that goes on takes an answer from the script or an item from the buffer. -/

/-- A call leads to a later world. -/
theorem next_leadsTo (p : Pager α) (w : World) : w.LeadsTo (p.next w).2.2 := by
  induction p, w using turns_induction with
  | answer p w result p' w' hturn =>
    rw [next_eq_turn, hturn]
    cases turn_eq_answer hturn with
    | failed _ hpull =>
      have hleads := (Client.ask_oblivious p.client p.nextRequest).leadsTo w
      rwa [show p.client.ask p.nextRequest w = _ from hpull] at hleads
    | _ => exact .refl w
  | fetch p w page p' w' hturn ih =>
    rw [next_eq_turn, hturn]
    obtain ⟨_, body, v, hpull, _, _, rfl⟩ := turn_eq_fetch hturn
    have hleads := (Client.ask_oblivious p.client p.nextRequest).leadsTo w
    rw [show p.client.ask p.nextRequest w = _ from hpull] at hleads
    exact hleads.trans (World.LeadsTo.trans ⟨_, _, rfl⟩ ih)

/-- All items are the next one and all after it. -/
theorem drain_eq (p : Pager α) (w : World) : p.drain w =
    match p.next w with
    | (.ok (some item), p', w') => (item :: (p'.drain w').1, (p'.drain w').2)
    | (.ok none, p', w') => ([], none, p', w')
    | (.error failure, p', w') => ([], some failure, p', w') := by
  rw [drain]
  split <;> next h => rw [h]

/-- All items in a number of turns, if that is enough.  Unlike `drain` it can be evaluated. -/
def drainWithin : Nat → Pager α → World → Option (List α × Option Failure × Pager α × World)
  | 0, _, _ => none
  | n + 1, p, w =>
    match p.turn w with
    | .fetch _ p w => drainWithin n p w
    | .answer (.ok (some item)) p w =>
      (drainWithin n p w).map fun given => (item :: given.1, given.2)
    | .answer (.ok none) p w => some ([], none, p, w)
    | .answer (.error failure) p w => some ([], some failure, p, w)

/-- What is found in a number of turns is what `drain` gives. -/
theorem drain_of_drainWithin {n : Nat} {p : Pager α} {w : World}
    {given : List α × Option Failure × Pager α × World} (h : p.drainWithin n w = some given) :
    p.drain w = given := by
  induction n generalizing p w given with
  | zero => cases h
  | succ n ih =>
    rw [drainWithin] at h
    rw [drain_eq, next_eq_turn]
    split at h
    · next page p' w' hturn =>
      rw [hturn]
      dsimp only
      rw [← drain_eq]
      exact ih h
    · next item p' w' hturn =>
      obtain ⟨rest, hrest, rfl⟩ := Option.map_eq_some_iff.1 h
      rw [hturn]
      dsimp only
      rw [ih hrest]
    · next p' w' hturn =>
      cases h
      rw [hturn]
    · next failure p' w' hturn =>
      cases h
      rw [hturn]

/-- Induction along the calls that give an item. -/
theorem items_induction {motive : Pager α → World → Prop}
    (item : ∀ p w item p' w', p.next w = (.ok (some item), p', w') → motive p' w' → motive p w)
    (ended : ∀ p w p' w', p.next w = (.ok none, p', w') → motive p w)
    (failed : ∀ p w failure p' w', p.next w = (.error failure, p', w') → motive p w)
    (p : Pager α) (w : World) : motive p w := by
  match hnext : p.next w with
  | (.ok (some x), p', w') =>
    exact item p w x p' w' hnext (items_induction item ended failed p' w')
  | (.ok none, p', w') => exact ended p w p' w' hnext
  | (.error failure, p', w') => exact failed p w failure p' w' hnext
termination_by (w.script.length, p.buffer.length)
decreasing_by
  obtain hscript | ⟨hscript, hbuffer⟩ := next_decreases p w hnext
  · exact .left _ _ hscript
  · exact hscript ▸ .right _ hbuffer

/-- All items are what the calls give, one after the other, and the call after them says why there
are no more. -/
theorem calls_of_drain (p : Pager α) (w : World) : p.calls w ((p.drain w).1.length + 1) =
    ⟨(p.drain w).1.map (.ok ∘ some) ++ [(p.drain w).2.1.elim (.ok none) .error],
      (p.drain w).2.2.1, (p.drain w).2.2.2⟩ := by
  induction p, w using items_induction with
  | item p w item p' w' hnext ih =>
    rw [calls_eq_cons, drain_eq, hnext]
    simp only [List.length_cons, ih, List.map_cons, Function.comp_apply, List.cons_append]
  | ended p w p' w' hnext =>
    rw [calls_eq_cons, drain_eq, hnext]
    rfl
  | failed p w failure p' w' hnext =>
    rw [calls_eq_cons, drain_eq, hnext]
    rfl

/-- Draining a pager leads to a later world. -/
theorem drain_leadsTo (p : Pager α) (w : World) : w.LeadsTo (p.drain w).2.2.2 := by
  have hleads := next_leadsTo p w
  induction p, w using items_induction with
  | item p w item p' w' hnext ih =>
    rw [hnext] at hleads
    rw [drain_eq, hnext]
    exact hleads.trans (ih (next_leadsTo p' w'))
  | ended p w p' w' hnext =>
    rw [hnext] at hleads
    rwa [drain_eq, hnext]
  | failed p w failure p' w' hnext =>
    rw [hnext] at hleads
    rwa [drain_eq, hnext]

/-- A pager that has reached its limit has no items. -/
theorem drain_of_limitReached {p : Pager α} (h : p.progress.limitReached = true) (w : World) :
    p.drain w = ([], none, { p.finish with buffer := [] }, w) := by
  rw [drain_eq, next_of_limitReached h]

/-- What a limit leaves of all items of a pager: the first `k` of them, with the failure after them
only if there are fewer. -/
structure Cuts (k : Nat) (limited full : List α × Option Failure × Pager α × World) : Prop where
  items : limited.1 = full.1.take k
  fault : limited.2.1 = if k ≤ full.1.length then none else full.2.1
  leadsTo : limited.2.2.2.LeadsTo full.2.2.2
  world : full.1.length < k → limited.2.2.2 = full.2.2.2

namespace Cuts

variable {k : Nat} {fault : Option Failure} {p p' : Pager α} {w : World}
  {limited full : List α × Option Failure × Pager α × World}

/-- A limit of no items leaves nothing. -/
theorem zero (h : w.LeadsTo full.2.2.2) : Cuts 0 ([], none, p, w) full :=
  ⟨by simp, by simp, h, fun hlt => absurd hlt (Nat.not_lt_zero _)⟩

/-- Where there are no items, a limit of some leaves all. -/
theorem nil (hk : 0 < k) : Cuts k (([] : List α), fault, p, w) ([], fault, p', w) :=
  ⟨by simp, by simp [Nat.ne_of_gt hk], .refl w, fun _ => rfl⟩

/-- An item in front takes one of the limit. -/
theorem cons (h : Cuts k limited full) (item : α) :
    Cuts (k + 1) (item :: limited.1, limited.2) (item :: full.1, full.2) :=
  ⟨by simp [h.items], by simp [h.fault], h.leadsTo, fun hlt => h.world (Nat.lt_of_succ_lt_succ hlt)⟩

end Cuts

/-- **All items up to a limit.**  They are the first of all items, and the failure is among them
only if it comes before the limit is reached. -/
theorem drain_cuts {n : Nat} (p : Pager α) (w : World) (hnone : p.progress.limit = none)
    (hle : p.progress.yielded ≤ n) :
    Cuts (n - p.progress.yielded) ((p.withLimit (some n)).drain w) (p.drain w) := by
  -- The recursion is that of `drain`, and an item that is given takes one of the limit.  At the
  -- limit the two part for good, so this case comes before the call.
  obtain heq | hlt := Nat.eq_or_lt_of_le hle
  · have hreached : (p.withLimit (some n)).progress.limitReached = true := by
      rw [limitReached_withLimit, decide_eq_true (Nat.le_of_eq heq.symm)]
    rw [heq, Nat.sub_self, drain_of_limitReached hreached]
    exact .zero (drain_leadsTo p w)
  obtain ⟨hlimit, hcount⟩ := progress_next p w
  rw [drain_eq, drain_eq p, next_withLimit p w hnone hlt]
  match hnext : p.next w with
  | (.ok (some item), p', w') =>
    rw [hnext] at hlimit hcount
    have hyielded : p'.progress.yielded = p.progress.yielded + 1 := hcount item rfl
    have hle' : p'.progress.yielded ≤ n := by rwa [hyielded]
    have hrest := drain_cuts p' w' (hlimit.trans hnone) hle'
    rw [show n - p.progress.yielded = (n - p'.progress.yielded) + 1 by omega]
    exact hrest.cons item
  | (.ok none, p', w') => exact .nil (Nat.sub_pos_of_lt hlt)
  | (.error failure, p', w') => exact .nil (Nat.sub_pos_of_lt hlt)
termination_by (w.script.length, p.buffer.length)
decreasing_by
  obtain hscript | ⟨hscript, hbuffer⟩ := next_decreases p w hnext
  · exact .left _ _ hscript
  · exact hscript ▸ .right _ hbuffer

/-! ## What a limit does

A limit on a pager without one is all that this is about: two limits are never compared, for the
calls of the service make a new pager for each limit, and such a pager has counted no items. -/

/-- The number of items that a pager counts is that of the items that its calls gave. -/
theorem yielded_calls (c : Client) (endpoint : String) (params : Params) (limit : Option Nat)
    (transform : Json → α) (w : World) (m : Nat) :
    let run := (start c endpoint params limit transform).calls w m
    run.pager.progress.yielded = (given run.results).length ∧ run.pager.progress.limit = limit := by
  intro run
  obtain ⟨_, hmoment⟩ := moment_calls (start c endpoint params limit transform) w m
  exact ⟨hmoment.faithful.yielded_eq, hmoment.faithful.limit_eq⟩

/-- What a limit of `n` items does to a pager that has none. -/
structure Truncates (n : Nat) (p : Pager α) (w : World) : Prop where
  /-- Until `n` items are given each call does the same, and gives the same. -/
  same : ∀ m, (∀ j < m, (given (p.calls w j).results).length < n) →
    (p.withLimit (some n)).calls w m = (p.calls w m).withLimit (some n)
  /-- From then on no call gives an item, and the world stays as it is. -/
  rest : ∀ m, (given ((p.withLimit (some n)).calls w m).results).length = n → ∀ k,
    ((p.withLimit (some n)).calls w (m + k)).results =
        ((p.withLimit (some n)).calls w m).results ++ List.replicate k (.ok none) ∧
      ((p.withLimit (some n)).calls w (m + k)).world = ((p.withLimit (some n)).calls w m).world
  /-- All items are the first `n`, and a failure after them is not met. -/
  collect : ((p.withLimit (some n)).collect w).1 =
    if n ≤ (p.drain w).1.length then .ok ((p.drain w).1.take n) else (p.collect w).1
  /-- What is done for them is the beginning of what is done without the limit. -/
  leadsTo : ((p.withLimit (some n)).collect w).2.LeadsTo (p.collect w).2
  sent : ((p.withLimit (some n)).collect w).2.sent <+: (p.collect w).2.sent
  /-- If there are fewer items, it is all of it. -/
  world : (p.drain w).1.length < n → ((p.withLimit (some n)).collect w).2 = (p.collect w).2

/-- What is collected are all items, if there is no failure. -/
theorem collect_eq (p : Pager α) (w : World) :
    p.collect w = ((p.drain w).2.1.elim (.ok (p.drain w).1) .error, (p.drain w).2.2.2) := by
  rw [collect]
  split
  · next h => rw [h]; rfl
  · next h => rw [h]; rfl

/-- A limit does to a new pager what it should. -/
theorem truncates_start (c : Client) (endpoint : String) (params : Params) (transform : Json → α)
    (n : Nat) (w : World) : (start c endpoint params none transform).Truncates n w := by
  have hcuts := drain_cuts (n := n) (start c endpoint params none transform) w rfl (Nat.zero_le n)
  rw [show n - (start c endpoint params none transform).progress.yielded = n from rfl] at hcuts
  exact {
    same := fun m hlt => by
      refine (calls_withLimit rfl fun j hj => ?_).1
      rw [(yielded_calls c endpoint params none transform w j).1]
      exact hlt j hj
    rest := fun m hgiven k => by
      obtain ⟨hyielded, hlimit⟩ := yielded_calls c endpoint params (some n) transform w m
      have hreached : ((start c endpoint params (some n) transform).calls w
          m).pager.progress.limitReached = true := by
        rw [Progress.limitReached, hlimit, hyielded]
        exact decide_eq_true (Nat.le_of_eq hgiven.symm)
      obtain ⟨hresults, hworld, _⟩ := calls_of_limitReached hreached k
      exact ⟨hresults, hworld⟩
    collect := by
      rw [collect_eq, collect_eq, hcuts.items, hcuts.fault]
      split
      · rfl
      · next hlt => rw [List.take_of_length_le (Nat.le_of_not_le hlt)]
    leadsTo := by
      rw [collect_eq, collect_eq]
      exact hcuts.leadsTo
    sent := by
      rw [collect_eq, collect_eq]
      exact hcuts.leadsTo.sent
    world := fun hlt => by
      rw [collect_eq, collect_eq]
      exact hcuts.world hlt }

end Pager

/-- The kinds of pagers: over the items of an endpoint, as they are or put in another form, and over
what the service offers. -/
inductive Collection : Type → Type 1 where
  | items (endpoint : String) (params : Params) : Collection Json
  | itemsWith {α : Type} (endpoint : String) (params : Params) (transform : Json → α) : Collection α
  | descriptors (search : DescriptorSearch) : Collection Descriptor
  | indicators (search : IndicatorSearch) : Collection Indicator
  | indicatorDescriptors (id : String) (fields : List String) : Collection Descriptor
  | tags (text : String) : Collection Tag
  | taggedObjects (id : String) : Collection Descriptor
  | ownPrivacyGroups : Collection PrivacyGroup
  | members (fields : List String) : Collection Member
  | updates (group : String) (query : UpdatesQuery) : Collection Update
  | mapped {α β : Type} (f : α → β) (k : Collection α) : Collection β

namespace Collection

/-- The pager over a collection that a client makes, with a limit or without. -/
def pager (c : Client) (limit : Option Nat) : {α : Type} → Collection α → Except Failure (Pager α)
  | _, items endpoint params => .ok (c.paginate endpoint params limit)
  | _, itemsWith endpoint params transform => .ok (c.paginateWith endpoint params limit transform)
  | _, descriptors search => .ok (c.searchDescriptors { search with limit })
  | _, indicators search => .ok (c.searchIndicators { search with limit })
  | _, indicatorDescriptors id fields => .ok (c.indicatorDescriptors id fields limit)
  | _, tags text => .ok (c.searchTags text limit)
  | _, taggedObjects id => .ok (c.taggedObjects id limit)
  | _, ownPrivacyGroups => c.ownPrivacyGroups limit
  | _, members fields => .ok (c.listMembers fields limit)
  | _, updates group query => .ok (c.listUpdates group { query with limit })
  | _, mapped f k => (k.pager c limit).map (Pager.map f)

/-- A collection is refused whatever the limit is, or its pager is a new one, whose endpoint and
parameters do not depend on the limit. -/
theorem pager_eq (c : Client) (k : Collection α) :
    (∃ failure, ∀ limit, k.pager c limit = .error failure) ∨
      ∃ endpoint params transform, ∀ limit,
        k.pager c limit = .ok (Pager.start c endpoint params limit transform) := by
  induction k with
  | ownPrivacyGroups =>
    by_cases happ : c.credentials.appId.getD "" = ""
    · exact .inl ⟨_, fun limit => by rw [pager, Client.ownPrivacyGroups, if_pos happ]⟩
    · exact .inr ⟨_, _, _, fun limit => by rw [pager, Client.ownPrivacyGroups, if_neg happ]; rfl⟩
  | mapped f k ih =>
    obtain ⟨failure, h⟩ | ⟨endpoint, params, transform, h⟩ := ih
    · exact .inl ⟨failure, fun limit => by rw [pager, h]; rfl⟩
    · exact .inr ⟨endpoint, params, f ∘ transform, fun limit => by rw [pager, h]; rfl⟩
  | descriptors search => exact .inr ⟨_, search.toParams, _, fun _ => rfl⟩
  | indicators search => exact .inr ⟨_, search.toParams, _, fun _ => rfl⟩
  | updates group query => exact .inr ⟨_, query.toParams, _, fun _ => rfl⟩
  | _ => exact .inr ⟨_, _, _, fun _ => rfl⟩

end Collection

namespace Pager

/-- **A limit only truncates.**  For every kind of pager, every client and every world: the pager
with a limit is the one without, but for the limit itself, and does the same call by call until as
many items are given.  Then it ends. -/
theorem limit_truncates (c : Client) (k : Collection α) (n : Nat) :
    match k.pager c none with
    | .ok p => k.pager c (some n) = .ok (p.withLimit (some n)) ∧ ∀ w, p.Truncates n w
    | .error failure => k.pager c (some n) = .error failure := by
  obtain ⟨failure, h⟩ | ⟨endpoint, params, transform, h⟩ := k.pager_eq c
  · rw [h, h]
  · rw [h, h]
    exact ⟨rfl, truncates_start c endpoint params transform n⟩

end Pager

end ThreatGraph
