import ThreatGraph.Request
import ThreatGraph.Failure
import ThreatGraph.Url.Reader

/-!
# Pages

A collection comes in pages: an answer holds some items under `data`, and a link to the next page
under `paging.next`. There is no next page where the link is missing.

* `Page.ofBody` takes an answer apart. It never fails.
* `Continuation.parse` takes a link apart, and `Continuation.request` is the request that follows
  it.
* `Progress` says how far a traversal of the pages has come.
-/

set_option autoImplicit false

namespace ThreatGraph

/-- A page of a collection. -/
structure Page (α : Type) where
  items : List α
  next : Option String
  deriving Repr, Inhabited

namespace Page

/-- The link to the next page in an answer. -/
def link? (body : Json) : Option String :=
  match ((body.get? "paging").bind (·.get? "next")).bind Json.asString? with
  | some link => if link = "" then none else some link
  | none => none

/-- The items in an answer. -/
def itemsOf (body : Json) : List Json := ((body.get? "data").bind Json.asArray?).getD []

/-- The page in an answer, with its items put in another form. -/
def ofBody {α : Type} (transform : Json → α) (body : Json) : Page α :=
  ⟨(itemsOf body).map transform, link? body⟩

/-- Whether there is a next page. -/
def hasNext {α : Type} (p : Page α) : Bool := p.next.isSome

end Page

namespace Continuation

/-- The parts of a link: the URL up to the end of its path, and the parameters of its query. -/
def parse (link : String) : Except Failure (String × Params) :=
  match Url.parse link with
  | .ok url => .ok (url.base, Params.regroup url.queryPairs)
  | .error fault => .error (.invalidUrl fault)

/-- The request that follows a link. -/
def request (link : String) : Except Failure Request :=
  (parse link).map fun parts => { method := .get, endpoint := parts.1, query := parts.2 }

end Continuation

/-- Where a traversal goes next. -/
inductive Cursor where
  | start
  | next (link : String)
  | finished
  deriving DecidableEq, Repr, Inhabited

/-- How far a traversal has come: the items it has handed out, the pages it has fetched, and the
number of items after which it stops. -/
structure Progress where
  cursor : Cursor
  yielded : Nat
  pages : Nat
  limit : Option Nat
  deriving DecidableEq, Repr, Inhabited

namespace Progress

/-- A traversal that has not begun. -/
def start (limit : Option Nat) : Progress := ⟨.start, 0, 0, limit⟩

/-- Whether the traversal has handed out as many items as it may. -/
def limitReached (p : Progress) : Bool :=
  match p.limit with
  | some n => n ≤ p.yielded
  | none => false

/-- Whether no page is fetched any more. -/
def isFinished (p : Progress) : Bool := p.cursor = .finished

/-- Hands out an item. -/
def countItem (p : Progress) : Progress := { p with yielded := p.yielded + 1 }

/-- Fetches a page with a link to the next one, or none. -/
def countPage (next : Option String) (p : Progress) : Progress :=
  { p with
    pages := p.pages + 1
    cursor := match next with
      | some link => .next link
      | none => .finished }

/-- Stops the traversal. -/
def finish (p : Progress) : Progress := { p with cursor := .finished }

end Progress

end ThreatGraph
