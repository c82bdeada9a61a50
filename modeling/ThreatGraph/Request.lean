import ThreatGraph.Json
import ThreatGraph.Params

/-!
# Requests

A request as a caller states it: what to do, where, and with which parameters. It has no token yet
and does not know how its parameters are sent.
-/

set_option autoImplicit false

namespace ThreatGraph

/-- What a request does. -/
inductive Method where
  | get
  | post
  | delete
  deriving DecidableEq, Repr, Inhabited

namespace Method

/-- The word of a method. -/
def text : Method → String
  | .get => "GET"
  | .post => "POST"
  | .delete => "DELETE"

/-- The method of a word. -/
def ofText? (word : String) : Option Method :=
  if word = "GET" then some .get
  else if word = "POST" then some .post
  else if word = "DELETE" then some .delete
  else none

/-- A method from JSON: its word, or an object with its word as the key of `null`. -/
def ofJson? : Json → Option Method
  | .string word => ofText? word
  | .object [(word, .null)] => ofText? word
  | _ => none

end Method

/-- A request. The endpoint is a path below the address of the service, or a URL. -/
structure Request where
  method : Method := .get
  endpoint : String
  query : Params := .empty
  body : Params := .empty
  deriving DecidableEq, Repr, Inhabited

end ThreatGraph
