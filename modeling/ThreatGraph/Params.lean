import ThreatGraph.Assoc
import ThreatGraph.Url

/-!
# Request parameters

The named parameters of a request, in key order. A parameter has one value, or several that are sent
as one pair each.

* `Params.pairs` is the list of pairs that is sent.
* `Params.merge` is the union of two sets of parameters in which the second wins.
* `Params.regroup` makes parameters of pairs, such that no value is lost.
-/

set_option autoImplicit false

namespace ThreatGraph

/-- The value of a parameter. -/
inductive ParamValue where
  | single (value : String)
  | multi (values : List String)
  deriving DecidableEq, Repr, Inhabited

namespace ParamValue

/-- The value that holds some values: one value stands for itself. -/
def ofList : List String → ParamValue
  | [value] => .single value
  | values => .multi values

/-- The values that are sent, one pair each. -/
def toList : ParamValue → List String
  | .single value => [value]
  | .multi values => values

/-- A list as one value, joined by commas. -/
def joined (values : List String) : ParamValue := .single (String.intercalate "," values)

/-- A natural number as a value. -/
def nat (n : Nat) : ParamValue := .single (toString n)

/-- A whole number as a value. -/
def int (z : Int) : ParamValue := .single (toString z)

/-- The text of a single value. -/
def text? : ParamValue → Option String
  | .single value => some value
  | .multi _ => none

end ParamValue

/-- Parameters by name, in the order of their names. -/
structure Params where
  entries : List (String × ParamValue)
  ordered : Assoc.Ordered entries
  deriving DecidableEq, Repr

namespace Params

/-- No parameters. -/
def empty : Params := ⟨[], List.Pairwise.nil⟩

instance : Inhabited Params := ⟨empty⟩

/-- Sets a parameter. -/
def insert (key : String) (value : ParamValue) (p : Params) : Params :=
  ⟨Assoc.insert key value p.entries, Assoc.ordered_insert key value p.ordered⟩

/-- Sets a parameter to a text. -/
def insertText (key value : String) (p : Params) : Params := p.insert key (.single value)

/-- Sets a parameter if there is a value for it. -/
def insertOption (key : String) (value : Option ParamValue) (p : Params) : Params :=
  match value with
  | some value => p.insert key value
  | none => p

/-- Sets a parameter to a joined list, unless the list is empty. -/
def insertJoined (key : String) (values : List String) (p : Params) : Params :=
  if values.isEmpty then p else p.insert key (.joined values)

/-- The value of a parameter. -/
def get? (key : String) (p : Params) : Option ParamValue := Assoc.lookup? key p.entries

/-- A parameter that is set has its value, and the others keep theirs. -/
theorem get?_insert (key : String) (value : ParamValue) (other : String) (p : Params) :
    (p.insert key value).get? other = if other = key then some value else p.get? other :=
  Assoc.lookup?_insert key value other p.entries

/-- The text of a parameter that has a single value. -/
def text? (key : String) (p : Params) : Option String := (p.get? key).bind ParamValue.text?

/-- Whether a parameter is set. -/
def contains (key : String) (p : Params) : Bool := (p.get? key).isSome

/-- The number of parameters. -/
def size (p : Params) : Nat := p.entries.length

/-- Whether no parameter is set. -/
def isEmpty (p : Params) : Bool := p.entries.isEmpty

/-- The union with other parameters, whose values win. -/
def merge (p other : Params) : Params :=
  other.entries.foldl (fun q entry => q.insert entry.1 entry.2) p

/-- The parameters that a list of settings makes, of which a later one wins. -/
def ofList (entries : List (String × ParamValue)) : Params :=
  entries.foldl (fun p entry => p.insert entry.1 entry.2) empty

/-- The pairs that are sent: in key order, and the values of a key in their own order. -/
def pairs (p : Params) : List (String × String) :=
  p.entries.flatMap fun entry => entry.2.toList.map (entry.1, ·)

/-- Adds a pair: a key that is there already has one more value. -/
def appendPair (p : Params) (pair : String × String) : Params :=
  p.insert pair.1 (.ofList (((p.get? pair.1).map ParamValue.toList).getD [] ++ [pair.2]))

/-- The parameters that some pairs make. Each key has all its values, in order. -/
def regroup (pairs : List (String × String)) : Params := pairs.foldl appendPair empty

end Params

end ThreatGraph
