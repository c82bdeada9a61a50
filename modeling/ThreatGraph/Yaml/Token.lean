/-!
# YAML tokens

The pieces of which a YAML stream is made: brackets and indicators, the places where a block of
items begins and ends (which indentation tells), the marks that set documents apart, directives,
and the properties and contents of nodes.
-/

set_option autoImplicit false

namespace ThreatGraph.Yaml

/-- How a scalar is written. -/
inductive Style where
  | plain
  | quoted
  | literal
  | folded
  deriving DecidableEq, Repr, Inhabited

/-- The two kinds of collections. -/
inductive Collection where
  | sequence
  | mapping
  deriving DecidableEq, Repr, Inhabited

/-- A piece of a YAML stream. -/
inductive Token where
  /-- The directive that names the version of the language. -/
  | version (major minor : Nat)
  /-- The directive that lets a handle stand for the beginning of a tag. -/
  | handle (name : String) (start : List UInt8)
  | documentStart
  | documentEnd
  | blockStart (kind : Collection)
  | blockEnd
  | flowStart (kind : Collection)
  | flowEnd (kind : Collection)
  /-- The dash in front of an item of a block sequence. -/
  | blockEntry
  /-- The comma between the entries of a flow collection. -/
  | flowEntry
  | key
  | value
  | alias (name : String)
  | anchor (name : String)
  /-- A tag: a handle, empty if there is none, and the text after it. -/
  | tag (handle : String) (text : List UInt8)
  | scalar (style : Style) (text : String)
  deriving DecidableEq, Repr, Inhabited

end ThreatGraph.Yaml
