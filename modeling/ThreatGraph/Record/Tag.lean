import ThreatGraph.Record.Field

/-!
# Tags

A label that groups objects together.
-/

set_option autoImplicit false

namespace ThreatGraph

/-- A tag. -/
structure Tag where
  id : String
  text : String
  taggedObjectsCount : Nat
  deriving DecidableEq, Repr, Inhabited

namespace Tag

/-- The tag in a JSON value. -/
def ofJson (value : Json) : Tag where
  id := Field.text "id" value
  text := Field.text "text" value
  taggedObjectsCount := (Field.nat? "tagged_objects_count" value).getD 0

/-- A tag as JSON. -/
def toJson (t : Tag) : Json :=
  .record
    [("id", .string t.id), ("text", .string t.text),
     ("tagged_objects_count", .nat t.taggedObjectsCount)]

end Tag

end ThreatGraph
