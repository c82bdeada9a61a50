import ThreatGraph.Record.Field

/-!
# Updates

One change in the data of a privacy group.
-/

set_option autoImplicit false

namespace ThreatGraph

/-- An update, with the whole of the JSON value that it was read from. -/
structure Update where
  id : String
  updateType : Option String
  time : Option Instant
  shouldDelete : Bool
  raw : Json
  deriving Repr, Inhabited

namespace Update

/-- The update in a JSON value. -/
def ofJson (value : Json) : Update where
  id := Field.text "id" value
  updateType := Field.text? "type" value
  time := Field.instant? "time" value
  shouldDelete := (Field.bool? "should_delete" value).getD false
  raw := value

/-- An update as JSON. -/
def toJson (u : Update) : Json :=
  .record
    [("id", .string u.id), ("type", Field.textJson u.updateType),
     ("time", Field.instantJson u.time), ("should_delete", .bool u.shouldDelete)]

end Update

end ThreatGraph
