import ThreatGraph.Record.Field

/-!
# Members

One who takes part in the exchange of threat data, mostly an app.
-/

set_option autoImplicit false

namespace ThreatGraph

/-- A member. -/
structure Member where
  id : String
  name : String
  email : Option String
  deriving DecidableEq, Repr, Inhabited

namespace Member

/-- The member in a JSON value. -/
def ofJson (value : Json) : Member where
  id := Field.text "id" value
  name := Field.text "name" value
  email := Field.text? "email" value

/-- A member as JSON. -/
def toJson (m : Member) : Json :=
  .record [("id", .string m.id), ("name", .string m.name), ("email", Field.textJson m.email)]

end Member

end ThreatGraph
