import ThreatGraph.Record.Field
import ThreatGraph.Words

/-!
# Indicators

An indicator of compromise: a domain, an address, a hash.
-/

set_option autoImplicit false

namespace ThreatGraph

/-- An indicator, with the whole of the JSON value that it was read from. -/
structure Indicator where
  id : String
  indicator : Option String
  indicatorType : Option (Term IndicatorType)
  addedOn : Option Instant
  lastUpdated : Option Instant
  raw : Json
  deriving Repr, Inhabited

namespace Indicator

/-- The indicator in a JSON value. -/
def ofJson (value : Json) : Indicator where
  id := Field.text "id" value
  indicator := Field.text? "indicator" value
  indicatorType := Field.term? "type" value
  addedOn := Field.instant? "added_on" value
  lastUpdated := Field.instant? "last_updated" value
  raw := value

/-- An indicator as JSON. -/
def toJson (i : Indicator) : Json :=
  .record
    [("id", .string i.id), ("indicator", Field.textJson i.indicator),
     ("type", Field.termJson i.indicatorType), ("added_on", Field.instantJson i.addedOn),
     ("last_updated", Field.instantJson i.lastUpdated)]

end Indicator

end ThreatGraph
