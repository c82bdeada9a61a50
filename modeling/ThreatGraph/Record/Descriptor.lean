import ThreatGraph.Record.Field
import ThreatGraph.Words

/-!
# Descriptors

What a member makes of an indicator. The indicator itself comes in three forms: as a field of an
object, as a text, or as a text beside it (`Descriptor.indicatorOf?`).
-/

set_option autoImplicit false

namespace ThreatGraph

/-- A descriptor, with the whole of the JSON value that it was read from. -/
structure Descriptor where
  id : String
  indicator : Option String
  indicatorType : Option (Term IndicatorType)
  status : Option (Term Status)
  severity : Option (Term Severity)
  shareLevel : Option (Term ShareLevel)
  description : Option String
  ownerId : Option String
  ownerName : Option String
  ownerEmail : Option String
  privacyType : Option (Term PrivacyType)
  reviewStatus : Option (Term ReviewStatus)
  precision : Option (Term PrecisionType)
  addedOn : Option Instant
  lastUpdated : Option Instant
  expiredOn : Option Instant
  firstActive : Option Instant
  lastActive : Option Instant
  tags : List String
  reactions : List (String × Json)
  raw : Json
  deriving Repr, Inhabited

namespace Descriptor

/-- The indicator that a descriptor is about. -/
def indicatorOf? (value : Json) : Option String :=
  match value.get? "indicator" with
  | some (.object fields) => Field.text? "indicator" (.object fields)
  | some (.string s) => if s = "" then Field.text? "raw_indicator" value else some s
  | _ => Field.text? "raw_indicator" value

/-- The texts of the tags of a descriptor. -/
def tagsOf (value : Json) : List String :=
  let tags := ((value.get? "tags").bind (·.get? "data")).bind Json.asArray?
  (tags.getD []).map (Field.text "text")

/-- The reactions to a descriptor. -/
def reactionsOf (value : Json) : List (String × Json) :=
  ((value.get? "reactions").bind Json.asObject?).getD []

/-- The owner of a descriptor, `null` if there is none. -/
def ownerOf (value : Json) : Json := (value.get? "owner").getD .null

/-- The descriptor in a JSON value. -/
def ofJson (value : Json) : Descriptor where
  id := Field.text "id" value
  indicator := indicatorOf? value
  indicatorType := Field.term? "type" value
  status := Field.term? "status" value
  severity := Field.term? "severity" value
  shareLevel := Field.term? "share_level" value
  description := Field.text? "description" value
  ownerId := Field.text? "id" (ownerOf value)
  ownerName := Field.text? "name" (ownerOf value)
  ownerEmail := Field.text? "email" (ownerOf value)
  privacyType := Field.term? "privacy_type" value
  reviewStatus := Field.term? "review_status" value
  precision := Field.term? "precision" value
  addedOn := Field.instant? "added_on" value
  lastUpdated := Field.instant? "last_updated" value
  expiredOn := Field.instant? "expired_on" value
  firstActive := Field.instant? "first_active" value
  lastActive := Field.instant? "last_active" value
  tags := tagsOf value
  reactions := reactionsOf value
  raw := value

/-- A descriptor as JSON. -/
def toJson (d : Descriptor) : Json :=
  .record
    [("id", .string d.id), ("indicator", Field.textJson d.indicator),
     ("type", Field.termJson d.indicatorType), ("status", Field.termJson d.status),
     ("severity", Field.termJson d.severity), ("share_level", Field.termJson d.shareLevel),
     ("description", Field.textJson d.description), ("owner_id", Field.textJson d.ownerId),
     ("owner_name", Field.textJson d.ownerName), ("owner_email", Field.textJson d.ownerEmail),
     ("privacy_type", Field.termJson d.privacyType),
     ("review_status", Field.termJson d.reviewStatus),
     ("precision", Field.termJson d.precision), ("added_on", Field.instantJson d.addedOn),
     ("last_updated", Field.instantJson d.lastUpdated),
     ("expired_on", Field.instantJson d.expiredOn),
     ("first_active", Field.instantJson d.firstActive),
     ("last_active", Field.instantJson d.lastActive), ("tags", .array (d.tags.map Json.string)),
     ("reactions", .object d.reactions)]

end Descriptor

end ThreatGraph
