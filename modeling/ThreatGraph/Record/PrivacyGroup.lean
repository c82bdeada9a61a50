import ThreatGraph.Record.Field

/-!
# Privacy groups

A list of members with whom data is shared.
-/

set_option autoImplicit false

namespace ThreatGraph

/-- A privacy group. -/
structure PrivacyGroup where
  id : String
  name : String
  description : String
  membersCanSee : Bool
  membersCanUse : Bool
  memberCount : Nat
  deriving DecidableEq, Repr, Inhabited

namespace PrivacyGroup

/-- The privacy group in a JSON value. -/
def ofJson (value : Json) : PrivacyGroup where
  id := Field.text "id" value
  name := Field.text "name" value
  description := Field.text "description" value
  membersCanSee := (Field.bool? "members_can_see" value).getD true
  membersCanUse := (Field.bool? "members_can_use" value).getD true
  memberCount := (Field.nat? "member_count" value).getD 0

/-- A privacy group as JSON. -/
def toJson (g : PrivacyGroup) : Json :=
  .record
    [("id", .string g.id), ("name", .string g.name), ("description", .string g.description),
     ("members_can_see", .bool g.membersCanSee), ("members_can_use", .bool g.membersCanUse),
     ("member_count", .nat g.memberCount)]

end PrivacyGroup

end ThreatGraph
