import ThreatGraph.Pager
import ThreatGraph.Record.Descriptor
import ThreatGraph.Record.Indicator
import ThreatGraph.Record.Member
import ThreatGraph.Record.PrivacyGroup
import ThreatGraph.Record.Tag
import ThreatGraph.Record.Update
import ThreatGraph.Search

/-!
# What the service offers

The objects of the service and the calls that read, search, submit and change them, each at its
endpoint. Objects are read leniently: what the service leaves out or writes otherwise takes a
standard value.
-/

set_option autoImplicit false

namespace ThreatGraph.Client

/-- The parameter that names the fields to read, if there are any. -/
def fieldParams (fields : List String) : Params := Params.empty.insertJoined "fields" fields

/-- The identity that the service gives to what is submitted, empty if it gives none. -/
def createdId (body : Json) : String := Field.text "id" body

/-- Whether the service says that a change succeeded. -/
def success (body : Json) : Bool := ((body.get? "success").bind Json.asBool?).getD false

/-! ## Descriptors -/

/-- Reads a descriptor. -/
def descriptor (c : Client) (id : String) (fields : List String) : Call Descriptor :=
  (c.get id (fieldParams fields)).map Descriptor.ofJson

/-- Searches descriptors. -/
def searchDescriptors (c : Client) (s : DescriptorSearch) : Pager Descriptor :=
  c.paginateWith "threat_descriptors" s.toParams s.limit Descriptor.ofJson

/-- Submits a descriptor. -/
def createDescriptor (c : Client) (d : NewDescriptor) : Call String :=
  (c.post "threat_descriptors" d.toParams).map createdId

/-- Changes a descriptor. -/
def updateDescriptor (c : Client) (id : String) (change : DescriptorChange) : Call Bool :=
  (c.post id change.toParams).map success

/-- Deletes a descriptor. -/
def deleteDescriptor (c : Client) (id : String) : Call Bool :=
  (c.delete id .empty).map success

/-- Reacts to a descriptor. -/
def addReaction (c : Client) (id reaction : String) : Call Bool :=
  (c.post (id ++ "/reactions") (Params.empty.insertText "reaction" reaction)).map success

/-- Takes back the reaction to a descriptor. -/
def removeReaction (c : Client) (id : String) : Call Bool :=
  (c.delete (id ++ "/reactions") .empty).map success

/-! ## Indicators and tags -/

/-- Reads an indicator. -/
def indicator (c : Client) (id : String) (fields : List String) : Call Indicator :=
  (c.get id (fieldParams fields)).map Indicator.ofJson

/-- Searches indicators. -/
def searchIndicators (c : Client) (s : IndicatorSearch) : Pager Indicator :=
  c.paginateWith "threat_indicators" s.toParams s.limit Indicator.ofJson

/-- The descriptors of an indicator. -/
def indicatorDescriptors (c : Client) (id : String) (fields : List String)
    (limit : Option Nat) : Pager Descriptor :=
  c.paginateWith (id ++ "/descriptors") (fieldParams fields) limit Descriptor.ofJson

/-- Reads a tag. -/
def tag (c : Client) (id : String) : Call Tag := (c.get id .empty).map Tag.ofJson

/-- Searches tags by their text. -/
def searchTags (c : Client) (text : String) (limit : Option Nat) : Pager Tag :=
  c.paginateWith "threat_tags" (Params.empty.insertText "text" text) limit Tag.ofJson

/-- The descriptors that carry a tag. -/
def taggedObjects (c : Client) (id : String) (limit : Option Nat) : Pager Descriptor :=
  c.paginateWith (id ++ "/tagged_objects") .empty limit Descriptor.ofJson

/-! ## Privacy groups and members -/

/-- Reads a privacy group. -/
def privacyGroup (c : Client) (id : String) : Call PrivacyGroup :=
  (c.get id .empty).map PrivacyGroup.ofJson

/-- The privacy groups of the app of the caller, which has to be known. -/
def ownPrivacyGroups (c : Client) (limit : Option Nat) : Except Failure (Pager PrivacyGroup) :=
  let appId := c.credentials.appId.getD ""
  if appId = "" then .error (.invalidRequest "app_id is required to list privacy groups")
  else
    .ok (c.paginateWith (appId ++ "/threat_exchange_members") .empty limit PrivacyGroup.ofJson)

/-- Submits a privacy group. -/
def createPrivacyGroup (c : Client) (name description : String) : Call String :=
  (c.post "threat_privacy_groups"
    ((Params.empty.insertText "name" name).insertText "description" description)).map createdId

/-- Adds a member to a privacy group. -/
def addMember (c : Client) (group member : String) : Call Bool :=
  (c.post (group ++ "/members") (Params.empty.insertText "member" member)).map success

/-- Removes a member from a privacy group. -/
def removeMember (c : Client) (group member : String) : Call Bool :=
  (c.delete (group ++ "/members") (Params.empty.insertText "member" member)).map success

/-- The members of the exchange. -/
def listMembers (c : Client) (fields : List String) (limit : Option Nat) : Pager Member :=
  c.paginateWith "threat_exchange_members" (fieldParams fields) limit Member.ofJson

/-- Reads a member. -/
def member (c : Client) (id : String) (fields : List String) : Call Member :=
  (c.get id (fieldParams fields)).map Member.ofJson

/-! ## Updates and the caller -/

/-- The changes to the data of a privacy group. -/
def listUpdates (c : Client) (group : String) (q : UpdatesQuery) : Pager Update :=
  c.paginateWith (group ++ "/threat_updates") q.toParams q.limit Update.ofJson

/-- The app that the token belongs to. -/
def me (c : Client) : Call Json := c.get "me" .empty

/-- What the service knows of the token. -/
def debugToken (c : Client) : Call Json :=
  c.get "debug_token" (Params.empty.insertText "input_token" c.credentials.accessToken)

end ThreatGraph.Client
