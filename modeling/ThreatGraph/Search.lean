import ThreatGraph.Params
import ThreatGraph.Words

/-!
# Searches and submissions

What can be asked for and what can be submitted, and the parameters that say so
(`DescriptorSearch.toParams` and so on). A filter that is not set says nothing, and neither does an
empty text or an empty list. A limit on the number of items is kept by the pager and never sent.
-/

set_option autoImplicit false

namespace ThreatGraph

/-- The text of a term as a parameter. -/
def termParam {α : Type} [Vocabulary α] (t : Option (Term α)) : Option ParamValue :=
  t.map fun term => .single term.text

/-- A text as a parameter, unless it is empty. -/
def filledParam (text : Option String) : Option ParamValue :=
  match text with
  | some s => if s = "" then none else some (.single s)
  | none => none

/-- A number as a parameter. -/
def intParam (z : Option Int) : Option ParamValue := z.map ParamValue.int

/-- A parameter that is set to be true, or not set. -/
def trueParam (b : Bool) : Option ParamValue := if b then some (.single "true") else none

/-- What descriptors are asked for. Times are seconds since the start of 1970. -/
structure DescriptorSearch where
  text : Option String := none
  descriptorType : Option (Term IndicatorType) := none
  status : Option (Term Status) := none
  shareLevel : Option (Term ShareLevel) := none
  owner : Option String := none
  tags : List String := []
  since : Option Int := none
  untilTime : Option Int := none
  strictText : Bool := false
  fields : List String := []
  limit : Option Nat := none
  deriving DecidableEq, Repr, Inhabited

/-- The parameters of a search for descriptors. -/
def DescriptorSearch.toParams (s : DescriptorSearch) : Params :=
  Params.empty
    |>.insertOption "text" (filledParam s.text)
    |>.insertOption "type" (termParam s.descriptorType)
    |>.insertOption "status" (termParam s.status)
    |>.insertOption "share_level" (termParam s.shareLevel)
    |>.insertOption "owner" (filledParam s.owner)
    |>.insertJoined "tags" s.tags
    |>.insertOption "since" (intParam s.since)
    |>.insertOption "until" (intParam s.untilTime)
    |>.insertOption "strict_text" (trueParam s.strictText)
    |>.insertJoined "fields" s.fields

/-- What indicators are asked for. -/
structure IndicatorSearch where
  text : Option String := none
  indicatorType : Option (Term IndicatorType) := none
  since : Option Int := none
  untilTime : Option Int := none
  strictText : Bool := false
  fields : List String := []
  limit : Option Nat := none
  deriving DecidableEq, Repr, Inhabited

/-- The parameters of a search for indicators. -/
def IndicatorSearch.toParams (s : IndicatorSearch) : Params :=
  Params.empty
    |>.insertOption "text" (filledParam s.text)
    |>.insertOption "type" (termParam s.indicatorType)
    |>.insertOption "since" (intParam s.since)
    |>.insertOption "until" (intParam s.untilTime)
    |>.insertOption "strict_text" (trueParam s.strictText)
    |>.insertJoined "fields" s.fields

/-- What updates are asked for: those in a time, of some types of objects. -/
structure UpdatesQuery where
  since : Option Int := none
  untilTime : Option Int := none
  types : List String := []
  fields : List String := []
  limit : Option Nat := none
  deriving DecidableEq, Repr, Inhabited

/-- The parameters of a query for updates. -/
def UpdatesQuery.toParams (q : UpdatesQuery) : Params :=
  Params.empty
    |>.insertOption "since" (intParam q.since)
    |>.insertOption "until" (intParam q.untilTime)
    |>.insertJoined "types" q.types
    |>.insertJoined "fields" q.fields

/-- A descriptor to submit. -/
structure NewDescriptor where
  indicator : String
  descriptorType : Term IndicatorType
  description : String
  shareLevel : Term ShareLevel := .known .amber
  status : Term Status := .known .unknown
  severity : Option (Term Severity) := none
  privacyType : Term PrivacyType := .known .visible
  privacyMembers : List String := []
  tags : List String := []
  expiredOn : Option Int := none
  firstActive : Option Int := none
  lastActive : Option Int := none
  reviewStatus : Option (Term ReviewStatus) := none
  deriving DecidableEq, Repr, Inhabited

namespace NewDescriptor

/-- A descriptor that only some privacy groups see. -/
def forGroups (groups : List String) (d : NewDescriptor) : NewDescriptor :=
  { d with privacyType := .known .hasPrivacyGroup, privacyMembers := groups }

/-- The parameters of a submission. -/
def toParams (d : NewDescriptor) : Params :=
  Params.empty
    |>.insertText "indicator" d.indicator
    |>.insertText "type" d.descriptorType.text
    |>.insertText "description" d.description
    |>.insertText "share_level" d.shareLevel.text
    |>.insertText "status" d.status.text
    |>.insertText "privacy_type" d.privacyType.text
    |>.insertOption "severity" (termParam d.severity)
    |>.insertJoined "privacy_members" d.privacyMembers
    |>.insertJoined "tags" d.tags
    |>.insertOption "expired_on" (intParam d.expiredOn)
    |>.insertOption "first_active" (intParam d.firstActive)
    |>.insertOption "last_active" (intParam d.lastActive)
    |>.insertOption "review_status" (termParam d.reviewStatus)

end NewDescriptor

/-- Changes to a descriptor. What is not set stays as it is; an empty list of members empties the
list. -/
structure DescriptorChange where
  description : Option String := none
  status : Option (Term Status) := none
  severity : Option (Term Severity) := none
  shareLevel : Option (Term ShareLevel) := none
  privacyType : Option (Term PrivacyType) := none
  privacyMembers : Option (List String) := none
  expiredOn : Option Int := none
  firstActive : Option Int := none
  lastActive : Option Int := none
  reviewStatus : Option (Term ReviewStatus) := none
  deriving DecidableEq, Repr, Inhabited

/-- The parameters of changes to a descriptor. -/
def DescriptorChange.toParams (d : DescriptorChange) : Params :=
  Params.empty
    |>.insertOption "description" (d.description.map ParamValue.single)
    |>.insertOption "status" (termParam d.status)
    |>.insertOption "severity" (termParam d.severity)
    |>.insertOption "share_level" (termParam d.shareLevel)
    |>.insertOption "privacy_type" (termParam d.privacyType)
    |>.insertOption "privacy_members" (d.privacyMembers.map ParamValue.joined)
    |>.insertOption "expired_on" (intParam d.expiredOn)
    |>.insertOption "first_active" (intParam d.firstActive)
    |>.insertOption "last_active" (intParam d.lastActive)
    |>.insertOption "review_status" (termParam d.reviewStatus)

end ThreatGraph
