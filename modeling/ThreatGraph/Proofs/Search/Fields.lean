import Mathlib.Tactic.MkIffOfInductiveProp
import ThreatGraph.Proofs.Params.Settings
import ThreatGraph.Proofs.Text.Numeral
import ThreatGraph.Search

/-!
# What parameters keep of a search or a submission

The parameters of a search or a submission are all that the service gets of it.  This file says what
they keep of its fields: `Search.parameters_keep_fields` says that two searches, or two submissions,
have the same parameters if and only if they agree in each field, but for the limit on the number of
items.

Two fields agree in these senses.
* Terms agree if their texts do, whether or not the word is known.
* An empty text of a search is not set, and neither is an empty list (`Search.setText`,
  `Search.joinedText`).
* Lists that are set agree if they are the same text when joined by commas.
* A list of members to change agrees with no other than a list to change: to empty the members is
  not to leave them.
-/

set_option autoImplicit false

namespace ThreatGraph

namespace Search

/-! ## The texts of fields

A setting is a key with a text or with nothing, and two settings are the same if their texts are.
So the kinds of fields are told apart by how they become a text, and the parameters of a record are
made of its settings (`Params.ofSettings`).  The lemmas here lead from what the program writes for a
field to its text. -/

/-- The text of a field that is set unless it is empty. -/
def setText (text : Option String) : Option String := text.filter (· ≠ "")

/-- The text of a list that is set unless it is empty. -/
def joinedText (values : List String) : Option String :=
  if values = [] then none else some (String.intercalate "," values)

/-- The text of a number. -/
def numberText (z : Option Int) : Option String := z.map toString

/-- The text of a switch. -/
def switchText (b : Bool) : Option String := if b then some "true" else none

/-- The text of a term. -/
def termText {α : Type} [Vocabulary α] (t : Option (Term α)) : Option String := t.map Term.text

theorem filledParam_eq (text : Option String) :
    filledParam text = (setText text).map ParamValue.single := by
  cases text with
  | none => rfl
  | some s => by_cases h : s = "" <;> simp [filledParam, setText, Option.filter, h]

theorem termParam_eq {α : Type} [Vocabulary α] (t : Option (Term α)) :
    termParam t = (termText t).map ParamValue.single := by
  cases t <;> rfl

theorem intParam_eq (z : Option Int) : intParam z = (numberText z).map ParamValue.single := by
  cases z <;> rfl

theorem trueParam_eq (b : Bool) : trueParam b = (switchText b).map ParamValue.single := by
  cases b <;> rfl

theorem insertJoined_eq (key : String) (values : List String) (p : Params) :
    p.insertJoined key values =
      p.insertOption key ((joinedText values).map ParamValue.single) := by
  cases values <;> rfl

theorem insertText_eq (key value : String) (p : Params) :
    p.insertText key value = p.insertOption key ((some value).map ParamValue.single) := rfl

/-- Numbers with the same text are the same. -/
theorem numberText_inj {a b : Option Int} : numberText a = numberText b ↔ a = b :=
  (Option.map_injective fun _ _ => toString_inj.1).eq_iff

theorem switchText_inj {a b : Bool} : switchText a = switchText b ↔ a = b := by
  cases a <;> cases b <;> simp [switchText]

end Search

open Search

/-! ## Searches for descriptors

Each record below comes with the list of its settings.  The keys of these are different, and so no
setting hides another; that they lead to the same parameters is all that there is to prove. -/

namespace DescriptorSearch

/-- Two searches agree in all that is asked for. -/
@[mk_iff]
structure SameIn (a b : DescriptorSearch) : Prop where
  text : setText a.text = setText b.text
  descriptorType : termText a.descriptorType = termText b.descriptorType
  status : termText a.status = termText b.status
  shareLevel : termText a.shareLevel = termText b.shareLevel
  owner : setText a.owner = setText b.owner
  tags : joinedText a.tags = joinedText b.tags
  since : a.since = b.since
  untilTime : a.untilTime = b.untilTime
  strictText : a.strictText = b.strictText
  fields : joinedText a.fields = joinedText b.fields

/-- The settings of a search. -/
def settings (s : DescriptorSearch) : List (String × Option String) :=
  [("text", setText s.text), ("type", termText s.descriptorType), ("status", termText s.status),
   ("share_level", termText s.shareLevel), ("owner", setText s.owner), ("tags", joinedText s.tags),
   ("since", numberText s.since), ("until", numberText s.untilTime),
   ("strict_text", switchText s.strictText), ("fields", joinedText s.fields)]

theorem toParams_eq (s : DescriptorSearch) : s.toParams = Params.ofSettings s.settings := by
  simp only [toParams, filledParam_eq, termParam_eq, intParam_eq, trueParam_eq, insertJoined_eq]
  rfl

theorem keeps : Params.Keeps toParams SameIn := by
  refine Params.keeps_of_settings settings ((settings default).map (·.1)) toParams_eq
    (fun _ => rfl) (by decide) (by decide) fun a b => ?_
  simp only [settings, sameIn_iff, List.cons.injEq, Prod.mk.injEq, true_and, and_true,
    numberText_inj, switchText_inj]

end DescriptorSearch

/-! ## Searches for indicators

There is no status, no owner and no tags here. -/

namespace IndicatorSearch

/-- Two searches agree in all that is asked for. -/
@[mk_iff]
structure SameIn (a b : IndicatorSearch) : Prop where
  text : setText a.text = setText b.text
  indicatorType : termText a.indicatorType = termText b.indicatorType
  since : a.since = b.since
  untilTime : a.untilTime = b.untilTime
  strictText : a.strictText = b.strictText
  fields : joinedText a.fields = joinedText b.fields

/-- The settings of a search. -/
def settings (s : IndicatorSearch) : List (String × Option String) :=
  [("text", setText s.text), ("type", termText s.indicatorType), ("since", numberText s.since),
   ("until", numberText s.untilTime), ("strict_text", switchText s.strictText),
   ("fields", joinedText s.fields)]

theorem toParams_eq (s : IndicatorSearch) : s.toParams = Params.ofSettings s.settings := by
  simp only [toParams, filledParam_eq, termParam_eq, intParam_eq, trueParam_eq, insertJoined_eq]
  rfl

theorem keeps : Params.Keeps toParams SameIn := by
  refine Params.keeps_of_settings settings ((settings default).map (·.1)) toParams_eq
    (fun _ => rfl) (by decide) (by decide) fun a b => ?_
  simp only [settings, sameIn_iff, List.cons.injEq, Prod.mk.injEq, true_and, and_true,
    numberText_inj, switchText_inj]

end IndicatorSearch

/-! ## Queries for updates

All that is asked for are two times and two lists. -/

namespace UpdatesQuery

/-- Two queries agree in all that is asked for. -/
@[mk_iff]
structure SameIn (a b : UpdatesQuery) : Prop where
  since : a.since = b.since
  untilTime : a.untilTime = b.untilTime
  types : joinedText a.types = joinedText b.types
  fields : joinedText a.fields = joinedText b.fields

/-- The settings of a query. -/
def settings (q : UpdatesQuery) : List (String × Option String) :=
  [("since", numberText q.since), ("until", numberText q.untilTime), ("types", joinedText q.types),
   ("fields", joinedText q.fields)]

theorem toParams_eq (q : UpdatesQuery) : q.toParams = Params.ofSettings q.settings := by
  simp only [toParams, intParam_eq, insertJoined_eq]
  rfl

theorem keeps : Params.Keeps toParams SameIn := by
  refine Params.keeps_of_settings settings ((settings default).map (·.1)) toParams_eq
    (fun _ => rfl) (by decide) (by decide) fun a b => ?_
  simp only [settings, sameIn_iff, List.cons.injEq, Prod.mk.injEq, true_and, and_true,
    numberText_inj]

end UpdatesQuery

/-! ## Submissions

Six of the fields are not optional and are sent also if they are empty, so there an empty text is a
text like others. -/

namespace NewDescriptor

/-- Two submissions agree in all that is submitted. -/
@[mk_iff]
structure SameIn (a b : NewDescriptor) : Prop where
  indicator : a.indicator = b.indicator
  descriptorType : a.descriptorType.text = b.descriptorType.text
  description : a.description = b.description
  shareLevel : a.shareLevel.text = b.shareLevel.text
  status : a.status.text = b.status.text
  privacyType : a.privacyType.text = b.privacyType.text
  severity : termText a.severity = termText b.severity
  privacyMembers : joinedText a.privacyMembers = joinedText b.privacyMembers
  tags : joinedText a.tags = joinedText b.tags
  expiredOn : a.expiredOn = b.expiredOn
  firstActive : a.firstActive = b.firstActive
  lastActive : a.lastActive = b.lastActive
  reviewStatus : termText a.reviewStatus = termText b.reviewStatus

/-- The settings of a submission, of which the first six are always set. -/
def settings (d : NewDescriptor) : List (String × Option String) :=
  [("indicator", some d.indicator), ("type", some d.descriptorType.text),
   ("description", some d.description), ("share_level", some d.shareLevel.text),
   ("status", some d.status.text), ("privacy_type", some d.privacyType.text),
   ("severity", termText d.severity), ("privacy_members", joinedText d.privacyMembers),
   ("tags", joinedText d.tags), ("expired_on", numberText d.expiredOn),
   ("first_active", numberText d.firstActive), ("last_active", numberText d.lastActive),
   ("review_status", termText d.reviewStatus)]

theorem toParams_eq (d : NewDescriptor) : d.toParams = Params.ofSettings d.settings := by
  simp only [toParams, insertText_eq, termParam_eq, intParam_eq, insertJoined_eq]
  rfl

theorem keeps : Params.Keeps toParams SameIn := by
  refine Params.keeps_of_settings settings ((settings default).map (·.1)) toParams_eq
    (fun _ => rfl) (by decide) (by decide) fun a b => ?_
  simp only [settings, sameIn_iff, List.cons.injEq, Prod.mk.injEq, Option.some.injEq, true_and,
    and_true, numberText_inj]

end NewDescriptor

/-! ## Changes

A change tells a field that is to be emptied from one that is to be left.  So its texts are sent
also if they are empty, and so is the list of members. -/

namespace DescriptorChange

/-- Two changes agree in all that is changed.  Members that are to be changed agree as one text,
which is empty for none. -/
@[mk_iff]
structure SameIn (a b : DescriptorChange) : Prop where
  description : a.description = b.description
  status : termText a.status = termText b.status
  severity : termText a.severity = termText b.severity
  shareLevel : termText a.shareLevel = termText b.shareLevel
  privacyType : termText a.privacyType = termText b.privacyType
  privacyMembers : a.privacyMembers.map (String.intercalate ",") =
    b.privacyMembers.map (String.intercalate ",")
  expiredOn : a.expiredOn = b.expiredOn
  firstActive : a.firstActive = b.firstActive
  lastActive : a.lastActive = b.lastActive
  reviewStatus : termText a.reviewStatus = termText b.reviewStatus

/-- The settings of a change. -/
def settings (d : DescriptorChange) : List (String × Option String) :=
  [("description", d.description), ("status", termText d.status),
   ("severity", termText d.severity), ("share_level", termText d.shareLevel),
   ("privacy_type", termText d.privacyType),
   ("privacy_members", d.privacyMembers.map (String.intercalate ",")),
   ("expired_on", numberText d.expiredOn), ("first_active", numberText d.firstActive),
   ("last_active", numberText d.lastActive), ("review_status", termText d.reviewStatus)]

theorem toParams_eq (d : DescriptorChange) : d.toParams = Params.ofSettings d.settings := by
  have hmembers : d.privacyMembers.map ParamValue.joined =
      (d.privacyMembers.map (String.intercalate ",")).map ParamValue.single := by
    cases d.privacyMembers <;> rfl
  simp only [toParams, termParam_eq, intParam_eq, hmembers]
  rfl

theorem keeps : Params.Keeps toParams SameIn := by
  refine Params.keeps_of_settings settings ((settings default).map (·.1)) toParams_eq
    (fun _ => rfl) (by decide) (by decide) fun a b => ?_
  simp only [settings, sameIn_iff, List.cons.injEq, Prod.mk.injEq, true_and, and_true,
    numberText_inj]

end DescriptorChange

/-- **Parameters keep all fields.**  Two searches for descriptors or for indicators, two queries for
updates, two submissions or two changes have the same parameters if and only if they agree in every
field but the limit on the number of items.  None of their parameters is a page size or a token. -/
theorem Search.parameters_keep_fields :
    Params.Keeps DescriptorSearch.toParams DescriptorSearch.SameIn ∧
      Params.Keeps IndicatorSearch.toParams IndicatorSearch.SameIn ∧
      Params.Keeps UpdatesQuery.toParams UpdatesQuery.SameIn ∧
      Params.Keeps NewDescriptor.toParams NewDescriptor.SameIn ∧
      Params.Keeps DescriptorChange.toParams DescriptorChange.SameIn :=
  ⟨DescriptorSearch.keeps, IndicatorSearch.keeps, UpdatesQuery.keeps, NewDescriptor.keeps,
    DescriptorChange.keeps⟩

end ThreatGraph
