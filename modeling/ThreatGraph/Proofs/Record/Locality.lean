import ThreatGraph.Proofs.Record.Columns
import ThreatGraph.Record.Descriptor
import ThreatGraph.Record.Indicator
import ThreatGraph.Record.Member
import ThreatGraph.Record.PrivacyGroup
import ThreatGraph.Record.Tag
import ThreatGraph.Record.Update

/-!
# The columns of the records

Each of the six records has a list of columns that says which member each of its fields is read
from, as what, and what the field holds without it.  `records_are_local` says that the records are
read as these lists say, so that a fault in one member does not spread to the fields of another.

The indicator of a descriptor is the one field that is read from two members, and so it is in none
of the columns.
-/

set_option autoImplicit false

namespace ThreatGraph

/-! ## Kinds of columns

The fields of the six records are of a few kinds, and a column of each kind is followed by what
reads a field of that kind.  For each record what is left to say is then which columns it has. -/

namespace Column

variable {R : Type} {ofJson : Json → R} {key : String}

/-- A text that may be missing. -/
def text (key : String) (field : R → Option String) : Column R :=
  optional key [] Field.textOf? field

/-- A text that is empty if it is missing. -/
def word (key : String) (field : R → String) : Column R := ⟨field, key, [], Field.textOf?, ""⟩

/-- A number that is zero if it is missing. -/
def count (key : String) (field : R → Nat) : Column R := ⟨field, key, [], Field.natOf?, 0⟩

/-- A truth value, with the one that holds if it is missing. -/
def switch (key : String) (absent : Bool) (field : R → Bool) : Column R :=
  ⟨field, key, [], Field.boolOf?, absent⟩

/-- A term that may be missing. -/
def term {α : Type} [Vocabulary α] (key : String) (field : R → Option (Term α)) : Column R :=
  optional key [] Term.ofJson? field

/-- An instant that may be missing. -/
def instant (key : String) (field : R → Option Instant) : Column R :=
  optional key [] Field.instantOf? field

/-- A path of one key leads to the member of the key. -/
theorem at?_member (key : String) (v : Json) : v.at? [key] = v.get? key := by
  change (v.get? key).bind some = v.get? key
  exact Option.bind_fun_some _

theorem follows_text {field : R → Option String} (h : ∀ v, field (ofJson v) = Field.text? key v) :
    (text key field).Follows ofJson :=
  follows_optional fun v => by rw [h, at?_member, Field.text?]

theorem follows_word {field : R → String} (h : ∀ v, field (ofJson v) = Field.text key v) :
    (word key field).Follows ofJson := by
  intro v
  change field (ofJson v) = ((v.at? [key]).bind Field.textOf?).getD ""
  rw [h, at?_member, Field.text, Field.text?]

theorem follows_count {field : R → Nat}
    (h : ∀ v, field (ofJson v) = (Field.nat? key v).getD 0) : (count key field).Follows ofJson := by
  intro v
  change field (ofJson v) = ((v.at? [key]).bind Field.natOf?).getD 0
  rw [h, at?_member, Field.nat?]

theorem follows_switch {absent : Bool} {field : R → Bool}
    (h : ∀ v, field (ofJson v) = (Field.bool? key v).getD absent) :
    (switch key absent field).Follows ofJson := by
  intro v
  change field (ofJson v) = ((v.at? [key]).bind Field.boolOf?).getD absent
  rw [h, at?_member, Field.bool?]

theorem follows_term {α : Type} [Vocabulary α] {field : R → Option (Term α)}
    (h : ∀ v, field (ofJson v) = Field.term? key v) : (term key field).Follows ofJson :=
  follows_optional fun v => by rw [h, at?_member, Field.term?]

theorem follows_instant {field : R → Option Instant}
    (h : ∀ v, field (ofJson v) = Field.instant? key v) : (instant key field).Follows ofJson :=
  follows_optional fun v => by rw [h, at?_member, Field.instant?]

end Column

/-! ## The records

Each list of columns is compared with the record field by field, by the kind of each column.  That
no field is left out is part of `IsLocal`: a record is determined by its columns, by its fields that
are read from several members, and by the whole value where it keeps it. -/

namespace Tag

/-- The fields of a tag. -/
def columns : List (Column Tag) :=
  [.word "id" Tag.id, .word "text" Tag.text,
   .count "tagged_objects_count" Tag.taggedObjectsCount]

theorem isLocal : IsLocal ofJson (fun _ => none) columns [] := by
  refine .of_follows ?_ nofun nofun fun r s h _ => ?_
  · simp only [columns, List.forall_mem_cons]
    exact ⟨Column.follows_word fun _ => rfl, Column.follows_word fun _ => rfl,
      Column.follows_count fun _ => rfl, nofun⟩
  · simp only [columns, List.map_cons, List.map_nil, List.append_nil, List.forall_mem_cons] at h
    obtain ⟨hid, htext, hcount, -⟩ := h
    cases r
    cases s
    exact (mk.injEq ..).mpr ⟨hid, htext, hcount⟩

end Tag

namespace PrivacyGroup

/-- The fields of a privacy group, whose members may see and use it unless it says otherwise. -/
def columns : List (Column PrivacyGroup) :=
  [.word "id" PrivacyGroup.id, .word "name" PrivacyGroup.name,
   .word "description" PrivacyGroup.description,
   .switch "members_can_see" true PrivacyGroup.membersCanSee,
   .switch "members_can_use" true PrivacyGroup.membersCanUse,
   .count "member_count" PrivacyGroup.memberCount]

theorem isLocal : IsLocal ofJson (fun _ => none) columns [] := by
  refine .of_follows ?_ nofun nofun fun r s h _ => ?_
  · simp only [columns, List.forall_mem_cons]
    exact ⟨Column.follows_word fun _ => rfl, Column.follows_word fun _ => rfl,
      Column.follows_word fun _ => rfl, Column.follows_switch fun _ => rfl,
      Column.follows_switch fun _ => rfl, Column.follows_count fun _ => rfl, nofun⟩
  · simp only [columns, List.map_cons, List.map_nil, List.append_nil, List.forall_mem_cons] at h
    obtain ⟨hid, hname, hdescription, hsee, huse, hcount, -⟩ := h
    cases r
    cases s
    exact (mk.injEq ..).mpr ⟨hid, hname, hdescription, hsee, huse, hcount⟩

end PrivacyGroup

namespace Member

/-- The fields of a member. -/
def columns : List (Column Member) :=
  [.word "id" Member.id, .word "name" Member.name, .text "email" Member.email]

theorem isLocal : IsLocal ofJson (fun _ => none) columns [] := by
  refine .of_follows ?_ nofun nofun fun r s h _ => ?_
  · simp only [columns, List.forall_mem_cons]
    exact ⟨Column.follows_word fun _ => rfl, Column.follows_word fun _ => rfl,
      Column.follows_text fun _ => rfl, nofun⟩
  · simp only [columns, List.map_cons, List.map_nil, List.append_nil, List.forall_mem_cons] at h
    obtain ⟨hid, hname, hemail, -⟩ := h
    cases r
    cases s
    exact (mk.injEq ..).mpr ⟨hid, hname, hemail⟩

end Member

namespace Indicator

/-- The fields of an indicator. -/
def columns : List (Column Indicator) :=
  [.word "id" Indicator.id, .text "indicator" Indicator.indicator,
   .term "type" Indicator.indicatorType, .instant "added_on" Indicator.addedOn,
   .instant "last_updated" Indicator.lastUpdated]

theorem isLocal : IsLocal ofJson (fun i => some i.raw) columns [] := by
  refine .of_follows ?_ nofun (fun v value h => (Option.some.inj h).symm) fun r s h hraw => ?_
  · simp only [columns, List.forall_mem_cons]
    exact ⟨Column.follows_word fun _ => rfl, Column.follows_text fun _ => rfl,
      Column.follows_term fun _ => rfl, Column.follows_instant fun _ => rfl,
      Column.follows_instant fun _ => rfl, nofun⟩
  · simp only [columns, List.map_cons, List.map_nil, List.append_nil, List.forall_mem_cons] at h
    obtain ⟨hid, hindicator, htype, hadded, hupdated, -⟩ := h
    cases r
    cases s
    exact (mk.injEq ..).mpr ⟨hid, hindicator, htype, hadded, hupdated, Option.some.inj hraw⟩

end Indicator

namespace Update

/-- The fields of an update. -/
def columns : List (Column Update) :=
  [.word "id" Update.id, .text "type" Update.updateType, .instant "time" Update.time,
   .switch "should_delete" false Update.shouldDelete]

theorem isLocal : IsLocal ofJson (fun u => some u.raw) columns [] := by
  refine .of_follows ?_ nofun (fun v value h => (Option.some.inj h).symm) fun r s h hraw => ?_
  · simp only [columns, List.forall_mem_cons]
    exact ⟨Column.follows_word fun _ => rfl, Column.follows_text fun _ => rfl,
      Column.follows_instant fun _ => rfl, Column.follows_switch fun _ => rfl, nofun⟩
  · simp only [columns, List.map_cons, List.map_nil, List.append_nil, List.forall_mem_cons] at h
    obtain ⟨hid, htype, htime, hdelete, -⟩ := h
    cases r
    cases s
    exact (mk.injEq ..).mpr ⟨hid, htype, htime, hdelete, Option.some.inj hraw⟩

end Update

/-! ## Descriptors

A descriptor has columns of two more kinds: the texts of its owner stand a level deeper, and so does
the list of its tags.  Of the list each entry makes a text, so that a tag that cannot be read leaves
an empty text in its place. -/

namespace Descriptor

/-- A text of the owner of a descriptor. -/
def ownerColumn (key : String) (field : Descriptor → Option String) : Column Descriptor :=
  .optional "owner" [key] Field.textOf? field

/-- The texts of a list of tags, one for each. -/
def tagTexts? (value : Json) : Option (List String) :=
  value.asArray?.map fun tags => tags.map (Field.text "text")

/-- The fields of a descriptor, but for the indicator. -/
def columns : List (Column Descriptor) :=
  [.word "id" Descriptor.id, .term "type" Descriptor.indicatorType,
   .term "status" Descriptor.status, .term "severity" Descriptor.severity,
   .term "share_level" Descriptor.shareLevel, .text "description" Descriptor.description,
   ownerColumn "id" Descriptor.ownerId, ownerColumn "name" Descriptor.ownerName,
   ownerColumn "email" Descriptor.ownerEmail, .term "privacy_type" Descriptor.privacyType,
   .term "review_status" Descriptor.reviewStatus, .term "precision" Descriptor.precision,
   .instant "added_on" Descriptor.addedOn, .instant "last_updated" Descriptor.lastUpdated,
   .instant "expired_on" Descriptor.expiredOn, .instant "first_active" Descriptor.firstActive,
   .instant "last_active" Descriptor.lastActive, ⟨Descriptor.tags, "tags", ["data"], tagTexts?, []⟩,
   ⟨Descriptor.reactions, "reactions", [], Json.asObject?, []⟩]

/-- The indicator of a descriptor is read from two members. -/
def indicatorField : KeyedField Descriptor := ⟨Descriptor.indicator, ["indicator", "raw_indicator"]⟩

/-- A text of the owner is read from the member of the owner, if that is an object. -/
theorem follows_owner {key : String} {field : Descriptor → Option String}
    (h : ∀ v, field (ofJson v) = Field.text? key (ownerOf v)) :
    (ownerColumn key field).Follows ofJson := by
  refine Column.follows_optional fun v => ?_
  rw [h, ownerOf, Json.at?, Field.text?]
  cases v.get? "owner" with
  | none => rfl
  | some owner => rw [Option.bind_some, Column.at?_member, Option.getD_some]

/-- The tags are the texts of a list, or there are none. -/
theorem tags_ofJson (v : Json) :
    (ofJson v).tags = ((v.at? ["tags", "data"]).bind tagTexts?).getD [] := by
  change ((((v.get? "tags").bind (·.get? "data")).bind Json.asArray?).getD []).map _ = _
  have hpath : v.at? ["tags", "data"] = (v.get? "tags").bind (·.get? "data") := by
    rw [Json.at?]
    exact congrArg _ (funext fun tags => Column.at?_member "data" tags)
  rw [hpath]
  cases (v.get? "tags").bind (·.get? "data") with
  | none => rfl
  | some tags => cases tags <;> rfl

/-- Values that agree in the two members have the same indicator. -/
theorem indicator_reads_keys (v w : Json)
    (h : ∀ key ∈ indicatorField.keys, v.get? key = w.get? key) :
    (ofJson v).indicator = (ofJson w).indicator := by
  change indicatorOf? v = indicatorOf? w
  have hbeside : Field.text? "raw_indicator" v = Field.text? "raw_indicator" w := by
    rw [Field.text?, Field.text?, h _ (by decide)]
  rw [indicatorOf?, indicatorOf?, h "indicator" (by decide), hbeside]

theorem isLocal : IsLocal ofJson (fun d => some d.raw) columns [indicatorField] := by
  refine .of_follows ?_ ?_ (fun v value h => (Option.some.inj h).symm) fun r s h hraw => ?_
  · simp only [columns, List.forall_mem_cons]
    refine ⟨Column.follows_word fun _ => rfl, Column.follows_term fun _ => rfl,
      Column.follows_term fun _ => rfl, Column.follows_term fun _ => rfl,
      Column.follows_term fun _ => rfl, Column.follows_text fun _ => rfl,
      follows_owner fun _ => rfl, follows_owner fun _ => rfl, follows_owner fun _ => rfl,
      Column.follows_term fun _ => rfl, Column.follows_term fun _ => rfl,
      Column.follows_term fun _ => rfl, Column.follows_instant fun _ => rfl,
      Column.follows_instant fun _ => rfl, Column.follows_instant fun _ => rfl,
      Column.follows_instant fun _ => rfl, Column.follows_instant fun _ => rfl, tags_ofJson,
      fun v => ?_, nofun⟩
    change reactionsOf v = ((v.at? ["reactions"]).bind Json.asObject?).getD []
    rw [Column.at?_member, reactionsOf]
  · intro f hf v w hget
    obtain rfl := List.mem_singleton.1 hf
    exact indicator_reads_keys v w hget
  · simp only [columns, List.map_cons, List.map_nil, List.cons_append, List.nil_append,
      List.forall_mem_cons] at h
    obtain ⟨hid, htype, hstatus, hseverity, hlevel, hdescription, hownerId, hownerName, hownerEmail,
      hprivacy, hreview, hprecision, hadded, hupdated, hexpired, hfirst, hlast, htags, hreactions,
      hindicator, -⟩ := h
    cases r
    cases s
    exact (mk.injEq ..).mpr ⟨hid, hindicator, htype, hstatus, hseverity, hlevel, hdescription,
      hownerId, hownerName, hownerEmail, hprivacy, hreview, hprecision, hadded, hupdated, hexpired,
      hfirst, hlast, htags, hreactions, Option.some.inj hraw⟩

end Descriptor

/-- **Records are read member by member.**  Each field in a column holds what is read at its place.
To set, replace or remove a member of a JSON value changes only the fields that have its key in
their column, and the whole value where the record keeps it.  A field whose value is missing or
cannot be read holds the default of its column, and this has no bearing on the others.  The
indicator of a descriptor depends on two members and on no other.  The tags of a descriptor are the
texts of the tags in the value, one for each, in order. -/
theorem records_are_local :
    IsLocal Tag.ofJson (fun _ => none) Tag.columns [] ∧
      IsLocal PrivacyGroup.ofJson (fun _ => none) PrivacyGroup.columns [] ∧
      IsLocal Member.ofJson (fun _ => none) Member.columns [] ∧
      IsLocal Indicator.ofJson (fun i => some i.raw) Indicator.columns [] ∧
      IsLocal Descriptor.ofJson (fun d => some d.raw) Descriptor.columns
        [Descriptor.indicatorField] ∧
      IsLocal Update.ofJson (fun u => some u.raw) Update.columns [] ∧
      ∀ v tags, v.at? ["tags", "data"] = some (.array tags) →
        (Descriptor.ofJson v).tags = tags.map fun tag => (Field.text? "text" tag).getD "" := by
  refine ⟨Tag.isLocal, PrivacyGroup.isLocal, Member.isLocal, Indicator.isLocal, Descriptor.isLocal,
    Update.isLocal, fun v tags htags => ?_⟩
  rw [Descriptor.tags_ofJson, htags]
  rfl

end ThreatGraph
