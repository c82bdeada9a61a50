import ThreatGraph.Proofs.Instant.Rereading
import ThreatGraph.Record.Indicator
import ThreatGraph.Record.Member
import ThreatGraph.Record.PrivacyGroup
import ThreatGraph.Record.Tag
import ThreatGraph.Record.Update

/-!
# Records, read again

A record is read leniently, from any JSON value, and written in one form.  Reading what was written
gives the record again (`records_read_again`), since each kind of field has this property:
`Field.Rereads` says that a value is read from what is written for it.

* Texts and truth values always have it.
* A number has it if it fits 64 bits, and a term if it was read from some text
  (`Field.nat_rereads`, `Field.term_rereads`).
* An instant that was read has it if its year needs no sign (`Field.instant_rereads`).
-/

set_option autoImplicit false

namespace ThreatGraph

/-! ## The fields of a record

The fields of a record are kept in key order, whatever the order in which they are listed.  Each is
found by its key as long as no two have the same. -/

/-- A record of fields with different keys has the value of each. -/
theorem Json.get?_record {fields : List (String × Json)} {keys : List String} (hkeys : keys.Nodup)
    (hfields : fields.map (·.1) = keys) :
    ∀ field ∈ fields, (Json.record fields).get? field.1 = some field.2 := by
  intro field hfield
  subst hfields
  rw [Json.record, Json.get?, Assoc.lookup?_ofPairs hkeys, Assoc.lookup?_of_mem hkeys hfield]

/-! ## The kinds of fields

What is known of a value is used for some kinds: a number fits 64 bits since it was read, a term was
made of some text, and an instant lies in the range of years since it was read.  A field that was
not read is written as `null`, and no kind takes this for a value. -/

namespace Field

section

variable {α : Type} {read? : Json → Option α} {write : α → Json}

/-- A value is read from what is written for it. -/
def Rereads (read? : Json → Option α) (write : α → Json) (a : α) : Prop :=
  read? (write a) = some a

/-- An optional field is read again if its value is, and `null` is read as none. -/
theorem bind_option {o : Option α} (h : ∀ a, o = some a → Rereads read? write a)
    (hnull : read? .null = none) : (some (Json.option write o)).bind read? = o := by
  cases o with
  | none => exact hnull
  | some a => exact h a rfl

end

theorem text_rereads (s : String) : Rereads textOf? Json.string s := rfl

theorem bool_rereads (b : Bool) : Rereads boolOf? Json.bool b := rfl

/-- A number that is read fits 64 bits. -/
theorem le_of_natOf? {value : Json} {n : Nat} (h : natOf? value = some n) : n ≤ maxUnsigned64 := by
  unfold natOf? at h
  split at h
  · next number =>
    cases number with
    | integer z =>
      rw [Number.unsigned64?] at h
      split at h
      · cases h
        omega
      · cases h
    | float x => cases h
  · unfold readUnsigned64? readUnsigned? at h
    obtain ⟨m, -, hm⟩ := Option.bind_eq_some_iff.1 h
    split at hm
    · cases hm
      assumption
    · cases hm
  · cases h

theorem nat_rereads {n : Nat} (h : n ≤ maxUnsigned64) : Rereads natOf? Json.nat n := by
  rw [Rereads, Json.nat, natOf?, Number.unsigned64?, if_pos (by omega), Int.toNat_natCast]

/-- The text of a term is the text that it was read from. -/
theorem text_ofText {α : Type} [Vocabulary α] (s : String) : (Term.ofText s : Term α).text = s := by
  rw [Term.ofText]
  split
  · next word hword =>
    have hwire := List.find?_some hword
    exact of_decide_eq_true hwire
  · rfl

/-- A term that was read is read again, known or not. -/
theorem term_rereads {α : Type} [Vocabulary α] {value : Json} {term : Term α}
    (h : Term.ofJson? value = some term) : Rereads Term.ofJson? Term.toJson term := by
  obtain ⟨s, -, rfl⟩ := Option.map_eq_some_iff.1 h
  rw [Rereads, Term.toJson, text_ofText]
  rfl

/-- An instant in a field was read from a text or made of a number of seconds. -/
theorem isPoint_of_instantOf? {value : Json} {t : Instant} (h : instantOf? value = some t) :
    t.IsPoint := by
  unfold instantOf? at h
  split at h
  · obtain ⟨seconds, -, hseconds⟩ := Option.bind_eq_some_iff.1 h
    exact Instant.isPoint_of_ofUnix? hseconds
  · exact Instant.isPoint_of_parse? h
  · cases h

/-- An instant is read again if its year needs no sign. -/
theorem instant_rereads {value : Json} {t : Instant} (h : instantOf? value = some t)
    (hyear : t.HasPlainYear) :
    Rereads instantOf? (fun t => .string t.text) t := by
  rw [Rereads, instantOf?]
  exact Instant.parse?_text (isPoint_of_instantOf? h) hyear

/-! ## What is written in a field

The same for a field of a record, one statement for each kind. -/

variable {key : String} {record value : Json}

theorem text_of_get? {s : String} (h : record.get? key = some (.string s)) :
    text key record = s := by
  rw [text, text?, h]
  rfl

theorem text?_of_get? {o : Option String} (h : record.get? key = some (textJson o)) :
    text? key record = o := by
  rw [text?, h]
  exact bind_option (fun s _ => text_rereads s) rfl

theorem bool?_of_get? {b : Bool} (h : record.get? key = some (.bool b)) :
    bool? key record = some b := by
  rw [bool?, h, Option.bind_some, bool_rereads]

theorem nat?_of_get? (h : record.get? key = some (.nat ((nat? key value).getD 0))) :
    (nat? key record).getD 0 = (nat? key value).getD 0 := by
  have hle : (nat? key value).getD 0 ≤ maxUnsigned64 := by
    cases hn : nat? key value with
    | none => exact Nat.zero_le _
    | some n =>
      obtain ⟨_, -, hread⟩ := Option.bind_eq_some_iff.1 hn
      exact le_of_natOf? hread
  rw [nat?, h, Option.bind_some, nat_rereads hle, Option.getD_some]

theorem term?_of_get? {α : Type} [Vocabulary α]
    (h : record.get? key = some (termJson (term? key value : Option (Term α)))) :
    (term? key record : Option (Term α)) = term? key value := by
  rw [term?, h]
  refine bind_option (fun term hterm => ?_) rfl
  obtain ⟨_, -, hread⟩ := Option.bind_eq_some_iff.1 hterm
  exact term_rereads hread

theorem instant?_of_get? (h : record.get? key = some (instantJson (instant? key value)))
    (hyear : ∀ t, instant? key value = some t → t.HasPlainYear) :
    instant? key record = instant? key value := by
  rw [instant?, h]
  refine bind_option (fun t ht => ?_) rfl
  obtain ⟨_, -, hread⟩ := Option.bind_eq_some_iff.1 ht
  exact instant_rereads hread (hyear t ht)

end Field

/-! ## Records

Each record is taken apart into its fields, and each field is one of the kinds above.  An indicator
and an update also hold the value that they were read from, which is another one the second time;
they are compared up to it. -/

theorem Tag.ofJson_toJson (value : Json) : ofJson (ofJson value).toJson = ofJson value := by
  have hkeys : ["id", "text", "tagged_objects_count"].Nodup := by decide
  have hfields : ∀ field : String × Json, field ∈ _ →
      (ofJson value).toJson.get? field.1 = some field.2 :=
    Json.get?_record hkeys rfl
  simp only [List.forall_mem_cons] at hfields
  obtain ⟨hid, htext, hcount, -⟩ := hfields
  generalize (ofJson value).toJson = record at *
  simp only [ofJson, Tag.mk.injEq] at *
  exact ⟨Field.text_of_get? hid, Field.text_of_get? htext, Field.nat?_of_get? hcount⟩

theorem PrivacyGroup.ofJson_toJson (value : Json) :
    ofJson (ofJson value).toJson = ofJson value := by
  have hkeys : ["id", "name", "description", "members_can_see", "members_can_use",
    "member_count"].Nodup := by decide
  have hfields : ∀ field : String × Json, field ∈ _ →
      (ofJson value).toJson.get? field.1 = some field.2 :=
    Json.get?_record hkeys rfl
  simp only [List.forall_mem_cons] at hfields
  obtain ⟨hid, hname, hdescription, hsee, huse, hcount, -⟩ := hfields
  generalize (ofJson value).toJson = record at *
  simp only [ofJson, PrivacyGroup.mk.injEq] at *
  refine ⟨Field.text_of_get? hid, Field.text_of_get? hname, Field.text_of_get? hdescription,
    ?_, ?_, Field.nat?_of_get? hcount⟩
  · rw [Field.bool?_of_get? hsee, Option.getD_some]
  · rw [Field.bool?_of_get? huse, Option.getD_some]

theorem Member.ofJson_toJson (value : Json) : ofJson (ofJson value).toJson = ofJson value := by
  have hkeys : ["id", "name", "email"].Nodup := by decide
  have hfields : ∀ field : String × Json, field ∈ _ →
      (ofJson value).toJson.get? field.1 = some field.2 :=
    Json.get?_record hkeys rfl
  simp only [List.forall_mem_cons] at hfields
  obtain ⟨hid, hname, hemail, -⟩ := hfields
  generalize (ofJson value).toJson = record at *
  simp only [ofJson, Member.mk.injEq] at *
  exact ⟨Field.text_of_get? hid, Field.text_of_get? hname, Field.text?_of_get? hemail⟩

theorem Indicator.toJson_withRaw (i : Indicator) (value : Json) :
    toJson { i with raw := value } = i.toJson := rfl

theorem Update.toJson_withRaw (u : Update) (value : Json) :
    toJson { u with raw := value } = u.toJson := rfl

/-- An indicator, up to the value that it was read from. -/
theorem Indicator.ofJson_toJson {value : Json}
    (hyears : ∀ t, (ofJson value).addedOn = some t ∨ (ofJson value).lastUpdated = some t →
      t.HasPlainYear) :
    { ofJson (ofJson value).toJson with raw := (ofJson value).raw } = ofJson value := by
  have hkeys : ["id", "indicator", "type", "added_on", "last_updated"].Nodup := by decide
  have hfields : ∀ field : String × Json, field ∈ _ →
      (ofJson value).toJson.get? field.1 = some field.2 :=
    Json.get?_record hkeys rfl
  simp only [List.forall_mem_cons] at hfields
  obtain ⟨hid, hindicator, htype, hadded, hupdated, -⟩ := hfields
  generalize (ofJson value).toJson = record at *
  simp only [ofJson, Indicator.mk.injEq] at *
  exact ⟨Field.text_of_get? hid, Field.text?_of_get? hindicator, Field.term?_of_get? htype,
    Field.instant?_of_get? hadded fun t h => hyears t (.inl h),
    Field.instant?_of_get? hupdated fun t h => hyears t (.inr h), trivial⟩

/-- An update, up to the value that it was read from. -/
theorem Update.ofJson_toJson {value : Json}
    (hyear : ∀ t, (ofJson value).time = some t → t.HasPlainYear) :
    { ofJson (ofJson value).toJson with raw := (ofJson value).raw } = ofJson value := by
  have hkeys : ["id", "type", "time", "should_delete"].Nodup := by decide
  have hfields : ∀ field : String × Json, field ∈ _ →
      (ofJson value).toJson.get? field.1 = some field.2 :=
    Json.get?_record hkeys rfl
  simp only [List.forall_mem_cons] at hfields
  obtain ⟨hid, htype, htime, hdelete, -⟩ := hfields
  generalize (ofJson value).toJson = record at *
  simp only [ofJson, Update.mk.injEq] at *
  refine ⟨Field.text_of_get? hid, Field.text?_of_get? htype, Field.instant?_of_get? htime hyear,
    ?_, trivial⟩
  rw [Field.bool?_of_get? hdelete, Option.getD_some]

/-- **Records, read again.**  Reading what is written for a record that was read from any JSON value
gives the record again, but for the whole of the value in it, if no instant in it needs a sign for
its year.  So writing it again gives the same. -/
theorem records_read_again (value : Json) :
    Tag.ofJson (Tag.ofJson value).toJson = Tag.ofJson value ∧
    PrivacyGroup.ofJson (PrivacyGroup.ofJson value).toJson = PrivacyGroup.ofJson value ∧
    Member.ofJson (Member.ofJson value).toJson = Member.ofJson value ∧
    (∀ i, Indicator.ofJson value = i →
      (∀ t, i.addedOn = some t ∨ i.lastUpdated = some t → t.HasPlainYear) →
        { Indicator.ofJson i.toJson with raw := i.raw } = i ∧
          (Indicator.ofJson i.toJson).toJson = i.toJson) ∧
    ∀ u, Update.ofJson value = u → (∀ t, u.time = some t → t.HasPlainYear) →
      { Update.ofJson u.toJson with raw := u.raw } = u ∧
        (Update.ofJson u.toJson).toJson = u.toJson := by
  refine ⟨Tag.ofJson_toJson value, PrivacyGroup.ofJson_toJson value, Member.ofJson_toJson value,
    ?_, ?_⟩
  · rintro i rfl hyears
    have hagain := Indicator.ofJson_toJson hyears
    refine ⟨hagain, ?_⟩
    rw [← Indicator.toJson_withRaw _ (Indicator.ofJson value).raw, hagain]
  · rintro u rfl hyear
    have hagain := Update.ofJson_toJson hyear
    refine ⟨hagain, ?_⟩
    rw [← Update.toJson_withRaw _ (Update.ofJson value).raw, hagain]

/-- An indicator with a number for its name, a type that is not known and a leap second. -/
def leapIndicator : Json :=
  .record [("id", .nat 7), ("type", .string "NEW_TYPE"),
    ("added_on", .string "2016-12-31T23:59:60.25Z")]

theorem leapIndicator_read_again : ∃ i, Indicator.ofJson leapIndicator = i ∧
    i.addedOn = some ⟨1483228799, 1250000000⟩ ∧ i.indicatorType = some (.raw "NEW_TYPE") ∧
      { Indicator.ofJson i.toJson with raw := i.raw } = i := by
  have hadded : (Indicator.ofJson leapIndicator).addedOn = some ⟨1483228799, 1250000000⟩ := by
    decide +kernel
  have hupdated : (Indicator.ofJson leapIndicator).lastUpdated = none := by decide +kernel
  refine ⟨_, rfl, hadded, by decide +kernel,
    ((records_read_again leapIndicator).2.2.2.1 _ rfl fun t ht => ?_).1⟩
  rcases ht with ht | ht
  · rw [hadded] at ht
    cases ht
    decide +kernel
  · rw [hupdated] at ht
    cases ht

end ThreatGraph
