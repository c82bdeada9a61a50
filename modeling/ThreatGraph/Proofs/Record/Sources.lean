import ThreatGraph.Record.Descriptor

/-!
# Where a descriptor has its indicator

The indicator of a descriptor stands in one of three places: in an object, as a text in the place of
the object, or as a text beside it.

* `Descriptor.Source` lists the places in the order of their rank, and `Descriptor.firstIndicator?`
  is the indicator at the first place that has one.
* `Descriptor.indicator_first_unless_hidden` says that this is the indicator of the descriptor,
  unless an object without an indicator hides the text beside it.
-/

set_option autoImplicit false

namespace ThreatGraph.Descriptor

/-! ## Places

Where the program looks for an indicator depends on what stands under one key.  Here each place is
given by itself, with what counts as an indicator there, and the ranking says which place comes
first. -/

/-- A place where an indicator may stand. -/
inductive Source where
  | inObject
  | asText
  | beside
  deriving DecidableEq, Repr

/-- The places, the one that is asked first in front. -/
def Source.ranking : List Source := [.inObject, .asText, .beside]

/-- The indicator that stands in a place: a text or a number, or in the place of the object a text
that is not empty. -/
def Source.read? (value : Json) : Source → Option String
  | .inObject => (value.get? "indicator").bind (Field.text? "indicator")
  | .asText => ((value.get? "indicator").bind Json.asString?).filter (· ≠ "")
  | .beside => Field.text? "raw_indicator" value

/-- The indicator at the first place that has one. -/
def firstIndicator? (value : Json) : Option String := Source.ranking.findSome? (Source.read? value)

theorem firstIndicator?_eq (value : Json) : firstIndicator? value =
    ((Source.read? value .inObject).or (Source.read? value .asText)).or
      (Source.read? value .beside) := by
  rw [firstIndicator?, Source.ranking]
  cases h : Source.read? value .inObject <;> cases h' : Source.read? value .asText <;>
    cases h'' : Source.read? value .beside <;> simp [h, h', h'']

/-- There is no indicator where no place has one. -/
theorem firstIndicator?_eq_none_iff {value : Json} :
    firstIndicator? value = none ↔ ∀ source, Source.read? value source = none := by
  rw [firstIndicator?, List.findSome?_eq_none_iff]
  refine ⟨fun h source => h source ?_, fun h source _ => h source⟩
  cases source <;> simp [Source.ranking]

/-! ## The indicator of a descriptor

The ranking and the program differ in one case.  If an object stands in the place of the indicator,
the program asks that object and nothing else. -/

variable {value : Json}

/-- Only an object has an indicator in it, and it is no text. -/
theorem read?_of_object {fields : List (String × Json)}
    (h : value.get? "indicator" = some (.object fields)) :
    Source.read? value .inObject = Field.text? "indicator" (.object fields) ∧
      Source.read? value .asText = none := by
  simp [Source.read?, h, Json.asString?]

/-- In an object only the object is asked. -/
theorem indicatorOf?_of_object {fields : List (String × Json)}
    (h : value.get? "indicator" = some (.object fields)) :
    indicatorOf? value = Source.read? value .inObject := by
  rw [indicatorOf?, h, (read?_of_object h).1]

/-- Without an object the first place counts. -/
theorem indicatorOf?_of_no_object (h : ∀ fields, value.get? "indicator" ≠ some (.object fields)) :
    indicatorOf? value = firstIndicator? value := by
  rw [firstIndicator?_eq, indicatorOf?]
  simp only [Source.read?]
  cases hget : value.get? "indicator" with
  | none => rfl
  | some inner =>
    cases inner with
    | object fields => exact absurd hget (h fields)
    | string s =>
      by_cases hs : s = ""
      · subst hs
        rfl
      · have hinner : Field.text? "indicator" (.string s) = none := rfl
        simp [hinner, Json.asString?, Option.filter, hs]
    | _ => rfl

/-- An object in the place of the indicator has none in it, and there is one beside it. -/
structure IsHidden (value : Json) : Prop where
  object : ∃ fields, value.get? "indicator" = some (.object fields)
  inObject : Source.read? value .inObject = none
  beside : (Source.read? value .beside).isSome = true

/-- A hidden indicator is lost. -/
theorem IsHidden.indicator (h : IsHidden value) :
    (ofJson value).indicator = none ∧ firstIndicator? value ≠ none := by
  obtain ⟨⟨fields, hobject⟩, hnone, hbeside⟩ := h
  refine ⟨(indicatorOf?_of_object hobject).trans hnone, ?_⟩
  rw [firstIndicator?_eq, hnone, (read?_of_object hobject).2, Option.none_or, Option.none_or]
  exact Option.isSome_iff_ne_none.1 hbeside

/-- An indicator that is not hidden is found. -/
theorem indicator_of_not_hidden (h : ¬ IsHidden value) :
    (ofJson value).indicator = firstIndicator? value := by
  change indicatorOf? value = firstIndicator? value
  by_cases hobject : ∃ fields, value.get? "indicator" = some (.object fields)
  · obtain ⟨fields, hfields⟩ := hobject
    rw [indicatorOf?_of_object hfields, firstIndicator?_eq, (read?_of_object hfields).2,
      Option.or_none]
    cases hinner : Source.read? value .inObject with
    | some s => rfl
    | none =>
      cases hbeside : Source.read? value .beside with
      | none => rfl
      | some s => exact absurd ⟨⟨fields, hfields⟩, hinner, by rw [hbeside]; rfl⟩ h
  · exact indicatorOf?_of_no_object fun fields hfields => hobject ⟨fields, hfields⟩

/-- **The first indicator counts, unless it is hidden.**  The indicator of the descriptor in any
JSON value is the one at the first place that has one, if and only if it is not hidden behind an
object.  There is none where it is hidden, or where no place has one. -/
theorem indicator_first_unless_hidden (value : Json) :
    ((ofJson value).indicator = firstIndicator? value ↔ ¬ IsHidden value) ∧
    ((ofJson value).indicator = none ↔
      IsHidden value ∨ ∀ source, Source.read? value source = none) := by
  rw [← firstIndicator?_eq_none_iff]
  by_cases hhidden : IsHidden value
  · obtain ⟨hnone, hfirst⟩ := hhidden.indicator
    rw [hnone]
    exact ⟨⟨fun heq => absurd heq.symm hfirst, fun hnot => absurd hhidden hnot⟩,
      ⟨fun _ => .inl hhidden, fun _ => rfl⟩⟩
  · rw [indicator_of_not_hidden hhidden]
    exact ⟨⟨fun _ => hhidden, fun _ => rfl⟩,
      ⟨.inr, fun h => h.resolve_left hhidden⟩⟩

/-- A descriptor of an indicator that is given by its number, with its text beside it. -/
def numberedDescriptor : Json :=
  .record [("id", .string "1"), ("indicator", .record [("id", .string "987")]),
    ("raw_indicator", .string "evil.example.com")]

theorem numberedDescriptor_loses_indicator :
    (ofJson numberedDescriptor).indicator = none ∧
      firstIndicator? numberedDescriptor = some "evil.example.com" := by
  decide +kernel

end ThreatGraph.Descriptor
