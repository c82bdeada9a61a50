import Mathlib.Data.List.Nodup
import ThreatGraph.Proofs.Json.Rereading
import ThreatGraph.Proofs.Record.Rereading
import ThreatGraph.Words

/-!
# Terms of the vocabularies

A term keeps the text that it was made of, and it is a known word exactly if the text is that of the
word.  So two terms are equal only if their texts are, and what is written for a term is read as the
term again.

All of this follows from two facts about a table of words (`Vocabulary.IsTable`): each word is in
it, and no two words have the same text.  `Vocabulary.IsTable.isCanonical` draws the conclusions,
and `Vocabulary.words_canonical` says that the seven vocabularies are such tables.
-/

set_option autoImplicit false

namespace ThreatGraph

variable {α : Type} [Vocabulary α]

/-- A term is read again from its JSON value, and from the text of that value. -/
structure Term.IsReread (t : Term α) : Prop where
  value : ofJson? t.toJson = some t
  text : (Json.parse? t.toJson.compact).bind ofJson? = some t

namespace Vocabulary

/-- All words are listed, and their texts differ. -/
structure IsTable (α : Type) [Vocabulary α] : Prop where
  complete : ∀ word : α, word ∈ (all : List α)
  nodup : ((all : List α).map wire).Nodup

/-- The texts and the terms of a vocabulary correspond. -/
structure IsCanonical (α : Type) [Vocabulary α] : Prop where
  /-- A term has the text that it was made of. -/
  text : ∀ s, (Term.ofText s : Term α).text = s
  /-- Its JSON value is that text. -/
  toJson : ∀ s, (Term.ofText s : Term α).toJson = .string s
  /-- It is made of the JSON value of its text as it is of the text, and of no other value. -/
  ofJson : ∀ (v : Json) (t : Term α), Term.ofJson? v = some t ↔ ∃ s, v = .string s ∧ t = .ofText s
  /-- It is a known word exactly if the text is that of the word. -/
  known : ∀ s (word : α), Term.ofText s = .known word ↔ s = wire word
  /-- A word is read from the same texts. -/
  parse : ∀ s (word : α), parse s = .ok word ↔ s = wire word
  /-- Other texts are refused. -/
  refused : ∀ s, (∀ word : α, s ≠ wire word) →
    (Vocabulary.parse s : Except String α) = .error ("unknown " ++ name α ++ " value: " ++ s)
  /-- Terms are equal exactly if their texts are. -/
  ofText_inj : ∀ s s', (Term.ofText s : Term α) = .ofText s' ↔ s = s'
  /-- Words are equal exactly if their texts are. -/
  wire_inj : ∀ word word' : α, wire word = wire word' ↔ word = word'
  /-- A term that was made of a text is read again. -/
  rereads_ofText : ∀ s, (Term.ofText s : Term α).IsReread
  /-- So is a known word. -/
  rereads_known : ∀ word : α, (Term.known word).IsReread

theorem IsTable.wire_injective (h : IsTable α) : Function.Injective (wire : α → String) :=
  fun word word' heq => List.inj_on_of_nodup_map h.nodup (h.complete word) (h.complete word') heq

/-- The word of a text is the one that has the text. -/
theorem IsTable.ofWire?_eq_some_iff (h : IsTable α) {s : String} {word : α} :
    ofWire? s = some word ↔ s = wire word := by
  refine ⟨fun hfound => ?_, ?_⟩
  · have hwire := List.find?_some hfound
    exact (of_decide_eq_true hwire).symm
  · rintro rfl
    cases hfound : (ofWire? (wire word) : Option α) with
    | none =>
      have hne := List.find?_eq_none.1 hfound word (h.complete word)
      exact absurd (decide_eq_true rfl) hne
    | some found =>
      have hwire := List.find?_some hfound
      rw [h.wire_injective (of_decide_eq_true hwire)]

theorem IsTable.ofText_eq_known_iff (h : IsTable α) {s : String} {word : α} :
    Term.ofText s = .known word ↔ s = wire word := by
  rw [← h.ofWire?_eq_some_iff, Term.ofText]
  cases (ofWire? s : Option α) <;> simp

theorem parse_eq_ok_iff {s : String} {word : α} : parse s = .ok word ↔ ofWire? s = some word := by
  rw [parse]
  cases (ofWire? s : Option α) <;> simp

theorem ofJson?_eq_some_iff {v : Json} {t : Term α} :
    Term.ofJson? v = some t ↔ ∃ s, v = .string s ∧ t = .ofText s := by
  cases v <;> simp [Term.ofJson?, Json.asString?, eq_comm]

/-- A term is read again if it is the term of its own text. -/
theorem isReread_of_ofText {t : Term α} (h : .ofText t.text = t) : t.IsReread where
  value := congrArg some h
  text := by
    rw [Term.toJson, Json.parse?_compact (.string t.text) (.string t.text)]
    exact congrArg some h

/-- **A table of words is canonical.** -/
theorem IsTable.isCanonical (h : IsTable α) : IsCanonical α where
  text := Field.text_ofText
  toJson := fun s => congrArg Json.string (Field.text_ofText s)
  ofJson := fun _ _ => ofJson?_eq_some_iff
  known := fun _ _ => h.ofText_eq_known_iff
  parse := fun _ _ => parse_eq_ok_iff.trans h.ofWire?_eq_some_iff
  refused := fun s hs => by
    cases hfound : (ofWire? s : Option α) with
    | none => rw [Vocabulary.parse, hfound]
    | some word => exact absurd (h.ofWire?_eq_some_iff.1 hfound) (hs word)
  ofText_inj := fun s s' => by
    refine ⟨fun heq => ?_, congrArg _⟩
    rw [← Field.text_ofText (α := α) s, heq, Field.text_ofText]
  wire_inj := fun _ _ => h.wire_injective.eq_iff
  rereads_ofText := fun s => isReread_of_ofText (congrArg _ (Field.text_ofText s))
  rereads_known := fun _ => isReread_of_ofText (h.ofText_eq_known_iff.2 rfl)

/-! ## The vocabularies of the service

Each vocabulary has to be checked for the two facts only.  Both are about a finite table of words,
and are decided by going through it. -/

theorem isTable_indicatorType : IsTable IndicatorType where
  complete := fun word => by cases word <;> decide
  nodup := by decide +kernel

theorem isTable_status : IsTable Status where
  complete := fun word => by cases word <;> decide
  nodup := by decide +kernel

theorem isTable_severity : IsTable Severity where
  complete := fun word => by cases word <;> decide
  nodup := by decide +kernel

theorem isTable_shareLevel : IsTable ShareLevel where
  complete := fun word => by cases word <;> decide
  nodup := by decide +kernel

theorem isTable_reviewStatus : IsTable ReviewStatus where
  complete := fun word => by cases word <;> decide
  nodup := by decide +kernel

theorem isTable_privacyType : IsTable PrivacyType where
  complete := fun word => by cases word <;> decide
  nodup := by decide +kernel

theorem isTable_precisionType : IsTable PrecisionType where
  complete := fun word => by cases word <;> decide
  nodup := by decide +kernel

/-- **Terms keep their texts.**  In each of the seven vocabularies the texts and the terms
correspond. -/
theorem words_canonical : IsCanonical IndicatorType ∧ IsCanonical Status ∧ IsCanonical Severity ∧
    IsCanonical ShareLevel ∧ IsCanonical ReviewStatus ∧ IsCanonical PrivacyType ∧
    IsCanonical PrecisionType :=
  ⟨isTable_indicatorType.isCanonical, isTable_status.isCanonical, isTable_severity.isCanonical,
    isTable_shareLevel.isCanonical, isTable_reviewStatus.isCanonical,
    isTable_privacyType.isCanonical, isTable_precisionType.isCanonical⟩

end Vocabulary

end ThreatGraph
