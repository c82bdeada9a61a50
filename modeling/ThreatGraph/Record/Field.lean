import ThreatGraph.Instant.Reader
import ThreatGraph.Json
import ThreatGraph.Vocabulary

/-!
# Fields of records

Reading the fields of a JSON object leniently: a field that is not there, or that holds something
else than it should, is `none`. Numbers may be written as texts, and texts as numbers.
-/

set_option autoImplicit false

namespace ThreatGraph.Field

/-- A text, or a number as text. -/
def textOf? : Json → Option String
  | .string s => some s
  | .number n => some n.text
  | _ => none

/-- An unsigned number of 64 bits, or the text of one. -/
def natOf? : Json → Option Nat
  | .number n => n.unsigned64?
  | .string s => readUnsigned64? s
  | _ => none

/-- A truth value, or the text of one. -/
def boolOf? : Json → Option Bool
  | .bool b => some b
  | .string s => if s = "true" then some true else if s = "false" then some false else none
  | _ => none

/-- An instant: a number of seconds since the start of 1970, or a text that holds such a number or a
date and a time. -/
def instantOf? : Json → Option Instant
  | .number n => n.signed64?.bind Instant.ofUnix?
  | .string s => Instant.parse? s
  | _ => none

/-- A field that holds a text. -/
def text? (key : String) (value : Json) : Option String := (value.get? key).bind textOf?

/-- A field that holds a text, which is empty otherwise. -/
def text (key : String) (value : Json) : String := (text? key value).getD ""

/-- A field that holds an unsigned number. -/
def nat? (key : String) (value : Json) : Option Nat := (value.get? key).bind natOf?

/-- A field that holds a truth value. -/
def bool? (key : String) (value : Json) : Option Bool := (value.get? key).bind boolOf?

/-- A field that holds an instant. -/
def instant? (key : String) (value : Json) : Option Instant := (value.get? key).bind instantOf?

/-- A field that holds a term of a vocabulary. -/
def term? {α : Type} [Vocabulary α] (key : String) (value : Json) : Option (Term α) :=
  (value.get? key).bind Term.ofJson?

/-- An optional text as JSON. -/
def textJson : Option String → Json := Json.option Json.string

/-- An optional instant as JSON. -/
def instantJson : Option Instant → Json := Json.option fun t => .string t.text

/-- An optional term as JSON. -/
def termJson {α : Type} [Vocabulary α] : Option (Term α) → Json := Json.option Term.toJson

end ThreatGraph.Field
