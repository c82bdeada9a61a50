import ThreatGraph.Json
import ThreatGraph.Text.Split

/-!
# Vocabularies

Fields whose values are words of a fixed list, to which the service adds over time. A vocabulary is
such a list; a term of it (`Term`) is a word that is on the list, or the text of one that is not.

* `Vocabulary.ofWire?` finds the word of a text.
* `Term.ofText` reads any text, and `Term.text` writes it back as it was.
* `Vocabulary.parse` reads a word and refuses other texts.
* `Vocabulary.title` is the name of a word in mixed case.
-/

set_option autoImplicit false

namespace ThreatGraph

/-- A type whose values are the words of a vocabulary: its name, its words in order, and the text
of each word. -/
class Vocabulary (α : Type) where
  name : String
  all : List α
  wire : α → String

namespace Vocabulary

variable {α : Type} [Vocabulary α]

/-- The word of a text. -/
def ofWire? (text : String) : Option α := all.find? fun word : α => wire word = text

/-- The word of a text, or a message that there is none. -/
def parse (text : String) : Except String α :=
  match ofWire? text with
  | some word => .ok word
  | none => .error ("unknown " ++ name α ++ " value: " ++ text)

/-- A part of a text in upper case, as it stands in the name of a word. -/
def titlePart (part : List Char) : List Char :=
  match part with
  | [] => []
  | c :: cs => (if isDigit c then ['_', c] else [c]) ++ cs.map Char.toLower

/-- The name of a word: its text in mixed case, with an underscore left only before a digit. -/
def title (word : α) : String :=
  String.ofList ((splitOn '_' (wire word).toList).flatMap titlePart)

end Vocabulary

/-- A word of a vocabulary, or the text of a word that is not known. -/
inductive Term (α : Type) where
  | known (word : α)
  | raw (text : String)
  deriving DecidableEq, Repr, Inhabited

namespace Term

variable {α : Type} [Vocabulary α]

/-- The term of a text. -/
def ofText (text : String) : Term α :=
  match Vocabulary.ofWire? text with
  | some word => .known word
  | none => .raw text

/-- The text of a term. -/
def text : Term α → String
  | .known word => Vocabulary.wire word
  | .raw text => text

/-- The word of a term that is known. -/
def word? : Term α → Option α
  | .known word => some word
  | .raw _ => none

/-- A term as JSON. -/
def toJson (t : Term α) : Json := .string t.text

/-- A term from JSON, which has to be a string. -/
def ofJson? (value : Json) : Option (Term α) := value.asString?.map ofText

end Term

end ThreatGraph
