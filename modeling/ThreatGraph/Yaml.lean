import ThreatGraph.Text.Numeral
import ThreatGraph.Text.Split
import ThreatGraph.Yaml.Lexer
import ThreatGraph.Yaml.Node

/-!
# Reading values from YAML

`Document.parse?` reads a text as a document, and the functions after it read nodes as values.

* A text may be any scalar.
* A number or a truth value has to be a plain scalar, or a literal one with the tag of its type.
* What is optional is absent where a plain scalar is empty or null.
* A record is a mapping, or a scalar without text for a record without fields. It may have fields
  that are not asked for, and may not repeat one that is.
-/

set_option autoImplicit false

namespace ThreatGraph.Yaml.Document

/-- The document of a text. -/
def parse? (text : String) : Option Document := do
  ofTokens? (← tokens? text)

/-- The text of a scalar. -/
def text? (d : Document) (node : Node) : Option String :=
  match d.resolve? node with
  | some (.scalar _ _ text) => some text
  | _ => none

/-- The text of a scalar that may hold a value of a type. -/
def typed? (d : Document) (type : String) (node : Node) : Option String :=
  match d.resolve? node with
  | some (.scalar .plain _ text) => some text
  | some (.scalar .literal tag text) =>
    if tag = some (coreTag ++ utf8Bytes type.toList) then some text else none
  | _ => none

/-- The truth value that a text denotes. -/
def truthValue? (text : String) : Option Bool :=
  if ["true", "True", "TRUE"].contains text then some true
  else if ["false", "False", "FALSE"].contains text then some false
  else none

/-- A truth value. -/
def bool? (d : Document) (node : Node) : Option Bool := do
  truthValue? (← d.typed? "bool" node)

/-- The number that digits after the letter of a base denote. -/
def basedNumber? : List Char → Option Nat
  | '0' :: 'x' :: digits => digitsValueIn? 16 digits
  | '0' :: 'o' :: digits => digitsValueIn? 8 digits
  | '0' :: 'b' :: digits => digitsValueIn? 2 digits
  | _ => none

/-- The number that digits denote, of which only a single one may be a leading zero. -/
def decimalNumber? : List Char → Option Nat
  | '0' :: _ :: _ => none
  | digits => digitsValue? digits

/-- The unsigned number of 64 bits that a text denotes. -/
def number? (text : String) : Option Nat := do
  let cs := text.toList
  let unsigned := (afterStart? ['+'] cs).getD cs
  let n ← basedNumber? unsigned <|> decimalNumber? unsigned
  if n ≤ maxUnsigned64 then some n else none

/-- An unsigned number of at most `limit`. -/
def nat? (limit : Nat) (d : Document) (node : Node) : Option Nat := do
  let n ← number? (← d.typed? "int" node)
  if n ≤ limit then some n else none

/-- Whether a text denotes the absence of a value. -/
def isNullText (text : String) : Bool := ["null", "Null", "NULL", "~"].contains text

/-- An optional value. -/
def optional? {α : Type} (read : Document → Node → Option α) (d : Document) (node : Node) :
    Option (Option α) :=
  match d.resolve? node with
  | some (.scalar .plain (some tag) text) =>
    if tag = coreTag ++ utf8Bytes "null".toList then
      if isNullText text then some none else none
    else (read d node).map some
  | some (.scalar .plain none text) =>
    if text = "" ∨ isNullText text then some none else (read d node).map some
  | some node => (read d node).map some
  | none => none

/-- The fields of a record, of those with the given names. -/
def record? (names : List String) (d : Document) (node : Node) :
    Option (List (String × Node)) :=
  match d.resolve? node with
  | some (.mapping entries) => do
    let fields ← entries.mapM fun entry => (d.text? entry.1).map (·, entry.2)
    let known := fields.filter fun field => names.contains field.1
    if (known.map Prod.fst).Nodup then some known else none
  | some (.scalar .plain _ "") => some []
  | _ => none

/-- The value of a field of a record, which is a given one if the field is not there. -/
def field? {α : Type} (d : Document) (fields : List (String × Node)) (name : String)
    (read : Document → Node → Option α) (absent : Option α) : Option α :=
  match fields.find? fun field => field.1 = name with
  | some (_, node) => read d node
  | none => absent

end ThreatGraph.Yaml.Document
