import ThreatGraph.Assoc
import ThreatGraph.Decimal.Binary64
import ThreatGraph.Text.Numeral

/-!
# JSON values

The data that the service sends and receives. A number is a whole number that fits 64 bits, signed
or unsigned, or else a floating-point number. The fields of an object are kept in key order.

Reading a member or an element never fails: what is not there, or is of another kind, is `none`.
-/

set_option autoImplicit false

namespace ThreatGraph

/-- A JSON number. -/
inductive Number where
  | integer (value : Int)
  | float (value : Binary64)
  deriving DecidableEq, Repr, Inhabited

/-- A JSON value. -/
inductive Json where
  | null
  | bool (value : Bool)
  | number (value : Number)
  | string (value : String)
  | array (items : List Json)
  | object (fields : List (String × Json))
  deriving Repr, Inhabited, BEq

/-- How a number that is not whole is written: positional from `1e-5` up to below `1e16`. -/
def Number.floatFormat : FloatFormat := ⟨-5, 15⟩

/-- The text of a number. -/
def Number.text : Number → String
  | .integer z => toString z
  | .float x => Number.floatFormat.text x

/-- A whole number that fits 64 bits, signed. -/
def Number.signed64? : Number → Option Int
  | .integer z => if minSigned64 ≤ z ∧ z ≤ maxSigned64 then some z else none
  | .float _ => none

/-- A whole number that fits 64 bits, unsigned. -/
def Number.unsigned64? : Number → Option Nat
  | .integer z => if 0 ≤ z ∧ z ≤ maxUnsigned64 then some z.toNat else none
  | .float _ => none

namespace Json

/-- A natural number as a JSON value. -/
def nat (n : Nat) : Json := .number (.integer n)

/-- A whole number as a JSON value. -/
def int (z : Int) : Json := .number (.integer z)

/-- An optional value, `null` where it is absent. -/
def option {α : Type} (encode : α → Json) : Option α → Json
  | none => .null
  | some a => encode a

/-- An object of the given fields, in any order. -/
def record (fields : List (String × Json)) : Json := .object (Assoc.ofPairs fields)

/-- The member of an object at a key. -/
def get? (value : Json) (key : String) : Option Json :=
  match value with
  | .object fields => Assoc.lookup? key fields
  | _ => none

/-- The text of a string. -/
def asString? : Json → Option String
  | .string s => some s
  | _ => none

/-- The truth value of a boolean. -/
def asBool? : Json → Option Bool
  | .bool b => some b
  | _ => none

/-- The items of an array. -/
def asArray? : Json → Option (List Json)
  | .array items => some items
  | _ => none

/-- The fields of an object. -/
def asObject? : Json → Option (List (String × Json))
  | .object fields => some fields
  | _ => none

/-- A whole number that fits 64 bits, signed. -/
def asSigned64? : Json → Option Int
  | .number n => n.signed64?
  | _ => none

/-- A whole number that fits 64 bits, unsigned. -/
def asUnsigned64? : Json → Option Nat
  | .number n => n.unsigned64?
  | _ => none

end Json

end ThreatGraph
