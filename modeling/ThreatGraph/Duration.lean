import ThreatGraph.Text.Numeral

/-!
# Lengths of time

A length of time in nanoseconds. `Duration.text` shows it in the largest unit of which it has one,
with the digits after the point that it needs.
-/

set_option autoImplicit false

namespace ThreatGraph

/-- A length of time. -/
structure Duration where
  nanos : Nat
  deriving DecidableEq, Repr, Inhabited

namespace Duration

/-- The nanoseconds of a second. -/
def second : Nat := 1000000000

/-- The nanoseconds of a thousandth of a second. -/
def millisecond : Nat := 1000000

/-- The nanoseconds of a millionth of a second. -/
def microsecond : Nat := 1000

/-- A number of seconds. -/
def ofSeconds (n : Nat) : Duration := ⟨n * second⟩

/-- A number of thousandths of a second. -/
def ofMillis (n : Nat) : Duration := ⟨n * millisecond⟩

/-- The whole seconds of a length of time. -/
def wholeSeconds (d : Duration) : Nat := d.nanos / second

/-- A length of time in a unit of `unit` nanoseconds, which is ten to the `places`. -/
def inUnit (unit places nanos : Nat) : String :=
  let fraction := (padded places (nanos % unit)).toList
  let shown := (fraction.reverse.dropWhile (· = '0')).reverse
  toString (nanos / unit) ++ (if nanos % unit = 0 then "" else "." ++ String.ofList shown)

/-- The text of a length of time. -/
def text (d : Duration) : String :=
  if second ≤ d.nanos then inUnit second 9 d.nanos ++ "s"
  else if millisecond ≤ d.nanos then inUnit millisecond 6 d.nanos ++ "ms"
  else if microsecond ≤ d.nanos then inUnit microsecond 3 d.nanos ++ "µs"
  else toString d.nanos ++ "ns"

end Duration

end ThreatGraph
