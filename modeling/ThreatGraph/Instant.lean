import ThreatGraph.Calendar
import ThreatGraph.Text.Numeral

/-!
# Instants

Points in time, to the nanosecond, in the range of years from -262143 to 262142. A leap second is
the second before it with a thousand million nanoseconds more.

* `Instant.ofUnix?` is the instant a number of seconds after the start of 1970.
* `Instant.ofLocal?` is the instant at which a clock some minutes ahead shows a date and a time.
* `Instant.text` writes an instant in the form of RFC 3339.
-/

set_option autoImplicit false

namespace ThreatGraph

/-- A point in time. -/
structure Instant where
  seconds : Int
  nanos : Nat
  deriving DecidableEq, Repr, Inhabited

/-- A time of day; the second may be a sixtieth, which is a leap second. -/
structure ClockTime where
  hour : Nat
  minute : Nat
  second : Nat
  nanos : Nat
  deriving DecidableEq, Repr, Inhabited

/-- Whether a time of day is one that a clock shows. -/
def ClockTime.isValid (t : ClockTime) : Bool :=
  t.hour ≤ 23 && t.minute ≤ 59 && t.second ≤ 60

namespace Instant

/-- The number of seconds of a day. -/
def secondsPerDay : Int := 86400

/-- The number of nanoseconds of a second. -/
def nanosPerSecond : Nat := 1000000000

/-- The first and the last year. -/
def yearRange : Int × Int := (-262143, 262142)

/-- The first second of the range. -/
def leastSeconds : Int := Date.toDays ⟨yearRange.1, 1, 1⟩ * secondsPerDay

/-- The last second of the range. -/
def greatestSeconds : Int := (Date.toDays ⟨yearRange.2, 12, 31⟩ + 1) * secondsPerDay - 1

/-- Whether a second lies in the range. -/
def inRange (seconds : Int) : Bool := leastSeconds ≤ seconds && seconds ≤ greatestSeconds

/-- The instant a number of seconds after the start of 1970. -/
def ofUnix? (seconds : Int) : Option Instant :=
  if inRange seconds then some ⟨seconds, 0⟩ else none

/-- The instant at which a clock `offset` seconds ahead of universal time shows a date and a time.
Both the date shown and the instant have to lie in the range. -/
def ofLocal? (date : Date) (time : ClockTime) (offset : Int) : Option Instant :=
  if date.isValid && time.isValid && yearRange.1 ≤ date.year && date.year ≤ yearRange.2 then
    let leap := time.second = 60
    let second := if leap then 59 else time.second
    let seconds := date.toDays * secondsPerDay + time.hour * 3600 + time.minute * 60 + second
      - offset
    if inRange seconds then
      some ⟨seconds, if leap then time.nanos + nanosPerSecond else time.nanos⟩
    else none
  else none

/-! ## Text -/

/-- The text of a year: four digits, and more with a sign outside of these. -/
def yearText (year : Int) : String :=
  if 0 ≤ year ∧ year ≤ 9999 then padded 4 year.toNat
  else (if year < 0 then "-" else "+") ++ padded 4 year.natAbs

/-- The fraction of a second: none, or the least of three, six and nine digits that show it. -/
def fractionText (nanos : Nat) : String :=
  if nanos = 0 then ""
  else if nanos % 1000000 = 0 then "." ++ padded 3 (nanos / 1000000)
  else if nanos % 1000 = 0 then "." ++ padded 6 (nanos / 1000)
  else "." ++ padded 9 nanos

/-- An instant in universal time in the form of RFC 3339. -/
def text (t : Instant) : String :=
  let date := Date.ofDays (t.seconds / secondsPerDay)
  let clock := (t.seconds % secondsPerDay).toNat
  let leap := nanosPerSecond ≤ t.nanos
  let second := clock % 60 + (if leap then 1 else 0)
  let nanos := if leap then t.nanos - nanosPerSecond else t.nanos
  yearText date.year ++ "-" ++ padded 2 date.month ++ "-" ++ padded 2 date.day ++ "T"
    ++ padded 2 (clock / 3600) ++ ":" ++ padded 2 (clock / 60 % 60) ++ ":" ++ padded 2 second
    ++ fractionText nanos ++ "Z"

end Instant

end ThreatGraph
