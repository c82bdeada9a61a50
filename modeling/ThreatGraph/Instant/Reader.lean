import ThreatGraph.Instant
import ThreatGraph.Text.Blank
import ThreatGraph.Text.Split

/-!
# Reading instants

Three forms of a date and a time are read.

* `readStrict?` is the form of RFC 3339: every number has its full width, `T`, `t` or a space stands
  between date and time, a fraction of a second may follow, and an offset with a colon or a `Z`.
* `readOffset?` is the form with numbers of up to their width, blanks in front of them, a signed
  year of any width, and an offset whose hours and minutes need no colon.
* `readPlain?` is that form without an offset, taken as universal time.

`Instant.parse?` reads a whole number of seconds since 1970 or any of these forms.
-/

set_option autoImplicit false

namespace ThreatGraph.Instant

/-- A reader takes a value from the front of a text. -/
abbrev Reader (α : Type) := List Char → Option (α × List Char)

/-- A number of at least `least` digits, at most `most` of which are taken. -/
def readNumber (least most : Nat) : Reader Nat := fun cs =>
  let digits := (cs.take most).takeWhile isDigit
  if digits.length < least then none
  else (digitsValue? digits).map (·, cs.drop digits.length)

/-- One given character. -/
def readChar (c : Char) : Reader Unit
  | d :: rest => if d = c then some ((), rest) else none
  | [] => none

/-- A number of one or two digits, or of two exactly. -/
def readTwo (strict : Bool) : Reader Nat := readNumber (if strict then 2 else 1) 2

/-! ## Offsets -/

/-- The sign of an offset, which may be a minus sign of its own. -/
def readSign : Reader Bool
  | '+' :: rest => some (false, rest)
  | '-' :: rest => some (true, rest)
  | '−' :: rest => some (true, rest)
  | _ => none

/-- An offset of hours and minutes in seconds, with what `separator` takes between them. -/
def readHoursMinutes (separator : Reader Unit) : Reader Int := fun cs => do
  let (negative, cs) ← readSign cs
  let (hours, cs) ← readNumber 2 2 cs
  let ((), cs) ← separator cs
  let (minutes, cs) ← readNumber 2 2 cs
  if 59 < minutes then none
  else
    let seconds : Int := hours * 3600 + minutes * 60
    pure (if negative then -seconds else seconds, cs)

/-- The greatest offset in use: a minute short of a day. -/
def greatestOffset : Int := (23 * 60 + 59) * 60

/-- An offset with a colon, or a letter for none. -/
def readStrictOffset : Reader Int
  | 'Z' :: rest | 'z' :: rest => some (0, rest)
  | cs => readHoursMinutes (readChar ':') cs

/-- An offset with any colons and blanks between hours and minutes, and blanks in front. -/
def readLooseOffset : Reader Int := fun cs =>
  readHoursMinutes (fun cs => some ((), cs.dropWhile fun c => c = ':' || isBlank c))
    (trimStart cs)

/-! ## Dates and times -/

/-- A date: a year, a month and a day with hyphens between them. -/
def readDate (readYear : Reader Int) (readPart : Reader Nat) : Reader Date := fun cs => do
  let (year, cs) ← readYear cs
  let ((), cs) ← readChar '-' cs
  let (month, cs) ← readPart cs
  let ((), cs) ← readChar '-' cs
  let (day, cs) ← readPart cs
  pure (⟨year, month, day⟩, cs)

/-- A time of day: an hour, a minute and a second with colons between them. -/
def readClock (readPart : Reader Nat) : Reader ClockTime := fun cs => do
  let (hour, cs) ← readPart cs
  let ((), cs) ← readChar ':' cs
  let (minute, cs) ← readPart cs
  let ((), cs) ← readChar ':' cs
  let (second, cs) ← readPart cs
  pure (⟨hour, minute, second, 0⟩, cs)

/-- A year of four digits. -/
def readFullYear : Reader Int := fun cs => (readNumber 4 4 cs).map fun r => (Int.ofNat r.1, r.2)

/-- What stands between a date and a time in the strict form. -/
def readMark : Reader Unit
  | 'T' :: rest | 't' :: rest | ' ' :: rest => some ((), rest)
  | _ => none

/-- A fraction of a second in nanoseconds, after its point; digits after the ninth count for
nothing. -/
def readFraction : Reader Nat := fun cs => do
  let (n, rest) ← readNumber 1 9 cs
  pure (n * Nat.pow 10 (9 - (cs.length - rest.length)), rest.dropWhile isDigit)

/-- A fraction of a second, if there is a point. -/
def readNanos : Reader Nat
  | '.' :: rest => readFraction rest
  | cs => some (0, cs)

/-- A date and a time in the strict form, with the offset after them. -/
def readStrict? (cs : List Char) : Option Instant := do
  let (date, cs) ← readDate readFullYear (readTwo true) cs
  let ((), cs) ← readMark cs
  let (time, cs) ← readClock (readTwo true) cs
  let (nanos, cs) ← readNanos cs
  let (offset, cs) ← readStrictOffset cs
  if cs.isEmpty && offset.natAbs ≤ greatestOffset.natAbs then
    ofLocal? date { time with nanos := nanos } offset
  else none

/-- A year of up to four digits, or of any number of digits after a sign. -/
def readYear : Reader Int := fun cs =>
  match trimStart cs with
  | '-' :: rest => (readNumber 1 rest.length rest).map fun r => (-Int.ofNat r.1, r.2)
  | '+' :: rest => (readNumber 1 rest.length rest).map fun r => (Int.ofNat r.1, r.2)
  | rest => (readNumber 1 4 rest).map fun r => (Int.ofNat r.1, r.2)

/-- A number of one or two digits with blanks in front. -/
def readLooseTwo : Reader Nat := fun cs => readTwo false (trimStart cs)

/-- A date and a time in the loose form. -/
def readLoose : Reader (Date × ClockTime) := fun cs => do
  let (date, cs) ← readDate readYear readLooseTwo cs
  let ((), cs) ← readChar 'T' cs
  let (time, cs) ← readClock readLooseTwo cs
  pure ((date, time), cs)

/-- A date and a time in the loose form with an offset. -/
def readOffset? (cs : List Char) : Option Instant := do
  let ((date, time), cs) ← readLoose cs
  let (offset, cs) ← readLooseOffset cs
  if cs.isEmpty && offset.natAbs ≤ greatestOffset.natAbs then ofLocal? date time offset else none

/-- A date and a time in the loose form without an offset. -/
def readPlain? (cs : List Char) : Option Instant := do
  let ((date, time), cs) ← readLoose cs
  if cs.isEmpty then ofLocal? date time 0 else none

/-- An instant from its text. A text that is a whole number is never read as a date. -/
def parse? (s : String) : Option Instant :=
  match readSigned64? s with
  | some seconds => ofUnix? seconds
  | none => readStrict? s.toList <|> readOffset? s.toList <|> readPlain? s.toList

end ThreatGraph.Instant
