/-!
# Decimal numerals

Reading whole numbers from text: a non-empty run of ASCII digits after an optional sign, accepted
only when the value fits the width asked for. Leading zeros are allowed and no other character is.

* `digitsValue?` reads an unsigned run of digits of any length.
* `readUnsigned?` and `readSigned?` add the sign and the bounds.
-/

set_option autoImplicit false

namespace ThreatGraph

/-- The largest unsigned value of 64 bits. -/
def maxUnsigned64 : Nat := 0xffffffffffffffff

/-- The largest unsigned value of 32 bits. -/
def maxUnsigned32 : Nat := 0xffffffff

/-- The smallest signed value of 64 bits. -/
def minSigned64 : Int := -0x8000000000000000

/-- The largest signed value of 64 bits. -/
def maxSigned64 : Int := 0x7fffffffffffffff

/-- The value of an ASCII decimal digit. -/
def digitValue? (c : Char) : Option Nat :=
  if '0' ≤ c ∧ c ≤ '9' then some (c.toNat - '0'.toNat) else none

/-- Whether a character is an ASCII decimal digit. -/
def isDigit (c : Char) : Bool := (digitValue? c).isSome

/-- The value of an ASCII digit in base sixteen. -/
def hexValue? (c : Char) : Option Nat :=
  if '0' ≤ c ∧ c ≤ '9' then some (c.toNat - '0'.toNat)
  else if 'a' ≤ c ∧ c ≤ 'f' then some (c.toNat - 'a'.toNat + 10)
  else if 'A' ≤ c ∧ c ≤ 'F' then some (c.toNat - 'A'.toNat + 10)
  else none

/-- The digit of a value below sixteen, in lower case. -/
def hexDigit (n : Nat) : Char :=
  if n < 10 then Char.ofNat ('0'.toNat + n) else Char.ofNat ('a'.toNat + (n - 10))

/-- The digit of a value below sixteen, in upper case. -/
def hexDigitUpper (n : Nat) : Char :=
  if n < 10 then Char.ofNat ('0'.toNat + n) else Char.ofNat ('A'.toNat + (n - 10))

/-- The value of a run of digits read after the digits of `acc`, in the given base. -/
def digitsFrom? (digit? : Char → Option Nat) (base : Nat) (acc : Nat) : List Char → Option Nat
  | [] => some acc
  | c :: cs => do
    let d ← digit? c
    if d < base then digitsFrom? digit? base (acc * base + d) cs else none

/-- The value of a non-empty run of digits in the given base. -/
def digitsValueIn? (base : Nat) : List Char → Option Nat
  | [] => none
  | cs => digitsFrom? hexValue? base 0 cs

/-- The value of a non-empty run of decimal digits. -/
def digitsValue? : List Char → Option Nat
  | [] => none
  | cs => digitsFrom? digitValue? 10 0 cs

/-- An unsigned numeral of at most `limit`, with an optional plus sign. -/
def readUnsigned? (limit : Nat) (cs : List Char) : Option Nat := do
  let n ← digitsValue? (match cs with
    | '+' :: rest => rest
    | _ => cs)
  if n ≤ limit then some n else none

/-- A numeral with an optional sign, between `least` and `greatest`. -/
def readSigned? (least greatest : Int) (cs : List Char) : Option Int := do
  let z ← match cs with
    | '+' :: rest => (digitsValue? rest).map Int.ofNat
    | '-' :: rest => (digitsValue? rest).map fun n => -Int.ofNat n
    | _ => (digitsValue? cs).map Int.ofNat
  if least ≤ z ∧ z ≤ greatest then some z else none

/-- A whole number of 64 bits, unsigned. -/
def readUnsigned64? (s : String) : Option Nat :=
  readUnsigned? maxUnsigned64 s.toList

/-- A whole number of 64 bits, signed. -/
def readSigned64? (s : String) : Option Int :=
  readSigned? minSigned64 maxSigned64 s.toList

/-- A natural number in decimal, with zeros in front up to the given width. -/
def padded (width n : Nat) : String :=
  let digits := toString n
  String.ofList (List.replicate (width - digits.length) '0') ++ digits

end ThreatGraph
