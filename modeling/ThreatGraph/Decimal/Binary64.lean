/-!
# Floating-point numbers of 64 bits

A finite number in binary floating point is `± mantissa · 2 ^ exponent` with at most 53 bits of
mantissa. Everything here is exact arithmetic on natural numbers.

* `Binary64.nearest?` rounds a fraction to the nearest such number, a tie to the even mantissa,
  and fails where the result would be too large.
* `Binary64.ofScaled?` is the value of `n · 10 ^ e` computed in two rounded steps: `n` is rounded,
  then multiplied or divided by the rounded power of ten.
* `Binary64.shortest` gives the decimal with the fewest digits that reads back as the number, and
  of these the nearest.
-/

set_option autoImplicit false

namespace ThreatGraph

/-- A finite number of 64-bit binary floating point. A number other than zero has either 53 bits
of mantissa or the least exponent. -/
structure Binary64 where
  negative : Bool
  mantissa : Nat
  exponent : Int
  deriving DecidableEq, Repr, Inhabited

namespace Binary64

/-- The number of bits of a mantissa. -/
def precision : Nat := 53

/-- The least exponent. -/
def leastExponent : Int := -1074

/-- The greatest exponent. -/
def greatestExponent : Int := 971

/-- Zero, with a sign. -/
def zero (negative : Bool) : Binary64 := ⟨negative, 0, leastExponent⟩

/-- The same number with the other sign where `negative` holds. -/
def withSign (negative : Bool) (x : Binary64) : Binary64 := { x with negative }

/-- The fraction `num / den · 2 ^ (-e)` as a numerator and a denominator. -/
def scaledBy (num den : Nat) (e : Int) : Nat × Nat :=
  if e < 0 then (num * Nat.pow 2 e.natAbs, den) else (num, den * Nat.pow 2 e.natAbs)

/-- The quotient of two natural numbers rounded to the nearest, a tie to the even one. -/
def roundQuotient (num den : Nat) : Nat :=
  let q := num / den
  let r := num % den
  if 2 * r < den then q
  else if den < 2 * r then q + 1
  else if q % 2 = 0 then q else q + 1

/-- An exponent at which the mantissa of `num / den` has 53 or 54 bits, or the least exponent. -/
def fittingExponent (num den : Nat) : Int :=
  let e : Int := (Nat.log2 num : Int) - Nat.log2 den - precision
  if e < leastExponent then leastExponent else e

/-- The number nearest to the fraction `num / den`, where there is one. -/
def nearest? (num den : Nat) : Option Binary64 :=
  if num = 0 then some (zero false)
  else
    let e := fittingExponent num den
    let (n, d) := scaledBy num den e
    let e := if Nat.pow 2 precision * d ≤ n then e + 1 else e
    let (n, d) := scaledBy num den e
    let m := roundQuotient n d
    let (m, e) := if m = Nat.pow 2 precision then (Nat.pow 2 (precision - 1), e + 1) else (m, e)
    if m = 0 then some (zero false)
    else if greatestExponent < e then none
    else some ⟨false, m, e⟩

/-- The absolute value of a number as a numerator and a denominator. -/
def toFraction (x : Binary64) : Nat × Nat :=
  if x.exponent < 0 then (x.mantissa, Nat.pow 2 x.exponent.natAbs)
  else (x.mantissa * Nat.pow 2 x.exponent.natAbs, 1)

/-- The rounded product of the absolute values of two numbers. -/
def mul? (x y : Binary64) : Option Binary64 :=
  nearest? (x.toFraction.1 * y.toFraction.1) (x.toFraction.2 * y.toFraction.2)

/-- The rounded quotient of the absolute values of two numbers. -/
def div? (x y : Binary64) : Option Binary64 :=
  nearest? (x.toFraction.1 * y.toFraction.2) (x.toFraction.2 * y.toFraction.1)

/-- The greatest power of ten that is rounded to one number. -/
def greatestPower : Nat := 308

/-- Division by ten to the `e`, for large `e` in several rounded steps. -/
def shrink? (x : Binary64) (e : Nat) : Option Binary64 :=
  if x.mantissa = 0 then some x
  else if e ≤ greatestPower then do div? x (← nearest? (Nat.pow 10 e) 1)
  else do
    let y ← div? x (← nearest? (Nat.pow 10 greatestPower) 1)
    shrink? y (e - greatestPower)
termination_by e
decreasing_by simp only [greatestPower] at *; omega

/-- The value of `n · 10 ^ e`, or `none` if it is too large. The natural number and the power of
ten are rounded before they are multiplied or divided. -/
def ofScaled? (n : Nat) (e : Int) : Option Binary64 := do
  let x ← nearest? n 1
  if e < 0 then shrink? x e.natAbs
  else if x.mantissa = 0 then some x
  else if e.natAbs ≤ greatestPower then mul? x (← nearest? (Nat.pow 10 e.natAbs) 1)
  else none

/-- A decimal `digits · 10 ^ exponent` within the interval of reals that read back as `x`, doubled
twice to keep the ends whole: the ends belong to it exactly if the mantissa is even. -/
def readsBackAs (x : Binary64) (digits : Nat) (exponent : Int) : Bool :=
  let low := if x.mantissa = Nat.pow 2 (precision - 1) ∧ leastExponent < x.exponent
    then 4 * x.mantissa - 1 else 4 * x.mantissa - 2
  let high := 4 * x.mantissa + 2
  let binary := x.exponent - 2
  let left := digits * (if 0 ≤ exponent then Nat.pow 10 exponent.natAbs else 1)
    * (if binary < 0 then Nat.pow 2 binary.natAbs else 1)
  let right := (if exponent < 0 then Nat.pow 10 exponent.natAbs else 1)
    * (if 0 ≤ binary then Nat.pow 2 binary.natAbs else 1)
  if x.mantissa % 2 = 0 then low * right ≤ left && left ≤ high * right
  else low * right < left && left < high * right

/-- The decimal exponent of the leading digit of a fraction. -/
def leadingExponent (num den : Nat) : Int :=
  let guess : Int := ((Nat.log2 num : Int) - Nat.log2 den) * 30103 / 100000
  let atLeast (e : Int) : Bool :=
    if 0 ≤ e then den * Nat.pow 10 e.natAbs ≤ num else den ≤ num * Nat.pow 10 e.natAbs
  if atLeast (guess + 1) then guess + 1
  else if atLeast guess then guess
  else if atLeast (guess - 1) then guess - 1
  else guess - 2

/-- A decimal without zeros at the end of its digits; `fuel` bounds their number. -/
def dropZeros : Nat → Nat → Int → Nat × Int
  | 0, d, e => (d, e)
  | fuel + 1, d, e => if d ≠ 0 ∧ d % 10 = 0 then dropZeros fuel (d / 10) (e + 1) else (d, e)

/-- The candidates with `count` digits next to a number: of the two neighbours on the decimal grid
those that read back, the nearer one first. -/
def candidate? (x : Binary64) (count : Nat) : Option (Nat × Int) :=
  let (num, den) := x.toFraction
  let e : Int := leadingExponent num den - (count : Int) + 1
  let num' := if e < 0 then num * Nat.pow 10 e.natAbs else num
  let den' := if e < 0 then den else den * Nat.pow 10 e.natAbs
  let below := num' / den'
  let above := below + 1
  let belowNearer := 2 * (num' % den') < den' ∨ 2 * (num' % den') = den' ∧ below % 2 = 0
  let (first, second) := if belowNearer then (below, above) else (above, below)
  if readsBackAs x first e then some (first, e)
  else if readsBackAs x second e then some (second, e)
  else none

/-- The shortest decimal `digits · 10 ^ exponent` that reads back as the absolute value. -/
def shortest (x : Binary64) : Nat × Int :=
  if x.mantissa = 0 then (0, 0)
  else match (List.range 17).findSome? fun count => candidate? x (count + 1) with
    | some (d, e) => dropZeros 20 d e
    | none => (0, 0)

end Binary64

/-- How a floating-point number is written in decimal: within which decimal exponents of the
leading digit no exponent is written. -/
structure FloatFormat where
  leastPlain : Int
  greatestPlain : Int

/-- The decimal text of a number: positional between the bounds of the format and then with at
least one digit after the point, else with an exponent that always has a sign. -/
def FloatFormat.text (format : FloatFormat) (x : Binary64) : String :=
  let (d, e) := x.shortest
  let digits := toString d
  let leading : Int := e + digits.length - 1
  let body :=
    if d = 0 then "0.0"
    else if leading < format.leastPlain ∨ format.greatestPlain < leading then
      let mark := if leading < 0 then "e-" else "e+"
      let fraction := String.ofList (digits.toList.drop 1)
      String.ofList (digits.toList.take 1) ++ (if fraction = "" then "" else "." ++ fraction)
        ++ mark ++ toString leading.natAbs
    else if 0 ≤ e then digits ++ String.ofList (List.replicate e.natAbs '0') ++ ".0"
    else if 0 ≤ leading then
      String.ofList (digits.toList.take (leading.natAbs + 1)) ++ "."
        ++ String.ofList (digits.toList.drop (leading.natAbs + 1))
    else "0." ++ String.ofList (List.replicate (leading.natAbs - 1) '0') ++ digits
  (if x.negative then "-" else "") ++ body

end ThreatGraph
