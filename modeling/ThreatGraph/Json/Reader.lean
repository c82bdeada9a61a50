import ThreatGraph.Json

/-!
# Reading JSON

A JSON text is one value with blanks around it; the blanks are space, tab, line feed and carriage
return. Strings hold no control characters and no unpaired surrogates. Values nest at most 127
deep. A later field of an object replaces an earlier one with the same key.

A number without fraction and exponent that fits 64 bits is whole; `-0` is not. Any other number
is read as the leading digits that fit 64 bits, scaled by a power of ten (`Binary64.ofScaled?`);
one that is too large makes the text invalid.

* `Json.parse?` reads a text, or tells that it is no JSON.
-/

set_option autoImplicit false

namespace ThreatGraph.Json

/-- A reader takes a value from the front of a text. -/
abbrev Reader (α : Type) := List Char → Option (α × List Char)

/-- Whether a character may stand between the parts of a JSON text. -/
def isSpace (c : Char) : Bool := c == ' ' || c == '\t' || c == '\n' || c == '\r'

/-- A text without the blanks at its front. -/
def skipSpace (cs : List Char) : List Char := cs.dropWhile isSpace

/-! ## Strings -/

/-- The code unit of four digits in base sixteen. -/
def codeUnit? (a b c d : Char) : Option Nat := do
  let a ← hexValue? a
  let b ← hexValue? b
  let c ← hexValue? c
  let d ← hexValue? d
  pure (((a * 16 + b) * 16 + c) * 16 + d)

/-- Whether a code unit is the first of a surrogate pair. -/
def isHighSurrogate (u : Nat) : Bool := 0xd800 ≤ u && u ≤ 0xdbff

/-- Whether a code unit is the second of a surrogate pair. -/
def isLowSurrogate (u : Nat) : Bool := 0xdc00 ≤ u && u ≤ 0xdfff

/-- The character of an escape by code units, after the letter `u`. -/
def readCodePoint : Reader Char
  | a :: b :: c :: d :: rest => do
    let u ← codeUnit? a b c d
    if isLowSurrogate u then none
    else if isHighSurrogate u then
      match rest with
      | '\\' :: 'u' :: e :: f :: g :: h :: rest => do
        let v ← codeUnit? e f g h
        if isLowSurrogate v then
          some (Char.ofNat (0x10000 + (u - 0xd800) * 0x400 + (v - 0xdc00)), rest)
        else none
      | _ => none
    else some (Char.ofNat u, rest)
  | _ => none

/-- The character of an escape, after the backslash. -/
def readEscape : Reader Char
  | '"' :: rest => some ('"', rest)
  | '\\' :: rest => some ('\\', rest)
  | '/' :: rest => some ('/', rest)
  | 'b' :: rest => some ('\x08', rest)
  | 'f' :: rest => some ('\x0c', rest)
  | 'n' :: rest => some ('\n', rest)
  | 'r' :: rest => some ('\r', rest)
  | 't' :: rest => some ('\t', rest)
  | 'u' :: rest => readCodePoint rest
  | _ => none

/-- The characters of a string, after the opening quote; `fuel` bounds their number. -/
def readChars : Nat → Reader (List Char)
  | 0, _ => none
  | fuel + 1, cs =>
    match cs with
    | '"' :: rest => some ([], rest)
    | '\\' :: rest => do
      let (c, rest) ← readEscape rest
      let (tail, rest) ← readChars fuel rest
      pure (c :: tail, rest)
    | c :: rest =>
      if c.toNat < 0x20 then none
      else do
        let (tail, rest) ← readChars fuel rest
        pure (c :: tail, rest)
    | [] => none

/-- A string, after the opening quote. -/
def readString : Reader String := fun cs => do
  let (chars, rest) ← readChars (cs.length + 1) cs
  pure (String.ofList chars, rest)

/-! ## Numbers -/

/-- The leading digits of a run that keep a value within 64 bits: the value with them, their
number, and the digits left over. -/
def takeFitting (acc taken : Nat) : List Char → Nat × Nat × List Char
  | [] => (acc, taken, [])
  | c :: cs =>
    let next := acc * 10 + (digitValue? c).getD 0
    if maxUnsigned64 < next then (acc, taken, c :: cs) else takeFitting next (taken + 1) cs

/-- The exponent part of a number, if it has one; `none` where the letter stands alone. -/
def readExponent : Reader (Option Int)
  | 'e' :: rest | 'E' :: rest =>
    let (negative, rest) := match rest with
      | '+' :: rest => (false, rest)
      | '-' :: rest => (true, rest)
      | _ => (false, rest)
    match digitsValue? (rest.takeWhile isDigit) with
    | some n => some (some (if negative then -Int.ofNat n else Int.ofNat n), rest.dropWhile isDigit)
    | none => none
  | rest => some (none, rest)

/-- The fraction part of a number, if it has one: its digits, at least one after the point. -/
def readFraction : Reader (Option (List Char))
  | '.' :: rest =>
    if (rest.takeWhile isDigit).isEmpty then none
    else some (some (rest.takeWhile isDigit), rest.dropWhile isDigit)
  | rest => some (none, rest)

/-- The value of a number without fraction and exponent. -/
def wholeNumber? (negative : Bool) (digits : List Char) : Option Number :=
  let (n, _, left) := takeFitting 0 0 digits
  if left.isEmpty then
    if !negative then some (.integer n)
    else if 0 < n ∧ minSigned64 ≤ -Int.ofNat n then some (.integer (-Int.ofNat n))
    else (Binary64.ofScaled? n 0).map fun x => .float (x.withSign true)
  else (Binary64.ofScaled? n left.length).map fun x => .float (x.withSign negative)

/-- The value of a number with a fraction or an exponent. -/
def scaledNumber? (negative : Bool) (digits fraction : List Char) (exponent : Int) :
    Option Number :=
  let (n, _, left) := takeFitting 0 0 digits
  let (n, taken, _) := takeFitting n 0 fraction
  (Binary64.ofScaled? n (exponent + left.length - taken)).map fun x =>
    .float (x.withSign negative)

/-- A number, after its sign. -/
def readUnsignedNumber (negative : Bool) : Reader Number := fun cs => do
  let digits := cs.takeWhile isDigit
  match digits with
  | [] => none
  | '0' :: _ :: _ => none
  | _ =>
    let (fraction, rest) ← readFraction (cs.dropWhile isDigit)
    let (exponent, rest) ← readExponent rest
    match fraction, exponent with
    | none, none => (wholeNumber? negative digits).map (·, rest)
    | _, _ => (scaledNumber? negative digits (fraction.getD []) (exponent.getD 0)).map (·, rest)

/-- A number. -/
def readNumber : Reader Number
  | '-' :: rest => readUnsignedNumber true rest
  | cs => readUnsignedNumber false cs

/-! ## Values -/

/-- The items of an array, after its bracket and at least one item; `fuel` bounds their number. -/
def readItems (item : Reader Json) : Nat → Reader (List Json)
  | 0, _ => none
  | fuel + 1, cs => do
    let (x, rest) ← item cs
    match skipSpace rest with
    | ',' :: rest =>
      let (xs, rest) ← readItems item fuel rest
      pure (x :: xs, rest)
    | ']' :: rest => pure ([x], rest)
    | _ => none

/-- One field of an object. -/
def readField (item : Reader Json) : Reader (String × Json) := fun cs =>
  match skipSpace cs with
  | '"' :: rest => do
    let (key, rest) ← readString rest
    match skipSpace rest with
    | ':' :: rest =>
      let (value, rest) ← item rest
      pure ((key, value), rest)
    | _ => none
  | _ => none

/-- The fields of an object, after its brace; `fuel` bounds their number. -/
def readFields (item : Reader Json) : Nat → Reader (List (String × Json))
  | 0, _ => none
  | fuel + 1, cs => do
    let (field, rest) ← readField item cs
    match skipSpace rest with
    | ',' :: rest =>
      let (fields, rest) ← readFields item fuel rest
      pure (field :: fields, rest)
    | '\x7d' :: rest => pure ([field], rest)
    | _ => none

/-- An array, after its bracket. -/
def readArray (item : Reader Json) : Reader Json := fun cs =>
  match skipSpace cs with
  | ']' :: rest => some (.array [], rest)
  | _ => (readItems item (cs.length + 1) cs).map fun r => (.array r.1, r.2)

/-- An object, after its brace. -/
def readObject (item : Reader Json) : Reader Json := fun cs =>
  match skipSpace cs with
  | '\x7d' :: rest => some (.object [], rest)
  | _ => (readFields item (cs.length + 1) cs).map fun r => (.record r.1, r.2)

/-- A value whose arrays and objects nest less than `depth` deep. -/
def readValue : Nat → Reader Json
  | 0, _ => none
  | depth + 1, cs =>
    match skipSpace cs with
    | 'n' :: 'u' :: 'l' :: 'l' :: rest => some (.null, rest)
    | 't' :: 'r' :: 'u' :: 'e' :: rest => some (.bool true, rest)
    | 'f' :: 'a' :: 'l' :: 's' :: 'e' :: rest => some (.bool false, rest)
    | '"' :: rest => (readString rest).map fun r => (.string r.1, r.2)
    | '[' :: rest => if depth = 0 then none else readArray (readValue depth) rest
    | '\x7b' :: rest => if depth = 0 then none else readObject (readValue depth) rest
    | rest => (readNumber rest).map fun r => (.number r.1, r.2)

/-- One more than the greatest depth to which the values of a text nest. -/
def depthLimit : Nat := 128

/-- The value of a JSON text. -/
def parse? (text : String) : Option Json := do
  let (value, rest) ← readValue depthLimit text.toList
  if (skipSpace rest).isEmpty then some value else none

end ThreatGraph.Json
