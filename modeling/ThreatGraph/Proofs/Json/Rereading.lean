import ThreatGraph.Json.Reader
import ThreatGraph.Proofs.Json.Compact
import ThreatGraph.Proofs.Params.Grouping

/-!
# Reading a value again

A JSON text is read as a value with a few properties: its whole numbers fit 64 bits, the fields of
its objects are in key order, and it does not nest too deep.  A value with these properties and
without fractions is read from its compact text as it is.

* `Json.Legible n` says that a value has these properties and nests at most `n` deep, and
  `Json.legible_of_parse?` that a value that was read has them.
* `Json.Whole` says that all numbers in a value are whole.
* `Json.readValue_compact` reads the compact text of such a value, whatever comes after it that is
  not taken for a part of a number, and `Json.parse?_compact` reads it on its own.

Arrays and objects are lists of elements with commas between them, and both are read by
`Json.readList`.
-/

set_option autoImplicit false

namespace ThreatGraph

/-- Entries in order are made of themselves. -/
theorem Assoc.ofPairs_of_ordered {α : Type} {entries : List (String × α)} (h : Ordered entries) :
    ofPairs entries = entries :=
  eq_of_lookup? (ordered_ofPairs entries) h (lookup?_ofPairs (nodup_keys h))

/-- A value that is found is that of an entry. -/
theorem Assoc.mem_of_lookup? {α : Type} {key : String} {value : α} {entries : List (String × α)}
    (h : lookup? key entries = some value) : (key, value) ∈ entries := by
  induction entries with
  | nil => cases h
  | cons entry rest ih =>
    rw [lookup?] at h
    split at h
    · next heq =>
      cases h
      exact heq ▸ List.mem_cons_self
    · exact List.mem_cons_of_mem _ (ih h)

/-- A number fits 64 bits, signed or unsigned, if it is whole. -/
def Number.Fits64 : Number → Prop
  | .integer z => minSigned64 ≤ z ∧ z ≤ maxUnsigned64
  | .float _ => True

namespace Json

/-! ## Lists of elements

The readers of arrays and of objects go through elements with commas between them in the same way,
and differ in what an element is and in the bracket that closes them.  Both are brought to one
reader here, so that what is said of lists is said once.

A number is the only element whose end is not seen from its own text: more digits may follow.  So an
element is read from its text only in front of what cannot go on a number (`EndsNumber`), and a
comma and both closing brackets are such. -/

section

variable {α : Type}

/-- Elements with commas between them up to a closing bracket, at least one; `fuel` bounds their
number. -/
def readList (element : Reader α) (closing : Char) : Nat → Reader (List α)
  | 0, _ => none
  | fuel + 1, cs => do
    let (x, rest) ← element cs
    match skipSpace rest with
    | [] => none
    | c :: rest =>
      if c = ',' then
        let (xs, rest) ← readList element closing fuel rest
        pure (x :: xs, rest)
      else if c = closing then pure ([x], rest)
      else none

/-- The elements of an array are such a list. -/
theorem readItems_eq (item : Reader Json) (fuel : Nat) (cs : List Char) :
    readItems item fuel cs = readList item ']' fuel cs := by
  induction fuel generalizing cs with
  | zero => rfl
  | succ fuel ih =>
    rw [readItems, readList]
    refine congrArg _ (funext fun (x, rest) => ?_)
    dsimp only
    generalize skipSpace rest = tail
    cases tail with
    | nil => rfl
    | cons c tail =>
      by_cases hcomma : c = ','
      · subst hcomma
        simp [ih]
      by_cases hclosing : c = ']'
      · subst hclosing
        rfl
      · simp [hcomma, hclosing]

/-- The fields of an object are such a list, whose elements are names with values. -/
theorem readFields_eq (item : Reader Json) (fuel : Nat) (cs : List Char) :
    readFields item fuel cs = readList (readField item) '\x7d' fuel cs := by
  induction fuel generalizing cs with
  | zero => rfl
  | succ fuel ih =>
    rw [readFields, readList]
    refine congrArg _ (funext fun (x, rest) => ?_)
    dsimp only
    generalize skipSpace rest = tail
    cases tail with
    | nil => rfl
    | cons c tail =>
      by_cases hcomma : c = ','
      · subst hcomma
        simp [ih]
      by_cases hclosing : c = '\x7d'
      · subst hclosing
        rfl
      · simp [hcomma, hclosing]

/-- What holds of each element that is read holds of all elements of a list. -/
theorem forall_of_readList {P : α → Prop} {element : Reader α} {closing : Char}
    (helement : ∀ cs x rest, element cs = some (x, rest) → P x) {fuel : Nat} {cs : List Char}
    {xs : List α} {rest : List Char} (h : readList element closing fuel cs = some (xs, rest)) :
    ∀ x ∈ xs, P x := by
  induction fuel generalizing cs xs with
  | zero => cases h
  | succ fuel ih =>
    obtain ⟨⟨x, tail⟩, hx, h⟩ := Option.bind_eq_some_iff.1 h
    have hfirst := helement cs x tail hx
    dsimp only at h
    split at h
    · cases h
    split at h
    · obtain ⟨⟨xs', rest'⟩, hxs, heq⟩ := Option.bind_eq_some_iff.1 h
      cases heq
      exact List.forall_mem_cons.2 ⟨hfirst, ih hxs⟩
    split at h
    · cases h
      exact List.forall_mem_singleton.2 hfirst
    · cases h

/-- A text in front of which a number ends. -/
def EndsNumber (rest : List Char) : Prop :=
  ∀ c, rest.head? = some c → isNumberChar c = false ∧ c ≠ 'E'

theorem endsNumber_nil : EndsNumber [] := nofun

theorem endsNumber_cons {c : Char} (hc : isNumberChar c = false ∧ c ≠ 'E') (rest : List Char) :
    EndsNumber (c :: rest) :=
  fun _ h => Option.some.inj h ▸ hc

/-- A list is read from its elements, written with commas between them, if each of them is. -/
theorem readList_joinSep {element : Reader α} {write : α → List Char} {closing : Char}
    (hspace : isSpace closing = false) (hcomma : closing ≠ ',')
    (hnumber : isNumberChar closing = false ∧ closing ≠ 'E') {xs : List α} (hne : xs ≠ [])
    (helement : ∀ x ∈ xs, ∀ rest, EndsNumber rest → element (write x ++ rest) = some (x, rest))
    {fuel : Nat} (hfuel : xs.length ≤ fuel) (rest : List Char) :
    readList element closing fuel (joinSep ',' (xs.map write) ++ closing :: rest) =
      some (xs, rest) := by
  induction xs generalizing fuel with
  | nil => exact absurd rfl hne
  | cons x xs ih =>
    obtain ⟨hx, hxs⟩ := List.forall_mem_cons.1 helement
    cases fuel with
    | zero => exact absurd hfuel (Nat.not_succ_le_zero _)
    | succ fuel =>
      rw [readList]
      -- The last element is followed by the bracket, and any other by a comma and the rest of the
      -- list.
      by_cases hlast : xs = []
      · subst hlast
        have hskip : skipSpace (closing :: rest) = closing :: rest :=
          List.dropWhile_cons_of_neg (by simp [hspace])
        rw [List.map_singleton, joinSep, hx _ (endsNumber_cons hnumber rest), Option.bind_eq_bind,
          Option.bind_some]
        dsimp only
        rw [hskip]
        dsimp only
        rw [if_neg hcomma, if_pos rfl]
        rfl
      · have hskip : ∀ tail, skipSpace (',' :: tail) = ',' :: tail := fun _ => rfl
        have hends : ∀ tail, EndsNumber (',' :: tail) := endsNumber_cons (by decide)
        rw [List.map_cons, joinSep_cons _ (by simpa using hlast), List.append_assoc,
          List.cons_append, hx _ (hends _), Option.bind_eq_bind, Option.bind_some]
        dsimp only
        rw [hskip]
        dsimp only
        rw [if_pos rfl, ih hlast hxs (Nat.le_of_succ_le_succ hfuel)]
        rfl

/-- A list is read in the same way with the fuel that the reader has: the length of its text bounds
the number of the elements that are written in it. -/
theorem readList_text {element : Reader α} {write : α → List Char} (closing : Char)
    (hspace : isSpace closing = false) (hcomma : closing ≠ ',')
    (hnumber : isNumberChar closing = false ∧ closing ≠ 'E') {xs : List α} (hne : xs ≠ [])
    (helement : ∀ x ∈ xs, ∀ rest, EndsNumber rest → element (write x ++ rest) = some (x, rest))
    (rest : List Char) :
    readList element closing ((joinSep ',' (xs.map write) ++ closing :: rest).length + 1)
      (joinSep ',' (xs.map write) ++ closing :: rest) = some (xs, rest) := by
  refine readList_joinSep hspace hcomma hnumber hne helement ?_ rest
  have hlength := length_le_joinSep ',' (xs.map write)
  rw [List.length_map] at hlength
  rw [List.length_append, List.length_cons]
  omega

end

/-! ## Strings

Each character is read again from its escape, and the induction is on the characters of the string,
not on those of its text: an escape is several characters long, and so is what one step of the
reader takes. -/

/-- The escape of a character is read as the character. -/
theorem readChars_escapeChar (fuel : Nat) (c : Char) (cs : List Char) :
    readChars (fuel + 1) (escapeChar c ++ cs) =
      (readChars fuel cs).map fun r => (c :: r.1, r.2) := by
  rw [Option.map_eq_bind]
  rw [escapeChar]
  split_ifs with hquote hslash _ _ _ _ _ hcontrol
  -- The characters with an escape of two characters are read by computation.  What is left are the
  -- other control characters, with a code of four digits, and the characters that are no escape.
  any_goals subst c; rfl
  · have hunit : codeUnit? '0' '0' (hexDigit (c.toNat / 16)) (hexDigit (c.toNat % 16)) =
        some c.toNat := by
      have hhigh := hexValue?_hexDigit (c.toNat / 16) (by omega)
      have hlow := hexValue?_hexDigit (c.toNat % 16) (by omega)
      simp only [codeUnit?, hhigh, hlow, show hexValue? '0' = some 0 from rfl, Option.bind_eq_bind,
        Option.bind_some, Option.pure_def, Option.some.injEq]
      omega
    have hescape : readEscape ('u' :: '0' :: '0' :: hexDigit (c.toNat / 16) ::
        hexDigit (c.toNat % 16) :: cs) = some (c, cs) := by
      have hlow : isLowSurrogate c.toNat = false := by simp [isLowSurrogate]; omega
      have hhigh : isHighSurrogate c.toNat = false := by simp [isHighSurrogate]; omega
      simp [readEscape, readCodePoint, hunit, hlow, hhigh]
    simp only [List.cons_append, List.nil_append, readChars, hescape]
    rfl
  · simp only [List.cons_append, List.nil_append]
    rw [readChars, if_neg hcontrol]
    · rfl
    · simpa using hquote
    · simpa using hslash

/-- Characters are read from their escapes up to the closing quotation mark.  The fuel of the reader
is counted in characters that are read, of which there are no more than characters of the text. -/
theorem readChars_flatMap {cs : List Char} {fuel : Nat} (h : cs.length < fuel) (rest : List Char) :
    readChars fuel (cs.flatMap escapeChar ++ '"' :: rest) = some (cs, rest) := by
  induction cs generalizing fuel with
  | nil =>
    cases fuel with
    | zero => cases h
    | succ fuel => rfl
  | cons c cs ih =>
    cases fuel with
    | zero => cases h
    | succ fuel =>
      rw [List.flatMap_cons, List.append_assoc, readChars_escapeChar,
        ih (Nat.lt_of_succ_lt_succ h)]
      rfl

theorem length_le_flatMap_escapeChar (cs : List Char) :
    cs.length ≤ (cs.flatMap escapeChar).length := by
  have hone : ∀ c, 1 ≤ (escapeChar c).length := fun c => by
    rw [escapeChar]
    split_ifs <;> simp
  induction cs with
  | nil => exact Nat.le_refl 0
  | cons c cs ih =>
    rw [List.flatMap_cons, List.length_append, List.length_cons, Nat.add_comm]
    exact Nat.add_le_add (hone c) ih

/-- A string is read from its escaped characters, after the opening quote. -/
theorem readString_append (s : String) (rest : List Char) :
    readString (s.toList.flatMap escapeChar ++ '"' :: rest) = some (s, rest) := by
  have hlength := length_le_flatMap_escapeChar s.toList
  rw [readString, readChars_flatMap (by rw [List.length_append]; omega)]
  exact congrArg (some ∘ (·, rest)) String.ofList_toList

/-! ## Numbers

The reader takes digits for as long as the number fits, and turns to a fraction when it does not. So
a whole number that is read fits 64 bits, and one that fits is read whole. -/

/-- What is taken fits, at every step. -/
theorem takeFitting_le {acc : Nat} (h : acc ≤ maxUnsigned64) (taken : Nat) (cs : List Char) :
    (takeFitting acc taken cs).1 ≤ maxUnsigned64 := by
  induction cs generalizing acc taken with
  | nil => exact h
  | cons c cs ih =>
    rw [takeFitting]
    split
    · exact h
    · next hnext => exact ih (Nat.le_of_not_lt hnext) _

/-- A number without fraction and exponent fits 64 bits, or it is read in floating point: the digits
are taken as long as they fit, and with more of them it is no whole number any more. -/
theorem fits64_of_wholeNumber? {negative : Bool} {digits : List Char} {x : Number}
    (h : wholeNumber? negative digits = some x) : x.Fits64 := by
  have hle := takeFitting_le (Nat.zero_le maxUnsigned64) 0 digits
  simp only [wholeNumber?] at h
  split_ifs at h with hleft hpositive hleast
  · cases h
    exact ⟨Int.le_trans (by decide) (Int.natCast_nonneg _), Int.ofNat_le.2 hle⟩
  · cases h
    exact ⟨hleast.2, Int.le_trans (Int.neg_nonpos_of_nonneg (Int.natCast_nonneg _)) (by decide)⟩
  all_goals
    obtain ⟨f, -, rfl⟩ := Option.map_eq_some_iff.1 h
    exact trivial

/-- So does every number that is read, since one with a fraction or an exponent is read in floating
point. -/
theorem fits64_of_readUnsignedNumber {negative : Bool} {cs rest : List Char} {x : Number}
    (h : readUnsignedNumber negative cs = some (x, rest)) : x.Fits64 := by
  rw [readUnsignedNumber] at h
  dsimp only at h
  split at h
  · cases h
  · cases h
  obtain ⟨⟨fraction, tail⟩, -, h⟩ := Option.bind_eq_some_iff.1 h
  obtain ⟨⟨exponent, tail⟩, -, h⟩ := Option.bind_eq_some_iff.1 h
  dsimp only at h
  split at h
  · obtain ⟨y, hy, heq⟩ := Option.map_eq_some_iff.1 h
    cases heq
    exact fits64_of_wholeNumber? hy
  · obtain ⟨y, hy, heq⟩ := Option.map_eq_some_iff.1 h
    cases heq
    obtain ⟨f, -, rfl⟩ := Option.map_eq_some_iff.1 hy
    exact trivial

theorem fits64_of_readNumber {cs rest : List Char} {x : Number}
    (h : readNumber cs = some (x, rest)) : x.Fits64 := by
  unfold readNumber at h
  split at h <;> exact fits64_of_readUnsignedNumber h

/-- All digits of a number that fits are taken. -/
theorem takeFitting_eq {cs : List Char} {acc taken n : Nat}
    (h : digitsFrom? digitValue? 10 acc cs = some n) (hn : n ≤ maxUnsigned64) :
    takeFitting acc taken cs = (n, taken + cs.length, []) := by
  induction cs generalizing acc taken with
  | nil =>
    cases h
    rfl
  | cons c cs ih =>
    obtain ⟨d, hd, h⟩ := Option.bind_eq_some_iff.1 h
    split at h
    · have hle : acc * 10 + d ≤ maxUnsigned64 :=
        Nat.le_trans (le_of_digitsFrom? (by decide) h) hn
      rw [takeFitting, hd, Option.getD_some, if_neg (Nat.not_lt.2 hle), ih h, List.length_cons,
        Nat.add_assoc, Nat.add_comm 1]
    · cases h

/-- Digits are taken up to where a number ends. -/
theorem span_digits {digits rest : List Char} (hdigits : ∀ c ∈ digits, isDigit c = true)
    (hrest : EndsNumber rest) : (digits ++ rest).takeWhile isDigit = digits ∧
      (digits ++ rest).dropWhile isDigit = rest := by
  rw [List.takeWhile_append_of_pos hdigits, List.dropWhile_append_of_pos hdigits]
  cases rest with
  | nil => exact ⟨List.append_nil _, rfl⟩
  | cons c rest =>
    have hc : isDigit c = false := by
      have hnumber := (hrest c rfl).1
      rw [isNumberChar, Bool.or_eq_false_iff] at hnumber
      exact hnumber.1
    rw [List.takeWhile_cons, List.dropWhile_cons, hc]
    exact ⟨List.append_nil _, rfl⟩

/-- Where a number ends no fraction begins. -/
theorem readFraction_of_endsNumber {rest : List Char} (h : EndsNumber rest) :
    readFraction rest = some (none, rest) := by
  unfold readFraction
  split
  · exact absurd (h '.' rfl).1 (by decide)
  · rfl

/-- Where a number ends no exponent begins, in letters of either case. -/
theorem readExponent_of_endsNumber {rest : List Char} (h : EndsNumber rest) :
    readExponent rest = some (none, rest) := by
  unfold readExponent
  split
  · exact absurd (h 'e' rfl).1 (by decide)
  · exact absurd rfl (h 'E' rfl).2
  · rfl

/-- The numeral of a natural number is read as far as it goes. -/
theorem readUnsignedNumber_append (negative : Bool) (n : Nat) {rest : List Char}
    (hrest : EndsNumber rest) : readUnsignedNumber negative ((toString n).toList ++ rest) =
      (wholeNumber? negative (toString n).toList).map (·, rest) := by
  have hdigits : ∀ c ∈ (toString n).toList, isDigit c = true := fun c hc =>
    isDigit_of_mem_padded (toList_toString n ▸ hc)
  obtain ⟨htake, hdrop⟩ := span_digits hdigits hrest
  rw [readUnsignedNumber, htake, hdrop, readFraction_of_endsNumber hrest]
  dsimp only
  split
  · next hnil => exact absurd hnil (by simp)
  · next c cs hzero =>
    rw [toString_eq_ofList, String.toList_ofList] at hzero
    have hn : n = 0 := eq_zero_of_head?_toDigits (by rw [hzero]; rfl)
    rw [hn] at hzero
    cases hzero
  · rw [Option.bind_eq_bind, Option.bind_some, readExponent_of_endsNumber hrest]
    rfl

/-- The numeral of a number is read as that number if it fits, with its sign. -/
theorem wholeNumber?_toString {negative : Bool} {n : Nat} (hn : n ≤ maxUnsigned64)
    (hsign : negative = true → 0 < n ∧ minSigned64 ≤ -Int.ofNat n) :
    wholeNumber? negative (toString n).toList =
      some (.integer (if negative then -Int.ofNat n else Int.ofNat n)) := by
  have hvalue : digitsFrom? digitValue? 10 0 (toString n).toList = some n := by
    have h := digitsFrom?_toDigits (by decide) readsDigits_ten n []
    rw [List.append_nil] at h
    rw [toString_eq_ofList, String.toList_ofList, h]
    rfl
  rw [wholeNumber?, takeFitting_eq hvalue hn]
  cases negative with
  | false => rfl
  | true =>
    simp only [List.isEmpty_nil, if_true, Bool.not_true, if_neg Bool.false_ne_true,
      if_pos (hsign rfl)]

/-- The text of a whole number is read as far as it goes. -/
theorem readNumber_integer {z : Int} (hz : minSigned64 ≤ z ∧ z ≤ maxUnsigned64)
    {rest : List Char} (hrest : EndsNumber rest) :
    readNumber ((Number.integer z).text.toList ++ rest) = some (.integer z, rest) := by
  cases z with
  | ofNat n =>
    have htext : (Number.integer (.ofNat n)).text.toList = (toString n).toList := rfl
    have hunsigned : readNumber ((toString n).toList ++ rest) =
        readUnsignedNumber false ((toString n).toList ++ rest) := by
      obtain ⟨c, digits, hcons, hc⟩ := padded_eq_cons 0 n
      rw [toList_toString, hcons, List.cons_append, readNumber]
      exact fun _ heq => ne_of_isDigit hc (by decide) (List.cons.inj heq).1
    rw [htext, hunsigned, readUnsignedNumber_append false n hrest,
      wholeNumber?_toString (Int.ofNat_le.1 hz.2) fun h => absurd h Bool.false_ne_true]
    rfl
  | negSucc n =>
    have htext : (Number.integer (.negSucc n)).text.toList = '-' :: (toString (n + 1)).toList :=
      String.toList_append
    have hle : n + 1 ≤ maxUnsigned64 := by
      have hleast : minSigned64 = -0x8000000000000000 := rfl
      have hgreatest : maxUnsigned64 = 0xffffffffffffffff := rfl
      omega
    rw [htext, List.cons_append, readNumber, readUnsignedNumber_append true (n + 1) hrest,
      wholeNumber?_toString hle fun _ => ⟨Nat.succ_pos n, hz.1⟩]
    rfl

/-! ## Values that are read

What is read of a text can be read again.  That the depth goes down with each array and object is
what the induction is on, and it is the reader that sees to it. -/

/-- The value has whole numbers of 64 bits, objects with their fields in key order, and nests at
most `n` deep. -/
inductive Legible : Nat → Json → Prop where
  | null {n : Nat} : Legible n null
  | bool {n : Nat} (b : Bool) : Legible n (bool b)
  | number {n : Nat} {x : Number} (h : x.Fits64) : Legible n (number x)
  | string {n : Nat} (s : String) : Legible n (string s)
  | array {n : Nat} {items : List Json} (h : ∀ v ∈ items, Legible n v) :
    Legible (n + 1) (array items)
  | object {n : Nat} {fields : List (String × Json)} (hordered : Assoc.Ordered fields)
    (h : ∀ f ∈ fields, Legible n f.2) : Legible (n + 1) (object fields)

/-- All numbers in the value are whole. -/
inductive Whole : Json → Prop where
  | null : Whole null
  | bool (b : Bool) : Whole (bool b)
  | integer (z : Int) : Whole (number (.integer z))
  | string (s : String) : Whole (string s)
  | array {items : List Json} (h : ∀ v ∈ items, Whole v) : Whole (array items)
  | object {fields : List (String × Json)} (h : ∀ f ∈ fields, Whole f.2) : Whole (object fields)

/-- What is legible at some depth is so at each greater one. -/
theorem Legible.mono {n m : Nat} {v : Json} (h : Legible n v) (hnm : n ≤ m) : Legible m v := by
  induction h generalizing m with
  | null => exact .null
  | bool b => exact .bool b
  | number h => exact .number h
  | string s => exact .string s
  | array _ ih =>
    cases m with
    | zero => exact absurd hnm (Nat.not_succ_le_zero _)
    | succ m => exact .array fun v hv => ih v hv (Nat.le_of_succ_le_succ hnm)
  | object hordered _ ih =>
    cases m with
    | zero => exact absurd hnm (Nat.not_succ_le_zero _)
    | succ m => exact .object hordered fun f hf => ih f hf (Nat.le_of_succ_le_succ hnm)

/-- A record of values nests one deeper than these. -/
theorem legible_record {n : Nat} {fields : List (String × Json)}
    (h : ∀ f ∈ fields, Legible n f.2) : Legible (n + 1) (record fields) :=
  .object (Assoc.ordered_ofPairs fields) fun f hf => h f (Assoc.mem_ofPairs hf)

theorem Legible.get? {n : Nat} {v member : Json} {key : String} (h : Legible (n + 1) v)
    (hget : v.get? key = some member) : Legible n member := by
  cases h with
  | object hordered hfields => exact hfields _ (Assoc.mem_of_lookup? hget)
  | _ => cases hget

theorem Legible.asArray? {n : Nat} {v : Json} {items : List Json} (h : Legible (n + 1) v)
    (hitems : v.asArray? = some items) : ∀ x ∈ items, Legible n x := by
  cases h with
  | array h =>
    cases hitems
    exact h
  | _ => cases hitems

theorem Legible.asObject? {n : Nat} {v : Json} {fields : List (String × Json)}
    (h : Legible (n + 1) v) (hfields : v.asObject? = some fields) :
    Legible (n + 1) (Json.object fields) := by
  cases h with
  | object hordered h =>
    cases hfields
    exact .object hordered h
  | _ => cases hfields

section

variable {n : Nat} {item : Reader Json} {cs rest : List Char} {v : Json}

/-- A field is as legible as its value. -/
theorem legible_of_readField (hitem : ∀ cs v rest, item cs = some (v, rest) → Legible n v)
    {f : String × Json} (h : readField item cs = some (f, rest)) : Legible n f.2 := by
  rw [readField] at h
  split at h
  · obtain ⟨⟨key, tail⟩, -, h⟩ := Option.bind_eq_some_iff.1 h
    dsimp only at h
    split at h
    · obtain ⟨⟨value, tail⟩, hvalue, heq⟩ := Option.bind_eq_some_iff.1 h
      cases heq
      exact hitem _ _ _ hvalue
    · cases h
  · cases h

/-- An array that is read nests one deeper than its items. -/
theorem legible_of_readArray (hitem : ∀ cs v rest, item cs = some (v, rest) → Legible n v)
    (h : readArray item cs = some (v, rest)) : Legible (n + 1) v := by
  rw [readArray] at h
  split at h
  · cases h
    exact .array (List.forall_mem_nil _)
  · obtain ⟨⟨items, tail⟩, hitems, heq⟩ := Option.map_eq_some_iff.1 h
    cases heq
    rw [readItems_eq] at hitems
    exact .array (forall_of_readList hitem hitems)

/-- So does an object, and its keys are in order and different: a field that comes again takes the
place of the one before. -/
theorem legible_of_readObject (hitem : ∀ cs v rest, item cs = some (v, rest) → Legible n v)
    (h : readObject item cs = some (v, rest)) : Legible (n + 1) v := by
  rw [readObject] at h
  split at h
  · cases h
    exact .object List.Pairwise.nil (List.forall_mem_nil _)
  · obtain ⟨⟨fields, tail⟩, hfields, heq⟩ := Option.map_eq_some_iff.1 h
    cases heq
    rw [readFields_eq] at hfields
    exact legible_record (forall_of_readList (fun _ _ _ => legible_of_readField hitem) hfields)

end

/-- **What is read is legible**, and nests less deep than the reader allows. -/
theorem legible_of_readValue {n : Nat} {cs rest : List Char} {v : Json}
    (h : readValue (n + 1) cs = some (v, rest)) : Legible n v := by
  induction n using Nat.strongRecOn generalizing cs v rest with
  | _ n ih =>
    have hitem : ∀ m, n = m + 1 → ∀ cs v rest, readValue n cs = some (v, rest) → Legible m v := by
      rintro m rfl cs v rest
      exact ih m (Nat.lt_succ_self m)
    rw [readValue] at h
    split at h
    · cases h
      exact .null
    · cases h
      exact .bool true
    · cases h
      exact .bool false
    · obtain ⟨⟨s, tail⟩, -, heq⟩ := Option.map_eq_some_iff.1 h
      cases heq
      exact .string s
    · split at h
      · cases h
      · next hn =>
        obtain ⟨m, rfl⟩ := Nat.exists_eq_succ_of_ne_zero hn
        exact legible_of_readArray (hitem m rfl) h
    · split at h
      · cases h
      · next hn =>
        obtain ⟨m, rfl⟩ := Nat.exists_eq_succ_of_ne_zero hn
        exact legible_of_readObject (hitem m rfl) h
    · obtain ⟨⟨x, tail⟩, hx, heq⟩ := Option.map_eq_some_iff.1 h
      cases heq
      exact .number (fits64_of_readNumber hx)

/-- What a text is read as can be read again. -/
theorem legible_of_parse? {text : String} {v : Json} (h : parse? text = some v) :
    Legible 127 v := by
  obtain ⟨⟨value, rest⟩, hvalue, h⟩ := Option.bind_eq_some_iff.1 h
  dsimp only at h
  split at h
  · cases h
    exact legible_of_readValue hvalue
  · cases h

/-! ## Values that are written

The first character of a compact text tells the reader what kind of value comes, so for each kind it
is enough to look at one character.  For arrays it also has to be seen that no element begins with
the bracket that would end them. -/

theorem isSpace_of_isNumberChar {c : Char} (h : isNumberChar c = true) : isSpace c = false := by
  have hne : ∀ d, isNumberChar d = false → (c == d) = false := fun d hd =>
    beq_false_of_ne fun heq => Bool.false_ne_true (hd.symm.trans (heq ▸ h))
  rw [isSpace, hne ' ' (by decide), hne '\t' (by decide), hne '\n' (by decide),
    hne '\r' (by decide)]
  rfl

/-- The text of a number begins with one of its characters. -/
theorem numberText_eq_cons (x : Number) :
    ∃ c cs, x.text.toList = c :: cs ∧ isNumberChar c = true := by
  cases htext : x.text.toList with
  | nil => exact absurd (String.toList_eq_nil_iff.1 htext) x.text_ne_empty
  | cons c cs => exact ⟨c, cs, rfl, x.isNumberText c (htext ▸ List.mem_cons_self)⟩

/-- The compact text of a value begins with no blank and closes no array. -/
theorem compact_eq_cons (v : Json) :
    ∃ c cs, v.compact.toList = c :: cs ∧ isSpace c = false ∧ c ≠ ']' := by
  cases v with
  | null => exact ⟨'n', _, rfl, by decide, by decide⟩
  | bool b => cases b <;> exact ⟨_, _, rfl, by decide, by decide⟩
  | number x =>
    obtain ⟨c, cs, htext, hc⟩ := numberText_eq_cons x
    refine ⟨c, cs, htext, isSpace_of_isNumberChar hc, ?_⟩
    rintro rfl
    cases hc
  | string s =>
    rw [compact, toList_writeString]
    exact ⟨'"', _, rfl, by decide, by decide⟩
  | array items =>
    rw [toList_compact_array]
    exact ⟨'[', _, rfl, by decide, by decide⟩
  | object fields =>
    rw [toList_compact_object]
    exact ⟨'\x7b', _, rfl, by decide, by decide⟩

section

variable {item : Reader Json}

/-- A field is read if its value is. -/
theorem readField_fieldChars {f : String × Json} {rest : List Char}
    (hitem : item (f.2.compact.toList ++ rest) = some (f.2, rest)) :
    readField item (fieldChars f ++ rest) = some (f, rest) := by
  rw [fieldChars, toList_writeString, List.append_assoc, List.cons_append, List.append_assoc]
  simp only [List.cons_append, List.nil_append, readField]
  have hskip : ∀ tail, skipSpace ('"' :: tail) = '"' :: tail := fun _ => rfl
  have hcolon : ∀ tail, skipSpace (':' :: tail) = ':' :: tail := fun _ => rfl
  simp only [hskip, readString_append, hcolon, hitem, Option.bind_eq_bind, Option.bind_some]
  rfl

/-- An array that does not end at once has elements. -/
theorem readArray_cons {c : Char} (hspace : isSpace c = false) (hclosing : c ≠ ']')
    (cs : List Char) : readArray item (c :: cs) =
      (readItems item ((c :: cs).length + 1) (c :: cs)).map fun r => (.array r.1, r.2) := by
  have hskip : skipSpace (c :: cs) = c :: cs := List.dropWhile_cons_of_neg (by simp [hspace])
  rw [readArray, hskip]
  split
  · next heq => exact absurd (List.cons.inj heq).1 hclosing
  · rfl

/-- An array is read from its items, if each of them is. -/
theorem readArray_items {items : List Json}
    (hitem : ∀ v ∈ items, ∀ rest, EndsNumber rest →
      item (v.compact.toList ++ rest) = some (v, rest)) (rest : List Char) :
    readArray item (joinSep ',' (items.map fun v => v.compact.toList) ++ ']' :: rest) =
      some (.array items, rest) := by
  cases items with
  | nil => rfl
  | cons v items =>
    have hread := readList_text ']' (by decide) (by decide) (by decide)
      (List.cons_ne_nil v items) hitem rest
    obtain ⟨c, cs, htext, hspace, hclosing⟩ := compact_eq_cons v
    obtain ⟨more, hjoin⟩ := joinSep_eq_append ',' v.compact.toList
      (items.map fun v => v.compact.toList)
    rw [List.map_cons, hjoin, htext, List.cons_append, List.cons_append] at hread ⊢
    rw [readArray_cons hspace hclosing, readItems_eq, hread]
    rfl

/-- An object whose text begins with a key has fields. -/
theorem readObject_quote (cs : List Char) : readObject item ('"' :: cs) =
    (readFields item (('"' :: cs).length + 1) ('"' :: cs)).map fun r => (.record r.1, r.2) := rfl

/-- An object is read from its fields.  They are put in order while they are read, and so they have
to be in order before. -/
theorem readObject_fields {fields : List (String × Json)} (hordered : Assoc.Ordered fields)
    (hitem : ∀ f ∈ fields, ∀ rest, EndsNumber rest →
      item (f.2.compact.toList ++ rest) = some (f.2, rest)) (rest : List Char) :
    readObject item (joinSep ',' (fields.map fieldChars) ++ '\x7d' :: rest) =
      some (.object fields, rest) := by
  cases fields with
  | nil => rfl
  | cons f fields =>
    have hread := readList_text '\x7d' (by decide) (by decide) (by decide)
      (List.cons_ne_nil f fields)
      (fun f hf rest hrest => readField_fieldChars (hitem f hf rest hrest)) rest
    obtain ⟨more, hjoin⟩ := joinSep_eq_append ',' (fieldChars f) (fields.map fieldChars)
    have hrecord : record (f :: fields) = object (f :: fields) :=
      congrArg object (Assoc.ofPairs_of_ordered hordered)
    rw [List.map_cons, hjoin, fieldChars, toList_writeString, List.cons_append, List.cons_append,
      List.cons_append] at hread ⊢
    rw [readObject_quote, readFields_eq, hread, Option.map_some, hrecord]

end

/-- No value but a number begins with a character of a number. -/
theorem readValue_of_isNumberChar {c : Char} (hc : isNumberChar c = true) (depth : Nat)
    (cs : List Char) : readValue (depth + 1) (c :: cs) =
      (readNumber (c :: cs)).map fun r => (.number r.1, r.2) := by
  have hskip : skipSpace (c :: cs) = c :: cs :=
    List.dropWhile_cons_of_neg (by simp [isSpace_of_isNumberChar hc])
  have hne : ∀ d tail tail', isNumberChar d = false → c :: tail ≠ d :: tail' :=
    fun d _ _ hd heq => Bool.false_ne_true (hd.symm.trans ((List.cons.inj heq).1 ▸ hc))
  rw [readValue, hskip]
  split
  · next heq => exact absurd heq (hne _ _ _ (by decide))
  · next heq => exact absurd heq (hne _ _ _ (by decide))
  · next heq => exact absurd heq (hne _ _ _ (by decide))
  · next heq => exact absurd heq (hne _ _ _ (by decide))
  · next heq => exact absurd heq (hne _ _ _ (by decide))
  · next heq => exact absurd heq (hne _ _ _ (by decide))
  · rfl

/-- A number is read from its numeral. -/
theorem readValue_integer (depth : Nat) {z : Int} (hz : minSigned64 ≤ z ∧ z ≤ maxUnsigned64)
    {rest : List Char} (hrest : EndsNumber rest) :
    readValue (depth + 1) ((number (.integer z)).compact.toList ++ rest) =
      some (number (.integer z), rest) := by
  obtain ⟨c, cs, htext, hc⟩ := numberText_eq_cons (.integer z)
  have hread := readNumber_integer hz hrest
  rw [compact]
  rw [htext, List.cons_append] at hread ⊢
  rw [readValue_of_isNumberChar hc, hread]
  rfl

/-- **Reading again.**  The compact text of a value is read as the value, if it is one that can be
read and all its numbers are whole. -/
theorem readValue_compact {n : Nat} {v : Json} (h : Legible n v) (hwhole : Whole v)
    {rest : List Char} (hrest : EndsNumber rest) :
    readValue (n + 1) (v.compact.toList ++ rest) = some (v, rest) := by
  induction h generalizing rest with
  | null => rfl
  | bool b => cases b <;> rfl
  | number h =>
    cases hwhole
    exact readValue_integer _ h hrest
  | string s =>
    rw [compact, toList_writeString, List.cons_append, List.append_assoc]
    exact congrArg (Option.map fun r => (string r.1, r.2)) (readString_append s rest)
  | array h ih =>
    cases hwhole with
    | array hwhole =>
      rw [toList_compact_array, List.cons_append, List.cons_append, List.append_assoc]
      exact readArray_items (fun v hv rest hrest => ih v hv (hwhole v hv) hrest) rest
  | object hordered h ih =>
    cases hwhole with
    | object hwhole =>
      rw [toList_compact_object, List.cons_append, List.cons_append, List.append_assoc]
      exact readObject_fields hordered (fun f hf rest hrest => ih f hf (hwhole f hf) hrest) rest

/-- The compact text on its own is read as the value. -/
theorem parse?_compact {v : Json} (h : Legible 127 v) (hwhole : Whole v) :
    parse? v.compact = some v := by
  have hread := readValue_compact h hwhole endsNumber_nil
  rw [List.append_nil] at hread
  rw [parse?, depthLimit, hread]
  rfl

end Json

end ThreatGraph
