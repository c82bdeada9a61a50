import Mathlib.Algebra.Group.Nat.Defs
import ThreatGraph.Text.Numeral

/-!
# Reading back numerals

The digits that are written for a number are read as that number, and reading goes on from there
with the digits after them (`digitsFrom?_toDigits`).

A number that is written with a width has that many digits, if it fits, and these are read as the
number too (`length_padded`, `digitsValue?_padded`).  So is the numeral of a whole number that fits
64 bits (`readSigned64?_toString`).  Conversely, digits that are read as a number are its own with
any zeros in front (`digitsValue?_eq_some_iff`).

Digits are read from the left, with the value so far in an argument, while the digits of a number
are found from the right.  `toDigits_induction` goes along both: it adds a digit at the end of those
that are there, as the reader comes to it.
-/

set_option autoImplicit false

namespace ThreatGraph

/-- A digit is read as its value. -/
def ReadsDigits (digit? : Char → Option Nat) (base : Nat) : Prop :=
  ∀ d < base, digit? (Nat.digitChar d) = some d

/-- Decimal digits have their values. -/
theorem readsDigits_ten : ReadsDigits digitValue? 10 := by
  rw [ReadsDigits]
  decide

/-- So have the digits of base sixteen. -/
theorem readsDigits_sixteen : ReadsDigits hexValue? 16 := by
  rw [ReadsDigits]
  decide

theorem hexValue?_hexDigit : ∀ d < 16, hexValue? (hexDigit d) = some d := by decide

/-- Induction along the digits of a number. -/
theorem toDigits_induction {base : Nat} (hbase : 1 < base) {motive : Nat → List Char → Prop}
    (one : ∀ d < base, motive d [Nat.digitChar d])
    (more : ∀ n d, 0 < n → d < base → motive n (Nat.toDigits base n) →
      motive (n * base + d) (Nat.toDigits base n ++ [Nat.digitChar d])) (n : Nat) :
    motive n (Nat.toDigits base n) := by
  by_cases h : n < base
  · rw [Nat.toDigits_of_lt_base h]
    exact one n h
  · have hle : base ≤ n := Nat.le_of_not_lt h
    have hlt : n / base < n := Nat.div_lt_self (by omega) hbase
    have hmore := more (n / base) (n % base) (Nat.div_pos hle (by omega))
      (Nat.mod_lt n (by omega)) (toDigits_induction hbase one more (n / base))
    rwa [Nat.div_add_mod', ← Nat.toDigits_of_base_le hbase hle] at hmore
termination_by n

/-- **Reading digits.**  The digits of a number are read as the number, whatever follows them. -/
theorem digitsFrom?_toDigits {digit? : Char → Option Nat} {base : Nat} (hbase : 1 < base)
    (hdigit : ReadsDigits digit? base) (n : Nat) (rest : List Char) :
    digitsFrom? digit? base 0 (Nat.toDigits base n ++ rest) = digitsFrom? digit? base n rest := by
  have hstep : ∀ acc d, d < base → ∀ rest, digitsFrom? digit? base acc (Nat.digitChar d :: rest) =
      digitsFrom? digit? base (acc * base + d) rest := by
    intro acc d hd rest
    simp [digitsFrom?, hdigit d hd, hd]
  induction n using toDigits_induction hbase generalizing rest with
  | one d hd => rw [List.singleton_append, hstep 0 d hd, Nat.zero_mul, Nat.zero_add]
  | more n d _ hd ih => rw [List.append_assoc, ih, List.singleton_append, hstep n d hd]

/-- The characters of a numeral are digits of its base. -/
theorem mem_toDigits {base n : Nat} (hbase : 1 < base) {c : Char} (h : c ∈ Nat.toDigits base n) :
    ∃ d < base, c = Nat.digitChar d := by
  induction n using toDigits_induction hbase with
  | one d hd => exact ⟨d, hd, List.mem_singleton.1 h⟩
  | more n d _ hd ih =>
    rcases List.mem_append.1 h with h | h
    · exact ih h
    · exact ⟨d, hd, List.mem_singleton.1 h⟩

/-- Only zero begins with the digit zero. -/
theorem eq_zero_of_head?_toDigits {n : Nat} (h : (Nat.toDigits 10 n).head? = some '0') : n = 0 := by
  induction n using toDigits_induction (by decide : 1 < 10) with
  | one d hd =>
    have hzero : ∀ d < 10, Nat.digitChar d = '0' → d = 0 := by decide
    exact hzero d hd (Option.some.inj h)
  | more n d hn _ ih =>
    obtain ⟨c, cs, hcs⟩ := List.exists_cons_of_ne_nil (Nat.toDigits_ne_nil (b := 10) (n := n))
    rw [hcs] at ih h
    exact absurd (ih h) (Nat.ne_of_gt hn)

/-- The digits of a number in base sixteen are read as the number. -/
theorem digitsValueIn?_toDigits (n : Nat) : digitsValueIn? 16 (Nat.toDigits 16 n) = some n := by
  have h := digitsFrom?_toDigits (by decide) readsDigits_sixteen n []
  rw [List.append_nil] at h
  unfold digitsValueIn?
  split
  · next hnil => exact absurd hnil Nat.toDigits_ne_nil
  · exact h

/-! ## Numerals of a width

A numeral of a width has zeros in front of it.  They add nothing to its value, but they make sure
that it is not shorter than its reader asks for. -/

theorem isDigit_digitChar {d : Nat} (h : d < 10) : isDigit (Nat.digitChar d) = true := by
  rw [isDigit, readsDigits_ten d h]
  rfl

/-- A digit is none of the other characters. -/
theorem ne_of_isDigit {c d : Char} (hc : isDigit c = true) (hd : isDigit d = false) : c ≠ d := by
  rintro rfl
  rw [hc] at hd
  cases hd

theorem toString_eq_ofList (n : Nat) : toString n = String.ofList (Nat.toDigits 10 n) :=
  Nat.repr_eq_ofList_toDigits

/-- The zeros in front fill up the width, and there are none if the number is too long for it. -/
theorem toList_padded (width n : Nat) : (padded width n).toList =
    List.replicate (width - (Nat.toDigits 10 n).length) '0' ++ Nat.toDigits 10 n := by
  rw [padded, toString_eq_ofList, String.toList_append, String.toList_ofList, String.toList_ofList,
    String.length_ofList]

/-- A number that fits a width is written in it. -/
theorem length_padded {width n : Nat} (hwidth : 0 < width) (h : n < 10 ^ width) :
    (padded width n).toList.length = width := by
  have hle := (Nat.length_toDigits_le_iff (by decide : 1 < 10) hwidth).2 h
  rw [toList_padded, List.length_append, List.length_replicate, Nat.sub_add_cancel hle]

theorem isDigit_of_mem_padded {width n : Nat} {c : Char} (h : c ∈ (padded width n).toList) :
    isDigit c = true := by
  rw [toList_padded, List.mem_append] at h
  rcases h with h | h
  · rw [List.eq_of_mem_replicate h]
    decide
  · obtain ⟨d, hd, rfl⟩ := mem_toDigits (by decide) h
    exact isDigit_digitChar hd

/-- A number with zeros in front is read as the number. -/
theorem digitsValue?_padded (width n : Nat) : digitsValue? (padded width n).toList = some n := by
  have hzeros : ∀ k rest, digitsFrom? digitValue? 10 0 (List.replicate k '0' ++ rest) =
      digitsFrom? digitValue? 10 0 rest := by
    intro k rest
    induction k with
    | zero => rfl
    | succ k ih =>
      rw [List.replicate_succ, List.cons_append]
      exact ih
  have hdigits : digitsFrom? digitValue? 10 0 (padded width n).toList = some n := by
    have h := digitsFrom?_toDigits (by decide) readsDigits_ten n []
    rw [List.append_nil] at h
    rw [toList_padded, hzeros, h]
    rfl
  unfold digitsValue?
  split
  · next hnil =>
    have hne := congrArg List.length hnil
    rw [toList_padded, List.length_append] at hne
    exact absurd (List.eq_nil_of_length_eq_zero (Nat.eq_zero_of_add_eq_zero_left hne))
      Nat.toDigits_ne_nil
  · exact hdigits

/-- A numeral of some width begins with a digit. -/
theorem padded_eq_cons (width n : Nat) :
    ∃ c digits, (padded width n).toList = c :: digits ∧ isDigit c = true := by
  cases htext : (padded width n).toList with
  | nil =>
    have hvalue := digitsValue?_padded width n
    rw [htext] at hvalue
    cases hvalue
  | cons c digits => exact ⟨c, digits, rfl, isDigit_of_mem_padded (htext ▸ List.mem_cons_self)⟩

/-- A value has no more digits than its numeral. -/
theorem lt_of_digitsFrom? {digit? : Char → Option Nat} {base : Nat} {cs : List Char} {acc n k : Nat}
    (h : digitsFrom? digit? base acc cs = some n) (hacc : acc < base ^ k) :
    n < base ^ (k + cs.length) := by
  induction cs generalizing acc k with
  | nil =>
    cases h
    exact hacc
  | cons c cs ih =>
    obtain ⟨d, _, hd⟩ := Option.bind_eq_some_iff.1 h
    split at hd
    · next hbase =>
      have hnext : acc * base + d < base ^ (k + 1) := by
        calc acc * base + d < acc * base + base := Nat.add_lt_add_left hbase _
          _ = (acc + 1) * base := (Nat.succ_mul acc base).symm
          _ ≤ base ^ k * base := Nat.mul_le_mul_right _ hacc
          _ = base ^ (k + 1) := (Nat.pow_succ ..).symm
      have := ih hd hnext
      rwa [List.length_cons, Nat.add_comm cs.length, ← Nat.add_assoc]
    · cases hd

/-- A value is not below that of its leading digits. -/
theorem le_of_digitsFrom? {digit? : Char → Option Nat} {base : Nat} (hbase : 0 < base)
    {cs : List Char} {acc n : Nat} (h : digitsFrom? digit? base acc cs = some n) : acc ≤ n := by
  induction cs generalizing acc with
  | nil => exact Nat.le_of_eq (Option.some.inj h)
  | cons c cs ih =>
    obtain ⟨d, -, hd⟩ := Option.bind_eq_some_iff.1 h
    split at hd
    · calc acc ≤ acc * base := Nat.le_mul_of_pos_right acc hbase
        _ ≤ acc * base + d := Nat.le_add_right _ _
        _ ≤ n := ih hd
    · cases hd

/-- A text with a character that is no digit is no numeral. -/
theorem digitsFrom?_of_mem {digit? : Char → Option Nat} {base acc : Nat} {cs : List Char} {c : Char}
    (hc : c ∈ cs) (h : digit? c = none) : digitsFrom? digit? base acc cs = none := by
  induction cs generalizing acc with
  | nil => cases hc
  | cons d cs ih =>
    rw [digitsFrom?]
    cases hd : digit? d with
    | none => rfl
    | some value =>
      have hmem : c ∈ cs := (List.mem_cons.1 hc).resolve_left fun heq => by
        rw [← heq, h] at hd
        cases hd
      change (if value < base then digitsFrom? digit? base (acc * base + value) cs else none) = none
      rw [ih hmem, ite_self]

/-! ## Which texts are numerals

Only leading zeros are lost when digits are read.  Once a digit other than zero has come, the value
is positive, and each further digit is the last one of the value so far; from there on nothing is
lost. -/

/-- What is read as a number is digits only. -/
theorem isDigit_of_digitsValue? {cs : List Char} {n : Nat} (h : digitsValue? cs = some n) :
    ∀ c ∈ cs, isDigit c = true := by
  intro c hc
  rw [isDigit, Option.isSome_iff_ne_none]
  intro hnone
  unfold digitsValue? at h
  split at h
  · cases hc
  · rw [digitsFrom?_of_mem hc hnone] at h
    cases h

/-- The first character of a run of digits. -/
theorem eq_cons_of_digitsValue? {cs : List Char} {n : Nat} (h : digitsValue? cs = some n) :
    ∃ c tail, cs = c :: tail ∧ isDigit c = true := by
  cases cs with
  | nil => cases h
  | cons c tail => exact ⟨c, tail, rfl, isDigit_of_digitsValue? h c List.mem_cons_self⟩

/-- A digit is the character of its value. -/
theorem eq_digitChar_of_digitValue? {c : Char} {d : Nat} (h : digitValue? c = some d) :
    d < 10 ∧ c = Nat.digitChar d := by
  rw [digitValue?] at h
  split at h
  · next hrange =>
    cases h
    have hfirst : 48 ≤ c.toNat := hrange.1
    have hlast : c.toNat ≤ 57 := hrange.2
    have hzero : '0'.toNat = 48 := rfl
    rw [hzero]
    refine ⟨by omega, Char.toNat_inj.1 ?_⟩
    rw [Nat.toNat_digitChar_of_lt_ten (by omega)]
    omega
  · cases h

/-- Digits that are read on from a positive number are the last ones of its value. -/
theorem toDigits_of_digitsFrom? {cs : List Char} {acc n : Nat} (hacc : 0 < acc)
    (h : digitsFrom? digitValue? 10 acc cs = some n) :
    Nat.toDigits 10 n = Nat.toDigits 10 acc ++ cs := by
  induction cs generalizing acc with
  | nil =>
    cases h
    exact (List.append_nil _).symm
  | cons c cs ih =>
    obtain ⟨d, hd, hrest⟩ := Option.bind_eq_some_iff.1 h
    obtain ⟨hlt, rfl⟩ := eq_digitChar_of_digitValue? hd
    rw [if_pos hlt] at hrest
    have hdigits : Nat.toDigits 10 (acc * 10 + d) = Nat.toDigits 10 acc ++ [Nat.digitChar d] := by
      rw [← Nat.toDigits_of_lt_base hlt, Nat.toDigits_append_toDigits (by decide) hacc hlt,
        Nat.mul_comm]
    rw [ih (by omega) hrest, hdigits, List.append_assoc, List.singleton_append]

/-- **Which texts are numerals.**  Digits are read as a number exactly if they are those of the
number, with any zeros in front. -/
theorem digitsValue?_eq_some_iff {cs : List Char} {n : Nat} :
    digitsValue? cs = some n ↔ ∃ zeros, cs = List.replicate zeros '0' ++ Nat.toDigits 10 n := by
  constructor
  · intro h
    induction cs with
    | nil => cases h
    | cons c cs ih =>
      obtain ⟨d, hd, hrest⟩ := Option.bind_eq_some_iff.1 h
      obtain ⟨hlt, rfl⟩ := eq_digitChar_of_digitValue? hd
      rw [if_pos hlt, Nat.zero_mul, Nat.zero_add] at hrest
      rcases Nat.eq_zero_or_pos d with rfl | hpos
      · -- The first digit is a zero: the only one, or one in front of the others.
        cases cs with
        | nil =>
          cases hrest
          exact ⟨0, rfl⟩
        | cons c' cs =>
          obtain ⟨zeros, hzeros⟩ := ih hrest
          exact ⟨zeros + 1, by rw [hzeros, List.replicate_succ, List.cons_append]; rfl⟩
      · refine ⟨0, ?_⟩
        rw [toDigits_of_digitsFrom? hpos hrest, Nat.toDigits_of_lt_base hlt]
        rfl
  · rintro ⟨zeros, rfl⟩
    have h := digitsValue?_padded (zeros + (Nat.toDigits 10 n).length) n
    rwa [toList_padded, Nat.add_sub_cancel] at h

/-- A value that is read and kept if it is fit. -/
theorem bind_ite_eq_some_iff {α : Type} {o : Option α} {fit : α → Prop} [DecidablePred fit]
    {a : α} : (o.bind fun a => if fit a then some a else none) = some a ↔ o = some a ∧ fit a := by
  rw [Option.bind_eq_some_iff]
  constructor
  · rintro ⟨value, hvalue, h⟩
    split at h
    · next hfit =>
      cases h
      exact ⟨hvalue, hfit⟩
    · cases h
  · rintro ⟨hvalue, hfit⟩
    exact ⟨a, hvalue, if_pos hfit⟩

/-- The digits of a number, after a plus sign or not. -/
def IsUnsigned (n : Nat) (cs : List Char) : Prop :=
  ∃ digits, digitsValue? digits = some n ∧ (cs = digits ∨ cs = '+' :: digits)

/-- An unsigned numeral is read if its value is within the limit. -/
theorem readUnsigned?_eq_some_iff {limit n : Nat} {cs : List Char} :
    readUnsigned? limit cs = some n ↔ IsUnsigned n cs ∧ n ≤ limit := by
  constructor
  · intro h
    unfold readUnsigned? at h
    split at h
    · obtain ⟨hvalue, hle⟩ := bind_ite_eq_some_iff.1 h
      exact ⟨⟨_, hvalue, .inr rfl⟩, hle⟩
    · obtain ⟨hvalue, hle⟩ := bind_ite_eq_some_iff.1 h
      exact ⟨⟨_, hvalue, .inl rfl⟩, hle⟩
  · rintro ⟨⟨digits, hvalue, rfl | rfl⟩, hle⟩
    · obtain ⟨c, tail, rfl, hc⟩ := eq_cons_of_digitsValue? hvalue
      unfold readUnsigned?
      split
      · next heq => exact absurd (List.cons.inj heq).1 (ne_of_isDigit hc (by decide))
      · exact bind_ite_eq_some_iff.2 ⟨hvalue, hle⟩
    · exact bind_ite_eq_some_iff.2 ⟨hvalue, hle⟩

/-- A numeral: digits, and a sign in front if there is one. -/
inductive NumeralForm : Int → List Char → Prop where
  | plain {n : Nat} {digits : List Char} (h : digitsValue? digits = some n) :
    NumeralForm n digits
  | plus {n : Nat} {digits : List Char} (h : digitsValue? digits = some n) :
    NumeralForm n ('+' :: digits)
  | minus {n : Nat} {digits : List Char} (h : digitsValue? digits = some n) :
    NumeralForm (-n) ('-' :: digits)

/-- A value that is read from digits and kept if it lies within the bounds. -/
theorem bounded_eq_some_iff {f : Nat → Int} {digits : List Char} {least greatest z : Int} :
    (((digitsValue? digits).map f).bind fun z =>
      if least ≤ z ∧ z ≤ greatest then some z else none) = some z ↔
      (∃ n, digitsValue? digits = some n ∧ f n = z) ∧ least ≤ z ∧ z ≤ greatest := by
  rw [bind_ite_eq_some_iff, Option.map_eq_some_iff]

/-- A signed numeral is read if its value lies within the bounds. -/
theorem readSigned?_eq_some_iff {least greatest z : Int} {cs : List Char} :
    readSigned? least greatest cs = some z ↔
      NumeralForm z cs ∧ least ≤ z ∧ z ≤ greatest := by
  constructor
  · intro h
    unfold readSigned? at h
    split at h <;> obtain ⟨⟨n, hn, rfl⟩, hbounds⟩ := bounded_eq_some_iff.1 h
    · exact ⟨.plus hn, hbounds⟩
    · exact ⟨.minus hn, hbounds⟩
    · exact ⟨.plain hn, hbounds⟩
  · rintro ⟨hform, hbounds⟩
    cases hform with
    | @plain n digits hn =>
      obtain ⟨c, tail, hdigits, hc⟩ := eq_cons_of_digitsValue? hn
      unfold readSigned?
      split
      · exact absurd (List.cons.inj hdigits).1.symm (ne_of_isDigit hc (by decide))
      · exact absurd (List.cons.inj hdigits).1.symm (ne_of_isDigit hc (by decide))
      · exact bounded_eq_some_iff.2 ⟨⟨n, hn, rfl⟩, hbounds⟩
    | plus hn => exact bounded_eq_some_iff.2 ⟨⟨_, hn, rfl⟩, hbounds⟩
    | minus hn => exact bounded_eq_some_iff.2 ⟨⟨_, hn, rfl⟩, hbounds⟩

/-! ## Whole numbers

A negative number is written as a sign and the numeral of its size.  Whether it fits is asked of the
number, and not of its size: the least number of 64 bits has no counterpart of the other sign. -/

/-- The digits of a number are those of a width of zero. -/
theorem toList_toString (n : Nat) : (toString n).toList = (padded 0 n).toList := by
  rw [padded, Nat.zero_sub, String.toList_append]
  simp

/-- The numeral of a whole number is read as the number, if it lies within the bounds. -/
theorem readSigned?_toString {least greatest z : Int} (h : least ≤ z ∧ z ≤ greatest) :
    readSigned? least greatest (toString z).toList = some z := by
  have hdigits : ∀ n : Nat, digitsValue? (toString n).toList = some n := fun n => by
    rw [toList_toString, digitsValue?_padded]
  cases z with
  | ofNat n =>
    have htext : (toString (Int.ofNat n)).toList = (toString n).toList := rfl
    have hsign : ∀ c, isDigit c = false → ∀ rest, (toString n).toList ≠ c :: rest := by
      intro c hc rest heq
      have hmem : c ∈ (padded 0 n).toList := by
        rw [← toList_toString, heq]
        exact List.mem_cons_self
      exact ne_of_isDigit (isDigit_of_mem_padded hmem) hc rfl
    rw [htext, readSigned?, hdigits]
    · exact if_pos h
    · exact hsign '+' (by decide)
    · exact hsign '-' (by decide)
  | negSucc n =>
    have htext : (toString (Int.negSucc n)).toList = '-' :: (toString (n + 1)).toList := by
      rw [show toString (Int.negSucc n) = "-" ++ toString (n + 1) from rfl, String.toList_append]
      rfl
    have hnegative : -Int.ofNat (n + 1) = Int.negSucc n := rfl
    rw [htext, readSigned?.eq_2, hdigits, Option.map_some, Option.bind_eq_bind, Option.bind_some,
      hnegative]
    exact if_pos h

/-- The numeral of a whole number is read as the number, if it fits 64 bits. -/
theorem readSigned64?_toString {z : Int} (h : minSigned64 ≤ z ∧ z ≤ maxSigned64) :
    readSigned64? (toString z) = some z :=
  readSigned?_toString h

/-- Whole numbers have different numerals. -/
theorem toString_inj {a b : Int} : toString a = toString b ↔ a = b := by
  refine ⟨fun h => ?_, congrArg toString⟩
  have ha : readSigned? (min a b) (max a b) (toString a).toList = some a :=
    readSigned?_toString ⟨by omega, by omega⟩
  have hb : readSigned? (min a b) (max a b) (toString b).toList = some b :=
    readSigned?_toString ⟨by omega, by omega⟩
  rw [h, hb] at ha
  exact (Option.some.inj ha).symm

end ThreatGraph
