import ThreatGraph.Proofs.Json.Portable

/-!
# Reading the fields of a JSON object from a document

A value that is a node of a document is read from there as what it is: texts, numbers, truth values
and what is optional (`text?_node`, `nat?_node`, `bool?_node`, `optional?_node`).

An object that is made of pairs with different keys is read as a record, and each of its fields
from the value of its pair (`record?_record`, `field?_record`).
-/

set_option autoImplicit false

namespace ThreatGraph

open Yaml

/-! ## Values

A scalar of a document is a text, and what it means depends on what is asked for.  A numeral is read
as the number, though the reader tries other notations first: none of them begins with a digit other
than zero, and zero by itself is none of them. -/

namespace Json

variable (d : Document)

theorem text?_node (s : String) : d.text? (string s).node = some s := rfl

theorem bool?_node (b : Bool) : d.bool? (bool b).node = some b := by
  cases b <;> rfl

theorem isDigit_of_mem_toString {n : Nat} {c : Char} (h : c ∈ (toString n).toList) :
    isDigit c = true := by
  rw [toList_toString] at h
  exact isDigit_of_mem_padded h

/-- A text with a character that is no digit is no numeral. -/
theorem toString_ne {n : Nat} {text : String} {c : Char} (hc : c ∈ text.toList)
    (hdigit : isDigit c = false) : toString n ≠ text := by
  rintro rfl
  rw [isDigit_of_mem_toString hc] at hdigit
  cases hdigit

/-- A numeral is not written in another base. -/
theorem basedNumber?_toString (n : Nat) : Document.basedNumber? (toString n).toList = none := by
  have hletter : ∀ c, isDigit c = false → c ∉ (toString n).toList := by
    intro c hc hmem
    rw [isDigit_of_mem_toString hmem] at hc
    cases hc
  rw [Document.basedNumber?.eq_def]
  split
  · next heq => exact absurd (by rw [heq]; simp) (hletter 'x' (by decide))
  · next heq => exact absurd (by rw [heq]; simp) (hletter 'o' (by decide))
  · next heq => exact absurd (by rw [heq]; simp) (hletter 'b' (by decide))
  · rfl

/-- A numeral is read as its number. -/
theorem decimalNumber?_toString (n : Nat) :
    Document.decimalNumber? (toString n).toList = some n := by
  have htext : (toString n).toList = Nat.toDigits 10 n := by
    rw [toList_toString, toList_padded, Nat.zero_sub, List.replicate_zero, List.nil_append]
  rw [Document.decimalNumber?.eq_def]
  split
  · next heq =>
    rw [htext] at heq
    have hzero := eq_zero_of_head?_toDigits (congrArg List.head? heq)
    subst hzero
    cases heq
  · rw [toList_toString, digitsValue?_padded]

/-- The numeral of a number is read as the number, if it fits 64 bits. -/
theorem number?_toString {n : Nat} (h : n ≤ maxUnsigned64) :
    Document.number? (toString n) = some n := by
  have hsign : afterStart? ['+'] (toString n).toList = none := by
    cases hcs : (toString n).toList with
    | nil => rfl
    | cons c cs =>
      have hc : isDigit c = true := isDigit_of_mem_toString (hcs ▸ List.mem_cons_self)
      rw [afterStart?, if_neg (ne_of_isDigit hc (by decide)).symm]
  rw [Document.number?, hsign, Option.getD_none, basedNumber?_toString, decimalNumber?_toString]
  exact if_pos h

/-- A number is read as it is, if it is within the limit. -/
theorem nat?_node {limit n : Nat} (hlimit : limit ≤ maxUnsigned64) (h : n ≤ limit) :
    d.nat? limit (nat n).node = some n := by
  have hnumber := number?_toString (Nat.le_trans h hlimit)
  change ((Document.number? (toString n)).bind fun n => if n ≤ limit then some n else none) = _
  rw [hnumber]
  exact if_pos h

/-- A number is not taken for the absence of one. -/
theorem isNullText_toString (n : Nat) : Document.isNullText (toString n) = false := by
  rw [Document.isNullText, List.contains_eq_mem, decide_eq_false_iff_not]
  intro hmem
  simp only [List.mem_cons, List.not_mem_nil, or_false] at hmem
  rcases hmem with h | h | h | h
  · exact toString_ne (by simp : 'n' ∈ "null".toList) (by decide) h
  · exact toString_ne (by simp : 'N' ∈ "Null".toList) (by decide) h
  · exact toString_ne (by simp : 'N' ∈ "NULL".toList) (by decide) h
  · exact toString_ne (by simp : '~' ∈ "~".toList) (by decide) h

/-- An optional number that is there is read as it is. -/
theorem optional?_nat {limit n : Nat} (hlimit : limit ≤ maxUnsigned64) (h : n ≤ limit) :
    d.optional? (Document.nat? limit) (nat n).node = some (some n) := by
  have habsent : ¬(toString n = "" ∨ Document.isNullText (toString n) = true) := by
    rw [isNullText_toString]
    exact fun h => h.elim (toString_ne_empty n) Bool.false_ne_true
  change (if toString n = "" ∨ Document.isNullText (toString n) = true then some none
    else (d.nat? limit (nat n).node).map some) = _
  rw [if_neg habsent, nat?_node d hlimit h, Option.map_some]

/-- An optional value is read as it is, if it is read where it is there. -/
theorem optional?_node {α : Type} {read : Document → Node → Option α} {encode : α → Json}
    {o : Option α} (h : ∀ a ∈ o, d.optional? read (encode a).node = some (some a)) :
    d.optional? read (option encode o).node = some o := by
  cases o with
  | none => rfl
  | some a => exact h a rfl

end Json

/-! ## Records

A record is read from an object by going through its fields once, and keeping those that it knows.
With different keys none of them comes twice, which would be refused. -/

namespace Json

/-- The fields of an object that have one of the names, each with its node. -/
def known (names : List String) (fields : List (String × Json)) : List (String × Node) :=
  (fields.filter fun f => names.contains f.1).map fun f => (f.1, f.2.node)

variable (d : Document) {names : List String}

/-- A record is read from an object with different keys. -/
theorem record?_node (names : List String) {fields : List (String × Json)}
    (hkeys : (fields.map (·.1)).Nodup) :
    d.record? names (object fields).node = some (known names fields) := by
  have hfields : (fieldNodes fields).mapM (fun entry => (d.text? entry.1).map (·, entry.2)) =
      some (fields.map fun f => (f.1, f.2.node)) := by
    induction fields with
    | nil => rfl
    | cons f fields ih =>
      rw [fieldNodes, List.mapM_cons, ih (List.nodup_cons.1 hkeys).2]
      rfl
  have hknown : (fields.map fun f => (f.1, f.2.node)).filter (fun f => names.contains f.1) =
      known names fields := List.filter_map
  have hnodup : ((known names fields).map Prod.fst).Nodup := by
    rw [known, List.map_map]
    exact hkeys.sublist (List.filter_sublist.map _)
  change Option.bind
    ((fieldNodes fields).mapM fun entry => (d.text? entry.1).map (·, entry.2)) _ = _
  rw [hfields, Option.bind_some, hknown, if_pos hnodup]

/-- A name that the record knows is found with the node of its value. -/
theorem find?_known {name : String} (hname : names.contains name = true)
    (fields : List (String × Json)) :
    (known names fields).find? (fun f => f.1 = name) =
      (Assoc.lookup? name fields).map fun v => (name, v.node) := by
  induction fields with
  | nil => rfl
  | cons f fields ih =>
    rw [known] at ih ⊢
    rw [Assoc.lookup?]
    by_cases hf : name = f.1
    · subst hf
      rw [List.filter_cons, if_pos hname, List.map_cons, List.find?_cons_of_pos (by simp),
        if_pos rfl]
      rfl
    · rw [if_neg hf, ← ih, List.filter_cons]
      split
      · rw [List.map_cons, List.find?_cons_of_neg (by simpa using Ne.symm hf)]
      · rfl

/-- A field of a record that is made of pairs with different keys is read from the value of its
pair. -/
theorem field?_record {pairs : List (String × Json)} (hkeys : (pairs.map (·.1)).Nodup)
    {name : String} {v : Json} (hname : names.contains name = true)
    (hv : Assoc.lookup? name pairs = some v) {α : Type} (read : Document → Node → Option α)
    (absent : Option α) :
    d.field? (known names (Assoc.ofPairs pairs)) name read absent = read d v.node := by
  rw [Document.field?, find?_known hname, Assoc.lookup?_ofPairs hkeys, hv]
  rfl

/-- A record is read from an object that is made of pairs. -/
theorem record?_record (names : List String) (pairs : List (String × Json)) :
    d.record? names (record pairs).node = some (known names (Assoc.ofPairs pairs)) :=
  record?_node d names (Assoc.nodup_keys (Assoc.ordered_ofPairs pairs))

end Json

end ThreatGraph
