import Mathlib.Tactic.SplitIfs
import ThreatGraph.Json.Writer
import ThreatGraph.Proofs.Text.Numeral
import ThreatGraph.Proofs.Text.Split

/-!
# The compact text of a value

What the compact text of a JSON value looks like: an array or an object is its parts with commas
between them (`Json.toList_compact_array`, `Json.toList_compact_object`), and a number is written
with a few characters only (`Number.isNumberText`).

The text is never empty and it is one line, whatever the strings in the value hold
(`Json.compact_ne_empty`, `Json.lineFeed_not_mem_compact`).
-/

set_option autoImplicit false

namespace ThreatGraph

/-! ## Numbers

The text of a number is looked at only for the characters in it.  These are digits, signs, a point
and the letter of an exponent, for whole numbers and fractions alike; which digits they are plays no
part. -/

/-- Whether a character may stand in the text of a number. -/
def isNumberChar (c : Char) : Bool := isDigit c || ['-', '+', '.', 'e'].contains c

/-- A text has no characters but those of numbers. -/
def IsNumberText (s : String) : Prop := ∀ c ∈ s.toList, isNumberChar c = true

instance (s : String) : Decidable (IsNumberText s) :=
  List.decidableBAll (fun c => isNumberChar c = true) s.toList

namespace IsNumberText

/-- Two such texts one after the other are one. -/
theorem append {s t : String} (hs : IsNumberText s) (ht : IsNumberText t) :
    IsNumberText (s ++ t) := by
  intro c hc
  rw [String.toList_append, List.mem_append] at hc
  exact hc.elim (hs c) (ht c)

theorem ofList {cs : List Char} (h : ∀ c ∈ cs, isNumberChar c = true) :
    IsNumberText (String.ofList cs) := by
  rwa [IsNumberText, String.toList_ofList]

theorem toString (n : Nat) : IsNumberText (toString n) := by
  intro c hc
  rw [toList_toString] at hc
  rw [isNumberChar, isDigit_of_mem_padded hc, Bool.true_or]

/-- A part of the digits of a number. -/
theorem part {n : Nat} {cs : List Char} (h : cs ⊆ (ToString.toString n).toList) :
    IsNumberText (String.ofList cs) :=
  ofList fun c hc => toString n c (h hc)

theorem zeros (n : Nat) : IsNumberText (String.ofList (List.replicate n '0')) :=
  ofList fun c hc => by
    rw [List.eq_of_mem_replicate hc]
    decide

theorem ite {p : Prop} [Decidable p] {s t : String} (hs : IsNumberText s) (ht : IsNumberText t) :
    IsNumberText (if p then s else t) := by
  split
  · exact hs
  · exact ht

end IsNumberText

/-- A fraction is put together from parts of its digits, zeros, a point and an exponent. -/
theorem FloatFormat.isNumberText (format : FloatFormat) (x : Binary64) :
    IsNumberText (format.text x) := by
  rw [FloatFormat.text]
  refine .append (.ite (by decide) (by decide)) (.ite (by decide) (.ite ?_ (.ite ?_ (.ite ?_ ?_))))
  · refine .append (.append (.append (.part (List.take_subset _ _)) ?_)
      (.ite (by decide) (by decide))) (.toString _)
    exact .ite (by decide) (.append (by decide) (.part (List.drop_subset _ _)))
  · exact .append (.append (.toString _) (.zeros _)) (by decide)
  · exact .append (.append (.part (List.take_subset _ _)) (by decide))
      (.part (List.drop_subset _ _))
  · exact .append (.append (by decide) (.zeros _)) (.toString _)

theorem Number.isNumberText (n : Number) : IsNumberText n.text := by
  cases n with
  | integer z =>
    cases z with
    | ofNat n => exact .toString n
    | negSucc n => exact .append (s := "-") (by decide) (.toString (n + 1))
  | float x => exact floatFormat.isNumberText x

theorem append_ne_empty_left {s : String} (h : s ≠ "") (t : String) : s ++ t ≠ "" :=
  fun hempty => h (String.append_eq_empty_iff.1 hempty).1

theorem append_ne_empty_right {t : String} (s : String) (h : t ≠ "") : s ++ t ≠ "" :=
  fun hempty => h (String.append_eq_empty_iff.1 hempty).2

theorem toString_ne_empty (n : Nat) : toString n ≠ "" := by
  intro hempty
  obtain ⟨c, digits, htext, -⟩ := padded_eq_cons 0 n
  rw [← toList_toString, hempty] at htext
  cases htext

/-- However a fraction is written, there is a digit in it. -/
theorem FloatFormat.text_ne_empty (format : FloatFormat) (x : Binary64) : format.text x ≠ "" := by
  rw [FloatFormat.text]
  generalize x.shortest = decimal
  obtain ⟨d, e⟩ := decimal
  dsimp only
  refine append_ne_empty_right _ ?_
  split
  · decide
  split
  · exact append_ne_empty_right _ (toString_ne_empty _)
  split
  · exact append_ne_empty_right _ (by decide)
  split
  · exact append_ne_empty_left (append_ne_empty_right _ (by decide)) _
  · exact append_ne_empty_right _ (toString_ne_empty _)

theorem Number.text_ne_empty (n : Number) : n.text ≠ "" := by
  cases n with
  | integer z =>
    cases z with
    | ofNat n => exact toString_ne_empty n
    | negSucc n => exact append_ne_empty_left (s := "-") (by decide) _
  | float x => exact floatFormat.text_ne_empty x

namespace Json

/-! ## Parts

The functions that write an array or an object go through its parts by recursions of their own.
These are maps, and the whole is the parts joined with commas. -/

theorem compactItems_eq (items : List Json) : compactItems items = items.map compact := by
  induction items with
  | nil => rfl
  | cons item items ih => rw [compactItems, ih, List.map_cons]

theorem compactFields_eq (fields : List (String × Json)) :
    compactFields fields = fields.map fun f => writeString f.1 ++ ":" ++ compact f.2 := by
  induction fields with
  | nil => rfl
  | cons f fields ih => rw [compactFields, ih, List.map_cons]

theorem toList_intercalate_comma (pieces : List String) :
    (String.intercalate "," pieces).toList = joinSep ',' (pieces.map String.toList) := by
  rw [String.toList_intercalate, ← intercalate_eq_joinSep]
  rfl

/-- **An array** is its items between brackets, with commas between them. -/
theorem toList_compact_array (items : List Json) :
    (array items).compact.toList =
      '[' :: joinSep ',' (items.map fun v => v.compact.toList) ++ [']'] := by
  rw [compact, compactItems_eq, String.toList_append, String.toList_append,
    toList_intercalate_comma, List.map_map]
  rfl

/-- The text of a field of an object. -/
def fieldChars (f : String × Json) : List Char :=
  (writeString f.1).toList ++ ':' :: f.2.compact.toList

/-- **An object** is its fields between braces, with commas between them. -/
theorem toList_compact_object (fields : List (String × Json)) :
    (object fields).compact.toList = '\x7b' :: joinSep ',' (fields.map fieldChars) ++ ['\x7d'] := by
  have hfield : String.toList ∘ (fun f : String × Json => writeString f.1 ++ ":" ++ compact f.2) =
      fieldChars := by
    funext f
    rw [Function.comp_apply, String.toList_append, String.toList_append, List.append_assoc]
    rfl
  rw [compact, compactFields_eq, String.toList_append, String.toList_append,
    toList_intercalate_comma, List.map_map, hfield]
  rfl

/-! ## One line

A line feed could come into the text only from a string, and in strings it is escaped.  The three
statements follow the three recursions that make up a value. -/

theorem lineFeed_not_mem_hexDigit : ∀ d < 16, '\n' ≠ hexDigit d := by decide

/-- A line feed is escaped, and no escape has one. -/
theorem lineFeed_not_mem_escapeChar (c : Char) : '\n' ∉ escapeChar c := by
  rw [escapeChar]
  split_ifs with _ _ _ _ hfeed _ _ hcontrol
  any_goals decide
  · have hhigh := lineFeed_not_mem_hexDigit (c.toNat / 16) (by omega)
    have hlow := lineFeed_not_mem_hexDigit (c.toNat % 16) (by omega)
    simp [hhigh, hlow]
  · simpa using Ne.symm hfeed

theorem toList_writeString (s : String) :
    (writeString s).toList = '"' :: (s.toList.flatMap escapeChar ++ ['"']) := by
  rw [writeString, String.toList_ofList, List.cons_append]

theorem lineFeed_not_mem_writeString (s : String) : '\n' ∉ (writeString s).toList := by
  rw [toList_writeString]
  simp [lineFeed_not_mem_escapeChar]

/-- Joined pieces hold nothing that is neither the separator nor in one of them. -/
theorem not_mem_joinSep {sep c : Char} {pieces : List (List Char)} (hsep : c ≠ sep)
    (h : ∀ piece ∈ pieces, c ∉ piece) : c ∉ joinSep sep pieces := by
  intro hc
  rcases mem_joinSep hc with heq | ⟨piece, hpiece, hmem⟩
  · exact hsep heq
  · exact h piece hpiece hmem

mutual

/-- The compact text of a value is one line. -/
theorem lineFeed_not_mem_compact : ∀ v : Json, '\n' ∉ v.compact.toList
  | .null => by decide
  | .bool true => by decide
  | .bool false => by decide
  | .number n => fun h => absurd (n.isNumberText _ h) (by decide)
  | .string s => lineFeed_not_mem_writeString s
  | .array items => by
    have hitems := lineFeed_not_mem_items items
    have hjoin : '\n' ∉ joinSep ',' (items.map fun v => v.compact.toList) :=
      not_mem_joinSep (by decide) (List.forall_mem_map.2 hitems)
    simp [toList_compact_array, hjoin]
  | .object fields => by
    have hvalues := lineFeed_not_mem_fields fields
    have hjoin : '\n' ∉ joinSep ',' (fields.map fieldChars) :=
      not_mem_joinSep (by decide) (List.forall_mem_map.2 fun f hf => by
        simp [fieldChars, lineFeed_not_mem_writeString, hvalues f hf])
    simp [toList_compact_object, hjoin]

theorem lineFeed_not_mem_items : ∀ items : List Json, ∀ v ∈ items, '\n' ∉ v.compact.toList
  | [] => nofun
  | item :: items =>
    List.forall_mem_cons.2 ⟨lineFeed_not_mem_compact item, lineFeed_not_mem_items items⟩

theorem lineFeed_not_mem_fields :
    ∀ fields : List (String × Json), ∀ f ∈ fields, '\n' ∉ f.2.compact.toList
  | [] => nofun
  | (_, value) :: fields =>
    List.forall_mem_cons.2 ⟨lineFeed_not_mem_compact value, lineFeed_not_mem_fields fields⟩

end

/-- The compact text of a value is not empty. -/
theorem compact_ne_empty (v : Json) : v.compact ≠ "" := by
  cases v with
  | null => decide
  | bool b => cases b <;> decide
  | number n => exact n.text_ne_empty
  | string s =>
    intro h
    have hchars := congrArg String.toList h
    rw [compact, toList_writeString] at hchars
    cases hchars
  | array items => exact fun h => by simpa [toList_compact_array] using congrArg String.toList h
  | object fields => exact fun h => by simpa [toList_compact_object] using congrArg String.toList h

end Json

end ThreatGraph
