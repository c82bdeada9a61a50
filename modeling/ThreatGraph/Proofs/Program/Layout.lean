import Mathlib.Data.List.Forall2
import ThreatGraph.Program
import ThreatGraph.Proofs.Json.Compact

/-!
# How records are laid out

The two layouts of a record, stated as one relation between a value and a text and without the
functions that write it.  They differ in two things only: what stands between the parts of an array
or object, and what stands after a key.  The compact layout has nothing there; the other begins a
new line, two blanks further in than that of the whole, and has a blank after the colon.

* `Json.Escapes` and `Json.Quotes` say how strings are written.
* `Json.LaidOut` says how values are written.
* `Json.laidOut_iff` says that `Invocation.render` writes them so, and that there is no other way.

The text of a number is taken as it is: how the digits of a fraction are chosen is not a matter of
the layout.
-/

set_option autoImplicit false

namespace ThreatGraph

/-- What is related to the members of a list one by one is what a function makes of them. -/
theorem forall₂_iff_map {α β : Type} {R : α → β → Prop} {f : α → β} {xs : List α} {ys : List β}
    (h : ∀ x ∈ xs, ∀ y, R x y ↔ y = f x) : List.Forall₂ R xs ys ↔ ys = xs.map f := by
  induction xs generalizing ys with
  | nil => rw [List.forall₂_nil_left_iff, List.map_nil]
  | cons x xs ih =>
    have htail : ∀ x' ∈ xs, ∀ y, R x' y ↔ y = f x' := fun x' hx' =>
      h x' (List.mem_cons_of_mem x hx')
    rw [List.forall₂_cons_left_iff, List.map_cons]
    constructor
    · rintro ⟨y, ys', hy, hys, rfl⟩
      rw [(h x List.mem_cons_self y).1 hy, (ih htail).1 hys]
    · rintro rfl
      exact ⟨f x, xs.map f, (h x List.mem_cons_self _).2 rfl, (ih htail).2 rfl, rfl⟩

/-! ## Strings

What has to be escaped is what would end the string or break the line, and the other control
characters.  Five of these have a short form; for the rest there is the number of the character. -/

namespace Json

/-- A character as it stands between quotes. -/
inductive Escapes : Char → List Char → Prop where
  | quote : Escapes '"' ['\\', '"']
  | backslash : Escapes '\\' ['\\', '\\']
  | backspace : Escapes '\x08' ['\\', 'b']
  | formFeed : Escapes '\x0c' ['\\', 'f']
  | lineFeed : Escapes '\n' ['\\', 'n']
  | carriageReturn : Escapes '\r' ['\\', 'r']
  | tab : Escapes '\t' ['\\', 't']
  | control {c : Char} (hc : c.toNat < 0x20) (hlong : c ∉ ['\x08', '\x0c', '\n', '\r', '\t']) :
      Escapes c ['\\', 'u', '0', '0', Nat.digitChar (c.toNat / 16), Nat.digitChar (c.toNat % 16)]
  | plain {c : Char} (hc : 0x20 ≤ c.toNat) (hquote : c ≠ '"') (hbackslash : c ≠ '\\') :
      Escapes c [c]

/-- The digits of an escape are those of the library. -/
theorem hexDigit_eq_digitChar : ∀ n < 16, hexDigit n = Nat.digitChar n := by decide

/-- A character is escaped as it should be, and in no other way. -/
theorem escapes_iff {c : Char} {text : List Char} : Escapes c text ↔ text = escapeChar c := by
  constructor
  · intro h
    cases h with
    | control hc hlong =>
      -- The quote and the backslash come before the control characters in the code, and neither is
      -- one.
      simp only [List.mem_cons, List.not_mem_nil, or_false, not_or] at hlong
      obtain ⟨hbackspace, hformFeed, hlineFeed, hreturn, htab⟩ := hlong
      have hquote : c ≠ '"' := by
        rintro rfl
        exact absurd hc (by decide)
      have hbackslash : c ≠ '\\' := by
        rintro rfl
        exact absurd hc (by decide)
      rw [escapeChar, if_neg hquote, if_neg hbackslash, if_neg hbackspace, if_neg hformFeed,
        if_neg hlineFeed, if_neg hreturn, if_neg htab, if_pos hc,
        hexDigit_eq_digitChar _ (by omega), hexDigit_eq_digitChar _ (by omega)]
    | plain hc hquote hbackslash =>
      have hne : ∀ d : Char, d.toNat < 0x20 → c ≠ d := by
        rintro d hd rfl
        omega
      rw [escapeChar, if_neg hquote, if_neg hbackslash, if_neg (hne _ (by decide)),
        if_neg (hne _ (by decide)), if_neg (hne _ (by decide)), if_neg (hne _ (by decide)),
        if_neg (hne _ (by decide)), if_neg (by omega)]
    | _ => rfl
  · rintro rfl
    rw [escapeChar]
    split
    · next h => exact h ▸ .quote
    next hquote =>
    split
    · next h => exact h ▸ .backslash
    next hbackslash =>
    split
    · next h => exact h ▸ .backspace
    next hbackspace =>
    split
    · next h => exact h ▸ .formFeed
    next hformFeed =>
    split
    · next h => exact h ▸ .lineFeed
    next hlineFeed =>
    split
    · next h => exact h ▸ .carriageReturn
    next hreturn =>
    split
    · next h => exact h ▸ .tab
    next htab =>
    split
    · next hc =>
      rw [hexDigit_eq_digitChar _ (by omega), hexDigit_eq_digitChar _ (by omega)]
      exact .control hc (by simp [*])
    · next hc => exact .plain (by omega) hquote hbackslash

/-- A string as it stands in a text: its characters between two quotes, escaped where need be. -/
def Quotes (s text : String) : Prop :=
  ∃ pieces, List.Forall₂ Escapes s.toList pieces ∧ text.toList = '"' :: (pieces.flatten ++ ['"'])

/-- A string is quoted in one way only, and it is written so. -/
theorem quotes_iff {s text : String} : Quotes s text ↔ text = writeString s := by
  have hpieces : ∀ pieces, List.Forall₂ Escapes s.toList pieces ↔
      pieces = s.toList.map escapeChar := fun pieces =>
    forall₂_iff_map fun c _ piece => escapes_iff
  rw [← String.toList_inj, toList_writeString, List.flatMap_def]
  constructor
  · rintro ⟨pieces, hescapes, htext⟩
    rw [htext, (hpieces pieces).1 hescapes]
  · intro htext
    exact ⟨_, (hpieces _).2 rfl, htext⟩

end Json

/-! ## Values

The depth counts the arrays and objects around a value.  It matters only for the layout with lines,
where a part of an array or object stands two blanks further in than the line that ends it. -/

/-- What stands between two parts of an array or object, beside the comma, and at its ends. -/
def Layout.gap : Layout → Nat → List Char
  | .json, _ => []
  | .pretty, depth => '\n' :: List.replicate (2 * depth) ' '

/-- What stands between a key and its value. -/
def Layout.colon : Layout → List Char
  | .json => [':']
  | .pretty => [':', ' ']

namespace Json

/-- **How a value is laid out** where it stands at a depth of nesting. -/
inductive LaidOut (layout : Layout) : Nat → Json → List Char → Prop where
  | null {depth : Nat} : LaidOut layout depth .null "null".toList
  | true {depth : Nat} : LaidOut layout depth (.bool true) "true".toList
  | false {depth : Nat} : LaidOut layout depth (.bool false) "false".toList
  | number {depth : Nat} (n : Number) : LaidOut layout depth (.number n) n.text.toList
  | string {depth : Nat} {s text : String} (h : Quotes s text) :
      LaidOut layout depth (.string s) text.toList
  | emptyArray {depth : Nat} : LaidOut layout depth (.array []) ['[', ']']
  | emptyObject {depth : Nat} : LaidOut layout depth (.object []) ['\x7b', '\x7d']
  | array {depth : Nat} {items : List Json} {texts : List (List Char)} (hne : items ≠ [])
      (hlength : texts.length = items.length)
      (h : ∀ p ∈ items.zip texts, LaidOut layout (depth + 1) p.1 p.2) :
      LaidOut layout depth (.array items) <|
        '[' :: layout.gap (depth + 1) ++ (',' :: layout.gap (depth + 1)).intercalate texts
          ++ layout.gap depth ++ [']']
  | object {depth : Nat} {fields : List (String × Json)} {keys : List String}
      {texts : List (List Char)} (hne : fields ≠ [])
      (hkeys : List.Forall₂ (fun field key => Quotes field.1 key) fields keys)
      (hlength : texts.length = fields.length)
      (h : ∀ p ∈ fields.zip texts, LaidOut layout (depth + 1) p.1.2 p.2) :
      LaidOut layout depth (.object fields) <|
        '\x7b' :: layout.gap (depth + 1) ++ (',' :: layout.gap (depth + 1)).intercalate
          (List.zipWith (fun key text => key.toList ++ layout.colon ++ text) keys texts)
          ++ layout.gap depth ++ ['\x7d']

/-! ## Writing

The two layouts are written by different functions, one of which knows the depth.  They are brought
together by `written`, with one equation for each kind of value, and from these it follows for both
at once that a value is laid out as it is written.  The induction for that is on the value, with one
lemma for each kind of it that has parts. -/

/-- The text of a value where it stands at a depth of nesting. -/
def written (layout : Layout) (depth : Nat) (v : Json) : List Char :=
  match layout with
  | .json => v.compact.toList
  | .pretty => (v.indented depth).toList

/-- The items of an array are written one deeper than the array. -/
theorem indentedItems_eq (depth : Nat) (items : List Json) :
    indentedItems depth items = items.map (indented (depth + 1)) := by
  induction items with
  | nil => rfl
  | cons item items ih => rw [indentedItems, ih, List.map_cons]

/-- The values of an object are written one deeper than the object. -/
theorem indentedFields_eq (depth : Nat) (fields : List (String × Json)) :
    indentedFields depth fields =
      fields.map fun f => writeString f.1 ++ ": " ++ indented (depth + 1) f.2 := by
  induction fields with
  | nil => rfl
  | cons f fields ih => rw [indentedFields, ih, List.map_cons]

/-- A new line in front of each part is a new line in front of all, and one at each comma. -/
theorem intercalate_map_append {sep : Char} {start : List Char} {pieces : List (List Char)}
    (hne : pieces ≠ []) : [sep].intercalate (pieces.map (start ++ ·)) =
      start ++ (sep :: start).intercalate pieces := by
  induction pieces with
  | nil => exact absurd rfl hne
  | cons piece pieces ih =>
    cases pieces with
    | nil => simp
    | cons next rest =>
      rw [List.map_cons, List.map_cons, List.intercalate_cons_cons, ← List.map_cons,
        ih (List.cons_ne_nil next rest), List.intercalate_cons_cons]
      simp

theorem toList_lineStart (depth : Nat) : (lineStart depth).toList = Layout.pretty.gap depth := by
  rw [lineStart, String.toList_append]
  exact congrArg ('\n' :: ·) String.toList_ofList

/-- Brackets with at least one part between them: the parts on lines of their own, and the closing
bracket on another, as far in as the whole. -/
theorem toList_bracketLines {opening closing : String} {depth : Nat} {pieces : List String}
    (hne : pieces ≠ []) : (bracketLines opening closing depth pieces).toList =
      opening.toList ++ Layout.pretty.gap (depth + 1)
        ++ (',' :: Layout.pretty.gap (depth + 1)).intercalate (pieces.map String.toList)
        ++ Layout.pretty.gap depth ++ closing.toList := by
  have hparts : (pieces.map (lineStart (depth + 1) ++ ·)).map String.toList =
      (pieces.map String.toList).map (Layout.pretty.gap (depth + 1) ++ ·) := by
    rw [List.map_map, List.map_map]
    refine List.map_congr_left fun piece _ => ?_
    rw [Function.comp_apply, String.toList_append, toList_lineStart]
    rfl
  have hcomma : ",".toList = [','] := rfl
  rw [bracketLines, if_neg (by simpa using hne), String.toList_append, String.toList_append,
    String.toList_append, String.toList_intercalate, hparts, hcomma,
    intercalate_map_append (by simpa using hne), toList_lineStart]
  simp only [List.append_assoc]

/-- Brackets with nothing between them stay together, in both layouts. -/
theorem written_emptyArray (layout : Layout) (depth : Nat) :
    written layout depth (.array []) = ['[', ']'] := by
  cases layout with
  | json => rfl
  | pretty =>
    rw [written, indented, indentedItems, bracketLines, if_pos List.isEmpty_nil]
    rfl

theorem written_emptyObject (layout : Layout) (depth : Nat) :
    written layout depth (.object []) = ['\x7b', '\x7d'] := by
  cases layout with
  | json => rfl
  | pretty =>
    rw [written, indented, indentedFields, bracketLines, if_pos List.isEmpty_nil]
    rfl

/-- The parts of an array are written in the way that its layout has for them. -/
theorem written_array (layout : Layout) (depth : Nat) {items : List Json} (hne : items ≠ []) :
    written layout depth (.array items) =
      '[' :: layout.gap (depth + 1) ++ (',' :: layout.gap (depth + 1)).intercalate
          (items.map (written layout (depth + 1)))
        ++ layout.gap depth ++ [']'] := by
  cases layout with
  | json =>
    rw [written, toList_compact_array, ← intercalate_eq_joinSep]
    simp only [Layout.gap, List.append_nil]
    rfl
  | pretty =>
    rw [written, indented, indentedItems_eq, toList_bracketLines (by simpa using hne), List.map_map]
    rfl

/-- The fields of an object are written in the way that its layout has for them: the key, a colon
and the value, one level deeper. -/
theorem written_object (layout : Layout) (depth : Nat) {fields : List (String × Json)}
    (hne : fields ≠ []) : written layout depth (.object fields) =
      '\x7b' :: layout.gap (depth + 1) ++ (',' :: layout.gap (depth + 1)).intercalate
          (fields.map fun f =>
            (writeString f.1).toList ++ layout.colon ++ written layout (depth + 1) f.2)
        ++ layout.gap depth ++ ['\x7d'] := by
  cases layout with
  | json =>
    have hfield : fieldChars = fun f => (writeString f.1).toList ++ Layout.json.colon
        ++ written .json (depth + 1) f.2 := by
      funext f
      rw [List.append_assoc]
      rfl
    rw [written, toList_compact_object, ← intercalate_eq_joinSep, hfield]
    simp only [Layout.gap, List.append_nil]
    rfl
  | pretty =>
    rw [written, indented, indentedFields_eq, toList_bracketLines (by simpa using hne),
      List.map_map]
    have hfield : String.toList ∘
        (fun f : String × Json => writeString f.1 ++ ": " ++ indented (depth + 1) f.2) =
        fun f => (writeString f.1).toList ++ Layout.pretty.colon
          ++ written .pretty (depth + 1) f.2 := by
      funext f
      rw [Function.comp_apply, String.toList_append, String.toList_append]
      rfl
    rw [hfield]
    rfl

/-- Whether a value is laid out in one way only, the way in which it is written. -/
def IsWritten (layout : Layout) (v : Json) : Prop :=
  ∀ (depth : Nat) (text : List Char), LaidOut layout depth v text ↔ text = written layout depth v

variable {layout : Layout}

/-- A text is laid out in one way, whatever the layout and the depth are. -/
theorem isWritten_string (s : String) : IsWritten layout (.string s) := by
  intro depth text
  have hwritten : written layout depth (.string s) = (writeString s).toList := by
    cases layout <;> rfl
  rw [hwritten]
  refine ⟨fun h => ?_, ?_⟩
  · cases h with
    | string h => rw [quotes_iff.1 h]
  · rintro rfl
    exact .string (quotes_iff.2 rfl)

/-- An array is laid out in one way if its items are. -/
theorem isWritten_array {items : List Json} (hitems : ∀ v ∈ items, IsWritten layout v) :
    IsWritten layout (.array items) := by
  intro depth text
  by_cases hne : items = []
  · subst hne
    rw [written_emptyArray]
    refine ⟨fun h => ?_, fun h => h ▸ .emptyArray⟩
    cases h with
    | emptyArray => rfl
    | array hne _ _ => exact absurd rfl hne
  -- The parts have one text each, by what is known of them, so the whole has one.
  have htexts : ∀ texts, List.Forall₂ (LaidOut layout (depth + 1)) items texts ↔
      texts = items.map (written layout (depth + 1)) := fun texts =>
    forall₂_iff_map fun v hv => hitems v hv (depth + 1)
  rw [written_array layout depth hne]
  refine ⟨fun h => ?_, ?_⟩
  · cases h with
    | emptyArray => exact absurd rfl hne
    | array _ hlength h =>
      rw [(htexts _).1 (List.forall₂_iff_zip.2 ⟨hlength.symm, fun hp => h _ hp⟩)]
  · rintro rfl
    obtain ⟨hlength, h⟩ := List.forall₂_iff_zip.1 ((htexts _).2 rfl)
    exact .array hne hlength.symm fun p hp => h hp

/-- An object is laid out in one way if the values of its fields are. -/
theorem isWritten_object {fields : List (String × Json)}
    (hfields : ∀ f ∈ fields, IsWritten layout f.2) : IsWritten layout (.object fields) := by
  intro depth text
  by_cases hne : fields = []
  · subst hne
    rw [written_emptyObject]
    refine ⟨fun h => ?_, fun h => h ▸ .emptyObject⟩
    cases h with
    | emptyObject => rfl
    | object hne _ _ _ => exact absurd rfl hne
  -- Keys and values are compared apart, since only the values are laid out at a depth.
  have hkeys : ∀ keys, List.Forall₂ (fun f key => Quotes f.1 key) fields keys ↔
      keys = fields.map fun f => writeString f.1 := fun keys =>
    forall₂_iff_map fun f _ key => quotes_iff
  have htexts : ∀ texts,
      List.Forall₂ (fun f text => LaidOut layout (depth + 1) f.2 text) fields texts ↔
        texts = fields.map fun f => written layout (depth + 1) f.2 := fun texts =>
    forall₂_iff_map fun f hf => hfields f hf (depth + 1)
  have hparts : fields.map (fun f =>
        (writeString f.1).toList ++ layout.colon ++ written layout (depth + 1) f.2) =
      List.zipWith (fun key text => key.toList ++ layout.colon ++ text)
        (fields.map fun f => writeString f.1)
        (fields.map fun f => written layout (depth + 1) f.2) := by
    rw [List.zipWith_map, List.zipWith_self]
  rw [written_object layout depth hne, hparts]
  refine ⟨fun h => ?_, ?_⟩
  · cases h with
    | emptyObject => exact absurd rfl hne
    | object _ hquotes hlength h =>
      rw [(hkeys _).1 hquotes,
        (htexts _).1 (List.forall₂_iff_zip.2 ⟨hlength.symm, fun hp => h _ hp⟩)]
  · rintro rfl
    obtain ⟨hlength, h⟩ := List.forall₂_iff_zip.1 ((htexts _).2 rfl)
    exact .object hne ((hkeys _).2 rfl) hlength.symm fun p hp => h hp

mutual

/-- **A value is laid out in one way only**, that in which it is written.  The induction goes
through the items of arrays and the fields of objects, at any depth. -/
theorem isWritten : ∀ v : Json, IsWritten layout v
  | .null => fun depth text => by
    refine ⟨fun h => ?_, ?_⟩
    · cases h
      cases layout <;> rfl
    · rintro rfl
      cases layout <;> exact .null
  | .bool b => fun depth text => by
    refine ⟨fun h => ?_, ?_⟩
    · cases h <;> cases layout <;> rfl
    · rintro rfl
      cases b with
      | false => cases layout <;> exact .false
      | true => cases layout <;> exact .true
  | .number n => fun depth text => by
    refine ⟨fun h => ?_, ?_⟩
    · cases h
      cases layout <;> rfl
    · rintro rfl
      cases layout <;> exact .number n
  | .string s => isWritten_string s
  | .array items => isWritten_array (isWritten_items items)
  | .object fields => isWritten_object (isWritten_fields fields)

theorem isWritten_items : ∀ items : List Json, ∀ v ∈ items, IsWritten layout v
  | [] => nofun
  | item :: items => List.forall_mem_cons.2 ⟨isWritten item, isWritten_items items⟩

theorem isWritten_fields : ∀ fields : List (String × Json), ∀ f ∈ fields, IsWritten layout f.2
  | [] => nofun
  | (_, value) :: fields => List.forall_mem_cons.2 ⟨isWritten value, isWritten_fields fields⟩

end

/-- **The layouts**: a record is written as it is to be laid out, and it can be laid out in no other
way. -/
theorem laidOut_iff {v : Json} {text : List Char} :
    LaidOut layout 0 v text ↔ text = (Invocation.render layout v).toList := by
  have hrender : written layout 0 v = (Invocation.render layout v).toList := by
    cases layout <;> rfl
  rw [isWritten v 0 text, hrender]

end Json

end ThreatGraph
