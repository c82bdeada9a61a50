import Mathlib.Tactic.Choose
import ThreatGraph.Proofs.Json.Compact
import ThreatGraph.Proofs.Yaml.Flow

/-!
# JSON in YAML

The compact text of a JSON value is nearly YAML.  What is missing is that a stream cannot contain
every character, and takes some for line breaks.  Such characters stand in strings alone, so they
can be escaped in the text as it is.

* `Json.portable` escapes them.
* `Json.node` is a value as a node of a document.
* `Json.Fits` says of which values the text can be read: their keys are short, and their numbers
  are written as words.
* `Json.parse?_portable` reads the text of such an object or array as its node.
-/

set_option autoImplicit false

namespace ThreatGraph.Json

open Yaml

/-! ## Escapes

A character that cannot stand in a stream is escaped by its number, in four digits.  What a stream
cannot contain lies below 65536, and so four digits are enough.  Control characters below the blank
are escaped in JSON already; what is left are a few others that are line breaks in YAML or not
allowed there. -/

/-- The escape of a character by its number, which has to be below 65536. -/
def numericEscape (c : Char) : List Char :=
  ['\\', 'u', hexDigit (c.toNat / 4096), hexDigit (c.toNat / 256 % 16),
    hexDigit (c.toNat / 16 % 16), hexDigit (c.toNat % 16)]

/-- A character, or its escape if it is a line break or cannot stand in a stream. -/
def portableChar (c : Char) : List Char := if isInline c then [c] else numericEscape c

/-- A JSON text without line breaks in which all characters can stand in a YAML stream. -/
def portable (text : String) : String := String.ofList (text.toList.flatMap portableChar)

theorem isInline_hexDigit : ∀ d < 16, isInline (hexDigit d) = true := by decide

/-- Characters beyond the first 65536 can all stand in a stream. -/
theorem lt_of_not_isInline {c : Char} (h : isInline c = false) : c.toNat < 65536 := by
  by_contra hge
  have hne : ∀ d : Char, d.toNat < 65536 → c ≠ d := by
    rintro d hd rfl
    exact hge hd
  simp [isInline, isAllowed, isBreak, hne '\n' (by decide), hne '\r' (by decide)] at h
  omega

theorem digitsValueIn?_four {a b c d : Nat} (ha : a < 16) (hb : b < 16) (hc : c < 16)
    (hd : d < 16) :
    digitsValueIn? 16 [hexDigit a, hexDigit b, hexDigit c, hexDigit d] =
      some (((a * 16 + b) * 16 + c) * 16 + d) := by
  simp [digitsValueIn?, digitsFrom?, hexValue?_hexDigit, ha, hb, hc, hd]

/-- What a character is written as can stand in a stream. -/
theorem isInline_portableChar {c d : Char} (h : d ∈ portableChar c) : isInline d = true := by
  rw [portableChar] at h
  split at h
  · next hc => rwa [List.mem_singleton.1 h]
  · next hc =>
    have hlt := lt_of_not_isInline (Bool.eq_false_iff.2 hc)
    simp only [numericEscape, List.mem_cons, List.not_mem_nil, or_false] at h
    rcases h with rfl | rfl | rfl | rfl | rfl | rfl
    · decide
    · decide
    all_goals exact isInline_hexDigit _ (by omega)

/-- Characters that can stand in a stream are left as they are. -/
theorem flatMap_portableChar {cs : List Char} (h : ∀ c ∈ cs, isInline c = true) :
    cs.flatMap portableChar = cs := by
  induction cs with
  | nil => rfl
  | cons c cs ih =>
    obtain ⟨hc, hcs⟩ := List.forall_mem_cons.1 h
    rw [List.flatMap_cons, ih hcs, portableChar, if_pos hc, List.singleton_append]

theorem portable_eq_self {text : String} (h : ∀ c ∈ text.toList, isInline c = true) :
    portable text = text := by
  rw [portable, flatMap_portableChar h, String.ofList_toList]

/-- The text of a number in hexadecimal digits spells the character. -/
theorem spells_digits {c : Char} {n₁ n₂ n₃ n₄ : Nat} (h₁ : n₁ < 16) (h₂ : n₂ < 16) (h₃ : n₃ < 16)
    (h₄ : n₄ < 16) (h : ((n₁ * 16 + n₂) * 16 + n₃) * 16 + n₄ = c.toNat) :
    Spells c ['\\', 'u', hexDigit n₁, hexDigit n₂, hexDigit n₃, hexDigit n₄] :=
  Spells.digits _ rfl (by rw [digitsValueIn?_four h₁ h₂ h₃ h₄, h])

/-- What a character is written as stands for the character, between double quotes. -/
theorem spells_portableChar {c : Char} (hquote : c ≠ '"') (hslash : c ≠ '\\') :
    Spells c (portableChar c) := by
  rw [portableChar]
  split
  · next hc =>
    simp only [isInline, Bool.and_eq_true, Bool.not_eq_true'] at hc
    exact Spells.itself hquote hslash hc.1.1.2
  · next hc =>
    have hlt := lt_of_not_isInline (Bool.eq_false_iff.2 hc)
    exact spells_digits (by omega) (by omega) (by omega) (by omega) (by omega)

/-- What a character of a string is written as can be read between double quotes. -/
theorem spells_portable (c : Char) : Spells c ((escapeChar c).flatMap portableChar) := by
  -- The escapes of JSON are escapes of YAML with the same meaning, so the cases are those of
  -- `escapeChar`.
  rw [escapeChar]
  split
  · next h =>
    subst h
    exact Spells.letter '"' rfl rfl rfl
  split
  · next h =>
    subst h
    exact Spells.letter '\\' rfl rfl rfl
  split
  · next h =>
    subst h
    exact Spells.letter 'b' rfl rfl rfl
  split
  · next h =>
    subst h
    exact Spells.letter 'f' rfl rfl rfl
  split
  · next h =>
    subst h
    exact Spells.letter 'n' rfl rfl rfl
  split
  · next h =>
    subst h
    exact Spells.letter 'r' rfl rfl rfl
  split
  · next h =>
    subst h
    exact Spells.letter 't' rfl rfl rfl
  split
  · next h =>
    have hinline : ∀ d ∈ ['\\', 'u', '0', '0', hexDigit (c.toNat / 16), hexDigit (c.toNat % 16)],
        isInline d = true := by
      simp only [List.forall_mem_cons]
      exact ⟨by decide, by decide, by decide, by decide, isInline_hexDigit _ (by omega),
        isInline_hexDigit _ (by omega), List.forall_mem_nil _⟩
    rw [flatMap_portableChar hinline]
    exact spells_digits (by decide : 0 < 16) (by decide : 0 < 16) (by omega) (by omega) (by omega)
  · next hquote hslash _ _ _ _ _ _ =>
    rw [List.flatMap_singleton]
    exact spells_portableChar hquote hslash

/-- The characters between the quotes of a string. -/
def spelling (s : String) : List Char :=
  (s.toList.flatMap escapeChar).flatMap portableChar

theorem spellsText_flatMap (cs : List Char) :
    SpellsText cs ((cs.flatMap escapeChar).flatMap portableChar) := by
  induction cs with
  | nil => exact SpellsText.nil
  | cons c cs ih =>
    rw [List.flatMap_cons, List.flatMap_append]
    exact SpellsText.cons (spells_portable c) ih

theorem spellsText_spelling (s : String) : SpellsText s.toList (spelling s) :=
  spellsText_flatMap s.toList

/-- The text of a string takes up at most six characters for each of its own. -/
theorem length_le_of_spellsText {text cs : List Char} (h : SpellsText text cs) :
    cs.length ≤ 6 * text.length := by
  induction h with
  | nil => exact Nat.le_refl 0
  | cons head _ ih =>
    have hhead : _ ≤ 6 := head.length_le
    rw [List.length_append, List.length_cons]
    omega

/-- The length of keys that are short enough even if all of their characters are escaped. -/
def keyLength : Nat := 170

/-- A short key is known for a key, however many of its characters are escaped. -/
theorem length_spelling_le {key : String} (h : key.length ≤ keyLength) :
    (spelling key).length + 2 ≤ Lexing.keyLimit := by
  have hlength := length_le_of_spellsText (spellsText_spelling key)
  rw [String.length_toList] at hlength
  calc (spelling key).length + 2 ≤ 6 * keyLength + 2 :=
        Nat.add_le_add_right (Nat.le_trans hlength (Nat.mul_le_mul_left 6 h)) 2
    _ ≤ Lexing.keyLimit := by decide

/-! ## Values as nodes

A value and its text are both brought under the grammar of nodes, by one induction on the value.
The grammar then says how the text is read. -/

mutual

/-- A value as a node of a document. -/
def node : Json → Node
  | .null => .scalar .plain none "null"
  | .bool b => .scalar .plain none (if b then "true" else "false")
  | .number n => .scalar .plain none n.text
  | .string s => .scalar .quoted none s
  | .array items => .sequence (itemNodes items)
  | .object fields => .mapping (fieldNodes fields)

/-- The items of an array as nodes. -/
def itemNodes : List Json → List Node
  | [] => []
  | item :: items => node item :: itemNodes items

/-- The fields of an object as nodes. -/
def fieldNodes : List (String × Json) → List (Node × Node)
  | [] => []
  | (key, value) :: fields => (.scalar .quoted none key, node value) :: fieldNodes fields

end

/-- The items of an array become nodes one by one. -/
theorem itemNodes_eq (items : List Json) : itemNodes items = items.map node := by
  induction items with
  | nil => rfl
  | cons item items ih => rw [itemNodes, ih, List.map_cons]

theorem fieldNodes_eq (fields : List (String × Json)) :
    fieldNodes fields = fields.map fun f => (.scalar .quoted none f.1, node f.2) := by
  induction fields with
  | nil => rfl
  | cons f fields ih => rw [fieldNodes, ih, List.map_cons]

/-- Values that can be read from their text: the keys in them are short, and a number is written as
a word. -/
inductive Fits : Json → Prop where
  | null : Fits .null
  | bool (b : Bool) : Fits (.bool b)
  | number {n : Number} (hword : ∀ c ∈ n.text.toList, isWordChar c = true) (hne : n.text ≠ "") :
      Fits (.number n)
  | string (s : String) : Fits (.string s)
  | array {items : List Json} (hitems : ∀ v ∈ items, Fits v) : Fits (.array items)
  | object {fields : List (String × Json)} (hvalues : ∀ f ∈ fields, Fits f.2)
      (hkeys : ∀ f ∈ fields, f.1.length ≤ keyLength) : Fits (.object fields)

/-- The characters of a value in a stream. -/
def chars (v : Json) : List Char := v.compact.toList.flatMap portableChar

theorem flatMap_writeString (s : String) :
    (writeString s).toList.flatMap portableChar = '"' :: spelling s ++ ['"'] := by
  rw [writeString, String.toList_ofList, List.flatMap_append, List.flatMap_cons]
  rfl

theorem chars_string (s : String) : (string s).chars = '"' :: spelling s ++ ['"'] :=
  flatMap_writeString s

/-- A word is left as it is. -/
theorem chars_word {v : Json} (h : ∀ c ∈ v.compact.toList, isWordChar c = true) :
    v.chars = v.compact.toList :=
  flatMap_portableChar fun c hc => isInline_of_isWordChar (h c hc)

/-- The pieces that are joined by commas can each be made portable. -/
theorem flatMap_joinSep (pieces : List (List Char)) :
    (joinSep ',' pieces).flatMap portableChar =
      joinSep ',' (pieces.map fun piece => piece.flatMap portableChar) := by
  induction pieces with
  | nil => rfl
  | cons piece pieces ih =>
    by_cases hlast : pieces = []
    · subst hlast
      rfl
    · rw [joinSep_cons _ hlast, List.map_cons, joinSep_cons _ (by simpa using hlast),
        List.flatMap_append, List.flatMap_cons, ih]
      rfl

/-- An array in a stream: its items with commas between them. -/
theorem chars_array (items : List Json) :
    (array items).chars = '[' :: joinSep ',' (items.map chars) ++ [']'] := by
  rw [chars, toList_compact_array, List.flatMap_append, List.flatMap_cons, flatMap_joinSep,
    List.map_map]
  rfl

/-- An object in a stream: its fields, with their keys in quotes, and commas between them. -/
theorem chars_object (fields : List (String × Json)) :
    (object fields).chars = '\x7b' :: joinSep ','
      (fields.map fun f => '"' :: spelling f.1 ++ '"' :: ':' :: f.2.chars) ++ ['\x7d'] := by
  have hfield : ∀ f : String × Json, (fieldChars f).flatMap portableChar =
      '"' :: spelling f.1 ++ '"' :: ':' :: f.2.chars := by
    intro f
    rw [fieldChars, List.flatMap_append, flatMap_writeString, List.append_assoc]
    rfl
  rw [chars, toList_compact_object, List.flatMap_append, List.flatMap_cons, flatMap_joinSep,
    List.map_map]
  simp only [Function.comp_def, hfield]
  rfl

/-- The text of a value that can be read is of the grammar of nodes. -/
theorem Fits.flow {v : Json} (h : Fits v) : ∃ ts, Flow v.node v.chars ts := by
  have hword : ∀ (v : Json) (w : String), v.compact = w → v.node = .scalar .plain none w →
      w.toList.all isWordChar = true → w ≠ "" → ∃ ts, Flow v.node v.chars ts := by
    rintro v w rfl hnode hchars hne
    have hchars := List.all_eq_true.1 hchars
    rw [hnode, chars_word hchars]
    have hflow := Flow.word hchars (by simpa using hne)
    rw [String.ofList_toList] at hflow
    exact ⟨_, hflow⟩
  induction h with
  | null => exact hword .null "null" rfl rfl (by decide) (by decide)
  | bool b => cases b <;> exact hword _ _ rfl rfl (by decide) (by decide)
  | number hchars hne => exact hword _ _ rfl rfl (List.all_eq_true.2 hchars) hne
  | string s =>
    have hflow := Flow.quoted (spellsText_spelling s)
    rw [String.ofList_toList] at hflow
    rw [chars_string]
    exact ⟨_, hflow⟩
  | @array items _ ih =>
    -- Each part has some tokens; a function is chosen that gives them, since the grammar takes the
    -- parts as a list.
    choose! tokens htokens using ih
    have hitems : ∀ i ∈ items.map fun v => (v.node, v.chars, tokens v), Flow i.1 i.2.1 i.2.2 :=
      List.forall_mem_map.2 htokens
    have hflow := Flow.sequence hitems
    simp only [Lexing.collectionText, List.map_map, Function.comp_def] at hflow
    rw [node, itemNodes_eq, chars_array]
    exact ⟨_, hflow⟩
  | @object fields _ hkeys ih =>
    choose! tokens htokens using ih
    let field (f : String × Json) : FlowField :=
      ⟨f.1.toList, spelling f.1, f.2.node, f.2.chars, tokens f⟩
    have hvalues : ∀ f ∈ fields.map field, Flow f.value f.text f.tokens :=
      List.forall_mem_map.2 htokens
    have hspelled : ∀ f ∈ fields.map field,
        SpellsText f.key f.spelling ∧ f.spelling.length + 2 ≤ Lexing.keyLimit := by
      refine List.forall_mem_map.2 fun f hf => ⟨spellsText_spelling f.1, ?_⟩
      exact length_spelling_le (hkeys f hf)
    have hflow := Flow.mapping hvalues hspelled
    simp only [Lexing.collectionText, List.map_map, Function.comp_def, field, FlowField.node,
      FlowField.entry, String.ofList_toList] at hflow
    rw [node, fieldNodes_eq, chars_object]
    exact ⟨_, hflow⟩

/-- **JSON is YAML.**  The text of an object or an array that fits, with its odd characters escaped,
is a document whose root is the value as a node. -/
theorem parse?_portable {v : Json} (h : Fits v)
    (hroot : ∀ style tag text, v.node ≠ .scalar style tag text) :
    Document.parse? (portable v.compact) = some ⟨v.node, Anchors.empty⟩ := by
  obtain ⟨ts, hflow⟩ := h.flow
  refine hflow.parse? hroot fun c hc => ?_
  obtain ⟨d, _, hd⟩ := List.mem_flatMap.1 hc
  exact isInline_portableChar hd

end ThreatGraph.Json
