import ThreatGraph.Proofs.Text.Numeral
import ThreatGraph.Yaml.Scalar

/-!
# Scalars on one line

What the readers of scalars make of a text on the first line of a stream, where no document begins
or ends.

* `row` puts the characters of such a text in their places (`place_eq_row`).
* `readPlain_word` reads a word, which is a plain scalar of letters, digits, points and signs.
* `SpellsText` says how a text may be written between double quotes, and `readDoubleQuoted_spelled`
  that it is read again from there.
-/

set_option autoImplicit false

namespace ThreatGraph.Yaml

/-! ## Rows

The readers look at characters in their places, since a column decides about indentation and about
the marks of documents.  On the first line all that matters of a place is its index; and from the
second place on no mark can begin. -/

/-- Whether a character stands in a line of a stream as it is. -/
def isInline (c : Char) : Bool :=
  isAllowed c && !isBreak c && c != '\r' && c.toNat != 0x85

/-- The characters of a text on the first line, the first of which has the given place. -/
def row (index : Nat) : List Char → List Placed
  | [] => []
  | c :: rest => ⟨c, index, 0, index⟩ :: row (index + 1) rest

/-- Characters of a text on one line have their places in a row. -/
theorem place_eq_row {cs : List Char} (h : ∀ c ∈ cs, isInline c = true) (index : Nat) :
    place index 0 index cs = row index cs := by
  induction cs generalizing index with
  | nil => rfl
  | cons c cs ih =>
    have hc := h c List.mem_cons_self
    simp only [isInline, Bool.and_eq_true, bne_iff_ne, Bool.not_eq_true'] at hc
    obtain ⟨⟨⟨-, hbreak⟩, hreturn⟩, hnext⟩ := hc
    rw [place, if_neg (by simp [hreturn, hnext]), if_neg (by simp [hbreak]), row,
      ih fun d hd => h d (List.mem_cons_of_mem _ hd)]
    rintro rest rfl
    exact absurd rfl hreturn

@[simp]
theorem length_row (index : Nat) (cs : List Char) : (row index cs).length = cs.length := by
  induction cs generalizing index with
  | nil => rfl
  | cons c cs ih => rw [row, List.length_cons, ih, List.length_cons]

@[simp]
theorem map_char_row (index : Nat) (cs : List Char) : (row index cs).map Placed.char = cs := by
  induction cs generalizing index with
  | nil => rfl
  | cons c cs ih => rw [row, List.map_cons, ih]

/-- The places of two texts in a row. -/
theorem row_append (index : Nat) (cs rest : List Char) :
    row index (cs ++ rest) = row index cs ++ row (index + cs.length) rest := by
  induction cs generalizing index with
  | nil => rfl
  | cons c cs ih =>
    rw [List.cons_append, row, ih, row, List.cons_append, List.length_cons,
      Nat.add_right_comm, Nat.add_assoc index]

/-- A mark of three characters begins where a line does. -/
theorem atThree_of_ne {p : Placed} {c : Char} (h : p.column ≠ 0 ∨ p.char ≠ c)
    (rest : List Placed) : atThree c (p :: rest) = false := by
  rw [atThree.eq_def]
  split
  · next heq =>
    cases heq
    rcases h with h | h <;> simp [h]
  · rfl

/-- No document begins or ends within a line. -/
theorem atDocumentMark_of_column_ne {p : Placed} (h : p.column ≠ 0) (rest : List Placed) :
    atDocumentMark (p :: rest) = false := by
  rw [atDocumentMark, atThree_of_ne (.inl h), atThree_of_ne (.inl h)]
  rfl

/-! ## Words

Words are written for numbers, and for `true`, `false` and `null`.  All of them end at the mark that
ends their entry, and none has a blank, a colon or a number sign in it.  So the reader of a plain
scalar never has to remember blanks. -/

/-- Whether a character is a letter, a digit, a point or a sign. -/
def isWordChar (c : Char) : Bool :=
  ('0' ≤ c && c ≤ '9') || ('A' ≤ c && c ≤ 'Z') || ('a' ≤ c && c ≤ 'z')
    || c == '.' || c == '+' || c == '-'

/-- Whether a text is at a mark that ends an entry of a flow collection. -/
def EndsEntry (rest : List Char) : Prop := ∃ c ∈ [',', ']', '\x7d'], ∃ tail, rest = c :: tail

/-- A character of a word is none of those that are not. -/
theorem ne_of_isWordChar {c d : Char} (hc : isWordChar c = true) (hd : isWordChar d = false) :
    c ≠ d := by
  rintro rfl
  rw [hc] at hd
  cases hd

/-- A word has no blanks and no line breaks. -/
theorem isGap_of_isWordChar {c : Char} (h : isWordChar c = true) : isGap c = false := by
  have hline : ∀ n, isWordChar (Char.ofNat n) = false → c.toNat ≠ n := by
    rintro n hn rfl
    rw [Char.ofNat_toNat, h] at hn
    cases hn
  simp [isGap, isSpaceOrTab, isBreak, ne_of_isWordChar h (by decide : isWordChar ' ' = false),
    ne_of_isWordChar h (by decide : isWordChar '\t' = false),
    ne_of_isWordChar h (by decide : isWordChar '\n' = false), hline 0x2028 (by decide),
    hline 0x2029 (by decide)]

theorem bounds_of_isWordChar {c : Char} (h : isWordChar c = true) : ' ' ≤ c ∧ c ≤ '~' := by
  have hbetween : ∀ low high : Char, ' ' ≤ low → high ≤ '~' → low ≤ c ∧ c ≤ high →
      ' ' ≤ c ∧ c ≤ '~' :=
    fun _ _ hlow hhigh hc => ⟨UInt32.le_trans hlow hc.1, UInt32.le_trans hc.2 hhigh⟩
  simp only [isWordChar, Bool.or_eq_true, Bool.and_eq_true, decide_eq_true_eq, beq_iff_eq] at h
  rcases h with ((((hdigit | hupper) | hlower) | rfl) | rfl) | rfl
  · exact hbetween '0' '9' (by decide) (by decide) hdigit
  · exact hbetween 'A' 'Z' (by decide) (by decide) hupper
  · exact hbetween 'a' 'z' (by decide) (by decide) hlower
  all_goals decide

theorem isInline_of_isWordChar {c : Char} (h : isWordChar c = true) : isInline c = true := by
  obtain ⟨hlow, hhigh⟩ := bounds_of_isWordChar h
  have hbreak : isBreak c = false := (Bool.or_eq_false_iff.1 (isGap_of_isWordChar h)).2
  have hreturn : c ≠ '\r' := ne_of_isWordChar h (by decide)
  have hnext : c.toNat ≠ 0x85 :=
    Nat.ne_of_lt (Nat.lt_of_le_of_lt hhigh (by decide : '~'.toNat < 0x85))
  simp [isInline, isAllowed, hlow, hhigh, hbreak, hreturn, hnext]

/-- A character of a word does not end it. -/
theorem endsPlain_of_isWordChar {c : Char} (h : isWordChar c = true) (flow : Bool)
    (rest : List Placed) : endsPlain flow c rest = false := by
  have hne : ∀ d, isWordChar d = false → c ≠ d := fun d => ne_of_isWordChar h
  simp [endsPlain, hne ':' (by decide), hne ',' (by decide), hne '[' (by decide),
    hne ']' (by decide), hne '\x7b' (by decide), hne '\x7d' (by decide)]

/-- A character that is neither a blank nor a colon ends a plain scalar or belongs to it. -/
theorem readPlain_cons {c : Char} (hgap : isGap c = false) (hcolon : c ≠ ':') (flow : Bool)
    (indent : Nat) (done : List Char) (index : Nat) (rest : List Char) :
    readPlain flow indent done Gap.none (row index (c :: rest)) =
      if endsPlain flow c (row (index + 1) rest) then
        closePlain done Gap.none (row index (c :: rest))
      else readPlain flow indent (c :: done) Gap.none (row (index + 1) rest) := by
  have hstray : isStrayColon flow c (row (index + 1) rest) = false := by
    simp [isStrayColon, hcolon]
  rw [row, readPlain, if_neg (by simp [hgap]), if_neg (by simp [Gap.none, Gap.isNone]),
    if_neg (by simp [hstray])]
  rfl

/-- A word in a flow collection is read up to the end of its entry. -/
theorem readPlain_word {w : List Char} (hw : ∀ c ∈ w, isWordChar c = true) {rest : List Char}
    (hrest : EndsEntry rest) (indent : Nat) (done : List Char) (index : Nat) :
    readPlain true indent done Gap.none (row index (w ++ rest)) =
      some (String.ofList (done.reverse ++ w), false, row (index + w.length) rest) := by
  induction w generalizing done index with
  | nil =>
    obtain ⟨c, hc, tail, rfl⟩ := hrest
    have hmark : isGap c = false ∧ c ≠ ':' ∧ ",[]\x7b\x7d".toList.contains c = true := by
      simp only [List.mem_cons, List.not_mem_nil, or_false] at hc
      rcases hc with rfl | rfl | rfl <;> exact ⟨by decide, by decide, by simp⟩
    have hends : endsPlain true c (row (index + 1) tail) = true := by
      simp only [endsPlain, hmark.2.2, Bool.and_true, Bool.or_true]
    rw [List.nil_append, readPlain_cons hmark.1 hmark.2.1, if_pos hends, List.append_nil]
    rfl
  | cons c w ih =>
    have hc := hw c List.mem_cons_self
    have hends := endsPlain_of_isWordChar hc true (row (index + 1) (w ++ rest))
    have hcolon : c ≠ ':' := ne_of_isWordChar hc (by decide)
    rw [List.cons_append, readPlain_cons (isGap_of_isWordChar hc) hcolon, hends,
      if_neg Bool.false_ne_true, ih fun d hd => hw d (List.mem_cons_of_mem _ hd),
      List.reverse_cons, List.append_assoc, List.singleton_append, List.length_cons,
      Nat.add_assoc, Nat.add_comm 1]

/-! ## Texts between double quotes

A character between double quotes stands for itself, or it is written as a backslash with a letter
or with four digits.  The reader holds back blanks until it sees whether more text follows on the
line, so after some of a text it has read characters and keeps blanks, and only both together are
known.  That is why `readDoubleQuoted_spells` speaks of some `done'` and `blanks'`. -/

/-- How a character may be written between double quotes. -/
inductive Spells (c : Char) : List Char → Prop where
  | itself (hquote : c ≠ '"') (hslash : c ≠ '\\') (hbreak : isBreak c = false) : Spells c [c]
  | letter (e : Char) (hbreak : isBreak e = false) (hdigits : escapeDigits e = 0)
      (hchar : escapedChar? e = some c) : Spells c ['\\', e]
  | digits (ds : List Char) (hlength : ds.length = 4)
      (hvalue : digitsValueIn? 16 ds = some c.toNat) : Spells c ('\\' :: 'u' :: ds)

/-- What a character is written as has at most six characters. -/
theorem Spells.length_le {c : Char} {w : List Char} (h : Spells c w) : w.length ≤ 6 := by
  cases h with
  | itself => exact (by decide : 1 ≤ 6)
  | letter => exact (by decide : 2 ≤ 6)
  | digits ds hlength => exact Nat.le_of_eq (congrArg (· + 2) hlength)

/-- How a text may be written between double quotes. -/
inductive SpellsText : List Char → List Char → Prop where
  | nil : SpellsText [] []
  | cons {c : Char} {text w cs : List Char} (head : Spells c w) (tail : SpellsText text cs) :
      SpellsText (c :: text) (w ++ cs)

/-- A character of a text between double quotes that is no blank. -/
theorem readDoubleQuoted_cons {c : Char} (hgap : isGap c = false) (done : List Char) (gap : Gap)
    {index : Nat} (hindex : 0 < index) (rest : List Char) :
    readDoubleQuoted done gap (row index (c :: rest)) =
      let done := gap.text.reverse ++ done
      let cells := row (index + 1) rest
      if c = '"' then some (String.ofList done.reverse, cells)
      else if c = '\\' then
        if !cells.isEmpty && atBreakOrEnd cells then
          readDoubleQuoted done (.breaks none []) (cells.drop 1)
        else
          match readEscaped cells with
          | none => none
          | some (d, width) => readDoubleQuoted (d :: done) Gap.none (cells.drop width)
      else readDoubleQuoted (c :: done) Gap.none cells := by
  rw [row, readDoubleQuoted, if_neg (by simp [hgap]),
    atDocumentMark_of_column_ne (Nat.ne_of_gt hindex)]
  exact if_neg Bool.false_ne_true

/-- An escape between double quotes is read as the character that it stands for. -/
theorem readDoubleQuoted_escaped {e d : Char} {width : Nat} {index : Nat} {rest : List Char}
    (hbreak : isBreak e = false)
    (hread : readEscaped (row (index + 1) (e :: rest)) = some (d, width)) (done : List Char)
    (gap : Gap) (hindex : 0 < index) :
    readDoubleQuoted done gap (row index ('\\' :: e :: rest)) =
      readDoubleQuoted (d :: (gap.text.reverse ++ done)) Gap.none
        ((row (index + 1) (e :: rest)).drop width) := by
  have hline : (!(row (index + 1) (e :: rest)).isEmpty &&
      atBreakOrEnd (row (index + 1) (e :: rest))) = false := by
    simp [row, atBreakOrEnd, hbreak]
  rw [readDoubleQuoted_cons (by decide) done gap hindex]
  simp only [hline, hread]
  rfl

/-- A letter after a backslash. -/
theorem readEscaped_letter {e c : Char} (hdigits : escapeDigits e = 0)
    (hchar : escapedChar? e = some c) (index : Nat) (rest : List Char) :
    readEscaped (row index (e :: rest)) = some (c, 1) := by
  rw [row, readEscaped, hdigits, hchar]
  rfl

/-- A character has its own code. -/
theorem charOf?_toNat (c : Char) : charOf? c.toNat = some c := by
  have hvalid : c.toNat.isValidChar := c.valid
  rw [charOf?, if_pos hvalid, Char.ofNat_toNat]

/-- Four digits after a backslash and a letter. -/
theorem readEscaped_digits {ds : List Char} {c : Char} (hlength : ds.length = 4)
    (hvalue : digitsValueIn? 16 ds = some c.toNat) (index : Nat) (rest : List Char) :
    readEscaped (row index ('u' :: (ds ++ rest))) = some (c, 5) := by
  have htake : ((row (index + 1) (ds ++ rest)).take 4).map Placed.char = ds := by
    rw [List.map_take, map_char_row, ← hlength, List.take_left]
  rw [row, readEscaped]
  change (do
    let digits := ((row (index + 1) (ds ++ rest)).take 4).map Placed.char
    if digits.length = 4 then
      let c ← charOf? (← digitsValueIn? 16 digits)
      pure (c, 5)
    else none) = _
  rw [htake, if_pos hlength, hvalue]
  change (charOf? c.toNat).bind (fun c => some (c, 5)) = _
  rw [charOf?_toNat]
  rfl

theorem drop_row (index : Nat) (cs rest : List Char) :
    (row index (cs ++ rest)).drop cs.length = row (index + cs.length) rest := by
  rw [row_append, ← length_row index cs, List.drop_left, length_row]

/-- What a character is written as between double quotes is read as this character. -/
theorem readDoubleQuoted_spells {c : Char} {w : List Char} (h : Spells c w)
    (done blanks : List Char) {index : Nat} (hindex : 0 < index) (rest : List Char) :
    ∃ done' blanks', done'.reverse ++ blanks' = done.reverse ++ blanks ++ [c] ∧
      readDoubleQuoted done (.blanks blanks) (row index (w ++ rest)) =
        readDoubleQuoted done' (.blanks blanks') (row (index + w.length) rest) := by
  cases h with
  | itself hquote hslash hbreak =>
    by_cases hgap : isGap c = true
    · refine ⟨done, blanks ++ [c], (List.append_assoc ..).symm, ?_⟩
      rw [List.singleton_append, row, readDoubleQuoted, if_pos hgap, Gap.extend,
        if_neg (by simp [hbreak])]
      rfl
    · refine ⟨c :: (blanks.reverse ++ done), [], by simp, ?_⟩
      rw [List.singleton_append, readDoubleQuoted_cons (Bool.eq_false_iff.2 hgap) done _ hindex]
      simp only [if_neg hquote, if_neg hslash]
      rfl
  | letter e hbreak hdigits hchar =>
    refine ⟨c :: (blanks.reverse ++ done), [], by simp, ?_⟩
    have hread := readEscaped_letter hdigits hchar (index + 1) rest
    rw [List.cons_append, List.singleton_append,
      readDoubleQuoted_escaped hbreak hread done _ hindex]
    rfl
  | digits ds hlength hvalue =>
    refine ⟨c :: (blanks.reverse ++ done), [], by simp, ?_⟩
    have hread := readEscaped_digits hlength hvalue (index + 1) rest
    have hdrop : (row (index + 1) ('u' :: (ds ++ rest))).drop 5 = row (index + 1 + 5) rest := by
      have h := drop_row (index + 1) ('u' :: ds) rest
      rw [List.length_cons, hlength] at h
      exact h
    rw [List.cons_append, List.cons_append,
      readDoubleQuoted_escaped (by decide) hread done _ hindex, hdrop, List.length_cons,
      List.length_cons, hlength]
    rfl

/-- A text that is written between double quotes is read from there, after what is read already
and the blanks that follow it. -/
theorem readDoubleQuoted_spelled {text cs : List Char} (h : SpellsText text cs)
    (done blanks : List Char) {index : Nat} (hindex : 0 < index) (rest : List Char) :
    readDoubleQuoted done (.blanks blanks) (row index (cs ++ '"' :: rest)) =
      some (String.ofList (done.reverse ++ blanks ++ text), row (index + cs.length + 1) rest) := by
  induction h generalizing done blanks index with
  | nil =>
    rw [List.nil_append, readDoubleQuoted_cons (by decide) done _ hindex]
    simp [Gap.text]
  | @cons c text w cs head tail ih =>
    obtain ⟨done', blanks', hdone, hread⟩ :=
      readDoubleQuoted_spells head done blanks hindex (cs ++ '"' :: rest)
    rw [List.append_assoc, hread, ih done' blanks' (Nat.add_pos_left hindex _), hdone,
      List.append_assoc _ [c], List.singleton_append, List.length_append, Nat.add_assoc index]

end ThreatGraph.Yaml
