import ThreatGraph.Proofs.Text.Split
import ThreatGraph.Url.HostName

/-!
# Reading back names

What is written for a name is again a name, of small letters and other characters of ASCII that a
name may hold (`HostName.isNameChar_of_read?`).  Read once more it is written the same
(`HostName.read?_written`), as long as its labels are: a label may be so long that what is written
for it is more punycode than is read, and then it is refused (`HostName.fits`).

Nothing is proved here about what punycode stands for.  A label is written only if its punycode is
read as the label again, which the reader of names checks; so it is enough to know in which
characters it is written.
-/

set_option autoImplicit false

namespace ThreatGraph

/-! ## What punycode is written in

Characters are written at three places: those of ASCII in front, a hyphen after them, and the digits
of numbers.  The recursions that write the numbers are followed only for this. -/

namespace Punycode

/-- The characters of the punycode of a text: its ASCII characters, hyphens and digits. -/
def IsCodeOf (cs : List Char) (c : Char) : Prop :=
  (c ∈ cs ∧ c.toNat < firstCode) ∨ c = '-' ∨ ∃ d < 36, c = digitOf d

/-- A number is written in the digits of base 36. -/
theorem mem_writeNumber {bias k n : Nat} {c : Char} (h : c ∈ writeNumber bias k n) :
    ∃ d < 36, c = digitOf d := by
  -- A digit that is not the last is at least its threshold and below 36.
  have ht : ∀ k, threshold k bias ≤ 26 := fun k => by
    rw [threshold]
    repeat' split
    all_goals omega
  fun_induction writeNumber bias k n with
  | case1 k n t hlt =>
    have := ht k
    exact ⟨n, by omega, List.mem_singleton.1 h⟩
  | case2 k n t hle ih =>
    rcases List.mem_cons.1 h with h | h
    · have hpos := threshold_pos k bias
      have hle := ht k
      have hmod := Nat.mod_lt (n - t) (show 0 < 36 - t by omega)
      exact ⟨_, by omega, h⟩
    · exact ih h

/-- Passing a character writes digits only. -/
theorem mem_pass {start code : Nat} {p : Progress} {d c : Char}
    (h : c ∈ (p.pass start code d).written) : c ∈ p.written ∨ ∃ d < 36, c = digitOf d := by
  rw [Progress.pass] at h
  split at h
  · exact .inl h
  split at h
  · rcases List.mem_append.1 h with h | h
    · exact .inl h
    · exact .inr (mem_writeNumber h)
  · exact .inl h

theorem mem_foldl_pass {start code : Nat} {cs : List Char} {p : Progress} {c : Char}
    (h : c ∈ (cs.foldl (·.pass start code ·) p).written) :
    c ∈ p.written ∨ ∃ d < 36, c = digitOf d := by
  induction cs generalizing p with
  | nil => exact .inl h
  | cons d cs ih =>
    rcases ih h with h | h
    · exact mem_pass h
    · exact .inr h

/-- Writing all codes adds digits only. -/
theorem mem_writeCodes {start next : Nat} {cs : List Char} {p : Progress} {codes : List Nat}
    {c : Char} (h : c ∈ (p.writeCodes start cs next codes).written) :
    c ∈ p.written ∨ ∃ d < 36, c = digitOf d := by
  induction codes generalizing p next with
  | nil => exact .inl h
  | cons code codes ih =>
    rcases ih h with h | h
    · have hpassed := mem_foldl_pass h
      exact hpassed
    · exact .inr h

/-- **Punycode** is written in characters of ASCII. -/
theorem isCodeOf_of_mem_encode {cs : List Char} {c : Char} (h : c ∈ encode cs) : IsCodeOf cs c := by
  rcases mem_writeCodes h with h | h
  · dsimp only at h
    split at h
    · cases h
    · rcases List.mem_append.1 h with h | h
      · have := List.mem_filter.1 h
        exact .inl ⟨this.1, by simpa using this.2⟩
      · exact .inr (.inl (List.mem_singleton.1 h))
  · exact .inr (.inr h)

end Punycode

namespace HostName

/-! ## Names of ASCII characters count as themselves

A name is mapped to small letters and composed before it is cut into labels.  Both leave what is
written for a name as it is: its letters are small, and no character of it is a mark or can be
joined with one. -/

/-- A character of a written name. -/
def isNameChar (c : Char) : Bool := c.toNat < 0x80 && !isForbidden c

/-- Characters of a written name are mapped to themselves. -/
theorem mapText?_of_name {cs : List Char} (h : ∀ c ∈ cs, isNameChar c = true) :
    mapText? cs = some cs := by
  induction cs with
  | nil => rfl
  | cons c cs ih =>
    have hc := h c List.mem_cons_self
    simp only [isNameChar, isForbidden, Bool.and_eq_true, decide_eq_true_eq, Bool.not_eq_true',
      Bool.or_eq_false_iff] at hc
    have hlower : c.toLower = c := dif_neg (of_decide_eq_false hc.2.1.2)
    rw [mapText?, mapChar?, if_pos hc.1, hlower, ih fun d hd => h d (List.mem_cons_of_mem _ hd)]
    rfl

/-- A character in front of the marks and of the characters that are composed. -/
def IsLow (c : Char) : Prop := c.toNat < 0xc0

theorem spell_of_low {c : Char} (h : IsLow c) : spell c = [c] := by
  have hparts : parts? c = none := if_pos h
  rw [spell, spellTo, hparts]

theorem markClass_of_low {c : Char} (h : IsLow c) : markClass c = 0 :=
  if_pos (Nat.lt_trans h (by decide))

theorem join?_of_low (a : Char) {b : Char} (h : IsLow b) : join? a b = none :=
  if_pos (Nat.lt_trans h (by decide))

/-- Low characters are not taken apart. -/
theorem flatMap_spell_of_low {cs : List Char} (h : ∀ c ∈ cs, IsLow c) : cs.flatMap spell = cs := by
  induction cs with
  | nil => rfl
  | cons c cs ih =>
    rw [List.flatMap_cons, spell_of_low (h c List.mem_cons_self),
      ih fun d hd => h d (List.mem_cons_of_mem _ hd)]
    rfl

/-- Characters that are no marks stay in their order. -/
theorem sortMarks_of_low {cs : List Char} (h : ∀ c ∈ cs, IsLow c) : sortMarks cs = cs := by
  suffices hfold : ∀ done : List (Nat × Char),
      cs.foldl (fun done c => insertMark (markClass c, c) done) done =
        (cs.map (Prod.mk 0)).reverse ++ done by
    rw [sortMarks, hfold, List.append_nil, List.reverse_reverse, List.map_map]
    exact List.map_id cs
  induction cs with
  | nil => simp
  | cons c cs ih =>
    intro done
    have hinsert : insertMark (0, c) done = (0, c) :: done := by
      cases done <;> simp [insertMark]
    rw [List.foldl_cons, markClass_of_low (h c List.mem_cons_self), hinsert,
      ih fun d hd => h d (List.mem_cons_of_mem _ hd)]
    simp

/-- Low characters are not put together with the character before them. -/
theorem joinAfter_of_low {cs : List Char} (h : ∀ c ∈ cs, IsLow c) (done : List Char) (base : Char) :
    joinAfter done base [] cs = done.reverse ++ base :: cs := by
  induction cs generalizing done base with
  | nil => rfl
  | cons c cs ih =>
    have hc := h c List.mem_cons_self
    rw [joinAfter]
    simp only [if_true, join?_of_low base hc, markClass_of_low hc]
    rw [ih fun d hd => h d (List.mem_cons_of_mem _ hd)]
    simp

/-- A text of low characters is composed as it is. -/
theorem compose_of_low {cs : List Char} (h : ∀ c ∈ cs, IsLow c) : compose cs = cs := by
  rw [compose, flatMap_spell_of_low h, sortMarks_of_low h]
  cases cs with
  | nil => rfl
  | cons c cs => exact joinAfter_of_low (fun d hd => h d (List.mem_cons_of_mem _ hd)) [] c

theorem isLow_of_isNameChar {c : Char} (h : isNameChar c = true) : IsLow c := by
  simp only [isNameChar, Bool.and_eq_true, decide_eq_true_eq] at h
  exact Nat.lt_trans h.1 (by decide)

/-! ## What is written for a label

A label of ASCII is written as it is, and any other as its punycode after a mark.  The length of
punycode is bounded only when it is read, and this is the one case in which a label is not read
again. -/

namespace Label

/-- Whether what is written for a label can be read again: there is a limit to the punycode that is
read, and none to that which is written. -/
def fits (written : List Char) : Bool :=
  (afterStart? mark written).all (·.length ≤ greatestCodeLength)

/-- A label that stands for itself, and one whose punycode stands for its characters. -/
theorem cases_of_read? {cs : List Char} {l : Label} (h : read? cs = some l) :
    (isAscii cs = true ∧ l.written = cs ∧ fits cs = true) ∨
      (isAscii cs = false ∧ isValid cs = true ∧ l = ⟨mark ++ Punycode.encode cs, cs⟩ ∧
        Punycode.decode? (Punycode.encode cs) = some cs) := by
  rw [read?] at h
  split at h
  · next hascii =>
    refine .inl ⟨hascii, ?_⟩
    rw [ofAscii?] at h
    rw [fits]
    split at h
    · next hmark =>
      cases h
      exact ⟨rfl, by rw [hmark]; rfl⟩
    · next code hmark =>
      split at h
      · cases h
      · next hlength =>
        obtain ⟨chars, _, h⟩ := Option.bind_eq_some_iff.1 h
        split at h
        · cases h
          exact ⟨rfl, by rw [hmark]; simpa using hlength⟩
        · cases h
  · next hascii =>
    refine .inr ⟨by simpa using hascii, ?_⟩
    rw [ofOther?] at h
    split at h
    · cases h
    · next hvalid =>
      dsimp only at h
      split at h
      · next hdecode =>
        cases h
        exact ⟨(by simpa using hvalid : _ ∧ _).2, rfl, hdecode⟩
      · cases h

/-- What is written for a label holds no character that a name may not hold, and no dot. -/
theorem isNameChar_of_read? {cs : List Char} {l : Label} (h : read? cs = some l)
    (hname : ∀ c ∈ cs, isForbidden c = false) (hdot : '.' ∉ cs) :
    ∀ c ∈ l.written, isNameChar c = true ∧ c ≠ '.' := by
  have hmark : ∀ c ∈ mark, isNameChar c = true ∧ c ≠ '.' := by
    intro c hc
    simp only [mark, List.mem_cons, List.not_mem_nil, or_false] at hc
    rcases hc with rfl | rfl | rfl | rfl <;> decide
  have hdigit : ∀ d < 36, isNameChar (Punycode.digitOf d) = true ∧ Punycode.digitOf d ≠ '.' := by
    decide
  have hplain : ∀ {c}, c ∈ cs → c.toNat < 0x80 → isNameChar c = true ∧ c ≠ '.' := fun hc hlt =>
    ⟨by simp [isNameChar, hlt, hname _ hc], fun heq => hdot (heq ▸ hc)⟩
  rcases cases_of_read? h with ⟨hascii, hwritten, _⟩ | ⟨_, _, rfl, _⟩
  · intro c hc
    rw [hwritten] at hc
    exact hplain hc (by simpa using List.all_eq_true.1 hascii c hc)
  · intro c hc
    rcases List.mem_append.1 hc with hc | hc
    · exact hmark c hc
    rcases Punycode.isCodeOf_of_mem_encode hc with ⟨hmem, hlt⟩ | rfl | ⟨d, hd, rfl⟩
    · exact hplain hmem hlt
    · decide
    · exact hdigit d hd

/-- **A label again.**  What is written for a label is read as the label, unless it is too long. -/
theorem read?_written {cs : List Char} {l : Label} (h : read? cs = some l)
    (hname : ∀ c ∈ l.written, isNameChar c = true) :
    read? l.written = if fits l.written then some l else none := by
  rcases cases_of_read? h with ⟨_, hwritten, hfits⟩ | ⟨_, hvalid, rfl, hdecode⟩
  · rw [hwritten, hfits, if_pos rfl, h]
  · have hcode := afterStart?_append mark (Punycode.encode cs)
    have hascii : isAscii (mark ++ Punycode.encode cs) = true := List.all_eq_true.2 fun c hc => by
      have := hname c hc
      simp only [isNameChar, Bool.and_eq_true] at this
      exact this.1
    rw [read?, if_pos hascii, ofAscii?, fits]
    dsimp only
    rw [hcode]
    dsimp only [Option.all]
    by_cases hlength : greatestCodeLength < (Punycode.encode cs).length
    · rw [if_pos hlength, if_neg (by simpa using hlength)]
    · rw [if_neg hlength, hdecode, if_pos (by simpa using hlength)]
      exact if_pos hvalid

end Label

/-! ## What is written for a name

The labels are joined with dots and found again at these, since no label holds one.  A name is read
again if all its labels are, and if one of them is too long the whole name is refused. -/

/-- Whether what is written for a name can be read again. -/
def fits (name : List Char) : Bool := (splitOn '.' name).all Label.fits

/-- A name that is read: its labels are read one by one. -/
theorem labels_of_read? {cs written : List Char} (h : read? cs = some written) :
    ∃ name labels, (∀ c ∈ name, isForbidden c = false) ∧
      (splitOn '.' name).mapM Label.read? = some labels ∧ areOneWay labels = true ∧
      written = joinSep '.' (labels.map Label.written) := by
  rw [read?] at h
  obtain ⟨mapped, _, h⟩ := Option.bind_eq_some_iff.1 h
  dsimp only at h
  split at h
  · cases h
  · next hforbidden =>
    obtain ⟨labels, hlabels, h⟩ := Option.bind_eq_some_iff.1 h
    cases h
    rw [labels?] at hlabels
    obtain ⟨ls, hls, hlabels⟩ := Option.bind_eq_some_iff.1 hlabels
    split at hlabels
    · next honeWay =>
      cases hlabels
      refine ⟨compose mapped, labels, fun c hc => ?_, hls, honeWay, rfl⟩
      simpa using fun hc' => hforbidden (List.any_eq_true.2 ⟨c, hc, hc'⟩)
    · cases hlabels

/-- The labels of a name that is read are written in characters of a name. -/
theorem isNameChar_of_mapM {name : List Char} {labels : List Label}
    (hname : ∀ c ∈ name, isForbidden c = false)
    (hlabels : (splitOn '.' name).mapM Label.read? = some labels) :
    ∀ l ∈ labels, (∃ piece, Label.read? piece = some l) ∧
      ∀ c ∈ l.written, isNameChar c = true ∧ c ≠ '.' := by
  intro l hl
  obtain ⟨piece, hpiece, hread⟩ := exists_of_mapM hlabels l hl
  obtain ⟨hdot, hsub⟩ := not_mem_of_mem_splitOn hpiece
  exact ⟨⟨piece, hread⟩, Label.isNameChar_of_read? hread (fun c hc => hname c (hsub hc)) hdot⟩

/-- What is written for a name holds only characters of a name. -/
theorem isNameChar_of_read? {cs written : List Char} (h : read? cs = some written) :
    ∀ c ∈ written, isNameChar c = true := by
  obtain ⟨name, labels, hname, hlabels, _, rfl⟩ := labels_of_read? h
  intro c hc
  rcases mem_joinSep hc with rfl | ⟨piece, hpiece, hc⟩
  · decide
  · obtain ⟨l, hl, rfl⟩ := List.mem_map.1 hpiece
    exact ((isNameChar_of_mapM hname hlabels l hl).2 c hc).1

/-- A text of the characters of a name has nothing to be mapped or composed. -/
theorem read?_of_isNameChar {cs : List Char} (h : ∀ c ∈ cs, isNameChar c = true) :
    read? cs = (labels? cs).map fun labels => joinSep '.' (labels.map Label.written) := by
  have hforbidden : cs.any isForbidden = false := List.any_eq_false.2 fun c hc => by
    have := h c hc
    simp only [isNameChar, Bool.and_eq_true] at this
    simpa using this.2
  rw [read?, mapText?_of_name h]
  dsimp only [bind, Option.bind]
  rw [compose_of_low fun c hc => isLow_of_isNameChar (h c hc), hforbidden]
  cases labels? cs <;> rfl

/-- **A name again.**  What is written for a name is read as itself, unless a label is too long. -/
theorem read?_written {cs written : List Char} (h : read? cs = some written) :
    read? written = if fits written then some written else none := by
  have hchars := isNameChar_of_read? h
  obtain ⟨name, labels, hname, hlabels, honeWay, hwritten⟩ := labels_of_read? h
  have hlabel := isNameChar_of_mapM hname hlabels
  have hne : labels.map Label.written ≠ [] := fun hnil =>
    ne_nil_of_mapM hlabels (splitOn_ne_nil '.' name) (List.map_eq_nil_iff.1 hnil)
  have hpieces : splitOn '.' written = labels.map Label.written := by
    rw [hwritten]
    refine splitOn_joinSep hne fun piece hpiece => ?_
    obtain ⟨l, hl, rfl⟩ := List.mem_map.1 hpiece
    exact fun hdot => ((hlabel l hl).2 '.' hdot).2 rfl
  have hagain : ∀ l ∈ labels,
      Label.read? l.written = if Label.fits l.written then some l else none := fun l hl => by
    obtain ⟨⟨piece, hread⟩, hc⟩ := hlabel l hl
    exact Label.read?_written hread fun c hmem => (hc c hmem).1
  rw [read?_of_isNameChar hchars, labels?, fits, hpieces]
  cases hfits : (labels.map Label.written).all Label.fits with
  | true =>
    have hread : (labels.map Label.written).mapM Label.read? = some labels :=
      mapM_map_of_forall fun l hl => by
        rw [hagain l hl, if_pos (List.all_eq_true.1 hfits _ (List.mem_map_of_mem hl))]
    rw [hread, hwritten]
    simp [honeWay]
  | false =>
    obtain ⟨l, hl, hlong⟩ : ∃ l ∈ labels, Label.fits l.written = false := by
      simpa using hfits
    have hnone : Label.read? l.written = none := by rw [hagain l hl, hlong]; rfl
    rw [mapM_eq_none (List.mem_map_of_mem hl) hnone]
    rfl

end HostName

end ThreatGraph
