import ThreatGraph.Proofs.Text.Form
import ThreatGraph.Proofs.Text.Lowercase
import ThreatGraph.Url.Reader

/-!
# Reading back paths

The segments of a path that was read hold nothing that has to be escaped, no slash, and no dots that
would be taken out (`Url.Settled`, `Url.settled_of_readSegments`).  So the text of such a path is
read as the same segments again (`Url.readSegments_pathText`).

That a segment is not turned into dots by escaping it is the one fact that takes an argument: only a
dot has an escape that is read as a dot, and a dot is never escaped (`Url.onlyDots_percentEncode`).
-/

set_option autoImplicit false

namespace ThreatGraph

/-- A property of all ASCII characters holds of each. -/
theorem forall_ascii {P : Char → Prop} (h : ∀ n < 0x80, P (Char.ofNat n)) {c : Char}
    (hc : c.toNat < 0x80) : P c := by
  have := h c.toNat hc
  rwa [Char.ofNat_toNat] at this

theorem toNat_lt_of_isUpperHex {c : Char} (h : isUpperHex c = true) : c.toNat < 0x80 := by
  simp only [isUpperHex, Bool.or_eq_true, Bool.and_eq_true, decide_eq_true_eq, Char.le_def,
    UInt32.le_iff_toNat_le] at h
  change _ ∧ c.toNat ≤ 57 ∨ _ ∧ c.toNat ≤ 70 at h
  omega

namespace Url

/-! ## Dots

A segment that is one dot or two is taken out of a path, and a dot may be written as an escape, in
small or capital letters.  So what matters is whether a text is dots, in either spelling, and
nothing else. -/

/-- Whether a text is dots only, each as it is or as an escape. -/
def onlyDots : List Char → Bool
  | [] => true
  | '.' :: rest => onlyDots rest
  | '%' :: '2' :: e :: rest => (e == 'e' || e == 'E') && onlyDots rest
  | _ => false

/-- Only a capital letter is put into lower case. -/
theorem eq_of_toLower {c d : Char} (hd : d = '.' ∨ d = '%' ∨ d = '2') (h : c.toLower = d) :
    c = d := by
  by_cases hc : c.toNat < 0x80
  · have hascii : ∀ d, d = '.' ∨ d = '%' ∨ d = '2' → ∀ n < 0x80,
        (Char.ofNat n).toLower = d → Char.ofNat n = d := by
      rintro d (rfl | rfl | rfl) <;> decide
    exact forall_ascii (P := fun c => c.toLower = d → c = d) (hascii d hd) hc h
  · rwa [toLower_of_not_ascii (Nat.le_of_not_lt hc)] at h

/-- Two letters become a small e. -/
theorem eq_of_toLower_e {c : Char} (h : c.toLower = 'e') : c = 'e' ∨ c = 'E' := by
  by_cases hc : c.toNat < 0x80
  · exact forall_ascii (P := fun c => c.toLower = 'e' → c = 'e' ∨ c = 'E') (by decide) hc h
  · rw [toLower_of_not_ascii (Nat.le_of_not_lt hc)] at h
    exact .inl h

/-- A text that only has dots if it has these small letters. -/
def MeansDots (lower : List Char) : Prop := ∀ cs, cs.map Char.toLower = lower → onlyDots cs = true

theorem meansDots_nil : MeansDots [] := by
  intro cs h
  rw [List.map_eq_nil_iff.1 h]
  rfl

/-- A dot in front of dots. -/
theorem MeansDots.dot {lower : List Char} (h : MeansDots lower) : MeansDots ('.' :: lower) := by
  intro cs hcs
  obtain ⟨c, rest, rfl, hc, hrest⟩ := List.map_eq_cons_iff.1 hcs
  rw [eq_of_toLower (by simp) hc]
  exact h rest hrest

/-- The escape of a dot in front of dots. -/
theorem MeansDots.escape {lower : List Char} (h : MeansDots lower) :
    MeansDots ('%' :: '2' :: 'e' :: lower) := by
  intro cs hcs
  obtain ⟨c, rest, rfl, hc, hcs⟩ := List.map_eq_cons_iff.1 hcs
  obtain ⟨c', rest, rfl, hc', hcs⟩ := List.map_eq_cons_iff.1 hcs
  obtain ⟨e, rest, rfl, he, hrest⟩ := List.map_eq_cons_iff.1 hcs
  rw [eq_of_toLower (by simp) hc, eq_of_toLower (by simp) hc', onlyDots, h rest hrest]
  rcases eq_of_toLower_e he with rfl | rfl <;> rfl

/-- The segments that are taken out of a path are dots. -/
theorem onlyDots_of_isDot {cs : List Char} (h : isSingleDot cs = true ∨ isDoubleDot cs = true) :
    onlyDots cs = true := by
  have hlist : ∀ s : String, String.ofList (cs.map Char.toLower) = s →
      cs.map Char.toLower = s.toList := by
    rintro s rfl
    rw [String.toList_ofList]
  simp only [isSingleDot, isDoubleDot, List.contains_cons, List.contains_nil, Bool.or_false,
    Bool.or_eq_true, beq_iff_eq] at h
  rcases h with (h | h) | (h | h | h | h)
  · exact meansDots_nil.dot cs (hlist _ h)
  · exact meansDots_nil.escape cs (hlist _ h)
  · exact meansDots_nil.dot.dot cs (hlist _ h)
  · exact meansDots_nil.escape.dot cs (hlist _ h)
  · exact meansDots_nil.dot.escape cs (hlist _ h)
  · exact meansDots_nil.escape.escape cs (hlist _ h)

/-! ## What is escaped in a path

Escaping goes byte by byte.  The escape of a dot would stand for its one byte, and of all characters
only the dot has this byte in front; but the dot is not among the characters that are escaped. -/

/-- The characters of escapes stand as they are in a path. -/
theorem keepsEscapes_path : KeepsEscapes escapesInPath := by
  intro c hc
  have hascii : c.toNat < 0x80 := by
    rcases hc with rfl | hc
    · decide
    · exact toNat_lt_of_isUpperHex hc
  exact forall_ascii (P := fun c => c = '%' ∨ isUpperHex c = true → isPlain escapesInPath c = true)
    (by decide) hascii hc

/-- Only a dot has the byte of a dot. -/
theorem eq_dot_of_utf8EncodeChar {c : Char} {bytes : List UInt8}
    (h : String.utf8EncodeChar c = 0x2e :: bytes) : c = '.' := by
  obtain ⟨b, rest, hcons, hstep⟩ := decodeStep_utf8EncodeChar c []
  rw [h] at hcons
  injection hcons with hb hrest
  rw [← hb, decodeStep_of_one (by decide)] at hstep
  exact (Option.some.inj (Prod.mk.inj hstep).1).symm

/-- An escape that is read as a dot is that of a dot. -/
theorem eq_dot_of_percentByte {b : UInt8} {rest : List Char}
    (h : onlyDots (percentByte b ++ rest) = true) : b = 0x2e := by
  have hb := b.toNat_lt
  have hhigh : ∀ n < 16, hexDigitUpper n = '2' → n = 2 := by decide
  have hlow : ∀ n < 16, hexDigitUpper n = 'e' ∨ hexDigitUpper n = 'E' → n = 14 := by decide
  change onlyDots ('%' :: hexDigitUpper (b.toNat / 16) :: hexDigitUpper (b.toNat % 16) :: rest)
    = true at h
  unfold onlyDots at h
  split at h
  · next heq => cases heq
  · next heq => cases heq
  · next e tail heq =>
    simp only [List.cons.injEq, true_and] at heq
    obtain ⟨h2, he, rfl⟩ := heq
    simp only [Bool.and_eq_true, Bool.or_eq_true, beq_iff_eq] at h
    have h2' := hhigh _ (by omega) h2
    have he' := hlow _ (by omega) (he ▸ h.1)
    rw [← UInt8.toNat_inj]
    change b.toNat = 46
    omega
  · cases h

/-- An escaped character has the escape of its first byte in front. -/
theorem percentEncode_cons_of_not_plain {escapes : Char → Bool} {c : Char} (cs : List Char)
    (h : ¬ isPlain escapes c = true) :
    ∃ b bytes rest, String.utf8EncodeChar c = b :: bytes ∧
      percentEncode escapes (c :: cs) = percentByte b ++ rest := by
  obtain ⟨b, bytes, hbytes⟩ := List.exists_cons_of_ne_nil (@String.utf8EncodeChar_ne_nil c)
  refine ⟨b, bytes, bytes.flatMap percentByte ++ percentEncode escapes cs, hbytes, ?_⟩
  rw [percentEncode_cons, if_neg h, hbytes, List.flatMap_cons, List.append_assoc]

/-- A character other than a percent sign stands for itself in an escaped text. -/
theorem eq_cons_of_percentEncode {escapes : Char → Bool} {cs rest : List Char} {c : Char}
    (hc : c ≠ '%') (h : percentEncode escapes cs = c :: rest) :
    ∃ cs', cs = c :: cs' ∧ percentEncode escapes cs' = rest ∧
      percentEncode escapes cs = c :: percentEncode escapes cs' := by
  cases cs with
  | nil => cases h
  | cons d cs =>
    by_cases hplain : isPlain escapes d = true
    · rw [percentEncode_cons, if_pos hplain, List.singleton_append] at h ⊢
      injection h with hd hrest
      exact ⟨cs, by rw [hd], hrest, by rw [hd]⟩
    · obtain ⟨b, _, tail, _, htail⟩ := percentEncode_cons_of_not_plain cs hplain
      rw [htail] at h
      injection h with hd _
      exact absurd hd.symm hc

/-- **Dots.**  A text whose escaped form is dots only is left as it is. -/
theorem onlyDots_percentEncode {cs : List Char}
    (h : onlyDots (percentEncode escapesInPath cs) = true) :
    percentEncode escapesInPath cs = cs := by
  match cs with
  | [] => rfl
  | c :: rest =>
    by_cases hplain : isPlain escapesInPath c = true
    · rw [percentEncode_cons, if_pos hplain, List.singleton_append] at h ⊢
      unfold onlyDots at h
      split at h
      · next heq => cases heq
      · next heq =>
        injection heq with _ hrest
        rw [onlyDots_percentEncode (hrest ▸ h)]
      · next e tail heq =>
        injection heq with _ hrest
        rw [Bool.and_eq_true] at h
        have he : e ≠ '%' := by
          rintro rfl
          exact absurd h.1 (by decide)
        obtain ⟨rest', rfl, hrest', hcons⟩ := eq_cons_of_percentEncode (by decide) hrest
        obtain ⟨rest'', rfl, hrest'', hcons'⟩ := eq_cons_of_percentEncode he hrest'
        rw [hcons, hcons', onlyDots_percentEncode (hrest'' ▸ h.2)]
      · cases h
    · obtain ⟨b, bytes, tail, hbytes, htail⟩ := percentEncode_cons_of_not_plain rest hplain
      rw [htail] at h
      rw [eq_dot_of_percentByte h] at hbytes
      rw [eq_dot_of_utf8EncodeChar hbytes] at hplain
      exact absurd (by decide) hplain
termination_by cs.length

/-! ## Segments

A segment is settled if reading it changes nothing any more: nothing in it is escaped, it is not cut
at a slash, and it is not taken out for dots. -/

/-- A character of a segment: it is not escaped, and it is no slash. -/
def isSegmentChar (c : Char) : Bool := isPlain escapesInPath c && !isSlash true c

/-- A segment that is read as itself. -/
structure Settled (segment : List Char) : Prop where
  chars : ∀ c ∈ segment, isSegmentChar c = true
  single : isSingleDot segment = false
  double : isDoubleDot segment = false

/-- The empty segment stands for itself. -/
theorem settled_nil : Settled [] := ⟨by simp, by decide, by decide⟩

/-- A segment that is not taken out is settled when it is escaped. -/
theorem settled_percentEncode {segment : List Char} (hslash : ∀ c ∈ segment, isSlash true c = false)
    (hsingle : ¬ isSingleDot segment = true) (hdouble : ¬ isDoubleDot segment = true) :
    Settled (percentEncode escapesInPath segment) := by
  have hdots : ∀ isDot : List Char → Bool, (∀ cs, isDot cs = true → onlyDots cs = true) →
      ¬ isDot segment = true → isDot (percentEncode escapesInPath segment) = false := by
    intro isDot honly hnot
    rw [← Bool.not_eq_true]
    intro h
    rw [onlyDots_percentEncode (honly _ h)] at h
    exact hnot h
  refine ⟨fun c hc => ?_, hdots _ (fun _ h => onlyDots_of_isDot (.inl h)) hsingle,
    hdots _ (fun _ h => onlyDots_of_isDot (.inr h)) hdouble⟩
  have hplain := isPlain_of_mem_percentEncode keepsEscapes_path hc
  rw [isSegmentChar, hplain, Bool.true_and, Bool.not_eq_true']
  rcases mem_percentEncode hc with ⟨hmem, _⟩ | rfl | hhex
  · exact hslash c hmem
  · decide
  · have := toNat_lt_of_isUpperHex hhex
    exact forall_ascii (P := fun c => isUpperHex c = true → isSlash true c = false) (by decide)
      this hhex

/-! ## Paths as they are read

A path is walked piece by piece, and the names that it has so far are kept settled by each step. The
step of dots goes up, the step of any other piece adds what is escaped of it. -/

namespace Trail

/-- All segments of a path are settled. -/
def IsSettled (t : Trail) : Prop := ∀ name ∈ t.names, Settled name.toList

theorem IsSettled.push {t : Trail} (h : t.IsSettled) {segment : List Char}
    (hsegment : Settled (percentEncode escapesInPath segment)) : (t.push segment).IsSettled := by
  intro name hname
  rcases List.mem_cons.1 hname with rfl | hname
  · rwa [String.toList_ofList]
  · exact h name hname

/-- Going up takes a name away and adds none. -/
theorem IsSettled.up {t : Trail} (h : t.IsSettled) : t.up.IsSettled := by
  rw [Trail.up]
  split
  · exact h
  · next name names hnames =>
    split
    · exact h
    · exact fun other hother => h other (hnames ▸ List.mem_cons_of_mem _ hother)

/-- At the end of a path an empty segment may be added. -/
theorem IsSettled.settle {t : Trail} (h : t.IsSettled) (isLast : Bool) :
    (t.settle isLast).IsSettled := by
  rw [Trail.settle]
  split
  · exact h.push settled_nil
  · exact h

/-- A step outside of files: a piece of dots or a segment. -/
theorem step_eq (isLast : Bool) (t : Trail) (piece : List Char) :
    t.step false isLast piece =
      if isDoubleDot (dropSkipped piece) then t.up.settle isLast
      else if isSingleDot (dropSkipped piece) then t.settle isLast
      else t.push (dropSkipped piece) := by
  simp [Trail.step]

/-- A piece without slashes keeps a path settled. -/
theorem IsSettled.step {t : Trail} (h : t.IsSettled) (isLast : Bool) {piece : List Char}
    (hslash : ∀ c ∈ piece, isSlash true c = false) : (t.step false isLast piece).IsSettled := by
  rw [step_eq]
  split
  · exact h.up.settle isLast
  split
  · exact h.settle isLast
  · next hdouble hsingle =>
    refine h.push (settled_percentEncode (fun c hc => ?_) hsingle hdouble)
    exact hslash c (List.mem_filter.1 hc).1

/-- The last piece leaves a segment. -/
theorem step_names_ne_nil (t : Trail) (piece : List Char) :
    (t.step false true piece).names ≠ [] := by
  rw [step_eq]
  split
  · exact List.cons_ne_nil _ _
  split
  · exact List.cons_ne_nil _ _
  · exact List.cons_ne_nil _ _

/-- A path after its pieces is settled, and it has a segment if there was a piece. -/
theorem isSettled_walk {pieces : List (List Char)} {t : Trail} (h : t.IsSettled)
    (hslash : ∀ piece ∈ pieces, ∀ c ∈ piece, isSlash true c = false) :
    (walk false t pieces).IsSettled ∧ (pieces ≠ [] → (walk false t pieces).names ≠ []) := by
  induction pieces generalizing t with
  | nil => exact ⟨h, fun hne => absurd rfl hne⟩
  | cons piece rest ih =>
    have hstep := h.step rest.isEmpty (hslash piece List.mem_cons_self)
    obtain ⟨hwalk, hne⟩ := ih hstep fun p hp => hslash p (List.mem_cons_of_mem _ hp)
    refine ⟨hwalk, fun _ => ?_⟩
    cases rest with
    | nil => exact step_names_ne_nil t piece
    | cons next rest => exact hne (List.cons_ne_nil _ _)

/-- Settled pieces are the segments. -/
theorem walk_of_settled {names : List String} (h : ∀ name ∈ names, Settled name.toList)
    (t : Trail) : (walk false t (names.map String.toList)).names = names.reverse ++ t.names := by
  induction names generalizing t with
  | nil => rfl
  | cons name names ih =>
    obtain ⟨hchars, hsingle, hdouble⟩ := h name List.mem_cons_self
    have hplain : ∀ c ∈ name.toList, isPlain escapesInPath c = true ∧ isSkipped c = false := by
      intro c hc
      have hsegment := hchars c hc
      simp only [isSegmentChar, Bool.and_eq_true] at hsegment
      have hascii := hsegment.1
      simp only [isPlain, Bool.and_eq_true, decide_eq_true_eq] at hascii
      exact ⟨hsegment.1, forall_ascii (P := fun c => isPlain escapesInPath c = true →
        isSkipped c = false) (by decide) hascii.1 hsegment.1⟩
    have hkept : dropSkipped name.toList = name.toList :=
      List.filter_eq_self.2 fun c hc => by rw [(hplain c hc).2]; rfl
    rw [List.map_cons, walk, ih (fun n hn => h n (List.mem_cons_of_mem _ hn)), step_eq, hkept,
      hdouble, hsingle]
    simp [push, percentEncode_of_plain fun c hc => (hplain c hc).1, String.ofList_toList]

end Trail

/-- The pieces of a path of a web URL hold no slashes. -/
theorem isSlash_of_mem_pathPieces {cs piece : List Char} (h : piece ∈ pathPieces true cs) :
    ∀ c ∈ piece, isSlash true c = false := by
  intro c hc
  obtain ⟨hsep, hsub⟩ := not_mem_of_mem_splitOn h
  obtain ⟨d, _, hd⟩ := List.mem_map.1 (hsub hc)
  split at hd
  · exact absurd hc (hd ▸ hsep)
  · next hslash => exact hd ▸ (by simpa using hslash)

/-- The segments that are read of a web URL are settled, and there are some. -/
theorem settled_of_readSegments (cs : List Char) :
    readSegments true cs ≠ [] ∧ ∀ name ∈ readSegments true cs, Settled name.toList := by
  have hstart : Trail.start.IsSettled := by
    intro name hname
    cases hname
  obtain ⟨hsettled, hne⟩ := Trail.isSettled_walk hstart
    fun piece (hpiece : piece ∈ pathPieces true (dropSlash true cs)) =>
      isSlash_of_mem_pathPieces hpiece
  constructor
  · exact fun hnil => hne (splitOn_ne_nil _ _) (List.reverse_eq_nil_iff.1 hnil)
  · exact fun name hname => hsettled name (List.mem_reverse.1 hname)

/-- The text of a path: its segments with slashes between them, and one in front. -/
theorem toList_pathText {names : List String} (hne : names ≠ []) :
    (pathText (.segments names)).toList = '/' :: joinSep '/' (names.map String.toList) := by
  rw [pathText]
  induction names with
  | nil => exact absurd rfl hne
  | cons name rest ih =>
    rw [List.map_cons, String.join_cons, String.toList_append, String.toList_append, List.map_cons]
    cases rest with
    | nil => simp [joinSep]
    | cons next rest =>
      rw [ih (List.cons_ne_nil _ _), joinSep_cons _ (by simp)]
      rfl

/-- **A path again.**  The text of settled segments is read as these segments. -/
theorem readSegments_pathText {names : List String} (hne : names ≠ [])
    (h : ∀ name ∈ names, Settled name.toList) :
    readSegments true (pathText (.segments names)).toList = names := by
  have hslash : ∀ piece ∈ names.map String.toList, ∀ c ∈ piece, isSlash true c = false := by
    intro piece hpiece c hc
    obtain ⟨name, hname, rfl⟩ := List.mem_map.1 hpiece
    have := (h name hname).chars c hc
    simp only [isSegmentChar, Bool.and_eq_true, Bool.not_eq_true'] at this
    exact this.2
  have hmap : (joinSep '/' (names.map String.toList)).map
      (fun c => if isSlash true c then '/' else c) = joinSep '/' (names.map String.toList) := by
    conv => rhs; rw [← List.map_id (joinSep '/' (names.map String.toList))]
    refine List.map_congr_left fun c hc => ?_
    rcases mem_joinSep hc with rfl | ⟨piece, hpiece, hc⟩
    · rfl
    · rw [if_neg (by simp [hslash piece hpiece c hc]), id]
  rw [toList_pathText hne, readSegments, dropSlash, if_pos (by decide), pathPieces, hmap,
    splitOn_joinSep (by simpa using hne) fun piece hpiece hmem =>
      absurd (hslash piece hpiece '/' hmem) (by decide),
    Trail.segments, Trail.walk_of_settled h]
  simp [Trail.start]

end Url

end ThreatGraph
