import ThreatGraph.Text.Lowercase
import ThreatGraph.Text.Split

/-!
# Looking for a phrase whatever its case

A message is searched for a phrase after it is put into lower case, by the rules of Unicode and not
of ASCII.  A character beyond ASCII may then become one of ASCII, or two characters, so the search
might find the phrase where it is not, or miss it where it is.

It does neither, if the phrase is of small letters of ASCII, has no `k` and does not end with `i`
(`IsPlainPhrase`).  The Kelvin sign becomes a `k`, and the capital I with a dot an `i` and a mark
behind it, and no other character of ASCII is made of one beyond (`isForeign_lowerChar`).
`infix_lowercase_iff` says what is found: some characters of the text that are the phrase but for
the case of ASCII letters.
-/

set_option autoImplicit false

namespace ThreatGraph

open CodeTable

/-! ## Looking for a piece

Looking for a piece is looking for a place where the list goes on with it, and so it is the relation
of being an infix that is decided. -/

section

variable {α : Type} [DecidableEq α]

theorem isSome_afterStart?_iff (start xs : List α) :
    (afterStart? start xs).isSome = true ↔ start <+: xs := by
  induction start generalizing xs with
  | nil => simp [afterStart?]
  | cons a start ih =>
    cases xs with
    | nil => simp [afterStart?]
    | cons x xs =>
      rw [afterStart?, List.cons_prefix_cons]
      split
      · next h => simp [h, ih]
      · next h => simp [h]

/-- A piece occurs where the text holds it without a gap. -/
theorem occursIn_iff (piece xs : List α) : occursIn piece xs = true ↔ piece <:+: xs := by
  induction xs with
  | nil => rw [occursIn, List.isEmpty_iff, List.infix_nil]
  | cons x xs ih =>
    rw [occursIn, Bool.or_eq_true, isSome_afterStart?_iff, ih, List.infix_cons_iff]

end

/-! ## Characters

The tables of capital letters are gone through entry by entry, by computation.  What is needed of an
entry is where its small letters lie: beyond ASCII, but for one. -/

/-- By the rules of ASCII no other character has a small letter. -/
theorem toLower_of_not_ascii {c : Char} (h : 0x80 ≤ c.toNat) : c.toLower = c := by
  refine dif_neg fun hupper => ?_
  have hle : c.toNat ≤ 90 := UInt32.le_iff_toNat_le.1 hupper.2
  omega

/-- What a character beyond ASCII may become. -/
def IsForeign (piece : List Char) : Prop :=
  piece = ['k'] ∨ ∃ d : Char, 0x80 ≤ d.toNat ∧ (piece = [d] ∨ piece = ['i', d])

/-- A valid number is that of its character. -/
theorem toNat_ofNat_of_valid {n : Nat} (h : n.isValidChar) : (Char.ofNat n).toNat = n := by
  rw [Char.ofNat, dif_pos h]
  rfl

/-- The capital letters whose small ones follow them are below the surrogates. -/
theorem last_of_capitalsInPairs : ∀ s ∈ capitalsInPairs, s.last + 1 < 0xd800 := by
  decide

/-- Of the capital letters with small ones elsewhere only the Kelvin sign has one within ASCII, and
no others have them among the surrogates. -/
theorem target_of_capitalSpans : ∀ s ∈ capitalSpans,
    s = ⟨⟨0x212a, 0x212a⟩, 0x6b⟩ ∨
      0x80 ≤ s.target ∧ (s.target + (s.span.last - s.span.first) < 0xd800 ∨
        0xdfff < s.target ∧ s.target + (s.span.last - s.span.first) < 0x110000) := by
  decide +kernel

/-- The character that a shift makes of one in its span. -/
theorem ofNat_of_capitalSpans {s : Shift} (hs : s ∈ capitalSpans) {c : Char}
    (hc : s.span.has c = true) :
    Char.ofNat (s.target + (c.toNat - s.span.first)) = 'k' ∨
      0x80 ≤ (Char.ofNat (s.target + (c.toNat - s.span.first))).toNat := by
  rw [Span.has, Bool.and_eq_true, decide_eq_true_eq, decide_eq_true_eq] at hc
  rcases target_of_capitalSpans s hs with rfl | ⟨htarget, hvalid⟩
  · have hkelvin : c.toNat = 0x212a := Nat.le_antisymm hc.2 hc.1
    rw [hkelvin]
    exact .inl rfl
  · right
    rw [toNat_ofNat_of_valid]
    · omega
    · rw [Nat.isValidChar]
      omega

/-- **Small letters beyond ASCII.** -/
theorem isForeign_lowerChar {c : Char} (h : 0x80 ≤ c.toNat) : IsForeign (lowerChar c) := by
  rw [lowerChar, if_neg (Nat.not_lt.2 h)]
  split
  · exact .inr ⟨dotAbove, by decide, .inr rfl⟩
  split
  · next hpair =>
    obtain ⟨s, hs, hc⟩ := List.any_eq_true.1 hpair
    rw [Span.has, Bool.and_eq_true, Bool.and_eq_true, decide_eq_true_eq, decide_eq_true_eq] at hc
    have hlast := last_of_capitalsInPairs s hs
    refine .inr ⟨_, ?_, .inl rfl⟩
    rw [toNat_ofNat_of_valid (.inl (by omega))]
    omega
  · rw [shifted?]
    cases hfind : capitalSpans.find? (·.span.has c) with
    | none => exact .inr ⟨c, h, .inl rfl⟩
    | some s =>
      have hhas : s.span.has c = true := List.find?_some (p := fun t : Shift => t.span.has c) hfind
      rcases ofNat_of_capitalSpans (List.mem_of_find?_eq_some hfind) hhas with hk | hbeyond
      · exact .inl (congrArg (fun d => [d]) hk)
      · exact .inr ⟨_, hbeyond, .inl rfl⟩

/-- A character of ASCII becomes its small letter, whatever stands around it. -/
theorem lowerFrom_cons_of_ascii {c : Char} (h : c.toNat < 0x80) (before rest : List Char) :
    lowerFrom before (c :: rest) = c.toLower :: lowerFrom (c :: before) rest := by
  have hsigma : c ≠ capitalSigma := by
    rintro rfl
    exact absurd h (by decide)
  rw [lowerFrom, if_neg hsigma, lowerChar, if_pos h]
  rfl

/-- Any other character becomes something foreign, also where that depends on what stands around
it. -/
theorem lowerFrom_cons_of_not_ascii {c : Char} (h : 0x80 ≤ c.toNat) (before rest : List Char) :
    ∃ piece, IsForeign piece ∧
      lowerFrom before (c :: rest) = piece ++ lowerFrom (c :: before) rest := by
  refine ⟨_, ?_, rfl⟩
  split
  · refine .inr ⟨_, ?_, .inl rfl⟩
    rw [lowerSigma]
    split <;> decide
  · exact isForeign_lowerChar h

/-! ## Phrases

A phrase is found from its first character on.  If that stood where a character beyond ASCII was,
the phrase would begin with a `k`, or with an `i` that a mark follows; neither is so for the phrases
that are looked for.  So such characters can be passed over, and the others are compared by the case
of ASCII. -/

/-- A phrase that no character beyond ASCII can be taken for a part of. -/
structure IsPlainPhrase (phrase : List Char) : Prop where
  ascii : ∀ c ∈ phrase, c.toNat < 0x80
  no_k : 'k' ∉ phrase
  no_i_last : phrase.getLast? ≠ some 'i'

/-- What is left of a phrase after its first character is plain too. -/
theorem IsPlainPhrase.tail {x : Char} {phrase : List Char} (h : IsPlainPhrase (x :: phrase)) :
    IsPlainPhrase phrase where
  ascii := fun c hc => h.ascii c (List.mem_cons_of_mem _ hc)
  no_k := fun hk => h.no_k (List.mem_cons_of_mem _ hk)
  no_i_last := by
    have hlast := h.no_i_last
    cases phrase with
    | nil => simp
    | cons y rest => rwa [List.getLast?_cons_cons] at hlast

/-- A character of a phrase is not one beyond ASCII. -/
theorem IsPlainPhrase.ne {x d : Char} {phrase : List Char} (h : IsPlainPhrase (x :: phrase))
    (hd : 0x80 ≤ d.toNat) : x ≠ d := by
  rintro rfl
  exact absurd (h.ascii x List.mem_cons_self) (Nat.not_lt.2 hd)

/-- No phrase begins where a character beyond ASCII stood. -/
theorem IsPlainPhrase.not_prefix {x : Char} {phrase piece : List Char}
    (h : IsPlainPhrase (x :: phrase)) (hpiece : IsForeign piece) (rest : List Char) :
    ¬ (x :: phrase) <+: piece ++ rest := by
  intro hprefix
  rcases hpiece with rfl | ⟨d, hd, rfl | rfl⟩
  · exact h.no_k ((List.cons_prefix_cons.1 hprefix).1 ▸ List.mem_cons_self)
  · exact h.ne hd (List.cons_prefix_cons.1 hprefix).1
  · -- The phrase would have to go on after its `i`, with a character beyond ASCII.
    obtain ⟨rfl, htail⟩ := List.cons_prefix_cons.1 hprefix
    cases phrase with
    | nil => exact h.no_i_last rfl
    | cons y phrase => exact h.tail.ne hd (List.cons_prefix_cons.1 htail).1

/-- What a character beyond ASCII became plays no part in looking for a phrase. -/
theorem IsPlainPhrase.infix_foreign_iff {phrase piece : List Char} (h : IsPlainPhrase phrase)
    (hne : phrase ≠ []) (hpiece : IsForeign piece) (rest : List Char) :
    phrase <:+: piece ++ rest ↔ phrase <:+: rest := by
  obtain ⟨x, phrase, rfl⟩ := List.exists_cons_of_ne_nil hne
  have hfirst := h.not_prefix hpiece rest
  rcases hpiece with rfl | ⟨d, hd, rfl | rfl⟩
  · rw [List.singleton_append, List.infix_cons_iff]
    exact or_iff_right hfirst
  · rw [List.singleton_append, List.infix_cons_iff]
    exact or_iff_right hfirst
  · have hsecond : ¬ (x :: phrase) <+: d :: rest := h.not_prefix (.inr ⟨d, hd, .inl rfl⟩) rest
    rw [List.cons_append, List.singleton_append] at hfirst ⊢
    rw [List.infix_cons_iff, List.infix_cons_iff, or_iff_right hfirst, or_iff_right hsecond]

/-- A phrase stands at the front of a text in lower case exactly if it does so by the case of
ASCII. -/
theorem IsPlainPhrase.prefix_lowerFrom_iff {phrase : List Char} (h : IsPlainPhrase phrase)
    (before cs : List Char) :
    phrase <+: lowerFrom before cs ↔ phrase <+: cs.map Char.toLower := by
  induction cs generalizing phrase before with
  | nil => rfl
  | cons c rest ih =>
    cases phrase with
    | nil => simp
    | cons x phrase =>
      rw [List.map_cons, List.cons_prefix_cons]
      rcases Nat.lt_or_ge c.toNat 0x80 with hc | hc
      · rw [lowerFrom_cons_of_ascii hc, List.cons_prefix_cons, ih h.tail]
      · obtain ⟨piece, hpiece, hlower⟩ := lowerFrom_cons_of_not_ascii hc before rest
        rw [hlower, toLower_of_not_ascii hc]
        exact iff_of_false (h.not_prefix hpiece _) fun hx => h.ne hc hx.1

/-- And so it does anywhere in the text. -/
theorem IsPlainPhrase.infix_lowerFrom_iff {phrase : List Char} (h : IsPlainPhrase phrase)
    (hne : phrase ≠ []) (before cs : List Char) :
    phrase <:+: lowerFrom before cs ↔ phrase <:+: cs.map Char.toLower := by
  induction cs generalizing before with
  | nil => rfl
  | cons c rest ih =>
    have hprefix := h.prefix_lowerFrom_iff before (c :: rest)
    rw [List.map_cons] at hprefix ⊢
    rw [List.infix_cons_iff, ← hprefix]
    rcases Nat.lt_or_ge c.toNat 0x80 with hc | hc
    · rw [lowerFrom_cons_of_ascii hc, List.infix_cons_iff, ih]
    · obtain ⟨piece, hpiece, hlower⟩ := lowerFrom_cons_of_not_ascii hc before rest
      have hfirst : ¬ phrase <+: piece ++ lowerFrom (c :: before) rest := by
        obtain ⟨x, tail, rfl⟩ := List.exists_cons_of_ne_nil hne
        exact h.not_prefix hpiece _
      rw [hlower, h.infix_foreign_iff hne hpiece, ih, or_iff_right hfirst]

/-- **What a search in lower case finds.**  A phrase is found where some characters of the text are
the phrase, but for the case of letters of ASCII. -/
theorem IsPlainPhrase.infix_lowercase_iff {phrase : List Char} (h : IsPlainPhrase phrase)
    (hne : phrase ≠ []) (cs : List Char) :
    phrase <:+: lowercase cs ↔ ∃ window, window <:+: cs ∧ window.map Char.toLower = phrase := by
  rw [lowercase, h.infix_lowerFrom_iff hne, List.infix_map_iff]
  simp only [eq_comm]

end ThreatGraph
