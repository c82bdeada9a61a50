import ThreatGraph.Proofs.Text.Split
import ThreatGraph.Proofs.Yaml.Scalars
import ThreatGraph.Yaml.Lexer

/-!
# Tokens of a flow collection on one line

Outside of all blocks the lexer need not mind indentation, and the only thing that it has to
remember inside of a flow collection is the token that may turn out to begin a key.

* `At` says where the lexer is: how many flow collections are open, and which tokens it has read.
* `Leads` says that the lexer comes from one place in a text to another.
* `Cuts` says that characters are cut into tokens wherever they stand as an entry of a flow
  collection: words, texts in quotes, fields, and flow collections again (`cuts_word`,
  `cuts_quoted`, `cuts_field`, `cuts_collection`).
* `tokens?_collection` gives the tokens of a text that is a flow collection.
-/

set_option autoImplicit false

namespace ThreatGraph.Yaml

/-- The character that opens a flow collection. -/
def opening : Collection → Char
  | .sequence => '['
  | .mapping => '\x7b'

/-- The character that closes a flow collection. -/
def closing : Collection → Char
  | .sequence => ']'
  | .mapping => '\x7d'

namespace Lexing

/-! ## Candidates

A token may turn out to begin a key when a colon comes, up to a number of characters later; then a
mark is put in front of it.  For each open collection the lexer keeps one candidate for this.  A
candidate in a block may have to become a key, which would be an error if it did not; in a flow
collection none has to, and so candidates can be dropped at any time. -/

/-- A candidate for a key can still become one at a place. -/
def isNear (here : Placed) (k : KeyCandidate) : Bool :=
  here.line ≤ k.start.line && here.index ≤ k.start.index + keyLimit

/-- What is known, with the candidates that can still become keys at a place. -/
def near (here : Placed) (l : Lexing) : Lexing :=
  { l with candidates := l.candidates.map (Option.filter (isNear here)) }

/-- What is known, with another innermost candidate. -/
def setCandidate (c : Option KeyCandidate) (l : Lexing) : Lexing :=
  { l with candidates := c :: l.candidates.drop 1 }

/-- What is known, with the token at a place as a candidate if a key may stand there. -/
def noting (start : Placed) (l : Lexing) : Lexing :=
  if l.allowsKey then l.setCandidate (some ⟨l.tokens.length, start, false⟩) else l

/-- The lexer is in `depth` flow collections and in no block, with these tokens read. -/
structure At (depth : Nat) (tokens : List Token) (l : Lexing) : Prop where
  tokens_eq : l.tokens = tokens
  columns_eq : l.columns = []
  length_eq : l.candidates.length = depth + 1
  /-- No key has to stand anywhere. -/
  free : ∀ k, some k ∈ l.candidates → k.isRequired = false

variable {depth : Nat} {before : List Token} {l : Lexing}

/-- Within a flow collection the lexer knows it. -/
theorem At.inFlow (h : At (depth + 1) before l) : l.inFlow = true := by
  simp [Lexing.inFlow, h.length_eq]

/-- There are no blocks to close. -/
theorem At.closeBlocks (h : At depth before l) (column : Option Nat) :
    l.closeBlocks column = l := by
  cases l
  cases h.columns_eq
  simp [Lexing.closeBlocks]

theorem At.ne_nil (h : At depth before l) : l.candidates ≠ [] :=
  List.ne_nil_of_length_eq_add_one h.length_eq

/-- A candidate that is not required is given up quietly. -/
theorem staleCandidate_eq {c : Option KeyCandidate} (h : ∀ k, c = some k → k.isRequired = false)
    (here : Placed) : staleCandidate here c = some (c.filter (isNear here)) := by
  cases c with
  | none => rfl
  | some k =>
    have hnear : isNear here k = true ↔
        ¬(k.start.line < here.line ∨ k.start.index + keyLimit < here.index) := by
      simp [isNear]
    rw [staleCandidate, Option.filter_some]
    by_cases hstale : k.start.line < here.line ∨ k.start.index + keyLimit < here.index
    · rw [if_pos hstale, h k rfl, if_neg Bool.false_ne_true, if_neg fun hn => hnear.1 hn hstale]
    · rw [if_neg hstale, if_pos (hnear.2 hstale)]

/-- Candidates that are too far away are given up without an error. -/
theorem At.dropStale (h : At depth before l) (here : Placed) :
    l.dropStale here = some (l.near here) := by
  have hmap : ∀ cs : List (Option KeyCandidate), (∀ k, some k ∈ cs → k.isRequired = false) →
      cs.mapM (staleCandidate here) = some (cs.map (Option.filter (isNear here))) := by
    intro cs hfree
    induction cs with
    | nil => rfl
    | cons c cs ih =>
      have hc := staleCandidate_eq (fun k hk => hfree k (hk ▸ List.mem_cons_self)) here
      rw [List.mapM_cons, hc, ih fun k hk => hfree k (List.mem_cons_of_mem _ hk)]
      rfl
  rw [Lexing.dropStale, hmap _ h.free]
  rfl

/-- The innermost candidate is given up without an error. -/
theorem At.dropCandidate (h : At depth before l) :
    l.dropCandidate = some (l.setCandidate none) := by
  obtain ⟨tokens, columns, candidates, allowsKey⟩ := l
  cases candidates with
  | nil => exact absurd rfl h.ne_nil
  | cons c cs =>
    cases c with
    | none => rfl
    | some k =>
      have hk : k.isRequired = false := h.free k List.mem_cons_self
      simp [Lexing.dropCandidate, setCandidate, hk]

/-- A token that may begin a key does not have to. -/
theorem At.addCandidate (h : At depth before l) (start : Placed) :
    l.addCandidate start = some (l.noting start) := by
  rw [Lexing.addCandidate, noting]
  by_cases hallows : l.allowsKey = true
  · have hrequired : (l.outer == start.column + 1) = false := by
      simp [Lexing.outer, h.columns_eq]
    rw [if_pos hallows, if_pos hallows, h.dropCandidate]
    change some { l with candidates := some ⟨l.tokens.length, start, _ && (l.outer == _)⟩ :: _ } = _
    rw [hrequired, Bool.and_false]
    rfl
  · rw [if_neg hallows, if_neg hallows]

/-- What matters of the candidates is how many there are and that none is required. -/
theorem At.of_candidates (h : At depth before l) {candidates : List (Option KeyCandidate)}
    {n : Nat} (hlength : candidates.length = n + 1)
    (hfree : ∀ k, some k ∈ candidates → some k ∈ l.candidates ∨ k.isRequired = false) :
    At n before { l with candidates := candidates } where
  tokens_eq := h.tokens_eq
  columns_eq := h.columns_eq
  length_eq := hlength
  free k hk := (hfree k hk).elim (h.free k) id

theorem At.near (h : At depth before l) (here : Placed) : At depth before (l.near here) := by
  refine h.of_candidates (by rw [List.length_map, h.length_eq]) fun k hk => .inl ?_
  obtain ⟨c, hc, hfilter⟩ := List.mem_map.1 hk
  rwa [← Option.eq_some_of_filter_eq_some hfilter]

theorem At.setCandidate (h : At depth before l) {c : Option KeyCandidate}
    (hc : ∀ k, c = some k → k.isRequired = false) : At depth before (l.setCandidate c) := by
  refine h.of_candidates (by simp [h.length_eq]) fun k hk => ?_
  rcases List.mem_cons.1 hk with hk | hk
  · exact .inr (hc k hk.symm)
  · exact .inl (List.mem_of_mem_drop hk)

theorem At.noCandidate (h : At depth before l) : At depth before (l.setCandidate none) :=
  h.setCandidate fun _ hk => nomatch hk

theorem At.noting (h : At depth before l) (start : Placed) :
    At depth before (l.noting start) := by
  rw [Lexing.noting]
  split
  · exact h.setCandidate fun k hk => by rw [← Option.some.inj hk]
  · exact h

/-- A collection that is opened has no candidate yet. -/
theorem At.enter (h : At depth before l) :
    At (depth + 1) before { l with candidates := none :: l.candidates } := by
  refine h.of_candidates (by rw [List.length_cons, h.length_eq]) fun k hk => ?_
  exact .inl ((List.mem_cons.1 hk).resolve_left nofun)

/-- A collection that is closed takes its candidate with it. -/
theorem At.leave (h : At (depth + 1) before l) :
    At depth before { l with candidates := l.candidates.drop 1 } :=
  h.of_candidates (by rw [List.length_drop, h.length_eq]; rfl) fun _ hk =>
    .inl (List.mem_of_mem_drop hk)

theorem At.push (h : At depth before l) (b : Bool) (t : Token) :
    At depth (before ++ [t]) ((l.allow b).push t) where
  tokens_eq := congrArg (· ++ [t]) h.tokens_eq
  columns_eq := h.columns_eq
  length_eq := h.length_eq
  free := h.free

/-! ## Steps

The lexer is run with fuel, one unit for a token.  Every token has a character, so a step is said to
pay for the fuel that it takes with characters: then steps can be put together, and the length of a
text is fuel enough for all of it. -/

/-- The lexer comes from one state in front of a text to another.  It pays for tokens with
characters. -/
def Leads (l : Lexing) (cells : List Placed) (l' : Lexing) (cells' : List Placed) : Prop :=
  ∃ n, n + cells'.length ≤ cells.length ∧ ∀ fuel, run (fuel + n) l cells = run fuel l' cells'

theorem Leads.refl (l : Lexing) (cells : List Placed) : Leads l cells l cells :=
  ⟨0, by omega, fun _ => rfl⟩

/-- Steps one after the other. -/
theorem Leads.trans {l₁ l₂ l₃ : Lexing} {cells₁ cells₂ cells₃ : List Placed}
    (h : Leads l₁ cells₁ l₂ cells₂) (h' : Leads l₂ cells₂ l₃ cells₃) :
    Leads l₁ cells₁ l₃ cells₃ := by
  obtain ⟨n, hn, hrun⟩ := h
  obtain ⟨n', hn', hrun'⟩ := h'
  refine ⟨n' + n, by omega, fun fuel => ?_⟩
  rw [← Nat.add_assoc, hrun, hrun']

/-- Whether a token can begin with a character. -/
def isStart (c : Char) : Bool := !isGap c && c != '#' && c.toNat != 0xfeff

/-- Nothing is skipped in front of a token. -/
theorem skipFiller_of_isStart {p : Placed} (hp : isStart p.char = true) (fuel : Nat) (l : Lexing)
    (rest : List Placed) : skipFiller (fuel + 1) l (p :: rest) = (l, p :: rest) := by
  simp only [isStart, isGap, isSpaceOrTab, Bool.and_eq_true, Bool.not_eq_true', bne_iff_ne,
    Bool.or_eq_false_iff, beq_eq_false_iff_ne] at hp
  obtain ⟨⟨⟨⟨hspace, htab⟩, hbreak⟩, hcomment⟩, hmark⟩ := hp
  rw [skipFiller, skipToToken, if_neg (by simp [hspace, htab]), if_neg (by simp [hmark]),
    if_neg (by simp [hbreak])]
  exact if_neg hcomment

/-- The lexer reads one token, before which it gives up candidates that are too far away. -/
theorem At.leads (h : At depth before l) {c : Char} (hc : isStart c = true) {index index' : Nat}
    {rest rest' : List Char} (hlength : rest'.length ≤ rest.length) {l' : Lexing}
    (hread : readToken ⟨c, index, 0, index⟩ (row (index + 1) rest) (l.near ⟨c, index, 0, index⟩) =
      some (l', row index' rest')) :
    Leads l (row index (c :: rest)) l' (row index' rest') := by
  refine ⟨1, ?_, fun fuel => ?_⟩
  · rw [length_row, length_row, List.length_cons, Nat.add_comm]
    exact Nat.succ_le_succ hlength
  rw [row, run, skipFiller_of_isStart hc]
  change (l.dropStale _).bind _ = _
  rw [h.dropStale]
  change (readToken _ _ (Lexing.closeBlocks (some index) _)).bind _ = _
  rw [(h.near _).closeBlocks, hread]
  rfl

/-! ## Single tokens

The first character of a token decides what is read, given that the lexer is not at the beginning of
a line.  For each kind of token there is one equation. -/

theorem readToken_opening {p : Placed} (kind : Collection) (h : p.char = opening kind)
    (rest : List Placed) (l : Lexing) : readToken p rest l = l.openFlow kind p rest := by
  cases kind <;> simp [readToken, atThree_of_ne, h, opening]

theorem readToken_closing {p : Placed} (kind : Collection) (h : p.char = closing kind)
    (rest : List Placed) (l : Lexing) : readToken p rest l = l.closeFlow kind rest := by
  cases kind <;> simp [readToken, atThree_of_ne, h, closing]

theorem readToken_comma {p : Placed} (h : p.char = ',') (rest : List Placed) (l : Lexing) :
    readToken p rest l = l.flowEntry rest := by
  simp [readToken, atThree_of_ne, h]

theorem readToken_colon {p : Placed} (h : p.char = ':') (rest : List Placed) {l : Lexing}
    (hflow : l.inFlow = true) : readToken p rest l = l.value p rest := by
  simp [readToken, atThree_of_ne, h, hflow]

theorem readToken_quote {p : Placed} (h : p.char = '"') (rest : List Placed) (l : Lexing) :
    readToken p rest l = l.nodeToken p
      ((readDoubleQuoted [] Gap.none rest).map fun r => (.scalar .quoted r.1, r.2)) := by
  simp [readToken, atThree_of_ne, h]

theorem beginsPlain_of_isWordChar {c d : Char} (h : isWordChar c = true) (hd : isGap d = false)
    (flow : Bool) (index : Nat) (rest : List Char) :
    beginsPlain flow c (row index (d :: rest)) = true := by
  have hne : ∀ e, isWordChar e = false → c ≠ e := fun e => ne_of_isWordChar h
  have hspace : isSpaceOrTab d = false := (Bool.or_eq_false_iff.1 hd).1
  rw [isSpaceOrTab, Bool.or_eq_false_iff, beq_eq_false_iff_ne, beq_eq_false_iff_ne] at hspace
  rw [beginsPlain]
  split
  · simp [row, atOneOf, hspace]
  · rw [if_neg (by simp [hne '?' (by decide), hne ':' (by decide)])]
    simp [isGap_of_isWordChar h, hne ',' (by decide), hne '[' (by decide), hne ']' (by decide),
      hne '\x7b' (by decide), hne '\x7d' (by decide), hne '#' (by decide), hne '&' (by decide),
      hne '*' (by decide), hne '!' (by decide), hne '|' (by decide), hne '>' (by decide),
      hne '\'' (by decide), hne '"' (by decide), hne '%' (by decide), hne '@' (by decide),
      hne '\x60' (by decide)]

theorem readToken_word {c d : Char} (h : isWordChar c = true) (hd : isGap d = false) {index : Nat}
    (hindex : 0 < index) (rest : List Char) (l : Lexing) :
    readToken ⟨c, index, 0, index⟩ (row (index + 1) (d :: rest)) l =
      l.plain ⟨c, index, 0, index⟩ (row index (c :: d :: rest)) := by
  have hne : ∀ e, isWordChar e = false → c ≠ e := fun e => ne_of_isWordChar h
  have hcolumn : (Placed.mk c index 0 index).column ≠ 0 := Nat.ne_of_gt hindex
  rw [readToken, if_neg fun hc => hcolumn hc.1, atThree_of_ne (.inl hcolumn),
    atThree_of_ne (.inl hcolumn), if_neg Bool.false_ne_true, if_neg Bool.false_ne_true,
    if_neg (hne '[' (by decide)), if_neg (hne '\x7b' (by decide)), if_neg (hne ']' (by decide)),
    if_neg (hne '\x7d' (by decide)), if_neg (hne ',' (by decide)),
    if_neg (by simp [row, atGapOrEnd, hd]), if_neg fun hc => hne '?' (by decide) hc.1,
    if_neg fun hc => hne ':' (by decide) hc.1, if_neg (hne '*' (by decide)),
    if_neg (hne '&' (by decide)), if_neg (hne '!' (by decide)),
    if_neg fun hc => hne '|' (by decide) hc.1, if_neg fun hc => hne '>' (by decide) hc.1,
    if_neg (hne '\'' (by decide)), if_neg (hne '"' (by decide)),
    if_pos (beginsPlain_of_isWordChar h hd _ _ _)]
  rfl

/-! ## Brackets and commas

After an opening bracket and after a comma a key may stand, and this is known to the lexer; after a
closing bracket none may. -/

theorem leads_opening (h : At depth before l) (kind : Collection) (index : Nat)
    (rest : List Char) :
    ∃ l', Leads l (row index (opening kind :: rest)) l' (row (index + 1) rest) ∧
      At (depth + 1) (before ++ [.flowStart kind]) l' ∧ l'.allowsKey = true := by
  have hnear := h.near ⟨opening kind, index, 0, index⟩
  have hpush := (hnear.noting ⟨opening kind, index, 0, index⟩).push true (.flowStart kind)
  refine ⟨_, h.leads (by cases kind <;> decide) (Nat.le_refl _) ?_, hpush.enter, rfl⟩
  rw [readToken_opening kind rfl, openFlow, hnear.addCandidate]
  rfl

theorem leads_closing (h : At (depth + 1) before l) (kind : Collection) (index : Nat)
    (rest : List Char) :
    ∃ l', Leads l (row index (closing kind :: rest)) l' (row (index + 1) rest) ∧
      At depth (before ++ [.flowEnd kind]) l' := by
  have hnear := h.near ⟨closing kind, index, 0, index⟩
  have hpush := hnear.noCandidate.push false (.flowEnd kind)
  refine ⟨_, h.leads (by cases kind <;> decide) (Nat.le_refl _) ?_, hpush.leave⟩
  rw [readToken_closing kind rfl, closeFlow, hnear.dropCandidate]
  change some (({ Lexing.push _ _ with
    candidates := if Lexing.inFlow _ = true then _ else _ } : Lexing), _) = _
  rw [if_pos hnear.noCandidate.inFlow]
  rfl

theorem leads_comma (h : At depth before l) (index : Nat) (rest : List Char) :
    ∃ l', Leads l (row index (',' :: rest)) l' (row (index + 1) rest) ∧
      At depth (before ++ [.flowEntry]) l' ∧ l'.allowsKey = true := by
  have hnear := h.near ⟨',', index, 0, index⟩
  refine ⟨_, h.leads (by decide) (Nat.le_refl _) ?_, hnear.noCandidate.push true _, rfl⟩
  rw [readToken_comma rfl, flowEntry, hnear.dropCandidate]
  rfl

/-! ## Keys

The token of a key is read before it is known for one.  What is proved is therefore about the tokens
since the candidate: when the colon comes, a mark is inserted in front of them. -/

/-- A text in quotes becomes a token that may turn out to begin a key. -/
theorem leads_quoted (h : At depth before l) {text cs : List Char} (htext : SpellsText text cs)
    (index : Nat) (rest : List Char) :
    Leads l (row index ('"' :: (cs ++ '"' :: rest)))
      ((((l.near ⟨'"', index, 0, index⟩).noting ⟨'"', index, 0, index⟩).allow false).push
        (.scalar .quoted (String.ofList text)))
      (row (index + 1 + cs.length + 1) rest) := by
  have hread := readDoubleQuoted_spelled htext [] [] (Nat.succ_pos index) rest
  have hshorter : rest.length ≤ (cs ++ '"' :: rest).length := by
    rw [List.length_append, List.length_cons]
    omega
  refine h.leads (by decide) hshorter ?_
  rw [readToken_quote rfl, nodeToken, (h.near _).addCandidate, Gap.none, hread]
  rfl

/-- A token is put in between. -/
theorem At.insert {after : List Token} (h : At depth (before ++ after) l) (t : Token) :
    At depth (before ++ t :: after) (l.insert before.length t) where
  tokens_eq := by rw [Lexing.insert, h.tokens_eq, List.take_left, List.drop_left]
  columns_eq := h.columns_eq
  length_eq := h.length_eq
  free := h.free

/-- No block is opened within a flow collection. -/
theorem openBlock_of_inFlow (h : l.inFlow = true) (kind : Collection) (column position : Nat) :
    l.openBlock kind column position = l := by
  rw [openBlock, if_neg (by simp [h])]

/-- A colon in a flow collection makes a key of the candidate. -/
theorem value_of_candidate {k : KeyCandidate} {candidates : List (Option KeyCandidate)}
    (hcandidates : l.candidates = some k :: candidates) (hflow : l.inFlow = true) (start : Placed)
    (rest : List Placed) :
    l.value start rest =
      some ((((l.insert k.position .key).setCandidate none).allow false).push .value, rest) := by
  have hopen := openBlock_of_inFlow (l := l.insert k.position .key) hflow
  have hrest : (l.insert k.position .key).candidates.drop 1 = candidates := by
    rw [Lexing.insert, hcandidates]
    rfl
  simp only [value, hcandidates, hopen, setCandidate, hrest]

/-- Wherever these characters stand as an entry of a flow collection, they are cut into these
tokens.  An entry that is `fresh` has to stand where a key may. -/
def Cuts (fresh : Bool) (cs : List Char) (ts : List Token) : Prop :=
  ∀ depth before l, At (depth + 1) before l → (fresh = true → l.allowsKey = true) →
    ∀ index, 0 < index → ∀ rest, EndsEntry rest →
      ∃ l' index', 0 < index' ∧ Leads l (row index (cs ++ rest)) l' (row index' rest) ∧
        At (depth + 1) (before ++ ts) l'

theorem Cuts.of_any {cs : List Char} {ts : List Token} (h : Cuts false cs ts) (fresh : Bool) :
    Cuts fresh cs ts :=
  fun depth before l hat _ => h depth before l hat nofun

theorem isStart_of_isWordChar {c : Char} (h : isWordChar c = true) : isStart c = true := by
  have hmark : c.toNat ≠ 0xfeff := by
    intro heq
    rw [← Char.ofNat_toNat c, heq] at h
    exact absurd h (by decide)
  simp [isStart, isGap_of_isWordChar h, ne_of_isWordChar h (by decide : isWordChar '#' = false),
    hmark]

/-- What follows the first character of a word in a flow collection is no gap. -/
theorem exists_cons_of_word {w rest : List Char} (hw : ∀ c ∈ w, isWordChar c = true)
    (hrest : EndsEntry rest) : ∃ d tail, w ++ rest = d :: tail ∧ isGap d = false := by
  cases w with
  | nil =>
    obtain ⟨d, hd, tail, rfl⟩ := hrest
    refine ⟨d, tail, rfl, ?_⟩
    simp only [List.mem_cons, List.not_mem_nil, or_false] at hd
    rcases hd with rfl | rfl | rfl <;> decide
  | cons d w => exact ⟨d, w ++ rest, rfl, isGap_of_isWordChar (hw d List.mem_cons_self)⟩

/-- A word is cut into a plain scalar. -/
theorem cuts_word {w : List Char} (hw : ∀ c ∈ w, isWordChar c = true) (hne : w ≠ []) :
    Cuts false w [.scalar .plain (String.ofList w)] := by
  intro depth before l h _ index hindex rest hrest
  obtain ⟨c, w, rfl⟩ := List.exists_cons_of_ne_nil hne
  obtain ⟨hc, hw'⟩ := List.forall_mem_cons.1 hw
  have hnoting := (h.near ⟨c, index, 0, index⟩).noting ⟨c, index, 0, index⟩
  have hread := readPlain_word hw hrest 0 [] index
  have hshorter : rest.length ≤ (w ++ rest).length := by
    rw [List.length_append]
    omega
  refine ⟨_, index + (w.length + 1), Nat.add_pos_left hindex _,
    h.leads (isStart_of_isWordChar hc) hshorter ?_,
    hnoting.push false (.scalar .plain (String.ofList (c :: w)))⟩
  obtain ⟨d, tail, hd, hgap⟩ := exists_cons_of_word hw' hrest
  rw [List.cons_append, hd] at hread
  have houter : (noting ⟨c, index, 0, index⟩ (l.near ⟨c, index, 0, index⟩)).outer = 0 := by
    rw [outer, hnoting.columns_eq]
  change readToken _ (row (index + 1) (w ++ rest)) _ = _
  rw [hd, readToken_word hc hgap hindex, plain, (h.near _).addCandidate]
  change (readPlain (Lexing.inFlow _) (Lexing.outer _) [] Gap.none _).bind _ = _
  rw [hnoting.inFlow, houter, hread]
  rfl

theorem cuts_quoted {text cs : List Char} (htext : SpellsText text cs) :
    Cuts false ('"' :: cs ++ ['"']) [.scalar .quoted (String.ofList text)] := by
  intro depth before l h _ index _ rest _
  have hat := ((h.near ⟨'"', index, 0, index⟩).noting ⟨'"', index, 0, index⟩).push false
    (.scalar .quoted (String.ofList text))
  refine ⟨_, index + 1 + cs.length + 1, Nat.succ_pos _, ?_, hat⟩
  rw [List.cons_append, List.cons_append, List.append_assoc]
  exact leads_quoted h htext index rest

/-- A colon makes a key of the tokens since the candidate, if it is near. -/
theorem leads_colon {after : List Token} (h : At (depth + 1) (before ++ after) l)
    {start : Placed} {candidates : List (Option KeyCandidate)}
    (hcandidates : l.candidates = some ⟨before.length, start, false⟩ :: candidates) {index : Nat}
    (hnear : isNear ⟨':', index, 0, index⟩ ⟨before.length, start, false⟩ = true)
    (rest : List Char) :
    ∃ l', Leads l (row index (':' :: rest)) l' (row (index + 1) rest) ∧
      At (depth + 1) (before ++ .key :: after ++ [.value]) l' := by
  have hat := h.near ⟨':', index, 0, index⟩
  refine ⟨_, h.leads (by decide) (Nat.le_refl _) ?_,
    (hat.insert .key).noCandidate.push false .value⟩
  have hkept : (l.near ⟨':', index, 0, index⟩).candidates =
      some ⟨before.length, start, false⟩ ::
        candidates.map (Option.filter (isNear ⟨':', index, 0, index⟩)) := by
    rw [near, hcandidates, List.map_cons, Option.filter_some, if_pos hnear]
  rw [readToken_colon rfl _ hat.inFlow]
  exact value_of_candidate hkept hat.inFlow _ _

/-- A key in quotes and a colon are known for a key once the colon is there, unless the key is too
long. -/
theorem leads_key (h : At (depth + 1) before l) (hallows : l.allowsKey = true)
    {key spelling : List Char} (hkey : SpellsText key spelling)
    (hlength : spelling.length + 2 ≤ keyLimit) (index : Nat) (rest : List Char) :
    ∃ l' index', 0 < index' ∧
      Leads l (row index ('"' :: (spelling ++ '"' :: ':' :: rest))) l' (row index' rest) ∧
        At (depth + 1) (before ++ [.key, .scalar .quoted (String.ofList key), .value]) l' := by
  have hat := ((h.near ⟨'"', index, 0, index⟩).noting ⟨'"', index, 0, index⟩).push false
    (.scalar .quoted (String.ofList key))
  have hnoting : (l.near ⟨'"', index, 0, index⟩).noting ⟨'"', index, 0, index⟩ =
      (l.near ⟨'"', index, 0, index⟩).setCandidate
        (some ⟨before.length, ⟨'"', index, 0, index⟩, false⟩) := by
    rw [noting, if_pos (show (l.near _).allowsKey = true from hallows), (h.near _).tokens_eq]
  rw [hnoting] at hat
  have hquoted := leads_quoted h hkey index (':' :: rest)
  rw [hnoting] at hquoted
  have hnear : isNear ⟨':', index + 1 + spelling.length + 1, 0, index + 1 + spelling.length + 1⟩
      ⟨before.length, ⟨'"', index, 0, index⟩, false⟩ = true := by
    simp only [isNear, Nat.le_refl, decide_true, Bool.true_and, decide_eq_true_eq]
    omega
  obtain ⟨l', hcolon, hat'⟩ := leads_colon hat rfl hnear rest
  refine ⟨l', _, Nat.succ_pos _, hquoted.trans hcolon, ?_⟩
  rwa [List.append_assoc] at hat'

/-- A key in quotes, a colon and a value are cut into a field. -/
theorem cuts_field {key spelling cs : List Char} {ts : List Token} (hkey : SpellsText key spelling)
    (hlength : spelling.length + 2 ≤ keyLimit) (hvalue : Cuts false cs ts) :
    Cuts true ('"' :: spelling ++ '"' :: ':' :: cs)
      (.key :: .scalar .quoted (String.ofList key) :: .value :: ts) := by
  intro depth before l h hfresh index _ rest hrest
  obtain ⟨l₁, index₁, hindex₁, hleads₁, hat₁⟩ :=
    leads_key h (hfresh rfl) hkey hlength index (cs ++ rest)
  obtain ⟨l₂, index₂, hindex₂, hleads₂, hat₂⟩ :=
    hvalue depth _ l₁ hat₁ nofun index₁ hindex₁ rest hrest
  refine ⟨l₂, index₂, hindex₂, ?_, by simpa using hat₂⟩
  rw [List.cons_append, List.cons_append, List.append_assoc, List.cons_append, List.cons_append]
  exact hleads₁.trans hleads₂

/-! ## Flow collections

The entries of a collection are cut one by one, and the induction is on these.  An entry is followed
by a comma or by the bracket that closes the collection, and both end it. -/

/-- The entries of a flow collection, each in its characters and tokens. -/
abbrev Entries := List (List Char × List Token)

/-- The characters of a flow collection. -/
def collectionText (kind : Collection) (entries : Entries) : List Char :=
  opening kind :: joinSep ',' (entries.map Prod.fst) ++ [closing kind]

/-- The tokens of a flow collection. -/
def collectionTokens (kind : Collection) (entries : Entries) : List Token :=
  .flowStart kind :: joinSep .flowEntry (entries.map Prod.snd) ++ [.flowEnd kind]

theorem endsEntry_closing (kind : Collection) (rest : List Char) :
    EndsEntry (closing kind :: rest) :=
  ⟨closing kind, by cases kind <;> decide, rest, rfl⟩

/-- The entries of a flow collection are cut into their tokens, with commas between them. -/
theorem leads_entries {entries : Entries} (hentries : ∀ e ∈ entries, Cuts true e.1 e.2)
    (kind : Collection) (h : At (depth + 1) before l) (hallows : l.allowsKey = true)
    {index : Nat} (hindex : 0 < index) (rest : List Char) :
    ∃ l' index', Leads l (row index (joinSep ',' (entries.map Prod.fst) ++ closing kind :: rest))
        l' (row index' (closing kind :: rest)) ∧
      At (depth + 1) (before ++ joinSep .flowEntry (entries.map Prod.snd)) l' := by
  induction entries generalizing before l index with
  | nil => exact ⟨l, index, Leads.refl _ _, by rwa [List.map_nil, joinSep, List.append_nil]⟩
  | cons e entries ih =>
    have he := hentries e List.mem_cons_self
    by_cases hlast : entries = []
    · subst hlast
      obtain ⟨l', index', -, hleads, hat⟩ :=
        he _ _ l h (fun _ => hallows) index hindex _ (endsEntry_closing kind rest)
      exact ⟨l', index', hleads, hat⟩
    · have hends : EndsEntry
          (',' :: (joinSep ',' (entries.map Prod.fst) ++ closing kind :: rest)) :=
        ⟨',', by decide, _, rfl⟩
      obtain ⟨l₁, index₁, _, hleads₁, hat₁⟩ := he _ _ l h (fun _ => hallows) index hindex _ hends
      obtain ⟨l₂, hleads₂, hat₂, hallows₂⟩ := leads_comma hat₁ index₁
        (joinSep ',' (entries.map Prod.fst) ++ closing kind :: rest)
      obtain ⟨l₃, index₃, hleads₃, hat₃⟩ := ih (fun d hd => hentries d (List.mem_cons_of_mem _ hd))
        hat₂ hallows₂ (Nat.succ_pos _)
      refine ⟨l₃, index₃, ?_, ?_⟩
      · rw [List.map_cons, joinSep_cons _ (by simpa using hlast), List.append_assoc,
          List.cons_append]
        exact (hleads₁.trans hleads₂).trans hleads₃
      · rw [List.map_cons, joinSep_cons _ (by simpa using hlast)]
        simpa using hat₃

/-- A flow collection is cut into its tokens, wherever it stands. -/
theorem leads_collection {entries : Entries} (hentries : ∀ e ∈ entries, Cuts true e.1 e.2)
    (kind : Collection) (h : At depth before l) (index : Nat) (rest : List Char) :
    ∃ l' index', 0 < index' ∧
      Leads l (row index (collectionText kind entries ++ rest)) l' (row index' rest) ∧
        At depth (before ++ collectionTokens kind entries) l' := by
  obtain ⟨l₁, hleads₁, hat₁, hallows₁⟩ := leads_opening h kind index
    (joinSep ',' (entries.map Prod.fst) ++ closing kind :: rest)
  obtain ⟨l₂, index₂, hleads₂, hat₂⟩ :=
    leads_entries hentries kind hat₁ hallows₁ (Nat.succ_pos index) rest
  obtain ⟨l₃, hleads₃, hat₃⟩ := leads_closing hat₂ kind index₂ rest
  refine ⟨l₃, index₂ + 1, Nat.succ_pos _, ?_, ?_⟩
  · rw [collectionText, List.cons_append, List.cons_append, List.append_assoc,
      List.singleton_append]
    exact (hleads₁.trans hleads₂).trans hleads₃
  · rw [collectionTokens]
    simpa using hat₃

/-- A flow collection may stand as an entry of another one. -/
theorem cuts_collection {entries : Entries} (hentries : ∀ e ∈ entries, Cuts true e.1 e.2)
    (kind : Collection) :
    Cuts false (collectionText kind entries) (collectionTokens kind entries) :=
  fun _ _ _ h _ index _ rest _ => leads_collection hentries kind h index rest

/-- The lexer begins outside of all collections, with no token read. -/
theorem at_initial : At 0 [] initial where
  tokens_eq := rfl
  columns_eq := rfl
  length_eq := rfl
  free _ hk := nomatch List.mem_singleton.1 hk

/-- At the end of a text outside of all collections the tokens are those that are read. -/
theorem At.finish (h : At 0 before l) : l.finish = some before := by
  rw [Lexing.finish, h.closeBlocks, h.dropCandidate]
  exact congrArg some h.tokens_eq

/-- Where the lexer comes to the end of a text, it answers with the tokens. -/
theorem Leads.run {cells : List Placed} (hleads : Leads initial cells l [])
    (hat : At 0 before l) : run (cells.length + 1) initial cells = some before := by
  obtain ⟨n, hn, hrun⟩ := hleads
  have hfuel : cells.length + 1 = cells.length - n + 1 + n := by
    rw [List.length_nil] at hn
    omega
  rw [hfuel, hrun, Lexing.run]
  exact hat.finish

end Lexing

open Lexing

/-- **A flow collection is cut into its tokens.**  Let the entries of a flow collection each be cut
into some tokens wherever they stand.  Then these are the tokens of the collection as a text, in
its brackets and with commas between them. -/
theorem tokens?_collection {entries : Entries} (hentries : ∀ e ∈ entries, Cuts true e.1 e.2)
    (kind : Collection) (hinline : ∀ c ∈ collectionText kind entries, isInline c = true) :
    tokens? (String.ofList (collectionText kind entries)) =
      some (collectionTokens kind entries) := by
  obtain ⟨l, index, -, hleads, hat⟩ := leads_collection hentries kind at_initial 0 []
  have hallowed : (collectionText kind entries).all isAllowed = true := by
    refine List.all_eq_true.2 fun c hc => ?_
    have hc := hinline c hc
    simp only [isInline, Bool.and_eq_true] at hc
    exact hc.1.1.1
  rw [tokens?, String.toList_ofList]
  rw [if_pos hallowed, place_eq_row hinline]
  rw [List.append_nil] at hleads
  exact hleads.run hat

end ThreatGraph.Yaml
