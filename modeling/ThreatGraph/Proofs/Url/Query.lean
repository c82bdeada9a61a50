import ThreatGraph.Proofs.Url.Rereading

/-!
# What the query of a URL holds

Pairs that are added to a URL come after those that its query has already, and are read from it as
they were (`Url.queryPairs_appendPairs`).

A URL has a query only if there is a question mark in its text (`Url.query_of_parse`).  None is left
in front of its query, and no number sign either: where a part of a URL could hold one, it is
escaped (`Url.not_mem_base`).  So the text of a URL up to the end of its path is what stands in
front of the first of these (`Url.base_eq_takeWhile`).
-/

set_option autoImplicit false

namespace ThreatGraph.Url

/-! ## Adding pairs

Pairs are added as the text of a form, after an ampersand if the query holds something already.  The
one case in which this text could be misread is that of no pairs at all, where the ampersand would
stand for an empty pair; nothing is added then. -/

/-- **Adding pairs to a query.**  Those that are there stay in front. -/
theorem queryPairs_appendPairs (u : Url) (pairs : List (String × String)) :
    (u.appendPairs pairs).queryPairs = u.queryPairs ++ pairs := by
  have hform : String.ofList (Form.encode pairs) = "" ↔ pairs = [] := by
    rw [String.ofList_eq_empty_iff, Form.encode_eq_nil_iff]
  rw [queryPairs, queryPairs, appendPairs]
  dsimp only
  split
  · next hbefore =>
    rw [hbefore]
    split
    · next hempty => rw [hform.1 hempty]; rfl
    · rw [Option.getD_some, String.toList_ofList, Form.decode_encode]; rfl
  · next hbefore =>
    split
    · next hempty => rw [hform.1 hempty, Option.getD_some, List.append_nil]
    · have htext : (u.query.getD "" ++ "&" ++ String.ofList (Form.encode pairs)).toList =
          (u.query.getD "").toList ++ '&' :: Form.encode pairs := by simp
      rw [Option.getD_some, htext, Form.decode_append, Form.decode_encode]

/-! ## No query without a question mark

A URL is read by three readers, for files, for URLs with an authority and for those without a host,
and all of them cut off the query with `splitTail`.  So the characters are followed from the text
down to that one place: trimming and reading the scheme only leave characters out. -/

/-- Where there is no question mark nothing is cut off for a query. -/
theorem query_of_splitTail {cs : List Char} (h : '?' ∉ cs) : (splitTail cs).2.1 = none := by
  have hfront : '?' ∉ (splitFirst '#' cs).1 := fun hmem => h (splitFirst_subset '#' cs hmem)
  change (splitFirst '?' (splitFirst '#' cs).1).2 = none
  rw [splitFirst_of_not_mem hfront]

/-- A URL with an authority has no query without a question mark. -/
theorem query_of_parseAuthority {scheme : String} {cs : List Char} {u : Url}
    (h : parseAuthority scheme cs = .ok u) (hmark : '?' ∉ cs) : u.query = none := by
  have hquery := query_of_splitTail hmark
  rw [parseAuthority] at h
  dsimp only at h
  split at h
  · obtain ⟨_, hthrow, _⟩ := bind_eq_ok h
    cases hthrow
  · obtain ⟨_, _, h⟩ := bind_eq_ok h
    cases h
    simp [finish, hquery]

/-- Neither has a URL of a file, in whichever of its forms. -/
theorem query_of_parseFile {cs : List Char} {u : Url} (h : parseFile cs = .ok u)
    (hmark : '?' ∉ cs) : u.query = none := by
  have hquery := query_of_splitTail hmark
  rw [parseFile] at h
  dsimp only at h
  rw [hquery] at h
  split at h
  · cases h
    rfl
  split at h
  · cases h
    rfl
  split at h
  · cases h
    rfl
  · obtain ⟨host, _, h⟩ := bind_eq_ok h
    split at h <;> cases h <;> rfl

/-- Neither has a URL without a host. -/
theorem query_parseHostless (scheme : String) {cs : List Char} (hmark : '?' ∉ cs) :
    (parseHostless scheme cs).query = none := by
  have hquery := query_of_splitTail hmark
  simp [parseHostless, finish, hquery]

/-- Trimming adds no characters. -/
theorem trim_subset (text : String) : trim text ⊆ text.toList := by
  intro c hc
  rw [trim, dropEndWhile, List.mem_reverse] at hc
  have hmem := List.mem_reverse.1 ((List.dropWhile_sublist _).subset hc)
  exact (List.dropWhile_sublist _).subset hmem

/-- What follows the scheme is a part of the text. -/
theorem subset_of_readScheme? {cs rest : List Char} {scheme : String}
    (h : readScheme? cs = some (scheme, rest)) : rest ⊆ cs := by
  unfold readScheme? at h
  split at h
  · split at h
    · split at h
      · next after hafter =>
        cases h
        intro c hc
        exact (List.dropWhile_sublist isSchemeChar).subset (hafter ▸ List.mem_cons_of_mem _ hc)
      · cases h
    · cases h
  · cases h

/-- **No question mark, no query.** -/
theorem query_of_parse {text : String} {u : Url} (h : parse text = .ok u)
    (hmark : '?' ∉ text.toList) : u.query = none := by
  have htrimmed : '?' ∉ trim text := fun hmem => hmark (trim_subset text hmem)
  unfold parse at h
  dsimp only at h
  split at h
  · cases h
  · next scheme rest hscheme =>
    have hrest : '?' ∉ rest := fun hmem =>
      htrimmed (List.mem_filter.1 (subset_of_readScheme? hscheme hmem)).1
    -- A URL of a file is read from the text as it was before its blanks were left out.
    split at h
    · refine query_of_parseFile h fun hmem => ?_
      cases hafter : (splitFirst ':' (trim text)).2 with
      | none => simp [hafter] at hmem
      | some after =>
        rw [hafter] at hmem
        exact htrimmed (subset_of_splitFirst hafter hmem)
    split at h
    · exact query_of_parseAuthority h fun hmem => hrest ((List.dropWhile_sublist _).subset hmem)
    · split at h
      · next after => exact query_of_parseAuthority h fun hmem => hrest (by simp [hmem])
      · cases h
        exact query_parseHostless scheme hrest

/-! ## What ends a path

Of each part of a URL in front of its query there is a reason why it holds no mark: the scheme is
made of other characters, user information and segments of a path have their marks escaped, and a
host with a mark is refused.  `IsUnmarked` collects the parts, and the readers are gone through one
by one below. -/

/-- The characters that end the path of a URL: behind them stands its query or its fragment. -/
def isMark (c : Char) : Bool := c == '?' || c == '#'

variable {mark : Char}

theorem isMark_cases (h : isMark mark = true) : mark = '?' ∨ mark = '#' := by
  simpa [isMark] using h

/-- A mark is escaped, or there was none. -/
theorem not_mem_percentEncode (hmark : isMark mark = true) {escapes : Char → Bool} {cs : List Char}
    (h : escapes mark = true ∨ mark ∉ cs) : mark ∉ percentEncode escapes cs := by
  intro hmem
  rcases mem_percentEncode hmem with ⟨hcs, hplain⟩ | hpercent | hhex
  · rcases h with hescapes | hnot
    · simp [isPlain, hescapes] at hplain
    · exact hnot hcs
  · subst hpercent
    exact absurd hmark (by decide)
  · rcases isMark_cases hmark with rfl | rfl <;> exact absurd hhex (by decide)

theorem not_mem_ofList_percentEncode (hmark : isMark mark = true) {escapes : Char → Bool}
    {cs : List Char} (h : escapes mark = true ∨ mark ∉ cs) :
    mark ∉ (String.ofList (percentEncode escapes cs)).toList := by
  rw [String.toList_ofList]
  exact not_mem_percentEncode hmark h

/-- The parts of a URL in front of its query do not hold a mark. -/
structure IsUnmarked (mark : Char) (u : Url) : Prop where
  scheme : mark ∉ u.scheme.toList
  username : mark ∉ u.username.toList
  password : mark ∉ u.password.toList
  host : ∀ host, u.host = some host → mark ∉ host.text.toList
  path : mark ∉ (pathText u.path).toList

theorem not_mem_toDigits (hmark : isMark mark = true) (n : Nat) : mark ∉ Nat.toDigits 10 n := by
  intro hmem
  have hname := Host.isNameChar_of_mem_toDigits (by decide) (by decide) hmem
  rcases isMark_cases hmark with rfl | rfl <;> exact absurd hname (by decide)

/-- What stands in front of the query is made of the parts and a few characters between them, and
none of these is a mark. -/
theorem IsUnmarked.not_mem_base (hmark : isMark mark = true) {u : Url} (h : IsUnmarked mark u) :
    mark ∉ u.base.toList := by
  -- The marks are none of the characters that are put between the parts.
  have hplain : ∀ c, isMark c = false → mark ≠ c := fun c hc heq => by
    rw [heq, hc] at hmark
    cases hmark
  have hcolon : mark ≠ ':' := hplain ':' (by decide)
  have hslash : mark ≠ '/' := hplain '/' (by decide)
  have hat : mark ≠ '@' := hplain '@' (by decide)
  have hdot : mark ≠ '.' := hplain '.' (by decide)
  have huser : mark ∉ u.userText.toList := by
    rw [userText]
    split
    · simp
    · split <;> simp [h.username, h.password, hcolon, hat]
  have hhost : mark ∉ u.hostText.toList := by
    rw [hostText, String.toList_append, List.mem_append, not_or]
    constructor
    · split
      · next host hhost => exact h.host host hhost
      · simp
    · split
      · next port _ => simp [not_mem_toDigits hmark port, hcolon]
      · simp
  have hauthority : mark ∉ u.authorityText.toList := by
    rw [authorityText]
    split
    · simp [huser, hhost, hslash]
    · split
      · simp [hslash]
      · split <;> simp [hslash, hdot]
  rw [base]
  simp [h.scheme, h.path, hauthority, hcolon]

/-- A path has no marks if its segments have none. -/
theorem not_mem_pathText (hmark : isMark mark = true) {names : List String}
    (h : ∀ name ∈ names, mark ∉ name.toList) : mark ∉ (pathText (.segments names)).toList := by
  have hslash : mark ≠ '/' := by
    rintro rfl
    exact absurd hmark (by decide)
  cases names with
  | nil => simp [pathText]
  | cons name rest =>
    rw [toList_pathText (List.cons_ne_nil _ _)]
    intro hmem
    rcases List.mem_cons.1 hmem with heq | hmem
    · exact hslash heq
    · rcases mem_joinSep hmem with heq | ⟨piece, hpiece, hc⟩
      · exact hslash heq
      · obtain ⟨name', hname, rfl⟩ := List.mem_map.1 hpiece
        exact h name' hname hc

/-- Both marks are escaped in the segments of a path. -/
theorem escapesInPath_of_isMark (h : isMark mark = true) : escapesInPath mark = true := by
  rcases isMark_cases h with rfl | rfl <;> decide

/-- A path none of whose segments holds a mark.  Whatever a step of a walk does to a path, a segment
that it adds is escaped. -/
def Trail.IsUnmarked (mark : Char) (t : Trail) : Prop := ∀ name ∈ t.names, mark ∉ name.toList

namespace Trail

variable {t : Trail}

/-- A segment that is added is escaped. -/
theorem IsUnmarked.push (hmark : isMark mark = true) (h : t.IsUnmarked mark)
    (segment : List Char) : (t.push segment).IsUnmarked mark := by
  intro name hname
  rcases List.mem_cons.1 hname with rfl | hname
  · exact not_mem_ofList_percentEncode hmark (.inl (escapesInPath_of_isMark hmark))
  · exact h name hname

/-- A step up takes a segment away, or none. -/
theorem IsUnmarked.up (h : t.IsUnmarked mark) : t.up.IsUnmarked mark := by
  rw [Trail.up]
  split
  · exact h
  · next name names hnames =>
    split
    · exact h
    · exact fun other hother => h other (hnames ▸ List.mem_cons_of_mem _ hother)

theorem IsUnmarked.settle (hmark : isMark mark = true) (h : t.IsUnmarked mark) (isLast : Bool) :
    (t.settle isLast).IsUnmarked mark := by
  rw [Trail.settle]
  split
  · exact h.push hmark []
  · exact h

/-- A piece of the path takes a segment away or adds some: its characters, an empty one after dots,
or the letter of a drive. -/
theorem IsUnmarked.step (hmark : isMark mark = true) (h : t.IsUnmarked mark) (file isLast : Bool)
    (piece : List Char) : (t.step file isLast piece).IsUnmarked mark := by
  rw [Trail.step]
  dsimp only
  split
  · exact (h.push hmark _).push hmark _
  split
  · exact h.up.settle hmark isLast
  split
  · exact h.settle hmark isLast
  split
  · exact h.push hmark _
  · exact h.push hmark _

/-- All pieces of the path, one after the other. -/
theorem IsUnmarked.walk (hmark : isMark mark = true) (file : Bool) (pieces : List (List Char))
    (h : t.IsUnmarked mark) : (Trail.walk file t pieces).IsUnmarked mark := by
  induction pieces generalizing t with
  | nil => exact h
  | cons piece rest ih => exact ih (h.step hmark file rest.isEmpty piece)

theorem not_mem_segments_walk (hmark : isMark mark = true) (file : Bool)
    (pieces : List (List Char)) :
    ∀ name ∈ (Trail.walk file .start pieces).segments, mark ∉ name.toList := by
  intro name hname
  have hstart : Trail.start.IsUnmarked mark := fun _ hmem => nomatch hmem
  exact hstart.walk hmark file pieces name (List.mem_reverse.1 hname)

end Trail

/-! ## Whole URLs

The readers once more, and for each of them the parts of the URL that it makes.  The host is the
part with the most cases: that of a web URL is read as a name or an address, and any other is kept
as it is, with what is not allowed in it refused. -/

/-- What a scheme is made of. -/
theorem isSchemeChar_of_readScheme? {cs rest : List Char} {scheme : String}
    (h : readScheme? cs = some (scheme, rest)) :
    scheme ≠ "" ∧ ∀ c ∈ scheme.toList, isSchemeChar c = true := by
  have hlower : ∀ c, isSchemeChar c = true → isSchemeChar c.toLower = true := fun c hc => by
    by_cases hlt : c.toNat < 0x80
    · exact forall_ascii (P := fun c => isSchemeChar c = true → isSchemeChar c.toLower = true)
        (by decide) hlt hc
    · rwa [toLower_of_not_ascii (Nat.le_of_not_lt hlt)]
  unfold readScheme? at h
  split at h
  · next c tail =>
    split at h
    · next halpha =>
      split at h
      · cases h
        have hfirst : isSchemeChar c = true := by simp [isSchemeChar, Char.isAlphanum, halpha]
        refine ⟨fun hempty => ?_, fun d hd => ?_⟩
        · rw [String.ofList_eq_empty_iff, List.takeWhile_cons, if_pos hfirst] at hempty
          cases hempty
        · rw [String.toList_ofList] at hd
          obtain ⟨e, he, rfl⟩ := List.mem_map.1 hd
          exact hlower e (List.all_eq_true.1 List.all_takeWhile e he)
      · cases h
    · cases h
  · cases h

/-- A scheme has no marks, as it is made of letters, digits and a few other characters. -/
theorem not_mem_scheme (hmark : isMark mark = true) {cs rest : List Char} {scheme : String}
    (h : readScheme? cs = some (scheme, rest)) : mark ∉ scheme.toList := by
  intro hmem
  have hscheme := (isSchemeChar_of_readScheme? h).2 mark hmem
  rcases isMark_cases hmark with rfl | rfl <;> exact absurd hscheme (by decide)

/-- The scheme of a URL that is read. -/
theorem readScheme?_of_parse {text : String} {u : Url} (h : parse text = .ok u) :
    ∃ cs rest, readScheme? cs = some (u.scheme, rest) := by
  unfold parse at h
  dsimp only at h
  split at h
  · cases h
  · next scheme rest hread =>
    refine ⟨dropSkipped (trim text), rest, ?_⟩
    rw [hread]
    split at h
    · next hfile => rw [scheme_of_parseFile h, hfile]
    split at h
    · rw [scheme_of_parseAuthority h]
    · split at h
      · rw [scheme_of_parseAuthority h]
      · cases h
        rfl

/-- A host that is read has no marks, since its text consists of characters that stand in front of a
path. -/
theorem not_mem_of_isRead (hmark : isMark mark = true) {host : Host} (h : host.IsRead) :
    mark ∉ host.text.toList := by
  intro hmem
  have hfront := (isFrontChar_of_mem_authority h.hasShape none (List.mem_append_left _ hmem)).1
  rcases isMark_cases hmark with rfl | rfl <;> exact absurd hfront (by decide)

/-- A host that is kept as it is has no marks, since these are refused in it. -/
theorem not_mem_of_parseOther (hmark : isMark mark = true) {cs : List Char} {host : Host}
    (h : Host.parseOther cs = .ok host) : mark ∉ host.text.toList := by
  have hforbidden : Host.isForbiddenInHost mark = true := by
    rcases isMark_cases hmark with rfl | rfl <;> decide
  unfold Host.parseOther at h
  split at h
  · exact not_mem_of_isRead hmark (Host.isRead_of_parseBracketed h)
  · split at h
    · cases h
    · next hallowed =>
      cases h
      refine not_mem_ofList_percentEncode hmark (.inr fun hmem => hallowed ?_)
      exact List.any_eq_true.2 ⟨mark, hmem, hforbidden⟩

/-- The host of a URL has no marks, whether it is that of a web URL or another one. -/
theorem not_mem_of_parseHostPort (hmark : isMark mark = true) {scheme : String}
    {cs rest : List Char} {host : Host} {port : Option Nat}
    (h : parseHostPort scheme cs = .ok (host, port, rest)) : mark ∉ host.text.toList := by
  rw [parseHostPort] at h
  dsimp only at h
  split at h
  · obtain ⟨_, hthrow, _⟩ := bind_eq_ok h
    cases hthrow
  split at h
  · obtain ⟨found, hfound, h⟩ := bind_eq_ok h
    obtain ⟨_, _, h⟩ := bind_eq_ok h
    cases h
    exact not_mem_of_isRead hmark (Host.isRead_of_parse hfound)
  · obtain ⟨found, hfound, h⟩ := bind_eq_ok h
    obtain ⟨_, _, h⟩ := bind_eq_ok h
    cases h
    exact not_mem_of_parseOther hmark hfound

/-- User information is escaped. -/
theorem not_mem_readUser (hmark : isMark mark = true) (cs : List Char) :
    mark ∉ (readUser cs).1.toList ∧ mark ∉ (readUser cs).2.1.toList := by
  have hescapes : escapesInUser mark = true := by
    rcases isMark_cases hmark with rfl | rfl <;> decide
  rw [readUser]
  split
  · exact ⟨List.not_mem_nil, List.not_mem_nil⟩
  · exact ⟨not_mem_ofList_percentEncode hmark (.inl hescapes),
      not_mem_ofList_percentEncode hmark (.inl hescapes)⟩

/-- The parts of a URL with an authority have no marks. -/
theorem isUnmarked_of_parseAuthority (hmark : isMark mark = true) {scheme : String}
    {cs : List Char} {u : Url} (hscheme : mark ∉ scheme.toList)
    (h : parseAuthority scheme cs = .ok u) : IsUnmarked mark u := by
  rw [parseAuthority] at h
  dsimp only at h
  split at h
  · obtain ⟨_, hthrow, _⟩ := bind_eq_ok h
    cases hthrow
  · obtain ⟨⟨host, port, before⟩, hhost, h⟩ := bind_eq_ok h
    have huser := not_mem_readUser hmark
      ((splitTail cs).1.takeWhile (!endsAuthority (isWebScheme scheme) ·))
    cases h
    refine ⟨hscheme, huser.1, huser.2, ?_, not_mem_pathText hmark ?_⟩
    · rintro found ⟨⟩
      exact not_mem_of_parseHostPort hmark hhost
    · split
      · exact fun _ hmem => absurd hmem List.not_mem_nil
      · exact Trail.not_mem_segments_walk hmark false _

theorem dropEmptyNames_subset (names : List String) : dropEmptyNames names ⊆ names := by
  fun_induction dropEmptyNames names with
  | case1 name rest ih => exact List.subset_cons_of_subset _ ih
  | case2 names _ => exact List.Subset.refl _

theorem isUnmarked_ofFile (hmark : isMark mark = true) {host : Option Host}
    (hhost : ∀ h, host = some h → mark ∉ h.text.toList) (cs : List Char)
    (query fragment : Option (List Char)) : IsUnmarked mark (ofFile host cs query fragment) := by
  have hscheme : mark ∉ "file".toList := by
    rcases isMark_cases hmark with rfl | rfl <;> decide
  refine ⟨hscheme, List.not_mem_nil, List.not_mem_nil, ?_,
    not_mem_pathText hmark fun name hname => ?_⟩
  · intro found hfound
    change (if _ then none else host) = some found at hfound
    split at hfound
    · cases hfound
    · exact hhost found hfound
  · exact Trail.not_mem_segments_walk hmark true _ name (dropEmptyNames_subset _ hname)

/-- Neither have those of a URL of a file, which may have a host and has neither user nor port. -/
theorem isUnmarked_of_parseFile (hmark : isMark mark = true) {cs : List Char} {u : Url}
    (h : parseFile cs = .ok u) : IsUnmarked mark u := by
  have hnone : ∀ h : Host, none = some h → mark ∉ h.text.toList := fun _ h => nomatch h
  rw [parseFile] at h
  dsimp only at h
  split at h
  · cases h
    exact isUnmarked_ofFile hmark hnone _ _ _
  split at h
  · cases h
    exact isUnmarked_ofFile hmark hnone _ _ _
  split at h
  · cases h
    exact isUnmarked_ofFile hmark hnone _ _ _
  · obtain ⟨host, hhost, h⟩ := bind_eq_ok h
    split at h
    · cases h
      exact isUnmarked_ofFile hmark hnone _ _ _
    · cases h
      refine isUnmarked_ofFile hmark ?_ _ _ _
      rintro found ⟨⟩
      exact not_mem_of_isRead hmark (Host.isRead_of_parse hhost)

/-- The front of a URL ends at its first mark. -/
theorem not_mem_splitTail (hmark : isMark mark = true) (cs : List Char) :
    mark ∉ (splitTail cs).1 := by
  change mark ∉ (splitFirst '?' (splitFirst '#' cs).1).1
  rcases isMark_cases hmark with rfl | rfl
  · exact not_mem_splitFirst '?' _
  · exact fun hmem => not_mem_splitFirst '#' cs (splitFirst_subset '?' _ hmem)

/-- Nor those of a URL without a host.  Its path may be kept as it is, but it ends at the first
mark. -/
theorem isUnmarked_parseHostless (hmark : isMark mark = true) {scheme : String}
    (hscheme : mark ∉ scheme.toList) (cs : List Char) :
    IsUnmarked mark (parseHostless scheme cs) := by
  rw [parseHostless]
  refine ⟨hscheme, List.not_mem_nil, List.not_mem_nil, by rintro _ ⟨⟩, ?_⟩
  dsimp only [finish, ofScheme]
  split
  · exact not_mem_pathText hmark (Trail.not_mem_segments_walk hmark false _)
  · exact not_mem_ofList_percentEncode hmark (.inr (not_mem_splitTail hmark cs))

/-- So no part of a URL has marks. -/
theorem isUnmarked_of_parse (hmark : isMark mark = true) {text : String} {u : Url}
    (h : parse text = .ok u) : IsUnmarked mark u := by
  unfold parse at h
  dsimp only at h
  split at h
  · cases h
  · next scheme rest hread =>
    have hscheme := not_mem_scheme hmark hread
    split at h
    · exact isUnmarked_of_parseFile hmark h
    split at h
    · exact isUnmarked_of_parseAuthority hmark hscheme h
    · split at h
      · exact isUnmarked_of_parseAuthority hmark hscheme h
      · cases h
        exact isUnmarked_parseHostless hmark hscheme rest

/-- **The front of a URL.**  There is no mark up to the end of the path. -/
theorem not_mem_base (hmark : isMark mark = true) {text : String} {u : Url}
    (h : parse text = .ok u) : mark ∉ u.base.toList :=
  (isUnmarked_of_parse hmark h).not_mem_base hmark

/-- What follows the path in the text of a URL is nothing or begins with a mark. -/
theorem toList_fullText (u : Url) : ∃ tail, u.fullText.toList = u.base.toList ++ tail ∧
    ∀ c rest, tail = c :: rest → isMark c = true := by
  rw [fullText, text, queryText]
  cases u.query with
  | some query => exact ⟨_, by rw [String.append_assoc, String.toList_append], by simp [isMark]⟩
  | none =>
    cases u.fragment with
    | some fragment =>
      exact ⟨_, by rw [String.append_assoc, String.toList_append], by simp [isMark]⟩
    | none => exact ⟨_, by rw [String.append_assoc, String.toList_append], by simp⟩

/-- **The end of a path.**  The text of a URL up to the end of its path is what stands in front of
the first mark of the whole text. -/
theorem base_eq_takeWhile {text : String} {u : Url} (h : parse text = .ok u) :
    u.base.toList = u.fullText.toList.takeWhile (!isMark ·) := by
  obtain ⟨tail, hfull, htail⟩ := u.toList_fullText
  have hbase : ∀ c ∈ u.base.toList, (!isMark c) = true := fun c hc => by
    cases hmark : isMark c with
    | true => exact absurd hc (not_mem_base hmark h)
    | false => rfl
  rw [hfull, List.takeWhile_append_of_pos hbase]
  cases tail with
  | nil => simp
  | cons c rest => simp [htail c rest rfl]

end ThreatGraph.Url
