import ThreatGraph.Proofs.Url.Host
import ThreatGraph.Proofs.Url.Path

/-!
# Reading back web URLs

A URL of the schemes `http` and `https` is determined by its text: what is written for it is read as
the same scheme, host, port and path again, with the user information in front of the host and the
query that is put behind the path (`Url.IsWeb.parse_withUser`).  Only a host whose name is too long
is refused (`Host.fits`).

* `Url.IsWeb` collects what is true of the parts of a URL over the web that was read, and
  `Url.isWeb_withoutUser_of_parse` says that it is.
* The text of such a URL is taken apart from left to right, and at each place it has to be seen that
  the parts on both sides hold nothing at which they would be parted otherwise.  Two classes of
  characters say this once for all parts: `Url.isFrontChar` and `Url.isTextChar`.

The parts themselves are read again in `Proofs.Url.Host` and `Proofs.Url.Path`.
-/

set_option autoImplicit false

namespace ThreatGraph.Url

/-! ## The URLs that are read

User information is left out of `IsWeb`, since an address is used without it, while its text may
have been written with it.  A port is kept only if its scheme does not imply it, and so the text of
a URL never shows a port that reading would drop. -/

/-- A URL over the web without user information, as it is when it was read. -/
structure IsWeb (u : Url) (host : Host) (names : List String) : Prop where
  scheme : u.scheme = "http" ∨ u.scheme = "https"
  username : u.username = ""
  password : u.password = ""
  host_eq : u.host = some host
  isRead : host.IsRead
  port : ∀ p, u.port = some p → p ≤ 65535 ∧ some p ≠ defaultPort? u.scheme
  path : u.path = .segments names
  names_ne : names ≠ []
  settled : ∀ name ∈ names, Settled name.toList

/-- The URL with user information. -/
def withUser (u : Url) (username password : String) : Url := { u with username, password }

theorem withUser_withoutUser (u : Url) : u.withoutUser.withUser u.username u.password = u := rfl

theorem IsWeb.withUser_empty {u : Url} {host : Host} {names : List String}
    (h : IsWeb u host names) : u.withUser "" "" = u := by
  obtain ⟨scheme, username, password, urlHost, port, path, query, fragment⟩ := u
  have husername : username = "" := h.username
  have hpassword : password = "" := h.password
  subst husername hpassword
  rfl

/-- User information as it is when it was read: nothing in it has to be escaped. -/
def IsUserInfo (username password : String) : Prop :=
  ∀ c ∈ username.toList ++ password.toList, isPlain escapesInUser c = true

theorem isUserInfo_empty : IsUserInfo "" "" := fun _ hc => nomatch hc

/-- What user information is escaped to needs no further escape. -/
theorem keepsEscapes_user : KeepsEscapes escapesInUser := by
  rintro c (rfl | hhex)
  · decide
  · exact forall_ascii (P := fun c => isUpperHex c = true → isPlain escapesInUser c = true)
      (by decide) (toNat_lt_of_isUpperHex hhex) hhex

/-- User information that is read is as it should be, whatever stood in the text. -/
theorem isUserInfo_readUser (cs : List Char) : IsUserInfo (readUser cs).1 (readUser cs).2.1 := by
  rw [readUser]
  split
  · exact isUserInfo_empty
  · intro c hc
    rw [String.toList_ofList, String.toList_ofList, List.mem_append] at hc
    exact hc.elim (isPlain_of_mem_percentEncode keepsEscapes_user)
      (isPlain_of_mem_percentEncode keepsEscapes_user)

/-- A port that is read is not too great. -/
theorem le_of_readPort {cs rest : List Char} {acc p : Nat} (h : readPort acc cs = .ok (p, rest))
    (hacc : acc ≤ 65535) : p ≤ 65535 := by
  induction cs generalizing acc with
  | nil =>
    cases h
    exact hacc
  | cons c cs ih =>
    rw [readPort] at h
    split at h
    · split at h
      · cases h
        exact hacc
      · cases h
    · split at h
      · cases h
      · next hle => exact ih h (by omega)

/-- A port that is kept fits 16 bits and is not the one that the scheme implies. -/
theorem le_of_parsePort {scheme : String} {cs rest : List Char} {port : Option Nat} {p : Nat}
    (h : parsePort scheme cs = .ok (port, rest)) (hp : port = some p) :
    p ≤ 65535 ∧ some p ≠ defaultPort? scheme := by
  unfold parsePort at h
  split at h
  · next digits =>
    cases hread : readPort 0 digits with
    | error fault =>
      rw [hread] at h
      cases h
    | ok found =>
      obtain ⟨q, tail⟩ := found
      rw [hread] at h
      have hport : port = if tail.length = digits.length ∨ some q = defaultPort? scheme then none
          else some q := by
        injection h with h
        exact (Prod.mk.inj h).1.symm
      rw [hp] at hport
      split at hport
      · cases hport
      · next hplain =>
        cases hport
        exact ⟨le_of_readPort hread (by decide), fun heq => hplain (.inr heq)⟩
  · cases h
    cases hp

theorem bind_eq_ok {α β : Type} {x : Except UrlFault α} {f : α → Except UrlFault β} {r : β}
    (h : (x >>= f) = .ok r) : ∃ a, x = .ok a ∧ f a = .ok r := by
  cases x with
  | error fault => cases h
  | ok a => exact ⟨a, rfl, h⟩

/-- The host and the port that are read. -/
theorem isRead_of_parseHostPort {scheme : String} {cs rest : List Char} {host : Host}
    {port : Option Nat} (hweb : isWebScheme scheme = true)
    (h : parseHostPort scheme cs = .ok (host, port, rest)) :
    host.IsRead ∧ ∀ p, port = some p → p ≤ 65535 ∧ some p ≠ defaultPort? scheme := by
  rw [parseHostPort, hweb] at h
  dsimp only at h
  split at h
  · obtain ⟨_, hthrow, _⟩ := bind_eq_ok h
    cases hthrow
  · obtain ⟨found, hfound, h⟩ := bind_eq_ok h
    obtain ⟨⟨q, tail⟩, hport, h⟩ := bind_eq_ok h
    cases h
    exact ⟨Host.isRead_of_parse hfound, fun p hp => le_of_parsePort hport hp⟩

/-- A URL with a host of a web scheme. -/
theorem isWeb_of_parseAuthority {scheme : String} {cs : List Char} {u : Url}
    (hscheme : scheme = "http" ∨ scheme = "https") (h : parseAuthority scheme cs = .ok u) :
    (∃ host names, IsWeb u.withoutUser host names) ∧ IsUserInfo u.username u.password := by
  have hweb : isWebScheme scheme = true := by
    rcases hscheme with rfl | rfl <;> decide
  rw [parseAuthority, hweb] at h
  dsimp only at h
  split at h
  · obtain ⟨_, hthrow, _⟩ := bind_eq_ok h
    cases hthrow
  · obtain ⟨⟨host, port, before⟩, hhost, h⟩ := bind_eq_ok h
    obtain ⟨hread, hport⟩ := isRead_of_parseHostPort hweb hhost
    have hpath := settled_of_readSegments
      (before ++ (splitTail cs).1.dropWhile (!endsAuthority true ·))
    cases h
    exact ⟨⟨host, _, hscheme, rfl, rfl, rfl, hread, hport, rfl, by simpa using hpath.1,
      by simpa using hpath.2⟩, isUserInfo_readUser _⟩

/-- The reader of an authority keeps the scheme that it is given. -/
theorem scheme_of_parseAuthority {scheme : String} {cs : List Char} {u : Url}
    (h : parseAuthority scheme cs = .ok u) : u.scheme = scheme := by
  rw [parseAuthority] at h
  dsimp only at h
  split at h
  · obtain ⟨_, hthrow, _⟩ := bind_eq_ok h
    cases hthrow
  · obtain ⟨_, _, h⟩ := bind_eq_ok h
    cases h
    rfl

/-- A URL of a file has that scheme, in whichever of its forms. -/
theorem scheme_of_parseFile {cs : List Char} {u : Url} (h : parseFile cs = .ok u) :
    u.scheme = "file" := by
  rw [parseFile] at h
  dsimp only at h
  split at h
  · cases h
    rfl
  split at h
  · cases h
    rfl
  split at h
  · cases h
    rfl
  · obtain ⟨host, _, h⟩ := bind_eq_ok h
    split at h <;> cases h <;> rfl

/-- **What is read of the web.**  A URL that is read with one of the schemes of the web has a host
that is read, a port that its scheme does not imply, settled segments, and user information that is
escaped. -/
theorem isWeb_withoutUser_of_parse {text : String} {u : Url} (h : parse text = .ok u)
    (hscheme : u.scheme = "http" ∨ u.scheme = "https") :
    (∃ host names, IsWeb u.withoutUser host names) ∧ IsUserInfo u.username u.password := by
  unfold parse at h
  dsimp only at h
  split at h
  · cases h
  · next scheme rest _ =>
    split at h
    · rw [scheme_of_parseFile h] at hscheme
      exact absurd hscheme (by decide)
    split at h
    · rw [scheme_of_parseAuthority h] at hscheme
      exact isWeb_of_parseAuthority hscheme h
    -- What is not read as the URL of a file or of the web has a scheme of another kind.
    · next hweb =>
      have hne : u.scheme = scheme := by
        split at h
        · exact scheme_of_parseAuthority h
        · cases h
          rfl
      rw [hne] at hscheme
      rcases hscheme with rfl | rfl <;> exact absurd (by decide) hweb

/-- A URL without user information. -/
theorem isWeb_of_parse {text : String} {u : Url} (h : parse text = .ok u)
    (hscheme : u.scheme = "http" ∨ u.scheme = "https") (huser : u.username = "")
    (hpassword : u.password = "") : ∃ host names, IsWeb u host names := by
  obtain ⟨⟨host, names, hweb⟩, -⟩ := isWeb_withoutUser_of_parse h hscheme
  have hsame : u.withoutUser = u := by
    obtain ⟨scheme, username, password, _⟩ := u
    subst huser hpassword
    rfl
  exact ⟨host, names, hsame ▸ hweb⟩

/-! ## The text of a URL

The characters in front of a path are few, and below the end of ASCII.  So what is said about them
is checked by going through all ASCII characters, with `forall_ascii`. -/

/-- The host and the port of a URL over the web. -/
def portText (port : Option Nat) : List Char :=
  match port with
  | some p => ':' :: Nat.toDigits 10 p
  | none => []

/-- The text of a URL in its parts. -/
theorem IsWeb.toList_base_withUser {u : Url} {host : Host} {names : List String}
    (h : IsWeb u host names) (username password : String) :
    (u.withUser username password).base.toList = u.scheme.toList ++ ':' :: '/' :: '/' ::
      ((u.withUser username password).userText.toList ++ (host.text.toList ++ portText u.port
        ++ (pathText (.segments names)).toList)) := by
  rw [base, authorityText, hostText, withUser, h.host_eq, h.path]
  cases u.port <;> simp [portText]

/-- A character that stands in the text of a URL up to its path, or in its query. -/
def isTextChar (c : Char) : Bool := !isOuterBlank c && c != '#'

/-- A character that stands in front of a query. -/
def isFrontChar (c : Char) : Bool := isTextChar c && c != '?'

/-- A character of the name of a host separates no parts of a URL. -/
theorem isFrontChar_of_isNameChar {c : Char} (h : HostName.isNameChar c = true) :
    isFrontChar c = true ∧ endsAuthority true c = false ∧ c ≠ '@' := by
  have hascii : c.toNat < 0x80 := by
    simp only [HostName.isNameChar, Bool.and_eq_true, decide_eq_true_eq] at h
    exact h.1
  exact forall_ascii (P := fun c => HostName.isNameChar c = true →
    isFrontChar c = true ∧ endsAuthority true c = false ∧ c ≠ '@') (by decide) hascii h

/-- A character of a segment of a path stands in front of the query. -/
theorem isFrontChar_of_isSegmentChar {c : Char} (h : isSegmentChar c = true) :
    isFrontChar c = true := by
  have hascii : c.toNat < 0x80 := by
    simp only [isSegmentChar, isPlain, Bool.and_eq_true, decide_eq_true_eq] at h
    exact h.1.1
  exact forall_ascii (P := fun c => isSegmentChar c = true → isFrontChar c = true) (by decide)
    hascii h

/-- What stands in user information separates no parts of a URL. -/
theorem isFrontChar_of_isPlain_user {c : Char} (h : isPlain escapesInUser c = true) :
    isFrontChar c = true ∧ endsAuthority true c = false ∧ isSlash true c = false ∧ c ≠ '@' ∧
      c ≠ ':' := by
  have hascii : c.toNat < 0x80 := by
    simp only [isPlain, Bool.and_eq_true, decide_eq_true_eq] at h
    exact h.1
  exact forall_ascii (P := fun c => isPlain escapesInUser c = true → isFrontChar c = true ∧
    endsAuthority true c = false ∧ isSlash true c = false ∧ c ≠ '@' ∧ c ≠ ':') (by decide) hascii h

/-- A port is written with digits after a colon. -/
theorem isNameChar_of_mem_portText {port : Option Nat} {c : Char} (h : c ∈ portText port) :
    HostName.isNameChar c = true ∨ c = ':' := by
  cases port with
  | none => cases h
  | some p =>
    rcases List.mem_cons.1 h with h | h
    · exact .inr h
    · exact .inl (Host.isNameChar_of_mem_toDigits (by decide) (by decide) h)

/-- What stands between the slashes of a URL separates none of its parts. -/
theorem isFrontChar_of_mem_authority {cs : List Char} (hshape : Host.HasShape cs)
    (port : Option Nat) {c : Char} (h : c ∈ cs ++ portText port) :
    isFrontChar c = true ∧ endsAuthority true c = false ∧ c ≠ '@' := by
  have hcolon : isFrontChar ':' = true ∧ endsAuthority true ':' = false ∧ ':' ≠ '@' := by decide
  have hside : HostName.isNameChar c = true ∨ c = ':' →
      isFrontChar c = true ∧ endsAuthority true c = false ∧ c ≠ '@' := by
    rintro (h | rfl)
    · exact isFrontChar_of_isNameChar h
    · exact hcolon
  rcases List.mem_append.1 h with h | h
  · cases hshape with
    | plain _ hname => exact isFrontChar_of_isNameChar (hname c h)
    | bracketed hinside =>
      simp only [List.cons_append, List.mem_cons, List.mem_append, List.not_mem_nil, or_false] at h
      rcases h with rfl | h | rfl
      · decide
      · exact hside (hinside c h)
      · decide
  · exact hside (isNameChar_of_mem_portText h)

/-! ## Reading the host and the port

The host ends at the first colon that is not inside of brackets.  An address of the sixth version
has colons of its own, and for this it is written in brackets. -/

/-- Characters that are neither colons nor brackets belong to the host. -/
theorem splitHost_append {cs : List Char} (hcolon : ':' ∉ cs) (hopen : '[' ∉ cs) (hclose : ']' ∉ cs)
    (rest : List Char) :
    splitHost false (cs ++ rest) = (cs ++ (splitHost false rest).1, (splitHost false rest).2) := by
  induction cs with
  | nil => rfl
  | cons c cs ih =>
    simp only [List.mem_cons, not_or] at hcolon hopen hclose
    rw [List.cons_append, splitHost, if_neg (fun h => hcolon.1 h.1.symm), if_neg (Ne.symm hopen.1),
      if_neg (Ne.symm hclose.1), ih hcolon.2 hopen.2 hclose.2]
    rfl

/-- Inside of brackets colons do not count. -/
theorem splitHost_inside {cs : List Char} (hclose : ']' ∉ cs) (rest : List Char) :
    splitHost true (cs ++ ']' :: rest) =
      (cs ++ ']' :: (splitHost false rest).1, (splitHost false rest).2) := by
  induction cs with
  | nil => simp [splitHost]
  | cons c cs ih =>
    rw [List.mem_cons, not_or] at hclose
    rw [List.cons_append, splitHost, if_neg (by simp),
      ite_eq_left_iff.2 (by simp [Ne.symm hclose.1]), ih hclose.2]
    rfl

/-- A host is told apart from the port after it. -/
theorem splitHost_portText {cs : List Char} (h : Host.HasShape cs) (port : Option Nat) :
    splitHost false (cs ++ portText port) = (cs, portText port) := by
  have hport : splitHost false (portText port) = ([], portText port) := by
    cases port <;> simp [portText, splitHost]
  cases h with
  | plain _ hname =>
    obtain ⟨hopen, hclose, hcolon, _⟩ := Host.name_ne_bracket hname
    rw [splitHost_append hcolon hopen hclose, hport, List.append_nil]
  | @bracketed inside hinside =>
    have hclose : ']' ∉ inside := fun hc => by
      rcases hinside _ hc with hname | hcolon
      · exact absurd hname (by decide)
      · cases hcolon
    rw [List.cons_append, List.cons_append, List.append_assoc, List.singleton_append, splitHost,
      if_neg (by simp), if_pos rfl, splitHost_inside hclose, hport]

/-- The digits of a port are read as the port. -/
theorem readPort_toDigits {p : Nat} (hp : p ≤ 65535) :
    readPort 0 (Nat.toDigits 10 p) = .ok (p, []) := by
  have hstep : ∀ acc d, d < 10 → acc * 10 + d ≤ 65535 → ∀ rest,
      readPort acc (Nat.digitChar d :: rest) = readPort (acc * 10 + d) rest := by
    intro acc d hd hle rest
    rw [readPort, readsDigits_ten d hd]
    exact if_neg (Nat.not_lt.2 hle)
  have hread : ∀ rest, readPort 0 (Nat.toDigits 10 p ++ rest) = readPort p rest := by
    induction p using toDigits_induction (show 1 < 10 by decide) with
    | one d hd =>
      intro rest
      rw [List.singleton_append, hstep 0 d hd (by omega), Nat.zero_mul, Nat.zero_add]
    | more n d _ hd ih =>
      intro rest
      rw [List.append_assoc, ih (by omega), List.singleton_append, hstep n d hd hp]
  have := hread []
  rwa [List.append_nil] at this

/-- A port is read as it was written, if it is one that was kept. -/
theorem parsePort_portText {scheme : String} {port : Option Nat}
    (h : ∀ p, port = some p → p ≤ 65535 ∧ some p ≠ defaultPort? scheme) :
    parsePort scheme (portText port) = .ok (port, []) := by
  cases port with
  | none => rfl
  | some p =>
    obtain ⟨hle, hdefault⟩ := h p rfl
    have hdigits : (Nat.toDigits 10 p).length ≠ 0 := Nat.ne_of_gt Nat.length_toDigits_pos
    rw [portText, parsePort, readPort_toDigits hle]
    change Except.ok (if ([] : List Char).length = _ ∨ _ then none else some p, []) = _
    rw [if_neg]
    rintro (hlength | heq)
    · exact hdigits hlength.symm
    · exact hdefault heq

/-! ## Reading a whole URL

The ends of a text are trimmed, and some characters are dropped from all of it; the text of a URL
over the web has none of either kind.  Then the query is cut off, and then the authority is told
from the path. -/

theorem dropWhile_of_forall {p : Char → Bool} {cs : List Char} (h : ∀ c ∈ cs, p c = false) :
    cs.dropWhile p = cs := by
  cases cs with
  | nil => rfl
  | cons c cs => rw [List.dropWhile_cons, h c List.mem_cons_self, if_neg Bool.false_ne_true]

/-- A text without blanks is not trimmed, and nothing in it is skipped. -/
theorem trim_of_forall {text : String} (h : ∀ c ∈ text.toList, isOuterBlank c = false) :
    trim text = text.toList ∧ dropSkipped text.toList = text.toList := by
  constructor
  · rw [trim, dropWhile_of_forall h, dropEndWhile,
      dropWhile_of_forall fun c hc => h c (List.mem_reverse.1 hc), List.reverse_reverse]
  · refine List.filter_eq_self.2 fun c hc => ?_
    have hblank := h c hc
    simp only [isOuterBlank, decide_eq_false_iff_not, Nat.not_le] at hblank
    simp only [isSkipped, Bool.not_eq_true', Bool.or_eq_false_iff, beq_eq_false_iff_ne]
    refine ⟨⟨?_, ?_⟩, ?_⟩ <;>
    · rintro rfl
      exact absurd hblank (by decide)

/-- The scheme of a URL over the web. -/
theorem readScheme?_web {scheme : String} (h : scheme = "http" ∨ scheme = "https")
    (rest : List Char) : readScheme? (scheme.toList ++ ':' :: rest) = some (scheme, rest) := by
  rcases h with rfl | rfl <;> simp [readScheme?, isSchemeChar]

/-- The text of a query behind a URL. -/
def tailText (query : Option (List Char)) : List Char :=
  match query with
  | some q => '?' :: q
  | none => []

/-- The query is cut off where it was put. -/
theorem splitTail_append {front : List Char} {query : Option (List Char)}
    (hfront : ∀ c ∈ front, isFrontChar c = true)
    (hquery : ∀ q, query = some q → ∀ c ∈ q, isTextChar c = true) :
    splitTail (front ++ tailText query) = (front, query, none) := by
  have hmark : '?' ∉ front := fun hc => absurd (hfront _ hc) (by decide)
  have hhash : '#' ∉ front ++ tailText query := by
    rw [List.mem_append, not_or]
    refine ⟨fun hc => absurd (hfront _ hc) (by decide), fun hc => ?_⟩
    cases query with
    | none => cases hc
    | some q =>
      rcases List.mem_cons.1 hc with hc | hc
      · cases hc
      · exact absurd (hquery q rfl _ hc) (by decide)
  rw [splitTail, splitFirst_of_not_mem hhash]
  dsimp only
  cases query with
  | none => rw [tailText, List.append_nil, splitFirst_of_not_mem hmark]
  | some q => rw [tailText, splitFirst_append hmark]

/-- The part between the slashes in front of a path. -/
theorem span_authority {authority : List Char} (h : ∀ c ∈ authority, endsAuthority true c = false)
    (path : List Char) :
    (authority ++ '/' :: path).takeWhile (!endsAuthority true ·) = authority ∧
      (authority ++ '/' :: path).dropWhile (!endsAuthority true ·) = '/' :: path := by
  have hall : ∀ c ∈ authority, (!endsAuthority true c) = true := fun c hc => by rw [h c hc]; rfl
  have hslash : (!endsAuthority true '/') = false := by decide
  constructor
  · rw [List.takeWhile_append_of_pos hall, List.takeWhile_cons, hslash]
    simp
  · rw [List.dropWhile_append_of_pos hall, List.dropWhile_cons, hslash]
    simp

/-- Without an at sign there is no user information. -/
theorem readUser_of_not_mem {cs : List Char} (h : '@' ∉ cs) : readUser cs = ("", "", cs) := by
  rw [readUser, splitLastAt, splitFirst_of_not_mem (by simpa using h)]

/-! ## Reading user information

The at sign that ends user information is the last one.  There is none in a host or port, and those
in the name or in the password are escaped. -/

/-- The characters of user information: a name, a colon if there is a password, and an at sign. -/
theorem toList_userText (u : Url) : u.userText.toList =
    if u.username = "" ∧ u.password = "" then []
    else u.username.toList ++ (if u.password = "" then [] else ':' :: u.password.toList)
      ++ ['@'] := by
  rw [userText]
  split
  · rfl
  · split <;> simp

/-- User information separates no parts of a URL but itself from the host. -/
theorem isFrontChar_of_mem_userText {u : Url} (h : IsUserInfo u.username u.password) {c : Char}
    (hc : c ∈ u.userText.toList) :
    isFrontChar c = true ∧ endsAuthority true c = false ∧ isSlash true c = false := by
  have hplain : isPlain escapesInUser c = true ∨ c = ':' ∨ c = '@' := by
    rw [toList_userText] at hc
    split at hc
    · cases hc
    · rcases List.mem_append.1 hc with hc | hc
      · rcases List.mem_append.1 hc with hc | hc
        · exact .inl (h c (List.mem_append_left _ hc))
        · split at hc
          · cases hc
          · rcases List.mem_cons.1 hc with hc | hc
            · exact .inr (.inl hc)
            · exact .inl (h c (List.mem_append_right _ hc))
      · exact .inr (.inr (List.mem_singleton.1 hc))
  rcases hplain with hplain | rfl | rfl
  · obtain ⟨hfront, hends, hslash, -⟩ := isFrontChar_of_isPlain_user hplain
    exact ⟨hfront, hends, hslash⟩
  · decide
  · decide

/-- User information is read as it was. -/
theorem readUser_userText {u : Url} (h : IsUserInfo u.username u.password) {rest : List Char}
    (hrest : '@' ∉ rest) :
    readUser (u.userText.toList ++ rest) = (u.username, u.password, rest) := by
  have hname : ∀ c ∈ u.username.toList, isPlain escapesInUser c = true :=
    fun c hc => h c (List.mem_append_left _ hc)
  have hpassword : ∀ c ∈ u.password.toList, isPlain escapesInUser c = true :=
    fun c hc => h c (List.mem_append_right _ hc)
  rw [toList_userText]
  split
  · next hempty => rw [List.nil_append, readUser_of_not_mem hrest, hempty.1, hempty.2]
  · have hcolon : ':' ∉ u.username.toList := fun hc =>
      (isFrontChar_of_isPlain_user (hname _ hc)).2.2.2.2 rfl
    have hsplit : ∀ front, splitLastAt (front ++ ['@'] ++ rest) = some (front, rest) := by
      intro front
      have hreverse : (front ++ ['@'] ++ rest).reverse = rest.reverse ++ '@' :: front.reverse := by
        simp
      rw [splitLastAt, hreverse, splitFirst_append (by simpa using hrest)]
      simp
    rw [readUser, hsplit]
    dsimp only
    split
    · next hempty =>
      rw [List.append_nil, splitFirst_of_not_mem hcolon]
      dsimp only
      rw [percentEncode_of_plain hname, Option.getD_none, hempty, String.ofList_toList]
      rfl
    · rw [splitFirst_append hcolon]
      dsimp only
      rw [percentEncode_of_plain hname, Option.getD_some, percentEncode_of_plain hpassword,
        String.ofList_toList, String.ofList_toList]

/-! ## Reading what follows the scheme

The parts are put together in the order in which the reader comes to them: the query, the authority,
user information, the host with its port, and the segments of the path. -/

/-- The host and the port are read as they were. -/
theorem parseHostPort_text {scheme : String} (hweb : isWebScheme scheme = true) {host : Host}
    (hread : host.IsRead) {port : Option Nat}
    (hport : ∀ p, port = some p → p ≤ 65535 ∧ some p ≠ defaultPort? scheme) :
    parseHostPort scheme (host.text.toList ++ portText port) =
      if host.fits then .ok (host, port, []) else .error .badName := by
  have hshape := hread.hasShape
  have hne : host.text.toList.isEmpty = false := List.isEmpty_eq_false_iff.2 hshape.ne_nil
  rw [parseHostPort, hweb, splitHost_portText hshape]
  dsimp only
  rw [hne, if_neg (by simp), if_pos rfl, Host.parse_text hread]
  cases host.fits with
  | true =>
    rw [if_pos rfl, parsePort_portText hport]
    rfl
  | false => rfl

/-- A query that needs no escape ends no text and begins no fragment. -/
theorem isTextChar_of_isPlain {c : Char} (h : isPlain (escapesInQuery true) c = true) :
    isTextChar c = true := by
  have hascii : c.toNat < 0x80 := by
    simp only [isPlain, Bool.and_eq_true, decide_eq_true_eq] at h
    exact h.1
  exact forall_ascii (P := fun c => isPlain (escapesInQuery true) c = true → isTextChar c = true)
    (by decide) hascii h

/-- What stands between the scheme and the query of a URL over the web. -/
theorem IsWeb.front {u : Url} {host : Host} {names : List String} (h : IsWeb u host names) :
    ∀ c ∈ host.text.toList ++ portText u.port ++ (pathText (.segments names)).toList,
      isFrontChar c = true := by
  intro c hc
  rcases List.mem_append.1 hc with hc | hc
  · exact (isFrontChar_of_mem_authority h.isRead.hasShape u.port hc).1
  · rw [toList_pathText h.names_ne] at hc
    rcases List.mem_cons.1 hc with rfl | hc
    · decide
    rcases mem_joinSep hc with rfl | ⟨piece, hpiece, hc⟩
    · decide
    · obtain ⟨name, hname, rfl⟩ := List.mem_map.1 hpiece
      exact isFrontChar_of_isSegmentChar ((h.settled name hname).chars c hc)

/-- What follows the scheme of a URL over the web is read as its parts. -/
theorem IsWeb.parseAuthority_withUser {u : Url} {host : Host} {names : List String}
    (h : IsWeb u host names) {username password : String} (huser : IsUserInfo username password)
    {query : Option (List Char)}
    (hquery : ∀ q, query = some q → ∀ c ∈ q, isPlain (escapesInQuery true) c = true) :
    parseAuthority u.scheme
        ((u.withUser username password).userText.toList ++ (host.text.toList ++ portText u.port
          ++ (pathText (.segments names)).toList) ++ tailText query) =
      if host.fits then
        .ok { u.withUser username password with
          query := query.map String.ofList, fragment := none }
      else .error .badName := by
  have hweb : isWebScheme u.scheme = true := by
    rcases h.scheme with hscheme | hscheme <;> rw [hscheme] <;> decide
  have hinfo : ∀ c ∈ (u.withUser username password).userText.toList, isFrontChar c = true ∧
      endsAuthority true c = false ∧ isSlash true c = false :=
    fun c hc => isFrontChar_of_mem_userText huser hc
  have hauthority : ∀ c ∈ host.text.toList ++ portText u.port,
      isFrontChar c = true ∧ endsAuthority true c = false ∧ c ≠ '@' :=
    fun c hc => isFrontChar_of_mem_authority h.isRead.hasShape u.port hc
  have hpath := toList_pathText h.names_ne
  have hfront : ∀ c ∈ (u.withUser username password).userText.toList ++ (host.text.toList
      ++ portText u.port ++ (pathText (.segments names)).toList), isFrontChar c = true :=
    fun c hc => (List.mem_append.1 hc).elim (fun hc => (hinfo c hc).1) (h.front c)
  have htail := splitTail_append hfront fun q hq c hc => isTextChar_of_isPlain (hquery q hq c hc)
  have hends : ∀ c ∈ (u.withUser username password).userText.toList ++ (host.text.toList
      ++ portText u.port), endsAuthority true c = false :=
    fun c hc => (List.mem_append.1 hc).elim (fun hc => (hinfo c hc).2.1)
      fun hc => (hauthority c hc).2.1
  have hspan := span_authority hends (joinSep '/' (names.map String.toList))
  have hread := readUser_userText (u := u.withUser username password) huser
    fun hat => (hauthority '@' hat).2.2 rfl
  have hne : (host.text.toList ++ portText u.port).isEmpty = false := by
    simp [h.isRead.hasShape.ne_nil]
  have hsegments := readSegments_pathText h.names_ne h.settled
  have hfinish : query.map (fun q => String.ofList (percentEncode (escapesInQuery true) q)) =
      query.map String.ofList := by
    cases query with
    | none => rfl
    | some q => rw [Option.map_some, percentEncode_of_plain (hquery q rfl), Option.map_some]
  rw [parseAuthority, hweb, htail]
  dsimp only
  rw [hpath] at hsegments ⊢
  rw [← List.append_assoc, hspan.1, hspan.2, hread]
  dsimp only
  rw [hne, if_neg (by simp), parseHostPort_text hweb h.isRead h.port]
  cases host.fits with
  | false => rfl
  | true =>
    rw [if_pos rfl, if_pos rfl]
    change Except.ok (finish _ (.segments (if _ ∧ _ then _ else _)) query none) = _
    rw [if_neg (by simp), List.nil_append, hsegments]
    rw [finish]
    dsimp only [ofScheme]
    rw [hweb, hfinish]
    -- What is left is that the URL is put together from the parts that it had.
    obtain ⟨scheme, _, _, urlHost, port, path, urlQuery, fragment⟩ := u
    have hhost : urlHost = some host := h.host_eq
    have hnames : path = .segments names := h.path
    rw [hhost, hnames]
    rfl

/-- No character of the text of a URL over the web is dropped at the ends or begins a fragment. -/
theorem IsWeb.isTextChar_of_mem {u : Url} {host : Host} {names : List String}
    (h : IsWeb u host names) {username password : String} (huser : IsUserInfo username password)
    {query : Option (List Char)}
    (hquery : ∀ q, query = some q → ∀ c ∈ q, isPlain (escapesInQuery true) c = true) {c : Char}
    (hc : c ∈ (u.withUser username password).base.toList ++ tailText query) :
    isTextChar c = true := by
  have hscheme : ∀ s, s = "http" ∨ s = "https" → ∀ c ∈ s.toList, isTextChar c = true := by
    rintro s (rfl | rfl) <;> simp <;> decide
  have hfront : isFrontChar c = true → isTextChar c = true := fun hfront => by
    rw [isFrontChar, Bool.and_eq_true] at hfront
    exact hfront.1
  rw [h.toList_base_withUser, List.mem_append, List.mem_append, List.mem_cons, List.mem_cons,
    List.mem_cons, List.mem_append] at hc
  rcases hc with (hc | rfl | rfl | rfl | hc | hc) | hc
  · exact hscheme _ h.scheme c hc
  · decide
  · decide
  · decide
  · exact hfront (isFrontChar_of_mem_userText huser hc).1
  · exact hfront (h.front c hc)
  · cases query with
    | none => cases hc
    | some q =>
      rcases List.mem_cons.1 hc with rfl | hc
      · decide
      · exact isTextChar_of_isPlain (hquery q rfl c hc)

/-- The slashes in front of a text end where the text begins. -/
theorem dropWhile_isSlash {cs : List Char} (hne : cs ≠ []) (h : ∀ c ∈ cs, isSlash true c = false)
    (rest : List Char) : ('/' :: '/' :: (cs ++ rest)).dropWhile (isSlash true) = cs ++ rest := by
  obtain ⟨c, tail, rfl⟩ := List.exists_cons_of_ne_nil hne
  simp [h c List.mem_cons_self, show isSlash true '/' = true by decide]

/-- **A URL again.**  The text of a URL over the web, with user information in it and a query behind
it, is read as the same URL with these, unless the name of its host is too long. -/
theorem IsWeb.parse_withUser {u : Url} {host : Host} {names : List String} (h : IsWeb u host names)
    {username password : String} (huser : IsUserInfo username password)
    (query : Option (List Char))
    (hquery : ∀ q, query = some q → ∀ c ∈ q, isPlain (escapesInQuery true) c = true)
    {text : String}
    (htext : text.toList = (u.withUser username password).base.toList ++ tailText query) :
    parse text =
      if host.fits then
        .ok { u.withUser username password with
          query := query.map String.ofList, fragment := none }
      else .error .badName := by
  have hblank : ∀ c ∈ text.toList, isOuterBlank c = false := fun c hc => by
    have := h.isTextChar_of_mem huser hquery (htext ▸ hc)
    simp only [isTextChar, Bool.and_eq_true, Bool.not_eq_true'] at this
    exact this.1
  obtain ⟨htrim, hskip⟩ := trim_of_forall hblank
  -- The slashes after the scheme are skipped up to the first other character, which is one of user
  -- information or of the host.
  have hslash : ∀ c ∈ (u.withUser username password).userText.toList ++ host.text.toList,
      isSlash true c = false := fun c hc => by
    rcases List.mem_append.1 hc with hc | hc
    · exact (isFrontChar_of_mem_userText huser hc).2.2
    · have hends := (isFrontChar_of_mem_authority h.isRead.hasShape none
        (List.mem_append_left _ hc)).2.1
      simp only [endsAuthority, Bool.or_eq_false_iff] at hends
      simp only [isSlash, hends, Bool.or_false]
  have hparts : text.toList = u.scheme.toList ++ ':' :: '/' :: '/' ::
      ((u.withUser username password).userText.toList ++ host.text.toList
        ++ (portText u.port ++ (pathText (.segments names)).toList ++ tailText query)) := by
    rw [htext, h.toList_base_withUser]
    simp
  have hauthority := h.parseAuthority_withUser huser hquery
  have hdrop := dropWhile_isSlash (by simp [h.isRead.hasShape.ne_nil]) hslash
    (portText u.port ++ (pathText (.segments names)).toList ++ tailText query)
  have hfile : u.scheme ≠ "file" ∧ isWebScheme u.scheme = true := by
    rcases h.scheme with hs | hs <;> rw [hs] <;> decide
  rw [parse]
  rw [htrim]
  dsimp only
  rw [hskip, hparts, readScheme?_web h.scheme]
  dsimp only
  rw [if_neg hfile.1, if_pos hfile.2, hdrop, ← hauthority]
  simp

/-- The text of a URL over the web without user information, with a query behind it. -/
theorem IsWeb.parse_text {u : Url} {host : Host} {names : List String} (h : IsWeb u host names)
    (query : Option (List Char))
    (hquery : ∀ q, query = some q → ∀ c ∈ q, isPlain (escapesInQuery true) c = true)
    {text : String} (htext : text.toList = u.base.toList ++ tailText query) :
    parse text =
      if host.fits then .ok { u with query := query.map String.ofList, fragment := none }
      else .error .badName := by
  have hparse := h.parse_withUser isUserInfo_empty query hquery (h.withUser_empty ▸ htext)
  rwa [h.withUser_empty] at hparse

end ThreatGraph.Url
