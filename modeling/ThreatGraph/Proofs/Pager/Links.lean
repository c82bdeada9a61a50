import ThreatGraph.Proofs.Pager.Continuation
import ThreatGraph.Proofs.Pager.Token
import ThreatGraph.Proofs.Params.Sorting

/-!
# What a link says, and where it leads

A link to the next page is read as an address and parameters, and a request is made of these.

* `Continuation.parse_sorts` says what is kept of the link.  The address is the link up to the end
  of its path.  The parameters hold the pairs of its query, and are sent as the stable sort of
  these.
* `Url.SamePlace` says that two URLs name the same scheme, host, port and path.  A link with the
  scheme `http` or `https` is followed to the place that it names, or nothing is sent and the pager
  fails; `Pager.follows_or_fails` says so, and that no other link is followed to its place.
* `Pager.foreign_link_is_resolved` is a link of another scheme.  It is taken for a path below the
  service, and a request for that path is sent.
-/

set_option autoImplicit false

namespace ThreatGraph

/-! ## What a link says

Nothing of a query is lost when it becomes parameters, except for the order in which pairs with
different keys stand.  The lemmas about grouping speak of one key at a time, and the theorem
collects them for all keys. -/

namespace Continuation

theorem parse_eq_ok_iff {link base : String} {params : Params} :
    parse link = .ok (base, params) ↔
      ∃ u, Url.parse link = .ok u ∧ base = u.base ∧ params = .regroup u.queryPairs := by
  rw [parse]
  cases Url.parse link with
  | error fault => simp
  | ok u => simp [eq_comm]

/-- **A link, taken apart.**  Of a link that is read as a URL:
* the address is the text of the URL up to the first question mark or number sign, which is where
  its path ends;
* the parameters are sent as the stable sort of the pairs of the query by the bytes of their keys.
  So they are the same pairs, and those of each key are in their own order;
* a parameter has a single value if and only if its key is in the query once, and several values if
  and only if it is there more than once. -/
theorem parse_sorts (link base : String) (params : Params) (h : parse link = .ok (base, params)) :
    ∃ u, Url.parse link = .ok u ∧ base = u.base ∧
      base.toList = u.fullText.toList.takeWhile (!Url.isMark ·) ∧
      params.pairs = u.queryPairs.mergeSort Params.keyLe ∧
      params.pairs.Perm u.queryPairs ∧ Params.InByteOrder params.pairs ∧
      ∀ key, Params.ofKey key params.pairs = Params.ofKey key u.queryPairs ∧
        (params.get? key = none ↔ Params.ofKey key u.queryPairs = []) ∧
        (∀ value, params.get? key = some (.single value) ↔
          Params.ofKey key u.queryPairs = [(key, value)]) ∧
        ∀ values, params.get? key = some (.multi values) ↔
          2 ≤ values.length ∧ Params.ofKey key u.queryPairs = values.map (key, ·) := by
  obtain ⟨u, hparse, rfl, rfl⟩ := parse_eq_ok_iff.1 h
  have hsorted := Params.pairs_regroup u.queryPairs
  refine ⟨u, hparse, rfl, Url.base_eq_takeWhile hparse, hsorted, ?_, Params.inByteOrder_pairs _,
    fun key => ⟨?_, Params.get?_regroup_eq_none_iff, fun value => Params.get?_regroup_eq_single_iff,
      fun values => Params.get?_regroup_eq_multi_iff⟩⟩
  · rw [hsorted]
    exact List.mergeSort_perm _ _
  · rw [hsorted, Params.ofKey_mergeSort]

/-- A link with a repeated key, once as an escape, an empty pair and a fragment. -/
theorem parse_sorts_repeated : ∃ u params,
    Url.parse "http://h/p?b=2&a=1&%62=3&=&b#f" = .ok u ∧
      parse "http://h/p?b=2&a=1&%62=3&=&b#f" = .ok ("http://h/p", params) ∧
      params.pairs = u.queryPairs.mergeSort Params.keyLe ∧
      params.get? "b" = some (.multi ["2", "3", ""]) ∧ params.get? "a" = some (.single "1") := by
  have hparse : Url.parse "http://h/p?b=2&a=1&%62=3&=&b#f" = .ok ⟨"http", "", "",
      some (.name "h"), none, .segments ["p"], some "b=2&a=1&%62=3&=&b", some "f"⟩ :=
    Url.parse_of_toOption (by decide +kernel)
  have hlink := parse_eq_ok_iff.2 ⟨_, hparse, rfl, rfl⟩
  obtain ⟨u, hparse', -, -, hpairs, -, -, hkeys⟩ := parse_sorts _ _ _ hlink
  cases hparse.symm.trans hparse'
  refine ⟨_, _, hparse, hlink, hpairs, ((hkeys "b").2.2.2 _).2 ?_, ((hkeys "a").2.2.1 _).2 ?_⟩
  · decide +kernel
  · decide +kernel

end Continuation

/-! ## Where a link leads

The place of a link is kept because three steps agree on it: the text of the link up to the end of
its path is an address that is not joined to anything, that address is read as a URL with the same
parts, and what is done to that URL afterwards touches its query alone.  The first of these steps is
where a link of another scheme goes astray, as the client takes only the schemes of requests for the
beginning of an address. -/

namespace Url

/-- Two URLs name the same place: a scheme, a host, a port and a path. -/
structure SamePlace (u v : Url) : Prop where
  scheme : u.scheme = v.scheme
  host : u.host = v.host
  port : u.port = v.port
  path : u.path = v.path

/-- Whether a URL has one of the schemes that a client sends requests with. -/
def IsHttp (u : Url) : Prop := u.scheme = "http" ∨ u.scheme = "https"

theorem toList_base_eq (u : Url) : ∃ rest, u.base.toList = u.scheme.toList ++ ':' :: rest :=
  ⟨u.authorityText.toList ++ (pathText u.path).toList, by simp [base]⟩

/-- A text with two schemes in front of it has one. -/
theorem scheme_unique {left right rest rest' : List Char} (hleft : ':' ∉ left)
    (hright : ':' ∉ right) (h : left ++ ':' :: rest = right ++ ':' :: rest') : left = right := by
  have hsplit := splitFirst_append hleft rest
  rw [h, splitFirst_append hright] at hsplit
  exact (Prod.mk.inj hsplit).1.symm

variable {link : String} {u : Url}

/-- What a link names begins with the text of its scheme and a colon, so it begins with one of the
schemes of requests only if that is its scheme. -/
theorem scheme_of_isAbsolute_base (hparse : parse link = .ok u)
    (h : Client.isAbsolute u.base = true) : u.IsHttp := by
  obtain ⟨cs, rest, hread⟩ := readScheme?_of_parse hparse
  have hcolon : ':' ∉ u.scheme.toList := fun hmem =>
    absurd ((isSchemeChar_of_readScheme? hread).2 _ hmem) (by decide)
  obtain ⟨rest', hbase⟩ := u.toList_base_eq
  rw [Client.isAbsolute, Bool.or_eq_true, isSome_afterStart?_iff, isSome_afterStart?_iff,
    hbase] at h
  have heq : ∀ scheme : String, ':' ∉ scheme.toList → scheme.toList ++ "://".toList <+:
      u.scheme.toList ++ ':' :: rest' → u.scheme = scheme := by
    rintro scheme hscheme ⟨tail, htail⟩
    rw [List.append_assoc] at htail
    exact String.toList_inj.1 (scheme_unique hcolon hscheme htail.symm)
  exact h.imp (heq "http" (by decide)) (heq "https" (by decide))

/-- What a link names is a URL of its own if it has one of the schemes of requests. -/
theorem isAbsolute_base_iff (hparse : parse link = .ok u) :
    Client.isAbsolute u.base = true ↔ u.IsHttp := by
  refine ⟨scheme_of_isAbsolute_base hparse, fun hhttp => ?_⟩
  obtain ⟨⟨_, _, hweb⟩, -⟩ := isWeb_withoutUser_of_parse hparse hhttp
  exact hweb.isAbsolute_base_withUser u.username u.password

/-- The text of a URL up to the end of its path begins with its scheme, and with no slash. -/
theorem dropLeading_base (hparse : parse link = .ok u) :
    dropLeading '/' u.base.toList = u.base.toList := by
  obtain ⟨cs, rest, hread⟩ := readScheme?_of_parse hparse
  obtain ⟨hne, hchars⟩ := isSchemeChar_of_readScheme? hread
  obtain ⟨rest', hbase⟩ := u.toList_base_eq
  rw [hbase]
  -- A scheme has a first character, and it is not a slash.
  cases hscheme : u.scheme.toList with
  | nil => exact absurd (String.toList_eq_nil_iff.1 hscheme) hne
  | cons c tail =>
    have hslash : c ≠ '/' := by
      rintro rfl
      exact absurd (hchars '/' (by simp [hscheme])) (by decide)
    rw [dropLeading, List.cons_append, List.dropWhile_cons, if_neg (by simpa using hslash)]

end Url

namespace Client

variable {link : String} {u : Url}

/-- The address at which a link is followed: its own, or a path below the service. -/
theorem resolve_base (c : Client) (hparse : Url.parse link = .ok u) :
    (u.IsHttp → c.resolve u.base = u.base) ∧
      (¬ u.IsHttp → c.resolve u.base = c.root ++ "/" ++ u.base) := by
  have habsolute := Url.isAbsolute_base_iff hparse
  constructor
  · intro hhttp
    exact if_pos (habsolute.2 hhttp)
  · intro hother
    rw [resolve, address, if_neg (fun h => hother (habsolute.1 h)), Url.dropLeading_base hparse,
      String.ofList_toList]
    rfl

/-- A request is made for URLs with the schemes of requests only. -/
theorem isHttp_of_locate? {address : String} {pairs : List (String × String)}
    (h : locate? address pairs = some u) : u.IsHttp := by
  rw [locate?] at h
  split at h
  · cases h
  · dsimp only at h
    split at h
    · next hcan =>
      cases h
      exact hcan.1
    · cases h

/-- A URL over the web is looked for at the place that it names. -/
theorem samePlace_of_locate? (hparse : Url.parse link = .ok u) (hhttp : u.IsHttp)
    {pairs : List (String × String)} {found : Url} (h : locate? u.base pairs = some found) :
    found.SamePlace u := by
  obtain ⟨⟨host, names, hweb⟩, huser⟩ := Url.isWeb_withoutUser_of_parse hparse hhttp
  -- The link may name a user.  A client looks for the URL without one, and reads the link with it.
  have htext : u.base.toList = ((u.withoutUser.withUser u.username u.password).base.toList ++
      Url.tailText none) := by
    simp [Url.tailText, Url.withUser_withoutUser]
  have hagain := hweb.parse_withUser huser none (by simp) htext
  rw [locate?, hagain] at h
  split at h
  · cases h
  · next url hurl =>
    split at hurl
    · cases hurl
      dsimp only at h
      split at h
      · cases h
        exact ⟨rfl, rfl, rfl, rfl⟩
      · cases h
    · cases hurl

/-- **Where a link is followed.**  The message that follows a link goes to the place that the link
names if the link has one of the schemes of requests, and only then. -/
theorem samePlace_of_prepare {c : Client} (hparse : Url.parse link = .ok u) {message : Message}
    (h : c.prepare (linkRequest u) = .ok message) : message.url.SamePlace u ↔ u.IsHttp := by
  obtain ⟨url, hurl, rfl⟩ := prepare_eq_ok_iff.1 h
  constructor
  · intro hplace
    rw [Url.IsHttp, ← hplace.scheme]
    exact isHttp_of_locate? hurl
  · intro hhttp
    rw [linkRequest, (c.resolve_base hparse).1 hhttp] at hurl
    exact samePlace_of_locate? hparse hhttp hurl

end Client

namespace Pager

variable {α : Type}

/-- A fetch sends what it pulls. -/
theorem sent_fetch (p : Pager α) (w : World) : (p.fetch w).2.sent = (p.pull w).2.sent := by
  rw [fetch_eq]
  cases p.pull w with
  | mk result v =>
    cases result with
    | error failure => rfl
    | ok body =>
      dsimp only
      rw [World.sent_advance, (traffic_pageEvents p _).1, List.append_nil]

/-- A fetch fails as its pull does. -/
theorem fetch_of_pull_error {p : Pager α} {w w' : World} {failure : Failure}
    (h : p.pull w = (.error failure, w')) : p.fetch w = (.error failure, w') := by
  rw [fetch_eq, h]

/-- A call that wants a page fails as the pull of the page does. -/
theorem next_of_pull_error {p : Pager α} {w w' : World} {failure : Failure}
    (hwants : p.wantsPage = true) (h : p.pull w = (.error failure, w')) :
    p.next w = (.error failure, p.finish, w') := by
  rw [next_eq_turn, turn, if_pos hwants, h]

/-- A link that is no URL is not followed: the pull fails before anything is sent. -/
theorem pull_of_unreadable (p : Pager α) {link : String} {fault : UrlFault}
    (h : Url.parse link = .error fault) (w : World) :
    (p.ledTo link).pull w = (.error (.invalidUrl fault), w) := by
  have hrequest : (p.ledTo link).nextRequest = .error (.invalidUrl fault) := by
    change Continuation.request link = _
    rw [Continuation.request, Continuation.parse, h]
    rfl
  rw [pull, hrequest]
  rfl

/-- **A link is followed where it points, or not at all, if it points to the web.**  Let a pager be
led to a link.
* If the link is no URL, nothing happens but that the pager fails.
* If it has the scheme `http` or `https`, its address is resolved as it is.  All that is sent to
  fetch the page goes to the scheme, host, port and path of the link.
* If it has another scheme, its address is resolved below the service, and nothing that is sent goes
  to the place of the link.
* Where nothing is sent the fetch fails, and a call that wanted the page fails in the same way. -/
theorem follows_or_fails (p : Pager α) (link : String) :
    (∀ fault, Url.parse link = .error fault →
      ∀ w, (p.ledTo link).fetch w = (.error (.invalidUrl fault), w)) ∧
    (∀ u, Url.parse link = .ok u →
      Continuation.parse link = .ok (u.base, .regroup u.queryPairs) ∧
      (u.IsHttp → p.client.resolve u.base = u.base ∧
        ∀ w, World.SendsOnly (·.url.SamePlace u) w ((p.ledTo link).fetch w).2) ∧
      (¬ u.IsHttp → p.client.resolve u.base = p.client.root ++ "/" ++ u.base ∧
        ∀ w, World.SendsOnly (¬ ·.url.SamePlace u) w ((p.ledTo link).fetch w).2)) ∧
    ∀ w, ((p.ledTo link).fetch w).2.sent = w.sent →
      ∃ failure, ((p.ledTo link).fetch w).1 = .error failure ∧
        ((p.ledTo link).wantsPage = true → (p.ledTo link).next w =
          (.error failure, (p.ledTo link).finish, ((p.ledTo link).fetch w).2)) := by
  -- Whether the schemes are those of requests or not, all that is sent goes to the place of the
  -- link or away from it alike.
  have hsends : ∀ u, Url.parse link = .ok u → ∀ w,
      World.SendsOnly (fun message => message.url.SamePlace u ↔ u.IsHttp) w
        ((p.ledTo link).fetch w).2 := by
    intro u hparse w
    have hpull : World.SendsOnly (fun message => message.url.SamePlace u ↔ u.IsHttp) w
        ((p.ledTo link).pull w).2 := by
      rw [p.pull_ledTo hparse]
      exact (Client.execute_sendsOnly _ _ w).imp fun _ => Client.samePlace_of_prepare hparse
    obtain ⟨messages, hsent, hkind⟩ := hpull
    exact ⟨messages, by rw [sent_fetch, hsent], hkind⟩
  refine ⟨fun fault hparse w => fetch_of_pull_error (p.pull_of_unreadable hparse w),
    fun u hparse => ⟨Continuation.parse_eq_ok_iff.2 ⟨u, hparse, rfl, rfl⟩,
      fun hhttp => ⟨(p.client.resolve_base hparse).1 hhttp,
        fun w => (hsends u hparse w).imp fun _ h => h.2 hhttp⟩,
      fun hother => ⟨(p.client.resolve_base hparse).2 hother,
        fun w => (hsends u hparse w).imp fun _ h hplace => hother (h.1 hplace)⟩⟩,
    fun w hsilent => ?_⟩
  have hfails : ∃ failure, ((p.ledTo link).pull w).1 = .error failure := by
    rw [sent_fetch] at hsilent
    cases hparse : Url.parse link with
    | error fault => exact ⟨_, by rw [p.pull_of_unreadable hparse]⟩
    | ok u =>
      rw [p.pull_ledTo hparse] at hsilent ⊢
      exact Client.error_of_sent_eq hsilent
  obtain ⟨failure, hfailure⟩ := hfails
  have hpull : (p.ledTo link).pull w = (.error failure, ((p.ledTo link).pull w).2) :=
    Prod.ext hfailure rfl
  rw [fetch_of_pull_error hpull]
  exact ⟨failure, rfl, fun hwants => next_of_pull_error hwants hpull⟩

/-- A link of another scheme does not keep a pager from sending a request.  It asks the service for
a path that has the link for its last part. -/
theorem foreign_link_is_resolved : ∃ u message,
    Url.parse "ftp://h/x" = .ok u ∧ ¬ u.IsHttp ∧
      (((Client.patient.paginate "p" .empty none).ledTo "ftp://h/x").fetch
        ⟨["http"], [], fun _ => .ok [], []⟩).2.sent = [message] ∧
      message.url.text = "http://h/v1/ftp://h/x?access_token=t" ∧ ¬ message.url.SamePlace u := by
  have hparse : Url.parse "ftp://h/x" = .ok
      ⟨"ftp", "", "", some (.name "h"), none, .segments ["x"], none, none⟩ :=
    Url.parse_of_toOption (by decide +kernel)
  generalize hu : (⟨"ftp", "", "", some (.name "h"), none, .segments ["x"], none, none⟩ : Url) = u
    at hparse
  have hlocate : (Client.locate? (Client.patient.resolve u.base)
      (Client.patient.queryPairs (Client.linkRequest u))).map (fun url => (url.scheme, url.text)) =
        some ("http", "http://h/v1/ftp://h/x?access_token=t") := by
    subst hu
    decide +kernel
  obtain ⟨url, hurl, hfields⟩ := Option.map_eq_some_iff.1 hlocate
  obtain ⟨hscheme, htext⟩ := Prod.mk.inj hfields
  have hmessage : Client.patient.prepare (Client.linkRequest u) = .ok
      ⟨"GET", url, Client.patient.config.userAgent, .empty⟩ :=
    Client.prepare_eq_ok_iff.2 ⟨url, hurl, rfl⟩
  have hother : ¬ u.IsHttp := by
    subst hu
    exact fun h => h.elim (by decide) (by decide)
  refine ⟨u, ⟨"GET", url, Client.patient.config.userAgent, .empty⟩, hparse, hother, ?_, htext,
    fun hplace => hother ((Client.samePlace_of_prepare hparse hmessage).1 hplace)⟩
  rw [sent_fetch, pull_ledTo _ hparse]
  change World.sent (Client.patient.execute (Client.linkRequest u) _).2 = _
  rw [Client.execute_of_prepared hmessage (by simp [hscheme]), World.sent_advance,
    Client.sentIn_transcript]
  rfl

end Pager

end ThreatGraph
