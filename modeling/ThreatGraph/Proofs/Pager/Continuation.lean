import ThreatGraph.Proofs.Client.Execution
import ThreatGraph.Proofs.Pager.Turns
import ThreatGraph.Proofs.Params.Grouping
import ThreatGraph.Proofs.Url.Rereading

/-!
# Following a link again

A pager takes a link apart before it follows it: the pairs of the query are grouped, the token of
the client is put among them, and they are written as a query again.  What is sent in this way is a
link of its own.  This file says that following that link sends the same message, so no cursor is
changed on the way, however often it is passed on.

* `Params.regroup_decode_encode_iff` says which parameters are read back from their form.
* `Client.followed` is the URL that is asked for in place of a URL that a link names, and
  `Client.prepare_linkRequest` is the message, if there is one.
* `Pager.follow_again` draws the conclusion for a pager.
-/

set_option autoImplicit false

namespace ThreatGraph

/-! ## Parameters as a form

Writing parameters as a form and reading them keeps the values of each key.  The form in which they
are held need not be the same: a parameter that is set to no values is gone, and a list of one value
has become a single one.  Parameters that are read from a query are settled, so nothing changes when
they go around once more. -/

namespace Params

/-- Every parameter has the same values after it is written as a form and read. -/
theorem values_regroup_decode_encode (p : Params) (key : String) :
    (regroup (Form.decode (Form.encode p.pairs))).values key = p.values key := by
  rw [Form.decode_encode, values_of_get? (get?_regroup p.pairs key), valuesIn_pairs]

/-- Settled parameters, and no others, are the same after they are written as a form and read. -/
theorem regroup_decode_encode_iff (p : Params) :
    regroup (Form.decode (Form.encode p.pairs)) = p ↔ p.Settled := by
  rw [Form.decode_encode]
  constructor
  · intro h
    rw [← h]
    exact settled_regroup p.pairs
  · exact regroup_pairs

/-- Parameters with a value are not written as nothing. -/
theorem pairs_ne_nil_of_values {p : Params} (key : String) (h : p.values key ≠ []) :
    p.pairs ≠ [] := by
  intro hpairs
  rw [← valuesIn_pairs, hpairs] at h
  exact h rfl

end Params

/-! ## URLs that a client asks for

A client asks for the address of a link with a form as its query.  Such a URL has nothing in it that
reading would change: the form is made of plain characters, and what stands in front of it was read
already.  So its text is read as the URL itself, which is why following can be repeated. -/

namespace Url

/-- A URL over the web with a form as its query. -/
def withForm (u : Url) (pairs : List (String × String)) : Url :=
  { u with query := some (String.ofList (Form.encode pairs)), fragment := none }

@[simp] theorem base_withForm (u : Url) (pairs : List (String × String)) :
    (u.withForm pairs).base = u.base := rfl

@[simp] theorem queryPairs_withForm (u : Url) (pairs : List (String × String)) :
    (u.withForm pairs).queryPairs = pairs := by
  rw [queryPairs, withForm, Option.getD_some, String.toList_ofList, Form.decode_encode]

/-- A URL that is computed is the one that is read.  Closed instances are checked in this form. -/
theorem parse_of_toOption {text : String} {u : Url} (h : (parse text).toOption = some u) :
    parse text = .ok u := by
  cases hparse : parse text with
  | error fault =>
    rw [hparse] at h
    cases h
  | ok found =>
    rw [hparse] at h
    cases h
    rfl

/-- Pairs that are added to a URL without a query are all that its query holds. -/
theorem appendPairs_of_no_query {u : Url} (h : u.query = none) (hfragment : u.fragment = none)
    {pairs : List (String × String)} (hne : pairs ≠ []) :
    u.appendPairs pairs = u.withForm pairs := by
  have hform : String.ofList (Form.encode pairs) ≠ "" := fun heq =>
    hne (Form.encode_eq_nil_iff.1 (String.ofList_eq_empty_iff.1 heq))
  unfold appendPairs withForm
  rw [h, hfragment, Option.getD_none]
  dsimp only
  rw [if_pos rfl, if_neg hform]

/-- A form is a query in which nothing has to be escaped. -/
theorem isPlain_of_mem_encode {pairs : List (String × String)} {c : Char}
    (h : c ∈ Form.encode pairs) : isPlain (escapesInQuery true) c = true := by
  have hform : ∀ n < 0x80, Form.isFormChar (Char.ofNat n) = true →
      isPlain (escapesInQuery true) (Char.ofNat n) = true := by decide
  rcases Form.mem_encode h with h | rfl | rfl
  · exact forall_ascii (P := fun c => Form.isFormChar c = true →
      isPlain (escapesInQuery true) c = true) hform (Form.toNat_lt_of_isFormChar h) h
  · decide
  · decide

variable {u : Url} {host : Host} {names : List String}

/-- A URL over the web with a form as its query is read as itself. -/
theorem IsWeb.parse_withForm (h : IsWeb u host names) (pairs : List (String × String)) :
    parse (u.withForm pairs).text =
      if host.fits then .ok (u.withForm pairs) else .error .badName := by
  refine h.parse_text (some (Form.encode pairs)) ?_ ?_
  · rintro q hq c hc
    cases hq
    exact isPlain_of_mem_encode hc
  · rw [text, base_withForm, queryText, withForm, tailText]
    simp

/-- The text of a URL over the web up to the end of its path is a URL without a query. -/
theorem IsWeb.parse_base (h : IsWeb u host names) :
    parse u.base =
      if host.fits then .ok { u with query := none, fragment := none } else .error .badName :=
  h.parse_text none (fun _ hq => nomatch hq) (by simp [tailText])

/-- A URL over the web stays one with another query. -/
theorem IsWeb.withForm (h : IsWeb u host names) (pairs : List (String × String)) :
    IsWeb (u.withForm pairs) host names :=
  ⟨h.scheme, h.username, h.password, h.host_eq, h.isRead, h.port, h.path, h.names_ne, h.settled⟩

/-- The text of a URL over the web up to the end of its path is a URL of its own, not a path below
some address. -/
theorem IsWeb.isAbsolute_base_withUser (h : IsWeb u host names) (username password : String) :
    Client.isAbsolute (u.withUser username password).base = true := by
  rw [Client.isAbsolute, h.toList_base_withUser]
  rcases h.scheme with hscheme | hscheme <;> simp [hscheme, afterStart?]

theorem IsWeb.isAbsolute_base (h : IsWeb u host names) : Client.isAbsolute u.base = true := by
  have habsolute := h.isAbsolute_base_withUser "" ""
  rwa [h.withUser_empty] at habsolute

end Url

namespace Client

/-- The parameters of a request with the token among them are not empty. -/
theorem pairs_signed_ne_nil (c : Client) (p : Params) : (c.signed p).pairs ≠ [] := by
  have hget : (c.signed p).get? tokenParam = ParamValue.ofValues? [c.credentials.accessToken] := by
    rw [signed, Params.insertText, Params.get?_insert, if_pos rfl]
    rfl
  refine Params.pairs_ne_nil_of_values tokenParam ?_
  rw [Params.values_of_get? hget]
  exact List.cons_ne_nil _ _

/-- A token that is there already is put there once. -/
theorem signed_signed (c : Client) (p : Params) : c.signed (c.signed p) = c.signed p := by
  refine Params.eq_of_get? fun key => ?_
  unfold signed Params.insertText
  rw [Params.get?_insert, Params.get?_insert]
  split <;> rfl

/-- The parameters with which a client follows a URL. -/
def linkParams (c : Client) (u : Url) : Params := c.signed (.regroup u.queryPairs)

/-- The URL that a client asks for when a link names a URL. -/
def followed (c : Client) (u : Url) : Url := u.withForm (c.linkParams u).pairs

/-- The message that asks for a URL that a link names. -/
def linkMessage (c : Client) (u : Url) : Message :=
  ⟨"GET", c.followed u, c.config.userAgent, .empty⟩

/-- The request that follows a link to a URL. -/
def linkRequest (u : Url) : Request :=
  { method := .get, endpoint := u.base, query := .regroup u.queryPairs }

theorem request_of_parse {link : String} {u : Url} (h : Url.parse link = .ok u) :
    Continuation.request link = .ok (linkRequest u) := by
  rw [Continuation.request, Continuation.parse, h]
  rfl

/-- The parameters with which a link is followed are settled: they come from a query, and the token
has a single value. -/
theorem settled_linkParams (c : Client) (u : Url) : (c.linkParams u).Settled :=
  (Params.settled_regroup u.queryPairs).insertText tokenParam c.credentials.accessToken

/-- The parameters are read back from the URL that is asked for. -/
theorem regroup_followed (c : Client) (u : Url) :
    Params.regroup (c.followed u).queryPairs = c.linkParams u := by
  rw [followed, Url.queryPairs_withForm, Params.regroup_pairs (c.settled_linkParams u)]

/-- The parts of a link to the URL that is asked for. -/
theorem parse_followed (c : Client) {u : Url} {link : String}
    (h : Url.parse link = .ok (c.followed u)) :
    Continuation.parse link = .ok (u.base, c.linkParams u) := by
  rw [Continuation.parse, h]
  dsimp only
  rw [c.regroup_followed u]
  rfl

/-- **A URL that is asked for is asked for again as it is.** -/
theorem followed_followed (c : Client) (u : Url) : c.followed (c.followed u) = c.followed u := by
  have hparams : c.linkParams (c.followed u) = c.linkParams u := by
    rw [linkParams, regroup_followed, linkParams, signed_signed]
  rw [followed, hparams]
  rfl

theorem linkMessage_followed (c : Client) (u : Url) :
    c.linkMessage (c.followed u) = c.linkMessage u := by
  rw [linkMessage, followed_followed, linkMessage]

/-- Where a client asks for a URL over the web, if it can. -/
theorem locate?_base {u : Url} {host : Host} {names : List String} (h : u.IsWeb host names)
    {pairs : List (String × String)} (hne : pairs ≠ []) :
    locate? u.base pairs =
      if host.fits && (u.withForm pairs).isSendable then some (u.withForm pairs) else none := by
  rw [locate?, h.parse_base]
  cases host.fits with
  | false => rfl
  | true =>
    rw [if_pos rfl, Bool.true_and]
    dsimp only
    rw [Url.appendPairs_of_no_query rfl rfl hne]
    change (if (u.scheme = "http" ∨ u.scheme = "https") ∧ (u.withForm pairs).isSendable then
      some { (u.withForm pairs).withoutUser with fragment := none } else none) = _
    have huser : { (u.withForm pairs).withoutUser with fragment := none } = u.withForm pairs := by
      simp only [Url.withoutUser, Url.withForm, h.username, h.password]
    rw [huser]
    simp only [h.scheme, true_and]

/-- **The message that follows a link.** -/
theorem prepare_linkRequest (c : Client) {u : Url} {host : Host} {names : List String}
    (h : u.IsWeb host names) : c.prepare (linkRequest u) =
      if host.fits && (c.followed u).isSendable then .ok (c.linkMessage u)
      else .error (.transport ⟨.request, none⟩) := by
  have haddress : c.resolve (linkRequest u).endpoint = u.base := if_pos h.isAbsolute_base
  have hpairs : c.queryPairs (linkRequest u) = (c.linkParams u).pairs := rfl
  have hlocate : locate? u.base (c.linkParams u).pairs =
      if host.fits && (c.followed u).isSendable then some (c.followed u) else none :=
    locate?_base h (c.pairs_signed_ne_nil _)
  delta prepare
  rw [haddress, hpairs, hlocate]
  cases host.fits && (c.followed u).isSendable <;> rfl

/-- A client that is led to the URL it asks for does what it does when it is led to the first. -/
theorem execute_followed (c : Client) {u : Url} {host : Host} {names : List String}
    (h : u.IsWeb host names) :
    c.execute (linkRequest (c.followed u)) = c.execute (linkRequest u) := by
  have hnote : c.attemptNote (linkRequest (c.followed u)) = c.attemptNote (linkRequest u) := by
    simp only [attemptNote, linkRequest, followed, Url.base_withForm]
  have hfollowed : (c.followed u).IsWeb host names := h.withForm _
  refine execute_congr hnote ?_
  rw [c.prepare_linkRequest h, c.prepare_linkRequest hfollowed, followed_followed,
    linkMessage_followed]

end Client

namespace Pager

variable {α : Type}

/-- A pager that follows a link next. -/
def ledTo (p : Pager α) (link : String) : Pager α :=
  { p with progress := { p.progress with cursor := .next link } }

@[simp] theorem client_ledTo (p : Pager α) (link : String) :
    (p.ledTo link).client = p.client := rfl

/-- The message that asks for the next page. -/
def nextMessage (p : Pager α) : Except Failure Message := p.nextRequest >>= p.client.prepare

theorem nextMessage_of_request {p : Pager α} {r : Request} (h : p.nextRequest = .ok r) :
    p.nextMessage = p.client.prepare r := by
  rw [nextMessage, h]
  rfl

theorem nextRequest_ledTo (p : Pager α) {link : String} {u : Url} (h : Url.parse link = .ok u) :
    (p.ledTo link).nextRequest = .ok (Client.linkRequest u) :=
  Client.request_of_parse h

theorem nextMessage_ledTo (p : Pager α) {link : String} {u : Url} {host : Host}
    {names : List String} (hparse : Url.parse link = .ok u) (h : u.IsWeb host names) :
    (p.ledTo link).nextMessage =
      if host.fits && (p.client.followed u).isSendable then .ok (p.client.linkMessage u)
      else .error (.transport ⟨.request, none⟩) := by
  rw [nextMessage_of_request (p.nextRequest_ledTo hparse), client_ledTo]
  exact p.client.prepare_linkRequest h

theorem pull_ledTo (p : Pager α) {link : String} {u : Url} (hparse : Url.parse link = .ok u) :
    (p.ledTo link).pull = p.client.execute (Client.linkRequest u) := by
  rw [pull, p.nextRequest_ledTo hparse, client_ledTo, Client.ask_ok]

/-- Pagers that pull the same fetch the same, wherever their links led them. -/
theorem fetch_ledTo_congr {p : Pager α} {link link' : String}
    (h : (p.ledTo link).pull = (p.ledTo link').pull) :
    (p.ledTo link).fetch = (p.ledTo link').fetch := by
  funext w
  rw [fetch_eq, fetch_eq, h]
  rfl

/-- **Following a link again.**  Let a link name a URL over the web without user information, and
let a pager follow it.  It asks for the same scheme, host, port and path with the parameters of the
query grouped and signed (`Client.followed`), unless no message can be made for that URL.  What it
asks for is a link too.  A pager that is led there has the same message, does the same and fetches
the same page in every world.  No value of a parameter is changed when it is written and read, and
parameters that are settled, as these are, are read back in the same form. -/
theorem follow_again (p : Pager α) (link : String) (u : Url) (hparse : Url.parse link = .ok u)
    (hscheme : u.scheme = "http" ∨ u.scheme = "https") (huser : u.username = "")
    (hpassword : u.password = "") :
    let c := p.client
    (p.ledTo link).nextMessage =
        (if u.host.all Host.fits && (c.followed u).isSendable then .ok (c.linkMessage u)
        else .error (.transport ⟨.request, none⟩)) ∧
      Url.parse (c.followed u).text =
        (if u.host.all Host.fits then .ok (c.followed u) else .error .badName) ∧
      (∀ message, (p.ledTo link).nextMessage = .ok message →
        message = c.linkMessage u ∧
        Continuation.parse message.url.text = .ok (u.base, c.linkParams u) ∧
        (p.ledTo message.url.text).nextMessage = .ok message ∧
        (p.ledTo message.url.text).pull = (p.ledTo link).pull ∧
        (p.ledTo message.url.text).fetch = (p.ledTo link).fetch ∧
        ∀ w : World, w.carries.contains u.scheme = true →
          ((p.ledTo link).pull w).2.sent =
            w.sent ++ List.replicate (c.retriesIn w + 1) message) ∧
      ∀ q : Params,
        (∀ key, (Params.regroup (Form.decode (Form.encode q.pairs))).values key = q.values key) ∧
          (Params.regroup (Form.decode (Form.encode q.pairs)) = q ↔ q.Settled) := by
  intro c
  obtain ⟨host, names, h⟩ := Url.isWeb_of_parse hparse hscheme huser hpassword
  have hfits : u.host.all Host.fits = host.fits := by rw [h.host_eq, Option.all_some]
  have hfollowed : (c.followed u).IsWeb host names := h.withForm _
  have hmessage := p.nextMessage_ledTo hparse h
  have hagain : Url.parse (c.followed u).text =
      if host.fits then .ok (c.followed u) else .error .badName := h.parse_withForm _
  rw [hfits]
  refine ⟨hmessage, hagain, fun message hsent => ?_, fun q =>
    ⟨q.values_regroup_decode_encode, q.regroup_decode_encode_iff⟩⟩
  -- A message is sent only if the host fits, and then what is asked for is read as it is.
  rw [hmessage] at hsent
  split at hsent
  · next hcan =>
    cases hsent
    have hlink : Url.parse (c.linkMessage u).url.text = .ok (c.followed u) := by
      rw [Bool.and_eq_true] at hcan
      exact hagain.trans (if_pos hcan.1)
    have hpull : (p.ledTo (c.linkMessage u).url.text).pull = (p.ledTo link).pull := by
      rw [p.pull_ledTo hparse, p.pull_ledTo hlink]
      exact c.execute_followed h
    refine ⟨rfl, c.parse_followed hlink, ?_, hpull, fetch_ledTo_congr hpull,
      fun w hcarries => ?_⟩
    · rw [p.nextMessage_ledTo hlink hfollowed, c.followed_followed, c.linkMessage_followed,
        if_pos hcan]
    · have hprepare : c.prepare (Client.linkRequest u) = .ok (c.linkMessage u) := by
        rw [c.prepare_linkRequest h, if_pos hcan]
      rw [p.pull_ledTo hparse, Client.execute_of_prepared hprepare hcarries, World.sent_advance,
        Client.sentIn_transcript, List.length_map, List.length_range]
  · cases hsent

/-- A pager that is led to a link with a repeated parameter asks for all of its values, and for the
same again when it is led to what it asked for. -/
theorem follow_repeated_values : ∃ message,
    ((Client.patient.paginate "p" .empty none).ledTo "http://h/?b=2&a=%C3%A9&b=3").nextMessage
        = .ok message ∧
      ((Client.patient.paginate "p" .empty none).ledTo message.url.text).nextMessage
        = .ok message ∧
      message.url.text = "http://h/?a=%C3%A9&access_token=t&b=2&b=3" := by
  have hparse : Url.parse "http://h/?b=2&a=%C3%A9&b=3" = .ok
      ⟨"http", "", "", some (.name "h"), none, .segments [""], some "b=2&a=%C3%A9&b=3", none⟩ :=
    Url.parse_of_toOption (by decide +kernel)
  obtain ⟨hmessage, -, hagain, -⟩ := follow_again (Client.patient.paginate "p" .empty none)
    "http://h/?b=2&a=%C3%A9&b=3" _ hparse (.inl rfl) rfl rfl
  have hsent := hmessage.trans (if_pos (by decide +kernel))
  refine ⟨_, hsent, (hagain _ hsent).2.2.1, ?_⟩
  decide +kernel

end Pager

end ThreatGraph
