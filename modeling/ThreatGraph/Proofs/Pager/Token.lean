import ThreatGraph.Proofs.Client.Placement
import ThreatGraph.Proofs.Pager.Course

/-!
# The token in what is sent

A client puts its token into every request.  This file says how often, and when no other token is
sent beside it.

* `Client.valuesIn_queryPairs_token` and `Client.valuesIn_payload_token` are the tokens in a
  message.
* `Message.HasOnlyToken` says that a token is in the URL once and that no other is in the message.
  `Client.hasOnlyToken_iff` says when this holds: the address has no token of its own, and a posted
  body brings no other.
* `Pager.calls_sendsOnly` says that a pager asks for its endpoint and for URLs without a query, and
  `Pager.token_on_the_wire` draws the conclusion for all that is sent.
-/

set_option autoImplicit false

namespace ThreatGraph

/-! ## One message

A message has two places for a token: the query of its URL, and the form in its body.  The client
puts its token into the query of every request, and into the form of one that is posted.  There it
comes before the parameters of the caller, who may so replace it. -/

/-- The pairs of a form in a body. -/
def Payload.pairs : Payload → List (String × String)
  | .form text => Form.decode text.toList
  | _ => []

/-- A token is in the URL of a message once, and no other token is in the message. -/
structure Message.HasOnlyToken (token : String) (message : Message) : Prop where
  once : Params.valuesIn Client.tokenParam message.url.queryPairs = [token]
  no_other : ∀ value ∈ Params.valuesIn Client.tokenParam message.payload.pairs, value = token

namespace Client

variable {c : Client} {r : Request} {message : Message}

/-- Every request adds the token to its URL once. -/
theorem valuesIn_queryPairs_token (c : Client) (r : Request) :
    Params.valuesIn tokenParam (c.queryPairs r) = [c.credentials.accessToken] := by
  rw [queryPairs]
  cases r.method with
  | get => rw [Params.valuesIn_pairs, values_signed, if_pos rfl]
  | post => simp [Params.valuesIn]
  | delete => rw [Params.valuesIn_pairs, values_signed, if_pos rfl]

/-- The token is among the pairs that a request puts into its URL. -/
theorem mem_queryPairs (c : Client) (r : Request) :
    (tokenParam, c.credentials.accessToken) ∈ c.queryPairs r := by
  have hvalues : c.credentials.accessToken ∈ Params.valuesIn tokenParam (c.queryPairs r) := by
    rw [valuesIn_queryPairs_token]
    exact List.mem_singleton.2 rfl
  obtain ⟨pair, hpair, hvalue⟩ := List.mem_map.1 hvalues
  obtain ⟨hmem, hkey⟩ := List.mem_filter.1 hpair
  rwa [← hvalue, ← of_decide_eq_true hkey]

/-- The tokens in a body: what is posted has those of the caller in place of the token of the
client. -/
theorem valuesIn_payload_token (c : Client) (r : Request) :
    Params.valuesIn tokenParam (c.payload r).pairs =
      if r.method = .post then Params.unionValues tokenParam (c.signed r.query) r.body else [] := by
  rw [payload]
  cases r.method with
  | post =>
    rw [if_pos rfl, Payload.pairs, String.toList_ofList, Form.decode_encode, Params.valuesIn_pairs,
      Params.values_merge]
  | get => rfl
  | delete => rfl

/-- **No other token.**  The token of the client is the only one in a message if the address has no
token of its own and a posted body has none but it. -/
theorem hasOnlyToken_iff (h : c.prepare r = .ok message) :
    message.HasOnlyToken c.credentials.accessToken ↔
      Params.valuesIn tokenParam (c.ownPairs r.endpoint) = [] ∧
        (r.method = .post →
          ∀ value ∈ r.body.values tokenParam, value = c.credentials.accessToken) := by
  obtain ⟨hquery, hpayload⟩ := of_prepare h
  have honce : Params.valuesIn tokenParam message.url.queryPairs = [c.credentials.accessToken] ↔
      Params.valuesIn tokenParam (c.ownPairs r.endpoint) = [] := by
    rw [hquery, Params.valuesIn_append, valuesIn_queryPairs_token]
    simp
  have hother : (∀ value ∈ Params.valuesIn tokenParam message.payload.pairs,
      value = c.credentials.accessToken) ↔ (r.method = .post →
        ∀ value ∈ r.body.values tokenParam, value = c.credentials.accessToken) := by
    rw [hpayload, valuesIn_payload_token]
    by_cases hpost : r.method = .post
    · rw [if_pos hpost, Params.unionValues, values_signed, if_pos rfl]
      by_cases hbody : r.body.contains tokenParam = true
      · simp [hbody, hpost]
      · simp [hbody, hpost, Params.values_of_not_contains hbody]
    · simp [hpost]
  rw [← honce, ← hother]
  exact ⟨fun h => ⟨h.once, h.no_other⟩, fun h => ⟨h.1, h.2⟩⟩

/-- An endpoint without a question mark has an address without one, unless that of the service has
one. -/
theorem not_mem_resolve {endpoint : String} (hroot : '?' ∉ c.root.toList)
    (hendpoint : '?' ∉ endpoint.toList) : '?' ∉ (c.resolve endpoint).toList := by
  rw [resolve, address]
  split
  · exact hendpoint
  · intro hmem
    change '?' ∈ (c.root ++ "/" ++ String.ofList (dropLeading '/' endpoint.toList)).toList at hmem
    rw [String.toList_append, String.toList_append, List.mem_append, List.mem_append] at hmem
    rcases hmem with (hmem | hmem) | hmem
    · exact hroot hmem
    · exact absurd hmem (by decide)
    · rw [String.toList_ofList] at hmem
      exact hendpoint ((List.dropWhile_sublist (· = '/')).subset hmem)

/-- The message that gets an endpoint or a URL without a question mark. -/
def Pages (c : Client) (endpoint : String) (message : Message) : Prop :=
  ∃ r, c.prepare r = .ok message ∧ r.method = .get ∧
    (r.endpoint = endpoint ∨ '?' ∉ r.endpoint.toList)

/-- Where no address has a query, the token of the client is the only one that a pager sends. -/
theorem Pages.hasOnlyToken {endpoint : String} (h : c.Pages endpoint message)
    (hroot : '?' ∉ c.root.toList) (hendpoint : '?' ∉ endpoint.toList) :
    message.HasOnlyToken c.credentials.accessToken := by
  obtain ⟨r, hmessage, hmethod, htarget⟩ := h
  have hmark : '?' ∉ r.endpoint.toList := htarget.elim (fun heq => heq ▸ hendpoint) id
  refine (hasOnlyToken_iff hmessage).2 ⟨?_, fun hpost => ?_⟩
  · rw [ownPairs_of_not_mem (not_mem_resolve hroot hmark)]
    rfl
  · rw [hmethod] at hpost
    cases hpost

/-- What is asked for is sent as the message of its request, and nothing is sent where there is
none. -/
theorem ask_sendsOnly (c : Client) (request : Except Failure Request) (w : World) :
    World.SendsOnly (fun message => ∃ r, request = .ok r ∧ c.prepare r = .ok message) w
      (c.ask request w).2 := by
  unfold ask
  split
  · exact .refl w
  · next r => exact (c.execute_sendsOnly r w).imp fun message h => ⟨r, rfl, h⟩

end Client

/-! ## A pager

A pager gets pages: it never posts, and the links that it follows are stripped of their queries,
which become parameters.  So neither of the two ways to a second token is open, unless the address
of the service or the endpoint has a query of its own. -/

namespace Pager

variable {α : Type} {c : Client} {endpoint : String} {p : Pager α}

/-- The request for a page gets the endpoint of the pager, or a URL without a question mark. -/
theorem of_nextRequest {r : Request} (h : p.nextRequest = .ok r) :
    r.method = .get ∧ (r.endpoint = p.endpoint ∨ '?' ∉ r.endpoint.toList) := by
  rw [nextRequest] at h
  split at h
  · next link _ =>
    rw [Continuation.request, Continuation.parse] at h
    split at h
    · next url hparse =>
      cases h
      exact ⟨rfl, .inr (Url.not_mem_base (by decide) hparse)⟩
    · cases h
  · cases h
    exact ⟨rfl, .inl rfl⟩

/-- A pager of a client over an endpoint. -/
structure IsOf (c : Client) (endpoint : String) (p : Pager α) : Prop where
  client_eq : p.client = c
  endpoint_eq : p.endpoint = endpoint

/-- All that is sent for a page is the message that gets it. -/
theorem IsOf.pull_sendsOnly (h : p.IsOf c endpoint) (w : World) :
    World.SendsOnly (c.Pages endpoint) w (p.pull w).2 := by
  rw [pull, h.client_eq]
  refine (c.ask_sendsOnly p.nextRequest w).imp ?_
  rintro message ⟨r, hrequest, hmessage⟩
  obtain ⟨hmethod, htarget⟩ := of_nextRequest hrequest
  exact ⟨r, hmessage, hmethod, h.endpoint_eq ▸ htarget⟩

/-- A call asks for pages only, and leaves a pager over the same endpoint. -/
theorem IsOf.next (p : Pager α) (w : World) (h : p.IsOf c endpoint) :
    World.SendsOnly (c.Pages endpoint) w (p.next w).2.2 ∧ (p.next w).2.1.IsOf c endpoint := by
  induction p, w using turns_induction with
  | answer p w result p' w' hturn =>
    rw [next_eq_turn, hturn]
    cases turn_eq_answer hturn with
    | limit _ => exact ⟨.refl w, h.client_eq, h.endpoint_eq⟩
    | item _ _ => exact ⟨.refl w, h.client_eq, h.endpoint_eq⟩
    | finished _ _ => exact ⟨.refl w, h⟩
    | failed _ hpull =>
      have hsends := h.pull_sendsOnly w
      rw [hpull] at hsends
      exact ⟨hsends, h.client_eq, h.endpoint_eq⟩
  | fetch p w page p' w' hturn ih =>
    rw [next_eq_turn, hturn]
    obtain ⟨_, body, v, hpull, rfl, rfl, rfl⟩ := turn_eq_fetch hturn
    have hsends := h.pull_sendsOnly w
    rw [hpull] at hsends
    obtain ⟨hrest, hp⟩ := ih ⟨h.client_eq, h.endpoint_eq⟩
    refine ⟨hsends.trans (World.SendsOnly.trans ?_ hrest), hp⟩
    refine World.sendsOnly_advance (fun message hmem => ?_) _ _
    rw [(traffic_pageEvents p _).1] at hmem
    cases hmem

/-- Any number of calls asks for pages only. -/
theorem IsOf.calls (h : p.IsOf c endpoint) (w : World) (n : Nat) :
    World.SendsOnly (c.Pages endpoint) w (p.calls w n).world ∧
      (p.calls w n).pager.IsOf c endpoint := by
  induction n with
  | zero => exact ⟨.refl w, h⟩
  | succ n ih =>
    obtain ⟨hsends, hp⟩ := ih
    obtain ⟨hnext, hp'⟩ := hp.next _ (p.calls w n).world
    exact ⟨hsends.trans hnext, hp'⟩

/-- **The token in all that is sent.**  Each attempt at a request sends the same message, and the
token of the client is the only one in it unless the address has a token of its own, which takes a
question mark, or the request is posted with another token for its body: that one is sent in place
of the token of the client.  A pager only gets, and its links are followed without their queries.
Where no address has a query, the token of the client is the only one that it sends. -/
theorem token_on_the_wire (c : Client) :
    (∀ r message, c.prepare r = .ok message →
      (message.HasOnlyToken c.credentials.accessToken ↔
        Params.valuesIn Client.tokenParam (c.ownPairs r.endpoint) = [] ∧
          (r.method = .post → ∀ value ∈ r.body.values Client.tokenParam,
            value = c.credentials.accessToken))) ∧
      (∀ endpoint, '?' ∉ (c.resolve endpoint).toList → c.ownPairs endpoint = []) ∧
      (∀ r w, World.SendsOnly (c.prepare r = .ok ·) w (c.execute r w).2) ∧
      ∀ (α : Type) (p : Pager α), p.client = c → '?' ∉ c.root.toList → '?' ∉ p.endpoint.toList →
        ∀ w n, World.SendsOnly (·.HasOnlyToken c.credentials.accessToken) w
          (p.calls w n).world := by
  refine ⟨fun r message => Client.hasOnlyToken_iff, fun _ => Client.ownPairs_of_not_mem,
    c.execute_sendsOnly, fun α p hclient hroot hendpoint w n => ?_⟩
  have hp : p.IsOf c p.endpoint := ⟨hclient, rfl⟩
  exact (hp.calls w n).1.imp fun message h => h.hasOnlyToken hroot hendpoint

/-- A request that is posted with a token for its body. -/
def forged : Request where
  method := .post
  endpoint := "p"
  body := .ofList [("access_token", .single "evil")]

/-- The token for the body is sent, and that of the client is not in the body. -/
theorem forged_token_is_sent : ∃ message,
    '?' ∉ (Client.patient.resolve forged.endpoint).toList ∧
      (Client.patient.execute forged ⟨["http"], [], fun _ => .ok [], []⟩).2.sent = [message] ∧
      message.payload = .form "access_token=evil" ∧
      ¬ message.HasOnlyToken Client.patient.credentials.accessToken := by
  have hlocate : (Client.locate? (Client.patient.resolve "p")
      (Client.patient.queryPairs forged)).map Url.scheme = some "http" := by decide +kernel
  obtain ⟨url, hurl, hscheme⟩ := Option.map_eq_some_iff.1 hlocate
  have hpayload : Client.patient.payload forged = .form "access_token=evil" := by decide +kernel
  have hmessage : Client.patient.prepare forged = .ok
      ⟨"POST", url, Client.patient.config.userAgent, .form "access_token=evil"⟩ :=
    Client.prepare_eq_ok_iff.2 ⟨url, hurl, by rw [hpayload]; rfl⟩
  refine ⟨⟨"POST", url, Client.patient.config.userAgent, .form "access_token=evil"⟩,
    by decide +kernel, ?_, rfl, fun honly => ?_⟩
  · rw [Client.execute_of_prepared hmessage (by simp [hscheme]), World.sent_advance,
      Client.sentIn_transcript]
    rfl
  · have htoken := ((Client.hasOnlyToken_iff hmessage).1 honly).2 rfl "evil" (by decide +kernel)
    exact absurd htoken (by decide +kernel)

end Pager

end ThreatGraph
