import ThreatGraph.Proofs.Client.Sending
import ThreatGraph.Proofs.Params.Union
import ThreatGraph.Proofs.Url.Query

/-!
# Where the parameters of a request go

A request has parameters of its own in two places, and its method decides in which of two places
they are sent: in the query of the URL or in a form in the body.

* `Client.ownPairs` are the pairs that the address of an endpoint has already.  What a request adds
  comes behind them (`Client.queryPairs_of_prepare`), and an address without a question mark has
  none (`Client.ownPairs_of_not_mem`).
* `Client.IsPlaced` says where each parameter but the token is, as it is read from the message, and
  `Client.execute_places` that this holds of all that an execution sends.
* `Client.own_query_is_sent` is an address of a service that has pairs of its own.
-/

set_option autoImplicit false

namespace ThreatGraph

/-- The values that a key of a request has in the query of its URL. -/
def Request.queryValues (r : Request) (key : String) : List String :=
  match r.method with
  | .get => r.query.values key
  | .post => []
  | .delete => Params.unionValues key r.query r.body

namespace Client

/-! ## The query of a message

The client joins an endpoint to its address as a text and has the result read as a URL.  If there is
a query in that text, its pairs are in the message before any parameter is added, and nothing the
request says can remove them. -/

/-- The pairs that the query of an address holds already. -/
def ownPairs (c : Client) (endpoint : String) : List (String × String) :=
  ((Url.parse (c.resolve endpoint)).toOption.map Url.queryPairs).getD []

/-- An address without a question mark holds no pairs. -/
theorem ownPairs_of_not_mem {c : Client} {endpoint : String}
    (h : '?' ∉ (c.resolve endpoint).toList) : c.ownPairs endpoint = [] := by
  rw [ownPairs]
  cases hparse : Url.parse (c.resolve endpoint) with
  | error failure => rfl
  | ok url =>
    change url.queryPairs = []
    rw [Url.queryPairs, Url.query_of_parse hparse h]
    rfl

/-- The parts of the message that a request is sent as. -/
theorem of_prepare {c : Client} {r : Request} {message : Message} (h : c.prepare r = .ok message) :
    message.url.queryPairs = c.ownPairs r.endpoint ++ c.queryPairs r ∧
      message.payload = c.payload r := by
  obtain ⟨url, hurl, rfl⟩ := prepare_eq_ok_iff.1 h
  refine ⟨?_, rfl⟩
  rw [locate?] at hurl
  split at hurl
  · cases hurl
  · next found hparse =>
    rw [ownPairs, hparse]
    dsimp only at hurl ⊢
    split at hurl
    · cases hurl
      exact found.queryPairs_appendPairs _
    · cases hurl

/-! ## Values

Parameters are set and united before they are written, so where a key goes is one question and which
values it has is another.  The token is the one key that the client sets by itself. -/

/-- Signed parameters have the token of the client, and their values for all other keys. -/
theorem values_signed (c : Client) (p : Params) (key : String) :
    (c.signed p).values key =
      if key = tokenParam then [c.credentials.accessToken] else p.values key :=
  p.values_insertText _ _ _

/-- The values of a key but the token are as the request says. -/
theorem valuesIn_queryPairs (c : Client) (r : Request) {key : String} (hkey : key ≠ tokenParam) :
    Params.valuesIn key (c.queryPairs r) = r.queryValues key := by
  rw [queryPairs, Request.queryValues]
  cases r.method with
  | get => rw [Params.valuesIn_pairs, values_signed, if_neg hkey]
  | post => simp [Params.valuesIn, Ne.symm hkey]
  | delete =>
    rw [Params.valuesIn_pairs, values_signed, if_neg hkey, Params.values_merge, Params.unionValues,
      values_signed, if_neg hkey]
    rfl

/-- What a request adds to a query comes in the order of the keys. -/
theorem inByteOrder_queryPairs (c : Client) (r : Request) :
    Params.InByteOrder (c.queryPairs r) := by
  rw [queryPairs]
  split
  · exact Params.inByteOrder_pairs _
  · exact List.pairwise_singleton _ _
  · exact Params.inByteOrder_pairs _

/-! ## Placement

Where a parameter should be is said of the message as a service reads it: of the pairs of its query,
and of the form in its body. -/

/-- Where the parameters of a request are in a message, but for the token. -/
structure IsPlaced (c : Client) (r : Request) (message : Message) : Prop where
  /-- An address has pairs of its own only behind a question mark. -/
  own : '?' ∉ (c.resolve r.endpoint).toList → c.ownPairs r.endpoint = []
  /-- The query has the pairs of the address, and then those of the request. -/
  query : ∃ added, message.url.queryPairs = c.ownPairs r.endpoint ++ added ∧
    Params.InByteOrder added ∧
    ∀ key, key ≠ tokenParam → Params.valuesIn key added = r.queryValues key
  /-- Only a posted request has a body. -/
  empty : r.method ≠ .post → message.payload = .empty
  /-- The body of a posted request is a form of the union of its parameters. -/
  form : r.method = .post → ∃ text, message.payload = .form text ∧
    Params.InByteOrder (Form.decode text.toList) ∧
    ∀ key, key ≠ tokenParam → Params.valuesIn key (Form.decode text.toList) =
      Params.unionValues key r.query r.body
  /-- What is got does not depend on the parameters for a body. -/
  unread : r.method = .get → ∀ body, c.prepare { r with body := body } = .ok message

/-- The message of a request has its parameters where they should be. -/
theorem isPlaced_of_prepare {c : Client} {r : Request} {message : Message}
    (h : c.prepare r = .ok message) : c.IsPlaced r message := by
  obtain ⟨hquery, hpayload⟩ := of_prepare h
  refine ⟨ownPairs_of_not_mem, ⟨_, hquery, c.inByteOrder_queryPairs r,
    fun key hkey => c.valuesIn_queryPairs r hkey⟩, fun hmethod => ?_, fun hmethod => ?_,
    fun hmethod body => ?_⟩
  · rw [hpayload, payload]
    split
    · next hpost => exact absurd hpost hmethod
    · rfl
  · refine ⟨_, by rw [hpayload, payload, hmethod], ?_, fun key hkey => ?_⟩
    · rw [String.toList_ofList, Form.decode_encode]
      exact Params.inByteOrder_pairs _
    · rw [String.toList_ofList, Form.decode_encode, Params.valuesIn_pairs, Params.values_merge,
        Params.unionValues, Params.unionValues, values_signed, if_neg hkey]
  · obtain ⟨url, hurl, rfl⟩ := prepare_eq_ok_iff.1 h
    refine prepare_eq_ok_iff.2 ⟨url, ?_, ?_⟩
    · simpa only [queryPairs, hmethod] using hurl
    · simp only [payload, hmethod]

/-- **Where the parameters of a request go.**  In all that is sent for a request, at the first
attempt and at each further one:
* what is got has its query in the query of the URL, and no body;
* what is deleted has the union of its parameters in the query of the URL, and no body;
* what is posted has the union of its parameters in a form, and nothing but the token in the URL.
The values of each key are read back as they were, and the pairs come in the order of the bytes of
their keys.  Only where the address has a question mark do pairs of its own stand in front. -/
theorem execute_places (c : Client) (r : Request) :
    (∀ message, c.prepare r = .ok message → c.IsPlaced r message) ∧
      ∀ w, World.SendsOnly (c.IsPlaced r) w (c.execute r w).2 :=
  ⟨fun _ => isPlaced_of_prepare,
    fun w => (c.execute_sendsOnly r w).imp fun _ => isPlaced_of_prepare⟩

/-- A deletion with a key in both places. -/
def crossed : Request where
  method := .delete
  endpoint := "p"
  query := .ofList [("b", .single "1"), ("a", .single "é")]
  body := .ofList [("b", .multi ["&", "2"])]

/-- A key that is in both places is sent with the values for the body only, in their order. -/
theorem crossed_places : ∃ message, patient.prepare crossed = .ok message ∧
    patient.IsPlaced crossed message ∧
    message.url.text = "http://h/v1/p?a=%C3%A9&access_token=t&b=%26&b=2" := by
  have hlocate : (locate? (patient.resolve "p") (patient.queryPairs crossed)).map Url.text
      = some "http://h/v1/p?a=%C3%A9&access_token=t&b=%26&b=2" := by decide +kernel
  obtain ⟨url, hurl, htext⟩ := Option.map_eq_some_iff.1 hlocate
  have hmessage : patient.prepare crossed = .ok ⟨"DELETE", url, patient.config.userAgent, .empty⟩ :=
    prepare_eq_ok_iff.2 ⟨url, hurl, rfl⟩
  exact ⟨_, hmessage, (execute_places patient crossed).1 _ hmessage, htext⟩

/-- A client of a service whose own address has a query. -/
def queried : Client :=
  ⟨patient.credentials, { patient.config with baseUrl := "http://h?x=1" }⟩

/-- An endpoint without a query does not keep the pairs of the address of the service away: what is
sent has a key that the request has not. -/
theorem own_query_is_sent : ¬ ∀ (c : Client) (r : Request) (message : Message),
    '?' ∉ r.endpoint.toList → '#' ∉ r.endpoint.toList → c.prepare r = .ok message →
      ∀ key, key ≠ tokenParam → Params.valuesIn key message.url.queryPairs = r.queryValues key := by
  intro hall
  have hlocate : (locate? (queried.resolve "p") (queried.queryPairs { endpoint := "p" })).map
      (Params.valuesIn "x" ·.queryPairs) = some ["1/v1/p"] := by decide +kernel
  obtain ⟨url, hurl, hvalues⟩ := Option.map_eq_some_iff.1 hlocate
  have hmessage : queried.prepare { endpoint := "p" } =
      .ok ⟨"GET", url, queried.config.userAgent, .empty⟩ := prepare_eq_ok_iff.2 ⟨url, hurl, rfl⟩
  have hsame := hall queried _ _ (by decide) (by decide) hmessage "x" (by decide)
  exact absurd (hvalues.symm.trans hsame) (by decide +kernel)

end Client

end ThreatGraph
