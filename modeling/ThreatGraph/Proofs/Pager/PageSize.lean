import ThreatGraph.Proofs.Pager.Token

/-!
# The page size of a traversal

The first request of a pager says how many items a page is to have: as the caller says, and as the
settings say where the caller says nothing.

* `Pager.pageSizes` are the sizes that the first request adds to the query of its address.  There
  is none only where the caller sets the size to no values at all (`Pager.pageSizes_eq_nil_iff`).
* `Pager.next_sends_first` says that a call of a new pager sends the first request first.
* `Pager.starts_with_page_size` says when a traversal starts with a page size, and
  `Pager.unsized_page_is_sent` is a traversal that starts without one.
-/

set_option autoImplicit false

namespace ThreatGraph.Pager

variable {α : Type} {c : Client} {endpoint : String} {params : Params} {message : Message}

/-! ## The sizes in a message

That the caller sets the size and that there is a size are two things, for a parameter may be set to
no values.  The client looks at the first, and what is sent depends on the second. -/

/-- The page sizes that the first request of a pager has: those of the caller, and the one of the
settings where the caller does not set the parameter. -/
def pageSizes (c : Client) (params : Params) : List String :=
  if params.contains pageSizeParam then params.values pageSizeParam
  else [toString c.config.defaultPageSize]

theorem values_sized (c : Client) (params : Params) :
    (sized c params).values pageSizeParam = pageSizes c params := by
  rw [sized, pageSizes]
  split
  · rfl
  · exact (Params.values_insertText _ _ _ _).trans (if_pos rfl)

/-- The parameter may be set and yet have no value: then no size is sent. -/
theorem pageSizes_eq_nil_iff :
    pageSizes c params = [] ↔ params.get? pageSizeParam = some (.multi []) := by
  rw [pageSizes, Params.contains, Params.values]
  cases hget : params.get? pageSizeParam with
  | none => simp
  | some value => cases value <;> simp [ParamValue.toList]

/-- A message has a page size: that of the caller if there is one, and else that of the settings,
once. -/
structure IsSized (c : Client) (params : Params) (message : Message) : Prop where
  /-- There is a size. -/
  present : Params.valuesIn pageSizeParam message.url.queryPairs ≠ []
  /-- Sizes of the caller are the only ones. -/
  given : params.values pageSizeParam ≠ [] →
    Params.valuesIn pageSizeParam message.url.queryPairs = params.values pageSizeParam
  /-- Without one of the caller there is that of the settings alone. -/
  standard : params.values pageSizeParam = [] →
    Params.valuesIn pageSizeParam message.url.queryPairs = [toString c.config.defaultPageSize]

/-- The sizes in the query of the first message: those of the address come in front. -/
theorem valuesIn_first (h : c.prepare (firstRequest c endpoint params) = .ok message) :
    Params.valuesIn pageSizeParam message.url.queryPairs =
      Params.valuesIn pageSizeParam (c.ownPairs endpoint) ++ pageSizes c params := by
  have hkey : pageSizeParam ≠ Client.tokenParam := by decide
  have hadded : Params.valuesIn pageSizeParam (c.queryPairs (firstRequest c endpoint params)) =
      (sized c params).values pageSizeParam := c.valuesIn_queryPairs _ hkey
  rw [(Client.of_prepare h).1, Params.valuesIn_append, hadded, values_sized]
  rfl

/-- Where the address has no size of its own, a size is missing only if the caller sets the
parameter to no values. -/
theorem isSized_iff (h : c.prepare (firstRequest c endpoint params) = .ok message)
    (hown : Params.valuesIn pageSizeParam (c.ownPairs endpoint) = []) :
    IsSized c params message ↔ params.get? pageSizeParam ≠ some (.multi []) := by
  have hsent : Params.valuesIn pageSizeParam message.url.queryPairs = pageSizes c params := by
    rw [valuesIn_first h, hown, List.nil_append]
  refine ⟨fun hsized hnone => ?_, fun hvalue => ?_⟩
  · exact hsized.present (hsent.trans (pageSizes_eq_nil_iff.2 hnone))
  · have hsome : pageSizes c params ≠ [] := fun hnil => hvalue (pageSizes_eq_nil_iff.1 hnil)
    refine ⟨hsent ▸ hsome, fun hgiven => ?_, fun hmissing => ?_⟩
    · by_cases hset : params.contains pageSizeParam = true
      · rw [hsent, pageSizes, if_pos hset]
      · exact absurd (Params.values_of_not_contains hset) hgiven
    · by_cases hset : params.contains pageSizeParam = true
      · rw [pageSizes, if_pos hset] at hsome
        exact absurd hmissing hsome
      · rw [hsent, pageSizes, if_neg hset]

/-! ## The first message of a traversal

A call may send more than one message: the first request again after a rate limit, and the requests
for further pages if the first ones are empty.  All of these come behind the first one, which is all
that is needed to know how a traversal starts. -/

/-- A pull of a request that can be sent sends it, and nothing else. -/
theorem pull_sends {p : Pager α} {r : Request} {w : World} (hrequest : p.nextRequest = .ok r)
    (hmessage : p.client.prepare r = .ok message)
    (hcarries : w.carries.contains message.url.scheme = true) :
    ∃ n, (p.pull w).2.sent = w.sent ++ List.replicate (n + 1) message := by
  refine ⟨p.client.retriesIn w, ?_⟩
  rw [pull, hrequest, Client.ask_ok, Client.execute_of_prepared hmessage hcarries,
    World.sent_advance, Client.sentIn_transcript, List.length_map, List.length_range]

/-- What a call sends after its first pull only adds to what that has sent. -/
theorem sent_next_of_pull {p : Pager α} (hwants : p.wantsPage = true) (w : World) :
    ∃ later, (p.next w).2.2.sent = (p.pull w).2.sent ++ later := by
  rw [next_eq_turn, turn, if_pos hwants]
  cases hpull : p.pull w with
  | mk outcome v =>
    cases outcome with
    | error failure => exact ⟨[], (List.append_nil _).symm⟩
    | ok body =>
      dsimp only
      -- The rest of the call is one of a pager with the page taken in.
      obtain ⟨later, hsent, -⟩ := (IsOf.next (p.withPage (.ofBody p.transform body))
        (v.advance (p.pageEvents (.ofBody p.transform body)) v.script) ⟨rfl, rfl⟩).1
      refine ⟨later, ?_⟩
      rw [hsent, World.sent_advance, (traffic_pageEvents p _).1, List.append_nil]

/-- **The first request comes first.**  The first call of a pager sends the request for the first
page, unless no item is asked for. -/
theorem next_sends_first (limit : Option Nat) (transform : Json → α) (w : World)
    (hlimit : limit ≠ some 0) (hmessage : c.prepare (firstRequest c endpoint params) = .ok message)
    (hcarries : w.carries.contains message.url.scheme = true) :
    ∃ later, ((start c endpoint params limit transform).next w).2.2.sent =
      w.sent ++ message :: later := by
  have hwants : (start c endpoint params limit transform).wantsPage = true := by
    cases limit with
    | none => rfl
    | some n =>
      have hpositive : n ≠ 0 := fun hzero => hlimit (congrArg some hzero)
      simp [wantsPage, start, Progress.start, Progress.limitReached, Progress.isFinished, hpositive]
  have hrequest : (start c endpoint params limit transform).nextRequest =
      .ok (firstRequest c endpoint params) := rfl
  obtain ⟨later, hnext⟩ := sent_next_of_pull hwants w
  obtain ⟨n, hpull⟩ := pull_sends hrequest hmessage hcarries
  refine ⟨List.replicate n message ++ later, ?_⟩
  rw [hnext, hpull, List.replicate_succ, List.append_assoc, List.cons_append]

/-- **The page size that a traversal starts with.**  Unless no item is asked for, the first message
that a pager sends is the one for its first page.  To the sizes that its address has already, which
takes a question mark, it adds all that the caller sets, or the one of the settings where the caller
does not set the parameter.  So it has a page size as it should, unless the caller sets the
parameter to no values: the size of the settings is not put in their place. -/
theorem starts_with_page_size (c : Client) (endpoint : String) (params : Params)
    (limit : Option Nat) (transform : Json → α) (w : World) (message : Message)
    (hlimit : limit ≠ some 0) (hmessage : c.prepare (firstRequest c endpoint params) = .ok message)
    (hcarries : w.carries.contains message.url.scheme = true) :
    (∃ later, ((start c endpoint params limit transform).next w).2.2.sent =
      w.sent ++ message :: later) ∧
    Params.valuesIn pageSizeParam message.url.queryPairs =
      Params.valuesIn pageSizeParam (c.ownPairs endpoint) ++ pageSizes c params ∧
    ('?' ∉ (c.resolve endpoint).toList → c.ownPairs endpoint = []) ∧
    (Params.valuesIn pageSizeParam (c.ownPairs endpoint) = [] →
      (IsSized c params message ↔ params.get? pageSizeParam ≠ some (.multi []))) :=
  ⟨next_sends_first limit transform w hlimit hmessage hcarries, valuesIn_first hmessage,
    Client.ownPairs_of_not_mem, isSized_iff hmessage⟩

/-- Parameters that set the page size twice. -/
def sizedTwice : Params := .ofList [("limit", .multi ["5", "10"])]

/-- Both sizes are sent, and not that of the settings. -/
theorem starts_with_both_sizes : ∃ message later,
    ((start Client.patient "p" sizedTwice none id).next
      ⟨["http"], [], fun _ => .ok [], []⟩).2.2.sent = message :: later ∧
    Params.valuesIn pageSizeParam message.url.queryPairs = ["5", "10"] ∧
    IsSized Client.patient sizedTwice message := by
  have hlocate : (Client.locate? (Client.patient.resolve "p") (Client.patient.queryPairs
      (firstRequest Client.patient "p" sizedTwice))).map Url.scheme = some "http" := by
    decide +kernel
  obtain ⟨url, hurl, hscheme⟩ := Option.map_eq_some_iff.1 hlocate
  have hmessage : Client.patient.prepare (firstRequest Client.patient "p" sizedTwice) =
      .ok ⟨"GET", url, Client.patient.config.userAgent, .empty⟩ :=
    Client.prepare_eq_ok_iff.2 ⟨url, hurl, rfl⟩
  obtain ⟨⟨later, hsent⟩, hvalues, hown, hsized⟩ := starts_with_page_size Client.patient "p"
    sizedTwice none (id : Json → Json) ⟨["http"], [], fun _ => .ok [], []⟩ _ nofun hmessage
    (by simp [hscheme])
  have hnone : Client.patient.ownPairs "p" = [] := hown (by decide +kernel)
  rw [hnone] at hvalues hsized
  refine ⟨_, later, hsent, hvalues.trans ?_, (hsized rfl).2 ?_⟩
  · decide +kernel
  · decide +kernel

/-- Parameters that set the page size to no values. -/
def unsized : Params := .ofList [("limit", .multi [])]

/-- A traversal starts without a page size: neither the caller nor the settings bring one. -/
theorem unsized_page_is_sent : ∃ message later,
    '?' ∉ (Client.patient.resolve "p").toList ∧
    ((start Client.patient "p" unsized none id).next ⟨["http"], [], fun _ => .ok [], []⟩).2.2.sent
      = message :: later ∧
    message.url.text = "http://h/v1/p?access_token=t" ∧
    Params.valuesIn pageSizeParam message.url.queryPairs = [] ∧
    ¬ IsSized Client.patient unsized message := by
  have hlocate : (Client.locate? (Client.patient.resolve "p") (Client.patient.queryPairs
      (firstRequest Client.patient "p" unsized))).map (fun url => (url.scheme, url.text)) =
        some ("http", "http://h/v1/p?access_token=t") := by decide +kernel
  obtain ⟨url, hurl, hfields⟩ := Option.map_eq_some_iff.1 hlocate
  obtain ⟨hscheme, htext⟩ := Prod.mk.inj hfields
  have hmessage : Client.patient.prepare (firstRequest Client.patient "p" unsized) =
      .ok ⟨"GET", url, Client.patient.config.userAgent, .empty⟩ :=
    Client.prepare_eq_ok_iff.2 ⟨url, hurl, rfl⟩
  have hmark : '?' ∉ (Client.patient.resolve "p").toList := by decide +kernel
  have hvalues : Params.valuesIn pageSizeParam url.queryPairs = [] := by
    refine (valuesIn_first hmessage).trans ?_
    rw [Client.ownPairs_of_not_mem hmark]
    decide +kernel
  obtain ⟨later, hsent⟩ := next_sends_first none (id : Json → Json)
    ⟨["http"], [], fun _ => .ok [], []⟩ nofun hmessage (by simp [hscheme])
  exact ⟨_, later, hmark, hsent, htext, hvalues, fun hsized => hsized.present hvalues⟩

end ThreatGraph.Pager
