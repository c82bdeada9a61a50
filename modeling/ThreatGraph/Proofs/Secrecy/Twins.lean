import Mathlib.Data.List.Forall2
import ThreatGraph.Proofs.Client.Execution
import ThreatGraph.Proofs.Secrecy.Redaction

/-!
# Two clients that differ in their secrets

Two runs with different secrets go on side by side.  Whatever is outside of the clients is the same
for both, and so is all that they do but for the tokens in their messages.

* `Client.Twins` are clients that differ in their secrets only, and `World.Twins` are worlds that
  differ only in the tokens of the messages that such clients sent.
* `Client.fits` says whether the URL of a request is not too long.  Nothing else about a request can
  depend on the token (`Client.prepare_redact`).
* `World.RunTwins` says that two runs give the same and lead from twin worlds to twin worlds.
  `Client.execute_twins` and `Client.upload_twins` say so of twin clients.
-/

set_option autoImplicit false

namespace ThreatGraph

/-! ## Clients

A token that is blank is refused when a client is made, and so both tokens are taken not to be.  The
secret of the app plays no part in what is sent: it is enough that both clients have one or neither
has. -/

/-- Credentials that differ in their secrets only: in the token, which is not blank, and in the
secret of the app, which both have or both have not. -/
structure Credentials.Twins (k k' : Credentials) : Prop where
  appId_eq : k.appId = k'.appId
  appSecret_eq : k.appSecret.isSome = k'.appSecret.isSome
  token : isBlankText k.accessToken = false
  token' : isBlankText k'.accessToken = false

/-- A description of credentials shows no secrets. -/
theorem Credentials.Twins.description_eq {k k' : Credentials} (h : k.Twins k') :
    k.description = k'.description := by
  have hsecret : describeOption (fun _ => redacted) k.appSecret =
      describeOption (fun _ => redacted) k'.appSecret := by
    have hsome := h.appSecret_eq
    cases hk : k.appSecret <;> cases hk' : k'.appSecret <;>
      simp [hk, hk', describeOption] at hsome ⊢
  rw [description, description, h.appId_eq, hsecret]

/-- Clients with the same settings that differ in their secrets only. -/
structure Client.Twins (c c' : Client) : Prop where
  credentials : c.credentials.Twins c'.credentials
  config_eq : c.config = c'.config

namespace Client

/-- A description of a client shows no secrets. -/
theorem Twins.description_eq {c c' : Client} (h : c.Twins c') : c.description = c'.description := by
  rw [description, description, h.credentials.description_eq, h.config_eq, hasThrottle, hasThrottle,
    h.config_eq]

/-- Whether a client can be made does not depend on its secrets. -/
theorem create_twins {k k' : Credentials} (h : k.Twins k') (config : Config) :
    (∃ failure, create k config = .error failure ∧ create k' config = .error failure) ∨
      (create k config = .ok ⟨k, config⟩ ∧ create k' config = .ok ⟨k', config⟩) := by
  have hvalid : k.validate = .ok () := by simp [Credentials.validate, h.token]
  have hvalid' : k'.validate = .ok () := by simp [Credentials.validate, h.token']
  unfold create
  rw [hvalid, hvalid']
  cases config.validate with
  | error failure => exact .inl ⟨failure, rfl, rfl⟩
  | ok _ =>
    by_cases hagent : config.userAgent.toList.all isHeaderChar = true
    · simp only [hagent, if_pos]
      exact .inr ⟨rfl, rfl⟩
    · simp only [hagent]
      exact .inl ⟨_, rfl, rfl⟩

end Client

/-! ## Requests

Two requests are compared up to the values of some keys, which `f` stands in for: where `f` forgets
a value altogether the requests are the same to the eye, and where it keeps its length they are of
the same length.  The same lemmas serve for both. -/

/-- Requests that agree but for the values of some keys of their queries. -/
structure Request.Alike (keys : List String) (f : String → String) (r r' : Request) : Prop where
  method_eq : r.method = r'.method
  endpoint_eq : r.endpoint = r'.endpoint
  query_eq : r.query.blur keys f = r'.query.blur keys f
  body_eq : r.body = r'.body

theorem Request.Alike.refl (keys : List String) (f : String → String) (r : Request) :
    Alike keys f r r := ⟨rfl, rfl, rfl, rfl⟩

namespace Client

variable {c c' : Client} {r r' : Request} {keys : List String} {f : String → String}

/-- Parameters with the token agree but for the values of some keys if they did without it. -/
theorem blur_signed (hkeys : tokenParam ∈ keys)
    (htoken : f c.credentials.accessToken = f c'.credentials.accessToken) {p p' : Params}
    (h : p.blur keys f = p'.blur keys f) :
    (c.signed p).blur keys f = (c'.signed p').blur keys f := by
  rw [signed, signed, Params.insertText, Params.insertText, Params.blur_insert, Params.blur_insert,
    h, ParamValue.blur, ParamValue.blur, if_pos hkeys, if_pos hkeys, ParamValue.map, ParamValue.map,
    htoken]

/-- So do the pairs that they put into their URLs. -/
theorem blur_queryPairs (hkeys : tokenParam ∈ keys)
    (htoken : f c.credentials.accessToken = f c'.credentials.accessToken)
    (h : r.Alike keys f r') :
    (c.queryPairs r).map (blurPair keys f) = (c'.queryPairs r').map (blurPair keys f) := by
  have hsigned := blur_signed hkeys htoken h.query_eq
  rw [queryPairs, queryPairs, ← h.method_eq]
  cases r.method with
  | get => rw [← Params.pairs_blur, ← Params.pairs_blur, hsigned]
  | post => simp [blurPair, hkeys, htoken]
  | delete =>
    rw [← Params.pairs_blur, ← Params.pairs_blur, ← h.body_eq, blur_signed hkeys htoken]
    rw [Params.blur_merge, Params.blur_merge, hsigned]

/-- So do the pairs of their forms. -/
theorem blur_formPairs (hkeys : tokenParam ∈ keys)
    (htoken : f c.credentials.accessToken = f c'.credentials.accessToken)
    (h : r.Alike keys f r') :
    ((c.signed r.query).merge r.body).pairs.map (blurPair keys f) =
      ((c'.signed r'.query).merge r'.body).pairs.map (blurPair keys f) := by
  rw [← Params.pairs_blur, ← Params.pairs_blur, Params.blur_merge, Params.blur_merge,
    blur_signed hkeys htoken h.query_eq, h.body_eq]

/-! ## Messages

The token can decide one thing about a request besides its text: whether the URL is too long to be
sent.  Whether it can be sent with both tokens or with neither is therefore an assumption here,
which is discharged later for tokens of the same length.  The request that debugs the token has it
in a second parameter, so its messages are compared up to both. -/

/-- The number of bytes of the URL of a request, if its address can be read. -/
def urlSize? (c : Client) (r : Request) : Option Nat :=
  (Url.parse (c.resolve r.endpoint)).toOption.map fun url =>
    (url.appendPairs (c.queryPairs r)).withoutUser.fullText.utf8ByteSize

/-- Whether the URL of a request is not too long to be sent. -/
def fits (c : Client) (r : Request) : Bool := (c.urlSize? r).all (· ≤ Url.greatestLength)

/-- Pairs that agree but for the values of some keys can both be added to an address or both not,
unless one of them makes the URL too long. -/
theorem locate?_redact (hkeys : "" ∉ keys) {address : String}
    {pairs pairs' : List (String × String)}
    (h : pairs.map (Form.redactPair keys) = pairs'.map (Form.redactPair keys))
    (hsize : ∀ url, Url.parse address = .ok url →
      ((url.appendPairs pairs).withoutUser.fullText.utf8ByteSize ≤ Url.greatestLength ↔
        (url.appendPairs pairs').withoutUser.fullText.utf8ByteSize ≤ Url.greatestLength)) :
    (locate? address pairs).map (Url.redact keys) =
      (locate? address pairs').map (Url.redact keys) := by
  rw [locate?, locate?]
  cases hparse : Url.parse address with
  | error fault => rfl
  | ok url =>
    have hredact := Url.redact_appendPairs hkeys h url
    have hsendable : (url.appendPairs pairs).isSendable = (url.appendPairs pairs').isSendable := by
      rw [Url.isSendable, Url.isSendable, decide_eq_decide.2 (hsize url hparse)]
      rfl
    have hscheme : (url.appendPairs pairs).scheme = (url.appendPairs pairs').scheme := rfl
    dsimp only
    rw [hsendable, hscheme]
    split
    · simp only [Option.map_some, Option.some.injEq]
      change ({ (url.appendPairs pairs).redact keys with
        username := "", password := "", fragment := none } : Url) =
        { (url.appendPairs pairs').redact keys with
          username := "", password := "", fragment := none }
      rw [hredact]
    · rfl

/-- The parameter that names the token to be debugged. -/
def inputTokenParam : String := "input_token"

/-- The request for what the service knows of the token. -/
def debugRequest (c : Client) : Request where
  endpoint := "debug_token"
  query := Params.empty.insertText inputTokenParam c.credentials.accessToken

end Client

/-- Messages of two clients that differ only in the values of the parameter for the token; and in
that for the token to be debugged, if this is what they are for. -/
inductive Message.Twins (c c' : Client) (m m' : Message) : Prop where
  | plain (h : m.redact [Client.tokenParam] = m'.redact [Client.tokenParam])
  | debug (h : m.redact [Client.tokenParam, Client.inputTokenParam] =
        m'.redact [Client.tokenParam, Client.inputTokenParam])
      (hmessage : c.prepare c.debugRequest = .ok m)
      (hmessage' : c'.prepare c'.debugRequest = .ok m')

/-- What requests of two clients are sent as: twin messages, or none for the same reason. -/
inductive Message.Prepared (c c' : Client) :
    Except Failure Message → Except Failure Message → Prop where
  | sent {m m' : Message} (h : m.Twins c c' m') : Prepared c c' (.ok m) (.ok m')
  | refused (failure : Failure) : Prepared c c' (.error failure) (.error failure)

/-- Twin messages go by the same scheme, so the network carries both or neither. -/
theorem Message.Twins.scheme_eq {c c' : Client} {m m' : Message} (h : m.Twins c c' m') :
    m.url.scheme = m'.url.scheme := by
  cases h with
  | plain h => exact congrArg (·.url.scheme) h
  | debug h _ _ => exact congrArg (·.url.scheme) h

namespace Client

variable {c c' : Client} {r r' : Request} {keys : List String}

/-- **A token only lengthens.**  Requests of twin clients that agree but for the values of some keys
are both refused, or are sent as messages that agree but for these values; unless the URL of one of
them, and not of the other, is too long. -/
theorem prepare_redact (h : c.Twins c') (hkeys : tokenParam ∈ keys) (hempty : "" ∉ keys)
    (hr : r.Alike keys (fun _ => "") r') (hfits : c.fits r = c'.fits r') :
    (∃ failure, c.prepare r = .error failure ∧ c'.prepare r' = .error failure) ∨
      ∃ m m', c.prepare r = .ok m ∧ c'.prepare r' = .ok m' ∧ m.redact keys = m'.redact keys := by
  have hresolve : c.resolve r.endpoint = c'.resolve r'.endpoint := by
    rw [resolve, resolve, h.config_eq, hr.endpoint_eq]
  have hlocate : (locate? (c.resolve r.endpoint) (c.queryPairs r)).map (Url.redact keys) =
      (locate? (c.resolve r.endpoint) (c'.queryPairs r')).map (Url.redact keys) := by
    refine locate?_redact hempty (blur_queryPairs hkeys rfl hr) fun url hparse => ?_
    simp only [fits, urlSize?, ← hresolve, hparse, Except.toOption, Option.map_some,
      Option.all_some, decide_eq_decide] at hfits
    exact hfits
  have hpayload : (c.payload r).redact keys = (c'.payload r').redact keys := by
    have hform : ((c.signed r.query).merge r.body).pairs.map (blurPair keys fun _ => "") =
        ((c'.signed r'.query).merge r'.body).pairs.map (blurPair keys fun _ => "") :=
      blur_formPairs hkeys rfl hr
    rw [payload, payload, ← hr.method_eq]
    cases r.method with
    | post =>
      simp only [Payload.redact, Form.redact_encode keys hempty, Payload.form.injEq]
      rw [Form.redactPair, hform]
    | get => rfl
    | delete => rfl
  delta prepare
  rw [← hresolve]
  cases hurl : locate? (c.resolve r.endpoint) (c.queryPairs r) with
  | none =>
    rw [hurl, Option.map_none, eq_comm, Option.map_eq_none_iff] at hlocate
    rw [hlocate]
    exact .inl ⟨_, rfl, rfl⟩
  | some url =>
    rw [hurl, Option.map_some, eq_comm, Option.map_eq_some_iff] at hlocate
    obtain ⟨url', hurl', heq⟩ := hlocate
    rw [hurl']
    refine .inr ⟨_, _, rfl, rfl, ?_⟩
    simp only [Message.redact, hr.method_eq, h.config_eq, heq, hpayload]

/-- A request that two twin clients make. -/
theorem prepared_of_fits (h : c.Twins c') (hfits : c.fits r = c'.fits r) :
    Message.Prepared c c' (c.prepare r) (c'.prepare r) := by
  have halike : r.Alike [tokenParam] (fun _ => "") r := .refl _ _ r
  obtain ⟨failure, hm, hm'⟩ | ⟨m, m', hm, hm', hredact⟩ :=
    prepare_redact h (List.mem_singleton.2 rfl) (by decide) halike hfits
  · rw [hm, hm']
    exact .refused failure
  · rw [hm, hm']
    exact .sent (.plain hredact)

/-- The requests in which each of two twin clients asks about its own token. -/
theorem prepared_debugRequest (h : c.Twins c')
    (hfits : c.fits c.debugRequest = c'.fits c'.debugRequest) :
    Message.Prepared c c' (c.prepare c.debugRequest) (c'.prepare c'.debugRequest) := by
  have halike : c.debugRequest.Alike [tokenParam, inputTokenParam] (fun _ => "")
      c'.debugRequest := by
    refine ⟨rfl, rfl, ?_, rfl⟩
    rw [debugRequest, debugRequest, Params.insertText, Params.insertText, Params.blur_insert,
      Params.blur_insert]
    rfl
  obtain ⟨failure, hm, hm'⟩ | ⟨m, m', hm, hm', hredact⟩ :=
    prepare_redact h (by simp) (by decide) halike hfits
  · rw [hm, hm']
    exact .refused failure
  · rw [hm, hm']
    exact .sent (.debug hredact hm hm')

end Client

/-! ## Worlds

Everything in a world is the same but for the messages in the journal.  The journals have the same
kinds of events in the same order, so what is read off them, the log, the waits and how much was
sent, is the same. -/

/-- Events that differ only in the tokens of a message that is sent. -/
inductive Event.Twins (c c' : Client) : Event → Event → Prop where
  | sent {m m' : Message} (h : m.Twins c c' m') : Twins c c' (.sent m) (.sent m')
  | slept (seconds : Nat) : Twins c c' (.slept seconds) (.slept seconds)
  | held : Twins c c' .held .held
  | noted (note : Note) : Twins c c' (.noted note) (.noted note)

/-- Worlds that differ only in the tokens of the messages that were sent. -/
structure World.Twins (c c' : Client) (w w' : World) : Prop where
  carries_eq : w.carries = w'.carries
  script_eq : w.script = w'.script
  files_eq : w.files = w'.files
  journal : List.Forall₂ (Event.Twins c c') w.journal w'.journal

theorem Event.Twins.refl (c c' : Client) (event : Event) : Twins c c' event event := by
  cases event with
  | sent m => exact .sent (.plain rfl)
  | slept seconds => exact .slept seconds
  | held => exact .held
  | noted note => exact .noted note

namespace World.Twins

variable {c c' : Client} {w w' : World}

theorem refl (c c' : Client) (w : World) : Twins c c' w w where
  carries_eq := rfl
  script_eq := rfl
  files_eq := rfl
  journal := List.forall₂_same.2 fun event _ => .refl c c' event

/-- The same events, with what they leave of the script, keep worlds twins. -/
theorem advance (h : Twins c c' w w') (events : List Event) (script : List Outcome) :
    Twins c c' (w.advance events script) (w'.advance events script) where
  carries_eq := h.carries_eq
  script_eq := rfl
  files_eq := h.files_eq
  journal := List.rel_append h.journal (List.forall₂_same.2 fun event _ => .refl c c' event)

/-- Twin events keep worlds twins. -/
theorem record (h : Twins c c' w w') {event event' : Event} (hevent : event.Twins c c' event') :
    Twins c c' (w.record event) (w'.record event') where
  carries_eq := h.carries_eq
  script_eq := h.script_eq
  files_eq := h.files_eq
  journal := List.rel_append h.journal (.cons hevent .nil)

theorem note (h : Twins c c' w w') (level : Level) (origin : Origin) (text : String) :
    Twins c c' (w.note level origin text) (w'.note level origin text) :=
  h.record (.noted _)

/-- The log is the same. -/
theorem log_eq (h : Twins c c' w w') : w.log = w'.log := by
  rw [log, log]
  refine List.forall₂_eq_eq_eq ▸ List.rel_filterMap (fun event event' hevent => ?_) h.journal
  cases hevent with
  | sent _ => exact .none
  | slept _ => exact .none
  | held => exact .none
  | noted note => exact .some rfl

/-- The waits are the same. -/
theorem slept_eq (h : Twins c c' w w') : w.slept = w'.slept := by
  rw [slept, slept]
  refine List.forall₂_eq_eq_eq ▸ List.rel_filterMap (fun event event' hevent => ?_) h.journal
  cases hevent with
  | sent _ => exact .none
  | slept seconds => exact .some rfl
  | held => exact .none
  | noted _ => exact .none

/-- So are the waits for the throttle, as often as there were any. -/
theorem holds_eq (h : Twins c c' w w') : w.holds = w'.holds := by
  have hjournal := h.journal
  rw [holds, holds]
  generalize w.journal = events at hjournal ⊢
  generalize w'.journal = events' at hjournal ⊢
  induction hjournal with
  | nil => rfl
  | cons hevent _ ih =>
    rw [List.count_cons, List.count_cons, ih]
    cases hevent <;> rfl

/-- The messages that were sent are twins, one by one. -/
theorem sent (h : Twins c c' w w') : List.Forall₂ (Message.Twins c c') w.sent w'.sent := by
  rw [World.sent, World.sent]
  refine List.rel_filterMap (fun event event' hevent => ?_) h.journal
  cases hevent with
  | sent hmessage => exact .some hmessage
  | slept _ => exact .none
  | held => exact .none
  | noted _ => exact .none

end World.Twins

/-! ## Calls

The relation of two runs goes through the steps of a call: if two steps are twins, and those that
follow them are twins for any result, so are the two together.  The errors of the transport are the
one place where the results of two steps differ, since they name the URL; the step is only taken
together with the conversion that drops it. -/

/-- Two runs give the same and lead from twin worlds to twin worlds. -/
def World.RunTwins {β : Type} (c c' : Client) (run run' : World → β × World) : Prop :=
  ∀ w w', World.Twins c c' w w' → (run w).1 = (run' w').1 ∧ World.Twins c c' (run w).2 (run' w').2

namespace World.RunTwins

variable {β γ : Type} {c c' : Client} {run run' : World → β × World}

/-- What is made of the results is the same. -/
theorem map (h : RunTwins c c' run run') (f : β → γ) :
    RunTwins c c' (fun w => (f (run w).1, (run w).2)) fun w => (f (run' w).1, (run' w).2) :=
  fun w w' hworld => ⟨congrArg f (h w w' hworld).1, (h w w' hworld).2⟩

/-- Twin runs go on as twins if those that follow them do, whatever they gave. -/
theorem bind (h : RunTwins c c' run run') {g g' : β → World → γ × World}
    (hg : ∀ x, RunTwins c c' (g x) (g' x)) :
    RunTwins c c' (fun w => g (run w).1 (run w).2) fun w => g' (run' w).1 (run' w).2 := by
  intro w w' hworld
  obtain ⟨hresult, hafter⟩ := h w w' hworld
  dsimp only
  rw [hresult]
  exact hg _ _ _ hafter

end World.RunTwins

namespace Client

open World (RunTwins)

variable {c c' : Client}

/-- What comes of an exchange, with the URL taken from an error. -/
def withoutUrls (result : Except TransportError Answer) : Except TransportError Answer :=
  result.mapError TransportError.withoutUrl

/-- Without the URL it is the same for all URLs. -/
theorem withoutUrls_receiveFrom (url url' : Url) (o : Outcome) :
    withoutUrls (World.receiveFrom url o) = withoutUrls (World.receiveFrom url' o) := by
  rw [World.receiveFrom, World.receiveFrom]
  cases World.receive o <;> rfl

/-- A client makes nothing of the URL in an error. -/
theorem readResult_withoutUrls (result : Except TransportError Answer) :
    readResult (withoutUrls result) = readResult result := by
  cases result <;> rfl

/-- Twin messages are exchanged for the same, but for the URLs in the errors. -/
theorem exchange_twins {m m' : Message} (h : m.Twins c c' m') :
    RunTwins c c' (fun w => (withoutUrls (w.exchange m).1, (w.exchange m).2))
      fun w => (withoutUrls (w.exchange m').1, (w.exchange m').2) := by
  intro w w' hworld
  have hresult := withoutUrls_receiveFrom m.url m'.url
  simp only [World.exchange, h.scheme_eq, hworld.carries_eq]
  split
  · have hsent := hworld.record (.sent h)
    cases hscript : w.script with
    | nil =>
      rw [← hworld.script_eq, hscript]
      exact ⟨hresult .unforeseen, hsent⟩
    | cons outcome script =>
      rw [← hworld.script_eq, hscript]
      exact ⟨hresult outcome, hsent.carries_eq, rfl, hsent.files_eq, hsent.journal⟩
  · exact ⟨hresult .dropped, hworld⟩

/-- The errors of two exchanges differ in their URLs, and the URL is dropped before the client goes
on. -/
theorem deliver_twins {m m' : Message} (h : m.Twins c c' m') :
    RunTwins c c' (deliver m) (deliver m') := by
  have hread := (exchange_twins h).map readResult
  simpa only [readResult_withoutUrls, ← deliver_eq] using hread

/-- Twin clients are held by the same throttle. -/
theorem Twins.holdEvents_eq (h : c.Twins c') : c.holdEvents = c'.holdEvents := by
  rw [holdEvents, holdEvents, h.config_eq]

/-- An attempt at requests that are the same to the eye, and are sent as twin messages. -/
theorem attempt_twins (h : c.Twins c') {r r' : Request}
    (hnote : c.attemptNote r = c'.attemptNote r')
    (hprepared : Message.Prepared c c' (c.prepare r) (c'.prepare r')) :
    RunTwins c c' (c.attempt r) (c'.attempt r') := by
  intro w w' hworld
  have hopening : c.openingEvents r = c'.openingEvents r' := by
    rw [openingEvents, openingEvents, h.holdEvents_eq, hnote]
  have hopened : World.Twins c c' (w.advance (c.openingEvents r) w.script)
      (w'.advance (c.openingEvents r) w'.script) := by
    rw [← hworld.script_eq]
    exact hworld.advance _ _
  rw [attempt_eq, attempt_eq, ← hopening]
  generalize c.prepare r = prepared at hprepared ⊢
  generalize c'.prepare r' = prepared' at hprepared ⊢
  cases hprepared with
  | sent hmessage => exact deliver_twins hmessage _ _ hopened
  | refused failure => exact ⟨rfl, hopened⟩

/-- Twin clients send a request again as often. -/
theorem Twins.retryPolicy_eq (h : c.Twins c') : c.retryPolicy = c'.retryPolicy := by
  rw [retryPolicy, retryPolicy, h.config_eq]

/-- What follows an attempt. -/
theorem resume_twins (h : c.Twins c') (retries : Nat) {again again' : Call Json}
    (hagain : RunTwins c c' again again') (result : Except Failure Json) :
    RunTwins c c' (fun w => c.resume retries again (result, w))
      fun w => c'.resume retries again' (result, w) := by
  intro w w' hworld
  cases result with
  | ok body => exact ⟨rfl, hworld⟩
  | error failure =>
    simp only [resume, ← h.retryPolicy_eq]
    cases c.retryPolicy.backoff? retries failure with
    | none => exact ⟨rfl, hworld⟩
    | some seconds => exact hagain _ _ ((hworld.note _ _ _).record (.slept seconds))

/-- The loop is run in step: both attempts come to the same, so both are followed by another or
neither is. -/
theorem executeFrom_twins (h : c.Twins c') {r r' : Request}
    (hnote : c.attemptNote r = c'.attemptNote r')
    (hprepared : Message.Prepared c c' (c.prepare r) (c'.prepare r')) (left retries : Nat) :
    RunTwins c c' (c.executeFrom r retries left) (c'.executeFrom r' retries left) := by
  have hattempt := attempt_twins h hnote hprepared
  induction left generalizing retries with
  | zero => exact hattempt
  | succ left ih =>
    have hboth := hattempt.bind (resume_twins h retries (ih (retries + 1)))
    simp only [Prod.eta] at hboth
    intro w w' hworld
    rw [executeFrom, executeFrom]
    exact hboth w w' hworld

/-- **Twin executions.**  They give the same, wait the same times and note the same, whatever comes
of what is sent. -/
theorem execute_twins (h : c.Twins c') {r r' : Request}
    (hnote : c.attemptNote r = c'.attemptNote r')
    (hprepared : Message.Prepared c c' (c.prepare r) (c'.prepare r')) :
    RunTwins c c' (c.execute r) (c'.execute r') := by
  have hrun := executeFrom_twins h hnote hprepared c.retryPolicy.budget 0
  rw [execute, execute, ← h.retryPolicy_eq]
  exact hrun

/-- What is noted of a request shows its address and not its query. -/
theorem attemptNote_twins (h : c.Twins c') (r : Request) : c.attemptNote r = c'.attemptNote r := by
  unfold attemptNote
  rw [resolve, resolve, h.config_eq]

/-- One request is executed alike by twin clients, if both can send it or neither can. -/
theorem execute_same_twins (h : c.Twins c') {r : Request} (hfits : c.fits r = c'.fits r) :
    RunTwins c c' (c.execute r) (c'.execute r) :=
  execute_twins h (attemptNote_twins h r) (prepared_of_fits h hfits)

/-! ## Uploads

The parts of an upload hold the token as one of its fields, and it is dealt with as the values of a
query are. -/

/-- Fields that agree but for the values of some keys are sent as parts that do. -/
theorem redact_parts {keys : List String} (hkeys : tokenParam ∈ keys) (token token' : String)
    (content : List UInt8) (u : Upload) :
    (u.parts token content).map (Part.redact keys) =
      (u.parts token' content).map (Part.redact keys) := by
  have hpart (pair : String × String) :
      Part.redact keys ⟨Upload.partHead pair.1 none, utf8Bytes pair.2.toList⟩ =
        Part.redact keys ⟨Upload.partHead (Form.redactPair keys pair).1 none,
          utf8Bytes (Form.redactPair keys pair).2.toList⟩ := by
    by_cases hkey : pair.1 ∈ keys
    · have hhead : Upload.partHead pair.1 none ∈ keys.map (Upload.partHead · none) :=
        List.mem_map_of_mem hkey
      simp only [Form.redactPair, blurPair, if_pos hkey, Part.redact, if_pos hhead]
    · simp only [Form.redactPair, blurPair, if_neg hkey]
  have hpairs : (u.fields.insertText tokenParam token).pairs.map (Form.redactPair keys) =
      (u.fields.insertText tokenParam token').pairs.map (Form.redactPair keys) := by
    rw [Form.redactPair, ← Params.pairs_blur, ← Params.pairs_blur, Params.insertText,
      Params.insertText, Params.blur_insert, Params.blur_insert, ParamValue.blur, ParamValue.blur,
      if_pos hkeys, if_pos hkeys]
    rfl
  have hfields := congrArg (List.map fun pair : String × String =>
    Part.redact keys ⟨Upload.partHead pair.1 none, utf8Bytes pair.2.toList⟩) hpairs
  simp only [List.map_map, Function.comp_def, ← hpart] at hfields
  simp only [Upload.parts, List.map_append, List.map_map, Function.comp_def, hfields]

/-- **Twin uploads.**  The address of an upload does not hold the token. -/
theorem upload_twins (h : c.Twins c') (endpoint : String) (u : Upload) :
    RunTwins c c' (c.upload endpoint u) (c'.upload endpoint u) := by
  intro w w' hworld
  have hresolve : c.resolve endpoint = c'.resolve endpoint := by
    rw [resolve, resolve, h.config_eq]
  have hload : u.load w = u.load w' := by
    unfold Upload.load
    rw [hworld.files_eq]
  rw [upload, upload, ← hload, ← hresolve, ← h.config_eq]
  cases u.load w with
  | error failure => exact ⟨rfl, hworld⟩
  | ok content =>
    have hready : World.Twins c c' (c.acquire w) (c'.acquire w') := by
      rw [acquire_eq_advance, acquire_eq_advance, ← h.holdEvents_eq, ← hworld.script_eq]
      exact hworld.advance _ _
    have hnoted := hready.note .debug .upload ("POST " ++ c.resolve endpoint ++ " (multipart)")
    dsimp only
    cases locate? (c.resolve endpoint) [] with
    | none => exact ⟨rfl, hnoted⟩
    | some url =>
      refine deliver_twins (.plain ?_) _ _ hnoted
      simp only [Message.redact, Payload.redact, Message.mk.injEq, Payload.parts.injEq, true_and]
      exact redact_parts (by simp) _ _ _ _

end Client

end ThreatGraph
