import ThreatGraph.Proofs.Secrecy.Length
import ThreatGraph.Proofs.Secrecy.Traversal

/-!
# Secrets in a session

A session is all that a caller does with a client: single questions, and pagers that are begun, gone
through and dropped in any order.  What the caller sees of it does not depend on the secrets of the
client.

* `Client.token_in_exchange` and `Client.token_in_locateError` say that the errors of the transport
  do hold the token, and `Failure.ofTransport_eq_iff` that nothing is left of it in the failures
  that are made of them.
* `Inquiry` lists the single questions and `Operation` all that a caller may do.  `Session.run` goes
  through a number of operations and gives a `Report` on each.
* `Session.FitsAlike` says that each request that is made on the way can be sent with both secrets
  or with neither.  Only the length of a URL can make a difference.
* `Session.run_twins` is the induction along the operations, and `Session.secrets_stay_hidden` draws
  the conclusion.
-/

set_option autoImplicit false

namespace ThreatGraph

variable {α : Type}

/-! ## What the transport tells

An error of the transport names the URL that the request was for.  This URL has the token in its
query, whether the request was sent and failed on its way or could not be made at all.  So the
reports of two twin sessions would differ wherever the transport fails, were it not for the
conversion of the error, which keeps of it what went wrong and nothing else. -/

namespace Client

/-- The error of an exchange names a URL with the token. -/
theorem token_in_exchange {c : Client} {r : Request} {message : Message}
    (hmessage : c.prepare r = .ok message) {w : World} {error : TransportError}
    (herror : (w.exchange message).1 = .error error) :
    ∃ url, error.url = some url ∧ (tokenParam, c.credentials.accessToken) ∈ url.queryPairs := by
  have hnamed {o : Outcome} (ho : World.receiveFrom message.url o = .error error) :
      error.url = some message.url := by
    rw [World.receiveFrom] at ho
    cases hreceive : World.receive o with
    | ok answer =>
      rw [hreceive] at ho
      cases ho
    | error fault =>
      rw [hreceive] at ho
      cases ho
      rfl
  refine ⟨message.url, ?_, ?_⟩
  · by_cases hcarries : w.carries.contains message.url.scheme = true
    · rw [World.exchange_of_carried hcarries] at herror
      exact hnamed herror
    · rw [World.exchange, if_neg hcarries] at herror
      exact hnamed (o := .dropped) herror
  · rw [(of_prepare hmessage).1]
    exact List.mem_append_right _ (c.mem_queryPairs r)

/-- So does the error for a request that cannot be made, if its address is a URL. -/
theorem token_in_locateError {c : Client} {r : Request} {url : Url}
    (h : (locateError (c.resolve r.endpoint) (c.queryPairs r)).url = some url) :
    (tokenParam, c.credentials.accessToken) ∈ url.queryPairs := by
  obtain ⟨found, -, rfl⟩ := Option.map_eq_some_iff.1 h
  rw [Url.queryPairs_appendPairs]
  exact List.mem_append_right _ (c.mem_queryPairs r)

end Client

/-- **What is kept of an error of the transport.**  Two errors become the same failure exactly if
the same went wrong, whatever URLs they name. -/
theorem Failure.ofTransport_eq_iff {e e' : TransportError} :
    ofTransport e = ofTransport e' ↔ e.fault = e'.fault := by
  rw [ofTransport, ofTransport, Failure.transport.injEq, TransportError.withoutUrl,
    TransportError.withoutUrl, TransportError.mk.injEq]
  simp

/-- The text of the failure does not show the URL. -/
theorem Failure.message_ofTransport (e : TransportError) :
    (ofTransport e).message = "Request failed: " ++ e.fault.message :=
  congrArg ("Request failed: " ++ ·) String.append_empty

/-! ## Single questions

All questions to the service but the upload are one thing: a request is made, executed, and the
answer is read.  With this table a property of executions is one of all questions.  It also shows
where a secret gets into a request besides its signature, which is in the question about the token
alone. -/

/-- A single question to the service. -/
inductive Inquiry : Type → Type where
  | execute (r : Request) : Inquiry Json
  | get (endpoint : String) (params : Params) : Inquiry Json
  | post (endpoint : String) (params : Params) : Inquiry Json
  | delete (endpoint : String) (params : Params) : Inquiry Json
  | upload (endpoint : String) (u : Upload) : Inquiry Json
  | descriptor (id : String) (fields : List String) : Inquiry Descriptor
  | createDescriptor (d : NewDescriptor) : Inquiry String
  | updateDescriptor (id : String) (change : DescriptorChange) : Inquiry Bool
  | deleteDescriptor (id : String) : Inquiry Bool
  | addReaction (id reaction : String) : Inquiry Bool
  | removeReaction (id : String) : Inquiry Bool
  | indicator (id : String) (fields : List String) : Inquiry Indicator
  | tag (id : String) : Inquiry Tag
  | privacyGroup (id : String) : Inquiry PrivacyGroup
  | createPrivacyGroup (name description : String) : Inquiry String
  | addMember (group other : String) : Inquiry Bool
  | removeMember (group other : String) : Inquiry Bool
  | member (id : String) (fields : List String) : Inquiry Member
  | me : Inquiry Json
  | debugToken : Inquiry Json

namespace Inquiry

/-- The call that asks a question. -/
def call (c : Client) : {α : Type} → Inquiry α → Call α
  | _, execute r => c.execute r
  | _, get endpoint params => c.get endpoint params
  | _, post endpoint params => c.post endpoint params
  | _, delete endpoint params => c.delete endpoint params
  | _, upload endpoint u => c.upload endpoint u
  | _, descriptor id fields => c.descriptor id fields
  | _, createDescriptor d => c.createDescriptor d
  | _, updateDescriptor id change => c.updateDescriptor id change
  | _, deleteDescriptor id => c.deleteDescriptor id
  | _, addReaction id reaction => c.addReaction id reaction
  | _, removeReaction id => c.removeReaction id
  | _, indicator id fields => c.indicator id fields
  | _, tag id => c.tag id
  | _, privacyGroup id => c.privacyGroup id
  | _, createPrivacyGroup name description => c.createPrivacyGroup name description
  | _, addMember group other => c.addMember group other
  | _, removeMember group other => c.removeMember group other
  | _, member id fields => c.member id fields
  | _, me => c.me
  | _, debugToken => c.debugToken

/-- The request that gets what is at an endpoint. -/
def getting (endpoint : String) (params : Params) : Client → Request := fun _ =>
  { method := .get, endpoint := endpoint, query := params }

/-- The request that posts to an endpoint. -/
def posting (endpoint : String) (params : Params) : Client → Request := fun _ =>
  { method := .post, endpoint := endpoint, body := params }

/-- The request that deletes what is at an endpoint. -/
def deleting (endpoint : String) (params : Params) : Client → Request := fun _ =>
  { method := .delete, endpoint := endpoint, query := params }

/-- The request that a client makes for a question, and what it reads in the answer.  An upload is
no such question: it is sent once, and its address does not hold the token. -/
def asking? : {α : Type} → Inquiry α → Option ((Client → Request) × (Json → α))
  | _, execute r => some (fun _ => r, id)
  | _, get endpoint params => some (getting endpoint params, id)
  | _, post endpoint params => some (posting endpoint params, id)
  | _, delete endpoint params => some (deleting endpoint params, id)
  | _, upload _ _ => none
  | _, descriptor id fields => some (getting id (Client.fieldParams fields), Descriptor.ofJson)
  | _, createDescriptor d => some (posting "threat_descriptors" d.toParams, Client.createdId)
  | _, updateDescriptor id change => some (posting id change.toParams, Client.success)
  | _, deleteDescriptor id => some (deleting id .empty, Client.success)
  | _, addReaction id reaction =>
    some (posting (id ++ "/reactions") (Params.empty.insertText "reaction" reaction),
      Client.success)
  | _, removeReaction id => some (deleting (id ++ "/reactions") .empty, Client.success)
  | _, indicator id fields => some (getting id (Client.fieldParams fields), Indicator.ofJson)
  | _, tag id => some (getting id .empty, Tag.ofJson)
  | _, privacyGroup id => some (getting id .empty, PrivacyGroup.ofJson)
  | _, createPrivacyGroup name description =>
    some (posting "threat_privacy_groups"
      ((Params.empty.insertText "name" name).insertText "description" description),
      Client.createdId)
  | _, addMember group other =>
    some (posting (group ++ "/members") (Params.empty.insertText "member" other), Client.success)
  | _, removeMember group other =>
    some (deleting (group ++ "/members") (Params.empty.insertText "member" other), Client.success)
  | _, member id fields => some (getting id (Client.fieldParams fields), Member.ofJson)
  | _, me => some (getting "me" .empty, id)
  | _, debugToken => some (Client.debugRequest, id)

end Inquiry

theorem Call.map_id (call : Call Json) : call.map id = call := by
  funext w
  rw [Call.map]
  generalize call w = result
  obtain ⟨failure | body, v⟩ := result <;> rfl

namespace Inquiry

/-- A question is asked by executing its request and reading the answer. -/
theorem call_eq {q : Inquiry α} {request : Client → Request} {read : Json → α}
    (h : q.asking? = some (request, read)) (c : Client) :
    q.call c = (c.execute (request c)).map read := by
  cases q <;> cases h
  case execute => exact (Call.map_id _).symm
  case get => exact (Call.map_id _).symm
  case post => exact (Call.map_id _).symm
  case delete => exact (Call.map_id _).symm
  case me => exact (Call.map_id _).symm
  case debugToken => exact (Call.map_id _).symm
  all_goals rfl

/-- Only the question about the token depends on the client. -/
theorem request_eq {q : Inquiry α} {request : Client → Request} {read : Json → α}
    (h : q.asking? = some (request, read)) :
    (∃ r, request = fun _ => r) ∨ request = Client.debugRequest := by
  cases q <;> cases h
  case debugToken => exact .inr rfl
  all_goals exact .inl ⟨_, rfl⟩

end Inquiry

/-! ## Sessions

A session has any number of pagers at a time, under names, and they are advanced in any order.  What
an operation does is what the program does when it is called so; a report holds all that a caller
can look at, counters and descriptions included. -/

/-- A pager over items of some form. -/
structure AnyPager : Type 1 where
  Item : Type
  pager : Pager Item

/-- What a caller may do with a client.  Pagers have names. -/
inductive Operation : Type 1 where
  | inquire {α : Type} (q : Inquiry α)
  | begin (name : String) {α : Type} (k : Collection α) (limit : Option Nat)
  | next (name : String)
  | collect (name : String)
  | stream (name : String) (count : Nat)
  | drop (name : String)
  | showPager (name : String)
  | showClient

/-- What a caller sees of an operation. -/
inductive Report : Type 1 where
  | answer {α : Type} (result : Except Failure α)
  | begun (result : Except Failure Unit)
  | item {α : Type} (result : Except Failure (Option α)) (yielded pages : Nat)
  | items {α : Type} (result : Except Failure (List α))
  | elements {α : Type} (results : List (Except Failure α)) (hasEnded : Bool)
  | dropped
  | description (text : String)
  | noPager

/-- The pagers of a caller, and the world. -/
structure Session : Type 1 where
  pagers : String → Option AnyPager
  world : World

namespace Session

/-- A session that begins. -/
def start (w : World) : Session := ⟨fun _ => none, w⟩

/-- The session with another pager of a name, or none, and another world. -/
def put (name : String) (pager : Option AnyPager) (w : World) (s : Session) : Session :=
  ⟨fun other => if other = name then pager else s.pagers other, w⟩

/-- The session with a new pager, if there is one. -/
def begin (name : String) (s : Session) : Except Failure (Pager α) → Report × Session
  | .ok p => (.begun (.ok ()), s.put name (some ⟨α, p⟩) s.world)
  | .error failure => (.begun (.error failure), s)

/-- What comes of something that is done with the pager of a name. -/
def withPager (name : String) (s : Session) (act : AnyPager → Report × Session) :
    Report × Session :=
  match s.pagers name with
  | some p => act p
  | none => (.noPager, s)

/-- Carries out an operation. -/
def perform (c : Client) (s : Session) : Operation → Report × Session
  | .inquire q => (.answer (q.call c s.world).1, ⟨s.pagers, (q.call c s.world).2⟩)
  | .begin name k limit => s.begin name (k.pager c limit)
  | .next name => s.withPager name fun p =>
      let (result, q, w) := p.pager.next s.world
      (.item result q.progress.yielded q.progress.pages, s.put name (some ⟨p.Item, q⟩) w)
  | .collect name => s.withPager name fun p =>
      (.items (p.pager.collect s.world).1, s.put name none (p.pager.collect s.world).2)
  | .stream name count => s.withPager name fun p =>
      let (results, hasEnded, w) := p.pager.stream count s.world
      (.elements results hasEnded, s.put name none w)
  | .drop name => s.withPager name fun _ => (.dropped, s.put name none s.world)
  | .showPager name => s.withPager name fun p => (.description p.pager.description, s)
  | .showClient => (.description c.description, s)

/-- Carries out operations one after the other. -/
def run (c : Client) : List Operation → Session → List Report × Session
  | [], s => ([], s)
  | operation :: rest, s =>
    let (report, s) := s.perform c operation
    let (reports, s) := run c rest s
    (report :: reports, s)

/-- The requests that an operation makes, as those of a client. -/
inductive Asks (s : Session) : Operation → (Client → Request) → Prop where
  | inquire {α : Type} {q : Inquiry α} {request : Client → Request} {read : Json → α}
      (h : q.asking? = some (request, read)) : Asks s (.inquire q) request
  | next {name : String} {p : AnyPager} {r : Request} (hp : s.pagers name = some p)
      (h : p.pager.Asks 1 s.world r) : Asks s (.next name) fun _ => r
  | collect {name : String} {p : AnyPager} {calls : Nat} {r : Request}
      (hp : s.pagers name = some p) (h : p.pager.Asks calls s.world r) :
      Asks s (.collect name) fun _ => r
  | stream {name : String} {count : Nat} {p : AnyPager} {r : Request}
      (hp : s.pagers name = some p) (h : p.pager.Asks count s.world r) :
      Asks s (.stream name count) fun _ => r

/-- The URL of each request that is made in a session is short enough for both of two clients, or
too long for both. -/
def FitsAlike (c c' : Client) : List Operation → Session → Prop
  | [], _ => True
  | operation :: rest, s =>
    (∀ request, s.Asks operation request → c.fits (request c) = c'.fits (request c')) ∧
      FitsAlike c c' rest (s.perform c operation).2

end Session

/-! ## Twin sessions

Two sessions are run side by side, each with its own client.  The pagers of the one are those of the
other with the client exchanged, and a step keeps it so, whatever the operation is.  The assumption
that URLs are sent with both tokens or with neither goes along with the operations, since a request
is known only when its time comes. -/

/-- A question is answered in the same way. -/
theorem Inquiry.call_twins {c c' : Client} (h : c.Twins c') (q : Inquiry α)
    (hfits : ∀ request read, q.asking? = some (request, read) →
      c.fits (request c) = c'.fits (request c')) :
    World.RunTwins c c' (q.call c) (q.call c') := by
  cases hasking : q.asking? with
  | none =>
    have hupload : ∀ endpoint u, World.RunTwins c c' ((upload endpoint u).call c)
        ((upload endpoint u).call c') := Client.upload_twins h
    cases q with
    | upload endpoint u => exact hupload endpoint u
    | _ => cases hasking
  | some asking =>
    obtain ⟨request, read⟩ := asking
    have hrequest := hfits request read hasking
    rw [call_eq hasking, call_eq hasking]
    obtain ⟨r, rfl⟩ | rfl := request_eq hasking
    · exact (Client.execute_same_twins h hrequest).map (Except.map read)
    · have hnote : c.attemptNote c.debugRequest = c'.attemptNote c'.debugRequest :=
        Client.attemptNote_twins h c.debugRequest
      exact (Client.execute_twins h hnote (Client.prepared_debugRequest h hrequest)).map
        (Except.map read)

/-- A new pager of a twin client is the same but for the client. -/
theorem Pager.start_withClient {c c' : Client} (h : c.Twins c') (endpoint : String)
    (params : Params) (limit : Option Nat) (transform : Json → α) :
    Pager.start c' endpoint params limit transform =
      (Pager.start c endpoint params limit transform).withClient c' := by
  have hsized : Pager.sized c' params = Pager.sized c params := by
    rw [Pager.sized, Pager.sized, h.config_eq]
  rw [Pager.start, hsized]
  rfl

/-- A collection is refused for the same reason, or has the same pager but for the client. -/
theorem Collection.pager_twins {c c' : Client} (h : c.Twins c') (limit : Option Nat)
    (k : Collection α) :
    (∃ failure, k.pager c limit = .error failure ∧ k.pager c' limit = .error failure) ∨
      ∃ p, k.pager c limit = .ok p ∧ p.client = c ∧ k.pager c' limit = .ok (p.withClient c') := by
  induction k with
  | ownPrivacyGroups =>
    simp only [pager, Client.ownPrivacyGroups, ← h.credentials.appId_eq]
    split
    · exact .inl ⟨_, rfl, rfl⟩
    · exact .inr ⟨_, rfl, rfl, congrArg Except.ok (Pager.start_withClient h _ _ _ _)⟩
  | mapped f k ih =>
    obtain ⟨failure, hk, hk'⟩ | ⟨p, hk, hclient, hk'⟩ := ih
    · exact .inl ⟨failure, by rw [pager, hk]; rfl, by rw [pager, hk']; rfl⟩
    · exact .inr ⟨p.map f, by rw [pager, hk]; rfl, hclient, by rw [pager, hk']; rfl⟩
  | _ => exact .inr ⟨_, rfl, rfl, congrArg Except.ok (Pager.start_withClient h _ _ _ _)⟩

namespace AnyPager

/-- A pager with another client. -/
def withClient (c : Client) (p : AnyPager) : AnyPager := ⟨p.Item, p.pager.withClient c⟩

end AnyPager

namespace Session

variable {c c' : Client}

/-- Sessions of twin clients: the pagers are the same but for the client, and so are the worlds but
for the tokens in what was sent. -/
structure Twins (c c' : Client) (s s' : Session) : Prop where
  client_eq : ∀ name p, s.pagers name = some p → p.pager.client = c
  pagers_eq : ∀ name, s'.pagers name = (s.pagers name).map (AnyPager.withClient c')
  worlds : World.Twins c c' s.world s'.world

/-- Sessions that begin in the same world are twins. -/
theorem Twins.start (c c' : Client) (w : World) : Twins c c' (.start w) (.start w) :=
  ⟨fun _ _ h => (nomatch h), fun _ => rfl, .refl c c' w⟩

/-- A pager that is put away in both sessions keeps them twins. -/
theorem Twins.put {s s' : Session} (h : Twins c c' s s') (name : String) {pager : Option AnyPager}
    (hclient : ∀ p, pager = some p → p.pager.client = c) {w w' : World}
    (hworld : World.Twins c c' w w') :
    Twins c c' (s.put name pager w) (s'.put name (pager.map (AnyPager.withClient c')) w') where
  client_eq := fun other p hp => by
    by_cases hname : other = name
    · exact hclient p (by simpa only [Session.put, if_pos hname] using hp)
    · exact h.client_eq other p (by simpa only [Session.put, if_neg hname] using hp)
  pagers_eq := fun other => by
    by_cases hname : other = name
    · simp only [Session.put, if_pos hname]
    · simp only [Session.put, if_neg hname]
      exact h.pagers_eq other
  worlds := hworld

/-- A pager that is taken away in both sessions keeps them twins. -/
theorem Twins.put_none {s s' : Session} (h : Twins c c' s s') (name : String) {w w' : World}
    (hworld : World.Twins c c' w w') : Twins c c' (s.put name none w) (s'.put name none w') :=
  h.put name (fun (p : AnyPager) (hp : none = some p) => (nomatch hp)) hworld

/-- What is done with a pager comes to the same if it does where there is one. -/
theorem Twins.withPager {s s' : Session} (h : Twins c c' s s') (name : String)
    {act act' : AnyPager → Report × Session}
    (hact : ∀ (β : Type) (p : Pager β), s.pagers name = some ⟨β, p⟩ →
      Pager.Together c c' p s.world (p.withClient c') s'.world →
      (act ⟨β, p⟩).1 = (act' ⟨β, p.withClient c'⟩).1 ∧
        Twins c c' (act ⟨β, p⟩).2 (act' ⟨β, p.withClient c'⟩).2) :
    (s.withPager name act).1 = (s'.withPager name act').1 ∧
      Twins c c' (s.withPager name act).2 (s'.withPager name act').2 := by
  rw [Session.withPager, Session.withPager, h.pagers_eq]
  cases hp : s.pagers name with
  | none => exact ⟨rfl, h⟩
  | some p => exact hact p.Item p.pager hp ⟨h.client_eq name p hp, rfl, h.worlds⟩

/-- **A step.**  An operation is reported in the same way, and leaves twin sessions. -/
theorem perform_twins (h : c.Twins c') {s s' : Session} (hs : Twins c c' s s')
    (operation : Operation)
    (hfits : ∀ request, s.Asks operation request → c.fits (request c) = c'.fits (request c')) :
    (s.perform c operation).1 = (s'.perform c' operation).1 ∧
      Twins c c' (s.perform c operation).2 (s'.perform c' operation).2 := by
  cases operation with
  | inquire q =>
    obtain ⟨hresult, hworld⟩ := q.call_twins h
      (fun request read hasking => hfits request (.inquire hasking)) _ _ hs.worlds
    exact ⟨congrArg Report.answer hresult, hs.client_eq, hs.pagers_eq, hworld⟩
  | begin name k limit =>
    rw [perform, perform]
    obtain ⟨failure, hk, hk'⟩ | ⟨p, hk, hclient, hk'⟩ := k.pager_twins h limit
    · rw [hk, hk']
      exact ⟨rfl, hs⟩
    · rw [hk, hk']
      refine ⟨rfl, hs.put name (fun q hq => ?_) hs.worlds⟩
      cases hq
      exact hclient
  | next name =>
    rw [perform, perform]
    refine hs.withPager name fun β p hp ht => ?_
    obtain ⟨v', hnext', hafter⟩ := Pager.next_together h p s.world ht
      fun r hr => hfits (fun _ => r) (.next hp hr)
    dsimp only
    rw [hnext']
    refine ⟨rfl, hs.put name (fun q hq => ?_) hafter.worlds⟩
    cases hq
    exact hafter.client_eq
  | collect name =>
    rw [perform, perform]
    refine hs.withPager name fun β p hp ht => ?_
    obtain ⟨hresult, hworld⟩ := Pager.collect_together h p s.world ht
      fun calls r hr => hfits (fun _ => r) (.collect hp hr)
    exact ⟨congrArg Report.items hresult, hs.put_none name hworld⟩
  | stream name count =>
    rw [perform, perform]
    refine hs.withPager name fun β p hp ht => ?_
    obtain ⟨hresults, hends, hworld⟩ := Pager.stream_together h count ht
      fun r hr => hfits (fun _ => r) (.stream hp hr)
    dsimp only
    rw [hresults, hends]
    exact ⟨rfl, hs.put_none name hworld⟩
  | drop name =>
    rw [perform, perform]
    exact hs.withPager name fun β p hp ht => ⟨rfl, hs.put_none name hs.worlds⟩
  | showPager name =>
    rw [perform, perform]
    exact hs.withPager name fun β p hp ht => ⟨rfl, hs⟩
  | showClient => exact ⟨congrArg Report.description h.description_eq, hs⟩

/-- **A run.**  All operations are reported in the same way. -/
theorem run_twins (h : c.Twins c') (operations : List Operation) {s s' : Session}
    (hs : Twins c c' s s') (hfits : FitsAlike c c' operations s) :
    (s.run c operations).1 = (s'.run c' operations).1 ∧
      Twins c c' (s.run c operations).2 (s'.run c' operations).2 := by
  induction operations generalizing s s' with
  | nil => exact ⟨rfl, hs⟩
  | cons operation rest ih =>
    obtain ⟨hreport, hafter⟩ := perform_twins h hs operation hfits.1
    obtain ⟨hreports, hend⟩ := ih hafter hfits.2
    rw [run, run]
    dsimp only
    rw [hreport, hreports]
    exact ⟨rfl, hend⟩

/-- Of the requests of an operation only that about the token depends on the client. -/
theorem Asks.request_eq {s : Session} {operation : Operation} {request : Client → Request}
    (h : s.Asks operation request) :
    (∃ r, request = fun _ => r) ∨ request = Client.debugRequest := by
  cases h with
  | inquire h => exact Inquiry.request_eq h
  | next _ _ => exact .inl ⟨_, rfl⟩
  | collect _ _ => exact .inl ⟨_, rfl⟩
  | stream _ _ => exact .inl ⟨_, rfl⟩

/-- Tokens of the same length make all URLs of the same length. -/
theorem fitsAlike_of_size (h : c.Twins c')
    (hsize : Form.size c.credentials.accessToken = Form.size c'.credentials.accessToken)
    (operations : List Operation) (s : Session) : FitsAlike c c' operations s := by
  induction operations generalizing s with
  | nil => exact trivial
  | cons operation rest ih =>
    refine ⟨fun request hasks => ?_, ih _⟩
    obtain ⟨r, rfl⟩ | rfl := hasks.request_eq
    · exact Client.fits_of_size h hsize r
    · exact Client.fits_debugRequest_of_size h hsize

/-- **Secrets stay hidden.**  Let two credentials differ in their secrets only.  They are described
in the same way, and make a client, which is described in the same way, or none for the same reason.
Let a caller go through any operations with these clients, in any world, such that the URL of each
request on the way is short enough for both of them or too long for both.  Then the caller sees the
same of each operation, the log and the waits are the same, and as many messages are sent.  One by
one these differ only in the values of the parameter for the token; and in that for the token to be
debugged, if this is what they are for.

What the caller sees includes the failures of the transport.  The errors that these are made of do
differ, for they name the URL. -/
theorem secrets_stay_hidden {k k' : Credentials} (h : k.Twins k') (config : Config) :
    k.description = k'.description ∧
    ((∃ failure, Client.create k config = .error failure ∧
        Client.create k' config = .error failure) ∨
      ∃ c c', Client.create k config = .ok c ∧ Client.create k' config = .ok c' ∧
        c.description = c'.description ∧
        ∀ (operations : List Operation) (w : World), FitsAlike c c' operations (.start w) →
          let run := (start w).run c operations
          let run' := (start w).run c' operations
          run.1 = run'.1 ∧ run.2.world.log = run'.2.world.log ∧
          run.2.world.slept = run'.2.world.slept ∧
          run.2.world.holds = run'.2.world.holds ∧
          run.2.world.sent.length = run'.2.world.sent.length ∧
          List.Forall₂ (Message.Twins c c') run.2.world.sent run'.2.world.sent) := by
  refine ⟨h.description_eq, ?_⟩
  obtain hrefused | ⟨hc, hc'⟩ := Client.create_twins h config
  · exact .inl hrefused
  · have htwins : Client.Twins ⟨k, config⟩ ⟨k', config⟩ := ⟨h, rfl⟩
    refine .inr ⟨_, _, hc, hc', htwins.description_eq, fun operations w hfits => ?_⟩
    obtain ⟨hreports, hend⟩ := run_twins htwins operations (.start _ _ w) hfits
    exact ⟨hreports, hend.worlds.log_eq, hend.worlds.slept_eq, hend.worlds.holds_eq,
      hend.worlds.sent.length_eq, hend.worlds.sent⟩

/-- A caller who asks about the token, and goes through a search for tags. -/
def lookAround : List Operation :=
  [.inquire .debugToken, .begin "tags" (.tags "x") none, .next "tags", .next "tags", .showClient,
    .collect "tags"]

/-- The secrets of two clients, whose tokens are of the same length, stay hidden from a caller who
looks around. -/
theorem hidden_from_looking_around :
    Credentials.Twins ⟨"one", some "7", none⟩ ⟨"two", some "7", none⟩ ∧
      ((start ⟨["https"], [Client.busy], fun _ => .ok [], []⟩).run
          ⟨⟨"one", some "7", none⟩, .standard⟩ lookAround).1 =
        ((start ⟨["https"], [Client.busy], fun _ => .ok [], []⟩).run
          ⟨⟨"two", some "7", none⟩, .standard⟩ lookAround).1 := by
  have htwins : Credentials.Twins ⟨"one", some "7", none⟩ ⟨"two", some "7", none⟩ :=
    ⟨rfl, rfl, by decide, by decide⟩
  refine ⟨htwins, ?_⟩
  obtain ⟨failure, hc, _⟩ | ⟨c, c', hc, hc', _, hrun⟩ :=
    (secrets_stay_hidden htwins .standard).2
  · cases hc
  · cases hc
    cases hc'
    have hboth : Client.Twins ⟨⟨"one", some "7", none⟩, .standard⟩
        ⟨⟨"two", some "7", none⟩, .standard⟩ := ⟨htwins, rfl⟩
    have hsize : Form.size "one" = Form.size "two" := by decide
    have hfits := fitsAlike_of_size hboth hsize lookAround
      (start ⟨["https"], [Client.busy], fun _ => .ok [], []⟩)
    exact (hrun lookAround _ hfits).1

/-! ## Where a secret shows

The assumption about the length of URLs cannot be dropped.  A token of any length is accepted, and
one that makes the URL too long is seen from outside by the failure. -/

/-- A token of some letters is not blank, however many they are. -/
theorem isBlankText_replicate {n : Nat} (h : 0 < n) :
    isBlankText (String.ofList (List.replicate n 'a')) = false := by
  have hblank : isBlank 'a' = false := by decide
  have hstart : (List.replicate n 'a').dropWhile isBlank = List.replicate n 'a' := by
    rw [← Nat.sub_add_cancel h, List.replicate_succ, List.dropWhile_cons_of_neg (by simp [hblank])]
  rw [isBlankText, String.toList_ofList, trim, trimStart, hstart, dropEndWhile,
    List.reverse_replicate, hstart, List.reverse_replicate, List.isEmpty_eq_false_iff]
  simpa using Nat.ne_of_gt h

/-- A patient client, but for a token of some length. -/
def talkative (n : Nat) : Client :=
  ⟨⟨String.ofList (List.replicate n 'a'), none, none⟩, Client.patient.config⟩

/-- A world in which no request is foreseen. -/
def vacant : World := ⟨["http"], [], fun _ => .ok [], []⟩

/-- What a caller sees who asks what is at an endpoint, and the messages that are sent. -/
def glance (c : Client) : List Report × List Message :=
  let run := (start vacant).run c [.inquire (.execute { endpoint := "p" })]
  (run.1, run.2.world.sent)

/-- A glance is one execution. -/
theorem glance_eq (c : Client) : glance c =
    ([.answer (c.execute { endpoint := "p" } vacant).1],
      (c.execute { endpoint := "p" } vacant).2.sent) := rfl

/-- With a short token the question is sent and answered. -/
theorem glance_patient : ∃ message,
    glance Client.patient = ([.answer Outcome.unforeseen.reading], [message]) := by
  have hlocate : (Client.locate? (Client.patient.resolve "p")
      (Client.patient.queryPairs { endpoint := "p" })).map Url.scheme = some "http" := by
    decide +kernel
  obtain ⟨url, hurl, hscheme⟩ := Option.map_eq_some_iff.1 hlocate
  have hmessage : Client.patient.prepare { endpoint := "p" }
      = .ok ⟨"GET", url, Client.patient.config.userAgent, .empty⟩ :=
    Client.prepare_eq_ok_iff.2 ⟨url, hurl, rfl⟩
  have hretries : Client.patient.retriesIn vacant = 0 := by decide +kernel
  have hcarries : vacant.carries.contains url.scheme = true := by simp [vacant, hscheme]
  have hexecute := Client.execute_of_prepared hmessage hcarries
  rw [hretries] at hexecute
  refine ⟨⟨"GET", url, Client.patient.config.userAgent, .empty⟩, ?_⟩
  rw [glance_eq, hexecute, World.sent_advance, Client.sentIn_transcript]
  rfl

/-- With a token that is too long nothing is sent, and the failure says so. -/
theorem glance_talkative {n : Nat} (h : Url.greatestLength < n) :
    glance (talkative n) = ([.answer (α := Json) (.error (.transport ⟨.request, none⟩))], []) := by
  have hlong : Url.greatestLength < Form.size (talkative n).credentials.accessToken := by
    rw [talkative, Form.size_replicate]
    exact h
  have hrefused := Client.prepare_of_long_token hlong { endpoint := "p" }
  have hexecute := Client.execute_of_refused hrefused rfl vacant
  rw [glance_eq, hexecute, World.sent_advance]
  rfl

/-- The length of a token shows: with one that is too long a question fails which with a short one
is sent. -/
theorem long_token_shows :
    Client.patient.credentials.Twins (talkative 65535).credentials ∧
      Client.create Client.patient.credentials Client.patient.config = .ok Client.patient ∧
      Client.create (talkative 65535).credentials Client.patient.config = .ok (talkative 65535) ∧
      (glance Client.patient).1 ≠ (glance (talkative 65535)).1 ∧
      (glance Client.patient).2.length = 1 ∧ (glance (talkative 65535)).2.length = 0 := by
  have htwins {n : Nat} (hn : 0 < n) : Client.patient.credentials.Twins (talkative n).credentials :=
    ⟨rfl, rfl, by decide, isBlankText_replicate hn⟩
  have hboth := htwins (n := 65535) (by decide)
  obtain ⟨message, hpatient⟩ := glance_patient
  have htalkative := glance_talkative (n := 65535) (by decide)
  refine ⟨hboth, ?_, ?_, ?_, ?_, ?_⟩
  · rfl
  · obtain ⟨failure, hrefused, _⟩ | ⟨_, hcreate⟩ := Client.create_twins hboth Client.patient.config
    · cases hrefused
    · exact hcreate
  · rw [hpatient, htalkative, World.reading_unforeseen]
    intro heq
    cases heq
  · rw [hpatient]
    rfl
  · rw [htalkative]
    rfl

end Session

end ThreatGraph
