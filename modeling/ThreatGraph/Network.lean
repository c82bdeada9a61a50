import ThreatGraph.Failure
import ThreatGraph.Text.Blank
import ThreatGraph.Text.Utf8
import ThreatGraph.Url

/-!
# The network

Everything outside of a client: the service that answers, the files, and the passing of time. The
answers of the service are a script, and what the client does is kept in a journal.

* `World.exchange` sends a request and takes the next answer. An exchange is one request as a client
  makes it: where the service redirects, the layer below follows inside of the exchange, and the
  answer is the last one.
* `World.sleep` lets some seconds pass, `World.hold` waits for a throttle, and `World.note` makes an
  entry in the log.

A request whose scheme the network does not carry fails before it is sent: it leaves no trace and
takes no answer from the script.
-/

set_option autoImplicit false

namespace ThreatGraph

/-- A part of a body of several parts. -/
structure Part where
  head : String
  content : List UInt8
  deriving DecidableEq, Repr, Inhabited

/-- The body of a request. -/
inductive Payload where
  | empty
  | form (text : String)
  | parts (parts : List Part)
  deriving DecidableEq, Repr, Inhabited

/-- A request as it is sent. -/
structure Message where
  method : String
  url : Url
  userAgent : String
  payload : Payload
  deriving DecidableEq, Repr, Inhabited

/-- An answer of the service. The body may end early. -/
structure Answer where
  status : Nat
  headers : List (String × String)
  body : List UInt8
  isCut : Bool
  deriving DecidableEq, Repr, Inhabited

/-- What comes of a request that is sent. -/
inductive Outcome where
  | answered (answer : Answer)
  | dropped
  | timedOut
  deriving DecidableEq, Repr, Inhabited

/-- How important an entry of the log is. -/
inductive Level where
  | error
  | warn
  | info
  | debug
  | trace
  deriving DecidableEq, Repr, Inhabited

/-- The word of a level. -/
def Level.text : Level → String
  | .error => "ERROR"
  | .warn => "WARN"
  | .info => "INFO"
  | .debug => "DEBUG"
  | .trace => "TRACE"

/-- The part of the program that makes an entry in the log. -/
inductive Origin where
  | client
  | upload
  | pager
  | runner
  deriving DecidableEq, Repr, Inhabited

/-- The name of a part of the program in the log. -/
def Origin.target : Origin → String
  | .client => "threatexchange_client::http::client"
  | .upload => "threatexchange_client::http::upload"
  | .pager => "threatexchange_client::pagination::paginator"
  | .runner => "threatexchange_client::cli::runner"

/-- An entry of the log. -/
structure Note where
  level : Level
  origin : Origin
  text : String
  deriving DecidableEq, Repr, Inhabited

/-- Something that happens while a client works. -/
inductive Event where
  | sent (message : Message)
  | slept (seconds : Nat)
  /-- The client waits until its throttle lets a request through. How long that is depends on what
  the throttle has let through before. -/
  | held
  | noted (note : Note)
  deriving DecidableEq, Repr, Inhabited

/-- Everything outside of a client. -/
structure World where
  /-- The schemes of URLs that the network carries. -/
  carries : List String
  /-- What comes of the requests to be sent, in order. -/
  script : List Outcome
  /-- What is in a file, or the reason why it cannot be read. -/
  files : String → Except String (List UInt8)
  /-- What has happened, in order. -/
  journal : List Event

/-- What comes of a request that the script does not foresee. -/
def Outcome.unforeseen : Outcome :=
  .answered ⟨500, [], utf8Bytes "script exhausted".toList, false⟩

namespace Answer

/-- A character that a readable header may hold. -/
def isVisible (c : Char) : Bool := c == '\t' || (' ' ≤ c && c ≤ '~')

/-- The text of the first header of a name, without blanks around it, if it can be read. -/
def header? (name : String) (a : Answer) : Option String :=
  match a.headers.find? fun header => header.1.toLower = name.toLower with
  | none => none
  | some (_, value) =>
    let isBlankChar := fun c => c == ' ' || c == '\t'
    let chars := dropEndWhile isBlankChar (value.toList.dropWhile isBlankChar)
    if chars.all isVisible then some (String.ofList chars) else none

/-- The body as text. -/
def text (a : Answer) : String := String.ofList (decodeLossy a.body)

end Answer

namespace World

/-- Adds to the journal. -/
def record (e : Event) (w : World) : World := { w with journal := w.journal ++ [e] }

/-- Makes an entry in the log. -/
def note (level : Level) (origin : Origin) (text : String) (w : World) : World :=
  w.record (.noted ⟨level, origin, text⟩)

/-- Lets some seconds pass. -/
def sleep (seconds : Nat) (w : World) : World := w.record (.slept seconds)

/-- Waits until a throttle lets a request through. -/
def hold (w : World) : World := w.record .held

/-- What comes of an exchange, for the one who sent the request. -/
def receive : Outcome → Except TransportFault Answer
  | .dropped => .error (.connection false)
  | .timedOut => .error (.connection true)
  | .answered answer => if answer.isCut then .error .body else .ok answer

/-- What comes of an exchange for a URL. An error names the URL. -/
def receiveFrom (url : Url) (outcome : Outcome) : Except TransportError Answer :=
  (receive outcome).mapError fun fault => ⟨fault, some url⟩

/-- An answer that is received does not depend on the URL that it comes from. -/
theorem receiveFrom_eq_ok_iff {url : Url} {outcome : Outcome} {answer : Answer} :
    receiveFrom url outcome = .ok answer ↔ receive outcome = .ok answer := by
  rw [receiveFrom]
  cases receive outcome with
  | error fault =>
    constructor
    · intro h
      cases h
    · intro h
      cases h
  | ok other =>
    show Except.ok other = Except.ok answer ↔ _
    rw [Except.ok.injEq, Except.ok.injEq]

/-- Sends a request and receives what comes of it. -/
def exchange (message : Message) (w : World) : Except TransportError Answer × World :=
  if w.carries.contains message.url.scheme then
    match w.script with
    | [] => (receiveFrom message.url .unforeseen, w.record (.sent message))
    | outcome :: script =>
      (receiveFrom message.url outcome, { w.record (.sent message) with script := script })
  else (receiveFrom message.url .dropped, w)

/-- The requests that were sent. -/
def sent (w : World) : List Message :=
  w.journal.filterMap fun
    | .sent message => some message
    | _ => none

/-- The times that were slept. Waits for a throttle are not among them. -/
def slept (w : World) : List Nat :=
  w.journal.filterMap fun
    | .slept seconds => some seconds
    | _ => none

/-- How many times the client waited for its throttle. -/
def holds (w : World) : Nat := w.journal.count .held

/-- The log. -/
def log (w : World) : List Note :=
  w.journal.filterMap fun
    | .noted note => some note
    | _ => none

end World

/-- A call of the service: what it gives, and the world that it leaves. -/
abbrev Call (α : Type) := World → Except Failure α × World

/-- A call whose result is put in another form. -/
def Call.map {α β : Type} (f : α → β) (call : Call α) : Call β := fun w =>
  ((call w).1.map f, (call w).2)

end ThreatGraph
