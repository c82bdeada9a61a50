import ThreatGraph.Proofs.Client.Execution
import ThreatGraph.Proofs.Params.Union
import ThreatGraph.Proofs.Upload.Making
import ThreatGraph.Proofs.Upload.Parts

/-!
# Sending an upload

An upload is sent once or not at all.

* `Client.upload_of_unloadable` and `Client.upload_of_loaded` are the two ways that an upload goes.
  Without its content it fails and leaves the world as it is.  With it, one message is sent and the
  next outcome is read, and that is all.
* `Upload.read?_parts` is what the parts of the message say: the fields with the token among them,
  and the file.
* `Client.upload_once` puts it together for an upload that is made by any choices.
-/

set_option autoImplicit false

namespace ThreatGraph

namespace Upload

/-! ## The parts

What a form says is told by reading its parts.  The choices of the caller are a list, in which a
later choice takes the place of an earlier one with the same aim, and what the parts say is compared
with that list and not with the record that is built of it. -/

/-- A field of a form says its key and its value. -/
def fieldEntry (pair : String × String) : FormEntry := ⟨pair.1, none, utf8Bytes pair.2.toList⟩

/-- The parts of an upload are those of its fields, with the token, and of the file. -/
theorem read?_parts (token : String) (content : List UInt8) (u : Upload) :
    (u.parts token content).mapM FormEntry.read? =
      some ((u.fields.insertText Client.tokenParam token).pairs.map fieldEntry ++
        [⟨fileField, u.name?, content⟩]) := by
  have hparts : u.parts token content =
      ((u.fields.insertText Client.tokenParam token).pairs.map fieldEntry ++
        [(⟨fileField, u.name?, content⟩ : FormEntry)]).map FormEntry.part := by
    rw [List.map_append, List.map_map]
    rfl
  rw [hparts]
  exact mapM_map_of_forall fun entry _ => FormEntry.read?_part entry

/-- The values of a key that some choices give an upload. -/
def chosenValues (key : String) (settings : List Setting) : List String :=
  ((chosen? (Setting.value? key) settings).map ParamValue.toList).getD []

/-- The parts of a form are those that some choices ask for: fields in the order of their keys, the
token once and in place of any other, and at last the file. -/
structure Spells (settings : List Setting) (token : String) (content : List UInt8)
    (parts : List Part) (pairs : List (String × String)) (fileName : Option String) : Prop where
  entries : parts.mapM FormEntry.read? =
    some (pairs.map fieldEntry ++ [⟨fileField, fileName, content⟩])
  order : Params.InByteOrder pairs
  token_once : Params.valuesIn Client.tokenParam pairs = [token]
  values : ∀ key, key ≠ Client.tokenParam → Params.valuesIn key pairs = chosenValues key settings
  named : ∀ name, fileName = some name ↔ chosen? Setting.fileName? settings = some name ∨
    chosen? Setting.fileName? settings = none ∧
      ∃ path, chosen? Setting.path? settings = some path ∧ IsLastName path name

/-- The name of an upload is the one that is chosen, or else that of the path. -/
theorem name?_build_eq_some_iff {settings : List Setting} {name : String} :
    (build settings).name? = some name ↔ chosen? Setting.fileName? settings = some name ∨
      chosen? Setting.fileName? settings = none ∧
        ∃ path, chosen? Setting.path? settings = some path ∧ IsLastName path name := by
  rw [name?, fileName_build, path_build]
  cases chosen? Setting.fileName? settings with
  | some chosen => simp
  | none => simp [Option.bind_eq_some_iff, lastName?_eq_some_iff]

/-- **The parts of an upload.**  They are what its choices ask for. -/
theorem spells_parts (settings : List Setting) (token : String) (content : List UInt8) :
    Spells settings token content ((build settings).parts token content)
      ((build settings).fields.insertText Client.tokenParam token).pairs
      (build settings).name? where
  entries := read?_parts token content _
  order := Params.inByteOrder_pairs _
  token_once := by rw [Params.valuesIn_pairs, Params.values_insertText, if_pos rfl]
  values key hkey := by
    rw [Params.valuesIn_pairs, Params.values_insertText, if_neg hkey, Params.values,
      get?_fields_build, chosenValues]
  named _ := name?_build_eq_some_iff

/-! ## The content

An upload has a path or a content.  With both or neither it is not clear what is meant, so it is
refused before anything is read or sent. -/

/-- The content that some choices give an upload, where they choose one source that can be read. -/
def Gives (settings : List Setting) (w : World) (content : List UInt8) : Prop :=
  (chosen? Setting.path? settings = none ∧ chosen? Setting.content? settings = some content) ∨
    ∃ path, chosen? Setting.path? settings = some path ∧
      chosen? Setting.content? settings = none ∧ w.files path = .ok content

/-- The content is the one that is chosen, or that of the file. -/
theorem load_of_gives {settings : List Setting} {w : World} {content : List UInt8}
    (h : Gives settings w content) : (build settings).load w = .ok content := by
  rw [load, path_build, content_build]
  rcases h with ⟨hpath, hcontent⟩ | ⟨path, hpath, hcontent, hread⟩
  · rw [hpath, hcontent]
  · simp only [hpath, hcontent, hread]
    rfl

/-- No source is not enough, and two are too many. -/
theorem load_of_isSome_eq {settings : List Setting} (w : World)
    (h : (chosen? Setting.path? settings).isSome = (chosen? Setting.content? settings).isSome) :
    ∃ message, (build settings).load w = .error (.generic message none none) := by
  rw [load, path_build, content_build]
  cases hpath : chosen? Setting.path? settings with
  | none =>
    cases hcontent : chosen? Setting.content? settings with
    | none => exact ⟨_, rfl⟩
    | some content => simp [hpath, hcontent] at h
  | some path =>
    cases hcontent : chosen? Setting.content? settings with
    | none => simp [hpath, hcontent] at h
    | some content => exact ⟨_, rfl⟩

/-- A file that cannot be read is the failure of the upload. -/
theorem load_of_unreadable {settings : List Setting} {w : World} {path fault : String}
    (hpath : chosen? Setting.path? settings = some path)
    (hcontent : chosen? Setting.content? settings = none) (hread : w.files path = .error fault) :
    (build settings).load w = .error (.io fault) := by
  rw [load, path_build, content_build]
  simp only [hpath, hcontent, hread]
  rfl

end Upload

/-! ## The two ways of an upload

The content is loaded first, and everything else follows from what comes of it.  There is no loop as
for other requests, so the whole of an upload is a list of events that has at most one message in
it. -/

namespace Client

variable {c : Client} {endpoint : String} {u : Upload} {w : World}

/-- The entry of the log before an upload is sent. -/
def uploadNote (c : Client) (endpoint : String) : Event :=
  .noted ⟨.debug, .upload, "POST " ++ c.resolve endpoint ++ " (multipart)"⟩

/-- An upload whose content is not to be had fails, and nothing happens. -/
theorem upload_of_unloadable {failure : Failure} (h : u.load w = .error failure) :
    c.upload endpoint u w = (.error failure, w) := by
  rw [upload, h]

/-- What an upload adds to the journal: the wait for the throttle, if the client has one, the entry
of the log and the message. -/
def uploadEvents (c : Client) (endpoint : String) (message : Message) : List Event :=
  c.holdEvents ++ [c.uploadNote endpoint, .sent message]

theorem sentIn_uploadEvents (c : Client) (endpoint : String) (message : Message) :
    Event.sentIn (c.uploadEvents endpoint message) = [message] := by
  rw [uploadEvents, holdEvents]
  split <;> rfl

theorem sleptIn_uploadEvents (c : Client) (endpoint : String) (message : Message) :
    Event.sleptIn (c.uploadEvents endpoint message) = [] := by
  rw [uploadEvents, holdEvents]
  split <;> rfl

theorem holdsIn_uploadEvents (c : Client) (endpoint : String) (message : Message) :
    Event.holdsIn (c.uploadEvents endpoint message)
      = if c.config.throttle.isSome then 1 else 0 := by
  rw [uploadEvents, holdEvents]
  split <;> rfl

/-- An upload whose content is there is sent once, and the next outcome is what it gives. -/
theorem upload_of_loaded {content : List UInt8} {url : Url} (h : u.load w = .ok content)
    (hurl : locate? (c.resolve endpoint) [] = some url)
    (hcarries : w.carries.contains url.scheme = true) :
    c.upload endpoint u w = ((w.outcome 0).reading,
      w.advance (c.uploadEvents endpoint ⟨"POST", url, c.config.userAgent,
        .parts (u.parts c.credentials.accessToken content)⟩) (w.script.drop 1)) := by
  have hopening :
      (c.acquire w).note .debug .upload ("POST " ++ c.resolve endpoint ++ " (multipart)") =
        w.advance (c.holdEvents ++ [c.uploadNote endpoint]) w.script := by
    rw [acquire_eq_advance, World.note_eq_advance, World.advance_advance]
    rfl
  have hupload : c.upload endpoint u w =
      deliver ⟨"POST", url, c.config.userAgent, .parts (u.parts c.credentials.accessToken content)⟩
        (w.advance (c.holdEvents ++ [c.uploadNote endpoint]) w.script) := by
    rw [← hopening, upload, h]
    dsimp only
    rw [hurl]
    rfl
  rw [hupload, deliver_of_carried (by exact hcarries), World.advance_advance,
    World.outcome_advance, World.advance_script, List.append_assoc]
  rfl

/-- **An upload, sent once or not at all.**  Let an upload be made by any choices, and let a request
for its endpoint be one that can be sent.
* If it has no source of its content or two of them, or if its path cannot be read, it fails.  The
  world is as it was before, so nothing was sent, and nothing was waited for.
* Otherwise one message is sent, and the client does not sleep: there is no second attempt to wait
  for.  The next outcome is read, and the result is what it says, whatever that is.  A rate limit
  comes with the wait that the service asks for.
* The wait for the throttle is another one: a client that has a throttle is held once, before the
  message, and a client without one never.
* The parts of the message are the fields, with the token once and in place of any other, and the
  file with its content as it is. -/
theorem upload_once (c : Client) (endpoint : String) (settings : List Upload.Setting) (w : World)
    (url : Url) (hurl : locate? (c.resolve endpoint) [] = some url)
    (hcarries : w.carries.contains url.scheme = true) :
    ((Upload.chosen? Upload.Setting.path? settings).isSome =
        (Upload.chosen? Upload.Setting.content? settings).isSome →
      ∃ message, c.upload endpoint (.build settings) w =
        (.error (.generic message none none), w)) ∧
    (∀ path fault, Upload.chosen? Upload.Setting.path? settings = some path →
      Upload.chosen? Upload.Setting.content? settings = none → w.files path = .error fault →
        c.upload endpoint (.build settings) w = (.error (.io fault), w)) ∧
    ∀ content, Upload.Gives settings w content → ∃ parts pairs fileName w',
      c.upload endpoint (.build settings) w = ((w.outcome 0).reading, w') ∧
      w'.sent = w.sent ++ [⟨"POST", url, c.config.userAgent, .parts parts⟩] ∧
      w'.slept = w.slept ∧ w'.script = w.script.drop 1 ∧
      w'.holds = w.holds + (if c.config.throttle.isSome then 1 else 0) ∧
      (∀ message code seconds, (w.outcome 0).reading = .error (.rateLimit message code seconds) →
        seconds = (w.outcome 0).retryAfter) ∧
      Upload.Spells settings c.credentials.accessToken content parts pairs fileName := by
  refine ⟨fun h => ?_, fun path fault hpath hcontent hread => ?_, fun content hgives => ?_⟩
  · obtain ⟨message, hload⟩ := Upload.load_of_isSome_eq w h
    exact ⟨message, upload_of_unloadable hload⟩
  · exact upload_of_unloadable (Upload.load_of_unreadable hpath hcontent hread)
  · refine ⟨_, _, _, _, upload_of_loaded (Upload.load_of_gives hgives) hurl hcarries, ?_, ?_, rfl,
      ?_, fun _ _ _ => Outcome.seconds_of_reading, Upload.spells_parts settings _ content⟩
    · rw [World.sent_advance, sentIn_uploadEvents]
    · rw [World.slept_advance, sleptIn_uploadEvents, List.append_nil]
    · rw [World.holds_advance, holdsIn_uploadEvents]

/-- A file to upload, with a field that has two values and one that has the key of the token. -/
def submission : List Upload.Setting :=
  [.field "tags" (.multi ["x", "y"]), .path "d/a b.txt/.", .field "access_token" (.single "evil")]

/-- A client that would send a request again uploads to a busy service once, and is held once by
its throttle. -/
theorem upload_once_to_busy : ∃ message code parts pairs w' sent,
    steady.upload "p" (.build submission) ⟨["http"], [busy, busy], fun _ => .ok [7], []⟩ =
        (.error (.rateLimit message code 2), w') ∧
      w'.sent = [sent] ∧ w'.slept = [] ∧ w'.holds = 1 ∧ sent.payload = .parts parts ∧
      Upload.Spells submission "t" [7] parts pairs (some "a b.txt") := by
  have hlocate : (locate? (steady.resolve "p") []).map Url.scheme = some "http" := by
    decide +kernel
  obtain ⟨url, hurl, hscheme⟩ := Option.map_eq_some_iff.1 hlocate
  obtain ⟨message, code, seconds, hreading⟩ :=
    Outcome.isLimit_iff.1 (show busy.isLimit = true by decide +kernel)
  have hafter : busy.retryAfter = 2 := by decide +kernel
  have hgives : Upload.Gives submission ⟨["http"], [busy, busy], fun _ => .ok [7], []⟩ [7] :=
    .inr ⟨"d/a b.txt/.", rfl, rfl, rfl⟩
  obtain ⟨-, -, honce⟩ := upload_once steady "p" submission
    ⟨["http"], [busy, busy], fun _ => .ok [7], []⟩ url hurl (by simp [hscheme])
  obtain ⟨parts, pairs, fileName, w', hresult, hsent, hslept, -, hholds, hseconds, hspells⟩ :=
    honce [7] hgives
  obtain rfl : seconds = 2 := (hseconds message code seconds hreading).trans hafter
  obtain rfl : fileName = some "a b.txt" := (hspells.named _).2 (.inr ⟨rfl, "d/a b.txt/.", rfl,
    Upload.lastName?_eq_some_iff.1 (by decide +kernel)⟩)
  exact ⟨message, code, parts, pairs, w', _, hresult.trans (Prod.ext hreading rfl), hsent, hslept,
    hholds, rfl, hspells⟩

end Client

end ThreatGraph
